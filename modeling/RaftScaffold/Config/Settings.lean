import RaftScaffold.Config.Basic

set_option autoImplicit false

/-! # The numeric settings on their way to Raft

Ten numbers of the schema go through two conversions. Which schemas keep all of them
(`settingsKept_iff`): the timeouts are narrowed to sixteen bits without a check, the discovery timeout is made
from the field of the other timeout, and the payload limit is not passed on, so that Raft has its default. -/

namespace RaftScaffold

open Layers

variable {ν : Type}

/-! ## What the conversions do -/

theorem Duration.seconds_eq_ok {secs : Int64} {d : Duration} (h : Duration.seconds secs = .ok d) :
    d.nanos = secs.toInt * 1000000000 := by
  unfold Duration.seconds at h
  split at h
  · cases h
  · rw [← Except.ok.inj h]

/-- A number survives the cast to a `u16` exactly when it is one. -/
theorem toNat_ofInt_u16 (n : Int) : ((UInt16.ofInt n).toNat : Int) = n ↔ 0 ≤ n ∧ n < 65536 := by
  rw [UInt16.ofInt, UInt16.toNat_ofNat']
  omega

/-- The configuration that a schema yields, if the address and the two timeouts are accepted. -/
theorem Configuration.ofSchema_eq_ok {crates : Crates ν} {schema : ConfigSchema} {c : Configuration}
    (h : Configuration.ofSchema crates schema = .ok c) :
    ∃ discoveryHost timeout, crates.parseSocketAddr schema.discoveryHostAddress = .ok discoveryHost ∧
      Duration.seconds schema.maxRaftInitTimeout = .ok timeout ∧
      c =
        { host := ""
          discoveryHost
          joinStrategy := schema.joinStrategy
          ringReplicas := schema.ringReplicas
          seedNodes := Configuration.collectSeedNodes schema.nodes
          maxDiscoveryTimeout := timeout
          maxRaftInitTimeout := timeout
          electionTimeoutMin := Duration.milliseconds schema.electionTimeoutMin.toInt
          electionTimeoutMax := Duration.milliseconds schema.electionTimeoutMax.toInt
          heartbeatInterval := Duration.milliseconds schema.heartbeatInterval.toInt
          maxPayloadEntries := schema.maxPayloadEntries
          metricsRate := Duration.milliseconds schema.metricsRate.toInt
          snapshotPolicy := crates.defaultSnapshotPolicy
          snapshotDir := schema.snapshotDir
          snapshotMaxChunkSize := schema.snapshotMaxChunkSize } := by
  obtain ⟨discoveryHost, hdiscovery, h⟩ := bind_eq_ok.1 h
  obtain ⟨timeout, htimeout, h⟩ := bind_eq_ok.1 h
  obtain ⟨timeout', htimeout', h⟩ := bind_eq_ok.1 h
  obtain rfl : timeout = timeout' := Except.ok.inj (htimeout.symm.trans htimeout')
  exact ⟨discoveryHost, timeout, expectOk_eq_ok.1 hdiscovery, htimeout, (Except.ok.inj h).symm⟩

/-- What Raft stores of a configuration that it accepts. -/
theorem Configuration.intoRaftConfig_eq_ok {crates : Crates ν} {defaults : RaftConfig}
    (hstores : crates.StoresGiven defaults) {c : Configuration} {raftConfig : RaftConfig}
    (h : c.intoRaftConfig crates = .ok raftConfig) :
    ∃ metricsRate, c.metricsRate.toStd = .ok metricsRate ∧
      raftConfig =
        { electionTimeoutMin := UInt16.ofInt c.electionTimeoutMin.numMilliseconds
          electionTimeoutMax := UInt16.ofInt c.electionTimeoutMax.numMilliseconds
          heartbeatInterval := UInt16.ofInt c.heartbeatInterval.numMilliseconds
          maxPayloadEntries := defaults.maxPayloadEntries
          metricsRate
          snapshotDir := c.snapshotDir
          snapshotPolicy := c.snapshotPolicy
          snapshotMaxChunkSize := c.snapshotMaxChunkSize } := by
  obtain ⟨builder, hbuilder, hvalidate⟩ := bind_eq_ok.1 h
  obtain ⟨metricsRate, hrate, hbuilder⟩ := bind_eq_ok.1 hbuilder
  refine ⟨metricsRate, expectOk_eq_ok.1 hrate, ?_⟩
  rw [hstores builder raftConfig (expectOk_eq_ok.1 hvalidate), ← Except.ok.inj hbuilder]
  rfl

/-! ## The settings that are kept -/

/-- Every numeric setting of the schema has its value in the configuration or in Raft's configuration. -/
structure SettingsKept (schema : ConfigSchema) (c : Configuration) (raftConfig : RaftConfig) : Prop where
  maxDiscoveryTimeout : c.maxDiscoveryTimeout.nanos = schema.maxDiscoveryTimeout.toInt * 1000000000
  maxRaftInitTimeout : c.maxRaftInitTimeout.nanos = schema.maxRaftInitTimeout.toInt * 1000000000
  electionTimeoutMin : (raftConfig.electionTimeoutMin.toNat : Int) = schema.electionTimeoutMin.toInt
  electionTimeoutMax : (raftConfig.electionTimeoutMax.toNat : Int) = schema.electionTimeoutMax.toInt
  heartbeatInterval : (raftConfig.heartbeatInterval.toNat : Int) = schema.heartbeatInterval.toInt
  metricsRate : (raftConfig.metricsRate.nanos : Int) = schema.metricsRate.toInt * 1000000
  maxPayloadEntries : raftConfig.maxPayloadEntries = schema.maxPayloadEntries
  snapshotMaxChunkSize : raftConfig.snapshotMaxChunkSize = schema.snapshotMaxChunkSize

/-- A number of milliseconds that a `u16` can hold. -/
def FitsU16 (millis : Int64) : Prop := 0 ≤ millis.toInt ∧ millis.toInt < 65536

instance (millis : Int64) : Decidable (FitsU16 millis) := inferInstanceAs (Decidable (_ ∧ _))

/-- The schemas whose settings are kept. -/
structure SettingsFit (defaults : RaftConfig) (schema : ConfigSchema) : Prop where
  timeouts : schema.maxDiscoveryTimeout = schema.maxRaftInitTimeout
  electionTimeoutMin : FitsU16 schema.electionTimeoutMin
  electionTimeoutMax : FitsU16 schema.electionTimeoutMax
  heartbeatInterval : FitsU16 schema.heartbeatInterval
  maxPayloadEntries : schema.maxPayloadEntries = defaults.maxPayloadEntries

/-- **Which settings reach Raft.** Where both conversions complete, the settings are kept exactly when the two
    timeouts in seconds are equal, those in milliseconds fit a `u16`, and the payload limit is Raft's default. -/
theorem settingsKept_iff (crates : Crates ν) (defaults : RaftConfig)
    (hstores : crates.StoresGiven defaults) (schema : ConfigSchema) (c : Configuration)
    (raftConfig : RaftConfig) (hconfig : Configuration.ofSchema crates schema = .ok c)
    (hraft : c.intoRaftConfig crates = .ok raftConfig) :
    SettingsKept schema c raftConfig ↔ SettingsFit defaults schema := by
  obtain ⟨discoveryHost, timeout, -, htimeout, rfl⟩ := Configuration.ofSchema_eq_ok hconfig
  obtain ⟨metricsRate, hrate, rfl⟩ := Configuration.intoRaftConfig_eq_ok hstores hraft
  have hseconds := Duration.seconds_eq_ok htimeout
  have hmillis := (Duration.toStd_eq_ok.1 hrate).2
  simp only [Duration.numMilliseconds_milliseconds] at *
  constructor
  · intro hkept
    -- the discovery timeout has the value of the other one
    have htimeouts : schema.maxDiscoveryTimeout.toInt = schema.maxRaftInitTimeout.toInt := by
      have hdiscovery := hkept.maxDiscoveryTimeout
      simp only [hseconds] at hdiscovery
      omega
    exact
      { timeouts := Int64.toInt_inj.1 htimeouts
        electionTimeoutMin := (toNat_ofInt_u16 _).1 hkept.electionTimeoutMin
        electionTimeoutMax := (toNat_ofInt_u16 _).1 hkept.electionTimeoutMax
        heartbeatInterval := (toNat_ofInt_u16 _).1 hkept.heartbeatInterval
        maxPayloadEntries := hkept.maxPayloadEntries.symm }
  · intro hfit
    exact
      { maxDiscoveryTimeout := by rw [hfit.timeouts]; exact hseconds
        maxRaftInitTimeout := hseconds
        electionTimeoutMin := (toNat_ofInt_u16 _).2 hfit.electionTimeoutMin
        electionTimeoutMax := (toNat_ofInt_u16 _).2 hfit.electionTimeoutMax
        heartbeatInterval := (toNat_ofInt_u16 _).2 hfit.heartbeatInterval
        metricsRate := hmillis
        maxPayloadEntries := hfit.maxPayloadEntries.symm
        snapshotMaxChunkSize := rfl }

open RaftScaffold.Configuration in
/-- The settings of `config/reference.toml` are kept. -/
theorem settingsKept_reference :
    SettingsKept (sampleSchema []) (sampleConfiguration [])
      { sampleDefaults with snapshotDir := "/data/snapshots/" } :=
  (settingsKept_iff (sampleCrates (sampleSchema [])) sampleDefaults (sampleCrates_storesGiven _)
      (sampleSchema []) (sampleConfiguration []) _ (ofSchema_sampleSchema []) rfl).2
    { timeouts := rfl
      electionTimeoutMin := by decide
      electionTimeoutMax := by decide
      heartbeatInterval := by decide
      maxPayloadEntries := rfl }

open RaftScaffold.Configuration in
/-- With one minute for the initialization of Raft, the five seconds for the discovery are lost. -/
theorem settingsKept_fails :
    ∃ (crates : Crates Int64) (schema : ConfigSchema) (c : Configuration) (raftConfig : RaftConfig),
      crates.StoresGiven sampleDefaults ∧ Configuration.ofSchema crates schema = .ok c ∧
        c.intoRaftConfig crates = .ok raftConfig ∧ ¬ SettingsKept schema c raftConfig := by
  let schema := { sampleSchema [] with maxRaftInitTimeout := 60 }
  let timeout : Duration := ⟨60000000000⟩
  have hconfig : ofSchema (sampleCrates schema) schema = .ok
      { sampleConfiguration [] with maxDiscoveryTimeout := timeout, maxRaftInitTimeout := timeout } := by
    have hseconds : Duration.seconds 60 = .ok timeout := rfl
    simp only [schema, ofSchema, sampleCrates, sampleSchema, expectOk, hseconds, bind, Except.bind]
    congr 1
  refine ⟨sampleCrates schema, schema, _, _, sampleCrates_storesGiven _, hconfig, rfl, fun hkept => ?_⟩
  have hdiscovery := hkept.maxDiscoveryTimeout
  revert hdiscovery
  decide

end RaftScaffold
