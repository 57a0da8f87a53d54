import RaftScaffold.Config.Layers
import RaftScaffold.Duration

set_option autoImplicit false

/-! # Configuration

`config.rs`: the schema of the settings, the `Configuration` made from it, how it is loaded, and the
configuration that is handed to Raft. The code of other crates that it calls is a parameter, `Crates`; what
`config` promises of merged sources is `Crates.LastWins`, and what `actix_raft` promises of its builder is
`Crates.StoresGiven`. -/

namespace RaftScaffold

open Layers

/-! ## Errors of other crates -/

/-- `config::ConfigError`. -/
structure ConfigError where
  text : String
  deriving DecidableEq, Repr

/-- `std::net::AddrParseError`. -/
structure AddrParseError where
  deriving DecidableEq, Repr

def AddrParseError.debug (_ : AddrParseError) : String := "AddrParseError(())"

/-- `actix_raft::ConfigError`, by its `Debug` text. -/
structure RaftConfigError where
  text : String
  deriving DecidableEq, Repr

inductive ConfigurationError where
  | hostMissing (host : String)
  | configSource (error : ConfigError)
  | noConfiguration
  | unknown (text : String)
  deriving DecidableEq, Repr

/-! ## The settings -/

structure Opt where
  host : String
  configurationPath : Option String
  deriving DecidableEq, Repr

inductive JoinStrategy where
  | static
  | dynamic
  deriving DecidableEq, Repr

structure SocketAddr where
  ip : String
  port : UInt16
  deriving DecidableEq, Repr

/-- `actix_raft::SnapshotPolicy`. -/
inductive SnapshotPolicy where
  | disabled
  | logsSinceLast (entries : UInt64)
  deriving DecidableEq, Repr

structure ConfigSchema where
  discoveryHostAddress : String
  joinStrategy : JoinStrategy
  ringReplicas : Int64
  nodes : List NodeInfo
  maxDiscoveryTimeout : Int64
  maxRaftInitTimeout : Int64
  electionTimeoutMin : Int64
  electionTimeoutMax : Int64
  heartbeatInterval : Int64
  maxPayloadEntries : UInt64
  metricsRate : Int64
  snapshotDir : String
  snapshotMaxChunkSize : UInt64
  deriving DecidableEq, Repr

/-- The seed nodes by their names. -/
abbrev SeedNodes := Std.ExtTreeMap String NodeInfo

structure Configuration where
  host : String
  discoveryHost : SocketAddr
  joinStrategy : JoinStrategy
  ringReplicas : Int64
  seedNodes : SeedNodes
  maxDiscoveryTimeout : Duration
  maxRaftInitTimeout : Duration
  electionTimeoutMin : Duration
  electionTimeoutMax : Duration
  heartbeatInterval : Duration
  maxPayloadEntries : UInt64
  metricsRate : Duration
  snapshotPolicy : SnapshotPolicy
  snapshotDir : String
  snapshotMaxChunkSize : UInt64

/-! ## The configuration of Raft -/

/-- `actix_raft::Config`. -/
structure RaftConfig where
  electionTimeoutMin : UInt16
  electionTimeoutMax : UInt16
  heartbeatInterval : UInt16
  maxPayloadEntries : UInt64
  metricsRate : StdDuration
  snapshotDir : String
  snapshotPolicy : SnapshotPolicy
  snapshotMaxChunkSize : UInt64
  deriving DecidableEq, Repr

/-- `actix_raft::ConfigBuilder`: the settings given so far. -/
structure RaftConfigBuilder where
  snapshotDir : String
  electionTimeoutMin : Option UInt16 := none
  electionTimeoutMax : Option UInt16 := none
  heartbeatInterval : Option UInt16 := none
  maxPayloadEntries : Option UInt64 := none
  metricsRate : Option StdDuration := none
  snapshotPolicy : Option SnapshotPolicy := none
  snapshotMaxChunkSize : Option UInt64 := none
  deriving DecidableEq, Repr

/-- The settings given, with `defaults` for the others. -/
def RaftConfigBuilder.withDefaults (self : RaftConfigBuilder) (defaults : RaftConfig) : RaftConfig :=
  { electionTimeoutMin := self.electionTimeoutMin.getD defaults.electionTimeoutMin
    electionTimeoutMax := self.electionTimeoutMax.getD defaults.electionTimeoutMax
    heartbeatInterval := self.heartbeatInterval.getD defaults.heartbeatInterval
    maxPayloadEntries := self.maxPayloadEntries.getD defaults.maxPayloadEntries
    metricsRate := self.metricsRate.getD defaults.metricsRate
    snapshotDir := self.snapshotDir
    snapshotPolicy := self.snapshotPolicy.getD defaults.snapshotPolicy
    snapshotMaxChunkSize := self.snapshotMaxChunkSize.getD defaults.snapshotMaxChunkSize }

/-! ## What other crates provide -/

/-- The code of other crates that `config.rs` calls. The values of the settings, before they are turned into
    a schema, are of any type `ν`. -/
structure Crates (ν : Type) where
  parseSocketAddr : String → Except AddrParseError SocketAddr
  /-- `config::File`. -/
  readFile : String → Except ConfigError (Layer String ν)
  /-- `config::Environment::with_prefix("APP")`. -/
  environment : Layer String ν
  /-- `config::Config::merge`, with what the source sets. -/
  merge : Layer String ν → Layer String ν → Layer String ν
  /-- `config::Config::try_into`. -/
  tryInto : Layer String ν → Except ConfigError ConfigSchema
  defaultSnapshotPolicy : SnapshotPolicy
  /-- `actix_raft::ConfigBuilder::validate`. -/
  validate : RaftConfigBuilder → Except RaftConfigError RaftConfig

variable {ν : Type}

/-- When several merged sources set a key, the source merged last wins. -/
def Crates.LastWins (crates : Crates ν) : Prop :=
  ∀ base layer key, crates.merge base layer key = Layers.merge base layer key

/-- `actix_raft`'s builder stores what it is given and takes the default for what it is not given; to validate
    is to accept the stored values or to refuse them. -/
def Crates.StoresGiven (crates : Crates ν) (defaults : RaftConfig) : Prop :=
  ∀ builder config, crates.validate builder = .ok config → config = builder.withDefaults defaults

namespace Configuration

def hostInfo (self : Configuration) : Except Panic NodeInfo :=
  expect "host node not configured" self.seedNodes[self.host]?

/-- The map that `collect` makes of the listed nodes by their names. -/
def collectSeedNodes (nodes : List NodeInfo) : SeedNodes :=
  nodes.foldl (fun seedNodes n => seedNodes.insert n.name n) ∅

/-- `From<ConfigSchema> for Configuration`. -/
def ofSchema (crates : Crates ν) (schema : ConfigSchema) : Except Panic Configuration := do
  let discovery ← expectOk "failed to parse discovery host socket address" AddrParseError.debug
    (crates.parseSocketAddr schema.discoveryHostAddress)
  let seedNodes := collectSeedNodes schema.nodes
  -- the discovery timeout is made from the field of the other timeout
  let maxDiscoveryTimeout ← Duration.seconds schema.maxRaftInitTimeout
  let maxRaftInitTimeout ← Duration.seconds schema.maxRaftInitTimeout
  .ok
    { host := ""
      discoveryHost := discovery
      joinStrategy := schema.joinStrategy
      ringReplicas := schema.ringReplicas
      seedNodes
      maxDiscoveryTimeout
      maxRaftInitTimeout
      electionTimeoutMin := Duration.milliseconds schema.electionTimeoutMin.toInt
      electionTimeoutMax := Duration.milliseconds schema.electionTimeoutMax.toInt
      heartbeatInterval := Duration.milliseconds schema.heartbeatInterval.toInt
      maxPayloadEntries := schema.maxPayloadEntries
      metricsRate := Duration.milliseconds schema.metricsRate.toInt
      snapshotPolicy := crates.defaultSnapshotPolicy
      snapshotDir := schema.snapshotDir
      snapshotMaxChunkSize := schema.snapshotMaxChunkSize }

/-! ## Loading -/

def loadFromConfig (crates : Crates ν) (host : String) (config : Layer String ν) :
    Except Panic (Except ConfigurationError Configuration) :=
  match crates.tryInto config with
  | .error err => .ok (.error (.configSource err))
  | .ok schema => do
      let configuration ← ofSchema crates schema
      .ok (.ok { configuration with host })

/-- The settings that `load_from_opt` merges from the files and the environment. -/
def mergeSources (crates : Crates ν) (opt : Opt) (reference : String) :
    Except Panic (Layer String ν) := do
  let config : Layer String ν := fun _ => none
  let config ← match opt.configurationPath with
    | some path => do
        let file ← expectOk "could not find application configuration file" ConfigError.text
          (crates.readFile path)
        .ok (crates.merge config file)
    | none => .ok config
  let file ← expectOk "could not find config/reference.toml" ConfigError.text
    (crates.readFile reference)
  let config := crates.merge config file
  .ok (crates.merge config crates.environment)

def loadFromOpt (crates : Crates ν) (opt : Opt) (reference : String) :
    Except Panic (Except ConfigurationError Configuration) := do
  let config ← mergeSources crates opt reference
  loadFromConfig crates opt.host config

/-! ## Handing over to Raft -/

/-- The builder that `Into<actix_raft::Config>` fills: `as u16` keeps the lowest sixteen bits, and
    `max_payload_entries` is not passed on. -/
def raftConfigBuilder (self : Configuration) : Except Panic RaftConfigBuilder := do
  let metricsRate ← expectOk "Duration parsing" OutOfRangeError.debug self.metricsRate.toStd
  .ok
    { snapshotDir := self.snapshotDir
      electionTimeoutMin := some (UInt16.ofInt self.electionTimeoutMin.numMilliseconds)
      electionTimeoutMax := some (UInt16.ofInt self.electionTimeoutMax.numMilliseconds)
      heartbeatInterval := some (UInt16.ofInt self.heartbeatInterval.numMilliseconds)
      metricsRate := some metricsRate
      snapshotPolicy := some self.snapshotPolicy
      snapshotMaxChunkSize := some self.snapshotMaxChunkSize }

/-- `Into<actix_raft::Config> for Configuration`. -/
def intoRaftConfig (self : Configuration) (crates : Crates ν) : Except Panic RaftConfig := do
  let builder ← self.raftConfigBuilder
  expectOk "Raft config to be create without error." RaftConfigError.text (crates.validate builder)

end Configuration

/-! ## A sample configuration

Nodes of `config/application.toml` with the settings of `config/reference.toml`, and the defaults and the check
of the election timeouts that `actix_raft` has. -/

namespace Configuration

def sampleNode (name : String) (offset : Nat) : NodeInfo :=
  { name
    clusterAddress := "127.0.0.1:800" ++ toString offset
    appAddress := "127.0.0.1:900" ++ toString offset
    publicAddress := "127.0.0.1:808" ++ toString offset }

def sampleNodes : List NodeInfo := [sampleNode "node_a" 0, sampleNode "node_b" 1]

/-- The digests of their cluster addresses. -/
def sampleSha256 (address : String) : String :=
  if address = "127.0.0.1:8000" then "03f6d7ba09b0531a178059659f12e65ab6a75adddf2f548b1f37624d55d95fba"
  else "d512c4e7211fade9d89162a2ced681f53c0d0788eefa803f2d60fea8537af64a"

def sampleSchema (nodes : List NodeInfo) : ConfigSchema :=
  { discoveryHostAddress := "127.0.0.1:8080"
    joinStrategy := .static
    ringReplicas := 10
    nodes
    maxDiscoveryTimeout := 5
    maxRaftInitTimeout := 5
    electionTimeoutMin := 200
    electionTimeoutMax := 300
    heartbeatInterval := 50
    maxPayloadEntries := 300
    metricsRate := 5000
    snapshotDir := "/data/snapshots/"
    snapshotMaxChunkSize := 3145728 }

def sampleDefaults : RaftConfig :=
  { electionTimeoutMin := 200
    electionTimeoutMax := 300
    heartbeatInterval := 50
    maxPayloadEntries := 300
    metricsRate := ⟨5000000000⟩
    snapshotDir := ""
    snapshotPolicy := .logsSinceLast 5000
    snapshotMaxChunkSize := 3145728 }

def sampleValidate (builder : RaftConfigBuilder) : Except RaftConfigError RaftConfig :=
  let config := builder.withDefaults sampleDefaults
  if config.electionTimeoutMin < config.electionTimeoutMax then .ok config
  else .error ⟨"InvalidElectionTimeoutMinMax"⟩

/-- Crates that read `schema` from every source. -/
def sampleCrates (schema : ConfigSchema) : Crates Int64 where
  parseSocketAddr _ := .ok { ip := "127.0.0.1", port := 8080 }
  readFile _ := .ok fun _ => none
  environment _ := none
  merge := Layers.merge
  tryInto _ := .ok schema
  defaultSnapshotPolicy := .logsSinceLast 5000
  validate := sampleValidate

theorem sampleCrates_storesGiven (schema : ConfigSchema) :
    (sampleCrates schema).StoresGiven sampleDefaults := by
  intro builder config h
  change sampleValidate builder = .ok config at h
  simp only [sampleValidate] at h
  split at h
  · exact (Except.ok.inj h).symm
  · cases h

/-- The configuration of the sample settings. -/
def sampleConfiguration (nodes : List NodeInfo) : Configuration :=
  { host := ""
    discoveryHost := { ip := "127.0.0.1", port := 8080 }
    joinStrategy := .static
    ringReplicas := 10
    seedNodes := collectSeedNodes nodes
    maxDiscoveryTimeout := ⟨5000000000⟩
    maxRaftInitTimeout := ⟨5000000000⟩
    electionTimeoutMin := ⟨200000000⟩
    electionTimeoutMax := ⟨300000000⟩
    heartbeatInterval := ⟨50000000⟩
    maxPayloadEntries := 300
    metricsRate := ⟨5000000000⟩
    snapshotPolicy := .logsSinceLast 5000
    snapshotDir := "/data/snapshots/"
    snapshotMaxChunkSize := 3145728 }

theorem ofSchema_sampleSchema (nodes : List NodeInfo) :
    ofSchema (sampleCrates (sampleSchema nodes)) (sampleSchema nodes) =
      .ok (sampleConfiguration nodes) := by
  have hseconds : Duration.seconds 5 = .ok ⟨5000000000⟩ := rfl
  simp only [ofSchema, sampleCrates, sampleSchema, expectOk, hseconds, bind, Except.bind]
  congr 1

end Configuration

end RaftScaffold
