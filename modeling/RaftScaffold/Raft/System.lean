import RaftScaffold.Config.Seeds
import RaftScaffold.Network.NodeTable

set_option autoImplicit false

/-! # Building a system

`RaftSystemBuilder::build` (`raft/system.rs`): the network is created from the seed entry of the configured host
and started, the Raft actor is created under the builder's own id, and the two are introduced to each other
while the network already handles other messages. What the surroundings contribute is a `BuildEnv`.

The builder's id and the id of the seed entry are never compared, and a missing host, a configuration that
Raft refuses or a storage factory that panics makes the build panic (`buildsOrRefuses_iff`). -/

namespace RaftScaffold

open Layers Transition

variable {ν : Type}

/-! ## Data -/

/-- `Addr<Network>`. -/
structure NetworkAddr where
  index : Nat
  deriving DecidableEq, Repr

structure PortData where
  network : NetworkAddr
  deriving DecidableEq, Repr

/-- `Addr<S>`, the address of a storage actor. -/
structure StorageAddr where
  index : Nat
  deriving DecidableEq, Repr

/-- `StorageFactory`: the storage that it creates, unless `create` panics. -/
structure StorageFactory where
  create : Except Panic StorageAddr

inductive RaftSystemError where
  | raftInitializationError (text : String)
  | configuration (error : ConfigurationError)
  | networkError (error : NetworkError)
  | mailboxError (error : MailboxError)
  | builderError (text : String)
  | unknown (text : String)
  deriving DecidableEq, Repr

/-- `From<NoneError>`. -/
def RaftSystemError.ofNoneError : RaftSystemError := .builderError "NoneError"

/-- What `Raft::create` is given. -/
structure RaftActor where
  addr : RaftAddr
  id : NodeId
  config : RaftConfig
  network : NetworkAddr
  storage : StorageAddr

structure RaftSystem where
  id : NodeId
  raft : RaftActor
  network : NetworkAddr
  info : NodeInfo
  configuration : Configuration

structure RaftSystemBuilder where
  id : NodeId
  network : Option NetworkAddr
  config : Option Configuration
  storageFactory : Option StorageFactory
  serverData : Option PortData

/-- The surroundings of a build: the clock, the order in which the hash map of the seed nodes yields them, the
    actors' addresses, what starting the server does, and what else the network meets before it handles the
    two messages of the build. -/
structure BuildEnv where
  now : DateTime
  iterate : SeedNodes → List NodeInfo
  iterate_perm : ∀ seedNodes, (iterate seedNodes).Perm (seedNodes.toList.map Prod.snd)
  infoEnabled : Bool
  networkAddr : NetworkAddr
  networkAt : NetworkAddr → Except Panic Host
  raftAddr : RaftAddr
  startServer : PortData → String → Except PortError Server
  beforeBind : List HostEvent
  beforeRegister : List HostEvent

/-! ## The network actor while the system is built -/

/-- The actor meets an event, or not, if it cannot happen. -/
def Host.meet (sha256 : String → String) (self : Host) (e : HostEvent) : Except Panic Host :=
  match self.step sha256 e with
  | .ok host => .ok host
  | .error (.panicked panic) => .error panic
  | .error .notEnabled => .ok self

def Host.serve (sha256 : String → String) (self : Host) (events : List HostEvent) : Except Panic Host :=
  events.foldlM (Host.meet sha256) self

theorem Host.serve_runs_subset {sha256 : String → String} {h h' : Host} {events : List HostEvent}
    (hserve : h.serve sha256 events = .ok h') : ∃ es, es ⊆ events ∧ Runs (Step sha256) h es h' := by
  unfold Host.serve at hserve
  induction events generalizing h with
  | nil =>
      obtain rfl := Except.ok.inj hserve
      exact ⟨[], List.Subset.refl _, .nil _⟩
  | cons e events ih =>
      rw [List.foldlM_cons] at hserve
      obtain ⟨h₁, hmeet, hrest⟩ := bind_eq_ok.1 hserve
      obtain ⟨es, hsub, hrun⟩ := ih hrest
      unfold Host.meet at hmeet
      split at hmeet
      · next hstep =>
          obtain rfl := Except.ok.inj hmeet
          exact ⟨e :: es, List.cons_subset_cons e hsub, .cons hstep hrun⟩
      · cases hmeet
      · obtain rfl := Except.ok.inj hmeet
        exact ⟨es, List.subset_cons_of_subset e hsub, hrun⟩

theorem Host.serve_runs {sha256 : String → String} {h h' : Host} {events : List HostEvent}
    (hserve : h.serve sha256 events = .ok h') : ∃ es, Runs (Step sha256) h es h' := by
  obtain ⟨es, -, hrun⟩ := Host.serve_runs_subset hserve
  exact ⟨es, hrun⟩

/-! ## The builder -/

namespace RaftSystemBuilder

def new (id : NodeId) : RaftSystemBuilder :=
  { id, network := none, config := none, storageFactory := none, serverData := none }

def withConfiguration (self : RaftSystemBuilder) (config : Configuration) : RaftSystemBuilder :=
  { self with config := some config }

def withStorageFactory (self : RaftSystemBuilder) (factory : StorageFactory) : RaftSystemBuilder :=
  { self with storageFactory := some factory }

def checkRequirements (self : RaftSystemBuilder) : Except ConfigurationError Unit :=
  if self.config.isNone then
    .error (.unknown "No means to configuration Raft system was provided")
  else if self.storageFactory.isNone then
    .error (.unknown "No means to build RaftStorage was provided")
  else .ok ()

/-- The network of the configured host, before it is started. -/
def configuredNetwork (sha256 : String → String) (env : BuildEnv) (c : Configuration) :
    Except Panic Host := do
  let ring := Ring.new c.ringReplicas.toInt
  let hostInfo ← c.hostInfo
  let hostId := hostInfo.nodeId sha256
  let host := Host.new env.now hostId hostInfo ring
  .ok { host with network := host.network.configureWith sha256 (env.iterate c.seedNodes) }

/-- `build_network_if_needed`, with the actor in the state in which it starts to handle messages. -/
def buildNetworkIfNeeded (self : RaftSystemBuilder) (sha256 : String → String) (env : BuildEnv) :
    Except Panic (NetworkAddr × Except Panic Host) :=
  match self.network with
  | some network => .ok (network, env.networkAt network)
  | none => do
      let c ← unwrap self.config
      let host ← configuredNetwork sha256 env c
      .ok (env.networkAddr, host.started)

def buildRaft (self : RaftSystemBuilder) (crates : Crates ν) (env : BuildEnv) (network : NetworkAddr) :
    Except Panic (Except RaftSystemError RaftActor) :=
  match self.config with
  | none => .ok (.error .ofNoneError)
  | some c => do
      let raftConfig ← c.intoRaftConfig crates
      match self.storageFactory with
      | none => .ok (.error .ofNoneError)
      | some factory => do
          let storage ← factory.create
          .ok (.ok { addr := env.raftAddr, id := self.id, config := raftConfig, network, storage })

/-- The fields of the log line in `bind_raft_endpoint`, which are evaluated where its level is enabled. -/
def logEndpoint (self : RaftSystemBuilder) (env : BuildEnv) : Except Panic Unit :=
  if env.infoEnabled then do
    let c ← unwrap self.config
    let _ ← unwrap c.seedNodes[c.host]?
    .ok ()
  else .ok ()

def bindRaftEndpoint (self : RaftSystemBuilder) (sha256 : String → String) (env : BuildEnv)
    (network : NetworkAddr) (actor : Except Panic Host) :
    Except Panic (Except RaftSystemError Host) := do
  let data := self.serverData.getD { network }
  self.logEndpoint env
  .ok <|
    match actor.bind fun host => host.serve sha256 env.beforeBind with
    | .error _ => .error (.mailboxError .closed)
    | .ok host =>
        match host.network.handleBindEndpoint (env.startServer data) with
        | (network, .ok _) => .ok { host with network }
        | (_, .error err) => .error (.networkError err)

def registerRaftWithNetwork (sha256 : String → String) (env : BuildEnv) (host : Host) (raft : RaftActor) :
    Except RaftSystemError Host :=
  match host.serve sha256 env.beforeRegister with
  | .error _ => .error (.mailboxError .closed)
  | .ok host =>
      match host.handleRegisterRaft raft.addr with
      | .error _ => .error (.mailboxError .closed)
      | .ok (host, .ok _) => .ok host
      | .ok (_, .error err) => .error (.networkError err)

/-- The future that `build` waits for; with the system it yields the state of the network actor. -/
def connect (self : RaftSystemBuilder) (sha256 : String → String) (env : BuildEnv) (c : Configuration)
    (network : NetworkAddr) (actor : Except Panic Host) (raft : RaftActor) :
    Except Panic (Except RaftSystemError (RaftSystem × Host)) := do
  let bound ← self.bindRaftEndpoint sha256 env network actor
  .ok do
    let host ← bound
    let host ← registerRaftWithNetwork sha256 env host raft
    match c.seedNodes[c.host]? with
    | none => .error .ofNoneError
    | some info => .ok ({ id := self.id, raft, network, info, configuration := c }, host)

def build (self : RaftSystemBuilder) (crates : Crates ν) (sha256 : String → String) (env : BuildEnv) :
    Except Panic (Except RaftSystemError (RaftSystem × Host)) :=
  match self.checkRequirements with
  | .error err => .ok (.error (.configuration err))
  | .ok _ =>
      match self.config with
      | none => .ok (.error .ofNoneError)
      | some c => do
          let (network, actor) ← self.buildNetworkIfNeeded sha256 env
          match ← self.buildRaft crates env network with
          | .error err => .ok (.error err)
          | .ok raft => self.connect sha256 env c network actor raft

end RaftSystemBuilder

/-! ## What a build does -/

/-- A network that knows its own node takes the registration of the Raft actor. -/
theorem Host.WellFormed.handleRegisterRaft_ok {h : Host} (hw : Host.WellFormed h)
    (hmem : h.network.id ∈ h.network.nodes) (raft : RaftAddr) :
    ∃ h', h.handleRegisterRaft raft = .ok (h', .ok ()) := by
  obtain ⟨nodeRef, hlookup⟩ := (NodeTable.mem_iff _ _).1 hmem
  have hentry := hw.entries _ _ hlookup
  obtain ⟨info, hinfo, -⟩ := hentry.served
  simp only [Host.handleRegisterRaft, hlookup]
  cases haddr : nodeRef.addr with
  | some addr =>
      simp only [hinfo, haddr, Host.registerRaft, expect_some, bind, Except.bind, hentry.keyed,
        Network.determineProximity, if_true]
      exact ⟨_, rfl⟩
  | none =>
      simp only [hinfo, haddr, Host.registerRaftAndCreateLocalNode, expect_some, bind, Except.bind,
        Option.isSome_none, Bool.false_eq_true, if_false, Host.registerNode_eq]
      exact ⟨_, rfl⟩

theorem Host.handleRegisterRaft_network_id {h h' : Host} {raft : RaftAddr}
    {r : Except NetworkError Unit} (hreg : h.handleRegisterRaft raft = .ok (h', r)) :
    h'.network.id = h.network.id := by
  have hstep : h.handle (.registerRaft raft) = .ok h' := by
    simp only [Host.handle, hreg, Except.map]
  have heff : h.Effect (fun _ => "") (.message (.registerRaft raft)) h' := Host.handle_registerRaft hstep
  exact heff.network_id

namespace RaftSystemBuilder

variable {crates : Crates ν} {sha256 : String → String} {env : BuildEnv} {c : Configuration}
  {info : NodeInfo}

theorem configuredNetwork_missing (hhost : c.seedNodes[c.host]? = none) :
    configuredNetwork sha256 env c = .error ⟨"host node not configured"⟩ := by
  simp only [configuredNetwork, Configuration.hostInfo, hhost]
  rfl

/-- The network that a host among the seed nodes starts from. -/
def newNetwork (sha256 : String → String) (env : BuildEnv) (c : Configuration) (info : NodeInfo) : Host :=
  Host.new env.now (info.nodeId sha256) info (Ring.new c.ringReplicas.toInt)

/-- It is a new one, with the id and the info of the seed entry, that was configured. -/
theorem configuredNetwork_eq_ok {h : Host} (hnew : configuredNetwork sha256 env c = .ok h) :
    ∃ info, c.seedNodes[c.host]? = some info ∧
      Host.Step sha256 (newNetwork sha256 env c info) (.configureWith (env.iterate c.seedNodes)) h := by
  obtain ⟨info, hinfo, hnew⟩ := bind_eq_ok.1 hnew
  exact ⟨info, expect_eq_ok.1 hinfo, congrArg Except.ok (Except.ok.inj hnew)⟩

theorem configuredNetwork_of_host (sha256 : String → String) (env : BuildEnv)
    (hhost : c.seedNodes[c.host]? = some info) : ∃ h, configuredNetwork sha256 env c = .ok h := by
  simp only [configuredNetwork, Configuration.hostInfo, hhost, expect_some, bind, Except.bind]
  exact ⟨_, rfl⟩

/-- The network of a host among the seed nodes starts, has the node id of its seed entry, and knows its own
    node. -/
theorem configuredNetwork_started (sha256 : String → String) (env : BuildEnv)
    (hhost : c.seedNodes[c.host]? = some info) :
    ∃ h h₁, configuredNetwork sha256 env c = .ok h ∧ h.started = .ok h₁ ∧
      Host.JustStarted sha256 h₁ ∧ h₁.network.id = info.nodeId sha256 ∧
      h₁.network.id ∈ h₁.network.nodes := by
  obtain ⟨h, hnew⟩ := configuredNetwork_of_host sha256 env hhost
  obtain ⟨info', hinfo', hconf⟩ := configuredNetwork_eq_ok hnew
  obtain rfl := Option.some.inj (hinfo'.symm.trans hhost)
  have hstart : Host.Step sha256 h .started _ := (orPanic_eq_ok _ _).2 (Host.started_eq h)
  have hrun := Runs.cons hconf (Runs.cons hstart (Runs.nil _))
  have hid := Host.runs_network_id hrun
  have hmem : info'.nodeId sha256 ∈ (newNetwork sha256 env c info').network.nodes := by
    simp [newNetwork, Host.new, Network.new]
  refine ⟨h, _, hnew, Host.started_eq h, ?_, hid, ?_⟩
  · exact ⟨env.now, _, info', _, [env.iterate c.seedNodes], hrun⟩
  · -- neither of the two steps is a `DisconnectNode`
    rw [hid]
    have hmem' := (Host.step_cases hconf).mem_nodes hmem fun _ he => by cases he
    exact (Host.step_cases hstart).mem_nodes hmem' fun _ he => by cases he

/-- Without a supplied network the builder starts the configured one. -/
theorem buildNetworkIfNeeded_eq {b : RaftSystemBuilder} {h : Host} (hnetwork : b.network = none)
    (hconfig : b.config = some c) (hnew : configuredNetwork sha256 env c = .ok h) :
    b.buildNetworkIfNeeded sha256 env = .ok (env.networkAddr, h.started) := by
  simp only [buildNetworkIfNeeded, hnetwork, hconfig, unwrap_some, hnew, bind, Except.bind]

theorem logEndpoint_eq {b : RaftSystemBuilder} (hconfig : b.config = some c)
    (hhost : c.seedNodes[c.host]? = some info) : b.logEndpoint env = .ok () := by
  unfold logEndpoint
  split
  · simp only [hconfig, hhost, unwrap_some, bind, Except.bind]
  · rfl

theorem bindRaftEndpoint_network_id {b : RaftSystemBuilder} {network : NetworkAddr} {h₁ h₂ : Host}
    (hbind : b.bindRaftEndpoint sha256 env network (.ok h₁) = .ok (.ok h₂)) :
    h₂.network.id = h₁.network.id := by
  obtain ⟨-, -, hbound⟩ := bind_eq_ok.1 hbind
  have hbound := Except.ok.inj hbound
  split at hbound
  · cases hbound
  · next host hserve =>
      obtain ⟨es, hrun⟩ := Host.serve_runs hserve
      unfold Network.handleBindEndpoint at hbound
      split at hbound
      · next hserver =>
          split at hserver
          · obtain ⟨rfl, -⟩ := Prod.mk.inj hserver
            rw [← Except.ok.inj hbound]
            show host.network.id = h₁.network.id
            exact Host.runs_network_id hrun
          · cases (Prod.mk.inj hserver).2
      · cases hbound

theorem registerRaftWithNetwork_network_id {h₁ h₂ : Host} {raft : RaftActor}
    (hreg : registerRaftWithNetwork sha256 env h₁ raft = .ok h₂) : h₂.network.id = h₁.network.id := by
  unfold registerRaftWithNetwork at hreg
  split at hreg
  · cases hreg
  · next host hserve =>
      obtain ⟨es, hrun⟩ := Host.serve_runs hserve
      split at hreg
      · cases hreg
      · next hraft =>
          rw [← Except.ok.inj hreg, Host.handleRegisterRaft_network_id hraft, Host.runs_network_id hrun]
      · cases hreg

/-- The futures of `build` do not panic where the host is among the seed nodes. -/
theorem connect_total (sha256 : String → String) (env : BuildEnv) {b : RaftSystemBuilder}
    (hconfig : b.config = some c) (hhost : c.seedNodes[c.host]? = some info) (network : NetworkAddr)
    (actor : Except Panic Host) (raft : RaftActor) : ∃ r, b.connect sha256 env c network actor raft = .ok r := by
  simp only [connect, bindRaftEndpoint, logEndpoint_eq hconfig hhost, bind, Except.bind]
  exact ⟨_, rfl⟩

/-- They yield the ids that they are given. -/
theorem connect_eq_ok {b : RaftSystemBuilder} (hhost : c.seedNodes[c.host]? = some info)
    {network : NetworkAddr} {h₁ h : Host} {raft : RaftActor} {system : RaftSystem}
    (hconnect : b.connect sha256 env c network (.ok h₁) raft = .ok (.ok (system, h))) :
    system = { id := b.id, raft, network, info, configuration := c } ∧
      h.network.id = h₁.network.id := by
  obtain ⟨bound, hbind, hconnect⟩ := bind_eq_ok.1 hconnect
  obtain ⟨h₂, hbound, hconnect⟩ := bind_eq_ok.1 (Except.ok.inj hconnect)
  obtain ⟨h₃, hreg, hsystem⟩ := bind_eq_ok.1 hconnect
  rw [hbound] at hbind
  simp only [hhost, Except.ok.injEq, Prod.mk.injEq] at hsystem
  obtain ⟨rfl, rfl⟩ := hsystem
  exact ⟨rfl, (registerRaftWithNetwork_network_id hreg).trans (bindRaftEndpoint_network_id hbind)⟩

/-- **What `build` does** with a configuration and a storage factory but no network. -/
theorem build_eq (crates : Crates ν) (sha256 : String → String) (env : BuildEnv) {b : RaftSystemBuilder}
    {factory : StorageFactory} (hnetwork : b.network = none)
    (hconfig : b.config = some c) (hfactory : b.storageFactory = some factory) :
    b.build crates sha256 env = (configuredNetwork sha256 env c).bind fun host =>
      (c.intoRaftConfig crates).bind fun config =>
        factory.create.bind fun storage =>
          b.connect sha256 env c env.networkAddr host.started
            { addr := env.raftAddr, id := b.id, config, network := env.networkAddr, storage } := by
  simp only [build, checkRequirements, buildNetworkIfNeeded, buildRaft, hnetwork, hconfig, hfactory,
    Option.isNone_some, Bool.false_eq_true, if_false, unwrap_some, bind, Except.bind]
  cases configuredNetwork sha256 env c with
  | error panic => rfl
  | ok host =>
      cases c.intoRaftConfig crates with
      | error panic => rfl
      | ok config =>
          cases factory.create with
          | error panic => rfl
          | ok storage => rfl

/-- A build that goes through has made the system of the configured host, under the builder's id. -/
theorem build_eq_ok {b : RaftSystemBuilder} {factory : StorageFactory} (hnetwork : b.network = none)
    (hconfig : b.config = some c) (hfactory : b.storageFactory = some factory)
    (hhost : c.seedNodes[c.host]? = some info) {system : RaftSystem} {network : Host}
    (hbuild : b.build crates sha256 env = .ok (.ok (system, network))) :
    (∃ config, c.intoRaftConfig crates = .ok config) ∧ (∃ storage, factory.create = .ok storage) ∧
      system.id = b.id ∧ system.raft.id = b.id ∧ system.info = info ∧ system.configuration = c ∧
      network.network.id = info.nodeId sha256 := by
  rw [build_eq crates sha256 _ hnetwork hconfig hfactory] at hbuild
  obtain ⟨h, hnew, hbuild⟩ := bind_eq_ok.1 hbuild
  obtain ⟨config, hraft, hbuild⟩ := bind_eq_ok.1 hbuild
  obtain ⟨storage, hcreate, hconnect⟩ := bind_eq_ok.1 hbuild
  obtain ⟨h', h₁, hnew', hstarted, -, hid, -⟩ := configuredNetwork_started sha256 env hhost
  obtain rfl := Except.ok.inj (hnew.symm.trans hnew')
  rw [hstarted] at hconnect
  obtain ⟨rfl, hnetworkId⟩ := connect_eq_ok hhost hconnect
  exact ⟨⟨config, hraft⟩, ⟨storage, hcreate⟩, rfl, rfl, rfl, rfl, hnetworkId.trans hid⟩

/-- A build does not panic where the host is among the seed nodes, Raft takes the configuration and the factory
    creates a storage. -/
theorem build_total {b : RaftSystemBuilder} {factory : StorageFactory} {storage : StorageAddr}
    {config : RaftConfig} (hnetwork : b.network = none) (hconfig : b.config = some c)
    (hfactory : b.storageFactory = some factory) (hhost : c.seedNodes[c.host]? = some info)
    (hraft : c.intoRaftConfig crates = .ok config) (hcreate : factory.create = .ok storage) :
    ∃ r, b.build crates sha256 env = .ok r := by
  obtain ⟨h, h₁, hnew, -⟩ := configuredNetwork_started sha256 env hhost
  obtain ⟨r, hconnect⟩ := connect_total sha256 env hconfig hhost env.networkAddr h.started
    { addr := env.raftAddr, id := b.id, config, network := env.networkAddr, storage }
  refine ⟨r, ?_⟩
  rw [build_eq crates sha256 _ hnetwork hconfig hfactory, hnew, hraft, hcreate]
  exact hconnect

/-- Without a configuration or a storage factory the build is refused. -/
theorem build_refused {b : RaftSystemBuilder} (hmissing : b.config = none ∨ b.storageFactory = none) :
    ∃ err, b.build crates sha256 env = .ok (.error err) := by
  unfold build checkRequirements
  rcases hmissing with hconfig | hstorage
  · rw [hconfig]
    exact ⟨_, rfl⟩
  · rw [hstorage]
    cases b.config with
    | none => exact ⟨_, rfl⟩
    | some c => exact ⟨_, rfl⟩

/-! ## Consistent or refused -/

/-- `load_from_config` accepts this configuration. -/
def Accepted (crates : Crates ν) (c : Configuration) : Prop :=
  ∃ host config, Configuration.loadFromConfig crates host config = .ok (.ok c)

/-- Raft takes this configuration: the metrics rate is no negative time, and Raft's own check accepts the
    settings that it is handed. -/
structure Converts (crates : Crates ν) (c : Configuration) : Prop where
  metricsRate : 0 ≤ c.metricsRate.nanos
  validated : ∀ builder, c.raftConfigBuilder = .ok builder → ∃ raftConfig, crates.validate builder = .ok raftConfig

theorem converts_iff : Converts crates c ↔ ∃ raftConfig, c.intoRaftConfig crates = .ok raftConfig := by
  constructor
  · rintro ⟨hrate, hvalidated⟩
    have hstd : c.metricsRate.toStd = .ok ⟨c.metricsRate.nanos.toNat⟩ :=
      Duration.toStd_eq_ok.2 ⟨hrate, Int.toNat_of_nonneg hrate⟩
    obtain ⟨builder, hbuilder⟩ : ∃ builder, c.raftConfigBuilder = .ok builder := by
      simp only [Configuration.raftConfigBuilder, hstd, expectOk, bind, Except.bind]
      exact ⟨_, rfl⟩
    obtain ⟨raftConfig, hvalid⟩ := hvalidated builder hbuilder
    exact ⟨raftConfig, bind_eq_ok.2 ⟨builder, hbuilder, expectOk_eq_ok.2 hvalid⟩⟩
  · rintro ⟨raftConfig, hraft⟩
    obtain ⟨builder, hbuilder, hvalid⟩ := bind_eq_ok.1 hraft
    obtain ⟨std, hstd, -⟩ := bind_eq_ok.1 hbuilder
    refine ⟨(Duration.toStd_eq_ok.1 (expectOk_eq_ok.1 hstd)).1, fun builder' hbuilder' => ?_⟩
    obtain rfl := Except.ok.inj (hbuilder.symm.trans hbuilder')
    exact ⟨raftConfig, expectOk_eq_ok.1 hvalid⟩

/-- The Raft actor, the system and the network have the node id of the host's seed entry. -/
structure Consistent (sha256 : String → String) (system : RaftSystem) (network : Host) : Prop where
  hostInfo : system.configuration.seedNodes[system.configuration.host]? = some system.info
  raftId : system.raft.id = system.info.nodeId sha256
  systemId : system.id = system.info.nodeId sha256
  networkId : network.network.id = system.info.nodeId sha256

/-- What is asked of `build`, in any surroundings. -/
structure BuildsOrRefuses (crates : Crates ν) (sha256 : String → String) (b : RaftSystemBuilder) :
    Prop where
  consistent : ∀ env system network, b.build crates sha256 env = .ok (.ok (system, network)) →
    Consistent sha256 system network
  hostMissing : ∀ env c, b.config = some c → c.seedNodes[c.host]? = none →
    ∃ err, b.build crates sha256 env = .ok (.error err)
  noPanic : ∀ env c, b.config = some c → Accepted crates c →
    ∃ r, b.build crates sha256 env = .ok r

/-- The builders that it can be asked of: with a configuration and a storage factory, the host is among the
    seed nodes, Raft takes the configuration and the factory creates a storage if `load_from_config` accepts the
    configuration, and where they do, the builder's id is the node id of the host's seed entry. -/
def SafelyBuilt (crates : Crates ν) (sha256 : String → String) (b : RaftSystemBuilder) : Prop :=
  ∀ c factory, b.config = some c → b.storageFactory = some factory →
    ∃ info, c.seedNodes[c.host]? = some info ∧
      (Accepted crates c → Converts crates c ∧ ∃ storage, factory.create = .ok storage) ∧
      (Converts crates c → (∃ storage, factory.create = .ok storage) → b.id = info.nodeId sha256)

/-- Surroundings in which nothing else happens. -/
def quietEnv : BuildEnv where
  now := 0
  iterate seedNodes := seedNodes.toList.map Prod.snd
  iterate_perm _ := List.Perm.refl _
  infoEnabled := true
  networkAddr := ⟨0⟩
  networkAt _ := .error ⟨""⟩
  raftAddr := ⟨0⟩
  startServer _ address := .ok ⟨address⟩
  beforeBind := []
  beforeRegister := []

/-- In quiet surroundings a build goes through. -/
theorem build_quiet {b : RaftSystemBuilder} {factory : StorageFactory} {storage : StorageAddr}
    (hnetwork : b.network = none) (hconfig : b.config = some c)
    (hfactory : b.storageFactory = some factory) (hhost : c.seedNodes[c.host]? = some info)
    (hconverts : Converts crates c) (hcreate : factory.create = .ok storage) :
    ∃ system network, b.build crates sha256 quietEnv = .ok (.ok (system, network)) := by
  obtain ⟨config, hraft⟩ := converts_iff.1 hconverts
  obtain ⟨h, h₁, hnew, hstarted, hjust, -, hmem⟩ :=
    configuredNetwork_started sha256 quietEnv hhost
  -- the network is bound to the server that starts at its address
  let h₂ : Host :=
    { h₁ with network := { h₁.network with server := some ⟨h₁.network.info.clusterAddress⟩ } }
  have hbind : Host.Step sha256 h₁ (.message (.bindEndpoint fun address => .ok ⟨address⟩)) h₂ := rfl
  have hw : Host.WellFormed h₂ := (hjust.reachable.runs (.cons hbind (.nil _))).wellFormed
  obtain ⟨h₃, hreg⟩ := hw.handleRegisterRaft_ok hmem ⟨0⟩
  let raft : RaftActor := { addr := ⟨0⟩, id := b.id, config, network := ⟨0⟩, storage }
  have hregister : registerRaftWithNetwork sha256 quietEnv h₂ raft = .ok h₃ := by
    have hserve : h₂.serve sha256 quietEnv.beforeRegister = .ok h₂ := rfl
    simp only [registerRaftWithNetwork, hserve, raft, hreg]
  have hbound : b.bindRaftEndpoint sha256 quietEnv ⟨0⟩ (.ok h₁) = .ok (.ok h₂) := by
    simp only [bindRaftEndpoint, logEndpoint_eq hconfig hhost, bind, Except.bind]
    rfl
  refine ⟨{ id := b.id, raft, network := ⟨0⟩, info, configuration := c }, h₃, ?_⟩
  rw [build_eq crates sha256 _ hnetwork hconfig hfactory, hnew, hraft, hcreate]
  show b.connect sha256 quietEnv c ⟨0⟩ h.started raft = _
  simp only [hstarted, connect, hbound, hregister, hhost, bind, Except.bind]

theorem BuildsOrRefuses.of_refused {b : RaftSystemBuilder}
    (hrefused : ∀ env, ∃ err, b.build crates sha256 env = .ok (.error err)) :
    BuildsOrRefuses crates sha256 b := by
  constructor
  · intro env system network hok
    obtain ⟨err, herr⟩ := hrefused env
    rw [hok] at herr
    cases Except.ok.inj herr
  · intro env _ _ _
    exact hrefused env
  · intro env _ _ _
    obtain ⟨err, herr⟩ := hrefused env
    exact ⟨_, herr⟩

theorem BuildsOrRefuses.of_host {b : RaftSystemBuilder} {factory : StorageFactory}
    (hnetwork : b.network = none) (hconfig : b.config = some c)
    (hfactory : b.storageFactory = some factory) (hhost : c.seedNodes[c.host]? = some info)
    (haccepted : Accepted crates c → Converts crates c ∧ ∃ storage, factory.create = .ok storage)
    (hid : Converts crates c → (∃ storage, factory.create = .ok storage) → b.id = info.nodeId sha256) :
    BuildsOrRefuses crates sha256 b := by
  constructor
  · intro env system network hok
    obtain ⟨hconverts, hcreate, hsystem, hraft, rfl, rfl, hnetworkId⟩ :=
      build_eq_ok hnetwork hconfig hfactory hhost hok
    have hids := hid (converts_iff.2 hconverts) hcreate
    exact ⟨hhost, hraft.trans hids, hsystem.trans hids, hnetworkId⟩
  · intro env c' hconfig' hmissing
    obtain rfl : c' = c := Option.some.inj (hconfig'.symm.trans hconfig)
    rw [hhost] at hmissing
    cases hmissing
  · intro env c' hconfig' haccepted'
    obtain rfl : c' = c := Option.some.inj (hconfig'.symm.trans hconfig)
    obtain ⟨hconverts, storage, hcreate⟩ := haccepted haccepted'
    obtain ⟨config, hraft⟩ := converts_iff.1 hconverts
    exact build_total hnetwork hconfig hfactory hhost hraft hcreate

/-- **When a built system is consistent or refused.** Where no network is supplied, the builders whose
    systems have one id, and whose builds are refused rather than panic, are the safely built ones. -/
theorem buildsOrRefuses_iff (crates : Crates ν) (sha256 : String → String) (b : RaftSystemBuilder)
    (hnetwork : b.network = none) :
    BuildsOrRefuses crates sha256 b ↔ SafelyBuilt crates sha256 b := by
  constructor
  · intro hbuilds c factory hconfig hfactory
    have hbuild := fun env => build_eq crates sha256 env hnetwork hconfig hfactory
    cases hhost : c.seedNodes[c.host]? with
    | none =>
        -- the lookup of the host panics
        obtain ⟨err, herr⟩ := hbuilds.hostMissing quietEnv c hconfig hhost
        rw [hbuild, configuredNetwork_missing hhost] at herr
        cases herr
    | some info =>
        refine ⟨info, rfl, ?_, ?_⟩
        · intro haccepted
          obtain ⟨r, hr⟩ := hbuilds.noPanic quietEnv c hconfig haccepted
          rw [hbuild] at hr
          obtain ⟨host, -, hr⟩ := bind_eq_ok.1 hr
          obtain ⟨config, hraft, hr⟩ := bind_eq_ok.1 hr
          obtain ⟨storage, hcreate, -⟩ := bind_eq_ok.1 hr
          exact ⟨converts_iff.2 ⟨config, hraft⟩, storage, hcreate⟩
        · rintro hconverts ⟨storage, hcreate⟩
          obtain ⟨system, network, hsystem⟩ :=
            build_quiet hnetwork hconfig hfactory hhost hconverts hcreate
          obtain ⟨-, -, hid, -, hinfo, -⟩ := build_eq_ok hnetwork hconfig hfactory hhost hsystem
          rw [← hid, ← hinfo]
          exact (hbuilds.consistent quietEnv system network hsystem).systemId
  · intro hsafe
    -- a builder that lacks a part is refused, any other is covered by the condition
    cases hconfig : b.config with
    | none => exact .of_refused fun _ => build_refused (.inl hconfig)
    | some c =>
        cases hfactory : b.storageFactory with
        | none => exact .of_refused fun _ => build_refused (.inr hfactory)
        | some factory =>
            obtain ⟨info, hhost, haccepted, hid⟩ := hsafe c factory hconfig hfactory
            exact .of_host hnetwork hconfig hfactory hhost haccepted hid

/-! ## Builders for the sample configuration -/

section Sample

open RaftScaffold.Configuration

/-- The sample configuration, loaded for `host`. -/
def sampleLoaded (host : String) : Configuration := { sampleConfiguration sampleNodes with host }

theorem sampleLoaded_accepted (host : String) :
    Accepted (sampleCrates (sampleSchema sampleNodes)) (sampleLoaded host) := by
  have hschema : (sampleCrates (sampleSchema sampleNodes)).tryInto (fun _ => none) =
      .ok (sampleSchema sampleNodes) := rfl
  refine ⟨host, fun _ => none, ?_⟩
  simp only [loadFromConfig, hschema, ofSchema_sampleSchema, bind, Except.bind, sampleLoaded]

theorem sampleLoaded_converts (host : String) :
    Converts (sampleCrates (sampleSchema sampleNodes)) (sampleLoaded host) := converts_iff.2 ⟨_, rfl⟩

def sampleBuilder (id : NodeId) (host : String) : RaftSystemBuilder :=
  ((new id).withConfiguration (sampleLoaded host)).withStorageFactory ⟨.ok ⟨0⟩⟩

/-- A builder with the id of its host is safe. -/
theorem buildsOrRefuses_matching :
    BuildsOrRefuses (sampleCrates (sampleSchema sampleNodes)) sampleSha256
      (sampleBuilder ((sampleNode "node_a" 0).nodeId sampleSha256) "node_a") := by
  refine (buildsOrRefuses_iff (sampleCrates (sampleSchema sampleNodes)) sampleSha256
    (sampleBuilder ((sampleNode "node_a" 0).nodeId sampleSha256) "node_a") rfl).2 ?_
  intro c factory hconfig hfactory
  obtain rfl := Option.some.inj hconfig
  obtain rfl := Option.some.inj hfactory
  refine ⟨sampleNode "node_a" 0, ?_, fun _ => ⟨sampleLoaded_converts _, _, rfl⟩, fun _ _ => rfl⟩
  show (collectSeedNodes sampleNodes)["node_a"]? = _
  rw [collectSeedNodes_lookup]
  decide

/-- A host that is missing from the nodes is accepted when the configuration is loaded, and makes the build
    panic. -/
theorem buildsOrRefuses_fails :
    ∃ (crates : Crates Int64) (c : Configuration) (b : RaftSystemBuilder),
      Accepted crates c ∧ b.network = none ∧ b.config = some c ∧
        (∀ env, b.build crates sampleSha256 env = .error ⟨"host node not configured"⟩) ∧
        ¬ BuildsOrRefuses crates sampleSha256 b := by
  let crates := sampleCrates (sampleSchema sampleNodes)
  let b := sampleBuilder 7 "node_z"
  have hmissing : (sampleLoaded "node_z").seedNodes["node_z"]? = none := by
    show (collectSeedNodes sampleNodes)["node_z"]? = _
    rw [collectSeedNodes_lookup]
    decide
  have hpanic : ∀ env, b.build crates sampleSha256 env = .error ⟨"host node not configured"⟩ := by
    intro env
    have hbuild := build_eq crates sampleSha256 env (b := b) rfl rfl rfl
    rw [hbuild, configuredNetwork_missing hmissing]
    rfl
  refine ⟨crates, sampleLoaded "node_z", b, sampleLoaded_accepted _, rfl, rfl, hpanic, fun hbuilds => ?_⟩
  obtain ⟨err, herr⟩ := hbuilds.hostMissing quietEnv (sampleLoaded "node_z") rfl hmissing
  rw [hpanic] at herr
  cases herr

end Sample

end RaftSystemBuilder

end RaftScaffold
