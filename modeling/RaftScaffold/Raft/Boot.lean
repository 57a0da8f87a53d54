import RaftScaffold.Raft.Directory
import RaftScaffold.Raft.System

set_option autoImplicit false

/-! # Initializing Raft

`RaftSystem::started` (`raft/system.rs`) asks the network of a built system for the nodes that it knows and sends
the Raft actor their ids in `InitWithConfig`. Every process of a cluster does so for itself, and Raft needs them to
name the same members.

They do if they are configured with the same list of nodes (`boot_agreement`), whichever of the nodes each of them
is, in whatever order their hash maps yield the nodes, and whichever of the nodes have connected by then. -/

namespace RaftScaffold

open Transition Layers Keyed

variable {ν : Type}

/-- `actix_raft::admin::InitWithConfig`. -/
structure InitWithConfig where
  members : List NodeId
  deriving DecidableEq, Repr

/-- `Actor::started` of a `RaftSystem`: the message for the Raft actor. `connectedNodes` is what the network answers
    and `iterate` the order in which the hash map yields it; the Raft actor's answer is only logged. -/
def RaftSystem.started (_self : RaftSystem) (iterate : ConnectedNodes → List (NodeId × Option NodeInfo))
    (connectedNodes : Except MailboxError (Except NetworkError ConnectedNodes)) : Option InitWithConfig :=
  match connectedNodes with
  | .ok (.ok seedMembers) =>
      let seeds := ((iterate seedMembers).filter fun member => member.2.isSome).map Prod.fst
      some { members := seeds }
  -- that the network does not answer is only logged
  | .ok (.error _) => none
  | .error _ => none

/-- Whatever the order, the members are the nodes of the directory, each once. -/
theorem RaftSystem.started_members {h : Host} (hw : Host.WellFormed h) (system : RaftSystem)
    {iterate : ConnectedNodes → List (NodeId × Option NodeInfo)}
    (hiterate : ∀ nodes, (iterate nodes).Perm nodes.toList) :
    ∃ members, system.started iterate (.ok h.network.handleGetConnectedNodes) = some { members } ∧
      members.Nodup ∧ ∀ k, k ∈ members ↔ (h.directory k).isSome := by
  obtain ⟨nodes, hnodes, hlookup⟩ := hw.handleGetConnectedNodes
  refine ⟨_, by rw [hnodes]; rfl, ?_, fun k => ?_⟩
  · refine List.Nodup.sublist (List.filter_sublist.map Prod.fst) ?_
    rw [((hiterate nodes).map Prod.fst).nodup_iff, Std.ExtTreeMap.map_fst_toList_eq_keys]
    exact Std.ExtTreeMap.nodup_keys
  · simp only [List.mem_map, List.mem_filter, Prod.exists, exists_and_right, exists_eq_right,
      (hiterate nodes).mem_iff, Std.ExtTreeMap.mem_toList_iff_getElem?_eq_some, hlookup]
    cases h.directory k <;> simp

/-! ## Runs in which only listed nodes connect -/

/-- A message of a running network that makes no node known but the listed ones, and removes none. -/
def HostEvent.Lists (ids : List NodeId) : HostEvent → Prop
  | .configureWith _ => False
  | .started => False
  | .message (.connectNode command) => command.id ∈ ids
  | .message (.disconnectNode _) => False
  | _ => True

theorem HostEvent.Lists.updates {ids : List NodeId} {e : HostEvent} (he : e.Lists ids) (sha256 : String → String) :
    ∀ entry ∈ e.updates sha256, entry.1 ∈ ids ∧ entry.2.isSome := by
  cases e with
  | configureWith seeds => exact he.elim
  | message msg =>
      cases msg with
      | connectNode command =>
          intro entry hmem
          obtain rfl := List.mem_singleton.1 hmem
          exact ⟨he, rfl⟩
      | disconnectNode command => exact he.elim
      | _ => intro entry hmem; cases hmem
  | _ => intro entry hmem; cases hmem

/-- Where nothing is erased, the nodes of the directory are those that were written. -/
theorem Directory.foldl_write_isSome {entries : List (NodeId × Option NodeInfo)}
    (hsome : ∀ entry ∈ entries, entry.2.isSome) (directory : Directory) (k : NodeId) :
    (entries.foldl Directory.write directory k).isSome ↔ (directory k).isSome ∨ k ∈ entries.map Prod.fst := by
  induction entries generalizing directory with
  | nil => simp
  | cons entry entries ih =>
      rw [List.forall_mem_cons] at hsome
      rw [List.foldl_cons, ih hsome.2, List.map_cons, List.mem_cons, Directory.write]
      by_cases hk : k = entry.1
      · subst hk
        simp [hsome.1]
      · simp [hk]

/-- A network that is configured with the nodes `ids`, itself among them, and meets only messages that list them,
    knows exactly these nodes. -/
theorem Host.directory_isSome_of_lists {sha256 : String → String} {now : DateTime} {info : NodeInfo} {ring : Ring}
    {seeds : List NodeInfo} {ids : List NodeId} {es : List HostEvent} {h : Host}
    (hrun : Runs (Host.Step sha256) (Host.new now (info.nodeId sha256) info ring)
      (.configureWith seeds :: .started :: es) h)
    (hids : ∀ k, k ∈ seeds.map (NodeInfo.nodeId sha256) ↔ k ∈ ids) (hown : info ∈ seeds)
    (hlists : ∀ e ∈ es, e.Lists ids) (k : NodeId) : (h.directory k).isSome ↔ k ∈ ids := by
  have hes : ∀ entry ∈ es.flatMap (HostEvent.updates sha256), entry.1 ∈ ids ∧ entry.2.isSome := by
    intro entry hmem
    obtain ⟨e, he, hentry⟩ := List.mem_flatMap.1 hmem
    exact (hlists e he).updates sha256 entry hentry
  have hkeys : ∀ k, k ∈ ((HostEvent.configureWith seeds :: .started :: es).flatMap
      (HostEvent.updates sha256)).map Prod.fst ↔
        k ∈ ids ∨ k ∈ (es.flatMap (HostEvent.updates sha256)).map Prod.fst := by
    intro k
    rw [← hids, List.flatMap_cons, List.flatMap_cons, List.map_append, List.map_append, List.mem_append,
      List.mem_append]
    simp [HostEvent.updates]
  have hwritten : ∀ entry ∈ (HostEvent.configureWith seeds :: .started :: es).flatMap (HostEvent.updates sha256),
      entry.2.isSome := by
    intro entry hmem
    simp only [List.flatMap_cons, HostEvent.updates, List.nil_append, List.mem_append, List.mem_map] at hmem
    rcases hmem with ⟨n, -, rfl⟩ | hmem
    · rfl
    · exact (hes entry hmem).2
  rw [directory_of_runs hrun, Directory.after, Directory.foldl_write_isSome hwritten, hkeys]
  constructor
  · rintro (hnew | hmem | hmem)
    · -- the network is created with its own node
      by_cases hk : k = info.nodeId sha256
      · rw [hk, ← hids]
        exact List.mem_map_of_mem hown
      · rw [Function.update_of_ne hk] at hnew
        cases hnew
    · exact hmem
    · obtain ⟨entry, hentry, rfl⟩ := List.mem_map.1 hmem
      exact (hes entry hentry).1
  · intro hmem
    exact .inr (.inl hmem)

/-- The run of a network that meets only messages that list the nodes `ids`. -/
def Host.RunsListed (sha256 : String → String) (ids : List NodeId) (h h' : Host) : Prop :=
  ∃ es, (∀ e ∈ es, e.Lists ids) ∧ Runs (Step sha256) h es h'

namespace Host.RunsListed

variable {sha256 : String → String} {ids : List NodeId} {h h₁ h₂ : Host}

theorem trans (h₀₁ : RunsListed sha256 ids h h₁) (h₁₂ : RunsListed sha256 ids h₁ h₂) :
    RunsListed sha256 ids h h₂ := by
  obtain ⟨es, hes, hrun⟩ := h₀₁
  obtain ⟨es', hes', hrun'⟩ := h₁₂
  refine ⟨es ++ es', fun e he => ?_, hrun.append hrun'⟩
  rcases List.mem_append.1 he with he | he
  · exact hes e he
  · exact hes' e he

theorem step {e : HostEvent} (he : e.Lists ids) (hstep : Step sha256 h e h₁) : RunsListed sha256 ids h h₁ :=
  ⟨[e], List.forall_mem_singleton.2 he, .cons hstep (.nil _)⟩

theorem of_serve {events : List HostEvent} (hevents : ∀ e ∈ events, e.Lists ids)
    (hserve : h.serve sha256 events = .ok h₁) : RunsListed sha256 ids h h₁ := by
  obtain ⟨es, hsub, hrun⟩ := serve_runs_subset hserve
  exact ⟨es, fun e he => hevents e (hsub he), hrun⟩

end Host.RunsListed

/-! ## Building and starting -/

/-- Until a build is done, its network meets only messages that list the nodes `ids`. -/
structure BuildEnv.Lists (env : BuildEnv) (ids : List NodeId) : Prop where
  beforeBind : ∀ e ∈ env.beforeBind, e.Lists ids
  beforeRegister : ∀ e ∈ env.beforeRegister, e.Lists ids

namespace RaftSystemBuilder

variable {crates : Crates ν} {sha256 : String → String} {env : BuildEnv} {c : Configuration} {ids : List NodeId}

theorem bindRaftEndpoint_runs {b : RaftSystemBuilder} {network : NetworkAddr} {h₁ h₂ : Host}
    (hlists : env.Lists ids) (hbind : b.bindRaftEndpoint sha256 env network (.ok h₁) = .ok (.ok h₂)) :
    Host.RunsListed sha256 ids h₁ h₂ := by
  obtain ⟨-, -, hbound⟩ := bind_eq_ok.1 hbind
  have hbound := Except.ok.inj hbound
  split at hbound
  · cases hbound
  · next host hserve =>
      refine (Host.RunsListed.of_serve hlists.beforeBind hserve).trans ?_
      split at hbound
      · next hserver =>
          refine .step (e := .message (.bindEndpoint (env.startServer (b.serverData.getD { network })))) trivial ?_
          rw [← Except.ok.inj hbound]
          show Except.ok { host with network := (host.network.handleBindEndpoint _).1 } = _
          rw [hserver]
      · cases hbound

theorem registerRaftWithNetwork_runs {h₁ h₂ : Host} {raft : RaftActor} (hlists : env.Lists ids)
    (hreg : registerRaftWithNetwork sha256 env h₁ raft = .ok h₂) : Host.RunsListed sha256 ids h₁ h₂ := by
  unfold registerRaftWithNetwork at hreg
  split at hreg
  · cases hreg
  · next host hserve =>
      refine (Host.RunsListed.of_serve hlists.beforeRegister hserve).trans ?_
      split at hreg
      · cases hreg
      · next hraft =>
          refine .step (e := .message (.registerRaft raft.addr)) trivial ?_
          rw [← Except.ok.inj hreg]
          exact (orPanic_eq_ok _ _).2 (by simp only [Host.handle, hraft, Except.map])
      · cases hreg

/-- The network of a built system is the one of its host, configured with the seed nodes and started. -/
theorem build_runs {b : RaftSystemBuilder} (hnetwork : b.network = none) (hconfig : b.config = some c)
    (hlists : env.Lists ids) {system : RaftSystem} {h : Host}
    (hbuild : b.build crates sha256 env = .ok (.ok (system, h))) :
    ∃ info h₁, c.seedNodes[c.host]? = some info ∧
      Runs (Host.Step sha256) (newNetwork sha256 env c info) [.configureWith (env.iterate c.seedNodes), .started] h₁ ∧
      Host.RunsListed sha256 ids h₁ h := by
  obtain ⟨factory, hfactory⟩ : ∃ factory, b.storageFactory = some factory := by
    refine Option.isSome_iff_exists.1 (Option.isSome_iff_ne_none.2 fun hnone => ?_)
    obtain ⟨err, herr⟩ : ∃ err, b.build crates sha256 env = .ok (.error err) := build_refused (.inr hnone)
    rw [hbuild] at herr
    cases Except.ok.inj herr
  rw [build_eq crates sha256 env hnetwork hconfig hfactory] at hbuild
  obtain ⟨h₀, hnew, hbuild⟩ := bind_eq_ok.1 hbuild
  obtain ⟨config, -, hbuild⟩ := bind_eq_ok.1 hbuild
  obtain ⟨storage, -, hconnect⟩ := bind_eq_ok.1 hbuild
  obtain ⟨info, hhost, hconf⟩ := configuredNetwork_eq_ok hnew
  rw [Host.started_eq] at hconnect
  obtain ⟨bound, hbind, hconnect⟩ := bind_eq_ok.1 hconnect
  obtain ⟨h₂, hbound, hconnect⟩ := bind_eq_ok.1 (Except.ok.inj hconnect)
  obtain ⟨h₃, hreg, hsystem⟩ := bind_eq_ok.1 hconnect
  rw [hbound] at hbind
  simp only [hhost, Except.ok.injEq, Prod.mk.injEq] at hsystem
  obtain ⟨-, rfl⟩ := hsystem
  have hstart : Host.Step sha256 h₀ .started _ := (orPanic_eq_ok _ _).2 (Host.started_eq h₀)
  exact ⟨info, _, hhost, .cons hconf (.cons hstart (.nil _)),
    (bindRaftEndpoint_runs hlists hbind).trans (registerRaftWithNetwork_runs hlists hreg)⟩

end RaftSystemBuilder

/-- The ids of the nodes that are left when `nodes` are collected by name. -/
def seedIds (sha256 : String → String) (nodes : List NodeInfo) : List NodeId :=
  (Configuration.collectSeedNodes nodes).toList.map fun entry => entry.2.nodeId sha256

theorem Configuration.map_seedValues {c : Configuration} {nodes : List NodeInfo}
    (hc : c.seedNodes = collectSeedNodes nodes) (sha256 : String → String) :
    c.seedValues.map (NodeInfo.nodeId sha256) = seedIds sha256 nodes := by
  rw [seedValues, hc, List.map_map]
  rfl

theorem Configuration.mem_seedIds {c : Configuration} {nodes : List NodeInfo}
    (hc : c.seedNodes = collectSeedNodes nodes) (sha256 : String → String) (k : NodeId) :
    k ∈ seedIds sha256 nodes ↔ ∃ n, lookup NodeInfo.name nodes n.name = some n ∧ n.nodeId sha256 = k := by
  rw [← map_seedValues hc, List.mem_map]
  simp only [mem_seedValues hc]

/-- A process of a cluster. Its configuration lists `nodes` and is loaded for one of them, and a system is built from
    it. Until the network is asked for the nodes, only configured nodes connect. -/
structure Boot (crates : Crates ν) (sha256 : String → String) (nodes : List NodeInfo) where
  host : String
  layers : Layer String ν
  schema : ConfigSchema
  schema_eq : crates.tryInto layers = .ok schema
  nodes_eq : schema.nodes = nodes
  configuration : Configuration
  loaded : Configuration.loadFromConfig crates host layers = .ok (.ok configuration)
  builder : RaftSystemBuilder
  network_eq : builder.network = none
  config_eq : builder.config = some configuration
  env : BuildEnv
  env_lists : env.Lists (seedIds sha256 nodes)
  system : RaftSystem
  built : Host
  build_eq : builder.build crates sha256 env = .ok (.ok (system, built))
  asked : Host
  runs : Host.RunsListed sha256 (seedIds sha256 nodes) built asked

namespace Boot

variable {crates : Crates ν} {sha256 : String → String} {nodes : List NodeInfo}

theorem seedNodes_eq (p : Boot crates sha256 nodes) :
    p.configuration.seedNodes = Configuration.collectSeedNodes nodes := by
  obtain ⟨c, hok, -, hseeds⟩ := Configuration.loadFromConfig_eq_ok p.schema_eq p.loaded
  rw [Except.ok.inj hok, hseeds, p.nodes_eq]

/-- When it is asked, the network of the process knows the configured nodes, its own among them. -/
theorem asked_directory (p : Boot crates sha256 nodes) :
    Host.WellFormed p.asked ∧ p.asked.network.id ∈ seedIds sha256 nodes ∧
      ∀ k, (p.asked.directory k).isSome ↔ k ∈ seedIds sha256 nodes := by
  obtain ⟨info, h₁, hinfo, hconf, hbuilt⟩ :=
    RaftSystemBuilder.build_runs p.network_eq p.config_eq p.env_lists p.build_eq
  obtain ⟨es, hes, hrun⟩ := hbuilt.trans p.runs
  have hall := hconf.append hrun
  have hperm := p.env.iterate_perm p.configuration.seedNodes
  have hids : ∀ k, k ∈ (p.env.iterate p.configuration.seedNodes).map (NodeInfo.nodeId sha256) ↔
      k ∈ seedIds sha256 nodes := by
    intro k
    rw [(hperm.map _).mem_iff, ← Configuration.map_seedValues p.seedNodes_eq]
    rfl
  have hown : info ∈ p.env.iterate p.configuration.seedNodes := by
    rw [hperm.mem_iff, List.mem_map]
    exact ⟨_, Std.ExtTreeMap.mem_toList_iff_getElem?_eq_some.2 hinfo, rfl⟩
  refine ⟨Host.Reachable.wellFormed ⟨_, _, _, _, _, hall⟩, ?_,
    Host.directory_isSome_of_lists hall hids hown hes⟩
  rw [← hids, Host.runs_network_id hall]
  exact List.mem_map_of_mem hown

end Boot

/-- **Processes agree on the members.** Any two processes whose configurations list the same nodes, and which
    disconnect none of them before they ask for the members, initialize Raft with the same members, each once: the ids
    of the nodes that are left when the list is collected by name. The node of each process is among them. -/
theorem boot_agreement {crates crates' : Crates ν} {sha256 : String → String} {nodes : List NodeInfo}
    (p : Boot crates sha256 nodes) (p' : Boot crates' sha256 nodes)
    (iterate iterate' : ConnectedNodes → List (NodeId × Option NodeInfo))
    (hiterate : ∀ connected, (iterate connected).Perm connected.toList)
    (hiterate' : ∀ connected, (iterate' connected).Perm connected.toList) :
    ∃ members members', p.system.started iterate (.ok p.asked.network.handleGetConnectedNodes) = some { members } ∧
      p'.system.started iterate' (.ok p'.asked.network.handleGetConnectedNodes) = some { members := members' } ∧
      members.Nodup ∧ members.Perm members' ∧ p.asked.network.id ∈ members ∧ p'.asked.network.id ∈ members ∧
      ∀ k, k ∈ members ↔ ∃ n, lookup NodeInfo.name nodes n.name = some n ∧ n.nodeId sha256 = k := by
  obtain ⟨hw, hid, hasked⟩ := p.asked_directory
  obtain ⟨hw', hid', hasked'⟩ := p'.asked_directory
  obtain ⟨members, hstarted, hnodup, hmem⟩ := p.system.started_members hw hiterate
  obtain ⟨members', hstarted', hnodup', hmem'⟩ := p'.system.started_members hw' hiterate'
  have hids : ∀ k, k ∈ members ↔ k ∈ seedIds sha256 nodes := fun k => (hmem k).trans (hasked k)
  have hids' : ∀ k, k ∈ members' ↔ k ∈ seedIds sha256 nodes := fun k => (hmem' k).trans (hasked' k)
  refine ⟨members, members', hstarted, hstarted', hnodup, ?_, (hids _).2 hid, (hids _).2 hid', fun k => ?_⟩
  · exact (List.perm_ext_iff_of_nodup hnodup hnodup').2 fun k => (hids k).trans (hids' k).symm
  · rw [hids, Configuration.mem_seedIds p.seedNodes_eq]

section Sample

open RaftScaffold.Configuration RaftSystemBuilder

/-- Every host of the sample configuration can be started in quiet surroundings. -/
theorem exists_sampleBoot (host : String) (info : NodeInfo)
    (hhost : (collectSeedNodes sampleNodes)[host]? = some info) :
    ∃ p : Boot (sampleCrates (sampleSchema sampleNodes)) sampleSha256 sampleNodes, p.host = host := by
  obtain ⟨system, built, hbuild⟩ : ∃ system built, (sampleBuilder 7 host).build
      (sampleCrates (sampleSchema sampleNodes)) sampleSha256 quietEnv = .ok (.ok (system, built)) :=
    build_quiet rfl rfl rfl hhost (sampleLoaded_converts host) rfl
  refine ⟨{ host, layers := fun _ => none, schema := sampleSchema sampleNodes, schema_eq := rfl, nodes_eq := rfl
            configuration := sampleLoaded host, loaded := ?_, builder := sampleBuilder 7 host, network_eq := rfl
            config_eq := rfl, env := quietEnv, env_lists := ⟨nofun, nofun⟩, system, built, build_eq := hbuild
            asked := built, runs := ⟨[], nofun, .nil _⟩ }, rfl⟩
  have hschema : (sampleCrates (sampleSchema sampleNodes)).tryInto (fun _ => none) =
      .ok (sampleSchema sampleNodes) := rfl
  simp only [loadFromConfig, hschema, ofSchema_sampleSchema, bind, Except.bind, sampleLoaded]

/-- Two hosts of the sample configuration, whose hash maps yield the nodes in opposite orders. -/
theorem boot_agreement_sample :
    ∃ p p' : Boot (sampleCrates (sampleSchema sampleNodes)) sampleSha256 sampleNodes,
      p.host = "node_a" ∧ p'.host = "node_b" ∧ ∃ members members',
        p.system.started (fun connected => connected.toList) (.ok p.asked.network.handleGetConnectedNodes) =
          some { members } ∧
        p'.system.started (fun connected => connected.toList.reverse)
          (.ok p'.asked.network.handleGetConnectedNodes) = some { members := members' } ∧ members.Perm members' := by
  obtain ⟨p, hp⟩ := exists_sampleBoot "node_a" (sampleNode "node_a" 0)
    (by rw [collectSeedNodes_lookup]; decide)
  obtain ⟨p', hp'⟩ := exists_sampleBoot "node_b" (sampleNode "node_b" 1)
    (by rw [collectSeedNodes_lookup]; decide)
  obtain ⟨members, members', hstarted, hstarted', -, hperm, -⟩ := boot_agreement p p'
    (fun connected => connected.toList) (fun connected => connected.toList.reverse) (fun _ => List.Perm.refl _)
    (fun _ => List.reverse_perm _)
  exact ⟨p, p', hp, hp', members, members', hstarted, hstarted', hperm⟩

end Sample

end RaftScaffold
