import RaftScaffold.Raft.System

set_option autoImplicit false

/-! # Looking a node up by its address

`Handler<GetNode>` finds a node by its id in the node table, and one by its address through the hash ring. The
ring of a built network starts without nodes and no message puts one into it (`BuilderReachable.ring_empty`), so
that every address leads to the fallback id 0. When that is the right answer is
`lookup_iff`. -/

namespace RaftScaffold

open Transition

namespace Network

/-- `Handler<GetNode>`; `ringNode` is `HashRing::get_node`. -/
def handleGetNode (ringNode : Ring → String → Option NodeId) (self : Network) (msg : GetNode) :
    Except NetworkError (NodeId × Option NodeInfo) :=
  let nodeId := msg.nodeId.getD ((msg.clusterAddress.bind (ringNode self.ring)).getD 0)
  let info := self.nodes[nodeId]?.bind NodeRef.info
  .ok (nodeId, info)

/-- The info of an entry of the table. -/
def infoAt (self : Network) (k : NodeId) : Option NodeInfo := self.nodes[k]?.bind NodeRef.info

/-- The lookup by an address is right: it finds the only entry with the address, as the lookup by its id does,
    and for an address that no entry has it answers no registered node's info. -/
structure LooksUp (ringNode : Ring → String → Option NodeId) (network : Network) (address : String) :
    Prop where
  found : ∀ k info, network.infoAt k = some info → info.clusterAddress = address →
    (∀ k' info', network.infoAt k' = some info' → info'.clusterAddress = address → k' = k) →
      network.handleGetNode ringNode (.forClusterAddress address) = .ok (k, some info) ∧
        network.handleGetNode ringNode (.forClusterAddress address) =
          network.handleGetNode ringNode (.forId k)
  unknown : (∀ k info, network.infoAt k = some info → info.clusterAddress ≠ address) →
    ∀ id info, network.handleGetNode ringNode (.forClusterAddress address) = .ok (id, some info) →
      ∀ k, network.infoAt k ≠ some info

/-- The fallback id is right: it is the id of the only entry with the address, and it is not registered if no
    entry has the address. -/
structure FallbackFits (network : Network) (address : String) : Prop where
  found : ∀ k info, network.infoAt k = some info → info.clusterAddress = address →
    (∀ k' info', network.infoAt k' = some info' → info'.clusterAddress = address → k' = k) → k = 0
  unknown : (∀ k info, network.infoAt k = some info → info.clusterAddress ≠ address) → 0 ∉ network.nodes

theorem handleGetNode_forId (ringNode : Ring → String → Option NodeId) (network : Network) (k : NodeId) :
    network.handleGetNode ringNode (.forId k) = .ok (k, network.infoAt k) := rfl

/-- On an empty ring every address leads to id 0. -/
theorem handleGetNode_forClusterAddress {ringNode : Ring → String → Option NodeId} {network : Network}
    {address : String} (hring : ringNode network.ring address = none) :
    network.handleGetNode ringNode (.forClusterAddress address) = .ok (0, network.infoAt 0) := by
  simp only [handleGetNode, GetNode.forClusterAddress, Option.getD_none, Option.bind_some, hring]
  rfl

end Network

/-- Every entry of a well-formed table has an info. -/
theorem Host.WellFormed.exists_infoAt {h : Host} (hw : Host.WellFormed h) {k : NodeId}
    (hmem : k ∈ h.network.nodes) : ∃ info, h.network.infoAt k = some info := by
  obtain ⟨nodeRef, hentry⟩ := (NodeTable.mem_iff _ _).1 hmem
  obtain ⟨info, hinfo, -⟩ := (hw.entries k nodeRef hentry).served
  refine ⟨info, ?_⟩
  rw [Network.infoAt, hentry, Option.bind_some, hinfo]

/-! ## The network of a builder -/

/-- The states that a network created by a builder reaches once it is started. -/
def BuilderReachable (sha256 : String → String) (h : Host) : Prop :=
  ∃ (b : RaftSystemBuilder) (env : BuildEnv) (network : NetworkAddr) (h₁ : Host) (es : List HostEvent),
    b.network = none ∧ b.buildNetworkIfNeeded sha256 env = .ok (network, .ok h₁) ∧
      (∀ e ∈ es, e.IsRuntime) ∧ Runs (Host.Step sha256) h₁ es h

/-- No event puts a node into the ring. -/
theorem Host.Effect.ring {sha256 : String → String} {h h' : Host} {e : HostEvent}
    (heff : h.Effect sha256 e h') : h'.network.ring = h.network.ring := by
  refine heff.network_rule (P := fun network => network.ring = h.network.ring) rfl
    (fun _ _ _ hring => hring) (fun _ _ hring => hring) (fun _ _ => rfl) (fun _ => rfl)
    (fun _ _ _ _ _ => rfl) (fun msg _ => ?_) (fun _ _ => rfl)
  rw [Network.handleNodeStatusChange_eq]

/-- A builder's network is a new one, configured and started. -/
theorem BuilderReachable.cases {sha256 : String → String} {h : Host} (hr : BuilderReachable sha256 h) :
    ∃ now id info replicas es,
      Runs (Host.Step sha256) (Host.new now id info (Ring.new replicas)) es h := by
  obtain ⟨b, env, network, h₁, es, hnone, hbuild, -, hrun⟩ := hr
  rw [RaftSystemBuilder.buildNetworkIfNeeded, hnone] at hbuild
  obtain ⟨c, -, hbuild⟩ := bind_eq_ok.1 hbuild
  obtain ⟨h₀, hnew, hbuild⟩ := bind_eq_ok.1 hbuild
  obtain ⟨info, -, hconf⟩ := RaftSystemBuilder.configuredNetwork_eq_ok hnew
  have hstarted : h₀.started = .ok h₁ := (Prod.mk.inj (Except.ok.inj hbuild)).2
  have hstart : Host.Step sha256 h₀ .started h₁ := (orPanic_eq_ok _ _).2 hstarted
  exact ⟨_, _, _, _, _, .cons hconf (.cons hstart hrun)⟩

theorem BuilderReachable.reachable {sha256 : String → String} {h : Host} (hr : BuilderReachable sha256 h) :
    Host.Reachable sha256 h := by
  obtain ⟨now, id, info, replicas, es, hrun⟩ := hr.cases
  exact ⟨now, id, info, _, es, hrun⟩

theorem BuilderReachable.ring_empty {sha256 : String → String} {h : Host}
    (hr : BuilderReachable sha256 h) : h.network.ring.nodes = [] := by
  obtain ⟨now, id, info, replicas, es, hrun⟩ := hr.cases
  refine hrun.invariant (I := fun host => host.network.ring.nodes = []) (fun _ _ _ hring hstep => ?_) rfl
  rw [(Host.step_cases hstep).ring, hring]

/-- **When the lookup by address is right**, in every state that a builder's network reaches. -/
theorem lookup_iff (ringNode : Ring → String → Option NodeId)
    (hempty : ∀ (ring : Ring) (address : String), ring.nodes = [] → ringNode ring address = none)
    (sha256 : String → String) (h : Host) (hr : BuilderReachable sha256 h) (address : String) :
    h.network.LooksUp ringNode address ↔ h.network.FallbackFits address := by
  have hanswer := Network.handleGetNode_forClusterAddress (hempty h.network.ring address hr.ring_empty)
  constructor
  · intro hlookup
    constructor
    · intro k info hinfo haddress hunique
      have hfound := (hlookup.found k info hinfo haddress hunique).1
      rw [hanswer] at hfound
      exact (Prod.mk.inj (Except.ok.inj hfound)).1.symm
    · intro hnone hmem
      -- the entry under id 0 has an info, and the lookup answers it
      obtain ⟨info, hinfo⟩ := hr.reachable.wellFormed.exists_infoAt hmem
      rw [hinfo] at hanswer
      exact hlookup.unknown hnone 0 info hanswer 0 hinfo
  · intro hfits
    constructor
    · intro k info hinfo haddress hunique
      obtain rfl := hfits.found k info hinfo haddress hunique
      rw [hanswer, Network.handleGetNode_forId, hinfo]
      exact ⟨rfl, rfl⟩
    · intro hnone id info hanswered
      have hat : h.network.infoAt 0 = none := by
        have hmem := hfits.unknown hnone
        rw [Std.ExtTreeMap.mem_iff_isSome_getElem?, Option.not_isSome_iff_eq_none] at hmem
        rw [Network.infoAt, hmem, Option.bind_none]
      rw [hanswer, hat] at hanswered
      cases (Prod.mk.inj (Except.ok.inj hanswered)).2

/-! ## The entries of a network that was just built -/

namespace Host

/-- Starting changes no info. -/
theorem started_infoAt {h h₁ : Host} (hstarted : h.started = .ok h₁) (k : NodeId) :
    h₁.network.infoAt k = h.network.infoAt k := by
  have hsame : ∀ (entries : List (NodeId × NodeRef)) (h' : Host),
      (∀ entry ∈ entries, h.network.nodes[entry.1]? = some entry.2) →
      (∀ k, h'.network.infoAt k = h.network.infoAt k) →
        ∀ k, (entries.foldl startEntry h').network.infoAt k = h.network.infoAt k := by
    intro entries
    induction entries with
    | nil => exact fun _ _ hinfo => hinfo
    | cons entry entries ih =>
        intro h' hentries hinfo
        rw [List.forall_mem_cons] at hentries
        refine ih (h'.startEntry entry) hentries.2 fun k => ?_
        unfold startEntry
        split
        · next info hentry =>
            -- the entry is registered with the info that it has
            rw [Network.infoAt, registered_lookup]
            split
            · next hk =>
                rw [hk, Network.infoAt, hentries.1, Option.bind_some, Option.bind_some, hentry]
                rfl
            · exact hinfo k
        · exact hinfo k
  rw [started_eq] at hstarted
  obtain rfl := Except.ok.inj hstarted
  exact hsame _ h (fun entry hmem => Std.ExtTreeMap.mem_toList_iff_getElem?_eq_some.1 hmem)
    (fun _ => rfl) k

end Host

/-- The table of a network that was just built has only seed nodes, under their node ids. -/
theorem RaftSystemBuilder.configuredNetwork_infoAt {sha256 : String → String} {env : BuildEnv}
    {c : Configuration} {h : Host} (hnew : configuredNetwork sha256 env c = .ok h) {k : NodeId}
    {info : NodeInfo} (hinfo : h.network.infoAt k = some info) :
    info ∈ c.seedValues ∧ k = info.nodeId sha256 := by
  obtain ⟨own, hown, hconf⟩ := configuredNetwork_eq_ok hnew
  obtain rfl := Except.ok.inj hconf
  have hownSeed : own ∈ c.seedValues := by
    have hentry := Std.ExtTreeMap.mem_toList_iff_getElem?_eq_some.2 hown
    exact List.mem_map.2 ⟨(c.host, own), hentry, rfl⟩
  rw [Network.infoAt, Network.configureWith_lookup] at hinfo
  cases hfound : Keyed.lookup (NodeInfo.nodeId sha256) (env.iterate c.seedNodes) k with
  | some seed =>
      rw [hfound] at hinfo
      obtain rfl : seed = info := Option.some.inj hinfo
      obtain ⟨hmem, hkey⟩ := Keyed.mem_of_lookup hfound
      exact ⟨(env.iterate_perm c.seedNodes).mem_iff.1 hmem, hkey.symm⟩
  | none =>
      rw [hfound] at hinfo
      simp only [Option.map_none, Option.none_or, newNetwork, Host.new, Network.new,
        NodeTable.lookup_insert] at hinfo
      split at hinfo
      · next hk =>
          obtain rfl : own = info := Option.some.inj hinfo
          exact ⟨hownSeed, hk⟩
      · simp at hinfo

/-! ## The sample builder's network -/

namespace RaftSystemBuilder

open RaftScaffold.Configuration

theorem mem_seedValues_sampleLoaded {host : String} {info : NodeInfo} :
    info ∈ (sampleLoaded host).seedValues ↔ info ∈ sampleNodes := by
  have hseeds : (sampleLoaded host).seedNodes = collectSeedNodes sampleNodes := rfl
  rw [mem_seedValues hseeds]
  constructor
  · intro hfound
    exact (Keyed.mem_of_lookup hfound).1
  · intro hmem
    exact Keyed.lookup_of_injOn sampleNodes_distinct.1 hmem

/-- The sample builder's network starts, and lists only the two sample nodes. -/
theorem sampleBuilder_started :
    ∃ h, BuilderReachable sampleSha256 h ∧
      h.network.infoAt ((sampleNode "node_a" 0).nodeId sampleSha256) = some (sampleNode "node_a" 0) ∧
      ∀ k info, h.network.infoAt k = some info → info ∈ sampleNodes ∧ k = info.nodeId sampleSha256 := by
  have hhost : (sampleLoaded "node_a").seedNodes["node_a"]? = some (sampleNode "node_a" 0) := by
    show (collectSeedNodes sampleNodes)["node_a"]? = _
    rw [collectSeedNodes_lookup]
    decide
  obtain ⟨h, h₁, hnew, hstarted, hjust, hid, hmem⟩ :=
    configuredNetwork_started sampleSha256 quietEnv (c := sampleLoaded "node_a") hhost
  have hlisted : ∀ k info, h₁.network.infoAt k = some info →
      info ∈ sampleNodes ∧ k = info.nodeId sampleSha256 := by
    intro k info hinfo
    rw [Host.started_infoAt hstarted] at hinfo
    obtain ⟨hseed, hk⟩ := configuredNetwork_infoAt hnew hinfo
    exact ⟨mem_seedValues_sampleLoaded.1 hseed, hk⟩
  refine ⟨h₁, ⟨sampleBuilder 7 "node_a", quietEnv, ⟨0⟩, h₁, [], rfl, ?_, by simp, .nil _⟩, ?_, hlisted⟩
  · rw [← hstarted]
    exact buildNetworkIfNeeded_eq rfl rfl hnew
  · -- the own entry has an info, which is that of the only sample node with its id
    rw [hid] at hmem
    obtain ⟨info, hinfo⟩ := hjust.reachable.wellFormed.exists_infoAt hmem
    obtain ⟨hsample, hk⟩ := hlisted _ info hinfo
    rw [hinfo, sampleNodes_distinct.2 hsample (by decide) hk.symm]

/-- A ring that yields its first node. -/
def firstNode (ring : Ring) (_ : String) : Option NodeId := ring.nodes.head?

theorem firstNode_empty (ring : Ring) (address : String) (hring : ring.nodes = []) :
    firstNode ring address = none := by rw [firstNode, hring, List.head?_nil]

/-- An address that no node has is answered with no info. -/
theorem lookup_unknown :
    ∃ h, BuilderReachable sampleSha256 h ∧ h.network.LooksUp firstNode "10.0.0.1:8000" := by
  obtain ⟨h, hr, -, hlisted⟩ := sampleBuilder_started
  refine ⟨h, hr, (lookup_iff firstNode firstNode_empty sampleSha256 h hr "10.0.0.1:8000").2 ⟨?_, ?_⟩⟩
  · intro k info hinfo haddress _
    have hother : ∀ n ∈ sampleNodes, n.clusterAddress ≠ "10.0.0.1:8000" := by decide
    exact absurd haddress (hother info (hlisted k info hinfo).1)
  · intro _ hmem
    obtain ⟨info, hinfo⟩ := hr.reachable.wellFormed.exists_infoAt hmem
    have hids : ∀ n ∈ sampleNodes, 0 ≠ n.nodeId sampleSha256 := by decide +kernel
    obtain ⟨hsample, hk⟩ := hlisted 0 info hinfo
    exact hids info hsample hk

/-- The address of the own node, which is in the table, is answered with id 0. -/
theorem lookup_fails :
    ∃ (ringNode : Ring → String → Option NodeId) (h : Host) (address : String),
      (∀ (ring : Ring) (address : String), ring.nodes = [] → ringNode ring address = none) ∧
        BuilderReachable sampleSha256 h ∧ ¬ h.network.LooksUp ringNode address := by
  obtain ⟨h, hr, hown, hlisted⟩ := sampleBuilder_started
  refine ⟨firstNode, h, (sampleNode "node_a" 0).clusterAddress, firstNode_empty, hr, fun hlookup => ?_⟩
  have haddress : ∀ n ∈ sampleNodes, n.clusterAddress = (sampleNode "node_a" 0).clusterAddress →
      n = sampleNode "node_a" 0 := by decide
  have hfound := (hlookup.found _ _ hown rfl fun k info hinfo hsame => by
    obtain ⟨hsample, hk⟩ := hlisted k info hinfo
    rw [hk, haddress info hsample hsame]).1
  rw [Network.handleGetNode_forClusterAddress (firstNode_empty _ _ hr.ring_empty)] at hfound
  have hid : 0 ≠ (sampleNode "node_a" 0).nodeId sampleSha256 := by decide +kernel
  exact hid (Prod.mk.inj (Except.ok.inj hfound)).1

end RaftSystemBuilder

end RaftScaffold
