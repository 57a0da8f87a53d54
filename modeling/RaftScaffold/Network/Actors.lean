import RaftScaffold.Network.NodeTable

set_option autoImplicit false

/-! # Which entries and actors an event touches

Two frame results about a host's step. An event writes the table entry of at most one node
(`Host.Effect.lookup`), and it starts actors for few nodes: for those it may have to register
(`Host.Effect.starts`). What an actor is for never changes: the node it stands for, and the id and info
of the network it belongs to (`NodeIdentity`). -/

namespace RaftScaffold

open Transition

/-! ## Entries -/

/-- The node whose entry an event of a running network may write. -/
def HostEvent.writes (own : NodeId) : HostEvent → Option NodeId
  | .message (.registerRaft _) => some own
  | .message (.connectNode command) => some command.id
  | .message (.disconnectNode command) => some command.id
  | _ => none

namespace Host

theorem registered_lookup_ne (h : Host) {id k : NodeId} (info : NodeInfo) (hk : k ≠ id) :
    (h.registered id info).network.nodes[k]? = h.network.nodes[k]? := by
  rw [registered_lookup, if_neg hk]

theorem connected_lookup_ne (h : Host) {command : ConnectNode} {k : NodeId} (hk : k ≠ command.id) :
    (h.connected command).network.nodes[k]? = h.network.nodes[k]? := by
  unfold connected
  split
  · rfl
  · exact registered_lookup_ne h _ hk

/-- After a `ConnectNode` the entry of the node holds the info of the request. -/
theorem connected_lookup_info (h : Host) (command : ConnectNode) :
    (h.connected command).network.nodes[command.id]?.bind NodeRef.info = some command.info := by
  unfold connected
  split
  · next hcurrent => exact hcurrent
  · rw [registered_lookup, if_pos rfl]
    rfl

/-- An event writes no entry but the one of the node it registers or removes. -/
theorem Effect.lookup {sha256 : String → String} {h h' : Host} {e : HostEvent} {k : NodeId}
    (heff : h.Effect sha256 e h') (hw : WellFormed h) (hruntime : e.IsRuntime)
    (hk : e.writes h.network.id ≠ some k) : h'.network.nodes[k]? = h.network.nodes[k]? := by
  cases habout : e.about h.network.id with
  | none => rw [(heff.sameMembership _ hruntime habout).nodes]
  | some id =>
      rcases about_cases habout with ⟨raft, rfl, -⟩ | ⟨msg, rfl, -⟩ | ⟨command, rfl, -⟩ |
        ⟨command, rfl, -⟩
      · have hne : k ≠ h.network.id := fun he => hk (by rw [he]; rfl)
        obtain ⟨_, info, -, -, ⟨addr, -, rfl⟩ | ⟨-, rfl⟩⟩ := hw.registersRaft_cases heff
        · rfl
        · exact registered_lookup_ne (h.withRaft raft) info hne
      · rw [heff, (Network.handleNodeStatusChange_frame h.network msg).1]
      · have hne : k ≠ command.id := fun he => hk (by rw [he]; rfl)
        obtain ⟨delegations, rfl⟩ := heff
        exact connected_lookup_ne h hne
      · have hne : k ≠ command.id := fun he => hk (by rw [he]; rfl)
        rw [heff, Network.handleDisconnectNode, NodeTable.lookup_erase, if_neg hne]

end Host

/-! ## Identities -/

/-- What an actor is for: the node it stands for, and the network it introduces to this node. -/
structure NodeIdentity where
  id : NodeId
  localId : NodeId
  localInfo : NodeInfo
  deriving DecidableEq, Repr

namespace NodeActor

def identity (self : NodeActor) : NodeIdentity :=
  { id := self.node.id, localId := self.node.localId, localInfo := self.node.localInfo }

theorem Effect.identity {a a' : NodeActor} {e : NodeEvent} (h : a.Effect e a') :
    a'.identity = a.identity := by
  rcases h.node with hnode | ⟨proximity, -, hnode⟩ <;> simp [NodeActor.identity, hnode]

end NodeActor

namespace Host

def identities (self : Host) : List NodeIdentity := self.actors.map NodeActor.identity

/-- How many actors have been started for node `k`. -/
def startedFor (self : Host) (k : NodeId) : Nat := self.actors.countP fun actor => actor.node.id = k

/-- `h'` is a later state of the network of `h`, which has started actors for the nodes `ids` since. -/
structure Starts (h h' : Host) (ids : List NodeId) : Prop where
  id : h'.network.id = h.network.id
  info : h'.network.info = h.network.info
  identities : h'.identities = h.identities ++
    ids.map fun id => { id, localId := h.network.id, localInfo := h.network.info }

theorem Starts.of_actors {h h' : Host} (hid : h'.network.id = h.network.id)
    (hinfo : h'.network.info = h.network.info) (hactors : h'.actors = h.actors) : Starts h h' [] :=
  ⟨hid, hinfo, by simp [Host.identities, hactors]⟩

theorem Starts.refl (h : Host) : Starts h h [] := .of_actors rfl rfl rfl

theorem Starts.trans {h h₁ h₂ : Host} {ids ids' : List NodeId} (hs : Starts h h₁ ids)
    (hs' : Starts h₁ h₂ ids') : Starts h h₂ (ids ++ ids') where
  id := hs'.id.trans hs.id
  info := hs'.info.trans hs.info
  identities := by
    rw [hs'.identities, hs.identities, hs.id, hs.info, List.map_append, List.append_assoc]

theorem startedFor_eq (h : Host) (k : NodeId) :
    h.startedFor k = (h.identities.map NodeIdentity.id).count k := by
  rw [startedFor, identities, List.map_map, List.count, List.countP_map]
  rfl

theorem Starts.startedFor {h h' : Host} {ids : List NodeId} (hs : Starts h h' ids) (k : NodeId) :
    h'.startedFor k = h.startedFor k + ids.count k := by
  rw [startedFor_eq, startedFor_eq, hs.identities, List.map_append, List.count_append, List.map_map]
  simp [Function.comp_def]

/-! ## What each handler starts -/

theorem registered_starts (h : Host) (id : NodeId) (info : NodeInfo) :
    ∃ ids, ids.Sublist [id] ∧ Starts h (h.registered id info) ids := by
  cases hprox : h.newProximity id info with
  | none =>
      refine ⟨[], List.nil_sublist _, .of_actors rfl rfl ?_⟩
      simp [registered, newActors, hprox]
  | some proximity =>
      refine ⟨[id], List.Sublist.refl _, rfl, rfl, ?_⟩
      simp [Host.identities, registered, newActors, hprox, NodeActor.identity, NodeActor.start, Node.new]

theorem startEntry_starts (h : Host) (entry : NodeId × NodeRef) :
    ∃ ids, ids.Sublist [entry.1] ∧ Starts h (h.startEntry entry) ids := by
  unfold startEntry
  split
  · exact registered_starts h _ _
  · exact ⟨[], List.nil_sublist _, .refl h⟩

theorem foldl_startEntry_starts (entries : List (NodeId × NodeRef)) (h : Host) :
    ∃ ids, ids.Sublist (entries.map Prod.fst) ∧ Starts h (entries.foldl startEntry h) ids := by
  induction entries generalizing h with
  | nil => exact ⟨[], List.nil_sublist _, .refl h⟩
  | cons entry entries ih =>
      obtain ⟨ids, hids, hs⟩ := startEntry_starts h entry
      obtain ⟨ids', hids', hs'⟩ := ih (h.startEntry entry)
      exact ⟨ids ++ ids', hids.append hids', hs.trans hs'⟩

/-- The nodes for which an event may start an actor. -/
def mayStart (self : Host) : HostEvent → List NodeId
  | .started => self.network.nodes.toList.map Prod.fst
  | .message (.registerRaft _) => [self.network.id]
  | .message (.connectNode command) =>
      if self.network.nodes[command.id]?.bind NodeRef.info = some command.info then [] else [command.id]
  | _ => []

theorem setActor_starts {h : Host} {addr : Addr} {actor actor' : NodeActor}
    (hactor : h.actorAt addr = some actor) (hidentity : actor'.identity = actor.identity)
    (outbox : List (Addr × NodeMsg)) :
    Starts h { h with outbox, actors := h.actors.set addr.index actor' } [] := by
  refine ⟨rfl, rfl, ?_⟩
  -- writing back the identity that is there changes nothing
  obtain ⟨hlt, rfl⟩ := List.getElem?_eq_some_iff.1 hactor
  simp only [Host.identities, List.map_nil, List.append_nil]
  rw [List.map_set, hidentity, ← List.map_set, List.set_getElem_self]

/-- **What an event starts.** -/
theorem Effect.starts {sha256 : String → String} {h h' : Host} {e : HostEvent}
    (heff : h.Effect sha256 e h') (hw : WellFormed h) :
    ∃ ids, ids.Sublist (h.mayStart e) ∧ Starts h h' ids := by
  have hnone : Starts h h' [] → ∃ ids, ids.Sublist (h.mayStart e) ∧ Starts h h' ids :=
    fun hs => ⟨[], List.nil_sublist _, hs⟩
  cases e with
  | configureWith seeds =>
      rw [heff, Network.configureWith_eq] at hnone ⊢
      exact hnone (.of_actors rfl rfl rfl)
  | started => rw [heff]; exact foldl_startEntry_starts _ h
  | message msg =>
      cases msg with
      | registerRaft raft =>
          obtain ⟨_, info, -, -, ⟨addr, -, rfl⟩ | ⟨-, rfl⟩⟩ := hw.registersRaft_cases heff
          · exact hnone (.of_actors rfl rfl rfl)
          · obtain ⟨ids, hids, hs⟩ := registered_starts (h.withRaft raft) h.network.id info
            exact ⟨ids, hids, hs.id, hs.info, hs.identities⟩
      | raftMetrics now metrics => obtain ⟨state, -, rfl⟩ := heff; exact hnone (.of_actors rfl rfl rfl)
      | bindEndpoint startServer => obtain ⟨server, rfl⟩ := heff; exact hnone (.of_actors rfl rfl rfl)
      | query query => obtain ⟨_, _, rfl⟩ := heff; exact hnone (.of_actors rfl rfl rfl)
      | handleNodeStatusChange msg =>
          rw [heff] at hnone ⊢
          rw [Network.handleNodeStatusChange_eq] at hnone ⊢
          exact hnone (.of_actors rfl rfl rfl)
      | connectNode command =>
          obtain ⟨delegations, rfl⟩ := heff
          simp only [mayStart, connected]
          split
          · exact ⟨[], List.nil_sublist _, .of_actors rfl rfl rfl⟩
          · obtain ⟨ids, hids, hs⟩ := registered_starts h command.id command.info
            exact ⟨ids, hids, hs.id, hs.info, hs.identities⟩
      | disconnectNode command => rw [heff] at hnone ⊢; exact hnone (.of_actors rfl rfl rfl)
  | delegate n =>
      obtain ⟨delegations, rfl | ⟨leader, command, rfl⟩⟩ := heff <;> exact hnone (.of_actors rfl rfl rfl)
  | deliver n =>
      obtain ⟨addr, msg, actor, actor', -, hactor, hstep, rfl⟩ := heff
      have hnode := (NodeActor.step_cases (hw.initialized addr actor hactor) hstep).2
      exact hnone (setActor_starts hactor hnode.identity _)
  | node addr event =>
      obtain ⟨-, actor, actor', hactor, hstep, rfl⟩ := heff
      have hnode := (NodeActor.step_cases (hw.initialized addr actor hactor) hstep).2
      exact hnone (setActor_starts hactor hnode.identity _)
  | wake n timer => obtain ⟨_, _, rfl⟩ := heff; exact hnone (.of_actors rfl rfl rfl)
  | forward n => obtain ⟨_, _, rfl⟩ := heff; exact hnone (.of_actors rfl rfl rfl)

/-- In every reachable state the actors introduce the network they belong to. -/
theorem Reachable.introduces {sha256 : String → String} {h : Host} (hr : Reachable sha256 h) :
    ∀ actor ∈ h.actors, actor.node.localId = h.network.id ∧ actor.node.localInfo = h.network.info := by
  suffices hall : ∀ x ∈ h.identities, x.localId = h.network.id ∧ x.localInfo = h.network.info from
    fun actor hmem => hall _ (List.mem_map_of_mem hmem)
  obtain ⟨now, id, info, ring, es, hrun⟩ := hr
  refine (hrun.invariant (I := fun h => WellFormed h ∧
    ∀ x ∈ h.identities, x.localId = h.network.id ∧ x.localInfo = h.network.info) ?_
    ⟨wellFormed_new now id info ring, fun x hx => by cases hx⟩).2
  rintro h e h' ⟨hw, hall⟩ hstep
  have heff := step_cases hstep
  refine ⟨heff.wellFormed hw, fun x hx => ?_⟩
  obtain ⟨ids, -, hs⟩ := heff.starts hw
  rw [hs.id, hs.info]
  rw [hs.identities] at hx
  rcases List.mem_append.1 hx with hold | hnew
  · exact hall x hold
  · obtain ⟨id, -, rfl⟩ := List.mem_map.1 hnew
    exact ⟨rfl, rfl⟩

/-! ## What starting a network starts -/

/-- A network that has just started runs one actor at most for a node in its table, and none for others.
    -/
theorem JustStarted.startedFor {sha256 : String → String} {h : Host} (hs : JustStarted sha256 h)
    (k : NodeId) :
    h.startedFor k ≤ 1 ∧ (h.network.nodes[k]? = none → h.startedFor k = 0) := by
  obtain ⟨now, id, info, ring, seedLists, hrun⟩ := hs
  obtain ⟨h₀, hconf, hstart⟩ := (Runs.append_iff _ _ _ _).1 hrun
  simp only [Runs.cons_iff, Runs.nil_iff] at hstart
  obtain ⟨h₁, hstep, rfl⟩ := hstart
  have heff := step_cases hstep
  have hkeep : k ∈ h₀.network.nodes → k ∈ h.network.nodes := fun hk => heff.mem_nodes hk (by simp)
  obtain rfl := heff
  have hnone : h₀.startedFor k = 0 := by
    refine hconf.invariant_of_forall (I := fun h => h.startedFor k = 0)
      (p := fun e => ∃ seeds, e = .configureWith seeds) ?_ ?_ rfl
    · rintro h e h' ⟨seeds, rfl⟩ hzero hstep
      obtain rfl := step_cases hstep
      exact hzero
    · intro e he
      obtain ⟨seeds, -, rfl⟩ := List.mem_map.1 he
      exact ⟨seeds, rfl⟩
  obtain ⟨ids, hids, hstarts⟩ := foldl_startEntry_starts h₀.network.nodes.toList h₀
  have hcount := hstarts.startedFor k
  have hle := hids.count_le k
  rw [Std.ExtTreeMap.map_fst_toList_eq_keys] at hle
  rw [hcount, hnone, Nat.zero_add]
  refine ⟨hle.trans (List.nodup_iff_count_le_one.1 Std.ExtTreeMap.nodup_keys k), fun habsent => ?_⟩
  have hnot : k ∉ h₀.network.nodes := by
    intro hk
    obtain ⟨_, hsome⟩ := (NodeTable.mem_iff _ _).1 (hkeep hk)
    rw [habsent] at hsome
    cases hsome
  have hzero : h₀.network.nodes.keys.count k = 0 :=
    List.count_eq_zero.2 fun hmem => hnot (Std.ExtTreeMap.mem_keys.1 hmem)
  omega

end Host

end RaftScaffold
