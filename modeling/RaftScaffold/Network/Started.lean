import RaftScaffold.Network.NodeTable

set_option autoImplicit false

/-! # A started network

Before `started` the entries of the table have no actors. `started` registers every entry, and from then on the
table is *complete*: every other node has its actor, and so does the local node as soon as a Raft actor is
registered (`Host.Complete`). Together with `Host.WellFormed` this describes the whole table
(`Host.nodeTable_invariant`). -/

namespace RaftScaffold

open Transition

namespace Host

/-- The entry of `k`, if there is one, has its actor; the local node may still wait for Raft. -/
def CompleteAt (h : Host) (k : NodeId) : Prop :=
  ∀ nodeRef, h.network.nodes[k]? = some nodeRef → (k = h.network.id → h.network.raft.isSome) →
    nodeRef.addr.isSome

def Complete (h : Host) : Prop := ∀ k, CompleteAt h k

/-! ## Registration completes an entry -/

theorem registered_completeAt_self (h : Host) (id : NodeId) (info : NodeInfo) :
    CompleteAt (h.registered id info) id := by
  intro nodeRef hlookup hraft
  rw [registered_lookup, if_pos rfl] at hlookup
  obtain rfl := Option.some.inj hlookup
  cases hprox : h.newProximity id info with
  | some proximity => simp [registeredRef, hprox]
  | none =>
      rcases newProximity_eq_none hprox with ⟨-, haddr⟩ | ⟨hown, hnone⟩
      · simpa [registeredRef, hprox] using haddr
      · have := hraft hown
        simp [hnone] at this

theorem CompleteAt.registered {h : Host} {k : NodeId} (hc : CompleteAt h k) (id : NodeId)
    (info : NodeInfo) : CompleteAt (h.registered id info) k := by
  by_cases hk : k = id
  · rw [hk]
    exact registered_completeAt_self h id info
  · intro nodeRef hlookup hraft
    rw [registered_lookup, if_neg hk] at hlookup
    exact hc nodeRef hlookup hraft

/-- Registering the entries one after another completes each of them. -/
theorem foldl_startEntry_completeAt (entries : List (NodeId × NodeRef)) (h : Host) (k : NodeId)
    (hk : CompleteAt h k ∨ ∃ nodeRef info, (k, nodeRef) ∈ entries ∧ nodeRef.info = some info) :
    CompleteAt (entries.foldl startEntry h) k := by
  -- an entry is completed when its turn comes and stays complete afterwards
  induction entries generalizing h with
  | nil =>
      rcases hk with hk | ⟨nodeRef, info, hmem, -⟩
      · exact hk
      · cases hmem
  | cons entry entries ih =>
      refine ih (h.startEntry entry) ?_
      have hkeep : CompleteAt h k → CompleteAt (h.startEntry entry) k := by
        intro hc
        unfold startEntry
        split
        · exact hc.registered _ _
        · exact hc
      rcases hk with hk | ⟨nodeRef, info, hmem, hinfo⟩
      · exact .inl (hkeep hk)
      · rcases List.mem_cons.1 hmem with rfl | hmem
        · refine .inl ?_
          simp only [startEntry, hinfo]
          exact registered_completeAt_self h k info
        · exact .inr ⟨nodeRef, info, hmem, hinfo⟩

theorem JustStarted.complete {sha256 : String → String} {h : Host} (hs : JustStarted sha256 h) :
    Complete h := by
  obtain ⟨now, id, info, ring, seedLists, hrun⟩ := hs
  obtain ⟨h₀, hconf, hstart⟩ := (Runs.append_iff _ _ _ _).1 hrun
  simp only [Runs.cons_iff, Runs.nil_iff] at hstart
  obtain ⟨h₁, hstep, rfl⟩ := hstart
  have hw : WellFormed h₀ := Reachable.wellFormed ⟨now, id, info, ring, _, hconf⟩
  obtain rfl := step_cases hstep
  intro k
  refine foldl_startEntry_completeAt _ _ _ ?_
  cases hlookup : h₀.network.nodes[k]? with
  | none =>
      refine .inl fun nodeRef hsome => ?_
      rw [hlookup] at hsome
      cases hsome
  | some nodeRef =>
      obtain ⟨info', hinfo', -⟩ := (hw.entries k nodeRef hlookup).served
      exact .inr ⟨nodeRef, info', Std.ExtTreeMap.mem_toList_iff_getElem?_eq_some.2 hlookup, hinfo'⟩

/-! ## Running keeps the table complete -/

theorem Complete.of_nodes {h h' : Host} (hc : Complete h) (hid : h'.network.id = h.network.id)
    (hraft : h'.network.raft = h.network.raft)
    (hnodes : ∀ (k : NodeId) (nodeRef : NodeRef), h'.network.nodes[k]? = some nodeRef →
      h.network.nodes[k]? = some nodeRef) : Complete h' := by
  intro k nodeRef hlookup hlocal
  rw [hid, hraft] at hlocal
  exact hc k nodeRef (hnodes k nodeRef hlookup) hlocal

theorem Complete.registersRaft {h h' : Host} {raft : RaftAddr} (hc : Complete h) (hw : WellFormed h)
    (heff : h.RegistersRaft raft h') : Complete h' := by
  have hothers : ∀ k, k ≠ h.network.id → CompleteAt (h.withRaft raft) k :=
    fun k hk nodeRef hlookup _ => hc k nodeRef hlookup fun hown => absurd hown hk
  obtain ⟨nodeRef, info, hlookup, -, ⟨addr, haddr, rfl⟩ | ⟨-, rfl⟩⟩ := hw.registersRaft_cases heff
  · intro k
    by_cases hk : k = h.network.id
    · intro nodeRef' hlookup' _
      rw [hk] at hlookup'
      obtain rfl := Option.some.inj (hlookup.symm.trans hlookup')
      rw [haddr]; rfl
    · exact hothers k hk
  · intro k
    by_cases hk : k = h.network.id
    · rw [hk]
      exact registered_completeAt_self _ _ _
    · exact (hothers k hk).registered _ _

theorem Effect.complete {sha256 : String → String} {h h' : Host} {e : HostEvent}
    (heff : h.Effect sha256 e h') (hruntime : e.IsRuntime) (hw : WellFormed h) (hc : Complete h) :
    Complete h' := by
  cases habout : e.about h.network.id with
  | none =>
      have hsame := heff.sameMembership _ hruntime habout
      exact hc.of_nodes hsame.id hsame.raft fun k nodeRef hlookup => by rwa [hsame.nodes] at hlookup
  | some id =>
      rcases about_cases habout with ⟨raft, rfl, -⟩ | ⟨msg, rfl, -⟩ | ⟨command, rfl, -⟩ |
        ⟨command, rfl, -⟩
      · exact hc.registersRaft hw heff
      · rw [heff]
        obtain ⟨hnodes, hraft, hid⟩ := Network.handleNodeStatusChange_frame h.network msg
        exact hc.of_nodes hid hraft fun k nodeRef hlookup => by rwa [hnodes] at hlookup
      · obtain ⟨delegations, rfl⟩ := heff
        suffices hconn : Complete (h.connected command) from
          hconn.of_nodes rfl rfl fun _ _ hlookup => hlookup
        unfold connected
        split
        · exact hc
        · exact fun k => (hc k).registered _ _
      · rw [heff]
        refine hc.of_nodes rfl rfl fun k nodeRef hlookup => ?_
        simp only [Network.handleDisconnectNode, NodeTable.lookup_erase] at hlookup
        -- an entry that is left was there before
        split at hlookup
        · cases hlookup
        · exact hlookup

theorem StartedReachable.reachable {sha256 : String → String} {h : Host}
    (hs : StartedReachable sha256 h) : Reachable sha256 h := by
  obtain ⟨h₀, es, hstarted, -, hrun⟩ := hs
  exact hstarted.reachable.runs hrun

theorem StartedReachable.complete {sha256 : String → String} {h : Host}
    (hs : StartedReachable sha256 h) : Complete h := by
  obtain ⟨h₀, es, hstarted, hruntime, hrun⟩ := hs
  refine (hrun.invariant_of_forall (I := fun h => WellFormed h ∧ Complete h) (p := HostEvent.IsRuntime)
    (fun h e h' hp hI hstep => ?_) hruntime ⟨hstarted.reachable.wellFormed, hstarted.complete⟩).2
  have heff := step_cases hstep
  exact ⟨heff.wellFormed hI.1, heff.complete hp hI.1 hI.2⟩

end Host

/-! ## The invariant of the node table -/

namespace Host

theorem JustStarted.raft {sha256 : String → String} {h : Host} (hs : JustStarted sha256 h) :
    h.network.raft = none := by
  obtain ⟨now, id, info, ring, seedLists, hrun⟩ := hs
  refine hrun.invariant_of_forall (I := fun h => h.network.raft = none)
    (p := fun e => ∀ raft, e ≠ .message (.registerRaft raft)) ?_ ?_ rfl
  · intro h e h' he hnone hstep
    exact ((step_cases hstep).raft he).trans hnone
  · intro e he raft hregister
    subst hregister
    simp at he

/-- A Raft actor is registered once a `RegisterRaft` has been handled. -/
theorem raft_isSome_of_runs {sha256 : String → String} {h h' : Host} {es : List HostEvent}
    (hrun : Runs (Step sha256) h es h') :
    h'.network.raft.isSome ↔ h.network.raft.isSome ∨ ∃ raft, HostEvent.message (.registerRaft raft) ∈ es := by
  induction hrun with
  | nil h => simp
  | @cons h h₁ h' e es hstep hrun ih =>
      have heff := step_cases hstep
      rw [ih]
      by_cases he : ∃ raft, e = .message (.registerRaft raft)
      · obtain ⟨raft, rfl⟩ := he
        exact iff_of_true (.inl (RegistersRaft.raft_isSome heff)) (.inr ⟨raft, List.mem_cons_self⟩)
      · rw [heff.raft fun raft heq => he ⟨raft, heq⟩]
        refine or_congr_right (exists_congr fun raft => ?_)
        rw [List.mem_cons, or_iff_right fun heq => he ⟨raft, heq.symm⟩]

/-- **Node table invariant.** In every state a started network reaches, each entry is filed under its id and
    has an info; another node's entry has an actor that reaches this node under its current info; the own
    entry has an actor exactly when a Raft actor is registered, and this actor is local. One is registered
    exactly when a `RegisterRaft` has been handled. -/
theorem nodeTable_invariant (sha256 : String → String) (h₀ h : Host) (es : List HostEvent)
    (hstarted : JustStarted sha256 h₀) (hruntime : ∀ e ∈ es, e.IsRuntime)
    (hrun : Runs (Step sha256) h₀ es h) :
    (h.network.raft.isSome ↔ ∃ raft, HostEvent.message (.registerRaft raft) ∈ es) ∧
    ∀ k nodeRef, h.network.nodes[k]? = some nodeRef →
      nodeRef.id = k ∧ ∃ info, nodeRef.info = some info ∧
        (k ≠ h.network.id → ∃ addr actor, nodeRef.addr = some addr ∧ h.actorAt addr = some actor ∧
          actor.node.proximity = .remoteNode { remoteId := k, remoteInfo := info }) ∧
        (k = h.network.id →
          (nodeRef.addr.isSome ↔ h.network.raft.isSome) ∧
          ∀ addr, nodeRef.addr = some addr → ∃ actor localNode, h.actorAt addr = some actor ∧
            actor.node.proximity = .localNode localNode) := by
  have hs : StartedReachable sha256 h := ⟨h₀, es, hstarted, hruntime, hrun⟩
  refine ⟨by simp [raft_isSome_of_runs hrun, hstarted.raft], fun k nodeRef hlookup => ?_⟩
  have hentry := hs.reachable.wellFormed.entries k nodeRef hlookup
  have hcomplete := hs.complete k nodeRef hlookup
  obtain ⟨info, hinfo, hserved⟩ := hentry.served
  refine ⟨hentry.keyed, info, hinfo, fun hother => ?_, fun hown => ⟨⟨?_, ?_⟩, fun addr haddr => ?_⟩⟩
  · obtain ⟨addr, haddr⟩ := Option.isSome_iff_exists.1 (hcomplete fun hown => absurd hown hother)
    obtain ⟨actor, hactor, hserves⟩ := hserved addr haddr
    exact ⟨addr, actor, haddr, hactor, hserves.remote hother⟩
  · exact hentry.raft hown
  · exact fun hraft => hcomplete fun _ => hraft
  · obtain ⟨actor, hactor, hserves⟩ := hserved addr haddr
    rw [hown] at hserves
    obtain ⟨raft, hprox⟩ := hserves.local
    exact ⟨actor, _, hactor, hprox⟩

/-- The invariant at the own entry, and at the entry of a node that joined, after Raft was registered. -/
theorem nodeTable_invariant_joined :
    let es : List HostEvent :=
      [.message (.registerRaft ⟨0⟩), .message (.connectNode { id := 2, info := sampleInfo })]
    let h := sampleRun (.started :: es)
    h.network.raft.isSome ∧
      (∃ info addr actor, h.network.nodes[(2 : NodeId)]? = some { id := 2, info := some info, addr := some addr } ∧
        h.actorAt addr = some actor ∧
        actor.node.proximity = .remoteNode { remoteId := 2, remoteInfo := info }) ∧
      ∃ info addr actor localNode,
        h.network.nodes[(1 : NodeId)]? = some { id := 1, info := some info, addr := some addr } ∧
        h.actorAt addr = some actor ∧ actor.node.proximity = .localNode localNode := by
  intro es h
  have hstarted : JustStarted (fun _ => "") (sampleRun [.started]) :=
    ⟨0, 1, sampleInfo, Ring.new 10, [], runs_sampleRun rfl⟩
  have hrun : Runs (Step fun _ => "") (sampleRun [.started]) es h := runs_finalState rfl
  obtain ⟨hraft, htable⟩ := nodeTable_invariant _ _ h es hstarted (by decide) hrun
  have hjoined : h.network.nodes[(2 : NodeId)]? =
      some { id := 2, info := some sampleInfo, addr := some ⟨1⟩ } := by decide
  have hown : h.network.nodes[(1 : NodeId)]? =
      some { id := 1, info := some sampleInfo, addr := some ⟨0⟩ } := by decide
  refine ⟨hraft.2 ⟨⟨0⟩, List.mem_cons_self⟩, ?_, ?_⟩
  · obtain ⟨-, info, hinfo, hremote, -⟩ := htable 2 _ hjoined
    obtain ⟨addr, actor, haddr, hactor, hprox⟩ := hremote (by decide)
    obtain rfl := Option.some.inj hinfo
    obtain rfl := Option.some.inj haddr
    exact ⟨_, _, actor, hjoined, hactor, hprox⟩
  · obtain ⟨-, info, -, -, hlocal⟩ := htable 1 _ hown
    obtain ⟨actor, localNode, hactor, hprox⟩ := (hlocal (by decide)).2 _ rfl
    exact ⟨_, _, actor, localNode, hown, hactor, hprox⟩

end Host

end RaftScaffold
