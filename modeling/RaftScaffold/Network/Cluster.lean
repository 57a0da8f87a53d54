import RaftScaffold.Network.Actors
import RaftScaffold.Transition.Exchange

set_option autoImplicit false

/-! # A cluster of networks

Networks that are configured on their own, with whatever infos for each other, and then connect: the
`Node` actors of each send `ConnectNode` requests to the peers, and a request that brings a new info
makes the receiver start a new actor, which sends a request in turn.

This ends. All requests that a network's actors ever send carry the same info, so the first one that a
peer handles settles its entry and the others change nothing. A peer starts one actor from its
configuration and one for this request, whatever is lost, duplicated, delayed or reordered
(`cluster_converges`). -/

namespace RaftScaffold

open Transition

/-! ## The requests -/

/-- The request that an actor sends when it handles `Connect`: the body of `RemoteNode::connect`, which
    names the actor's own network. -/
def NodeActor.connectRequest (self : NodeActor) : Option ConnectNode :=
  if self.node.status.isConnected then none
  else
    match self.node.proximity with
    | .localNode _ => none
    | .remoteNode _ => some { id := self.node.localId, info := self.node.localInfo }

/-- The requests that an event of a network sends. -/
def Host.requests (self : Host) : HostEvent → List ConnectNode
  | .node addr (.connect _) => ((self.actorAt addr).bind NodeActor.connectRequest).toList
  | _ => []

/-- The events of a running network other than requests to connect or disconnect a node. -/
def HostEvent.IsInternal : HostEvent → Prop
  | .configureWith _ => False
  | .started => False
  | .message (.connectNode _) => False
  | .message (.disconnectNode _) => False
  | _ => True

/-- A cluster of networks that send each other `ConnectNode` requests. To whom a request was addressed
    does not matter: any network may receive it. -/
abbrev Cluster (ι : Type) := Exchange ι Host ConnectNode

abbrev ClusterEvent (ι : Type) := ExchangeEvent ι HostEvent ConnectNode

def ClusterStep {ι : Type} [DecidableEq ι] (sha256 : String → String) :
    Cluster ι → ClusterEvent ι → Cluster ι → Prop :=
  ExchangeStep (fun h e h' => e.IsInternal ∧ Host.Step sha256 h e h') Host.requests
    fun h command h' => Host.Step sha256 h (.message (.connectNode command)) h'

theorem HostEvent.IsInternal.isRuntime {e : HostEvent} (he : e.IsInternal) : e.IsRuntime := by
  cases e with
  | configureWith seeds => exact he
  | started => exact he
  | _ => trivial

/-- Internal events write no entry but the own one, and start no actor but the local node's. -/
theorem HostEvent.IsInternal.own {e : HostEvent} (he : e.IsInternal) (h : Host) :
    (∀ k, k ≠ h.network.id → e.writes h.network.id ≠ some k) ∧
      (h.mayStart e).Sublist [h.network.id] := by
  have hnone : e.writes h.network.id = none → h.mayStart e = [] →
      (∀ k, k ≠ h.network.id → e.writes h.network.id ≠ some k) ∧
        (h.mayStart e).Sublist [h.network.id] := by
    intro hwrites hstart
    rw [hwrites, hstart]
    exact ⟨fun _ _ => by simp, List.nil_sublist _⟩
  cases e with
  | configureWith seeds => exact he.elim
  | started => exact he.elim
  | message msg =>
      cases msg with
      | registerRaft raft =>
          refine ⟨fun k hk heq => ?_, List.Sublist.refl _⟩
          exact hk (Option.some.inj heq).symm
      | connectNode command => exact he.elim
      | disconnectNode command => exact he.elim
      | _ => exact hnone rfl rfl
  | _ => exact hnone rfl rfl

section Cluster

variable {ι : Type} {sha256 : String → String} {hosts : ι → Host}

/-- The request of a member of the cluster: its own id and info. -/
def FromMember (hosts : ι → Host) (command : ConnectNode) : Prop :=
  ∃ j, command.id = (hosts j).network.id ∧ command.info = (hosts j).network.info

/-- Members are told apart by their ids. -/
theorem FromMember.unique (hids : Function.Injective fun i => (hosts i).network.id)
    {c c' : ConnectNode} (hc : FromMember hosts c) (hc' : FromMember hosts c') (hid : c.id = c'.id) :
    c.info = c'.info := by
  obtain ⟨j, hj, hinfo⟩ := hc
  obtain ⟨j', hj', hinfo'⟩ := hc'
  have hsame : j = j' := hids (hj.symm.trans (hid.trans hj'))
  rw [hinfo, hinfo', hsame]

/-- What holds of a peer `k`: there are no actors without an entry, and the second actor was started for
    the peer's own info, which the entry holds then. -/
structure PeerOk (hosts : ι → Host) (h : Host) (k : NodeId) : Prop where
  unknown : h.network.nodes[k]? = none → h.startedFor k = 0
  started : h.startedFor k ≤ 1 ∨
    h.startedFor k ≤ 2 ∧ ∃ info, FromMember hosts { id := k, info } ∧
      h.network.nodes[k]?.bind NodeRef.info = some info

/-- The invariant of the cluster's member `i`. -/
structure MemberOk (sha256 : String → String) (hosts : ι → Host) (i : ι) (h : Host) : Prop where
  reachable : Host.Reachable sha256 h
  id : h.network.id = (hosts i).network.id
  info : h.network.info = (hosts i).network.info
  peers : ∀ k, k ≠ (hosts i).network.id → PeerOk hosts h k

theorem PeerOk.frame {h h' : Host} {k : NodeId} (hp : PeerOk hosts h k)
    (hlookup : h'.network.nodes[k]? = h.network.nodes[k]?) (hstarted : h'.startedFor k = h.startedFor k) :
    PeerOk hosts h' k := by
  obtain ⟨hunknown, hbound⟩ := hp
  exact ⟨by rwa [hlookup, hstarted], by rwa [hlookup, hstarted]⟩

theorem count_eq_zero_of_sublist {ids : List NodeId} {id k : NodeId} (hids : ids.Sublist [id])
    (hk : k ≠ id) : ids.count k = 0 :=
  List.count_eq_zero.2 fun hmem => hk (List.mem_singleton.1 (hids.subset hmem))

theorem memberOk_started {i : ι} (hs : Host.JustStarted sha256 (hosts i)) :
    MemberOk sha256 hosts i (hosts i) where
  reachable := hs.reachable
  id := rfl
  info := rfl
  peers k _ := ⟨(hs.startedFor k).2, .inl (hs.startedFor k).1⟩

/-- The step lemma for a member's own events. -/
theorem MemberOk.own {i : ι} {h h' : Host} {e : HostEvent} (hm : MemberOk sha256 hosts i h)
    (he : e.IsInternal) (hstep : Host.Step sha256 h e h') :
    MemberOk sha256 hosts i h' ∧ ∀ command ∈ h.requests e, FromMember hosts command := by
  have hw := hm.reachable.wellFormed
  have heff := Host.step_cases hstep
  obtain ⟨hwrites, hmay⟩ := he.own h
  obtain ⟨ids, hids, hstarts⟩ := heff.starts hw
  refine ⟨⟨hm.reachable.runs (.cons hstep (.nil _)), hstarts.id.trans hm.id, hstarts.info.trans hm.info,
    fun k hk => ?_⟩, fun command hcommand => ?_⟩
  · have hk' : k ≠ h.network.id := by rwa [hm.id]
    refine (hm.peers k hk).frame (heff.lookup hw he.isRuntime (hwrites k hk')) ?_
    rw [hstarts.startedFor, count_eq_zero_of_sublist (hids.trans hmay) hk', Nat.add_zero]
  · cases e with
    | node addr event =>
        cases event with
        | connect exchange =>
            simp only [Host.requests, Option.mem_toList, Option.bind_eq_some_iff] at hcommand
            obtain ⟨actor, hactor, hrequest⟩ := hcommand
            obtain ⟨hlocalId, hlocalInfo⟩ :=
              hm.reachable.introduces actor (List.mem_of_getElem? hactor)
            unfold NodeActor.connectRequest at hrequest
            split at hrequest
            · cases hrequest
            · split at hrequest
              · cases hrequest
              · obtain rfl := Option.some.inj hrequest
                exact ⟨i, hlocalId.trans hm.id, hlocalInfo.trans hm.info⟩
        | _ => cases hcommand
    | _ => cases hcommand

/-- The step lemma for a request that a member receives. -/
theorem MemberOk.receive (hids : Function.Injective fun i => (hosts i).network.id) {i : ι} {h h' : Host}
    {command : ConnectNode} (hm : MemberOk sha256 hosts i h) (hfrom : FromMember hosts command)
    (hstep : Host.Step sha256 h (.message (.connectNode command)) h') : MemberOk sha256 hosts i h' := by
  have hw := hm.reachable.wellFormed
  have heff := Host.step_cases hstep
  obtain ⟨ids, hsub, hstarts⟩ := heff.starts hw
  refine ⟨hm.reachable.runs (.cons hstep (.nil _)), hstarts.id.trans hm.id, hstarts.info.trans hm.info,
    fun k hk => ?_⟩
  have hp := hm.peers k hk
  have hcount := hstarts.startedFor k
  simp only [Host.mayStart] at hsub
  by_cases hpeer : k = command.id
  · subst hpeer
    obtain ⟨delegations, heq⟩ := heff
    have hlookup : h'.network.nodes[command.id]? =
        (h.connected command).network.nodes[command.id]? := by rw [heq]
    split at hsub
    · next hcurrent =>
        -- the entry is current, so the request changes nothing
        refine hp.frame ?_ (by rw [hcount, List.sublist_nil.1 hsub, List.count_nil, Nat.add_zero])
        rw [hlookup, Host.connected, if_pos hcurrent]
    · next hstale =>
        have hinfo : h'.network.nodes[command.id]?.bind NodeRef.info = some command.info := by
          rw [hlookup]
          exact h.connected_lookup_info command
        have hone : ids.count command.id ≤ 1 := by
          simpa using hsub.count_le command.id
        refine ⟨fun hnone => ?_, ?_⟩
        · rw [hnone] at hinfo
          cases hinfo
        · rcases hp.started with hle | ⟨-, info, hinfo', hsome⟩
          · exact .inr ⟨by omega, command.info, hfrom, hinfo⟩
          · have hsame : info = command.info := hinfo'.unique hids hfrom rfl
            rw [hsame] at hsome
            exact absurd hsome hstale
  · have hne : HostEvent.writes h.network.id (.message (.connectNode command)) ≠ some k :=
      fun heq => hpeer (Option.some.inj heq).symm
    have hsub' : ids.Sublist [command.id] := by
      split at hsub
      · exact hsub.trans (List.nil_sublist _)
      · exact hsub
    exact hp.frame (heff.lookup hw trivial hne)
      (by rw [hcount, count_eq_zero_of_sublist hsub' hpeer, Nat.add_zero])

/-- The entry of a member, once it holds the member's own info, is not written any more. -/
theorem MemberOk.settled_own {i : ι} {h h' : Host} {e : HostEvent} (hm : MemberOk sha256 hosts i h)
    (he : e.IsInternal) (hstep : Host.Step sha256 h e h') {k : NodeId}
    (hk : k ≠ (hosts i).network.id) : h'.network.nodes[k]? = h.network.nodes[k]? := by
  have hk' : k ≠ h.network.id := by rwa [hm.id]
  exact (Host.step_cases hstep).lookup hm.reachable.wellFormed he.isRuntime ((he.own h).1 k hk')

theorem settled_receive (hids : Function.Injective fun i => (hosts i).network.id) {h h' : Host}
    {command : ConnectNode} (hw : Host.WellFormed h) (hfrom : FromMember hosts command)
    (hstep : Host.Step sha256 h (.message (.connectNode command)) h') {k : NodeId} {info : NodeInfo}
    (hmember : FromMember hosts { id := k, info })
    (hinfo : h.network.nodes[k]?.bind NodeRef.info = some info) :
    h'.network.nodes[k]? = h.network.nodes[k]? := by
  have heff := Host.step_cases hstep
  by_cases hpeer : k = command.id
  · subst hpeer
    have hsame : info = command.info := hmember.unique hids hfrom rfl
    obtain ⟨delegations, rfl⟩ := heff
    rw [Host.connected, if_pos (by rw [hinfo, hsame])]
  · exact heff.lookup hw trivial fun heq => hpeer (Option.some.inj heq).symm

variable [DecidableEq ι] {s s' : Cluster ι} {es : List (ClusterEvent ι)}

theorem members_of_runs (hids : Function.Injective fun i => (hosts i).network.id)
    (hrun : Runs (ClusterStep sha256) s es s')
    (hmembers : ∀ i, MemberOk sha256 hosts i (s.machines i))
    (hsent : ∀ command ∈ s.sent, FromMember hosts command) :
    (∀ i, MemberOk sha256 hosts i (s'.machines i)) ∧ ∀ command ∈ s'.sent, FromMember hosts command :=
  exchange_invariant (fun _ _ _ _ hm hstep => hm.own hstep.1 hstep.2)
    (fun _ _ _ _ hm hfrom hstep => hm.receive hids hfrom hstep) hrun hmembers hsent

/-- From a state in which an entry holds the member's own info, no run writes the entry. -/
theorem settled_of_runs (hids : Function.Injective fun i => (hosts i).network.id)
    (hrun : Runs (ClusterStep sha256) s es s')
    (hmembers : ∀ i, MemberOk sha256 hosts i (s.machines i))
    (hsent : ∀ command ∈ s.sent, FromMember hosts command) {i : ι} {k : NodeId} {info : NodeInfo}
    (hk : k ≠ (hosts i).network.id) (hmember : FromMember hosts { id := k, info })
    (hinfo : (s.machines i).network.nodes[k]?.bind NodeRef.info = some info) :
    (s'.machines i).network.nodes[k]? = (s.machines i).network.nodes[k]? := by
  let P (j : ι) (h : Host) : Prop :=
    MemberOk sha256 hosts j h ∧
      (j = i → h.network.nodes[k]? = (s.machines i).network.nodes[k]?)
  refine ((exchange_invariant (P := P) ?_ ?_ hrun (fun j => ⟨hmembers j, ?_⟩) hsent).1 i).2 rfl
  · rintro j h e h' ⟨hm, hsettled⟩ ⟨he, hstep⟩
    obtain ⟨hm', hrequests⟩ := hm.own he hstep
    refine ⟨⟨hm', fun hj => ?_⟩, hrequests⟩
    rw [← hsettled hj]
    exact hm.settled_own he hstep (by rwa [hj])
  · rintro j h command h' ⟨hm, hsettled⟩ hfrom hstep
    refine ⟨hm.receive hids hfrom hstep, fun hj => ?_⟩
    rw [← hsettled hj]
    refine settled_receive hids hm.reachable.wellFormed hfrom hstep hmember ?_
    rw [hsettled hj, hinfo]
  · rintro rfl
    rfl

/-- **No connect storm.** Take networks with distinct ids, each configured with any seeds and started,
    that handle any internal events and receive each other's connect requests in any way. Then each
    starts at most two actors for a peer; and once it has handled a request of a member, its entry for
    the member holds the member's own info and never changes again. -/
theorem cluster_converges (sha256 : String → String) (hosts : ι → Host)
    (hstarted : ∀ i, Host.JustStarted sha256 (hosts i))
    (hids : Function.Injective fun i => (hosts i).network.id) (es : List (ClusterEvent ι))
    (s : Cluster ι) (hrun : Runs (ClusterStep sha256) { machines := hosts, sent := [] } es s) :
    (∀ i k, k ≠ (hosts i).network.id →
      ((s.machines i).actors.countP fun actor => actor.node.id = k) ≤ 2) ∧
    ∀ i j command, i ≠ j → .receive i command ∈ es → command.id = (hosts j).network.id →
      (s.machines i).network.nodes[command.id]?.bind NodeRef.info = some (hosts j).network.info ∧
      ∀ es' s', Runs (ClusterStep sha256) s es' s' →
        (s'.machines i).network.nodes[command.id]? = (s.machines i).network.nodes[command.id]? := by
  have hinit : ∀ i, MemberOk sha256 hosts i (hosts i) := fun i => memberOk_started (hstarted i)
  obtain ⟨hmembers, hsent⟩ := members_of_runs hids hrun hinit (by simp)
  refine ⟨fun i k hk => ?_, fun i j command hij hreceived hid => ?_⟩
  · show (s.machines i).startedFor k ≤ 2
    rcases ((hmembers i).peers k hk).started with hle | ⟨hle, -⟩
    · omega
    · exact hle
  · have hk : command.id ≠ (hosts i).network.id := by
      rw [hid]
      exact fun heq => hij (hids heq).symm
    -- the entry holds the member's info right after the request was handled
    obtain ⟨pre, post, rfl⟩ := List.append_of_mem hreceived
    obtain ⟨s₁, hpre, hrest⟩ := (Runs.append_iff _ _ _ _).1 hrun
    obtain ⟨s₂, hstep, hpost⟩ := (Runs.cons_iff _ _ _ _).1 hrest
    obtain ⟨hmembers₁, hsent₁⟩ := members_of_runs hids hpre hinit (by simp)
    obtain ⟨hmembers₂, hsent₂⟩ :=
      members_of_runs hids (.cons hstep (.nil _)) hmembers₁ hsent₁
    have hfrom : FromMember hosts { id := command.id, info := (hosts j).network.info } :=
      ⟨j, hid, rfl⟩
    have hinfo₂ : (s₂.machines i).network.nodes[command.id]?.bind NodeRef.info =
        some (hosts j).network.info := by
      cases hstep with
      | receive hmem hhandled =>
          obtain ⟨delegations, heq⟩ := Host.step_cases hhandled
          have hsame : command.info = (hosts j).network.info :=
            (hsent₁ command hmem).unique hids hfrom rfl
          simp only [Function.update_self, heq]
          rw [← hsame]
          exact Host.connected_lookup_info _ command
    have hinfo : (s.machines i).network.nodes[command.id]?.bind NodeRef.info =
        some (hosts j).network.info := by
      rw [settled_of_runs hids hpost hmembers₂ hsent₂ hk hfrom hinfo₂, hinfo₂]
    exact ⟨hinfo, fun es' s' hrun' => settled_of_runs hids hrun' hmembers hsent hk hfrom hinfo⟩

end Cluster

/-! ## A sample cluster -/

/-- A network with id 1 that is configured with an outdated info for node 0. -/
def sampleConfigured : Host :=
  let h := Host.new 0 1 { Host.sampleInfo with name := "b" } (Ring.new 10)
  h.withNodes (h.network.nodes.insert 0
    { id := 0, info := some { Host.sampleInfo with name := "old" }, addr := none })

/-- Two networks: 0 knows nobody, 1 has an outdated info for 0. -/
def sampleHosts : Bool → Host
  | false => finalState (Host.step fun _ => "") (Host.new 0 0 Host.sampleInfo (Ring.new 10)) [.started]
  | true => finalState (Host.step fun _ => "") sampleConfigured [.started]

theorem sampleHosts_justStarted (i : Bool) : Host.JustStarted (fun _ => "") (sampleHosts i) := by
  cases i with
  | false =>
      have hstart : Runs (Host.Step fun _ => "") (Host.new 0 0 Host.sampleInfo (Ring.new 10))
          [.started] (sampleHosts false) := runs_finalState rfl
      exact ⟨0, 0, Host.sampleInfo, Ring.new 10, [], hstart⟩
  | true =>
      have hid : ({ Host.sampleInfo with name := "old" } : NodeInfo).nodeId (fun _ => "") = 0 := by
        simp [NodeInfo.nodeId, generateNodeId, fromBeBytes]
      have hconf : Host.Step (fun _ => "")
          (Host.new 0 1 { Host.sampleInfo with name := "b" } (Ring.new 10))
          (.configureWith [{ Host.sampleInfo with name := "old" }]) sampleConfigured := by
        simp only [Host.step, stepOf_iff, Network.configureWith, List.foldl_cons, List.foldl_nil, hid]
        rfl
      have hstart : Runs (Host.Step fun _ => "") sampleConfigured [.started] (sampleHosts true) :=
        runs_finalState rfl
      exact ⟨0, 1, _, Ring.new 10, [[_]], .cons hconf hstart⟩

/-- Network 1 connects, network 0 connects back and its request arrives twice. -/
theorem cluster_converges_sample :
    let connect : HostEvent := .node ⟨0⟩ (.connect (.error (.timeout "operation timed out")))
    let request : ConnectNode := { id := 1, info := { Host.sampleInfo with name := "b" } }
    let reply : ConnectNode := { id := 0, info := Host.sampleInfo }
    ∃ s : Cluster Bool, Runs (ClusterStep fun _ => "") { machines := sampleHosts, sent := [] }
      [.own true connect, .receive false request, .own false connect, .receive true reply,
        .receive true reply] s ∧
      ((s.machines true).actors.countP fun actor => actor.node.id = 0) ≤ 2 ∧
      (s.machines true).network.nodes[(0 : NodeId)]?.bind NodeRef.info = some Host.sampleInfo := by
  intro connect request reply
  have hids : Function.Injective fun i => (sampleHosts i).network.id := by
    have hne : (sampleHosts false).network.id ≠ (sampleHosts true).network.id := by decide
    intro i j hij
    cases i <;> cases j <;> first | rfl | exact absurd hij hne | exact absurd hij.symm hne
  obtain ⟨s, hrun⟩ : ∃ s : Cluster Bool,
      Runs (ClusterStep fun _ => "") { machines := sampleHosts, sent := [] }
        [.own true connect, .receive false request, .own false connect, .receive true reply,
          .receive true reply] s :=
    ⟨_, .cons (.own ⟨trivial, rfl⟩) (.cons (.receive (by decide) rfl) (.cons (.own ⟨trivial, rfl⟩)
      (.cons (.receive (by decide) rfl) (.cons (.receive (by decide) rfl) (.nil _)))))⟩
  obtain ⟨hbound, hsettled⟩ :=
    cluster_converges (fun _ => "") sampleHosts sampleHosts_justStarted hids _ s hrun
  exact ⟨s, hrun, hbound true 0 (by decide), (hsettled true false reply (by decide) (by simp) rfl).1⟩

end RaftScaffold
