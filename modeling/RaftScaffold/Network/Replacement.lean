import RaftScaffold.Network.Standing

set_option autoImplicit false

/-! # Replaced actors

A `ConnectNode` that brings a changed info starts a new actor for the node and replaces the old one in
the table. The old actor is not stopped, and what it reports names the node, not the actor. So the
network cannot tell the reports of the two apart: from the replacement on, the node's standing follows
the reports of both, in the order in which they are handled (`standing_after_replacement`).

To say which actor a report comes from, the host is tracked: of each actor's reports it is known how
many the network has handled. -/

namespace RaftScaffold

open Transition

/-! ## The tracked host -/

/-- A host with the number of reports of each actor that the network has handled. -/
structure Tracked where
  host : Host
  handled : Addr → Nat

/-- The network handles the next report of the actor at an address, or anything else happens. -/
inductive TrackedEvent where
  | report (addr : Addr) (msg : HandleNodeStatusChange)
  | host (e : HostEvent)

/-- Does the event deliver a status report? -/
def HostEvent.isReport : HostEvent → Bool
  | .message (.handleNodeStatusChange _) => true
  | _ => false

def TrackedEvent.toHost : TrackedEvent → HostEvent
  | .report _ msg => .message (.handleNodeStatusChange msg)
  | .host e => e

namespace Tracked

def step (sha256 : String → String) (self : Tracked) : TrackedEvent → Except Halt Tracked
  | .report addr msg =>
      match self.host.actorAt addr with
      | none => .error .notEnabled
      | some actor =>
          -- an actor's reports arrive in the order in which it sent them
          if actor.node.id = msg.id ∧ actor.reports[self.handled addr]? = some msg.status then do
            let host ← self.host.step sha256 (.message (.handleNodeStatusChange msg))
            .ok { host, handled := Function.update self.handled addr (self.handled addr + 1) }
          else .error .notEnabled
  | .host e =>
      if e.isReport = false ∧ e.IsRuntime then do
        let host ← self.host.step sha256 e
        .ok { self with host }
      else .error .notEnabled

abbrev Step (sha256 : String → String) : Tracked → TrackedEvent → Tracked → Prop :=
  StepOf (Tracked.step sha256)

/-- The states that a started network reaches. -/
def Reachable (sha256 : String → String) (t : Tracked) : Prop :=
  ∃ h es, Host.JustStarted sha256 h ∧
    Runs (Step sha256) { host := h, handled := fun _ => 0 } es t

/-- A step of the tracked host is one of the host, and only a report is one that delivers a report. -/
theorem step_toHost {sha256 : String → String} {t t' : Tracked} {e : TrackedEvent}
    (hstep : t.step sha256 e = .ok t') :
    Host.RuntimeStep sha256 t.host e.toHost t'.host ∧ ∀ e', e = .host e' → e'.isReport = false := by
  cases e with
  | report addr msg =>
      refine ⟨⟨trivial, ?_⟩, fun e' heq => by cases heq⟩
      simp only [step] at hstep
      split at hstep
      · cases hstep
      · split at hstep
        · obtain ⟨h, hhost, heq⟩ := bind_eq_ok.1 hstep
          obtain rfl := Except.ok.inj heq
          exact hhost
        · cases hstep
  | host e =>
      simp only [step] at hstep
      split at hstep
      · next henabled =>
          obtain ⟨h, hhost, heq⟩ := bind_eq_ok.1 hstep
          obtain rfl := Except.ok.inj heq
          refine ⟨⟨henabled.2, hhost⟩, fun e' heq => ?_⟩
          obtain rfl := TrackedEvent.host.inj heq
          exact henabled.1
      · cases hstep

theorem reachable_runs {sha256 : String → String} {t t' : Tracked} {es : List TrackedEvent}
    (hr : Host.Reachable sha256 t.host) (hrun : Runs (Step sha256) t es t') :
    Host.Reachable sha256 t'.host :=
  hrun.invariant (I := fun t : Tracked => Host.Reachable sha256 t.host)
    (fun _ _ _ hr hstep => hr.runs (.cons (step_toHost hstep).1.2 (.nil _))) hr

theorem Reachable.host {sha256 : String → String} {t : Tracked} (ht : t.Reachable sha256) :
    Host.Reachable sha256 t.host := by
  obtain ⟨h, es, hstarted, hrun⟩ := ht
  exact reachable_runs hstarted.reachable hrun

def standing (self : Tracked) (id : NodeId) : Standing := self.host.network.state.standing id

end Tracked

/-! ## Reports -/

/-- A report that isolates the node. -/
def NodeStatus.isolates : NodeStatus → Bool
  | .initialized => true
  | .weaklyConnected => true
  | .disconnected => true
  | _ => false

/-- When a report changes the standing. -/
theorem Standing.report_ne_iff (standing : Standing) (status : NodeStatus) :
    standing.report status ≠ standing ↔
      (status.isolates = true ∧ standing ≠ .isolated) ∨ (status = .connected ∧ standing = .isolated) := by
  cases status <;> cases standing <;> simp [report, isolate, restore, NodeStatus.isolates]

namespace TrackedEvent

/-- The event leaves the registration of `command.id` under `command.info` in place. -/
def Leaves (command : ConnectNode) : TrackedEvent → Prop
  | .host (.message (.connectNode other)) => other.id = command.id → other.info = command.info
  | .host (.message (.disconnectNode other)) => other.id ≠ command.id
  | _ => True

/-- The status that the event reports about node `id`. -/
def reported (id : NodeId) : TrackedEvent → Option NodeStatus
  | .report _ msg => if msg.id = id then some msg.status else none
  | .host _ => none

/-- The status that the event reports about node `id`, if it comes from the actor at `addr`. -/
def reportedBy (addr : Addr) (id : NodeId) : TrackedEvent → Option NodeStatus
  | .report sender msg => if sender = addr ∧ msg.id = id then some msg.status else none
  | .host _ => none

end TrackedEvent

/-! ## After a registration -/

namespace Host

/-- The node is registered under this info and has its actor. -/
def Component.Registered (c : Component) (info : NodeInfo) : Prop :=
  c.entry.bind Prod.snd = some info ∧ c.running = true

/-- Of the events that leave the registration in place, only a report moves the component. -/
theorem Component.Registered.step {own : NodeId} {command : ConnectNode} {c : Component}
    (hc : c.Registered command.info) {e : TrackedEvent} (he : e.Leaves command)
    (habout : e.toHost.about own = some command.id)
    (hreport : ∀ e', e = .host e' → e'.isReport = false) :
    (c.step own command.id e.toHost).Registered command.info ∧
      (c.step own command.id e.toHost).standing =
        match e.reported command.id with
        | some status => c.standing.report status
        | none => c.standing := by
  obtain ⟨hentry, hrunning⟩ := hc
  obtain ⟨⟨key, info⟩, hsome, rfl⟩ := Option.bind_eq_some_iff.1 hentry
  cases e with
  | report addr msg =>
      have hid : msg.id = command.id := Option.some.inj habout
      simp [Component.Registered, Component.step, TrackedEvent.toHost, TrackedEvent.reported, hsome,
        hrunning, hid]
  | host e =>
      -- no event but a report moves a registered node's standing, unless it changes the registration
      rcases about_cases habout with ⟨raft, rfl, -⟩ | ⟨msg, rfl, -⟩ | ⟨other, rfl, hid⟩ |
        ⟨other, rfl, hid⟩
      · simp [Component.Registered, Component.step, TrackedEvent.toHost, TrackedEvent.reported, hsome,
          hrunning]
      · cases hreport _ rfl
      · have hsame : other.info = command.info := he hid.symm
        simp [Component.Registered, Component.step, TrackedEvent.toHost, TrackedEvent.reported, hsome,
          hrunning, hsame]
      · exact absurd hid.symm he

end Host

/-- What holds while a registration stays in place. -/
structure Tracked.Holds (t : Tracked) (own : NodeId) (command : ConnectNode) : Prop where
  wellFormed : Host.WellFormed t.host
  consistent : t.host.network.state.Consistent
  id : t.host.network.id = own
  registered : (Host.component own command.id t.host).Registered command.info

/-- The step lemma: the registration stays in place, and only reports about the node move its standing. -/
theorem Tracked.Holds.step {sha256 : String → String} {t t' : Tracked} {own : NodeId}
    {command : ConnectNode} {e : TrackedEvent} (ht : t.Holds own command) (he : e.Leaves command)
    (hstep : t.step sha256 e = .ok t') :
    t'.Holds own command ∧ t'.standing command.id =
      match e.reported command.id with
      | some status => (t.standing command.id).report status
      | none => t.standing command.id := by
  obtain ⟨hw, hs, rfl, hregistered⟩ := ht
  obtain ⟨hruntime, hreport⟩ := step_toHost hstep
  have heff := Host.step_cases hruntime.2
  have hcomponent := Host.component_step hw hs hruntime command.id
  have hid := heff.network_id
  have hrest : (Host.component t.host.network.id command.id t'.host).Registered command.info →
      t'.Holds t.host.network.id command := fun hr => ⟨heff.wellFormed hw, heff.consistent hs, hid, hr⟩
  by_cases habout : e.toHost.about t.host.network.id = some command.id
  · rw [if_pos habout] at hcomponent
    obtain ⟨hregistered', hmove⟩ := hregistered.step he habout hreport
    rw [← hcomponent] at hregistered' hmove
    exact ⟨hrest hregistered', hmove⟩
  · rw [if_neg habout] at hcomponent
    rw [← hcomponent] at hregistered
    have hnone : e.reported command.id = none := by
      cases e with
      | report addr msg => simpa [TrackedEvent.reported, TrackedEvent.toHost, HostEvent.about] using habout
      | host e => rfl
    rw [hnone]
    exact ⟨hrest hregistered, congrArg Host.Component.standing hcomponent⟩

/-- While a registration stays in place, the node's standing is the fold of all reports about it. -/
theorem Tracked.Holds.runs {sha256 : String → String} {t t' : Tracked} {own : NodeId}
    {command : ConnectNode} {es : List TrackedEvent} (ht : t.Holds own command)
    (hes : ∀ e ∈ es, e.Leaves command) (hrun : Runs (Step sha256) t es t') :
    t'.Holds own command ∧ t'.standing command.id =
      (es.filterMap (TrackedEvent.reported command.id)).foldl Standing.report
        (t.standing command.id) := by
  refine (hrun.restrict hes).invariant_history
    (I := fun es t' => t'.Holds own command ∧ t'.standing command.id =
      (es.filterMap (TrackedEvent.reported command.id)).foldl Standing.report
        (t.standing command.id)) ?_ ⟨ht, rfl⟩
  rintro pre s e s' ⟨hs, hfold⟩ ⟨he, hstep⟩
  obtain ⟨hs', hmove⟩ := hs.step he hstep
  refine ⟨hs', ?_⟩
  rw [hmove, hfold, List.filterMap_append, List.foldl_append]
  cases hreported : e.reported command.id with
  | none => simp [hreported]
  | some status => simp [hreported]

/-- Registering a node that has an actor under a changed info starts another actor. -/
theorem Host.WellFormed.replaces {h : Host} (hw : WellFormed h) {id : NodeId} {info old : NodeInfo}
    {nodeRef : NodeRef} {oldAddr : Addr} (hlookup : h.network.nodes[id]? = some nodeRef)
    (hinfo : nodeRef.info = some old) (haddr : nodeRef.addr = some oldAddr) (hchanged : old ≠ info) :
    ∃ newAddr, newAddr ≠ oldAddr ∧ (h.registered id info).network.getNode id = some newAddr := by
  have hentry := hw.entries _ _ hlookup
  have hfor : h.entryFor id info = nodeRef := by simp [Host.entryFor, hlookup]
  -- the entry is not current, and if it is the own one then Raft is registered
  obtain ⟨proximity, hproximity⟩ : ∃ proximity, h.newProximity id info = some proximity := by
    rw [← Option.ne_none_iff_exists']
    intro hnone
    rcases newProximity_eq_none hnone with ⟨hcurrent, -⟩ | ⟨hown, hraft⟩
    · rw [hfor, hinfo] at hcurrent
      exact hchanged (Option.some.inj hcurrent)
    · have hsome := hentry.raft hown (by rw [haddr]; rfl)
      rw [hraft] at hsome
      cases hsome
  refine ⟨⟨h.actors.length⟩, fun hsame => ?_, ?_⟩
  · obtain ⟨_, -, hserved⟩ := hentry.served
    obtain ⟨actor, hactor, -⟩ := hserved oldAddr haddr
    obtain ⟨hlt, -⟩ := List.getElem?_eq_some_iff.1 hactor
    rw [← hsame] at hlt
    exact Nat.lt_irrefl _ hlt
  · rw [Network.getNode, registered_lookup, if_pos rfl]
    simp [Host.registeredRef, hproximity]

/-- A `ConnectNode` with a changed info replaces the node's actor, restores the node and leaves it
    registered. -/
theorem Tracked.replace {sha256 : String → String} {t t' : Tracked} {command : ConnectNode}
    {nodeRef : NodeRef} {old : NodeInfo} {oldAddr : Addr} (hr : Host.Reachable sha256 t.host)
    (hlookup : t.host.network.nodes[command.id]? = some nodeRef) (hinfo : nodeRef.info = some old)
    (haddr : nodeRef.addr = some oldAddr) (hchanged : old ≠ command.info)
    (hstep : t.step sha256 (.host (.message (.connectNode command))) = .ok t') :
    (∃ newAddr, newAddr ≠ oldAddr ∧ t'.host.network.getNode command.id = some newAddr) ∧
      t'.standing command.id = (t.standing command.id).restore ∧
      t'.Holds t.host.network.id command := by
  have hw := hr.wellFormed
  obtain ⟨hruntime, -⟩ := step_toHost hstep
  have heff := Host.step_cases hruntime.2
  have hbefore : (Host.component t.host.network.id command.id t.host).entry =
      some (nodeRef.id, some old) := by simp [Host.component, hlookup, hinfo]
  have hrunning : (Host.component t.host.network.id command.id t.host).running = true := by
    simp [Host.component, Network.getNode, hlookup, haddr]
  have hafter : Host.component t.host.network.id command.id t'.host =
      (Host.component t.host.network.id command.id t.host).register t.host.network.id command.id
        command.info := by
    have hstep' := Host.component_step hw hr.disjoint hruntime command.id
    have habout : HostEvent.about t.host.network.id (.message (.connectNode command)) =
        some command.id := rfl
    rw [TrackedEvent.toHost, if_pos habout] at hstep'
    rw [hstep']
    simp [Host.Component.step, hbefore, hchanged]
  refine ⟨?_, congrArg Host.Component.standing hafter,
    ⟨heff.wellFormed hw, heff.consistent hr.disjoint, heff.network_id, ?_⟩⟩
  · have hstale : t.host.network.nodes[command.id]?.bind NodeRef.info ≠ some command.info := by
      rw [hlookup, Option.bind_some, hinfo]
      exact fun heq => hchanged (Option.some.inj heq)
    obtain ⟨delegations, heq⟩ := heff
    rw [heq, Host.connected, if_neg hstale]
    exact hw.replaces hlookup hinfo haddr hchanged
  · rw [hafter]
    simp [Host.Component.Registered, Host.Component.register, hrunning]

/-- **Standing after a replacement.** When a `ConnectNode` with a changed info replaces a node's actor,
    the node is restored if it was isolated. From then on, as long as the node is neither removed nor
    registered under yet another info, its standing is the fold of all reports about it, of the new
    actor and of replaced ones alike, in the order in which they are handled; a report changes it
    exactly if it isolates a node that is not isolated, or restores one that is. -/
theorem standing_after_replacement (sha256 : String → String) (t t₁ t₂ : Tracked) (command : ConnectNode)
    (nodeRef : NodeRef) (old : NodeInfo) (oldAddr : Addr) (es : List TrackedEvent)
    (ht : t.Reachable sha256) (hlookup : t.host.network.nodes[command.id]? = some nodeRef)
    (hinfo : nodeRef.info = some old) (haddr : nodeRef.addr = some oldAddr)
    (hchanged : old ≠ command.info)
    (hreplace : Tracked.Step sha256 t (.host (.message (.connectNode command))) t₁)
    (hes : ∀ e ∈ es, e.Leaves command) (hrun : Runs (Tracked.Step sha256) t₁ es t₂) :
    (∃ newAddr, newAddr ≠ oldAddr ∧ t₁.host.network.getNode command.id = some newAddr) ∧
      t₁.standing command.id = (t.standing command.id).restore ∧
      t₂.standing command.id =
        (es.filterMap (TrackedEvent.reported command.id)).foldl Standing.report
          (t₁.standing command.id) ∧
      ∀ addr msg t₃, msg.id = command.id → Tracked.Step sha256 t₂ (.report addr msg) t₃ →
        (t₃.standing command.id ≠ t₂.standing command.id ↔
          (msg.status.isolates = true ∧ t₂.standing command.id ≠ .isolated) ∨
            (msg.status = .connected ∧ t₂.standing command.id = .isolated)) := by
  obtain ⟨hnew, hrestored, hholds⟩ :=
    Tracked.replace ht.host hlookup hinfo haddr hchanged hreplace
  obtain ⟨hholds₂, hfold⟩ := hholds.runs hes hrun
  refine ⟨hnew, hrestored, hfold, fun addr msg t₃ hid hreport => ?_⟩
  have hleaves : TrackedEvent.Leaves command (.report addr msg) := trivial
  have hmove := (hholds₂.step hleaves hreport).2
  simp only [TrackedEvent.reported, if_pos hid] at hmove
  rw [hmove]
  exact Standing.report_ne_iff _ _

/-! ## A sample replacement -/

def sampleStep (t : Tracked) (e : TrackedEvent) : Tracked :=
  finalState (Tracked.step fun _ => "") t [e]

/-- Node 2 has joined, and its actor has connected; its first report is under way. -/
def sampleConnected : Tracked :=
  finalState (Tracked.step fun _ => "") { host := Host.sampleRun [.started], handled := fun _ => 0 }
    [.host (.message (.connectNode { id := 2, info := Host.sampleInfo })),
      .host (.node ⟨0⟩ (.connect (.ok {})))]

/-- Node 2 joins again, under another info. -/
def sampleRejoin : ConnectNode := { id := 2, info := { Host.sampleInfo with name := "b" } }

def sampleReplaced : Tracked := sampleStep sampleConnected (.host (.message (.connectNode sampleRejoin)))

/-- The report of the actor that was replaced. -/
def sampleReport : TrackedEvent := .report ⟨0⟩ { id := 2, status := .weaklyConnected }

theorem sampleConnected_reachable : sampleConnected.Reachable fun _ => "" :=
  ⟨_, _, ⟨0, 1, Host.sampleInfo, Ring.new 10, [], Host.runs_sampleRun rfl⟩, runs_finalState rfl⟩

/-- The report of the replaced actor isolates the node. -/
theorem standing_after_replacement_isolated :
    (sampleStep sampleReplaced sampleReport).standing 2 =
      [NodeStatus.weaklyConnected].foldl Standing.report (sampleReplaced.standing 2) :=
  (standing_after_replacement (fun _ => "") sampleConnected sampleReplaced _ sampleRejoin
    { id := 2, info := some Host.sampleInfo, addr := some ⟨0⟩ } Host.sampleInfo ⟨0⟩ [sampleReport]
    sampleConnected_reachable (by decide) rfl rfl (by decide) (step_finalState rfl)
    (by simp [sampleReport, TrackedEvent.Leaves]) (runs_finalState rfl)).2.2.1

/-- So it is not only the new actor's reports that decide the standing. -/
theorem standing_of_newActor_fails :
    ¬ ∀ (sha256 : String → String) (t t₁ t₂ : Tracked) (command : ConnectNode) (nodeRef : NodeRef)
      (old : NodeInfo) (oldAddr newAddr : Addr) (es : List TrackedEvent), t.Reachable sha256 →
      t.host.network.nodes[command.id]? = some nodeRef → nodeRef.info = some old →
      nodeRef.addr = some oldAddr → old ≠ command.info →
      Tracked.Step sha256 t (.host (.message (.connectNode command))) t₁ →
      t₁.host.network.getNode command.id = some newAddr → (∀ e ∈ es, e.Leaves command) →
      Runs (Tracked.Step sha256) t₁ es t₂ →
      t₂.standing command.id =
        (es.filterMap (TrackedEvent.reportedBy newAddr command.id)).foldl Standing.report
          (t₁.standing command.id) := by
  intro hall
  have hsame := hall (fun _ => "") sampleConnected sampleReplaced (sampleStep sampleReplaced sampleReport)
    sampleRejoin { id := 2, info := some Host.sampleInfo, addr := some ⟨0⟩ } Host.sampleInfo ⟨0⟩ ⟨1⟩
    [sampleReport] sampleConnected_reachable (by decide) rfl rfl (by decide) (step_finalState rfl)
    (by decide) (by simp [sampleReport, TrackedEvent.Leaves]) (runs_finalState rfl)
  have hisolated : (sampleStep sampleReplaced sampleReport).standing 2 = .isolated := by decide
  have hunknown : sampleReplaced.standing 2 = .unknown := by decide
  have hnone : [sampleReport].filterMap (TrackedEvent.reportedBy ⟨1⟩ 2) = [] := by decide
  rw [show sampleRejoin.id = 2 from rfl, hisolated, hunknown, hnone] at hsame
  cases hsame

end RaftScaffold
