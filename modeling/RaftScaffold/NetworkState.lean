import RaftScaffold.RaftProtocol

set_option autoImplicit false

/-! # The network's lifecycle and membership standing

`network/state.rs`: the lifecycle status with its timeline, and the two sets that record which nodes are
connected and which are isolated. `advance` checks the requested transition against
`checkNextStatus` and panics on a refusal; `isolateNode` and `restoreNode` are each guarded by the content
of the isolated set alone. -/

namespace RaftScaffold

inductive Status where
  | joining
  | weaklyUp
  | up
  | leaving
  | exiting
  | down
  | removed
  deriving DecidableEq, Repr

inductive StateError where
  | invalidStatusTransition (current next : Status)
  deriving DecidableEq, Repr

/-- The `Debug` name of a status. -/
def Status.debug : Status → String
  | .joining => "Joining"
  | .weaklyUp => "WeaklyUp"
  | .up => "Up"
  | .leaving => "Leaving"
  | .exiting => "Exiting"
  | .down => "Down"
  | .removed => "Removed"

def StateError.debug : StateError → String
  | .invalidStatusTransition current next =>
      "InvalidStatusTransition(" ++ current.debug ++ ", " ++ next.debug ++ ")"

structure StatusEntry where
  status : Status
  entry : DateTime
  exit : Option DateTime
  deriving DecidableEq, Repr

def StatusEntry.new (status : Status) (entry : DateTime) : StatusEntry :=
  { status, entry, exit := none }

structure NetworkState where
  status : Status
  log : List StatusEntry
  connectedNodes : Finset NodeId
  isolatedNodes : Finset NodeId
  deriving DecidableEq

namespace NetworkState

/-- `NetworkState::default`, created at `now`. -/
def default (now : DateTime) : NetworkState :=
  let entry := StatusEntry.new .joining now
  { status := entry.status, log := [entry], connectedNodes := ∅, isolatedNodes := ∅ }

/-! ## Lifecycle -/

def checkNextStatus (s : NetworkState) (next : Status) : Except StateError Status :=
  match s.status, next with
  | .removed, n => .error (.invalidStatusTransition .removed n)
  | _, .down => .ok .down
  | .joining, .weaklyUp => .ok .weaklyUp
  | .joining, .up => .ok .up
  | .weaklyUp, .up => .ok .up
  | .up, .leaving => .ok .leaving
  | .leaving, .exiting => .ok .exiting
  | .down, .removed => .ok .removed
  | .exiting, .removed => .ok .removed
  | c, n => .error (.invalidStatusTransition c n)

/-- `NetworkState::advance` with the clock reading `now`; returns the previous status. -/
def advance (s : NetworkState) (now : DateTime) (next : Status) :
    Except Panic (Status × NetworkState) :=
  match s.checkNextStatus next with
  | .error e => .error ⟨"unexpected status transition: " ++ e.debug⟩
  | .ok _ =>
      match s.log.getLast? with
      | none => .error ⟨"There's always at least one state entry"⟩
      | some previous =>
          let closed := s.log.dropLast ++ [{ previous with exit := some now }]
          let nextEntry := StatusEntry.new next now
          .ok (s.status, { s with status := nextEntry.status, log := closed ++ [nextEntry] })

/-- What an advance does: it is accepted exactly when the table allows the transition (the log is never
    empty), and then it closes the last entry, opens the next and touches no membership set. -/
theorem advance_eq_ok {s s' : NetworkState} {now : DateTime} {next old : Status}
    (h : s.advance now next = .ok (old, s')) :
    s.checkNextStatus next = .ok next ∧ old = s.status ∧ s'.status = next ∧
      (∃ previous, s.log.getLast? = some previous ∧
        s'.log = s.log.dropLast ++ [{ previous with exit := some now }] ++
          [StatusEntry.new next now]) ∧
      s'.connectedNodes = s.connectedNodes ∧ s'.isolatedNodes = s.isolatedNodes := by
  unfold advance at h
  split at h
  · cases h
  · rename_i _ accepted hcheck
    split at h
    · cases h
    · rename_i _ previous hlast
      simp only [Except.ok.injEq, Prod.mk.injEq] at h
      obtain ⟨rfl, rfl⟩ := h
      have hnext : accepted = next := by
        unfold checkNextStatus at hcheck
        split at hcheck <;> simp_all
      exact ⟨by rw [hcheck, hnext], rfl, rfl, ⟨previous, hlast, rfl⟩, rfl, rfl⟩

/-- An accepted transition of a non-empty timeline goes through. -/
theorem advance_of_checkNextStatus {s : NetworkState} {next : Status} (now : DateTime)
    (hcheck : s.checkNextStatus next = .ok next) (hlog : s.log ≠ []) :
    ∃ s', s.advance now next = .ok (s.status, s') := by
  obtain ⟨previous, hlast⟩ : ∃ previous, s.log.getLast? = some previous :=
    ⟨_, List.getLast?_eq_some_getLast hlog⟩
  simp only [advance, hcheck, hlast]
  exact ⟨_, rfl⟩

/-! ## Membership standing -/

def isIsolatedNode (s : NetworkState) (id : NodeId) : Bool := id ∈ s.isolatedNodes

def isolateNode (s : NetworkState) (id : NodeId) : NetworkState :=
  if s.isIsolatedNode id then s
  else
    { s with
      isolatedNodes := insert id s.isolatedNodes
      connectedNodes := s.connectedNodes.erase id }

def restoreNode (s : NetworkState) (id : NodeId) : NetworkState :=
  if s.isIsolatedNode id then
    { s with
      connectedNodes := insert id s.connectedNodes
      isolatedNodes := s.isolatedNodes.erase id }
  else s

@[simp] theorem isIsolatedNode_iff (s : NetworkState) (id : NodeId) :
    s.isIsolatedNode id = true ↔ id ∈ s.isolatedNodes := by simp [isIsolatedNode]

@[simp] theorem isolateNode_status (s : NetworkState) (id : NodeId) :
    (s.isolateNode id).status = s.status := by unfold isolateNode; split <;> rfl

@[simp] theorem restoreNode_status (s : NetworkState) (id : NodeId) :
    (s.restoreNode id).status = s.status := by unfold restoreNode; split <;> rfl

@[simp] theorem isolateNode_log (s : NetworkState) (id : NodeId) :
    (s.isolateNode id).log = s.log := by unfold isolateNode; split <;> rfl

@[simp] theorem restoreNode_log (s : NetworkState) (id : NodeId) :
    (s.restoreNode id).log = s.log := by unfold restoreNode; split <;> rfl

@[simp] theorem mem_isolatedNodes_isolateNode (s : NetworkState) (id k : NodeId) :
    k ∈ (s.isolateNode id).isolatedNodes ↔ k = id ∨ k ∈ s.isolatedNodes := by
  unfold isolateNode
  split
  · next h => simp only [isIsolatedNode_iff] at h; grind
  · simp

theorem mem_connectedNodes_isolateNode (s : NetworkState) (id k : NodeId) :
    k ∈ (s.isolateNode id).connectedNodes ↔
      k ∈ s.connectedNodes ∧ (k = id → id ∈ s.isolatedNodes) := by
  unfold isolateNode
  split
  · next h => simp only [isIsolatedNode_iff] at h; grind
  · next h => simp only [isIsolatedNode_iff] at h; simp only [Finset.mem_erase]; grind

@[simp] theorem mem_isolatedNodes_restoreNode (s : NetworkState) (id k : NodeId) :
    k ∈ (s.restoreNode id).isolatedNodes ↔ k ≠ id ∧ k ∈ s.isolatedNodes := by
  unfold restoreNode
  split
  · simp
  · next h => simp only [isIsolatedNode_iff] at h; grind

theorem mem_connectedNodes_restoreNode (s : NetworkState) (id k : NodeId) :
    k ∈ (s.restoreNode id).connectedNodes ↔
      k ∈ s.connectedNodes ∨ (k = id ∧ id ∈ s.isolatedNodes) := by
  unfold restoreNode
  split
  · next h => simp only [isIsolatedNode_iff] at h; simp only [Finset.mem_insert]; grind
  · next h => simp only [isIsolatedNode_iff] at h; grind

end NetworkState

end RaftScaffold
