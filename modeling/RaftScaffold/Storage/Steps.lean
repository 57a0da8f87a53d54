import Mathlib.Logic.Equiv.List
import Mathlib.Order.Lattice
import Mathlib.Tactic.DeriveEncodable
import RaftScaffold.Config.Keyed
import RaftScaffold.Storage.Basic
import RaftScaffold.Storage.Journal

set_option autoImplicit false

/-! # What one step does to a store

A message and a resumed future change the log by operations on a journal (`journal_step`), and messages apply
entries to the state machine (`MemoryStorage.Handled`). Nothing else changes either of them, but a snapshot that is
read back. -/

namespace RaftScaffold

open Transition Journal

instance instLinearOrderUInt64 : LinearOrder UInt64 where
  toOrd := inferInstanceAs (Ord UInt64)
  le_refl := UInt64.le_refl
  le_trans _ _ _ := UInt64.le_trans
  lt_iff_le_not_ge a b := by
    rw [UInt64.not_le]
    exact ⟨fun h => ⟨UInt64.le_of_lt h, h⟩, fun h => h.2⟩
  le_antisymm _ _ := UInt64.le_antisymm
  le_total := UInt64.le_total
  toDecidableLE := inferInstance
  toDecidableEq := inferInstance
  toDecidableLT := inferInstance
  compare_eq_compareOfLessAndEq _ _ := rfl

/-! ## Maps of entries -/

namespace EntryMap

@[simp] theorem getElem?_splitOff (m : EntryMap) (k i : UInt64) :
    (m.splitOff k)[i]? = if k ≤ i then m[i]? else none := by
  rw [splitOff, Std.ExtTreeMap.getElem?_filter']
  by_cases hk : k ≤ i
  · cases m[i]? <;> simp [hk]
  · cases m[i]? <;> simp [hk]

theorem getElem?_insertAll (m : EntryMap) (entries : List StorageEntry) (k : UInt64) :
    (m.insertAll entries)[k]? = (Keyed.lookup Entry.index entries k).or m[k]? := by
  have hput : ∀ (m : EntryMap) (e : StorageEntry) (k : UInt64),
      (m.insert e.index e)[k]? = if e.index = k then some (id e) else m[k]? := by
    intro m e k
    rw [Std.ExtTreeMap.getElem?_insert]
    simp only [Std.LawfulEqCmp.compare_eq_iff_eq, id]
  rw [insertAll, Keyed.foldl_put (fun (m : EntryMap) k => m[k]?) hput]
  cases Keyed.lookup Entry.index entries k <;> rfl

theorem range_empty (p : UInt64 → Bool) : range ∅ p = [] := rfl

theorem mem_range {m : EntryMap} {p : UInt64 → Bool} {e : StorageEntry} :
    e ∈ m.range p ↔ ∃ k, p k = true ∧ m[k]? = some e := by
  simp only [range, List.mem_map, List.mem_filter, Prod.exists, exists_eq_right,
    Std.ExtTreeMap.mem_toList_iff_getElem?_eq_some]
  exact exists_congr fun _ => and_comm

/-- A range has what is under its keys, in the order of the keys. -/
theorem range_eq (m : EntryMap) (p : UInt64 → Bool) :
    ∃ keys : List UInt64, keys.Pairwise (· < ·) ∧ (∀ k, k ∈ keys ↔ p k = true ∧ (m[k]?).isSome) ∧
      (m.range p).map some = keys.map fun k => m[k]? := by
  refine ⟨(m.toList.filter fun entry => p entry.1).map Prod.fst, ?_, fun k => ?_, ?_⟩
  · rw [List.pairwise_map]
    exact (Std.ExtTreeMap.ordered_keys_toList.imp fun h => Std.compare_eq_lt.1 h).filter _
  · simp only [List.mem_map, List.mem_filter, Prod.exists, exists_and_right, exists_eq_right,
      Std.ExtTreeMap.mem_toList_iff_getElem?_eq_some, Option.isSome_iff_exists]
    exact and_comm
  · rw [range, List.map_map, List.map_map]
    refine List.map_congr_left fun entry hmem => ?_
    exact (Std.ExtTreeMap.mem_toList_iff_getElem?_eq_some.1 (List.mem_of_mem_filter hmem)).symm

end EntryMap

/-! ## Kinds -/

/-- What a request asks for. -/
inductive RequestKind where
  | initialState
  | hardState
  | logEntries
  | append
  | replicate
  | apply
  | replicateToStateMachine
  | createSnapshot
  | installSnapshot
  | currentSnapshot
  deriving DecidableEq, Repr

def StorageMsg.kind : StorageMsg → RequestKind
  | .getInitialState => .initialState
  | .saveHardState _ => .hardState
  | .getLogEntries _ _ => .logEntries
  | .appendEntryToLog _ => .append
  | .replicateToLog _ => .replicate
  | .applyEntryToStateMachine _ => .apply
  | .replicateToStateMachine _ => .replicateToStateMachine
  | .createSnapshot _ => .createSnapshot
  | .installSnapshot _ => .installSnapshot
  | .getCurrentSnapshot => .currentSnapshot

def StorageReply.kind : StorageReply → RequestKind
  | .initialState _ => .initialState
  | .hardStateSaved => .hardState
  | .logEntries _ => .logEntries
  | .entryAppended => .append
  | .entriesReplicated => .replicate
  | .entryApplied _ => .apply
  | .entriesApplied _ => .replicateToStateMachine
  | .snapshotCreated _ => .createSnapshot
  | .snapshotInstalled _ => .installSnapshot
  | .currentSnapshot _ => .currentSnapshot

def SnapshotTask.kind : SnapshotTask → RequestKind
  | .createSnapshotWithData .. => .createSnapshot
  | .syncInstallSnapshot _ => .installSnapshot
  | .deserializeSnapshot _ => .installSnapshot

def SnapshotAnswer.kind : SnapshotAnswer → RequestKind
  | .created .. => .createSnapshot
  | .installed .. => .installSnapshot
  | .deserialized .. => .installSnapshot

def StorageOutcome.kind : StorageOutcome → RequestKind
  | .reply r => r.kind
  | .send task => task.kind

theorem StorageOutcome.reply?_kind {outcome : StorageOutcome} {r : StorageReply} (hreply : outcome.reply? = some r) :
    r.kind = outcome.kind := by
  cases outcome with
  | reply r' => rw [← Option.some.inj hreply, StorageOutcome.kind]
  | send task => cases hreply

/-! ## Operations on the log -/

/-- A step of the log. -/
abbrev LogOp := Op UInt64 StorageEntry

namespace MemoryStorage

/-- What is under each key of the log. -/
def journal (self : MemoryStorage) : UInt64 → Option StorageEntry := fun k => self.log[k]?

end MemoryStorage

/-- What handling the message does to the log. -/
def StorageMsg.logOps : StorageMsg → List LogOp
  | .appendEntryToLog entry => [.write entry.index entry]
  | .replicateToLog entries => entries.map fun e => .write e.index e
  | _ => []

/-- What resuming the future does to the log. -/
def SnapshotAnswer.logOps : SnapshotAnswer → List LogOp
  | .created path through index term (.ok _) =>
      [.compact through (Entry.newSnapshotPointer { path } index term)]
  | .installed index term (.ok pointer) => [.compact index (Entry.newSnapshotPointer pointer index term)]
  | _ => []

def Store.logOps (self : Store) : StoreEvent → List LogOp
  | .message msg => msg.logOps
  | .snapshotActor _ => []
  | .resume n => (self.answers[n]?.map SnapshotAnswer.logOps).getD []

namespace MemoryStorage

theorem journal_insert (self : MemoryStorage) (k : UInt64) (e : StorageEntry) :
    (fun i => (self.log.insert k e)[i]?) = (Op.write k e).apply self.journal := by
  funext i
  rw [Std.ExtTreeMap.getElem?_insert]
  simp only [Std.LawfulEqCmp.compare_eq_iff_eq, Op.apply, Function.update_apply, journal, eq_comm (a := i)]

theorem journal_compact (self : MemoryStorage) (k : UInt64) (e : StorageEntry) :
    (fun i => ((EntryMap.splitOff self.log k).insert k e)[i]?) = (Op.compact k e).apply self.journal := by
  funext i
  rw [Std.ExtTreeMap.getElem?_insert, EntryMap.getElem?_splitOff]
  simp only [Std.LawfulEqCmp.compare_eq_iff_eq, Op.apply, Function.update_apply, journal, eq_comm (a := i)]
  congr 1
  rcases lt_or_ge i k with hlt | hge
  · rw [if_neg hlt.not_ge, if_pos hlt]
  · rw [if_pos hge, if_neg hge.not_gt]

theorem journal_handleReplicateToLog (self : MemoryStorage) (entries : List StorageEntry) :
    (self.handleReplicateToLog entries).journal =
      replay self.journal (entries.map fun e => Op.write e.index e) := by
  unfold handleReplicateToLog EntryMap.insertAll replay
  induction entries generalizing self with
  | nil => rfl
  | cons e entries ih =>
      rw [List.foldl_cons, List.map_cons, List.foldl_cons, ← journal_insert]
      exact ih (self.handleAppendEntryToLog e)

theorem handleApplyEntryToStateMachine_eq (self : MemoryStorage) (e : StorageEntry) :
    self.handleApplyEntryToStateMachine e =
      ({ self with stateMachine := self.stateMachine.insert e.index e },
        if (self.stateMachine[e.index]?).isSome then .error {} else .ok {}) := by
  unfold handleApplyEntryToStateMachine
  dsimp only
  split <;> rfl

/-- The entries are applied up to the first one that overwrites an entry. -/
theorem handleReplicateToStateMachine_eq (self : MemoryStorage) (entries : List StorageEntry) :
    ∃ applied, applied <+: entries ∧ (self.handleReplicateToStateMachine entries).1 =
      { self with stateMachine := EntryMap.insertAll self.stateMachine applied } := by
  induction entries generalizing self with
  | nil => exact ⟨[], List.prefix_rfl, rfl⟩
  | cons e entries ih =>
      unfold handleReplicateToStateMachine
      rw [handleApplyEntryToStateMachine_eq]
      by_cases hold : (self.stateMachine[e.index]?).isSome
      · rw [if_pos hold]
        exact ⟨[e], List.prefix_append [e] entries, rfl⟩
      · rw [if_neg hold]
        obtain ⟨applied, hprefix, heq⟩ := ih { self with stateMachine := self.stateMachine.insert e.index e }
        exact ⟨e :: applied, List.prefix_cons_inj e |>.2 hprefix, heq⟩

end MemoryStorage

/-- The entries that the message applies to the state machine. -/
def StorageMsg.toApply : StorageMsg → List StorageEntry
  | .applyEntryToStateMachine payload => [payload]
  | .replicateToStateMachine payload => payload
  | _ => []

/-- The hard state that the message saves. -/
def StorageMsg.savedHs : StorageMsg → Option HardState
  | .saveHardState hs => some hs
  | _ => none

namespace MemoryStorage

/-- What handling a message does to the storage. -/
structure Handled (storage : MemoryStorage) (msg : StorageMsg) (storage' : MemoryStorage) : Prop where
  journal : storage'.journal = replay storage.journal msg.logOps
  stateMachine : ∃ applied, applied <+: msg.toApply ∧
    storage'.stateMachine = EntryMap.insertAll storage.stateMachine applied
  hs : storage'.hs = msg.savedHs.getD storage.hs
  snapshotDir : storage'.snapshotDir = storage.snapshotDir
  snapshotData : storage'.snapshotData = storage.snapshotData

theorem Handled.refl (self : MemoryStorage) {msg : StorageMsg} (hlog : msg.logOps = []) (hhs : msg.savedHs = none) :
    self.Handled msg self where
  journal := by rw [hlog]; rfl
  stateMachine := ⟨[], List.nil_prefix, rfl⟩
  hs := by rw [hhs]; rfl
  snapshotDir := rfl
  snapshotData := rfl

theorem handle_handled {self self' : MemoryStorage} {cbor : Cbor (List StorageEntry)} {msg : StorageMsg}
    {outcome : StorageOutcome} (hhandle : self.handle cbor msg = .ok (self', outcome)) : self.Handled msg self' := by
  cases msg with
  | saveHardState hs =>
      obtain ⟨rfl, -⟩ := Prod.mk.inj (Except.ok.inj hhandle)
      exact ⟨rfl, ⟨[], List.nil_prefix, rfl⟩, rfl, rfl, rfl⟩
  | getLogEntries start stop =>
      obtain ⟨entries, -, hok⟩ := bind_eq_ok.1 hhandle
      obtain ⟨rfl, -⟩ := Prod.mk.inj (Except.ok.inj hok)
      exact .refl self rfl rfl
  | appendEntryToLog entry =>
      obtain ⟨rfl, -⟩ := Prod.mk.inj (Except.ok.inj hhandle)
      exact ⟨self.journal_insert entry.index entry, ⟨[], List.nil_prefix, rfl⟩, rfl, rfl, rfl⟩
  | replicateToLog entries =>
      obtain ⟨rfl, -⟩ := Prod.mk.inj (Except.ok.inj hhandle)
      exact ⟨self.journal_handleReplicateToLog entries, ⟨[], List.nil_prefix, rfl⟩, rfl, rfl, rfl⟩
  | applyEntryToStateMachine payload =>
      simp only [handle, handleApplyEntryToStateMachine_eq, Except.ok.injEq, Prod.mk.injEq] at hhandle
      obtain ⟨rfl, -⟩ := hhandle
      exact ⟨rfl, ⟨[payload], List.prefix_rfl, rfl⟩, rfl, rfl, rfl⟩
  | replicateToStateMachine payload =>
      obtain ⟨rfl, -⟩ := Prod.mk.inj (Except.ok.inj hhandle)
      obtain ⟨applied, hprefix, heq⟩ := self.handleReplicateToStateMachine_eq payload
      rw [heq]
      exact ⟨rfl, ⟨applied, hprefix, rfl⟩, rfl, rfl, rfl⟩
  | _ =>
      obtain ⟨rfl, -⟩ := Prod.mk.inj (Except.ok.inj hhandle)
      exact .refl self rfl rfl

/-- What a message makes the storage ask of the snapshot actor. -/
theorem handle_sends {self self' : MemoryStorage} {cbor : Cbor (List StorageEntry)} {msg : StorageMsg}
    {task : SnapshotTask} (hhandle : self.handle cbor msg = .ok (self', .send task)) :
    self' = self ∧
      ((∃ through snapdata index term, msg = .createSnapshot through ∧
          cbor.toVec (self.snapshotEntries through) = .ok snapdata ∧
          ((self.snapshotEntries through).getLast?.map fun e => (e.index, e.term)).getD (0, 0) = (index, term) ∧
          task = .createSnapshotWithData (snapshotPath self.snapshotDir through) snapdata through index term) ∨
        ∃ m, msg = .installSnapshot m ∧ task = .syncInstallSnapshot m) := by
  cases msg with
  | getLogEntries start stop =>
      obtain ⟨entries, -, hok⟩ := bind_eq_ok.1 hhandle
      cases Except.ok.inj hok
  | createSnapshot through =>
      obtain ⟨rfl, hsend⟩ := Prod.mk.inj (Except.ok.inj hhandle)
      refine ⟨rfl, .inl ?_⟩
      unfold handleCreateSnapshot at hsend
      dsimp only at hsend
      split at hsend
      · cases hsend
      · next snapdata hdata =>
          obtain rfl := StorageOutcome.send.inj hsend
          exact ⟨through, snapdata, _, _, rfl, hdata, rfl, rfl⟩
  | installSnapshot m =>
      obtain ⟨rfl, hsend⟩ := Prod.mk.inj (Except.ok.inj hhandle)
      obtain rfl := StorageOutcome.send.inj hsend
      exact ⟨rfl, .inr ⟨m, rfl, rfl⟩⟩
  | _ => cases Except.ok.inj hhandle

/-- What comes of a message belongs to it. -/
theorem handle_kind {self self' : MemoryStorage} {cbor : Cbor (List StorageEntry)} {msg : StorageMsg}
    {outcome : StorageOutcome} (hhandle : self.handle cbor msg = .ok (self', outcome)) : outcome.kind = msg.kind := by
  cases msg with
  | getLogEntries start stop =>
      obtain ⟨entries, -, hok⟩ := bind_eq_ok.1 hhandle
      obtain ⟨-, rfl⟩ := Prod.mk.inj (Except.ok.inj hok)
      rfl
  | createSnapshot through =>
      obtain ⟨-, rfl⟩ := Prod.mk.inj (Except.ok.inj hhandle)
      unfold handleCreateSnapshot
      dsimp only
      split <;> rfl
  | _ =>
      obtain ⟨-, rfl⟩ := Prod.mk.inj (Except.ok.inj hhandle)
      rfl

/-- What a resumed future does, and what comes of it. -/
inductive Resumed (self : MemoryStorage) : SnapshotAnswer → MemoryStorage → StorageOutcome → Prop
  | createFailed {path : String} {through index term : UInt64} {err : MemoryStorageError} :
      Resumed self (.created path through index term (.error err)) self (.reply (.snapshotCreated (.error err)))
  | created {path : String} {through index term : UInt64} (d : CurrentSnapshotData) (hpointer : d.pointer = ⟨path⟩) :
      Resumed self (.created path through index term (.ok ()))
        { self with
          log := (EntryMap.splitOff self.log through).insert through (Entry.newSnapshotPointer ⟨path⟩ index term)
          snapshotData := some d }
        (.reply (.snapshotCreated (.ok d)))
  | installFailed {index term : UInt64} {err : MemoryStorageError} :
      Resumed self (.installed index term (.error err)) self (.reply (.snapshotInstalled (.error err)))
  | installed {index term : UInt64} {pointer : EntrySnapshotPointer} {outcome : StorageOutcome}
      (d : CurrentSnapshotData) (hpointer : d.pointer = pointer)
      (houtcome : outcome = .reply (.snapshotInstalled (.ok ())) ∨
        outcome = .send (.deserializeSnapshot pointer.path)) :
      Resumed self (.installed index term (.ok pointer))
        { self with
          log := (EntryMap.splitOff self.log index).insert index (Entry.newSnapshotPointer pointer index term)
          snapshotData := some d }
        outcome
  | rebuildFailed {path : String} {err : MemoryStorageError} :
      Resumed self (.deserialized path (.error err)) self (.reply (.snapshotInstalled (.error err)))
  | rebuilt {path : String} {entries : List StorageEntry} :
      Resumed self (.deserialized path (.ok entries)) (self.finishRebuild entries)
        (.reply (.snapshotInstalled (.ok ())))

theorem resume_cases {self self' : MemoryStorage} {answer : SnapshotAnswer} {outcome : StorageOutcome}
    (hresume : self.resume answer = (self', outcome)) : self.Resumed answer self' outcome := by
  cases answer with
  | created path through index term result =>
      cases result with
      | ok u =>
          obtain ⟨rfl, rfl⟩ := Prod.mk.inj hresume
          exact .created _ rfl
      | error err =>
          obtain ⟨rfl, rfl⟩ := Prod.mk.inj hresume
          exact .createFailed
  | installed index term result =>
      cases result with
      | ok pointer =>
          simp only [resume, finishInstallSnapshot] at hresume
          split at hresume
          · split at hresume
            · obtain ⟨rfl, rfl⟩ := Prod.mk.inj hresume
              exact .installed _ rfl (.inl rfl)
            · obtain ⟨rfl, rfl⟩ := Prod.mk.inj hresume
              exact .installed _ rfl (.inr rfl)
          · obtain ⟨rfl, rfl⟩ := Prod.mk.inj hresume
            exact .installed _ rfl (.inr rfl)
      | error err =>
          obtain ⟨rfl, rfl⟩ := Prod.mk.inj hresume
          exact .installFailed
  | deserialized path result =>
      cases result with
      | ok entries =>
          obtain ⟨rfl, rfl⟩ := Prod.mk.inj hresume
          exact .rebuilt
      | error err =>
          obtain ⟨rfl, rfl⟩ := Prod.mk.inj hresume
          exact .rebuildFailed

namespace Resumed

variable {self self' : MemoryStorage} {answer : SnapshotAnswer} {outcome : StorageOutcome}

/-- A resumed future asks for a snapshot that was installed to be read. -/
theorem sends {task : SnapshotTask} (h : self.Resumed answer self' (.send task)) :
    ∃ index term pointer, answer = .installed index term (.ok pointer) ∧ task = .deserializeSnapshot pointer.path := by
  cases h with
  | installed d hpointer houtcome =>
      obtain houtcome | houtcome := houtcome
      · cases houtcome
      · exact ⟨_, _, _, rfl, StorageOutcome.send.inj houtcome⟩

/-- The current snapshot is one that was finished. -/
theorem snapshotData (h : self.Resumed answer self' outcome) {d : CurrentSnapshotData}
    (hd : self'.snapshotData = some d) :
    self.snapshotData = some d ∨
      (∃ path through index term, answer = .created path through index term (.ok ()) ∧ d.pointer = ⟨path⟩) ∨
        ∃ index term pointer, answer = .installed index term (.ok pointer) ∧ d.pointer = pointer := by
  cases h with
  | created d' hpointer => exact .inr (.inl ⟨_, _, _, _, rfl, Option.some.inj hd ▸ hpointer⟩)
  | installed d' hpointer houtcome => exact .inr (.inr ⟨_, _, _, rfl, Option.some.inj hd ▸ hpointer⟩)
  | _ => exact .inl hd

/-- Only a snapshot that is read back changes the state machine. -/
theorem stateMachine (h : self.Resumed answer self' outcome)
    (hkeeps : ∀ path entries, answer ≠ .deserialized path (.ok entries)) : self'.stateMachine = self.stateMachine := by
  cases h with
  | rebuilt => exact absurd rfl (hkeeps _ _)
  | _ => rfl

theorem frame (h : self.Resumed answer self' outcome) :
    self'.hs = self.hs ∧ self'.snapshotDir = self.snapshotDir := by
  cases h <;> exact ⟨rfl, rfl⟩

theorem journal (h : self.Resumed answer self' outcome) : self'.journal = replay self.journal answer.logOps := by
  cases h with
  | created d hpointer => exact self.journal_compact _ _
  | installed d hpointer houtcome => exact self.journal_compact _ _
  | _ => rfl

/-- What comes of a resumed future belongs to it. -/
theorem kind (h : self.Resumed answer self' outcome) : outcome.kind = answer.kind := by
  cases h with
  | installed d hpointer houtcome => obtain rfl | rfl := houtcome <;> rfl
  | _ => rfl

end Resumed

end MemoryStorage

namespace Store

variable {cbor : Cbor (List StorageEntry)} {s s' : Store} {e : StoreEvent}

@[simp] theorem proceed_storage (s : Store) (outcome : StorageOutcome) :
    (s.proceed outcome).storage = s.storage := by cases outcome <;> rfl

@[simp] theorem proceed_snapshotActor (s : Store) (outcome : StorageOutcome) :
    (s.proceed outcome).snapshotActor = s.snapshotActor := by cases outcome <;> rfl

@[simp] theorem proceed_answers (s : Store) (outcome : StorageOutcome) :
    (s.proceed outcome).answers = s.answers := by cases outcome <;> rfl

@[simp] theorem proceed_files (s : Store) (outcome : StorageOutcome) :
    (s.proceed outcome).files = s.files := by cases outcome <;> rfl

theorem mem_proceed_mailbox {s : Store} {outcome : StorageOutcome} {task : SnapshotTask} :
    task ∈ (s.proceed outcome).mailbox ↔ task ∈ s.mailbox ∨ outcome = .send task := by
  cases outcome <;> simp [proceed, eq_comm]

/-- What an event does to a store that takes it. -/
def Effect (cbor : Cbor (List StorageEntry)) (self : Store) : StoreEvent → Store → Prop
  | .message msg, s' => ∃ storage outcome, self.storage.handle cbor msg = .ok (storage, outcome) ∧
      s' = { self with storage }.proceed outcome
  | .snapshotActor disk, s' => ∃ task mailbox, self.mailbox = task :: mailbox ∧
      s' =
        { self with
          files := (self.snapshotActor.handle cbor disk self.files task).1
          mailbox
          answers := self.answers ++ [(self.snapshotActor.handle cbor disk self.files task).2] }
  | .resume n, s' => ∃ answer storage outcome, self.answers[n]? = some answer ∧
      self.storage.resume answer = (storage, outcome) ∧
      s' = { self with storage, answers := self.answers.eraseIdx n }.proceed outcome

theorem step_cases (hstep : s.step cbor e = .ok s') : s.Effect cbor e s' := by
  cases e with
  | message msg =>
      obtain ⟨⟨storage, outcome⟩, hhandle, hok⟩ := bind_eq_ok.1 hstep
      exact ⟨storage, outcome, (orPanic_eq_ok _ _).1 hhandle, (Except.ok.inj hok).symm⟩
  | snapshotActor disk =>
      simp only [step] at hstep
      split at hstep
      · cases hstep
      · next task mailbox hmailbox => exact ⟨task, mailbox, hmailbox, (Except.ok.inj hstep).symm⟩
  | resume n =>
      simp only [step] at hstep
      split at hstep
      · cases hstep
      · next answer hanswer => exact ⟨answer, _, _, hanswer, rfl, (Except.ok.inj hstep).symm⟩

/-- **Every step does to the log what it reports.** -/
theorem journal_step (hstep : s.step cbor e = .ok s') :
    s'.storage.journal = replay s.storage.journal (s.logOps e) := by
  have heff := step_cases hstep
  cases e with
  | message msg =>
      obtain ⟨storage, outcome, hhandle, rfl⟩ := heff
      rw [proceed_storage]
      exact (MemoryStorage.handle_handled hhandle).journal
  | snapshotActor disk =>
      obtain ⟨task, mailbox, -, rfl⟩ := heff
      rfl
  | resume n =>
      obtain ⟨answer, storage, outcome, hanswer, hresume, rfl⟩ := heff
      rw [proceed_storage, logOps, hanswer]
      exact (MemoryStorage.resume_cases hresume).journal

/-- What the steps that the events make do to the log. -/
def logOpsAlong (cbor : Cbor (List StorageEntry)) : Store → List StoreEvent → List LogOp :=
  reportsAlong (step cbor) logOps

theorem journal_of_runs {es : List StoreEvent} (hrun : Runs (Step cbor) s es s') :
    s'.storage.journal = replay s.storage.journal (logOpsAlong cbor s es) :=
  view_of_runs (fun s => s.storage.journal) (fun journal op => op.apply journal) logOps
    (fun _ _ _ hstep => journal_step hstep) hrun

end Store

/-! ## A sample store

The CBOR library writes and reads one entry as `serde_cbor` does; the other snapshots have some encoding of their
own. -/

instance instEncodableUInt8 : Encodable UInt8 := .ofLeftInjection UInt8.toNat (fun n => some (UInt8.ofNat n)) (by simp)

instance instEncodableUInt64 : Encodable UInt64 :=
  .ofLeftInjection UInt64.toNat (fun n => some (UInt64.ofNat n)) (by simp)

instance instEncodableString : Encodable String :=
  .ofLeftInjection (fun s => s.toList.map Char.toNat) (fun codes => some (String.ofList (codes.map Char.ofNat)))
    (by intro s; simp [Function.comp_def])

deriving instance Encodable for MemoryStorageData, MembershipConfig, EntrySnapshotPointer
deriving instance Encodable for EntryNormal, EntryConfigChange
deriving instance Encodable for EntryPayload
deriving instance Encodable for Entry

namespace Store

def sampleEntry (index : UInt64) : StorageEntry := { term := 1, index, payload := .blank }

/-- CBOR of the list of the first sample entry. -/
def sampleText : List UInt8 :=
  [0x81, 0xA3, 0x64, 0x74, 0x65, 0x72, 0x6D, 0x01, 0x65, 0x69, 0x6E, 0x64, 0x65, 0x78, 0x01,
    0x67, 0x70, 0x61, 0x79, 0x6C, 0x6F, 0x61, 0x64, 0x65, 0x42, 0x6C, 0x61, 0x6E, 0x6B]

def sampleCbor : Cbor (List StorageEntry) where
  toVec entries :=
    if entries = [sampleEntry 1] then .ok sampleText
    else .ok (0xFF :: List.replicate (Encodable.encode entries) 0)
  fromSlice bytes :=
    if bytes = sampleText then .ok [sampleEntry 1]
    else
      match Encodable.decode bytes.tail.length with
      | some entries => .ok entries
      | none => .error "invalid type"

theorem sampleCbor_lawful : sampleCbor.Lawful := by
  intro entries
  by_cases hentries : entries = [sampleEntry 1]
  · exact ⟨sampleText, if_pos hentries, by rw [hentries]; rfl⟩
  · refine ⟨_, if_neg hentries, ?_⟩
    simp [sampleCbor, sampleText]

def sampleFactory : MemoryStorageFactory :=
  (MemoryStorageFactory.new.withMembers [1]).withConfiguration
    (Configuration.sampleConfiguration Configuration.sampleNodes)

/-- The store that it creates. -/
def sampleNew : Store := Store.new [1] "/data/snapshots/" fun _ => none

/-- The state after `es`. -/
def sampleRun (es : List StoreEvent) : Store := finalState (step sampleCbor) sampleNew es

theorem runs_sampleRun {es : List StoreEvent} (h : (es.foldlM (step sampleCbor) sampleNew).isOk = true) :
    Runs (Step sampleCbor) sampleNew es (sampleRun es) := runs_finalState h

/-- An entry is appended while a snapshot of the first one is written, and another one afterwards. -/
def sampleCreated : List StoreEvent :=
  [.message (.appendEntryToLog (sampleEntry 1)), .message (.createSnapshot 1),
    .message (.appendEntryToLog (sampleEntry 2)), .snapshotActor .working, .resume 0,
    .message (.appendEntryToLog (sampleEntry 3))]

end Store

end RaftScaffold
