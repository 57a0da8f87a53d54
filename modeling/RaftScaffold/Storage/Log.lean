import RaftScaffold.Storage.Steps

set_option autoImplicit false

/-! # The log of the storage

The log is a journal: entries are appended to it, and a snapshot, when it is finished, drops the entries before its
index and leaves a pointer to its file. That happens when the future of the snapshot is resumed, whatever the
storage has handled since the snapshot was asked for. What is under an index is what the last of these operations
that settles the index has left (`log_refines`); in particular an entry after the index of the snapshot that is
appended in the meantime is kept.

A snapshot that is asked for after another one is finished holds the pointer to that one in place of the entries
that the other one holds (`snapshot_afterSnapshot`). -/

namespace RaftScaffold

open Transition Journal

/-! ## The store that a factory creates -/

theorem MemoryStorageFactory.create_eq_ok {factory : MemoryStorageFactory} {files : Files} {s : Store}
    (hcreate : factory.create files = .ok s) :
    ∃ members c, factory.members = some members ∧ factory.configuration = some c ∧
      s = Store.new members c.snapshotDir files := by
  obtain ⟨-, -, hcreate⟩ := bind_eq_ok.1 hcreate
  obtain ⟨members, hmembers, hcreate⟩ := bind_eq_ok.1 hcreate
  obtain ⟨c, hc, hcreate⟩ := bind_eq_ok.1 hcreate
  exact ⟨members, c, unwrap_eq_ok.1 hmembers, unwrap_eq_ok.1 hc, (Except.ok.inj hcreate).symm⟩

/-! ## The log is a journal -/

theorem MemoryStorage.handleGetLogEntries_eq_error (self : MemoryStorage) (start stop : UInt64) :
    (∃ p, self.handleGetLogEntries start stop = .error p) ↔ self.log ≠ ∅ ∧ stop < start := by
  rw [handleGetLogEntries, Ne, ← Std.ExtTreeMap.isEmpty_iff]
  split
  · next hempty => simp [hempty]
  · next hempty => split <;> simp [*]

theorem MemoryStorage.handleGetLogEntries_eq_ok (self : MemoryStorage) {start stop : UInt64} (hle : start ≤ stop) :
    self.handleGetLogEntries start stop =
      .ok (EntryMap.range self.log fun k => decide (start ≤ k ∧ k < stop)) := by
  rw [handleGetLogEntries]
  split
  · next hempty => rw [Std.ExtTreeMap.isEmpty_iff.1 hempty, EntryMap.range_empty]
  · exact if_neg hle.not_gt

/-- A log that nothing was written to has no range to search. -/
theorem MemoryStorage.handleGetLogEntries_of_empty {self : MemoryStorage} (hempty : self.log = ∅)
    (start stop : UInt64) : self.handleGetLogEntries start stop = .ok [] :=
  if_pos (Std.ExtTreeMap.isEmpty_iff.2 hempty)

/-- The log of a new store is empty until an operation writes it. -/
theorem Store.log_eq_empty_of_runs {cbor : Cbor (List StorageEntry)} {members : List NodeId} {snapshotDir : String}
    {files : Files} {es : List StoreEvent} {s : Store}
    (hrun : Runs (Step cbor) (Store.new members snapshotDir files) es s) :
    s.storage.log = ∅ ↔ logOpsAlong cbor (Store.new members snapshotDir files) es = [] := by
  have hlog : ∀ k, s.storage.log[k]? = replay (fun _ => none) (logOpsAlong cbor _ es) k :=
    congrFun (journal_of_runs hrun)
  constructor
  · intro hempty
    by_contra hops
    obtain ⟨k, e, he⟩ := exists_replay_eq_some hops fun _ : UInt64 => (none : Option StorageEntry)
    rw [← hlog, hempty] at he
    simp at he
  · intro hops
    refine Std.ExtTreeMap.ext_getElem? fun k => ?_
    rw [hlog, hops]
    simp [replay]

/-- **The log is what its operations left.** In every run of a new store, however snapshots are written and
    installed meanwhile, an index has the entry that the last operation that settles it has left there, and none if
    no operation settles it. `GetLogEntries` answers the entries of its range in the order of the indices, and
    panics if and only if the log has been written and the range starts after its end; on a log that has not been
    written it answers no entries whatever the range is. -/
theorem Store.log_refines (cbor : Cbor (List StorageEntry)) (factory : MemoryStorageFactory) (files : Files)
    (s₀ : Store) (hcreate : factory.create files = .ok s₀) (es : List StoreEvent) (s : Store)
    (hrun : Runs (Step cbor) s₀ es s) :
    (∀ before op after, logOpsAlong cbor s₀ es = before ++ op :: after → ∀ k, op.Settles k →
      (∀ op' ∈ after, ¬ op'.Settles k) → s.storage.log[k]? = op.leaves k) ∧
    (∀ k, (∀ op ∈ logOpsAlong cbor s₀ es, ¬ op.Settles k) → s.storage.log[k]? = none) ∧
    ∀ start stop,
      ((∃ p, s.storage.handleGetLogEntries start stop = .error p) ↔
        logOpsAlong cbor s₀ es ≠ [] ∧ stop < start) ∧
      (logOpsAlong cbor s₀ es = [] → s.storage.handleGetLogEntries start stop = .ok []) ∧
      (start ≤ stop → ∃ entries, ∃ keys : List UInt64, s.storage.handleGetLogEntries start stop = .ok entries ∧
        keys.Pairwise (· < ·) ∧ (∀ k, k ∈ keys ↔ start ≤ k ∧ k < stop ∧ (s.storage.log[k]?).isSome) ∧
        entries.map some = keys.map fun k => s.storage.log[k]?) := by
  obtain ⟨members, c, -, -, rfl⟩ := MemoryStorageFactory.create_eq_ok hcreate
  have hjournal := journal_of_runs hrun
  have hlog : ∀ k, s.storage.log[k]? = replay (fun _ => none) (logOpsAlong cbor _ es) k := congrFun hjournal
  have hwritten := log_eq_empty_of_runs hrun
  refine ⟨fun before op after hops k hop hafter => ?_, fun k hops => ?_,
    fun start stop => ⟨?_, fun hnil => ?_, fun hle => ?_⟩⟩
  · rw [hlog, hops]
    exact replay_of_last hop hafter _ before
  · rw [hlog]
    exact replay_of_not_settles hops _
  · rw [s.storage.handleGetLogEntries_eq_error, Ne, hwritten]
  · exact s.storage.handleGetLogEntries_of_empty (hwritten.2 hnil) start stop
  · obtain ⟨keys, hsorted, hkeys, hentries⟩ :=
      EntryMap.range_eq s.storage.log fun k => decide (start ≤ k ∧ k < stop)
    refine ⟨_, keys, s.storage.handleGetLogEntries_eq_ok hle, hsorted, fun k => ?_, hentries⟩
    rw [hkeys, decide_eq_true_iff, and_assoc]

theorem Store.logOpsAlong_sampleCreated : logOpsAlong sampleCbor sampleNew sampleCreated =
    [.write 1 (sampleEntry 1), .write 2 (sampleEntry 2),
      .compact 1 (Entry.newSnapshotPointer ⟨"/data/snapshots/1"⟩ 1 1), .write 3 (sampleEntry 3)] := by decide +kernel

/-- The entry that is appended while the snapshot is written is kept. -/
theorem Store.log_refines_sample : (sampleRun sampleCreated).storage.log[(2 : UInt64)]? = some (sampleEntry 2) :=
  (log_refines sampleCbor sampleFactory (fun _ => none) sampleNew rfl sampleCreated _ (runs_sampleRun rfl)).1
    [.write 1 (sampleEntry 1)] (.write 2 (sampleEntry 2)) _ logOpsAlong_sampleCreated 2 rfl
    (by simp [Op.Settles])

/-! ## Entries under their indices -/

/-- Every entry is under its own index. -/
def EntryMap.Indexed (m : EntryMap) : Prop := ∀ (k : UInt64) (e : StorageEntry), m[k]? = some e → e.index = k

namespace EntryMap

theorem Indexed.empty : Indexed ∅ := by
  intro k e he
  simp at he

/-- A range lists its entries by their indices. -/
theorem Indexed.range {m : EntryMap} (hm : m.Indexed) (p : UInt64 → Bool) :
    (m.range p).Pairwise (fun a b => a.index < b.index) ∧
      ∀ e, e ∈ m.range p ↔ p e.index = true ∧ m[e.index]? = some e := by
  have hindex : ∀ entry ∈ m.toList, entry.2.index = entry.1 := by
    intro entry hmem
    exact hm _ _ (Std.ExtTreeMap.mem_toList_iff_getElem?_eq_some.1 hmem)
  constructor
  · rw [EntryMap.range, List.pairwise_map]
    refine (Std.ExtTreeMap.ordered_keys_toList.filter _).imp_of_mem fun {a b} ha hb hlt => ?_
    rw [hindex a (List.mem_of_mem_filter ha), hindex b (List.mem_of_mem_filter hb)]
    exact Std.compare_eq_lt.1 hlt
  · intro e
    rw [mem_range]
    constructor
    · rintro ⟨k, hp, he⟩
      obtain rfl := hm k e he
      exact ⟨hp, he⟩
    · rintro ⟨hp, he⟩
      exact ⟨e.index, hp, he⟩

end EntryMap

/-- In a list that is sorted by the index, an entry that is not after any other comes first. -/
theorem eq_cons_of_forall_le {entries : List StorageEntry} (hsorted : entries.Pairwise fun a b => a.index < b.index)
    {e : StorageEntry} (he : e ∈ entries) (hle : ∀ a ∈ entries, e.index ≤ a.index) :
    ∃ rest, entries = e :: rest := by
  cases entries with
  | nil => cases he
  | cons a rest =>
      rcases List.mem_cons.1 he with rfl | hmem
      · exact ⟨rest, rfl⟩
      · have hlt := (List.pairwise_cons.1 hsorted).1 e hmem
        exact absurd (hle a List.mem_cons_self) hlt.not_ge

/-- In a list that is sorted by the index, an entry that is not before any other comes last. -/
theorem getLast?_of_forall_le {entries : List StorageEntry} (hsorted : entries.Pairwise fun a b => a.index < b.index)
    {e : StorageEntry} (he : e ∈ entries) (hle : ∀ a ∈ entries, a.index ≤ e.index) :
    entries.getLast? = some e := by
  rcases List.eq_nil_or_concat entries with rfl | ⟨init, a, rfl⟩
  · cases he
  · rw [List.concat_eq_append] at *
    rw [List.getLast?_append, List.getLast?_singleton, Option.some_or]
    rcases List.mem_append.1 he with hmem | hmem
    · have hlt := (List.pairwise_append.1 hsorted).2.2 e hmem a (List.mem_singleton_self a)
      exact absurd (hle a (List.mem_append_right init (List.mem_singleton_self a))) hlt.not_ge
    · rw [List.mem_singleton.1 hmem]

/-- What is rebuilt from a list that is sorted by the index are the entries of the list. -/
theorem EntryMap.insertAll_eq_some {entries : List StorageEntry}
    (hsorted : entries.Pairwise fun a b => a.index < b.index) {k : UInt64} {e : StorageEntry} :
    (EntryMap.insertAll ∅ entries)[k]? = some e ↔ e ∈ entries ∧ e.index = k := by
  rw [getElem?_insertAll, Std.ExtTreeMap.getElem?_empty, Option.or_none]
  constructor
  · exact Keyed.mem_of_lookup
  · rintro ⟨hmem, rfl⟩
    refine Keyed.lookup_of_injOn (List.inj_on_of_nodup_map ?_) hmem
    exact List.pairwise_map.2 (hsorted.imp fun hlt => hlt.ne)

def SnapshotTask.Indexed : SnapshotTask → Prop
  | .createSnapshotWithData _ _ through index _ => index = through
  | _ => True

def SnapshotAnswer.Indexed : SnapshotAnswer → Prop
  | .created _ through index _ _ => index = through
  | _ => True

namespace Store

/-- In the log every entry is under its own index, and so will be the pointers to the snapshots that are being
    written. -/
structure Indexed (s : Store) : Prop where
  log : s.storage.log.Indexed
  mailbox : ∀ task ∈ s.mailbox, task.Indexed
  answers : ∀ answer ∈ s.answers, answer.Indexed

/-- A snapshot is asked for at an index that the log has. -/
def CreatesAtEntry (s : Store) : StoreEvent → Prop
  | .message (.createSnapshot through) => (s.storage.log[through]?).isSome
  | _ => True

variable {cbor : Cbor (List StorageEntry)} {s s' : Store} {e : StoreEvent}

/-- The operations of a step write entries under their own indices. -/
theorem Indexed.logOps (hs : s.Indexed) : ∀ op ∈ s.logOps e, op.entry.index = op.key := by
  intro op hop
  cases e with
  | message msg =>
      cases msg with
      | appendEntryToLog entry => rw [List.mem_singleton.1 hop]; rfl
      | replicateToLog entries => obtain ⟨entry, -, rfl⟩ := List.mem_map.1 hop; rfl
      | _ => cases hop
  | snapshotActor disk => cases hop
  | resume n =>
      cases hanswer : s.answers[n]? with
      | none => simp [Store.logOps, hanswer] at hop
      | some answer =>
          have hindexed := hs.answers answer (List.mem_of_getElem? hanswer)
          simp only [Store.logOps, hanswer, Option.map_some, Option.getD_some] at hop
          cases answer with
          | created path through index term result =>
              cases result with
              | ok u => rw [List.mem_singleton.1 hop]; exact hindexed
              | error err => cases hop
          | installed index term result =>
              cases result with
              | ok pointer => rw [List.mem_singleton.1 hop]; rfl
              | error err => cases hop
          | deserialized path result => cases hop

theorem Indexed.log_step (hs : s.Indexed) (hstep : s.step cbor e = .ok s') : s'.storage.log.Indexed := by
  intro k entry hentry
  have hjournal := congrFun (journal_step hstep) k
  rcases replay_eq_some (hjournal.symm.trans hentry) with hold | ⟨op, hop, rfl, rfl⟩
  · exact hs.log k entry hold
  · exact hs.logOps op hop

/-- The pointer to a snapshot through an index that the log has gets this index. -/
theorem Indexed.pointer_index (hs : s.Indexed) {through index term : UInt64}
    (hthrough : (s.storage.log[through]?).isSome)
    (hlast : ((s.storage.snapshotEntries through).getLast?.map fun e => (e.index, e.term)).getD (0, 0) =
      (index, term)) : index = through := by
  obtain ⟨last, hentry⟩ := Option.isSome_iff_exists.1 hthrough
  obtain rfl := hs.log through last hentry
  obtain ⟨hsorted, hmem⟩ := hs.log.range fun k => decide (k ≤ last.index)
  have hfound : (s.storage.snapshotEntries last.index).getLast? = some last := by
    refine getLast?_of_forall_le hsorted ((hmem last).2 ⟨decide_eq_true le_rfl, hentry⟩) fun a ha => ?_
    exact of_decide_eq_true ((hmem a).1 ha).1
  rw [hfound] at hlast
  exact (Prod.mk.inj hlast).1.symm

theorem Indexed.step (hs : s.Indexed) (hcreates : s.CreatesAtEntry e) (hstep : s.step cbor e = .ok s') :
    s'.Indexed := by
  have hlog := hs.log_step hstep
  have heff := step_cases hstep
  cases e with
  | message msg =>
      obtain ⟨storage, outcome, hhandle, rfl⟩ := heff
      refine ⟨hlog, fun task htask => ?_, ?_⟩
      · rcases mem_proceed_mailbox.1 htask with hmem | rfl
        · exact hs.mailbox task hmem
        · obtain ⟨-, ⟨through, snapdata, index, term, rfl, -, hlast, rfl⟩ | ⟨m, -, rfl⟩⟩ :=
            MemoryStorage.handle_sends hhandle
          · exact hs.pointer_index hcreates hlast
          · trivial
      · rw [proceed_answers]
        exact hs.answers
  | snapshotActor disk =>
      obtain ⟨task, mailbox, hmailbox, rfl⟩ := heff
      have htask := hs.mailbox task (by rw [hmailbox]; exact List.mem_cons_self)
      refine ⟨hlog, fun task' hmem => ?_, fun answer hmem => ?_⟩
      · exact hs.mailbox task' (by rw [hmailbox]; exact List.mem_cons_of_mem task hmem)
      · rcases List.mem_append.1 hmem with hmem | hmem
        · exact hs.answers answer hmem
        · rw [List.mem_singleton.1 hmem]
          cases task <;> exact htask
  | resume n =>
      obtain ⟨answer, storage, outcome, hanswer, hresume, rfl⟩ := heff
      refine ⟨hlog, fun task htask => ?_, ?_⟩
      · rcases mem_proceed_mailbox.1 htask with hmem | rfl
        · exact hs.mailbox task hmem
        · obtain ⟨index, term, pointer, -, rfl⟩ := (MemoryStorage.resume_cases hresume).sends
          trivial
      · rw [proceed_answers]
        exact fun a ha => hs.answers a (List.mem_of_mem_eraseIdx ha)

theorem Indexed.new (members : List NodeId) (snapshotDir : String) (files : Files) :
    (Store.new members snapshotDir files).Indexed where
  log := .empty
  mailbox := nofun
  answers := nofun

theorem Indexed.of_runs {factory : MemoryStorageFactory} {files : Files} {s₀ : Store}
    (hcreate : factory.create files = .ok s₀) {es : List StoreEvent} (hrun : Runs (Step cbor) s₀ es s)
    (hguard : GuardedAlong (Step cbor) CreatesAtEntry s₀ es) : s.Indexed := by
  obtain ⟨members, c, -, -, rfl⟩ := MemoryStorageFactory.create_eq_ok hcreate
  exact hrun.invariant_of_guarded (fun _ _ _ hs hcreates hstep => hs.step hcreates hstep) hguard (.new _ _ _)

end Store

/-! ## What the log answers -/

/-- The hard state that the event saves. -/
def StoreEvent.savedHs : StoreEvent → Option HardState
  | .message msg => msg.savedHs
  | _ => none

namespace Store

variable {cbor : Cbor (List StorageEntry)} {s s' : Store} {e : StoreEvent}

theorem hs_step (hstep : s.step cbor e = .ok s') : s'.storage.hs = e.savedHs.getD s.storage.hs := by
  have heff := step_cases hstep
  cases e with
  | message msg =>
      obtain ⟨storage, outcome, hhandle, rfl⟩ := heff
      rw [proceed_storage]
      exact (MemoryStorage.handle_handled hhandle).hs
  | snapshotActor disk =>
      obtain ⟨task, mailbox, -, rfl⟩ := heff
      rfl
  | resume n =>
      obtain ⟨answer, storage, outcome, -, hresume, rfl⟩ := heff
      rw [proceed_storage]
      exact (MemoryStorage.resume_cases hresume).frame.1

theorem hs_of_runs {es : List StoreEvent} (hrun : Runs (Step cbor) s es s') :
    s'.storage.hs = ((es.filterMap StoreEvent.savedHs).getLast?).getD s.storage.hs := by
  induction hrun with
  | nil s => rfl
  | @cons s s₁ s₂ e es hstep _ ih =>
      rw [ih, hs_step hstep, List.filterMap_cons]
      cases e.savedHs with
      | none => rfl
      | some hs =>
          rw [List.getLast?_cons]
          rfl

end Store

theorem MemoryStorage.handleGetInitialState_eq {self : MemoryStorage} (hlog : self.log.Indexed) :
    self.handleGetInitialState =
      let last := (EntryMap.range self.log fun _ => true).getLast?
      { lastLogIndex := (last.map Entry.index).getD 0
        lastLogTerm := (last.map Entry.term).getD 0
        lastAppliedLog := (last.map Entry.index).getD 0
        hardState := self.hs } := by
  unfold handleGetInitialState EntryMap.range
  rw [List.filter_true, List.getLast?_map]
  cases hlast : self.log.toList.getLast? with
  | none => rfl
  | some entry =>
      have hentry := Std.ExtTreeMap.mem_toList_iff_getElem?_eq_some.1 (List.mem_of_getLast? hlast)
      simp [hlog _ _ hentry]

/-- **What the log answers.** In every run of a new store in which snapshots are asked for at indices that the log
    has, however they are written and installed meanwhile: `GetLogEntries` with a range that does not start after its
    end answers the entries whose indices are in the range, in the order of their indices, and `GetInitialState` the
    index and the term of the last entry of the log, with the hard state that was saved last. -/
theorem Store.log_answers (cbor : Cbor (List StorageEntry)) (factory : MemoryStorageFactory) (files : Files)
    (s₀ : Store) (hcreate : factory.create files = .ok s₀) (es : List StoreEvent) (s : Store)
    (hrun : Runs (Step cbor) s₀ es s) (hguard : GuardedAlong (Step cbor) CreatesAtEntry s₀ es) :
    (∀ start stop, start ≤ stop → ∃ entries, s.storage.handleGetLogEntries start stop = .ok entries ∧
      entries.Pairwise (fun a b => a.index < b.index) ∧
      ∀ e, e ∈ entries ↔ (start ≤ e.index ∧ e.index < stop) ∧ s.storage.log[e.index]? = some e) ∧
    ∃ entries : List StorageEntry, entries.Pairwise (fun a b => a.index < b.index) ∧
      (∀ e, e ∈ entries ↔ s.storage.log[e.index]? = some e) ∧
      s.storage.handleGetInitialState =
        { lastLogIndex := (entries.getLast?.map Entry.index).getD 0
          lastLogTerm := (entries.getLast?.map Entry.term).getD 0
          lastAppliedLog := (entries.getLast?.map Entry.index).getD 0
          hardState := ((es.filterMap StoreEvent.savedHs).getLast?).getD s₀.storage.hs } := by
  have hs := Indexed.of_runs hcreate hrun hguard
  constructor
  · intro start stop hle
    obtain ⟨hsorted, hmem⟩ := hs.log.range fun k => decide (start ≤ k ∧ k < stop)
    refine ⟨_, s.storage.handleGetLogEntries_eq_ok hle, hsorted, fun e => ?_⟩
    rw [hmem, decide_eq_true_iff]
  · obtain ⟨hsorted, hmem⟩ := hs.log.range fun _ => true
    refine ⟨_, hsorted, fun e => ?_, ?_⟩
    · rw [hmem]
      exact and_iff_right rfl
    · rw [MemoryStorage.handleGetInitialState_eq hs.log, hs_of_runs hrun]

theorem Store.createsAtEntry_sampleCreated :
    GuardedAlong (Step sampleCbor) CreatesAtEntry sampleNew sampleCreated := by
  refine guardedAlong_cons.2 fun s hs => ⟨trivial, guardedAlong_cons.2 fun s' _ => ⟨?_, ?_⟩⟩
  · obtain rfl := Except.ok.inj hs
    show (_ : Option StorageEntry).isSome = true
    decide +kernel
  · exact guardedAlong_of_forall (by simp [CreatesAtEntry])

theorem Store.log_answers_sample :
    ∃ entries, (sampleRun sampleCreated).storage.handleGetLogEntries 1 3 = .ok entries ∧
      entries.Pairwise (fun a b => a.index < b.index) ∧
      ∀ e, e ∈ entries ↔
        ((1 : UInt64) ≤ e.index ∧ e.index < 3) ∧ (sampleRun sampleCreated).storage.log[e.index]? = some e :=
  (log_answers sampleCbor sampleFactory (fun _ => none) sampleNew rfl sampleCreated _ (runs_sampleRun rfl)
    createsAtEntry_sampleCreated).1 1 3 (by decide)

/-! ## Snapshots after a snapshot -/

/-- What the log has once a snapshot is finished, until another one is, as long as entries are written only after its
    index. -/
theorem Store.log_afterSnapshot {cbor : Cbor (List StorageEntry)} {s₀ s : Store} {es : List StoreEvent}
    (hrun : Runs (Step cbor) s₀ es s) {before after : List LogOp} {p : UInt64} {pointer : StorageEntry}
    (hops : logOpsAlong cbor s₀ es = before ++ .compact p pointer :: after)
    (hafter : ∀ op ∈ after, op.WritesAfter p) :
    (∀ k < p, s.storage.log[k]? = none) ∧ s.storage.log[p]? = some pointer := by
  have hlog : ∀ k, s.storage.log[k]? = _ := congrFun (journal_of_runs hrun)
  rw [hops, replay_append, replay, List.foldl_cons] at hlog
  constructor
  · intro k hk
    rw [hlog]
    exact (replay_compacted hafter pointer _ k).trans (if_pos hk)
  · rw [hlog]
    refine (replay_compacted hafter pointer _ p).trans ?_
    rw [if_neg (lt_irrefl p), if_pos rfl]

/-- **A snapshot after a snapshot** does not hold what the earlier one holds. In every run of a new store in which
    snapshots are asked for at indices that the log has: once a snapshot is created or installed at `p`, and as long
    as entries are written only after `p` and no other snapshot is finished, a snapshot through `p` or a later index
    is the pointer to that one and the entries of the log after `p`. A state machine that is rebuilt from it has
    nothing before `p` and the pointer at `p`. -/
theorem Store.snapshot_afterSnapshot (cbor : Cbor (List StorageEntry)) (factory : MemoryStorageFactory)
    (files : Files) (s₀ : Store) (hcreate : factory.create files = .ok s₀) (es : List StoreEvent) (s : Store)
    (hrun : Runs (Step cbor) s₀ es s) (hguard : GuardedAlong (Step cbor) CreatesAtEntry s₀ es)
    (before after : List LogOp) (p : UInt64) (pointer : StorageEntry)
    (hops : logOpsAlong cbor s₀ es = before ++ .compact p pointer :: after)
    (hafter : ∀ op ∈ after, op.WritesAfter p) (through : UInt64) (hthrough : p ≤ through) :
    ∃ rest, s.storage.snapshotEntries through = pointer :: rest ∧
      (∀ e, e ∈ rest ↔ (p < e.index ∧ e.index ≤ through) ∧ s.storage.log[e.index]? = some e) ∧
      ∀ storage : MemoryStorage,
        let rebuilt := (storage.finishRebuild (s.storage.snapshotEntries through)).stateMachine
        (∀ k < p, rebuilt[k]? = none) ∧ rebuilt[p]? = some pointer := by
  obtain ⟨hbelow, hp⟩ := log_afterSnapshot hrun hops hafter
  have hlog := (Indexed.of_runs hcreate hrun hguard).log
  obtain ⟨hsorted, hmem⟩ := hlog.range fun k => decide (k ≤ through)
  obtain rfl := hlog p pointer hp
  have hge : ∀ e ∈ s.storage.snapshotEntries through, pointer.index ≤ e.index := by
    intro e he
    by_contra hlt
    have hentry := ((hmem e).1 he).2
    rw [hbelow e.index (lt_of_not_ge hlt)] at hentry
    cases hentry
  have hpointer : pointer ∈ s.storage.snapshotEntries through := (hmem pointer).2 ⟨decide_eq_true hthrough, hp⟩
  obtain ⟨rest, hrest⟩ := eq_cons_of_forall_le hsorted hpointer hge
  have hfirst : ∀ e ∈ rest, pointer.index < e.index := by
    rw [hrest] at hsorted
    exact (List.pairwise_cons.1 hsorted).1
  refine ⟨rest, hrest, fun e => ?_, fun storage => ⟨fun k hk => ?_, ?_⟩⟩
  · constructor
    · intro he
      obtain ⟨hle, hentry⟩ := (hmem e).1 (by rw [hrest]; exact List.mem_cons_of_mem pointer he)
      exact ⟨⟨hfirst e he, of_decide_eq_true hle⟩, hentry⟩
    · rintro ⟨⟨hlt, hle⟩, hentry⟩
      have he := (hmem e).2 ⟨decide_eq_true hle, hentry⟩
      rw [hrest] at he
      rcases List.mem_cons.1 he with rfl | he
      · exact absurd hlt (lt_irrefl _)
      · exact he
  · rw [Option.eq_none_iff_forall_ne_some]
    intro e he
    obtain ⟨hentry, rfl⟩ := (EntryMap.insertAll_eq_some hsorted).1 he
    exact absurd (hge e hentry) hk.not_ge
  · exact (EntryMap.insertAll_eq_some hsorted).2 ⟨hpointer, rfl⟩

/-- The next snapshot does not hold the first entry. -/
theorem Store.snapshot_afterSnapshot_sample : ∃ rest, (sampleRun sampleCreated).storage.snapshotEntries 2 =
    Entry.newSnapshotPointer ⟨"/data/snapshots/1"⟩ 1 1 :: rest ∧ sampleEntry 1 ∉ rest := by
  obtain ⟨rest, hrest, hmem, -⟩ := snapshot_afterSnapshot sampleCbor sampleFactory (fun _ => none) sampleNew rfl
    sampleCreated _ (runs_sampleRun rfl) createsAtEntry_sampleCreated
    [.write 1 (sampleEntry 1), .write 2 (sampleEntry 2)] [.write 3 (sampleEntry 3)] 1 _ logOpsAlong_sampleCreated
    (by simp [Op.WritesAfter]) 2 (by decide)
  exact ⟨rest, hrest, fun h => absurd ((hmem _).1 h).1.1 (by decide)⟩

end RaftScaffold
