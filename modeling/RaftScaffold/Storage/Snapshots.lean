import RaftScaffold.Storage.Log
import RaftScaffold.Transport.Decimal

set_option autoImplicit false

/-! # Snapshots

A snapshot is written to a file, is sent to another storage in chunks, and is read back there. Between these steps
the storage handles other messages, and other snapshots may be written to the same file. What a storage reads is
nevertheless what it was asked to write, if the disk works and what it is sent arrives (`snapshots_hold`): whatever
holds of every snapshot that it is asked for holds of every snapshot that it reads. -/

namespace RaftScaffold

open Transition Chunks

/-! ## Paths -/

theorem snapshotPath_injective (dir : String) : Function.Injective (snapshotPath dir) := by
  intro i j hij
  have hname : toString i = toString j := (String.append_right_inj _).1 hij
  have hi := Transport.parseU64_toString i
  rw [hname, Transport.parseU64_toString j] at hi
  exact (Except.ok.inj hi).symm

/-! ## A disk that works and a stream that arrives -/

/-- The disk does what it is asked. -/
structure Disk.Sound (disk : Disk) : Prop where
  opens : disk.opens = true
  writes : ∀ i, disk.writes i = none
  reads : disk.reads = true

theorem Disk.sound_working : Disk.working.Sound where
  opens := rfl
  writes _ := rfl
  reads := rfl

/-- The stream brings the text: its chunks, in whatever order, are fragments that cover it, and one of them is said
    to be the final one. -/
def InstallSnapshot.Brings (msg : InstallSnapshot) (text : List UInt8) : Prop :=
  ∃ chunks : List InstallSnapshotChunk, msg.stream = chunks.map .ok ∧ (∃ chunk ∈ chunks, chunk.done = true) ∧
    (∀ chunk ∈ chunks, IsFragment text chunk.offset.toNat chunk.data) ∧
    ∀ i < text.length, Covers (chunks.map fun chunk => (chunk.offset.toNat, chunk.data)) i

namespace SnapshotActor

theorem writeChunks_of_sound {disk : Disk} (hdisk : disk.Sound) (i : Nat) (chunks : List InstallSnapshotChunk)
    (file : List UInt8) (final : Bool) :
    writeChunks disk i (chunks.map .ok) file final =
      (assemble 0 file (chunks.map fun chunk => (chunk.offset.toNat, chunk.data)),
        .ok (final || chunks.any InstallSnapshotChunk.done)) := by
  induction chunks generalizing i file final with
  | nil => simp [writeChunks, assemble]
  | cons chunk chunks ih =>
      simp only [List.map_cons, writeChunks, hdisk.writes i]
      rw [ih, List.any_cons, Bool.or_assoc]
      rfl

/-- What arrives is in the file. -/
theorem handleSyncInstallSnapshot_of_brings {actor : SnapshotActor} {disk : Disk} (hdisk : disk.Sound)
    {msg : InstallSnapshot} {text : List UInt8} (hbrings : msg.Brings text) (files : Files) :
    actor.handleSyncInstallSnapshot disk files msg =
      (Function.update files (snapshotPath actor.dir msg.index) (some text),
        .ok { path := snapshotPath actor.dir msg.index }) := by
  obtain ⟨chunks, hstream, ⟨final, hfinal, hdone⟩, hfragments, hcovers⟩ := hbrings
  have htext : assemble 0 [] (chunks.map fun chunk => (chunk.offset.toNat, chunk.data)) = text := by
    refine assemble_eq (fun piece hpiece => ?_) hcovers
    obtain ⟨chunk, hmem, rfl⟩ := List.mem_map.1 hpiece
    exact hfragments chunk hmem
  have hany : chunks.any InstallSnapshotChunk.done = true := List.any_eq_true.2 ⟨final, hfinal, hdone⟩
  simp only [handleSyncInstallSnapshot, hdisk.opens, hstream, writeChunks_of_sound hdisk, htext, hany,
    Bool.false_or, if_true]

end SnapshotActor

/-! ## Snapshots that hold -/

section Holds

variable {cbor : Cbor (List StorageEntry)} {P : UInt64 → List StorageEntry → Prop} {dir : String}

/-- There is a file of the snapshot through `i`, and what it decodes to satisfies `P`. -/
def Files.Holds (files : Files) (cbor : Cbor (List StorageEntry)) (P : UInt64 → List StorageEntry → Prop)
    (dir : String) (i : UInt64) : Prop :=
  ∃ text entries, files (snapshotPath dir i) = some text ∧ cbor.fromSlice text = .ok entries ∧ P i entries

/-- Writing the file of a snapshot that satisfies `P` leaves no file that does not. -/
theorem Files.holds_update {files : Files} {text : List UInt8} {entries : List StorageEntry} {i j : UInt64}
    (htext : cbor.fromSlice text = .ok entries) (hP : P j entries) (hi : i = j ∨ files.Holds cbor P dir i) :
    Files.Holds (Function.update files (snapshotPath dir j) (some text)) cbor P dir i := by
  by_cases hij : i = j
  · rw [hij]
    exact ⟨text, entries, Function.update_self .., htext, hP⟩
  · obtain ⟨text', entries', hfile, htext', hP'⟩ := hi.resolve_left hij
    have hpath : snapshotPath dir i ≠ snapshotPath dir j := (snapshotPath_injective dir).ne hij
    exact ⟨text', entries', by rwa [Function.update_of_ne hpath], htext', hP'⟩

/-- What the snapshot actor will write satisfies `P`, and so does what it will read. -/
def SnapshotTask.Intact (cbor : Cbor (List StorageEntry)) (P : UInt64 → List StorageEntry → Prop) (dir : String)
    (files : Files) : SnapshotTask → Prop
  | .createSnapshotWithData path data through _ _ =>
      path = snapshotPath dir through ∧ ∃ entries, cbor.fromSlice data = .ok entries ∧ P through entries
  | .syncInstallSnapshot msg =>
      ∃ text entries, msg.Brings text ∧ cbor.fromSlice text = .ok entries ∧ P msg.index entries
  | .deserializeSnapshot path => ∃ i, path = snapshotPath dir i ∧ files.Holds cbor P dir i

/-- The snapshot actor has done what it was asked. -/
def SnapshotAnswer.Intact (cbor : Cbor (List StorageEntry)) (P : UInt64 → List StorageEntry → Prop) (dir : String)
    (files : Files) : SnapshotAnswer → Prop
  | .created path through _ _ result =>
      path = snapshotPath dir through ∧ result = .ok () ∧ files.Holds cbor P dir through
  | .installed index _ result => result = .ok { path := snapshotPath dir index } ∧ files.Holds cbor P dir index
  | .deserialized path result => ∃ i entries, path = snapshotPath dir i ∧ result = .ok entries ∧ P i entries

theorem SnapshotTask.Intact.mono {files files' : Files}
    (hfiles : ∀ i, files.Holds cbor P dir i → files'.Holds cbor P dir i) {task : SnapshotTask}
    (htask : task.Intact cbor P dir files) : task.Intact cbor P dir files' := by
  cases task with
  | deserializeSnapshot path =>
      obtain ⟨i, hpath, hholds⟩ := htask
      exact ⟨i, hpath, hfiles i hholds⟩
  | _ => exact htask

theorem SnapshotAnswer.Intact.mono {files files' : Files}
    (hfiles : ∀ i, files.Holds cbor P dir i → files'.Holds cbor P dir i) {answer : SnapshotAnswer}
    (hanswer : answer.Intact cbor P dir files) : answer.Intact cbor P dir files' := by
  cases answer with
  | created path through index term result => exact ⟨hanswer.1, hanswer.2.1, hfiles _ hanswer.2.2⟩
  | installed index term result => exact ⟨hanswer.1, hfiles _ hanswer.2⟩
  | deserialized path result => exact hanswer

/-- **The snapshot actor** keeps the files and does what it is asked. -/
theorem SnapshotActor.handle_intact {actor : SnapshotActor} {disk : Disk} (hdisk : disk.Sound) {files : Files}
    {task : SnapshotTask} (htask : task.Intact cbor P actor.dir files) :
    (∀ i, files.Holds cbor P actor.dir i → (actor.handle cbor disk files task).1.Holds cbor P actor.dir i) ∧
      (actor.handle cbor disk files task).2.Intact cbor P actor.dir (actor.handle cbor disk files task).1 := by
  cases task with
  | createSnapshotWithData path data through index term =>
      obtain ⟨rfl, entries, hdata, hP⟩ := htask
      simp only [handle, handleCreateSnapshotWithData, hdisk.opens, hdisk.writes, if_true]
      exact ⟨fun i hi => Files.holds_update hdata hP (.inr hi), rfl, rfl, Files.holds_update hdata hP (.inl rfl)⟩
  | syncInstallSnapshot msg =>
      obtain ⟨text, entries, hbrings, htext, hP⟩ := htask
      simp only [handle, handleSyncInstallSnapshot_of_brings hdisk hbrings]
      exact ⟨fun i hi => Files.holds_update htext hP (.inr hi), rfl, Files.holds_update htext hP (.inl rfl)⟩
  | deserializeSnapshot path =>
      obtain ⟨i, rfl, text, entries, hfile, htext, hP⟩ := htask
      refine ⟨fun _ hi => hi, i, entries, rfl, ?_, hP⟩
      simp only [handleDeserializeSnapshot, hfile, hdisk.reads, if_true, htext]
      rfl

/-- The reply says that a snapshot request failed. -/
def StorageReply.SnapshotFailed : StorageReply → Prop
  | .snapshotCreated (.error _) => True
  | .snapshotInstalled (.error _) => True
  | _ => False

/-- A message is not answered with a failed snapshot if its entries can be written. -/
theorem MemoryStorage.handle_reply {self self' : MemoryStorage} (hcbor : cbor.Lawful) {msg : StorageMsg}
    {outcome : StorageOutcome} (hhandle : self.handle cbor msg = .ok (self', outcome)) {reply : StorageReply}
    (hreply : outcome.reply? = some reply) : ¬ reply.SnapshotFailed := by
  have hkind := (StorageOutcome.reply?_kind hreply).trans (handle_kind hhandle)
  intro hfailed
  cases reply with
  | snapshotCreated result =>
      cases msg with
      | createSnapshot through =>
          obtain ⟨snapdata, hdata, -⟩ := hcbor (self.snapshotEntries through)
          obtain ⟨-, rfl⟩ := Prod.mk.inj (Except.ok.inj hhandle)
          simp only [handleCreateSnapshot, hdata] at hreply
          cases hreply
      | _ => cases hkind
  | snapshotInstalled result =>
      cases msg with
      | installSnapshot m =>
          obtain ⟨-, rfl⟩ := Prod.mk.inj (Except.ok.inj hhandle)
          cases hreply
      | _ => cases hkind
  | _ => exact hfailed

/-- An intact answer is not passed on as a failure. -/
theorem MemoryStorage.Resumed.reply_intact {self self' : MemoryStorage} {files : Files} {answer : SnapshotAnswer}
    {outcome : StorageOutcome} (hresumed : self.Resumed answer self' outcome)
    (hanswer : answer.Intact cbor P dir files) {reply : StorageReply} (hreply : outcome.reply? = some reply) :
    ¬ reply.SnapshotFailed := by
  cases hresumed with
  | createFailed => cases hanswer.2.1
  | created d hpointer => exact Option.some.inj hreply ▸ id
  | installFailed => cases hanswer.1
  | installed d hpointer houtcome =>
      obtain rfl | rfl := houtcome
      · exact Option.some.inj hreply ▸ id
      · cases hreply
  | rebuildFailed =>
      obtain ⟨i, entries, -, herror, -⟩ := hanswer
      cases herror
  | rebuilt => exact Option.some.inj hreply ▸ id

namespace Store

/-- Every snapshot on its way satisfies `P`, and so does the current one. -/
structure Intact (cbor : Cbor (List StorageEntry)) (P : UInt64 → List StorageEntry → Prop) (s : Store) : Prop where
  dir : s.storage.snapshotDir = s.snapshotActor.dir
  mailbox : ∀ task ∈ s.mailbox, task.Intact cbor P s.snapshotActor.dir s.files
  answers : ∀ answer ∈ s.answers, answer.Intact cbor P s.snapshotActor.dir s.files
  snapshotData : ∀ d, s.storage.snapshotData = some d →
    ∃ i, d.pointer.path = snapshotPath s.snapshotActor.dir i ∧ s.files.Holds cbor P s.snapshotActor.dir i

/-- The disk works, a snapshot that is to be created satisfies `P`, and one that is to be installed arrives and
    satisfies `P`. -/
def Sound (cbor : Cbor (List StorageEntry)) (P : UInt64 → List StorageEntry → Prop) (s : Store) : StoreEvent → Prop
  | .message (.createSnapshot through) => P through (s.storage.snapshotEntries through)
  | .message (.installSnapshot msg) =>
      ∃ text entries, msg.Brings text ∧ cbor.fromSlice text = .ok entries ∧ P msg.index entries
  | .snapshotActor disk => disk.Sound
  | _ => True

variable {s s' : Store} {e : StoreEvent}

theorem Intact.new (members : List NodeId) (snapshotDir : String) (files : Files) :
    (Store.new members snapshotDir files).Intact cbor P where
  dir := rfl
  mailbox := nofun
  answers := nofun
  snapshotData := nofun

theorem Intact.step (hcbor : cbor.Lawful) (hs : s.Intact cbor P) (hsound : s.Sound cbor P e)
    (hstep : s.step cbor e = .ok s') : s'.Intact cbor P := by
  have heff := step_cases hstep
  cases e with
  | message msg =>
      obtain ⟨storage, outcome, hhandle, rfl⟩ := heff
      have hhandled := MemoryStorage.handle_handled hhandle
      refine ⟨?_, fun task htask => ?_, ?_, ?_⟩
      · rw [proceed_storage, proceed_snapshotActor, hhandled.snapshotDir]
        exact hs.dir
      · rw [proceed_snapshotActor, proceed_files]
        rcases mem_proceed_mailbox.1 htask with hmem | rfl
        · exact hs.mailbox task hmem
        · obtain ⟨rfl, ⟨through, snapdata, index, term, rfl, hdata, -, rfl⟩ | ⟨m, rfl, rfl⟩⟩ :=
            MemoryStorage.handle_sends hhandle
          · obtain ⟨snapdata', hdata', hdecode⟩ := hcbor (s.storage.snapshotEntries through)
            obtain rfl := Except.ok.inj (hdata.symm.trans hdata')
            exact ⟨by rw [hs.dir], _, hdecode, hsound⟩
          · exact hsound
      · rw [proceed_answers, proceed_snapshotActor, proceed_files]
        exact hs.answers
      · rw [proceed_storage, proceed_snapshotActor, proceed_files, hhandled.snapshotData]
        exact hs.snapshotData
  | snapshotActor disk =>
      obtain ⟨task, mailbox, hmailbox, rfl⟩ := heff
      rw [Store.Sound] at hsound
      have hall := hs.mailbox
      rw [hmailbox, List.forall_mem_cons] at hall
      obtain ⟨hfiles, hanswer⟩ := SnapshotActor.handle_intact hsound hall.1
      refine ⟨hs.dir, fun task' hmem => (hall.2 task' hmem).mono hfiles, fun answer hmem => ?_, fun d hd => ?_⟩
      · rcases List.mem_append.1 hmem with hmem | hmem
        · exact (hs.answers answer hmem).mono hfiles
        · rw [List.mem_singleton.1 hmem]
          exact hanswer
      · obtain ⟨i, hpath, hholds⟩ := hs.snapshotData d hd
        exact ⟨i, hpath, hfiles i hholds⟩
  | resume n =>
      obtain ⟨answer, storage, outcome, hanswer, hresume, rfl⟩ := heff
      have hintact := hs.answers answer (List.mem_of_getElem? hanswer)
      have hresumed := MemoryStorage.resume_cases hresume
      refine ⟨?_, fun task htask => ?_, ?_, fun d hd => ?_⟩
      · rw [proceed_storage, proceed_snapshotActor, hresumed.frame.2]
        exact hs.dir
      · rw [proceed_snapshotActor, proceed_files]
        rcases mem_proceed_mailbox.1 htask with hmem | rfl
        · exact hs.mailbox task hmem
        · obtain ⟨index, term, pointer, rfl, rfl⟩ := hresumed.sends
          obtain ⟨hok, hholds⟩ := hintact
          rw [Except.ok.inj hok]
          exact ⟨index, rfl, hholds⟩
      · rw [proceed_answers, proceed_snapshotActor, proceed_files]
        exact fun a ha => hs.answers a (List.mem_of_mem_eraseIdx ha)
      · rw [proceed_storage] at hd
        rw [proceed_snapshotActor, proceed_files]
        rcases hresumed.snapshotData hd with
          hold | ⟨path, through, index, term, rfl, hpointer⟩ | ⟨index, term, pointer, rfl, hpointer⟩
        · exact hs.snapshotData d hold
        · obtain ⟨rfl, -, hholds⟩ := hintact
          exact ⟨through, by rw [hpointer], hholds⟩
        · obtain ⟨hok, hholds⟩ := hintact
          exact ⟨index, by rw [hpointer, Except.ok.inj hok], hholds⟩

/-- No step of an intact store reports that a snapshot failed. -/
theorem Intact.reply (hcbor : cbor.Lawful) (hs : s.Intact cbor P) {r : StorageReply}
    (hreply : s.reply cbor e = some r) : ¬ r.SnapshotFailed := by
  cases e with
  | message msg =>
      simp only [Store.reply] at hreply
      split at hreply
      · next storage outcome hhandle => exact MemoryStorage.handle_reply hcbor hhandle hreply
      · cases hreply
  | snapshotActor disk => cases hreply
  | resume n =>
      obtain ⟨answer, hanswer, hresume⟩ := Option.bind_eq_some_iff.1 hreply
      exact (MemoryStorage.resume_cases rfl).reply_intact (hs.answers answer (List.mem_of_getElem? hanswer)) hresume

/-- A future that rebuilds the state machine rebuilds it from a snapshot that satisfies `P`. -/
def RebuildsFrom (P : UInt64 → List StorageEntry → Prop) (s : Store) : StoreEvent → Prop
  | .resume n => ∀ path result, s.answers[n]? = some (.deserialized path result) → ∃ i entries,
      path = snapshotPath s.snapshotActor.dir i ∧ result = .ok entries ∧ P i entries ∧
        (s.storage.resume (.deserialized path result)).1.stateMachine = EntryMap.insertAll ∅ entries
  | _ => True

theorem Intact.rebuildsFrom (hs : s.Intact cbor P) (e : StoreEvent) : s.RebuildsFrom P e := by
  cases e with
  | resume n =>
      intro path result hanswer
      obtain ⟨i, entries, hpath, rfl, hP⟩ := hs.answers _ (List.mem_of_getElem? hanswer)
      exact ⟨i, entries, hpath, rfl, hP, rfl⟩
  | _ => trivial

end Store

end Holds

/-- **A snapshot that is read is one that was written.** Let `P` be any property of an index and entries. In every run
    of a new store in which the disk works, every snapshot that is created satisfies `P` when it is asked for, and
    every snapshot that is installed arrives and satisfies `P`, in whatever order the two actors take their steps and
    however often a snapshot is written again: no snapshot request fails, the state machine is only rebuilt from
    snapshots that satisfy `P`, and the current snapshot has a file that decodes to entries that satisfy `P`. -/
theorem Store.snapshots_hold (cbor : Cbor (List StorageEntry)) (hcbor : cbor.Lawful)
    (P : UInt64 → List StorageEntry → Prop) (factory : MemoryStorageFactory) (files : Files) (s₀ : Store)
    (hcreate : factory.create files = .ok s₀) (es : List StoreEvent) (s : Store) (hrun : Runs (Step cbor) s₀ es s)
    (hsound : GuardedAlong (Step cbor) (Sound cbor P) s₀ es) :
    GuardedAlong (Step cbor) (fun s e => ∀ reply, s.reply cbor e = some reply → ¬ reply.SnapshotFailed) s₀ es ∧
      GuardedAlong (Step cbor) (RebuildsFrom P) s₀ es ∧
      ∀ d, s.storage.snapshotData = some d → ∃ i text entries, d.pointer.path = snapshotPath s.snapshotActor.dir i ∧
        s.files d.pointer.path = some text ∧ cbor.fromSlice text = .ok entries ∧ P i entries := by
  obtain ⟨members, c, -, -, rfl⟩ := MemoryStorageFactory.create_eq_ok hcreate
  have hkeep : ∀ (s : Store) e s', s.Intact cbor P → s.Sound cbor P e → Step cbor s e s' → s'.Intact cbor P :=
    fun _ _ _ hs hsound hstep => hs.step hcbor hsound hstep
  have hnew : (Store.new members c.snapshotDir files).Intact cbor P := .new _ _ _
  refine ⟨?_, ?_, fun d hd => ?_⟩
  · exact hsound.imp_of_invariant hkeep (fun s e hs _ reply hreply => hs.reply hcbor hreply) hnew
  · exact hsound.imp_of_invariant hkeep (fun s e hs _ => hs.rebuildsFrom e) hnew
  · obtain ⟨i, hpath, text, entries, hfile, htext, hP⟩ :=
      (hrun.invariant_of_guarded hkeep hsound hnew).snapshotData d hd
    exact ⟨i, text, entries, hpath, by rwa [hpath], htext, hP⟩

namespace Store

/-- The first sample entry arrives in two chunks, the second one first. -/
def sampleInstallSnapshot : InstallSnapshot :=
  { term := 1
    index := 1
    stream :=
      [.ok { offset := 10, data := sampleText.drop 10, done := true },
        .ok { offset := 0, data := sampleText.take 10, done := false }] }

/-- It is installed, and the state machine is rebuilt from it. -/
def sampleInstalled : List StoreEvent :=
  [.message (.installSnapshot sampleInstallSnapshot), .snapshotActor .working, .resume 0, .snapshotActor .working,
    .resume 0]

theorem sampleInstallSnapshot_brings : sampleInstallSnapshot.Brings sampleText :=
  ⟨[{ offset := 10, data := sampleText.drop 10, done := true },
      { offset := 0, data := sampleText.take 10, done := false }],
    rfl, by decide, by decide, by decide⟩

/-- The only snapshot is the first sample entry. -/
theorem sound_sampleInstalled : GuardedAlong (Step sampleCbor)
    (Sound sampleCbor fun _ entries => entries = [sampleEntry 1]) sampleNew sampleInstalled := by
  refine guardedAlong_of_forall fun e he s => ?_
  simp only [sampleInstalled, List.mem_cons, List.not_mem_nil, or_false] at he
  rcases he with rfl | rfl | rfl | rfl | rfl
  · exact ⟨sampleText, _, sampleInstallSnapshot_brings, rfl, rfl⟩
  · exact Disk.sound_working
  · trivial
  · exact Disk.sound_working
  · trivial

theorem snapshots_hold_sample : ∃ text, (sampleRun sampleInstalled).files "/data/snapshots/1" = some text ∧
    sampleCbor.fromSlice text = .ok [sampleEntry 1] := by
  obtain ⟨-, -, hcurrent⟩ := snapshots_hold sampleCbor sampleCbor_lawful (fun _ entries => entries = [sampleEntry 1])
    sampleFactory (fun _ => none) sampleNew rfl sampleInstalled _ (runs_sampleRun rfl) sound_sampleInstalled
  have hdata : (sampleRun sampleInstalled).storage.snapshotData =
      some
        { term := 1
          index := 1
          membership := sampleNew.storage.hs.membership
          pointer := ⟨"/data/snapshots/1"⟩ } := by decide +kernel
  obtain ⟨i, text, entries, -, hfile, htext, rfl⟩ := hcurrent _ hdata
  exact ⟨text, hfile, htext⟩

end Store

end RaftScaffold
