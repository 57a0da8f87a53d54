import RaftScaffold.Config.Basic
import RaftScaffold.Http.Entities
import RaftScaffold.Node.Actor
import RaftScaffold.Storage.Chunks
import RaftScaffold.Transition.Accounts

set_option autoImplicit false

/-! # The storage of the fixtures

`MemoryStorage` (`tests/fixtures/memory_storage.rs`), the storage that the scaffold's Raft actors run on in the
tests: the log, the state machine and the hard state are in memory, snapshots are files that a `SnapshotActor`
reads and writes on a thread of its own.

The storage does not wait for the snapshot actor. While a snapshot is written it handles other messages, and it
finishes the snapshot in whatever state it has then. `Store.step` is one step of the two actors: the storage
handles a message, the snapshot actor handles the first message of its mailbox, or the storage resumes a future
that the snapshot actor has answered. What the disk does is part of the step. -/

namespace RaftScaffold

open Transition Chunks

/-! ## Data -/

structure MemoryStorageData where
  data : List UInt8
  deriving DecidableEq, Repr

structure MemoryStorageResponse where
  deriving DecidableEq, Repr

structure MemoryStorageError where
  deriving DecidableEq, Repr

/-- `actix_raft::storage::HardState`. -/
structure HardState where
  currentTerm : UInt64
  votedFor : Option NodeId
  membership : MembershipConfig
  deriving DecidableEq, Repr

/-- `actix_raft::storage::InitialState`. -/
structure InitialState where
  lastLogIndex : UInt64
  lastLogTerm : UInt64
  lastAppliedLog : UInt64
  hardState : HardState
  deriving DecidableEq, Repr

/-- `actix_raft::storage::CurrentSnapshotData`. -/
structure CurrentSnapshotData where
  term : UInt64
  index : UInt64
  membership : MembershipConfig
  pointer : EntrySnapshotPointer
  deriving DecidableEq, Repr

/-- A chunk of a snapshot that is being received; that it was written is not read back. -/
structure InstallSnapshotChunk where
  offset : UInt64
  data : List UInt8
  done : Bool
  deriving DecidableEq, Repr

/-- `actix_raft::storage::InstallSnapshot`, with what its stream will yield until it ends or fails. -/
structure InstallSnapshot where
  term : UInt64
  index : UInt64
  stream : List (Except Unit InstallSnapshotChunk)

/-- The log entries of the storage. -/
abbrev StorageEntry := Entry MemoryStorageData

/-- `Entry::new_snapshot_pointer`. -/
def Entry.newSnapshotPointer {D : Type} (pointer : EntrySnapshotPointer) (index term : UInt64) : Entry D :=
  { term, index, payload := .snapshotPointer pointer }

/-- A `BTreeMap` of entries. -/
abbrev EntryMap := Std.ExtTreeMap UInt64 StorageEntry

namespace EntryMap

/-- The entries under the keys that satisfy `p`, in the order of the keys: `range`. -/
def range (self : EntryMap) (p : UInt64 → Bool) : List StorageEntry :=
  (self.toList.filter fun entry => p entry.1).map Prod.snd

/-- `split_off`. -/
def splitOff (self : EntryMap) (k : UInt64) : EntryMap :=
  self.filter fun key _ => decide (k ≤ key)

/-- `insert` each entry under its index. -/
def insertAll (self : EntryMap) (entries : List StorageEntry) : EntryMap :=
  entries.foldl (fun map entry => map.insert entry.index entry) self

end EntryMap

/-! ## The snapshot actor -/

/-- What the disk does while the snapshot actor handles one message: whether it opens a file for writing, after how
    many bytes the writes fail, if they do, and whether it reads a file. -/
structure Disk where
  opens : Bool
  writes : Nat → Option Nat
  reads : Bool

/-- The disk does what it is asked. -/
def Disk.working : Disk := { opens := true, writes := fun _ => none, reads := true }

/-- Files by their paths. -/
abbrev Files := String → Option (List UInt8)

/-- `PathBuf::join` of the directory and the name of a snapshot. -/
def snapshotPath (dir : String) (index : UInt64) : String :=
  (if dir.isEmpty || dir.endsWith "/" then dir else dir ++ "/") ++ toString index

/-- `SnapshotActor`. -/
structure SnapshotActor where
  dir : String
  deriving DecidableEq, Repr

namespace SnapshotActor

/-- `Handler<CreateSnapshotWithData>`. -/
def handleCreateSnapshotWithData (disk : Disk) (files : Files) (path : String) (data : List UInt8) :
    Files × Except MemoryStorageError Unit :=
  if disk.opens then
    match disk.writes 0 with
    | none => (Function.update files path (some data), .ok ())
    | some n => (Function.update files path (some (data.take n)), .error {})
  else (files, .error {})

/-- `Handler<DeserializeSnapshot>`. -/
def handleDeserializeSnapshot (cbor : Cbor (List StorageEntry)) (disk : Disk) (files : Files) (path : String) :
    Except MemoryStorageError (List StorageEntry) :=
  match files path with
  | none => .error {}
  | some snapdata =>
      if disk.reads then (cbor.fromSlice snapdata).mapError fun _ => {} else .error {}

/-- The loop of `Handler<SyncInstallSnapshot>` over the chunks: what is in the file when it is left, and whether the
    final chunk was processed. A failed seek is a failed write of no bytes. -/
def writeChunks (disk : Disk) : Nat → List (Except Unit InstallSnapshotChunk) → List UInt8 → Bool →
    List UInt8 × Except MemoryStorageError Bool
  | _, [], file, didProcessFinalChunk => (file, .ok didProcessFinalChunk)
  | _, .error _ :: _, file, _ => (file, .error {})
  | i, .ok chunk :: stream, file, didProcessFinalChunk =>
      match disk.writes i with
      | none =>
          writeChunks disk (i + 1) stream (writeAt 0 file chunk.offset.toNat chunk.data)
            (didProcessFinalChunk || chunk.done)
      | some n => (writeAt 0 file chunk.offset.toNat (chunk.data.take n), .error {})

/-- `Handler<SyncInstallSnapshot>`. -/
def handleSyncInstallSnapshot (self : SnapshotActor) (disk : Disk) (files : Files) (msg : InstallSnapshot) :
    Files × Except MemoryStorageError EntrySnapshotPointer :=
  let filepath := snapshotPath self.dir msg.index
  if disk.opens then
    match writeChunks disk 0 msg.stream [] false with
    | (file, .ok true) => (Function.update files filepath (some file), .ok { path := filepath })
    | (file, _) => (Function.update files filepath (some file), .error {})
  else (files, .error {})

end SnapshotActor

/-! ## The storage -/

structure MemoryStorage where
  hs : HardState
  log : EntryMap
  snapshotData : Option CurrentSnapshotData
  snapshotDir : String
  stateMachine : EntryMap

/-- The messages of `RaftStorage`. -/
inductive StorageMsg where
  | getInitialState
  | saveHardState (hs : HardState)
  | getLogEntries (start stop : UInt64)
  | appendEntryToLog (entry : StorageEntry)
  | replicateToLog (entries : List StorageEntry)
  | applyEntryToStateMachine (payload : StorageEntry)
  | replicateToStateMachine (payload : List StorageEntry)
  | createSnapshot (through : UInt64)
  | installSnapshot (msg : InstallSnapshot)
  | getCurrentSnapshot

/-- The answers to them. -/
inductive StorageReply where
  | initialState (state : InitialState)
  | hardStateSaved
  | logEntries (entries : List StorageEntry)
  | entryAppended
  | entriesReplicated
  | entryApplied (result : Except MemoryStorageError MemoryStorageResponse)
  | entriesApplied (result : Except MemoryStorageError Unit)
  | snapshotCreated (result : Except MemoryStorageError CurrentSnapshotData)
  | snapshotInstalled (result : Except MemoryStorageError Unit)
  | currentSnapshot (snapshot : Option CurrentSnapshotData)

/-- A message in the mailbox of the snapshot actor, with what the future that waits for the answer holds. -/
inductive SnapshotTask where
  | createSnapshotWithData (path : String) (data : List UInt8) (through index term : UInt64)
  | syncInstallSnapshot (msg : InstallSnapshot)
  | deserializeSnapshot (path : String)

/-- An answer of the snapshot actor, for the future that waits for it. -/
inductive SnapshotAnswer where
  | created (path : String) (through index term : UInt64) (result : Except MemoryStorageError Unit)
  | installed (index term : UInt64) (result : Except MemoryStorageError EntrySnapshotPointer)
  | deserialized (path : String) (result : Except MemoryStorageError (List StorageEntry))
  deriving DecidableEq

/-- What comes of a message or of a resumed future: an answer, or another message for the snapshot actor. -/
inductive StorageOutcome where
  | reply (reply : StorageReply)
  | send (task : SnapshotTask)

def StorageOutcome.reply? : StorageOutcome → Option StorageReply
  | .reply r => some r
  | .send _ => none

namespace MemoryStorage

def new (members : List NodeId) (snapshotDir : String) : MemoryStorage :=
  { hs :=
      { currentTerm := 0
        votedFor := none
        membership := { members, nonVoters := [], removing := [], isInJointConsensus := false } }
    log := ∅
    snapshotData := none
    snapshotDir
    stateMachine := ∅ }

/-- `Handler<GetInitialState>`. -/
def handleGetInitialState (self : MemoryStorage) : InitialState :=
  match self.log.toList.getLast? with
  | some (lastId, lastEntry) =>
      { lastLogIndex := lastId, lastLogTerm := lastEntry.term, lastAppliedLog := lastId, hardState := self.hs }
  | none => { lastLogIndex := 0, lastLogTerm := 0, lastAppliedLog := 0, hardState := self.hs }

/-- `Handler<GetLogEntries>`. The range of a `BTreeMap` panics if it starts after its end, unless nothing was ever
    inserted into the map: it has no root to search then. Once it is written the log is never empty. -/
def handleGetLogEntries (self : MemoryStorage) (start stop : UInt64) : Except Panic (List StorageEntry) :=
  if self.log.isEmpty then .ok []
  else if stop < start then .error ⟨"range start is greater than range end in BTreeMap"⟩
  else .ok (EntryMap.range self.log fun k => decide (start ≤ k ∧ k < stop))

/-- `Handler<AppendEntryToLog>`. -/
def handleAppendEntryToLog (self : MemoryStorage) (entry : StorageEntry) : MemoryStorage :=
  { self with log := self.log.insert entry.index entry }

/-- `Handler<ReplicateToLog>`. -/
def handleReplicateToLog (self : MemoryStorage) (entries : List StorageEntry) : MemoryStorage :=
  { self with log := EntryMap.insertAll self.log entries }

/-- `Handler<ApplyEntryToStateMachine>`. -/
def handleApplyEntryToStateMachine (self : MemoryStorage) (payload : StorageEntry) :
    MemoryStorage × Except MemoryStorageError MemoryStorageResponse :=
  let old := self.stateMachine[payload.index]?
  let self := { self with stateMachine := self.stateMachine.insert payload.index payload }
  -- the old entry is already overwritten when the error is returned
  if old.isSome then (self, .error {}) else (self, .ok {})

/-- `Handler<ReplicateToStateMachine>`. -/
def handleReplicateToStateMachine (self : MemoryStorage) :
    List StorageEntry → MemoryStorage × Except MemoryStorageError Unit
  | [] => (self, .ok ())
  | e :: payload =>
      match self.handleApplyEntryToStateMachine e with
      | (self, .ok _) => self.handleReplicateToStateMachine payload
      | (self, .error err) => (self, .error err)

/-- The entries that `Handler<CreateSnapshot>` writes. -/
def snapshotEntries (self : MemoryStorage) (through : UInt64) : List StorageEntry :=
  EntryMap.range self.log fun k => decide (k ≤ through)

/-- `Handler<CreateSnapshot>`, until the snapshot actor is asked. -/
def handleCreateSnapshot (self : MemoryStorage) (cbor : Cbor (List StorageEntry)) (through : UInt64) :
    StorageOutcome :=
  let entries := self.snapshotEntries through
  let (index, term) := (entries.getLast?.map fun e => (e.index, e.term)).getD (0, 0)
  match cbor.toVec entries with
  | .error _ => .reply (.snapshotCreated (.error {}))
  | .ok snapdata => .send (.createSnapshotWithData (snapshotPath self.snapshotDir through) snapdata through index term)

/-- The rest of `Handler<CreateSnapshot>`, once the file is written. -/
def finishCreateSnapshot (self : MemoryStorage) (path : String) (through index term : UInt64) :
    MemoryStorage × CurrentSnapshotData :=
  let log := EntryMap.splitOff self.log through
  let pointer : EntrySnapshotPointer := { path }
  let entry := Entry.newSnapshotPointer pointer index term
  let currentSnapData : CurrentSnapshotData := { term, index, membership := self.hs.membership, pointer }
  ({ self with log := log.insert through entry, snapshotData := some currentSnapData }, currentSnapData)

/-- The rest of `Handler<InstallSnapshot>`, once the file is written. -/
def finishInstallSnapshot (self : MemoryStorage) (index term : UInt64) (pointer : EntrySnapshotPointer) :
    MemoryStorage × StorageOutcome :=
  let snapshotData : CurrentSnapshotData := { index, term, membership := self.hs.membership, pointer }
  let entry := Entry.newSnapshotPointer pointer index term
  let log := EntryMap.splitOff self.log index
  let previous := log[index]?
  let self := { self with log := log.insert index entry, snapshotData := some snapshotData }
  match previous with
  | some entry =>
      if entry.index = index ∧ entry.term = term then (self, .reply (.snapshotInstalled (.ok ())))
      else (self, .send (.deserializeSnapshot pointer.path))
  | none => (self, .send (.deserializeSnapshot pointer.path))

/-- The rest of `rebuild_state_machine_from_snapshot`, once the file is read. -/
def finishRebuild (self : MemoryStorage) (entries : List StorageEntry) : MemoryStorage :=
  { self with stateMachine := EntryMap.insertAll ∅ entries }

/-- A message is handled. -/
def handle (self : MemoryStorage) (cbor : Cbor (List StorageEntry)) :
    StorageMsg → Except Panic (MemoryStorage × StorageOutcome)
  | .getInitialState => .ok (self, .reply (.initialState self.handleGetInitialState))
  | .saveHardState hs => .ok ({ self with hs }, .reply .hardStateSaved)
  | .getLogEntries start stop => do
      let entries ← self.handleGetLogEntries start stop
      .ok (self, .reply (.logEntries entries))
  | .appendEntryToLog entry => .ok (self.handleAppendEntryToLog entry, .reply .entryAppended)
  | .replicateToLog entries => .ok (self.handleReplicateToLog entries, .reply .entriesReplicated)
  | .applyEntryToStateMachine payload =>
      let (self, result) := self.handleApplyEntryToStateMachine payload
      .ok (self, .reply (.entryApplied result))
  | .replicateToStateMachine payload =>
      let (self, result) := self.handleReplicateToStateMachine payload
      .ok (self, .reply (.entriesApplied result))
  | .createSnapshot through => .ok (self, self.handleCreateSnapshot cbor through)
  | .installSnapshot msg => .ok (self, .send (.syncInstallSnapshot msg))
  | .getCurrentSnapshot => .ok (self, .reply (.currentSnapshot self.snapshotData))

/-- A future is resumed with the answer of the snapshot actor. -/
def resume (self : MemoryStorage) : SnapshotAnswer → MemoryStorage × StorageOutcome
  | .created path through index term (.ok _) =>
      let (self, currentSnapData) := self.finishCreateSnapshot path through index term
      (self, .reply (.snapshotCreated (.ok currentSnapData)))
  | .created _ _ _ _ (.error err) => (self, .reply (.snapshotCreated (.error err)))
  | .installed index term (.ok pointer) => self.finishInstallSnapshot index term pointer
  | .installed _ _ (.error err) => (self, .reply (.snapshotInstalled (.error err)))
  | .deserialized _ (.ok entries) => (self.finishRebuild entries, .reply (.snapshotInstalled (.ok ())))
  | .deserialized _ (.error err) => (self, .reply (.snapshotInstalled (.error err)))

end MemoryStorage

namespace SnapshotActor

/-- A message is handled. -/
def handle (self : SnapshotActor) (cbor : Cbor (List StorageEntry)) (disk : Disk) (files : Files) :
    SnapshotTask → Files × SnapshotAnswer
  | .createSnapshotWithData path data through index term =>
      let (files, result) := handleCreateSnapshotWithData disk files path data
      (files, .created path through index term result)
  | .syncInstallSnapshot msg =>
      let (files, result) := self.handleSyncInstallSnapshot disk files msg
      (files, .installed msg.index msg.term result)
  | .deserializeSnapshot path =>
      (files, .deserialized path (handleDeserializeSnapshot cbor disk files path))

end SnapshotActor

/-! ## The two actors -/

/-- The storage with its snapshot actor: `mailbox` is what the snapshot actor has not handled yet, and `answers`
    what it has answered to futures that have not been resumed yet. Only this snapshot actor writes the `files`. -/
structure Store where
  storage : MemoryStorage
  snapshotActor : SnapshotActor
  mailbox : List SnapshotTask
  answers : List SnapshotAnswer
  files : Files

inductive StoreEvent where
  | message (msg : StorageMsg)
  | snapshotActor (disk : Disk)
  | resume (n : Nat)

namespace Store

def new (members : List NodeId) (snapshotDir : String) (files : Files) : Store :=
  { storage := MemoryStorage.new members snapshotDir
    snapshotActor := { dir := snapshotDir }
    mailbox := []
    answers := []
    files }

/-- What comes of a message that was handled or a future that was resumed. -/
def proceed (self : Store) (outcome : StorageOutcome) : Store :=
  match outcome with
  | .reply _ => self
  | .send task => { self with mailbox := self.mailbox ++ [task] }

/-- One step of the two actors. -/
def step (cbor : Cbor (List StorageEntry)) (self : Store) : StoreEvent → Except Halt Store
  | .message msg => do
      let (storage, outcome) ← orPanic (self.storage.handle cbor msg)
      .ok ({ self with storage }.proceed outcome)
  | .snapshotActor disk =>
      match self.mailbox with
      | [] => .error .notEnabled
      | task :: mailbox =>
          let (files, answer) := self.snapshotActor.handle cbor disk self.files task
          .ok { self with files, mailbox, answers := self.answers ++ [answer] }
  | .resume n =>
      match self.answers[n]? with
      | none => .error .notEnabled
      | some answer =>
          let (storage, outcome) := self.storage.resume answer
          .ok ({ self with storage, answers := self.answers.eraseIdx n }.proceed outcome)

/-- The answer that the step sends to the Raft actor, if it sends one. -/
def reply (cbor : Cbor (List StorageEntry)) (self : Store) : StoreEvent → Option StorageReply
  | .message msg =>
      match self.storage.handle cbor msg with
      | .ok (_, outcome) => outcome.reply?
      | .error _ => none
  | .snapshotActor _ => none
  | .resume n => self.answers[n]?.bind fun answer => (self.storage.resume answer).2.reply?

abbrev Step (cbor : Cbor (List StorageEntry)) : Store → StoreEvent → Store → Prop :=
  StepOf (step cbor)

end Store

/-! ## The factory -/

/-- `MemoryStorageFactory`. -/
structure MemoryStorageFactory where
  members : Option (List NodeId)
  configuration : Option Configuration

namespace MemoryStorageFactory

def new : MemoryStorageFactory := { members := none, configuration := none }

def withMembers (self : MemoryStorageFactory) (members : List NodeId) : MemoryStorageFactory :=
  { self with members := some members }

def withConfiguration (self : MemoryStorageFactory) (c : Configuration) : MemoryStorageFactory :=
  { self with configuration := some c }

def validate (self : MemoryStorageFactory) : Except Panic Unit :=
  if self.configuration.isNone then
    .error ⟨"Must set configuration for MemoryStorageFactory before create."⟩
  else if self.members.isNone then
    .error ⟨"Must set seed members (even if none) in MemoryStorageFactor before create."⟩
  else .ok ()

/-- `StorageFactory::create`; `files` are the files that there are. -/
def create (self : MemoryStorageFactory) (files : Files) : Except Panic Store := do
  self.validate
  let members ← unwrap self.members
  let c ← unwrap self.configuration
  .ok (Store.new members c.snapshotDir files)

end MemoryStorageFactory

end RaftScaffold
