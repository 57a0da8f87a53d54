import RaftScaffold.RaftProtocol
import RaftScaffold.Errors
import RaftScaffold.Transport.Transcode

set_option autoImplicit false

/-! # The HTTP entities and their conversions

`ports/http/entities.rs`: the structures that travel as JSON, with the conversions from and to the
messages of `actix_raft` and the infos of this crate. Application data travels as CBOR; the CBOR library is a
parameter (`Cbor`). A conversion that meets an absent optional part, or data that is not CBOR, panics. -/

namespace RaftScaffold

open Transport

/-- `serde_cbor` for the application data `D`: `to_vec` and `from_slice`. -/
structure Cbor (D : Type) where
  toVec : D → Except String (List UInt8)
  fromSlice : List UInt8 → Except String D

/-- What the code relies on of CBOR: every value has an encoding that decodes to it. -/
def Cbor.Lawful {D : Type} (cbor : Cbor D) : Prop := RoundTrips cbor.toVec cbor.fromSlice

/-- CBOR of a truth value. -/
def boolCbor : Cbor Bool where
  toVec b := .ok [if b then 0xF5 else 0xF4]
  fromSlice bytes :=
    if bytes = [0xF4] then .ok false else if bytes = [0xF5] then .ok true else .error "invalid type"

theorem boolCbor_lawful : boolCbor.Lawful := fun b => ⟨_, rfl, by cases b <;> rfl⟩

namespace Entities

/-! ## The entities -/

structure NodeId where
  id : UInt64
  deriving DecidableEq, Repr

structure NodeInfo where
  name : String
  clusterAddress : String
  appAddress : String
  publicAddress : String
  deriving DecidableEq, Repr

structure NodeInfoMessage where
  nodeId : Option NodeId
  nodeInfo : Option NodeInfo
  deriving DecidableEq, Repr

structure Any where
  value : List UInt8
  deriving DecidableEq, Repr

structure Normal where
  data : Option Any
  deriving DecidableEq, Repr

structure EntryNormal where
  entry : Option Normal
  deriving DecidableEq, Repr

structure MembershipConfig where
  isInJointConsensus : Bool
  members : List NodeId
  nonVoters : List NodeId
  removing : List NodeId
  deriving DecidableEq, Repr

structure SnapshotPath where
  path : String
  deriving DecidableEq, Repr

inductive Payload where
  | normal (entry : EntryNormal)
  | configChange (change : MembershipConfig)
  | snapshotPointer (pointer : SnapshotPath)
  | blank
  deriving DecidableEq, Repr

structure Entry where
  term : UInt64
  index : UInt64
  payload : Option Payload
  deriving DecidableEq, Repr

structure ConflictOpt where
  term : UInt64
  index : UInt64
  deriving DecidableEq, Repr

/-- `raft_append_entries_response::Conflict`. -/
inductive Conflict where
  | conflictOpt (conflict : ConflictOpt)
  deriving DecidableEq, Repr

structure RaftAppendEntriesRequest where
  target : UInt64
  term : UInt64
  leaderId : UInt64
  prevLogIndex : UInt64
  prevLogTerm : UInt64
  entries : List Entry
  leaderCommit : UInt64
  deriving DecidableEq, Repr

structure RaftAppendEntriesResponse where
  term : UInt64
  success : Bool
  conflict : Option Conflict
  deriving DecidableEq, Repr

structure RaftInstallSnapshotRequest where
  target : UInt64
  term : UInt64
  leaderId : UInt64
  lastIncludedIndex : UInt64
  lastIncludedTerm : UInt64
  offset : UInt64
  data : List UInt8
  done : Bool
  deriving DecidableEq, Repr

structure RaftInstallSnapshotResponse where
  term : UInt64
  deriving DecidableEq, Repr

structure RaftVoteRequest where
  target : UInt64
  term : UInt64
  candidateId : UInt64
  lastLogIndex : UInt64
  lastLogTerm : UInt64
  deriving DecidableEq, Repr

structure RaftVoteResponse where
  term : UInt64
  voteGranted : Bool
  isCandidateUnknown : Bool
  deriving DecidableEq, Repr

structure Failure where
  description : String
  deriving DecidableEq, Repr

structure CommandRejectedNotLeader where
  leaderId : Option NodeId
  deriving DecidableEq, Repr

inductive ResponseResult where
  | acknowledged
  | connectionAcknowledged (nodeId : Option NodeId)
  deriving DecidableEq, Repr

/-- `raft_protocol_command_response::Response`. -/
inductive CommandResponse where
  | result (result : ResponseResult)
  | failure (failure : Failure)
  | commandRejectedNotLeader (rejection : CommandRejectedNotLeader)
  deriving DecidableEq, Repr

structure RaftProtocolResponse where
  response : Option CommandResponse
  deriving DecidableEq, Repr

/-! ## Conversions -/

def NodeId.ofRaft (nodeId : RaftScaffold.NodeId) : NodeId := { id := nodeId }

def NodeId.toRaft (nodeId : NodeId) : RaftScaffold.NodeId := nodeId.id

def NodeId.vecToRaft (ids : List NodeId) : List RaftScaffold.NodeId := ids.map NodeId.toRaft

def NodeId.vecFromRaft (ids : List RaftScaffold.NodeId) : List NodeId := ids.map NodeId.ofRaft

def NodeInfo.ofInfo (info : RaftScaffold.NodeInfo) : NodeInfo :=
  { name := info.name
    clusterAddress := info.clusterAddress
    appAddress := info.appAddress
    publicAddress := info.publicAddress }

def NodeInfo.toInfo (info : NodeInfo) : RaftScaffold.NodeInfo :=
  { name := info.name
    clusterAddress := info.clusterAddress
    appAddress := info.appAddress
    publicAddress := info.publicAddress }

def MembershipConfig.ofRaft (that : RaftScaffold.MembershipConfig) : MembershipConfig :=
  { isInJointConsensus := that.isInJointConsensus
    members := NodeId.vecFromRaft that.members
    nonVoters := NodeId.vecFromRaft that.nonVoters
    removing := NodeId.vecFromRaft that.removing }

def MembershipConfig.toRaft (self : MembershipConfig) : RaftScaffold.MembershipConfig :=
  { isInJointConsensus := self.isInJointConsensus
    members := NodeId.vecToRaft self.members
    nonVoters := NodeId.vecToRaft self.nonVoters
    removing := NodeId.vecToRaft self.removing }

def SnapshotPath.ofRaft (that : EntrySnapshotPointer) : SnapshotPath := { path := that.path }

def SnapshotPath.toRaft (self : SnapshotPath) : EntrySnapshotPointer := { path := self.path }

section Data

variable {D : Type} (cbor : Cbor D)

def EntryNormal.ofRaft (that : RaftScaffold.EntryNormal D) : Except Panic EntryNormal :=
  match cbor.toVec that.data with
  | .error err => .error ⟨"Failed to serialize data entry: " ++ err⟩
  | .ok bytes => .ok { entry := some { data := some { value := bytes } } }

def EntryNormal.toRaft (self : EntryNormal) : Except Panic (RaftScaffold.EntryNormal D) := do
  let entry ← unwrap self.entry
  let data ← unwrap entry.data
  match cbor.fromSlice data.value with
  | .ok data => .ok { data }
  | .error err => .error ⟨"failed to deserialize normal data payload: " ++ err⟩

def Payload.ofRaft (that : EntryPayload D) : Except Panic Payload :=
  match that with
  | .blank => .ok .blank
  | .normal entry => (EntryNormal.ofRaft cbor entry).map .normal
  | .configChange change => .ok (.configChange (MembershipConfig.ofRaft change.membership))
  | .snapshotPointer pointer => .ok (.snapshotPointer (SnapshotPath.ofRaft pointer))

def Payload.toRaft (self : Payload) : Except Panic (EntryPayload D) :=
  match self with
  | .blank => .ok .blank
  | .normal entry => (EntryNormal.toRaft cbor entry).map .normal
  | .configChange change => .ok (.configChange { membership := change.toRaft })
  | .snapshotPointer pointer => .ok (.snapshotPointer pointer.toRaft)

def Entry.ofRaft (that : RaftScaffold.Entry D) : Except Panic Entry := do
  let payload ← Payload.ofRaft cbor that.payload
  .ok { term := that.term, index := that.index, payload := some payload }

def Entry.toRaft (self : Entry) : Except Panic (RaftScaffold.Entry D) := do
  let payload ← match self.payload with
    | some p => Payload.toRaft cbor p
    | none => .error ⟨"payload populated"⟩
  .ok { term := self.term, index := self.index, payload }

def RaftAppendEntriesRequest.ofRaft (that : AppendEntriesRequest D) :
    Except Panic RaftAppendEntriesRequest := do
  let entries ← that.entries.mapM (Entry.ofRaft cbor)
  .ok
    { target := that.target
      term := that.term
      leaderId := that.leaderId
      prevLogIndex := that.prevLogIndex
      prevLogTerm := that.prevLogTerm
      leaderCommit := that.leaderCommit
      entries }

def RaftAppendEntriesRequest.toRaft (self : RaftAppendEntriesRequest) :
    Except Panic (AppendEntriesRequest D) := do
  let entries ← self.entries.mapM (Entry.toRaft cbor)
  .ok
    { target := self.target
      term := self.term
      leaderId := self.leaderId
      prevLogIndex := self.prevLogIndex
      prevLogTerm := self.prevLogTerm
      leaderCommit := self.leaderCommit
      entries }

end Data

def ConflictOpt.ofRaft (that : RaftScaffold.ConflictOpt) : ConflictOpt :=
  { term := that.term, index := that.index }

def ConflictOpt.toRaft (self : ConflictOpt) : RaftScaffold.ConflictOpt :=
  { term := self.term, index := self.index }

def Conflict.ofRaft (that : RaftScaffold.ConflictOpt) : Conflict :=
  .conflictOpt (ConflictOpt.ofRaft that)

def Conflict.toRaft : Conflict → RaftScaffold.ConflictOpt
  | .conflictOpt c => c.toRaft

def RaftAppendEntriesResponse.ofRaft (that : AppendEntriesResponse) : RaftAppendEntriesResponse :=
  { term := that.term
    success := that.success
    conflict := that.conflictOpt.map Conflict.ofRaft }

def RaftAppendEntriesResponse.toRaft (self : RaftAppendEntriesResponse) : AppendEntriesResponse :=
  { term := self.term
    success := self.success
    conflictOpt := self.conflict.map Conflict.toRaft }

def RaftInstallSnapshotRequest.ofRaft (that : InstallSnapshotRequest) : RaftInstallSnapshotRequest :=
  { target := that.target
    term := that.term
    leaderId := that.leaderId
    lastIncludedIndex := that.lastIncludedIndex
    lastIncludedTerm := that.lastIncludedTerm
    offset := that.offset
    data := that.data
    done := that.done }

def RaftInstallSnapshotRequest.toRaft (self : RaftInstallSnapshotRequest) : InstallSnapshotRequest :=
  { target := self.target
    term := self.term
    leaderId := self.leaderId
    lastIncludedIndex := self.lastIncludedIndex
    lastIncludedTerm := self.lastIncludedTerm
    offset := self.offset
    data := self.data
    done := self.done }

def RaftInstallSnapshotResponse.ofRaft (that : InstallSnapshotResponse) :
    RaftInstallSnapshotResponse := { term := that.term }

def RaftInstallSnapshotResponse.toRaft (self : RaftInstallSnapshotResponse) :
    InstallSnapshotResponse := { term := self.term }

def RaftVoteRequest.ofRaft (that : VoteRequest) : RaftVoteRequest :=
  { target := that.target
    term := that.term
    candidateId := that.candidateId
    lastLogIndex := that.lastLogIndex
    lastLogTerm := that.lastLogTerm }

def RaftVoteRequest.toRaft (self : RaftVoteRequest) : VoteRequest :=
  VoteRequest.new self.target self.term self.candidateId self.lastLogIndex self.lastLogTerm

def RaftVoteResponse.ofRaft (that : VoteResponse) : RaftVoteResponse :=
  { term := that.term
    voteGranted := that.voteGranted
    isCandidateUnknown := that.isCandidateUnknown }

def RaftVoteResponse.toRaft (self : RaftVoteResponse) : VoteResponse :=
  { term := self.term
    voteGranted := self.voteGranted
    isCandidateUnknown := self.isCandidateUnknown }

/-! ## Round trips -/

@[simp] theorem NodeId.toRaft_ofRaft (id : RaftScaffold.NodeId) : (NodeId.ofRaft id).toRaft = id := rfl

theorem NodeId.vecToRaft_vecFromRaft (ids : List RaftScaffold.NodeId) :
    NodeId.vecToRaft (NodeId.vecFromRaft ids) = ids := by
  simp only [NodeId.vecToRaft, NodeId.vecFromRaft, List.map_map, Function.comp_def,
    NodeId.toRaft_ofRaft, List.map_id']

@[simp] theorem MembershipConfig.toRaft_ofRaft (that : RaftScaffold.MembershipConfig) :
    (MembershipConfig.ofRaft that).toRaft = that := by
  simp only [MembershipConfig.toRaft, MembershipConfig.ofRaft, NodeId.vecToRaft_vecFromRaft]

@[simp] theorem RaftAppendEntriesResponse.toRaft_ofRaft (that : AppendEntriesResponse) :
    (RaftAppendEntriesResponse.ofRaft that).toRaft = that := by
  have hconflict : ∀ c, (Conflict.ofRaft c).toRaft = c := fun _ => rfl
  simp only [RaftAppendEntriesResponse.toRaft, RaftAppendEntriesResponse.ofRaft, Option.map_map,
    Function.comp_def, hconflict, Option.map_id']

@[simp] theorem RaftInstallSnapshotRequest.toRaft_ofRaft (that : InstallSnapshotRequest) :
    (RaftInstallSnapshotRequest.ofRaft that).toRaft = that := rfl

@[simp] theorem RaftInstallSnapshotResponse.toRaft_ofRaft (that : InstallSnapshotResponse) :
    (RaftInstallSnapshotResponse.ofRaft that).toRaft = that := rfl

@[simp] theorem RaftVoteRequest.toRaft_ofRaft (that : VoteRequest) :
    (RaftVoteRequest.ofRaft that).toRaft = that := rfl

@[simp] theorem RaftVoteResponse.toRaft_ofRaft (that : VoteResponse) :
    (RaftVoteResponse.ofRaft that).toRaft = that := rfl

variable {D : Type} {cbor : Cbor D}

theorem EntryNormal.roundTrips (hcbor : cbor.Lawful) :
    RoundTrips (EntryNormal.ofRaft cbor) (EntryNormal.toRaft cbor) := by
  rintro ⟨data⟩
  obtain ⟨bytes, hto, hof⟩ := hcbor data
  refine ⟨{ entry := some { data := some { value := bytes } } }, ?_, ?_⟩
  · simp only [EntryNormal.ofRaft, hto]
  · simp only [EntryNormal.toRaft, unwrap_some]
    show (match cbor.fromSlice bytes with | .ok data => _ | .error err => _) = _
    rw [hof]

theorem Payload.roundTrips (hcbor : cbor.Lawful) :
    RoundTrips (Payload.ofRaft cbor) (Payload.toRaft cbor) := by
  intro payload
  cases payload with
  | blank => exact ⟨.blank, rfl, rfl⟩
  | normal entry =>
      obtain ⟨e, hto, hof⟩ := EntryNormal.roundTrips hcbor entry
      exact ⟨.normal e, by simp [Payload.ofRaft, hto, Except.map],
        by simp [Payload.toRaft, hof, Except.map]⟩
  | configChange change =>
      exact ⟨.configChange (MembershipConfig.ofRaft change.membership), rfl,
        by simp [Payload.toRaft]⟩
  | snapshotPointer pointer => exact ⟨.snapshotPointer (SnapshotPath.ofRaft pointer), rfl, rfl⟩

theorem Entry.roundTrips (hcbor : cbor.Lawful) :
    RoundTrips (Entry.ofRaft cbor) (Entry.toRaft cbor) := by
  intro entry
  obtain ⟨p, hto, hof⟩ := Payload.roundTrips hcbor entry.payload
  refine ⟨{ term := entry.term, index := entry.index, payload := some p }, ?_, ?_⟩
  · simp only [Entry.ofRaft, hto]; rfl
  · simp only [Entry.toRaft, hof]; rfl

theorem RaftAppendEntriesRequest.roundTrips (hcbor : cbor.Lawful) :
    RoundTrips (RaftAppendEntriesRequest.ofRaft cbor) (RaftAppendEntriesRequest.toRaft cbor) := by
  intro request
  obtain ⟨entries, hto, hof⟩ := (Entry.roundTrips hcbor).mapM request.entries
  refine ⟨{ target := request.target, term := request.term, leaderId := request.leaderId,
            prevLogIndex := request.prevLogIndex, prevLogTerm := request.prevLogTerm,
            leaderCommit := request.leaderCommit, entries }, ?_, ?_⟩
  · simp only at hto
    simp only [RaftAppendEntriesRequest.ofRaft, hto]; rfl
  · simp only at hof
    simp only [RaftAppendEntriesRequest.toRaft, hof]; rfl

/-- **The Raft protocol round-trips through its entities.** Every append request converts to an entity without
    a panic, and this entity converts back to the request without one; the other two requests and the three
    responses convert back to themselves. -/
theorem raftProtocol_roundTrips (hcbor : cbor.Lawful) :
    (∀ request : AppendEntriesRequest D, ∃ entity,
      RaftAppendEntriesRequest.ofRaft cbor request = .ok entity ∧
        RaftAppendEntriesRequest.toRaft cbor entity = .ok request) ∧
    (∀ request : InstallSnapshotRequest,
      (RaftInstallSnapshotRequest.ofRaft request).toRaft = request) ∧
    (∀ request : VoteRequest, (RaftVoteRequest.ofRaft request).toRaft = request) ∧
    (∀ response : AppendEntriesResponse,
      (RaftAppendEntriesResponse.ofRaft response).toRaft = response) ∧
    (∀ response : InstallSnapshotResponse,
      (RaftInstallSnapshotResponse.ofRaft response).toRaft = response) ∧
    ∀ response : VoteResponse, (RaftVoteResponse.ofRaft response).toRaft = response :=
  ⟨RaftAppendEntriesRequest.roundTrips hcbor, RaftInstallSnapshotRequest.toRaft_ofRaft,
    RaftVoteRequest.toRaft_ofRaft, RaftAppendEntriesResponse.toRaft_ofRaft,
    RaftInstallSnapshotResponse.toRaft_ofRaft, RaftVoteResponse.toRaft_ofRaft⟩

/-- An append request with one entry of each kind. -/
def sampleAppendEntries : AppendEntriesRequest Bool :=
  let membership : RaftScaffold.MembershipConfig :=
    { isInJointConsensus := true, members := [3, 1], nonVoters := [2], removing := [] }
  { target := 1, term := 4, leaderId := 3, prevLogIndex := 7, prevLogTerm := 2, leaderCommit := 6
    entries :=
      [{ term := 4, index := 8, payload := .blank },
        { term := 4, index := 9, payload := .normal { data := true } },
        { term := 4, index := 10, payload := .configChange { membership } },
        { term := 4, index := 11, payload := .snapshotPointer { path := "/snapshots/7" } }] }

/-- The four payloads of the sample survive the wire, in order. -/
theorem raftProtocol_roundTrips_sample :
    ∃ entity, RaftAppendEntriesRequest.ofRaft boolCbor sampleAppendEntries = .ok entity ∧
      RaftAppendEntriesRequest.toRaft boolCbor entity = .ok sampleAppendEntries :=
  (raftProtocol_roundTrips boolCbor_lawful).1 sampleAppendEntries

end Entities

end RaftScaffold
