import RaftScaffold.Basic

set_option autoImplicit false

/-! # The Raft protocol messages

The message types of `actix_raft` that pass through the scaffold: the three RPCs with their responses
and the metrics the Raft actor reports to its network. -/

namespace RaftScaffold

/-- `actix_raft::messages::MembershipConfig`. -/
structure MembershipConfig where
  isInJointConsensus : Bool
  members : List NodeId
  nonVoters : List NodeId
  removing : List NodeId
  deriving DecidableEq, Repr

/-! ## Metrics -/

/-- `actix_raft::metrics::State`. -/
inductive RaftState where
  | nonVoter
  | follower
  | candidate
  | leader
  deriving DecidableEq, Repr

structure RaftMetrics where
  id : NodeId
  state : RaftState
  currentTerm : UInt64
  lastLogIndex : UInt64
  lastApplied : UInt64
  currentLeader : Option NodeId
  membershipConfig : MembershipConfig
  deriving DecidableEq, Repr

/-! ## Log entries -/

/-- A log entry holding an application request of type `D`. -/
structure EntryNormal (D : Type) where
  data : D
  deriving DecidableEq, Repr

structure EntryConfigChange where
  membership : MembershipConfig
  deriving DecidableEq, Repr

structure EntrySnapshotPointer where
  path : String
  deriving DecidableEq, Repr

inductive EntryPayload (D : Type) where
  | blank
  | normal (entry : EntryNormal D)
  | configChange (change : EntryConfigChange)
  | snapshotPointer (pointer : EntrySnapshotPointer)
  deriving DecidableEq, Repr

structure Entry (D : Type) where
  term : UInt64
  index : UInt64
  payload : EntryPayload D
  deriving DecidableEq, Repr

/-! ## The three RPCs -/

structure AppendEntriesRequest (D : Type) where
  target : NodeId
  term : UInt64
  leaderId : NodeId
  prevLogIndex : UInt64
  prevLogTerm : UInt64
  entries : List (Entry D)
  leaderCommit : UInt64
  deriving DecidableEq, Repr

structure ConflictOpt where
  term : UInt64
  index : UInt64
  deriving DecidableEq, Repr

structure AppendEntriesResponse where
  term : UInt64
  success : Bool
  conflictOpt : Option ConflictOpt
  deriving DecidableEq, Repr

structure InstallSnapshotRequest where
  target : NodeId
  term : UInt64
  leaderId : NodeId
  lastIncludedIndex : UInt64
  lastIncludedTerm : UInt64
  offset : UInt64
  data : List UInt8
  done : Bool
  deriving DecidableEq, Repr

structure InstallSnapshotResponse where
  term : UInt64
  deriving DecidableEq, Repr

structure VoteRequest where
  target : NodeId
  term : UInt64
  candidateId : NodeId
  lastLogIndex : UInt64
  lastLogTerm : UInt64
  deriving DecidableEq, Repr

/-- `VoteRequest::new` stores its five arguments in this order. -/
def VoteRequest.new (target : NodeId) (term : UInt64) (candidateId : NodeId)
    (lastLogIndex lastLogTerm : UInt64) : VoteRequest :=
  { target, term, candidateId, lastLogIndex, lastLogTerm }

structure VoteResponse where
  term : UInt64
  voteGranted : Bool
  isCandidateUnknown : Bool
  deriving DecidableEq, Repr

end RaftScaffold
