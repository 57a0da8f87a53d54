import RaftScaffold.Basic

set_option autoImplicit false

/-! # Errors and their texts

`NodeError`, `NetworkError` and the library errors they wrap, with the `Display` texts their
`#[error(..)]` attributes give. The texts matter beyond the log: a route renders a failure as the text of
the error, and the peer then tries to decode that text as JSON. `NetworkError.display_not_json` says it
never succeeds. -/

namespace RaftScaffold

open Transport

/-- `actix::MailboxError`. -/
inductive MailboxError where
  | closed
  | timeout
  deriving DecidableEq, Repr

def MailboxError.display : MailboxError → String
  | .closed => "Mailbox has closed"
  | .timeout => "Message delivery timed out"

/-- `ports::PortError`. -/
inductive PortError where
  | bindError (io : String)
  | unknown
  deriving DecidableEq, Repr

/-- `tokio::timer::Error`, by its text. -/
structure TimerError where
  text : String
  deriving DecidableEq, Repr

/-- `{:?}` of an `Option<u64>`. -/
def debugId : Option NodeId → String
  | some id => "Some(" ++ toString id ++ ")"
  | none => "None"

/-- `{:?}` of an `Option<String>`. -/
def debugText : Option String → String
  | some s => "Some(" ++ s.quote ++ ")"
  | none => "None"

/-- `{:?}` of a `Vec<u64>`. -/
def debugIds (ids : List NodeId) : String :=
  "[" ++ ", ".intercalate (ids.map toString) ++ "]"

/-- `network::node::NodeError`. -/
inductive NodeError where
  | changeClusterError (toAdd toRemove : List NodeId)
  | remoteNodeSendError (text : String)
  | requestError (error : ClientError)
  | responseParseError (text : String)
  | responseFailure (text : String)
  | timeout (text : String)
  | payloadError (text : String)
  | remoteNotLeaderError (leaderId : Option NodeId)
  | unknown (text : String)
  deriving DecidableEq, Repr

def NodeError.display : NodeError → String
  | .changeClusterError toAdd toRemove =>
      "failed to change cluster " ++ debugIds toAdd ++ " and " ++ debugIds toRemove
  | .remoteNodeSendError text => "remote node request failed:" ++ text
  | .requestError e => "error in http request to remote node:" ++ e.text
  | .responseParseError text => "failed to parse response from remote node:" ++ text
  | .responseFailure text => "remote node response failure: " ++ text
  | .timeout text => "Node request timed out: " ++ text
  | .payloadError text => "payload error " ++ text.quote
  | .remoteNotLeaderError leaderId =>
      "Remote node is not leader. Redirect to node#" ++ debugId leaderId ++ "."
  | .unknown text => "unknown node error: " ++ text

/-- `network::messages::NetworkError`. -/
inductive NetworkError where
  | networkBindError (error : PortError)
  | delayError (error : TimerError)
  | actorMailBoxError (error : MailboxError)
  | notLeader (leaderId : Option NodeId) (leaderAddress : Option String)
  | noElectedLeader
  | nodeError (error : NodeError)
  | unknown (text : String)
  deriving DecidableEq, Repr

def NetworkError.display : NetworkError → String
  | .networkBindError _ => "failed to bind network endpoint"
  | .delayError e => "error in delay time " ++ e.text
  | .actorMailBoxError e => "error in actor mailbox " ++ e.display
  | .notLeader leaderId leaderAddress =>
      "request made to non-leader node (id#" ++ debugId leaderId ++ ", address:" ++
        debugText leaderAddress
  | .noElectedLeader => "no elected RAFT leader"
  | .nodeError e => "error in delegated node " ++ e.display
  | .unknown text => "unknown network error " ++ text

/-! ## No error text is a JSON document -/

/-- A text that starts with a letter opens no JSON object or array, whatever follows. -/
theorem opensJson_append (c : Char) (s t : String) (hs : s.toList.head? = some c)
    (hspace : (c = ' ' || c = '\t' || c = '\n' || c = '\r') = false)
    (hopen : (decide (c.toNat = 0x7B) || decide (c.toNat = 0x5B)) = false) :
    opensJson (s ++ t) = false := by
  obtain ⟨rest, hrest⟩ : ∃ rest, s.toList = c :: rest := by
    cases h : s.toList with
    | nil => simp [h] at hs
    | cons d rest =>
        simp only [h, List.head?_cons, Option.some.injEq] at hs
        exact ⟨rest, by rw [hs]⟩
  unfold opensJson
  rw [String.toList_append, hrest, List.cons_append, List.dropWhile_cons_of_neg (by simp [hspace])]
  exact hopen

/-- **The text of a network error is never JSON**, so no peer can take it for a reply. -/
theorem NetworkError.display_not_json (e : NetworkError) : opensJson e.display = false := by
  cases e with
  | networkBindError _ =>
      exact opensJson_append 'f' "failed to bind network endpoint" "" (by simp) (by decide) (by decide)
  | delayError e =>
      exact opensJson_append 'e' "error in delay time " e.text (by simp) (by decide) (by decide)
  | actorMailBoxError e =>
      exact opensJson_append 'e' "error in actor mailbox " e.display (by simp) (by decide) (by decide)
  | notLeader leaderId leaderAddress =>
      show opensJson (_ ++ _ ++ _ ++ _) = false
      rw [String.append_assoc, String.append_assoc]
      exact opensJson_append 'r' _ _ (by simp) (by decide) (by decide)
  | noElectedLeader =>
      exact opensJson_append 'n' "no elected RAFT leader" "" (by simp) (by decide) (by decide)
  | nodeError e =>
      exact opensJson_append 'e' "error in delegated node " e.display (by simp) (by decide) (by decide)
  | unknown text =>
      exact opensJson_append 'u' "unknown network error " text (by simp) (by decide) (by decide)

theorem MailboxError.display_not_json (e : MailboxError) : opensJson e.display = false := by
  cases e with
  | closed => exact opensJson_append 'M' "Mailbox has closed" "" (by simp) (by decide) (by decide)
  | timeout => exact opensJson_append 'M' "Message delivery timed out" "" (by simp) (by decide) (by decide)

end RaftScaffold
