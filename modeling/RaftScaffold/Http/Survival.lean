import RaftScaffold.Http.Routes
import RaftScaffold.Errors

set_option autoImplicit false

/-! # What a request must bring

The entities admit more than the program's own clients send: every part that the protocol calls optional may be
absent, the data of an entry may be any bytes, and the path any text. The routes unwrap all of it, so a
request without these parts is answered with a panic instead of an error. `routes_survive_iff` says, for
each route, which requests it survives. -/

namespace RaftScaffold

open Transport

namespace Entities

section Data

variable {D : Type} (cbor : Cbor D)

/-! ## Entities that convert -/

/-- The entry carries data, and the data decodes. -/
def EntryNormal.Decodable (self : EntryNormal) : Prop :=
  ∃ normal any data, self.entry = some normal ∧ normal.data = some any ∧
    cbor.fromSlice any.value = .ok data

def Payload.Decodable : Payload → Prop
  | .normal entry => entry.Decodable cbor
  | _ => True

/-- The entry has a payload, and any data in it decodes. -/
def Entry.Decodable (self : Entry) : Prop :=
  ∃ payload, self.payload = some payload ∧ payload.Decodable cbor

variable {cbor}

theorem EntryNormal.converts_iff (entry : EntryNormal) :
    (∃ that, EntryNormal.toRaft cbor entry = .ok that) ↔ entry.Decodable cbor := by
  simp only [EntryNormal.toRaft, bind_eq_ok, unwrap_eq_ok]
  constructor
  · rintro ⟨that, normal, hnormal, any, hany, hthat⟩
    cases hdata : cbor.fromSlice any.value with
    | error err =>
        rw [hdata] at hthat
        cases hthat
    | ok data => exact ⟨normal, any, data, hnormal, hany, hdata⟩
  · rintro ⟨normal, any, data, hnormal, hany, hdata⟩
    refine ⟨{ data }, normal, hnormal, any, hany, ?_⟩
    rw [hdata]

theorem Payload.converts_iff (payload : Payload) :
    (∃ that, Payload.toRaft cbor payload = .ok that) ↔ payload.Decodable cbor := by
  cases payload with
  | normal entry =>
      show _ ↔ entry.Decodable cbor
      rw [← EntryNormal.converts_iff]
      simp only [Payload.toRaft, map_eq_ok]
      constructor
      · rintro ⟨_, that, hthat, -⟩
        exact ⟨that, hthat⟩
      · rintro ⟨that, hthat⟩
        exact ⟨.normal that, that, hthat, rfl⟩
  | _ => exact iff_of_true ⟨_, rfl⟩ trivial

theorem Entry.converts_iff (entry : Entry) :
    (∃ that, Entry.toRaft cbor entry = .ok that) ↔ entry.Decodable cbor := by
  unfold Entry.toRaft
  cases hpayload : entry.payload with
  | none =>
      refine iff_of_false ?_ ?_
      · rintro ⟨_, hnone⟩
        cases hnone
      · rintro ⟨payload, hsome, -⟩
        rw [hpayload] at hsome
        cases hsome
  | some payload =>
      have hconverts : (∃ that, Payload.toRaft cbor payload = .ok that) ↔ payload.Decodable cbor :=
        Payload.converts_iff payload
      simp only [bind_eq_ok]
      constructor
      · rintro ⟨_, that, hthat, -⟩
        exact ⟨payload, hpayload, hconverts.1 ⟨that, hthat⟩⟩
      · rintro ⟨payload', hsome, hdecodable⟩
        obtain rfl := Option.some.inj (hpayload.symm.trans hsome)
        obtain ⟨that, hthat⟩ := hconverts.2 hdecodable
        exact ⟨_, that, hthat, rfl⟩

/-- A request converts exactly when all its entries do. -/
theorem RaftAppendEntriesRequest.converts_iff (request : RaftAppendEntriesRequest) :
    (∃ that, RaftAppendEntriesRequest.toRaft cbor request = .ok that) ↔
      ∀ entry ∈ request.entries, entry.Decodable cbor := by
  simp only [← Entry.converts_iff, ← mapM_converts_iff, RaftAppendEntriesRequest.toRaft, bind_eq_ok]
  constructor
  · rintro ⟨_, entries, hentries, -⟩
    exact ⟨entries, hentries⟩
  · rintro ⟨entries, hentries⟩
    exact ⟨_, entries, hentries, rfl⟩

end Data

end Entities

/-! ## Routes that survive -/

/-- The path segment names a node: after trimming, a decimal number of 64 bits. -/
def NamesNode (uid : String) : Prop := IsU64 (trimText uid.toList)

/-- The routes expect the path to name a node. -/
theorem expect_nodeId_iff (uid : String) :
    (∃ nid, expect "valid numerical node id" (nodeIdFromPath uid).toOption = .ok nid) ↔ NamesNode uid := by
  rw [NamesNode, ← parseU64_converts_iff]
  simp only [expect_eq_ok, nodeIdFromPath]
  cases parseU64 (trimText uid.toList) <;> simp [Except.toOption]

variable {Body : Type}

/-- The route returns a response, or an error that is rendered as one. -/
def Survives (outcome : Except Panic (Response Body)) : Prop := ∃ response, outcome = .ok response

/-- What follows a panicking step of a route does not matter if it survives. -/
theorem survives_bind_iff {α : Type} {step : Except Panic α} {rest : α → Except Panic (Response Body)}
    (hrest : ∀ a, Survives (rest a)) : Survives (step >>= rest) ↔ ∃ a, step = .ok a := by
  simp only [Survives, bind_eq_ok]
  constructor
  · rintro ⟨_, a, hstep, -⟩
    exact ⟨a, hstep⟩
  · rintro ⟨a, hstep⟩
    obtain ⟨response, hresponse⟩ := hrest a
    exact ⟨response, a, hstep, hresponse⟩

variable [HttpBody Body]

theorem nodeRoute_survives_iff (response : Codec Body (List (NodeId × Option Entities.NodeInfo)))
    (network : GetNode → Except MailboxError (Except NetworkError (NodeId × Option NodeInfo)))
    (uid : String) : Survives (nodeRoute response network uid) ↔ NamesNode uid := by
  rw [← expect_nodeId_iff]
  refine survives_bind_iff fun nid => ?_
  rcases network (GetNode.forId nid) with err | err | ⟨nodeId, nodeInfo⟩ <;> exact ⟨_, rfl⟩

theorem disconnectNodeRoute_survives_iff
    (network : DisconnectNode → Except MailboxError (Except NetworkError Acknowledged)) (uid : String) :
    Survives (disconnectNodeRoute network uid : Except Panic (Response Body)) ↔ NamesNode uid := by
  rw [← expect_nodeId_iff]
  refine survives_bind_iff fun nid => ?_
  rcases network { id := nid } with err | err | ack <;> exact ⟨_, rfl⟩

theorem connectNodeRoute_survives_iff {request : Codec Body Entities.NodeInfoMessage}
    {body : Body} {message : Entities.NodeInfoMessage} (hbody : request.decode body = .ok message)
    (network : ConnectNode → Except MailboxError (Except NetworkError Acknowledged)) (uid : String) :
    Survives (connectNodeRoute request network uid body) ↔
      (Fits body → NamesNode uid ∧ message.nodeId.isSome ∧ message.nodeInfo.isSome) := by
  by_cases hfits : Fits body
  · rw [forall_prop_of_true hfits, ← expect_nodeId_iff, connectNodeRoute, extractJson_of_decode hfits hbody]
    simp only [Survives, bind_eq_ok, unwrap_eq_ok, Option.isSome_iff_exists]
    constructor
    · rintro ⟨_, nid, hnid, nodeId, hnodeId, nodeInfo, hnodeInfo, -⟩
      exact ⟨⟨nid, hnid⟩, ⟨nodeId, hnodeId⟩, ⟨nodeInfo, hnodeInfo⟩⟩
    · rintro ⟨⟨nid, hnid⟩, ⟨nodeId, hnodeId⟩, ⟨nodeInfo, hnodeInfo⟩⟩
      rcases hanswer : network { id := nodeId.toRaft, info := nodeInfo.toInfo } with err | err | ack
      · exact ⟨internalServerError err.display, nid, hnid, nodeId, hnodeId, nodeInfo, hnodeInfo,
          by rw [hanswer]⟩
      · exact ⟨internalServerError err.display, nid, hnid, nodeId, hnodeId, nodeInfo, hnodeInfo,
          by rw [hanswer]⟩
      · exact ⟨created, nid, hnid, nodeId, hnodeId, nodeInfo, hnodeInfo, by rw [hanswer]⟩
  · refine iff_of_true ?_ fun h => absurd h hfits
    rw [connectNodeRoute, extractJson_overflow request hfits]
    exact ⟨_, rfl⟩

theorem appendEntriesRoute_survives_iff {D : Type} {cbor : Cbor D}
    {request : Codec Body Entities.RaftAppendEntriesRequest}
    {response : Codec Body Entities.RaftAppendEntriesResponse} {body : Body}
    {entity : Entities.RaftAppendEntriesRequest} (hbody : request.decode body = .ok entity)
    (network : AppendEntriesRequest D → Except MailboxError (Except Unit AppendEntriesResponse)) :
    Survives (appendEntriesRoute cbor request response network body) ↔
      (Fits body → ∀ entry ∈ entity.entries, entry.Decodable cbor) := by
  rw [appendEntriesRoute, raftRoute]
  by_cases hfits : Fits body
  · rw [forall_prop_of_true hfits, ← Entities.RaftAppendEntriesRequest.converts_iff,
      extractJson_of_decode hfits hbody]
    refine survives_bind_iff fun message => ?_
    rcases network message with err | err | resp <;> exact ⟨_, rfl⟩
  · rw [extractJson_overflow request hfits]
    exact iff_of_true ⟨_, rfl⟩ fun h => absurd h hfits

/-- **Which requests the routes survive.** Whatever the network answers: an append request, if all its entries
    have a payload and any data in them is there and decodes; a connect request, if the path names a node
    and the body has both an id and an info; and a request about one node, if the path names it. A body that is
    too long for the extractor never gets to its route. -/
theorem routes_survive_iff {D : Type} (cbor : Cbor D) :
    (∀ (request : Codec Body Entities.RaftAppendEntriesRequest)
      (response : Codec Body Entities.RaftAppendEntriesResponse)
      (network : AppendEntriesRequest D → Except MailboxError (Except Unit AppendEntriesResponse))
      (body : Body) (entity : Entities.RaftAppendEntriesRequest), request.decode body = .ok entity →
      (Survives (appendEntriesRoute cbor request response network body) ↔
        (Fits body → ∀ entry ∈ entity.entries, entry.Decodable cbor))) ∧
    (∀ (request : Codec Body Entities.NodeInfoMessage)
      (network : ConnectNode → Except MailboxError (Except NetworkError Acknowledged))
      (uid : String) (body : Body) (message : Entities.NodeInfoMessage),
      request.decode body = .ok message →
      (Survives (connectNodeRoute request network uid body) ↔
        (Fits body → NamesNode uid ∧ message.nodeId.isSome ∧ message.nodeInfo.isSome))) ∧
    (∀ (response : Codec Body (List (NodeId × Option Entities.NodeInfo)))
      (network : GetNode → Except MailboxError (Except NetworkError (NodeId × Option NodeInfo)))
      (uid : String), Survives (nodeRoute response network uid) ↔ NamesNode uid) ∧
    ∀ (network : DisconnectNode → Except MailboxError (Except NetworkError Acknowledged)) (uid : String),
      Survives (disconnectNodeRoute network uid : Except Panic (Response Body)) ↔ NamesNode uid :=
  ⟨fun _ _ network _ _ hbody => appendEntriesRoute_survives_iff hbody network,
    fun _ network uid _ _ hbody => connectNodeRoute_survives_iff hbody network uid,
    nodeRoute_survives_iff, disconnectNodeRoute_survives_iff⟩

/-! ## Sample requests -/

abbrev AppendBody : Type :=
  SimpleBody (Entities.RaftAppendEntriesRequest ⊕ Entities.RaftAppendEntriesResponse)

def appendRequestCodec : Codec AppendBody Entities.RaftAppendEntriesRequest :=
  SimpleBody.codec .inl Sum.getLeft? fun entity => 120 + 60 * entity.entries.length

def appendResponseCodec : Codec AppendBody Entities.RaftAppendEntriesResponse :=
  SimpleBody.codec .inr Sum.getRight? fun _ => 60

/-- An append request whose only entry has the given payload. -/
def sampleAppend (payload : Option Entities.Payload) : Entities.RaftAppendEntriesRequest :=
  { target := 1, term := 1, leaderId := 2, prevLogIndex := 0, prevLogTerm := 0
    entries := [{ term := 1, index := 1, payload }], leaderCommit := 0 }

/-- A body that decodes to an append request is answered if its entry decodes. -/
theorem routes_survive_blank :
    Survives (appendEntriesRoute boolCbor appendRequestCodec appendResponseCodec
      (fun _ => .ok (.error ())) (appendRequestCodec.encode (sampleAppend (some .blank)))) := by
  refine ((routes_survive_iff boolCbor).1 _ _ _ _ (sampleAppend (some .blank)) rfl).2 ?_
  intro _ entry hentry
  rw [List.mem_singleton.1 hentry]
  exact ⟨.blank, rfl, trivial⟩

/-- One without a payload is not. -/
theorem routes_survive_fails :
    ¬ ∀ (network : AppendEntriesRequest Bool → Except MailboxError (Except Unit AppendEntriesResponse))
      (entity : Entities.RaftAppendEntriesRequest),
      Survives (appendEntriesRoute boolCbor appendRequestCodec appendResponseCodec network
        (appendRequestCodec.encode entity)) := by
  intro hall
  obtain ⟨response, hresponse⟩ := hall (fun _ => .ok (.error ())) (sampleAppend none)
  cases hresponse

end RaftScaffold
