import Mathlib.Logic.Function.Basic
import RaftScaffold.Http.Routes
import RaftScaffold.Raft.Lookup

set_option autoImplicit false

/-! # The directory of nodes

Apart from routing messages, the node table answers which nodes the cluster has: `Handler<GetConnectedNodes>` and
`Handler<GetNode>`, behind two routes of the HTTP server. To those who ask, the table is a map from ids to infos
that a configuration, a `ConnectNode` and a `DisconnectNode` write (`Directory`), whatever else a process does
with it (`directory_refines`).

`RaftSystem::started` asks for the nodes to initialize Raft with. Systems that are configured with the same nodes
initialize Raft with the same members (`boot_agreement`). -/

namespace RaftScaffold

open Transition Transport

/-! ## The abstract directory -/

/-- Which nodes there are, and how they are reached. -/
abbrev Directory := NodeId → Option NodeInfo

namespace Directory

/-- Write, or erase, the info of a node. -/
def write (self : Directory) (entry : NodeId × Option NodeInfo) : Directory :=
  Function.update self entry.1 entry.2

end Directory

/-- What an event writes into the directory. -/
def HostEvent.updates (sha256 : String → String) : HostEvent → List (NodeId × Option NodeInfo)
  | .configureWith seeds => seeds.map fun n => (n.nodeId sha256, some n)
  | .message (.connectNode command) => [(command.id, some command.info)]
  | .message (.disconnectNode command) => [(command.id, none)]
  | _ => []

/-- The directory of a network that was created for `id` and met the events `es`. -/
def Directory.after (sha256 : String → String) (id : NodeId) (info : NodeInfo) (es : List HostEvent) :
    Directory :=
  (es.flatMap (HostEvent.updates sha256)).foldl Directory.write (Function.update (fun _ => none) id (some info))

/-! ## The queries -/

/-- A hash map from node ids to infos, as `GetConnectedNodes` returns it. -/
abbrev ConnectedNodes := Std.ExtTreeMap NodeId (Option NodeInfo)

/-- `Handler<GetConnectedNodes>`. -/
def Network.handleGetConnectedNodes (self : Network) : Except NetworkError ConnectedNodes :=
  .ok (self.nodes.map fun _ nodeRef => nodeRef.info)

section Routes

variable {Body : Type} [HttpBody Body]

/-- `all_nodes_route`; `iterate` is the order in which the hash map is written. -/
def allNodesRoute (response : Codec Body (List (NodeId × Option NodeInfo)))
    (iterate : ConnectedNodes → List (NodeId × Option NodeInfo))
    (network : Except MailboxError (Except NetworkError ConnectedNodes)) : Response Body :=
  match network with
  | .error err => internalServerError err.display
  | .ok (.ok res) => okJson response (iterate res)
  | .ok (.error err) => internalServerError err.display

end Routes

/-! ## The table refines the directory -/

namespace Host

/-- The directory that the table stands for. -/
def directory (self : Host) : Directory := self.network.infoAt

theorem registered_directory (h : Host) (id : NodeId) (info : NodeInfo) :
    (h.registered id info).directory = h.directory.write (id, some info) := by
  funext k
  simp only [directory, Network.infoAt, registered_lookup, Directory.write]
  by_cases hk : k = id
  · rw [hk, if_pos rfl, Function.update_self]
    rfl
  · rw [if_neg hk, Function.update_of_ne hk]
    rfl

/-- Registering a node with the info that it has writes nothing. -/
theorem registered_directory_self {h : Host} {id : NodeId} {info : NodeInfo}
    (hinfo : h.directory id = some info) : (h.registered id info).directory = h.directory := by
  rw [registered_directory, Directory.write, ← hinfo]
  exact Function.update_eq_self id h.directory

theorem configureWith_directory (network : Network) (sha256 : String → String) (seeds : List NodeInfo) :
    (network.configureWith sha256 seeds).infoAt =
      (seeds.map fun n => (n.nodeId sha256, some n)).foldl Directory.write network.infoAt := by
  unfold Network.configureWith
  induction seeds generalizing network with
  | nil => rfl
  | cons n seeds ih =>
      rw [List.foldl_cons, ih, List.map_cons, List.foldl_cons]
      congr 1
      funext k
      simp only [Network.infoAt, NodeTable.lookup_insert, Directory.write]
      by_cases hk : k = n.nodeId sha256
      · rw [if_pos hk, hk, Function.update_self]
        rfl
      · rw [if_neg hk, Function.update_of_ne hk]
        rfl

/-- **Every step of the table is the step of the directory.** -/
theorem Effect.directory {sha256 : String → String} {h h' : Host} {e : HostEvent}
    (heff : h.Effect sha256 e h') (hw : WellFormed h) :
    h'.directory = (e.updates sha256).foldl Directory.write h.directory := by
  cases e with
  | configureWith seeds =>
      rw [heff]
      exact configureWith_directory h.network sha256 seeds
  | started =>
      rw [heff]
      refine List.foldlRecOn (motive := fun h' : Host => h'.directory = h.directory) _ _ rfl ?_
      rintro h' hsame ⟨k, nodeRef⟩ hmem
      unfold startEntry
      cases hinfo : nodeRef.info with
      | none => exact hsame
      | some info =>
          -- the entry is registered with the info that it has
          have hlookup : h.directory k = some info := by
            have hentry := Std.ExtTreeMap.mem_toList_iff_getElem?_eq_some.1 hmem
            rw [Host.directory, Network.infoAt, hentry, Option.bind_some, hinfo]
          rw [← hsame] at hlookup ⊢
          exact registered_directory_self hlookup
  | message msg =>
      cases msg with
      | registerRaft raft =>
          obtain ⟨nodeRef, info, hlookup, hinfo, ⟨addr, -, rfl⟩ | ⟨-, rfl⟩⟩ := hw.registersRaft_cases heff
          · rfl
          · refine registered_directory_self (h := h.withRaft raft) ?_
            show h.network.nodes[h.network.id]?.bind NodeRef.info = some info
            rw [hlookup, Option.bind_some, hinfo]
      | raftMetrics now metrics => obtain ⟨state, -, rfl⟩ := heff; rfl
      | bindEndpoint startServer => obtain ⟨server, rfl⟩ := heff; rfl
      | query query => obtain ⟨_, _, rfl⟩ := heff; rfl
      | handleNodeStatusChange msg =>
          rw [heff, Network.handleNodeStatusChange_eq]
          rfl
      | connectNode command =>
          obtain ⟨delegations, rfl⟩ := heff
          show (h.connected command).directory = h.directory.write (command.id, some command.info)
          unfold connected
          split
          · next hcurrent =>
              rw [Directory.write, ← hcurrent]
              exact (Function.update_eq_self command.id h.directory).symm
          · exact registered_directory h _ _
      | disconnectNode command =>
          rw [heff]
          funext k
          simp only [Host.directory, Network.infoAt, Network.handleDisconnectNode, NodeTable.lookup_erase,
            HostEvent.updates, List.foldl_cons, List.foldl_nil, Directory.write]
          by_cases hk : k = command.id
          · rw [if_pos hk, hk, Function.update_self]
            rfl
          · rw [if_neg hk, Function.update_of_ne hk]
            rfl
  | delegate n => obtain ⟨delegations, rfl | ⟨leader, command, rfl⟩⟩ := heff <;> rfl
  | deliver n => obtain ⟨addr, msg, actor, actor', -, -, -, rfl⟩ := heff; rfl
  | node addr event => obtain ⟨-, actor, actor', -, -, rfl⟩ := heff; rfl
  | wake n timer => obtain ⟨_, _, rfl⟩ := heff; rfl
  | forward n => obtain ⟨_, _, rfl⟩ := heff; rfl

theorem directory_of_runs {sha256 : String → String} {now : DateTime} {id : NodeId} {info : NodeInfo}
    {ring : Ring} {es : List HostEvent} {h : Host} (hrun : Runs (Step sha256) (Host.new now id info ring) es h) :
    h.directory = Directory.after sha256 id info es := by
  refine (hrun.invariant_history (I := fun es h => WellFormed h ∧ h.directory = Directory.after sha256 id info es)
    ?_ ⟨wellFormed_new now id info ring, ?_⟩).2
  · rintro pre h e h' ⟨hw, hsame⟩ hstep
    have heff := step_cases hstep
    refine ⟨heff.wellFormed hw, ?_⟩
    rw [heff.directory hw, hsame, Directory.after, Directory.after, List.flatMap_append, List.foldl_append,
      List.flatMap_singleton]
  · funext k
    simp only [directory, Network.infoAt, Host.new, Network.new, NodeTable.lookup_insert, Directory.after,
      List.flatMap_nil, List.foldl_nil]
    by_cases hk : k = id
    · rw [if_pos hk, hk, Function.update_self]
      rfl
    · rw [if_neg hk, Function.update_of_ne hk]
      simp

end Host

/-! ## What the queries answer -/

namespace Host

theorem WellFormed.handleGetConnectedNodes {h : Host} (hw : WellFormed h) :
    ∃ nodes, h.network.handleGetConnectedNodes = .ok nodes ∧
      ∀ k : NodeId, nodes[k]? = (h.directory k).map some := by
  refine ⟨_, rfl, fun k => ?_⟩
  rw [Std.ExtTreeMap.getElem?_map, directory, Network.infoAt]
  cases hlookup : h.network.nodes[k]? with
  | none => rfl
  | some nodeRef =>
      obtain ⟨info, hinfo, -⟩ := (hw.entries k nodeRef hlookup).served
      simp [hinfo]

end Host

/-- **The node table is a directory.** In every state that a network reaches, `GetConnectedNodes` answers exactly
    the nodes that are in the directory of the events so far, each with its info, and `GetNode` answers the same
    info for each id. -/
theorem directory_refines (sha256 : String → String) (now : DateTime) (id : NodeId) (info : NodeInfo)
    (ring : Ring) (es : List HostEvent) (h : Host)
    (hrun : Runs (Host.Step sha256) (Host.new now id info ring) es h) :
    (∃ nodes, h.network.handleGetConnectedNodes = .ok nodes ∧
      ∀ k : NodeId, nodes[k]? = (Directory.after sha256 id info es k).map some) ∧
    ∀ (ringNode : Ring → String → Option NodeId) (k : NodeId),
      h.network.handleGetNode ringNode (.forId k) = .ok (k, Directory.after sha256 id info es k) := by
  have hw : Host.WellFormed h := Host.Reachable.wellFormed ⟨now, id, info, ring, es, hrun⟩
  have hdirectory := Host.directory_of_runs hrun
  refine ⟨?_, fun ringNode k => ?_⟩
  · rw [← hdirectory]
    exact hw.handleGetConnectedNodes
  · rw [Network.handleGetNode_forId, ← hdirectory]
    rfl

/-- A node that joined with one info and again with another is known under the second one, and a node that left is
    not known. -/
theorem directory_refines_sample :
    let es : List HostEvent := [.started, .message (.connectNode { id := 2, info := Host.sampleInfo }),
      .message (.connectNode { id := 3, info := Host.sampleInfo }),
      .message (.connectNode { id := 2, info := { Host.sampleInfo with name := "b" } }),
      .message (.disconnectNode { id := 3 })]
    (Host.sampleRun es).network.handleGetNode (fun _ _ => none) (.forId 2) =
        .ok (2, some { Host.sampleInfo with name := "b" }) ∧
      (Host.sampleRun es).network.handleGetNode (fun _ _ => none) (.forId 3) = .ok (3, none) := by
  intro es
  have hanswers := (directory_refines (fun _ => "") 0 1 Host.sampleInfo (Ring.new 10) es _
    (Host.runs_sampleRun rfl)).2 (fun _ _ => none)
  exact ⟨hanswers 2, hanswers 3⟩

/-- **The two routes agree.** In every state that a network reaches, the route for one node answers what the route
    for all nodes has under the node's id: its info, and nothing for a node that is not among them. -/
theorem nodeRoutes_agree {Body : Type} [HttpBody Body]
    (codec : Codec Body (List (NodeId × Option NodeInfo))) (hcodec : codec.Lawful)
    (entities : Codec Body (List (NodeId × Option Entities.NodeInfo))) (hentities : entities.Lawful)
    (iterate : ConnectedNodes → List (NodeId × Option NodeInfo))
    (hiterate : ∀ nodes, (iterate nodes).Perm nodes.toList) (ringNode : Ring → String → Option NodeId)
    (sha256 : String → String) (h : Host) (hr : Host.Reachable sha256 h) (k : NodeId) (uid : String)
    (huid : nodeIdFromPath uid = .ok k) :
    let all := allNodesRoute codec iterate (.ok h.network.handleGetConnectedNodes)
    ∃ one nodes info, nodeRoute entities (fun msg => .ok (h.network.handleGetNode ringNode msg)) uid = .ok one ∧
      all.status = 200 ∧ one.status = 200 ∧ codec.decode all.body = .ok nodes ∧
      entities.decode one.body = .ok [(k, info)] ∧ (∀ i, info = some i ↔ (k, some i.toInfo) ∈ nodes) ∧
      (info = none ↔ k ∉ nodes.map Prod.fst) := by
  intro all
  obtain ⟨nodes, hnodes, hlookup⟩ := hr.wellFormed.handleGetConnectedNodes
  have hmem : ∀ info, (k, info) ∈ iterate nodes ↔ (h.directory k).map some = some info := by
    intro info
    rw [(hiterate nodes).mem_iff, Std.ExtTreeMap.mem_toList_iff_getElem?_eq_some, hlookup]
  refine ⟨okJson entities [(k, (h.directory k).map Entities.NodeInfo.ofInfo)], iterate nodes,
    (h.directory k).map Entities.NodeInfo.ofInfo, ?_, ?_, rfl, ?_, hentities.roundTrip _, fun i => ?_, ?_⟩
  · simp only [nodeRoute, huid, Except.toOption, expect_some, bind, Except.bind]
    rw [Network.handleGetNode_forId]
    rfl
  · simp only [all, hnodes]
    rfl
  · simp only [all, hnodes]
    exact hcodec.roundTrip _
  · rw [hmem]
    cases h.directory k with
    | none => simp
    | some info =>
        simp only [Option.map_some, Option.some.injEq]
        constructor
        · rintro rfl
          rfl
        · rintro rfl
          rfl
  · have hkeys : k ∈ (iterate nodes).map Prod.fst ↔ ∃ info, (h.directory k).map some = some info := by
      simp only [List.mem_map, Prod.exists, exists_and_right, exists_eq_right, hmem]
    rw [hkeys]
    cases h.directory k <;> simp

abbrev NodesBody : Type := SimpleBody (List (NodeId × Option NodeInfo) ⊕ List (NodeId × Option Entities.NodeInfo))

/-- A node that joined is answered by both routes. -/
theorem nodeRoutes_agree_sample :
    let codec : Codec NodesBody (List (NodeId × Option NodeInfo)) :=
      SimpleBody.codec .inl Sum.getLeft? fun nodes => 120 * nodes.length
    let entities : Codec NodesBody (List (NodeId × Option Entities.NodeInfo)) :=
      SimpleBody.codec .inr Sum.getRight? fun nodes => 120 * nodes.length
    let all := allNodesRoute codec (fun nodes => nodes.toList)
      (.ok Host.sampleJoined.network.handleGetConnectedNodes)
    ∃ one nodes info, nodeRoute entities
        (fun msg => .ok (Host.sampleJoined.network.handleGetNode (fun _ _ => none) msg)) " 2" = .ok one ∧
      all.status = 200 ∧ one.status = 200 ∧ codec.decode all.body = .ok nodes ∧
      entities.decode one.body = .ok [(2, info)] ∧ (∀ i, info = some i ↔ (2, some i.toInfo) ∈ nodes) ∧
      (info = none ↔ 2 ∉ nodes.map Prod.fst) := by
  intro codec entities
  exact nodeRoutes_agree codec (SimpleBody.codec_lawful _ _ _ fun _ => rfl) entities
    (SimpleBody.codec_lawful _ _ _ fun _ => rfl) (fun nodes => nodes.toList) (fun _ => List.Perm.refl _)
    (fun _ _ => none) (fun _ => "") Host.sampleJoined
    ⟨0, 1, Host.sampleInfo, Ring.new 10, _, Host.runs_sampleRun rfl⟩ 2 " 2" rfl

end RaftScaffold
