import RaftScaffold.Network.Steps
import RaftScaffold.Node.Steps

set_option autoImplicit false

/-! # The node table and the running actors

What every entry of the node table promises, in any state a host reaches: it is filed under its own id, it
has an info, and its actor — if it has one — reaches the node of that id under that info
(`Host.WellFormed`).

A step only ever adds actors, and what it does to an actor keeps the node the actor serves (`Host.Keeps`), so an
entry that the step does not touch stays as good as it was. -/

namespace RaftScaffold

open Transition

namespace Host

/-- The actor reaches node `k`: through Raft if `k` is the local id `own`, else by HTTP under `info`. -/
def Serves (own k : NodeId) (info : NodeInfo) (actor : NodeActor) : Prop :=
  actor.node.id = k ∧
    if k = own then ∃ raft, actor.node.proximity = .localNode { id := own, raft }
    else actor.node.proximity = .remoteNode { remoteId := k, remoteInfo := info }

theorem Serves.local {own : NodeId} {info : NodeInfo} {actor : NodeActor} (h : Serves own own info actor) :
    ∃ raft, actor.node.proximity = .localNode { id := own, raft } := by
  have hprox := h.2
  rwa [if_pos rfl] at hprox

theorem Serves.remote {own k : NodeId} {info : NodeInfo} {actor : NodeActor} (h : Serves own k info actor)
    (hk : k ≠ own) : actor.node.proximity = .remoteNode { remoteId := k, remoteInfo := info } := by
  have hprox := h.2
  rwa [if_neg hk] at hprox

/-- What holds of the entry `nodeRef` under the key `k`. -/
structure EntryOk (h : Host) (k : NodeId) (nodeRef : NodeRef) : Prop where
  keyed : nodeRef.id = k
  served : ∃ info, nodeRef.info = some info ∧ ∀ addr, nodeRef.addr = some addr →
    ∃ actor, h.actorAt addr = some actor ∧ Serves h.network.id k info actor
  raft : k = h.network.id → nodeRef.addr.isSome → h.network.raft.isSome

/-- What holds of an `UpdateProximity` under way: it goes to an actor of the local node. -/
def UpdateOk (h : Host) (addr : Addr) (proximity : Proximity) : Prop :=
  (∃ raft, proximity = .localNode { id := h.network.id, raft }) ∧
    ∃ actor, h.actorAt addr = some actor ∧ actor.node.id = h.network.id

structure WellFormed (h : Host) : Prop where
  entries : ∀ k nodeRef, h.network.nodes[k]? = some nodeRef → EntryOk h k nodeRef
  updates : ∀ addr proximity, (addr, .updateProximity proximity) ∈ h.outbox → UpdateOk h addr proximity
  initialized : ∀ addr actor, h.actorAt addr = some actor → actor.node.status = .initialized

/-- `h'` runs all the actors of `h`, and each still serves what it served. -/
structure Keeps (h h' : Host) : Prop where
  id : h'.network.id = h.network.id
  raft : h.network.raft.isSome → h'.network.raft.isSome
  actors : ∀ addr actor, h.actorAt addr = some actor →
    ∃ actor', h'.actorAt addr = some actor' ∧ actor'.node.id = actor.node.id ∧
      ∀ k info, Serves h.network.id k info actor → Serves h.network.id k info actor'

theorem Keeps.of_actors {h h' : Host} (hid : h'.network.id = h.network.id)
    (hraft : h.network.raft.isSome → h'.network.raft.isSome) (hactors : h'.actors = h.actors) :
    Keeps h h' where
  id := hid
  raft := hraft
  actors _ actor ha := ⟨actor, by rwa [actorAt, hactors], rfl, fun _ _ hs => hs⟩

theorem Keeps.refl (h : Host) : Keeps h h := .of_actors rfl (fun hraft => hraft) rfl

theorem Keeps.trans {h h₁ h₂ : Host} (hk : Keeps h h₁) (hk' : Keeps h₁ h₂) : Keeps h h₂ where
  id := hk'.id.trans hk.id
  raft hraft := hk'.raft (hk.raft hraft)
  actors addr actor hactor := by
    obtain ⟨actor₁, hactor₁, hid₁, hserves₁⟩ := hk.actors addr actor hactor
    obtain ⟨actor₂, hactor₂, hid₂, hserves₂⟩ := hk'.actors addr actor₁ hactor₁
    rw [hk.id] at hserves₂
    exact ⟨actor₂, hactor₂, hid₂.trans hid₁, fun k info hs => hserves₂ k info (hserves₁ k info hs)⟩

theorem EntryOk.keeps {h h' : Host} {k : NodeId} {nodeRef : NodeRef} (he : EntryOk h k nodeRef)
    (hk : Keeps h h') : EntryOk h' k nodeRef := by
  obtain ⟨info, hinfo, hserved⟩ := he.served
  refine ⟨he.keyed, ⟨info, hinfo, fun addr haddr => ?_⟩, fun hown haddr => ?_⟩
  · obtain ⟨actor, hactor, hs⟩ := hserved addr haddr
    obtain ⟨actor', hactor', -, hserves⟩ := hk.actors addr actor hactor
    rw [hk.id]
    exact ⟨actor', hactor', hserves k info hs⟩
  · exact hk.raft (he.raft (hown.trans hk.id) haddr)

theorem UpdateOk.keeps {h h' : Host} {addr : Addr} {proximity : Proximity}
    (hu : UpdateOk h addr proximity) (hk : Keeps h h') : UpdateOk h' addr proximity := by
  obtain ⟨⟨raft, hprox⟩, actor, hactor, hid⟩ := hu
  obtain ⟨actor', hactor', hid', -⟩ := hk.actors addr actor hactor
  exact ⟨⟨raft, by rw [hprox, hk.id]⟩, actor', hactor', by rw [hid', hid, hk.id]⟩

/-- The frame rule: entries, updates and actors that are new have to be checked, the others are kept. -/
theorem WellFormed.keeps {h h' : Host} (hw : WellFormed h) (hk : Keeps h h')
    (hentries : ∀ k nodeRef, h'.network.nodes[k]? = some nodeRef →
      h.network.nodes[k]? = some nodeRef ∨ EntryOk h' k nodeRef)
    (hupdates : ∀ addr proximity, (addr, .updateProximity proximity) ∈ h'.outbox →
      (addr, .updateProximity proximity) ∈ h.outbox ∨ UpdateOk h' addr proximity)
    (hinit : ∀ addr actor, h'.actorAt addr = some actor → actor.node.status = .initialized) :
    WellFormed h' where
  entries k nodeRef hlookup := by
    rcases hentries k nodeRef hlookup with hold | hnew
    · exact (hw.entries k nodeRef hold).keeps hk
    · exact hnew
  updates addr proximity hmem := by
    rcases hupdates addr proximity hmem with hold | hnew
    · exact (hw.updates addr proximity hold).keeps hk
    · exact hnew
  initialized := hinit

/-- The frame rule for a host with the same actors. -/
theorem WellFormed.of_actors {h h' : Host} (hw : WellFormed h)
    (hid : h'.network.id = h.network.id)
    (hraft : h.network.raft.isSome → h'.network.raft.isSome) (hactors : h'.actors = h.actors)
    (hentries : ∀ k nodeRef, h'.network.nodes[k]? = some nodeRef →
      h.network.nodes[k]? = some nodeRef ∨ EntryOk h' k nodeRef)
    (hupdates : ∀ addr proximity, (addr, .updateProximity proximity) ∈ h'.outbox →
      (addr, .updateProximity proximity) ∈ h.outbox ∨ UpdateOk h' addr proximity) :
    WellFormed h' :=
  hw.keeps (.of_actors hid hraft hactors) hentries hupdates
    fun addr actor hactor => hw.initialized addr actor (by rwa [actorAt, hactors] at hactor)

/-! ## Registration -/

theorem registered_keeps (h : Host) (id : NodeId) (info : NodeInfo) :
    Keeps h (h.registered id info) where
  id := rfl
  raft := fun hraft => hraft
  actors _ actor hactor :=
    ⟨actor, registered_actorAt h id info hactor, rfl, fun _ _ hs => hs⟩

/-- The proximity of a new actor fits the id it is registered under. -/
theorem newProximity_serves {h : Host} {id : NodeId} {info : NodeInfo} {proximity : Proximity}
    (hprox : h.newProximity id info = some proximity) :
    (id = h.network.id → h.network.raft.isSome) ∧
      if id = h.network.id then ∃ raft, proximity = .localNode { id := h.network.id, raft }
      else proximity = .remoteNode { remoteId := id, remoteInfo := info } := by
  unfold newProximity Network.determineProximity at hprox
  simp only at hprox
  split at hprox
  · cases hprox
  · by_cases hown : id = h.network.id
    · rw [if_pos hown] at hprox
      cases hraft : h.network.raft with
      | none => rw [hraft] at hprox; cases hprox
      | some raft =>
          rw [hraft] at hprox
          refine ⟨fun _ => rfl, ?_⟩
          rw [if_pos hown]
          exact ⟨raft, (Option.some.inj hprox).symm⟩
    · rw [if_neg hown] at hprox
      refine ⟨fun he => absurd he hown, ?_⟩
      rw [if_neg hown]
      exact (Option.some.inj hprox).symm

/-- A registration starts no actor only for a current entry, or for the local node before Raft. -/
theorem newProximity_eq_none {h : Host} {id : NodeId} {info : NodeInfo}
    (hprox : h.newProximity id info = none) :
    ((h.entryFor id info).info = some info ∧ (h.entryFor id info).addr.isSome) ∨
      (id = h.network.id ∧ h.network.raft = none) := by
  unfold newProximity Network.determineProximity at hprox
  simp only at hprox
  split at hprox
  · next hcurrent => exact .inl hcurrent
  · by_cases hown : id = h.network.id
    · rw [if_pos hown] at hprox
      cases hraft : h.network.raft with
      | none => exact .inr ⟨hown, rfl⟩
      | some raft => rw [hraft] at hprox; cases hprox
    · rw [if_neg hown] at hprox; cases hprox

/-- The actor that a registration with a new proximity starts. -/
theorem registered_actorAt_new {h : Host} {id : NodeId} {info : NodeInfo} {proximity : Proximity}
    (hprox : h.newProximity id info = some proximity) :
    (h.registered id info).actorAt ⟨h.actors.length⟩ = some
      (NodeActor.start (Node.new id info h.network.id h.network.info proximity)) := by
  simp [actorAt, registered, newActors, hprox]

/-- The entry a registration starts from is as good as the table, or new and without an actor. -/
theorem entryFor_cases (h : Host) (id : NodeId) (info : NodeInfo) :
    h.network.nodes[id]? = some (h.entryFor id info) ∨
      h.entryFor id info = { id, info := some info, addr := none } := by
  unfold entryFor
  cases h.network.nodes[id]? with
  | some nodeRef => exact .inl rfl
  | none => exact .inr rfl

theorem WellFormed.entryFor {h : Host} (hw : WellFormed h) (id : NodeId) (info : NodeInfo) :
    EntryOk h id (h.entryFor id info) := by
  rcases h.entryFor_cases id info with hold | hnew
  · exact hw.entries id _ hold
  · rw [hnew]
    exact ⟨rfl, ⟨info, rfl, fun addr haddr => by cases haddr⟩, fun _ haddr => by cases haddr⟩

theorem WellFormed.registeredRef {h : Host} (hw : WellFormed h) (id : NodeId) (info : NodeInfo) :
    EntryOk (h.registered id info) id (h.registeredRef id info) := by
  have hentry := hw.entryFor id info
  -- with a new actor the entry points at it; without one it keeps its address, and then also its info
  cases hprox : h.newProximity id info with
  | some proximity =>
      obtain ⟨hraft, hserves⟩ := newProximity_serves hprox
      refine ⟨hentry.keyed, ⟨info, rfl, fun addr haddr => ?_⟩, fun hown _ => hraft hown⟩
      have hnew : addr = ⟨h.actors.length⟩ := by
        simp only [Host.registeredRef, hprox, Option.isSome_some, if_true] at haddr
        exact (Option.some.inj haddr).symm
      rw [hnew]
      exact ⟨_, registered_actorAt_new hprox, rfl, hserves⟩
  | none =>
      have haddr : (h.registeredRef id info).addr = (h.entryFor id info).addr := by
        simp [Host.registeredRef, hprox]
      refine ⟨hentry.keyed, ⟨info, rfl, fun addr hsome => ?_⟩, fun hown hsome => ?_⟩
      · rw [haddr] at hsome
        rcases newProximity_eq_none hprox with ⟨hcurrent, -⟩ | ⟨hown, hraft⟩
        · obtain ⟨info', hinfo', hserved⟩ := (hentry.keeps (registered_keeps h id info)).served
          obtain rfl : info' = info := Option.some.inj (hinfo'.symm.trans hcurrent)
          exact hserved addr hsome
        · have := hentry.raft hown (by rw [hsome]; rfl)
          rw [hraft] at this
          cases this
      · rw [haddr] at hsome
        exact hentry.raft hown hsome

theorem WellFormed.registered {h : Host} (hw : WellFormed h) (id : NodeId) (info : NodeInfo) :
    WellFormed (h.registered id info) := by
  refine hw.keeps (registered_keeps h id info) (fun k nodeRef hlookup => ?_)
    (fun addr proximity hmem => .inl hmem) (fun addr actor hactor => ?_)
  · rw [registered_lookup] at hlookup
    split at hlookup
    · next hk =>
        obtain rfl := Option.some.inj hlookup
        rw [hk]
        exact .inr (hw.registeredRef id info)
    · exact .inl hlookup
  · simp only [actorAt, Host.registered, List.getElem?_append] at hactor
    split at hactor
    · exact hw.initialized addr actor hactor
    · obtain ⟨proximity, -, rfl⟩ :=
        List.mem_map.1 (List.mem_of_getElem? hactor)
      rfl

theorem WellFormed.startEntry {h : Host} (hw : WellFormed h) (entry : NodeId × NodeRef) :
    WellFormed (h.startEntry entry) := by
  unfold Host.startEntry
  split
  · exact hw.registered _ _
  · exact hw

theorem WellFormed.connected {h : Host} (hw : WellFormed h) (command : ConnectNode) :
    WellFormed (h.connected command) := by
  unfold Host.connected
  split
  · exact hw
  · exact hw.registered _ _

/-! ## The other handlers -/

theorem WellFormed.configureWith {h : Host} (hw : WellFormed h) (sha256 : String → String)
    (seeds : List NodeInfo) :
    WellFormed { h with network := h.network.configureWith sha256 seeds } := by
  unfold Network.configureWith
  induction seeds generalizing h with
  | nil => exact hw
  | cons seed seeds ih =>
      let id := seed.nodeId sha256
      let nodes := h.network.nodes.insert id { id, info := some seed, addr := none }
      refine ih (h := h.withNodes nodes) (hw.of_actors rfl (fun hraft => hraft) rfl
        (fun k nodeRef hlookup => ?_) (fun _ _ hmem => .inl hmem))
      simp only [withNodes, nodes, NodeTable.lookup_insert] at hlookup
      split at hlookup
      · next hk =>
          obtain rfl := Option.some.inj hlookup
          exact .inr ⟨hk.symm, ⟨seed, rfl, fun addr haddr => by cases haddr⟩,
            fun _ haddr => by cases haddr⟩
      · exact .inl hlookup

theorem WellFormed.withRaft {h : Host} (hw : WellFormed h) (raft : RaftAddr) :
    WellFormed (h.withRaft raft) :=
  hw.of_actors rfl (fun _ => rfl) rfl (fun _ _ hlookup => .inl hlookup) (fun _ _ hmem => .inl hmem)

/-- In a well-formed host, `RegisterRaft` finds its own entry and either sends the running local node a
    local proximity or registers the local node. -/
theorem WellFormed.registersRaft_cases {h h' : Host} {raft : RaftAddr} (hw : WellFormed h)
    (heff : h.RegistersRaft raft h') :
    ∃ nodeRef info, h.network.nodes[h.network.id]? = some nodeRef ∧ nodeRef.info = some info ∧
      ((∃ addr, nodeRef.addr = some addr ∧
          h' = (h.withRaft raft).send addr
            (.updateProximity (.localNode { id := h.network.id, raft }))) ∨
        (nodeRef.addr = none ∧ h' = (h.withRaft raft).registered h.network.id info)) := by
  obtain ⟨nodeRef, hlookup, heff⟩ := heff
  have hentry := hw.entries _ _ hlookup
  obtain ⟨info, hinfo, -⟩ := hentry.served
  refine ⟨nodeRef, info, hlookup, hinfo, ?_⟩
  rw [hinfo, hentry.keyed] at heff
  cases haddr : nodeRef.addr with
  | none => rw [haddr] at heff; exact .inr ⟨rfl, heff⟩
  | some addr =>
      rw [haddr] at heff
      simp only [Network.determineProximity, if_true] at heff
      exact .inl ⟨addr, rfl, heff⟩

theorem WellFormed.registersRaft {h h' : Host} {raft : RaftAddr} (hw : WellFormed h)
    (heff : h.RegistersRaft raft h') : WellFormed h' := by
  obtain ⟨nodeRef, info, hlookup, -, ⟨addr, haddr, rfl⟩ | ⟨-, rfl⟩⟩ := hw.registersRaft_cases heff
  · refine (hw.withRaft raft).of_actors rfl (fun hraft => hraft) rfl
      (fun _ _ hold => .inl hold) (fun addr' proximity hmem => ?_)
    rcases List.mem_append.1 hmem with hold | hnew
    · exact .inl hold
    · obtain ⟨rfl, hprox⟩ := Prod.mk.inj (List.mem_singleton.1 hnew)
      obtain rfl := NodeMsg.updateProximity.inj hprox
      obtain ⟨info', -, hserved⟩ := (hw.entries _ _ hlookup).served
      obtain ⟨actor, hactor, hid, -⟩ := hserved addr' haddr
      exact .inr ⟨⟨raft, rfl⟩, actor, hactor, hid⟩
  · exact (hw.withRaft raft).registered _ _

/-! ## Steps of the actors -/

theorem actorAt_setActor {h : Host} {addr : Addr} {actor : NodeActor}
    (hactor : h.actorAt addr = some actor) (actor' : NodeActor) (outbox : List (Addr × NodeMsg))
    (addr₁ : Addr) :
    ({ h with outbox, actors := h.actors.set addr.index actor' } : Host).actorAt addr₁ =
      if addr₁ = addr then some actor' else h.actorAt addr₁ := by
  obtain ⟨hlt, -⟩ := List.getElem?_eq_some_iff.1 hactor
  simp only [actorAt, List.getElem?_set]
  by_cases he : addr₁ = addr
  · simp [he, hlt]
  · have hne : addr.index ≠ addr₁.index := fun hi => he (by cases addr; cases addr₁; simp_all)
    rw [if_neg hne, if_neg he]

/-- `actor'` can stand in for `actor` in a network with id `own`. -/
structure StandsIn (own : NodeId) (actor actor' : NodeActor) : Prop where
  id : actor'.node.id = actor.node.id
  serves : ∀ k info, Serves own k info actor → Serves own k info actor'
  initialized : actor'.node.status = .initialized

/-- Replacing an actor by one that stands in for it. -/
theorem StandsIn.keeps {h : Host} {addr : Addr} {actor actor' : NodeActor}
    (hstand : StandsIn h.network.id actor actor') (hactor : h.actorAt addr = some actor)
    (outbox : List (Addr × NodeMsg)) :
    Keeps h { h with outbox, actors := h.actors.set addr.index actor' } where
  id := rfl
  raft hraft := hraft
  actors addr₁ actor₁ hactor₁ := by
    rw [actorAt_setActor hactor]
    by_cases he : addr₁ = addr
    · rw [he, hactor] at hactor₁
      obtain rfl := Option.some.inj hactor₁
      exact ⟨actor', if_pos he, hstand.id, hstand.serves⟩
    · exact ⟨actor₁, by rw [if_neg he]; exact hactor₁, rfl, fun _ _ hs => hs⟩

theorem WellFormed.setActor {h : Host} (hw : WellFormed h) {addr : Addr} {actor actor' : NodeActor}
    (hactor : h.actorAt addr = some actor) (hstand : StandsIn h.network.id actor actor')
    {outbox : List (Addr × NodeMsg)} (hout : ∀ x ∈ outbox, x ∈ h.outbox) :
    WellFormed { h with outbox, actors := h.actors.set addr.index actor' } := by
  refine hw.keeps (hstand.keeps hactor outbox) (fun _ _ hlookup => .inl hlookup)
    (fun _ _ hmem => .inl (hout _ hmem)) (fun addr₁ actor₁ h₁ => ?_)
  rw [actorAt_setActor hactor] at h₁
  split at h₁
  · rw [← Option.some.inj h₁]; exact hstand.initialized
  · exact hw.initialized addr₁ actor₁ h₁

/-- An actor that handles a message of the network goes on serving its node. -/
theorem WellFormed.standsIn_deliver {h : Host} (hw : WellFormed h) {addr : Addr} {msg : NodeMsg}
    {actor actor' : NodeActor} (hmsg : (addr, msg) ∈ h.outbox) (hactor : h.actorAt addr = some actor)
    (hstep : actor.step msg.event = .ok actor') : StandsIn h.network.id actor actor' := by
  have hnode := (NodeActor.step_cases (hw.initialized addr actor hactor) hstep).2
  have hinit := hnode.status.trans (hw.initialized addr actor hactor)
  cases msg with
  | changeClusterConfig command =>
      obtain ⟨-, rfl⟩ := hnode
      exact ⟨rfl, fun _ _ hs => hs, hinit⟩
  | updateProximity proximity =>
      obtain rfl := hnode
      -- a proximity is only ever sent to an actor of the local node, and it is a local one
      obtain ⟨⟨raft, rfl⟩, actor₁, hactor₁, hown⟩ := hw.updates _ _ hmsg
      obtain rfl := Option.some.inj (hactor₁.symm.trans hactor)
      refine ⟨rfl, fun k info hs => ?_, hinit⟩
      have hk : k = h.network.id := hs.1.symm.trans hown
      refine ⟨hs.1, ?_⟩
      rw [if_pos hk]
      exact ⟨raft, rfl⟩

/-- So does an actor that meets an event of its own. -/
theorem WellFormed.standsIn_own {h : Host} (hw : WellFormed h) {addr : Addr} {event : NodeEvent}
    {actor actor' : NodeActor} (hown : event.isOwn = true) (hactor : h.actorAt addr = some actor)
    (hstep : actor.step event = .ok actor') : StandsIn h.network.id actor actor' := by
  have hnode := (NodeActor.step_cases (hw.initialized addr actor hactor) hstep).2
  -- an event of its own never writes the proximity of an actor
  have hsame : actor'.node = actor.node := by
    rcases hnode.node with hsame | ⟨proximity, rfl, -⟩
    · exact hsame
    · cases hown
  refine ⟨by rw [hsame], fun k info hs => ?_, hnode.status.trans (hw.initialized addr actor hactor)⟩
  unfold Serves at hs ⊢
  rwa [hsame]

/-! ## Every reachable state -/

theorem AsksOn.wellFormed {h h' : Host} (hasks : h.AsksOn h') (hw : WellFormed h) : WellFormed h' := by
  obtain ⟨_, _, rfl⟩ := hasks
  exact hw.of_actors rfl id rfl (fun _ _ => .inl) (fun _ _ => .inl)

theorem Effect.wellFormed {sha256 : String → String} {h h' : Host} {e : HostEvent}
    (heff : h.Effect sha256 e h') (hw : WellFormed h) : WellFormed h' := by
  cases e with
  | configureWith seeds => rw [heff]; exact hw.configureWith sha256 seeds
  | started =>
      rw [heff]
      exact List.foldlRecOn _ _ hw fun _ hw' _ _ => hw'.startEntry _
  | message msg =>
      cases msg with
      | registerRaft raft => exact hw.registersRaft heff
      | raftMetrics now metrics =>
          obtain ⟨state, -, rfl⟩ := heff
          exact hw.of_actors rfl id rfl (fun _ _ => .inl) (fun _ _ => .inl)
      | bindEndpoint startServer =>
          obtain ⟨server, rfl⟩ := heff
          exact hw.of_actors rfl id rfl (fun _ _ => .inl) (fun _ _ => .inl)
      | query query => exact AsksOn.wellFormed heff hw
      | handleNodeStatusChange msg =>
          rw [heff]
          obtain ⟨hnodes, hraft, hid⟩ := Network.handleNodeStatusChange_frame h.network msg
          refine hw.of_actors hid (fun hr => by rwa [hraft]) rfl (fun k nodeRef hlookup => .inl ?_)
            (fun _ _ => .inl)
          rwa [hnodes] at hlookup
      | connectNode command =>
          obtain ⟨delegations, rfl⟩ := heff
          exact (hw.connected command).of_actors rfl id rfl (fun _ _ => .inl) (fun _ _ => .inl)
      | disconnectNode command =>
          rw [heff]
          refine hw.of_actors rfl id rfl (fun k nodeRef hlookup => .inl ?_) (fun _ _ => .inl)
          simp only [Network.handleDisconnectNode, NodeTable.lookup_erase] at hlookup
          split at hlookup
          · cases hlookup
          · exact hlookup
  | delegate n =>
      obtain ⟨delegations, rfl | ⟨leader, command, rfl⟩⟩ := heff
      · exact hw.of_actors rfl id rfl (fun _ _ => .inl) (fun _ _ => .inl)
      · refine hw.of_actors rfl id rfl (fun _ _ => .inl) (fun addr proximity hmem => .inl ?_)
        rcases List.mem_append.1 hmem with hold | hnew
        · exact hold
        · cases List.mem_singleton.1 hnew
  | deliver n =>
      obtain ⟨addr, msg, actor, actor', hmsg, hactor, hstep, rfl⟩ := heff
      exact hw.setActor hactor (hw.standsIn_deliver (List.mem_of_getElem? hmsg) hactor hstep)
        fun x => List.mem_of_mem_eraseIdx
  | node addr event =>
      obtain ⟨hown, actor, actor', hactor, hstep, rfl⟩ := heff
      exact hw.setActor hactor (hw.standsIn_own hown hactor hstep) fun _ hx => hx
  | wake n timer => exact AsksOn.wellFormed heff hw
  | forward n => exact AsksOn.wellFormed heff hw

theorem wellFormed_new (now : DateTime) (id : NodeId) (info : NodeInfo) (ring : Ring) :
    WellFormed (Host.new now id info ring) where
  entries k nodeRef hlookup := by
    simp only [Host.new, Network.new, NodeTable.lookup_insert] at hlookup
    split at hlookup
    · next hk =>
        obtain rfl := Option.some.inj hlookup
        exact ⟨hk.symm, ⟨info, rfl, fun addr haddr => by cases haddr⟩, fun _ haddr => by cases haddr⟩
    · simp at hlookup
  updates addr proximity hmem := by cases hmem
  initialized addr actor hactor := by simp [actorAt, Host.new] at hactor

theorem Reachable.wellFormed {sha256 : String → String} {h : Host} (hr : Reachable sha256 h) :
    WellFormed h := by
  obtain ⟨now, id, info, ring, es, hrun⟩ := hr
  exact hrun.invariant (I := WellFormed) (fun _ _ _ hw hstep => (step_cases hstep).wellFormed hw)
    (wellFormed_new now id info ring)

/-- The actor that `get_node` finds serves the node. -/
theorem WellFormed.getNode_serves {h : Host} (hw : WellFormed h) {k : NodeId} {addr : Addr}
    (haddr : h.network.getNode k = some addr) :
    ∃ actor info, h.actorAt addr = some actor ∧ Serves h.network.id k info actor := by
  obtain ⟨nodeRef, hlookup, hsome⟩ := Option.bind_eq_some_iff.1 haddr
  obtain ⟨info, -, hserved⟩ := (hw.entries k nodeRef hlookup).served
  obtain ⟨actor, hactor, hserves⟩ := hserved addr hsome
  exact ⟨actor, info, hactor, hserves⟩

/-! ## The leader's entry -/

theorem WellFormed.leaderRef_lookup {h : Host} (hw : WellFormed h) {lref : NodeRef}
    (href : h.network.leaderRef = some lref) : h.network.nodes[lref.id]? = some lref := by
  obtain ⟨metrics, -, href⟩ := Option.bind_eq_some_iff.1 href
  obtain ⟨id, -, hlookup⟩ := Option.bind_eq_some_iff.1 href
  rwa [(hw.entries id lref hlookup).keyed]

/-- What `leader_delegate` finds in a well-formed state: no leader, another node, the own node before it
    is started, or the running local node. -/
theorem WellFormed.leaderDelegate_cases {h : Host} (hw : WellFormed h) :
    (h.network.leaderRef = none ∧ h.network.leaderDelegate = .error .noElectedLeader) ∨
      ∃ lref info, h.network.leaderRef = some lref ∧ lref.info = some info ∧
        ((lref.id ≠ h.network.id ∧ h.network.leaderDelegate =
            .error (.notLeader (some lref.id) (some info.clusterAddress))) ∨
          (lref.id = h.network.id ∧ lref.addr = none ∧
            h.network.leaderDelegate = .error (.unknown "Local leader node is not started")) ∨
          (lref.id = h.network.id ∧ ∃ addr actor, lref.addr = some addr ∧
            h.actorAt addr = some actor ∧ Serves h.network.id h.network.id info actor ∧
            h.network.leaderDelegate = .ok addr)) := by
  unfold Network.leaderDelegate
  cases href : h.network.leaderRef with
  | none => exact .inl ⟨rfl, rfl⟩
  | some lref =>
      obtain ⟨info, hinfo, hserved⟩ := (hw.entries lref.id lref (hw.leaderRef_lookup href)).served
      refine .inr ⟨lref, info, rfl, hinfo, ?_⟩
      by_cases hown : lref.id = h.network.id
      · refine .inr ?_
        cases haddr : lref.addr with
        | none => exact .inl ⟨hown, rfl, by simp [Network.leaderError, hown, haddr]⟩
        | some addr =>
            obtain ⟨actor, hactor, hserves⟩ := hserved addr haddr
            rw [hown] at hserves
            exact .inr ⟨hown, addr, actor, rfl, hactor, hserves, by simp [hown, haddr]⟩
      · refine .inl ⟨hown, ?_⟩
        have herror : h.network.leaderError lref =
            .notLeader (some lref.id) (some info.clusterAddress) := by
          simp [Network.leaderError, Ne.symm hown, hinfo]
        cases haddr : lref.addr <;> simp [hown, herror, haddr]

/-! ## Every step keeps the actors -/

theorem startEntry_keeps (h : Host) (entry : NodeId × NodeRef) : Keeps h (h.startEntry entry) := by
  unfold Host.startEntry
  split
  · exact registered_keeps _ _ _
  · exact .refl h

theorem AsksOn.keeps {h h' : Host} (hasks : h.AsksOn h') : Keeps h h' := by
  obtain ⟨_, _, rfl⟩ := hasks
  exact .of_actors rfl id rfl

theorem Effect.keeps {sha256 : String → String} {h h' : Host} {e : HostEvent}
    (heff : h.Effect sha256 e h') (hw : WellFormed h) : Keeps h h' := by
  cases e with
  | configureWith seeds =>
      rw [heff, Network.configureWith_eq]
      exact .of_actors rfl id rfl
  | started =>
      rw [heff]
      exact List.foldlRecOn (motive := fun h' : Host => Keeps h h') _ _ (.refl h)
        fun h' hk entry _ => hk.trans (startEntry_keeps h' entry)
  | message msg =>
      cases msg with
      | registerRaft raft =>
          have hraft : Keeps h (h.withRaft raft) := .of_actors rfl (fun _ => rfl) rfl
          obtain ⟨_, info, -, -, ⟨addr, -, rfl⟩ | ⟨-, rfl⟩⟩ := hw.registersRaft_cases heff
          · exact hraft.trans (.of_actors rfl id rfl)
          · exact hraft.trans (registered_keeps _ _ _)
      | raftMetrics now metrics => obtain ⟨state, -, rfl⟩ := heff; exact .of_actors rfl id rfl
      | bindEndpoint startServer => obtain ⟨server, rfl⟩ := heff; exact .of_actors rfl id rfl
      | query query => exact AsksOn.keeps heff
      | handleNodeStatusChange msg =>
          rw [heff, Network.handleNodeStatusChange_eq]
          exact .of_actors rfl id rfl
      | connectNode command =>
          obtain ⟨delegations, rfl⟩ := heff
          suffices hconn : Keeps h (h.connected command) from ⟨hconn.id, hconn.raft, hconn.actors⟩
          unfold connected
          split
          · exact .refl h
          · exact registered_keeps _ _ _
      | disconnectNode command => rw [heff]; exact .of_actors rfl id rfl
  | delegate n =>
      obtain ⟨delegations, rfl | ⟨leader, command, rfl⟩⟩ := heff <;> exact .of_actors rfl id rfl
  | deliver n =>
      obtain ⟨addr, msg, actor, actor', hmsg, hactor, hstep, rfl⟩ := heff
      exact (hw.standsIn_deliver (List.mem_of_getElem? hmsg) hactor hstep).keeps hactor _
  | node addr event =>
      obtain ⟨hown, actor, actor', hactor, hstep, rfl⟩ := heff
      exact (hw.standsIn_own hown hactor hstep).keeps hactor _
  | wake n timer => exact AsksOn.keeps heff
  | forward n => exact AsksOn.keeps heff

end Host

end RaftScaffold
