import RaftScaffold.Storage.Snapshots
import RaftScaffold.Transition.Exchange

set_option autoImplicit false

/-! # Snapshots between storages

A Raft actor that has been told of a snapshot reads its file and sends it to other Raft actors, whose storages
install it, and rebuild their state machines from it, and may send it on. By the time a file is read its storage
may have other snapshots, and may have written this one again; on the way a snapshot may be lost, delayed,
overtaken by others or delivered twice.

Each storage has a file system of its own: no two of them write the same files. A file is read in one step, so its
storage does not write it while it is sent.

If the disks work and what a storage is asked to install arrives, every state machine is rebuilt from entries that
some storage had in its log when it was asked for a snapshot (`snapshots_transfer`). -/

namespace RaftScaffold

open Transition

/-! ## Sending -/

/-- A snapshot that is sent: its place in the log and what is in its file. -/
structure SentSnapshot where
  term : UInt64
  index : UInt64
  text : List UInt8
  deriving DecidableEq, Repr

/-- A store, with the snapshots that were current at some time. These are the ones that `GetCurrentSnapshot` and
    `CreateSnapshot` tell its Raft actor of. -/
structure StorePeer where
  store : Store
  published : List CurrentSnapshotData

/-- The two actors of the store take a step, or the file of a snapshot is read. -/
inductive StorePeerEvent where
  | store (e : StoreEvent)
  | send (n : Nat)

namespace StorePeer

def new (store : Store) : StorePeer := { store, published := [] }

def step (cbor : Cbor (List StorageEntry)) (self : StorePeer) : StorePeerEvent → Except Halt StorePeer
  | .store e => do
      let store ← self.store.step cbor e
      .ok { store, published := self.published ++ store.storage.snapshotData.toList }
  | .send n => if n < self.published.length then .ok self else .error .notEnabled

/-- What is sent when a file is read. -/
def sends (self : StorePeer) : StorePeerEvent → List SentSnapshot
  | .store _ => []
  | .send n =>
      (self.published[n]?.bind fun d =>
        (self.store.files d.pointer.path).map fun text => { term := d.term, index := d.index, text }).toList

abbrev Step (cbor : Cbor (List StorageEntry)) : StorePeer → StorePeerEvent → StorePeer → Prop :=
  StepOf (step cbor)

end StorePeer

/-- What a peer does by itself: the disk works, and no snapshot is installed but those that it receives. -/
def StorePeerEvent.IsOwn : StorePeerEvent → Prop
  | .store (.message (.installSnapshot _)) => False
  | .store (.snapshotActor disk) => disk.Sound
  | _ => True

/-- Storages that send each other snapshots. To whom a snapshot was sent does not matter: any storage may
    receive it. -/
abbrev StoreCluster (ι : Type) := Exchange ι StorePeer SentSnapshot

abbrev StoreClusterEvent (ι : Type) := ExchangeEvent ι StorePeerEvent SentSnapshot

/-- A snapshot is received in chunks. -/
def StorePeer.Receives (cbor : Cbor (List StorageEntry)) (self : StorePeer) (m : SentSnapshot) (self' : StorePeer) :
    Prop :=
  ∃ msg : InstallSnapshot, msg.term = m.term ∧ msg.index = m.index ∧ msg.Brings m.text ∧
    Step cbor self (.store (.message (.installSnapshot msg))) self'

def StoreClusterStep {ι : Type} [DecidableEq ι] (cbor : Cbor (List StorageEntry)) :
    StoreCluster ι → StoreClusterEvent ι → StoreCluster ι → Prop :=
  ExchangeStep (fun p e p' => e.IsOwn ∧ StorePeer.Step cbor p e p') StorePeer.sends (StorePeer.Receives cbor)

/-! ## Peers -/

section Peers

variable {cbor : Cbor (List StorageEntry)} {P : List StorageEntry → Prop} {p p' : StorePeer}

/-- A file that is kept is kept by every step of an intact store. -/
theorem Store.Intact.holds_step {s s' : Store} {e : StoreEvent} {P : UInt64 → List StorageEntry → Prop}
    (hs : s.Intact cbor P) (hsound : s.Sound cbor P e) (hstep : s.step cbor e = .ok s') :
    s'.snapshotActor = s.snapshotActor ∧
      ∀ i, s.files.Holds cbor P s.snapshotActor.dir i → s'.files.Holds cbor P s.snapshotActor.dir i := by
  have heff := step_cases hstep
  cases e with
  | message msg =>
      obtain ⟨storage, outcome, -, rfl⟩ := heff
      rw [proceed_snapshotActor, proceed_files]
      exact ⟨rfl, fun _ hi => hi⟩
  | snapshotActor disk =>
      obtain ⟨task, mailbox, hmailbox, rfl⟩ := heff
      have htask := hs.mailbox task (by rw [hmailbox]; exact List.mem_cons_self)
      exact ⟨rfl, (SnapshotActor.handle_intact hsound htask).1⟩
  | resume n =>
      obtain ⟨answer, storage, outcome, -, -, rfl⟩ := heff
      rw [proceed_snapshotActor, proceed_files]
      exact ⟨rfl, fun _ hi => hi⟩

namespace StorePeer

/-- The store is intact, and so are the files of the snapshots that were current. -/
structure Intact (cbor : Cbor (List StorageEntry)) (P : List StorageEntry → Prop) (p : StorePeer) : Prop where
  store : p.store.Intact cbor fun _ => P
  published : ∀ d ∈ p.published, ∃ i, d.pointer.path = snapshotPath p.store.snapshotActor.dir i ∧
    p.store.files.Holds cbor (fun _ => P) p.store.snapshotActor.dir i

theorem Intact.step_store (hcbor : cbor.Lawful) (hp : p.Intact cbor P) {e : StoreEvent}
    (hsound : p.store.Sound cbor (fun _ => P) e) (hstep : Step cbor p (.store e) p') : p'.Intact cbor P := by
  obtain ⟨store, hstore, hok⟩ := bind_eq_ok.1 hstep
  obtain rfl := Except.ok.inj hok
  have hintact := hp.store.step hcbor hsound hstore
  obtain ⟨hactor, hfiles⟩ := hp.store.holds_step hsound hstore
  refine ⟨hintact, fun d hd => ?_⟩
  rcases List.mem_append.1 hd with hold | hnew
  · obtain ⟨i, hpath, hholds⟩ := hp.published d hold
    rw [hactor]
    exact ⟨i, hpath, hfiles i hholds⟩
  · exact hintact.snapshotData d (Option.mem_toList.1 hnew)

/-- What an intact peer reads satisfies `P`. -/
theorem Intact.read (hp : p.Intact cbor P) {d : CurrentSnapshotData} (hd : d ∈ p.published) :
    ∃ text entries, p.store.files d.pointer.path = some text ∧ cbor.fromSlice text = .ok entries ∧ P entries := by
  obtain ⟨i, hpath, text, entries, hfile, htext, hP⟩ := hp.published d hd
  exact ⟨text, entries, by rwa [hpath], htext, hP⟩

theorem Intact.sends (hp : p.Intact cbor P) {e : StorePeerEvent} {m : SentSnapshot} (hm : m ∈ p.sends e) :
    ∃ entries, cbor.fromSlice m.text = .ok entries ∧ P entries := by
  cases e with
  | store e => cases hm
  | send n =>
      obtain ⟨d, hd, hread⟩ := Option.bind_eq_some_iff.1 (Option.mem_toList.1 hm)
      obtain ⟨text, hfile, rfl⟩ := Option.map_eq_some_iff.1 hread
      obtain ⟨text', entries, hfile', htext, hP⟩ := hp.read (List.mem_of_getElem? hd)
      obtain rfl := Option.some.inj (hfile.symm.trans hfile')
      exact ⟨entries, htext, hP⟩

/-- A snapshot that a peer is asked for satisfies `P`. -/
def Creates (P : List StorageEntry → Prop) (p : StorePeer) : StorePeerEvent → Prop
  | .store (.message (.createSnapshot through)) => P (p.store.storage.snapshotEntries through)
  | _ => True

theorem Intact.step_own (hcbor : cbor.Lawful) (hp : p.Intact cbor P) {e : StorePeerEvent} (hown : e.IsOwn)
    (hcreates : p.Creates P e) (hstep : Step cbor p e p') : p'.Intact cbor P := by
  cases e with
  | store e =>
      refine hp.step_store hcbor ?_ hstep
      cases e with
      | message msg =>
          cases msg with
          | createSnapshot through => exact hcreates
          | installSnapshot msg => exact hown.elim
          | _ => trivial
      | snapshotActor disk => exact hown
      | resume n => trivial
  | send n =>
      simp only [Step, stepOf_iff, step] at hstep
      split at hstep
      · rwa [← Except.ok.inj hstep]
      · cases hstep

theorem Intact.receives (hcbor : cbor.Lawful) (hp : p.Intact cbor P) {m : SentSnapshot}
    (hm : ∃ entries, cbor.fromSlice m.text = .ok entries ∧ P entries) (hreceives : p.Receives cbor m p') :
    p'.Intact cbor P := by
  obtain ⟨entries, htext, hP⟩ := hm
  obtain ⟨msg, -, -, hbrings, hstep⟩ := hreceives
  have hsound : p.store.Sound cbor (fun _ => P) (.message (.installSnapshot msg)) :=
    ⟨m.text, entries, hbrings, htext, hP⟩
  exact hp.step_store hcbor hsound hstep

end StorePeer

end Peers

/-! ## The cluster -/

/-- Some storage was asked for a snapshot when it had these entries in its log. -/
def CreatedAlong {ι : Type} [DecidableEq ι] (cbor : Cbor (List StorageEntry)) (s₀ : StoreCluster ι)
    (es : List (StoreClusterEvent ι)) (entries : List StorageEntry) : Prop :=
  ∃ pre i through s, pre ++ [.own i (.store (.message (.createSnapshot through)))] <+: es ∧
    Runs (StoreClusterStep cbor) s₀ pre s ∧ (s.machines i).store.storage.snapshotEntries through = entries

/-- **A snapshot that is read anywhere was created somewhere.** In every run of a cluster of new storages that share no
    files, whose disks work, and that write no file while it is read to be sent, whatever the storages do and in
    whatever order, wherever snapshots are sent, lost, delayed, delivered twice or sent on, and in whatever order
    their chunks arrive: no request for a snapshot fails, every state machine is only rebuilt from entries that a
    storage of the cluster had in its log when it was asked for a snapshot, and every snapshot that was ever current
    has a file that decodes to such entries. -/
theorem snapshots_transfer {ι : Type} [DecidableEq ι] (cbor : Cbor (List StorageEntry)) (hcbor : cbor.Lawful)
    (stores : ι → Store)
    (hnew : ∀ i, ∃ (factory : MemoryStorageFactory) (files : Files), factory.create files = .ok (stores i))
    (es : List (StoreClusterEvent ι)) (s : StoreCluster ι)
    (hrun : Runs (StoreClusterStep cbor) { machines := fun i => .new (stores i), sent := [] } es s) (i : ι) :
    let created := CreatedAlong cbor { machines := fun i => .new (stores i), sent := [] } es
    (∀ e reply, (s.machines i).store.reply cbor e = some reply → ¬ reply.SnapshotFailed) ∧
    (∀ e, (s.machines i).store.RebuildsFrom (fun _ => created) e) ∧
    ∀ d ∈ (s.machines i).published, ∃ text entries, (s.machines i).store.files d.pointer.path = some text ∧
      cbor.fromSlice text = .ok entries ∧ created entries := by
  intro created
  have hguard : GuardedAlong (StoreClusterStep cbor)
      (fun s event => ∀ i e, event = .own i e → (s.machines i).Creates created e)
      { machines := fun i => .new (stores i), sent := [] } es := by
    rintro pre _ s' s'' hpre hrun' - j e rfl
    cases e with
    | store e =>
        cases e with
        | message msg =>
            cases msg with
            | createSnapshot through => exact ⟨pre, j, through, s', hpre, hrun', rfl⟩
            | _ => trivial
        | _ => trivial
    | send n => trivial
  have hinit : ∀ i, (StorePeer.new (stores i)).Intact cbor created := by
    intro i
    obtain ⟨factory, files, hcreate⟩ := hnew i
    obtain ⟨members, c, -, -, heq⟩ := MemoryStorageFactory.create_eq_ok hcreate
    exact ⟨heq ▸ .new members c.snapshotDir files, nofun⟩
  obtain ⟨hmachines, -⟩ := exchange_invariant_of_guarded (P := fun _ p => p.Intact cbor created)
    (Q := fun m => ∃ entries, cbor.fromSlice m.text = .ok entries ∧ created entries)
    (C := StorePeer.Creates created)
    (fun _ _ _ _ hp hcreates hstep => ⟨hp.step_own hcbor hstep.1 hcreates hstep.2, fun _ hm => hp.sends hm⟩)
    (fun _ _ _ _ hp hm hreceives => hp.receives hcbor hm hreceives) hrun hguard hinit nofun
  exact ⟨fun e reply hreply => (hmachines i).store.reply hcbor hreply, (hmachines i).store.rebuildsFrom,
    fun d hd => (hmachines i).read hd⟩

namespace Store

/-- Storage `false` creates a snapshot and sends it, storage `true` receives and reads it. -/
def sampleTransfer : List (StoreClusterEvent Bool) :=
  [.own false (.store (.message (.appendEntryToLog (sampleEntry 1)))),
    .own false (.store (.message (.createSnapshot 1))),
    .own false (.store (.snapshotActor .working)),
    .own false (.store (.resume 0)),
    .own false (.send 0),
    .receive true { term := 1, index := 1, text := sampleText },
    .own true (.store (.snapshotActor .working)),
    .own true (.store (.resume 0)),
    .own true (.store (.snapshotActor .working))]

theorem snapshots_transfer_sample :
    ∃ s : StoreCluster Bool,
      Runs (StoreClusterStep sampleCbor) { machines := fun _ => .new sampleNew, sent := [] } sampleTransfer s ∧
      (s.machines true).store.answers[0]? = some (.deserialized "/data/snapshots/1" (.ok [sampleEntry 1])) ∧
      CreatedAlong sampleCbor { machines := fun _ => .new sampleNew, sent := [] } sampleTransfer [sampleEntry 1] := by
  obtain ⟨s, hrun, hanswer⟩ : ∃ s : StoreCluster Bool,
      Runs (StoreClusterStep sampleCbor) { machines := fun _ => .new sampleNew, sent := [] } sampleTransfer s ∧
        (s.machines true).store.answers[0]? = some (.deserialized "/data/snapshots/1" (.ok [sampleEntry 1])) := by
    refine ⟨_, .cons (.own ⟨trivial, step_finalState rfl⟩) (.cons (.own ⟨trivial, step_finalState rfl⟩)
      (.cons (.own ⟨Disk.sound_working, step_finalState rfl⟩) (.cons (.own ⟨trivial, step_finalState rfl⟩)
      (.cons (.own ⟨trivial, step_finalState rfl⟩)
      (.cons (.receive ?_ ⟨sampleInstallSnapshot, rfl, rfl, sampleInstallSnapshot_brings, step_finalState rfl⟩)
      (.cons (.own ⟨Disk.sound_working, step_finalState rfl⟩) (.cons (.own ⟨trivial, step_finalState rfl⟩)
      (.cons (.own ⟨Disk.sound_working, step_finalState rfl⟩) (.nil _))))))))), ?_⟩
    · decide +kernel
    · decide +kernel
  obtain ⟨-, hrebuilds, -⟩ := snapshots_transfer sampleCbor sampleCbor_lawful (fun _ : Bool => sampleNew)
    (fun _ => ⟨sampleFactory, fun _ => none, rfl⟩) sampleTransfer s hrun true
  obtain ⟨i, entries, -, hentries, hcreated, -⟩ := hrebuilds (.resume 0) _ _ hanswer
  exact ⟨s, hrun, hanswer, Except.ok.inj hentries ▸ hcreated⟩

end Store

end RaftScaffold
