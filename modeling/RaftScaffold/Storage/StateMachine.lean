import RaftScaffold.Storage.Steps

set_option autoImplicit false

/-! # The state machine of the storage

"State machine entries are not allowed to be overwritten": an entry whose index was applied before is answered with
an error, but by then it has overwritten the earlier one. Unless the state machine is rebuilt from a snapshot, every
apply is answered with `Ok` exactly if no index is applied twice, and then nothing was overwritten
(`appliesOk_iff`). -/

namespace RaftScaffold

open Transition

namespace EntryMap

/-- The indices of the entries differ, and the map has none of them. -/
def Fresh (m : EntryMap) (entries : List StorageEntry) : Prop :=
  (entries.map Entry.index).Nodup ∧ ∀ e ∈ entries, m[e.index]? = none

theorem lookup_index_eq_none {entries : List StorageEntry} {k : UInt64} :
    Keyed.lookup Entry.index entries k = none ↔ k ∉ entries.map Entry.index := by
  rw [Keyed.lookup, List.find?_eq_none]
  simp

theorem fresh_nil (m : EntryMap) : m.Fresh [] := ⟨List.nodup_nil, nofun⟩

theorem fresh_singleton {m : EntryMap} {e : StorageEntry} : m.Fresh [e] ↔ m[e.index]? = none := by
  rw [Fresh, List.forall_mem_singleton]
  exact and_iff_right (List.nodup_singleton _)

/-- **Entries are fresh** if the first ones are, and the others once the first ones were inserted. -/
theorem fresh_append {m : EntryMap} {entries entries' : List StorageEntry} :
    m.Fresh (entries ++ entries') ↔ m.Fresh entries ∧ (m.insertAll entries).Fresh entries' := by
  have hinsert : ∀ e : StorageEntry, (m.insertAll entries)[e.index]? = none ↔
      e.index ∉ entries.map Entry.index ∧ m[e.index]? = none := by
    intro e
    rw [getElem?_insertAll, Option.or_eq_none_iff, lookup_index_eq_none]
  simp only [Fresh, List.map_append, List.nodup_append', List.forall_mem_append, hinsert]
  constructor
  · rintro ⟨⟨hnodup, hnodup', hdisjoint⟩, hnone, hnone'⟩
    refine ⟨⟨hnodup, hnone⟩, hnodup', fun e he => ⟨fun hmem => ?_, hnone' e he⟩⟩
    exact hdisjoint hmem (List.mem_map_of_mem he)
  · rintro ⟨⟨hnodup, hnone⟩, hnodup', hnew⟩
    refine ⟨⟨hnodup, hnodup', fun k hmem hmem' => ?_⟩, hnone, fun e he => (hnew e he).2⟩
    obtain ⟨e, he, rfl⟩ := List.mem_map.1 hmem'
    exact (hnew e he).1 hmem

theorem fresh_cons {m : EntryMap} {e : StorageEntry} {entries : List StorageEntry} :
    m.Fresh (e :: entries) ↔ m[e.index]? = none ∧ Fresh (m.insert e.index e) entries := by
  rw [← List.singleton_append, fresh_append, fresh_singleton]
  rfl

/-- Inserting fresh entries overwrites none. -/
theorem Fresh.insertAll_eq_some {m : EntryMap} {entries : List StorageEntry} (hfresh : m.Fresh entries) {k : UInt64}
    {e : StorageEntry} : (m.insertAll entries)[k]? = some e ↔ m[k]? = some e ∨ e ∈ entries ∧ e.index = k := by
  have hinj : Set.InjOn Entry.index {e | e ∈ entries} := List.inj_on_of_nodup_map hfresh.1
  rw [getElem?_insertAll]
  cases hlookup : Keyed.lookup Entry.index entries k with
  | none =>
      rw [Option.none_or]
      refine (or_iff_left fun ⟨hmem, hk⟩ => ?_).symm
      exact lookup_index_eq_none.1 hlookup (hk ▸ List.mem_map_of_mem hmem)
  | some e' =>
      obtain ⟨hmem, rfl⟩ := Keyed.mem_of_lookup hlookup
      rw [Option.some_or, hfresh.2 e' hmem]
      constructor
      · intro heq
        rw [← Option.some.inj heq]
        exact .inr ⟨hmem, rfl⟩
      · rintro (hnone | ⟨hmem', hindex⟩)
        · cases hnone
        · rw [hinj hmem' hmem hindex]

end EntryMap

/-! ## Applying entries -/

namespace MemoryStorage

/-- **Entries are applied with `Ok`** exactly if they are fresh, and then all of them are. -/
theorem handleReplicateToStateMachine_ok (self : MemoryStorage) (entries : List StorageEntry) :
    ((self.handleReplicateToStateMachine entries).2 = .ok () ↔ EntryMap.Fresh self.stateMachine entries) ∧
      (EntryMap.Fresh self.stateMachine entries → (self.handleReplicateToStateMachine entries).1.stateMachine =
        EntryMap.insertAll self.stateMachine entries) := by
  induction entries generalizing self with
  | nil => exact ⟨iff_of_true rfl (EntryMap.fresh_nil _), fun _ => rfl⟩
  | cons e entries ih =>
      rw [EntryMap.fresh_cons]
      unfold handleReplicateToStateMachine
      rw [handleApplyEntryToStateMachine_eq]
      cases hold : self.stateMachine[e.index]? with
      | some old =>
          have herror : (Except.error {} : Except MemoryStorageError Unit) ≠ .ok () := by simp
          exact ⟨iff_of_false herror fun h => absurd h.1 (Option.some_ne_none old),
            fun h => absurd h.1 (Option.some_ne_none old)⟩
      | none =>
          obtain ⟨hok, hinsert⟩ := ih { self with stateMachine := self.stateMachine.insert e.index e }
          exact ⟨hok.trans (and_iff_right rfl).symm, fun h => hinsert h.2⟩

end MemoryStorage

/-- The reply says that all entries of an apply were applied. -/
def StorageReply.Applied : StorageReply → Prop
  | .entryApplied (.error _) => False
  | .entriesApplied (.error _) => False
  | _ => True

def RequestKind.applies : RequestKind → Bool
  | .apply => true
  | .replicateToStateMachine => true
  | _ => false

theorem StorageReply.applied_of_kind {reply : StorageReply} (hkind : reply.kind.applies = false) :
    reply.Applied := by
  cases reply with
  | entryApplied result => cases hkind
  | entriesApplied result => cases hkind
  | _ => trivial

/-- A message that is no apply leaves the state machine as it is. -/
theorem MemoryStorage.handle_noApply {self self' : MemoryStorage} {cbor : Cbor (List StorageEntry)}
    {msg : StorageMsg} {outcome : StorageOutcome} (hhandle : self.handle cbor msg = .ok (self', outcome))
    (hmsg : msg.toApply = []) (hkind : msg.kind.applies = false) :
    ((∀ reply, outcome.reply? = some reply → reply.Applied) ↔ EntryMap.Fresh self.stateMachine msg.toApply) ∧
      (EntryMap.Fresh self.stateMachine msg.toApply →
        self'.stateMachine = EntryMap.insertAll self.stateMachine msg.toApply) := by
  obtain ⟨applied, hprefix, heq⟩ := (handle_handled hhandle).stateMachine
  rw [hmsg] at hprefix ⊢
  obtain rfl := List.prefix_nil.1 hprefix
  refine ⟨iff_of_true (fun reply hreply => ?_) (EntryMap.fresh_nil _), fun _ => heq⟩
  refine StorageReply.applied_of_kind ?_
  rwa [StorageOutcome.reply?_kind hreply, handle_kind hhandle]

/-- **A message that applies entries** is answered with `Ok` exactly if they are fresh. -/
theorem MemoryStorage.handle_applied {self self' : MemoryStorage} {cbor : Cbor (List StorageEntry)} {msg : StorageMsg}
    {outcome : StorageOutcome} (hhandle : self.handle cbor msg = .ok (self', outcome)) :
    ((∀ reply, outcome.reply? = some reply → reply.Applied) ↔ EntryMap.Fresh self.stateMachine msg.toApply) ∧
      (EntryMap.Fresh self.stateMachine msg.toApply →
        self'.stateMachine = EntryMap.insertAll self.stateMachine msg.toApply) := by
  cases msg with
  | applyEntryToStateMachine payload =>
      simp only [handle, handleApplyEntryToStateMachine_eq, Except.ok.injEq, Prod.mk.injEq] at hhandle
      obtain ⟨rfl, rfl⟩ := hhandle
      refine ⟨?_, fun _ => rfl⟩
      rw [StorageMsg.toApply, EntryMap.fresh_singleton]
      cases hold : self.stateMachine[payload.index]? with
      | none => exact iff_of_true (fun _ h => Option.some.inj h ▸ trivial) rfl
      | some old => exact iff_of_false (fun h => h _ rfl) (Option.some_ne_none old)
  | replicateToStateMachine payload =>
      obtain ⟨hok, hinsert⟩ := self.handleReplicateToStateMachine_ok payload
      obtain ⟨rfl, rfl⟩ := Prod.mk.inj (Except.ok.inj hhandle)
      refine ⟨Iff.trans ?_ hok, hinsert⟩
      cases (self.handleReplicateToStateMachine payload).2 <;>
        simp [StorageOutcome.reply?, StorageReply.Applied]
  | _ => exact handle_noApply hhandle rfl rfl

def StoreEvent.toApply : StoreEvent → List StorageEntry
  | .message msg => msg.toApply
  | _ => []

namespace Store

/-- A step that applies entries is answered with `Ok`. -/
def AppliesOk (cbor : Cbor (List StorageEntry)) (s : Store) (e : StoreEvent) : Prop :=
  ∀ reply, s.reply cbor e = some reply → reply.Applied

/-- A step that does not rebuild the state machine. -/
def NoRebuild (s : Store) : StoreEvent → Prop
  | .resume n => ∀ path entries, s.answers[n]? ≠ some (.deserialized path (.ok entries))
  | _ => True

variable {cbor : Cbor (List StorageEntry)} {s s' : Store} {e : StoreEvent}

theorem appliesOk_step (hstep : s.step cbor e = .ok s') (hkeeps : s.NoRebuild e) :
    (s.AppliesOk cbor e ↔ EntryMap.Fresh s.storage.stateMachine e.toApply) ∧
      (EntryMap.Fresh s.storage.stateMachine e.toApply →
        s'.storage.stateMachine = EntryMap.insertAll s.storage.stateMachine e.toApply) := by
  have heff := step_cases hstep
  cases e with
  | message msg =>
      obtain ⟨storage, outcome, hhandle, rfl⟩ := heff
      rw [proceed_storage, AppliesOk, reply, hhandle]
      exact MemoryStorage.handle_applied hhandle
  | snapshotActor disk =>
      obtain ⟨task, mailbox, -, rfl⟩ := heff
      exact ⟨iff_of_true nofun (EntryMap.fresh_nil _), fun _ => rfl⟩
  | resume n =>
      obtain ⟨answer, storage, outcome, hanswer, hresume, rfl⟩ := heff
      have hresumed := MemoryStorage.resume_cases hresume
      rw [proceed_storage, AppliesOk, reply, hanswer, Option.bind_some, hresume]
      refine ⟨iff_of_true (fun reply hreply => ?_) (EntryMap.fresh_nil _), fun _ => ?_⟩
      · refine StorageReply.applied_of_kind ?_
        rw [StorageOutcome.reply?_kind hreply, hresumed.kind]
        cases answer <;> rfl
      · refine hresumed.stateMachine fun path entries heq => ?_
        exact hkeeps path entries (heq ▸ hanswer)

theorem appliesOk_of_runs {es : List StoreEvent} (hrun : Runs (Step cbor) s es s')
    (hkeeps : GuardedAlong (Step cbor) NoRebuild s es) :
    (GuardedAlong (Step cbor) (AppliesOk cbor) s es ↔
      EntryMap.Fresh s.storage.stateMachine (es.flatMap StoreEvent.toApply)) ∧
    (EntryMap.Fresh s.storage.stateMachine (es.flatMap StoreEvent.toApply) → s'.storage.stateMachine =
      EntryMap.insertAll s.storage.stateMachine (es.flatMap StoreEvent.toApply)) := by
  induction hrun with
  | nil s => exact ⟨iff_of_true (fun _ _ _ _ hpre => by simp at hpre) (EntryMap.fresh_nil _), fun _ => rfl⟩
  | @cons s s₁ s₂ e es hstep _ ih =>
      obtain ⟨hfirst, hrest⟩ := guardedAlong_cons.1 hkeeps _ hstep
      obtain ⟨hok, hinsert⟩ := appliesOk_step hstep hfirst
      obtain ⟨hoks, hinserts⟩ := ih hrest
      rw [List.flatMap_cons, EntryMap.fresh_append]
      refine ⟨⟨fun hguard => ?_, ?_⟩, ?_⟩
      · obtain ⟨happlies, hguard⟩ := guardedAlong_cons.1 hguard _ hstep
        have hfresh := hok.1 happlies
        exact ⟨hfresh, hinsert hfresh ▸ hoks.1 hguard⟩
      · rintro ⟨hfresh, hfresh'⟩
        refine guardedAlong_cons.2 fun s' hstep' => ?_
        obtain rfl := Except.ok.inj (hstep.symm.trans hstep')
        exact ⟨hok.2 hfresh, hoks.2 (hinsert hfresh ▸ hfresh')⟩
      · rintro ⟨hfresh, hfresh'⟩
        rw [hinserts (hinsert hfresh ▸ hfresh'), hinsert hfresh]
        exact List.foldl_append.symm

/-- **No index is applied twice** exactly if every apply is answered with `Ok`. In every run in which the state machine
    is not rebuilt, all applies are answered with `Ok` if and only if the indices of the entries that they apply differ
    from each other and from those that the state machine has; and then it has in the end the entries that it had and
    all those that were applied. -/
theorem appliesOk_iff (cbor : Cbor (List StorageEntry)) (s s' : Store) (es : List StoreEvent)
    (hrun : Runs (Step cbor) s es s') (hkeeps : GuardedAlong (Step cbor) NoRebuild s es) :
    (GuardedAlong (Step cbor) (AppliesOk cbor) s es ↔
      EntryMap.Fresh s.storage.stateMachine (es.flatMap StoreEvent.toApply)) ∧
    (EntryMap.Fresh s.storage.stateMachine (es.flatMap StoreEvent.toApply) → ∀ (k : UInt64) (entry : StorageEntry),
      s'.storage.stateMachine[k]? = some entry ↔ s.storage.stateMachine[k]? = some entry ∨
        entry ∈ es.flatMap StoreEvent.toApply ∧ entry.index = k) := by
  obtain ⟨hok, hinsert⟩ := appliesOk_of_runs hrun hkeeps
  refine ⟨hok, fun hfresh k entry => ?_⟩
  rw [hinsert hfresh]
  exact hfresh.insertAll_eq_some

def sampleApplied : List StoreEvent :=
  [.message (.applyEntryToStateMachine (sampleEntry 1)),
    .message (.replicateToStateMachine [sampleEntry 2, sampleEntry 3])]

theorem appliesOk_iff_sample : GuardedAlong (Step sampleCbor) (AppliesOk sampleCbor) sampleNew sampleApplied ∧
    (sampleRun sampleApplied).storage.stateMachine[(3 : UInt64)]? = some (sampleEntry 3) := by
  obtain ⟨hok, hentries⟩ := appliesOk_iff sampleCbor sampleNew _ sampleApplied (runs_sampleRun rfl)
    (guardedAlong_of_forall (by simp [sampleApplied, NoRebuild]))
  have hfresh : EntryMap.Fresh sampleNew.storage.stateMachine (sampleApplied.flatMap StoreEvent.toApply) :=
    ⟨by decide, fun e _ => Std.ExtTreeMap.getElem?_empty⟩
  exact ⟨hok.2 hfresh, (hentries hfresh 3 (sampleEntry 3)).2 (.inr (by decide))⟩

end Store

end RaftScaffold
