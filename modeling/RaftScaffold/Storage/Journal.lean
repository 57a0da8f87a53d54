import Mathlib.Logic.Function.Basic
import Mathlib.Order.Lattice

set_option autoImplicit false

/-! # Journals that are compacted

A journal has at most one entry under each key. Writing an entry replaces the one that its key had; compacting a
journal at a key drops what is before it and leaves one entry in its place. What a journal has under a key is what
the last operation that settles the key has left there (`replay_of_last`). What was before the last compaction
comes back only if it is written again (`replay_compacted`). -/

namespace Journal

variable {κ ε : Type*}

/-- An operation on a journal. -/
inductive Op (κ ε : Type*) where
  | write (key : κ) (entry : ε)
  | compact (key : κ) (entry : ε)
  deriving DecidableEq, Repr

namespace Op

def key : Op κ ε → κ
  | .write key _ => key
  | .compact key _ => key

def entry : Op κ ε → ε
  | .write _ entry => entry
  | .compact _ entry => entry

variable [LinearOrder κ]

def apply (op : Op κ ε) (journal : κ → Option ε) : κ → Option ε :=
  match op with
  | .write key entry => Function.update journal key (some entry)
  | .compact key entry => Function.update (fun k => if k < key then none else journal k) key (some entry)

/-- The operation determines what is under the key, whatever was there. -/
def Settles (op : Op κ ε) (k : κ) : Prop :=
  match op with
  | .write key _ => k = key
  | .compact key _ => k ≤ key

/-- The operation writes an entry after the key `p`. -/
def WritesAfter (op : Op κ ε) (p : κ) : Prop :=
  match op with
  | .write key _ => p < key
  | .compact _ _ => False

/-- What it leaves there. -/
def leaves (op : Op κ ε) (k : κ) : Option ε := if k = op.key then some op.entry else none

theorem settles_key (op : Op κ ε) : op.Settles op.key := by
  cases op with
  | write key entry => rfl
  | compact key entry => exact le_refl key

theorem apply_of_settles {op : Op κ ε} {k : κ} (hsettles : op.Settles k) (journal : κ → Option ε) :
    op.apply journal k = op.leaves k := by
  cases op with
  | write key entry =>
      obtain rfl : k = key := hsettles
      simp [apply, leaves, Op.key, Op.entry]
  | compact key entry =>
      rcases lt_or_eq_of_le (show k ≤ key from hsettles) with hlt | rfl
      · simp [apply, leaves, Op.key, hlt, hlt.ne]
      · simp [apply, leaves, Op.key, Op.entry]

theorem apply_of_not_settles {op : Op κ ε} {k : κ} (hsettles : ¬ op.Settles k) (journal : κ → Option ε) :
    op.apply journal k = journal k := by
  cases op with
  | write key entry =>
      have hne : k ≠ key := hsettles
      simp [apply, hne]
  | compact key entry =>
      have hlt : key < k := lt_of_not_ge hsettles
      simp [apply, hlt.ne', hlt.not_gt]

end Op

variable [LinearOrder κ]

/-- The journal after the operations. -/
def replay (journal : κ → Option ε) (ops : List (Op κ ε)) : κ → Option ε :=
  ops.foldl (fun journal op => op.apply journal) journal

theorem replay_append (journal : κ → Option ε) (ops ops' : List (Op κ ε)) :
    replay journal (ops ++ ops') = replay (replay journal ops) ops' := List.foldl_append

/-- Operations that do not settle a key leave what is there. -/
theorem replay_of_not_settles {ops : List (Op κ ε)} {k : κ} (hops : ∀ op ∈ ops, ¬ op.Settles k)
    (journal : κ → Option ε) : replay journal ops k = journal k := by
  induction ops generalizing journal with
  | nil => rfl
  | cons op ops ih =>
      rw [List.forall_mem_cons] at hops
      rw [replay, List.foldl_cons]
      exact (ih hops.2 _).trans (Op.apply_of_not_settles hops.1 journal)

/-- **The last operation that settles a key** has left what is there. -/
theorem replay_of_last {ops : List (Op κ ε)} {op : Op κ ε} {k : κ} (hop : op.Settles k)
    (hops : ∀ op ∈ ops, ¬ op.Settles k) (journal : κ → Option ε) (before : List (Op κ ε)) :
    replay journal (before ++ op :: ops) k = op.leaves k := by
  rw [replay_append, replay, List.foldl_cons]
  exact (replay_of_not_settles hops _).trans (Op.apply_of_settles hop _)

/-- A journal that was written is not empty. -/
theorem exists_replay_eq_some {ops : List (Op κ ε)} (hops : ops ≠ []) (journal : κ → Option ε) :
    ∃ k e, replay journal ops k = some e := by
  obtain ⟨before, op, rfl⟩ := (List.eq_nil_or_concat ops).resolve_left hops
  refine ⟨op.key, op.entry, ?_⟩
  rw [List.concat_eq_append, replay_of_last op.settles_key (List.forall_mem_nil _)]
  exact if_pos rfl

/-- What is under a key depends on what was there only. -/
theorem replay_congr {journal journal' : κ → Option ε} {k : κ} (hk : journal k = journal' k) (ops : List (Op κ ε)) :
    replay journal ops k = replay journal' ops k := by
  unfold replay
  induction ops generalizing journal journal' with
  | nil => exact hk
  | cons op ops ih =>
      rw [List.foldl_cons, List.foldl_cons]
      refine ih ?_
      by_cases hsettles : op.Settles k
      · rw [Op.apply_of_settles hsettles, Op.apply_of_settles hsettles]
      · rw [Op.apply_of_not_settles hsettles, Op.apply_of_not_settles hsettles, hk]

/-- Every entry was there before, or one of the operations wrote it under its key. -/
theorem replay_eq_some {journal : κ → Option ε} {ops : List (Op κ ε)} {k : κ} {e : ε}
    (he : replay journal ops k = some e) : journal k = some e ∨ ∃ op ∈ ops, op.key = k ∧ op.entry = e := by
  induction ops generalizing journal with
  | nil => exact .inl he
  | cons op ops ih =>
      rw [replay, List.foldl_cons] at he
      rcases ih he with he | ⟨op', hmem, hop'⟩
      · by_cases hsettles : op.Settles k
        · rw [Op.apply_of_settles hsettles, Op.leaves] at he
          split at he
          · next hk => exact .inr ⟨op, List.mem_cons_self, hk.symm, Option.some.inj he⟩
          · cases he
        · exact .inl ((Op.apply_of_not_settles hsettles journal).symm.trans he)
      · exact .inr ⟨op', List.mem_cons_of_mem op hmem, hop'⟩

/-- **What a compaction drops does not come back**, as long as entries are written only after the key at which it was
    made. -/
theorem replay_compacted {ops : List (Op κ ε)} {p : κ} (hops : ∀ op ∈ ops, op.WritesAfter p) (e : ε)
    (journal : κ → Option ε) (k : κ) :
    replay ((Op.compact p e).apply journal) ops k =
      if k < p then none else if k = p then some e else replay journal ops k := by
  rcases lt_or_ge p k with hlt | hle
  · have hsettles : ¬ (Op.compact p e).Settles k := hlt.not_ge
    rw [if_neg hlt.not_gt, if_neg hlt.ne']
    exact replay_congr (Op.apply_of_not_settles hsettles journal) ops
  · have hkept : ∀ op ∈ ops, ¬ op.Settles k := by
      intro op hop hsettles
      cases op with
      | write key entry =>
          have hkey : p < key := hops _ hop
          have heq : k = key := hsettles
          exact absurd (heq ▸ hkey) hle.not_gt
      | compact key entry => exact hops _ hop
    have hsettles : (Op.compact p e).Settles k := hle
    rw [replay_of_not_settles hkept, Op.apply_of_settles hsettles]
    show (if k = p then some e else none) = _
    rcases lt_or_eq_of_le hle with hlt | rfl
    · rw [if_pos hlt, if_neg hlt.ne]
    · rw [if_neg (lt_irrefl _), if_pos rfl, if_pos rfl]

end Journal
