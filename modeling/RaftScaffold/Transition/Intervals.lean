import Mathlib.Algebra.BigOperators.Group.Finset.Piecewise
import Mathlib.Algebra.Order.Group.Int
import Mathlib.Algebra.Ring.Int.Defs
import Mathlib.Data.List.Chain

set_option autoImplicit false

/-! # Intervals that cover a span of time

A log whose records each open where the one before closed accounts for a span of time: the lengths of its
intervals add up to the span (`Covers.sum_length`), whichever way they are grouped (`sum_filter`), and
rounding each length down to whole units loses less than one unit a record (`Covers.sum_tdiv`). -/

namespace Transition

variable {α κ : Type*} {opens closes : α → ℤ}

/-- The intervals of the records follow one another without a gap, from `s` to `t`. -/
inductive Covers (opens closes : α → ℤ) : ℤ → ℤ → List α → Prop
  | nil (t : ℤ) : Covers opens closes t t []
  | cons {s t : ℤ} {a : α} {l : List α} (hopens : opens a = s)
      (hrest : Covers opens closes (closes a) t l) : Covers opens closes s t (a :: l)

/-- Records that are linked each to the next cover the span from the first to the last. -/
theorem covers_of_isChain {a : α} {l : List α} {t : ℤ}
    (hlinked : (a :: l).IsChain fun x y => closes x = opens y)
    (hlast : ∀ z ∈ (a :: l).getLast?, closes z = t) : Covers opens closes (opens a) t (a :: l) := by
  induction l generalizing a with
  | nil =>
      refine .cons rfl ?_
      rw [hlast a rfl]
      exact .nil t
  | cons b l ih =>
      rw [List.isChain_cons_cons] at hlinked
      refine .cons rfl ?_
      rw [hlinked.1]
      refine ih hlinked.2 fun z hz => hlast z ?_
      rwa [List.getLast?_cons_cons]

/-- The lengths telescope. -/
theorem Covers.sum_length {s t : ℤ} {l : List α} (h : Covers opens closes s t l) :
    (l.map fun a => closes a - opens a).sum = t - s := by
  induction h with
  | nil t => simp
  | cons hopens _ ih =>
      rw [List.map_cons, List.sum_cons, ih, hopens]
      omega

/-- Where the opening times never decrease, no interval is negative. -/
theorem Covers.opens_le_closes {s t : ℤ} {l : List α} (h : Covers opens closes s t l)
    (hmono : (l.map opens ++ [t]).IsChain (· ≤ ·)) : ∀ a ∈ l, opens a ≤ closes a := by
  induction h with
  | nil t =>
      intro a ha
      cases ha
  | cons _ hrest ih =>
      rw [List.forall_mem_cons]
      rw [List.map_cons, List.cons_append] at hmono
      refine ⟨?_, ih (List.isChain_of_isChain_cons hmono)⟩
      -- the record closes where the rest opens, or at the end
      cases hrest with
      | nil => exact (List.isChain_cons_cons.1 hmono).1
      | cons hopens _ => exact hopens ▸ (List.isChain_cons_cons.1 hmono).1

/-- Every record belongs to exactly one group. -/
theorem sum_filter [Fintype κ] [DecidableEq κ] (key : α → κ) (f : α → ℤ) (l : List α) :
    ∑ k, ((l.filter (key · = k)).map f).sum = (l.map f).sum := by
  induction l with
  | nil => simp
  | cons a l ih =>
      have hcons : ∀ k, (((a :: l).filter (key · = k)).map f).sum =
          (if key a = k then f a else 0) + ((l.filter (key · = k)).map f).sum := by
        intro k
        by_cases hk : key a = k
        · simp [hk]
        · simp [hk]
      simp only [hcons, Finset.sum_add_distrib, ih, Finset.sum_ite_eq, Finset.mem_univ, if_true,
        List.map_cons, List.sum_cons]

/-- Rounding down loses less than one unit for each summand. -/
theorem sum_tdiv (f : α → ℤ) {unit : ℤ} (hunit : 0 < unit) {l : List α} (hl : ∀ a ∈ l, 0 ≤ f a) :
    0 ≤ (l.map fun a => (f a).tdiv unit).sum ∧
      (l.map fun a => (f a).tdiv unit).sum * unit ≤ (l.map f).sum ∧
      (l ≠ [] → (l.map f).sum < ((l.map fun a => (f a).tdiv unit).sum + l.length) * unit) := by
  induction l with
  | nil => simp
  | cons a l ih =>
      rw [List.forall_mem_cons] at hl
      obtain ⟨hnonneg, hle, hlt⟩ := ih hl.2
      rw [List.map_cons, List.sum_cons, List.map_cons, List.sum_cons, List.length_cons]
      have hdiv : (f a).tdiv unit = f a / unit := Int.tdiv_eq_ediv_of_nonneg hl.1
      have hquot : 0 ≤ f a / unit := Int.ediv_nonneg hl.1 hunit.le
      have hlower : f a / unit * unit ≤ f a := Int.ediv_mul_le _ hunit.ne'
      have hupper : f a < f a / unit * unit + unit := by
        have hnext := Int.lt_ediv_add_one_mul_self (f a) hunit
        rwa [Int.add_mul, Int.one_mul] at hnext
      rw [hdiv]
      refine ⟨by omega, ?_, fun _ => ?_⟩
      · rw [Int.add_mul]
        exact add_le_add hlower hle
      · push_cast
        rcases List.eq_nil_or_concat l with rfl | ⟨_, _, hsome⟩
        · simp only [List.map_nil, List.sum_nil, List.length_nil]
          push_cast
          rw [Int.add_mul, Int.add_mul]
          omega
        · have hrest := hlt (by rw [hsome]; simp)
          rw [Int.add_mul] at hrest
          rw [Int.add_mul, Int.add_mul, Int.add_mul, Int.one_mul]
          omega

/-- **The truncation error of a covering log.** The whole units in the intervals fall short of those in the
    span by less than one for each record. -/
theorem Covers.sum_tdiv {s t unit : ℤ} {l : List α} (h : Covers opens closes s t l) (hunit : 0 < unit)
    (hmono : (l.map opens ++ [t]).IsChain (· ≤ ·)) (hne : l ≠ []) :
    let total := (l.map fun a => (closes a - opens a).tdiv unit).sum
    (t - s).tdiv unit - l.length < total ∧ total ≤ (t - s).tdiv unit := by
  intro total
  have hnonneg : ∀ a ∈ l, 0 ≤ closes a - opens a := fun a ha => by
    have := h.opens_le_closes hmono a ha
    omega
  obtain ⟨htotal, hle, hlt⟩ := Transition.sum_tdiv _ hunit hnonneg
  rw [h.sum_length] at hle hlt
  have hspan : 0 ≤ t - s := le_trans (Int.mul_nonneg htotal hunit.le) hle
  rw [Int.tdiv_eq_ediv_of_nonneg hspan]
  have hupper : (t - s) / unit < total + l.length := Int.ediv_lt_of_lt_mul hunit (hlt hne)
  exact ⟨by omega, Int.le_ediv_of_mul_le hunit hle⟩

end Transition
