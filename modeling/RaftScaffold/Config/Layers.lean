import Mathlib.Data.Option.Basic

set_option autoImplicit false

/-! # Layered settings

A layer sets some keys. Layers are merged one after another, and where several set a key the one merged last
wins (`mergeAll_eq_findSome`). Swapping two neighbours changes the value of a key exactly when both set it
differently and no later layer sets it (`mergeAll_swap_iff`). -/

namespace Layers

variable {κ ν : Type*}

/-- The keys that a source sets, with their values. -/
abbrev Layer (κ ν : Type*) : Type _ := κ → Option ν

/-- Merge `layer` into `base`. -/
def merge (base layer : Layer κ ν) : Layer κ ν := fun key => (layer key).or (base key)

/-- The layers merged in order, starting from nothing. -/
def mergeAll (layers : List (Layer κ ν)) : Layer κ ν := layers.foldl merge fun _ => none

theorem foldl_merge_eq (layers : List (Layer κ ν)) (base : Layer κ ν) (key : κ) :
    layers.foldl merge base key = (layers.reverse.findSome? (· key)).or (base key) := by
  induction layers generalizing base with
  | nil => rfl
  | cons layer layers ih =>
      have hlayer : [layer].findSome? (· key) = layer key := by
        rw [List.findSome?_cons]
        cases layer key <;> rfl
      rw [List.foldl_cons, ih, List.reverse_cons, List.findSome?_append, hlayer, merge, Option.or_assoc]

/-- The last layer that sets a key decides. -/
theorem mergeAll_eq_findSome (layers : List (Layer κ ν)) (key : κ) :
    mergeAll layers key = layers.reverse.findSome? (· key) := by
  rw [mergeAll, foldl_merge_eq, Option.or_none]

/-- **When the order of two layers matters.** -/
theorem mergeAll_swap_iff (before after : List (Layer κ ν)) (a b : Layer κ ν) (key : κ) :
    mergeAll (before ++ [a, b] ++ after) key = mergeAll (before ++ [b, a] ++ after) key ↔
      (∃ layer ∈ after, (layer key).isSome) ∨ a key = none ∨ b key = none ∨ a key = b key := by
  simp only [mergeAll_eq_findSome, List.reverse_append, List.findSome?_append, List.reverse_cons,
    List.reverse_nil, List.nil_append, List.findSome?_cons, List.cons_append]
  cases hlater : after.reverse.findSome? (· key) with
  | some value =>
      obtain ⟨layer, hmem, hvalue⟩ := List.exists_of_findSome?_eq_some hlater
      refine iff_of_true rfl (.inl ⟨layer, List.mem_reverse.1 hmem, ?_⟩)
      rw [hvalue]
      rfl
  | none =>
      have hnone : ¬ ∃ layer ∈ after, (layer key).isSome = true := by
        rintro ⟨layer, hmem, hsome⟩
        rw [List.findSome?_eq_none_iff.1 hlater layer (List.mem_reverse.2 hmem)] at hsome
        cases hsome
      cases a key with
      | none => simp
      | some valueA =>
          cases b key with
          | none => simp
          | some valueB => simpa [hnone] using (eq_comm (a := valueB) (b := valueA))

end Layers
