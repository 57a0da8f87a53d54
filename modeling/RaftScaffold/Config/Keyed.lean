import Mathlib.Data.Set.Function

set_option autoImplicit false

/-! # Collections by a key

Collecting a list under a key keeps, for each key, the element that comes last (`lookup`). Every element is kept
exactly when the key tells the elements apart (`forall_lookup_iff`), and then the order of the list does not
matter (`lookup_perm`). Whatever table the elements are put into, its entries are the ones that `lookup` finds
(`foldl_put`). -/

namespace Keyed

variable {α κ : Type*} [DecidableEq κ]

/-- The last element of `items` with key `k`. -/
def lookup (key : α → κ) (items : List α) (k : κ) : Option α :=
  items.reverse.find? fun a => decide (key a = k)

variable {key : α → κ} {items items' : List α} {k : κ} {a : α}

theorem lookup_cons (key : α → κ) (a : α) (items : List α) (k : κ) :
    lookup key (a :: items) k = (lookup key items k).or (if key a = k then some a else none) := by
  unfold lookup
  rw [List.reverse_cons, List.find?_append]
  congr 1
  by_cases hk : key a = k <;> simp [hk]

theorem mem_of_lookup (h : lookup key items k = some a) : a ∈ items ∧ key a = k := by
  have hkey := List.find?_some h
  exact ⟨List.mem_reverse.1 (List.mem_of_find?_eq_some h), of_decide_eq_true hkey⟩

/-- The keys of the elements are the keys that are found. -/
theorem exists_lookup (key : α → κ) (ha : a ∈ items) : ∃ b, lookup key items (key a) = some b := by
  rw [← Option.isSome_iff_exists, lookup, List.find?_isSome]
  exact ⟨a, List.mem_reverse.2 ha, decide_eq_true rfl⟩

theorem lookup_of_injOn (hinj : Set.InjOn key {a | a ∈ items}) (ha : a ∈ items) :
    lookup key items (key a) = some a := by
  obtain ⟨b, hb⟩ := exists_lookup key ha
  obtain ⟨hmem, hkey⟩ := mem_of_lookup hb
  rw [hb, hinj hmem ha hkey]

/-- **Nothing is lost** exactly when the key tells the elements apart. -/
theorem forall_lookup_iff :
    (∀ a ∈ items, lookup key items (key a) = some a) ↔ Set.InjOn key {a | a ∈ items} := by
  constructor
  · intro hkept a ha b hb hkey
    have hfound := hkept a ha
    rw [hkey, hkept b hb] at hfound
    exact (Option.some.inj hfound).symm
  · intro hinj a ha
    exact lookup_of_injOn hinj ha

/-- **The order does not matter** where the key tells the elements apart. -/
theorem lookup_perm (hinj : Set.InjOn key {a | a ∈ items}) (hperm : items.Perm items') :
    lookup key items = lookup key items' := by
  have hinj' : Set.InjOn key {a | a ∈ items'} := by
    intro a ha b hb hkey
    exact hinj (hperm.mem_iff.2 ha) (hperm.mem_iff.2 hb) hkey
  funext k
  cases hfound : lookup key items k with
  | some a =>
      obtain ⟨hmem, rfl⟩ := mem_of_lookup hfound
      exact (lookup_of_injOn hinj' (hperm.mem_iff.1 hmem)).symm
  | none =>
      cases hfound' : lookup key items' k with
      | none => rfl
      | some a =>
          obtain ⟨hmem, rfl⟩ := mem_of_lookup hfound'
          rw [lookup_of_injOn hinj (hperm.mem_iff.2 hmem)] at hfound
          cases hfound

/-- **Putting the elements into a table.** `get` reads the table and `put` files an element under its key, with
    the entry that `entry` makes of it. -/
theorem foldl_put {τ β : Type*} (get : τ → κ → Option β) {put : τ → α → τ} {entry : α → β}
    (hput : ∀ table a k, get (put table a) k = if key a = k then some (entry a) else get table k)
    (items : List α) (table : τ) (k : κ) :
    get (items.foldl put table) k = ((lookup key items k).map entry).or (get table k) := by
  induction items generalizing table with
  | nil => rfl
  | cons a items ih =>
      rw [List.foldl_cons, ih, hput, lookup_cons]
      cases lookup key items k with
      | some b => rfl
      | none =>
          by_cases hk : key a = k
          · simp [hk]
          · simp [hk]

end Keyed
