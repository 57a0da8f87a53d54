import Mathlib.Data.List.Basic

set_option autoImplicit false

/-! # Round trips of fallible conversions

Two conversions between a type and its wire form, each of which may fail, *round-trip* when converting
there never fails and converting back yields the original. Round trips of components give the round trip
of a list of them (`RoundTrips.mapM`). -/

namespace Transport

variable {α β π : Type}

/-- Converting every `a` there succeeds, and converting the result back yields `a`. -/
def RoundTrips (toWire : α → Except π β) (ofWire : β → Except π α) : Prop :=
  ∀ a, ∃ b, toWire a = .ok b ∧ ofWire b = .ok a

/-- **Lists round-trip with their elements**, in order. -/
theorem RoundTrips.mapM {toWire : α → Except π β} {ofWire : β → Except π α}
    (h : RoundTrips toWire ofWire) :
    RoundTrips (fun as : List α => as.mapM toWire) (fun bs => bs.mapM ofWire) := by
  intro as
  induction as with
  | nil => exact ⟨[], rfl, rfl⟩
  | cons a as ih =>
      obtain ⟨b, hto, hof⟩ := h a
      obtain ⟨bs, htos, hofs⟩ := ih
      refine ⟨b :: bs, ?_, ?_⟩
      · simp only [List.mapM_cons, hto, htos]; rfl
      · simp only [List.mapM_cons, hof, hofs]; rfl

/-- A list converts exactly when all its elements do. -/
theorem mapM_converts_iff {f : α → Except π β} {as : List α} :
    (∃ bs, as.mapM f = .ok bs) ↔ ∀ a ∈ as, ∃ b, f a = .ok b := by
  induction as with
  | nil => exact iff_of_true ⟨[], rfl⟩ (by simp)
  | cons a as ih =>
      rw [List.forall_mem_cons, ← ih, List.mapM_cons]
      cases hfirst : f a with
      | error p =>
          refine iff_of_false ?_ ?_
          · rintro ⟨bs, hbs⟩
            cases hbs
          · rintro ⟨⟨b, hb⟩, -⟩
            cases hb
      | ok b =>
          cases hrest : as.mapM f with
          | error p =>
              refine iff_of_false ?_ ?_
              · rintro ⟨bs, hbs⟩
                cases hbs
              · rintro ⟨-, bs, hbs⟩
                cases hbs
          | ok bs => exact iff_of_true ⟨b :: bs, rfl⟩ ⟨⟨b, rfl⟩, bs, rfl⟩

end Transport
