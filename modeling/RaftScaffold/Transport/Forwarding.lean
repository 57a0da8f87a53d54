import Mathlib.Data.Fintype.Card

set_option autoImplicit false

/-! # Requests that are passed on

A request that visits one place after another: each place rejects it, delivers it, or passes it on to the
next one (`Hop`). `Delivers` lists the places that a delivered request was passed to.

Answers travel the same way back. Where a place answers with what the place it passed the request to has
answered, an answer within `n` places exists exactly if the request is delivered within `n` places
(`answers_iff`): nothing on the way makes up an answer, and nothing loses one. A request that cannot be passed on
at all is answered only where it starts. -/

namespace Transport

/-- What a place does with a request. -/
inductive Hop (σ δ : Type*) where
  | reject
  | deliver (d : δ)
  | pass (t : σ)

variable {σ δ : Type*} {hop : σ → Hop σ δ}

/-- A delivered request meets `final`, one that is passed on meets `next`, and a rejected one meets nothing. -/
@[simp] def Hop.Meets (final : δ → Prop) (next : σ → Prop) : Hop σ δ → Prop
  | .reject => False
  | .deliver d => final d
  | .pass t => next t

/-- A request at `s` is passed to the places `path`, in this order, and the last one delivers it to `d`. -/
inductive Delivers (hop : σ → Hop σ δ) : σ → List σ → δ → Prop
  | here {s : σ} {d : δ} : hop s = .deliver d → Delivers hop s [] d
  | there {s t : σ} {path : List σ} {d : δ} :
      hop s = .pass t → Delivers hop t path d → Delivers hop s (t :: path) d

/-- There is one way to go. -/
theorem Delivers.unique {s : σ} {path path' : List σ} {d d' : δ} (h : Delivers hop s path d)
    (h' : Delivers hop s path' d') : path = path' ∧ d = d' := by
  induction h generalizing path' with
  | here hd =>
      cases h' with
      | here hd' => exact ⟨rfl, Hop.deliver.inj (hd.symm.trans hd')⟩
      | there ht' _ => rw [hd] at ht'; cases ht'
  | there ht _ ih =>
      cases h' with
      | here hd' => rw [ht] at hd'; cases hd'
      | there ht' hrest' =>
          obtain rfl := Hop.pass.inj (ht.symm.trans ht')
          obtain ⟨rfl, hd⟩ := ih hrest'
          exact ⟨rfl, hd⟩

/-- What holds of the first place and is kept from place to place holds of every place on the way, and of
    the one that delivers. -/
theorem Delivers.invariant {P : σ → Prop} (hkeep : ∀ s t, P s → hop s = .pass t → P t) {s : σ}
    {path : List σ} {d : δ} (h : Delivers hop s path d) (hs : P s) :
    (∀ t ∈ path, P t) ∧ ∃ last, (last = s ∨ last ∈ path) ∧ P last ∧ hop last = .deliver d := by
  induction h with
  | @here s d hd => exact ⟨by simp, s, .inl rfl, hs, hd⟩
  | @there s t path d ht _ ih =>
      obtain ⟨hall, last, hlast, hP, hd⟩ := ih (hkeep _ _ hs ht)
      refine ⟨List.forall_mem_cons.2 ⟨hkeep _ _ hs ht, hall⟩, last, .inr ?_, hP, hd⟩
      rcases hlast with rfl | hmem
      · exact List.mem_cons_self
      · exact List.mem_cons_of_mem _ hmem

/-- From every place on the way, the request takes the rest of the way. -/
theorem Delivers.of_mem {s t : σ} {path : List σ} {d : δ} (h : Delivers hop s path d) (ht : t ∈ path) :
    ∃ rest, rest <:+ path ∧ rest.length < path.length ∧ Delivers hop t rest d := by
  induction h with
  | here _ => cases ht
  | @there s u path d hu hrest ih =>
      rcases List.mem_cons.1 ht with rfl | hmem
      · exact ⟨path, List.suffix_cons _ _, by simp, hrest⟩
      · obtain ⟨rest, hsuffix, hlt, hdel⟩ := ih hmem
        exact ⟨rest, hsuffix.trans (List.suffix_cons _ _), by simp; omega, hdel⟩

/-- **A request that comes back is not delivered**: on its way it visits every place once. -/
theorem Delivers.nodup {s : σ} {path : List σ} {d : δ} (h : Delivers hop s path d) :
    (s :: path).Nodup := by
  induction h with
  | here _ => simp
  | @there s t path d ht hrest ih =>
      refine List.nodup_cons.2 ⟨fun hmem => ?_, ih⟩
      -- coming back to `s`, the request would still have the whole way to go
      obtain ⟨rest, -, hlt, hagain⟩ := (Delivers.there ht hrest).of_mem hmem
      obtain ⟨rfl, -⟩ := hagain.unique (.there ht hrest)
      exact absurd hlt (Nat.lt_irrefl _)

/-- A delivered request is passed on less often than there are places. -/
theorem Delivers.length_lt [Fintype σ] {s : σ} {path : List σ} {d : δ} (h : Delivers hop s path d) :
    path.length < Fintype.card σ := by
  have hcard := h.nodup.length_le_card
  rw [List.length_cons] at hcard
  omega

/-- The same decision, told of other places. -/
def Hop.map {τ γ : Type*} (f : σ → τ) (g : δ → γ) : Hop σ δ → Hop τ γ
  | .reject => .reject
  | .deliver d => .deliver (g d)
  | .pass t => .pass (f t)

/-- Where the image of a place decides as the place does, the image of a request takes the image of its way. -/
theorem Delivers.map {τ γ : Type*} {hop' : τ → Hop τ γ} {f : σ → τ} {g : δ → γ}
    (hcomm : ∀ s, hop' (f s) = (hop s).map f g) {s : σ} {path : List σ} {d : δ}
    (h : Delivers hop s path d) : Delivers hop' (f s) (path.map f) (g d) := by
  induction h with
  | here hd => exact .here (by rw [hcomm, hd, Hop.map])
  | there ht _ ih => exact .there (by rw [hcomm, ht, Hop.map]) ih

/-- **Answers come from deliveries.** `Answers n s` says that a place `s` answers a request that `n` places
    may visit, and `Passable` that the request survives being passed on. -/
theorem answers_iff (hop : σ → Hop σ δ) (Answers : ℕ → σ → Prop) (Final : δ → Prop) (Passable : Prop)
    (hzero : ∀ s, ¬ Answers 0 s)
    (hsucc : ∀ n s, Answers (n + 1) s ↔ (hop s).Meets Final fun t => Passable ∧ Answers n t) (n : ℕ)
    (s : σ) :
    Answers n s ↔
      ∃ path d, Delivers hop s path d ∧ path.length < n ∧ (path = [] ∨ Passable) ∧ Final d := by
  induction n generalizing s with
  | zero =>
      refine iff_of_false (hzero s) ?_
      rintro ⟨path, d, -, hlt, -⟩
      exact absurd hlt (Nat.not_lt_zero _)
  | succ n ih =>
      rw [hsucc]
      cases hhop : hop s with
      | reject =>
          refine iff_of_false not_false ?_
          rintro ⟨path, d, hdel, -⟩
          cases hdel with
          | here hd => rw [hhop] at hd; cases hd
          | there ht _ => rw [hhop] at ht; cases ht
      | deliver d =>
          constructor
          · intro hfinal
            exact ⟨[], d, .here hhop, Nat.succ_pos n, .inl rfl, hfinal⟩
          · rintro ⟨path, d', hdel, -, -, hfinal⟩
            obtain ⟨-, rfl⟩ := hdel.unique (.here hhop)
            exact hfinal
      | pass t =>
          rw [Hop.Meets, ih]
          constructor
          · rintro ⟨hpassable, path, d, hdel, hlt, -, hfinal⟩
            exact ⟨t :: path, d, .there hhop hdel, Nat.succ_lt_succ hlt, .inr hpassable, hfinal⟩
          · rintro ⟨path, d, hdel, hlt, hpassed, hfinal⟩
            cases hdel with
            | here hd => rw [hhop] at hd; cases hd
            | there ht hrest =>
                have hpassable : Passable := hpassed.resolve_left (List.cons_ne_nil _ _)
                obtain rfl := Hop.pass.inj (hhop.symm.trans ht)
                exact ⟨hpassable, _, d, hrest, Nat.lt_of_succ_lt_succ hlt, .inr hpassable, hfinal⟩

end Transport
