import RaftScaffold.Transition.Runs

set_option autoImplicit false

/-! # Machines that are products of per-key components

Many state machines keep a table and treat every key on its own: an event concerns at most one key,
it changes only that key's component, and what it does there depends on that component alone. Such a
machine is a product of small deterministic machines, one per key. A run's effect on a key is then the
fold of the events about that key (`PerKey.component`), so two runs that agree key by key end in the
same components, however they interleave the keys (`PerKey.agree`). -/

namespace Transition

variable {σ ε κ τ : Type*}

/-- What makes a machine a product of per-key components, on the states that satisfy `Inv`.
    `view k s` is the component of key `k`, `about e` the key the event `e` concerns and `local k` the
    machine of key `k`. -/
structure PerKey (step : σ → ε → σ → Prop) (Inv : σ → Prop) (view : κ → σ → τ)
    (about : ε → Option κ) (localStep : κ → τ → ε → τ) : Prop where
  inv : ∀ s e s', Inv s → step s e s' → Inv s'
  own : ∀ k s e s', Inv s → step s e s' → about e = some k →
    view k s' = localStep k (view k s) e
  frame : ∀ k s e s', Inv s → step s e s' → about e ≠ some k → view k s' = view k s

variable {step : σ → ε → σ → Prop} {Inv : σ → Prop} {view : κ → σ → τ} {about : ε → Option κ}
  {localStep : κ → τ → ε → τ}

/-- The events of a run that concern `k`, in order. -/
def eventsAbout [DecidableEq κ] (about : ε → Option κ) (k : κ) (es : List ε) : List ε :=
  es.filter (fun e => about e = some k)

variable [DecidableEq κ]

/-- **A run acts on each key by the events about that key.** -/
theorem PerKey.component (h : PerKey step Inv view about localStep) {s s' : σ} {es : List ε}
    (hrun : Runs step s es s') (hs : Inv s) (k : κ) :
    view k s' = (eventsAbout about k es).foldl (localStep k) (view k s) := by
  induction hrun with
  | nil s => rfl
  | @cons s s₁ s₂ e es hstep _ ih =>
      rw [ih (h.inv _ _ _ hs hstep)]
      by_cases hk : about e = some k
      · rw [h.own k _ _ _ hs hstep hk]
        simp [eventsAbout, hk]
      · rw [h.frame k _ _ _ hs hstep hk]
        simp [eventsAbout, hk]

/-- **Interleaving is invisible.** Two runs from one state with the same events about every key end in
    the same components. -/
theorem PerKey.agree (h : PerKey step Inv view about localStep) {s s₁ s₂ : σ} {es₁ es₂ : List ε}
    (h₁ : Runs step s es₁ s₁) (h₂ : Runs step s es₂ s₂) (hs : Inv s) (k : κ)
    (hk : eventsAbout about k es₁ = eventsAbout about k es₂) : view k s₁ = view k s₂ := by
  rw [h.component h₁ hs k, h.component h₂ hs k, hk]

end Transition
