import Mathlib.Logic.Function.Basic
import RaftScaffold.Transition.Runs

set_option autoImplicit false

/-! # Machines that exchange messages

A family of machines, one for each index, that run on their own and send messages. What has been sent
stays in a pool from which any machine may receive it: at any later time, in any order, several times or
never. So whatever holds in all runs of an exchange holds under every delay, loss, duplication and
reordering.

Such a system is verified machine by machine (`exchange_invariant`): each machine keeps its own
invariant as long as the messages it receives meet a condition, and sends only messages that meet it. -/

namespace Transition

/-- The machines and everything they have sent. -/
structure Exchange (ι σ μ : Type*) where
  machines : ι → σ
  sent : List μ

/-- A machine takes a step of its own, or receives a message. -/
inductive ExchangeEvent (ι ε μ : Type*) where
  | own (i : ι) (e : ε)
  | receive (i : ι) (m : μ)

variable {ι σ ε μ : Type*} [DecidableEq ι]

/-- The steps of an exchange. A machine in state `s` that takes the step `e` sends `sends s e`. -/
inductive ExchangeStep (step : σ → ε → σ → Prop) (sends : σ → ε → List μ) (receive : σ → μ → σ → Prop) :
    Exchange ι σ μ → ExchangeEvent ι ε μ → Exchange ι σ μ → Prop
  | own {s : Exchange ι σ μ} {i : ι} {e : ε} {t : σ} : step (s.machines i) e t →
      ExchangeStep step sends receive s (.own i e)
        { machines := Function.update s.machines i t
          sent := s.sent ++ sends (s.machines i) e }
  | receive {s : Exchange ι σ μ} {i : ι} {m : μ} {t : σ} : m ∈ s.sent → receive (s.machines i) m t →
      ExchangeStep step sends receive s (.receive i m)
        { s with machines := Function.update s.machines i t }

variable {step : σ → ε → σ → Prop} {sends : σ → ε → List μ} {receive : σ → μ → σ → Prop}

/-- One step of an exchange in which every machine keeps its invariant on messages that meet `Q` and sends only such
    messages. -/
theorem exchange_keeps {P : ι → σ → Prop} {Q : μ → Prop} {s s' : Exchange ι σ μ} {event : ExchangeEvent ι ε μ}
    (hstep : ExchangeStep step sends receive s event s')
    (hown : ∀ i e t, event = .own i e → P i (s.machines i) → step (s.machines i) e t →
      P i t ∧ ∀ m ∈ sends (s.machines i) e, Q m)
    (hreceive : ∀ i s m t, P i s → Q m → receive s m t → P i t)
    (hinv : (∀ i, P i (s.machines i)) ∧ ∀ m ∈ s.sent, Q m) :
    (∀ i, P i (s'.machines i)) ∧ ∀ m ∈ s'.sent, Q m := by
  obtain ⟨hP, hQ⟩ := hinv
  have hupdate : ∀ i t, P i t → ∀ j, P j (Function.update s.machines i t j) := by
    intro i t ht j
    by_cases hj : j = i
    · subst hj
      rwa [Function.update_self]
    · rw [Function.update_of_ne hj]
      exact hP j
  cases hstep with
  | @own i e t ht =>
      obtain ⟨hPt, hsends⟩ := hown i e t rfl (hP i) ht
      refine ⟨hupdate i t hPt, fun m hm => ?_⟩
      rcases List.mem_append.1 hm with hold | hnew
      · exact hQ m hold
      · exact hsends m hnew
  | @receive i m t hm ht => exact ⟨hupdate i t (hreceive i _ m t (hP i) (hQ m hm) ht), hQ⟩

/-- **Assume and guarantee.** If every machine keeps its invariant on messages that meet `Q` and sends
    only such messages, then so does the whole exchange. -/
theorem exchange_invariant {P : ι → σ → Prop} {Q : μ → Prop}
    (hown : ∀ i s e t, P i s → step s e t → P i t ∧ ∀ m ∈ sends s e, Q m)
    (hreceive : ∀ i s m t, P i s → Q m → receive s m t → P i t)
    {s s' : Exchange ι σ μ} {es : List (ExchangeEvent ι ε μ)}
    (hrun : Runs (ExchangeStep step sends receive) s es s')
    (hP : ∀ i, P i (s.machines i)) (hQ : ∀ m ∈ s.sent, Q m) :
    (∀ i, P i (s'.machines i)) ∧ ∀ m ∈ s'.sent, Q m := by
  refine hrun.invariant
    (I := fun s => (∀ i, P i (s.machines i)) ∧ ∀ m ∈ s.sent, Q m) (fun s e s' hinv hstep => ?_) ⟨hP, hQ⟩
  exact exchange_keeps hstep (fun i e t _ => hown i _ e t) hreceive hinv

/-- The same for machines that keep their invariants on steps that meet a guard. -/
theorem exchange_invariant_of_guarded {P : ι → σ → Prop} {Q : μ → Prop} {C : σ → ε → Prop}
    (hown : ∀ i s e t, P i s → C s e → step s e t → P i t ∧ ∀ m ∈ sends s e, Q m)
    (hreceive : ∀ i s m t, P i s → Q m → receive s m t → P i t)
    {s s' : Exchange ι σ μ} {es : List (ExchangeEvent ι ε μ)}
    (hrun : Runs (ExchangeStep step sends receive) s es s')
    (hguard : GuardedAlong (ExchangeStep step sends receive)
      (fun s event => ∀ i e, event = .own i e → C (s.machines i) e) s es)
    (hP : ∀ i, P i (s.machines i)) (hQ : ∀ m ∈ s.sent, Q m) :
    (∀ i, P i (s'.machines i)) ∧ ∀ m ∈ s'.sent, Q m := by
  refine hrun.invariant_of_guarded
    (I := fun s => (∀ i, P i (s.machines i)) ∧ ∀ m ∈ s.sent, Q m) (fun s e s' hinv hC hstep => ?_) hguard ⟨hP, hQ⟩
  exact exchange_keeps hstep (fun i e t he hPi => hown i _ e t hPi (hC i e he)) hreceive hinv

end Transition
