/-
  File:      Sippak/Lib/Run.lean
  Subject:   RUNS OF A TRANSITION SYSTEM, with the events that happened on the way.

  A system is a relation `R s e s'` ("event `e` takes `s` to `s'`"). `Run R s₀ es s` says that
  the events `es`, in this order, take the start `s₀` to `s`. Nothing here knows what the
  states or the events are.

  * `Run.keepsHist` -- what every step keeps, every run keeps; the property may speak about the
    events so far as well;
  * `Run.prefix` -- a run passes through a state at each prefix of its events;
  * `EachStep`, `Run.keepsUnder` -- "every step meets the condition `C`" as a statement about the
    prefixes of the run, and what such a run keeps;
  * `Run.of_foldlM` -- where the relation is a partial function, a run can be computed;
  * `Run.exists_over` -- where the runs have a bound, one of them cannot go on.
-/
import Mathlib.Data.List.Infix

namespace Runs

universe u v

variable {σ : Type u} {ε : Type v}

/-- The events `es`, one step each, take `s₀` to the last index. -/
inductive Run (R : σ → ε → σ → Prop) (s₀ : σ) : List ε → σ → Prop where
  | start : Run R s₀ [] s₀
  | step {es : List ε} {s : σ} {e : ε} {s' : σ} :
      Run R s₀ es s → R s e s' → Run R s₀ (es ++ [e]) s'

/-- Every step of a run over `es` meets `C` (at the state before the step). -/
def EachStep (R : σ → ε → σ → Prop) (s₀ : σ) (C : σ → ε → Prop) (es : List ε) : Prop :=
  ∀ p e, p ++ [e] <+: es → ∀ s, Run R s₀ p s → C s e

section Rules

variable {R : σ → ε → σ → Prop} {s₀ : σ}

/-- **What every step keeps, every run keeps**, where the property may name the events so far. -/
theorem Run.keepsHist {P : List ε → σ → Prop} (h0 : P [] s₀)
    (hstep : ∀ es s e s', Run R s₀ es s → P es s → R s e s' → P (es ++ [e]) s')
    {es : List ε} {s : σ} (h : Run R s₀ es s) : P es s := by
  induction h with
  | start => exact h0
  | step hr hs ih => exact hstep _ _ _ _ hr ih hs

/-- A run over `es ++ [e]` is a run over `es` and one more step. -/
theorem Run.snoc_inv {es : List ε} {e : ε} {s' : σ} (h : Run R s₀ (es ++ [e]) s') :
    ∃ s, Run R s₀ es s ∧ R s e s' := by
  generalize hes : es ++ [e] = fs at h
  cases h with
  | start => simp at hes
  | step hr hs =>
      obtain ⟨rfl, he⟩ := List.append_inj' hes rfl
      cases he
      exact ⟨_, hr, hs⟩

/-- A run over no event stays at its start. -/
theorem Run.nil_inv {s : σ} (h : Run R s₀ [] s) : s = s₀ := by
  generalize hes : ([] : List ε) = fs at h
  cases h with
  | start => rfl
  | step hr hs => simp at hes

/-- **A run passes through a state at each prefix of its events.** -/
theorem Run.prefix {es p : List ε} {s : σ} (h : Run R s₀ es s) (hp : p <+: es) :
    ∃ t, Run R s₀ p t := by
  induction h with
  | start =>
      rw [List.prefix_nil] at hp
      subst hp
      exact ⟨s₀, .start⟩
  | step hr hs ih =>
      rcases List.prefix_concat_iff.mp hp with rfl | hp'
      · exact ⟨_, .step hr hs⟩
      · exact ih hp'

/-- Where a step has one outcome, so has a run. -/
theorem Run.unique (hR : ∀ s e a b, R s e a → R s e b → a = b) {es : List ε} {s t : σ}
    (h : Run R s₀ es s) (h' : Run R s₀ es t) : s = t := by
  induction h generalizing t with
  | start => exact h'.nil_inv.symm
  | step hr hs ih =>
      obtain ⟨u, hu, hs'⟩ := h'.snoc_inv
      have e := ih hu
      subst e
      exact hR _ _ _ _ hs hs'

theorem EachStep.of_snoc {C : σ → ε → Prop} {es : List ε} {e : ε}
    (h : EachStep R s₀ C (es ++ [e])) : EachStep R s₀ C es :=
  fun p f hp => h p f (hp.trans (List.prefix_append es [e]))

theorem EachStep.snoc {C : σ → ε → Prop} {es : List ε} {e : ε} (h : EachStep R s₀ C es)
    (he : ∀ s, Run R s₀ es s → C s e) : EachStep R s₀ C (es ++ [e]) := by
  intro p f hp s hs
  rcases List.prefix_concat_iff.mp hp with heq | hp'
  · obtain ⟨rfl, hf⟩ := List.append_inj' heq rfl
    cases hf
    exact he s hs
  · exact h p f hp' s hs

/-- **What every step that meets `C` keeps, every run keeps whose steps all meet `C`.** -/
theorem Run.keepsUnder {P : σ → Prop} {C : σ → ε → Prop} (h0 : P s₀)
    (hstep : ∀ s e s', P s → C s e → R s e s' → P s') {es : List ε} {s : σ}
    (h : Run R s₀ es s) (hC : EachStep R s₀ C es) : P s := by
  induction h with
  | start => exact h0
  | step hr hs ih => exact hstep _ _ _ (ih hC.of_snoc) (hC _ _ (List.prefix_refl _) _ hr) hs

end Rules

/-- No step is possible. -/
def Over (R : σ → ε → σ → Prop) (s : σ) : Prop := ∀ e s', ¬ R s e s'

/-- **Where no run is longer than `n`, some run cannot go on.** -/
theorem Run.exists_over {R : σ → ε → σ → Prop} {s₀ : σ} {n : Nat}
    (hbound : ∀ es s, Run R s₀ es s → es.length ≤ n) : ∃ es s, Run R s₀ es s ∧ Over R s := by
  -- by what is left up to the bound: a run that can go on is shorter than one that is left
  have hfrom : ∀ k es s, Run R s₀ es s → n - es.length = k → ∃ es s, Run R s₀ es s ∧ Over R s := by
    intro k
    induction k with
    | zero =>
        intro es s h hk
        refine ⟨es, s, h, fun e s' hs => ?_⟩
        have hlen := hbound _ _ (h.step hs)
        rw [List.length_append, List.length_singleton] at hlen
        omega
    | succ k ih =>
        intro es s h hk
        by_cases hover : Over R s
        · exact ⟨es, s, h, hover⟩
        · simp only [Over, not_forall, not_not] at hover
          obtain ⟨e, s', hs⟩ := hover
          refine ih _ _ (h.step hs) ?_
          rw [List.length_append, List.length_singleton]
          omega
  exact hfrom _ _ _ .start rfl

/-- The relation of a partial step function. -/
def Fn (step : σ → ε → Option σ) : σ → ε → σ → Prop :=
  fun s e s' => step s e = some s'

theorem Fn.unique (step : σ → ε → Option σ) : ∀ s e a b, Fn step s e a → Fn step s e b → a = b :=
  fun _ _ _ _ ha hb => Option.some.inj (ha.symm.trans hb)

/-- **Where the step is a function, folding it over the events computes the run.** -/
theorem Run.of_foldlM {step : σ → ε → Option σ} {s₀ s : σ} {es : List ε}
    (h : es.foldlM step s₀ = some s) : Run (Fn step) s₀ es s := by
  induction es using List.reverseRecOn generalizing s with
  | nil =>
      cases h
      exact .start
  | append_singleton es e ih =>
      rw [List.foldlM_append] at h
      obtain ⟨t, ht, hs⟩ := Option.bind_eq_some_iff.mp h
      have hs' : step t e = some s := by simpa using hs
      exact .step (ih ht) hs'

end Runs
