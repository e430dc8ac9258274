import Mathlib.Logic.Basic

/-!
# Runs of a labelled transition system

The labels of a run are listed in the order of its steps. The rules carry a fact
about one step over to a whole run.
-/
namespace Lib

variable {σ ε : Type}

/-- A finite sequence of steps, from its first state to its last. -/
inductive Run (step : σ → ε → σ → Prop) : σ → List ε → σ → Prop where
  | nil (s : σ) : Run step s [] s
  | cons {s t u : σ} {e : ε} {es : List ε} (first : step s e t) (rest : Run step t es u) :
    Run step s (e :: es) u

namespace Run

variable {step : σ → ε → σ → Prop} {s t : σ} {es : List ε}

/-- What one step preserves, a run preserves. -/
theorem invariant {I : σ → Prop} (preserved : ∀ s e t, I s → step s e t → I t)
    (run : Run step s es t) (start : I s) : I t := by
  induction run with
  | nil s => exact start
  | cons first rest ih => exact ih (preserved _ _ _ start first)

theorem mono {step' : σ → ε → σ → Prop} (weaker : ∀ s e t, step s e t → step' s e t)
    (run : Run step s es t) : Run step' s es t := by
  induction run with
  | nil s => exact Run.nil s
  | cons first rest ih => exact Run.cons (weaker _ _ _ first) ih

/-- A run whose labels all have a property is a run of the steps with that property. -/
theorem restrict {p : ε → Prop} (run : Run step s es t) (all : ∀ e ∈ es, p e) :
    Run (fun s e t => p e ∧ step s e t) s es t := by
  induction run with
  | nil s => exact Run.nil s
  | cons first rest ih =>
    have head := all _ List.mem_cons_self
    exact Run.cons ⟨head, first⟩ (ih fun e member => all e (List.mem_cons_of_mem _ member))

/-- A goal that some label establishes and every step keeps is reached by a run with
such a label. -/
theorem established {I G : σ → Prop} {p : ε → Prop}
    (preserved : ∀ s e t, I s → step s e t → I t)
    (keeps : ∀ s e t, I s → step s e t → G s → G t)
    (establishes : ∀ s e t, I s → step s e t → p e → G t)
    (run : Run step s es t) (start : I s) (some_label : ∃ e ∈ es, p e) : G t := by
  have both (s e t) (now : I s ∧ G s) (taken : step s e t) : I t ∧ G t :=
    ⟨preserved s e t now.1 taken, keeps s e t now.1 taken now.2⟩
  induction run with
  | nil s => simp at some_label
  | cons first rest ih =>
    have next := preserved _ _ _ start first
    obtain ⟨e, member, labelled⟩ := some_label
    -- The label is taken now, and the goal is kept from here on, or it is still to come.
    rcases List.mem_cons.mp member with rfl | later
    · exact (rest.invariant both ⟨next, establishes _ _ _ start first labelled⟩).2
    · exact ih next ⟨e, later, labelled⟩

/-- What holds at the end but not at the start was brought about by one of the steps. -/
theorem introduced {G : σ → Prop} (run : Run step s es t) (before : ¬ G s) (after : G t) :
    ∃ es₁ e es₂ s' t', es = es₁ ++ e :: es₂ ∧ Run step s es₁ s' ∧ step s' e t' ∧
      Run step t' es₂ t ∧ ¬ G s' ∧ G t' := by
  induction run with
  | nil s => exact absurd after before
  | @cons s mid t e es taken rest ih =>
    by_cases now : G mid
    · exact ⟨[], e, es, s, mid, rfl, Run.nil s, taken, rest, before, now⟩
    · obtain ⟨es₁, e', es₂, s', t', split, first, there, last, was, is⟩ := ih now after
      exact ⟨e :: es₁, e', es₂, s', t', by rw [split]; rfl, Run.cons taken first, there, last,
        was, is⟩

/-- What holds at the end has held from the start, or one of the steps brought it about. No
step after that one, or after the start, is of a kind that would have ended it. -/
theorem since {P : σ → Prop} {brings keeps : ε → Prop}
    (one : ∀ s e t, step s e t → P t → brings e ∨ P s ∧ keeps e) (run : Run step s es t)
    (holds : P t) : P s ∧ (∀ e ∈ es, keeps e) ∨
      ∃ before e after, es = before ++ e :: after ∧ brings e ∧ ∀ e' ∈ after, keeps e' := by
  induction run with
  | nil s => exact Or.inl ⟨holds, by simp⟩
  | @cons s mid t e es first rest ih =>
    rcases ih holds with ⟨now, kept⟩ | ⟨before, e', after, split, brought, kept⟩
    · -- It holds after the first step.
      rcases one s e mid first now with brought | ⟨start, keeping⟩
      · exact Or.inr ⟨[], e, es, rfl, brought, kept⟩
      · exact Or.inl ⟨start, List.forall_mem_cons.mpr ⟨keeping, kept⟩⟩
    · exact Or.inr ⟨e :: before, e', after, by rw [split]; rfl, brought, kept⟩

theorem append {u : σ} {es' : List ε} (first : Run step s es t) (second : Run step t es' u) :
    Run step s (es ++ es') u := by
  induction first with
  | nil s => exact second
  | cons taken rest ih => exact Run.cons taken (ih second)

theorem of_append {u : σ} {es' : List ε} (run : Run step s (es ++ es') u) :
    ∃ t, Run step s es t ∧ Run step t es' u := by
  induction es generalizing s with
  | nil => exact ⟨s, Run.nil s, run⟩
  | cons e es ih =>
    cases run with
    | cons first rest =>
      obtain ⟨t, before, after⟩ := ih rest
      exact ⟨t, Run.cons first before, after⟩

/-- A system that simulates another one step by step has its runs. -/
theorem simulated {τ : Type} {step' : τ → ε → τ → Prop} {R : σ → τ → Prop}
    (simulates : ∀ s e s' a, R s a → step s e s' → ∃ a', R s' a' ∧ step' a e a')
    (run : Run step s es t) {a : τ} (start : R s a) : ∃ a', R t a' ∧ Run step' a es a' := by
  induction run generalizing a with
  | nil s => exact ⟨a, start, Run.nil a⟩
  | cons first rest ih =>
    obtain ⟨b, next, taken⟩ := simulates _ _ _ a start first
    obtain ⟨a', last, later⟩ := ih next
    exact ⟨a', last, Run.cons taken later⟩

end Run
end Lib
