import Gitway.Lib.Fallible
import Gitway.Lib.Runs

/-!
# Computations that follow a transition system

A view of the state is the state of a labelled transition system, and all that a computation
does to the view is a run of that system. `Follows L x s` says this of `x` from `s`, where `L`
relates the outcome of `x` to the labels of the run.
-/
namespace Lib
namespace Fallible

variable {σ ε α β κ ω : Type}

def Follows (step : κ → ω → κ → Prop) (view : σ → κ) (L : Except ε α → List ω → Prop)
    (x : Fallible σ ε α) (s : σ) : Prop :=
  ∃ ops, Run step (view s) ops (view (x s).2) ∧ L (x s).1 ops

variable {step : κ → ω → κ → Prop} {view : σ → κ} {L : Except ε α → List ω → Prop}
  {M : Except ε β → List ω → Prop} {s : σ}

theorem Follows.mono {L' : Except ε α → List ω → Prop} {x : Fallible σ ε α}
    (follows : Follows step view L x s) (weaker : ∀ r ops, L r ops → L' r ops) :
    Follows step view L' x s := by
  obtain ⟨ops, run, fits⟩ := follows
  exact ⟨ops, run, weaker _ _ fits⟩

/-- What leaves the view alone takes no step. -/
theorem Follows.of_keeps {x : Fallible σ ε α} (keeps : Keeps view x) (fits : L (x s).1 []) :
    Follows step view L x s := by
  refine ⟨[], ?_, fits⟩
  rw [keeps s]
  exact Run.nil _

/-- What comes second continues the run of the first. -/
theorem Follows.bind {x : Fallible σ ε α} {f : α → Fallible σ ε β} (first : Follows step view L x s)
    (fails : ∀ e ops, L (.error e) ops → M (.error e) ops)
    (rest : ∀ a t ops, x s = (.ok a, t) → L (.ok a) ops →
      Follows step view (fun r later => M r (ops ++ later)) (f a) t) :
    Follows step view M (x >>= f) s := by
  obtain ⟨ops, run, fits⟩ := first
  unfold Follows
  rw [bind_run]
  cases ran : x s with
  | mk r t =>
    rw [ran] at run fits
    cases r with
    | error e => exact ⟨ops, run, fails e ops fits⟩
    | ok a =>
      obtain ⟨later, further, fits_again⟩ := rest a t ops ran fits
      exact ⟨ops ++ later, run.append further, fits_again⟩

/-- The rule for a first step that leaves the view alone. -/
theorem Follows.bind_quiet {x : Fallible σ ε α} {f : α → Fallible σ ε β} (quiet : Keeps view x)
    (fails : ∀ e, M (.error e) [])
    (rest : ∀ a t, x s = (.ok a, t) → Follows step view M (f a) t) :
    Follows step view M (x >>= f) s := by
  have first : Follows step view (fun r ops => ops = [] ∧ r = (x s).1) x s :=
    Follows.of_keeps quiet ⟨rfl, rfl⟩
  apply first.bind
  · rintro e ops ⟨rfl, _⟩
    exact fails e
  · rintro a t ops ran ⟨rfl, _⟩
    exact rest a t ran

/-- The rule for a last step that leaves the view alone. -/
theorem Follows.bind_last {x : Fallible σ ε α} {f : α → Fallible σ ε β}
    (first : Follows step view L x s) (fails : ∀ e ops, L (.error e) ops → M (.error e) ops)
    (quiet : ∀ a, Keeps view (f a)) (fits : ∀ a ops, L (.ok a) ops → ∀ r, M r ops) :
    Follows step view M (x >>= f) s := by
  apply first.bind fails
  intro a t ops ran holds
  refine Follows.of_keeps (quiet a) ?_
  rw [List.append_nil]
  exact fits a ops holds _

/-- A loop follows the runs of its rounds, one after the other. The invariant holds where a
round begins, and a loop that ends has gone through all of them. -/
theorem Follows.foldlM {γ : Type} {f : β → γ → Fallible σ ε β} (I : σ → Prop)
    {R : γ → Except ε β → List ω → Prop} (keeps : ∀ b c, Preserves I (f b c))
    (round : ∀ b c s, I s → Follows step view (R c) (f b c) s) (cs : List γ) (b : β) (start : I s) :
    Follows step view (fun r ops =>
        (∀ op ∈ ops, ∃ c ∈ cs, ∃ r' piece, R c r' piece ∧ op ∈ piece) ∧
        ∀ b', r = .ok b' → ∀ c ∈ cs, ∃ b'' piece, R c (.ok b'') piece ∧ piece ⊆ ops)
      (cs.foldlM f b) s := by
  induction cs generalizing b s with
  | nil => exact Follows.of_keeps (Keeps.pure b) ⟨by simp, by simp⟩
  | cons c cs ih =>
    rw [List.foldlM_cons]
    apply (round b c s start).bind
    · intro e ops fits
      refine ⟨fun op member => ?_, nofun⟩
      exact ⟨c, List.mem_cons_self, .error e, ops, fits, member⟩
    · intro b' t ops ran fits
      have kept : I t := by
        have preserved := keeps b c s start
        rwa [ran] at preserved
      apply (ih b' kept).mono
      rintro r later ⟨each, all⟩
      constructor
      · intro op member
        rcases List.mem_append.mp member with now | then_
        · exact ⟨c, List.mem_cons_self, .ok b', ops, fits, now⟩
        · obtain ⟨c', listed, found⟩ := each op then_
          exact ⟨c', List.mem_cons_of_mem _ listed, found⟩
      · intro last ended c' listed
        rcases List.mem_cons.mp listed with rfl | later_round
        · exact ⟨b', ops, fits, List.subset_append_left _ _⟩
        · obtain ⟨b'', piece, holds, within⟩ := all last ended c' later_round
          exact ⟨b'', piece, holds, List.Subset.trans within (List.subset_append_right _ _)⟩

end Fallible
end Lib
