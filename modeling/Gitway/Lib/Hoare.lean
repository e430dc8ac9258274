import Gitway.Lib.Fallible

/-!
# Conditions before and after

`Hoare P x Q` says that from a state with `P` the computation `x` ends with an outcome and in a
state that are related by `Q`. A step that fails ends the whole, so `Q` speaks of errors too.
-/
namespace Lib
namespace Fallible

variable {σ ε α β : Type} {P : σ → Prop} {Q : Except ε α → σ → Prop}
  {S : Except ε β → σ → Prop}

def Hoare (P : σ → Prop) (x : Fallible σ ε α) (Q : Except ε α → σ → Prop) : Prop :=
  ∀ s, P s → Q (x s).1 (x s).2

theorem Hoare.pure {a : α} (holds : ∀ s, P s → Q (.ok a) s) :
    Hoare P (Pure.pure a : Fallible σ ε α) Q := holds

theorem Hoare.fail {e : ε} (holds : ∀ s, P s → Q (.error e) s) :
    Hoare P (Fallible.fail e : Fallible σ ε α) Q := holds

theorem Hoare.query {f : σ → Except ε α} (holds : ∀ s, P s → Q (f s) s) :
    Hoare P (query f) Q := holds

/-- What holds after the first step holds before the second, and what holds after an error of
the first step holds in the end. -/
theorem Hoare.bind {x : Fallible σ ε α} {f : α → Fallible σ ε β} (first : Hoare P x Q)
    (fails : ∀ e s, Q (.error e) s → S (.error e) s) (rest : ∀ a, Hoare (Q (.ok a)) (f a) S) :
    Hoare P (x >>= f) S := by
  intro s holds
  have after := first s holds
  rw [bind_run]
  cases ran : x s with
  | mk r t =>
    rw [ran] at after
    cases r with
    -- The error is the outcome of the whole, and the second step is not taken.
    | error e => exact fails e t after
    | ok a => exact rest a t after

/-- The rule for a step that keeps the condition and ends with errors of one kind alone. -/
theorem Hoare.raising {E : ε → Prop} {x : Fallible σ ε α} {f : α → Fallible σ ε β}
    (keeps : Preserves P x) (raises : Raises E x) (fails : ∀ e s, E e → P s → S (.error e) s)
    (rest : ∀ a, Hoare P (f a) S) : Hoare P (x >>= f) S := by
  have first : Hoare P x fun r s => P s ∧ ∀ e, r = .error e → E e :=
    fun s holds => ⟨keeps s holds, fun e failed => raises s e _ (run_eq failed)⟩
  exact first.bind (fun e s failed => fails e s (failed.2 e rfl) failed.1)
    fun a s holds => rest a s holds.1

/-- The rule for a step that keeps the condition. -/
theorem Hoare.keeping {x : Fallible σ ε α} {f : α → Fallible σ ε β} (keeps : Preserves P x)
    (fails : ∀ e s, P s → S (.error e) s) (rest : ∀ a, Hoare P (f a) S) :
    Hoare P (x >>= f) S :=
  have anything : Raises (fun _ => True) x := fun _ _ _ _ => trivial
  Hoare.raising keeps anything (fun e s _ => fails e s) rest

end Fallible
end Lib
