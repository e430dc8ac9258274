import Gitway.Lib.Fallible
import Mathlib.Order.Defs.Unbundled

/-!
# Computations that move along a preorder

`Moves R x` says that `R` relates the state in which `x` starts to the one it reaches,
whatever the outcome. Steps that move along a preorder make a computation that does.
-/
namespace Lib
namespace Fallible

variable {σ τ ε α β γ : Type} {R : σ → σ → Prop}

def Moves (R : σ → σ → Prop) (x : Fallible σ ε α) : Prop := ∀ s, R s (x s).2

theorem Moves.mono {R' : σ → σ → Prop} {x : Fallible σ ε α} (moves : Moves R x)
    (weaker : ∀ s t, R s t → R' s t) : Moves R' x := fun s => weaker _ _ (moves s)

theorem Moves.update {f : σ → σ} (moves : ∀ s, R s (f s)) :
    Moves R (update f : Fallible σ ε Unit) := moves

theorem Moves.within {get : σ → τ} {set : τ → σ → σ} {op : τ → Except ε α × τ}
    (moves : ∀ s t, R s (set t s)) : Moves R (within get set op) := fun s => moves s _

theorem Moves.attempt {x : Fallible σ ε α} (moves : Moves R x) : Moves R (attempt x) := moves

theorem Moves.map {x : Fallible σ ε α} (f : α → β) (moves : Moves R x) : Moves R (f <$> x) := by
  intro s
  rw [map_run]
  exact moves s

section
variable [IsPreorder σ R]

theorem Moves.pure (a : α) : Moves R (Pure.pure a : Fallible σ ε α) := fun s => Std.Refl.refl s

theorem Moves.fail (e : ε) : Moves R (fail e : Fallible σ ε α) := fun s => Std.Refl.refl s

theorem Moves.query (f : σ → Except ε α) : Moves R (query f) := fun s => Std.Refl.refl s

/-- What comes second may rely on what the first computation returned. -/
theorem Moves.bind_of {P : α → Prop} {x : Fallible σ ε α} {f : α → Fallible σ ε β}
    (first : Moves R x) (returns : Returns P x) (rest : ∀ a, P a → Moves R (f a)) :
    Moves R (x >>= f) := by
  intro s
  have moved := first s
  rw [bind_run]
  cases ran : x s with
  | mk r t =>
    rw [ran] at moved
    cases r with
    | error e => exact moved
    | ok a => exact IsTrans.trans _ _ _ moved (rest a (returns s a t ran) t)

theorem Moves.bind {x : Fallible σ ε α} {f : α → Fallible σ ε β} (first : Moves R x)
    (rest : ∀ a, Moves R (f a)) : Moves R (x >>= f) :=
  first.bind_of (fun _ _ _ _ => trivial : Returns (fun _ => True) x) fun a _ => rest a

theorem Moves.forM {f : β → Fallible σ ε PUnit} (each : ∀ b, Moves R (f b)) (xs : List β) :
    Moves R (xs.forM f) := by
  induction xs with
  | nil => exact Moves.pure _
  | cons b bs ih => exact Moves.bind (each b) fun _ => ih

theorem Moves.forOption {f : β → Fallible σ ε PUnit} (each : ∀ b, Moves R (f b))
    (value : Option β) : Moves R (value.forM f) := by
  cases value with
  | none => exact Moves.pure _
  | some b => exact each b

theorem Moves.foldlM {f : β → γ → Fallible σ ε β} (each : ∀ b c, Moves R (f b c))
    (xs : List γ) (b : β) : Moves R (xs.foldlM f b) := by
  induction xs generalizing b with
  | nil => exact Moves.pure b
  | cons c cs ih => exact Moves.bind (each b c) fun b' => ih b'

end

end Fallible
end Lib
