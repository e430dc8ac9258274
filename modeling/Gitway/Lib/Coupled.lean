import Gitway.Lib.Fallible
import Mathlib.Data.List.Induction

/-!
# Two computations in step

`Coupled` compares two fallible computations whose states, values and errors may be of
different kinds: from related states both return or both fail, and what they reach is
related again. The loop rule says where two loops over one list stop.
-/
namespace Lib

variable {σ τ ε ε' α β γ δ : Type}

/-- Both runs returned, or both failed, with whatever errors. -/
inductive Ends (Q : α → β → σ → τ → Prop) (S : σ → τ → Prop) :
    Except ε α × σ → Except ε' β × τ → Prop
  | returned {a b s t} (after : Q a b s t) : Ends Q S (.ok a, s) (.ok b, t)
  | failed {e e' s t} (after : S s t) : Ends Q S (.error e, s) (.error e', t)

/-- From states in `P` the computations end together: in `Q` when they return and in
`S` when they fail. -/
def Coupled (P : σ → τ → Prop) (Q : α → β → σ → τ → Prop) (S : σ → τ → Prop)
    (x : Fallible σ ε α) (y : Fallible τ ε' β) : Prop :=
  ∀ s t, P s t → Ends Q S (x s) (y t)

namespace Coupled

variable {P : σ → τ → Prop} {Q : α → β → σ → τ → Prop} {Q' : γ → δ → σ → τ → Prop}
  {S : σ → τ → Prop}

theorem pure {a : α} {b : β} (after : ∀ s t, P s t → Q a b s t) :
    Coupled P Q S (Pure.pure a : Fallible σ ε α) (Pure.pure b : Fallible τ ε' β) :=
  fun s t related => .returned (after s t related)

theorem bind {x : Fallible σ ε α} {y : Fallible τ ε' β} {f : α → Fallible σ ε γ}
    {g : β → Fallible τ ε' δ} (first : Coupled P Q S x y)
    (rest : ∀ a b, Coupled (Q a b) Q' S (f a) (g b)) : Coupled P Q' S (x >>= f) (y >>= g) := by
  intro s t related
  have ended := first s t related
  rw [Fallible.bind_run, Fallible.bind_run]
  cases here : x s with
  | mk r u =>
    cases there : y t with
    | mk r' v =>
      rw [here, there] at ended
      cases ended with
      | returned after => exact rest _ _ u v after
      | failed after => exact .failed after

/-- The rule for a first step that returns the same in both runs. -/
theorem bind_same {R : σ → τ → Prop} {x : Fallible σ ε α} {y : Fallible τ ε' α}
    {f : α → Fallible σ ε γ} {g : α → Fallible τ ε' δ}
    (first : Coupled P (fun a b s t => a = b ∧ R s t) S x y)
    (rest : ∀ a, Coupled R Q' S (f a) (g a)) : Coupled P Q' S (x >>= f) (y >>= g) := by
  apply bind first
  rintro a _ s t ⟨rfl, after⟩
  exact rest a s t after

end Coupled

/-! ### Loops -/

/-- How two loops over one list end: both run through it, or both stop at one element,
having run through all before it. `I` relates them after some elements. -/
inductive LoopsEnd (f : γ → α → Fallible σ ε γ) (g : δ → α → Fallible τ ε' δ)
    (I : List α → γ → δ → σ → τ → Prop) (S : σ → τ → Prop) (b : γ) (b' : δ) (s : σ) (t : τ) :
    List α → Prop
  | finished {xs c c' u v} (left : xs.foldlM f b s = (.ok c, u))
      (right : xs.foldlM g b' t = (.ok c', v)) (after : I xs c c' u v) :
      LoopsEnd f g I S b b' s t xs
  | stopped {xs} (done : List α) (x : α) (rest : List α) {c c' u v e e' u' v'}
      (split : xs = done ++ x :: rest) (left : done.foldlM f b s = (.ok c, u))
      (right : done.foldlM g b' t = (.ok c', v)) (between : I done c c' u v)
      (left_stops : f c x u = (.error e, u')) (right_stops : g c' x v = (.error e', v'))
      (left_whole : xs.foldlM f b s = (.error e, u'))
      (right_whole : xs.foldlM g b' t = (.error e', v')) (after : S u' v') :
      LoopsEnd f g I S b b' s t xs

private theorem foldlM_concat_ok {f : γ → α → Fallible σ ε γ} {xs : List α} {x : α} {b c c' : γ}
    {s u u' : σ} (first : xs.foldlM f b s = (.ok c, u)) (last : f c x u = (.ok c', u')) :
    (xs ++ [x]).foldlM f b s = (.ok c', u') := by
  rw [List.foldlM_append, Fallible.bind_of_ok first, List.foldlM_cons, Fallible.bind_of_ok last]
  rfl

private theorem foldlM_concat_error {f : γ → α → Fallible σ ε γ} {xs : List α} {x : α} {b c : γ}
    {s u u' : σ} {e : ε} (first : xs.foldlM f b s = (.ok c, u))
    (last : f c x u = (.error e, u')) : (xs ++ [x]).foldlM f b s = (.error e, u') := by
  rw [List.foldlM_append, Fallible.bind_of_ok first, List.foldlM_cons, Fallible.bind_of_error last]

/-- Loop rule: rounds that end together make loops that end together, and at the same
element. -/
theorem foldlM_in_step {f : γ → α → Fallible σ ε γ} {g : δ → α → Fallible τ ε' δ}
    {I : List α → γ → δ → σ → τ → Prop} {S : σ → τ → Prop}
    (round : ∀ done x c c', Coupled (I done c c') (I (done ++ [x])) S (f c x) (g c' x))
    (xs : List α) {b : γ} {b' : δ} {s : σ} {t : τ} (start : I [] b b' s t) :
    LoopsEnd f g I S b b' s t xs := by
  -- The induction takes the last element off, so that the state before it is at hand.
  induction xs using List.reverseRecOn with
  | nil => exact .finished rfl rfl start
  | append_singleton xs x ih =>
    cases ih with
    | @finished c c' u v left right after =>
      have ended := round xs x c c' u v after
      cases here : f c x u with
      | mk r u' =>
        cases there : g c' x v with
        | mk r' v' =>
          rw [here, there] at ended
          cases ended with
          | returned moved =>
            exact .finished (foldlM_concat_ok left here) (foldlM_concat_ok right there) moved
          | failed halted =>
            exact .stopped xs x [] rfl left right after here there
              (foldlM_concat_error left here) (foldlM_concat_error right there) halted
    | stopped done y rest split left right between left_stops right_stops left_whole right_whole
        after =>
      apply LoopsEnd.stopped done y (rest ++ [x]) (by simp [split]) left right between left_stops
        right_stops ?_ ?_ after
      · rw [List.foldlM_append, Fallible.bind_of_error left_whole]
      · rw [List.foldlM_append, Fallible.bind_of_error right_whole]

end Lib
