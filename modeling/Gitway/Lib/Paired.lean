import Gitway.Lib.Fallible

/-!
# Computations in pairs

`Paired R S P x y` says that from states related by `R` the computations `x` and `y` end with
the same error, or with values related by `P`, and in states related by `S`. Equal values are
the common case, and there what follows may be proved for one value at a time.
-/
namespace Lib

variable {ε α β γ δ : Type}

/-- Two outcomes: an error in common, or values in the relation. -/
inductive Matched (P : α → β → Prop) : Except ε α → Except ε β → Prop
  | error (e : ε) : Matched P (.error e) (.error e)
  | ok {a : α} {b : β} (related : P a b) : Matched P (.ok a) (.ok b)

theorem Matched.refl {P : α → α → Prop} (each : ∀ a, P a a) (r : Except ε α) : Matched P r r := by
  cases r with
  | error e => exact Matched.error e
  | ok a => exact Matched.ok (each a)

theorem Matched.of_eq {r r' : Except ε α} (same : r = r') : Matched Eq r r' :=
  same ▸ Matched.refl (fun _ => rfl) r

theorem Matched.eq {r r' : Except ε α} (matched : Matched Eq r r') : r = r' := by
  cases matched with
  | error e => rfl
  | ok same => rw [same]

theorem Matched.mono {P P' : α → β → Prop} {r : Except ε α} {r' : Except ε β}
    (matched : Matched P r r') (weaker : ∀ a b, P a b → P' a b) : Matched P' r r' := by
  cases matched with
  | error e => exact Matched.error e
  | ok holds => exact Matched.ok (weaker _ _ holds)

/-- What is known of the values on one side may be part of the relation. -/
theorem Matched.knowing {P : α → β → Prop} {Q : α → Prop} {r : Except ε α} {r' : Except ε β}
    (matched : Matched P r r') (known : ∀ a, r = .ok a → Q a) :
    Matched (fun a b => P a b ∧ Q a) r r' := by
  cases matched with
  | error e => exact Matched.error e
  | ok related => exact Matched.ok ⟨related, known _ rfl⟩

namespace Fallible

variable {σ τ υ ω : Type}

def Paired (R S : σ → τ → Prop) (P : α → β → Prop) (x : Fallible σ ε α) (y : Fallible τ ε β) :
    Prop :=
  ∀ s t, R s t → Matched P (x s).1 (y t).1 ∧ S (x s).2 (y t).2

theorem Paired.refl (x : Fallible σ ε α) : Paired Eq Eq Eq x x := by
  rintro s _ rfl
  exact ⟨Matched.of_eq rfl, rfl⟩

section
variable {R S : σ → τ → Prop} {P : α → β → Prop}

theorem Paired.pure {a : α} {b : β} (related : P a b) :
    Paired R R P (Pure.pure a : Fallible σ ε α) (Pure.pure b : Fallible τ ε β) :=
  fun _ _ both => ⟨Matched.ok related, both⟩

theorem Paired.fail (e : ε) :
    Paired R R P (Fallible.fail e : Fallible σ ε α) (Fallible.fail e : Fallible τ ε β) :=
  fun _ _ both => ⟨Matched.error e, both⟩

theorem Paired.query {f : σ → Except ε α} {g : τ → Except ε β}
    (matched : ∀ s t, R s t → Matched P (f s) (g t)) : Paired R R P (query f) (query g) :=
  fun s t both => ⟨matched s t both, both⟩

/-- The rule for a first step that leaves the states in a relation of their own. -/
theorem Paired.bind_to {T : σ → τ → Prop} {Q : γ → δ → Prop} {x : Fallible σ ε α}
    {y : Fallible τ ε β} {f : α → Fallible σ ε γ} {g : β → Fallible τ ε δ}
    (first : Paired R T P x y) (weaker : ∀ s t, T s t → S s t)
    (rest : ∀ a b, P a b → Paired T S Q (f a) (g b)) : Paired R S Q (x >>= f) (y >>= g) := by
  intro s t both
  obtain ⟨outcome, after⟩ := first s t both
  rw [bind_run, bind_run]
  cases left : x s with
  | mk r s' =>
    cases right : y t with
    | mk r' t' =>
      simp only [left, right] at outcome after
      -- Both stop with the error they share, or both go on.
      cases outcome with
      | error e => exact ⟨Matched.error e, weaker s' t' after⟩
      | ok related => exact rest _ _ related s' t' after

theorem Paired.bind {Q : γ → δ → Prop} {x : Fallible σ ε α} {y : Fallible τ ε β}
    {f : α → Fallible σ ε γ} {g : β → Fallible τ ε δ} (first : Paired R R P x y)
    (rest : ∀ a b, P a b → Paired R R Q (f a) (g b)) : Paired R R Q (x >>= f) (y >>= g) :=
  Paired.bind_to first (fun _ _ both => both) rest

/-- The rule for a first step that gives both sides the same value. -/
theorem Paired.bind_same {Q : γ → δ → Prop} {x : Fallible σ ε α} {y : Fallible τ ε α}
    {f : α → Fallible σ ε γ} {g : α → Fallible τ ε δ} (first : Paired R R Eq x y)
    (rest : ∀ a, Paired R R Q (f a) (g a)) : Paired R R Q (x >>= f) (y >>= g) := by
  refine first.bind ?_
  rintro a _ rfl
  exact rest a

theorem Paired.map {Q : γ → δ → Prop} {f : α → γ} {g : β → δ} {x : Fallible σ ε α}
    {y : Fallible τ ε β} (both : Paired R S P x y) (related : ∀ a b, P a b → Q (f a) (g b)) :
    Paired R S Q (f <$> x) (g <$> y) := by
  rw [map_eq_pure_bind, map_eq_pure_bind]
  exact both.bind_to (fun _ _ both => both) fun a b holds => Paired.pure (related a b holds)

/-- An outcome that is handed over is paired as an outcome. -/
theorem Paired.attempt {x : Fallible σ ε α} {y : Fallible τ ε β} (both : Paired R S P x y) :
    Paired R S (Matched P) (Fallible.attempt x) (Fallible.attempt y) :=
  fun s t related => ⟨Matched.ok (both s t related).1, (both s t related).2⟩

theorem Paired.mono {P' : α → β → Prop} {x : Fallible σ ε α} {y : Fallible τ ε β}
    (both : Paired R S P x y) (weaker : ∀ a b, P a b → P' a b) : Paired R S P' x y := by
  intro s t related
  obtain ⟨outcome, after⟩ := both s t related
  exact ⟨outcome.mono weaker, after⟩

theorem Paired.weaken {R' S' : σ → τ → Prop} {x : Fallible σ ε α} {y : Fallible τ ε β}
    (both : Paired R S P x y) (stronger : ∀ s t, R' s t → R s t)
    (weaker : ∀ s t, S s t → S' s t) : Paired R' S' P x y := by
  intro s t related
  obtain ⟨outcome, after⟩ := both s t (stronger s t related)
  exact ⟨outcome, weaker _ _ after⟩

/-- What one side keeps anyway may be part of the relation. -/
theorem Paired.keeping {I : σ → Prop} {x : Fallible σ ε α} {y : Fallible τ ε β}
    (both : Paired R S P x y) (keeps : Preserves I x) :
    Paired (fun s t => R s t ∧ I s) (fun s t => S s t ∧ I s) P x y := by
  intro s t related
  obtain ⟨outcome, after⟩ := both s t related.1
  exact ⟨outcome, after, keeps s related.2⟩

end

section
variable {R : σ → τ → Prop}

theorem Paired.foldlM {P : β → δ → Prop} {f : β → γ → Fallible σ ε β} {g : δ → γ → Fallible τ ε δ}
    (each : ∀ b d c, P b d → Paired R R P (f b c) (g d c)) (xs : List γ) {b : β} {d : δ}
    (start : P b d) : Paired R R P (xs.foldlM f b) (xs.foldlM g d) := by
  induction xs generalizing b d with
  | nil => exact Paired.pure start
  | cons c cs ih => exact Paired.bind (each b d c start) fun b' d' holds => ih holds

theorem Paired.forM {f : γ → Fallible σ ε PUnit} {g : γ → Fallible τ ε PUnit}
    (each : ∀ c, Paired R R Eq (f c) (g c)) (xs : List γ) :
    Paired R R Eq (xs.forM f) (xs.forM g) := by
  induction xs with
  | nil => exact Paired.pure rfl
  | cons c cs ih => exact Paired.bind (each c) fun _ _ _ => ih

end

end Fallible
end Lib
