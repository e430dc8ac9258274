import Mathlib.Control.Monad.Basic
import Mathlib.Logic.Basic

/-!
# Fallible state-passing computations

A computation reads and updates a state and ends with a value or with an error.
The state it reached is kept in both cases: an error stops the computation, it
does not undo it.

Two families of rules are given. The inversion rules take a run of a compound
computation apart. The rules of `Alike` compare two runs from states that a
relation cannot tell apart.
-/
namespace Lib

@[simp] theorem mapError_ok {ε ε' α : Type} (f : ε → ε') (a : α) :
    (Except.ok a).mapError f = .ok a := rfl

@[simp] theorem mapError_error {ε ε' α : Type} (f : ε → ε') (e : ε) :
    (Except.error e : Except ε α).mapError f = .error (f e) := rfl

@[simp] theorem mapError_eq_ok_iff {ε ε' α : Type} {f : ε → ε'} {x : Except ε α} {a : α} :
    x.mapError f = .ok a ↔ x = .ok a := by
  cases x <;> simp

theorem of_mapError_error {ε ε' α : Type} {f : ε → ε'} {x : Except ε α} {e' : ε'}
    (failed : x.mapError f = .error e') : ∃ e, x = .error e ∧ f e = e' := by
  cases x with
  | ok a => simp at failed
  | error e => exact ⟨e, rfl, by simpa using failed⟩

theorem except_bind_ok_iff {ε α β : Type} {x : Except ε α} {f : α → Except ε β} {b : β} :
    (x >>= f) = .ok b ↔ ∃ a, x = .ok a ∧ f a = .ok b := by
  cases x <;> simp [bind, Except.bind]

/-- A computation over the state `σ` that may stop with an error from `ε`. -/
def Fallible (σ ε α : Type) : Type := σ → Except ε α × σ

namespace Fallible

variable {σ τ ε α β γ : Type}

instance : Monad (Fallible σ ε) where
  pure a := fun s => (.ok a, s)
  bind x f := fun s =>
    match x s with
    | (.ok a, t) => f a t
    | (.error e, t) => (.error e, t)

/-- Stop with an error. -/
def fail (e : ε) : Fallible σ ε α := fun s => (.error e, s)

/-- Return a value read off the state, which may be an error. -/
def query (f : σ → Except ε α) : Fallible σ ε α := fun s => (f s, s)

def update (f : σ → σ) : Fallible σ ε Unit := fun s => (.ok (), f s)

/-- Run an operation on one component of the state. -/
def within (get : σ → τ) (set : τ → σ → σ) (op : τ → Except ε α × τ) : Fallible σ ε α :=
  fun s => ((op (get s)).1, set (op (get s)).2 s)

/-- Run a computation for its outcome, which is handed over as a value. -/
def attempt (x : Fallible σ ε α) : Fallible σ ε (Except ε α) := fun s => (.ok (x s).1, (x s).2)

@[simp] theorem attempt_run (x : Fallible σ ε α) (s : σ) :
    attempt x s = (.ok (x s).1, (x s).2) := rfl

@[simp] theorem pure_run (a : α) (s : σ) : (pure a : Fallible σ ε α) s = (.ok a, s) := rfl

@[simp] theorem fail_run (e : ε) (s : σ) : (fail e : Fallible σ ε α) s = (.error e, s) := rfl

@[simp] theorem query_run (f : σ → Except ε α) (s : σ) : query f s = (f s, s) := rfl

@[simp] theorem update_run (f : σ → σ) (s : σ) :
    (update f : Fallible σ ε Unit) s = (.ok (), f s) := rfl

theorem bind_run (x : Fallible σ ε α) (f : α → Fallible σ ε β) (s : σ) :
    (x >>= f) s = match x s with
      | (.ok a, t) => f a t
      | (.error e, t) => (.error e, t) := rfl

@[simp] theorem map_run (f : α → β) (x : Fallible σ ε α) (s : σ) :
    (f <$> x) s = (f <$> (x s).1, (x s).2) := by
  show (x >>= fun a => pure (f a)) s = _
  rw [bind_run]
  cases x s with
  | mk r t => cases r <;> rfl

theorem run_eq {x : Fallible σ ε α} {s : σ} {r : Except ε α} (outcome : (x s).1 = r) :
    x s = (r, (x s).2) := by
  rw [← outcome]

/-! ### Inversion -/

theorem bind_ok_iff {x : Fallible σ ε α} {f : α → Fallible σ ε β} {s u : σ} {b : β} :
    (x >>= f) s = (.ok b, u) ↔ ∃ a t, x s = (.ok a, t) ∧ f a t = (.ok b, u) := by
  rw [bind_run]
  constructor
  · intro returned
    split at returned
    next a t first => exact ⟨a, t, first, returned⟩
    · simp at returned
  · rintro ⟨a, t, first, second⟩
    rw [first]
    exact second

theorem bind_error_iff {x : Fallible σ ε α} {f : α → Fallible σ ε β} {s u : σ} {e : ε} :
    (x >>= f) s = (.error e, u) ↔
      x s = (.error e, u) ∨ ∃ a t, x s = (.ok a, t) ∧ f a t = (.error e, u) := by
  rw [bind_run]
  constructor
  · intro failed
    split at failed
    next a t first => exact Or.inr ⟨a, t, first, failed⟩
    next e' t first => exact Or.inl (first.trans (by simpa using failed))
  · rintro (first | ⟨a, t, first, second⟩)
    · rw [first]
    · rw [first]
      exact second

/-- A run that fails at its first step fails as a whole, whatever follows. -/
theorem bind_of_error {x : Fallible σ ε α} {f : α → Fallible σ ε β} {s t : σ} {e : ε}
    (first : x s = (.error e, t)) : (x >>= f) s = (.error e, t) := by
  rw [bind_run, first]

theorem bind_of_ok {x : Fallible σ ε α} {f : α → Fallible σ ε β} {s t : σ} {a : α}
    (first : x s = (.ok a, t)) : (x >>= f) s = f a t := by
  rw [bind_run, first]

/-- What comes second counts only where the first computation returned. -/
theorem bind_congr_ok {x : Fallible σ ε α} {f g : α → Fallible σ ε β} {s : σ}
    (same : ∀ a t, x s = (.ok a, t) → f a t = g a t) : (x >>= f) s = (x >>= g) s := by
  rw [bind_run, bind_run]
  split
  next a t first => exact same a t first
  · rfl

theorem map_ok_iff {f : α → β} {x : Fallible σ ε α} {s t : σ} {b : β} :
    (f <$> x) s = (.ok b, t) ↔ ∃ a, x s = (.ok a, t) ∧ f a = b := by
  rw [map_run]
  cases x s with
  | mk r u =>
    cases r with
    | error e => simp [Functor.map, Except.map]
    | ok a =>
      simp only [Functor.map, Except.map, Prod.mk.injEq, Except.ok.injEq]
      constructor
      · rintro ⟨rfl, rfl⟩
        exact ⟨a, ⟨rfl, rfl⟩, rfl⟩
      · rintro ⟨_, ⟨rfl, rfl⟩, rfl⟩
        exact ⟨rfl, rfl⟩

/-- What is read off the state is handed on. -/
theorem bind_query_ok (f : σ → α) (g : α → Fallible σ ε β) (s : σ) :
    (query (fun s => .ok (f s)) >>= g) s = g (f s) s := rfl

instance : LawfulMonad (Fallible σ ε) :=
  LawfulMonad.mk' _
    (by
      intro α x
      funext s
      rw [map_run]
      cases x s with
      | mk r t => cases r <;> rfl)
    (fun _ _ => rfl)
    (by
      intro α β γ x f g
      funext s
      simp only [bind_run]
      cases x s with
      | mk r t => cases r <;> rfl)

/-- Two runs followed by the same injective step agree exactly when they agreed before. -/
theorem bind_pure_same_iff {x : Fallible σ ε α} {g : α → β} (injective : ∀ a b, g a = g b → a = b)
    {s t : σ} :
    ((x >>= fun a => pure (g a)) s).1 = ((x >>= fun a => pure (g a)) t).1 ↔ (x s).1 = (x t).1 := by
  rw [bind_run, bind_run]
  cases hx : x s with
  | mk rx sx =>
    cases hy : x t with
    | mk ry sy =>
      -- Where one of the runs failed both sides compare the same errors.
      cases rx <;> cases ry <;>
        simp only [pure_run, Except.ok.injEq, Except.error.injEq, reduceCtorEq]
      next a b => exact ⟨injective a b, fun same => congrArg g same⟩

/-! ### Loops -/

/-- Loop rule for a fold that returned: an invariant of the elements already
processed, the accumulator and the state holds of the whole list at the end. -/
theorem foldlM_ok_invariant (f : β → α → Fallible σ ε β) (I : List α → β → σ → Prop)
    (step : ∀ done x b s b' s', I done b s → f b x s = (.ok b', s') → I (done ++ [x]) b' s')
    (xs : List α) {done : List α} {b b' : β} {s s' : σ} (start : I done b s)
    (returned : xs.foldlM f b s = (.ok b', s')) : I (done ++ xs) b' s' := by
  induction xs generalizing done b s with
  | nil =>
    simp only [List.foldlM_nil, pure_run, Prod.mk.injEq, Except.ok.injEq] at returned
    obtain ⟨rfl, rfl⟩ := returned
    simpa using start
  | cons x xs ih =>
    rw [List.foldlM_cons, bind_ok_iff] at returned
    -- The first element joins those done, and the rest follows from there.
    obtain ⟨b₁, s₁, first, rest⟩ := returned
    have moved := ih (step done x b s b₁ s₁ start first) rest
    simpa using moved

/-! ### Results -/

/-- Every value the computation returns has the property. -/
def Returns (P : α → Prop) (x : Fallible σ ε α) : Prop := ∀ s a t, x s = (.ok a, t) → P a

section
variable {P : α → Prop}

theorem Returns.pure {a : α} (holds : P a) : Returns P (Pure.pure a : Fallible σ ε α) := by
  intro s b t returned
  simp only [pure_run, Prod.mk.injEq, Except.ok.injEq] at returned
  exact returned.1 ▸ holds

theorem Returns.query {f : σ → Except ε α} (holds : ∀ s a, f s = .ok a → P a) :
    Returns P (query f) := by
  intro s a t returned
  simp only [query_run, Prod.mk.injEq] at returned
  exact holds s a returned.1

theorem Returns.bind_of {Q : β → Prop} {x : Fallible σ ε β} {f : β → Fallible σ ε α}
    (first : Returns Q x) (rest : ∀ b, Q b → Returns P (f b)) : Returns P (x >>= f) := by
  intro s a t returned
  obtain ⟨b, u, ran, last⟩ := bind_ok_iff.mp returned
  exact rest b (first s b u ran) u a t last

theorem Returns.bind {x : Fallible σ ε β} {f : β → Fallible σ ε α}
    (rest : ∀ b, Returns P (f b)) : Returns P (x >>= f) :=
  Returns.bind_of (Q := fun _ => True) (fun _ _ _ _ => trivial) fun b _ => rest b

end

/-- What every step of a fold makes of an accumulator with the property has it again. -/
theorem Returns.foldlM {P : β → Prop} {f : β → γ → Fallible σ ε β}
    (each : ∀ b c, P b → Returns P (f b c)) (xs : List γ) {b : β} (start : P b) :
    Returns P (xs.foldlM f b) := by
  induction xs generalizing b with
  | nil => exact Returns.pure start
  | cons c cs ih => exact Returns.bind_of (each b c start) fun b' holds => ih holds

/-- From this state the computation returns a value with the property. -/
def Yields (P : α → Prop) (x : Fallible σ ε α) (s : σ) : Prop := ∃ a t, x s = (.ok a, t) ∧ P a

section
variable {P : α → Prop}

theorem yields_pure_iff (a : α) (s : σ) :
    Yields P (Pure.pure a : Fallible σ ε α) s ↔ P a := by
  constructor
  · rintro ⟨b, t, returned, holds⟩
    simp only [pure_run, Prod.mk.injEq, Except.ok.injEq] at returned
    exact returned.1 ▸ holds
  · exact fun holds => ⟨a, s, rfl, holds⟩

theorem not_yields_fail (e : ε) (s : σ) : ¬ Yields P (Fallible.fail e : Fallible σ ε α) s := by
  rintro ⟨a, t, returned, _⟩
  simp at returned

/-- A run yields what its first step leaves to the second. -/
theorem yields_bind_iff {x : Fallible σ ε β} {f : β → Fallible σ ε α} {s : σ} :
    Yields P (x >>= f) s ↔ ∃ b t, x s = (.ok b, t) ∧ Yields P (f b) t := by
  constructor
  · rintro ⟨a, u, ran, holds⟩
    obtain ⟨b, t, first, rest⟩ := bind_ok_iff.mp ran
    exact ⟨b, t, first, a, u, rest, holds⟩
  · rintro ⟨b, t, first, a, u, rest, holds⟩
    exact ⟨a, u, bind_ok_iff.mpr ⟨b, t, first, rest⟩, holds⟩

theorem yields_bind_of_ok {x : Fallible σ ε β} {f : β → Fallible σ ε α} {s t : σ} {b : β}
    (first : x s = (.ok b, t)) : Yields P (x >>= f) s ↔ Yields P (f b) t := by
  unfold Yields
  rw [bind_of_ok first]

theorem yields_bind_query_ok (f : σ → β) (g : β → Fallible σ ε α) (s : σ) :
    Yields P (query (fun s => .ok (f s)) >>= g) s ↔ Yields P (g (f s)) s := Iff.rfl

theorem yields_map_iff {g : β → α} {x : Fallible σ ε β} {s : σ} :
    Yields P (g <$> x) s ↔ Yields (fun b => P (g b)) x s := by
  rw [map_eq_pure_bind, yields_bind_iff]
  constructor
  · rintro ⟨b, t, ran, last⟩
    exact ⟨b, t, ran, (yields_pure_iff (g b) t).mp last⟩
  · rintro ⟨b, t, ran, holds⟩
    exact ⟨b, t, ran, (yields_pure_iff (g b) t).mpr holds⟩

theorem Returns.not_yields {x : Fallible σ ε α} (returns : Returns P x) (s : σ) :
    ¬ Yields (fun a => ¬ P a) x s := by
  rintro ⟨a, t, ran, fails⟩
  exact fails (returns s a t ran)

end

/-- Every error the computation ends with has the property. -/
def Raises (P : ε → Prop) (x : Fallible σ ε α) : Prop := ∀ s e t, x s = (.error e, t) → P e

section
variable {P : ε → Prop}

theorem Raises.pure (a : α) : Raises P (Pure.pure a : Fallible σ ε α) := by
  intro s e t failed
  simp at failed

theorem Raises.fail {e : ε} (holds : P e) : Raises P (Fallible.fail e : Fallible σ ε α) := by
  intro s e' t failed
  simp only [fail_run, Prod.mk.injEq, Except.error.injEq] at failed
  exact failed.1 ▸ holds

theorem Raises.query {f : σ → Except ε α} (holds : ∀ s e, f s = .error e → P e) :
    Raises P (query f) := by
  intro s e t failed
  simp only [query_run, Prod.mk.injEq] at failed
  exact holds s e failed.1

theorem Raises.bind {x : Fallible σ ε α} {f : α → Fallible σ ε β} (first : Raises P x)
    (rest : ∀ a, Raises P (f a)) : Raises P (x >>= f) := by
  intro s e t failed
  rcases bind_error_iff.mp failed with here | ⟨a, u, _, later⟩
  · exact first s e t here
  · exact rest a u e t later

/-- The outcome of an attempt is looked at, and its errors are of the kind of the attempt. -/
theorem Raises.attempt_bind {x : Fallible σ ε α} {f : Except ε α → Fallible σ ε β}
    (raises : Raises P x) (rest : ∀ r, (∀ e, r = .error e → P e) → Raises P (f r)) :
    Raises P (attempt x >>= f) := by
  intro s e t failed
  rw [bind_of_ok (attempt_run x s)] at failed
  exact rest (x s).1 (fun e' last => raises s e' _ (run_eq last)) _ e t failed

end

/-! ### Frames -/

/-- The computation leaves a view of the state as it was, on every outcome. -/
def Keeps (view : σ → τ) (x : Fallible σ ε α) : Prop := ∀ s, view (x s).2 = view s

section
variable {view : σ → τ}

theorem Keeps.pure (a : α) : Keeps view (Pure.pure a : Fallible σ ε α) := fun _ => rfl

theorem Keeps.fail (e : ε) : Keeps view (Fallible.fail e : Fallible σ ε α) := fun _ => rfl

theorem Keeps.query (f : σ → Except ε α) : Keeps view (query f) := fun _ => rfl

theorem Keeps.bind {x : Fallible σ ε α} {f : α → Fallible σ ε β} (first : Keeps view x)
    (rest : ∀ a, Keeps view (f a)) : Keeps view (x >>= f) := by
  intro s
  have before := first s
  rw [bind_run]
  split
  next a t ran =>
    rw [ran] at before
    exact (rest a t).trans before
  next e t ran =>
    rw [ran] at before
    exact before

/-- What comes second leaves the view as the first computation left it. -/
theorem Keeps.of_bind {x : Fallible σ ε α} {f : α → Fallible σ ε β}
    (rest : ∀ a, Keeps view (f a)) (s : σ) : view ((x >>= f) s).2 = view (x s).2 := by
  rw [bind_run]
  split
  next a t ran =>
    rw [ran]
    exact rest a t
  next e t ran => rw [ran]

theorem Keeps.eq {x : Fallible σ ε α} {s t : σ} {r : Except ε α} (frame : Keeps view x)
    (ran : x s = (r, t)) : view t = view s := by
  have before := frame s
  rw [ran] at before
  exact before

theorem Keeps.attempt {x : Fallible σ ε α} (frame : Keeps view x) :
    Keeps view (Fallible.attempt x) := fun s => frame s

theorem Keeps.map {x : Fallible σ ε α} (f : α → β) (frame : Keeps view x) :
    Keeps view (f <$> x) := by
  intro s
  rw [map_run]
  exact frame s

theorem Keeps.forM {f : β → Fallible σ ε PUnit} (each : ∀ b, Keeps view (f b)) (xs : List β) :
    Keeps view (xs.forM f) := by
  induction xs with
  | nil => exact Keeps.pure _
  | cons b bs ih => exact Keeps.bind (each b) fun _ => ih

theorem Keeps.foldlM {f : β → γ → Fallible σ ε β} (each : ∀ b c, Keeps view (f b c))
    (xs : List γ) (b : β) : Keeps view (xs.foldlM f b) := by
  induction xs generalizing b with
  | nil => exact Keeps.pure b
  | cons c cs ih => exact Keeps.bind (each b c) fun b' => ih b'

theorem Keeps.both {υ : Type} {other : σ → υ} {x : Fallible σ ε α} (first : Keeps view x)
    (second : Keeps other x) : Keeps (fun s => (view s, other s)) x :=
  fun s => Prod.ext (first s) (second s)

end

/-- The computation leaves a view of the state as it was, and all it returns has the
property. -/
structure Ends (view : σ → τ) (P : α → Prop) (x : Fallible σ ε α) : Prop where
  keeps : Keeps view x
  returns : Returns P x

section
variable {view : σ → τ} {P : α → Prop}

theorem Ends.pure {a : α} (holds : P a) : Ends view P (Pure.pure a : Fallible σ ε α) :=
  ⟨Keeps.pure a, Returns.pure holds⟩

theorem Ends.fail (e : ε) : Ends view P (Fallible.fail e : Fallible σ ε α) :=
  ⟨Keeps.fail e, fun _ _ _ returned => by simp at returned⟩

theorem Ends.bind {x : Fallible σ ε β} {f : β → Fallible σ ε α} (first : Keeps view x)
    (rest : ∀ b, Ends view P (f b)) : Ends view P (x >>= f) :=
  ⟨Keeps.bind first fun b => (rest b).keeps, Returns.bind fun b => (rest b).returns⟩

end

/-- A run that fails leaves a view of the state as it was. -/
def KeepsOnError (view : σ → τ) (x : Fallible σ ε α) : Prop :=
  ∀ s e t, x s = (.error e, t) → view t = view s

theorem KeepsOnError.bind {view : σ → τ} {x : Fallible σ ε α} {f : α → Fallible σ ε β}
    (first : Keeps view x) (rest : ∀ a, KeepsOnError view (f a)) : KeepsOnError view (x >>= f) := by
  intro s e t failed
  rcases bind_error_iff.mp failed with here | ⟨a, u, ran, later⟩
  · exact first.eq here
  · exact (rest a u e t later).trans (first.eq ran)

/-- An operation on a component that answers from a view of it, and leaves that view alone. -/
structure Reads (view : σ → τ) (op : σ → Except ε α × σ) : Prop where
  answers : ∀ s t, view s = view t → (op s).1 = (op t).1
  keeps : ∀ s, view (op s).2 = view s

/-! ### Invariants -/

/-- A fact about the state that the computation keeps, on every outcome. -/
def Preserves (I : σ → Prop) (x : Fallible σ ε α) : Prop := ∀ s, I s → I (x s).2

section
variable {I : σ → Prop}

theorem Preserves.pure (a : α) : Preserves I (Pure.pure a : Fallible σ ε α) :=
  fun _ holds => holds

theorem Preserves.fail (e : ε) : Preserves I (Fallible.fail e : Fallible σ ε α) :=
  fun _ holds => holds

theorem Preserves.query (f : σ → Except ε α) : Preserves I (query f) := fun _ holds => holds

/-- What comes second may rely on what the first computation returned. -/
theorem Preserves.bind_of {x : Fallible σ ε α} {f : α → Fallible σ ε β} (first : Preserves I x)
    (rest : ∀ s a, I s → (x s).1 = .ok a → Preserves I (f a)) : Preserves I (x >>= f) := by
  intro s holds
  -- The state that was reached counts on an error, too.
  have after := first s holds
  rw [bind_run]
  cases ran : x s with
  | mk r t =>
    rw [ran] at after
    cases r with
    | error e => exact after
    | ok a => exact rest s a holds (by rw [ran]) t after

theorem Preserves.bind {x : Fallible σ ε α} {f : α → Fallible σ ε β} (first : Preserves I x)
    (rest : ∀ a, Preserves I (f a)) : Preserves I (x >>= f) :=
  first.bind_of fun _ a _ _ => rest a

theorem Preserves.forM {f : β → Fallible σ ε PUnit} (each : ∀ b, Preserves I (f b))
    (xs : List β) : Preserves I (xs.forM f) := by
  induction xs with
  | nil => exact Preserves.pure _
  | cons b bs ih => exact Preserves.bind (each b) fun _ => ih

theorem Preserves.foldlM {f : β → γ → Fallible σ ε β} (each : ∀ b c, Preserves I (f b c))
    (xs : List γ) (b : β) : Preserves I (xs.foldlM f b) := by
  induction xs generalizing b with
  | nil => exact Preserves.pure b
  | cons c cs ih => exact Preserves.bind (each b c) fun b' => ih b'

end

/-- A computation keeps every fact about a view that it leaves as it was. -/
theorem Keeps.preserves {view : σ → τ} {x : Fallible σ ε α} (frame : Keeps view x)
    (J : τ → Prop) : Preserves (fun s => J (view s)) x := by
  intro s holds
  exact (frame s).symm ▸ holds

/-! ### Two runs -/

/-- From related states, of one kind or of two, both computations return the same and
keep the states related. -/
def Alike (R : σ → τ → Prop) (x : Fallible σ ε α) (y : Fallible τ ε α) : Prop :=
  ∀ s t, R s t → (x s).1 = (y t).1 ∧ R (x s).2 (y t).2

section
variable {R : σ → τ → Prop}

theorem Alike.pure (a : α) :
    Alike R (Pure.pure a : Fallible σ ε α) (Pure.pure a : Fallible τ ε α) :=
  fun _ _ related => ⟨rfl, related⟩

theorem Alike.fail (e : ε) :
    Alike R (Fallible.fail e : Fallible σ ε α) (Fallible.fail e : Fallible τ ε α) :=
  fun _ _ related => ⟨rfl, related⟩

theorem Alike.query {f : σ → Except ε α} {g : τ → Except ε α} (blind : ∀ s t, R s t → f s = g t) :
    Alike R (query f) (query g) :=
  fun s t related => ⟨blind s t related, related⟩

theorem Alike.attempt {x : Fallible σ ε α} {y : Fallible τ ε α} (both : Alike R x y) :
    Alike R (Fallible.attempt x) (Fallible.attempt y) :=
  fun s t related => ⟨congrArg Except.ok (both s t related).1, (both s t related).2⟩

theorem Alike.bind {x : Fallible σ ε α} {y : Fallible τ ε α} {f : α → Fallible σ ε β}
    {g : α → Fallible τ ε β} (first : Alike R x y) (rest : ∀ a, Alike R (f a) (g a)) :
    Alike R (x >>= f) (y >>= g) := by
  intro s t related
  have both := first s t related
  rw [bind_run, bind_run]
  cases hx : x s with
  | mk rx sx =>
    cases hy : y t with
    | mk ry sy =>
      simp only [hx, hy] at both
      -- The outcomes agree, so both runs stop here or both go on.
      obtain ⟨rfl, after⟩ := both
      cases rx with
      | error e => exact ⟨rfl, after⟩
      | ok a => exact rest a sx sy after

theorem Alike.foldlM {f : β → γ → Fallible σ ε β} {g : β → γ → Fallible τ ε β}
    (each : ∀ b c, Alike R (f b c) (g b c)) (xs : List γ) (b : β) :
    Alike R (xs.foldlM f b) (xs.foldlM g b) := by
  induction xs generalizing b with
  | nil => exact Alike.pure b
  | cons c cs ih => exact Alike.bind (each b c) fun b' => ih b'

end

end Fallible
end Lib
