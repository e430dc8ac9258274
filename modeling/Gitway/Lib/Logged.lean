import Gitway.Lib.Fallible

/-!
# Computations that keep a log

The state has a log that only grows. `Logs L x` relates the outcome of `x` to what `x`
adds to the log, and the rules follow the structure of `x`.
-/
namespace Lib
namespace Fallible

variable {σ ε α β κ : Type}

/-- From every state the computation adds a piece to the log that fits its outcome. -/
def Logs (log : σ → List κ) (L : Except ε α → List κ → Prop) (x : Fallible σ ε α) : Prop :=
  ∀ s, ∃ piece, log (x s).2 = log s ++ piece ∧ L (x s).1 piece

variable {log : σ → List κ} {L : Except ε α → List κ → Prop} {M : Except ε β → List κ → Prop}

theorem Logs.mono {L' : Except ε α → List κ → Prop} {x : Fallible σ ε α} (logs : Logs log L x)
    (weaker : ∀ r piece, L r piece → L' r piece) : Logs log L' x := by
  intro s
  obtain ⟨piece, grown, fits⟩ := logs s
  exact ⟨piece, grown, weaker _ _ fits⟩

theorem Logs.pure {a : α} (fits : L (.ok a) []) :
    Logs log L (Pure.pure a : Fallible σ ε α) := fun s => ⟨[], by simp, fits⟩

theorem Logs.fail {e : ε} (fits : L (.error e) []) :
    Logs log L (Fallible.fail e : Fallible σ ε α) := fun s => ⟨[], by simp, fits⟩

/-- What comes second continues the piece of the first. -/
theorem Logs.bind {x : Fallible σ ε α} {f : α → Fallible σ ε β} (first : Logs log L x)
    (fails : ∀ e piece, L (.error e) piece → M (.error e) piece)
    (rest : ∀ a piece, L (.ok a) piece → Logs log (fun r later => M r (piece ++ later)) (f a)) :
    Logs log M (x >>= f) := by
  intro s
  obtain ⟨piece, grown, fits⟩ := first s
  rw [bind_run]
  cases ran : x s with
  | mk r t =>
    rw [ran] at grown fits
    cases r with
    | error e => exact ⟨piece, grown, fails e piece fits⟩
    | ok a =>
      obtain ⟨later, grown_again, fits_again⟩ := rest a piece fits t
      refine ⟨piece ++ later, ?_, fits_again⟩
      rw [grown_again, grown, List.append_assoc]

/-- An attempt logs the same and never fails. -/
theorem Logs.attempt {x : Fallible σ ε α} (logs : Logs log L x) :
    Logs log (fun r piece => ∃ outcome, r = .ok outcome ∧ L outcome piece)
      (Fallible.attempt x) := by
  intro s
  obtain ⟨piece, grown, fits⟩ := logs s
  exact ⟨piece, grown, _, rfl, fits⟩

/-- What leaves the log alone adds nothing to it. -/
theorem Logs.of_keeps {x : Fallible σ ε α} (frame : Keeps log x) :
    Logs log (fun _ piece => piece = []) x := fun s => ⟨[], by rw [frame s, List.append_nil], rfl⟩

/-- The rule for a first step that leaves the log alone. What comes second may rely on what
it returned. -/
theorem Logs.bind_ends {P : α → Prop} {x : Fallible σ ε α} {f : α → Fallible σ ε β}
    (first : Ends log P x) (fails : ∀ e, M (.error e) []) (rest : ∀ a, P a → Logs log M (f a)) :
    Logs log M (x >>= f) := by
  have kept : Logs log (fun r piece => piece = [] ∧ ∀ a, r = .ok a → P a) x := by
    intro s
    refine ⟨[], by rw [first.keeps s, List.append_nil], rfl, fun a returned => ?_⟩
    exact first.returns s a (x s).2 (Prod.ext returned rfl)
  apply Logs.bind kept
  · rintro e piece ⟨rfl, _⟩
    exact fails e
  · rintro a piece ⟨rfl, holds⟩
    exact rest a (holds a rfl)

/-! ### Entries of one kind -/

/-- All that the computation adds to the log has the property. -/
def Writes (log : σ → List κ) (P : κ → Prop) (x : Fallible σ ε α) : Prop :=
  Logs log (fun _ piece => ∀ k ∈ piece, P k) x

section
variable {P : κ → Prop}

theorem Writes.pure (a : α) : Writes log P (Pure.pure a : Fallible σ ε α) :=
  Logs.pure (by simp)

theorem Writes.of_keeps {x : Fallible σ ε α} (frame : Keeps log x) : Writes log P x := by
  apply (Logs.of_keeps frame).mono
  rintro r piece rfl
  simp

theorem Writes.bind {x : Fallible σ ε α} {f : α → Fallible σ ε β} (first : Writes log P x)
    (rest : ∀ a, Writes log P (f a)) : Writes log P (x >>= f) := by
  apply Logs.bind first
  · exact fun e piece fits => fits
  · intro a piece fits
    apply (rest a).mono
    rintro r later fits' k member
    exact (List.mem_append.mp member).elim (fits k) (fits' k)

theorem Writes.forM {f : β → Fallible σ ε PUnit} (each : ∀ b, Writes log P (f b))
    (xs : List β) : Writes log P (xs.forM f) := by
  induction xs with
  | nil => exact Writes.pure _
  | cons b bs ih => exact Writes.bind (each b) fun _ => ih

theorem Writes.forOption {f : β → Fallible σ ε PUnit} (each : ∀ b, Writes log P (f b))
    (value : Option β) : Writes log P (value.forM f) := by
  cases value with
  | none => exact Writes.pure _
  | some b => exact each b

end

end Fallible
end Lib
