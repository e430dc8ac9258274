import Gitway.World

/-!
# Exit statuses

The three binaries turn the result of their `run` into the byte that the operating
system reports. The shims clamp a code that does not fit, `gitway` casts it and
leaves the cut to the system.
-/
namespace Gitway.Exit

open Lib

/-! ### From codes to bytes -/

/-- What is reported of a process that ended with `process::exit`: the low 8 bits. -/
def processExit (value : Int32) : UInt8 := value.toUInt32.toUInt8

/-- `u8::try_from(code).unwrap_or(1)`. -/
def byteOrOne (code : UInt32) : UInt8 := if code.toNat ≤ 255 then code.toUInt8 else 1

section
variable (exitCode : AnvilError → UInt32)

/-- The code of a result. An error brings its own. -/
def codeOf : Except AnvilError UInt32 → UInt32
  | .ok code => code
  | .error e => exitCode e

/-- The end of `main` of `gitway`. -/
def gitwayMain (run : Except AnvilError UInt32) : UInt8 :=
  processExit (codeOf exitCode run).toInt32

/-- `main` of `gitway-keygen`. -/
def keygenMain (run : Except AnvilError UInt32) : UInt8 :=
  match run with
  | .ok code => byteOrOne code
  | .error e => byteOrOne (exitCode e)

/-- `main` of `gitway-add`. -/
def addMain (run : Except AnvilError UInt32) : UInt8 :=
  match run with
  | .ok code => byteOrOne code
  | .error e => byteOrOne (exitCode e)

theorem byteOrOne_eq_zero_iff (code : UInt32) : byteOrOne code = 0 ↔ code = 0 := by
  unfold byteOrOne
  rw [← UInt8.toNat_inj, ← UInt32.toNat_inj]
  split
  next fits =>
    rw [UInt32.toNat_toUInt8, Nat.mod_eq_of_lt (by omega)]
    rfl
  next large =>
    simp only [UInt8.reduceToNat, UInt32.toNat_zero]
    omega

/-- The cast and the cut leave the code modulo 256. -/
theorem processExit_toInt32 (code : UInt32) :
    processExit code.toInt32 = 0 ↔ code.toNat % 256 = 0 := by
  unfold processExit
  rw [← UInt8.toNat_inj, UInt32.toUInt32_toInt32, UInt32.toNat_toUInt8]
  rfl

theorem keygenMain_eq_zero_iff (run : Except AnvilError UInt32) :
    keygenMain exitCode run = 0 ↔ codeOf exitCode run = 0 := by
  cases run <;> exact byteOrOne_eq_zero_iff _

theorem addMain_eq_zero_iff (run : Except AnvilError UInt32) :
    addMain exitCode run = 0 ↔ codeOf exitCode run = 0 := by
  cases run <;> exact byteOrOne_eq_zero_iff _

/-- `gitway` reports success for code zero only, and agrees with the shims on it,
exactly when the code is zero or no multiple of 256. -/
theorem failure_reported_iff (run : Except AnvilError UInt32) :
    ((gitwayMain exitCode run = 0 ↔ codeOf exitCode run = 0) ∧
      (gitwayMain exitCode run = 0 ↔ keygenMain exitCode run = 0) ∧
      (gitwayMain exitCode run = 0 ↔ addMain exitCode run = 0)) ↔
      codeOf exitCode run = 0 ∨ (codeOf exitCode run).toNat % 256 ≠ 0 := by
  rw [keygenMain_eq_zero_iff, addMain_eq_zero_iff, and_self, and_self, gitwayMain,
    processExit_toInt32]
  constructor
  · intro agrees
    by_cases zero : codeOf exitCode run = 0
    · exact Or.inl zero
    · exact Or.inr fun multiple => zero (agrees.mp multiple)
  · rintro (zero | reported)
    · simp [zero]
    · exact ⟨fun multiple => absurd multiple reported, fun zero => by simp [zero]⟩

end

end Gitway.Exit
