import Mathlib.Data.List.Basic

/-!
# Decimal numerals with a sign and a range

Readers of machine-width decimal integers over character lists. A numeral is an
optional sign followed by at least one decimal digit, and a value outside the
range of the target width is rejected, not wrapped.
-/
namespace Lib.Numeral

def digitValue (c : Char) : Nat := c.toNat - '0'.toNat

/-- Positional value of the digits read after the value `acc`. -/
def valueFrom (acc : Nat) (cs : List Char) : Nat :=
  cs.foldl (fun n c => 10 * n + digitValue c) acc

/-- At least one character, and decimal digits only. -/
def AllDigits (cs : List Char) : Prop := cs ≠ [] ∧ cs.all Char.isDigit = true

instance (cs : List Char) : Decidable (AllDigits cs) :=
  inferInstanceAs (Decidable (_ ∧ _))

def magnitude (cs : List Char) : Option Nat :=
  if AllDigits cs then some (valueFrom 0 cs) else none

/-- The value of a numeral that may start with a plus sign. -/
def unsignedValue : List Char → Option Nat
  | '+' :: ds => magnitude ds
  | ds => magnitude ds

/-- The value of a numeral that may start with either sign. -/
def signedValue : List Char → Option Int
  | '-' :: ds => (magnitude ds).map fun n : Nat => -(n : Int)
  | '+' :: ds => (magnitude ds).map Int.ofNat
  | ds => (magnitude ds).map Int.ofNat

/-- An unsigned numeral of value at most `hi`. -/
def parseUnsigned (hi : Nat) (cs : List Char) : Option Nat :=
  (unsignedValue cs).filter fun n => n ≤ hi

/-- A signed numeral between `lo` and `hi`. -/
def parseSigned (lo hi : Int) (cs : List Char) : Option Int :=
  (signedValue cs).filter fun n => lo ≤ n ∧ n ≤ hi

/-- The shape of the numerals that denote no positive number of the width: zeros
under any sign, or a negative numeral that is in range. -/
@[irreducible]
def NonPositive (lo : Int) : List Char → Prop
  | '-' :: ds => AllDigits ds ∧ lo ≤ -(valueFrom 0 ds : Int)
  | '+' :: ds => ds ≠ [] ∧ ∀ c ∈ ds, c = '0'
  | ds => ds ≠ [] ∧ ∀ c ∈ ds, c = '0'

/-! ### Values of digit strings -/

theorem magnitude_eq_some_iff {cs : List Char} {n : Nat} :
    magnitude cs = some n ↔ AllDigits cs ∧ valueFrom 0 cs = n := by
  unfold magnitude
  split
  next digits => simp [digits]
  next other => simp [other]

theorem digit_bounds {c : Char} (digit : c.isDigit = true) : 48 ≤ c.toNat ∧ c.toNat ≤ 57 := by
  simp only [Char.isDigit, Bool.and_eq_true, decide_eq_true_eq] at digit
  exact ⟨UInt32.le_iff_toNat_le.mp digit.1, UInt32.le_iff_toNat_le.mp digit.2⟩

private theorem digit_zero_iff {c : Char} (digit : c.isDigit = true) :
    digitValue c = 0 ↔ c = '0' := by
  have bounds := digit_bounds digit
  have zero : '0'.toNat = 48 := rfl
  constructor
  · intro none
    have same : c.toNat = '0'.toNat := by
      unfold digitValue at none
      omega
    rw [← Char.ofNat_toNat c, same]
    rfl
  · rintro rfl
    rfl

theorem valueFrom_eq_zero_iff {cs : List Char} (digits : cs.all Char.isDigit = true) (acc : Nat) :
    valueFrom acc cs = 0 ↔ acc = 0 ∧ ∀ c ∈ cs, c = '0' := by
  induction cs generalizing acc with
  | nil => simp [valueFrom]
  | cons c cs ih =>
    simp only [List.all_cons, Bool.and_eq_true] at digits
    -- A value never falls back to zero, so every digit must leave it there.
    have tail := ih digits.2 (10 * acc + digitValue c)
    have head := digit_zero_iff digits.1
    simp only [valueFrom, List.foldl_cons] at tail ⊢
    rw [tail]
    simp only [List.mem_cons, forall_eq_or_imp, ← head]
    constructor
    · rintro ⟨sum, zeros⟩
      exact ⟨by omega, by omega, zeros⟩
    · rintro ⟨rfl, value, zeros⟩
      exact ⟨by omega, zeros⟩

theorem zeros_digits {cs : List Char} (zeros : ∀ c ∈ cs, c = '0') :
    cs.all Char.isDigit = true := by
  rw [List.all_eq_true]
  intro c member
  rw [zeros c member]
  rfl

/-- A digit string is worth zero exactly when it consists of zeros. -/
theorem magnitude_eq_zero_iff {cs : List Char} :
    magnitude cs = some 0 ↔ cs ≠ [] ∧ ∀ c ∈ cs, c = '0' := by
  rw [magnitude_eq_some_iff]
  constructor
  · rintro ⟨⟨nonempty, digits⟩, value⟩
    exact ⟨nonempty, ((valueFrom_eq_zero_iff digits 0).mp value).2⟩
  · rintro ⟨nonempty, zeros⟩
    have digits := zeros_digits zeros
    exact ⟨⟨nonempty, digits⟩, (valueFrom_eq_zero_iff digits 0).mpr ⟨rfl, zeros⟩⟩

/-! ### Signed numerals -/

theorem parseSigned_eq_some_iff {lo hi n : Int} {cs : List Char} :
    parseSigned lo hi cs = some n ↔ signedValue cs = some n ∧ lo ≤ n ∧ n ≤ hi := by
  simp [parseSigned, Option.filter_eq_some_iff]

/-- Without a minus sign no value is negative, and the value zero comes from
zeros only. -/
private theorem plain_nonpos_iff {lo hi : Int} (below : lo ≤ 0) (above : 0 ≤ hi)
    (ds : List Char) :
    (∃ n, ((magnitude ds).map Int.ofNat = some n ∧ lo ≤ n ∧ n ≤ hi) ∧ n ≤ 0) ↔
      ds ≠ [] ∧ ∀ c ∈ ds, c = '0' := by
  rw [← magnitude_eq_zero_iff]
  simp only [Option.map_eq_some_iff]
  constructor
  · rintro ⟨_, ⟨⟨m, read, rfl⟩, _⟩, nonpos⟩
    have zero : m = 0 := by
      simp only [Int.ofNat_eq_natCast] at nonpos
      omega
    rw [read, zero]
  · intro read
    exact ⟨0, ⟨⟨0, read, rfl⟩, below, above⟩, Int.le_refl 0⟩

/-- A signed reader returns a number that is not positive exactly on the
numerals of that shape. -/
theorem parseSigned_nonpos_iff {lo hi : Int} (below : lo ≤ 0) (above : 0 ≤ hi) (cs : List Char) :
    (∃ n, parseSigned lo hi cs = some n ∧ n ≤ 0) ↔ NonPositive lo cs := by
  simp only [parseSigned_eq_some_iff]
  unfold signedValue NonPositive
  split
  next ds =>
    simp only [Option.map_eq_some_iff, magnitude_eq_some_iff]
    constructor
    · rintro ⟨_, ⟨⟨m, ⟨digits, rfl⟩, rfl⟩, bound, _⟩, _⟩
      exact ⟨digits, bound⟩
    · rintro ⟨digits, bound⟩
      exact ⟨_, ⟨⟨_, ⟨digits, rfl⟩, rfl⟩, bound, by omega⟩, by omega⟩
  next ds => exact plain_nonpos_iff below above ds
  next => exact plain_nonpos_iff below above cs

/-! ### Decimal renderings -/

theorem allDigits_toDigits (n : Nat) : AllDigits (Nat.toDigits 10 n) := by
  refine ⟨Nat.toDigits_ne_nil, List.all_eq_true.mpr fun c member => ?_⟩
  exact Nat.isDigit_of_mem_toDigits (by decide) (by decide) member

theorem valueFrom_toDigits (n : Nat) : valueFrom 0 (Nat.toDigits 10 n) = n := by
  have core : valueFrom 0 (Nat.toDigits 10 n) = Nat.ofDigitChars 10 (Nat.toDigits 10 n) 0 := rfl
  rw [core, Nat.ofDigitChars_toDigits (by decide) (by decide)]

/-- A digit string is read as its value, whatever signs the reader knows. -/
theorem signedValue_of_digits {cs : List Char} (digits : AllDigits cs) :
    signedValue cs = some (Int.ofNat (valueFrom 0 cs)) := by
  have value : magnitude cs = some (valueFrom 0 cs) := magnitude_eq_some_iff.mpr ⟨digits, rfl⟩
  unfold signedValue
  split
  next ds => simp [AllDigits, Char.isDigit] at digits
  next ds => simp [AllDigits, Char.isDigit] at digits
  next => rw [value, Option.map_some]

theorem parseSigned_toDigits {lo hi : Int} {n : Nat} (low : lo ≤ 0) (high : (n : Int) ≤ hi) :
    parseSigned lo hi (Nat.toDigits 10 n) = some (n : Int) := by
  rw [parseSigned_eq_some_iff, signedValue_of_digits (allDigits_toDigits n), valueFrom_toDigits]
  exact ⟨rfl, by omega, high⟩

end Lib.Numeral
