import Mathlib.Data.Nat.Digits.Lemmas
import Mathlib.Data.Nat.Log

/-!
# Multiple precision integers of SSH

A number is sent as the shortest big-endian string of bytes in two's complement. Of a
positive number these are its magnitude without leading zeros, after a zero byte where the
top bit of the magnitude would read as a sign.
-/
namespace Lib.Mpint

/-- The number that is written in big-endian bytes. -/
def value (bytes : List UInt8) : Nat := Nat.ofDigits 256 (bytes.map UInt8.toNat).reverse

/-- `Encodes bytes n`: the natural number `n` is sent as `bytes`. -/
inductive Encodes : List UInt8 → Nat → Prop where
  | zero : Encodes [] 0
  | bare (first : UInt8) (rest : List UInt8) (positive : 0 < first) (plain : first < 128) :
      Encodes (first :: rest) (value (first :: rest))
  | padded (first : UInt8) (rest : List UInt8) (top : 128 ≤ first) :
      Encodes (0 :: first :: rest) (value (first :: rest))

/-- Put a zero before a magnitude whose top bit is set. -/
def pad : List UInt8 → List UInt8
  | [] => []
  | first :: rest => if 128 ≤ first then 0 :: first :: rest else first :: rest

def magnitude (n : Nat) : List UInt8 := ((Nat.digits 256 n).map UInt8.ofNat).reverse

def encode (n : Nat) : List UInt8 := pad (magnitude n)

/-! ### The value of bytes -/

theorem value_cons (first : UInt8) (rest : List UInt8) :
    value (first :: rest) = value rest + 256 ^ rest.length * first.toNat := by
  unfold value
  rw [List.map_cons, Nat.ofDigits_reverse_cons, List.length_map]

theorem value_lt (bytes : List UInt8) : value bytes < 256 ^ bytes.length := by
  have small : ∀ d ∈ (bytes.map UInt8.toNat).reverse, d < 256 := by
    intro d digit
    obtain ⟨b, -, rfl⟩ := List.mem_map.1 (List.mem_reverse.1 digit)
    exact b.toNat_lt
  simpa [value] using Nat.ofDigits_lt_base_pow_length (by decide) small

/-! ### Every number has an encoding -/

theorem value_magnitude (n : Nat) : value (magnitude n) = n := by
  have bytes : ∀ d ∈ Nat.digits 256 n, (UInt8.ofNat d).toNat = d := by
    intro d digit
    have small : d < 256 := Nat.digits_lt_base (by decide) digit
    simpa using small
  have digits : (Nat.digits 256 n).map (UInt8.toNat ∘ UInt8.ofNat) = Nat.digits 256 n :=
    (List.map_congr_left bytes).trans (List.map_id _)
  unfold value magnitude
  rw [List.map_reverse, List.reverse_reverse, List.map_map, digits, Nat.ofDigits_digits]

/-- A magnitude has no leading zeros: without its first byte it would be too short. -/
theorem magnitude_first {n : Nat} {first : UInt8} {rest : List UInt8}
    (bytes : magnitude n = first :: rest) : 0 < first := by
  by_contra zero
  have vanishes : first.toNat = 0 := by simpa [UInt8.lt_iff_toNat_lt] using zero
  have small : n < 256 ^ rest.length := by
    have whole := value_magnitude n
    rw [bytes, value_cons, vanishes, Nat.mul_zero, Nat.add_zero] at whole
    exact whole ▸ value_lt rest
  have short : (Nat.digits 256 n).length ≤ rest.length :=
    (Nat.digits_length_le_iff (by decide) n).2 small
  have long : (Nat.digits 256 n).length = rest.length + 1 := by
    simpa [magnitude] using congrArg List.length bytes
  omega

theorem encodes_encode (n : Nat) : Encodes (encode n) n := by
  have whole := value_magnitude n
  unfold encode
  cases bytes : magnitude n with
  | nil =>
    rw [bytes] at whole
    subst whole
    exact .zero
  | cons first rest =>
    have positive := magnitude_first bytes
    rw [bytes] at whole
    subst whole
    by_cases top : 128 ≤ first
    · simpa only [pad, if_pos top] using Encodes.padded first rest top
    · simpa only [pad, if_neg top] using
        Encodes.bare first rest positive (UInt8.not_le.1 top)

/-! ### The length of an encoding -/

/-- The bit length of a magnitude is that of its first byte and eight for every further byte. -/
theorem log_value_cons (first : UInt8) (rest : List UInt8) (positive : 0 < first) :
    Nat.log 2 (value (first :: rest)) = 8 * rest.length + Nat.log 2 first.toNat := by
  have nonzero : first.toNat ≠ 0 := by
    have := UInt8.lt_iff_toNat_lt.1 positive
    simpa using Nat.ne_of_gt this
  have lower : 2 ^ Nat.log 2 first.toNat ≤ first.toNat := Nat.pow_log_le_self 2 nonzero
  have upper : first.toNat + 1 ≤ 2 ^ (Nat.log 2 first.toNat + 1) :=
    Nat.lt_pow_succ_log_self (by decide) _
  have base : 256 ^ rest.length = 2 ^ (8 * rest.length) := by simp [pow_mul]
  have behind : value rest < 2 ^ (8 * rest.length) := base ▸ value_lt rest
  have split : value (first :: rest) = value rest + 2 ^ (8 * rest.length) * first.toNat :=
    base ▸ value_cons first rest
  apply Nat.log_eq_of_pow_le_of_lt_pow
  · calc 2 ^ (8 * rest.length + Nat.log 2 first.toNat)
        = 2 ^ (8 * rest.length) * 2 ^ Nat.log 2 first.toNat := pow_add _ _ _
      _ ≤ 2 ^ (8 * rest.length) * first.toNat := Nat.mul_le_mul_left _ lower
      _ ≤ value (first :: rest) := split ▸ Nat.le_add_left _ _
  · calc value (first :: rest)
        < 2 ^ (8 * rest.length) + 2 ^ (8 * rest.length) * first.toNat := by omega
      _ = 2 ^ (8 * rest.length) * (first.toNat + 1) := by ring
      _ ≤ 2 ^ (8 * rest.length) * 2 ^ (Nat.log 2 first.toNat + 1) :=
        Nat.mul_le_mul_left _ upper
      _ = 2 ^ (8 * rest.length + Nat.log 2 first.toNat + 1) := (pow_add _ _ _).symm

/-- In whole bytes, an encoding has room for one bit more than the number has. -/
theorem Encodes.length_eq {bytes : List UInt8} {n : Nat} (encoded : Encodes bytes n)
    (positive : n ≠ 0) : bytes.length = (Nat.log 2 n + 1) / 8 + 1 := by
  cases encoded with
  | zero => exact absurd rfl positive
  | bare first rest nonzero plain =>
    have bits : Nat.log 2 first.toNat < 7 :=
      Nat.log_lt_of_lt_pow (by simpa using (UInt8.lt_iff_toNat_lt.1 nonzero).ne')
        (UInt8.lt_iff_toNat_lt.1 plain)
    rw [log_value_cons first rest nonzero, List.length_cons]
    omega
  | padded first rest top =>
    have bits : Nat.log 2 first.toNat = 7 :=
      Nat.log_eq_of_pow_le_of_lt_pow (UInt8.le_iff_toNat_le.1 top) first.toNat_lt
    have nonzero : 0 < first := UInt8.lt_of_lt_of_le (by decide) top
    rw [log_value_cons first rest nonzero, bits, List.length_cons, List.length_cons]
    omega

end Lib.Mpint
