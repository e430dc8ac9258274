import Gitway.KeygenShim.Run
import Gitway.Lib.Mpint

/-!
# The size that `gitway-keygen -l` shows of an RSA key

The bytes of the modulus are counted, the zero before a set top bit among them. They have
room for at least one bit more than the modulus has, so the number shown is too large, or
it is zero where the bits of the bytes do not fit.
-/
namespace Gitway.KeygenShim

open Lib

section
variable {Pub : Type} [KeySize Pub]

theorem publicBitEstimate_of_rsa {pk : Pub} (rsa : KeySize.kind pk = .rsa) :
    publicBitEstimate pk = (rsaModulusBits pk).getD 0 := by
  unfold publicBitEstimate
  rw [rsa]

theorem rsaModulusBits_of_modulus {pk : Pub} {bytes : ByteArray}
    (modulus : KeySize.modulus pk = some bytes) :
    rsaModulusBits pk =
      if bytes.data.toList.length * 8 ≤ Text.u32Max then some (bytes.data.toList.length * 8)
      else none := by
  unfold rsaModulusBits
  rw [modulus]
  rfl

/-- The bits for which the bytes of a modulus have room. -/
def modulusRoom (n : Nat) : Nat := ((Nat.log 2 n + 1) / 8 + 1) * 8

theorem bits_lt_modulusRoom (n : Nat) : Nat.log 2 n + 1 < modulusRoom n := by
  unfold modulusRoom
  omega

/-- The number shown is a multiple of eight that depends on the bit length only. -/
theorem publicBitEstimate_eq_modulusRoom {pk : Pub} {bytes : ByteArray} {n : Nat}
    (positive : 1 ≤ n) (rsa : KeySize.kind pk = .rsa)
    (modulus : KeySize.modulus pk = some bytes)
    (encoded : Mpint.Encodes bytes.data.toList n) :
    publicBitEstimate pk = if modulusRoom n ≤ Text.u32Max then modulusRoom n else 0 := by
  rw [publicBitEstimate_of_rsa rsa, rsaModulusBits_of_modulus modulus,
    encoded.length_eq (Nat.ne_of_gt positive)]
  change Option.getD (if modulusRoom n ≤ _ then some (modulusRoom n) else none) 0 = _
  by_cases fits : modulusRoom n ≤ Text.u32Max
  · rw [if_pos fits, if_pos fits, Option.getD_some]
  · rw [if_neg fits, if_neg fits, Option.getD_none]

/-- The number shown of an RSA key is never the bit length of its modulus. -/
theorem estimate_never_exact {pk : Pub} {bytes : ByteArray} {n : Nat} (positive : 1 ≤ n)
    (rsa : KeySize.kind pk = .rsa) (modulus : KeySize.modulus pk = some bytes)
    (encoded : Mpint.Encodes bytes.data.toList n) :
    publicBitEstimate pk ≠ Nat.log 2 n + 1 := by
  have wider := bits_lt_modulusRoom n
  rw [publicBitEstimate_eq_modulusRoom positive rsa modulus encoded]
  by_cases fits : modulusRoom n ≤ Text.u32Max
  · rw [if_pos fits]
    exact wider.ne'
  · rw [if_neg fits]
    exact (Nat.succ_ne_zero _).symm

end

/-! ### A key of 2048 bits -/

/-- An RSA key, and the field of its one-line form that holds its numbers. -/
structure RsaKey where
  n : Nat
  positive : 1 ≤ n
  blob : String
  comment : String

instance : KeySize RsaKey where
  algorithm _ := "ssh-rsa"
  comment := RsaKey.comment
  toOpenssh key := .ok s!"ssh-rsa {key.blob} {key.comment}"
  kind _ := .rsa
  modulus key := some ⟨(Mpint.encode key.n).toArray⟩

theorem RsaKey.modulus_encoded (key : RsaKey) : ∃ bytes, KeySize.modulus key = some bytes ∧
    Mpint.Encodes bytes.data.toList key.n :=
  ⟨_, rfl, Mpint.encodes_encode key.n⟩

private def oddKey (b : Nat) : RsaKey :=
  ⟨2 ^ b + 1, Nat.le_add_left 1 _, "AAAAB3NzaC1yc2EAAAADAQAB", "id"⟩

private theorem log_oddKey (b : Nat) (top : 0 < b) : Nat.log 2 (oddKey b).n = b := by
  have even : 1 < 2 ^ b := Nat.one_lt_two_pow top.ne'
  apply Nat.log_eq_of_pow_le_of_lt_pow
  · exact Nat.le_add_right _ _
  · calc (oddKey b).n = 2 ^ b + 1 := rfl
      _ < 2 ^ b + 2 ^ b := by omega
      _ = 2 ^ (b + 1) := by rw [pow_succ, Nat.mul_two]

theorem estimate_of_2048_bits :
    publicBitEstimate (oddKey 2047) ≠ Nat.log 2 (oddKey 2047).n + 1 := by
  obtain ⟨bytes, modulus, encoded⟩ := (oddKey 2047).modulus_encoded
  exact estimate_never_exact (oddKey 2047).positive rfl modulus encoded

theorem size_shown_of_2048_bits :
    publicBitEstimate (oddKey 2047) = 2056 ∧ Nat.log 2 (oddKey 2047).n + 1 = 2048 := by
  obtain ⟨bytes, modulus, encoded⟩ := (oddKey 2047).modulus_encoded
  have shown := publicBitEstimate_eq_modulusRoom (oddKey 2047).positive rfl modulus encoded
  have bits := log_oddKey 2047 (by decide)
  rw [shown, modulusRoom, bits]
  decide

end Gitway.KeygenShim
