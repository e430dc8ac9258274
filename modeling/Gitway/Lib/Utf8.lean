import Mathlib.Data.List.Basic

/-!
# Decoding bytes that may not be UTF-8

A decoder that reads one byte at a time. A sequence that cannot be continued is given up
as a whole, up to the byte that does not fit, and that byte starts the next character.
-/
namespace Lib.Utf8

/-- A character begun: its bits so far, the bytes that are missing, and what the next one
may be. -/
structure Begun where
  bits : Nat
  missing : Nat
  low : UInt8
  high : UInt8
  deriving DecidableEq, Repr

/-- What a byte is at the start of a character. -/
inductive Lead where
  | whole (c : Char)
  | begun (b : Begun)
  | invalid

def lead (b : UInt8) : Lead :=
  if b < 0x80 then .whole (Char.ofNat b.toNat)
  else if 0xC2 ≤ b ∧ b ≤ 0xDF then .begun ⟨b.toNat % 32, 1, 0x80, 0xBF⟩
  else if b = 0xE0 then .begun ⟨0, 2, 0xA0, 0xBF⟩
  else if b = 0xED then .begun ⟨13, 2, 0x80, 0x9F⟩
  else if 0xE1 ≤ b ∧ b ≤ 0xEF then .begun ⟨b.toNat % 16, 2, 0x80, 0xBF⟩
  else if b = 0xF0 then .begun ⟨0, 3, 0x90, 0xBF⟩
  else if 0xF1 ≤ b ∧ b ≤ 0xF3 then .begun ⟨b.toNat % 8, 3, 0x80, 0xBF⟩
  else if b = 0xF4 then .begun ⟨4, 3, 0x80, 0x8F⟩
  else .invalid

/-- The characters of the bytes, with nothing in the place of each sequence given up. -/
def pieces : Option Begun → List UInt8 → List (Option Char)
  | none, [] => []
  | some _, [] => [none]
  | begun, b :: rest =>
    let start : List (Option Char) :=
      match lead b with
      | .whole c => some c :: pieces none rest
      | .begun next => pieces (some next) rest
      | .invalid => none :: pieces none rest
    match begun with
    | none => start
    | some p =>
      if p.low ≤ b ∧ b ≤ p.high then
        let bits := p.bits * 64 + b.toNat % 64
        if p.missing = 1 then some (Char.ofNat bits) :: pieces none rest
        else pieces (some ⟨bits, p.missing - 1, 0x80, 0xBF⟩) rest
      else none :: start

/-- The text, if the bytes are valid. -/
def decode (bytes : List UInt8) : Option String :=
  if (pieces none bytes).all Option.isSome then
    some (String.ofList ((pieces none bytes).map fun c => c.getD '\x00'))
  else none

/-- The text, with the replacement character for each sequence given up. -/
def lossy (bytes : List UInt8) : String :=
  String.ofList ((pieces none bytes).map fun c => c.getD (Char.ofNat 0xFFFD))

theorem lossy_of_decode {bytes : List UInt8} {s : String} (valid : decode bytes = some s) :
    lossy bytes = s := by
  unfold decode at valid
  split at valid
  next every =>
    rw [← Option.some.inj valid]
    unfold lossy
    congr 1
    apply List.map_congr_left
    intro c member
    -- Every piece is a character, so nothing is replaced.
    obtain ⟨c, rfl⟩ := Option.isSome_iff_exists.mp (List.all_eq_true.mp every c member)
    rfl
  · simp at valid

/-- The bytes of an ASCII text. -/
def ascii (s : String) : List UInt8 := s.toList.map fun c => c.toNat.toUInt8

example : lossy [0x61, 0xFF, 0xE2, 0x82, 0x62] = "a\uFFFD\uFFFDb" := by decide

end Lib.Utf8
