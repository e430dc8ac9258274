import Gitway.Lib.Numeral
import Mathlib.Data.List.DropRight

/-!
# Rust string operations

The `str` and `String` operations the sources call, over the characters of a
Lean string.
-/
namespace Gitway.Text

/-- `char::is_whitespace`: the Unicode property `White_Space`. -/
def isWhitespace (c : Char) : Bool :=
  let n := c.toNat
  (0x09 ≤ n && n ≤ 0x0d) || n == 0x20 || n == 0x85 || n == 0xa0 || n == 0x1680 ||
    (0x2000 ≤ n && n ≤ 0x200a) || n == 0x2028 || n == 0x2029 || n == 0x202f || n == 0x205f ||
    n == 0x3000

/-- `str::trim`. -/
def trim (s : String) : String :=
  String.ofList ((s.toList.dropWhile isWhitespace).rdropWhile isWhitespace)

/-- `str::trim_end_matches` for the newline. -/
def trimEndNewlines (s : String) : String :=
  String.ofList (s.toList.rdropWhile (· == '\n'))

def startsWith (s start : String) : Bool := start.toList.isPrefixOf s.toList

/-- `str::strip_prefix`. -/
def stripStart (s start : String) : Option String :=
  if startsWith s start then some (String.ofList (s.toList.drop start.toList.length)) else none

/-- `str::strip_suffix`. -/
def stripEnd (s ending : String) : Option String :=
  if ending.toList.isSuffixOf s.toList then
    some (String.ofList (s.toList.take (s.toList.length - ending.toList.length)))
  else none

/-- `str::to_ascii_lowercase`. -/
def toAsciiLowercase (s : String) : String := String.ofList (s.toList.map Char.toLower)

/-- `str::to_ascii_uppercase`. -/
def toAsciiUppercase (s : String) : String := String.ofList (s.toList.map Char.toUpper)

/-- `str::eq_ignore_ascii_case`. -/
def eqIgnoreAsciiCase (s t : String) : Bool :=
  s.toList.map Char.toLower == t.toList.map Char.toLower

def u32Max : Nat := 4294967295

def u64Max : Nat := 18446744073709551615

def i32Min : Int := -2147483648

def i32Max : Int := 2147483647

/-- `str::parse::<u32>`. -/
def parseU32 (s : String) : Option Nat := Lib.Numeral.parseUnsigned u32Max s.toList

/-- `str::parse::<u64>`. -/
def parseU64 (s : String) : Option Nat := Lib.Numeral.parseUnsigned u64Max s.toList

/-- `str::parse::<i32>`. -/
def parseI32 (s : String) : Option Int :=
  Lib.Numeral.parseSigned i32Min i32Max s.toList

private def debugChar (c : Char) : List Char :=
  if c = '"' then ['\\', '"']
  else if c = '\\' then ['\\', '\\']
  else if c = '\n' then ['\\', 'n']
  else if c = '\r' then ['\\', 'r']
  else if c = '\t' then ['\\', 't']
  else if c.toNat = 0 then ['\\', '0']
  else if c.toNat < 0x20 ∨ c.toNat = 0x7f then
    ['\\', 'u', '\x7b'] ++ Nat.toDigits 16 c.toNat ++ ['\x7d']
  else [c]

/-- The `Debug` rendering of a string. Characters outside ASCII are kept as they
are, which is what the standard library does for the printable ones. -/
def debugStr (s : String) : String :=
  "\"" ++ String.ofList (s.toList.flatMap debugChar) ++ "\""

/-! ### Facts about the operations -/

@[simp] theorem startsWith_append (s t : String) : startsWith (s ++ t) s = true := by
  simp [startsWith, String.toList_append]

@[simp] theorem stripStart_append (s t : String) : stripStart (s ++ t) s = some t := by
  simp [stripStart, String.toList_append]

theorem stripStart_eq_some_iff {s start rest : String} :
    stripStart s start = some rest ↔ s = start ++ rest := by
  constructor
  · intro stripped
    unfold stripStart startsWith at stripped
    split at stripped
    next found =>
      simp only [Option.some.injEq] at stripped
      obtain ⟨tail, same⟩ := List.isPrefixOf_iff_prefix.mp found
      subst rest
      apply String.toList_injective
      rw [String.toList_append, String.toList_ofList, ← same]
      simp
    · simp at stripped
  · rintro rfl
    exact stripStart_append start rest

theorem parseI32_nonpos_iff (s : String) :
    (∃ n, parseI32 s = some n ∧ n ≤ 0) ↔ Lib.Numeral.NonPositive i32Min s.toList :=
  Lib.Numeral.parseSigned_nonpos_iff (by decide) (by decide) s.toList

theorem trim_eq_self {s : String} (solid : ∀ c ∈ s.toList, isWhitespace c = false) :
    trim s = s := by
  have left : s.toList.dropWhile isWhitespace = s.toList := by
    rw [List.dropWhile_eq_self_iff]
    intro nonempty
    rw [solid _ (List.getElem_mem nonempty)]
    exact Bool.false_ne_true
  have right : s.toList.rdropWhile isWhitespace = s.toList := by
    rw [List.rdropWhile_eq_self_iff]
    intro nonempty
    rw [solid _ (List.getLast_mem nonempty)]
    exact Bool.false_ne_true
  rw [trim, left, right, String.ofList_toList]

private theorem digit_not_whitespace {c : Char} (digit : c.isDigit = true) :
    isWhitespace c = false := by
  have bounds := Lib.Numeral.digit_bounds digit
  simp only [isWhitespace, Bool.or_eq_false_iff, Bool.and_eq_false_iff, decide_eq_false_iff_not,
    beq_eq_false_iff_ne]
  omega

/-- A decimal rendering is read back, trimmed or not. -/
theorem parseI32_trim_toString {n : Nat} (bounded : (n : Int) ≤ i32Max) :
    parseI32 (trim (toString n)) = some (n : Int) := by
  have digits := (Lib.Numeral.allDigits_toDigits n).2
  rw [List.all_eq_true] at digits
  have text : (toString n).toList = Nat.toDigits 10 n := by
    rw [Nat.toString_eq_ofList_toDigits, String.toList_ofList]
  have solid : ∀ c ∈ (toString n).toList, isWhitespace c = false := by
    intro c member
    rw [text] at member
    exact digit_not_whitespace (digits c member)
  rw [trim_eq_self solid, parseI32, text]
  exact Lib.Numeral.parseSigned_toDigits (by decide) bounded

/-- Trimming a text that starts with this line leaves the line exactly when nothing but
newlines follow it. -/
theorem trimEndNewlines_append_iff {line rest : String} (single : '\n' ∉ line.toList) :
    trimEndNewlines (line ++ rest) = line ↔ ∀ c ∈ rest.toList, c = '\n' := by
  have text : (trimEndNewlines (line ++ rest)).toList =
      (line.toList ++ rest.toList).rdropWhile (· == '\n') := by
    simp [trimEndNewlines]
  rw [← String.toList_inj, text]
  constructor
  · intro trimmed c member
    -- What was cut off is the rest.
    have whole := List.rdropWhile_append_rtakeWhile (p := (· == '\n'))
      (l := line.toList ++ rest.toList)
    rw [trimmed, List.append_cancel_left_eq] at whole
    rw [← whole] at member
    simpa using List.mem_rtakeWhile_imp member
  · intro blank
    generalize rest.toList = cs at blank
    induction cs using List.reverseRecOn with
    | nil =>
      rw [List.append_nil, List.rdropWhile_eq_self_iff]
      intro nonempty last
      have newline : line.toList.getLast nonempty = '\n' := by simpa using last
      exact single (newline ▸ List.getLast_mem nonempty)
    | append_singleton cs c ih =>
      have newline : c = '\n' := blank c (by simp)
      rw [← List.append_assoc, List.rdropWhile_concat_pos _ _ _ (by simp [newline])]
      exact ih fun c member => blank c (by simp [member])

/-- Lines in one text: it holds nothing but newlines exactly when every line is empty. -/
theorem intercalate_blank_iff {lines : List String}
    (single : ∀ line ∈ lines, '\n' ∉ line.toList) :
    (∀ c ∈ ("\n".intercalate lines).toList, c = '\n') ↔ ∀ line ∈ lines, line = "" := by
  have blank_iff (line : String) (single : '\n' ∉ line.toList) :
      (∀ c ∈ line.toList, c = '\n') ↔ line = "" := by
    constructor
    · intro blank
      rw [← String.toList_inj, String.toList_empty, List.eq_nil_iff_forall_not_mem]
      intro c member
      exact single (blank c member ▸ member)
    · rintro rfl
      simp
  induction lines with
  | nil => simp
  | cons line rest ih =>
    have here := blank_iff line (single line (by simp))
    have there := ih fun line member => single line (by simp [member])
    cases rest with
    | nil => simpa using here
    | cons next rest =>
      rw [String.intercalate_cons_cons]
      simp only [String.toList_append, List.mem_append, or_imp, forall_and, here, there]
      simp

end Gitway.Text
