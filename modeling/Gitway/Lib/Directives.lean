import Mathlib.Data.List.Infix

/-!
# Rules for what starts alike

A list of rules, each for the words with a given start. The rule with the longest start
decides on a word, and the last of those with one start.
-/
namespace Lib
namespace Directives

variable {α ι : Type}

structure Rule (α ι : Type) where
  start : List α
  value : ι

variable [DecidableEq α]

/-- The rule that decides on the word. -/
def deciding (word : List α) : List (Rule α ι) → Option (Rule α ι)
  | [] => none
  | r :: rs =>
    match deciding word rs with
    | some later =>
      if r.start <+: word ∧ later.start.length < r.start.length then some r else some later
    | none => if r.start <+: word then some r else none

variable {word : List α} {rules : List (Rule α ι)} {r : Rule α ι}

theorem deciding_eq_none_iff :
    deciding word rules = none ↔ ∀ r ∈ rules, ¬ r.start <+: word := by
  induction rules with
  | nil => simp [deciding]
  | cons first rest ih =>
    rw [List.forall_mem_cons, ← ih]
    simp only [deciding]
    cases deciding word rest with
    | none => simp
    | some later =>
      dsimp only
      split <;> simp

/-- The rule that decides is one of those given, for a start of the word. -/
theorem deciding_mem (decides : deciding word rules = some r) :
    r ∈ rules ∧ r.start <+: word := by
  induction rules with
  | nil => simp [deciding] at decides
  | cons first rest ih =>
    unfold deciding at decides
    cases later : deciding word rest with
    | none =>
      simp only [later, Option.ite_none_right_eq_some, Option.some.injEq] at decides
      obtain ⟨covers, rfl⟩ := decides
      exact ⟨List.mem_cons_self, covers⟩
    | some other =>
      simp only [later] at decides
      split at decides
      · rename_i longer
        obtain rfl := Option.some.inj decides
        exact ⟨List.mem_cons_self, longer.1⟩
      · rw [← later] at decides
        obtain ⟨member, covers⟩ := ih decides
        exact ⟨List.mem_cons_of_mem _ member, covers⟩

/-- No rule for a longer start of the word is left aside. -/
theorem deciding_longest (decides : deciding word rules = some r) :
    ∀ other ∈ rules, other.start <+: word → other.start.length ≤ r.start.length := by
  induction rules generalizing r with
  | nil => simp
  | cons first rest ih =>
    unfold deciding at decides
    cases later : deciding word rest with
    | none =>
      simp only [later, Option.ite_none_right_eq_some, Option.some.injEq] at decides
      obtain ⟨_, rfl⟩ := decides
      rw [List.forall_mem_cons]
      exact ⟨fun _ => le_rfl, fun other member covers =>
        absurd covers (deciding_eq_none_iff.mp later other member)⟩
    | some best =>
      simp only [later] at decides
      have among := ih later
      rw [List.forall_mem_cons]
      split at decides
      · rename_i longer
        obtain rfl := Option.some.inj decides
        exact ⟨fun _ => le_rfl, fun other member covers =>
          (among other member covers).trans longer.2.le⟩
      · rename_i shorter
        obtain rfl := Option.some.inj decides
        exact ⟨fun covers => not_lt.mp fun longer => shorter ⟨covers, longer⟩, among⟩

theorem deciding_cons_of_not (other : ¬ r.start <+: word) :
    deciding word (r :: rules) = deciding word rules := by
  simp only [deciding]
  cases deciding word rules with
  | none => simp [other]
  | some later => simp [other]

/-- A rule that no other one contests decides. -/
theorem deciding_alone (covers : r.start <+: word)
    (others : ∀ other ∈ rules, ¬ other.start <+: word) :
    deciding word (r :: rules) = some r := by
  simp only [deciding, deciding_eq_none_iff.mpr others, covers, if_true]

/-- Where every rule but one, for all words, gives the same value, what decides is whether any of
them is for a start of the word. -/
theorem deciding_value {base value : ι} {starts : List (List α)} (proper : ∀ s ∈ starts, s ≠ [])
    (decides : deciding word (⟨[], base⟩ :: starts.map fun s => ⟨s, value⟩) = some r) :
    r.value = if ∃ s ∈ starts, s <+: word then value else base := by
  obtain ⟨member, covers⟩ := deciding_mem decides
  split
  · rename_i covered
    obtain ⟨s, listed, starts_word⟩ := covered
    have longest := deciding_longest decides ⟨s, value⟩
      (List.mem_cons_of_mem _ (List.mem_map_of_mem listed)) starts_word
    rcases List.mem_cons.mp member with rfl | mapped
    · -- The rule for all words is shorter than any other.
      exact absurd (List.eq_nil_of_length_eq_zero (Nat.le_zero.mp longest)) (proper s listed)
    · obtain ⟨_, _, rfl⟩ := List.mem_map.mp mapped
      rfl
  · rename_i uncovered
    rcases List.mem_cons.mp member with rfl | mapped
    · rfl
    · obtain ⟨s, listed, rfl⟩ := List.mem_map.mp mapped
      exact absurd ⟨s, listed, covers⟩ uncovered

theorem deciding_ne_none {base : ι} {rest : List (Rule α ι)} :
    deciding word (⟨[], base⟩ :: rest) ≠ none := by
  intro none_decides
  exact deciding_eq_none_iff.mp none_decides ⟨[], base⟩ List.mem_cons_self (List.nil_prefix)

end Directives
end Lib
