import Gitway.Lib.Runs
import Mathlib.Data.Set.Basic
import Mathlib.Logic.Function.Basic

/-!
# Keyrings with a lock

A keyring holds keys, each on some terms. While it is locked, nothing can be done to it but
unlock it with the secret that it was locked with, or give it up for a new one. Keys on mortal
terms may expire at any time. The results say, from the operations of a run, which keys are
held at its end.
-/
namespace Lib

structure Keyring (κ τ ς : Type) where
  lock : Option ς
  terms : κ → Option τ

namespace Keyring

variable {κ τ ς : Type}

inductive Op (κ τ ς : Type) where
  | insert (k : κ) (t : τ)
  | erase (k : κ)
  | clear
  | lock (s : ς)
  | unlock (s : ς)
  | expire (gone : Set κ)
  | reset

/-- The operation takes the key away. -/
def Op.Removes (k : κ) : Op κ τ ς → Prop
  | .erase k' => k' = k
  | .clear => True
  | .expire gone => k ∈ gone
  | .reset => True
  | _ => False

/-- A new keyring. -/
def empty : Keyring κ τ ς := ⟨none, fun _ => none⟩

/-- The keyring without these keys. -/
noncomputable def without (r : Keyring κ τ ς) (gone : Set κ) : Keyring κ τ ς :=
  open Classical in { r with terms := fun k => if k ∈ gone then none else r.terms k }

/-- The keyring with this key, on these terms whatever they were before. -/
noncomputable def holding (r : Keyring κ τ ς) (k : κ) (t : τ) : Keyring κ τ ς :=
  open Classical in { r with terms := Function.update r.terms k (some t) }

inductive Step (mortal : τ → Prop) : Keyring κ τ ς → Op κ τ ς → Keyring κ τ ς → Prop where
  | insert {r : Keyring κ τ ς} (k : κ) (t : τ) (opened : r.lock = none) :
    Step mortal r (.insert k t) (r.holding k t)
  | erase {r : Keyring κ τ ς} (k : κ) (opened : r.lock = none) :
    Step mortal r (.erase k) (r.without {k})
  | clear {r : Keyring κ τ ς} (opened : r.lock = none) :
    Step mortal r .clear (r.without Set.univ)
  | lock {r : Keyring κ τ ς} (s : ς) (opened : r.lock = none) :
    Step mortal r (.lock s) { r with lock := some s }
  | unlock {r : Keyring κ τ ς} (s : ς) (locked : r.lock = some s) :
    Step mortal r (.unlock s) { r with lock := none }
  | expire {r : Keyring κ τ ς} (gone : Set κ)
      (due : ∀ k ∈ gone, ∀ t, r.terms k = some t → mortal t) :
    Step mortal r (.expire gone) (r.without gone)
  | reset {r : Keyring κ τ ς} : Step mortal r .reset empty

section
variable {r : Keyring κ τ ς} {k k' : κ} {t t' : τ} {gone : Set κ}

@[simp] theorem without_lock : (r.without gone).lock = r.lock := rfl

@[simp] theorem holding_lock : (r.holding k t).lock = r.lock := rfl

theorem without_terms_eq_some_iff :
    (r.without gone).terms k = some t ↔ k ∉ gone ∧ r.terms k = some t := by
  unfold without
  by_cases member : k ∈ gone
  · simp [member]
  · simp [member]

theorem without_terms_eq_none_iff :
    (r.without gone).terms k = none ↔ k ∈ gone ∨ r.terms k = none := by
  unfold without
  by_cases member : k ∈ gone
  · simp [member]
  · simp [member]

theorem holding_terms_eq_some_iff :
    (r.holding k t).terms k' = some t' ↔
      k' = k ∧ t' = t ∨ k' ≠ k ∧ r.terms k' = some t' := by
  unfold holding
  by_cases same : k' = k
  · subst same
    simp [eq_comm]
  · simp [same]

theorem holding_terms_eq_none_iff :
    (r.holding k t).terms k' = none ↔ k' ≠ k ∧ r.terms k' = none := by
  unfold holding
  by_cases same : k' = k
  · subst same
    simp
  · simp [same]

end

variable {mortal : τ → Prop} {r r' : Keyring κ τ ς} {op : Op κ τ ς} {ops : List (Op κ τ ς)}
  {k : κ} {t : τ}

/-! ### Keyrings that compute -/

theorem holding_eq [DecidableEq κ] (r : Keyring κ τ ς) (k : κ) (t : τ) :
    r.holding k t = { r with terms := Function.update r.terms k (some t) } := by
  unfold holding
  congr!

theorem eq_without {r r' : Keyring κ τ ς} {gone : Set κ} (lock : r'.lock = r.lock)
    (away : ∀ k ∈ gone, r'.terms k = none) (kept : ∀ k ∉ gone, r'.terms k = r.terms k) :
    r' = r.without gone := by
  obtain ⟨lock', terms'⟩ := r'
  obtain rfl : lock' = r.lock := lock
  unfold without
  congr
  funext k
  by_cases member : k ∈ gone
  · rw [if_pos member]
    exact away k member
  · rw [if_neg member]
    exact kept k member

/-! ### What is held at the end -/

/-- A key that is held after a step was put there by it, or was held before and is not one
that the step takes away. -/
theorem Step.held (step : Step mortal r op r') (held : r'.terms k = some t) :
    op = .insert k t ∨ r.terms k = some t ∧ ¬ op.Removes k := by
  cases step with
  | insert k' t' =>
    rcases holding_terms_eq_some_iff.mp held with ⟨rfl, rfl⟩ | ⟨_, before⟩
    · exact Or.inl rfl
    · exact Or.inr ⟨before, id⟩
  | erase k' =>
    obtain ⟨kept, before⟩ := without_terms_eq_some_iff.mp held
    exact Or.inr ⟨before, fun same => kept same.symm⟩
  | clear => exact absurd (Set.mem_univ k) (without_terms_eq_some_iff.mp held).1
  | lock s => exact Or.inr ⟨held, id⟩
  | unlock s => exact Or.inr ⟨held, id⟩
  | expire gone =>
    obtain ⟨kept, before⟩ := without_terms_eq_some_iff.mp held
    exact Or.inr ⟨before, kept⟩
  | reset => simp [empty] at held

/-- A key that a run ends with was held on these terms from the start, or one operation put
it there, and nothing took it away after that. -/
theorem held_from (run : Run (Step mortal) r ops r') (held : r'.terms k = some t) :
    r.terms k = some t ∧ (∀ op ∈ ops, ¬ op.Removes k) ∨
      ∃ before op after, ops = before ++ op :: after ∧ op = .insert k t ∧
        ∀ op' ∈ after, ¬ op'.Removes k :=
  Run.since (P := fun r => r.terms k = some t) (fun _ _ _ step => step.held) run held

/-- A key that is gone after a step was taken away by it. -/
theorem Step.gone (step : Step mortal r op r') (held : r.terms k = some t)
    (gone : r'.terms k = none) :
    op = .erase k ∨ op = .clear ∨ op = .reset ∨
      ∃ expired, op = .expire expired ∧ k ∈ expired ∧ mortal t := by
  cases step with
  | insert k' t' =>
    have absent := (holding_terms_eq_none_iff.mp gone).2
    simp [held] at absent
  | erase k' =>
    rcases without_terms_eq_none_iff.mp gone with same | absent
    · exact Or.inl (congrArg Op.erase (Eq.symm same))
    · simp [held] at absent
  | clear => exact Or.inr (Or.inl rfl)
  | lock s => simp [held] at gone
  | unlock s => simp [held] at gone
  | expire expired due =>
    rcases without_terms_eq_none_iff.mp gone with member | absent
    · exact Or.inr (Or.inr (Or.inr ⟨expired, rfl, member, due k member t held⟩))
    · simp [held] at absent
  | reset => exact Or.inr (Or.inr (Or.inl rfl))

/-! ### Under lock -/

theorem Step.locked {s : ς} (step : Step mortal r op r') (locked : r.lock = some s) :
    op = .unlock s ∨ op = .reset ∨ ∃ gone, op = .expire gone ∧ r' = r.without gone ∧
      ∀ k ∈ gone, ∀ t, r.terms k = some t → mortal t := by
  cases step with
  | insert k t opened => simp [locked] at opened
  | erase k opened => simp [locked] at opened
  | clear opened => simp [locked] at opened
  | lock s' opened => simp [locked] at opened
  | unlock s' same => exact Or.inl (by rw [Option.some.inj (same.symm.trans locked)])
  | expire gone due => exact Or.inr (Or.inr ⟨gone, rfl, rfl, due⟩)
  | reset => exact Or.inr (Or.inl rfl)

/-- While nobody unlocks it or gives it up, nothing happens to a locked keyring but that keys
expire. -/
theorem locked_run {s : ς} (run : Run (Step mortal) r ops r') (locked : r.lock = some s)
    (guarded : .unlock s ∉ ops) (kept : .reset ∉ ops) :
    r'.lock = some s ∧ (∀ op ∈ ops, ∃ gone, op = .expire gone) ∧
      ∀ k, r'.terms k = r.terms k ∨
        r'.terms k = none ∧ ∃ t, r.terms k = some t ∧ mortal t := by
  induction run with
  | nil r => exact ⟨locked, by simp, fun _ => Or.inl rfl⟩
  | @cons r mid r' op ops first rest ih =>
    rw [List.mem_cons, not_or] at guarded kept
    rcases first.locked locked with rfl | rfl | ⟨gone, rfl, rfl, due⟩
    · exact absurd rfl guarded.1
    · exact absurd rfl kept.1
    obtain ⟨still, ageing, same⟩ := ih locked guarded.2 kept.2
    refine ⟨still, List.forall_mem_cons.mpr ⟨⟨gone, rfl⟩, ageing⟩, fun k => ?_⟩
    cases before : r.terms k with
    | none =>
      have absent : (r.without gone).terms k = none :=
        without_terms_eq_none_iff.mpr (Or.inr before)
      rcases same k with as_then | ⟨_, t, was, _⟩
      · exact Or.inl (as_then.trans absent)
      · simp [absent] at was
    | some t =>
      by_cases member : k ∈ gone
      · -- It expires in the first step and stays away.
        have absent : (r.without gone).terms k = none :=
          without_terms_eq_none_iff.mpr (Or.inl member)
        rcases same k with as_then | ⟨_, t', was, _⟩
        · exact Or.inr ⟨as_then.trans absent, t, rfl, due k member t before⟩
        · simp [absent] at was
      · have kept : (r.without gone).terms k = some t :=
          without_terms_eq_some_iff.mpr ⟨member, before⟩
        have as_then := same k
        rw [kept] at as_then
        simpa using as_then

end Keyring
end Lib
