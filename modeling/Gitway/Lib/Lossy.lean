import Gitway.Lib.Runs
import Mathlib.Logic.Function.Basic

/-!
# Stores that may lose what they hold

A store has cells, each with a value or with nothing. A write that succeeds sets its cell. One
that fails leaves the cell as it was, or empties it in a store that `loses`. The results say of
a value that is read where it came from, and of a cell that is empty what emptied it.
-/
namespace Lib
namespace Lossy

variable {κ ν : Type}

inductive Event (κ ν : Type) where
  | write (k : κ) (v : ν) (done : Bool)
  | erase (k : κ) (done : Bool)
  | read (k : κ) (answer : Option ν)
  /-- A read to which the store answers that nothing is there. -/
  | missing (k : κ)
  | look

/-- The event succeeds in giving the cell a new content. -/
def Event.Sets (k : κ) : Event κ ν → Prop
  | .write k' _ true | .erase k' true => k' = k
  | _ => False

/-- The event succeeds in putting a value into the cell. -/
def Event.Puts (k : κ) : Event κ ν → Prop
  | .write k' _ true => k' = k
  | _ => False

/-- The event may take away what is in the cell. -/
def Event.Takes (loses : Prop) (k : κ) : Event κ ν → Prop
  | .write k' _ false => loses ∧ k' = k
  | .erase k' true => k' = k
  | _ => False

variable [DecidableEq κ]

inductive Step (loses : Prop) : (κ → Option ν) → Event κ ν → (κ → Option ν) → Prop where
  | written (m : κ → Option ν) (k : κ) (v : ν) :
    Step loses m (.write k v true) (Function.update m k (some v))
  | not_written (m : κ → Option ν) (k : κ) (v : ν) : Step loses m (.write k v false) m
  | lost (m : κ → Option ν) (k : κ) (v : ν) (may : loses) :
    Step loses m (.write k v false) (Function.update m k none)
  | erased (m : κ → Option ν) (k : κ) : Step loses m (.erase k true) (Function.update m k none)
  | not_erased (m : κ → Option ν) (k : κ) : Step loses m (.erase k false) m
  | found (m : κ → Option ν) (k : κ) (v : ν) (there : m k = some v) :
    Step loses m (.read k (some v)) m
  | not_found (m : κ → Option ν) (k : κ) : Step loses m (.read k none) m
  | missing (m : κ → Option ν) (k : κ) (gone : m k = none) : Step loses m (.missing k) m
  | look (m : κ → Option ν) : Step loses m .look m

variable {loses : Prop} {m m' : κ → Option ν} {e : Event κ ν} {es : List (Event κ ν)} {k : κ}
  {v : ν}

/-- What is in a cell after a step was written by it, or was there before. -/
theorem Step.held (step : Step loses m e m') (held : m' k = some v) :
    e = .write k v true ∨ m k = some v ∧ ¬ e.Sets k := by
  -- Only the cell that the event names can change.
  cases step with
  | written k' v' =>
    by_cases same : k = k'
    · subst same
      rw [Function.update_self] at held
      exact Or.inl (by rw [Option.some.inj held])
    · rw [Function.update_of_ne same] at held
      exact Or.inr ⟨held, fun sets => same sets.symm⟩
  | not_written k' v' => exact Or.inr ⟨held, id⟩
  | lost k' v' may =>
    by_cases same : k = k'
    · subst same
      simp at held
    · rw [Function.update_of_ne same] at held
      exact Or.inr ⟨held, id⟩
  | erased k' =>
    by_cases same : k = k'
    · subst same
      simp at held
    · rw [Function.update_of_ne same] at held
      exact Or.inr ⟨held, fun sets => same sets.symm⟩
  | not_erased k' => exact Or.inr ⟨held, id⟩
  | found k' v' there => exact Or.inr ⟨held, id⟩
  | not_found k' => exact Or.inr ⟨held, id⟩
  | missing k' => exact Or.inr ⟨held, id⟩
  | look => exact Or.inr ⟨held, id⟩

/-- A cell that is empty after a step was emptied by it, or was empty before. -/
theorem Step.empty (step : Step loses m e m') (empty : m' k = none) :
    e.Takes loses k ∨ m k = none ∧ ¬ e.Puts k := by
  cases step with
  | written k' v' =>
    by_cases same : k = k'
    · subst same
      simp at empty
    · rw [Function.update_of_ne same] at empty
      exact Or.inr ⟨empty, fun puts => same puts.symm⟩
  | lost k' v' may =>
    by_cases same : k = k'
    · exact Or.inl ⟨may, same.symm⟩
    · rw [Function.update_of_ne same] at empty
      exact Or.inr ⟨empty, id⟩
  | erased k' =>
    by_cases same : k = k'
    · exact Or.inl same.symm
    · rw [Function.update_of_ne same] at empty
      exact Or.inr ⟨empty, id⟩
  | not_written k' v' => exact Or.inr ⟨empty, id⟩
  | not_erased k' => exact Or.inr ⟨empty, id⟩
  | found k' v' there => exact Or.inr ⟨empty, id⟩
  | not_found k' => exact Or.inr ⟨empty, id⟩
  | missing k' => exact Or.inr ⟨empty, id⟩
  | look => exact Or.inr ⟨empty, id⟩

/-- The last value that was written to the cell, or the one that it had from the start. No
event after that succeeds in changing the cell. -/
def Latest (m : κ → Option ν) (es : List (Event κ ν)) (k : κ) (v : ν) : Prop :=
  m k = some v ∧ (∀ e ∈ es, ¬ e.Sets k) ∨
    ∃ before after, es = before ++ .write k v true :: after ∧ ∀ e ∈ after, ¬ e.Sets k

/-- Nothing was in the cell from the start, or an event took it. No event after that puts a
value into the cell. -/
def Vacant (loses : Prop) (m : κ → Option ν) (es : List (Event κ ν)) (k : κ) : Prop :=
  m k = none ∧ (∀ e ∈ es, ¬ e.Puts k) ∨
    ∃ before e after, es = before ++ e :: after ∧ e.Takes loses k ∧ ∀ e' ∈ after, ¬ e'.Puts k

/-- Run lemma: what is in a cell at the end is the latest value of the cell. -/
theorem latest_of_held (run : Run (Step loses) m es m') (held : m' k = some v) :
    Latest m es k v := by
  have since := Run.since (P := fun m => m k = some v) (fun _ _ _ step => step.held) run held
  rcases since with start | ⟨before, e, after, split, rfl, kept⟩
  · exact Or.inl start
  · exact Or.inr ⟨before, after, split, kept⟩

/-- Run lemma: a cell that is empty at the end is vacant. -/
theorem vacant_of_empty (run : Run (Step loses) m es m') (empty : m' k = none) :
    Vacant loses m es k := by
  have since := Run.since (P := fun m => m k = none) (fun _ _ _ step => step.empty) run empty
  exact since

/-- Every value that is read in a run is the latest of its cell. -/
theorem latest_of_read {before after : List (Event κ ν)}
    (run : Run (Step loses) m (before ++ .read k (some v) :: after) m') :
    Latest m before k v := by
  -- The run up to the read ends with the value in its cell.
  obtain ⟨mid, first, rest⟩ := run.of_append
  cases rest with
  | cons read _ =>
    cases read with
    | found _ _ there => exact latest_of_held first there

/-- Every cell that is said to hold nothing in a run is vacant. -/
theorem vacant_of_missing {before after : List (Event κ ν)}
    (run : Run (Step loses) m (before ++ .missing k :: after) m') :
    Vacant loses m before k := by
  obtain ⟨mid, first, rest⟩ := run.of_append
  cases rest with
  | cons read _ =>
    cases read with
    | missing _ gone => exact vacant_of_empty first gone

/-- The contents of the cells at the end and the answers on the way, as the events account
for them. -/
structure Explains (loses : Prop) (m : κ → Option ν) (es : List (Event κ ν))
    (m' : κ → Option ν) : Prop where
  held : ∀ k v, m' k = some v → Latest m es k v
  empty : ∀ k, m' k = none → Vacant loses m es k
  read : ∀ before k v after, es = before ++ .read k (some v) :: after → Latest m before k v
  missing : ∀ before k after, es = before ++ .missing k :: after → Vacant loses m before k

theorem explains_of_run (run : Run (Step loses) m es m') : Explains loses m es m' where
  held _ _ held := latest_of_held run held
  empty _ empty := vacant_of_empty run empty
  read _ _ _ _ split := latest_of_read (split ▸ run)
  missing _ _ _ split := vacant_of_missing (split ▸ run)

end Lossy
end Lib
