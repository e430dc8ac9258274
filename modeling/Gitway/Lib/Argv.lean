import Mathlib.Data.List.Basic

/-!
# Option loops over an argument vector

A hand-written argument parser walks over the tokens and at each one either takes
a group of them off the front, stops, or fails. This module relates such a loop to
a grammar of groups. A grammar reads at most one group off the front of a token
list, so a token list splits into groups in one way only, and the loop is a fold
of the groups' actions followed by what it does where no group can be read.

The rest of the module is about such folds: when they succeed, and what they have
collected at the end.
-/
namespace Lib.Argv

variable {T G σ ε α : Type}

/-- How one iteration of the loop ends. -/
inductive Flow (σ T : Type) where
  | next (st : σ) (rest : List T)
  | stop (st : σ)

/-- The loop, with a bound on the number of its iterations. -/
def scan (step : σ → T → List T → Except ε (Flow σ T)) : Nat → σ → List T → Except ε σ
  | _, st, [] => .ok st
  | 0, st, _ :: _ => .ok st
  | n + 1, st, a :: rest =>
    match step st a rest with
    | .error e => .error e
    | .ok (.stop st') => .ok st'
    | .ok (.next st' rest') => scan step n st' rest'

/-- Every iteration takes a token, so there are at most as many as there are tokens. -/
def run (step : σ → T → List T → Except ε (Flow σ T)) (st : σ) (args : List T) : Except ε σ :=
  scan step args.length st args

/-- An iteration never gives tokens back. -/
def Consumes (step : σ → T → List T → Except ε (Flow σ T)) : Prop :=
  ∀ st a rest st' rest', step st a rest = .ok (.next st' rest') → rest'.length ≤ rest.length

/-- The bound is never what ends the loop. -/
theorem scan_eq_run {step : σ → T → List T → Except ε (Flow σ T)} (consumes : Consumes step)
    (st : σ) (args : List T) {n : Nat} (enough : args.length ≤ n) :
    scan step n st args = run step st args := by
  -- The induction is on one bound, against any other bound that is large enough.
  have any_two : ∀ (n m : Nat) (st : σ) (args : List T), args.length ≤ n → args.length ≤ m →
      scan step n st args = scan step m st args := by
    intro n
    induction n with
    | zero =>
      intro m st args short _
      cases args with
      | nil => cases m <;> rfl
      | cons a rest => simp at short
    | succ n ih =>
      intro m st args short long
      cases args with
      | nil => cases m <;> rfl
      | cons a rest =>
        cases m with
        | zero => simp at long
        | succ m =>
          simp only [List.length_cons] at short long
          simp only [scan]
          split
          · rfl
          · rfl
          next st' rest' taken =>
            have shorter := consumes st a rest st' rest' taken
            exact ih m st' rest' (by omega) (by omega)
  exact any_two n args.length st args enough (Nat.le_refl _)

@[simp] theorem run_nil (step : σ → T → List T → Except ε (Flow σ T)) (st : σ) :
    run step st [] = .ok st := rfl

theorem run_cons {step : σ → T → List T → Except ε (Flow σ T)} (consumes : Consumes step)
    (st : σ) (a : T) (rest : List T) :
    run step st (a :: rest) =
      match step st a rest with
      | .error e => .error e
      | .ok (.stop st') => .ok st'
      | .ok (.next st' rest') => run step st' rest' := by
  show scan step (rest.length + 1) st (a :: rest) = _
  simp only [scan]
  split
  · rfl
  · rfl
  next st' rest' taken =>
    exact scan_eq_run consumes st' rest' (consumes st a rest st' rest' taken)

/-! ### Grammars of groups -/

/-- A language of groups of tokens in which the first token and what follows it
decide the group that is read. -/
structure Grammar (T G : Type) where
  tokens : G → List T
  /-- The group at the front of a token list and the tokens after it. -/
  read : T → List T → Option (G × List T)
  tokens_ne_nil : ∀ g, tokens g ≠ []
  read_tokens : ∀ g a tail rest, tokens g = a :: tail → read a (tail ++ rest) = some (g, rest)
  read_sound : ∀ a rest g rest', read a rest = some (g, rest') → a :: rest = tokens g ++ rest'

namespace Grammar

variable (L : Grammar T G)

/-- The token list that a list of groups spells. -/
def spell (gs : List G) : List T := gs.flatMap L.tokens

@[simp] theorem spell_nil : L.spell [] = [] := rfl

@[simp] theorem spell_cons (g : G) (gs : List G) :
    L.spell (g :: gs) = L.tokens g ++ L.spell gs := rfl

@[simp] theorem spell_append (gs hs : List G) : L.spell (gs ++ hs) = L.spell gs ++ L.spell hs := by
  simp [spell]

/-- No group starts here: the list is empty or its first token opens none. -/
def Stuck : List T → Prop
  | [] => True
  | a :: rest => L.read a rest = none

theorem read_spell (g : G) (rest : List T) :
    ∃ a tail, L.tokens g ++ rest = a :: tail ∧ L.read a tail = some (g, rest) := by
  cases spelled : L.tokens g with
  | nil => exact absurd spelled (L.tokens_ne_nil g)
  | cons a tail => exact ⟨a, tail ++ rest, rfl, L.read_tokens g a tail rest spelled⟩

/-- A token that no group can be read from is not the first one of a group. -/
theorem not_first {p : T → Bool} (unread : ∀ a rest, p a = true → L.read a rest = none) {g : G}
    {a : T} {tail : List T} (spelled : L.tokens g = a :: tail) : p a = false := by
  by_contra holds
  rw [← Bool.not_eq_true, not_not] at holds
  have taken := L.read_tokens g a tail [] spelled
  rw [unread a (tail ++ []) holds] at taken
  cases taken

theorem read_shorter {a : T} {rest rest' : List T} {g : G}
    (taken : L.read a rest = some (g, rest')) : rest'.length ≤ rest.length := by
  have sound := congrArg List.length (L.read_sound a rest g rest' taken)
  have some_token : 0 < (L.tokens g).length := List.length_pos_iff.mpr (L.tokens_ne_nil g)
  simp only [List.length_cons, List.length_append] at sound
  omega

/-- Reading groups for as long as possible splits every token list. -/
theorem exists_split (args : List T) :
    ∃ gs rest, args = L.spell gs ++ rest ∧ L.Stuck rest := by
  -- A group may take several tokens, so the induction is on the length.
  induction hn : args.length using Nat.strongRecOn generalizing args with
  | _ n ih =>
    cases args with
    | nil => exact ⟨[], [], rfl, trivial⟩
    | cons a rest =>
      cases taken : L.read a rest with
      | none => exact ⟨[], a :: rest, rfl, taken⟩
      | some group =>
        obtain ⟨g, rest'⟩ := group
        have shorter := L.read_shorter taken
        have smaller : rest'.length < n := by
          simp only [List.length_cons] at hn
          omega
        obtain ⟨gs, last, same, stuck⟩ := ih rest'.length smaller rest' rfl
        refine ⟨g :: gs, last, ?_, stuck⟩
        rw [L.read_sound a rest g rest' taken, same]
        simp

/-- The split is unique: groups cannot be cut in another place. -/
theorem split_unique {gs hs : List G} {rest rest' : List T} (stuck : L.Stuck rest)
    (stuck' : L.Stuck rest') (same : L.spell gs ++ rest = L.spell hs ++ rest') :
    gs = hs ∧ rest = rest' := by
  induction gs generalizing hs with
  | nil =>
    cases hs with
    | nil => exact ⟨rfl, same⟩
    | cons h hs =>
      obtain ⟨a, tail, opens, taken⟩ := L.read_spell h (L.spell hs ++ rest')
      -- A group on one side only would start where the other side is stuck.
      have front : rest = a :: tail := by
        rw [← opens, ← List.append_assoc, ← L.spell_cons]
        exact same
      rw [front] at stuck
      exact absurd (stuck.symm.trans taken) (by simp)
  | cons g gs ih =>
    obtain ⟨a, tail, opens, taken⟩ := L.read_spell g (L.spell gs ++ rest)
    rw [L.spell_cons, List.append_assoc, opens] at same
    cases hs with
    | nil =>
      have front : rest' = a :: tail := same.symm
      rw [front] at stuck'
      exact absurd (stuck'.symm.trans taken) (by simp)
    | cons h hs =>
      obtain ⟨b, tail', opens', taken'⟩ := L.read_spell h (L.spell hs ++ rest')
      rw [L.spell_cons, List.append_assoc, opens'] at same
      obtain ⟨rfl, rfl⟩ := List.cons.inj same
      -- Both sides read the same tokens, so they read the same group.
      have groups := Option.some.inj (taken.symm.trans taken')
      simp only [Prod.mk.injEq] at groups
      obtain ⟨rfl, spelled⟩ := groups
      obtain ⟨rfl, rfl⟩ := ih spelled
      exact ⟨rfl, rfl⟩

/-- The loop carries out `act` on each group that can be read. -/
def Implements (step : σ → T → List T → Except ε (Flow σ T)) (act : σ → G → Except ε σ) : Prop :=
  ∀ st a rest g rest', L.read a rest = some (g, rest') →
    step st a rest = (act st g).map fun st' => .next st' rest'

/-- The loop carries out `act` on the groups that can be read, and takes nothing else
off the front. -/
structure Follows (step : σ → T → List T → Except ε (Flow σ T)) (act : σ → G → Except ε σ) :
    Prop where
  acts : L.Implements step act
  halts : ∀ st a rest, L.read a rest = none → ∀ st' rest', step st a rest ≠ .ok (.next st' rest')

theorem Follows.consumes {step : σ → T → List T → Except ε (Flow σ T)}
    {act : σ → G → Except ε σ} (follows : L.Follows step act) : Consumes step := by
  intro st a rest st' rest' moved
  cases taken : L.read a rest with
  | none => exact absurd moved (follows.halts st a rest taken st' rest')
  | some group =>
    obtain ⟨g, after⟩ := group
    -- The iteration moves to the place where the group ends.
    have shorter := L.read_shorter taken
    rw [follows.acts st a rest g after taken] at moved
    cases acted : act st g with
    | error e => simp [acted, Except.map] at moved
    | ok next =>
      simp only [acted, Except.map, Except.ok.injEq, Flow.next.injEq] at moved
      exact moved.2 ▸ shorter

/-- Over the groups at the front, the loop is a fold of their actions. -/
theorem run_spell {step : σ → T → List T → Except ε (Flow σ T)} {act : σ → G → Except ε σ}
    (consumes : Consumes step) (implements : L.Implements step act) (gs : List G)
    (rest : List T) (st : σ) :
    run step st (L.spell gs ++ rest) = gs.foldlM act st >>= fun st' => run step st' rest := by
  induction gs generalizing st with
  | nil => rfl
  | cons g gs ih =>
    obtain ⟨a, tail, opens, taken⟩ := L.read_spell g (L.spell gs ++ rest)
    rw [L.spell_cons, List.append_assoc, opens, run_cons consumes,
      implements st a tail g _ taken, List.foldlM_cons]
    cases act st g with
    | error e => rfl
    | ok st' => exact ih st'

end Grammar

/-! ### Where options are read -/

section
variable (takes ends : T → Bool)

/-- The tokens that stand where an option is read. One that takes a value hides the token
behind it, and one that ends the options hides all that follow. -/
def optionTokens : List T → List T
  | [] => []
  | [a] => [a]
  | a :: b :: rest =>
    if ends a then [a]
    else if takes a then a :: optionTokens rest
    else a :: optionTokens (b :: rest)

/-- The tokens that are hidden from the reading of options. -/
def hiddenTokens : List T → List T
  | [] | [_] => []
  | a :: b :: rest =>
    if ends a then b :: rest
    else if takes a then b :: hiddenTokens rest
    else hiddenTokens (b :: rest)

/-- Every token is read as an option or hidden. -/
theorem any_optionTokens (p : T → Bool) (args : List T) :
    args.any p =
      ((optionTokens takes ends args).any p || (hiddenTokens takes ends args).any p) := by
  fun_induction optionTokens takes ends args with
  | case1 => rfl
  | case2 a => simp [hiddenTokens]
  | case3 a b rest last => simp [hiddenTokens, last]
  | case4 a b rest going taking ih =>
    simp only [hiddenTokens, going, taking, if_true, List.any_cons, ih]
    grind
  | case5 a b rest going alone ih =>
    simp only [hiddenTokens, going, alone, List.any_cons] at ih ⊢
    grind

variable {takes ends}

theorem optionTokens_alone {a : T} (going : ends a = false) (alone : takes a = false)
    (rest : List T) : optionTokens takes ends (a :: rest) = a :: optionTokens takes ends rest := by
  cases rest <;> simp [optionTokens, going, alone]

theorem optionTokens_taking {a : T} (going : ends a = false) (taking : takes a = true) (v : T)
    (rest : List T) :
    optionTokens takes ends (a :: v :: rest) = a :: optionTokens takes ends rest := by
  simp [optionTokens, going, taking]

/-- In a grammar whose groups are options, with a value or without, the groups' first
tokens are the ones that are read as options. -/
theorem Grammar.optionTokens_spell (L : Grammar T G)
    (shape : ∀ g, ∃ a, ends a = false ∧ (takes a = false ∧ L.tokens g = [a] ∨
      takes a = true ∧ ∃ v, L.tokens g = [a, v])) (gs : List G) (rest : List T) :
    optionTokens takes ends (L.spell gs ++ rest) =
      gs.flatMap (fun g => (L.tokens g).take 1) ++ optionTokens takes ends rest := by
  induction gs with
  | nil => rfl
  | cons g gs ih =>
    obtain ⟨a, going, ⟨alone, spelled⟩ | ⟨taking, v, spelled⟩⟩ := shape g
    · simp [spelled, optionTokens_alone going alone, ih]
    · simp [spelled, optionTokens_taking going taking, ih]

/-- Tokens that no group can be read from are read as options behind the groups only. -/
theorem Grammar.any_optionTokens_spell (L : Grammar T G)
    (shape : ∀ g, ∃ a, ends a = false ∧ (takes a = false ∧ L.tokens g = [a] ∨
      takes a = true ∧ ∃ v, L.tokens g = [a, v])) {p : T → Bool}
    (unread : ∀ a rest, p a = true → L.read a rest = none) (gs : List G) (rest : List T) :
    (optionTokens takes ends (L.spell gs ++ rest)).any p =
      (optionTokens takes ends rest).any p := by
  have opens_none : (gs.any fun g => ((L.tokens g).take 1).any p) = false := by
    rw [List.any_eq_false]
    intro g _
    cases spelled : L.tokens g with
    | nil => simp
    | cons a tail => simp [L.not_first unread spelled]
  rw [L.optionTokens_spell shape, List.any_append, List.any_flatMap, opens_none, Bool.false_or]

end

/-! ### Folds of actions -/

/-- A fold whose actions succeed or fail regardless of the state succeeds exactly
when each of them does. -/
theorem foldlM_ok_iff {act : σ → G → Except ε σ} {Valid : G → Prop}
    (valid : ∀ st g, (∃ st', act st g = .ok st') ↔ Valid g) (gs : List G) (st : σ) :
    (∃ st', gs.foldlM act st = .ok st') ↔ ∀ g ∈ gs, Valid g := by
  induction gs generalizing st with
  | nil => simp [pure, Except.pure]
  | cons g gs ih =>
    rw [List.foldlM_cons]
    simp only [List.mem_cons, forall_eq_or_imp]
    cases done : act st g with
    | error e =>
      -- The fold stops here, and this group is the reason.
      have invalid : ¬ Valid g := by
        intro ok
        obtain ⟨st', succeeded⟩ := (valid st g).mpr ok
        simp [done] at succeeded
      simp [invalid, bind, Except.bind]
    | ok st' =>
      have ok : Valid g := (valid st g).mp ⟨st', done⟩
      simpa [ok, bind, Except.bind] using ih st'

/-- Run rule for a fold of actions: what each action adds to the groups done so far
is true of all of them at the end. -/
theorem foldlM_invariant {act : σ → G → Except ε σ} {I : List G → σ → Prop}
    (step : ∀ done g st st', I done st → act st g = .ok st' → I (done ++ [g]) st') (gs : List G)
    {done : List G} {st st' : σ} (start : I done st) (ran : gs.foldlM act st = .ok st') :
    I (done ++ gs) st' := by
  induction gs generalizing done st with
  | nil =>
    cases ran
    simpa using start
  | cons g gs ih =>
    rw [List.foldlM_cons] at ran
    cases first : act st g with
    | error e => simp [first, bind, Except.bind] at ran
    | ok mid =>
      have rest : gs.foldlM act mid = .ok st' := by simpa [first, bind, Except.bind] using ran
      simpa using ih (step done g st mid start first) rest

/-- The last of the values that the groups give. -/
def lastOf (f : G → Option α) (gs : List G) : Option α := (gs.filterMap f).getLast?

@[simp] theorem lastOf_append (f : G → Option α) (gs hs : List G) :
    lastOf f (gs ++ hs) = (lastOf f hs).or (lastOf f gs) := by
  unfold lastOf
  rw [List.filterMap_append, List.getLast?_append]

/-- The value of a later group takes the place of the earlier ones. -/
@[simp] theorem lastOf_concat (f : G → Option α) (gs : List G) (g : G) :
    lastOf f (gs ++ [g]) = (f g).or (lastOf f gs) := by
  rw [lastOf_append]
  cases given : f g <;> simp [lastOf, given]

theorem lastOf_cons (f : G → Option α) (g : G) (gs : List G) :
    lastOf f (g :: gs) = (lastOf f gs).or (f g) := by
  rw [← List.singleton_append, lastOf_append]
  cases given : f g <;> simp [lastOf, given]

end Lib.Argv
