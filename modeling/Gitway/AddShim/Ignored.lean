import Gitway.AddShim.Grammar

/-!
# Ignored options of `gitway-add`

Options of `ssh-add` that the parser does not know more of are skipped one token at a time. An
argument that belongs to one is read as whatever it looks like. `ignored_together_iff` says
for which arguments that makes no difference.
-/
namespace Gitway.AddShim

open Lib

/-- The options of `ssh-add` that are accepted and ignored. -/
inductive Foreign where
  | quiet
  | verbose
  | omitComments
  | hostKeys
  | addProvider
  | askProvider
  | removeProvider
  deriving DecidableEq, Repr

def Foreign.flag : Foreign → String
  | .quiet => "-q"
  | .verbose => "-v"
  | .omitComments => "-k"
  | .hostKeys => "-H"
  | .addProvider => "-s"
  | .askProvider => "-S"
  | .removeProvider => "-e"

/-- `ssh-add` reads an argument behind the option. -/
def Foreign.takesArgument : Foreign → Bool
  | .quiet | .verbose | .omitComments => false
  | .hostKeys | .addProvider | .askProvider | .removeProvider => true

/-- The option with its argument, if it takes one. -/
def Foreign.tokens (opt : Foreign) (argument : String) : List String :=
  if opt.takesArgument then [opt.flag, argument] else [opt.flag]

theorem Foreign.flag_ignored (opt : Foreign) : opt.flag ∈ ignoredFlags := by
  cases opt <;> decide

variable {Ag Va Te : Type}

/-- An ignored flag is as good as absent, whatever follows. -/
theorem fromArgs_skip {a : String} (listed : a ∈ ignoredFlags) (gs : List Group)
    (rest : List String) (w : World Ag Va Te) :
    fromArgs (grammar.spell gs ++ a :: rest) w = fromArgs (grammar.spell gs ++ rest) w := by
  have group : grammar.spell gs ++ a :: rest =
      grammar.spell (gs ++ [.ignored a listed]) ++ rest := by
    rw [grammar.spell_append, List.append_assoc]
    rfl
  have skipped (st : Scan) :
      (gs ++ [Group.ignored a listed]).foldlM act st = gs.foldlM act st := by
    rw [List.foldlM_append]
    cases gs.foldlM act st <;> rfl
  unfold fromArgs
  rw [group, grammar.run_spell step_follows.consumes step_follows.acts, skipped,
    ← grammar.run_spell step_follows.consumes step_follows.acts]

theorem fromArgs_eq_iff (gs : List Group) (dashed : Option (List String)) (p : Parsed)
    (w : World Ag Va Te) : fromArgs (argv gs dashed) w = (.ok p, w) ↔
      Acceptable gs dashed (defaults w) ∧ p = summary gs dashed (defaults w) := by
  obtain ⟨accepts, result⟩ := fromArgs_argv_iff gs dashed w
  constructor
  · intro returned
    exact ⟨accepts.mp ⟨p, returned⟩, (result p w returned).1⟩
  · rintro ⟨accepted, rfl⟩
    exact fromArgs_argv_eq accepted

/-! ### The first group -/

theorem first_group {a : String} {tail : List String} {gs : List Group}
    {dashed : Option (List String)} (same : a :: tail = argv gs dashed) (other : a ≠ "--") :
    ∃ g hs, gs = g :: hs ∧ readArm (arm a) tail = some (g, argv hs dashed) := by
  cases gs with
  | nil =>
    cases dashed with
    | none => simp [argv, afterDashes] at same
    | some more =>
      simp only [argv, afterDashes, Argv.Grammar.spell_nil, List.nil_append,
        List.cons.injEq] at same
      exact absurd same.1 other
  | cons g hs =>
    obtain ⟨b, behind, opens, taken⟩ := grammar.read_spell g (argv hs dashed)
    have front : argv (g :: hs) dashed = b :: behind := by
      rw [← opens]
      simp [argv]
    rw [front] at same
    obtain ⟨rfl, rfl⟩ := List.cons.inj same
    exact ⟨g, hs, rfl, taken⟩

theorem argv_cons (g : Group) (gs : List Group) (dashed : Option (List String)) :
    argv (g :: gs) dashed = g.tokens ++ argv gs dashed := by
  show grammar.tokens g ++ grammar.spell gs ++ afterDashes dashed = _
  rw [List.append_assoc]
  rfl

theorem argv_append (gs hs : List Group) (dashed : Option (List String)) :
    argv (gs ++ hs) dashed = grammar.spell gs ++ argv hs dashed := by
  unfold argv
  rw [grammar.spell_append, List.append_assoc]

theorem argv_inj {gs hs : List Group} {dashed dashed' : Option (List String)}
    (same : argv gs dashed = argv hs dashed') : gs = hs ∧ dashed = dashed' := split_unique same

/-- A token without a dash in front is a group of its own. -/
theorem first_plain {a : String} (plain : Text.startsWith a "-" = false) {gs hs : List Group}
    {dashed dashed' : Option (List String)} (same : a :: argv hs dashed' = argv gs dashed) :
    gs = .positional a plain :: hs ∧ dashed' = dashed := by
  have other : a ≠ "--" := by
    rintro rfl
    exact absurd plain (by decide)
  obtain ⟨g, behind, rfl, taken⟩ := first_group same other
  rw [arm_positional plain] at taken
  simp only [readArm, Option.some.injEq, Prod.mk.injEq] at taken
  obtain ⟨rfl, rest⟩ := taken
  obtain ⟨rfl, rfl⟩ := argv_inj rest
  exact ⟨rfl, rfl⟩

/-- An option that takes a value takes the token behind it. -/
theorem first_value {opt : ValueOption} {tail : List String} {gs : List Group}
    {dashed : Option (List String)} (same : opt.flag :: tail = argv gs dashed) :
    ∃ v hs, gs = .value opt v :: hs ∧ tail = v :: argv hs dashed := by
  have other : opt.flag ≠ "--" := by cases opt <;> decide
  obtain ⟨g, hs, rfl, taken⟩ := first_group same other
  rw [arm_value] at taken
  cases tail with
  | nil => simp [readArm] at taken
  | cons v rest =>
    simp only [readArm, Option.some.injEq, Prod.mk.injEq] at taken
    obtain ⟨rfl, rfl⟩ := taken
    exact ⟨v, hs, rfl, rfl⟩

theorem not_first_unsupported {a : String} (unknown : arm a = .unsupported) (tail : List String)
    (gs : List Group) (dashed : Option (List String)) : a :: tail ≠ argv gs dashed := by
  intro same
  have other : a ≠ "--" := by
    rintro rfl
    rw [arm_endOfOptions] at unknown
    cases unknown
  obtain ⟨g, hs, _, taken⟩ := first_group same other
  rw [unknown] at taken
  simp [readArm] at taken

/-- A number of seconds does not look like an option. -/
theorem plain_of_lifetime {v : String} (parsed : (Text.parseU64 v).isSome) :
    Text.startsWith v "-" = false := by
  obtain ⟨n, value⟩ := Option.isSome_iff_exists.mp parsed
  rw [Bool.eq_false_iff]
  intro dashed
  cases spelled : v.toList with
  | nil => simp [Text.startsWith, spelled] at dashed
  | cons c cs =>
    obtain rfl : '-' = c := by simpa [Text.startsWith, spelled] using dashed
    simp [Text.parseU64, Numeral.parseUnsigned, Numeral.unsignedValue, spelled, Numeral.magnitude,
      Numeral.AllDigits] at value

theorem plain_of_hash {v : String} (parsed : (parseHash v).isOk) :
    Text.startsWith v "-" = false := by
  rw [Bool.eq_false_iff]
  intro dashed
  have lower := (parseHash_isOk_iff v).mp parsed
  cases spelled : v.toList with
  | nil => simp [Text.startsWith, spelled] at dashed
  | cons c cs =>
    obtain rfl : '-' = c := by simpa [Text.startsWith, spelled] using dashed
    have dash : Char.toLower '-' = '-' := by decide
    rcases lower with small | large
    · have letters := congrArg String.toList small
      simp [Text.toAsciiLowercase, spelled, dash] at letters
    · have letters := congrArg String.toList large
      simp [Text.toAsciiLowercase, spelled, dash] at letters

/-! ### One more group -/

theorem operands_cons (g : Group) (gs : List Group) :
    operands (g :: gs) = g.operand.toList ++ operands gs := by
  cases named : g.operand <;> simp [operands, named]

theorem given_cons (t : Toggle) (g : Group) (gs : List Group) :
    given t (g :: gs) = (g.toggles t || given t gs) := rfl

theorem last_append (opt : ValueOption) (gs hs : List Group) :
    last opt (gs ++ hs) = (last opt hs).or (last opt gs) := Argv.lastOf_append _ gs hs

theorem last_cons (opt : ValueOption) (g : Group) (gs : List Group) :
    last opt (g :: gs) = (last opt gs).or (g.valueOf opt) := Argv.lastOf_cons _ g gs

/-- One path more makes no difference only where it is the one that is chosen anyway. -/
theorem chosen_insert_iff {before behind : List String} {a : String}
    {keys : Except AnvilError (List String)}
    (found : before ++ behind = [] → ∃ found, keys = .ok found) :
    chosen (before ++ a :: behind) keys = chosen (before ++ behind) keys ↔
      before ++ behind = [] ∧ keys = .ok [a] := by
  unfold chosen
  have some_path : (before ++ a :: behind).isEmpty = false := by cases before <;> rfl
  rw [some_path]
  cases empty : (before ++ behind).isEmpty with
  | true =>
    have nothing := List.isEmpty_iff.mp empty
    obtain ⟨keys, rfl⟩ := found nothing
    obtain ⟨rfl, rfl⟩ := List.append_eq_nil_iff.mp nothing
    simp [Except.toOption, eq_comm]
  | false =>
    have other : before ++ behind ≠ [] := by simpa using empty
    simp only [Bool.false_eq_true, if_false, other, false_and, iff_false]
    intro same
    have longer := congrArg List.length same
    simp at longer

/-! ### The same result -/

theorem summary_eq_iff {gs hs : List Group} {dashed dashed' : Option (List String)}
    {keys : Except AnvilError (List String)} :
    summary gs dashed keys = summary hs dashed' keys ↔
      (summary gs dashed keys).mode = (summary hs dashed' keys).mode ∧
        hashOf gs = hashOf hs ∧ lifetimeOf gs = lifetimeOf hs ∧
          ∀ t, given t gs = given t hs := by
  constructor
  · intro same
    simp only [summary, Parsed.mk.injEq] at same
    obtain ⟨mode, hash, lifetime, confirm, biometric, noBiometric⟩ := same
    refine ⟨mode, hash, lifetime, fun t => ?_⟩
    cases t <;> assumption
  · rintro ⟨mode, hash, lifetime, toggles⟩
    simp only [summary] at mode
    simp only [summary, mode, hash, lifetime, toggles]

/-- Paths that make no difference where they are added: the mode is another one, or they
are the default paths. -/
def Redundant (gs : List Group) (dashed : Option (List String))
    (keys : Except AnvilError (List String)) (more : List String) : Prop :=
  modes gs ≠ [] ∨ paths gs dashed = [] ∧ keys = .ok more

theorem Redundant.defaults {gs : List Group} {dashed : Option (List String)}
    {keys : Except AnvilError (List String)} {more : List String}
    (redundant : Redundant gs dashed keys more) (free : modes gs = [])
    (_ : paths gs dashed = []) : ∃ found, keys = .ok found := by
  rcases redundant with asked | ⟨_, same⟩
  · exact absurd free asked
  · exact ⟨more, same⟩

theorem mode_insert_iff {gs hs : List Group} {dashed : Option (List String)}
    {keys : Except AnvilError (List String)} {a : String}
    (plain : Text.startsWith a "-" = false)
    (found : modes (gs ++ hs) = [] → paths (gs ++ hs) dashed = [] → ∃ found, keys = .ok found) :
    (summary (gs ++ .positional a plain :: hs) dashed keys).mode =
        (summary (gs ++ hs) dashed keys).mode ↔ Redundant (gs ++ hs) dashed keys [a] := by
  have unasked : modes (gs ++ .positional a plain :: hs) = modes (gs ++ hs) := by
    simp [modes_cons, Group.mode]
  have inserted : paths (gs ++ .positional a plain :: hs) dashed =
      operands gs ++ a :: (operands hs ++ dashed.getD []) := by
    simp [paths, operands_cons, Group.operand]
  have rest : paths (gs ++ hs) dashed = operands gs ++ (operands hs ++ dashed.getD []) := by
    simp [paths]
  unfold summary Redundant
  simp only [unasked]
  cases free : modes (gs ++ hs) with
  | cons m more => simp
  | nil =>
    rw [inserted, rest]
    rw [rest] at found
    simpa using chosen_insert_iff (found free)

/-! ### One group more -/

theorem modes_insert {g : Group} (quiet : g.mode = none) (gs hs : List Group) :
    modes (gs ++ g :: hs) = modes (gs ++ hs) := by
  simp [modes_cons, quiet]

theorem acceptable_insert {g : Group} (quiet : g.mode = none) {gs hs : List Group}
    {dashed : Option (List String)} {keys : Except AnvilError (List String)}
    (accepted : Acceptable (gs ++ hs) dashed keys) (valid : g.Valid)
    (apart : ¬ (given .biometric (gs ++ g :: hs) = true ∧
      given .noBiometric (gs ++ g :: hs) = true)) :
    Acceptable (gs ++ g :: hs) dashed keys := by
  rw [acceptable_iff] at accepted ⊢
  obtain ⟨each, single, _, found⟩ := accepted
  rw [modes_insert quiet]
  refine ⟨?_, single, apart, fun free empty => found free ?_⟩
  · intro k member
    rw [List.mem_append, List.mem_cons] at member
    rcases member with before | rfl | behind
    · exact each k (List.mem_append_left _ before)
    · exact valid
    · exact each k (List.mem_append_right _ behind)
  · simp only [paths, operands_append, operands_cons, List.append_eq_nil_iff] at empty ⊢
    exact ⟨⟨empty.1.1, empty.1.2.2⟩, empty.2⟩

section
variable {gs hs : List Group} {dashed : Option (List String)}
  {keys : Except AnvilError (List String)}

theorem toggle_iff (accepted : Acceptable (gs ++ hs) dashed keys) (t : Toggle) :
    Acceptable (gs ++ .toggle t :: hs) dashed keys ∧
        summary (gs ++ hs) dashed keys = summary (gs ++ .toggle t :: hs) dashed keys ↔
      given t (gs ++ hs) = true := by
  rw [summary_eq_iff]
  constructor
  · rintro ⟨_, _, _, _, toggles⟩
    rw [toggles t]
    simp [given_cons, Group.toggles]
  -- A toggle that is on stays on, and nothing else is touched.
  · intro on
    have toggles (u : Toggle) : given u (gs ++ .toggle t :: hs) = given u (gs ++ hs) := by
      by_cases same : t = u
      · subst same
        rw [on]
        simp [given_cons, Group.toggles]
      · simp [given_cons, Group.toggles, same]
    have apart := accepted.biometric
    rw [← toggles, ← toggles] at apart
    refine ⟨acceptable_insert rfl accepted trivial apart, ?_, ?_, ?_, fun u => (toggles u).symm⟩
    · simp [summary, modes_cons, Group.mode, paths, operands_cons, Group.operand]
    · simp [hashOf, last_append, last_cons, Group.valueOf]
    · simp [lifetimeOf, last_append, last_cons, Group.valueOf]

theorem given_insert_path {a : String} (plain : Text.startsWith a "-" = false) (t : Toggle) :
    given t (gs ++ .positional a plain :: hs) = given t (gs ++ hs) := by
  simp [given_cons, Group.toggles]

theorem acceptable_insert_path (accepted : Acceptable (gs ++ hs) dashed keys) {a : String}
    (plain : Text.startsWith a "-" = false) :
    Acceptable (gs ++ .positional a plain :: hs) dashed keys := by
  have same (t : Toggle) : given t (gs ++ .positional a plain :: hs) = given t (gs ++ hs) :=
    given_insert_path plain t
  have apart := accepted.biometric
  rw [← same, ← same] at apart
  exact acceptable_insert rfl accepted trivial apart

theorem positional_iff (accepted : Acceptable (gs ++ hs) dashed keys) {a : String}
    (plain : Text.startsWith a "-" = false) :
    Acceptable (gs ++ .positional a plain :: hs) dashed keys ∧
        summary (gs ++ hs) dashed keys = summary (gs ++ .positional a plain :: hs) dashed keys ↔
      Redundant (gs ++ hs) dashed keys [a] := by
  have mode := mode_insert_iff plain accepted.defaults
  rw [summary_eq_iff]
  constructor
  · rintro ⟨_, same, _⟩
    exact mode.mp same.symm
  · intro redundant
    refine ⟨acceptable_insert_path accepted plain, (mode.mpr redundant).symm, ?_, ?_,
      fun t => (given_insert_path plain t).symm⟩
    · simp [hashOf, last_append, last_cons, Group.valueOf]
    · simp [lifetimeOf, last_append, last_cons, Group.valueOf]

/-- A second mode is refused, and no selector asks for the mode that is taken without one. -/
theorem not_selector (sel : Selector) :
    ¬ (Acceptable (gs ++ .selector sel :: hs) dashed keys ∧
      summary (gs ++ hs) dashed keys = summary (gs ++ .selector sel :: hs) dashed keys) := by
  rintro ⟨accepted, same⟩
  have single := accepted.one_mode
  simp only [modes_append, modes_cons, Group.mode, Option.toList_some, List.length_append,
    List.length_cons] at single
  have before : modes gs = [] := List.length_eq_zero_iff.mp (by omega)
  have behind : modes hs = [] := List.length_eq_zero_iff.mp (by omega)
  have mode := (summary_eq_iff.mp same).1
  cases sel <;> simp [summary, modes_cons, Group.mode, before, behind, Selector.mode] at mode

/-- The option sets with this value what the groups say anyway. -/
def ValueOption.Idle (gs hs : List Group) (v : String) : ValueOption → Prop
  | .remove => False
  | .lifetime =>
    (Text.parseU64 v).isSome ∧ (last .lifetime hs ≠ none ∨ Text.parseU64 v = lifetimeOf gs)
  | .hash => (parseHash v).isOk ∧ (last .hash hs ≠ none ∨ parseHash v = .ok (hashOf gs))

theorem ValueOption.Idle.plain {opt : ValueOption} {v : String} (idle : opt.Idle gs hs v) :
    Text.startsWith v "-" = false := by
  cases opt with
  | remove => exact idle.elim
  | lifetime => exact plain_of_lifetime idle.1
  | hash => exact plain_of_hash idle.1

theorem ValueOption.Idle.valid {opt : ValueOption} {v : String} (idle : opt.Idle gs hs v) :
    (Group.value opt v).Valid := by
  cases opt with
  | remove => trivial
  | lifetime => exact idle.1
  | hash => exact idle.1

theorem idle_iff {opt : ValueOption} (setting : opt ≠ .remove) {v : String}
    (valid : (Group.value opt v).Valid) :
    opt.Idle gs hs v ↔ hashOf (gs ++ hs) = hashOf (gs ++ .value opt v :: hs) ∧
      lifetimeOf (gs ++ hs) = lifetimeOf (gs ++ .value opt v :: hs) := by
  cases opt with
  | remove => exact absurd rfl setting
  | lifetime =>
    have parsed : (Text.parseU64 v).isSome := valid
    cases set : last .lifetime hs <;>
      simp [ValueOption.Idle, parsed, hashOf, lifetimeOf, last_append, last_cons, Group.valueOf,
        set, eq_comm]
  | hash =>
    have parsed : (parseHash v).isOk := valid
    cases read : parseHash v with
    | error e => simp [read, Except.isOk, Except.toBool] at parsed
    | ok alg =>
      cases set : last .hash hs <;>
        simp [ValueOption.Idle, read, hashOf, lifetimeOf, last_append, last_cons, Group.valueOf,
          set, Except.isOk, Except.toBool, Except.toOption, eq_comm]

/-- The path behind the option is taken for its value. -/
theorem value_iff {opt : ValueOption} (setting : opt ≠ .remove) {v : String}
    (plain : Text.startsWith v "-" = false)
    (accepted : Acceptable (gs ++ .positional v plain :: hs) dashed keys) :
    Acceptable (gs ++ .value opt v :: hs) dashed keys ∧
        summary (gs ++ .positional v plain :: hs) dashed keys =
          summary (gs ++ .value opt v :: hs) dashed keys ↔
      Redundant (gs ++ hs) dashed keys [v] ∧ opt.Idle gs hs v := by
  -- Where the path stood there is now an option, which is no path and asks for no mode.
  have quiet : (Group.value opt v).mode = none := by cases opt <;> trivial
  have mode : (summary (gs ++ .value opt v :: hs) dashed keys).mode =
      (summary (gs ++ hs) dashed keys).mode := by
    simp [summary, modes_insert quiet, paths, operands_cons, Group.operand]
  have toggles (t : Toggle) : given t (gs ++ .positional v plain :: hs) =
      given t (gs ++ .value opt v :: hs) := by
    simp [given_cons, Group.toggles]
  have unset : hashOf (gs ++ .positional v plain :: hs) = hashOf (gs ++ hs) ∧
      lifetimeOf (gs ++ .positional v plain :: hs) = lifetimeOf (gs ++ hs) := by
    simp [hashOf, lifetimeOf, last_append, last_cons, Group.valueOf]
  rw [summary_eq_iff, mode, unset.1, unset.2]
  constructor
  · rintro ⟨accepted', same, hash, lifetime, _⟩
    have valid : (Group.value opt v).Valid :=
      ((acceptable_iff _ _ _).mp accepted').1 _ (by simp)
    have found : modes (gs ++ hs) = [] → paths (gs ++ hs) dashed = [] →
        ∃ found, keys = .ok found := by
      have found := accepted'.defaults
      rw [modes_insert quiet] at found
      simpa [paths, operands_cons, Group.operand] using found
    exact ⟨(mode_insert_iff plain found).mp same, (idle_iff setting valid).mpr ⟨hash, lifetime⟩⟩
  · rintro ⟨redundant, idle⟩
    obtain ⟨hash, lifetime⟩ := (idle_iff setting idle.valid).mp idle
    refine ⟨?_, (mode_insert_iff plain redundant.defaults).mpr redundant, hash, lifetime, toggles⟩
    rw [acceptable_iff] at accepted ⊢
    obtain ⟨each, single, apart, _⟩ := accepted
    rw [modes_insert rfl] at single
    rw [toggles, toggles] at apart
    rw [modes_insert quiet]
    refine ⟨?_, single, apart, fun free empty => redundant.defaults free ?_⟩
    · intro k member
      rw [List.mem_append, List.mem_cons] at member
      rcases member with before | rfl | behind
      · exact each k (List.mem_append_left _ before)
      · exact idle.valid
      · exact each k (List.mem_append_right _ (List.mem_cons_of_mem _ behind))
    · simpa [paths, operands_cons, Group.operand] using empty

/-- With `-d` in front of it, an accepted argument vector never says the same. -/
theorem not_remove (accepted : Acceptable (gs ++ hs) dashed keys) {v : String} {ks : List Group}
    {dashed' : Option (List String)} (taken : argv hs dashed = v :: argv ks dashed') :
    ¬ (Acceptable (gs ++ .value .remove v :: ks) dashed' keys ∧
      summary (gs ++ hs) dashed keys = summary (gs ++ .value .remove v :: ks) dashed' keys) := by
  rintro ⟨accepted', same⟩
  have single := accepted'.one_mode
  simp only [modes_append, modes_cons, Group.mode, Option.toList_some, List.length_append,
    List.length_cons] at single
  have before : modes gs = [] := List.length_eq_zero_iff.mp (by omega)
  have behind : modes ks = [] := List.length_eq_zero_iff.mp (by omega)
  have mode := (summary_eq_iff.mp same).1
  simp only [summary, modes_append, before, modes_cons, Group.mode, List.nil_append] at mode
  -- So the groups that follow remove the path that is their own first token.
  have asked : Group.value .remove v ∈ hs := by
    cases asks : modes hs with
    | nil => simp [asks] at mode
    | cons m more =>
      obtain rfl : m = .removeOne v := by simpa [asks] using mode
      have first : Mode.removeOne v ∈ modes hs := asks ▸ List.mem_cons_self
      obtain ⟨g, member, removes⟩ := List.mem_filterMap.mp first
      exact removeOne_iff.mp removes ▸ member
  cases hs with
  | nil => cases asked
  | cons h hs =>
    rw [argv_cons] at taken
    -- The groups behind the first one ask for no mode, wherever they are cut.
    have nowhere (rest : modes hs = []) : Group.value .remove v ∉ hs := by
      intro member
      have asks : Mode.removeOne v ∈ modes hs := List.mem_filterMap.mpr ⟨_, member, rfl⟩
      rw [rest] at asks
      cases asks
    have one_token {a : String} (tokens : h.tokens = [a]) : Group.value .remove v ∉ hs := by
      rw [tokens] at taken
      obtain ⟨rfl, _⟩ := argv_inj (List.cons.inj taken).2
      exact nowhere behind
    have two_tokens {a u : String} (tokens : h.tokens = [a, u])
        (plain : Text.startsWith u "-" = false) : Group.value .remove v ∉ hs := by
      rw [tokens] at taken
      obtain ⟨rfl, _⟩ := first_plain plain (List.cons.inj taken).2
      exact nowhere (by simpa [modes_cons, Group.mode] using behind)
    have valid := ((acceptable_iff _ _ _).mp accepted).1 h (by simp)
    cases h with
    | selector sel => exact one_token rfl (by simpa using asked)
    | toggle t => exact one_token rfl (by simpa using asked)
    | ignored a listed => exact one_token rfl (by simpa using asked)
    | positional a plain => exact one_token rfl (by simpa using asked)
    | value opt u =>
      cases opt with
      | lifetime => exact two_tokens rfl (plain_of_lifetime valid) (by simpa using asked)
      | hash => exact two_tokens rfl (plain_of_hash valid) (by simpa using asked)
      | remove =>
        obtain ⟨rfl, rest⟩ := List.cons.inj taken
        rcases List.mem_cons.mp asked with first | later
        · -- The path is `-d`, and now it is read as the option.
          obtain rfl : ValueOption.remove.flag = u := by simpa using first
          have again : ValueOption.remove.flag :: argv hs dashed = argv ks dashed' := rest
          obtain ⟨x, ks', rfl, _⟩ := first_value again
          simp [modes_cons, Group.mode] at behind
        · have single := accepted.one_mode
          have asks : modes hs ≠ [] := fun none => nowhere none later
          have some_mode := List.length_pos_iff.mpr asks
          simp only [modes_append, modes_cons, Group.mode, Option.toList_some, List.length_append,
            List.length_cons] at single
          omega

/-! ### What follows read as paths -/

theorem paths_cons (g : Group) (gs : List Group) (dashed : Option (List String)) :
    paths (g :: gs) dashed = g.operand.toList ++ paths gs dashed := by
  simp [paths, operands_cons]

theorem paths_append (gs hs : List Group) (dashed : Option (List String)) :
    paths (gs ++ hs) dashed = operands gs ++ paths hs dashed := by
  simp [paths]

theorem operand_cases (g : Group) :
    g.operand = none ∨ ∃ a, g.operand = some a ∧ g.tokens = [a] := by
  cases g <;> simp [Group.operand, Group.tokens]

theorem paths_sublist (gs : List Group) (dashed : Option (List String)) :
    (paths gs dashed).Sublist (argv gs dashed) := by
  induction gs with
  | nil => cases dashed <;> simp [paths, operands, argv, afterDashes]
  | cons g gs ih =>
    rw [paths_cons, argv_cons]
    rcases operand_cases g with none | ⟨a, named, tokens⟩
    · rw [none]
      exact ih.trans (List.sublist_append_right _ _)
    · rw [named, tokens]
      exact ih.cons_cons a

theorem paths_eq_argv_iff (gs : List Group) (dashed : Option (List String)) :
    paths gs dashed = argv gs dashed ↔ (∀ g ∈ gs, g.operand.isSome) ∧ dashed = none := by
  induction gs with
  | nil => cases dashed <;> simp [paths, operands, argv, afterDashes]
  | cons g gs ih =>
    rw [paths_cons, argv_cons]
    rcases operand_cases g with none | ⟨a, named, tokens⟩
    · -- The tokens of this group are left out, so the paths are fewer.
      have shorter := (paths_sublist gs dashed).length_le
      have some_token := List.length_pos_iff.mpr (grammar.tokens_ne_nil g)
      constructor
      · intro same
        have lengths := congrArg List.length same
        simp only [none, Option.toList_none, List.nil_append, List.length_append] at lengths
        have tokens : (grammar.tokens g).length = g.tokens.length := rfl
        omega
      · rintro ⟨named, _⟩
        simp [none] at named
    · simp [named, tokens, ih]

/-- What follows sets nothing, and none of its tokens is missed or new as a path. -/
structure Inert (gs hs : List Group) (dashed : Option (List String))
    (keys : Except AnvilError (List String)) : Prop where
  hash : hashOf (gs ++ hs) = hashOf gs
  lifetime : lifetimeOf (gs ++ hs) = lifetimeOf gs
  toggles : ∀ t, given t hs = true → given t gs = true
  paths : modes gs ≠ [] ∨ modes hs = [] ∧
    ((∀ g ∈ hs, g.operand.isSome) ∧ dashed = none ∨
      paths (gs ++ hs) dashed = [] ∧ keys = .ok (argv hs dashed))

theorem chosen_eq_iff {before named more : List String} {keys : Except AnvilError (List String)}
    (found : before ++ named = [] → ∃ found, keys = .ok found) (fewer : more = [] → named = []) :
    chosen (before ++ named) keys = chosen (before ++ more) keys ↔
      named = more ∨ before ++ named = [] ∧ keys = .ok more := by
  by_cases same : named = more
  · simp [same]
  by_cases nothing : before ++ named = []
  · obtain ⟨keys, rfl⟩ := found nothing
    obtain ⟨rfl, rfl⟩ := List.append_eq_nil_iff.mp nothing
    have some_path : more ≠ [] := fun none => same none.symm
    simp [chosen, same, some_path, Except.toOption]
  · have some_path : before ++ more ≠ [] := by
      intro none
      obtain ⟨rfl, rfl⟩ := List.append_eq_nil_iff.mp none
      exact nothing (by simp [fewer rfl])
    simp [chosen, same, nothing, some_path]

theorem argv_eq_nil {gs : List Group} {dashed : Option (List String)}
    (nothing : argv gs dashed = []) : gs = [] := by
  cases gs with
  | nil => rfl
  | cons g gs =>
    rw [argv_cons] at nothing
    exact absurd (List.append_eq_nil_iff.mp nothing).1 (grammar.tokens_ne_nil g)

theorem paths_eq_nil {gs : List Group} {dashed : Option (List String)}
    (nothing : argv gs dashed = []) : paths gs dashed = [] :=
  List.sublist_nil.mp (nothing ▸ paths_sublist gs dashed)

/-- Behind `--` everything is a path, so the shorter list of groups is acceptable too. -/
theorem acceptable_dashes (accepted : Acceptable (gs ++ hs) dashed keys) :
    Acceptable gs (some (argv hs dashed)) keys := by
  rw [acceptable_iff] at accepted ⊢
  obtain ⟨each, single, apart, found⟩ := accepted
  refine ⟨fun g member => each g (List.mem_append_left _ member), ?_, ?_, ?_⟩
  · rw [modes_append, List.length_append] at single
    omega
  · rintro ⟨on, off⟩
    exact apart ⟨by simp [on], by simp [off]⟩
  · intro free empty
    obtain ⟨before, behind⟩ := List.append_eq_nil_iff.mp empty
    obtain rfl := argv_eq_nil behind
    rw [List.append_nil] at found
    refine found free ?_
    have rest := paths_eq_nil behind
    simpa [paths, operands] using And.intro before rest

theorem dashes_mode_iff (accepted : Acceptable (gs ++ hs) dashed keys) :
    (summary (gs ++ hs) dashed keys).mode =
        (summary gs (some (argv hs dashed)) keys).mode ↔
      modes gs ≠ [] ∨ modes hs = [] ∧ ((∀ g ∈ hs, g.operand.isSome) ∧ dashed = none ∨
        paths (gs ++ hs) dashed = [] ∧ keys = .ok (argv hs dashed)) := by
  have found := accepted.defaults
  have fewer (nothing : argv hs dashed = []) : paths hs dashed = [] := paths_eq_nil nothing
  have behind : paths gs (some (argv hs dashed)) = operands gs ++ argv hs dashed := rfl
  rw [paths_append, modes_append] at found
  rw [← paths_eq_argv_iff, paths_append]
  unfold summary
  rw [modes_append, paths_append, behind]
  cases asked : modes gs with
  | cons m more => simp
  | nil =>
    rw [asked] at found
    cases later : modes hs with
    | nil =>
      rw [later] at found
      simpa using chosen_eq_iff (found rfl) fewer
    | cons m more =>
      -- The mode that `--` hides was not the one that is taken without a flag.
      have first : m ∈ modes hs := later ▸ List.mem_cons_self
      obtain ⟨g, _, asks⟩ := List.mem_filterMap.mp first
      have other (ps : List String) : m ≠ .add ps := by
        rintro rfl
        exact mode_ne_add asks
      simp [other]

theorem dashes_iff (accepted : Acceptable (gs ++ hs) dashed keys) :
    Acceptable gs (some (argv hs dashed)) keys ∧
        summary (gs ++ hs) dashed keys = summary gs (some (argv hs dashed)) keys ↔
      Inert gs hs dashed keys := by
  rw [summary_eq_iff, dashes_mode_iff accepted]
  have toggles (t : Toggle) : given t (gs ++ hs) = given t gs ↔
      (given t hs = true → given t gs = true) := by
    rw [given_append]
    cases given t gs <;> simp
  simp only [toggles]
  constructor
  · rintro ⟨_, paths, hash, lifetime, on⟩
    exact ⟨hash, lifetime, on, paths⟩
  · rintro ⟨hash, lifetime, on, paths⟩
    exact ⟨acceptable_dashes accepted, paths, hash, lifetime, on⟩

end

/-! ### Any argument -/

/-- What the argument of an ignored option is read as changes nothing. -/
def Unharmed (gs hs : List Group) (dashed : Option (List String))
    (keys : Except AnvilError (List String)) (argument : String) : Prop :=
  match arm argument with
  | .ignored _ => True
  | .toggle t _ => given t (gs ++ hs) = true
  | .selector .. | .unsupported => False
  | .positional _ => Redundant (gs ++ hs) dashed keys [argument]
  | .value opt _ => ∃ v plain hs', hs = .positional v plain :: hs' ∧
      Redundant (gs ++ hs') dashed keys [v] ∧ opt.Idle gs hs' v
  | .endOfOptions _ => Inert gs hs dashed keys

theorem plain_of_setting {opt : ValueOption} (setting : opt ≠ .remove) {v : String}
    (valid : (Group.value opt v).Valid) : Text.startsWith v "-" = false := by
  cases opt with
  | remove => exact absurd rfl setting
  | lifetime => exact plain_of_lifetime valid
  | hash => exact plain_of_hash valid

theorem value_argument_iff {gs hs : List Group} {dashed : Option (List String)}
    {w : World Ag Va Te} (accepted : Acceptable (gs ++ hs) dashed (defaults w))
    (opt : ValueOption) :
    fromArgs (grammar.spell gs ++ opt.flag :: argv hs dashed) w =
        (.ok (summary (gs ++ hs) dashed (defaults w)), w) ↔
      ∃ v plain hs', hs = .positional v plain :: hs' ∧
        Redundant (gs ++ hs') dashed (defaults w) [v] ∧ opt.Idle gs hs' v := by
  have group (v : String) (ks : List Group) (dashed' : Option (List String)) :
      grammar.spell gs ++ opt.flag :: v :: argv ks dashed' =
        argv (gs ++ .value opt v :: ks) dashed' := by
    rw [argv_append, argv_cons]
    rfl
  constructor
  · intro returned
    obtain ⟨ks, dashed', same⟩ := rest_of_accepted returned
    obtain ⟨v, ks, rfl, taken⟩ := first_value same
    rw [taken, group, fromArgs_eq_iff] at returned
    -- A value that was accepted has no dash in front, so it was a path before.
    have setting : opt ≠ .remove := by
      rintro rfl
      exact not_remove accepted taken returned
    have valid : (Group.value opt v).Valid :=
      ((acceptable_iff _ _ _).mp returned.1).1 _ (by simp)
    have plain := plain_of_setting setting valid
    obtain ⟨rfl, rfl⟩ := first_plain plain taken.symm
    exact ⟨v, plain, ks, rfl, (value_iff setting plain accepted).mp returned⟩
  · rintro ⟨v, plain, hs', rfl, redundant, idle⟩
    have setting : opt ≠ .remove := by
      rintro rfl
      exact idle
    rw [argv_cons]
    show fromArgs (grammar.spell gs ++ opt.flag :: v :: argv hs' dashed) w = _
    rw [group, fromArgs_eq_iff]
    exact (value_iff setting plain accepted).mpr ⟨redundant, idle⟩

theorem argument_iff {gs hs : List Group} {dashed : Option (List String)} {w : World Ag Va Te}
    (accepted : Acceptable (gs ++ hs) dashed (defaults w)) (argument : String) :
    fromArgs (grammar.spell gs ++ argument :: argv hs dashed) w =
        (.ok (summary (gs ++ hs) dashed (defaults w)), w) ↔
      Unharmed gs hs dashed (defaults w) argument := by
  -- An argument that is a group of its own is one group more.
  have group {g : Group} (tokens : g.tokens = [argument]) :
      grammar.spell gs ++ argument :: argv hs dashed = argv (gs ++ g :: hs) dashed := by
    rw [argv_append, argv_cons, tokens]
    rfl
  unfold Unharmed
  cases kind : arm argument with
  | ignored listed =>
    rw [fromArgs_skip listed, ← argv_append]
    exact iff_of_true (fromArgs_argv_eq accepted) trivial
  | toggle t spelled =>
    rw [group (g := .toggle t) (by rw [spelled]; rfl), fromArgs_eq_iff]
    exact toggle_iff accepted t
  | selector sel spelled =>
    rw [group (g := .selector sel) (by rw [spelled]; rfl), fromArgs_eq_iff]
    exact iff_of_false (not_selector sel) id
  | positional plain =>
    rw [group (g := .positional argument plain) rfl, fromArgs_eq_iff]
    exact positional_iff accepted plain
  | unsupported =>
    refine iff_of_false ?_ id
    intro returned
    obtain ⟨ks, dashed', same⟩ := rest_of_accepted returned
    exact not_first_unsupported kind _ ks dashed' same
  | endOfOptions spelled =>
    have hidden : grammar.spell gs ++ argument :: argv hs dashed =
        argv gs (some (argv hs dashed)) := by
      rw [spelled]
      rfl
    rw [hidden, fromArgs_eq_iff]
    exact dashes_iff accepted
  | value opt spelled =>
    have taken := value_argument_iff accepted opt
    rw [← spelled] at taken
    exact taken

/-- An ignored option with its argument, put between the groups of an accepted argument
vector, leaves the result as it is exactly when it takes no argument or its argument is
read as something that changes nothing. -/
theorem ignored_together_iff {gs hs : List Group} {dashed : Option (List String)} {p : Parsed}
    {w w' : World Ag Va Te} (accepted : fromArgs (argv (gs ++ hs) dashed) w = (.ok p, w'))
    (opt : Foreign) (argument : String) :
    fromArgs (grammar.spell gs ++ (opt.tokens argument ++ argv hs dashed)) w = (.ok p, w') ↔
      opt.takesArgument = false ∨ Unharmed gs hs dashed (defaults w) argument := by
  obtain ⟨rfl, rfl⟩ := (fromArgs_argv_iff _ _ w).2 p w' accepted
  have fits := (fromArgs_argv_iff _ _ w').1.mp ⟨_, accepted⟩
  unfold Foreign.tokens
  cases takes : opt.takesArgument with
  | false =>
    simp only [Bool.false_eq_true, if_false, List.singleton_append, true_or, iff_true]
    rw [fromArgs_skip opt.flag_ignored, ← argv_append]
    exact accepted
  | true =>
    simp only [if_true, List.cons_append, List.nil_append, reduceCtorEq, false_or]
    rw [fromArgs_skip opt.flag_ignored]
    exact argument_iff fits argument

/-- An argument that does not look like an option becomes a path to add, unless another
mode is asked for. -/
theorem argument_added {gs hs : List Group} {dashed : Option (List String)}
    {w : World Ag Va Te} (accepted : Acceptable (gs ++ hs) dashed (defaults w))
    (free : modes (gs ++ hs) = []) {opt : Foreign} (takes : opt.takesArgument = true)
    {argument : String} (plain : Text.startsWith argument "-" = false) :
    ∃ p paths, fromArgs (grammar.spell gs ++ (opt.tokens argument ++ argv hs dashed)) w =
      (.ok p, w) ∧ p.mode = .add paths ∧ argument ∈ paths := by
  have returned := fromArgs_argv_eq (acceptable_insert_path accepted plain)
  rw [argv_append, argv_cons] at returned
  have unasked : modes (gs ++ .positional argument plain :: hs) = [] := by
    rw [modes_insert rfl, free]
  have member : argument ∈ paths (gs ++ .positional argument plain :: hs) dashed := by
    simp [paths, operands_cons, Group.operand]
  have some_path := List.ne_nil_of_mem member
  refine ⟨summary (gs ++ .positional argument plain :: hs) dashed (defaults w), _, ?_,
    by simp [summary, unasked, chosen, some_path], member⟩
  unfold Foreign.tokens
  rw [if_pos takes, List.cons_append, fromArgs_skip opt.flag_ignored]
  exact returned

/-! ### On a reference environment -/

open Reference

private def noKeys : RefWorld := world [] [] ⟨false, []⟩ ⟨[]⟩ ⟨[]⟩

private def onePath : List Group := [.positional "id" (by decide)]

private def listed : List Group := [.selector .list]

private def added (paths : List String) : Parsed :=
  ⟨.add paths, .sha256, none, false, false, false⟩

private theorem onePath_parsed : fromArgs (argv ([] ++ onePath) none) noKeys =
    (.ok (added ["id"]), noKeys) := rfl

private theorem listed_parsed : fromArgs (argv (listed ++ []) none) noKeys =
    (.ok ⟨.list false, .sha256, none, false, false, false⟩, noKeys) := rfl

theorem ignored_together_samples :
    fromArgs ["-v", "id"] noKeys = (.ok (added ["id"]), noKeys) ∧
      fromArgs ["-H", "-q", "id"] noKeys = (.ok (added ["id"]), noKeys) ∧
        fromArgs ["-l", "-s", "provider.so"] noKeys = fromArgs ["-l"] noKeys :=
  ⟨(ignored_together_iff onePath_parsed .verbose "").mpr (Or.inl rfl),
    (ignored_together_iff onePath_parsed .hostKeys "-q").mpr (Or.inr trivial),
    ((ignored_together_iff listed_parsed .addProvider "provider.so").mpr
      (Or.inr (Or.inl (by decide)))).trans listed_parsed.symm⟩

/-- A file with host keys is read as a private key to add. -/
theorem host_file_added :
    fromArgs ["id"] noKeys = (.ok (added ["id"]), noKeys) ∧
      fromArgs (Foreign.hostKeys.tokens "known_hosts" ++ ["id"]) noKeys =
        (.ok (added ["known_hosts", "id"]), noKeys) ∧
      (added ["known_hosts", "id"]).mode ≠ (added ["id"]).mode :=
  ⟨rfl, rfl, by decide⟩

end Gitway.AddShim
