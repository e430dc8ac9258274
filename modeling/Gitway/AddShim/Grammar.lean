import Gitway.AddShim.Operands

/-!
# The grammar of `gitway-add`

What the parser makes of a list of groups and of the paths behind `--`. A flag that asks
for a mode may stand once, so whether the loop goes on at a group depends on the groups
before it; the values of the other options are checked one by one.
-/
namespace Gitway.AddShim

open Lib

/-! ### What a list of groups says -/

def Group.valueOf (opt : ValueOption) : Group → Option String
  | .value o v => if o = opt then some v else none
  | _ => none

def Group.toggles (t : Toggle) : Group → Bool
  | .toggle u => u = t
  | _ => false

/-- The last value of an option. -/
def last (opt : ValueOption) (gs : List Group) : Option String :=
  Argv.lastOf (Group.valueOf opt) gs

def given (t : Toggle) (gs : List Group) : Bool := gs.any (Group.toggles t)

/-- The modes that the groups ask for. -/
def modes (gs : List Group) : List Mode := gs.filterMap Group.mode

def hashOf (gs : List Group) : HashAlg :=
  ((last .hash gs).bind fun v => (parseHash v).toOption).getD .sha256

def lifetimeOf (gs : List Group) : Option Nat := (last .lifetime gs).bind Text.parseU64

/-- The variables of the loop after these groups. -/
def collected (gs : List Group) : Scan where
  hash := hashOf gs
  lifetime := lifetimeOf gs
  confirm := given .confirm gs
  biometric := given .biometric gs
  noBiometric := given .noBiometric gs
  mode := (modes gs).head?
  paths := operands gs

@[simp] theorem last_concat (opt : ValueOption) (gs : List Group) (g : Group) :
    last opt (gs ++ [g]) = (g.valueOf opt).or (last opt gs) :=
  Argv.lastOf_concat _ gs g

@[simp] theorem operands_append (gs hs : List Group) :
    operands (gs ++ hs) = operands gs ++ operands hs := List.filterMap_append

@[simp] theorem given_append (t : Toggle) (gs hs : List Group) :
    given t (gs ++ hs) = (given t gs || given t hs) := List.any_append

@[simp] theorem modes_append (gs hs : List Group) : modes (gs ++ hs) = modes gs ++ modes hs :=
  List.filterMap_append

theorem modes_cons (g : Group) (gs : List Group) :
    modes (g :: gs) = g.mode.toList ++ modes gs := by
  cases asked : g.mode <;> simp [modes, asked]

@[simp] theorem modes_singleton (g : Group) : modes [g] = g.mode.toList := by
  rw [modes_cons]
  exact List.append_nil _

@[simp] theorem operands_singleton (g : Group) : operands [g] = g.operand.toList := by
  cases named : g.operand <;> simp [operands, named]

@[simp] theorem given_singleton (t : Toggle) (g : Group) : given t [g] = g.toggles t := by
  simp [given]

/-! ### The loop -/

/-- The groups whose own value is in order. -/
def Group.Valid : Group → Prop
  | .value .lifetime v => (Text.parseU64 v).isSome
  | .value .hash v => (parseHash v).isOk
  | _ => True

theorem act_ok_iff (st : Scan) (g : Group) :
    (∃ st', act st g = .ok st') ↔ g.Valid ∧ (g.mode = none ∨ st.mode = none) := by
  cases g with
  | selector sel =>
    cases slot : st.mode <;> simp [act, setMode, Group.Valid, Group.mode, slot, Except.map]
  | value opt v =>
    cases opt with
    | remove =>
      cases slot : st.mode <;>
        simp [act, setValue, setMode, Group.Valid, Group.mode, slot, bind, Except.bind, pure,
          Except.pure]
    | lifetime =>
      cases parsed : Text.parseU64 v <;>
        simp [act, setValue, parseLifetime, Group.Valid, Group.mode, parsed, bind, Except.bind,
          pure, Except.pure]
    | hash =>
      cases parsed : parseHash v <;>
        simp [act, setValue, Group.Valid, Group.mode, parsed, bind, Except.bind, pure, Except.pure,
          Except.isOk, Except.toBool]
  | _ => simp [act, Group.Valid, Group.mode]

section
attribute [local simp] collected hashOf lifetimeOf Group.valueOf Group.toggles Group.operand
  Group.mode

/-- Step lemma: an action adds its group to what has been collected. -/
theorem act_collected {done : List Group} {g : Group} {st : Scan}
    (acted : act (collected done) g = .ok st) : st = collected (done ++ [g]) := by
  have fits := ((act_ok_iff _ g).mp ⟨st, acted⟩).2
  simp only [collected, List.head?_eq_none_iff] at fits
  cases g with
  | selector sel =>
    have free : modes done = [] := by simpa using fits
    have taken : act (collected done) (.selector sel) =
        .ok { collected done with mode := some sel.mode } := by
      simp [act, setMode, free, Except.map]
    obtain rfl := Except.ok.inj (taken.symm.trans acted)
    simp [free]
  | toggle t =>
    cases acted
    cases t <;> simp [setToggle]
  | value opt v =>
    cases opt with
    | remove =>
      have free : modes done = [] := by simpa using fits
      have taken : act (collected done) (.value .remove v) =
          .ok { collected done with mode := some (.removeOne v) } := by
        simp [act, setValue, setMode, free, bind, Except.bind, pure, Except.pure]
      obtain rfl := Except.ok.inj (taken.symm.trans acted)
      simp [free]
    | lifetime =>
      cases parsed : Text.parseU64 v with
      | none => simp [act, setValue, parseLifetime, parsed, bind, Except.bind] at acted
      | some n =>
        have taken : act (collected done) (.value .lifetime v) =
            .ok { collected done with lifetime := some n } := by
          simp [act, setValue, parseLifetime, parsed, bind, Except.bind, pure, Except.pure]
        obtain rfl := Except.ok.inj (taken.symm.trans acted)
        simp [parsed]
    | hash =>
      cases parsed : parseHash v with
      | error e => simp [act, setValue, parsed, bind, Except.bind] at acted
      | ok alg =>
        have taken : act (collected done) (.value .hash v) =
            .ok { collected done with hash := alg } := by
          simp [act, setValue, parsed, bind, Except.bind, pure, Except.pure]
        obtain rfl := Except.ok.inj (taken.symm.trans acted)
        simp [parsed, Except.toOption]
  | ignored a listed =>
    cases acted
    simp
  | positional a plain =>
    cases acted
    simp

end

/-- Run lemma: the loop goes through exactly when every value is in order and at most one
group asks for a mode, and then its variables hold what the groups say. -/
theorem foldlM_act {done : List Group} (single : (modes done).length ≤ 1) (gs : List Group) :
    ((∃ st, gs.foldlM act (collected done) = .ok st) ↔
      (∀ g ∈ gs, g.Valid) ∧ (modes (done ++ gs)).length ≤ 1) ∧
    ∀ st, gs.foldlM act (collected done) = .ok st → st = collected (done ++ gs) := by
  induction gs generalizing done with
  | nil => simp [single, pure, Except.pure, eq_comm]
  | cons g gs ih =>
    rw [List.foldlM_cons]
    have acts := act_ok_iff (collected done) g
    cases acted : act (collected done) g with
    | error e =>
      -- The group is not in order, or it is the second one to ask for a mode.
      refine ⟨iff_of_false (by simp [bind, Except.bind]) ?_, by simp [bind, Except.bind]⟩
      rintro ⟨valid, few⟩
      have refused : ¬ (g.Valid ∧ (g.mode = none ∨ (collected done).mode = none)) := by
        rw [← acts, acted]
        simp
      refine refused ⟨valid g List.mem_cons_self, ?_⟩
      cases asked : g.mode with
      | none => exact Or.inl rfl
      | some m =>
        right
        simp only [modes_append, List.length_append, modes_cons, asked, Option.toList_some,
          List.length_cons] at few
        exact List.head?_eq_none_iff.mpr (List.length_eq_zero_iff.mp (by omega))
    | ok st =>
      obtain rfl := act_collected acted
      obtain ⟨valid, fits⟩ := acts.mp ⟨_, acted⟩
      have still : (modes (done ++ [g])).length ≤ 1 := by
        simp only [collected, List.head?_eq_none_iff] at fits
        rcases fits with quiet | free
        · simpa [quiet] using single
        · cases asked : g.mode <;> simp [free, asked]
      have rest := ih still
      simp only [List.append_assoc, List.singleton_append] at rest
      simpa [bind, Except.bind, valid] using rest

/-! ### Acceptance -/

/-- The arguments that the groups and the paths behind `--` spell. -/
def argv (gs : List Group) (dashed : Option (List String)) : List String :=
  grammar.spell gs ++ afterDashes dashed

/-- The positional paths. -/
def paths (gs : List Group) (dashed : Option (List String)) : List String :=
  operands gs ++ dashed.getD []

/-- What the arguments must be like for the parser to accept. -/
structure Acceptable (gs : List Group) (dashed : Option (List String))
    (defaults : Except AnvilError (List String)) : Prop where
  one_mode : (modes gs).length ≤ 1
  lifetime : ∀ v, .value .lifetime v ∈ gs → (Text.parseU64 v).isSome
  hash : ∀ v, .value .hash v ∈ gs →
    Text.toAsciiLowercase v = "sha256" ∨ Text.toAsciiLowercase v = "sha512"
  biometric : ¬ (given .biometric gs = true ∧ given .noBiometric gs = true)
  defaults : modes gs = [] → paths gs dashed = [] → ∃ found, defaults = .ok found

/-- The paths to add: the positional ones, else the default ones. -/
def chosen (named : List String) (defaults : Except AnvilError (List String)) : List String :=
  if named.isEmpty then defaults.toOption.getD [] else named

/-- What the parser returns. -/
def summary (gs : List Group) (dashed : Option (List String))
    (defaults : Except AnvilError (List String)) : Parsed where
  mode := (modes gs).head?.getD (.add (chosen (paths gs dashed) defaults))
  hash := hashOf gs
  lifetime := lifetimeOf gs
  confirm := given .confirm gs
  biometric := given .biometric gs
  noBiometric := given .noBiometric gs

theorem parseHash_isOk_iff (v : String) : (parseHash v).isOk = true ↔
    Text.toAsciiLowercase v = "sha256" ∨ Text.toAsciiLowercase v = "sha512" := by
  unfold parseHash
  split <;> simp_all [Except.isOk, Except.toBool]

theorem valid_iff (gs : List Group) : (∀ g ∈ gs, g.Valid) ↔
    (∀ v, .value .lifetime v ∈ gs → (Text.parseU64 v).isSome) ∧
      ∀ v, .value .hash v ∈ gs → (parseHash v).isOk := by
  constructor
  · intro valid
    exact ⟨fun v member => valid _ member, fun v member => valid _ member⟩
  · rintro ⟨lifetime, hash⟩ g member
    cases g with
    | value opt v =>
      cases opt with
      | lifetime => exact lifetime v member
      | hash => exact hash v member
      | remove => trivial
    | _ => trivial

/-- The variables of the loop, with the paths behind `--` added. -/
def collectedWith (gs : List Group) (dashed : Option (List String)) : Scan :=
  { collected gs with paths := paths gs dashed }

theorem run_afterDashes (st : Scan) (dashed : Option (List String)) :
    Argv.run step st (afterDashes dashed) =
      .ok { st with paths := st.paths ++ dashed.getD [] } := by
  cases dashed with
  | none => simp [afterDashes]
  | some more =>
    rw [afterDashes, Argv.run_cons step_follows.consumes, step, arm_endOfOptions]
    rfl

variable {Ag Va Te : Type}

theorem fromArgs_argv (gs : List Group) (dashed : Option (List String)) (w : World Ag Va Te) :
    ((∃ p, fromArgs (argv gs dashed) w = (.ok p, w)) ↔
      (∀ g ∈ gs, g.Valid) ∧ (modes gs).length ≤ 1 ∧
        ∃ p, finish (collectedWith gs dashed) w = (.ok p, w)) ∧
    ∀ p w', fromArgs (argv gs dashed) w = (.ok p, w') →
      finish (collectedWith gs dashed) w = (.ok p, w') := by
  have opening : start = collected [] := rfl
  have none_yet : (modes []).length ≤ 1 := by simp [modes]
  obtain ⟨goes, result⟩ := foldlM_act none_yet gs
  rw [List.nil_append, ← opening] at goes result
  unfold fromArgs argv
  rw [Fallible.bind_run, Fallible.query_run, grammar.run_spell step_follows.consumes
    step_follows.acts, ← and_assoc, ← goes]
  cases ran : gs.foldlM act start with
  | error e => simp [bind, Except.bind]
  | ok st =>
    obtain rfl := result st ran
    simp [bind, Except.bind, run_afterDashes, collectedWith, paths, collected]

/-- The default keys that are there. -/
def defaults (w : World Ag Va Te) : Except AnvilError (List String) := (Agent.defaultKeyPaths w).1

theorem defaultKeyPaths_run (w : World Ag Va Te) : Agent.defaultKeyPaths w = (defaults w, w) := rfl

/-- The mode that is chosen after the loop. -/
def selected (st : Scan) (defaults : Except AnvilError (List String)) : Except AnvilError Mode :=
  st.mode.elim (if st.paths.isEmpty then defaults.map .add else .ok (.add st.paths)) .ok

theorem chooseMode_run (st : Scan) (w : World Ag Va Te) :
    chooseMode st w = (selected st (defaults w), w) := by
  unfold chooseMode selected
  cases st.mode with
  | some m => rfl
  | none =>
    cases st.paths.isEmpty with
    | false => rfl
    | true =>
      show (Agent.defaultKeyPaths >>= fun found => pure (Mode.add found)) w = _
      rw [Fallible.bind_run, defaultKeyPaths_run]
      cases defaults w <;> simp [Except.map]

theorem selected_eq_ok_iff (gs : List Group) (dashed : Option (List String))
    (keys : Except AnvilError (List String)) (m : Mode) :
    selected (collectedWith gs dashed) keys = .ok m ↔
      (modes gs = [] → paths gs dashed = [] → ∃ found, keys = .ok found) ∧
        m = (summary gs dashed keys).mode := by
  have mode : (collectedWith gs dashed).mode = (modes gs).head? := rfl
  have named : (collectedWith gs dashed).paths = paths gs dashed := rfl
  unfold selected summary chosen
  rw [mode, named]
  cases asked : modes gs with
  | cons first more =>
    simp only [List.head?_cons, Option.elim_some, Except.ok.injEq, reduceCtorEq, false_imp_iff,
      Option.getD_some, true_and]
    exact eq_comm
  | nil =>
    cases empty : (paths gs dashed).isEmpty with
    | false =>
      have some_path : paths gs dashed ≠ [] := by simpa using empty
      simp [some_path, eq_comm]
    | true =>
      have no_path : paths gs dashed = [] := by simpa using empty
      cases keys <;> simp [no_path, Except.map, Except.toOption, eq_comm]

theorem finish_collected (gs : List Group) (dashed : Option (List String)) (w : World Ag Va Te) :
    ((∃ p, finish (collectedWith gs dashed) w = (.ok p, w)) ↔
      ¬ (given .biometric gs = true ∧ given .noBiometric gs = true) ∧
        (modes gs = [] → paths gs dashed = [] → ∃ found, defaults w = .ok found)) ∧
    ∀ p w', finish (collectedWith gs dashed) w = (.ok p, w') →
      p = summary gs dashed (defaults w) ∧ w' = w := by
  have select := selected_eq_ok_iff gs dashed (defaults w)
  have both : (collectedWith gs dashed).biometric = given .biometric gs ∧
    (collectedWith gs dashed).noBiometric = given .noBiometric gs := ⟨rfl, rfl⟩
  unfold finish
  rw [Fallible.bind_run, chooseMode_run, both.1, both.2]
  cases picked : selected (collectedWith gs dashed) (defaults w) with
  | error e =>
    rw [picked] at select
    refine ⟨iff_of_false (by simp) ?_, by simp⟩
    rintro ⟨_, found⟩
    simpa using (select (summary gs dashed (defaults w)).mode).mpr ⟨found, rfl⟩
  | ok m =>
    obtain ⟨found, rfl⟩ := (select m).mp picked
    cases clash : given .biometric gs && given .noBiometric gs with
    | true =>
      rw [Bool.and_eq_true] at clash
      simp [clash]
    | false =>
      have apart : ¬ (given .biometric gs = true ∧ given .noBiometric gs = true) := by
        rw [← Bool.and_eq_true, clash]
        simp
      simp only [Bool.false_eq_true, if_false, Fallible.pure_run, Prod.mk.injEq, Except.ok.injEq,
        and_true, exists_eq', apart, not_false_eq_true, true_iff, true_and]
      refine ⟨found, ?_⟩
      rintro p w' ⟨rfl, rfl⟩
      exact ⟨rfl, rfl⟩

theorem acceptable_iff (gs : List Group) (dashed : Option (List String))
    (keys : Except AnvilError (List String)) : Acceptable gs dashed keys ↔
      (∀ g ∈ gs, g.Valid) ∧ (modes gs).length ≤ 1 ∧
        ¬ (given .biometric gs = true ∧ given .noBiometric gs = true) ∧
          (modes gs = [] → paths gs dashed = [] → ∃ found, keys = .ok found) := by
  rw [valid_iff]
  constructor
  · rintro ⟨one_mode, lifetime, hash, biometric, found⟩
    exact ⟨⟨lifetime, fun v member => (parseHash_isOk_iff v).mpr (hash v member)⟩, one_mode,
      biometric, found⟩
  · rintro ⟨⟨lifetime, hash⟩, one_mode, biometric, found⟩
    exact ⟨one_mode, lifetime, fun v member => (parseHash_isOk_iff v).mp (hash v member),
      biometric, found⟩

/-- Groups in, summary out. -/
theorem fromArgs_argv_iff (gs : List Group) (dashed : Option (List String)) (w : World Ag Va Te) :
    ((∃ p, fromArgs (argv gs dashed) w = (.ok p, w)) ↔ Acceptable gs dashed (defaults w)) ∧
      ∀ p w', fromArgs (argv gs dashed) w = (.ok p, w') →
        p = summary gs dashed (defaults w) ∧ w' = w := by
  obtain ⟨accepts, result⟩ := fromArgs_argv gs dashed w
  obtain ⟨finishes, summed⟩ := finish_collected gs dashed w
  rw [accepts, finishes, acceptable_iff]
  exact ⟨Iff.rfl, fun p w' returned => summed p w' (result p w' returned)⟩

theorem fromArgs_argv_eq {gs : List Group} {dashed : Option (List String)} {w : World Ag Va Te}
    (accepted : Acceptable gs dashed (defaults w)) :
    fromArgs (argv gs dashed) w = (.ok (summary gs dashed (defaults w)), w) := by
  obtain ⟨p, returned⟩ := (fromArgs_argv_iff gs dashed w).1.mpr accepted
  rw [returned, ((fromArgs_argv_iff gs dashed w).2 p w returned).1]

/-- An accepted argument vector is a list of groups, with paths behind `--` if that is there. -/
theorem argv_of_accepted {args : List String} {p : Parsed} {w w' : World Ag Va Te}
    (accepted : fromArgs args w = (.ok p, w')) : ∃ gs dashed, args = argv gs dashed := by
  obtain ⟨st, w₁, scanned, _⟩ := Fallible.bind_ok_iff.mp accepted
  simp only [Fallible.query_run, Prod.mk.injEq] at scanned
  obtain ⟨gs, dashed, same, _⟩ := run_collects scanned.1
  exact ⟨gs, dashed, same⟩

/-- Behind the first groups stand more of them, and the paths behind `--`. -/
theorem rest_of_accepted {gs : List Group} {rest : List String} {p : Parsed}
    {w w' : World Ag Va Te} (accepted : fromArgs (grammar.spell gs ++ rest) w = (.ok p, w')) :
    ∃ hs dashed, rest = argv hs dashed := by
  obtain ⟨ks, dashed, same⟩ := argv_of_accepted accepted
  obtain ⟨hs, last, split, stuck⟩ := grammar.exists_split rest
  rw [split, ← List.append_assoc, ← grammar.spell_append] at same
  have unique := grammar.split_unique stuck (stuck_afterDashes dashed) same
  exact ⟨hs, dashed, by rw [split, unique.2, argv]⟩

/-- The groups in another order, in which the positional paths stand as before and the
last `-E` and the last `-t` are still the last ones. -/
structure Reordered (gs hs : List Group) : Prop where
  perm : gs.Perm hs
  operands : operands gs = operands hs
  hash : last .hash gs = last .hash hs
  lifetime : last .lifetime gs = last .lifetime hs

theorem Reordered.modes {gs hs : List Group} (moved : Reordered gs hs) :
    (modes gs).Perm (modes hs) := moved.perm.filterMap _

theorem Reordered.given {gs hs : List Group} (moved : Reordered gs hs) (t : Toggle) :
    given t gs = given t hs := moved.perm.any_eq

theorem Reordered.acceptable {gs hs : List Group} (moved : Reordered gs hs)
    {dashed : Option (List String)} {keys : Except AnvilError (List String)}
    (accepted : Acceptable gs dashed keys) : Acceptable hs dashed keys where
  one_mode := moved.modes.length_eq ▸ accepted.one_mode
  lifetime v member := accepted.lifetime v (moved.perm.mem_iff.mpr member)
  hash v member := accepted.hash v (moved.perm.mem_iff.mpr member)
  biometric := by
    rw [← moved.given, ← moved.given]
    exact accepted.biometric
  defaults free empty := by
    refine accepted.defaults (List.Perm.eq_nil (free ▸ moved.modes)) ?_
    rw [paths, moved.operands]
    exact empty

theorem Reordered.summary {gs hs : List Group} (moved : Reordered gs hs)
    {dashed : Option (List String)} {keys : Except AnvilError (List String)}
    (single : (AddShim.modes gs).length ≤ 1) : summary gs dashed keys = summary hs dashed keys := by
  -- One mode in any order is the same list.
  have same : AddShim.modes gs = AddShim.modes hs := by
    cases asked : AddShim.modes gs with
    | nil => exact (List.Perm.nil_eq (asked ▸ moved.modes))
    | cons m more =>
      obtain rfl : more = [] := by simpa [asked] using single
      exact (List.singleton_perm.mp (asked ▸ moved.modes))
  simp only [AddShim.summary, hashOf, lifetimeOf, paths, same, moved.hash, moved.lifetime,
    moved.operands, moved.given]

/-- The parser accepts exactly the argument vectors of its grammar and returns what the
groups say, in whatever order they stand as long as the last values are the same. -/
theorem fromArgs_accepts (w : World Ag Va Te) :
    (∀ gs dashed,
      ((∃ p, fromArgs (argv gs dashed) w = (.ok p, w)) ↔ Acceptable gs dashed (defaults w)) ∧
        ∀ p w', fromArgs (argv gs dashed) w = (.ok p, w') →
          p = summary gs dashed (defaults w) ∧ w' = w) ∧
    (∀ gs hs dashed p, Reordered gs hs → fromArgs (argv gs dashed) w = (.ok p, w) →
      fromArgs (argv hs dashed) w = (.ok p, w)) ∧
    ∀ args, (∀ gs dashed, args ≠ argv gs dashed) → ∃ e, fromArgs args w = (.error e, w) := by
  refine ⟨fun gs dashed => fromArgs_argv_iff gs dashed w, ?_, ?_⟩
  · intro gs hs dashed p moved returned
    obtain ⟨accepts, result⟩ := fromArgs_argv_iff gs dashed w
    have accepted := accepts.mp ⟨p, returned⟩
    rw [(result p w returned).1, moved.summary accepted.one_mode]
    exact fromArgs_argv_eq (moved.acceptable accepted)
  · intro args unspelled
    cases ran : Argv.run step start args with
    | error e => exact ⟨e, Fallible.bind_of_error (by rw [Fallible.query_run, ran])⟩
    | ok st =>
      obtain ⟨gs, dashed, spelled, _⟩ := run_collects ran
      exact absurd spelled (unspelled gs dashed)

/-! ### Behind the dashes -/

/-- The parser, with more paths behind the ones that its loop collects. -/
def withPaths (args more : List String) : Program Ag Va Te Parsed := do
  let st ← Fallible.query fun _ => Argv.run step start args
  finish { st with paths := st.paths ++ more }

theorem fromArgs_dashes (gs : List Group) (post : List String) (w : World Ag Va Te) :
    fromArgs (grammar.spell gs ++ "--" :: post) w = withPaths (grammar.spell gs) post w := by
  have whole := grammar.run_spell step_follows.consumes step_follows.acts gs [] start
  rw [List.append_nil] at whole
  unfold fromArgs withPaths
  rw [Fallible.bind_run, Fallible.bind_run, Fallible.query_run, Fallible.query_run, whole,
    grammar.run_spell step_follows.consumes step_follows.acts]
  cases gs.foldlM act start with
  | error e => rfl
  | ok st =>
    have rest := run_afterDashes st (some post)
    simp only [afterDashes, Option.getD_some] at rest
    simp only [bind, Except.bind, rest, Argv.run_nil]

/-! ### On a reference environment -/

open Reference

private def bare : RefWorld := world [] [] ⟨false, []⟩ ⟨[]⟩ ⟨[]⟩

private def twoHashes : List Group :=
  [.value .hash "sha256", .value .hash "sha512", .selector .list]

private def twoHashesBack : List Group :=
  [.value .hash "sha512", .value .hash "sha256", .selector .list]

private theorem unknown_unspelled (gs : List Group) (dashed : Option (List String)) :
    ["-z"] ≠ argv gs dashed := by
  intro spelled
  have unknown : grammar.Stuck ["-z"] := rfl
  have whole : grammar.spell [] ++ ["-z"] = grammar.spell gs ++ afterDashes dashed := spelled
  have rest := (grammar.split_unique unknown (stuck_afterDashes dashed) whole).2
  cases dashed <;> simp [afterDashes] at rest

theorem fromArgs_accepts_samples :
    fromArgs (argv [.selector .list, .value .hash "sha512"] none) bare =
        fromArgs (argv [.value .hash "sha512", .selector .list] none) bare ∧
      ∃ e, fromArgs ["-z"] bare = (.error e, bare) := by
  have moved : Reordered [.selector .list, .value .hash "sha512"]
      [.value .hash "sha512", .selector .list] :=
    ⟨List.Perm.swap _ _ _, rfl, rfl, rfl⟩
  have returned : fromArgs (argv [.selector .list, .value .hash "sha512"] none) bare =
    (.ok ⟨.list false, .sha512, none, false, false, false⟩, bare) := rfl
  exact ⟨returned.trans ((fromArgs_accepts bare).2.1 _ _ none _ moved returned).symm,
    (fromArgs_accepts bare).2.2 ["-z"] unknown_unspelled⟩

/-- Of two `-E` the later one counts, so their order matters. -/
theorem later_hash_counts :
    twoHashes.Perm twoHashesBack ∧ operands twoHashes = operands twoHashesBack ∧
      ∃ p q, fromArgs (argv twoHashes none) bare = (.ok p, bare) ∧
        fromArgs (argv twoHashesBack none) bare = (.ok q, bare) ∧ p.hash ≠ q.hash :=
  ⟨List.Perm.swap _ _ _, rfl, ⟨.list false, .sha512, none, false, false, false⟩,
    ⟨.list false, .sha256, none, false, false, false⟩, rfl, rfl, by decide⟩

end Gitway.AddShim
