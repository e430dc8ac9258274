import Gitway.AddShim.Run
import Gitway.Reference

/-!
# The operands of `gitway-add`

An accepted argument vector is a list of groups, possibly with `--` and more paths
behind them. The positional paths are collected in order; which of them the chosen
operation acts on depends on the mode.
-/
namespace Gitway.AddShim

open Lib

inductive Group where
  | selector (sel : Selector)
  | toggle (t : Toggle)
  | value (opt : ValueOption) (v : String)
  | ignored (a : String) (listed : a ∈ ignoredFlags)
  | positional (a : String) (plain : Text.startsWith a "-" = false)

def Group.tokens : Group → List String
  | .selector sel => [sel.flag]
  | .toggle t => [t.flag]
  | .value opt v => [opt.flag, v]
  | .ignored a _ => [a]
  | .positional a _ => [a]

def readArm {a : String} : Arm a → List String → Option (Group × List String)
  | .selector sel _, rest => some (.selector sel, rest)
  | .toggle t _, rest => some (.toggle t, rest)
  | .value opt _, v :: rest => some (.value opt v, rest)
  | .ignored listed, rest => some (.ignored a listed, rest)
  | .positional plain, rest => some (.positional a plain, rest)
  | .value .., [] | .endOfOptions _, _ | .unsupported, _ => none

theorem readArm_sound {a : String} (kind : Arm a) (rest : List String) (g : Group)
    (rest' : List String) (taken : readArm kind rest = some (g, rest')) :
    a :: rest = g.tokens ++ rest' := by
  cases kind with
  | selector sel spelled =>
    cases taken
    rw [spelled]
    rfl
  | toggle t spelled =>
    cases taken
    rw [spelled]
    rfl
  | value opt spelled =>
    cases rest with
    | nil => simp [readArm] at taken
    | cons v more =>
      cases taken
      rw [spelled]
      rfl
  | ignored listed =>
    cases taken
    rfl
  | endOfOptions spelled => simp [readArm] at taken
  | unsupported => simp [readArm] at taken
  | positional plain =>
    cases taken
    rfl

/-! ### Tokens and their arms -/

theorem arm_selector (sel : Selector) : arm sel.flag = .selector sel rfl := by
  cases sel <;> rfl

theorem arm_toggle (t : Toggle) : arm t.flag = .toggle t rfl := by
  cases t <;> rfl

theorem arm_value (opt : ValueOption) : arm opt.flag = .value opt rfl := by
  cases opt <;> rfl

theorem arm_endOfOptions : arm "--" = .endOfOptions rfl := rfl

theorem arm_ignored {a : String} (listed : a ∈ ignoredFlags) : arm a = .ignored listed := by
  have each : ∀ flag ∈ ignoredFlags, ∃ listed, arm flag = .ignored listed := by
    intro flag member
    simp only [ignoredFlags, List.mem_cons, List.not_mem_nil, or_false] at member
    rcases member with rfl | rfl | rfl | rfl | rfl | rfl | rfl | rfl | rfl | rfl <;> exact ⟨_, rfl⟩
  obtain ⟨_, same⟩ := each a listed
  exact same

theorem arm_positional {a : String} (plain : Text.startsWith a "-" = false) :
    arm a = .positional plain := by
  -- Every flag starts with a dash, and this token does not.
  have other (flag : String) (dashed : Text.startsWith flag "-" = true) : a ≠ flag := by
    rintro rfl
    simp [plain] at dashed
  have unlisted : a ∉ ignoredFlags := by
    intro listed
    have dashed : ∀ flag ∈ ignoredFlags, Text.startsWith flag "-" = true := by decide
    exact absurd (dashed a listed) (by simp [plain])
  simp (disch := decide) only [arm, other, unlisted, plain, Bool.false_eq_true, dite_false]

def grammar : Argv.Grammar String Group where
  tokens := Group.tokens
  read a rest := readArm (arm a) rest
  tokens_ne_nil g := by cases g <;> simp [Group.tokens]
  read_sound a rest g rest' taken := readArm_sound (arm a) rest g rest' taken
  read_tokens := by
    intro g a tail rest spelled
    cases g with
    | selector sel =>
      cases spelled
      simp [arm_selector, readArm]
    | toggle t =>
      cases spelled
      simp [arm_toggle, readArm]
    | value opt v =>
      cases spelled
      simp [arm_value, readArm]
    | ignored flag listed =>
      cases spelled
      simp [arm_ignored listed, readArm]
    | positional text plain =>
      cases spelled
      simp [arm_positional plain, readArm]

/-! ### The loop over groups -/

/-- What the loop does with a group. -/
def act (st : Scan) : Group → Except AnvilError Scan
  | .selector sel => (setMode st.mode sel.mode sel.flag).map fun mode => { st with mode := mode }
  | .toggle t => .ok (setToggle st t)
  | .value opt v => setValue st v opt
  | .ignored .. => .ok st
  | .positional a _ => .ok { st with paths := st.paths ++ [a] }

/-- Where a group can be read the iteration acts on it, and elsewhere it moves to
no other place. -/
theorem stepArm_readArm (st : Scan) {a : String} (kind : Arm a) (rest : List String) :
    match readArm kind rest with
    | some (g, rest') => stepArm st rest kind = (act st g).map fun st' => .next st' rest'
    | none => ∀ st' rest', stepArm st rest kind ≠ .ok (.next st' rest') := by
  cases kind with
  | selector sel spelled =>
    simp only [readArm, stepArm, act, bind, Except.bind]
    cases setMode st.mode sel.mode sel.flag <;> rfl
  | toggle t spelled => rfl
  | value opt spelled =>
    cases rest with
    | nil => simp [readArm, stepArm, take, bind, Except.bind]
    | cons v more =>
      simp only [readArm, stepArm, take, act, bind, Except.bind]
      cases setValue st v opt <;> rfl
  | ignored listed => rfl
  | endOfOptions spelled => simp [readArm, stepArm]
  | unsupported => simp [readArm, stepArm]
  | positional plain => rfl

theorem step_follows : grammar.Follows step act where
  acts := by
    intro st a rest g rest' taken
    have both := stepArm_readArm st (arm a) rest
    rw [show readArm (arm a) rest = some (g, rest') from taken] at both
    exact both
  halts := by
    intro st a rest unread
    have both := stepArm_readArm st (arm a) rest
    rw [show readArm (arm a) rest = none from unread] at both
    exact both

/-! ### What the parser collects -/

def Group.operand : Group → Option String
  | .positional a _ => some a
  | _ => none

/-- The mode that a group asks for. -/
def Group.mode : Group → Option Mode
  | .selector sel => some sel.mode
  | .value .remove path => some (.removeOne path)
  | _ => none

def operands (gs : List Group) : List String := gs.filterMap Group.operand

/-- The tokens from `--` on, if it is there. -/
def afterDashes : Option (List String) → List String
  | some paths => "--" :: paths
  | none => []

theorem setMode_eq_ok_iff {slot slot' : Option Mode} {new : Mode} {flag : String} :
    setMode slot new flag = .ok slot' ↔ slot = none ∧ slot' = some new := by
  cases slot <;> simp [setMode, eq_comm]

/-- Step lemma: the paths and the mode are those of the groups done. -/
theorem act_collects {done : List Group} {g : Group} {st st' : Scan}
    (sofar : st.paths = operands done ∧ done.filterMap Group.mode = st.mode.toList)
    (acted : act st g = .ok st') :
    st'.paths = operands (done ++ [g]) ∧
      (done ++ [g]).filterMap Group.mode = st'.mode.toList := by
  obtain ⟨paths, mode⟩ := sofar
  cases g with
  | selector sel =>
    simp only [act] at acted
    cases slot : setMode st.mode sel.mode sel.flag with
    | error e => simp [slot, Except.map] at acted
    | ok slot' =>
      -- The slot was free, so this group is the first one to ask for a mode.
      obtain ⟨free, rfl⟩ := setMode_eq_ok_iff.mp slot
      simp only [slot, Except.map, Except.ok.injEq] at acted
      subst acted
      simp [operands, Group.operand, Group.mode, paths, mode, free]
  | toggle t =>
    cases acted
    cases t <;> simp [operands, Group.operand, Group.mode, paths, mode, setToggle]
  | value opt v =>
    cases opt with
    | remove =>
      simp only [act, setValue] at acted
      cases slot : setMode st.mode (.removeOne v) "-d" with
      | error e => simp [slot, bind, Except.bind] at acted
      | ok slot' =>
        obtain ⟨free, rfl⟩ := setMode_eq_ok_iff.mp slot
        simp only [slot, bind, Except.bind, pure, Except.pure, Except.ok.injEq] at acted
        subst acted
        simp [operands, Group.operand, Group.mode, paths, mode, free]
    | lifetime =>
      simp only [act, setValue] at acted
      cases parsed : parseLifetime v with
      | error e => simp [parsed, bind, Except.bind] at acted
      | ok n =>
        simp only [parsed, bind, Except.bind, pure, Except.pure, Except.ok.injEq] at acted
        subst acted
        simp [operands, Group.operand, Group.mode, paths, mode]
    | hash =>
      simp only [act, setValue] at acted
      cases parsed : parseHash v with
      | error e => simp [parsed, bind, Except.bind] at acted
      | ok alg =>
        simp only [parsed, bind, Except.bind, pure, Except.pure, Except.ok.injEq] at acted
        subst acted
        simp [operands, Group.operand, Group.mode, paths, mode]
  | ignored a listed =>
    cases acted
    simp [operands, Group.operand, Group.mode, paths, mode]
  | positional a plain =>
    cases acted
    simp [operands, Group.operand, Group.mode, paths, mode]

/-- Run lemma: an accepted argument vector is a list of groups, at most one of which
asks for a mode, with more paths behind `--` if that is there. -/
theorem run_collects {args : List String} {st : Scan} (ran : Argv.run step start args = .ok st) :
    ∃ gs dashed, args = grammar.spell gs ++ afterDashes dashed ∧
      st.paths = operands gs ++ dashed.getD [] ∧ gs.filterMap Group.mode = st.mode.toList := by
  obtain ⟨gs, rest, same, stuck⟩ := grammar.exists_split args
  rw [same, grammar.run_spell step_follows.consumes step_follows.acts] at ran
  cases folded : gs.foldlM act start with
  | error e => simp [folded, bind, Except.bind] at ran
  | ok mid =>
    have opening : start.paths = operands [] ∧ [].filterMap Group.mode = start.mode.toList :=
      ⟨rfl, rfl⟩
    have collected := Argv.foldlM_invariant
      (I := fun done st => st.paths = operands done ∧ done.filterMap Group.mode = st.mode.toList)
      (fun done g st st' sofar acted => act_collects sofar acted) gs opening folded
    simp only [List.nil_append] at collected
    obtain ⟨paths, mode⟩ := collected
    have last : Argv.run step mid rest = .ok st := by
      simpa [folded, bind, Except.bind] using ran
    -- What is left starts with no group: nothing, or `--`.
    cases rest with
    | nil =>
      cases last
      exact ⟨gs, none, same, by simpa using paths, mode⟩
    | cons a tail =>
      rw [Argv.run_cons step_follows.consumes] at last
      have unread : readArm (arm a) tail = none := stuck
      unfold step at last
      cases kind : arm a with
      | endOfOptions spelled =>
        rw [kind] at last
        cases last
        exact ⟨gs, some tail, by rw [same, spelled]; rfl, by simp [paths], mode⟩
      | unsupported =>
        rw [kind] at last
        simp [stepArm] at last
      | value opt spelled =>
        rw [kind] at last unread
        cases tail with
        | nil => simp [stepArm, take, bind, Except.bind] at last
        | cons v more => simp [readArm] at unread
      | _ =>
        rw [kind] at unread
        simp [readArm] at unread

/-! ### What `run` works on -/

/-- The paths that an operation acts on. -/
def Mode.operands : Mode → List String
  | .removeOne path => [path]
  | .add paths => paths
  | .list _ | .removeAll | .lock | .unlock => []

/-- The paths that `run` acts on, once the arguments are parsed. -/
def worksOn (args : List String) (parsed : Parsed) : List String :=
  if args.any isHelp then [] else parsed.mode.operands

section
variable {Ag Va Te : Type}

theorem finish_ok {st : Scan} {p : Parsed} {w w' : World Ag Va Te}
    (finished : finish st w = (.ok p, w')) :
    p.mode ∈ st.mode ∨ st.mode = none ∧ ∃ paths, p.mode = .add paths ∧
      (st.paths ≠ [] → paths = st.paths) := by
  obtain ⟨mode, w₁, chosen, rest⟩ := Fallible.bind_ok_iff.mp finished
  -- The flags that conflict are looked at last, and the mode passes through.
  have kept : p.mode = mode := by
    split at rest
    · simp at rest
    · simp only [Fallible.pure_run, Prod.mk.injEq, Except.ok.injEq] at rest
      rw [← rest.1]
  rw [kept]
  unfold chooseMode at chosen
  cases slot : st.mode with
  | some m =>
    simp only [slot, Fallible.pure_run, Prod.mk.injEq, Except.ok.injEq] at chosen
    exact Or.inl (by simp [chosen.1])
  | none =>
    refine Or.inr ⟨rfl, ?_⟩
    simp only [slot] at chosen
    split at chosen
    next empty =>
      obtain ⟨paths, w₂, _, last⟩ := Fallible.bind_ok_iff.mp chosen
      simp only [Fallible.pure_run, Prod.mk.injEq, Except.ok.injEq] at last
      exact ⟨paths, last.1.symm, fun some_path => absurd (List.isEmpty_iff.mp empty) some_path⟩
    next =>
      simp only [Fallible.pure_run, Prod.mk.injEq, Except.ok.injEq] at chosen
      exact ⟨st.paths, chosen.1.symm, fun _ => rfl⟩

/-- No group starts at the end of the arguments, and none at `--`. -/
theorem stuck_afterDashes (dashed : Option (List String)) :
    grammar.Stuck (afterDashes dashed) := by
  cases dashed with
  | none => trivial
  | some paths =>
    show readArm (arm "--") paths = none
    rw [arm_endOfOptions]
    rfl

/-- An accepted argument vector splits into groups and what follows `--` in one way. -/
theorem split_unique {gs hs : List Group} {dashed dashed' : Option (List String)}
    (same : grammar.spell gs ++ afterDashes dashed = grammar.spell hs ++ afterDashes dashed') :
    gs = hs ∧ dashed = dashed' := by
  obtain ⟨groups, rest⟩ := grammar.split_unique (stuck_afterDashes dashed)
    (stuck_afterDashes dashed') same
  refine ⟨groups, ?_⟩
  cases dashed <;> cases dashed' <;> simp_all [afterDashes]

theorem removeOne_iff {g : Group} {path : String} :
    g.mode = some (.removeOne path) ↔ g = .value .remove path := by
  cases g with
  | selector sel => cases sel <;> simp [Group.mode, Selector.mode]
  | value opt v => cases opt <;> simp [Group.mode]
  | _ => simp [Group.mode]

theorem mode_ne_add {g : Group} {paths : List String} : g.mode ≠ some (.add paths) := by
  cases g with
  | selector sel => cases sel <;> simp [Group.mode, Selector.mode]
  | value opt v => cases opt <;> simp [Group.mode]
  | _ => simp [Group.mode]

/-- With a mode of its own, a group leaves the paths to nobody, unless they are what
`-d` removes. -/
theorem operands_of_asked {gs : List Group} {m : Mode} (asked : gs.filterMap Group.mode = [m])
    {paths : List String} (some_path : paths ≠ []) :
    (∀ path ∈ paths, path ∈ m.operands) ↔
      ∃ named, Group.value .remove named ∈ gs ∧ ∀ path ∈ paths, path = named := by
  obtain ⟨first, more, rfl⟩ := List.exists_cons_of_ne_nil some_path
  have asks (m' : Mode) : (∃ g ∈ gs, g.mode = some m') ↔ m' = m := by
    rw [← List.mem_filterMap, asked, List.mem_singleton]
  have removes (named : String) : Group.value .remove named ∈ gs ↔ .removeOne named = m := by
    rw [← asks]
    simp [removeOne_iff]
  simp only [removes]
  cases m with
  | removeOne path => simp [Mode.operands]
  | add paths =>
    obtain ⟨g, _, adds⟩ := (asks (.add paths)).mpr rfl
    exact absurd adds mode_ne_add
  | _ =>
    simp only [Mode.operands, List.not_mem_nil, imp_false, reduceCtorEq, false_and, exists_false,
      iff_false, not_forall, not_not]
    exact ⟨first, List.mem_cons_self⟩

/-- Every positional path of an accepted argument vector is worked on exactly when there
is none, or no help flag stands among the tokens and either no flag asks for a mode or
all the paths are the one that `-d` names. -/
theorem operands_worked_on_iff {args : List String} {p : Parsed} {w w' : World Ag Va Te}
    (accepted : fromArgs args w = (.ok p, w')) :
    (∃ gs dashed, args = grammar.spell gs ++ afterDashes dashed) ∧
      ∀ gs dashed, args = grammar.spell gs ++ afterDashes dashed →
        ((∀ path ∈ operands gs ++ dashed.getD [], path ∈ worksOn args p) ↔
          operands gs ++ dashed.getD [] = [] ∨
            args.any isHelp = false ∧
              ((∀ g ∈ gs, g.mode = none) ∨
                ∃ named, Group.value .remove named ∈ gs ∧
                  ∀ path ∈ operands gs ++ dashed.getD [], path = named)) := by
  obtain ⟨st, w₁, scanned, finished⟩ := Fallible.bind_ok_iff.mp accepted
  simp only [Fallible.query_run, Prod.mk.injEq] at scanned
  obtain ⟨gs, dashed, same, paths, mode⟩ := run_collects scanned.1
  refine ⟨⟨gs, dashed, same⟩, ?_⟩
  intro gs' dashed' same'
  -- The arguments split in one way, so these groups are the ones that the loop acted on.
  obtain ⟨rfl, rfl⟩ := split_unique (same'.symm.trans same)
  rw [← paths]
  unfold worksOn
  by_cases none_given : st.paths = []
  · simp [none_given]
  -- A help flag is looked for before the arguments are parsed, and ends the run.
  cases helped : args.any isHelp with
  | true =>
    simp only [if_true, List.not_mem_nil, imp_false, Bool.true_eq_false, false_and, or_false]
    exact List.eq_nil_iff_forall_not_mem.symm
  | false =>
    simp only [Bool.false_eq_true, if_false, none_given, false_or, true_and]
    rcases finish_ok finished with asked | ⟨free, all, added, whole⟩
    · -- A mode was asked for, so the list of paths is dropped.
      have only : gs'.filterMap Group.mode = [p.mode] := by rw [mode, asked]; rfl
      have some_mode : ¬ ∀ g ∈ gs', g.mode = none := by
        rw [← List.filterMap_eq_nil_iff, only]
        simp
      rw [operands_of_asked only none_given]
      simp [some_mode]
    · have no_mode : ∀ g ∈ gs', g.mode = none := by
        rw [← List.filterMap_eq_nil_iff, mode, free]
        rfl
      rw [added, Mode.operands, whole none_given]
      exact ⟨fun _ => Or.inl no_mode, fun _ _ member => member⟩

end

/-- Parsed arguments are carried out, unless one of them asks for help. -/
theorem run_of_accepted {Priv Pub Ag Va Te : Type} [PublicKeyText Pub] [PrivateKey Priv Pub]
    [AgentControl Ag Priv Pub] [Terminal Te] [BiometricVault Va] {args : List String} {p : Parsed}
    {w w' : World Ag Va Te} (accepted : fromArgs args w = (.ok p, w')) :
    run args w =
      if args.any isHelp then (.ok 0, { w with stdout := w.stdout ++ [.line usage] })
      else (Fallible.query (fun w => Agent.fromEnv (w.env.vars "SSH_AUTH_SOCK") w.agent) >>=
        fun _ => perform p) w' := by
  unfold run
  cases args.any isHelp with
  | true => rfl
  | false => exact Fallible.bind_of_ok accepted

/-! ### On a reference environment -/

open Reference

instance : PublicKeyText RefPublic where
  toOpenssh key := .ok ("ssh-ed25519 " ++ key.blob)
  algorithm _ := "ssh-ed25519"

instance : AgentControl RefAgent RefPrivate RefPublic where
  remove key ag :=
    if ag.locked then (.error agentLocked, ag)
    else (.ok (), { ag with entries := ag.entries.filter fun e => e.1 ≠ key })
  removeAll ag :=
    if ag.locked then (.error agentLocked, ag) else (.ok (), { ag with entries := [] })
  lock _ ag := (.ok (), { ag with locked := true })
  unlock _ ag := (.ok (), { ag with locked := false })

private def removal : RefWorld :=
  world [("SSH_AUTH_SOCK", "/run/agent")]
    [("A", "ssh-ed25519 AAAA"), ("B", "ssh-ed25519 BBBB")]
    ⟨false, [(⟨"AAAA"⟩, ⟨none, false⟩), (⟨"BBBB"⟩, ⟨none, false⟩)]⟩ ⟨[]⟩ ⟨[]⟩

private def removalParsed : Parsed where
  mode := .removeOne "A"
  hash := .sha256
  lifetime := none
  confirm := false
  biometric := false
  noBiometric := false

private def confirmedParsed : Parsed where
  mode := .add ["A", "-l"]
  hash := .sha256
  lifetime := none
  confirm := true
  biometric := false
  noBiometric := false

/-- Without a flag for a mode nothing is dropped, and what follows `--` is a path. -/
theorem operands_worked_on_after_dashes :
    fromArgs ["-c", "A", "--", "-l"] removal = (.ok confirmedParsed, removal) ∧
      ∀ path ∈ ["A", "-l"], path ∈ worksOn ["-c", "A", "--", "-l"] confirmedParsed := by
  have accepted : fromArgs ["-c", "A", "--", "-l"] removal = (.ok confirmedParsed, removal) := rfl
  have kept := (operands_worked_on_iff accepted).2
    [.toggle .confirm, .positional "A" (by decide)] (some ["-l"]) rfl
  exact ⟨accepted, kept.mpr (Or.inr ⟨by decide, Or.inl (by decide)⟩)⟩

/-- `-d A B` succeeds, and the agent still holds the key of `B`. -/
theorem remove_drops_operand :
    fromArgs ["-d", "A", "B"] removal = (.ok removalParsed, removal) ∧
      "B" ∉ worksOn ["-d", "A", "B"] removalParsed ∧
      (run ["-d", "A", "B"] removal).1 = .ok 0 ∧
      (run ["-d", "A", "B"] removal).2.agent.entries = [(⟨"BBBB"⟩, ⟨none, false⟩)] := by
  have accepted : fromArgs ["-d", "A", "B"] removal = (.ok removalParsed, removal) := rfl
  have read : removal.fs.readToString "A" = .ok "ssh-ed25519 AAAA" :=
    readToString_textFiles _ "A" "ssh-ed25519 AAAA" rfl
  have named : publicKeyIn RefPrivate "ssh-ed25519 AAAA" = .ok (⟨"AAAA"⟩ : RefPublic) := by rfl
  have ran : run ["-d", "A", "B"] removal = perform removalParsed removal :=
    run_of_accepted accepted
  refine ⟨accepted, by decide, ?_⟩
  rw [ran]
  simp only [perform, removalParsed, removeOne, Fallible.bind_run, Program.readToString_run, read,
    Program.io_ok, named]
  exact ⟨rfl, rfl⟩

end Gitway.AddShim
