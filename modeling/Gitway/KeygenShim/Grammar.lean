import Gitway.KeygenShim.Parsed

/-!
# The grammar of `gitway-keygen`

The groups of tokens that the argument loop takes off the front, and what the parser
makes of a list of them. `fromArgs_grammar` says that the parser accepts this
language, and that its result depends on the values of each option and on the
positional tokens, in their order, and on nothing else.
-/
namespace Gitway.KeygenShim

open Lib

inductive Group where
  | value (opt : ValueOption) (v : String)
  | switch (sw : Switch)
  | packed (rest : String) (some_text : rest ≠ "")
  | separated (v : String)
  | ignored (flag : Ignored)
  | positional (a : String) (plain : Text.startsWith a "-" = false)
  deriving DecidableEq

def Group.tokens : Group → List String
  | .value opt v => [opt.flag, v]
  | .switch sw => [sw.flag]
  | .packed rest _ => ["-O" ++ rest]
  | .separated v => ["-O", v]
  | .ignored flag => [flag.flag]
  | .positional a _ => [a]

def readArm {a : String} : Arm a → List String → Option (Group × List String)
  | .value opt _, v :: rest => some (.value opt v, rest)
  | .switch sw _, rest => some (.switch sw, rest)
  | .packed text _ some_text, rest => some (.packed text some_text, rest)
  | .separated _, v :: rest => some (.separated v, rest)
  | .ignored flag _, rest => some (.ignored flag, rest)
  | .positional plain, rest => some (.positional a plain, rest)
  -- A missing value, `--` and an unsupported flag start no group.
  | .value .., [] | .separated _, [] | .endOfOptions _, _ | .unsupported, _ => none

theorem readArm_sound {a : String} (kind : Arm a) (rest : List String) (g : Group)
    (rest' : List String) (taken : readArm kind rest = some (g, rest')) :
    a :: rest = g.tokens ++ rest' := by
  cases kind with
  | value opt spelled =>
    cases rest with
    | nil => simp [readArm] at taken
    | cons v more =>
      cases taken
      rw [spelled]
      rfl
  | switch sw spelled =>
    cases taken
    rw [spelled]
    rfl
  | packed text spelled some_text =>
    cases taken
    rw [spelled]
    rfl
  | separated spelled =>
    cases rest with
    | nil => simp [readArm] at taken
    | cons v more =>
      cases taken
      rw [spelled]
      rfl
  | ignored flag spelled =>
    cases taken
    rw [spelled]
    rfl
  | endOfOptions spelled => simp [readArm] at taken
  | unsupported => simp [readArm] at taken
  | positional plain =>
    cases taken
    rfl

/-! ### Tokens and their arms -/

theorem arm_value (opt : ValueOption) : arm opt.flag = .value opt rfl := by
  cases opt <;> rfl

theorem arm_switch (sw : Switch) : arm sw.flag = .switch sw rfl := by
  cases sw <;> rfl

theorem arm_ignored (flag : Ignored) : arm flag.flag = .ignored flag rfl := by
  cases flag <;> rfl

theorem arm_separated : arm "-O" = .separated rfl := rfl

theorem arm_packed {rest : String} (some_text : rest ≠ "") :
    arm ("-O" ++ rest) = .packed rest rfl some_text := by
  -- No flag of the earlier arms starts like this.
  have other (flag : String) (unlike : flag.toList.take 2 ≠ ['-', 'O']) :
      "-O" ++ rest ≠ flag := by
    rintro rfl
    exact unlike (by simp [String.toList_append])
  have late : lateArm ("-O" ++ rest) = .packed rest rfl some_text := by
    unfold lateArm
    split
    next r stripped =>
      rw [Text.stripStart_append] at stripped
      cases stripped
      rw [dif_neg some_text]
    next stripped => simp at stripped
  simp (disch := decide) only [arm, other, late, dite_false]

theorem arm_positional {a : String} (plain : Text.startsWith a "-" = false) :
    arm a = .positional plain := by
  -- Every flag starts with a dash, and this token does not.
  have other (flag : String) (dashed : Text.startsWith flag "-" = true) : a ≠ flag := by
    rintro rfl
    simp [plain] at dashed
  have late : lateArm a = .positional plain := by
    unfold lateArm
    split
    next rest stripped =>
      rw [Text.stripStart_eq_some_iff.mp stripped] at plain
      simp [Text.startsWith, String.toList_append] at plain
    next => simp (disch := decide) only [other, plain, Bool.false_eq_true, dite_false]
  simp (disch := decide) only [arm, other, late, dite_false]

def grammar : Argv.Grammar String Group where
  tokens := Group.tokens
  read a rest := readArm (arm a) rest
  tokens_ne_nil g := by cases g <;> simp [Group.tokens]
  read_sound a rest g rest' taken := readArm_sound (arm a) rest g rest' taken
  read_tokens := by
    intro g a tail rest spelled
    cases g with
    | value opt v =>
      cases spelled
      simp [arm_value, readArm]
    | switch sw =>
      cases spelled
      simp [arm_switch, readArm]
    | packed text some_text =>
      cases spelled
      simp [arm_packed some_text, readArm]
    | separated v =>
      cases spelled
      simp [arm_separated, readArm]
    | ignored flag =>
      cases spelled
      simp [arm_ignored, readArm]
    | positional a plain =>
      cases spelled
      simp [arm_positional plain, readArm]

/-! ### The loop over groups -/

/-- What the loop does with a group. -/
def act (st : Scan) : Group → Except AnvilError Scan
  | .value opt v => setValue st v opt
  | .switch sw => .ok (setSwitch st sw)
  | .positional a _ => .ok (addPositional st a)
  | .packed .. | .separated _ | .ignored _ => .ok st

/-- Where a group can be read the iteration acts on it, and elsewhere it moves to
no other place. -/
theorem stepArm_readArm (st : Scan) {a : String} (kind : Arm a) (rest : List String) :
    match readArm kind rest with
    | some (g, rest') => stepArm st rest kind = (act st g).map fun st' => .next st' rest'
    | none => ∀ st' rest', stepArm st rest kind ≠ .ok (.next st' rest') := by
  cases kind with
  | value opt spelled =>
    cases rest with
    | nil => simp [readArm, stepArm, takeValue, bind, Except.bind]
    | cons v more =>
      simp only [readArm, stepArm, takeValue, act, bind, Except.bind]
      cases setValue st v opt <;> rfl
  | separated spelled =>
    cases rest with
    | nil => simp [readArm, stepArm, takeValue, bind, Except.bind]
    | cons v more => rfl
  | endOfOptions spelled => simp [readArm, stepArm]
  | unsupported => simp [readArm, stepArm]
  | switch sw spelled => rfl
  | packed text spelled some_text => rfl
  | ignored flag spelled => rfl
  | positional plain => rfl

theorem step_follows : grammar.Follows step act where
  acts := by
    intro st a rest g rest' taken
    have both := stepArm_readArm st (arm a) rest
    rw [show readArm (arm a) rest = some (g, rest') from taken] at both
    exact both
  halts := by
    intro st a rest unread
    have both := stepArm_readArm st (arm a) rest
    rw [show readArm (arm a) rest = none from unread] at both
    exact both

theorem step_implements : grammar.Implements step act := step_follows.acts

theorem step_consumes : Argv.Consumes step := step_follows.consumes

/-! ### What a list of groups says -/

def Group.valueOf (opt : ValueOption) : Group → Option String
  | .value o v => if o = opt then some v else none
  | _ => none

def Group.operand : Group → Option String
  | .positional a _ => some a
  | _ => none

/-- The last value of an option. -/
def last (opt : ValueOption) (gs : List Group) : Option String :=
  Argv.lastOf (Group.valueOf opt) gs

/-- The positional tokens. -/
def operands (gs : List Group) : List String := gs.filterMap Group.operand

def given (sw : Switch) (gs : List Group) : Bool := gs.any (· == .switch sw)

/-- The variables of the loop after these groups. -/
def collected (gs : List Group) : Scan where
  p := {
    mode := .generateKey
    keyType := last .keyType gs
    bits := (last .bits gs).bind Text.parseU32
    file := (last .file gs).or (operands gs)[1]?
    newPassphrase := last .newPassphrase gs
    oldPassphrase := last .oldPassphrase gs
    comment := last .comment gs
    nameSpace := last .nameSpace gs
    signerIdentity := last .signerIdentity gs
    signatureFile := last .signatureFile gs
    allowedSigners := last .allowedSigners gs
    fingerprintHash := ((last .hash gs).bind parseHash).getD .sha256
    messageFile := (operands gs)[0]? }
  sawList := given .list gs
  sawExtract := given .extract gs
  sawChange := given .change gs
  sshsigOp := last .sshsigOp gs

@[simp] theorem last_concat (opt : ValueOption) (gs : List Group) (g : Group) :
    last opt (gs ++ [g]) = (g.valueOf opt).or (last opt gs) :=
  Argv.lastOf_concat _ gs g

@[simp] theorem operands_concat (gs : List Group) (g : Group) :
    operands (gs ++ [g]) = operands gs ++ g.operand.toList := by
  unfold operands
  cases operand : g.operand <;> simp [operand]

@[simp] theorem given_concat (sw : Switch) (gs : List Group) (g : Group) :
    given sw (gs ++ [g]) = (given sw gs || g == .switch sw) := by
  simp [given]

/-- Step lemma: an action adds its group to what has been collected. -/
theorem act_collected (done : List Group) (g : Group) (st : Scan)
    (acted : act (collected done) g = .ok st) : st = collected (done ++ [g]) := by
  cases g with
  | value opt v =>
    cases opt with
    | bits =>
      simp only [act, setValue] at acted
      split at acted
      next n parsed =>
        cases acted
        simp [collected, Group.valueOf, Group.operand, parsed]
      · simp at acted
    | hash =>
      simp only [act, setValue] at acted
      split at acted
      next alg parsed =>
        cases acted
        simp [collected, Group.valueOf, Group.operand, parsed]
      · simp at acted
    | _ =>
      cases acted
      simp [collected, Group.valueOf, Group.operand]
  | switch sw =>
    cases acted
    cases sw <;> simp [collected, setSwitch, Group.valueOf, Group.operand]
  | packed text some_text =>
    cases acted
    simp [collected, Group.valueOf, Group.operand]
  | separated v =>
    cases acted
    simp [collected, Group.valueOf, Group.operand]
  | ignored flag =>
    cases acted
    simp [collected, Group.valueOf, Group.operand]
  | positional a plain =>
    cases acted
    -- The first operand is the message file, the second stands in for `-f`.
    cases named : operands done with
    | nil => simp [collected, addPositional, Group.valueOf, Group.operand, named]
    | cons first more =>
      cases more with
      | nil =>
        cases file : last .file done <;>
          simp [collected, addPositional, Group.valueOf, Group.operand, named, file]
      | cons second others =>
        simp [collected, addPositional, Group.valueOf, Group.operand, named]

/-- Run lemma: after the loop the variables hold what the groups say. -/
theorem foldlM_act (gs : List Group) (st : Scan) (ran : gs.foldlM act start = .ok st) :
    st = collected gs := by
  have opening : start = collected [] := rfl
  have whole := Argv.foldlM_invariant (I := fun done st => st = collected done)
    (fun done g st st' sofar acted => act_collected done g st' (sofar ▸ acted)) gs opening ran
  simpa using whole

/-! ### Acceptance -/

/-- The groups whose own value is in order. -/
def Group.Valid : Group → Prop
  | .value .bits v => (Text.parseU32 v).isSome
  | .value .hash v => (parseHash v).isSome
  | _ => True

theorem act_ok_iff (st : Scan) (g : Group) : (∃ st', act st g = .ok st') ↔ g.Valid := by
  cases g with
  | value opt v =>
    cases opt with
    | bits => cases parsed : Text.parseU32 v <;> simp [act, setValue, Group.Valid, parsed]
    | hash => cases parsed : parseHash v <;> simp [act, setValue, Group.Valid, parsed]
    | _ => simp [act, setValue, Group.Valid]
  | _ => simp [act, Group.Valid]

/-- What the values must be like for the parser to accept. -/
structure Acceptable (gs : List Group) : Prop where
  bits : ∀ v, .value .bits v ∈ gs → (Text.parseU32 v).isSome
  hash : ∀ v, .value .hash v ∈ gs →
    Text.toAsciiLowercase v = "sha256" ∨ Text.toAsciiLowercase v = "sha512"
  operation : ∀ op, last .sshsigOp gs = some op →
    op = "sign" ∨ op = "verify" ∨ op = "check-novalidate" ∨ op = "find-principals"

/-- What the parser returns for a list of groups. -/
def summary (gs : List Group) : Parsed :=
  { (collected gs).p with
    mode :=
      match last .sshsigOp gs with
      | some op => (parseOperation op).getD .generateKey
      | none =>
        if given .list gs then .printFingerprint
        else if given .extract gs then .extractPublic
        else if given .change gs then .changePassphrase
        else .generateKey }

theorem parseHash_isSome_iff (v : String) : (parseHash v).isSome = true ↔
    Text.toAsciiLowercase v = "sha256" ∨ Text.toAsciiLowercase v = "sha512" := by
  unfold parseHash
  split <;> simp_all

theorem parseOperation_isSome_iff (op : String) : (parseOperation op).isSome = true ↔
    op = "sign" ∨ op = "verify" ∨ op = "check-novalidate" ∨ op = "find-principals" := by
  unfold parseOperation
  split <;> simp_all

theorem valid_iff (gs : List Group) :
    (∀ g ∈ gs, g.Valid) ↔ (∀ v, .value .bits v ∈ gs → (Text.parseU32 v).isSome) ∧
      ∀ v, .value .hash v ∈ gs → (parseHash v).isSome := by
  constructor
  · intro valid
    exact ⟨fun v member => valid _ member, fun v member => valid _ member⟩
  · rintro ⟨bits, hash⟩ g member
    cases g with
    | value opt v =>
      cases opt with
      | bits => exact bits v member
      | hash => exact hash v member
      | _ => trivial
    | _ => trivial

theorem fromArgs_spell (gs : List Group) :
    fromArgs (grammar.spell gs) = gs.foldlM act start >>= finish := by
  have whole := grammar.run_spell step_consumes step_implements gs [] start
  rw [List.append_nil] at whole
  unfold fromArgs
  rw [whole]
  cases gs.foldlM act start <;> rfl

theorem finish_collected (gs : List Group) :
    (∀ p, finish (collected gs) = .ok p → p = summary gs) ∧
      ((∃ p, finish (collected gs) = .ok p) ↔
        ∀ op, last .sshsigOp gs = some op → (parseOperation op).isSome = true) := by
  have chosen : (collected gs).sshsigOp = last .sshsigOp gs := rfl
  unfold finish summary
  rw [chosen]
  cases last .sshsigOp gs with
  | none =>
    refine ⟨fun p done => ?_, by simp⟩
    cases done
    rfl
  | some op =>
    cases operation : parseOperation op with
    | none => simp [operation]
    | some mode =>
      refine ⟨fun p done => ?_, by simp [operation]⟩
      simp only [operation, Except.ok.injEq] at done
      simp [← done, operation]

theorem acceptable_iff (gs : List Group) : Acceptable gs ↔
    (∀ g ∈ gs, g.Valid) ∧
      ∀ op, last .sshsigOp gs = some op → (parseOperation op).isSome = true := by
  rw [valid_iff]
  constructor
  · rintro ⟨bits, hash, operation⟩
    exact ⟨⟨bits, fun v member => (parseHash_isSome_iff v).mpr (hash v member)⟩,
      fun op named => (parseOperation_isSome_iff op).mpr (operation op named)⟩
  · rintro ⟨⟨bits, hash⟩, operation⟩
    exact ⟨bits, fun v member => (parseHash_isSome_iff v).mp (hash v member),
      fun op named => (parseOperation_isSome_iff op).mp (operation op named)⟩

/-- Groups in, summary out. -/
theorem fromArgs_spell_iff (gs : List Group) :
    ((∃ p, fromArgs (grammar.spell gs) = .ok p) ↔ Acceptable gs) ∧
      ∀ p, fromArgs (grammar.spell gs) = .ok p → p = summary gs := by
  -- Actions fail on single values, and `finish` on the operation alone.
  have valid := Argv.foldlM_ok_iff act_ok_iff gs start
  obtain ⟨result, succeeds⟩ := finish_collected gs
  rw [fromArgs_spell, acceptable_iff, ← valid, ← succeeds]
  cases ran : gs.foldlM act start with
  | error e => simp [bind, Except.bind]
  | ok st =>
    obtain rfl := foldlM_act gs st ran
    simpa [bind, Except.bind] using result

/-- The options and operands of two token lists agree, however they interleave. -/
structure SameOptions (gs hs : List Group) : Prop where
  values : ∀ opt, gs.filterMap (Group.valueOf opt) = hs.filterMap (Group.valueOf opt)
  operands : operands gs = operands hs
  given : ∀ sw, given sw gs = given sw hs

theorem SameOptions.last {gs hs : List Group} (same : SameOptions gs hs) (opt : ValueOption) :
    last opt gs = last opt hs := by
  unfold KeygenShim.last Argv.lastOf
  rw [same.values opt]

theorem SameOptions.summary {gs hs : List Group} (same : SameOptions gs hs) :
    summary gs = summary hs := by
  simp only [KeygenShim.summary, collected, same.last, same.operands, same.given]

theorem value_mem_iff (opt : ValueOption) (v : String) (gs : List Group) :
    .value opt v ∈ gs ↔ v ∈ gs.filterMap (Group.valueOf opt) := by
  rw [List.mem_filterMap]
  constructor
  · intro member
    exact ⟨_, member, by simp [Group.valueOf]⟩
  · rintro ⟨g, member, valued⟩
    cases g with
    | value o w =>
      simp only [Group.valueOf, Option.ite_none_right_eq_some, Option.some.injEq] at valued
      obtain ⟨rfl, rfl⟩ := valued
      exact member
    | _ => simp [Group.valueOf] at valued

theorem SameOptions.acceptable {gs hs : List Group} (same : SameOptions gs hs) :
    Acceptable gs ↔ Acceptable hs := by
  rw [acceptable_iff, acceptable_iff, valid_iff, valid_iff]
  simp only [value_mem_iff, same.values, same.last]

theorem SameOptions.fromArgs {gs hs : List Group} (same : SameOptions gs hs) :
    (fromArgs (grammar.spell gs)).toOption = (fromArgs (grammar.spell hs)).toOption := by
  obtain ⟨first_ok, first_result⟩ := fromArgs_spell_iff gs
  obtain ⟨second_ok, second_result⟩ := fromArgs_spell_iff hs
  cases first : KeygenShim.fromArgs (grammar.spell gs) with
  | ok p =>
    obtain ⟨q, second⟩ := second_ok.mpr (same.acceptable.mp (first_ok.mp ⟨p, first⟩))
    rw [second, first_result p first, second_result q second, same.summary]
  | error e =>
    cases second : KeygenShim.fromArgs (grammar.spell hs) with
    | error e => rfl
    | ok q =>
      obtain ⟨p, accepted⟩ := first_ok.mpr (same.acceptable.mpr (second_ok.mp ⟨q, second⟩))
      simp [first] at accepted

/-- Where no group can be read, the parser stops at `--` or fails. -/
theorem stuck_fails (st : Scan) {a : String} {rest : List String}
    (stuck : grammar.Stuck (a :: rest)) (other : a ≠ "--") : ∃ e, step st a rest = .error e := by
  unfold step
  have none_read : readArm (arm a) rest = none := stuck
  generalize arm a = kind at none_read
  cases kind with
  | value opt spelled =>
    cases rest with
    | nil => exact ⟨_, rfl⟩
    | cons v more => simp [readArm] at none_read
  | separated spelled =>
    cases rest with
    | nil => exact ⟨_, rfl⟩
    | cons v more => simp [readArm] at none_read
  | endOfOptions spelled => exact absurd spelled other
  | unsupported => exact ⟨_, rfl⟩
  | _ => simp [readArm] at none_read

theorem fromArgs_stuck (gs : List Group) {a : String} {rest : List String}
    (stuck : grammar.Stuck (a :: rest)) (other : a ≠ "--") :
    ∃ e, fromArgs (grammar.spell gs ++ a :: rest) = .error e := by
  unfold fromArgs
  rw [grammar.run_spell step_consumes step_implements]
  cases gs.foldlM act start with
  | error e => exact ⟨e, rfl⟩
  | ok st =>
    obtain ⟨e, failed⟩ := stuck_fails st stuck other
    refine ⟨e, ?_⟩
    simp only [bind, Except.bind, Argv.run_cons step_consumes, failed]

/-- Without a bare `--`, the parser accepts exactly the token lists that are spelled
by groups with proper values, and returns what the groups say, in whatever order
the options stand. -/
theorem fromArgs_grammar :
    (∀ gs, ((∃ p, fromArgs (grammar.spell gs) = .ok p) ↔ Acceptable gs) ∧
      ∀ p, fromArgs (grammar.spell gs) = .ok p → p = summary gs) ∧
    (∀ gs hs, SameOptions gs hs →
      (fromArgs (grammar.spell gs)).toOption = (fromArgs (grammar.spell hs)).toOption) ∧
    ∀ args, (∀ gs post, args ≠ grammar.spell gs ++ "--" :: post) →
      (∀ gs, args ≠ grammar.spell gs) → ∃ e, fromArgs args = .error e := by
  refine ⟨fromArgs_spell_iff, fun gs hs same => same.fromArgs, ?_⟩
  intro args undashed unspelled
  -- What is left after the groups is not empty and does not start with `--`.
  obtain ⟨gs, rest, split, stuck⟩ := grammar.exists_split args
  cases rest with
  | nil => exact absurd (by simpa using split) (unspelled gs)
  | cons a more =>
    have other : a ≠ "--" := by
      rintro rfl
      exact undashed gs more split
    rw [split]
    exact fromArgs_stuck gs stuck other

private theorem unsupported_unspelled (rest : List String) :
    (∀ gs post, "-U" :: rest ≠ grammar.spell gs ++ "--" :: post) ∧
      ∀ gs, "-U" :: rest ≠ grammar.spell gs := by
  have stuck : grammar.Stuck ("-U" :: rest) := rfl
  constructor
  · intro gs post split
    have dashes : grammar.Stuck ("--" :: post) := rfl
    have whole : grammar.spell [] ++ "-U" :: rest = grammar.spell gs ++ "--" :: post := split
    have unique := grammar.split_unique stuck dashes whole
    simp at unique
  · intro gs split
    have nothing : grammar.Stuck [] := trivial
    have whole : grammar.spell [] ++ "-U" :: rest = grammar.spell gs ++ [] := by simpa using split
    have unique := grammar.split_unique stuck nothing whole
    simp at unique

theorem fromArgs_grammar_samples :
    (fromArgs (grammar.spell [.switch .list, .value .file "id"])).toOption =
      (fromArgs (grammar.spell [.value .file "id", .switch .list])).toOption ∧
    ∃ e, fromArgs ["-U", "msg"] = .error e :=
  ⟨fromArgs_grammar.2.1 _ _
      ⟨fun opt => by cases opt <;> rfl, rfl, fun sw => by cases sw <;> rfl⟩,
    fromArgs_grammar.2.2 ["-U", "msg"] (unsupported_unspelled ["msg"]).1
      (unsupported_unspelled ["msg"]).2⟩

end Gitway.KeygenShim
