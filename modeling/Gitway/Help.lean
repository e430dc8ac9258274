import Gitway.AddShim.Grammar
import Gitway.KeygenShim.Operands
import Gitway.KeygenShim.Run

/-!
# Help in the two shims

`run` looks for a help token among all arguments before they are parsed. The parser reads
the value of an option and what stands behind `--` as they are, so a help token there
means something else.
-/
namespace Gitway.KeygenShim

open Lib
open AddShim (afterDashes)

/-! ### Where `gitway-keygen` reads options -/

def takesValue (a : String) : Bool :=
  match arm a with
  | .value .. | .separated _ => true
  | _ => false

def endsOptions (a : String) : Bool := a == "--"

def optionTokens (args : List String) : List String :=
  Argv.optionTokens takesValue endsOptions args

def hiddenTokens (args : List String) : List String :=
  Argv.hiddenTokens takesValue endsOptions args

/-- `run` prints the usage and returns. -/
def asksHelp (args : List String) : Bool := args.any isHelp

theorem dashes_unread (a : String) (rest : List String) (dashes : endsOptions a = true) :
    grammar.read a rest = none := by
  obtain rfl : a = "--" := by simpa [endsOptions] using dashes
  rfl

theorem help_unread (a : String) (rest : List String) (helps : isHelp a = true) :
    grammar.read a rest = none := by
  have help : a = "--help" ∨ a = "-?" := by simpa [isHelp] using helps
  rcases help with rfl | rfl <;> rfl

theorem group_shape (g : Group) : ∃ a, endsOptions a = false ∧
    (takesValue a = false ∧ g.tokens = [a] ∨ takesValue a = true ∧ ∃ v, g.tokens = [a, v]) := by
  cases spelled : g.tokens with
  | nil => exact absurd spelled (grammar.tokens_ne_nil g)
  | cons a tail =>
    refine ⟨a, grammar.not_first dashes_unread spelled, ?_⟩
    cases g with
    | value opt v =>
      cases spelled
      exact Or.inr ⟨by simp [takesValue, arm_value], v, rfl⟩
    | separated v =>
      cases spelled
      exact Or.inr ⟨by simp [takesValue, arm_separated], v, rfl⟩
    | switch sw =>
      cases spelled
      exact Or.inl ⟨by simp [takesValue, arm_switch], rfl⟩
    | packed text some_text =>
      cases spelled
      exact Or.inl ⟨by simp [takesValue, arm_packed some_text], rfl⟩
    | ignored flag =>
      cases spelled
      exact Or.inl ⟨by simp [takesValue, arm_ignored], rfl⟩
    | positional text plain =>
      cases spelled
      exact Or.inl ⟨by simp [takesValue, arm_positional plain], rfl⟩

/-- Where the parser reads options in arguments that it accepts, there is no help token. -/
theorem no_help_read {args : List String} {p : Parsed} (accepted : fromArgs args = .ok p) :
    (optionTokens args).any isHelp = false := by
  obtain ⟨gs, dashed, rfl⟩ := argv_of_accepted accepted
  unfold optionTokens argv
  rw [grammar.any_optionTokens_spell group_shape help_unread]
  -- Behind the groups stands nothing, or `--`.
  cases dashed with
  | none => rfl
  | some post => cases post <;> rfl

/-! ### The value of an option -/

/-- The parsed arguments with the field of an option wiped. -/
def Parsed.without (p : Parsed) : ValueOption → Parsed
  | .keyType => { p with keyType := none }
  | .bits => { p with bits := none }
  | .file => { p with file := none }
  | .newPassphrase => { p with newPassphrase := none }
  | .oldPassphrase => { p with oldPassphrase := none }
  | .comment => { p with comment := none }
  | .nameSpace => { p with nameSpace := none }
  | .signerIdentity => { p with signerIdentity := none }
  | .signatureFile => { p with signatureFile := none }
  | .hash => { p with fingerprintHash := .sha256 }
  | .sshsigOp => { p with mode := .generateKey }
  | .allowedSigners => { p with allowedSigners := none }

/-- The parser takes any value of this option. -/
def ValueOption.Free (opt : ValueOption) : Prop := opt ∉ [.bits, .hash, .sshsigOp]

theorem last_value_other {opt other : ValueOption} (apart : opt ≠ other) (v v' : String)
    (gs hs : List Group) :
    last other (gs ++ .value opt v :: hs) = last other (gs ++ .value opt v' :: hs) := by
  simp [last, Argv.lastOf_append, Argv.lastOf_cons, Group.valueOf, apart]

theorem operands_value (opt : ValueOption) (v v' : String) (gs hs : List Group) :
    operands (gs ++ .value opt v :: hs) = operands (gs ++ .value opt v' :: hs) := by
  unfold operands
  rw [List.filterMap_append, List.filterMap_append]
  rfl

theorem given_value (sw : Switch) (opt : ValueOption) (v v' : String) (gs hs : List Group) :
    given sw (gs ++ .value opt v :: hs) = given sw (gs ++ .value opt v' :: hs) := by
  have other (v : String) : (Group.value opt v == .switch sw) = false := by simp
  unfold given
  rw [List.any_append, List.any_append, List.any_cons, List.any_cons, other, other]

theorem summary_value (opt : ValueOption) (v v' : String) (gs hs : List Group) :
    (summary (gs ++ .value opt v :: hs)).without opt =
      (summary (gs ++ .value opt v' :: hs)).without opt := by
  have others (other : ValueOption) (apart : opt ≠ other) :=
    last_value_other apart v v' gs hs
  have named := operands_value opt v v' gs hs
  have switches (sw : Switch) := given_value sw opt v v' gs hs
  cases opt <;>
    simp (disch := decide) only [summary, collected, Parsed.without, others, named, switches]

theorem acceptable_value {opt : ValueOption} (free : opt.Free) (v v' : String)
    {gs hs : List Group} (accepted : Acceptable (gs ++ .value opt v :: hs)) :
    Acceptable (gs ++ .value opt v' :: hs) := by
  rw [acceptable_iff] at accepted ⊢
  obtain ⟨valid, operation⟩ := accepted
  constructor
  · intro g member
    rcases List.mem_append.mp member with early | late
    · exact valid g (List.mem_append_left _ early)
    rcases List.mem_cons.mp late with rfl | later
    -- The new value is not looked at.
    · cases opt with
      | bits => exact absurd (by simp) free
      | hash => exact absurd (by simp) free
      | _ => trivial
    · exact valid g (List.mem_append_right _ (List.mem_cons_of_mem _ later))
  · have apart : opt ≠ .sshsigOp := fun same => free (by simp [same])
    rw [last_value_other apart v' v]
    exact operation

/-- The arguments in which an option has this value. -/
def withValue (gs : List Group) (opt : ValueOption) (rest : List String) (v : String) :
    List String :=
  grammar.spell gs ++ opt.flag :: v :: rest

theorem withValue_argv (gs hs : List Group) (dashed : Option (List String)) (opt : ValueOption)
    (v : String) :
    withValue gs opt (argv hs dashed) v = argv (gs ++ .value opt v :: hs) dashed := by
  unfold withValue argv
  rw [grammar.spell_append, grammar.spell_cons, List.append_assoc, List.append_assoc]
  rfl

/-- Another value of an option changes its field at most. -/
theorem fromArgs_withValue (gs : List Group) (opt : ValueOption) (rest : List String)
    {v v' : String} {p : Parsed} (accepted : fromArgs (withValue gs opt rest v) = .ok p) :
    (opt.Free → ∃ p', fromArgs (withValue gs opt rest v') = .ok p') ∧
      ∀ p', fromArgs (withValue gs opt rest v') = .ok p' → p'.without opt = p.without opt := by
  have split : fromArgs (grammar.spell (gs ++ [.value opt v]) ++ rest) = .ok p := by
    rw [grammar.spell_append, List.append_assoc]
    exact accepted
  obtain ⟨hs, dashed, rfl⟩ := rest_of_accepted split
  rw [withValue_argv, fromArgs_argv] at accepted
  rw [withValue_argv, fromArgs_argv]
  obtain ⟨accepts, result⟩ := fromArgs_spell_iff (gs ++ .value opt v :: hs)
  obtain ⟨accepts', result'⟩ := fromArgs_spell_iff (gs ++ .value opt v' :: hs)
  constructor
  · exact fun free => accepts'.mpr (acceptable_value free v v' (accepts.mp ⟨p, accepted⟩))
  · intro p' accepted'
    rw [result p accepted, result' p' accepted']
    exact summary_value opt v' v gs hs

theorem asksHelp_withValue (gs : List Group) (opt : ValueOption) (rest : List String)
    (v : String) : asksHelp (withValue gs opt rest v) =
      (asksHelp (grammar.spell gs ++ rest) || isHelp v) := by
  have flag : isHelp opt.flag = false := by cases opt <;> rfl
  unfold asksHelp withValue
  rw [List.any_append, List.any_append, List.any_cons, List.any_cons, flag, Bool.false_or,
    Bool.or_assoc, Bool.or_comm (isHelp v)]

/-- The second argument vector parses like the first one, up to the field of an option. An
option whose values are checked may be refused. -/
def SameButField (opt : ValueOption) (args args' : List String) : Prop :=
  ∀ p, fromArgs args = .ok p → (opt.Free → ∃ p', fromArgs args' = .ok p') ∧
    ∀ p', fromArgs args' = .ok p' → p'.without opt = p.without opt

/-- Help is printed only for a token that is read as an option. -/
def HelpRead (args : List String) : Prop :=
  asksHelp args = true → (optionTokens args).any isHelp = true

section
variable {Priv Pub Sig Signers Ag Va Te : Type} [PublicKey Pub] [PrivateKey Priv Pub]
  [Agent Ag Priv Pub] [Terminal Te] [SshSig Priv Sig] [Keygen.Writer Priv] [KeySize Pub]
  [Principals Priv Signers]

theorem run_help (args : List String) (w : World Ag Va Te) :
    run args w =
      if asksHelp args then (.ok 0, { w with stdout := w.stdout ++ [.line usage] })
      else (Fallible.query (fun _ => fromArgs args) >>= perform) w := by
  unfold run asksHelp
  cases args.any isHelp <;> rfl

end

theorem helpRead_iff (args : List String) : HelpRead args ↔
    (hiddenTokens args).any isHelp = false ∨ (optionTokens args).any isHelp = true := by
  have split := Argv.any_optionTokens takesValue endsOptions isHelp args
  unfold HelpRead asksHelp optionTokens hiddenTokens
  rw [split]
  cases (Argv.optionTokens takesValue endsOptions args).any isHelp <;> simp

/-- Arguments that the parser accepts hold a help token only where it is hidden. -/
theorem helpRead_accepted_iff {args : List String} {p : Parsed} (accepted : fromArgs args = .ok p) :
    HelpRead args ↔ (hiddenTokens args).any isHelp = false := by
  rw [helpRead_iff, no_help_read accepted]
  simp

theorem switches_iff (gs : List Group) (opt : ValueOption) (rest : List String) (v v' : String) :
    (asksHelp (withValue gs opt rest v') = true → asksHelp (withValue gs opt rest v) = true) ↔
      isHelp v' = false ∨ asksHelp (withValue gs opt rest v) = true := by
  rw [asksHelp_withValue, asksHelp_withValue]
  cases asksHelp (grammar.spell gs ++ rest) <;> cases isHelp v' <;> simp

end Gitway.KeygenShim

namespace Gitway.AddShim

open Lib

/-! ### Where `gitway-add` reads options -/

def takesValue (a : String) : Bool :=
  match arm a with
  | .value .. => true
  | _ => false

def endsOptions (a : String) : Bool := a == "--"

def optionTokens (args : List String) : List String :=
  Argv.optionTokens takesValue endsOptions args

def hiddenTokens (args : List String) : List String :=
  Argv.hiddenTokens takesValue endsOptions args

/-- `run` prints the usage and returns. -/
def asksHelp (args : List String) : Bool := args.any isHelp

theorem dashes_unread (a : String) (rest : List String) (dashes : endsOptions a = true) :
    grammar.read a rest = none := by
  obtain rfl : a = "--" := by simpa [endsOptions] using dashes
  rfl

theorem help_unread (a : String) (rest : List String) (helps : isHelp a = true) :
    grammar.read a rest = none := by
  have help : a = "-h" ∨ a = "--help" ∨ a = "-?" := by simpa [isHelp, or_assoc] using helps
  rcases help with rfl | rfl | rfl <;> rfl

theorem group_shape (g : Group) : ∃ a, endsOptions a = false ∧
    (takesValue a = false ∧ g.tokens = [a] ∨ takesValue a = true ∧ ∃ v, g.tokens = [a, v]) := by
  cases spelled : g.tokens with
  | nil => exact absurd spelled (grammar.tokens_ne_nil g)
  | cons a tail =>
    refine ⟨a, grammar.not_first dashes_unread spelled, ?_⟩
    cases g with
    | value opt v =>
      cases spelled
      exact Or.inr ⟨by simp [takesValue, arm_value], v, rfl⟩
    | selector sel =>
      cases spelled
      exact Or.inl ⟨by simp [takesValue, arm_selector], rfl⟩
    | toggle t =>
      cases spelled
      exact Or.inl ⟨by simp [takesValue, arm_toggle], rfl⟩
    | ignored flag listed =>
      cases spelled
      exact Or.inl ⟨by simp [takesValue, arm_ignored listed], rfl⟩
    | positional text plain =>
      cases spelled
      exact Or.inl ⟨by simp [takesValue, arm_positional plain], rfl⟩

variable {Ag Va Te : Type}

theorem no_help_read {args : List String} {p : Parsed} {w w' : World Ag Va Te}
    (accepted : fromArgs args w = (.ok p, w')) : (optionTokens args).any isHelp = false := by
  obtain ⟨gs, dashed, rfl⟩ := argv_of_accepted accepted
  unfold optionTokens argv
  rw [grammar.any_optionTokens_spell group_shape help_unread]
  -- Behind the groups stands nothing, or `--`.
  cases dashed with
  | none => rfl
  | some post => cases post <;> rfl

/-! ### The value of an option -/

def Mode.wiped : Mode → Mode
  | .removeOne _ => .removeOne ""
  | mode => mode

/-- The parsed arguments with the field of an option wiped. -/
def Parsed.without (p : Parsed) : ValueOption → Parsed
  | .remove => { p with mode := p.mode.wiped }
  | .lifetime => { p with lifetime := none }
  | .hash => { p with hash := .sha256 }

theorem last_value_other {opt other : ValueOption} (apart : opt ≠ other) (v v' : String)
    (gs hs : List Group) :
    last other (gs ++ .value opt v :: hs) = last other (gs ++ .value opt v' :: hs) := by
  simp [last, Argv.lastOf_append, Argv.lastOf_cons, Group.valueOf, apart]

theorem operands_value (opt : ValueOption) (v v' : String) (gs hs : List Group) :
    operands (gs ++ .value opt v :: hs) = operands (gs ++ .value opt v' :: hs) := by
  unfold operands
  rw [List.filterMap_append, List.filterMap_append]
  rfl

theorem given_value (t : Toggle) (opt : ValueOption) (v v' : String) (gs hs : List Group) :
    given t (gs ++ .value opt v :: hs) = given t (gs ++ .value opt v' :: hs) := by
  unfold given
  rw [List.any_append, List.any_append]
  rfl

theorem modes_value_other (opt : ValueOption) (apart : opt ≠ .remove) (v v' : String)
    (gs hs : List Group) :
    modes (gs ++ .value opt v :: hs) = modes (gs ++ .value opt v' :: hs) := by
  rw [modes_append, modes_append, modes_cons, modes_cons]
  cases opt with
  | remove => exact absurd rfl apart
  | _ => rfl

/-- Another path for `-d` is another mode of the same kind. -/
theorem modes_value (opt : ValueOption) (v v' : String) (gs hs : List Group) :
    (modes (gs ++ .value opt v :: hs)).map Mode.wiped =
      (modes (gs ++ .value opt v' :: hs)).map Mode.wiped := by
  simp only [modes_append, modes_cons, List.map_append]
  cases opt <;> rfl

theorem wiped_head {xs ys : List Mode} (same : xs.map Mode.wiped = ys.map Mode.wiped)
    (other : Mode) : (xs.head?.getD other).wiped = (ys.head?.getD other).wiped := by
  cases xs with
  | nil =>
    obtain rfl : ys = [] := by simpa using same.symm
    rfl
  | cons x xs =>
    cases ys with
    | nil => simp at same
    | cons y ys => exact (List.cons.inj same).1

theorem summary_value (opt : ValueOption) (v v' : String) (gs hs : List Group)
    (dashed : Option (List String)) (keys : Except AnvilError (List String)) :
    (summary (gs ++ .value opt v :: hs) dashed keys).without opt =
      (summary (gs ++ .value opt v' :: hs) dashed keys).without opt := by
  have others (other : ValueOption) (apart : opt ≠ other) :=
    last_value_other apart v v' gs hs
  have named := operands_value opt v v' gs hs
  have toggles (t : Toggle) := given_value t opt v v' gs hs
  have wiped := wiped_head (modes_value opt v v' gs hs)
  cases opt with
  | remove =>
    simp (disch := decide) only [summary, Parsed.without, hashOf, lifetimeOf, paths, others, named,
      toggles, wiped]
  | lifetime =>
    have same := modes_value_other .lifetime (by decide) v v' gs hs
    simp (disch := decide) only [summary, Parsed.without, hashOf, paths, others, named, toggles,
      same]
  | hash =>
    have same := modes_value_other .hash (by decide) v v' gs hs
    simp (disch := decide) only [summary, Parsed.without, lifetimeOf, paths, others, named, toggles,
      same]

theorem acceptable_value (v v' : String) {gs hs : List Group} {dashed : Option (List String)}
    {keys : Except AnvilError (List String)}
    (accepted : Acceptable (gs ++ .value .remove v :: hs) dashed keys) :
    Acceptable (gs ++ .value .remove v' :: hs) dashed keys := by
  have count := congrArg List.length (modes_value .remove v v' gs hs)
  rw [List.length_map, List.length_map] at count
  have others {opt : ValueOption} {u : String} (apart : opt ≠ .remove)
      (member : Group.value opt u ∈ gs ++ .value .remove v' :: hs) :
      Group.value opt u ∈ gs ++ .value .remove v :: hs := by
    simpa [apart] using member
  exact {
    one_mode := count ▸ accepted.one_mode
    lifetime := fun u member => accepted.lifetime u (others (by decide) member)
    hash := fun u member => accepted.hash u (others (by decide) member)
    biometric := by
      rw [given_value _ .remove v' v, given_value _ .remove v' v]
      exact accepted.biometric
    defaults := by
      intro free empty
      simp [modes_append, modes_cons, Group.mode] at free }

/-- The arguments in which an option has this value. -/
def withValue (gs : List Group) (opt : ValueOption) (rest : List String) (v : String) :
    List String :=
  grammar.spell gs ++ opt.flag :: v :: rest

theorem withValue_argv (gs hs : List Group) (dashed : Option (List String)) (opt : ValueOption)
    (v : String) :
    withValue gs opt (argv hs dashed) v = argv (gs ++ .value opt v :: hs) dashed := by
  unfold withValue argv
  rw [grammar.spell_append, grammar.spell_cons, List.append_assoc, List.append_assoc]
  rfl

/-- Another value of an option changes its field at most. -/
theorem fromArgs_withValue (gs : List Group) (opt : ValueOption) (rest : List String)
    {v v' : String} {p : Parsed} {w w₁ : World Ag Va Te}
    (accepted : fromArgs (withValue gs opt rest v) w = (.ok p, w₁)) :
    (opt = .remove → ∃ p', fromArgs (withValue gs opt rest v') w = (.ok p', w)) ∧
      ∀ p' w', fromArgs (withValue gs opt rest v') w = (.ok p', w') →
        p'.without opt = p.without opt := by
  have split : fromArgs (grammar.spell (gs ++ [.value opt v]) ++ rest) w = (.ok p, w₁) := by
    rw [grammar.spell_append, List.append_assoc]
    exact accepted
  obtain ⟨hs, dashed, rfl⟩ := rest_of_accepted split
  rw [withValue_argv] at accepted
  rw [withValue_argv]
  obtain ⟨accepts, result⟩ := fromArgs_argv_iff (gs ++ .value opt v :: hs) dashed w
  obtain ⟨accepts', result'⟩ := fromArgs_argv_iff (gs ++ .value opt v' :: hs) dashed w
  obtain ⟨rfl, rfl⟩ := result p w₁ accepted
  constructor
  · rintro rfl
    exact accepts'.mpr (acceptable_value v v' (accepts.mp ⟨_, accepted⟩))
  · intro p' w' accepted'
    rw [(result' p' w' accepted').1]
    exact summary_value opt v' v gs hs dashed (defaults w₁)

theorem asksHelp_withValue (gs : List Group) (opt : ValueOption) (rest : List String)
    (v : String) : asksHelp (withValue gs opt rest v) =
      (asksHelp (grammar.spell gs ++ rest) || isHelp v) := by
  have flag : isHelp opt.flag = false := by cases opt <;> rfl
  unfold asksHelp withValue
  rw [List.any_append, List.any_append, List.any_cons, List.any_cons, flag, Bool.false_or,
    Bool.or_assoc, Bool.or_comm (isHelp v)]

/-- The second argument vector parses like the first one, up to the field of an option. An
option whose values are checked may be refused. -/
def SameButField (opt : ValueOption) (args args' : List String) (w : World Ag Va Te) : Prop :=
  ∀ p w₁, fromArgs args w = (.ok p, w₁) →
    (opt = .remove → ∃ p', fromArgs args' w = (.ok p', w)) ∧
      ∀ p' w', fromArgs args' w = (.ok p', w') → p'.without opt = p.without opt

/-- Help is printed only for a token that is read as an option. -/
def HelpRead (args : List String) : Prop :=
  asksHelp args = true → (optionTokens args).any isHelp = true

section
variable {Priv Pub : Type} [PublicKeyText Pub] [PrivateKey Priv Pub] [AgentControl Ag Priv Pub]
  [Terminal Te] [BiometricVault Va]

theorem run_help (args : List String) (w : World Ag Va Te) :
    run args w =
      if asksHelp args then (.ok 0, { w with stdout := w.stdout ++ [.line usage] })
      else (fromArgs args >>= fun parsed =>
        Fallible.query (fun w => Agent.fromEnv (w.env.vars "SSH_AUTH_SOCK") w.agent) >>= fun _ =>
          perform parsed) w := by
  unfold run asksHelp
  cases args.any isHelp <;> rfl

end

theorem helpRead_iff (args : List String) : HelpRead args ↔
    (hiddenTokens args).any isHelp = false ∨ (optionTokens args).any isHelp = true := by
  have split := Argv.any_optionTokens takesValue endsOptions isHelp args
  unfold HelpRead asksHelp optionTokens hiddenTokens
  rw [split]
  cases (Argv.optionTokens takesValue endsOptions args).any isHelp <;> simp

/-- Arguments that the parser accepts hold a help token only where it is hidden. -/
theorem helpRead_accepted_iff {args : List String} {p : Parsed} {w w' : World Ag Va Te}
    (accepted : fromArgs args w = (.ok p, w')) :
    HelpRead args ↔ (hiddenTokens args).any isHelp = false := by
  rw [helpRead_iff, no_help_read accepted]
  simp

theorem switches_iff (gs : List Group) (opt : ValueOption) (rest : List String) (v v' : String) :
    (asksHelp (withValue gs opt rest v') = true → asksHelp (withValue gs opt rest v) = true) ↔
      isHelp v' = false ∨ asksHelp (withValue gs opt rest v) = true := by
  rw [asksHelp_withValue, asksHelp_withValue]
  cases asksHelp (grammar.spell gs ++ rest) <;> cases isHelp v' <;> simp

end Gitway.AddShim

namespace Gitway

open Lib

/-! ### Help where an option is read -/

section
variable {Priv Pub Sig Signers Ag Va Te : Type} [PublicKey Pub] [PrivateKey Priv Pub]
  [Agent Ag Priv Pub] [Terminal Te] [KeygenShim.SshSig Priv Sig] [Keygen.Writer Priv]
  [KeygenShim.KeySize Pub] [KeygenShim.Principals Priv Signers]
variable {Priv' Pub' Ag' : Type} [AddShim.PublicKeyText Pub'] [PrivateKey Priv' Pub']
  [AddShim.AgentControl Ag' Priv' Pub'] [BiometricVault Va]

/-- In each shim a run that asks for help is one that prints the usage. It does so only for a
token that is read as an option exactly when no value of an option and nothing behind `--`
is a help token, or one is read as an option, too. Another value of an option changes
the field of this option at most, and it never leads to the help exactly when it is no help
token or help was asked for before. -/
theorem help_opaque_iff :
    ((∀ args (w : World Ag Va Te), KeygenShim.run args w =
        if KeygenShim.asksHelp args then
          (.ok 0, { w with stdout := w.stdout ++ [.line KeygenShim.usage] })
        else (Fallible.query (fun _ => KeygenShim.fromArgs args) >>= KeygenShim.perform) w) ∧
      (∀ args, KeygenShim.HelpRead args ↔
        (KeygenShim.hiddenTokens args).any KeygenShim.isHelp = false ∨
          (KeygenShim.optionTokens args).any KeygenShim.isHelp = true) ∧
      ∀ gs opt rest v v',
        KeygenShim.SameButField opt (KeygenShim.withValue gs opt rest v)
          (KeygenShim.withValue gs opt rest v') ∧
        ((KeygenShim.asksHelp (KeygenShim.withValue gs opt rest v') = true →
            KeygenShim.asksHelp (KeygenShim.withValue gs opt rest v) = true) ↔
          KeygenShim.isHelp v' = false ∨
            KeygenShim.asksHelp (KeygenShim.withValue gs opt rest v) = true)) ∧
    (∀ args (w : World Ag' Va Te), AddShim.run args w =
        if AddShim.asksHelp args then
          (.ok 0, { w with stdout := w.stdout ++ [.line AddShim.usage] })
        else (AddShim.fromArgs args >>= fun parsed =>
          Fallible.query (fun w => Agent.fromEnv (w.env.vars "SSH_AUTH_SOCK") w.agent) >>= fun _ =>
            AddShim.perform parsed) w) ∧
      (∀ args, AddShim.HelpRead args ↔
        (AddShim.hiddenTokens args).any AddShim.isHelp = false ∨
          (AddShim.optionTokens args).any AddShim.isHelp = true) ∧
      ∀ gs opt rest v v' (w : World Ag' Va Te),
        AddShim.SameButField opt (AddShim.withValue gs opt rest v)
          (AddShim.withValue gs opt rest v') w ∧
        ((AddShim.asksHelp (AddShim.withValue gs opt rest v') = true →
            AddShim.asksHelp (AddShim.withValue gs opt rest v) = true) ↔
          AddShim.isHelp v' = false ∨
            AddShim.asksHelp (AddShim.withValue gs opt rest v) = true) := by
  refine ⟨⟨KeygenShim.run_help, KeygenShim.helpRead_iff, ?_⟩, AddShim.run_help,
    AddShim.helpRead_iff, ?_⟩
  · intro gs opt rest v v'
    exact ⟨fun p accepted => KeygenShim.fromArgs_withValue gs opt rest accepted,
      KeygenShim.switches_iff gs opt rest v v'⟩
  · intro gs opt rest v v' w
    exact ⟨fun p w₁ accepted => AddShim.fromArgs_withValue gs opt rest accepted,
      AddShim.switches_iff gs opt rest v v'⟩

end

/-! ### On a reference environment -/

open Reference

private def withoutFiles : RefWorld :=
  world [("SSH_AUTH_SOCK", "/run/agent")] [] ⟨false, []⟩ ⟨[]⟩ ⟨[]⟩

/-- `gitway-keygen -f id -N -?` sets a passphrase, and `gitway-add -d -h` removes the key of the
file `-h`. Both print the usage instead. -/
theorem value_shows_help :
    KeygenShim.fromArgs ["-f", "id", "-N", "-?"] =
        .ok { KeygenShim.start.p with file := some "id", newPassphrase := some "-?" } ∧
      KeygenShim.asksHelp ["-f", "id", "-N", "-?"] = true ∧
      KeygenShim.asksHelp ["-f", "id", "-N", "pw"] = false ∧
      ¬ KeygenShim.HelpRead ["-f", "id", "-N", "-?"] ∧
      (AddShim.fromArgs ["-d", "-h"] withoutFiles).1 =
        .ok ⟨.removeOne "-h", .sha256, none, false, false, false⟩ ∧
      AddShim.run ["-d", "-h"] withoutFiles =
        (.ok 0, { withoutFiles with stdout := [.line AddShim.usage] }) ∧
      ¬ AddShim.HelpRead ["-d", "-h"] :=
  ⟨rfl, by decide, by decide, fun read => absurd (read (by decide)) (by decide), rfl, rfl,
    fun read => absurd (read (by decide)) (by decide)⟩

end Gitway
