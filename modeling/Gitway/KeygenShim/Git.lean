import Gitway.KeygenShim.Grammar

/-!
# The invocations that git generates

The four shapes in which git calls the program configured as `gpg.ssh.program`, and
which of them the argument parser takes.
-/
namespace Gitway.KeygenShim

open Lib

/-- A file name that git passes: it does not start with a dash. -/
abbrev FileName : Type := { s : String // Text.startsWith s "-" = false }

/-- An `-O` option, in either spelling. -/
inductive GitOption where
  | packed (text : String) (some_text : text ≠ "")
  | separated (text : String)

def GitOption.group : GitOption → Group
  | .packed text some_text => .packed text some_text
  | .separated text => .separated text

def GitOption.argv (options : List GitOption) : List String :=
  options.flatMap fun o => o.group.tokens

inductive GitCall where
  /-- `literal`: the signing key was given literally, and git asks for the agent. -/
  | sign (key : FileName) (literal : Bool) (message : FileName)
  | findPrincipals (allowed signature : FileName) (options : List GitOption)
  | verify (allowed : FileName) (principal : String) (signature : FileName)
      (options : List GitOption) (revocation : Option FileName)
  | checkNovalidate (signature : FileName) (options : List GitOption)

def GitCall.argv : GitCall → List String
  | .sign key literal message =>
    ["-Y", "sign", "-n", "git", "-f", key.1] ++ (if literal then ["-U"] else []) ++ [message.1]
  | .findPrincipals allowed signature options =>
    ["-Y", "find-principals", "-f", allowed.1, "-s", signature.1] ++ GitOption.argv options
  | .verify allowed principal signature options revocation =>
    ["-Y", "verify", "-n", "git", "-f", allowed.1, "-I", principal, "-s", signature.1] ++
      GitOption.argv options ++
      match revocation with
      | some file => ["-r", file.1]
      | none => []
  | .checkNovalidate signature options =>
    ["-Y", "check-novalidate", "-n", "git", "-s", signature.1] ++ GitOption.argv options

/-- The mode and the fields that the call asks for. -/
def GitCall.expected : GitCall → Parsed
  | .sign key _ message =>
    { start.p with
      mode := .sshSigSign, nameSpace := some "git", file := some key.1
      messageFile := some message.1 }
  | .findPrincipals allowed signature _ =>
    { start.p with
      mode := .sshSigFindPrincipals, file := some allowed.1, signatureFile := some signature.1 }
  | .verify allowed principal signature _ _ =>
    { start.p with
      mode := .sshSigVerify, nameSpace := some "git", file := some allowed.1
      signerIdentity := some principal, signatureFile := some signature.1 }
  | .checkNovalidate signature _ =>
    { start.p with
      mode := .sshSigCheckNoValidate, nameSpace := some "git"
      signatureFile := some signature.1 }

/-- The call has neither a literal key nor a revocation file. -/
def GitCall.Plain : GitCall → Prop
  | .sign _ literal _ => literal = false
  | .verify _ _ _ _ revocation => revocation = none
  | .findPrincipals .. | .checkNovalidate .. => True

/-- The groups of a call, up to the flag that the parser does not know. -/
def GitCall.groups : GitCall → List Group
  | .sign key literal message =>
    [.value .sshsigOp "sign", .value .nameSpace "git", .value .file key.1] ++
      if literal then [] else [.positional message.1 message.2]
  | .findPrincipals allowed signature options =>
    [.value .sshsigOp "find-principals", .value .file allowed.1,
      .value .signatureFile signature.1] ++ options.map GitOption.group
  | .verify allowed principal signature options _ =>
    [.value .sshsigOp "verify", .value .nameSpace "git", .value .file allowed.1,
      .value .signerIdentity principal, .value .signatureFile signature.1] ++
      options.map GitOption.group
  | .checkNovalidate signature options =>
    [.value .sshsigOp "check-novalidate", .value .nameSpace "git",
      .value .signatureFile signature.1] ++ options.map GitOption.group

theorem spell_options (options : List GitOption) :
    grammar.spell (options.map GitOption.group) = GitOption.argv options := by
  simp [GitOption.argv, Argv.Grammar.spell, List.flatMap_map, grammar]

/-- The ignored options say nothing. -/
theorem last_options (opt : ValueOption) (gs : List Group) (options : List GitOption) :
    last opt (gs ++ options.map GitOption.group) = last opt gs := by
  -- No `-O` group carries the value of an option.
  have silent : last opt (options.map GitOption.group) = none := by
    unfold last Argv.lastOf
    rw [List.getLast?_eq_none_iff, List.filterMap_eq_nil_iff]
    intro g member
    obtain ⟨o, _, rfl⟩ := List.mem_map.mp member
    cases o <;> rfl
  unfold last at silent ⊢
  rw [Argv.lastOf_append, silent, Option.none_or]

theorem operands_options (gs : List Group) (options : List GitOption) :
    operands (gs ++ options.map GitOption.group) = operands gs := by
  have silent : operands (options.map GitOption.group) = [] := by
    unfold operands
    rw [List.filterMap_eq_nil_iff]
    intro g member
    obtain ⟨o, _, rfl⟩ := List.mem_map.mp member
    cases o <;> rfl
  unfold operands at silent ⊢
  rw [List.filterMap_append, silent, List.append_nil]

theorem summary_groups {call : GitCall} (plain : call.Plain) :
    summary call.groups = call.expected := by
  cases call with
  | sign key literal message =>
    obtain rfl : literal = false := plain
    rfl
  | findPrincipals allowed signature options =>
    simp only [summary, collected, GitCall.groups, last_options, operands_options]
    rfl
  | verify allowed principal signature options revocation =>
    simp only [summary, collected, GitCall.groups, last_options, operands_options]
    rfl
  | checkNovalidate signature options =>
    simp only [summary, collected, GitCall.groups, last_options, operands_options]
    rfl

theorem option_not_value (options : List GitOption) (opt : ValueOption) (v : String) :
    .value opt v ∉ options.map GitOption.group := by
  intro member
  obtain ⟨o, _, same⟩ := List.mem_map.mp member
  cases o <;> simp [GitOption.group] at same

theorem acceptable_groups (call : GitCall) : Acceptable call.groups := by
  -- No call of git names a mode twice or gives an option a value that is checked.
  cases call with
  | sign key literal message =>
    cases literal with
    | true =>
      refine ⟨by simp [GitCall.groups], by simp [GitCall.groups], fun op named => Or.inl ?_⟩
      exact (Option.some.inj named).symm
    | false =>
      refine ⟨by simp [GitCall.groups], by simp [GitCall.groups], fun op named => Or.inl ?_⟩
      exact (Option.some.inj named).symm
  | findPrincipals allowed signature options =>
    refine ⟨by simp [GitCall.groups, option_not_value], by simp [GitCall.groups, option_not_value],
      fun op named => ?_⟩
    rw [GitCall.groups, last_options] at named
    obtain rfl : "find-principals" = op := Option.some.inj named
    simp
  | verify allowed principal signature options revocation =>
    refine ⟨by simp [GitCall.groups, option_not_value], by simp [GitCall.groups, option_not_value],
      fun op named => ?_⟩
    rw [GitCall.groups, last_options] at named
    obtain rfl : "verify" = op := Option.some.inj named
    simp
  | checkNovalidate signature options =>
    refine ⟨by simp [GitCall.groups, option_not_value], by simp [GitCall.groups, option_not_value],
      fun op named => ?_⟩
    rw [GitCall.groups, last_options] at named
    obtain rfl : "check-novalidate" = op := Option.some.inj named
    simp

/-- A call is the spelling of its groups, followed by the unknown flag if it has one. -/
theorem argv_cases (call : GitCall) :
    (call.Plain ∧ call.argv = grammar.spell call.groups) ∨
      (¬ call.Plain ∧ ∃ flag rest, (flag = "-U" ∨ flag = "-r") ∧
        call.argv = grammar.spell call.groups ++ flag :: rest) := by
  cases call with
  | sign key literal message =>
    cases literal with
    | true => exact Or.inr ⟨by simp [GitCall.Plain], "-U", [message.1], Or.inl rfl, rfl⟩
    | false => exact Or.inl ⟨rfl, rfl⟩
  | findPrincipals allowed signature options =>
    refine Or.inl ⟨trivial, ?_⟩
    rw [GitCall.groups, Argv.Grammar.spell_append, spell_options]
    rfl
  | verify allowed principal signature options revocation =>
    -- What comes before `-r` is spelled by the groups in any case.
    have front : grammar.spell (GitCall.groups
        (.verify allowed principal signature options revocation)) =
          ["-Y", "verify", "-n", "git", "-f", allowed.1, "-I", principal, "-s", signature.1] ++
            GitOption.argv options := by
      rw [GitCall.groups, Argv.Grammar.spell_append, spell_options]
      rfl
    cases revocation with
    | none => exact Or.inl ⟨rfl, by rw [front]; simp [GitCall.argv]⟩
    | some file =>
      exact Or.inr ⟨by simp [GitCall.Plain], "-r", [file.1], Or.inr rfl, by rw [front]; rfl⟩
  | checkNovalidate signature options =>
    refine Or.inl ⟨trivial, ?_⟩
    rw [GitCall.groups, Argv.Grammar.spell_append, spell_options]
    rfl

/-- The parser takes a call of git, with the mode and the fields it asks for,
exactly when it has no `-U` and no `-r`. -/
theorem git_call_accepted_iff (call : GitCall) :
    fromArgs call.argv = .ok call.expected ↔ call.Plain := by
  rcases argv_cases call with ⟨plain, spelled⟩ | ⟨special, flag, rest, unknown, cut⟩
  · obtain ⟨accepted, result⟩ := fromArgs_spell_iff call.groups
    obtain ⟨p, parsed⟩ := accepted.mpr (acceptable_groups call)
    rw [spelled, parsed, result p parsed, summary_groups plain]
    exact iff_of_true rfl plain
  -- The unknown flag opens no group, so the loop fails there.
  · have stuck : grammar.Stuck (flag :: rest) := by
      rcases unknown with rfl | rfl <;> rfl
    have other : flag ≠ "--" := by
      rcases unknown with rfl | rfl <;> decide
    obtain ⟨e, failed⟩ := fromArgs_stuck call.groups stuck other
    rw [cut, failed]
    simp [special]

/-- Signing with a literal public key as `user.signingKey`, and verifying with
`gpg.ssh.revocationFile` set. -/
theorem literal_key_and_revocation_rejected :
    fromArgs (GitCall.argv (.sign ⟨"/tmp/.git_signing_key", rfl⟩ true ⟨"/tmp/.git_buffer", rfl⟩)) =
        .error (.invalidConfig "unsupported flag: -U") ∧
      fromArgs (GitCall.argv (.verify ⟨"allowed_signers", rfl⟩ "alice" ⟨"/tmp/.git_vtag", rfl⟩ []
        (some ⟨"revoked_keys", rfl⟩))) =
        .error (.invalidConfig "unsupported flag: -r") :=
  ⟨rfl, rfl⟩

end Gitway.KeygenShim
