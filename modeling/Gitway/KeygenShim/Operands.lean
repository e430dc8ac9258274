import Gitway.AddShim.Grammar
import Gitway.KeygenShim.Agent
import Gitway.KeygenShim.Grammar

/-!
# The operands of `gitway-keygen`

The loop has room for one message file, and for one more operand where no `-f` is given.
What stands behind `--` it does not look at. `gitway-add` collects all of them.
-/
namespace Gitway.KeygenShim

open Lib
open AddShim (afterDashes)

/-- The arguments that the groups and the tokens behind `--` spell. -/
def argv (gs : List Group) (dashed : Option (List String)) : List String :=
  grammar.spell gs ++ afterDashes dashed

theorem stuck_afterDashes (dashed : Option (List String)) :
    grammar.Stuck (afterDashes dashed) := by
  cases dashed with
  | none => trivial
  | some post => rfl

/-- The loop ends at `--`, and the parser returns as if nothing stood there. -/
theorem fromArgs_argv (gs : List Group) (dashed : Option (List String)) :
    fromArgs (argv gs dashed) = fromArgs (grammar.spell gs) := by
  have stops (st : Scan) : Argv.run step st (afterDashes dashed) = .ok st := by
    cases dashed with
    | none => rfl
    | some post =>
      rw [afterDashes, Argv.run_cons step_consumes]
      rfl
  have ends (st : Scan) : Argv.run step st [] = .ok st := rfl
  have whole := grammar.run_spell step_consumes step_implements gs [] start
  rw [List.append_nil] at whole
  unfold fromArgs argv
  rw [whole, grammar.run_spell step_consumes step_implements]
  simp only [stops, ends]

/-- Behind the groups of an accepted argument vector stand more groups, and more tokens
behind `--` if that is there. -/
theorem rest_of_accepted {gs : List Group} {rest : List String} {p : Parsed}
    (accepted : fromArgs (grammar.spell gs ++ rest) = .ok p) :
    ∃ hs dashed, rest = argv hs dashed := by
  obtain ⟨hs, last, split, stuck⟩ := grammar.exists_split rest
  cases last with
  | nil => exact ⟨hs, none, split⟩
  | cons a more =>
    by_cases dashes : a = "--"
    · subst dashes
      exact ⟨hs, some more, split⟩
    · obtain ⟨e, failed⟩ := fromArgs_stuck (gs ++ hs) stuck dashes
      rw [split, ← List.append_assoc, ← grammar.spell_append, failed] at accepted
      simp at accepted

theorem argv_of_accepted {args : List String} {p : Parsed} (accepted : fromArgs args = .ok p) :
    ∃ gs dashed, args = argv gs dashed := by
  have whole : fromArgs (grammar.spell [] ++ args) = .ok p := accepted
  exact rest_of_accepted whole

/-! ### The slots for operands -/

/-- The variables of the loop after these groups, with these operands. -/
def collectedWith (gs : List Group) (named : List String) : Scan :=
  { collected gs with
    p.messageFile := named[0]?
    p.file := (last .file gs).or named[1]? }

theorem addPositional_collectedWith (gs : List Group) (named : List String) (a : String) :
    addPositional (collectedWith gs named) a = collectedWith gs (named ++ [a]) := by
  cases named with
  | nil => simp [collectedWith, addPositional]
  | cons first more =>
    cases more with
    | nil => cases file : last .file gs <;> simp [collectedWith, addPositional, file]
    | cons second others => simp [collectedWith, addPositional]

/-- Each operand goes where the ones before it have left room. -/
theorem foldl_addPositional (gs : List Group) (named more : List String) :
    more.foldl addPositional (collectedWith gs named) = collectedWith gs (named ++ more) := by
  induction more generalizing named with
  | nil => simp
  | cons a more ih =>
    rw [List.foldl_cons, addPositional_collectedWith, ih, List.append_assoc]
    rfl

/-- The parser, with more tokens treated as the loop treats positional ones at its end. -/
def withOperands (args more : List String) : Except AnvilError Parsed := do
  let st ← Argv.run step start args
  finish (more.foldl addPositional st)

theorem finish_collectedWith (gs : List Group) (named : List String) :
    finish (collectedWith gs named) = (finish (collected gs)).map fun p =>
      { p with messageFile := named[0]?, file := (last .file gs).or named[1]? } := by
  have chosen : (collectedWith gs named).sshsigOp = last .sshsigOp gs := rfl
  have chosen' : (collected gs).sshsigOp = last .sshsigOp gs := rfl
  unfold finish
  rw [chosen, chosen']
  cases last .sshsigOp gs with
  | none => rfl
  | some op =>
    cases operation : parseOperation op with
    | none => simp [operation, Except.map]
    | some mode => simp [operation, Except.map, collectedWith]

theorem withOperands_spell (gs : List Group) (more : List String) :
    withOperands (grammar.spell gs) more = (fromArgs (grammar.spell gs)).map fun p =>
      { p with
        messageFile := (operands gs ++ more)[0]?
        file := (last .file gs).or (operands gs ++ more)[1]? } := by
  have whole := grammar.run_spell step_consumes step_implements gs [] start
  rw [List.append_nil] at whole
  rw [fromArgs_spell, withOperands, whole]
  cases ran : gs.foldlM act start with
  | error e => rfl
  | ok st =>
    obtain rfl := foldlM_act gs st ran
    have slots : collected gs = collectedWith gs (operands gs) := rfl
    show finish (more.foldl addPositional (collected gs)) = (finish (collected gs)).map _
    rw [slots, foldl_addPositional, finish_collectedWith, ← slots]

/-- With nothing more than the groups say the two slots are as the parser fills them. -/
theorem slots_kept_iff (gs : List Group) (more : List String) :
    ((operands gs ++ more)[0]? = (operands gs)[0]? ∧
      (last .file gs).or (operands gs ++ more)[1]? = (last .file gs).or (operands gs)[1]?) ↔
      more = [] ∨ operands gs ≠ [] ∧ (last .file gs ≠ none ∨ 2 ≤ (operands gs).length) := by
  cases more with
  | nil => simp
  | cons m more =>
    cases named : operands gs with
    | nil => simp
    | cons first others =>
      cases others with
      | nil => cases file : last .file gs <;> simp
      | cons second others => simp

/-- `gitway-keygen` takes what stands behind `--` for operands exactly when the groups
before it are rejected, there is nothing behind it, or there is room for nothing more.
`gitway-add` always does. -/
theorem dashes_give_operands_iff {Ag Va Te : Type} (pre : List Group) (post : List String) :
    (fromArgs (grammar.spell pre ++ "--" :: post) = withOperands (grammar.spell pre) post ↔
      ¬ Acceptable pre ∨ post = [] ∨
        operands pre ≠ [] ∧ (last .file pre ≠ none ∨ 2 ≤ (operands pre).length)) ∧
    ∀ (pre : List AddShim.Group) (post : List String) (w : World Ag Va Te),
      AddShim.fromArgs (AddShim.grammar.spell pre ++ "--" :: post) w =
        AddShim.withPaths (AddShim.grammar.spell pre) post w := by
  refine ⟨?_, AddShim.fromArgs_dashes⟩
  have stops : fromArgs (grammar.spell pre ++ "--" :: post) = fromArgs (grammar.spell pre) :=
    fromArgs_argv pre (some post)
  have read := fromArgs_spell_iff pre
  rw [stops, withOperands_spell, ← slots_kept_iff, read.1.symm]
  cases parsed : fromArgs (grammar.spell pre) with
  | error e => simp [Except.map]
  | ok p =>
    obtain rfl := read.2 p parsed
    simp only [Except.map, Except.ok.injEq, summary, collected, Parsed.mk.injEq, true_and,
      exists_eq', not_true_eq_false, false_or]
    exact ⟨fun same => ⟨same.2.symm, same.1.symm⟩, fun same => ⟨same.2.symm, same.1.symm⟩⟩

/-! ### What becomes of the operands -/

theorem slots_of_accepted {gs : List Group} {dashed : Option (List String)} {p : Parsed}
    (accepted : fromArgs (argv gs dashed) = .ok p) :
    p.messageFile = (operands gs)[0]? ∧ p.file = (last .file gs).or (operands gs)[1]? := by
  rw [fromArgs_argv] at accepted
  obtain rfl := (fromArgs_spell_iff gs).2 p accepted
  exact ⟨rfl, rfl⟩

/-- How many operands there is room for. -/
def room (gs : List Group) : Nat := if (last .file gs).isSome then 1 else 2

/-- The operands that there is room for, and the value of `-f`. -/
def kept (gs : List Group) : List String := (operands gs).take (room gs) ++ (last .file gs).toList

/-- The operands that there is no room for. -/
def beyond (gs : List Group) (dashed : Option (List String)) : List String :=
  (operands gs).drop (room gs) ++ dashed.getD []

theorem mem_kept_iff (gs : List Group) (t : String) : t ∈ kept gs ↔
    some t = (operands gs)[0]? ∨ some t = (last .file gs).or (operands gs)[1]? := by
  unfold kept room
  cases file : last .file gs with
  | some f => cases operands gs <;> simp [eq_comm]
  | none =>
    cases operands gs with
    | nil => simp
    | cons first more => cases more <;> simp [eq_comm]

variable {Ag Va Te : Type}

/-- A run that returns writes to no other file than this. -/
def OnlyWrites {α : Type} (target : Option String) (x : Program Ag Va Te α) : Prop :=
  ∀ w a w', x w = (.ok a, w') → ∀ path, w'.fs.read path ≠ w.fs.read path → target = some path

theorem OnlyWrites.bind {α β : Type} {target : Option String} {x : Program Ag Va Te α}
    {f : α → Program Ag Va Te β} (first : Fallible.Keeps World.fs x)
    (rest : ∀ a, OnlyWrites target (f a)) : OnlyWrites target (x >>= f) := by
  intro w b w' returned path changed
  obtain ⟨a, w₁, ran, last⟩ := Fallible.bind_ok_iff.mp returned
  rw [← first.eq ran] at changed
  exact rest a w₁ b w' last path changed

theorem onlyWrites_writeSigOutput (armored : ByteArray) (sigOut : Option String) :
    OnlyWrites sigOut (writeSigOutput armored sigOut : Program Ag Va Te Nat) := by
  intro w code w' returned path changed
  cases sigOut with
  | none =>
    cases returned
    exact absurd rfl changed
  | some target =>
    obtain ⟨⟨⟩, w₁, written, last⟩ := Fallible.bind_ok_iff.mp returned
    cases last
    unfold Program.writeFile at written
    split at written
    · simp at written
    · cases written
      by_contra other
      rw [Option.some.injEq] at other
      simp [FileSystem.write, Ne.symm other] at changed

section
variable {Priv Pub Sig : Type} [PublicKey Pub] [PrivateKey Priv Pub] [Agent Ag Priv Pub]
  [Terminal Te] [SshSig Priv Sig]

omit [PublicKey Pub] [Agent Ag Priv Pub] in
theorem keeps_loadAndDecrypt (path : String) (oldPass : Option String) :
    Fallible.Keeps World.fs (loadAndDecrypt path oldPass : Program Ag Va Te Priv) := by
  refine .bind (.query _) fun pem => .bind (.query _) fun key => ?_
  split
  · exact .pure _
  · refine .bind ?_ fun pass => .query _
    unfold keyPassphrase
    cases oldPass with
    | some s => exact .pure _
    | none =>
      refine .bind (fun _ => rfl) fun typed => ?_
      cases typed with
      | ok s => exact .pure _
      | error e => exact .fail _

/-- A signature for a message file is all that `-Y sign` writes. -/
theorem onlyWrites_runSign (p : Parsed) :
    OnlyWrites (p.messageFile.map (· ++ ".sig")) (runSign p : Program Ag Va Te Nat) := by
  intro w code w' returned path changed
  unfold runSign at returned
  cases named : p.file with
  | none => simp [named] at returned
  | some file =>
    cases given : p.nameSpace with
    | none => simp [named, given] at returned
    | some ns =>
      simp only [named, given] at returned
      obtain ⟨⟨data, sigOut⟩, w₁, read, rest⟩ := Fallible.bind_ok_iff.mp returned
      have frame := (keeps_readMessage p).eq read
      simp only [World.setting, Prod.mk.injEq] at frame
      rw [← frame.2.1] at changed
      rw [← readMessage_target read]
      -- The agent writes no file, so both ways to sign end in the same output step.
      have asked : Fallible.Keeps World.fs
          (trySignViaAgent file data ns : Program Ag Va Te (Option String)) := by
        refine .bind (.query _) fun key => ?_
        cases key with
        | none => exact .pure _
        | some pk => exact .bind (fun _ => rfl) fun armored => .pure _
      refine OnlyWrites.bind asked (fun tried => ?_) w₁ code w' rest path changed
      cases tried with
      | some armored => exact onlyWrites_writeSigOutput _ _
      | none =>
        refine .bind (.query _) fun keyFile => .bind (keeps_loadAndDecrypt keyFile _) fun key => ?_
        exact .bind (.query _) fun sig => .bind (.query _) fun armored =>
          onlyWrites_writeSigOutput _ _

/-- Every operand of an accepted argument vector is the message file or the file of the
result exactly when each one that there is no room for repeats one of those. `-Y sign`
makes a signature for the first operand only. -/
theorem operands_kept_iff {args : List String} {p : Parsed} (accepted : fromArgs args = .ok p) :
    (∃ gs dashed, args = argv gs dashed) ∧ ∀ gs dashed, args = argv gs dashed →
      ((∀ t ∈ operands gs ++ dashed.getD [], some t = p.messageFile ∨ some t = p.file) ↔
        ∀ t ∈ beyond gs dashed, t ∈ kept gs) ∧
      ∀ (w w' : World Ag Va Te) (code : Nat), runSign p w = (.ok code, w') →
        ∀ t, w'.fs.read (t ++ ".sig") ≠ w.fs.read (t ++ ".sig") → (operands gs)[0]? = some t := by
  refine ⟨argv_of_accepted accepted, ?_⟩
  rintro gs dashed rfl
  obtain ⟨message, file⟩ := slots_of_accepted accepted
  constructor
  · rw [message, file]
    simp only [← mem_kept_iff]
    constructor
    · intro all t member
      refine all t ?_
      rcases List.mem_append.mp member with late | behind
      · exact List.mem_append_left _ (List.mem_of_mem_drop late)
      · exact List.mem_append_right _ behind
    -- An operand has a place of its own, or there was no room for it.
    · intro repeated t member
      rw [← List.take_append_drop (room gs) (operands gs), List.append_assoc] at member
      rcases List.mem_append.mp member with early | late
      · exact List.mem_append_left _ early
      · exact repeated t late
  · intro w w' code returned t changed
    have target := onlyWrites_runSign p w code w' returned _ changed
    rw [message, Option.map_eq_some_iff] at target
    obtain ⟨m, first, same⟩ := target
    rw [first, (String.append_left_inj ".sig").mp same]

end

/-! ### On the reference keys -/

open Reference

private def signing (named : Option String) : Parsed :=
  { start.p with
    mode := .sshSigSign
    file := some "KEY"
    nameSpace := some "git"
    messageFile := named }

/-- A key that is not encrypted, three texts and no agent. -/
private def texts : RefWorld :=
  world [] [("KEY", "openssh-key-v1 AAAA none"), ("A", "a"), ("B", "b"), ("MSG", "m")] ⟨false, []⟩
    ⟨[]⟩ ⟨[]⟩

private theorem texts_key : texts.fs.readToString "KEY" = .ok "openssh-key-v1 AAAA none" :=
  readToString_textFiles _ _ _ rfl

private theorem texts_key_parsed :
    (PrivateKey.fromOpenssh "openssh-key-v1 AAAA none" : Except String RefPrivate) =
      .ok ⟨⟨"AAAA"⟩, none⟩ := by decide

private theorem texts_resolve : resolveSigningKeyPath RefPrivate texts.fs "KEY" = .ok "KEY" := by
  have isPrivate : parsesAsPrivate RefPrivate "openssh-key-v1 AAAA none" = true := by decide
  simp [resolveSigningKeyPath, texts_key, isPrivate]

/-- The key file signs what was read. -/
private theorem texts_sign {named sigOut : Option String} {data : ByteArray} {w : RefWorld}
    (files : w.fs = texts.fs)
    (read : readMessage (signing named) texts = (.ok (data, sigOut), w)) :
    runSign (signing named) texts = writeSigOutput "SSHSIG AAAA".toUTF8 sigOut w := by
  have unset : texts.env.vars "SSH_AUTH_SOCK" = none := rfl
  have unasked : agentKey texts.env texts.fs "KEY" texts.agent = none := by
    simp [agentKey, unset]
  have file : (signing named).file = some "KEY" := rfl
  have given : (signing named).nameSpace = some "git" := rfl
  rw [run_signed_by_file file given unasked]
  unfold signedByFile
  rw [Fallible.bind_of_ok read]
  have opened : loadAndDecrypt "KEY" (signing named).oldPassphrase w =
      (.ok (⟨⟨"AAAA"⟩, none⟩ : RefPrivate), w) := by
    simp [loadAndDecrypt, Fallible.bind_run, files, texts_key, texts_key_parsed,
      PrivateKey.isEncrypted]
  simp [Fallible.bind_run, files, texts_resolve, opened, SshSig.sign, SshSig.toPem]

/-- `-Y sign -n git -f KEY -- MSG`: standard input is signed, and no file is written. -/
theorem dashes_hide_message :
    fromArgs ["-Y", "sign", "-n", "git", "-f", "KEY", "--", "MSG"] = .ok (signing none) ∧
      withOperands ["-Y", "sign", "-n", "git", "-f", "KEY"] ["MSG"] =
        .ok (signing (some "MSG")) ∧
      signing none ≠ signing (some "MSG") ∧
      runSign (signing none) texts = (.ok 0, { texts with
        stdin := .ok ByteArray.empty
        stdout := [.bytes "SSHSIG AAAA".toUTF8] }) := by
  have read : readMessage (signing none) texts =
    (.ok (ByteArray.empty, none), { texts with stdin := .ok ByteArray.empty }) := rfl
  exact ⟨rfl, rfl, by decide, (texts_sign rfl read).trans rfl⟩

theorem operands_kept_one_file :
    fromArgs ["-Y", "sign", "-n", "git", "-f", "KEY", "A"] = .ok (signing (some "A")) ∧
      ∀ t ∈ ["A"], some t = (signing (some "A")).messageFile ∨
        some t = (signing (some "A")).file := by
  have accepted : fromArgs ["-Y", "sign", "-n", "git", "-f", "KEY", "A"] =
    .ok (signing (some "A")) := rfl
  have sound := (@operands_kept_iff RefAgent RefVault RefTerminal _ _ _ _ _ _ _ _ _ _ accepted).2
    [.value .sshsigOp "sign", .value .nameSpace "git", .value .file "KEY",
      .positional "A" (by decide)] none rfl
  exact ⟨accepted, sound.1.mpr (by decide)⟩

/-- `-Y sign -n git -f KEY A B` exits with 0, and only `A` is signed. -/
theorem second_file_unsigned :
    fromArgs ["-Y", "sign", "-n", "git", "-f", "KEY", "A", "B"] = .ok (signing (some "A")) ∧
      ¬ (some "B" = (signing (some "A")).messageFile ∨ some "B" = (signing (some "A")).file) ∧
      (runSign (signing (some "A")) texts).1 = .ok 0 ∧
      (runSign (signing (some "A")) texts).2.fs.read "A.sig" = .ok "SSHSIG AAAA".toUTF8 ∧
      (runSign (signing (some "A")) texts).2.fs.exists_ "B.sig" = false := by
  have read : readMessage (signing (some "A")) texts =
    (.ok ("a".toUTF8, some "A.sig"), texts) := rfl
  have ran := texts_sign rfl read
  rw [ran]
  exact ⟨rfl, by decide, rfl, rfl, rfl⟩

end Gitway.KeygenShim
