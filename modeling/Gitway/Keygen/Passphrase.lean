import Gitway.Prompt
import Gitway.Reference

/-!
# Passphrases of new and re-encrypted keys

`gitway keygen generate` and `gitway keygen change-passphrase`, with the prompt for
a new passphrase that they share. Away from a terminal that prompt is the prompt
for an existing passphrase, which asks the keystore first; the last theorem says
what this makes of a new passphrase.
-/
namespace Gitway.Keygen

open Lib

/-- `anvil_ssh::keygen::KeyType`. -/
inductive KeyType where
  | ed25519
  | ecdsaP256
  | ecdsaP384
  | ecdsaP521
  | rsa
  deriving DecidableEq, Repr

/-- The functions of `anvil_ssh::keygen` that write key files. The file system
stands for the source of randomness as well. -/
class Writer (Priv : Type) where
  generate : KeyType → Option Nat → String → FileSystem → Except AnvilError Priv
  writeKeypair : Priv → String → Option String → FileSystem → Except AnvilError Unit × FileSystem
  changePassphrase : String → Option String → Option String → FileSystem →
    Except AnvilError Unit × FileSystem
  cliName : KeyType → String

inductive KeyAlg where
  | ed25519
  | ecdsa
  | rsa
  deriving DecidableEq, Repr

structure GenerateArgs where
  kind : KeyAlg
  bits : Option Nat
  file : String
  passphrase : Option String
  noPassphrase : Bool
  comment : Option String

structure ChangePassphraseArgs where
  file : String
  oldPassphrase : Option String
  newPassphrase : Option String
  noPassphrase : Bool

def DEFAULT_ECDSA_CURVE_BITS : Nat := 256

def resolveKind (alg : KeyAlg) (bits : Option Nat) : Except AnvilError (KeyType × Option Nat) :=
  match alg with
  | .ed25519 => .ok (.ed25519, none)
  | .rsa => .ok (.rsa, bits)
  | .ecdsa =>
    match bits.getD DEFAULT_ECDSA_CURVE_BITS with
    | 256 => .ok (.ecdsaP256, none)
    | 384 => .ok (.ecdsaP384, none)
    | 521 => .ok (.ecdsaP521, none)
    | other =>
      .error (.invalidConfig s!"ECDSA curve size must be 256, 384, or 521 — got {other}")

def hostname (env : Environment) : String :=
  ((env.var "HOSTNAME").or (env.var "COMPUTERNAME")).getD "localhost"

def defaultComment (env : Environment) : String :=
  let user := ((env.var "USER").or (env.var "USERNAME")).getD "user"
  s!"{user}@{hostname env}"

def pubPathFor (path : String) : String := path ++ ".pub"

variable {Priv Pub Ag Va Te : Type} [PublicKey Pub] [PrivateKey Priv Pub] [BiometricVault Va]
  [Terminal Te]

/-- The part of `prompt_new_passphrase` that is played at a terminal. -/
def typeNewPassphrase (path : String) : Program Ag Va Te String := do
  let typed ← Program.promptPassword s!"Enter new passphrase for {path} (empty for none): "
  let first ← Fallible.query fun _ => Program.io typed
  if first.isEmpty then
    return ""
  else
    let retyped ← Program.promptPassword "Enter same passphrase again: "
    let confirm ← Fallible.query fun _ => Program.io retyped
    if first ≠ confirm then
      Fallible.fail (.invalidConfig "passphrases did not match — aborting")
    else
      return first

section
variable (Priv)

def promptNewPassphrase (path : String) : Program Ag Va Te String := do
  let env ← Program.environment
  -- Away from a terminal this is the prompt for an existing passphrase.
  if !env.stderrIsTerminal then
    Prompt.promptPassphrase Priv path
  else
    typeNewPassphrase path

def resolveNewPassphrase (file : String) (explicit : Option String) (noPassphrase : Bool) :
    Program Ag Va Te (Option String) := do
  if noPassphrase then
    return none
  else
    match explicit with
    | some s => return if s.isEmpty then none else some s
    | none =>
      let pass ← promptNewPassphrase Priv file
      return if pass.isEmpty then none else some pass

/-- The passphrase that unlocks the key, when it is encrypted. -/
def oldPassphrase (args : ChangePassphraseArgs) (loaded : Priv) :
    Program Ag Va Te (Option String) := do
  if PrivateKey.isEncrypted loaded then
    match args.oldPassphrase with
    | some s => return some s
    | none =>
      let pass ← Prompt.promptPassphrase Priv args.file
      return some pass
  else
    return none

/-- The passphrase under which the key is written back. -/
def newPassphrase (args : ChangePassphraseArgs) : Program Ag Va Te (Option String) := do
  if args.noPassphrase then
    return none
  else
    match args.newPassphrase with
    | some s => return some s
    | none =>
      let pass ← promptNewPassphrase Priv args.file
      return some pass

end

/-! ### The commands -/

section
variable (Priv) [Writer Priv]

def runGenerate (args : GenerateArgs) (mode : OutputMode) : Program Ag Va Te Nat := do
  let (kind, bits) ← Fallible.query fun _ => resolveKind args.kind args.bits
  let env ← Program.environment
  let comment := args.comment.getD (defaultComment env)
  let passphrase ← resolveNewPassphrase Priv args.file args.passphrase args.noPassphrase
  let key : Priv ← Fallible.query fun w => Writer.generate kind bits comment w.fs
  Program.onFiles (Writer.writeKeypair key args.file passphrase)
  let fp := PublicKey.keygenFingerprint .sha256 (PrivateKey.publicKey key)
  let pubPath := pubPathFor args.file
  match mode with
  | .json =>
    Program.emitJson (.obj [
      ("metadata", metadataBlock env "gitway keygen generate"),
      ("data", .obj [
        ("private_key_path", .str args.file),
        ("public_key_path", .str pubPath),
        ("algorithm", .str (Writer.cliName Priv kind)),
        ("encrypted", .bool passphrase.isSome),
        ("fingerprint", .str fp),
        ("comment", .str comment)])])
  | .human =>
    Program.eprintln s!"gitway: generated {Writer.cliName Priv kind}"
    Program.eprintln s!"gitway: wrote {args.file}"
    Program.eprintln s!"gitway: wrote {pubPath}"
    Program.eprintln s!"gitway: fingerprint {fp}"
  return 0

def runChangePassphrase (args : ChangePassphraseArgs) (mode : OutputMode) :
    Program Ag Va Te Nat := do
  let pem ← Program.readToString args.file
  let loaded : Priv ← Fallible.query fun _ => (PrivateKey.fromOpenssh pem).mapError fun e =>
    .invalidConfig s!"cannot parse private key: {e}"
  let old ← oldPassphrase Priv args loaded
  let new ← newPassphrase Priv args
  Program.onFiles (Writer.changePassphrase Priv args.file old new)
  match mode with
  | .json =>
    let env ← Program.environment
    Program.emitJson (.obj [
      ("metadata", metadataBlock env "gitway keygen change-passphrase"),
      ("data", .obj [("path", .str args.file), ("encrypted", .bool new.isSome)])])
  | .human => Program.eprintln s!"gitway: updated passphrase for {args.file}"
  return 0

end

/-! ### Where a new passphrase comes from -/

omit [BiometricVault Va] in
theorem alike_typeNewPassphrase (path : String) :
    Fallible.Alike Program.SameButVault (typeNewPassphrase path : Program Ag Va Te String)
      (typeNewPassphrase path) := by
  -- Both answers come from the terminal, which the two runs share.
  apply Fallible.Alike.bind (Program.alike_onTerminal _)
  intro typed
  apply Fallible.Alike.bind (Fallible.Alike.query fun _ _ _ => rfl)
  intro first
  split
  · exact Fallible.Alike.pure _
  · apply Fallible.Alike.bind (Program.alike_onTerminal _)
    intro retyped
    apply Fallible.Alike.bind (Fallible.Alike.query fun _ _ _ => rfl)
    intro confirm
    split
    · exact Fallible.Alike.fail _
    · exact Fallible.Alike.pure _

/-- The keystore has no say in a prompt for a new passphrase: it is typed at a
terminal, or both states release the same for the key that is in the file. -/
def NotAsked (Priv : Type) {Pub : Type} [PublicKey Pub] [PrivateKey Priv Pub]
    (w : World Ag Va Te) (path : String) (v₁ v₂ : Va) : Prop :=
  w.env.stderrIsTerminal = true ∨
    Prompt.releasedFor Priv w.fs path v₁ = Prompt.releasedFor Priv w.fs path v₂

theorem promptNewPassphrase_same_iff (quiet : ∃ t : Te, Prompt.Silent t) (w : World Ag Va Te)
    (v₁ v₂ : Va) (path : String) :
    (∀ t : Te, (promptNewPassphrase Priv path { w with vault := v₁, terminal := t }).1 =
      (promptNewPassphrase Priv path { w with vault := v₂, terminal := t }).1) ↔
      NotAsked Priv w path v₁ v₂ := by
  unfold NotAsked
  cases attached : w.env.stderrIsTerminal with
  | true =>
    -- At a terminal the keystore is asked in neither state.
    have typed (v : Va) (t : Te) :
        promptNewPassphrase Priv path { w with vault := v, terminal := t } =
          typeNewPassphrase path { w with vault := v, terminal := t } := by
      unfold promptNewPassphrase
      rw [Fallible.bind_of_ok (Program.environment_run _)]
      simp [attached]
    simp only [typed, true_or, iff_true]
    intro t
    have related : Program.SameButVault { w with vault := v₁, terminal := t }
      { w with vault := v₂, terminal := t } := ⟨v₂, w.stderr, rfl⟩
    exact (alike_typeNewPassphrase path _ _ related).1
  | false =>
    -- Elsewhere this is the prompt for an existing passphrase, which asks it first.
    have delegated (v : Va) (t : Te) :
        promptNewPassphrase Priv path { w with vault := v, terminal := t } =
          Prompt.promptPassphrase Priv path { w with vault := v, terminal := t } := by
      unfold promptNewPassphrase
      rw [Fallible.bind_of_ok (Program.environment_run _)]
      simp [attached]
    simp only [delegated, Bool.false_eq_true, false_or]
    exact Prompt.promptPassphrase_same_iff quiet path w v₁ v₂

private theorem none_if_empty_injective (a b : String)
    (same : (if a.isEmpty then none else some a) = if b.isEmpty then none else some b) : a = b := by
  split at same <;> split at same <;> simp_all

/-- A new passphrase is the same under two states of the keystore, whatever is
typed, exactly when it is given or waived on the command line or the keystore has
no say in the prompt. -/
theorem new_passphrase_same_iff (quiet : ∃ t : Te, Prompt.Silent t) (w : World Ag Va Te)
    (v₁ v₂ : Va) :
    (∀ path,
      (∀ t : Te, (promptNewPassphrase Priv path { w with vault := v₁, terminal := t }).1 =
        (promptNewPassphrase Priv path { w with vault := v₂, terminal := t }).1) ↔
        NotAsked Priv w path v₁ v₂) ∧
    (∀ file explicit noPassphrase,
      (∀ t : Te, (resolveNewPassphrase Priv file explicit noPassphrase
          { w with vault := v₁, terminal := t }).1 =
        (resolveNewPassphrase Priv file explicit noPassphrase
          { w with vault := v₂, terminal := t }).1) ↔
        noPassphrase = true ∨ explicit ≠ none ∨ NotAsked Priv w file v₁ v₂) ∧
    ∀ args,
      (∀ t : Te, (newPassphrase Priv args { w with vault := v₁, terminal := t }).1 =
        (newPassphrase Priv args { w with vault := v₂, terminal := t }).1) ↔
        args.noPassphrase = true ∨ args.newPassphrase ≠ none ∨ NotAsked Priv w args.file v₁ v₂ := by
  refine ⟨promptNewPassphrase_same_iff quiet w v₁ v₂, ?_, ?_⟩
  · intro file explicit noPassphrase
    unfold resolveNewPassphrase
    cases noPassphrase with
    | true => simp
    | false =>
      cases explicit with
      | some s => simp
      | none =>
        simp only [Bool.false_eq_true, if_false, ne_eq, not_true_eq_false, false_or]
        rw [← promptNewPassphrase_same_iff quiet]
        -- An empty answer is passed on as none, and only an empty one.
        simp only [Fallible.bind_pure_same_iff none_if_empty_injective]
  · intro args
    unfold newPassphrase
    cases args.noPassphrase with
    | true => simp
    | false =>
      cases args.newPassphrase with
      | some s => simp
      | none =>
        simp only [Bool.false_eq_true, if_false, ne_eq, not_true_eq_false, false_or]
        rw [← promptNewPassphrase_same_iff quiet]
        simp only [Fallible.bind_pure_same_iff (fun a b => Option.some.inj)]

/-! ### On the reference keystore -/

open Reference

theorem refTerminal_silent : ∃ t : RefTerminal, Prompt.Silent t :=
  ⟨⟨[]⟩, fun _ => ⟨_, rfl⟩, fun _ _ => ⟨_, rfl⟩⟩

/-- An encrypted key file, away from any terminal. -/
private def encryptedKey (vault : RefVault) (terminal : RefTerminal) : RefWorld :=
  world [] [("id", "openssh-key-v1 AAAAC3 aes256-ctr old")] ⟨false, []⟩ vault terminal

private def enrolled : RefVault := ⟨[("gitway:ssh:SHA256:AAAAC3", "old")]⟩

private def unenrolled : RefVault := ⟨[]⟩

/-- The same, at a terminal. -/
private def attachedKey (vault : RefVault) (terminal : RefTerminal) : RefWorld :=
  { encryptedKey vault terminal with
    env := { environment [] with stderrIsTerminal := true } }

/-- At a terminal, or with the new passphrase on the command line, an enrolment has no say. -/
theorem new_passphrase_same_attached :
    (∀ t, (promptNewPassphrase RefPrivate "id" (attachedKey enrolled t)).1 =
      (promptNewPassphrase RefPrivate "id" (attachedKey unenrolled t)).1) ∧
    ∀ t, (newPassphrase RefPrivate ⟨"id", none, some "fresh", false⟩ (encryptedKey enrolled t)).1 =
      (newPassphrase RefPrivate ⟨"id", none, some "fresh", false⟩ (encryptedKey unenrolled t)).1 :=
  ⟨((new_passphrase_same_iff refTerminal_silent (attachedKey unenrolled ⟨[]⟩) enrolled
      unenrolled).1 "id").mpr (Or.inl rfl),
    ((new_passphrase_same_iff refTerminal_silent (encryptedKey unenrolled ⟨[]⟩) enrolled
      unenrolled).2.2 ⟨"id", none, some "fresh", false⟩).mpr (Or.inr (Or.inl (by simp)))⟩

private theorem encryptedKey_parsed :
    (PrivateKey.fromOpenssh "openssh-key-v1 AAAAC3 aes256-ctr old" : Except String RefPrivate) =
      .ok ⟨⟨"AAAAC3"⟩, some "old"⟩ := by decide

private theorem encryptedKey_released (vault : RefVault) (terminal : RefTerminal) :
    Prompt.releasedFor RefPrivate (encryptedKey vault terminal).fs "id" vault =
      Biometric.released (⟨⟨"AAAAC3"⟩, some "old"⟩ : RefPrivate) vault := by
  simp [Prompt.releasedFor, keyAt, encryptedKey, world, Except.toOption, encryptedKey_parsed]

private theorem encryptedKey_prompt (vault : RefVault) (terminal : RefTerminal) :
    promptNewPassphrase RefPrivate "id" (encryptedKey vault terminal) =
      Prompt.promptPassphrase RefPrivate "id" (encryptedKey vault terminal) := by
  unfold promptNewPassphrase
  rw [Fallible.bind_of_ok (Program.environment_run _)]
  rfl

private theorem enrolled_prompt (terminal : RefTerminal) :
    (promptNewPassphrase RefPrivate "id" (encryptedKey enrolled terminal)).1 = .ok "old" := by
  rw [encryptedKey_prompt]
  refine Prompt.promptPassphrase_released ?_
  exact (encryptedKey_released enrolled terminal).trans (by decide)

private theorem unenrolled_prompt :
    (promptNewPassphrase RefPrivate "id" (encryptedKey unenrolled ⟨["typed"]⟩)).1 =
      .ok "typed" := by
  rw [encryptedKey_prompt, Prompt.promptPassphrase_asks]
  · rfl
  · exact (encryptedKey_released unenrolled _).trans (by decide)

/-- Away from a terminal the new passphrase of an enrolled key is the one in the
keystore, whatever is typed; with nothing enrolled it is what is typed. -/
theorem new_passphrase_reapplied :
    (∀ terminal, (promptNewPassphrase RefPrivate "id" (encryptedKey enrolled terminal)).1 =
      .ok "old") ∧
      (newPassphrase RefPrivate ⟨"id", none, none, false⟩ (encryptedKey enrolled ⟨["typed"]⟩)).1 =
        .ok (some "old") ∧
      (resolveNewPassphrase RefPrivate "id" none false (encryptedKey enrolled ⟨["typed"]⟩)).1 =
        .ok (some "old") ∧
      (promptNewPassphrase RefPrivate "id" (encryptedKey unenrolled ⟨["typed"]⟩)).1 ≠
        (promptNewPassphrase RefPrivate "id" (encryptedKey enrolled ⟨["typed"]⟩)).1 := by
  refine ⟨enrolled_prompt, ?_, ?_, ?_⟩
  · unfold newPassphrase
    simp only [Bool.false_eq_true, if_false]
    rw [Fallible.bind_of_ok (Fallible.run_eq (enrolled_prompt _))]
    rfl
  · unfold resolveNewPassphrase
    simp only [Bool.false_eq_true, if_false]
    rw [Fallible.bind_of_ok (Fallible.run_eq (enrolled_prompt _))]
    rfl
  · rw [enrolled_prompt, unenrolled_prompt]
    simp

end Gitway.Keygen
