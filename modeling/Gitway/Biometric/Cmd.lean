import Gitway.Agent.Add
import Gitway.Biometric.Backend

/-!
# `gitway biometric enroll` and `gitway biometric forget`

Each path or fingerprint is handled on its own, and what went wrong with one of them
is an outcome in the report. Only a failed prompt ends the command.
-/
namespace Gitway.Biometric

open Lib

/-! ### Exit codes and outcomes -/

def EXIT_OK : Nat := 0
def EXIT_GENERAL : Nat := 1
def EXIT_USAGE : Nat := 2
def EXIT_NOT_FOUND : Nat := 3
def EXIT_USER_DECLINED : Nat := 73
def EXIT_NEEDS_INTERACTIVE : Nat := 78

structure Outcome where
  target : String
  ok : Bool
  message : String
  fingerprint : Option String
  exitCode : Nat

def Outcome.succeeded (target fingerprint : String) : Outcome :=
  ⟨target, true, "", some fingerprint, EXIT_OK⟩

def Outcome.failed (target message : String) (exitCode : Nat) : Outcome :=
  ⟨target, false, message, none, exitCode⟩

def exitFor : BiometricError → Nat
  | .notEnrolled => EXIT_NOT_FOUND
  | .cancelled => EXIT_USER_DECLINED
  | .unavailable _ => EXIT_NEEDS_INTERACTIVE
  | .backend _ => EXIT_GENERAL

section
variable {Ag Va Te : Type}

def outcomeJson (verb : String) (outcome : Outcome) : Json :=
  .obj [("target", .str outcome.target), ("ok", .bool outcome.ok),
    ("fingerprint", .ofOption .str outcome.fingerprint),
    ("message", .str (if outcome.ok then verb else outcome.message))]

def outcomeLine (verb : String) (outcome : Outcome) : String :=
  if outcome.ok then s!"gitway: {verb} {outcome.target}"
  else s!"gitway: {outcome.target}: {outcome.message}"

def emitResults (mode : OutputMode) (command : String) (results : List Outcome) (verb : String) :
    Program Ag Va Te Unit := do
  match mode with
  | .json =>
    let env ← Program.environment
    Program.emitJson (.obj [
      ("metadata", metadataBlock env command),
      ("data", .obj [("results", .arr (results.map (outcomeJson verb)))])])
  | .human => results.forM fun outcome => Program.eprintln (outcomeLine verb outcome)

theorem emitResults_run (mode : OutputMode) (command : String) (results : List Outcome)
    (verb : String) (w : World Ag Va Te) :
    ∃ stdout stderr, emitResults mode command results verb w =
      (.ok (), { w with stdout := stdout, stderr := stderr }) := by
  cases mode with
  | json => exact ⟨_, _, rfl⟩
  | human => exact ⟨_, _, Program.forM_eprintln_run _ results w⟩

def emitError (error : BiometricError) (mode : OutputMode) (command : String) :
    Program Ag Va Te Nat := do
  let code := exitFor error
  match mode with
  | .json =>
    let env ← Program.environment
    Program.emitJson (.obj [
      ("metadata", metadataBlock env command),
      ("error", .obj [("exit_code", .num code), ("message", .str error.text)])])
  | .human => Program.eprintln s!"gitway: error: {error.text}"
  return code

def emitUnavailable (tier : Tier) (mode : OutputMode) (command : String) : Program Ag Va Te Nat :=
  emitError (.unavailable tier.description) mode command

end

variable {Priv Pub Ag Va Te : Type} [PublicKey Pub] [PrivateKey Priv Pub] [BiometricBackend Va]

/-- The private key of a file, or what is wrong with it. -/
def keyIn (Priv : Type) {Pub : Type} [PrivateKey Priv Pub] (fs : FileSystem) (path : String) :
    Except String Priv :=
  match fs.readToString path with
  | .error e => .error s!"cannot read {path}: {e.message}"
  | .ok pem =>
    match PrivateKey.fromOpenssh pem with
    | .error e => .error s!"cannot parse {path}: {e}"
    | .ok key => .ok key

variable (Priv) in
def readKey (path : String) : Program Ag Va Te (Except String Priv) :=
  Fallible.query fun w => .ok (keyIn Priv w.fs path)

def resolvePaths (files : List String) : Program Ag Va Te (List String) :=
  if files.isEmpty then Agent.defaultKeyPaths else pure files

/-! ### Enrolling -/

structure BiometricEnrollArgs where
  files : List String

variable [Terminal Te]

variable (Priv) in
def enrollOne (path : String) : Program Ag Va Te Outcome := do
  match ← readKey Priv path with
  | .error message => return .failed path message EXIT_USAGE
  | .ok key =>
    if !PrivateKey.isEncrypted key then
      return .failed path
        "key is not passphrase-protected; biometric unlock only applies to encrypted keys"
        EXIT_USAGE
    let id := keyId key
    let fingerprint := fingerprintOf id
    -- A person types the passphrase, and it is tried before it is stored.
    let passphrase ← Prompt.promptPassphraseInteractive path
    match PrivateKey.decrypt key passphrase with
    | .error _ =>
      return .failed path "passphrase did not decrypt the key; nothing was stored" EXIT_USAGE
    | .ok _ =>
      match ← Program.onVault (BiometricVault.store id passphrase) with
      | .ok () => return .succeeded path fingerprint
      | .error error => return .failed path error.text (exitFor error)

/-- Handle one item. A failure replaces the exit code. -/
def collectOne {α : Type} (one : α → Program Ag Va Te Outcome) (acc : List Outcome × Nat)
    (item : α) : Program Ag Va Te (List Outcome × Nat) := do
  let outcome ← one item
  return (acc.1 ++ [outcome], if outcome.ok then acc.2 else outcome.exitCode)

/-- Handle the items in turn. The code of the last failure is the one that counts. -/
def collect {α : Type} (one : α → Program Ag Va Te Outcome) (items : List α) :
    Program Ag Va Te (List Outcome × Nat) :=
  items.foldlM (collectOne one) ([], EXIT_OK)

variable (Priv) in
def runEnroll (args : BiometricEnrollArgs) (mode : OutputMode) : Program Ag Va Te Nat := do
  let available ← Fallible.query fun w => .ok (BiometricBackend.isAvailable w.vault)
  let tier ← Fallible.query fun w => .ok (BiometricBackend.bindingTier w.vault)
  if !available then
    return ← emitUnavailable tier mode "gitway biometric enroll"
  if tier = .advisory ∧ mode = .human then
    Program.eprintln s!"gitway: NOTE: {Tier.advisory.description}"
  let paths ← resolvePaths args.files
  let (results, exit) ← collect (enrollOne Priv) paths
  emitResults mode "gitway biometric enroll" results "enrolled"
  return exit

/-! ### Forgetting -/

structure BiometricForgetArgs where
  all : Bool
  files : List String

omit [Terminal Te] in
/-- Delete one entry. `target` is what the report calls it. -/
def forgetOne (target id fingerprint : String) : Program Ag Va Te Outcome := do
  match ← Program.onVault (BiometricVault.delete id) with
  | .ok () => return .succeeded target fingerprint
  | .error error => return .failed target error.text (exitFor error)

def forgetEnrolled (key : EnrolledKey) : Program Ag Va Te Outcome :=
  forgetOne key.fingerprint (keyIdFromFingerprint key.fingerprint) key.fingerprint

variable (Priv) in
def forgetFile (path : String) : Program Ag Va Te Outcome := do
  match ← readKey Priv path with
  | .error message => return .failed path message EXIT_USAGE
  | .ok key => forgetOne path (keyId key) (fingerprintOf (keyId key))

variable (Priv) in
def runForget (args : BiometricForgetArgs) (mode : OutputMode) : Program Ag Va Te Nat := do
  if args.all then
    match ← Program.onVault BiometricBackend.list with
    | .error error => emitError error mode "gitway biometric forget"
    | .ok enrolled =>
      let (results, exit) ← collect forgetEnrolled enrolled
      emitResults mode "gitway biometric forget" results "forgot"
      return exit
  else if args.files.isEmpty then
    Fallible.fail (.invalidConfig "specify one or more key files to forget, or pass --all")
  else
    let (results, exit) ← collect (forgetFile Priv) args.files
    emitResults mode "gitway biometric forget" results "forgot"
    return exit

end Gitway.Biometric
