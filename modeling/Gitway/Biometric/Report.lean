import Gitway.Biometric.Cmd

/-!
# `gitway biometric list` and `gitway biometric status`

What is enrolled, and what the backend of this build is worth. The status of a backend that
cannot be listed is still a status.
-/
namespace Gitway.Biometric

open Lib

def Tier.asStr : Tier → String
  | .hardwareBound => "hardware-bound"
  | .dpapiConsent => "dpapi-consent"
  | .advisory => "advisory"
  | .unsupported => "unsupported"

variable {Priv Pub Ag Va Te : Type} [BiometricBackend Va]

def enrolledJson (key : EnrolledKey) : Json :=
  .obj [("fingerprint", .str key.fingerprint), ("comment", .ofOption .str key.comment)]

def enrolledLine (key : EnrolledKey) : String :=
  match key.comment with
  | some comment => s!"{key.fingerprint} ({comment})"
  | none => key.fingerprint

/-- Report what is enrolled. -/
def emitEnrolled (enrolled : List EnrolledKey) (mode : OutputMode) : Program Ag Va Te Unit := do
  match mode with
  | .json =>
    let env ← Program.environment
    Program.emitJson (.obj [
      ("metadata", metadataBlock env "gitway biometric list"),
      ("data", .obj [
        ("count", .num enrolled.length), ("enrolled", .arr (enrolled.map enrolledJson))])])
  | .human =>
    if enrolled.isEmpty then
      Program.eprintln "gitway: no keys are enrolled for biometric unlock"
    else
      enrolled.forM fun key => Program.println (enrolledLine key)

def runList (mode : OutputMode) : Program Ag Va Te Nat := do
  match ← Program.onVault BiometricBackend.list with
  | .error error => emitError error mode "gitway biometric list"
  | .ok enrolled =>
    emitEnrolled enrolled mode
    return EXIT_OK

/-- How many keys are enrolled, where that can be found out. -/
def countEnrolled (available : Bool) : Program Ag Va Te (Option Nat) := do
  if available then
    let listed ← Program.onVault BiometricBackend.list
    return listed.toOption.map List.length
  else
    return none

def runStatus (mode : OutputMode) : Program Ag Va Te Nat := do
  let available ← Fallible.query fun w => .ok (BiometricBackend.isAvailable w.vault)
  let tier ← Fallible.query fun w => .ok (BiometricBackend.bindingTier w.vault)
  let enrolled ← countEnrolled available
  match mode with
  | .json =>
    let env ← Program.environment
    Program.emitJson (.obj [
      ("metadata", metadataBlock env "gitway biometric status"),
      ("data", .obj [
        ("available", .bool available),
        ("tier", .str tier.asStr),
        ("description", .str tier.description),
        ("enrolled_count", .ofOption (fun n : Nat => .num n) enrolled)])])
  | .human =>
    let word := if available then "yes" else "no"
    Program.println s!"available: {word}"
    Program.println s!"tier:      {tier.asStr}"
    Program.println s!"guarantee: {tier.description}"
    enrolled.forM fun count => Program.println s!"enrolled:  {count}"
  return EXIT_OK

inductive BiometricSubcommand where
  | enroll (args : BiometricEnrollArgs)
  | forget (args : BiometricForgetArgs)
  | list
  | status

variable (Priv) [PublicKey Pub] [PrivateKey Priv Pub] [Terminal Te] in
/-- Dispatches one `gitway biometric` invocation. -/
def run (sub : BiometricSubcommand) (mode : OutputMode) : Program Ag Va Te Nat :=
  match sub with
  | .enroll args => runEnroll Priv args mode
  | .forget args => runForget Priv args mode
  | .list => runList mode
  | .status => runStatus mode

end Gitway.Biometric
