import Gitway.Config.Show
import Gitway.Exit
import Gitway.Process
import Gitway.Prompt
import Gitway.Reference
import Gitway.Transport.Request

/-!
# Sessions

`runExec` and `runTest` ask for the passphrase of an encrypted key before they connect,
unless an agent holds a key; then `authenticateWithPrompt` may still have to ask.
-/
namespace Gitway.Transport

open Lib

/-- `IdentityResolution`. -/
inductive IdentityResolution where
  | found (path : String)
  | encrypted (path : String)
  | notFound
  deriving DecidableEq, Repr

/-- An attempt to connect that failed. The time is in milliseconds. -/
structure RetryAttempt where
  attempt : Nat
  reason : String
  elapsed : Nat

/-- What `anvil_ssh` does over a network: sessions, and the search for keys before them. -/
structure AnvilSession (Ne Ag : Type) where
  github : AnvilConfig
  findIdentity : AnvilConfig → FileSystem → Except AnvilError IdentityResolution
  /-- Whether an agent answers that holds a key. -/
  connectAgent : Environment → Ag → Except AnvilError (Option Unit)
  /-- Under `accept-new` the key of an unknown host is written to a `known_hosts` file. -/
  connect : AnvilConfig → Dial Config.JumpHost → FileSystem × Ne →
    Except AnvilError Unit × FileSystem × Ne
  verifiedFingerprint : Ne → Option String
  retryHistory : Ne → List RetryAttempt
  authenticateBest : AnvilConfig → Environment × FileSystem × Ag → Ne → Except AnvilError Unit × Ne
  authenticateWithPassphrase :
    AnvilConfig → String → String → FileSystem → Ne → Except AnvilError Unit × Ne
  authBanner : Ne → Option String
  /-- Standard input goes to the remote command, and what it writes goes to the standard
  streams. -/
  exec : String → Except IoError ByteArray → Ne → Except AnvilError UInt32 × Relayed Ne
  close : Ne → Except AnvilError Unit × Ne
  isKeyEncrypted : AnvilError → Bool
  isNoKeyFound : AnvilError → Bool

/-- The remote command writes this to standard output, on some input over some network. -/
def AnvilSession.Says {Ne Ag : Type} (an : AnvilSession Ne Ag) (command : String)
    (bytes : ByteArray) : Prop :=
  ∃ stdin net, (an.exec command stdin net).2.stdout = bytes

variable {Ne Ag Va Te : Type} (Priv : Type) {Pub : Type} [PublicKey Pub] [PrivateKey Priv Pub]
  [BiometricVault Va] [Terminal Te] (an : AnvilSession Ne Ag)

/-- Await a session constructor. -/
def AnvilSession.open_ (config : AnvilConfig) (dial : Dial Config.JumpHost) :
    Command Ne Ag Va Te Unit := do
  Command.onConnection (an.connect config dial)
  Command.record .connected

def promptPassphrase (path : String) : Command Ne Ag Va Te String := do
  Command.record (.prompted path)
  Command.onWorld (Prompt.promptPassphrase Priv path)

def findIdentity (config : AnvilConfig) : Command Ne Ag Va Te IdentityResolution :=
  Fallible.query fun p => an.findIdentity config p.world.fs

def connectAgent : Command Ne Ag Va Te (Except AnvilError (Option Unit)) :=
  Fallible.query fun p => .ok (an.connectAgent p.world.env p.world.agent)

def maybeCollectPassphrase (config : AnvilConfig) :
    Command Ne Ag Va Te (Option (String × String)) := do
  match ← findIdentity an config with
  | .encrypted path =>
    match ← connectAgent an with
    -- An agent with a key is expected to do without the passphrase.
    | .ok (some _) => return none
    | _ =>
      let passphrase ← promptPassphrase Priv path
      return some (passphrase, path)
  | _ => return none

def authenticateBest (config : AnvilConfig) : Command Ne Ag Va Te Unit := do
  let setting ← Fallible.query fun p => .ok p.world.setting
  Command.onNetwork (an.authenticateBest config setting)

def authenticateWithPassphrase (config : AnvilConfig) (path passphrase : String) :
    Command Ne Ag Va Te Unit := do
  let fs ← Fallible.query fun p => .ok p.world.fs
  Command.onNetwork (an.authenticateWithPassphrase config path passphrase fs)

/-- What a missing key is reported as, when one was in fact offered. -/
def reclassifyNoKeyFound (config : AnvilConfig) (e : AnvilError) :
    Command Ne Ag Va Te AnvilError := do
  let identity ← Fallible.attempt (findIdentity an config)
  let keyOnDisk :=
    match identity with
    | .ok .notFound => false
    | .ok _ => true
    | .error _ => false
  let agentHasKeys :=
    match ← connectAgent an with
    | .ok (some _) => true
    | _ => false
  return if keyOnDisk || agentHasKeys then .authenticationFailed else e

def authenticateWithPrompt (config : AnvilConfig) : Command Ne Ag Va Te Unit := do
  match ← Fallible.attempt (authenticateBest an config) with
  | .ok () => return ()
  | .error e =>
    if an.isKeyEncrypted e then
      match ← findIdentity an config with
      | .encrypted path =>
        let passphrase ← promptPassphrase Priv path
        authenticateWithPassphrase an config path passphrase
      | _ => Fallible.fail .noKeyFound
    else if an.isNoKeyFound e then
      let e' ← reclassifyNoKeyFound an config e
      Fallible.fail e'
    else Fallible.fail e

def close : Command Ne Ag Va Te Unit := Command.onNetwork an.close

def runExec (r : Request) (commandParts : List String) : Command Ne Ag Va Te UInt32 := do
  let command := " ".intercalate commandParts
  let prePassphrase ← maybeCollectPassphrase Priv an r.config
  an.open_ r.config (connectSession r.hostAlias r.proxyCommand r.jumpHosts)
  match prePassphrase with
  | some (passphrase, path) => authenticateWithPassphrase an r.config path passphrase
  | none => authenticateWithPrompt Priv an r.config
  let exitCode ← Command.relay (an.exec command)
  close an
  return exitCode

/-! ### `--test` -/

def retryJson (a : RetryAttempt) : Json :=
  .obj [("attempt", .num a.attempt), ("reason", .str a.reason),
    ("elapsed_ms", .num (min a.elapsed Text.u64Max : Nat))]

/-- What `runTest` found out before it closed the session. -/
structure TestReport where
  fingerprint : Option String
  retryAttempts : List Json
  authResult : Except AnvilError Unit
  banner : Option String

variable (An : Type) [Config.Anvil An]

/-- The envelope of `gitway --test --json`. -/
def emitTestJson (config : AnvilConfig) (found : TestReport) : Program Ag Va Te Unit := do
  let (certAuthoritiesJson, revokedJson) ←
    Config.certAndRevokedJson An config.host config.customKnownHosts "gitway --test"
  let env ← Program.environment
  Program.emitJson (.obj [
    ("metadata", metadataBlock env s!"gitway --test --host {config.host}"),
    ("data", .obj [
      ("host", .str config.host),
      ("port", .num config.port),
      ("host_key_verified", .bool found.fingerprint.isSome),
      ("fingerprint", .ofOption .str found.fingerprint),
      ("authenticated", .bool found.authResult.isOk),
      ("username", .str config.username),
      ("banner", .ofOption .str found.banner),
      ("cert_authorities", .arr certAuthoritiesJson),
      ("revoked", .arr revokedJson),
      ("retry_attempts", .arr found.retryAttempts)])])

/-- The end of `runTest`, where the session is closed. -/
def finishTest (config : AnvilConfig) (mode : OutputMode) (fingerprint : Option String)
    (retryAttempts : List Json) (authResult : Except AnvilError Unit) :
    Command Ne Ag Va Te UInt32 := do
  let banner ← Fallible.query fun p => .ok (an.authBanner p.net)
  close an
  match mode with
  | .human => return 0
  | .json =>
    Command.onWorld (emitTestJson An config ⟨fingerprint, retryAttempts, authResult, banner⟩)
    match authResult with
    | .ok () => return 0
    | .error e => if an.isNoKeyFound e then return 0 else Fallible.fail e

/-- `runTest` from the outcome of the authentication on. -/
def concludeTest (r : Request) (mode : OutputMode) (fingerprint : Option String)
    (retryAttempts : List Json) (authResult : Except AnvilError Unit) :
    Command Ne Ag Va Te UInt32 := do
  let finish := finishTest an An r.config mode fingerprint retryAttempts authResult
  match mode, authResult with
  | .json, _ => finish
  | .human, .ok () =>
    Command.eprintln "gitway: authentication successful ✓"
    let banner ← Fallible.query fun p => .ok (an.authBanner p.net)
    banner.forM Command.eprintln
    finish
  | .human, .error e =>
    if an.isNoKeyFound e then
      Command.eprintln ("gitway: no identity key found — " ++
        "use --identity to specify one, or ensure a key exists in ~/.ssh/")
      finish
    else
      -- Here the outcome of closing is dropped.
      let _ ← Fallible.attempt (close an)
      Fallible.fail e

def runTest (r : Request) (mode : OutputMode) : Command Ne Ag Va Te UInt32 := do
  let prePassphrase ← maybeCollectPassphrase Priv an r.config
  Command.tellHuman mode s!"gitway: connecting to {r.config.host}:{r.config.port}…"
  an.open_ r.config (connectSession r.hostAlias r.proxyCommand r.jumpHosts)
  let fingerprint ← Fallible.query fun p => .ok (an.verifiedFingerprint p.net)
  let retryAttempts ← Fallible.query fun p => .ok ((an.retryHistory p.net).map retryJson)
  Command.tellHuman mode "gitway: host-key verified ✓"
  let authResult ← Fallible.attempt <|
    match prePassphrase with
    | some (passphrase, path) => authenticateWithPassphrase an r.config path passphrase
    | none => authenticateWithPrompt Priv an r.config
  concludeTest an An r mode fingerprint retryAttempts authResult

/-! ### A network -/

open Reference

/-- A network on which every host answers alike. Given are the key that is found, the outcome
of the authentication and that of closing. A command takes all of standard input and ends the
conversation. -/
def answering {Ne : Type} (identity : IdentityResolution) (best closing : Except AnvilError Unit) :
    AnvilSession Ne RefAgent where
  github := ConfigBuilder.builder "github.com"
  findIdentity _ _ := .ok identity
  connectAgent _ agent := .ok (if agent.entries.isEmpty then none else some ())
  connect _ _ s := (.ok (), s)
  verifiedFingerprint _ := some "SHA256:host"
  retryHistory _ := []
  authenticateBest _ _ net := (best, net)
  authenticateWithPassphrase _ _ _ _ net := (.ok (), net)
  authBanner _ := none
  exec _ stdin net := (.ok 0, ⟨net, stdin.map fun _ => ByteArray.empty, ⟨#[48, 48, 48, 48]⟩, []⟩)
  close net := (closing, net)
  isKeyEncrypted e :=
    match e with
    | .other code _ => code == "KEY_ENCRYPTED"
    | _ => false
  isNoKeyFound e := decide (e = .noKeyFound)

/-! ### The status of a remote command -/

/-- A key that is taken, and a command that ends with this status. -/
private def endingWith (status : UInt32) : AnvilSession Unit RefAgent :=
  { answering (.found "/home/user/.ssh/id_ed25519") (.ok ()) (.ok ()) with
    exec := fun _ stdin net => (.ok status, ⟨net, stdin, ByteArray.empty, []⟩) }

private def pushing : Process Unit RefAgent RefVault RefTerminal where
  world := world [] [] ⟨false, []⟩ ⟨[]⟩ ⟨[]⟩
  net := ()
  calls := []
  reports := []

private def pushed : Request where
  lookup := none
  config := ConfigBuilder.builder "github.com"
  hostAlias := "github.com"
  proxyCommand := none
  jumpHosts := []

/-- The remote command fails with status 256, and `gitway` reports success. -/
theorem remote_failure_reported_as_success :
    (runExec RefPrivate (endingWith 256) pushed ["git-receive-pack", "'user/repo.git'"]
        pushing).1 = .ok 256 ∧
      Exit.gitwayMain (fun _ => 1) (.ok 256) = 0 ∧ Exit.keygenMain (fun _ => 1) (.ok 256) = 1 ∧
      Exit.addMain (fun _ => 1) (.ok 256) = 1 :=
  ⟨rfl, by decide, by decide, by decide⟩

end Gitway.Transport
