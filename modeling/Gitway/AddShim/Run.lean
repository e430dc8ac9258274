import Gitway.AddShim.Parsed

/-!
# The operations of `gitway-add`

`run` parses the arguments, connects to the agent and hands over to one operation.
-/
namespace Gitway.AddShim

open Lib Biometric

/-- The rest of the agent client. -/
class AgentControl (Ag : Type) (Priv Pub : outParam Type) extends Agent Ag Priv Pub where
  remove : Pub → Ag → Except AnvilError Unit × Ag
  removeAll : Ag → Except AnvilError Unit × Ag
  lock : String → Ag → Except AnvilError Unit × Ag
  unlock : String → Ag → Except AnvilError Unit × Ag

/-- The printed forms of a public key. -/
class PublicKeyText (Pub : Type) extends PublicKey Pub where
  toOpenssh : Pub → Except String String
  algorithm : Pub → String

def usage : String :=
  "gitway-add — load SSH keys into the gitway agent (an ssh-add-compatible shim)

Usage: gitway-add [OPTIONS] [FILE...]

With no FILE, adds the default keys (~/.ssh/id_ed25519, then id_ecdsa, id_rsa).
A key that is already loaded in the agent is skipped (no passphrase re-prompt).

Options:
  -l                  List loaded key fingerprints (default when no FILE given)
  -L                  List loaded public keys in full
  -d <file>           Remove the identity for <file>
  -D                  Remove all identities from the agent
  -x                  Lock the agent with a passphrase
  -X                  Unlock the agent
  -t <seconds>        Lifetime for keys added in this invocation (ssh-add -t)
  -E <sha256|sha512>  Fingerprint hash to display for -l
  -c                  Require confirmation on each signing request (ssh-add -c)
  --biometric         Enroll the key for biometric unlock while adding it
  --no-biometric      Force a typed passphrase even if the key is enrolled
  -h, --help          Show this help and exit

Keys load into the agent on $SSH_AUTH_SOCK.  Unsupported ssh-add flags are
accepted and ignored for compatibility."

variable {Priv Pub Ag Va Te : Type} [PublicKeyText Pub] [PrivateKey Priv Pub]
  [AgentControl Ag Priv Pub]

def listLine (full : Bool) (hash : HashAlg) (id : Identity Pub) : Program Ag Va Te Unit :=
  if full then
    match PublicKeyText.toOpenssh id.publicKey with
    | .error e => Fallible.fail (.signing s!"serialize failed: {e}")
    | .ok line => Program.println line
  else
    Program.println (s!"{PublicKey.keygenFingerprint hash id.publicKey} {id.comment} " ++
      s!"({Text.toAsciiUppercase (PublicKeyText.algorithm id.publicKey)})")

def list (full : Bool) (hash : HashAlg) : Program Ag Va Te Nat := do
  let ids ← Fallible.query fun w => Agent.list w.agent
  if ids.isEmpty then
    Program.println "The agent has no identities."
    return 1
  ids.forM (listLine full hash)
  return 0

variable (Priv) in
/-- The key that a file names, as a public key or by its private half. -/
def publicKeyIn (raw : String) : Except String Pub :=
  match PublicKey.fromOpenssh (Text.trim raw) with
  | .ok key => .ok key
  | .error _ => (PrivateKey.fromOpenssh raw : Except String Priv).map PrivateKey.publicKey

def removeOne (path : String) : Program Ag Va Te Nat := do
  let raw ← Program.readToString path
  match publicKeyIn Priv raw with
  | .error e => Fallible.fail (.invalidConfig s!"cannot parse {path}: {e}")
  | .ok publicKey =>
    Program.onAgent (AgentControl.remove publicKey)
    Program.println s!"Identity removed: {PublicKey.keygenFingerprint .sha256 publicKey}"
    return 0

def removeAll : Program Ag Va Te Nat := do
  Program.onAgent AgentControl.removeAll
  Program.println "All identities removed."
  return 0

variable [Terminal Te]

def promptHidden (prompt : String) : Program Ag Va Te String := do
  let typed ← Program.promptPassword prompt
  Fallible.query fun _ => Program.io typed

def lockUnlock (lock : Bool) : Program Ag Va Te Nat := do
  if lock then
    let first ← promptHidden "Enter lock passphrase: "
    let confirm ← promptHidden "Confirm lock passphrase: "
    if first ≠ confirm then
      Fallible.fail (.invalidConfig "passphrases did not match")
    else
      Program.onAgent (AgentControl.lock first)
      Program.println "Agent locked."
      return 0
  else
    let pass ← promptHidden "Enter unlock passphrase: "
    Program.onAgent (AgentControl.unlock pass)
    Program.println "Agent unlocked."
    return 0

variable [BiometricVault Va]

/-- What `run` does with the parsed arguments. -/
def perform (parsed : Parsed) : Program Ag Va Te Nat :=
  match parsed.mode with
  | .list full => list full parsed.hash
  | .removeOne path => removeOne path
  | .removeAll => removeAll
  | .lock => lockUnlock true
  | .unlock => lockUnlock false
  | .add paths =>
    Agent.shimAdd paths parsed.lifetime parsed.confirm
      (.fromFlags parsed.biometric parsed.noBiometric)

def isHelp (a : String) : Bool := a == "-h" || a == "--help" || a == "-?"

def run (args : List String) : Program Ag Va Te Nat := do
  if args.any isHelp then
    Program.println usage
    return 0
  let parsed ← fromArgs args
  Fallible.query fun w => Agent.fromEnv (w.env.vars "SSH_AUTH_SOCK") w.agent
  perform parsed

end Gitway.AddShim
