import Gitway.Agent.Add
import Gitway.Agent.Start
import Gitway.Agent.Stop
import Gitway.Keygen.Commands

/-!
# The other verbs of `gitway agent`

Listing, removing and locking are calls of an agent that runs. Starting one in the
foreground runs it in this process, as does the detached child of a background start.
-/
namespace Gitway.Agent

open Lib Keygen

/-- The calls of `anvil_ssh::agent::client` that only `gitway agent` makes. -/
class AgentAdmin (Ag : Type) (Pub : outParam Type) where
  remove : Pub → Ag → Except AnvilError Unit × Ag
  removeAll : Ag → Except AnvilError Unit × Ag
  lock : String → Ag → Except AnvilError Unit × Ag
  unlock : String → Ag → Except AnvilError Unit × Ag

/-- What is asked of the operating system, and `anvil_ssh::agent::daemon::run`. -/
structure Processes where
  kill : Int → Except String Unit
  currentExe : Except String String
  spawn : Launch → FileSystem → Except String Nat × FileSystem
  daemon : AgentDaemonConfig → FileSystem → Except AnvilError Unit × FileSystem

structure AgentListArgs where
  full : Bool
  hash : HashKind

structure AgentRemoveArgs where
  file : Option String
  all : Bool

structure AgentLockArgs where
  passphrase : Option String

structure AgentDaemonArgs extends AgentStartArgs where
  foreground : Bool

inductive AgentSubcommand where
  | add (args : AgentAddArgs)
  | list (args : AgentListArgs)
  | remove (args : AgentRemoveArgs)
  | lock (args : AgentLockArgs)
  | unlock (args : AgentLockArgs)
  | start (args : AgentDaemonArgs)
  | stop (args : AgentStopArgs)

variable {Priv Pub Ag Va Te : Type} [PublicKey Pub] [PrivateKey Priv Pub] [Agent Ag Priv Pub]

/-- `Agent::from_env`. -/
def connect : Program Ag Va Te Unit :=
  Fallible.query fun w => Agent.fromEnv (w.env.vars "SSH_AUTH_SOCK") w.agent

/-! ### Listing and removing -/

section
variable [KeyDetails Pub]

def identityJson (hash : HashAlg) (id : Identity Pub) : Json :=
  .obj [("fingerprint", .str (PublicKey.keygenFingerprint hash id.publicKey)),
    ("algorithm", .str (KeyDetails.algorithm id.publicKey)), ("comment", .str id.comment)]

def identityLine (hash : HashAlg) (id : Identity Pub) : String :=
  let fp := PublicKey.keygenFingerprint hash id.publicKey
  s!"{fp} {id.comment} ({Text.toAsciiUppercase (KeyDetails.algorithm id.publicKey)})"

def printPublicKey (id : Identity Pub) : Program Ag Va Te Unit := do
  let line ← Fallible.query fun _ => (KeyDetails.toOpenssh id.publicKey).mapError fun e =>
    .signing s!"failed to serialize public key: {e}"
  Program.println line

def runList (args : AgentListArgs) (mode : OutputMode) : Program Ag Va Te Nat := do
  connect
  let ids ← Fallible.query fun w => Agent.list w.agent
  let hash := hashkindToSshkey args.hash
  match mode with
  | .json =>
    let env ← Program.environment
    Program.emitJson (.obj [
      ("metadata", metadataBlock env "gitway agent list"),
      ("data", .obj [
        ("identity_count", .num ids.length),
        ("identities", .arr (ids.map (identityJson hash)))])])
  | .human =>
    if ids.isEmpty then Program.eprintln "gitway: the agent has no identities"
    else if args.full then ids.forM printPublicKey
    else ids.forM fun id => Program.println (identityLine hash id)
  return 0

end

section
variable [AgentAdmin Ag Pub]

omit [Agent Ag Priv Pub] [AgentAdmin Ag Pub] in
variable (Priv) in
def loadPublicOrDerive (path : String) : Program Ag Va Te Pub :=
  loadPublic Priv (fun e => s!"cannot parse {path}: {e}") path

/-- The keys to remove are named by their fingerprints. -/
def removeKeys (args : AgentRemoveArgs) : Program Ag Va Te (List String) := do
  if args.all then
    let ids ← Fallible.query fun w => Agent.list w.agent
    Program.onAgent AgentAdmin.removeAll
    return ids.map fun id => sha256 id.publicKey
  else
    match args.file with
    | some path =>
      let pk ← loadPublicOrDerive Priv path
      Program.onAgent (AgentAdmin.remove pk)
      return [sha256 pk]
    | none => Fallible.fail (.invalidConfig
        "`gitway agent remove` requires a <FILE> argument or `--all`")

def runRemove (args : AgentRemoveArgs) (mode : OutputMode) : Program Ag Va Te Nat := do
  connect
  let removed ← removeKeys args
  match mode with
  | .json =>
    let env ← Program.environment
    Program.emitJson (.obj [
      ("metadata", metadataBlock env "gitway agent remove"),
      ("data", .obj [("removed", .arr (removed.map .str)), ("all", .bool args.all)])])
  | .human => removed.forM fun fp => Program.eprintln s!"gitway: identity removed: {fp}"
  return 0

/-! ### Locking -/

omit [PublicKey Pub] [PrivateKey Priv Pub] [Agent Ag Priv Pub] [AgentAdmin Ag Pub] in
def promptLockPassphrase [Terminal Te] (lock : Bool) : Program Ag Va Te String := do
  if lock then
    let typed ← Program.promptPassword "Agent lock passphrase: "
    let first ← Fallible.query fun _ => Program.io typed
    let retyped ← Program.promptPassword "Confirm lock passphrase: "
    let confirm ← Fallible.query fun _ => Program.io retyped
    if first ≠ confirm then
      Fallible.fail (.invalidConfig "passphrases did not match — aborting")
    else
      return first
  else
    let typed ← Program.promptPassword "Agent unlock passphrase: "
    Fallible.query fun _ => Program.io typed

omit [PublicKey Pub] [PrivateKey Priv Pub] [Agent Ag Priv Pub] [AgentAdmin Ag Pub] in
/-- The passphrase of the lock: the one given, or else a typed one. -/
def lockPassphrase [Terminal Te] (args : AgentLockArgs) (lock : Bool) : Program Ag Va Te String :=
  match args.passphrase with
  | some s => pure s
  | none => promptLockPassphrase lock

def runLock [Terminal Te] (args : AgentLockArgs) (mode : OutputMode) (lock : Bool) :
    Program Ag Va Te Nat := do
  connect
  let pp ← lockPassphrase args lock
  Program.onAgent (if lock then AgentAdmin.lock pp else AgentAdmin.unlock pp)
  let verb := if lock then "locked" else "unlocked"
  match mode with
  | .json =>
    let env ← Program.environment
    Program.emitJson (.obj [
      ("metadata", metadataBlock env s!"gitway agent {verb}"),
      ("data", .obj [("state", .str verb)])])
  | .human => Program.eprintln s!"gitway: agent {verb}"
  return 0

end

/-! ### Starting -/

section
variable (os : Processes)

def DAEMONIZED_MARKER : String := "GITWAY_AGENT_DAEMONIZED"

def Processes.spawnChild (launch : Launch) : Program Ag Va Te (Except String Nat) :=
  Fallible.within World.fs (fun fs w => { w with fs := fs })
    fun fs => (.ok (os.spawn launch fs).1, (os.spawn launch fs).2)

/-- The child leaves the directory it was started in. -/
def finalizeDetach : Program Ag Va Te Unit :=
  Fallible.update fun w => { w with env := { w.env with currentDir := .ok "/" } }

def runDaemonLoop (args : AgentDaemonArgs) : Program Ag Va Te Nat := do
  let socketPath ← rawSocketPath args.toAgentStartArgs
  let cfg : AgentDaemonConfig := {
    socketPath := socketPath
    pidFile := args.pidFile.or (defaultPidPath socketPath)
    defaultTtl := args.defaultTtl }
  let env ← Program.environment
  -- The parent of a detached child prints these lines itself.
  if (env.vars DAEMONIZED_MARKER).isNone then
    emitEval socketPath env.processId args.sh args.csh
  Program.onFiles (os.daemon cfg)
  return 0

def runStart (args : AgentDaemonArgs) : Program Ag Va Te Nat := do
  let env ← Program.environment
  let isDaemonizedChild := (env.vars DAEMONIZED_MARKER).isSome
  if args.foreground || isDaemonizedChild then
    if isDaemonizedChild then
      finalizeDetach
    runDaemonLoop os args
  else
    runBackgroundStart os.currentExe os.spawnChild args.toAgentStartArgs

end

/-! ### Dispatch -/

variable [AgentAdmin Ag Pub] [KeyDetails Pub] [BiometricVault Va] [Terminal Te]

/-- Dispatches one `gitway agent` invocation. -/
def run (os : Processes) (sub : AgentSubcommand) (mode : OutputMode) : Program Ag Va Te Nat :=
  match sub with
  | .add args => runAdd args mode
  | .list args => runList args mode
  | .remove args => runRemove args mode
  | .lock args => runLock args mode true
  | .unlock args => runLock args mode false
  | .start args => runStart os args
  | .stop args => runStop os.kill args mode

end Gitway.Agent
