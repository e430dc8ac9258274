import Gitway.Hosts.Revoke
import Gitway.Transport.Session

/-!
# `gitway hosts add` and `gitway hosts list`

A host is added with the key it shows to a connection that is closed again before anyone
is authenticated, and only with the consent of a person or of `--yes`.
-/
namespace Gitway.Hosts

open Lib Transport

def EXIT_USER_DECLINED : Nat := 73
def EXIT_NEEDS_YES : Nat := 78

inductive HashMode where
  | hashed
  | plaintext
  | empty
  deriving DecidableEq, Repr

/-- An entry of a `known_hosts` file. The pattern of a hashed one cannot be told. -/
structure KnownHost where
  hostPattern : String
  fingerprint : String

/-- `KnownHostsFile`, with the fingerprints of its hashed entries. -/
structure KnownHostsFile where
  direct : List KnownHost
  hashed : List String
  certAuthorities : List Config.CertAuthority
  revoked : List Config.RevokedEntry

/-- The functions of `anvil_ssh` on `known_hosts` files. -/
class KnownHosts (Hk : Type) extends HostKeys Hk where
  detectHashMode : String → FileSystem → Except AnvilError HashMode
  appendKnownHost : String → String → String → FileSystem → Except AnvilError Unit × FileSystem
  appendKnownHostHashed :
    String → String → String → FileSystem → Except AnvilError Unit × FileSystem
  parseKnownHosts : String → Except AnvilError KnownHostsFile
  /-- Host, fingerprint and algorithm of the keys that are built in. -/
  allEmbedded : List (String × String × String)

structure HostsAddArgs where
  host : String
  knownHosts : Option String
  hash : Bool
  noHash : Bool
  yes : Bool

structure HostsListArgs where
  knownHosts : Option String

inductive HostsSubcommand where
  | add (args : HostsAddArgs)
  | revoke (args : HostsRevokeArgs)
  | list (args : HostsListArgs)

variable {Ne Ag Va Te : Type}

/-! ### Adding -/

section
variable (an : AnvilSession Ne Ag) (B : Type) [ConfigBuilder B]
  (tempdir : FileSystem → Except String Config.OsPath)

/-- A host whose key is not known yet is not turned away, and what the connection writes down
of it goes to a directory of its own. -/
def probeConfig (host : String) (probeDir : Config.OsPath) : AnvilConfig :=
  let probeKnownHosts := probeDir ++ Utf8.ascii "/probe_known_hosts"
  ConfigBuilder.build (ConfigBuilder.customKnownHosts probeKnownHosts
    (ConfigBuilder.strictHostKeyChecking .no (ConfigBuilder.builder host : B)))

/-- The directory is removed in the end, with all that was written to it. -/
def inTempdir {α : Type} (x : Command Ne Ag Va Te α) : Command Ne Ag Va Te α := fun p =>
  ((x p).1, { (x p).2 with world := { (x p).2.world with fs := p.world.fs } })

/-- The fingerprint that the host shows to a connection. -/
def probe (host : String) : Command Ne Ag Va Te String := do
  let probeDir ← Fallible.query fun p => (tempdir p.world.fs).mapError fun e =>
    .invalidConfig s!"could not create temp dir for probe: {e}"
  inTempdir (an.open_ (probeConfig B host probeDir) .direct)
  let captured ← Fallible.query fun p => .ok (an.verifiedFingerprint p.net)
  match captured with
  | some fingerprint =>
    close an
    return fingerprint
  | none => Fallible.fail (.invalidConfig ("host-key fingerprint was not captured during probe " ++
      "(StrictHostKeyChecking::No path should always set it)"))

end

/-- `Stdin::read_line`. -/
def readLine : Program Ag Va Te (Except IoError String) := fun w =>
  match w.stdin with
  | .error e => (.ok (.error e), w)
  | .ok bytes =>
    -- The line up to the newline and with it.
    let before := bytes.data.toList.takeWhile (· != 10)
    let line := bytes.data.toList.take (before.length + 1)
    let rest := bytes.data.toList.drop line.length
    (.ok (decodeUtf8 ⟨line.toArray⟩), { w with stdin := .ok ⟨rest.toArray⟩ })

/-- `y` or `yes`. No letter outside ASCII has one of these as its lower case. -/
def saysYes (response : String) : Bool :=
  let trimmed := Text.trim response
  Text.eqIgnoreAsciiCase trimmed "y" || Text.eqIgnoreAsciiCase trimmed "yes"

def refusal (host : String) : String :=
  "gitway hosts add: refusing without --yes — interactive confirmation required when stdin is " ++
    "not a TTY (or under --json / AI_AGENT=1).\n\n" ++
    "Tip: re-run with `--yes` to append unconditionally:\n\n" ++
    s!"    gitway hosts add --yes {host}"

/-- The code with which the command ends, unless it may go on. -/
def confirm (args : HostsAddArgs) (mode : OutputMode) (path : String) :
    Program Ag Va Te (Option Nat) := do
  if args.yes then
    return none
  else
    let env ← Program.environment
    if mode = .json ∨ env.stdinIsTerminal = false then
      Program.eprintln (refusal args.host)
      return some EXIT_NEEDS_YES
    else
      Program.eprintln s!"Append this fingerprint to {path}? [y/N] "
      let line ← readLine
      let response ← Fallible.query fun _ => line.mapError fun e =>
        .invalidConfig s!"could not read stdin: {e.message}"
      if saysYes response then
        return none
      else
        Program.eprintln "gitway hosts add: declined; no changes written."
        return some EXIT_USER_DECLINED

section
variable (Hk : Type) [KnownHosts Hk]

def chooseHashed (args : HostsAddArgs) (path : String) : Program Ag Va Te Bool := do
  if args.hash then
    return true
  else if args.noHash then
    return false
  else
    let found ← Fallible.query fun w => KnownHosts.detectHashMode Hk path w.fs
    return decide (found = .hashed)

/-- Append the entry, and report it. -/
def append (args : HostsAddArgs) (mode : OutputMode) (path fingerprint : String) (hashed : Bool) :
    Program Ag Va Te Unit := do
  Program.onFiles (if hashed then KnownHosts.appendKnownHostHashed Hk path args.host fingerprint
    else KnownHosts.appendKnownHost Hk path args.host fingerprint)
  match mode with
  | .json =>
    let env ← Program.environment
    Program.emitJson (.obj [
      ("metadata", metadataBlock env "gitway hosts add"),
      ("data", .obj [
        ("host", .str args.host),
        ("fingerprint", .str fingerprint),
        ("known_hosts_path", .str path),
        ("hashed", .bool hashed)])])
  | .human =>
    let form := if hashed then "hashed" else "plaintext"
    Program.eprintln s!"gitway hosts add: appended {args.host} {fingerprint} to {path} ({form})"

/-- The part of `run_add` after the probe. -/
def addProbed (args : HostsAddArgs) (mode : OutputMode) (path fingerprint : String) :
    Program Ag Va Te Nat := do
  let hashed ← chooseHashed Hk args path
  Program.eprintln s!"gitway hosts add: {args.host} — fingerprint {fingerprint}"
  match ← confirm args mode path with
  | some code => return code
  | none =>
    append Hk args mode path fingerprint hashed
    return 0

def runAdd (an : AnvilSession Ne Ag) (B : Type) [ConfigBuilder B]
    (tempdir : FileSystem → Except String Config.OsPath) (args : HostsAddArgs)
    (mode : OutputMode) : Command Ne Ag Va Te Nat := do
  let path ← Fallible.query fun p => resolvePath Hk p.world.env args.knownHosts
  let fingerprint ← probe an B tempdir args.host
  Command.onWorld (addProbed Hk args mode path fingerprint)

/-! ### Listing -/

def embeddedJson (entry : String × String × String) : Json :=
  .obj [("host", .str entry.1), ("fingerprint", .str entry.2.1), ("algorithm", .str entry.2.2)]

def directJson (hashed : Bool) (entry : KnownHost) : Json :=
  .obj [("host_pattern", .str entry.hostPattern), ("fingerprint", .str entry.fingerprint),
    ("hashed", .bool hashed)]

def authorityJson (ca : Config.CertAuthority) : Json :=
  .obj [("host_pattern", .str ca.hostPattern), ("fingerprint", .str ca.fingerprint),
    ("algorithm", .str ca.algorithm)]

/-- The hashed entries, as they are listed. -/
def KnownHostsFile.unnamed (file : KnownHostsFile) : List KnownHost :=
  file.hashed.map fun fingerprint => ⟨"(hashed)", fingerprint⟩

def trustJson (path : String) (parsed : KnownHostsFile) (env : Environment) : Json :=
  .obj [
    ("metadata", metadataBlock env "gitway hosts list"),
    ("data", .obj [
      ("known_hosts_path", .str path),
      ("embedded", .arr ((KnownHosts.allEmbedded Hk).map embeddedJson)),
      ("direct", .arr (parsed.direct.map (directJson false) ++
        parsed.unnamed.map (directJson true))),
      ("cert_authorities", .arr (parsed.certAuthorities.map authorityJson)),
      ("revoked", .arr (parsed.revoked.map Config.revokedJson)),
      ("hashed_count", .num parsed.hashed.length)])]

/-- `format!` with a width: the text is filled up with blanks on its right. -/
def padded (width : Nat) (s : String) : String :=
  s ++ String.ofList (List.replicate (width - s.toList.length) ' ')

def trustLine (host fingerprint kind : String) : String :=
  s!"{padded 24 host} {padded 60 fingerprint} {kind}"

def trustLines (path : String) (parsed : KnownHostsFile) : List String :=
  ["# Embedded (built into anvil-ssh)"] ++
    (KnownHosts.allEmbedded Hk).map (fun entry => trustLine entry.1 entry.2.1 entry.2.2) ++
    ["", s!"# User pins ({path})"] ++
    (parsed.direct ++ parsed.unnamed).map
      (fun entry => trustLine entry.hostPattern entry.fingerprint "direct") ++
    ["", "# Cert authorities"] ++
    parsed.certAuthorities.map (fun ca => trustLine ca.hostPattern ca.fingerprint "ca") ++
    ["", "# Revoked"] ++
    parsed.revoked.map (fun r => trustLine r.hostPattern r.fingerprint "revoked")

/-- What the file holds. A file that is not there holds nothing. -/
def readKnownHosts (path : String) : Program Ag Va Te KnownHostsFile := do
  if ← Program.pathExists path then
    let content ← Fallible.query fun w => (w.fs.readToString path).mapError fun e =>
      .invalidConfig s!"could not read known_hosts {path}: {e.message}"
    Fallible.query fun _ => KnownHosts.parseKnownHosts Hk content
  else
    return ⟨[], [], [], []⟩

def runList (args : HostsListArgs) (mode : OutputMode) : Program Ag Va Te Nat := do
  let env ← Program.environment
  let path ← Fallible.query fun _ => resolvePath Hk env args.knownHosts
  let parsed ← readKnownHosts Hk path
  match mode with
  | .json => Program.emitJson (trustJson Hk path parsed env)
  | .human => (trustLines Hk path parsed).forM Program.println
  return 0

/-! ### Dispatch -/

/-- Dispatches one `gitway hosts` invocation. -/
def run (an : AnvilSession Ne Ag) (B : Type) [ConfigBuilder B]
    (tempdir : FileSystem → Except String Config.OsPath) (sub : HostsSubcommand)
    (mode : OutputMode) : Command Ne Ag Va Te Nat :=
  match sub with
  | .add args => runAdd Hk an B tempdir args mode
  | .revoke args => Command.onWorld (runRevoke Hk args mode)
  | .list args => Command.onWorld (runList Hk args mode)

end

end Gitway.Hosts
