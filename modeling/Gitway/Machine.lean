import Gitway.Biometric.Verified
import Gitway.Main

/-!
# A machine that runs `gitway`

Reference implementations of what only the whole process needs: the command line, the
`ssh_config` files, the `known_hosts` file and a network on which every host answers.
-/
namespace Gitway.Reference

open Lib

instance : Keygen.KeyDetails RefPublic where
  algorithm _ := "ssh-ed25519"
  comment _ := ""
  toOpenssh key := .ok ("ssh-ed25519 " ++ key.blob)

/-- A signature names its key, and the signers are the keys that are allowed. -/
instance : Keygen.Signatures RefPrivate (List String) where
  extractPublic _ _ fs := (.ok (), fs)
  load path fs :=
    match fs.readToString path with
    | .ok text => .ok (words text)
    | .error e => .error (.io e)
  sign _ key _ _ :=
    if key.pass.isNone then .ok ("SSHSIG " ++ key.key.blob)
    else .error (.signing "private key is encrypted")
  verify _ armored signer _ signers :=
    match words armored with
    | ["SSHSIG", blob] =>
      if blob ∈ signers then .ok ⟨signer, "SHA256:" ++ blob⟩
      else .error (.signing "key is not allowed")
    | _ => .error (.signing "not a signature")

instance : Agent.AgentAdmin RefAgent RefPublic where
  remove key ag :=
    if ag.locked then (.error agentLocked, ag)
    else (.ok (), { ag with entries := ag.entries.filter fun e => e.1 ≠ key })
  removeAll ag :=
    if ag.locked then (.error agentLocked, ag) else (.ok (), { ag with entries := [] })
  lock _ ag := (.ok (), { ag with locked := true })
  unlock _ ag := (.ok (), { ag with locked := false })

/-- A `known_hosts` file without hashed entries. -/
instance : Hosts.KnownHosts Hosts.RefHostKeys where
  detectHashMode path fs := .ok (if (Hosts.fileText fs path).isEmpty then .empty else .plaintext)
  appendKnownHost path host fingerprint fs :=
    (.ok (), fs.write path (Hosts.fileText fs path ++ s!"{host} {fingerprint}\n").toUTF8)
  appendKnownHostHashed path _ fingerprint fs :=
    (.ok (), fs.write path (Hosts.fileText fs path ++ s!"|1| {fingerprint}\n").toUTF8)
  parseKnownHosts _ := .ok ⟨[], [], [], []⟩
  allEmbedded := (Hosts.pins "github.com").map fun fingerprint =>
    ("github.com", fingerprint, "ssh-ed25519")

/-! ### `ssh_config` -/

/-- The `User` of all hosts in the file of the user and in that of the system, where the file
is there. -/
structure RefFiles where
  own : Option String
  system : Option String

def systemPath : Config.OsPath := Utf8.ascii "/etc/ssh/ssh_config"

instance : Config.SshConfig RefFiles where
  defaultPaths env :=
    { user := env.homeDir.map fun home => Utf8.ascii (home ++ "/.ssh/config")
      system := some systemPath }
  exists_ path files := if path = systemPath then files.system.isSome else files.own.isSome
  resolve _ paths _ files :=
    .ok { Config.ResolvedSshConfig.bare with
      user := (paths.user.bind fun _ => files.own).or (paths.system.bind fun _ => files.system) }

/-! ### The command line -/

/-- A command line with a subcommand and no option. -/
def bareCli (subcommand : GitwaySubcommand) : Cli where
  toOptions := .bare
  subcommand := some subcommand
  json := false
  format := none
  install := false

/-- Some of the command lines that there are. -/
def parse (argv : List OsString) : Except ClapExit Cli :=
  match argv.map OsString.lossy with
  | ["gitway", "--json", "hosts", "add", host] =>
    .ok { bareCli (.hosts (.add ⟨host, none, false, false, false⟩)) with json := true }
  | ["gitway", "--json", "hosts", "add", "--yes", host] =>
    .ok { bareCli (.hosts (.add ⟨host, none, false, false, true⟩)) with json := true }
  | ["gitway", "--no-config", "config", "show", host] =>
    .ok { bareCli (.config (.show ⟨host, none, none, false⟩)) with noConfig := true }
  | ["gitway", "--no-config", "biometric", "list"] =>
    .ok { bareCli (.biometric .list) with noConfig := true }
  | _ => .error ⟨2, [], ["error: unexpected argument found"]⟩

def argv (words : List String) : List OsString := words.map fun word => ⟨word, true⟩

def processes : Agent.Processes where
  kill _ := .ok ()
  currentExe := .ok "/usr/bin/gitway"
  spawn _ fs := (.ok 4343, fs)
  daemon _ fs := (.ok (), fs)

def machine : Platform Unit RefAgent where
  parse := parse
  session := Transport.answering .notFound (.ok ()) (.ok ())
  processes := processes
  tempdir _ := .ok (Utf8.ascii "/tmp/probe")
  gitConfig fs := (.ok true, fs)
  allSupported := ⟨[], [], [], []⟩
  Filter := Tracing.RefFilter
  envFilter := inferInstance

abbrev RefProcess : Type := Process Unit RefAgent RefVault RefTerminal

/-- A process at its start, with nothing in its environment and no file. -/
def started : RefProcess where
  world := world [] [] ⟨false, []⟩ ⟨[]⟩ ⟨[]⟩
  net := ()
  calls := []
  reports := []

end Gitway.Reference
