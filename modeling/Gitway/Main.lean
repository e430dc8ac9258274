import Gitway.Agent.Commands
import Gitway.Biometric.Report
import Gitway.Config.Command
import Gitway.Discovery
import Gitway.Hosts.Commands
import Gitway.Sign
import Gitway.Tracing

/-!
# `gitway`

The command line is dispatched to its command, and the result of the command is turned
into an exit status. An error is reported here for all commands. A command that ends with
a code of its own has reported what it has to report.
-/
namespace Gitway

open Lib
open Config (OsPath Anvil SshConfig)

/-! ### The command line -/

inductive KeygenSubcommand where
  | generate (args : Keygen.GenerateArgs)
  | fingerprint (args : Keygen.FingerprintArgs)
  | extractPublic (args : Keygen.ExtractPublicArgs)
  | changePassphrase (args : Keygen.ChangePassphraseArgs)
  | sign (args : Sign.SignArgs)
  | verify (args : Keygen.VerifyArgs)

inductive GitwaySubcommand where
  | schema
  | describe
  | keygen (command : KeygenSubcommand)
  | sign (args : Sign.SignArgs)
  | agent (command : Agent.AgentSubcommand)
  | config (command : Config.ConfigSubcommand)
  | listAlgorithms
  | hosts (command : Hosts.HostsSubcommand)
  | biometric (command : Biometric.BiometricSubcommand)

inductive OutputFormat where
  | json
  deriving DecidableEq, Repr

structure Cli extends Transport.Options where
  subcommand : Option GitwaySubcommand
  json : Bool
  format : Option OutputFormat
  install : Bool

def isAgentOrCiEnv (env : Environment) : Bool :=
  env.var "AI_AGENT" == some "1" || env.var "AGENT" == some "1" ||
    (env.var "CI").any (fun v => Text.eqIgnoreAsciiCase v "true") ||
    env.var "CLAUDECODE" == some "1" || env.var "CURSOR_AGENT" == some "1" ||
    env.var "GEMINI_CLI" == some "1"

def detectOutputMode (cli : Cli) (env : Environment) (stdoutIsTerminal checkTty : Bool) :
    OutputMode :=
  if cli.json || cli.format == some .json then .json
  else if isAgentOrCiEnv env then .json
  else if checkTty && !stdoutIsTerminal then .json
  else .human

/-- How clap ends a process: help and the version go to standard output, a complaint goes to
standard error. -/
structure ClapExit where
  status : UInt8
  out : List String
  messages : List String

/-- What `gitway` is linked with and runs on. -/
structure Platform (Ne Ag : Type) where
  /-- `Cli::parse`. -/
  parse : List OsString → Except ClapExit Cli
  session : Transport.AnvilSession Ne Ag
  processes : Agent.Processes
  tempdir : FileSystem → Except String OsPath
  /-- `git config --global core.sshCommand gitway`: whether it succeeded. -/
  gitConfig : FileSystem → Except IoError Bool × FileSystem
  allSupported : Discovery.Catalogue
  Filter : Type
  envFilter : Tracing.EnvFilter Filter

attribute [instance] Platform.envFilter

structure Invocation where
  argv : List OsString
  stdoutIsTerminal : Bool

/-! ### Dispatch -/

variable {Ne Ag Va Te Co : Type} (An B Hk Priv : Type) {Pub Signers : Type} [Anvil An]
  [Transport.ConfigBuilder B] [Hosts.KnownHosts Hk] [PublicKey Pub] [PrivateKey Priv Pub]
  [Keygen.KeyDetails Pub] [Keygen.Writer Priv] [Keygen.Signatures Priv Signers]
  [Agent Ag Priv Pub] [Agent.AgentAdmin Ag Pub] [Biometric.BiometricBackend Va] [Terminal Te]
  [SshConfig Co] (sys : Platform Ne Ag)

/-- A command that needs no more than a world, with its code as the process returns it. -/
def exitWith (x : Program Ag Va Te Nat) : Command Ne Ag Va Te UInt32 :=
  UInt32.ofNat <$> Command.onWorld x

omit [Biometric.BiometricBackend Va] [Terminal Te] in
/-- The process takes over the code of the program, and its world. -/
theorem exitWith_run (x : Program Ag Va Te Nat) (p : Process Ne Ag Va Te) :
    exitWith x p = (UInt32.ofNat <$> (x p.world).1, { p with world := (x p.world).2 }) := by
  unfold exitWith
  rw [Fallible.map_run, Command.onWorld_run]

def runInstall (mode : OutputMode) : Program Ag Va Te Nat := do
  let success ← Program.onFiles fun fs => ((sys.gitConfig fs).1.mapError .io, (sys.gitConfig fs).2)
  if success then
    match mode with
    | .json =>
      let env ← Program.environment
      Program.emitJson (.obj [
        ("metadata", metadataBlock env "gitway --install"),
        ("data", .obj [
          ("configured", .bool true),
          ("config_key", .str "core.sshCommand"),
          ("config_value", .str "gitway"),
          ("scope", .str "global")])])
    | .human =>
      Program.eprintln "gitway: set core.sshCommand = gitway in global Git config ✓"
    return 0
  else
    Fallible.fail (.invalidConfig "git config --global core.sshCommand failed")

def runKeygen (command : KeygenSubcommand) (mode : OutputMode) : Command Ne Ag Va Te UInt32 :=
  match command with
  | .generate args => exitWith (Keygen.runGenerate Priv args mode)
  | .fingerprint args => exitWith (Keygen.runFingerprint Priv args mode)
  | .extractPublic args => exitWith (Keygen.runExtractPublic Priv args mode)
  | .changePassphrase args => exitWith (Keygen.runChangePassphrase Priv args mode)
  | .sign args => Sign.run Priv sys.session args mode
  | .verify args => exitWith (Keygen.runVerify Priv args mode)

def runSubcommand (files : Co) (subcommand : GitwaySubcommand) (mode : OutputMode) :
    Command Ne Ag Va Te UInt32 :=
  match subcommand with
  | .schema => exitWith Discovery.runSchema
  | .describe => exitWith Discovery.runDescribe
  | .keygen command => runKeygen Priv sys command mode
  | .sign args => Sign.run Priv sys.session args mode
  | .agent command => exitWith (Agent.run sys.processes command mode)
  | .config command => exitWith (Config.run An files command mode)
  | .listAlgorithms => exitWith (Discovery.runListAlgorithms sys.allSupported mode)
  | .hosts command =>
    UInt32.ofNat <$> Hosts.run Hk sys.session B sys.tempdir command mode
  | .biometric command => exitWith (Biometric.run Priv command mode)

/-- Whether the subscriber writes a warning of this program. -/
def warns (env : Environment) (opts : Transport.Options) : Bool :=
  Tracing.EnvFilter.enabled
    (Tracing.initTracingSubscriber sys.Filter env opts.verbose opts.debugCategories) "gitway" .warn

/-- The resolution of the host, unless `--no-config` is given. A file that cannot be read is
warned of and counts for nothing. -/
def resolveHost (files : Co) (opts : Transport.Options) :
    Command Ne Ag Va Te (Option Config.ResolvedSshConfig) := do
  match opts.lookup with
  | none => return none
  | some host =>
    let env ← Command.onWorld Program.environment
    match SshConfig.resolve host (SshConfig.defaultPaths Co env) env files with
    | .ok resolved => return some resolved
    | .error e =>
      -- The text of the record, less the time and the target before it.
      if warns sys env opts then
        Command.eprintln s!"ssh_config: ignored due to error: {(Anvil.describe An e).display}"
      return none

/-- `--test` and the relay of a Git command. -/
def runTransport (files : Co) (opts : Transport.Options) (mode : OutputMode) :
    Command Ne Ag Va Te UInt32 := do
  let resolved ← resolveHost An sys files opts
  let request ← Fallible.query fun _ => Transport.prepare An B opts resolved
  if opts.test then
    Transport.runTest Priv sys.session An request mode
  else if opts.command.isEmpty then
    Fallible.fail (.invalidConfig
      "no remote command specified; pass a git-upload-pack / git-receive-pack command")
  else
    Transport.runExec Priv sys.session request opts.command

def run (files : Co) (cli : Cli) (stdoutIsTerminal : Bool) : Command Ne Ag Va Te UInt32 := do
  let env ← Command.onWorld Program.environment
  let mode := detectOutputMode cli env stdoutIsTerminal true
  match cli.subcommand with
  | some subcommand => runSubcommand An B Hk Priv sys files subcommand mode
  | none =>
    if cli.install then exitWith (runInstall sys mode)
    else runTransport An B Priv sys files cli.toOptions mode

section
variable (files : Co) (cli : Cli) (stdoutIsTerminal : Bool) (p : Process Ne Ag Va Te)

theorem run_subcommand {subcommand : GitwaySubcommand} (given : cli.subcommand = some subcommand) :
    run An B Hk Priv sys files cli stdoutIsTerminal p =
      runSubcommand An B Hk Priv sys files subcommand
        (detectOutputMode cli p.world.env stdoutIsTerminal true) p := by
  simp only [run, given]
  rfl

theorem run_install (absent : cli.subcommand = none) (install : cli.install = true) :
    run An B Hk Priv sys files cli stdoutIsTerminal p =
      exitWith (runInstall sys (detectOutputMode cli p.world.env stdoutIsTerminal true)) p := by
  simp only [run, absent, install, if_true]
  rfl

theorem run_transport (absent : cli.subcommand = none) (transport : cli.install = false) :
    run An B Hk Priv sys files cli stdoutIsTerminal p =
      runTransport An B Priv sys files cli.toOptions
        (detectOutputMode cli p.world.env stdoutIsTerminal true) p := by
  simp only [run, absent, transport, Bool.false_eq_true, if_false]
  rfl

end

/-! ### The process -/

/-- The `ssh_config` files that there are, for the line that reports a failure. -/
def computeConfigSources (cli : Cli) (env : Environment) (files : Co) : List OsPath :=
  if cli.noConfig then []
  else
    let paths := SshConfig.defaultPaths Co env
    (paths.user.toList ++ paths.system.toList).filter fun p => SshConfig.exists_ p files

def errorJson (env : Environment) (invocation : String) (e : AnvilError) : Json :=
  .obj [
    ("metadata", metadataBlock env invocation),
    ("error", .obj [
      ("code", .str (Anvil.describe An e).errorCode),
      ("exit_code", .num (Anvil.describe An e).exitCode.toNat),
      ("message", .str (Anvil.describe An e).display),
      ("hint", .str (Anvil.describe An e).hint)])]

def reportError (errorMode : OutputMode) (invocation : String) (configSources : List OsPath)
    (e : AnvilError) : Command Ne Ag Va Te Unit := do
  match errorMode with
  | .json =>
    let env ← Command.onWorld Program.environment
    Command.report (.json (errorJson An env invocation e))
  | .human =>
    Command.eprintln s!"gitway: error: {(Anvil.describe An e).display}"
    Command.eprintln s!"gitway: what to do: {(Anvil.describe An e).hint}"
    Command.report (.diag e configSources)

def exitCode (e : AnvilError) : UInt32 := (Anvil.describe An e).exitCode

/-- The end of `main`, where the result of `run` becomes the status. -/
def finish (errorMode : OutputMode) (invocation : String) (configSources : List OsPath)
    (result : Except AnvilError UInt32 × Process Ne Ag Va Te) : UInt8 × Process Ne Ag Va Te :=
  match result with
  | (.ok code, p) => (Exit.gitwayMain (exitCode An) (.ok code), p)
  | (.error e, p) =>
    (Exit.gitwayMain (exitCode An) (.error e),
      (reportError An errorMode invocation configSources e p).2)

/-- The status of a process that panics. -/
def PANICKED : UInt8 := 101

/-- What the runtime says of an argument that is not Unicode, less the place in its code. -/
def panicMessage (argv : List OsString) : String :=
  let value := (argv.find? fun arg => !arg.isUnicode).elim "" OsString.lossy
  s!"thread 'main' panicked: called `Result::unwrap()` on an `Err` value: {value}"

def main (files : Co) (inv : Invocation) (p : Process Ne Ag Va Te) :
    UInt8 × Process Ne Ag Va Te :=
  match sys.parse inv.argv with
  | .error exit => (exit.status, p.say exit.out exit.messages)
  | .ok cli =>
    -- `std::env::args` gives up on an argument that is not Unicode.
    if inv.argv.any (fun arg => !arg.isUnicode) then
      (PANICKED, p.say [] [panicMessage inv.argv])
    else
      let errorMode := detectOutputMode cli p.world.env inv.stdoutIsTerminal false
      let invocation := " ".intercalate (inv.argv.map OsString.lossy)
      let configSources := computeConfigSources cli p.world.env files
      finish An errorMode invocation configSources
        (run An B Hk Priv sys files cli inv.stdoutIsTerminal p)

end Gitway
