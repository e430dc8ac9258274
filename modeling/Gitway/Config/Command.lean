import Gitway.Config.Show

/-!
# `gitway config`

The `ssh_config` files are kept apart from all other files here, so that it shows which
command reads them.
-/
namespace Gitway.Config

open Lib

/-- `anvil_ssh::ssh_config`, over the files at its paths and those they include. -/
class SshConfig (Co : Type) where
  defaultPaths : Environment → SshConfigPaths
  exists_ : OsPath → Co → Bool
  resolve : String → SshConfigPaths → Environment → Co → Except AnvilError ResolvedSshConfig

inductive ConfigSubcommand where
  | «show» (args : ConfigShowArgs)

/-- An override takes the place of the default path, and an empty one disables the tier. -/
def overridePath (given default : Option OsPath) : Option OsPath :=
  match given with
  | some path => if path.isEmpty then none else some path
  | none => default

variable {Ag Va Te Co : Type} (An : Type) [Anvil An] [SshConfig Co]

def sshConfigPathsFromArgs (Co : Type) [SshConfig Co] (env : Environment)
    (args : ConfigShowArgs) : SshConfigPaths :=
  let paths := SshConfig.defaultPaths Co env
  { user := overridePath args.userConfig paths.user
    system := overridePath args.systemConfig paths.system }

def runShow (files : Co) (args : ConfigShowArgs) (mode : OutputMode) : Program Ag Va Te Nat := do
  let env ← Program.environment
  let resolved ← Fallible.query fun _ =>
    SshConfig.resolve args.host (sshConfigPathsFromArgs Co env args) env files
  emitShow An args mode resolved
  return 0

/-- Dispatches one `gitway config` invocation. -/
def run (files : Co) (sub : ConfigSubcommand) (mode : OutputMode) : Program Ag Va Te Nat :=
  match sub with
  | .show args => runShow An files args mode

end Gitway.Config
