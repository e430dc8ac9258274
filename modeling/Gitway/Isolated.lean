import Gitway.Machine

/-!
# `--no-config`

Two runs that differ only in the `ssh_config` files. The flag keeps the transport and the line
that reports a failure away from these files, but `config show` is not told of it.
-/
namespace Gitway

open Lib
open Config (Anvil SshConfig ConfigShowArgs ResolvedSshConfig)

/-- There is a path at which `ssh_config` is looked for. -/
def HasDefault (Co : Type) [SshConfig Co] (env : Environment) : Prop :=
  (SshConfig.defaultPaths Co env).user.isSome = true ∨
    (SshConfig.defaultPaths Co env).system.isSome = true

/-- A file at a default path can name one user or another. Without such a path no file is
read. -/
structure ReadsDefaults (Co : Type) [SshConfig Co] : Prop where
  names : ∀ host env, HasDefault Co env →
    ∃ (files files' : Co) (resolved : ResolvedSshConfig) (user user' : Option String),
      user ≠ user' ∧
      SshConfig.resolve host (SshConfig.defaultPaths Co env) env files =
        .ok { resolved with user := user } ∧
      SshConfig.resolve host (SshConfig.defaultPaths Co env) env files' =
        .ok { resolved with user := user' }
  unread : ∀ host env (files files' : Co), ¬ HasDefault Co env →
    SshConfig.resolve host (SshConfig.defaultPaths Co env) env files =
      SshConfig.resolve host (SshConfig.defaultPaths Co env) env files'

/-- Only `config show` takes paths of its own, and it is given none. -/
def Cli.NoOverride (cli : Cli) : Prop :=
  ∀ args, cli.subcommand = some (.config (.show args)) →
    args.userConfig = none ∧ args.systemConfig = none

def Cli.IsConfigShow (cli : Cli) : Prop := ∃ args, cli.subcommand = some (.config (.show args))

theorem sshConfigPaths_default (Co : Type) [SshConfig Co] (env : Environment)
    {args : ConfigShowArgs} (given : args.userConfig = none ∧ args.systemConfig = none) :
    Config.sshConfigPathsFromArgs Co env args = SshConfig.defaultPaths Co env := by
  unfold Config.sshConfigPathsFromArgs
  rw [given.1, given.2]
  rfl

theorem computeConfigSources_noConfig {Co : Type} [SshConfig Co] {cli : Cli}
    (noConfig : cli.noConfig = true) (env : Environment) (files : Co) :
    computeConfigSources cli env files = [] := by
  unfold computeConfigSources
  rw [if_pos noConfig]

variable {Ne Ag Va Te Co : Type} (An B Hk Priv : Type) {Pub Signers : Type} [Anvil An]
  [Transport.ConfigBuilder B] [Hosts.KnownHosts Hk] [PublicKey Pub] [PrivateKey Priv Pub]
  [Keygen.KeyDetails Pub] [Keygen.Writer Priv] [Keygen.Signatures Priv Signers]
  [Agent Ag Priv Pub] [Agent.AgentAdmin Ag Pub] [Biometric.BiometricBackend Va] [Terminal Te]
  [SshConfig Co] (sys : Platform Ne Ag)

/-- What the run comes to does not depend on the `ssh_config` files: not its result, not the
state behind it with all that was printed and connected, and not the end of the process. -/
def Isolated (Co : Type) [SshConfig Co] (inv : Invocation) (cli : Cli)
    (p : Process Ne Ag Va Te) : Prop :=
  ∀ files files' : Co,
    run An B Hk Priv sys files cli inv.stdoutIsTerminal p =
      run An B Hk Priv sys files' cli inv.stdoutIsTerminal p ∧
    main An B Hk Priv sys files inv p = main An B Hk Priv sys files' inv p

omit [Keygen.KeyDetails Pub] [Keygen.Writer Priv] [Keygen.Signatures Priv Signers]
  [Agent Ag Priv Pub] [Agent.AgentAdmin Ag Pub] in
/-- The transport looks nothing up. -/
theorem runTransport_noConfig {opts : Transport.Options} (noConfig : opts.noConfig = true)
    (mode : OutputMode) (files files' : Co) :
    (runTransport An B Priv sys files opts mode : Command Ne Ag Va Te UInt32) =
      runTransport An B Priv sys files' opts mode := by
  have absent : opts.lookup = none := by
    unfold Transport.Options.lookup
    rw [if_pos noConfig]
  unfold runTransport resolveHost
  rw [absent]

/-- A command other than `config show` has nothing to do with the files, and without a path
`config show` has not, either. -/
theorem runSubcommand_isolated (reads : ReadsDefaults Co) (files files' : Co)
    {subcommand : GitwaySubcommand} {mode : OutputMode} {p : Process Ne Ag Va Te}
    (shown : ∀ args, subcommand = .config (.show args) →
      (args.userConfig = none ∧ args.systemConfig = none) ∧ ¬ HasDefault Co p.world.env) :
    runSubcommand An B Hk Priv sys files subcommand mode p =
      runSubcommand An B Hk Priv sys files' subcommand mode p := by
  cases subcommand with
  | config command =>
    cases command with
    | «show» args =>
      obtain ⟨given, nowhere⟩ := shown args rfl
      have unread := reads.unread args.host p.world.env files files' nowhere
      rw [← sshConfigPaths_default Co p.world.env given] at unread
      have same : Config.runShow An files args mode p.world =
          Config.runShow An files' args mode p.world := by
        unfold Config.runShow
        rw [Fallible.bind_of_ok (Program.environment_run p.world),
          Fallible.bind_of_ok (Program.environment_run p.world), Fallible.bind_run,
          Fallible.bind_run, Fallible.query_run, Fallible.query_run, unread]
      show exitWith (Config.runShow An files args mode) p =
        exitWith (Config.runShow An files' args mode) p
      rw [exitWith_run, exitWith_run, same]
  | _ => rfl

omit [Biometric.BiometricBackend Va] [Terminal Te] in
/-- What `config show` prints of a resolution. -/
theorem runShow_output {args : ConfigShowArgs} {files : Co} {resolved : ResolvedSshConfig}
    {w : World Ag Va Te} (mode : OutputMode)
    (found : SshConfig.resolve args.host (Config.sshConfigPathsFromArgs Co w.env args) w.env files =
      .ok resolved) :
    (Config.runShow An files args mode w).2.output =
      (Config.emitShow An args mode resolved w).2.output := by
  have looked : (Fallible.query fun _ : World Ag Va Te => SshConfig.resolve args.host
      (Config.sshConfigPathsFromArgs Co w.env args) w.env files) w = (.ok resolved, w) :=
    Prod.ext found rfl
  unfold Config.runShow
  rw [Fallible.bind_of_ok (Program.environment_run w), Fallible.bind_of_ok looked]
  exact Fallible.Keeps.of_bind (fun _ => Fallible.Keeps.pure 0) w

/-- With `--no-config`, a run is isolated from `ssh_config` exactly when it is not one of
`config show` that has a path to look at. -/
theorem no_config_isolates_iff (reads : ReadsDefaults Co) {inv : Invocation} {cli : Cli}
    (parsed : sys.parse inv.argv = .ok cli) (noConfig : cli.noConfig = true)
    (defaults : cli.NoOverride) (p : Process Ne Ag Va Te) :
    Isolated An B Hk Priv sys Co inv cli p ↔
      ¬ (cli.IsConfigShow ∧ HasDefault Co p.world.env) := by
  constructor
  · rintro isolated ⟨⟨args, given⟩, path⟩
    -- Two sets of files that name different users at the path that is looked at.
    obtain ⟨files, files', resolved, user, user', differ, first, second⟩ :=
      reads.names args.host p.world.env path
    rw [← sshConfigPaths_default Co p.world.env (defaults args given)] at first second
    let mode := detectOutputMode cli p.world.env inv.stdoutIsTerminal true
    have same := (isolated files files').1
    rw [run_subcommand An B Hk Priv sys files cli _ p given,
      run_subcommand An B Hk Priv sys files' cli _ p given] at same
    have printed : (Config.runShow An files args mode p.world).2.output =
        (Config.runShow An files' args mode p.world).2.output := by
      have both : exitWith (Config.runShow An files args mode) p =
        exitWith (Config.runShow An files' args mode) p := same
      rw [exitWith_run, exitWith_run] at both
      exact congrArg (fun ended => ended.2.world.output) both
    rw [runShow_output An mode first, runShow_output An mode second] at printed
    exact differ (Config.emitShow_user An args mode resolved printed)
  · intro apart files files'
    -- The loader is asked only by `config show`, which has no path to look at.
    have same : run An B Hk Priv sys files cli inv.stdoutIsTerminal p =
        run An B Hk Priv sys files' cli inv.stdoutIsTerminal p := by
      cases given : cli.subcommand with
      | some subcommand =>
        rw [run_subcommand An B Hk Priv sys files cli _ p given,
          run_subcommand An B Hk Priv sys files' cli _ p given]
        exact runSubcommand_isolated An B Hk Priv sys reads files files'
          (fun args shown => ⟨defaults args (given.trans (congrArg some shown)),
            fun path => apart ⟨⟨args, given.trans (congrArg some shown)⟩, path⟩⟩)
      | none =>
        cases install : cli.install with
        | true =>
          rw [run_install An B Hk Priv sys files cli _ p given install,
            run_install An B Hk Priv sys files' cli _ p given install]
        | false =>
          rw [run_transport An B Hk Priv sys files cli _ p given install,
            run_transport An B Hk Priv sys files' cli _ p given install,
            runTransport_noConfig An B Priv sys noConfig _ files files']
    refine ⟨same, ?_⟩
    unfold main
    rw [parsed]
    dsimp only
    rw [same, computeConfigSources_noConfig noConfig, computeConfigSources_noConfig noConfig]

/-! ### Two `ssh_config` files -/

open Reference

theorem refFiles_readsDefaults : ReadsDefaults RefFiles where
  names host env path := by
    refine ⟨⟨none, some "alice"⟩, ⟨none, some "bob"⟩, .bare, some "alice", some "bob", by decide,
      ?_, ?_⟩ <;> simp [SshConfig.resolve, SshConfig.defaultPaths]
  unread host env files files' nowhere := by
    exact absurd (Or.inr rfl) nowhere

private def namingAlice : RefFiles := ⟨some "alice", none⟩
private def namingBob : RefFiles := ⟨some "bob", none⟩

private def showCli : Cli :=
  { bareCli (.config (.show ⟨"git.example.org", none, none, false⟩)) with noConfig := true }

private def listCli : Cli := { bareCli (.biometric .list) with noConfig := true }

private def showing : Invocation :=
  ⟨argv ["gitway", "--no-config", "config", "show", "git.example.org"], true⟩

private def listing : Invocation := ⟨argv ["gitway", "--no-config", "biometric", "list"], true⟩

theorem listing_isolated :
    Isolated RefAnvil Transport.AnvilConfig Hosts.RefHostKeys RefPrivate machine RefFiles listing
      listCli started := by
  refine (no_config_isolates_iff RefAnvil Transport.AnvilConfig Hosts.RefHostKeys RefPrivate
    machine refFiles_readsDefaults rfl rfl (fun args shown => ?_) started).mpr ?_
  · simp [listCli, bareCli] at shown
  · rintro ⟨⟨args, shown⟩, _⟩
    simp [listCli, bareCli] at shown

/-- `gitway --no-config config show` prints the user that `ssh_config` names. -/
theorem showing_reflects_ssh_config :
    machine.parse showing.argv = .ok showCli ∧ showCli.noConfig = true ∧ showCli.NoOverride ∧
      (main RefAnvil Transport.AnvilConfig Hosts.RefHostKeys RefPrivate machine namingAlice showing
        started).2.world.stdout = [.line "user alice"] ∧
      (main RefAnvil Transport.AnvilConfig Hosts.RefHostKeys RefPrivate machine namingBob showing
        started).2.world.stdout = [.line "user bob"] ∧
      ¬ Isolated RefAnvil Transport.AnvilConfig Hosts.RefHostKeys RefPrivate machine RefFiles
        showing showCli started := by
  have alice : (main RefAnvil Transport.AnvilConfig Hosts.RefHostKeys RefPrivate machine
      namingAlice showing started).2.world.stdout = [.line "user alice"] := rfl
  have bob : (main RefAnvil Transport.AnvilConfig Hosts.RefHostKeys RefPrivate machine
      namingBob showing started).2.world.stdout = [.line "user bob"] := rfl
  refine ⟨rfl, rfl, ?_, alice, bob, fun isolated => ?_⟩
  · rintro args given
    obtain rfl : ⟨"git.example.org", none, none, false⟩ = args := by
      simpa [showCli, bareCli] using given
    exact ⟨rfl, rfl⟩
  · rw [(isolated namingAlice namingBob).2, bob] at alice
    simp at alice

end Gitway
