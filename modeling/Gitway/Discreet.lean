import Gitway.Biometric.Accounted
import Gitway.Parallel
import Gitway.Parts

/-!
# What a run gives away

`gitway` is run twice, from its command line to its status. Two output modes differ in what is
printed and in nothing else, and two people who know different passphrases of the same keys
leave the same behind them.
-/
namespace Gitway

open Lib Lib.Fallible
open Config (Anvil SshConfig)

variable {Ne Ag Va Te Co : Type} {l : Likeness Va Te}

/-! ### Transport -/

section
variable (An B : Type) [Anvil An] [SshConfig Co] (sys : Platform Ne Ag) (files : Co)

theorem steady_resolveHost (opts : Transport.Options) :
    Command.Steady l (resolveHost An sys files opts :
      Command Ne Ag Va Te (Option Config.ResolvedSshConfig)) := by
  unfold resolveHost
  split
  · exact Paired.pure rfl
  refine Paired.bind_same (Command.likewise_onWorld Program.steady_environment) ?_
  intro env
  split
  · exact Paired.pure rfl
  split
  · exact Paired.bind_same (Command.steady_eprintln _) fun _ => Paired.pure rfl
  · exact Paired.pure rfl

variable (Priv : Type) {Pub : Type} [Transport.ConfigBuilder B] [PublicKey Pub]
  [PrivateKey Priv Pub] [Biometric.BiometricBackend Va] [Terminal Te]

theorem likewise_runTransport (sound : l.Sound) (opens : l.Opens Priv)
    (authenticates : l.Authenticates sys.session) (opts : Transport.Options)
    {mode mode' : OutputMode} (modes : l.output → mode = mode')
    (closes : mode = mode' ∨ (opts.test = true → ∀ net, (sys.session.close net).1 = .ok ())) :
    Command.Likewise l Eq
      (runTransport An B Priv sys files opts mode : Command Ne Ag Va Te UInt32)
      (runTransport An B Priv sys files opts mode') := by
  refine Paired.bind_same (steady_resolveHost An sys files opts) ?_
  intro resolved
  refine Paired.bind_same (Paired.query fun _ _ _ => Matched.refl (fun _ => rfl) _) ?_
  intro request
  split
  · rename_i tested
    exact likewise_runTest Priv sys.session An sound opens authenticates request modes
      (closes.imp_right fun closing => closing tested)
  split
  · exact Paired.fail _
  · exact steady_runExec Priv sys.session sound opens authenticates request opts.command

end

/-! ### The command line -/

/-- A passphrase that a person is asked for is handed on. -/
def Cli.HandsOver (cli : Cli) : Prop := ∃ subcommand ∈ cli.subcommand, subcommand.HandsOver

/-- The mode makes no difference to what the command line stands for. -/
def Cli.ModeFree (Pub : Type) [Keygen.KeyDetails Pub] (sys : Platform Ne Ag) (env : Environment)
    (cli : Cli) : Prop :=
  match cli.subcommand with
  | some subcommand => subcommand.ModeFree Pub env
  -- A program is told that the session could not be closed, in place of what came before.
  | none =>
    cli.install = false → cli.test = true → ∀ net, (sys.session.close net).1 = .ok ()

section
variable (An B Hk Priv : Type) {Pub Signers : Type} [Anvil An]
  [Transport.ConfigBuilder B] [Hosts.KnownHosts Hk] [PublicKey Pub] [PrivateKey Priv Pub]
  [Keygen.KeyDetails Pub] [Keygen.Writer Priv] [Keygen.Signatures Priv Signers]
  [Agent Ag Priv Pub] [Agent.AgentAdmin Ag Pub] [Biometric.BiometricBackend Va] [Terminal Te]
  [SshConfig Co] (sys : Platform Ne Ag) {files : Co}

/-- Two command lines that differ at most in the mode they ask for. -/
def Cli.SameRequest (cli cli' : Cli) : Prop :=
  cli'.toOptions = cli.toOptions ∧ cli'.subcommand = cli.subcommand ∧ cli'.install = cli.install

theorem run_alike (sound : l.Sound) (opens : l.Opens Priv)
    (authenticates : l.Authenticates sys.session) (files : Co) {cli cli' : Cli}
    (same : cli.SameRequest cli') (tty tty' : Bool) (exactly : cli.HandsOver → l.Exact)
    {p p' : Process Ne Ag Va Te} (like : p.Like l p')
    (modes : l.output → detectOutputMode cli p.world.env tty true =
      detectOutputMode cli' p'.world.env tty' true)
    (free : detectOutputMode cli p.world.env tty true =
      detectOutputMode cli' p'.world.env tty' true ∨ cli.ModeFree Pub sys p.world.env) :
    Matched Eq (run An B Hk Priv sys files cli tty p).1
        (run An B Hk Priv sys files cli' tty' p').1 ∧
      (run An B Hk Priv sys files cli tty p).2.Like l.written
        (run An B Hk Priv sys files cli' tty' p').2 := by
  obtain ⟨options, subcommand, install⟩ := same
  cases asked : cli.subcommand with
  | some command =>
    rw [run_subcommand An B Hk Priv sys files cli tty p asked,
      run_subcommand An B Hk Priv sys files cli' tty' p' (subcommand.trans asked)]
    refine runSubcommand_alike An B Hk Priv sys sound opens files modes ?_ like ?_
    · exact fun hands => exactly ⟨command, asked, hands⟩
    · simpa only [Cli.ModeFree, asked] using free
  | none =>
    cases installing : cli.install with
    | true =>
      rw [run_install An B Hk Priv sys files cli tty p asked installing,
        run_install An B Hk Priv sys files cli' tty' p' (subcommand.trans asked)
          (install.trans installing)]
      exact paired_exitWith_written (modeless_runInstall l.free_written sys) modes p p' like
    | false =>
      rw [run_transport An B Hk Priv sys files cli tty p asked installing,
        run_transport An B Hk Priv sys files cli' tty' p' (subcommand.trans asked)
          (install.trans installing), options]
      have closes : detectOutputMode cli p.world.env tty true =
          detectOutputMode cli' p'.world.env tty' true ∨
          (cli.test = true → ∀ net, (sys.session.close net).1 = .ok ()) := by
        refine free.imp_right fun modeFree => ?_
        simpa only [Cli.ModeFree, asked, installing, forall_const] using modeFree
      have both := likewise_runTransport (l := l) An B sys files Priv sound opens authenticates
        cli.toOptions modes closes
      obtain ⟨outcome, after⟩ := both p p' like
      exact ⟨outcome, after.written⟩

omit [Biometric.BiometricBackend Va] [Terminal Te] in
/-- An error is reported on standard error, and nowhere else. -/
theorem reportError_hushed (errorMode : OutputMode) (invocation : String)
    (configSources : List Config.OsPath) (e : AnvilError) (p : Process Ne Ag Va Te) :
    p.Hushed (reportError An errorMode invocation configSources e p).2 := by
  cases errorMode with
  | human => exact ⟨_, _, _, rfl⟩
  | json => exact ⟨_, _, _, rfl⟩

omit [Biometric.BiometricBackend Va] [Terminal Te] in
theorem steady_reportError (errorMode : OutputMode) (invocation : String)
    (configSources : List Config.OsPath) (e : AnvilError) :
    Command.Steady l (reportError An errorMode invocation configSources e :
      Command Ne Ag Va Te Unit) := by
  cases errorMode with
  | human =>
    exact Paired.bind_same (Command.steady_eprintln _) fun _ =>
      Paired.bind_same (Command.steady_eprintln _) fun _ => Command.steady_report _
  | json =>
    exact Paired.bind_same (Command.likewise_onWorld Program.steady_environment) fun _ =>
      Command.steady_report _

omit [Biometric.BiometricBackend Va] [Terminal Te] in
/-- The two ends of `main`, after the same outcome. -/
theorem finish_alike {errorMode errorMode' : OutputMode} {invocation invocation' : String}
    {sources sources' : List Config.OsPath}
    (shown : l.output → errorMode = errorMode' ∧ invocation = invocation' ∧ sources = sources')
    {r r' : Except AnvilError UInt32 × Process Ne Ag Va Te} (outcome : Matched Eq r.1 r'.1)
    (after : r.2.Like l r'.2) :
    (finish An errorMode invocation sources r).1 =
        (finish An errorMode' invocation' sources' r').1 ∧
      (finish An errorMode invocation sources r).2.Like l
        (finish An errorMode' invocation' sources' r').2 := by
  obtain ⟨result, q⟩ := r
  obtain ⟨result', q'⟩ := r'
  obtain rfl : result = result' := outcome.eq
  cases result with
  | ok code => exact ⟨rfl, after⟩
  | error e =>
    refine ⟨rfl, ?_⟩
    by_cases compared : l.output
    · obtain ⟨rfl, rfl, rfl⟩ := shown compared
      exact (steady_reportError An errorMode invocation sources e q q' after).2
    · exact after.hushed compared (reportError_hushed An errorMode invocation sources e q)
        (reportError_hushed An errorMode' invocation' sources' e q')

end

/-! ### Output modes -/

/-- Everything is the same but what is printed. -/
def Likeness.printed : Likeness Va Te where
  vault := Eq
  terminal := Eq
  passphrase := Eq
  files _ := True
  output := False

theorem Likeness.sound_printed [Biometric.BiometricBackend Va] [Terminal Te] :
    (Likeness.printed : Likeness Va Te).Sound where
  promptPassword _ := Paired.refl _
  askpass program prompt := by
    refine (Paired.refl (Terminal.askpass program prompt)).mono ?_
    rintro reply _ rfl
    refine Matched.refl ?_ _
    rintro (_ | p)
    · exact Option.Rel.none
    · exact Option.Rel.some rfl
  store id := by
    rintro p _ rfl
    exact Paired.refl _
  retrieve _ := Paired.refl _
  delete _ := Paired.refl _
  list := Paired.refl _
  isAvailable same := congrArg _ same
  bindingTier same := congrArg _ same

theorem Likeness.opens_printed (Priv : Type) {Pub : Type} [PrivateKey Priv Pub] :
    (Likeness.printed : Likeness Va Te).Opens Priv :=
  fun _ _ key _ _ _ _ same => congrArg (PrivateKey.decrypt key) same

theorem Likeness.authenticates_printed (an : Transport.AnvilSession Ne Ag) :
    (Likeness.printed : Likeness Va Te).Authenticates an where
  signs same config path fs _ _ := by rw [same]
  connects _ _ _ _ known := known

theorem Process.like_printed (p : Process Ne Ag Va Te) : p.Like Likeness.printed p where
  world :=
    { setting := rfl
      vault := rfl
      terminal := rfl
      stdin := rfl
      signals := rfl
      output := False.elim
      known := trivial }
  net := rfl
  calls := rfl
  reports := False.elim

theorem Process.Like.sameBut {p p' : Process Ne Ag Va Te}
    (like : p.Like Likeness.printed.written p') :
    p.SameBut [.stdout, .stderr, .reports] p' where
  world :=
    { env := fun _ => like.world.env.symm
      files := fun _ => like.world.files.symm
      agent := fun _ => like.world.agent.symm
      vault := fun _ => like.world.vault.symm
      terminal := fun _ => like.world.terminal.symm
      stdin := fun _ => like.world.stdin.symm
      stdout := fun other => absurd (by simp) other
      stderr := fun other => absurd (by simp) other
      signals := fun _ => like.world.signals.symm }
  network _ := like.net.symm
  calls _ := like.calls.symm
  reports other := absurd (by simp) other

/-! ### Two runs -/

section
variable (An B Hk Priv : Type) {Pub Signers : Type} [Anvil An]
  [Transport.ConfigBuilder B] [Hosts.KnownHosts Hk] [PublicKey Pub] [PrivateKey Priv Pub]
  [Keygen.KeyDetails Pub] [Keygen.Writer Priv] [Keygen.Signatures Priv Signers]
  [Agent Ag Priv Pub] [Agent.AgentAdmin Ag Pub] [Biometric.BiometricBackend Va] [Terminal Te]
  [SshConfig Co] (sys : Platform Ne Ag) {files : Co}

/-- **Mode**: what is asked for as `--json`, by the format or by a pipe decides what is printed.
The status is the same, and so is everything else that the process leaves. -/
theorem mode_is_presentation {inv inv' : Invocation} {cli cli' : Cli} {p : Process Ne Ag Va Te}
    (parsed : sys.parse inv.argv = .ok cli) (parsed' : sys.parse inv'.argv = .ok cli')
    (same : cli.SameRequest cli')
    (unicode : inv'.argv.any (fun arg => !arg.isUnicode) =
      inv.argv.any fun arg => !arg.isUnicode)
    (free : cli.ModeFree Pub sys p.world.env) :
    (main An B Hk Priv sys files inv' p).1 = (main An B Hk Priv sys files inv p).1 ∧
      (main An B Hk Priv sys files inv p).2.SameBut [.stdout, .stderr, .reports]
        (main An B Hk Priv sys files inv' p).2 := by
  unfold main
  rw [parsed, parsed', unicode]
  dsimp only
  split
  · exact ⟨rfl, (p.like_printed.hushed not_false (p.hushed_say _ _) (p.hushed_say _ _)).sameBut⟩
  obtain ⟨outcome, after⟩ := run_alike An B Hk Priv sys Likeness.sound_printed
    (Likeness.opens_printed Priv) (Likeness.authenticates_printed sys.session) files same
    inv.stdoutIsTerminal inv'.stdoutIsTerminal (fun _ _ _ same => same) p.like_printed
    (fun shown => absurd shown not_false) (Or.inr free)
  refine And.imp Eq.symm Process.Like.sameBut ?_
  exact finish_alike An (fun shown => absurd shown not_false) outcome after

/-- **Passphrases**: nothing that the process prints, writes, sends, hands to the agent or
returns tells a passphrase from another one that opens the same keys. -/
theorem passphrases_do_not_show (sound : l.Sound) (opens : l.Opens Priv)
    (authenticates : l.Authenticates sys.session) {inv : Invocation}
    (kept : ∀ cli, sys.parse inv.argv = .ok cli → ¬ cli.HandsOver)
    {p p' : Process Ne Ag Va Te} (like : p.Like l p') :
    (main An B Hk Priv sys files inv p).1 = (main An B Hk Priv sys files inv p').1 ∧
      (main An B Hk Priv sys files inv p).2.Like l.written
        (main An B Hk Priv sys files inv p').2 := by
  unfold main
  cases parsed : sys.parse inv.argv with
  | error exit => exact ⟨rfl, (like.say _ _).written⟩
  | ok cli =>
    dsimp only
    split
    · exact ⟨rfl, (like.say _ _).written⟩
    have same : cli.SameRequest cli := ⟨rfl, rfl, rfl⟩
    have mode : detectOutputMode cli p.world.env inv.stdoutIsTerminal true =
        detectOutputMode cli p'.world.env inv.stdoutIsTerminal true := by
      rw [like.world.env]
    obtain ⟨outcome, after⟩ := run_alike An B Hk Priv sys sound opens authenticates files same
      inv.stdoutIsTerminal inv.stdoutIsTerminal (fun hands => absurd hands (kept cli parsed)) like
      (fun _ => mode) (Or.inl mode)
    refine finish_alike An (fun _ => ?_) outcome after
    rw [like.world.env]
    exact ⟨rfl, rfl, rfl⟩

end

open Reference

/-- Consent was given on the command line. -/
private def consenting (json : Bool) : Cli :=
  { bareCli (.hosts (.add ⟨"github.com", none, false, false, true⟩)) with json := json }

private def eitherMode : Gitway.Platform Unit RefAgent :=
  { machine with parse := fun argv => .ok (consenting (argv.length == 6)) }

private def toldPlain : Invocation :=
  ⟨argv ["gitway", "hosts", "add", "--yes", "github.com"], true⟩

private def toldJson : Invocation :=
  ⟨argv ["gitway", "--json", "hosts", "add", "--yes", "github.com"], true⟩

private def noConfigFiles : RefFiles := ⟨none, none⟩

/-- A host is added in both modes. -/
theorem added_in_both_modes :
    (main RefAnvil Transport.AnvilConfig Hosts.RefHostKeys RefPrivate eitherMode noConfigFiles
        toldJson started).1 =
        (main RefAnvil Transport.AnvilConfig Hosts.RefHostKeys RefPrivate eitherMode noConfigFiles
          toldPlain started).1 ∧
      (main RefAnvil Transport.AnvilConfig Hosts.RefHostKeys RefPrivate eitherMode noConfigFiles
        toldPlain started).2.SameBut [.stdout, .stderr, .reports]
        (main RefAnvil Transport.AnvilConfig Hosts.RefHostKeys RefPrivate eitherMode noConfigFiles
          toldJson started).2 := by
  have plain : eitherMode.parse toldPlain.argv = .ok (consenting false) := rfl
  have json : eitherMode.parse toldJson.argv = .ok (consenting true) := rfl
  exact mode_is_presentation RefAnvil Transport.AnvilConfig Hosts.RefHostKeys RefPrivate eitherMode
    plain json ⟨rfl, rfl, rfl⟩ rfl (Or.inl rfl)

/-! ### A wrong passphrase -/

def lockedFile : FileSystem :=
  textFiles [("id", "openssh-key-v1 AAAA aes256-ctr secret")]

/-- Two people who both guess wrong. -/
def guessing : Likeness Biometric.UnsupportedVault RefTerminal where
  vault := Eq
  terminal t t' := t.answers = [] ∧ t'.answers = [] ∨ t.answers = ["guess"] ∧ t'.answers = ["other"]
  passphrase p p' := p = p' ∨ p = "guess" ∧ p' = "other"
  files fs := fs = lockedFile
  output := True

def guesser (answer : String) : Process Unit RefAgent Biometric.UnsupportedVault RefTerminal where
  world := {
    env := environment [("SSH_AUTH_SOCK", "/tmp/agent.sock")]
    fs := lockedFile
    agent := ⟨false, []⟩
    vault := .featureOff
    terminal := ⟨[answer]⟩
    stdin := .ok ByteArray.empty
    stdout := []
    stderr := []
    signals := [] }
  net := ()
  calls := []
  reports := []

theorem guessing_sound : guessing.Sound where
  promptPassword prompt := by
    rintro ⟨_⟩ ⟨_⟩ (⟨rfl, rfl⟩ | ⟨rfl, rfl⟩)
    · exact ⟨Matched.error _, Or.inl ⟨rfl, rfl⟩⟩
    · exact ⟨Matched.ok (Or.inr ⟨rfl, rfl⟩), Or.inl ⟨rfl, rfl⟩⟩
  askpass program prompt := by
    have reply (answer : String) (trimmed : Text.trimEndNewlines (answer ++ "\n") = answer)
        (some_answer : answer.isEmpty = false) :
        Prompt.askpassReply program ⟨true, "exit status: 0", (answer ++ "\n").toUTF8⟩ =
          .ok (some answer) := by
      unfold Prompt.askpassReply
      simp only [Bool.not_true, Bool.false_eq_true, if_false, fromUTF8?_toUTF8, trimmed,
        some_answer]
    rintro ⟨_⟩ ⟨_⟩ (⟨rfl, rfl⟩ | ⟨rfl, rfl⟩)
    · exact ⟨Matched.error _, Or.inl ⟨rfl, rfl⟩⟩
    · refine ⟨Matched.ok ?_, Or.inl ⟨rfl, rfl⟩⟩
      rw [reply "guess" (by decide) (by decide), reply "other" (by decide) (by decide)]
      exact Matched.ok (Option.Rel.some (Or.inr ⟨rfl, rfl⟩))
  store id := by
    rintro p p' _ v _ rfl
    exact ⟨Matched.error _, rfl⟩
  retrieve id := by
    rintro v _ rfl
    exact ⟨Matched.error _, rfl⟩
  delete id := Paired.refl _
  list := Paired.refl _
  isAvailable same := congrArg _ same
  bindingTier same := congrArg _ same

theorem guessing_opens : guessing.Opens RefPrivate := by
  rintro _ path key rfl there p p' (rfl | ⟨rfl, rfl⟩)
  · rfl
  by_cases same : path = "id"
  · subst same
    have locked : keyAt RefPrivate lockedFile "id" = some ⟨⟨"AAAA"⟩, some "secret"⟩ :=
      keyAt_of_parsed (readToString_textFiles _ "id" "openssh-key-v1 AAAA aes256-ctr secret" rfl)
        rfl
    obtain rfl : (⟨⟨"AAAA"⟩, some "secret"⟩ : RefPrivate) = key :=
      Option.some.inj (locked.symm.trans there)
    rfl
  · have missing : List.lookup path [("id", "openssh-key-v1 AAAA aes256-ctr secret")] = none := by
      rw [List.lookup_singleton, if_neg (by simpa using same)]
    have unread : lockedFile.readToString path =
        .error ⟨.notFound, some 2, "No such file or directory"⟩ := by
      simp only [FileSystem.readToString, lockedFile, textFiles, missing]
      rfl
    simp [keyAt, unread, Except.toOption] at there

private def addingCli : Cli := bareCli (.agent (.add ⟨["id"], none, false, false, false⟩))

private def addingMachine : Gitway.Platform Unit RefAgent :=
  { machine with parse := fun _ => .ok addingCli }

private def adding : Invocation := ⟨argv ["gitway", "agent", "add", "id"], true⟩

theorem guesser_alike : (guesser "guess").Like guessing (guesser "other") where
  world :=
    { setting := rfl
      vault := rfl
      terminal := Or.inr ⟨rfl, rfl⟩
      stdin := rfl
      signals := rfl
      output := fun _ => rfl
      known := rfl }
  net := rfl
  calls := rfl
  reports := fun _ => rfl

/-- Which wrong passphrase was typed for a key is not to be seen. -/
theorem guesses_do_not_show :
    (main RefAnvil Transport.AnvilConfig Hosts.RefHostKeys RefPrivate addingMachine noConfigFiles
        adding (guesser "guess")).1 =
        (main RefAnvil Transport.AnvilConfig Hosts.RefHostKeys RefPrivate addingMachine
          noConfigFiles adding (guesser "other")).1 ∧
      (main RefAnvil Transport.AnvilConfig Hosts.RefHostKeys RefPrivate addingMachine noConfigFiles
        adding (guesser "guess")).2.Like guessing.written
        (main RefAnvil Transport.AnvilConfig Hosts.RefHostKeys RefPrivate addingMachine
          noConfigFiles adding (guesser "other")).2 := by
  have authenticates : guessing.Authenticates addingMachine.session :=
    ⟨fun _ _ _ _ _ _ => rfl, fun _ _ _ _ known => known⟩
  have kept : ∀ cli, addingMachine.parse adding.argv = .ok cli → ¬ cli.HandsOver := by
    rintro _ ⟨rfl⟩ ⟨subcommand, given, hands⟩
    obtain rfl : GitwaySubcommand.agent (.add ⟨["id"], none, false, false, false⟩) = subcommand :=
      Option.some.inj given
    exact hands
  exact passphrases_do_not_show RefAnvil Transport.AnvilConfig Hosts.RefHostKeys RefPrivate
    addingMachine guessing_sound guessing_opens authenticates kept guesser_alike

end Gitway
