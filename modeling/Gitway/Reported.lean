import Gitway.Biometric.Batch
import Gitway.Biometric.Unavailable
import Gitway.Machine
import Gitway.Silent

/-!
# Failures that report themselves

Where a command ends with an error, the end of `main` reports it. Where it ends with a code of
its own, nothing does.
-/
namespace Gitway

open Lib Fallible Command
open Config (Anvil SshConfig)

/-! ### Codes -/

theorem ofNat_eq_zero_iff {code : Nat} (small : code ≤ 255) :
    UInt32.ofNat code = 0 ↔ code = 0 := by
  have fits : code < UInt32.size := by
    unfold UInt32.size
    omega
  rw [← UInt32.toNat_inj, UInt32.toNat_ofNat_of_lt' fits, UInt32.toNat_zero]

theorem ofNat_small {code : Nat} (small : code ≤ 255) : (UInt32.ofNat code).toNat ≤ 255 := by
  have fits : code < UInt32.size := by
    unfold UInt32.size
    omega
  rw [UInt32.toNat_ofNat_of_lt' fits]
  exact small

/-- A code that fits into a byte is the status. -/
theorem processExit_small {code : UInt32} (small : code.toNat ≤ 255) :
    (Exit.processExit code.toInt32).toNat = code.toNat := by
  unfold Exit.processExit
  rw [UInt32.toUInt32_toInt32, UInt32.toNat_toUInt8]
  omega

/-- The command line asks for a Git command to be relayed. -/
def Cli.Relays (cli : Cli) : Prop :=
  cli.subcommand = none ∧ cli.install = false ∧ cli.test = false

theorem status_eq_zero_iff (exitCode : AnvilError → UInt32) {code : UInt32}
    (small : code.toNat ≤ 255) : Exit.gitwayMain exitCode (.ok code) = 0 ↔ code = 0 := by
  have same : (Exit.gitwayMain exitCode (.ok code)).toNat = code.toNat := processExit_small small
  rw [← UInt8.toNat_inj, same, ← UInt32.toNat_inj]
  rfl

section
variable {Ne Ag Va Te : Type}

/-- The command reports no failure. Its code fits into a byte, and is other than zero exactly
when the command has one of its own to end with. -/
structure Coded (own : Process Ne Ag Va Te → Prop) (x : Command Ne Ag Va Te UInt32) : Prop where
  silent : Silent x
  small : Returns (fun code => code.toNat ≤ 255) x
  nonzero : ∀ p, Yields (fun code => code ≠ 0) x p ↔ own p

theorem Coded.of_ends {x : Command Ne Ag Va Te UInt32}
    (ends : Ends Process.failures (fun code => code = 0) x) : Coded (fun _ => False) x where
  silent := ends.keeps
  small p code q returned := by
    rw [ends.returns p code q returned]
    decide
  nonzero p := iff_false_intro (ends.returns.not_yields p)

/-- A command whose code is a number, as the process returns it. -/
theorem Coded.ofNat {own : Process Ne Ag Va Te → Prop} {x : Command Ne Ag Va Te Nat}
    (silent : Silent x) (small : Returns (fun code => code ≤ 255) x)
    (nonzero : ∀ p, Yields (fun code => code ≠ 0) x p ↔ own p) :
    Coded own (UInt32.ofNat <$> x) where
  silent := Keeps.map _ silent
  small := by
    rw [map_eq_pure_bind]
    exact Returns.bind_of small fun code fits => Returns.pure (ofNat_small fits)
  nonzero p := by
    rw [yields_map_iff, ← nonzero p]
    constructor
    · rintro ⟨code, q, ran, named⟩
      exact ⟨code, q, ran, fun zero => named ((ofNat_eq_zero_iff (small p code q ran)).mpr zero)⟩
    · rintro ⟨code, q, ran, named⟩
      exact ⟨code, q, ran, fun zero => named ((ofNat_eq_zero_iff (small p code q ran)).mp zero)⟩

theorem Coded.exitWith {own : World Ag Va Te → Prop} {x : Program Ag Va Te Nat}
    (mild : Program.Mild x) (small : Returns (fun code => code ≤ 255) x)
    (nonzero : ∀ w, Yields (fun code => code ≠ 0) x w ↔ own w) :
    Coded (fun p => own p.world) (exitWith x : Command Ne Ag Va Te UInt32) := by
  refine Coded.ofNat (silent_onWorld mild) ?_ fun p => ?_
  · intro p code q returned
    simp only [onWorld_run, Prod.mk.injEq] at returned
    exact small p.world code _ (Prod.ext returned.1 rfl)
  · rw [yields_onWorld_iff, nonzero p.world]

/-- A program that returns nothing but zero. -/
theorem Coded.plain {x : Program Ag Va Te Nat} (plain : Plain x) :
    Coded (fun _ => False) (Gitway.exitWith x : Command Ne Ag Va Te UInt32) := by
  have small : Returns (fun code => code ≤ 255) x := by
    intro w code v returned
    rw [plain.returns w code v returned]
    exact Nat.zero_le _
  have never (w : World Ag Va Te) : Yields (fun code => code ≠ 0) x w ↔ False :=
    iff_false_intro (plain.returns.not_yields w)
  exact Coded.exitWith plain.keeps small never

end

variable {Ne Ag Va Te Co : Type} (An B Hk Priv : Type) {Pub Signers : Type} [Anvil An]
  [Transport.ConfigBuilder B] [Hosts.KnownHosts Hk] [PublicKey Pub] [PrivateKey Priv Pub]
  [Biometric.BiometricBackend Va] [Terminal Te] (sys : Platform Ne Ag)

/-- The command ends with a code of its own: a host is not added for want of consent, or the
keystore does not do all that it is told. -/
def OwnCode (subcommand : GitwaySubcommand) (mode : OutputMode) (p : Process Ne Ag Va Te) :
    Prop :=
  match subcommand with
  | .hosts (.add args) => Hosts.AddRefused Hk sys.session B sys.tempdir args mode p
  | .biometric (.enroll args) => Biometric.EnrollFails Priv args mode p.world
  | .biometric (.forget args) => Biometric.ForgetFails Priv args p.world
  | .biometric .list => ∃ e, (Biometric.BiometricBackend.list p.world.vault).1 = .error e
  | _ => False

theorem coded_hosts (command : Hosts.HostsSubcommand) (mode : OutputMode) :
    Coded (OwnCode B Hk Priv sys (.hosts command) mode)
      (UInt32.ofNat <$> Hosts.run Hk sys.session B sys.tempdir command mode :
        Command Ne Ag Va Te UInt32) := by
  cases command with
  | add args =>
    exact Coded.ofNat (silent_runAddHost Hk sys.session B sys.tempdir args mode)
      (Hosts.returns_runAdd Hk sys.session B sys.tempdir args mode)
      (Hosts.runAdd_nonzero_iff Hk sys.session B sys.tempdir args mode)
  | revoke args => exact Coded.plain (plain_runRevoke Hk args mode)
  | list args => exact Coded.plain (plain_runListHosts Hk args mode)

theorem coded_biometric (command : Biometric.BiometricSubcommand) (mode : OutputMode) :
    Coded (OwnCode B Hk Priv sys (.biometric command) mode)
      (exitWith (Biometric.run Priv command mode) : Command Ne Ag Va Te UInt32) := by
  cases command with
  | enroll args =>
    exact Coded.exitWith (mild_runEnroll Priv args mode)
      (Biometric.returns_runEnroll Priv args mode) (Biometric.runEnroll_nonzero_iff Priv args mode)
  | forget args =>
    exact Coded.exitWith (mild_runForget Priv args mode)
      (Biometric.returns_runForget Priv args mode) (Biometric.runForget_nonzero_iff Priv args mode)
  | list =>
    exact Coded.exitWith (mild_runListEnrolled mode) (Biometric.returns_runList mode)
      (Biometric.runList_nonzero_iff mode)
  | status => exact Coded.plain (plain_runStatus mode)

section
variable [SshConfig Co]

omit [Biometric.BiometricBackend Va] [Terminal Te] in
theorem silent_resolveHost (files : Co) (opts : Transport.Options) :
    Silent (resolveHost An sys files opts :
      Command Ne Ag Va Te (Option Config.ResolvedSshConfig)) := by
  unfold resolveHost
  cases opts.lookup with
  | none => exact Keeps.pure _
  | some host =>
    apply Keeps.bind (silent_onWorld (Keeps.query _))
    intro env
    split
    · exact Keeps.pure _
    split
    · exact Keeps.bind (silent_eprintln _) fun _ => Keeps.pure _
    · exact Keeps.pure _

theorem silent_runTransport (files : Co) (opts : Transport.Options) (mode : OutputMode) :
    Silent (runTransport An B Priv sys files opts mode : Command Ne Ag Va Te UInt32) := by
  apply Keeps.bind (silent_resolveHost An sys files opts)
  intro resolved
  apply Keeps.bind (Keeps.query _)
  intro request
  split
  · exact (ends_runTest Priv sys.session An request mode).keeps
  split
  · exact Keeps.fail _
  · exact silent_runExec Priv sys.session request opts.command

/-- A test ends with zero or with an error. -/
theorem coded_runTransport (files : Co) {opts : Transport.Options} (test : opts.test = true)
    (mode : OutputMode) :
    Coded (fun _ => False)
      (runTransport An B Priv sys files opts mode : Command Ne Ag Va Te UInt32) := by
  apply Coded.of_ends
  apply Ends.bind (silent_resolveHost An sys files opts)
  intro resolved
  apply Ends.bind (Keeps.query _)
  intro request
  rw [if_pos test]
  exact ends_runTest Priv sys.session An request mode

end

section
variable [Keygen.KeyDetails Pub] [Keygen.Writer Priv] [Keygen.Signatures Priv Signers]

theorem coded_keygen (command : KeygenSubcommand) (mode : OutputMode) :
    Coded (fun _ => False) (runKeygen Priv sys command mode : Command Ne Ag Va Te UInt32) := by
  cases command with
  | generate args => exact Coded.plain (plain_runGenerate Priv args mode)
  | fingerprint args => exact Coded.plain (plain_runFingerprint Priv args mode)
  | extractPublic args => exact Coded.plain (plain_runExtractPublic Priv args mode)
  | changePassphrase args => exact Coded.plain (plain_runChangePassphrase Priv args mode)
  | sign args => exact Coded.of_ends (ends_sign Priv sys.session args mode)
  | verify args => exact Coded.plain (plain_runVerify Priv args mode)

variable [Agent Ag Priv Pub] [Agent.AgentAdmin Ag Pub] [SshConfig Co]

theorem coded_runSubcommand (files : Co) (subcommand : GitwaySubcommand) (mode : OutputMode) :
    Coded (OwnCode B Hk Priv sys subcommand mode)
      (runSubcommand An B Hk Priv sys files subcommand mode : Command Ne Ag Va Te UInt32) := by
  cases subcommand with
  | «schema» => exact Coded.plain plain_runSchema
  | describe => exact Coded.plain plain_runDescribe
  | keygen command => exact coded_keygen Priv sys command mode
  | sign args => exact Coded.of_ends (ends_sign Priv sys.session args mode)
  | agent command => exact Coded.plain (plain_agent sys.processes command mode)
  | config command => exact Coded.plain (plain_config An files command mode)
  | listAlgorithms => exact Coded.plain (plain_runListAlgorithms sys.allSupported mode)
  | hosts command => exact coded_hosts B Hk Priv sys command mode
  | biometric command => exact coded_biometric B Hk Priv sys command mode

/-! ### The whole dispatch -/

theorem silent_run (files : Co) (cli : Cli) (stdoutIsTerminal : Bool) :
    Silent (run An B Hk Priv sys files cli stdoutIsTerminal : Command Ne Ag Va Te UInt32) := by
  intro p
  cases given : cli.subcommand with
  | some subcommand =>
    rw [run_subcommand An B Hk Priv sys files cli stdoutIsTerminal p given]
    exact (coded_runSubcommand An B Hk Priv sys files subcommand _).silent p
  | none =>
    cases install : cli.install with
    | true =>
      rw [run_install An B Hk Priv sys files cli stdoutIsTerminal p given install]
      exact (Coded.plain (plain_runInstall sys _)).silent p
    | false =>
      rw [run_transport An B Hk Priv sys files cli stdoutIsTerminal p given install]
      exact silent_runTransport An B Priv sys files cli.toOptions _ p

/-- Where no Git command is relayed, a run is one of a command whose codes are known. -/
theorem run_coded (files : Co) {cli : Cli} (own : ¬ cli.Relays) (stdoutIsTerminal : Bool)
    (p : Process Ne Ag Va Te) :
    ∃ x, run An B Hk Priv sys files cli stdoutIsTerminal p = x p ∧
      Coded (fun p' => ∃ subcommand ∈ cli.subcommand, OwnCode B Hk Priv sys subcommand
        (detectOutputMode cli p.world.env stdoutIsTerminal true) p') x := by
  cases given : cli.subcommand with
  | some subcommand =>
    refine ⟨_, run_subcommand An B Hk Priv sys files cli stdoutIsTerminal p given, ?_⟩
    simpa using coded_runSubcommand An B Hk Priv sys files subcommand _
  | none =>
    cases install : cli.install with
    | true =>
      refine ⟨_, run_install An B Hk Priv sys files cli stdoutIsTerminal p given install, ?_⟩
      simpa using Coded.plain (plain_runInstall sys _)
    | false =>
      refine ⟨_, run_transport An B Hk Priv sys files cli stdoutIsTerminal p given install, ?_⟩
      have test : cli.test = true := by
        cases tested : cli.test with
        | true => rfl
        | false => exact absurd ⟨given, install, tested⟩ own
      simpa using coded_runTransport An B Priv sys files test _

theorem run_nonzero_iff (files : Co) {cli : Cli} (own : ¬ cli.Relays) (stdoutIsTerminal : Bool)
    (p : Process Ne Ag Va Te) :
    Yields (fun code => code ≠ 0) (run An B Hk Priv sys files cli stdoutIsTerminal) p ↔
      ∃ subcommand ∈ cli.subcommand, OwnCode B Hk Priv sys subcommand
        (detectOutputMode cli p.world.env stdoutIsTerminal true) p := by
  obtain ⟨x, same, coded⟩ := run_coded An B Hk Priv sys files own stdoutIsTerminal p
  rw [← coded.nonzero p, Yields, Yields, same]

theorem run_small {files : Co} {cli : Cli} (own : ¬ cli.Relays) {stdoutIsTerminal : Bool}
    {p q : Process Ne Ag Va Te} {code : UInt32}
    (ran : run An B Hk Priv sys files cli stdoutIsTerminal p = (.ok code, q)) :
    code.toNat ≤ 255 := by
  obtain ⟨x, same, coded⟩ := run_coded An B Hk Priv sys files own stdoutIsTerminal p
  exact coded.small p code q (same.symm.trans ran)

end

/-! ### The end of a run -/

/-- One failure is reported: in JSON by an envelope with the status, to a human by a line. -/
def ReportedOnce (errorMode : OutputMode) (status : UInt8) (q : Process Ne Ag Va Te) : Prop :=
  match errorMode with
  | .json => q.envelopes = [(status.toNat : Int)]
  | .human => q.diagLines = 1

omit [Biometric.BiometricBackend Va] [Terminal Te] in
/-- Where nothing was reported before, the report of an error is the only one. -/
theorem reportError_once (documented : Biometric.Documented (exitCode An)) {errorMode : OutputMode}
    {invocation : String} {configSources : List Config.OsPath} {e : AnvilError}
    {q : Process Ne Ag Va Te} (silent : q.failures = ([], 0)) :
    ReportedOnce errorMode (Exit.gitwayMain (exitCode An) (.error e))
      (reportError An errorMode invocation configSources e q).2 := by
  simp only [Process.failures, Prod.mk.injEq] at silent
  obtain ⟨envelopes, lines⟩ := silent
  cases errorMode with
  | json =>
    have small := documented e
    have status : (Exit.gitwayMain (exitCode An) (.error e)).toNat = (exitCode An e).toNat :=
      processExit_small (show (exitCode An e).toNat ≤ 255 by omega)
    have reported : (reportError An .json invocation configSources e q).2 =
        { q with reports := q.reports ++ [.json (errorJson An q.world.env invocation e)] } := rfl
    simp only [Process.envelopes, List.append_eq_nil_iff] at envelopes
    simp only [ReportedOnce, reported, status, Process.envelopes, envelopes,
      List.filterMap_append, List.filterMap_cons, Report.errorEnvelope, errorEnvelope_errorJson]
    rfl
  | human =>
    have reported : (reportError An .human invocation configSources e q).2.reports =
        q.reports ++ [.diag e configSources] := rfl
    simp only [Process.diagLines] at lines
    simp [ReportedOnce, Process.diagLines, reported, lines, Report.isDiag]

omit [Biometric.BiometricBackend Va] [Terminal Te] in
theorem not_reportedOnce {errorMode : OutputMode} {status : UInt8} {q : Process Ne Ag Va Te}
    (silent : q.failures = ([], 0)) : ¬ ReportedOnce errorMode status q := by
  simp only [Process.failures, Prod.mk.injEq] at silent
  cases errorMode with
  | json => simp [ReportedOnce, silent.1]
  | human => simp [ReportedOnce, silent.2]

section
variable [Keygen.KeyDetails Pub] [Keygen.Writer Priv] [Keygen.Signatures Priv Signers]
  [Agent Ag Priv Pub] [Agent.AgentAdmin Ag Pub] [SshConfig Co]

/-- The status is the one with which a remote command ended. -/
structure Forwarded (files : Co) (inv : Invocation) (cli : Cli) (p : Process Ne Ag Va Te) :
    Prop where
  unicode : inv.argv.any (fun arg => !arg.isUnicode) = false
  relays : cli.Relays
  ended : ∃ code q, run An B Hk Priv sys files cli inv.stdoutIsTerminal p = (.ok code, q)

/-- A status other than zero is reported, unless a remote command ended with it. Where the
command line is not understood there is no mode to go by, and either will do. -/
def ReportsFailure (files : Co) (inv : Invocation) (p : Process Ne Ag Va Te) : Prop :=
  let ended := main An B Hk Priv sys files inv p
  ended.1 ≠ 0 →
    match sys.parse inv.argv with
    | .error _ => ∃ errorMode, ReportedOnce errorMode ended.1 ended.2
    | .ok cli => ¬ Forwarded An B Hk Priv sys files inv cli p →
      ReportedOnce (detectOutputMode cli p.world.env inv.stdoutIsTerminal false) ended.1 ended.2

end

/-- The command line is understood and is Unicode, and its command does not end with a code
of its own. -/
def SelfReporting (inv : Invocation) (p : Process Ne Ag Va Te) : Prop :=
  match sys.parse inv.argv with
  | .error exit => exit.status = 0
  | .ok cli =>
    inv.argv.any (fun arg => !arg.isUnicode) = false ∧
    ∀ subcommand ∈ cli.subcommand, ¬ OwnCode B Hk Priv sys subcommand
      (detectOutputMode cli p.world.env inv.stdoutIsTerminal true) p

section
variable [Keygen.KeyDetails Pub] [Keygen.Writer Priv] [Keygen.Signatures Priv Signers]
  [Agent Ag Priv Pub] [Agent.AgentAdmin Ag Pub] [SshConfig Co]

/-- Behind a command line that is Unicode, the end of a run reports all failures but those
for which a command has a code. -/
theorem finish_reports_iff (documented : Biometric.Documented (exitCode An)) {files : Co}
    {inv : Invocation} {cli : Cli} {p : Process Ne Ag Va Te} (fresh : p.failures = ([], 0))
    (unicode : inv.argv.any (fun arg => !arg.isUnicode) = false) {errorMode : OutputMode}
    {invocation : String} {configSources : List Config.OsPath} :
    let ended := finish An errorMode invocation configSources
      (run An B Hk Priv sys files cli inv.stdoutIsTerminal p)
    (ended.1 ≠ 0 → ¬ Forwarded An B Hk Priv sys files inv cli p →
        ReportedOnce errorMode ended.1 ended.2) ↔
      ∀ subcommand ∈ cli.subcommand, ¬ OwnCode B Hk Priv sys subcommand
        (detectOutputMode cli p.world.env inv.stdoutIsTerminal true) p := by
  have kept := silent_run An B Hk Priv sys files cli inv.stdoutIsTerminal p
  rw [fresh] at kept
  -- A command with a code of its own is no relay, and returns that code.
  have returning (subcommand : GitwaySubcommand) (given : subcommand ∈ cli.subcommand)
      (named : OwnCode B Hk Priv sys subcommand
        (detectOutputMode cli p.world.env inv.stdoutIsTerminal true) p) :
      ¬ cli.Relays ∧ Yields (fun code => code ≠ 0)
        (run An B Hk Priv sys files cli inv.stdoutIsTerminal) p := by
    have own : ¬ cli.Relays := fun relays => by simp [relays.1] at given
    exact ⟨own, (run_nonzero_iff An B Hk Priv sys files own inv.stdoutIsTerminal p).mpr
      ⟨subcommand, given, named⟩⟩
  cases ran : run An B Hk Priv sys files cli inv.stdoutIsTerminal p with
  | mk result q =>
    rw [ran] at kept
    cases result with
    | error e =>
      refine iff_of_true (fun _ _ => reportError_once An documented kept) ?_
      intro subcommand given named
      obtain ⟨_, code, q', returned, _⟩ := returning subcommand given named
      simp [ran] at returned
    | ok code =>
      constructor
      · intro reports subcommand given named
        obtain ⟨own, code', q', returned, failed⟩ := returning subcommand given named
        obtain ⟨rfl, rfl⟩ : code = code' ∧ q = q' := by simpa [ran] using returned
        have status := status_eq_zero_iff (exitCode An) (run_small An B Hk Priv sys own ran)
        exact not_reportedOnce kept (reports (fun zero => failed (status.mp zero))
          fun forwarded => own forwarded.relays)
      · intro clean failed forwarded
        have own : ¬ cli.Relays := fun relays => forwarded ⟨unicode, relays, code, q, ran⟩
        have zero : code = 0 := by
          by_contra named
          obtain ⟨subcommand, given, owns⟩ :=
            (run_nonzero_iff An B Hk Priv sys files own inv.stdoutIsTerminal p).mp
              ⟨code, q, ran, named⟩
          exact clean subcommand given owns
        have status := status_eq_zero_iff (exitCode An) (run_small An B Hk Priv sys own ran)
        exact absurd (status.mpr zero) failed

/-- A failure is reported exactly when no command had a code of its own to end with. -/
theorem reports_failure_iff (documented : Biometric.Documented (exitCode An)) (files : Co)
    (inv : Invocation) {p : Process Ne Ag Va Te} (fresh : p.failures = ([], 0)) :
    ReportsFailure An B Hk Priv sys files inv p ↔ SelfReporting B Hk Priv sys inv p := by
  unfold ReportsFailure SelfReporting main
  cases parsed : sys.parse inv.argv with
  | error exit =>
    dsimp only
    constructor
    · intro reports
      by_contra failed
      obtain ⟨errorMode, reported⟩ := reports failed
      exact not_reportedOnce ((failures_say p _ _).trans fresh) reported
    · exact fun zero failed => absurd zero failed
  | ok cli =>
    dsimp only
    cases unicode : inv.argv.any (fun arg => !arg.isUnicode) with
    | true =>
      simp only [if_true, reduceCtorEq, false_and, iff_false]
      intro reports
      refine not_reportedOnce ((failures_say p _ _).trans fresh)
        (reports (by decide) fun forwarded => ?_)
      simp [forwarded.unicode] at unicode
    | false =>
      simp only [Bool.false_eq_true, if_false, true_and]
      exact finish_reports_iff An B Hk Priv sys documented fresh unicode

end

/-! ### Adding a host -/

open Reference

theorem documented_errorText : Biometric.Documented (exitCode RefAnvil) := by
  intro e
  induction e with
  | withHint e hint ih => exact ih
  | invalidConfig message => exact show (2 : UInt32).toNat ≤ 4 by decide
  | noKeyFound => exact show (3 : UInt32).toNat ≤ 4 by decide
  | signing message => exact show (1 : UInt32).toNat ≤ 4 by decide
  | authenticationFailed => exact show (4 : UInt32).toNat ≤ 4 by decide
  | io e => exact show (1 : UInt32).toNat ≤ 4 by decide
  | other code message => exact show (1 : UInt32).toNat ≤ 4 by decide

private def noFiles : RefFiles := ⟨none, none⟩

private def unasked : Invocation :=
  ⟨argv ["gitway", "--json", "hosts", "add", "github.com"], true⟩

private def toldYes : Invocation :=
  ⟨argv ["gitway", "--json", "hosts", "add", "--yes", "github.com"], true⟩

theorem told_yes_reports :
    ReportsFailure RefAnvil Transport.AnvilConfig Hosts.RefHostKeys RefPrivate machine noFiles
      toldYes started := by
  refine (reports_failure_iff RefAnvil Transport.AnvilConfig Hosts.RefHostKeys RefPrivate machine
    documented_errorText noFiles toldYes rfl).mpr ⟨rfl, fun subcommand given refused => ?_⟩
  obtain rfl : .hosts (.add ⟨"github.com", none, false, false, true⟩) = subcommand :=
    Option.some.inj given
  exact absurd refused.2.2.1 (by decide)

/-- Without `--yes`, a host is not added, the status is 78, and there is no error envelope. -/
theorem unasked_unreported :
    started.failures = ([], 0) ∧
      (main RefAnvil Transport.AnvilConfig Hosts.RefHostKeys RefPrivate machine noFiles unasked
        started).1 = 78 ∧
      ¬ ReportsFailure RefAnvil Transport.AnvilConfig Hosts.RefHostKeys RefPrivate machine noFiles
        unasked started := by
  refine ⟨rfl, rfl, fun reports => ?_⟩
  refine not_reportedOnce ?_ (reports (by decide) fun forwarded => ?_)
  · rfl
  · exact absurd forwarded.relays.1 (by simp [bareCli])

end Gitway
