import Gitway.Contract

/-!
# What a run touches and prints

For every command line there is a list of the parts that a run of it may change, and a form
that its standard output has. Both hold of the run with any outcome.
-/
namespace Gitway

open Lib Lib.Fallible Program

/-! ### The table -/

def KeygenSubcommand.parts : KeygenSubcommand → List Part
  | .generate _ | .changePassphrase _ => [.files, .vault, .terminal, .stderr]
  | .fingerprint _ => []
  | .extractPublic _ => [.files, .stderr]
  | .sign _ => [.files, .vault, .terminal, .stdin, .stderr, .reports]
  | .verify _ => [.stdin]

def Agent.AgentSubcommand.parts : Agent.AgentSubcommand → List Part
  | .add _ => [.agent, .vault, .terminal, .stderr]
  | .list _ => [.stderr]
  | .remove _ => [.agent, .stderr]
  | .lock _ | .unlock _ => [.agent, .terminal, .stderr]
  | .start _ => [.env, .files]
  | .stop _ => [.files, .signals, .stderr]

def Hosts.HostsSubcommand.parts : Hosts.HostsSubcommand → List Part
  | .add _ => [.files, .stdin, .stderr, .network, .calls]
  | .revoke _ => [.files, .stderr]
  | .list _ => []

def Biometric.BiometricSubcommand.parts : Biometric.BiometricSubcommand → List Part
  | .enroll _ => [.vault, .terminal, .stderr]
  | .forget _ | .list => [.vault, .stderr]
  | .status => [.vault]

def GitwaySubcommand.parts : GitwaySubcommand → List Part
  | .schema | .describe | .listAlgorithms => []
  | .keygen command => command.parts
  | .sign args => (KeygenSubcommand.sign args).parts
  | .agent command => command.parts
  | .config _ => [.stderr]
  | .hosts command => command.parts
  | .biometric command => command.parts

/-- What a run may change beside standard output. -/
def Cli.parts (cli : Cli) : List Part :=
  match cli.subcommand with
  | some command => command.parts
  | none =>
    if cli.install then [.files, .stderr] else if cli.test then sessionParts else relayParts

/-- The forms of standard output. -/
inductive Speech where
  /-- A document in either mode. -/
  | document
  /-- A document, where JSON is asked for, or else words. With one of the codes that are told
  alone there is no document. -/
  | answer (told : List UInt32)
  | test
  /-- What is written for a shell or a file. -/
  | script
  /-- What the remote command writes, and nothing of our own. -/
  | relay (said : ByteArray → Prop)

def GitwaySubcommand.speech : GitwaySubcommand → Speech
  | .schema | .describe => .document
  | .keygen (.sign _) | .sign _ | .agent (.start _) => .script
  | .hosts (.add _) => .answer [73, 78]
  | _ => .answer []

def Cli.speech {Ne Ag : Type} (sys : Platform Ne Ag) (cli : Cli) : Speech :=
  match cli.subcommand with
  | some command => command.speech
  | none =>
    if cli.install then .answer []
    else if cli.test then .test
    else .relay (sys.session.Says (" ".intercalate cli.command))

/-- What the outcome of a run says about the piece that it adds to standard output. -/
def Speech.Fits (mode : OutputMode) (r : Except AnvilError UInt32) (piece : List Emitted) :
    Speech → Prop
  | .document => ∃ v, r = .ok 0 ∧ v.Versioned ∧ piece = [.json v]
  | .answer told => Speaks (· ∈ told) mode r piece
  | .test => Tested mode r piece
  | .script => ∀ item ∈ piece, item.Plain
  | .relay said => piece = [] ∨ ∃ bytes, said bytes ∧ piece = [.bytes bytes]

variable {Ne Ag Va Te : Type}

/-- A command touches what it may, and its standard output has its form. -/
structure Obeys (parts : List Part) (speech : Speech) (mode : OutputMode)
    (x : Command Ne Ag Va Te UInt32) : Prop where
  touches : Command.Touches (.stdout :: parts) x
  fits : Logs (fun p => p.world.stdout) (fun r piece => speech.Fits mode r piece) x

section
variable {parts : List Part} {mode : OutputMode}

theorem Obeys.of_answers {told : List UInt32} {x : Command Ne Ag Va Te UInt32}
    (answers : Command.Answers (· ∈ told) parts mode x) : Obeys parts (.answer told) mode x :=
  ⟨answers.touches, answers.speaks⟩

theorem Obeys.answered {x : Program Ag Va Te Nat}
    (answers : Answers (fun _ => False) parts mode x) :
    Obeys parts (.answer []) mode (exitWith x : Command Ne Ag Va Te UInt32) :=
  Obeys.of_answers (Command.Answers.exitWith answers fun _ never => never.elim)

theorem Obeys.document {v : Json} (versioned : v.Versioned) :
    Obeys parts .document mode
      (exitWith (emitJson v >>= fun _ => pure 0) : Command Ne Ag Va Te UInt32) where
  touches := Moves.map _ (Command.touches_onWorld
    (Moves.bind (touches_emitJson List.mem_cons_self v) fun _ => Moves.pure 0))
  fits _ := ⟨[.json v], rfl, v, rfl, versioned, rfl⟩

theorem Obeys.script {x : Command Ne Ag Va Te UInt32}
    (touches : Command.Touches (.stdout :: parts) x)
    (plain : Writes (fun p : Process Ne Ag Va Te => p.world.stdout) Emitted.Plain x) :
    Obeys parts .script mode x :=
  ⟨touches, plain⟩

/-- A failure that came before anything was printed fits every form but that of a document. -/
theorem Speech.fits_failed {speech : Speech} (fallible : speech ≠ .document) (mode : OutputMode)
    (e : AnvilError) : speech.Fits mode (.error e) [] := by
  cases speech with
  | document => exact absurd rfl fallible
  | answer told => exact speaks_failed _ mode e
  | test => exact tested_failed mode e
  | script => simp [Speech.Fits]
  | relay said => exact Or.inl rfl

/-- A step that prints nothing comes first. -/
theorem Obeys.bind {α : Type} {parts' : List Part} {speech : Speech} {x : Command Ne Ag Va Te α}
    {f : α → Command Ne Ag Va Te UInt32} (first : Command.Touches parts' x)
    (listed : ∀ part ∈ parts', part ∈ parts) (quiet : .stdout ∉ parts')
    (fallible : speech ≠ .document) (rest : ∀ a, Obeys parts speech mode (f a)) :
    Obeys parts speech mode (x >>= f) where
  touches := Moves.bind (first.widen fun part member => List.mem_cons_of_mem _ (listed part member))
    fun a => (rest a).touches
  fits := Logs.bind_ends ⟨fun p => ((first p).world).stdout quiet,
    fun _ _ _ _ => (trivial : True)⟩ (Speech.fits_failed fallible mode) fun a _ => (rest a).fits

end

theorem Command.writes_onWorld {α : Type} {P : Emitted → Prop} {x : Program Ag Va Te α}
    (writes : Writes World.stdout P x) :
    Writes (fun p : Process Ne Ag Va Te => p.world.stdout) P (Command.onWorld x) :=
  fun p => writes p.world

/-! ### Signatures -/

section
variable (Priv : Type) {Pub Signers : Type} [PublicKey Pub] [PrivateKey Priv Pub]
  [Keygen.Signatures Priv Signers] [BiometricVault Va] [Terminal Te]
  (an : Transport.AnvilSession Ne Ag)

omit [BiometricVault Va] [Terminal Te] in
theorem touches_resolveKeyPath (explicit : Option String) :
    Command.Touches [] (Sign.resolveKeyPath an explicit : Command Ne Ag Va Te String) := by
  cases explicit with
  | some path => exact Moves.pure path
  | none =>
    refine Moves.bind (Moves.query _) ?_
    intro identity
    cases identity with
    | found path => exact Moves.pure path
    | encrypted path => exact Moves.pure path
    | notFound => exact Moves.fail _

theorem touches_loadAndDecrypt (path : String) :
    Touches [.vault, .terminal, .stderr]
      (Sign.loadAndDecrypt Priv path : Program Ag Va Te Priv) := by
  refine Moves.bind (Moves.query _) ?_
  intro pem
  refine Moves.bind (Moves.query _) ?_
  intro key
  split
  · exact Moves.pure key
  · exact Moves.bind (touches_promptPassphrase Priv path) fun _ => Moves.query _

omit [BiometricVault Va] [Terminal Te] in
theorem wordy_writeOutput (path : Option String) (bytes : ByteArray) :
    Wordy (Keygen.writeOutput path bytes : Program Ag Va Te Unit) := by
  have written : Wordy (writeStdout bytes : Program Ag Va Te Unit) := by
    intro w
    exact ⟨[.bytes bytes], rfl, by simp [Emitted.Plain]⟩
  cases path with
  | none => exact written
  | some p =>
    have filed : Touches [.files] (writeFile p bytes : Program Ag Va Te Unit) :=
      touches_writeFile (by decide) p bytes
    unfold Keygen.writeOutput
    dsimp only
    split
    · exact written
    · exact Writes.of_keeps (filed.quiet (by decide))

/-- The record of a signature is a report, so standard output has the signature alone. -/
theorem obeys_sign (args : Sign.SignArgs) (mode : OutputMode) :
    Obeys [.files, .vault, .terminal, .stdin, .stderr, .reports] .script mode
      (Sign.run Priv an args mode : Command Ne Ag Va Te UInt32) := by
  refine Obeys.bind (touches_resolveKeyPath an args.key) (by simp) (by simp) nofun ?_
  intro path
  refine Obeys.bind (Command.touches_onWorld (touches_loadAndDecrypt Priv path)) (by decide)
    (by decide) nofun ?_
  intro key
  refine Obeys.bind (Command.touches_onWorld (touches_openInput args.input)) (by decide)
    (by decide) nofun ?_
  intro reader
  refine Obeys.bind (Moves.query _ : Command.Touches [] _) (by simp) (by simp) nofun ?_
  intro armored
  have written : Command.Touches [.stdout, .files, .vault, .terminal, .stdin, .stderr, .reports]
      (Command.onWorld (Keygen.writeOutput args.output armored.toUTF8) :
        Command Ne Ag Va Te Unit) :=
    Command.touches_onWorld ((touches_writeOutput _ _).widen (by decide))
  have plain : Writes (fun p : Process Ne Ag Va Te => p.world.stdout) Emitted.Plain
      (Command.onWorld (Keygen.writeOutput args.output armored.toUTF8)) :=
    Command.writes_onWorld (wordy_writeOutput _ _)
  cases mode with
  | human =>
    exact Obeys.script (Moves.bind written fun _ => Moves.pure 0)
      (Writes.bind plain fun _ => Writes.pure 0)
  | json =>
    refine Obeys.script (Moves.bind written fun _ => Moves.bind (Moves.query _) fun env =>
      Moves.bind (Command.touches_report (by decide) _) fun _ => Moves.pure 0) ?_
    exact Writes.bind plain fun _ => Writes.of_keeps fun _ => rfl

end

/-! ### The lines for a shell -/

section
open Agent

theorem wordy_emitEval (socketPath : String) (pid : Nat) (bourne cshForced : Bool) :
    Wordy (emitEval socketPath pid bourne cshForced : Program Ag Va Te Unit) := by
  refine Writes.bind (Writes.of_keeps (Keeps.query _)) fun env => ?_
  dsimp only
  split
  · exact Writes.bind (wordy_println _) fun _ => Writes.bind (wordy_println _) fun _ =>
      wordy_println _
  · exact Writes.bind (wordy_println _) fun _ => Writes.bind (wordy_println _) fun _ =>
      wordy_println _

theorem wordy_runDaemonLoop (os : Processes) (args : AgentDaemonArgs) :
    Wordy (runDaemonLoop os args : Program Ag Va Te Nat) := by
  have serving (cfg : AgentDaemonConfig) : Wordy (do
      onFiles (os.daemon cfg)
      return 0 : Program Ag Va Te Nat) :=
    Writes.bind (Writes.of_keeps fun _ => rfl) fun _ => Writes.pure 0
  refine Writes.bind (Writes.of_keeps ((touches_rawSocketPath _).quiet (by decide))) ?_
  intro socketPath
  refine Writes.bind (Writes.of_keeps (Keeps.query _)) ?_
  intro env
  dsimp only
  split
  · exact Writes.bind (wordy_emitEval _ _ _ _) fun _ => serving _
  · exact serving _

theorem wordy_runBackgroundStart (os : Processes) (args : AgentStartArgs) :
    Wordy (runBackgroundStart os.currentExe os.spawnChild args : Program Ag Va Te Nat) := by
  have respawning (socketPath : String) (pidFile : Option String) :
      Wordy (respawn os.currentExe os.spawnChild args socketPath pidFile :
        Program Ag Va Te Nat) := by
    refine Writes.bind (Writes.of_keeps (Keeps.query _)) ?_
    intro exe
    refine Writes.bind (Writes.of_keeps fun _ => rfl) ?_
    intro child
    refine Writes.bind (Writes.of_keeps (Keeps.query _)) ?_
    intro pid
    refine Writes.bind (Writes.of_keeps (Keeps.query _)) ?_
    intro bound
    split
    · exact Writes.bind (wordy_emitEval _ _ _ _) fun _ => Writes.pure 0
    · exact Writes.of_keeps fun _ => rfl
  refine Writes.bind (Writes.of_keeps ((touches_rawSocketPath args).quiet (by decide))) ?_
  intro raw
  refine Writes.bind (Writes.of_keeps ((touches_absolutePath raw).quiet (by simp))) ?_
  intro socketPath
  refine Writes.bind (Writes.of_keeps ((touches_absolutePidFile args).quiet (by simp))) ?_
  intro pidFile
  refine Writes.bind (Writes.of_keeps (Keeps.query _)) ?_
  intro there
  split
  · exact Writes.of_keeps fun _ => rfl
  · exact respawning socketPath pidFile

theorem wordy_runStart (os : Processes) (args : AgentDaemonArgs) :
    Wordy (runStart os args : Program Ag Va Te Nat) := by
  refine Writes.bind (Writes.of_keeps (Keeps.query _)) ?_
  intro env
  dsimp only
  split
  · split
    · exact Writes.bind (Writes.of_keeps fun _ => rfl) fun _ => wordy_runDaemonLoop os args
    · exact wordy_runDaemonLoop os args
  · exact wordy_runBackgroundStart os _

theorem obeys_runStart (os : Processes) (args : AgentDaemonArgs) (mode : OutputMode) :
    Obeys [.env, .files] .script mode
      (exitWith (runStart os args) : Command Ne Ag Va Te UInt32) := by
  apply Obeys.script
  · exact Moves.map _ (Command.touches_onWorld ((touches_runStart os args).widen (by decide)))
  · intro p
    rw [exitWith_run]
    obtain ⟨piece, printed, plain⟩ := wordy_runStart os args p.world
    exact ⟨piece, printed, plain⟩

end

/-! ### Sessions -/

section
open Transport

/-- The host is asked for its key before anyone is asked for consent. -/
theorem obeys_runAddHost (Hk : Type) [Hosts.KnownHosts Hk] (an : AnvilSession Ne Ag) (B : Type)
    [ConfigBuilder B] (tempdir : FileSystem → Except String Config.OsPath)
    (args : Hosts.HostsAddArgs) (mode : OutputMode) :
    Obeys [.files, .stdin, .stderr, .network, .calls] (.answer [73, 78]) mode
      (UInt32.ofNat <$> Hosts.runAdd Hk an B tempdir args mode :
        Command Ne Ag Va Te UInt32) := by
  have probing : Command.Touches [.network, .calls]
      (Hosts.probe an B tempdir args.host : Command Ne Ag Va Te String) := by
    refine Moves.bind (Moves.query _) ?_
    intro probeDir
    refine Moves.bind (touches_inTempdir (touches_open an _ _)) ?_
    intro _
    refine Moves.bind (Moves.query _) ?_
    intro captured
    cases captured with
    | some fingerprint =>
      exact Moves.bind ((touches_close an).widen (by decide)) fun _ => Moves.pure _
    | none => exact Moves.fail _
  have told : ∀ code, Hosts.Refusal code → UInt32.ofNat code ∈ [73, 78] := by
    rintro code (rfl | rfl) <;> decide
  unfold Hosts.runAdd
  simp only [map_bind]
  refine Obeys.bind (Moves.query _ : Command.Touches [] _) (by simp) (by simp) nofun ?_
  intro path
  refine Obeys.bind probing (by decide) (by decide) nofun ?_
  intro fingerprint
  exact Obeys.of_answers (Command.Answers.exitWith ((answers_addProbed Hk args mode path
    fingerprint).widen (by decide)) told)

variable (An B Priv : Type) {Pub Co : Type} [Config.Anvil An] [ConfigBuilder B] [PublicKey Pub]
  [PrivateKey Priv Pub] [Biometric.BiometricBackend Va] [Terminal Te] [Config.SshConfig Co]
  (sys : Platform Ne Ag)

omit [Biometric.BiometricBackend Va] [Terminal Te] in
theorem touches_resolveHost (files : Co) (opts : Options) :
    Command.Touches [.stderr]
      (resolveHost An sys files opts : Command Ne Ag Va Te (Option Config.ResolvedSshConfig)) := by
  unfold resolveHost
  split
  · exact Moves.pure none
  refine Moves.bind (Moves.query _) ?_
  intro env
  split
  · exact Moves.pure _
  split
  · exact Moves.bind (Command.touches_onWorld (touches_eprintln (by decide) _)) fun _ =>
      Moves.pure none
  · exact Moves.pure none

omit [Biometric.BiometricBackend Va] [Terminal Te] in
/-- The relay adds what the command writes, whatever its status and that of closing. -/
theorem obeys_relayed (an : AnvilSession Ne Ag) (command : String) (mode : OutputMode) :
    Obeys relayParts (.relay (an.Says command)) mode
      (Command.relay (an.exec command) >>= fun exitCode => close an >>= fun _ => pure exitCode :
        Command Ne Ag Va Te UInt32) where
  touches := touches_relayed an command
  fits := by
    have closing (exitCode : UInt32) :
        Logs (fun p : Process Ne Ag Va Te => p.world.stdout) (fun _ piece => piece = [])
          (close an >>= fun _ => pure exitCode : Command Ne Ag Va Te UInt32) :=
      Logs.of_keeps (Keeps.bind (fun _ => rfl) fun _ => Keeps.pure _)
    have relaying : Logs (fun p : Process Ne Ag Va Te => p.world.stdout)
        (fun _ piece => ∃ bytes, an.Says command bytes ∧ piece = [.bytes bytes])
        (Command.relay (an.exec command) : Command Ne Ag Va Te UInt32) :=
      fun p => ⟨_, rfl, _, ⟨p.world.stdin, p.net, rfl⟩, rfl⟩
    apply Logs.bind relaying
    · exact fun e piece said => Or.inr said
    · rintro exitCode piece ⟨bytes, said, rfl⟩
      apply (closing exitCode).mono
      rintro r later rfl
      exact Or.inr ⟨bytes, said, rfl⟩

theorem obeys_runExec (an : AnvilSession Ne Ag) (r : Request) (commandParts : List String)
    (mode : OutputMode) :
    Obeys relayParts (.relay (an.Says (" ".intercalate commandParts))) mode
      (runExec Priv an r commandParts : Command Ne Ag Va Te UInt32) := by
  let command := " ".intercalate commandParts
  have relayed : Obeys relayParts (.relay (an.Says command)) mode
      (Command.relay (an.exec command) >>= fun exitCode => close an >>= fun _ => pure exitCode :
        Command Ne Ag Va Te UInt32) := obeys_relayed an command mode
  unfold runExec
  refine Obeys.bind (touches_maybeCollectPassphrase Priv an r.config) (by decide) (by decide)
    nofun ?_
  intro prePassphrase
  refine Obeys.bind (touches_open an r.config _) (by decide) (by decide) nofun ?_
  intro _
  cases prePassphrase with
  | none =>
    exact Obeys.bind (touches_authenticateWithPrompt Priv an r.config) (by decide) (by decide)
      nofun fun _ => relayed
  | some pair =>
    exact Obeys.bind (touches_authenticateWithPassphrase an r.config pair.2 pair.1) (by decide)
      (by decide) nofun fun _ => relayed

/-- What a connection is made for tells the parts and the form. -/
theorem obeys_runTransport (files : Co) (opts : Options) (mode : OutputMode) :
    Obeys (if opts.test then sessionParts else relayParts)
      (if opts.test then .test else .relay (sys.session.Says (" ".intercalate opts.command))) mode
      (runTransport An B Priv sys files opts mode : Command Ne Ag Va Te UInt32) := by
  cases test : opts.test with
  | true =>
    simp only [if_true]
    refine Obeys.bind (touches_resolveHost An sys files opts) (by decide) (by decide) nofun ?_
    intro resolved
    refine Obeys.bind (Moves.query _ : Command.Touches [] _) (by simp) (by simp) nofun ?_
    intro request
    rw [test]
    have tests : Tests mode (runTest Priv sys.session An request mode :
        Command Ne Ag Va Te UInt32) := tests_runTest sys.session An Priv request mode
    exact ⟨tests.touches, tests.speaks⟩
  | false =>
    simp only [Bool.false_eq_true, if_false]
    refine Obeys.bind (touches_resolveHost An sys files opts) (by decide) (by decide) nofun ?_
    intro resolved
    refine Obeys.bind (Moves.query _ : Command.Touches [] _) (by simp) (by simp) nofun ?_
    intro request
    rw [test]
    simp only [Bool.false_eq_true, if_false]
    split
    · exact ⟨Moves.fail _, Logs.fail (Or.inl rfl)⟩
    · exact obeys_runExec Priv sys.session request opts.command mode

end

/-! ### Whole runs -/

section
variable (An B Hk Priv : Type) {Pub Signers Co : Type} [Config.Anvil An]
  [Transport.ConfigBuilder B] [Hosts.KnownHosts Hk] [PublicKey Pub] [PrivateKey Priv Pub]
  [Keygen.KeyDetails Pub] [Keygen.Writer Priv] [Keygen.Signatures Priv Signers]
  [Biometric.BiometricBackend Va] [Terminal Te]

theorem obeys_runKeygen (sys : Platform Ne Ag) (command : KeygenSubcommand) (mode : OutputMode) :
    Obeys command.parts (GitwaySubcommand.keygen command).speech mode
      (runKeygen Priv sys command mode : Command Ne Ag Va Te UInt32) := by
  cases command with
  | generate args => exact Obeys.answered (answers_runGenerate Priv args mode)
  | fingerprint args => exact Obeys.answered (answers_runFingerprint Priv args mode)
  | extractPublic args => exact Obeys.answered (answers_runExtractPublic Priv args mode)
  | changePassphrase args => exact Obeys.answered (answers_runChangePassphrase Priv args mode)
  | sign args => exact obeys_sign Priv sys.session args mode
  | verify args => exact Obeys.answered (answers_runVerify Priv args mode)

omit [Biometric.BiometricBackend Va] [Terminal Te] in
theorem obeys_hosts (sys : Platform Ne Ag) (command : Hosts.HostsSubcommand) (mode : OutputMode) :
    Obeys command.parts (GitwaySubcommand.hosts command).speech mode
      (UInt32.ofNat <$> Hosts.run Hk sys.session B sys.tempdir command mode :
        Command Ne Ag Va Te UInt32) := by
  cases command with
  | add args => exact obeys_runAddHost Hk sys.session B sys.tempdir args mode
  | revoke args => exact Obeys.answered (answers_runRevoke Hk args mode)
  | list args => exact Obeys.answered (answers_runListHosts Hk args mode)

omit [Keygen.KeyDetails Pub] [Keygen.Writer Priv] in
theorem obeys_biometric (command : Biometric.BiometricSubcommand) (mode : OutputMode) :
    Obeys command.parts (GitwaySubcommand.biometric command).speech mode
      (exitWith (Biometric.run Priv command mode) : Command Ne Ag Va Te UInt32) := by
  cases command with
  | enroll args => exact Obeys.answered (answers_runEnroll Priv args mode)
  | forget args => exact Obeys.answered (answers_runForget Priv args mode)
  | list => exact Obeys.answered (answers_runListEnrolled mode)
  | status => exact Obeys.answered (answers_runStatus mode)

variable [Agent Ag Priv Pub] [Agent.AgentAdmin Ag Pub] [Config.SshConfig Co]
  (sys : Platform Ne Ag) (files : Co)

omit [Keygen.Writer Priv] in
theorem obeys_agent (command : Agent.AgentSubcommand) (mode : OutputMode) :
    Obeys command.parts (GitwaySubcommand.agent command).speech mode
      (exitWith (Agent.run sys.processes command mode) : Command Ne Ag Va Te UInt32) := by
  cases command with
  | add args => exact Obeys.answered (answers_runAdd args mode)
  | list args => exact Obeys.answered (answers_runList args mode)
  | remove args => exact Obeys.answered (answers_runRemove args mode)
  | lock args => exact Obeys.answered (answers_runLock args mode true)
  | unlock args => exact Obeys.answered (answers_runLock args mode false)
  | start args => exact obeys_runStart sys.processes args mode
  | stop args => exact Obeys.answered (answers_runStop sys.processes.kill args mode)

theorem obeys_runSubcommand (subcommand : GitwaySubcommand) (mode : OutputMode) :
    Obeys subcommand.parts subcommand.speech mode
      (runSubcommand An B Hk Priv sys files subcommand mode : Command Ne Ag Va Te UInt32) := by
  cases subcommand with
  | schema => exact Obeys.document versioned_schemaJson
  | describe => exact Obeys.document versioned_describeJson
  | keygen command => exact obeys_runKeygen Priv sys command mode
  | sign args => exact obeys_sign Priv sys.session args mode
  | agent command => exact obeys_agent Priv sys command mode
  | config command => exact Obeys.answered (answers_config An files command mode)
  | listAlgorithms => exact Obeys.answered (answers_runListAlgorithms sys.allSupported mode)
  | hosts command => exact obeys_hosts B Hk sys command mode
  | biometric command => exact obeys_biometric Priv command mode

/-- A run of a command line touches what it may, and its standard output has the form of the
command line in the mode that is found at the start. -/
theorem obeys_run (cli : Cli) (stdoutIsTerminal : Bool) (p : Process Ne Ag Va Te) :
    Process.SameBut (.stdout :: cli.parts) p
        (run An B Hk Priv sys files cli stdoutIsTerminal p).2 ∧
      ∃ piece, (run An B Hk Priv sys files cli stdoutIsTerminal p).2.world.stdout =
          p.world.stdout ++ piece ∧
        (cli.speech sys).Fits (detectOutputMode cli p.world.env stdoutIsTerminal true)
          (run An B Hk Priv sys files cli stdoutIsTerminal p).1 piece := by
  set mode := detectOutputMode cli p.world.env stdoutIsTerminal true
  unfold Cli.parts Cli.speech
  cases given : cli.subcommand with
  | some subcommand =>
    rw [run_subcommand An B Hk Priv sys files cli stdoutIsTerminal p given]
    have obeys : Obeys subcommand.parts subcommand.speech mode
        (runSubcommand An B Hk Priv sys files subcommand mode : Command Ne Ag Va Te UInt32) :=
      obeys_runSubcommand An B Hk Priv sys files subcommand mode
    exact ⟨obeys.touches p, obeys.fits p⟩
  | none =>
    cases install : cli.install with
    | true =>
      rw [run_install An B Hk Priv sys files cli stdoutIsTerminal p given install]
      have obeys : Obeys [.files, .stderr] (.answer []) mode
          (exitWith (runInstall sys mode) : Command Ne Ag Va Te UInt32) :=
        Obeys.answered (answers_runInstall sys mode)
      exact ⟨obeys.touches p, obeys.fits p⟩
    | false =>
      rw [run_transport An B Hk Priv sys files cli stdoutIsTerminal p given install]
      have obeys : Obeys (if cli.test then sessionParts else relayParts)
          (if cli.test then .test else .relay (sys.session.Says (" ".intercalate cli.command))) mode
          (runTransport An B Priv sys files cli.toOptions mode : Command Ne Ag Va Te UInt32) :=
        obeys_runTransport An B Priv sys files cli.toOptions mode
      exact ⟨obeys.touches p, obeys.fits p⟩

/-- What a process may change. Where its command line is not one, or asks for help, there is
only what is said about it. -/
def Platform.parts (inv : Invocation) : List Part :=
  match sys.parse inv.argv with
  | .error _ => [.stdout, .stderr]
  | .ok cli =>
    if inv.argv.any (fun arg => !arg.isUnicode) then [.stderr]
    else [.stdout, .stderr, .reports] ++ cli.parts

omit [Biometric.BiometricBackend Va] [Terminal Te] in
/-- A report of a failure goes to standard error. -/
theorem touches_reportError (errorMode : OutputMode) (invocation : String)
    (configSources : List Config.OsPath) (e : AnvilError) :
    Command.Touches [.stderr, .reports]
      (reportError An errorMode invocation configSources e : Command Ne Ag Va Te Unit) := by
  cases errorMode with
  | json => exact Moves.bind (Moves.query _) fun _ => Command.touches_report (by decide) _
  | human =>
    exact Moves.bind (Command.touches_onWorld (touches_eprintln (by decide) _)) fun _ =>
      Moves.bind (Command.touches_onWorld (touches_eprintln (by decide) _)) fun _ =>
        Command.touches_report (by decide) _

omit [Biometric.BiometricBackend Va] [Terminal Te] in
theorem sameBut_finish (errorMode : OutputMode) (invocation : String)
    (configSources : List Config.OsPath) (result : Except AnvilError UInt32 × Process Ne Ag Va Te) :
    result.2.SameBut [.stderr, .reports]
      (finish An errorMode invocation configSources result).2 := by
  obtain ⟨r, q⟩ := result
  cases r with
  | ok code => exact Std.Refl.refl (r := Process.SameBut _) q
  | error e => exact touches_reportError An errorMode invocation configSources e q

/-- A process changes nothing but the parts of its command line and its reports of failure. -/
theorem main_sameBut (inv : Invocation) (p : Process Ne Ag Va Te) :
    p.SameBut (sys.parts inv) (main An B Hk Priv sys files inv p).2 := by
  unfold main Platform.parts
  cases sys.parse inv.argv with
  | error exit =>
    exact Process.sameBut_say (Or.inl List.mem_cons_self) (List.mem_cons_of_mem _
      List.mem_cons_self) p _
  | ok cli =>
    dsimp only
    split
    · exact Process.sameBut_say (Or.inr rfl) (by decide) p _
    · have ran := (obeys_run An B Hk Priv sys files cli inv.stdoutIsTerminal p).1
      have reported := sameBut_finish An
        (detectOutputMode cli p.world.env inv.stdoutIsTerminal false)
        (" ".intercalate (inv.argv.map OsString.lossy)) (computeConfigSources cli p.world.env files)
        (run An B Hk Priv sys files cli inv.stdoutIsTerminal p)
      refine (ran.widen ?_).trans (reported.widen ?_)
      · intro part member
        rcases List.mem_cons.mp member with rfl | listed
        · exact List.mem_cons_self
        · exact List.mem_append_right _ listed
      · intro part member
        exact List.mem_append_left _ (List.mem_cons_of_mem _ member)

/-- What a process leaves on standard output has the form of its command line, and the result
of the run tells which. -/
theorem main_stdout {inv : Invocation} {cli : Cli} (parsed : sys.parse inv.argv = .ok cli)
    (unicode : inv.argv.any (fun arg => !arg.isUnicode) = false) (p : Process Ne Ag Va Te) :
    ∃ piece, (main An B Hk Priv sys files inv p).2.world.stdout = p.world.stdout ++ piece ∧
      (cli.speech sys).Fits (detectOutputMode cli p.world.env inv.stdoutIsTerminal true)
        (run An B Hk Priv sys files cli inv.stdoutIsTerminal p).1 piece := by
  obtain ⟨piece, printed, fits⟩ :=
    (obeys_run An B Hk Priv sys files cli inv.stdoutIsTerminal p).2
  refine ⟨piece, ?_, fits⟩
  unfold main
  rw [parsed]
  dsimp only
  rw [unicode, if_neg Bool.false_ne_true, ← printed]
  exact (sameBut_finish An _ _ _ _).world.stdout (by decide)

end

open Reference

/-- `gitway --json git@github.com git-receive-pack team/repo.git`, in a file of its own. -/
private def pushing : Invocation :=
  ⟨argv ["gitway", "--json", "git@github.com", "git-receive-pack", "team/repo.git"], false⟩

private def pushingCli : Cli where
  toOptions := { Transport.Options.bare with
    host := some "git@github.com", command := ["git-receive-pack", "team/repo.git"] }
  subcommand := none
  json := true
  format := none
  install := false

private def pushingMachine : Platform Unit RefAgent :=
  { machine with parse := fun _ => .ok pushingCli }

/-- Something has been written to standard output before. -/
private def resumed : RefProcess :=
  { started with world := { started.world with
      stdin := .ok "PACK".toUTF8, stdout := [.line "before"] } }

/-- What comes behind it is what the remote command writes. -/
theorem pushing_stdout :
    ∃ piece, (main RefAnvil Transport.AnvilConfig Hosts.RefHostKeys RefPrivate pushingMachine
        (⟨some "alice", none⟩ : RefFiles) pushing resumed).2.world.stdout =
          [.line "before"] ++ piece ∧
      (Speech.relay (machine.session.Says (" ".intercalate pushingCli.command))).Fits .json
        (run RefAnvil Transport.AnvilConfig Hosts.RefHostKeys RefPrivate pushingMachine
          (⟨some "alice", none⟩ : RefFiles) pushingCli false resumed).1 piece := by
  have parsed : pushingMachine.parse pushing.argv = .ok pushingCli := rfl
  exact main_stdout RefAnvil Transport.AnvilConfig Hosts.RefHostKeys RefPrivate pushingMachine
    (⟨some "alice", none⟩ : RefFiles) parsed rfl resumed

end Gitway
