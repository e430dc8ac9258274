import Gitway.Main
import Gitway.Parts

/-!
# What the steps of the commands touch

One lemma for each step that a command is made of: prompts, loaders, the files of the agent,
sessions. None of them prints to standard output.
-/
namespace Gitway

open Lib Lib.Fallible Program

variable {Ne Ag Va Te : Type}

/-! ### Passphrases -/

theorem touches_tryAskpass [Terminal Te] (prompt : String) :
    Touches [.terminal] (Prompt.tryAskpass prompt : Program Ag Va Te (Option String)) := by
  refine Moves.bind (Moves.query _) ?_
  intro env
  split
  · exact Moves.pure _
  · dsimp only
    split
    · exact Moves.fail _
    split
    · exact Moves.pure _
    refine Moves.bind (Moves.query _) ?_
    intro mode
    split
    · exact Moves.fail _
    refine Moves.bind (touches_onTerminal (by decide) _) ?_
    intro ran
    split
    · exact Moves.fail _
    · exact Moves.query _

theorem touches_promptPassphraseInteractive [Terminal Te] (path : String) :
    Touches [.terminal]
      (Prompt.promptPassphraseInteractive path : Program Ag Va Te String) := by
  refine Moves.bind (touches_tryAskpass _) ?_
  intro asked
  split
  · exact Moves.pure _
  · refine Moves.bind (touches_onTerminal (by decide) _) ?_
    intro typed
    split
    · exact Moves.pure _
    · exact Moves.fail _

section
variable {Priv Pub : Type} [PublicKey Pub] [PrivateKey Priv Pub] [BiometricVault Va]

/-- A stale entry of the keystore is deleted on the way. -/
theorem touches_autoUnlockPassphrase (key : Priv) :
    Touches [.vault]
      (Biometric.autoUnlockPassphrase key : Program Ag Va Te Biometric.AutoUnlock) := by
  intro w
  obtain ⟨outcome, vault, ran, _⟩ := Biometric.autoUnlockPassphrase_spec key w
  rw [ran]
  exact { World.SameBut.refl _ w with vault := fun other => absurd (by decide) other }

variable [Terminal Te]

variable (Priv) in
theorem touches_promptPassphrase (path : String) :
    Touches [.vault, .terminal, .stderr]
      (Prompt.promptPassphrase Priv path : Program Ag Va Te String) := by
  have unlocking : Touches [.vault, .terminal, .stderr]
      (Prompt.biometricAutoUnlock Priv path : Program Ag Va Te (Option String)) := by
    refine Moves.bind (Moves.query _) ?_
    intro key
    split
    · exact Moves.pure _
    refine Moves.bind ((touches_autoUnlockPassphrase _).widen (by decide)) ?_
    intro outcome
    cases outcome with
    | passphrase pass => exact Moves.pure _
    | stale => exact Moves.bind (touches_eprintln (by decide) _) fun _ => Moves.pure _
    | fallback => exact Moves.pure _
  apply Moves.bind unlocking
  intro released
  cases released with
  | some passphrase => exact Moves.pure _
  | none => exact (touches_promptPassphraseInteractive path).widen (by decide)

theorem touches_loadPrivateKey (path : String) (key : Priv) (unlock : Biometric.UnlockMode) :
    Touches [.vault, .terminal, .stderr]
      (Agent.loadPrivateKey path key unlock : Program Ag Va Te Priv) := by
  have prompting : Touches [.vault, .terminal, .stderr]
      (Prompt.promptPassphraseInteractive path : Program Ag Va Te String) :=
    (touches_promptPassphraseInteractive path).widen (by decide)
  unfold Agent.loadPrivateKey Agent.loadKey
  split
  · exact Moves.pure _
  dsimp only
  cases unlock with
  | disabled => exact Moves.bind prompting fun _ => Moves.query _
  | enroll =>
    apply Moves.bind prompting
    intro pass
    refine Moves.bind (Moves.query _) ?_
    intro decrypted
    refine Moves.bind (touches_onVault (by decide) _) ?_
    intro stored
    cases stored with
    | ok => exact Moves.bind (touches_eprintln (by decide) _) fun _ => Moves.pure _
    | error e => exact Moves.bind (touches_eprintln (by decide) _) fun _ => Moves.pure _
  | auto =>
    refine Moves.bind ((touches_autoUnlockPassphrase key).widen (by decide)) ?_
    intro outcome
    cases outcome with
    | passphrase pass => exact Moves.query _
    | stale =>
      exact Moves.bind (touches_eprintln (by decide) _) fun _ =>
        Moves.bind prompting fun _ => Moves.query _
    | fallback => exact Moves.bind prompting fun _ => Moves.query _

/-- One key file is read, decrypted and handed to the agent. -/
theorem touches_addOne [Agent Ag Priv Pub] {β : Type}
    {onLoaded onAdded : β → String → Program Ag Va Te β}
    (onLoaded_touches : ∀ acc path, Touches [] (onLoaded acc path))
    (onAdded_touches : ∀ acc path, Touches [] (onAdded acc path))
    (loaded : List (Identity Pub)) (lifetime : Option Nat) (confirm : Bool)
    (unlock : Biometric.UnlockMode) (acc : β) (path : String) :
    Touches [.agent, .vault, .terminal, .stderr]
      (Agent.addOne Agent.loadPrivateKey onLoaded onAdded loaded lifetime confirm unlock acc
        path : Program Ag Va Te β) := by
  refine Moves.bind (Moves.query _) ?_
  intro pem
  split
  · exact Moves.fail _
  split
  · exact (onLoaded_touches acc path).widen (by decide)
  refine Moves.bind ((touches_loadPrivateKey path _ unlock).widen (by decide)) ?_
  intro decrypted
  refine Moves.bind (touches_onAgent (by decide) _) ?_
  intro _
  exact (onAdded_touches acc path).widen (by decide)

end

/-! ### Keys -/

section
variable (Priv : Type) {Pub : Type} [PublicKey Pub] [PrivateKey Priv Pub]

theorem touches_loadPublic (unparsed : String → String) (path : String) :
    Touches [] (Keygen.loadPublic Priv unparsed path : Program Ag Va Te Pub) := by
  refine Moves.bind (Moves.query _) ?_
  intro raw
  split
  · exact Moves.pure _
  · split
    · exact Moves.pure _
    · exact Moves.fail _

variable [BiometricVault Va] [Terminal Te]

omit [BiometricVault Va] in
theorem touches_typeNewPassphrase (path : String) :
    Touches [.terminal] (Keygen.typeNewPassphrase path : Program Ag Va Te String) := by
  refine Moves.bind (touches_onTerminal (by decide) _) ?_
  intro typed
  refine Moves.bind (Moves.query _) ?_
  intro first
  split
  · exact Moves.pure _
  refine Moves.bind (touches_onTerminal (by decide) _) ?_
  intro retyped
  refine Moves.bind (Moves.query _) ?_
  intro confirm
  split
  · exact Moves.fail _
  · exact Moves.pure _

theorem touches_promptNewPassphrase (path : String) :
    Touches [.vault, .terminal, .stderr]
      (Keygen.promptNewPassphrase Priv path : Program Ag Va Te String) := by
  refine Moves.bind (Moves.query _) ?_
  intro env
  split
  · exact touches_promptPassphrase Priv path
  · exact (touches_typeNewPassphrase path).widen (by decide)

theorem touches_resolveNewPassphrase (file : String) (explicit : Option String)
    (noPassphrase : Bool) :
    Touches [.vault, .terminal, .stderr]
      (Keygen.resolveNewPassphrase Priv file explicit noPassphrase :
        Program Ag Va Te (Option String)) := by
  unfold Keygen.resolveNewPassphrase
  split
  · exact Moves.pure _
  cases explicit with
  | some s => exact Moves.pure _
  | none => exact Moves.bind (touches_promptNewPassphrase Priv file) fun _ => Moves.pure _

theorem touches_newPassphrase (args : Keygen.ChangePassphraseArgs) :
    Touches [.vault, .terminal, .stderr]
      (Keygen.newPassphrase Priv args : Program Ag Va Te (Option String)) := by
  unfold Keygen.newPassphrase
  split
  · exact Moves.pure _
  cases args.newPassphrase with
  | some s => exact Moves.pure _
  | none => exact Moves.bind (touches_promptNewPassphrase Priv args.file) fun _ => Moves.pure _

theorem touches_oldPassphrase (args : Keygen.ChangePassphraseArgs) (loaded : Priv) :
    Touches [.vault, .terminal, .stderr]
      (Keygen.oldPassphrase Priv args loaded : Program Ag Va Te (Option String)) := by
  unfold Keygen.oldPassphrase
  split
  · cases args.oldPassphrase with
    | some s => exact Moves.pure _
    | none => exact Moves.bind (touches_promptPassphrase Priv args.file) fun _ => Moves.pure _
  · exact Moves.pure _

end

theorem touches_openInput (path : Option String) :
    Touches [.stdin] (Keygen.openInput path :
      Program Ag Va Te (Except IoError ByteArray)) := by
  intro w
  have drained : w.SameBut [.stdin] { w with stdin := w.stdin.map fun _ => ByteArray.empty } :=
    { World.SameBut.refl _ w with stdin := fun other => absurd (by decide) other }
  unfold Keygen.openInput
  split
  · exact drained
  · split
    · exact drained
    · exact World.SameBut.refl _ w

theorem touches_writeOutput (path : Option String) (bytes : ByteArray) :
    Touches [.files, .stdout] (Keygen.writeOutput path bytes : Program Ag Va Te Unit) := by
  cases path with
  | none => exact touches_writeStdout (by decide) bytes
  | some p =>
    unfold Keygen.writeOutput
    dsimp only
    split
    · exact touches_writeStdout (by decide) bytes
    · exact touches_writeFile (by decide) p bytes

/-! ### The agent -/

section
open Agent

section
variable {Priv Pub : Type} [PublicKey Pub] [PrivateKey Priv Pub] [Agent Ag Priv Pub]
  [AgentAdmin Ag Pub]

theorem touches_removeKeys (args : AgentRemoveArgs) :
    Touches [.agent] (removeKeys args : Program Ag Va Te (List String)) := by
  unfold removeKeys
  split
  · exact Moves.bind (Moves.query _) fun _ =>
      Moves.bind (touches_onAgent (by decide) _) fun _ => Moves.pure _
  cases args.file with
  | some path =>
    exact Moves.bind ((touches_loadPublic Priv _ path).widen (by decide)) fun _ =>
      Moves.bind (touches_onAgent (by decide) _) fun _ => Moves.pure _
  | none => exact Moves.fail _

end

theorem touches_lockPassphrase [Terminal Te] (args : AgentLockArgs) (lock : Bool) :
    Touches [.terminal] (lockPassphrase args lock : Program Ag Va Te String) := by
  unfold lockPassphrase promptLockPassphrase
  cases args.passphrase with
  | some s => exact Moves.pure s
  | none =>
    dsimp only
    split
    · refine Moves.bind (touches_onTerminal (by decide) _) ?_
      intro typed
      refine Moves.bind (Moves.query _) ?_
      intro first
      refine Moves.bind (touches_onTerminal (by decide) _) ?_
      intro retyped
      refine Moves.bind (Moves.query _) ?_
      intro confirm
      split
      · exact Moves.fail _
      · exact Moves.pure _
    · exact Moves.bind (touches_onTerminal (by decide) _) fun _ => Moves.query _

/-- The default socket has a directory of its own, which is made where it is missing. -/
theorem touches_rawSocketPath (args : AgentStartArgs) :
    Touches [.files] (rawSocketPath args : Program Ag Va Te String) := by
  unfold rawSocketPath
  cases args.sock with
  | some path => exact Moves.pure path
  | none =>
    intro w
    obtain ⟨fs, ran, _⟩ := defaultSocketPath_run w
    show w.SameBut [.files] (defaultSocketPath w).2
    rw [ran]
    exact { World.SameBut.refl _ w with files := fun other => absurd (by decide) other }

theorem touches_absolutePath (path : String) :
    Touches [] (absolutePath path : Program Ag Va Te String) := by
  unfold absolutePath
  split
  · exact Moves.pure path
  refine Moves.bind (Moves.query _) ?_
  intro env
  split
  · exact Moves.pure _
  · exact Moves.fail _

theorem touches_absolutePidFile (args : AgentStartArgs) :
    Touches [] (absolutePidFile args : Program Ag Va Te (Option String)) := by
  unfold absolutePidFile
  cases args.pidFile with
  | some path => exact Moves.bind (touches_absolutePath path) fun _ => Moves.pure _
  | none => exact Moves.pure none

theorem touches_emitEval (socketPath : String) (pid : Nat) (bourne cshForced : Bool) :
    Touches [.stdout] (emitEval socketPath pid bourne cshForced : Program Ag Va Te Unit) := by
  intro w
  obtain ⟨stdout, printed⟩ := emitEval_run socketPath pid bourne cshForced w
  rw [printed]
  exact { World.SameBut.refl _ w with stdout := fun other => absurd (by decide) other }

theorem touches_runDaemonLoop (os : Processes) (args : AgentDaemonArgs) :
    Touches [.files, .stdout] (runDaemonLoop os args : Program Ag Va Te Nat) := by
  refine Moves.bind ((touches_rawSocketPath _).widen (by decide)) ?_
  intro socketPath
  refine Moves.bind (Moves.query _) ?_
  intro env
  dsimp only
  split
  · exact Moves.bind ((touches_emitEval _ _ _ _).widen (by decide)) fun _ =>
      Moves.bind (touches_onFiles (by decide) _) fun _ => Moves.pure _
  · exact Moves.bind (touches_onFiles (by decide) _) fun _ => Moves.pure _

theorem touches_runBackgroundStart (os : Processes) (args : AgentStartArgs) :
    Touches [.files, .stdout]
      (runBackgroundStart os.currentExe os.spawnChild args : Program Ag Va Te Nat) := by
  have spawning (launch : Launch) : Touches [.files, .stdout]
      (os.spawnChild launch : Program Ag Va Te (Except String Nat)) := fun w =>
    { World.SameBut.refl _ w with files := fun other => absurd (by decide) other }
  have respawning (socketPath : String) (pidFile : Option String) : Touches [.files, .stdout]
      (respawn os.currentExe os.spawnChild args socketPath pidFile : Program Ag Va Te Nat) := by
    refine Moves.bind (Moves.query _) ?_
    intro exe
    refine Moves.bind (spawning _) ?_
    intro child
    refine Moves.bind (Moves.query _) ?_
    intro pid
    refine Moves.bind (Moves.query _) ?_
    intro bound
    split
    · exact Moves.bind ((touches_emitEval _ _ _ _).widen (by decide)) fun _ => Moves.pure _
    · exact Moves.fail _
  refine Moves.bind ((touches_rawSocketPath args).widen (by decide)) ?_
  intro raw
  refine Moves.bind ((touches_absolutePath raw).widen (by decide)) ?_
  intro socketPath
  refine Moves.bind ((touches_absolutePidFile args).widen (by decide)) ?_
  intro pidFile
  refine Moves.bind (Moves.query _) ?_
  intro there
  split
  · exact Moves.fail _
  · exact respawning socketPath pidFile

/-- The detached child is the one that leaves its directory. -/
theorem touches_runStart (os : Processes) (args : AgentDaemonArgs) :
    Touches [.env, .files, .stdout] (runStart os args : Program Ag Va Te Nat) := by
  have leaving : Touches [.env, .files, .stdout] (finalizeDetach : Program Ag Va Te Unit) :=
    fun w => { World.SameBut.refl _ w with env := fun other => absurd (by decide) other }
  refine Moves.bind (Moves.query _) ?_
  intro env
  dsimp only
  split
  · split
    · exact Moves.bind leaving fun _ => (touches_runDaemonLoop os args).widen (by decide)
    · exact (touches_runDaemonLoop os args).widen (by decide)
  · exact (touches_runBackgroundStart os _).widen (by decide)

theorem touches_resolveDaemonPid (cliPidFile : Option String) :
    Touches [.files] (resolveDaemonPid cliPidFile : Program Ag Va Te Int) := by
  intro w
  obtain ⟨r, fs, ran, _⟩ := resolveDaemonPid_run cliPidFile w
  rw [ran]
  exact { World.SameBut.refl _ w with files := fun other => absurd (by decide) other }

theorem touches_sendSigterm (kill : Int → Except String Unit) (pid : Int) :
    Touches [.signals] (sendSigterm kill pid : Program Ag Va Te Unit) := fun w =>
  { World.SameBut.refl _ w with signals := fun other => absurd (by decide) other }

end

/-! ### Configuration and hosts -/

theorem touches_certAndRevokedJson (An : Type) [Config.Anvil An] (host : String)
    (customPath : Option Config.OsPath) (scopeLabel : String) :
    Touches [.stderr] (Config.certAndRevokedJson An host customPath scopeLabel :
      Program Ag Va Te (List Json × List Json)) := by
  intro w
  obtain ⟨found, messages, ran⟩ := Config.certAndRevokedJson_run An host customPath scopeLabel w
  rw [ran]
  exact { World.SameBut.refl _ w with stderr := fun other => absurd (by decide) other }

theorem touches_readLine :
    Touches [.stdin] (Hosts.readLine : Program Ag Va Te (Except IoError String)) := by
  intro w
  unfold Hosts.readLine
  split
  · exact World.SameBut.refl _ w
  · exact { World.SameBut.refl _ w with stdin := fun other => absurd (by decide) other }

theorem touches_confirm (args : Hosts.HostsAddArgs) (mode : OutputMode) (path : String) :
    Touches [.stdin, .stderr]
      (Hosts.confirm args mode path : Program Ag Va Te (Option Nat)) := by
  unfold Hosts.confirm
  split
  · exact Moves.pure _
  refine Moves.bind (Moves.query _) ?_
  intro env
  split
  · exact Moves.bind (touches_eprintln (by decide) _) fun _ => Moves.pure _
  refine Moves.bind (touches_eprintln (by decide) _) ?_
  intro _
  refine Moves.bind (touches_readLine.widen (by decide)) ?_
  intro line
  refine Moves.bind (Moves.query _) ?_
  intro response
  split
  · exact Moves.pure _
  · exact Moves.bind (touches_eprintln (by decide) _) fun _ => Moves.pure _

theorem touches_chooseHashed (Hk : Type) [Hosts.KnownHosts Hk] (args : Hosts.HostsAddArgs)
    (path : String) :
    Touches [] (Hosts.chooseHashed Hk args path : Program Ag Va Te Bool) := by
  unfold Hosts.chooseHashed
  split
  · exact Moves.pure _
  split
  · exact Moves.pure _
  · exact Moves.bind (Moves.query _) fun _ => Moves.pure _

theorem touches_readKnownHosts (Hk : Type) [Hosts.KnownHosts Hk] (path : String) :
    Touches [] (Hosts.readKnownHosts Hk path : Program Ag Va Te Hosts.KnownHostsFile) := by
  refine Moves.bind (Moves.query _) ?_
  intro there
  split
  · exact Moves.bind (Moves.query _) fun _ => Moves.query _
  · exact Moves.pure _

/-! ### Biometric unlock -/

section
open Biometric

theorem touches_collect {β : Type} {parts : List Part} {one : β → Program Ag Va Te Outcome}
    (each : ∀ item, Touches parts (one item)) (items : List β) :
    Touches parts (collect one items : Program Ag Va Te (List Outcome × Nat)) :=
  Moves.foldlM (fun _ item => Moves.bind (each item) fun _ => Moves.pure _) items _

section
variable [BiometricBackend Va]

theorem touches_forgetOne (target id fingerprint : String) :
    Touches [.vault] (forgetOne target id fingerprint : Program Ag Va Te Outcome) := by
  refine Moves.bind (touches_onVault (by decide) _) ?_
  intro deleted
  cases deleted with
  | ok => exact Moves.pure _
  | error e => exact Moves.pure _

theorem touches_countEnrolled (available : Bool) :
    Touches [.vault] (countEnrolled available : Program Ag Va Te (Option Nat)) := by
  unfold countEnrolled
  split
  · exact Moves.bind (touches_onVault (by decide) _) fun _ => Moves.pure _
  · exact Moves.pure _

variable (Priv : Type) {Pub : Type} [PublicKey Pub] [PrivateKey Priv Pub]

theorem touches_forgetFile (path : String) :
    Touches [.vault] (forgetFile Priv path : Program Ag Va Te Outcome) := by
  refine Moves.bind (Moves.query _) ?_
  intro read
  cases read with
  | error message => exact Moves.pure _
  | ok key => exact touches_forgetOne path _ _

theorem touches_enrollOne [Terminal Te] (path : String) :
    Touches [.vault, .terminal] (enrollOne Priv path : Program Ag Va Te Outcome) := by
  refine Moves.bind (Moves.query _) ?_
  intro read
  cases read with
  | error message => exact Moves.pure _
  | ok key =>
    dsimp only
    split
    · exact Moves.pure _
    refine Moves.bind ((touches_promptPassphraseInteractive path).widen (by decide)) ?_
    intro passphrase
    split
    · exact Moves.pure _
    refine Moves.bind (touches_onVault (by decide) _) ?_
    intro stored
    cases stored with
    | ok => exact Moves.pure _
    | error e => exact Moves.pure _

end

end

/-! ### Sessions -/

section
open Transport

variable (Priv : Type) {Pub : Type} [PublicKey Pub] [PrivateKey Priv Pub]
  [BiometricVault Va] [Terminal Te] (an : AnvilSession Ne Ag)

/-- What a session may touch: the network, the `known_hosts` files, and what a prompt does. -/
def sessionParts : List Part := [.vault, .terminal, .stderr, .files, .network, .calls]

/-- The relay of a command also takes standard input. -/
def relayParts : List Part := .stdin :: sessionParts

omit [BiometricVault Va] [Terminal Te] in
theorem touches_open (config : AnvilConfig) (dial : Dial Config.JumpHost) :
    Command.Touches [.files, .network, .calls]
      (an.open_ config dial : Command Ne Ag Va Te Unit) :=
  Moves.bind (Command.touches_onConnection (by decide) (by decide) _) fun _ =>
    Command.touches_record (by decide) _

omit [BiometricVault Va] [Terminal Te] in
/-- The files are as before once the directory is removed. -/
theorem touches_inTempdir {α : Type} {parts : List Part} {x : Command Ne Ag Va Te α}
    (touches : Command.Touches (.files :: parts) x) :
    Command.Touches parts (Hosts.inTempdir x) := fun p =>
  have same := touches p
  have unlisted {part : Part} (other : part ∉ parts) (plain : part ≠ .files) :
      part ∉ Part.files :: parts :=
    List.not_mem_cons_of_ne_of_not_mem plain other
  { world := {
      env := fun other => same.world.env (unlisted other (by decide))
      files := fun _ => rfl
      agent := fun other => same.world.agent (unlisted other (by decide))
      vault := fun other => same.world.vault (unlisted other (by decide))
      terminal := fun other => same.world.terminal (unlisted other (by decide))
      stdin := fun other => same.world.stdin (unlisted other (by decide))
      stdout := fun other => same.world.stdout (unlisted other (by decide))
      stderr := fun other => same.world.stderr (unlisted other (by decide))
      signals := fun other => same.world.signals (unlisted other (by decide)) }
    network := fun other => same.network (unlisted other (by decide))
    calls := fun other => same.calls (unlisted other (by decide))
    reports := fun other => same.reports (unlisted other (by decide)) }

omit [BiometricVault Va] [Terminal Te] in
theorem touches_close : Command.Touches [.network] (close an : Command Ne Ag Va Te Unit) :=
  Command.touches_onNetwork (by decide) _

omit [BiometricVault Va] [Terminal Te] in
theorem touches_authenticateWithPassphrase (config : AnvilConfig) (path passphrase : String) :
    Command.Touches sessionParts
      (authenticateWithPassphrase an config path passphrase : Command Ne Ag Va Te Unit) :=
  Moves.bind (Moves.query _) fun _ => Command.touches_onNetwork (by decide) _

theorem touches_promptInSession (path : String) :
    Command.Touches sessionParts (promptPassphrase Priv path : Command Ne Ag Va Te String) :=
  Moves.bind (Command.touches_record (by decide) _) fun _ =>
    Command.touches_onWorld ((touches_promptPassphrase Priv path).widen (by decide))

theorem touches_maybeCollectPassphrase (config : AnvilConfig) :
    Command.Touches sessionParts (maybeCollectPassphrase Priv an config :
      Command Ne Ag Va Te (Option (String × String))) := by
  refine Moves.bind (Moves.query _) ?_
  intro identity
  cases identity with
  | found path => exact Moves.pure _
  | notFound => exact Moves.pure _
  | encrypted path =>
    refine Moves.bind (Moves.query _) ?_
    intro agent
    split
    · exact Moves.pure _
    · exact Moves.bind (touches_promptInSession Priv path) fun _ => Moves.pure _

theorem touches_authenticateWithPrompt (config : AnvilConfig) :
    Command.Touches sessionParts
      (authenticateWithPrompt Priv an config : Command Ne Ag Va Te Unit) := by
  have best : Command.Touches sessionParts
      (authenticateBest an config : Command Ne Ag Va Te Unit) :=
    Moves.bind (Moves.query _) fun _ => Command.touches_onNetwork (by decide) _
  refine Moves.bind (Moves.attempt best) ?_
  intro outcome
  cases outcome with
  | ok => exact Moves.pure _
  | error e =>
    dsimp only
    split
    · refine Moves.bind (Moves.query _) ?_
      intro identity
      cases identity with
      | encrypted path =>
        exact Moves.bind (touches_promptInSession Priv path) fun _ =>
          touches_authenticateWithPassphrase an config path _
      | found path => exact Moves.fail _
      | notFound => exact Moves.fail _
    split
    · apply Moves.bind
      · exact Moves.bind (Moves.attempt (Moves.query _)) fun _ =>
          Moves.bind (Moves.query _) fun _ => Moves.pure _
      · intro _
        exact Moves.fail _
    · exact Moves.fail _

omit [BiometricVault Va] [Terminal Te] in
theorem touches_relayed (command : String) :
    Command.Touches (.stdout :: relayParts) (Command.relay (an.exec command) >>= fun exitCode =>
      close an >>= fun _ => pure exitCode : Command Ne Ag Va Te UInt32) :=
  Moves.bind (Command.touches_relay (by decide) _) fun _ =>
    Moves.bind ((touches_close an).widen (by decide)) fun _ => Moves.pure _

end

end Gitway
