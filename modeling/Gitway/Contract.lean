import Gitway.Answers
import Gitway.Reported

/-!
# What every command touches and prints

The lemmas of the commands, and the two results about a whole run of `gitway`: what it
leaves alone, and what a program that reads its standard output can rely on.
-/
namespace Gitway

open Lib Lib.Fallible Program

variable {Ne Ag Va Te : Type} {own : Nat → Prop}

/-! ### Keys -/

section
open Keygen

variable (Priv : Type) {Pub Signers : Type} [PublicKey Pub] [PrivateKey Priv Pub]

theorem answers_runGenerate [Writer Priv] [BiometricVault Va] [Terminal Te] (args : GenerateArgs)
    (mode : OutputMode) :
    Answers own [.files, .vault, .terminal, .stderr] mode
      (runGenerate Priv args mode : Program Ag Va Te Nat) := by
  refine Answers.query ?_
  rintro ⟨kind, bits⟩
  refine Answers.query ?_
  intro env
  refine Answers.bind (touches_resolveNewPassphrase Priv args.file args.passphrase
    args.noPassphrase) (by decide) (by decide) ?_
  intro passphrase
  refine Answers.query ?_
  intro key
  refine Answers.onFiles (by decide) ?_
  intro _
  cases mode with
  | json => exact Answers.emit (versioned_envelope _ _ _ _) 0
  | human =>
    refine Answers.eprintln (by decide) ?_
    refine Answers.eprintln (by decide) ?_
    refine Answers.eprintln (by decide) ?_
    exact Answers.message _ (by decide) 0

theorem answers_runChangePassphrase [Writer Priv] [BiometricVault Va] [Terminal Te]
    (args : ChangePassphraseArgs) (mode : OutputMode) :
    Answers own [.files, .vault, .terminal, .stderr] mode
      (runChangePassphrase Priv args mode : Program Ag Va Te Nat) := by
  refine Answers.query ?_
  intro pem
  refine Answers.query ?_
  intro loaded
  refine Answers.bind (touches_oldPassphrase Priv args loaded) (by decide) (by decide) ?_
  intro old
  refine Answers.bind (touches_newPassphrase Priv args) (by decide) (by decide) ?_
  intro new
  refine Answers.onFiles (by decide) ?_
  intro _
  cases mode with
  | json => exact Answers.envelope _ _ _ 0
  | human =>
    exact Answers.message _ (by decide) 0

theorem answers_runFingerprint [KeyDetails Pub] (args : FingerprintArgs) (mode : OutputMode) :
    Answers own [] mode (runFingerprint Priv args mode : Program Ag Va Te Nat) := by
  refine Answers.bind (touches_loadPublic Priv _ args.file) (by simp) (by simp) ?_
  intro pub
  cases mode with
  | json => exact Answers.envelope _ _ _ 0
  | human => exact Answers.println _ 0

theorem answers_runExtractPublic [Signatures Priv Signers] (args : ExtractPublicArgs)
    (mode : OutputMode) :
    Answers own [.files, .stderr] mode
      (runExtractPublic Priv args mode : Program Ag Va Te Nat) := by
  refine Answers.onFiles (by decide) ?_
  intro _
  cases mode with
  | json => exact Answers.envelope _ _ _ 0
  | human =>
    exact Answers.message _ (by decide) 0

theorem answers_runVerify [Signatures Priv Signers] (args : VerifyArgs) (mode : OutputMode) :
    Answers own [.stdin] mode (runVerify Priv args mode : Program Ag Va Te Nat) := by
  refine Answers.query ?_
  intro armored
  refine Answers.query ?_
  intro allowed
  refine Answers.bind (touches_openInput args.input) (by decide) (by decide) ?_
  intro input
  refine Answers.query ?_
  intro verified
  cases mode with
  | json => exact Answers.envelope _ _ _ 0
  | human => exact Answers.println _ 0

end

/-! ### The agent -/

section
open Agent

variable {Priv Pub : Type} [PublicKey Pub] [PrivateKey Priv Pub] [Agent Ag Priv Pub]

theorem answers_runAdd [BiometricVault Va] [Terminal Te] (args : AgentAddArgs)
    (mode : OutputMode) :
    Answers own [.agent, .vault, .terminal, .stderr] mode
      (runAdd args mode : Program Ag Va Te Nat) := by
  have chosen : Touches [] (args.paths : Program Ag Va Te (List String)) := by
    unfold AgentAddArgs.paths
    split
    · exact Moves.query _
    · exact Moves.pure _
  refine Answers.bind chosen (by simp) (by simp) ?_
  intro paths
  refine Answers.query ?_
  intro _
  refine Answers.query ?_
  intro loaded
  refine Answers.bind (Moves.foldlM (fun acc path => touches_addOne (fun _ _ => Moves.pure _)
    (fun _ _ => Moves.pure _) loaded args.lifetime args.confirm args.unlock acc path) paths _)
    (by decide) (by decide) ?_
  rintro ⟨added, alreadyLoaded⟩
  cases mode with
  | json => exact Answers.envelope _ _ _ 0
  | human =>
    exact Answers.messages (Moves.bind (touches_eprintAll _ added) fun _ =>
      touches_eprintAll _ alreadyLoaded) (by decide) 0

omit [PrivateKey Priv Pub] in
theorem answers_runList [Keygen.KeyDetails Pub] (args : AgentListArgs) (mode : OutputMode) :
    Answers own [.stderr] mode (runList args mode : Program Ag Va Te Nat) := by
  refine Answers.query ?_
  intro _
  refine Answers.query ?_
  intro ids
  cases mode with
  | json => exact Answers.envelope _ _ _ 0
  | human =>
    dsimp only
    split
    · exact Answers.message _ (by decide) 0
    split
    -- A key that cannot be written out ends the list.
    · have touches (id : Identity Pub) : Touches [.stdout, .stderr]
          (printPublicKey id : Program Ag Va Te Unit) :=
        Moves.bind (Moves.query _) fun _ => touches_println (by decide) _
      have wordy (id : Identity Pub) : Wordy (printPublicKey id : Program Ag Va Te Unit) :=
        Writes.bind (Writes.of_keeps (Keeps.query _)) fun line => wordy_println line
      exact Answers.words (Moves.forM touches ids) (Writes.forM wordy ids) 0
    · exact Answers.printAll _ ids 0

section
variable [AgentAdmin Ag Pub]

theorem answers_runRemove (args : AgentRemoveArgs) (mode : OutputMode) :
    Answers own [.agent, .stderr] mode (runRemove args mode : Program Ag Va Te Nat) := by
  refine Answers.query ?_
  intro _
  refine Answers.bind (touches_removeKeys args) (by decide) (by decide) ?_
  intro removed
  cases mode with
  | json => exact Answers.envelope _ _ _ 0
  | human =>
    exact Answers.messages (touches_eprintAll _ removed) (by decide) 0

omit [PublicKey Pub] [PrivateKey Priv Pub] in
theorem answers_runLock [Terminal Te] (args : AgentLockArgs) (mode : OutputMode) (lock : Bool) :
    Answers own [.agent, .terminal, .stderr] mode
      (runLock args mode lock : Program Ag Va Te Nat) := by
  refine Answers.query ?_
  intro _
  refine Answers.bind (touches_lockPassphrase args lock) (by decide) (by decide) ?_
  intro pp
  refine Answers.onAgent (by decide) ?_
  intro _
  cases mode with
  | json => exact Answers.envelope _ _ _ 0
  | human =>
    exact Answers.message _ (by decide) 0

end

theorem answers_runStop (kill : Int → Except String Unit) (args : AgentStopArgs)
    (mode : OutputMode) :
    Answers own [.files, .signals, .stderr] mode
      (runStop kill args mode : Program Ag Va Te Nat) := by
  refine Answers.bind (touches_resolveDaemonPid args.pidFile) (by decide) (by decide) ?_
  intro pid
  refine Answers.bind (touches_sendSigterm kill pid) (by decide) (by decide) ?_
  intro _
  cases mode with
  | json => exact Answers.envelope _ _ _ 0
  | human => exact Answers.message _ (by decide) 0

end

/-! ### Configuration -/

section
open Config

variable (An : Type) [Anvil An]

theorem wordy_emitHumanShow (args : ConfigShowArgs) (resolved : ResolvedSshConfig) :
    Wordy (emitHumanShow An args resolved : Program Ag Va Te Unit) := by
  have line (name : String) (value : Option String) :
      Wordy (value.forM fun v => println s!"{name} {v}" : Program Ag Va Te Unit) :=
    Writes.forOption (fun v => wordy_println s!"{name} {v}") value
  have paths (text : OsPath → String) (values : List OsPath) :
      Wordy (values.forM fun p => println (text p) : Program Ag Va Te Unit) :=
    Writes.forM (fun p => wordy_println (text p)) values
  have jump (raw : String) : Wordy (emitProxyJump An raw : Program Ag Va Te Unit) := by
    refine Writes.bind (wordy_println _) fun _ => ?_
    split
    · split
      · exact Writes.forM (fun _ => wordy_println _) _
      · exact wordy_eprintln _
    · exact Writes.pure _
  exact Writes.bind (line "hostname" _) fun _ => Writes.bind (line "user" _) fun _ =>
    Writes.bind (line "port" _) fun _ =>
    Writes.bind (paths (fun p => s!"identityfile {displayPath p args.showSecrets}") _) fun _ =>
    Writes.bind (line "identitiesonly" _) fun _ => Writes.bind (line "identityagent" _) fun _ =>
    Writes.bind (paths (fun p => s!"certificatefile {displayPath p true}") _) fun _ =>
    Writes.bind (line "proxycommand" _) fun _ =>
    Writes.bind (Writes.forOption jump _) fun _ =>
    Writes.bind (paths (fun p => s!"userknownhostsfile {displayPath p true}") _) fun _ =>
    Writes.bind (line "stricthostkeychecking" _) fun _ =>
    Writes.bind (line "hostkeyalgorithms" _) fun _ => Writes.bind (line "kexalgorithms" _) fun _ =>
    Writes.bind (line "ciphers" _) fun _ => Writes.bind (line "macs" _) fun _ =>
    Writes.bind (line "connecttimeout" _) fun _ => line "connectionattempts" _

theorem touches_of_prints {x : Program Ag Va Te PUnit} (prints : OnlyPrints x) :
    Touches [.stdout, .stderr] x := by
  obtain ⟨out, messages, prints⟩ := prints
  intro w
  rw [prints w]
  exact { World.SameBut.refl _ w with
    stdout := fun other => absurd (by decide) other
    stderr := fun other => absurd (by decide) other }

theorem touches_emitHumanShow (args : ConfigShowArgs) (resolved : ResolvedSshConfig) :
    Touches [.stdout, .stderr] (emitHumanShow An args resolved : Program Ag Va Te Unit) := by
  obtain ⟨before, between, after, messages, prints⟩ := prints_emitHumanShow An args resolved
  exact touches_of_prints ⟨_, _, prints resolved.user resolved.identityFiles⟩

theorem answers_config {Co : Type} [SshConfig Co] (files : Co) (sub : ConfigSubcommand)
    (mode : OutputMode) :
    Answers own [.stderr] mode (Config.run An files sub mode : Program Ag Va Te Nat) := by
  cases sub with
  | «show» args =>
    refine Answers.query ?_
    intro env
    refine Answers.query ?_
    intro resolved
    cases mode with
    | human =>
      exact Answers.words (touches_emitHumanShow An args resolved)
        (wordy_emitHumanShow An args resolved) 0
    | json =>
      unfold emitShow emitJsonShow
      dsimp only
      rw [bind_assoc]
      refine Answers.bind (touches_certAndRevokedJson An _ _ _) (by decide) (by decide) ?_
      rintro ⟨certAuthoritiesJson, revokedJson⟩
      dsimp only
      rw [bind_assoc]
      exact Answers.envelope _ _ _ 0

end

/-! ### Known hosts and the catalogue -/

section
open Hosts

variable (Hk : Type) [KnownHosts Hk]

theorem answers_runRevoke (args : HostsRevokeArgs) (mode : OutputMode) :
    Answers own [.files, .stderr] mode (runRevoke Hk args mode : Program Ag Va Te Nat) := by
  refine Answers.query ?_
  intro env
  refine Answers.query ?_
  intro path
  refine Answers.query ?_
  rintro ⟨hostPattern, fingerprint⟩
  refine Answers.onFiles (by decide) ?_
  intro _
  cases mode with
  | json => exact Answers.emit (versioned_envelope _ _ _ _) 0
  | human => exact Answers.message _ (by decide) 0

theorem answers_runListHosts (args : HostsListArgs) (mode : OutputMode) :
    Answers own [] mode (runList Hk args mode : Program Ag Va Te Nat) := by
  refine Answers.query ?_
  intro env
  refine Answers.query ?_
  intro path
  refine Answers.bind (touches_readKnownHosts Hk path) (by simp) (by simp) ?_
  intro parsed
  cases mode with
  | json => exact Answers.emit (versioned_envelope _ _ _ _) 0
  | human => exact Answers.printAll _ _ 0

theorem answers_addProbed (args : HostsAddArgs) (mode : OutputMode) (path fingerprint : String) :
    Answers Refusal [.files, .stdin, .stderr] mode
      (addProbed Hk args mode path fingerprint : Program Ag Va Te Nat) := by
  refine Answers.bind (touches_chooseHashed Hk args path) (by simp) (by simp) ?_
  intro hashed
  refine Answers.eprintln (by decide) ?_
  refine Answers.bind_of (touches_confirm args mode path) (by decide) (by decide)
    (returns_confirm args mode path) ?_
  intro answer refused
  cases answer with
  | some code => exact Answers.declined (refused code rfl)
  | none =>
    unfold append
    dsimp only
    rw [bind_assoc]
    refine Answers.onFiles (by decide) ?_
    intro _
    cases mode with
    | json => exact Answers.envelope _ _ _ 0
    | human => exact Answers.message _ (by decide) 0

end

theorem answers_runListAlgorithms (cat : Discovery.Catalogue) (mode : OutputMode) :
    Answers own [] mode (Discovery.runListAlgorithms cat mode : Program Ag Va Te Nat) := by
  cases mode with
  | json => exact Answers.envelope _ _ _ 0
  | human => exact Answers.printAll id _ 0

theorem answers_runInstall (sys : Platform Ne Ag) (mode : OutputMode) :
    Answers own [.files, .stderr] mode (runInstall sys mode : Program Ag Va Te Nat) := by
  refine Answers.onFiles (by decide) ?_
  intro success
  split
  · cases mode with
    | json => exact Answers.envelope _ _ _ 0
    | human => exact Answers.message _ (by decide) 0
  · exact Answers.fail _

/-! ### Biometric unlock -/

section
open Biometric

theorem answers_emitError (error : BiometricError) (mode : OutputMode) (command : String) :
    Answers own [.stderr] mode (emitError error mode command : Program Ag Va Te Nat) := by
  cases mode with
  | json => exact Answers.envelope _ _ _ _
  | human => exact Answers.message _ (by decide) _

theorem answers_emitResults (mode : OutputMode) (command : String) (results : List Outcome)
    (verb : String) (code : Nat) :
    Answers own [.stderr] mode
      (emitResults mode command results verb >>= fun _ => pure code : Program Ag Va Te Nat) := by
  cases mode with
  | json => exact Answers.envelope _ _ _ code
  | human => exact Answers.messages (touches_eprintAll _ results) (by decide) code

variable [BiometricBackend Va]

theorem answers_runListEnrolled (mode : OutputMode) :
    Answers own [.vault, .stderr] mode (runList mode : Program Ag Va Te Nat) := by
  refine Answers.onVault (by decide) ?_
  intro listed
  cases listed with
  | error error => exact (answers_emitError error mode _).widen (by decide)
  | ok enrolled =>
    cases mode with
    | json => exact Answers.envelope _ _ _ EXIT_OK
    | human =>
      unfold emitEnrolled
      dsimp only
      split
      · exact Answers.message _ (by decide) _
      · exact Answers.printAll _ enrolled _

theorem answers_runStatus (mode : OutputMode) :
    Answers own [.vault] mode (runStatus mode : Program Ag Va Te Nat) := by
  refine Answers.query ?_
  intro available
  refine Answers.query ?_
  intro tier
  refine Answers.bind (touches_countEnrolled available) (by decide) (by decide) ?_
  intro enrolled
  cases mode with
  | json => exact Answers.envelope _ _ _ EXIT_OK
  | human =>
    have counting : Touches [.stdout, .vault]
        (enrolled.forM fun count => println s!"enrolled:  {count}" : Program Ag Va Te PUnit) :=
      Moves.forOption (fun _ => touches_println (by decide) _) enrolled
    have told : Wordy
        (enrolled.forM fun count => println s!"enrolled:  {count}" : Program Ag Va Te PUnit) :=
      Writes.forOption (fun _ => wordy_println _) enrolled
    exact Answers.word _ (Answers.word _ (Answers.word _ (Answers.words counting told _)))

variable (Priv : Type) {Pub : Type} [PublicKey Pub] [PrivateKey Priv Pub]

theorem answers_runForget (args : BiometricForgetArgs) (mode : OutputMode) :
    Answers own [.vault, .stderr] mode (runForget Priv args mode : Program Ag Va Te Nat) := by
  unfold runForget
  split
  · refine Answers.onVault (by decide) ?_
    intro listed
    cases listed with
    | error error => exact (answers_emitError error mode _).widen (by decide)
    | ok enrolled =>
      refine Answers.bind (touches_collect (fun key => touches_forgetOne _ _ _) enrolled)
        (by decide) (by decide) ?_
      rintro ⟨results, exit⟩
      exact (answers_emitResults mode _ results _ exit).widen (by decide)
  split
  · exact Answers.fail _
  · refine Answers.bind (touches_collect (touches_forgetFile Priv) args.files) (by decide)
      (by decide) ?_
    rintro ⟨results, exit⟩
    exact (answers_emitResults mode _ results _ exit).widen (by decide)

theorem answers_runEnroll [Terminal Te] (args : BiometricEnrollArgs) (mode : OutputMode) :
    Answers own [.vault, .terminal, .stderr] mode
      (runEnroll Priv args mode : Program Ag Va Te Nat) := by
  have enrolling : Answers own [.vault, .terminal, .stderr] mode (do
      let paths ← resolvePaths args.files
      let found ← collect (enrollOne Priv) paths
      emitResults mode "gitway biometric enroll" found.1 "enrolled"
      return found.2 : Program Ag Va Te Nat) := by
    have resolved : Touches [] (resolvePaths args.files : Program Ag Va Te (List String)) := by
      unfold resolvePaths
      split
      · exact Moves.query _
      · exact Moves.pure _
    refine Answers.bind resolved (by simp) (by simp) ?_
    intro paths
    refine Answers.bind (touches_collect (touches_enrollOne Priv) paths) (by decide)
      (by decide) ?_
    rintro ⟨results, exit⟩
    exact (answers_emitResults mode _ results _ exit).widen (by decide)
  refine Answers.query ?_
  intro available
  refine Answers.query ?_
  intro tier
  split
  · exact (answers_emitError _ mode _).widen (by decide)
  dsimp only
  split
  · exact Answers.eprintln (by decide) enrolling
  · exact enrolling

end

/-! ### Processes -/

/-- The same of a command that needs more than a world. -/
structure Command.Answers (own : UInt32 → Prop) (parts : List Part) (mode : OutputMode)
    (x : Command Ne Ag Va Te UInt32) : Prop where
  touches : Command.Touches (.stdout :: parts) x
  speaks : Logs (fun p => p.world.stdout) (Speaks own mode) x

theorem Speaks.map {κ κ' : Type} {own : κ → Prop} {own' : κ' → Prop} {mode : OutputMode}
    {f : κ → κ'} (codes : ∀ code, own code → own' (f code)) {r : Except AnvilError κ}
    {piece : List Emitted} (speaks : Speaks own mode r piece) : Speaks own' mode (f <$> r) piece := by
  cases mode with
  | human => exact speaks
  | json =>
    cases speaks with
    | failed e => exact Answered.failed e
    | document code v versioned => exact Answered.document (f code) v versioned
    | declined code declines => exact Answered.declined (f code) (codes code declines)

theorem Command.Answers.exitWith {own' : UInt32 → Prop} {parts : List Part} {mode : OutputMode}
    {x : Program Ag Va Te Nat} (answers : Gitway.Answers own parts mode x)
    (codes : ∀ code, own code → own' (UInt32.ofNat code)) :
    Command.Answers own' parts mode (Gitway.exitWith x : Command Ne Ag Va Te UInt32) where
  touches := Moves.map _ (Command.touches_onWorld answers.touches)
  speaks p := by
    obtain ⟨piece, printed, spoken⟩ := answers.speaks p.world
    refine ⟨piece, ?_, ?_⟩
    · rw [exitWith_run]
      exact printed
    · rw [exitWith_run]
      exact spoken.map codes

/-- A step that prints nothing comes first. -/
theorem Command.Answers.bind {α : Type} {own : UInt32 → Prop} {parts parts' : List Part}
    {mode : OutputMode} {x : Command Ne Ag Va Te α} {f : α → Command Ne Ag Va Te UInt32}
    (first : Command.Touches parts' x) (listed : ∀ part ∈ parts', part ∈ parts)
    (quiet : .stdout ∉ parts') (rest : ∀ a, Command.Answers own parts mode (f a)) :
    Command.Answers own parts mode (x >>= f) where
  touches := Moves.bind (first.widen fun part member => List.mem_cons_of_mem _ (listed part member))
    fun a => (rest a).touches
  speaks := Logs.bind_ends ⟨fun p => ((first p).world).stdout quiet,
    fun _ _ _ _ => (trivial : True)⟩ (speaks_failed own mode) fun a _ => (rest a).speaks

/-! ### A test of the connection -/

/-- The outcome of a test with what it leaves on standard output. With JSON asked for, the
document of a connection that was closed is printed before a failed authentication counts. -/
def Tested (mode : OutputMode) (r : Except AnvilError UInt32) (piece : List Emitted) : Prop :=
  match mode with
  | .human => piece = []
  | .json => Answered (fun _ => False) r piece ∨
      ∃ e v, r = .error e ∧ piece = [.json v] ∧ v.Versioned

theorem tested_failed (mode : OutputMode) (e : AnvilError) : Tested mode (.error e) [] := by
  cases mode with
  | human => rfl
  | json => exact Or.inl (Answered.failed e)

structure Tests (mode : OutputMode) (x : Command Ne Ag Va Te UInt32) : Prop where
  touches : Command.Touches (.stdout :: sessionParts) x
  speaks : Logs (fun p => p.world.stdout) (Tested mode) x

/-- The rule for a step of a test that prints nothing. -/
theorem Tests.bind {α : Type} {mode : OutputMode} {x : Command Ne Ag Va Te α}
    {f : α → Command Ne Ag Va Te UInt32} (first : Command.Touches sessionParts x)
    (rest : ∀ a, Tests mode (f a)) : Tests mode (x >>= f) where
  touches := Moves.bind (first.widen (by decide)) fun a => (rest a).touches
  speaks := Logs.bind_ends ⟨fun p => ((first p).world).stdout (by decide),
    fun _ _ _ _ => (trivial : True)⟩ (tested_failed mode) fun a _ => (rest a).speaks

section
open Transport

variable (an : AnvilSession Ne Ag) (An : Type) [Config.Anvil An]

theorem emitTestJson_run (config : AnvilConfig) (found : TestReport) (w : World Ag Va Te) :
    ∃ v messages, v.Versioned ∧ emitTestJson An config found w =
      (.ok (), { w with stdout := w.stdout ++ [.json v], stderr := w.stderr ++ messages }) := by
  obtain ⟨pair, messages, trust⟩ := Config.certAndRevokedJson_run An config.host
    config.customKnownHosts "gitway --test" w
  refine ⟨_, messages,
    versioned_envelope w.env s!"gitway --test --host {config.host}" "data" ?_, ?_⟩
  rotate_left
  · unfold emitTestJson
    rw [Fallible.bind_of_ok trust]
    rfl

/-- The end of a test with JSON asked for is the one that prints. -/
theorem tests_finishTest (config : AnvilConfig) (mode : OutputMode) (fingerprint : Option String)
    (retryAttempts : List Json) (authResult : Except AnvilError Unit) :
    Tests mode (finishTest an An config mode fingerprint retryAttempts authResult :
      Command Ne Ag Va Te UInt32) := by
  refine Tests.bind (Moves.query _) ?_
  intro banner
  refine Tests.bind ((touches_close an).widen (by decide)) ?_
  intro _
  cases mode with
  | human => exact ⟨Moves.pure _, Logs.pure rfl⟩
  | json =>
    constructor
    · refine Moves.bind (Command.touches_onWorld fun w => ?_) fun _ => ?_
      · obtain ⟨v, messages, _, ran⟩ := emitTestJson_run An config
          ⟨fingerprint, retryAttempts, authResult, banner⟩ w
        rw [ran]
        exact { World.SameBut.refl _ w with
          stdout := fun other => absurd (by decide) other
          stderr := fun other => absurd (by decide) other }
      · cases authResult with
        | ok => exact Moves.pure _
        | error e =>
          dsimp only
          split
          · exact Moves.pure _
          · exact Moves.fail e
    · intro p
      obtain ⟨v, messages, versioned, ran⟩ := emitTestJson_run An config
        ⟨fingerprint, retryAttempts, authResult, banner⟩ p.world
      have emitted : Command.onWorld (emitTestJson An config
          ⟨fingerprint, retryAttempts, authResult, banner⟩) p = (.ok (), { p with
            world := { p.world with
              stdout := p.world.stdout ++ [.json v], stderr := p.world.stderr ++ messages } }) := by
        rw [Command.onWorld_run, ran]
      dsimp only
      rw [Fallible.bind_of_ok emitted]
      -- The document is out, and the error may still follow.
      cases authResult with
      | ok => exact ⟨[.json v], rfl, Or.inl (Answered.document 0 v versioned)⟩
      | error e =>
        dsimp only
        split
        · exact ⟨[.json v], rfl, Or.inl (Answered.document 0 v versioned)⟩
        · exact ⟨[.json v], rfl, Or.inr ⟨e, v, rfl, rfl, versioned⟩⟩

theorem tests_concludeTest (r : Request) (mode : OutputMode) (fingerprint : Option String)
    (retryAttempts : List Json) (authResult : Except AnvilError Unit) :
    Tests mode (concludeTest an An r mode fingerprint retryAttempts authResult :
      Command Ne Ag Va Te UInt32) := by
  have finished : Tests mode (finishTest an An r.config mode fingerprint retryAttempts authResult :
      Command Ne Ag Va Te UInt32) :=
    tests_finishTest an An r.config mode fingerprint retryAttempts authResult
  have told (s : String) : Command.Touches sessionParts
      (Command.eprintln s : Command Ne Ag Va Te Unit) :=
    Command.touches_onWorld (touches_eprintln (by decide) s)
  cases mode with
  | json => exact finished
  | human =>
    cases authResult with
    | ok =>
      refine Tests.bind (told _) ?_
      intro _
      refine Tests.bind (Moves.query _) ?_
      intro banner
      exact Tests.bind (Moves.forOption told banner) fun _ => finished
    | error e =>
      unfold concludeTest
      dsimp only
      split
      · exact Tests.bind (told _) fun _ => finished
      · exact Tests.bind (Moves.attempt ((touches_close an).widen (by decide))) fun _ =>
          ⟨Moves.fail e, Logs.fail rfl⟩

theorem tests_runTest (Priv : Type) {Pub : Type} [PublicKey Pub] [PrivateKey Priv Pub]
    [BiometricVault Va] [Terminal Te] (r : Request) (mode : OutputMode) :
    Tests mode (runTest Priv an An r mode : Command Ne Ag Va Te UInt32) := by
  refine Tests.bind (touches_maybeCollectPassphrase Priv an r.config) ?_
  intro collected
  refine Tests.bind (Command.touches_tellHuman (by decide) _ _) ?_
  intro _
  refine Tests.bind ((touches_open an _ _).widen (by decide)) ?_
  intro _
  refine Tests.bind (Moves.query _) ?_
  intro fingerprint
  refine Tests.bind (Moves.query _) ?_
  intro attempts
  refine Tests.bind (Command.touches_tellHuman (by decide) _ _) ?_
  intro _
  refine Tests.bind (Moves.attempt ?_) fun authResult =>
    tests_concludeTest an An r mode fingerprint attempts authResult
  cases collected with
  | none => exact touches_authenticateWithPrompt Priv an r.config
  | some pair => exact touches_authenticateWithPassphrase an r.config pair.2 pair.1

end

end Gitway
