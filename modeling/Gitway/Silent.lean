import Gitway.Frames
import Gitway.Hosts.Consent

/-!
# Commands that report no failure

The commands that open a session, and those that return codes of their own. None of them
writes an error envelope or a `gitway diag` line, so that both are left to `main`.
-/
namespace Gitway

open Lib Fallible

variable {Ne Ag Va Te α : Type}

/-! ### Steps of a process -/

namespace Command

/-- The computation reports no failure. -/
abbrev Silent (x : Command Ne Ag Va Te α) : Prop := Keeps Process.failures x

theorem silent_onWorld {x : Program Ag Va Te α} (mild : Program.Mild x) :
    Silent (onWorld x : Command Ne Ag Va Te α) := by
  intro p
  simp only [onWorld_run, Process.failures, Process.envelopes, Process.diagLines, mild p.world]

theorem silent_onNetwork (op : Ne → Except AnvilError α × Ne) :
    Silent (onNetwork op : Command Ne Ag Va Te α) := fun _ => rfl

theorem silent_onConnection (op : FileSystem × Ne → Except AnvilError α × FileSystem × Ne) :
    Silent (onConnection op : Command Ne Ag Va Te α) := fun _ => rfl

/-- What the remote command writes is bytes, and no envelope of our own. -/
theorem silent_relay (op : Except IoError ByteArray → Ne → Except AnvilError α × Relayed Ne) :
    Silent (relay op : Command Ne Ag Va Te α) := by
  intro p
  simp [relay, Process.failures, Process.envelopes, Process.diagLines, World.envelopes,
    Emitted.errorEnvelope]

theorem silent_record (call : SessionCall) :
    Silent (record call : Command Ne Ag Va Te Unit) := fun _ => rfl

theorem silent_eprintln (s : String) : Silent (eprintln s : Command Ne Ag Va Te Unit) :=
  silent_onWorld (Program.mild_eprintln s)

theorem silent_tellHuman (mode : OutputMode) (s : String) :
    Silent (tellHuman mode s : Command Ne Ag Va Te Unit) := by
  cases mode with
  | human => exact silent_eprintln s
  | json => exact Keeps.pure ()

theorem silent_reportJson {v : Json} (harmless : v.errorEnvelope = none) :
    Silent (report (.json v) : Command Ne Ag Va Te Unit) := by
  intro p
  simp [Process.failures, Process.envelopes, Process.diagLines, Report.errorEnvelope,
    Report.isDiag, harmless]

end Command

/-- A line is no envelope. -/
theorem failures_say (p : Process Ne Ag Va Te) (out messages : List String) :
    (p.say out messages).failures = p.failures := by
  have lines : (out.map Emitted.line).filterMap Emitted.errorEnvelope = [] := by
    simp [Emitted.errorEnvelope]
  simp [Process.say, Process.failures, Process.envelopes, Process.diagLines, World.envelopes, lines]

open Command

/-! ### Sessions -/

section
variable (an : Transport.AnvilSession Ne Ag)

theorem silent_open (config : Transport.AnvilConfig) (dial : Transport.Dial Config.JumpHost) :
    Silent (an.open_ config dial : Command Ne Ag Va Te Unit) :=
  Keeps.bind (silent_onConnection _) fun _ => silent_record _

theorem silent_inTempdir {x : Command Ne Ag Va Te α} (silent : Silent x) :
    Silent (Hosts.inTempdir x) := silent

theorem silent_authenticateWithPassphrase (config : Transport.AnvilConfig)
    (path passphrase : String) :
    Silent (Transport.authenticateWithPassphrase an config path passphrase :
      Command Ne Ag Va Te Unit) :=
  Keeps.bind (Keeps.query _) fun _ => silent_onNetwork _

end

section
variable (Priv : Type) {Pub : Type} [PublicKey Pub] [PrivateKey Priv Pub]
  [BiometricVault Va] [Terminal Te] (an : Transport.AnvilSession Ne Ag)

theorem silent_promptPassphrase (path : String) :
    Silent (Transport.promptPassphrase Priv path : Command Ne Ag Va Te String) :=
  Keeps.bind (silent_record _) fun _ => silent_onWorld (mild_promptPassphrase Priv path)

theorem silent_maybeCollectPassphrase (config : Transport.AnvilConfig) :
    Silent (Transport.maybeCollectPassphrase Priv an config :
      Command Ne Ag Va Te (Option (String × String))) := by
  apply Keeps.bind (Keeps.query _)
  intro identity
  cases identity with
  | encrypted path =>
    apply Keeps.bind (Keeps.query _)
    intro held
    split
    · exact Keeps.pure _
    · exact Keeps.bind (silent_promptPassphrase Priv path) fun _ => Keeps.pure _
  | found path => exact Keeps.pure _
  | notFound => exact Keeps.pure _

theorem silent_authenticateWithPrompt (config : Transport.AnvilConfig) :
    Silent (Transport.authenticateWithPrompt Priv an config : Command Ne Ag Va Te Unit) := by
  have best : Silent (Transport.authenticateBest an config : Command Ne Ag Va Te Unit) :=
    Keeps.bind (Keeps.query _) fun _ => silent_onNetwork _
  have reclassified (e : AnvilError) : Silent
      (Transport.reclassifyNoKeyFound an config e : Command Ne Ag Va Te AnvilError) :=
    Keeps.bind (Keeps.attempt (Keeps.query _)) fun _ =>
      Keeps.bind (Keeps.query _) fun _ => Keeps.pure _
  apply Keeps.bind (Keeps.attempt best)
  intro outcome
  cases outcome with
  | ok done => exact Keeps.pure ()
  | error e =>
    dsimp only
    -- An encrypted key is asked for once more, and any other failure is handed on.
    split
    · apply Keeps.bind (Keeps.query _)
      intro identity
      cases identity with
      | encrypted path =>
        exact Keeps.bind (silent_promptPassphrase Priv path) fun passphrase =>
          silent_authenticateWithPassphrase an config path passphrase
      | found path => exact Keeps.fail _
      | notFound => exact Keeps.fail _
    split
    · exact Keeps.bind (reclassified e) fun _ => Keeps.fail _
    · exact Keeps.fail e

theorem silent_runExec (r : Transport.Request) (commandParts : List String) :
    Silent (Transport.runExec Priv an r commandParts : Command Ne Ag Va Te UInt32) := by
  have ending : Silent (relay (an.exec (" ".intercalate commandParts)) >>= fun exitCode =>
      Transport.close an >>= fun _ => pure exitCode : Command Ne Ag Va Te UInt32) :=
    Keeps.bind (silent_relay _) fun _ => Keeps.bind (silent_onNetwork _) fun _ => Keeps.pure _
  apply Keeps.bind (silent_maybeCollectPassphrase Priv an r.config)
  intro collected
  apply Keeps.bind (silent_open an _ _)
  intro _
  cases collected with
  | none => exact Keeps.bind (silent_authenticateWithPrompt Priv an r.config) fun _ => ending
  | some pair =>
    exact Keeps.bind (silent_authenticateWithPassphrase an r.config pair.2 pair.1) fun _ => ending

end

section
variable (an : Transport.AnvilSession Ne Ag) (An : Type) [Config.Anvil An]

theorem mild_emitTestJson (config : Transport.AnvilConfig) (found : Transport.TestReport) :
    Program.Mild (Transport.emitTestJson An config found : Program Ag Va Te Unit) := by
  apply Keeps.bind (mild_certAndRevokedJson An _ _ _)
  rintro ⟨certAuthoritiesJson, revokedJson⟩
  exact Program.mild_emitData _ _

theorem ends_finishTest (config : Transport.AnvilConfig) (mode : OutputMode)
    (fingerprint : Option String) (retryAttempts : List Json)
    (authResult : Except AnvilError Unit) :
    Ends Process.failures (fun code => code = 0)
      (Transport.finishTest an An config mode fingerprint retryAttempts authResult :
        Command Ne Ag Va Te UInt32) := by
  apply Ends.bind (Keeps.query _)
  intro banner
  apply Ends.bind (silent_onNetwork _)
  intro _
  cases mode with
  | human => exact Ends.pure rfl
  | json =>
    apply Ends.bind (silent_onWorld (mild_emitTestJson An config _))
    intro _
    cases authResult with
    | ok done => exact Ends.pure rfl
    | error e =>
      dsimp only
      split
      · exact Ends.pure rfl
      · exact Ends.fail e

theorem ends_concludeTest (r : Transport.Request) (mode : OutputMode)
    (fingerprint : Option String) (retryAttempts : List Json)
    (authResult : Except AnvilError Unit) :
    Ends Process.failures (fun code => code = 0)
      (Transport.concludeTest an An r mode fingerprint retryAttempts authResult :
        Command Ne Ag Va Te UInt32) := by
  have finished : Ends Process.failures (fun code => code = 0)
      (Transport.finishTest an An r.config mode fingerprint retryAttempts authResult :
        Command Ne Ag Va Te UInt32) :=
    ends_finishTest an An r.config mode fingerprint retryAttempts authResult
  -- The JSON report carries a failure itself, so the status is 0.
  cases mode with
  | json => exact finished
  | human =>
    cases authResult with
    | ok done =>
      apply Ends.bind (silent_eprintln _)
      intro _
      apply Ends.bind (Keeps.query _)
      intro banner
      refine Ends.bind ?_ fun _ => finished
      cases banner with
      | none => exact Keeps.pure ()
      | some text => exact silent_eprintln text
    | error e =>
      unfold Transport.concludeTest
      dsimp only
      split
      · exact Ends.bind (silent_eprintln _) fun _ => finished
      · exact Ends.bind (Keeps.attempt (silent_onNetwork _)) fun _ => Ends.fail e

end

section
variable (Priv : Type) {Pub : Type} [PublicKey Pub] [PrivateKey Priv Pub]
  [BiometricVault Va] [Terminal Te] (an : Transport.AnvilSession Ne Ag)
  (An : Type) [Config.Anvil An]

/-- A test of the connection ends with zero or with an error. -/
theorem ends_runTest (r : Transport.Request) (mode : OutputMode) :
    Ends Process.failures (fun code => code = 0)
      (Transport.runTest Priv an An r mode : Command Ne Ag Va Te UInt32) := by
  apply Ends.bind (silent_maybeCollectPassphrase Priv an r.config)
  intro collected
  apply Ends.bind (silent_tellHuman _ _)
  intro _
  apply Ends.bind (silent_open an _ _)
  intro _
  apply Ends.bind (Keeps.query _)
  intro fingerprint
  apply Ends.bind (Keeps.query _)
  intro attempts
  apply Ends.bind (silent_tellHuman _ _)
  intro _
  refine Ends.bind (Keeps.attempt ?_) fun authResult =>
    ends_concludeTest an An r mode fingerprint attempts authResult
  cases collected with
  | none => exact silent_authenticateWithPrompt Priv an r.config
  | some pair => exact silent_authenticateWithPassphrase an r.config pair.2 pair.1

end

/-! ### Signatures -/

section
variable (Priv : Type) {Pub Signers : Type} [PublicKey Pub] [PrivateKey Priv Pub]
  [Keygen.Signatures Priv Signers] [BiometricVault Va] [Terminal Te]
  (an : Transport.AnvilSession Ne Ag)

theorem ends_sign (args : Sign.SignArgs) (mode : OutputMode) :
    Ends Process.failures (fun code => code = 0)
      (Sign.run Priv an args mode : Command Ne Ag Va Te UInt32) := by
  have found : Silent (Sign.resolveKeyPath an args.key : Command Ne Ag Va Te String) := by
    unfold Sign.resolveKeyPath
    split
    · exact Keeps.pure _
    · refine Keeps.bind (Keeps.query _) fun identity => ?_
      cases identity with
      | found path => exact Keeps.pure _
      | encrypted path => exact Keeps.pure _
      | notFound => exact Keeps.fail _
  have loaded (path : String) :
      Program.Mild (Sign.loadAndDecrypt Priv path : Program Ag Va Te Priv) := by
    apply Keeps.bind (Keeps.query _)
    intro pem
    apply Keeps.bind (Keeps.query _)
    intro key
    split
    · exact Keeps.pure _
    · exact Keeps.bind (mild_promptPassphrase Priv path) fun _ => Keeps.query _
  apply Ends.bind found
  intro path
  apply Ends.bind (silent_onWorld (loaded path))
  intro key
  apply Ends.bind (silent_onWorld (mild_openInput args.input))
  intro reader
  apply Ends.bind (Keeps.query _)
  intro armored
  have written : Silent (onWorld (Keygen.writeOutput args.output armored.toUTF8) :
      Command Ne Ag Va Te Unit) :=
    silent_onWorld (mild_writeOutput args.output armored.toUTF8)
  cases mode with
  | human => exact Ends.bind written fun _ => Ends.pure rfl
  | json =>
    apply Ends.bind written
    intro _
    apply Ends.bind (silent_onWorld (Keeps.query _))
    intro env
    -- The record of a signature is a success envelope on standard error.
    exact Ends.bind (silent_reportJson (errorEnvelope_data _ _)) fun _ => Ends.pure rfl

end

/-! ### Commands with codes of their own -/

theorem mild_emitResults (mode : OutputMode) (command : String)
    (results : List Biometric.Outcome) (verb : String) :
    Program.Mild (Biometric.emitResults mode command results verb : Program Ag Va Te Unit) := by
  cases mode with
  | json => exact Program.mild_emitData _ _
  | human => exact Keeps.forM (fun _ => Program.mild_eprintln _) results

/-- The envelope of a keystore error is none that counts. -/
theorem mild_emitError (error : BiometricError) (mode : OutputMode) (command : String) :
    Program.Mild (Biometric.emitError error mode command : Program Ag Va Te Nat) := by
  cases mode with
  | json =>
    exact Keeps.bind (Keeps.query _) fun _ =>
      Keeps.bind (Program.mild_emitJson (errorEnvelope_brief _ _ _)) fun _ => Keeps.pure _
  | human => exact Keeps.bind (Program.mild_eprintln _) fun _ => Keeps.pure _

theorem mild_collect {β : Type} {one : β → Program Ag Va Te Biometric.Outcome}
    (each : ∀ item, Program.Mild (one item)) (items : List β) :
    Program.Mild (Biometric.collect one items) :=
  Keeps.foldlM (fun _ item => Keeps.bind (each item) fun _ => Keeps.pure _) items _

/-- A batch, and the report of its outcomes. -/
theorem mild_batch {β : Type} {one : β → Program Ag Va Te Biometric.Outcome}
    (each : ∀ item, Program.Mild (one item)) (items : List β) (mode : OutputMode)
    (command verb : String) :
    Program.Mild (Biometric.collect one items >>= fun report =>
      Biometric.emitResults mode command report.1 verb >>= fun _ => pure report.2) :=
  Keeps.bind (mild_collect each items) fun _ =>
    Keeps.bind (mild_emitResults mode command _ verb) fun _ => Keeps.pure _

section
variable (Priv : Type) {Pub : Type} [PublicKey Pub] [PrivateKey Priv Pub]
  [Biometric.BiometricBackend Va]

theorem mild_forgetOne (target id fingerprint : String) :
    Program.Mild (Biometric.forgetOne target id fingerprint :
      Program Ag Va Te Biometric.Outcome) := by
  apply Keeps.bind (Program.mild_onVault _)
  intro answer
  cases answer with
  | ok done => exact Keeps.pure _
  | error e => exact Keeps.pure _

theorem mild_runForget (args : Biometric.BiometricForgetArgs) (mode : OutputMode) :
    Program.Mild (Biometric.runForget Priv args mode : Program Ag Va Te Nat) := by
  have forgetting (path : String) :
      Program.Mild (Biometric.forgetFile Priv path : Program Ag Va Te Biometric.Outcome) := by
    apply Keeps.bind (Keeps.query _)
    intro key
    cases key with
    | error message => exact Keeps.pure _
    | ok key => exact mild_forgetOne _ _ _
  unfold Biometric.runForget
  split
  · apply Keeps.bind (Program.mild_onVault _)
    intro listed
    cases listed with
    | error e => exact mild_emitError e mode _
    | ok enrolled => exact mild_batch (fun key => mild_forgetOne _ _ _) enrolled mode _ _
  split
  · exact Keeps.fail _
  · exact mild_batch forgetting args.files mode _ _

theorem mild_runListEnrolled (mode : OutputMode) :
    Program.Mild (Biometric.runList mode : Program Ag Va Te Nat) := by
  apply Keeps.bind (Program.mild_onVault _)
  intro listed
  cases listed with
  | error e => exact mild_emitError e mode _
  | ok enrolled =>
    refine Keeps.bind ?_ fun _ => Keeps.pure _
    cases mode with
    | json => exact Program.mild_emitData _ _
    | human =>
      unfold Biometric.emitEnrolled
      dsimp only
      split
      · exact Program.mild_eprintln _
      · exact Keeps.forM (fun _ => Program.mild_println _) enrolled

variable [Terminal Te]

theorem mild_runEnroll (args : Biometric.BiometricEnrollArgs) (mode : OutputMode) :
    Program.Mild (Biometric.runEnroll Priv args mode : Program Ag Va Te Nat) := by
  -- Prompt and keystore report nothing, and the results are no error envelope.
  have enrolling (path : String) :
      Program.Mild (Biometric.enrollOne Priv path : Program Ag Va Te Biometric.Outcome) := by
    apply Keeps.bind (Keeps.query _)
    intro read
    cases read with
    | error message => exact Keeps.pure _
    | ok key =>
      dsimp only
      split
      · exact Keeps.pure _
      apply Keeps.bind
        (Prompt.keeps_promptPassphraseInteractive Program.backstage_envelopes.toAside path)
      intro passphrase
      split
      · exact Keeps.pure _
      · apply Keeps.bind (Program.mild_onVault _)
        intro stored
        cases stored with
        | ok done => exact Keeps.pure _
        | error e => exact Keeps.pure _
  have named : Program.Mild (Biometric.resolvePaths args.files :
      Program Ag Va Te (List String)) := by
    unfold Biometric.resolvePaths
    split
    · exact Keeps.query _
    · exact Keeps.pure _
  have enrolled : Program.Mild (Biometric.resolvePaths args.files >>= fun paths =>
      Biometric.collect (Biometric.enrollOne Priv) paths >>= fun report =>
        Biometric.emitResults mode "gitway biometric enroll" report.1 "enrolled" >>= fun _ =>
          pure report.2 : Program Ag Va Te Nat) :=
    Keeps.bind named fun paths => mild_batch enrolling paths mode _ _
  apply Keeps.bind (Keeps.query _)
  intro available
  apply Keeps.bind (Keeps.query _)
  intro tier
  split
  · exact mild_emitError _ mode _
  dsimp only
  split
  · exact Keeps.bind (Program.mild_eprintln _) fun _ => enrolled
  · exact enrolled

end

section
variable (Hk : Type) [Hosts.KnownHosts Hk] (an : Transport.AnvilSession Ne Ag) (B : Type)
  [Transport.ConfigBuilder B] (tempdir : FileSystem → Except String Config.OsPath)

theorem mild_confirm (args : Hosts.HostsAddArgs) (mode : OutputMode) (path : String) :
    Program.Mild (Hosts.confirm args mode path : Program Ag Va Te (Option Nat)) := by
  have line : Program.Mild (Hosts.readLine : Program Ag Va Te (Except IoError String)) := by
    intro w
    unfold Hosts.readLine
    cases w.stdin <;> rfl
  unfold Hosts.confirm
  split
  · exact Keeps.pure _
  · apply Keeps.bind (Keeps.query _)
    intro env
    split
    · exact Keeps.bind (Program.mild_eprintln _) fun _ => Keeps.pure _
    · apply Keeps.bind (Program.mild_eprintln _)
      intro _
      apply Keeps.bind line
      intro answer
      apply Keeps.bind (Keeps.query _)
      intro response
      split
      · exact Keeps.pure _
      · exact Keeps.bind (Program.mild_eprintln _) fun _ => Keeps.pure _

theorem mild_append (args : Hosts.HostsAddArgs) (mode : OutputMode) (path fingerprint : String)
    (hashed : Bool) :
    Program.Mild (Hosts.append Hk args mode path fingerprint hashed :
      Program Ag Va Te Unit) := by
  apply Keeps.bind (Program.mild_onFiles _)
  intro _
  cases mode with
  | json => exact Program.mild_emitData _ _
  | human => exact Program.mild_eprintln _

theorem silent_runAddHost (args : Hosts.HostsAddArgs) (mode : OutputMode) :
    Silent (Hosts.runAdd Hk an B tempdir args mode : Command Ne Ag Va Te Nat) := by
  have probed : Silent (Hosts.probe an B tempdir args.host : Command Ne Ag Va Te String) := by
    apply Keeps.bind (Keeps.query _)
    intro dir
    apply Keeps.bind (silent_inTempdir (silent_open an _ _))
    intro _
    apply Keeps.bind (Keeps.query _)
    intro captured
    cases captured with
    | none => exact Keeps.fail _
    | some fingerprint => exact Keeps.bind (silent_onNetwork _) fun _ => Keeps.pure _
  apply Keeps.bind (Keeps.query _)
  intro path
  apply Keeps.bind probed
  intro fingerprint
  refine silent_onWorld (Keeps.bind ?_ fun hashed => ?_)
  · intro w
    exact congrArg World.envelopes (Hosts.keeps_chooseHashed Hk args path w)
  apply Keeps.bind (Program.mild_eprintln _)
  intro _
  apply Keeps.bind (mild_confirm args mode path)
  intro refusal
  cases refusal with
  | some code => exact Keeps.pure _
  | none =>
    exact Keeps.bind (mild_append Hk args mode path fingerprint hashed) fun _ => Keeps.pure _

end

end Gitway
