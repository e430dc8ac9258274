import Gitway.Envelopes

/-!
# Commands that return nothing but zero

One lemma for each command: it writes no error envelope, and where it returns a code, that
is zero. The commands that return others are left to their own modules.
-/
namespace Gitway

open Lib Fallible Program

variable {Ne Ag Va Te : Type}

/-- The program writes no error envelope and returns no code but zero. -/
abbrev Plain (x : Program Ag Va Te Nat) : Prop := Ends World.envelopes (fun code => code = 0) x

/-! ### The last step of a command -/

theorem plain_emitData (command : String) (data : Json) :
    Plain (environment >>= fun env =>
      emitJson (.obj [("metadata", metadataBlock env command), ("data", data)]) >>= fun _ =>
        pure 0 : Program Ag Va Te Nat) := by
  apply Ends.bind (Keeps.query _)
  intro env
  exact Ends.bind (mild_emitJson (errorEnvelope_data _ _)) fun _ => Ends.pure rfl

theorem plain_println (s : String) :
    Plain (println s >>= fun _ => pure 0 : Program Ag Va Te Nat) :=
  Ends.bind (mild_println s) fun _ => Ends.pure rfl

theorem plain_eprintln (s : String) :
    Plain (eprintln s >>= fun _ => pure 0 : Program Ag Va Te Nat) :=
  Ends.bind (mild_eprintln s) fun _ => Ends.pure rfl

/-! ### Keys -/

section
variable {Priv Pub Signers : Type} [PublicKey Pub] [PrivateKey Priv Pub]

open Keygen

section
variable [Terminal Te]

theorem mild_typeNewPassphrase (path : String) :
    Mild (typeNewPassphrase path : Program Ag Va Te String) := by
  apply Keeps.bind (mild_promptPassword _)
  intro typed
  apply Keeps.bind (Keeps.query _)
  intro first
  split
  · exact Keeps.pure _
  apply Keeps.bind (mild_promptPassword _)
  intro retyped
  apply Keeps.bind (Keeps.query _)
  intro confirm
  split
  · exact Keeps.fail _
  · exact Keeps.pure _

variable [BiometricVault Va] (Priv)

theorem mild_promptPassphrase (path : String) :
    Mild (Prompt.promptPassphrase Priv path : Program Ag Va Te String) :=
  Prompt.keeps_promptPassphrase Priv backstage_envelopes path

theorem mild_promptNewPassphrase (path : String) :
    Mild (promptNewPassphrase Priv path : Program Ag Va Te String) := by
  apply Keeps.bind (Keeps.query _)
  intro env
  split
  · exact mild_promptPassphrase Priv path
  · exact mild_typeNewPassphrase path

theorem mild_resolveNewPassphrase (file : String) (explicit : Option String)
    (noPassphrase : Bool) :
    Mild (resolveNewPassphrase Priv file explicit noPassphrase :
      Program Ag Va Te (Option String)) := by
  unfold resolveNewPassphrase
  split
  · exact Keeps.pure _
  cases explicit with
  | some s => exact Keeps.pure _
  | none => exact Keeps.bind (mild_promptNewPassphrase Priv file) fun _ => Keeps.pure _

variable {Priv} in
theorem mild_oldPassphrase (args : ChangePassphraseArgs) (loaded : Priv) :
    Mild (oldPassphrase Priv args loaded : Program Ag Va Te (Option String)) := by
  unfold oldPassphrase
  split
  · cases args.oldPassphrase with
    | some s => exact Keeps.pure _
    | none => exact Keeps.bind (mild_promptPassphrase Priv args.file) fun _ => Keeps.pure _
  · exact Keeps.pure _

theorem mild_newPassphrase (args : ChangePassphraseArgs) :
    Mild (newPassphrase Priv args : Program Ag Va Te (Option String)) := by
  unfold newPassphrase
  split
  · exact Keeps.pure _
  cases args.newPassphrase with
  | some s => exact Keeps.pure _
  | none => exact Keeps.bind (mild_promptNewPassphrase Priv args.file) fun _ => Keeps.pure _

variable [Writer Priv]

theorem plain_runGenerate (args : GenerateArgs) (mode : OutputMode) :
    Plain (runGenerate Priv args mode : Program Ag Va Te Nat) := by
  apply Ends.bind (Keeps.query _)
  rintro ⟨kind, bits⟩
  apply Ends.bind (Keeps.query _)
  intro env
  apply Ends.bind (mild_resolveNewPassphrase Priv args.file args.passphrase args.noPassphrase)
  intro passphrase
  apply Ends.bind (Keeps.query _)
  intro key
  apply Ends.bind (mild_onFiles _)
  intro _
  cases mode with
  | json => exact Ends.bind (mild_emitJson (errorEnvelope_data _ _)) fun _ => Ends.pure rfl
  | human =>
    apply Ends.bind (mild_eprintln _)
    intro _
    apply Ends.bind (mild_eprintln _)
    intro _
    apply Ends.bind (mild_eprintln _)
    intro _
    exact plain_eprintln _

theorem plain_runChangePassphrase (args : ChangePassphraseArgs) (mode : OutputMode) :
    Plain (runChangePassphrase Priv args mode : Program Ag Va Te Nat) := by
  apply Ends.bind (Keeps.query _)
  intro pem
  apply Ends.bind (Keeps.query _)
  intro loaded
  apply Ends.bind (mild_oldPassphrase args loaded)
  intro old
  apply Ends.bind (mild_newPassphrase Priv args)
  intro new
  apply Ends.bind (mild_onFiles _)
  intro _
  cases mode with
  | json => exact plain_emitData _ _
  | human => exact plain_eprintln _

end

theorem mild_openInput (path : Option String) :
    Mild (openInput path : Program Ag Va Te (Except IoError ByteArray)) := by
  intro w
  unfold openInput
  split
  · rfl
  · split <;> rfl

theorem mild_writeOutput (path : Option String) (bytes : ByteArray) :
    Mild (writeOutput path bytes : Program Ag Va Te Unit) := by
  cases path with
  | none => exact mild_writeStdout bytes
  | some p =>
    unfold writeOutput
    dsimp only
    split
    · exact mild_writeStdout bytes
    · exact mild_writeFile p bytes

variable (Priv)

theorem mild_loadPublic (unparsed : String → String) (path : String) :
    Mild (loadPublic Priv unparsed path : Program Ag Va Te Pub) := by
  apply Keeps.bind (Keeps.query _)
  intro raw
  split
  · exact Keeps.pure _
  · split
    · exact Keeps.pure _
    · exact Keeps.fail _

theorem plain_runFingerprint [KeyDetails Pub] (args : FingerprintArgs) (mode : OutputMode) :
    Plain (runFingerprint Priv args mode : Program Ag Va Te Nat) := by
  apply Ends.bind (mild_loadPublic Priv _ args.file)
  intro pub
  cases mode with
  | json => exact plain_emitData _ _
  | human => exact plain_println _

variable [Signatures Priv Signers]

theorem plain_runExtractPublic (args : ExtractPublicArgs) (mode : OutputMode) :
    Plain (runExtractPublic Priv args mode : Program Ag Va Te Nat) := by
  apply Ends.bind (mild_onFiles _)
  intro _
  cases mode with
  | json => exact plain_emitData _ _
  | human => exact plain_eprintln _

theorem plain_runVerify (args : VerifyArgs) (mode : OutputMode) :
    Plain (runVerify Priv args mode : Program Ag Va Te Nat) := by
  apply Ends.bind (Keeps.query _)
  intro armored
  apply Ends.bind (Keeps.query _)
  intro allowed
  apply Ends.bind (mild_openInput args.input)
  intro input
  apply Ends.bind (Keeps.query _)
  intro verified
  cases mode with
  | json => exact plain_emitData _ _
  | human => exact plain_println _

end

/-! ### The agent -/

section
variable {Priv Pub : Type} [PublicKey Pub] [PrivateKey Priv Pub] [Agent Ag Priv Pub]

open Agent

section
variable [BiometricVault Va] [Terminal Te]

theorem mild_addOne {β : Type} {onLoaded onAdded : β → String → Program Ag Va Te β}
    (onLoaded_mild : ∀ acc path, Mild (onLoaded acc path))
    (onAdded_mild : ∀ acc path, Mild (onAdded acc path)) (loaded : List (Identity Pub))
    (lifetime : Option Nat) (confirm : Bool) (unlock : Biometric.UnlockMode) (acc : β)
    (path : String) :
    Mild (addOne loadPrivateKey onLoaded onAdded loaded lifetime confirm unlock acc path) := by
  have loading (key : Priv) :
      Mild (loadPrivateKey path key unlock : Program Ag Va Te Priv) :=
    loadKey_keeps backstage_envelopes _
      (Prompt.keeps_promptPassphraseInteractive backstage_envelopes.toAside) _ path key unlock
  apply Keeps.bind (Keeps.query _)
  intro pem
  split
  · exact Keeps.fail _
  next key _ =>
    split
    · exact onLoaded_mild acc path
    · exact Keeps.bind (loading key) fun _ => Keeps.bind (mild_onAgent _) fun _ =>
        onAdded_mild acc path

theorem plain_runAdd (args : AgentAddArgs) (mode : OutputMode) :
    Plain (runAdd args mode : Program Ag Va Te Nat) := by
  apply Ends.bind (args.keeps_paths _)
  intro paths
  apply Ends.bind (Keeps.query _)
  intro _
  apply Ends.bind (Keeps.query _)
  intro loaded
  apply Ends.bind (Keeps.foldlM (mild_addOne (fun _ _ => Keeps.pure _) (fun _ _ => Keeps.pure _)
    loaded args.lifetime args.confirm args.unlock) paths _)
  rintro ⟨added, alreadyLoaded⟩
  refine Ends.bind ?_ fun _ => Ends.pure rfl
  cases mode with
  | json => exact mild_emitData _ _
  | human =>
    exact Keeps.bind (Keeps.forM (fun _ => mild_eprintln _) added) fun _ =>
      Keeps.forM (fun _ => mild_eprintln _) alreadyLoaded

end

omit [PrivateKey Priv Pub] in
theorem plain_runList [Keygen.KeyDetails Pub] (args : AgentListArgs) (mode : OutputMode) :
    Plain (runList args mode : Program Ag Va Te Nat) := by
  have printing (id : Identity Pub) : Mild (printPublicKey id : Program Ag Va Te Unit) :=
    Keeps.bind (Keeps.query _) fun _ => mild_println _
  apply Ends.bind (Keeps.query _)
  intro _
  apply Ends.bind (Keeps.query _)
  intro ids
  cases mode with
  | json => exact plain_emitData _ _
  | human =>
    dsimp only
    split
    · exact plain_eprintln _
    split
    · exact Ends.bind (Keeps.forM printing ids) fun _ => Ends.pure rfl
    · exact Ends.bind (Keeps.forM (fun _ => mild_println _) ids) fun _ => Ends.pure rfl

section
variable [AgentAdmin Ag Pub]

theorem plain_runRemove (args : AgentRemoveArgs) (mode : OutputMode) :
    Plain (runRemove args mode : Program Ag Va Te Nat) := by
  have removing : Mild (removeKeys args : Program Ag Va Te (List String)) := by
    unfold removeKeys
    split
    · exact Keeps.bind (Keeps.query _) fun _ => Keeps.bind (mild_onAgent _) fun _ => Keeps.pure _
    cases args.file with
    | some path =>
      exact Keeps.bind (mild_loadPublic Priv _ path) fun _ => Keeps.bind (mild_onAgent _) fun _ =>
        Keeps.pure _
    | none => exact Keeps.fail _
  apply Ends.bind (Keeps.query _)
  intro _
  apply Ends.bind removing
  intro removed
  cases mode with
  | json => exact plain_emitData _ _
  | human => exact Ends.bind (Keeps.forM (fun _ => mild_eprintln _) removed) fun _ => Ends.pure rfl

theorem mild_promptLockPassphrase [Terminal Te] (lock : Bool) :
    Mild (promptLockPassphrase lock : Program Ag Va Te String) := by
  unfold promptLockPassphrase
  split
  · apply Keeps.bind (mild_promptPassword _)
    intro typed
    apply Keeps.bind (Keeps.query _)
    intro first
    apply Keeps.bind (mild_promptPassword _)
    intro retyped
    apply Keeps.bind (Keeps.query _)
    intro confirm
    split
    · exact Keeps.fail _
    · exact Keeps.pure _
  · exact Keeps.bind (mild_promptPassword _) fun _ => Keeps.query _

omit [PublicKey Pub] [PrivateKey Priv Pub] in
theorem plain_runLock [Terminal Te] (args : AgentLockArgs) (mode : OutputMode) (lock : Bool) :
    Plain (runLock args mode lock : Program Ag Va Te Nat) := by
  have asking : Mild (lockPassphrase args lock : Program Ag Va Te String) := by
    unfold lockPassphrase
    cases args.passphrase with
    | some s => exact Keeps.pure s
    | none => exact mild_promptLockPassphrase lock
  apply Ends.bind (Keeps.query _)
  intro _
  apply Ends.bind asking
  intro pp
  apply Ends.bind (mild_onAgent _)
  intro _
  cases mode with
  | json => exact plain_emitData _ _
  | human => exact plain_eprintln _

end

end

section
open Agent

theorem mild_defaultSocketPath : Mild (defaultSocketPath : Program Ag Va Te String) := by
  intro w
  obtain ⟨fs, ran, _⟩ := defaultSocketPath_run w
  rw [ran]
  rfl

theorem mild_rawSocketPath (args : AgentStartArgs) :
    Mild (rawSocketPath args : Program Ag Va Te String) := by
  unfold rawSocketPath
  cases args.sock with
  | some path => exact Keeps.pure path
  | none => exact mild_defaultSocketPath

theorem mild_absolutePath (path : String) :
    Mild (absolutePath path : Program Ag Va Te String) := by
  unfold absolutePath
  split
  · exact Keeps.pure path
  apply Keeps.bind (Keeps.query _)
  intro env
  split
  · exact Keeps.pure _
  · exact Keeps.fail _

theorem mild_emitEval (socketPath : String) (pid : Nat) (bourne cshForced : Bool) :
    Mild (emitEval socketPath pid bourne cshForced : Program Ag Va Te Unit) := by
  have three (s t u : String) : Mild (do
      println s
      println t
      println u : Program Ag Va Te Unit) :=
    Keeps.bind (mild_println s) fun _ => Keeps.bind (mild_println t) fun _ => mild_println u
  apply Keeps.bind (Keeps.query _)
  intro env
  dsimp only
  split
  · exact three _ _ _
  · exact three _ _ _

theorem plain_respawn (os : Processes) (args : AgentStartArgs) (socketPath : String)
    (pidFile : Option String) :
    Plain (respawn os.currentExe os.spawnChild args socketPath pidFile : Program Ag Va Te Nat) := by
  have spawning (launch : Launch) :
      Mild (os.spawnChild launch : Program Ag Va Te (Except String Nat)) := fun _ => rfl
  apply Ends.bind (Keeps.query _)
  intro exe
  apply Ends.bind (spawning _)
  intro child
  apply Ends.bind (Keeps.query _)
  intro pid
  apply Ends.bind (Keeps.query _)
  intro bound
  split
  · exact Ends.bind (mild_emitEval _ _ _ _) fun _ => Ends.pure rfl
  · exact Ends.fail _

theorem plain_runBackgroundStart (os : Processes) (args : AgentStartArgs) :
    Plain (runBackgroundStart os.currentExe os.spawnChild args : Program Ag Va Te Nat) := by
  have pidFile : Mild (absolutePidFile args : Program Ag Va Te (Option String)) := by
    unfold absolutePidFile
    cases args.pidFile with
    | some path => exact Keeps.bind (mild_absolutePath path) fun _ => Keeps.pure _
    | none => exact Keeps.pure none
  apply Ends.bind (mild_rawSocketPath args)
  intro raw
  apply Ends.bind (mild_absolutePath raw)
  intro socketPath
  apply Ends.bind pidFile
  intro pidFile
  apply Ends.bind (Keeps.query _)
  intro there
  split
  · exact Ends.fail _
  · exact plain_respawn os args socketPath pidFile

theorem plain_runDaemonLoop (os : Processes) (args : AgentDaemonArgs) :
    Plain (runDaemonLoop os args : Program Ag Va Te Nat) := by
  apply Ends.bind (mild_rawSocketPath _)
  intro socketPath
  apply Ends.bind (Keeps.query _)
  intro env
  dsimp only
  split
  · exact Ends.bind (mild_emitEval _ _ _ _) fun _ => Ends.bind (mild_onFiles _) fun _ =>
      Ends.pure rfl
  · exact Ends.bind (mild_onFiles _) fun _ => Ends.pure rfl

theorem plain_runStart (os : Processes) (args : AgentDaemonArgs) :
    Plain (runStart os args : Program Ag Va Te Nat) := by
  apply Ends.bind (Keeps.query _)
  intro env
  dsimp only
  split
  · split
    · exact Ends.bind (fun _ => rfl) fun _ => plain_runDaemonLoop os args
    · exact plain_runDaemonLoop os args
  · exact plain_runBackgroundStart os _

theorem plain_runStop (kill : Int → Except String Unit) (args : AgentStopArgs)
    (mode : OutputMode) : Plain (runStop kill args mode : Program Ag Va Te Nat) := by
  have resolving : Mild (resolveDaemonPid args.pidFile : Program Ag Va Te Int) := by
    intro w
    obtain ⟨r, fs, ran, _⟩ := resolveDaemonPid_run args.pidFile w
    rw [ran]
    rfl
  apply Ends.bind resolving
  intro pid
  apply Ends.bind (fun _ => rfl)
  intro _
  cases mode with
  | json => exact plain_emitData _ _
  | human => exact plain_eprintln _

theorem plain_agent {Priv Pub : Type} [PublicKey Pub] [PrivateKey Priv Pub] [Agent Ag Priv Pub]
    [AgentAdmin Ag Pub] [Keygen.KeyDetails Pub] [BiometricVault Va] [Terminal Te]
    (os : Processes) (sub : AgentSubcommand) (mode : OutputMode) :
    Plain (Agent.run os sub mode : Program Ag Va Te Nat) := by
  cases sub with
  | add args => exact plain_runAdd args mode
  | list args => exact plain_runList args mode
  | remove args => exact plain_runRemove args mode
  | lock args => exact plain_runLock args mode true
  | unlock args => exact plain_runLock args mode false
  | start args => exact plain_runStart os args
  | stop args => exact plain_runStop os.kill args mode

end

/-! ### Configuration -/

section
variable (An : Type) [Config.Anvil An]

open Config

theorem mild_forOption {β : Type} {f : β → Program Ag Va Te PUnit} (each : ∀ b, Mild (f b))
    (value : Option β) : Mild (value.forM f) := by
  cases value with
  | none => exact Keeps.pure _
  | some b => exact each b

theorem mild_emitProxyJump (raw : String) :
    Mild (emitProxyJump An raw : Program Ag Va Te Unit) := by
  apply Keeps.bind (mild_println _)
  intro _
  split
  · split
    · exact Keeps.forM (fun _ => mild_println _) _
    · exact mild_eprintln _
  · exact Keeps.pure _

theorem mild_emitHumanShow (args : ConfigShowArgs) (resolved : ResolvedSshConfig) :
    Mild (emitHumanShow An args resolved : Program Ag Va Te Unit) := by
  have line (name : String) (value : Option String) :
      Mild (value.forM fun v => println s!"{name} {v}" : Program Ag Va Te Unit) :=
    mild_forOption (fun v => mild_println s!"{name} {v}") value
  have paths (text : OsPath → String) (values : List OsPath) :
      Mild (values.forM fun p => println (text p) : Program Ag Va Te Unit) :=
    Keeps.forM (fun p => mild_println (text p)) values
  exact Keeps.bind (line "hostname" _) fun _ => Keeps.bind (line "user" _) fun _ =>
    Keeps.bind (line "port" _) fun _ =>
    Keeps.bind (paths (fun p => s!"identityfile {displayPath p args.showSecrets}") _) fun _ =>
    Keeps.bind (line "identitiesonly" _) fun _ => Keeps.bind (line "identityagent" _) fun _ =>
    Keeps.bind (paths (fun p => s!"certificatefile {displayPath p true}") _) fun _ =>
    Keeps.bind (line "proxycommand" _) fun _ =>
    Keeps.bind (mild_forOption (mild_emitProxyJump An) _) fun _ =>
    Keeps.bind (paths (fun p => s!"userknownhostsfile {displayPath p true}") _) fun _ =>
    Keeps.bind (line "stricthostkeychecking" _) fun _ =>
    Keeps.bind (line "hostkeyalgorithms" _) fun _ => Keeps.bind (line "kexalgorithms" _) fun _ =>
    Keeps.bind (line "ciphers" _) fun _ => Keeps.bind (line "macs" _) fun _ =>
    Keeps.bind (line "connecttimeout" _) fun _ => line "connectionattempts" _

theorem mild_certAndRevokedJson (host : String) (customPath : Option OsPath)
    (scopeLabel : String) :
    Mild (certAndRevokedJson An host customPath scopeLabel :
      Program Ag Va Te (List Json × List Json)) := by
  apply Keeps.bind (Keeps.query _)
  intro trust
  cases trust with
  | ok trust => exact Keeps.pure _
  | error e => exact Keeps.bind (mild_eprintln _) fun _ => Keeps.pure _

theorem mild_emitJsonShow (args : ConfigShowArgs) (resolved : ResolvedSshConfig) :
    Mild (emitJsonShow An args resolved : Program Ag Va Te Unit) := by
  apply Keeps.bind (mild_certAndRevokedJson An _ _ _)
  rintro ⟨certAuthoritiesJson, revokedJson⟩
  exact mild_emitData _ _

theorem plain_config {Co : Type} [SshConfig Co] (files : Co) (sub : ConfigSubcommand)
    (mode : OutputMode) : Plain (Config.run An files sub mode : Program Ag Va Te Nat) := by
  cases sub with
  | «show» args =>
    apply Ends.bind (Keeps.query _)
    intro env
    apply Ends.bind (Keeps.query _)
    intro resolved
    refine Ends.bind ?_ fun _ => Ends.pure rfl
    cases mode with
    | json => exact mild_emitJsonShow An args resolved
    | human => exact mild_emitHumanShow An args resolved

end

/-! ### Known hosts and the catalogue -/

section
variable (Hk : Type) [Hosts.KnownHosts Hk]

theorem plain_runRevoke (args : Hosts.HostsRevokeArgs) (mode : OutputMode) :
    Plain (Hosts.runRevoke Hk args mode : Program Ag Va Te Nat) := by
  apply Ends.bind (Keeps.query _)
  intro env
  apply Ends.bind (Keeps.query _)
  intro path
  apply Ends.bind (Keeps.query _)
  rintro ⟨hostPattern, fingerprint⟩
  apply Ends.bind (mild_onFiles _)
  intro _
  cases mode with
  | json => exact Ends.bind (mild_emitJson (errorEnvelope_data _ _)) fun _ => Ends.pure rfl
  | human => exact plain_eprintln _

theorem plain_runListHosts (args : Hosts.HostsListArgs) (mode : OutputMode) :
    Plain (Hosts.runList Hk args mode : Program Ag Va Te Nat) := by
  have reading (path : String) :
      Mild (Hosts.readKnownHosts Hk path : Program Ag Va Te Hosts.KnownHostsFile) := by
    apply Keeps.bind (Keeps.query _)
    intro there
    split
    · exact Keeps.bind (Keeps.query _) fun _ => Keeps.query _
    · exact Keeps.pure _
  apply Ends.bind (Keeps.query _)
  intro env
  apply Ends.bind (Keeps.query _)
  intro path
  apply Ends.bind (reading path)
  intro parsed
  cases mode with
  | json => exact Ends.bind (mild_emitJson (errorEnvelope_data _ _)) fun _ => Ends.pure rfl
  | human => exact Ends.bind (Keeps.forM (fun _ => mild_println _) _) fun _ => Ends.pure rfl

end

theorem plain_runListAlgorithms (cat : Discovery.Catalogue) (mode : OutputMode) :
    Plain (Discovery.runListAlgorithms cat mode : Program Ag Va Te Nat) := by
  cases mode with
  | json => exact plain_emitData _ _
  | human => exact Ends.bind (Keeps.forM (fun _ => mild_println _) _) fun _ => Ends.pure rfl

theorem plain_runSchema : Plain (Discovery.runSchema : Program Ag Va Te Nat) :=
  Ends.bind (mild_emitJson errorEnvelope_schemaJson) fun _ => Ends.pure rfl

theorem plain_runDescribe : Plain (Discovery.runDescribe : Program Ag Va Te Nat) :=
  Ends.bind (mild_emitJson errorEnvelope_describeJson) fun _ => Ends.pure rfl

theorem plain_runStatus [Biometric.BiometricBackend Va] (mode : OutputMode) :
    Plain (Biometric.runStatus mode : Program Ag Va Te Nat) := by
  have counting (available : Bool) :
      Mild (Biometric.countEnrolled available : Program Ag Va Te (Option Nat)) := by
    cases available with
    | true => exact Keeps.bind (mild_onVault _) fun _ => Keeps.pure _
    | false => exact Keeps.pure _
  apply Ends.bind (Keeps.query _)
  intro available
  apply Ends.bind (Keeps.query _)
  intro tier
  apply Ends.bind (counting available)
  intro enrolled
  cases mode with
  | json => exact plain_emitData _ _
  | human =>
    exact Ends.bind (mild_println _) fun _ => Ends.bind (mild_println _) fun _ =>
      Ends.bind (mild_println _) fun _ =>
        Ends.bind (mild_forOption (fun _ => mild_println _) enrolled) fun _ => Ends.pure rfl

theorem plain_runInstall (sys : Platform Ne Ag) (mode : OutputMode) :
    Plain (runInstall sys mode : Program Ag Va Te Nat) := by
  apply Ends.bind (mild_onFiles _)
  intro success
  split
  · cases mode with
    | json => exact plain_emitData _ _
    | human => exact plain_eprintln _
  · exact Ends.fail _

end Gitway
