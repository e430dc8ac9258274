import Gitway.Likeness

/-!
# The steps of the commands side by side

One lemma for each step: on two sides that are alike it answers alike, and leaves them alike.
A prompt answers with passphrases of which either may stand for the other; a key that is
opened is the same on both sides.
-/
namespace Gitway

open Lib Lib.Fallible Program

variable {Ne Ag Va Te : Type} {l : Likeness Va Te}

/-- The likeness takes no passphrase for another one. -/
def Likeness.Exact (l : Likeness Va Te) : Prop := ∀ p p', l.passphrase p p' → p = p'

/-! ### Passphrases -/

section
variable [Biometric.BiometricBackend Va] [Terminal Te]

theorem likewise_tryAskpass (sound : l.Sound) (prompt : String) :
    Likewise l (Option.Rel l.passphrase)
      (Prompt.tryAskpass prompt : Program Ag Va Te (Option String)) (Prompt.tryAskpass prompt) := by
  refine Paired.bind_same steady_environment ?_
  intro env
  split
  · exact Paired.pure Option.Rel.none
  · dsimp only
    split
    · exact Paired.fail _
    split
    · exact Paired.pure Option.Rel.none
    refine Paired.bind_same (steady_files (f := fun fs => .ok (fs.mode _))) ?_
    intro mode
    split
    · exact Paired.fail _
    refine Paired.bind (likewise_onTerminal (sound.askpass _ prompt)) ?_
    rintro _ _ (⟨e⟩ | ⟨replies⟩)
    · exact Paired.fail _
    · exact Paired.query fun _ _ _ => replies

theorem likewise_promptPassphraseInteractive (sound : l.Sound) (path : String) :
    Likewise l l.passphrase
      (Prompt.promptPassphraseInteractive path : Program Ag Va Te String)
      (Prompt.promptPassphraseInteractive path) := by
  refine Paired.bind (likewise_tryAskpass sound _) ?_
  rintro _ _ (⟨related⟩ | _)
  · exact Paired.pure related
  · refine Paired.bind (likewise_onTerminal (sound.promptPassword _)) ?_
    rintro _ _ (⟨e⟩ | ⟨related⟩)
    · exact Paired.fail _
    · exact Paired.pure related

/-- Two answers of the keystore of which either may stand for the other. -/
inductive UnlockAlike (l : Likeness Va Te) : Biometric.AutoUnlock → Biometric.AutoUnlock → Prop
  | passphrase {p p' : String} (related : l.passphrase p p') :
    UnlockAlike l (.passphrase p) (.passphrase p')
  | stale : UnlockAlike l .stale .stale
  | fallback : UnlockAlike l .fallback .fallback

variable {Priv Pub : Type} [PrivateKey Priv Pub]

omit [Biometric.BiometricBackend Va] [Terminal Te] in
/-- A key that is read opens alike on both sides. -/
theorem likewise_readKey (opens : l.Opens Priv) (path : String) :
    Likewise l (fun key key' => key = key' ∧ ∀ found ∈ key, l.Knows found)
      (readKey path : Program Ag Va Te (Option Priv)) (readKey path) := by
  refine Paired.query fun w w' like => Matched.ok ⟨by rw [like.files], ?_⟩
  exact fun key found => opens w.fs path key like.known found

omit [Biometric.BiometricBackend Va] [Terminal Te] in
/-- The same of a key that is still to be parsed. -/
theorem likewise_readPem (opens : l.Opens Priv) (path : String) :
    Likewise l (fun pem pem' => pem = pem' ∧ ∀ key : Priv,
        PrivateKey.fromOpenssh pem = .ok key → l.Knows key)
      (readToString path : Program Ag Va Te String) (readToString path) := by
  refine Paired.query fun w w' like => ?_
  rw [← like.files]
  cases read : w.fs.readToString path with
  | error e => exact Matched.error _
  | ok pem =>
    refine Matched.ok ⟨rfl, fun key parsed => ?_⟩
    exact opens w.fs path key like.known (keyAt_of_parsed read parsed)

omit [Biometric.BiometricBackend Va] [Terminal Te] in
theorem likewise_parsed {pem : String}
    (known : ∀ key : Priv, PrivateKey.fromOpenssh pem = .ok key → l.Knows key)
    (unparsed : String → AnvilError) :
    Likewise l (fun key key' => key = key' ∧ l.Knows key)
      (query fun _ => (PrivateKey.fromOpenssh pem).mapError unparsed : Program Ag Va Te Priv)
      (query fun _ => (PrivateKey.fromOpenssh pem).mapError unparsed) := by
  refine Paired.query fun _ _ _ => ?_
  cases parsed : (PrivateKey.fromOpenssh pem : Except String Priv) with
  | error e => exact Matched.error _
  | ok key => exact Matched.ok ⟨rfl, known key parsed⟩

variable [PublicKey Pub]

theorem likewise_autoUnlockPassphrase (sound : l.Sound) {key : Priv} (known : l.Knows key) :
    Likewise l (UnlockAlike l)
      (Biometric.autoUnlockPassphrase key : Program Ag Va Te Biometric.AutoUnlock)
      (Biometric.autoUnlockPassphrase key) := by
  have asked : Likewise l (Option.Rel l.passphrase)
      (Biometric.autoUnlock (Biometric.keyId key) : Program Ag Va Te (Option String))
      (Biometric.autoUnlock (Biometric.keyId key)) := by
    refine Paired.bind (likewise_onVault (sound.retrieve _)) ?_
    rintro _ _ (⟨e⟩ | ⟨related⟩)
    · exact Paired.pure Option.Rel.none
    · exact Paired.pure (Option.Rel.some related)
  refine Paired.bind asked ?_
  rintro _ _ (⟨related⟩ | _)
  · -- The trial decryption comes out the same on both sides.
    dsimp only
    rw [← known related]
    split
    · exact Paired.pure (UnlockAlike.passphrase related)
    · exact Paired.bind_same (steady_onVault (sound.delete _)) fun _ =>
        Paired.pure UnlockAlike.stale
  · exact Paired.pure UnlockAlike.fallback

variable (Priv) in
theorem likewise_promptPassphrase (sound : l.Sound) (opens : l.Opens Priv) (path : String) :
    Likewise l l.passphrase (Prompt.promptPassphrase Priv path : Program Ag Va Te String)
      (Prompt.promptPassphrase Priv path) := by
  have unlocking : Likewise l (Option.Rel l.passphrase)
      (Prompt.biometricAutoUnlock Priv path : Program Ag Va Te (Option String))
      (Prompt.biometricAutoUnlock Priv path) := by
    refine Paired.bind (likewise_readKey opens path) ?_
    rintro key _ ⟨rfl, known⟩
    split
    · exact Paired.pure Option.Rel.none
    refine Paired.bind (likewise_autoUnlockPassphrase sound (known _ rfl)) ?_
    rintro _ _ (⟨related⟩ | _ | _)
    · exact Paired.pure (Option.Rel.some related)
    · exact Paired.bind_same (steady_eprintln _) fun _ => Paired.pure Option.Rel.none
    · exact Paired.pure Option.Rel.none
  refine Paired.bind unlocking ?_
  rintro _ _ (⟨related⟩ | _)
  · exact Paired.pure related
  · exact likewise_promptPassphraseInteractive sound path

omit [PublicKey Pub] [Biometric.BiometricBackend Va] [Terminal Te] in
theorem likewise_decrypt {key : Priv} (known : l.Knows key) {p p' : String}
    (related : l.passphrase p p') (report : String → AnvilError) :
    Likewise l Eq
      (query fun _ => (PrivateKey.decrypt key p).mapError report : Program Ag Va Te Priv)
      (query fun _ => (PrivateKey.decrypt key p').mapError report) :=
  Paired.query fun _ _ _ => Matched.of_eq (by rw [known related])

omit [PublicKey Pub] [Biometric.BiometricBackend Va] [Terminal Te] in
/-- The rule for a prompt whose answer opens a key. -/
theorem steady_opened {key : Priv} (known : l.Knows key) {prompt : Program Ag Va Te String}
    (asked : Likewise l l.passphrase prompt prompt) (report : String → AnvilError) :
    Steady l (prompt >>= fun pass => query fun _ => (PrivateKey.decrypt key pass).mapError report :
      Program Ag Va Te Priv) :=
  Paired.bind asked fun _ _ related => likewise_decrypt known related report

/-- Both tools load a key in this way, each with its own prompt. -/
theorem steady_loadKey (sound : l.Sound) (tool : String)
    {prompt : String → Program Ag Va Te String}
    (asks : ∀ path, Likewise l l.passphrase (prompt path) (prompt path))
    (decryptFailed : String → String → String) (path : String) {key : Priv} (known : l.Knows key)
    (unlock : Biometric.UnlockMode) :
    Steady l (Agent.loadKey tool prompt decryptFailed path key unlock) := by
  unfold Agent.loadKey
  split
  · exact Paired.pure rfl
  have opening := steady_opened known (asks path) fun e => .signing (decryptFailed path e)
  dsimp only
  cases unlock with
  | disabled => exact opening
  | enroll =>
    refine Paired.bind (asks path) ?_
    intro pass pass' related
    refine Paired.bind_same (likewise_decrypt known related _) ?_
    intro decrypted
    -- The keystores are given passphrases of which either may stand for the other.
    refine Paired.bind ((likewise_onVault (sound.store _ related)).mono fun _ _ m => m.eq) ?_
    rintro (e | _) _ rfl
    · exact Paired.bind_same (steady_eprintln _) fun _ => Paired.pure rfl
    · exact Paired.bind_same (steady_eprintln _) fun _ => Paired.pure rfl
  | auto =>
    refine Paired.bind (likewise_autoUnlockPassphrase sound known) ?_
    rintro _ _ (⟨related⟩ | _ | _)
    · exact likewise_decrypt known related _
    · exact Paired.bind_same (steady_eprintln _) fun _ => opening
    · exact opening

omit [Biometric.BiometricBackend Va] [Terminal Te] in
/-- One key file is read, decrypted and handed to the agent. -/
theorem steady_addOne [Agent Ag Priv Pub] {β : Type}
    {load : String → Priv → Biometric.UnlockMode → Program Ag Va Te Priv}
    (opens : l.Opens Priv)
    (loads : ∀ path key unlock, l.Knows key → Steady l (load path key unlock))
    {onLoaded onAdded : β → String → Program Ag Va Te β}
    (skips : ∀ acc path, Steady l (onLoaded acc path))
    (adds : ∀ acc path, Steady l (onAdded acc path))
    (loaded : List (Identity Pub)) (lifetime : Option Nat) (confirm : Bool)
    (unlock : Biometric.UnlockMode) (acc : β) (path : String) :
    Steady l (Agent.addOne load onLoaded onAdded loaded lifetime confirm unlock acc path) := by
  refine Paired.bind (likewise_readPem opens path) ?_
  rintro pem _ ⟨rfl, known⟩
  split
  · exact Paired.fail _
  rename_i parsed
  split
  · exact skips acc path
  refine Paired.bind_same (loads path _ unlock (known _ parsed)) ?_
  intro decrypted
  exact Paired.bind_same (steady_onAgent _) fun _ => adds acc path

end

/-! ### New passphrases -/

theorem Likeness.Exact.opens {Priv Pub : Type} [PrivateKey Priv Pub] (exactly : l.Exact) :
    l.Opens Priv := by
  intro fs path key listed there p p' related
  rw [exactly p p' related]

section
variable [Biometric.BiometricBackend Va] [Terminal Te]

theorem steady_promptPassword (sound : l.Sound) (exactly : l.Exact) (prompt : String) :
    Steady l (promptPassword prompt : Program Ag Va Te (Except IoError String)) :=
  (likewise_onTerminal (sound.promptPassword prompt)).mono fun _ _ matched =>
    (matched.mono exactly).eq

theorem steady_typeNewPassphrase (sound : l.Sound) (exactly : l.Exact) (path : String) :
    Steady l (Keygen.typeNewPassphrase path : Program Ag Va Te String) := by
  refine Paired.bind_same (steady_promptPassword sound exactly _) ?_
  intro typed
  refine Paired.bind_same (steady_value _) ?_
  intro first
  split
  · exact Paired.pure rfl
  refine Paired.bind_same (steady_promptPassword sound exactly _) ?_
  intro retyped
  refine Paired.bind_same (steady_value _) ?_
  intro confirm
  split
  · exact Paired.fail _
  · exact Paired.pure rfl

theorem steady_lockPassphrase (sound : l.Sound) {args : Agent.AgentLockArgs}
    (exactly : args.passphrase = none → l.Exact) (lock : Bool) :
    Steady l (Agent.lockPassphrase args lock : Program Ag Va Te String) := by
  unfold Agent.lockPassphrase Agent.promptLockPassphrase
  cases given : args.passphrase with
  | some s => exact Paired.pure rfl
  | none =>
    have typed (prompt : String) : Steady l
        (promptPassword prompt : Program Ag Va Te (Except IoError String)) :=
      steady_promptPassword sound (exactly given) prompt
    dsimp only
    split
    · refine Paired.bind_same (typed _) ?_
      intro typed'
      refine Paired.bind_same (steady_value _) ?_
      intro first
      refine Paired.bind_same (typed _) ?_
      intro retyped
      refine Paired.bind_same (steady_value _) ?_
      intro confirm
      split
      · exact Paired.fail _
      · exact Paired.pure rfl
    · exact Paired.bind_same (typed _) fun _ => steady_value _

variable (Priv : Type) {Pub : Type} [PublicKey Pub] [PrivateKey Priv Pub]

theorem steady_promptNewPassphrase (sound : l.Sound) (exactly : l.Exact) (path : String) :
    Steady l (Keygen.promptNewPassphrase Priv path : Program Ag Va Te String) := by
  refine Paired.bind_same steady_environment ?_
  intro env
  split
  · exact (likewise_promptPassphrase Priv sound exactly.opens path).mono exactly
  · exact steady_typeNewPassphrase sound exactly path

theorem steady_resolveNewPassphrase (sound : l.Sound) {file : String}
    {explicit : Option String} {noPassphrase : Bool}
    (exactly : noPassphrase = false → explicit = none → l.Exact) :
    Steady l (Keygen.resolveNewPassphrase Priv file explicit noPassphrase :
      Program Ag Va Te (Option String)) := by
  unfold Keygen.resolveNewPassphrase
  split
  · exact Paired.pure rfl
  · rename_i wanted
    cases explicit with
    | some s => exact Paired.pure rfl
    | none =>
      have asked := exactly (Bool.eq_false_iff.mpr wanted) rfl
      exact Paired.bind_same (steady_promptNewPassphrase Priv sound asked file) fun _ =>
        Paired.pure rfl

theorem steady_newPassphrase (sound : l.Sound) {args : Keygen.ChangePassphraseArgs}
    (exactly : args.noPassphrase = false → args.newPassphrase = none → l.Exact) :
    Steady l (Keygen.newPassphrase Priv args : Program Ag Va Te (Option String)) := by
  unfold Keygen.newPassphrase
  split
  · exact Paired.pure rfl
  · rename_i wanted
    cases given : args.newPassphrase with
    | some s => exact Paired.pure rfl
    | none =>
      have asked := exactly (Bool.eq_false_iff.mpr wanted) given
      exact Paired.bind_same (steady_promptNewPassphrase Priv sound asked args.file) fun _ =>
        Paired.pure rfl

theorem steady_oldPassphrase (sound : l.Sound) {args : Keygen.ChangePassphraseArgs}
    (exactly : args.oldPassphrase = none → l.Exact) (loaded : Priv) :
    Steady l (Keygen.oldPassphrase Priv args loaded : Program Ag Va Te (Option String)) := by
  unfold Keygen.oldPassphrase
  split
  · cases given : args.oldPassphrase with
    | some s => exact Paired.pure rfl
    | none =>
      have asked : Likewise l l.passphrase
          (Prompt.promptPassphrase Priv args.file : Program Ag Va Te String)
          (Prompt.promptPassphrase Priv args.file) :=
        likewise_promptPassphrase Priv sound (exactly given).opens args.file
      exact Paired.bind_same (asked.mono (exactly given)) fun _ => Paired.pure rfl
  · exact Paired.pure rfl

end

/-! ### Files -/

section
variable (Priv : Type) {Pub : Type} [PublicKey Pub] [PrivateKey Priv Pub]

theorem steady_loadPublic (unparsed : String → String) (path : String) :
    Steady l (Keygen.loadPublic Priv unparsed path : Program Ag Va Te Pub) := by
  refine Paired.bind_same (steady_readToString path) ?_
  intro raw
  split
  · exact Paired.pure rfl
  · split
    · exact Paired.pure rfl
    · exact Paired.fail _

end

theorem steady_openInput (path : Option String) :
    Steady l (Keygen.openInput path : Program Ag Va Te (Except IoError ByteArray)) := by
  intro w w' like
  have drained : Matched Eq (.ok w.stdin : Except AnvilError (Except IoError ByteArray))
      (.ok w'.stdin) ∧ World.Like l { w with stdin := w.stdin.map fun _ => ByteArray.empty }
      { w' with stdin := w'.stdin.map fun _ => ByteArray.empty } := by
    rw [← like.stdin]
    exact ⟨Matched.ok rfl, { like with stdin := rfl }⟩
  unfold Keygen.openInput
  split
  · exact drained
  · split
    · exact drained
    · exact ⟨Matched.of_eq (by rw [like.files]), like⟩

theorem steady_writeOutput (free : l.Free) (path : Option String) (bytes : ByteArray) :
    Steady l (Keygen.writeOutput path bytes : Program Ag Va Te Unit) := by
  cases path with
  | none => exact steady_writeStdout bytes
  | some p =>
    unfold Keygen.writeOutput
    dsimp only
    split
    · exact steady_writeStdout bytes
    · exact steady_writeFile free p bytes

/-! ### The agent -/

section
open Agent

theorem steady_removeKeys {Priv Pub : Type} [PublicKey Pub] [PrivateKey Priv Pub]
    [Agent Ag Priv Pub] [AgentAdmin Ag Pub] (args : AgentRemoveArgs) :
    Steady l (removeKeys args : Program Ag Va Te (List String)) := by
  unfold removeKeys
  split
  · exact Paired.bind_same steady_agent fun _ => Paired.bind_same (steady_onAgent _) fun _ =>
      Paired.pure rfl
  cases args.file with
  | some path =>
    exact Paired.bind_same (steady_loadPublic Priv _ path) fun _ =>
      Paired.bind_same (steady_onAgent _) fun _ => Paired.pure rfl
  | none => exact Paired.fail _

theorem steady_defaultSocketPath (free : l.Free) :
    Steady l (defaultSocketPath : Program Ag Va Te String) := by
  intro w w' like
  have same : defaultSocketPathWith w.env
        (createPrivateDir (w.env.currentDir.toOption.getD "")) w.fs =
      defaultSocketPathWith w'.env
        (createPrivateDir (w'.env.currentDir.toOption.getD "")) w'.fs := by
    rw [like.env, like.files]
  refine ⟨Matched.ok (congrArg Prod.fst same), { like with setting := ?_, known := free _ }⟩
  show (w.env, (defaultSocketPathWith _ _ _).2, w.agent) =
    (w'.env, (defaultSocketPathWith _ _ _).2, w'.agent)
  rw [same, like.env, like.agent]

theorem steady_rawSocketPath (free : l.Free) (args : AgentStartArgs) :
    Steady l (rawSocketPath args : Program Ag Va Te String) := by
  unfold rawSocketPath
  cases args.sock with
  | some path => exact Paired.pure rfl
  | none => exact steady_defaultSocketPath free

theorem steady_absolutePath (path : String) :
    Steady l (absolutePath path : Program Ag Va Te String) := by
  unfold absolutePath
  split
  · exact Paired.pure rfl
  refine Paired.bind_same steady_environment ?_
  intro env
  split
  · exact Paired.pure rfl
  · exact Paired.fail _

theorem steady_absolutePidFile (args : AgentStartArgs) :
    Steady l (absolutePidFile args : Program Ag Va Te (Option String)) := by
  unfold absolutePidFile
  cases args.pidFile with
  | some path => exact Paired.bind_same (steady_absolutePath path) fun _ => Paired.pure rfl
  | none => exact Paired.pure rfl

theorem tells_emitEval (socketPath : String) (pid : Nat) (bourne cshForced : Bool) :
    Tells (fun _ => True) (emitEval socketPath pid bourne cshForced : Program Ag Va Te Unit) := by
  refine Tells.bind Tells.environment ?_
  intro env
  dsimp only
  split
  · exact Tells.bind (Tells.println _) fun _ => Tells.bind (Tells.println _) fun _ =>
      Tells.println _
  · exact Tells.bind (Tells.println _) fun _ => Tells.bind (Tells.println _) fun _ =>
      Tells.println _

theorem steady_runDaemonLoop (free : l.Free) (os : Processes) (args : AgentDaemonArgs) :
    Steady l (runDaemonLoop os args : Program Ag Va Te Nat) := by
  refine Paired.bind_same (steady_rawSocketPath free _) ?_
  intro socketPath
  refine Paired.bind_same steady_environment ?_
  intro env
  dsimp only
  split
  · exact Paired.bind_same (tells_emitEval _ _ _ _).steady fun _ =>
      Paired.bind_same (steady_onFiles free _) fun _ => Paired.pure rfl
  · exact Paired.bind_same (steady_onFiles free _) fun _ => Paired.pure rfl

theorem steady_spawnChild (free : l.Free) (os : Processes) (launch : Launch) :
    Steady l (os.spawnChild launch : Program Ag Va Te (Except String Nat)) := by
  intro w w' like
  have same : os.spawn launch w.fs = os.spawn launch w'.fs := by rw [like.files]
  have answers : (os.spawnChild launch w).1 = (os.spawnChild launch w').1 := by
    show Except.ok (os.spawn launch w.fs).1 = Except.ok (os.spawn launch w'.fs).1
    rw [same]
  refine ⟨Matched.of_eq answers, { like with setting := ?_, known := free _ }⟩
  show (w.env, (os.spawn launch w.fs).2, w.agent) = (w'.env, (os.spawn launch w'.fs).2, w'.agent)
  rw [same, like.env, like.agent]

theorem steady_runBackgroundStart (free : l.Free) (os : Processes) (args : AgentStartArgs) :
    Steady l (runBackgroundStart os.currentExe os.spawnChild args : Program Ag Va Te Nat) := by
  have respawning (socketPath : String) (pidFile : Option String) : Steady l
      (respawn os.currentExe os.spawnChild args socketPath pidFile : Program Ag Va Te Nat) := by
    refine Paired.bind_same (steady_value _) ?_
    intro exe
    refine Paired.bind_same (steady_spawnChild free os _) ?_
    intro child
    refine Paired.bind_same (steady_value _) ?_
    intro pid
    refine Paired.bind_same (steady_pathExists _) ?_
    intro bound
    split
    · exact Paired.bind_same (tells_emitEval _ _ _ _).steady fun _ => Paired.pure rfl
    · exact Paired.fail _
  refine Paired.bind_same (steady_rawSocketPath free args) ?_
  intro raw
  refine Paired.bind_same (steady_absolutePath raw) ?_
  intro socketPath
  refine Paired.bind_same (steady_absolutePidFile args) ?_
  intro pidFile
  refine Paired.bind_same (steady_pathExists _) ?_
  intro there
  split
  · exact Paired.fail _
  · exact respawning socketPath pidFile

theorem steady_runStart (free : l.Free) (os : Processes) (args : AgentDaemonArgs) :
    Steady l (runStart os args : Program Ag Va Te Nat) := by
  have leaving : Steady l (finalizeDetach : Program Ag Va Te Unit) := by
    intro w w' like
    refine ⟨Matched.ok rfl, { like with setting := ?_ }⟩
    show ({ w.env with currentDir := .ok "/" }, w.fs, w.agent) =
      ({ w'.env with currentDir := .ok "/" }, w'.fs, w'.agent)
    rw [like.env, like.files, like.agent]
  refine Paired.bind_same steady_environment ?_
  intro env
  dsimp only
  split
  · split
    · exact Paired.bind_same leaving fun _ => steady_runDaemonLoop free os args
    · exact steady_runDaemonLoop free os args
  · exact steady_runBackgroundStart free os _

theorem steady_resolveDaemonPid (free : l.Free) (cliPidFile : Option String) :
    Steady l (resolveDaemonPid cliPidFile : Program Ag Va Te Int) := by
  have finding : Steady l (daemonPidFile cliPidFile : Program Ag Va Te (Option String)) := by
    unfold daemonPidFile
    cases cliPidFile with
    | some path => exact Paired.pure rfl
    | none => exact Paired.bind_same (steady_defaultSocketPath free) fun _ => Paired.pure rfl
  refine Paired.bind_same steady_environment ?_
  intro env
  split
  · split
    · exact Paired.pure rfl
    · exact Paired.fail _
  refine Paired.bind_same finding ?_
  intro path
  split
  · exact Paired.fail _
  refine Paired.bind_same (steady_readToString _) ?_
  intro contents
  split
  · exact Paired.pure rfl
  · exact Paired.fail _

theorem steady_sendSigterm (kill : Int → Except String Unit) (pid : Int) :
    Steady l (sendSigterm kill pid : Program Ag Va Te Unit) := fun _ _ like =>
  ⟨Matched.refl (fun _ => rfl) _,
    { like with signals := congrArg (· ++ [pid]) like.signals }⟩

end

/-! ### Known hosts -/

section
open Hosts

theorem steady_readLine :
    Steady l (readLine : Program Ag Va Te (Except IoError String)) := by
  intro w w' like
  unfold readLine
  rw [← like.stdin]
  cases w.stdin with
  | error e => exact ⟨Matched.ok rfl, like⟩
  | ok bytes => exact ⟨Matched.ok rfl, { like with stdin := rfl }⟩

theorem steady_chooseHashed (Hk : Type) [KnownHosts Hk] (args : HostsAddArgs) (path : String) :
    Steady l (chooseHashed Hk args path : Program Ag Va Te Bool) := by
  unfold chooseHashed
  split
  · exact Paired.pure rfl
  split
  · exact Paired.pure rfl
  · exact Paired.bind_same steady_files fun _ => Paired.pure rfl

theorem steady_readKnownHosts (Hk : Type) [KnownHosts Hk] (path : String) :
    Steady l (readKnownHosts Hk path : Program Ag Va Te KnownHostsFile) := by
  refine Paired.bind_same (steady_pathExists path) ?_
  intro there
  split
  · exact Paired.bind_same (steady_files (f := fun fs => (fs.readToString path).mapError _))
      fun _ => steady_value _
  · exact Paired.pure rfl

end

theorem tells_certAndRevokedJson (An : Type) [Config.Anvil An] (host : String)
    (customPath : Option Config.OsPath) (scopeLabel : String) :
    Tells (fun _ => True) (Config.certAndRevokedJson An host customPath scopeLabel :
      Program Ag Va Te (List Json × List Json)) := by
  refine Tells.bind (Tells.query fun _ _ same => ?_) ?_
  · exact congrArg (fun setting => Config.Anvil.hostKeyTrust An host customPath setting.2.1) same
  · intro trust
    cases trust with
    | ok trust => exact Tells.pure trivial
    | error e => exact Tells.bind (Tells.eprintln _) fun _ => Tells.pure trivial

/-! ### Biometric unlock -/

section
open Biometric

theorem steady_collect {β : Type} {one : β → Program Ag Va Te Outcome}
    (each : ∀ item, Steady l (one item)) (items : List β) :
    Steady l (collect one items : Program Ag Va Te (List Outcome × Nat)) := by
  refine Paired.foldlM ?_ items rfl
  rintro acc _ item rfl
  exact Paired.bind_same (each item) fun _ => Paired.pure rfl

section
variable [BiometricBackend Va] [Terminal Te]

theorem steady_forgetOne (sound : l.Sound) (target id fingerprint : String) :
    Steady l (forgetOne target id fingerprint : Program Ag Va Te Outcome) := by
  refine Paired.bind_same (steady_onVault (sound.delete id)) ?_
  intro deleted
  cases deleted with
  | ok => exact Paired.pure rfl
  | error e => exact Paired.pure rfl

theorem steady_countEnrolled (sound : l.Sound) (available : Bool) :
    Steady l (countEnrolled available : Program Ag Va Te (Option Nat)) := by
  unfold countEnrolled
  split
  · exact Paired.bind_same (steady_onVault sound.list) fun _ => Paired.pure rfl
  · exact Paired.pure rfl

variable (Priv : Type) {Pub : Type} [PublicKey Pub] [PrivateKey Priv Pub]

omit [PublicKey Pub] [BiometricBackend Va] [Terminal Te] in
theorem steady_readKey (path : String) :
    Steady l (readKey Priv path : Program Ag Va Te (Except String Priv)) :=
  steady_files (f := fun fs => .ok (keyIn Priv fs path))

omit [PublicKey Pub] [BiometricBackend Va] [Terminal Te] in
theorem keyAt_of_keyIn {fs : FileSystem} {path : String} {key : Priv}
    (there : keyIn Priv fs path = .ok key) : keyAt Priv fs path = some key := by
  unfold keyIn at there
  cases read : fs.readToString path with
  | error e => simp [read] at there
  | ok pem =>
    cases parsed : (PrivateKey.fromOpenssh pem : Except String Priv) with
    | error e => simp [read, parsed] at there
    | ok found =>
      simp only [read, parsed, Except.ok.injEq] at there
      exact there ▸ keyAt_of_parsed read parsed

theorem steady_forgetFile (sound : l.Sound) (path : String) :
    Steady l (forgetFile Priv path : Program Ag Va Te Outcome) := by
  refine Paired.bind_same (steady_readKey Priv path) ?_
  intro read
  cases read with
  | error message => exact Paired.pure rfl
  | ok key => exact steady_forgetOne sound path _ _

/-- The outcome names no passphrase, and neither does its message. -/
theorem steady_enrollOne (sound : l.Sound) (opens : l.Opens Priv) (path : String) :
    Steady l (enrollOne Priv path : Program Ag Va Te Outcome) := by
  have reading : Likewise l (fun read read' => read = read' ∧ ∀ key, read = .ok key → l.Knows key)
      (readKey Priv path : Program Ag Va Te (Except String Priv)) (readKey Priv path) := by
    refine Paired.query fun w w' like => Matched.ok ⟨by rw [like.files], fun key there => ?_⟩
    exact opens w.fs path key like.known (keyAt_of_keyIn Priv there)
  refine Paired.bind reading ?_
  rintro read _ ⟨rfl, known⟩
  cases read with
  | error message => exact Paired.pure rfl
  | ok key =>
    dsimp only
    split
    · exact Paired.pure rfl
    refine Paired.bind (likewise_promptPassphraseInteractive sound path) ?_
    intro pass pass' related
    rw [← known key rfl related]
    split
    · exact Paired.pure rfl
    refine Paired.bind ((likewise_onVault (sound.store _ related)).mono fun _ _ m => m.eq) ?_
    rintro (e | _) _ rfl
    · exact Paired.pure rfl
    · exact Paired.pure rfl

end
end

end Gitway
