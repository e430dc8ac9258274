import Gitway.Agent.InStep
import Gitway.Biometric.Cmd
import Gitway.Exit

/-!
# When a passphrase cannot be stored

Three commands store the passphrase of a key: `gitway biometric enroll` and the two
loaders with `--biometric`. Each meets the errors of the keystore on its own. Enrolling
ends with the code of the error. The loaders print a warning and load the key.
-/
namespace Gitway.Biometric

open Lib Agent

variable {Priv Pub Ag Va Te : Type} [PublicKey Pub] [PrivateKey Priv Pub]

/-- From what is seen here on, the prompts for these files return passphrases that open
the encrypted keys in them. -/
def TypesRight (Priv : Type) {Pub : Type} [PrivateKey Priv Pub]
    (prompt : String → Program Ag Va Te String) : List String → Asking Te → Prop
  | [], _ => True
  | path :: rest, seen => ∃ (key plain : Priv) (pass : String) (after : Asking Te),
      keyAt Priv seen.fs path = some key ∧ PrivateKey.isEncrypted key = true ∧
        PrivateKey.decrypt key pass = .ok plain ∧
        (∀ w, asking w = seen → (prompt path w).1 = .ok pass ∧ asking (prompt path w).2 = after) ∧
        TypesRight Priv prompt rest after

/-- Whatever is stored, and however often, the keystore refuses with an error of this code. -/
def Refusing [BiometricVault Va] (code : Nat) (vault : Va) : Prop :=
  ∀ (tried : List (String × String)) (id pass : String), ∃ e,
    (BiometricVault.store id pass
      (tried.foldl (fun v entry => (BiometricVault.store entry.1 entry.2 v).2) vault)).1 =
        .error e ∧ exitFor e = code

theorem Refusing.refuses [BiometricVault Va] {code : Nat} {vault : Va}
    (refusing : Refusing code vault) (id pass : String) :
    ∃ e, (BiometricVault.store id pass vault).1 = .error e ∧ exitFor e = code :=
  refusing [] id pass

theorem Refusing.still [BiometricVault Va] {code : Nat} {vault : Va}
    (refusing : Refusing code vault) (id pass : String) :
    Refusing code (BiometricVault.store id pass vault).2 :=
  fun tried => refusing ((id, pass) :: tried)

/-- What stays in a world in which a person is asked. -/
private def stores (w : World Ag Va Te) : Ag × Va := (w.agent, w.vault)

private theorem aside_stores : Program.Aside (stores : World Ag Va Te → _) :=
  ⟨fun _ _ => rfl, fun _ _ => rfl⟩

section
variable {prompt : String → Program Ag Va Te String} {path : String} {rest : List String}

omit [PublicKey Pub] in
private theorem TypesRight.answers (keeps : Fallible.Keeps stores (prompt path))
    {w : World Ag Va Te} (right : TypesRight Priv prompt (path :: rest) (asking w)) :
    ∃ (key plain : Priv) (pass : String) (v : World Ag Va Te), keyAt Priv w.fs path = some key ∧
      PrivateKey.isEncrypted key = true ∧ PrivateKey.decrypt key pass = .ok plain ∧
      prompt path w = (.ok pass, v) ∧ v.agent = w.agent ∧ v.vault = w.vault ∧
      TypesRight Priv prompt rest (asking v) := by
  obtain ⟨key, plain, pass, after, there, encrypted, opens, typed, later⟩ := right
  obtain ⟨answer, seen⟩ := typed w rfl
  have same := keeps w
  simp only [stores, Prod.mk.injEq] at same
  exact ⟨key, plain, pass, _, there, encrypted, opens, Fallible.run_eq answer, same.1, same.2,
    seen ▸ later⟩

end

variable [BiometricBackend Va] [Terminal Te]

/-! ### Enrolling -/

section
variable {code : Nat}

omit [PublicKey Pub] [BiometricBackend Va] [Terminal Te] in
theorem readKey_run_of_keyAt {path : String} {key : Priv} {w : World Ag Va Te}
    (there : keyAt Priv w.fs path = some key) : readKey Priv path w = (.ok (.ok key), w) := by
  obtain ⟨pem, read, parsed⟩ := parsed_of_keyAt there
  simp [readKey, keyIn, read, parsed]

theorem enrollOne_refused {path : String} {rest : List String} {w : World Ag Va Te}
    (refusing : Refusing code w.vault)
    (right : TypesRight Priv (Prompt.promptPassphraseInteractive : _ → Program Ag Va Te String)
      (path :: rest) (asking w)) :
    ∃ message v, enrollOne Priv path w = (.ok (.failed path message code), v) ∧
      Refusing code v.vault ∧
      TypesRight Priv (Prompt.promptPassphraseInteractive : _ → Program Ag Va Te String) rest
        (asking v) := by
  obtain ⟨key, plain, pass, v, there, encrypted, opens, typed, _, vault_same, later⟩ :=
    right.answers (Prompt.keeps_promptPassphraseInteractive aside_stores path)
  rw [← vault_same] at refusing
  obtain ⟨e, refused, rfl⟩ := refusing.refuses (keyId key) pass
  let u : World Ag Va Te := { v with vault := (BiometricVault.store (keyId key) pass v.vault).2 }
  have stored : (Program.onVault (BiometricVault.store (keyId key) pass) :
      Program Ag Va Te (Except BiometricError Unit)) v = (.ok (.error e), u) :=
    Fallible.run_eq (congrArg Except.ok refused)
  refine ⟨e.text, u, ?_, refusing.still (keyId key) pass, later⟩
  unfold enrollOne
  rw [Fallible.bind_of_ok (readKey_run_of_keyAt there)]
  simp only [encrypted, Bool.not_true, Bool.false_eq_true, if_false]
  rw [Fallible.bind_of_ok typed]
  simp only [opens]
  rw [Fallible.bind_of_ok stored]
  rfl

/-- With one file or more, the code of the errors is the code of the batch. -/
theorem collect_refused {paths : List String} {w : World Ag Va Te}
    (refusing : Refusing code w.vault)
    (right : TypesRight Priv (Prompt.promptPassphraseInteractive : _ → Program Ag Va Te String)
      paths (asking w)) (acc : List Outcome × Nat) :
    ∃ results v, paths.foldlM (collectOne (enrollOne Priv)) acc w =
      (.ok (results, if paths = [] then acc.2 else code), v) := by
  induction paths generalizing acc w with
  | nil => exact ⟨acc.1, w, rfl⟩
  | cons path rest ih =>
    obtain ⟨message, v, failed, still, later⟩ := enrollOne_refused refusing right
    have round : collectOne (enrollOne Priv) acc path w =
        (.ok (acc.1 ++ [.failed path message code], code), v) := by
      unfold collectOne
      rw [Fallible.bind_of_ok failed]
      rfl
    obtain ⟨results, u, rounds⟩ := ih still later (acc.1 ++ [.failed path message code], code)
    refine ⟨results, u, ?_⟩
    rw [List.foldlM_cons, Fallible.bind_of_ok round, rounds]
    simp

/-- Enrolling ends with the code of the error, or with the one for a missing backend. -/
theorem runEnroll_refused {files : List String} (nonempty : files ≠ []) (mode : OutputMode)
    {w : World Ag Va Te} (refusing : Refusing code w.vault)
    (right : TypesRight Priv (Prompt.promptPassphraseInteractive : _ → Program Ag Va Te String)
      files (asking w)) :
    (runEnroll Priv ⟨files⟩ mode w).1 =
      .ok (if BiometricBackend.isAvailable w.vault then code else EXIT_NEEDS_INTERACTIVE) := by
  -- The message on an advisory backend comes before the batch and changes nothing else.
  have batch (stderr : List String) : ((resolvePaths files >>= fun paths =>
      collect (enrollOne Priv) paths >>= fun report =>
        emitResults mode "gitway biometric enroll" report.1 "enrolled" >>= fun _ =>
          pure report.2) { w with stderr := stderr }).1 = .ok code := by
    have named : (resolvePaths files : Program Ag Va Te (List String)) { w with stderr := stderr } =
        (.ok files, { w with stderr := stderr }) := by
      simp [resolvePaths, nonempty]
    obtain ⟨results, v, ran⟩ := collect_refused (w := { w with stderr := stderr }) refusing right
      ([], EXIT_OK)
    obtain ⟨stdout, stderr', printed⟩ :=
      emitResults_run mode "gitway biometric enroll" results "enrolled" v
    rw [Fallible.bind_of_ok named, Fallible.bind_of_ok (x := collect _ _) ran]
    dsimp only
    rw [Fallible.bind_of_ok printed, if_neg nonempty]
    rfl
  unfold runEnroll
  rw [Fallible.bind_query_ok, Fallible.bind_query_ok]
  cases BiometricBackend.isAvailable w.vault with
  | false => cases mode <;> rfl
  | true =>
    simp only [Bool.not_true, Bool.false_eq_true, if_false, if_true]
    split
    · exact batch (w.stderr ++ [s!"gitway: NOTE: {Tier.advisory.description}"])
    · exact batch w.stderr

end

/-! ### Loading -/

section
variable {tool : String} {prompt : String → Program Ag Va Te String}
  {decryptFailed : String → String → String} {path : String} {rest : List String} {code : Nat}

omit [Terminal Te] in
/-- The key is loaded, and the error of the keystore is only printed. -/
theorem loadKey_refused (tool : String) (decryptFailed : String → String → String)
    (keeps : ∀ path, Fallible.Keeps stores (prompt path))
    {w : World Ag Va Te} (refusing : Refusing code w.vault)
    (right : TypesRight Priv prompt (path :: rest) (asking w)) :
    ∃ (key plain : Priv) (v : World Ag Va Te), keyAt Priv w.fs path = some key ∧
      loadKey tool prompt decryptFailed path key .enroll w = (.ok plain, v) ∧
      v.agent = w.agent ∧ Refusing code v.vault ∧ TypesRight Priv prompt rest (asking v) := by
  obtain ⟨key, plain, pass, v, there, encrypted, opens, typed, agent_same, vault_same, later⟩ :=
    right.answers (keeps path)
  rw [← vault_same] at refusing
  obtain ⟨e, refused, _⟩ := refusing.refuses (keyId key) pass
  let u : World Ag Va Te := { v with
    vault := (BiometricVault.store (keyId key) pass v.vault).2
    stderr := v.stderr ++ [s!"{tool}: warning: biometric enrollment failed: {e.text}"] }
  refine ⟨key, plain, u, there, ?_, agent_same, refusing.still (keyId key) pass, later⟩
  have accepted : (Fallible.query (fun _ => (PrivateKey.decrypt key pass).mapError fun e =>
      .signing (decryptFailed path e)) : Program Ag Va Te Priv) v = (.ok plain, v) := by
    rw [Fallible.query_run, opens, mapError_ok]
  unfold loadKey
  rw [if_neg (by simp [encrypted])]
  dsimp only
  rw [Fallible.bind_of_ok typed, Fallible.bind_of_ok accepted,
    Fallible.bind_of_ok (Program.onVault_run v _), refused]
  rfl

variable [Agent Ag Priv Pub] {β : Type} {onLoaded onAdded : β → String → Program Ag Va Te β}
  {loaded : List (Identity Pub)} {lifetime : Option Nat} {confirm : Bool}

omit [Terminal Te] in
/-- Every key is loaded, whatever the keystore refuses. -/
theorem addAll_refused (keeps : ∀ path, Fallible.Keeps stores (prompt path))
    (reports : ∀ acc path w, ∃ b stdout, onAdded acc path w = (.ok b, { w with stdout := stdout }))
    {paths : List String} (acc : β) {w : World Ag Va Te} (accepting : Accepting w.agent)
    (refusing : Refusing code w.vault) (right : TypesRight Priv prompt paths (asking w)) :
    ∃ b v, paths.foldlM (addOne (loadKey tool prompt decryptFailed) onLoaded onAdded loaded
      lifetime confirm .enroll) acc w = (.ok b, v) := by
  induction paths generalizing acc w with
  | nil => exact ⟨acc, w, rfl⟩
  | cons path rest ih =>
    -- The key is unlocked and enrolling it fails, so the agent gets it.
    obtain ⟨key, plain, v, there, opened, agent_same, still, later⟩ :=
      loadKey_refused tool decryptFailed keeps refusing right
    obtain ⟨pem, read, parsed⟩ := parsed_of_keyAt there
    rw [← agent_same] at accepting
    obtain ⟨taken, next⟩ := accepting.takes plain lifetime confirm
    let u : World Ag Va Te := { v with agent := (Agent.add plain lifetime confirm v.agent).2 }
    have handed : (Program.onAgent (Agent.add plain lifetime confirm) : Program Ag Va Te Unit) v =
        (.ok (), u) := Fallible.run_eq taken
    obtain ⟨b, stdout, reported⟩ := reports acc path u
    have text := Program.readToString_run w path
    rw [read, Program.io_ok] at text
    have round : addOne (loadKey tool prompt decryptFailed) onLoaded onAdded loaded lifetime confirm
        .enroll acc path w = (.ok b, { u with stdout := stdout }) := by
      unfold addOne
      rw [Fallible.bind_of_ok text]
      simp only [parsed]
      rw [if_neg (by simp), Fallible.bind_of_ok opened, Fallible.bind_of_ok handed]
      exact reported
    obtain ⟨b', v', rounds⟩ := ih b (w := { u with stdout := stdout }) next still later
    exact ⟨b', v', by rw [List.foldlM_cons, Fallible.bind_of_ok round, rounds]⟩

end

variable [Agent Ag Priv Pub]

/-- A loader that returns a code returns zero. -/
theorem runAdd_returns_zero (args : AgentAddArgs) (mode : OutputMode) :
    Fallible.Returns (· = 0) (runAdd args mode : Program Ag Va Te Nat) := by
  unfold runAdd
  refine Fallible.Returns.bind fun paths => Fallible.Returns.bind fun _ => ?_
  refine Fallible.Returns.bind fun loaded => Fallible.Returns.bind fun report => ?_
  exact Fallible.Returns.bind fun _ => Fallible.Returns.pure rfl

theorem shimAdd_returns_zero (paths : List String) (lifetime : Option Nat) (confirm : Bool)
    (unlock : UnlockMode) :
    Fallible.Returns (· = 0) (shimAdd paths lifetime confirm unlock : Program Ag Va Te Nat) := by
  unfold shimAdd
  refine Fallible.Returns.bind fun loaded => Fallible.Returns.bind fun _ => ?_
  exact Fallible.Returns.pure rfl

section
variable {code : Nat} {files : List String} {w : World Ag Va Te}

theorem runAdd_refused (nonempty : files ≠ []) (lifetime : Option Nat) (confirm : Bool)
    (mode : OutputMode) (accepting : Accepting w.agent)
    (connects : Agent.fromEnv (w.env.vars "SSH_AUTH_SOCK") w.agent = .ok ())
    (refusing : Refusing code w.vault)
    (right : TypesRight Priv (Prompt.promptPassphraseInteractive : _ → Program Ag Va Te String)
      files (asking w)) :
    (runAdd ⟨files, lifetime, confirm, true, false⟩ mode w).1 = .ok 0 := by
  let args : AgentAddArgs := ⟨files, lifetime, confirm, true, false⟩
  -- The loop ends well, and nothing behind it can fail.
  have looped : ∃ report v, files.foldlM (agentRound (loadedIdentities w.agent) args) ([], []) w =
      (.ok report, v) :=
    addAll_refused (Prompt.keeps_promptPassphraseInteractive aside_stores)
      (fun acc path w => ⟨_, w.stdout, rfl⟩) _ accepting refusing right
  obtain ⟨report, v, looped⟩ := looped
  obtain ⟨stdout, stderr, printed⟩ := reportAdded_run args mode report.1 report.2 v
  have named : args.paths w = (.ok files, w) := by
    simp [args, AgentAddArgs.paths, nonempty]
  show (runAdd args mode w).1 = .ok 0
  rw [runAdd_rounds mode named connects, Fallible.bind_of_ok looped, Fallible.bind_of_ok printed]
  rfl

theorem shimAdd_refused (lifetime : Option Nat) (confirm : Bool) (accepting : Accepting w.agent)
    (refusing : Refusing code w.vault)
    (right : TypesRight Priv (shimPromptPassphrase : _ → Program Ag Va Te String) files
      (asking w)) :
    (shimAdd files lifetime confirm (.fromFlags true false) w).1 = .ok 0 := by
  have looped : ∃ u v, files.foldlM (shimRound (loadedIdentities w.agent) lifetime confirm
      (.fromFlags true false)) () w = (.ok u, v) :=
    addAll_refused (keeps_shimPromptPassphrase aside_stores)
      (fun acc path w => ⟨_, _, Program.println_run w s!"Identity added: {path}"⟩)
      () accepting refusing right
  obtain ⟨u, v, looped⟩ := looped
  unfold shimAdd
  rw [Fallible.bind_query_ok]
  exact congrArg Prod.fst (Fallible.bind_of_ok looped)

/-! ### Exit codes -/

/-- The codes that errors of the library have: general, usage, not found and permission. -/
def Documented (exitCode : AnvilError → UInt32) : Prop := ∀ e, (exitCode e).toNat ≤ 4

section
variable (exitCode : AnvilError → UInt32)

/-- What `gitway` ends with. -/
def gitwayStatus (x : Program Ag Va Te Nat) (w : World Ag Va Te) : UInt8 :=
  Exit.gitwayMain exitCode ((x w).1.map Nat.toUInt32)

/-- What `gitway-add` ends with. -/
def addStatus (x : Program Ag Va Te Nat) (w : World Ag Va Te) : UInt8 :=
  Exit.addMain exitCode ((x w).1.map Nat.toUInt32)

variable {exitCode}

omit [BiometricBackend Va] [Terminal Te] in
/-- A loader ends with success or with the code of an error of the library. -/
theorem status_le_four (documented : Documented exitCode) {x : Program Ag Va Te Nat}
    (zero : Fallible.Returns (· = 0) x) (w : World Ag Va Te) :
    (gitwayStatus exitCode x w).toNat ≤ 4 ∧ (addStatus exitCode x w).toNat ≤ 4 := by
  unfold gitwayStatus addStatus
  cases ended : (x w).1 with
  | ok code =>
    obtain rfl := zero w code _ (Fallible.run_eq ended)
    exact ⟨Nat.zero_le 4, Nat.zero_le 4⟩
  | error e =>
    have small := documented e
    have fits : (exitCode e).toNat ≤ 255 := by omega
    simp only [Except.map, Exit.gitwayMain, Exit.addMain, Exit.codeOf,
      Exit.processExit, Exit.byteOrOne, UInt32.toUInt32_toInt32, UInt32.toNat_toUInt8, if_pos fits]
    omega

end

/-- Enrolling reports a keystore that is not there, and the loaders with `--biometric` do
not. Where the agent takes the keys they report success, whatever the error was. -/
theorem unavailable_exit_codes {exitCode : AnvilError → UInt32} (documented : Documented exitCode)
    (nonempty : files ≠ []) (lifetime : Option Nat) (confirm : Bool) (mode : OutputMode)
    (refusing : Refusing code w.vault)
    (typed : TypesRight Priv (Prompt.promptPassphraseInteractive : _ → Program Ag Va Te String)
      files (asking w))
    (typed' : TypesRight Priv (shimPromptPassphrase : _ → Program Ag Va Te String)
      files (asking w)) :
    (code = EXIT_NEEDS_INTERACTIVE →
      gitwayStatus exitCode (runEnroll Priv ⟨files⟩ mode) w = 78 ∧
      gitwayStatus exitCode (runAdd ⟨files, lifetime, confirm, true, false⟩ mode) w ≠ 78 ∧
      addStatus exitCode (shimAdd files lifetime confirm (.fromFlags true false)) w ≠ 78) ∧
    (BiometricBackend.isAvailable w.vault = true → Accepting w.agent →
      Agent.fromEnv (w.env.vars "SSH_AUTH_SOCK") w.agent = .ok () →
        gitwayStatus exitCode (runEnroll Priv ⟨files⟩ mode) w = code.toUInt8 ∧ code.toUInt8 ≠ 0 ∧
        gitwayStatus exitCode (runAdd ⟨files, lifetime, confirm, true, false⟩ mode) w = 0 ∧
        addStatus exitCode (shimAdd files lifetime confirm (.fromFlags true false)) w = 0) := by
  constructor
  · rintro rfl
    -- The loaders end with 0 or with the code of an error, which is small.
    have enrolled := runEnroll_refused nonempty mode refusing typed
    simp only [ite_self] at enrolled
    refine ⟨?_, ?_, ?_⟩
    · rw [gitwayStatus, enrolled]
      rfl
    · intro same
      have small := (status_le_four documented
        (runAdd_returns_zero ⟨files, lifetime, confirm, true, false⟩ mode) w).1
      simp [same] at small
    · intro same
      have small := (status_le_four documented
        (shimAdd_returns_zero files lifetime confirm (.fromFlags true false)) w).2
      simp [same] at small
  · intro available accepting connects
    have enrolled := runEnroll_refused nonempty mode refusing typed
    rw [if_pos available] at enrolled
    have added := runAdd_refused nonempty lifetime confirm mode accepting connects refusing typed
    have shimmed := shimAdd_refused lifetime confirm accepting refusing typed'
    obtain ⟨e, _, rfl⟩ := refusing.refuses "" ""
    refine ⟨?_, ?_, ?_, ?_⟩
    · rw [gitwayStatus, enrolled]
      cases e <;> rfl
    · cases e <;>
        simp [exitFor, EXIT_NOT_FOUND, EXIT_USER_DECLINED, EXIT_NEEDS_INTERACTIVE, EXIT_GENERAL]
    · rw [gitwayStatus, added]
      rfl
    · rw [addStatus, shimmed]
      rfl

end
/-! ### On a machine without a keyring -/

open Reference

/-- A keystore with a sensor and nothing to keep a secret in. -/
private structure NoKeyring where

private def noKeyring : BiometricError := .unavailable "no keyring"

private instance : BiometricBackend NoKeyring where
  store _ _ vault := (.error noKeyring, vault)
  retrieve _ vault := (.error noKeyring, vault)
  delete _ vault := (.error noKeyring, vault)
  isAvailable _ := true
  bindingTier _ := .advisory
  list vault := (.error noKeyring, vault)

private theorem noKeyring_refusing : Refusing EXIT_NEEDS_INTERACTIVE (⟨⟩ : NoKeyring) :=
  fun _ _ _ => ⟨noKeyring, rfl, rfl⟩

private abbrev AtTerminal : Type := World RefAgent NoKeyring RefTerminal

private theorem interactive_answered {w : AtTerminal} (unset : w.env.vars "SSH_ASKPASS" = none)
    {answer : String} {later : List String} (terminal : w.terminal = ⟨answer :: later⟩)
    (path : String) : Prompt.promptPassphraseInteractive path w =
      (.ok answer, { w with terminal := ⟨later⟩ }) := by
  have unasked : Prompt.tryAskpass s!"Enter passphrase for {path}: " w = (.ok none, w) := by
    unfold Prompt.tryAskpass
    rw [Fallible.bind_of_ok (Program.environment_run w), unset]
    rfl
  have typed : Program.promptPassword s!"Enter passphrase for {path}: " w =
      (.ok (.ok answer), { w with terminal := ⟨later⟩ }) := by
    simp [Program.promptPassword, terminal, Terminal.promptPassword]
  unfold Prompt.promptPassphraseInteractive
  rw [Fallible.bind_of_ok unasked]
  dsimp only
  rw [Fallible.bind_of_ok typed]
  rfl

private theorem shim_answered {w : AtTerminal} (tty : w.env.stdinIsTerminal = true)
    {answer : String} {later : List String} (terminal : w.terminal = ⟨answer :: later⟩)
    (path : String) :
    shimPromptPassphrase path w = (.ok answer, { w with terminal := ⟨later⟩ }) := by
  have unpiped : passphraseFromStdinIfNotTty w = (.ok none, w) := by
    unfold passphraseFromStdinIfNotTty
    rw [Fallible.bind_of_ok (Program.environment_run w), tty]
    rfl
  have typed : Program.promptPassword s!"Enter passphrase for {path}: " w =
      (.ok (.ok answer), { w with terminal := ⟨later⟩ }) := by
    simp [Program.promptPassword, terminal, Terminal.promptPassword]
  unfold shimPromptPassphrase
  rw [Fallible.bind_of_ok unpiped]
  dsimp only
  rw [Fallible.bind_of_ok typed]
  rfl

/-- One encrypted key, and a person who types its passphrase. -/
private def oneLocked : AtTerminal where
  env := { environment [("SSH_AUTH_SOCK", "/run/agent.sock")] with stdinIsTerminal := true }
  fs := textFiles [("id", "openssh-key-v1 AAAA aes256-ctr one")]
  agent := ⟨false, []⟩
  vault := ⟨⟩
  terminal := ⟨["one"]⟩
  stdin := .ok ByteArray.empty
  stdout := []
  stderr := []
  signals := []

private theorem oneLocked_there :
    keyAt RefPrivate oneLocked.fs "id" = some ⟨⟨"AAAA"⟩, some "one"⟩ :=
  keyAt_of_parsed (readToString_textFiles _ _ _ rfl) (by decide)

private theorem oneLocked_typed {prompt : String → Program RefAgent NoKeyring RefTerminal String}
    (answered : ∀ w : AtTerminal, asking w = asking oneLocked →
      prompt "id" w = (.ok "one", { w with terminal := ⟨[]⟩ })) :
    TypesRight RefPrivate prompt ["id"] (asking oneLocked) := by
  refine ⟨_, ⟨⟨"AAAA"⟩, none⟩, "one", { asking oneLocked with terminal := ⟨[]⟩ }, oneLocked_there,
    rfl, rfl, fun w same => ?_, trivial⟩
  rw [answered w same, ← same]
  exact ⟨rfl, rfl⟩

/-- The codes of the library, all of them the general one. -/
private def generalCode : AnvilError → UInt32 := fun _ => 1

private theorem generalCode_documented : Documented generalCode := by
  intro e
  simp [generalCode]

private theorem oneLocked_env {w : AtTerminal} (same : asking w = asking oneLocked) :
    w.env = oneLocked.env :=
  congrArg Asking.env same

private theorem oneLocked_interactive : TypesRight RefPrivate
    (Prompt.promptPassphraseInteractive : _ → Program RefAgent NoKeyring RefTerminal String)
    ["id"] (asking oneLocked) :=
  oneLocked_typed fun _ same => interactive_answered (oneLocked_env same ▸ rfl)
    (congrArg Asking.terminal same) "id"

private theorem oneLocked_shim : TypesRight RefPrivate
    (shimPromptPassphrase : _ → Program RefAgent NoKeyring RefTerminal String)
    ["id"] (asking oneLocked) :=
  oneLocked_typed fun _ same => shim_answered (oneLocked_env same ▸ rfl)
    (congrArg Asking.terminal same) "id"

theorem unavailable_exit_codes_no_keyring :
    gitwayStatus generalCode (runEnroll RefPrivate ⟨["id"]⟩ .human) oneLocked = 78 ∧
    gitwayStatus generalCode (runAdd ⟨["id"], none, false, true, false⟩ .human) oneLocked = 0 ∧
    addStatus generalCode (shimAdd ["id"] none false (.fromFlags true false)) oneLocked = 0 := by
  have codes := unavailable_exit_codes generalCode_documented (by simp) none false .human
    noKeyring_refusing oneLocked_interactive oneLocked_shim
  obtain ⟨_, _, added, shimmed⟩ := codes.2 rfl (refAgent_accepting rfl) rfl
  exact ⟨(codes.1 rfl).1, added, shimmed⟩

/-- Three commands, asked for a keystore that is not there, do not all end with 78. -/
theorem unavailable_exit_codes_not_alike :
    Refusing EXIT_NEEDS_INTERACTIVE oneLocked.vault ∧
      ¬ (gitwayStatus generalCode (runEnroll RefPrivate ⟨["id"]⟩ .human) oneLocked = 78 ∧
        gitwayStatus generalCode (runAdd ⟨["id"], none, false, true, false⟩ .human) oneLocked = 78 ∧
        addStatus generalCode (shimAdd ["id"] none false (.fromFlags true false)) oneLocked =
          78) := by
  refine ⟨noKeyring_refusing, fun ⟨_, added, _⟩ => ?_⟩
  have small := (status_le_four generalCode_documented
    (runAdd_returns_zero ⟨["id"], none, false, true, false⟩ .human) oneLocked).1
  simp [added] at small

end Gitway.Biometric
