import Gitway.Biometric.Calls
import Gitway.Lib.Runs

/-!
# Verified before stored

Runs of the commands that share the keystore, in any order and with anything else
changing between them. An entry that is found in the keystore was stored by one of
the steps, and what that step stored opened a key file with the id of the entry.
-/
namespace Gitway.Biometric

open Lib

inductive Command where
  | enroll (args : BiometricEnrollArgs) (mode : OutputMode)
  | agentAdd (args : Agent.AgentAddArgs) (mode : OutputMode)
  | shimAdd (paths : List String) (lifetime : Option Nat) (confirm : Bool) (unlock : UnlockMode)
  /-- The passphrase of a connection, with its automatic unlock. -/
  | passphrase (path : String)
  | forget (args : BiometricForgetArgs) (mode : OutputMode)
  | changePassphrase (args : Keygen.ChangePassphraseArgs) (mode : OutputMode)

variable {Priv Pub Ag Va Te : Type} [PublicKey Pub] [PrivateKey Priv Pub] [Keygen.Writer Priv]
  [BiometricBackend Va] [Terminal Te] [Agent Ag Priv Pub]

variable (Priv) in
/-- The world after a command, however it ended. -/
def Command.effect (w : World Ag Va Te) : Command → World Ag Va Te
  | .enroll args mode => (runEnroll Priv args mode w).2
  | .agentAdd args mode => (Agent.runAdd args mode w).2
  | .shimAdd paths lifetime confirm unlock => (Agent.shimAdd paths lifetime confirm unlock w).2
  | .passphrase path => (Prompt.promptPassphrase Priv path w).2
  | .forget args mode => (runForget Priv args mode w).2
  | .changePassphrase args mode => (Keygen.runChangePassphrase Priv args mode w).2

variable (Priv) in
/-- A command runs, or anything but the keystore changes: other files, other answers. -/
inductive Step : World Ag Va Te → Option Command → World Ag Va Te → Prop where
  | command (c : Command) (w : World Ag Va Te) : Step w (some c) (c.effect Priv w)
  | outside {w w' : World Ag Va Te} (same : w'.vault = w.vault) : Step w none w'

section
variable {holds : Va → String → String → Prop}

/-- Step lemma: what a step stores opens a key file, and no entry comes in otherwise. -/
theorem step_verified (laws : StoresOnly holds) {w w' : World Ag (Recorded Va) Te}
    {c : Option Command} (step : Step Priv w c w') :
    ∃ calls, w'.vault.calls = w.vault.calls ++ calls ∧
      (∀ id secret, VaultCall.store id secret ∈ calls → Opens Priv w.fs id secret) ∧
      ∀ id secret, holds w'.vault.vault id secret →
        holds w.vault.vault id secret ∨ VaultCall.store id secret ∈ calls := by
  have start (files : FileSystem → Prop) (there : files w.fs) :
      Watching Ag Te holds files (Opens Priv w.fs) w.vault w :=
    ⟨there, [], by simp [view], by simp, fun _ _ held => Or.inl held⟩
  -- All commands but the change of a passphrase leave the files as they are.
  have same := start (· = w.fs) rfl
  cases step with
  | outside unchanged =>
    exact ⟨[], by simp [unchanged], by simp, fun _ _ held => Or.inl (unchanged ▸ held)⟩
  | command c =>
    cases c with
    | enroll args mode => exact (verifies_runEnroll laws args mode w same).2
    | agentAdd args mode => exact (verifies_runAdd laws args mode w same).2
    | shimAdd paths lifetime confirm unlock =>
      exact (verifies_shimAdd laws paths lifetime confirm unlock w same).2
    | passphrase path => exact (watching_promptPassphrase laws path w same).2
    | forget args mode => exact (watching_runForget laws args mode w same).2
    | changePassphrase args mode =>
      exact (watching_runChangePassphrase laws args mode w (start _ trivial)).2

/-- Run lemma: an entry that came in was stored by one of the steps. -/
theorem entry_stored (laws : StoresOnly holds) {w w' : World Ag (Recorded Va) Te}
    {cs : List (Option Command)} (run : Run (Step Priv) w cs w') {id secret : String}
    (before : ¬ holds w.vault.vault id secret) (after : holds w'.vault.vault id secret) :
    ∃ cs₁ c cs₂ u v calls, cs = cs₁ ++ c :: cs₂ ∧ Run (Step Priv) w cs₁ u ∧ Step Priv u c v ∧
      Run (Step Priv) v cs₂ w' ∧ v.vault.calls = u.vault.calls ++ calls ∧
      VaultCall.store id secret ∈ calls ∧ Opens Priv u.fs id secret := by
  obtain ⟨cs₁, c, cs₂, u, v, split, first, taken, last, was, is⟩ :=
    Run.introduced (G := fun w => holds w.vault.vault id secret) run before after
  obtain ⟨calls, since, verified, entries⟩ := step_verified laws taken
  -- The entry was not there before this step, so the step stored it.
  have stored := (entries id secret is).resolve_left was
  exact ⟨cs₁, c, cs₂, u, v, calls, split, first, taken, last, since, stored,
    verified id secret stored⟩

end

/-! ### Typed passphrases that open nothing -/

/-- A typed passphrase that fails leaves the keystore as it is: in the automatic mode
nothing comes after the automatic unlock, and in the others nothing at all. -/
structure SparesVault (load : String → Priv → UnlockMode → Program Ag Va Te Priv) : Prop where
  disabled : ∀ path key w, (load path key .disabled w).2.vault = w.vault
  enroll : ∀ path key w e, (load path key .enroll w).1 = .error e →
    (load path key .enroll w).2.vault = w.vault
  auto : ∀ path key w, PrivateKey.isEncrypted key = true →
    (load path key .auto w).2.vault = (autoUnlockPassphrase key w).2.vault

omit [Keygen.Writer Priv] [Terminal Te] [Agent Ag Priv Pub] in
theorem loadKey_sparesVault {tool : String} {prompt : String → Program Ag Va Te String}
    (prompts : ∀ path, Fallible.Keeps World.vault (prompt path))
    {decryptFailed : String → String → String} :
    SparesVault (Agent.loadKey tool prompt decryptFailed :
      String → Priv → UnlockMode → Program Ag Va Te Priv) where
  disabled path key := by
    show Fallible.Keeps World.vault (Agent.loadKey tool prompt decryptFailed path key .disabled)
    unfold Agent.loadKey
    split
    · exact Fallible.Keeps.pure _
    · exact Fallible.Keeps.bind (prompts path) fun _ => Fallible.Keeps.query _
  enroll path key w e failed := by
    rcases Agent.loadKey_enroll (prompts path) key w with same | ⟨pass, plain, _, loaded, _⟩
    · exact same
    · rw [failed] at loaded
      simp at loaded
  auto path key w encrypted := by
    obtain ⟨outcome, vault, ran, _⟩ := autoUnlockPassphrase_spec key w
    have typed : Fallible.Keeps World.vault (prompt path >>= fun pass => (Fallible.query fun _ =>
        (PrivateKey.decrypt key pass).mapError fun e => .signing (decryptFailed path e) :
          Program Ag Va Te Priv)) :=
      Fallible.Keeps.bind (prompts path) fun _ => Fallible.Keeps.query _
    unfold Agent.loadKey
    rw [encrypted]
    simp only [Bool.not_true, Bool.false_eq_true, if_false]
    rw [Fallible.bind_of_ok ran, ran]
    cases outcome with
    -- A released passphrase is not followed by a prompt.
    | passphrase pass => rfl
    | stale => exact typed _
    | fallback => exact typed _

omit [Keygen.Writer Priv] [Agent Ag Priv Pub] in
/-- An enrolment whose typed passphrase does not open the key leaves the keystore alone. -/
theorem enrollOne_unopened {path : String} {w : World Ag Va Te}
    (unopened : ∀ (key : Priv) pass w₁, keyAt Priv w.fs path = some key →
      Prompt.promptPassphraseInteractive path w = (.ok pass, w₁) →
        ∃ e, PrivateKey.decrypt key pass = .error e) :
    (enrollOne Priv path w).2.vault = w.vault := by
  have prompts : Fallible.Keeps World.vault
      (Prompt.promptPassphraseInteractive path : Program Ag Va Te String) :=
    Prompt.keeps_promptPassphraseInteractive Program.aside_vault path
  have read : readKey Priv path w = (.ok (keyIn Priv w.fs path), w) := rfl
  unfold enrollOne
  rw [Fallible.bind_of_ok read]
  cases found : keyIn Priv w.fs path with
  | error message => rfl
  | ok key =>
    dsimp only
    split
    · rfl
    cases typed : Prompt.promptPassphraseInteractive path w with
    | mk answer v =>
      have same : v.vault = w.vault := prompts.eq typed
      cases answer with
      | error e =>
        rw [Fallible.bind_of_error typed]
        exact same
      | ok pass =>
        -- The typed passphrase is tried before anything is stored.
        obtain ⟨e, refused⟩ := unopened key pass v (keyAt_of_keyIn found) typed
        rw [Fallible.bind_of_ok typed]
        simp only [refused, Fallible.pure_run]
        exact same

/-- Whatever is in the keystore was stored by a step at which it opened a key file with
its id, and a typed passphrase that opens nothing leaves the keystore alone. Only an
automatic unlock can react to a decryption that failed, and it only takes entries out. -/
theorem enrolments_verified {holds : Va → String → String → Prop} (laws : StoresOnly holds) :
    (∀ (w w' : World Ag (Recorded Va) Te) (cs : List (Option Command)),
      Run (Step Priv) w cs w' → (∀ id secret, ¬ holds w.vault.vault id secret) →
        ∀ id secret, holds w'.vault.vault id secret →
          ∃ cs₁ c cs₂ u v calls, cs = cs₁ ++ c :: cs₂ ∧ Run (Step Priv) w cs₁ u ∧
            Step Priv u c v ∧ Run (Step Priv) v cs₂ w' ∧
            v.vault.calls = u.vault.calls ++ calls ∧ VaultCall.store id secret ∈ calls ∧
            Opens Priv u.fs id secret) ∧
      (∀ (w w' : World Ag (Recorded Va) Te) c calls, Step Priv w c w' →
        w'.vault.calls = w.vault.calls ++ calls →
          ∀ id secret, VaultCall.store id secret ∈ calls → Opens Priv w.fs id secret) ∧
      (∀ path (w : World Ag (Recorded Va) Te),
        (∀ (key : Priv) pass w₁, keyAt Priv w.fs path = some key →
          Prompt.promptPassphraseInteractive path w = (.ok pass, w₁) →
            ∃ e, PrivateKey.decrypt key pass = .error e) →
          (enrollOne Priv path w).2.vault = w.vault) ∧
      SparesVault (Agent.loadPrivateKey :
        String → Priv → UnlockMode → Program Ag (Recorded Va) Te Priv) ∧
      SparesVault (Agent.loadAndDecrypt :
        String → Priv → UnlockMode → Program Ag (Recorded Va) Te Priv) ∧
      ∀ (key : Priv) (w : World Ag (Recorded Va) Te) id secret,
        holds (autoUnlockPassphrase key w).2.vault.vault id secret →
          holds w.vault.vault id secret := by
  refine ⟨?_, ?_, ?_, ?_, ?_, ?_⟩
  · intro w w' cs run empty id secret held
    exact entry_stored laws run (empty id secret) held
  · intro w w' c calls step since id secret stored
    obtain ⟨made, since', verified, _⟩ := step_verified laws step
    -- The calls since the step began are determined by the two traces.
    obtain rfl : calls = made := List.append_cancel_left (since.symm.trans since')
    exact verified id secret stored
  · intro path w unopened
    exact enrollOne_unopened unopened
  · exact loadKey_sparesVault (Prompt.keeps_promptPassphraseInteractive Program.aside_vault)
  · exact loadKey_sparesVault (Agent.keeps_shimPromptPassphrase Program.aside_vault)
  · intro key w id secret held
    -- With nothing allowed to be stored, every entry was there before.
    have watched : Watching Ag Te holds (fun _ => True) (fun _ _ => False) w.vault w :=
      ⟨trivial, [], by simp [view], by simp, fun _ _ held => Or.inl held⟩
    obtain ⟨_, calls, _, none_stored, entries⟩ :=
      watching_autoUnlockPassphrase laws key w watched
    exact (entries id secret held).resolve_right (none_stored id secret)

/-! ### On a reference environment -/

open Reference

instance : BiometricBackend RefVault where
  isAvailable _ := true
  bindingTier _ := .advisory
  list vault :=
    (.ok (vault.secrets.map fun e => ⟨fingerprintOf e.1, none⟩), vault)

/-- The library encrypts under no empty passphrase. -/
instance : Keygen.Writer RefPrivate where
  generate _ _ comment _ := .ok ⟨⟨comment⟩, none⟩
  writeKeypair key path new fs :=
    if new = some "" then (.error (.invalidConfig "passphrase is empty"), fs)
    else (.ok (), fs.write path ("openssh-key-v1 " ++ key.key.blob ++ " none").toUTF8)
  changePassphrase path _ new fs :=
    if new = some "" then (.error (.invalidConfig "passphrase is empty"), fs)
    else
      match fs.refuses path with
      | some e => (.error (.io e), fs)
      | none => (.ok (), fs)
  cliName _ := "ed25519"

def refHolds (vault : RefVault) (id secret : String) : Prop := (id, secret) ∈ vault.secrets

theorem refVault_storesOnly : StoresOnly refHolds where
  store v id pass i s held := by
    simp only [refHolds, BiometricVault.store, List.mem_cons, Prod.mk.injEq] at held ⊢
    exact held.symm
  retrieve v id i s held := by
    simp only [refHolds, BiometricVault.retrieve] at held ⊢
    split at held <;> exact held
  delete v id i s held := by
    simp only [refHolds, BiometricVault.delete] at held ⊢
    exact List.mem_of_mem_filter held
  list v i s held := held

private def oldFiles : FileSystem := textFiles [("id", "openssh-key-v1 AAAA aes256-ctr old")]

private def enrolling : World RefAgent (Recorded RefVault) RefTerminal where
  env := environment []
  fs := oldFiles
  agent := ⟨false, []⟩
  vault := ⟨⟨[]⟩, []⟩
  terminal := ⟨["old"]⟩
  stdin := .ok ByteArray.empty
  stdout := []
  stderr := []
  signals := []

private def enrolled : World RefAgent (Recorded RefVault) RefTerminal :=
  { enrolling with
    vault := ⟨⟨[("gitway:ssh:SHA256:AAAA", "old")]⟩, [.store "gitway:ssh:SHA256:AAAA" "old"]⟩
    terminal := ⟨[]⟩ }

private theorem enrolling_enrolled :
    enrollOne RefPrivate "id" enrolling = (.ok (.succeeded "id" "SHA256:AAAA"), enrolled) := by
  have file : oldFiles.readToString "id" = .ok "openssh-key-v1 AAAA aes256-ctr old" :=
    readToString_textFiles _ "id" _ rfl
  have parsed : (PrivateKey.fromOpenssh "openssh-key-v1 AAAA aes256-ctr old" :
      Except String RefPrivate) = .ok ⟨⟨"AAAA"⟩, some "old"⟩ := rfl
  have found : keyIn RefPrivate oldFiles "id" = .ok ⟨⟨"AAAA"⟩, some "old"⟩ := by
    simp only [keyIn, file, parsed]
  have read : readKey RefPrivate "id" enrolling =
      (.ok (.ok ⟨⟨"AAAA"⟩, some "old"⟩), enrolling) := Prod.ext (congrArg Except.ok found) rfl
  unfold enrollOne
  rw [Fallible.bind_of_ok read]
  rfl

private theorem enrolling_step :
    (Command.enroll ⟨["id"]⟩ .json).effect RefPrivate enrolling =
      { enrolled with
        stdout := [.json (.obj [
          ("metadata", metadataBlock (environment []) "gitway biometric enroll"),
          ("data", .obj [("results", .arr
            [outcomeJson "enrolled" (.succeeded "id" "SHA256:AAAA")])])])] } := by
  have one : collect (enrollOne RefPrivate) ["id"] enrolling =
      (.ok ([.succeeded "id" "SHA256:AAAA"], 0), enrolled) := by
    have first : collectOne (enrollOne RefPrivate) ([], EXIT_OK) "id" enrolling =
        (.ok ([.succeeded "id" "SHA256:AAAA"], EXIT_OK), enrolled) := by
      unfold collectOne
      rw [Fallible.bind_of_ok enrolling_enrolled]
      rfl
    unfold collect
    rw [List.foldlM_cons, Fallible.bind_of_ok first]
    rfl
  have resolved : resolvePaths ["id"] enrolling = (.ok ["id"], enrolling) := rfl
  have available : (Fallible.query (fun w => .ok (BiometricBackend.isAvailable w.vault)) :
      Program RefAgent (Recorded RefVault) RefTerminal Bool) enrolling =
        (.ok true, enrolling) := rfl
  have tier : (Fallible.query (fun w => .ok (BiometricBackend.bindingTier w.vault)) :
      Program RefAgent (Recorded RefVault) RefTerminal Tier) enrolling =
      (.ok .advisory, enrolling) := rfl
  show (runEnroll RefPrivate ⟨["id"]⟩ .json enrolling).2 = _
  unfold runEnroll
  rw [Fallible.bind_of_ok available, Fallible.bind_of_ok tier]
  simp only [Bool.not_true, Bool.false_eq_true, if_false, reduceCtorEq, and_false]
  rw [Fallible.bind_of_ok resolved, Fallible.bind_of_ok one]
  rfl

/-- One key is enrolled: its entry was stored by a step at which it opened the key. -/
theorem enrolments_verified_one_key :
    StoresOnly refHolds ∧ ∃ (c : Option Command)
      (u v : World RefAgent (Recorded RefVault) RefTerminal) (calls : List VaultCall),
      Step RefPrivate u c v ∧
      v.vault.calls = u.vault.calls ++ calls ∧
      VaultCall.store "gitway:ssh:SHA256:AAAA" "old" ∈ calls ∧
      Opens RefPrivate u.fs "gitway:ssh:SHA256:AAAA" "old" := by
  have run : Run (Step RefPrivate) enrolling [some (.enroll ⟨["id"]⟩ .json)]
      ((Command.enroll ⟨["id"]⟩ .json).effect RefPrivate enrolling) :=
    Run.cons (Step.command _ _) (Run.nil _)
  have empty (id secret : String) : ¬ refHolds enrolling.vault.vault id secret := by
    simp [refHolds, enrolling]
  have held : refHolds ((Command.enroll ⟨["id"]⟩ .json).effect RefPrivate enrolling).vault.vault
      "gitway:ssh:SHA256:AAAA" "old" := by
    rw [enrolling_step]
    simp [refHolds, enrolled]
  obtain ⟨cs₁, c, cs₂, u, v, calls, _, _, taken, _, since, stored, opens⟩ :=
    (enrolments_verified refVault_storesOnly).1 _ _ _ run empty _ _ held
  exact ⟨refVault_storesOnly, c, u, v, calls, taken, since, stored, opens⟩

/-- The passphrase of an enrolled key is changed. At the next load the keystore's own
secret fails to decrypt the key, and the keystore does not stay as it is. -/
theorem stale_secret_taken_out :
    enrollOne RefPrivate "id" enrolling = (.ok (.succeeded "id" "SHA256:AAAA"), enrolled) ∧
      enrolled.vault.vault.secrets = [("gitway:ssh:SHA256:AAAA", "old")] ∧
      let key : RefPrivate := ⟨⟨"AAAA"⟩, some "new"⟩
      let later := { enrolled with
        fs := textFiles [("id", "openssh-key-v1 AAAA aes256-ctr new")] }
      keyAt RefPrivate later.fs "id" = some key ∧
        (∃ e, PrivateKey.decrypt key "old" = .error e) ∧
        (autoUnlockPassphrase key later).1 = .ok .stale ∧
        (autoUnlockPassphrase key later).2.vault.vault.secrets = [] := by
  have file : (textFiles [("id", "openssh-key-v1 AAAA aes256-ctr new")]).readToString "id" =
      .ok "openssh-key-v1 AAAA aes256-ctr new" := readToString_textFiles _ "id" _ rfl
  refine ⟨enrolling_enrolled, rfl, ?_⟩
  intro key later
  exact ⟨keyAt_of_parsed file rfl, ⟨"cryptographic error", rfl⟩, rfl, rfl⟩

end Gitway.Biometric
