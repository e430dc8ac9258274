import Gitway.Prompt

/-!
# Decrypting a key to be loaded

`gitway agent add` and `gitway-add` decrypt a key file in the same way: `loadKey`
is written out twice in the sources, with other prompts and other messages.
-/
namespace Gitway.Agent

open Lib Biometric

variable {Priv Pub Ag Va Te : Type} [PublicKey Pub] [PrivateKey Priv Pub] [BiometricVault Va]

def loadKey (tool : String) (prompt : String → Program Ag Va Te String)
    (decryptFailed : String → String → String) (path : String) (key : Priv)
    (unlock : UnlockMode) : Program Ag Va Te Priv := do
  if !PrivateKey.isEncrypted key then
    return key
  let decrypt (pass : String) : Program Ag Va Te Priv :=
    Fallible.query fun _ => (PrivateKey.decrypt key pass).mapError fun e =>
      .signing (decryptFailed path e)
  let id := keyId key
  match unlock with
  | .disabled => decrypt (← prompt path)
  -- The passphrase is stored after it has opened the key.
  | .enroll =>
    let pass ← prompt path
    let decrypted ← decrypt pass
    match ← Program.onVault (BiometricVault.store id pass) with
    | .ok () => Program.eprintln s!"{tool}: enrolled {path} for biometric unlock"
    | .error e => Program.eprintln s!"{tool}: warning: biometric enrollment failed: {e.text}"
    return decrypted
  | .auto =>
    match ← autoUnlockPassphrase key with
    | .passphrase pass => decrypt pass
    | .stale =>
      -- The entry in the keystore is gone by now.
      Program.eprintln (s!"{tool}: stored biometric passphrase no longer decrypts {path} — " ++
        "removed stale enrollment")
      decrypt (← prompt path)
    | .fallback => decrypt (← prompt path)

theorem loadKey_keeps {τ : Type} {view : World Ag Va Te → τ} (back : Program.Backstage view)
    (tool : String) {prompt : String → Program Ag Va Te String}
    (silent : ∀ path, Fallible.Keeps view (prompt path))
    (decryptFailed : String → String → String) (path : String) (key : Priv) (unlock : UnlockMode) :
    Fallible.Keeps view (loadKey tool prompt decryptFailed path key unlock) := by
  unfold loadKey
  split
  · exact Fallible.Keeps.pure _
  dsimp only
  cases unlock with
  | disabled => exact Fallible.Keeps.bind (silent path) fun _ => Fallible.Keeps.query _
  | enroll =>
    apply Fallible.Keeps.bind (silent path)
    intro pass
    apply Fallible.Keeps.bind (Fallible.Keeps.query _)
    intro decrypted
    apply Fallible.Keeps.bind (back.keeps_onVault _)
    intro stored
    cases stored with
    | ok => exact Fallible.Keeps.bind (back.keeps_eprintln _) fun _ => Fallible.Keeps.pure _
    | error e => exact Fallible.Keeps.bind (back.keeps_eprintln _) fun _ => Fallible.Keeps.pure _
  | auto =>
    apply Fallible.Keeps.bind (keeps_autoUnlockPassphrase back key)
    intro outcome
    cases outcome with
    | passphrase pass => exact Fallible.Keeps.query _
    | stale =>
      apply Fallible.Keeps.bind (back.keeps_eprintln _)
      intro _
      exact Fallible.Keeps.bind (silent path) fun _ => Fallible.Keeps.query _
    | fallback => exact Fallible.Keeps.bind (silent path) fun _ => Fallible.Keeps.query _

/-- Enrolling a key leaves the keystore alone, or loads the key and stores a passphrase
that opens it. -/
theorem loadKey_enroll {tool : String} {prompt : String → Program Ag Va Te String}
    {decryptFailed : String → String → String} {path : String}
    (prompts : Fallible.Keeps World.vault (prompt path)) (key : Priv) (w : World Ag Va Te) :
    (loadKey tool prompt decryptFailed path key .enroll w).2.vault = w.vault ∨
      ∃ pass plain, PrivateKey.decrypt key pass = .ok plain ∧
        (loadKey tool prompt decryptFailed path key .enroll w).1 = .ok plain ∧
        (loadKey tool prompt decryptFailed path key .enroll w).2.vault =
          (BiometricVault.store (keyId key) pass w.vault).2 := by
  -- A key that is not encrypted is returned as it is, and nothing is enrolled.
  unfold loadKey
  split
  · exact Or.inl rfl
  dsimp only
  -- The prompt may fail, the passphrase may be wrong, or both go well.
  cases typed : prompt path w with
  | mk answer v =>
    have same : v.vault = w.vault := prompts.eq typed
    cases answer with
    | error e =>
      rw [Fallible.bind_of_error typed]
      exact Or.inl same
    | ok pass =>
      rw [Fallible.bind_of_ok typed]
      cases opened : PrivateKey.decrypt key pass with
      | error reason => exact Or.inl same
      | ok plain =>
        right
        have accepted : (Fallible.query (fun _ => (PrivateKey.decrypt key pass).mapError fun e =>
            .signing (decryptFailed path e)) : Program Ag Va Te Priv) v = (.ok plain, v) := by
          rw [Fallible.query_run, opened, mapError_ok]
        -- Storing may fail, and the key is loaded all the same.
        rw [← opened, Fallible.bind_of_ok accepted, Fallible.bind_of_ok (Program.onVault_run v _),
          ← same]
        refine ⟨pass, plain, opened, ?_⟩
        cases (BiometricVault.store (keyId key) pass v.vault).1 <;> exact ⟨rfl, rfl⟩

/-- Whatever the mode, the key that is loaded is the one in the file. -/
theorem loadKey_public (law : DecryptKeepsPublic Priv) (tool : String)
    (prompt : String → Program Ag Va Te String) (decryptFailed : String → String → String)
    (path : String) (key : Priv) (unlock : UnlockMode) :
    Fallible.Returns (fun plain => PrivateKey.publicKey plain = PrivateKey.publicKey key)
      (loadKey tool prompt decryptFailed path key unlock) := by
  -- Every way to a decrypted key ends in this one.
  have decrypted (pass : String) : Fallible.Returns
      (fun plain : Priv => PrivateKey.publicKey plain = PrivateKey.publicKey key)
      (Fallible.query fun _ => (PrivateKey.decrypt key pass).mapError fun e =>
        .signing (decryptFailed path e) : Program Ag Va Te Priv) := by
    refine Fallible.Returns.query fun w plain opened => ?_
    cases attempt : PrivateKey.decrypt key pass with
    | error e => simp [attempt] at opened
    | ok found =>
      simp only [attempt, mapError_ok, Except.ok.injEq] at opened
      exact law key plain pass (opened ▸ attempt)
  unfold loadKey
  split
  · exact Fallible.Returns.pure rfl
  dsimp only
  cases unlock with
  | disabled => exact Fallible.Returns.bind decrypted
  | enroll =>
    refine Fallible.Returns.bind fun pass => ?_
    refine Fallible.Returns.bind_of (decrypted pass) fun found same => ?_
    refine Fallible.Returns.bind fun stored => ?_
    cases stored with
    | ok => exact Fallible.Returns.bind fun _ => Fallible.Returns.pure same
    | error e => exact Fallible.Returns.bind fun _ => Fallible.Returns.pure same
  | auto =>
    refine Fallible.Returns.bind fun outcome => ?_
    cases outcome with
    | passphrase pass => exact decrypted pass
    | stale => exact Fallible.Returns.bind fun _ => Fallible.Returns.bind decrypted
    | fallback => exact Fallible.Returns.bind decrypted

/-! ### The loaders of the two commands -/

variable [Terminal Te]

/-- `load_private_key` of `gitway agent`. -/
def loadPrivateKey : String → Priv → UnlockMode → Program Ag Va Te Priv :=
  loadKey "gitway" Prompt.promptPassphraseInteractive
    fun path e => s!"failed to decrypt {path}: {e}"

/-- All of standard input, when that is not a terminal. -/
def passphraseFromStdinIfNotTty : Program Ag Va Te (Option String) := do
  let env ← Program.environment
  if env.stdinIsTerminal then
    return none
  else
    -- Input that is not UTF-8 counts as none.
    match ← Program.readStdin with
    | .error _ => return none
    | .ok s => return some (Text.trimEndNewlines s)

/-- `prompt_passphrase` of `gitway-add`. -/
def shimPromptPassphrase (path : String) : Program Ag Va Te String := do
  match ← passphraseFromStdinIfNotTty with
  | some fromStdin => return fromStdin
  | none =>
    let typed ← Program.promptPassword s!"Enter passphrase for {path}: "
    Fallible.query fun _ => Program.io typed

/-- `load_and_decrypt` of `gitway-add`. -/
def loadAndDecrypt : String → Priv → UnlockMode → Program Ag Va Te Priv :=
  loadKey "gitway-add" shimPromptPassphrase fun _ e => s!"decrypt failed: {e}"

section
variable {τ : Type} {view : World Ag Va Te → τ}

omit [BiometricVault Va] [Terminal Te] in
theorem keeps_passphraseFromStdin (aside : Program.Aside view) :
    Fallible.Keeps view (passphraseFromStdinIfNotTty : Program Ag Va Te (Option String)) := by
  apply Fallible.Keeps.bind (Fallible.Keeps.query _)
  intro env
  split
  · exact Fallible.Keeps.pure _
  · apply Fallible.Keeps.bind aside.keeps_readStdin
    intro read
    split <;> exact Fallible.Keeps.pure _

omit [BiometricVault Va] in
theorem keeps_shimPromptPassphrase (aside : Program.Aside view) (path : String) :
    Fallible.Keeps view (shimPromptPassphrase path : Program Ag Va Te String) := by
  apply Fallible.Keeps.bind (keeps_passphraseFromStdin aside)
  intro fromStdin
  split
  · exact Fallible.Keeps.pure _
  · exact Fallible.Keeps.bind (aside.keeps_onTerminal _) fun _ => Fallible.Keeps.query _

end

section
variable {Vb : Type} {vault : Vb} {stderr : List String}

omit [BiometricVault Va] [Terminal Te] in
theorem blind_passphraseFromStdin :
    Fallible.Alike (Program.Exchanged vault stderr)
      (passphraseFromStdinIfNotTty : Program Ag Va Te (Option String))
      passphraseFromStdinIfNotTty := by
  apply Fallible.Alike.bind Program.blind_environment
  intro env
  split
  · exact Fallible.Alike.pure _
  · apply Fallible.Alike.bind Program.blind_readStdin
    intro read
    split <;> exact Fallible.Alike.pure _

omit [BiometricVault Va] in
theorem blind_shimPromptPassphrase (path : String) :
    Fallible.Alike (Program.Exchanged vault stderr)
      (shimPromptPassphrase path : Program Ag Va Te String) (shimPromptPassphrase path) := by
  apply Fallible.Alike.bind blind_passphraseFromStdin
  intro fromStdin
  split
  · exact Fallible.Alike.pure _
  · apply Fallible.Alike.bind (Program.blind_onTerminal _)
    intro typed
    exact Fallible.Alike.query fun _ _ _ => rfl

end

/-- A way to decrypt the key of a file that leaves the setting alone. -/
structure Loader (load : String → Priv → UnlockMode → Program Ag Va Te Priv) : Prop where
  keeps : ∀ path key unlock, Fallible.Keeps World.setting (load path key unlock)
  same_key : ∀ path key unlock,
    Fallible.Returns (fun plain => PrivateKey.publicKey plain = PrivateKey.publicKey key)
      (load path key unlock)

theorem loadPrivateKey_loader (law : DecryptKeepsPublic Priv) :
    Loader (loadPrivateKey : String → Priv → UnlockMode → Program Ag Va Te Priv) where
  keeps := loadKey_keeps Program.backstage_setting _
    (Prompt.keeps_promptPassphraseInteractive Program.backstage_setting.toAside) _
  same_key := loadKey_public law _ _ _

theorem loadAndDecrypt_loader (law : DecryptKeepsPublic Priv) :
    Loader (loadAndDecrypt : String → Priv → UnlockMode → Program Ag Va Te Priv) where
  keeps := loadKey_keeps Program.backstage_setting _
    (keeps_shimPromptPassphrase Program.backstage_setting.toAside) _
  same_key := loadKey_public law _ _ _

end Gitway.Agent
