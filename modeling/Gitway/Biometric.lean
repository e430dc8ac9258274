import Gitway.World

/-!
# Biometric unlock

The keystore holds passphrases under identifiers made from the fingerprint of the
public key. `autoUnlockPassphrase` asks it for the passphrase of a parsed key and
forgets an entry that no longer decrypts the key.
-/
namespace Gitway.Biometric

open Lib

def KEY_ID_PREFIX : String := "gitway:ssh:"

inductive UnlockMode where
  | auto
  | enroll
  | disabled
  deriving DecidableEq, Repr

def UnlockMode.fromFlags (enroll disabled : Bool) : UnlockMode :=
  if disabled then .disabled else if enroll then .enroll else .auto

inductive AutoUnlock where
  | passphrase (pass : String)
  | stale
  | fallback
  deriving DecidableEq, Repr

variable {Priv Pub Ag Va Te : Type} [PublicKey Pub] [PrivateKey Priv Pub] [BiometricVault Va]

def keyId (key : Priv) : String :=
  KEY_ID_PREFIX ++ PublicKey.fingerprint .sha256 (PrivateKey.publicKey key)

def autoUnlock (id : String) : Program Ag Va Te (Option String) := do
  match ← Program.onVault (BiometricVault.retrieve id) with
  | .ok passphrase => return some passphrase
  | .error _ => return none

def autoUnlockPassphrase (key : Priv) : Program Ag Va Te AutoUnlock := do
  let id := keyId key
  match ← autoUnlock id with
  | none => return .fallback
  | some passphrase =>
    match PrivateKey.decrypt key passphrase with
    | .ok _ => return .passphrase passphrase
    -- The answer of the keystore is dropped.
    | .error _ =>
      let _ ← Program.onVault (BiometricVault.delete id)
      return .stale

/-- The passphrase that the keystore hands out for the key and that decrypts it. -/
def released (key : Priv) (vault : Va) : Option String :=
  match (BiometricVault.retrieve (keyId key) vault).1 with
  | .ok passphrase =>
    match PrivateKey.decrypt key passphrase with
    | .ok _ => some passphrase
    | .error _ => none
  | .error _ => none

theorem released_opens {key : Priv} {vault : Va} {pass : String}
    (given : released key vault = some pass) :
    ∃ plain, PrivateKey.decrypt key pass = .ok plain := by
  unfold released at given
  cases found : (BiometricVault.retrieve (keyId key) vault).1 with
  | error e => simp [found] at given
  | ok stored =>
    cases opened : PrivateKey.decrypt key stored with
    | error e => simp [found, opened] at given
    | ok plain =>
      simp only [found, opened, Option.some.injEq] at given
      exact ⟨plain, given ▸ opened⟩

theorem autoUnlock_run (id : String) (w : World Ag Va Te) :
    autoUnlock id w =
      (.ok ((BiometricVault.retrieve id w.vault).1.toOption),
        { w with vault := (BiometricVault.retrieve id w.vault).2 }) := by
  unfold autoUnlock
  rw [Fallible.bind_of_ok (Program.onVault_run w (BiometricVault.retrieve id))]
  -- Whatever the error was, the key counts as not enrolled.
  cases (BiometricVault.retrieve id w.vault).1 <;> rfl

/-- The keystore is asked once, and once more to delete a secret that opens nothing. -/
theorem autoUnlockPassphrase_cases (key : Priv) (w : World Ag Va Te) :
    (∃ e, (BiometricVault.retrieve (keyId key) w.vault).1 = .error e ∧
      autoUnlockPassphrase key w =
        (.ok .fallback, { w with vault := (BiometricVault.retrieve (keyId key) w.vault).2 })) ∨
    (∃ pass plain, (BiometricVault.retrieve (keyId key) w.vault).1 = .ok pass ∧
      PrivateKey.decrypt key pass = .ok plain ∧
      autoUnlockPassphrase key w = (.ok (.passphrase pass),
        { w with vault := (BiometricVault.retrieve (keyId key) w.vault).2 })) ∨
    ∃ pass e, (BiometricVault.retrieve (keyId key) w.vault).1 = .ok pass ∧
      PrivateKey.decrypt key pass = .error e ∧
      autoUnlockPassphrase key w = (.ok .stale,
        { w with vault := (BiometricVault.delete (keyId key)
          (BiometricVault.retrieve (keyId key) w.vault).2).2 }) := by
  unfold autoUnlockPassphrase
  rw [Fallible.bind_of_ok (autoUnlock_run (keyId key) w)]
  cases (BiometricVault.retrieve (keyId key) w.vault).1 with
  | error e => exact Or.inl ⟨e, rfl, rfl⟩
  | ok pass =>
    simp only [Except.toOption]
    -- The trial decryption tells a valid entry from a stale one.
    cases opened : PrivateKey.decrypt key pass with
    | ok plain => exact Or.inr (Or.inl ⟨pass, plain, rfl, opened, rfl⟩)
    | error e => exact Or.inr (Or.inr ⟨pass, e, rfl, opened, rfl⟩)

/-- The outcome carries a passphrase exactly when the keystore releases one, and
nothing but the keystore is touched. -/
theorem autoUnlockPassphrase_spec (key : Priv) (w : World Ag Va Te) :
    ∃ outcome vault, autoUnlockPassphrase key w = (.ok outcome, { w with vault := vault }) ∧
      ∀ pass, outcome = .passphrase pass ↔ released key w.vault = some pass := by
  unfold released
  rcases autoUnlockPassphrase_cases key w with
    ⟨e, asked, ran⟩ | ⟨pass, plain, asked, opened, ran⟩ | ⟨pass, e, asked, refused, ran⟩
  · exact ⟨.fallback, _, ran, by simp [asked]⟩
  · exact ⟨.passphrase pass, _, ran, by simp [asked, opened]⟩
  · exact ⟨.stale, _, ran, by simp [asked, refused]⟩

theorem keeps_autoUnlockPassphrase {τ : Type} {view : World Ag Va Te → τ}
    (back : Program.Backstage view) (key : Priv) :
    Fallible.Keeps view (autoUnlockPassphrase key : Program Ag Va Te AutoUnlock) := by
  intro w
  obtain ⟨outcome, vault, ran, _⟩ := autoUnlockPassphrase_spec key w
  rw [ran]
  exact back.vault w vault

theorem quiet_autoUnlockPassphrase (key : Priv) :
    Fallible.Alike Program.SameButMessages
      (autoUnlockPassphrase key : Program Ag Va Te AutoUnlock) (autoUnlockPassphrase key) := by
  have asked : Fallible.Alike Program.SameButMessages
      (autoUnlock (keyId key) : Program Ag Va Te (Option String)) (autoUnlock (keyId key)) := by
    apply Fallible.Alike.bind (Program.quiet_onVault _)
    intro answer
    cases answer with
    | ok passphrase => exact Fallible.Alike.pure _
    | error e => exact Fallible.Alike.pure _
  apply Fallible.Alike.bind asked
  intro stored
  cases stored with
  | none => exact Fallible.Alike.pure _
  | some passphrase =>
    dsimp only
    split
    · exact Fallible.Alike.pure _
    · exact Fallible.Alike.bind (Program.quiet_onVault _) fun _ => Fallible.Alike.pure _

end Gitway.Biometric
