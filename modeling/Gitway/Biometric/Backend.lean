import Gitway.Biometric
import Gitway.Text
import Mathlib.Logic.Function.Basic

/-!
# Biometric backends

What the trait `BiometricVault` offers beside storing, retrieving and deleting, and
the translation between the identifier of an entry and the fingerprint of its key.
-/
namespace Gitway.Biometric

/-- The security-binding tier of a backend. -/
inductive Tier where
  | hardwareBound
  | dpapiConsent
  | advisory
  | unsupported
  deriving DecidableEq, Repr

def Tier.description : Tier → String
  | .hardwareBound =>
    "hardware-bound (Secure Enclave); the secret is released only on a biometric or passcode match"
  | .dpapiConsent =>
    "DPAPI-encrypted at rest; Windows Hello consent gates the read but is not " ++
      "cryptographically bound to it"
  | .advisory =>
    "advisory gate — fprintd verifies your fingerprint, but the passphrase is protected by " ++
      "your login keyring, not by the fingerprint; a local attacker with an unlocked session " ++
      "can bypass the fingerprint check; treat this as convenience, not a security boundary"
  | .unsupported => "no biometric backend is available on this build"

structure EnrolledKey where
  fingerprint : String
  comment : Option String
  deriving DecidableEq, Repr

class BiometricBackend (Va : Type) extends BiometricVault Va where
  /-- Whether sensor and keystore can be reached. Asking changes nothing. -/
  isAvailable : Va → Bool
  bindingTier : Va → Tier
  list : Va → Except BiometricError (List EnrolledKey) × Va

/-- A keystore as a map from identifiers to secrets: what succeeds has its effect, and
everything else leaves the map alone. A store that fails on macOS or Windows may have lost the
entry, so there `not_stored` is a law only of what does not fail behind the removal. -/
structure Keystore {Va : Type} [BiometricBackend Va] (secretOf : Va → String → Option String) :
    Prop where
  stored : ∀ (v : Va) id pass, (BiometricVault.store id pass v).1 = .ok () →
    secretOf (BiometricVault.store id pass v).2 = Function.update (secretOf v) id (some pass)
  not_stored : ∀ (v : Va) id pass e, (BiometricVault.store id pass v).1 = .error e →
    secretOf (BiometricVault.store id pass v).2 = secretOf v
  retrieved : ∀ (v : Va) id pass, (BiometricVault.retrieve id v).1 = .ok pass →
    secretOf v id = some pass
  retrieve_keeps : ∀ (v : Va) id, secretOf (BiometricVault.retrieve id v).2 = secretOf v
  deleted : ∀ (v : Va) id, (BiometricVault.delete id v).1 = .ok () →
    secretOf (BiometricVault.delete id v).2 = Function.update (secretOf v) id none
  not_deleted : ∀ (v : Va) id e, (BiometricVault.delete id v).1 = .error e →
    secretOf (BiometricVault.delete id v).2 = secretOf v
  list_keeps : ∀ v : Va, secretOf (BiometricBackend.list v).2 = secretOf v

def fingerprintOf (keyId : String) : String := (Text.stripStart keyId KEY_ID_PREFIX).getD keyId

def keyIdFromFingerprint (fingerprint : String) : String := KEY_ID_PREFIX ++ fingerprint

@[simp] theorem fingerprintOf_keyIdFromFingerprint (fingerprint : String) :
    fingerprintOf (keyIdFromFingerprint fingerprint) = fingerprint := by
  simp [fingerprintOf, keyIdFromFingerprint]

theorem keyIdFromFingerprint_injective {f g : String}
    (same : keyIdFromFingerprint f = keyIdFromFingerprint g) : f = g := by
  simpa using congrArg fingerprintOf same

end Gitway.Biometric
