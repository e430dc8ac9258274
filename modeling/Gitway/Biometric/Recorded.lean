import Gitway.Biometric.Backend

/-!
# A keystore that keeps a record

Any keystore with the operations called on it so far. A program is generic in its
keystore, so running it on a recorded one shows which operations it performs.
-/
namespace Gitway.Biometric

inductive VaultCall where
  | store (id pass : String)
  | retrieve (id : String)
  | delete (id : String)
  | list
  deriving DecidableEq, Repr

structure Recorded (Va : Type) where
  vault : Va
  calls : List VaultCall

variable {Va : Type}

instance [BiometricVault Va] : BiometricVault (Recorded Va) where
  store id pass rec :=
    ((BiometricVault.store id pass rec.vault).1,
      ⟨(BiometricVault.store id pass rec.vault).2, rec.calls ++ [.store id pass]⟩)
  retrieve id rec :=
    ((BiometricVault.retrieve id rec.vault).1,
      ⟨(BiometricVault.retrieve id rec.vault).2, rec.calls ++ [.retrieve id]⟩)
  delete id rec :=
    ((BiometricVault.delete id rec.vault).1,
      ⟨(BiometricVault.delete id rec.vault).2, rec.calls ++ [.delete id]⟩)

instance [BiometricBackend Va] : BiometricBackend (Recorded Va) where
  isAvailable rec := BiometricBackend.isAvailable rec.vault
  bindingTier rec := BiometricBackend.bindingTier rec.vault
  list rec :=
    ((BiometricBackend.list rec.vault).1,
      ⟨(BiometricBackend.list rec.vault).2, rec.calls ++ [.list]⟩)

end Gitway.Biometric
