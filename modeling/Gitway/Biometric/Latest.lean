import Gitway.Biometric.Linux.Services
import Gitway.Biometric.Macos.Passwords
import Gitway.Biometric.Windows.Locker

/-!
# Three backends, one store

The backends of Linux, macOS and Windows keep their entries in three different services. Seen
through `BiometricVault` all three are stores with a cell for each fingerprint.
-/
namespace Gitway.Biometric

open Lib Lib.Fallible

section
variable {Ke De It Kc Lo He Cr : Type} [Linux.SecretService Ke It] [Linux.Fprint De]
  [Macos.Keychain Kc] [Windows.CredentialLocker Lo Cr] [Windows.ConsentVerifier He]
  {items : Ke → List Linux.Item} {stored : List Linux.Item → It → Linux.Item}
  {passwords : Kc → String → Option ByteArray} {credentials : Lo → String → Option String}

variable (De He) in
/-- On each of the three platforms a passphrase that is released is the one that was stored
last for its key, and one that is gone was deleted. On macOS and Windows it may also have been
lost when a write failed. On Windows a write must not add a credential beside another one. -/
theorem released_is_latest (linux : Linux.Services items stored)
    (macos : Macos.Passwords passwords) (windows : Windows.Locker credentials)
    (es : List Access) (m : Cells) :
    (∀ v v' : Linux.LinuxVault Ke De It, Linux.Mirrors items v m → Run Accesses v es v' →
      ∃ m', Linux.Mirrors items v' m' ∧ Lossy.Explains False m es m') ∧
    (∀ v v' : Macos.MacosVault Kc, Macos.Mirrors passwords v m → Run Accesses v es v' →
      ∃ m', Macos.Mirrors passwords v' m' ∧ Lossy.Explains True m es m') ∧
    ∀ v v' : Windows.WindowsVault Lo He, Windows.Mirrors credentials v m →
      Run (fun v e v' => Accesses v e v' ∧ Orderly (Windows.Clears credentials) v e) v es v' →
        ∃ m', Windows.Mirrors credentials v' m' ∧ Lossy.Explains True m es m' :=
  ⟨fun _ _ before run => linux.backs.explains_all before run,
    fun _ _ before run => macos.backs.explains_all before run,
    fun _ _ before run => windows.backs.explains before run⟩

end

/-! ### Services with a drawer for one account -/

/-- What is in the drawer, and how the user answers the next prompts. -/
structure Drawer (σ : Type) where
  content : Option σ
  prompts : List Bool

def Drawer.account : String := "SHA256:AAAA"

def Drawer.held {σ : Type} (d : Drawer σ) (account : String) : Option σ :=
  if account = Drawer.account then d.content else none

namespace Drawer

variable {σ : Type}

theorem held_filled (d : Drawer σ) (content : Option σ) :
    held { d with content := content } = Function.update d.held account content := by
  funext other
  by_cases same : other = account
  · subst same
    simp [held]
  · rw [Function.update_of_ne same]
    simp [held, same]

theorem account_of_held {d : Drawer σ} {other : String} {secret : σ}
    (there : d.held other = some secret) : other = account := by
  by_contra different
  simp [held, different] at there

end Drawer

/-- `errSecUserCanceled`. -/
private def CANCELED : Int := -128

instance : Macos.Keychain (Drawer ByteArray) where
  deleteGenericPassword _ account d :=
    match d.held account with
    | some _ => (.ok (), { d with content := none })
    | none => (.error Macos.ERR_SEC_ITEM_NOT_FOUND, d)
  setGenericPasswordOptions bytes options d :=
    if options.account = Drawer.account then (.ok (), { d with content := some bytes })
    else (.error (-34), d)
  genericPassword options d :=
    match d.held options.account with
    | some secret =>
      (if d.prompts.head? = some false then .error CANCELED else .ok secret,
        { d with prompts := d.prompts.tail })
    | none => (.error Macos.ERR_SEC_ITEM_NOT_FOUND, d)
  search _ d :=
    match d.content with
    | some _ => (.ok [.dict (some [("acct", Drawer.account)])], d)
    | none => (.error Macos.ERR_SEC_ITEM_NOT_FOUND, d)

theorem drawer_passwords : Macos.Passwords (Drawer.held (σ := ByteArray)) where
  genericPassword account d := by
    simp only [Macos.Keychain.genericPassword]
    split <;> rfl
  search d := by
    simp only [Macos.Keychain.search]
    split <;> rfl
  absent account d := by
    simp only [Macos.Keychain.genericPassword, Macos.PasswordOptions.newGenericPassword]
    split
    · split <;> simp [CANCELED, Macos.ERR_SEC_ITEM_NOT_FOUND]
    next gone => exact fun _ => gone
  deleted account d removed := by
    simp only [Macos.Keychain.deleteGenericPassword] at removed ⊢
    split at removed
    next secret there =>
      rw [Drawer.account_of_held there]
      exact Drawer.held_filled d none
    · simp at removed
  not_deleted account d e refused := by
    simp only [Macos.Keychain.deleteGenericPassword] at refused ⊢
    split at refused <;> simp_all
  not_set bytes options d e refused := by
    simp only [Macos.Keychain.setGenericPasswordOptions] at refused ⊢
    split at refused <;> simp_all
  set bytes options d _ written := by
    simp only [Macos.Keychain.setGenericPasswordOptions] at written ⊢
    split at written
    next fits =>
      rw [if_pos fits, fits]
      exact Drawer.held_filled d (some bytes)
    · simp at written
  found account d bytes read := by
    simp only [Macos.Keychain.genericPassword] at read
    split at read
    next secret there =>
      split at read
      · simp at read
      · rw [← Except.ok.inj read]
        exact there
    · simp at read

instance : Windows.CredentialLocker (Drawer String) (String × String) where
  new d := (.ok (), d)
  retrieve _ account d :=
    match d.held account with
    | some secret => (.ok (account, secret), d)
    | none => (.error ⟨Windows.ERROR_NOT_FOUND, "Element not found."⟩, d)
  remove credential d :=
    match d.held credential.1 with
    | some _ => (.ok (), { d with content := none })
    | none => (.error ⟨Windows.ERROR_NOT_FOUND, "Element not found."⟩, d)
  createPasswordCredential _ account secret d := (.ok (account, secret), d)
  add credential d :=
    if credential.1 = Drawer.account then (.ok (), { d with content := some credential.2 })
    else (.error ⟨-2147024784, "There is not enough space on the disk."⟩, d)
  findAllByResource _ d :=
    match d.content with
    | some secret => (.ok [(Drawer.account, secret)], d)
    | none => (.error ⟨Windows.ERROR_NOT_FOUND, "Element not found."⟩, d)
  userName credential := .ok credential.1
  password credential := .ok credential.2

theorem drawer_locker : Windows.Locker (Drawer.held (σ := String)) where
  new_keeps _ := rfl
  retrieve_keeps account d := by
    simp only [Windows.CredentialLocker.retrieve]
    split <;> rfl
  findAllByResource d := by
    simp only [Windows.CredentialLocker.findAllByResource]
    split <;> rfl
  createPasswordCredential _ _ _ := rfl
  absent account d e := by
    simp only [Windows.CredentialLocker.retrieve]
    split
    · simp
    next gone => exact fun _ _ => gone
  removed account credential d d' found removed := by
    simp only [Windows.CredentialLocker.retrieve] at found
    split at found
    next secret there =>
      simp only [Prod.mk.injEq, Except.ok.injEq] at found
      obtain ⟨rfl, rfl⟩ := found
      simp only [Windows.CredentialLocker.remove, there]
      rw [Drawer.account_of_held there]
      exact Drawer.held_filled d none
    · simp at found
  not_removed credential d e refused := by
    simp only [Windows.CredentialLocker.remove] at refused ⊢
    split at refused <;> simp_all
  not_added credential d e refused := by
    simp only [Windows.CredentialLocker.add] at refused ⊢
    split at refused <;> simp_all
  added account secret credential d d' created empty added := by
    simp only [Windows.CredentialLocker.createPasswordCredential, Prod.mk.injEq,
      Except.ok.injEq] at created
    obtain ⟨rfl, rfl⟩ := created
    simp only [Windows.CredentialLocker.add] at added ⊢
    split at added
    next fits =>
      rw [if_pos fits, fits]
      exact Drawer.held_filled d (some secret)
    · simp at added
  found account credential secret d d' found read := by
    simp only [Windows.CredentialLocker.retrieve] at found
    split at found
    next there held =>
      simp only [Prod.mk.injEq, Except.ok.injEq] at found
      obtain ⟨rfl, rfl⟩ := found
      rw [held, ← Except.ok.inj read]
    · simp at found

/-- A credential in the drawer goes before a new one comes. -/
theorem drawer_clears {He : Type} (v : Windows.WindowsVault (Drawer String) He)
    (account : String) : Windows.Clears Drawer.held v account := by
  cases there : v.locker.held account with
  | none => exact Or.inl there
  | some secret =>
    have found : Windows.CredentialLocker.retrieve Windows.RESOURCE account
        (Windows.CredentialLocker.new v.locker).2 = (.ok (account, secret), v.locker) := by
      simp [Windows.CredentialLocker.retrieve, Windows.CredentialLocker.new, there]
    refine Or.inr ⟨(account, secret), v.locker, found, ?_⟩
    simp [Windows.CredentialLocker.remove, there]

theorem collection_services :
    Linux.Services Linux.Collection.items fun _ (item : Linux.Item) => item where
  runtime _ := rfl
  keyringNew _ := rfl
  unlock _ := rfl
  searchItems _ _ := rfl
  itemAttributes _ _ := rfl
  itemSecret _ _ := rfl
  not_created _ _ _ _ _ refused := by simp [Linux.SecretService.createItem] at refused
  found query c found answer := by
    rw [← Except.ok.inj answer]
    exact List.map_id _
  secret item c bytes answer := Except.ok.inj answer
  created _ _ _ _ _ := rfl
  deleted _ _ _ := rfl
  not_deleted _ _ _ refused := by simp [Linux.SecretService.delete] at refused

/-- A user who is always there. -/
structure Attending where

instance : Windows.ConsentVerifier Attending where
  checkAvailability h := (.ok (), h)
  availability h := (.ok true, h)
  requestVerification _ h := (.ok (), h)
  verification h := (.ok true, h)

/-- A key is enrolled, enrolled anew and unlocked at the second attempt. -/
def reenrolled {Va : Type} [BiometricBackend Va] (v : Va) : List Access × Va :=
  let keyId := keyIdFromFingerprint Drawer.account
  let first := BiometricVault.store keyId "old" v
  let second := BiometricVault.store keyId "new" first.2
  let attempt := BiometricVault.retrieve keyId second.2
  let unlocked := BiometricVault.retrieve keyId attempt.2
  ([.write Drawer.account "old" first.1.isOk, .write Drawer.account "new" second.1.isOk,
    unlocking Drawer.account attempt.1, unlocking Drawer.account unlocked.1], unlocked.2)

theorem reenrolled_run {Va : Type} [BiometricBackend Va] (v : Va) :
    Run Accesses v (reenrolled v).1 (reenrolled v).2 :=
  .cons (.store v _ _) (.cons (.store _ _ _) (.cons (.retrieve _ _) (.cons (.retrieve _ _)
    (.nil _))))

private def emptyKeyring : Linux.LinuxVault Linux.Collection Linux.RefDevice Linux.Item :=
  ⟨⟨[]⟩, ⟨[.ok ⟨"verify-match", true⟩], true⟩, false, []⟩

/-- The first prompt of the system is cancelled, the second is not. -/
private def emptyKeychain : Macos.MacosVault (Drawer ByteArray) := ⟨⟨none, [false, true]⟩⟩

private def emptyLocker : Windows.WindowsVault (Drawer String) Attending := ⟨⟨none, []⟩, ⟨⟩⟩

/-- Nothing is enrolled in an empty drawer. -/
theorem Drawer.held_empty {σ : Type} (prompts : List Bool) :
    Drawer.held (⟨none, prompts⟩ : Drawer σ) = fun _ => none := by
  funext account
  simp [Drawer.held]

theorem reenrolled_is_latest :
    (∃ m, Linux.Mirrors Linux.Collection.items (reenrolled emptyKeyring).2 m ∧
      Lossy.Explains False (fun _ => none) (reenrolled emptyKeyring).1 m) ∧
    (∃ m, Macos.Mirrors Drawer.held (reenrolled emptyKeychain).2 m ∧
      Lossy.Explains True (fun _ => none) (reenrolled emptyKeychain).1 m) ∧
    ∃ m, Windows.Mirrors Drawer.held (reenrolled emptyLocker).2 m ∧
      Lossy.Explains True (fun _ => none) (reenrolled emptyLocker).1 m := by
  have laws := released_is_latest Linux.RefDevice Attending collection_services drawer_passwords
    drawer_locker
  have linux : Linux.Mirrors Linux.Collection.items emptyKeyring fun _ => none :=
    Tagged.represents_foreign (by simp [emptyKeyring])
  -- The second store finds the credential of the first one, and removes it.
  have orderly : Run (fun v e v' => Accesses v e v' ∧ Orderly (Windows.Clears Drawer.held) v e)
      emptyLocker (reenrolled emptyLocker).1 (reenrolled emptyLocker).2 :=
    (reenrolled_run emptyLocker).mono fun v _ _ access =>
      ⟨access, fun fingerprint _ _ => drawer_clears v fingerprint⟩
  exact ⟨(laws _ _).1 emptyKeyring _ linux (reenrolled_run _),
    (laws _ _).2.1 emptyKeychain _ (Drawer.held_empty _) (reenrolled_run _),
    (laws _ _).2.2 emptyLocker _ (Drawer.held_empty _) orderly⟩

end Gitway.Biometric
