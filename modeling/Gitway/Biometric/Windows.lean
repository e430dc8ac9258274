import Gitway.Biometric.Backend

/-!
# The Windows backend

A passphrase is a credential in the Credential Locker, under the fingerprint of its key.
Windows Hello asks for the user before a credential is read.
-/
namespace Gitway.Biometric.Windows

open Lib

/-! ### The services -/

structure HResultError where
  code : Int
  message : String
  deriving DecidableEq, Repr

/-- `PasswordVault`. `Cr` stands for a credential. -/
class CredentialLocker (Lo : Type) (Cr : outParam Type) where
  new : Lo → Except HResultError Unit × Lo
  retrieve : String → String → Lo → Except HResultError Cr × Lo
  remove : Cr → Lo → Except HResultError Unit × Lo
  createPasswordCredential : String → String → String → Lo → Except HResultError Cr × Lo
  add : Cr → Lo → Except HResultError Unit × Lo
  findAllByResource : String → Lo → Except HResultError (List Cr) × Lo
  /-- The user name of a credential, what is not Unicode in it replaced. -/
  userName : Cr → Except HResultError String
  /-- The password of a credential, likewise. -/
  password : Cr → Except HResultError String

/-- `UserConsentVerifier`. -/
class ConsentVerifier (He : Type) where
  checkAvailability : He → Except HResultError Unit × He
  /-- Whether Windows Hello is available. -/
  availability : He → Except HResultError Bool × He
  requestVerification : String → He → Except HResultError Unit × He
  /-- Whether the user was verified. -/
  verification : He → Except HResultError Bool × He

def RESOURCE : String := "org.SpacecraftSoftware.gitway.ssh-passphrase"

/-- The value `0x80070490`, as a signed number. -/
def ERROR_NOT_FOUND : Int := -2147023728

/-! ### The backend -/

/-- `WindowsVault` holds nothing itself. This is what it talks to. -/
structure WindowsVault (Lo He : Type) where
  locker : Lo
  hello : He

variable {Lo He Cr α : Type}

abbrev Routine (Lo He α : Type) : Type := Fallible (WindowsVault Lo He) BiometricError α

def accountOf (keyId : String) : String := fingerprintOf keyId

/-- Call the locker, and take its answer as a value. -/
def onLocker (op : Lo → Except HResultError α × Lo) : Routine Lo He (Except HResultError α) :=
  Fallible.within WindowsVault.locker (fun l v => { v with locker := l })
    fun l => (.ok (op l).1, (op l).2)

/-- Call Windows Hello, and take its answer as a value. -/
def onHello (op : He → Except HResultError α × He) : Routine Lo He (Except HResultError α) :=
  Fallible.within WindowsVault.hello (fun h v => { v with hello := h })
    fun h => (.ok (op h).1, (op h).2)

/-- Rust's `map_err(..)?`. -/
def orElse (failed : HResultError → BiometricError) (answer : Except HResultError α) :
    Routine Lo He α :=
  Fallible.query fun _ => answer.mapError failed

section
variable [ConsentVerifier He]

def verifyConsent : Routine Lo He Unit := do
  let operation ← onHello (ConsentVerifier.requestVerification "Unlock your SSH key")
  orElse (fun e => .backend s!"hello request: {e.message}") operation
  let result ← onHello ConsentVerifier.verification
  let verified ← orElse (fun e => .backend s!"hello result: {e.message}") result
  if verified then return () else Fallible.fail .cancelled

def probe : Routine Lo He Unit := do
  let operation ← onHello ConsentVerifier.checkAvailability
  orElse (fun e => .unavailable s!"hello availability: {e.message}") operation
  let result ← onHello ConsentVerifier.availability
  let available ← orElse (fun e => .unavailable s!"hello availability: {e.message}") result
  if available then return ()
  else Fallible.fail (.unavailable "Windows Hello is not available or not configured")

end

variable [CredentialLocker Lo Cr]

def openVault : Routine Lo He Unit := do
  let vault ← onLocker CredentialLocker.new
  orElse (fun e => .backend s!"credential locker: {e.message}") vault

/-- The credential of an account that must be there. -/
def findCredential (account : String) : Routine Lo He Cr := do
  let found ← onLocker (CredentialLocker.retrieve RESOURCE account)
  orElse (fun e => if e.code = ERROR_NOT_FOUND then .notEnrolled
    else .backend s!"locker read: {e.message}") found

/-- Remove the credential of an account, if there is one. Whether that worked is not asked. -/
def removeExisting (account : String) : Routine Lo He Unit := do
  match ← onLocker (CredentialLocker.retrieve RESOURCE account) with
  | .ok existing =>
    let _ ← onLocker (CredentialLocker.remove existing)
    return ()
  | .error _ => return ()

def store (keyId passphrase : String) : Routine Lo He Unit := do
  let account := accountOf keyId
  openVault
  removeExisting account
  let created ← onLocker (CredentialLocker.createPasswordCredential RESOURCE account passphrase)
  let credential ← orElse (fun e => .backend s!"create credential: {e.message}") created
  let added ← onLocker (CredentialLocker.add credential)
  orElse (fun e => .backend s!"locker write: {e.message}") added

def delete (keyId : String) : Routine Lo He Unit := do
  openVault
  let credential ← findCredential (accountOf keyId)
  let removed ← onLocker (CredentialLocker.remove credential)
  orElse (fun e => .backend s!"locker delete: {e.message}") removed

variable (Lo) in
/-- The key that a credential is for. A user name that cannot be read counts as empty. -/
def enrolledKey (credential : Cr) : EnrolledKey :=
  ⟨(CredentialLocker.userName Lo credential).toOption.getD "", none⟩

def list : Routine Lo He (List EnrolledKey) := do
  openVault
  match ← onLocker (CredentialLocker.findAllByResource RESOURCE) with
  | .ok found => return found.map (enrolledKey Lo)
  | .error e =>
    if e.code = ERROR_NOT_FOUND then return []
    else Fallible.fail (.backend s!"locker list: {e.message}")

variable [ConsentVerifier He]

def retrieve (keyId : String) : Routine Lo He String := do
  openVault
  let credential ← findCredential (accountOf keyId)
  verifyConsent
  let password := CredentialLocker.password Lo credential
  let text ← orElse (fun e => .backend s!"locker password: {e.message}") password
  if text.isEmpty then Fallible.fail (.backend "stored passphrase was empty") else return text

instance : BiometricBackend (WindowsVault Lo He) where
  store := store
  retrieve := retrieve
  delete := delete
  isAvailable v := (probe v).1.toOption.isSome
  bindingTier _ := .dpapiConsent
  list := list

end Gitway.Biometric.Windows
