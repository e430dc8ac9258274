import Gitway.Biometric.Backend
import Mathlib.Logic.Function.Basic

/-!
# The macOS backend

A passphrase is a generic password in the Keychain, under the fingerprint of its key. The
Keychain asks for the user when the item is read.
-/
namespace Gitway.Biometric.Macos

open Lib

/-! ### The Keychain -/

inductive AccessControlOptions where
  | userPresence
  deriving DecidableEq, Repr

structure PasswordOptions where
  service : String
  account : String
  accessControl : Option AccessControlOptions
  label : Option String
  deriving DecidableEq, Repr

def PasswordOptions.newGenericPassword (service account : String) : PasswordOptions :=
  ⟨service, account, none, none⟩

/-- A search for the generic passwords of a service, all of them and without their data. -/
structure ItemSearchOptions where
  service : String
  loadAttributes : Bool
  deriving DecidableEq, Repr

/-- A result, with the attributes that a dictionary is simplified to. -/
inductive SearchResult where
  | dict (simplified : Option (List (String × String)))
  | other
  deriving DecidableEq, Repr

/-- The security framework. An error is its `OSStatus`. -/
class Keychain (Kc : Type) where
  deleteGenericPassword : String → String → Kc → Except Int Unit × Kc
  setGenericPasswordOptions : ByteArray → PasswordOptions → Kc → Except Int Unit × Kc
  genericPassword : PasswordOptions → Kc → Except Int ByteArray × Kc
  search : ItemSearchOptions → Kc → Except Int (List SearchResult) × Kc

def SERVICE : String := "org.SpacecraftSoftware.gitway.ssh-passphrase"

def ERR_SEC_ITEM_NOT_FOUND : Int := -25300
def ERR_SEC_USER_CANCELED : Int := -128
def ERR_SEC_AUTH_FAILED : Int := -25293

/-! ### The backend -/

/-- `MacosVault` holds nothing itself. This is what it talks to. -/
structure MacosVault (Kc : Type) where
  keychain : Kc

variable {Kc α : Type}

abbrev Routine (Kc α : Type) : Type := Fallible (MacosVault Kc) BiometricError α

def accountOf (keyId : String) : String := fingerprintOf keyId

def mapError (code : Int) : BiometricError :=
  if code = ERR_SEC_ITEM_NOT_FOUND then .notEnrolled
  else if code = ERR_SEC_USER_CANCELED ∨ code = ERR_SEC_AUTH_FAILED then .cancelled
  else .backend s!"keychain error {code}"

theorem mapError_eq_notEnrolled_iff {code : Int} :
    mapError code = .notEnrolled ↔ code = ERR_SEC_ITEM_NOT_FOUND := by
  unfold mapError
  split
  next found => simp [found]
  next other => split <;> simp [other]

/-- Call the Keychain, and take its answer as a value. -/
def onKeychain (op : Kc → Except Int α × Kc) : Routine Kc (Except Int α) :=
  Fallible.within MacosVault.keychain (fun k _ => ⟨k⟩) fun k => (.ok (op k).1, (op k).2)

/-- Rust's `map_err(..)?`. -/
def orMapped (answer : Except Int α) : Routine Kc α :=
  Fallible.query fun _ => answer.mapError mapError

variable [Keychain Kc]

def store (keyId passphrase : String) : Routine Kc Unit := do
  let account := accountOf keyId
  -- An item that is there already is removed first. Whether that worked is not asked.
  let _ ← onKeychain (Keychain.deleteGenericPassword SERVICE account)
  let options := { PasswordOptions.newGenericPassword SERVICE account with
    accessControl := some .userPresence
    label := some s!"Gitway SSH passphrase ({account})" }
  orMapped (← onKeychain (Keychain.setGenericPasswordOptions passphrase.toUTF8 options))

def secretText (bytes : ByteArray) : Except BiometricError String :=
  match String.fromUTF8? bytes with
  | some text => .ok text
  | none => .error (.backend "stored passphrase is not valid UTF-8")

def retrieve (keyId : String) : Routine Kc String := do
  let options := PasswordOptions.newGenericPassword SERVICE (accountOf keyId)
  let bytes ← orMapped (← onKeychain (Keychain.genericPassword options))
  Fallible.query fun _ => secretText bytes

def delete (keyId : String) : Routine Kc Unit := do
  orMapped (← onKeychain (Keychain.deleteGenericPassword SERVICE (accountOf keyId)))

/-- The key that a result is for. -/
def enrolledOf : SearchResult → Option EnrolledKey
  | .dict (some attributes) =>
    some ⟨(attributes.lookup "acct").getD "", attributes.lookup "icmt"⟩
  | _ => none

def list : Routine Kc (List EnrolledKey) := do
  match ← onKeychain (Keychain.search ⟨SERVICE, true⟩) with
  | .ok results => return results.filterMap enrolledOf
  | .error code =>
    if code = ERR_SEC_ITEM_NOT_FOUND then return [] else Fallible.fail (mapError code)

instance : BiometricBackend (MacosVault Kc) where
  store := store
  retrieve := retrieve
  delete := delete
  isAvailable _ := true
  bindingTier _ := .hardwareBound
  list := list

end Gitway.Biometric.Macos
