import Gitway.Biometric.Backend

/-!
# The Linux backend

Passphrases lie in the Secret Service on the session bus, and `fprintd` on the system
bus checks the fingerprint. Both are services that answer calls. Every call and its
answer is kept in a trace.
-/
namespace Gitway.Biometric.Linux

open Lib

abbrev Attributes : Type := List (String × String)

/-! ### The services -/

/-- The keyring crate and the runtime that drives it. `It` stands for an item found. -/
class SecretService (Ke : Type) (It : outParam Type) where
  /-- Build the runtime of a call. -/
  runtime : Ke → Except String Unit × Ke
  keyringNew : Ke → Except String Unit × Ke
  unlock : Ke → Except String Unit × Ke
  createItem : String → Attributes → ByteArray → Bool → Ke → Except String Unit × Ke
  searchItems : Attributes → Ke → Except String (List It) × Ke
  delete : Attributes → Ke → Except String Unit × Ke
  itemAttributes : It → Ke → Except String Attributes × Ke
  itemSecret : It → Ke → Except String ByteArray × Ke
  /-- Whether the keyring opens before the deadline of a probe. -/
  inTime : Ke → Bool

structure VerifyStatus where
  result : String
  done : Bool
  deriving DecidableEq, Repr

/-- The signals that arrive before the deadline, each decoded or not, and whether the
stream ends before it. -/
structure SignalStream where
  signals : List (Except String VerifyStatus)
  ends : Bool

/-- The proxies of `fprintd`. -/
class Fprint (De : Type) where
  systemBus : De → Except String Unit × De
  managerNew : De → Except String Unit × De
  getDefaultDevice : De → Except String String × De
  devicePath : String → De → Except String Unit × De
  deviceBuild : De → Except String Unit × De
  listEnrolledFingers : String → De → Except String (List String) × De
  claim : String → De → Except String Unit × De
  release : De → Except String Unit × De
  receiveVerifyStatus : De → Except String Unit × De
  verifyStart : String → De → Except String Unit × De
  verifyStop : De → Except String Unit × De
  /-- The stream as the scan sees it. -/
  verifyStatus : De → SignalStream × De
  /-- Whether the device is found before the deadline of a probe. -/
  inTime : De → Bool

/-- A call with its answer. -/
inductive Call (It : Type) where
  | runtime (answer : Except String Unit)
  | keyringNew (answer : Except String Unit)
  | unlock (answer : Except String Unit)
  | createItem (label : String) (attributes : Attributes) (answer : Except String Unit)
  | searchItems (query : Attributes) (answer : Except String (List It))
  | delete (query : Attributes) (answer : Except String Unit)
  | itemAttributes (item : It) (answer : Except String Attributes)
  | itemSecret (item : It) (answer : Except String ByteArray)
  | systemBus (answer : Except String Unit)
  | managerNew (answer : Except String Unit)
  | getDefaultDevice (answer : Except String String)
  | devicePath (path : String) (answer : Except String Unit)
  | deviceBuild (answer : Except String Unit)
  | listEnrolledFingers (user : String) (answer : Except String (List String))
  | claim (user : String) (answer : Except String Unit)
  | receiveVerifyStatus (answer : Except String Unit)
  | verifyStart (finger : String) (answer : Except String Unit)
  | verifyStatus (stream : SignalStream)
  | verifyStop (answer : Except String Unit)
  | release (answer : Except String Unit)
  | hint (message : String)

/-- `LinuxVault` holds nothing itself. This is what it talks to. -/
structure LinuxVault (Ke De It : Type) where
  keyring : Ke
  device : De
  stderrIsTerminal : Bool
  /-- The calls made so far. -/
  trace : List (Call It)

variable {Ke De It α : Type}

abbrev Routine (Ke De It α : Type) : Type := Fallible (LinuxVault Ke De It) BiometricError α

/-- Call the keyring, and take its answer as a value. -/
def onKeyring (call : Except String α → Call It) (op : Ke → Except String α × Ke) :
    Routine Ke De It (Except String α) := fun v =>
  (.ok (op v.keyring).1,
    { v with keyring := (op v.keyring).2, trace := v.trace ++ [call (op v.keyring).1] })

/-- Call `fprintd`, and take its answer as a value. -/
def onDevice (call : Except String α → Call It) (op : De → Except String α × De) :
    Routine Ke De It (Except String α) := fun v =>
  (.ok (op v.device).1,
    { v with device := (op v.device).2, trace := v.trace ++ [call (op v.device).1] })

/-- Rust's `map_err(..)?`. -/
def orElse (failed : String → BiometricError) (answer : Except String α) : Routine Ke De It α :=
  Fallible.query fun _ => answer.mapError failed

/-- `timeout`: an answer that did not come in time is an error. -/
def timeout (answer : Option α) : Except BiometricError α :=
  match answer with
  | some a => .ok a
  | none => .error (.unavailable "D-Bus call timed out")

def hint (message : String) : Routine Ke De It Unit := fun v =>
  (.ok (), if v.stderrIsTerminal then { v with trace := v.trace ++ [.hint message] } else v)

/-! ### The keyring -/

def APP_ATTR : String × String := ("application", "gitway")
def TYPE_ATTR : String × String := ("type", "ssh-passphrase")

def attributes (keyId : String) : Attributes :=
  [APP_ATTR, TYPE_ATTR, ("key-id", keyId), ("fingerprint", fingerprintOf keyId)]

section
variable [SecretService Ke It]

def runBlocking (f : Routine Ke De It α) : Routine Ke De It α := do
  let runtime ← onKeyring .runtime SecretService.runtime
  orElse (fun e => .backend s!"tokio runtime init: {e}") runtime
  f

def openKeyring : Routine Ke De It Unit := do
  let keyring ← onKeyring .keyringNew SecretService.keyringNew
  orElse (fun e => .unavailable s!"keyring: {e}") keyring
  -- A keyring that stays locked fails at the call that follows.
  let _ ← onKeyring .unlock SecretService.unlock
  return ()

def searchItems (query : Attributes) : Routine Ke De It (List It) := do
  let items ← onKeyring (.searchItems query) (SecretService.searchItems query)
  orElse (fun e => .backend s!"keyring search: {e}") items

def store (keyId passphrase : String) : Routine Ke De It Unit := runBlocking do
  openKeyring
  let attrs := attributes keyId
  let label := s!"Gitway SSH passphrase ({fingerprintOf keyId})"
  let created ← onKeyring (.createItem label attrs)
    (SecretService.createItem label attrs passphrase.toUTF8 true)
  orElse (fun e => .backend s!"keyring write: {e}") created

def delete (keyId : String) : Routine Ke De It Unit := runBlocking do
  openKeyring
  let attrs := attributes keyId
  let items ← searchItems attrs
  if items.isEmpty then
    Fallible.fail .notEnrolled
  else
    let deleted ← onKeyring (.delete attrs) (SecretService.delete attrs)
    orElse (fun e => .backend s!"keyring delete: {e}") deleted

/-- The key that an item with these attributes is for. -/
def enrolledKey (attrs : Attributes) : EnrolledKey where
  fingerprint :=
    ((attrs.lookup "fingerprint").or ((attrs.lookup "key-id").map fingerprintOf)).getD ""
  comment := attrs.lookup "comment"

/-- One round of `list`. -/
def listOne (enrolled : List EnrolledKey) (item : It) : Routine Ke De It (List EnrolledKey) := do
  let attrs ← onKeyring (.itemAttributes item) (SecretService.itemAttributes item)
  let attrs ← orElse (fun e => .backend s!"keyring attributes: {e}") attrs
  return enrolled ++ [enrolledKey attrs]

def list : Routine Ke De It (List EnrolledKey) := runBlocking do
  openKeyring
  let items ← searchItems [APP_ATTR, TYPE_ATTR]
  items.foldlM listOne []

end

/-! ### The fingerprint -/

/-- Why a swipe did not take. -/
def retryMessage (result : String) : Option String :=
  match result with
  | "verify-retry-scan" => some "Fingerprint not read cleanly — touch the sensor again."
  | "verify-swipe-too-short" => some "Swipe was too short — touch the sensor again."
  | "verify-finger-not-centered" => some "Center your finger on the sensor and try again."
  | "verify-remove-and-retry" => some "Remove your finger, then touch the sensor again."
  | _ => none

def hintRetry (result : String) : Routine Ke De It Unit :=
  match retryMessage result with
  | some retry => hint retry
  | none => pure ()

/-- Consume signals up to the terminal one. No answer means that the deadline came first. -/
def consume (ends : Bool) : List (Except String VerifyStatus) → Routine Ke De It (Option Bool)
  | [] => pure (if ends then some false else none)
  | signal :: later => do
    let args ← orElse (fun e => .backend s!"verify args: {e}") signal
    if args.done then
      return some (args.result == "verify-match")
    else
      hintRetry args.result
      consume ends later

/-- The second services are the first with this keyring and any trace. -/
def Rekeyed (keyring : Ke) (v v' : LinuxVault Ke De It) : Prop :=
  v'.keyring = keyring ∧ v'.device = v.device ∧ v'.stderrIsTerminal = v.stderrIsTerminal

section
variable {keyring : Ke}

theorem alike_onDevice (call : Except String α → Call It) (op : De → Except String α × De) :
    Fallible.Alike (Rekeyed keyring) (onDevice call op : Routine Ke De It (Except String α))
      (onDevice call op) := by
  rintro v v' ⟨keyring_same, device_same, terminal_same⟩
  unfold onDevice
  rw [device_same]
  exact ⟨rfl, keyring_same, rfl, terminal_same⟩

theorem alike_orElse (failed : String → BiometricError) (answer : Except String α) :
    Fallible.Alike (Rekeyed keyring) (orElse failed answer : Routine Ke De It α)
      (orElse failed answer) :=
  Fallible.Alike.query fun _ _ _ => rfl

/-- A call to the device whose failure ends the routine. -/
theorem alike_checked {call : Except String α → Call It} {op : De → Except String α × De}
    {failed : String → BiometricError} {rest : α → Routine Ke De It β}
    (goes_on : ∀ a, Fallible.Alike (Rekeyed keyring) (rest a) (rest a)) :
    Fallible.Alike (Rekeyed keyring)
      (onDevice call op >>= fun answer => orElse failed answer >>= rest)
      (onDevice call op >>= fun answer => orElse failed answer >>= rest) := by
  apply Fallible.Alike.bind (alike_onDevice call op)
  intro answer
  exact Fallible.Alike.bind (alike_orElse failed answer) goes_on

theorem alike_hint (message : String) :
    Fallible.Alike (Rekeyed keyring) (hint message : Routine Ke De It Unit) (hint message) := by
  rintro v v' ⟨keyring_same, device_same, terminal_same⟩
  unfold hint
  rw [terminal_same]
  split
  · exact ⟨rfl, keyring_same, device_same, rfl⟩
  · exact ⟨rfl, keyring_same, device_same, terminal_same⟩

theorem alike_consume (ends : Bool) (signals : List (Except String VerifyStatus)) :
    Fallible.Alike (Rekeyed keyring) (consume ends signals : Routine Ke De It (Option Bool))
      (consume ends signals) := by
  induction signals with
  | nil => exact Fallible.Alike.pure _
  | cons signal later ih =>
    apply Fallible.Alike.bind (alike_orElse _ signal)
    intro args
    split
    · exact Fallible.Alike.pure _
    · have hinted : Fallible.Alike (Rekeyed keyring)
          (hintRetry args.result : Routine Ke De It Unit) (hintRetry args.result) := by
        unfold hintRetry
        split
        · exact alike_hint _
        · exact Fallible.Alike.pure _
      exact Fallible.Alike.bind hinted fun _ => ih

end

section
variable [Fprint De]

/-- The signals of the device, up to the deadline. -/
def verifyStatus : Routine Ke De It SignalStream := fun v =>
  let (stream, device) := Fprint.verifyStatus v.device
  (.ok stream, { v with device := device, trace := v.trace ++ [.verifyStatus stream] })

def scan : Routine Ke De It Bool := do
  let status ← onDevice .receiveVerifyStatus Fprint.receiveVerifyStatus
  orElse (fun e => .backend s!"verify signal: {e}") status
  let started ← onDevice (.verifyStart "any") (Fprint.verifyStart "any")
  orElse (fun e => .backend s!"verify start: {e}") started
  hint "Touch the fingerprint sensor to unlock the SSH key…"
  let stream ← verifyStatus
  let matched := timeout (← consume stream.ends stream.signals)
  match matched with
  | .ok matched => return matched
  | .error _ => return false

def verifyFingerprint : Routine Ke De It Unit := do
  let bus ← onDevice .systemBus Fprint.systemBus
  orElse (fun e => .unavailable s!"system bus: {e}") bus
  let manager ← onDevice .managerNew Fprint.managerNew
  orElse (fun e => .unavailable s!"fprintd manager: {e}") manager
  let device ← onDevice .getDefaultDevice Fprint.getDefaultDevice
  let devicePath ← orElse (fun e => .unavailable s!"no fingerprint device: {e}") device
  let path ← onDevice (.devicePath devicePath) (Fprint.devicePath devicePath)
  orElse (fun e => .backend s!"device path: {e}") path
  let built ← onDevice .deviceBuild Fprint.deviceBuild
  orElse (fun e => .backend s!"device proxy: {e}") built
  let fingers ← onDevice (.listEnrolledFingers "") (Fprint.listEnrolledFingers "")
  if (fingers.toOption.getD []).isEmpty then
    Fallible.fail
      (.unavailable "no fingerprints are enrolled with fprintd (run `fprintd-enroll`)")
  else
    let claimed ← onDevice (.claim "") (Fprint.claim "")
    orElse (fun e => .backend s!"claim device: {e}") claimed
    let verdict ← Fallible.attempt scan
    -- However the scan ended, the device is given back.
    let _ ← onDevice .verifyStop Fprint.verifyStop
    let _ ← onDevice .release Fprint.release
    match verdict with
    | .ok true => return ()
    | .ok false => Fallible.fail .cancelled
    | .error e => Fallible.fail e

section
variable {keyring : Ke}

theorem alike_scan :
    Fallible.Alike (Rekeyed keyring) (scan : Routine Ke De It Bool) scan := by
  apply alike_checked
  intro _
  apply alike_checked
  intro _
  apply Fallible.Alike.bind (alike_hint _)
  intro _
  have watched : Fallible.Alike (Rekeyed keyring)
      (verifyStatus : Routine Ke De It SignalStream) verifyStatus := by
    rintro v v' ⟨keyring_same, device_same, terminal_same⟩
    unfold verifyStatus
    rw [device_same]
    exact ⟨rfl, keyring_same, rfl, terminal_same⟩
  apply Fallible.Alike.bind watched
  intro stream
  apply Fallible.Alike.bind (alike_consume stream.ends stream.signals)
  intro matched
  dsimp only
  split <;> exact Fallible.Alike.pure _

/-- The check of the fingerprint has nothing to do with the keyring. -/
theorem alike_verifyFingerprint :
    Fallible.Alike (Rekeyed keyring) (verifyFingerprint : Routine Ke De It Unit)
      verifyFingerprint := by
  apply alike_checked
  intro _
  apply alike_checked
  intro _
  apply alike_checked
  intro devicePath
  apply alike_checked
  intro _
  apply alike_checked
  intro _
  -- The fingers are asked for without a check: an error counts as none enrolled.
  apply Fallible.Alike.bind (alike_onDevice _ _)
  intro fingers
  split
  · exact Fallible.Alike.fail _
  apply alike_checked
  intro _
  apply Fallible.Alike.bind alike_scan.attempt
  intro verdict
  apply Fallible.Alike.bind (alike_onDevice _ _)
  intro _
  apply Fallible.Alike.bind (alike_onDevice _ _)
  intro _
  split
  · exact Fallible.Alike.pure _
  · exact Fallible.Alike.fail _
  · exact Fallible.Alike.fail _

end

variable [SecretService Ke It]

omit [Fprint De] in
/-- The secret of an item, as the passphrase that it is. -/
def release (item : It) : Routine Ke De It String := do
  let secret ← onKeyring (.itemSecret item) (SecretService.itemSecret item)
  let bytes ← orElse (fun e => .backend s!"keyring read: {e}") secret
  match String.fromUTF8? bytes with
  | some text => return text
  | none => Fallible.fail (.backend "stored passphrase is not valid UTF-8")

/-- Release the first item found, once the fingerprint matched. -/
def releaseFirst (items : List It) : Routine Ke De It String :=
  match items with
  | [] => Fallible.fail .notEnrolled
  | item :: _ => do
    verifyFingerprint
    release item

def retrieve (keyId : String) : Routine Ke De It String := runBlocking do
  openKeyring
  let items ← searchItems (attributes keyId)
  releaseFirst items

/-! ### The backend -/

def probe : Routine Ke De It Unit := runBlocking do
  let bus ← onDevice .systemBus Fprint.systemBus
  orElse (fun e => .unavailable s!"system bus: {e}") bus
  let manager ← onDevice .managerNew Fprint.managerNew
  orElse (fun e => .unavailable s!"fprintd manager: {e}") manager
  let deviceInTime ← Fallible.query fun v => .ok (Fprint.inTime v.device)
  let device ← onDevice .getDefaultDevice Fprint.getDefaultDevice
  let device ← Fallible.query fun _ => timeout (if deviceInTime then some device else none)
  let _ ← orElse (fun e => .unavailable s!"no fingerprint device: {e}") device
  let keyringInTime ← Fallible.query fun v => .ok (SecretService.inTime v.keyring)
  let keyring ← onKeyring .keyringNew SecretService.keyringNew
  let keyring ← Fallible.query fun _ => timeout (if keyringInTime then some keyring else none)
  orElse (fun e => .unavailable s!"no keyring: {e}") keyring

instance : BiometricBackend (LinuxVault Ke De It) where
  store := store
  retrieve := retrieve
  delete := delete
  isAvailable v := (probe v).1.toOption.isSome
  bindingTier _ := .advisory
  list := list

end

end Gitway.Biometric.Linux
