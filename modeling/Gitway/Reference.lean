import Gitway.Config.Resolved
import Gitway.Text
import Mathlib.Data.List.Basic

/-!
# Reference implementations of the interfaces

Small implementations of the crates and devices behind `World`, of which the laws
that the theorems assume can be proved. A public key is the blob of its one-line
form, a private key file names its blob and its cipher, the agent and the keystore
are association lists, and a terminal is the list of the answers to come.
-/
namespace Gitway.Reference

structure RefPublic where
  blob : String
  deriving DecidableEq, Repr

structure RefPrivate where
  key : RefPublic
  pass : Option String
  deriving DecidableEq, Repr

def words (s : String) : List String := (s.toList.splitOn ' ').map String.ofList

instance : PublicKey RefPublic where
  fromOpenssh s :=
    match words s with
    | "ssh-ed25519" :: blob :: _ => .ok ⟨blob⟩
    | _ => .error "invalid format"
  fingerprint _ key := "SHA256:" ++ key.blob
  keygenFingerprint _ key := "SHA256:" ++ key.blob

instance : PrivateKey RefPrivate RefPublic where
  fromOpenssh s :=
    match words s with
    | ["openssh-key-v1", blob, "none"] => .ok ⟨⟨blob⟩, none⟩
    | ["openssh-key-v1", blob, "aes256-ctr", pass] => .ok ⟨⟨blob⟩, some pass⟩
    | _ => .error "invalid format"
  publicKey key := key.key
  isEncrypted key := key.pass.isSome
  decrypt key pass :=
    if key.pass = some pass then .ok { key with pass := none } else .error "cryptographic error"

theorem decryptKeepsPublic : DecryptKeepsPublic RefPrivate := by
  intro key plain pass opened
  simp only [PrivateKey.decrypt] at opened
  split at opened
  · cases opened
    rfl
  · simp at opened

/-! ### Agent -/

structure RefAgent where
  locked : Bool
  entries : List (RefPublic × Constraints)

def agentLocked : AnvilError := .other "AGENT" "agent refused operation"

def RefAgent.put (ag : RefAgent) (key : RefPublic) (c : Constraints) : RefAgent :=
  { ag with entries := (key, c) :: ag.entries.filter fun e => e.1 ≠ key }

instance : Agent RefAgent RefPrivate RefPublic where
  fromEnv sock _ :=
    if sock.isSome then .ok () else .error (.invalidConfig "SSH_AUTH_SOCK is not set")
  list ag :=
    if ag.locked then .error agentLocked
    else .ok (ag.entries.map fun e => ⟨e.1, "", PublicKey.fingerprint .sha256 e.1⟩)
  add key lifetime confirm ag :=
    if ag.locked then (.error agentLocked, ag) else (.ok (), ag.put key.key ⟨lifetime, confirm⟩)
  signWithAgent _ key _ _ ag :=
    if ag.locked = false ∧ ag.entries.any (fun e => e.1 = key) then
      (.ok ("SSHSIG " ++ key.blob), ag)
    else (.error agentLocked, ag)

/-- The constraints under which a key with this fingerprint is held. -/
def RefAgent.held (ag : RefAgent) (print : String) : Option Constraints :=
  (ag.entries.find? fun e => "SHA256:" ++ e.1.blob == print).map (·.2)

/-! ### Keystore and terminal -/

structure RefVault where
  secrets : List (String × String)

instance : BiometricVault RefVault where
  store id pass vault := (.ok (), ⟨(id, pass) :: vault.secrets⟩)
  retrieve id vault :=
    match vault.secrets.lookup id with
    | some pass => (.ok pass, vault)
    | none => (.error .notEnrolled, vault)
  delete id vault := (.ok (), ⟨vault.secrets.filter fun e => e.1 ≠ id⟩)

structure RefTerminal where
  answers : List String

def noTerminal : IoError := ⟨.uncategorized, some 6, "No such device or address"⟩

instance : Terminal RefTerminal where
  promptPassword _ terminal :=
    match terminal.answers with
    | [] => (.error noTerminal, terminal)
    | answer :: later => (.ok answer, ⟨later⟩)
  askpass _ _ terminal :=
    match terminal.answers with
    | [] => (.error ⟨.notFound, some 2, "No such file or directory"⟩, terminal)
    | answer :: later => (.ok ⟨true, "exit status: 0", (answer ++ "\n").toUTF8⟩, ⟨later⟩)

/-! ### The crate -/

inductive RefAnvil where
  | anvil

def errorText : AnvilError → Config.ErrorText
  | .invalidConfig message => ⟨"INVALID_CONFIG", 2, message, "Check the command line."⟩
  | .noKeyFound => ⟨"NO_KEY_FOUND", 3, "no identity key found", "Generate a key."⟩
  | .signing message => ⟨"SIGNING", 1, message, "Check the key."⟩
  | .authenticationFailed =>
    ⟨"AUTHENTICATION_FAILED", 4, "authentication failed", "Register the key."⟩
  | .io e => ⟨"IO", 1, e.message, "Check the file."⟩
  | .withHint e hint => { errorText e with hint := hint }
  | .other code message => ⟨code, 1, message, "Check the agent."⟩

instance : Config.Anvil RefAnvil where
  describe := errorText
  parseJumpChain raw := .ok [⟨raw, 22, none⟩]
  hostKeyTrust _ _ _ := .ok ⟨[], [], []⟩

/-! ### Files -/

theorem decodeUtf8_toUTF8 (s : String) : decodeUtf8 s.toUTF8 = .ok s := by
  unfold decodeUtf8
  rw [fromUTF8?_toUTF8]

/-- A file system with these text files. -/
def textFiles (files : List (String × String)) : FileSystem where
  read path :=
    match files.lookup path with
    | some text => .ok text.toUTF8
    | none => .error ⟨.notFound, some 2, "No such file or directory"⟩
  exists_ path := (files.lookup path).isSome
  mode _ := none
  refuses _ := none

@[simp] theorem readToString_textFiles (files : List (String × String)) (path text : String)
    (there : files.lookup path = some text) : (textFiles files).readToString path = .ok text := by
  unfold FileSystem.readToString textFiles
  simp only [there]
  exact decodeUtf8_toUTF8 text

/-- An environment with these variables, away from any terminal. -/
def environment (vars : List (String × String)) : Environment where
  vars name := (vars.lookup name).map fun value => ⟨value, true⟩
  processId := 4242
  stdinIsTerminal := false
  stderrIsTerminal := false
  homeDir := some "/home/user"
  currentDir := .ok "/home/user"
  now := "2026-01-01T00:00:00Z"

abbrev RefWorld : Type := World RefAgent RefVault RefTerminal

def world (vars files : List (String × String)) (agent : RefAgent) (vault : RefVault)
    (terminal : RefTerminal) : RefWorld where
  env := environment vars
  fs := textFiles files
  agent := agent
  vault := vault
  terminal := terminal
  stdin := .ok ByteArray.empty
  stdout := []
  stderr := []
  signals := []

end Gitway.Reference
