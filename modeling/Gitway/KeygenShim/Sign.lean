import Gitway.KeygenShim.Parsed
import Gitway.Reference

/-!
# `gitway-keygen -Y sign`

A message is signed by the agent when the agent holds the key that the `-f` file
names, and otherwise with a private key file found from the `-f` path. The two ways
read the name of the key off different files: `run_sign_signer_iff` says when they
agree with the public key that is in the `-f` file.
-/
namespace Gitway.KeygenShim

open Lib

/-- `ssh_key::SshSig`. -/
class SshSig (Priv : Type) (Sig : outParam Type) where
  sign : Priv → String → HashAlg → ByteArray → Except String Sig
  toPem : Sig → Except String String

section
variable (Priv : Type) {Pub : Type} [PublicKey Pub] [PrivateKey Priv Pub]

/-! ### Finding the key -/

def parsesAsPrivate (raw : String) : Bool :=
  (PrivateKey.fromOpenssh raw : Except String Priv).toOption.isSome

def parsesAsPublic (Pub : Type) [PublicKey Pub] (raw : String) : Bool :=
  (PublicKey.fromOpenssh (Text.trim raw) : Except String Pub).toOption.isSome

def resolveSigningKeyPath (fs : FileSystem) (path : String) : Except AnvilError String :=
  match fs.readToString path with
  | .error e => .error (if e.kind = .notFound then .noKeyFound else .io e)
  | .ok raw =>
    if parsesAsPrivate Priv raw then .ok path
    else if parsesAsPublic Pub raw then
      match Text.stripEnd path ".pub" with
      | some candidate =>
        -- Whether the private key there belongs to the public key is not looked at.
        if fs.exists_ candidate then .ok candidate
        else .error (.invalidConfig
          (s!"public-key path {path} given for signing, but no private " ++
          s!"key found at {candidate}; load the key into an agent (phase 2) or pass the " ++
          "private-key path directly"))
      | none => .error (.invalidConfig (s!"public-key path {path} given for signing, but does " ++
          "not end in `.pub`; cannot locate the matching private key"))
    else .error (.invalidConfig s!"file {path} is neither a private nor public OpenSSH key")

def loadPublicKeyForSigning (fs : FileSystem) (path : String) : Except AnvilError Pub := do
  let raw ← (fs.readToString path).mapError fun e =>
    if e.kind = .notFound then .noKeyFound else .io e
  match PublicKey.fromOpenssh raw with
  | .ok pk => return pk
  | .error _ =>
    let privPath ← resolveSigningKeyPath Priv fs path
    let privRaw ← Program.io (fs.readToString privPath)
    let privkey : Priv ← (PrivateKey.fromOpenssh privRaw).mapError fun e =>
      .invalidConfig s!"cannot parse signing key: {e}"
    return PrivateKey.publicKey privkey

end

/-! ### The agent path -/

variable {Priv Pub Sig Ag Va Te : Type} [PublicKey Pub] [PrivateKey Priv Pub]
  [Agent Ag Priv Pub]

/-- An agent can be reached and lists a key with this fingerprint. -/
def AgentHolds (env : Environment) (ag : Ag) (pk : Pub) : Prop :=
  (∃ sock ∈ env.vars "SSH_AUTH_SOCK", sock.lossy.isEmpty = false) ∧
    Agent.fromEnv (env.vars "SSH_AUTH_SOCK") ag = .ok () ∧
    ∃ identities, Agent.list ag = .ok identities ∧
      identities.any (fun id => id.fingerprint == PublicKey.fingerprint .sha256 pk) = true

/-- The key that the agent is asked to sign with, if the agent path is taken. -/
def agentKey (env : Environment) (fs : FileSystem) (keyPath : String) (ag : Ag) : Option Pub :=
  if (env.vars "SSH_AUTH_SOCK").all fun v => v.lossy.isEmpty then none
  else
    -- From here on a failure leaves the signing to the key file.
    match loadPublicKeyForSigning Priv fs keyPath with
    | .error _ => none
    | .ok pubkey =>
      match Agent.fromEnv (env.vars "SSH_AUTH_SOCK") ag with
      | .error _ => none
      | .ok () =>
        match Agent.list ag with
        | .error _ => none
        | .ok identities =>
          let want := PublicKey.fingerprint .sha256 pubkey
          if identities.any (fun id => id.fingerprint == want) then some pubkey else none

def trySignViaAgent (keyPath : String) (data : ByteArray) (nameSpace : String) :
    Program Ag Va Te (Option String) := do
  match ← Fallible.query fun w => .ok (agentKey w.env w.fs keyPath w.agent) with
  | none => return none
  | some pubkey =>
    let armored ← Program.onAgent (Agent.signWithAgent data pubkey nameSpace .sha512)
    return some armored

/-! ### The file path -/

def passphrasePromptFailed (keyPath : String) (e : IoError) : AnvilError :=
  let root :=
    if e.rawOsError = some 6 then "no terminal attached" else "cannot read from the terminal"
  .withHint
    (.invalidConfig
      s!"cannot prompt for the passphrase to decrypt {keyPath}: {root} ({e.message})")
    ("This is normal when git is invoked by an IDE, systemd, CI, or any non-interactive shell. " ++
      "Either load the key into the agent so gitway never needs the passphrase " ++
      s!"(`gitway-add {keyPath}`), or set SSH_ASKPASS to a GUI passphrase helper such as " ++
      "ksshaskpass or ssh-askpass-gnome so the prompt opens a dialog.")

/-- The passphrase of the key: the one given with `-P`, else a typed one. -/
def keyPassphrase [Terminal Te] (path : String) (oldPass : Option String) :
    Program Ag Va Te String := do
  match oldPass with
  | some s => return s
  | none =>
    match ← Program.promptPassword s!"Enter passphrase for {path}: " with
    | .ok typed => return typed
    | .error e => Fallible.fail (passphrasePromptFailed path e)

def loadAndDecrypt [Terminal Te] (path : String) (oldPass : Option String) :
    Program Ag Va Te Priv := do
  let pem ← Program.readToString path
  let key : Priv ← Fallible.query fun _ => (PrivateKey.fromOpenssh pem).mapError fun e =>
    .invalidConfig s!"cannot parse key: {e}"
  if !PrivateKey.isEncrypted key then
    return key
  else
    let pass ← keyPassphrase path oldPass
    Fallible.query fun _ => (PrivateKey.decrypt key pass).mapError fun e =>
      .signing s!"decrypt failed: {e}"

def writeSigOutput (armored : ByteArray) (sigOut : Option String) : Program Ag Va Te Nat := do
  match sigOut with
  | some path => Program.writeFile path armored
  | none => Program.writeStdout armored
  return 0

/-- The message, and the file that the signature goes to. -/
def readMessage (p : Parsed) : Program Ag Va Te (ByteArray × Option String) := do
  match p.messageFile with
  | some msg =>
    let bytes ← Program.readFile msg
    return (bytes, some (msg ++ ".sig"))
  | none =>
    let bytes ← Program.readStdinBytes
    return (bytes, none)

def runSign [Terminal Te] [SshSig Priv Sig] (p : Parsed) : Program Ag Va Te Nat := do
  match p.file, p.nameSpace with
  | none, _ => Fallible.fail (.invalidConfig "-f FILE is required for -Y sign")
  | some _, none => Fallible.fail (.invalidConfig "-n NAMESPACE is required for -Y sign")
  | some file, some ns =>
    let (data, sigOut) ← readMessage p
    match ← trySignViaAgent file data ns with
    | some armored => writeSigOutput armored.toUTF8 sigOut
    | none =>
      let keyFile ← Fallible.query fun w => resolveSigningKeyPath Priv w.fs file
      let key : Priv ← loadAndDecrypt keyFile p.oldPassphrase
      let sig ← Fallible.query fun _ => (SshSig.sign key ns .sha512 data).mapError fun e =>
        .signing s!"sshsig sign failed: {e}"
      let armored ← Fallible.query fun _ => (@SshSig.toPem Priv _ _ sig).mapError fun e =>
        .signing s!"armor failed: {e}"
      writeSigOutput armored.toUTF8 sigOut

/-! ### Which key is used -/

theorem agentKey_eq_some_iff {env : Environment} {fs : FileSystem} {path : String} {ag : Ag}
    {pk : Pub} : agentKey env fs path ag = some pk ↔
      loadPublicKeyForSigning Priv fs path = .ok pk ∧ AgentHolds env ag pk := by
  unfold agentKey AgentHolds
  -- Each condition that is not met ends the agent path, so both sides are false.
  cases sock : env.vars "SSH_AUTH_SOCK" with
  | none => simp
  | some value =>
    cases loadPublicKeyForSigning Priv fs path with
    | error e => simp
    | ok pubkey =>
      cases connected : Agent.fromEnv (some value) ag with
      | error e => simp
      | ok =>
        cases listed : Agent.list ag with
        | error e => simp
        | ok identities =>
          cases empty : value.lossy.isEmpty with
          | true =>
            have unset : value.lossy = "" := by simpa using empty
            simp [unset]
          | false =>
            simp only [Option.all_some, empty, Bool.false_eq_true, if_false,
              Option.ite_none_right_eq_some, Option.some.injEq, Except.ok.injEq, Option.mem_def,
              exists_eq_left', true_and]
            constructor
            · rintro ⟨holds, rfl⟩
              exact ⟨rfl, holds⟩
            · rintro ⟨rfl, holds⟩
              exact ⟨holds, rfl⟩

omit [Agent Ag Priv Pub] in
theorem loadPublicKey_direct {fs : FileSystem} {path raw : String} {pk : Pub}
    (content : fs.readToString path = .ok raw) (direct : PublicKey.fromOpenssh raw = .ok pk) :
    loadPublicKeyForSigning Priv fs path = .ok pk := by
  simp [loadPublicKeyForSigning, content, mapError_ok, bind, Except.bind, direct, pure,
    Except.pure]

omit [Agent Ag Priv Pub] in
/-- The public key comes from the `-f` file itself, or from the private key file
that is found for it. -/
theorem loadPublicKey_cases {fs : FileSystem} {path raw : String} {pk : Pub}
    (content : fs.readToString path = .ok raw)
    (loaded : loadPublicKeyForSigning Priv fs path = .ok pk) :
    PublicKey.fromOpenssh raw = .ok pk ∨
      (∀ other : Pub, PublicKey.fromOpenssh raw ≠ .ok other) ∧
        ∃ privPath, ∃ key : Priv, resolveSigningKeyPath Priv fs path = .ok privPath ∧
          keyAt Priv fs privPath = some key ∧ PrivateKey.publicKey key = pk := by
  simp only [loadPublicKeyForSigning, content, mapError_ok, bind, Except.bind] at loaded
  cases direct : (PublicKey.fromOpenssh raw : Except String Pub) with
  | ok found =>
    simp only [direct, pure, Except.pure, Except.ok.injEq] at loaded
    exact Or.inl (by rw [loaded])
  -- The file is no public key, so the key is read off the private key file.
  | error e =>
    rw [direct] at loaded
    refine Or.inr ⟨by simp, ?_⟩
    cases resolved : resolveSigningKeyPath Priv fs path with
    | error e => simp [resolved] at loaded
    | ok privPath =>
      cases read : fs.readToString privPath with
      | error e => simp [resolved, read] at loaded
      | ok privRaw =>
        cases parsed : (PrivateKey.fromOpenssh privRaw : Except String Priv) with
        | error e => simp [resolved, read, parsed] at loaded
        | ok key =>
          simp only [resolved, read, parsed, Program.io_ok, mapError_ok, pure, Except.pure,
            Except.ok.injEq] at loaded
          exact ⟨privPath, key, rfl, keyAt_of_parsed read parsed, loaded⟩

omit [PublicKey Pub] [Agent Ag Priv Pub] in
theorem loadAndDecrypt_spec [Terminal Te] (law : DecryptKeepsPublic Priv) {path : String}
    {oldPass : Option String} {w w' : World Ag Va Te} {plain : Priv}
    (returned : loadAndDecrypt path oldPass w = (.ok plain, w')) :
    ∃ key : Priv, keyAt Priv w.fs path = some key ∧
      PrivateKey.publicKey plain = PrivateKey.publicKey key := by
  obtain ⟨pem, w₁, read, rest⟩ := Fallible.bind_ok_iff.mp returned
  obtain ⟨rfl, file⟩ := Program.readToString_ok read
  obtain ⟨key, w₂, parsed, last⟩ := Fallible.bind_ok_iff.mp rest
  rw [Fallible.query_run, Prod.mk.injEq, mapError_eq_ok_iff] at parsed
  obtain ⟨parsed, rfl⟩ := parsed
  refine ⟨key, keyAt_of_parsed file parsed, ?_⟩
  split at last
  · rw [Fallible.pure_run, Prod.mk.injEq, Except.ok.injEq] at last
    rw [last.1]
  · obtain ⟨pass, w₃, _, opened⟩ := Fallible.bind_ok_iff.mp last
    rw [Fallible.query_run, Prod.mk.injEq, mapError_eq_ok_iff] at opened
    exact law key plain pass opened.1

theorem keeps_readMessage (p : Parsed) :
    Fallible.Keeps World.setting
      (readMessage p : Program Ag Va Te (ByteArray × Option String)) := by
  unfold readMessage
  cases p.messageFile with
  | some msg => exact Fallible.Keeps.bind (Fallible.Keeps.query _) fun _ => Fallible.Keeps.pure _
  | none =>
    exact Fallible.Keeps.bind Program.keeps_readStdinBytes fun _ => Fallible.Keeps.pure _

/-- The signature is written to the file beside the message, or to standard output. -/
def Emits (p : Parsed) (w' : World Ag Va Te) (armored : String) : Prop :=
  match p.messageFile with
  | some msg => w'.fs.read (msg ++ ".sig") = .ok armored.toUTF8
  | none => ∃ earlier, w'.stdout = earlier ++ [.bytes armored.toUTF8]

/-- Where the signature goes is decided when the message is read. -/
theorem readMessage_target {p : Parsed} {data : ByteArray} {sigOut : Option String}
    {w w' : World Ag Va Te} (read : readMessage p w = (.ok (data, sigOut), w')) :
    sigOut = p.messageFile.map (· ++ ".sig") := by
  unfold readMessage at read
  cases named : p.messageFile with
  | some msg =>
    rw [named] at read
    obtain ⟨bytes, w₂, _, last⟩ := Fallible.bind_ok_iff.mp read
    rw [Fallible.pure_run, Prod.mk.injEq, Except.ok.injEq, Prod.mk.injEq] at last
    exact last.1.2.symm
  | none =>
    rw [named] at read
    obtain ⟨bytes, w₂, _, last⟩ := Fallible.bind_ok_iff.mp read
    rw [Fallible.pure_run, Prod.mk.injEq, Except.ok.injEq, Prod.mk.injEq] at last
    exact last.1.2.symm

theorem writeSigOutput_emits {p : Parsed} {data : ByteArray} {sigOut : Option String}
    {armored : String} {w₀ w₁ w w' : World Ag Va Te} {code : Nat}
    (read : readMessage p w₀ = (.ok (data, sigOut), w₁))
    (returned : writeSigOutput armored.toUTF8 sigOut w = (.ok code, w')) : Emits p w' armored := by
  have target := readMessage_target read
  unfold Emits
  unfold writeSigOutput at returned
  rw [target] at returned
  cases named : p.messageFile with
  | some msg =>
    simp only [named, Option.map_some] at returned
    obtain ⟨⟨⟩, w₂, written, last⟩ := Fallible.bind_ok_iff.mp returned
    rw [Fallible.pure_run, Prod.mk.injEq] at last
    rw [← last.2]
    exact Program.writeFile_ok written
  | none =>
    simp only [named, Option.map_none] at returned
    obtain ⟨⟨⟩, w₂, written, last⟩ := Fallible.bind_ok_iff.mp returned
    rw [Fallible.pure_run, Prod.mk.injEq] at last
    rw [Program.writeStdout_run, Prod.mk.injEq] at written
    rw [← last.2, ← written.2]
    exact ⟨w.stdout, rfl⟩

/-- The agent path either signs with the key it committed to or leaves everything as
it was. -/
theorem trySignViaAgent_cases {keyPath ns : String} {data : ByteArray} {tried : Option String}
    {w w' : World Ag Va Te} (returned : trySignViaAgent keyPath data ns w = (.ok tried, w')) :
    (∃ pk armored ag', agentKey w.env w.fs keyPath w.agent = some pk ∧ tried = some armored ∧
      Agent.signWithAgent data pk ns .sha512 w.agent = (.ok armored, ag')) ∨
      agentKey w.env w.fs keyPath w.agent = none ∧ tried = none ∧ w = w' := by
  obtain ⟨chosen, w₁, decided, rest⟩ := Fallible.bind_ok_iff.mp returned
  rw [Fallible.query_run, Prod.mk.injEq, Except.ok.injEq] at decided
  obtain ⟨decided, rfl⟩ := decided
  -- Choosing the key changes nothing, so without one all is as it was.
  rw [decided]
  cases chosen with
  | none =>
    simp only [Fallible.pure_run, Prod.mk.injEq, Except.ok.injEq] at rest
    exact Or.inr ⟨rfl, rest.1.symm, rest.2⟩
  | some pk =>
    obtain ⟨armored, w₂, signed, last⟩ := Fallible.bind_ok_iff.mp rest
    rw [Fallible.pure_run, Prod.mk.injEq, Except.ok.injEq] at last
    rw [Program.onAgent_run, Prod.mk.injEq] at signed
    exact Or.inl ⟨pk, armored, _, rfl, last.1.symm, Prod.ext signed.1 rfl⟩

variable (Priv Ag) in
/-- What the code relies on of the signers: a signature is made by the private half
of the key that was named, in the agent, or by the key itself. -/
structure Signs [SshSig Priv Sig] (signer : String → Option Pub) : Prop where
  agent : ∀ data pk ns alg (ag ag' : Ag) armored,
    Agent.signWithAgent data pk ns alg ag = (.ok armored, ag') → signer armored = some pk
  file : ∀ (key : Priv) ns alg data sig armored, SshSig.sign key ns alg data = .ok sig →
    @SshSig.toPem Priv _ _ sig = .ok armored →
      signer armored = some (PrivateKey.publicKey key)

/-- The contents of a file parse as this public key, as they are or trimmed. -/
def Names (raw : String) (pk : Pub) : Prop :=
  PublicKey.fromOpenssh raw = .ok pk ∨
    (∀ other : Pub, PublicKey.fromOpenssh raw ≠ .ok other) ∧
      PublicKey.fromOpenssh (Text.trim raw) = .ok pk

/-- The private key file that is found for the `-f` path is the one of this key. -/
def FileMatches (Priv : Type) {Pub : Type} [PublicKey Pub] [PrivateKey Priv Pub]
    (fs : FileSystem) (file : String) (pk : Pub) : Prop :=
  ∃ path, ∃ key : Priv, resolveSigningKeyPath Priv fs file = .ok path ∧
    keyAt Priv fs path = some key ∧ PrivateKey.publicKey key = pk

omit [Agent Ag Priv Pub] in
theorem FileMatches.unique {fs : FileSystem} {file path : String} {pk : Pub} {key : Priv}
    (matching : FileMatches Priv fs file pk)
    (resolved : resolveSigningKeyPath Priv fs file = .ok path)
    (there : keyAt Priv fs path = some key) : PrivateKey.publicKey key = pk := by
  obtain ⟨path', key', resolved', there', same⟩ := matching
  obtain rfl : path' = path := Except.ok.inj (resolved'.symm.trans resolved)
  obtain rfl : key' = key := Option.some.inj (there'.symm.trans there)
  exact same

/-- A signature that was emitted is made by the key in the `-f` file exactly when
that file holds the key as it is and an agent holds it too, or the private key file
found for it is the matching one. -/
theorem run_sign_signer_iff [Terminal Te] [SshSig Priv Sig] {signer : String → Option Pub}
    (signs : Signs Priv Ag signer) (law : DecryptKeepsPublic Priv) {p : Parsed}
    {file raw : String} {pk : Pub} {w w' : World Ag Va Te} {code : Nat}
    (named : p.file = some file) (content : w.fs.readToString file = .ok raw)
    (names : Names raw pk) (returned : runSign p w = (.ok code, w')) :
    ∃ armored, Emits p w' armored ∧ (signer armored = some pk ↔
      PublicKey.fromOpenssh raw = .ok pk ∧ AgentHolds w.env w.agent pk ∨
        FileMatches Priv w.fs file pk) := by
  unfold runSign at returned
  rw [named] at returned
  cases given : p.nameSpace with
  | none => simp [given] at returned
  | some ns =>
    simp only [given] at returned
    obtain ⟨⟨data, sigOut⟩, w₁, read, rest⟩ := Fallible.bind_ok_iff.mp returned
    have frame := (keeps_readMessage p).eq read
    simp only [World.setting, Prod.mk.injEq] at frame
    obtain ⟨env_same, fs_same, agent_same⟩ := frame
    obtain ⟨tried, w₂, attempt, rest⟩ := Fallible.bind_ok_iff.mp rest
    have cases_ := trySignViaAgent_cases attempt
    rw [env_same, fs_same, agent_same] at cases_
    rcases cases_ with ⟨chosen, armored, ag', decided, rfl, signed⟩ | ⟨undecided, rfl, rfl⟩
    · -- The agent signs with the key it was asked for.
      refine ⟨armored, writeSigOutput_emits read rest, ?_⟩
      obtain ⟨loaded, holds⟩ := agentKey_eq_some_iff.mp decided
      rw [signs.agent data chosen ns _ w.agent ag' armored signed, Option.some.injEq]
      -- The agent was asked for the key of the `-f` file itself, or for that of the
      -- private key file beside it.
      rcases loadPublicKey_cases content loaded with direct | ⟨indirect, path, key, found⟩
      · obtain rfl : chosen = pk := by
          rcases names with parsed | ⟨unparsed, _⟩
          · exact Except.ok.inj (direct.symm.trans parsed)
          · exact absurd direct (unparsed chosen)
        exact iff_of_true rfl (Or.inl ⟨direct, holds⟩)
      · obtain ⟨resolved, there, public_same⟩ := found
        constructor
        · intro same
          exact Or.inr ⟨path, key, resolved, there, public_same.trans same⟩
        · rintro (⟨direct, _⟩ | matching)
          · exact absurd direct (indirect pk)
          · exact public_same.symm.trans (matching.unique resolved there)
    · -- The key file signs.
      obtain ⟨path, w₃, resolved, rest⟩ := Fallible.bind_ok_iff.mp rest
      rw [Fallible.query_run, Prod.mk.injEq, fs_same] at resolved
      obtain ⟨resolved, rfl⟩ := resolved
      obtain ⟨plain, w₄, loaded, rest⟩ := Fallible.bind_ok_iff.mp rest
      obtain ⟨key, there, public_same⟩ := loadAndDecrypt_spec law loaded
      rw [fs_same] at there
      obtain ⟨sig, w₅, made, rest⟩ := Fallible.bind_ok_iff.mp rest
      rw [Fallible.query_run, Prod.mk.injEq, mapError_eq_ok_iff] at made
      obtain ⟨armored, w₆, rendered, rest⟩ := Fallible.bind_ok_iff.mp rest
      rw [Fallible.query_run, Prod.mk.injEq, mapError_eq_ok_iff] at rendered
      refine ⟨armored, writeSigOutput_emits read rest, ?_⟩
      rw [signs.file plain ns _ data sig armored made.1 rendered.1, public_same,
        Option.some.injEq]
      constructor
      · intro same
        exact Or.inr ⟨path, key, resolved, there, same⟩
      · rintro (⟨direct, holds⟩ | matching)
        -- With the key in an agent the agent path would have been taken.
        · have decided : agentKey w.env w.fs file w.agent = some pk :=
            agentKey_eq_some_iff.mpr ⟨loadPublicKey_direct content direct, holds⟩
          rw [undecided] at decided
          simp at decided
        · exact matching.unique resolved there

/-! ### On the reference keys -/

open Reference

structure RefSig where
  key : RefPublic

instance : SshSig RefPrivate RefSig where
  sign key _ _ _ := if key.pass.isNone then .ok ⟨key.key⟩ else .error "private key is encrypted"
  toPem sig := .ok ("SSHSIG " ++ sig.key.blob)

def refSigner (armored : String) : Option RefPublic :=
  (Text.stripStart armored "SSHSIG ").map RefPublic.mk

theorem refSigner_signs : Signs RefPrivate RefAgent refSigner where
  agent := by
    intro data pk ns alg ag ag' armored signed
    simp only [Agent.signWithAgent] at signed
    split at signed
    · cases signed
      simp [refSigner]
    · simp at signed
  file := by
    intro key ns alg data sig armored signed rendered
    simp only [SshSig.sign] at signed
    split at signed
    · cases signed
      cases rendered
      simp [refSigner, PrivateKey.publicKey]
    · simp at signed

private def signGit : Parsed := { start.p with file := some "id.pub", nameSpace := some "git" }

/-- A `.pub` file, a private key file beside it, and no agent. -/
private def twoFiles (privText : String) : RefWorld :=
  world [] [("id.pub", "ssh-ed25519 AAAANEW user"), ("id", privText)] ⟨false, []⟩ ⟨[]⟩ ⟨[]⟩

private theorem pubText_parsed :
    (PublicKey.fromOpenssh "ssh-ed25519 AAAANEW user" : Except String RefPublic) =
      .ok ⟨"AAAANEW"⟩ := by decide

private theorem twoFiles_resolve (privText : String) :
    resolveSigningKeyPath RefPrivate (twoFiles privText).fs "id.pub" = .ok "id" := by
  have content : (twoFiles privText).fs.readToString "id.pub" = .ok "ssh-ed25519 AAAANEW user" :=
    readToString_textFiles _ _ _ rfl
  have notPrivate : parsesAsPrivate RefPrivate "ssh-ed25519 AAAANEW user" = false := by decide
  have isPublic : parsesAsPublic RefPublic "ssh-ed25519 AAAANEW user" = true := by decide
  have stripped : Text.stripEnd "id.pub" ".pub" = some "id" := by decide
  simp only [resolveSigningKeyPath, content, notPrivate, isPublic, stripped, Bool.false_eq_true,
    if_false, if_true]
  rfl

private theorem matching_parsed :
    (PrivateKey.fromOpenssh "openssh-key-v1 AAAANEW none" : Except String RefPrivate) =
      .ok ⟨⟨"AAAANEW"⟩, none⟩ := by decide

private theorem stale_parsed :
    (PrivateKey.fromOpenssh "openssh-key-v1 AAAAOLD none" : Except String RefPrivate) =
      .ok ⟨⟨"AAAAOLD"⟩, none⟩ := by decide

/-- The file path is taken, and the key beside the `.pub` file signs. -/
private theorem twoFiles_sign {privText blob : String}
    (parsed : (PrivateKey.fromOpenssh privText : Except String RefPrivate) = .ok ⟨⟨blob⟩, none⟩) :
    runSign signGit (twoFiles privText) =
      (.ok 0, { twoFiles privText with
        stdin := .ok ByteArray.empty
        stdout := [.bytes ("SSHSIG " ++ blob).toUTF8] }) := by
  have unset : (twoFiles privText).env.vars "SSH_AUTH_SOCK" = none := rfl
  have content : (twoFiles privText).fs.readToString "id" = .ok privText :=
    readToString_textFiles _ _ _ rfl
  have empty : (twoFiles privText).stdin = .ok ByteArray.empty := rfl
  have silent : (twoFiles privText).stdout = [] := rfl
  simp [runSign, signGit, start, readMessage, Program.readStdinBytes, Fallible.bind_run,
    trySignViaAgent, agentKey, unset, twoFiles_resolve, loadAndDecrypt, content, parsed, empty,
    silent, PrivateKey.isEncrypted, SshSig.sign, SshSig.toPem, writeSigOutput,
    Except.map]

theorem run_sign_signer_matching_file :
    ∃ armored, Emits signGit (runSign signGit (twoFiles "openssh-key-v1 AAAANEW none")).2 armored ∧
      (refSigner armored = some ⟨"AAAANEW"⟩ ↔
        PublicKey.fromOpenssh "ssh-ed25519 AAAANEW user" = .ok (⟨"AAAANEW"⟩ : RefPublic) ∧
            AgentHolds (environment []) (⟨false, []⟩ : RefAgent) ⟨"AAAANEW"⟩ ∨
          FileMatches RefPrivate (twoFiles "openssh-key-v1 AAAANEW none").fs "id.pub"
            ⟨"AAAANEW"⟩) :=
  run_sign_signer_iff refSigner_signs decryptKeepsPublic (p := signGit) rfl
    (readToString_textFiles _ _ _ rfl) (Or.inl pubText_parsed)
    (Fallible.run_eq (congrArg Prod.fst (twoFiles_sign matching_parsed)))

/-- The private key beside the `.pub` file is another one: it signs, and the run
succeeds. -/
theorem stale_private_key_signs :
    Signs RefPrivate RefAgent refSigner ∧ DecryptKeepsPublic RefPrivate ∧
      (twoFiles "openssh-key-v1 AAAAOLD none").fs.readToString "id.pub" =
        .ok "ssh-ed25519 AAAANEW user" ∧
      Names "ssh-ed25519 AAAANEW user" (⟨"AAAANEW"⟩ : RefPublic) ∧
      ∃ w', runSign signGit (twoFiles "openssh-key-v1 AAAAOLD none") = (.ok 0, w') ∧
        Emits signGit w' "SSHSIG AAAAOLD" ∧
        refSigner "SSHSIG AAAAOLD" = some ⟨"AAAAOLD"⟩ ∧
        refSigner "SSHSIG AAAAOLD" ≠ some ⟨"AAAANEW"⟩ :=
  ⟨refSigner_signs, decryptKeepsPublic, readToString_textFiles _ _ _ rfl, Or.inl pubText_parsed, _,
    twoFiles_sign stale_parsed, ⟨[], rfl⟩, by decide, by decide⟩

end Gitway.KeygenShim
