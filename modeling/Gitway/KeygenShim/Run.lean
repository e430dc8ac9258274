import Gitway.Keygen.Commands
import Gitway.KeygenShim.Sign

/-!
# The operations of `gitway-keygen`

`run` parses the arguments and hands over to one operation. A call for help is looked
for before that, anywhere among the tokens.
-/
namespace Gitway.KeygenShim

open Lib Keygen

/-- `ssh_key::Algorithm`. -/
inductive Algorithm where
  | ed25519
  | ecdsaP256
  | ecdsaP384
  | ecdsaP521
  | rsa
  | other
  deriving DecidableEq, Repr

/-- What the fingerprint line shows of a public key. -/
class KeySize (Pub : Type) extends KeyDetails Pub where
  kind : Pub → Algorithm
  /-- The bytes of the modulus, where the key data is that of an RSA key. -/
  modulus : Pub → Option ByteArray

/-- The functions of `anvil_ssh::sshsig` that only this program calls. -/
class Principals (Priv : Type) (Signers : outParam Type) extends Signatures Priv Signers where
  checkNovalidate : ByteArray → String → String → Except AnvilError Unit
  findPrincipals : String → Signers → String → Except AnvilError (List String)
  findPrincipalsAnyNs : String → Signers → Except AnvilError (List String)

def usage : String :=
  "gitway-keygen — ssh-keygen-compatible shim for git's gpg.ssh.program slot

Usage: gitway-keygen [OPTIONS]

Key generation / inspection:
  -t TYPE              Algorithm: ed25519 | ecdsa | rsa
  -b BITS              RSA size or ECDSA curve
  -f FILE              Output / input key path
  -N PP                New passphrase ('' = unencrypted)
  -P PP                Old passphrase
  -C CMT               Comment
  -l                   Print the fingerprint of -f FILE
  -y                   Print the public key from the private key at -f FILE
  -p                   Change the passphrase of the key at -f FILE
  -E sha256|sha512     Fingerprint hash

SSHSIG (git commit / tag signing):
  -Y sign              Produce an SSHSIG over stdin to stdout
  -Y verify            Verify an SSHSIG against an allowed-signers file
  -Y check-novalidate  Verify SSHSIG shape only
  -Y find-principals   Find principals in allowed-signers for an SSHSIG
  -n NAMESPACE         SSHSIG namespace (git uses 'git')
  -I IDENTITY          Signer identity for verify
  -s SIG               Signature file for verify

  --help, -?           Show this help and exit

For the ergonomic native UX (subcommand verbs and --json), use `gitway keygen`."

/-! ### Helpers -/

def parseKind (s : String) (bits : Option Nat) : Except AnvilError KeyType :=
  match Text.toAsciiLowercase s with
  | "ed25519" => .ok .ed25519
  | "rsa" => .ok .rsa
  | "ecdsa" =>
    match bits.getD 256 with
    | 256 => .ok .ecdsaP256
    | 384 => .ok .ecdsaP384
    | 521 => .ok .ecdsaP521
    | other => .error (.invalidConfig s!"ECDSA requires -b 256|384|521, got {other}")
  | other => .error (.invalidConfig s!"unsupported key type: {other}")

/-- The same user and host as in a comment of `gitway keygen`. -/
def defaultComment (env : Environment) : String := Keygen.defaultComment env

def required {α Ag Va Te : Type} (given : Option α) (message : String) : Program Ag Va Te α :=
  match given with
  | some a => pure a
  | none => Fallible.fail (.invalidConfig message)

section
variable {Pub : Type} [KeySize Pub]

def rsaModulusBits (pk : Pub) : Option Nat :=
  (KeySize.modulus pk).bind fun bytes =>
    let bits := bytes.size * 8
    if bits ≤ Text.u32Max then some bits else none

def publicBitEstimate (pk : Pub) : Nat :=
  match KeySize.kind pk with
  | .ed25519 | .ecdsaP256 => 256
  | .ecdsaP384 => 384
  | .ecdsaP521 => 521
  | .rsa => (rsaModulusBits pk).getD 0
  | .other => 0

end

variable {Priv Pub Signers Sig Ag Va Te : Type} [PublicKey Pub] [PrivateKey Priv Pub]

section
variable [Terminal Te]

def promptFor (prompt : String) : Program Ag Va Te String := do
  let typed ← Program.promptPassword prompt
  Fallible.query fun _ => Program.io typed

/-- The passphrase under which a key is written: the one given with `-N`, else a typed
one. An empty one stands for none. -/
def newPassphrase (given : Option String) (prompt : String) :
    Program Ag Va Te (Option String) := do
  match given with
  | some s => return if s.isEmpty then none else some s
  | none =>
    let pp ← promptFor prompt
    return if pp.isEmpty then none else some pp

/-- The passphrase given with `-P`, else a typed one. -/
def oldPassphrase (given : Option String) (prompt : String) : Program Ag Va Te String := do
  match given with
  | some s => return s
  | none => promptFor prompt

def generatePrompt (file : String) : String := s!"Enter passphrase (empty for none) for {file}: "

def changePrompt : String := "Enter new passphrase (empty for none): "

end

section
variable (Priv)

def loadPublicKey (path : String) : Program Ag Va Te Pub :=
  loadPublic Priv (fun e => s!"cannot parse key: {e}") path

/-! ### Key files -/

variable [Keygen.Writer Priv] [KeySize Pub] [Terminal Te]

omit [KeySize Pub] in
def runGenerate (p : Parsed) : Program Ag Va Te Nat := do
  let file ← required p.file "-f FILE is required"
  let kind ← Fallible.query fun _ => parseKind (p.keyType.getD "ed25519") p.bits
  let env ← Program.environment
  let comment := p.comment.getD (defaultComment env)
  let passphrase ← newPassphrase p.newPassphrase (generatePrompt file)
  let key : Priv ← Fallible.query fun w => Writer.generate kind p.bits comment w.fs
  Program.onFiles (Writer.writeKeypair key file passphrase)
  Program.println s!"Your identification has been saved in {file}"
  Program.println s!"Your public key has been saved in {file}.pub"
  let fp := PublicKey.keygenFingerprint .sha256 (PrivateKey.publicKey key)
  Program.println "The key fingerprint is:"
  Program.println s!"{fp} {comment}"
  return 0

omit [Keygen.Writer Priv] [Terminal Te] in
def runFingerprint (p : Parsed) : Program Ag Va Te Nat := do
  let file ← required p.file "-f FILE is required"
  let pub ← loadPublicKey Priv file
  let fp := PublicKey.keygenFingerprint p.fingerprintHash pub
  -- The names of the algorithms are ASCII.
  let algorithm := Text.toAsciiUppercase (KeyDetails.algorithm pub)
  Program.println s!"{publicBitEstimate pub} {fp} {KeyDetails.comment pub} ({algorithm})"
  return 0

omit [PublicKey Pub] [Keygen.Writer Priv] in
def runExtractPublic (p : Parsed) : Program Ag Va Te Nat := do
  let file ← required p.file "-f FILE is required"
  let pem ← Program.readToString file
  let key : Priv ← Fallible.query fun _ => (PrivateKey.fromOpenssh pem).mapError fun e =>
    .invalidConfig s!"cannot parse key: {e}"
  let plain ←
    if PrivateKey.isEncrypted key then do
      let pp ← oldPassphrase p.oldPassphrase s!"Enter passphrase for {file}: "
      Fallible.query fun _ => (PrivateKey.decrypt key pp).mapError fun e =>
        .signing s!"decrypt failed: {e}"
    else pure key
  let line ← Fallible.query fun _ =>
    (KeyDetails.toOpenssh (PrivateKey.publicKey plain)).mapError fun e =>
      .signing s!"serialize failed: {e}"
  Program.println line
  return 0

omit [PublicKey Pub] [KeySize Pub] [PrivateKey Priv Pub] in
def runChangePassphrase (p : Parsed) : Program Ag Va Te Nat := do
  let file ← required p.file "-f FILE is required"
  let old ← oldPassphrase p.oldPassphrase s!"Enter old passphrase for {file}: "
  let new ← newPassphrase p.newPassphrase changePrompt
  Program.onFiles (Writer.changePassphrase Priv file (some old) new)
  Program.println "Your identification has been saved with the new passphrase."
  return 0

end

/-! ### Signatures -/

section
variable (Priv) [Principals Priv Signers]

def runVerify (p : Parsed) : Program Ag Va Te Nat := do
  let ns ← required p.nameSpace "-n NAMESPACE is required"
  let signer ← required p.signerIdentity "-I IDENTITY is required"
  let sigPath ← required p.signatureFile "-s SIG is required"
  let allowedPath ← required (p.allowedSigners.or p.file) "-f or --allowed-signers is required"
  let armored ← Program.readToString sigPath
  let allowed ← Fallible.query fun w => Signatures.load Priv allowedPath w.fs
  let data ← Program.readStdinBytes
  let verified ← Fallible.query fun _ =>
    Signatures.verify Priv (.ok data) armored signer ns allowed
  Program.println s!"Good \"{ns}\" signature for {signer} with ssh key {verified.fingerprint}"
  return 0

def runCheckNovalidate (p : Parsed) : Program Ag Va Te Nat := do
  let ns ← required p.nameSpace "-n NAMESPACE is required"
  let sigPath ← required p.signatureFile "-s SIG is required"
  let armored ← Program.readToString sigPath
  let data ← Program.readStdinBytes
  Fallible.query fun _ => Principals.checkNovalidate Priv data armored ns
  Program.println s!"Good \"{ns}\" signature (cryptographic check only)"
  return 0

def runFindPrincipals (p : Parsed) : Program Ag Va Te Nat := do
  -- Git names no namespace here.
  let sigPath ← required p.signatureFile "-s SIG is required"
  let allowedPath ← required (p.allowedSigners.or p.file) "-f or --allowed-signers is required"
  let armored ← Program.readToString sigPath
  let allowed ← Fallible.query fun w => Signatures.load Priv allowedPath w.fs
  let principals ← Fallible.query fun _ =>
    match p.nameSpace with
    | some ns => Principals.findPrincipals Priv armored allowed ns
    | none => Principals.findPrincipalsAnyNs Priv armored allowed
  principals.forM fun principal => Program.println principal
  return 0

end

/-! ### The whole program -/

variable [Agent Ag Priv Pub] [Terminal Te] [SshSig Priv Sig] [Keygen.Writer Priv] [KeySize Pub]
  [Principals Priv Signers]

/-- What `run` does with the parsed arguments. -/
def perform (p : Parsed) : Program Ag Va Te Nat :=
  match p.mode with
  | .generateKey => runGenerate Priv p
  | .printFingerprint => runFingerprint Priv p
  | .extractPublic => runExtractPublic Priv p
  | .changePassphrase => runChangePassphrase Priv p
  | .sshSigSign => runSign p
  | .sshSigVerify => runVerify Priv p
  | .sshSigCheckNoValidate => runCheckNovalidate Priv p
  | .sshSigFindPrincipals => runFindPrincipals Priv p

def isHelp (a : String) : Bool := a == "--help" || a == "-?"

def run (args : List String) : Program Ag Va Te Nat := do
  if args.any isHelp then
    Program.println usage
    return 0
  let parsed ← Fallible.query fun _ => fromArgs args
  perform parsed

end Gitway.KeygenShim
