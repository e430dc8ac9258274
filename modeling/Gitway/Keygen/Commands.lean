import Gitway.Keygen.Passphrase

/-!
# The other verbs of `gitway keygen`

Fingerprints, public halves and the verification of signatures. A key is read from a
`.pub` file or from a private key file alike.
-/
namespace Gitway.Keygen

open Lib

inductive HashKind where
  | sha256
  | sha512
  deriving DecidableEq, Repr

def hashkindToSshkey : HashKind → HashAlg
  | .sha256 => .sha256
  | .sha512 => .sha512

/-- What `ssh_key::PublicKey` knows of a key besides its fingerprint. -/
class KeyDetails (Pub : Type) where
  algorithm : Pub → String
  comment : Pub → String
  toOpenssh : Pub → Except String String

/-- `anvil_ssh::sshsig::Verified`. -/
structure Verified where
  principal : String
  fingerprint : String

/-- The functions of `anvil_ssh` on signatures, and `anvil_ssh::keygen::extract_public`. What
is signed or verified is read by the functions themselves, so it may be an error. -/
class Signatures (Priv : Type) (Signers : outParam Type) where
  extractPublic : String → Option String → FileSystem → Except AnvilError Unit × FileSystem
  load : String → FileSystem → Except AnvilError Signers
  sign : Except IoError ByteArray → Priv → String → HashAlg → Except AnvilError String
  verify : Except IoError ByteArray → String → String → String → Signers →
    Except AnvilError Verified

structure FingerprintArgs where
  file : String
  hash : HashKind

structure ExtractPublicArgs where
  file : String
  output : Option String

structure VerifyArgs where
  signer : String
  nameSpace : String
  allowedSigners : String
  signature : String
  input : Option String

variable {Priv Pub Signers Ag Va Te : Type} [PublicKey Pub] [PrivateKey Priv Pub]

/-! ### Input and output -/

/-- What there is to read: the named file, or else standard input. -/
def openInput (path : Option String) : Program Ag Va Te (Except IoError ByteArray) := fun w =>
  let stdin := (.ok w.stdin, { w with stdin := w.stdin.map fun _ => ByteArray.empty })
  match path with
  | none => stdin
  | some p =>
    if p = "-" then stdin
    else ((Program.io (w.fs.read p)).map .ok, w)

def writeOutput (path : Option String) (bytes : ByteArray) : Program Ag Va Te Unit :=
  match path with
  | none => Program.writeStdout bytes
  | some p => if p = "-" then Program.writeStdout bytes else Program.writeFile p bytes

section
variable (Priv)

/-- The public key of a file, which may hold the private key instead. -/
def loadPublic (unparsed : String → String) (path : String) : Program Ag Va Te Pub := do
  let raw ← Program.readToString path
  match PublicKey.fromOpenssh (Text.trim raw) with
  | .ok pk => return pk
  | .error _ =>
    match (PrivateKey.fromOpenssh raw : Except String Priv) with
    | .ok sk => return PrivateKey.publicKey sk
    | .error e => Fallible.fail (.invalidConfig (unparsed e))

def loadPublicKey (path : String) : Program Ag Va Te Pub :=
  loadPublic Priv (fun e => s!"cannot parse key at {path}: {e}") path

end

/-! ### The commands -/

section
variable (Priv) [KeyDetails Pub] [Signatures Priv Signers]

omit [Signatures Priv Signers] in
def runFingerprint (args : FingerprintArgs) (mode : OutputMode) : Program Ag Va Te Nat := do
  let pub ← loadPublicKey Priv args.file
  let fp := PublicKey.keygenFingerprint (hashkindToSshkey args.hash) pub
  match mode with
  | .json =>
    let env ← Program.environment
    Program.emitJson (.obj [
      ("metadata", metadataBlock env "gitway keygen fingerprint"),
      ("data", .obj [
        ("path", .str args.file),
        ("fingerprint", .str fp),
        ("algorithm", .str (KeyDetails.algorithm pub)),
        ("comment", .str (KeyDetails.comment pub))])])
  | .human => Program.println s!"{fp} {KeyDetails.comment pub} {KeyDetails.algorithm pub}"
  return 0

def runExtractPublic (args : ExtractPublicArgs) (mode : OutputMode) : Program Ag Va Te Nat := do
  Program.onFiles (Signatures.extractPublic Priv args.file args.output)
  let out := args.output.getD (pubPathFor args.file)
  match mode with
  | .json =>
    let env ← Program.environment
    Program.emitJson (.obj [
      ("metadata", metadataBlock env "gitway keygen extract-public"),
      ("data", .obj [("private_key_path", .str args.file), ("public_key_path", .str out)])])
  | .human => Program.eprintln s!"gitway: wrote {out}"
  return 0

def runVerify (args : VerifyArgs) (mode : OutputMode) : Program Ag Va Te Nat := do
  let armored ← Program.readToString args.signature
  let allowed ← Fallible.query fun w => Signatures.load Priv args.allowedSigners w.fs
  let input ← openInput args.input
  let verified ← Fallible.query fun _ =>
    Signatures.verify Priv input armored args.signer args.nameSpace allowed
  match mode with
  | .json =>
    let env ← Program.environment
    Program.emitJson (.obj [
      ("metadata", metadataBlock env "gitway keygen verify"),
      ("data", .obj [
        ("verified", .bool true),
        ("signer", .str verified.principal),
        ("fingerprint", .str verified.fingerprint),
        ("namespace", .str args.nameSpace)])])
  | .human =>
    -- `git log --show-signature` reads this line.
    Program.println
      (s!"Good \"{args.nameSpace}\" signature for {verified.principal} with ssh key " ++
        verified.fingerprint)
  return 0

end

end Gitway.Keygen
