import Gitway.Keygen.Commands
import Gitway.Transport.Session

/-!
# `gitway sign`

The signature goes to the file asked for, or to standard output. Standard output carries
nothing else, so in JSON mode the record goes to standard error.
-/
namespace Gitway.Sign

open Lib Keygen

structure SignArgs where
  key : Option String
  nameSpace : String
  input : Option String
  output : Option String
  hash : HashKind

variable {Ne Ag Va Te : Type} (Priv : Type) {Pub Signers : Type} [PublicKey Pub]
  [PrivateKey Priv Pub] [Signatures Priv Signers] [BiometricVault Va] [Terminal Te]
  (an : Transport.AnvilSession Ne Ag)

def resolveKeyPath (explicit : Option String) : Command Ne Ag Va Te String := do
  match explicit with
  | some p => return p
  | none =>
    match ← Transport.findIdentity an an.github with
    | .found path => return path
    | .encrypted path => return path
    | .notFound => Fallible.fail .noKeyFound

def loadAndDecrypt (path : String) : Program Ag Va Te Priv := do
  let pem ← Program.readToString path
  let key : Priv ← Fallible.query fun _ => (PrivateKey.fromOpenssh pem).mapError fun e =>
    .invalidConfig s!"cannot parse {path}: {e}"
  if !PrivateKey.isEncrypted key then
    return key
  else
    let pp ← Prompt.promptPassphrase Priv path
    Fallible.query fun _ => (PrivateKey.decrypt key pp).mapError fun e =>
      .signing s!"failed to decrypt private key: {e}"

def hashName : HashKind → String
  | .sha256 => "sha256"
  | .sha512 => "sha512"

def signRecord (args : SignArgs) (key : Priv) (armored : String) (env : Environment) : Json :=
  .obj [
    ("metadata", metadataBlock env "gitway sign"),
    ("data", .obj [
      ("signer_fingerprint",
        .str (PublicKey.keygenFingerprint .sha256 (PrivateKey.publicKey key))),
      ("namespace", .str args.nameSpace),
      ("hash", .str (hashName args.hash)),
      ("sig_armored", .str armored),
      ("output", .str (args.output.getD "-"))])]

def run (args : SignArgs) (mode : OutputMode) : Command Ne Ag Va Te UInt32 := do
  let keyPath ← resolveKeyPath an args.key
  let key ← Command.onWorld (loadAndDecrypt Priv keyPath)
  let reader ← Command.onWorld (openInput args.input)
  let armored ← Fallible.query fun _ =>
    Signatures.sign reader key args.nameSpace (hashkindToSshkey args.hash)
  match mode with
  | .json =>
    Command.onWorld (writeOutput args.output armored.toUTF8)
    let env ← Command.onWorld Program.environment
    Command.report (.json (signRecord Priv args key armored env))
  | .human => Command.onWorld (writeOutput args.output armored.toUTF8)
  return 0

end Gitway.Sign
