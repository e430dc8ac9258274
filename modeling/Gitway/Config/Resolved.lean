import Gitway.Lib.Utf8
import Gitway.World

/-!
# Resolved `ssh_config`

What `anvil_ssh` makes of the `ssh_config` files for a host, and the paths in it. A path
is a sequence of bytes here, as it is on Unix, and need not be text.
-/
namespace Gitway.Config

/-! ### Paths as bytes -/

abbrev OsPath : Type := List UInt8

namespace OsPath

/-- `Path::file_name`: the last component, where that is a name. -/
def fileName (path : OsPath) : Option OsPath :=
  -- The byte of the slash, and the components `.` and `..`.
  let names := (path.splitOn 47).filter fun seg => seg != [] && seg != [46]
  names.getLast?.filter fun seg => seg != [46, 46]

def toStr (path : OsPath) : Option String := Lib.Utf8.decode path

def toStringLossy (path : OsPath) : String := Lib.Utf8.lossy path

end OsPath

/-- `Path::extension` of a file name. -/
def extension (name : String) : Option String :=
  let parts := name.toList.splitOn '.'
  -- A dot at the start does not begin an extension.
  if name = ".." ∨ parts.length < 2 ∨ parts.dropLast = [[]] then none
  else parts.getLast?.map String.ofList

/-! ### What a resolution holds -/

structure AlgList where
  names : String
  deriving DecidableEq, Repr

inductive StrictHostKeyChecking where
  | yes
  | no
  | acceptNew
  deriving DecidableEq, Repr

/-- Where a directive was read. -/
structure DirectiveSource where
  directive : String
  file : OsPath
  line : Nat
  deriving DecidableEq, Repr

/-- `ResolvedSshConfig`. The timeout is in seconds. -/
structure ResolvedSshConfig where
  hostname : Option String
  user : Option String
  port : Option Nat
  identityFiles : List OsPath
  identitiesOnly : Option Bool
  identityAgent : Option OsPath
  certificateFiles : List OsPath
  proxyCommand : Option String
  proxyJump : Option String
  userKnownHostsFiles : List OsPath
  strictHostKeyChecking : Option StrictHostKeyChecking
  hostKeyAlgorithms : Option AlgList
  kexAlgorithms : Option AlgList
  ciphers : Option AlgList
  macs : Option AlgList
  connectTimeout : Option Nat
  connectionAttempts : Option Nat
  provenance : List DirectiveSource
  deriving DecidableEq, Repr

/-- A resolution to which no directive contributed. -/
def ResolvedSshConfig.bare : ResolvedSshConfig where
  hostname := none
  user := none
  port := none
  identityFiles := []
  identitiesOnly := none
  identityAgent := none
  certificateFiles := []
  proxyCommand := none
  proxyJump := none
  userKnownHostsFiles := []
  strictHostKeyChecking := none
  hostKeyAlgorithms := none
  kexAlgorithms := none
  ciphers := none
  macs := none
  connectTimeout := none
  connectionAttempts := none
  provenance := []

structure SshConfigPaths where
  user : Option OsPath
  system : Option OsPath
  deriving DecidableEq, Repr

/-! ### The crate -/

structure JumpHost where
  host : String
  port : Nat
  user : Option String
  deriving DecidableEq, Repr

structure CertAuthority where
  hostPattern : String
  algorithm : String
  fingerprint : String
  deriving DecidableEq, Repr

structure RevokedEntry where
  hostPattern : String
  fingerprint : String
  deriving DecidableEq, Repr

structure HostKeyTrust where
  fingerprints : List String
  certAuthorities : List CertAuthority
  revoked : List RevokedEntry

/-- What the crate says of an error. -/
structure ErrorText where
  errorCode : String
  exitCode : UInt32
  display : String
  hint : String

/-- The functions of `anvil_ssh` that depend on nothing but their arguments and the files. -/
class Anvil (An : Type) where
  describe : AnvilError → ErrorText
  parseJumpChain : String → Except AnvilError (List JumpHost)
  hostKeyTrust : String → Option OsPath → FileSystem → Except AnvilError HostKeyTrust

end Gitway.Config
