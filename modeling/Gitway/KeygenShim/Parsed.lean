import Gitway.Lib.Argv
import Gitway.Text
import Gitway.World

/-!
# The argument parser of `gitway-keygen`

`Parsed::from_args` is a loop over the argument vector. A token is classified first,
in the order of the arms in the source, and acted upon then. The grammar of the
parser is the language of the groups that the loop takes off the front, and its
result is read off the groups without regard to how different options interleave.
-/
namespace Gitway.KeygenShim

open Lib

/-! ### What is parsed -/

inductive Mode where
  | generateKey
  | printFingerprint
  | extractPublic
  | changePassphrase
  | sshSigSign
  | sshSigVerify
  | sshSigCheckNoValidate
  | sshSigFindPrincipals
  deriving DecidableEq, Repr

structure Parsed where
  mode : Mode
  keyType : Option String
  bits : Option Nat
  file : Option String
  newPassphrase : Option String
  oldPassphrase : Option String
  comment : Option String
  nameSpace : Option String
  signerIdentity : Option String
  signatureFile : Option String
  allowedSigners : Option String
  fingerprintHash : HashAlg
  messageFile : Option String
  deriving DecidableEq, Repr

/-- The local variables of the loop. -/
structure Scan where
  p : Parsed
  sawList : Bool
  sawExtract : Bool
  sawChange : Bool
  sshsigOp : Option String
  deriving DecidableEq, Repr

/-! ### Tokens -/

/-- The options that take a value. -/
inductive ValueOption where
  | keyType
  | bits
  | file
  | newPassphrase
  | oldPassphrase
  | comment
  | nameSpace
  | signerIdentity
  | signatureFile
  | hash
  | sshsigOp
  | allowedSigners
  deriving DecidableEq, Repr

def ValueOption.flag : ValueOption → String
  | .keyType => "-t"
  | .bits => "-b"
  | .file => "-f"
  | .newPassphrase => "-N"
  | .oldPassphrase => "-P"
  | .comment => "-C"
  | .nameSpace => "-n"
  | .signerIdentity => "-I"
  | .signatureFile => "-s"
  | .hash => "-E"
  | .sshsigOp => "-Y"
  | .allowedSigners => "--allowed-signers"

inductive Switch where
  | list
  | extract
  | change
  deriving DecidableEq, Repr

def Switch.flag : Switch → String
  | .list => "-l"
  | .extract => "-y"
  | .change => "-p"

/-- Flags that are accepted and ignored. -/
inductive Ignored where
  | q
  | v
  | vv
  | vvv
  deriving DecidableEq, Repr

def Ignored.flag : Ignored → String
  | .q => "-q"
  | .v => "-v"
  | .vv => "-vv"
  | .vvv => "-vvv"

/-- The arm of the loop that a token is handled by. -/
inductive Arm (a : String) where
  | value (opt : ValueOption) (spelled : a = opt.flag)
  | switch (sw : Switch) (spelled : a = sw.flag)
  | packed (rest : String) (spelled : a = "-O" ++ rest) (some_text : rest ≠ "")
  | separated (spelled : a = "-O")
  | ignored (flag : Ignored) (spelled : a = flag.flag)
  | endOfOptions (spelled : a = "--")
  | unsupported
  | positional (plain : Text.startsWith a "-" = false)

/-- The arms from the one for the packed `-O` on. -/
def lateArm (a : String) : Arm a :=
  match stripped : Text.stripStart a "-O" with
  | some rest =>
    if bare : rest = "" then
      .separated (by
        rw [Text.stripStart_eq_some_iff.mp stripped, bare]
        rfl)
    else .packed rest (Text.stripStart_eq_some_iff.mp stripped) bare
  | none =>
    if h : a = "-q" then .ignored .q h
    else if h : a = "-v" then .ignored .v h
    else if h : a = "-vv" then .ignored .vv h
    else if h : a = "-vvv" then .ignored .vvv h
    else if h : a = "--" then .endOfOptions h
    else if h : Text.startsWith a "-" = true then .unsupported
    else .positional (by simpa using h)

def arm (a : String) : Arm a :=
  if h : a = "-t" then .value .keyType h
  else if h : a = "-b" then .value .bits h
  else if h : a = "-f" then .value .file h
  else if h : a = "-N" then .value .newPassphrase h
  else if h : a = "-P" then .value .oldPassphrase h
  else if h : a = "-C" then .value .comment h
  else if h : a = "-n" then .value .nameSpace h
  else if h : a = "-I" then .value .signerIdentity h
  else if h : a = "-s" then .value .signatureFile h
  else if h : a = "-l" then .switch .list h
  else if h : a = "-y" then .switch .extract h
  else if h : a = "-p" then .switch .change h
  else if h : a = "-E" then .value .hash h
  else if h : a = "-Y" then .value .sshsigOp h
  else if h : a = "--allowed-signers" then .value .allowedSigners h
  else lateArm a

/-! ### The loop -/

def parseHash (v : String) : Option HashAlg :=
  match Text.toAsciiLowercase v with
  | "sha256" => some .sha256
  | "sha512" => some .sha512
  | _ => none

def setValue (st : Scan) (v : String) : ValueOption → Except AnvilError Scan
  | .keyType => .ok { st with p.keyType := some v }
  | .bits =>
    match Text.parseU32 v with
    | some n => .ok { st with p.bits := some n }
    | none => .error (.invalidConfig s!"-b requires an integer, got {Text.debugStr v}")
  | .file => .ok { st with p.file := some v }
  | .newPassphrase => .ok { st with p.newPassphrase := some v }
  | .oldPassphrase => .ok { st with p.oldPassphrase := some v }
  | .comment => .ok { st with p.comment := some v }
  | .nameSpace => .ok { st with p.nameSpace := some v }
  | .signerIdentity => .ok { st with p.signerIdentity := some v }
  | .signatureFile => .ok { st with p.signatureFile := some v }
  | .hash =>
    match parseHash v with
    | some alg => .ok { st with p.fingerprintHash := alg }
    | none =>
      .error (.invalidConfig
        s!"-E requires sha256 or sha512, got {Text.debugStr (Text.toAsciiLowercase v)}")
  | .sshsigOp => .ok { st with sshsigOp := some v }
  | .allowedSigners => .ok { st with p.allowedSigners := some v }

def setSwitch (st : Scan) : Switch → Scan
  | .list => { st with sawList := true }
  | .extract => { st with sawExtract := true }
  | .change => { st with sawChange := true }

def addPositional (st : Scan) (a : String) : Scan :=
  -- The first operand is the message; a later one stands in for a missing `-f`.
  if st.p.messageFile.isNone then { st with p.messageFile := some a }
  else if st.p.file.isNone then { st with p.file := some a }
  else st

def takeValue (flag : String) : List String → Except AnvilError (String × List String)
  | [] => .error (.invalidConfig s!"{flag} requires a value")
  | v :: rest => .ok (v, rest)

def stepArm (st : Scan) {a : String} (rest : List String) :
    Arm a → Except AnvilError (Argv.Flow Scan String)
  | .value opt _ => do
    let (v, rest') ← takeValue opt.flag rest
    let st' ← setValue st v opt
    return .next st' rest'
  | .switch sw _ => .ok (.next (setSwitch st sw) rest)
  | .packed .. => .ok (.next st rest)
  | .separated _ => do
    let (_, rest') ← takeValue "-O" rest
    return .next st rest'
  | .ignored .. => .ok (.next st rest)
  | .endOfOptions _ => .ok (.stop st)
  | .unsupported => .error (.invalidConfig s!"unsupported flag: {a}")
  | .positional _ => .ok (.next (addPositional st a) rest)

/-- One iteration, at the token `a` with `rest` behind it. -/
def step (st : Scan) (a : String) (rest : List String) :
    Except AnvilError (Argv.Flow Scan String) :=
  stepArm st rest (arm a)

def start : Scan where
  p := {
    mode := .generateKey, keyType := none, bits := none, file := none, newPassphrase := none,
    oldPassphrase := none, comment := none, nameSpace := none, signerIdentity := none,
    signatureFile := none, allowedSigners := none, fingerprintHash := .sha256, messageFile := none }
  sawList := false
  sawExtract := false
  sawChange := false
  sshsigOp := none

def parseOperation : String → Option Mode
  | "sign" => some .sshSigSign
  | "verify" => some .sshSigVerify
  | "check-novalidate" => some .sshSigCheckNoValidate
  | "find-principals" => some .sshSigFindPrincipals
  | _ => none

/-- The mode, chosen after the loop. -/
def finish (st : Scan) : Except AnvilError Parsed :=
  match st.sshsigOp with
  | some op =>
    match parseOperation op with
    | some mode => .ok { st.p with mode := mode }
    | none =>
      .error (.invalidConfig ("-Y requires sign|verify|check-novalidate|find-principals, got " ++
        Text.debugStr op))
  | none =>
    .ok { st.p with
      mode :=
        if st.sawList then .printFingerprint
        else if st.sawExtract then .extractPublic
        else if st.sawChange then .changePassphrase
        else .generateKey }

def fromArgs (args : List String) : Except AnvilError Parsed :=
  Argv.run step start args >>= finish

end Gitway.KeygenShim
