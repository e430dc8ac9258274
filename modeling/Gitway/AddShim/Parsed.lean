import Gitway.Agent.Add
import Gitway.Lib.Argv

/-!
# The argument parser of `gitway-add`

The loop of `Parsed::from_args` fills a slot for the mode and a list of paths, each
without regard to the other. They are joined after the loop: a list of paths is the
operand of the default mode, and the other modes bring their own.
-/
namespace Gitway.AddShim

open Lib

/-! ### What is parsed -/

inductive Mode where
  | list (full : Bool)
  | removeOne (path : String)
  | removeAll
  | lock
  | unlock
  | add (paths : List String)
  deriving DecidableEq, Repr

structure Parsed where
  mode : Mode
  hash : HashAlg
  lifetime : Option Nat
  confirm : Bool
  biometric : Bool
  noBiometric : Bool

/-- The local variables of the loop. -/
structure Scan where
  hash : HashAlg
  lifetime : Option Nat
  confirm : Bool
  biometric : Bool
  noBiometric : Bool
  mode : Option Mode
  paths : List String

def start : Scan where
  hash := .sha256
  lifetime := none
  confirm := false
  biometric := false
  noBiometric := false
  mode := none
  paths := []

/-! ### Tokens -/

/-- The flags that select a mode on their own. -/
inductive Selector where
  | list
  | listFull
  | removeAll
  | lock
  | unlock
  deriving DecidableEq, Repr

def Selector.flag : Selector → String
  | .list => "-l"
  | .listFull => "-L"
  | .removeAll => "-D"
  | .lock => "-x"
  | .unlock => "-X"

def Selector.mode : Selector → Mode
  | .list => .list false
  | .listFull => .list true
  | .removeAll => .removeAll
  | .lock => .lock
  | .unlock => .unlock

inductive Toggle where
  | confirm
  | biometric
  | noBiometric
  deriving DecidableEq, Repr

def Toggle.flag : Toggle → String
  | .confirm => "-c"
  | .biometric => "--biometric"
  | .noBiometric => "--no-biometric"

/-- The options that take a value. -/
inductive ValueOption where
  | remove
  | lifetime
  | hash
  deriving DecidableEq, Repr

def ValueOption.flag : ValueOption → String
  | .remove => "-d"
  | .lifetime => "-t"
  | .hash => "-E"

/-- Flags of `ssh-add` that are accepted and ignored. -/
def ignoredFlags : List String := ["-q", "-v", "-vv", "-vvv", "-H", "-T", "-s", "-S", "-e", "-k"]

/-- The arm of the loop that a token is handled by. -/
inductive Arm (a : String) where
  | selector (sel : Selector) (spelled : a = sel.flag)
  | toggle (t : Toggle) (spelled : a = t.flag)
  | value (opt : ValueOption) (spelled : a = opt.flag)
  | ignored (listed : a ∈ ignoredFlags)
  | endOfOptions (spelled : a = "--")
  | unsupported
  | positional (plain : Text.startsWith a "-" = false)

theorem not_dashed {a : String} (h : ¬ Text.startsWith a "-" = true) :
    Text.startsWith a "-" = false := by
  simpa using h

def arm (a : String) : Arm a :=
  if h : a = "-l" then .selector .list h
  else if h : a = "-L" then .selector .listFull h
  else if h : a = "-D" then .selector .removeAll h
  else if h : a = "-x" then .selector .lock h
  else if h : a = "-X" then .selector .unlock h
  else if h : a = "-c" then .toggle .confirm h
  else if h : a = "--biometric" then .toggle .biometric h
  else if h : a = "--no-biometric" then .toggle .noBiometric h
  else if h : a = "-d" then .value .remove h
  else if h : a = "-t" then .value .lifetime h
  else if h : a = "-E" then .value .hash h
  else if h : a ∈ ignoredFlags then .ignored h
  else if h : a = "--" then .endOfOptions h
  else if h : Text.startsWith a "-" = true then .unsupported
  else .positional (not_dashed h)

/-! ### The loop -/

def parseLifetime (secs : String) : Except AnvilError Nat :=
  match Text.parseU64 secs with
  | some n => .ok n
  | none =>
    .error (.invalidConfig s!"-t requires an integer number of seconds, got {Text.debugStr secs}")

def parseHash (value : String) : Except AnvilError HashAlg :=
  match Text.toAsciiLowercase value with
  | "sha256" => .ok .sha256
  | "sha512" => .ok .sha512
  | other => .error (.invalidConfig s!"-E requires sha256 or sha512, got {Text.debugStr other}")

def setMode (slot : Option Mode) (new : Mode) (flag : String) : Except AnvilError (Option Mode) :=
  if slot.isSome then .error (.invalidConfig s!"{flag} conflicts with a previous mode flag")
  else .ok (some new)

def take (flag : String) : List String → Except AnvilError (String × List String)
  | [] => .error (.invalidConfig s!"{flag} requires a value")
  | v :: rest => .ok (v, rest)

def setToggle (st : Scan) : Toggle → Scan
  | .confirm => { st with confirm := true }
  | .biometric => { st with biometric := true }
  | .noBiometric => { st with noBiometric := true }

def setValue (st : Scan) (v : String) : ValueOption → Except AnvilError Scan
  | .remove => do return { st with mode := ← setMode st.mode (.removeOne v) "-d" }
  | .lifetime => do return { st with lifetime := some (← parseLifetime v) }
  | .hash => do return { st with hash := ← parseHash v }

def stepArm (st : Scan) {a : String} (rest : List String) :
    Arm a → Except AnvilError (Argv.Flow Scan String)
  | .selector sel _ => do
    let mode ← setMode st.mode sel.mode sel.flag
    return .next { st with mode := mode } rest
  | .toggle t _ => .ok (.next (setToggle st t) rest)
  | .value opt _ => do
    let (v, rest') ← take opt.flag rest
    let st' ← setValue st v opt
    return .next st' rest'
  | .ignored _ => .ok (.next st rest)
  -- Everything after `--` is a positional path.
  | .endOfOptions _ => .ok (.stop { st with paths := st.paths ++ rest })
  | .unsupported => .error (.invalidConfig s!"unsupported flag: {a}")
  | .positional _ => .ok (.next { st with paths := st.paths ++ [a] } rest)

/-- One iteration, at the token `a` with `rest` behind it. -/
def step (st : Scan) (a : String) (rest : List String) :
    Except AnvilError (Argv.Flow Scan String) :=
  stepArm st rest (arm a)

variable {Ag Va Te : Type}

/-- The mode, chosen after the loop: without a flag for it, the paths are added. -/
def chooseMode (st : Scan) : Program Ag Va Te Mode :=
  match st.mode with
  | some mode => pure mode
  | none =>
    if st.paths.isEmpty then do
      let paths ← Agent.defaultKeyPaths
      return .add paths
    else pure (.add st.paths)

def finish (st : Scan) : Program Ag Va Te Parsed := do
  let mode ← chooseMode st
  if st.biometric && st.noBiometric then
    Fallible.fail (.invalidConfig "--biometric conflicts with --no-biometric")
  else
    return {
      mode := mode, hash := st.hash, lifetime := st.lifetime, confirm := st.confirm,
      biometric := st.biometric, noBiometric := st.noBiometric }

def fromArgs (args : List String) : Program Ag Va Te Parsed := do
  let st ← Fallible.query fun _ => Argv.run step start args
  finish st

end Gitway.AddShim
