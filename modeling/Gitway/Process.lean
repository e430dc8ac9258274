import Gitway.Config.Resolved

/-!
# What a process holds

The commands that open a session or report in a form of their own run in more than a
`World`: there is the network, and what is reported on standard error as a whole record is
kept apart from the plain messages.
-/
namespace Gitway

open Lib

/-- A call whose place in a run matters. -/
inductive SessionCall where
  | connected
  | prompted (path : String)
  deriving DecidableEq, Repr

/-- A record on standard error. -/
inductive Report where
  | json (v : Json)
  /-- The `gitway diag` line of an error, with the `ssh_config` files it attributes it to. -/
  | diag (e : AnvilError) (configSources : List Config.OsPath)

structure Process (Ne Ag Va Te : Type) where
  world : World Ag Va Te
  net : Ne
  /-- The calls made so far. -/
  calls : List SessionCall
  reports : List Report

/-- Lines for the two standard streams. -/
def Process.say {Ne Ag Va Te : Type} (p : Process Ne Ag Va Te) (out messages : List String) :
    Process Ne Ag Va Te :=
  { p with world := { p.world with
      stdout := p.world.stdout ++ out.map .line
      stderr := p.world.stderr ++ messages } }

/-- What the relay of a remote command leaves: the network, what it did not take of standard
input, and what it wrote to the standard streams. -/
structure Relayed (Ne : Type) where
  net : Ne
  stdin : Except IoError ByteArray
  stdout : ByteArray
  stderr : List String

abbrev Command (Ne Ag Va Te α : Type) : Type := Fallible (Process Ne Ag Va Te) AnvilError α

namespace Command

variable {Ne Ag Va Te α β : Type}

/-- A program that needs no more than a world. -/
def onWorld (x : Program Ag Va Te α) : Command Ne Ag Va Te α :=
  Fallible.within Process.world (fun w p => { p with world := w }) x

def onNetwork (op : Ne → Except AnvilError α × Ne) : Command Ne Ag Va Te α :=
  Fallible.within Process.net (fun net p => { p with net := net }) op

/-- An operation on the network that also has the files. -/
def onConnection (op : FileSystem × Ne → Except AnvilError α × FileSystem × Ne) :
    Command Ne Ag Va Te α :=
  Fallible.within (fun p => (p.world.fs, p.net))
    (fun s p => { p with world := { p.world with fs := s.1 }, net := s.2 }) op

/-- An operation on the network that also has the standard streams. -/
def relay (op : Except IoError ByteArray → Ne → Except AnvilError α × Relayed Ne) :
    Command Ne Ag Va Te α := fun p =>
  let relayed := (op p.world.stdin p.net).2
  ((op p.world.stdin p.net).1, { p with
    world := { p.world with
      stdin := relayed.stdin
      stdout := p.world.stdout ++ [.bytes relayed.stdout]
      stderr := p.world.stderr ++ relayed.stderr }
    net := relayed.net })

def record (call : SessionCall) : Command Ne Ag Va Te Unit :=
  Fallible.update fun p => { p with calls := p.calls ++ [call] }

def report (r : Report) : Command Ne Ag Va Te Unit :=
  Fallible.update fun p => { p with reports := p.reports ++ [r] }

def eprintln (s : String) : Command Ne Ag Va Te Unit := onWorld (Program.eprintln s)

/-- A message that only a human is told. -/
def tellHuman (mode : OutputMode) (s : String) : Command Ne Ag Va Te Unit :=
  if mode = .human then eprintln s else pure ()

section
variable (p : Process Ne Ag Va Te)

@[simp] theorem onWorld_run (x : Program Ag Va Te α) :
    (onWorld x : Command Ne Ag Va Te α) p =
      ((x p.world).1, { p with world := (x p.world).2 }) := rfl

@[simp] theorem onNetwork_run (op : Ne → Except AnvilError α × Ne) :
    (onNetwork op : Command Ne Ag Va Te α) p = ((op p.net).1, { p with net := (op p.net).2 }) :=
  rfl

@[simp] theorem onConnection_run (op : FileSystem × Ne → Except AnvilError α × FileSystem × Ne) :
    (onConnection op : Command Ne Ag Va Te α) p =
      ((op (p.world.fs, p.net)).1, { p with
        world := { p.world with fs := (op (p.world.fs, p.net)).2.1 },
        net := (op (p.world.fs, p.net)).2.2 }) := rfl

@[simp] theorem record_run (call : SessionCall) :
    record call p = (.ok (), { p with calls := p.calls ++ [call] }) := rfl

@[simp] theorem report_run (r : Report) :
    report r p = (.ok (), { p with reports := p.reports ++ [r] }) := rfl

@[simp] theorem eprintln_run (s : String) :
    eprintln s p =
      (.ok (), { p with world := { p.world with stderr := p.world.stderr ++ [s] } }) := rfl

/-- Telling a human changes nothing but the messages. -/
theorem tellHuman_run (mode : OutputMode) (s : String) :
    ∃ stderr, tellHuman mode s p =
      (.ok (), { p with world := { p.world with stderr := stderr } }) := by
  cases mode with
  | human => exact ⟨_, rfl⟩
  | json => exact ⟨p.world.stderr, rfl⟩

/-- A program yields in a process what it yields in its world. -/
theorem yields_onWorld_iff {P : α → Prop} (x : Program Ag Va Te α) :
    Fallible.Yields P (onWorld x : Command Ne Ag Va Te α) p ↔ Fallible.Yields P x p.world := by
  constructor
  · rintro ⟨a, q, ran, holds⟩
    simp only [onWorld_run, Prod.mk.injEq] at ran
    exact ⟨a, (x p.world).2, Prod.ext ran.1 rfl, holds⟩
  · rintro ⟨a, v, ran, holds⟩
    exact ⟨a, { p with world := v }, by rw [onWorld_run, ran], holds⟩

end

end Command

end Gitway
