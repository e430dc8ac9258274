import Gitway.Lib.Moves
import Gitway.Prompt
import Gitway.Process

/-!
# The parts of a process

A command is told apart by what it may change: `Touches parts` says of a program that it
leaves every part but those listed as it was, on every outcome.
-/
namespace Gitway

open Lib

inductive Part where
  | env
  | files
  | agent
  | vault
  | terminal
  | stdin
  | stdout
  | stderr
  | signals
  | network
  | calls
  | reports
  deriving DecidableEq, Repr

variable {Ne Ag Va Te α β ε : Type}

/-- The two worlds differ at most in these parts. -/
structure World.SameBut (parts : List Part) (w w' : World Ag Va Te) : Prop where
  env : .env ∉ parts → w'.env = w.env
  files : .files ∉ parts → w'.fs = w.fs
  agent : .agent ∉ parts → w'.agent = w.agent
  vault : .vault ∉ parts → w'.vault = w.vault
  terminal : .terminal ∉ parts → w'.terminal = w.terminal
  stdin : .stdin ∉ parts → w'.stdin = w.stdin
  stdout : .stdout ∉ parts → w'.stdout = w.stdout
  stderr : .stderr ∉ parts → w'.stderr = w.stderr
  signals : .signals ∉ parts → w'.signals = w.signals

/-- The two processes differ at most in these parts. -/
structure Process.SameBut (parts : List Part) (p p' : Process Ne Ag Va Te) : Prop where
  world : World.SameBut parts p.world p'.world
  network : .network ∉ parts → p'.net = p.net
  calls : .calls ∉ parts → p'.calls = p.calls
  reports : .reports ∉ parts → p'.reports = p.reports

theorem World.SameBut.refl (parts : List Part) (w : World Ag Va Te) : w.SameBut parts w :=
  ⟨fun _ => rfl, fun _ => rfl, fun _ => rfl, fun _ => rfl, fun _ => rfl, fun _ => rfl,
    fun _ => rfl, fun _ => rfl, fun _ => rfl⟩

theorem World.SameBut.trans {parts : List Part} {u v w : World Ag Va Te}
    (first : u.SameBut parts v) (second : v.SameBut parts w) : u.SameBut parts w where
  env other := (second.env other).trans (first.env other)
  files other := (second.files other).trans (first.files other)
  agent other := (second.agent other).trans (first.agent other)
  vault other := (second.vault other).trans (first.vault other)
  terminal other := (second.terminal other).trans (first.terminal other)
  stdin other := (second.stdin other).trans (first.stdin other)
  stdout other := (second.stdout other).trans (first.stdout other)
  stderr other := (second.stderr other).trans (first.stderr other)
  signals other := (second.signals other).trans (first.signals other)

theorem World.SameBut.widen {parts parts' : List Part} {w w' : World Ag Va Te}
    (same : w.SameBut parts w') (more : ∀ part ∈ parts, part ∈ parts') : w.SameBut parts' w' where
  env other := same.env fun listed => other (more _ listed)
  files other := same.files fun listed => other (more _ listed)
  agent other := same.agent fun listed => other (more _ listed)
  vault other := same.vault fun listed => other (more _ listed)
  terminal other := same.terminal fun listed => other (more _ listed)
  stdin other := same.stdin fun listed => other (more _ listed)
  stdout other := same.stdout fun listed => other (more _ listed)
  stderr other := same.stderr fun listed => other (more _ listed)
  signals other := same.signals fun listed => other (more _ listed)

instance (parts : List Part) : IsPreorder (World Ag Va Te) (World.SameBut parts) where
  refl := World.SameBut.refl parts
  trans _ _ _ := World.SameBut.trans

theorem Process.SameBut.trans {parts : List Part} {p q r : Process Ne Ag Va Te}
    (first : p.SameBut parts q) (second : q.SameBut parts r) : p.SameBut parts r where
  world := first.world.trans second.world
  network other := (second.network other).trans (first.network other)
  calls other := (second.calls other).trans (first.calls other)
  reports other := (second.reports other).trans (first.reports other)

theorem Process.SameBut.widen {parts parts' : List Part} {p p' : Process Ne Ag Va Te}
    (same : p.SameBut parts p') (more : ∀ part ∈ parts, part ∈ parts') : p.SameBut parts' p' where
  world := same.world.widen more
  network other := same.network fun listed => other (more _ listed)
  calls other := same.calls fun listed => other (more _ listed)
  reports other := same.reports fun listed => other (more _ listed)

instance (parts : List Part) : IsPreorder (Process Ne Ag Va Te) (Process.SameBut parts) where
  refl p := ⟨World.SameBut.refl parts p.world, fun _ => rfl, fun _ => rfl, fun _ => rfl⟩
  trans _ _ _ := Process.SameBut.trans

theorem Process.sameBut_say {parts : List Part} {out : List String}
    (stdout : .stdout ∈ parts ∨ out = []) (stderr : .stderr ∈ parts) (p : Process Ne Ag Va Te)
    (messages : List String) : p.SameBut parts (p.say out messages) :=
  { Std.Refl.refl (r := Process.SameBut parts) p with
    world := { World.SameBut.refl parts p.world with
      stdout := by
        rcases stdout with listed | rfl
        · exact fun other => absurd listed other
        · simp [Process.say]
      stderr := fun other => absurd stderr other } }

/-! ### Programs -/

abbrev Touches (parts : List Part) (x : Program Ag Va Te α) : Prop :=
  Fallible.Moves (World.SameBut parts) x

theorem Touches.widen {parts parts' : List Part} {x : Program Ag Va Te α}
    (touches : Touches parts x) (more : ∀ part ∈ parts, part ∈ parts') : Touches parts' x :=
  Fallible.Moves.mono touches fun _ _ same => same.widen more

namespace Program

variable {parts : List Part}

theorem touches_println (listed : .stdout ∈ parts) (s : String) :
    Touches parts (println s : Program Ag Va Te Unit) := fun w =>
  { World.SameBut.refl parts w with stdout := fun other => absurd listed other }

theorem touches_emitJson (listed : .stdout ∈ parts) (v : Json) :
    Touches parts (emitJson v : Program Ag Va Te Unit) := fun w =>
  { World.SameBut.refl parts w with stdout := fun other => absurd listed other }

theorem touches_writeStdout (listed : .stdout ∈ parts) (bytes : ByteArray) :
    Touches parts (writeStdout bytes : Program Ag Va Te Unit) := fun w =>
  { World.SameBut.refl parts w with stdout := fun other => absurd listed other }

theorem touches_eprintln (listed : .stderr ∈ parts) (s : String) :
    Touches parts (eprintln s : Program Ag Va Te Unit) := fun w =>
  { World.SameBut.refl parts w with stderr := fun other => absurd listed other }

theorem touches_onAgent (listed : .agent ∈ parts) (op : Ag → Except AnvilError α × Ag) :
    Touches parts (onAgent op : Program Ag Va Te α) := fun w =>
  { World.SameBut.refl parts w with agent := fun other => absurd listed other }

theorem touches_onFiles (listed : .files ∈ parts)
    (op : FileSystem → Except AnvilError α × FileSystem) :
    Touches parts (onFiles op : Program Ag Va Te α) := fun w =>
  { World.SameBut.refl parts w with files := fun other => absurd listed other }

theorem touches_onVault (listed : .vault ∈ parts) (op : Va → Except BiometricError α × Va) :
    Touches parts (onVault op : Program Ag Va Te (Except BiometricError α)) := fun w =>
  { World.SameBut.refl parts w with vault := fun other => absurd listed other }

theorem touches_onTerminal (listed : .terminal ∈ parts) (op : Te → Except ε α × Te) :
    Touches parts (onTerminal op : Program Ag Va Te (Except ε α)) := fun w =>
  { World.SameBut.refl parts w with terminal := fun other => absurd listed other }

theorem touches_writeFile (listed : .files ∈ parts) (path : String) (bytes : ByteArray) :
    Touches parts (writeFile path bytes : Program Ag Va Te Unit) := by
  intro w
  unfold writeFile
  split
  · exact World.SameBut.refl parts w
  · exact { World.SameBut.refl parts w with files := fun other => absurd listed other }

end Program

/-! ### Commands -/

namespace Command

abbrev Touches (parts : List Part) (x : Command Ne Ag Va Te α) : Prop :=
  Fallible.Moves (Process.SameBut parts) x

theorem Touches.widen {parts parts' : List Part} {x : Command Ne Ag Va Te α}
    (touches : Touches parts x) (more : ∀ part ∈ parts, part ∈ parts') : Touches parts' x :=
  Fallible.Moves.mono touches fun _ _ same => same.widen more

variable {parts : List Part}

theorem touches_onWorld {x : Program Ag Va Te α} (touches : Gitway.Touches parts x) :
    Touches parts (onWorld x : Command Ne Ag Va Te α) := fun p =>
  ⟨touches p.world, fun _ => rfl, fun _ => rfl, fun _ => rfl⟩

theorem touches_onNetwork (listed : .network ∈ parts) (op : Ne → Except AnvilError α × Ne) :
    Touches parts (onNetwork op : Command Ne Ag Va Te α) := fun p =>
  { Std.Refl.refl (r := Process.SameBut parts) p with network := fun other => absurd listed other }

theorem touches_onConnection (files : .files ∈ parts) (network : .network ∈ parts)
    (op : FileSystem × Ne → Except AnvilError α × FileSystem × Ne) :
    Touches parts (onConnection op : Command Ne Ag Va Te α) := fun p =>
  { Std.Refl.refl (r := Process.SameBut parts) p with
    world := { World.SameBut.refl parts p.world with files := fun other => absurd files other }
    network := fun other => absurd network other }

theorem touches_relay (listed : ∀ part ∈ [Part.network, .stdin, .stdout, .stderr], part ∈ parts)
    (op : Except IoError ByteArray → Ne → Except AnvilError α × Relayed Ne) :
    Touches parts (relay op : Command Ne Ag Va Te α) := fun p =>
  { Std.Refl.refl (r := Process.SameBut parts) p with
    world := { World.SameBut.refl parts p.world with
      stdin := fun other => absurd (listed .stdin (by decide)) other
      stdout := fun other => absurd (listed .stdout (by decide)) other
      stderr := fun other => absurd (listed .stderr (by decide)) other }
    network := fun other => absurd (listed .network (by decide)) other }

theorem touches_record (listed : .calls ∈ parts) (call : SessionCall) :
    Touches parts (record call : Command Ne Ag Va Te Unit) := fun p =>
  { Std.Refl.refl (r := Process.SameBut parts) p with calls := fun other => absurd listed other }

theorem touches_report (listed : .reports ∈ parts) (r : Report) :
    Touches parts (report r : Command Ne Ag Va Te Unit) := fun p =>
  { Std.Refl.refl (r := Process.SameBut parts) p with reports := fun other => absurd listed other }

theorem touches_tellHuman (listed : .stderr ∈ parts) (mode : OutputMode) (s : String) :
    Touches parts (tellHuman mode s : Command Ne Ag Va Te Unit) := by
  unfold tellHuman
  split
  · exact touches_onWorld (Program.touches_eprintln listed s)
  · exact Fallible.Moves.pure ()

end Command

end Gitway
