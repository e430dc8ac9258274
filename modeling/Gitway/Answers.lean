import Gitway.Envelopes
import Gitway.Lib.Logged
import Gitway.Touched

/-!
# What the commands print

With JSON asked for, a command prints one document when it succeeds, and nothing else, so
that standard output can be read by a program. Otherwise it prints no JSON at all. The
lemma of a command says this and what the command touches beside standard output.
-/
namespace Gitway

open Lib Lib.Fallible Program

variable {Ne Ag Va Te α κ : Type}

/-! ### Documents -/

/-- The version of the schema of a document, which is in its `metadata` where it has one. -/
def Json.schemaVersion (v : Json) : Option Json :=
  match v.get "metadata" with
  | some metadata => metadata.get "schema_version"
  | none => v.get "schema_version"

def Json.Versioned (v : Json) : Prop := v.schemaVersion = some (.str "1.0.0")

theorem versioned_envelope (env : Environment) (command name : String) (body : Json) :
    Json.Versioned (.obj [("metadata", metadataBlock env command), (name, body)]) := by
  simp [Json.Versioned, Json.schemaVersion, Json.get, metadataBlock]

theorem versioned_schemaJson : Discovery.schemaJson.Versioned := by
  simp [Json.Versioned, Json.schemaVersion, Json.get, Discovery.schemaJson]

theorem versioned_describeJson : Discovery.describeJson.Versioned := by
  simp [Json.Versioned, Json.schemaVersion, Json.get, Discovery.describeJson]

/-! ### Speech -/

/-- An outcome with what it leaves on standard output. Without a document only an error or
one of its own codes is told. -/
inductive Answered (own : κ → Prop) : Except AnvilError κ → List Emitted → Prop
  | failed (e : AnvilError) : Answered own (.error e) []
  | document (code : κ) (v : Json) (versioned : v.Versioned) : Answered own (.ok code) [.json v]
  | declined (code : κ) (declines : own code) : Answered own (.ok code) []

def Emitted.Plain : Emitted → Prop
  | .json _ => False
  | _ => True

def Speaks (own : κ → Prop) (mode : OutputMode) (r : Except AnvilError κ)
    (piece : List Emitted) : Prop :=
  match mode with
  | .json => Answered own r piece
  | .human => ∀ item ∈ piece, item.Plain

theorem speaks_failed (own : κ → Prop) (mode : OutputMode) (e : AnvilError) :
    Speaks own mode (.error e) [] := by
  cases mode with
  | json => exact Answered.failed e
  | human => simp [Speaks]

/-- The command touches standard output and these parts, and prints what it should. -/
structure Answers (own : Nat → Prop) (parts : List Part) (mode : OutputMode)
    (x : Program Ag Va Te Nat) : Prop where
  touches : Touches (.stdout :: parts) x
  speaks : Logs World.stdout (Speaks own mode) x

theorem Touches.quiet {parts : List Part} {x : Program Ag Va Te α} (touches : Touches parts x)
    (unlisted : .stdout ∉ parts) : Keeps World.stdout x := fun w => (touches w).stdout unlisted

section
variable {own : Nat → Prop} {parts parts' : List Part} {mode : OutputMode}

/-- The rule for a step that prints nothing. What follows may rely on what it returned. -/
theorem Answers.bind_of {P : α → Prop} {x : Program Ag Va Te α} {f : α → Program Ag Va Te Nat}
    (first : Touches parts' x) (listed : ∀ part ∈ parts', part ∈ parts)
    (quiet : .stdout ∉ parts') (returns : Returns P x)
    (rest : ∀ a, P a → Answers own parts mode (f a)) : Answers own parts mode (x >>= f) where
  touches := Moves.bind_of (first.widen fun part member =>
    List.mem_cons_of_mem _ (listed part member)) returns fun a holds => (rest a holds).touches
  speaks := Logs.bind_ends ⟨first.quiet quiet, returns⟩ (speaks_failed own mode)
    fun a holds => (rest a holds).speaks

theorem Answers.bind {x : Program Ag Va Te α} {f : α → Program Ag Va Te Nat}
    (first : Touches parts' x) (listed : ∀ part ∈ parts', part ∈ parts)
    (quiet : .stdout ∉ parts') (rest : ∀ a, Answers own parts mode (f a)) :
    Answers own parts mode (x >>= f) :=
  Answers.bind_of first listed quiet (fun _ _ _ _ => trivial : Returns (fun _ => True) x)
    fun a _ => rest a

theorem Answers.widen {x : Program Ag Va Te Nat} (answers : Answers own parts mode x)
    (listed : ∀ part ∈ parts, part ∈ parts') : Answers own parts' mode x where
  touches := answers.touches.widen fun part member => by
    rcases List.mem_cons.mp member with rfl | more
    · exact List.mem_cons_self
    · exact List.mem_cons_of_mem _ (listed part more)
  speaks := answers.speaks

theorem Answers.query {f : World Ag Va Te → Except AnvilError α}
    {g : α → Program Ag Va Te Nat} (rest : ∀ a, Answers own parts mode (g a)) :
    Answers own parts mode (Fallible.query f >>= g) :=
  Answers.bind (Moves.query f : Touches [] _) (by simp) (by simp) rest

theorem Answers.eprintln {s : String} {f : Unit → Program Ag Va Te Nat}
    (listed : .stderr ∈ parts) (rest : Answers own parts mode (f ())) :
    Answers own parts mode (Program.eprintln s >>= f) :=
  Answers.bind (touches_eprintln (List.mem_singleton.mpr rfl) s) (by simpa using listed) (by decide)
    fun _ => rest

theorem Answers.onAgent {op : Ag → Except AnvilError α × Ag} {f : α → Program Ag Va Te Nat}
    (listed : .agent ∈ parts) (rest : ∀ a, Answers own parts mode (f a)) :
    Answers own parts mode (Program.onAgent op >>= f) :=
  Answers.bind (touches_onAgent (List.mem_singleton.mpr rfl) op) (by simpa using listed) (by decide) rest

theorem Answers.onFiles {op : FileSystem → Except AnvilError α × FileSystem}
    {f : α → Program Ag Va Te Nat} (listed : .files ∈ parts)
    (rest : ∀ a, Answers own parts mode (f a)) :
    Answers own parts mode (Program.onFiles op >>= f) :=
  Answers.bind (touches_onFiles (List.mem_singleton.mpr rfl) op) (by simpa using listed) (by decide) rest

theorem Answers.onVault {op : Va → Except BiometricError α × Va}
    {f : Except BiometricError α → Program Ag Va Te Nat} (listed : .vault ∈ parts)
    (rest : ∀ a, Answers own parts mode (f a)) :
    Answers own parts mode (Program.onVault op >>= f) :=
  Answers.bind (touches_onVault (List.mem_singleton.mpr rfl) op) (by simpa using listed) (by decide) rest

theorem Answers.declined {code : Nat} (declines : own code) :
    Answers own parts mode (pure code : Program Ag Va Te Nat) where
  touches := Moves.pure code
  speaks := Logs.pure <| by
    cases mode with
    | json => exact Answered.declined code declines
    | human => simp [Speaks]

theorem Answers.fail (e : AnvilError) :
    Answers own parts mode (Fallible.fail e : Program Ag Va Te Nat) where
  touches := Moves.fail e
  speaks := Logs.fail (speaks_failed own mode e)

/-- A command that ends with a document. -/
theorem Answers.emit {v : Json} (versioned : v.Versioned) (code : Nat) :
    Answers own parts .json (emitJson v >>= fun _ => pure code : Program Ag Va Te Nat) where
  touches := Moves.bind (touches_emitJson List.mem_cons_self v) fun _ => Moves.pure code
  speaks _ := ⟨[.json v], rfl, Answered.document code v versioned⟩

theorem Answers.envelope (command name : String) (body : Json) (code : Nat) :
    Answers own parts .json (environment >>= fun env =>
      emitJson (.obj [("metadata", metadataBlock env command), (name, body)]) >>= fun _ =>
        pure code : Program Ag Va Te Nat) :=
  Answers.query fun _ => Answers.emit (versioned_envelope _ command name body) code

/-- What is written for a human is written line by line. -/
abbrev Wordy (x : Program Ag Va Te α) : Prop := Writes World.stdout Emitted.Plain x

theorem wordy_println (s : String) : Wordy (println s : Program Ag Va Te Unit) := by
  intro w
  exact ⟨[.line s], rfl, by simp [Emitted.Plain]⟩

theorem wordy_eprintln (s : String) : Wordy (eprintln s : Program Ag Va Te Unit) :=
  Writes.of_keeps fun _ => rfl

/-- A command that ends with words. -/
theorem Answers.words {x : Program Ag Va Te PUnit} (touches : Touches (.stdout :: parts) x)
    (wordy : Wordy x) (code : Nat) :
    Answers own parts .human (x >>= fun _ => pure code : Program Ag Va Te Nat) where
  touches := Moves.bind touches fun _ => Moves.pure code
  speaks := Writes.bind wordy fun _ => Writes.pure code

/-- One more line in front of those that follow. -/
theorem Answers.word (s : String) {f : Unit → Program Ag Va Te Nat}
    (rest : Answers own parts .human (f ())) :
    Answers own parts .human (Program.println s >>= f) where
  touches := Moves.bind (touches_println List.mem_cons_self s) fun _ => rest.touches
  speaks := Writes.bind (wordy_println s) fun _ => rest.speaks

theorem Answers.println (s : String) (code : Nat) :
    Answers own parts .human (Program.println s >>= fun _ => pure code : Program Ag Va Te Nat) :=
  Answers.words (touches_println List.mem_cons_self s) (wordy_println s) code

theorem Answers.printAll {β : Type} (f : β → String) (xs : List β) (code : Nat) :
    Answers own parts .human ((xs.forM fun x => Program.println (f x)) >>= fun _ => pure code :
      Program Ag Va Te Nat) :=
  Answers.words (Moves.forM (fun x => touches_println List.mem_cons_self (f x)) xs)
    (Writes.forM (fun x => wordy_println (f x)) xs) code

/-- A command that ends with messages. -/
theorem Answers.messages {x : Program Ag Va Te PUnit} (touches : Touches [.stderr] x)
    (listed : .stderr ∈ parts) (code : Nat) :
    Answers own parts .human (x >>= fun _ => pure code : Program Ag Va Te Nat) :=
  Answers.words (touches.widen (by simpa using listed))
    (Writes.of_keeps (touches.quiet (by decide))) code

theorem Answers.message (s : String) (listed : .stderr ∈ parts) (code : Nat) :
    Answers own parts .human
      (Program.eprintln s >>= fun _ => pure code : Program Ag Va Te Nat) :=
  Answers.messages (touches_eprintln (List.mem_singleton.mpr rfl) s) listed code

theorem touches_eprintAll {β : Type} (f : β → String) (xs : List β) :
    Touches [.stderr] (xs.forM fun x => Program.eprintln (f x) : Program Ag Va Te PUnit) :=
  Moves.forM (fun x => touches_eprintln List.mem_cons_self (f x)) xs

end

end Gitway
