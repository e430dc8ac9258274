import Gitway.Main

/-!
# Error envelopes

What counts as the report of a failure, and that no command writes one of its own: only the
end of `main` does. All commands but four return no code but zero.
-/
namespace Gitway

open Lib

/-! ### Reports of a failure -/

/-- `serde_json::Value::get`. -/
def Json.get (v : Json) (name : String) : Option Json :=
  match v with
  | .obj fields => (fields.find? fun f => f.1 == name).map (·.2)
  | _ => none

/-- The exit code in an error envelope, where the value is one that is complete. -/
def Json.errorEnvelope (v : Json) : Option Int :=
  match v.get "metadata", v.get "error" with
  | some _, some error =>
    match error.get "code", error.get "exit_code", error.get "message", error.get "hint" with
    | some _, some (.num exitCode), some _, some _ => some exitCode
    | _, _, _, _ => none
  | _, _ => none

def Emitted.errorEnvelope : Emitted → Option Int
  | .json v => v.errorEnvelope
  | _ => none

def Report.errorEnvelope : Report → Option Int
  | .json v => v.errorEnvelope
  | .diag _ _ => none

def Report.isDiag : Report → Bool
  | .json _ => false
  | .diag _ _ => true

/-- The error envelopes on standard output, by their exit codes. -/
def World.envelopes {Ag Va Te : Type} (w : World Ag Va Te) : List Int :=
  w.stdout.filterMap Emitted.errorEnvelope

variable {Ne Ag Va Te α : Type}

/-- The error envelopes on both streams, by their exit codes. -/
def Process.envelopes (p : Process Ne Ag Va Te) : List Int :=
  p.world.envelopes ++ p.reports.filterMap Report.errorEnvelope

def Process.diagLines (p : Process Ne Ag Va Te) : Nat := p.reports.countP Report.isDiag

/-- All that reports a failure. -/
def Process.failures (p : Process Ne Ag Va Te) : List Int × Nat := (p.envelopes, p.diagLines)

/-- A success envelope is no error envelope. -/
@[simp] theorem errorEnvelope_data (metadata data : Json) :
    Json.errorEnvelope (.obj [("metadata", metadata), ("data", data)]) = none := by
  simp [Json.errorEnvelope, Json.get]

/-- The envelope of a keystore error has neither a code nor a hint. -/
@[simp] theorem errorEnvelope_brief (metadata exitCode message : Json) :
    Json.errorEnvelope (.obj [("metadata", metadata),
      ("error", .obj [("exit_code", exitCode), ("message", message)])]) = none := by
  simp [Json.errorEnvelope, Json.get]

theorem errorEnvelope_errorJson (An : Type) [Config.Anvil An] (env : Environment)
    (invocation : String) (e : AnvilError) :
    (errorJson An env invocation e).errorEnvelope = some ((exitCode An e).toNat : Int) := by
  simp [errorJson, Json.errorEnvelope, Json.get, exitCode]

theorem errorEnvelope_schemaJson : Discovery.schemaJson.errorEnvelope = none := by
  simp [Discovery.schemaJson, Json.errorEnvelope, Json.get]

theorem errorEnvelope_describeJson : Discovery.describeJson.errorEnvelope = none := by
  simp [Discovery.describeJson, Json.errorEnvelope, Json.get]

/-! ### Steps that write none -/

namespace Program

theorem backstage_envelopes : Backstage (World.envelopes : World Ag Va Te → List Int) :=
  ⟨⟨fun _ _ => rfl, fun _ _ => rfl⟩, fun _ _ => rfl, fun _ _ => rfl⟩

abbrev Mild (x : Program Ag Va Te α) : Prop := Fallible.Keeps World.envelopes x

theorem mild_emitted (item : Emitted) (harmless : item.errorEnvelope = none) :
    Mild (Fallible.update fun w => { w with stdout := w.stdout ++ [item] } :
      Program Ag Va Te Unit) := by
  intro w
  simp [World.envelopes, harmless]

theorem mild_println (s : String) : Mild (println s : Program Ag Va Te Unit) :=
  mild_emitted (.line s) rfl

theorem mild_writeStdout (bytes : ByteArray) : Mild (writeStdout bytes : Program Ag Va Te Unit) :=
  mild_emitted (.bytes bytes) rfl

theorem mild_emitJson {v : Json} (harmless : v.errorEnvelope = none) :
    Mild (emitJson v : Program Ag Va Te Unit) :=
  mild_emitted (.json v) harmless

/-- Emit a success envelope. -/
theorem mild_emitData (command : String) (data : Json) :
    Mild (environment >>= fun env =>
      emitJson (.obj [("metadata", metadataBlock env command), ("data", data)]) :
        Program Ag Va Te Unit) :=
  Fallible.Keeps.bind (Fallible.Keeps.query _) fun _ => mild_emitJson (errorEnvelope_data _ _)

theorem mild_eprintln (s : String) : Mild (eprintln s : Program Ag Va Te Unit) :=
  backstage_envelopes.keeps_eprintln s

theorem mild_onAgent (op : Ag → Except AnvilError α × Ag) :
    Mild (onAgent op : Program Ag Va Te α) := fun _ => rfl

theorem mild_onFiles (op : FileSystem → Except AnvilError α × FileSystem) :
    Mild (onFiles op : Program Ag Va Te α) := fun _ => rfl

theorem mild_onVault (op : Va → Except BiometricError α × Va) :
    Mild (onVault op : Program Ag Va Te (Except BiometricError α)) :=
  backstage_envelopes.keeps_onVault op

theorem mild_promptPassword [Terminal Te] (prompt : String) :
    Mild (promptPassword prompt : Program Ag Va Te (Except IoError String)) :=
  backstage_envelopes.keeps_onTerminal _

theorem mild_writeFile (path : String) (bytes : ByteArray) :
    Mild (writeFile path bytes : Program Ag Va Te Unit) := by
  intro w
  unfold writeFile
  split <;> rfl

end Program

end Gitway
