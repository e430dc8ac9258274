import Gitway.Agent.Stop
import Mathlib.Logic.Function.Basic

/-!
# `gitway agent stop --pid-file`

`SSH_AGENT_PID` is looked at before a pid file that the command line names. The
variable stays without effect when it denotes the process that the file records,
and only then.
-/
namespace Gitway.Agent

open Lib

variable {Ag Va Te : Type}

/-- The process id that a pid file records, or the error of reading it. -/
def filePid (path : String) (fs : FileSystem) : Except AnvilError Int :=
  match fs.readToString path with
  | .error e => .error (.io e)
  | .ok contents =>
    match Text.parseI32 (Text.trim contents) with
    | some pid => .ok pid
    | none => .error (.invalidConfig s!"pid file {path} does not contain a valid integer")

/-- The process id that `SSH_AGENT_PID` denotes, or the error of reading it. -/
def variablePid (env : Environment) : Option (Except AnvilError Int) :=
  (env.var "SSH_AGENT_PID").map fun s =>
    match Text.parseI32 (Text.trim s) with
    | some pid => .ok pid
    | none => .error (.invalidConfig s!"SSH_AGENT_PID is not an integer: {Text.debugStr s}")

theorem resolveDaemonPid_named (path : String) (w : World Ag Va Te) :
    resolveDaemonPid (some path) w = ((variablePid w.env).getD (filePid path w.fs), w) := by
  unfold resolveDaemonPid variablePid
  rw [Fallible.bind_of_ok (Program.environment_run w)]
  cases w.env.var "SSH_AGENT_PID" with
  | some s =>
    simp only [Option.map_some, Option.getD_some]
    cases Text.parseI32 (Text.trim s) <;> rfl
  | none =>
    have named : daemonPidFile (some path) w = (.ok (some path), w) := rfl
    simp only [Option.map_none, Option.getD_none, filePid]
    rw [Fallible.bind_of_ok named]
    cases read : w.fs.readToString path with
    | error e =>
      have failed : Program.readToString path w = (.error (.io e), w) := by
        rw [Program.readToString_run, read, Program.io_error]
      exact Fallible.bind_of_error failed
    | ok contents =>
      have succeeded : Program.readToString path w = (.ok contents, w) := by
        rw [Program.readToString_run, read, Program.io_ok]
      dsimp only
      rw [Fallible.bind_of_ok succeeded]
      cases Text.parseI32 (Text.trim contents) <;> rfl

/-! ### Another value of the variable -/

def withAgentPid (value : Option OsString) (w : World Ag Va Te) : World Ag Va Te :=
  { w with env := { w.env with vars := Function.update w.env.vars "SSH_AGENT_PID" value } }

/-- The stop acts on the process that the file records, or fails with the file's error. -/
def HeedsFile (path : String) (stop : Program Ag Va Te Nat) (w : World Ag Va Te) : Prop :=
  match filePid path w.fs with
  | .ok pid => (stop w).2.signals = w.signals ++ [pid]
  | .error e => (stop w).1 = .error e ∧ (stop w).2.signals = w.signals

/-- The variable is not there, or denotes the process that the file records. -/
def Defers (path : String) (w : World Ag Va Te) : Prop :=
  ∀ s, w.env.var "SSH_AGENT_PID" = some s →
    ∃ pid, Text.parseI32 (Text.trim s) = some pid ∧ filePid path w.fs = .ok pid

theorem runStop_of_error (kill : Int → Except String Unit) {args : AgentStopArgs}
    (mode : OutputMode) {w v : World Ag Va Te} {e : AnvilError}
    (failed : resolveDaemonPid args.pidFile w = (.error e, v)) :
    runStop kill args mode w = (.error e, v) :=
  Fallible.bind_of_error failed

/-- Once the process id is known, the variable plays no part. -/
theorem runStop_of_ok (kill : Int → Except String Unit) (path : String) (mode : OutputMode)
    {v₁ v₂ : Option OsString} {w : World Ag Va Te} {pid : Int}
    (first : resolveDaemonPid (some path) (withAgentPid v₁ w) = (.ok pid, withAgentPid v₁ w))
    (second : resolveDaemonPid (some path) (withAgentPid v₂ w) = (.ok pid, withAgentPid v₂ w)) :
    runStop kill ⟨some path⟩ mode (withAgentPid v₂ w) =
      ((runStop kill ⟨some path⟩ mode (withAgentPid v₁ w)).1,
        withAgentPid v₂ (runStop kill ⟨some path⟩ mode (withAgentPid v₁ w)).2) := by
  unfold runStop
  rw [Fallible.bind_of_ok first, Fallible.bind_of_ok second]
  cases sent : kill pid with
  | error e => simp [Fallible.bind_run, sendSigterm, sent, withAgentPid]
  | ok =>
    cases mode <;> simp [Fallible.bind_run, sendSigterm, sent, withAgentPid, metadataBlock]

/-- The two sources of a process id never fail with one and the same error. -/
private theorem variable_error_ne_file_error {path s : String} {fs : FileSystem} :
    filePid path fs ≠
      .error (.invalidConfig s!"SSH_AGENT_PID is not an integer: {Text.debugStr s}") := by
  intro same
  unfold filePid at same
  split at same
  · simp at same
  split at same
  · simp at same
  · -- The first letters of the two messages differ.
    simp only [Except.error.injEq, AnvilError.invalidConfig.injEq] at same
    have letters := congrArg (fun text => text.toList.head?) same
    simp only [toString, String.toList_append, List.head?_append] at letters
    simp at letters

section
variable (kill : Int → Except String Unit) (path : String) (mode : OutputMode)

/-- The process that was resolved is the one that is signalled. -/
theorem runStop_signals {w : World Ag Va Te} {pid : Int}
    (resolved : resolveDaemonPid (some path) w = (.ok pid, w)) :
    (runStop kill ⟨some path⟩ mode w).2.signals = w.signals ++ [pid] := by
  have found : foundPid (AgentStopArgs.mk (some path)).pidFile w.env w.fs = some pid := by
    obtain ⟨r, fs, ran, _, text⟩ := resolveDaemonPid_run (some path) w
    rw [resolved, Prod.mk.injEq] at ran
    rw [foundPid, ← text, ← ran.1]
    rfl
  exact (runStop_of_some kill mode found).2

theorem heedsFile_iff (w : World Ag Va Te) :
    HeedsFile path (runStop kill ⟨some path⟩ mode) w ↔ Defers path w := by
  have resolved := resolveDaemonPid_named path w
  unfold HeedsFile Defers
  cases value : w.env.var "SSH_AGENT_PID" with
  | none =>
    simp only [variablePid, value, Option.map_none, Option.getD_none] at resolved
    cases file : filePid path w.fs with
    | ok pid =>
      rw [file] at resolved
      simpa using runStop_signals kill path mode resolved
    | error e =>
      rw [file] at resolved
      simp [runStop_of_error kill mode resolved]
  | some s =>
    simp only [Option.some.injEq, forall_eq']
    cases parsed : Text.parseI32 (Text.trim s) with
    | none =>
      simp only [variablePid, value, Option.map_some, Option.getD_some, parsed] at resolved
      have failed := runStop_of_error kill mode resolved
      cases file : filePid path w.fs with
      | ok pid => simp [failed]
      | error e =>
        -- The variable is no integer, and its error is never the file's.
        simp only [failed, reduceCtorEq, false_and, exists_false, iff_false, not_and]
        intro same
        cases same
        exact absurd file variable_error_ne_file_error
    | some pid =>
      simp only [variablePid, value, Option.map_some, Option.getD_some, parsed] at resolved
      have signalled := runStop_signals kill path mode resolved
      cases file : filePid path w.fs with
      | ok pid' => simp [signalled, eq_comm]
      | error e => simp [signalled]

end

/-- With a pid file on the command line two values of `SSH_AGENT_PID` make no
difference, and the file decides, exactly when either value is absent or denotes the
process that the file records. -/
theorem stop_heeds_file_iff (kill : Int → Except String Unit) (path : String) (mode : OutputMode)
    (w : World Ag Va Te) (v₁ v₂ : Option OsString) :
    (HeedsFile path (runStop kill ⟨some path⟩ mode) (withAgentPid v₁ w) ∧
      HeedsFile path (runStop kill ⟨some path⟩ mode) (withAgentPid v₂ w) ∧
      runStop kill ⟨some path⟩ mode (withAgentPid v₂ w) =
        ((runStop kill ⟨some path⟩ mode (withAgentPid v₁ w)).1,
          withAgentPid v₂ (runStop kill ⟨some path⟩ mode (withAgentPid v₁ w)).2)) ↔
      Defers path (withAgentPid v₁ w) ∧ Defers path (withAgentPid v₂ w) := by
  rw [heedsFile_iff, heedsFile_iff]
  constructor
  · rintro ⟨first, second, _⟩
    exact ⟨first, second⟩
  · rintro ⟨first, second⟩
    refine ⟨first, second, ?_⟩
    -- A variable that defers leaves the outcome of reading the file.
    have resolves (v : Option OsString) (defers : Defers path (withAgentPid v w)) :
        resolveDaemonPid (some path) (withAgentPid v w) =
          (filePid path w.fs, withAgentPid v w) := by
      rw [resolveDaemonPid_named]
      unfold variablePid
      cases read : (withAgentPid v w).env.var "SSH_AGENT_PID" with
      | none => rfl
      | some s =>
        obtain ⟨pid, parsed, file⟩ := defers s read
        have recorded : filePid path w.fs = .ok pid := file
        simp [parsed, recorded]
    have one := resolves v₁ first
    have other := resolves v₂ second
    cases file : filePid path w.fs with
    | ok pid =>
      rw [file] at one other
      exact runStop_of_ok kill path mode one other
    | error e =>
      rw [file] at one other
      rw [runStop_of_error kill mode one, runStop_of_error kill mode other]
      simp [withAgentPid]

/-! ### On a reference environment -/

open Reference

/-- The pid file holds 101 and another agent is exported as 202: that one is stopped. -/
theorem stop_passes_over_file :
    let w := world [] [("P", "101")] ⟨false, []⟩ ⟨[]⟩ ⟨[]⟩
    let stop : Option OsString → Except AnvilError Nat × RefWorld := fun v =>
      runStop (fun _ => .ok ()) ⟨some "P"⟩ .human (withAgentPid v w)
    (stop none).2.signals = [101] ∧ (stop (some ⟨"202", true⟩)).2.signals = [202] ∧
      ¬ HeedsFile "P" (runStop (fun _ => .ok ()) ⟨some "P"⟩ .human)
        (withAgentPid (some ⟨"202", true⟩) w) := by
  intro w stop
  have recorded : filePid "P" w.fs = .ok 101 := by
    have parsed : Text.parseI32 (Text.trim "101") = some 101 := by decide
    have read : w.fs.readToString "P" = .ok "101" :=
      readToString_textFiles [("P", "101")] "P" "101" rfl
    simp only [filePid, read, parsed]
  have resolved (v : Option OsString) := resolveDaemonPid_named "P" (withAgentPid v w)
  have file : (stop none).2.signals = [101] := by
    have pid : resolveDaemonPid (some "P") (withAgentPid none w) =
        (.ok 101, withAgentPid none w) := (resolved none).trans (Prod.ext recorded rfl)
    exact runStop_signals _ "P" .human pid
  have exported : (stop (some ⟨"202", true⟩)).2.signals = [202] := by
    have pid : resolveDaemonPid (some "P") (withAgentPid (some ⟨"202", true⟩) w) =
        (.ok 202, withAgentPid (some ⟨"202", true⟩) w) := by
      have denoted : variablePid (withAgentPid (some ⟨"202", true⟩) w).env = some (.ok 202) := by
        decide
      rw [resolved, denoted, Option.getD_some]
    exact runStop_signals _ "P" .human pid
  refine ⟨file, exported, ?_⟩
  intro heeds
  have same_file : filePid "P" (withAgentPid (some ⟨"202", true⟩) w).fs = .ok 101 := recorded
  unfold HeedsFile at heeds
  rw [same_file] at heeds
  exact absurd (exported.symm.trans heeds) (by decide)

end Gitway.Agent
