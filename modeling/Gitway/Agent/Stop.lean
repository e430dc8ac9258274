import Gitway.Agent.Paths
import Gitway.Reference

/-!
# `gitway agent stop`

The process id is taken from `SSH_AGENT_PID` or else from a pid file, and that
process is sent `SIGTERM`.
-/
namespace Gitway.Agent

open Lib

structure AgentStopArgs where
  pidFile : Option String

variable {Ag Va Te : Type}

/-- The pid file to be read: the one given, or else the default one. -/
def daemonPidFile (cliPidFile : Option String) : Program Ag Va Te (Option String) := do
  match cliPidFile with
  | some path => return some path
  | none =>
    let socket ← defaultSocketPath
    return defaultPidPath socket

def resolveDaemonPid (cliPidFile : Option String) : Program Ag Va Te Int := do
  let env ← Program.environment
  match env.var "SSH_AGENT_PID" with
  | some s =>
    match Text.parseI32 (Text.trim s) with
    | some pid => return pid
    | none =>
      Fallible.fail (.invalidConfig s!"SSH_AGENT_PID is not an integer: {Text.debugStr s}")
  | none =>
    let path ← daemonPidFile cliPidFile
    match path with
    | none =>
      Fallible.fail (.invalidConfig ("no running agent to stop: neither SSH_AGENT_PID nor a " ++
        "pid file are available"))
    | some path =>
      let contents ← Program.readToString path
      match Text.parseI32 (Text.trim contents) with
      | some pid => return pid
      | none =>
        Fallible.fail (.invalidConfig s!"pid file {path} does not contain a valid integer")

/-- `kill(pid, SIGTERM)`, given what the call returns. The signal is sent and not waited on: what
the agent that gets it does is an event of its own, `Happening.ended`. -/
def sendSigterm (kill : Int → Except String Unit) (pid : Int) : Program Ag Va Te Unit := fun w =>
  ((kill pid).mapError fun e => .invalidConfig s!"failed to signal pid {pid}: {e}",
    { w with signals := w.signals ++ [pid] })

def runStop (kill : Int → Except String Unit) (args : AgentStopArgs) (mode : OutputMode) :
    Program Ag Va Te Nat := do
  let pid ← resolveDaemonPid args.pidFile
  sendSigterm kill pid
  match mode with
  | .json =>
    let env ← Program.environment
    Program.emitJson (.obj [
      ("metadata", metadataBlock env "gitway agent stop"),
      ("data", .obj [("signalled_pid", .num pid)])])
  | .human => Program.eprintln s!"gitway: SIGTERM sent to pid {pid}"
  return 0

/-! ### The text in effect -/

def pidFileOf (cliPidFile : Option String) (env : Environment) : Option String :=
  match cliPidFile with
  | some path => some path
  | none => defaultPidPath (Path.join (runtimeDir env) (socketName env))

/-- The text that the process id is taken from: the variable, or else the file. -/
def pidText (cliPidFile : Option String) (env : Environment) (fs : FileSystem) : Option String :=
  match env.var "SSH_AGENT_PID" with
  | some s => some s
  | none => (pidFileOf cliPidFile env).bind fun path => (fs.readToString path).toOption

theorem daemonPidFile_run (cliPidFile : Option String) (w : World Ag Va Te) :
    ∃ fs, daemonPidFile cliPidFile w = (.ok (pidFileOf cliPidFile w.env), { w with fs := fs }) ∧
      fs.read = w.fs.read := by
  cases cliPidFile with
  | some path => exact ⟨w.fs, rfl, rfl⟩
  | none =>
    obtain ⟨fs, ran, same⟩ := defaultSocketPath_run w
    refine ⟨fs, ?_, same.read⟩
    unfold daemonPidFile
    dsimp only
    rw [Fallible.bind_of_ok ran]
    rfl

/-- The process id is the integer that the text in effect denotes, if it denotes one. -/
theorem resolveDaemonPid_run (cliPidFile : Option String) (w : World Ag Va Te) :
    ∃ r fs, resolveDaemonPid cliPidFile w = (r, { w with fs := fs }) ∧ fs.read = w.fs.read ∧
      r.toOption = (pidText cliPidFile w.env w.fs).bind fun s => Text.parseI32 (Text.trim s) := by
  unfold resolveDaemonPid pidText
  rw [Fallible.bind_of_ok (Program.environment_run w)]
  cases w.env.var "SSH_AGENT_PID" with
  | some s =>
    cases parsed : Text.parseI32 (Text.trim s) with
    | some pid => exact ⟨.ok pid, w.fs, by simp [parsed], rfl, by simp [parsed, Except.toOption]⟩
    | none =>
      exact ⟨.error _, w.fs, by simp only [parsed]; rfl, rfl, by simp [parsed, Except.toOption]⟩
  | none =>
    -- Finding the pid file may create the directory, but no file reads differently.
    obtain ⟨fs, ran, same⟩ := daemonPidFile_run cliPidFile w
    dsimp only
    rw [Fallible.bind_of_ok ran]
    cases pidFileOf cliPidFile w.env with
    | none => exact ⟨.error _, fs, rfl, same, rfl⟩
    | some path =>
      have text : fs.readToString path = w.fs.readToString path := by
        simp [FileSystem.readToString, same]
      cases read : w.fs.readToString path with
      | error e =>
        -- An unreadable file ends the stop with its own error.
        have failed : Program.readToString path { w with fs := fs } =
            (.error (.io e), { w with fs := fs }) := by
          rw [Program.readToString_run, text, read, Program.io_error]
        exact ⟨_, fs, Fallible.bind_of_error failed, same, by simp [read, Except.toOption]⟩
      | ok contents =>
        have succeeded : Program.readToString path { w with fs := fs } =
            (.ok contents, { w with fs := fs }) := by
          rw [Program.readToString_run, text, read, Program.io_ok]
        dsimp only
        rw [Fallible.bind_of_ok succeeded]
        cases parsed : Text.parseI32 (Text.trim contents) with
        | some pid =>
          exact ⟨.ok pid, fs, by simp, same, by simp [read, parsed, Except.toOption]⟩
        | none => exact ⟨.error _, fs, rfl, same, by simp [read, parsed, Except.toOption]⟩

/-- The process id that `stop` finds. -/
def foundPid (cliPidFile : Option String) (env : Environment) (fs : FileSystem) : Option Int :=
  (pidText cliPidFile env fs).bind fun s => Text.parseI32 (Text.trim s)

section
variable (kill : Int → Except String Unit) {args : AgentStopArgs} (mode : OutputMode)
  {w : World Ag Va Te}

/-- Without a process id nothing is signalled. -/
theorem runStop_of_none (nothing : foundPid args.pidFile w.env w.fs = none) :
    ∃ e, (runStop kill args mode w).1 = .error e ∧
      (runStop kill args mode w).2.signals = w.signals := by
  obtain ⟨r, fs, ran, _, found⟩ := resolveDaemonPid_run args.pidFile w
  rw [foundPid] at nothing
  rw [nothing] at found
  cases r with
  | ok pid => simp [Except.toOption] at found
  | error e =>
    have stopped : runStop kill args mode w = (.error e, { w with fs := fs }) :=
      Fallible.bind_of_error ran
    rw [stopped]
    exact ⟨e, rfl, rfl⟩

/-- A process id that was found is signalled, once, and nothing else is. -/
theorem runStop_of_some {pid : Int} (there : foundPid args.pidFile w.env w.fs = some pid) :
    ((runStop kill args mode w).1 = .ok 0 ↔ kill pid = .ok ()) ∧
      (runStop kill args mode w).2.signals = w.signals ++ [pid] := by
  obtain ⟨r, fs, ran, _, found⟩ := resolveDaemonPid_run args.pidFile w
  rw [foundPid] at there
  rw [there] at found
  cases r with
  | error e => simp [Except.toOption] at found
  | ok pid' =>
    have same : pid' = pid := by simpa [Except.toOption] using found
    subst same
    unfold runStop
    rw [Fallible.bind_of_ok ran]
    cases sent : kill pid' with
    | error e => simp [Fallible.bind_run, sendSigterm, sent]
    | ok => cases mode <;> simp [Fallible.bind_run, sendSigterm, sent]

end

/-- A stop changes no file and leaves the rest of the world to the signal. -/
theorem runStop_keeps (kill : Int → Except String Unit) (args : AgentStopArgs)
    (mode : OutputMode) :
    Fallible.Keeps (fun w : World Ag Va Te => (w.fs.read, w.agent)) (runStop kill args mode) := by
  have resolves : Fallible.Keeps (fun w : World Ag Va Te => (w.fs.read, w.agent))
      (resolveDaemonPid args.pidFile) := by
    intro w
    obtain ⟨r, fs, ran, same, _⟩ := resolveDaemonPid_run args.pidFile w
    rw [ran]
    exact Prod.ext same rfl
  unfold runStop
  apply Fallible.Keeps.bind resolves
  intro pid
  apply Fallible.Keeps.bind (fun _ => rfl)
  intro _
  cases mode with
  | human => exact Fallible.Keeps.bind (fun _ => rfl) fun _ => Fallible.Keeps.pure _
  | json =>
    apply Fallible.Keeps.bind (fun _ => rfl)
    intro env
    exact Fallible.Keeps.bind (fun _ => rfl) fun _ => Fallible.Keeps.pure _

/-- A stop signals at most one process and only under a positive id, exactly when the
text in effect is no numeral for zero or for a negative number. -/
theorem stop_signals_positive_iff (kill : Int → Except String Unit) (args : AgentStopArgs)
    (mode : OutputMode) (w : World Ag Va Te) :
    (∃ calls, (runStop kill args mode w).2.signals = w.signals ++ calls ∧
      calls.length ≤ 1 ∧ ∀ pid ∈ calls, 0 < pid) ↔
      ∀ text, pidText args.pidFile w.env w.fs = some text →
        ¬ Lib.Numeral.NonPositive Text.i32Min (Text.trim text).toList := by
  have shape (text : String) := Text.parseI32_nonpos_iff (Text.trim text)
  constructor
  · rintro ⟨calls, signalled, _, positive⟩ text effective dangerous
    -- The dangerous text is parsed, and its value goes to `kill` as it is.
    obtain ⟨pid, parsed, nonpos⟩ := (shape text).mpr dangerous
    have found : foundPid args.pidFile w.env w.fs = some pid := by
      simp only [foundPid, effective, Option.bind_some, parsed]
    have sent := (runStop_of_some kill mode found).2
    rw [signalled] at sent
    have only : calls = [pid] := List.append_cancel_left sent
    have positive_pid := positive pid (by simp [only])
    omega
  · intro harmless
    cases found : foundPid args.pidFile w.env w.fs with
    | none =>
      obtain ⟨_, _, silent⟩ := runStop_of_none kill mode found
      exact ⟨[], by simpa using silent, by simp, by simp⟩
    | some pid =>
      refine ⟨[pid], (runStop_of_some kill mode found).2, by simp, fun pid' member => ?_⟩
      rw [List.mem_singleton.mp member]
      obtain ⟨text, effective, parsed⟩ := Option.bind_eq_some_iff.mp found
      -- A value that is not positive would have the dangerous shape.
      by_contra low
      exact harmless text effective ((shape text).mp ⟨pid, parsed, by omega⟩)

/-! ### On a reference environment -/

open Reference

/-- With `SSH_AGENT_PID=-1` a stop succeeds and has signalled every process of the user. -/
theorem stop_broadcasts :
    let w := world [("SSH_AGENT_PID", "-1")] [] ⟨false, []⟩ ⟨[]⟩ ⟨[]⟩
    (runStop (fun _ => .ok ()) ⟨none⟩ .human w).1 = .ok 0 ∧
      (runStop (fun _ => .ok ()) ⟨none⟩ .human w).2.signals = [-1] ∧
      ¬ ∃ calls, (runStop (fun _ => .ok ()) ⟨none⟩ .human w).2.signals = w.signals ++ calls ∧
        calls.length ≤ 1 ∧ ∀ pid ∈ calls, 0 < pid := by
  intro w
  have found : foundPid (AgentStopArgs.mk none).pidFile w.env w.fs = some (-1) := by decide
  have run := runStop_of_some (fun _ => .ok ()) .human found
  have signalled : (runStop (fun _ => .ok ()) ⟨none⟩ .human w).2.signals = [-1] := run.2
  refine ⟨run.1.mpr rfl, signalled, ?_⟩
  rintro ⟨calls, same, _, positive⟩
  have only : calls = [-1] := same.symm.trans signalled
  exact absurd (positive (-1) (by simp [only])) (by decide)

end Gitway.Agent
