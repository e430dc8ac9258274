import Gitway.Agent.Paths

/-!
# `gitway agent start` in the background

The command respawns itself as a detached child, waits for the child's socket and
prints the lines that the calling shell evaluates. Spawning the child, together with
what it has done by the end of the wait, is a parameter.
-/
namespace Gitway.Agent

open Lib

structure AgentStartArgs where
  sock : Option String
  defaultTtl : Option Nat
  pidFile : Option String
  sh : Bool
  csh : Bool

/-- The command line of the detached child: `agent start -D -a <socketPath>`, with
`-t` and `--pid-file` where they were given. -/
structure Launch where
  exe : String
  socketPath : String
  defaultTtl : Option Nat
  pidFile : Option String

structure AgentDaemonConfig where
  socketPath : String
  pidFile : Option String
  defaultTtl : Option Nat

/-- The configuration that `run_daemon_loop` derives from the child's command line. -/
def daemonConfig (launch : Launch) : AgentDaemonConfig where
  socketPath := launch.socketPath
  pidFile := launch.pidFile.or (defaultPidPath launch.socketPath)
  defaultTtl := launch.defaultTtl

variable {Ag Va Te : Type}

def absolutePath (path : String) : Program Ag Va Te String := do
  if Path.isAbsolute path then
    return path
  let env ← Program.environment
  match env.currentDir with
  | .ok cwd => return Path.join cwd path
  | .error e =>
    Fallible.fail (.invalidConfig s!"cannot resolve {path} to an absolute path: {e.message}")

def emitEval (socketPath : String) (pid : Nat) (bourne cshForced : Bool) :
    Program Ag Va Te Unit := do
  let env ← Program.environment
  let endsWith (s ending : String) : Bool := ending.toList.isSuffixOf s.toList
  let csh := cshForced || (!bourne && (env.var "SHELL").any fun sh =>
    endsWith sh "csh" || endsWith sh "tcsh")
  if csh then
    Program.println s!"setenv SSH_AUTH_SOCK {socketPath};"
    Program.println s!"setenv SSH_AGENT_PID {pid};"
    Program.println s!"echo Agent pid {pid};"
  else
    Program.println s!"SSH_AUTH_SOCK={socketPath}; export SSH_AUTH_SOCK;"
    Program.println s!"SSH_AGENT_PID={pid}; export SSH_AGENT_PID;"
    Program.println s!"echo Agent pid {pid};"

/-- The socket to be bound: the one given, or else the default one. -/
def rawSocketPath (args : AgentStartArgs) : Program Ag Va Te String :=
  match args.sock with
  | some path => pure path
  | none => defaultSocketPath

def absolutePidFile (args : AgentStartArgs) : Program Ag Va Te (Option String) :=
  match args.pidFile with
  | some path => do
    let pidFile ← absolutePath path
    return some pidFile
  | none => pure none

/-- The part of `run_background_start` after the check of the socket. -/
def respawn (currentExe : Except String String)
    (spawn : Launch → Program Ag Va Te (Except String Nat)) (args : AgentStartArgs)
    (socketPath : String) (pidFile : Option String) : Program Ag Va Te Nat := do
  let exe ← Fallible.query fun _ => currentExe.mapError fun e =>
    .invalidConfig s!"cannot locate the gitway binary for re-exec: {e}"
  let child ← spawn ⟨exe, socketPath, args.defaultTtl, pidFile⟩
  let pid ← Fallible.query fun _ => child.mapError fun e =>
    .invalidConfig s!"failed to spawn background agent: {e}"
  -- The wait for the socket is over here.
  if ← Program.pathExists socketPath then
    emitEval socketPath pid args.sh args.csh
    return 0
  else
    Fallible.fail (.invalidConfig
      (s!"background agent did not bind {socketPath} within 5s — try " ++
        "`gitway agent start -D` to see the underlying error"))

def alreadyExists (socketPath : String) : AnvilError :=
  .invalidConfig (s!"socket {socketPath} already exists; another agent may be running. " ++
    "Run `gitway agent stop` first, or pass a different `-a <PATH>`.")

def runBackgroundStart (currentExe : Except String String)
    (spawn : Launch → Program Ag Va Te (Except String Nat)) (args : AgentStartArgs) :
    Program Ag Va Te Nat := do
  let raw ← rawSocketPath args
  let socketPath ← absolutePath raw
  let pidFile ← absolutePidFile args
  if ← Program.pathExists socketPath then
    -- The child would take the socket away from the agent that has it.
    Fallible.fail (alreadyExists socketPath)
  else
    respawn currentExe spawn args socketPath pidFile

/-! ### On the default paths -/

/-- The socket of a background start without `-a`, as the child is told it. -/
def socketAt (env : Environment) (cwd : String) : String :=
  Path.absolute cwd (Path.join (runtimeDir env) (socketName env))

/-- The place of the default pid file. -/
def pidPlace (env : Environment) (cwd : String) : List (List Char) :=
  Path.locate cwd (runtimeDir env) ++ ["gitway-agent.pid".toList]

theorem locate_socketAt {cwd : String} (rooted : Path.isAbsolute cwd = true) (env : Environment) :
    Path.locate cwd (socketAt env cwd) =
      Path.locate cwd (runtimeDir env) ++ [(socketName env).toList] := by
  unfold socketAt
  rw [Path.locate_absolute rooted, Path.locate_join_plain _ _ (socketName_plain env)]

/-- A child that is told the default socket keeps its pid file at the default place. -/
theorem daemonConfig_pidFile {cwd : String} (rooted : Path.isAbsolute cwd = true)
    (env : Environment) (exe : String) (ttl : Option Nat) :
    ∃ path, (daemonConfig ⟨exe, socketAt env cwd, ttl, none⟩).pidFile = some path ∧
      ∀ c, Path.locate c path = pidPlace env cwd := by
  have plain := socketName_plain env
  obtain ⟨path, named, place⟩ := defaultPidPath_place (Path.absolute cwd (runtimeDir env)) plain
  refine ⟨path, ?_, fun c => ?_⟩
  · simp only [daemonConfig, socketAt, Option.none_or]
    -- The child sees the absolute path, whose parent is the absolute directory.
    rw [Path.absolute_join cwd _ plain.relative, named]
  · rw [place c, Path.locate_absolute rooted, pidPlace]

section
variable {w : World Ag Va Te} {cwd : String}

theorem absolutePath_run (current : w.env.currentDir = .ok cwd) (path : String) :
    absolutePath path w = (.ok (Path.absolute cwd path), w) := by
  unfold absolutePath Path.absolute
  split
  · rfl
  · rw [Fallible.bind_of_ok (Program.environment_run w), current]
    rfl

theorem emitEval_run (socketPath : String) (pid : Nat) (bourne cshForced : Bool)
    (w : World Ag Va Te) :
    ∃ stdout, emitEval socketPath pid bourne cshForced w =
      (.ok (), { w with stdout := stdout }) := by
  unfold emitEval
  rw [Fallible.bind_of_ok (Program.environment_run w)]
  dsimp only
  split
  · exact ⟨_, rfl⟩
  · exact ⟨_, rfl⟩

theorem respawn_run {exe socketPath : String} {pidFile : Option String} {args : AgentStartArgs}
    {spawn : Launch → Program Ag Va Te (Except String Nat)} {child : Nat} {w' : World Ag Va Te}
    (spawned : spawn ⟨exe, socketPath, args.defaultTtl, pidFile⟩ w = (.ok (.ok child), w'))
    (bound : w'.fs.exists_ socketPath = true) :
    ∃ stdout, respawn (.ok exe) spawn args socketPath pidFile w =
      (.ok 0, { w' with stdout := stdout }) := by
  obtain ⟨stdout, printed⟩ := emitEval_run socketPath child args.sh args.csh w'
  refine ⟨stdout, ?_⟩
  simp [respawn, Fallible.bind_run, spawned, bound, printed]

/-- Without paths of its own, a start reaches the check of the default socket, with the
files and the runtime directory as they were. -/
private theorem start_checks (current : w.env.currentDir = .ok cwd)
    (rooted : Path.isAbsolute cwd = true) {args : AgentStartArgs} (sock : args.sock = none)
    (pidFile : args.pidFile = none) (currentExe : Except String String)
    (spawn : Launch → Program Ag Va Te (Except String Nat)) :
    ∃ fs, Undisturbed cwd (runtimeDir w.env) w.fs fs ∧ runBackgroundStart currentExe spawn args w =
      (if w.fs.exists_ (socketAt w.env cwd) then Fallible.fail (alreadyExists (socketAt w.env cwd))
        else respawn currentExe spawn args (socketAt w.env cwd) none) { w with fs := fs } := by
  obtain ⟨fs, ran, same⟩ := defaultSocketPath_run w
  rw [current] at same
  have still := same.entries _ _ (locate_socketAt rooted w.env)
  have located : rawSocketPath args w =
      (.ok (Path.join (runtimeDir w.env) (socketName w.env)), { w with fs := fs }) := by
    rw [rawSocketPath, sock]
    exact ran
  have resolved := absolutePath_run (w := { w with fs := fs }) current
    (Path.join (runtimeDir w.env) (socketName w.env))
  have none_given : absolutePidFile args { w with fs := fs } = (.ok none, { w with fs := fs }) := by
    rw [absolutePidFile, pidFile]
    rfl
  refine ⟨fs, same, ?_⟩
  unfold runBackgroundStart
  rw [Fallible.bind_of_ok located, Fallible.bind_of_ok resolved, Fallible.bind_of_ok none_given,
    Fallible.bind_of_ok (Program.pathExists_run _ _), ← still]
  rfl

theorem start_refused (current : w.env.currentDir = .ok cwd) (rooted : Path.isAbsolute cwd = true)
    {args : AgentStartArgs} (sock : args.sock = none) (pidFile : args.pidFile = none)
    (currentExe : Except String String)
    (spawn : Launch → Program Ag Va Te (Except String Nat))
    (there : w.fs.exists_ (socketAt w.env cwd) = true) :
    ∃ fs, Undisturbed cwd (runtimeDir w.env) w.fs fs ∧ runBackgroundStart currentExe spawn args w =
      (.error (alreadyExists (socketAt w.env cwd)), { w with fs := fs }) := by
  obtain ⟨fs, same, ran⟩ := start_checks current rooted sock pidFile currentExe spawn
  rw [if_pos there] at ran
  exact ⟨fs, same, ran⟩

/-- A start that finds no socket succeeds when its child comes up and has bound it. -/
theorem start_spawns (current : w.env.currentDir = .ok cwd) (rooted : Path.isAbsolute cwd = true)
    {args : AgentStartArgs} (sock : args.sock = none) (pidFile : args.pidFile = none) (exe : String)
    (spawn : Launch → Program Ag Va Te (Except String Nat))
    (free : w.fs.exists_ (socketAt w.env cwd) = false) :
    ∃ fs, Undisturbed cwd (runtimeDir w.env) w.fs fs ∧ ∀ child w',
      spawn ⟨exe, socketAt w.env cwd, args.defaultTtl, none⟩ { w with fs := fs } =
        (.ok (.ok child), w') →
      w'.fs.exists_ (socketAt w.env cwd) = true →
      ∃ stdout, runBackgroundStart (.ok exe) spawn args w =
        (.ok 0, { w' with stdout := stdout }) := by
  obtain ⟨fs, same, ran⟩ := start_checks current rooted sock pidFile (.ok exe) spawn
  rw [free] at ran
  refine ⟨fs, same, fun child w' spawned bound => ?_⟩
  obtain ⟨stdout, up⟩ := respawn_run spawned bound
  exact ⟨stdout, ran.trans up⟩

end

end Gitway.Agent
