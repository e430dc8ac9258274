import Gitway.Agent.Start
import Gitway.Agent.Stop
import Gitway.Lib.Runs

/-!
# Agents started and stopped on the default paths

One environment, in which agents are started in the background and stopped, any
number of times and in any order. A daemon is taken to bind its socket and to write
its pid file before the start returns, and to unlink both when it ends, some time
after it was signalled.

Every daemon of the environment writes the same pid file, so a stop finds the daemon
that was started last, and nobody once that one has ended. Runs in which a start never
adds a daemon to another one are the ones in which every stop finds its daemon.
-/
namespace Gitway.Agent

open Lib

/-- A process id that the kernel hands out. -/
structure Pid where
  value : Nat
  positive : 0 < value
  bounded : (value : Int) ≤ Text.i32Max
  deriving DecidableEq

/-- A daemon process. After `SIGTERM` it is there until it has shut down. -/
structure Daemon where
  pid : Pid
  config : AgentDaemonConfig
  signalled : Bool

/-- The environment that the commands share. -/
structure Shell where
  env : Environment
  cwd : String
  current : env.currentDir = .ok cwd
  rooted : Path.isAbsolute cwd = true
  unset : env.var "SSH_AGENT_PID" = none

def Shell.environment (sh : Shell) (pid : Pid) : Environment :=
  { sh.env with processId := pid.value }

structure System where
  fs : FileSystem
  daemons : List Daemon

/-- The binary, what a daemon writes into its pid file, and what `kill` returns for a
target that reaches no daemon. -/
structure Platform where
  exe : String
  pidText : Pid → String
  elsewhere : Int → Except String Unit

/-- The pid file holds the process id, up to white space. -/
def ReadsBack (platform : Platform) : Prop :=
  ∀ pid, Text.parseI32 (Text.trim (platform.pidText pid)) = some (pid.value : Int)

/-! ### What a daemon does to the files -/

def noEntry : IoError := ⟨.notFound, some 2, "No such file or directory"⟩

/-- Put an entry at the place of a path, or take it away. -/
def setEntry (cwd path : String) (entry : Option (Except IoError ByteArray)) (fs : FileSystem) :
    FileSystem :=
  { fs with
    read := fun p =>
      if Path.locate cwd p = Path.locate cwd path then entry.getD (.error noEntry) else fs.read p
    exists_ := fun p =>
      if Path.locate cwd p = Path.locate cwd path then entry.isSome else fs.exists_ p }

theorem setEntry_read {cwd path p : String} (entry : Option (Except IoError ByteArray))
    (fs : FileSystem) (same : Path.locate cwd p = Path.locate cwd path) :
    (setEntry cwd path entry fs).read p = entry.getD (.error noEntry) := if_pos same

theorem setEntry_exists {cwd path p : String} (entry : Option (Except IoError ByteArray))
    (fs : FileSystem) (same : Path.locate cwd p = Path.locate cwd path) :
    (setEntry cwd path entry fs).exists_ p = entry.isSome := if_pos same

theorem setEntry_exists_other {cwd path p : String} (entry : Option (Except IoError ByteArray))
    (fs : FileSystem) (other : Path.locate cwd p ≠ Path.locate cwd path) :
    (setEntry cwd path entry fs).exists_ p = fs.exists_ p := if_neg other

def bindSocket (cwd path : String) (fs : FileSystem) : FileSystem :=
  setEntry cwd path (some (.error ⟨.uncategorized, some 6, "No such device or address"⟩)) fs

def writePidFile (cwd text : String) (path : Option String) (fs : FileSystem) : FileSystem :=
  match path with
  | some path => setEntry cwd path (some (.ok text.toUTF8)) fs
  | none => fs

def unlink (cwd : String) (path : Option String) (fs : FileSystem) : FileSystem :=
  match path with
  | some path => setEntry cwd path none fs
  | none => fs

/-! ### Events -/

section
variable (platform : Platform) (sh : Shell)

def System.world (sys : System) (pid : Pid) : World (List Daemon) Unit Unit where
  env := sh.environment pid
  fs := sys.fs
  agent := sys.daemons
  vault := ()
  terminal := ()
  stdin := .ok ByteArray.empty
  stdout := []
  stderr := []
  signals := []

/-- The child comes up as a daemon under its own configuration. -/
def spawnDaemon (child : Pid) (launch : Launch) :
    Program (List Daemon) Unit Unit (Except String Nat) := fun w =>
  let config := daemonConfig launch
  (.ok (.ok child.value),
    { w with
      fs := writePidFile sh.cwd (platform.pidText child) config.pidFile
        (bindSocket sh.cwd config.socketPath w.fs)
      agent := ⟨child, config, false⟩ :: w.agent })

def System.start (sys : System) (parent child : Pid) (args : AgentStartArgs) :
    Except AnvilError Nat × System :=
  let run := runBackgroundStart (.ok platform.exe) (spawnDaemon platform sh child) args
    (sys.world sh parent)
  (run.1, ⟨run.2.fs, run.2.agent⟩)

/-- `kill` reaches a process, its process group or everybody. A daemon leads a group
of its own. -/
def Reaches (target : Int) (d : Daemon) : Prop :=
  target = d.pid.value ∨ target = -d.pid.value ∨ target = -1

instance (target : Int) (d : Daemon) : Decidable (Reaches target d) :=
  inferInstanceAs (Decidable (_ ∨ _))

def System.kill (sys : System) (target : Int) : Except String Unit :=
  if ∃ d ∈ sys.daemons, Reaches target d then .ok () else platform.elsewhere target

def Daemon.receive (calls : List Int) (d : Daemon) : Daemon :=
  if ∃ target ∈ calls, Reaches target d then { d with signalled := true } else d

def deliver (calls : List Int) (daemons : List Daemon) : List Daemon :=
  daemons.map (Daemon.receive calls)

def System.stop (sys : System) (caller : Pid) (args : AgentStopArgs) (mode : OutputMode) :
    Except AnvilError Nat × System :=
  let run := runStop (sys.kill platform) args mode (sys.world sh caller)
  (run.1, ⟨run.2.fs, deliver run.2.signals run.2.agent⟩)

/-- The daemon ends and unlinks its socket and its pid file. -/
def System.exit (sys : System) (pid : Pid) : System :=
  match sys.daemons.find? fun d => d.pid = pid with
  | none => sys
  | some d =>
    { fs := unlink sh.cwd d.config.pidFile (unlink sh.cwd (some d.config.socketPath) sys.fs)
      daemons := sys.daemons.filter fun d => d.pid ≠ pid }

inductive Event where
  | start (parent child : Pid) (args : AgentStartArgs)
  | stop (caller : Pid) (args : AgentStopArgs) (mode : OutputMode)
  | exit (pid : Pid)

def Event.isStart : Event → Bool
  | .start .. => true
  | _ => false

def Event.isStop : Event → Bool
  | .stop .. => true
  | _ => false

def next (sys : System) : Event → System
  | .start parent child args => (sys.start platform sh parent child args).2
  | .stop caller args mode => (sys.stop platform sh caller args mode).2
  | .exit pid => sys.exit sh pid

/-- No path is given, and a new process gets an id that no daemon has. -/
def OnDefaults (sys : System) : Event → Prop
  | .start _ child args => args.sock = none ∧ args.pidFile = none ∧ ∀ d ∈ sys.daemons, d.pid ≠ child
  | .stop _ args _ => args.pidFile = none
  | .exit _ => True

def Step (sys : System) (e : Event) (sys' : System) : Prop :=
  OnDefaults sys e ∧ sys' = next platform sh sys e

/-- A start finds no daemon of the environment, running or shutting down, unless it is
refused because its default socket is there already. -/
def Alone (sys : System) : Event → Prop
  | .start parent .. =>
    sys.daemons = [] ∨ sys.fs.exists_ (socketAt (sh.environment parent) sh.cwd) = true
  | _ => True

/-! ### The pid file of the environment -/

/-- What every path to the default pid file reads. -/
def PidFileReads (fs : FileSystem) (content : Except IoError ByteArray) : Prop :=
  ∀ p, Path.locate sh.cwd p = pidPlace sh.env sh.cwd → fs.read p = content

/-- A stop finds what the default pid file holds. -/
theorem foundPid_default {content : Except IoError ByteArray} {fs : FileSystem}
    (holds : PidFileReads sh fs content) (caller : Pid) :
    foundPid none (sh.environment caller) fs =
      (content >>= decodeUtf8).toOption.bind fun s => Text.parseI32 (Text.trim s) := by
  have unset : (sh.environment caller).var "SSH_AGENT_PID" = none := sh.unset
  obtain ⟨path, named, place⟩ := defaultPidPath_place (runtimeDir (sh.environment caller))
    (socketName_plain (sh.environment caller))
  have read : fs.read path = content := holds path (place sh.cwd)
  simp [foundPid, pidText, unset, pidFileOf, named, FileSystem.readToString, read]

theorem foundPid_written (readsBack : ReadsBack platform) {pid : Pid} {fs : FileSystem}
    (holds : PidFileReads sh fs (.ok (platform.pidText pid).toUTF8)) (caller : Pid) :
    foundPid none (sh.environment caller) fs = some (pid.value : Int) := by
  have decoded : (Except.ok (platform.pidText pid).toUTF8 >>= decodeUtf8).toOption =
      some (platform.pidText pid) := by
    simp only [bind, Except.bind, Reference.decodeUtf8_toUTF8, Except.toOption]
  rw [foundPid_default sh holds caller, decoded, Option.bind_some, readsBack]

/-! ### Starts -/

theorem start_of_taken {sys : System} {parent child : Pid} {args : AgentStartArgs}
    (allowed : OnDefaults sys (.start parent child args))
    (taken : sys.fs.exists_ (socketAt (sh.environment parent) sh.cwd) = true) :
    (sys.start platform sh parent child args).2.daemons = sys.daemons ∧
      (sys.start platform sh parent child args).2.fs.read = sys.fs.read := by
  obtain ⟨fs, same, ran⟩ := start_refused (w := sys.world sh parent) sh.current sh.rooted
    allowed.1 allowed.2.1 (.ok platform.exe) (spawnDaemon platform sh child) taken
  rw [System.start, ran]
  exact ⟨rfl, same.read⟩

/-- What a start that is not refused has done: a new daemon, its id in the pid file, and
no entry of the runtime directory but the two of the daemon. -/
structure Started (sys : System) (parent child : Pid) (after : System) : Prop where
  daemon : ∃ config path, after.daemons = ⟨child, config, false⟩ :: sys.daemons ∧
    config.pidFile = some path ∧ ∀ c, Path.locate c path = pidPlace sh.env sh.cwd
  written : PidFileReads sh after.fs (.ok (platform.pidText child).toUTF8)
  entries : ∀ p name, Path.locate sh.cwd p = Path.locate sh.cwd (runtimeDir sh.env) ++ [name] →
    name ≠ (socketName (sh.environment parent)).toList → name ≠ "gitway-agent.pid".toList →
    after.fs.exists_ p = sys.fs.exists_ p

theorem spawnDaemon_run (child : Pid) {launch : Launch} {path : String}
    (named : (daemonConfig launch).pidFile = some path) {w : World (List Daemon) Unit Unit} :
    spawnDaemon platform sh child launch w = (.ok (.ok child.value),
      { w with
        fs := setEntry sh.cwd path (some (.ok (platform.pidText child).toUTF8))
          (bindSocket sh.cwd launch.socketPath w.fs)
        agent := ⟨child, daemonConfig launch, false⟩ :: w.agent }) := by
  simp only [spawnDaemon, named, writePidFile]
  rfl

theorem start_of_free {sys : System} {parent child : Pid} {args : AgentStartArgs}
    (allowed : OnDefaults sys (.start parent child args))
    (free : sys.fs.exists_ (socketAt (sh.environment parent) sh.cwd) = false) :
    (sys.start platform sh parent child args).1 = .ok 0 ∧
      Started platform sh sys parent child (sys.start platform sh parent child args).2 := by
  have socket := locate_socketAt sh.rooted (sh.environment parent)
  obtain ⟨path, named, place⟩ := daemonConfig_pidFile sh.rooted (sh.environment parent)
    platform.exe args.defaultTtl
  obtain ⟨fs, same, up⟩ := start_spawns (w := sys.world sh parent) sh.current sh.rooted
    allowed.1 allowed.2.1 platform.exe (spawnDaemon platform sh child) free
  have bound : (setEntry sh.cwd path (some (.ok (platform.pidText child).toUTF8))
      (bindSocket sh.cwd (socketAt (sh.environment parent) sh.cwd) fs)).exists_
        (socketAt (sh.environment parent) sh.cwd) = true := by
    -- The pid file is written last, and might as well be the same entry.
    by_cases same_place : Path.locate sh.cwd (socketAt (sh.environment parent) sh.cwd) =
        Path.locate sh.cwd path
    · exact setEntry_exists _ _ same_place
    · rw [setEntry_exists_other _ _ same_place]
      exact setEntry_exists _ _ rfl
  have spawned := spawnDaemon_run platform sh child named
    (w := { sys.world sh parent with fs := fs })
  dsimp only at spawned
  obtain ⟨stdout, ran⟩ := up child.value _ spawned bound
  rw [System.start, ran]
  refine ⟨rfl, ⟨_, path, rfl, named, place⟩, ?_, ?_⟩
  · intro p at_place
    exact setEntry_read _ _ (at_place.trans (place sh.cwd).symm)
  · intro p name inside not_socket not_pid
    have entry := same.entries p name inside
    -- Neither entry of the daemon is the one looked at.
    have other_place : Path.locate sh.cwd p ≠ Path.locate sh.cwd path := by
      rw [inside, place]
      exact fun same => not_pid (List.append_inj_right' same rfl |> List.singleton_inj.mp)
    have other_socket : Path.locate sh.cwd p ≠
        Path.locate sh.cwd (socketAt (sh.environment parent) sh.cwd) := by
      rw [inside, socket]
      exact fun same => not_socket (List.append_inj_right' same rfl |> List.singleton_inj.mp)
    exact (setEntry_exists_other _ _ other_place).trans
      ((setEntry_exists_other _ _ other_socket).trans entry)

/-! ### Stops -/

/-- A daemon's own id reaches that daemon and no other. -/
theorem reaches_pid_iff {pid : Pid} {d : Daemon} : Reaches pid.value d ↔ d.pid = pid := by
  have above := pid.positive
  have other := d.pid.positive
  unfold Reaches
  constructor
  · intro reached
    -- Both ids are positive, so neither a group nor a broadcast is meant.
    have same : d.pid.value = pid.value := by omega
    cases hd : d.pid with
    | mk value positive bounded =>
      cases pid
      simpa [hd] using same
  · intro same
    exact Or.inl (by rw [same])

@[simp] theorem receive_pid (calls : List Int) (d : Daemon) : (d.receive calls).pid = d.pid := by
  unfold Daemon.receive
  split <;> rfl

/-- A signal is not taken back. -/
theorem receive_signalled {calls : List Int} {d : Daemon} (before : d.signalled = true) :
    (d.receive calls).signalled = true := by
  unfold Daemon.receive
  split
  · rfl
  · exact before

theorem receive_own (d : Daemon) : (d.receive [(d.pid.value : Int)]).signalled = true := by
  simp [Daemon.receive, reaches_pid_iff]

theorem receive_other {pid : Pid} {d : Daemon} (other : d.pid ≠ pid) :
    d.receive [(pid.value : Int)] = d := by
  simp [Daemon.receive, reaches_pid_iff, other]

theorem deliver_nil (daemons : List Daemon) : deliver [] daemons = daemons := by
  have same : Daemon.receive [] = id := by
    funext d
    simp [Daemon.receive]
  rw [deliver, same, List.map_id]

/-- A stop delivers its `kill` calls to the daemons and changes no file. -/
theorem stop_delivers (sys : System) (caller : Pid) (args : AgentStopArgs) (mode : OutputMode) :
    (sys.stop platform sh caller args mode).2.fs.read = sys.fs.read ∧
      (sys.stop platform sh caller args mode).2.daemons =
        deliver (runStop (sys.kill platform) args mode (sys.world sh caller)).2.signals
          sys.daemons := by
  have frame := runStop_keeps (sys.kill platform) args mode (sys.world sh caller)
  simp only [Prod.mk.injEq] at frame
  exact ⟨frame.1, congrArg (deliver _) frame.2⟩

theorem stop_frame (sys : System) (caller : Pid) (args : AgentStopArgs) (mode : OutputMode) :
    (sys.stop platform sh caller args mode).2.fs.read = sys.fs.read ∧
      ∃ calls, (sys.stop platform sh caller args mode).2.daemons = deliver calls sys.daemons := by
  obtain ⟨read, daemons⟩ := stop_delivers platform sh sys caller args mode
  exact ⟨read, _, daemons⟩

/-- A stop signals the daemon whose id the pid file holds, and no other. -/
theorem stop_written (readsBack : ReadsBack platform) {sys : System} {pid : Pid}
    (holds : PidFileReads sh sys.fs (.ok (platform.pidText pid).toUTF8)) (caller : Pid)
    {args : AgentStopArgs} (default : args.pidFile = none) (mode : OutputMode) :
    (sys.stop platform sh caller args mode).2.daemons = deliver [(pid.value : Int)] sys.daemons ∧
      ((∃ d ∈ sys.daemons, d.pid = pid) → (sys.stop platform sh caller args mode).1 = .ok 0) := by
  have found : foundPid args.pidFile (sys.world sh caller).env (sys.world sh caller).fs =
      some (pid.value : Int) := by
    rw [default]
    exact foundPid_written platform sh readsBack holds caller
  have run := runStop_of_some (sys.kill platform) mode found
  have calls : (runStop (sys.kill platform) args mode (sys.world sh caller)).2.signals =
      [(pid.value : Int)] := run.2
  constructor
  · rw [(stop_delivers platform sh sys caller args mode).2, calls]
  · rintro ⟨d, member, same⟩
    apply run.1.mpr
    rw [System.kill, if_pos ⟨d, member, reaches_pid_iff.mpr same⟩]

/-- Without a readable pid file a stop fails and signals nobody. -/
theorem stop_unreadable {sys : System} {e : IoError}
    (holds : PidFileReads sh sys.fs (.error e)) (caller : Pid) {args : AgentStopArgs}
    (default : args.pidFile = none) (mode : OutputMode) :
    (∃ e, (sys.stop platform sh caller args mode).1 = .error e) ∧
      (sys.stop platform sh caller args mode).2.daemons = sys.daemons := by
  have found : foundPid args.pidFile (sys.world sh caller).env (sys.world sh caller).fs = none := by
    rw [default]
    exact foundPid_default sh holds caller
  obtain ⟨e, failed, silent⟩ := runStop_of_none (sys.kill platform) mode found
  have no_calls : (runStop (sys.kill platform) args mode (sys.world sh caller)).2.signals = [] :=
    silent
  refine ⟨⟨e, failed⟩, ?_⟩
  rw [(stop_delivers platform sh sys caller args mode).2, no_calls]
  exact deliver_nil sys.daemons

/-! ### One daemon at a time -/

/-- The only daemon, and its id in the pid file. -/
structure Advertised (sys : System) (d : Daemon) : Prop where
  only : sys.daemons = [d]
  written : PidFileReads sh sys.fs (.ok (platform.pidText d.pid).toUTF8)

/-- At most one daemon, and that one can be found. -/
def Orderly (sys : System) : Prop :=
  sys.daemons = [] ∨ ∃ d, Advertised platform sh sys d

/-- Every daemon that is left has been signalled. -/
def Stopped (sys : System) : Prop := ∀ d ∈ sys.daemons, d.signalled = true

theorem orderly_start {sys : System} {parent child : Pid} {args : AgentStartArgs}
    (orderly : Orderly platform sh sys) (allowed : OnDefaults sys (.start parent child args))
    (alone : Alone sh sys (.start parent child args)) :
    Orderly platform sh (sys.start platform sh parent child args).2 := by
  cases taken : sys.fs.exists_ (socketAt (sh.environment parent) sh.cwd) with
  | true =>
    -- A refused start changes neither the daemons nor the pid file.
    obtain ⟨daemons, read⟩ := start_of_taken platform sh allowed taken
    rcases orderly with none_left | ⟨d, advertised⟩
    · exact Or.inl (daemons.trans none_left)
    · refine Or.inr ⟨d, daemons.trans advertised.only, fun p at_place => ?_⟩
      rw [read]
      exact advertised.written p at_place
  | false =>
    -- A start that goes ahead found nobody, so its daemon is the only one.
    have none_left : sys.daemons = [] := by
      rcases alone with none_left | refused
      · exact none_left
      · rw [taken] at refused
        exact absurd refused Bool.false_ne_true
    have started := (start_of_free platform sh allowed taken).2
    obtain ⟨config, _, daemons, _⟩ := started.daemon
    rw [none_left] at daemons
    exact Or.inr ⟨_, daemons, started.written⟩

theorem orderly_stop {sys : System} (orderly : Orderly platform sh sys) (caller : Pid)
    (args : AgentStopArgs) (mode : OutputMode) :
    Orderly platform sh (sys.stop platform sh caller args mode).2 := by
  obtain ⟨read, calls, daemons⟩ := stop_frame platform sh sys caller args mode
  rcases orderly with none_left | ⟨d, advertised⟩
  · rw [none_left] at daemons
    exact Or.inl daemons
  · rw [advertised.only] at daemons
    refine Or.inr ⟨_, daemons, fun p at_place => ?_⟩
    rw [read, receive_pid]
    exact advertised.written p at_place

theorem orderly_exit {sys : System} (orderly : Orderly platform sh sys) (pid : Pid) :
    Orderly platform sh (sys.exit sh pid) := by
  unfold System.exit
  split
  · exact orderly
  next d found =>
    -- The only daemon ends: nobody is left, and the pid file no longer matters.
    have matches_pid : d.pid = pid := by simpa using List.find?_some found
    have member := List.mem_of_find?_eq_some found
    rcases orderly with none_left | ⟨d', advertised⟩
    · simp [none_left] at member
    · rw [advertised.only, List.mem_singleton] at member
      subst member
      exact Or.inl (by simp [advertised.only, matches_pid])

theorem orderly_step {sys sys' : System} {e : Event} (orderly : Orderly platform sh sys)
    (alone : Alone sh sys e) (step : Step platform sh sys e sys') : Orderly platform sh sys' := by
  obtain ⟨allowed, rfl⟩ := step
  cases e with
  | start parent child args => exact orderly_start platform sh orderly allowed alone
  | stop caller args mode => exact orderly_stop platform sh orderly caller args mode
  | exit pid => exact orderly_exit platform sh orderly pid

theorem stopped_step {sys sys' : System} {e : Event} (stopped : Stopped sys)
    (quiet : e.isStart = false) (step : Step platform sh sys e sys') : Stopped sys' := by
  obtain ⟨_, rfl⟩ := step
  cases e with
  | start parent child args => simp [Event.isStart] at quiet
  | stop caller args mode =>
    obtain ⟨_, calls, daemons⟩ := stop_frame platform sh sys caller args mode
    intro d member
    simp only [next, daemons, deliver, List.mem_map] at member
    obtain ⟨before, there, rfl⟩ := member
    exact receive_signalled (stopped before there)
  | exit pid =>
    simp only [next, System.exit]
    split
    · exact stopped
    · intro d member
      exact stopped d (List.mem_filter.mp member).1

/-- One stop is enough. -/
theorem stop_settles (readsBack : ReadsBack platform) {sys : System}
    (orderly : Orderly platform sh sys) (caller : Pid) {args : AgentStopArgs}
    (default : args.pidFile = none) (mode : OutputMode) :
    Stopped (sys.stop platform sh caller args mode).2 := by
  rcases orderly with none_left | ⟨d, advertised⟩
  · obtain ⟨_, calls, daemons⟩ := stop_frame platform sh sys caller args mode
    rw [none_left] at daemons
    intro d member
    rw [daemons] at member
    simp [deliver] at member
  · have signalled := (stop_written platform sh readsBack advertised.written caller default mode).1
    rw [advertised.only] at signalled
    intro d' member
    rw [signalled, deliver, List.map_singleton, List.mem_singleton] at member
    rw [member]
    exact receive_own d

theorem no_daemon_without_start {sys sys' : System} {events : List Event}
    (run : Run (Step platform sh) sys events sys') (quiet : ∀ e ∈ events, e.isStart = false)
    (none_left : sys.daemons = []) : sys'.daemons = [] := by
  refine (run.restrict quiet).invariant (I := fun sys => sys.daemons = []) ?_ none_left
  rintro s e _ empty ⟨no_start, _, rfl⟩
  cases e with
  | start parent child args => simp [Event.isStart] at no_start
  | stop caller args mode =>
    obtain ⟨_, calls, daemons⟩ := stop_frame platform sh s caller args mode
    rw [empty] at daemons
    exact daemons
  | exit pid => simp [next, System.exit, empty]

/-- In a run in which no start adds a daemon to another one, every daemon can be
stopped at any time: a stop succeeds and has signalled it. After as many further stops
as there were starts no daemon is left unsignalled. -/
theorem guarded_run_stops (readsBack : ReadsBack platform) {fs : FileSystem}
    {events : List Event} {sys : System}
    (run : Run (fun s e t => Alone sh s e ∧ Step platform sh s e t) ⟨fs, []⟩ events sys) :
    (∀ d ∈ sys.daemons, ∀ caller mode,
      (sys.stop platform sh caller ⟨none⟩ mode).1 = .ok 0 ∧
        ∃ d' ∈ (sys.stop platform sh caller ⟨none⟩ mode).2.daemons,
          d'.pid = d.pid ∧ d'.signalled = true) ∧
      ∀ more final, Run (Step platform sh) sys more final → (∀ e ∈ more, e.isStart = false) →
        events.countP Event.isStart ≤ more.countP Event.isStop → Stopped final := by
  have orderly : Orderly platform sh sys :=
    run.invariant (fun s e t orderly taken => orderly_step platform sh orderly taken.1 taken.2)
      (Or.inl rfl)
  constructor
  · intro d member caller mode
    rcases orderly with none_left | ⟨only, advertised⟩
    · simp [none_left] at member
    · have same : d = only := by simpa [advertised.only] using member
      subst same
      have unnamed : (AgentStopArgs.mk none).pidFile = none := rfl
      have stopped := stop_written platform sh readsBack advertised.written caller unnamed mode
      refine ⟨stopped.2 ⟨d, member, rfl⟩, d.receive [(d.pid.value : Int)], ?_, receive_pid _ d,
        receive_own d⟩
      rw [stopped.1]
      exact List.mem_map_of_mem member
  · intro more final further quiet enough
    have calm := further.restrict quiet
    -- Without a start there was never a daemon; with one, a stop is among the events.
    by_cases started : events.countP Event.isStart = 0
    · have no_start : ∀ e ∈ events, e.isStart = false := by
        intro e member
        rw [Bool.eq_false_iff]
        exact List.countP_eq_zero.mp started e member
      have none_yet := no_daemon_without_start platform sh
        (run.mono fun _ _ _ taken => taken.2) no_start rfl
      have none_left := no_daemon_without_start platform sh further quiet none_yet
      intro d member
      simp [none_left] at member
    · have some_stop : ∃ e ∈ more, e.isStop = true := by
        have many : 0 < more.countP Event.isStop := by omega
        exact List.countP_pos_iff.mp many
      -- Order is kept as nothing is started, the stop settles it, and it stays settled.
      refine calm.established (I := Orderly platform sh) (G := Stopped)
        (p := fun e => e.isStop = true) ?_ ?_ ?_ orderly some_stop
      · rintro s e t before ⟨no_start, step⟩
        refine orderly_step platform sh before ?_ step
        cases e with
        | start parent child args => simp [Event.isStart] at no_start
        | stop => trivial
        | exit => trivial
      · rintro s e t _ ⟨no_start, step⟩ stopped
        exact stopped_step platform sh stopped no_start step
      · rintro s e t before ⟨_, allowed, rfl⟩ stops
        cases e with
        | stop caller args mode =>
          exact stop_settles platform sh readsBack before caller allowed mode
        | start parent child args => simp [Event.isStop] at stops
        | exit pid => simp [Event.isStop] at stops

/-- A start that adds a daemon to a running one hides that one: the next stop goes to the
new daemon, and once this has ended no stop succeeds any more. -/
theorem second_daemon_hides (readsBack : ReadsBack platform) {sys : System} {d : Daemon}
    (member : d ∈ sys.daemons) {parent child : Pid} {args : AgentStartArgs}
    (allowed : OnDefaults sys (.start parent child args))
    (free : sys.fs.exists_ (socketAt (sh.environment parent) sh.cwd) = false)
    (caller later : Pid) (mode : OutputMode) :
    let two := (sys.start platform sh parent child args).2
    let left := (two.stop platform sh caller ⟨none⟩ mode).2.exit sh child
    d ∈ left.daemons ∧ (∃ e, (left.stop platform sh later ⟨none⟩ mode).1 = .error e) ∧
      d ∈ (left.stop platform sh later ⟨none⟩ mode).2.daemons := by
  intro two left
  have started := (start_of_free platform sh allowed free).2
  obtain ⟨config, path, daemons, named, place⟩ := started.daemon
  have unnamed : (AgentStopArgs.mk none).pidFile = none := rfl
  have signalled := (stop_written platform sh readsBack started.written caller unnamed mode).1
  have other : d.pid ≠ child := allowed.2.2 d member
  -- The signal goes to the new daemon only.
  have still : d ∈ (two.stop platform sh caller ⟨none⟩ mode).2.daemons := by
    rw [signalled, deliver, List.mem_map]
    refine ⟨d, ?_, receive_other other⟩
    rw [daemons]
    exact List.mem_cons_of_mem _ member
  have found : (two.stop platform sh caller ⟨none⟩ mode).2.daemons.find? (fun d => d.pid = child) =
      some (Daemon.receive [(child.value : Int)] ⟨child, config, false⟩) := by
    rw [signalled, daemons]
    simp [deliver]
  have gone : left = ⟨unlink sh.cwd (some path) (unlink sh.cwd (some config.socketPath)
      (two.stop platform sh caller ⟨none⟩ mode).2.fs),
      (two.stop platform sh caller ⟨none⟩ mode).2.daemons.filter fun d => d.pid ≠ child⟩ := by
    have same : (Daemon.receive [(child.value : Int)] ⟨child, config, false⟩).config = config := by
      unfold Daemon.receive
      split <;> rfl
    simp only [left, System.exit, found, same, named]
  have there : d ∈ left.daemons := by
    rw [gone]
    exact List.mem_filter.mpr ⟨still, by simpa using other⟩
  -- The new daemon has taken the shared pid file with it.
  have unreadable : PidFileReads sh left.fs (.error noEntry) := by
    intro p at_place
    rw [gone]
    exact setEntry_read none _ (at_place.trans (place sh.cwd).symm)
  obtain ⟨failed, same⟩ := stop_unreadable platform sh unreadable later unnamed mode
  exact ⟨there, failed, same ▸ there⟩

end

/-! ### On a reference platform -/

open Reference

private def refPlatform : Platform where
  exe := "/usr/bin/gitway"
  pidText pid := toString pid.value
  elsewhere _ := .error "ESRCH: No such process"

private def refShell : Shell where
  env := environment [("XDG_RUNTIME_DIR", "/run/user/1000")]
  cwd := "/home/user"
  current := rfl
  rooted := by decide
  unset := by decide

private theorem refPlatform_readsBack : ReadsBack refPlatform :=
  fun pid => Text.parseI32_trim_toString pid.bounded

private def clean : System := ⟨textFiles [], []⟩

private def startArgs : AgentStartArgs := ⟨none, none, none, false, false⟩

private def firstStart : Event :=
  .start ⟨100, by decide, by decide⟩ ⟨101, by decide, by decide⟩ startArgs

theorem guarded_run_stops_one_agent :
    ∃ sys, sys.daemons ≠ [] ∧
      (∀ d ∈ sys.daemons, ∀ caller mode,
        (sys.stop refPlatform refShell caller ⟨none⟩ mode).1 = .ok 0 ∧
          ∃ d' ∈ (sys.stop refPlatform refShell caller ⟨none⟩ mode).2.daemons,
            d'.pid = d.pid ∧ d'.signalled = true) ∧
      ∀ more final, Run (Step refPlatform refShell) sys more final →
        (∀ e ∈ more, e.isStart = false) →
          [firstStart].countP Event.isStart ≤ more.countP Event.isStop → Stopped final := by
  have allowed : OnDefaults clean firstStart := ⟨rfl, rfl, by simp [clean]⟩
  have started := (start_of_free refPlatform refShell allowed rfl).2
  obtain ⟨config, _, daemons, _⟩ := started.daemon
  refine ⟨next refPlatform refShell clean firstStart, ?_, ?_⟩
  · simp only [firstStart, next, daemons]
    exact List.cons_ne_nil _ _
  · exact guarded_run_stops refPlatform refShell refPlatform_readsBack
      (Run.cons ⟨Or.inl rfl, allowed, rfl⟩ (Run.nil _))

private def secondStart : Event :=
  .start ⟨200, by decide, by decide⟩ ⟨201, by decide, by decide⟩ startArgs

private def stopCommand : Event := .stop ⟨300, by decide, by decide⟩ ⟨none⟩ .human

/-- Two starts and a stop, after which the daemon that was started last has ended: the
second stop fails, and the first daemon is still running. -/
theorem second_agent_hides_first :
    ReadsBack refPlatform ∧ ∃ left,
      Run (Step refPlatform refShell) clean
        [firstStart, secondStart, stopCommand, .exit ⟨201, by decide, by decide⟩] left ∧
      ∃ d ∈ left.daemons, d.signalled = false ∧
        (∃ e, (left.stop refPlatform refShell ⟨400, by decide, by decide⟩ ⟨none⟩ .human).1 =
          .error e) ∧
        d ∈ (left.stop refPlatform refShell ⟨400, by decide, by decide⟩ ⟨none⟩
          .human).2.daemons := by
  have first_allowed : OnDefaults clean firstStart := ⟨rfl, rfl, by simp [clean]⟩
  have started := (start_of_free refPlatform refShell first_allowed rfl).2
  obtain ⟨config, _, daemons, _⟩ := started.daemon
  have member : (⟨⟨101, by decide, by decide⟩, config, false⟩ : Daemon) ∈
      (next refPlatform refShell clean firstStart).daemons := by
    simp only [firstStart, next, daemons]
    exact List.mem_cons_self
  have second_allowed : OnDefaults (next refPlatform refShell clean firstStart) secondStart := by
    refine ⟨rfl, rfl, ?_⟩
    simp only [firstStart, next, daemons]
    simp [clean]
  -- The second agent would bind another socket: the names carry the ids of the parents.
  have free : (next refPlatform refShell clean firstStart).fs.exists_
      (socketAt (refShell.environment ⟨200, by decide, by decide⟩) refShell.cwd) = false :=
    started.entries _ _ (locate_socketAt refShell.rooted _) (by decide) (by decide)
  have hidden := second_daemon_hides refPlatform refShell refPlatform_readsBack member
    second_allowed free ⟨300, by decide, by decide⟩ ⟨400, by decide, by decide⟩ .human
  refine ⟨refPlatform_readsBack, _, ?_, _, hidden.1, rfl, hidden.2⟩
  exact Run.cons ⟨first_allowed, rfl⟩ (Run.cons ⟨second_allowed, rfl⟩
    (Run.cons ⟨rfl, rfl⟩ (Run.cons ⟨trivial, rfl⟩ (Run.nil _))))

end Gitway.Agent
