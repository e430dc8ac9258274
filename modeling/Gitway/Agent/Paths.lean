import Gitway.World
import Gitway.Path

/-!
# Where an agent is found by default

The default socket carries the process id of whoever asks for it. The pid file
stands next to the socket under a fixed name, so its place is the same for every
process of one environment.
-/
namespace Gitway.Agent

open Lib

variable {Ag Va Te : Type}

/-- `fs::create_dir_all`, then `fs::set_permissions` with mode 0700. What can be
read as a file stays the same. -/
def createPrivateDir (cwd dir : String) (fs : FileSystem) : FileSystem :=
  match fs.refuses dir with
  | some _ => fs
  | none =>
    { fs with
      exists_ := fun p =>
        fs.exists_ p || (!p.isEmpty && (Path.locate cwd p).isPrefixOf (Path.locate cwd dir))
      mode := fun p =>
        if Path.locate cwd p = Path.locate cwd dir then some 0o700 else fs.mode p }

/-- The directory of the default socket. -/
def runtimeDir (env : Environment) : String :=
  match env.var "XDG_RUNTIME_DIR" with
  | some runtime => runtime
  | none =>
    let tmp := (env.var "TMPDIR").getD "/tmp"
    let user := (env.var "USER").getD "default"
    Path.join tmp s!"gitway-agent-{user}"

/-- `default_socket_path`, with what becomes of the directory that is made private. -/
def defaultSocketPathWith {σ : Type} (env : Environment) (makePrivate : String → σ → σ) (s : σ) :
    String × σ :=
  match env.var "XDG_RUNTIME_DIR" with
  | some runtime => (Path.join runtime s!"gitway-agent.{env.processId}.sock", s)
  | none =>
    let dir := runtimeDir env
    -- Both refusals are ignored: the directory may be there already.
    (Path.join dir s!"agent.{env.processId}", makePrivate dir s)

def defaultSocketPath : Program Ag Va Te String := do
  let env ← Program.environment
  let made ← Fallible.query fun w => .ok <|
    defaultSocketPathWith env (createPrivateDir (env.currentDir.toOption.getD "")) w.fs
  Fallible.update fun w => { w with fs := made.2 }
  return made.1

def defaultPidPath (socketPath : String) : Option String :=
  (Path.parent socketPath).map fun dir => Path.join dir "gitway-agent.pid"

def socketName (env : Environment) : String :=
  match env.var "XDG_RUNTIME_DIR" with
  | some _ => s!"gitway-agent.{env.processId}.sock"
  | none => s!"agent.{env.processId}"

/-! ### Names -/

theorem separator_notMem_toString (n : Nat) : '/' ∉ (toString n).toList := by
  intro member
  have digit : ('/' : Char).isDigit = true := by
    rw [Nat.toString_eq_ofList_toDigits, String.toList_ofList] at member
    exact Nat.isDigit_of_mem_toDigits (b := 10) (by decide) (by decide) member
  exact absurd digit (by decide)

private theorem plain_append {start rest : String} (clean : '/' ∉ start.toList)
    (long : 1 < start.toList.length) (clean_rest : '/' ∉ rest.toList) :
    Path.Plain (start ++ rest) := by
  refine ⟨?_, ?_⟩
  · simp [String.toList_append, clean, clean_rest]
  · unfold Path.isName
    rw [String.toList_append]
    match start.toList, long with
    | c :: d :: cs, _ => simp

theorem socketName_plain (env : Environment) : Path.Plain (socketName env) := by
  have digits := separator_notMem_toString env.processId
  unfold socketName
  split
  · have ending : '/' ∉ (toString env.processId ++ ".sock").toList := by
      rw [String.toList_append, List.mem_append, not_or]
      exact ⟨digits, by decide⟩
    have plain : Path.Plain ("gitway-agent." ++ (toString env.processId ++ ".sock")) :=
      plain_append (by decide) (by decide) ending
    rwa [← String.append_assoc] at plain
  · have plain : Path.Plain ("agent." ++ toString env.processId) :=
      plain_append (by decide) (by decide) digits
    exact plain

theorem pidName_plain : Path.Plain "gitway-agent.pid" := by decide

/-! ### Places -/

/-- The files read the same, and the entries of the directory are the same. -/
structure Undisturbed (cwd dir : String) (fs fs' : FileSystem) : Prop where
  read : fs'.read = fs.read
  entries : ∀ p name, Path.locate cwd p = Path.locate cwd dir ++ [name] →
    fs'.exists_ p = fs.exists_ p

theorem Undisturbed.refl (cwd dir : String) (fs : FileSystem) : Undisturbed cwd dir fs fs :=
  ⟨rfl, fun _ _ _ => rfl⟩

theorem createPrivateDir_undisturbed (cwd dir : String) (fs : FileSystem) :
    Undisturbed cwd dir fs (createPrivateDir cwd dir fs) := by
  unfold createPrivateDir
  split
  · exact Undisturbed.refl cwd dir fs
  · refine ⟨rfl, fun p name inside => ?_⟩
    -- Only the directory and what is above it can come into being.
    have deeper : (Path.locate cwd p).isPrefixOf (Path.locate cwd dir) = false := by
      rw [inside, Bool.eq_false_iff]
      intro above
      have shorter := (List.isPrefixOf_iff_prefix.mp above).length_le
      simp only [List.length_append, List.length_singleton] at shorter
      omega
    simp [deeper]

theorem defaultSocketPathWith_fst {σ : Type} (env : Environment) (makePrivate : String → σ → σ)
    (s : σ) :
    (defaultSocketPathWith env makePrivate s).1 = Path.join (runtimeDir env) (socketName env) := by
  unfold defaultSocketPathWith
  cases runtime : env.var "XDG_RUNTIME_DIR" with
  | some dir => simp [runtimeDir, socketName, runtime]
  | none => simp [socketName, runtime]

/-- The default socket stands in the runtime directory. -/
theorem defaultSocketPath_run (w : World Ag Va Te) :
    ∃ fs, defaultSocketPath w =
        (.ok (Path.join (runtimeDir w.env) (socketName w.env)), { w with fs := fs }) ∧
      Undisturbed (w.env.currentDir.toOption.getD "") (runtimeDir w.env) w.fs fs := by
  let made := defaultSocketPathWith w.env
    (createPrivateDir (w.env.currentDir.toOption.getD "")) w.fs
  have ran : defaultSocketPath w = (.ok made.1, { w with fs := made.2 }) := rfl
  refine ⟨made.2, ran.trans (by rw [← defaultSocketPathWith_fst]), ?_⟩
  show Undisturbed _ _ _ (defaultSocketPathWith _ _ _).2
  unfold defaultSocketPathWith
  split
  · exact Undisturbed.refl _ _ _
  · exact createPrivateDir_undisturbed _ _ _

/-- The place of the default pid file does not depend on the name of the socket. -/
theorem defaultPidPath_place (dir : String) {name : String} (plain : Path.Plain name) :
    ∃ path, defaultPidPath (Path.join dir name) = some path ∧
      ∀ cwd, Path.locate cwd path = Path.locate cwd dir ++ ["gitway-agent.pid".toList] := by
  obtain ⟨up, above, same⟩ := Path.parent_join dir plain
  refine ⟨Path.join up "gitway-agent.pid", by simp [defaultPidPath, above], fun cwd => ?_⟩
  rw [Path.locate_join_plain cwd up pidName_plain, same cwd]

end Gitway.Agent
