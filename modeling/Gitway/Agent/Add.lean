import Gitway.Agent.Load
import Gitway.Path
import Gitway.Reference
import Mathlib.Logic.Function.Basic

/-!
# Loading keys into the agent

`gitway agent add` and `gitway-add` run the same loop over the key files, written
out twice in the sources. `addOne` is one round of it and `loadKey` the decryption
of one key; the two commands give them their prompts and their messages.

A key whose fingerprint the agent lists is skipped, whatever constraints it is held
under. The last theorem says when a run that succeeded has nevertheless put every
key under the constraints that were asked for.
-/
namespace Gitway.Agent

open Lib Biometric

variable {Priv Pub Ag Va Te β : Type} [PublicKey Pub] [PrivateKey Priv Pub]

/-! ### One round of the loop -/

variable [Agent Ag Priv Pub]

/-- The identities the agent lists. An agent that cannot be listed counts as empty. -/
def loadedIdentities (ag : Ag) : List (Identity Pub) :=
  match Agent.list ag with
  | .ok ids => ids
  | .error _ => []

def sha256 (key : Pub) : String := PublicKey.keygenFingerprint .sha256 key

def isLoaded (loaded : List (Identity Pub)) (key : Priv) : Bool :=
  loaded.any fun id => sha256 id.publicKey == sha256 (PrivateKey.publicKey key)

/-- One round of the loop. `onLoaded` and `onAdded` report the outcome for the path. -/
def addOne (load : String → Priv → UnlockMode → Program Ag Va Te Priv)
    (onLoaded onAdded : β → String → Program Ag Va Te β) (loaded : List (Identity Pub))
    (lifetime : Option Nat) (confirm : Bool) (unlock : UnlockMode) (acc : β) (path : String) :
    Program Ag Va Te β := do
  let pem ← Program.readToString path
  match PrivateKey.fromOpenssh pem with
  | .error e => Fallible.fail (.invalidConfig s!"cannot parse {path}: {e}")
  | .ok key =>
    if unlock ≠ .enroll ∧ isLoaded loaded key = true then
      onLoaded acc path
    else
      let decrypted ← load path key unlock
      Program.onAgent (Agent.add decrypted lifetime confirm)
      onAdded acc path

/-- What the code relies on of the agent: it lists the keys it holds, and a key it
accepts is held under the constraints given with it, in place of earlier ones. -/
structure Holds (held : Ag → String → Option Constraints) : Prop where
  listed : ∀ (ag : Ag) ids, Agent.list ag = .ok ids →
    ∀ print, (∃ id ∈ ids, sha256 id.publicKey = print) ↔ held ag print ≠ none
  added : ∀ (key : Priv) lifetime confirm (ag ag' : Ag),
    Agent.add key lifetime confirm ag = (.ok (), ag') →
      held ag' = Function.update (held ag) (sha256 (PrivateKey.publicKey key))
        (some ⟨lifetime, confirm⟩)

section
variable {load : String → Priv → UnlockMode → Program Ag Va Te Priv}
  {onLoaded onAdded : β → String → Program Ag Va Te β} {loaded : List (Identity Pub)}
  {lifetime : Option Nat} {confirm : Bool} {unlock : UnlockMode}

/-- A round that went well either skipped the key in the file, and changed nothing,
or handed it to the agent. -/
theorem addOne_cases (loader : Loader load)
    (onLoaded_keeps : ∀ acc path, Fallible.Keeps World.setting (onLoaded acc path))
    (onAdded_keeps : ∀ acc path, Fallible.Keeps World.setting (onAdded acc path))
    {acc acc' : β} {path : String} {w w' : World Ag Va Te}
    (returned : addOne load onLoaded onAdded loaded lifetime confirm unlock acc path w =
      (.ok acc', w')) :
    ∃ key : Priv, keyAt Priv w.fs path = some key ∧
      ((unlock ≠ .enroll ∧ isLoaded loaded key = true) ∧ w'.setting = w.setting ∨
        ¬(unlock ≠ .enroll ∧ isLoaded loaded key = true) ∧
          ∃ (plain : Priv) (ag : Ag), PrivateKey.publicKey plain = PrivateKey.publicKey key ∧
            Agent.add plain lifetime confirm w.agent = (.ok (), ag) ∧
            w'.setting = (w.env, w.fs, ag)) := by
  unfold addOne at returned
  obtain ⟨pem, w₁, read, rest⟩ := Fallible.bind_ok_iff.mp returned
  obtain ⟨rfl, file⟩ := Program.readToString_ok read
  cases parsed : (PrivateKey.fromOpenssh pem : Except String Priv) with
  | error e => simp [parsed] at rest
  | ok key =>
    refine ⟨key, keyAt_of_parsed file parsed, ?_⟩
    simp only [parsed] at rest
    split at rest
    next skipped => exact Or.inl ⟨skipped, (onLoaded_keeps acc path).eq rest⟩
    -- What happens around the call of the agent leaves the setting alone.
    next kept =>
      right
      refine ⟨kept, ?_⟩
      obtain ⟨plain, w₂, opened, rest⟩ := Fallible.bind_ok_iff.mp rest
      obtain ⟨⟨⟩, w₃, handed, last⟩ := Fallible.bind_ok_iff.mp rest
      have before := (loader.keeps path key unlock).eq opened
      have after := (onAdded_keeps acc path).eq last
      simp only [World.setting, Prod.mk.injEq] at before
      obtain ⟨env_same, fs_same, agent_same⟩ := before
      rw [Program.onAgent_run, agent_same, Prod.mk.injEq] at handed
      obtain ⟨accepted, rfl⟩ := handed
      refine ⟨plain, (Agent.add plain lifetime confirm w.agent).2,
        loader.same_key path key unlock w plain w₂ opened, Prod.ext accepted rfl, ?_⟩
      rw [after]
      simp [World.setting, env_same, fs_same]

/-- The keys of these files that the loop does not skip, by fingerprint. -/
def Added (Priv : Type) {Pub : Type} [PublicKey Pub] [PrivateKey Priv Pub]
    (loaded : List (Identity Pub)) (unlock : UnlockMode) (fs : FileSystem) (paths : List String)
    (print : String) : Prop :=
  ∃ path ∈ paths, ∃ key : Priv, keyAt Priv fs path = some key ∧
    sha256 (PrivateKey.publicKey key) = print ∧ ¬(unlock ≠ .enroll ∧ isLoaded loaded key = true)

/-- After the loop the keys that were not skipped are under the constraints asked
for, and every other key is as it was. -/
theorem addAll_held {held : Ag → String → Option Constraints} (holds : Holds held)
    (loader : Loader load)
    (onLoaded_keeps : ∀ acc path, Fallible.Keeps World.setting (onLoaded acc path))
    (onAdded_keeps : ∀ acc path, Fallible.Keeps World.setting (onAdded acc path))
    {paths : List String} {acc acc' : β} {w w' : World Ag Va Te}
    (returned : paths.foldlM (addOne load onLoaded onAdded loaded lifetime confirm unlock) acc w =
      (.ok acc', w')) :
    (∀ path ∈ paths, ∃ key : Priv, keyAt Priv w.fs path = some key) ∧
      (∀ print, Added Priv loaded unlock w.fs paths print →
        held w'.agent print = some ⟨lifetime, confirm⟩) ∧
      ∀ print, ¬ Added Priv loaded unlock w.fs paths print →
        held w'.agent print = held w.agent print := by
  -- The invariant of the loop, over the paths already done. Which keys are skipped is
  -- decided by the identities listed before the loop, so it does not change on the way.
  let I (done : List String) (_ : β) (v : World Ag Va Te) : Prop :=
    v.fs = w.fs ∧ (∀ path ∈ done, ∃ key : Priv, keyAt Priv w.fs path = some key) ∧
      (∀ print, Added Priv loaded unlock w.fs done print →
        held v.agent print = some ⟨lifetime, confirm⟩) ∧
      ∀ print, ¬ Added Priv loaded unlock w.fs done print → held v.agent print = held w.agent print
  have start : I [] acc w := ⟨rfl, by simp, by simp [Added], fun _ _ => rfl⟩
  have whole := Fallible.foldlM_ok_invariant
    (addOne load onLoaded onAdded loaded lifetime confirm unlock) I ?step paths start returned
  case step =>
    rintro done path b v b' v' ⟨files, parsed, fresh, others⟩ round
    obtain ⟨key, there, effect⟩ := addOne_cases loader onLoaded_keeps onAdded_keeps round
    rw [files] at there
    have keys : ∀ p ∈ done ++ [path], ∃ key : Priv, keyAt Priv w.fs p = some key := by
      simpa [or_imp, forall_and, there] using parsed
    -- One more path adds at most one more fingerprint.
    have grown (print : String) : Added Priv loaded unlock w.fs (done ++ [path]) print ↔
        Added Priv loaded unlock w.fs done print ∨
          (sha256 (PrivateKey.publicKey key) = print ∧
            ¬(unlock ≠ .enroll ∧ isLoaded loaded key = true)) := by
      simp [Added, or_and_right, exists_or, there]
    rcases effect with ⟨skipped, same⟩ | ⟨kept, plain, ag, public_same, handed, after⟩
    -- A skipped key leaves the agent alone.
    · simp only [World.setting, Prod.mk.injEq] at same
      obtain ⟨_, fs_same, agent_same⟩ := same
      refine ⟨fs_same.trans files, keys, ?_, ?_⟩ <;> intro print <;> rw [grown, agent_same]
      · rintro (earlier | ⟨_, kept⟩)
        · exact fresh print earlier
        · exact absurd skipped kept
      · intro none_added
        exact others print fun earlier => none_added (Or.inl earlier)
    -- A key that is handed over takes the place of its own entry only.
    · simp only [World.setting, Prod.mk.injEq] at after
      obtain ⟨_, fs_same, agent_same⟩ := after
      have entry := holds.added plain lifetime confirm v.agent ag handed
      rw [public_same] at entry
      refine ⟨fs_same.trans files, keys, ?_, ?_⟩ <;> intro print <;>
        rw [grown, agent_same, entry]
      · intro some_added
        by_cases same : print = sha256 (PrivateKey.publicKey key)
        · rw [same, Function.update_self]
        · rw [Function.update_of_ne same]
          exact fresh print (some_added.resolve_right fun now => same now.1.symm)
      · intro none_added
        have differs : print ≠ sha256 (PrivateKey.publicKey key) := fun same =>
          none_added (Or.inr ⟨same.symm, kept⟩)
        rw [Function.update_of_ne differs]
        exact others print fun earlier => none_added (Or.inl earlier)
  obtain ⟨_, rest⟩ := whole
  simpa using rest

end

/-! ### The constraints after the loop -/

/-- The key in every file is held under exactly these constraints. -/
def Constrained (Priv : Type) {Pub : Type} [PublicKey Pub] [PrivateKey Priv Pub]
    (held : Ag → String → Option Constraints) (fs : FileSystem) (paths : List String)
    (c : Constraints) (ag : Ag) : Prop :=
  ∀ path ∈ paths, ∃ key : Priv, keyAt Priv fs path = some key ∧
    held ag (sha256 (PrivateKey.publicKey key)) = some c

/-- None of the keys is skipped while it is held under other constraints: keys are
enrolled, the agent cannot be listed, or those it holds are held under these. -/
def NoOtherTerms (held : Ag → String → Option Constraints) (unlock : UnlockMode)
    (fs : FileSystem) (paths : List String) (c : Constraints) (ag : Ag) : Prop :=
  unlock = .enroll ∨ (∃ e, Agent.list ag = .error e) ∨
    ∀ path ∈ paths, ∀ key : Priv, keyAt Priv fs path = some key →
      ∀ old, held ag (sha256 (PrivateKey.publicKey key)) = some old → old = c

theorem isLoaded_iff {held : Ag → String → Option Constraints} (holds : Holds held)
    {ag : Ag} {ids : List (Identity Pub)} (listed : Agent.list ag = .ok ids) (key : Priv) :
    isLoaded (loadedIdentities ag) key = true ↔
      held ag (sha256 (PrivateKey.publicKey key)) ≠ none := by
  rw [← holds.listed ag ids listed]
  simp [isLoaded, loadedIdentities, listed]

/-- Both loops meet the request exactly when no key they skip is held on other terms. -/
theorem addAll_constrained_iff {held : Ag → String → Option Constraints} (holds : Holds held)
    {load : String → Priv → UnlockMode → Program Ag Va Te Priv} (loader : Loader load)
    {onLoaded onAdded : β → String → Program Ag Va Te β}
    (onLoaded_keeps : ∀ acc path, Fallible.Keeps World.setting (onLoaded acc path))
    (onAdded_keeps : ∀ acc path, Fallible.Keeps World.setting (onAdded acc path))
    {lifetime : Option Nat} {confirm : Bool} {unlock : UnlockMode} {paths : List String}
    {acc acc' : β} {w w' : World Ag Va Te}
    (returned : paths.foldlM (addOne load onLoaded onAdded (loadedIdentities w.agent) lifetime
      confirm unlock) acc w = (.ok acc', w')) :
    Constrained Priv held w.fs paths ⟨lifetime, confirm⟩ w'.agent ↔
      NoOtherTerms held unlock w.fs paths ⟨lifetime, confirm⟩ w.agent := by
  obtain ⟨parsed, fresh, others⟩ :=
    addAll_held holds loader onLoaded_keeps onAdded_keeps returned
  constructor
  · intro constrained
    by_cases enrolling : unlock = .enroll
    · exact Or.inl enrolling
    cases listed : Agent.list w.agent with
    | error e => exact Or.inr (Or.inl ⟨e, listed⟩)
    | ok ids =>
      refine Or.inr (Or.inr fun path member key there old before => ?_)
      obtain ⟨key', there', after⟩ := constrained path member
      obtain rfl : key' = key := Option.some.inj (there'.symm.trans there)
      -- A key that the agent held was skipped on every path it is found under.
      have skipped : ¬ Added Priv (loadedIdentities w.agent) unlock w.fs paths
          (sha256 (PrivateKey.publicKey key')) := by
        rintro ⟨_, _, twin, _, same, kept⟩
        refine kept ⟨enrolling, (isLoaded_iff holds listed twin).mpr ?_⟩
        rw [same, before]
        simp
      rw [others _ skipped, before] at after
      exact Option.some.inj after
  · intro terms path member
    obtain ⟨key, there⟩ := parsed path member
    refine ⟨key, there, ?_⟩
    by_cases added : Added Priv (loadedIdentities w.agent) unlock w.fs paths
        (sha256 (PrivateKey.publicKey key))
    · exact fresh _ added
    -- A key that was not added was skipped, so the agent held it before.
    have skipped : unlock ≠ .enroll ∧ isLoaded (loadedIdentities w.agent) key = true := by
      by_contra kept
      exact added ⟨path, member, key, there, rfl, kept⟩
    rw [others _ added]
    rcases terms with enrolling | ⟨e, unlisted⟩ | same_terms
    · exact absurd enrolling skipped.1
    · simp [isLoaded, loadedIdentities, unlisted] at skipped
    · cases before : held w.agent (sha256 (PrivateKey.publicKey key)) with
      | some old => rw [same_terms path member key there old before]
      | none =>
        cases listed : Agent.list w.agent with
        | error e => simp [isLoaded, loadedIdentities, listed] at skipped
        | ok ids => exact absurd before ((isLoaded_iff holds listed key).mp skipped.2)

/-! ### The two commands -/

variable [BiometricVault Va] [Terminal Te]

def defaultKeyPaths : Program Ag Va Te (List String) :=
  Fallible.query fun w =>
    match w.env.homeDir with
    | none => .error (.invalidConfig "cannot determine $HOME")
    | some home =>
      let candidates := ["id_ed25519", "id_ecdsa", "id_rsa"]
      let found := (candidates.map fun name => Path.join (Path.join home ".ssh") name).filter
        w.fs.exists_
      if found.isEmpty then .error .noKeyFound else .ok found

structure AgentAddArgs where
  files : List String
  lifetime : Option Nat
  confirm : Bool
  biometric : Bool
  noBiometric : Bool

def AgentAddArgs.unlock (args : AgentAddArgs) : UnlockMode :=
  .fromFlags args.biometric args.noBiometric

/-- The files to load: the ones named, else the default ones. -/
def AgentAddArgs.paths (args : AgentAddArgs) : Program Ag Va Te (List String) :=
  if args.files.isEmpty then defaultKeyPaths else pure args.files

def reportAdded (args : AgentAddArgs) (mode : OutputMode) (added alreadyLoaded : List String) :
    Program Ag Va Te Unit := do
  match mode with
  | .json =>
    let env ← Program.environment
    Program.emitJson (.obj [
      ("metadata", metadataBlock env "gitway agent add"),
      ("data", .obj [
        ("added", .arr (added.map .str)),
        ("lifetime_seconds", .ofOption (fun n : Nat => .num n) args.lifetime),
        ("confirm", .bool args.confirm)])])
  | .human =>
    added.forM fun path => Program.eprintln s!"gitway: identity added: {path}"
    alreadyLoaded.forM fun path => Program.eprintln s!"gitway: identity already loaded: {path}"

def runAdd (args : AgentAddArgs) (mode : OutputMode) : Program Ag Va Te Nat := do
  let paths ← args.paths
  Fallible.query fun w => Agent.fromEnv (w.env.vars "SSH_AUTH_SOCK") w.agent
  let loaded ← Fallible.query fun w => .ok (loadedIdentities w.agent)
  let (added, alreadyLoaded) ← paths.foldlM
    (addOne loadPrivateKey (fun (added, already) path => pure (added, already ++ [path]))
      (fun (added, already) path => pure (added ++ [path], already))
      loaded args.lifetime args.confirm args.unlock)
    ([], [])
  reportAdded args mode added alreadyLoaded
  return 0

/-- `add` of `gitway-add`. -/
def shimAdd (paths : List String) (lifetime : Option Nat) (confirm : Bool) (unlock : UnlockMode) :
    Program Ag Va Te Nat := do
  let loaded ← Fallible.query fun w => .ok (loadedIdentities w.agent)
  paths.foldlM
    (addOne loadAndDecrypt (fun _ path => Program.println s!"Identity already loaded: {path}")
      (fun _ path => Program.println s!"Identity added: {path}") loaded lifetime confirm unlock) ()
  return 0

omit [BiometricVault Va] [Terminal Te] in
theorem reportAdded_run (args : AgentAddArgs) (mode : OutputMode)
    (added alreadyLoaded : List String) (w : World Ag Va Te) :
    ∃ stdout stderr, reportAdded args mode added alreadyLoaded w =
      (.ok (), { w with stdout := stdout, stderr := stderr }) := by
  cases mode with
  | json => exact ⟨_, _, rfl⟩
  | human =>
    have first := Program.forM_eprintln_run (fun path => s!"gitway: identity added: {path}") added w
    unfold reportAdded
    dsimp only
    rw [Fallible.bind_of_ok first, Program.forM_eprintln_run]
    exact ⟨_, _, rfl⟩

omit [Agent Ag Priv Pub] [BiometricVault Va] [Terminal Te] [PublicKey Pub] [PrivateKey Priv Pub] in
/-- The paths are read off the world. -/
theorem AgentAddArgs.keeps_paths {τ : Type} (view : World Ag Va Te → τ) (args : AgentAddArgs) :
    Fallible.Keeps view args.paths := by
  unfold AgentAddArgs.paths
  split
  · exact Fallible.Keeps.query _
  · exact Fallible.Keeps.pure _

/-- A run that returned has chosen its paths, reached the agent and ended the loop, and then
made its report. -/
theorem runAdd_returned {args : AgentAddArgs} {mode : OutputMode} {w w' : World Ag Va Te}
    {code : Nat} (returned : runAdd args mode w = (.ok code, w')) :
    ∃ paths report v, args.paths w = (.ok paths, w) ∧
      Agent.fromEnv (w.env.vars "SSH_AUTH_SOCK") w.agent = .ok () ∧
      paths.foldlM (addOne loadPrivateKey (fun (added, already) path =>
          pure (added, already ++ [path])) (fun (added, already) path =>
          pure (added ++ [path], already)) (loadedIdentities w.agent) args.lifetime args.confirm
          args.unlock) ([], []) w = (.ok report, v) ∧
      reportAdded args mode report.1 report.2 v = (.ok (), w') := by
  unfold runAdd at returned
  obtain ⟨paths, w₁, chosen, rest⟩ := Fallible.bind_ok_iff.mp returned
  obtain rfl : w = w₁ := ((args.keeps_paths id).eq chosen).symm
  obtain ⟨⟨⟩, w₂, connected, rest⟩ := Fallible.bind_ok_iff.mp rest
  simp only [Fallible.query_run, Prod.mk.injEq] at connected
  obtain ⟨connected, rfl⟩ := connected
  obtain ⟨loaded, w₃, listed, rest⟩ := Fallible.bind_ok_iff.mp rest
  simp only [Fallible.query_run, Prod.mk.injEq, Except.ok.injEq] at listed
  obtain ⟨rfl, rfl⟩ := listed
  obtain ⟨report, v, looped, last⟩ := Fallible.bind_ok_iff.mp rest
  obtain ⟨⟨⟩, w₄, made, last⟩ := Fallible.bind_ok_iff.mp last
  simp only [Fallible.pure_run, Prod.mk.injEq] at last
  obtain ⟨_, rfl⟩ := last
  exact ⟨paths, report, v, chosen, connected, looped, made⟩

/-- A successful run of either command leaves every key under the requested
constraints exactly when no key that it skips was held on other terms. -/
theorem add_constrains_iff {held : Ag → String → Option Constraints} (holds : Holds held)
    (law : DecryptKeepsPublic Priv) :
    (∀ (paths : List String) lifetime confirm unlock (w w' : World Ag Va Te) code,
      shimAdd paths lifetime confirm unlock w = (.ok code, w') →
        (Constrained Priv held w.fs paths ⟨lifetime, confirm⟩ w'.agent ↔
          NoOtherTerms held unlock w.fs paths ⟨lifetime, confirm⟩ w.agent)) ∧
    ∀ (args : AgentAddArgs) mode (paths : List String) (w w' : World Ag Va Te) code,
      args.paths w = (.ok paths, w) → runAdd args mode w = (.ok code, w') →
        (Constrained Priv held w.fs paths ⟨args.lifetime, args.confirm⟩ w'.agent ↔
          NoOtherTerms held args.unlock w.fs paths ⟨args.lifetime, args.confirm⟩ w.agent) := by
  constructor
  · intro paths lifetime confirm unlock w w' code returned
    obtain ⟨loaded, w₁, listed, rest⟩ := Fallible.bind_ok_iff.mp returned
    simp only [Fallible.query_run, Prod.mk.injEq, Except.ok.injEq] at listed
    obtain ⟨rfl, rfl⟩ := listed
    obtain ⟨⟨⟩, w₂, looped, last⟩ := Fallible.bind_ok_iff.mp rest
    simp only [Fallible.pure_run, Prod.mk.injEq] at last
    obtain ⟨_, rfl⟩ := last
    exact addAll_constrained_iff holds (loadAndDecrypt_loader law)
      (fun _ _ => Program.keeps_println _) (fun _ _ => Program.keeps_println _) looped
  · intro args mode paths w w' code chosen returned
    obtain ⟨paths', report, w₃, chosen', _, looped, made⟩ := runAdd_returned returned
    obtain rfl : paths = paths' := by simpa [chosen] using chosen'
    obtain ⟨stdout, stderr, printed⟩ := reportAdded_run args mode report.1 report.2 w₃
    rw [printed, Prod.mk.injEq] at made
    have agent_same : w'.agent = w₃.agent := by rw [← made.2]
    rw [agent_same]
    exact addAll_constrained_iff holds (loadPrivateKey_loader law)
      (fun _ _ => Fallible.Keeps.pure _) (fun _ _ => Fallible.Keeps.pure _) looped

/-! ### On the reference agent -/

open Reference

theorem refAgent_holds : Holds RefAgent.held where
  listed := by
    intro ag ids listed print
    simp only [Agent.list] at listed
    split at listed
    · simp at listed
    · cases listed
      simp [RefAgent.held, sha256, PublicKey.keygenFingerprint, List.find?_eq_none]
  added := by
    intro key lifetime confirm ag ag' accepted
    simp only [Agent.add] at accepted
    split at accepted
    · simp at accepted
    · cases accepted
      funext print
      by_cases same : print = sha256 (PrivateKey.publicKey key)
      · rw [same, Function.update_self]
        simp [RefAgent.held, RefAgent.put, sha256, PublicKey.keygenFingerprint,
          PrivateKey.publicKey]
      · rw [Function.update_of_ne same]
        have head : ("SHA256:" ++ key.key.blob == print) = false :=
          beq_eq_false_iff_ne.mpr (Ne.symm same)
        have rest : (fun e : RefPublic × Constraints =>
            decide (decide (e.1 ≠ key.key) = true ∧ ("SHA256:" ++ e.1.blob == print) = true)) =
              fun e => "SHA256:" ++ e.1.blob == print := by
          funext e
          by_cases replaced : e.1 = key.key
          · simp [replaced, head]
          · rw [Bool.eq_iff_iff]
            simp [replaced]
        unfold RefAgent.held RefAgent.put
        rw [List.find?_cons_of_neg (by simp [head]), List.find?_filter, rest]

/-- One unencrypted key file, and an agent with these entries. -/
private def oneKey (entries : List (RefPublic × Constraints)) : RefWorld :=
  world [("SSH_AUTH_SOCK", "/run/agent.sock")] [("id", "openssh-key-v1 AAAAC3 none")]
    ⟨false, entries⟩ ⟨[]⟩ ⟨[]⟩

private def confirmed : AgentAddArgs := ⟨["id"], none, true, false, false⟩

private theorem oneKey_parsed :
    (PrivateKey.fromOpenssh "openssh-key-v1 AAAAC3 none" : Except String RefPrivate) =
      .ok ⟨⟨"AAAAC3"⟩, none⟩ := by decide

private theorem oneKey_keyAt (entries : List (RefPublic × Constraints)) :
    keyAt RefPrivate (oneKey entries).fs "id" = some ⟨⟨"AAAAC3"⟩, none⟩ := by
  simp [keyAt, oneKey, world, Except.toOption, oneKey_parsed]

private theorem oneKey_shimAdd :
    (shimAdd ["id"] none true .auto (oneKey [])).1 = .ok 0 := by
  simp [shimAdd, Fallible.bind_run, addOne, oneKey_parsed, isLoaded, loadedIdentities, Agent.list,
    loadAndDecrypt, loadKey, PrivateKey.isEncrypted, Agent.add, oneKey, world]

private theorem oneKey_runAdd :
    (runAdd confirmed .human (oneKey [])).1 = .ok 0 := by
  simp [runAdd, Fallible.bind_run, addOne, oneKey_parsed, isLoaded, loadedIdentities, Agent.list,
    loadPrivateKey, loadKey, PrivateKey.isEncrypted, Agent.add, oneKey, world, confirmed,
    AgentAddArgs.paths, AgentAddArgs.unlock, UnlockMode.fromFlags, Agent.fromEnv, environment,
    reportAdded]

theorem add_constrains_new_key :
    (Constrained RefPrivate RefAgent.held (oneKey []).fs ["id"] ⟨none, true⟩
        (shimAdd ["id"] none true .auto (oneKey [])).2.agent ↔
      NoOtherTerms RefAgent.held .auto (oneKey []).fs ["id"] ⟨none, true⟩ (oneKey []).agent) ∧
    (Constrained RefPrivate RefAgent.held (oneKey []).fs ["id"] ⟨none, true⟩
        (runAdd confirmed .human (oneKey [])).2.agent ↔
      NoOtherTerms RefAgent.held confirmed.unlock (oneKey []).fs ["id"] ⟨none, true⟩
        (oneKey []).agent) :=
  ⟨(add_constrains_iff refAgent_holds decryptKeepsPublic).1 ["id"] none true .auto (oneKey []) _ 0
      (Fallible.run_eq oneKey_shimAdd),
    (add_constrains_iff refAgent_holds decryptKeepsPublic).2 confirmed .human ["id"] (oneKey []) _ 0
      rfl (Fallible.run_eq oneKey_runAdd)⟩

/-- An agent that holds the key without confirmation. -/
private def unconfirmed : RefWorld := oneKey [(⟨"AAAAC3"⟩, ⟨none, false⟩)]

private theorem unconfirmed_shimAdd :
    (shimAdd ["id"] none true .auto unconfirmed).1 = .ok 0 ∧
      (shimAdd ["id"] none true .auto unconfirmed).2.agent = unconfirmed.agent := by
  constructor <;>
  simp [shimAdd, Fallible.bind_run, addOne, oneKey_parsed, isLoaded, loadedIdentities, Agent.list,
    unconfirmed, oneKey, world, sha256, PublicKey.keygenFingerprint, PrivateKey.publicKey]

private theorem unconfirmed_runAdd :
    (runAdd confirmed .human unconfirmed).1 = .ok 0 ∧
      (runAdd confirmed .human unconfirmed).2.agent = unconfirmed.agent := by
  constructor <;>
  simp [runAdd, Fallible.bind_run, addOne, oneKey_parsed, isLoaded, loadedIdentities, Agent.list,
    unconfirmed, oneKey, world, sha256, PublicKey.keygenFingerprint, PrivateKey.publicKey,
    confirmed, AgentAddArgs.paths, AgentAddArgs.unlock, UnlockMode.fromFlags, Agent.fromEnv,
    environment, reportAdded]

private theorem unconfirmed_not_constrained :
    ¬ Constrained RefPrivate RefAgent.held unconfirmed.fs ["id"] ⟨none, true⟩
      unconfirmed.agent := by
  intro constrained
  obtain ⟨key, there, held⟩ := constrained "id" (by simp)
  obtain rfl : _ = key := Option.some.inj ((oneKey_keyAt _).symm.trans there)
  exact absurd held (by decide)

/-- The agent holds the key without confirmation, and `-c` is asked for: both
commands succeed and the key stays as it is. -/
theorem add_leaves_unconfirmed :
    Holds RefAgent.held ∧ DecryptKeepsPublic RefPrivate ∧
      (∃ w', shimAdd ["id"] none true .auto unconfirmed = (.ok 0, w') ∧
        ¬ Constrained RefPrivate RefAgent.held unconfirmed.fs ["id"] ⟨none, true⟩ w'.agent) ∧
      ∃ w', runAdd confirmed .human unconfirmed = (.ok 0, w') ∧
        ¬ Constrained RefPrivate RefAgent.held unconfirmed.fs ["id"] ⟨none, true⟩ w'.agent := by
  refine ⟨refAgent_holds, decryptKeepsPublic, ⟨_, Fallible.run_eq unconfirmed_shimAdd.1, ?_⟩,
    ⟨_, Fallible.run_eq unconfirmed_runAdd.1, ?_⟩⟩
  · rw [unconfirmed_shimAdd.2]
    exact unconfirmed_not_constrained
  · rw [unconfirmed_runAdd.2]
    exact unconfirmed_not_constrained

end Gitway.Agent
