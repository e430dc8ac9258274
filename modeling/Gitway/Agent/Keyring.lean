import Gitway.AddShim.Grammar
import Gitway.AddShim.Run
import Gitway.Agent.Again
import Gitway.Lib.Follows
import Gitway.Lib.Keyring
import Gitway.Streams

/-!
# The agent over many processes

An agent serves `gitway` and `gitway-add` for as long as it runs. What it holds is a keyring
behind a lock, and whatever a process does to it is a run of the operations that its command
line stands for. So the keys that are held after any number of processes, each in a world of
its own, are told from their command lines.
-/
namespace Gitway.Agent

open Lib Lib.Fallible
open AddShim (AgentControl PublicKeyText)

abbrev Ring : Type := Keyring String Constraints String

abbrev RingOp : Type := Keyring.Op String Constraints String

/-- `gitway agent` and `gitway-add` speak to one client. -/
instance (priority := low) {Ag Priv Pub : Type} [AgentControl Ag Priv Pub] : AgentAdmin Ag Pub where
  remove := AgentControl.remove
  removeAll := AgentControl.removeAll
  lock := AgentControl.lock
  unlock := AgentControl.unlock

variable {Priv Pub Ag Va Te : Type}

/-- A call that the agent serves is this operation, and one that it refuses changes nothing. -/
def ServedAs (mortal : Constraints → Prop) (ring : Ag → Ring) (op : RingOp) (ag : Ag) :
    Except AnvilError Unit × Ag → Prop
  | (.ok (), ag') => Keyring.Step mortal (ring ag) op (ring ag')
  | (.error _, ag') => ring ag' = ring ag

/-- What is relied on of the agent: it keeps a keyring, which it lists while it is open. Keys
are known by their fingerprints. -/
structure Keeper [PublicKeyText Pub] [PrivateKey Priv Pub] [AgentControl Ag Priv Pub]
    (mortal : Constraints → Prop) (ring : Ag → Ring) : Prop where
  listed : ∀ (ag : Ag) ids, Agent.list ag = .ok ids →
    ∀ print, (∃ id ∈ ids, sha256 id.publicKey = print) →
      (ring ag).lock = none ∧ (ring ag).terms print ≠ none
  add : ∀ (key : Priv) lifetime confirm (ag : Ag),
    ServedAs mortal ring (.insert (sha256 (PrivateKey.publicKey key)) ⟨lifetime, confirm⟩) ag
      (Agent.add key lifetime confirm ag)
  remove : ∀ (key : Pub) (ag : Ag),
    ServedAs mortal ring (.erase (sha256 key)) ag (AgentControl.remove key ag)
  removeAll : ∀ ag : Ag, ServedAs mortal ring .clear ag (AgentControl.removeAll ag)
  lock : ∀ pass (ag : Ag), ServedAs mortal ring (.lock pass) ag (AgentControl.lock pass ag)
  unlock : ∀ pass (ag : Ag), ServedAs mortal ring (.unlock pass) ag (AgentControl.unlock pass ag)

/-! ### Requests -/

/-- What a command line asks of the agent. A passphrase is given or typed, or it is not there. -/
inductive Request where
  | nothing
  | add (paths : List String) (c : Constraints)
  | remove (path : String)
  | removeAll
  | lock (pass : Option String)
  | unlock (pass : Option String)

section
variable [PublicKeyText Pub] [PrivateKey Priv Pub]

variable (Priv) in
/-- The public key that a file names. -/
def publicAt (fs : FileSystem) (path : String) : Option Pub :=
  (fs.readToString path).toOption.bind fun raw => (AddShim.publicKeyIn Priv raw).toOption

variable (Priv) in
/-- One of these files holds the private key with this fingerprint. -/
def Holding (fs : FileSystem) (paths : List String) (print : String) : Prop :=
  ∃ path ∈ paths, ∃ key : Priv, keyAt Priv fs path = some key ∧
    sha256 (PrivateKey.publicKey key) = print

variable (Priv) in
/-- The request stands for this operation, or for this one among others. -/
def Request.Means (fs : FileSystem) (op : RingOp) : Request → Prop
  | .nothing => False
  | .add paths c => ∃ print, Holding Priv fs paths print ∧ op = .insert print c
  | .remove path => ∃ key, publicAt Priv fs path = some key ∧ op = .erase (sha256 key)
  | .removeAll => op = .clear
  | .lock pass => ∃ s, pass = some s ∧ op = .lock s
  | .unlock pass => ∃ s, pass = some s ∧ op = .unlock s

variable (Priv) in
/-- The operations are all that was requested. A key that is held already is not added. -/
def Request.Done (r : Ring) (fs : FileSystem) (ops : List RingOp) : Request → Prop
  | .nothing => True
  | .add paths c =>
    paths ≠ [] ∧ ∀ path ∈ paths, ∃ print, Holding Priv fs [path] print ∧
      (.insert print c ∈ ops ∨ r.lock = none ∧ r.terms print ≠ none)
  | _ => ops ≠ []

variable (Priv) in
/-- The operations of a process with this request, and whether it succeeded. The agent had
this keyring at the start. -/
structure Request.Does (request : Request) (r : Ring) (fs : FileSystem) (ok : Bool)
    (ops : List RingOp) : Prop where
  each : ∀ op ∈ ops, request.Means Priv fs op
  all : ok = true → request.Done Priv r fs ops

end

/-! ### One process -/

section
variable {mortal : Constraints → Prop} {ring : Ag → Ring}

/-- What the program does to the keyring, with its outcome. -/
abbrev Rings {α : Type} (mortal : Constraints → Prop) (ring : Ag → Ring)
    (L : Except AnvilError α → List RingOp → Prop) (x : Program Ag Va Te α)
    (w : World Ag Va Te) : Prop :=
  Follows (Keyring.Step mortal) (fun w => ring w.agent) L x w

theorem keeps_ring {α : Type} {parts : List Part} {x : Program Ag Va Te α}
    (touches : Touches parts x) (unlisted : .agent ∉ parts) :
    Keeps (fun w : World Ag Va Te => ring w.agent) x :=
  fun w => congrArg ring ((touches w).agent unlisted)

theorem keeps_ring_of_setting {α : Type} {x : Program Ag Va Te α}
    (keeps : Keeps World.setting x) : Keeps (fun w : World Ag Va Te => ring w.agent) x :=
  fun w => congrArg (fun setting => ring setting.2.2) (keeps w)

theorem rings_onAgent {op : RingOp} {call : Ag → Except AnvilError Unit × Ag}
    (served : ∀ ag, ServedAs mortal ring op ag (call ag)) (w : World Ag Va Te) :
    Rings mortal ring (fun r ops => ops = [] ∧ (∃ e, r = .error e) ∨ r = .ok () ∧ ops = [op])
      (Program.onAgent call) w := by
  have result := served w.agent
  cases called : call w.agent with
  | mk r ag =>
    rw [called] at result
    have ran : Program.onAgent call w = (r, { w with agent := ag }) := by
      rw [Program.onAgent_run, called]
    unfold Rings Follows
    rw [ran]
    cases r with
    | error e =>
      have same : ring ag = ring w.agent := result
      refine ⟨[], ?_, Or.inl ⟨rfl, e, rfl⟩⟩
      dsimp only
      rw [same]
      exact Run.nil _
    | ok u => exact ⟨[op], Run.cons result (Run.nil _), Or.inr ⟨rfl, rfl⟩⟩

section
variable [PublicKeyText Pub] [PrivateKey Priv Pub]

theorem Request.does_failed (request : Request) (r : Ring) (fs : FileSystem) :
    request.Does Priv r fs false [] :=
  ⟨by simp, nofun⟩

theorem Request.does_nothing (r : Ring) (fs : FileSystem) (ok : Bool) :
    Request.nothing.Does Priv r fs ok [] :=
  ⟨by simp, fun _ => trivial⟩

/-- What a process has done by the time it succeeds it has done, even if it fails later. -/
theorem Request.Does.weaken {request : Request} {r : Ring} {fs : FileSystem} {ops : List RingOp}
    (does : request.Does Priv r fs true ops) (ok : Bool) : request.Does Priv r fs ok ops :=
  ⟨does.each, fun _ => does.all rfl⟩

/-- A process that succeeded has done what it was asked for, where that is one operation. -/
theorem Request.Does.performed {request : Request} {r : Ring} {fs : FileSystem}
    {ops : List RingOp} {op : RingOp} (does : request.Does Priv r fs true ops)
    (means : request.Means Priv fs op) (single : ∀ print c, op ≠ .insert print c) : op ∈ ops := by
  have only (same : ∀ o, request.Means Priv fs o → o = op) (some_op : ops ≠ []) : op ∈ ops := by
    obtain ⟨o, more, rfl⟩ := List.exists_cons_of_ne_nil some_op
    rw [← same o (does.each o List.mem_cons_self)]
    exact List.mem_cons_self
  have done := does.all rfl
  cases request with
  | nothing => exact means.elim
  | add paths c =>
    obtain ⟨print, _, rfl⟩ := means
    exact absurd rfl (single print c)
  | remove path =>
    obtain ⟨key, there, rfl⟩ := means
    refine only ?_ done
    rintro o ⟨key', there', rfl⟩
    rw [Option.some.inj (there'.symm.trans there)]
  | removeAll => exact only (fun o clears => clears.trans means.symm) done
  | lock pass =>
    obtain ⟨s, rfl, rfl⟩ := means
    refine only ?_ done
    rintro o ⟨s', same, rfl⟩
    rw [Option.some.inj same]
  | unlock pass =>
    obtain ⟨s, rfl, rfl⟩ := means
    refine only ?_ done
    rintro o ⟨s', same, rfl⟩
    rw [Option.some.inj same]

/-- What the program does is what was requested, of an agent with this keyring. -/
abbrev Performs (Priv : Type) {Pub α : Type} [PublicKeyText Pub] [PrivateKey Priv Pub]
    (mortal : Constraints → Prop) (ring : Ag → Ring) (request : Request) (r : Ring)
    (fs : FileSystem) (x : Program Ag Va Te α) (w : World Ag Va Te) : Prop :=
  Rings mortal ring (fun outcome ops => request.Does Priv r fs outcome.isOk ops) x w

variable {α β : Type} {asked : Request} {r : Ring} {fs : FileSystem} {w : World Ag Va Te}

/-- The rule for a step that leaves the agent alone. -/
theorem Performs.after {x : Program Ag Va Te α} {f : α → Program Ag Va Te β}
    (quiet : Keeps (fun w : World Ag Va Te => ring w.agent) x)
    (rest : ∀ a v, x w = (.ok a, v) → Performs Priv mortal ring asked r fs (f a) v) :
    Performs Priv mortal ring asked r fs (x >>= f) w :=
  Follows.bind_quiet quiet (fun _ => asked.does_failed r fs) rest

/-- The rule for the one call of a process, with the report behind it. -/
theorem Performs.call {op : RingOp} {call : Ag → Except AnvilError Unit × Ag}
    {f : Unit → Program Ag Va Te β} (served : ∀ ag, ServedAs mortal ring op ag (call ag))
    (means : asked.Means Priv fs op) (done : asked.Done Priv r fs [op])
    (quiet : Keeps (fun w : World Ag Va Te => ring w.agent) (f ())) :
    Performs Priv mortal ring asked r fs (Program.onAgent call >>= f) w := by
  refine Follows.bind_last (rings_onAgent served w) ?_ (fun _ => quiet) ?_
  · rintro e ops (⟨rfl, _⟩ | ⟨impossible, _⟩)
    · exact asked.does_failed r fs
    · simp at impossible
  · rintro _ ops (⟨_, e, impossible⟩ | ⟨_, rfl⟩) outcome
    · simp at impossible
    · exact ⟨by simpa using means, fun _ => done⟩

theorem Performs.fail (e : AnvilError) :
    Performs Priv mortal ring asked r fs (Fallible.fail e : Program Ag Va Te α) w :=
  Follows.of_keeps (Keeps.fail e) (asked.does_failed r fs)

theorem performs_nothing {x : Program Ag Va Te α}
    (quiet : Keeps (fun w : World Ag Va Te => ring w.agent) x) :
    Performs Priv mortal ring .nothing r fs x w :=
  Follows.of_keeps quiet (Request.does_nothing r fs _)

/-- The rule for a look at the world. -/
theorem Performs.query {f : World Ag Va Te → Except AnvilError α} {g : α → Program Ag Va Te β}
    (rest : ∀ a, f w = .ok a → Performs Priv mortal ring asked r fs (g a) w) :
    Performs Priv mortal ring asked r fs (Fallible.query f >>= g) w := by
  refine Performs.after (Keeps.query f) ?_
  intro a v ran
  rw [Fallible.query_run, Prod.mk.injEq] at ran
  obtain ⟨returned, rfl⟩ := ran
  exact rest a returned

end

/-! ### Adding keys -/

section
variable [PublicKeyText Pub] [PrivateKey Priv Pub] [AgentControl Ag Priv Pub]

/-- What one round of the loop does: the key in the file is handed over, or it is passed
over because it was on the list. -/
def RoundDoes (Priv : Type) {Pub β : Type} [PublicKeyText Pub] [PrivateKey Priv Pub]
    (loaded : List (Identity Pub)) (c : Constraints) (fs : FileSystem) (path : String)
    (r : Except AnvilError β) (ops : List RingOp) : Prop :=
  (∀ op ∈ ops, ∃ print, Holding Priv fs [path] print ∧ op = .insert print c) ∧
    ∀ b, r = .ok b → ∃ key : Priv, keyAt Priv fs path = some key ∧
      (.insert (sha256 (PrivateKey.publicKey key)) c ∈ ops ∨ isLoaded loaded key = true)

theorem rings_round {β : Type} (keeper : Keeper mortal ring) {L : Loop Priv Ag Va Te β}
    (sound : L.Sound) (loaded : List (Identity Pub)) (acc : β) (path : String)
    (w : World Ag Va Te) :
    Rings mortal ring (RoundDoes Priv loaded L.constraints w.fs path) (L.round loaded acc path)
      w := by
  have failed (e : AnvilError) :
      RoundDoes Priv loaded L.constraints w.fs path (.error e : Except AnvilError β) [] :=
    ⟨by simp, nofun⟩
  unfold Loop.round addOne
  refine Follows.bind_quiet (Keeps.query _) failed ?_
  intro pem w₁ read
  obtain ⟨rfl, file⟩ := Program.readToString_ok read
  cases parsed : (PrivateKey.fromOpenssh pem : Except String Priv) with
  | error e => exact Follows.of_keeps (Keeps.fail _) (failed _)
  | ok key =>
    have there := keyAt_of_parsed file parsed
    dsimp only
    split
    next skipped =>
      refine Follows.of_keeps (keeps_ring_of_setting (sound.onLoaded acc path)) ⟨by simp, ?_⟩
      intro _ _
      exact ⟨key, there, Or.inr skipped.2⟩
    next =>
      refine Follows.bind_quiet (keeps_ring_of_setting (sound.loader.keeps path key L.unlock))
        failed ?_
      intro plain w₂ loaded_key
      have same := sound.loader.same_key path key L.unlock _ plain w₂ loaded_key
      have handing := keeper.add plain L.lifetime L.confirm
      rw [same] at handing
      refine Follows.bind_last (rings_onAgent handing w₂) ?_
        (fun _ => keeps_ring_of_setting (sound.onAdded acc path)) ?_
      · rintro e ops (⟨rfl, _⟩ | ⟨impossible, _⟩)
        · exact failed e
        · simp at impossible
      · rintro _ ops (⟨_, e, impossible⟩ | ⟨_, rfl⟩) r
        · simp at impossible
        · constructor
          · intro op member
            exact ⟨_, ⟨path, List.mem_singleton_self path, key, there, rfl⟩,
              List.mem_singleton.mp member⟩
          · intro _ _
            exact ⟨key, there, Or.inl (List.mem_singleton_self _)⟩

theorem rings_addAll {β : Type} (keeper : Keeper mortal ring) {L : Loop Priv Ag Va Te β}
    (sound : L.Sound) {paths : List String} (some_path : paths ≠ []) (acc : β)
    (w : World Ag Va Te) :
    Rings mortal ring
      (fun r ops => (Request.add paths L.constraints).Does Priv (ring w.agent) w.fs r.isOk ops)
      (paths.foldlM (L.round (loadedIdentities w.agent)) acc) w := by
  have files (acc : β) (path : String) :
      Preserves (fun v => v.fs = w.fs) (L.round (loadedIdentities w.agent) acc path) :=
    Keeps.preserves (L.round_keeps_files sound acc path) (· = w.fs)
  have round (acc : β) (path : String) (v : World Ag Va Te) (same : v.fs = w.fs) :
      Rings mortal ring (RoundDoes Priv (loadedIdentities w.agent) L.constraints w.fs path)
        (L.round (loadedIdentities w.agent) acc path) v :=
    same ▸ rings_round keeper sound (loadedIdentities w.agent) acc path v
  have rounds := Follows.foldlM (fun v : World Ag Va Te => v.fs = w.fs) files round paths acc rfl
  apply rounds.mono
  rintro r ops ⟨each, all⟩
  constructor
  · intro op member
    obtain ⟨path, listed, r', piece, ⟨ours, _⟩, within⟩ := each op member
    obtain ⟨print, ⟨path', only, key, there, named⟩, rfl⟩ := ours op within
    obtain rfl := List.mem_singleton.mp only
    exact ⟨print, ⟨path', listed, key, there, named⟩, rfl⟩
  · intro ended
    obtain ⟨last, rfl⟩ : ∃ last, r = .ok last := by
      cases r with
      | error e => simp [Except.isOk, Except.toBool] at ended
      | ok last => exact ⟨last, rfl⟩
    refine ⟨some_path, fun path listed => ?_⟩
    obtain ⟨acc', piece, ⟨_, done⟩, within⟩ := all last rfl path listed
    obtain ⟨key, there, inserted | skipped⟩ := done acc' rfl
    · exact ⟨_, ⟨path, List.mem_singleton_self path, key, there, rfl⟩, Or.inl (within inserted)⟩
    · refine ⟨_, ⟨path, List.mem_singleton_self path, key, there, rfl⟩, Or.inr ?_⟩
      -- What is on the list is in the ring.
      unfold loadedIdentities at skipped
      cases listing : Agent.list w.agent with
      | error e => simp [isLoaded, listing] at skipped
      | ok ids =>
        simp only [isLoaded, listing, List.any_eq_true, beq_iff_eq] at skipped
        exact keeper.listed w.agent ids listing _ skipped

end

end

/-! ### `gitway agent` -/

section
variable [PublicKeyText Pub] [PrivateKey Priv Pub] [AgentControl Ag Priv Pub]
  {mortal : Constraints → Prop} {ring : Ag → Ring} {w : World Ag Va Te}

variable [BiometricVault Va] [Terminal Te]

/-- The passphrase given, or the one that is typed at the prompt. -/
def offered (prompt : String) (given : Option String) (w : World Ag Va Te) : Option String :=
  given.or (Terminal.promptPassword prompt w.terminal).1.toOption

def AgentSubcommand.request (w : World Ag Va Te) : AgentSubcommand → Request
  | .add args => .add ((args.paths w).1.toOption.getD []) ⟨args.lifetime, args.confirm⟩
  | .remove args =>
    if args.all then .removeAll else args.file.elim .nothing .remove
  | .lock args => .lock (offered "Agent lock passphrase: " args.passphrase w)
  | .unlock args => .unlock (offered "Agent unlock passphrase: " args.passphrase w)
  | .list _ | .start _ | .stop _ => .nothing

omit [PublicKeyText Pub] [PrivateKey Priv Pub] [AgentControl Ag Priv Pub] [BiometricVault Va]
  [Terminal Te] in
theorem defaultKeyPaths_ne_nil {paths : List String} {v : World Ag Va Te}
    (chosen : defaultKeyPaths w = (.ok paths, v)) : paths ≠ [] := by
  unfold defaultKeyPaths at chosen
  rw [Fallible.query_run, Prod.mk.injEq] at chosen
  have found := chosen.1
  cases home : w.env.homeDir with
  | none => simp [home] at found
  | some dir =>
    simp only [home] at found
    split at found
    · simp at found
    next some_key =>
      obtain rfl := Except.ok.inj found
      simpa using some_key

omit [PublicKeyText Pub] [PrivateKey Priv Pub] [AgentControl Ag Priv Pub] [BiometricVault Va]
  [Terminal Te] in
theorem AgentAddArgs.paths_ne_nil {args : AgentAddArgs} {paths : List String}
    {v : World Ag Va Te} (chosen : args.paths w = (.ok paths, v)) : paths ≠ [] := by
  unfold AgentAddArgs.paths at chosen
  split at chosen
  · exact defaultKeyPaths_ne_nil chosen
  next some_file =>
    simp only [Fallible.pure_run, Prod.mk.injEq, Except.ok.injEq] at chosen
    rw [← chosen.1]
    simpa using some_file

theorem performs_runAdd (keeper : Keeper mortal ring) (law : DecryptKeepsPublic Priv)
    (args : AgentAddArgs) (mode : OutputMode) (w : World Ag Va Te) :
    Performs Priv mortal ring
      (.add ((args.paths w).1.toOption.getD []) ⟨args.lifetime, args.confirm⟩)
      (ring w.agent) w.fs (runAdd args mode) w := by
  unfold runAdd
  refine Performs.after (args.keeps_paths _) ?_
  intro paths v chosen
  obtain rfl : w = v := ((args.keeps_paths id).eq chosen).symm
  have named : (args.paths w).1.toOption.getD [] = paths := by rw [chosen]; rfl
  rw [named]
  refine Performs.query fun _ _ => ?_
  refine Performs.query fun loaded listed => ?_
  obtain rfl := Except.ok.inj listed
  refine Follows.bind_last (rings_addAll keeper (agentLoop_sound law args)
    (args.paths_ne_nil chosen) _ w) (fun _ _ done => done) ?_ fun _ _ done _ => done.weaken _
  rintro ⟨added, alreadyLoaded⟩ v
  obtain ⟨stdout, stderr, reported⟩ := reportAdded_run args mode added alreadyLoaded v
  dsimp only
  rw [Fallible.bind_of_ok reported]
  rfl

omit [AgentControl Ag Priv Pub] [BiometricVault Va] [Terminal Te] in
theorem loadPublic_ok {unparsed : String → String} {path : String} {key : Pub}
    {v : World Ag Va Te} (loaded : Keygen.loadPublic Priv unparsed path w = (.ok key, v)) :
    publicAt Priv w.fs path = some key := by
  obtain ⟨raw, w₁, read, rest⟩ := Fallible.bind_ok_iff.mp loaded
  obtain ⟨rfl, file⟩ := Program.readToString_ok read
  unfold publicAt AddShim.publicKeyIn
  rw [file]
  cases parsed : (PublicKey.fromOpenssh (Text.trim raw) : Except String Pub) with
  | ok found =>
    simp only [parsed, Fallible.pure_run, Prod.mk.injEq, Except.ok.injEq] at rest
    simp [Except.toOption, parsed, rest.1]
  | error _ =>
    cases opened : (PrivateKey.fromOpenssh raw : Except String Priv) with
    | ok found =>
      simp only [parsed, opened, Fallible.pure_run, Prod.mk.injEq, Except.ok.injEq] at rest
      simp [Except.toOption, parsed, opened, Except.map, rest.1]
    | error e => simp [parsed, opened] at rest

omit [BiometricVault Va] [Terminal Te] in
/-- The removal itself, whatever is reported of it afterwards. -/
theorem performs_removeKeys (keeper : Keeper mortal ring) (args : AgentRemoveArgs)
    {report : List String → Program Ag Va Te Nat} (w : World Ag Va Te)
    (reporting : ∀ removed, Keeps (fun w : World Ag Va Te => ring w.agent) (report removed)) :
    Performs Priv mortal ring
      (if args.all then .removeAll else args.file.elim .nothing .remove) (ring w.agent) w.fs
      (removeKeys args >>= report) w := by
  unfold removeKeys
  cases args.all with
  | true =>
    simp only [if_true, bind_assoc]
    refine Performs.query fun ids _ => ?_
    exact Performs.call keeper.removeAll rfl (by simp [Request.Done]) (reporting _)
  | false =>
    simp only [Bool.false_eq_true, if_false]
    cases args.file with
    | none => exact performs_nothing (Keeps.bind (Keeps.fail _) reporting)
    | some path =>
      simp only [bind_assoc]
      refine Performs.after (keeps_ring (touches_loadPublic Priv _ path) (by simp)) ?_
      intro key v loaded
      exact Performs.call (keeper.remove key) ⟨key, loadPublic_ok loaded, rfl⟩ (by simp [Request.Done])
        (reporting _)

omit [BiometricVault Va] [Terminal Te] in
theorem performs_runRemove (keeper : Keeper mortal ring) (args : AgentRemoveArgs)
    (mode : OutputMode) (w : World Ag Va Te) :
    Performs Priv mortal ring
      (if args.all then .removeAll else args.file.elim .nothing .remove) (ring w.agent) w.fs
      (runRemove args mode) w := by
  unfold runRemove
  refine Performs.query fun _ _ => ?_
  refine performs_removeKeys keeper args w ?_
  intro removed
  cases mode with
  | json => exact fun _ => rfl
  | human =>
    exact Keeps.bind (keeps_ring (touches_eprintAll _ removed) (by decide)) fun _ => Keeps.pure 0

omit [AgentControl Ag Priv Pub] [PublicKeyText Pub] [PrivateKey Priv Pub] [BiometricVault Va] in
theorem promptHidden_ok {prompt pass : String} {v : World Ag Va Te}
    (typed : AddShim.promptHidden prompt w = (.ok pass, v)) :
    (Terminal.promptPassword prompt w.terminal).1 = .ok pass := by
  obtain ⟨answer, w₁, asked, rest⟩ := Fallible.bind_ok_iff.mp typed
  simp only [Program.promptPassword, Program.onTerminal_run, Prod.mk.injEq,
    Except.ok.injEq] at asked
  simp only [Fallible.query_run, Prod.mk.injEq, Program.io_eq_ok_iff] at rest
  rw [asked.1, rest.1]

omit [AgentControl Ag Priv Pub] [PublicKeyText Pub] [PrivateKey Priv Pub] [BiometricVault Va] in
/-- The passphrase that a lock is put on or taken off with is the one offered. -/
theorem lockPassphrase_ok {args : AgentLockArgs} {lock : Bool} {pass : String}
    {v : World Ag Va Te} (chosen : lockPassphrase args lock w = (.ok pass, v)) :
    offered (if lock then "Agent lock passphrase: " else "Agent unlock passphrase: ")
      args.passphrase w = some pass := by
  unfold lockPassphrase at chosen
  unfold offered
  cases given : args.passphrase with
  | some s =>
    simp only [given, Fallible.pure_run, Prod.mk.injEq, Except.ok.injEq] at chosen
    simp [chosen.1]
  | none =>
    simp only [given] at chosen
    cases lock with
    | true =>
      have regrouped : promptLockPassphrase true w = (do
          let first ← AddShim.promptHidden "Agent lock passphrase: "
          let confirm ← AddShim.promptHidden "Confirm lock passphrase: "
          if first ≠ confirm then
            Fallible.fail (.invalidConfig "passphrases did not match — aborting")
          else
            return first : Program Ag Va Te String) w := by
        simp only [promptLockPassphrase, AddShim.promptHidden, bind_assoc, if_true]
      rw [regrouped] at chosen
      obtain ⟨first, w₁, typed, rest⟩ := Fallible.bind_ok_iff.mp chosen
      obtain ⟨confirm, w₂, _, rest⟩ := Fallible.bind_ok_iff.mp rest
      split at rest
      · simp at rest
      · simp only [Fallible.pure_run, Prod.mk.injEq, Except.ok.injEq] at rest
        simp [promptHidden_ok typed, Except.toOption, rest.1]
    | false =>
      have typed : AddShim.promptHidden "Agent unlock passphrase: " w = (.ok pass, v) := chosen
      simp [promptHidden_ok typed, Except.toOption]

omit [BiometricVault Va] in
theorem performs_runLock (keeper : Keeper mortal ring) (args : AgentLockArgs)
    (mode : OutputMode) (lock : Bool) (w : World Ag Va Te) :
    Performs Priv mortal ring
      (if lock then .lock (offered "Agent lock passphrase: " args.passphrase w)
        else .unlock (offered "Agent unlock passphrase: " args.passphrase w))
      (ring w.agent) w.fs (runLock args mode lock) w := by
  unfold runLock
  refine Performs.query fun _ _ => ?_
  refine Performs.after (keeps_ring (touches_lockPassphrase args lock) (by decide)) ?_
  intro pass v chosen
  have offers := lockPassphrase_ok chosen
  cases lock with
  | true =>
    refine Performs.call (keeper.lock pass) ⟨pass, offers, rfl⟩ (by simp [Request.Done]) ?_
    cases mode with
    | json => exact fun _ => rfl
    | human => exact fun _ => rfl
  | false =>
    refine Performs.call (keeper.unlock pass) ⟨pass, offers, rfl⟩ (by simp [Request.Done]) ?_
    cases mode with
    | json => exact fun _ => rfl
    | human => exact fun _ => rfl

variable [Keygen.KeyDetails Pub]

theorem performs_agent (keeper : Keeper mortal ring) (law : DecryptKeepsPublic Priv)
    (os : Processes) (sub : AgentSubcommand) (mode : OutputMode) (w : World Ag Va Te) :
    Performs Priv mortal ring (sub.request w) (ring w.agent) w.fs (Agent.run os sub mode) w := by
  cases sub with
  | add args => exact performs_runAdd keeper law args mode w
  | list args =>
    have answers : Answers (fun _ => False) [.stderr] mode (runList args mode :
        Program Ag Va Te Nat) := answers_runList args mode
    exact performs_nothing (keeps_ring answers.touches (by decide))
  | remove args => exact performs_runRemove keeper args mode w
  | lock args => exact performs_runLock keeper args mode true w
  | unlock args => exact performs_runLock keeper args mode false w
  | start args => exact performs_nothing (keeps_ring (touches_runStart os args) (by decide))
  | stop args =>
    have answers : Answers (fun _ => False) [.files, .signals, .stderr] mode
        (runStop os.kill args mode : Program Ag Va Te Nat) := answers_runStop os.kill args mode
    exact performs_nothing (keeps_ring answers.touches (by decide))

end

end Gitway.Agent

/-! ### `gitway-add` -/

namespace Gitway.AddShim

open Lib Lib.Fallible Agent

variable {Priv Pub Ag Va Te : Type} [PublicKeyText Pub] [PrivateKey Priv Pub]
  [AgentControl Ag Priv Pub] [BiometricVault Va] [Terminal Te]
  {mortal : Constraints → Prop} {ring : Ag → Ring} {w : World Ag Va Te}

def Parsed.request (w : World Ag Va Te) (parsed : Parsed) : Request :=
  match parsed.mode with
  | .list _ => .nothing
  | .removeOne path => .remove path
  | .removeAll => .removeAll
  | .lock => .lock (offered "Enter lock passphrase: " none w)
  | .unlock => .unlock (offered "Enter unlock passphrase: " none w)
  | .add paths => .add paths ⟨parsed.lifetime, parsed.confirm⟩

def request (args : List String) (w : World Ag Va Te) : Request :=
  if args.any isHelp then .nothing
  else (fromArgs args w).1.toOption.elim .nothing (Parsed.request w)

omit [PublicKeyText Pub] [PrivateKey Priv Pub] [AgentControl Ag Priv Pub] [BiometricVault Va]
  [Terminal Te] in
/-- Keys are added from some path at least. -/
theorem paths_of_accepted {args : List String} {parsed : Parsed} {v : World Ag Va Te}
    (accepted : fromArgs args w = (.ok parsed, v)) {paths : List String}
    (adds : parsed.mode = .add paths) : paths ≠ [] := by
  obtain ⟨gs, dashed, rfl⟩ := argv_of_accepted accepted
  obtain ⟨accepts, result⟩ := fromArgs_argv_iff gs dashed w
  obtain ⟨rfl, rfl⟩ := result parsed v accepted
  have acceptable := accepts.mp ⟨_, accepted⟩
  have mode : (modes gs).head?.getD (.add (chosen (AddShim.paths gs dashed) (defaults v))) =
      .add paths := adds
  cases asked : modes gs with
  | cons m more =>
    rw [asked] at mode
    obtain rfl : m = .add paths := mode
    have listed : .add paths ∈ modes gs := by simp [asked]
    obtain ⟨g, _, own⟩ := List.mem_filterMap.mp listed
    exact absurd own mode_ne_add
  | nil =>
    rw [asked] at mode
    obtain rfl : chosen (AddShim.paths gs dashed) (defaults v) = paths := Mode.add.inj mode
    unfold chosen
    split
    next unnamed =>
      obtain ⟨found, there⟩ := acceptable.defaults asked (by simpa using unnamed)
      have default : defaultKeyPaths v = (.ok found, v) := by rw [defaultKeyPaths_run, there]
      rw [there]
      exact defaultKeyPaths_ne_nil default
    next named => simpa using named

omit [BiometricVault Va] [Terminal Te] in
theorem keeps_fromArgs (args : List String) :
    Keeps id (fromArgs args : Program Ag Va Te Parsed) := by
  refine Keeps.bind (Keeps.query _) fun st => ?_
  refine Keeps.bind ?_ fun mode => ?_
  · intro v
    rw [chooseMode_run]
  · split
    · exact Keeps.fail _
    · exact Keeps.pure _

omit [BiometricVault Va] in
theorem performs_lockUnlock (keeper : Keeper mortal ring) (lock : Bool) (w : World Ag Va Te) :
    Performs Priv mortal ring
      (if lock then .lock (offered "Enter lock passphrase: " none w)
        else .unlock (offered "Enter unlock passphrase: " none w))
      (ring w.agent) w.fs (lockUnlock lock) w := by
  have quiet (prompt : String) : Keeps (fun w : World Ag Va Te => ring w.agent)
      (promptHidden prompt) := fun _ => rfl
  have offers {prompt pass : String} {v : World Ag Va Te}
      (typed : promptHidden prompt w = (.ok pass, v)) : offered prompt none w = some pass := by
    simp [offered, promptHidden_ok typed, Except.toOption]
  unfold lockUnlock
  cases lock with
  | true =>
    simp only [if_true]
    refine Performs.after (quiet _) ?_
    intro first v typed
    refine Performs.after (quiet _) ?_
    intro confirm _ _
    split
    · exact Performs.fail _
    · exact Performs.call (keeper.lock first) ⟨first, offers typed, rfl⟩ (by simp [Request.Done])
        fun _ => rfl
  | false =>
    simp only [Bool.false_eq_true, if_false]
    refine Performs.after (quiet _) ?_
    intro pass v typed
    exact Performs.call (keeper.unlock pass) ⟨pass, offers typed, rfl⟩ (by simp [Request.Done])
      fun _ => rfl

omit [BiometricVault Va] [Terminal Te] in
theorem performs_removeOne (keeper : Keeper mortal ring) (path : String) (w : World Ag Va Te) :
    Performs Priv mortal ring (.remove path) (ring w.agent) w.fs (removeOne path) w := by
  unfold removeOne
  refine Performs.after (Keeps.query _) ?_
  intro raw v read
  obtain ⟨rfl, file⟩ := Program.readToString_ok read
  cases named : publicKeyIn Priv raw with
  | error e => exact Performs.fail _
  | ok key =>
    have there : publicAt Priv w.fs path = some key := by
      simp [publicAt, file, named, Except.toOption]
    exact Performs.call (keeper.remove key) ⟨key, there, rfl⟩ (by simp [Request.Done]) fun _ => rfl

theorem performs_perform (keeper : Keeper mortal ring) (law : DecryptKeepsPublic Priv)
    {parsed : Parsed} (some_path : ∀ paths, parsed.mode = .add paths → paths ≠ [])
    (w : World Ag Va Te) :
    Performs Priv mortal ring (parsed.request w) (ring w.agent) w.fs (perform parsed) w := by
  unfold perform Parsed.request
  cases mode : parsed.mode with
  | list full =>
    have line (id : Identity Pub) : Keeps (fun w : World Ag Va Te => ring w.agent)
        (listLine full parsed.hash id) := by
      unfold listLine
      split
      · split
        · exact Keeps.fail _
        · exact fun _ => rfl
      · exact fun _ => rfl
    refine performs_nothing (Keeps.bind (Keeps.query _) fun ids => ?_)
    split
    · exact fun _ => rfl
    · exact Keeps.bind (Keeps.forM line ids) fun _ => Keeps.pure 0
  | removeOne path => exact performs_removeOne keeper path w
  | removeAll => exact Performs.call keeper.removeAll rfl (by simp [Request.Done]) fun _ => rfl
  | lock => exact performs_lockUnlock keeper true w
  | unlock => exact performs_lockUnlock keeper false w
  | add paths =>
    dsimp only
    unfold shimAdd
    refine Performs.query fun loaded listed => ?_
    obtain rfl := Except.ok.inj listed
    exact Follows.bind_last (rings_addAll keeper (shimLoop_sound law parsed.lifetime
      parsed.confirm _) (some_path paths mode) () w) (fun _ _ done => done)
      (fun _ => Keeps.pure 0) fun _ _ done _ => done.weaken _

theorem performs_run (keeper : Keeper mortal ring) (law : DecryptKeepsPublic Priv)
    (args : List String) (w : World Ag Va Te) :
    Performs Priv mortal ring (request args w) (ring w.agent) w.fs (run args) w := by
  unfold run request
  split
  · exact performs_nothing fun _ => rfl
  · refine Performs.after (fun v => congrArg (fun v => ring v.agent) (keeps_fromArgs args v)) ?_
    intro parsed v accepted
    obtain rfl : w = v := ((keeps_fromArgs args).eq accepted).symm
    refine Performs.query fun _ _ => ?_
    rw [accepted]
    exact performs_perform keeper law (fun paths => paths_of_accepted accepted) w

end Gitway.AddShim
