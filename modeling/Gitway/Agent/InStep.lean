import Gitway.Agent.Add
import Gitway.Biometric.Recorded
import Gitway.Lib.Coupled

/-!
# The two loaders in step

`gitway agent add` and `gitway-add` are compared on one agent and one keystore, which
record the calls made on them. Their prompts differ and give the same answers. The two
loops then make the same calls in the same order, skip the same keys and stop at the
same path.
-/
namespace Gitway.Agent

open Lib Biometric

/-- An agent with the keys that were handed to it, accepted or not. -/
structure RecordedAgent (Ag Priv : Type) where
  agent : Ag
  adds : List (Priv × Constraints)

variable {Priv Pub Ag Va Te : Type} [PublicKey Pub] [PrivateKey Priv Pub]

instance [Agent Ag Priv Pub] : Agent (RecordedAgent Ag Priv) Priv Pub where
  fromEnv socket rec := Agent.fromEnv socket rec.agent
  list rec := Agent.list rec.agent
  add key lifetime confirm rec :=
    ((Agent.add key lifetime confirm rec.agent).1,
      ⟨(Agent.add key lifetime confirm rec.agent).2, rec.adds ++ [(key, ⟨lifetime, confirm⟩)]⟩)
  signWithAgent data key ns hash rec :=
    ((Agent.signWithAgent data key ns hash rec.agent).1,
      { rec with agent := (Agent.signWithAgent data key ns hash rec.agent).2 })

/-! ### Prompts that give the same answers -/

/-- What the answer to a prompt depends on. -/
structure Asking (Te : Type) where
  env : Environment
  fs : FileSystem
  terminal : Te
  stdin : Except IoError ByteArray

def asking (w : World Ag Va Te) : Asking Te := ⟨w.env, w.fs, w.terminal, w.stdin⟩

variable (Ag Va) in
/-- Wherever `R` relates what the prompts of the two commands see, they give the same
answer to a question or both fail, and `R` relates what they see next. -/
def SameAnswers [Terminal Te] (R : Asking Te → Asking Te → Prop) : Prop :=
  ∀ path, Coupled (fun w w' => R (asking w) (asking w'))
    (fun pass pass' w w' => pass = pass' ∧ R (asking w) (asking w')) (fun _ _ => True)
    (Prompt.promptPassphraseInteractive path : Program Ag Va Te String)
    (shimPromptPassphrase path : Program Ag Va Te String)

/-- The agent and the keystore are in the same state, with the same calls behind them. -/
def SameStores (w w' : World Ag Va Te) : Prop := w.agent = w'.agent ∧ w.vault = w'.vault

/-- Both worlds have these files, the stores are in the same state, the prompts give the same
answers, and the second world has printed `out`. -/
structure Paired (R : Asking Te → Asking Te → Prop) (fs : FileSystem) (out : List Emitted)
    (w w' : World Ag Va Te) : Prop where
  stores : SameStores w w'
  files : w.fs = fs
  files' : w'.fs = fs
  asked : R (asking w) (asking w')
  printed : w'.stdout = out

section
variable {R : Asking Te → Asking Te → Prop} {fs : FileSystem} {out : List Emitted} {α : Type}

/-- From paired worlds both programs return the same, in paired worlds, or both fail, with
the stores in the same state. -/
abbrev Together (R : Asking Te → Asking Te → Prop) (fs : FileSystem) (out : List Emitted)
    (x y : Program Ag Va Te α) : Prop :=
  Coupled (Paired R fs out) (fun a a' w w' => a = a' ∧ Paired R fs out w w') SameStores x y

/-- What stays in a world in which a person is asked. -/
private def unasked (w : World Ag Va Te) : Ag × Va × FileSystem × List Emitted :=
  (w.agent, w.vault, w.fs, w.stdout)

private theorem aside_unasked : Program.Aside (unasked : World Ag Va Te → _) :=
  ⟨fun _ _ => rfl, fun _ _ => rfl⟩

/-- The prompts keep the worlds paired, and what they return is the same. -/
theorem coupled_prompt [Terminal Te] (same : SameAnswers Ag Va R) (path : String) :
    Together R fs out (Prompt.promptPassphraseInteractive path : Program Ag Va Te String)
      (shimPromptPassphrase path) := by
  intro w w' paired
  have ended := same path w w' paired.asked
  have frame := Prompt.keeps_promptPassphraseInteractive aside_unasked path w
  have frame' := keeps_shimPromptPassphrase aside_unasked path w'
  cases here : Prompt.promptPassphraseInteractive path w with
  | mk answer v =>
    cases there : shimPromptPassphrase path w' with
    | mk answer' v' =>
      rw [here] at frame ended
      rw [there] at frame' ended
      simp only [unasked, Prod.mk.injEq] at frame frame'
      obtain ⟨agent, vault, files, _⟩ := frame
      obtain ⟨agent', vault', files', printed⟩ := frame'
      have stores : SameStores v v' := by
        constructor
        · rw [agent, agent', paired.stores.1]
        · rw [vault, vault', paired.stores.2]
      -- Where the prompts failed nothing more is asked, so `R` is not needed.
      cases ended with
      | failed _ => exact .failed stores
      | returned after =>
        obtain ⟨rfl, asked⟩ := after
        exact .returned ⟨rfl, stores, files.trans paired.files, files'.trans paired.files', asked,
          printed.trans paired.printed⟩

/-! ### Decrypting in step -/

private theorem coupled_eprintln (s s' : String) :
    Together R fs out (Program.eprintln s : Program Ag Va Te Unit) (Program.eprintln s') :=
  fun _ _ paired => .returned ⟨rfl, paired.stores, paired.files, paired.files', paired.asked,
    paired.printed⟩

private theorem coupled_onVault (op : Va → Except BiometricError α × Va) :
    Together R fs out (Program.onVault op : Program Ag Va Te (Except BiometricError α))
      (Program.onVault op) := by
  intro w w' paired
  rw [Program.onVault_run, Program.onVault_run, ← paired.stores.2]
  exact .returned ⟨rfl, ⟨paired.stores.1, rfl⟩, paired.files, paired.files', paired.asked,
    paired.printed⟩

private theorem coupled_onAgent (op : Ag → Except AnvilError α × Ag) :
    Together R fs out (Program.onAgent op : Program Ag Va Te α) (Program.onAgent op) := by
  intro w w' paired
  -- Equal agents answer alike, and record the same call.
  rw [Program.onAgent_run, Program.onAgent_run, ← paired.stores.1]
  cases (op w.agent).1 with
  | error e => exact .failed ⟨rfl, paired.stores.2⟩
  | ok a =>
    exact .returned ⟨rfl, ⟨rfl, paired.stores.2⟩, paired.files, paired.files', paired.asked,
      paired.printed⟩

omit [PublicKey Pub] in
/-- The messages of a failed decryption may differ. -/
private theorem coupled_decrypt (key : Priv) (pass : String) (message message' : String → String) :
    Together R fs out (Fallible.query fun _ => (PrivateKey.decrypt key pass).mapError fun e =>
        .signing (message e) : Program Ag Va Te Priv)
      (Fallible.query fun _ => (PrivateKey.decrypt key pass).mapError fun e =>
        .signing (message' e)) := by
  intro w w' paired
  rw [Fallible.query_run, Fallible.query_run]
  cases PrivateKey.decrypt key pass with
  | error e => exact .failed paired.stores
  | ok plain => exact .returned ⟨rfl, paired⟩

variable [BiometricVault Va]

private theorem coupled_autoUnlockPassphrase (key : Priv) :
    Together R fs out (autoUnlockPassphrase key : Program Ag Va Te AutoUnlock)
      (autoUnlockPassphrase key) := by
  have asked : Together R fs out (autoUnlock (keyId key) : Program Ag Va Te (Option String))
      (autoUnlock (keyId key)) := by
    apply Coupled.bind_same (coupled_onVault _)
    intro answer
    cases answer <;> exact Coupled.pure fun _ _ paired => ⟨rfl, paired⟩
  apply Coupled.bind_same asked
  intro answer
  cases answer with
  | none => exact Coupled.pure fun _ _ paired => ⟨rfl, paired⟩
  | some passphrase =>
    dsimp only
    cases PrivateKey.decrypt key passphrase with
    | ok plain => exact Coupled.pure fun _ _ paired => ⟨rfl, paired⟩
    -- A stale entry: both sides delete it.
    | error e =>
      apply Coupled.bind_same (coupled_onVault _)
      intro _
      exact Coupled.pure fun _ _ paired => ⟨rfl, paired⟩

/-- With prompts in step the decryption is in step, in every mode. -/
theorem coupled_loadKey {tool tool' : String} {prompt prompt' : String → Program Ag Va Te String}
    {decryptFailed decryptFailed' : String → String → String}
    (prompts : ∀ path, Together R fs out (prompt path) (prompt' path)) (path : String) (key : Priv)
    (unlock : UnlockMode) :
    Together R fs out (loadKey tool prompt decryptFailed path key unlock)
      (loadKey tool' prompt' decryptFailed' path key unlock) := by
  unfold loadKey
  split
  · exact Coupled.pure fun _ _ paired => ⟨rfl, paired⟩
  dsimp only
  cases unlock with
  | disabled => exact Coupled.bind_same (prompts path) fun pass => coupled_decrypt key pass _ _
  | enroll =>
    apply Coupled.bind_same (prompts path)
    intro pass
    apply Coupled.bind_same (coupled_decrypt key pass _ _)
    intro plain
    apply Coupled.bind_same (coupled_onVault _)
    intro stored
    -- The keystore answered both in the same way, and only the messages differ.
    cases stored <;>
      exact Coupled.bind_same (coupled_eprintln _ _) fun _ =>
        Coupled.pure fun _ _ paired => ⟨rfl, paired⟩
  | auto =>
    -- Whether a person is asked depends on the keystore alone, so it is the same on both sides.
    apply Coupled.bind_same (coupled_autoUnlockPassphrase key)
    intro outcome
    cases outcome with
    | passphrase pass => exact coupled_decrypt key pass _ _
    | stale =>
      apply Coupled.bind_same (coupled_eprintln _ _)
      intro _
      exact Coupled.bind_same (prompts path) fun pass => coupled_decrypt key pass _ _
    | fallback => exact Coupled.bind_same (prompts path) fun pass => coupled_decrypt key pass _ _

theorem coupled_load [Terminal Te] (same : SameAnswers Ag Va R) (path : String) (key : Priv)
    (unlock : UnlockMode) :
    Together R fs out (loadPrivateKey path key unlock : Program Ag Va Te Priv)
      (loadAndDecrypt path key unlock) :=
  coupled_loadKey (coupled_prompt same) path key unlock

/-! ### One round of both loops -/

variable [Agent Ag Priv Pub]

/-- Whether the loops pass over the key in this file. -/
def skips (Priv : Type) {Pub : Type} [PublicKey Pub] [PrivateKey Priv Pub]
    (loaded : List (Identity Pub)) (unlock : UnlockMode) (fs : FileSystem) (path : String) : Bool :=
  (keyAt Priv fs path).any fun key => unlock ≠ .enroll && isLoaded loaded key

/-- A round of `runAdd`, which sorts the paths into those added and those already loaded. -/
def agentRound [Terminal Te] (loaded : List (Identity Pub)) (args : AgentAddArgs) :
    List String × List String → String → Program Ag Va Te (List String × List String) :=
  addOne loadPrivateKey (fun (added, already) path => pure (added, already ++ [path]))
    (fun (added, already) path => pure (added ++ [path], already))
    loaded args.lifetime args.confirm args.unlock

/-- A round of `shimAdd`. -/
def shimRound [Terminal Te] (loaded : List (Identity Pub)) (lifetime : Option Nat)
    (confirm : Bool) (unlock : UnlockMode) : Unit → String → Program Ag Va Te Unit :=
  addOne loadAndDecrypt (fun _ path => Program.println s!"Identity already loaded: {path}")
    (fun _ path => Program.println s!"Identity added: {path}") loaded lifetime confirm unlock

/-- The paths that `runAdd` reports as added and as already loaded. -/
def sorted (skip : String → Bool) (paths : List String) : List String × List String :=
  (paths.filter fun path => !skip path, paths.filter skip)

/-- What `shimAdd` prints for a path. -/
def outcome (skip : String → Bool) (path : String) : Emitted :=
  .line (if skip path then s!"Identity already loaded: {path}" else s!"Identity added: {path}")

/-- The invariant of the two loops, over the paths already done. -/
def AfterRounds (R : Asking Te → Asking Te → Prop) (fs : FileSystem) (out : List Emitted)
    (skip : String → Bool) (done : List String) (report : List String × List String) (_ : Unit)
    (w w' : World Ag Va Te) : Prop :=
  report = sorted skip done ∧ Paired R fs (out ++ done.map (outcome skip)) w w'

theorem coupled_round [Terminal Te] (same : SameAnswers Ag Va R) (loaded : List (Identity Pub))
    (args : AgentAddArgs) (done : List String) (path : String) (report : List String × List String)
    (u : Unit) :
    Coupled (AfterRounds R fs out (skips Priv loaded args.unlock fs) done report u)
      (AfterRounds R fs out (skips Priv loaded args.unlock fs) (done ++ [path])) SameStores
      (agentRound loaded args report path : Program Ag Va Te _)
      (shimRound loaded args.lifetime args.confirm args.unlock u path : Program Ag Va Te _) := by
  rintro w w' ⟨rfl, paired⟩
  unfold agentRound shimRound addOne
  have here := Program.readToString_run w path
  have there := Program.readToString_run w' path
  rw [paired.files] at here
  rw [paired.files'] at there
  -- Both sides read the same text, so they fail, skip or go on together.
  cases read : fs.readToString path with
  | error e =>
    rw [read, Program.io_error] at here there
    rw [Fallible.bind_of_error here, Fallible.bind_of_error there]
    exact .failed paired.stores
  | ok pem =>
    rw [read, Program.io_ok] at here there
    rw [Fallible.bind_of_ok here, Fallible.bind_of_ok there]
    cases parsed : (PrivateKey.fromOpenssh pem : Except String Priv) with
    | error e => exact .failed paired.stores
    | ok key =>
      have found := keyAt_of_parsed read parsed
      dsimp only
      by_cases passed : args.unlock ≠ .enroll ∧ isLoaded loaded key = true
      · have skipped : skips Priv loaded args.unlock fs path = true := by
          simpa [skips, found] using passed
        rw [if_pos passed, if_pos passed]
        -- Skipped: the path is reported, by `gitway-add` at once and by `gitway` at the end.
        refine .returned ⟨?_, paired.stores, paired.files, paired.files', paired.asked, ?_⟩
        · simp [sorted, skipped]
        · simp [paired.printed, outcome, skipped]
      · have kept : skips Priv loaded args.unlock fs path = false := by
          simpa [skips, found] using passed
        rw [if_neg passed, if_neg passed]
        -- Not skipped: the key is decrypted, then handed over, then reported.
        apply Coupled.bind_same (coupled_load same path key args.unlock) ?_ w w' paired
        intro plain
        apply Coupled.bind_same (coupled_onAgent _)
        intro _ v v' after
        refine .returned ⟨?_, after.stores, after.files, after.files', after.asked, ?_⟩
        · simp [sorted, kept]
        · simp [after.printed, outcome, kept]

end

/-! ### Agents that take every key -/

/-- The agent takes every key, however many it was given before. -/
def Accepting {Ag Priv Pub : Type} [Agent Ag Priv Pub] (ag : Ag) : Prop :=
  ∀ (given : List (Priv × Constraints)) (key : Priv) lifetime confirm,
    (Agent.add key lifetime confirm (given.foldl
      (fun a g => (Agent.add g.1 g.2.lifetime g.2.confirm a).2) ag)).1 = .ok ()

theorem Accepting.takes {Ag Priv Pub : Type} [Agent Ag Priv Pub] {ag : Ag}
    (accepting : Accepting ag) (key : Priv) (lifetime : Option Nat) (confirm : Bool) :
    (Agent.add key lifetime confirm ag).1 = .ok () ∧
      Accepting (Agent.add key lifetime confirm ag).2 :=
  ⟨accepting [] key lifetime confirm, fun given => accepting ((key, ⟨lifetime, confirm⟩) :: given)⟩

theorem Accepting.recorded {Ag Priv Pub : Type} [Agent Ag Priv Pub] {ag : Ag}
    (accepting : Accepting ag) (adds : List (Priv × Constraints)) :
    Accepting (RecordedAgent.mk ag adds) := by
  intro given
  induction given generalizing ag adds with
  | nil => exact accepting []
  | cons g given ih => exact ih (accepting.takes g.1 g.2.lifetime g.2.confirm).2 _

/-! ### What a failed round leaves -/

/-- An add that the agent refuses changes none of its entries. -/
def RefusalKeeps [Agent Ag Priv Pub] (held : Ag → String → Option Constraints) : Prop :=
  ∀ (key : Priv) lifetime confirm (ag ag' : Ag) e,
    Agent.add key lifetime confirm ag = (.error e, ag') → held ag' = held ag

section
variable [Agent Ag Priv Pub] {held : Ag → String → Option Constraints}

theorem Holds.recorded (holds : Holds held) :
    Holds fun rec : RecordedAgent Ag Priv => held rec.agent where
  listed rec ids listed := holds.listed rec.agent ids listed
  added key lifetime confirm rec rec' accepted := by
    simp only [Agent.add, Prod.mk.injEq] at accepted
    obtain ⟨accepted, rfl⟩ := accepted
    exact holds.added key lifetime confirm rec.agent _ (Prod.ext accepted rfl)

omit [PublicKey Pub] [PrivateKey Priv Pub] in
theorem RefusalKeeps.recorded (keeps : RefusalKeeps held) :
    RefusalKeeps fun rec : RecordedAgent Ag Priv => held rec.agent := by
  intro key lifetime confirm rec rec' e refused
  simp only [Agent.add, Prod.mk.injEq] at refused
  obtain ⟨refused, rfl⟩ := refused
  exact keeps key lifetime confirm rec.agent _ e (Prod.ext refused rfl)

/-- A round that fails has put nothing into the agent: it fails before the key is handed
over, or the key is refused. -/
theorem addOne_failed {β : Type} {load : String → Priv → UnlockMode → Program Ag Va Te Priv}
    (loads : ∀ path key unlock, Fallible.Keeps World.setting (load path key unlock))
    {onLoaded onAdded : β → String → Program Ag Va Te β}
    (onLoaded_returns : ∀ acc path w, ∃ b w', onLoaded acc path w = (.ok b, w'))
    (onAdded_returns : ∀ acc path w, ∃ b w', onAdded acc path w = (.ok b, w'))
    {loaded : List (Identity Pub)} {lifetime : Option Nat} {confirm : Bool} {unlock : UnlockMode}
    {acc : β} {path : String} {w w' : World Ag Va Te} {e : AnvilError} (keeps : RefusalKeeps held)
    (failed : addOne load onLoaded onAdded loaded lifetime confirm unlock acc path w =
      (.error e, w')) : held w'.agent = held w.agent := by
  have unchanged : w'.agent = w.agent → held w'.agent = held w.agent := congrArg held
  unfold addOne at failed
  -- Up to the call of the agent a failure leaves it alone.
  rcases Fallible.bind_error_iff.mp failed with unread | ⟨pem, w₁, read, rest⟩
  · simp only [Program.readToString_run, Prod.mk.injEq] at unread
    exact unchanged (by rw [unread.2])
  obtain ⟨rfl, _⟩ := Program.readToString_ok read
  cases parsed : (PrivateKey.fromOpenssh pem : Except String Priv) with
  | error reason =>
    simp only [parsed, Fallible.fail_run, Prod.mk.injEq] at rest
    exact unchanged (by rw [rest.2])
  | ok key =>
    simp only [parsed] at rest
    split at rest
    · obtain ⟨b, v, skipped⟩ := onLoaded_returns acc path w
      simp [skipped] at rest
    · rcases Fallible.bind_error_iff.mp rest with unopened | ⟨plain, w₂, opened, rest⟩
      · exact unchanged
          (congrArg (fun setting => setting.2.2) ((loads path key unlock).eq unopened))
      have before : w₂.agent = w.agent :=
        congrArg (fun setting => setting.2.2) ((loads path key unlock).eq opened)
      rcases Fallible.bind_error_iff.mp rest with refused | ⟨⟨⟩, w₃, _, last⟩
      · rw [Program.onAgent_run, Prod.mk.injEq] at refused
        obtain ⟨refused, rfl⟩ := refused
        -- The agent refused the key it was handed.
        rw [← before]
        exact keeps plain lifetime confirm w₂.agent _ e (Prod.ext refused rfl)
      · obtain ⟨b, v, added⟩ := onAdded_returns acc path w₃
        simp [added] at last

end

/-! ### The two commands -/

section
variable [Agent Ag Priv Pub] [BiometricVault Va] [Terminal Te]

/-- The paths that a run from this world passes over. -/
def passesOver (args : AgentAddArgs) (w : World (RecordedAgent Ag Priv) (Recorded Va) Te) :
    String → Bool :=
  skips Priv (loadedIdentities w.agent) args.unlock w.fs

/-- What is handed over for a file, by the public half of its key. -/
def handed (Priv : Type) {Pub : Type} [PrivateKey Priv Pub] (fs : FileSystem) (c : Constraints)
    (path : String) : Option (Pub × Constraints) :=
  (keyAt Priv fs path).map fun key => (PrivateKey.publicKey key, c)

/-- The keys that an agent was handed, by their public halves. -/
def RecordedAgent.keys (rec : RecordedAgent Ag Priv) : List (Pub × Constraints) :=
  rec.adds.map fun add => (PrivateKey.publicKey add.1, add.2)

/-- Both loops have worked through these paths: the agent got the same keys and the
keystore the same calls, the same paths were passed over, and the keys of the others, no
more, were added with the constraints asked for. -/
structure WorkedThrough (args : AgentAddArgs)
    (w w' : World (RecordedAgent Ag Priv) (Recorded Va) Te) (paths : List String)
    (v v' : World (RecordedAgent Ag Priv) (Recorded Va) Te) : Prop where
  sorts : paths.foldlM (agentRound (loadedIdentities w.agent) args) ([], []) w =
    (.ok (sorted (passesOver args w) paths), v)
  returns : paths.foldlM (shimRound (loadedIdentities w.agent) args.lifetime args.confirm
    args.unlock) () w' = (.ok (), v')
  same_calls : SameStores v v'
  prints : v'.stdout = w'.stdout ++ paths.map (outcome (passesOver args w))
  hands_over : v.agent.keys = w.agent.keys ++
    (paths.filter fun path => !passesOver args w path).filterMap
      (handed Priv w.fs ⟨args.lifetime, args.confirm⟩)
  holds : ∀ held : Ag → String → Option Constraints, Holds held →
    (∀ print, Added Priv (loadedIdentities w.agent) args.unlock w.fs paths print →
      held v.agent.agent print = some ⟨args.lifetime, args.confirm⟩) ∧
    ∀ print, ¬ Added Priv (loadedIdentities w.agent) args.unlock w.fs paths print →
      held v.agent.agent print = held w.agent.agent print

/-- How `runAdd` and `shimAdd` end over the same paths: both work through all of them, or
both stop at the same one, having added nothing there. -/
inductive InStep (args : AgentAddArgs) (mode : OutputMode) (paths : List String)
    (w w' : World (RecordedAgent Ag Priv) (Recorded Va) Te) : Prop
  | finished {v v'} (through : WorkedThrough args w w' paths v v')
      (added : runAdd args mode w = (.ok 0, (reportAdded args mode
        (sorted (passesOver args w) paths).1 (sorted (passesOver args w) paths).2 v).2))
      (shim_added : shimAdd paths args.lifetime args.confirm args.unlock w' = (.ok 0, v'))
  | stopped {v v' u u' e e'} (done : List String) (path : String) (rest : List String)
      (split : paths = done ++ path :: rest) (through : WorkedThrough args w w' done v v')
      (fails : agentRound (loadedIdentities w.agent) args (sorted (passesOver args w) done) path v =
        (.error e, u))
      (shim_fails : shimRound (loadedIdentities w.agent) args.lifetime args.confirm args.unlock ()
        path v' = (.error e', u'))
      (stopped : runAdd args mode w = (.error e, u))
      (shim_stopped : shimAdd paths args.lifetime args.confirm args.unlock w' = (.error e', u'))
      (none_added : ∀ held : Ag → String → Option Constraints, RefusalKeeps held →
        held u.agent.agent = held v.agent.agent)

theorem runAdd_rounds {args : AgentAddArgs} (mode : OutputMode) {paths : List String}
    {w : World Ag Va Te} (chosen : args.paths w = (.ok paths, w))
    (connected : Agent.fromEnv (w.env.vars "SSH_AUTH_SOCK") w.agent = .ok ()) :
    runAdd args mode w =
      ((paths.foldlM (agentRound (loadedIdentities w.agent) args) ([], []) : Program Ag Va Te _) >>=
        fun report => reportAdded args mode report.1 report.2 >>= fun _ => pure 0) w := by
  unfold runAdd
  rw [Fallible.bind_of_ok chosen]
  have socket : (Fallible.query fun w : World Ag Va Te =>
      Agent.fromEnv (w.env.vars "SSH_AUTH_SOCK") w.agent) w = (.ok (), w) := by
    rw [Fallible.query_run, connected]
  rw [Fallible.bind_of_ok socket]
  rfl

/-- What the first loop has put into the agent, by the constraints it holds. -/
private theorem agentRounds_held (law : DecryptKeepsPublic Priv) {args : AgentAddArgs}
    {done : List String} {report : List String × List String}
    {w v : World (RecordedAgent Ag Priv) (Recorded Va) Te}
    (returned : done.foldlM (agentRound (loadedIdentities w.agent) args) ([], []) w =
      (.ok report, v)) (held : Ag → String → Option Constraints) (holds : Holds held) :
    (∀ print, Added Priv (loadedIdentities w.agent) args.unlock w.fs done print →
      held v.agent.agent print = some ⟨args.lifetime, args.confirm⟩) ∧
    ∀ print, ¬ Added Priv (loadedIdentities w.agent) args.unlock w.fs done print →
      held v.agent.agent print = held w.agent.agent print := by
  obtain ⟨_, fresh, others⟩ := addAll_held holds.recorded (loadPrivateKey_loader law)
    (fun _ _ => Fallible.Keeps.pure _) (fun _ _ => Fallible.Keeps.pure _) returned
  exact ⟨fresh, others⟩

/-- The first loop hands over the keys it does not pass over, in order. -/
private theorem agentRounds_keys (law : DecryptKeepsPublic Priv) {args : AgentAddArgs}
    {done : List String} {report : List String × List String}
    {w v : World (RecordedAgent Ag Priv) (Recorded Va) Te}
    (returned : done.foldlM (agentRound (loadedIdentities w.agent) args) ([], []) w =
      (.ok report, v)) :
    v.agent.keys = w.agent.keys ++ (done.filter fun path => !passesOver args w path).filterMap
      (handed Priv w.fs ⟨args.lifetime, args.confirm⟩) := by
  let I (done : List String) (_ : List String × List String)
      (v : World (RecordedAgent Ag Priv) (Recorded Va) Te) : Prop :=
    v.fs = w.fs ∧ v.agent.keys = w.agent.keys ++
      (done.filter fun path => !passesOver args w path).filterMap
        (handed Priv w.fs ⟨args.lifetime, args.confirm⟩)
  have start : I [] ([], []) w := ⟨rfl, by simp⟩
  have whole := Fallible.foldlM_ok_invariant (agentRound (loadedIdentities w.agent) args) I ?step
    done start returned
  case step =>
    rintro done path report v report' v' ⟨files, keys⟩ round
    obtain ⟨key, there, effect⟩ := addOne_cases (loadPrivateKey_loader law)
      (fun _ _ => Fallible.Keeps.pure _) (fun _ _ => Fallible.Keeps.pure _) round
    rw [files] at there
    rcases effect with ⟨passed, unchanged⟩ | ⟨kept, plain, rec, public_same, accepted, after⟩
    · simp only [World.setting, Prod.mk.injEq] at unchanged
      have skipped : passesOver args w path = true := by
        simpa [passesOver, skips, there] using passed
      -- The list of paths and the list of keys both stay as they are.
      refine ⟨unchanged.2.1.trans files, ?_⟩
      rw [unchanged.2.2, keys]
      simp [skipped]
    · simp only [World.setting, Prod.mk.injEq] at after
      have added : passesOver args w path = false := by
        simpa [passesOver, skips, there] using kept
      simp only [Agent.add, Prod.mk.injEq] at accepted
      refine ⟨after.2.1.trans files, ?_⟩
      rw [after.2.2, ← accepted.2]
      -- One more path, and the key in its file.
      simp only [RecordedAgent.keys] at keys ⊢
      simp [keys, added, handed, there, public_same]
  exact whole.2

/-- On one agent and one keystore, with prompts that give the same answers, both commands
make the same calls in the same order, pass over the same paths and end in step. -/
theorem loaders_in_step (law : DecryptKeepsPublic Priv) {R : Asking Te → Asking Te → Prop}
    (same : SameAnswers (RecordedAgent Ag Priv) (Recorded Va) R) (args : AgentAddArgs)
    (mode : OutputMode) (paths : List String)
    (w w' : World (RecordedAgent Ag Priv) (Recorded Va) Te)
    (chosen : args.paths w = (.ok paths, w))
    (connected : Agent.fromEnv (w.env.vars "SSH_AUTH_SOCK") w.agent = .ok ())
    (stores : SameStores w w') (files : w'.fs = w.fs) (asked : R (asking w) (asking w')) :
    SameStores (runAdd args mode w).2
        (shimAdd paths args.lifetime args.confirm args.unlock w').2 ∧
      InStep args mode paths w w' := by
  have first := runAdd_rounds mode chosen connected
  have second : shimAdd paths args.lifetime args.confirm args.unlock w' =
      ((paths.foldlM (shimRound (loadedIdentities w.agent) args.lifetime args.confirm args.unlock)
        () : Program _ _ _ _) >>= fun _ => pure 0) w' := by
    rw [stores.1]
    rfl
  -- Both loops start with nothing done and nothing reported.
  have start : AfterRounds R w.fs w'.stdout (passesOver args w) [] ([], []) () w w' :=
    ⟨rfl, stores, rfl, files, asked, by simp⟩
  have rounds (done : List String) (path : String) (report : List String × List String) (u : Unit) :
      Coupled (AfterRounds R w.fs w'.stdout (passesOver args w) done report u)
        (AfterRounds R w.fs w'.stdout (passesOver args w) (done ++ [path])) SameStores
        (agentRound (loadedIdentities w.agent) args report path)
        (shimRound (loadedIdentities w.agent) args.lifetime args.confirm args.unlock u path) :=
    coupled_round same (loadedIdentities w.agent) args done path report u
  have through {done : List String} {report : List String × List String} {u : Unit} {v v'}
      (left : done.foldlM (agentRound (loadedIdentities w.agent) args) ([], []) w = (.ok report, v))
      (right : done.foldlM (shimRound (loadedIdentities w.agent) args.lifetime args.confirm
        args.unlock) () w' = (.ok u, v'))
      (after : AfterRounds R w.fs w'.stdout (passesOver args w) done report u v v') :
      WorkedThrough args w w' done v v' := by
    obtain ⟨rfl, paired⟩ := after
    exact ⟨left, right, paired.stores, paired.printed, agentRounds_keys law left,
      agentRounds_held law left⟩
  -- The loop rule gives the element at which both stop, if they do.
  cases foldlM_in_step rounds paths start with
  | @finished report _ v v' left right after =>
    have worked := through left right after
    obtain ⟨rfl, paired⟩ := after
    obtain ⟨stdout, stderr, printed⟩ := reportAdded_run args mode
      (sorted (passesOver args w) paths).1 (sorted (passesOver args w) paths).2 v
    rw [Fallible.bind_of_ok left, Fallible.bind_of_ok printed] at first
    rw [Fallible.bind_of_ok right] at second
    refine ⟨by rw [first, second]; exact paired.stores, .finished worked ?_ second⟩
    rw [first, printed]
    rfl
  | stopped done path rest split left right between left_stops right_stops left_whole right_whole
      after =>
    rw [Fallible.bind_of_error left_whole] at first
    rw [Fallible.bind_of_error right_whole] at second
    have worked := through left right between
    obtain ⟨rfl, _⟩ := between
    refine ⟨by rw [first, second]; exact after, .stopped done path rest split worked left_stops
      right_stops first second ?_⟩
    intro held keeps
    exact addOne_failed (loadPrivateKey_loader law).keeps (fun _ _ _ => ⟨_, _, rfl⟩)
      (fun _ _ _ => ⟨_, _, rfl⟩) keeps.recorded left_stops

end

/-! ### At a terminal -/

/-- Without an askpass program, and with `gitway-add` at a terminal, both prompts ask there. -/
theorem sameAnswers_terminal [Terminal Te] : SameAnswers Ag Va fun a a' : Asking Te =>
    a.env.vars "SSH_ASKPASS" = none ∧ a'.env.stdinIsTerminal = true ∧ a.terminal = a'.terminal := by
  rintro path w w' ⟨unset, tty, same⟩
  simp only [asking] at unset tty same
  have unasked : Prompt.tryAskpass s!"Enter passphrase for {path}: " w = (.ok none, w) := by
    unfold Prompt.tryAskpass
    rw [Fallible.bind_of_ok (Program.environment_run w), unset]
    rfl
  have unpiped : passphraseFromStdinIfNotTty w' = (.ok none, w') := by
    unfold passphraseFromStdinIfNotTty
    rw [Fallible.bind_of_ok (Program.environment_run w'), tty]
    rfl
  unfold Prompt.promptPassphraseInteractive shimPromptPassphrase Program.promptPassword
  dsimp only
  rw [Fallible.bind_of_ok unasked, Fallible.bind_of_ok unpiped]
  dsimp only
  rw [Fallible.bind_of_ok (Program.onTerminal_run w _),
    Fallible.bind_of_ok (Program.onTerminal_run w' _), same]
  cases (Terminal.promptPassword s!"Enter passphrase for {path}: " w'.terminal).1 with
  | error e => exact .failed trivial
  | ok pass => exact .returned ⟨rfl, unset, tty, rfl⟩

open Reference

theorem refAgent_refusalKeeps : RefusalKeeps RefAgent.held := by
  intro key lifetime confirm ag ag' e refused
  simp only [Agent.add] at refused
  split at refused
  · cases refused
    rfl
  · simp at refused

theorem refAgent_accepting {ag : RefAgent} (unlocked : ag.locked = false) : Accepting ag := by
  intro given
  induction given generalizing ag with
  | nil =>
    intro key lifetime confirm
    simp [Agent.add, unlocked]
  | cons g given ih =>
    -- An agent that took a key is still not locked.
    have next : (Agent.add g.1 g.2.lifetime g.2.confirm ag).2.locked = false := by
      simp [Agent.add, unlocked, RefAgent.put]
    exact ih next

/-- An agent that holds one of three keys, and a person who gets the last passphrase wrong. -/
private def threeKeys :
    World (RecordedAgent RefAgent RefPrivate) (Recorded RefVault) RefTerminal where
  env := { environment [("SSH_AUTH_SOCK", "/run/agent.sock")] with stdinIsTerminal := true }
  fs := textFiles [("held", "openssh-key-v1 AAAA none"),
    ("new", "openssh-key-v1 BBBB aes256-ctr right"),
    ("other", "openssh-key-v1 CCCC aes256-ctr pass")]
  agent := ⟨⟨false, [(⟨"AAAA"⟩, ⟨none, false⟩)]⟩, []⟩
  vault := ⟨⟨[]⟩, []⟩
  terminal := ⟨["right", "wrong"]⟩
  stdin := .ok ByteArray.empty
  stdout := []
  stderr := []
  signals := []

private def addThree : AgentAddArgs := ⟨["held", "new", "other"], some 60, true, false, false⟩

theorem loaders_in_step_three_keys :
    Holds RefAgent.held ∧ RefusalKeeps RefAgent.held ∧
      SameStores (runAdd addThree .human threeKeys).2
        (shimAdd ["held", "new", "other"] (some 60) true addThree.unlock threeKeys).2 ∧
      InStep addThree .human ["held", "new", "other"] threeKeys threeKeys := by
  refine ⟨refAgent_holds, refAgent_refusalKeeps, ?_⟩
  exact loaders_in_step decryptKeepsPublic sameAnswers_terminal addThree .human
    ["held", "new", "other"] threeKeys threeKeys rfl rfl ⟨rfl, rfl⟩ rfl ⟨rfl, rfl, rfl⟩

end Gitway.Agent
