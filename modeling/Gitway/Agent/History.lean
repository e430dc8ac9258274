import Gitway.Agent.Keyring

/-!
# The history of an agent

Processes of `gitway` and `gitway-add` come and go, each with its own files, terminal and
environment, in which `SSH_AUTH_SOCK` names the one agent. Between them keys expire, and the
agent may be ended, as it is by the signal of `gitway agent stop`, and another one take its
place. Three results tell what the agent holds from the command lines and its ends: where a key
came from, what took one away, and that nothing but the passphrase gets past the lock of an
agent that goes on.
-/
namespace Gitway

open Lib Lib.Fallible
open AddShim (AgentControl PublicKeyText)

variable {Ne Ag Va Te Priv Pub : Type}

/-! ### Events -/

namespace Agent

/-- A process with what it asked for, its files and its success, the passing of time, or the
end of the agent. -/
inductive Happening where
  | process (request : Request) (fs : FileSystem) (succeeded : Bool)
  | age
  | ended

variable (Priv) in
def Happening.Does [PublicKeyText Pub] [PrivateKey Priv Pub] (r : Ring) (ops : List RingOp) :
    Happening → Prop
  | .process request fs succeeded => request.Does Priv r fs succeeded ops
  | .age => ∃ gone, ops = [.expire gone]
  | .ended => ops = [.reset]

variable (Priv) in
/-- The process was asked for this operation, or for this one among others. -/
def Happening.Asks [PublicKeyText Pub] [PrivateKey Priv Pub] (op : RingOp) : Happening → Prop
  | .process request fs _ => request.Means Priv fs op
  | .age | .ended => False

variable (Priv) in
/-- The process was asked to remove the key with this fingerprint. -/
def Happening.AsksRemoval [PublicKeyText Pub] [PrivateKey Priv Pub] (print : String) (e : Happening) :
    Prop :=
  e.Asks Priv (.erase print) ∨ e.Asks Priv .clear

def Happening.Succeeded : Happening → Prop
  | .process _ _ succeeded => succeeded = true
  | .age | .ended => False

/-- No change is asked for. -/
def Happening.Idle : Happening → Prop
  | .process .nothing _ _ => True
  | .process _ _ _ => False
  | .age | .ended => True

end Agent

def Cli.request [Terminal Te] (w : World Ag Va Te) (cli : Cli) : Agent.Request :=
  match cli.subcommand with
  | some (.agent sub) => sub.request w
  | _ => .nothing

/-- Only `gitway agent` has the agent among what it touches. -/
theorem agent_unlisted {cli : Cli} (other : ∀ sub, cli.subcommand ≠ some (.agent sub)) :
    .agent ∉ .stdout :: cli.parts := by
  unfold Cli.parts
  cases given : cli.subcommand with
  | none =>
    dsimp only
    split
    · decide
    split
    · decide
    · decide
  | some subcommand =>
    cases subcommand with
    | agent sub => exact absurd given (other sub)
    | keygen command => cases command <;> simp [GitwaySubcommand.parts, KeygenSubcommand.parts]
    | hosts command =>
      cases command <;> simp [GitwaySubcommand.parts, Hosts.HostsSubcommand.parts]
    | biometric command =>
      cases command <;> simp [GitwaySubcommand.parts, Biometric.BiometricSubcommand.parts]
    | sign args => simp [GitwaySubcommand.parts, KeygenSubcommand.parts]
    | config command => simp [GitwaySubcommand.parts]
    | schema => simp [GitwaySubcommand.parts]
    | describe => simp [GitwaySubcommand.parts]
    | listAlgorithms => simp [GitwaySubcommand.parts]

namespace Agent

section
variable (An B Hk Priv Va Te Co : Type) {Pub Signers : Type} [Config.Anvil An]
  [Transport.ConfigBuilder B] [Hosts.KnownHosts Hk] [PublicKeyText Pub] [PrivateKey Priv Pub]
  [Keygen.KeyDetails Pub] [Keygen.Writer Priv] [Keygen.Signatures Priv Signers]
  [AgentControl Ag Priv Pub] [Biometric.BiometricBackend Va] [Terminal Te]
  [Config.SshConfig Co] (sys : Gitway.Platform Ne Ag)

/-- A process of `gitway` as the agent knows it, and the agent as it leaves it. -/
def gitwayVisit (files : Co) (cli : Cli) (stdoutIsTerminal : Bool) (p : Process Ne Ag Va Te) :
    Happening × Ag :=
  let ended := Gitway.run An B Hk Priv sys files cli stdoutIsTerminal p
  (.process (cli.request p.world) p.world.fs ended.1.isOk, ended.2.world.agent)

omit [Keygen.KeyDetails Pub] in
/-- The same of `gitway-add`. -/
def gitwayAddVisit (args : List String) (w : World Ag Va Te) : Happening × Ag :=
  let ended := AddShim.run args w
  (.process (AddShim.request args w) w.fs ended.1.isOk, ended.2.agent)

/-- The agent goes from one process to the next. All else may have changed in between. -/
inductive Happens (mortal : Constraints → Prop) (ring : Ag → Ring) : Ag → Happening → Ag → Prop where
  | gitway (files : Co) (cli : Cli) (stdoutIsTerminal : Bool) (p : Process Ne Ag Va Te) :
    Happens mortal ring p.world.agent
      (gitwayVisit An B Hk Priv Va Te Co sys files cli stdoutIsTerminal p).1
      (gitwayVisit An B Hk Priv Va Te Co sys files cli stdoutIsTerminal p).2
  | gitwayAdd (args : List String) (w : World Ag Va Te) :
    Happens mortal ring w.agent (gitwayAddVisit Priv Va Te args w).1 (gitwayAddVisit Priv Va Te args w).2
  | age {ag ag' : Ag} (gone : Set String)
      (expired : Keyring.Step mortal (ring ag) (.expire gone) (ring ag')) :
    Happens mortal ring ag .age ag'
  /-- The agent zeroes its keys when it ends. What answers after it is a new agent. -/
  | ended {ag ag' : Ag} (anew : ring ag' = Keyring.empty) : Happens mortal ring ag .ended ag'

variable {mortal : Constraints → Prop} {ring : Ag → Ring}

theorem performs_gitway (keeper : Keeper mortal ring) (law : DecryptKeepsPublic Priv) (files : Co)
    (cli : Cli) (stdoutIsTerminal : Bool) (p : Process Ne Ag Va Te) :
    ∃ ops, Run (Keyring.Step mortal) (ring p.world.agent) ops
        (ring (Gitway.run An B Hk Priv sys files cli stdoutIsTerminal p).2.world.agent) ∧
      (cli.request p.world).Does Priv (ring p.world.agent) p.world.fs
        (Gitway.run An B Hk Priv sys files cli stdoutIsTerminal p).1.isOk ops := by
  by_cases asked : ∃ sub, cli.subcommand = some (.agent sub)
  · obtain ⟨sub, given⟩ := asked
    have request : cli.request p.world = sub.request p.world := by
      unfold Cli.request
      rw [given]
    rw [request, run_subcommand An B Hk Priv sys files cli stdoutIsTerminal p given]
    show ∃ ops, Run _ _ ops (ring (exitWith (Agent.run sys.processes sub _) p).2.world.agent) ∧
      (sub.request p.world).Does Priv _ _ (exitWith (Agent.run sys.processes sub _) p).1.isOk ops
    rw [exitWith_run]
    obtain ⟨ops, ran, does⟩ := performs_agent keeper law sys.processes sub
      (detectOutputMode cli p.world.env stdoutIsTerminal true) p.world
    refine ⟨ops, ran, ?_⟩
    cases result : (Agent.run sys.processes sub
        (detectOutputMode cli p.world.env stdoutIsTerminal true) p.world).1 with
    | ok code =>
      rw [result] at does
      exact does
    | error e =>
      rw [result] at does
      exact does
  · have other (sub : AgentSubcommand) : cli.subcommand ≠ some (.agent sub) :=
      fun given => asked ⟨sub, given⟩
    have same := ((obeys_run An B Hk Priv sys files cli stdoutIsTerminal p).1.world).agent
      (agent_unlisted other)
    have request : cli.request p.world = .nothing := by
      unfold Cli.request
      split
      next sub given => exact absurd given (other sub)
      next => rfl
    rw [same, request]
    exact ⟨[], Run.nil _, Request.does_nothing _ _ _⟩

/-- What an event does to the keyring is a run of the operations that were asked for. -/
theorem Happens.follows (keeper : Keeper mortal ring) (law : DecryptKeepsPublic Priv)
    {ag ag' : Ag} {e : Happening}
    (happens : Happens An B Hk Priv Va Te Co sys mortal ring ag e ag') :
    ∃ ops, Run (Keyring.Step mortal) (ring ag) ops (ring ag') ∧ e.Does Priv (ring ag) ops := by
  cases happens with
  | gitway files cli stdoutIsTerminal p =>
    exact performs_gitway An B Hk Priv Va Te Co sys keeper law files cli stdoutIsTerminal p
  | gitwayAdd args w => exact AddShim.performs_run keeper law args w
  | age gone expired => exact ⟨[.expire gone], Run.cons expired (Run.nil _), gone, rfl⟩
  | ended anew =>
    rw [anew]
    exact ⟨[.reset], Run.cons .reset (Run.nil _), rfl⟩

/-! ### One event -/

section
variable {An B Hk Priv Va Te Co} {sys} {ag ag' : Ag} {e : Happening} {print pass : String}
  {c : Constraints}

/-- A key that is held after an event was asked for by it, or was held before and is not one
that the event has removed. -/
theorem Happens.held (keeper : Keeper mortal ring) (law : DecryptKeepsPublic Priv)
    (happens : Happens An B Hk Priv Va Te Co sys mortal ring ag e ag')
    (held : (ring ag').terms print = some c) :
    e.Asks Priv (.insert print c) ∨
      (ring ag).terms print = some c ∧ ¬ (e.AsksRemoval Priv print ∧ e.Succeeded) := by
  obtain ⟨ops, ran, does⟩ := happens.follows An B Hk Priv Va Te Co sys keeper law
  rcases Keyring.held_from ran held with ⟨before, kept⟩ | ⟨earlier, op, later, split, rfl, _⟩
  · refine Or.inr ⟨before, ?_⟩
    rintro ⟨asks, ok⟩
    cases e with
    | age => exact ok
    | ended => exact ok
    | process request fs succeeded =>
      obtain rfl : succeeded = true := ok
      rcases asks with erases | clears
      · exact kept _ (does.performed erases nofun) rfl
      · exact kept _ (does.performed clears nofun) trivial
  · -- An operation that was not asked for is none of those of a process.
    have member : .insert print c ∈ ops := by simp [split]
    left
    cases e with
    | age =>
      obtain ⟨gone, rfl⟩ := does
      simp at member
    | ended =>
      obtain rfl : ops = [.reset] := does
      simp at member
    | process request fs succeeded => exact does.each _ member

/-- A key that is gone after an event was asked to be removed, or the agent had ended, or the
time of the key was up. -/
theorem Happens.gone (keeper : Keeper mortal ring) (law : DecryptKeepsPublic Priv)
    (happens : Happens An B Hk Priv Va Te Co sys mortal ring ag e ag')
    (held : (ring ag).terms print = some c) (gone : (ring ag').terms print = none) :
    e.AsksRemoval Priv print ∨ e = .ended ∨ e = .age ∧ mortal c := by
  obtain ⟨ops, ran, does⟩ := happens.follows An B Hk Priv Va Te Co sys keeper law
  cases e with
  | ended => exact Or.inr (Or.inl rfl)
  | age =>
    obtain ⟨expired, rfl⟩ := does
    cases ran with
    | cons first rest =>
      cases rest
      rcases first.gone held gone with same | same | same | ⟨_, _, _, due⟩
      · cases same
      · cases same
      · cases same
      · exact Or.inr (Or.inr ⟨rfl, due⟩)
  | process request fs succeeded =>
    -- One of the operations took the key away, and it was asked for.
    have there : ¬ (ring ag).terms print = none := by simp [held]
    obtain ⟨earlier, op, later, s, s', split, _, step, _, before, after⟩ :=
      Run.introduced (G := fun r : Ring => r.terms print = none) ran there gone
    have asked : request.Means Priv fs op := does.each op (by simp [split])
    obtain ⟨c', was⟩ := Option.ne_none_iff_exists'.mp before
    left
    rcases step.gone was after with rfl | rfl | rfl | ⟨expired, rfl, _⟩
    · exact Or.inl asked
    · exact Or.inr asked
    · cases request <;> simp [Request.Means] at asked
    · cases request <;> simp [Request.Means] at asked

/-- Nothing happens to a locked agent but that keys expire, unless it is unlocked or ended. -/
theorem Happens.locked (keeper : Keeper mortal ring) (law : DecryptKeepsPublic Priv)
    (happens : Happens An B Hk Priv Va Te Co sys mortal ring ag e ag')
    (locked : (ring ag).lock = some pass) (guarded : ¬ e.Asks Priv (.unlock pass))
    (lives : e ≠ .ended) :
    (ring ag').lock = some pass ∧
      (∀ print, (ring ag').terms print = (ring ag).terms print ∨
        (ring ag').terms print = none ∧ ∃ c, (ring ag).terms print = some c ∧ mortal c) ∧
      (e.Succeeded → e.Idle) := by
  obtain ⟨ops, ran, does⟩ := happens.follows An B Hk Priv Va Te Co sys keeper law
  have unopened : .unlock pass ∉ ops := by
    intro member
    cases e with
    | age =>
      obtain ⟨gone, rfl⟩ := does
      simp at member
    | ended => exact lives rfl
    | process request fs succeeded => exact guarded (does.each _ member)
  have unended : .reset ∉ ops := by
    intro member
    cases e with
    | age =>
      obtain ⟨gone, rfl⟩ := does
      simp at member
    | ended => exact lives rfl
    | process request fs succeeded =>
      have asked := does.each _ member
      cases request <;> simp [Request.Means] at asked
  obtain ⟨still, ageing, same⟩ := Keyring.locked_run ran locked unopened unended
  refine ⟨still, same, fun ok => ?_⟩
  cases e with
  | age => exact ok.elim
  | ended => exact ok.elim
  | process request fs succeeded =>
    obtain rfl : succeeded = true := ok
    -- Whatever was asked for would have been done.
    have none_done : ops = [] := by
      rw [List.eq_nil_iff_forall_not_mem]
      intro op member
      obtain ⟨gone, rfl⟩ := ageing op member
      have asked := does.each _ member
      cases request <;> simp [Request.Means] at asked
    have done := does.all rfl
    subst none_done
    cases request with
    | nothing => trivial
    | add paths c =>
      obtain ⟨some_path, all⟩ := done
      obtain ⟨path, more, rfl⟩ := List.exists_cons_of_ne_nil some_path
      obtain ⟨print, _, inserted | ⟨opened, _⟩⟩ := all path List.mem_cons_self
      · simp at inserted
      · simp [locked] at opened
    | remove path => exact absurd rfl done
    | removeAll => exact absurd rfl done
    | lock pass => exact absurd rfl done
    | unlock pass => exact absurd rfl done

/-! ### Any number of events -/

variable {events : List Happening}

/-- A key that the agent holds in the end it has held from the start on these terms, or some
process was asked to add it on just these. No process after that one has removed it. -/
theorem held_key_was_added (keeper : Keeper mortal ring) (law : DecryptKeepsPublic Priv)
    (history : Run (Happens An B Hk Priv Va Te Co sys mortal ring) ag events ag')
    (held : (ring ag').terms print = some c) :
    (ring ag).terms print = some c ∧
        (∀ e ∈ events, ¬ (e.AsksRemoval Priv print ∧ e.Succeeded)) ∨
      ∃ before e after, events = before ++ e :: after ∧ e.Asks Priv (.insert print c) ∧
        ∀ e' ∈ after, ¬ (e'.AsksRemoval Priv print ∧ e'.Succeeded) :=
  Run.since (P := fun ag => (ring ag).terms print = some c)
    (fun _ _ _ happens => happens.held keeper law) history held

/-- A key that the agent no longer holds in the end a process was asked to remove, or the agent
had ended, or the key was held on terms under which keys expire, and time passed. -/
theorem lost_key_was_removed (keeper : Keeper mortal ring) (law : DecryptKeepsPublic Priv)
    (history : Run (Happens An B Hk Priv Va Te Co sys mortal ring) ag events ag')
    (held : (ring ag).terms print ≠ none) (gone : (ring ag').terms print = none) :
    ∃ before e after ag₁ ag₂ c, events = before ++ e :: after ∧
      Run (Happens An B Hk Priv Va Te Co sys mortal ring) ag before ag₁ ∧
      Happens An B Hk Priv Va Te Co sys mortal ring ag₁ e ag₂ ∧
      Run (Happens An B Hk Priv Va Te Co sys mortal ring) ag₂ after ag' ∧
      (ring ag₁).terms print = some c ∧ (ring ag₂).terms print = none ∧
      (e.AsksRemoval Priv print ∨ e = .ended ∨ e = .age ∧ mortal c) := by
  obtain ⟨before, e, after, ag₁, ag₂, split, first, happens, last, was, absent⟩ :=
    Run.introduced (G := fun ag => (ring ag).terms print = none) history held gone
  obtain ⟨c, there⟩ := Option.ne_none_iff_exists'.mp was
  exact ⟨before, e, after, ag₁, ag₂, c, split, first, happens, last, there, absent,
    happens.gone keeper law there absent⟩

/-- An agent that is locked stays so, and holds what it held but for the keys that expire,
while it is not ended and no process is offered the passphrase to unlock it. No process that
asks it for a change succeeds. -/
theorem locked_agent_keeps_keys (keeper : Keeper mortal ring) (law : DecryptKeepsPublic Priv)
    (history : Run (Happens An B Hk Priv Va Te Co sys mortal ring) ag events ag')
    (locked : (ring ag).lock = some pass)
    (guarded : ∀ e ∈ events, ¬ e.Asks Priv (.unlock pass)) (lives : .ended ∉ events) :
    (ring ag').lock = some pass ∧
      (∀ print, (ring ag').terms print = (ring ag).terms print ∨
        (ring ag').terms print = none ∧ ∃ c, (ring ag).terms print = some c ∧ mortal c) ∧
      ∀ e ∈ events, e.Succeeded → e.Idle := by
  induction history with
  | nil ag => exact ⟨locked, fun _ => Or.inl rfl, by simp⟩
  | @cons ag mid ag' e events happens rest ih =>
    obtain ⟨unoffered, guarded⟩ := List.forall_mem_cons.mp guarded
    rw [List.mem_cons, not_or] at lives
    obtain ⟨still, first, idle⟩ := happens.locked keeper law locked unoffered
      fun same => lives.1 same.symm
    obtain ⟨after, later, idle_later⟩ := ih still guarded lives.2
    refine ⟨after, fun print => ?_, List.forall_mem_cons.mpr ⟨idle, idle_later⟩⟩
    -- A key may expire in the first event or in a later one.
    rcases first print with same | ⟨absent, c, was, due⟩
    · rw [← same]
      exact later print
    · rcases later print with same | ⟨_, c', was', _⟩
      · exact Or.inr ⟨same.trans absent, c, was, due⟩
      · simp [absent] at was'

end

end

end Agent

/-! ### On a reference agent -/

namespace Reference

open Agent

/-- An agent that asks for the passphrase of its lock. -/
structure RefKeeper where
  lock : Option String
  entries : List (RefPublic × Constraints)

def RefKeeper.open_ (ag : RefKeeper) : RefAgent := ⟨false, ag.entries⟩

instance : AgentControl RefKeeper RefPrivate RefPublic where
  fromEnv sock _ :=
    if sock.isSome then .ok () else .error (.invalidConfig "SSH_AUTH_SOCK is not set")
  list ag := if ag.lock.isSome then .error agentLocked else Agent.list ag.open_
  add key lifetime confirm ag :=
    if ag.lock.isSome then (.error agentLocked, ag)
    else (.ok (), { ag with entries := (ag.open_.put key.key ⟨lifetime, confirm⟩).entries })
  signWithAgent _ _ _ _ ag := (.error agentLocked, ag)
  remove key ag :=
    if ag.lock.isSome then (.error agentLocked, ag)
    else (.ok (), { ag with entries := ag.entries.filter fun e => e.1 ≠ key })
  removeAll ag :=
    if ag.lock.isSome then (.error agentLocked, ag) else (.ok (), { ag with entries := [] })
  lock pass ag :=
    if ag.lock.isSome then (.error agentLocked, ag) else (.ok (), { ag with lock := some pass })
  unlock pass ag :=
    if ag.lock = some pass then (.ok (), { ag with lock := none }) else (.error agentLocked, ag)

def RefKeeper.ring (ag : RefKeeper) : Ring := ⟨ag.lock, ag.open_.held⟩

def mortal (c : Constraints) : Prop := c.lifetime.isSome

/-- A call that is refused under lock is served if it does the operation otherwise. -/
theorem servedAs_unlocked {op : RingOp} {ag ag' : RefKeeper}
    (step : ag.lock = none → Keyring.Step mortal ag.ring op ag'.ring) :
    ServedAs mortal RefKeeper.ring op ag
      (if ag.lock.isSome then (.error agentLocked, ag) else (.ok (), ag')) := by
  cases locked : ag.lock with
  | some pass => exact rfl
  | none => exact step locked

/-- The entries without a key are those of the keyring without it. -/
theorem held_filter (entries : List (RefPublic × Constraints)) (key : RefPublic)
    (print : String) : RefAgent.held ⟨false, entries.filter fun e => e.1 ≠ key⟩ print =
      if print = sha256 key then none else RefAgent.held ⟨false, entries⟩ print := by
  have prints (e : RefPublic × Constraints) : ("SHA256:" ++ e.1.blob == sha256 key) = true ↔
      e.1 = key := by
    rw [beq_iff_eq]
    constructor
    · intro same
      have blobs : e.1.blob = key.blob := by
        simpa [sha256, PublicKey.keygenFingerprint] using same
      exact congrArg RefPublic.mk blobs
    · rintro rfl
      rfl
  unfold RefAgent.held
  rw [List.find?_filter]
  split
  next same =>
    subst same
    rw [Option.map_eq_none_iff, List.find?_eq_none]
    intro e _ found
    simp only [decide_eq_true_eq] at found
    exact found.1 ((prints e).mp found.2)
  next differs =>
    congr 2
    funext e
    by_cases same : e.1 = key
    · have other : ("SHA256:" ++ e.1.blob == print) = false := by
        rw [same]
        exact beq_eq_false_iff_ne.mpr fun equal => differs equal.symm
      rw [other]
      simp [same]
    · rw [Bool.eq_iff_iff]
      simp [same]

theorem refKeeper_keeper : Keeper mortal RefKeeper.ring where
  listed := by
    intro ag ids listed print there
    simp only [Agent.list] at listed
    split at listed
    · simp at listed
    next opened =>
      refine ⟨by simpa [RefKeeper.ring] using opened, ?_⟩
      exact (refAgent_holds.listed ag.open_ ids listed print).mp there
  add key lifetime confirm ag := by
    refine servedAs_unlocked fun opened => ?_
    have put := refAgent_holds.added key lifetime confirm ag.open_ _ rfl
    have inserted : RefKeeper.ring { ag with
          entries := (ag.open_.put key.key ⟨lifetime, confirm⟩).entries } =
        ag.ring.holding (sha256 (PrivateKey.publicKey key)) ⟨lifetime, confirm⟩ := by
      rw [Keyring.holding_eq]
      exact congrArg (Keyring.mk ag.lock) put
    rw [inserted]
    exact Keyring.Step.insert _ _ opened
  remove key ag := by
    refine servedAs_unlocked fun opened => ?_
    have erased : RefKeeper.ring { ag with entries := ag.entries.filter fun e => e.1 ≠ key } =
        ag.ring.without {sha256 key} := by
      refine Keyring.eq_without rfl ?_ ?_
      · rintro print rfl
        exact (held_filter ag.entries key _).trans (if_pos rfl)
      · intro print other
        exact (held_filter ag.entries key print).trans (if_neg other)
    rw [erased]
    exact Keyring.Step.erase _ opened
  removeAll ag := by
    refine servedAs_unlocked fun opened => ?_
    have cleared : RefKeeper.ring { ag with entries := [] } = ag.ring.without Set.univ :=
      Keyring.eq_without rfl (fun _ _ => rfl) fun _ other => absurd trivial other
    rw [cleared]
    exact Keyring.Step.clear opened
  lock pass ag := by
    refine servedAs_unlocked fun opened => ?_
    exact Keyring.Step.lock pass opened
  unlock pass ag := by
    show ServedAs mortal RefKeeper.ring (.unlock pass) ag
      (if ag.lock = some pass then (.ok (), { ag with lock := none }) else (.error agentLocked, ag))
    split
    next same => exact Keyring.Step.unlock pass same
    next => exact rfl

private def keptSession : Transport.AnvilSession Unit RefKeeper :=
  let answering := Transport.answering .notFound (.ok ()) (.ok ())
  { github := answering.github
    findIdentity := answering.findIdentity
    connectAgent := fun env ag => answering.connectAgent env ag.open_
    connect := answering.connect
    verifiedFingerprint := answering.verifiedFingerprint
    retryHistory := answering.retryHistory
    authenticateBest := fun config setting =>
      answering.authenticateBest config (setting.1, setting.2.1, setting.2.2.open_)
    authenticateWithPassphrase := answering.authenticateWithPassphrase
    authBanner := answering.authBanner
    exec := answering.exec
    close := answering.close
    isKeyEncrypted := answering.isKeyEncrypted
    isNoKeyFound := answering.isNoKeyFound }

private def kept : Platform Unit RefKeeper where
  parse := parse
  session := keptSession
  processes := processes
  tempdir := machine.tempdir
  gitConfig := machine.gitConfig
  allSupported := machine.allSupported
  Filter := machine.Filter
  envFilter := machine.envFilter

private def keptWorld (agent : RefKeeper) : World RefKeeper RefVault RefTerminal where
  env := environment [("SSH_AUTH_SOCK", "/run/agent")]
  fs := textFiles [("id", "openssh-key-v1 AAAAC3 none")]
  agent := agent
  vault := ⟨[]⟩
  terminal := ⟨[]⟩
  stdin := .ok ByteArray.empty
  stdout := []
  stderr := []
  signals := []

private abbrev Kept : RefKeeper → Happening → RefKeeper → Prop :=
  Happens RefAnvil Transport.AnvilConfig Hosts.RefHostKeys RefPrivate RefVault RefTerminal RefFiles
    kept mortal RefKeeper.ring

private def shimRun (args : List String) (agent : RefKeeper) : Happening × RefKeeper :=
  gitwayAddVisit RefPrivate RefVault RefTerminal args (keptWorld agent)

private def oneEntry (lock : Option String) : RefKeeper :=
  ⟨lock, [(⟨"AAAAC3"⟩, ⟨none, true⟩)]⟩

private def confirmedAdd : AddShim.Parsed where
  mode := .add ["id"]
  hash := .sha256
  lifetime := none
  confirm := true
  biometric := false
  noBiometric := false

private theorem id_parsed : (PrivateKey.fromOpenssh "openssh-key-v1 AAAAC3 none" :
    Except String RefPrivate) = .ok ⟨⟨"AAAAC3"⟩, none⟩ := by decide

private theorem id_added : (shimRun ["-c", "id"] ⟨none, []⟩).2 = oneEntry none := by
  have accepted : AddShim.fromArgs ["-c", "id"] (keptWorld ⟨none, []⟩) =
      (.ok confirmedAdd, keptWorld ⟨none, []⟩) := rfl
  have connected : (Fallible.query fun w : World RefKeeper RefVault RefTerminal =>
      Agent.fromEnv (w.env.vars "SSH_AUTH_SOCK") w.agent) (keptWorld ⟨none, []⟩) =
        (.ok (), keptWorld ⟨none, []⟩) := rfl
  unfold shimRun gitwayAddVisit
  rw [AddShim.run_of_accepted accepted, if_neg (by decide), Fallible.bind_of_ok connected]
  simp [AddShim.perform, confirmedAdd, shimAdd, Fallible.bind_run, addOne, id_parsed, isLoaded,
    loadedIdentities, Agent.list, loadAndDecrypt, loadKey, PrivateKey.isEncrypted, Agent.add,
    keptWorld, Biometric.UnlockMode.fromFlags, RefKeeper.open_, RefAgent.put, oneEntry]

/-- A key is added with confirmation. -/
private theorem adding :
    Run Kept ⟨none, []⟩ [(shimRun ["-c", "id"] ⟨none, []⟩).1] (oneEntry none) := by
  have happens : Kept ⟨none, []⟩ (shimRun ["-c", "id"] ⟨none, []⟩).1
      (shimRun ["-c", "id"] ⟨none, []⟩).2 :=
    Happens.gitwayAdd ["-c", "id"] (keptWorld ⟨none, []⟩)
  rw [id_added] at happens
  exact Run.cons happens (Run.nil _)

theorem confirmed_key_was_added :
    (RefKeeper.ring ⟨none, []⟩).terms "SHA256:AAAAC3" = some ⟨none, true⟩ ∧
        (∀ e ∈ [(shimRun ["-c", "id"] ⟨none, []⟩).1],
          ¬ (e.AsksRemoval RefPrivate "SHA256:AAAAC3" ∧ e.Succeeded)) ∨
      ∃ before e after, [(shimRun ["-c", "id"] ⟨none, []⟩).1] = before ++ e :: after ∧
        e.Asks RefPrivate (.insert "SHA256:AAAAC3" ⟨none, true⟩) ∧
        ∀ e' ∈ after, ¬ (e'.AsksRemoval RefPrivate "SHA256:AAAAC3" ∧ e'.Succeeded) :=
  held_key_was_added refKeeper_keeper decryptKeepsPublic adding rfl

/-- All keys are removed. -/
private theorem removing :
    Run Kept (oneEntry none) [(shimRun ["-D"] (oneEntry none)).1] ⟨none, []⟩ := by
  have happens : Kept (oneEntry none) (shimRun ["-D"] (oneEntry none)).1
      (shimRun ["-D"] (oneEntry none)).2 :=
    Happens.gitwayAdd ["-D"] (keptWorld (oneEntry none))
  have emptied : (shimRun ["-D"] (oneEntry none)).2 = ⟨none, []⟩ := rfl
  rw [emptied] at happens
  exact Run.cons happens (Run.nil _)

theorem key_was_removed :
    ∃ before e after ag₁ ag₂ c,
      [(shimRun ["-D"] (oneEntry none)).1] = before ++ e :: after ∧
      Run Kept (oneEntry none) before ag₁ ∧ Kept ag₁ e ag₂ ∧ Run Kept ag₂ after ⟨none, []⟩ ∧
      ag₁.ring.terms "SHA256:AAAAC3" = some c ∧ ag₂.ring.terms "SHA256:AAAAC3" = none ∧
      (e.AsksRemoval RefPrivate "SHA256:AAAAC3" ∨ e = .ended ∨ e = .age ∧ mortal c) := by
  have held : (oneEntry none).ring.terms "SHA256:AAAAC3" = some ⟨none, true⟩ := rfl
  exact lost_key_was_removed refKeeper_keeper decryptKeepsPublic removing (by simp [held]) rfl

/-- The same under lock. -/
private theorem refused :
    Run Kept (oneEntry "pw") [(shimRun ["-D"] (oneEntry "pw")).1] (oneEntry "pw") := by
  have happens : Kept (oneEntry "pw") (shimRun ["-D"] (oneEntry "pw")).1
      (shimRun ["-D"] (oneEntry "pw")).2 :=
    Happens.gitwayAdd ["-D"] (keptWorld (oneEntry "pw"))
  have unchanged : (shimRun ["-D"] (oneEntry "pw")).2 = oneEntry "pw" := rfl
  rw [unchanged] at happens
  exact Run.cons happens (Run.nil _)

theorem locked_key_stays :
    (oneEntry "pw").ring.lock = some "pw" ∧
      (∀ print, (oneEntry "pw").ring.terms print = (oneEntry "pw").ring.terms print ∨
        (oneEntry "pw").ring.terms print = none ∧
          ∃ c, (oneEntry "pw").ring.terms print = some c ∧ mortal c) ∧
      ∀ e ∈ [(shimRun ["-D"] (oneEntry "pw")).1], e.Succeeded → e.Idle := by
  refine locked_agent_keeps_keys refKeeper_keeper decryptKeepsPublic refused rfl ?_ ?_
  · intro e member
    obtain rfl := List.mem_singleton.mp member
    intro asks
    have clears : (Keyring.Op.unlock "pw" : RingOp) = .clear := asks
    cases clears
  · intro member
    cases List.mem_singleton.mp member

end Reference

end Gitway
