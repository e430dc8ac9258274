import Gitway.Agent.InStep

/-!
# Keys that the agent holds already

Both loops pass over the keys that the agent listed before the first round. A key that
an earlier round has brought into the agent is not on that list, so it is unlocked and
handed over again where another path holds it. `held_left_alone_iff` says that this is the
only case in which a key that is held as requested is not left alone.
-/
namespace Gitway.Agent

open Lib Biometric

variable {Priv Pub Ag Va Te β : Type} [PublicKey Pub] [PrivateKey Priv Pub]

/-- What a command puts into the loop. -/
structure Loop (Priv Ag Va Te β : Type) where
  load : String → Priv → UnlockMode → Program Ag Va Te Priv
  onLoaded : β → String → Program Ag Va Te β
  onAdded : β → String → Program Ag Va Te β
  lifetime : Option Nat
  confirm : Bool
  unlock : UnlockMode

def Loop.constraints (L : Loop Priv Ag Va Te β) : Constraints := ⟨L.lifetime, L.confirm⟩

variable [Agent Ag Priv Pub]

/-- A round, with this list of the identities in the agent. -/
def Loop.round (L : Loop Priv Ag Va Te β) (loaded : List (Identity Pub)) :
    β → String → Program Ag Va Te β :=
  addOne L.load L.onLoaded L.onAdded loaded L.lifetime L.confirm L.unlock

/-- The round reports the key as loaded and does nothing else, however keys are unlocked. -/
def Loop.Untouched (L : Loop Priv Ag Va Te β) (loaded : List (Identity Pub)) (acc : β)
    (path : String) (v : World Ag Va Te) : Prop :=
  ∀ load, Loop.round { L with load := load } loaded acc path v = L.onLoaded acc path v

/-- The loop over `paths` has come to `path`, and the rounds before went well. -/
structure Loop.Reaches (L : Loop Priv Ag Va Te β) (start : β) (w : World Ag Va Te)
    (paths done : List String) (path : String) (acc : β) (v : World Ag Va Te) : Prop where
  listed : done ++ [path] <+: paths
  ran : done.foldlM (L.round (loadedIdentities w.agent)) start w = (.ok acc, v)

/-- A key that the agent holds as requested when the loop comes to it is left alone. -/
def Loop.LeavesHeld (L : Loop Priv Ag Va Te β) (held : Ag → String → Option Constraints)
    (start : β) (w : World Ag Va Te) (paths : List String) : Prop :=
  ∀ done path acc v, L.Reaches start w paths done path acc v →
    ∀ key : Priv, keyAt Priv v.fs path = some key →
      held v.agent (sha256 (PrivateKey.publicKey key)) = some L.constraints →
        L.Untouched (loadedIdentities w.agent) acc path v

/-- Of the keys the loop comes to more than once, the agent held each before the loop. -/
def Loop.NewOnce (L : Loop Priv Ag Va Te β) (held : Ag → String → Option Constraints)
    (start : β) (w : World Ag Va Te) (paths : List String) : Prop :=
  ∀ done path acc v, L.Reaches start w paths done path acc v →
    ∀ key : Priv, keyAt Priv w.fs path = some key →
      ∀ earlier ∈ done, ∀ twin : Priv, keyAt Priv w.fs earlier = some twin →
        sha256 (PrivateKey.publicKey twin) = sha256 (PrivateKey.publicKey key) →
          held w.agent (sha256 (PrivateKey.publicKey key)) ≠ none

/-- What both commands put into the loop: it keeps to the setting and reports no failure. -/
structure Loop.Sound (L : Loop Priv Ag Va Te β) : Prop where
  loader : Loader L.load
  onLoaded : ∀ acc path, Fallible.Keeps World.setting (L.onLoaded acc path)
  onAdded : ∀ acc path, Fallible.Keeps World.setting (L.onAdded acc path)

section
variable {L : Loop Priv Ag Va Te β} {loaded : List (Identity Pub)}

theorem Loop.round_keeps_files (sound : L.Sound) (acc : β) (path : String) :
    Fallible.Keeps World.fs (L.round loaded acc path) := by
  have files {α : Type} {x : Program Ag Va Te α} (keeps : Fallible.Keeps World.setting x) :
      Fallible.Keeps World.fs x := fun s => congrArg (fun setting => setting.2.1) (keeps s)
  unfold Loop.round addOne
  apply Fallible.Keeps.bind (Fallible.Keeps.query _)
  intro pem
  cases (PrivateKey.fromOpenssh pem : Except String Priv) with
  | error e => exact Fallible.Keeps.fail _
  | ok key =>
    dsimp only
    split
    · exact files (sound.onLoaded acc path)
    · apply Fallible.Keeps.bind (files (sound.loader.keeps path key L.unlock))
      intro plain
      exact Fallible.Keeps.bind (fun _ => rfl) fun _ => files (sound.onAdded acc path)

/-- A round leaves the key alone where it passes over it, and nowhere else. -/
theorem Loop.untouched_iff {acc : β} {path : String} {v : World Ag Va Te} {key : Priv}
    (there : keyAt Priv v.fs path = some key) :
    L.Untouched loaded acc path v ↔ L.unlock ≠ .enroll ∧ isLoaded loaded key = true := by
  obtain ⟨pem, read, parsed⟩ := parsed_of_keyAt there
  have opened : Program.readToString path v = (.ok pem, v) := by
    rw [Program.readToString_run, read, Program.io_ok]
  have round (load : String → Priv → UnlockMode → Program Ag Va Te Priv) :
      Loop.round { L with load := load } loaded acc path v =
        if L.unlock ≠ .enroll ∧ isLoaded loaded key = true then L.onLoaded acc path v
        else (load path key L.unlock >>= fun decrypted =>
          Program.onAgent (Agent.add decrypted L.lifetime L.confirm) >>= fun _ =>
            L.onAdded acc path) v := by
    unfold Loop.round addOne
    rw [Fallible.bind_of_ok opened]
    simp only [parsed]
    split <;> rfl
  unfold Loop.Untouched
  by_cases skipped : L.unlock ≠ .enroll ∧ isLoaded loaded key = true
  · refine iff_of_true (fun load => ?_) skipped
    rw [round, if_pos skipped]
  · -- Two ways to fail give two different ends.
    refine iff_of_false ?_ skipped
    intro untouched
    have first := untouched fun _ _ _ => Fallible.fail .noKeyFound
    have second := untouched fun _ _ _ => Fallible.fail (.other "" "")
    rw [round, if_neg skipped, Fallible.bind_of_error (Fallible.fail_run _ _)] at first second
    simpa using first.trans second.symm

variable {start acc : β} {w v : World Ag Va Te} {paths done : List String} {path : String}

theorem Loop.Reaches.files (reaches : L.Reaches start w paths done path acc v)
    (sound : L.Sound) : v.fs = w.fs :=
  (Fallible.Keeps.foldlM (fun acc path => L.round_keeps_files sound acc path) done start).eq
    reaches.ran

/-- What the agent holds where the loop has come to: what the earlier rounds have brought
into it, and what it held before. -/
theorem Loop.Reaches.held {held : Ag → String → Option Constraints} (holds : Holds held)
    (sound : L.Sound) (reaches : L.Reaches start w paths done path acc v) :
    (∀ print, Added Priv (loadedIdentities w.agent) L.unlock w.fs done print →
      held v.agent print = some L.constraints) ∧
      ∀ print, ¬ Added Priv (loadedIdentities w.agent) L.unlock w.fs done print →
        held v.agent print = held w.agent print :=
  (addAll_held holds sound.loader sound.onLoaded sound.onAdded reaches.ran).2

/-- The files hold different key pairs, or pairs that the agent held before the loop. -/
def Distinct (Priv : Type) {Pub : Type} [PublicKey Pub] [PrivateKey Priv Pub]
    (held : Ag → String → Option Constraints) (w : World Ag Va Te) (paths : List String) : Prop :=
  paths.Pairwise fun earlier path =>
    ∀ twin key : Priv, keyAt Priv w.fs earlier = some twin → keyAt Priv w.fs path = some key →
      sha256 (PrivateKey.publicKey twin) = sha256 (PrivateKey.publicKey key) →
        held w.agent (sha256 (PrivateKey.publicKey key)) ≠ none

theorem Loop.newOnce_of_distinct {held : Ag → String → Option Constraints}
    (distinct : Distinct Priv held w paths) (start : β) : L.NewOnce held start w paths := by
  intro done path acc v reaches key there earlier member twin there' same
  have among := distinct.sublist reaches.listed.sublist
  rw [List.pairwise_append] at among
  exact among.2.2 earlier member path (List.mem_singleton_self path) twin key there' there same

/-- Every run of the loop: keys that are held as requested are left alone exactly when no
key is brought into the agent and come to again. -/
theorem Loop.leavesHeld_iff {held : Ag → String → Option Constraints} (holds : Holds held)
    (sound : L.Sound) {ids : List (Identity Pub)} (listed : Agent.list w.agent = .ok ids)
    (mode : L.unlock ≠ .enroll) (start : β) (paths : List String) :
    L.LeavesHeld held start w paths ↔ L.NewOnce held start w paths := by
  have left_alone {acc : β} {path : String} {v : World Ag Va Te} {key : Priv}
      (there : keyAt Priv v.fs path = some key) :
      L.Untouched (loadedIdentities w.agent) acc path v ↔
        held w.agent (sha256 (PrivateKey.publicKey key)) ≠ none := by
    rw [L.untouched_iff there, isLoaded_iff holds listed]
    exact and_iff_right mode
  constructor
  · intro leaves done path acc v reaches key there earlier member twin there' same unheld
    -- The earlier round has brought the key in, on the terms that are asked for.
    have brought : Added Priv (loadedIdentities w.agent) L.unlock w.fs done
        (sha256 (PrivateKey.publicKey key)) := by
      refine ⟨earlier, member, twin, there', same, ?_⟩
      rw [isLoaded_iff holds listed, same, unheld]
      simp
    have now := (reaches.held holds sound).1 _ brought
    rw [← reaches.files sound] at there
    exact (left_alone there).mp (leaves done path acc v reaches key there now) unheld
  · intro once done path acc v reaches key there now
    rw [left_alone there]
    by_cases brought : Added Priv (loadedIdentities w.agent) L.unlock w.fs done
        (sha256 (PrivateKey.publicKey key))
    · obtain ⟨earlier, member, twin, there', same, _⟩ := brought
      rw [reaches.files sound] at there
      exact once done path acc v reaches key there earlier member twin there' same
    · rw [← (reaches.held holds sound).2 _ brought, now]
      simp

end

/-! ### The two commands -/

variable [BiometricVault Va] [Terminal Te]

/-- The loop of `gitway agent add`. -/
def agentLoop (args : AgentAddArgs) : Loop Priv Ag Va Te (List String × List String) where
  load := loadPrivateKey
  onLoaded := fun (added, already) path => pure (added, already ++ [path])
  onAdded := fun (added, already) path => pure (added ++ [path], already)
  lifetime := args.lifetime
  confirm := args.confirm
  unlock := args.unlock

/-- The loop of `gitway-add`. -/
def shimLoop (lifetime : Option Nat) (confirm : Bool) (unlock : UnlockMode) :
    Loop Priv Ag Va Te Unit where
  load := loadAndDecrypt
  onLoaded _ path := Program.println s!"Identity already loaded: {path}"
  onAdded _ path := Program.println s!"Identity added: {path}"
  lifetime := lifetime
  confirm := confirm
  unlock := unlock

theorem runAdd_loop {args : AgentAddArgs} (mode : OutputMode) {paths : List String}
    {w : World Ag Va Te} (chosen : args.paths w = (.ok paths, w))
    (connected : Agent.fromEnv (w.env.vars "SSH_AUTH_SOCK") w.agent = .ok ()) :
    runAdd args mode w =
      (paths.foldlM ((agentLoop args).round (loadedIdentities w.agent)) ([], []) >>=
        fun report => reportAdded args mode report.1 report.2 >>= fun _ => pure 0) w :=
  runAdd_rounds mode chosen connected

theorem shimAdd_loop (paths : List String) (lifetime : Option Nat) (confirm : Bool)
    (unlock : UnlockMode) (w : World Ag Va Te) :
    shimAdd paths lifetime confirm unlock w =
      (paths.foldlM ((shimLoop lifetime confirm unlock).round (loadedIdentities w.agent)) () >>=
        fun _ => pure 0) w := rfl

omit [Agent Ag Priv Pub] in
theorem agentLoop_sound (law : DecryptKeepsPublic Priv) (args : AgentAddArgs) :
    (agentLoop args : Loop Priv Ag Va Te _).Sound where
  loader := loadPrivateKey_loader law
  onLoaded _ _ := Fallible.Keeps.pure _
  onAdded _ _ := Fallible.Keeps.pure _

omit [Agent Ag Priv Pub] in
theorem shimLoop_sound (law : DecryptKeepsPublic Priv) (lifetime : Option Nat) (confirm : Bool)
    (unlock : UnlockMode) : (shimLoop lifetime confirm unlock : Loop Priv Ag Va Te Unit).Sound where
  loader := loadAndDecrypt_loader law
  onLoaded _ _ := Program.keeps_println _
  onAdded _ _ := Program.keeps_println _

/-- In every run of either command that does not enroll, every key that the agent holds as
requested is left alone exactly when no key is brought into the agent and come to again. The
commands are their loops by `runAdd_loop` and `shimAdd_loop`. -/
theorem held_left_alone_iff {held : Ag → String → Option Constraints} (holds : Holds held)
    (law : DecryptKeepsPublic Priv) {w : World Ag Va Te} {ids : List (Identity Pub)}
    (listed : Agent.list w.agent = .ok ids) (paths : List String) :
    (∀ lifetime confirm unlock, unlock ≠ .enroll →
      ((shimLoop lifetime confirm unlock).LeavesHeld held () w paths ↔
        (shimLoop lifetime confirm unlock).NewOnce held () w paths)) ∧
    ∀ args : AgentAddArgs, args.unlock ≠ .enroll →
      ((agentLoop args).LeavesHeld held ([], []) w paths ↔
        (agentLoop args).NewOnce held ([], []) w paths) := by
  constructor
  · intro lifetime confirm unlock mode
    exact Loop.leavesHeld_iff holds (shimLoop_sound law lifetime confirm unlock) listed mode ()
      paths
  · intro args mode
    exact Loop.leavesHeld_iff holds (agentLoop_sound law args) listed mode ([], []) paths

/-! ### On the reference agent -/

open Reference

/-- Somebody at a terminal, and an encrypted key under one path. -/
private def atTerminal (answers : List String) : RefWorld :=
  let w := world [("SSH_AUTH_SOCK", "/run/agent.sock")]
    [("id", "openssh-key-v1 AAAA aes256-ctr right")] ⟨false, []⟩ ⟨[]⟩ ⟨answers⟩
  { w with env := { w.env with stdinIsTerminal := true } }

private theorem atTerminal_parsed :
    (PrivateKey.fromOpenssh "openssh-key-v1 AAAA aes256-ctr right" : Except String RefPrivate) =
      .ok ⟨⟨"AAAA"⟩, some "right"⟩ := by decide

private theorem atTerminal_read (answers : List String) :
    Program.readToString "id" (atTerminal answers) =
      (.ok "openssh-key-v1 AAAA aes256-ctr right", atTerminal answers) := by
  rw [Program.readToString_run]
  simp [atTerminal, world]

/-- The key has been brought in, and this has been printed. -/
private def broughtIn (answers : List String) (out : List Emitted) : RefWorld :=
  { atTerminal answers with agent := ⟨false, [(⟨"AAAA"⟩, ⟨none, false⟩)]⟩, stdout := out }

private theorem shimRound_asks (answers : List String) :
    (shimLoop none false .auto).round [] () "id" (atTerminal ("right" :: answers)) =
      (.ok (), broughtIn answers [.line "Identity added: id"]) := by
  unfold Loop.round addOne
  rw [Fallible.bind_of_ok (atTerminal_read _)]
  simp only [atTerminal_parsed]
  rfl

private def idTwice : AgentAddArgs := ⟨["id", "id"], none, false, false, false⟩

private theorem agentRound_asks (answers : List String) :
    (agentLoop idTwice).round [] ([], []) "id" (atTerminal ("right" :: answers)) =
      (.ok (["id"], []), broughtIn answers []) := by
  unfold Loop.round addOne
  rw [Fallible.bind_of_ok (atTerminal_read _)]
  simp only [atTerminal_parsed]
  rfl

private theorem once_reached {β : Type} {L : Loop RefPrivate RefAgent RefVault RefTerminal β}
    (requested : L.constraints = ⟨none, false⟩) {start acc : β}
    {answers : List String} {out : List Emitted}
    (round : L.round [] start "id" (atTerminal ("right" :: answers)) =
      (.ok acc, broughtIn answers out)) :
    ¬ L.LeavesHeld RefAgent.held start (atTerminal ("right" :: answers)) ["id", "id"] := by
  intro leaves
  have there : keyAt RefPrivate (broughtIn answers out).fs "id" =
      some ⟨⟨"AAAA"⟩, some "right"⟩ := by
    simp [keyAt, broughtIn, atTerminal, world, Except.toOption, atTerminal_parsed]
  have reaches : L.Reaches start (atTerminal ("right" :: answers)) ["id", "id"] ["id"] "id" acc
      (broughtIn answers out) := by
    refine ⟨List.prefix_rfl, ?_⟩
    rw [List.foldlM_cons]
    exact Fallible.bind_of_ok round
  have now : RefAgent.held (broughtIn answers out).agent "SHA256:AAAA" = some L.constraints := by
    rw [requested]
    rfl
  have untouched := leaves ["id"] "id" acc _ reaches _ there now
  rw [L.untouched_iff there] at untouched
  exact Bool.false_ne_true untouched.2

/-- One key file named twice: the key is unlocked and added again. -/
theorem unlocked_twice :
    ¬ (shimLoop none false .auto).LeavesHeld RefAgent.held () (atTerminal ["right", "right"])
        ["id", "id"] ∧
      ¬ (agentLoop idTwice).LeavesHeld RefAgent.held ([], []) (atTerminal ["right", "right"])
        ["id", "id"] :=
  ⟨once_reached rfl (shimRound_asks ["right"]), once_reached rfl (agentRound_asks ["right"])⟩

/-- The agent holds the key of the one file and not that of the other. -/
private def holdingOne : RefWorld :=
  world [("SSH_AUTH_SOCK", "/run/agent.sock")]
    [("id", "openssh-key-v1 AAAA aes256-ctr right"), ("spare", "openssh-key-v1 BBBB none")]
    ⟨false, [(⟨"AAAA"⟩, ⟨none, false⟩)]⟩ ⟨[]⟩ ⟨[]⟩

private theorem holdingOne_id :
    keyAt RefPrivate holdingOne.fs "id" = some ⟨⟨"AAAA"⟩, some "right"⟩ :=
  keyAt_of_parsed (readToString_textFiles _ "id" _ rfl) (by decide)

private theorem holdingOne_spare :
    keyAt RefPrivate holdingOne.fs "spare" = some ⟨⟨"BBBB"⟩, none⟩ :=
  keyAt_of_parsed (readToString_textFiles _ "spare" _ rfl) (by decide)

/-- The key that was held before is come to twice, the other one once. -/
private theorem holdingOne_distinct :
    Distinct RefPrivate RefAgent.held holdingOne ["id", "spare", "id"] := by
  have held : RefAgent.held holdingOne.agent "SHA256:AAAA" ≠ none := by decide
  simp only [Distinct, List.pairwise_cons, List.mem_cons, List.not_mem_nil, or_false,
    forall_eq_or_imp, forall_eq]
  simp only [holdingOne_id, holdingOne_spare, Option.some.injEq]
  refine ⟨⟨?_, ?_⟩, ?_, by simp⟩
  · rintro twin key rfl rfl same
    exact absurd same (by decide)
  · rintro twin key rfl rfl _
    exact held
  · rintro twin key rfl rfl _
    exact held

theorem held_left_alone_samples :
    (shimLoop none false .auto).LeavesHeld RefAgent.held () holdingOne ["id", "spare", "id"] ∧
      (agentLoop idTwice).LeavesHeld RefAgent.held ([], []) holdingOne ["id", "spare", "id"] := by
  have listed : Agent.list holdingOne.agent = .ok [⟨⟨"AAAA"⟩, "", "SHA256:AAAA"⟩] := rfl
  have laws := held_left_alone_iff refAgent_holds decryptKeepsPublic listed ["id", "spare", "id"]
  exact ⟨(laws.1 none false .auto (by decide)).mpr (Loop.newOnce_of_distinct holdingOne_distinct _),
    (laws.2 idTwice (by decide)).mpr (Loop.newOnce_of_distinct holdingOne_distinct _)⟩

end Gitway.Agent
