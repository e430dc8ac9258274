import Gitway.Reference
import Gitway.Transport.Session
import Mathlib.Data.List.Sublists

/-!
# Prompts while a session is open

Whether a passphrase will be needed is predicted before connecting, from the presence of
some key in the agent. A prompt comes while the session is open exactly when the prediction
fails.
-/
namespace Gitway.Transport

open Lib

variable {Ne Ag Va Te : Type} (Priv : Type) {Pub : Type} [PublicKey Pub] [PrivateKey Priv Pub]
  [BiometricVault Va] [Terminal Te] (an : AnvilSession Ne Ag) (An : Type) [Config.Anvil An]

/-- Somebody was asked for a passphrase after a session had been opened. -/
def PromptedWhileOpen (calls : List SessionCall) : Prop :=
  ∃ path, [.connected, .prompted path].Sublist calls

theorem not_promptedWhileOpen_nil : ¬ PromptedWhileOpen [] := by
  simp [PromptedWhileOpen]

theorem not_promptedWhileOpen_connected : ¬ PromptedWhileOpen [.connected] := by
  simp [PromptedWhileOpen]

theorem not_promptedWhileOpen_prompted (path : String) :
    ¬ PromptedWhileOpen [.prompted path] := by
  simp [PromptedWhileOpen]

/-- A prompt that comes first does not count. -/
theorem not_promptedWhileOpen_before (path : String) :
    ¬ PromptedWhileOpen [.prompted path, .connected] := by
  rintro ⟨later, sub⟩
  exact absurd (sub.eq_of_length rfl) (by simp)

theorem promptedWhileOpen_after (path : String) :
    PromptedWhileOpen [.connected, .prompted path] :=
  ⟨path, List.Sublist.refl _⟩

/-- The path of the key that needs a passphrase, if that is what was found. -/
def encryptedPath : Except AnvilError IdentityResolution → Option String
  | .ok (.encrypted path) => some path
  | _ => none

theorem encryptedPath_eq_some_iff {found : Except AnvilError IdentityResolution} {path : String} :
    encryptedPath found = some path ↔ found = .ok (.encrypted path) := by
  rcases found with e | path' | path' | _ <;> simp [encryptedPath]

def reportsEncrypted : Except AnvilError Unit → Bool
  | .ok () => false
  | .error e => an.isKeyEncrypted e

/-- Nothing is asked for before connecting: no key that is found is encrypted, or an agent
holds some key. -/
def Spared (config : AnvilConfig) (p : Process Ne Ag Va Te) : Prop :=
  ∃ identity, an.findIdentity config p.world.fs = .ok identity ∧
    ((∃ path, identity = .encrypted path) →
      an.connectAgent p.world.env p.world.agent = .ok (some ()))

/-- The prediction fails: nothing was asked for, and then it is an encrypted key that the
session needs. -/
def PredictionFails (r : Request) (p : Process Ne Ag Va Te) : Prop :=
  Spared an r.config p ∧ ∃ fs net path,
    an.connect r.config (connectSession r.hostAlias r.proxyCommand r.jumpHosts)
        (p.world.fs, p.net) = (.ok (), fs, net) ∧
      reportsEncrypted an
        (an.authenticateBest r.config (p.world.env, fs, p.world.agent) net).1 = true ∧
      an.findIdentity r.config fs = .ok (.encrypted path)

/-! ### What each call records -/

section
variable (config : AnvilConfig) (p : Process Ne Ag Va Te)

theorem promptPassphrase_calls (path : String) :
    (promptPassphrase Priv path p).2.calls = p.calls ++ [.prompted path] := rfl

theorem promptThen_calls {α : Type} (path : String) (f : String → α) :
    ((promptPassphrase Priv path : Command Ne Ag Va Te String) >>=
        fun passphrase => pure (some (f passphrase))) p =
      ((((promptPassphrase Priv path : Command Ne Ag Va Te String) p).1.map fun passphrase =>
        some (f passphrase)), (promptPassphrase Priv path p).2) := by
  rw [Fallible.bind_run]
  cases promptPassphrase Priv path p with
  | mk r q => cases r <;> rfl

/-- Before connecting nothing is asked for where the question is spared. Otherwise the
passphrase is asked for, and the run goes on with it or ends, or no key could be looked for. -/
theorem maybeCollectPassphrase_cases :
    Spared an config p ∧ maybeCollectPassphrase Priv an config p = (.ok none, p) ∨
    ¬ Spared an config p ∧ (maybeCollectPassphrase Priv an config p).1 ≠ .ok none ∧
      ((maybeCollectPassphrase Priv an config p).2.calls = p.calls ∨
        ∃ path, (maybeCollectPassphrase Priv an config p).2.calls = p.calls ++ [.prompted path]) := by
  unfold maybeCollectPassphrase findIdentity connectAgent Spared
  cases found : an.findIdentity config p.world.fs with
  | error e =>
    have failed : (Fallible.query fun p : Process Ne Ag Va Te =>
        an.findIdentity config p.world.fs) p = (.error e, p) := by
      rw [Fallible.query_run, found]
    rw [Fallible.bind_of_error failed]
    exact Or.inr ⟨by simp, by simp, Or.inl rfl⟩
  | ok identity =>
    have looked : (Fallible.query fun p : Process Ne Ag Va Te =>
        an.findIdentity config p.world.fs) p = (.ok identity, p) := by
      rw [Fallible.query_run, found]
    rw [Fallible.bind_of_ok looked]
    cases identity with
    | found path => exact Or.inl ⟨⟨_, rfl, by simp⟩, rfl⟩
    | notFound => exact Or.inl ⟨⟨_, rfl, by simp⟩, rfl⟩
    | encrypted path =>
      dsimp only
      rw [Fallible.bind_query_ok]
      have asks : ((promptPassphrase Priv path >>= fun passphrase =>
          pure (some (passphrase, path))) p).2.calls = p.calls ++ [.prompted path] ∧
          ((promptPassphrase Priv path >>= fun passphrase =>
            pure (some (passphrase, path))) p).1 ≠ .ok none := by
        rw [promptThen_calls Priv p path fun passphrase => (passphrase, path)]
        refine ⟨rfl, ?_⟩
        cases (promptPassphrase Priv path p).1 <;> simp [Except.map]
      -- Only an agent with a key spares the question.
      rcases an.connectAgent p.world.env p.world.agent with e | _ | ⟨⟩
      · exact Or.inr ⟨by simp, asks.2, Or.inr ⟨path, asks.1⟩⟩
      · exact Or.inr ⟨by simp, asks.2, Or.inr ⟨path, asks.1⟩⟩
      · exact Or.inl ⟨⟨_, rfl, fun _ => rfl⟩, rfl⟩

/-- The question that `authenticateWithPrompt` asks, if any. -/
def latePrompt (setting : Environment × FileSystem × Ag) (net : Ne) : List SessionCall :=
  if reportsEncrypted an (an.authenticateBest config setting net).1 then
    (encryptedPath (an.findIdentity config setting.2.1)).toList.map .prompted
  else []

/-- There is one for a key that the session needs and that is encrypted. -/
theorem latePrompt_cases (setting : Environment × FileSystem × Ag) (net : Ne) :
    (∃ path, reportsEncrypted an (an.authenticateBest config setting net).1 = true ∧
      an.findIdentity config setting.2.1 = .ok (.encrypted path) ∧
      latePrompt an config setting net = [.prompted path]) ∨
    (¬ (reportsEncrypted an (an.authenticateBest config setting net).1 = true ∧
        ∃ path, an.findIdentity config setting.2.1 = .ok (.encrypted path)) ∧
      latePrompt an config setting net = []) := by
  unfold latePrompt
  by_cases needed : reportsEncrypted an (an.authenticateBest config setting net).1 = true
  · simp only [needed, if_true, true_and]
    cases key : encryptedPath (an.findIdentity config setting.2.1) with
    | some path => exact Or.inl ⟨path, encryptedPath_eq_some_iff.mp key, rfl⟩
    | none =>
      refine Or.inr ⟨?_, rfl⟩
      rintro ⟨path, found⟩
      rw [encryptedPath_eq_some_iff.mpr found] at key
      cases key
  · exact Or.inr ⟨fun both => needed both.1, if_neg needed⟩

theorem authenticateWithPrompt_calls :
    (authenticateWithPrompt Priv an config p).2.calls =
      p.calls ++ latePrompt an config p.world.setting p.net := by
  let q : Process Ne Ag Va Te :=
    { p with net := (an.authenticateBest config p.world.setting p.net).2 }
  have tried : Fallible.attempt (authenticateBest an config) p =
      (.ok (an.authenticateBest config p.world.setting p.net).1, q) := rfl
  have kept : p.world.setting.2.1 = q.world.fs := rfl
  unfold authenticateWithPrompt latePrompt
  rw [Fallible.bind_of_ok tried, kept]
  cases (an.authenticateBest config p.world.setting p.net).1 with
  | ok u => simp [reportsEncrypted, q]
  | error e =>
    dsimp only [reportsEncrypted]
    by_cases kind : an.isKeyEncrypted e = true
    · simp only [kind, if_true]
      cases found : an.findIdentity config q.world.fs with
      | error e =>
        have looked : findIdentity an config q = (.error e, q) := by
          rw [findIdentity, Fallible.query_run, found]
        rw [Fallible.bind_of_error looked]
        simp [encryptedPath, q]
      | ok identity =>
        have looked : findIdentity an config q = (.ok identity, q) := by
          rw [findIdentity, Fallible.query_run, found]
        rw [Fallible.bind_of_ok looked]
        cases identity with
        | found path => simp [encryptedPath, q]
        | notFound => simp [encryptedPath, q]
        | encrypted path =>
          -- The session goes on with the answer, and asks no more.
          have after (passphrase : String) : Fallible.Keeps Process.calls
              (authenticateWithPassphrase an config path passphrase :
                Command Ne Ag Va Te Unit) := fun _ => rfl
          exact (Fallible.Keeps.of_bind after q).trans (promptPassphrase_calls Priv q path)
    · have reported : Fallible.Keeps Process.calls
          (reclassifyNoKeyFound an config e : Command Ne Ag Va Te AnvilError) := fun _ => rfl
      rw [Bool.not_eq_true] at kind
      simp only [kind, Bool.false_eq_true, if_false, List.append_nil]
      split
      · exact reported.bind (fun e' => Fallible.Keeps.fail e') q
      · rfl

end

/-! ### What a run records -/

/-- The shape of both commands up to the end of the authentication, behind which nothing is
asked any more. -/
def connected {α : Type} (r : Request) (mode : OutputMode)
    (after : Option (String × String) → Command Ne Ag Va Te α) : Command Ne Ag Va Te α := do
  let prePassphrase ← maybeCollectPassphrase Priv an r.config
  Command.tellHuman mode s!"gitway: connecting to {r.config.host}:{r.config.port}…"
  an.open_ r.config (connectSession r.hostAlias r.proxyCommand r.jumpHosts)
  after prePassphrase

section
variable {α : Type} {r : Request} {p : Process Ne Ag Va Te} (mode : OutputMode)
  {after : Option (String × String) → Command Ne Ag Va Te α}

omit [PublicKey Pub] [PrivateKey Priv Pub] [BiometricVault Va] [Terminal Te] in
/-- Opening a session records it, and of what the authentication depends on it may leave other
files. -/
theorem opened_run (message : String) (config : AnvilConfig) (dial : Dial Config.JumpHost)
    (next : Command Ne Ag Va Te α) :
    ((∃ e, (an.connect config dial (p.world.fs, p.net)).1 = .error e) ∧
      ((Command.tellHuman mode message >>= fun _ => an.open_ config dial >>= fun _ => next)
        p).2.calls = p.calls) ∨
    ∃ fs net q, an.connect config dial (p.world.fs, p.net) = (.ok (), fs, net) ∧
      q.calls = p.calls ++ [.connected] ∧ q.world.setting = (p.world.env, fs, p.world.agent) ∧
      q.net = net ∧
      (Command.tellHuman mode message >>= fun _ => an.open_ config dial >>= fun _ => next) p =
        next q := by
  obtain ⟨stderr, told⟩ := Command.tellHuman_run p mode message
  rw [Fallible.bind_of_ok told]
  let p' : Process Ne Ag Va Te := { p with world := { p.world with stderr := stderr } }
  -- A session that could not be opened is not recorded as connected.
  rcases dialled : an.connect config dial (p.world.fs, p.net) with ⟨e | u, fs, net⟩
  · left
    refine ⟨⟨e, rfl⟩, ?_⟩
    have failed : an.open_ config dial p' = (.error e,
        { p' with world := { p'.world with fs := fs }, net := net }) :=
      Fallible.bind_of_error (by rw [Command.onConnection_run, dialled])
    rw [Fallible.bind_of_error failed]
  · right
    let q : Process Ne Ag Va Te :=
      { p' with
        world := { p'.world with fs := fs }, net := net, calls := p.calls ++ [.connected] }
    have opened : an.open_ config dial p' = (.ok (), q) := by
      unfold AnvilSession.open_
      rw [Fallible.bind_of_ok (Fallible.run_eq (r := .ok u) (by
        rw [Command.onConnection_run, dialled]))]
      rw [Command.onConnection_run, dialled]
      rfl
    exact ⟨fs, net, q, rfl, rfl, rfl, rfl, Fallible.bind_of_ok opened⟩

theorem connected_promptedWhileOpen_iff (fresh : p.calls = [])
    (collected : ∀ given, Fallible.Keeps Process.calls (after (some given)))
    (uncollected : ∀ q, (after none q).2.calls =
      q.calls ++ latePrompt an r.config q.world.setting q.net) :
    PromptedWhileOpen (connected Priv an r mode after p).2.calls ↔ PredictionFails an r p := by
  unfold connected
  rcases maybeCollectPassphrase_cases Priv an r.config p with
    ⟨spared, ran⟩ | ⟨unspared, given, recorded⟩
  · -- Nothing was asked for.
    rw [Fallible.bind_of_ok ran]
    rcases opened_run an mode _ r.config _ (after none) with
      ⟨⟨e, failed⟩, stopped⟩ | ⟨fs, net, q, dialled, calls, setting, here, ran⟩
    · rw [stopped, fresh]
      refine iff_of_false not_promptedWhileOpen_nil ?_
      rintro ⟨_, fs, net, _, dialled, _⟩
      rw [dialled] at failed
      simp at failed
    · rw [ran, uncollected q, calls, setting, here, fresh]
      rcases latePrompt_cases an r.config (p.world.env, fs, p.world.agent) net with
        ⟨path, needed, found, late⟩ | ⟨enough, late⟩
      · rw [late]
        exact iff_of_true (promptedWhileOpen_after path)
          ⟨spared, fs, net, path, dialled, needed, found⟩
      · rw [late]
        refine iff_of_false not_promptedWhileOpen_connected ?_
        rintro ⟨_, fs', net', path, dialled', needed, found⟩
        rw [dialled] at dialled'
        obtain ⟨rfl, rfl⟩ := Prod.mk.inj (Prod.mk.inj dialled').2
        exact enough ⟨needed, path, found⟩
  · -- What was asked for before is not asked for again.
    have never : ¬ PredictionFails an r p := fun fails => unspared fails.1
    have early : ¬ PromptedWhileOpen (maybeCollectPassphrase Priv an r.config p).2.calls ∧
        ¬ PromptedWhileOpen
          ((maybeCollectPassphrase Priv an r.config p).2.calls ++ [.connected]) := by
      rcases recorded with same | ⟨path, asked⟩
      · rw [same, fresh]
        exact ⟨not_promptedWhileOpen_nil, not_promptedWhileOpen_connected⟩
      · rw [asked, fresh]
        exact ⟨not_promptedWhileOpen_prompted path, not_promptedWhileOpen_before path⟩
    cases ran : maybeCollectPassphrase Priv an r.config p with
    | mk outcome q =>
      rw [ran] at early given
      rcases outcome with e | _ | collectedPass
      · rw [Fallible.bind_of_error ran]
        exact iff_of_false early.1 never
      · exact absurd rfl given
      · rw [Fallible.bind_of_ok ran]
        rcases opened_run an mode _ r.config _ (after (some collectedPass)) with
          ⟨_, stopped⟩ | ⟨fs, net, q', _, calls, _, _, ran⟩
        · rw [stopped]
          exact iff_of_false early.1 never
        · rw [ran, collected collectedPass q', calls]
          exact iff_of_false early.2 never

end

/-! ### The two commands -/

/-- What `runExec` does with the passphrase once it is connected. -/
def afterExec (r : Request) (commandParts : List String) :
    Option (String × String) → Command Ne Ag Va Te UInt32
  | some (passphrase, path) => do
    authenticateWithPassphrase an r.config path passphrase
    relay
  | none => do
    authenticateWithPrompt Priv an r.config
    relay
where
  relay : Command Ne Ag Va Te UInt32 := do
    let exitCode ← Command.relay (an.exec (" ".intercalate commandParts))
    close an
    return exitCode

theorem runExec_eq_connected (r : Request) (commandParts : List String) :
    (runExec Priv an r commandParts : Command Ne Ag Va Te UInt32) =
      connected Priv an r .json (afterExec Priv an r commandParts) := by
  refine congrArg (maybeCollectPassphrase Priv an r.config >>= ·) (funext fun pre => ?_)
  cases pre with
  | none => rfl
  | some collected => rfl

/-- What `runTest` does with the passphrase once it is connected. -/
def afterTest (r : Request) (mode : OutputMode) (pre : Option (String × String)) :
    Command Ne Ag Va Te UInt32 := do
  let fingerprint ← Fallible.query fun p => .ok (an.verifiedFingerprint p.net)
  let retryAttempts ← Fallible.query fun p => .ok ((an.retryHistory p.net).map retryJson)
  Command.tellHuman mode "gitway: host-key verified ✓"
  let authResult ← Fallible.attempt <|
    match pre with
    | some (passphrase, path) => authenticateWithPassphrase an r.config path passphrase
    | none => authenticateWithPrompt Priv an r.config
  concludeTest an An r mode fingerprint retryAttempts authResult

theorem runTest_eq_connected (r : Request) (mode : OutputMode) :
    (runTest Priv an An r mode : Command Ne Ag Va Te UInt32) =
      connected Priv an r mode (afterTest Priv an An r mode) := rfl

section
variable (r : Request) (mode : OutputMode)

omit [PublicKey Pub] [PrivateKey Priv Pub] [BiometricVault Va] [Terminal Te] in
theorem keeps_calls_relay (commandParts : List String) :
    Fallible.Keeps Process.calls
      (afterExec.relay an commandParts : Command Ne Ag Va Te UInt32) := by
  refine Fallible.Keeps.bind (fun _ => rfl) fun exitCode => ?_
  exact Fallible.Keeps.bind (fun _ => rfl) fun _ => Fallible.Keeps.pure exitCode

omit [BiometricVault Va] [Terminal Te] in
theorem keeps_calls_finishTest (fingerprint : Option String) (retryAttempts : List Json)
    (authResult : Except AnvilError Unit) :
    Fallible.Keeps Process.calls (finishTest an An r.config mode fingerprint retryAttempts
      authResult : Command Ne Ag Va Te UInt32) := by
  refine Fallible.Keeps.bind (Fallible.Keeps.query _) fun banner => ?_
  refine Fallible.Keeps.bind (fun _ => rfl) fun _ => ?_
  cases mode with
  | human => exact Fallible.Keeps.pure 0
  | json =>
    refine Fallible.Keeps.bind (fun _ => rfl) fun _ => ?_
    cases authResult with
    | ok u => exact Fallible.Keeps.pure 0
    | error e =>
      dsimp only
      split
      · exact Fallible.Keeps.pure 0
      · exact Fallible.Keeps.fail e

omit [BiometricVault Va] [Terminal Te] in
theorem keeps_calls_concludeTest (fingerprint : Option String) (retryAttempts : List Json)
    (authResult : Except AnvilError Unit) :
    Fallible.Keeps Process.calls (concludeTest an An r mode fingerprint retryAttempts
      authResult : Command Ne Ag Va Te UInt32) := by
  have finish : Fallible.Keeps Process.calls (finishTest an An r.config mode fingerprint
      retryAttempts authResult : Command Ne Ag Va Te UInt32) :=
    keeps_calls_finishTest an An r mode fingerprint retryAttempts authResult
  unfold concludeTest
  cases mode with
  | json => exact finish
  | human =>
    cases authResult with
    | ok u =>
      refine Fallible.Keeps.bind (fun _ => rfl) fun _ => ?_
      refine Fallible.Keeps.bind (Fallible.Keeps.query _) fun banner => ?_
      refine Fallible.Keeps.bind (?_) fun _ => finish
      cases banner with
      | none => exact Fallible.Keeps.pure _
      | some text => exact fun _ => rfl
    | error e =>
      dsimp only
      split
      · exact Fallible.Keeps.bind (fun _ => rfl) fun _ => finish
      · exact Fallible.Keeps.bind (fun _ => rfl) fun _ => Fallible.Keeps.fail e

omit [BiometricVault Va] [Terminal Te] in
/-- Up to the authentication `runTest` does no more than to look and to tell. -/
theorem afterTest_run (x : Command Ne Ag Va Te Unit) (q : Process Ne Ag Va Te) :
    ∃ q', q'.calls = q.calls ∧ q'.world.setting = q.world.setting ∧ q'.net = q.net ∧
      ((Fallible.query fun p => .ok (an.verifiedFingerprint p.net)) >>= fun fingerprint =>
        (Fallible.query fun p => .ok ((an.retryHistory p.net).map retryJson)) >>= fun attempts =>
        Command.tellHuman mode "gitway: host-key verified ✓" >>= fun _ =>
        Fallible.attempt x >>= fun authResult =>
        concludeTest an An r mode fingerprint attempts authResult) q =
      (Fallible.attempt x >>= fun authResult => concludeTest an An r mode
        (an.verifiedFingerprint q.net) ((an.retryHistory q.net).map retryJson) authResult) q' := by
  obtain ⟨stderr, told⟩ := Command.tellHuman_run q mode "gitway: host-key verified ✓"
  let q' : Process Ne Ag Va Te := { q with world := { q.world with stderr := stderr } }
  rw [Fallible.bind_query_ok, Fallible.bind_query_ok, Fallible.bind_of_ok told]
  exact ⟨q', rfl, rfl, rfl, rfl⟩

theorem runExec_promptedWhileOpen_iff {p : Process Ne Ag Va Te} (fresh : p.calls = [])
    (commandParts : List String) :
    PromptedWhileOpen (runExec Priv an r commandParts p).2.calls ↔ PredictionFails an r p := by
  have relay : Fallible.Keeps Process.calls
      (afterExec.relay an commandParts : Command Ne Ag Va Te UInt32) :=
    keeps_calls_relay an commandParts
  rw [runExec_eq_connected]
  refine connected_promptedWhileOpen_iff Priv an .json fresh ?_ ?_
  · intro given
    exact Fallible.Keeps.bind (fun _ => rfl) fun _ => relay
  · intro q
    have asked := authenticateWithPrompt_calls Priv an r.config q
    exact (Fallible.Keeps.of_bind (fun _ => relay) q).trans asked

theorem runTest_promptedWhileOpen_iff {p : Process Ne Ag Va Te} (fresh : p.calls = []) :
    PromptedWhileOpen (runTest Priv an An r mode p).2.calls ↔ PredictionFails an r p := by
  have conclude (fingerprint : Option String) (attempts : List Json)
      (authResult : Except AnvilError Unit) : Fallible.Keeps Process.calls
        (concludeTest an An r mode fingerprint attempts authResult :
          Command Ne Ag Va Te UInt32) :=
    keeps_calls_concludeTest an An r mode fingerprint attempts authResult
  rw [runTest_eq_connected]
  -- What concludes the test makes no calls, so those of the authentication are left.
  refine connected_promptedWhileOpen_iff Priv an mode fresh ?_ ?_
  · intro given q
    obtain ⟨q', calls, _, _, ran⟩ := afterTest_run an An r mode
      (authenticateWithPassphrase an r.config given.2 given.1) q
    have same := Fallible.Keeps.of_bind (x := Fallible.attempt
      (authenticateWithPassphrase an r.config given.2 given.1)) (conclude
        (an.verifiedFingerprint q.net) ((an.retryHistory q.net).map retryJson)) q'
    rw [← ran] at same
    exact same.trans calls
  · intro q
    obtain ⟨q', calls, setting, net, ran⟩ := afterTest_run an An r mode
      (authenticateWithPrompt Priv an r.config) q
    have same := Fallible.Keeps.of_bind (x := Fallible.attempt
      (authenticateWithPrompt Priv an r.config)) (conclude
        (an.verifiedFingerprint q.net) ((an.retryHistory q.net).map retryJson)) q'
    have asked := authenticateWithPrompt_calls Priv an r.config q'
    rw [← ran] at same
    rw [← calls, ← setting, ← net]
    exact same.trans asked

/-- Nobody is asked for a passphrase while a session is open exactly when the question was
spared rightly, for both commands and in both modes. -/
theorem no_prompt_while_open_iff (p : Process Ne Ag Va Te) (fresh : p.calls = [])
    (commandParts : List String) :
    (¬ PromptedWhileOpen (runExec Priv an r commandParts p).2.calls ↔
        ¬ PredictionFails an r p) ∧
      (¬ PromptedWhileOpen (runTest Priv an An r mode p).2.calls ↔ ¬ PredictionFails an r p) :=
  ⟨not_congr (runExec_promptedWhileOpen_iff Priv an r fresh commandParts),
    not_congr (runTest_promptedWhileOpen_iff Priv an An r mode fresh)⟩

end

/-! ### An agent that is ended meanwhile -/

open Reference

private def keyEncrypted : AnvilError := .other "KEY_ENCRYPTED" "the key is encrypted"

/-- A network on which the agent is ended while the session is being opened. It tells whether
the agent still answers; without the agent the key file is left. -/
private def agentEnding : AnvilSession Bool RefAgent :=
  { answering (.encrypted "/home/user/.ssh/id_ed25519") (.ok ()) (.ok ()) with
    connect := fun _ _ s => (.ok (), s.1, false)
    authenticateBest := fun _ setting answers =>
      if answers ∧ setting.2.2.entries ≠ [] then (.ok (), answers)
      else (.error keyEncrypted, answers) }

private def github : Request where
  lookup := none
  config := ConfigBuilder.builder "github.com"
  hostAlias := "github.com"
  proxyCommand := none
  jumpHosts := []

private def withAgent (entries : List (RefPublic × Constraints)) :
    Process Bool RefAgent RefVault RefTerminal where
  world := world [] [] ⟨false, entries⟩ ⟨[]⟩ ⟨["hunter2"]⟩
  net := true
  calls := []
  reports := []

theorem no_prompt_while_open_without_agent :
    (¬ PromptedWhileOpen (runExec RefPrivate agentEnding github ["git-upload-pack"]
          (withAgent [])).2.calls ↔
        ¬ PredictionFails agentEnding github (withAgent [])) ∧
      (¬ PromptedWhileOpen (runTest RefPrivate agentEnding RefAnvil github .json
          (withAgent [])).2.calls ↔
        ¬ PredictionFails agentEnding github (withAgent [])) :=
  no_prompt_while_open_iff RefPrivate agentEnding RefAnvil github .json (withAgent []) rfl
    ["git-upload-pack"]

/-- The agent holds the key when it is looked for, and is gone when the key is needed: the
passphrase is asked for while the session is open. -/
theorem prompt_while_open_with_ended_agent :
    ∃ path, [.connected, .prompted path].Sublist
      (runExec RefPrivate agentEnding github ["git-upload-pack", "'user/repo.git'"]
        (withAgent [(⟨"AAAAC3"⟩, ⟨none, false⟩)])).2.calls :=
  (runExec_promptedWhileOpen_iff RefPrivate agentEnding github rfl
      ["git-upload-pack", "'user/repo.git'"]).mpr
    ⟨⟨.encrypted "/home/user/.ssh/id_ed25519", rfl, fun _ => rfl⟩, _, false, _, rfl, by decide, rfl⟩

end Gitway.Transport
