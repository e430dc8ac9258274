import Gitway.Transport.Session

/-!
# Closing the session

`runExec` hands on the error of closing instead of the status, and `runTest` does so before
it prints its result, except where a human is told of a rejected key. The outcome is what it
would be without that error exactly when closing succeeds.
-/
namespace Gitway.Transport

open Lib

variable {Ne Ag Va Te : Type} (an : AnvilSession Ne Ag)

/-! ### What was said does not matter -/

/-- The two processes differ at most in the messages printed so far. -/
def SameButMessages (p p' : Process Ne Ag Va Te) : Prop :=
  ∃ stderr, p' = { p with world := { p.world with stderr := stderr } }

section
variable {α : Type}

theorem quiet_onWorld {x : Program Ag Va Te α}
    (quiet : Fallible.Alike Program.SameButMessages x x) :
    Fallible.Alike SameButMessages (Command.onWorld x : Command Ne Ag Va Te α)
      (Command.onWorld x) := by
  rintro p _ ⟨stderr, rfl⟩
  obtain ⟨same, stderr', after⟩ := quiet p.world { p.world with stderr := stderr } ⟨stderr, rfl⟩
  refine ⟨same, stderr', ?_⟩
  rw [Command.onWorld_run, Command.onWorld_run]
  dsimp only
  rw [after]

theorem quiet_onConnection (op : FileSystem × Ne → Except AnvilError α × FileSystem × Ne) :
    Fallible.Alike SameButMessages (Command.onConnection op : Command Ne Ag Va Te α)
      (Command.onConnection op) := by
  rintro p _ ⟨stderr, rfl⟩
  exact ⟨rfl, stderr, rfl⟩

theorem quiet_record (call : SessionCall) :
    Fallible.Alike SameButMessages (Command.record call : Command Ne Ag Va Te Unit)
      (Command.record call) := by
  rintro p _ ⟨stderr, rfl⟩
  exact ⟨rfl, stderr, rfl⟩

/-- The two modes differ here in no more than in what is said. -/
theorem quiet_tellHuman (mode mode' : OutputMode) (s : String) :
    Fallible.Alike SameButMessages (Command.tellHuman mode s : Command Ne Ag Va Te Unit)
      (Command.tellHuman mode' s) := by
  rintro p _ ⟨stderr, rfl⟩
  obtain ⟨told, ran⟩ := Command.tellHuman_run p mode s
  obtain ⟨told', ran'⟩ :=
    Command.tellHuman_run { p with world := { p.world with stderr := stderr } } mode' s
  rw [ran, ran']
  exact ⟨rfl, told', rfl⟩

end

section
variable (config : AnvilConfig)

theorem quiet_findIdentity :
    Fallible.Alike SameButMessages
      (findIdentity an config : Command Ne Ag Va Te IdentityResolution)
      (findIdentity an config) := by
  rintro p _ ⟨stderr, rfl⟩
  exact ⟨rfl, stderr, rfl⟩

theorem quiet_connectAgent :
    Fallible.Alike SameButMessages
      (connectAgent an : Command Ne Ag Va Te (Except AnvilError (Option Unit)))
      (connectAgent an) := by
  rintro p _ ⟨stderr, rfl⟩
  exact ⟨rfl, stderr, rfl⟩

theorem quiet_authenticateBest :
    Fallible.Alike SameButMessages (authenticateBest an config : Command Ne Ag Va Te Unit)
      (authenticateBest an config) := by
  rintro p _ ⟨stderr, rfl⟩
  exact ⟨rfl, stderr, rfl⟩

theorem quiet_authenticateWithPassphrase (path passphrase : String) :
    Fallible.Alike SameButMessages
      (authenticateWithPassphrase an config path passphrase : Command Ne Ag Va Te Unit)
      (authenticateWithPassphrase an config path passphrase) := by
  rintro p _ ⟨stderr, rfl⟩
  exact ⟨rfl, stderr, rfl⟩

theorem quiet_open_ (dial : Dial Config.JumpHost) :
    Fallible.Alike SameButMessages (an.open_ config dial : Command Ne Ag Va Te Unit)
      (an.open_ config dial) :=
  Fallible.Alike.bind (quiet_onConnection _) fun _ => quiet_record .connected

theorem quiet_reclassifyNoKeyFound (e : AnvilError) :
    Fallible.Alike SameButMessages
      (reclassifyNoKeyFound an config e : Command Ne Ag Va Te AnvilError)
      (reclassifyNoKeyFound an config e) := by
  rintro p _ ⟨stderr, rfl⟩
  exact ⟨rfl, stderr, rfl⟩

variable (Priv : Type) {Pub : Type} [PublicKey Pub] [PrivateKey Priv Pub] [BiometricVault Va]
  [Terminal Te]

theorem quiet_promptPassphrase (path : String) :
    Fallible.Alike SameButMessages (promptPassphrase Priv path : Command Ne Ag Va Te String)
      (promptPassphrase Priv path) :=
  Fallible.Alike.bind (quiet_record _) fun _ =>
    quiet_onWorld (Prompt.quiet_promptPassphrase Priv path)

theorem quiet_maybeCollectPassphrase :
    Fallible.Alike SameButMessages
      (maybeCollectPassphrase Priv an config : Command Ne Ag Va Te (Option (String × String)))
      (maybeCollectPassphrase Priv an config) := by
  apply Fallible.Alike.bind (quiet_findIdentity an config)
  intro identity
  cases identity with
  | found path => exact Fallible.Alike.pure none
  | notFound => exact Fallible.Alike.pure none
  | encrypted path =>
    have asks : Fallible.Alike SameButMessages
        (promptPassphrase Priv path >>= fun passphrase => pure (some (passphrase, path)) :
          Command Ne Ag Va Te (Option (String × String)))
        (promptPassphrase Priv path >>= fun passphrase => pure (some (passphrase, path))) :=
      Fallible.Alike.bind (quiet_promptPassphrase Priv path) fun _ => Fallible.Alike.pure _
    apply Fallible.Alike.bind (quiet_connectAgent an)
    intro agent
    rcases agent with e | _ | key
    · exact asks
    · exact asks
    · exact Fallible.Alike.pure none

theorem quiet_authenticateWithPrompt :
    Fallible.Alike SameButMessages
      (authenticateWithPrompt Priv an config : Command Ne Ag Va Te Unit)
      (authenticateWithPrompt Priv an config) := by
  apply Fallible.Alike.bind (quiet_authenticateBest an config).attempt
  intro outcome
  cases outcome with
  | ok u => exact Fallible.Alike.pure _
  | error e =>
    dsimp only
    split
    · apply Fallible.Alike.bind (quiet_findIdentity an config)
      intro identity
      cases identity with
      | found path => exact Fallible.Alike.fail _
      | notFound => exact Fallible.Alike.fail _
      | encrypted path =>
        exact Fallible.Alike.bind (quiet_promptPassphrase Priv path) fun passphrase =>
          quiet_authenticateWithPassphrase an config path passphrase
    split
    · exact Fallible.Alike.bind (quiet_reclassifyNoKeyFound an config e) fun _ =>
        Fallible.Alike.fail _
    · exact Fallible.Alike.fail e

end

/-! ### Before the session is closed -/

variable (Priv : Type) {Pub : Type} [PublicKey Pub] [PrivateKey Priv Pub] [BiometricVault Va]
  [Terminal Te] (An : Type) [Config.Anvil An] (r : Request)

/-- Authenticate with the passphrase that was collected, or else with what is found. -/
def authenticate : Option (String × String) → Command Ne Ag Va Te Unit
  | some (passphrase, path) => authenticateWithPassphrase an r.config path passphrase
  | none => authenticateWithPrompt Priv an r.config

/-- `runExec` up to the end of the command. -/
def executed (commandParts : List String) : Command Ne Ag Va Te UInt32 := do
  let prePassphrase ← maybeCollectPassphrase Priv an r.config
  an.open_ r.config (connectSession r.hostAlias r.proxyCommand r.jumpHosts)
  authenticate an Priv r prePassphrase
  Command.relay (an.exec (" ".intercalate commandParts))

/-- `runTest` up to the end of the authentication. -/
def tested (mode : OutputMode) :
    Command Ne Ag Va Te (Option String × List Json × Except AnvilError Unit) := do
  let prePassphrase ← maybeCollectPassphrase Priv an r.config
  Command.tellHuman mode s!"gitway: connecting to {r.config.host}:{r.config.port}…"
  an.open_ r.config (connectSession r.hostAlias r.proxyCommand r.jumpHosts)
  let fingerprint ← Fallible.query fun p => .ok (an.verifiedFingerprint p.net)
  let retryAttempts ← Fallible.query fun p => .ok ((an.retryHistory p.net).map retryJson)
  Command.tellHuman mode "gitway: host-key verified ✓"
  let authResult ← Fallible.attempt (authenticate an Priv r prePassphrase)
  return (fingerprint, retryAttempts, authResult)

theorem runExec_eq_executed (commandParts : List String) :
    (runExec Priv an r commandParts : Command Ne Ag Va Te UInt32) =
      executed an Priv r commandParts >>= fun exitCode => close an >>= fun _ => pure exitCode := by
  unfold executed
  simp only [bind_assoc]
  refine congrArg (maybeCollectPassphrase Priv an r.config >>= ·) (funext fun pre => ?_)
  cases pre with
  | none => rfl
  | some collected => rfl

theorem runTest_eq_tested (mode : OutputMode) :
    (runTest Priv an An r mode : Command Ne Ag Va Te UInt32) =
      tested an Priv r mode >>= fun found =>
        concludeTest an An r mode found.1 found.2.1 found.2.2 := by
  unfold tested
  simp only [bind_assoc, pure_bind]
  refine congrArg (maybeCollectPassphrase Priv an r.config >>= ·) (funext fun pre => ?_)
  cases pre with
  | none => rfl
  | some collected => rfl

/-- With messages of its own a mode takes the same way. -/
theorem quiet_tested (mode mode' : OutputMode) :
    Fallible.Alike SameButMessages
      (tested an Priv r mode : Command Ne Ag Va Te _) (tested an Priv r mode') := by
  apply Fallible.Alike.bind (quiet_maybeCollectPassphrase an r.config Priv)
  intro pre
  apply Fallible.Alike.bind (quiet_tellHuman mode mode' _)
  intro _
  apply Fallible.Alike.bind (quiet_open_ an r.config _)
  intro _
  refine Fallible.Alike.bind (Fallible.Alike.query ?_) fun fingerprint => ?_
  · rintro p _ ⟨stderr, rfl⟩
    rfl
  refine Fallible.Alike.bind (Fallible.Alike.query ?_) fun attempts => ?_
  · rintro p _ ⟨stderr, rfl⟩
    rfl
  apply Fallible.Alike.bind (quiet_tellHuman mode mode' _)
  intro _
  have authentication : Fallible.Alike SameButMessages
      (authenticate an Priv r pre : Command Ne Ag Va Te Unit) (authenticate an Priv r pre) := by
    cases pre with
    | none => exact quiet_authenticateWithPrompt an r.config Priv
    | some collected => exact quiet_authenticateWithPassphrase an r.config _ _
  exact Fallible.Alike.bind authentication.attempt fun _ => Fallible.Alike.pure _

/-! ### Behind the close -/

/-- The same network, where closing a session succeeds. -/
def AnvilSession.closingWell : AnvilSession Ne Ag :=
  { an with close := fun net => (.ok (), (an.close net).2) }

/-- What an authentication makes of `--test`. -/
def outcome : Except AnvilError Unit → Except AnvilError UInt32
  | .ok () => .ok 0
  | .error e => if an.isNoKeyFound e then .ok 0 else .error e

omit [BiometricVault Va] [Terminal Te] in
theorem emitTestJson_run (config : AnvilConfig) (found : TestReport) (w : World Ag Va Te) :
    ∃ v stderr, emitTestJson An config found w =
      (.ok (), { w with stdout := w.stdout ++ [.json v], stderr := stderr }) := by
  obtain ⟨trust, messages, ran⟩ := Config.certAndRevokedJson_run An config.host
    config.customKnownHosts "gitway --test" w
  unfold emitTestJson
  rw [Fallible.bind_of_ok ran]
  exact ⟨_, _, rfl⟩

section
variable {mode : OutputMode} {fingerprint : Option String} {attempts : List Json}
  {authResult : Except AnvilError Unit} {q : Process Ne Ag Va Te} {net : Ne}

omit [BiometricVault Va] [Terminal Te] in
theorem close_run (closed : an.close q.net = (.ok (), net)) :
    close an q = (.ok (), { q with net := net }) := by
  unfold close
  rw [Command.onNetwork_run, closed]

omit [BiometricVault Va] [Terminal Te] in
theorem close_fails {e : AnvilError} (failed : an.close q.net = (.error e, net)) :
    close an q = (.error e, { q with net := net }) := by
  unfold close
  rw [Command.onNetwork_run, failed]

omit [BiometricVault Va] [Terminal Te] in
/-- Once closing has succeeded the JSON result is printed, and the authentication decides. -/
theorem finishTest_json_run (closed : an.close q.net = (.ok (), net)) :
    ∃ v stderr, finishTest an An r.config .json fingerprint attempts authResult q =
      (outcome an authResult,
        { q with
          world := { q.world with stdout := q.world.stdout ++ [.json v], stderr := stderr },
          net := net }) := by
  obtain ⟨v, stderr, ran⟩ := emitTestJson_run An r.config
    ⟨fingerprint, attempts, authResult, an.authBanner q.net⟩ q.world
  have printed : Command.onWorld (emitTestJson An r.config
      ⟨fingerprint, attempts, authResult, an.authBanner q.net⟩) { q with net := net } =
        (.ok (), { q with
          world := { q.world with stdout := q.world.stdout ++ [.json v], stderr := stderr },
          net := net }) := by
    rw [Command.onWorld_run, ran]
  refine ⟨v, stderr, ?_⟩
  unfold finishTest outcome
  rw [Fallible.bind_query_ok, Fallible.bind_of_ok (close_run an closed)]
  dsimp only
  rw [Fallible.bind_of_ok printed]
  cases authResult with
  | ok u => rfl
  | error e =>
    dsimp only
    split <;> rfl

omit [BiometricVault Va] [Terminal Te] in
theorem finishTest_human_run (closed : an.close q.net = (.ok (), net)) :
    finishTest an An r.config .human fingerprint attempts authResult q =
      (.ok 0, { q with net := net }) := by
  unfold finishTest
  rw [Fallible.bind_query_ok, Fallible.bind_of_ok (close_run an closed)]
  rfl

omit [BiometricVault Va] [Terminal Te] in
/-- In both modes the outcome is that of the authentication, when closing succeeds. -/
theorem concludeTest_outcome (mode : OutputMode) (closed : an.close q.net = (.ok (), net)) :
    (concludeTest an An r mode fingerprint attempts authResult q).1 = outcome an authResult := by
  unfold concludeTest
  cases mode with
  | json =>
    obtain ⟨v, stderr, ran⟩ := finishTest_json_run an An r closed
    exact congrArg Prod.fst ran
  | human =>
    have finish (q' : Process Ne Ag Va Te) (same : q'.net = q.net) :
        (finishTest an An r.config .human fingerprint attempts authResult q').1 = .ok 0 := by
      rw [← same] at closed
      exact congrArg Prod.fst (finishTest_human_run an An r closed)
    -- A missing shell is a success for a test, so only some errors are left.
    cases authResult with
    | ok u =>
      dsimp only
      rw [Fallible.bind_of_ok (Command.eprintln_run _ _), Fallible.bind_query_ok]
      cases an.authBanner q.net with
      | none => exact finish _ rfl
      | some text =>
        refine (congrArg Prod.fst (Fallible.bind_of_ok (Command.eprintln_run _ text))).trans ?_
        exact finish _ rfl
    | error e =>
      dsimp only [outcome]
      split
      · rw [Fallible.bind_of_ok (Command.eprintln_run _ _)]
        exact finish _ rfl
      · rfl

end

/-! ### The outcome with and without the error -/

/-- Wherever the computation returns, closing succeeds. -/
def ClosesAfter {α : Type} (x : Command Ne Ag Va Te α) (p : Process Ne Ag Va Te) : Prop :=
  ∀ a q, x p = (.ok a, q) → ∃ net, an.close q.net = (.ok (), net)

/-- `runExec` returns the status of a command that ended. -/
def ExecUnchanged (commandParts : List String) (p : Process Ne Ag Va Te) : Prop :=
  ∀ exitCode q, executed an Priv r commandParts p = (.ok exitCode, q) →
    (runExec Priv an r commandParts p).1 = .ok exitCode

/-- `runTest` returns in both modes what it would return if closing had succeeded, and prints
the same result. -/
structure TestUnchanged (p : Process Ne Ag Va Te) : Prop where
  result : ∀ mode, (runTest Priv an An r mode p).1 = (runTest Priv an.closingWell An r mode p).1
  modes : (runTest Priv an An r .json p).1 = (runTest Priv an An r .human p).1
  envelope : (runTest Priv an An r .json p).2.world.stdout =
    (runTest Priv an.closingWell An r .json p).2.world.stdout

theorem execUnchanged_iff (commandParts : List String) (p : Process Ne Ag Va Te) :
    ExecUnchanged an Priv r commandParts p ↔
      ClosesAfter an (executed an Priv r commandParts) p := by
  unfold ExecUnchanged ClosesAfter
  refine forall_congr' fun exitCode => forall_congr' fun q => imp_congr_right fun ran => ?_
  rw [runExec_eq_executed, Fallible.bind_of_ok ran]
  cases closed : an.close q.net with
  | mk outcome net =>
    cases outcome with
    | ok u =>
      rw [Fallible.bind_of_ok (close_run an closed)]
      exact iff_of_true rfl ⟨net, rfl⟩
    | error e =>
      rw [Fallible.bind_of_error (close_fails an closed)]
      simp

/-- The authentication comes to the same in both modes, on networks that differ in closing. -/
theorem tested_alike {p q : Process Ne Ag Va Te}
    {found : Except AnvilError (Option String × List Json × Except AnvilError Unit)}
    (ran : tested an Priv r .json p = (found, q)) (mode : OutputMode) :
    ∃ q', tested an Priv r mode p = (found, q') ∧ q'.net = q.net := by
  obtain ⟨same, stderr, after⟩ := quiet_tested an Priv r .json mode p p ⟨p.world.stderr, rfl⟩
  rw [ran] at same after
  exact ⟨_, Fallible.run_eq same.symm, by rw [after]⟩

omit [BiometricVault Va] [Terminal Te] in
theorem finishTest_closingWell {fingerprint : Option String} {attempts : List Json}
    {authResult : Except AnvilError Unit} {q : Process Ne Ag Va Te} {net : Ne}
    (closed : an.close q.net = (.ok (), net)) :
    finishTest an.closingWell An r.config .json fingerprint attempts authResult q =
      finishTest an An r.config .json fingerprint attempts authResult q := by
  have closed' : an.closingWell.close q.net = (.ok (), net) := by
    simp [AnvilSession.closingWell, closed]
  unfold finishTest
  rw [Fallible.bind_query_ok, Fallible.bind_query_ok, Fallible.bind_of_ok (close_run an closed),
    Fallible.bind_of_ok (close_run an.closingWell closed')]
  rfl

theorem testUnchanged_of_closes {p : Process Ne Ag Va Te}
    (closes : ClosesAfter an (tested an Priv r .json) p) : TestUnchanged an Priv An r p := by
  -- Up to the authentication nothing is closed.
  have same (mode : OutputMode) : (tested an.closingWell Priv r mode : Command Ne Ag Va Te _) =
      tested an Priv r mode := rfl
  cases ran : tested an Priv r .json p with
  | mk found q =>
    cases found with
    | error e =>
      have stops (mode : OutputMode) : (runTest Priv an An r mode p).1 = .error e ∧
          (runTest Priv an.closingWell An r mode p).1 = .error e := by
        obtain ⟨q', ran', _⟩ := tested_alike an Priv r ran mode
        rw [runTest_eq_tested, runTest_eq_tested, same, Fallible.bind_of_error ran',
          Fallible.bind_of_error ran']
        exact ⟨rfl, rfl⟩
      exact {
        result := fun mode => (stops mode).1.trans (stops mode).2.symm
        modes := (stops .json).1.trans (stops .human).1.symm
        envelope := by
          rw [runTest_eq_tested, runTest_eq_tested, same, Fallible.bind_of_error ran,
            Fallible.bind_of_error ran] }
    | ok found =>
      obtain ⟨net, closed⟩ := closes found q ran
      have decides (mode : OutputMode) :
          (runTest Priv an An r mode p).1 = outcome an found.2.2 ∧
            (runTest Priv an.closingWell An r mode p).1 = outcome an found.2.2 := by
        obtain ⟨q', ran', here⟩ := tested_alike an Priv r ran mode
        rw [← here] at closed
        rw [runTest_eq_tested, runTest_eq_tested, same, Fallible.bind_of_ok ran',
          Fallible.bind_of_ok ran']
        exact ⟨concludeTest_outcome an An r mode closed,
          concludeTest_outcome an.closingWell An r mode rfl⟩
      exact {
        result := fun mode => (decides mode).1.trans (decides mode).2.symm
        modes := (decides .json).1.trans (decides .human).1.symm
        envelope := by
          rw [runTest_eq_tested, runTest_eq_tested, same, Fallible.bind_of_ok ran,
            Fallible.bind_of_ok ran]
          exact (congrArg (fun run => run.2.world.stdout)
            (finishTest_closingWell an An r closed)).symm }

theorem closes_of_testUnchanged {p : Process Ne Ag Va Te}
    (unchanged : TestUnchanged an Priv An r p) : ClosesAfter an (tested an Priv r .json) p := by
  intro found q ran
  have ran' : tested an.closingWell Priv r .json p = (.ok found, q) := ran
  have envelope := unchanged.envelope
  rw [runTest_eq_tested, runTest_eq_tested, Fallible.bind_of_ok ran,
    Fallible.bind_of_ok ran'] at envelope
  cases closed : an.close q.net with
  | mk result net =>
    cases result with
    | ok u => exact ⟨net, rfl⟩
    | error e =>
      -- Nothing is printed here, and on the other network the result is.
      have silent : concludeTest an An r .json found.1 found.2.1 found.2.2 q =
          (.error e, { q with net := net }) := by
        show finishTest an An r.config .json found.1 found.2.1 found.2.2 q = _
        unfold finishTest
        rw [Fallible.bind_query_ok, Fallible.bind_of_error (close_fails an closed)]
      have closed' : an.closingWell.close q.net = (.ok (), net) := by
        simp [AnvilSession.closingWell, closed]
      obtain ⟨v, stderr, printed⟩ : ∃ v stderr,
          concludeTest an.closingWell An r .json found.1 found.2.1 found.2.2 q = _ :=
        finishTest_json_run an.closingWell An r closed'
      rw [silent, printed] at envelope
      simp at envelope

/-- Closing never changes the outcome exactly when it succeeds: after a command that ended,
and after the authentication of `--test`. -/
theorem closing_unchanged_iff (commandParts : List String) (p : Process Ne Ag Va Te) :
    (ExecUnchanged an Priv r commandParts p ↔
        ClosesAfter an (executed an Priv r commandParts) p) ∧
      (TestUnchanged an Priv An r p ↔ ClosesAfter an (tested an Priv r .json) p) :=
  ⟨execUnchanged_iff an Priv r commandParts p,
    closes_of_testUnchanged an Priv An r, testUnchanged_of_closes an Priv An r⟩

/-! ### A server that hangs up -/

open Reference

private def rejected : AnvilError := .authenticationFailed

private def hungUp : AnvilError := .io ⟨.other, none, "connection reset by peer"⟩

/-- A server that rejects the key, or takes it, and hangs up. -/
private def hangingUp (best : Except AnvilError Unit) : AnvilSession Unit RefAgent :=
  answering (.found "/home/user/.ssh/id_ed25519") best (.error hungUp)

private def toGithub : Request where
  lookup := none
  config := ConfigBuilder.builder "github.com"
  hostAlias := "github.com"
  proxyCommand := none
  jumpHosts := []

private def idle : Process Unit RefAgent RefVault RefTerminal where
  world := world [] [] ⟨false, []⟩ ⟨[]⟩ ⟨[]⟩
  net := ()
  calls := []
  reports := []

/-- The command ends well and is reported as failed. A rejected key is reported to a human,
and in JSON mode the error of closing takes its place and nothing is printed. -/
theorem closing_error_reported :
    (executed (hangingUp (.ok ())) RefPrivate toGithub ["git-upload-pack"] idle).1 = .ok 0 ∧
      (runExec RefPrivate (hangingUp (.ok ())) toGithub ["git-upload-pack"] idle).1 =
        .error hungUp ∧
      (runTest RefPrivate (hangingUp (.error rejected)) RefAnvil toGithub .human idle).1 =
        .error rejected ∧
      (runTest RefPrivate (hangingUp (.error rejected)) RefAnvil toGithub .json idle).1 =
        .error hungUp ∧
      (runTest RefPrivate (hangingUp (.error rejected)) RefAnvil toGithub .json
        idle).2.world.stdout = [] :=
  ⟨rfl, rfl, rfl, rfl, rfl⟩

end Gitway.Transport
