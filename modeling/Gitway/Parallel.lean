import Gitway.Hosts.Asked
import Gitway.Modes
import Gitway.Transport.Closing

/-!
# Two runs of `gitway`

Two processes that are alike run alike. From this it follows that the output mode changes
nothing but what is printed, and that no passphrase shows: whatever was typed or released, two
passphrases that open the same keys cannot be told apart by anything the process does.
-/
namespace Gitway

open Lib Lib.Fallible

variable {Ne Ag Va Te : Type} {l : Likeness Va Te}

/-! ### Sessions -/

section
open Transport

/-- A server is not told the passphrase of a key, but what the key signs. What a connection
writes down is the key of a host, so that the files open alike as before. -/
structure Likeness.Authenticates (l : Likeness Va Te) (an : AnvilSession Ne Ag) : Prop where
  signs : ∀ {p p'}, l.passphrase p p' → ∀ config path fs net, l.files fs →
    an.authenticateWithPassphrase config path p fs net =
      an.authenticateWithPassphrase config path p' fs net
  connects : ∀ config dial fs net, l.files fs → l.files (an.connect config dial (fs, net)).2.1

variable (Priv : Type) {Pub : Type} [PublicKey Pub] [PrivateKey Priv Pub]
  [Biometric.BiometricBackend Va] [Terminal Te] (an : AnvilSession Ne Ag)

omit [Biometric.BiometricBackend Va] [Terminal Te] in
theorem steady_findIdentity (config : AnvilConfig) :
    Command.Steady l (findIdentity an config : Command Ne Ag Va Te IdentityResolution) :=
  Command.steady_setting (f := fun setting => an.findIdentity config setting.2.1)

omit [Biometric.BiometricBackend Va] [Terminal Te] in
theorem steady_connectAgent :
    Command.Steady l (connectAgent an : Command Ne Ag Va Te (Except AnvilError (Option Unit))) :=
  Command.steady_setting (f := fun setting => .ok (an.connectAgent setting.1 setting.2.2))

theorem likewise_promptInSession (sound : l.Sound) (opens : l.Opens Priv) (path : String) :
    Command.Likewise l l.passphrase (promptPassphrase Priv path : Command Ne Ag Va Te String)
      (promptPassphrase Priv path) :=
  Paired.bind_same (Command.steady_record _) fun _ =>
    Command.likewise_onWorld (likewise_promptPassphrase Priv sound opens path)

/-- Passphrases that were collected for the same file. -/
def Collected (l : Likeness Va Te) : Option (String × String) → Option (String × String) → Prop :=
  Option.Rel fun pre pre' => l.passphrase pre.1 pre'.1 ∧ pre.2 = pre'.2

theorem likewise_maybeCollectPassphrase (sound : l.Sound) (opens : l.Opens Priv)
    (config : AnvilConfig) :
    Command.Likewise l (Collected l) (maybeCollectPassphrase Priv an config :
      Command Ne Ag Va Te (Option (String × String))) (maybeCollectPassphrase Priv an config) := by
  refine Paired.bind_same (steady_findIdentity an config) ?_
  intro identity
  cases identity with
  | found path => exact Paired.pure Option.Rel.none
  | notFound => exact Paired.pure Option.Rel.none
  | encrypted path =>
    refine Paired.bind_same (steady_connectAgent an) ?_
    intro agent
    split
    · exact Paired.pure Option.Rel.none
    · exact Paired.bind (likewise_promptInSession Priv sound opens path) fun _ _ related =>
        Paired.pure (Option.Rel.some ⟨related, rfl⟩)

omit [Biometric.BiometricBackend Va] [Terminal Te] in
theorem steady_open (config : AnvilConfig) (dial : Dial Config.JumpHost)
    (connects : ∀ fs net, l.files fs → l.files (an.connect config dial (fs, net)).2.1) :
    Command.Steady l (an.open_ config dial : Command Ne Ag Va Te Unit) :=
  Paired.bind_same (Command.steady_onConnection connects) fun _ => Command.steady_record _

omit [Biometric.BiometricBackend Va] [Terminal Te] in
theorem steady_close : Command.Steady l (close an : Command Ne Ag Va Te Unit) :=
  Command.steady_onNetwork _

omit [Biometric.BiometricBackend Va] [Terminal Te] in
theorem likewise_authenticateWithPassphrase (authenticates : l.Authenticates an)
    (config : AnvilConfig) (path : String) {p p' : String} (related : l.passphrase p p') :
    Command.Likewise l Eq
      (authenticateWithPassphrase an config path p : Command Ne Ag Va Te Unit)
      (authenticateWithPassphrase an config path p') := by
  have reading : Command.Likewise l (fun fs fs' => fs = fs' ∧ l.files fs)
      (query fun p => .ok p.world.fs : Command Ne Ag Va Te FileSystem)
      (query fun p => .ok p.world.fs) :=
    Paired.query fun p p' like => Matched.ok ⟨like.world.files, like.world.known⟩
  refine Paired.bind reading ?_
  rintro fs _ ⟨rfl, known⟩
  have same : an.authenticateWithPassphrase config path p fs =
      an.authenticateWithPassphrase config path p' fs :=
    funext fun net => authenticates.signs related config path fs net known
  rw [same]
  exact Command.steady_onNetwork _

theorem steady_authenticateWithPrompt (sound : l.Sound) (opens : l.Opens Priv)
    (authenticates : l.Authenticates an) (config : AnvilConfig) :
    Command.Steady l (authenticateWithPrompt Priv an config : Command Ne Ag Va Te Unit) := by
  have best : Command.Steady l (authenticateBest an config : Command Ne Ag Va Te Unit) :=
    Paired.bind_same (Command.steady_setting (f := .ok)) fun _ => Command.steady_onNetwork _
  refine Paired.bind best.attempt ?_
  rintro _ _ (⟨e⟩ | ⟨rfl⟩)
  · dsimp only
    split
    · refine Paired.bind_same (steady_findIdentity an config) ?_
      intro identity
      cases identity with
      | encrypted path =>
        exact Paired.bind (likewise_promptInSession Priv sound opens path) fun _ _ related =>
          likewise_authenticateWithPassphrase an authenticates config path related
      | found path => exact Paired.fail _
      | notFound => exact Paired.fail _
    split
    · have reclassified : Command.Steady l
          (reclassifyNoKeyFound an config e : Command Ne Ag Va Te AnvilError) :=
        Paired.bind ((steady_findIdentity an config).attempt.mono fun _ _ m => m.eq)
          fun _ _ same => same ▸ Paired.bind_same (steady_connectAgent an) fun _ => Paired.pure rfl
      exact Paired.bind_same reclassified fun _ => Paired.fail _
    · exact Paired.fail _
  · exact Paired.pure rfl

theorem likewise_authenticate (sound : l.Sound) (opens : l.Opens Priv)
    (authenticates : l.Authenticates an) (r : Request) {pre pre' : Option (String × String)}
    (collected : Collected l pre pre') :
    Command.Likewise l Eq (authenticate an Priv r pre : Command Ne Ag Va Te Unit)
      (authenticate an Priv r pre') := by
  rcases collected with ⟨related⟩ | _
  · rename_i pre pre'
    obtain ⟨p, path⟩ := pre
    obtain ⟨p', path'⟩ := pre'
    obtain ⟨alike, rfl⟩ := related
    exact likewise_authenticateWithPassphrase an authenticates r.config path alike
  · exact steady_authenticateWithPrompt Priv an sound opens authenticates r.config

theorem steady_runExec (sound : l.Sound) (opens : l.Opens Priv)
    (authenticates : l.Authenticates an) (r : Request) (commandParts : List String) :
    Command.Steady l (runExec Priv an r commandParts : Command Ne Ag Va Te UInt32) := by
  rw [runExec_eq_executed]
  refine Paired.bind_same ?_ fun exitCode =>
    Paired.bind_same (steady_close an) fun _ => Paired.pure rfl
  refine Paired.bind (likewise_maybeCollectPassphrase Priv an sound opens r.config) ?_
  intro pre pre' collected
  refine Paired.bind_same (steady_open an r.config _ (authenticates.connects _ _)) ?_
  intro _
  refine Paired.bind_same (likewise_authenticate Priv an sound opens authenticates r collected) ?_
  intro _
  exact Command.steady_relay _

/-! ### A test of the connection -/

omit [Biometric.BiometricBackend Va] [Terminal Te] in
theorem likewise_tellHuman {mode mode' : OutputMode} (modes : l.output → mode = mode')
    (s : String) :
    Command.Likewise l Eq (Command.tellHuman mode s : Command Ne Ag Va Te Unit)
      (Command.tellHuman mode' s) := by
  by_cases shown : l.output
  · rw [modes shown]
    unfold Command.tellHuman
    split
    · exact Command.steady_eprintln s
    · exact Paired.pure rfl
  · have told (mode : OutputMode) (p : Process Ne Ag Va Te) :
        ∃ q, Command.tellHuman mode s p = (.ok (), q) ∧ p.Hushed q := by
      obtain ⟨stderr, told⟩ := Command.tellHuman_run p mode s
      exact ⟨_, told, _, stderr, _, rfl⟩
    exact Command.likewise_of_hushed shown (told mode) (told mode')

theorem likewise_tested (sound : l.Sound) (opens : l.Opens Priv)
    (authenticates : l.Authenticates an) (r : Request) {mode mode' : OutputMode}
    (modes : l.output → mode = mode') :
    Command.Likewise l Eq
      (tested an Priv r mode :
        Command Ne Ag Va Te (Option String × List Json × Except AnvilError Unit))
      (tested an Priv r mode') := by
  refine Paired.bind (likewise_maybeCollectPassphrase Priv an sound opens r.config) ?_
  intro pre pre' collected
  refine Paired.bind_same (likewise_tellHuman modes _) ?_
  intro _
  refine Paired.bind_same (steady_open an r.config _ (authenticates.connects _ _)) ?_
  intro _
  refine Paired.bind_same (Command.steady_net (f := fun net => .ok (an.verifiedFingerprint net))) ?_
  intro fingerprint
  refine Paired.bind_same
    (Command.steady_net (f := fun net => .ok ((an.retryHistory net).map retryJson))) ?_
  intro retryAttempts
  refine Paired.bind_same (likewise_tellHuman modes _) ?_
  intro _
  have authenticating := likewise_authenticate Priv an sound opens authenticates r collected
  refine Paired.bind (authenticating.attempt.mono fun _ _ matched => matched.eq) ?_
  rintro authResult _ rfl
  exact Paired.pure rfl

variable (An : Type) [Config.Anvil An]

omit [Biometric.BiometricBackend Va] [Terminal Te] in
theorem tells_emitTestJson (config : AnvilConfig) (found : TestReport) :
    Tells (fun _ => True) (emitTestJson An config found : Program Ag Va Te Unit) := by
  refine Tells.bind (tells_certAndRevokedJson An _ _ _) ?_
  rintro ⟨certAuthoritiesJson, revokedJson⟩
  exact Tells.bind Tells.environment fun _ => Tells.emitJson _

omit [Biometric.BiometricBackend Va] [Terminal Te] in
theorem steady_finishTest (config : AnvilConfig) (mode : OutputMode)
    (fingerprint : Option String) (retryAttempts : List Json)
    (authResult : Except AnvilError Unit) :
    Command.Steady l (finishTest an An config mode fingerprint retryAttempts authResult :
      Command Ne Ag Va Te UInt32) := by
  refine Paired.bind_same (Command.steady_net (f := fun net => .ok (an.authBanner net))) ?_
  intro banner
  refine Paired.bind_same (steady_close an) ?_
  intro _
  cases mode with
  | human => exact Paired.pure rfl
  | json =>
    refine Paired.bind_same (Command.likewise_onWorld (tells_emitTestJson An _ _).steady) ?_
    intro _
    cases authResult with
    | ok => exact Paired.pure rfl
    | error e =>
      dsimp only
      split
      · exact Paired.pure rfl
      · exact Paired.fail e

omit [Biometric.BiometricBackend Va] [Terminal Te] in
theorem steady_concludeTest (r : Request) (mode : OutputMode) (fingerprint : Option String)
    (retryAttempts : List Json) (authResult : Except AnvilError Unit) :
    Command.Steady l (concludeTest an An r mode fingerprint retryAttempts authResult :
      Command Ne Ag Va Te UInt32) := by
  have finished (mode : OutputMode) : Command.Steady l
      (finishTest an An r.config mode fingerprint retryAttempts authResult :
        Command Ne Ag Va Te UInt32) :=
    steady_finishTest an An r.config mode fingerprint retryAttempts authResult
  cases mode with
  | json => exact finished .json
  | human =>
    cases authResult with
    | ok =>
      refine Paired.bind_same (Command.steady_eprintln _) ?_
      intro _
      refine Paired.bind_same (Command.steady_net (f := fun net => .ok (an.authBanner net))) ?_
      intro banner
      cases banner with
      | none => exact Paired.bind_same (Paired.pure rfl) fun _ => finished .human
      | some text => exact Paired.bind_same (Command.steady_eprintln text) fun _ => finished .human
    | error e =>
      unfold concludeTest
      dsimp only
      split
      · exact Paired.bind_same (Command.steady_eprintln _) fun _ => finished .human
      · exact Paired.bind ((steady_close an).attempt.mono fun _ _ m => m.eq) fun _ _ _ =>
          Paired.fail e

omit [Biometric.BiometricBackend Va] [Terminal Te] in
/-- Where closing succeeds, the modes differ in what they print of the result. -/
theorem concludeTest_hushed (r : Request) (mode : OutputMode) (fingerprint : Option String)
    (retryAttempts : List Json) (authResult : Except AnvilError Unit)
    {q : Process Ne Ag Va Te} {net : Ne} (closed : an.close q.net = (.ok (), net)) :
    ∃ q', concludeTest an An r mode fingerprint retryAttempts authResult q =
      (outcome an authResult, q') ∧ Process.Hushed { q with net := net } q' := by
  unfold concludeTest
  cases mode with
  | json =>
    obtain ⟨v, stderr, ran⟩ := finishTest_json_run an An r closed
    exact ⟨_, ran, _, stderr, _, rfl⟩
  | human =>
    have finish (stderr : List String) :
        finishTest an An r.config .human fingerprint retryAttempts authResult
            { q with world := { q.world with stderr := stderr } } =
          (.ok 0, { q with world := { q.world with stderr := stderr }, net := net }) :=
      finishTest_human_run an An r closed
    cases authResult with
    | ok u =>
      dsimp only
      rw [bind_of_ok (Command.eprintln_run _ _), bind_query_ok]
      cases an.authBanner q.net with
      | none => exact ⟨_, finish _, _, _, _, rfl⟩
      | some text =>
        exact ⟨_, (bind_of_ok (Command.eprintln_run _ text)).trans (finish _), _, _, _, rfl⟩
    | error e =>
      dsimp only [outcome]
      split
      · rw [bind_of_ok (Command.eprintln_run _ _)]
        exact ⟨_, finish _, _, _, _, rfl⟩
      · have closing : attempt (close an) q = (.ok (.ok ()), { q with net := net }) := by
          rw [attempt_run, close_run an closed]
        rw [bind_of_ok closing]
        exact ⟨_, rfl, _, _, _, rfl⟩

theorem likewise_runTest (sound : l.Sound) (opens : l.Opens Priv)
    (authenticates : l.Authenticates an) (r : Request) {mode mode' : OutputMode}
    (modes : l.output → mode = mode')
    (closes : mode = mode' ∨ ∀ net, (an.close net).1 = .ok ()) :
    Command.Likewise l Eq (runTest Priv an An r mode : Command Ne Ag Va Te UInt32)
      (runTest Priv an An r mode') := by
  rw [runTest_eq_tested, runTest_eq_tested]
  refine Paired.bind_same (likewise_tested Priv an sound opens authenticates r modes) ?_
  rintro ⟨fingerprint, retryAttempts, authResult⟩
  by_cases same : mode = mode'
  · rw [same]
    exact steady_concludeTest an An r mode' fingerprint retryAttempts authResult
  · have unheard : ¬ l.output := fun shown => same (modes shown)
    have closes := closes.resolve_left same
    intro p p' like
    obtain ⟨q, ran, printed⟩ := concludeTest_hushed an An r mode fingerprint retryAttempts
      authResult (Prod.ext (closes p.net) rfl)
    obtain ⟨q', ran', printed'⟩ := concludeTest_hushed an An r mode' fingerprint retryAttempts
      authResult (Prod.ext (closes p'.net) rfl)
    rw [ran, ran']
    refine ⟨Matched.refl (fun _ => rfl) _, Process.Like.hushed ?_ unheard printed printed'⟩
    exact { like with net := congrArg (fun net => (an.close net).2) like.net }

end

/-! ### Signatures -/

section
open Sign Keygen

variable (Priv : Type) {Pub Signers : Type} [PublicKey Pub] [PrivateKey Priv Pub]
  [Signatures Priv Signers] [Biometric.BiometricBackend Va] [Terminal Te]
  (an : Transport.AnvilSession Ne Ag)

omit [Signatures Priv Signers] in
theorem steady_loadAndDecrypt (sound : l.Sound) (opens : l.Opens Priv) (path : String) :
    Steady l (loadAndDecrypt Priv path : Program Ag Va Te Priv) := by
  refine Paired.bind (likewise_readPem opens path) ?_
  rintro pem _ ⟨rfl, known⟩
  refine Paired.bind (likewise_parsed known _) ?_
  rintro key _ ⟨rfl, opened⟩
  split
  · exact Paired.pure rfl
  · exact steady_opened opened (likewise_promptPassphrase Priv sound opens path) _

/-- Only a program gets the record of a signature. -/
theorem paired_sign (sound : l.Sound) (opens : l.Opens Priv) (args : SignArgs)
    {mode mode' : OutputMode} (modes : l.output → mode = mode') :
    Paired (Process.Like l) (Process.Like l.written) Eq
      (Sign.run Priv an args mode : Command Ne Ag Va Te UInt32) (Sign.run Priv an args mode') := by
  have resolving : Command.Steady l
      (resolveKeyPath an args.key : Command Ne Ag Va Te String) := by
    unfold resolveKeyPath
    split
    · exact Paired.pure rfl
    refine Paired.bind_same (steady_findIdentity an an.github) ?_
    intro identity
    cases identity with
    | found path => exact Paired.pure rfl
    | encrypted path => exact Paired.pure rfl
    | notFound => exact Paired.fail _
  have wrote (armored : String) : Command.Steady l.written
      (Command.onWorld (writeOutput args.output armored.toUTF8) : Command Ne Ag Va Te Unit) :=
    Command.likewise_onWorld (steady_writeOutput l.free_written _ _)
  have reports (key : Priv) (armored : String) (p : Process Ne Ag Va Te) :
      ∃ q, (Command.onWorld Program.environment >>= fun env =>
        Command.report (.json (signRecord Priv args key armored env)) >>= fun _ => pure 0 :
          Command Ne Ag Va Te UInt32) p = (.ok 0, q) ∧ p.Hushed q :=
    ⟨_, rfl, _, _, _, rfl⟩
  have silent (p : Process Ne Ag Va Te) :
      ∃ q, (pure 0 : Command Ne Ag Va Te UInt32) p = (.ok 0, q) ∧ p.Hushed q :=
    ⟨p, rfl, _, _, _, rfl⟩
  have weaker (p p' : Process Ne Ag Va Te) (like : p.Like l p') : p.Like l.written p' :=
    like.written
  refine Paired.bind_to resolving weaker ?_
  rintro path _ rfl
  refine Paired.bind_to (Command.likewise_onWorld (steady_loadAndDecrypt Priv sound opens path))
    weaker ?_
  rintro key _ rfl
  refine Paired.bind_to (Command.likewise_onWorld (steady_openInput args.input)) weaker ?_
  rintro reader _ rfl
  refine Paired.bind_to (Paired.query fun _ _ _ => Matched.refl (fun _ => rfl) _) weaker ?_
  rintro armored _ rfl
  -- The key is in the clear by now, and the files may change.
  refine Paired.weaken ?_ weaker fun _ _ like => like
  cases mode with
  | human =>
    cases mode' with
    | human => exact Paired.bind_same (wrote armored) fun _ => Paired.pure rfl
    | json =>
      have unheard : ¬ l.written.output := fun shown => absurd (modes shown) (by decide)
      exact Paired.bind_same (wrote armored) fun _ =>
        Command.likewise_of_hushed unheard silent (reports key armored)
  | json =>
    cases mode' with
    | human =>
      have unheard : ¬ l.written.output := fun shown => absurd (modes shown) (by decide)
      exact Paired.bind_same (wrote armored) fun _ =>
        Command.likewise_of_hushed unheard (reports key armored) silent
    | json =>
      refine Paired.bind_same (wrote armored) fun _ => ?_
      exact Paired.bind_same (Command.likewise_onWorld Program.steady_environment) fun _ =>
        Paired.bind_same (Command.steady_report _) fun _ => Paired.pure rfl

end

/-! ### Dispatch -/

section
variable {f : OutputMode → Program Ag Va Te Nat} {mode mode' : OutputMode}

/-- A command that opens no key may write any file. -/
theorem paired_exitWith_written (modeless : Modeless l.written f)
    (modes : l.output → mode = mode') :
    Paired (Process.Like l) (Process.Like l.written) Eq
      (exitWith (f mode) : Command Ne Ag Va Te UInt32) (exitWith (f mode')) := by
  have both : Command.Likewise l.written Eq (exitWith (f mode) : Command Ne Ag Va Te UInt32)
      (exitWith (f mode')) :=
    (Command.likewise_onWorld (modeless mode mode' modes)).map fun _ _ same => congrArg _ same
  exact both.weaken (fun _ _ like => like.written) fun _ _ like => like

theorem paired_exitWith (modeless : Modeless l f) (modes : l.output → mode = mode') :
    Paired (Process.Like l) (Process.Like l.written) Eq
      (exitWith (f mode) : Command Ne Ag Va Te UInt32) (exitWith (f mode')) := by
  have both : Command.Likewise l Eq (exitWith (f mode) : Command Ne Ag Va Te UInt32)
      (exitWith (f mode')) :=
    (Command.likewise_onWorld (modeless mode mode' modes)).map fun _ _ same => congrArg _ same
  exact both.weaken (fun _ _ like => like) fun _ _ like => like.written

end

section
open Hosts

variable (Hk B : Type) [KnownHosts Hk] [Transport.ConfigBuilder B]
  (an : Transport.AnvilSession Ne Ag) (tempdir : FileSystem → Except String Config.OsPath)

omit [Transport.ConfigBuilder B] [KnownHosts Hk] in
/-- With its directory goes all that a probe writes down. -/
theorem steady_inTempdir_open (config : Transport.AnvilConfig)
    (dial : Transport.Dial Config.JumpHost) :
    Command.Steady l (inTempdir (an.open_ config dial) : Command Ne Ag Va Te Unit) := by
  intro p p' like
  obtain ⟨outcome, opened⟩ := steady_open (l := l.written) an config dial (fun _ _ _ => trivial)
    p p' like.written
  refine ⟨outcome, { opened with world := { opened.world with
    setting := ?_, known := like.world.known } }⟩
  exact Prod.ext opened.world.env (Prod.ext like.world.files opened.world.agent)

omit [KnownHosts Hk] in
theorem steady_probe (host : String) :
    Command.Steady l (probe an B tempdir host : Command Ne Ag Va Te String) := by
  refine Paired.bind_same (Command.steady_setting (f := fun setting =>
    (tempdir setting.2.1).mapError fun e =>
      .invalidConfig s!"could not create temp dir for probe: {e}")) ?_
  intro probeDir
  refine Paired.bind_same (steady_inTempdir_open an _ _) ?_
  intro _
  refine Paired.bind_same (Command.steady_net (f := fun net => .ok (an.verifiedFingerprint net))) ?_
  intro captured
  cases captured with
  | some fingerprint => exact Paired.bind_same (steady_close an) fun _ => Paired.pure rfl
  | none => exact Paired.fail _

/-- In one mode, or with nobody asked, `hosts add` does the same on both sides. -/
theorem paired_hostsAdd (args : HostsAddArgs) {mode mode' : OutputMode}
    (modes : l.output → mode = mode') :
    Paired (fun p p' : Process Ne Ag Va Te =>
        p.Like l p' ∧ (mode = mode' ∨ Unasked args p.world.env)) (Process.Like l.written) Eq
      (runAdd Hk an B tempdir args mode) (runAdd Hk an B tempdir args mode') := by
  have locating : Command.Steady l (query fun p => resolvePath Hk p.world.env args.knownHosts :
      Command Ne Ag Va Te String) :=
    Command.steady_setting (f := fun setting => resolvePath Hk setting.1 args.knownHosts)
  have probed : Command.Steady l (probe an B tempdir args.host : Command Ne Ag Va Te String) :=
    steady_probe B an tempdir args.host
  have probing := probed.keeping ((keeps_probe an B tempdir args.host).preserves
    fun w => mode = mode' ∨ Unasked args w.env)
  have located : Preserves (fun p : Process Ne Ag Va Te => mode = mode' ∨ Unasked args p.world.env)
      (query fun p => resolvePath Hk p.world.env args.knownHosts : Command Ne Ag Va Te String) :=
    Preserves.query _
  refine Paired.bind_to (locating.keeping located) (fun _ _ both => both.1.written) ?_
  rintro path _ rfl
  refine Paired.bind_to probing (fun _ _ both => both.1.written) ?_
  rintro fingerprint _ rfl p p' ⟨like, consent⟩
  obtain ⟨outcome, after⟩ := addProbed_alike Hk l.free_written modes path fingerprint
    like.world.written consent
  exact ⟨outcome, { like with world := after }⟩

end

/-- A passphrase that a person is asked for goes to the agent or into a new key file. -/
def GitwaySubcommand.HandsOver : GitwaySubcommand → Prop
  | .keygen (.generate args) => args.noPassphrase = false ∧ args.passphrase = none
  | .keygen (.changePassphrase args) =>
    args.oldPassphrase = none ∨ args.noPassphrase = false ∧ args.newPassphrase = none
  | .agent (.lock args) | .agent (.unlock args) => args.passphrase = none
  | _ => False

/-- The mode makes no difference to what the command does. -/
def GitwaySubcommand.ModeFree (Pub : Type) [Keygen.KeyDetails Pub] (env : Environment) :
    GitwaySubcommand → Prop
  -- A program cannot be asked for its consent.
  | .hosts (.add args) => Unasked args env
  -- In full, a key that cannot be written out ends the list of a human.
  | .agent (.list args) =>
    args.full = true → ∀ pub : Pub, ∃ line, Keygen.KeyDetails.toOpenssh pub = .ok line
  | _ => True

section
variable {Co : Type} (An B Hk Priv : Type) {Pub Signers : Type} [Config.Anvil An]
  [Transport.ConfigBuilder B] [Hosts.KnownHosts Hk] [PublicKey Pub] [PrivateKey Priv Pub]
  [Keygen.KeyDetails Pub] [Keygen.Writer Priv] [Keygen.Signatures Priv Signers]
  [Agent Ag Priv Pub] [Agent.AgentAdmin Ag Pub] [Biometric.BiometricBackend Va] [Terminal Te]
  [Config.SshConfig Co] (sys : Platform Ne Ag) {mode mode' : OutputMode}

omit [Agent Ag Priv Pub] [Agent.AgentAdmin Ag Pub] in
theorem paired_runKeygen (sound : l.Sound) (opens : l.Opens Priv)
    (modes : l.output → mode = mode') {command : KeygenSubcommand}
    (exactly : (GitwaySubcommand.keygen command).HandsOver → l.Exact) :
    Paired (Process.Like l) (Process.Like l.written) Eq
      (runKeygen Priv sys command mode : Command Ne Ag Va Te UInt32)
      (runKeygen Priv sys command mode') := by
  cases command with
  | generate args =>
    exact paired_exitWith_written (modeless_runGenerate Priv sound.written l.free_written
      fun wanted typed => exactly ⟨wanted, typed⟩) modes
  | fingerprint args => exact paired_exitWith (modeless_runFingerprint Priv args) modes
  | extractPublic args =>
    exact paired_exitWith_written (modeless_runExtractPublic Priv l.free_written args) modes
  | changePassphrase args =>
    exact paired_exitWith_written (modeless_runChangePassphrase Priv sound.written l.free_written
      (fun typed => exactly (Or.inl typed)) fun wanted typed => exactly (Or.inr ⟨wanted, typed⟩))
      modes
  | sign args => exact paired_sign Priv sys.session sound opens args modes
  | verify args => exact paired_exitWith (modeless_runVerify Priv args) modes

omit [Keygen.Writer Priv] in
theorem paired_runAgent (sound : l.Sound) (opens : l.Opens Priv)
    (modes : l.output → mode = mode') {command : Agent.AgentSubcommand}
    (exactly : (GitwaySubcommand.agent command).HandsOver → l.Exact) {env : Environment}
    (free : mode = mode' ∨ (GitwaySubcommand.agent command).ModeFree Pub env) :
    Paired (Process.Like l) (Process.Like l.written) Eq
      (exitWith (Agent.run sys.processes command mode) : Command Ne Ag Va Te UInt32)
      (exitWith (Agent.run sys.processes command mode')) := by
  cases command with
  | add args => exact paired_exitWith (modeless_runAdd sound opens args) modes
  | list args =>
    have listed : Likewise l Eq (Agent.runList args mode : Program Ag Va Te Nat)
        (Agent.runList args mode') := likewise_runList modes free
    exact ((Command.likewise_onWorld listed).map fun _ _ same => congrArg _ same).weaken
      (fun _ _ like => like) fun _ _ like => like.written
  | remove args => exact paired_exitWith (modeless_runRemove args) modes
  | lock args => exact paired_exitWith (modeless_runLock sound exactly true) modes
  | unlock args => exact paired_exitWith (modeless_runLock sound exactly false) modes
  | start args =>
    exact paired_exitWith_written
      (Modeless.of_steady (steady_runStart l.free_written sys.processes args)) modes
  | stop args =>
    exact paired_exitWith_written (modeless_runStop l.free_written sys.processes.kill args) modes

omit [Keygen.KeyDetails Pub] [Keygen.Writer Priv] [Agent Ag Priv Pub]
  [Agent.AgentAdmin Ag Pub] in
theorem paired_runBiometric (sound : l.Sound) (opens : l.Opens Priv)
    (modes : l.output → mode = mode') (command : Biometric.BiometricSubcommand) :
    Paired (Process.Like l) (Process.Like l.written) Eq
      (exitWith (Biometric.run Priv command mode) : Command Ne Ag Va Te UInt32)
      (exitWith (Biometric.run Priv command mode')) := by
  cases command with
  | enroll args => exact paired_exitWith (modeless_runEnroll Priv sound opens args) modes
  | forget args => exact paired_exitWith (modeless_runForget Priv sound args) modes
  | list => exact paired_exitWith (modeless_runListEnrolled sound) modes
  | status => exact paired_exitWith (modeless_runStatus sound) modes

theorem runSubcommand_alike (sound : l.Sound) (opens : l.Opens Priv) (files : Co)
    (modes : l.output → mode = mode') {subcommand : GitwaySubcommand}
    (exactly : subcommand.HandsOver → l.Exact) {p p' : Process Ne Ag Va Te} (like : p.Like l p')
    (free : mode = mode' ∨ subcommand.ModeFree Pub p.world.env) :
    Matched Eq (runSubcommand An B Hk Priv sys files subcommand mode p).1
        (runSubcommand An B Hk Priv sys files subcommand mode' p').1 ∧
      (runSubcommand An B Hk Priv sys files subcommand mode p).2.Like l.written
        (runSubcommand An B Hk Priv sys files subcommand mode' p').2 := by
  have document (v : Json) : Paired (Process.Like l) (Process.Like l.written) Eq
      (exitWith (Program.emitJson v >>= fun _ => pure 0) : Command Ne Ag Va Te UInt32)
      (exitWith (Program.emitJson v >>= fun _ => pure 0)) :=
    paired_exitWith (Modeless.of_steady (Paired.bind_same (Tells.emitJson v).steady fun _ =>
      Paired.pure rfl)) modes
  cases subcommand with
  | schema => exact document _ p p' like
  | describe => exact document _ p p' like
  | keygen command => exact paired_runKeygen Priv sys sound opens modes exactly p p' like
  | sign args => exact paired_sign Priv sys.session sound opens args modes p p' like
  | agent command => exact paired_runAgent Priv sys sound opens modes exactly free p p' like
  | config command => exact paired_exitWith (modeless_config An files command) modes p p' like
  | listAlgorithms =>
    exact paired_exitWith (modeless_runListAlgorithms sys.allSupported) modes p p' like
  | hosts command =>
    cases command with
    | add args =>
      exact (paired_hostsAdd Hk B sys.session sys.tempdir args modes).map
        (fun _ _ same => congrArg UInt32.ofNat same) p p' ⟨like, free⟩
    | revoke args =>
      exact paired_exitWith_written (modeless_runRevoke Hk l.free_written args) modes p p' like
    | list args => exact paired_exitWith (modeless_runListHosts Hk args) modes p p' like
  | biometric command => exact paired_runBiometric Priv sound opens modes command p p' like

end

end Gitway
