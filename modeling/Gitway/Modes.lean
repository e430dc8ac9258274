import Gitway.Contract
import Gitway.Steps

/-!
# The two output modes

A command does the same whether a human or a program reads what it prints. The lemma of a
command compares two runs of it on sides that are alike, in modes that need not be the same
where nothing that is printed is compared.
-/
namespace Gitway

open Lib Lib.Fallible Program

variable {Ne Ag Va Te : Type} {l : Likeness Va Te}

theorem Tells.of_prints {out : List Emitted} {messages : List String}
    {x : Program Ag Va Te PUnit} (prints : Program.Prints out messages x) :
    Tells (fun _ => True) x :=
  fun w w' _ => ⟨(), out, messages, trivial, prints w, prints w'⟩

/-! ### Keys -/

section
open Keygen

variable (Priv : Type) {Pub Signers : Type} [PublicKey Pub] [PrivateKey Priv Pub]

section
variable [Writer Priv] [Biometric.BiometricBackend Va] [Terminal Te]

theorem modeless_runGenerate (sound : l.Sound) (free : l.Free)
    {args : GenerateArgs} (exactly : args.noPassphrase = false → args.passphrase = none → l.Exact) :
    Modeless l (runGenerate Priv args : OutputMode → Program Ag Va Te Nat) := by
  refine Modeless.bind (steady_value _) ?_
  rintro ⟨kind, bits⟩
  refine Modeless.bind steady_environment ?_
  intro env
  refine Modeless.bind (steady_resolveNewPassphrase Priv sound exactly) ?_
  intro passphrase
  refine Modeless.bind steady_files ?_
  intro key
  refine Modeless.bind (steady_onFiles free _) ?_
  intro _
  refine Modeless.report 0 ?_ ?_
  · refine Tells.bind (Tells.eprintln _) fun _ => ?_
    refine Tells.bind (Tells.eprintln _) fun _ => ?_
    refine Tells.bind (Tells.eprintln _) fun _ => ?_
    exact Tells.bind (Tells.eprintln _) fun _ => Tells.pure rfl
  · exact Tells.bind (Tells.emitJson _) fun _ => Tells.pure rfl

theorem modeless_runChangePassphrase (sound : l.Sound) (free : l.Free)
    {args : ChangePassphraseArgs} (old : args.oldPassphrase = none → l.Exact)
    (new : args.noPassphrase = false → args.newPassphrase = none → l.Exact) :
    Modeless l (runChangePassphrase Priv args : OutputMode → Program Ag Va Te Nat) := by
  refine Modeless.bind (steady_readToString _) ?_
  intro pem
  refine Modeless.bind (steady_value _) ?_
  intro loaded
  refine Modeless.bind (steady_oldPassphrase Priv sound old loaded) ?_
  intro old
  refine Modeless.bind (steady_newPassphrase Priv sound new) ?_
  intro new
  refine Modeless.bind (steady_onFiles free _) ?_
  intro _
  refine Modeless.report 0 ?_ ?_
  · exact Tells.bind (Tells.eprintln _) fun _ => Tells.pure rfl
  · exact Tells.document rfl

end

theorem modeless_runFingerprint [KeyDetails Pub]
    (args : FingerprintArgs) :
    Modeless l (runFingerprint Priv args : OutputMode → Program Ag Va Te Nat) := by
  refine Modeless.bind (steady_loadPublic Priv _ args.file) ?_
  intro pub
  refine Modeless.report 0 ?_ ?_
  · exact Tells.bind (Tells.println _) fun _ => Tells.pure rfl
  · exact Tells.document rfl

theorem modeless_runExtractPublic [Signatures Priv Signers] (free : l.Free)
    (args : ExtractPublicArgs) :
    Modeless l (runExtractPublic Priv args : OutputMode → Program Ag Va Te Nat) := by
  refine Modeless.bind (steady_onFiles free _) ?_
  intro _
  refine Modeless.report 0 ?_ ?_
  · exact Tells.bind (Tells.eprintln _) fun _ => Tells.pure rfl
  · exact Tells.document rfl

theorem modeless_runVerify [Signatures Priv Signers]
    (args : VerifyArgs) :
    Modeless l (runVerify Priv args : OutputMode → Program Ag Va Te Nat) := by
  refine Modeless.bind (steady_readToString _) ?_
  intro armored
  refine Modeless.bind steady_files ?_
  intro allowed
  refine Modeless.bind (steady_openInput args.input) ?_
  intro input
  refine Modeless.bind (steady_value _) ?_
  intro verified
  refine Modeless.report 0 ?_ ?_
  · exact Tells.bind (Tells.println _) fun _ => Tells.pure rfl
  · exact Tells.document rfl

end

/-! ### The agent -/

section
open Agent

variable {Priv Pub : Type} [PublicKey Pub] [PrivateKey Priv Pub] [Agent Ag Priv Pub]

omit [PublicKey Pub] [PrivateKey Priv Pub] in
theorem steady_connect : Steady l (connect : Program Ag Va Te Unit) :=
  steady_query fun _ _ same =>
    congrArg (fun setting => Agent.fromEnv (setting.1.vars "SSH_AUTH_SOCK") setting.2.2) same

theorem steady_defaultKeyPaths :
    Steady l (defaultKeyPaths : Program Ag Va Te (List String)) := by
  refine steady_query fun w w' same => ?_
  simp only [World.setting, Prod.mk.injEq] at same
  rw [same.1, same.2.1]

theorem modeless_runAdd [Biometric.BiometricBackend Va] [Terminal Te] (sound : l.Sound)
    (opens : l.Opens Priv) (args : AgentAddArgs) :
    Modeless l (runAdd args : OutputMode → Program Ag Va Te Nat) := by
  have chosen : Steady l (args.paths : Program Ag Va Te (List String)) := by
    unfold AgentAddArgs.paths
    split
    · exact steady_defaultKeyPaths
    · exact Paired.pure rfl
  have loads (path : String) (key : Priv) (unlock : Biometric.UnlockMode) (known : l.Knows key) :
      Steady l (loadPrivateKey path key unlock : Program Ag Va Te Priv) :=
    steady_loadKey sound _ (likewise_promptPassphraseInteractive sound) _ path known unlock
  refine Modeless.bind chosen ?_
  intro paths
  refine Modeless.bind steady_connect ?_
  intro _
  refine Modeless.bind (steady_agent (f := fun ag => .ok (loadedIdentities ag))) ?_
  intro loaded
  refine Modeless.bind (Paired.foldlM ?_ paths rfl) ?_
  · rintro acc _ path rfl
    exact steady_addOne opens loads (fun _ _ => Paired.pure rfl) (fun _ _ => Paired.pure rfl)
      loaded _ _ _ acc path
  rintro ⟨added, alreadyLoaded⟩
  refine Modeless.report 0 ?_ ?_
  · refine Tells.bind (Tells.bind (Tells.forM (fun _ => Tells.eprintln _) added) fun _ =>
      Tells.forM (fun _ => Tells.eprintln _) alreadyLoaded) fun _ => Tells.pure rfl
  · exact Tells.bind (Tells.document (P := fun _ => True) trivial) fun _ => Tells.pure rfl

section
variable [AgentAdmin Ag Pub]

theorem modeless_runRemove (args : AgentRemoveArgs) :
    Modeless l (runRemove args : OutputMode → Program Ag Va Te Nat) := by
  refine Modeless.bind steady_connect ?_
  intro _
  refine Modeless.bind (steady_removeKeys args) ?_
  intro removed
  refine Modeless.report 0 ?_ ?_
  · exact Tells.bind (Tells.forM (fun _ => Tells.eprintln _) removed) fun _ => Tells.pure rfl
  · exact Tells.document rfl

omit [PublicKey Pub] [PrivateKey Priv Pub] in
theorem modeless_runLock [Biometric.BiometricBackend Va] [Terminal Te] (sound : l.Sound)
    {args : AgentLockArgs} (exactly : args.passphrase = none → l.Exact) (lock : Bool) :
    Modeless l fun mode => (runLock args mode lock : Program Ag Va Te Nat) := by
  refine Modeless.bind steady_connect ?_
  intro _
  refine Modeless.bind (steady_lockPassphrase sound exactly lock) ?_
  intro pp
  refine Modeless.bind (steady_onAgent _) ?_
  intro _
  refine Modeless.report 0 ?_ ?_
  · exact Tells.bind (Tells.eprintln _) fun _ => Tells.pure rfl
  · exact Tells.document rfl

end

theorem modeless_runStop (free : l.Free) (kill : Int → Except String Unit) (args : AgentStopArgs) :
    Modeless l (runStop kill args : OutputMode → Program Ag Va Te Nat) := by
  refine Modeless.bind (steady_resolveDaemonPid free args.pidFile) ?_
  intro pid
  refine Modeless.bind (steady_sendSigterm kill pid) ?_
  intro _
  refine Modeless.report 0 ?_ ?_
  · exact Tells.bind (Tells.eprintln _) fun _ => Tells.pure rfl
  · exact Tells.document rfl

omit [PublicKey Pub] in
/-- A key that cannot be written out ends the list of a human. -/
theorem steady_printPublicKey [Keygen.KeyDetails Pub] (id : Identity Pub) :
    Steady l (printPublicKey id : Program Ag Va Te Unit) :=
  Paired.bind_same (steady_value _) fun _ => (Tells.println _).steady

omit [PublicKey Pub] in
theorem tells_printPublicKey [Keygen.KeyDetails Pub] {id : Identity Pub} {line : String}
    (written : Keygen.KeyDetails.toOpenssh id.publicKey = .ok line) :
    Tells (fun _ => True) (printPublicKey id : Program Ag Va Te Unit) := by
  unfold printPublicKey
  rw [written]
  exact Tells.bind (Tells.query (f := fun _ => line) fun _ _ _ => rfl) fun _ => Tells.println _

omit [PrivateKey Priv Pub] in
/-- Only a human is shown the keys in full, and only then can a key that cannot be written out
end the command. -/
theorem likewise_runList [Keygen.KeyDetails Pub] {args : AgentListArgs} {mode mode' : OutputMode}
    (modes : l.output → mode = mode') (written : mode = mode' ∨ (args.full = true →
      ∀ pub : Pub, ∃ line, Keygen.KeyDetails.toOpenssh pub = .ok line)) :
    Likewise l Eq (runList args mode : Program Ag Va Te Nat) (runList args mode') := by
  rcases written with same | written
  · rw [same]
    refine Paired.bind_same steady_connect ?_
    intro _
    refine Paired.bind_same steady_agent ?_
    intro ids
    cases mode' with
    | json => exact (Tells.document (P := fun _ => True) trivial).steady
    | human =>
      dsimp only
      split
      · exact Paired.bind_same (steady_eprintln _) fun _ => Paired.pure rfl
      split
      · exact Paired.bind_same (Paired.forM steady_printPublicKey ids) fun _ => Paired.pure rfl
      · exact Paired.bind_same (Tells.forM (fun _ => Tells.println _) ids).steady fun _ =>
          Paired.pure rfl
  · have listing : Modeless l (runList args : OutputMode → Program Ag Va Te Nat) := by
      refine Modeless.bind steady_connect ?_
      intro _
      refine Modeless.bind steady_agent ?_
      intro ids
      refine Modeless.report 0 ?_ (Tells.document rfl)
      dsimp only
      split
      · exact Tells.bind (Tells.eprintln _) fun _ => Tells.pure rfl
      split
      · rename_i full
        have each (id : Identity Pub) :
            Tells (fun _ => True) (printPublicKey id : Program Ag Va Te Unit) := by
          obtain ⟨line, given⟩ := written full id.publicKey
          exact tells_printPublicKey given
        exact Tells.bind (Tells.forM each ids) fun _ => Tells.pure rfl
      · exact Tells.bind (Tells.forM (fun _ => Tells.println _) ids) fun _ => Tells.pure rfl
    exact listing mode mode' modes

end

/-! ### Configuration, hosts and the catalogue -/

theorem modeless_config (An : Type) [Config.Anvil An] {Co : Type} [Config.SshConfig Co]
    (files : Co) (sub : Config.ConfigSubcommand) :
    Modeless l (Config.run An files sub : OutputMode → Program Ag Va Te Nat) := by
  cases sub with
  | «show» args =>
    refine Modeless.bind steady_environment ?_
    intro env
    refine Modeless.bind (steady_value _) ?_
    intro resolved
    refine Modeless.report 0 ?_ ?_
    · obtain ⟨before, between, after, messages, prints⟩ :=
        @Config.prints_emitHumanShow Ag Va Te An _ args resolved
      exact Tells.bind (Tells.of_prints (prints resolved.user resolved.identityFiles)) fun _ =>
        Tells.pure rfl
    · have shown : Tells (fun _ => True)
          (Config.emitJsonShow An args resolved : Program Ag Va Te Unit) := by
        refine Tells.bind (tells_certAndRevokedJson An _ _ _) ?_
        rintro ⟨certAuthoritiesJson, revokedJson⟩
        exact Tells.bind Tells.environment fun _ => Tells.emitJson _
      exact Tells.bind shown fun _ => Tells.pure rfl

section
open Hosts

variable (Hk : Type) [KnownHosts Hk]

theorem modeless_runRevoke (free : l.Free) (args : HostsRevokeArgs) :
    Modeless l (runRevoke Hk args : OutputMode → Program Ag Va Te Nat) := by
  refine Modeless.bind steady_environment ?_
  intro env
  refine Modeless.bind (steady_value _) ?_
  intro path
  refine Modeless.bind (steady_files (f := fun fs => revocation Hk fs path _)) ?_
  rintro ⟨hostPattern, fingerprint⟩
  refine Modeless.bind (steady_onFiles free _) ?_
  intro _
  refine Modeless.report 0 ?_ ?_
  · exact Tells.bind (Tells.eprintln _) fun _ => Tells.pure rfl
  · exact Tells.bind (Tells.emitJson _) fun _ => Tells.pure rfl

theorem modeless_runListHosts (args : HostsListArgs) :
    Modeless l (runList Hk args : OutputMode → Program Ag Va Te Nat) := by
  refine Modeless.bind steady_environment ?_
  intro env
  refine Modeless.bind (steady_value _) ?_
  intro path
  refine Modeless.bind (steady_readKnownHosts Hk path) ?_
  intro parsed
  refine Modeless.report 0 ?_ ?_
  · exact Tells.bind (Tells.forM (fun _ => Tells.println _) _) fun _ => Tells.pure rfl
  · exact Tells.bind (Tells.emitJson _) fun _ => Tells.pure rfl

/-- What has consent is added in either mode. -/
theorem modeless_append (free : l.Free) (args : HostsAddArgs) (path fingerprint : String)
    (hashed : Bool) :
    Modeless l fun mode => (append Hk args mode path fingerprint hashed >>= fun _ => pure 0 :
      Program Ag Va Te Nat) := by
  unfold append
  simp only [bind_assoc]
  refine Modeless.bind (steady_onFiles free _) ?_
  intro _
  refine Modeless.report 0 ?_ ?_
  · exact Tells.bind (Tells.eprintln _) fun _ => Tells.pure rfl
  · exact Tells.bind (Tells.bind Tells.environment fun _ => Tells.emitJson _) fun _ =>
      Tells.pure rfl

/-- Nobody is asked for consent: it was given before, or nobody is there. -/
def Unasked (args : HostsAddArgs) (env : Environment) : Prop :=
  args.yes = true ∨ env.stdinIsTerminal = false

theorem confirm_unasked {args : HostsAddArgs} {w : World Ag Va Te} (unasked : Unasked args w.env)
    (mode mode' : OutputMode) (path : String) :
    confirm args mode path w = confirm args mode' path w := by
  unfold confirm
  split
  · rfl
  · rename_i asked
    have alone := unasked.resolve_left asked
    rw [bind_of_ok (environment_run w), bind_of_ok (environment_run w)]
    simp only [alone, or_true, if_true]

theorem steady_confirm (args : HostsAddArgs) (mode : OutputMode) (path : String) :
    Steady l (confirm args mode path : Program Ag Va Te (Option Nat)) := by
  unfold confirm
  split
  · exact Paired.pure rfl
  refine Paired.bind_same steady_environment ?_
  intro env
  split
  · exact Paired.bind_same (steady_eprintln _) fun _ => Paired.pure rfl
  refine Paired.bind_same (steady_eprintln _) ?_
  intro _
  refine Paired.bind_same steady_readLine ?_
  intro line
  refine Paired.bind_same (steady_value _) ?_
  intro response
  split
  · exact Paired.pure rfl
  · exact Paired.bind_same (steady_eprintln _) fun _ => Paired.pure rfl

/-- `addProbed` with a mode to ask in and a mode to report in. -/
def addProbedIn (args : HostsAddArgs) (asking reporting : OutputMode) (path fingerprint : String) :
    Program Ag Va Te Nat := do
  let hashed ← chooseHashed Hk args path
  Program.eprintln s!"gitway hosts add: {args.host} — fingerprint {fingerprint}"
  match ← confirm args asking path with
  | some code => return code
  | none =>
    append Hk args reporting path fingerprint hashed
    return 0

theorem addProbedIn_unasked {args : HostsAddArgs} {w : World Ag Va Te}
    (unasked : Unasked args w.env) (asking asking' reporting : OutputMode)
    (path fingerprint : String) :
    addProbedIn Hk args asking reporting path fingerprint w =
      addProbedIn Hk args asking' reporting path fingerprint w := by
  refine bind_congr_ok fun hashed v chosen => ?_
  have env : v.env = w.env := by
    have kept := (touches_chooseHashed Hk args path w).env (by simp)
    rw [chosen] at kept
    exact kept
  have still : Unasked args { v with stderr := v.stderr ++
      [s!"gitway hosts add: {args.host} — fingerprint {fingerprint}"] }.env := env.symm ▸ unasked
  rw [bind_of_ok (eprintln_run v _), bind_of_ok (eprintln_run v _), bind_run, bind_run,
    confirm_unasked still asking asking' path]

theorem modeless_addProbedIn (free : l.Free) (args : HostsAddArgs) (asking : OutputMode)
    (path fingerprint : String) :
    Modeless l fun mode =>
      (addProbedIn Hk args asking mode path fingerprint : Program Ag Va Te Nat) := by
  refine Modeless.bind (steady_chooseHashed Hk args path) ?_
  intro hashed
  refine Modeless.bind (steady_eprintln _) ?_
  intro _
  refine Modeless.bind (steady_confirm args asking path) ?_
  intro answer
  cases answer with
  | some code => exact Modeless.of_steady (Paired.pure rfl)
  | none => exact modeless_append Hk free args path fingerprint hashed

/-- In one mode, or with nobody asked, the host is added on both sides or on neither. -/
theorem addProbed_alike (free : l.Free) {args : HostsAddArgs} {mode mode' : OutputMode}
    (modes : l.output → mode = mode') (path fingerprint : String) {w w' : World Ag Va Te}
    (like : w.Like l w') (consent : mode = mode' ∨ Unasked args w.env) :
    Matched Eq (addProbed Hk args mode path fingerprint w).1
        (addProbed Hk args mode' path fingerprint w').1 ∧
      (addProbed Hk args mode path fingerprint w).2.Like l
        (addProbed Hk args mode' path fingerprint w').2 := by
  have asked : addProbed Hk args mode path fingerprint w =
      addProbedIn Hk args mode' mode path fingerprint w := by
    rcases consent with rfl | unasked
    · rfl
    · exact addProbedIn_unasked Hk unasked mode mode' mode path fingerprint
  rw [asked]
  exact modeless_addProbedIn Hk free args mode' path fingerprint mode mode' modes w w' like

end

theorem modeless_runListAlgorithms (cat : Discovery.Catalogue) :
    Modeless l (Discovery.runListAlgorithms cat : OutputMode → Program Ag Va Te Nat) := by
  refine Modeless.report 0 ?_ ?_
  · exact Tells.bind (Tells.forM (fun _ => Tells.println _) _) fun _ => Tells.pure rfl
  · exact Tells.document rfl

theorem modeless_runInstall (free : l.Free) (sys : Platform Ne Ag) :
    Modeless l (runInstall sys : OutputMode → Program Ag Va Te Nat) := by
  refine Modeless.bind (steady_onFiles free _) ?_
  intro success
  cases success with
  | true =>
    refine Modeless.report 0 ?_ ?_
    · exact Tells.bind (Tells.eprintln _) fun _ => Tells.pure rfl
    · exact Tells.document rfl
  | false => exact Modeless.of_steady (Paired.fail _)

/-! ### Biometric unlock -/

section
open Biometric

theorem modeless_emitError (error : BiometricError) (command : String) :
    Modeless l fun mode => (emitError error mode command : Program Ag Va Te Nat) := by
  refine Modeless.report (exitFor error) ?_ ?_
  · exact Tells.bind (Tells.eprintln _) fun _ => Tells.pure rfl
  · exact Tells.document rfl

theorem modeless_emitResults (command : String) (results : List Outcome) (verb : String)
    (code : Nat) :
    Modeless l fun mode =>
      (emitResults mode command results verb >>= fun _ => pure code : Program Ag Va Te Nat) := by
  refine Modeless.report code ?_ ?_
  · exact Tells.bind (Tells.forM (fun _ => Tells.eprintln _) results) fun _ => Tells.pure rfl
  · exact Tells.bind (Tells.bind Tells.environment fun _ => Tells.emitJson _) fun _ =>
      Tells.pure rfl

variable [BiometricBackend Va] [Terminal Te]

theorem steady_isAvailable (sound : l.Sound) :
    Steady l (query fun w => .ok (BiometricBackend.isAvailable w.vault) : Program Ag Va Te Bool) :=
  Paired.query fun _ _ like => Matched.ok (sound.isAvailable like.vault)

theorem steady_bindingTier (sound : l.Sound) :
    Steady l (query fun w => .ok (BiometricBackend.bindingTier w.vault) :
      Program Ag Va Te Tier) :=
  Paired.query fun _ _ like => Matched.ok (sound.bindingTier like.vault)

theorem modeless_runListEnrolled (sound : l.Sound) :
    Modeless l (runList : OutputMode → Program Ag Va Te Nat) := by
  refine Modeless.bind (steady_onVault sound.list) ?_
  intro listed
  cases listed with
  | error error => exact modeless_emitError error _
  | ok enrolled =>
    refine Modeless.report EXIT_OK ?_ ?_
    · unfold emitEnrolled
      dsimp only
      split
      · exact Tells.bind (Tells.eprintln _) fun _ => Tells.pure rfl
      · exact Tells.bind (Tells.forM (fun _ => Tells.println _) enrolled) fun _ => Tells.pure rfl
    · exact Tells.bind (Tells.bind Tells.environment fun _ => Tells.emitJson _) fun _ =>
        Tells.pure rfl

theorem modeless_runStatus (sound : l.Sound) :
    Modeless l (runStatus : OutputMode → Program Ag Va Te Nat) := by
  refine Modeless.bind (steady_isAvailable sound) ?_
  intro available
  refine Modeless.bind (steady_bindingTier sound) ?_
  intro tier
  refine Modeless.bind (steady_countEnrolled sound available) ?_
  intro enrolled
  refine Modeless.report EXIT_OK ?_ (Tells.document rfl)
  refine Tells.bind (Tells.println _) fun _ => ?_
  refine Tells.bind (Tells.println _) fun _ => ?_
  refine Tells.bind (Tells.println _) fun _ => ?_
  exact Tells.bind (Tells.forOption (fun _ => Tells.println _) enrolled) fun _ => Tells.pure rfl

variable (Priv : Type) {Pub : Type} [PublicKey Pub] [PrivateKey Priv Pub]

theorem modeless_runForget (sound : l.Sound) (args : BiometricForgetArgs) :
    Modeless l (runForget Priv args : OutputMode → Program Ag Va Te Nat) := by
  refine Modeless.ite (fun _ => ?_) fun _ => Modeless.ite (fun _ => ?_) fun _ => ?_
  · refine Modeless.bind (steady_onVault sound.list) ?_
    intro listed
    cases listed with
    | error error => exact modeless_emitError error _
    | ok enrolled =>
      refine Modeless.bind (steady_collect (fun key => steady_forgetOne sound _ _ _) enrolled) ?_
      rintro ⟨results, exit⟩
      exact modeless_emitResults _ results _ exit
  · exact Modeless.of_steady (Paired.fail _)
  · refine Modeless.bind (steady_collect (steady_forgetFile Priv sound) args.files) ?_
    rintro ⟨results, exit⟩
    exact modeless_emitResults _ results _ exit

theorem modeless_runEnroll (sound : l.Sound) (opens : l.Opens Priv) (args : BiometricEnrollArgs) :
    Modeless l (runEnroll Priv args : OutputMode → Program Ag Va Te Nat) := by
  have resolved : Steady l (resolvePaths args.files : Program Ag Va Te (List String)) := by
    unfold resolvePaths
    split
    · exact steady_defaultKeyPaths
    · exact Paired.pure rfl
  refine Modeless.bind (steady_isAvailable sound) ?_
  intro available
  refine Modeless.bind (steady_bindingTier sound) ?_
  intro tier
  refine Modeless.ite (fun _ => modeless_emitError _ _) fun _ => ?_
  -- Only a human is told of a keystore that guards little.
  refine Modeless.note ?_
  refine Modeless.bind resolved ?_
  intro paths
  refine Modeless.bind (steady_collect (steady_enrollOne Priv sound opens) paths) ?_
  rintro ⟨results, exit⟩
  exact modeless_emitResults _ results _ exit

end

end Gitway
