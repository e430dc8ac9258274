import Gitway.AddShim.Operands
import Gitway.AddShim.Run
import Gitway.Discreet
import Gitway.KeygenShim.Run

/-!
# The processes of the shims

`gitway-add` and `gitway-keygen` end alike: the code of `run` becomes the status, and an error
is told on standard error. As with `gitway`, no passphrase that they ask for shows, except where
it is handed on.
-/
namespace Gitway

open Lib Lib.Fallible Program
open Config (Anvil)

variable {Ne Ag Va Te : Type} {l : Likeness Va Te}

/-! ### `main` -/

section
variable (An : Type) [Anvil An]

/-- An error, as `main` of a shim reports it. -/
def reportShimError (tool : String) (e : AnvilError) : Command Ne Ag Va Te Unit := do
  Command.eprintln s!"{tool}: error: {(Anvil.describe An e).display}"
  Command.eprintln s!"{tool}: what to do: {(Anvil.describe An e).hint}"
  Command.report (.diag e [])

/-- What a shim gets to see of its arguments. -/
def shimArgs (argv : List OsString) : List String := (argv.drop 1).map OsString.lossy

/-- The `main` that both shims have, each with its own name and its own `run`. -/
def shimMain (tool : String) (run : List String → Program Ag Va Te Nat)
    (status : Except AnvilError UInt32 → UInt8) (argv : List OsString)
    (p : Process Ne Ag Va Te) : UInt8 × Process Ne Ag Va Te :=
  -- `std::env::args` gives up on an argument that is not Unicode.
  if argv.any (fun arg => !arg.isUnicode) then (PANICKED, p.say [] [panicMessage argv])
  else
    match exitWith (run (shimArgs argv)) p with
    | (.ok code, q) => (status (.ok code), q)
    | (.error e, q) => (status (.error e), (reportShimError An tool e q).2)

theorem steady_reportShimError (tool : String) (e : AnvilError) :
    Command.Steady l (reportShimError An tool e : Command Ne Ag Va Te Unit) :=
  Paired.bind_same (Command.steady_eprintln _) fun _ =>
    Paired.bind_same (Command.steady_eprintln _) fun _ => Command.steady_report _

/-- Two processes that end with the same status, and alike. -/
def EndAlike (l : Likeness Va Te) (ended ended' : UInt8 × Process Ne Ag Va Te) : Prop :=
  ended.1 = ended'.1 ∧ ended.2.Like l ended'.2

theorem shimMain_alike (tool : String) {run : List String → Program Ag Va Te Nat}
    (status : Except AnvilError UInt32 → UInt8) (argv : List OsString)
    {p p' : Process Ne Ag Va Te} (like : p.Like l p')
    (alike : Matched Eq (run (shimArgs argv) p.world).1 (run (shimArgs argv) p'.world).1 ∧
      (run (shimArgs argv) p.world).2.Like l.written (run (shimArgs argv) p'.world).2) :
    EndAlike l.written (shimMain An tool run status argv p)
      (shimMain An tool run status argv p') := by
  unfold shimMain
  split
  · exact ⟨rfl, (like.say _ _).written⟩
  have outcome : Matched Eq (exitWith (run (shimArgs argv)) p).1
      (exitWith (run (shimArgs argv)) p').1 := by
    rw [exitWith_run, exitWith_run, alike.1.eq]
    exact Matched.of_eq rfl
  have after : (exitWith (run (shimArgs argv)) p).2.Like l.written
      (exitWith (run (shimArgs argv)) p').2 := by
    rw [exitWith_run, exitWith_run]
    exact { like.written with world := alike.2 }
  cases ran : exitWith (run (shimArgs argv)) p with
  | mk r q =>
    cases ran' : exitWith (run (shimArgs argv)) p' with
    | mk r' q' =>
      rw [ran, ran'] at outcome after
      cases outcome with
      | error e => exact ⟨rfl, (steady_reportShimError An tool e q q' after).2⟩
      | ok same =>
        obtain rfl := same
        exact ⟨rfl, after⟩

end

/-! ### `gitway-add` -/

section
variable {Priv Pub : Type} [AddShim.PublicKeyText Pub] [PrivateKey Priv Pub]
  [AddShim.AgentControl Ag Priv Pub] [Biometric.BiometricBackend Va] [Terminal Te]

namespace AddShim

omit [Biometric.BiometricBackend Va] [Terminal Te] in
theorem steady_fromArgs (args : List String) :
    Steady l (fromArgs args : Program Ag Va Te Parsed) := by
  refine Paired.bind_same (steady_value _) ?_
  intro st
  refine Paired.bind_same ?_ ?_
  · unfold chooseMode
    split
    · exact Paired.pure rfl
    split
    · exact Paired.bind_same steady_defaultKeyPaths fun _ => Paired.pure rfl
    · exact Paired.pure rfl
  intro mode
  split
  · exact Paired.fail _
  · exact Paired.pure rfl

omit [PrivateKey Priv Pub] [Biometric.BiometricBackend Va] [Terminal Te] in
theorem steady_list (full : Bool) (hash : HashAlg) :
    Steady l (list full hash : Program Ag Va Te Nat) := by
  refine Paired.bind_same steady_agent ?_
  intro ids
  split
  · exact Paired.bind_same (Tells.println _).steady fun _ => Paired.pure rfl
  refine Paired.bind_same (Paired.forM ?_ ids) fun _ => Paired.pure rfl
  intro id
  unfold listLine
  split
  · split
    · exact Paired.fail _
    · exact (Tells.println _).steady
  · exact (Tells.println _).steady

omit [Biometric.BiometricBackend Va] [Terminal Te] in
theorem steady_removeOne (path : String) :
    Steady l (removeOne path : Program Ag Va Te Nat) := by
  refine Paired.bind_same (steady_readToString path) ?_
  intro raw
  split
  · exact Paired.fail _
  · exact Paired.bind_same (steady_onAgent _) fun _ =>
      Paired.bind_same (Tells.println _).steady fun _ => Paired.pure rfl

omit [PublicKeyText Pub] [PrivateKey Priv Pub] [Biometric.BiometricBackend Va] [Terminal Te] in
theorem steady_removeAll : Steady l (removeAll : Program Ag Va Te Nat) :=
  Paired.bind_same (steady_onAgent _) fun _ =>
    Paired.bind_same (Tells.println _).steady fun _ => Paired.pure rfl

/-- A passphrase that is piped in is the same on both sides. -/
theorem likewise_shimPromptPassphrase (sound : l.Sound) (itself : ∀ p, l.passphrase p p)
    (path : String) :
    Likewise l l.passphrase (Agent.shimPromptPassphrase path : Program Ag Va Te String)
      (Agent.shimPromptPassphrase path) := by
  have piped : Steady l
      (Agent.passphraseFromStdinIfNotTty : Program Ag Va Te (Option String)) := by
    refine Paired.bind_same steady_environment ?_
    intro env
    split
    · exact Paired.pure rfl
    refine Paired.bind_same steady_readStdin ?_
    intro read
    split
    · exact Paired.pure rfl
    · exact Paired.pure rfl
  refine Paired.bind_same piped ?_
  rintro (_ | given)
  · refine Paired.bind (likewise_onTerminal (sound.promptPassword _)) ?_
    intro typed typed' matched
    refine Paired.query fun _ _ _ => ?_
    cases matched with
    | error e => exact Matched.error _
    | ok related => exact Matched.ok related
  · exact Paired.pure (itself given)

theorem steady_shimAdd (sound : l.Sound) (opens : l.Opens Priv) (itself : ∀ p, l.passphrase p p)
    (paths : List String) (lifetime : Option Nat) (confirm : Bool)
    (unlock : Biometric.UnlockMode) :
    Steady l (Agent.shimAdd paths lifetime confirm unlock : Program Ag Va Te Nat) := by
  have loads (path : String) (key : Priv) (unlock : Biometric.UnlockMode) (known : l.Knows key) :
      Steady l (Agent.loadAndDecrypt path key unlock : Program Ag Va Te Priv) :=
    steady_loadKey sound _ (likewise_shimPromptPassphrase sound itself) _ path known unlock
  refine Paired.bind_same (steady_agent (f := fun ag => .ok (Agent.loadedIdentities ag))) ?_
  intro loaded
  refine Paired.bind_same (Paired.foldlM ?_ paths rfl) fun _ => Paired.pure rfl
  rintro acc _ path rfl
  exact steady_addOne opens loads (fun _ _ => (Tells.println _).steady)
    (fun _ _ => (Tells.println _).steady) loaded lifetime confirm unlock acc path

/-- The passphrase of the lock is handed to the agent. -/
def Mode.HandsOver : Mode → Prop
  | .lock | .unlock => True
  | _ => False

theorem steady_perform (sound : l.Sound) (opens : l.Opens Priv) (itself : ∀ p, l.passphrase p p)
    {parsed : Parsed} (kept : ¬ parsed.mode.HandsOver) :
    Steady l (perform parsed : Program Ag Va Te Nat) := by
  unfold perform
  cases chosen : parsed.mode with
  | list full => exact steady_list full parsed.hash
  | removeOne path => exact steady_removeOne path
  | removeAll => exact steady_removeAll
  | lock => exact absurd (chosen ▸ trivial : parsed.mode.HandsOver) kept
  | unlock => exact absurd (chosen ▸ trivial : parsed.mode.HandsOver) kept
  | add paths => exact steady_shimAdd sound opens itself paths _ _ _

theorem run_alike (sound : l.Sound) (opens : l.Opens Priv) (itself : ∀ p, l.passphrase p p)
    {args : List String} {w w' : World Ag Va Te} (like : w.Like l w')
    (kept : ∀ parsed, (fromArgs args w).1 = .ok parsed → ¬ parsed.mode.HandsOver) :
    Matched Eq (run args w).1 (run args w').1 ∧ (run args w).2.Like l (run args w').2 := by
  unfold run
  split
  · exact Paired.bind_same (Tells.println usage).steady (fun _ => Paired.pure rfl) w w' like
  -- What was parsed is known of the one world that the run starts in.
  have parsing : Paired (fun v v' => v.Like l v' ∧ v = w) (World.Like l)
      (fun parsed parsed' => parsed = parsed' ∧ ¬ parsed.mode.HandsOver)
      (fromArgs args : Program Ag Va Te Parsed) (fromArgs args) := by
    rintro v v' ⟨both, rfl⟩
    obtain ⟨outcome, after⟩ := steady_fromArgs args v v' both
    exact ⟨outcome.knowing kept, after⟩
  refine Paired.bind_to parsing (fun _ _ like => like) ?_ w w' ⟨like, rfl⟩
  rintro parsed _ ⟨rfl, kept⟩
  refine Paired.bind_same steady_connect ?_
  intro _
  exact steady_perform sound opens itself kept

end AddShim

end

/-! ### `gitway-keygen` -/

section
variable {Priv Pub Signers Sig : Type} [PublicKey Pub] [PrivateKey Priv Pub] [Terminal Te]
  [Biometric.BiometricBackend Va]

namespace KeygenShim

open Keygen

/-- A new passphrase that was typed goes into a key file, and so may the old one with it. -/
def Parsed.HandsOver (p : Parsed) : Prop :=
  p.mode = .generateKey ∧ p.newPassphrase = none ∨
    p.mode = .changePassphrase ∧ (p.oldPassphrase = none ∨ p.newPassphrase = none)

omit [Terminal Te] [Biometric.BiometricBackend Va] in
theorem steady_required {α : Type} (given : Option α) (message : String) :
    Steady l (required given message : Program Ag Va Te α) := by
  cases given with
  | none => exact Paired.fail _
  | some a => exact Paired.pure rfl

omit [Terminal Te] [Biometric.BiometricBackend Va] in
theorem steady_writeSigOutput (free : l.Free) (armored : ByteArray) (sigOut : Option String) :
    Steady l (writeSigOutput armored sigOut : Program Ag Va Te Nat) := by
  cases sigOut with
  | none => exact Paired.bind_same (steady_writeStdout armored) fun _ => Paired.pure rfl
  | some path =>
    exact Paired.bind_same (steady_writeFile free path armored) fun _ => Paired.pure rfl

omit [Terminal Te] [Biometric.BiometricBackend Va] in
theorem steady_readMessage (p : Parsed) :
    Steady l (readMessage p : Program Ag Va Te (ByteArray × Option String)) := by
  unfold readMessage
  split
  · exact Paired.bind_same (steady_files (f := fun fs => io (fs.read _))) fun _ => Paired.pure rfl
  · exact Paired.bind_same steady_readStdinBytes fun _ => Paired.pure rfl

/-- A passphrase that is the same on both sides, or that either may have typed. -/
def Typed (l : Likeness Va Te) (p p' : String) : Prop := p = p' ∨ l.passphrase p p'

omit [PublicKey Pub] [Terminal Te] [Biometric.BiometricBackend Va] in
theorem likewise_decryptTyped {key : Priv} (known : l.Knows key) {p p' : String}
    (typed : Typed l p p') (refused : String → AnvilError) :
    Likewise l Eq
      (query fun _ => (PrivateKey.decrypt key p).mapError refused : Program Ag Va Te Priv)
      (query fun _ => (PrivateKey.decrypt key p').mapError refused) := by
  rcases typed with rfl | related
  · exact steady_value _
  · exact likewise_decrypt known related refused

theorem likewise_promptFor (sound : l.Sound) (prompt : String) :
    Likewise l l.passphrase (promptFor prompt : Program Ag Va Te String) (promptFor prompt) := by
  refine Paired.bind (likewise_onTerminal (sound.promptPassword prompt)) ?_
  intro typed typed' matched
  refine Paired.query fun _ _ _ => ?_
  cases matched with
  | error e => exact Matched.error _
  | ok related => exact Matched.ok related

theorem likewise_oldPassphrase (sound : l.Sound) (given : Option String) (prompt : String) :
    Likewise l (Typed l) (oldPassphrase given prompt : Program Ag Va Te String)
      (oldPassphrase given prompt) := by
  cases given with
  | some s => exact Paired.pure (Or.inl rfl)
  | none => exact (likewise_promptFor sound prompt).mono fun _ _ related => Or.inr related

theorem likewise_keyPassphrase (sound : l.Sound) (path : String) (oldPass : Option String) :
    Likewise l (Typed l) (keyPassphrase path oldPass : Program Ag Va Te String)
      (keyPassphrase path oldPass) := by
  cases oldPass with
  | some s => exact Paired.pure (Or.inl rfl)
  | none =>
    refine Paired.bind (likewise_onTerminal (sound.promptPassword _)) ?_
    rintro _ _ (⟨e⟩ | ⟨related⟩)
    · exact Paired.fail _
    · exact Paired.pure (Or.inr related)

omit [PublicKey Pub] in
theorem steady_loadAndDecrypt (sound : l.Sound) (opens : l.Opens Priv) (path : String)
    (oldPass : Option String) :
    Steady l (loadAndDecrypt path oldPass : Program Ag Va Te Priv) := by
  refine Paired.bind (likewise_readPem opens path) ?_
  rintro pem _ ⟨rfl, known⟩
  refine Paired.bind (likewise_parsed known _) ?_
  rintro key _ ⟨rfl, opened⟩
  split
  · exact Paired.pure rfl
  · exact Paired.bind (likewise_keyPassphrase sound path oldPass) fun _ _ typed =>
      likewise_decryptTyped opened typed _

omit [PublicKey Pub] in
theorem steady_runExtractPublic [KeySize Pub] (sound : l.Sound) (opens : l.Opens Priv)
    (p : Parsed) : Steady l (runExtractPublic Priv p : Program Ag Va Te Nat) := by
  refine Paired.bind_same (steady_required _ _) ?_
  intro file
  refine Paired.bind (likewise_readPem opens file) ?_
  rintro pem _ ⟨rfl, known⟩
  refine Paired.bind (likewise_parsed known _) ?_
  rintro key _ ⟨rfl, opened⟩
  -- Both branches end in the same lines.
  have printed (plain : Priv) : Steady l (do
      let line ← query fun _ =>
        (KeyDetails.toOpenssh (PrivateKey.publicKey plain)).mapError fun e =>
          .signing s!"serialize failed: {e}"
      println line
      return 0 : Program Ag Va Te Nat) :=
    Paired.bind_same (steady_value _) fun line =>
      Paired.bind_same (Tells.println line).steady fun _ => Paired.pure rfl
  dsimp only
  split
  · refine Paired.bind (likewise_oldPassphrase sound _ _) ?_
    intro pp pp' typed
    exact Paired.bind_same (likewise_decryptTyped opened typed _) printed
  · exact Paired.bind_same (Paired.pure rfl) printed

omit [Terminal Te] [Biometric.BiometricBackend Va] in
theorem steady_trySignViaAgent [Agent Ag Priv Pub] (keyPath : String) (data : ByteArray)
    (nameSpace : String) :
    Steady l (trySignViaAgent keyPath data nameSpace : Program Ag Va Te (Option String)) := by
  refine Paired.bind_same (steady_query fun _ _ same => ?_) ?_
  · exact congrArg (fun s => Except.ok (agentKey s.1 s.2.1 keyPath s.2.2)) same
  intro held
  cases held with
  | none => exact Paired.pure rfl
  | some pubkey => exact Paired.bind_same (steady_onAgent _) fun _ => Paired.pure rfl

omit [Biometric.BiometricBackend Va] in
theorem steady_runSign [Agent Ag Priv Pub] [SshSig Priv Sig] (signs : Parsed)
    (loads : ∀ path oldPass, Steady l (loadAndDecrypt path oldPass : Program Ag Va Te Priv)) :
    Paired (World.Like l) (World.Like l.written) Eq (runSign signs : Program Ag Va Te Nat)
      (runSign signs) := by
  have weaker (w w' : World Ag Va Te) (like : w.Like l w') : w.Like l.written w' := like.written
  have written (armored : String) (sigOut : Option String) :
      Paired (World.Like l) (World.Like l.written) Eq
        (writeSigOutput armored.toUTF8 sigOut : Program Ag Va Te Nat)
        (writeSigOutput armored.toUTF8 sigOut) :=
    (steady_writeSigOutput l.free_written _ sigOut).weaken weaker fun _ _ like => like
  unfold runSign
  split
  · exact (Paired.fail _).weaken weaker fun _ _ like => like
  · exact (Paired.fail _).weaken weaker fun _ _ like => like
  rename_i file ns _ _
  refine Paired.bind_to (steady_readMessage signs) weaker ?_
  rintro ⟨data, sigOut⟩ _ rfl
  refine Paired.bind_to (steady_trySignViaAgent file data ns) weaker ?_
  rintro armored _ rfl
  cases armored with
  | some armored => exact written armored sigOut
  | none =>
    refine Paired.bind_to (steady_files (f := fun fs => resolveSigningKeyPath Priv fs file))
      weaker ?_
    rintro keyFile _ rfl
    refine Paired.bind_to (loads keyFile signs.oldPassphrase) weaker ?_
    rintro key _ rfl
    refine Paired.bind_to (steady_value _) weaker ?_
    rintro sig _ rfl
    refine Paired.bind_to (steady_value _) weaker ?_
    rintro armored _ rfl
    exact written armored sigOut

omit [Biometric.BiometricBackend Va] in
/-- A passphrase that is given is the same on both sides. -/
theorem steady_newPassphrase {given : Option String} (isGiven : given ≠ none) (prompt : String) :
    Steady l (newPassphrase given prompt : Program Ag Va Te (Option String)) := by
  cases given with
  | none => exact absurd rfl isGiven
  | some s => exact Paired.pure rfl

omit [Biometric.BiometricBackend Va] in
theorem steady_runGenerate [Keygen.Writer Priv] (free : l.Free) {p : Parsed}
    (given : p.newPassphrase ≠ none) : Steady l (runGenerate Priv p : Program Ag Va Te Nat) := by
  refine Paired.bind_same (steady_required _ _) ?_
  intro file
  refine Paired.bind_same (steady_value _) ?_
  intro kind
  refine Paired.bind_same steady_environment ?_
  intro env
  refine Paired.bind_same (steady_newPassphrase given _) ?_
  intro passphrase
  refine Paired.bind_same (steady_files (f := Writer.generate kind p.bits _)) ?_
  intro key
  refine Paired.bind_same (steady_onFiles free _) ?_
  intro _
  have line (s : String) : Steady l (println s : Program Ag Va Te Unit) := (Tells.println s).steady
  refine Paired.bind_same (line _) fun _ => Paired.bind_same (line _) fun _ => ?_
  exact Paired.bind_same (line _) fun _ => Paired.bind_same (line _) fun _ => Paired.pure rfl

omit [Biometric.BiometricBackend Va] in
theorem steady_runChangePassphrase [Keygen.Writer Priv] (free : l.Free) {p : Parsed}
    (old : p.oldPassphrase ≠ none) (new : p.newPassphrase ≠ none) :
    Steady l (runChangePassphrase Priv p : Program Ag Va Te Nat) := by
  have given (prompt : String) :
      Steady l (oldPassphrase p.oldPassphrase prompt : Program Ag Va Te String) := by
    cases given : p.oldPassphrase with
    | none => exact absurd given old
    | some s => exact Paired.pure rfl
  refine Paired.bind_same (steady_required _ _) ?_
  intro file
  refine Paired.bind_same (given _) ?_
  intro _
  refine Paired.bind_same (steady_newPassphrase new _) ?_
  intro _
  exact Paired.bind_same (steady_onFiles free _) fun _ =>
    Paired.bind_same (Tells.println _).steady fun _ => Paired.pure rfl

omit [Terminal Te] [Biometric.BiometricBackend Va] in
theorem steady_runFingerprint [KeySize Pub] (p : Parsed) :
    Steady l (runFingerprint Priv p : Program Ag Va Te Nat) := by
  refine Paired.bind_same (steady_required _ _) ?_
  intro file
  refine Paired.bind_same (steady_loadPublic Priv _ file) ?_
  intro pub
  exact Paired.bind_same (Tells.println _).steady fun _ => Paired.pure rfl

section
variable [Principals Priv Signers]

omit [Terminal Te] [Biometric.BiometricBackend Va] in
theorem steady_runVerify (p : Parsed) : Steady l (runVerify Priv p : Program Ag Va Te Nat) := by
  refine Paired.bind_same (steady_required _ _) fun ns => ?_
  refine Paired.bind_same (steady_required _ _) fun signer => ?_
  refine Paired.bind_same (steady_required _ _) fun sigPath => ?_
  refine Paired.bind_same (steady_required _ _) fun allowedPath => ?_
  refine Paired.bind_same (steady_readToString sigPath) fun armored => ?_
  refine Paired.bind_same (steady_files (f := Signatures.load Priv allowedPath)) fun allowed => ?_
  refine Paired.bind_same steady_readStdinBytes fun data => ?_
  refine Paired.bind_same (steady_value _) fun verified => ?_
  exact Paired.bind_same (Tells.println _).steady fun _ => Paired.pure rfl

omit [Terminal Te] [Biometric.BiometricBackend Va] in
theorem steady_runCheckNovalidate (p : Parsed) :
    Steady l (runCheckNovalidate Priv p : Program Ag Va Te Nat) := by
  refine Paired.bind_same (steady_required _ _) fun ns => ?_
  refine Paired.bind_same (steady_required _ _) fun sigPath => ?_
  refine Paired.bind_same (steady_readToString sigPath) fun armored => ?_
  refine Paired.bind_same steady_readStdinBytes fun data => ?_
  refine Paired.bind_same (steady_value _) fun _ => ?_
  exact Paired.bind_same (Tells.println _).steady fun _ => Paired.pure rfl

omit [Terminal Te] [Biometric.BiometricBackend Va] in
theorem steady_runFindPrincipals (p : Parsed) :
    Steady l (runFindPrincipals Priv p : Program Ag Va Te Nat) := by
  refine Paired.bind_same (steady_required _ _) fun sigPath => ?_
  refine Paired.bind_same (steady_required _ _) fun allowedPath => ?_
  refine Paired.bind_same (steady_readToString sigPath) fun armored => ?_
  refine Paired.bind_same (steady_files (f := Signatures.load Priv allowedPath)) fun allowed => ?_
  refine Paired.bind_same (steady_value _) fun principals => ?_
  exact Paired.bind_same (Paired.forM (fun _ => (Tells.println _).steady) principals) fun _ =>
    Paired.pure rfl

end

variable [Agent Ag Priv Pub] [SshSig Priv Sig] [Keygen.Writer Priv] [KeySize Pub]
  [Principals Priv Signers]

theorem paired_perform (sound : l.Sound) (opens : l.Opens Priv) {p : Parsed}
    (kept : ¬ p.HandsOver) :
    Paired (World.Like l) (World.Like l.written) Eq (perform p : Program Ag Va Te Nat)
      (perform p) := by
  have fixed {x : Program Ag Va Te Nat} (steady : Steady l x) :
      Paired (World.Like l) (World.Like l.written) Eq x x :=
    steady.weaken (fun _ _ like => like) fun _ _ like => like.written
  have writes {x : Program Ag Va Te Nat} (steady : Steady l.written x) :
      Paired (World.Like l) (World.Like l.written) Eq x x :=
    steady.weaken (fun _ _ like => like.written) fun _ _ like => like
  unfold perform
  cases chosen : p.mode with
  | generateKey =>
    exact writes (steady_runGenerate l.free_written fun typed => kept (Or.inl ⟨chosen, typed⟩))
  | printFingerprint => exact fixed (steady_runFingerprint p)
  | extractPublic => exact fixed (steady_runExtractPublic sound opens p)
  | changePassphrase =>
    exact writes (steady_runChangePassphrase l.free_written
      (fun typed => kept (Or.inr ⟨chosen, Or.inl typed⟩))
      fun typed => kept (Or.inr ⟨chosen, Or.inr typed⟩))
  | sshSigSign => exact steady_runSign p (steady_loadAndDecrypt sound opens)
  | sshSigVerify => exact fixed (steady_runVerify p)
  | sshSigCheckNoValidate => exact fixed (steady_runCheckNovalidate p)
  | sshSigFindPrincipals => exact fixed (steady_runFindPrincipals p)

theorem paired_run (sound : l.Sound) (opens : l.Opens Priv) {args : List String}
    (kept : ∀ parsed, fromArgs args = .ok parsed → ¬ parsed.HandsOver) :
    Paired (World.Like l) (World.Like l.written) Eq (run args : Program Ag Va Te Nat)
      (run args) := by
  have weaker (w w' : World Ag Va Te) (like : w.Like l w') : w.Like l.written w' := like.written
  unfold run
  split
  · exact Paired.bind_to (Tells.println usage).steady weaker fun _ _ _ =>
      (Paired.pure rfl).weaken weaker fun _ _ like => like
  have parsing : Likewise l (fun parsed parsed' => parsed = parsed' ∧ ¬ parsed.HandsOver)
      (query fun _ => fromArgs args : Program Ag Va Te Parsed) (query fun _ => fromArgs args) :=
    Paired.query fun _ _ _ => (Matched.of_eq rfl).knowing kept
  refine Paired.bind_to parsing weaker ?_
  rintro parsed _ ⟨rfl, kept⟩
  exact paired_perform sound opens kept

end KeygenShim

end

/-! ### Both shims -/

section
variable (An : Type) [Anvil An]

def AddShim.main {Priv Pub : Type} [AddShim.PublicKeyText Pub] [PrivateKey Priv Pub]
    [AddShim.AgentControl Ag Priv Pub] [Biometric.BiometricBackend Va] [Terminal Te] :
    List OsString → Process Ne Ag Va Te → UInt8 × Process Ne Ag Va Te :=
  shimMain An "gitway-add" AddShim.run (Exit.addMain (exitCode An))

def KeygenShim.main {Priv Pub Signers Sig : Type} [PublicKey Pub] [PrivateKey Priv Pub]
    [Agent Ag Priv Pub] [Terminal Te] [KeygenShim.SshSig Priv Sig] [Keygen.Writer Priv]
    [KeygenShim.KeySize Pub] [KeygenShim.Principals Priv Signers] :
    List OsString → Process Ne Ag Va Te → UInt8 × Process Ne Ag Va Te :=
  shimMain An "gitway-keygen" KeygenShim.run (Exit.keygenMain (exitCode An))

variable {Priv Pub Signers Sig : Type} [AddShim.PublicKeyText Pub] [PrivateKey Priv Pub]
  [AddShim.AgentControl Ag Priv Pub] [Biometric.BiometricBackend Va] [Terminal Te]
  [KeygenShim.SshSig Priv Sig] [Keygen.Writer Priv] [KeygenShim.KeySize Pub]
  [KeygenShim.Principals Priv Signers]

/-- **Passphrases of the shims**: neither shim tells a passphrase from another one that opens the
same keys, unless it is to hand it on. -/
theorem shims_keep_passphrases (sound : l.Sound) (opens : l.Opens Priv)
    (itself : ∀ p, l.passphrase p p) (argv : List OsString) {p p' : Process Ne Ag Va Te}
    (like : p.Like l p') :
    ((∀ parsed, (AddShim.fromArgs (shimArgs argv) p.world).1 = .ok parsed →
        ¬ parsed.mode.HandsOver) →
      EndAlike l.written (AddShim.main An argv p) (AddShim.main An argv p')) ∧
    ((∀ parsed, KeygenShim.fromArgs (shimArgs argv) = .ok parsed → ¬ parsed.HandsOver) →
      EndAlike l.written (KeygenShim.main An argv p) (KeygenShim.main An argv p')) := by
  constructor
  · intro kept
    have alike := AddShim.run_alike sound opens itself like.world kept
    exact shimMain_alike An _ _ argv like ⟨alike.1, alike.2.written⟩
  · intro kept
    exact shimMain_alike An _ _ argv like
      (KeygenShim.paired_run sound opens kept p.world p'.world like.world)

end

/-! ### A wrong passphrase -/

open Reference

local instance sizeless : KeygenShim.KeySize RefPublic where
  kind _ := .ed25519
  modulus _ := none

local instance anyPrincipal : KeygenShim.Principals RefPrivate (List String) where
  checkNovalidate _ _ _ := .ok ()
  findPrincipals _ signers _ := .ok signers
  findPrincipalsAnyNs _ signers := .ok signers

/-- Neither `gitway-add id` nor `gitway-keygen -f id` of a key shows which wrong passphrase was
typed for it. -/
theorem shims_keep_guesses :
    EndAlike guessing.written
        (AddShim.main RefAnvil (argv ["gitway-add", "id"]) (guesser "guess"))
        (AddShim.main RefAnvil (argv ["gitway-add", "id"]) (guesser "other")) ∧
      EndAlike guessing.written
        (KeygenShim.main RefAnvil (argv ["gitway-keygen", "-y", "-f", "id"]) (guesser "guess"))
        (KeygenShim.main RefAnvil (argv ["gitway-keygen", "-y", "-f", "id"])
          (guesser "other")) := by
  have itself (p : String) : guessing.passphrase p p := Or.inl rfl
  have adding := (shims_keep_passphrases RefAnvil guessing_sound guessing_opens itself
    (argv ["gitway-add", "id"]) guesser_alike).1
  have extracting := (shims_keep_passphrases RefAnvil guessing_sound guessing_opens itself
    (argv ["gitway-keygen", "-y", "-f", "id"]) guesser_alike).2
  refine ⟨adding ?_, extracting ?_⟩
  · rintro _ ⟨rfl⟩ hands
    exact hands
  · rintro _ ⟨rfl⟩ (⟨generates, _⟩ | ⟨changes, _⟩)
    · cases generates
    · cases changes

end Gitway
