import Gitway.Biometric.Report

/-!
# Which batches fail

What one file or one fingerprint comes to is said in terms of the file, of what is typed and
of the answers of the keystore. A batch ends with a code other than zero exactly when all of
its items were handled and not all of them well.
-/
namespace Gitway.Biometric

open Lib

variable {Priv Pub Ag Va Te : Type}

/-- What an item comes to: whether it went well, and the world behind it. -/
abbrev ItemRule (α Ag Va Te : Type) : Type := α → World Ag Va Te → Bool → World Ag Va Te → Prop

/-- All items were handled, and whether all went well. -/
def Handled {α : Type} (rule : ItemRule α Ag Va Te) : List α → World Ag Va Te → Bool → Prop
  | [], _, well => well = true
  | item :: rest, w, well =>
    ∃ ok v later, rule item w ok v ∧ Handled rule rest v later ∧ well = (ok && later)

/-- A failure has a code of its own that fits into a byte. -/
def Outcome.Coded (outcome : Outcome) : Prop :=
  outcome.ok = true ∨ (outcome.exitCode ≠ 0 ∧ outcome.exitCode ≤ 255)

theorem coded_succeeded (target fingerprint : String) :
    (Outcome.succeeded target fingerprint).Coded := Or.inl rfl

theorem coded_failed (target message : String) {code : Nat} (nonzero : code ≠ 0)
    (small : code ≤ 255) : (Outcome.failed target message code).Coded := Or.inr ⟨nonzero, small⟩

theorem exitFor_coded (error : BiometricError) : exitFor error ≠ 0 ∧ exitFor error ≤ 255 := by
  cases error <;> simp [exitFor, EXIT_NOT_FOUND, EXIT_USER_DECLINED, EXIT_NEEDS_INTERACTIVE,
    EXIT_GENERAL]

/-! ### Batches -/

section
variable {α : Type} {one : α → Program Ag Va Te Outcome} {rule : ItemRule α Ag Va Te}

/-- The rule says of every item what `one` makes of it. -/
def Follows (one : α → Program Ag Va Te Outcome) (rule : ItemRule α Ag Va Te) : Prop :=
  ∀ item w ok v, (∃ outcome, one item w = (.ok outcome, v) ∧ outcome.ok = ok) ↔ rule item w ok v

/-- The code at the end is not zero when it was not so before, or when an item failed. -/
theorem folded_nonzero_iff (follows : Follows one rule)
    (coded : ∀ item, Fallible.Returns Outcome.Coded (one item)) (items : List α)
    (acc : List Outcome × Nat) (w : World Ag Va Te) :
    Fallible.Yields (fun acc' => acc'.2 ≠ 0) (items.foldlM (collectOne one) acc) w ↔
      ∃ well, Handled rule items w well ∧ (well = false ∨ acc.2 ≠ 0) := by
  induction items generalizing acc w with
  | nil =>
    rw [List.foldlM_nil, Fallible.yields_pure_iff]
    simp [Handled]
  | cons item rest ih =>
    -- The code in between, when the first item came to this outcome.
    have between (outcome : Outcome) (named : outcome.Coded) :
        (if outcome.ok then acc.2 else outcome.exitCode) ≠ 0 ↔
          outcome.ok = false ∨ acc.2 ≠ 0 := by
      cases good : outcome.ok with
      | true => simp
      | false =>
        have nonzero := named.resolve_left (by simp [good])
        simp [nonzero.1]
    have round (outcome : Outcome) {w₁ : World Ag Va Te}
        (handled : one item w = (.ok outcome, w₁)) :
        collectOne one acc item w =
          (.ok (acc.1 ++ [outcome], if outcome.ok then acc.2 else outcome.exitCode), w₁) := by
      unfold collectOne
      rw [Fallible.bind_of_ok handled]
      rfl
    rw [List.foldlM_cons]
    constructor
    · intro yields
      obtain ⟨acc₁, w₁, first, later⟩ := Fallible.yields_bind_iff.mp yields
      obtain ⟨outcome, w₂, handled, _⟩ := Fallible.bind_ok_iff.mp first
      rw [round outcome handled, Prod.mk.injEq, Except.ok.injEq] at first
      obtain ⟨rfl, rfl⟩ := first
      obtain ⟨well, others, failed⟩ := (ih _ _).mp later
      have step := (follows item w outcome.ok w₂).mp ⟨outcome, handled, rfl⟩
      refine ⟨outcome.ok && well, ⟨outcome.ok, w₂, well, step, others, rfl⟩, ?_⟩
      rw [between outcome (coded item w outcome w₂ handled)] at failed
      rw [Bool.and_eq_false_iff]
      tauto
    · rintro ⟨well, ⟨ok, w₁, later, step, others, rfl⟩, failed⟩
      obtain ⟨outcome, handled, rfl⟩ := (follows item w ok w₁).mpr step
      rw [Fallible.yields_bind_of_ok (round outcome handled), ih]
      refine ⟨later, others, ?_⟩
      rw [between outcome (coded item w outcome w₁ handled)]
      rw [Bool.and_eq_false_iff] at failed
      tauto

theorem collect_nonzero_iff (follows : Follows one rule)
    (coded : ∀ item, Fallible.Returns Outcome.Coded (one item)) (items : List α)
    (w : World Ag Va Te) :
    Fallible.Yields (fun report => report.2 ≠ 0) (collect one items) w ↔
      Handled rule items w false := by
  unfold collect
  rw [folded_nonzero_iff follows coded]
  simp [EXIT_OK]

theorem returns_collect (coded : ∀ item, Fallible.Returns Outcome.Coded (one item))
    (items : List α) :
    Fallible.Returns (fun report => report.2 ≤ 255) (collect one items) := by
  refine Fallible.Returns.foldlM ?_ items (by simp [EXIT_OK])
  intro acc item small w acc' v round
  obtain ⟨outcome, w₁, handled, returned⟩ := Fallible.bind_ok_iff.mp round
  simp only [Fallible.pure_run, Prod.mk.injEq, Except.ok.injEq] at returned
  obtain ⟨rfl, rfl⟩ := returned
  cases good : outcome.ok with
  | true => simpa [good] using small
  | false =>
    have named := (coded item w outcome w₁ handled).resolve_left (by simp [good])
    simpa [good] using named.2

end

/-! ### Items -/

section
variable [PublicKey Pub] [PrivateKey Priv Pub] [BiometricBackend Va]

/-- The entry of a key, deleted or not. -/
inductive Deleting (id : String) (w : World Ag Va Te) : Bool → World Ag Va Te → Prop where
  | deleted (answer : (BiometricVault.delete id w.vault).1 = .ok ()) :
    Deleting id w true { w with vault := (BiometricVault.delete id w.vault).2 }
  | refused (e : BiometricError) (answer : (BiometricVault.delete id w.vault).1 = .error e) :
    Deleting id w false { w with vault := (BiometricVault.delete id w.vault).2 }

variable (Priv) in
/-- A file whose key is to be forgotten. -/
inductive Forgetting (path : String) (w : World Ag Va Te) : Bool → World Ag Va Te → Prop where
  | unreadable (message : String) (file : keyIn Priv w.fs path = .error message) :
    Forgetting path w false w
  | read (key : Priv) (file : keyIn Priv w.fs path = .ok key) (ok : Bool) (v : World Ag Va Te)
    (entry : Deleting (keyId key) w ok v) : Forgetting path w ok v

variable [Terminal Te] in
variable (Priv) in
/-- A file whose key is to be enrolled. -/
inductive Enrolling (path : String) (w : World Ag Va Te) : Bool → World Ag Va Te → Prop where
  | unreadable (message : String) (file : keyIn Priv w.fs path = .error message) :
    Enrolling path w false w
  | unprotected (key : Priv) (file : keyIn Priv w.fs path = .ok key)
    (plain : PrivateKey.isEncrypted key = false) : Enrolling path w false w
  | mistyped (key : Priv) (file : keyIn Priv w.fs path = .ok key)
    (encrypted : PrivateKey.isEncrypted key = true) (pass : String) (v : World Ag Va Te)
    (typed : Prompt.promptPassphraseInteractive path w = (.ok pass, v)) (e : String)
    (opened : PrivateKey.decrypt key pass = .error e) : Enrolling path w false v
  | refused (key : Priv) (file : keyIn Priv w.fs path = .ok key)
    (encrypted : PrivateKey.isEncrypted key = true) (pass : String) (v : World Ag Va Te)
    (typed : Prompt.promptPassphraseInteractive path w = (.ok pass, v)) (plain : Priv)
    (opened : PrivateKey.decrypt key pass = .ok plain) (e : BiometricError)
    (answer : (BiometricVault.store (keyId key) pass v.vault).1 = .error e) :
    Enrolling path w false { v with vault := (BiometricVault.store (keyId key) pass v.vault).2 }
  | stored (key : Priv) (file : keyIn Priv w.fs path = .ok key)
    (encrypted : PrivateKey.isEncrypted key = true) (pass : String) (v : World Ag Va Te)
    (typed : Prompt.promptPassphraseInteractive path w = (.ok pass, v)) (plain : Priv)
    (opened : PrivateKey.decrypt key pass = .ok plain)
    (answer : (BiometricVault.store (keyId key) pass v.vault).1 = .ok ()) :
    Enrolling path w true { v with vault := (BiometricVault.store (keyId key) pass v.vault).2 }

section
variable {w v : World Ag Va Te} {ok : Bool}

omit [PublicKey Pub] [PrivateKey Priv Pub] in
theorem forgetOne_iff (target id fingerprint : String) :
    (∃ outcome, forgetOne target id fingerprint w = (.ok outcome, v) ∧ outcome.ok = ok) ↔
      Deleting id w ok v := by
  unfold forgetOne
  rw [Fallible.bind_of_ok (Program.onVault_run w _)]
  cases answer : (BiometricVault.delete id w.vault).1 with
  | ok done =>
    constructor
    · rintro ⟨outcome, handled, rfl⟩
      simp only [Fallible.pure_run, Prod.mk.injEq, Except.ok.injEq] at handled
      obtain ⟨rfl, rfl⟩ := handled
      exact .deleted answer
    · rintro (_ | ⟨e, refused⟩)
      · exact ⟨_, rfl, rfl⟩
      · simp [answer] at refused
  | error e =>
    constructor
    · rintro ⟨outcome, handled, rfl⟩
      simp only [Fallible.pure_run, Prod.mk.injEq, Except.ok.injEq] at handled
      obtain ⟨rfl, rfl⟩ := handled
      exact .refused e answer
    · rintro (deleted | _)
      · simp [answer] at deleted
      · exact ⟨_, rfl, rfl⟩

variable (Priv) in
theorem forgetFile_iff (path : String) :
    (∃ outcome, forgetFile Priv path w = (.ok outcome, v) ∧ outcome.ok = ok) ↔
      Forgetting Priv path w ok v := by
  have read : readKey Priv path w = (.ok (keyIn Priv w.fs path), w) := rfl
  unfold forgetFile
  rw [Fallible.bind_of_ok read]
  -- Only a file that could be read leads to the keystore.
  cases file : keyIn Priv w.fs path with
  | error message =>
    constructor
    · rintro ⟨outcome, handled, rfl⟩
      simp only [Fallible.pure_run, Prod.mk.injEq, Except.ok.injEq] at handled
      obtain ⟨rfl, rfl⟩ := handled
      exact .unreadable message file
    · rintro (⟨_, _⟩ | ⟨key, found, ok, v, entry⟩)
      · exact ⟨_, rfl, rfl⟩
      · rw [file] at found
        exact absurd found (by simp)
  | ok key =>
    dsimp only
    rw [forgetOne_iff]
    constructor
    · exact fun entry => .read key file ok v entry
    · rintro (⟨message, found⟩ | ⟨key', found, ok, v, entry⟩)
      · rw [file] at found
        exact absurd found (by simp)
      · rw [file, Except.ok.injEq] at found
        exact found ▸ entry

variable [Terminal Te]

variable (Priv) in
theorem enrollOne_iff (path : String) :
    (∃ outcome, enrollOne Priv path w = (.ok outcome, v) ∧ outcome.ok = ok) ↔
      Enrolling Priv path w ok v := by
  have read : readKey Priv path w = (.ok (keyIn Priv w.fs path), w) := rfl
  unfold enrollOne
  rw [Fallible.bind_of_ok read]
  constructor
  -- Down the steps of the source, each of which can be the last.
  · rintro ⟨outcome, handled, rfl⟩
    cases file : keyIn Priv w.fs path with
    | error message =>
      simp only [file, Fallible.pure_run, Prod.mk.injEq, Except.ok.injEq] at handled
      obtain ⟨rfl, rfl⟩ := handled
      exact .unreadable message file
    | ok key =>
      cases encrypted : PrivateKey.isEncrypted key with
      | false =>
        simp only [file, encrypted, Bool.not_false, if_true, Fallible.pure_run, Prod.mk.injEq,
          Except.ok.injEq] at handled
        obtain ⟨rfl, rfl⟩ := handled
        exact .unprotected key file encrypted
      | true =>
        simp only [file, encrypted, Bool.not_true, Bool.false_eq_true, if_false] at handled
        obtain ⟨pass, u, typed, rest⟩ := Fallible.bind_ok_iff.mp handled
        cases opened : PrivateKey.decrypt key pass with
        | error e =>
          simp only [opened, Fallible.pure_run, Prod.mk.injEq, Except.ok.injEq] at rest
          obtain ⟨rfl, rfl⟩ := rest
          exact .mistyped key file encrypted pass u typed e opened
        | ok plain =>
          simp only [opened, Fallible.bind_of_ok (Program.onVault_run u _)] at rest
          cases answer : (BiometricVault.store (keyId key) pass u.vault).1 with
          | ok =>
            simp only [answer, Fallible.pure_run, Prod.mk.injEq, Except.ok.injEq] at rest
            obtain ⟨rfl, rfl⟩ := rest
            exact .stored key file encrypted pass u typed plain opened answer
          | error e =>
            simp only [answer, Fallible.pure_run, Prod.mk.injEq, Except.ok.injEq] at rest
            obtain ⟨rfl, rfl⟩ := rest
            exact .refused key file encrypted pass u typed plain opened e answer
  · intro came
    cases came with
    | unreadable message file => exact ⟨_, by rw [file]; rfl, rfl⟩
    | unprotected key file plain => exact ⟨_, by simp only [file, plain]; rfl, rfl⟩
    | mistyped key file encrypted pass v typed e opened =>
      refine ⟨.failed path "passphrase did not decrypt the key; nothing was stored" EXIT_USAGE,
        ?_, rfl⟩
      simp only [file, encrypted, Bool.not_true, Bool.false_eq_true, if_false]
      rw [Fallible.bind_of_ok typed]
      simp only [opened]
      rfl
    | refused key file encrypted pass v typed plain opened e answer =>
      refine ⟨.failed path e.text (exitFor e), ?_, rfl⟩
      simp only [file, encrypted, Bool.not_true, Bool.false_eq_true, if_false]
      rw [Fallible.bind_of_ok typed]
      simp only [opened, Fallible.bind_of_ok (Program.onVault_run _ _), answer]
      rfl
    | stored key file encrypted pass v typed plain opened answer =>
      refine ⟨.succeeded path (fingerprintOf (keyId key)), ?_, rfl⟩
      simp only [file, encrypted, Bool.not_true, Bool.false_eq_true, if_false]
      rw [Fallible.bind_of_ok typed]
      simp only [opened, Fallible.bind_of_ok (Program.onVault_run _ _), answer]
      rfl

end

/-! ### Codes -/

omit [PublicKey Pub] [PrivateKey Priv Pub] in
theorem returns_forgetOne (target id fingerprint : String) :
    Fallible.Returns Outcome.Coded
      (forgetOne target id fingerprint : Program Ag Va Te Outcome) := by
  apply Fallible.Returns.bind
  intro answer
  cases answer with
  | ok => exact Fallible.Returns.pure (coded_succeeded _ _)
  | error e =>
    obtain ⟨nonzero, small⟩ := exitFor_coded e
    exact Fallible.Returns.pure (coded_failed _ _ nonzero small)

theorem coded_usage (target message : String) :
    (Outcome.failed target message EXIT_USAGE).Coded := coded_failed _ _ (by decide) (by decide)

variable (Priv) in
theorem returns_forgetFile (path : String) :
    Fallible.Returns Outcome.Coded (forgetFile Priv path : Program Ag Va Te Outcome) := by
  apply Fallible.Returns.bind
  intro file
  cases file with
  | error message => exact Fallible.Returns.pure (coded_usage _ _)
  | ok key => exact returns_forgetOne _ _ _

section
variable [Terminal Te]

variable (Priv) in
theorem returns_enrollOne (path : String) :
    Fallible.Returns Outcome.Coded (enrollOne Priv path : Program Ag Va Te Outcome) := by
  apply Fallible.Returns.bind
  intro file
  cases file with
  | error message => exact Fallible.Returns.pure (coded_usage _ _)
  | ok key =>
    dsimp only
    split
    · exact Fallible.Returns.pure (coded_usage _ _)
    apply Fallible.Returns.bind
    intro passphrase
    split
    · exact Fallible.Returns.pure (coded_usage _ _)
    apply Fallible.Returns.bind
    intro answer
    cases answer with
    | ok => exact Fallible.Returns.pure (coded_succeeded _ _)
    | error e =>
      obtain ⟨nonzero, small⟩ := exitFor_coded e
      exact Fallible.Returns.pure (coded_failed _ _ nonzero small)

end

/-! ### The commands -/

/-- The program ends with a code other than zero. -/
abbrev EndsNonzero (x : Program Ag Va Te Nat) (w : World Ag Va Te) : Prop :=
  Fallible.Yields (fun code => code ≠ 0) x w

omit [PublicKey Pub] [PrivateKey Priv Pub] [BiometricBackend Va] in
theorem emitError_nonzero (error : BiometricError) (mode : OutputMode) (command : String)
    (w : World Ag Va Te) : EndsNonzero (emitError error mode command) w := by
  have nonzero := (exitFor_coded error).1
  cases mode with
  | json => exact ⟨_, _, rfl, nonzero⟩
  | human => exact ⟨_, _, rfl, nonzero⟩

omit [PublicKey Pub] [PrivateKey Priv Pub] [BiometricBackend Va] in
theorem returns_emitError (error : BiometricError) (mode : OutputMode) (command : String) :
    Fallible.Returns (fun code => code ≤ 255)
      (emitError error mode command : Program Ag Va Te Nat) := by
  have small := (exitFor_coded error).2
  cases mode with
  | json => exact Fallible.Returns.bind fun _ => Fallible.Returns.bind fun _ =>
      Fallible.Returns.pure small
  | human => exact Fallible.Returns.bind fun _ => Fallible.Returns.pure small

omit [PublicKey Pub] [PrivateKey Priv Pub] [BiometricBackend Va] in
theorem returns_batch {batch : Program Ag Va Te (List Outcome × Nat)}
    (small : Fallible.Returns (fun report => report.2 ≤ 255) batch) (mode : OutputMode)
    (command verb : String) :
    Fallible.Returns (fun code => code ≤ 255) (batch >>= fun report =>
      emitResults mode command report.1 verb >>= fun _ => pure report.2) :=
  Fallible.Returns.bind_of small fun _ fits => Fallible.Returns.bind fun _ =>
    Fallible.Returns.pure fits

omit [PublicKey Pub] [PrivateKey Priv Pub] [BiometricBackend Va] in
/-- A report ends with the code of the batch. -/
theorem endsNonzero_batch {batch : Program Ag Va Te (List Outcome × Nat)} {mode : OutputMode}
    {command verb : String} {w : World Ag Va Te} :
    EndsNonzero (batch >>= fun report =>
      emitResults mode command report.1 verb >>= fun _ => pure report.2) w ↔
      Fallible.Yields (fun report => report.2 ≠ 0) batch w := by
  have reported (report : List Outcome × Nat) (v : World Ag Va Te) :
      EndsNonzero (emitResults mode command report.1 verb >>= fun _ => pure report.2) v ↔
        report.2 ≠ 0 := by
    obtain ⟨stdout, stderr, printed⟩ := emitResults_run mode command report.1 verb v
    rw [EndsNonzero, Fallible.yields_bind_of_ok printed, Fallible.yields_pure_iff]
  rw [EndsNonzero, Fallible.yields_bind_iff]
  exact exists_congr fun report => exists_congr fun v => and_congr_right fun _ => reported report v

omit [PublicKey Pub] [PrivateKey Priv Pub] in
theorem runList_nonzero_iff (mode : OutputMode) (w : World Ag Va Te) :
    EndsNonzero (runList mode) w ↔ ∃ e, (BiometricBackend.list w.vault).1 = .error e := by
  unfold runList
  rw [EndsNonzero, Fallible.yields_bind_of_ok (Program.onVault_run w _)]
  cases (BiometricBackend.list w.vault).1 with
  | error e =>
    simp only [Except.error.injEq, exists_eq', iff_true]
    exact emitError_nonzero e mode _ _
  | ok enrolled =>
    simp only [reduceCtorEq, exists_false, iff_false]
    have zero : Fallible.Returns (fun code => code = 0)
        (emitEnrolled enrolled mode >>= fun _ => pure EXIT_OK : Program Ag Va Te Nat) :=
      Fallible.Returns.bind fun _ => Fallible.Returns.pure rfl
    exact zero.not_yields _

omit [PublicKey Pub] [PrivateKey Priv Pub] in
theorem returns_runList (mode : OutputMode) :
    Fallible.Returns (fun code => code ≤ 255) (runList mode : Program Ag Va Te Nat) := by
  apply Fallible.Returns.bind
  intro listed
  cases listed with
  | error e => exact returns_emitError e mode _
  | ok enrolled => exact Fallible.Returns.bind fun _ => Fallible.Returns.pure (by decide)

variable (Priv) in
/-- Some entry or file is not forgotten, or the entries cannot be listed. -/
def ForgetFails (args : BiometricForgetArgs) (w : World Ag Va Te) : Prop :=
  if args.all then
    (∃ e, (BiometricBackend.list w.vault).1 = .error e) ∨
      ∃ enrolled, (BiometricBackend.list w.vault).1 = .ok enrolled ∧
        Handled (fun key => Deleting (keyIdFromFingerprint key.fingerprint)) enrolled
          { w with vault := (BiometricBackend.list w.vault).2 } false
  else Handled (Forgetting Priv) args.files w false

variable (Priv) in
theorem runForget_nonzero_iff (args : BiometricForgetArgs) (mode : OutputMode)
    (w : World Ag Va Te) : EndsNonzero (runForget Priv args mode) w ↔ ForgetFails Priv args w := by
  unfold runForget ForgetFails
  -- `--all` goes over the entries of the keystore, the rest over files.
  cases args.all with
  | true =>
    simp only [if_true]
    rw [EndsNonzero, Fallible.yields_bind_of_ok (Program.onVault_run w _)]
    cases (BiometricBackend.list w.vault).1 with
    | error e =>
      simp only [Except.error.injEq, exists_eq', true_or, iff_true]
      exact emitError_nonzero e mode _ _
    | ok enrolled =>
      have follows : Follows (forgetEnrolled : EnrolledKey → Program Ag Va Te Outcome)
          (fun key => Deleting (keyIdFromFingerprint key.fingerprint)) :=
        fun key _ _ _ => forgetOne_iff key.fingerprint _ key.fingerprint
      simp only [reduceCtorEq, exists_false, false_or, Except.ok.injEq, exists_eq_left']
      rw [← collect_nonzero_iff follows
        (fun key => returns_forgetOne key.fingerprint _ key.fingerprint) enrolled]
      exact endsNonzero_batch
  | false =>
    simp only [Bool.false_eq_true, if_false]
    cases files : args.files with
    | nil =>
      simp only [Handled, Bool.false_eq_true, iff_false]
      exact Fallible.not_yields_fail _ w
    | cons path rest =>
      rw [← collect_nonzero_iff (fun path _ _ _ => forgetFile_iff Priv path)
        (returns_forgetFile Priv) (path :: rest) w]
      exact endsNonzero_batch

variable (Priv) in
theorem returns_runForget (args : BiometricForgetArgs) (mode : OutputMode) :
    Fallible.Returns (fun code => code ≤ 255)
      (runForget Priv args mode : Program Ag Va Te Nat) := by
  have forgetting (key : EnrolledKey) :
      Fallible.Returns Outcome.Coded (forgetEnrolled key : Program Ag Va Te Outcome) :=
    returns_forgetOne key.fingerprint _ key.fingerprint
  unfold runForget
  split
  · apply Fallible.Returns.bind
    intro listed
    cases listed with
    | error e => exact returns_emitError e mode _
    | ok enrolled => exact returns_batch (returns_collect forgetting enrolled) mode _ _
  split
  · exact fun _ _ _ returned => by simp at returned
  · exact returns_batch (returns_collect (returns_forgetFile Priv) args.files) mode _ _

section
variable [Terminal Te]

/-- What is announced before the first passphrase is asked for. -/
def announced (mode : OutputMode) (w : World Ag Va Te) : World Ag Va Te :=
  if BiometricBackend.bindingTier w.vault = .advisory ∧ mode = .human then
    { w with stderr := w.stderr ++ [s!"gitway: NOTE: {Tier.advisory.description}"] }
  else w

variable (Priv) in
/-- There is no backend, or all files had their turn and not every key is enrolled. -/
def EnrollFails (args : BiometricEnrollArgs) (mode : OutputMode) (w : World Ag Va Te) : Prop :=
  BiometricBackend.isAvailable w.vault = false ∨
    ∃ paths, (resolvePaths args.files (announced mode w)).1 = .ok paths ∧
      Handled (Enrolling Priv) paths (announced mode w) false

variable (Priv) in
theorem runEnroll_nonzero_iff (args : BiometricEnrollArgs) (mode : OutputMode)
    (w : World Ag Va Te) :
    EndsNonzero (runEnroll Priv args mode) w ↔ EnrollFails Priv args mode w := by
  have batch (paths : List String) (u : World Ag Va Te) :
      EndsNonzero (collect (enrollOne Priv) paths >>= fun report =>
        emitResults mode "gitway biometric enroll" report.1 "enrolled" >>= fun _ =>
          pure report.2) u ↔ Handled (Enrolling Priv) paths u false := by
    rw [endsNonzero_batch]
    exact collect_nonzero_iff (fun path _ _ _ => enrollOne_iff Priv path) (returns_enrollOne Priv)
      paths u
  -- Naming the files changes nothing.
  have named (u : World Ag Va Te) : EndsNonzero (resolvePaths args.files >>= fun paths =>
      collect (enrollOne Priv) paths >>= fun report =>
        emitResults mode "gitway biometric enroll" report.1 "enrolled" >>= fun _ =>
          pure report.2) u ↔ ∃ paths, (resolvePaths args.files u).1 = .ok paths ∧
            Handled (Enrolling Priv) paths u false := by
    have still : resolvePaths args.files u = ((resolvePaths args.files u).1, u) := by
      unfold resolvePaths
      split <;> rfl
    cases paths : (resolvePaths args.files u).1 with
    | error e =>
      rw [paths] at still
      simp only [reduceCtorEq, false_and, exists_false, iff_false]
      rintro ⟨code, v, ran, _⟩
      rw [Fallible.bind_of_error still] at ran
      simp at ran
    | ok files =>
      rw [paths] at still
      rw [EndsNonzero, Fallible.yields_bind_of_ok still]
      simpa using batch files u
  unfold runEnroll EnrollFails announced
  rw [EndsNonzero, Fallible.yields_bind_query_ok, Fallible.yields_bind_query_ok]
  cases BiometricBackend.isAvailable w.vault with
  | false =>
    simp only [true_or, iff_true]
    exact emitError_nonzero _ mode _ w
  | true =>
    simp only [Bool.not_true, Bool.false_eq_true, if_false, reduceCtorEq, false_or]
    split
    · exact named _
    · exact named w

variable (Priv) in
theorem returns_runEnroll (args : BiometricEnrollArgs) (mode : OutputMode) :
    Fallible.Returns (fun code => code ≤ 255)
      (runEnroll Priv args mode : Program Ag Va Te Nat) := by
  have batch : Fallible.Returns (fun code => code ≤ 255) (resolvePaths args.files >>= fun paths =>
      collect (enrollOne Priv) paths >>= fun report =>
        emitResults mode "gitway biometric enroll" report.1 "enrolled" >>= fun _ =>
          pure report.2 : Program Ag Va Te Nat) :=
    Fallible.Returns.bind fun paths =>
      returns_batch (returns_collect (returns_enrollOne Priv) paths) mode _ _
  apply Fallible.Returns.bind
  intro available
  apply Fallible.Returns.bind
  intro tier
  split
  · exact returns_emitError _ mode _
  dsimp only
  split
  · exact Fallible.Returns.bind fun _ => batch
  · exact batch

end

end

end Gitway.Biometric
