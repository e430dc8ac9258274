import Gitway.Biometric.Batch
import Gitway.Biometric.Heal

/-!
# What a batch accounts for

A batch handles its items one after the other, each in the world that the ones before it
left. Its report has one outcome for each of them, its code is that of the last failure, and
what changed in the keystore can be read off the outcomes that are ok.
-/
namespace Gitway.Biometric

open Lib

variable {Priv Pub Ag Va Te : Type}

/-! ### Reports -/

/-- The entry of the keystore that an outcome names. -/
def Outcome.entry (outcome : Outcome) : Option String :=
  outcome.fingerprint.map keyIdFromFingerprint

/-- The entries that the outcomes which are ok name. -/
def settled (outcomes : List Outcome) : List String :=
  (outcomes.filter Outcome.ok).filterMap Outcome.entry

def lastFailed (outcomes : List Outcome) : Option Outcome :=
  (outcomes.filter fun outcome => !outcome.ok).getLast?

/-- The code of the last outcome that failed, or zero. -/
def batchCode (outcomes : List Outcome) : Nat :=
  (lastFailed outcomes).elim EXIT_OK Outcome.exitCode

theorem batchCode_concat (outcomes : List Outcome) (outcome : Outcome) :
    batchCode (outcomes ++ [outcome]) =
      if outcome.ok then batchCode outcomes else outcome.exitCode := by
  unfold batchCode lastFailed
  cases good : outcome.ok with
  | true => simp [List.filter_append, good]
  | false => simp [List.filter_append, good]

theorem batchCode_zero_iff {outcomes : List Outcome}
    (coded : ∀ outcome ∈ outcomes, outcome.Coded) :
    batchCode outcomes = 0 ↔ ∀ outcome ∈ outcomes, outcome.ok = true := by
  unfold batchCode
  cases last : lastFailed outcomes with
  | none =>
    have none_failed : outcomes.filter (fun outcome => !outcome.ok) = [] := by
      simpa [lastFailed] using last
    simpa [EXIT_OK, List.filter_eq_nil_iff] using none_failed
  | some outcome =>
    -- A failure that is there has a code of its own.
    have failed := List.mem_of_getLast? last
    rw [List.mem_filter, Bool.not_eq_true'] at failed
    obtain ⟨member, bad⟩ := failed
    have nonzero := ((coded outcome member).resolve_left (by simp [bad])).1
    simp only [Option.elim_some, nonzero, false_iff]
    intro all
    rw [all outcome member] at bad
    exact absurd bad (by decide)

section
variable (outcome : Outcome) (outcomes : List Outcome)

theorem settled_cons_failed (bad : outcome.ok = false) :
    settled (outcome :: outcomes) = settled outcomes := by
  simp [settled, bad]

theorem settled_cons_ok {id : String} (good : outcome.ok = true)
    (entry : outcome.entry = some id) : settled (outcome :: outcomes) = id :: settled outcomes := by
  simp [settled, good, entry]

end

/-! ### Items in turn -/

section
variable {α : Type} {one : α → Program Ag Va Te Outcome}

/-- The items are handled in this order, each behind the ones before it, and these are the
outcomes. -/
inductive InTurn (one : α → Program Ag Va Te Outcome) :
    List α → World Ag Va Te → List Outcome → World Ag Va Te → Prop where
  | done (w : World Ag Va Te) : InTurn one [] w [] w
  | next {item : α} {rest : List α} {w u v : World Ag Va Te} {outcome : Outcome}
    {outcomes : List Outcome} (handled : one item w = (.ok outcome, u))
    (later : InTurn one rest u outcomes v) :
    InTurn one (item :: rest) w (outcome :: outcomes) v

/-- The loop carries the outcomes so far and their code. -/
theorem folded_inTurn {items : List α} {w v : World Ag Va Te} {outcomes : List Outcome}
    (turn : InTurn one items w outcomes v) (earlier : List Outcome) :
    items.foldlM (collectOne one) (earlier, batchCode earlier) w =
      (.ok (earlier ++ outcomes, batchCode (earlier ++ outcomes)), v) := by
  induction turn generalizing earlier with
  | done w => simp
  | @next item rest w u v outcome outcomes handled later ih =>
    have round : collectOne one (earlier, batchCode earlier) item w =
        (.ok (earlier ++ [outcome], batchCode (earlier ++ [outcome])), u) := by
      unfold collectOne
      rw [Fallible.bind_of_ok handled, batchCode_concat]
      rfl
    rw [List.foldlM_cons, Fallible.bind_of_ok round, ih]
    simp

theorem collect_inTurn {items : List α} {w v : World Ag Va Te} {outcomes : List Outcome}
    (turn : InTurn one items w outcomes v) :
    collect one items w = (.ok (outcomes, batchCode outcomes), v) :=
  folded_inTurn turn []

/-- Items that are always handled all have their turn. -/
theorem inTurn_of_total (total : ∀ item w, ∃ outcome v, one item w = (.ok outcome, v))
    (items : List α) (w : World Ag Va Te) : ∃ outcomes v, InTurn one items w outcomes v := by
  induction items generalizing w with
  | nil => exact ⟨[], w, .done w⟩
  | cons item rest ih =>
    obtain ⟨outcome, u, handled⟩ := total item w
    obtain ⟨outcomes, v, later⟩ := ih u
    exact ⟨outcome :: outcomes, v, .next handled later⟩

/-- The program prints the report of these outcomes, ends with their code, and leaves the
keystore as `v` has it. -/
def EndsWithReport (x : Program Ag Va Te Nat) (w : World Ag Va Te) (mode : OutputMode)
    (command verb : String) (outcomes : List Outcome) (v : World Ag Va Te) : Prop :=
  x w = (.ok (batchCode outcomes), (emitResults mode command outcomes verb v).2) ∧
    (emitResults mode command outcomes verb v).2.vault = v.vault

theorem reported_inTurn {items : List α} {w v : World Ag Va Te} {outcomes : List Outcome}
    (turn : InTurn one items w outcomes v) (mode : OutputMode) (command verb : String) :
    EndsWithReport (collect one items >>= fun report =>
      emitResults mode command report.1 verb >>= fun _ => pure report.2) w mode command verb
      outcomes v := by
  unfold EndsWithReport
  obtain ⟨stdout, stderr, printed⟩ := emitResults_run mode command outcomes verb v
  rw [Fallible.bind_of_ok (collect_inTurn turn), Fallible.bind_of_ok printed, printed]
  exact ⟨rfl, rfl⟩

end

/-! ### The books of the keystore -/

section
variable {α : Type} {one : α → Program Ag Va Te Outcome} {nameOf : α → String}
  {idOf : α → Option String} {secretOf : Va → String → Option String}
  {written : String → Option String → Prop}

/-- What an outcome says became of the keystore: nothing when it failed, and else the entry
it names was written, which is that of the item. -/
inductive Booked (secretOf : Va → String → Option String)
    (written : String → Option String → Prop) (itemId : Option String) (before after : Va)
    (outcome : Outcome) : Prop where
  | failed (bad : outcome.ok = false) (same : secretOf after = secretOf before)
  | settled (good : outcome.ok = true) (id : String) (secret : Option String)
    (item : itemId = some id) (entry : outcome.entry = some id) (wrote : written id secret)
    (update : secretOf after = Function.update (secretOf before) id secret)

/-- Every item is accounted for: `nameOf` and `idOf` tell what an item is called and which
entry is its own, `written` what may be found in an entry that went well. -/
structure Accounts (one : α → Program Ag Va Te Outcome) (nameOf : α → String)
    (idOf : α → Option String) (secretOf : Va → String → Option String)
    (written : String → Option String → Prop) (items : List α) (w : World Ag Va Te)
    (outcomes : List Outcome) (v : World Ag Va Te) : Prop where
  inTurn : InTurn one items w outcomes v
  targets : outcomes.map Outcome.target = items.map nameOf
  entries : List.Forall₂ (fun item outcome => outcome.ok = true →
    ∃ id, idOf item = some id ∧ outcome.entry = some id) items outcomes
  success : batchCode outcomes = 0 ↔ ∀ outcome ∈ outcomes, outcome.ok = true
  others : ∀ id ∉ settled outcomes, secretOf v.vault id = secretOf w.vault id
  settled : ∀ id ∈ settled outcomes, written id (secretOf v.vault id)

/-- What is to be shown of one item, in every world with these files. -/
def Books (one : α → Program Ag Va Te Outcome) (fs : FileSystem) (nameOf : α → String)
    (idOf : α → Option String) (secretOf : Va → String → Option String)
    (written : String → Option String → Prop) (items : List α) : Prop :=
  ∀ item ∈ items, ∀ (u v : World Ag Va Te) (outcome : Outcome), u.fs = fs →
    one item u = (.ok outcome, v) → v.fs = fs ∧ outcome.target = nameOf item ∧ outcome.Coded ∧
      Booked secretOf written (idOf item) u.vault v.vault outcome

/-- Run lemma: items that are booked one by one are accounted for together. -/
theorem accounts_of_books {fs : FileSystem} {items : List α} {w v : World Ag Va Te}
    {outcomes : List Outcome} (turn : InTurn one items w outcomes v) (files : w.fs = fs)
    (books : Books one fs nameOf idOf secretOf written items) :
    Accounts one nameOf idOf secretOf written items w outcomes v := by
  -- The codes are collected on the way, the statement about zero comes last.
  suffices parts : outcomes.map Outcome.target = items.map nameOf ∧
      List.Forall₂ (fun item outcome => outcome.ok = true →
        ∃ id, idOf item = some id ∧ outcome.entry = some id) items outcomes ∧
      (∀ outcome ∈ outcomes, outcome.Coded) ∧
      (∀ id ∉ settled outcomes, secretOf v.vault id = secretOf w.vault id) ∧
      ∀ id ∈ settled outcomes, written id (secretOf v.vault id) by
    obtain ⟨targets, entries, coded, others, settled⟩ := parts
    exact ⟨turn, targets, entries, batchCode_zero_iff coded, others, settled⟩
  induction turn with
  | done w => simp [settled]
  | @next item rest w u v outcome outcomes handled later ih =>
    obtain ⟨files', target, coded, booked⟩ := books item (by simp) w u outcome files handled
    have below : Books one fs nameOf idOf secretOf written rest :=
      fun item member => books item (by simp [member])
    obtain ⟨targets, entries, all_coded, others, wrote⟩ := ih files' below
    refine ⟨by simp [target, targets], ?_, by simpa [coded] using all_coded, ?_⟩
    · refine .cons (fun good => ?_) entries
      cases booked with
      | failed bad same => exact absurd (bad.symm.trans good) (by decide)
      | settled good id secret item entry => exact ⟨id, item, entry⟩
    cases booked with
    | failed bad same =>
      rw [settled_cons_failed outcome outcomes bad, ← same]
      exact ⟨others, wrote⟩
    | settled good id secret item entry wrote_here update =>
      rw [settled_cons_ok outcome outcomes good entry]
      constructor
      · intro other outside
        rw [List.mem_cons, not_or] at outside
        rw [others other outside.2, update, Function.update_of_ne outside.1]
      · intro other inside
        -- A later item with the same entry has the last word.
        by_cases again : other ∈ settled outcomes
        · exact wrote other again
        · obtain rfl : other = id := (List.mem_cons.mp inside).resolve_right again
          rw [others other again, update, Function.update_self]
          exact wrote_here

end

/-! ### Forgetting -/

section
variable [BiometricBackend Va] {secretOf : Va → String → Option String}

/-- What is forgotten is gone. -/
def Gone (_ : String) (secret : Option String) : Prop := secret = none

theorem forgetOne_booked (laws : Keystore secretOf) {target id fingerprint : String}
    (named : keyIdFromFingerprint fingerprint = id) {u v : World Ag Va Te} {outcome : Outcome}
    (handled : forgetOne target id fingerprint u = (.ok outcome, v)) :
    v.fs = u.fs ∧ outcome.target = target ∧ outcome.Coded ∧
      Booked secretOf Gone (some id) u.vault v.vault outcome := by
  have coded := returns_forgetOne target id fingerprint u outcome v handled
  unfold forgetOne at handled
  rw [Fallible.bind_of_ok (Program.onVault_run u _)] at handled
  cases answer : (BiometricVault.delete id u.vault).1 with
  | ok done =>
    simp only [answer, Fallible.pure_run, Prod.mk.injEq, Except.ok.injEq] at handled
    obtain ⟨rfl, rfl⟩ := handled
    refine ⟨rfl, rfl, coded, .settled rfl id none rfl ?_ rfl (laws.deleted u.vault id answer)⟩
    simp [Outcome.entry, Outcome.succeeded, named]
  | error e =>
    simp only [answer, Fallible.pure_run, Prod.mk.injEq, Except.ok.injEq] at handled
    obtain ⟨rfl, rfl⟩ := handled
    exact ⟨rfl, rfl, coded, .failed rfl (laws.not_deleted u.vault id e answer)⟩

theorem forgetOne_total (target id fingerprint : String) (w : World Ag Va Te) :
    ∃ outcome v, forgetOne target id fingerprint w = (.ok outcome, v) := by
  unfold forgetOne
  rw [Fallible.bind_of_ok (Program.onVault_run w _)]
  cases (BiometricVault.delete id w.vault).1 with
  | ok done => exact ⟨_, _, rfl⟩
  | error e => exact ⟨_, _, rfl⟩

end

section
variable [PublicKey Pub] [PrivateKey Priv Pub]

theorem keyIdFromFingerprint_keyId (key : Priv) :
    keyIdFromFingerprint (fingerprintOf (keyId key)) = keyId key := by
  simp [keyIdFromFingerprint, fingerprintOf, keyId]

variable (Priv) in
/-- The entry of the key in a file. -/
def entryOf (fs : FileSystem) (path : String) : Option String :=
  (keyIn Priv fs path).toOption.map keyId

variable [BiometricBackend Va] {secretOf : Va → String → Option String}

variable (Priv) in
theorem forgetFile_books (laws : Keystore secretOf) (fs : FileSystem) (paths : List String) :
    Books (forgetFile Priv : String → Program Ag Va Te Outcome) fs id (entryOf Priv fs) secretOf
      Gone paths := by
  rintro path - u v outcome rfl handled
  have coded := returns_forgetFile Priv path u outcome v handled
  have read : readKey Priv path u = (.ok (keyIn Priv u.fs path), u) := rfl
  unfold forgetFile at handled
  rw [Fallible.bind_of_ok read] at handled
  cases file : keyIn Priv u.fs path with
  | error message =>
    simp only [file, Fallible.pure_run, Prod.mk.injEq, Except.ok.injEq] at handled
    obtain ⟨rfl, rfl⟩ := handled
    exact ⟨rfl, rfl, coded, .failed rfl rfl⟩
  | ok key =>
    simp only [file] at handled
    have entry : entryOf Priv u.fs path = some (keyId key) := by
      simp [entryOf, file, Except.toOption]
    rw [entry]
    exact forgetOne_booked laws (keyIdFromFingerprint_keyId key) handled

variable (Priv) in
theorem forgetFile_total (path : String) (w : World Ag Va Te) :
    ∃ outcome v, forgetFile Priv path w = (.ok outcome, v) := by
  have read : readKey Priv path w = (.ok (keyIn Priv w.fs path), w) := rfl
  unfold forgetFile
  rw [Fallible.bind_of_ok read]
  cases keyIn Priv w.fs path with
  | error message => exact ⟨_, _, rfl⟩
  | ok key => exact forgetOne_total _ _ _ w

end

/-! ### Enrolling -/

/-- What a prompt leaves alone. -/
private theorem typed_kept [Terminal Te] {path pass : String} {u v : World Ag Va Te}
    (typed : Prompt.promptPassphraseInteractive path u = (.ok pass, v)) :
    v.fs = u.fs ∧ v.vault = u.vault := by
  have aside : Program.Aside (fun w : World Ag Va Te => (w.fs, w.vault)) :=
    ⟨fun _ _ => rfl, fun _ _ => rfl⟩
  have same := (Prompt.keeps_promptPassphraseInteractive aside path).eq typed
  simpa only [Prod.mk.injEq] using same

section
variable [PublicKey Pub] [PrivateKey Priv Pub] [BiometricBackend Va] [Terminal Te]

variable (Priv) in
/-- No prompt fails: each file that asks for its passphrase when its turn comes is answered. -/
def PromptsAnswered : List String → World Ag Va Te → Prop
  | [], _ => True
  | path :: rest, w =>
    (∀ key : Priv, keyIn Priv w.fs path = .ok key → PrivateKey.isEncrypted key = true →
      ∃ pass v, Prompt.promptPassphraseInteractive path w = (.ok pass, v)) ∧
    ∀ outcome v, enrollOne Priv path w = (.ok outcome, v) → PromptsAnswered rest v

variable (Priv) in
/-- A secret that is there and opens the key of one of these files that has this entry. -/
def OpensOne (fs : FileSystem) (paths : List String) (id : String) (secret : Option String) :
    Prop :=
  ∃ path ∈ paths, ∃ (key plain : Priv) (pass : String), keyIn Priv fs path = .ok key ∧
    keyId key = id ∧ secret = some pass ∧ PrivateKey.decrypt key pass = .ok plain

variable (Priv) in
/-- An outcome is named after its file, and one that is ok after the key in it, too. -/
theorem enrollOne_named {path : String} {u v : World Ag Va Te} {outcome : Outcome}
    (handled : enrollOne Priv path u = (.ok outcome, v)) :
    outcome.target = path ∧ (outcome.ok = true → ∃ key : Priv, keyIn Priv u.fs path = .ok key ∧
      outcome.fingerprint = some (fingerprintOf (keyId key))) := by
  have read : readKey Priv path u = (.ok (keyIn Priv u.fs path), u) := rfl
  have failed (message : String) (code : Nat)
      (good : (Outcome.failed path message code).ok = true) : False :=
    absurd good (by simp [Outcome.failed])
  unfold enrollOne at handled
  rw [Fallible.bind_of_ok read] at handled
  cases file : keyIn Priv u.fs path with
  | error message =>
    simp only [file, Fallible.pure_run, Prod.mk.injEq, Except.ok.injEq] at handled
    obtain ⟨rfl, -⟩ := handled
    exact ⟨rfl, fun good => (failed _ _ good).elim⟩
  | ok key =>
    simp only [file] at handled
    split at handled
    · simp only [Fallible.pure_run, Prod.mk.injEq, Except.ok.injEq] at handled
      obtain ⟨rfl, -⟩ := handled
      exact ⟨rfl, fun good => (failed _ _ good).elim⟩
    obtain ⟨pass, u₁, -, rest⟩ := Fallible.bind_ok_iff.mp handled
    cases opened : PrivateKey.decrypt key pass with
    | error e =>
      simp only [opened, Fallible.pure_run, Prod.mk.injEq, Except.ok.injEq] at rest
      obtain ⟨rfl, -⟩ := rest
      exact ⟨rfl, fun good => (failed _ _ good).elim⟩
    | ok plain =>
      -- The keystore has the last word.
      simp only [opened] at rest
      obtain ⟨answer, u₂, -, last⟩ := Fallible.bind_ok_iff.mp rest
      cases answer with
      | error e =>
        simp only [Fallible.pure_run, Prod.mk.injEq, Except.ok.injEq] at last
        obtain ⟨rfl, -⟩ := last
        exact ⟨rfl, fun good => (failed _ _ good).elim⟩
      | ok done =>
        simp only [Fallible.pure_run, Prod.mk.injEq, Except.ok.injEq] at last
        obtain ⟨rfl, -⟩ := last
        exact ⟨rfl, fun _ => ⟨key, rfl, rfl⟩⟩

variable {secretOf : Va → String → Option String}

variable (Priv) in
theorem enrollOne_books (laws : Keystore secretOf) (fs : FileSystem) (paths : List String) :
    Books (enrollOne Priv : String → Program Ag Va Te Outcome) fs id (entryOf Priv fs) secretOf
      (OpensOne Priv fs paths) paths := by
  rintro path member u v outcome rfl handled
  have coded := returns_enrollOne Priv path u outcome v handled
  obtain ⟨target, named⟩ := enrollOne_named Priv handled
  have came := (enrollOne_iff Priv path).mp ⟨outcome, handled, rfl⟩
  generalize result : outcome.ok = ok at came
  -- Only the last of these ends writes to the keystore.
  cases came with
  | unreadable message file => exact ⟨rfl, target, coded, .failed result rfl⟩
  | unprotected key file plain => exact ⟨rfl, target, coded, .failed result rfl⟩
  | mistyped key file encrypted pass v typed e opened =>
    obtain ⟨files, vault⟩ := typed_kept typed
    exact ⟨files, target, coded, .failed result (congrArg secretOf vault)⟩
  | refused key file encrypted pass v typed plain opened e answer =>
    obtain ⟨files, vault⟩ := typed_kept typed
    have same := laws.not_stored v.vault (keyId key) pass e answer
    exact ⟨files, target, coded, .failed result (same.trans (congrArg secretOf vault))⟩
  | stored key file encrypted pass v typed plain opened answer =>
    obtain ⟨files, vault⟩ := typed_kept typed
    obtain ⟨key', file', fingerprint⟩ := named result
    obtain rfl : key = key' := Except.ok.inj (file.symm.trans file')
    have entry : outcome.entry = some (keyId key) := by
      simp [Outcome.entry, fingerprint, keyIdFromFingerprint_keyId]
    have update := laws.stored v.vault (keyId key) pass answer
    rw [vault] at update
    refine ⟨files, target, coded, .settled result (keyId key) (some pass) ?_ entry ?_ ?_⟩
    · simp [entryOf, file, Except.toOption]
    · exact ⟨path, member, key, plain, pass, file, rfl, rfl, opened⟩
    · exact (congrArg secretOf (by rw [vault])).trans update

variable (Priv) in
/-- Where no prompt fails every file has its turn. -/
theorem enrollOne_inTurn {paths : List String} {w : World Ag Va Te}
    (answered : PromptsAnswered Priv paths w) :
    ∃ outcomes v, InTurn (enrollOne Priv) paths w outcomes v := by
  induction paths generalizing w with
  | nil => exact ⟨[], w, .done w⟩
  | cons path rest ih =>
    obtain ⟨asked, later⟩ := answered
    suffices total : ∃ outcome v, enrollOne Priv path w = (.ok outcome, v) by
      obtain ⟨outcome, u, handled⟩ := total
      obtain ⟨outcomes, v, turn⟩ := ih (later outcome u handled)
      exact ⟨outcome :: outcomes, v, .next handled turn⟩
    have of_rule {ok : Bool} {v : World Ag Va Te} (came : Enrolling Priv path w ok v) :
        ∃ outcome v, enrollOne Priv path w = (.ok outcome, v) := by
      obtain ⟨outcome, handled, _⟩ := (enrollOne_iff Priv path).mpr came
      exact ⟨outcome, v, handled⟩
    cases file : keyIn Priv w.fs path with
    | error message => exact of_rule (.unreadable message file)
    | ok key =>
      cases encrypted : PrivateKey.isEncrypted key with
      | false => exact of_rule (.unprotected key file encrypted)
      | true =>
        obtain ⟨pass, u, typed⟩ := asked key file encrypted
        cases opened : PrivateKey.decrypt key pass with
        | error e => exact of_rule (.mistyped key file encrypted pass u typed e opened)
        | ok plain =>
          cases answer : (BiometricVault.store (keyId key) pass u.vault).1 with
          | error e =>
            exact of_rule (.refused key file encrypted pass u typed plain opened e answer)
          | ok done => exact of_rule (.stored key file encrypted pass u typed plain opened answer)

end

/-! ### The commands -/

section
variable [PublicKey Pub] [PrivateKey Priv Pub] [BiometricBackend Va] [Terminal Te]

/-- Without a backend nothing is enrolled: one error is reported, and that is all. -/
theorem runEnroll_unavailable (args : BiometricEnrollArgs) (mode : OutputMode)
    {w : World Ag Va Te} (unavailable : BiometricBackend.isAvailable w.vault = false) :
    ∃ stdout stderr, runEnroll Priv args mode w =
      (.ok EXIT_NEEDS_INTERACTIVE, { w with stdout := stdout, stderr := stderr }) := by
  unfold runEnroll
  rw [Fallible.bind_query_ok, Fallible.bind_query_ok, unavailable]
  cases mode with
  | json => exact ⟨_, _, rfl⟩
  | human => exact ⟨_, _, rfl⟩

/-- With a backend the files are handled, behind the notice about what it is worth. -/
theorem runEnroll_available {args : BiometricEnrollArgs} (mode : OutputMode)
    {w v : World Ag Va Te} {paths : List String} {outcomes : List Outcome}
    (available : BiometricBackend.isAvailable w.vault = true)
    (named : (resolvePaths args.files w).1 = .ok paths)
    (turn : InTurn (enrollOne Priv) paths (announced mode w) outcomes v) :
    EndsWithReport (runEnroll Priv args mode) w mode "gitway biometric enroll" "enrolled"
      outcomes v := by
  have resolved : resolvePaths args.files (announced mode w) = (.ok paths, announced mode w) := by
    rw [← named]
    unfold resolvePaths announced
    split <;> split <;> rfl
  suffices same : runEnroll Priv args mode w = (collect (enrollOne Priv) paths >>= fun report =>
      emitResults mode "gitway biometric enroll" report.1 "enrolled" >>= fun _ => pure report.2)
      (announced mode w) by
    have reported := reported_inTurn turn mode "gitway biometric enroll" "enrolled"
    unfold EndsWithReport at reported ⊢
    rwa [same]
  rw [← Fallible.bind_of_ok (f := fun paths => collect (enrollOne Priv) paths >>= fun report =>
    emitResults mode "gitway biometric enroll" report.1 "enrolled" >>= fun _ => pure report.2)
    resolved]
  unfold runEnroll
  rw [Fallible.bind_query_ok, Fallible.bind_query_ok, available]
  unfold announced
  simp only [Bool.not_true, Bool.false_eq_true, if_false]
  split <;> rfl

variable {secretOf : Va → String → Option String}

variable (Priv) in
/-- Both commands account for every item. Enrolling does so where there is a backend, and
does nothing where there is none. -/
theorem batches_accounted (laws : Keystore secretOf) :
    (∀ (args : BiometricEnrollArgs) (mode : OutputMode) (w : World Ag Va Te)
      (paths : List String), BiometricBackend.isAvailable w.vault = true →
        (resolvePaths args.files w).1 = .ok paths →
        PromptsAnswered Priv paths (announced mode w) →
        ∃ outcomes v,
          Accounts (enrollOne Priv) id (entryOf Priv w.fs) secretOf (OpensOne Priv w.fs paths)
            paths (announced mode w) outcomes v ∧
          EndsWithReport (runEnroll Priv args mode) w mode "gitway biometric enroll" "enrolled"
            outcomes v) ∧
    (∀ (args : BiometricEnrollArgs) (mode : OutputMode) (w : World Ag Va Te),
      BiometricBackend.isAvailable w.vault = false → ∃ stdout stderr,
        runEnroll Priv args mode w =
          (.ok EXIT_NEEDS_INTERACTIVE, { w with stdout := stdout, stderr := stderr })) ∧
    (∀ (args : BiometricForgetArgs) (mode : OutputMode) (w : World Ag Va Te),
      args.all = false → args.files ≠ [] → ∃ outcomes v,
        Accounts (forgetFile Priv) id (entryOf Priv w.fs) secretOf Gone args.files w outcomes v ∧
        EndsWithReport (runForget Priv args mode) w mode "gitway biometric forget" "forgot"
          outcomes v) ∧
    ∀ (args : BiometricForgetArgs) (mode : OutputMode) (w : World Ag Va Te)
      (enrolled : List EnrolledKey), args.all = true →
        (BiometricBackend.list w.vault).1 = .ok enrolled →
        secretOf (BiometricBackend.list w.vault).2 = secretOf w.vault ∧ ∃ outcomes v,
          Accounts forgetEnrolled EnrolledKey.fingerprint
            (fun key => some (keyIdFromFingerprint key.fingerprint)) secretOf Gone enrolled
            { w with vault := (BiometricBackend.list w.vault).2 } outcomes v ∧
          EndsWithReport (runForget Priv args mode) w mode "gitway biometric forget" "forgot"
            outcomes v := by
  refine ⟨?_, fun args mode w => runEnroll_unavailable args mode, ?_, ?_⟩
  -- Enrolling, with a backend.
  · intro args mode w paths available named answered
    have files : (announced mode w).fs = w.fs := by
      unfold announced
      split <;> rfl
    obtain ⟨outcomes, v, turn⟩ := enrollOne_inTurn Priv answered
    exact ⟨outcomes, v, accounts_of_books turn files (enrollOne_books Priv laws w.fs paths),
      runEnroll_available mode available named turn⟩
  -- Forgetting the files that are named.
  · intro args mode w some_files nonempty
    obtain ⟨outcomes, v, turn⟩ := inTurn_of_total (forgetFile_total Priv) args.files w
    refine ⟨outcomes, v, accounts_of_books turn rfl (forgetFile_books Priv laws w.fs args.files),
      ?_⟩
    unfold EndsWithReport runForget
    rw [some_files, if_neg Bool.false_ne_true,
      if_neg (by simpa [List.isEmpty_iff] using nonempty)]
    exact reported_inTurn turn mode _ _
  -- Forgetting all that is enrolled, which touches no file.
  · intro args mode w enrolled all listed
    refine ⟨laws.list_keeps w.vault, ?_⟩
    obtain ⟨outcomes, v, turn⟩ := inTurn_of_total
      (fun key : EnrolledKey => forgetOne_total key.fingerprint _ key.fingerprint) enrolled
      { w with vault := (BiometricBackend.list w.vault).2 }
    have books : Books (forgetEnrolled : EnrolledKey → Program Ag Va Te Outcome) w.fs
        EnrolledKey.fingerprint (fun key => some (keyIdFromFingerprint key.fingerprint)) secretOf
        Gone enrolled := by
      intro key _ u v outcome files handled
      obtain ⟨same, rest⟩ := forgetOne_booked laws rfl handled
      exact ⟨same.trans files, rest⟩
    refine ⟨outcomes, v, accounts_of_books turn rfl books, ?_⟩
    unfold EndsWithReport runForget
    rw [all, if_pos rfl, Fallible.bind_of_ok (Program.onVault_run w _), listed]
    exact reported_inTurn turn mode _ _

end

/-! ### A build without a backend -/

/-- The backend of the other builds: those without the feature, and those for a platform
that has none. -/
inductive UnsupportedVault where
  | featureOff
  | otherPlatform

def UnsupportedVault.reason : UnsupportedVault → BiometricError
  | .featureOff => .unavailable "this build was compiled without the `biometric` feature"
  | .otherPlatform => .unavailable "no biometric backend is available for this platform"

instance : BiometricBackend UnsupportedVault where
  store _ _ vault := (.error vault.reason, vault)
  retrieve _ vault := (.error vault.reason, vault)
  delete _ vault := (.error vault.reason, vault)
  isAvailable _ := false
  bindingTier _ := .unsupported
  list vault := (.error vault.reason, vault)

def UnsupportedVault.secretOf (_ : UnsupportedVault) (_ : String) : Option String := none

/-- It is a keystore in which nothing is ever found. -/
theorem unsupportedVault_keystore : Keystore UnsupportedVault.secretOf where
  stored _ _ _ done := by simp [BiometricVault.store] at done
  not_stored _ _ _ _ _ := rfl
  retrieved _ _ _ given := by simp [BiometricVault.retrieve] at given
  retrieve_keeps _ _ := rfl
  deleted _ _ done := by simp [BiometricVault.delete] at done
  not_deleted _ _ _ _ := rfl
  list_keeps _ := rfl

open Reference

/-- A key without a passphrase, a key with one, and a person who knows it. -/
private def keyPair {Va : Type} (vault : Va) : World RefAgent Va RefTerminal where
  env := environment []
  fs := textFiles [("plain", "openssh-key-v1 BBBB none"),
    ("id", "openssh-key-v1 AAAA aes256-ctr old")]
  agent := ⟨false, []⟩
  vault := vault
  terminal := ⟨["old"]⟩
  stdin := .ok ByteArray.empty
  stdout := []
  stderr := []
  signals := []

private theorem keyPair_plain {Va : Type} (vault : Va) :
    keyIn RefPrivate (keyPair vault).fs "plain" = .ok ⟨⟨"BBBB"⟩, none⟩ := by
  have file : (keyPair vault).fs.readToString "plain" = .ok "openssh-key-v1 BBBB none" :=
    readToString_textFiles _ "plain" _ rfl
  have parsed : (PrivateKey.fromOpenssh "openssh-key-v1 BBBB none" : Except String RefPrivate) =
      .ok ⟨⟨"BBBB"⟩, none⟩ := rfl
  simp only [keyIn, file, parsed]

private theorem keyPair_answered {Va : Type} [BiometricBackend Va] (vault : Va) :
    PromptsAnswered RefPrivate ["plain", "id"] (keyPair vault) := by
  refine ⟨fun key file encrypted => ?_, fun outcome v handled => ?_⟩
  · rw [keyPair_plain, Except.ok.injEq] at file
    simp [← file, PrivateKey.isEncrypted] at encrypted
  · have unprotected : v = keyPair vault := by
      have read : readKey RefPrivate "plain" (keyPair vault) =
          (.ok (.ok ⟨⟨"BBBB"⟩, none⟩), keyPair vault) :=
        Prod.ext (congrArg Except.ok (keyPair_plain vault)) rfl
      unfold enrollOne at handled
      rw [Fallible.bind_of_ok read] at handled
      exact (congrArg Prod.snd handled).symm
    subst unprotected
    exact ⟨fun _ _ _ => ⟨"old", _, rfl⟩, fun _ _ _ => trivial⟩

/-- The first key is refused and the second one enrolled, or forgotten. Without a backend
neither has its turn. -/
theorem batches_accounted_samples :
    Keystore LockableVault.secretOf ∧ Keystore UnsupportedVault.secretOf ∧
    (∃ outcomes v,
      Accounts (enrollOne RefPrivate) id (entryOf RefPrivate (keyPair ()).fs)
        LockableVault.secretOf (OpensOne RefPrivate (keyPair ()).fs ["plain", "id"])
        ["plain", "id"] (keyPair ⟨false, []⟩) outcomes v ∧
      EndsWithReport (runEnroll RefPrivate ⟨["plain", "id"]⟩ .json) (keyPair ⟨false, []⟩) .json
        "gitway biometric enroll" "enrolled" outcomes v) ∧
    (∃ stdout stderr, runEnroll RefPrivate ⟨["plain", "id"]⟩ .json
      (keyPair UnsupportedVault.featureOff) = (.ok EXIT_NEEDS_INTERACTIVE,
        { keyPair UnsupportedVault.featureOff with stdout := stdout, stderr := stderr })) ∧
    (∃ outcomes v,
      Accounts (forgetFile RefPrivate) id (entryOf RefPrivate (keyPair ()).fs)
        LockableVault.secretOf Gone ["plain", "id"]
        (keyPair ⟨false, [("gitway:ssh:SHA256:AAAA", "old")]⟩) outcomes v ∧
      EndsWithReport (runForget RefPrivate ⟨false, ["plain", "id"]⟩ .json)
        (keyPair ⟨false, [("gitway:ssh:SHA256:AAAA", "old")]⟩) .json "gitway biometric forget"
        "forgot" outcomes v) ∧
    ∃ outcomes v,
      Accounts forgetEnrolled EnrolledKey.fingerprint
        (fun key => some (keyIdFromFingerprint key.fingerprint)) LockableVault.secretOf Gone
        [⟨"SHA256:AAAA", none⟩] (keyPair ⟨false, [("gitway:ssh:SHA256:AAAA", "old")]⟩)
        outcomes v ∧
      EndsWithReport (runForget RefPrivate ⟨true, []⟩ .json)
        (keyPair ⟨false, [("gitway:ssh:SHA256:AAAA", "old")]⟩) .json "gitway biometric forget"
        "forgot" outcomes v :=
  ⟨lockableVault_keystore, unsupportedVault_keystore,
    (batches_accounted RefPrivate lockableVault_keystore).1 ⟨["plain", "id"]⟩ .json
      (keyPair ⟨false, []⟩) ["plain", "id"] rfl rfl (keyPair_answered _),
    (batches_accounted RefPrivate unsupportedVault_keystore).2.1 ⟨["plain", "id"]⟩ .json
      (keyPair .featureOff) rfl,
    (batches_accounted RefPrivate lockableVault_keystore).2.2.1 ⟨false, ["plain", "id"]⟩ .json
      (keyPair ⟨false, [("gitway:ssh:SHA256:AAAA", "old")]⟩) rfl (by simp),
    ((batches_accounted RefPrivate lockableVault_keystore).2.2.2 ⟨true, []⟩ .json
      (keyPair ⟨false, [("gitway:ssh:SHA256:AAAA", "old")]⟩) [⟨"SHA256:AAAA", none⟩] rfl
      rfl).2⟩

/-- A build without the feature: no prompt fails, and yet enrolling two files reports no
outcome at all. -/
theorem enroll_without_backend :
    Keystore UnsupportedVault.secretOf ∧
    (resolvePaths ["plain", "id"] (keyPair UnsupportedVault.featureOff)).1 =
      .ok ["plain", "id"] ∧
    PromptsAnswered RefPrivate ["plain", "id"]
      (announced .json (keyPair UnsupportedVault.featureOff)) ∧
    ¬ ∃ outcomes v, EndsWithReport (runEnroll RefPrivate ⟨["plain", "id"]⟩ .json)
      (keyPair UnsupportedVault.featureOff) .json "gitway biometric enroll" "enrolled"
      outcomes v := by
  refine ⟨unsupportedVault_keystore, rfl, keyPair_answered _, ?_⟩
  rintro ⟨outcomes, v, reported, -⟩
  have printed := congrArg (fun run => run.2.stdout.getLast?) reported
  -- What is printed is an error, and no list of outcomes.
  have report : (emitResults .json "gitway biometric enroll" outcomes "enrolled" v).2.stdout =
      v.stdout ++ [.json (.obj [
        ("metadata", metadataBlock v.env "gitway biometric enroll"),
        ("data", .obj [("results", .arr (outcomes.map (outcomeJson "enrolled")))])])] := rfl
  have refusal : (runEnroll RefPrivate ⟨["plain", "id"]⟩ .json
      (keyPair UnsupportedVault.featureOff)).2.stdout.getLast? =
      some (.json (.obj [
        ("metadata", metadataBlock (environment []) "gitway biometric enroll"),
        ("error", .obj [("exit_code", .num 78),
          ("message", .str (BiometricError.unavailable Tier.unsupported.description).text)])])) :=
    rfl
  simp only [report, refusal, List.getLast?_concat, Option.some.injEq, Emitted.json.injEq,
    Json.obj.injEq, List.cons.injEq, Prod.mk.injEq] at printed
  exact absurd printed.2.1.1 (by decide)

end Gitway.Biometric
