import Gitway.Biometric.Backend
import Gitway.Lib.Hoare
import Gitway.Lib.Lossy

/-!
# A keystore as a store

Seen through `BiometricVault` a keystore has a cell for each fingerprint. `Backs` says that a
backend is in step with the cells, and `Backs.simulates` that its accesses then are the steps of
a store, one that loses entries when a write fails or one that does not. A backend may have to
find or make the place of an entry empty for a write to replace the entry.
-/
namespace Gitway.Biometric

open Lib Lib.Fallible

abbrev Access : Type := Lossy.Event String String

/-- An attempt to unlock, with its answer. -/
def unlocking (fingerprint : String) : Except BiometricError String → Access
  | .ok pass => .read fingerprint (some pass)
  | .error .notEnrolled => .missing fingerprint
  | .error _ => .read fingerprint none

/-- The access, with its answer. -/
inductive Accesses {Va : Type} [BiometricBackend Va] : Va → Access → Va → Prop where
  | store (v : Va) (fingerprint pass : String) :
    Accesses v (.write fingerprint pass
        (BiometricVault.store (keyIdFromFingerprint fingerprint) pass v).1.isOk)
      (BiometricVault.store (keyIdFromFingerprint fingerprint) pass v).2
  | delete (v : Va) (fingerprint : String) :
    Accesses v (.erase fingerprint
        (BiometricVault.delete (keyIdFromFingerprint fingerprint) v).1.isOk)
      (BiometricVault.delete (keyIdFromFingerprint fingerprint) v).2
  | retrieve (v : Va) (fingerprint : String) :
    Accesses v (unlocking fingerprint
        (BiometricVault.retrieve (keyIdFromFingerprint fingerprint) v).1)
      (BiometricVault.retrieve (keyIdFromFingerprint fingerprint) v).2
  | list (v : Va) : Accesses v .look (BiometricBackend.list v).2

abbrev Cells : Type := String → Option String

/-- The answer to an attempt to unlock says what is in the cell. -/
structure Truthful (m : Cells) (fingerprint : String) (r : Except BiometricError String) :
    Prop where
  released : ∀ pass, r = .ok pass → m fingerprint = some pass
  missing : r = .error .notEnrolled → m fingerprint = none

theorem Truthful.ok {m : Cells} {fingerprint pass : String} (there : m fingerprint = some pass) :
    Truthful m fingerprint (.ok pass) where
  released _ same := by rw [there, Except.ok.inj same]
  missing refused := by cases refused

theorem Truthful.vacant {m : Cells} {fingerprint : String} (gone : m fingerprint = none) :
    Truthful m fingerprint (.error .notEnrolled) where
  released _ same := by cases same
  missing _ := gone

theorem Truthful.other {m : Cells} {fingerprint : String} {e : BiometricError}
    (other : e ≠ .notEnrolled) : Truthful m fingerprint (.error e) where
  released _ same := by cases same
  missing same := absurd (Except.error.inj same) other

/-- A write that succeeds finds the keystore ready for it. -/
def Orderly {Va : Type} (ready : Va → String → Prop) (v : Va) (e : Access) : Prop :=
  ∀ fingerprint pass, e = .write fingerprint pass true → ready v fingerprint

/-- What a write leaves: the passphrase where it succeeded and the keystore was ready for it.
Where it failed the entry is the one from before, or lost in a keystore that `loses`. -/
structure Stored {Va : Type} (loses ready : Prop) (R : Va → Cells → Prop) (m : Cells)
    (fingerprint pass : String) (r : Except BiometricError Unit) (v : Va) : Prop where
  written : r.isOk → ready → R v (Function.update m fingerprint (some pass))
  failed : ¬r.isOk → R v m ∨ loses ∧ R v (Function.update m fingerprint none)

section
variable {Va : Type} {loses ready : Prop} {R : Va → Cells → Prop} {m : Cells}
  {fingerprint pass : String} {v : Va}

theorem Stored.ok (put : ready → R v (Function.update m fingerprint (some pass))) :
    Stored loses ready R m fingerprint pass (.ok ()) v where
  written _ := put
  failed refused := absurd rfl refused

theorem Stored.error {e : BiometricError}
    (left : R v m ∨ loses ∧ R v (Function.update m fingerprint none)) :
    Stored loses ready R m fingerprint pass (.error e) v where
  written done := absurd done Bool.false_ne_true
  failed _ := left

end

/-- The keystore and the cells are in step. What succeeds has its effect on the cells. A
passphrase that is released is the one in its cell, and the cell of a key that is said not to be
enrolled is empty. -/
structure Backs {Va : Type} [BiometricBackend Va] (loses : Prop) (ready : Va → String → Prop)
    (R : Va → Cells → Prop) : Prop where
  store : ∀ m fingerprint pass (v : Va), R v m → Stored loses (ready v fingerprint) R m
    fingerprint pass (BiometricVault.store (keyIdFromFingerprint fingerprint) pass v).1
    (BiometricVault.store (keyIdFromFingerprint fingerprint) pass v).2
  delete : ∀ m fingerprint, Hoare (R · m)
    (BiometricVault.delete (keyIdFromFingerprint fingerprint) :
      Fallible Va BiometricError Unit) fun r v =>
        if r.isOk then R v (Function.update m fingerprint none) else R v m
  retrieve : ∀ m fingerprint, Hoare (R · m)
    (BiometricVault.retrieve (keyIdFromFingerprint fingerprint) :
      Fallible Va BiometricError String) fun r v => R v m ∧ Truthful m fingerprint r
  list : ∀ m, Preserves (R · m)
    (BiometricBackend.list : Fallible Va BiometricError (List EnrolledKey))

/-- Every access is a step of the store. -/
theorem Backs.simulates {Va : Type} [BiometricBackend Va] {loses : Prop}
    {ready : Va → String → Prop} {R : Va → Cells → Prop} (backs : Backs loses ready R) (v : Va)
    (e : Access) (v' : Va) (m : Cells) (before : R v m)
    (access : Accesses v e v' ∧ Orderly ready v e) : ∃ m', R v' m' ∧ Lossy.Step loses m e m' := by
  obtain ⟨accesses, orderly⟩ := access
  cases accesses with
  -- The label says whether the store succeeded, and with it which step is taken.
  | store fingerprint pass =>
    have after := backs.store m fingerprint pass v before
    cases done : (BiometricVault.store (keyIdFromFingerprint fingerprint) pass v).1.isOk with
    | true =>
      rw [done] at orderly
      have prepared := orderly fingerprint pass rfl
      exact ⟨_, after.written done prepared, .written m fingerprint pass⟩
    | false =>
      rcases after.failed (by simp [done]) with kept | ⟨may, lost⟩
      · exact ⟨m, kept, .not_written m fingerprint pass⟩
      · exact ⟨_, lost, .lost m fingerprint pass may⟩
  | delete fingerprint =>
    have after := backs.delete m fingerprint v before
    dsimp only at after
    split at after
    · rename_i done
      rw [done]
      exact ⟨_, after, .erased m fingerprint⟩
    · rename_i refused
      rw [Bool.eq_false_iff.mpr refused]
      exact ⟨m, after, .not_erased m fingerprint⟩
  | retrieve fingerprint =>
    obtain ⟨after, truthful⟩ := backs.retrieve m fingerprint v before
    refine ⟨m, after, ?_⟩
    unfold unlocking
    split
    next pass answer => exact .found m fingerprint pass (truthful.released pass answer)
    next answer => exact .missing m fingerprint (truthful.missing answer)
    · exact .not_found m fingerprint
  | list => exact ⟨m, backs.list m v before, .look m⟩

/-- Run lemma: the accesses of a run explain what the cells hold at its end. -/
theorem Backs.explains {Va : Type} [BiometricBackend Va] {loses : Prop}
    {ready : Va → String → Prop} {R : Va → Cells → Prop} (backs : Backs loses ready R) {v v' : Va}
    {es : List Access} {m : Cells} (before : R v m)
    (run : Run (fun v e v' => Accesses v e v' ∧ Orderly ready v e) v es v') :
    ∃ m', R v' m' ∧ Lossy.Explains loses m es m' := by
  obtain ⟨m', after, taken⟩ := run.simulated backs.simulates before
  exact ⟨m', after, Lossy.explains_of_run taken⟩

/-- A keystore in which every write replaces the entry is ready for all of them. -/
theorem Backs.explains_all {Va : Type} [BiometricBackend Va] {loses : Prop}
    {R : Va → Cells → Prop} (backs : Backs loses (fun _ _ => True) R) {v v' : Va}
    {es : List Access} {m : Cells} (before : R v m) (run : Run Accesses v es v') :
    ∃ m', R v' m' ∧ Lossy.Explains loses m es m' :=
  backs.explains before (run.mono fun _ _ _ access => ⟨access, fun _ _ _ => trivial⟩)

/-- The cells with their passphrases as bytes. -/
def encoded (m : Cells) : String → Option ByteArray := Option.map String.toUTF8 ∘ m

theorem encoded_update (m : Cells) (fingerprint : String) (secret : Option String) :
    encoded (Function.update m fingerprint secret) =
      Function.update (encoded m) fingerprint (secret.map String.toUTF8) :=
  Function.comp_update _ _ _ _

end Gitway.Biometric
