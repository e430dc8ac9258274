import Gitway.Biometric.Calls
import Gitway.Biometric.Heal

/-!
# Copies of one key

The keystore has one entry for a key pair, and the pair may lie in several files under
different passphrases. Beside the world we keep the file that each entry was enrolled
from. An automatic unlock judges an entry by the file it is loading instead.
-/
namespace Gitway.Biometric

open Lib

variable {Priv Pub Ag Va Te : Type} [PublicKey Pub] [PrivateKey Priv Pub] [BiometricBackend Va]
  [Terminal Te]

/-! ### Enrolling -/

inductive Enroller where
  | command
  | agentAdd
  | shimAdd
  deriving DecidableEq, Repr

/-- The world after the key of a file was enrolled, or was not. -/
def Enroller.run (enroller : Enroller) (path : String) (key : Priv) (w : World Ag Va Te) :
    World Ag Va Te :=
  match enroller with
  | .command => (enrollOne Priv path w).2
  | .agentAdd => (Agent.loadPrivateKey path key .enroll w).2
  | .shimAdd => (Agent.loadAndDecrypt path key .enroll w).2

/-- Nothing is stored, or a passphrase that opens the key. -/
def StoresOpening (key : Priv) (before after : Va) : Prop :=
  after = before ∨ ∃ pass plain, PrivateKey.decrypt key pass = .ok plain ∧
    after = (BiometricVault.store (keyId key) pass before).2

omit [Terminal Te] in
private theorem loadKey_stores {tool : String} {prompt : String → Program Ag Va Te String}
    {decryptFailed : String → String → String} {path : String} {key : Priv}
    (prompts : Fallible.Keeps World.vault (prompt path)) (w : World Ag Va Te) :
    StoresOpening key w.vault
      (Agent.loadKey tool prompt decryptFailed path key .enroll w).2.vault := by
  rcases Agent.loadKey_enroll prompts key w with same | ⟨pass, plain, opened, _, after⟩
  · exact Or.inl same
  · exact Or.inr ⟨pass, plain, opened, after⟩

/-- What every way of enrolling the key of a file does to the keystore. -/
theorem enroller_stores (enroller : Enroller) {path : String} {key : Priv} {w : World Ag Va Te}
    (there : keyAt Priv w.fs path = some key) :
    StoresOpening key w.vault (enroller.run path key w).vault := by
  have prompts : Fallible.Keeps World.vault
      (Prompt.promptPassphraseInteractive path : Program Ag Va Te String) :=
    Prompt.keeps_promptPassphraseInteractive Program.aside_vault path
  cases enroller with
  | agentAdd => exact loadKey_stores prompts w
  | shimAdd =>
    exact loadKey_stores (Agent.keeps_shimPromptPassphrase Program.aside_vault path) w
  | command =>
    have read : readKey Priv path w = (.ok (keyIn Priv w.fs path), w) := rfl
    show StoresOpening key w.vault (enrollOne Priv path w).2.vault
    unfold enrollOne
    rw [Fallible.bind_of_ok read]
    cases found : keyIn Priv w.fs path with
    | error message => exact Or.inl rfl
    | ok key' =>
      obtain rfl : key' = key := Option.some.inj ((keyAt_of_keyIn found).symm.trans there)
      -- A key that is not encrypted is refused before the prompt.
      dsimp only
      split
      · exact Or.inl rfl
      cases typed : Prompt.promptPassphraseInteractive path w with
      | mk answer v =>
        have same : v.vault = w.vault := prompts.eq typed
        cases answer with
        | error e =>
          rw [Fallible.bind_of_error typed]
          exact Or.inl same
        | ok pass =>
          rw [Fallible.bind_of_ok typed]
          cases opened : PrivateKey.decrypt key' pass with
          | error reason => exact Or.inl same
          | ok plain =>
            refine Or.inr ⟨pass, plain, opened, ?_⟩
            -- The answer of the keystore only decides what is reported.
            dsimp only
            rw [Fallible.bind_of_ok (Program.onVault_run v _), ← same]
            cases (BiometricVault.store (keyId key') pass v.vault).1 <;> rfl

/-! ### Runs -/

/-- The world and the file that each entry was last enrolled from. -/
structure Tracked (Ag Va Te : Type) where
  world : World Ag Va Te
  origin : String → Option String

inductive Move (Priv : Type) where
  | enroll (enroller : Enroller) (path : String)
  | access (e : Event Priv)

def Move.isForget (id : String) : Move Priv → Prop
  | .access (.delete i) => i = id
  | _ => False

/-- Enrolling a key file, or an access to the keystore that is none: loading and
forgetting. Files change from outside, by a change of passphrase among others. -/
inductive Moves : Tracked Ag Va Te → Move Priv → Tracked Ag Va Te → Prop where
  | enrolled {t : Tracked Ag Va Te} {enroller : Enroller} {path pass : String} {key plain : Priv}
    (there : keyAt Priv t.world.fs path = some key)
    (opened : PrivateKey.decrypt key pass = .ok plain)
    (answer : (BiometricVault.store (keyId key) pass t.world.vault).1 = .ok ())
    (ran : (enroller.run path key t.world).vault =
      (BiometricVault.store (keyId key) pass t.world.vault).2) :
    Moves t (.enroll enroller path)
      ⟨enroller.run path key t.world, Function.update t.origin (keyId key) (some path)⟩
  | not_enrolled {t : Tracked Ag Va Te} {enroller : Enroller} {path : String} {key : Priv}
    (there : keyAt Priv t.world.fs path = some key)
    (ran : (enroller.run path key t.world).vault = t.world.vault ∨ ∃ pass e,
      (BiometricVault.store (keyId key) pass t.world.vault).1 = .error e ∧
        (enroller.run path key t.world).vault =
          (BiometricVault.store (keyId key) pass t.world.vault).2) :
    Moves t (.enroll enroller path) ⟨enroller.run path key t.world, t.origin⟩
  | access {t : Tracked Ag Va Te} {w : World Ag Va Te} {e : Event Priv}
    (no_store : ∀ id pass, e ≠ .store id pass) (evolves : Evolves t.world e w) :
    Moves t (.access e) ⟨w, t.origin⟩

/-- Enrolling a key file is always one of the moves. -/
theorem enroll_moves (enroller : Enroller) {path : String} {key : Priv} {t : Tracked Ag Va Te}
    (there : keyAt Priv t.world.fs path = some key) :
    ∃ origin, Moves t (.enroll enroller path : Move Priv)
      ⟨enroller.run path key t.world, origin⟩ := by
  rcases enroller_stores enroller there with same | ⟨pass, plain, opened, after⟩
  · exact ⟨t.origin, Moves.not_enrolled there (Or.inl same)⟩
  · cases answer : (BiometricVault.store (keyId key) pass t.world.vault).1 with
    | ok => exact ⟨_, Moves.enrolled there opened answer after⟩
    | error e => exact ⟨t.origin, Moves.not_enrolled there (Or.inr ⟨pass, e, answer, after⟩)⟩

section
variable (Priv) in
/-- The entry still opens the file it was enrolled from. -/
def Valid (secretOf : Va → String → Option String) (t : Tracked Ag Va Te) (id : String) : Prop :=
  ∃ pass path, secretOf t.world.vault id = some pass ∧ t.origin id = some path ∧
    ∃ key plain : Priv, keyAt Priv t.world.fs path = some key ∧
      PrivateKey.decrypt key pass = .ok plain

/-- The entry is there before and not after. -/
def Removed (secretOf : Va → String → Option String) (t t' : Tracked Ag Va Te) (id : String) :
    Prop :=
  secretOf t.world.vault id ≠ none ∧ secretOf t'.world.vault id = none

/-- A released secret that opens the file it was enrolled from opens the file that is being
loaded as well, or the keystore does not delete it. -/
def Spares (secretOf : Va → String → Option String) (t : Tracked Ag Va Te) (key : Priv) : Prop :=
  ∀ pass, (BiometricVault.retrieve (keyId key) t.world.vault).1 = .ok pass →
    Valid Priv secretOf t (keyId key) →
      (∃ plain, PrivateKey.decrypt key pass = .ok plain) ∨ ¬ Deletes key t.world.vault

/-- A move that spares valid entries when it is a load. -/
def Sparing (secretOf : Va → String → Option String) (t : Tracked Ag Va Te) (m : Move Priv)
    (t' : Tracked Ag Va Te) : Prop :=
  Moves t m t' ∧ ∀ caller path key outcome, m = .access (.load caller path key outcome) →
    Spares secretOf t key

end

section
variable {secretOf : Va → String → Option String} {id : String}

/-- Step lemma: an entry goes when it is forgotten, or when its secret was released for a
key that it did not open. -/
theorem removed_cases (laws : Keystore secretOf) {t t' : Tracked Ag Va Te} {m : Move Priv}
    (move : Moves t m t') (removed : Removed secretOf t t' id) :
    m.isForget id ∨ ∃ caller path key outcome, m = .access (.load caller path key outcome) ∧
      id = keyId key ∧ Deletes key t.world.vault ∧ ∃ pass e,
        (BiometricVault.retrieve (keyId key) t.world.vault).1 = .ok pass ∧
          PrivateKey.decrypt key pass = .error e := by
  obtain ⟨before, after⟩ := removed
  cases move with
  | @enrolled enroller path pass key plain there opened answer ran =>
    rw [ran, laws.stored _ _ _ answer] at after
    -- An enrolment puts an entry in, so it removes none.
    by_cases same : id = keyId key
    · rw [same, Function.update_self] at after
      simp at after
    · rw [Function.update_of_ne same] at after
      exact absurd after before
  | not_enrolled there ran =>
    rcases ran with same | ⟨pass, e, answer, ran⟩
    · rw [same] at after
      exact absurd after before
    · rw [ran, laws.not_stored _ _ _ e answer] at after
      exact absurd after before
  | @access w e no_store evolves =>
    cases evolves with
    | @load caller path key _ outcome there asks answer =>
      rw [(load_reports there asks).vault] at after
      -- A load removes at most the entry of its own key.
      rcases unlock_entry laws key t.world id with same | ⟨same_id, _, deletes, refused⟩
      · exact absurd (same.symm.trans after) before
      · exact Or.inr ⟨caller, path, key, outcome, rfl, same_id, deletes, refused⟩
    | store i pass => exact absurd rfl (no_store i pass)
    | delete i =>
      left
      by_cases same : i = id
      · exact same
      · cases answer : (BiometricVault.delete i t.world.vault).1 with
        | ok =>
          rw [laws.deleted _ _ answer, Function.update_of_ne (Ne.symm same)] at after
          exact absurd after before
        | error reason =>
          rw [laws.not_deleted _ _ reason answer] at after
          exact absurd after before
    -- Listing and changes from outside leave every entry.
    | list =>
      rw [laws.list_keeps] at after
      exact absurd after before
    | outside same =>
      rw [same] at after
      exact absurd after before

/-- A stale load removes the entry of its key when the keystore deletes it. -/
theorem load_removes (laws : Keystore secretOf) {t t' : Tracked Ag Va Te} {caller : Caller}
    {path : String} {key : Priv} {outcome : AutoUnlock}
    (move : Moves t (.access (.load caller path key outcome)) t') {pass e : String}
    (released : (BiometricVault.retrieve (keyId key) t.world.vault).1 = .ok pass)
    (refused : PrivateKey.decrypt key pass = .error e) (deletes : Deletes key t.world.vault) :
    Removed secretOf t t' (keyId key) := by
  have entry := laws.retrieved _ _ _ released
  refine ⟨by simp [entry], ?_⟩
  cases move with
  | access no_store evolves =>
    cases evolves with
    | load there asks answer =>
      have stale : (autoUnlockPassphrase key t.world).1 = .ok .stale := by
        rcases autoUnlockPassphrase_cases key t.world with
          ⟨e', failed, _⟩ | ⟨pass', plain, found, opened, _⟩ | ⟨pass', e', _, _, ran⟩
        · simp [released] at failed
        -- The keystore released a secret that the key refused: the unlock ends in `Stale`.
        · obtain rfl : pass = pass' := Except.ok.inj (released.symm.trans found)
          simp [refused] at opened
        · rw [ran]
      rw [(load_reports there asks).vault]
      exact (stale_gone_iff laws stale).mpr deletes

/-- Loads take out only entries that no longer open their own file, exactly when they spare
those that do. In runs of such loads every other entry that disappears was forgotten. -/
theorem valid_survives_iff (laws : Keystore secretOf) :
    (∀ (t t' : Tracked Ag Va Te) caller path (key : Priv) outcome,
      Moves t (.access (.load caller path key outcome)) t' →
        ((∀ id, Removed secretOf t t' id → ¬ Valid Priv secretOf t id) ↔
          Spares secretOf t key)) ∧
      ∀ (t t' : Tracked Ag Va Te) (ms : List (Move Priv)),
        Run (Sparing secretOf) t ms t' → ∀ id, Removed secretOf t t' id →
          ∃ ms₁ m ms₂ s s', ms = ms₁ ++ m :: ms₂ ∧ Run (Sparing secretOf) t ms₁ s ∧
            Moves s m s' ∧ Run (Sparing secretOf) s' ms₂ t' ∧ Removed secretOf s s' id ∧
              (Valid Priv secretOf s id → m.isForget id) := by
  constructor
  · intro t t' caller path key outcome move
    constructor
    · intro only_invalid pass released valid
      -- A load that does not spare a valid entry removes it.
      by_contra unsafe_load
      obtain ⟨not_opened, deletes⟩ := not_or.mp unsafe_load
      cases refused : PrivateKey.decrypt key pass with
      | ok plain => exact not_opened ⟨plain, refused⟩
      | error e =>
        have removed := load_removes laws move released refused (not_not.mp deletes)
        exact only_invalid (keyId key) removed valid
    · intro spares id removed valid
      rcases removed_cases laws move removed with
        forget | ⟨caller', path', key', outcome', same, rfl, deletes, pass, e, released, refused⟩
      · exact forget.elim
      · obtain ⟨rfl, rfl, rfl, rfl⟩ : caller = caller' ∧ path = path' ∧ key = key' ∧
            outcome = outcome' := by simpa using same
        -- The released secret did not open the key and was deleted, against both alternatives.
        rcases spares pass released valid with ⟨plain, opened⟩ | refuses
        · simp [refused] at opened
        · exact refuses deletes
  · intro t t' ms run id removed
    -- The entry was there at the start, so one of the steps removed it.
    have start : ¬ secretOf t.world.vault id = none := removed.1
    obtain ⟨ms₁, m, ms₂, s, s', split, first, step, last, before, after⟩ :=
      Run.introduced (G := fun t => secretOf t.world.vault id = none) run start removed.2
    refine ⟨ms₁, m, ms₂, s, s', split, first, step.1, last, ⟨before, after⟩, ?_⟩
    intro valid
    rcases removed_cases laws step.1 ⟨before, after⟩ with
      forget | ⟨caller, path, key, outcome, rfl, rfl, deletes, pass, e, released, refused⟩
    · exact forget
    · rcases step.2 caller path key outcome rfl pass released valid with ⟨plain, opened⟩ | refuses
      · simp [refused] at opened
      · exact absurd deletes refuses

end

/-! ### Two copies of a key -/

open Reference

private def original : RefPrivate := ⟨⟨"AAAA"⟩, some "old"⟩

private def copied : RefPrivate := ⟨⟨"AAAA"⟩, some "other"⟩

private def twoFiles : FileSystem := textFiles [
  ("id", "openssh-key-v1 AAAA aes256-ctr old"), ("copy", "openssh-key-v1 AAAA aes256-ctr other")]

private def beforeEnrolling : Tracked RefAgent LockableVault RefTerminal where
  world := {
    env := environment []
    fs := twoFiles
    agent := ⟨false, []⟩
    vault := ⟨false, []⟩
    terminal := ⟨["old", "other"]⟩
    stdin := .ok ByteArray.empty
    stdout := []
    stderr := []
    signals := [] }
  origin _ := none

private def afterEnrolling : Tracked RefAgent LockableVault RefTerminal :=
  ⟨Enroller.agentAdd.run "id" original beforeEnrolling.world,
    Function.update beforeEnrolling.origin (keyId original) (some "id")⟩

private theorem original_there : keyAt RefPrivate twoFiles "id" = some original :=
  keyAt_of_parsed (readToString_textFiles _ "id" "openssh-key-v1 AAAA aes256-ctr old" rfl) rfl

private theorem copied_there : keyAt RefPrivate twoFiles "copy" = some copied :=
  keyAt_of_parsed (readToString_textFiles _ "copy" "openssh-key-v1 AAAA aes256-ctr other" rfl) rfl

private theorem original_enrolled :
    Moves beforeEnrolling (.enroll .agentAdd "id" : Move RefPrivate) afterEnrolling := by
  have opened : PrivateKey.decrypt original "old" = .ok ⟨⟨"AAAA"⟩, none⟩ := rfl
  exact Moves.enrolled original_there opened rfl rfl

private theorem original_valid :
    Valid RefPrivate LockableVault.secretOf afterEnrolling (keyId original) :=
  ⟨"old", "id", rfl, rfl, original, ⟨⟨"AAAA"⟩, none⟩, original_there, rfl⟩

/-- The enrolled file itself is loaded: no valid entry goes. -/
theorem valid_survives_original :
    Keystore LockableVault.secretOf ∧ ∀ id,
      Removed LockableVault.secretOf afterEnrolling
        ⟨Caller.agentAdd.load "id" original afterEnrolling.world, afterEnrolling.origin⟩ id →
      ¬ Valid RefPrivate LockableVault.secretOf afterEnrolling id := by
  refine ⟨lockableVault_keystore, ?_⟩
  have loaded : Evolves afterEnrolling.world
      (.load .agentAdd "id" original (.passphrase "old"))
      (Caller.agentAdd.load "id" original afterEnrolling.world) :=
    Evolves.load original_there (Or.inr rfl) rfl
  refine ((valid_survives_iff lockableVault_keystore).1 afterEnrolling _ _ _ _ _
    (Moves.access (by simp) loaded)).mpr ?_
  intro pass released _
  obtain rfl : "old" = pass := Except.ok.inj released
  exact Or.inl ⟨⟨⟨"AAAA"⟩, none⟩, rfl⟩

/-- A key is enrolled from one file, and a copy of it under another passphrase is loaded:
the entry goes, although it still opens the file it was enrolled from. -/
theorem copy_removes_valid :
    ∃ t₀ t₁ t₂ : Tracked RefAgent LockableVault RefTerminal, t₀.world.vault.secrets = [] ∧
      Moves t₀ (.enroll .agentAdd "id" : Move RefPrivate) t₁ ∧
      Moves t₁ (.access (.load .agentAdd "copy" copied .stale)) t₂ ∧
      Valid RefPrivate LockableVault.secretOf t₁ (keyId original) ∧
      Removed LockableVault.secretOf t₁ t₂ (keyId original) := by
  have loaded : Evolves afterEnrolling.world (.load .agentAdd "copy" copied .stale)
      (Caller.agentAdd.load "copy" copied afterEnrolling.world) :=
    Evolves.load copied_there (Or.inr rfl) rfl
  have move := Moves.access (by simp) loaded
  exact ⟨beforeEnrolling, afterEnrolling, _, rfl, original_enrolled, move, original_valid,
    by decide, rfl⟩

end Gitway.Biometric
