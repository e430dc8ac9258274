import Gitway.Biometric.Cmd
import Gitway.Biometric.Recorded
import Gitway.Keygen.Passphrase

/-!
# The calls that reach the keystore

Every command that reads or writes the keystore is watched through a recorded one.
`Watched` is the invariant: the entries are the earlier ones and those stored since,
and what was stored since is allowed.
-/
namespace Gitway.Biometric

open Lib

variable {Priv Pub Ag Va Te : Type}

/-- What is relied on of a keystore: an entry comes into it by being stored. -/
structure StoresOnly [BiometricBackend Va] (holds : Va → String → String → Prop) : Prop where
  store : ∀ (v : Va) id pass i s, holds (BiometricVault.store id pass v).2 i s →
    holds v i s ∨ i = id ∧ s = pass
  retrieve : ∀ (v : Va) id i s, holds (BiometricVault.retrieve id v).2 i s → holds v i s
  delete : ∀ (v : Va) id i s, holds (BiometricVault.delete id v).2 i s → holds v i s
  list : ∀ (v : Va) i s, holds (BiometricBackend.list v).2 i s → holds v i s

/-- The file and the keystore after some calls since `start`. -/
def Watched (holds : Va → String → String → Prop) (files : FileSystem → Prop)
    (allowed : String → String → Prop) (start : Recorded Va) (now : FileSystem × Recorded Va) :
    Prop :=
  files now.1 ∧ ∃ calls, now.2.calls = start.calls ++ calls ∧
    (∀ id secret, VaultCall.store id secret ∈ calls → allowed id secret) ∧
    ∀ id secret, holds now.2.vault id secret →
      holds start.vault id secret ∨ VaultCall.store id secret ∈ calls

/-- The part of the world that is watched. -/
def view (w : World Ag (Recorded Va) Te) : FileSystem × Recorded Va := (w.fs, w.vault)

theorem aside_view : Program.Aside (view : World Ag (Recorded Va) Te → _) :=
  ⟨fun _ _ => rfl, fun _ _ => rfl⟩

/-- The invariant, as a predicate on worlds. -/
def Watching (Ag Te : Type) (holds : Va → String → String → Prop) (files : FileSystem → Prop)
    (allowed : String → String → Prop) (start : Recorded Va) (w : World Ag (Recorded Va) Te) :
    Prop :=
  Watched holds files allowed start (view w)

section
variable {α : Type} {holds : Va → String → String → Prop} {files : FileSystem → Prop}
  {allowed : String → String → Prop} {start : Recorded Va}

/-- One more call keeps the invariant when it may store what it stores. -/
theorem watching_call {op : Va → Except BiometricError α × Va} {call : VaultCall}
    (legal : ∀ id secret, call = .store id secret → allowed id secret)
    (adds : ∀ v id secret, holds (op v).2 id secret → holds v id secret ∨ call = .store id secret) :
    Fallible.Preserves (Watching Ag Te holds files allowed start)
      (Program.onVault fun rec : Recorded Va =>
        ((op rec.vault).1, ⟨(op rec.vault).2, rec.calls ++ [call]⟩)) := by
  rintro w ⟨there, calls, since, all_allowed, entries⟩
  refine ⟨there, calls ++ [call], by simp [view] at since ⊢; simp [since], ?_, ?_⟩
  · intro id secret stored
    -- The call is one of the earlier ones or the last.
    rcases List.mem_append.mp stored with earlier | now
    · exact all_allowed id secret earlier
    · exact legal id secret (List.mem_singleton.mp now).symm
  · intro id secret held
    rcases adds w.vault.vault id secret held with was | now
    · rcases entries id secret was with first | later
      · exact Or.inl first
      · exact Or.inr (List.mem_append_left _ later)
    · exact Or.inr (by simp [now])

/-- What leaves files and keystore alone keeps the invariant. -/
theorem watching_of_keeps {x : Program Ag (Recorded Va) Te α} (frame : Fallible.Keeps view x) :
    Fallible.Preserves (Watching Ag Te holds files allowed start) x :=
  frame.preserves (Watched holds files allowed start)

end

/-! ### The readers -/

section
variable [PublicKey Pub] [PrivateKey Priv Pub] [BiometricBackend Va]
  {holds : Va → String → String → Prop} {files : FileSystem → Prop}
  {allowed : String → String → Prop} {start : Recorded Va}

theorem watching_retrieve (laws : StoresOnly holds) (id : String) :
    Fallible.Preserves (Watching Ag Te holds files allowed start)
      (Program.onVault (BiometricVault.retrieve id)) :=
  watching_call (fun _ _ stored => by simp at stored)
    fun v i s held => Or.inl (laws.retrieve v id i s held)

theorem watching_delete (laws : StoresOnly holds) (id : String) :
    Fallible.Preserves (Watching Ag Te holds files allowed start)
      (Program.onVault (BiometricVault.delete id)) :=
  watching_call (fun _ _ stored => by simp at stored)
    fun v i s held => Or.inl (laws.delete v id i s held)

theorem watching_list (laws : StoresOnly holds) :
    Fallible.Preserves (Watching Ag Te holds files allowed start)
      (Program.onVault BiometricBackend.list) :=
  watching_call (fun _ _ stored => by simp at stored)
    fun v i s held => Or.inl (laws.list v i s held)

theorem watching_store (laws : StoresOnly holds) {id pass : String} (legal : allowed id pass) :
    Fallible.Preserves (Watching Ag Te holds files allowed start)
      (Program.onVault (BiometricVault.store id pass)) := by
  apply watching_call
  · intro i s stored
    simp only [VaultCall.store.injEq] at stored
    obtain ⟨rfl, rfl⟩ := stored
    exact legal
  · intro v i s held
    rcases laws.store v id pass i s held with was | ⟨rfl, rfl⟩
    · exact Or.inl was
    · exact Or.inr rfl

theorem watching_autoUnlockPassphrase (laws : StoresOnly holds) (key : Priv) :
    Fallible.Preserves (Watching Ag Te holds files allowed start) (autoUnlockPassphrase key) := by
  have asked : Fallible.Preserves (Watching Ag Te holds files allowed start)
      (autoUnlock (keyId key)) := by
    apply Fallible.Preserves.bind (watching_retrieve laws _)
    intro answer
    cases answer <;> exact Fallible.Preserves.pure _
  apply Fallible.Preserves.bind asked
  intro answer
  cases answer with
  | none => exact Fallible.Preserves.pure _
  | some passphrase =>
    dsimp only
    cases PrivateKey.decrypt key passphrase with
    | ok plain => exact Fallible.Preserves.pure _
    -- The trial decryption failed, and the entry is taken out.
    | error e =>
      exact Fallible.Preserves.bind (watching_delete laws _) fun _ => Fallible.Preserves.pure _

variable [Terminal Te]

omit [BiometricBackend Va] in
theorem watching_promptPassphraseInteractive (path : String) :
    Fallible.Preserves (Watching Ag Te holds files allowed start)
      (Prompt.promptPassphraseInteractive path) :=
  watching_of_keeps (Prompt.keeps_promptPassphraseInteractive aside_view path)

omit [BiometricBackend Va] in
theorem watching_shimPromptPassphrase (path : String) :
    Fallible.Preserves (Watching Ag Te holds files allowed start)
      (Agent.shimPromptPassphrase path) :=
  watching_of_keeps (Agent.keeps_shimPromptPassphrase aside_view path)

theorem watching_promptPassphrase (laws : StoresOnly holds) (path : String) :
    Fallible.Preserves (Watching Ag Te holds files allowed start)
      (Prompt.promptPassphrase Priv path) := by
  have asked : Fallible.Preserves (Watching Ag Te holds files allowed start)
      (Prompt.biometricAutoUnlock Priv path) := by
    refine Fallible.Preserves.bind (Fallible.Preserves.query _) ?_
    intro found
    cases found with
    | none => exact Fallible.Preserves.pure _
    | some key =>
      apply Fallible.Preserves.bind (watching_autoUnlockPassphrase laws key)
      intro outcome
      cases outcome with
      | passphrase pass => exact Fallible.Preserves.pure _
      | stale =>
        exact Fallible.Preserves.bind (watching_of_keeps fun _ => rfl)
          fun _ => Fallible.Preserves.pure _
      | fallback => exact Fallible.Preserves.pure _
  apply Fallible.Preserves.bind asked
  intro answer
  cases answer with
  | some passphrase => exact Fallible.Preserves.pure _
  | none => exact watching_promptPassphraseInteractive path

/-! ### The writers -/

/-- A passphrase is stored with the id of a key that it opens. -/
def Opening (allowed : String → String → Prop) (key : Priv) : Prop :=
  ∀ pass plain, PrivateKey.decrypt key pass = .ok plain → allowed (keyId key) pass

omit [Terminal Te] in
theorem watching_loadKey (laws : StoresOnly holds) {tool : String}
    {prompt : String → Program Ag (Recorded Va) Te String}
    (prompts : ∀ path, Fallible.Preserves (Watching Ag Te holds files allowed start) (prompt path))
    {decryptFailed : String → String → String} {path : String} {key : Priv}
    (opening : Opening allowed key) (unlock : UnlockMode) :
    Fallible.Preserves (Watching Ag Te holds files allowed start)
      (Agent.loadKey tool prompt decryptFailed path key unlock) := by
  unfold Agent.loadKey
  split
  · exact Fallible.Preserves.pure _
  dsimp only
  cases unlock with
  | disabled => exact Fallible.Preserves.bind (prompts path) fun _ => Fallible.Preserves.query _
  | enroll =>
    apply Fallible.Preserves.bind (prompts path)
    intro pass
    -- The store comes after a decryption that succeeded.
    refine Fallible.Preserves.bind_of (Fallible.Preserves.query _) ?_
    intro w plain _ opened
    have opens : PrivateKey.decrypt key pass = .ok plain := mapError_eq_ok_iff.mp opened
    apply Fallible.Preserves.bind (watching_store laws (opening pass plain opens))
    intro stored
    cases stored <;>
      exact Fallible.Preserves.bind (watching_of_keeps fun _ => rfl)
        fun _ => Fallible.Preserves.pure _
  | auto =>
    apply Fallible.Preserves.bind (watching_autoUnlockPassphrase laws key)
    intro outcome
    cases outcome with
    | passphrase pass => exact Fallible.Preserves.query _
    | stale =>
      apply Fallible.Preserves.bind (watching_of_keeps fun _ => rfl)
      intro _
      exact Fallible.Preserves.bind (prompts path) fun _ => Fallible.Preserves.query _
    | fallback => exact Fallible.Preserves.bind (prompts path) fun _ => Fallible.Preserves.query _

end

/-! ### The commands -/

/-- The secret opens a key file with this id. -/
def Opens (Priv : Type) {Pub : Type} [PublicKey Pub] [PrivateKey Priv Pub] (fs : FileSystem)
    (id secret : String) : Prop :=
  ∃ path, ∃ key plain : Priv, keyAt Priv fs path = some key ∧ keyId key = id ∧
    PrivateKey.decrypt key secret = .ok plain

section
variable [PublicKey Pub] [PrivateKey Priv Pub] [BiometricBackend Va] [Terminal Te]
  {holds : Va → String → String → Prop} {fs : FileSystem} {start : Recorded Va}

omit [BiometricBackend Va] [Terminal Te] in
theorem opening_of_file {path : String} {key : Priv} (there : keyAt Priv fs path = some key) :
    Opening (Opens Priv fs) key :=
  fun _ plain opened => ⟨path, key, plain, there, rfl, opened⟩

/-- A command that reads these files and stores what opens one of them. -/
abbrev Verifies (Priv Ag Te : Type) {Pub Va α : Type} [PublicKey Pub] [PrivateKey Priv Pub]
    (holds : Va → String → String → Prop) (fs : FileSystem) (start : Recorded Va)
    (x : Program Ag (Recorded Va) Te α) : Prop :=
  Fallible.Preserves (Watching Ag Te holds (· = fs) (Opens Priv fs) start) x

variable [Agent Ag Priv Pub]

omit [BiometricBackend Va] [Terminal Te] in
theorem verifies_addOne {β : Type}
    {load : String → Priv → UnlockMode → Program Ag (Recorded Va) Te Priv}
    (loads : ∀ path key unlock, Opening (Opens Priv fs) key →
      Verifies Priv Ag Te holds fs start (load path key unlock))
    {onLoaded onAdded : β → String → Program Ag (Recorded Va) Te β}
    (onLoaded_keeps : ∀ acc path, Fallible.Keeps view (onLoaded acc path))
    (onAdded_keeps : ∀ acc path, Fallible.Keeps view (onAdded acc path))
    (loaded : List (Identity Pub)) (lifetime : Option Nat) (confirm : Bool) (unlock : UnlockMode)
    (acc : β) (path : String) :
    Verifies Priv Ag Te holds fs start
      (Agent.addOne load onLoaded onAdded loaded lifetime confirm unlock acc path) := by
  unfold Agent.addOne
  refine Fallible.Preserves.bind_of (Fallible.Preserves.query _) ?_
  intro w pem watched read
  have files : w.fs = fs := watched.1
  cases parsed : (PrivateKey.fromOpenssh pem : Except String Priv) with
  | error e => exact Fallible.Preserves.fail _
  | ok key =>
    dsimp only
    -- A key that is skipped is not decrypted, so nothing can be enrolled.
    split
    · exact watching_of_keeps (onLoaded_keeps acc path)
    · have there : keyAt Priv fs path = some key := by
        rw [← files]
        exact keyAt_of_parsed (Program.io_eq_ok_iff.mp read) parsed
      apply Fallible.Preserves.bind (loads path key unlock (opening_of_file there))
      intro decrypted
      apply Fallible.Preserves.bind (watching_of_keeps fun _ => rfl)
      intro _
      exact watching_of_keeps (onAdded_keeps acc path)

omit [Agent Ag Priv Pub] in
theorem verifies_loadPrivateKey (laws : StoresOnly holds) (path : String) (key : Priv)
    (unlock : UnlockMode) (opening : Opening (Opens Priv fs) key) :
    Verifies Priv Ag Te holds fs start (Agent.loadPrivateKey path key unlock) :=
  watching_loadKey laws watching_promptPassphraseInteractive opening unlock

omit [Agent Ag Priv Pub] in
theorem verifies_loadAndDecrypt (laws : StoresOnly holds) (path : String) (key : Priv)
    (unlock : UnlockMode) (opening : Opening (Opens Priv fs) key) :
    Verifies Priv Ag Te holds fs start (Agent.loadAndDecrypt path key unlock) :=
  watching_loadKey laws watching_shimPromptPassphrase opening unlock

theorem verifies_runAdd (laws : StoresOnly holds) (args : Agent.AgentAddArgs) (mode : OutputMode) :
    Verifies Priv Ag Te holds fs start (Agent.runAdd args mode) := by
  have paths : Fallible.Keeps view (args.paths : Program Ag (Recorded Va) Te (List String)) :=
    args.keeps_paths view
  have reports (added already : List String) : Fallible.Keeps view
      (Agent.reportAdded args mode added already : Program Ag (Recorded Va) Te Unit) := by
    intro w
    obtain ⟨stdout, stderr, printed⟩ := Agent.reportAdded_run args mode added already w
    rw [printed]
    rfl
  apply Fallible.Preserves.bind (watching_of_keeps paths)
  intro paths
  refine Fallible.Preserves.bind (Fallible.Preserves.query _) fun _ => ?_
  refine Fallible.Preserves.bind (Fallible.Preserves.query _) fun loaded => ?_
  apply Fallible.Preserves.bind
  · apply Fallible.Preserves.foldlM
    exact verifies_addOne (fun path key unlock => verifies_loadPrivateKey laws path key unlock)
      (fun _ _ => Fallible.Keeps.pure _) (fun _ _ => Fallible.Keeps.pure _) loaded _ _ _
  · rintro ⟨added, already⟩
    exact Fallible.Preserves.bind (watching_of_keeps (reports added already))
      fun _ => Fallible.Preserves.pure _

theorem verifies_shimAdd (laws : StoresOnly holds) (paths : List String) (lifetime : Option Nat)
    (confirm : Bool) (unlock : UnlockMode) :
    Verifies Priv Ag Te holds fs start (Agent.shimAdd paths lifetime confirm unlock) := by
  refine Fallible.Preserves.bind (Fallible.Preserves.query _) fun loaded => ?_
  apply Fallible.Preserves.bind
  · apply Fallible.Preserves.foldlM
    exact verifies_addOne (fun path key unlock => verifies_loadAndDecrypt laws path key unlock)
      (fun _ _ _ => rfl) (fun _ _ _ => rfl) loaded _ _ _
  · exact fun _ => Fallible.Preserves.pure _

omit [Agent Ag Priv Pub]

omit [PublicKey Pub] [BiometricBackend Va] [Terminal Te] in
theorem keyAt_of_keyIn {path : String} {key : Priv} (found : keyIn Priv fs path = .ok key) :
    keyAt Priv fs path = some key := by
  unfold keyIn at found
  cases read : fs.readToString path with
  | error e => simp [read] at found
  | ok pem =>
    cases parsed : (PrivateKey.fromOpenssh pem : Except String Priv) with
    | error e => simp [read, parsed] at found
    | ok key' =>
      simp only [read, parsed, Except.ok.injEq] at found
      exact found ▸ keyAt_of_parsed read parsed

theorem verifies_enrollOne (laws : StoresOnly holds) (path : String) :
    Verifies Priv Ag Te holds fs start (enrollOne Priv path) := by
  refine Fallible.Preserves.bind_of (Fallible.Preserves.query _) ?_
  intro w found watched read
  have files : w.fs = fs := watched.1
  cases found with
  | error message => exact Fallible.Preserves.pure _
  | ok key =>
    have there : keyAt Priv fs path = some key := by
      rw [← files]
      exact keyAt_of_keyIn (Except.ok.inj read)
    dsimp only
    split
    · exact Fallible.Preserves.pure _
    apply Fallible.Preserves.bind (watching_promptPassphraseInteractive path)
    intro passphrase
    cases opened : PrivateKey.decrypt key passphrase with
    | error e => exact Fallible.Preserves.pure _
    | ok plain =>
      -- The passphrase opened the key of this file, so it may be stored for it.
      have legal := opening_of_file there passphrase plain opened
      apply Fallible.Preserves.bind (watching_store laws legal)
      intro stored
      cases stored <;> exact Fallible.Preserves.pure _

section
variable {files : FileSystem → Prop} {allowed : String → String → Prop}

omit [BiometricBackend Va] [Terminal Te] in
theorem watching_collect {α : Type} {one : α → Program Ag (Recorded Va) Te Outcome}
    (each : ∀ a, Fallible.Preserves (Watching Ag Te holds files allowed start) (one a))
    (items : List α) :
    Fallible.Preserves (Watching Ag Te holds files allowed start) (collect one items) := by
  apply Fallible.Preserves.foldlM
  intro acc item
  exact Fallible.Preserves.bind (each item) fun _ => Fallible.Preserves.pure _

omit [BiometricBackend Va] [Terminal Te] in
theorem keeps_view_emitResults (mode : OutputMode) (command : String) (results : List Outcome)
    (verb : String) : Fallible.Keeps view
      (emitResults mode command results verb : Program Ag (Recorded Va) Te Unit) := by
  intro w
  obtain ⟨stdout, stderr, printed⟩ := emitResults_run mode command results verb w
  rw [printed]
  rfl

omit [BiometricBackend Va] [Terminal Te] in
theorem keeps_view_emitError (error : BiometricError) (mode : OutputMode) (command : String) :
    Fallible.Keeps view (emitError error mode command : Program Ag (Recorded Va) Te Nat) := by
  cases mode with
  | json =>
    exact Fallible.Keeps.bind (Fallible.Keeps.query _) fun _ =>
      Fallible.Keeps.bind (fun _ => rfl) fun _ => Fallible.Keeps.pure _
  | human => exact Fallible.Keeps.bind (fun _ => rfl) fun _ => Fallible.Keeps.pure _

omit [Terminal Te] in
theorem watching_forgetOne (laws : StoresOnly holds) (target id fingerprint : String) :
    Fallible.Preserves (Watching Ag Te holds files allowed start)
      (forgetOne target id fingerprint) := by
  apply Fallible.Preserves.bind (watching_delete laws id)
  intro answer
  cases answer <;> exact Fallible.Preserves.pure _

omit [Terminal Te] in
theorem watching_runForget (laws : StoresOnly holds) (args : BiometricForgetArgs)
    (mode : OutputMode) :
    Fallible.Preserves (Watching Ag Te holds files allowed start) (runForget Priv args mode) := by
  -- What is reported in the end calls nothing.
  have reported (collected : List Outcome × Nat) :
      Fallible.Preserves (Watching Ag Te holds files allowed start)
        (emitResults mode "gitway biometric forget" collected.1 "forgot" >>= fun _ =>
          pure collected.2) :=
    Fallible.Preserves.bind (watching_of_keeps (keeps_view_emitResults mode _ _ _))
      fun _ => Fallible.Preserves.pure _
  unfold runForget
  split
  · apply Fallible.Preserves.bind (watching_list laws)
    intro listed
    cases listed with
    | error error => exact watching_of_keeps (keeps_view_emitError error mode _)
    | ok enrolled =>
      exact Fallible.Preserves.bind
        (watching_collect (fun _ => watching_forgetOne laws _ _ _) enrolled) reported
  split
  · exact Fallible.Preserves.fail _
  · apply Fallible.Preserves.bind
    · apply watching_collect
      intro path
      refine Fallible.Preserves.bind (Fallible.Preserves.query _) fun found => ?_
      cases found with
      | error message => exact Fallible.Preserves.pure _
      | ok key => exact watching_forgetOne laws _ _ _
    · exact reported

end

theorem verifies_runEnroll (laws : StoresOnly holds) (args : BiometricEnrollArgs)
    (mode : OutputMode) : Verifies Priv Ag Te holds fs start (runEnroll Priv args mode) := by
  -- The files are picked before anything is asked for.
  have paths : Fallible.Keeps view
      (resolvePaths args.files : Program Ag (Recorded Va) Te (List String)) := by
    unfold resolvePaths
    split
    · exact Fallible.Keeps.query _
    · exact Fallible.Keeps.pure _
  have enrolls : Verifies Priv Ag Te holds fs start (resolvePaths args.files >>= fun paths =>
      collect (enrollOne Priv) paths >>= fun report =>
        emitResults mode "gitway biometric enroll" report.1 "enrolled" >>= fun _ =>
          pure report.2) := by
    apply Fallible.Preserves.bind (watching_of_keeps paths)
    intro paths
    apply Fallible.Preserves.bind (watching_collect (verifies_enrollOne laws) paths)
    rintro ⟨results, exit⟩
    exact Fallible.Preserves.bind (watching_of_keeps (keeps_view_emitResults mode _ _ _))
      fun _ => Fallible.Preserves.pure _
  refine Fallible.Preserves.bind (Fallible.Preserves.query _) fun available => ?_
  refine Fallible.Preserves.bind (Fallible.Preserves.query _) fun tier => ?_
  split
  · exact watching_of_keeps (keeps_view_emitError _ mode _)
  dsimp only
  split
  · exact Fallible.Preserves.bind (watching_of_keeps fun _ => rfl) fun _ => enrolls
  · exact enrolls

section
variable {files : FileSystem → Prop} {allowed : String → String → Prop}

omit [PublicKey Pub] [PrivateKey Priv Pub] [BiometricBackend Va] in
theorem keeps_view_typeNewPassphrase (path : String) :
    Fallible.Keeps view
      (Keygen.typeNewPassphrase path : Program Ag (Recorded Va) Te String) := by
  apply Fallible.Keeps.bind (fun _ => rfl)
  intro typed
  refine Fallible.Keeps.bind (Fallible.Keeps.query _) fun first => ?_
  split
  · exact Fallible.Keeps.pure _
  apply Fallible.Keeps.bind (fun _ => rfl)
  intro retyped
  refine Fallible.Keeps.bind (Fallible.Keeps.query _) fun confirm => ?_
  split
  · exact Fallible.Keeps.fail _
  · exact Fallible.Keeps.pure _

theorem watching_promptNewPassphrase (laws : StoresOnly holds) (path : String) :
    Fallible.Preserves (Watching Ag Te holds files allowed start)
      (Keygen.promptNewPassphrase Priv path) := by
  refine Fallible.Preserves.bind (Fallible.Preserves.query _) fun env => ?_
  split
  · exact watching_promptPassphrase laws path
  · exact watching_of_keeps (keeps_view_typeNewPassphrase path)

theorem watching_oldPassphrase (laws : StoresOnly holds) (args : Keygen.ChangePassphraseArgs)
    (loaded : Priv) :
    Fallible.Preserves (Watching Ag Te holds files allowed start)
      (Keygen.oldPassphrase Priv args loaded) := by
  unfold Keygen.oldPassphrase
  split
  · split
    · exact Fallible.Preserves.pure _
    · exact Fallible.Preserves.bind (watching_promptPassphrase laws args.file)
        fun _ => Fallible.Preserves.pure _
  · exact Fallible.Preserves.pure _

theorem watching_newPassphrase (laws : StoresOnly holds) (args : Keygen.ChangePassphraseArgs) :
    Fallible.Preserves (Watching Ag Te holds files allowed start)
      (Keygen.newPassphrase Priv args) := by
  unfold Keygen.newPassphrase
  split
  · exact Fallible.Preserves.pure _
  split
  · exact Fallible.Preserves.pure _
  · exact Fallible.Preserves.bind (watching_promptNewPassphrase laws args.file)
      fun _ => Fallible.Preserves.pure _

end

/-- Changing a passphrase asks the keystore and stores nothing in it, whatever becomes of
the files. -/
theorem watching_runChangePassphrase [Keygen.Writer Priv] {allowed : String → String → Prop}
    (laws : StoresOnly holds) (args : Keygen.ChangePassphraseArgs) (mode : OutputMode) :
    Fallible.Preserves (Watching Ag Te holds (fun _ => True) allowed start)
      (Keygen.runChangePassphrase Priv args mode) := by
  have written (old new : Option String) :
      Fallible.Preserves (Watching Ag Te holds (fun _ => True) allowed start)
        (Program.onFiles (Keygen.Writer.changePassphrase Priv args.file old new)) :=
    fun _ watched => ⟨trivial, watched.2⟩
  refine Fallible.Preserves.bind (Fallible.Preserves.query _) fun pem => ?_
  refine Fallible.Preserves.bind (Fallible.Preserves.query _) fun loaded => ?_
  apply Fallible.Preserves.bind (watching_oldPassphrase laws args loaded)
  intro old
  apply Fallible.Preserves.bind (watching_newPassphrase laws args)
  intro new
  apply Fallible.Preserves.bind (written old new)
  intro _
  cases mode with
  | json =>
    refine Fallible.Preserves.bind (Fallible.Preserves.query _) fun env => ?_
    exact Fallible.Preserves.bind (watching_of_keeps fun _ => rfl) fun _ =>
      Fallible.Preserves.pure _
  | human =>
    exact Fallible.Preserves.bind (watching_of_keeps fun _ => rfl) fun _ =>
      Fallible.Preserves.pure _

end
end Gitway.Biometric
