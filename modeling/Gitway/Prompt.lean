import Gitway.Biometric
import Gitway.Text

/-!
# Passphrase prompts

`promptPassphrase` asks the keystore first and a person second. The person is
asked by an askpass program when the environment calls for one, and at the
terminal otherwise.
-/
namespace Gitway.Prompt

open Lib

variable {Ag Va Te : Type} [Terminal Te]

/-- Whether the environment calls for the askpass program. -/
def useAskpass (env : Environment) : Bool :=
  match Text.toAsciiLowercase ((env.var "SSH_ASKPASS_REQUIRE").getD "") with
  | "force" | "prefer" => true
  | _ =>
    let hasDisplay := (env.vars "DISPLAY").isSome || (env.vars "WAYLAND_DISPLAY").isSome
    let noTty := !env.stderrIsTerminal
    hasDisplay && noTty

/-- The passphrase printed by a program that ran. -/
def askpassReply (askpass : String) (output : AskpassOutput) :
    Except AnvilError (Option String) :=
  if !output.success then
    .error (.invalidConfig s!"SSH_ASKPASS program {askpass} exited with status {output.status}")
  else
    match String.fromUTF8? output.stdout with
    | none => .error (.invalidConfig "SSH_ASKPASS program returned non-UTF-8 output")
    | some raw =>
      let passphrase := Text.trimEndNewlines raw
      if passphrase.isEmpty then
        .error (.invalidConfig ("SSH_ASKPASS program returned an empty passphrase — " ++
          "the dialog was cancelled or the program does not support SSH key passphrase " ++
          "prompts; run `ssh-add ~/.ssh/id_ed25519` to load the key into the SSH agent, or set " ++
          "SSH_ASKPASS to a dedicated passphrase helper (e.g. ksshaskpass, ssh-askpass-gnome)"))
      else .ok (some passphrase)

def tryAskpass (prompt : String) : Program Ag Va Te (Option String) := do
  let env ← Program.environment
  match env.vars "SSH_ASKPASS" with
  | none => return none
  | some askpassOs =>
    let askpass := askpassOs.lossy
    -- A relative path is an error even where askpass would not be used.
    if !Text.startsWith askpass "/" then
      Fallible.fail (.invalidConfig s!"SSH_ASKPASS {askpass} must be an absolute path")
    else if !useAskpass env then
      return none
    else
      let mode ← Program.fileMode askpass
      if mode.any fun bits => bits &&& 0o002 != 0 then
        Fallible.fail
          (.invalidConfig s!"SSH_ASKPASS {askpass} is world-writable and cannot be trusted")
      else
        match ← Program.onTerminal (Terminal.askpass askpass prompt) with
        | .error e =>
          Fallible.fail (.invalidConfig
            s!"SSH_ASKPASS program {askpass} could not be launched: {e.message}")
        | .ok output => Fallible.query fun _ => askpassReply askpass output

/-- What a failed terminal prompt is reported as. ENXIO is error 6. -/
def noTerminalError (e : IoError) : AnvilError :=
  if e.rawOsError = some 6 ∨ e.kind = .other then
    .invalidConfig ("no terminal available for passphrase prompt — run `ssh-add` to load the " ++
      "key into the SSH agent, or set SSH_ASKPASS to a GUI passphrase helper " ++
      "(e.g. ksshaskpass, ssh-askpass-gnome)")
  else .io e

def promptPassphraseInteractive (path : String) : Program Ag Va Te String := do
  let prompt := s!"Enter passphrase for {path}: "
  match ← tryAskpass prompt with
  | some passphrase => return passphrase
  | none =>
    match ← Program.promptPassword prompt with
    -- An askpass program that is not called for leaves the terminal.
    | .ok passphrase => return passphrase
    | .error e => Fallible.fail (noTerminalError e)

section
variable {τ : Type} {view : World Ag Va Te → τ}

theorem keeps_tryAskpass (aside : Program.Aside view) (prompt : String) :
    Fallible.Keeps view (tryAskpass prompt : Program Ag Va Te (Option String)) := by
  apply Fallible.Keeps.bind (Fallible.Keeps.query _)
  intro env
  split
  · exact Fallible.Keeps.pure _
  · dsimp only
    split
    · exact Fallible.Keeps.fail _
    split
    · exact Fallible.Keeps.pure _
    apply Fallible.Keeps.bind (Fallible.Keeps.query _)
    intro mode
    split
    · exact Fallible.Keeps.fail _
    apply Fallible.Keeps.bind (aside.keeps_onTerminal _)
    intro ran
    split
    · exact Fallible.Keeps.fail _
    · exact Fallible.Keeps.query _

theorem keeps_promptPassphraseInteractive (aside : Program.Aside view) (path : String) :
    Fallible.Keeps view (promptPassphraseInteractive path : Program Ag Va Te String) := by
  apply Fallible.Keeps.bind (keeps_tryAskpass aside _)
  intro asked
  split
  · exact Fallible.Keeps.pure _
  · apply Fallible.Keeps.bind (aside.keeps_onTerminal _)
    intro typed
    split
    · exact Fallible.Keeps.pure _
    · exact Fallible.Keeps.fail _

end

section
variable {Vb : Type} {vault : Vb} {stderr : List String}

theorem blind_tryAskpass (prompt : String) :
    Fallible.Alike (Program.Exchanged vault stderr)
      (tryAskpass prompt : Program Ag Va Te (Option String)) (tryAskpass prompt) := by
  apply Fallible.Alike.bind Program.blind_environment
  intro env
  split
  · exact Fallible.Alike.pure _
  · dsimp only
    split
    · exact Fallible.Alike.fail _
    split
    · exact Fallible.Alike.pure _
    apply Fallible.Alike.bind (Program.blind_fileMode _)
    intro mode
    split
    · exact Fallible.Alike.fail _
    apply Fallible.Alike.bind (Program.blind_onTerminal _)
    intro ran
    split
    · exact Fallible.Alike.fail _
    · exact Fallible.Alike.query fun _ _ _ => rfl

/-- A person is asked in the same way whatever keystore there is. -/
theorem blind_promptPassphraseInteractive (path : String) :
    Fallible.Alike (Program.Exchanged vault stderr)
      (promptPassphraseInteractive path : Program Ag Va Te String)
      (promptPassphraseInteractive path) := by
  apply Fallible.Alike.bind (blind_tryAskpass _)
  intro asked
  split
  · exact Fallible.Alike.pure _
  · apply Fallible.Alike.bind (Program.blind_onTerminal _)
    intro typed
    split
    · exact Fallible.Alike.pure _
    · exact Fallible.Alike.fail _

end

theorem alike_promptPassphraseInteractive (path : String) :
    Fallible.Alike Program.SameButVault
      (promptPassphraseInteractive path : Program Ag Va Te String)
      (promptPassphraseInteractive path) :=
  Program.alike_of_blind fun _ _ => blind_promptPassphraseInteractive path

theorem quiet_promptPassphraseInteractive (path : String) :
    Fallible.Alike Program.SameButMessages
      (promptPassphraseInteractive path : Program Ag Va Te String)
      (promptPassphraseInteractive path) :=
  Program.quiet_of_blind (keeps_promptPassphraseInteractive Program.aside_vault path)
    fun _ _ => blind_promptPassphraseInteractive path

/-- Nobody answers: every prompt fails, and no askpass program can be started. -/
def Silent (terminal : Te) : Prop :=
  (∀ prompt, ∃ e, (Terminal.promptPassword prompt terminal).1 = .error e) ∧
    ∀ program prompt, ∃ e, (Terminal.askpass program prompt terminal).1 = .error e

theorem tryAskpass_silent (prompt : String) {w : World Ag Va Te} (silent : Silent w.terminal) :
    tryAskpass prompt w = (.ok none, w) ∨ ∃ e, (tryAskpass prompt w).1 = .error e := by
  unfold tryAskpass
  -- The checks come in the order of the source; each of them may end the attempt.
  rw [Fallible.bind_of_ok (Program.environment_run w)]
  cases w.env.vars "SSH_ASKPASS" with
  | none => exact Or.inl rfl
  | some askpassOs =>
    dsimp only
    cases Text.startsWith askpassOs.lossy "/" with
    | false => exact Or.inr ⟨_, rfl⟩
    | true =>
      cases useAskpass w.env with
      | false => exact Or.inl rfl
      | true =>
        simp only [Bool.not_true, Bool.false_eq_true, if_false]
        rw [Fallible.bind_of_ok (Program.fileMode_run w _)]
        cases (w.fs.mode askpassOs.lossy).any fun bits => bits &&& 0o002 != 0 with
        | true => exact Or.inr ⟨_, rfl⟩
        | false =>
          obtain ⟨e, failed⟩ := silent.2 askpassOs.lossy prompt
          simp only [Bool.false_eq_true, if_false]
          rw [Fallible.bind_of_ok (Program.onTerminal_run w _), failed]
          exact Or.inr ⟨_, rfl⟩

theorem promptPassphraseInteractive_silent (path : String) {w : World Ag Va Te}
    (silent : Silent w.terminal) : ∃ e, (promptPassphraseInteractive path w).1 = .error e := by
  unfold promptPassphraseInteractive
  -- Either askpass is not called for and the terminal fails, or askpass does.
  rcases tryAskpass_silent (s!"Enter passphrase for {path}: ") silent with skipped | ⟨e, failed⟩
  · rw [Fallible.bind_of_ok skipped]
    obtain ⟨e, failed⟩ := silent.1 (s!"Enter passphrase for {path}: ")
    have asked : Program.promptPassword (s!"Enter passphrase for {path}: ") w =
        (.ok (.error e), (Program.promptPassword (s!"Enter passphrase for {path}: ") w).2) :=
      Fallible.run_eq (congrArg Except.ok failed)
    dsimp only
    rw [Fallible.bind_of_ok asked]
    exact ⟨_, rfl⟩
  · rw [Fallible.bind_of_error (Fallible.run_eq failed)]
    exact ⟨e, rfl⟩

/-! ### The keystore first -/

section
variable {Priv Pub : Type} [PublicKey Pub] [PrivateKey Priv Pub] [BiometricVault Va]

variable (Priv) in
def biometricAutoUnlock (path : String) : Program Ag Va Te (Option String) := do
  match ← Program.readKey path with
  | none => return none
  | some (key : Priv) =>
    match ← Biometric.autoUnlockPassphrase key with
    | .passphrase passphrase => return some passphrase
    | .stale =>
      Program.eprintln (s!"gitway: stored biometric passphrase no longer decrypts {path} — " ++
        "removed stale enrollment")
      return none
    | .fallback => return none

variable (Priv) in
def promptPassphrase (path : String) : Program Ag Va Te String := do
  match ← biometricAutoUnlock Priv path with
  | some passphrase => return passphrase
  | none => promptPassphraseInteractive path

/-- The passphrase the keystore releases for the key in a file. -/
def releasedFor (Priv : Type) {Pub : Type} [PublicKey Pub] [PrivateKey Priv Pub]
    (fs : FileSystem) (path : String) (vault : Va) : Option String :=
  (keyAt Priv fs path).bind fun key => Biometric.released key vault

variable (Priv) in
omit [Terminal Te] in
theorem biometricAutoUnlock_run (path : String) (w : World Ag Va Te) :
    ∃ vault stderr, biometricAutoUnlock Priv path w =
      (.ok (releasedFor Priv w.fs path w.vault), { w with vault := vault, stderr := stderr }) := by
  unfold biometricAutoUnlock releasedFor
  rw [Fallible.bind_of_ok (Program.readKey_run w path)]
  cases keyAt Priv w.fs path with
  | none => exact ⟨_, _, rfl⟩
  | some key =>
    -- Only an outcome that carries a passphrase is a release.
    obtain ⟨outcome, vault, ran, carries⟩ := Biometric.autoUnlockPassphrase_spec key w
    simp only [Option.bind_some]
    rw [Fallible.bind_of_ok ran]
    cases outcome with
    | passphrase pass =>
      rw [(carries pass).mp rfl]
      exact ⟨vault, _, rfl⟩
    | stale =>
      have none_released : Biometric.released key w.vault = none := by
        rw [Option.eq_none_iff_forall_ne_some]
        intro pass given
        simpa using (carries pass).mpr given
      rw [none_released]
      exact ⟨vault, _, rfl⟩
    | fallback =>
      have none_released : Biometric.released key w.vault = none := by
        rw [Option.eq_none_iff_forall_ne_some]
        intro pass given
        simpa using (carries pass).mpr given
      rw [none_released]
      exact ⟨vault, _, rfl⟩

variable (Priv) in
theorem keeps_promptPassphrase {τ : Type} {view : World Ag Va Te → τ}
    (back : Program.Backstage view) (path : String) :
    Fallible.Keeps view (promptPassphrase Priv path : Program Ag Va Te String) := by
  have unlocked : Fallible.Keeps view
      (biometricAutoUnlock Priv path : Program Ag Va Te (Option String)) := by
    intro w
    obtain ⟨vault, stderr, ran⟩ := biometricAutoUnlock_run Priv path w
    rw [ran]
    exact (back.stderr { w with vault := vault } stderr).trans (back.vault w vault)
  apply Fallible.Keeps.bind unlocked
  intro released
  cases released with
  | some passphrase => exact Fallible.Keeps.pure _
  | none => exact keeps_promptPassphraseInteractive back.toAside path

variable (Priv) in
/-- A passphrase is come by in the same way whatever was said before. -/
theorem quiet_promptPassphrase (path : String) :
    Fallible.Alike Program.SameButMessages
      (promptPassphrase Priv path : Program Ag Va Te String) (promptPassphrase Priv path) := by
  have unlocked : Fallible.Alike Program.SameButMessages
      (biometricAutoUnlock Priv path : Program Ag Va Te (Option String))
      (biometricAutoUnlock Priv path) := by
    apply Fallible.Alike.bind (Program.quiet_readKey path)
    intro key
    cases key with
    | none => exact Fallible.Alike.pure _
    | some key =>
      apply Fallible.Alike.bind (Biometric.quiet_autoUnlockPassphrase key)
      intro outcome
      cases outcome with
      | passphrase passphrase => exact Fallible.Alike.pure _
      | stale =>
        exact Fallible.Alike.bind (Program.quiet_eprintln _) fun _ => Fallible.Alike.pure _
      | fallback => exact Fallible.Alike.pure _
  apply Fallible.Alike.bind unlocked
  intro released
  cases released with
  | some passphrase => exact Fallible.Alike.pure _
  | none => exact quiet_promptPassphraseInteractive path

/-- A passphrase that the keystore releases is the answer, without a question. -/
theorem promptPassphrase_released {path pass : String} {w : World Ag Va Te}
    (given : releasedFor Priv w.fs path w.vault = some pass) :
    (promptPassphrase Priv path w).1 = .ok pass := by
  obtain ⟨vault, stderr, ran⟩ := biometricAutoUnlock_run Priv path w
  unfold promptPassphrase
  rw [Fallible.bind_of_ok ran, given]
  rfl

theorem promptPassphrase_asks {path : String} {w : World Ag Va Te}
    (absent : releasedFor Priv w.fs path w.vault = none) :
    (promptPassphrase Priv path w).1 = (promptPassphraseInteractive path w).1 := by
  obtain ⟨vault, stderr, ran⟩ := biometricAutoUnlock_run Priv path w
  unfold promptPassphrase
  rw [Fallible.bind_of_ok ran, absent]
  exact (alike_promptPassphraseInteractive path w _ ⟨vault, stderr, rfl⟩).1.symm

/-- The keystore is beside the point exactly when it releases the same passphrase,
if any, in both states: whatever is typed, the answers agree. -/
theorem promptPassphrase_same_iff (quiet : ∃ terminal : Te, Silent terminal) (path : String)
    (w : World Ag Va Te) (v₁ v₂ : Va) :
    (∀ t : Te, (promptPassphrase Priv path { w with vault := v₁, terminal := t }).1 =
      (promptPassphrase Priv path { w with vault := v₂, terminal := t }).1) ↔
      releasedFor Priv w.fs path v₁ = releasedFor Priv w.fs path v₂ := by
  have answers (v : Va) (t : Te) (pass : String)
      (given : releasedFor Priv w.fs path v = some pass) :
      (promptPassphrase Priv path { w with vault := v, terminal := t }).1 = .ok pass :=
    promptPassphrase_released given
  have asks (v : Va) (t : Te) (absent : releasedFor Priv w.fs path v = none) :
      (promptPassphrase Priv path { w with vault := v, terminal := t }).1 =
        (promptPassphraseInteractive path { w with vault := v, terminal := t }).1 :=
    promptPassphrase_asks absent
  obtain ⟨quiet, silent⟩ := quiet
  have fails (v : Va) : ∃ e,
      (promptPassphraseInteractive path { w with vault := v, terminal := quiet }).1 = .error e :=
    promptPassphraseInteractive_silent path silent
  cases first : releasedFor Priv w.fs path v₁ with
  | some p =>
    cases second : releasedFor Priv w.fs path v₂ with
    | some q =>
      simp only [answers v₁ _ p first, answers v₂ _ q second, Except.ok.injEq, Option.some.injEq]
      exact ⟨fun same => same quiet, fun same _ => same⟩
    | none =>
      simp only [reduceCtorEq, iff_false]
      intro same
      -- Only one state answers: a prompt that nobody answers tells them apart.
      obtain ⟨e, failed⟩ := fails v₂
      have both := same quiet
      rw [answers v₁ quiet p first, asks v₂ quiet second, failed] at both
      simp at both
  | none =>
    cases second : releasedFor Priv w.fs path v₂ with
    | some q =>
      simp only [reduceCtorEq, iff_false]
      intro same
      -- The same with the two states exchanged.
      obtain ⟨e, failed⟩ := fails v₁
      have both := same quiet
      rw [asks v₁ quiet first, answers v₂ quiet q second, failed] at both
      simp at both
    | none =>
      -- Neither state answers, and a person is asked in the same way.
      simp only [iff_true]
      intro t
      rw [asks v₁ t first, asks v₂ t second]
      have related : Program.SameButVault { w with vault := v₁, terminal := t }
          { w with vault := v₂, terminal := t } := ⟨v₂, w.stderr, rfl⟩
      exact (alike_promptPassphraseInteractive path _ _ related).1

end
end Gitway.Prompt
