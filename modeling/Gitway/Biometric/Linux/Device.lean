import Gitway.Biometric.Linux.Gate

/-!
# What the answers decide

The outcome of a check is told from the answers of the device: it succeeds where all calls up
to the signals are answered and the signals say match, and it is cancelled where they come to
nothing. With the shapes of the traces this is the discipline of the fingerprint gate.
-/
namespace Gitway.Biometric.Linux

open Lib

variable {Ke De It α β : Type}

/-! ### Outcomes by the device -/

/-- Whether the outcome is of this kind depends on the device only, and in this way. -/
def Decides (Q : Except BiometricError β → Prop) (P : De → Prop) (x : Routine Ke De It β) : Prop :=
  ∀ v, Q (x v).1 ↔ P v.device

section
variable {Q : Except BiometricError β → Prop} {call : Except String α → Call It}
  {op : De → Except String α × De}

theorem Decides.congr {P P' : De → Prop} {x : Routine Ke De It β} (decides : Decides Q P x)
    (same : ∀ d, P d ↔ P' d) : Decides Q P' x :=
  fun v => (decides v).trans (same v.device)

/-- A call whose answer is a value. -/
theorem Decides.value {P : Except String α → De → Prop}
    {rest : Except String α → Routine Ke De It β}
    (goes_on : ∀ answer, Decides Q (P answer) (rest answer)) :
    Decides Q (fun d => P (op d).1 (op d).2) (onDevice call op >>= rest) := by
  intro v
  have called : onDevice call op v = (.ok (op v.device).1,
      { v with device := (op v.device).2, trace := v.trace ++ [call (op v.device).1] }) := rfl
  rw [Fallible.bind_of_ok called]
  exact goes_on _ _

/-- A call whose failure ends the routine with another outcome. -/
theorem Decides.checked {P : α → De → Prop} {failed : String → BiometricError}
    {rest : α → Routine Ke De It β} (fails : ∀ e, ¬ Q (.error (failed e)))
    (goes_on : ∀ a, Decides Q (P a) (rest a)) :
    Decides Q (fun d => ∃ a d', op d = (.ok a, d') ∧ P a d')
      (onDevice call op >>= fun answer => orElse failed answer >>= rest) := by
  -- Whether the answer was good is settled before the rest runs.
  have answered (answer : Except String α) : Decides Q (fun d => ∃ a, answer = .ok a ∧ P a d)
      (orElse failed answer >>= rest) := by
    cases answer with
    | error e => exact fun v => iff_of_false (fails e) (by simp)
    | ok a => exact (goes_on a).congr fun d => by simp
  refine (Decides.value answered).congr fun d => ?_
  constructor
  · rintro ⟨a, answer, holds⟩
    exact ⟨a, (op d).2, Prod.ext answer rfl, holds⟩
  · rintro ⟨a, d', answer, holds⟩
    rw [answer]
    exact ⟨a, rfl, holds⟩

end

/-- Without a finger the routine ends with another outcome. An error counts as none. -/
theorem Decides.enrolled {Q : Except BiometricError β → Prop} {P : De → Prop}
    {call : Except String (List α) → Call It} {op : De → Except String (List α) × De}
    {e : BiometricError} {next : Routine Ke De It β} (fails : ¬ Q (.error e))
    (goes_on : Decides Q P next) :
    Decides Q (fun d => ∃ first more d', op d = (.ok (first :: more), d') ∧ P d')
      (onDevice call op >>= fun listed =>
        if (listed.toOption.getD []).isEmpty then Fallible.fail e else next) := by
  have answered (answer : Except String (List α)) :
      Decides Q (fun d => (∃ first more, answer = .ok (first :: more)) ∧ P d)
        (if (answer.toOption.getD []).isEmpty then Fallible.fail e else next) := by
    rcases answer with reason | _ | ⟨first, more⟩
    · exact fun v => iff_of_false fails (by simp)
    · exact fun v => iff_of_false fails (by simp)
    · exact goes_on.congr fun d => by simp
  refine (Decides.value answered).congr fun d => ?_
  constructor
  · rintro ⟨⟨first, more, answer⟩, holds⟩
    exact ⟨first, more, (op d).2, Prod.ext answer rfl, holds⟩
  · rintro ⟨first, more, d', answer, holds⟩
    rw [answer]
    exact ⟨⟨first, more, rfl⟩, holds⟩

/-! ### The check -/

variable [Fprint De]

/-- From the one state of the device to the other, every call up to the signals is answered:
there is a device with a finger enrolled, and it is claimed and started. -/
inductive Ready : De → De → Prop where
  | intro {d d₁ d₂ d₃ d₄ d₅ d₆ d₇ d₈ d₉ : De} {path finger : String} {fingers : List String}
    (bus : Fprint.systemBus d = (.ok (), d₁))
    (manager : Fprint.managerNew d₁ = (.ok (), d₂))
    (device : Fprint.getDefaultDevice d₂ = (.ok path, d₃))
    (there : Fprint.devicePath path d₃ = (.ok (), d₄))
    (built : Fprint.deviceBuild d₄ = (.ok (), d₅))
    (enrolled : Fprint.listEnrolledFingers "" d₅ = (.ok (finger :: fingers), d₆))
    (claimed : Fprint.claim "" d₆ = (.ok (), d₇))
    (watched : Fprint.receiveVerifyStatus d₇ = (.ok (), d₈))
    (started : Fprint.verifyStart "any" d₈ = (.ok (), d₉)) : Ready d d₉

omit [Fprint De] in
theorem hint_run (message : String) (v : LinuxVault Ke De It) :
    ∃ trace, hint message v = (.ok (), { v with trace := trace }) := by
  unfold hint
  split
  · exact ⟨_, rfl⟩
  · exact ⟨v.trace, rfl⟩

/-- Once it has started, a scan comes to what the signals come to. -/
theorem Decides.listened {Q : Except BiometricError Bool → Prop} {message : String}
    {next : Option Bool → Routine Ke De It Bool}
    (ends : ∀ m v, (next m v).1 = .ok (m.getD false)) :
    Decides Q (fun d => Q (verdictOf (Fprint.verifyStatus d).1.signals))
      (hint message >>= fun _ => verifyStatus >>= fun stream =>
        consume stream.ends stream.signals >>= next) := by
  intro v
  obtain ⟨trace, hinted⟩ := hint_run message v
  rw [Fallible.bind_of_ok hinted]
  let stream := (Fprint.verifyStatus v.device).1
  let u : LinuxVault Ke De It := { v with
    device := (Fprint.verifyStatus v.device).2, trace := trace ++ [.verifyStatus stream] }
  have watched : verifyStatus { v with trace := trace } = (.ok stream, u) := rfl
  rw [Fallible.bind_of_ok watched]
  obtain ⟨piece, _, consumed⟩ := logs_consume stream.ends stream.signals u
  -- The signals are heard to the first that is decisive.
  show Q _ ↔ Q (verdictOf stream.signals)
  cases ran : consume stream.ends stream.signals u with
  | mk r w =>
    rw [ran] at consumed
    cases r with
    | error e => rw [Fallible.bind_of_error ran, consumed.failed e rfl]
    | ok m => rw [Fallible.bind_of_ok ran, consumed.matched m rfl, ends]

theorem scan_decides {Q : Except BiometricError Bool → Prop}
    (refused : ∀ e, e ≠ .cancelled → ¬ Q (.error e)) :
    Decides Q (fun d => ∃ d₁ d₂, Fprint.receiveVerifyStatus d = (.ok (), d₁) ∧
        Fprint.verifyStart "any" d₁ = (.ok (), d₂) ∧
        Q (verdictOf (Fprint.verifyStatus d₂).1.signals))
      (scan : Routine Ke De It Bool) := by
  unfold scan
  -- The rules spell the condition out call by call, with a `Unit` for each answer.
  apply Decides.congr
  · apply Decides.checked
    · exact fun e => refused _ (by simp)
    intro _
    apply Decides.checked
    · exact fun e => refused _ (by simp)
    intro _
    apply Decides.listened
    intro m v
    cases m <;> rfl
  intro d
  constructor
  · rintro ⟨⟨⟩, d₁, watched, ⟨⟩, d₂, started, verdict⟩
    exact ⟨d₁, d₂, watched, started, verdict⟩
  · rintro ⟨d₁, d₂, watched, started, verdict⟩
    exact ⟨(), d₁, watched, (), d₂, started, verdict⟩

/-- However the device is given back, the verdict of the scan is the outcome. -/
theorem Decides.bracketed {Q : Except BiometricError Unit → Prop} {P : De → Prop}
    {next : Except BiometricError Bool → Routine Ke De It Unit}
    (ends : ∀ verdict v, (next verdict v).1 = outcomeOf verdict)
    (scanned : Decides (fun r => Q (outcomeOf r)) P (scan : Routine Ke De It Bool)) :
    Decides Q P (Fallible.attempt scan >>= fun verdict =>
      onDevice .verifyStop Fprint.verifyStop >>= fun _ =>
        onDevice .release Fprint.release >>= fun _ => next verdict) := by
  intro v
  -- The answers to stop and release are dropped, so what comes after sees the verdict only.
  rw [← scanned v, Fallible.bind_of_ok (Fallible.attempt_run scan v)]
  show Q (next (scan v).1 _).1 ↔ _
  rw [ends]

/-- Up to the signals a failure is none of the outcomes that the signals have. -/
theorem verifyFingerprint_decides {Q : Except BiometricError Unit → Prop}
    (refused : ∀ e, e ≠ .cancelled → ¬ Q (.error e)) :
    Decides Q (fun d => ∃ d', Ready d d' ∧
        Q (outcomeOf (verdictOf (Fprint.verifyStatus d').1.signals)))
      (verifyFingerprint : Routine Ke De It Unit) := by
  unfold verifyFingerprint
  -- Five calls that must be answered, then the list of fingers, where an error counts as none.
  apply Decides.congr
  · apply Decides.checked
    · exact fun e => refused _ (by simp)
    intro _
    apply Decides.checked
    · exact fun e => refused _ (by simp)
    intro _
    apply Decides.checked
    · exact fun e => refused _ (by simp)
    intro path
    apply Decides.checked
    · exact fun e => refused _ (by simp)
    intro _
    apply Decides.checked
    · exact fun e => refused _ (by simp)
    intro _
    apply Decides.enrolled
    · exact refused _ (by simp)
    apply Decides.checked
    · exact fun e => refused _ (by simp)
    intro _
    -- From here on the device is claimed, and no later failure but the scan's own counts.
    apply Decides.bracketed
    · rintro (e | _ | _) v
      · rfl
      · rfl
      · rfl
    · exact scan_decides fun e other => refused e other
  intro d
  constructor
  · rintro ⟨⟨⟩, d₁, bus, ⟨⟩, d₂, manager, path, d₃, device, ⟨⟩, d₄, there, ⟨⟩, d₅, built,
      finger, fingers, d₆, enrolled, ⟨⟩, d₇, claimed, d₈, d₉, watched, started, verdict⟩
    exact ⟨d₉, ⟨bus, manager, device, there, built, enrolled, claimed, watched, started⟩, verdict⟩
  · rintro ⟨_, ⟨bus, manager, device, there, built, enrolled, claimed, watched, started⟩, verdict⟩
    exact ⟨(), _, bus, (), _, manager, _, _, device, (), _, there, (), _, built, _, _, _,
      enrolled, (), _, claimed, _, _, watched, started, verdict⟩

omit [Fprint De] in
theorem outcomeOf_ok_iff (stream : SignalStream) :
    outcomeOf (verdictOf stream.signals) = .ok () ↔ stream.Matches := by
  refine ⟨fun succeeded => ?_, fun matched => by rw [verdictOf_of_matches matched]; rfl⟩
  rcases verdictOf_cases stream with ⟨_, matched⟩ | ⟨⟨e, verdict⟩, _⟩ | verdict
  · exact matched
  · simp [verdict, outcomeOf] at succeeded
  · simp [verdict, outcomeOf] at succeeded

omit [Fprint De] in
theorem outcomeOf_cancelled_iff (stream : SignalStream) :
    outcomeOf (verdictOf stream.signals) = .error .cancelled ↔
      ¬ stream.Matches ∧ ¬ stream.Undecodable := by
  constructor
  · intro cancelled
    constructor
    · intro matched
      simp [verdictOf_of_matches matched, outcomeOf] at cancelled
    · intro broken
      obtain ⟨e, verdict⟩ := verdictOf_of_undecodable broken
      simp [verdict, outcomeOf] at cancelled
  · rintro ⟨no_match, decodable⟩
    rcases verdictOf_cases stream with ⟨_, matched⟩ | ⟨_, broken⟩ | verdict
    · exact absurd matched no_match
    · exact absurd broken decodable
    · rw [verdict]
      rfl

/-- The check succeeds exactly where everything is there and the signals say match. -/
theorem verifyFingerprint_ok_iff (v : LinuxVault Ke De It) :
    (verifyFingerprint v).1 = .ok () ↔
      ∃ d, Ready v.device d ∧ (Fprint.verifyStatus d).1.Matches := by
  refine (verifyFingerprint_decides (Q := (· = .ok ())) (by simp) v).trans ?_
  exact exists_congr fun d => and_congr_right fun _ => outcomeOf_ok_iff _

/-- It is cancelled exactly where everything is there, and what arrives in time can be decoded
and says no match. -/
theorem verifyFingerprint_cancelled_iff (v : LinuxVault Ke De It) :
    (verifyFingerprint v).1 = .error .cancelled ↔
      ∃ d, Ready v.device d ∧ ¬ (Fprint.verifyStatus d).1.Matches ∧
        ¬ (Fprint.verifyStatus d).1.Undecodable := by
  refine (verifyFingerprint_decides (Q := (· = .error .cancelled)) ?_ v).trans ?_
  · exact fun e other failed => other (Except.error.inj failed)
  · exact exists_congr fun d => and_congr_right fun _ => outcomeOf_cancelled_iff _

/-! ### `retrieve` -/

variable [SecretService Ke It]

/-- From the one state of the keyring to the other it is opened, and the search returns an
item. Whether it could be unlocked shows in the search. -/
inductive Finds (keyId : String) (item : It) : Ke → Ke → Prop where
  | intro {k k₁ k₂ k₃ k₄ : Ke} {unlocked : Except String Unit} {items : List It}
    (runtime : SecretService.runtime k = (.ok (), k₁))
    (opened : SecretService.keyringNew k₁ = (.ok (), k₂))
    (unlocking : SecretService.unlock k₂ = (unlocked, k₃))
    (found : SecretService.searchItems (attributes keyId) k₃ = (.ok (item :: items), k₄)) :
    Finds keyId item k k₄

omit [Fprint De] in
/-- The passphrase in what the keyring answers for an item. -/
def released (secret : Except String ByteArray) : Except BiometricError String :=
  match secret with
  | .error e => .error (.backend s!"keyring read: {e}")
  | .ok bytes =>
    match String.fromUTF8? bytes with
    | some text => .ok text
    | none => .error (.backend "stored passphrase is not valid UTF-8")

omit [Fprint De] in
theorem release_result (item : It) (v : LinuxVault Ke De It) :
    (release item v).1 = released (SecretService.itemSecret item v.keyring).1 := by
  unfold release released
  have called : onKeyring (.itemSecret item) (SecretService.itemSecret item) v =
      (.ok (SecretService.itemSecret item v.keyring).1, { v with
        keyring := (SecretService.itemSecret item v.keyring).2,
        trace := v.trace ++ [.itemSecret item (SecretService.itemSecret item v.keyring).1] }) := rfl
  rw [Fallible.bind_of_ok called]
  cases (SecretService.itemSecret item v.keyring).1 with
  | error e => rfl
  | ok bytes =>
    simp only [orElse, Fallible.bind_run, Fallible.query_run, mapError_ok]
    cases String.fromUTF8? bytes <;> rfl

/-- Once an item was found the check decides, and after it the secret of that item is read. -/
theorem retrieve_of_finds {keyId : String} {item : It} {k : Ke} {v : LinuxVault Ke De It}
    (finds : Finds keyId item v.keyring k) :
    (retrieve keyId v).1 = ((verifyFingerprint v).1).bind fun _ =>
      released (SecretService.itemSecret item k).1 := by
  obtain ⟨runtime, opened, unlocking, found⟩ := finds
  rename_i k₁ k₂ k₃ unlocked items
  -- Up to the check only the keyring has changed, and the check does not see it.
  let u : LinuxVault Ke De It := { v with
    keyring := k
    trace := v.trace ++ [.runtime (.ok ())] ++ [.keyringNew (.ok ())] ++ [.unlock unlocked] ++
      [.searchItems (attributes keyId) (.ok (item :: items))] }
  have reached : retrieve keyId v = (releaseFirst (item :: items) : Routine Ke De It String) u := by
    simp [retrieve, runBlocking, openKeyring, searchItems, onKeyring, orElse, Fallible.bind_run,
      runtime, opened, unlocking, found, u]
  have rekeyed : Rekeyed k v u := ⟨rfl, rfl, rfl⟩
  obtain ⟨same, after⟩ := alike_verifyFingerprint v u rekeyed
  rw [reached]
  show ((verifyFingerprint >>= fun _ => release item) u).1 = _
  rw [same]
  cases ran : (verifyFingerprint : Routine Ke De It Unit) u with
  | mk r w =>
    rw [ran] at after
    cases r with
    | error e =>
      rw [Fallible.bind_of_error ran]
      rfl
    | ok done =>
      rw [Fallible.bind_of_ok ran, release_result, after.1]
      rfl

/-- Whatever the services answer: a device is claimed only after an entry was found, the
secret is read only after the check succeeded, and a device that was claimed is stopped and
released once. Where an entry is found, the check decides and then its secret is read. The
check succeeds exactly where the device answers every call and the signals say match, and it is
cancelled exactly where they are heard and come to no match. -/
theorem fingerprint_gate_discipline :
    (∀ keyId (v : LinuxVault Ke De It), ∃ es, (retrieve keyId v).2.trace = v.trace ++ es ∧
      Disciplined Ke De keyId (retrieve keyId v).1 es) ∧
    (∀ keyId item k (v : LinuxVault Ke De It), Finds keyId item v.keyring k →
      (retrieve keyId v).1 = ((verifyFingerprint v).1).bind fun _ =>
        released (SecretService.itemSecret item k).1) ∧
    ∀ v : LinuxVault Ke De It,
      ((verifyFingerprint v).1 = .ok () ↔
        ∃ d, Ready v.device d ∧ (Fprint.verifyStatus d).1.Matches) ∧
      ((verifyFingerprint v).1 = .error .cancelled ↔
        ∃ d, Ready v.device d ∧ ¬ (Fprint.verifyStatus d).1.Matches ∧
          ¬ (Fprint.verifyStatus d).1.Undecodable) ∧
      ∃ es, (verifyFingerprint v).2.trace = v.trace ++ es ∧
        ((verifyFingerprint v).1 = .ok () ↔ Passed es) ∧
        ∀ stream, .verifyStatus stream ∈ es → ¬ stream.Matches → ¬ stream.Undecodable →
          (verifyFingerprint v).1 = .error .cancelled := by
  refine ⟨fun keyId v => ?_, fun keyId item k v => retrieve_of_finds, fun v => ?_⟩
  · obtain ⟨es, grown, trace⟩ := logs_retrieve keyId v
    refine ⟨es, grown, ?_⟩
    constructor
    · intro pre user answer post split
      exact trace.claim_after_search split
    · intro pre item answer post split
      exact trace.secret_after_check split
    · intro stream heard no_match decodable
      exact trace.cancelled heard no_match decodable
    · intro pre user post split
      exact trace.bracketed.given_back split
    · intro pre answer post split
      exact trace.bracketed.release_claimed split
  · obtain ⟨es, grown, gate⟩ := logs_verifyFingerprint v
    refine ⟨verifyFingerprint_ok_iff v, verifyFingerprint_cancelled_iff v, es, grown,
      gate.ok_iff, ?_⟩
    intro stream heard no_match decodable
    exact gate.cancelled heard no_match decodable

end Gitway.Biometric.Linux
