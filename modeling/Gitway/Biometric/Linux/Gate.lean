import Gitway.Biometric.Linux
import Gitway.Lib.Logged

/-!
# The discipline of the fingerprint gate

Every run of `retrieve` leaves a trace of one of a few shapes, whatever the services
answer. From the shapes follows who was called before whom, and how often.
-/
namespace Gitway.Biometric.Linux

open Lib

variable {Ke De It α β : Type}

/-! ### Single calls -/

/-- One call, which is in the trace with its answer. -/
def Calls (call : Except String α → Call It) (x : Routine Ke De It (Except String α)) : Prop :=
  ∀ v, ∃ answer v', x v = (.ok answer, v') ∧ v'.trace = v.trace ++ [call answer]

theorem calls_onDevice (call : Except String α → Call It) (op : De → Except String α × De) :
    Calls call (onDevice call op : Routine Ke De It (Except String α)) :=
  fun _ => ⟨_, _, rfl, rfl⟩

theorem calls_onKeyring (call : Except String α → Call It) (op : Ke → Except String α × Ke) :
    Calls call (onKeyring call op : Routine Ke De It (Except String α)) :=
  fun _ => ⟨_, _, rfl, rfl⟩

section
variable {L : Except BiometricError β → List (Call It) → Prop} {call : Except String α → Call It}
  {x : Routine Ke De It (Except String α)}

/-- A call whose answer is a value. -/
theorem Calls.value (calls : Calls call x) {rest : Except String α → Routine Ke De It β}
    (goes_on : ∀ answer, Fallible.Logs LinuxVault.trace
      (fun r later => L r (call answer :: later)) (rest answer)) :
    Fallible.Logs LinuxVault.trace L (x >>= rest) := by
  intro v
  obtain ⟨answer, v', ran, logged⟩ := calls v
  obtain ⟨later, grown, fits⟩ := goes_on answer v'
  refine ⟨call answer :: later, ?_, ?_⟩
  · rw [Fallible.bind_of_ok ran, grown, logged, List.append_assoc, List.singleton_append]
  · rw [Fallible.bind_of_ok ran]
    exact fits

/-- A call whose failure ends the routine. -/
theorem Calls.checked (calls : Calls call x) {failed : String → BiometricError}
    {rest : α → Routine Ke De It β} (fails : ∀ e, L (.error (failed e)) [call (.error e)])
    (goes_on : ∀ a, Fallible.Logs LinuxVault.trace (fun r later => L r (call (.ok a) :: later))
      (rest a)) :
    Fallible.Logs LinuxVault.trace L (x >>= fun answer => orElse failed answer >>= rest) := by
  apply calls.value
  intro answer
  cases answer with
  | error e =>
    intro v
    exact ⟨[], by simp [orElse, Fallible.bind_run], fails e⟩
  | ok a => exact goes_on a

end

/-! ### The scan -/

def Call.isHint : Call It → Bool
  | .hint _ => true
  | _ => false

/-- A signal after which the scan goes on. -/
def Waits (signal : Except String VerifyStatus) : Prop :=
  ∃ status, signal = .ok status ∧ status.done = false

/-- The first terminal signal says match. -/
def SignalStream.Matches (stream : SignalStream) : Prop :=
  ∃ before args later, stream.signals = before ++ .ok args :: later ∧
    (∀ signal ∈ before, Waits signal) ∧ args.done = true ∧ args.result = "verify-match"

/-- A signal cannot be decoded, and no terminal one came before it. -/
def SignalStream.Undecodable (stream : SignalStream) : Prop :=
  ∃ before e later, stream.signals = before ++ .error e :: later ∧ ∀ signal ∈ before, Waits signal

/-- What the signals come to. -/
def verdictOf : List (Except String VerifyStatus) → Except BiometricError Bool
  | [] => .ok false
  | .error e :: _ => .error (.backend s!"verify args: {e}")
  | .ok args :: later =>
    if args.done then .ok (args.result == "verify-match") else verdictOf later

theorem verdictOf_skip {before : List (Except String VerifyStatus)}
    (waits : ∀ signal ∈ before, Waits signal) (rest : List (Except String VerifyStatus)) :
    verdictOf (before ++ rest) = verdictOf rest := by
  induction before with
  | nil => rfl
  | cons signal before ih =>
    obtain ⟨status, rfl, not_done⟩ := waits signal List.mem_cons_self
    have later := ih fun signal member => waits signal (List.mem_cons_of_mem _ member)
    simp [verdictOf, not_done, later]

theorem first_decisive (signals : List (Except String VerifyStatus)) :
    (∀ signal ∈ signals, Waits signal) ∨ ∃ before signal later,
      signals = before ++ signal :: later ∧ (∀ early ∈ before, Waits early) ∧ ¬ Waits signal := by
  induction signals with
  | nil => exact Or.inl (by simp)
  | cons signal signals ih =>
    by_cases waits : Waits signal
    · rcases ih with all | ⟨before, decisive, later, rfl, early, decides⟩
      · exact Or.inl (List.forall_mem_cons.mpr ⟨waits, all⟩)
      · exact Or.inr ⟨signal :: before, decisive, later, rfl,
          List.forall_mem_cons.mpr ⟨waits, early⟩, decides⟩
    · exact Or.inr ⟨[], signal, signals, rfl, by simp, waits⟩

theorem verdictOf_of_matches {stream : SignalStream} (matched : stream.Matches) :
    verdictOf stream.signals = .ok true := by
  obtain ⟨before, args, later, split, early, terminal, result⟩ := matched
  rw [split, verdictOf_skip early]
  simp [verdictOf, terminal, result]

theorem verdictOf_of_undecodable {stream : SignalStream} (broken : stream.Undecodable) :
    ∃ e, verdictOf stream.signals = .error (.backend e) := by
  obtain ⟨before, e, later, split, early⟩ := broken
  rw [split, verdictOf_skip early]
  exact ⟨_, rfl⟩

/-- The verdict is decided by the first signal that does not wait. -/
theorem verdictOf_cases (stream : SignalStream) :
    verdictOf stream.signals = .ok true ∧ stream.Matches ∨
      (∃ e, verdictOf stream.signals = .error (.backend e)) ∧ stream.Undecodable ∨
      verdictOf stream.signals = .ok false := by
  rcases first_decisive stream.signals with all | ⟨before, signal, later, split, early, decides⟩
  · right
    right
    -- All signals wait, so the scan runs out of them: no match.
    rw [← List.append_nil stream.signals, verdictOf_skip all]
    rfl
  · cases signal with
    | error e =>
      have broken : stream.Undecodable := ⟨before, e, later, split, early⟩
      exact Or.inr (Or.inl ⟨verdictOf_of_undecodable broken, broken⟩)
    | ok args =>
      have terminal : args.done = true := by
        by_contra waiting
        exact decides ⟨args, rfl, by simpa using waiting⟩
      by_cases result : args.result = "verify-match"
      · have matched : stream.Matches := ⟨before, args, later, split, early, terminal, result⟩
        exact Or.inl ⟨verdictOf_of_matches matched, matched⟩
      · right
        right
        rw [split, verdictOf_skip early]
        simp [verdictOf, terminal, result]

/-- The outcome of consuming the signals is their verdict. No answer counts as no match. -/
structure Consumed (signals : List (Except String VerifyStatus))
    (r : Except BiometricError (Option Bool)) (piece : List (Call It)) : Prop where
  matched : ∀ m, r = .ok m → verdictOf signals = .ok (m.getD false)
  failed : ∀ e, r = .error e → verdictOf signals = .error e
  hints : ∀ call ∈ piece, call.isHint

theorem logs_hint (message : String) :
    Fallible.Logs LinuxVault.trace (fun r piece => r = .ok () ∧ ∀ call ∈ piece, call.isHint)
      (hint message : Routine Ke De It Unit) := by
  intro v
  unfold hint
  split
  · exact ⟨[.hint message], rfl, rfl, by simp [Call.isHint]⟩
  · exact ⟨[], by simp, rfl, by simp⟩

theorem logs_consume (ends : Bool) (signals : List (Except String VerifyStatus)) :
    Fallible.Logs LinuxVault.trace (Consumed signals)
      (consume ends signals : Routine Ke De It (Option Bool)) := by
  induction signals with
  | nil =>
    apply Fallible.Logs.pure
    refine ⟨?_, by simp, by simp⟩
    rintro m answer
    obtain rfl := Except.ok.inj answer
    -- The end of the stream and the deadline come to the same.
    cases ends <;> rfl
  | cons signal later ih =>
    cases signal with
    | error e =>
      intro v
      refine ⟨[], by simp [consume, orElse, Fallible.bind_run], ?_⟩
      refine ⟨by simp [consume, orElse, Fallible.bind_run], ?_, by simp⟩
      intro e' failed
      exact congrArg Except.error (Except.error.inj failed)
    | ok args =>
      show Fallible.Logs LinuxVault.trace _ (if args.done then _ else _)
      split
      next terminal =>
        apply Fallible.Logs.pure
        refine ⟨?_, by simp, by simp⟩
        intro m answer
        obtain rfl := Except.ok.inj answer
        simp [verdictOf, terminal]
      next waiting =>
        -- The signal decides nothing; it may print a hint.
        have skipped : verdictOf (.ok args :: later) = verdictOf later := by
          simp [verdictOf, waiting]
        have hinted : Fallible.Logs LinuxVault.trace
            (fun r piece => r = .ok () ∧ ∀ call ∈ piece, call.isHint)
            (hintRetry args.result : Routine Ke De It Unit) := by
          unfold hintRetry
          split
          · exact logs_hint _
          · exact Fallible.Logs.pure ⟨rfl, by simp⟩
        apply hinted.bind
        · intro e piece failed
          simp at failed
        · intro _ hints hinted
          apply ih.mono
          intro r piece consumed
          refine ⟨?_, ?_, List.forall_mem_append.mpr ⟨hinted.2, consumed.hints⟩⟩
          · rw [skipped]
            exact consumed.matched
          · rw [skipped]
            exact consumed.failed

/-! ### Shapes of traces -/

/-- What a scan leaves in the trace: it subscribes, starts, and listens. -/
inductive ScanTrace : Except BiometricError Bool → List (Call It) → Prop where
  | unsubscribed (e : String) :
    ScanTrace (.error (.backend s!"verify signal: {e}")) [.receiveVerifyStatus (.error e)]
  | unstarted (e : String) :
    ScanTrace (.error (.backend s!"verify start: {e}"))
      [.receiveVerifyStatus (.ok ()), .verifyStart "any" (.error e)]
  | listened {before after : List (Call It)} {stream : SignalStream}
    (hints_before : ∀ call ∈ before, call.isHint) (hints_after : ∀ call ∈ after, call.isHint) :
    ScanTrace (verdictOf stream.signals)
      (.receiveVerifyStatus (.ok ()) :: .verifyStart "any" (.ok ()) ::
        (before ++ .verifyStatus stream :: after))

section
variable [Fprint De]

theorem logs_scan :
    Fallible.Logs LinuxVault.trace ScanTrace (scan : Routine Ke De It Bool) := by
  apply (calls_onDevice _ _).checked
  · exact ScanTrace.unsubscribed
  intro _
  apply (calls_onDevice _ _).checked
  · exact ScanTrace.unstarted
  intro _
  apply (logs_hint _).bind
  · intro e piece failed
    simp at failed
  intro _ before hints_before
  have watched : Fallible.Logs LinuxVault.trace
      (fun r piece => ∃ stream, r = .ok stream ∧ piece = [.verifyStatus stream])
      (verifyStatus : Routine Ke De It SignalStream) := fun v => ⟨_, rfl, _, rfl, rfl⟩
  apply watched.bind
  · rintro e piece ⟨stream, failed, _⟩
    simp at failed
  rintro stream _ ⟨_, same, rfl⟩
  obtain rfl := Except.ok.inj same
  apply (logs_consume stream.ends stream.signals).bind
  · intro e piece consumed
    rw [← consumed.failed e rfl]
    exact ScanTrace.listened hints_before.2 consumed.hints
  · intro m piece consumed
    have verdict := consumed.matched m rfl
    have shape : ScanTrace (verdictOf stream.signals) (.receiveVerifyStatus (.ok ()) ::
        .verifyStart "any" (.ok ()) :: (before ++ .verifyStatus stream :: piece)) :=
      ScanTrace.listened hints_before.2 consumed.hints
    rw [verdict] at shape
    -- A scan that gets no answer in time ends like one without a match.
    cases m with
    | some matched =>
      apply Fallible.Logs.pure
      rw [List.append_nil]
      exact shape
    | none =>
      apply Fallible.Logs.pure
      rw [List.append_nil]
      exact shape

/-- A call that only finds out about the device. -/
def Call.isInquiry : Call It → Bool
  | .systemBus _ | .managerNew _ | .getDefaultDevice _ | .devicePath _ _ | .deviceBuild _
  | .listEnrolledFingers _ _ => true
  | _ => false

/-- What becomes of the verdict of a scan. -/
def outcomeOf : Except BiometricError Bool → Except BiometricError Unit
  | .ok true => .ok ()
  | .ok false => .error .cancelled
  | .error e => .error e

/-- What a check of the fingerprint leaves in the trace: inquiries, and a scan between
claiming the device and giving it back. -/
inductive GateTrace : Except BiometricError Unit → List (Call It) → Prop where
  | refused {inquiries : List (Call It)} {e : BiometricError}
    (only : ∀ call ∈ inquiries, call.isInquiry) : GateTrace (.error e) inquiries
  | unclaimed (inquiries : List (Call It)) (e : String)
    (only : ∀ call ∈ inquiries, call.isInquiry) :
    GateTrace (.error (.backend s!"claim device: {e}")) (inquiries ++ [.claim "" (.error e)])
  | scanned (inquiries : List (Call It)) {path : String} {fingers : List String}
    {verdict : Except BiometricError Bool} {scanning : List (Call It)}
    {stop release : Except String Unit} (only : ∀ call ∈ inquiries, call.isInquiry)
    (device : .getDefaultDevice (.ok path) ∈ inquiries)
    (enrolled : .listEnrolledFingers "" (.ok fingers) ∈ inquiries) (some_finger : fingers ≠ [])
    (scan : ScanTrace verdict scanning) :
    GateTrace (outcomeOf verdict) (inquiries ++ .claim "" (.ok ()) ::
      (scanning ++ [.verifyStop stop, .release release]))

theorem logs_verifyFingerprint :
    Fallible.Logs LinuxVault.trace GateTrace (verifyFingerprint : Routine Ke De It Unit) := by
  -- Up to the claim, a failure ends the check with inquiries only.
  apply (calls_onDevice _ _).checked
  · exact fun _ => GateTrace.refused (by simp [Call.isInquiry])
  intro _
  apply (calls_onDevice _ _).checked
  · exact fun _ => GateTrace.refused (by simp [Call.isInquiry])
  intro _
  apply (calls_onDevice _ _).checked
  · exact fun _ => GateTrace.refused (by simp [Call.isInquiry])
  intro path
  apply (calls_onDevice _ _).checked
  · exact fun _ => GateTrace.refused (by simp [Call.isInquiry])
  intro _
  apply (calls_onDevice _ _).checked
  · exact fun _ => GateTrace.refused (by simp [Call.isInquiry])
  intro _
  apply (calls_onDevice _ _).value
  intro answer
  split
  next => exact Fallible.Logs.fail (GateTrace.refused (by simp [Call.isInquiry]))
  next some_finger =>
    cases answer with
    | error e => simp [Except.toOption] at some_finger
    | ok fingers =>
      have not_empty : fingers ≠ [] := by simpa [Except.toOption] using some_finger
      let inquiries : List (Call It) := [.systemBus (.ok ()), .managerNew (.ok ()),
        .getDefaultDevice (.ok path), .devicePath path (.ok ()), .deviceBuild (.ok ()),
        .listEnrolledFingers "" (.ok fingers)]
      have only : ∀ call ∈ inquiries, call.isInquiry := by simp [inquiries, Call.isInquiry]
      have device : .getDefaultDevice (.ok path) ∈ inquiries := by simp [inquiries]
      have enrolled : .listEnrolledFingers "" (.ok fingers) ∈ inquiries := by simp [inquiries]
      apply (calls_onDevice _ _).checked
      · exact fun e => GateTrace.unclaimed inquiries e only
      intro _
      -- The claim is held from here on, so the scan is run for its outcome.
      apply logs_scan.attempt.bind
      · rintro e piece ⟨_, failed, _⟩
        simp at failed
      rintro verdict scanning ⟨_, same, scan⟩
      obtain rfl := Except.ok.inj same
      -- Stop and release are called whatever the verdict, and their answers are dropped.
      apply (calls_onDevice _ _).value
      intro stop
      apply (calls_onDevice _ _).value
      intro release
      have shape : GateTrace (outcomeOf verdict) (inquiries ++ .claim "" (.ok ()) ::
          (scanning ++ [.verifyStop stop, .release release])) :=
        GateTrace.scanned inquiries only device enrolled not_empty scan
      split
      · exact Fallible.Logs.pure shape
      · exact Fallible.Logs.fail shape
      · exact Fallible.Logs.fail shape

variable [SecretService Ke It]

/-- A call that sets up the keyring, before anything is searched. -/
def Call.isSetup : Call It → Bool
  | .runtime _ | .keyringNew _ | .unlock _ => true
  | _ => false

/-- Pieces that a check of the fingerprint leaves. -/
def Gated (Ke De : Type) {It : Type} [Fprint De] (r : Except BiometricError Unit)
    (gate : List (Call It)) : Prop :=
  ∃ v : LinuxVault Ke De It, (verifyFingerprint v).1 = r ∧
    (verifyFingerprint v).2.trace = v.trace ++ gate

/-- What `retrieve` leaves in the trace. -/
inductive RetrieveTrace (Ke De : Type) [Fprint De] (keyId : String) :
    Except BiometricError String → List (Call It) → Prop where
  | unopened {setup : List (Call It)} {e : BiometricError}
    (only : ∀ call ∈ setup, call.isSetup) : RetrieveTrace Ke De keyId (.error e) setup
  | unsearched (setup : List (Call It)) (e : String) (only : ∀ call ∈ setup, call.isSetup) :
    RetrieveTrace Ke De keyId (.error (.backend s!"keyring search: {e}"))
      (setup ++ [.searchItems (attributes keyId) (.error e)])
  | not_found (setup : List (Call It)) (only : ∀ call ∈ setup, call.isSetup) :
    RetrieveTrace Ke De keyId (.error .notEnrolled)
      (setup ++ [.searchItems (attributes keyId) (.ok [])])
  | refused (setup : List (Call It)) (item : It) (items : List It) (gate : List (Call It))
    {e : BiometricError} (only : ∀ call ∈ setup, call.isSetup)
    (gated : Gated Ke De (.error e) gate) :
    RetrieveTrace Ke De keyId (.error e)
      (setup ++ .searchItems (attributes keyId) (.ok (item :: items)) :: gate)
  | passed (setup : List (Call It)) (item : It) (items : List It) (gate : List (Call It))
    {r : Except BiometricError String} {secret : Except String ByteArray}
    (only : ∀ call ∈ setup, call.isSetup) (gated : Gated Ke De (.ok ()) gate) :
    RetrieveTrace Ke De keyId r (setup ++ .searchItems (attributes keyId) (.ok (item :: items)) ::
      (gate ++ [.itemSecret item secret]))

omit [SecretService Ke It] in
theorem logs_gated :
    Fallible.Logs LinuxVault.trace (Gated Ke De)
      (verifyFingerprint : Routine Ke De It Unit) := by
  intro v
  obtain ⟨gate, grown, _⟩ := logs_verifyFingerprint v
  exact ⟨gate, grown, v, rfl, grown⟩

omit [Fprint De] in
theorem logs_release (item : It) :
    Fallible.Logs LinuxVault.trace (fun _ piece => ∃ secret, piece = [.itemSecret item secret])
      (release item : Routine Ke De It String) := by
  apply (calls_onKeyring _ _).checked
  · exact fun e => ⟨_, rfl⟩
  intro bytes
  cases String.fromUTF8? bytes with
  | some text => exact Fallible.Logs.pure ⟨_, rfl⟩
  | none => exact Fallible.Logs.fail ⟨_, rfl⟩

omit [Fprint De] in
theorem logs_openKeyring :
    Fallible.Logs LinuxVault.trace (fun _ piece => ∀ call ∈ piece, call.isSetup)
      (openKeyring : Routine Ke De It Unit) := by
  apply (calls_onKeyring _ _).checked
  · intro e
    simp [Call.isSetup]
  intro _
  apply (calls_onKeyring _ _).value
  intro unlocked
  exact Fallible.Logs.pure (by simp [Call.isSetup])

omit [Fprint De] in
theorem logs_searchItems (query : Attributes) :
    Fallible.Logs LinuxVault.trace
      (fun r piece => ∃ answer, r = answer.mapError (fun e => .backend s!"keyring search: {e}") ∧
        piece = [.searchItems query answer])
      (searchItems query : Routine Ke De It (List It)) := by
  apply (calls_onKeyring _ _).value
  exact fun answer v => ⟨[], by simp [orElse], answer, rfl, rfl⟩

theorem logs_retrieve (keyId : String) :
    Fallible.Logs LinuxVault.trace (RetrieveTrace Ke De keyId)
      (retrieve keyId : Routine Ke De It String) := by
  apply (calls_onKeyring _ _).checked
  · exact fun e => RetrieveTrace.unopened (by simp [Call.isSetup])
  intro _
  apply logs_openKeyring.bind
  · intro e piece only
    exact RetrieveTrace.unopened (List.forall_mem_cons.mpr ⟨rfl, only⟩)
  intro _ opening only_opening
  -- The calls before the search are the setup.
  let setup : List (Call It) := .runtime (.ok ()) :: opening
  have only : ∀ call ∈ setup, call.isSetup := List.forall_mem_cons.mpr ⟨rfl, only_opening⟩
  apply (logs_searchItems _).bind
  · rintro e _ ⟨answer, failed, rfl⟩
    cases answer with
    | ok items => simp at failed
    | error reason =>
      obtain rfl := Except.error.inj failed
      exact RetrieveTrace.unsearched setup reason only
  rintro items _ ⟨answer, found, rfl⟩
  obtain rfl : answer = .ok items := mapError_eq_ok_iff.mp found.symm
  cases items with
  | nil => exact Fallible.Logs.fail (RetrieveTrace.not_found setup only)
  | cons item items =>
    apply logs_gated.bind
    · intro e gate gated
      exact RetrieveTrace.refused setup item items gate only gated
    intro _ gate gated
    apply (logs_release item).mono
    rintro r _ ⟨secret, rfl⟩
    exact RetrieveTrace.passed setup item items gate only gated

end

/-! ### What the shapes say -/

/-- Everything that the check needs was there, and the signals say match. -/
structure Passed (es : List (Call It)) : Prop where
  device : ∃ path, .getDefaultDevice (.ok path) ∈ es
  finger : ∃ fingers, .listEnrolledFingers "" (.ok fingers) ∈ es ∧ fingers ≠ []
  claimed : .claim "" (.ok ()) ∈ es
  started : .verifyStart "any" (.ok ()) ∈ es
  matched : ∃ stream, .verifyStatus stream ∈ es ∧ stream.Matches

/-- A call of another kind is not among calls that are all of one kind. -/
theorem not_among {kind : Call It → Bool} {es : List (Call It)} (only : ∀ call ∈ es, kind call)
    {call : Call It} (other : kind call = false) : call ∉ es := by
  intro member
  simp [only call member] at other

/-- The stream that a scan listened to is the only one in its trace. -/
theorem ScanTrace.verdict {verdict : Except BiometricError Bool} {es : List (Call It)}
    (scan : ScanTrace verdict es) {stream : SignalStream} (heard : .verifyStatus stream ∈ es) :
    verdict = verdictOf stream.signals := by
  cases scan with
  | unsubscribed e => simp at heard
  | unstarted e => simp at heard
  | @listened before after stream' hints_before hints_after =>
    have no_before : .verifyStatus stream ∉ before := not_among hints_before rfl
    have no_after : .verifyStatus stream ∉ after := not_among hints_after rfl
    have same : stream = stream' := by simpa [no_before, no_after] using heard
    rw [same]

/-- A scan that came to a match was started and heard it. -/
theorem ScanTrace.of_match {es : List (Call It)} (scan : ScanTrace (.ok true) es) :
    .verifyStart "any" (.ok ()) ∈ es ∧ ∃ stream, .verifyStatus stream ∈ es ∧ stream.Matches := by
  generalize verdict_eq : Except.ok true = verdict at scan
  cases scan with
  | unsubscribed e => simp at verdict_eq
  | unstarted e => simp at verdict_eq
  | @listened before after stream hints_before hints_after =>
    refine ⟨by simp, stream, by simp, ?_⟩
    rcases verdictOf_cases stream with ⟨_, matched⟩ | ⟨⟨e, verdict⟩, _⟩ | verdict
    · exact matched
    · simp [verdict] at verdict_eq
    · simp [verdict] at verdict_eq

/-- The check succeeds exactly when everything it needs was there. -/
theorem GateTrace.ok_iff {r : Except BiometricError Unit} {es : List (Call It)}
    (gate : GateTrace r es) : r = .ok () ↔ Passed es := by
  cases gate with
  | refused only =>
    simp only [reduceCtorEq, false_iff]
    exact fun passed => not_among only rfl passed.claimed
  | unclaimed inquiries e only =>
    simp only [reduceCtorEq, false_iff]
    intro passed
    rcases List.mem_append.mp passed.claimed with earlier | last
    · exact not_among only rfl earlier
    · simp at last
  | @scanned inquiries path fingers verdict scanning stop release only device enrolled
      some_finger scan =>
    constructor
    · intro succeeded
      obtain rfl : verdict = .ok true := by
        cases verdict with
        | error e => simp [outcomeOf] at succeeded
        | ok matched => cases matched <;> simp [outcomeOf] at succeeded ⊢
      obtain ⟨started, stream, heard, matched⟩ := scan.of_match
      exact ⟨⟨path, List.mem_append_left _ device⟩,
        ⟨fingers, List.mem_append_left _ enrolled, some_finger⟩, by simp, by simp [started],
        stream, by simp [heard], matched⟩
    -- A match that was heard is the verdict of the scan.
    · intro passed
      obtain ⟨stream, heard, matched⟩ := passed.matched
      have no_inquiry : .verifyStatus stream ∉ inquiries := not_among only rfl
      have in_scan : .verifyStatus stream ∈ scanning := by simpa [no_inquiry] using heard
      rw [scan.verdict in_scan, verdictOf_of_matches matched]
      rfl

/-- No match, no signal in time and no more signals all end in `Cancelled`. -/
theorem GateTrace.cancelled {r : Except BiometricError Unit} {es : List (Call It)}
    (gate : GateTrace r es) {stream : SignalStream} (heard : .verifyStatus stream ∈ es)
    (no_match : ¬ stream.Matches) (decodable : ¬ stream.Undecodable) : r = .error .cancelled := by
  cases gate with
  | refused only => exact absurd heard (not_among only rfl)
  | unclaimed inquiries e only =>
    rcases List.mem_append.mp heard with earlier | last
    · exact absurd earlier (not_among only rfl)
    · simp at last
  | @scanned inquiries path fingers verdict scanning stop release only device enrolled
      some_finger scan =>
    have no_inquiry : .verifyStatus stream ∉ inquiries := not_among only rfl
    have in_scan : .verifyStatus stream ∈ scanning := by simpa [no_inquiry] using heard
    rw [scan.verdict in_scan]
    rcases verdictOf_cases stream with ⟨_, matched⟩ | ⟨_, broken⟩ | verdict
    · exact absurd matched no_match
    · exact absurd broken decodable
    · rw [verdict]
      rfl

/-! ### Claims are given back -/

/-- A call that neither claims a device nor gives one back. -/
def Call.isQuiet : Call It → Bool
  | .claim _ (.ok _) | .verifyStop _ | .release _ => false
  | _ => true

/-- At most one claim succeeds, and the device is stopped and released after it. -/
inductive Bracketed : List (Call It) → Prop where
  | quiet {es : List (Call It)} (only : ∀ call ∈ es, call.isQuiet) : Bracketed es
  | bracket {before during after : List (Call It)} {stop release : Except String Unit}
    (quiet_before : ∀ call ∈ before, call.isQuiet) (quiet_during : ∀ call ∈ during, call.isQuiet)
    (quiet_after : ∀ call ∈ after, call.isQuiet) :
    Bracketed (before ++ .claim "" (.ok ()) ::
      (during ++ .verifyStop stop :: .release release :: after))

theorem quiet_of_inquiry {call : Call It} (inquiry : call.isInquiry) : call.isQuiet := by
  cases call <;> simp_all [Call.isInquiry, Call.isQuiet]

theorem quiet_of_setup {call : Call It} (setup : call.isSetup) : call.isQuiet := by
  cases call <;> simp_all [Call.isSetup, Call.isQuiet]

theorem quiet_of_hint {call : Call It} (hint : call.isHint) : call.isQuiet := by
  cases call <;> simp_all [Call.isHint, Call.isQuiet]

theorem ScanTrace.quiet {verdict : Except BiometricError Bool} {es : List (Call It)}
    (scan : ScanTrace verdict es) : ∀ call ∈ es, call.isQuiet := by
  cases scan with
  | unsubscribed e => simp [Call.isQuiet]
  | unstarted e => simp [Call.isQuiet]
  | listened hints_before hints_after =>
    intro call member
    simp only [List.mem_cons, List.mem_append] at member
    rcases member with rfl | rfl | hint | rfl | hint
    · rfl
    · rfl
    · exact quiet_of_hint (hints_before call hint)
    · rfl
    · exact quiet_of_hint (hints_after call hint)

theorem GateTrace.bracketed {r : Except BiometricError Unit} {es : List (Call It)}
    (gate : GateTrace r es) : Bracketed es := by
  cases gate with
  | refused only => exact Bracketed.quiet fun call member => quiet_of_inquiry (only call member)
  | unclaimed inquiries e only =>
    apply Bracketed.quiet
    intro call member
    rcases List.mem_append.mp member with inquiry | last
    · exact quiet_of_inquiry (only call inquiry)
    · rw [List.mem_singleton.mp last]
      rfl
  | @scanned inquiries path fingers verdict scanning stop release only device enrolled
      some_finger scan =>
    exact Bracketed.bracket (fun call member => quiet_of_inquiry (only call member)) scan.quiet
      (by simp)

/-- Quiet calls around a trace do not matter. -/
theorem Bracketed.around {es : List (Call It)} (bracketed : Bracketed es)
    {before : List (Call It)} (after : List (Call It))
    (quiet_before : ∀ call ∈ before, call.isQuiet) (quiet_after : ∀ call ∈ after, call.isQuiet) :
    Bracketed (before ++ es ++ after) := by
  cases bracketed with
  | quiet only =>
    apply Bracketed.quiet
    intro call member
    simp only [List.mem_append] at member
    rcases member with (earlier | inside) | later
    · exact quiet_before call earlier
    · exact only call inside
    · exact quiet_after call later
  | @bracket front during back stop release quiet_front quiet_during quiet_back =>
    have whole : Bracketed ((before ++ front) ++ .claim "" (.ok ()) ::
        (during ++ .verifyStop stop :: .release release :: (back ++ after))) :=
      Bracketed.bracket (List.forall_mem_append.mpr ⟨quiet_before, quiet_front⟩) quiet_during
        (List.forall_mem_append.mpr ⟨quiet_back, quiet_after⟩)
    simpa using whole

def Call.isStop : Call It → Bool
  | .verifyStop _ => true
  | _ => false

def Call.isRelease : Call It → Bool
  | .release _ => true
  | _ => false

theorem loud_of_stop (call : Call It) (stop : call.isStop = true) : call.isQuiet = false := by
  cases call <;> simp_all [Call.isStop, Call.isQuiet]

theorem loud_of_release (call : Call It) (release : call.isRelease = true) :
    call.isQuiet = false := by
  cases call <;> simp_all [Call.isRelease, Call.isQuiet]

section
variable {es pre post : List (Call It)}

theorem countP_quiet (only : ∀ call ∈ es, call.isQuiet) {p : Call It → Bool}
    (loud : ∀ call, p call = true → call.isQuiet = false) : es.countP p = 0 := by
  rw [List.countP_eq_zero]
  intro call member found
  exact not_among only (loud call found) member

/-- After a claim that succeeded there is exactly one stop and one release. -/
theorem Bracketed.given_back (bracketed : Bracketed es) {user : String}
    (split : es = pre ++ .claim user (.ok ()) :: post) :
    post.countP Call.isStop = 1 ∧ post.countP Call.isRelease = 1 := by
  cases bracketed with
  | quiet only =>
    have member : .claim user (.ok ()) ∈ es := by simp [split]
    exact absurd member (not_among only rfl)
  | @bracket before during after stop release quiet_before quiet_during quiet_after =>
    -- There is one claim, so the trace is taken apart at it.
    have earlier : .claim user (.ok ()) ∉ before := not_among quiet_before rfl
    have later : .claim user (.ok ()) ∉
        during ++ .verifyStop stop :: .release release :: after := by
      have no_during : .claim user (.ok ()) ∉ during := not_among quiet_during rfl
      have no_after : .claim user (.ok ()) ∉ after := not_among quiet_after rfl
      simp [no_during, no_after]
    obtain ⟨_, _, rfl⟩ := (List.append_cons_inj_of_notMem earlier later).mp split
    constructor
    · rw [List.countP_append, List.countP_cons, List.countP_cons,
        countP_quiet quiet_during loud_of_stop, countP_quiet quiet_after loud_of_stop]
      rfl
    · rw [List.countP_append, List.countP_cons, List.countP_cons,
        countP_quiet quiet_during loud_of_release, countP_quiet quiet_after loud_of_release]
      rfl

/-- Nothing is released that was not claimed. -/
theorem Bracketed.release_claimed (bracketed : Bracketed es) {answer : Except String Unit}
    (split : es = pre ++ .release answer :: post) : .claim "" (.ok ()) ∈ pre := by
  cases bracketed with
  | quiet only =>
    have member : .release answer ∈ es := by simp [split]
    exact absurd member (not_among only rfl)
  | @bracket before during after stop release quiet_before quiet_during quiet_after =>
    have earlier : .release answer ∉
        before ++ .claim "" (.ok ()) :: (during ++ [.verifyStop stop]) := by
      have no_before : .release answer ∉ before := not_among quiet_before rfl
      have no_during : .release answer ∉ during := not_among quiet_during rfl
      simp [no_before, no_during]
    have later : .release answer ∉ after := not_among quiet_after rfl
    have shape : (before ++ .claim "" (.ok ()) :: (during ++ [.verifyStop stop])) ++
        .release release :: after = pre ++ .release answer :: post := by
      rw [← split]
      simp
    obtain ⟨rfl, _, _⟩ := (List.append_cons_inj_of_notMem earlier later).mp shape
    simp

end

/-! ### `retrieve` -/

variable [Fprint De]

theorem Gated.trace {r : Except BiometricError Unit} {gate : List (Call It)}
    (gated : Gated Ke De r gate) : GateTrace r gate := by
  obtain ⟨v, rfl, grown⟩ := gated
  obtain ⟨piece, grown_too, shape⟩ := logs_verifyFingerprint v
  obtain rfl := List.append_cancel_left (grown.symm.trans grown_too)
  exact shape

/-- The discipline of `retrieve`, as facts about its outcome and its trace. -/
structure Disciplined (Ke De : Type) {It : Type} [Fprint De] (keyId : String)
    (r : Except BiometricError String) (es : List (Call It)) : Prop where
  claim_after_search : ∀ pre user answer post, es = pre ++ .claim user answer :: post →
    ∃ item items, .searchItems (attributes keyId) (.ok (item :: items)) ∈ pre
  secret_after_check : ∀ pre item answer post, es = pre ++ .itemSecret item answer :: post →
    ∃ setup gate, pre = setup ++ gate ∧ Gated Ke De (.ok ()) gate
  cancelled : ∀ stream, .verifyStatus stream ∈ es → ¬ stream.Matches → ¬ stream.Undecodable →
    r = .error .cancelled
  given_back : ∀ pre user post, es = pre ++ .claim user (.ok ()) :: post →
    post.countP Call.isStop = 1 ∧ post.countP Call.isRelease = 1
  release_claimed : ∀ pre answer post, es = pre ++ .release answer :: post →
    .claim "" (.ok ()) ∈ pre

private theorem prefix_of_not_mem {α : Type} {front back pre post : List α} {a : α}
    (absent : a ∉ front) (split : front ++ back = pre ++ a :: post) :
    ∃ mid, pre = front ++ mid := by
  rcases List.append_eq_append_iff.mp split with ⟨mid, later, _⟩ | ⟨rest, inside, last⟩
  · exact ⟨mid, later⟩
  · cases rest with
    | nil => exact ⟨[], by simp [inside]⟩
    | cons first rest =>
      obtain ⟨rfl, _⟩ := List.cons.inj last
      exact absurd (by simp [inside]) absent

theorem ScanTrace.no_secret {verdict : Except BiometricError Bool} {es : List (Call It)}
    (scan : ScanTrace verdict es) (item : It) (answer : Except String ByteArray) :
    .itemSecret item answer ∉ es := by
  cases scan with
  | unsubscribed e => simp
  | unstarted e => simp
  | @listened before after stream hints_before hints_after =>
    have no_before : .itemSecret item answer ∉ before := not_among hints_before rfl
    have no_after : .itemSecret item answer ∉ after := not_among hints_after rfl
    simp [no_before, no_after]

theorem GateTrace.no_secret {r : Except BiometricError Unit} {es : List (Call It)}
    (gate : GateTrace r es) (item : It) (answer : Except String ByteArray) :
    .itemSecret item answer ∉ es := by
  cases gate with
  | refused only => exact not_among only rfl
  | unclaimed inquiries e only =>
    have no_inquiry : .itemSecret item answer ∉ inquiries := not_among only rfl
    simp [no_inquiry]
  | scanned inquiries only device enrolled some_finger scan =>
    have no_inquiry : .itemSecret item answer ∉ inquiries := not_among only rfl
    simp [no_inquiry, scan.no_secret item answer]

section
variable {keyId : String} {r : Except BiometricError String} {es : List (Call It)}

theorem RetrieveTrace.bracketed (trace : RetrieveTrace Ke De keyId r es) : Bracketed es := by
  cases trace with
  | unopened only => exact Bracketed.quiet fun call member => quiet_of_setup (only call member)
  | unsearched setup e only =>
    apply Bracketed.quiet
    exact List.forall_mem_append.mpr
      ⟨fun call member => quiet_of_setup (only call member), by simp [Call.isQuiet]⟩
  | not_found setup only =>
    apply Bracketed.quiet
    exact List.forall_mem_append.mpr
      ⟨fun call member => quiet_of_setup (only call member), by simp [Call.isQuiet]⟩
  | refused setup item items gate only gated =>
    have quiet : ∀ call ∈ setup ++ [.searchItems (attributes keyId) (.ok (item :: items))],
        call.isQuiet := List.forall_mem_append.mpr
      ⟨fun call member => quiet_of_setup (only call member), by simp [Call.isQuiet]⟩
    have whole := gated.trace.bracketed.around [] quiet (by simp)
    simpa using whole
  | @passed setup item items gate _ secret only gated =>
    have quiet : ∀ call ∈ setup ++ [.searchItems (attributes keyId) (.ok (item :: items))],
        call.isQuiet := List.forall_mem_append.mpr
      ⟨fun call member => quiet_of_setup (only call member), by simp [Call.isQuiet]⟩
    have whole := gated.trace.bracketed.around [.itemSecret item secret] quiet
      (by simp [Call.isQuiet])
    simpa using whole

/-- What is neither set-up nor search comes after a search that found an item. -/
theorem RetrieveTrace.after_search (trace : RetrieveTrace Ke De keyId r es) {call : Call It}
    (member : call ∈ es) (no_setup : call.isSetup = false)
    (no_search : ∀ answer, call ≠ .searchItems (attributes keyId) answer) :
    ∃ setup item items gate, (∀ call ∈ setup, call.isSetup) ∧
      ((∃ e, r = .error e ∧ Gated Ke De (.error e) gate ∧
          es = setup ++ .searchItems (attributes keyId) (.ok (item :: items)) :: gate) ∨
        ∃ secret, Gated Ke De (.ok ()) gate ∧
          es = setup ++ .searchItems (attributes keyId) (.ok (item :: items)) ::
            (gate ++ [.itemSecret item secret])) := by
  cases trace with
  | unopened only => exact absurd member (not_among only no_setup)
  | unsearched setup e only => simp [not_among only no_setup, no_search] at member
  | not_found setup only => simp [not_among only no_setup, no_search] at member
  | @refused setup item items gate e only gated =>
    exact ⟨setup, item, items, gate, only, Or.inl ⟨e, rfl, gated, rfl⟩⟩
  | @passed setup item items gate _ secret only gated =>
    exact ⟨setup, item, items, gate, only, Or.inr ⟨secret, gated, rfl⟩⟩

theorem RetrieveTrace.claim_after_search (trace : RetrieveTrace Ke De keyId r es)
    {pre post : List (Call It)} {user : String} {answer : Except String Unit}
    (split : es = pre ++ .claim user answer :: post) :
    ∃ item items, .searchItems (attributes keyId) (.ok (item :: items)) ∈ pre := by
  have member : .claim user answer ∈ es := by simp [split]
  obtain ⟨setup, item, items, gate, only, ended⟩ := trace.after_search member rfl (by simp)
  have absent : .claim user answer ∉
      setup ++ [.searchItems (attributes keyId) (.ok (item :: items))] := by
    have no_setup : .claim user answer ∉ setup := not_among only rfl
    simp [no_setup]
  -- The trace begins with the search that found the item, and the claim is not in there.
  have before (rest : List (Call It))
      (shape : es = setup ++ .searchItems (attributes keyId) (.ok (item :: items)) :: rest) :
      .searchItems (attributes keyId) (.ok (item :: items)) ∈ pre := by
    rw [shape, List.append_cons] at split
    obtain ⟨mid, rfl⟩ := prefix_of_not_mem absent split
    simp
  rcases ended with ⟨e, _, _, shape⟩ | ⟨secret, _, shape⟩
  · exact ⟨item, items, before _ shape⟩
  · exact ⟨item, items, before _ shape⟩

theorem RetrieveTrace.secret_after_check (trace : RetrieveTrace Ke De keyId r es)
    {pre post : List (Call It)} {item : It} {answer : Except String ByteArray}
    (split : es = pre ++ .itemSecret item answer :: post) :
    ∃ setup gate, pre = setup ++ gate ∧ Gated Ke De (.ok ()) gate := by
  have member : .itemSecret item answer ∈ es := by simp [split]
  obtain ⟨setup, found, items, gate, only, ended⟩ := trace.after_search member rfl (by simp)
  have no_setup : .itemSecret item answer ∉ setup := not_among only rfl
  rcases ended with ⟨e, _, gated, rfl⟩ | ⟨secret, gated, rfl⟩
  · simp [no_setup, gated.trace.no_secret item answer] at member
  · -- The secret that is read is the last call, and all the others come before it.
    have earlier : .itemSecret item answer ∉
        setup ++ .searchItems (attributes keyId) (.ok (found :: items)) :: gate := by
      simp [no_setup, gated.trace.no_secret item answer]
    have shape : (setup ++ .searchItems (attributes keyId) (.ok (found :: items)) :: gate) ++
        .itemSecret found secret :: [] = pre ++ .itemSecret item answer :: post := by
      rw [← split]
      simp
    obtain ⟨rfl, _, _⟩ := (List.append_cons_inj_of_notMem earlier (by simp)).mp shape
    exact ⟨setup ++ [.searchItems (attributes keyId) (.ok (found :: items))], gate, by simp, gated⟩

theorem RetrieveTrace.cancelled (trace : RetrieveTrace Ke De keyId r es) {stream : SignalStream}
    (heard : .verifyStatus stream ∈ es) (no_match : ¬ stream.Matches)
    (decodable : ¬ stream.Undecodable) : r = .error .cancelled := by
  obtain ⟨setup, item, items, gate, only, ended⟩ := trace.after_search heard rfl (by simp)
  have no_setup : .verifyStatus stream ∉ setup := not_among only rfl
  rcases ended with ⟨e, rfl, gated, rfl⟩ | ⟨secret, gated, rfl⟩
  · have in_gate : .verifyStatus stream ∈ gate := by simpa [no_setup] using heard
    have outcome := gated.trace.cancelled in_gate no_match decodable
    rw [Except.error.inj outcome]
  · -- A check that succeeded has heard a match.
    have in_gate : .verifyStatus stream ∈ gate := by simpa [no_setup] using heard
    have outcome := gated.trace.cancelled in_gate no_match decodable
    simp at outcome

end

end Gitway.Biometric.Linux
