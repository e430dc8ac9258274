import Gitway.Agent.InStep

/-!
# Passphrases piped into `gitway-add`

Standard input that is not a terminal takes the place of the prompt. The loop over the
files asks once for each encrypted key, and the first question reads the input to its
end. The lines reach their keys exactly when only the first of them holds anything.
-/
namespace Gitway.Agent

open Lib Biometric

variable {Priv Pub Ag Va Te : Type} [PublicKey Pub] [PrivateKey Priv Pub]

/-- An encrypted key file with a line that opens the key. -/
structure Locked (Priv : Type) {Pub : Type} [PrivateKey Priv Pub] where
  path : String
  key : Priv
  line : String
  plain : Priv
  encrypted : PrivateKey.isEncrypted key = true
  opens : PrivateKey.decrypt key line = .ok plain
  single : '\n' ∉ line.toList

/-- Lines as they are piped in. The last one may lack its newline. -/
def pipedText (lines : List String) (ended : Bool) : String :=
  "\n".intercalate lines ++ if ended then "\n" else ""

theorem pipedText_cons (line : String) (rest : List String) (ended : Bool) :
    ∃ later, pipedText (line :: rest) ended = line ++ later ∧
      ((∀ next ∈ rest, '\n' ∉ next.toList) →
        ((∀ c ∈ later.toList, c = '\n') ↔ ∀ next ∈ rest, next = "")) := by
  unfold pipedText
  cases rest with
  | nil => exact ⟨if ended then "\n" else "", by simp, by cases ended <;> simp⟩
  | cons next rest =>
    refine ⟨"\n" ++ "\n".intercalate (next :: rest) ++ if ended then "\n" else "", ?_, ?_⟩
    · rw [String.intercalate_cons_cons]
      simp only [String.append_assoc]
    · intro single
      have blank := Text.intercalate_blank_iff single
      simp only [String.toList_append, List.mem_append, or_imp, forall_and, blank]
      cases ended <;> simp

omit [PublicKey Pub] in
/-- What is left of the whole input after trimming is the first line exactly when no other
line holds anything. -/
theorem trim_pipedText_iff (p : Locked Priv) (rest : List (Locked Priv)) (ended : Bool) :
    Text.trimEndNewlines (pipedText ((p :: rest).map (·.line)) ended) = p.line ↔
      ∀ q ∈ rest, q.line = "" := by
  obtain ⟨later, text, blank⟩ := pipedText_cons p.line (rest.map (·.line)) ended
  have single : ∀ next ∈ rest.map (·.line), '\n' ∉ next.toList := by
    simpa using fun q _ => q.single
  rw [List.map_cons, text, Text.trimEndNewlines_append_iff p.single, blank single]
  simp

/-! ### Asking once -/

section
variable [BiometricVault Va]

/-- The keystore releases nothing, however often it is asked. -/
def Unenrolled (vault : Va) : Prop :=
  ∀ (asked : List String) (id : String), ∃ e, (BiometricVault.retrieve id
    (asked.foldl (fun v other => (BiometricVault.retrieve other v).2) vault)).1 = .error e

theorem Unenrolled.refuses {vault : Va} (none_enrolled : Unenrolled vault) (id : String) :
    ∃ e, (BiometricVault.retrieve id vault).1 = .error e :=
  none_enrolled [] id

theorem Unenrolled.asked {vault : Va} (none_enrolled : Unenrolled vault) (id : String) :
    Unenrolled (BiometricVault.retrieve id vault).2 :=
  fun asked other => none_enrolled (id :: asked) other

/-- Keys are opened by typed passphrases alone. -/
def TypedOnly (unlock : UnlockMode) (vault : Va) : Prop :=
  unlock = .disabled ∨ unlock = .auto ∧ Unenrolled vault

/-- What comes before the question for a passphrase. -/
def beforePrompt (unlock : UnlockMode) (key : Priv) : Program Ag Va Te Unit := do
  match unlock with
  | .auto =>
    let _ ← autoUnlockPassphrase key
    return ()
  | _ => return ()

theorem beforePrompt_run {unlock : UnlockMode} {w : World Ag Va Te}
    (typed : TypedOnly unlock w.vault) (key : Priv) :
    ∃ vault, TypedOnly unlock vault ∧
      beforePrompt unlock key w = (.ok (), { w with vault := vault }) := by
  rcases typed with rfl | ⟨rfl, none_enrolled⟩
  · exact ⟨w.vault, Or.inl rfl, rfl⟩
  · obtain ⟨e, refused⟩ := none_enrolled.refuses (keyId key)
    refine ⟨_, Or.inr ⟨rfl, none_enrolled.asked (keyId key)⟩, ?_⟩
    unfold beforePrompt
    -- Only one of the three ways the lookup can go starts with a refusal.
    rcases autoUnlockPassphrase_cases key w with
      ⟨_, _, ran⟩ | ⟨pass, _, asked, _⟩ | ⟨pass, _, asked, _⟩
    · exact Fallible.bind_of_ok ran
    · simp [refused] at asked
    · simp [refused] at asked

variable [Terminal Te]

/-- The call of `prompt_passphrase` for a key. -/
def promptFor (unlock : UnlockMode) (key : Priv) (path : String) : Program Ag Va Te String := do
  beforePrompt unlock key
  shimPromptPassphrase path

/-- Without the keystore an encrypted key is opened by what the prompt returns. -/
theorem loadAndDecrypt_typed {unlock : UnlockMode} {w : World Ag Va Te}
    (typed : TypedOnly unlock w.vault) {key : Priv} (encrypted : PrivateKey.isEncrypted key = true)
    (path : String) :
    loadAndDecrypt path key unlock w = (promptFor unlock key path >>= fun pass =>
      Fallible.query fun _ => (PrivateKey.decrypt key pass).mapError fun e =>
        .signing s!"decrypt failed: {e}") w := by
  unfold loadAndDecrypt loadKey promptFor
  rw [if_neg (by simp [encrypted])]
  rcases typed with rfl | ⟨rfl, none_enrolled⟩
  · rfl
  · obtain ⟨e, refused⟩ := none_enrolled.refuses (keyId key)
    rcases autoUnlockPassphrase_cases key w with
      ⟨_, _, ran⟩ | ⟨pass, _, asked, _⟩ | ⟨pass, _, asked, _⟩
    · have before : beforePrompt .auto key w =
          (.ok (), { w with vault := (BiometricVault.retrieve (keyId key) w.vault).2 }) :=
        Fallible.bind_of_ok ran
      dsimp only
      rw [Fallible.bind_of_ok ran, bind_assoc, Fallible.bind_of_ok before]
    · simp [refused] at asked
    · simp [refused] at asked

omit [BiometricVault Va] in
/-- The prompt returns all there is on standard input, and leaves nothing. -/
theorem shimPromptPassphrase_piped {w : World Ag Va Te} {bytes : ByteArray} {text : String}
    (piped : w.env.stdinIsTerminal = false) (input : w.stdin = .ok bytes)
    (valid : decodeUtf8 bytes = .ok text) (path : String) :
    shimPromptPassphrase path w =
      (.ok (Text.trimEndNewlines text), { w with stdin := .ok ByteArray.empty }) := by
  have read : (Program.readStdin : Program Ag Va Te (Except IoError String)) w =
      (.ok (.ok text), { w with stdin := .ok ByteArray.empty }) := by
    simp [Program.readStdin, input, valid, bind, Except.bind, Except.map]
  have answered : (passphraseFromStdinIfNotTty : Program Ag Va Te (Option String)) w =
      (.ok (some (Text.trimEndNewlines text)), { w with stdin := .ok ByteArray.empty }) := by
    unfold passphraseFromStdinIfNotTty
    rw [Fallible.bind_of_ok (Program.environment_run w), piped, if_neg (by simp),
      Fallible.bind_of_ok read]
    rfl
  unfold shimPromptPassphrase
  rw [Fallible.bind_of_ok answered]
  rfl

theorem promptFor_piped {unlock : UnlockMode} {w : World Ag Va Te} {bytes : ByteArray}
    {text : String} (typed : TypedOnly unlock w.vault) (piped : w.env.stdinIsTerminal = false)
    (input : w.stdin = .ok bytes) (valid : decodeUtf8 bytes = .ok text) (key : Priv)
    (path : String) :
    ∃ vault, TypedOnly unlock vault ∧ promptFor unlock key path w =
      (.ok (Text.trimEndNewlines text),
        { w with vault := vault, stdin := .ok ByteArray.empty }) := by
  obtain ⟨vault, still, ran⟩ := beforePrompt_run typed key
  refine ⟨vault, still, ?_⟩
  unfold promptFor
  rw [Fallible.bind_of_ok ran]
  exact shimPromptPassphrase_piped (w := { w with vault := vault }) piped input valid path

end

/-! ### The loop -/

variable [Agent Ag Priv Pub] [BiometricVault Va]

/-- The files hold these keys, and their passphrases come from standard input. -/
structure Waiting (pieces : List (Locked Priv)) (loaded : List (Identity Pub))
    (unlock : UnlockMode) (w : World (RecordedAgent Ag Priv) Va Te) : Prop where
  piped : w.env.stdinIsTerminal = false
  files : ∀ p ∈ pieces, keyAt Priv w.fs p.path = some p.key
  fresh : ∀ p ∈ pieces, isLoaded loaded p.key = false
  typed : TypedOnly unlock w.vault
  accepting : Accepting w.agent

variable [Terminal Te]

section
variable {pieces : List (Locked Priv)} {loaded : List (Identity Pub)} {unlock : UnlockMode}

/-- A round whose prompt returns the right passphrase adds the key and uses up the input. -/
theorem shimRound_piped (lifetime : Option Nat) (confirm : Bool) {p : Locked Priv}
    (member : p ∈ pieces) {w : World (RecordedAgent Ag Priv) Va Te}
    (waiting : Waiting pieces loaded unlock w) {bytes : ByteArray} {text : String}
    (input : w.stdin = .ok bytes)
    (valid : decodeUtf8 bytes = .ok text) (right : Text.trimEndNewlines text = p.line) :
    ∃ w', shimRound loaded lifetime confirm unlock () p.path w = (.ok (), w') ∧
      Waiting pieces loaded unlock w' ∧ w'.stdin = .ok ByteArray.empty ∧
      w'.agent.adds = w.agent.adds ++ [(p.plain, ⟨lifetime, confirm⟩)] := by
  obtain ⟨pem, read, parsed⟩ := parsed_of_keyAt (waiting.files p member)
  obtain ⟨vault, still, asked⟩ :=
    promptFor_piped waiting.typed waiting.piped input valid p.key p.path
  let v : World (RecordedAgent Ag Priv) Va Te :=
    { w with vault := vault, stdin := .ok ByteArray.empty }
  -- The prompt takes all of the input, and the agent takes the key.
  have opened : loadAndDecrypt p.path p.key unlock w = (.ok p.plain, v) := by
    rw [loadAndDecrypt_typed waiting.typed p.encrypted, Fallible.bind_of_ok asked,
      Fallible.query_run, right, p.opens, mapError_ok]
  obtain ⟨taken, accepting⟩ := waiting.accepting.takes p.plain lifetime confirm
  let u : World (RecordedAgent Ag Priv) Va Te :=
    { v with agent := (Agent.add p.plain lifetime confirm w.agent).2 }
  have handed : (Program.onAgent (Agent.add p.plain lifetime confirm) :
      Program (RecordedAgent Ag Priv) Va Te Unit) v = (.ok (), u) :=
    Fallible.run_eq taken
  have kept : ¬(unlock ≠ .enroll ∧ isLoaded loaded p.key = true) := by
    simp [waiting.fresh p member]
  have text_read := Program.readToString_run w p.path
  rw [read, Program.io_ok] at text_read
  refine ⟨{ u with stdout := u.stdout ++ [.line s!"Identity added: {p.path}"] }, ?_,
    ⟨waiting.piped, waiting.files, waiting.fresh, still, accepting⟩, rfl, rfl⟩
  unfold shimRound addOne
  rw [Fallible.bind_of_ok text_read]
  dsimp only
  simp only [parsed]
  rw [if_neg kept, Fallible.bind_of_ok opened, Fallible.bind_of_ok handed]
  rfl

/-- Once the input is used up, the loop adds the keys whose passphrase is empty. -/
theorem shimRounds_emptied (lifetime : Option Nat) (confirm : Bool) (rest : List (Locked Priv))
    (among : ∀ p ∈ rest, p ∈ pieces) (blank : ∀ p ∈ rest, p.line = "")
    {w : World (RecordedAgent Ag Priv) Va Te}
    (waiting : Waiting pieces loaded unlock w) (emptied : w.stdin = .ok ByteArray.empty) :
    ∃ w', (rest.map (·.path)).foldlM (shimRound loaded lifetime confirm unlock) () w =
        (.ok (), w') ∧
      Waiting pieces loaded unlock w' ∧ w'.stdin = .ok ByteArray.empty ∧
      w'.agent.adds = w.agent.adds ++ rest.map fun p => (p.plain, ⟨lifetime, confirm⟩) := by
  induction rest generalizing w with
  | nil => exact ⟨w, rfl, waiting, emptied, by simp⟩
  | cons p rest ih =>
    have right : Text.trimEndNewlines "" = p.line := by
      rw [blank p (by simp)]
      rfl
    obtain ⟨v, round, still, gone, added⟩ :=
      shimRound_piped lifetime confirm (among p (by simp)) waiting emptied rfl right
    obtain ⟨w', rounds, later, left, all⟩ := ih (fun q member => among q (by simp [member]))
      (fun q member => blank q (by simp [member])) still gone
    refine ⟨w', ?_, later, left, ?_⟩
    · rw [List.map_cons, List.foldlM_cons, Fallible.bind_of_ok round]
      exact rounds
    · simp [all, added]

end

/-- The world in which the loop comes to the path behind these. -/
def reached (lifetime : Option Nat) (confirm : Bool) (unlock : UnlockMode) (done : List String)
    (w : World (RecordedAgent Ag Priv) Va Te) : World (RecordedAgent Ag Priv) Va Te :=
  (done.foldlM (shimRound (loadedIdentities w.agent) lifetime confirm unlock) () w).2

/-- Every key is added, and each prompt returns the line of the key it is called for. -/
structure Served (pieces : List (Locked Priv)) (lifetime : Option Nat) (confirm : Bool)
    (unlock : UnlockMode) (w : World (RecordedAgent Ag Priv) Va Te) : Prop where
  succeeds : (shimAdd (pieces.map (·.path)) lifetime confirm unlock w).1 = .ok 0
  added : (shimAdd (pieces.map (·.path)) lifetime confirm unlock w).2.agent.adds =
    w.agent.adds ++ pieces.map fun p => (p.plain, ⟨lifetime, confirm⟩)
  answered : ∀ done p rest, pieces = done ++ p :: rest →
    (promptFor unlock p.key p.path
      (reached lifetime confirm unlock (done.map (·.path)) w)).1 = .ok p.line

/-- Nothing is loaded yet, and standard input is one line for each key. -/
structure Piped (pieces : List (Locked Priv)) (ended : Bool) (unlock : UnlockMode)
    (w : World (RecordedAgent Ag Priv) Va Te) : Prop where
  waiting : Waiting pieces (loadedIdentities w.agent) unlock w
  input : w.stdin = .ok (pipedText (pieces.map (·.line)) ended).toUTF8

section
variable {pieces : List (Locked Priv)} {ended : Bool} {unlock : UnlockMode}
  {w : World (RecordedAgent Ag Priv) Va Te}

theorem Piped.served (piped : Piped pieces ended unlock w) (lifetime : Option Nat) (confirm : Bool)
    (blank : ∀ p ∈ pieces.tail, p.line = "") : Served pieces lifetime confirm unlock w := by
  cases pieces with
  | nil => exact ⟨rfl, by simp [shimAdd, Fallible.bind_run], by simp⟩
  | cons p rest =>
    have valid := Reference.decodeUtf8_toUTF8 (pipedText ((p :: rest).map (·.line)) ended)
    have right := (trim_pipedText_iff p rest ended).mpr blank
    have tail (q : Locked Priv) (member : q ∈ rest) : q ∈ p :: rest := by simp [member]
    obtain ⟨v, round, still, gone, first⟩ :=
      shimRound_piped lifetime confirm List.mem_cons_self piped.waiting piped.input valid right
    obtain ⟨w', rounds, _, _, all⟩ :=
      shimRounds_emptied lifetime confirm rest tail blank still gone
    have ran : shimAdd ((p :: rest).map (·.path)) lifetime confirm unlock w = (.ok 0, w') := by
      have loop : ((p :: rest).map (·.path)).foldlM
          (shimRound (loadedIdentities w.agent) lifetime confirm unlock) () w = (.ok (), w') := by
        rw [List.map_cons, List.foldlM_cons, Fallible.bind_of_ok round]
        exact rounds
      exact Fallible.bind_of_ok loop
    refine ⟨by rw [ran], by rw [ran, all, first]; simp, fun done q later split => ?_⟩
    cases done with
    | nil =>
      -- The first prompt finds the whole input.
      obtain ⟨rfl, _⟩ : q = p ∧ later = rest := by simpa [eq_comm] using split
      obtain ⟨vault, _, asked⟩ := promptFor_piped piped.waiting.typed piped.waiting.piped
        piped.input valid q.key q.path
      exact (congrArg Prod.fst asked).trans (congrArg Except.ok right)
    | cons p' done =>
      -- A later one finds none, and its line is empty.
      obtain ⟨rfl, rfl⟩ : p' = p ∧ rest = done ++ q :: later := by simpa [eq_comm] using split
      obtain ⟨u, before, waits, none_left, _⟩ := shimRounds_emptied lifetime confirm done
        (fun r member => tail r (by simp [member])) (fun r member => blank r (by simp [member]))
        still gone
      have here : reached lifetime confirm unlock ((p' :: done).map (·.path)) w = u := by
        unfold reached
        rw [List.map_cons, List.foldlM_cons, Fallible.bind_of_ok round, before]
      have nothing : decodeUtf8 ByteArray.empty = .ok "" := rfl
      obtain ⟨vault, _, asked⟩ :=
        promptFor_piped waits.typed waits.piped none_left nothing q.key q.path
      rw [here, asked, blank q (by simp)]
      rfl

theorem Served.blank (piped : Piped pieces ended unlock w) {lifetime : Option Nat} {confirm : Bool}
    (served : Served pieces lifetime confirm unlock w) : ∀ p ∈ pieces.tail, p.line = "" := by
  cases pieces with
  | nil => simp
  | cons p rest =>
    obtain ⟨vault, _, ran⟩ := promptFor_piped piped.waiting.typed piped.waiting.piped piped.input
      (Reference.decodeUtf8_toUTF8 _) p.key p.path
    have answer : (promptFor unlock p.key p.path w).1 = .ok p.line := served.answered [] p rest rfl
    rw [ran, Except.ok.injEq] at answer
    exact (trim_pipedText_iff p rest ended).mp answer

/-- Piped lines reach the keys they are meant for exactly when only the first line holds a
passphrase. -/
theorem piped_lines_served_iff (piped : Piped pieces ended unlock w) (lifetime : Option Nat)
    (confirm : Bool) :
    Served pieces lifetime confirm unlock w ↔ ∀ p ∈ pieces.tail, p.line = "" :=
  ⟨fun served => served.blank piped, piped.served lifetime confirm⟩

end

/-! ### On the reference agent -/

open Reference

theorem refVault_unenrolled : Unenrolled (⟨[]⟩ : RefVault) := by
  intro asked id
  have same : asked.foldl (fun v other => (BiometricVault.retrieve other v).2)
      (⟨[]⟩ : RefVault) = ⟨[]⟩ := by
    induction asked with
    | nil => rfl
    | cons other asked ih => exact ih
  rw [same]
  exact ⟨.notEnrolled, rfl⟩

private def pipedInto (files : List (String × String)) (input : String) :
    World (RecordedAgent RefAgent RefPrivate) RefVault RefTerminal where
  env := environment [("SSH_AUTH_SOCK", "/run/agent.sock")]
  fs := textFiles files
  agent := ⟨⟨false, []⟩, []⟩
  vault := ⟨[]⟩
  terminal := ⟨[]⟩
  stdin := .ok input.toUTF8
  stdout := []
  stderr := []
  signals := []

private def lockedWith (path blob line : String) (single : '\n' ∉ line.toList) :
    Locked RefPrivate where
  path := path
  key := ⟨⟨blob⟩, some line⟩
  line := line
  plain := ⟨⟨blob⟩, none⟩
  encrypted := rfl
  opens := by simp [PrivateKey.decrypt]
  single := single

private theorem pipedInto_piped {files : List (String × String)} {pieces : List (Locked RefPrivate)}
    (there : ∀ p ∈ pieces, keyAt RefPrivate (textFiles files) p.path = some p.key) :
    Piped pieces true .auto (pipedInto files (pipedText (pieces.map (·.line)) true)) where
  waiting := {
    piped := rfl
    files := there
    fresh := fun _ _ => rfl
    typed := Or.inr ⟨rfl, refVault_unenrolled⟩
    accepting := (refAgent_accepting rfl).recorded []
  }
  input := rfl

private def keyA : Locked RefPrivate := lockedWith "a" "AAAA" "one" (by decide)

private def keyB (line : String) (single : '\n' ∉ line.toList) : Locked RefPrivate :=
  lockedWith "b" "BBBB" line single

private def oneAndNone : List (String × String) :=
  [("a", "openssh-key-v1 AAAA aes256-ctr one"), ("b", "openssh-key-v1 BBBB aes256-ctr ")]

private theorem oneAndNone_there : ∀ p ∈ [keyA, keyB "" (by decide)],
    keyAt RefPrivate (textFiles oneAndNone) p.path = some p.key := by
  have first : keyAt RefPrivate (textFiles oneAndNone) "a" = some keyA.key :=
    keyAt_of_parsed (readToString_textFiles _ _ _ rfl) (by decide)
  have second : keyAt RefPrivate (textFiles oneAndNone) "b" = some ⟨⟨"BBBB"⟩, some ""⟩ :=
    keyAt_of_parsed (readToString_textFiles _ _ _ rfl) (by decide)
  simpa using ⟨first, second⟩

theorem piped_lines_served_empty_second :
    Served [keyA, keyB "" (by decide)] none false .auto (pipedInto oneAndNone "one\n\n") :=
  (piped_lines_served_iff (pipedInto_piped oneAndNone_there) none false).mpr
    (by simp [keyB, lockedWith])

private def oneAndTwo : List (String × String) :=
  [("a", "openssh-key-v1 AAAA aes256-ctr one"), ("b", "openssh-key-v1 BBBB aes256-ctr two")]

private theorem oneAndTwo_there : ∀ p ∈ [keyA, keyB "two" (by decide)],
    keyAt RefPrivate (textFiles oneAndTwo) p.path = some p.key := by
  have first : keyAt RefPrivate (textFiles oneAndTwo) "a" = some keyA.key :=
    keyAt_of_parsed (readToString_textFiles _ _ _ rfl) (by decide)
  have second : keyAt RefPrivate (textFiles oneAndTwo) "b" = some ⟨⟨"BBBB"⟩, some "two"⟩ :=
    keyAt_of_parsed (readToString_textFiles _ _ _ rfl) (by decide)
  simpa using ⟨first, second⟩

theorem piped_lines_two_passphrases :
    Piped [keyA, keyB "two" (by decide)] true .auto (pipedInto oneAndTwo "one\ntwo\n") ∧
      ¬ Served [keyA, keyB "two" (by decide)] none false .auto
        (pipedInto oneAndTwo "one\ntwo\n") := by
  have piped : Piped [keyA, keyB "two" (by decide)] true .auto
      (pipedInto oneAndTwo "one\ntwo\n") := pipedInto_piped oneAndTwo_there
  refine ⟨piped, fun served => ?_⟩
  have blank := served.blank piped (keyB "two" (by decide)) (by simp)
  simp [keyB, lockedWith] at blank

end Gitway.Agent
