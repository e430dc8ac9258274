import Gitway.Hosts.Consent
import Gitway.Machine

/-!
# What `gitway hosts add` does before it asks

The entry that is added is the one the host showed and a person or `--yes` agreed to, and
nobody is authenticated on the way. Whether there is a person to ask is looked at last,
though: by then the host has been connected to.
-/
namespace Gitway.Hosts

open Lib Transport

variable {Ne Ag Va Te : Type}

/-! ### Consent -/

/-- `--yes` is not given, and there is nobody to ask. -/
def NobodyToAsk (args : HostsAddArgs) (mode : OutputMode) (w : World Ag Va Te) : Prop :=
  args.yes = false ∧ (mode = .json ∨ w.env.stdinIsTerminal = false)

/-- A person is asked, and this is read. -/
structure Asked (args : HostsAddArgs) (mode : OutputMode) (w : World Ag Va Te)
    (line : Except IoError String) : Prop where
  unconfirmed : args.yes = false
  human : mode = .human
  terminal : w.env.stdinIsTerminal = true
  line : (readLine w).1 = .ok line

/-- How the confirmation can end. -/
inductive Consent (args : HostsAddArgs) (mode : OutputMode) (w : World Ag Va Te) :
    Except AnvilError (Option Nat) → Prop where
  | given (yes : args.yes = true) : Consent args mode w (.ok none)
  | nobody (alone : NobodyToAsk args mode w) : Consent args mode w (.ok (some EXIT_NEEDS_YES))
  | confirmed (response : String) (asked : Asked args mode w (.ok response))
    (yes : saysYes response = true) : Consent args mode w (.ok none)
  | declined (response : String) (asked : Asked args mode w (.ok response))
    (no : saysYes response = false) : Consent args mode w (.ok (some EXIT_USER_DECLINED))
  | unread (failure : IoError) (asked : Asked args mode w (.error failure)) (e : AnvilError) :
    Consent args mode w (.error e)

/-- Reading a line changes nothing but standard input, and messages do not matter to it. -/
theorem readLine_behind (w : World Ag Va Te) (stderr : List String) :
    ∃ line v, (readLine w).1 = .ok line ∧ readLine { w with stderr := stderr } = (.ok line, v) ∧
      v.fs = w.fs := by
  unfold readLine
  cases w.stdin with
  | error e => exact ⟨_, _, rfl, rfl, rfl⟩
  | ok bytes => exact ⟨_, _, rfl, rfl, rfl⟩

theorem confirm_consent (args : HostsAddArgs) (mode : OutputMode) (path : String)
    (w : World Ag Va Te) (stderr : List String) :
    ∃ r v, confirm args mode path { w with stderr := stderr } = (r, v) ∧ v.fs = w.fs ∧
      Consent args mode w r := by
  unfold confirm
  cases yes : args.yes with
  | true => exact ⟨_, _, rfl, rfl, .given yes⟩
  | false =>
    simp only [Bool.false_eq_true, if_false]
    rw [Fallible.bind_of_ok (Program.environment_run _)]
    by_cases nobody : mode = .json ∨ w.env.stdinIsTerminal = false
    · rw [if_pos nobody]
      exact ⟨_, _, rfl, rfl, .nobody ⟨yes, nobody⟩⟩
    · rw [if_neg nobody, Fallible.bind_of_ok (Program.eprintln_run _ _)]
      rw [not_or, Bool.not_eq_false] at nobody
      have human : mode = .human := by
        cases mode with
        | human => rfl
        | json => exact absurd rfl nobody.1
      obtain ⟨line, v, read, behind, files⟩ := readLine_behind w
        (stderr ++ [s!"Append this fingerprint to {path}? [y/N] "])
      have asked : Asked args mode w line := ⟨yes, human, nobody.2, read⟩
      rw [Fallible.bind_of_ok behind]
      -- What was read decides.
      cases line with
      | error failure => exact ⟨_, v, rfl, files, .unread failure asked _⟩
      | ok response =>
        have accepted : (Fallible.query fun _ : World Ag Va Te =>
            (Except.ok response : Except IoError String).mapError fun e =>
              AnvilError.invalidConfig s!"could not read stdin: {e.message}") v =
            (.ok response, v) := rfl
        rw [Fallible.bind_of_ok accepted]
        cases answer : saysYes response with
        | true => exact ⟨_, v, rfl, files, .confirmed response asked answer⟩
        | false =>
          exact ⟨_, { v with stderr := _ }, rfl, files, .declined response asked answer⟩

/-! ### The entry -/

section
variable (Hk : Type) [KnownHosts Hk]

/-- Append one entry, hashed or not. -/
def appendEntry (hashed : Bool) (path host fingerprint : String) :
    FileSystem → Except AnvilError Unit × FileSystem :=
  if hashed then KnownHosts.appendKnownHostHashed Hk path host fingerprint
  else KnownHosts.appendKnownHost Hk path host fingerprint

/-- What the code relies on: an entry that is appended changes the file, and a failure to
append it leaves the file as it was. -/
structure Appends : Prop where
  appended : ∀ hashed path host fingerprint fs,
    (appendEntry Hk hashed path host fingerprint fs).1 = .ok () →
      (appendEntry Hk hashed path host fingerprint fs).2.read path ≠ fs.read path
  not_appended : ∀ hashed path host fingerprint fs e,
    (appendEntry Hk hashed path host fingerprint fs).1 = .error e →
      (appendEntry Hk hashed path host fingerprint fs).2.read path = fs.read path

/-- The form the entry is to have: the one asked for, else that of the file. -/
def Form (args : HostsAddArgs) (path : String) (fs : FileSystem) (hashed : Bool) : Prop :=
  FormKnown Hk args path fs ∧ (hashed = true ↔ args.hash = true ∨
    args.hash = false ∧ args.noHash = false ∧
      KnownHosts.detectHashMode Hk path fs = .ok .hashed)

theorem chooseHashed_form (args : HostsAddArgs) (path : String) (w : World Ag Va Te) :
    (∃ hashed, chooseHashed Hk args path w = (.ok hashed, w) ∧ Form Hk args path w.fs hashed) ∨
      ∃ e, chooseHashed Hk args path w = (.error e, w) ∧ ¬ FormKnown Hk args path w.fs := by
  unfold chooseHashed Form FormKnown
  cases args.hash with
  | true => exact Or.inl ⟨true, rfl, Or.inl rfl, by simp⟩
  | false =>
    cases args.noHash with
    | true => exact Or.inl ⟨false, rfl, Or.inr (Or.inl rfl), by simp⟩
    | false =>
      cases told : KnownHosts.detectHashMode Hk path w.fs with
      | ok form =>
        refine Or.inl ⟨decide (form = .hashed), ?_, Or.inr (Or.inr ⟨form, rfl⟩), by simp⟩
        simp [Fallible.bind_run, told]
      | error e =>
        refine Or.inr ⟨e, ?_, by simp⟩
        simp [Fallible.bind_run, told]

theorem append_run (args : HostsAddArgs) (mode : OutputMode) (path fingerprint : String)
    (hashed : Bool) (w : World Ag Va Te) :
    ∃ v, append Hk args mode path fingerprint hashed w =
        ((appendEntry Hk hashed path args.host fingerprint w.fs).1, v) ∧
      v.fs = (appendEntry Hk hashed path args.host fingerprint w.fs).2 := by
  have called := Program.onFiles_run w (appendEntry Hk hashed path args.host fingerprint)
  unfold append
  cases answer : (appendEntry Hk hashed path args.host fingerprint w.fs).1 with
  | error e =>
    rw [answer] at called
    exact ⟨_, Fallible.bind_of_error called, rfl⟩
  | ok done =>
    rw [answer] at called
    -- The report follows the entry.
    cases mode with
    | json => exact ⟨_, Fallible.bind_of_ok called, rfl⟩
    | human => exact ⟨_, Fallible.bind_of_ok called, rfl⟩

/-- How the part behind the probe can end, and with which files. -/
inductive AddEnds (args : HostsAddArgs) (mode : OutputMode) (path fingerprint : String)
    (w : World Ag Va Te) : Except AnvilError Nat → FileSystem → Prop where
  | formless (unknown : ¬ FormKnown Hk args path w.fs) (e : AnvilError) :
    AddEnds args mode path fingerprint w (.error e) w.fs
  | unread (known : FormKnown Hk args path w.fs) (e : AnvilError)
    (consent : Consent args mode w (.error e)) :
    AddEnds args mode path fingerprint w (.error e) w.fs
  | stopped (known : FormKnown Hk args path w.fs) (code : Nat)
    (consent : Consent args mode w (.ok (some code))) :
    AddEnds args mode path fingerprint w (.ok code) w.fs
  | refused (consent : Consent args mode w (.ok none)) (hashed : Bool)
    (form : Form Hk args path w.fs hashed) (e : AnvilError)
    (answer : (appendEntry Hk hashed path args.host fingerprint w.fs).1 = .error e) :
    AddEnds args mode path fingerprint w (.error e)
      (appendEntry Hk hashed path args.host fingerprint w.fs).2
  | appended (consent : Consent args mode w (.ok none)) (hashed : Bool)
    (form : Form Hk args path w.fs hashed)
    (answer : (appendEntry Hk hashed path args.host fingerprint w.fs).1 = .ok ()) :
    AddEnds args mode path fingerprint w (.ok 0)
      (appendEntry Hk hashed path args.host fingerprint w.fs).2

theorem addProbed_ends (args : HostsAddArgs) (mode : OutputMode) (path fingerprint : String)
    (w : World Ag Va Te) :
    ∃ r v, addProbed Hk args mode path fingerprint w = (r, v) ∧
      AddEnds Hk args mode path fingerprint w r v.fs := by
  unfold addProbed
  rcases chooseHashed_form Hk args path w with ⟨hashed, chosen, form⟩ | ⟨e, failed, unknown⟩
  · rw [Fallible.bind_of_ok chosen, Fallible.bind_of_ok (Program.eprintln_run w _)]
    obtain ⟨r, u, confirmed, files, consent⟩ := confirm_consent args mode path w
      (w.stderr ++ [s!"gitway hosts add: {args.host} — fingerprint {fingerprint}"])
    cases r with
    | error e =>
      refine ⟨.error e, u, Fallible.bind_of_error confirmed, ?_⟩
      rw [files]
      exact .unread form.1 e consent
    | ok refusal =>
      rw [Fallible.bind_of_ok confirmed]
      cases refusal with
      | some code =>
        refine ⟨.ok code, u, rfl, ?_⟩
        rw [files]
        exact .stopped form.1 code consent
      | none =>
        obtain ⟨v, ran, written⟩ := append_run Hk args mode path fingerprint hashed u
        rw [files] at ran written
        cases answer : (appendEntry Hk hashed path args.host fingerprint w.fs).1 with
        | error e =>
          rw [answer] at ran
          refine ⟨.error e, v, Fallible.bind_of_error ran, ?_⟩
          rw [written]
          exact .refused consent hashed form e answer
        | ok done =>
          rw [answer] at ran
          refine ⟨.ok 0, v, Fallible.bind_of_ok ran, ?_⟩
          rw [written]
          exact .appended consent hashed form answer
  · exact ⟨_, _, Fallible.bind_of_error failed, .formless unknown e⟩

/-! ### The whole command -/

variable (an : AnvilSession Ne Ag) (B : Type) [ConfigBuilder B]
  (tempdir : FileSystem → Except String Config.OsPath)

omit [KnownHosts Hk] in
theorem keeps_inTempdir_open (config : AnvilConfig) (dial : Dial Config.JumpHost) :
    Fallible.Keeps Process.world
      (inTempdir (an.open_ config dial) : Command Ne Ag Va Te Unit) := by
  intro p
  unfold inTempdir AnvilSession.open_
  rw [Fallible.bind_run, Command.onConnection_run]
  rcases an.connect config dial (p.world.fs, p.net) with ⟨e | u, probed, opened⟩
  · rfl
  · rfl

omit [KnownHosts Hk] in
theorem keeps_probe (host : String) :
    Fallible.Keeps Process.world (probe an B tempdir host : Command Ne Ag Va Te String) := by
  have closing : Fallible.Keeps Process.world (close an : Command Ne Ag Va Te Unit) :=
    fun _ => rfl
  unfold probe
  apply Fallible.Keeps.bind (Fallible.Keeps.query _)
  intro dir
  apply Fallible.Keeps.bind (keeps_inTempdir_open an _ _)
  intro _
  apply Fallible.Keeps.bind (Fallible.Keeps.query _)
  intro captured
  cases captured with
  | none => exact Fallible.Keeps.fail _
  | some fingerprint => exact Fallible.Keeps.bind closing fun _ => Fallible.Keeps.pure _

/-- The host is probed, or the command fails and has done nothing to the files. -/
theorem runAdd_ends (args : HostsAddArgs) (mode : OutputMode) (p : Process Ne Ag Va Te) :
    (∃ e q, runAdd Hk an B tempdir args mode p = (.error e, q) ∧ q.world = p.world ∧
      ¬ ((∃ path, resolvePath Hk p.world.env args.knownHosts = .ok path) ∧
        ∃ fingerprint, Shows an B tempdir args.host fingerprint p.world.fs p.net)) ∨
    ∃ path fingerprint r q, resolvePath Hk p.world.env args.knownHosts = .ok path ∧
      Shows an B tempdir args.host fingerprint p.world.fs p.net ∧
      runAdd Hk an B tempdir args mode p = (r, q) ∧ q.calls = p.calls ++ [.connected] ∧
      AddEnds Hk args mode path fingerprint p.world r q.world.fs := by
  unfold runAdd
  cases resolved : resolvePath Hk p.world.env args.knownHosts with
  | error e =>
    refine Or.inl ⟨e, p, Fallible.bind_of_error (Prod.ext resolved rfl), rfl, ?_⟩
    simp
  | ok path =>
    have found : (Fallible.query fun p : Process Ne Ag Va Te =>
        resolvePath Hk p.world.env args.knownHosts) p = (.ok path, p) := Prod.ext resolved rfl
    rw [Fallible.bind_of_ok found]
    cases probed : (probe an B tempdir args.host : Command Ne Ag Va Te String) p with
    | mk shown q =>
      cases shown with
      | error e =>
        refine Or.inl ⟨e, q, Fallible.bind_of_error probed,
          (keeps_probe an B tempdir args.host).eq probed, ?_⟩
        -- A host that shows its key would have been probed.
        rintro ⟨-, fingerprint, dir, left, opened, closed, made, connected, captured, ended⟩
        have ran := (probe_ok_iff an B tempdir (p := p)).mpr
          ⟨dir, left, opened, closed, made, connected, captured, ended, rfl⟩
        rw [probed] at ran
        simp at ran
      | ok fingerprint =>
        obtain ⟨dir, left, opened, closed, made, connected, captured, ended, rfl⟩ :=
          (probe_ok_iff an B tempdir).mp probed
        obtain ⟨r, v, ran, ends⟩ := addProbed_ends Hk args mode path fingerprint p.world
        refine Or.inr ⟨path, fingerprint, r,
          { p with net := closed, calls := p.calls ++ [.connected], world := v }, rfl,
          ⟨dir, left, opened, closed, made, connected, captured, ended⟩, ?_, rfl, ends⟩
        rw [Fallible.bind_of_ok probed, Command.onWorld_run, ran]

/-- Where there is nobody to ask, the command ends with its own code, whatever the network
does, and neither opens a connection nor touches a file. -/
def RefusesUnasked (args : HostsAddArgs) (mode : OutputMode) (p : Process Ne Ag Va Te) : Prop :=
  NobodyToAsk args mode p.world → ∀ net : Ne, ∃ q,
    runAdd Hk an B tempdir args mode { p with net := net } = (.ok EXIT_NEEDS_YES, q) ∧
      q.calls = p.calls ∧ q.world.fs = p.world.fs

/-- What consent is about otherwise: the entry, the answer and the absence of credentials. -/
structure AddsByConsent (args : HostsAddArgs) (mode : OutputMode) (p : Process Ne Ag Va Te) :
    Prop where
  appended : ∀ q, runAdd Hk an B tempdir args mode p = (.ok 0, q) →
    ∃ path fingerprint hashed, resolvePath Hk p.world.env args.knownHosts = .ok path ∧
      Shows an B tempdir args.host fingerprint p.world.fs p.net ∧
      Form Hk args path p.world.fs hashed ∧
      q.world.fs = (appendEntry Hk hashed path args.host fingerprint p.world.fs).2 ∧
      q.world.fs.read path ≠ p.world.fs.read path
  unchanged : ∀ r q path, runAdd Hk an B tempdir args mode p = (r, q) → r ≠ .ok 0 →
    resolvePath Hk p.world.env args.knownHosts = .ok path →
      q.world.fs.read path = p.world.fs.read path
  agreed : ∀ r q, args.yes = false → runAdd Hk an B tempdir args mode p = (r, q) →
    q.world.fs ≠ p.world.fs →
      ∃ response, Asked args mode p.world (.ok response) ∧ saysYes response = true
  declined : ∀ response, Asked args mode p.world (.ok response) → saysYes response = false →
    (∃ path, resolvePath Hk p.world.env args.knownHosts = .ok path ∧
      FormKnown Hk args path p.world.fs) →
    (∃ fingerprint, Shows an B tempdir args.host fingerprint p.world.fs p.net) →
      ∃ q, runAdd Hk an B tempdir args mode p = (.ok EXIT_USER_DECLINED, q) ∧
        q.world.fs = p.world.fs
  unauthenticated : ∀ best typed,
    runAdd Hk { an with authenticateBest := best, authenticateWithPassphrase := typed } B tempdir
      args mode p = runAdd Hk an B tempdir args mode p

theorem addsByConsent (appends : Appends Hk) (args : HostsAddArgs) (mode : OutputMode)
    (p : Process Ne Ag Va Te) : AddsByConsent Hk an B tempdir args mode p := by
  have ends := runAdd_ends Hk an B tempdir args mode p
  constructor
  · intro q ran
    rcases ends with ⟨e, q', failed, -⟩ | ⟨path, fingerprint, r, q', resolved, shows, run, -, ends⟩
    · simp [failed] at ran
    · rw [run, Prod.mk.injEq] at ran
      obtain ⟨rfl, rfl⟩ := ran
      generalize files : q'.world.fs = fs at ends
      cases ends with
      | stopped known code consent => cases consent
      | appended consent hashed form answer =>
        exact ⟨path, fingerprint, hashed, resolved, shows, form, rfl,
          appends.appended hashed path args.host fingerprint p.world.fs answer⟩
  · intro r q path ran nonzero resolved
    rcases ends with ⟨e, q', failed, same, -⟩ |
      ⟨path', fingerprint, r', q', resolved', shows, run, -, ends⟩
    · rw [failed, Prod.mk.injEq] at ran
      rw [← ran.2, same]
    · obtain rfl : path' = path := Except.ok.inj (resolved'.symm.trans resolved)
      rw [run, Prod.mk.injEq] at ran
      obtain ⟨rfl, rfl⟩ := ran
      generalize q'.world.fs = fs at ends
      cases ends with
      | formless unknown e => rfl
      | unread known e consent => rfl
      | stopped known code consent => rfl
      | refused consent hashed form e answer =>
        exact appends.not_appended hashed path' args.host fingerprint p.world.fs e answer
      | appended => exact absurd rfl nonzero
  · intro r q unconfirmed ran differs
    have agreed (consent : Consent args mode p.world (.ok none)) :
        ∃ response, Asked args mode p.world (.ok response) ∧ saysYes response = true := by
      cases consent with
      | given yes => exact absurd (unconfirmed.symm.trans yes) (by decide)
      | confirmed response asked yes => exact ⟨response, asked, yes⟩
    rcases ends with ⟨e, q', failed, same, -⟩ | ⟨path, fingerprint, r', q', -, -, run, -, ends⟩
    · rw [failed, Prod.mk.injEq] at ran
      exact absurd (by rw [← ran.2, same]) differs
    · rw [run, Prod.mk.injEq] at ran
      obtain ⟨rfl, rfl⟩ := ran
      generalize q'.world.fs = fs at ends differs
      cases ends with
      | formless unknown e => exact absurd rfl differs
      | unread known e consent => exact absurd rfl differs
      | stopped known code consent => exact absurd rfl differs
      | refused consent => exact agreed consent
      | appended consent => exact agreed consent
  · rintro response asked no ⟨path, resolved, known⟩ ⟨fingerprint, shows⟩
    rcases ends with ⟨e, q', -, -, unreached⟩ |
      ⟨path', fingerprint', r, q, resolved', -, run, -, ends⟩
    · exact absurd ⟨⟨path, resolved⟩, fingerprint, shows⟩ unreached
    · obtain rfl : path' = path := Except.ok.inj (resolved'.symm.trans resolved)
      -- The line that is read is this one, so only one end is left.
      have only {r : Except AnvilError (Option Nat)} (consent : Consent args mode p.world r) :
          r = .ok (some EXIT_USER_DECLINED) := by
        cases consent with
        | given yes => exact absurd (asked.unconfirmed.symm.trans yes) (by decide)
        | nobody alone =>
          rcases alone.2 with json | away
          · exact absurd (asked.human.symm.trans json) (by decide)
          · exact absurd (asked.terminal.symm.trans away) (by decide)
        | confirmed response' asked' yes =>
          obtain rfl : response = response' := by
            simpa using asked.line.symm.trans asked'.line
          exact absurd (no.symm.trans yes) (by decide)
        | declined => rfl
        | unread failure asked' e =>
          exact absurd (asked.line.symm.trans asked'.line) (by simp)
      refine ⟨q, ?_, ?_⟩
      · rw [run]
        generalize q.world.fs = fs at ends
        cases ends with
        | formless unknown => exact absurd known unknown
        | unread known e consent => exact absurd (only consent) (by simp)
        | stopped known code consent =>
          obtain rfl : code = EXIT_USER_DECLINED := by simpa using only consent
          rfl
        | refused consent => exact absurd (only consent) (by simp)
        | appended consent => exact absurd (only consent) (by simp)
      · generalize q.world.fs = fs at ends
        cases ends with
        | formless => rfl
        | unread => rfl
        | stopped => rfl
        | refused consent => exact absurd (only consent) (by simp)
        | appended consent => exact absurd (only consent) (by simp)
  · intro best typed
    rfl

/-- A command that ends with a code of its own has connected before. -/
theorem refusesUnasked_iff (args : HostsAddArgs) (mode : OutputMode) (p : Process Ne Ag Va Te) :
    RefusesUnasked Hk an B tempdir args mode p ↔ ¬ NobodyToAsk args mode p.world := by
  constructor
  · intro refuses alone
    obtain ⟨q, ran, calls, -⟩ := refuses alone p.net
    rcases runAdd_ends Hk an B tempdir args mode p with
      ⟨e, q', failed, -⟩ | ⟨path, fingerprint, r, q', -, -, run, connected, -⟩
    · exact absurd (failed.symm.trans ran) (by simp)
    · obtain ⟨-, rfl⟩ := Prod.mk.inj (run.symm.trans ran)
      rw [connected] at calls
      simp at calls
  · exact fun someone alone => absurd alone someone

/-- All that is demanded of the command holds exactly where `--yes` is given or there is a
person to ask. -/
theorem consent_iff (appends : Appends Hk) (args : HostsAddArgs) (mode : OutputMode)
    (p : Process Ne Ag Va Te) :
    RefusesUnasked Hk an B tempdir args mode p ∧ AddsByConsent Hk an B tempdir args mode p ↔
      args.yes = true ∨ mode = .human ∧ p.world.env.stdinIsTerminal = true := by
  have someone : ¬ NobodyToAsk args mode p.world ↔
      args.yes = true ∨ mode = .human ∧ p.world.env.stdinIsTerminal = true := by
    unfold NobodyToAsk
    cases args.yes <;> cases mode <;> simp
  rw [refusesUnasked_iff, and_iff_left (addsByConsent Hk an B tempdir appends args mode p), someone]

end

/-! ### On a reference machine -/

open Reference

theorem refHostKeys_appends : Appends RefHostKeys := by
  have grown (fs : FileSystem) (path line : String) (some_line : line ≠ "") :
      (fs.write path (fileText fs path ++ line).toUTF8).read path ≠ fs.read path := by
    intro same
    have after : fs.readToString path = .ok (fileText fs path ++ line) := by
      unfold FileSystem.readToString
      rw [← same]
      simp only [FileSystem.write, if_true, bind, Except.bind]
      exact decodeUtf8_toUTF8 _
    -- The file would have to be longer than itself.
    have text : fileText fs path = fileText fs path ++ line := by
      conv_lhs => rw [fileText, after]
    have empty : line.toList = [] := by
      simpa [String.toList_append] using congrArg String.toList text
    exact some_line (String.toList_inj.mp empty)
  have line (host fingerprint : String) : s!"{host} {fingerprint}\n" ≠ "" := by
    intro empty
    simp only [String.append_eq_empty_iff] at empty
    exact absurd empty.2 (by decide)
  have hashed_line (fingerprint : String) : s!"|1| {fingerprint}\n" ≠ "" := by
    intro empty
    simp only [String.append_eq_empty_iff] at empty
    exact absurd empty.2 (by decide)
  constructor
  · intro hashed path host fingerprint fs _
    cases hashed with
    | true => exact grown fs path _ (hashed_line fingerprint)
    | false => exact grown fs path _ (line host fingerprint)
  · intro hashed path host fingerprint fs e failed
    cases hashed with
    | true => simp [appendEntry, KnownHosts.appendKnownHostHashed] at failed
    | false => simp [appendEntry, KnownHosts.appendKnownHost] at failed

private def addArgs : HostsAddArgs := ⟨"github.com", none, false, false, false⟩

/-- A person at a terminal, about to type this. -/
private def atShell (typed : String) : RefProcess :=
  { started with
    world := { started.world with
      env := { started.world.env with stdinIsTerminal := true }
      stdin := .ok typed.toUTF8 } }

theorem consent_at_shell :
    Appends RefHostKeys ∧
    (RefusesUnasked RefHostKeys machine.session Transport.AnvilConfig machine.tempdir addArgs
        .human (atShell "y\n") ∧
      AddsByConsent RefHostKeys machine.session Transport.AnvilConfig machine.tempdir addArgs
        .human (atShell "y\n") ↔
      addArgs.yes = true ∨ OutputMode.human = .human ∧
        (atShell "y\n").world.env.stdinIsTerminal = true) :=
  ⟨refHostKeys_appends, consent_iff RefHostKeys machine.session Transport.AnvilConfig
    machine.tempdir refHostKeys_appends addArgs .human (atShell "y\n")⟩

private def cutOff : AnvilError := .other "CONNECT" "could not resolve host"

/-- The machine without its network. -/
private def unplugged : AnvilSession Unit RefAgent :=
  { machine.session with connect := fun _ _ s => (.error cutOff, s) }

/-- `gitway --json hosts add github.com`: the host is connected to before the command
refuses, and without a network it does not end with the code of a refusal. -/
theorem add_connects_first :
    Appends RefHostKeys ∧ NobodyToAsk addArgs .json started.world ∧
    (∃ q, runAdd RefHostKeys machine.session Transport.AnvilConfig machine.tempdir addArgs .json
      started = (.ok EXIT_NEEDS_YES, q) ∧ q.calls = [.connected]) ∧
    (runAdd RefHostKeys unplugged Transport.AnvilConfig machine.tempdir addArgs .json
      started).1 = .error cutOff ∧
    ¬ RefusesUnasked RefHostKeys machine.session Transport.AnvilConfig machine.tempdir addArgs
      .json started := by
  have alone : NobodyToAsk addArgs .json started.world := ⟨rfl, Or.inl rfl⟩
  refine ⟨refHostKeys_appends, alone, ⟨_, rfl, rfl⟩, rfl, ?_⟩
  rw [refusesUnasked_iff]
  exact fun someone => someone alone

end Gitway.Hosts
