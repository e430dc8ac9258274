import Gitway.Agent.InStep
import Gitway.Envelopes
import Gitway.Lib.Logged

/-!
# What `gitway agent add` says of the paths

The loop sorts the paths into those that were added and those whose key the agent had
listed before. A person is told both lists. The envelope holds the first one only, so who
reads the envelope does not hear of the paths that were passed over.
-/
namespace Gitway.Agent

open Lib Biometric

/-! ### Reading a report -/

/-- The paths that a report names, by what it says of them. -/
structure Account where
  added : List String
  alreadyLoaded : List String
  deriving DecidableEq

def addedLine : String := "gitway: identity added: "

def alreadyLoadedLine : String := "gitway: identity already loaded: "

/-- The account in the lines on standard error. -/
def Account.ofMessages (messages : List String) : Account where
  added := messages.filterMap fun m => Text.stripStart m addedLine
  alreadyLoaded := messages.filterMap fun m => Text.stripStart m alreadyLoadedLine

/-- The strings that stand in a field: one, or those of a list. -/
def texts : Json → List String
  | .str s => [s]
  | .arr items => items.filterMap fun
    | .str s => some s
    | _ => none
  | _ => []

/-- The account in an envelope: the paths in `added`, and those under any other name. -/
def Account.ofEnvelope (v : Json) : Account :=
  match v.get "data" with
  | some (.obj fields) =>
    ⟨(fields.filter fun f => f.1 == "added").flatMap fun f => texts f.2,
      (fields.filter fun f => f.1 != "added").flatMap fun f => texts f.2⟩
  | _ => ⟨[], []⟩

/-- The account in the one envelope on standard output. -/
def Account.ofOutput : List Emitted → Account
  | [.json v] => .ofEnvelope v
  | _ => ⟨[], []⟩

theorem ofOutput_fields (metadata added lifetime confirm : Json) :
    Account.ofOutput [.json (.obj [("metadata", metadata), ("data", .obj [("added", added),
      ("lifetime_seconds", lifetime), ("confirm", confirm)])])] =
        ⟨texts added ++ [], texts lifetime ++ (texts confirm ++ [])⟩ := rfl

/-- The paths are all there, each as often as it was asked for, under what was done with it. -/
structure Account.Complete (a : Account) (skip : String → Bool) (paths : List String) : Prop where
  everyPath : ∀ path, (a.added ++ a.alreadyLoaded).count path = paths.count path
  added : ∀ path ∈ a.added, skip path = false
  alreadyLoaded : ∀ path ∈ a.alreadyLoaded, skip path = true

theorem complete_sorted (skip : String → Bool) (paths : List String) :
    Account.Complete ⟨(sorted skip paths).1, (sorted skip paths).2⟩ skip paths where
  everyPath path :=
    (List.perm_append_comm.trans (List.filter_append_perm skip paths)).count_eq path
  added path member := by simpa using (List.mem_filter.1 member).2
  alreadyLoaded path member := (List.mem_filter.1 member).2

theorem sorted_none_skipped {skip : String → Bool} {paths : List String}
    (none_skipped : ∀ path ∈ paths, skip path = false) : (sorted skip paths).2 = [] :=
  List.filter_eq_nil_iff.2 fun path requested => by simp [none_skipped path requested]

/-- A list of the added paths only is complete exactly where nothing was passed over. -/
theorem complete_added_iff (skip : String → Bool) (paths : List String) :
    Account.Complete ⟨(sorted skip paths).1, []⟩ skip paths ↔
      ∀ path ∈ paths, skip path = false := by
  constructor
  · intro complete path requested
    have counted : 0 < (sorted skip paths).1.count path := by
      have same := complete.everyPath path
      rw [List.append_nil] at same
      rw [same]
      exact List.count_pos_iff.2 requested
    exact complete.added path (List.count_pos_iff.1 counted)
  · intro none_skipped
    rw [← sorted_none_skipped none_skipped]
    exact complete_sorted skip paths

/-- A line that reports on no path. -/
def Beside (line : String) : Prop :=
  Text.stripStart line addedLine = none ∧ Text.stripStart line alreadyLoadedLine = none

theorem beside_of_char {line : String} (differs : line.toList[8]? ≠ some 'i') : Beside line := by
  constructor <;>
  · rw [Option.eq_none_iff_forall_ne_some]
    intro rest found
    rw [Text.stripStart_eq_some_iff] at found
    subst found
    exact differs (by simp [addedLine, alreadyLoadedLine, String.toList_append])

theorem added_read (path : String) :
    Text.stripStart s!"gitway: identity added: {path}" addedLine = some path ∧
      Text.stripStart s!"gitway: identity added: {path}" alreadyLoadedLine = none := by
  refine ⟨Text.stripStart_append addedLine path, ?_⟩
  rw [Option.eq_none_iff_forall_ne_some]
  intro rest found
  rw [Text.stripStart_eq_some_iff] at found
  have letter := congrArg (fun line => line.toList[18]?) found
  simp [alreadyLoadedLine, toString, String.toList_append] at letter

theorem alreadyLoaded_read (path : String) :
    Text.stripStart s!"gitway: identity already loaded: {path}" addedLine = none ∧
      Text.stripStart s!"gitway: identity already loaded: {path}" alreadyLoadedLine =
        some path := by
  refine ⟨?_, Text.stripStart_append alreadyLoadedLine path⟩
  rw [Option.eq_none_iff_forall_ne_some]
  intro rest found
  rw [Text.stripStart_eq_some_iff] at found
  have letter := congrArg (fun line => line.toList[18]?) found
  simp [addedLine, toString, String.toList_append] at letter

theorem ofMessages_report (said added alreadyLoaded : List String)
    (beside : ∀ line ∈ said, Beside line) :
    Account.ofMessages (said ++ (added.map fun path => s!"gitway: identity added: {path}") ++
      alreadyLoaded.map fun path => s!"gitway: identity already loaded: {path}") =
        ⟨added, alreadyLoaded⟩ := by
  have silent (start : String) (none_read : ∀ line ∈ said, Text.stripStart line start = none) :
      said.filterMap (fun m => Text.stripStart m start) = [] :=
    List.filterMap_eq_nil_iff.2 none_read
  unfold Account.ofMessages
  simp only [List.filterMap_append, List.filterMap_map, Function.comp_def, (added_read _).1,
    (added_read _).2, (alreadyLoaded_read _).1, (alreadyLoaded_read _).2,
    silent addedLine fun line member => (beside line member).1,
    silent alreadyLoadedLine fun line member => (beside line member).2]
  simp

/-! ### What is said before the report -/

variable {Priv Pub Ag Va Te α β : Type} [PublicKey Pub] [PrivateKey Priv Pub]

/-- What the program writes to standard error reports on no path. -/
abbrev SpeaksBeside (x : Program Ag Va Te α) : Prop :=
  Fallible.Logs World.stderr (fun _ said => ∀ line ∈ said, Beside line) x

theorem speaksBeside_of_keeps {x : Program Ag Va Te α} (keeps : Fallible.Keeps World.stderr x) :
    SpeaksBeside x := fun w => ⟨[], by rw [keeps w, List.append_nil], by simp⟩

theorem speaksBeside_eprintln {line : String} (beside : Beside line) :
    SpeaksBeside (Program.eprintln line : Program Ag Va Te Unit) :=
  fun _ => ⟨[line], rfl, by simpa using beside⟩

theorem speaksBeside_bind {x : Program Ag Va Te α} {f : α → Program Ag Va Te β}
    (first : SpeaksBeside x) (rest : ∀ a, SpeaksBeside (f a)) : SpeaksBeside (x >>= f) := by
  apply first.bind (fun _ _ beside => beside)
  intro a piece beside
  apply (rest a).mono
  intro _ later beside_later line member
  exact (List.mem_append.1 member).elim (beside line) (beside_later line)

theorem speaksBeside_query (f : World Ag Va Te → Except AnvilError α) :
    SpeaksBeside (Fallible.query f) :=
  speaksBeside_of_keeps (Fallible.Keeps.query f)

theorem speaksBeside_pure (a : α) : SpeaksBeside (pure a : Program Ag Va Te α) :=
  speaksBeside_of_keeps (Fallible.Keeps.pure a)

section
variable [BiometricVault Va]

theorem keeps_stderr_autoUnlockPassphrase (key : Priv) :
    Fallible.Keeps World.stderr (autoUnlockPassphrase key : Program Ag Va Te AutoUnlock) := by
  intro w
  obtain ⟨outcome, vault, ran, _⟩ := autoUnlockPassphrase_spec key w
  rw [ran]

variable [Terminal Te]

theorem speaksBeside_loadPrivateKey (path : String) (key : Priv) (unlock : UnlockMode) :
    SpeaksBeside (loadPrivateKey path key unlock : Program Ag Va Te Priv) := by
  have prompts : SpeaksBeside (Prompt.promptPassphraseInteractive path : Program Ag Va Te String) :=
    speaksBeside_of_keeps
      (Prompt.keeps_promptPassphraseInteractive ⟨fun _ _ => rfl, fun _ _ => rfl⟩ path)
  unfold loadPrivateKey loadKey
  split
  · exact speaksBeside_pure _
  dsimp only
  cases unlock with
  | disabled => exact speaksBeside_bind prompts fun _ => speaksBeside_query _
  | enroll =>
    apply speaksBeside_bind prompts
    intro pass
    apply speaksBeside_bind (speaksBeside_query _)
    intro decrypted
    apply speaksBeside_bind (speaksBeside_of_keeps fun _ => rfl)
    intro stored
    cases stored with
    | ok =>
      apply speaksBeside_bind (speaksBeside_eprintln (beside_of_char ?_))
      · exact fun _ => speaksBeside_pure _
      · simp [toString, String.toList_append]
    | error e =>
      apply speaksBeside_bind (speaksBeside_eprintln (beside_of_char ?_))
      · exact fun _ => speaksBeside_pure _
      · simp [toString, String.toList_append]
  | auto =>
    apply speaksBeside_bind (speaksBeside_of_keeps (keeps_stderr_autoUnlockPassphrase key))
    intro outcome
    cases outcome with
    | passphrase pass => exact speaksBeside_query _
    | stale =>
      apply speaksBeside_bind (speaksBeside_eprintln (beside_of_char ?_))
      · exact fun _ => speaksBeside_bind prompts fun _ => speaksBeside_query _
      · simp [toString, String.toList_append]
    | fallback => exact speaksBeside_bind prompts fun _ => speaksBeside_query _

/-! ### The loop -/

variable [Agent Ag Priv Pub] {loaded : List (Identity Pub)} {args : AgentAddArgs}

theorem keeps_agentRound (report : List String × List String) (path : String) :
    Fallible.Keeps (fun v : World Ag Va Te => (v.fs, v.stdout))
      (agentRound loaded args report path) := by
  unfold agentRound addOne
  apply Fallible.Keeps.bind (Fallible.Keeps.query _)
  intro pem
  cases (PrivateKey.fromOpenssh pem : Except String Priv) with
  | error e => exact Fallible.Keeps.fail _
  | ok key =>
    dsimp only
    split
    · exact Fallible.Keeps.pure _
    · apply Fallible.Keeps.bind
      · exact loadKey_keeps ⟨⟨fun _ _ => rfl, fun _ _ => rfl⟩, fun _ _ => rfl, fun _ _ => rfl⟩ _
          (Prompt.keeps_promptPassphraseInteractive ⟨fun _ _ => rfl, fun _ _ => rfl⟩) _ path key
          args.unlock
      · exact fun _ => Fallible.Keeps.bind (fun _ => rfl) fun _ => Fallible.Keeps.pure _

theorem speaksBeside_agentRound (report : List String × List String) (path : String) :
    SpeaksBeside (agentRound loaded args report path : Program Ag Va Te _) := by
  unfold agentRound addOne
  apply speaksBeside_bind (speaksBeside_query _)
  intro pem
  cases (PrivateKey.fromOpenssh pem : Except String Priv) with
  | error e => exact speaksBeside_of_keeps (Fallible.Keeps.fail _)
  | ok key =>
    dsimp only
    split
    · exact speaksBeside_pure _
    · apply speaksBeside_bind (speaksBeside_loadPrivateKey path key args.unlock)
      intro plain
      exact speaksBeside_bind (speaksBeside_of_keeps fun _ => rfl) fun _ => speaksBeside_pure _

/-- A round that went well has put the path on one of the two lists. -/
theorem agentRound_sorts {done : List String} {report : List String × List String}
    {path : String} {v v' : World Ag Va Te}
    (round : agentRound loaded args (sorted (skips Priv loaded args.unlock v.fs) done) path v =
      (.ok report, v')) :
    report = sorted (skips Priv loaded args.unlock v.fs) (done ++ [path]) := by
  unfold agentRound addOne at round
  obtain ⟨pem, v₁, read, rest⟩ := Fallible.bind_ok_iff.mp round
  obtain ⟨rfl, file⟩ := Program.readToString_ok read
  cases parsed : (PrivateKey.fromOpenssh pem : Except String Priv) with
  | error e => simp [parsed] at rest
  | ok key =>
    have there := keyAt_of_parsed file parsed
    simp only [parsed] at rest
    split at rest
    next passed =>
      have skipped : skips Priv loaded args.unlock v.fs path = true := by
        simpa [skips, there] using passed
      simp only [Fallible.pure_run, Prod.mk.injEq, Except.ok.injEq] at rest
      rw [← rest.1]
      simp [sorted, skipped]
    next kept =>
      have added : skips Priv loaded args.unlock v.fs path = false := by
        simpa [skips, there] using kept
      obtain ⟨plain, v₂, _, rest⟩ := Fallible.bind_ok_iff.mp rest
      obtain ⟨⟨⟩, v₃, _, last⟩ := Fallible.bind_ok_iff.mp rest
      simp only [Fallible.pure_run, Prod.mk.injEq, Except.ok.injEq] at last
      rw [← last.1]
      simp [sorted, added]

/-- The loop returns both lists, and what it has said reports on no path. -/
structure SortedOut (Priv : Type) {Pub : Type} [PublicKey Pub] [PrivateKey Priv Pub]
    (loaded : List (Identity Pub)) (unlock : UnlockMode) (w : World Ag Va Te)
    (done : List String) (report : List String × List String) (v : World Ag Va Te) : Prop where
  sorts : report = sorted (skips Priv loaded unlock w.fs) done
  files : v.fs = w.fs
  stdout : v.stdout = w.stdout
  stderr : ∃ said, v.stderr = w.stderr ++ said ∧ ∀ line ∈ said, Beside line

theorem agentRounds_sort {paths : List String} {report : List String × List String}
    {w v : World Ag Va Te}
    (looped : paths.foldlM (agentRound loaded args) ([], []) w = (.ok report, v)) :
    SortedOut Priv loaded args.unlock w paths report v := by
  have start : SortedOut Priv loaded args.unlock w [] ([], []) w :=
    ⟨rfl, rfl, rfl, [], by simp⟩
  refine Fallible.foldlM_ok_invariant (agentRound loaded args)
    (SortedOut Priv loaded args.unlock w) ?step paths start looped
  rintro done path report v report' v' ⟨rfl, files, stdout, said, stderr, beside⟩ round
  have same := (keeps_agentRound _ path).eq round
  rw [Prod.mk.injEq] at same
  obtain ⟨later, grown, beside_later⟩ := speaksBeside_agentRound _ path v
  rw [round] at grown
  rw [← files] at round
  refine ⟨?_, same.1.trans files, same.2.trans stdout, said ++ later, ?_, ?_⟩
  · rw [agentRound_sorts round, files]
  · rw [grown, stderr, List.append_assoc]
  · intro line member
    exact (List.mem_append.1 member).elim (beside line) (beside_later line)

/-! ### The two reports -/

/-- What the output that came up between two worlds says of the paths. -/
def accountOf (mode : OutputMode) (w w' : World Ag Va Te) : Account :=
  match mode with
  | .human => .ofMessages (w'.stderr.drop w.stderr.length)
  | .json => .ofOutput (w'.stdout.drop w.stdout.length)

/-- What `run_add` reports when it is run here. -/
def reported (args : AgentAddArgs) (mode : OutputMode) (w : World Ag Va Te) : Account :=
  accountOf mode w (runAdd args mode w).2

/-- Each of the two reports is complete, and they say the same. -/
structure AccountedFor (args : AgentAddArgs) (w : World Ag Va Te) (paths : List String) :
    Prop where
  complete : ∀ mode, (reported args mode w).Complete
    (skips Priv (loadedIdentities w.agent) args.unlock w.fs) paths
  same : reported args .json w = reported args .human w

/-- A run that returned has chosen its paths, and has worked through them before the report.
In the other mode it would have done the same. -/
theorem runAdd_ok {mode : OutputMode} {code : Nat} {w : World Ag Va Te}
    (returned : (runAdd args mode w).1 = .ok code) :
    ∃ paths report v, args.paths w = (.ok paths, w) ∧
      SortedOut Priv (loadedIdentities w.agent) args.unlock w paths report v ∧
        ∀ m, (runAdd args m w).2 = (reportAdded args m report.1 report.2 v).2 := by
  obtain ⟨paths, report, v, chosen, connected, looped, _⟩ :=
    runAdd_returned (Fallible.run_eq returned)
  refine ⟨paths, report, v, chosen, agentRounds_sort looped, fun m => ?_⟩
  obtain ⟨stdout, stderr, printed⟩ := reportAdded_run args m report.1 report.2 v
  have rounds : paths.foldlM (agentRound (loadedIdentities w.agent) args) ([], []) w =
    (.ok report, v) := looped
  rw [runAdd_rounds m chosen connected, Fallible.bind_of_ok rounds,
    Fallible.bind_of_ok printed, printed]
  rfl

omit [BiometricVault Va] [Terminal Te] in
theorem reported_human {paths : List String} {report : List String × List String}
    {w v : World Ag Va Te}
    (sorted : SortedOut Priv (loadedIdentities w.agent) args.unlock w paths report v) :
    accountOf .human w (reportAdded args .human report.1 report.2 v).2 =
      ⟨report.1, report.2⟩ := by
  obtain ⟨said, stderr, beside⟩ := sorted.stderr
  have first := Program.forM_eprintln_run (fun path => s!"gitway: identity added: {path}")
    report.1 v
  have printed : (reportAdded args .human report.1 report.2 v).2.stderr.drop w.stderr.length =
      said ++ (report.1.map fun path => s!"gitway: identity added: {path}") ++
        report.2.map fun path => s!"gitway: identity already loaded: {path}" := by
    unfold reportAdded
    dsimp only
    rw [Fallible.bind_of_ok first, Program.forM_eprintln_run]
    simp only [stderr, List.append_assoc, List.drop_left]
  unfold accountOf
  dsimp only
  rw [printed]
  exact ofMessages_report said report.1 report.2 beside

omit [BiometricVault Va] [Terminal Te] in
theorem reported_json {paths : List String} {report : List String × List String}
    {w v : World Ag Va Te}
    (sorted : SortedOut Priv (loadedIdentities w.agent) args.unlock w paths report v) :
    accountOf .json w (reportAdded args .json report.1 report.2 v).2 = ⟨report.1, []⟩ := by
  have printed : (reportAdded args .json report.1 report.2 v).2.stdout = v.stdout ++ [.json
      (.obj [("metadata", metadataBlock v.env "gitway agent add"), ("data", .obj [
        ("added", .arr (report.1.map .str)),
        ("lifetime_seconds", .ofOption (fun n : Nat => .num n) args.lifetime),
        ("confirm", .bool args.confirm)])])] := rfl
  unfold accountOf
  dsimp only
  rw [printed, sorted.stdout, List.drop_left]
  -- Beside the list there is a number or none, and a truth value.
  have list : texts (.arr (report.1.map .str)) = report.1 := by
    simp [texts, List.filterMap_map]
  have lifetime : texts (.ofOption (fun n : Nat => .num n) args.lifetime) = [] := by
    cases args.lifetime <;> rfl
  have confirm : texts (.bool args.confirm) = [] := rfl
  rw [ofOutput_fields, list, lifetime, confirm]
  simp

/-- A person is told of all paths. The envelope tells of those that were added. -/
theorem reported_eq {mode : OutputMode} {code : Nat} {w : World Ag Va Te}
    (returned : (runAdd args mode w).1 = .ok code) :
    ∃ paths skip, args.paths w = (.ok paths, w) ∧
      skip = skips Priv (loadedIdentities w.agent) args.unlock w.fs ∧
        reported args .human w = ⟨(sorted skip paths).1, (sorted skip paths).2⟩ ∧
          reported args .json w = ⟨(sorted skip paths).1, []⟩ := by
  obtain ⟨paths, report, v, chosen, sorted_out, reports⟩ := runAdd_ok returned
  refine ⟨paths, _, chosen, rfl, ?_, ?_⟩
  · rw [reported, reports, reported_human sorted_out, sorted_out.sorts]
  · rw [reported, reports, reported_json sorted_out, sorted_out.sorts]

/-- Both reports of a run that returned account for the paths exactly where no path was
passed over. -/
theorem add_accounted_iff {mode : OutputMode} {code : Nat} {w : World Ag Va Te}
    (returned : (runAdd args mode w).1 = .ok code) :
    ∃ paths, args.paths w = (.ok paths, w) ∧ (AccountedFor args w paths ↔
      ∀ path ∈ paths, skips Priv (loadedIdentities w.agent) args.unlock w.fs path = false) := by
  obtain ⟨paths, skip, chosen, rfl, human, json⟩ := reported_eq returned
  refine ⟨paths, chosen, ?_⟩
  rw [← complete_added_iff]
  constructor
  · intro accounted
    rw [← json]
    exact accounted.complete .json
  · intro complete
    -- Where the added paths are all of them, the other list is empty.
    rw [sorted_none_skipped ((complete_added_iff _ _).1 complete)] at human
    refine ⟨fun m => ?_, json.trans human.symm⟩
    cases m with
    | json => exact json ▸ complete
    | human => exact human ▸ complete

/-- What a person is told is complete, whatever was passed over. -/
theorem human_report_complete {mode : OutputMode} {code : Nat} {w : World Ag Va Te}
    (returned : (runAdd args mode w).1 = .ok code) :
    ∃ paths, args.paths w = (.ok paths, w) ∧ (reported args .human w).Complete
      (skips Priv (loadedIdentities w.agent) args.unlock w.fs) paths := by
  obtain ⟨paths, skip, chosen, rfl, human, _⟩ := reported_eq returned
  exact ⟨paths, chosen, human ▸ complete_sorted _ paths⟩

end

/-! ### On the reference agent -/

open Reference

private def bothFiles : List (String × String) :=
  [("id", "openssh-key-v1 AAAA none"), ("other", "openssh-key-v1 BBBB none")]

/-- Two unencrypted key files, and an agent with these keys. -/
private def keyFiles (entries : List (RefPublic × Constraints)) : RefWorld :=
  world [("SSH_AUTH_SOCK", "/run/agent.sock")] bothFiles ⟨false, entries⟩ ⟨[]⟩ ⟨[]⟩

private def addBoth : AgentAddArgs := ⟨["id", "other"], none, false, false, false⟩

/-- The agent holds the first of the keys. -/
private def firstHeld : RefWorld := keyFiles [(⟨"AAAA"⟩, ⟨none, false⟩)]

private theorem bothFiles_read :
    (textFiles bothFiles).readToString "id" = .ok "openssh-key-v1 AAAA none" ∧
      (textFiles bothFiles).readToString "other" = .ok "openssh-key-v1 BBBB none" :=
  ⟨readToString_textFiles _ _ _ rfl, readToString_textFiles _ _ _ rfl⟩

private theorem bothFiles_parsed :
    (PrivateKey.fromOpenssh "openssh-key-v1 AAAA none" : Except String RefPrivate) =
        .ok ⟨⟨"AAAA"⟩, none⟩ ∧
      (PrivateKey.fromOpenssh "openssh-key-v1 BBBB none" : Except String RefPrivate) =
        .ok ⟨⟨"BBBB"⟩, none⟩ := by decide

private theorem keyFiles_runAdd (entries : List (RefPublic × Constraints))
    (few : entries = [] ∨ entries = [(⟨"AAAA"⟩, ⟨none, false⟩)]) :
    (runAdd addBoth .json (keyFiles entries)).1 = .ok 0 := by
  rcases few with rfl | rfl <;>
  simp [runAdd, Fallible.bind_run, addOne, bothFiles_read, bothFiles_parsed, isLoaded,
    loadedIdentities, Agent.list, loadPrivateKey, loadKey, PrivateKey.isEncrypted, Agent.add,
    keyFiles, world, addBoth, AgentAddArgs.paths, AgentAddArgs.unlock, UnlockMode.fromFlags,
    Agent.fromEnv, environment, reportAdded, sha256, PublicKey.keygenFingerprint,
    PrivateKey.publicKey, RefAgent.put]

theorem add_accounted_new_keys :
    ∃ paths, addBoth.paths (keyFiles []) = (.ok paths, keyFiles []) ∧
      (AccountedFor addBoth (keyFiles []) paths ↔ ∀ path ∈ paths,
        skips RefPrivate (loadedIdentities (keyFiles []).agent) addBoth.unlock (keyFiles []).fs
          path = false) :=
  add_accounted_iff (keyFiles_runAdd [] (Or.inl rfl))

/-- The key that the agent holds is passed over, and the envelope does not name its file. -/
theorem add_json_omits_loaded :
    (runAdd addBoth .json firstHeld).1 = .ok 0 ∧
      reported addBoth .human firstHeld = ⟨["other"], ["id"]⟩ ∧
      reported addBoth .json firstHeld = ⟨["other"], []⟩ ∧
      ¬ AccountedFor addBoth firstHeld ["id", "other"] := by
  have returned : (runAdd addBoth .json firstHeld).1 = .ok 0 := keyFiles_runAdd _ (Or.inr rfl)
  obtain ⟨paths, skip, chosen, which, human, json⟩ := reported_eq returned
  obtain rfl : ["id", "other"] = paths := by simpa [AgentAddArgs.paths, addBoth] using chosen
  have skipped : skip "id" = true ∧ skip "other" = false := by
    simp [which, skips, keyAt, firstHeld, keyFiles, world, bothFiles_read, bothFiles_parsed,
      Except.toOption, addBoth, AgentAddArgs.unlock, UnlockMode.fromFlags, isLoaded,
      loadedIdentities, Agent.list, sha256, PublicKey.keygenFingerprint, PrivateKey.publicKey]
  simp only [sorted, List.filter_cons, List.filter_nil, skipped.1, skipped.2] at human json
  refine ⟨returned, human, json, fun accounted => ?_⟩
  have same := accounted.same
  rw [human, json] at same
  simp at same

end Gitway.Agent
