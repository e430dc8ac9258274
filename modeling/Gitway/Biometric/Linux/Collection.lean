import Gitway.Biometric.Linux
import Gitway.Biometric.Cmd
import Gitway.Lib.Tagged

/-!
# The keyring as a map

The Secret Service is taken here as a collection of items found by their attributes.
Over it the Linux backend is a map from fingerprints to passphrases, beside the items of
other applications.
-/
namespace Gitway.Biometric.Linux

open Lib

/-! ### The collection -/

abbrev Item : Type := Tagged String String ByteArray

structure Collection where
  items : List Item

instance : SecretService Collection Item where
  runtime c := (.ok (), c)
  keyringNew c := (.ok (), c)
  unlock c := (.ok (), c)
  createItem _ attributes secret replace c :=
    (.ok (), ⟨Tagged.create attributes secret replace c.items⟩)
  searchItems query c := (.ok (Tagged.search query c.items), c)
  delete query c := (.ok (), ⟨Tagged.delete query c.items⟩)
  itemAttributes item c := (.ok item.attributes, c)
  itemSecret item c := (.ok item.secret, c)
  inTime _ := true

/-- How a fingerprint is encoded in the attributes of its item. -/
def coding : Coding String String String where
  mark := [APP_ATTR, TYPE_ATTR]
  encode fingerprint := attributes (keyIdFromFingerprint fingerprint)
  marked fingerprint := by simp [attributes]
  discriminates f g contained := by
    have key : ("key-id", keyIdFromFingerprint f) ∈ attributes (keyIdFromFingerprint g) :=
      contained (by simp [attributes])
    have same : keyIdFromFingerprint f = keyIdFromFingerprint g := by
      simpa [attributes, APP_ATTR, TYPE_ATTR] using key
    exact keyIdFromFingerprint_injective same

/-- The collection holds these passphrases, and otherwise the items of others. -/
structure Holds (initial items : List Item) (enrolled : String → Option String) : Prop where
  entries : Tagged.Represents coding items fun f => (enrolled f).map String.toUTF8
  others : Tagged.foreign coding items = initial

variable {De : Type}

abbrev Vault (De : Type) : Type := LinuxVault Collection De Item

/-! ### The operations on the collection -/

section
variable {α : Type}

/-- Opening this keyring leaves no more than a trace. -/
private theorem ready (f : Routine Collection De Item α) (v : Vault De) : ∃ trace,
    runBlocking (openKeyring >>= fun _ => f) v = f { v with trace := trace } :=
  ⟨_, rfl⟩

private theorem searched (query : Attributes) (v : Vault De) : ∃ trace,
    (searchItems query : Routine Collection De Item (List Item)) v =
      (.ok (Tagged.search query v.keyring.items), { v with trace := trace }) :=
  ⟨_, rfl⟩

end

theorem store_run (keyId passphrase : String) (v : Vault De) : ∃ trace,
    store keyId passphrase v = (.ok (), { v with
      keyring := ⟨Tagged.create (attributes keyId) passphrase.toUTF8 true v.keyring.items⟩
      trace := trace }) :=
  ⟨_, rfl⟩

theorem delete_run (keyId : String) (v : Vault De) : ∃ trace,
    delete keyId v =
      if (Tagged.search (attributes keyId) v.keyring.items).isEmpty then
        (.error .notEnrolled, { v with trace := trace })
      else (.ok (), { v with
        keyring := ⟨Tagged.delete (attributes keyId) v.keyring.items⟩, trace := trace }) := by
  unfold delete
  obtain ⟨t₁, opened⟩ := ready (do
    let items ← searchItems (attributes keyId)
    if items.isEmpty then
      Fallible.fail .notEnrolled
    else
      let deleted ← onKeyring (.delete (attributes keyId)) (SecretService.delete (attributes keyId))
      orElse (fun e => .backend s!"keyring delete: {e}") deleted) v
  obtain ⟨t₂, found⟩ := searched (attributes keyId) { v with trace := t₁ }
  -- An empty search is `NotEnrolled`, before the keyring is asked to delete.
  rw [opened, Fallible.bind_of_ok found]
  split
  · exact ⟨t₂, rfl⟩
  · exact ⟨_, rfl⟩

private theorem listOne_run (items : List Item) (enrolled : List EnrolledKey) (v : Vault De) :
    ∃ trace, items.foldlM listOne enrolled v =
      (.ok (enrolled ++ items.map fun item => enrolledKey item.attributes),
        { v with trace := trace }) := by
  induction items generalizing enrolled v with
  | nil => exact ⟨v.trace, by simp⟩
  | cons item items ih =>
    have read : listOne enrolled item v = (.ok (enrolled ++ [enrolledKey item.attributes]),
        { v with trace := v.trace ++ [.itemAttributes item (.ok item.attributes)] }) := rfl
    obtain ⟨trace, rest⟩ := ih (enrolled ++ [enrolledKey item.attributes])
      { v with trace := v.trace ++ [.itemAttributes item (.ok item.attributes)] }
    refine ⟨trace, ?_⟩
    rw [List.foldlM_cons, Fallible.bind_of_ok read, rest]
    simp

theorem list_run (v : Vault De) : ∃ trace, list v =
    (.ok ((Tagged.search coding.mark v.keyring.items).map fun item => enrolledKey item.attributes),
      { v with trace := trace }) := by
  unfold list
  obtain ⟨t₁, opened⟩ := ready (do
    let items ← searchItems [APP_ATTR, TYPE_ATTR]
    items.foldlM listOne []) v
  obtain ⟨t₂, found⟩ := searched [APP_ATTR, TYPE_ATTR] { v with trace := t₁ }
  obtain ⟨t₃, read⟩ := listOne_run (Tagged.search coding.mark v.keyring.items) []
    { v with trace := t₂ }
  rw [opened, Fallible.bind_of_ok found]
  exact ⟨t₃, read⟩

/-! ### What the operations make of the map -/

section
variable {initial : List Item} {enrolled : String → Option String} {v : Vault De}

private theorem toUTF8_update (enrolled : String → Option String) (fingerprint : String)
    (secret : Option String) :
    Function.update (fun f => (enrolled f).map String.toUTF8) fingerprint
        (secret.map String.toUTF8) =
      fun f => (Function.update enrolled fingerprint secret f).map String.toUTF8 := by
  funext f
  by_cases same : f = fingerprint
  · subst same
    simp
  · simp [Function.update_of_ne same]

theorem Holds.store (holds : Holds initial v.keyring.items enrolled) (fingerprint pass : String) :
    Holds initial (Linux.store (keyIdFromFingerprint fingerprint) pass v).2.keyring.items
      (Function.update enrolled fingerprint (some pass)) := by
  obtain ⟨trace, ran⟩ := store_run (keyIdFromFingerprint fingerprint) pass v
  rw [ran]
  constructor
  · have created := holds.entries.create fingerprint pass.toUTF8
    have same := toUTF8_update enrolled fingerprint (some pass)
    rw [Option.map_some] at same
    exact same ▸ created
  · exact (Tagged.foreign_create coding fingerprint _ true _).trans holds.others

/-- Deleting succeeds exactly for a key that is enrolled, and it is not enrolled any more. -/
theorem Holds.delete (holds : Holds initial v.keyring.items enrolled) (fingerprint : String) :
    Holds initial (Linux.delete (keyIdFromFingerprint fingerprint) v).2.keyring.items
        (Function.update enrolled fingerprint none) ∧
      (Linux.delete (keyIdFromFingerprint fingerprint) v).1 =
        if enrolled fingerprint = none then .error .notEnrolled else .ok () := by
  have entry := holds.entries.entry fingerprint
  have deleted := holds.entries.delete fingerprint
  have same := toUTF8_update enrolled fingerprint none
  rw [Option.map_none] at same
  rw [same] at deleted
  obtain ⟨trace, ran⟩ := delete_run (keyIdFromFingerprint fingerprint) v
  -- The search finds the entry, or nothing.
  have found : Tagged.search (attributes (keyIdFromFingerprint fingerprint)) v.keyring.items =
      ((enrolled fingerprint).map String.toUTF8).toList.map fun s =>
        ⟨attributes (keyIdFromFingerprint fingerprint), s⟩ := entry
  rw [ran, found]
  cases present : enrolled fingerprint with
  | none =>
    refine ⟨?_, rfl⟩
    -- Nothing was enrolled, and nothing is taken out.
    have unchanged : Function.update enrolled fingerprint none = enrolled := by
      rw [← present, Function.update_eq_self]
    rw [unchanged]
    exact holds
  | some pass =>
    exact ⟨⟨deleted, (Tagged.foreign_delete coding fingerprint _).trans holds.others⟩, rfl⟩

private theorem enrolledKey_coding (fingerprint : String) :
    enrolledKey (coding.encode fingerprint) = ⟨fingerprint, none⟩ := by
  simp [enrolledKey, coding, attributes, List.lookup_cons, APP_ATTR, TYPE_ATTR]

/-- The list names each enrolled key once. -/
theorem Holds.list (holds : Holds initial v.keyring.items enrolled) :
    ∃ keys trace, Linux.list v = (.ok keys, { v with trace := trace }) ∧
      (keys.map EnrolledKey.fingerprint).Nodup ∧
      ∀ f, f ∈ keys.map EnrolledKey.fingerprint ↔ enrolled f ≠ none := by
  obtain ⟨trace, ran⟩ := list_run v
  have keys := holds.entries.keys (fun item => (enrolledKey item.attributes).fingerprint)
    fun f s => by rw [enrolledKey_coding]
  refine ⟨_, trace, ran, ?_, ?_⟩
  · rw [List.map_map]
    exact keys.1
  · intro f
    rw [List.map_map]
    have listed := keys.2 f
    simp only [ne_eq, Option.map_eq_none_iff] at listed
    exact listed

private theorem release_run (attributes : Attributes) (pass : String) (v : Vault De) :
    ∃ trace, release (⟨attributes, pass.toUTF8⟩ : Item) v =
      (.ok pass, { v with trace := trace }) := by
  have read : onKeyring (.itemSecret ⟨attributes, pass.toUTF8⟩)
      (SecretService.itemSecret (⟨attributes, pass.toUTF8⟩ : Item)) v = (.ok (.ok pass.toUTF8),
        { v with trace := v.trace ++ [.itemSecret ⟨attributes, pass.toUTF8⟩ (.ok pass.toUTF8)] }) :=
    rfl
  refine ⟨v.trace ++ [.itemSecret ⟨attributes, pass.toUTF8⟩ (.ok pass.toUTF8)], ?_⟩
  unfold release
  rw [Fallible.bind_of_ok read]
  simp only [orElse, mapError_ok, Fallible.bind_run, Fallible.query_run, fromUTF8?_toUTF8,
    Fallible.pure_run]

/-- The passphrase comes out when the fingerprint matches, and nothing changes. -/
theorem Holds.retrieve [Fprint De] (holds : Holds initial v.keyring.items enrolled)
    (fingerprint : String) :
    (Linux.retrieve (keyIdFromFingerprint fingerprint) v).1 =
        (match enrolled fingerprint with
        | none => .error .notEnrolled
        | some pass => (verifyFingerprint v).1.map fun _ => pass) ∧
      (Linux.retrieve (keyIdFromFingerprint fingerprint) v).2.keyring = v.keyring := by
  have found : Tagged.search (attributes (keyIdFromFingerprint fingerprint)) v.keyring.items =
      ((enrolled fingerprint).map String.toUTF8).toList.map fun s =>
        ⟨attributes (keyIdFromFingerprint fingerprint), s⟩ := holds.entries.entry fingerprint
  obtain ⟨t₁, opened⟩ := ready (do
    let items ← searchItems (attributes (keyIdFromFingerprint fingerprint))
    releaseFirst items) v
  obtain ⟨t₂, searched⟩ := searched (attributes (keyIdFromFingerprint fingerprint))
    { v with trace := t₁ }
  unfold Linux.retrieve
  rw [opened, Fallible.bind_of_ok searched, found]
  cases enrolled fingerprint with
  | none => exact ⟨rfl, rfl⟩
  | some pass =>
    -- The only item found is the entry of the key.
    simp only [Option.map_some, Option.toList_some, List.map_cons, List.map_nil, releaseFirst]
    -- The check does not see the keyring, so it ends as it would have at the start.
    have rekeyed : Rekeyed v.keyring v { v with trace := t₂ } := ⟨rfl, rfl, rfl⟩
    obtain ⟨same, keyring, _⟩ := alike_verifyFingerprint v { v with trace := t₂ } rekeyed
    cases verified : verifyFingerprint { v with trace := t₂ } with
    | mk answer u =>
      rw [verified] at same keyring
      rw [same]
      cases answer with
      | error e =>
        rw [Fallible.bind_of_error verified]
        exact ⟨rfl, keyring⟩
      | ok =>
        rw [Fallible.bind_of_ok verified]
        obtain ⟨t₃, released⟩ :=
          release_run (attributes (keyIdFromFingerprint fingerprint)) pass u
        rw [released]
        exact ⟨rfl, keyring⟩

end

/-! ### Runs -/

inductive VaultOp where
  | store (fingerprint pass : String)
  | delete (fingerprint : String)
  deriving DecidableEq, Repr

/-- What an operation makes of the map. -/
def VaultOp.record (enrolled : String → Option String) : VaultOp → String → Option String
  | .store fingerprint pass => Function.update enrolled fingerprint (some pass)
  | .delete fingerprint => Function.update enrolled fingerprint none

variable [Fprint De]

def VaultOp.run (v : Vault De) : VaultOp → Vault De
  | .store fingerprint pass => (BiometricVault.store (keyIdFromFingerprint fingerprint) pass v).2
  | .delete fingerprint => (BiometricVault.delete (keyIdFromFingerprint fingerprint) v).2

section
variable {initial : List Item} {enrolled : String → Option String} {v : Vault De}

/-- Run lemma: the operations keep the collection in step with the map. -/
theorem Holds.run (holds : Holds initial v.keyring.items enrolled) (ops : List VaultOp) :
    Holds initial (ops.foldl VaultOp.run v).keyring.items (ops.foldl VaultOp.record enrolled) := by
  induction ops generalizing v enrolled with
  | nil => exact holds
  -- One operation keeps the two in step, whether it succeeds or not.
  | cons op ops ih =>
    rw [List.foldl_cons, List.foldl_cons]
    cases op with
    | store fingerprint pass => exact ih (holds.store fingerprint pass)
    | delete fingerprint => exact ih (holds.delete fingerprint).1

/-- A collection that holds no passphrase is as it was before the first one. -/
theorem Holds.emptied {items : List Item} (holds : Holds initial items fun _ => none) :
    items = initial := by
  have unmarked : Tagged.foreign coding items = items := by
    apply List.filter_eq_self.mpr
    intro item member
    simp only [decide_eq_true_eq]
    intro marked
    obtain ⟨f, _, entry⟩ := holds.entries.of_marked member marked
    simp at entry
  exact unmarked.symm.trans holds.others

/-! ### `forget --all` -/

variable {Priv Pub Ag Te : Type} [PublicKey Pub] [PrivateKey Priv Pub]

/-- Loop lemma: forgetting enrolled keys one after the other succeeds for each of them. -/
private theorem collect_forget (keys : List EnrolledKey) (results : List Outcome) (exit : Nat)
    (w : World Ag (Vault De) Te) (holds : Holds initial w.vault.keyring.items enrolled)
    (once : (keys.map EnrolledKey.fingerprint).Nodup)
    (all : ∀ f ∈ keys.map EnrolledKey.fingerprint, enrolled f ≠ none) :
    ∃ results' w', keys.foldlM (collectOne forgetEnrolled) (results, exit) w =
        (.ok (results', exit), w') ∧
      Holds initial w'.vault.keyring.items
        fun f => if f ∈ keys.map EnrolledKey.fingerprint then none else enrolled f := by
  induction keys generalizing results enrolled w with
  | nil => exact ⟨results, w, rfl, by simpa using holds⟩
  | cons key keys ih =>
    rw [List.map_cons, List.nodup_cons] at once
    obtain ⟨deleted, answer⟩ := holds.delete key.fingerprint
    rw [if_neg (all key.fingerprint (by simp))] at answer
    have forgotten : forgetEnrolled key w = (.ok (.succeeded key.fingerprint key.fingerprint),
        { w with vault := (Linux.delete (keyIdFromFingerprint key.fingerprint) w.vault).2 }) := by
      have asked :
          Program.onVault (BiometricVault.delete (keyIdFromFingerprint key.fingerprint)) w =
            (.ok (.ok ()), { w with
              vault := (Linux.delete (keyIdFromFingerprint key.fingerprint) w.vault).2 }) := by
        rw [← answer]
        rfl
      unfold forgetEnrolled forgetOne
      rw [Fallible.bind_of_ok asked]
      rfl
    -- The other keys are still enrolled, since each is listed once.
    have others : ∀ f ∈ keys.map EnrolledKey.fingerprint,
        Function.update enrolled key.fingerprint none f ≠ none := by
      intro f member
      have differs : f ≠ key.fingerprint := fun same => once.1 (same ▸ member)
      rw [Function.update_of_ne differs]
      exact all f (by simp [List.mem_map.mp member])
    obtain ⟨results', w', rest, after⟩ := ih
      (results ++ [.succeeded key.fingerprint key.fingerprint])
      { w with vault := (Linux.delete (keyIdFromFingerprint key.fingerprint) w.vault).2 }
      deleted once.2 others
    refine ⟨results', w', ?_, ?_⟩
    · have first : collectOne forgetEnrolled (results, exit) key w =
          (.ok (results ++ [.succeeded key.fingerprint key.fingerprint], exit),
            { w with vault :=
                (Linux.delete (keyIdFromFingerprint key.fingerprint) w.vault).2 }) := by
        unfold collectOne
        rw [Fallible.bind_of_ok forgotten]
        rfl
      rw [List.foldlM_cons, Fallible.bind_of_ok first]
      exact rest
    · have same : (fun f => if f ∈ (key :: keys).map EnrolledKey.fingerprint then none
          else enrolled f) = fun f => if f ∈ keys.map EnrolledKey.fingerprint then none
            else Function.update enrolled key.fingerprint none f := by
        funext f
        by_cases first : f = key.fingerprint
        · subst first
          simp
        · simp [first]
      rw [same]
      exact after

/-- `forget --all` exits with 0 and leaves the collection as it was before anything was
enrolled. -/
theorem Holds.forgetAll {w : World Ag (Vault De) Te}
    (holds : Holds initial w.vault.keyring.items enrolled) (files : List String)
    (mode : OutputMode) :
    (runForget Priv ⟨true, files⟩ mode w).1 = .ok 0 ∧
      (runForget Priv ⟨true, files⟩ mode w).2.vault.keyring.items = initial := by
  obtain ⟨keys, trace, listed, once, exactly⟩ := holds.list
  have asked : Program.onVault BiometricBackend.list w =
      (.ok (.ok keys), { w with vault := { w.vault with trace := trace } }) := by
    rw [Program.onVault_run]
    show (Except.ok (Linux.list w.vault).1, { w with vault := (Linux.list w.vault).2 }) = _
    rw [listed]
  obtain ⟨results, w₁, collected, after⟩ := collect_forget keys [] EXIT_OK
    { w with vault := { w.vault with trace := trace } } holds once fun f member =>
      (exactly f).mp member
  have each : collect forgetEnrolled keys { w with vault := { w.vault with trace := trace } } =
      (.ok (results, EXIT_OK), w₁) := collected
  obtain ⟨stdout, stderr, reported⟩ :=
    emitResults_run mode "gitway biometric forget" results "forgot" w₁
  have ran : runForget Priv ⟨true, files⟩ mode w =
      (.ok 0, { w₁ with stdout := stdout, stderr := stderr }) := by
    unfold runForget
    simp only [if_true]
    rw [Fallible.bind_of_ok asked]
    dsimp only
    rw [Fallible.bind_of_ok each]
    dsimp only
    rw [Fallible.bind_of_ok reported]
    rfl
  rw [ran]
  -- Every enrolled key was listed, so none is left.
  have none_left : (fun f => if f ∈ keys.map EnrolledKey.fingerprint then none else enrolled f) =
      fun _ => none := by
    funext f
    by_cases member : f ∈ keys.map EnrolledKey.fingerprint
    · rw [if_pos member]
    · rw [if_neg member]
      exact not_not.mp fun present => member ((exactly f).mpr present)
  rw [none_left] at after
  exact ⟨rfl, after.emptied⟩

variable (Priv Ag Te) in
/-- Beside the items of others the backend behaves as the map that the operations made:
`list` names each enrolled key once, `retrieve` gives the last passphrase when the
fingerprint matches, `forget --all` takes them all, and the others' items stay. -/
theorem vault_refines_map (v₀ : Vault De)
    (only_others : ∀ item ∈ v₀.keyring.items,
      APP_ATTR ∉ item.attributes ∨ TYPE_ATTR ∉ item.attributes) (ops : List VaultOp) :
    let v := ops.foldl VaultOp.run v₀
    let enrolled := ops.foldl VaultOp.record fun _ => none
    (∃ keys, (BiometricBackend.list v).1 = .ok keys ∧ (keys.map EnrolledKey.fingerprint).Nodup ∧
        ∀ f, f ∈ keys.map EnrolledKey.fingerprint ↔ enrolled f ≠ none) ∧
      (∀ f, (BiometricVault.retrieve (keyIdFromFingerprint f) v).1 =
        match enrolled f with
        | none => .error .notEnrolled
        | some pass => (verifyFingerprint v).1.map fun _ => pass) ∧
      (∀ (w : World Ag (Vault De) Te) files mode, w.vault = v →
        (runForget Priv ⟨true, files⟩ mode w).1 = .ok 0 ∧
          (runForget Priv ⟨true, files⟩ mode w).2.vault.keyring.items = v₀.keyring.items) ∧
      v.keyring.items.filter (fun item => ¬ Tagged.Found [APP_ATTR, TYPE_ATTR] item) =
        v₀.keyring.items := by
  intro v enrolled
  -- An item that lacks one of the two attributes is not found by both.
  have unmarked : ∀ item ∈ v₀.keyring.items, ¬ Tagged.Found coding.mark item := by
    intro item member marked
    rcases only_others item member with no_app | no_type
    · exact no_app (marked (by simp [coding]))
    · exact no_type (marked (by simp [coding]))
  have start : Holds v₀.keyring.items v₀.keyring.items fun _ => none := by
    constructor
    · exact Tagged.represents_foreign unmarked
    · apply List.filter_eq_self.mpr
      intro item member
      simpa using unmarked item member
  have holds : Holds v₀.keyring.items v.keyring.items enrolled := start.run ops
  refine ⟨?_, ?_, ?_, holds.others⟩
  · obtain ⟨keys, trace, listed, once, exactly⟩ := holds.list
    exact ⟨keys, congrArg Prod.fst listed, once, exactly⟩
  · intro f
    exact (holds.retrieve f).1
  · intro w files mode same
    exact Holds.forgetAll (same ▸ holds) files mode

end

/-! ### On a reference device -/

/-- A device with one enrolled finger and these signals to come. -/
structure RefDevice where
  stream : SignalStream

instance : Fprint RefDevice where
  systemBus d := (.ok (), d)
  managerNew d := (.ok (), d)
  getDefaultDevice d := (.ok "/net/reactivated/Fprint/Device/0", d)
  devicePath _ d := (.ok (), d)
  deviceBuild d := (.ok (), d)
  listEnrolledFingers _ d := (.ok ["right-index-finger"], d)
  claim _ d := (.ok (), d)
  release d := (.ok (), d)
  receiveVerifyStatus d := (.ok (), d)
  verifyStart _ d := (.ok (), d)
  verifyStop d := (.ok (), d)
  verifyStatus d := (d.stream, d)
  inTime _ := true

private def browserItem : Item :=
  ⟨[("application", "browser"), ("type", "ssh-passphrase")], ByteArray.empty⟩

private def besideBrowser : Vault RefDevice where
  keyring := ⟨[browserItem]⟩
  device := ⟨[.ok ⟨"verify-match", true⟩], true⟩
  stderrIsTerminal := false
  trace := []

private def enrolledTwice : List VaultOp :=
  [.store "SHA256:AAAA" "old", .store "SHA256:AAAA" "new"]

/-- A key that was enrolled twice comes out under its last passphrase when the fingerprint
matches, and the browser's item is still there. -/
theorem vault_refines_map_enrolled_twice :
    (BiometricVault.retrieve (keyIdFromFingerprint "SHA256:AAAA")
        (enrolledTwice.foldl VaultOp.run besideBrowser)).1 =
      (verifyFingerprint (enrolledTwice.foldl VaultOp.run besideBrowser)).1.map (fun _ => "new") ∧
    (enrolledTwice.foldl VaultOp.run besideBrowser).keyring.items.filter
      (fun item => ¬ Tagged.Found [APP_ATTR, TYPE_ATTR] item) = [browserItem] := by
  have others : ∀ item ∈ besideBrowser.keyring.items,
      APP_ATTR ∉ item.attributes ∨ TYPE_ATTR ∉ item.attributes := by
    simp [besideBrowser, browserItem, APP_ATTR, TYPE_ATTR]
  have entry : enrolledTwice.foldl VaultOp.record (fun _ => none) "SHA256:AAAA" = some "new" := by
    simp [enrolledTwice, VaultOp.record]
  obtain ⟨_, retrieved, _, untouched⟩ := vault_refines_map Reference.RefPrivate Unit Unit
    besideBrowser others enrolledTwice
  have given := retrieved "SHA256:AAAA"
  rw [entry] at given
  exact ⟨given, untouched⟩

end Gitway.Biometric.Linux
