import Gitway.Biometric.Stores
import Gitway.Biometric.Unchanged

/-!
# The Secret Service behind the cells

The cells are the items of the application, found by their attributes beside the items of
others. An item is replaced in one call, so a write that fails loses nothing.
-/
namespace Gitway.Biometric.Linux

open Lib Lib.Fallible

variable {Ke De It α : Type}

theorem onKeyring_run (call : Except String α → Call It) (op : Ke → Except String α × Ke)
    (v : LinuxVault Ke De It) :
    onKeyring call op v = (.ok (op v.keyring).1,
      { v with keyring := (op v.keyring).2, trace := v.trace ++ [call (op v.keyring).1] }) := rfl

/-! ### `NotEnrolled` is said of a key that is not found, and of nothing else -/

theorem raises_onKeyring (call : Except String α → Call It) (op : Ke → Except String α × Ke) :
    Raises (· ≠ .notEnrolled) (onKeyring call op : Routine Ke De It (Except String α)) := by
  intro v e v' failed
  simp [onKeyring] at failed

theorem raises_onDevice (call : Except String α → Call It) (op : De → Except String α × De) :
    Raises (· ≠ .notEnrolled) (onDevice call op : Routine Ke De It (Except String α)) := by
  intro v e v' failed
  simp [onDevice] at failed

theorem raises_orElse {failed : String → BiometricError} (other : ∀ e, failed e ≠ .notEnrolled)
    (answer : Except String α) :
    Raises (· ≠ .notEnrolled) (orElse failed answer : Routine Ke De It α) := by
  refine Raises.query fun v e refused => ?_
  obtain ⟨reason, _, rfl⟩ := of_mapError_error refused
  exact other reason

/-- A call to the device whose failure ends the routine. -/
theorem raises_checked {β : Type} {call : Except String α → Call It}
    {op : De → Except String α × De} {failed : String → BiometricError}
    {rest : α → Routine Ke De It β} (other : ∀ e, failed e ≠ .notEnrolled)
    (goes_on : ∀ a, Raises (· ≠ .notEnrolled) (rest a)) :
    Raises (· ≠ .notEnrolled) (onDevice call op >>= fun answer => orElse failed answer >>= rest) :=
  Raises.bind (raises_onDevice call op) fun answer =>
    Raises.bind (raises_orElse other answer) goes_on

theorem raises_hint (message : String) :
    Raises (· ≠ .notEnrolled) (hint message : Routine Ke De It Unit) := by
  intro v e v' failed
  simp [hint] at failed

theorem raises_consume (ends : Bool) (signals : List (Except String VerifyStatus)) :
    Raises (· ≠ .notEnrolled) (consume ends signals : Routine Ke De It (Option Bool)) := by
  induction signals with
  | nil => exact Raises.pure _
  | cons signal later ih =>
    refine Raises.bind (raises_orElse (by simp) signal) fun args => ?_
    split
    · exact Raises.pure _
    · refine Raises.bind ?_ fun _ => ih
      unfold hintRetry
      split
      · exact raises_hint _
      · exact Raises.pure _

theorem raises_scan [Fprint De] :
    Raises (· ≠ .notEnrolled) (scan : Routine Ke De It Bool) := by
  refine raises_checked (by simp) fun _ => raises_checked (by simp) fun _ => ?_
  refine Raises.bind (raises_hint _) fun _ => ?_
  refine Raises.bind ?_ fun stream => ?_
  · intro v e v' failed
    simp [verifyStatus] at failed
  · refine Raises.bind (raises_consume _ _) fun matched => ?_
    dsimp only
    split
    · exact Raises.pure _
    · exact Raises.pure _

theorem raises_verifyFingerprint [Fprint De] :
    Raises (· ≠ .notEnrolled) (verifyFingerprint : Routine Ke De It Unit) := by
  refine raises_checked (by simp) fun _ => raises_checked (by simp) fun _ => ?_
  refine raises_checked (by simp) fun devicePath => raises_checked (by simp) fun _ => ?_
  refine raises_checked (by simp) fun _ => Raises.bind (raises_onDevice _ _) fun fingers => ?_
  split
  · exact Raises.fail (by simp)
  · refine raises_checked (by simp) fun _ => raises_scan.attempt_bind fun verdict other => ?_
    refine Raises.bind (raises_onDevice _ _) fun _ => Raises.bind (raises_onDevice _ _) fun _ => ?_
    split
    -- A match, no match, or the error of the scan, handed on.
    · exact Raises.pure _
    · exact Raises.fail (by simp)
    · exact Raises.fail (other _ rfl)

theorem keeps_verifyFingerprint [Fprint De] :
    Keeps LinuxVault.keyring (verifyFingerprint : Routine Ke De It Unit) := fun v =>
  (alike_verifyFingerprint v v ⟨rfl, rfl, rfl⟩).2.1

variable [SecretService Ke It]

theorem raises_openKeyring : Raises (· ≠ .notEnrolled) (openKeyring : Routine Ke De It Unit) := by
  refine Raises.bind (raises_onKeyring _ _) fun keyring => ?_
  refine Raises.bind (raises_orElse (by simp) keyring) fun _ => ?_
  exact Raises.bind (raises_onKeyring _ _) fun _ => Raises.pure _

/-! ### The items as cells -/

/-- What the code relies on of the Secret Service here: items are found, created and deleted
by their attributes, and nothing else changes them. A call may fail at any time, as it does on
a collection that is locked. `stored` is the item behind a handle. -/
structure Services (items : Ke → List Item) (stored : List Item → It → Item) : Prop where
  runtime : Keeps items (SecretService.runtime : Ke → _)
  keyringNew : Keeps items (SecretService.keyringNew : Ke → _)
  unlock : Keeps items (SecretService.unlock : Ke → _)
  searchItems : ∀ query, Keeps items (SecretService.searchItems query : Ke → _)
  itemAttributes : ∀ item, Keeps items (SecretService.itemAttributes item : Ke → _)
  itemSecret : ∀ item, Keeps items (SecretService.itemSecret item : Ke → _)
  found : ∀ query (k : Ke) found, (SecretService.searchItems query k).1 = .ok found →
    found.map (stored (items k)) = Tagged.search query (items k)
  secret : ∀ item (k : Ke) bytes, (SecretService.itemSecret item k).1 = .ok bytes →
    (stored (items k) item).secret = bytes
  created : ∀ label attributes bytes (k : Ke),
    (SecretService.createItem label attributes bytes true k).1 = .ok () →
      items (SecretService.createItem label attributes bytes true k).2 =
        Tagged.create attributes bytes true (items k)
  not_created : ∀ label attributes bytes (k : Ke) e,
    (SecretService.createItem label attributes bytes true k).1 = .error e →
      items (SecretService.createItem label attributes bytes true k).2 = items k
  deleted : ∀ query (k : Ke), (SecretService.delete query k).1 = .ok () →
    items (SecretService.delete query k).2 = Tagged.delete query (items k)
  not_deleted : ∀ query (k : Ke) e, (SecretService.delete query k).1 = .error e →
    items (SecretService.delete query k).2 = items k

/-- The items of the application are the cells, beside the items of others. -/
def Mirrors (items : Ke → List Item) (v : LinuxVault Ke De It) (m : Cells) : Prop :=
  Tagged.Represents coding (items v.keyring) (encoded m)

variable {items : Ke → List Item} {stored : List Item → It → Item}

omit [SecretService Ke It] in
theorem preserves_onKeyring {op : Ke → Except String α × Ke} (kept : Keeps items op)
    (call : Except String α → Call It) (m : Cells) :
    Preserves (Mirrors items · m) (onKeyring call op : Routine Ke De It (Except String α)) :=
  (keeps_onKeyring kept call).preserves fun seen => Tagged.Represents coding seen.1 (encoded m)

omit [SecretService Ke It] in
theorem preserves_orElse (failed : String → BiometricError) (answer : Except String α)
    (m : Cells) :
    Preserves (Mirrors items · m) (orElse failed answer : Routine Ke De It α) :=
  Preserves.query _

theorem represents_created {its : List Item} {m : Cells}
    (represents : Tagged.Represents coding its (encoded m)) (fingerprint pass : String) :
    Tagged.Represents coding
      (Tagged.create (attributes (keyIdFromFingerprint fingerprint)) pass.toUTF8 true its)
      (encoded (Function.update m fingerprint (some pass))) := by
  rw [encoded_update]
  exact represents.create fingerprint pass.toUTF8

theorem represents_deleted {its : List Item} {m : Cells}
    (represents : Tagged.Represents coding its (encoded m)) (fingerprint : String) :
    Tagged.Represents coding
      (Tagged.delete (attributes (keyIdFromFingerprint fingerprint)) its)
      (encoded (Function.update m fingerprint none)) := by
  rw [encoded_update]
  exact represents.delete fingerprint

omit [SecretService Ke It] in
/-- A search for a key finds the item of its cell, or nothing. -/
theorem Mirrors.found {v : LinuxVault Ke De It} {m : Cells} {handles : List It}
    (mirrors : Mirrors items v m) (fingerprint : String)
    (found : handles.map (stored (items v.keyring)) =
      Tagged.search (attributes (keyIdFromFingerprint fingerprint)) (items v.keyring)) :
    handles = [] ∧ m fingerprint = none ∨
      ∃ item pass, handles = [item] ∧ m fingerprint = some pass ∧
        (stored (items v.keyring) item).secret = pass.toUTF8 := by
  have entry : Tagged.search (attributes (keyIdFromFingerprint fingerprint)) (items v.keyring) =
      (encoded m fingerprint).toList.map fun s =>
        ⟨attributes (keyIdFromFingerprint fingerprint), s⟩ := mirrors.entry fingerprint
  rw [← found] at entry
  -- What the search lists is the content of the cell, so there is one handle at most.
  cases present : m fingerprint with
  | none =>
    simp only [encoded, Function.comp_apply, present, Option.map_none, Option.toList_none,
      List.map_nil, List.map_eq_nil_iff] at entry
    exact Or.inl ⟨entry, rfl⟩
  | some pass =>
    simp only [encoded, Function.comp_apply, present, Option.map_some, Option.toList_some,
      List.map_cons, List.map_nil, List.map_eq_singleton_iff] at entry
    obtain ⟨item, rfl, shape⟩ := entry
    exact Or.inr ⟨item, pass, rfl, rfl, by rw [shape]⟩

/-- Every call begins by opening the keyring, which leaves the items as they are. -/
theorem Services.opened (laws : Services items stored) {m : Cells} {f : Routine Ke De It α}
    {S : Except BiometricError α → LinuxVault Ke De It → Prop}
    (fails : ∀ e v, e ≠ .notEnrolled → Mirrors items v m → S (.error e) v)
    (body : Hoare (Mirrors items · m) f S) :
    Hoare (Mirrors items · m) (runBlocking (openKeyring >>= fun _ => f)) S := by
  refine Hoare.raising (preserves_onKeyring laws.runtime _ m) (raises_onKeyring _ _) fails
    fun runtime => ?_
  refine Hoare.raising (preserves_orElse _ runtime m) (raises_orElse (by simp) runtime) fails
    fun _ => ?_
  refine Hoare.raising ?_ raises_openKeyring fails fun _ => body
  refine Preserves.bind (preserves_onKeyring laws.keyringNew _ m) fun keyring => ?_
  refine Preserves.bind (preserves_orElse _ keyring m) fun _ => ?_
  exact Preserves.bind (preserves_onKeyring laws.unlock _ m) fun _ => Preserves.pure _

/-- What a search finds are the items with the attributes. -/
theorem Services.searched (laws : Services items stored) (m : Cells) (query : Attributes) :
    Hoare (Mirrors items · m) (Linux.searchItems query : Routine Ke De It (List It)) fun r v =>
      Mirrors items v m ∧ r ≠ .error .notEnrolled ∧ ∀ found, r = .ok found →
        found.map (stored (items v.keyring)) = Tagged.search query (items v.keyring) := by
  unfold Linux.searchItems
  refine Hoare.bind (Q := fun r v => Mirrors items v m ∧ r.isOk ∧ ∀ found, r = .ok (.ok found) →
    found.map (stored (items v.keyring)) = Tagged.search query (items v.keyring))
    (fun v before => ?_) (fun e v failed => absurd failed.2.1 Bool.false_ne_true) fun answer => ?_
  · refine ⟨preserves_onKeyring (laws.searchItems query) _ m v before, rfl, fun found answer => ?_⟩
    have same := laws.searchItems query v.keyring
    have answered := laws.found query v.keyring found (Except.ok.inj answer)
    rw [← same] at answered
    exact answered
  · refine Hoare.query fun v found => ⟨found.1, fun refused => ?_, fun its answered => ?_⟩
    · obtain ⟨reason, _, same⟩ := of_mapError_error refused
      simp at same
    · exact found.2.2 its (congrArg Except.ok (mapError_eq_ok_iff.mp answered))

theorem Services.backs_store (laws : Services items stored) (m : Cells)
    (fingerprint pass : String) :
    Hoare (Mirrors items · m)
      (Linux.store (keyIdFromFingerprint fingerprint) pass : Routine Ke De It Unit)
      (Stored False True (Mirrors items) m fingerprint pass) := by
  refine laws.opened (fun e v _ kept => .error (Or.inl kept)) ?_
  intro v (before : Mirrors items v m)
  rw [bind_of_ok (onKeyring_run _ _ v)]
  generalize s!"Gitway SSH passphrase ({fingerprintOf (keyIdFromFingerprint fingerprint)})" = label
  cases creation : (SecretService.createItem label (attributes (keyIdFromFingerprint fingerprint))
      pass.toUTF8 true v.keyring).1 with
  | error e =>
    -- The item is replaced in one call, and a call that fails leaves it.
    rw [Mirrors, ← laws.not_created _ _ _ _ e creation] at before
    exact .error (Or.inl before)
  | ok =>
    have after := represents_created before fingerprint pass
    rw [← laws.created _ _ _ _ creation] at after
    exact .ok fun _ => after

theorem Services.backs_delete (laws : Services items stored) (m : Cells) (fingerprint : String) :
    Hoare (Mirrors items · m)
      (Linux.delete (keyIdFromFingerprint fingerprint) : Routine Ke De It Unit) fun r v =>
        if r.isOk then Mirrors items v (Function.update m fingerprint none)
        else Mirrors items v m := by
  refine laws.opened (fun e v _ kept => kept) ?_
  refine Hoare.bind (laws.searched m _) (fun e v failed => failed.1) fun found => ?_
  -- Nothing is deleted where the search finds nothing.
  split
  · exact Hoare.fail fun v before => before.1
  intro v ⟨before, _⟩
  rw [bind_of_ok (onKeyring_run _ _ v)]
  cases removal : (SecretService.delete (attributes (keyIdFromFingerprint fingerprint))
      v.keyring).1 with
  | error e =>
    rw [Mirrors, ← laws.not_deleted _ _ e removal] at before
    exact before
  | ok =>
    have after := represents_deleted before fingerprint
    rw [← laws.deleted _ _ removal] at after
    exact after

/-- The item of a cell is released as the passphrase that it is. -/
theorem Services.backs_release (laws : Services items stored) {m : Cells}
    {fingerprint pass : String} (there : m fingerprint = some pass) (item : It) :
    Hoare (fun v : LinuxVault Ke De It => Mirrors items v m ∧
        (stored (items v.keyring) item).secret = pass.toUTF8)
      (release item : Routine Ke De It String) fun r v =>
        Mirrors items v m ∧ Truthful m fingerprint r := by
  intro v ⟨before, secret⟩
  have kept := preserves_onKeyring (laws.itemSecret item) (.itemSecret item) m v before
  unfold release
  rw [bind_of_ok (onKeyring_run _ _ v)]
  cases answer : (SecretService.itemSecret item v.keyring).1 with
  | error e => exact ⟨kept, .other (by simp)⟩
  | ok bytes =>
    -- A passphrase was stored as its bytes, so what is read back decodes to it.
    have read := laws.secret item v.keyring bytes answer
    rw [secret] at read
    subst read
    simp only [orElse, mapError_ok, bind_run, query_run, fromUTF8?_toUTF8, pure_run]
    exact ⟨kept, .ok there⟩

theorem Services.backs_retrieve [Fprint De] (laws : Services items stored) (m : Cells)
    (fingerprint : String) :
    Hoare (Mirrors items · m)
      (Linux.retrieve (keyIdFromFingerprint fingerprint) : Routine Ke De It String) fun r v =>
        Mirrors items v m ∧ Truthful m fingerprint r := by
  refine laws.opened (fun e v other kept => ⟨kept, .other other⟩) ?_
  refine Hoare.bind (laws.searched m _)
    (fun e v failed => ⟨failed.1, .other fun same => failed.2.1 (congrArg Except.error same)⟩)
    fun handles v ⟨before, _, found⟩ => ?_
  rcases before.found fingerprint (found handles rfl) with
    ⟨rfl, gone⟩ | ⟨item, pass, rfl, there, secret⟩
  · exact ⟨before, .vacant gone⟩
  · -- The check of the fingerprint leaves the keyring as it is.
    have verified : Hoare (fun v : LinuxVault Ke De It => Mirrors items v m ∧
        (stored (items v.keyring) item).secret = pass.toUTF8)
        (releaseFirst [item]) fun r v => Mirrors items v m ∧ Truthful m fingerprint r := by
      refine Hoare.raising ?_ raises_verifyFingerprint
        (fun e v other kept => ⟨kept.1, .other other⟩) fun _ => laws.backs_release there item
      exact keeps_verifyFingerprint.preserves fun k =>
        Tagged.Represents coding (items k) (encoded m) ∧
          (stored (items k) item).secret = pass.toUTF8
    exact verified v ⟨before, secret⟩

theorem Services.backs_list (laws : Services items stored) (m : Cells) :
    Preserves (Mirrors items · m) (Linux.list : Routine Ke De It (List EnrolledKey)) := by
  have each (enrolled : List EnrolledKey) (item : It) : Preserves (Mirrors items · m)
      (listOne enrolled item : Routine Ke De It (List EnrolledKey)) := by
    refine Preserves.bind (preserves_onKeyring (laws.itemAttributes item) _ m) fun attrs => ?_
    exact Preserves.bind (preserves_orElse _ attrs m) fun _ => Preserves.pure _
  have listed : Hoare (Mirrors items · m) (Linux.list : Routine Ke De It (List EnrolledKey))
      fun _ v => Mirrors items v m := by
    refine laws.opened (fun e v _ kept => kept) ?_
    refine Hoare.bind (laws.searched m _) (fun e v failed => failed.1) fun found => ?_
    have read : Preserves (Mirrors items · m) (found.foldlM listOne [] :
        Routine Ke De It (List EnrolledKey)) := Preserves.foldlM each found []
    exact fun v before => read v before.1
  exact listed

theorem Services.backs [Fprint De] (laws : Services items stored) :
    Backs False (fun _ _ => True) (Mirrors items : LinuxVault Ke De It → Cells → Prop) where
  store := laws.backs_store
  delete := laws.backs_delete
  retrieve := laws.backs_retrieve
  list := laws.backs_list

end Gitway.Biometric.Linux
