import Gitway.Biometric.Stores
import Gitway.Biometric.Unchanged

/-!
# The keychain behind the cells

A store removes the item that is there before it writes the new one. A write that fails
after that has lost the entry.
-/
namespace Gitway.Biometric.Macos

open Lib Lib.Fallible

variable {Kc : Type} [Keychain Kc]

/-- What the code relies on of the Keychain here: what is handed out is there, what is not found
is not, and only a write or a removal that succeeds changes an item. A call may fail at any time,
as a read does when the user cancels. -/
structure Passwords (items : Kc → String → Option ByteArray) : Prop where
  genericPassword : ∀ account,
    Keeps items (Keychain.genericPassword (.newGenericPassword SERVICE account) : Kc → _)
  search : Keeps items (Keychain.search ⟨SERVICE, true⟩ : Kc → _)
  deleted : ∀ account (k : Kc), (Keychain.deleteGenericPassword SERVICE account k).1 = .ok () →
    items (Keychain.deleteGenericPassword SERVICE account k).2 =
      Function.update (items k) account none
  not_deleted : ∀ account (k : Kc) e,
    (Keychain.deleteGenericPassword SERVICE account k).1 = .error e →
      items (Keychain.deleteGenericPassword SERVICE account k).2 = items k
  set : ∀ bytes options (k : Kc), options.service = SERVICE →
    (Keychain.setGenericPasswordOptions bytes options k).1 = .ok () →
      items (Keychain.setGenericPasswordOptions bytes options k).2 =
        Function.update (items k) options.account (some bytes)
  not_set : ∀ bytes options (k : Kc) e,
    (Keychain.setGenericPasswordOptions bytes options k).1 = .error e →
      items (Keychain.setGenericPasswordOptions bytes options k).2 = items k
  found : ∀ account (k : Kc) bytes,
    (Keychain.genericPassword (.newGenericPassword SERVICE account) k).1 = .ok bytes →
      items k account = some bytes
  absent : ∀ account (k : Kc),
    (Keychain.genericPassword (.newGenericPassword SERVICE account) k).1 =
      .error ERR_SEC_ITEM_NOT_FOUND → items k account = none

def Mirrors (items : Kc → String → Option ByteArray) (v : MacosVault Kc) (m : Cells) : Prop :=
  items v.keychain = encoded m

variable {items : Kc → String → Option ByteArray}

@[simp] theorem accountOf_fingerprint (fingerprint : String) :
    accountOf (keyIdFromFingerprint fingerprint) = fingerprint :=
  fingerprintOf_keyIdFromFingerprint fingerprint

theorem Passwords.backs_store (laws : Passwords items) (m : Cells) (fingerprint pass : String) :
    Hoare (Mirrors items · m) (Macos.store (keyIdFromFingerprint fingerprint) pass)
      (Stored True True (Mirrors items) m fingerprint pass) := by
  intro v before
  -- Whether the removal worked is not asked, but it decides what a failed write leaves.
  have removed : items (Keychain.deleteGenericPassword SERVICE fingerprint v.keychain).2 =
        encoded m ∨
      items (Keychain.deleteGenericPassword SERVICE fingerprint v.keychain).2 =
        encoded (Function.update m fingerprint none) := by
    cases removal : (Keychain.deleteGenericPassword SERVICE fingerprint v.keychain).1 with
    | error code => exact Or.inl ((laws.not_deleted _ _ code removal).trans before)
    | ok =>
      right
      rw [laws.deleted _ _ removal, encoded_update, before]
      rfl
  unfold Macos.store
  simp only [accountOf_fingerprint]
  rw [bind_of_ok (onKeychain_run _ v), bind_of_ok (onKeychain_run _ _)]
  dsimp only [orMapped, query_run]
  generalize (Keychain.deleteGenericPassword SERVICE fingerprint v.keychain).2 = k at removed ⊢
  generalize labelled : ({ PasswordOptions.newGenericPassword SERVICE fingerprint with
    accessControl := some .userPresence
    label := some s!"Gitway SSH passphrase ({fingerprint})" } : PasswordOptions) = options
  have service : options.service = SERVICE := by rw [← labelled]; rfl
  have account : options.account = fingerprint := by rw [← labelled]; rfl
  cases written : (Keychain.setGenericPasswordOptions pass.toUTF8 options k).1 with
  | error code =>
    have same := laws.not_set _ _ _ code written
    exact .error (removed.imp same.trans fun lost => ⟨trivial, same.trans lost⟩)
  | ok =>
    -- What is written stands there whether or not the removal worked.
    refine .ok fun _ => ?_
    have put := laws.set _ _ _ service written
    rw [account] at put
    show items _ = encoded _
    rw [put, encoded_update]
    rcases removed with kept | lost
    · rw [kept]
      rfl
    · rw [lost, encoded_update, Function.update_idem]
      rfl

theorem Passwords.backs_delete (laws : Passwords items) (m : Cells) (fingerprint : String) :
    Hoare (Mirrors items · m) (Macos.delete (keyIdFromFingerprint fingerprint) :
      Routine Kc Unit) fun r v =>
        if r.isOk then Mirrors items v (Function.update m fingerprint none)
        else Mirrors items v m := by
  intro v before
  unfold Macos.delete
  simp only [accountOf_fingerprint]
  rw [bind_of_ok (onKeychain_run _ v)]
  dsimp only [orMapped, query_run]
  cases removal : (Keychain.deleteGenericPassword SERVICE fingerprint v.keychain).1 with
  | error code => exact (laws.not_deleted _ _ code removal).trans before
  | ok =>
    show items _ = encoded _
    rw [laws.deleted _ _ removal, encoded_update, before]
    rfl

theorem Passwords.backs_released (laws : Passwords items) (m : Cells) (fingerprint : String) :
    Hoare (Mirrors items · m) (Macos.retrieve (keyIdFromFingerprint fingerprint) :
      Routine Kc String) fun r v =>
        Mirrors items v m ∧ ∀ pass, r = .ok pass → m fingerprint = some pass := by
  intro v before
  unfold Macos.retrieve
  simp only [accountOf_fingerprint]
  rw [bind_of_ok (onKeychain_run _ v)]
  have kept := (laws.genericPassword fingerprint v.keychain).trans before
  cases answer : (Keychain.genericPassword (.newGenericPassword SERVICE fingerprint)
      v.keychain).1 with
  | error code => exact ⟨kept, by simp [orMapped, bind_run]⟩
  | ok bytes =>
    -- The bytes are those of a passphrase that was stored, so they can be decoded.
    refine ⟨kept, fun pass released => ?_⟩
    have there := laws.found _ _ bytes answer
    rw [before] at there
    obtain ⟨stored, entry, rfl⟩ := Option.map_eq_some_iff.mp there
    have read : secretText stored.toUTF8 = .ok stored := by
      unfold secretText
      rw [fromUTF8?_toUTF8]
    simp only [orMapped, mapError_ok, bind_run, query_run, read, Except.ok.injEq] at released
    rw [entry, released]

theorem Passwords.backs_missing (laws : Passwords items) {m : Cells} {fingerprint : String}
    {v : MacosVault Kc} (before : Mirrors items v m)
    (missing : (Macos.retrieve (keyIdFromFingerprint fingerprint) v).1 = .error .notEnrolled) :
    m fingerprint = none := by
  have absent := laws.absent _ _ ((retrieve_notEnrolled _ v).mp missing)
  rw [accountOf_fingerprint, before] at absent
  exact Option.map_eq_none_iff.mp absent

theorem Passwords.backs_list (laws : Passwords items) (m : Cells) :
    Preserves (Mirrors items · m) (Macos.list : Routine Kc (List EnrolledKey)) := by
  intro v before
  unfold Macos.list
  rw [bind_of_ok (onKeychain_run _ v)]
  have kept := (laws.search v.keychain).trans before
  cases (Keychain.search ⟨SERVICE, true⟩ v.keychain).1 with
  | ok results => exact kept
  | error code =>
    dsimp only
    split
    · exact kept
    · exact kept

theorem Passwords.backs (laws : Passwords items) :
    Backs True (fun _ _ => True) (Mirrors items) where
  store := laws.backs_store
  delete := laws.backs_delete
  retrieve m fingerprint v before :=
    have released := laws.backs_released m fingerprint v before
    ⟨released.1, released.2, laws.backs_missing before⟩
  list := laws.backs_list

end Gitway.Biometric.Macos
