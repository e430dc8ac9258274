import Gitway.Biometric.Stores
import Gitway.Biometric.Unchanged

/-!
# The Credential Locker behind the cells

As on macOS the credential that is there goes before the new one comes. What is released has
passed Windows Hello, which leaves the locker alone.
-/
namespace Gitway.Biometric.Windows

open Lib Lib.Fallible

variable {Lo He Cr : Type} [CredentialLocker Lo Cr]

/-- What the code relies on of the Credential Locker here: what is handed out is there, what is
not found is not, and a credential that is added where there was none is there. A call may fail
at any time. Nothing is known of a credential that is added beside another one. -/
structure Locker (credentials : Lo → String → Option String) : Prop extends
    Effects credentials where
  findAllByResource : Keeps credentials (CredentialLocker.findAllByResource RESOURCE : Lo → _)
  added : ∀ account secret credential (l l' : Lo),
    CredentialLocker.createPasswordCredential RESOURCE account secret l = (.ok credential, l') →
      credentials l' account = none → (CredentialLocker.add credential l').1 = .ok () →
        credentials (CredentialLocker.add credential l').2 =
          Function.update (credentials l') account (some secret)
  found : ∀ account credential secret (l l' : Lo),
    CredentialLocker.retrieve RESOURCE account l = (.ok credential, l') →
      CredentialLocker.password Lo credential = .ok secret → credentials l account = some secret
  absent : ∀ account (l : Lo) e, (CredentialLocker.retrieve RESOURCE account l).1 = .error e →
    e.code = ERROR_NOT_FOUND → credentials l account = none

/-- There is no credential of the account, or the one that is there goes before a new one
comes. -/
def Clears (credentials : Lo → String → Option String) (v : WindowsVault Lo He)
    (account : String) : Prop :=
  credentials v.locker account = none ∨ Removes account (CredentialLocker.new v.locker).2

def Mirrors (credentials : Lo → String → Option String) (v : WindowsVault Lo He) (m : Cells) :
    Prop :=
  credentials v.locker = m

variable {credentials : Lo → String → Option String}

@[simp] theorem accountOf_fingerprint (fingerprint : String) :
    accountOf (keyIdFromFingerprint fingerprint) = fingerprint :=
  fingerprintOf_keyIdFromFingerprint fingerprint

omit [CredentialLocker Lo Cr] in
theorem keeps_verifyConsent [ConsentVerifier He] :
    Keeps WindowsVault.locker (verifyConsent : Routine Lo He Unit) := by
  apply Keeps.bind (fun _ => rfl)
  intro operation
  apply Keeps.bind (Keeps.query _)
  intro _
  apply Keeps.bind (fun _ => rfl)
  intro result
  apply Keeps.bind (Keeps.query _)
  intro verified
  split
  · exact Keeps.pure _
  · exact Keeps.fail _

theorem Locker.openVault (laws : Locker credentials) (m : Cells) :
    Preserves (Mirrors credentials · m) (Windows.openVault : Routine Lo He Unit) := by
  intro v before
  rw [openVault_run]
  exact (laws.new_keeps v.locker).trans before

theorem Locker.backs_store (laws : Locker credentials) (m : Cells) (fingerprint pass : String)
    (v : WindowsVault Lo He) (before : Mirrors credentials v m) :
    Stored True (Clears credentials v fingerprint) (Mirrors credentials) m fingerprint pass
      (Windows.store (keyIdFromFingerprint fingerprint) pass v).1
      (Windows.store (keyIdFromFingerprint fingerprint) pass v).2 := by
  unfold Windows.store
  simp only [accountOf_fingerprint]
  have opening := openVault_run v
  have still := (laws.new_keeps v.locker).trans before
  cases opened : (CredentialLocker.new v.locker).1 with
  | error e =>
    rw [opened, mapError_error] at opening
    rw [bind_of_error opening]
    exact .error (Or.inl still)
  | ok =>
  rw [opened, mapError_ok] at opening
  rw [bind_of_ok opening]
  obtain ⟨v₁, removal, _, effect⟩ := laws.removeExisting_run fingerprint
    { v with locker := (CredentialLocker.new v.locker).2 }
  rw [still] at effect
  -- From here on the entry is the one from before, or lost.
  have removed : Mirrors credentials v₁ m ∨
      Mirrors credentials v₁ (Function.update m fingerprint none) :=
    effect.symm.imp And.right And.right
  -- In a locker that clears the account it is free, since either it was or the removal worked.
  have cleared (ready : Clears credentials v fingerprint) :
      credentials v₁.locker = Function.update m fingerprint none := by
    rcases effect with ⟨_, gone⟩ | ⟨stays, same⟩
    · exact gone
    · have vacant := ready.resolve_right stays
      rw [before] at vacant
      rw [same, ← vacant, Function.update_eq_self]
  have kept := laws.createPasswordCredential fingerprint pass v₁.locker
  rw [bind_of_ok removal, bind_of_ok (onLocker_run _ v₁)]
  cases creation : CredentialLocker.createPasswordCredential RESOURCE fingerprint pass
      v₁.locker with
  | mk created l =>
    rw [creation] at kept
    cases created with
    | error e => exact .error (removed.imp kept.trans fun lost => ⟨trivial, kept.trans lost⟩)
    | ok credential =>
      have made : (orElse (fun e => .backend s!"create credential: {e.message}")
          (.ok credential) : Routine Lo He Cr) { v₁ with locker := l } =
            (.ok credential, { v₁ with locker := l }) := rfl
      rw [bind_of_ok made, bind_of_ok (onLocker_run _ _)]
      cases written : (CredentialLocker.add credential l).1 with
      | error e =>
        have same := (laws.not_added credential l e written).trans kept
        exact .error (removed.imp same.trans fun lost => ⟨trivial, same.trans lost⟩)
      | ok =>
        refine .ok fun ready => ?_
        have empty := kept.trans (cleared ready)
        have put := laws.added _ _ _ _ _ creation (by simp [empty]) written
        rw [empty, Function.update_idem] at put
        exact put

/-- The credential in hand is the one that the locker gave out for the account. -/
theorem Locker.located (laws : Locker credentials) (m : Cells) (fingerprint : String) :
    Hoare (Mirrors credentials · m) (findCredential fingerprint : Routine Lo He Cr) fun r v =>
      Mirrors credentials v m ∧ ∀ credential, r = .ok credential →
        ∃ l, CredentialLocker.retrieve RESOURCE fingerprint l = (.ok credential, v.locker) ∧
          credentials l = m := by
  intro v before
  have kept := (laws.retrieve_keeps fingerprint v.locker).trans before
  unfold findCredential
  rw [bind_of_ok (onLocker_run _ v)]
  -- The locker that gave it out is the one from before the call.
  refine ⟨kept, fun credential handed => ⟨v.locker, ?_, before⟩⟩
  exact Prod.ext (mapError_eq_ok_iff.mp handed) rfl

theorem Locker.backs_delete (laws : Locker credentials) (m : Cells) (fingerprint : String) :
    Hoare (Mirrors credentials · m)
      (Windows.delete (keyIdFromFingerprint fingerprint) : Routine Lo He Unit) fun r v =>
        if r.isOk then Mirrors credentials v (Function.update m fingerprint none)
        else Mirrors credentials v m := by
  unfold Windows.delete
  simp only [accountOf_fingerprint]
  refine Hoare.keeping (laws.openVault m) (fun e v kept => kept) fun _ => ?_
  refine Hoare.bind (laws.located m fingerprint) (fun e v failed => failed.1)
    fun credential v held => ?_
  obtain ⟨l, answer, same⟩ := held.2 credential rfl
  rw [bind_of_ok (onLocker_run _ v)]
  cases removal : (CredentialLocker.remove credential v.locker).1 with
  | error e => exact (laws.not_removed credential v.locker e removal).trans held.1
  | ok =>
    have gone := laws.removed _ _ _ _ answer removal
    rw [same] at gone
    exact gone

omit [CredentialLocker Lo Cr] in
theorem preserves_verifyConsent [ConsentVerifier He] (m : Cells) :
    Preserves (Mirrors credentials · m) (verifyConsent : Routine Lo He Unit) :=
  keeps_verifyConsent.preserves fun l => credentials l = m

/-- Behind the consent the password of the credential is released, or nothing is. -/
theorem password_released [ConsentVerifier He] {m : Cells} {fingerprint : String} {credential : Cr}
    (there : ∀ pass, CredentialLocker.password Lo credential = .ok pass →
      m fingerprint = some pass) :
    Hoare (Mirrors credentials · m) (do
      verifyConsent
      let password := CredentialLocker.password Lo credential
      let text ← orElse (fun e => .backend s!"locker password: {e.message}") password
      if text.isEmpty then Fallible.fail (.backend "stored passphrase was empty")
        else return text : Routine Lo He String) fun r v =>
      Mirrors credentials v m ∧ ∀ pass, r = .ok pass → m fingerprint = some pass := by
  refine Hoare.keeping (preserves_verifyConsent m) (fun e v kept => ⟨kept, by simp⟩) fun _ => ?_
  refine Hoare.bind (Q := fun r v => Mirrors credentials v m ∧
    ∀ pass, r = .ok pass → m fingerprint = some pass) (Hoare.query fun v kept => ⟨kept, ?_⟩)
    (fun e v failed => ⟨failed.1, by simp⟩) fun text => ?_
  · exact fun pass read => there pass (mapError_eq_ok_iff.mp read)
  · split
    · exact Hoare.fail fun v kept => ⟨kept.1, by simp⟩
    · exact Hoare.pure fun v kept => kept

theorem Locker.backs_released [ConsentVerifier He] (laws : Locker credentials) (m : Cells)
    (fingerprint : String) :
    Hoare (Mirrors credentials · m)
      (Windows.retrieve (keyIdFromFingerprint fingerprint) : Routine Lo He String) fun r v =>
        Mirrors credentials v m ∧ ∀ pass, r = .ok pass → m fingerprint = some pass := by
  unfold Windows.retrieve
  simp only [accountOf_fingerprint]
  refine Hoare.keeping (laws.openVault m) (fun e v kept => ⟨kept, by simp⟩) fun _ => ?_
  refine Hoare.bind (laws.located m fingerprint) (fun e v failed => ⟨failed.1, by simp⟩)
    fun credential v held => ?_
  obtain ⟨l, answer, same⟩ := held.2 credential rfl
  refine password_released (fun pass read => ?_) v held.1
  -- The consent does not bring in another credential: it is the one handed out before it.
  have stored := laws.found _ _ _ _ _ answer read
  rw [same] at stored
  exact stored

theorem Locker.backs_missing [ConsentVerifier He] (laws : Locker credentials) {m : Cells}
    {fingerprint : String} {v : WindowsVault Lo He} (before : Mirrors credentials v m)
    (missing : (Windows.retrieve (keyIdFromFingerprint fingerprint) v).1 = .error .notEnrolled) :
    m fingerprint = none := by
  obtain ⟨_, e, answer, code⟩ := (retrieve_notEnrolled _).mp missing
  rw [accountOf_fingerprint] at answer
  have absent := laws.absent _ _ e answer code
  rw [laws.new_keeps, before] at absent
  exact absent

theorem Locker.backs_list (laws : Locker credentials) (m : Cells) :
    Preserves (Mirrors credentials · m) (Windows.list : Routine Lo He (List EnrolledKey)) := by
  unfold Windows.list
  refine Preserves.bind (laws.openVault m) fun _ v before => ?_
  have kept := (laws.findAllByResource v.locker).trans before
  rw [bind_of_ok (onLocker_run _ v)]
  cases (CredentialLocker.findAllByResource RESOURCE v.locker).1 with
  | ok found => exact kept
  | error e =>
    dsimp only
    split
    · exact kept
    · exact kept

theorem Locker.backs [ConsentVerifier He] (laws : Locker credentials) :
    Backs True (Clears credentials)
      (Mirrors credentials : WindowsVault Lo He → Cells → Prop) where
  store := laws.backs_store
  delete := laws.backs_delete
  retrieve m fingerprint v before :=
    have released := laws.backs_released m fingerprint v before
    ⟨released.1, released.2, laws.backs_missing before⟩
  list := laws.backs_list

end Gitway.Biometric.Windows
