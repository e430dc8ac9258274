import Gitway.Biometric.Linux.Collection
import Gitway.Biometric.Macos
import Gitway.Biometric.Windows

/-!
# What a failed enrolment leaves

A passphrase that cannot be stored is reported. The Linux backend replaces an entry in one
call, so a failure changes nothing. The other two remove the entry that is there and write
the new one after that, and a failure in between loses the enrolment.
-/
namespace Gitway.Biometric

open Lib

/-- Both states of the keystore answer alike about every entry. -/
structure Intact {Va : Type} [BiometricBackend Va] (v v' : Va) : Prop where
  retrieved : ∀ id, (BiometricVault.retrieve id v').1 = (BiometricVault.retrieve id v).1
  listed : (BiometricBackend.list v').1 = (BiometricBackend.list v).1

/-! ### Linux -/

namespace Linux

variable {Ke De It ε α : Type} [SecretService Ke It]

/-- What the code relies on of the Secret Service: it answers from its entries, and only a
write that succeeds changes them. -/
structure Entries (entries : Ke → ε) : Prop where
  runtime : Fallible.Reads entries (SecretService.runtime : Ke → _)
  keyringNew : Fallible.Reads entries (SecretService.keyringNew : Ke → _)
  unlock : Fallible.Reads entries (SecretService.unlock : Ke → _)
  searchItems : ∀ query, Fallible.Reads entries (SecretService.searchItems query : Ke → _)
  itemAttributes : ∀ item, Fallible.Reads entries (SecretService.itemAttributes item : Ke → _)
  itemSecret : ∀ item, Fallible.Reads entries (SecretService.itemSecret item : Ke → _)
  not_created : ∀ label attrs secret replace (k : Ke) e,
    (SecretService.createItem label attrs secret replace k).1 = .error e →
      entries (SecretService.createItem label attrs secret replace k).2 = entries k

/-- What decides the answers. -/
def seen (entries : Ke → ε) (v : LinuxVault Ke De It) : ε × De × Bool :=
  (entries v.keyring, v.device, v.stderrIsTerminal)

/-- The services have the same entries and the same device. -/
def SameSeen (entries : Ke → ε) (v v' : LinuxVault Ke De It) : Prop :=
  seen entries v = seen entries v'

section
variable {entries : Ke → ε}

omit [SecretService Ke It] in
theorem alike_reads {op : Ke → Except String α × Ke} (reads : Fallible.Reads entries op)
    (call : Except String α → Call It) :
    Fallible.Alike (SameSeen entries) (onKeyring call op : Routine Ke De It (Except String α))
      (onKeyring call op) := by
  intro v v' same
  simp only [SameSeen, seen, Prod.mk.injEq] at same ⊢
  obtain ⟨entries_same, device_same, terminal_same⟩ := same
  refine ⟨congrArg Except.ok (reads.answers _ _ entries_same), ?_, device_same, terminal_same⟩
  exact (reads.keeps _).trans (entries_same.trans (reads.keeps _).symm)

omit [SecretService Ke It] in
theorem keeps_onKeyring {op : Ke → Except String α × Ke}
    (kept : ∀ k, entries (op k).2 = entries k) (call : Except String α → Call It) :
    Fallible.Keeps (seen entries) (onKeyring call op : Routine Ke De It (Except String α)) := by
  intro v
  unfold seen onKeyring
  rw [kept]

omit [SecretService Ke It] in
theorem alike_seen_orElse (failed : String → BiometricError) (answer : Except String α) :
    Fallible.Alike (SameSeen entries) (orElse failed answer : Routine Ke De It α)
      (orElse failed answer) :=
  Fallible.Alike.query fun _ _ _ => rfl

omit [SecretService Ke It] in
/-- The check of the fingerprint sees the device alone. -/
theorem alike_seen_verifyFingerprint [Fprint De] :
    Fallible.Alike (SameSeen entries) (verifyFingerprint : Routine Ke De It Unit)
      verifyFingerprint := by
  intro v v' same
  simp only [SameSeen, seen, Prod.mk.injEq] at same ⊢
  obtain ⟨entries_same, device_same, terminal_same⟩ := same
  -- Compared with itself, the first run leaves its keyring as it was.
  have kept := (alike_verifyFingerprint v v ⟨rfl, rfl, rfl⟩).2.1
  obtain ⟨answer, keyring, device, terminal⟩ :=
    alike_verifyFingerprint v v' ⟨rfl, device_same.symm, terminal_same.symm⟩
  exact ⟨answer, by rw [kept, keyring, entries_same], device.symm, terminal.symm⟩

theorem Entries.alike_blocking (laws : Entries entries) {f : Routine Ke De It α}
    (body : Fallible.Alike (SameSeen entries) f f) :
    Fallible.Alike (SameSeen entries) (runBlocking f) (runBlocking f) := by
  apply Fallible.Alike.bind (alike_reads laws.runtime _)
  intro runtime
  exact Fallible.Alike.bind (alike_seen_orElse _ runtime) fun _ => body

theorem Entries.alike_openKeyring (laws : Entries entries) :
    Fallible.Alike (SameSeen entries) (openKeyring : Routine Ke De It Unit) openKeyring := by
  apply Fallible.Alike.bind (alike_reads laws.keyringNew _)
  intro keyring
  apply Fallible.Alike.bind (alike_seen_orElse _ keyring)
  intro _
  exact Fallible.Alike.bind (alike_reads laws.unlock _) fun _ => Fallible.Alike.pure _

theorem Entries.alike_searchItems (laws : Entries entries) (query : Attributes) :
    Fallible.Alike (SameSeen entries) (Linux.searchItems query : Routine Ke De It (List It))
      (Linux.searchItems query) :=
  Fallible.Alike.bind (alike_reads (laws.searchItems query) _) fun items =>
    alike_seen_orElse _ items

theorem Entries.alike_list (laws : Entries entries) :
    Fallible.Alike (SameSeen entries) (list : Routine Ke De It (List EnrolledKey)) list := by
  have each (enrolled : List EnrolledKey) (item : It) : Fallible.Alike (SameSeen entries)
      (listOne enrolled item : Routine Ke De It (List EnrolledKey)) (listOne enrolled item) := by
    apply Fallible.Alike.bind (alike_reads (laws.itemAttributes item) _)
    intro attrs
    exact Fallible.Alike.bind (alike_seen_orElse _ attrs) fun _ => Fallible.Alike.pure _
  apply laws.alike_blocking
  apply Fallible.Alike.bind laws.alike_openKeyring
  intro _
  apply Fallible.Alike.bind (laws.alike_searchItems _)
  intro items
  exact Fallible.Alike.foldlM each items []

theorem Entries.alike_retrieve [Fprint De] (laws : Entries entries) (keyId : String) :
    Fallible.Alike (SameSeen entries) (retrieve keyId : Routine Ke De It String)
      (retrieve keyId) := by
  have released (item : It) : Fallible.Alike (SameSeen entries)
      (release item : Routine Ke De It String) (release item) := by
    apply Fallible.Alike.bind (alike_reads (laws.itemSecret item) _)
    intro secret
    apply Fallible.Alike.bind (alike_seen_orElse _ secret)
    intro bytes
    split
    · exact Fallible.Alike.pure _
    · exact Fallible.Alike.fail _
  apply laws.alike_blocking
  apply Fallible.Alike.bind laws.alike_openKeyring
  intro _
  apply Fallible.Alike.bind (laws.alike_searchItems _)
  intro items
  cases items with
  | nil => exact Fallible.Alike.fail _
  | cons item later =>
    exact Fallible.Alike.bind alike_seen_verifyFingerprint fun _ => released item

/-- The item is replaced in one call, so a store that fails changes no entry. -/
theorem Entries.store_failed (laws : Entries entries) (keyId passphrase : String) :
    Fallible.KeepsOnError (seen entries) (store keyId passphrase : Routine Ke De It Unit) := by
  have checked {β : Type} (failed : String → BiometricError) (answer : Except String β) :
      Fallible.Keeps (seen entries) (orElse failed answer : Routine Ke De It β) :=
    Fallible.Keeps.query _
  have opened : Fallible.Keeps (seen entries) (openKeyring : Routine Ke De It Unit) := by
    apply Fallible.Keeps.bind (keeps_onKeyring laws.keyringNew.keeps _)
    intro keyring
    apply Fallible.Keeps.bind (checked _ keyring)
    intro _
    exact Fallible.Keeps.bind (keeps_onKeyring laws.unlock.keeps _) fun _ => Fallible.Keeps.pure _
  apply Fallible.KeepsOnError.bind (keeps_onKeyring laws.runtime.keeps _)
  intro runtime
  apply Fallible.KeepsOnError.bind (checked _ runtime)
  intro _
  apply Fallible.KeepsOnError.bind opened
  intro _ v e v' failed
  dsimp only at failed
  -- The write is the last call, and its failure is the failure of the whole.
  obtain ⟨created, u, written, last⟩ := (Fallible.bind_error_iff.mp failed).resolve_left
    (by simp [onKeyring])
  simp only [onKeyring, Prod.mk.injEq, Except.ok.injEq] at written
  obtain ⟨rfl, rfl⟩ := written
  simp only [orElse, Fallible.query_run, Prod.mk.injEq] at last
  obtain ⟨refused, rfl⟩ := last
  obtain ⟨reason, written, _⟩ := of_mapError_error refused
  unfold seen
  rw [laws.not_created _ _ _ _ _ reason written]

theorem Entries.store_intact [Fprint De] (laws : Entries entries) {keyId passphrase : String}
    {v v' : LinuxVault Ke De It} {e : BiometricError}
    (failed : BiometricVault.store keyId passphrase v = (.error e, v')) : Intact v v' := by
  have same : SameSeen entries v v' := (laws.store_failed keyId passphrase v e v' failed).symm
  exact ⟨fun id => (laws.alike_retrieve id v v' same).1.symm, (laws.alike_list v v' same).1.symm⟩

end
end Linux

/-! ### macOS -/

namespace Macos

variable {Kc ε α : Type} [Keychain Kc]

/-- What the code relies on of the Keychain, with the user present: it answers from its
items, which are found exactly when they are there, and what fails changes none of them. -/
structure Items (items : Kc → String → Option ε) : Prop where
  genericPassword : ∀ account, Fallible.Reads items
    (Keychain.genericPassword (.newGenericPassword SERVICE account) : Kc → _)
  search : Fallible.Reads items (Keychain.search ⟨SERVICE, true⟩ : Kc → _)
  absent : ∀ account (k : Kc),
    (Keychain.genericPassword (.newGenericPassword SERVICE account) k).1 =
      .error ERR_SEC_ITEM_NOT_FOUND ↔ items k account = none
  deleted : ∀ account (k : Kc), (Keychain.deleteGenericPassword SERVICE account k).1 = .ok () →
    items (Keychain.deleteGenericPassword SERVICE account k).2 =
      Function.update (items k) account none
  not_deleted : ∀ account (k : Kc) e,
    (Keychain.deleteGenericPassword SERVICE account k).1 = .error e →
      items (Keychain.deleteGenericPassword SERVICE account k).2 = items k
  not_set : ∀ bytes options (k : Kc) e,
    (Keychain.setGenericPasswordOptions bytes options k).1 = .error e →
      items (Keychain.setGenericPasswordOptions bytes options k).2 = items k

variable {items : Kc → String → Option ε}

/-- Both keychains hold the same items. -/
def SameItems (items : Kc → String → Option ε) (v v' : MacosVault Kc) : Prop :=
  items v.keychain = items v'.keychain

omit [Keychain Kc] in
theorem onKeychain_run (op : Kc → Except Int α × Kc) (v : MacosVault Kc) :
    onKeychain op v = (.ok (op v.keychain).1, ⟨(op v.keychain).2⟩) := rfl

omit [Keychain Kc] in
theorem alike_reads {op : Kc → Except Int α × Kc} (reads : Fallible.Reads items op) :
    Fallible.Alike (SameItems items) (onKeychain op : Routine Kc (Except Int α))
      (onKeychain op) := by
  intro v v' same
  refine ⟨congrArg Except.ok (reads.answers _ _ same), ?_⟩
  exact (reads.keeps _).trans (Eq.trans same (reads.keeps _).symm)

theorem Items.intact_of_same (laws : Items items) {v v' : MacosVault Kc}
    (same : SameItems items v v') : Intact v v' := by
  constructor
  · intro id
    have both : Fallible.Alike (SameItems items) (retrieve id : Routine Kc String)
        (retrieve id) := by
      apply Fallible.Alike.bind (alike_reads (laws.genericPassword _))
      intro found
      apply Fallible.Alike.bind (Fallible.Alike.query fun _ _ _ => rfl)
      intro bytes
      exact Fallible.Alike.query fun _ _ _ => rfl
    exact (both v v' same).1.symm
  · have both : Fallible.Alike (SameItems items) (list : Routine Kc (List EnrolledKey)) list := by
      apply Fallible.Alike.bind (alike_reads laws.search)
      intro found
      split
      · exact Fallible.Alike.pure _
      · split
        · exact Fallible.Alike.pure _
        · exact Fallible.Alike.fail _
    exact (both v v' same).1.symm

/-- A store that fails leaves what the removal before the write left. -/
theorem Items.store_failed (laws : Items items) {keyId passphrase : String}
    {v v' : MacosVault Kc} {e : BiometricError}
    (failed : store keyId passphrase v = (.error e, v')) :
    items v'.keychain =
      items (Keychain.deleteGenericPassword SERVICE (accountOf keyId) v.keychain).2 := by
  unfold store at failed
  dsimp only at failed
  rw [Fallible.bind_of_ok (onKeychain_run _ v), Fallible.bind_of_ok (onKeychain_run _ _)] at failed
  simp only [orMapped, Fallible.query_run, Prod.mk.injEq] at failed
  obtain ⟨refused, rfl⟩ := failed
  -- The write is the last call, so its failure is the failure of the whole.
  obtain ⟨code, written, _⟩ := of_mapError_error refused
  exact laws.not_set _ _ _ code written

/-- `NotEnrolled` is said where the keychain does not find the item, and nowhere else. -/
theorem retrieve_notEnrolled (keyId : String) (v : MacosVault Kc) :
    (retrieve keyId v).1 = .error .notEnrolled ↔
      (Keychain.genericPassword (.newGenericPassword SERVICE (accountOf keyId)) v.keychain).1 =
        .error ERR_SEC_ITEM_NOT_FOUND := by
  unfold retrieve
  rw [Fallible.bind_of_ok (onKeychain_run _ v)]
  cases (Keychain.genericPassword (.newGenericPassword SERVICE (accountOf keyId)) v.keychain).1 with
  | error code => simp [orMapped, Fallible.bind_run, mapError_eq_notEnrolled_iff]
  | ok bytes =>
    simp only [orMapped, Fallible.bind_run, Fallible.query_run, mapError_ok, secretText]
    split <;> simp

theorem Items.retrieve_notEnrolled_iff (laws : Items items) (keyId : String) (v : MacosVault Kc) :
    (retrieve keyId v).1 = .error .notEnrolled ↔ items v.keychain (accountOf keyId) = none :=
  (retrieve_notEnrolled keyId v).trans (laws.absent _ _)

/-- A store that fails leaves the keychain as it was, unless it removed an item. -/
theorem Items.store_intact_iff (laws : Items items) {keyId passphrase : String}
    {v v' : MacosVault Kc} {e : BiometricError}
    (failed : BiometricVault.store keyId passphrase v = (.error e, v')) :
    Intact v v' ↔ items v.keychain (accountOf keyId) = none ∨
      ∃ code, (Keychain.deleteGenericPassword SERVICE (accountOf keyId) v.keychain).1 =
        .error code := by
  have left := laws.store_failed failed
  cases removal : (Keychain.deleteGenericPassword SERVICE (accountOf keyId) v.keychain).1 with
  | error code =>
    rw [laws.not_deleted _ _ code removal] at left
    simpa using laws.intact_of_same left.symm
  | ok _ =>
    rw [laws.deleted _ _ removal] at left
    simp only [reduceCtorEq, exists_false, or_false]
    constructor
    · -- After the store the entry is not found, so it was not found before.
      intro intact
      have gone : (retrieve keyId v').1 = .error .notEnrolled := by
        rw [laws.retrieve_notEnrolled_iff, left, Function.update_self]
      rw [← laws.retrieve_notEnrolled_iff]
      exact (intact.retrieved keyId).symm.trans gone
    · intro none_there
      apply laws.intact_of_same
      rw [SameItems, left, ← none_there, Function.update_eq_self]

end Macos

/-! ### Windows -/

namespace Windows

variable {Lo He Cr ε α : Type} [CredentialLocker Lo Cr]

/-- What the code relies on of the Credential Locker: it answers from its credentials,
which are found exactly when they are there, and what fails changes none of them. -/
structure Credentials (credentials : Lo → String → Option ε) : Prop where
  /-- Whether the locker opens does not depend on what it holds. -/
  opens : ∀ l l' : Lo, (CredentialLocker.new l).1 = (CredentialLocker.new l').1
  new_keeps : ∀ l : Lo, credentials (CredentialLocker.new l).2 = credentials l
  retrieve : ∀ account,
    Fallible.Reads credentials (CredentialLocker.retrieve RESOURCE account : Lo → _)
  findAllByResource :
    Fallible.Reads credentials (CredentialLocker.findAllByResource RESOURCE : Lo → _)
  createPasswordCredential : ∀ account secret (l : Lo),
    credentials (CredentialLocker.createPasswordCredential RESOURCE account secret l).2 =
      credentials l
  absent : ∀ account (l : Lo),
    (∃ e, (CredentialLocker.retrieve RESOURCE account l).1 = .error e ∧ e.code = ERROR_NOT_FOUND) ↔
      credentials l account = none
  removed : ∀ account credential (l l' : Lo),
    CredentialLocker.retrieve RESOURCE account l = (.ok credential, l') →
      (CredentialLocker.remove credential l').1 = .ok () →
        credentials (CredentialLocker.remove credential l').2 =
          Function.update (credentials l) account none
  not_removed : ∀ credential (l : Lo) e, (CredentialLocker.remove credential l).1 = .error e →
    credentials (CredentialLocker.remove credential l).2 = credentials l
  not_added : ∀ credential (l : Lo) e, (CredentialLocker.add credential l).1 = .error e →
    credentials (CredentialLocker.add credential l).2 = credentials l

/-- What the calls of a store leave. -/
structure Effects (credentials : Lo → String → Option ε) : Prop where
  new_keeps : ∀ l : Lo, credentials (CredentialLocker.new l).2 = credentials l
  retrieve_keeps : ∀ account (l : Lo),
    credentials (CredentialLocker.retrieve RESOURCE account l).2 = credentials l
  createPasswordCredential : ∀ account secret (l : Lo),
    credentials (CredentialLocker.createPasswordCredential RESOURCE account secret l).2 =
      credentials l
  removed : ∀ account credential (l l' : Lo),
    CredentialLocker.retrieve RESOURCE account l = (.ok credential, l') →
      (CredentialLocker.remove credential l').1 = .ok () →
        credentials (CredentialLocker.remove credential l').2 =
          Function.update (credentials l) account none
  not_removed : ∀ credential (l : Lo) e, (CredentialLocker.remove credential l).1 = .error e →
    credentials (CredentialLocker.remove credential l).2 = credentials l
  not_added : ∀ credential (l : Lo) e, (CredentialLocker.add credential l).1 = .error e →
    credentials (CredentialLocker.add credential l).2 = credentials l

theorem Credentials.effects {credentials : Lo → String → Option ε}
    (laws : Credentials credentials) : Effects credentials where
  new_keeps := laws.new_keeps
  retrieve_keeps account := (laws.retrieve account).keeps
  createPasswordCredential := laws.createPasswordCredential
  removed := laws.removed
  not_removed := laws.not_removed
  not_added := laws.not_added

/-- The locker hands out the credential of the account and removes it. -/
def Removes (account : String) (l : Lo) : Prop :=
  ∃ credential l', CredentialLocker.retrieve RESOURCE account l = (.ok credential, l') ∧
    (CredentialLocker.remove credential l').1 = .ok ()

variable {credentials : Lo → String → Option ε}

/-- Both lockers hold the same credentials, and Windows Hello is in the same state. -/
def SameCredentials (credentials : Lo → String → Option ε) (v v' : WindowsVault Lo He) : Prop :=
  credentials v.locker = credentials v'.locker ∧ v.hello = v'.hello

omit [CredentialLocker Lo Cr] in
theorem onLocker_run (op : Lo → Except HResultError α × Lo) (v : WindowsVault Lo He) :
    onLocker op v = (.ok (op v.locker).1, { v with locker := (op v.locker).2 }) := rfl

omit [CredentialLocker Lo Cr] in
theorem alike_reads {op : Lo → Except HResultError α × Lo}
    (reads : Fallible.Reads credentials op) :
    Fallible.Alike (SameCredentials credentials)
      (onLocker op : Routine Lo He (Except HResultError α)) (onLocker op) := by
  rintro v v' ⟨locker_same, hello_same⟩
  refine ⟨congrArg Except.ok (reads.answers _ _ locker_same), ?_, hello_same⟩
  exact (reads.keeps _).trans (Eq.trans locker_same (reads.keeps _).symm)

omit [CredentialLocker Lo Cr] in
theorem alike_onHello (op : He → Except HResultError α × He) :
    Fallible.Alike (SameCredentials credentials)
      (onHello op : Routine Lo He (Except HResultError α)) (onHello op) := by
  rintro v v' ⟨locker_same, hello_same⟩
  unfold onHello Fallible.within
  rw [hello_same]
  exact ⟨rfl, locker_same, rfl⟩

omit [CredentialLocker Lo Cr] in
theorem alike_orElse (failed : HResultError → BiometricError) (answer : Except HResultError α) :
    Fallible.Alike (SameCredentials credentials) (orElse failed answer : Routine Lo He α)
      (orElse failed answer) :=
  Fallible.Alike.query fun _ _ _ => rfl

omit [CredentialLocker Lo Cr] in
theorem alike_verifyConsent [ConsentVerifier He] :
    Fallible.Alike (SameCredentials credentials) (verifyConsent : Routine Lo He Unit)
      verifyConsent := by
  apply Fallible.Alike.bind (alike_onHello _)
  intro operation
  apply Fallible.Alike.bind (alike_orElse _ operation)
  intro _
  apply Fallible.Alike.bind (alike_onHello _)
  intro result
  apply Fallible.Alike.bind (alike_orElse _ result)
  intro verified
  split
  · exact Fallible.Alike.pure _
  · exact Fallible.Alike.fail _

theorem openVault_run (v : WindowsVault Lo He) :
    openVault v = ((CredentialLocker.new v.locker).1.mapError fun e =>
      .backend s!"credential locker: {e.message}",
        { v with locker := (CredentialLocker.new v.locker).2 }) := rfl

theorem Credentials.alike_openVault (laws : Credentials credentials) :
    Fallible.Alike (SameCredentials credentials) (openVault : Routine Lo He Unit) openVault := by
  apply Fallible.Alike.bind (alike_reads ⟨fun l l' _ => laws.opens l l', laws.new_keeps⟩)
  intro vault
  exact alike_orElse _ vault

theorem Credentials.intact_of_same [ConsentVerifier He] (laws : Credentials credentials)
    {v v' : WindowsVault Lo He} (same : SameCredentials credentials v v') : Intact v v' := by
  constructor
  -- Both readers see the locker only through what it holds.
  · intro id
    have found : Fallible.Alike (SameCredentials credentials)
        (findCredential (accountOf id) : Routine Lo He Cr) (findCredential (accountOf id)) :=
      Fallible.Alike.bind (alike_reads (laws.retrieve _)) fun answer => alike_orElse _ answer
    have both : Fallible.Alike (SameCredentials credentials)
        (Windows.retrieve id : Routine Lo He String) (Windows.retrieve id) := by
      apply Fallible.Alike.bind laws.alike_openVault
      intro _
      apply Fallible.Alike.bind found
      intro credential
      apply Fallible.Alike.bind alike_verifyConsent
      intro _
      apply Fallible.Alike.bind (alike_orElse _ _)
      intro text
      split
      · exact Fallible.Alike.fail _
      · exact Fallible.Alike.pure _
    exact (both v v' same).1.symm
  · have both : Fallible.Alike (SameCredentials credentials)
        (list : Routine Lo He (List EnrolledKey)) list := by
      apply Fallible.Alike.bind laws.alike_openVault
      intro _
      apply Fallible.Alike.bind (alike_reads laws.findAllByResource)
      intro found
      split
      · exact Fallible.Alike.pure _
      · split
        · exact Fallible.Alike.pure _
        · exact Fallible.Alike.fail _
    exact (both v v' same).1.symm

omit [CredentialLocker Lo Cr] in
theorem raises_orElse (failed : HResultError → String) (answer : Except HResultError α) :
    Fallible.Raises (· ≠ .notEnrolled)
      (orElse (fun e => .backend (failed e)) answer : Routine Lo He α) := by
  refine Fallible.Raises.query fun v e refused => ?_
  obtain ⟨reason, _, rfl⟩ := of_mapError_error refused
  simp

omit [CredentialLocker Lo Cr] in
theorem raises_verifyConsent [ConsentVerifier He] :
    Fallible.Raises (· ≠ .notEnrolled) (verifyConsent : Routine Lo He Unit) := by
  have called {β : Type} (op : He → Except HResultError β × He) :
      Fallible.Raises (· ≠ .notEnrolled)
        (onHello op : Routine Lo He (Except HResultError β)) := by
    intro v e v' failed
    simp [onHello, Fallible.within] at failed
  refine Fallible.Raises.bind (called _) fun operation => ?_
  refine Fallible.Raises.bind (raises_orElse _ operation) fun _ => ?_
  refine Fallible.Raises.bind (called _) fun result => ?_
  refine Fallible.Raises.bind (raises_orElse _ result) fun verified => ?_
  split
  · exact Fallible.Raises.pure _
  · exact Fallible.Raises.fail (by simp)

/-- `NotEnrolled` is said where the locker does not find the credential, and nowhere else. -/
theorem retrieve_notEnrolled [ConsentVerifier He] (keyId : String) {v : WindowsVault Lo He} :
    (Windows.retrieve keyId v).1 = .error .notEnrolled ↔
      (CredentialLocker.new v.locker).1 = .ok () ∧ ∃ e,
        (CredentialLocker.retrieve RESOURCE (accountOf keyId)
          (CredentialLocker.new v.locker).2).1 = .error e ∧ e.code = ERROR_NOT_FOUND := by
  -- Behind the credential every error is of another kind.
  have later (credential : Cr) : Fallible.Raises (· ≠ .notEnrolled) (do
      verifyConsent
      let password := CredentialLocker.password Lo credential
      let text ← orElse (fun e => .backend s!"locker password: {e.message}") password
      if text.isEmpty then Fallible.fail (.backend "stored passphrase was empty")
        else return text : Routine Lo He String) := by
    refine Fallible.Raises.bind raises_verifyConsent fun _ => ?_
    refine Fallible.Raises.bind (raises_orElse _ _) fun text => ?_
    split
    · exact Fallible.Raises.fail (by simp)
    · exact Fallible.Raises.pure _
  have opening := openVault_run v
  unfold Windows.retrieve findCredential
  cases opened : (CredentialLocker.new v.locker).1 with
  | error e =>
    rw [opened, mapError_error] at opening
    rw [Fallible.bind_of_error opening]
    simp
  | ok =>
    rw [opened, mapError_ok] at opening
    rw [Fallible.bind_of_ok opening, bind_assoc, Fallible.bind_of_ok (onLocker_run _ _)]
    cases (CredentialLocker.retrieve RESOURCE (accountOf keyId)
        (CredentialLocker.new v.locker).2).1 with
    | error e =>
      by_cases found : e.code = ERROR_NOT_FOUND
      · simp [orElse, Fallible.bind_run, found]
      · simp [orElse, Fallible.bind_run, found]
    | ok credential =>
      simp only [reduceCtorEq, false_and, exists_false, and_false, iff_false]
      intro failed
      exact later credential _ _ _ (Fallible.run_eq failed) rfl

/-- Where the locker opens, `NotEnrolled` means that there is no credential. -/
theorem Credentials.retrieve_notEnrolled_iff [ConsentVerifier He] (laws : Credentials credentials)
    (keyId : String) {v : WindowsVault Lo He} (ready : (CredentialLocker.new v.locker).1 = .ok ()) :
    (Windows.retrieve keyId v).1 = .error .notEnrolled ↔
      credentials v.locker (accountOf keyId) = none := by
  rw [retrieve_notEnrolled, ← laws.new_keeps, ← laws.absent]
  exact and_iff_right ready

/-- What the routines see of the vault. -/
def seen (credentials : Lo → String → Option ε) (v : WindowsVault Lo He) :
    (String → Option ε) × He :=
  (credentials v.locker, v.hello)

omit [CredentialLocker Lo Cr] in
theorem keeps_onLocker {op : Lo → Except HResultError α × Lo}
    (kept : ∀ l, credentials (op l).2 = credentials l) :
    Fallible.Keeps (seen credentials) (onLocker op : Routine Lo He (Except HResultError α)) := by
  intro v
  rw [onLocker_run]
  simp [seen, kept]

/-- The credential of the account is gone when the locker removes it, and nothing else
changes in any case. -/
theorem Effects.removeExisting_run (laws : Effects credentials) (account : String)
    (v : WindowsVault Lo He) :
    ∃ v', removeExisting account v = (.ok (), v') ∧ v'.hello = v.hello ∧
      (Removes account v.locker ∧
          credentials v'.locker = Function.update (credentials v.locker) account none ∨
        ¬ Removes account v.locker ∧ credentials v'.locker = credentials v.locker) := by
  have kept := laws.retrieve_keeps account v.locker
  unfold removeExisting Removes
  rw [Fallible.bind_of_ok (onLocker_run _ v)]
  cases answer : CredentialLocker.retrieve RESOURCE account v.locker with
  | mk found l' =>
    rw [answer] at kept
    cases found with
    -- An entry that is not found, or not removed, is passed over in silence.
    | error e => exact ⟨_, rfl, rfl, Or.inr ⟨by simp, kept⟩⟩
    | ok credential =>
      refine ⟨_, rfl, rfl, ?_⟩
      cases removal : (CredentialLocker.remove credential l').1 with
      | ok _ =>
        exact Or.inl ⟨⟨credential, l', rfl, removal⟩, laws.removed _ _ _ _ answer removal⟩
      | error e =>
        refine Or.inr ⟨?_, (laws.not_removed _ _ e removal).trans kept⟩
        rintro ⟨other, l, same, removed⟩
        simp only [Prod.mk.injEq, Except.ok.injEq] at same
        obtain ⟨rfl, rfl⟩ := same
        simp [removal] at removed

/-- A store that fails has lost the credential that the locker removed, and nothing else. -/
theorem Credentials.store_failed (laws : Credentials credentials) {keyId passphrase : String}
    {v v' : WindowsVault Lo He} {e : BiometricError}
    (failed : store keyId passphrase v = (.error e, v')) :
    v'.hello = v.hello ∧
      (((CredentialLocker.new v.locker).1 = .ok () ∧
          Removes (accountOf keyId) (CredentialLocker.new v.locker).2) ∧
        credentials v'.locker = Function.update (credentials v.locker) (accountOf keyId) none ∨
      ¬((CredentialLocker.new v.locker).1 = .ok () ∧
          Removes (accountOf keyId) (CredentialLocker.new v.locker).2) ∧
        credentials v'.locker = credentials v.locker) := by
  have kept := laws.new_keeps v.locker
  -- A failure to write leaves things as the removal left them.
  have written (account : String) : Fallible.KeepsOnError (seen credentials) (do
      let created ← onLocker (CredentialLocker.createPasswordCredential RESOURCE account passphrase)
      let credential ← orElse (fun e => .backend s!"create credential: {e.message}") created
      let added ← onLocker (CredentialLocker.add credential)
      orElse (fun e => .backend s!"locker write: {e.message}") added : Routine Lo He Unit) := by
    apply Fallible.KeepsOnError.bind (keeps_onLocker (laws.createPasswordCredential account _))
    intro created
    apply Fallible.KeepsOnError.bind (Fallible.Keeps.query _)
    intro credential u e u' failed
    rw [Fallible.bind_of_ok (onLocker_run _ u)] at failed
    simp only [orElse, Fallible.query_run, Prod.mk.injEq] at failed
    obtain ⟨refused, rfl⟩ := failed
    obtain ⟨reason, refused, _⟩ := of_mapError_error refused
    simp [seen, laws.not_added _ _ reason refused]
  unfold store at failed
  rcases Fallible.bind_error_iff.mp failed with shut | ⟨_, v₁, opened, rest⟩
  · rw [openVault_run, Prod.mk.injEq] at shut
    obtain ⟨refused, rfl⟩ := shut
    obtain ⟨reason, refused, _⟩ := of_mapError_error refused
    exact ⟨rfl, Or.inr ⟨by simp [refused], kept⟩⟩
  · rw [openVault_run, Prod.mk.injEq, mapError_eq_ok_iff] at opened
    obtain ⟨ready, rfl⟩ := opened
    obtain ⟨v₂, removal, hello_same, effect⟩ := laws.effects.removeExisting_run (accountOf keyId)
      { v with locker := (CredentialLocker.new v.locker).2 }
    rw [Fallible.bind_of_ok removal] at rest
    have after := written (accountOf keyId) v₂ e v' rest
    simp only [seen, Prod.mk.injEq] at after
    simp only [kept] at effect
    refine ⟨after.2.trans hello_same, ?_⟩
    rw [after.1]
    simpa [ready] using effect

/-- A store that fails leaves the locker as it was, unless it removed a credential. -/
theorem Credentials.store_intact_iff [ConsentVerifier He] (laws : Credentials credentials)
    {keyId passphrase : String} {v v' : WindowsVault Lo He} {e : BiometricError}
    (failed : BiometricVault.store keyId passphrase v = (.error e, v')) :
    Intact v v' ↔ credentials v.locker (accountOf keyId) = none ∨
      ¬((CredentialLocker.new v.locker).1 = .ok () ∧
        Removes (accountOf keyId) (CredentialLocker.new v.locker).2) := by
  obtain ⟨hello_same, ⟨removes, gone⟩ | ⟨stays, same⟩⟩ := laws.store_failed failed
  · -- The credential was there before, and nothing is found after the store.
    have ready : (CredentialLocker.new v'.locker).1 = .ok () :=
      (laws.opens v'.locker v.locker).trans removes.1
    have missing : (Windows.retrieve keyId v').1 = .error .notEnrolled := by
      rw [laws.retrieve_notEnrolled_iff keyId ready, gone, Function.update_self]
    have there := laws.retrieve_notEnrolled_iff keyId removes.1
    simp only [removes, not_true_eq_false, or_false, and_self, ← there]
    constructor
    · intro intact
      exact (intact.retrieved keyId).symm.trans missing
    · intro none_there
      apply laws.intact_of_same
      refine ⟨?_, hello_same.symm⟩
      rw [gone, ← there.mp none_there, Function.update_eq_self]
  · simp only [stays, not_false_eq_true, or_true, iff_true]
    exact laws.intact_of_same ⟨same.symm, hello_same.symm⟩

end Windows
/-! ### The three backends -/

section
variable {Ke De It Kc Lo He Cr ε ζ η : Type} [Linux.SecretService Ke It] [Linux.Fprint De]
  [Macos.Keychain Kc] [Windows.CredentialLocker Lo Cr] [Windows.ConsentVerifier He]
  {entries : Ke → ε} {items : Kc → String → Option ζ} {credentials : Lo → String → Option η}

variable (De He) in
/-- A store that fails leaves the Linux vault as it was. On macOS and Windows it does so
exactly when there was no entry of the key, or the entry was not removed before the write. -/
theorem failed_store_intact_iff (linux : Linux.Entries entries) (macos : Macos.Items items)
    (windows : Windows.Credentials credentials) (keyId passphrase : String) (e : BiometricError) :
    (∀ v v' : Linux.LinuxVault Ke De It,
      BiometricVault.store keyId passphrase v = (.error e, v') → Intact v v') ∧
    (∀ v v' : Macos.MacosVault Kc,
      BiometricVault.store keyId passphrase v = (.error e, v') →
        (Intact v v' ↔ items v.keychain (Macos.accountOf keyId) = none ∨ ∃ code,
          (Macos.Keychain.deleteGenericPassword Macos.SERVICE (Macos.accountOf keyId)
            v.keychain).1 = .error code)) ∧
    ∀ v v' : Windows.WindowsVault Lo He,
      BiometricVault.store keyId passphrase v = (.error e, v') →
        (Intact v v' ↔ credentials v.locker (Windows.accountOf keyId) = none ∨
          ¬((Windows.CredentialLocker.new v.locker).1 = .ok () ∧
            Windows.Removes (Windows.accountOf keyId)
              (Windows.CredentialLocker.new v.locker).2)) :=
  ⟨fun _ _ failed => linux.store_intact failed, fun _ _ failed => macos.store_intact_iff failed,
    fun _ _ failed => windows.store_intact_iff failed⟩

end

/-! ### Stores with room for one entry -/

/-- At most one entry, and whether new ones are taken. -/
private structure OneEntry (σ : Type) where
  slot : Option (String × σ)
  writable : Bool

private def OneEntry.held {σ : Type} (s : OneEntry σ) (account : String) : Option σ :=
  match s.slot with
  | some (there, secret) => if account = there then some secret else none
  | none => none

private theorem OneEntry.slot_eq {σ : Type} {s t : OneEntry σ} (same : s.held = t.held) :
    s.slot = t.slot := by
  have at_s (account : String) := congrFun same account
  cases hs : s.slot with
  | none =>
    cases ht : t.slot with
    | none => rfl
    | some entry => simpa [held, hs, ht] using at_s entry.1
  | some entry =>
    cases ht : t.slot with
    | none => simpa [held, hs, ht] using at_s entry.1
    | some entry' =>
      have first := at_s entry.1
      by_cases account : entry.1 = entry'.1
      · simp only [held, hs, ht, account, if_true, Option.some.injEq] at first
        rw [Prod.ext account first]
      · simp [held, hs, ht, account] at first

private theorem OneEntry.held_emptied {σ : Type} {s : OneEntry σ} {account : String} {secret : σ}
    (there : s.slot = some (account, secret)) :
    OneEntry.held { s with slot := none } = Function.update s.held account none := by
  funext other
  by_cases same : other = account
  · rw [same, Function.update_self]
    rfl
  · rw [Function.update_of_ne same]
    simp [held, there, same]

private theorem OneEntry.slot_of_held {σ : Type} {s : OneEntry σ} {account : String} {secret : σ}
    (there : s.held account = some secret) : s.slot = some (account, secret) := by
  cases hs : s.slot with
  | none => simp [held, hs] at there
  | some entry =>
    by_cases same : account = entry.1
    · simp only [held, hs, same, if_true, Option.some.injEq] at there
      rw [same, ← there]
    · simp [held, hs, same] at there

private instance : Macos.Keychain (OneEntry ByteArray) where
  deleteGenericPassword _ account s :=
    match s.held account with
    | some _ => (.ok (), { s with slot := none })
    | none => (.error Macos.ERR_SEC_ITEM_NOT_FOUND, s)
  setGenericPasswordOptions bytes options s :=
    if s.writable then (.ok (), { s with slot := some (options.account, bytes) })
    else (.error (-34), s)
  genericPassword options s :=
    match s.held options.account with
    | some secret => (.ok secret, s)
    | none => (.error Macos.ERR_SEC_ITEM_NOT_FOUND, s)
  search _ s :=
    match s.slot with
    | some entry => (.ok [.dict (some [("acct", entry.1)])], s)
    | none => (.error Macos.ERR_SEC_ITEM_NOT_FOUND, s)

private theorem keychain_items : Macos.Items (OneEntry.held (σ := ByteArray)) where
  genericPassword account := by
    constructor
    · intro s t same
      simp only [Macos.Keychain.genericPassword, same]
      split <;> rfl
    · intro s
      simp only [Macos.Keychain.genericPassword]
      split <;> rfl
  search := by
    constructor
    · intro s t same
      simp only [Macos.Keychain.search, OneEntry.slot_eq same]
      split <;> rfl
    · intro s
      simp only [Macos.Keychain.search]
      split <;> rfl
  absent account s := by
    simp only [Macos.Keychain.genericPassword, Macos.PasswordOptions.newGenericPassword]
    split <;> simp [*]
  deleted account s removed := by
    simp only [Macos.Keychain.deleteGenericPassword] at removed ⊢
    split at removed
    next secret there => exact OneEntry.held_emptied (OneEntry.slot_of_held there)
    · simp at removed
  not_deleted account s e refused := by
    simp only [Macos.Keychain.deleteGenericPassword] at refused ⊢
    split at refused <;> simp_all
  not_set bytes options s e refused := by
    simp only [Macos.Keychain.setGenericPasswordOptions] at refused ⊢
    split at refused <;> simp_all

private instance : Windows.CredentialLocker (OneEntry String) (String × String) where
  new s := (.ok (), s)
  retrieve _ account s :=
    match s.held account with
    | some secret => (.ok (account, secret), s)
    | none => (.error ⟨Windows.ERROR_NOT_FOUND, "Element not found."⟩, s)
  remove credential s :=
    if s.slot = some credential then (.ok (), { s with slot := none })
    else (.error ⟨Windows.ERROR_NOT_FOUND, "Element not found."⟩, s)
  createPasswordCredential _ account secret s := (.ok (account, secret), s)
  add credential s :=
    if s.writable then (.ok (), { s with slot := some credential })
    else (.error ⟨-2147024784, "There is not enough space on the disk."⟩, s)
  findAllByResource _ s :=
    match s.slot with
    | some entry => (.ok [entry], s)
    | none => (.error ⟨Windows.ERROR_NOT_FOUND, "Element not found."⟩, s)
  userName credential := .ok credential.1
  password credential := .ok credential.2

private theorem locker_credentials : Windows.Credentials (OneEntry.held (σ := String)) where
  opens _ _ := rfl
  new_keeps _ := rfl
  retrieve account := by
    constructor
    · intro s t same
      simp only [Windows.CredentialLocker.retrieve, same]
      split <;> rfl
    · intro s
      simp only [Windows.CredentialLocker.retrieve]
      split <;> rfl
  findAllByResource := by
    constructor
    · intro s t same
      simp only [Windows.CredentialLocker.findAllByResource, OneEntry.slot_eq same]
      split <;> rfl
    · intro s
      simp only [Windows.CredentialLocker.findAllByResource]
      split <;> rfl
  createPasswordCredential _ _ _ := rfl
  absent account s := by
    simp only [Windows.CredentialLocker.retrieve]
    split <;> simp [*]
  removed account credential s s' found removed := by
    simp only [Windows.CredentialLocker.retrieve] at found
    split at found
    next secret there =>
      simp only [Prod.mk.injEq, Except.ok.injEq] at found
      obtain ⟨rfl, rfl⟩ := found
      have slot := OneEntry.slot_of_held there
      simp only [Windows.CredentialLocker.remove, if_pos slot]
      exact OneEntry.held_emptied slot
    · simp at found
  not_removed credential s e refused := by
    simp only [Windows.CredentialLocker.remove] at refused ⊢
    split at refused <;> simp_all
  not_added credential s e refused := by
    simp only [Windows.CredentialLocker.add] at refused ⊢
    split at refused <;> simp_all

/-- A keyring that takes no item. -/
private structure ReadOnly where
  items : List Linux.Item

private instance : Linux.SecretService ReadOnly Linux.Item where
  runtime k := (.ok (), k)
  keyringNew k := (.ok (), k)
  unlock k := (.ok (), k)
  createItem _ _ _ _ k := (.error "read-only file system", k)
  searchItems query k := (.ok (Tagged.search query k.items), k)
  delete _ k := (.error "read-only file system", k)
  itemAttributes item k := (.ok item.attributes, k)
  itemSecret item k := (.ok item.secret, k)
  inTime _ := true

private theorem readOnly_entries : Linux.Entries ReadOnly.items where
  runtime := ⟨fun _ _ _ => rfl, fun _ => rfl⟩
  keyringNew := ⟨fun _ _ _ => rfl, fun _ => rfl⟩
  unlock := ⟨fun _ _ _ => rfl, fun _ => rfl⟩
  searchItems query :=
    ⟨fun _ _ same => by simp only [Linux.SecretService.searchItems, same], fun _ => rfl⟩
  itemAttributes _ := ⟨fun _ _ _ => rfl, fun _ => rfl⟩
  itemSecret _ := ⟨fun _ _ _ => rfl, fun _ => rfl⟩
  not_created _ _ _ _ _ _ _ := rfl

/-- A user who is always there. -/
private structure Present where

private instance : Windows.ConsentVerifier Present where
  checkAvailability h := (.ok (), h)
  availability h := (.ok true, h)
  requestVerification _ h := (.ok (), h)
  verification h := (.ok true, h)

private def keyA : String := keyIdFromFingerprint "SHA256:AAAA"

private theorem accountOf_keyA :
    Macos.accountOf keyA = "SHA256:AAAA" ∧ Windows.accountOf keyA = "SHA256:AAAA" :=
  ⟨fingerprintOf_keyIdFromFingerprint _, fingerprintOf_keyIdFromFingerprint _⟩

/-- The key is enrolled already. -/
private def readOnlyLinux : Linux.LinuxVault ReadOnly Linux.RefDevice Linux.Item :=
  ⟨⟨[⟨Linux.attributes keyA, "old".toUTF8⟩]⟩, ⟨[.ok ⟨"verify-match", true⟩], true⟩, false, []⟩

private def fullMacos (slot : Option (String × ByteArray)) :
    Macos.MacosVault (OneEntry ByteArray) :=
  ⟨⟨slot, false⟩⟩

private def fullWindows (slot : Option (String × String)) :
    Windows.WindowsVault (OneEntry String) Present :=
  ⟨⟨slot, false⟩, ⟨⟩⟩

private theorem readOnlyLinux_store : ∃ e v',
    BiometricVault.store keyA "pass" readOnlyLinux = (.error e, v') :=
  ⟨_, _, rfl⟩

private theorem fullMacos_store (slot : Option (String × ByteArray)) : ∃ e v',
    BiometricVault.store keyA "pass" (fullMacos slot) = (.error e, v') := by
  -- Removing an entry makes no room.
  have full : (Macos.Keychain.deleteGenericPassword Macos.SERVICE (Macos.accountOf keyA)
      (fullMacos slot).keychain).2.writable = false := by
    simp only [Macos.Keychain.deleteGenericPassword]
    split <;> rfl
  show ∃ e v', Macos.store keyA "pass" (fullMacos slot) = (.error e, v')
  unfold Macos.store
  rw [Fallible.bind_of_ok (Macos.onKeychain_run _ _)]
  simp only [Fallible.bind_run, Macos.onKeychain_run, Macos.orMapped, Fallible.query_run,
    Macos.Keychain.setGenericPasswordOptions, full, Bool.false_eq_true, if_false]
  exact ⟨_, _, rfl⟩

private theorem fullWindows_store (slot : Option (String × String)) : ∃ e v',
    BiometricVault.store keyA "pass" (fullWindows slot) = (.error e, v') := by
  have removal : ∃ slot', (Windows.removeExisting (Windows.accountOf keyA) :
      Windows.Routine (OneEntry String) Present Unit) (fullWindows slot) =
        (.ok (), fullWindows slot') := by
    unfold Windows.removeExisting
    rw [Fallible.bind_of_ok (Windows.onLocker_run _ _)]
    simp only [Windows.CredentialLocker.retrieve]
    cases there : (fullWindows slot).locker.held (Windows.accountOf keyA) with
    | none => exact ⟨slot, rfl⟩
    | some secret =>
      have found := OneEntry.slot_of_held there
      refine ⟨none, ?_⟩
      simp only [Fallible.bind_run, Windows.onLocker_run, Windows.CredentialLocker.remove,
        if_pos found]
      rfl
  obtain ⟨slot', removal⟩ := removal
  have opened : (Windows.openVault : Windows.Routine (OneEntry String) Present Unit)
      (fullWindows slot) = (.ok (), fullWindows slot) := rfl
  show ∃ e v', Windows.store keyA "pass" (fullWindows slot) = (.error e, v')
  unfold Windows.store
  rw [Fallible.bind_of_ok opened, Fallible.bind_of_ok removal]
  exact ⟨_, _, rfl⟩

/-- The entry of the key stays in the keyring, and that of another key in the two stores that
hold nothing of this one. -/
theorem failed_store_intact_others :
    Intact readOnlyLinux (BiometricVault.store keyA "pass" readOnlyLinux).2 ∧
      Intact (fullMacos (some ("SHA256:BBBB", "other".toUTF8)))
        (BiometricVault.store keyA "pass" (fullMacos (some ("SHA256:BBBB", "other".toUTF8)))).2 ∧
      Intact (fullWindows (some ("SHA256:BBBB", "other")))
        (BiometricVault.store keyA "pass" (fullWindows (some ("SHA256:BBBB", "other")))).2 := by
  obtain ⟨e₁, v₁, linux⟩ := readOnlyLinux_store
  obtain ⟨e₂, v₂, macos⟩ := fullMacos_store (some ("SHA256:BBBB", "other".toUTF8))
  obtain ⟨e₃, v₃, windows⟩ := fullWindows_store (some ("SHA256:BBBB", "other"))
  have laws := failed_store_intact_iff Linux.RefDevice Present readOnly_entries keychain_items
    locker_credentials keyA "pass"
  have macos_none : (fullMacos (some ("SHA256:BBBB", "other".toUTF8))).keychain.held
      (Macos.accountOf keyA) = none := by
    rw [accountOf_keyA.1]
    simp [fullMacos, OneEntry.held]
  have windows_none : (fullWindows (some ("SHA256:BBBB", "other"))).locker.held
      (Windows.accountOf keyA) = none := by
    rw [accountOf_keyA.2]
    simp [fullWindows, OneEntry.held]
  rw [linux, macos, windows]
  exact ⟨(laws e₁).1 _ _ linux, ((laws e₂).2.1 _ _ macos).mpr (Or.inl macos_none),
    ((laws e₃).2.2 _ _ windows).mpr (Or.inl windows_none)⟩

/-- Where writes fail, storing the passphrase of an enrolled key anew loses the enrolment. -/
theorem failed_store_loses_entry :
    (∃ e v', BiometricVault.store keyA "pass" (fullMacos (some ("SHA256:AAAA", "old".toUTF8))) =
        (.error e, v') ∧ ¬ Intact (fullMacos (some ("SHA256:AAAA", "old".toUTF8))) v') ∧
      ∃ e v', BiometricVault.store keyA "pass" (fullWindows (some ("SHA256:AAAA", "old"))) =
        (.error e, v') ∧ ¬ Intact (fullWindows (some ("SHA256:AAAA", "old"))) v' := by
  constructor
  · obtain ⟨e, v', failed⟩ := fullMacos_store (some ("SHA256:AAAA", "old".toUTF8))
    refine ⟨e, v', failed, ?_⟩
    rw [keychain_items.store_intact_iff failed, accountOf_keyA.1]
    simp [fullMacos, OneEntry.held, Macos.Keychain.deleteGenericPassword]
  · obtain ⟨e, v', failed⟩ := fullWindows_store (some ("SHA256:AAAA", "old"))
    refine ⟨e, v', failed, ?_⟩
    rw [locker_credentials.store_intact_iff failed, accountOf_keyA.2]
    have removes : Windows.Removes "SHA256:AAAA"
        (⟨some ("SHA256:AAAA", "old"), false⟩ : OneEntry String) :=
      ⟨("SHA256:AAAA", "old"), _, rfl, rfl⟩
    rintro (none_there | stays)
    · simp [fullWindows, OneEntry.held] at none_there
    · exact stays ⟨rfl, removes⟩

end Gitway.Biometric
