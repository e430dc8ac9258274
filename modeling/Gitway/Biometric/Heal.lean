import Gitway.Biometric.Backend
import Gitway.Agent.Load
import Gitway.Reference
import Gitway.Lib.Runs

/-!
# The self-heal

An automatic unlock that ends in `Stale` has asked the keystore to delete the entry and
has not looked at the answer. The three callers report the entry as removed.
-/
namespace Gitway.Biometric

open Lib

variable {Priv Pub Ag Va Te : Type} [PublicKey Pub] [PrivateKey Priv Pub] [BiometricBackend Va]

/-! ### One automatic unlock -/

/-- The keystore deletes the entry of the key after it was asked for it. -/
def Deletes (key : Priv) (vault : Va) : Prop :=
  (BiometricVault.delete (keyId key) (BiometricVault.retrieve (keyId key) vault).2).1 = .ok ()

section
variable {secretOf : Va → String → Option String} {key : Priv} {w : World Ag Va Te}

theorem stale_entry (laws : Keystore secretOf)
    (stale : (autoUnlockPassphrase key w).1 = .ok .stale) :
    ∃ pass, secretOf w.vault (keyId key) = some pass := by
  rcases autoUnlockPassphrase_cases key w with
    ⟨e, _, ran⟩ | ⟨pass, plain, _, _, ran⟩ | ⟨pass, e, asked, _, _⟩
  · simp [ran] at stale
  · simp [ran] at stale
  · exact ⟨pass, laws.retrieved w.vault (keyId key) pass asked⟩

/-- The entry is gone after a stale unlock exactly when deleting it succeeded. -/
theorem stale_gone_iff (laws : Keystore secretOf)
    (stale : (autoUnlockPassphrase key w).1 = .ok .stale) :
    secretOf (autoUnlockPassphrase key w).2.vault (keyId key) = none ↔ Deletes key w.vault := by
  obtain ⟨stored, entry⟩ := stale_entry laws stale
  rcases autoUnlockPassphrase_cases key w with
    -- Only the third case ends in `Stale`.
    ⟨e, _, ran⟩ | ⟨pass, plain, _, _, ran⟩ | ⟨pass, e, _, _, ran⟩
  · simp [ran] at stale
  · simp [ran] at stale
  · rw [ran]
    unfold Deletes
    cases answer : (BiometricVault.delete (keyId key)
        (BiometricVault.retrieve (keyId key) w.vault).2).1 with
    | ok => simp [laws.deleted _ _ answer]
    | error reason =>
      -- The entry that was retrieved is still there.
      simp [laws.not_deleted _ _ reason answer, laws.retrieve_keeps, entry]

/-- An automatic unlock touches at most the entry of its key, and only to delete a secret
that was released and opened nothing. -/
theorem unlock_entry (laws : Keystore secretOf) (key : Priv) (w : World Ag Va Te) (id : String) :
    secretOf (autoUnlockPassphrase key w).2.vault id = secretOf w.vault id ∨
      id = keyId key ∧ secretOf (autoUnlockPassphrase key w).2.vault id = none ∧
        Deletes key w.vault ∧ ∃ pass e,
          (BiometricVault.retrieve (keyId key) w.vault).1 = .ok pass ∧
            PrivateKey.decrypt key pass = .error e := by
  have asked := laws.retrieve_keeps w.vault (keyId key)
  rcases autoUnlockPassphrase_cases key w with
    ⟨e, _, ran⟩ | ⟨pass, plain, _, _, ran⟩ | ⟨pass, e, released, refused, ran⟩
  · rw [ran]
    exact Or.inl (congrFun asked id)
  · rw [ran]
    exact Or.inl (congrFun asked id)
  · rw [ran]
    cases answer : (BiometricVault.delete (keyId key)
        (BiometricVault.retrieve (keyId key) w.vault).2).1 with
    | error reason =>
      left
      rw [laws.not_deleted _ _ reason answer]
      exact congrFun asked id
    | ok =>
      -- Deleting takes out one entry; the others are looked up as before.
      rw [laws.deleted _ _ answer]
      by_cases same : id = keyId key
      · subst same
        exact Or.inr ⟨rfl, Function.update_self .., answer, pass, e, released, refused⟩
      · rw [Function.update_of_ne same]
        exact Or.inl (congrFun asked id)

end

/-! ### The three callers -/

inductive Caller where
  | agentAdd
  | shimAdd
  /-- The passphrase of a connection. -/
  | connection
  deriving DecidableEq, Repr

def Caller.tool : Caller → String
  | .agentAdd | .connection => "gitway"
  | .shimAdd => "gitway-add"

/-- What a caller prints when the outcome is `Stale`. -/
def Caller.staleMessage (caller : Caller) (path : String) : String :=
  s!"{caller.tool}: stored biometric passphrase no longer decrypts {path} — " ++
    "removed stale enrollment"

/-- Whether the caller unlocks this key automatically. Two of them leave a key alone that
is not encrypted. -/
def Caller.Asks (caller : Caller) (key : Priv) : Prop :=
  caller = .connection ∨ PrivateKey.isEncrypted key = true

variable [Terminal Te]

/-- The world after the caller loaded the key of a file in the automatic mode. -/
def Caller.load (caller : Caller) (path : String) (key : Priv) (w : World Ag Va Te) :
    World Ag Va Te :=
  match caller with
  | .agentAdd => (Agent.loadPrivateKey path key .auto w).2
  | .shimAdd => (Agent.loadAndDecrypt path key .auto w).2
  | .connection => (Prompt.promptPassphrase Priv path w).2

/-- The keystore and the messages. -/
def told (w : World Ag Va Te) : Va × List String := (w.vault, w.stderr)

omit [PublicKey Pub] [PrivateKey Priv Pub] [BiometricBackend Va] [Terminal Te] in
theorem aside_told : Program.Aside (told : World Ag Va Te → _) := ⟨fun _ _ => rfl, fun _ _ => rfl⟩

/-- What a load leaves behind: the keystore after the automatic unlock, and the message. -/
structure Reports (caller : Caller) (path : String) (key : Priv) (w : World Ag Va Te) : Prop where
  vault : (caller.load path key w).vault = (autoUnlockPassphrase key w).2.vault
  message : (autoUnlockPassphrase key w).1 = .ok .stale →
    (caller.load path key w).stderr = w.stderr ++ [caller.staleMessage path]

omit [Terminal Te] in
private theorem told_after_unlock {α : Type} (key : Priv) (w : World Ag Va Te) {message : String}
    (x : AutoUnlock → Program Ag Va Te α) {asks : Program Ag Va Te α}
    (asked : Fallible.Keeps told asks) (given : ∀ pass, Fallible.Keeps told (x (.passphrase pass)))
    (fallback : Fallible.Keeps told (x .fallback))
    (stale : x .stale = (Program.eprintln message >>= fun _ => asks)) :
    ((autoUnlockPassphrase key >>= x) w).2.vault = (autoUnlockPassphrase key w).2.vault ∧
      ((autoUnlockPassphrase key w).1 = .ok .stale →
        ((autoUnlockPassphrase key >>= x) w).2.stderr = w.stderr ++ [message]) := by
  obtain ⟨outcome, vault, ran, _⟩ := autoUnlockPassphrase_spec key w
  rw [Fallible.bind_of_ok ran, ran]
  cases outcome with
  -- In every case what follows the unlock leaves keystore and messages alone, but for the message.
  | passphrase pass => exact ⟨congrArg Prod.fst (given pass _), by simp⟩
  | fallback => exact ⟨congrArg Prod.fst (fallback _), by simp⟩
  | stale =>
    rw [stale, Fallible.bind_of_ok (Program.eprintln_run _ _)]
    have same := asked { w with vault := vault, stderr := w.stderr ++ [message] }
    exact ⟨congrArg Prod.fst same, fun _ => congrArg Prod.snd same⟩

omit [Terminal Te] in
private theorem loadKey_told {tool : String} {prompt : String → Program Ag Va Te String}
    {decryptFailed : String → String → String} {path : String} {key : Priv} {w : World Ag Va Te}
    (told_prompt : Fallible.Keeps told (prompt path))
    (encrypted : PrivateKey.isEncrypted key = true) :
    (Agent.loadKey tool prompt decryptFailed path key .auto w).2.vault =
        (autoUnlockPassphrase key w).2.vault ∧
      ((autoUnlockPassphrase key w).1 = .ok .stale →
        (Agent.loadKey tool prompt decryptFailed path key .auto w).2.stderr = w.stderr ++
          [s!"{tool}: stored biometric passphrase no longer decrypts {path} — " ++
            "removed stale enrollment"]) := by
  let decrypt (pass : String) : Program Ag Va Te Priv :=
    Fallible.query fun _ => (PrivateKey.decrypt key pass).mapError fun e =>
      .signing (decryptFailed path e)
  have asked : Fallible.Keeps told (prompt path >>= decrypt) :=
    Fallible.Keeps.bind told_prompt fun _ => Fallible.Keeps.query _
  unfold Agent.loadKey
  rw [encrypted]
  exact told_after_unlock key w _ asked (fun pass => Fallible.Keeps.query _) asked rfl

/-- What `promptPassphrase` does after the automatic unlock. -/
def connectionGoesOn (path : String) : AutoUnlock → Program Ag Va Te String
  | .passphrase passphrase => pure passphrase
  | .stale => do
    Program.eprintln (Caller.connection.staleMessage path)
    Prompt.promptPassphraseInteractive path
  | .fallback => Prompt.promptPassphraseInteractive path

/-- Every caller leaves the keystore as the automatic unlock left it, and reports a stale
entry as removed. -/
theorem load_reports {caller : Caller} {path : String} {key : Priv} {w : World Ag Va Te}
    (there : keyAt Priv w.fs path = some key) (asks : caller.Asks key) :
    Reports caller path key w := by
  have told_prompt : Fallible.Keeps told
      (Prompt.promptPassphraseInteractive path : Program Ag Va Te String) :=
    Prompt.keeps_promptPassphraseInteractive aside_told path
  cases caller with
  | agentAdd =>
    obtain ⟨vault, message⟩ := loadKey_told told_prompt (asks.resolve_left (by simp))
    exact ⟨vault, message⟩
  | shimAdd =>
    have told_shim : Fallible.Keeps told
        (Agent.shimPromptPassphrase path : Program Ag Va Te String) :=
      Agent.keeps_shimPromptPassphrase aside_told path
    obtain ⟨vault, message⟩ := loadKey_told told_shim (asks.resolve_left (by simp))
    exact ⟨vault, message⟩
  | connection =>
    have asked_first : Prompt.promptPassphrase Priv path w =
        (autoUnlockPassphrase key >>= connectionGoesOn path) w := by
      obtain ⟨outcome, vault, ran, _⟩ := autoUnlockPassphrase_spec key w
      unfold Prompt.promptPassphrase Prompt.biometricAutoUnlock
      rw [bind_assoc, Fallible.bind_of_ok (Program.readKey_run w path), there]
      rw [bind_assoc, Fallible.bind_of_ok ran, Fallible.bind_of_ok ran]
      -- The two functions of the source nest their matches; the outcome unfolds both.
      cases outcome <;> rfl
    obtain ⟨vault, message⟩ := told_after_unlock key w (connectionGoesOn path) told_prompt
      (fun pass => Fallible.Keeps.pure _) told_prompt rfl
    constructor
    · show (Prompt.promptPassphrase Priv path w).2.vault = _
      rw [asked_first]
      exact vault
    · show _ → (Prompt.promptPassphrase Priv path w).2.stderr = _
      rw [asked_first]
      exact message

/-! ### Runs -/

inductive Event (Priv : Type) where
  | load (caller : Caller) (path : String) (key : Priv) (outcome : AutoUnlock)
  | store (id pass : String)
  | delete (id : String)
  | list
  | outside

/-- A load in the automatic mode that ended in `Stale`, for this identifier. -/
def Event.isStale (id : String) : Event Priv → Bool
  | .load _ _ key .stale => keyId key == id
  | _ => false

def Event.isStore (id : String) : Event Priv → Bool
  | .store i _ => i == id
  | _ => false

/-- The accesses to the keystore, by whatever command, and what happens beside them. -/
inductive Evolves : World Ag Va Te → Event Priv → World Ag Va Te → Prop where
  | load {caller : Caller} {path : String} {key : Priv} {w : World Ag Va Te} {outcome : AutoUnlock}
    (there : keyAt Priv w.fs path = some key) (asks : caller.Asks key)
    (answer : (autoUnlockPassphrase key w).1 = .ok outcome) :
    Evolves w (.load caller path key outcome) (caller.load path key w)
  | store (id pass : String) (w : World Ag Va Te) :
    Evolves w (.store id pass) { w with vault := (BiometricVault.store id pass w.vault).2 }
  | delete (id : String) (w : World Ag Va Te) :
    Evolves w (.delete id) { w with vault := (BiometricVault.delete id w.vault).2 }
  | list (w : World Ag Va Te) :
    Evolves w .list { w with vault := (BiometricBackend.list w.vault).2 }
  | outside {w w' : World Ag Va Te} (same : w'.vault = w.vault) : Evolves w .outside w'

/-- The keystore deletes the entry of a stale load. -/
def Heals (w : World Ag Va Te) : Event Priv → Prop
  | .load _ _ key .stale => Deletes key w.vault
  | _ => True

section
variable {secretOf : Va → String → Option String} {id : String}

/-- Step lemma: nothing but a store brings an entry in. -/
theorem absent_kept (laws : Keystore secretOf) {w w' : World Ag Va Te} {e : Event Priv}
    (step : Evolves w e w') (no_store : e.isStore id = false)
    (absent : secretOf w.vault id = none) : secretOf w'.vault id = none := by
  cases step with
  | @load caller path key _ outcome there asks answer =>
    rw [(load_reports there asks).vault]
    rcases unlock_entry laws key w id with same | ⟨_, gone, _⟩
    · exact same.trans absent
    · exact gone
  | store i pass =>
    -- The store is one for another identifier.
    have other : id ≠ i := by
      rintro rfl
      simp [Event.isStore] at no_store
    cases answer : (BiometricVault.store i pass w.vault).1 with
    | ok =>
      rw [laws.stored _ _ _ answer, Function.update_of_ne other]
      exact absent
    | error reason =>
      rw [laws.not_stored _ _ _ reason answer]
      exact absent
  | delete i =>
    cases answer : (BiometricVault.delete i w.vault).1 with
    | ok =>
      rw [laws.deleted _ _ answer]
      by_cases same : id = i
      · rw [same, Function.update_self]
      · rw [Function.update_of_ne same]
        exact absent
    | error reason =>
      rw [laws.not_deleted _ _ reason answer]
      exact absent
  | list =>
    rw [laws.list_keeps]
    exact absent
  | outside same =>
    rw [same]
    exact absent

theorem absent_not_stale (laws : Keystore secretOf) {w w' : World Ag Va Te} {e : Event Priv}
    (step : Evolves w e w') (absent : secretOf w.vault id = none) : e.isStale id = false := by
  cases step with
  | @load caller path key _ outcome there asks answer =>
    cases outcome with
    | stale =>
      -- A stale outcome needs a secret, so it is about another key.
      obtain ⟨pass, entry⟩ := stale_entry laws answer
      have other : keyId key ≠ id := by
        rintro rfl
        simp [absent] at entry
      simp [Event.isStale, other]
    | passphrase pass => rfl
    | fallback => rfl
  | store => rfl
  | delete => rfl
  | list => rfl
  | outside => rfl

/-- A stale load that heals leaves no entry. -/
theorem stale_healed (laws : Keystore secretOf) {w w' : World Ag Va Te} {e : Event Priv}
    (step : Evolves w e w') (heals : Heals w e) (stale : e.isStale id = true) :
    secretOf w'.vault id = none := by
  cases step with
  | @load caller path key _ outcome there asks answer =>
    cases outcome with
    | stale =>
      have same : keyId key = id := by simpa [Event.isStale] using stale
      rw [(load_reports there asks).vault, ← same]
      exact (stale_gone_iff laws answer).mpr heals
    | passphrase pass => simp [Event.isStale] at stale
    | fallback => simp [Event.isStale] at stale
  | store => simp [Event.isStale] at stale
  | delete => simp [Event.isStale] at stale
  | list => simp [Event.isStale] at stale
  | outside => simp [Event.isStale] at stale

/-- Without a store no load of an absent entry ends in `Stale`. -/
theorem absent_no_stale (laws : Keystore secretOf) {w w' : World Ag Va Te}
    {es : List (Event Priv)} (run : Run Evolves w es w')
    (no_store : ∀ e ∈ es, e.isStore id = false) (absent : secretOf w.vault id = none) :
    es.countP (Event.isStale id) = 0 := by
  induction run with
  | nil w => rfl
  | @cons w v u e es first rest ih =>
    -- The entry is absent at the start of every step.
    have after := absent_kept laws first (no_store e List.mem_cons_self) absent
    have later := ih (fun e member => no_store e (List.mem_cons_of_mem _ member)) after
    rw [List.countP_cons_of_neg (by simp [absent_not_stale laws first absent]), later]

/-- Run lemma: when the stale loads heal, one identifier is stale at most once. -/
theorem stale_at_most_once (laws : Keystore secretOf) {w w' : World Ag Va Te}
    {es : List (Event Priv)} (run : Run (fun w e w' => Heals w e ∧ Evolves w e w') w es w')
    (no_store : ∀ e ∈ es, e.isStore id = false) : es.countP (Event.isStale id) ≤ 1 := by
  induction run with
  | nil w => simp
  | @cons w v u e es first rest ih =>
    have later (e : Event Priv) (member : e ∈ es) : e.isStore id = false :=
      no_store e (List.mem_cons_of_mem _ member)
    cases stale : e.isStale id with
    | false =>
      rw [List.countP_cons_of_neg (by simp [stale])]
      exact ih later
    | true =>
      -- The entry is gone after the first stale load, and nothing stores it again.
      have gone := stale_healed laws first.2 first.1 stale
      have none_left := absent_no_stale laws (rest.mono fun _ _ _ step => step.2) later gone
      rw [List.countP_cons_of_pos (by simp [stale]), none_left]

end

/-- After an automatic unlock that ended in `Stale` the entry is gone exactly when the
keystore deleted it, and the callers say that it is gone in either case. Runs whose stale
loads heal have at most one stale load of an identifier between two stores for it. -/
theorem stale_removed_iff {secretOf : Va → String → Option String} (laws : Keystore secretOf) :
    (∀ (key : Priv) (w : World Ag Va Te), (autoUnlockPassphrase key w).1 = .ok .stale →
      (secretOf (autoUnlockPassphrase key w).2.vault (keyId key) = none ↔
        Deletes key w.vault)) ∧
      (∀ (caller : Caller) path (key : Priv) (w : World Ag Va Te),
        keyAt Priv w.fs path = some key → caller.Asks key →
          (autoUnlockPassphrase key w).1 = .ok .stale →
            (caller.load path key w).stderr = w.stderr ++ [caller.staleMessage path] ∧
              (secretOf (caller.load path key w).vault (keyId key) = none ↔
                Deletes key w.vault)) ∧
      ∀ (w w' : World Ag Va Te) (es : List (Event Priv)) (id : String),
        Run (fun w e w' => Heals w e ∧ Evolves w e w') w es w' →
          (∀ e ∈ es, e.isStore id = false) → es.countP (Event.isStale id) ≤ 1 := by
  refine ⟨?_, ?_, ?_⟩
  · intro key w stale
    exact stale_gone_iff laws stale
  · intro caller path key w there asks stale
    have after := load_reports there asks
    refine ⟨after.message stale, ?_⟩
    rw [after.vault]
    exact stale_gone_iff laws stale
  · intro w w' es id run no_store
    exact stale_at_most_once laws run no_store

/-! ### A keystore that may refuse to delete -/

open Reference

structure LockableVault where
  locked : Bool
  secrets : List (String × String)

instance : BiometricBackend LockableVault where
  store id pass vault := (.ok (), { vault with secrets := (id, pass) :: vault.secrets })
  retrieve id vault :=
    match vault.secrets.lookup id with
    | some pass => (.ok pass, vault)
    | none => (.error .notEnrolled, vault)
  delete id vault :=
    if vault.locked then (.error (.backend "keyring delete: the collection is locked"), vault)
    else (.ok (), { vault with secrets := vault.secrets.filter fun e => e.1 ≠ id })
  isAvailable _ := true
  bindingTier _ := .advisory
  list vault := (.ok (vault.secrets.map fun e => ⟨fingerprintOf e.1, none⟩), vault)

def LockableVault.secretOf (vault : LockableVault) (id : String) : Option String :=
  vault.secrets.lookup id

private theorem lookup_filter_ne (secrets : List (String × String)) (id other : String) :
    (secrets.filter fun e => e.1 ≠ id).lookup other =
      if other = id then none else secrets.lookup other := by
  induction secrets with
  | nil => simp
  | cons e secrets ih =>
    obtain ⟨i, pass⟩ := e
    by_cases kept : i = id
    · subst kept
      rw [List.filter_cons_of_neg (by simp), ih]
      by_cases same : other = i
      · simp [same]
      · simp [same, List.lookup_cons, beq_eq_false_iff_ne.mpr same]
    · rw [List.filter_cons_of_pos (by simpa using kept), List.lookup_cons, List.lookup_cons, ih]
      cases hit : other == i with
      | false => simp
      | true =>
        have same : other = i := by simpa using hit
        simp [same, kept]

theorem lockableVault_keystore : Keystore LockableVault.secretOf where
  stored vault id pass _ := by
    funext other
    by_cases same : other = id
    · rw [same, Function.update_self]
      simp [LockableVault.secretOf, BiometricVault.store]
    · rw [Function.update_of_ne same]
      simp [LockableVault.secretOf, BiometricVault.store, List.lookup_cons,
        beq_eq_false_iff_ne.mpr same]
  not_stored vault id pass e failed := by simp [BiometricVault.store] at failed
  retrieved vault id pass given := by
    simp only [BiometricVault.retrieve] at given
    split at given
    next found => simpa [LockableVault.secretOf, found] using given
    · simp at given
  retrieve_keeps vault id := by
    simp only [BiometricVault.retrieve]
    split <;> rfl
  deleted vault id done := by
    simp only [BiometricVault.delete] at done ⊢
    split at done
    · simp at done
    next unlocked =>
      rw [if_neg unlocked]
      funext other
      rw [Function.update_apply]
      exact lookup_filter_ne vault.secrets id other
  not_deleted vault id e failed := by
    simp only [BiometricVault.delete] at failed ⊢
    split at failed
    next locked => rw [if_pos locked]
    · simp at failed
  list_keeps vault := rfl

private def changedKey : RefPrivate := ⟨⟨"AAAA"⟩, some "new"⟩

/-- The key was enrolled before its passphrase was changed, and is to be loaded. -/
private def changed (locked : Bool) : World RefAgent LockableVault RefTerminal where
  env := environment []
  fs := textFiles [("id", "openssh-key-v1 AAAA aes256-ctr new")]
  agent := ⟨false, []⟩
  vault := ⟨locked, [("gitway:ssh:SHA256:AAAA", "old")]⟩
  terminal := ⟨["new", "new"]⟩
  stdin := .ok ByteArray.empty
  stdout := []
  stderr := []
  signals := []

private theorem changed_file (locked : Bool) :
    keyAt RefPrivate (changed locked).fs "id" = some changedKey :=
  keyAt_of_parsed (readToString_textFiles _ "id" "openssh-key-v1 AAAA aes256-ctr new" rfl) rfl

/-- A keystore that deletes: the stale entry is gone after the load. -/
theorem stale_removed_unlocked :
    Keystore LockableVault.secretOf ∧
      (Caller.agentAdd.load "id" changedKey (changed false)).vault.secretOf
        (keyId changedKey) = none :=
  ⟨lockableVault_keystore,
    ((stale_removed_iff lockableVault_keystore).2.1 .agentAdd "id" changedKey (changed false)
      (changed_file false) (Or.inr rfl) rfl).2.mpr rfl⟩

/-- A keystore that is locked when it is to delete: two loads in a row raise the prompt,
end in `Stale` and report the entry as removed, and it is still there. -/
theorem stale_entry_stays :
    ∃ w w' : World RefAgent LockableVault RefTerminal, w.vault.secrets = [] ∧
      Run Evolves w [.store "gitway:ssh:SHA256:AAAA" "old", .outside,
        .load .agentAdd "id" changedKey .stale, .load .connection "id" changedKey .stale] w' ∧
      w'.vault.secretOf (keyId changedKey) = some "old" ∧
      w'.stderr = [Caller.agentAdd.staleMessage "id", Caller.connection.staleMessage "id"] := by
  let empty : World RefAgent LockableVault RefTerminal :=
    { changed true with
      fs := textFiles [("id", "openssh-key-v1 AAAA aes256-ctr old")]
      vault := ⟨true, []⟩ }
  let once := Caller.agentAdd.load "id" changedKey (changed true)
  have there : keyAt RefPrivate once.fs "id" = some changedKey := changed_file true
  refine ⟨empty, Caller.connection.load "id" changedKey once, rfl, ?_, rfl, rfl⟩
  have stored : Evolves empty (.store "gitway:ssh:SHA256:AAAA" "old" : Event RefPrivate)
      { empty with vault := ⟨true, [("gitway:ssh:SHA256:AAAA", "old")]⟩ } := Evolves.store _ _ _
  have replaced : Evolves
      { empty with vault := ⟨true, [("gitway:ssh:SHA256:AAAA", "old")]⟩ }
      (.outside : Event RefPrivate) (changed true) := Evolves.outside rfl
  have first : Evolves (changed true) (.load .agentAdd "id" changedKey .stale) once :=
    Evolves.load (changed_file true) (Or.inr rfl) rfl
  have second : Evolves once (.load .connection "id" changedKey .stale)
      (Caller.connection.load "id" changedKey once) := Evolves.load there (Or.inl rfl) rfl
  exact Run.cons stored (Run.cons replaced (Run.cons first (Run.cons second (Run.nil _))))

end Gitway.Biometric
