import Gitway.Agent.Load
import Gitway.Biometric.Recorded
import Gitway.Reference

/-!
# Biometric unlock only adds

A key that loads with `--no-biometric` loads in the other modes too, whatever the
keystore holds and however its operations end. With `--no-biometric` the keystore is
not even asked.
-/
namespace Gitway.Agent

open Lib Biometric

variable {Priv Pub Ag Te : Type} [PublicKey Pub] [PrivateKey Priv Pub]

omit [PublicKey Pub] in
private theorem decryptWith_ok {Va : Type} {decryptFailed : String → String → String}
    {path pass : String} {key plain : Priv} {w w' : World Ag Va Te}
    (opened : (Fallible.query fun _ => (PrivateKey.decrypt key pass).mapError fun e =>
      .signing (decryptFailed path e) : Program Ag Va Te Priv) w = (.ok plain, w')) :
    PrivateKey.decrypt key pass = .ok plain := by
  simp only [Fallible.query_run, Prod.mk.injEq] at opened
  exact mapError_eq_ok_iff.mp opened.1

section
variable {Va Vb : Type} [BiometricVault Va] [BiometricVault Vb] {tool : String}
  {prompt : String → Program Ag Va Te String} {prompt' : String → Program Ag Vb Te String}
  {decryptFailed : String → String → String}

/-- In the disabled mode the keystore plays no part. -/
theorem loadKey_disabled_blind {vault : Vb} {stderr : List String}
    (prompts : ∀ path, Fallible.Alike (Program.Exchanged vault stderr)
      (prompt path) (prompt' path)) (path : String) (key : Priv) :
    Fallible.Alike (Program.Exchanged vault stderr)
      (loadKey tool prompt decryptFailed path key .disabled)
      (loadKey tool prompt' decryptFailed path key .disabled) := by
  unfold loadKey
  split
  · exact Fallible.Alike.pure _
  · apply Fallible.Alike.bind (prompts path)
    intro pass
    exact Fallible.Alike.query fun _ _ _ => rfl

/-- What the typed passphrase opens, every mode opens. -/
theorem loadKey_additive (unique : DecryptUnique Priv)
    (prompts : ∀ (vault : Va) stderr path,
      Fallible.Alike (Program.Exchanged vault stderr) (prompt path) (prompt path))
    {path : String} {key plain : Priv} {w w' : World Ag Va Te}
    (loaded : loadKey tool prompt decryptFailed path key .disabled w = (.ok plain, w'))
    (unlock : UnlockMode) :
    ∃ w'', loadKey tool prompt decryptFailed path key unlock w = (.ok plain, w'') := by
  unfold loadKey at loaded ⊢
  split at loaded
  next clear =>
    simp only [Fallible.pure_run, Prod.mk.injEq, Except.ok.injEq] at loaded
    obtain ⟨rfl, rfl⟩ := loaded
    rw [if_pos clear]
    exact ⟨w, rfl⟩
  next encrypted =>
    rw [if_neg encrypted]
    dsimp only at loaded ⊢
    obtain ⟨pass, w₁, typed, opened⟩ := Fallible.bind_ok_iff.mp loaded
    have opens := decryptWith_ok opened
    -- After the keystore was asked, the person is asked in the same way and answers the same.
    have asks_again (vault : Va) (stderr : List String) :
        ∃ v, (prompt path >>= fun pass => Fallible.query fun _ =>
          (PrivateKey.decrypt key pass).mapError fun e => AnvilError.signing (decryptFailed path e))
            { w with vault := vault, stderr := stderr } = (.ok plain, v) := by
      have same := (prompts vault stderr path w _ rfl).1
      rw [typed] at same
      rw [Fallible.bind_of_ok (Fallible.run_eq same.symm), Fallible.query_run, opens, mapError_ok]
      exact ⟨_, rfl⟩
    cases unlock with
    | disabled => exact ⟨w', loaded⟩
    | enroll =>
      simp only
      rw [Fallible.bind_of_ok typed]
      rw [Fallible.bind_of_ok opened]
      rw [Fallible.bind_of_ok (Program.onVault_run w' _)]
      -- Storing may fail: that is a warning and no more.
      cases (BiometricVault.store (keyId key) pass w'.vault).1 with
      | ok => exact ⟨_, rfl⟩
      | error e => exact ⟨_, rfl⟩
    | auto =>
      obtain ⟨outcome, vault, ran, carries⟩ := autoUnlockPassphrase_spec key w
      simp only
      rw [Fallible.bind_of_ok ran]
      cases outcome with
      | passphrase released_pass =>
        -- The keystore's secret opens the key as well, and what it opens is the same.
        obtain ⟨other, opens_too⟩ := released_opens ((carries released_pass).mp rfl)
        obtain rfl := unique key plain other pass released_pass opens opens_too
        simp only [Fallible.query_run, opens_too, mapError_ok]
        exact ⟨_, rfl⟩
      | stale => exact asks_again vault _
      | fallback => exact asks_again vault w.stderr

end

/-- Biometric unlock adds to a loader and takes nothing away, whatever keystore it is
run on. -/
structure PurelyAdditive
    (load : ∀ (Va : Type) [BiometricVault Va], String → Priv → UnlockMode → Program Ag Va Te Priv) :
    Prop where
  still_loads : ∀ (Va : Type) [BiometricVault Va] (path : String) (key plain : Priv)
    (w w' : World Ag Va Te), load Va path key .disabled w = (.ok plain, w') →
      ∀ unlock, ∃ w'', load Va path key unlock w = (.ok plain, w'')
  /-- Another keystore makes no difference and comes out as it went in. -/
  vault_blind : ∀ (Va Vb : Type) [BiometricVault Va] [BiometricVault Vb] (path : String)
    (key : Priv) (vault : Vb) (w : World Ag Va Te) (w' : World Ag Vb Te),
      Program.Exchanged vault w.stderr w w' →
        (load Vb path key .disabled w').1 = (load Va path key .disabled w).1 ∧
          Program.Exchanged vault w.stderr (load Va path key .disabled w).2
            (load Vb path key .disabled w').2
  vault_unused : ∀ (Va : Type) [BiometricVault Va] (path : String) (key : Priv)
    (w : World Ag (Recorded Va) Te),
      (load (Recorded Va) path key .disabled w).2.vault.calls = w.vault.calls

/-- A loader is additive once its prompt does not see the keystore. -/
private theorem loadKey_purelyAdditive (unique : DecryptUnique Priv) (tool : String)
    (prompt : ∀ Va : Type, String → Program Ag Va Te String)
    (prompts : ∀ (Va Vb : Type) (vault : Vb) (stderr : List String) (path : String),
      Fallible.Alike (Program.Exchanged vault stderr) (prompt Va path) (prompt Vb path))
    (decryptFailed : String → String → String) :
    PurelyAdditive fun Va [BiometricVault Va] =>
      (loadKey tool (prompt Va) decryptFailed : String → Priv → UnlockMode → Program Ag Va Te Priv)
    where
  still_loads Va _ path key plain w w' loaded unlock :=
    loadKey_additive unique (prompts Va Va) loaded unlock
  vault_blind Va Vb _ _ path key vault w w' exchanged := by
    obtain ⟨same, after⟩ :=
      loadKey_disabled_blind (prompts Va Vb vault w.stderr) path key w w' exchanged
    exact ⟨same.symm, after⟩
  vault_unused Va _ path key w := by
    -- Exchanging the keystore for itself shows that it comes out as it went in.
    have itself := prompts (Recorded Va) (Recorded Va) w.vault w.stderr
    have blind : Fallible.Alike (Program.Exchanged w.vault w.stderr)
        (loadKey tool (prompt (Recorded Va)) decryptFailed path key .disabled)
        (loadKey tool (prompt (Recorded Va)) decryptFailed path key .disabled) :=
      loadKey_disabled_blind itself path key
    exact congrArg (fun v => v.vault.calls) (blind w w rfl).2

variable [Terminal Te]

/-- Both loaders open, in every mode and on every keystore, what they open with
`--no-biometric`, and with `--no-biometric` neither calls the keystore. -/
theorem loaders_purely_additive (unique : DecryptUnique Priv) :
    (PurelyAdditive fun Va [BiometricVault Va] =>
      (loadPrivateKey : String → Priv → UnlockMode → Program Ag Va Te Priv)) ∧
      PurelyAdditive fun Va [BiometricVault Va] =>
        (loadAndDecrypt : String → Priv → UnlockMode → Program Ag Va Te Priv) := by
  constructor
  · exact loadKey_purelyAdditive unique _ (fun _ => Prompt.promptPassphraseInteractive)
      (fun _ _ _ _ path => Prompt.blind_promptPassphraseInteractive path) _
  · exact loadKey_purelyAdditive unique _ (fun _ => shimPromptPassphrase)
      (fun _ _ _ _ path => blind_shimPromptPassphrase path) _

/-! ### On a reference environment -/

open Reference

theorem decryptUnique : DecryptUnique RefPrivate := by
  intro key plain plain' pass pass' first second
  simp only [PrivateKey.decrypt] at first second
  split at first
  · split at second
    · exact Except.ok.inj (first.symm.trans second)
    · simp at second
  · simp at first

/-- A key is loaded although the keystore releases a wrong passphrase for it. -/
theorem loaders_additive_over_wrong_secret :
    DecryptUnique RefPrivate ∧
      ∃ w', loadAndDecrypt "id" (⟨⟨"AAAA"⟩, some "new"⟩ : RefPrivate) .auto
        { world [] [] ⟨false, []⟩ ⟨[("gitway:ssh:SHA256:AAAA", "old")]⟩ ⟨["new"]⟩ with
          env := { environment [] with stdinIsTerminal := true } } =
        (.ok ⟨⟨"AAAA"⟩, none⟩, w') := by
  refine ⟨decryptUnique, ?_⟩
  exact (loaders_purely_additive decryptUnique).2.still_loads RefVault "id" _ _ _ _ rfl .auto

end Gitway.Agent
