import Gitway.Biometric.Verified
import Gitway.Envelopes
import Gitway.KeygenShim.Run

/-!
# Empty passphrases

Four commands write a key file under a new passphrase. What one of them hands to the
library is told by comparing its runs under two implementations of the library that
differ in the passphrases they see: a command passes a passphrase on when it cannot
tell any two apart that do the same with that one.
-/
namespace Gitway.Keygen

open Lib

/-- A command that writes a key file under a new passphrase. -/
inductive Surface where
  | generate (args : GenerateArgs) (mode : OutputMode)
  | changePassphrase (args : ChangePassphraseArgs) (mode : OutputMode)
  | shimGenerate (p : KeygenShim.Parsed)
  | shimChangePassphrase (p : KeygenShim.Parsed)

namespace Surface

def json : Surface → Bool
  | .generate _ mode | .changePassphrase _ mode => mode == .json
  | .shimGenerate _ | .shimChangePassphrase _ => false

variable {Priv Pub Ag Va Te : Type} [PublicKey Pub] [PrivateKey Priv Pub] [BiometricVault Va]
  [Terminal Te]

def run (writer : Writer Priv) : Surface → Program Ag Va Te Nat
  | .generate args mode => runGenerate Priv args mode
  | .changePassphrase args mode => runChangePassphrase Priv args mode
  | .shimGenerate p => KeygenShim.runGenerate Priv p
  | .shimChangePassphrase p => KeygenShim.runChangePassphrase Priv p

/-- The new passphrase as it is given or typed, if it is not waived. -/
def entered (given : Option String) (waived : Bool) (prompt : Program Ag Va Te String) :
    Program Ag Va Te (Option String) :=
  if waived then pure none
  else
    match given with
    | some s => pure (some s)
    | none => do
      let typed ← prompt
      return some typed

variable (Priv) in
/-- The command up to where the new passphrase is known. -/
def entry : Surface → Program Ag Va Te (Option String)
  | .generate args _ => do
    let _ ← Fallible.query fun _ => resolveKind args.kind args.bits
    entered args.passphrase args.noPassphrase (promptNewPassphrase Priv args.file)
  | .changePassphrase args _ => do
    let pem ← Program.readToString args.file
    let loaded : Priv ← Fallible.query fun _ => (PrivateKey.fromOpenssh pem).mapError fun e =>
      .invalidConfig s!"cannot parse private key: {e}"
    let _ ← oldPassphrase Priv args loaded
    entered args.newPassphrase args.noPassphrase (promptNewPassphrase Priv args.file)
  | .shimGenerate p => do
    let file ← KeygenShim.required p.file "-f FILE is required"
    let _ ← Fallible.query fun _ => KeygenShim.parseKind (p.keyType.getD "ed25519") p.bits
    entered p.newPassphrase false (KeygenShim.promptFor (KeygenShim.generatePrompt file))
  | .shimChangePassphrase p => do
    let file ← KeygenShim.required p.file "-f FILE is required"
    let _ ← KeygenShim.oldPassphrase p.oldPassphrase s!"Enter old passphrase for {file}: "
    entered p.newPassphrase false (KeygenShim.promptFor KeygenShim.changePrompt)

end Surface

/-! ### What is passed on -/

/-- The two libraries do the same, as long as `new` is the passphrase to write a key
under. -/
structure AgreeOn {Priv : Type} (new : Option String) (first second : Writer Priv) : Prop where
  generate : first.generate = second.generate
  cliName : first.cliName = second.cliName
  writeKeypair : ∀ key path, first.writeKeypair key path new = second.writeKeypair key path new
  changePassphrase : ∀ path old,
    first.changePassphrase path old new = second.changePassphrase path old new

/-- The `encrypted` flag of the JSON value printed last. -/
def reportedEncrypted {Ag Va Te : Type} (w : World Ag Va Te) : Option Bool :=
  match w.stdout.getLast? with
  | some (.json v) =>
    match (v.get "data").bind fun data => data.get "encrypted" with
    | some (.bool b) => some b
    | _ => none
  | _ => none

section
variable {Priv Pub Ag Va Te : Type} [PublicKey Pub] [PrivateKey Priv Pub] [BiometricVault Va]
  [Terminal Te]

variable (Priv) in
/-- No other new passphrase than this one reaches the library. -/
def Surface.Passes (s : Surface) (new : Option String) (w : World Ag Va Te) : Prop :=
  ∀ first second : Writer Priv, AgreeOn new first second → s.run first w = s.run second w

variable (Priv) in
/-- A passphrase that turns out to be empty is passed on as none, and what is printed
says whether a passphrase that is not empty was passed on. -/
structure EmptyIsNone (s : Surface) (w : World Ag Va Te) : Prop where
  passes : (s.entry Priv w).1 = .ok (some "") → s.Passes Priv none w
  reports : s.json = true → ∀ (writer : Writer Priv) code w', s.run writer w = (.ok code, w') →
    ∃ encrypted, reportedEncrypted w' = some encrypted ∧
      (encrypted = true ↔ ∃ pass, pass ≠ "" ∧ s.Passes Priv (some pass) w)

/-! ### Where the new passphrase comes from -/

/-- An empty passphrase stands for none. -/
def nonempty (new : Option String) : Option String := new.filter fun pass => !pass.isEmpty

theorem nonempty_some (pass : String) :
    nonempty (some pass) = if pass.isEmpty then none else some pass := by
  unfold nonempty
  cases empty : pass.isEmpty <;> simp [Option.filter, empty]

theorem nonempty_eq_some {new : Option String} {pass : String} (kept : nonempty new = some pass) :
    pass ≠ "" := by
  obtain ⟨_, solid⟩ := Option.filter_eq_some_iff.mp kept
  rintro rfl
  simp at solid

theorem resolveNewPassphrase_eq (file : String) (given : Option String) (waived : Bool) :
    (resolveNewPassphrase Priv file given waived : Program Ag Va Te (Option String)) =
      nonempty <$> Surface.entered given waived (promptNewPassphrase Priv file) := by
  unfold resolveNewPassphrase Surface.entered
  cases waived with
  | true => rfl
  | false =>
    cases given with
    | none => simp [nonempty_some]
    | some s => simp [nonempty_some]

theorem newPassphrase_eq (args : ChangePassphraseArgs) :
    (newPassphrase Priv args : Program Ag Va Te (Option String)) =
      Surface.entered args.newPassphrase args.noPassphrase
        (promptNewPassphrase Priv args.file) := by
  unfold newPassphrase Surface.entered
  rfl

omit [PublicKey Pub] [PrivateKey Priv Pub] [BiometricVault Va] in
theorem shim_newPassphrase_eq (given : Option String) (prompt : String) :
    (KeygenShim.newPassphrase given prompt : Program Ag Va Te (Option String)) =
      nonempty <$> Surface.entered given false (KeygenShim.promptFor prompt) := by
  unfold KeygenShim.newPassphrase Surface.entered
  cases given with
  | none => simp [nonempty_some]
  | some s => simp [nonempty_some]

/-! ### Runs -/

/-- The library writes some key under this passphrase. -/
def Takes (writer : Writer Priv) (new : Option String) : Prop :=
  (∃ key path fs, (writer.writeKeypair key path new fs).1 = .ok ()) ∨
    ∃ path old fs, (writer.changePassphrase path old new fs).1 = .ok ()

namespace Surface

/-- What the command hands over of the passphrase that was given or typed. -/
def handed : Surface → Option String → Option String
  | .changePassphrase .., new => new
  | .generate .., new | .shimGenerate _, new | .shimChangePassphrase _, new => nonempty new

/-- A run depends on the library only by what it does with the passphrase that is
handed over. -/
theorem run_agree {s : Surface} {first second : Writer Priv} {w : World Ag Va Te}
    (agree : ∀ new v, s.entry Priv w = (.ok new, v) → AgreeOn (s.handed new) first second) :
    s.run first w = s.run second w := by
  -- Up to the passphrase no library is asked, and behind it the two are alike.
  cases s with
  | generate args mode =>
    refine Fallible.bind_congr_ok fun kind w₁ resolved => ?_
    refine Fallible.bind_congr_ok fun env w₂ environment => ?_
    obtain rfl : w₁ = w₂ := congrArg Prod.snd environment
    refine Fallible.bind_congr_ok fun pass w₃ entered => ?_
    rw [resolveNewPassphrase_eq, Fallible.map_ok_iff] at entered
    obtain ⟨new, entered, rfl⟩ := entered
    have same : AgreeOn (nonempty new) first second :=
      agree new w₃ (Fallible.bind_ok_iff.mpr ⟨kind, w₁, resolved, entered⟩)
    simp only [same.generate, same.cliName]
    refine Fallible.bind_congr_ok fun key w₄ _ => ?_
    rw [same.writeKeypair]
  | changePassphrase args mode =>
    refine Fallible.bind_congr_ok fun pem w₁ read => ?_
    refine Fallible.bind_congr_ok fun loaded w₂ parsed => ?_
    refine Fallible.bind_congr_ok fun old w₃ opened => ?_
    refine Fallible.bind_congr_ok fun new w₄ entered => ?_
    rw [newPassphrase_eq] at entered
    have same : AgreeOn new first second :=
      agree new w₄ (Fallible.bind_ok_iff.mpr ⟨pem, w₁, read,
        Fallible.bind_ok_iff.mpr ⟨loaded, w₂, parsed,
          Fallible.bind_ok_iff.mpr ⟨old, w₃, opened, entered⟩⟩⟩)
    rw [same.changePassphrase]
  | shimGenerate p =>
    refine Fallible.bind_congr_ok fun file w₁ named => ?_
    refine Fallible.bind_congr_ok fun kind w₂ parsed => ?_
    refine Fallible.bind_congr_ok fun env w₃ environment => ?_
    obtain rfl : w₂ = w₃ := congrArg Prod.snd environment
    refine Fallible.bind_congr_ok fun pass w₄ entered => ?_
    rw [shim_newPassphrase_eq, Fallible.map_ok_iff] at entered
    obtain ⟨new, entered, rfl⟩ := entered
    have same : AgreeOn (nonempty new) first second :=
      agree new w₄ (Fallible.bind_ok_iff.mpr ⟨file, w₁, named,
        Fallible.bind_ok_iff.mpr ⟨kind, w₂, parsed, entered⟩⟩)
    simp only [same.generate]
    refine Fallible.bind_congr_ok fun key w₅ _ => ?_
    rw [same.writeKeypair]
  | shimChangePassphrase p =>
    refine Fallible.bind_congr_ok fun file w₁ named => ?_
    refine Fallible.bind_congr_ok fun old w₂ opened => ?_
    refine Fallible.bind_congr_ok fun pass w₃ entered => ?_
    rw [shim_newPassphrase_eq, Fallible.map_ok_iff] at entered
    obtain ⟨new, entered, rfl⟩ := entered
    have same : AgreeOn (nonempty new) first second :=
      agree new w₃ (Fallible.bind_ok_iff.mpr ⟨file, w₁, named,
        Fallible.bind_ok_iff.mpr ⟨old, w₂, opened, entered⟩⟩)
    rw [same.changePassphrase]

/-- A run that went well handed over what was given or typed, to a library that took it,
and printed whether that was anything. -/
theorem run_ok {s : Surface} {writer : Writer Priv} {w w' : World Ag Va Te} {code : Nat}
    (ran : s.run writer w = (.ok code, w')) :
    ∃ new v, s.entry Priv w = (.ok new, v) ∧ Takes writer (s.handed new) ∧
      (s.json = true → reportedEncrypted w' = some (s.handed new).isSome) := by
  -- The run is taken apart up to the call of the library, which must have gone well.
  cases s with
  | generate args mode =>
    obtain ⟨kind, w₁, resolved, ran⟩ := Fallible.bind_ok_iff.mp ran
    obtain ⟨env, w₂, environment, ran⟩ := Fallible.bind_ok_iff.mp ran
    obtain rfl : w₁ = w₂ := congrArg Prod.snd environment
    obtain ⟨pass, w₃, entered, ran⟩ := Fallible.bind_ok_iff.mp ran
    rw [resolveNewPassphrase_eq, Fallible.map_ok_iff] at entered
    obtain ⟨new, entered, rfl⟩ := entered
    obtain ⟨key, w₄, generated, ran⟩ := Fallible.bind_ok_iff.mp ran
    obtain ⟨⟨⟩, w₅, written, ran⟩ := Fallible.bind_ok_iff.mp ran
    refine ⟨new, w₃, Fallible.bind_ok_iff.mpr ⟨kind, w₁, resolved, entered⟩,
      Or.inl ⟨key, args.file, w₄.fs, (Prod.mk.inj written).1⟩, fun json => ?_⟩
    obtain rfl : mode = .json := by simpa [Surface.json] using json
    obtain rfl := (Prod.mk.inj ran).2
    simp [reportedEncrypted, Json.get, handed]
  | changePassphrase args mode =>
    obtain ⟨pem, w₁, read, ran⟩ := Fallible.bind_ok_iff.mp ran
    obtain ⟨loaded, w₂, parsed, ran⟩ := Fallible.bind_ok_iff.mp ran
    obtain ⟨old, w₃, opened, ran⟩ := Fallible.bind_ok_iff.mp ran
    obtain ⟨new, w₄, entered, ran⟩ := Fallible.bind_ok_iff.mp ran
    rw [newPassphrase_eq] at entered
    obtain ⟨⟨⟩, w₅, written, ran⟩ := Fallible.bind_ok_iff.mp ran
    refine ⟨new, w₄, Fallible.bind_ok_iff.mpr ⟨pem, w₁, read,
        Fallible.bind_ok_iff.mpr ⟨loaded, w₂, parsed,
          Fallible.bind_ok_iff.mpr ⟨old, w₃, opened, entered⟩⟩⟩,
      Or.inr ⟨args.file, old, w₄.fs, (Prod.mk.inj written).1⟩, fun json => ?_⟩
    obtain rfl : mode = .json := by simpa [Surface.json] using json
    obtain rfl := (Prod.mk.inj ran).2
    simp [reportedEncrypted, Json.get, handed]
  | shimGenerate p =>
    obtain ⟨file, w₁, named, ran⟩ := Fallible.bind_ok_iff.mp ran
    obtain ⟨kind, w₂, parsed, ran⟩ := Fallible.bind_ok_iff.mp ran
    obtain ⟨env, w₃, environment, ran⟩ := Fallible.bind_ok_iff.mp ran
    obtain rfl : w₂ = w₃ := congrArg Prod.snd environment
    obtain ⟨pass, w₄, entered, ran⟩ := Fallible.bind_ok_iff.mp ran
    rw [shim_newPassphrase_eq, Fallible.map_ok_iff] at entered
    obtain ⟨new, entered, rfl⟩ := entered
    obtain ⟨key, w₅, generated, ran⟩ := Fallible.bind_ok_iff.mp ran
    obtain ⟨⟨⟩, w₆, written, _⟩ := Fallible.bind_ok_iff.mp ran
    exact ⟨new, w₄, Fallible.bind_ok_iff.mpr ⟨file, w₁, named,
        Fallible.bind_ok_iff.mpr ⟨kind, w₂, parsed, entered⟩⟩,
      Or.inl ⟨key, file, w₅.fs, (Prod.mk.inj written).1⟩,
      fun json => by simp [Surface.json] at json⟩
  | shimChangePassphrase p =>
    obtain ⟨file, w₁, named, ran⟩ := Fallible.bind_ok_iff.mp ran
    obtain ⟨old, w₂, opened, ran⟩ := Fallible.bind_ok_iff.mp ran
    obtain ⟨pass, w₃, entered, ran⟩ := Fallible.bind_ok_iff.mp ran
    rw [shim_newPassphrase_eq, Fallible.map_ok_iff] at entered
    obtain ⟨new, entered, rfl⟩ := entered
    obtain ⟨⟨⟩, w₄, written, _⟩ := Fallible.bind_ok_iff.mp ran
    exact ⟨new, w₃, Fallible.bind_ok_iff.mpr ⟨file, w₁, named,
        Fallible.bind_ok_iff.mpr ⟨old, w₂, opened, entered⟩⟩,
      Or.inr ⟨file, some old, w₃.fs, (Prod.mk.inj written).1⟩,
      fun json => by simp [Surface.json] at json⟩

end Surface

/-- A library that writes no key under this passphrase and is like the given one otherwise. -/
@[reducible] def Writer.refusing (writer : Writer Priv) (new : Option String) : Writer Priv :=
  { writer with
    writeKeypair key path pass fs :=
      if pass = new then (.error .noKeyFound, fs) else writer.writeKeypair key path pass fs
    changePassphrase path old pass fs :=
      if pass = new then (.error .noKeyFound, fs) else writer.changePassphrase path old pass fs }

section
omit [PublicKey Pub] [PrivateKey Priv Pub] [BiometricVault Va] [Terminal Te]

theorem refusing_writeKeypair (writer : Writer Priv) (new pass : Option String) (key : Priv)
    (path : String) (fs : FileSystem) :
    (writer.refusing new).writeKeypair key path pass fs =
      if pass = new then (.error .noKeyFound, fs) else writer.writeKeypair key path pass fs := rfl

theorem refusing_changePassphrase (writer : Writer Priv) (new old pass : Option String)
    (path : String) (fs : FileSystem) :
    (writer.refusing new).changePassphrase path old pass fs =
      if pass = new then (.error .noKeyFound, fs)
      else writer.changePassphrase path old pass fs := rfl

theorem not_takes_refusing (writer : Writer Priv) (new : Option String) :
    ¬ Takes (writer.refusing new) new := by
  rintro (⟨key, path, fs, taken⟩ | ⟨path, old, fs, taken⟩)
  · simp [refusing_writeKeypair] at taken
  · simp [refusing_changePassphrase] at taken

theorem agreeOn_refusing (writer : Writer Priv) {pass new : Option String} (other : pass ≠ new) :
    AgreeOn pass writer (writer.refusing new) where
  generate := rfl
  cliName := rfl
  writeKeypair key path := by
    funext fs
    rw [refusing_writeKeypair, if_neg other]
  changePassphrase path old := by
    funext fs
    rw [refusing_changePassphrase, if_neg other]

end

namespace Surface

theorem passes_handed {s : Surface} {new : Option String} {w v : World Ag Va Te}
    (entered : s.entry Priv w = (.ok new, v)) : s.Passes Priv (s.handed new) w := by
  intro first second agree
  refine run_agree fun new' v' entered' => ?_
  rw [entered, Prod.mk.injEq, Except.ok.injEq] at entered'
  exact entered'.1 ▸ agree

/-- Only one passphrase is passed on: a library that does not take it ends the run. -/
theorem eq_handed_of_passes {s : Surface} {writer : Writer Priv} {new pass : Option String}
    {code : Nat} {w v w' : World Ag Va Te} (entered : s.entry Priv w = (.ok new, v))
    (ran : s.run writer w = (.ok code, w')) (passes : s.Passes Priv pass w) :
    pass = s.handed new := by
  by_contra other
  have same := passes writer (writer.refusing (s.handed new)) (agreeOn_refusing writer other)
  obtain ⟨new', v', entered', taken, _⟩ := run_ok (same.symm.trans ran)
  rw [entered, Prod.mk.injEq, Except.ok.injEq] at entered'
  rw [← entered'.1] at taken
  exact not_takes_refusing writer _ taken

omit [PublicKey Pub] [PrivateKey Priv Pub] [BiometricVault Va] [Terminal Te] in
theorem handed_empty {s : Surface} (other : ∀ args mode, s ≠ .changePassphrase args mode) :
    s.handed (some "") = none := by
  cases s with
  | changePassphrase args mode => exact absurd rfl (other args mode)
  | _ => rfl

/-- Changing a passphrase goes well once the library takes the new one. -/
theorem changePassphrase_ok (writer : Writer Priv) {args : ChangePassphraseArgs}
    {mode : OutputMode} {new : Option String} {w v : World Ag Va Te}
    (entered : (Surface.changePassphrase args mode).entry Priv w = (.ok new, v))
    (takes : ∀ old, (writer.changePassphrase args.file old new v.fs).1 = .ok ()) :
    ∃ w', (Surface.changePassphrase args mode).run writer w = (.ok 0, w') := by
  obtain ⟨pem, w₁, read, entered⟩ := Fallible.bind_ok_iff.mp entered
  obtain ⟨loaded, w₂, parsed, entered⟩ := Fallible.bind_ok_iff.mp entered
  obtain ⟨old, w₃, opened, entered⟩ := Fallible.bind_ok_iff.mp entered
  rw [← newPassphrase_eq] at entered
  have written : Program.onFiles (writer.changePassphrase args.file old new) v =
      (.ok (), { v with fs := (writer.changePassphrase args.file old new v.fs).2 }) := by
    rw [Program.onFiles_run, takes]
  have begun : (Surface.changePassphrase args mode).run writer w = _ :=
    Fallible.bind_of_ok read |>.trans <| Fallible.bind_of_ok parsed |>.trans <|
      Fallible.bind_of_ok opened |>.trans <| Fallible.bind_of_ok entered |>.trans <|
        Fallible.bind_of_ok written
  rw [begun]
  cases mode with
  | json => exact ⟨_, rfl⟩
  | human => exact ⟨_, rfl⟩

end Surface

/-- On every surface an empty new passphrase stands for none, and is reported so, except
where `gitway keygen change-passphrase` is given one or has one typed. -/
theorem empty_is_none_iff (s : Surface) (w : World Ag Va Te) :
    EmptyIsNone Priv s w ↔
      ∀ args mode, s = .changePassphrase args mode → (s.entry Priv w).1 ≠ .ok (some "") := by
  constructor
  · rintro ⟨passes, _⟩ args mode rfl empty
    let permissive : Writer Priv :=
      ⟨fun _ _ _ _ => .error .noKeyFound, fun _ _ _ fs => (.ok (), fs),
        fun _ _ _ fs => (.ok (), fs), fun _ => ""⟩
    obtain ⟨w', ran⟩ := Surface.changePassphrase_ok permissive (Fallible.run_eq empty) fun _ => rfl
    -- The empty passphrase is handed over as it is.
    exact absurd (Surface.eq_handed_of_passes (Fallible.run_eq empty) ran (passes empty)) nofun
  · intro solid
    refine ⟨fun empty => ?_, fun json writer code w' ran => ?_⟩
    · rw [← Surface.handed_empty fun args mode same => solid args mode same empty]
      exact Surface.passes_handed (Fallible.run_eq empty)
    · obtain ⟨new, v, entered, _, reported⟩ := Surface.run_ok ran
      refine ⟨_, reported json, fun encrypted => ?_, ?_⟩
      · obtain ⟨pass, handed⟩ := Option.isSome_iff_exists.mp encrypted
        refine ⟨pass, ?_, handed ▸ Surface.passes_handed entered⟩
        cases s with
        | changePassphrase args mode =>
          rintro rfl
          obtain rfl : new = some "" := handed
          exact solid args mode rfl (congrArg Prod.fst entered)
        | generate args mode => exact nonempty_eq_some handed
        | shimGenerate p => exact nonempty_eq_some handed
        | shimChangePassphrase p => exact nonempty_eq_some handed
      · rintro ⟨pass, _, passes⟩
        rw [← Surface.eq_handed_of_passes entered ran passes]
        rfl

end

/-! ### On a reference key -/

open Reference

private def plainKey : RefWorld :=
  world [] [("id", "openssh-key-v1 AAAAC3 none")] ⟨false, []⟩ ⟨[]⟩ ⟨[]⟩

/-- `gitway --json keygen change-passphrase id --new-passphrase ''`. -/
private def emptied : Surface := .changePassphrase ⟨"id", none, some "", false⟩ .json

private theorem plainKey_read :
    plainKey.fs.readToString "id" = .ok "openssh-key-v1 AAAAC3 none" :=
  readToString_textFiles _ "id" _ rfl

private theorem plainKey_parsed :
    (PrivateKey.fromOpenssh "openssh-key-v1 AAAAC3 none" : Except String RefPrivate) =
      .ok ⟨⟨"AAAAC3"⟩, none⟩ := by decide

private theorem emptied_entry : emptied.entry RefPrivate plainKey = (.ok (some ""), plainKey) := by
  simp [emptied, Surface.entry, Fallible.bind_run, plainKey_read, plainKey_parsed, oldPassphrase,
    PrivateKey.isEncrypted, Surface.entered]

/-- A library that takes every passphrase. -/
@[reducible] private def Writer.yielding (writer : Writer RefPrivate) : Writer RefPrivate :=
  { writer with changePassphrase := fun _ _ _ fs => (.ok (), fs) }

/-- The passphrase is given as the empty string, and that is what is handed over. The library
refuses it, and the file stays as it was. -/
theorem empty_passphrase_handed_over :
    (emptied.entry RefPrivate plainKey).1 = .ok (some "") ∧
      ¬ EmptyIsNone RefPrivate emptied plainKey ∧
      ∃ e w', emptied.run (inferInstance : Writer RefPrivate) plainKey = (.error e, w') ∧
        w'.fs = plainKey.fs := by
  have given := congrArg Prod.fst emptied_entry
  have refused : emptied.run (inferInstance : Writer RefPrivate) plainKey =
      (.error (.invalidConfig "passphrase is empty"), plainKey) := by
    simp [emptied, Surface.run, runChangePassphrase, Fallible.bind_run, plainKey_read,
      plainKey_parsed, oldPassphrase, newPassphrase, PrivateKey.isEncrypted,
      Writer.changePassphrase, Program.onFiles]
    rfl
  refine ⟨given, fun none_passed => ?_, _, plainKey, refused, rfl⟩
  -- A library that took it would be handed the empty string.
  obtain ⟨w', ran⟩ := Surface.changePassphrase_ok (Writer.yielding inferInstance) emptied_entry
    fun _ => rfl
  have none_handed : none = some "" :=
    Surface.eq_handed_of_passes emptied_entry ran (none_passed.passes given)
  simp at none_handed

end Gitway.Keygen
