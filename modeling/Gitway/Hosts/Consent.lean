import Gitway.Hosts.Commands

/-!
# When `gitway hosts add` adds nothing

The host has shown its key, and nobody consents: in JSON mode and away from a terminal nobody
is asked, and otherwise the answer is not a yes. Both ends have a code of their own.
-/
namespace Gitway.Hosts

open Lib Transport

variable {Ne Ag Va Te : Type}

/-- Without `--yes`, nobody is asked or the answer is not a yes. -/
def Unconfirmed (args : HostsAddArgs) (mode : OutputMode) (w : World Ag Va Te) : Prop :=
  args.yes = false ∧ (mode = .json ∨ w.env.stdinIsTerminal = false ∨
    ∃ response, (readLine w).1 = .ok (.ok response) ∧ saysYes response = false)

/-- The command is told to end exactly when nobody consents. -/
theorem confirm_some_iff (args : HostsAddArgs) (mode : OutputMode) (path : String)
    (w : World Ag Va Te) :
    Fallible.Yields (fun refusal => refusal.isSome = true) (confirm args mode path) w ↔
      Unconfirmed args mode w := by
  unfold confirm Unconfirmed
  cases args.yes with
  | true => simp [Fallible.yields_pure_iff]
  | false =>
    simp only [Bool.false_eq_true, if_false, true_and]
    rw [Fallible.yields_bind_of_ok (Program.environment_run w)]
    by_cases nobody : mode = .json ∨ w.env.stdinIsTerminal = false
    · rw [if_pos nobody, ← or_assoc]
      exact ⟨fun _ => Or.inl nobody, fun _ => ⟨_, _, rfl, rfl⟩⟩
    · rw [if_neg nobody, ← or_assoc, or_iff_right nobody,
        Fallible.yields_bind_of_ok (Program.eprintln_run w _)]
      -- Printing the question leaves standard input as it was.
      have line : ∃ v, readLine { w with stderr := w.stderr ++
          [s!"Append this fingerprint to {path}? [y/N] "] } = ((readLine w).1, v) := by
        unfold readLine
        cases w.stdin with
        | error e => exact ⟨_, rfl⟩
        | ok bytes => exact ⟨_, rfl⟩
      obtain ⟨v, read⟩ := line
      have returned : ∃ answer, (readLine w).1 = .ok answer := by
        unfold readLine
        cases w.stdin with
        | error e => exact ⟨_, rfl⟩
        | ok bytes => exact ⟨_, rfl⟩
      obtain ⟨answer, same⟩ := returned
      rw [same] at read ⊢
      rw [Fallible.yields_bind_of_ok read]
      cases answer with
      | error e =>
        simp only [Except.ok.injEq, reduceCtorEq, false_and, exists_false, iff_false]
        rintro ⟨refusal, u, ran, _⟩
        obtain ⟨response, u₁, failed, _⟩ := Fallible.bind_ok_iff.mp ran
        simp at failed
      | ok response =>
        have accepted : (Fallible.query fun _ : World Ag Va Te =>
            (Except.ok response : Except IoError String).mapError fun e =>
              AnvilError.invalidConfig s!"could not read stdin: {e.message}") v =
            (.ok response, v) := rfl
        rw [Fallible.yields_bind_of_ok accepted]
        simp only [Except.ok.injEq, exists_eq_left']
        cases saysYes response with
        | true => simp [Fallible.yields_pure_iff]
        | false => exact ⟨fun _ => rfl, fun _ => ⟨_, _, rfl, rfl⟩⟩

/-! ### The probe -/

section
variable (an : AnvilSession Ne Ag) (B : Type) [ConfigBuilder B]
  (tempdir : FileSystem → Except String Config.OsPath)

/-- The host shows this key to a connection that can be closed again. -/
def Shows (host fingerprint : String) (fs : FileSystem) (net : Ne) : Prop :=
  ∃ dir probed opened closed, tempdir fs = .ok dir ∧
    an.connect (probeConfig B host dir) .direct (fs, net) = (.ok (), probed, opened) ∧
    an.verifiedFingerprint opened = some fingerprint ∧ an.close opened = (.ok (), closed)

/-- A connection for a probe leaves the files as they were. -/
theorem inTempdir_open_ok_iff {config : AnvilConfig} {dial : Dial Config.JumpHost}
    {p q : Process Ne Ag Va Te} :
    inTempdir (an.open_ config dial) p = (.ok (), q) ↔
      ∃ probed opened, an.connect config dial (p.world.fs, p.net) = (.ok (), probed, opened) ∧
        q = { p with net := opened, calls := p.calls ++ [.connected] } := by
  unfold inTempdir AnvilSession.open_
  rw [Fallible.bind_run, Command.onConnection_run]
  rcases an.connect config dial (p.world.fs, p.net) with ⟨e | u, probed, opened⟩
  · simp
  · simp [eq_comm]

/-- What a probe finds, and what is left of it. -/
theorem probe_ok_iff {host fingerprint : String} {p q : Process Ne Ag Va Te} :
    probe an B tempdir host p = (.ok fingerprint, q) ↔
      ∃ dir probed opened closed, tempdir p.world.fs = .ok dir ∧
        an.connect (probeConfig B host dir) .direct (p.world.fs, p.net) =
          (.ok (), probed, opened) ∧
        an.verifiedFingerprint opened = some fingerprint ∧ an.close opened = (.ok (), closed) ∧
        q = { p with net := closed, calls := p.calls ++ [.connected] } := by
  unfold probe close
  constructor
  · intro ran
    obtain ⟨dir, p₁, made, ran⟩ := Fallible.bind_ok_iff.mp ran
    simp only [Fallible.query_run, Prod.mk.injEq, mapError_eq_ok_iff] at made
    obtain ⟨made, rfl⟩ := made
    obtain ⟨⟨⟩, p₂, reached, ran⟩ := Fallible.bind_ok_iff.mp ran
    obtain ⟨probed, opened, connected, rfl⟩ := (inTempdir_open_ok_iff an).mp reached
    obtain ⟨captured, p₄, shown, ran⟩ := Fallible.bind_ok_iff.mp ran
    simp only [Fallible.query_run, Prod.mk.injEq, Except.ok.injEq] at shown
    obtain ⟨shown, rfl⟩ := shown
    cases captured with
    | none => simp at ran
    | some found =>
      obtain ⟨_, p₅, closed, last⟩ := Fallible.bind_ok_iff.mp ran
      simp only [Command.onNetwork_run, Fallible.pure_run, Prod.mk.injEq, Except.ok.injEq]
        at closed last
      obtain ⟨closed, rfl⟩ := closed
      obtain ⟨rfl, rfl⟩ := last
      exact ⟨dir, probed, opened, _, made, connected, shown, Prod.ext closed rfl, rfl⟩
  · rintro ⟨dir, probed, opened, closed, made, connected, shown, ended, rfl⟩
    have looked : (Fallible.query fun p : Process Ne Ag Va Te =>
        (tempdir p.world.fs).mapError fun e =>
          AnvilError.invalidConfig s!"could not create temp dir for probe: {e}") p =
        (.ok dir, p) := by
      rw [Fallible.query_run, made, mapError_ok]
    rw [Fallible.bind_of_ok looked,
      Fallible.bind_of_ok ((inTempdir_open_ok_iff an).mpr ⟨probed, opened, connected, rfl⟩)]
    simp [Fallible.bind_run, shown, ended]

end

/-! ### The whole command -/

section
variable (Hk : Type) [KnownHosts Hk]

/-- The form of the entry is given, or can be told from the file. -/
def FormKnown (args : HostsAddArgs) (path : String) (fs : FileSystem) : Prop :=
  args.hash = true ∨ args.noHash = true ∨
    ∃ form, KnownHosts.detectHashMode Hk path fs = .ok form

theorem chooseHashed_ok_iff (args : HostsAddArgs) (path : String) (w : World Ag Va Te) :
    (∃ hashed, chooseHashed Hk args path w = (.ok hashed, w)) ↔ FormKnown Hk args path w.fs := by
  unfold chooseHashed FormKnown
  cases args.hash with
  | true => simp
  | false =>
    cases args.noHash with
    | true => simp
    | false =>
      cases told : KnownHosts.detectHashMode Hk path w.fs with
      | ok form =>
        exact ⟨fun _ => Or.inr (Or.inr ⟨form, rfl⟩), fun _ =>
          ⟨_, by simp [Fallible.bind_run, told]; rfl⟩⟩
      | error e => simp [Fallible.bind_run, told]

theorem keeps_chooseHashed (args : HostsAddArgs) (path : String) :
    Fallible.Keeps id (chooseHashed Hk args path : Program Ag Va Te Bool) := by
  unfold chooseHashed
  split
  · exact Fallible.Keeps.pure _
  · split
    · exact Fallible.Keeps.pure _
    · exact Fallible.Keeps.bind (Fallible.Keeps.query _) fun _ => Fallible.Keeps.pure _

/-- A message on standard error has no part in the consent. -/
theorem unconfirmed_eprintln (args : HostsAddArgs) (mode : OutputMode) (w : World Ag Va Te)
    (stderr : List String) :
    Unconfirmed args mode { w with stderr := stderr } ↔ Unconfirmed args mode w := by
  have same : (readLine { w with stderr := stderr }).1 = (readLine w).1 := by
    unfold readLine
    cases w.stdin <;> rfl
  unfold Unconfirmed
  rw [same]

/-- What follows the consent ends with zero. -/
theorem returns_append (args : HostsAddArgs) (mode : OutputMode) (path fingerprint : String)
    (hashed : Bool) :
    Fallible.Returns (· = 0) (do
      append Hk args mode path fingerprint hashed
      return 0 : Program Ag Va Te Nat) :=
  Fallible.Returns.bind fun _ => Fallible.Returns.pure rfl

/-- A host is not added without consent, which is told by the code alone. -/
def Refusal (code : Nat) : Prop := code = EXIT_USER_DECLINED ∨ code = EXIT_NEEDS_YES

theorem returns_confirm (args : HostsAddArgs) (mode : OutputMode) (path : String) :
    Fallible.Returns (fun answer => ∀ code ∈ answer, Refusal code)
      (confirm args mode path : Program Ag Va Te (Option Nat)) := by
  unfold confirm
  split
  · exact Fallible.Returns.pure (by simp)
  refine Fallible.Returns.bind fun env => ?_
  split
  · exact Fallible.Returns.bind fun _ => Fallible.Returns.pure (by simp [Refusal])
  refine Fallible.Returns.bind fun _ => Fallible.Returns.bind fun line =>
    Fallible.Returns.bind fun response => ?_
  split
  · exact Fallible.Returns.pure (by simp)
  · exact Fallible.Returns.bind fun _ => Fallible.Returns.pure (by simp [Refusal])

/-- After the probe, the command ends with a code of its own exactly when nobody consents. -/
theorem addProbed_nonzero_iff (args : HostsAddArgs) (mode : OutputMode) (path fingerprint : String)
    (w : World Ag Va Te) :
    Fallible.Yields (· ≠ 0) (addProbed Hk args mode path fingerprint) w ↔
      FormKnown Hk args path w.fs ∧ Unconfirmed args mode w := by
  unfold addProbed
  rw [Fallible.yields_bind_iff]
  constructor
  · rintro ⟨hashed, v, chosen, ends⟩
    have same : v = w := (keeps_chooseHashed Hk args path).eq chosen
    subst same
    refine ⟨(chooseHashed_ok_iff Hk args path v).mp ⟨hashed, chosen⟩, ?_⟩
    rw [Fallible.yields_bind_of_ok (Program.eprintln_run v _), Fallible.yields_bind_iff] at ends
    -- An entry that is appended ends with 0, so the line was not confirmed.
    obtain ⟨refusal, u, confirmed, ends⟩ := ends
    rw [← unconfirmed_eprintln args mode v, ← confirm_some_iff args mode path]
    refine ⟨refusal, u, confirmed, ?_⟩
    cases refusal with
    | some code => rfl
    | none => exact absurd ends ((returns_append Hk args mode path fingerprint hashed).not_yields u)
  · rintro ⟨known, nobody⟩
    obtain ⟨hashed, chosen⟩ := (chooseHashed_ok_iff Hk args path w).mpr known
    refine ⟨hashed, w, chosen, ?_⟩
    rw [Fallible.yields_bind_of_ok (Program.eprintln_run w _), Fallible.yields_bind_iff]
    rw [← unconfirmed_eprintln args mode w, ← confirm_some_iff args mode path] at nobody
    obtain ⟨refusal, u, confirmed, some_⟩ := nobody
    obtain ⟨code, rfl⟩ := Option.isSome_iff_exists.mp some_
    refine ⟨some code, u, confirmed, (Fallible.yields_pure_iff _ u).mpr ?_⟩
    rcases returns_confirm args mode path _ _ _ confirmed code rfl with rfl | rfl
    · decide
    · decide

variable (an : AnvilSession Ne Ag) (B : Type) [ConfigBuilder B]
  (tempdir : FileSystem → Except String Config.OsPath)

/-- The host shows its key, and the key is not added for want of consent. -/
def AddRefused (args : HostsAddArgs) (mode : OutputMode) (p : Process Ne Ag Va Te) : Prop :=
  (∃ path, resolvePath Hk p.world.env args.knownHosts = .ok path ∧
    FormKnown Hk args path p.world.fs) ∧
  (∃ fingerprint, Shows an B tempdir args.host fingerprint p.world.fs p.net) ∧
  Unconfirmed args mode p.world

/-- The command ends with a code of its own exactly when the addition is refused. -/
theorem runAdd_nonzero_iff (args : HostsAddArgs) (mode : OutputMode) (p : Process Ne Ag Va Te) :
    Fallible.Yields (· ≠ 0) (runAdd Hk an B tempdir args mode) p ↔
      AddRefused Hk an B tempdir args mode p := by
  unfold runAdd AddRefused
  rw [Fallible.yields_bind_iff]
  constructor
  · rintro ⟨path, p₁, resolved, ends⟩
    simp only [Fallible.query_run, Prod.mk.injEq] at resolved
    obtain ⟨resolved, rfl⟩ := resolved
    obtain ⟨fingerprint, q, probed, ends⟩ := Fallible.yields_bind_iff.mp ends
    obtain ⟨dir, left, opened, closed, made, connected, shown, ended, rfl⟩ :=
      (probe_ok_iff an B tempdir).mp probed
    rw [Command.yields_onWorld_iff, addProbed_nonzero_iff] at ends
    exact ⟨⟨path, resolved, ends.1⟩,
      ⟨fingerprint, dir, left, opened, closed, made, connected, shown, ended⟩, ends.2⟩
  · rintro ⟨⟨path, resolved, known⟩, ⟨fingerprint, dir, left, opened, closed, shows⟩, nobody⟩
    obtain ⟨made, connected, shown, ended⟩ := shows
    have probing := (probe_ok_iff an B tempdir).mpr
      ⟨dir, left, opened, closed, made, connected, shown, ended, rfl⟩
    refine ⟨path, p, Prod.ext resolved rfl,
      Fallible.yields_bind_iff.mpr ⟨fingerprint, _, probing, ?_⟩⟩
    rw [Command.yields_onWorld_iff, addProbed_nonzero_iff]
    exact ⟨known, nobody⟩

/-- The codes of its own are small. -/
theorem returns_runAdd (args : HostsAddArgs) (mode : OutputMode) :
    Fallible.Returns (· ≤ 255) (runAdd Hk an B tempdir args mode : Command Ne Ag Va Te Nat) := by
  refine Fallible.Returns.bind fun path => Fallible.Returns.bind fun fingerprint => ?_
  intro p code q returned
  simp only [Command.onWorld_run, Prod.mk.injEq] at returned
  refine (?_ : Fallible.Returns (· ≤ 255) (addProbed Hk args mode path fingerprint))
    p.world code _ (Prod.ext returned.1 rfl)
  refine Fallible.Returns.bind fun hashed => Fallible.Returns.bind fun _ =>
    Fallible.Returns.bind_of (returns_confirm args mode path) fun refusal codes => ?_
  cases refusal with
  | some code =>
    refine Fallible.Returns.pure ?_
    rcases codes code rfl with rfl | rfl
    · decide
    · decide
  | none => exact Fallible.Returns.bind fun _ => Fallible.Returns.pure (Nat.zero_le _)

end

end Gitway.Hosts
