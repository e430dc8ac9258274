import Gitway.Config.Show
import Mathlib.Data.List.Forall2

/-!
# What `gitway config show` tells of the identity files

The streams are read as text here, so that a path with a newline in it is not told apart
from two lines.
-/
namespace Gitway

open Lib

/-- What stands on a stream. A document is kept as its value: the strings in its text hold
no newline. -/
inductive Written where
  | char (c : Char)
  | byte (b : UInt8)
  | json (v : Json)

def Emitted.written : Emitted → List Written
  | .line s => s.toList.map .char ++ [.char '\n']
  | .json v => [.json v, .char '\n']
  | .bytes b => b.toList.map .byte

/-- The text of both standard streams. -/
def World.printed {Ag Va Te : Type} (w : World Ag Va Te) : List Written × List Written :=
  (w.stdout.flatMap Emitted.written, w.stderr.flatMap fun s => (Emitted.line s).written)

theorem World.printed_of_output {Ag Va Te : Type} {v w : World Ag Va Te}
    (same : v.output = w.output) : v.printed = w.printed := by
  unfold World.output at same
  rw [Prod.mk.injEq] at same
  rw [World.printed, World.printed, same.1, same.2]

/-- What stands before the first separator is told from the text. -/
private theorem before_separator {α : Type} {sep : α} {l m rest rest' : List α}
    (hl : sep ∉ l) (hm : sep ∉ m) (same : l ++ sep :: rest = m ++ sep :: rest') :
    l = m ∧ rest = rest' := by
  induction l generalizing m with
  | nil => cases m <;> grind
  | cons a l ih => cases m <;> grind

/-- Lines without a newline are told from the text they make up. -/
theorem lines_of_written {lines lines' : List String}
    (single : ∀ s ∈ lines, '\n' ∉ s.toList) (single' : ∀ s ∈ lines', '\n' ∉ s.toList)
    (same : (lines.map .line).flatMap Emitted.written =
      (lines'.map .line).flatMap Emitted.written) :
    lines = lines' := by
  have free {s : String} (h : '\n' ∉ s.toList) : Written.char '\n' ∉ s.toList.map .char := by
    simpa using h
  -- The first newline of either text ends its first line.
  induction lines generalizing lines' with
  | nil => cases lines' <;> simp_all [Emitted.written]
  | cons s lines ih =>
    cases lines' with
    | nil => simp [Emitted.written] at same
    | cons t lines' =>
      simp only [List.map_cons, List.flatMap_cons, Emitted.written, List.append_assoc,
        List.singleton_append] at same
      obtain ⟨first, rest⟩ := before_separator (free (single s List.mem_cons_self))
        (free (single' t List.mem_cons_self)) same
      have text : s = t := by
        apply String.toList_injective
        exact (List.map_inj_right fun _ _ => Written.char.inj).mp first
      rw [text, ih (fun u member => single u (List.mem_cons_of_mem _ member))
        (fun u member => single' u (List.mem_cons_of_mem _ member)) rest]

namespace Config

/-! ### The filter by its description -/

/-- A private key in a typical key directory, whatever bytes its name is made of. -/
def recognised (path : OsPath) : Bool :=
  path.fileName.any fun name => looksLikeKey name.toStringLossy path

/-- A recognised path is not replaced when its name is no text. -/
def FailsOpen (path : OsPath) : Prop :=
  recognised path = true ∧ path.fileName.bind OsPath.toStr = none

/-- The text a path is to be shown by. -/
def shownText (path : OsPath) : String :=
  if recognised path then REDACTED else path.toStringLossy

def ShownAlike (p q : OsPath) : Prop := shownText p = shownText q

instance (path : OsPath) : Decidable (FailsOpen path) := inferInstanceAs (Decidable (_ ∧ _))

instance (p q : OsPath) : Decidable (ShownAlike p q) := inferInstanceAs (Decidable (_ = _))

theorem looksLikePrivateKey_eq {path : OsPath} (read : ¬FailsOpen path) :
    looksLikePrivateKey path = recognised path := by
  unfold looksLikePrivateKey
  unfold FailsOpen recognised at read
  unfold recognised
  cases named : path.fileName with
  | none => rfl
  | some nameOs =>
    cases text : nameOs.toStr with
    | none => simp_all
    | some name =>
      have lossy : nameOs.toStringLossy = name := Utf8.lossy_of_decode text
      simp only [Option.any_some, text, lossy]

theorem displayPath_eq {path : OsPath} (read : ¬FailsOpen path) :
    displayPath path false = shownText path := by
  unfold displayPath shownText
  rw [looksLikePrivateKey_eq read]
  cases recognised path <;> rfl

theorem map_displayPath_eq_iff {files files' : List OsPath}
    (read : ∀ p ∈ files ++ files', ¬FailsOpen p) :
    files.map (fun p => displayPath p false) = files'.map (fun p => displayPath p false) ↔
      List.Forall₂ ShownAlike files files' := by
  -- Where the filter does not fail open it shows every path by its description.
  rw [List.map_congr_left fun p member => displayPath_eq (read p (List.mem_append_left _ member)),
    List.map_congr_left fun p member => displayPath_eq (read p (List.mem_append_right _ member)),
    ← List.forall₂_eq_eq_eq, List.forall₂_map_left_iff, List.forall₂_map_right_iff]
  rfl

/-! ### What the text printed tells -/

variable {Ag Va Te : Type} (An : Type) [Anvil An]

theorem emitShow_same (args : ConfigShowArgs) (mode : OutputMode) (resolved : ResolvedSshConfig)
    {files files' : List OsPath} (w : World Ag Va Te)
    (alike : files.map (fun p => displayPath p args.showSecrets) =
      files'.map (fun p => displayPath p args.showSecrets)) :
    (emitShow An args mode { resolved with identityFiles := files } w).2.output =
      (emitShow An args mode { resolved with identityFiles := files' } w).2.output := by
  cases mode with
  | human =>
    obtain ⟨before, between, after, messages, prints⟩ := emitHumanShow_output An args resolved w
    have lines := congrArg (List.map fun s => Emitted.line s!"identityfile {s}") alike
    rw [List.map_map, List.map_map] at lines
    refine (prints resolved.user files).trans (Eq.trans ?_ (prints resolved.user files').symm)
    exact congrArg (fun identities => (w.stdout ++ (before ++ ((resolved.user.toList.map fun v =>
      .line s!"user {v}") ++ (between ++ (identities ++ after)))), messages)) lines
  | json =>
    unfold emitShow emitJsonShow
    dsimp only
    rw [alike]

theorem emitHumanShow_tells (args : ConfigShowArgs) (resolved : ResolvedSshConfig)
    {files files' : List OsPath} {w : World Ag Va Te}
    (single : ∀ p ∈ files ++ files', '\n' ∉ (displayPath p args.showSecrets).toList)
    (same : (emitHumanShow An args { resolved with identityFiles := files } w).2.printed =
      (emitHumanShow An args { resolved with identityFiles := files' } w).2.printed) :
    files.map (fun p => displayPath p args.showSecrets) =
      files'.map (fun p => displayPath p args.showSecrets) := by
  obtain ⟨before, between, after, messages, prints⟩ := emitHumanShow_output An args resolved w
  have stdout := fun files => congrArg Prod.fst (prints resolved.user files)
  dsimp only [World.output] at stdout
  unfold World.printed at same
  rw [Prod.mk.injEq, stdout files, stdout files'] at same
  -- What was printed before and behind the identity files cancels.
  have between := same.1
  simp only [List.flatMap_append, List.append_cancel_left_eq, List.append_cancel_right_eq]
    at between
  have text (p : OsPath) (member : p ∈ files ++ files') :
      '\n' ∉ s!"identityfile {displayPath p args.showSecrets}".toList := by
    simpa [toString] using single p member
  have lines : (files.map fun p => s!"identityfile {displayPath p args.showSecrets}") =
      files'.map fun p => s!"identityfile {displayPath p args.showSecrets}" := by
    apply lines_of_written
    · simpa using fun p member => text p (List.mem_append_left _ member)
    · simpa using fun p member => text p (List.mem_append_right _ member)
    · simpa [List.map_map, Function.comp_def] using between
  have injective : ∀ s t : String, s!"identityfile {s}" = s!"identityfile {t}" → s = t := by
    intro s t same
    simpa [toString] using same
  rw [← List.map_inj_right injective, List.map_map, List.map_map]
  exact lines

theorem emitJsonShow_tells (args : ConfigShowArgs) (resolved : ResolvedSshConfig)
    {files files' : List OsPath} {w : World Ag Va Te}
    (same : (emitJsonShow An args { resolved with identityFiles := files } w).2.printed =
      (emitJsonShow An args { resolved with identityFiles := files' } w).2.printed) :
    files.map (fun p => displayPath p args.showSecrets) =
      files'.map (fun p => displayPath p args.showSecrets) := by
  obtain ⟨found, messages, trust⟩ := certAndRevokedJson_run An args.host
    resolved.userKnownHostsFiles.head? "gitway config show" w
  unfold emitJsonShow at same
  rw [Fallible.bind_of_ok trust, Fallible.bind_of_ok trust] at same
  -- All other members of the two documents are the same.
  have shown : Json.arr ((files.map fun p => displayPath p args.showSecrets).map .str) =
      .arr ((files'.map fun p => displayPath p args.showSecrets).map .str) := by
    simp only [World.printed, Fallible.bind_of_ok (Program.environment_run _),
      Program.emitJson_run, Prod.mk.injEq, List.flatMap_append, List.append_cancel_left_eq,
      List.flatMap_cons, List.flatMap_nil, List.append_nil, Emitted.written, List.cons.injEq,
      Written.json.injEq, Json.obj.injEq, true_and, and_true] at same
    exact same.1
  rw [Json.arr.injEq] at shown
  exact (List.map_inj_right fun _ _ => Json.str.inj).mp shown

/-- The text printed tells what the identity files are shown by. -/
theorem emitShow_tells (args : ConfigShowArgs) (mode : OutputMode) (resolved : ResolvedSshConfig)
    {files files' : List OsPath} {w : World Ag Va Te}
    (single : ∀ p ∈ files ++ files', '\n' ∉ (displayPath p args.showSecrets).toList)
    (same : (emitShow An args mode { resolved with identityFiles := files } w).2.printed =
      (emitShow An args mode { resolved with identityFiles := files' } w).2.printed) :
    files.map (fun p => displayPath p args.showSecrets) =
      files'.map (fun p => displayPath p args.showSecrets) := by
  cases mode with
  | human => exact emitHumanShow_tells An args resolved single same
  | json => exact emitJsonShow_tells An args resolved same

theorem displayPath_single {path : OsPath} {showSecrets : Bool}
    (single : '\n' ∉ path.toStringLossy.toList) :
    '\n' ∉ (displayPath path showSecrets).toList := by
  unfold displayPath
  split
  · exact single
  · decide

/-- Without `--show-secrets` a change of identity files that keeps the text each is shown by
does not show. All recognised paths are shown by the same text, and no other change is hidden
but by the newlines of a path. -/
theorem show_same_iff_shown_alike (args : ConfigShowArgs) (hidden : args.showSecrets = false)
    (mode : OutputMode) (resolved : ResolvedSshConfig) (files files' : List OsPath)
    (read : ∀ p ∈ files ++ files', ¬FailsOpen p) (w : World Ag Va Te) :
    (List.Forall₂ ShownAlike files files' →
      (emitShow An args mode { resolved with identityFiles := files } w).2.printed =
        (emitShow An args mode { resolved with identityFiles := files' } w).2.printed) ∧
    ((∀ p ∈ files ++ files', '\n' ∉ p.toStringLossy.toList) →
      (emitShow An args mode { resolved with identityFiles := files } w).2.printed =
        (emitShow An args mode { resolved with identityFiles := files' } w).2.printed →
      List.Forall₂ ShownAlike files files') := by
  rw [← map_displayPath_eq_iff read, ← hidden]
  constructor
  · intro alike
    exact World.printed_of_output (emitShow_same An args mode resolved w alike)
  · intro single same
    exact emitShow_tells An args mode resolved
      (fun p member => displayPath_single (single p member)) same

/-! ### A key kept elsewhere -/

open Reference

private def atHome : RefWorld := world [] [] ⟨false, []⟩ ⟨[]⟩ ⟨[]⟩

private def showArgs : ConfigShowArgs := ⟨"git.example.org", none, none, false⟩

private def deploy : OsPath := Utf8.ascii "/home/u/keys/deploy"

theorem ed25519_shown_as_rsa :
    (emitShow RefAnvil showArgs .human { ResolvedSshConfig.bare with
        identityFiles := [Utf8.ascii "/home/u/.ssh/id_ed25519", deploy] } atHome).2.printed =
      (emitShow RefAnvil showArgs .human { ResolvedSshConfig.bare with
        identityFiles := [Utf8.ascii "/home/v/.ssh/id_rsa", deploy] } atHome).2.printed :=
  (show_same_iff_shown_alike RefAnvil showArgs rfl .human .bare _ _ (by decide) atHome).1
    (.cons (by decide) (.cons (by decide) .nil))

/-- A private key outside the usual directories is shown, and its name tells it apart. -/
theorem deploy_key_shown :
    let deploy := Utf8.ascii "/home/u/keys/deploy"
    let other := Utf8.ascii "/home/u/keys/other"
    (∀ p ∈ [deploy, other], ∃ name, (OsPath.fileName p).bind OsPath.toStr = some name ∧
      extension name = none) ∧
    showArgs.showSecrets = false ∧
    ∀ mode,
      (emitShow RefAnvil showArgs mode { ResolvedSshConfig.bare with identityFiles := [deploy] }
        atHome).2.printed ≠
      (emitShow RefAnvil showArgs mode { ResolvedSshConfig.bare with identityFiles := [other] }
        atHome).2.printed := by
  intro deploy other
  refine ⟨?_, rfl, fun mode same => ?_⟩
  · intro p member
    rcases List.mem_pair.mp member with rfl | rfl
    · exact ⟨"deploy", by decide, by decide⟩
    · exact ⟨"other", by decide, by decide⟩
  · have shown := emitShow_tells RefAnvil showArgs mode .bare (by decide) same
    exact absurd shown (by decide)

end Config

end Gitway
