import Gitway.Lib.Directives
import Gitway.Reference

/-!
# What is logged

The number of `-v` and the `--debug-categories` become the directives of a filter, and
`RUST_LOG` takes their place where it is set. `enabled_iff` reads off the command line which
records pass, and `more_flags_keep_records_iff` says when more flags lose none of them.
-/
namespace Gitway.Tracing

open Lib Lib.Directives

/-! ### Filters: the `tracing-subscriber` crate -/

/-- The levels of a record, from the gravest on. -/
inductive Level where
  | error
  | warn
  | info
  | debug
  | trace
  deriving DecidableEq, Repr

def Level.depth : Level → Nat
  | .error => 0
  | .warn => 1
  | .info => 2
  | .debug => 3
  | .trace => 4

instance : LE Level where
  le l m := l.depth ≤ m.depth

instance (l m : Level) : Decidable (l ≤ m) := inferInstanceAs (Decidable (l.depth ≤ m.depth))

def Level.name : Level → String
  | .error => "error"
  | .warn => "warn"
  | .info => "info"
  | .debug => "debug"
  | .trace => "trace"

/-- A directive for the targets with a given start, or for all. -/
structure Directive where
  target : Option String
  level : Level
  deriving DecidableEq, Repr

def Directive.text (d : Directive) : String :=
  match d.target with
  | none => d.level.name
  | some target => s!"{target}={d.level.name}"

def Directive.rule (d : Directive) : Rule Char Level := ⟨(d.target.getD "").toList, d.level⟩

/-- `EnvFilter`, with the question whether a record of a target passes it. -/
class EnvFilter (Fi : Type) where
  new : String → Fi
  tryFromDefaultEnv : Environment → Except String Fi
  enabled : Fi → String → Level → Bool

/-- A target as modules are named, so that nothing in it is part of the syntax of directives. -/
def WellNamed (target : String) : Prop :=
  target ≠ "" ∧ ∀ c ∈ target.toList, c.isAlphanum ∨ c = '_' ∨ c = ':' ∨ c = '-'

instance (target : String) : Decidable (WellNamed target) :=
  @instDecidableAnd _ _ inferInstance (List.decidableBAll _ target.toList)

/-- What the code relies on of filters: a record passes up to the level of the most specific
directive for its target. -/
def ReadsDirectives (Fi : Type) [EnvFilter Fi] : Prop :=
  ∀ ds : List Directive, (∀ d ∈ ds, ∀ target, d.target = some target → WellNamed target) →
    ∀ target level,
      EnvFilter.enabled (EnvFilter.new (",".intercalate (ds.map Directive.text)) : Fi) target
          level = true ↔
        ∃ r, deciding target.toList (ds.map Directive.rule) = some r ∧ level ≤ r.value

/-! ### Initialization -/

def expandCategory : String → String
  | "kex" => "anvil_ssh::kex"
  | "auth" => "anvil_ssh::auth"
  | "channel" => "anvil_ssh::channel"
  | "config" => "anvil_ssh::config"
  | other => other

def buildFilterDirective (verbose : Nat) (debugCategories : List String) : String :=
  if debugCategories.isEmpty then
    match verbose with
    | 0 => "warn"
    | 1 => "gitway=info,anvil_ssh=info,russh=warn"
    | 2 => "gitway=debug,anvil_ssh=debug,russh=info"
    | _ => "gitway=trace,anvil_ssh=trace,russh=info"
  else
    let level :=
      match verbose with
      | 0 => "warn"
      | 1 => "info"
      | 2 => "debug"
      | _ => "trace"
    let directives := debugCategories.map fun cat => s!"{expandCategory cat}={level}"
    ",".intercalate ("warn" :: directives)

/-- The filter of the subscriber. -/
def initTracingSubscriber (Fi : Type) [EnvFilter Fi] (env : Environment) (verbose : Nat)
    (debugCategories : List String) : Fi :=
  match EnvFilter.tryFromDefaultEnv env with
  | .ok filter => filter
  | .error _ => EnvFilter.new (buildFilterDirective verbose debugCategories)

/-! ### The directives -/

def levelOf : Nat → Level
  | 0 => .warn
  | 1 => .info
  | 2 => .debug
  | _ => .trace

/-- What the directives of the filter say without their syntax. -/
def directives (verbose : Nat) (debugCategories : List String) : List Directive :=
  if debugCategories = [] then
    if verbose = 0 then [⟨none, .warn⟩]
    else [⟨some "gitway", levelOf verbose⟩, ⟨some "anvil_ssh", levelOf verbose⟩,
      ⟨some "russh", if verbose = 1 then .warn else .info⟩]
  else ⟨none, .warn⟩ :: debugCategories.map fun cat => ⟨some (expandCategory cat), levelOf verbose⟩

theorem buildFilterDirective_text (verbose : Nat) (cats : List String) :
    buildFilterDirective verbose cats =
      ",".intercalate ((directives verbose cats).map Directive.text) := by
  cases cats with
  | nil => rcases verbose with _ | _ | _ | _ <;> rfl
  | cons cat cats =>
    rcases verbose with _ | _ | _ | _ <;>
      simp [buildFilterDirective, directives, Directive.text, levelOf, Level.name] <;> rfl

theorem wellNamed_expandCategory {cat : String} (named : WellNamed cat) :
    WellNamed (expandCategory cat) := by
  unfold expandCategory
  split
  · decide
  · decide
  · decide
  · decide
  · exact named

theorem directives_wellNamed {verbose : Nat} {cats : List String}
    (named : ∀ cat ∈ cats, WellNamed cat) :
    ∀ d ∈ directives verbose cats, ∀ target, d.target = some target → WellNamed target := by
  unfold directives
  split
  · split
    · simp
    · simp only [List.mem_cons, List.not_mem_nil, or_false]
      rintro d (rfl | rfl | rfl) target ⟨⟩ <;> decide
  · rw [List.forall_mem_cons, List.forall_mem_map]
    refine ⟨by simp, ?_⟩
    rintro cat listed target ⟨⟩
    exact wellNamed_expandCategory (named cat listed)

/-! ### What passes -/

/-- A record of the target passes at this level, as the command line has it. -/
def Shown (verbose : Nat) (cats : List String) (target : String) (level : Level) : Prop :=
  if cats = [] then
    if verbose = 0 then level ≤ .warn
    else
      -- Nothing is recorded of any other target, whatever its level.
      (Text.startsWith target "gitway" ∨ Text.startsWith target "anvil_ssh") ∧
          level ≤ levelOf verbose ∨
        Text.startsWith target "russh" ∧ level ≤ if verbose = 1 then .warn else .info
  else level ≤ .warn ∨
    level ≤ levelOf verbose ∧ ∃ cat ∈ cats, Text.startsWith target (expandCategory cat)

theorem le_levelOf_of_le_warn {level : Level} (grave : level ≤ .warn) (verbose : Nat) :
    level ≤ levelOf verbose := by
  have least : Level.warn ≤ levelOf verbose := by
    rcases verbose with _ | _ | _ | _ <;> exact Nat.le_of_ble_eq_true rfl
  exact Nat.le_trans grave least

theorem startsWith_iff {s start : String} :
    Text.startsWith s start = true ↔ start.toList <+: s.toList := by
  unfold Text.startsWith
  exact List.isPrefixOf_iff_prefix

/-- With categories the rule for all targets is there, and the others all allow the same. -/
theorem decides_categories (verbose : Nat) {cats : List String}
    (named : ∀ cat ∈ cats, WellNamed cat) (some_cat : cats ≠ []) (target : String) (level : Level) :
    (∃ r, deciding target.toList ((directives verbose cats).map Directive.rule) = some r ∧
      level ≤ r.value) ↔ Shown verbose cats target level := by
  have rules : (directives verbose cats).map Directive.rule =
      ⟨[], .warn⟩ :: (cats.map fun cat => (expandCategory cat).toList).map fun s =>
        ⟨s, levelOf verbose⟩ := by
    simp [directives, some_cat, Directive.rule]
  have proper : ∀ s ∈ cats.map fun cat => (expandCategory cat).toList, s ≠ [] := by
    rw [List.forall_mem_map]
    intro cat listed empty
    exact (wellNamed_expandCategory (named cat listed)).1 (String.toList_eq_nil_iff.mp empty)
  rw [rules]
  obtain ⟨r, decides⟩ := Option.ne_none_iff_exists'.mp
    (deciding_ne_none : deciding target.toList (⟨[], .warn⟩ :: (cats.map fun cat =>
      (expandCategory cat).toList).map fun s => (⟨s, levelOf verbose⟩ : Rule Char Level)) ≠ none)
  have value := deciding_value proper decides
  simp only [Shown, some_cat, if_false, startsWith_iff]
  simp only [List.mem_map, exists_exists_and_eq_and] at value
  constructor
  · rintro ⟨other, decides', passes⟩
    obtain rfl := Option.some.inj (decides'.symm.trans decides)
    rw [value] at passes
    split at passes
    · rename_i covered
      exact Or.inr ⟨passes, covered⟩
    · exact Or.inl passes
  · intro shown
    refine ⟨r, decides, ?_⟩
    rw [value]
    split
    · exact shown.elim (fun grave => le_levelOf_of_le_warn grave verbose) And.left
    · rename_i uncovered
      exact shown.elim id fun covered => absurd covered.2 uncovered

theorem no_start {s start : String} (other : Text.startsWith s start = false) :
    ¬ start.toList <+: s.toList := by
  rw [← startsWith_iff, other]
  exact Bool.false_ne_true

/-- No target starts with two of the names that have a directive of their own. -/
theorem starts_apart {start start' target : String} (apart : ¬ start.toList <+: start'.toList)
    (apart' : ¬ start'.toList <+: start.toList) (starts : Text.startsWith target start = true) :
    Text.startsWith target start' = false := by
  cases starts' : Text.startsWith target start' with
  | false => rfl
  | true =>
    have either := List.prefix_or_prefix_of_prefix (startsWith_iff.mp starts)
      (startsWith_iff.mp starts')
    rcases either with within | within
    · exact absurd within apart
    · exact absurd within apart'

theorem gitway_not_anvil {target : String} (starts : Text.startsWith target "gitway" = true) :
    Text.startsWith target "anvil_ssh" = false :=
  starts_apart (by decide) (by decide) starts

theorem gitway_not_russh {target : String} (starts : Text.startsWith target "gitway" = true) :
    Text.startsWith target "russh" = false :=
  starts_apart (by decide) (by decide) starts

theorem anvil_not_russh {target : String} (starts : Text.startsWith target "anvil_ssh" = true) :
    Text.startsWith target "russh" = false :=
  starts_apart (by decide) (by decide) starts

theorem decides_default (verbose : Nat) (target : String) (level : Level) :
    (∃ r, deciding target.toList ((directives verbose []).map Directive.rule) = some r ∧
      level ≤ r.value) ↔ Shown verbose [] target level := by
  by_cases quiet : verbose = 0
  · have rules : (directives verbose []).map Directive.rule = [⟨[], .warn⟩] := by
      simp [directives, quiet, Directive.rule]
    rw [rules, deciding_alone List.nil_prefix (by simp)]
    simp [Shown, quiet]
  have rules : (directives verbose []).map Directive.rule =
      [⟨"gitway".toList, levelOf verbose⟩, ⟨"anvil_ssh".toList, levelOf verbose⟩,
        ⟨"russh".toList, if verbose = 1 then .warn else .info⟩] := by
    simp only [directives, quiet, if_true, if_false]
    rfl
  rw [rules]
  by_cases own : Text.startsWith target "gitway" = true
  · have anvil := gitway_not_anvil own
    have russh := gitway_not_russh own
    rw [deciding_alone (startsWith_iff.mp own) (List.forall_mem_cons.mpr ⟨no_start anvil,
      List.forall_mem_cons.mpr ⟨no_start russh, by simp⟩⟩)]
    simp [Shown, quiet, own, anvil, russh]
  rw [deciding_cons_of_not (mt startsWith_iff.mpr own)]
  by_cases anvil : Text.startsWith target "anvil_ssh" = true
  · have russh := anvil_not_russh anvil
    rw [deciding_alone (startsWith_iff.mp anvil)
      (List.forall_mem_cons.mpr ⟨no_start russh, by simp⟩)]
    simp [Shown, quiet, own, anvil, russh]
  rw [deciding_cons_of_not (mt startsWith_iff.mpr anvil)]
  by_cases russh : Text.startsWith target "russh" = true
  · rw [deciding_alone (startsWith_iff.mp russh) (by simp)]
    simp [Shown, quiet, own, anvil, russh]
  · rw [deciding_cons_of_not (mt startsWith_iff.mpr russh)]
    simp [Shown, quiet, own, anvil, russh, deciding]

/-- What the filter lets through, where `RUST_LOG` does not stand in for the command line. -/
theorem enabled_iff {Fi : Type} [EnvFilter Fi] (reads : ReadsDirectives Fi) {env : Environment}
    {e : String} (unset : (EnvFilter.tryFromDefaultEnv env : Except String Fi) = .error e)
    {cats : List String} (named : ∀ cat ∈ cats, WellNamed cat) (verbose : Nat) (target : String)
    (level : Level) :
    EnvFilter.enabled (initTracingSubscriber Fi env verbose cats) target level = true ↔
      Shown verbose cats target level := by
  unfold initTracingSubscriber
  rw [unset]
  dsimp only
  rw [buildFilterDirective_text, reads _ (directives_wellNamed named)]
  by_cases none_given : cats = []
  · rw [none_given]
    exact decides_default verbose target level
  · exact decides_categories verbose named none_given target level

/-! ### More flags -/

theorem levelOf_mono {verbose verbose' : Nat} (louder : verbose ≤ verbose') :
    levelOf verbose ≤ levelOf verbose' := by
  rcases verbose with _ | _ | _ | _ <;> rcases verbose' with _ | _ | _ | _ <;>
    first | exact Nat.le_of_ble_eq_true rfl | omega

theorem startsWith_trans {s t u : String} (first : Text.startsWith s t = true)
    (second : Text.startsWith t u = true) : Text.startsWith s u = true :=
  startsWith_iff.mpr ((startsWith_iff.mp second).trans (startsWith_iff.mp first))

/-- The level at which the directives leave `russh` without a category. -/
theorem russh_mono {verbose verbose' : Nat} (louder : verbose ≤ verbose') (loud : verbose ≠ 0) :
    (if verbose = 1 then Level.warn else .info) ≤ if verbose' = 1 then .warn else .info := by
  split
  · split <;> exact Nat.le_of_ble_eq_true rfl
  · rw [if_neg (by omega)]
    exact Nat.le_refl _

theorem russh_le_levelOf {verbose : Nat} (loud : verbose ≠ 0) :
    (if verbose = 1 then Level.warn else .info) ≤ levelOf verbose := by
  rcases verbose with _ | _ | _ | _
  · exact absurd rfl loud
  all_goals exact Nat.le_of_ble_eq_true rfl

/-- All records of the target have a category of their own. -/
def Covered (cats : List String) (target : String) : Prop :=
  ∃ cat ∈ cats, Text.startsWith target (expandCategory cat)

theorem Covered.extend {cats : List String} {start target : String} (covered : Covered cats start)
    (starts : Text.startsWith target start = true) : Covered cats target := by
  obtain ⟨cat, listed, within⟩ := covered
  exact ⟨cat, listed, startsWith_trans starts within⟩

/-- More `-v` and more categories keep every record there was. -/
def KeepsAll (verbose verbose' : Nat) (cats cats' : List String) : Prop :=
  cats ≠ [] ∨
    if cats' = [] then verbose = 0 → verbose' = 0
    else verbose = 0 ∨ Covered cats' "gitway" ∧ Covered cats' "anvil_ssh" ∧
      (verbose = 1 ∨ Covered cats' "russh")

variable {verbose verbose' : Nat} {cats cats' : List String}

/-- With the first category the records of all else are down to warnings. -/
theorem Shown.of_keepsAll (louder : verbose ≤ verbose') (more : ∀ cat ∈ cats, cat ∈ cats')
    (keeps : KeepsAll verbose verbose' cats cats') {target : String} {level : Level}
    (shown : Shown verbose cats target level) : Shown verbose' cats' target level := by
  by_cases none_given : cats = []
  · have keeps := keeps.resolve_left (not_not.mpr none_given)
    simp only [Shown, none_given, if_true] at shown
    by_cases quiet : verbose = 0
    · -- Every warning is still recorded.
      simp only [quiet, if_true] at shown
      by_cases none_after : cats' = []
      · simp only [none_after, if_true] at keeps
        simpa [Shown, none_after, keeps quiet] using shown
      · simpa [Shown, none_after] using Or.inl shown
    have loud : verbose' ≠ 0 := by omega
    simp only [quiet, if_false] at shown
    by_cases none_after : cats' = []
    · simp only [Shown, none_after, loud, if_true, if_false]
      refine shown.imp (fun own => ⟨own.1, Nat.le_trans own.2 (levelOf_mono louder)⟩) ?_
      rintro ⟨starts, low⟩
      exact ⟨starts, Nat.le_trans low (russh_mono louder quiet)⟩
    · simp only [none_after, if_false, quiet, false_or] at keeps
      simp only [Shown, none_after, if_false]
      rcases shown with ⟨own, low⟩ | ⟨russh, low⟩
      · refine Or.inr ⟨Nat.le_trans low (levelOf_mono louder), ?_⟩
        exact own.elim keeps.1.extend keeps.2.1.extend
      · rcases keeps.2.2 with once | covered
        · simp only [once, if_true] at low
          exact Or.inl low
        · refine Or.inr ⟨Nat.le_trans low ?_, covered.extend russh⟩
          exact Nat.le_trans (russh_le_levelOf quiet) (levelOf_mono louder)
  · have some_after : cats' ≠ [] := by
      rintro rfl
      exact none_given (List.eq_nil_iff_forall_not_mem.mpr fun cat listed =>
        List.not_mem_nil (more cat listed))
    simp only [Shown, none_given, if_false] at shown
    simp only [Shown, some_after, if_false]
    refine shown.imp id ?_
    rintro ⟨low, cat, listed, starts⟩
    exact ⟨Nat.le_trans low (levelOf_mono louder), cat, more cat listed, starts⟩

theorem info_le_levelOf {verbose : Nat} (loud : verbose ≠ 0) : Level.info ≤ levelOf verbose := by
  rcases verbose with _ | _ | _ | _
  · exact absurd rfl loud
  all_goals exact Nat.le_of_ble_eq_true rfl

/-- Above a warning a record needs a category. -/
theorem covered_of_shown {target : String} (some_given : cats ≠ [])
    (shown : Shown verbose cats target .info) : Covered cats target := by
  simp only [Shown, some_given, if_false] at shown
  exact (shown.resolve_left (by decide)).2

theorem keepsAll_of_shown (keeps : ∀ target level, Shown verbose cats target level →
    Shown verbose' cats' target level) : KeepsAll verbose verbose' cats cats' := by
  by_cases none_given : cats = []
  · refine Or.inr ?_
    subst none_given
    by_cases none_after : cats' = []
    · rw [if_pos none_after]
      intro quiet
      by_contra loud
      -- The errors of some other crate are lost.
      have lost := keeps "zbus" .error (by simp only [Shown, quiet, if_true]; decide)
      simp only [Shown, none_after, loud, if_true, if_false] at lost
      rcases lost with ⟨own, _⟩ | ⟨russh, _⟩
      · exact absurd own (by decide)
      · exact absurd russh (by decide)
    · rw [if_neg none_after]
      by_cases quiet : verbose = 0
      · exact Or.inl quiet
      have own (name : String) (is_own : Text.startsWith name "gitway" ∨
          Text.startsWith name "anvil_ssh") : Covered cats' name := by
        refine covered_of_shown none_after (keeps name .info ?_)
        simp only [Shown, quiet, if_true, if_false]
        exact Or.inl ⟨is_own, info_le_levelOf quiet⟩
      refine Or.inr ⟨own "gitway" (Or.inl (by decide)), own "anvil_ssh" (Or.inr (by decide)), ?_⟩
      by_cases once : verbose = 1
      · exact Or.inl once
      · refine Or.inr (covered_of_shown none_after (keeps "russh" .info ?_))
        simp only [Shown, quiet, once, if_true, if_false]
        exact Or.inr ⟨by decide, Nat.le_refl _⟩
  · exact Or.inl none_given

/-- Raising the verbosity and naming more categories keeps every record that there was, but
for the step from no flag to the first one. With `-v` alone the warnings of all other crates
go, and with the first category the levels of those targets that none of them covers. -/
theorem more_flags_keep_records_iff {Fi : Type} [EnvFilter Fi] (reads : ReadsDirectives Fi)
    {env : Environment} {e : String}
    (unset : (EnvFilter.tryFromDefaultEnv env : Except String Fi) = .error e)
    (named : ∀ cat ∈ cats', WellNamed cat) (more : ∀ cat ∈ cats, cat ∈ cats')
    (louder : verbose ≤ verbose') :
    (∀ target level,
      EnvFilter.enabled (initTracingSubscriber Fi env verbose cats) target level = true →
        EnvFilter.enabled (initTracingSubscriber Fi env verbose' cats') target level = true) ↔
      KeepsAll verbose verbose' cats cats' := by
  have before := enabled_iff reads unset fun cat listed => named cat (more cat listed)
  have after := enabled_iff reads unset named
  simp only [before, after]
  exact ⟨keepsAll_of_shown, fun keeps target level shown => shown.of_keepsAll louder more keeps⟩

/-! ### A filter -/

def Level.ofName : List Char → Option Level
  | ['e', 'r', 'r', 'o', 'r'] => some .error
  | ['w', 'a', 'r', 'n'] => some .warn
  | ['i', 'n', 'f', 'o'] => some .info
  | ['d', 'e', 'b', 'u', 'g'] => some .debug
  | ['t', 'r', 'a', 'c', 'e'] => some .trace
  | _ => none

theorem Level.ofName_name (level : Level) : Level.ofName level.name.toList = some level := by
  cases level <;> decide

theorem Level.name_plain (level : Level) : '=' ∉ level.name.toList ∧ ',' ∉ level.name.toList := by
  cases level <;> decide

def readDirective (text : List Char) : Option Directive :=
  match text.splitOn '=' with
  | [level] => (Level.ofName level).map fun level => ⟨none, level⟩
  | [target, level] => (Level.ofName level).map fun level => ⟨some (String.ofList target), level⟩
  | _ => none

/-- A filter that is its list of directives. What is no directive is passed over. -/
structure RefFilter where
  directives : List Directive

instance : EnvFilter RefFilter where
  new text := ⟨(text.toList.splitOn ',').filterMap readDirective⟩
  tryFromDefaultEnv env :=
    match env.var "RUST_LOG" with
    | some text => .ok ⟨(text.toList.splitOn ',').filterMap readDirective⟩
    | none => .error "environment variable not found"
  enabled filter target level :=
    match deciding target.toList (filter.directives.map Directive.rule) with
    | some r => decide (level ≤ r.value)
    | none => false

theorem WellNamed.plain {target : String} (named : WellNamed target) :
    '=' ∉ target.toList ∧ ',' ∉ target.toList := by
  constructor
  · intro member
    exact absurd (named.2 '=' member) (by decide)
  · intro member
    exact absurd (named.2 ',' member) (by decide)

theorem Directive.text_toList (d : Directive) : d.text.toList =
    (d.target.elim [] fun target => target.toList ++ ['=']) ++ d.level.name.toList := by
  rcases d with ⟨_ | target, level⟩
  · rfl
  · simp [Directive.text]
    rfl

theorem readDirective_text {d : Directive}
    (named : ∀ target, d.target = some target → WellNamed target) :
    readDirective d.text.toList = some d := by
  have level := d.level.name_plain.1
  rw [d.text_toList]
  rcases d with ⟨_ | target, l⟩
  · simp [readDirective, List.splitOn_eq_singleton level, Level.ofName_name]
  · have plain := (named target rfl).plain.1
    simp only [Option.elim_some, List.append_assoc, List.singleton_append]
    unfold readDirective
    rw [List.splitOn_append_cons_self_of_not_mem plain, List.splitOn_eq_singleton level]
    simp [Level.ofName_name]

theorem comma_not_mem_text {d : Directive}
    (named : ∀ target, d.target = some target → WellNamed target) : ',' ∉ d.text.toList := by
  have level := d.level.name_plain.2
  rw [d.text_toList]
  rcases d with ⟨_ | target, l⟩
  · simpa using level
  · have plain := (named target rfl).plain.2
    simp [plain, level]

theorem new_texts (ds : List Directive)
    (named : ∀ d ∈ ds, ∀ target, d.target = some target → WellNamed target) :
    (EnvFilter.new (",".intercalate (ds.map Directive.text)) : RefFilter) = ⟨ds⟩ := by
  have read : ∀ ds : List Directive, (∀ d ∈ ds, ∀ target, d.target = some target →
      WellNamed target) → (ds.map fun d => d.text.toList).filterMap readDirective = ds := by
    intro ds named
    rw [List.filterMap_map]
    conv_rhs => rw [← List.filterMap_some (l := ds)]
    exact List.filterMap_congr fun d listed => readDirective_text (named d listed)
  have split : (",".intercalate (ds.map Directive.text)).toList.splitOn ',' =
      if ds = [] then [[]] else ds.map fun d => d.text.toList := by
    rw [String.toList_intercalate, List.map_map]
    split
    · rename_i none_given
      rw [none_given]
      rfl
    · rename_i some_given
      refine List.splitOn_intercalate ',' ?_ (by simpa using some_given)
      rw [List.forall_mem_map]
      exact fun d listed => comma_not_mem_text (named d listed)
  show (⟨_⟩ : RefFilter) = _
  rw [split]
  split
  · rename_i none_given
    rw [none_given]
    rfl
  · rw [read ds named]

theorem refFilter_reads : ReadsDirectives RefFilter := by
  intro ds named target level
  rw [new_texts ds named]
  simp only [EnvFilter.enabled]
  cases deciding target.toList (ds.map Directive.rule) with
  | none => simp
  | some r => simp

/-- `-vvv` with categories keeps what `-vv` without any shows, where the categories cover all
three crates. -/
theorem louder_keeps_records :
    let cats := ["kex", "russh", "gitway", "anvil_ssh"]
    ∀ target level,
      EnvFilter.enabled (initTracingSubscriber RefFilter (Reference.environment []) 2 [])
          target level = true →
        EnvFilter.enabled (initTracingSubscriber RefFilter (Reference.environment []) 3 cats)
          target level = true := by
  intro cats
  have covers : Covered cats "gitway" ∧ Covered cats "anvil_ssh" ∧ Covered cats "russh" :=
    ⟨⟨"gitway", by simp [cats], by decide⟩, ⟨"anvil_ssh", by simp [cats], by decide⟩,
      ⟨"russh", by simp [cats], by decide⟩⟩
  have keeps : KeepsAll 2 3 [] cats := by
    simp [KeepsAll, cats, covers]
  exact (more_flags_keep_records_iff refFilter_reads rfl (by decide) (by simp) (by decide)).mpr
    keeps

end Gitway.Tracing
