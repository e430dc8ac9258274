import Gitway.Text

/-!
# Paths

`Path::join`, `Path::parent` and `Path::is_absolute` on Unix, over the text of a
path, and the place in the file system that a path names. Text and place differ:
repeated separators and `.` segments belong to the text only.
-/
namespace Gitway.Path

def isAbsolute (path : String) : Bool := Text.startsWith path "/"

def join (base name : String) : String :=
  if isAbsolute name || base.isEmpty then name
  else if base.toList.getLast? = some '/' then base ++ name
  else base ++ "/" ++ name

def segments (path : String) : List (List Char) := path.toList.splitOn '/'

def render (segs : List (List Char)) : String := String.ofList (['/'].intercalate segs)

/-- Segments that name something: empty ones and `.` do not. -/
def isName (seg : List Char) : Bool := seg != [] && seg != ['.']

def parent (path : String) : Option String :=
  match segments path with
  | [] => none
  | first :: rest =>
    -- Separators and `.` segments at the end are no components.
    let body := rest.rdropWhile (!isName ·)
    if body.isEmpty then
      if first.isEmpty then none else some ""
    else
      let above := body.dropLast.rdropWhile (!isName ·)
      some (if first.isEmpty && above.isEmpty then "/" else render (first :: above))

/-- The names on the way from the root to the place that a path denotes for a
process whose working directory is `cwd`. A `..` is kept, since what it leads to
depends on the links on the way. -/
def locate (cwd path : String) : List (List Char) :=
  let names := (segments path).filter isName
  if isAbsolute path then names else (segments cwd).filter isName ++ names

/-! ### Segments -/

theorem segments_separator (s t : String) :
    segments (s ++ "/" ++ t) = segments s ++ segments t := by
  unfold segments
  have apart : (s ++ "/" ++ t).toList = s.toList ++ '/' :: t.toList := by
    simp [String.toList_append]
  rw [apart, List.splitOn_append_cons_self]

theorem segments_plain {name : String} (plain : '/' ∉ name.toList) :
    segments name = [name.toList] := List.splitOn_eq_singleton plain

/-- Pieces without a separator survive rendering and splitting. -/
theorem segments_render {segs : List (List Char)} (nonempty : segs ≠ [])
    (whole : ∀ seg ∈ segs, '/' ∉ seg) : segments (render segs) = segs := by
  unfold segments render
  rw [String.toList_ofList, List.splitOn_intercalate '/' whole nonempty]

theorem separator_notMem_segments {path : String} {seg : List Char}
    (member : seg ∈ segments path) : '/' ∉ seg := by
  unfold segments at member
  generalize path.toList = chars at member
  induction chars generalizing seg with
  | nil =>
    rw [List.splitOn_nil, List.mem_singleton] at member
    subst member
    exact List.not_mem_nil
  | cons c cs ih =>
    rw [List.splitOn_cons_eq_if_modifyHead] at member
    -- A separator starts a new segment, and any other character joins the first one.
    split at member
    · rcases List.mem_cons.mp member with rfl | later
      · exact List.not_mem_nil
      · exact ih later
    next other =>
      cases pieces : cs.splitOn '/' with
      | nil => exact absurd pieces (List.splitOn_ne_nil '/' cs)
      | cons piece more =>
        rw [pieces, List.modifyHead_cons, List.mem_cons] at member
        rcases member with rfl | later
        · have inner : '/' ∉ piece := ih (by simp [pieces])
          simp only [List.mem_cons, not_or]
          exact ⟨fun same => other (by simp [← same]), inner⟩
        · exact ih (by simp [pieces, later])

theorem isAbsolute_iff {path : String} :
    isAbsolute path = true ↔ ∃ rest, rest ≠ [] ∧ segments path = [] :: rest := by
  unfold isAbsolute Text.startsWith segments
  have root : "/".toList = ['/'] := rfl
  rw [root]
  cases path.toList with
  | nil => simp [List.splitOn_nil]
  | cons c cs =>
    rw [List.splitOn_cons_eq_if_modifyHead]
    split
    next opens =>
      have same : c = '/' := by simpa using opens
      subst same
      simp [List.isPrefixOf, List.splitOn_ne_nil]
    next other =>
      have differs : c ≠ '/' := by simpa using other
      cases pieces : cs.splitOn '/' with
      | nil => exact absurd pieces (List.splitOn_ne_nil '/' cs)
      | cons piece more => simp [List.isPrefixOf, Ne.symm differs]

theorem isAbsolute_append {s : String} (nonempty : s.isEmpty = false) (t : String) :
    isAbsolute (s ++ t) = isAbsolute s := by
  unfold isAbsolute Text.startsWith
  rw [String.toList_append]
  cases chars : s.toList with
  | nil => simp_all
  | cons c cs => rfl

/-- Segments that name nothing can be dropped at the end. -/
theorem filter_rdropWhile (segs : List (List Char)) :
    (segs.rdropWhile (!isName ·)).filter isName = segs.filter isName := by
  induction segs using List.reverseRecOn with
  | nil => rfl
  | append_singleton segs seg ih =>
    cases named : isName seg with
    | true => rw [List.rdropWhile_concat_neg _ _ _ (by simp [named])]
    | false =>
      rw [List.rdropWhile_concat_pos _ _ _ (by simp [named]), ih]
      simp [named]

/-! ### Joining a plain name, and taking it off again -/

/-- A file name: one segment, which names something. -/
def Plain (name : String) : Prop := '/' ∉ name.toList ∧ isName name.toList = true

instance (name : String) : Decidable (Plain name) := inferInstanceAs (Decidable (_ ∧ _))

theorem Plain.relative {name : String} (plain : Plain name) : isAbsolute name = false := by
  rw [Bool.eq_false_iff]
  intro rooted
  obtain ⟨rest, more, split⟩ := isAbsolute_iff.mp rooted
  rw [segments_plain plain.1] at split
  simp only [List.cons.injEq] at split
  exact more split.2.symm

theorem isAbsolute_join (base : String) {name : String} (relative : isAbsolute name = false) :
    isAbsolute (join base name) = isAbsolute base := by
  unfold join
  rw [relative, Bool.false_or]
  split
  next bare =>
    have empty : base = "" := by simpa using bare
    rw [relative, empty]
    rfl
  next some_text =>
    have nonempty : base.isEmpty = false := by simpa using some_text
    split
    · rw [isAbsolute_append nonempty]
    · rw [String.append_assoc, isAbsolute_append nonempty]

theorem segments_join (base : String) {name : String} (relative : isAbsolute name = false) :
    ∃ above, segments (join base name) = above ++ segments name ∧
      above.filter isName = (segments base).filter isName := by
  unfold join
  rw [relative, Bool.false_or]
  split
  next bare =>
    have empty : base = "" := by simpa using bare
    subst empty
    exact ⟨[], rfl, by decide⟩
  · split
    next closed =>
      -- The separator at the end of the base is the one that the name goes behind.
      obtain ⟨front, chars⟩ := List.getLast?_eq_some_iff.mp closed
      have cut : base = String.ofList front ++ "/" := by
        apply String.toList_injective
        rw [chars, String.toList_append, String.toList_ofList]
        rfl
      refine ⟨segments (String.ofList front), ?_, ?_⟩
      · rw [cut, segments_separator]
      · have last := segments_separator (String.ofList front) ""
        rw [String.append_empty] at last
        rw [cut, last, List.filter_append]
        have nothing : (segments "").filter isName = [] := by decide
        rw [nothing, List.append_nil]
    · exact ⟨segments base, by rw [segments_separator], rfl⟩

theorem locate_join (cwd base : String) {name : String} (relative : isAbsolute name = false) :
    locate cwd (join base name) = locate cwd base ++ (segments name).filter isName := by
  obtain ⟨above, split, same⟩ := segments_join base relative
  unfold locate
  rw [isAbsolute_join base relative, split, List.filter_append, same]
  split <;> simp

theorem locate_join_plain (cwd base : String) {name : String} (plain : Plain name) :
    locate cwd (join base name) = locate cwd base ++ [name.toList] := by
  rw [locate_join cwd base plain.relative, segments_plain plain.1]
  simp [plain.2]

/-- The text with a separator at its end. -/
private def closed (s : String) : String := if s.toList.getLast? = some '/' then s else s ++ "/"

private theorem closed_getLast (s : String) : (closed s).toList.getLast? = some '/' := by
  unfold closed
  split
  next there => exact there
  · simp [String.toList_append]

private theorem closed_append (s : String) {t : String} (nonempty : t.isEmpty = false) :
    closed (s ++ t) = s ++ closed t := by
  have last : (s ++ t).toList.getLast? = t.toList.getLast? := by
    rw [String.toList_append]
    cases chars : t.toList with
    | nil => simp_all
    | cons c cs => rw [List.getLast?_append, List.getLast?_cons, Option.some_or]
  unfold closed
  rw [last]
  split
  · rfl
  · rw [String.append_assoc]

private theorem join_relative {base name : String} (nonempty : base.isEmpty = false)
    (relative : isAbsolute name = false) : join base name = closed base ++ name := by
  unfold join closed
  rw [relative, nonempty]
  simp only [Bool.or_self, Bool.false_eq_true, if_false]
  split <;> rfl

theorem join_assoc (a b : String) {name : String} (relative : isAbsolute name = false) :
    join (join a b) name = join a (join b name) := by
  have inner := isAbsolute_join b relative
  cases rooted : isAbsolute b with
  | true =>
    have left : join a b = b := by simp [join, rooted]
    have right : join a (join b name) = join b name := by
      rw [join, inner, rooted]
      simp
    rw [left, right]
  | false =>
    rw [rooted] at inner
    cases bare : a.isEmpty with
    | true =>
      have skip (s : String) : join a s = s := by simp [join, bare]
      rw [skip, skip]
    | false =>
      rw [join_relative bare rooted, join_relative bare inner]
      -- Both sides come to `a`, `b` and the name with one separator between two of them.
      have more : (closed a ++ b).isEmpty = false := by
        rw [Bool.eq_false_iff]
        intro empty
        have ending := closed_getLast a
        simp_all
      rw [join_relative more relative]
      cases nothing : b.isEmpty with
      | true =>
        have empty : b = "" := by simpa using nothing
        subst empty
        have same : closed (closed a) = closed a := if_pos (closed_getLast a)
        have skip : join "" name = name := by simp [join]
        rw [String.append_empty, same, skip]
      | false => rw [closed_append _ nothing, join_relative nothing relative, String.append_assoc]

/-- The path with the working directory in front, where it has none of its own. -/
def absolute (cwd path : String) : String :=
  if isAbsolute path then path else join cwd path

theorem locate_absolute {cwd : String} (rooted : isAbsolute cwd = true) (c path : String) :
    locate c (absolute cwd path) = locate cwd path := by
  unfold absolute
  cases relative : isAbsolute path with
  | true => simp [locate, relative]
  | false =>
    simp only [Bool.false_eq_true, if_false]
    rw [locate_join c cwd relative]
    simp [locate, relative, rooted]

theorem absolute_join (cwd base : String) {name : String} (relative : isAbsolute name = false) :
    absolute cwd (join base name) = join (absolute cwd base) name := by
  unfold absolute
  rw [isAbsolute_join base relative]
  split
  · rfl
  · rw [join_assoc cwd base relative]

/-- The text that `parent` returns for what stands above the last name. -/
private def upper (first : List Char) (rest : List (List Char)) : String :=
  let above := rest.rdropWhile (!isName ·)
  if first.isEmpty && above.isEmpty then "/" else render (first :: above)

private theorem upper_names {first : List Char} {rest : List (List Char)}
    (whole : ∀ seg ∈ first :: rest, '/' ∉ seg) :
    (segments (upper first rest)).filter isName = (first :: rest).filter isName ∧
      (isAbsolute (upper first rest) = true ↔ first = []) := by
  unfold upper
  have kept := filter_rdropWhile rest
  have shorter : ∀ seg ∈ first :: rest.rdropWhile (!isName ·), '/' ∉ seg := by
    intro seg member
    rcases List.mem_cons.mp member with rfl | later
    · exact whole seg List.mem_cons_self
    · exact whole seg (List.mem_cons_of_mem _ ((List.rdropWhile_prefix _ rest).subset later))
  generalize rest.rdropWhile (!isName ·) = above at kept shorter
  dsimp only
  -- The root is written as one separator, and all other paths as their segments.
  split
  next root =>
    simp only [Bool.and_eq_true, List.isEmpty_iff] at root
    obtain ⟨rfl, rfl⟩ := root
    rw [List.filter_cons, ← kept]
    exact ⟨by decide, by decide⟩
  next deeper =>
    have pieces : segments (render (first :: above)) = first :: above :=
      segments_render (by simp) shorter
    rw [isAbsolute_iff, pieces, List.filter_cons, List.filter_cons, kept]
    refine ⟨rfl, ?_⟩
    constructor
    · rintro ⟨tail, _, opened⟩
      exact (List.cons.inj opened).1
    · rintro rfl
      exact ⟨above, by simpa using deeper, rfl⟩

/-- The parent of a joined name is the place it was joined to. -/
theorem parent_join (base : String) {name : String} (plain : Plain name) :
    ∃ up, parent (join base name) = some up ∧ ∀ cwd, locate cwd up = locate cwd base := by
  obtain ⟨above, split, same⟩ := segments_join base plain.relative
  rw [segments_plain plain.1] at split
  have rooted := isAbsolute_join base plain.relative
  have whole : ∀ seg ∈ above, '/' ∉ seg := by
    intro seg member
    have piece : seg ∈ segments (join base name) := by simp [split, member]
    exact separator_notMem_segments piece
  unfold parent
  rw [split]
  cases above with
  | nil =>
    -- Nothing stands above the name, so the base named the working directory.
    have relative : isAbsolute base = false := by
      rw [← rooted, Bool.eq_false_iff]
      intro absolute
      obtain ⟨rest, more, opened⟩ := isAbsolute_iff.mp absolute
      rw [split] at opened
      simp only [List.nil_append, List.cons.injEq] at opened
      exact more opened.2.symm
    have named : name.toList ≠ [] := by
      intro empty
      have kept := plain.2
      rw [empty] at kept
      exact absurd kept (by decide)
    refine ⟨"", by simp [named], fun cwd => ?_⟩
    unfold locate
    rw [relative, ← same]
    rfl
  | cons first rest =>
    -- An absolute path is one whose first segment is empty.
    have absolute_iff : isAbsolute base = true ↔ first = [] := by
      rw [← rooted, isAbsolute_iff, split]
      simp
    have body : (rest ++ [name.toList]).rdropWhile (!isName ·) = rest ++ [name.toList] :=
      List.rdropWhile_concat_neg _ _ _ (by simp [plain.2])
    obtain ⟨names, opens⟩ := upper_names whole
    have agree : isAbsolute (upper first rest) = isAbsolute base := by
      rw [Bool.eq_iff_iff, opens, absolute_iff]
    refine ⟨upper first rest, ?_, fun cwd => ?_⟩
    · simp only [List.cons_append, body, List.dropLast_concat]
      simp [upper]
    · unfold locate
      rw [agree, names, same]

end Gitway.Path
