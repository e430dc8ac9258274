import Gitway.Lib.Shell
import Mathlib.Data.List.Infix

/-!
# Words that read as they look

Which texts come through the reader as the words they look like: `lex_word_iff` for the
text of a single word, and the rules for whole commands made of such words.
-/
namespace Lib.Shell

/-- Every character stands for itself. `after` is the character behind the text. -/
def Dialect.Plain (d : Dialect) (after : Option Char) (begun : Bool) : List Char → Prop
  | [] => True
  | c :: cs => d.kind begun c (cs.head?.or after) = .plain ∧ Plain d after true cs

instance decidablePlain (d : Dialect) (after : Option Char) :
    (begun : Bool) → (cs : List Char) → Decidable (d.Plain after begun cs)
  | _, [] => isTrue trivial
  | _, _ :: cs =>
    have := decidablePlain d after true cs
    inferInstanceAs (Decidable (_ ∧ _))

variable {d : Dialect}

theorem emit_eq_ok_iff {ts us : List Token} {rest : Except Trouble (List Token)} :
    emit ts rest = .ok us ↔ ∃ more, rest = .ok more ∧ us = ts ++ more := by
  unfold emit
  cases rest with
  | error t => simp [Except.map]
  | ok more => simp [Except.map, eq_comm]

theorem emit_ok (ts more : List Token) : emit ts (.ok more) = .ok (ts ++ more) := rfl

attribute [local simp] lex

theorem lex_plain {p rest : List Char} {w : Word} (plain : d.Plain rest.head? true p) :
    lex d .bare (some w) (p ++ rest) = lex d .bare (some (w ++ unquoted p)) rest := by
  induction p generalizing w with
  | nil => simp [unquoted]
  | cons c cs ih =>
    obtain ⟨here, there⟩ := plain
    simp only [List.cons_append, lex, Option.isSome_some, List.head?_append, here]
    rw [extend, ih there]
    simp [unquoted]

theorem lex_plain_start {c : Char} {cs rest : List Char}
    (plain : d.Plain rest.head? false (c :: cs)) :
    lex d .bare none (c :: cs ++ rest) = lex d .bare (some (unquoted (c :: cs))) rest := by
  obtain ⟨here, there⟩ := plain
  simp only [List.cons_append, lex, Option.isSome_none, List.head?_append, here]
  rw [extend, lex_plain there]
  simp [unquoted]

theorem quotedKind_closing {q : Quote} {c : Char} {next : Option Char}
    (closing : d.quotedKind q c next = .closing) : c = q.char := by
  by_contra other
  simp only [Dialect.quotedKind, beq_iff_eq, other, if_false] at closing
  split_ifs at closing

/-- A text that opens quotes and does not close them is not read. -/
theorem lex_quoted_open {q : Quote} {cs : List Char} (unclosed : q.char ∉ cs) (cur : Option Word)
    (ts : List Token) :
    lex d (.quoted q) cur cs ≠ .ok ts ∧ lex d (.quotedEscaped q) cur cs ≠ .ok ts := by
  induction cs generalizing cur with
  | nil => simp [lex]
  | cons c cs ih =>
    simp only [List.mem_cons, not_or] at unclosed
    obtain ⟨other, unclosed⟩ := unclosed
    constructor
    · simp only [lex]
      split
      next closing => exact absurd (quotedKind_closing closing).symm other
      · exact (ih unclosed cur).2
      · simp
      · exact (ih unclosed _).1
    · simp only [lex]
      split
      · exact (ih unclosed cur).1
      · exact (ih unclosed _).1

/-- What follows a word in the texts looked at here: a semicolon and the end of the word,
and no quotes after that. -/
def Closes (tail : List Char) : Prop :=
  ∃ b rest, tail = ';' :: b :: rest ∧ (b = ' ' ∨ b = '\n') ∧ ∀ q : Quote, q.char ∉ rest

theorem Closes.unquoted {tail : List Char} (closes : Closes tail) (q : Quote) : q.char ∉ tail := by
  obtain ⟨b, rest, rfl, ends, none⟩ := closes
  have semicolon : q.char ≠ ';' := by cases q <;> decide
  have gap : q.char ≠ b := by
    rcases ends with rfl | rfl <;> cases q <;> decide
  simp [semicolon, gap, none q]

theorem lex_comment_head (cur : Option Word) (cs : List Char) (w : Word) (ts : List Token) :
    lex d .comment cur cs ≠ .ok (.word w :: ts) := by
  induction cs generalizing cur with
  | nil => simp [lex]
  | cons c cs ih =>
    simp only [lex]
    split
    · rw [ne_eq, emit_eq_ok_iff]
      simp
    · exact ih none

/-- At the end of a word either it comes first, or there was none. -/
theorem emit_flush_head {cur : Option Word} {between : List Token} {w : Word} {ts : List Token}
    {rest : Except Trouble (List Token)}
    (lexed : emit (flush cur ++ between) rest = .ok (.word w :: ts)) :
    cur = some w ∨ cur = none ∧ emit between rest = .ok (.word w :: ts) := by
  cases cur with
  | none => exact Or.inr ⟨rfl, lexed⟩
  | some v =>
    obtain ⟨more, _, same⟩ := emit_eq_ok_iff.mp lexed
    simp only [flush, Option.toList_some, List.map_cons, List.map_nil, List.cons_append,
      List.cons.injEq, Token.word.injEq] at same
    exact Or.inl (by rw [same.1])

theorem emit_separator_head {c : Char} {w : Word} {ts : List Token}
    {rest : Except Trouble (List Token)} :
    emit [.separator c] rest ≠ .ok (.word w :: ts) := by
  rw [ne_eq, emit_eq_ok_iff]
  simp

theorem emit_nil (rest : Except Trouble (List Token)) : emit [] rest = rest := by
  cases rest <;> rfl

theorem emit_blank_head {cur : Option Word} {w : Word} {ts : List Token}
    {rest : Except Trouble (List Token)}
    (lexed : emit (flush cur) rest = .ok (.word w :: ts)) :
    cur = some w ∨ cur = none ∧ rest = .ok (.word w :: ts) := by
  rw [← List.append_nil (flush cur)] at lexed
  have head := emit_flush_head lexed
  rwa [emit_nil] at head

/-- Between the words a semicolon comes through as it is, and behind a word it ends it. -/
theorem lex_closes {tail : List Char} (closes : Closes tail) (cur : Option Word) (w : Word)
    (ts : List Token) (lexed : lex d .bare cur tail = .ok (.word w :: ts)) : cur = some w := by
  obtain ⟨b, rest, rfl, _⟩ := closes
  have separator : d.kind cur.isSome ';' (b :: rest).head? = .separator := rfl
  simp only [lex, separator] at lexed
  rcases emit_flush_head lexed with word | ⟨_, other⟩
  · exact word
  · exact absurd other emit_separator_head

/-- An escaped semicolon is part of the word, which ends behind it. -/
theorem lex_escaped_closes {tail : List Char} (closes : Closes tail) (cur : Option Word) (w : Word)
    (ts : List Token) (lexed : lex d .escaped cur tail = .ok (.word w :: ts)) :
    w = cur.getD [] ++ [⟨';', true⟩] := by
  obtain ⟨b, rest, rfl, ends, _⟩ := closes
  have passed : lex d .escaped cur (';' :: b :: rest) =
      lex d .bare (some (cur.getD [] ++ [⟨';', true⟩])) (b :: rest) := rfl
  rw [passed] at lexed
  rcases ends with rfl | rfl
  · have blank : d.kind true ' ' rest.head? = .blank := rfl
    simp only [lex, Option.isSome_some, blank] at lexed
    rcases emit_blank_head lexed with word | ⟨absent, _⟩
    · exact (Option.some.inj word).symm
    · simp at absent
  · have separator : d.kind true '\n' rest.head? = .separator := rfl
    simp only [lex, Option.isSome_some, separator] at lexed
    rcases emit_flush_head lexed with word | ⟨absent, _⟩
    · exact (Option.some.inj word).symm
    · simp at absent

theorem length_extend (cur : Option Word) (c : Char) (quoted : Bool) :
    ((extend cur c quoted).getD []).length = (cur.getD []).length + 1 := by
  simp [extend]

/-- Step lemma: a character ends the word that was begun, or adds at most itself to it. A
backslash adds nothing yet. -/
theorem lex_word_step {st : Quoting} {cur : Option Word} {c : Char} {cs : List Char} {w : Word}
    {ts : List Token} (lexed : lex d st cur (c :: cs) = .ok (.word w :: ts)) :
    cur = some w ∨ ∃ st' cur', lex d st' cur' cs = .ok (.word w :: ts) ∧
      (cur'.getD []).length + (if st' = .escaped then 1 else 0) ≤ (cur.getD []).length + 1 := by
  have added (quoted : Bool) := length_extend cur c quoted
  -- One case for each equation of the reader; only three of them extend the word.
  cases st with
  | bare =>
    simp only [lex] at lexed
    split at lexed
    next blank =>
      rcases emit_blank_head lexed with word | ⟨_, later⟩
      · exact Or.inl word
      · exact Or.inr ⟨_, _, later, by simp⟩
    next separator =>
      rcases emit_flush_head lexed with word | ⟨_, later⟩
      · exact Or.inl word
      · exact absurd later emit_separator_head
    next q quote => exact Or.inr ⟨_, _, lexed, by simp⟩
    next backslash => exact Or.inr ⟨_, _, lexed, by simp⟩
    next comment => exact Or.inr ⟨_, _, lexed, by simp⟩
    next t trouble => simp at lexed
    next plain => exact Or.inr ⟨_, _, lexed, by simp [added]⟩
  | escaped =>
    simp only [lex] at lexed
    split at lexed
    next newline =>
      split at lexed
      · exact Or.inr ⟨_, _, lexed, by simp⟩
      · rcases emit_blank_head lexed with word | ⟨_, later⟩
        · exact Or.inl word
        · exact Or.inr ⟨_, _, later, by simp⟩
    next other =>
      split at lexed
      · simp at lexed
      · exact Or.inr ⟨_, _, lexed, by simp [added]⟩
  | quoted q =>
    simp only [lex] at lexed
    split at lexed
    next closing => exact Or.inr ⟨_, _, lexed, by simp⟩
    next backslash => exact Or.inr ⟨_, _, lexed, by simp⟩
    next t trouble => simp at lexed
    next plain => exact Or.inr ⟨_, _, lexed, by simp [added]⟩
  | quotedEscaped q =>
    simp only [lex] at lexed
    split at lexed
    · exact Or.inr ⟨_, _, lexed, by simp⟩
    · exact Or.inr ⟨_, _, lexed, by simp [added]⟩
  | comment => exact absurd lexed (lex_comment_head cur _ w ts)

/-- The word that comes first is no longer than what was begun and the text up to the
semicolon. Only where a backslash ends the text, the semicolon itself may be part of it. -/
theorem lex_length {tail : List Char} (closes : Closes tail) (p : List Char) (st : Quoting)
    (cur : Option Word) (w : Word) (ts : List Token)
    (lexed : lex d st cur (p ++ tail) = .ok (.word w :: ts)) :
    w.length ≤ (cur.getD []).length + p.length + if st = .escaped ∧ p = [] then 1 else 0 := by
  induction p generalizing st cur with
  | nil =>
    rw [List.nil_append] at lexed
    cases st with
    | bare => simp [lex_closes closes cur w ts lexed]
    | escaped => simp [lex_escaped_closes closes cur w ts lexed]
    | quoted q => exact absurd lexed (lex_quoted_open (closes.unquoted q) cur _).1
    | quotedEscaped q => exact absurd lexed (lex_quoted_open (closes.unquoted q) cur _).2
    | comment => exact absurd lexed (lex_comment_head cur tail w ts)
  | cons c cs ih =>
    rw [List.cons_append] at lexed
    simp only [List.length_cons, reduceCtorEq, and_false, if_false]
    rcases lex_word_step lexed with rfl | ⟨st', cur', later, grows⟩
    · simp
    · have shorter := ih st' cur' later
      have slack : (if st' = .escaped ∧ cs = [] then 1 else 0) ≤
          if st' = .escaped then 1 else 0 := by
        by_cases escaped : st' = .escaped
        · by_cases nothing : cs = [] <;> simp [escaped, nothing]
        · simp [escaped]
      omega

theorem Closes.head? {tail : List Char} (closes : Closes tail) : tail.head? = some ';' := by
  obtain ⟨b, rest, rfl, _⟩ := closes
  rfl

/-- A word with as many characters as the text and what was begun before has lost none, so no
character of the text was one that words do not keep. -/
theorem lex_first {tail : List Char} (closes : Closes tail) {c : Char} {cs : List Char}
    {cur : Option Word} {w : Word} {ts : List Token}
    (lexed : lex d .bare cur (c :: cs ++ tail) = .ok (.word w :: ts))
    (same : w.map Mark.char = (cur.getD []).map Mark.char ++ c :: cs) :
    d.kind cur.isSome c (cs.head?.or (some ';')) = .plain ∧
      lex d .bare (extend cur c false) (cs ++ tail) = .ok (.word w :: ts) := by
  have length : w.length = (cur.getD []).length + cs.length + 1 := by
    simpa [Nat.add_assoc] using congrArg List.length same
  simp only [List.cons_append, lex, List.head?_append, closes.head?] at lexed
  cases kind : d.kind cur.isSome c (cs.head?.or (some ';')) with
  | plain =>
    simp only [kind] at lexed
    exact ⟨rfl, lexed⟩
  | blank =>
    simp only [kind] at lexed
    rcases emit_blank_head lexed with rfl | ⟨rfl, later⟩
    · simp at same
    · have shorter := lex_length closes cs .bare none w ts later
      simp at length shorter
      omega
  | separator =>
    simp only [kind] at lexed
    rcases emit_flush_head lexed with rfl | ⟨rfl, later⟩
    · simp at same
    · exact absurd later emit_separator_head
  | quote q =>
    simp only [kind] at lexed
    have shorter := lex_length closes cs (.quoted q) _ w ts lexed
    simp at shorter
    omega
  | backslash =>
    simp only [kind] at lexed
    cases cs with
    | nil =>
      -- Here nothing is lost, but a semicolon has taken the place of the backslash.
      rw [lex_escaped_closes closes cur w ts lexed] at same
      obtain rfl : ';' = c := by simpa using same
      have separator : d.kind cur.isSome ';' (some ';') = .separator := rfl
      exact absurd (separator.symm.trans kind) (by simp)
    | cons c' cs' =>
      have shorter := lex_length closes _ .escaped cur w ts lexed
      simp at length shorter
      omega
  | comment =>
    simp only [kind] at lexed
    exact absurd lexed (lex_comment_head none _ w ts)
  | trouble t =>
    simp only [kind] at lexed
    simp at lexed

/-- A text comes out as the rest of the word that has been begun exactly when every character
stands for itself. -/
theorem lex_word_iff {tail : List Char} (closes : Closes tail) {p : List Char} {v w : Word}
    {ts : List Token} (lexed : lex d .bare (some v) (p ++ tail) = .ok (.word w :: ts)) :
    w.map Mark.char = v.map Mark.char ++ p ↔ d.Plain (some ';') true p := by
  constructor
  · intro same
    induction p generalizing v with
    | nil => trivial
    | cons c cs ih =>
      obtain ⟨plain, later⟩ := lex_first closes lexed same
      exact ⟨plain, ih later (by simpa using same)⟩
  · intro plain
    rw [← closes.head?] at plain
    rw [lex_plain plain] at lexed
    obtain rfl := Option.some.inj (lex_closes closes _ w ts lexed)
    simp [unquoted, Function.comp_def]

/-- The same for a word that the text begins. -/
theorem lex_word_start_iff {tail : List Char} (closes : Closes tail) {p : List Char} {w : Word}
    {ts : List Token} (lexed : lex d .bare none (p ++ tail) = .ok (.word w :: ts)) :
    w.map Mark.char = p ↔ d.Plain (some ';') false p := by
  cases p with
  | nil => exact absurd (lex_closes closes none w ts lexed) (by simp)
  | cons c cs =>
    constructor
    · intro same
      obtain ⟨plain, later⟩ := lex_first closes lexed same
      exact ⟨plain, (lex_word_iff closes later).mp (by simpa using same)⟩
    · intro plain
      rw [← closes.head?] at plain
      rw [lex_plain_start plain] at lexed
      obtain rfl := Option.some.inj (lex_closes closes _ w ts lexed)
      simp [unquoted, Function.comp_def]

theorem kind_begun (c : Char) (next : Option Char) : d.kind true c next ≠ .comment := by
  -- Only a character that begins no word can begin a comment.
  simp only [Dialect.kind, Bool.not_true, Bool.and_false, Bool.false_eq_true, if_false]
  repeat' split
  all_goals exact Kind.noConfusion

/-- A word that has been begun comes first, however it goes on. -/
theorem lex_begun_head {st : Quoting} (running : st ≠ .comment) {v : Word} {cs : List Char}
    {ts : List Token} (lexed : lex d st (some v) cs = .ok ts) :
    ∃ w more, ts = .word w :: more ∧ v <+: w := by
  -- Where the word ends, it is flushed, and a character that goes on with it extends it.
  have ended {v : Word} {between : List Token} {rest : Except Trouble (List Token)}
      (lexed : emit (flush (some v) ++ between) rest = .ok ts) :
      ∃ w more, ts = .word w :: more ∧ v <+: w := by
    obtain ⟨more, _, rfl⟩ := emit_eq_ok_iff.mp lexed
    exact ⟨v, between ++ more, rfl, List.prefix_rfl⟩
  have extended {v : Word} {m : Mark} (longer : ∃ w more, ts = .word w :: more ∧ v ++ [m] <+: w) :
      ∃ w more, ts = .word w :: more ∧ v <+: w := by
    obtain ⟨w, more, first, longer⟩ := longer
    exact ⟨w, more, first, (List.prefix_append v [m]).trans longer⟩
  induction cs generalizing st v with
  | nil =>
    cases st with
    | bare =>
      cases lexed
      exact ⟨v, [], rfl, List.prefix_rfl⟩
    | comment => exact absurd rfl running
    | _ => simp [lex] at lexed
  | cons c cs ih =>
    cases st with
    | bare =>
      simp only [lex] at lexed
      split at lexed
      · rw [← List.append_nil (flush _)] at lexed
        exact ended lexed
      · exact ended lexed
      · exact ih (by simp) lexed
      · exact ih (by simp) lexed
      next comment => exact absurd comment (kind_begun c _)
      · simp at lexed
      · exact extended (ih (by simp) lexed)
    | escaped =>
      simp only [lex] at lexed
      split at lexed
      · split at lexed
        · exact ih (by simp) lexed
        · rw [← List.append_nil (flush _)] at lexed
          exact ended lexed
      · split at lexed
        · simp at lexed
        · exact extended (ih (by simp) lexed)
    | quoted q =>
      simp only [lex] at lexed
      split at lexed
      · exact ih (by simp) lexed
      · exact ih (by simp) lexed
      · simp at lexed
      · exact extended (ih (by simp) lexed)
    | quotedEscaped q =>
      simp only [lex] at lexed
      split at lexed
      · exact ih (by simp) lexed
      · exact extended (ih (by simp) lexed)
    | comment => exact absurd rfl running

/-! ### Words on a line -/

/-- A word of fixed text that stands for itself whatever comes behind it. -/
def Dialect.Solid (d : Dialect) (p : List Char) : Prop :=
  p ≠ [] ∧ '!' ∉ p ∧ d.Plain none false p

instance (p : List Char) : Decidable (d.Solid p) := inferInstanceAs (Decidable (_ ∧ _ ∧ _))

theorem kind_next {c : Char} (other : c ≠ '!') (begun : Bool) (next next' : Option Char) :
    d.kind begun c next = d.kind begun c next' := by
  have ordinary : (c == '!') = false := by simpa using other
  have live : d.live none c next = d.live none c next' := by
    simp only [Dialect.live, ordinary, Bool.false_and]
  simp only [Dialect.kind, live]

theorem plain_after {p : List Char} (quiet : '!' ∉ p) (begun : Bool) (after after' : Option Char) :
    d.Plain after begun p ↔ d.Plain after' begun p := by
  induction p generalizing begun with
  | nil => exact Iff.rfl
  | cons c cs ih =>
    simp only [List.mem_cons, not_or] at quiet
    simp only [Dialect.Plain, ih quiet.2, kind_next (Ne.symm quiet.1) begun (cs.head?.or after)
      (cs.head?.or after')]

theorem Dialect.Solid.plain {p : List Char} (solid : d.Solid p) (after : Option Char) :
    d.Plain after false p :=
  (plain_after solid.2.1 false none after).mp solid.2.2

/-- A blank behind a word ends it, and one between the words is passed over. -/
theorem lex_blank (cur : Option Word) (rest : List Char) :
    lex d .bare cur (' ' :: rest) = emit (flush cur) (lex d .bare none rest) := rfl

theorem lex_separator {c : Char} (separates : c = ';' ∨ c = '\n') (cur : Option Word)
    (rest : List Char) :
    lex d .bare cur (c :: rest) =
      emit (flush cur ++ [.separator c]) (lex d .bare none rest) := by
  rcases separates with rfl | rfl <;> rfl

theorem lex_solid {p : List Char} (solid : d.Solid p) (rest : List Char) :
    lex d .bare none (p ++ rest) = lex d .bare (some (unquoted p)) rest := by
  obtain ⟨c, cs, rfl⟩ := List.exists_cons_of_ne_nil solid.1
  exact lex_plain_start (solid.plain _)

/-- Words with blanks behind them. -/
theorem lex_words {ps : List (List Char)} (solid : ∀ p ∈ ps, d.Solid p) (rest : List Char) :
    lex d .bare none (ps.flatMap (fun p => p ++ [' ']) ++ rest) =
      emit (ps.map fun p => .word (unquoted p)) (lex d .bare none rest) := by
  induction ps with
  | nil => exact (emit_nil _).symm
  | cons p ps ih =>
    have first := lex_solid (solid p List.mem_cons_self)
    have others := ih fun q member => solid q (List.mem_cons_of_mem p member)
    rw [List.flatMap_cons, List.append_assoc, List.append_assoc, first, List.singleton_append,
      lex_blank, others]
    cases lex d .bare none rest <;> rfl

/-! ### Lines of commands -/

/-- A command as it is printed: words with blanks between them, a semicolon, and a blank or
the end of the line. -/
structure Line where
  front : List (List Char)
  last : List Char
  newline : Bool

namespace Line

def text (l : Line) : List Char :=
  l.front.flatMap (fun p => p ++ [' ']) ++ (l.last ++ [';', if l.newline then '\n' else ' '])

def words (l : Line) : List Word := l.front.map unquoted ++ [unquoted l.last]

def tokens (l : Line) : List Token :=
  l.words.map .word ++ .separator ';' :: if l.newline then [.separator '\n'] else []

structure Plain (d : Dialect) (l : Line) : Prop where
  front : ∀ p ∈ l.front, d.Solid p
  some_word : l.last ≠ []
  last : d.Plain (some ';') false l.last

end Line

theorem lex_line {l : Line} (plain : l.Plain d) (rest : List Char) :
    lex d .bare none (l.text ++ rest) = emit l.tokens (lex d .bare none rest) := by
  obtain ⟨front, some_word, last⟩ := plain
  obtain ⟨c, cs, same⟩ := List.exists_cons_of_ne_nil some_word
  have gap : lex d .bare (some (unquoted l.last))
        (';' :: (if l.newline then '\n' else ' ') :: rest) =
      emit (.word (unquoted l.last) :: .separator ';' ::
        if l.newline then [.separator '\n'] else []) (lex d .bare none rest) := by
    rw [lex_separator (Or.inl rfl)]
    cases l.newline with
    | true =>
      rw [if_pos rfl, if_pos rfl, lex_separator (Or.inr rfl)]
      cases lex d .bare none rest <;> rfl
    | false =>
      rw [if_neg Bool.false_ne_true, if_neg Bool.false_ne_true, lex_blank]
      cases lex d .bare none rest <;> rfl
  rw [Line.text, List.append_assoc, lex_words front]
  have word : lex d .bare none (l.last ++ [';', if l.newline then '\n' else ' '] ++ rest) =
      lex d .bare (some (unquoted l.last)) (';' :: (if l.newline then '\n' else ' ') :: rest) := by
    rw [List.append_assoc, same]
    rw [same] at last
    exact lex_plain_start last
  rw [word, gap]
  cases lex d .bare none rest <;> simp [emit, Except.map, Line.tokens, Line.words]

theorem lex_lines {ls : List Line} (plain : ∀ l ∈ ls, l.Plain d) :
    lex d .bare none (ls.flatMap Line.text) = .ok (ls.flatMap Line.tokens) := by
  induction ls with
  | nil => rfl
  | cons l ls ih =>
    rw [List.flatMap_cons, lex_line (plain l List.mem_cons_self),
      ih fun m member => plain m (List.mem_cons_of_mem l member)]
    rfl

theorem gather_words (begun ws : List Word) (ts : List Token) :
    gather d begun (ws.map .word ++ ts) = gather d (begun ++ ws) ts := by
  induction ws generalizing begun with
  | nil => simp
  | cons w ws ih => simp [gather, ih]

theorem gather_lines (ls : List Line) :
    gather d [] (ls.flatMap Line.tokens) = .ok (ls.map Line.words) := by
  induction ls with
  | nil => rfl
  | cons l ls ih =>
    have some_word : (l.words).isEmpty = false := by simp [Line.words]
    -- The end of a line behind a semicolon is no command.
    have gap : gather d [] ((if l.newline then [.separator '\n'] else []) ++
        ls.flatMap Line.tokens) = gather d [] (ls.flatMap Line.tokens) := by
      cases l.newline <;> rfl
    rw [List.flatMap_cons, Line.tokens, List.append_assoc, gather_words, List.nil_append,
      List.cons_append, gather, some_word, gap, ih]
    rfl

/-- The words at the front of a list of tokens. -/
def leading : List Token → List Word
  | .word w :: ts => w :: leading ts
  | _ => []

theorem leading_cons {ts : List Token} {w : Word} {ws : List Word} (first : leading ts = w :: ws) :
    ∃ more, ts = .word w :: more := by
  cases ts with
  | nil => simp [leading] at first
  | cons t more =>
    cases t with
    | word v =>
      obtain ⟨rfl, _⟩ := List.cons.inj first
      exact ⟨more, rfl⟩
    | separator c => simp [leading] at first

/-- The first command has the words that come first. -/
theorem gather_head {begun : List Word} (some_word : begun ≠ []) {ts : List Token}
    {commands : List (List Word)} (gathered : gather d begun ts = .ok commands) :
    ∃ more, commands = (begun ++ leading ts) :: more := by
  induction ts generalizing begun with
  | nil =>
    simp only [gather, List.isEmpty_iff, some_word, if_false, Except.ok.injEq] at gathered
    exact ⟨[], by simp [← gathered, leading]⟩
  | cons t ts ih =>
    cases t with
    | word w =>
      obtain ⟨more, rfl⟩ := ih (by simp) gathered
      exact ⟨more, by simp [leading]⟩
    | separator c =>
      simp only [gather, List.isEmpty_iff, some_word, if_false] at gathered
      cases rest : gather d [] ts with
      | error t => simp [rest, Except.map] at gathered
      | ok more =>
        simp only [rest, Except.map, Except.ok.injEq] at gathered
        exact ⟨more, by simp [← gathered, leading]⟩

/-! ### Characters that stand for themselves -/

/-- The characters that both families of shells take for something else than themselves. -/
def special : List Char :=
  [' ', '\t', '\n', ';', '\x27', '\x22', '\\', '$', '\x60', '&', '|', '<', '>', '(', ')', '\x00']

/-- The history character stands for itself in front of these. -/
def passed (next : Option Char) : Bool := next.any fun n => [' ', '\t', '\n', '=', '('].contains n

theorem live_none_iff (c : Char) (next : Option Char) :
    d.live none c next = true ↔
      c = '$' ∨ c = '\x60' ∨ c = '!' ∧ d = .csh ∧ passed next = false := by
  unfold Dialect.live passed
  split
  next dollar =>
    simp only [Bool.or_eq_true, beq_iff_eq] at dollar
    rcases dollar with rfl | rfl <;> simp
  next other =>
    simp only [Bool.or_eq_true, beq_iff_eq, not_or] at other
    simp [other, and_assoc]

theorem mem_special_iff (c : Char) : c ∈ special ↔
    isBlank c = true ∨ isSeparator c = true ∨ c = Quote.single.char ∨ c = Quote.double.char ∨
      c = '\\' ∨ c = '$' ∨ c = '\x60' ∨ isOperator c = true ∨ c = '\x00' := by
  simp only [special, isBlank, isSeparator, isOperator, Quote.char, List.mem_cons,
    List.not_mem_nil, or_false, Bool.or_eq_true, beq_iff_eq, List.contains_iff_mem, or_assoc]
  rw [or_left_comm (a := c = '\n')]

theorem kind_plain_iff (d : Dialect) (begun : Bool) (c : Char) (next : Option Char) :
    d.kind begun c next = .plain ↔
      c ∉ special ∧ (c = '#' → begun = true) ∧ (c = '!' → d = .csh → passed next = true) := by
  have refused (member : c ∈ special) : ¬ (c ∉ special ∧ (c = '#' → begun = true) ∧
      (c = '!' → d = .csh → passed next = true)) := fun ordinary => ordinary.1 member
  have tests := mem_special_iff c
  unfold Dialect.kind
  -- One case for each test, in the order in which they are made.
  by_cases blank : isBlank c = true
  · rw [if_pos blank]
    exact iff_of_false (by simp) (refused (tests.2 (by simp [blank])))
  by_cases separator : isSeparator c = true
  · rw [if_neg blank, if_pos separator]
    exact iff_of_false (by simp) (refused (tests.2 (by simp [separator])))
  rw [if_neg blank, if_neg separator]
  by_cases single : (c == Quote.single.char) = true
  · rw [if_pos single]
    exact iff_of_false (by simp) (refused (tests.2 (by simp [beq_iff_eq.1 single])))
  by_cases double : (c == Quote.double.char) = true
  · rw [if_neg single, if_pos double]
    exact iff_of_false (by simp) (refused (tests.2 (by simp [beq_iff_eq.1 double])))
  rw [if_neg single, if_neg double]
  by_cases backslash : (c == '\\') = true
  · rw [if_pos backslash]
    exact iff_of_false (by simp) (refused (tests.2 (by simp [beq_iff_eq.1 backslash])))
  rw [if_neg backslash]
  by_cases hash : (c == '#' && !begun) = true
  · rw [if_pos hash]
    simp only [Bool.and_eq_true, beq_iff_eq, Bool.not_eq_true'] at hash
    simp [hash]
  rw [if_neg hash]
  by_cases live : d.live none c next = true
  · rw [if_pos live]
    rw [live_none_iff] at live
    rcases live with rfl | rfl | ⟨rfl, rfl, unpassed⟩
    · exact iff_of_false (by simp) (refused (by decide))
    · exact iff_of_false (by simp) (refused (by decide))
    · simp [unpassed]
  rw [if_neg live]
  by_cases op : isOperator c = true
  · rw [if_pos op]
    exact iff_of_false (by simp) (refused (tests.2 (by simp [op])))
  by_cases nul : (c == '\x00') = true
  · rw [if_neg op, if_pos nul]
    exact iff_of_false (by simp) (refused (tests.2 (by simp [beq_iff_eq.1 nul])))
  rw [if_neg op, if_neg nul]
  -- None of the tests fits, so the character is none of those they look for.
  rw [live_none_iff] at live
  simp only [not_or] at live
  refine iff_of_true rfl ⟨?_, ?_, ?_⟩
  · rw [tests]
    simp only [beq_iff_eq] at single double backslash nul
    simp [blank, separator, single, double, backslash, live.1, live.2.1, op, nul]
  · rintro rfl
    simpa using hash
  · rintro rfl rfl
    simpa using live

/-- Every history character stands for itself. -/
def BangsPassed (p : List Char) : Prop :=
  ∀ before behind, p = before ++ '!' :: behind → behind.head? = some '='

theorem bangsPassed_cons (c : Char) (cs : List Char) :
    BangsPassed (c :: cs) ↔ (c = '!' → cs.head? = some '=') ∧ BangsPassed cs := by
  constructor
  · intro all
    refine ⟨fun bang => all [] cs (by rw [bang]; rfl), fun before behind same => ?_⟩
    exact all (c :: before) behind (by rw [same]; rfl)
  · rintro ⟨here, there⟩ before behind same
    cases before with
    | nil =>
      obtain ⟨rfl, rfl⟩ := List.cons.inj same
      exact here rfl
    | cons b before =>
      obtain ⟨_, same⟩ := List.cons.inj same
      exact there before behind same

theorem passed_iff {cs : List Char} (ordinary : ∀ c ∈ cs, c ∉ special) :
    passed (cs.head?.or (some ';')) = true ↔ cs.head? = some '=' := by
  cases cs with
  | nil => decide
  | cons c cs =>
    have here := ordinary c List.mem_cons_self
    simp only [special, List.mem_cons, List.not_mem_nil, or_false, not_or] at here
    simp [passed, here]

theorem plain_iff (d : Dialect) (begun : Bool) (p : List Char) :
    d.Plain (some ';') begun p ↔
      (∀ c ∈ p, c ∉ special) ∧ (begun = false → p.head? ≠ some '#') ∧
        (d = .csh → BangsPassed p) := by
  induction p generalizing begun with
  | nil =>
    have none_there : BangsPassed [] := fun before behind same => by simp at same
    simp [Dialect.Plain, none_there]
  | cons c cs ih =>
    simp only [Dialect.Plain, kind_plain_iff, ih true, List.mem_cons, forall_eq_or_imp,
      List.head?_cons, ne_eq, Option.some.injEq, bangsPassed_cons, Bool.true_eq_false,
      false_imp_iff, true_and]
    constructor
    · rintro ⟨⟨here, hash, bang⟩, there, bangs⟩
      refine ⟨⟨here, there⟩, fun fresh mark => ?_, fun csh => ⟨fun mark => ?_, bangs csh⟩⟩
      · simp [hash mark] at fresh
      · exact (passed_iff there).mp (bang mark csh)
    · rintro ⟨⟨here, there⟩, hash, bangs⟩
      refine ⟨⟨here, fun mark => ?_, fun mark csh => ?_⟩, there, fun csh => (bangs csh).2⟩
      · by_contra fresh
        exact hash (by simpa using fresh) mark
      · exact (passed_iff there).mpr ((bangs csh).1 mark)

theorem hasTilde_unquoted (opens : Bool) (p : List Char) :
    hasTilde opens (unquoted p) = true ↔
      opens = true ∧ p.head? = some '~' ∨ [':', '~'] <:+: p := by
  induction p generalizing opens with
  | nil => simp [hasTilde, unquoted]
  | cons c cs ih =>
    have step : hasTilde opens (unquoted (c :: cs)) =
        ((opens && c == '~') || hasTilde (c == ':') (unquoted cs)) := by
      simp [hasTilde, unquoted, Mark.mk.injEq, beq_eq_decide]
    have prefixed : [':', '~'] <+: c :: cs ↔ c = ':' ∧ cs.head? = some '~' := by
      cases cs with
      | nil => simp
      | cons c' cs => simp [List.cons_prefix_cons, eq_comm]
    rw [step, List.infix_cons_iff, prefixed]
    simp [ih]

theorem globs_unquoted (d : Dialect) (p : List Char) :
    d.globs (unquoted p) = true ↔
      p.head? = some '~' ∨ (∃ c ∈ p, c ∈ ['*', '?', '[']) ∨
        d = .csh ∧ '{' ∈ p ∧ p ≠ ['{'] ∧ p ≠ ['{', '}'] := by
  have differ (q : List Char) : (unquoted p != unquoted q) = true ↔ p ≠ q := by
    have same : unquoted p = unquoted q ↔ p = q :=
      List.map_inj_right fun _ _ marks => congrArg Mark.char marks
    rw [bne_iff_ne, ne_eq, same]
  have home : ((unquoted p).head? == some ⟨'~', false⟩) = true ↔ p.head? = some '~' := by
    cases p <;> simp [unquoted]
  simp only [Dialect.globs, Bool.or_eq_true, Bool.and_eq_true, home, differ, beq_iff_eq,
    List.any_eq_true, List.contains_iff_mem, or_assoc, and_assoc]
  simp [unquoted]

/-! ### Commands made of such words -/

theorem assignment_name {name : List Char} (named : isName (unquoted name) = true)
    (single : '=' ∉ name) (value : Word) :
    assignment (unquoted name ++ ⟨'=', false⟩ :: value) = some (unquoted name, value) := by
  have before : ∀ m ∈ unquoted name, (m.char != '=') = true := by
    intro m member
    obtain ⟨c, there, rfl⟩ := List.mem_map.mp member
    have other : c ≠ '=' := fun same => single (same ▸ there)
    simpa using other
  unfold assignment
  rw [List.dropWhile_append_of_pos before, List.takeWhile_append_of_pos before]
  simp [named]

@[simp] theorem text_unquoted (p : List Char) : Word.text (unquoted p) = String.ofList p := by
  simp [Word.text, unquoted, Function.comp_def]

theorem simpleCommand_assignment {name : List Char} (named : isName (unquoted name) = true)
    (single : '=' ∉ name) (value : Word) (ws : List Word) :
    simpleCommand .posix ((unquoted name ++ ⟨'=', false⟩ :: value) :: ws) =
      if hasTilde true value then .error .expansion
      else (simpleCommand .posix ws).map fun c =>
        { c with assignments := (String.ofList name, value.text) :: c.assignments } := by
  simp [simpleCommand, assignment_name named single]

theorem mapM_plainWord {ps : List (List Char)} (plain : ∀ p ∈ ps, d.globs (unquoted p) = false) :
    (ps.map unquoted).mapM (plainWord d) = .ok (ps.map String.ofList) := by
  induction ps with
  | nil => rfl
  | cons p ps ih =>
    have here : plainWord d (unquoted p) = .ok (String.ofList p) := by
      simp [plainWord, plain p List.mem_cons_self]
    have there := ih fun q member => plain q (List.mem_cons_of_mem p member)
    rw [List.map_cons, List.mapM_cons, here, there]
    rfl

theorem simpleCommand_words {p : List Char} {ps : List (List Char)}
    (word : (if d = .posix then assignment (unquoted p) else none) = none)
    (plain : ∀ q ∈ p :: ps, d.globs (unquoted q) = false) :
    simpleCommand d ((p :: ps).map unquoted) = .ok ⟨[], (p :: ps).map String.ofList⟩ := by
  have words := mapM_plainWord plain
  rw [List.map_cons] at words ⊢
  simp only [simpleCommand, word, words]
  rfl

/-- Such a line has no quotes in it. -/
theorem Line.Plain.unquoted {l : Line} (plain : l.Plain d) (q : Quote) : q.char ∉ l.text := by
  have listed : q.char ∈ special := by cases q <;> decide
  have between : q.char ≠ ' ' ∧ q.char ≠ ';' ∧ q.char ≠ '\n' := by cases q <;> decide
  obtain ⟨blank, semicolon, newline⟩ := between
  have last := ((plain_iff d false l.last).mp plain.last).1
  intro member
  rcases List.mem_append.mp member with front | rest
  · obtain ⟨p, there, inside⟩ := List.mem_flatMap.mp front
    have word := ((plain_iff d false p).mp ((plain.front p there).plain _)).1
    rcases List.mem_append.mp inside with inside | gap
    · exact word _ inside listed
    · exact blank (List.mem_singleton.mp gap)
  · rcases List.mem_append.mp rest with inside | gap
    · exact last _ inside listed
    · rcases List.mem_cons.mp gap with same | gap
      · exact semicolon same
      · rw [List.mem_singleton] at gap
        split at gap
        · exact newline gap
        · exact blank gap

/-- Where the text starts with a word, the first command starts with it. -/
theorem actions_first {text : String} {as : List Action} {w : Word} {ts : List Token}
    (acted : actions d text = .ok as)
    (lexed : lex d .bare none text.toList = .ok (.word w :: ts)) :
    ∃ c more, simpleCommand d (w :: leading ts) = .ok c ∧ as = c.actions d ++ more := by
  have gathered : read d text = gather d [w] ts >>= fun ws => ws.mapM (simpleCommand d) := by
    unfold read
    rw [lexed]
    rfl
  unfold actions at acted
  rw [gathered] at acted
  -- A later command that cannot be read would have stopped the whole text.
  cases commands : gather d [w] ts with
  | error t => simp [commands, bind, Except.bind, Except.map] at acted
  | ok ws =>
    obtain ⟨others, rfl⟩ := gather_head (by simp) commands
    rw [List.singleton_append] at commands
    rw [commands] at acted
    simp only [bind, Except.bind, List.mapM_cons] at acted
    cases first : simpleCommand d (w :: leading ts) with
    | error t => simp [first, Except.map] at acted
    | ok c =>
      cases rest : others.mapM (simpleCommand d) with
      | error t => simp [first, rest, Except.map] at acted
      | ok cs =>
        simp only [first, rest, pure, Except.pure, Except.map, Except.ok.injEq] at acted
        exact ⟨c, cs.flatMap (Command.actions d), rfl, by rw [← acted, List.flatMap_cons]⟩

/-- A command of literal words, one of which is left to be seen. -/
theorem csh_command_ok {w : Word} {ws : List Word} {c : Command}
    (command : simpleCommand .csh (w :: ws) = .ok c) :
    ∃ texts, (w :: ws).mapM (plainWord .csh) = .ok texts ∧ c = ⟨[], texts⟩ := by
  simp only [simpleCommand, reduceCtorEq, if_false] at command
  cases texts : (w :: ws).mapM (plainWord .csh) with
  | error t => simp [texts, Except.map] at command
  | ok ts =>
    simp only [texts, Except.map, Except.ok.injEq] at command
    exact ⟨ts, rfl, command.symm⟩

theorem plainWord_ok {w : Word} {text : String} (plain : plainWord d w = .ok text) :
    d.globs w = false ∧ w.text = text := by
  unfold plainWord at plain
  split at plain
  · simp at plain
  next literal => exact ⟨by simpa using literal, by simpa using plain⟩

end Lib.Shell
