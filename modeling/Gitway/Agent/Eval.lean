import Gitway.Agent.Start
import Gitway.Lib.Shell.Words
import Gitway.Reference

/-!
# The lines that a shell evaluates

`gitway agent start` prints assignments for the shell that called it. The socket path
stands in them as it is, without quotes, so the shell reads it back only if every
character of it stands for itself.
-/
namespace Gitway.Agent

open Lib Shell

/-! ### What is printed -/

/-- The dialect that `emit_eval` prints in. -/
def evalDialect (env : Environment) (bourne cshForced : Bool) : Dialect :=
  let endsWith (s ending : String) : Bool := ending.toList.isSuffixOf s.toList
  if cshForced || (!bourne && (env.var "SHELL").any fun sh =>
    endsWith sh "csh" || endsWith sh "tcsh") then .csh
  else .posix

/-- The text of the lines on standard output. -/
def printedText (out : List Emitted) : String :=
  String.join (out.map fun item =>
    match item with
    | .line s => s ++ "\n"
    | _ => "")

/-- What the lines are for. -/
def intended (d : Dialect) (socketPath : String) (pid : Nat) : List Action :=
  match d with
  | .posix => [
      .assign "SSH_AUTH_SOCK" socketPath, .exported "SSH_AUTH_SOCK",
      .assign "SSH_AGENT_PID" (toString pid), .exported "SSH_AGENT_PID",
      .echo ["Agent", "pid", toString pid]]
  | .csh => [
      .setenv "SSH_AUTH_SOCK" socketPath, .setenv "SSH_AGENT_PID" (toString pid),
      .echo ["Agent", "pid", toString pid]]

/-- A path that a shell reads as it is where it stands in these lines. -/
def Harmless (d : Dialect) (path : List Char) : Prop :=
  (∀ c ∈ path, c ∉ special) ∧ path.head? ≠ some '~' ∧
  match d with
  -- Behind a colon in an assignment a tilde stands for a home, too.
  | .posix => ¬ [':', '~'] <:+: path
  | .csh =>
    path.head? ≠ some '#' ∧ (∀ c ∈ path, c ∉ ['*', '?', '[']) ∧
      ('{' ∈ path → path = ['{'] ∨ path = ['{', '}']) ∧
      ∀ before behind, path = before ++ '!' :: behind → behind.head? = some '='

theorem harmless_posix (path : List Char) : Harmless .posix path ↔
    Dialect.posix.Plain (some ';') true path ∧ hasTilde true (unquoted path) = false := by
  have tilde := not_congr (hasTilde_unquoted true path)
  rw [Bool.not_eq_true] at tilde
  rw [plain_iff, tilde]
  simp [Harmless]

theorem harmless_csh (path : List Char) : Harmless .csh path ↔
    Dialect.csh.Plain (some ';') false path ∧ Dialect.csh.globs (unquoted path) = false := by
  have globbed := not_congr (globs_unquoted .csh path)
  rw [Bool.not_eq_true] at globbed
  rw [plain_iff, globbed]
  simp only [Harmless, BangsPassed, not_or, not_and, not_exists, ne_eq, true_imp_iff]
  constructor
  · rintro ⟨ordinary, home, mark, files, braces, bangs⟩
    refine ⟨⟨ordinary, mark, bangs⟩, home, files, fun brace other => ?_⟩
    rcases braces brace with single | both
    · exact absurd single other
    · simpa using both
  · rintro ⟨⟨ordinary, mark, bangs⟩, home, files, braces⟩
    refine ⟨ordinary, home, mark, files, fun brace => ?_, bangs⟩
    by_contra other
    rw [not_or] at other
    exact braces brace other.1 other.2

/-! ### The rest of the lines -/

theorem digits_ordinary (pid : Nat) (c : Char) (member : c ∈ (toString pid).toList) :
    c ∉ special ++ ['#', '!', '~', ':', '*', '?', '[', '{'] := by
  have digits := (Numeral.allDigits_toDigits pid).2
  rw [List.all_eq_true] at digits
  rw [Nat.toString_eq_ofList_toDigits, String.toList_ofList] at member
  have no_digit : (special ++ ['#', '!', '~', ':', '*', '?', '[', '{']).all
    (fun c => !c.isDigit) = true := by decide
  intro other
  have none_here := List.all_eq_true.mp no_digit c other
  rw [digits c member] at none_here
  simp at none_here

theorem harmless_pid (d : Dialect) (pid : Nat) : Harmless d (toString pid).toList := by
  have ordinary := digits_ordinary pid
  generalize (toString pid).toList = digits at ordinary
  -- A digit is none of the characters that matter at some place.
  have other (d : Char) (listed : d ∈ special ++ ['#', '!', '~', ':', '*', '?', '[', '{'])
      (member : d ∈ digits) : False := ordinary d member listed
  have head (d : Char) (listed : d ∈ special ++ ['#', '!', '~', ':', '*', '?', '[', '{']) :
      digits.head? ≠ some d := fun first => other d listed (List.mem_of_head? first)
  refine ⟨fun c member listed => other c (List.mem_append_left _ listed) member,
    head '~' (by decide), ?_⟩
  cases d with
  | posix =>
    intro inside
    exact other ':' (by decide) (inside.subset (by simp))
  | csh =>
    refine ⟨head '#' (by decide), fun c member listed => ?_, fun brace => ?_, ?_⟩
    · refine other c (List.mem_append_right _ ?_) member
      revert listed
      simp
      tauto
    · exact (other '{' (by decide) brace).elim
    · rintro before behind rfl
      exact (other '!' (by decide) (by simp)).elim

/-- The lines as they are printed. -/
def evalLines (d : Dialect) (socketPath pid : List Char) : List Line :=
  match d with
  | .posix => [
      ⟨[], "SSH_AUTH_SOCK".toList ++ '=' :: socketPath, false⟩,
      ⟨["export".toList], "SSH_AUTH_SOCK".toList, true⟩,
      ⟨[], "SSH_AGENT_PID".toList ++ '=' :: pid, false⟩,
      ⟨["export".toList], "SSH_AGENT_PID".toList, true⟩,
      ⟨["echo".toList, "Agent".toList, "pid".toList], pid, true⟩]
  | .csh => [
      ⟨["setenv".toList, "SSH_AUTH_SOCK".toList], socketPath, true⟩,
      ⟨["setenv".toList, "SSH_AGENT_PID".toList], pid, true⟩,
      ⟨["echo".toList, "Agent".toList, "pid".toList], pid, true⟩]

variable {Ag Va Te : Type}

theorem emitEval_prints (socketPath : String) (pid : Nat) (bourne cshForced : Bool)
    (w : World Ag Va Te) :
    ∃ out, emitEval socketPath pid bourne cshForced w =
        (.ok (), { w with stdout := w.stdout ++ out }) ∧
      (printedText out).toList = (evalLines (evalDialect w.env bourne cshForced) socketPath.toList
        (toString pid).toList).flatMap Line.text := by
  unfold emitEval evalDialect
  rw [Fallible.bind_of_ok (Program.environment_run w)]
  dsimp only
  split
  · refine ⟨[.line s!"setenv SSH_AUTH_SOCK {socketPath};", .line s!"setenv SSH_AGENT_PID {pid};",
      .line s!"echo Agent pid {pid};"], ?_, ?_⟩
    · simp [Fallible.bind_run]
    · simp [printedText, evalLines, Line.text, String.join, ToString.toString]
  · refine ⟨[.line s!"SSH_AUTH_SOCK={socketPath}; export SSH_AUTH_SOCK;",
      .line s!"SSH_AGENT_PID={pid}; export SSH_AGENT_PID;", .line s!"echo Agent pid {pid};"],
      ?_, ?_⟩
    · simp [Fallible.bind_run]
    · simp [printedText, evalLines, Line.text, String.join, ToString.toString]

/-! ### What a shell makes of the lines -/

/-- The words of every line as commands, once the lines have been read. -/
theorem read_lines {d : Dialect} {text : String} {ls : List Line}
    (printed : text.toList = ls.flatMap Line.text) (plain : ∀ l ∈ ls, l.Plain d) :
    Shell.read d text = (ls.map Line.words).mapM (simpleCommand d) := by
  unfold Shell.read
  rw [printed, lex_lines plain]
  show (gather d [] (ls.flatMap Line.tokens) >>= _) = _
  rw [gather_lines]
  rfl

theorem pid_globs (d : Dialect) (pid : Nat) :
    d.globs (unquoted (toString pid).toList) = false := by
  have csh := ((harmless_csh _).mp (harmless_pid .csh pid)).2
  rw [Bool.eq_false_iff, ne_eq, globs_unquoted] at csh ⊢
  rintro (home | files | ⟨rfl, braces⟩)
  · exact csh (Or.inl home)
  · exact csh (Or.inr (Or.inl files))
  · exact csh (Or.inr (Or.inr ⟨rfl, braces⟩))

theorem toString_ne_nil (pid : Nat) : (toString pid).toList ≠ [] := by
  rw [Nat.toString_eq_ofList_toDigits, String.toList_ofList]
  exact (Numeral.allDigits_toDigits pid).1

/-! ### Assignments -/

/-- A name and an equals sign in front of a value that stands for itself. -/
theorem ordinary_of_all {text : List Char} (ordinary : text.all (!special.contains ·) = true) :
    ∀ c ∈ text, c ∉ special := by
  intro c member
  simpa using List.all_eq_true.mp ordinary c member

theorem plain_assignment {name value : List Char} (some_name : name ≠ [])
    (ordinary : ∀ c ∈ name ++ ['='], c ∉ special) (mark : name.head? ≠ some '#')
    (plain : Dialect.posix.Plain (some ';') true value) :
    Dialect.posix.Plain (some ';') false (name ++ '=' :: value) := by
  have whole : name ++ '=' :: value = name ++ ['='] ++ value := by simp
  rw [whole]
  rw [plain_iff] at plain ⊢
  refine ⟨fun c member => ?_, fun _ => ?_, by simp⟩
  · rcases List.mem_append.mp member with first | second
    · exact ordinary c first
    · exact plain.1 c second
  · rw [List.append_assoc, List.head?_append_of_ne_nil name some_name]
    exact mark

theorem simpleCommand_line (name : List Char) {value : List Char} (newline : Bool)
    (named : isName (unquoted name) = true) (single : '=' ∉ name)
    (plain : hasTilde true (unquoted value) = false) :
    simpleCommand .posix (Line.words ⟨[], name ++ '=' :: value, newline⟩) =
      .ok ⟨[(String.ofList name, String.ofList value)], []⟩ := by
  have word : unquoted (name ++ '=' :: value) =
      unquoted name ++ ⟨'=', false⟩ :: unquoted value := by simp [unquoted]
  simp only [Line.words, List.map_nil, List.nil_append, word, simpleCommand_assignment named single,
    plain]
  simp [simpleCommand, Except.map]

/-! ### Harmless paths are read back -/

theorem posix_later_plain (path : List Char) (pid : Nat) :
    ∀ l ∈ (evalLines .posix path (toString pid).toList).tail, l.Plain .posix := by
  have digits := (harmless_posix _).mp (harmless_pid .posix pid)
  have number : Dialect.posix.Plain (some ';') false (toString pid).toList := by
    rw [plain_iff] at digits ⊢
    exact ⟨digits.1.1, fun _ => (harmless_pid .csh pid).2.2.1, by simp⟩
  have message : ∀ p ∈ ["echo".toList, "Agent".toList, "pid".toList], Dialect.posix.Solid p := by
    decide
  intro l member
  simp only [evalLines, List.tail_cons, List.mem_cons, List.not_mem_nil, or_false] at member
  rcases member with rfl | rfl | rfl | rfl
  · exact ⟨by decide, by decide, by decide⟩
  · exact ⟨by simp, by simp, plain_assignment (by decide) (ordinary_of_all (by decide)) (by decide)
      digits.1⟩
  · exact ⟨by decide, by decide, by decide⟩
  · exact ⟨message, toString_ne_nil pid, number⟩

theorem posix_lines_plain {path : List Char} (harmless : Harmless .posix path) (pid : Nat) :
    ∀ l ∈ evalLines .posix path (toString pid).toList, l.Plain .posix := by
  intro l member
  rcases List.mem_cons.mp member with rfl | later
  · exact ⟨by simp, by simp, plain_assignment (by decide) (ordinary_of_all (by decide)) (by decide)
      ((harmless_posix path).mp harmless).1⟩
  · exact posix_later_plain path pid l later

/-- A command with a fixed name, and a last word that stands for itself. -/
theorem fixed_line {d : Dialect} (name : List Char) (others : List (List Char)) {last : List Char}
    (word : (if d = .posix then assignment (unquoted name) else none) = none)
    (fixed : ∀ p ∈ name :: others, d.globs (unquoted p) = false)
    (plain : d.globs (unquoted last) = false) :
    simpleCommand d (Line.words ⟨name :: others, last, true⟩) =
      .ok ⟨[], (name :: others ++ [last]).map String.ofList⟩ := by
  have words : Line.words ⟨name :: others, last, true⟩ =
      (name :: (others ++ [last])).map unquoted := by simp [Line.words]
  rw [words]
  refine simpleCommand_words word fun p member => ?_
  rcases List.mem_append.mp (List.cons_append ▸ member) with one | one
  · exact fixed p one
  · rw [List.mem_singleton.mp one]
    exact plain

theorem echo_line (d : Dialect) (pid : Nat) :
    simpleCommand d
        (Line.words ⟨["echo".toList, "Agent".toList, "pid".toList], (toString pid).toList, true⟩) =
      .ok ⟨[], ["echo", "Agent", "pid", toString pid]⟩ := by
  rw [fixed_line _ _ (by cases d <;> decide) (by cases d <;> decide) (pid_globs d pid)]
  simp only [List.cons_append, List.nil_append, List.map_cons, List.map_nil, String.ofList_toList]

theorem posix_actions {text : String} {socketPath : String} {pid : Nat}
    (printed : text.toList =
      (evalLines .posix socketPath.toList (toString pid).toList).flatMap Line.text)
    (harmless : Harmless .posix socketPath.toList) :
    actions .posix text = .ok (intended .posix socketPath pid) := by
  have value := ((harmless_posix _).mp harmless).2
  have digits := ((harmless_posix _).mp (harmless_pid .posix pid)).2
  have sock := simpleCommand_line "SSH_AUTH_SOCK".toList false (by decide) (by decide) value
  have number := simpleCommand_line "SSH_AGENT_PID".toList false (by decide) (by decide) digits
  have exportSock : simpleCommand .posix
      (Line.words ⟨["export".toList], "SSH_AUTH_SOCK".toList, true⟩) =
        .ok ⟨[], ["export", "SSH_AUTH_SOCK"]⟩ := by decide
  have exportPid : simpleCommand .posix
      (Line.words ⟨["export".toList], "SSH_AGENT_PID".toList, true⟩) =
        .ok ⟨[], ["export", "SSH_AGENT_PID"]⟩ := by decide
  unfold actions
  rw [read_lines printed (posix_lines_plain harmless pid)]
  simp only [evalLines, List.map_cons, List.map_nil, List.mapM_cons, List.mapM_nil, sock, number,
    exportSock, exportPid, echo_line, String.ofList_toList]
  rfl

theorem setenv_line (pid : Nat) :
    simpleCommand .csh
        (Line.words ⟨["setenv".toList, "SSH_AGENT_PID".toList], (toString pid).toList, true⟩) =
      .ok ⟨[], ["setenv", "SSH_AGENT_PID", toString pid]⟩ := by
  rw [fixed_line _ _ (by decide) (by decide) (pid_globs .csh pid)]
  simp only [List.cons_append, List.nil_append, List.map_cons, List.map_nil, String.ofList_toList]

theorem csh_later_plain (path : List Char) (pid : Nat) :
    ∀ l ∈ (evalLines .csh path (toString pid).toList).tail, l.Plain .csh := by
  have digits := ((harmless_csh _).mp (harmless_pid .csh pid)).1
  have number : ∀ p ∈ ["setenv".toList, "SSH_AGENT_PID".toList], Dialect.csh.Solid p := by decide
  have message : ∀ p ∈ ["echo".toList, "Agent".toList, "pid".toList], Dialect.csh.Solid p := by
    decide
  intro l member
  simp only [evalLines, List.tail_cons, List.mem_cons, List.not_mem_nil, or_false] at member
  rcases member with rfl | rfl
  · exact ⟨number, toString_ne_nil pid, digits⟩
  · exact ⟨message, toString_ne_nil pid, digits⟩

/-- An empty path leaves no word behind, and `setenv` without a value sets an empty one. -/
theorem csh_first_empty (rest : List Char) :
    lex .csh .bare none
        (Line.text ⟨["setenv".toList, "SSH_AUTH_SOCK".toList], [], true⟩ ++ rest) =
      emit [.word (unquoted "setenv".toList), .word (unquoted "SSH_AUTH_SOCK".toList),
        .separator ';', .separator '\n'] (lex .csh .bare none rest) := by
  have front : ∀ p ∈ ["setenv".toList, "SSH_AUTH_SOCK".toList], Dialect.csh.Solid p := by decide
  rw [Line.text, List.append_assoc, lex_words front]
  show emit _ (emit _ (emit _ (lex .csh .bare none rest))) = _
  cases lex .csh .bare none rest <;> rfl

theorem csh_actions {text : String} {socketPath : String} {pid : Nat}
    (printed : text.toList =
      (evalLines .csh socketPath.toList (toString pid).toList).flatMap Line.text)
    (harmless : Harmless .csh socketPath.toList) :
    actions .csh text = .ok (intended .csh socketPath pid) := by
  unfold actions
  have later := csh_later_plain socketPath.toList pid
  -- Without a path the first line has one word less, and is not a plain line.
  by_cases some_char : socketPath.toList = []
  · obtain rfl : socketPath = "" := String.toList_inj.mp some_char
    rw [some_char] at later printed
    have first : simpleCommand .csh [unquoted "setenv".toList, unquoted "SSH_AUTH_SOCK".toList] =
        .ok ⟨[], ["setenv", "SSH_AUTH_SOCK"]⟩ := by decide
    have lexed : lex .csh .bare none text.toList = .ok (
        [.word (unquoted "setenv".toList), .word (unquoted "SSH_AUTH_SOCK".toList),
          .separator ';', .separator '\n'] ++
        (evalLines .csh [] (toString pid).toList).tail.flatMap Line.tokens) := by
      rw [printed, ← emit_ok, ← lex_lines later]
      exact csh_first_empty _
    have gathered : ∀ ts, gather .csh [] ([.word (unquoted "setenv".toList),
        .word (unquoted "SSH_AUTH_SOCK".toList), .separator ';', .separator '\n'] ++ ts) =
        (gather .csh [] ts).map
          ([unquoted "setenv".toList, unquoted "SSH_AUTH_SOCK".toList] :: ·) := fun _ => rfl
    have whole : Shell.read .csh text =
        ([unquoted "setenv".toList, unquoted "SSH_AUTH_SOCK".toList] ::
          (evalLines .csh [] (toString pid).toList).tail.map Line.words).mapM
            (simpleCommand .csh) := by
      unfold Shell.read
      rw [lexed]
      simp only [bind, Except.bind]
      rw [gathered, gather_lines]
      rfl
    rw [whole]
    simp only [evalLines, List.tail_cons, List.map_cons, List.map_nil, List.mapM_cons,
      List.mapM_nil, first, setenv_line, echo_line]
    rfl
  · have plain : ∀ l ∈ evalLines .csh socketPath.toList (toString pid).toList, l.Plain .csh := by
      have front : ∀ p ∈ ["setenv".toList, "SSH_AUTH_SOCK".toList], Dialect.csh.Solid p := by
        decide
      intro l member
      rcases List.mem_cons.mp member with rfl | member
      · exact ⟨front, some_char, ((harmless_csh _).mp harmless).1⟩
      · exact later l member
    have sock := fixed_line "setenv".toList ["SSH_AUTH_SOCK".toList] (by decide) (by decide)
      ((harmless_csh _).mp harmless).2
    rw [read_lines printed plain]
    simp only [evalLines, List.map_cons, List.map_nil, List.mapM_cons, List.mapM_nil, sock,
      setenv_line, echo_line, String.ofList_toList, List.cons_append, List.nil_append]
    rfl

/-! ### Only harmless paths are read back -/

/-- The lines behind the path close it. -/
theorem closes_later {d : Dialect} {ls : List Line} (plain : ∀ l ∈ ls, l.Plain d) {gap : Char}
    (ends : gap = ' ' ∨ gap = '\n') : Closes (';' :: gap :: ls.flatMap Line.text) := by
  refine ⟨gap, _, rfl, ends, fun q member => ?_⟩
  obtain ⟨l, there, inside⟩ := List.mem_flatMap.mp member
  exact (plain l there).unquoted q inside

theorem posix_harmless {text : String} {socketPath : String} {pid : Nat}
    (printed : text.toList =
      (evalLines .posix socketPath.toList (toString pid).toList).flatMap Line.text)
    (acted : actions .posix text = .ok (intended .posix socketPath pid)) :
    Harmless .posix socketPath.toList := by
  have closes := closes_later (posix_later_plain socketPath.toList pid) (Or.inl rfl)
  generalize behind : ';' :: ' ' :: _ = tail at closes
  have cut : text.toList = "SSH_AUTH_SOCK=".toList ++ (socketPath.toList ++ tail) := by
    rw [printed, ← behind]
    simp [evalLines, Line.text]
  -- The first token is a word that starts with the name of the variable.
  have begun : lex .posix .bare none text.toList =
      lex .posix .bare (some (unquoted "SSH_AUTH_SOCK=".toList)) (socketPath.toList ++ tail) := by
    rw [cut]
    exact lex_solid (by decide) _
  cases lexed : lex .posix .bare none text.toList with
  | error t => simp [actions, Shell.read, lexed, bind, Except.bind, Except.map] at acted
  | ok ts =>
    obtain ⟨w, more, rfl, value, rfl⟩ := lex_begun_head (by simp) (begun.symm.trans lexed)
    obtain ⟨c, others, command, same⟩ := actions_first acted lexed
    have isVariable : isName (unquoted "SSH_AUTH_SOCK".toList) = true := by decide
    have word : unquoted "SSH_AUTH_SOCK=".toList ++ value =
      unquoted "SSH_AUTH_SOCK".toList ++ ⟨'=', false⟩ :: value := rfl
    rw [word, simpleCommand_assignment isVariable (by decide)] at command
    cases tilde : hasTilde true value with
    | true => simp [tilde] at command
    | false =>
      -- The value of the assignment is the path, and so are its characters.
      have read : Word.text value = socketPath := by
        simp only [tilde, Bool.false_eq_true, if_false] at command
        cases behind : simpleCommand .posix (leading more) with
        | error t => simp [behind, Except.map] at command
        | ok c' =>
          simp only [behind, Except.map, Except.ok.injEq] at command
          subst command
          cases words : c'.words with
          | nil =>
            simp only [intended, Command.actions, words, List.map_cons, List.cons_append,
              List.cons.injEq, Action.assign.injEq] at same
            exact same.1.2.symm
          | cons first rest => simp [intended, Command.actions, words] at same
      have chars : value.map Mark.char = socketPath.toList := by
        rw [← read, Word.text, String.toList_ofList]
      have plain : Dialect.posix.Plain (some ';') true socketPath.toList :=
        (lex_word_iff closes (begun.symm.trans lexed)).mp
          (by rw [List.map_append, chars])
      rw [begun, lex_plain (closes.head? ▸ plain)] at lexed
      have whole := Option.some.inj (lex_closes closes _ _ _ lexed)
      have unmarked : unquoted socketPath.toList = value := List.append_cancel_left whole
      exact (harmless_posix _).mpr ⟨plain, by rw [unmarked, tilde]⟩

theorem harmless_empty (d : Dialect) : Harmless d [] := by
  cases d with
  | posix => exact (harmless_posix []).mpr ⟨trivial, rfl⟩
  | csh => exact (harmless_csh []).mpr ⟨trivial, rfl⟩

theorem csh_harmless {text : String} {socketPath : String} {pid : Nat}
    (printed : text.toList =
      (evalLines .csh socketPath.toList (toString pid).toList).flatMap Line.text)
    (acted : actions .csh text = .ok (intended .csh socketPath pid)) :
    Harmless .csh socketPath.toList := by
  have closes := closes_later (csh_later_plain socketPath.toList pid) (Or.inr rfl)
  generalize behind : ';' :: '\n' :: _ = tail at closes
  have front : ∀ p ∈ ["setenv".toList, "SSH_AUTH_SOCK".toList], Dialect.csh.Solid p := by decide
  have cut : lex .csh .bare none text.toList =
      emit [.word (unquoted "setenv".toList), .word (unquoted "SSH_AUTH_SOCK".toList)]
        (lex .csh .bare none (socketPath.toList ++ tail)) := by
    have split : text.toList =
        ["setenv".toList, "SSH_AUTH_SOCK".toList].flatMap (fun p => p ++ [' ']) ++
          (socketPath.toList ++ tail) := by
      rw [printed, ← behind]
      simp [evalLines, Line.text]
    rw [split, lex_words front]
    rfl
  cases lexed : lex .csh .bare none (socketPath.toList ++ tail) with
  | error t =>
    rw [lexed] at cut
    simp [actions, Shell.read, cut, emit, bind, Except.bind, Except.map] at acted
  | ok ts =>
    rw [lexed, emit_ok] at cut
    obtain ⟨c, others, command, same⟩ := actions_first acted cut
    obtain ⟨texts, words, rfl⟩ := csh_command_ok command
    have setenv : plainWord .csh (unquoted "setenv".toList) = .ok "setenv" := by decide
    have name : plainWord .csh (unquoted "SSH_AUTH_SOCK".toList) = .ok "SSH_AUTH_SOCK" := by
      decide
    have second : leading ([Token.word (unquoted "SSH_AUTH_SOCK".toList)].append ts) =
      unquoted "SSH_AUTH_SOCK".toList :: leading ts := rfl
    simp only [second, List.mapM_cons, setenv, name, bind, Except.bind] at words
    cases arguments : leading ts with
    | nil =>
      -- Without a value the variable is set to the empty string.
      simp only [arguments, List.mapM_nil, pure, Except.pure, Except.ok.injEq] at words
      subst words
      simp only [intended, Command.actions, List.cons_append, List.cons.injEq,
        Action.setenv.injEq] at same
      rw [same.1.2]
      exact harmless_empty .csh
    | cons x xs =>
      obtain ⟨more, rfl⟩ := leading_cons arguments
      simp only [arguments, List.mapM_cons, bind, Except.bind] at words
      cases first : plainWord .csh x with
      | error t => simp [first] at words
      | ok v =>
        cases rest : xs.mapM (plainWord .csh) with
        | error t => simp [first, rest] at words
        | ok vs =>
          simp only [first, rest, pure, Except.pure, Except.ok.injEq] at words
          subst words
          cases vs with
          | cons v' vs => simp [intended, Command.actions] at same
          | nil =>
            simp only [intended, Command.actions, List.cons_append, List.cons.injEq,
              Action.setenv.injEq] at same
            obtain ⟨literal, value⟩ := plainWord_ok first
            have chars : x.map Mark.char = socketPath.toList := by
              rw [same.1.2, ← value, Word.text, String.toList_ofList]
            have plain := (lex_word_start_iff closes lexed).mp chars
            obtain ⟨char, others', shape⟩ :
                ∃ char others', socketPath.toList = char :: others' := by
              cases shape : socketPath.toList with
              | nil =>
                rw [shape] at lexed
                exact absurd (lex_closes closes none _ _ lexed) (by simp)
              | cons char others' => exact ⟨char, others', rfl⟩
            rw [shape] at lexed plain ⊢
            rw [lex_plain_start (closes.head? ▸ plain)] at lexed
            have whole := Option.some.inj (lex_closes closes _ _ _ lexed)
            exact (harmless_csh _).mpr ⟨plain, by rw [whole, literal]⟩

/-- A shell that evaluates the printed lines sets the two variables to the socket path and
to the pid, and does nothing else but export them and echo the pid, exactly when the path
is harmless in the dialect of the lines. -/
theorem eval_read_back_iff (socketPath : String) (pid : Nat) (bourne cshForced : Bool)
    (w : World Ag Va Te) :
    ∃ out, emitEval socketPath pid bourne cshForced w =
        (.ok (), { w with stdout := w.stdout ++ out }) ∧
      (actions (evalDialect w.env bourne cshForced) (printedText out) =
          .ok (intended (evalDialect w.env bourne cshForced) socketPath pid) ↔
        Harmless (evalDialect w.env bourne cshForced) socketPath.toList) := by
  obtain ⟨out, emitted, printed⟩ := emitEval_prints socketPath pid bourne cshForced w
  refine ⟨out, emitted, ?_⟩
  cases dialect : evalDialect w.env bourne cshForced with
  | posix =>
    rw [dialect] at printed
    exact ⟨posix_harmless printed, posix_actions printed⟩
  | csh =>
    rw [dialect] at printed
    exact ⟨csh_harmless printed, csh_actions printed⟩

/-! ### A command in the path -/

open Reference

set_option maxRecDepth 100000 in
/-- `gitway agent start -s -a '/tmp/x;touch y'`: the path ends at the semicolon, and the
shell goes on with the command behind it. -/
theorem eval_runs_command :
    ∃ out, emitEval "/tmp/x;touch y" 12 true false (world [] [] ⟨false, []⟩ ⟨[]⟩ ⟨[]⟩) =
        (.ok (), { world [] [] ⟨false, []⟩ ⟨[]⟩ ⟨[]⟩ with stdout := out }) ∧
      actions .posix (printedText out) = .ok [
        .assign "SSH_AUTH_SOCK" "/tmp/x", .other ⟨[], ["touch", "y"]⟩,
        .exported "SSH_AUTH_SOCK", .assign "SSH_AGENT_PID" "12", .exported "SSH_AGENT_PID",
        .echo ["Agent", "pid", "12"]] ∧
      actions .posix (printedText out) ≠ .ok (intended .posix "/tmp/x;touch y" 12) := by
  refine ⟨[.line "SSH_AUTH_SOCK=/tmp/x;touch y; export SSH_AUTH_SOCK;",
    .line "SSH_AGENT_PID=12; export SSH_AGENT_PID;", .line "echo Agent pid 12;"], rfl, ?_⟩
  have ran : actions .posix (printedText [
      .line "SSH_AUTH_SOCK=/tmp/x;touch y; export SSH_AUTH_SOCK;",
      .line "SSH_AGENT_PID=12; export SSH_AGENT_PID;", .line "echo Agent pid 12;"]) = .ok [
        .assign "SSH_AUTH_SOCK" "/tmp/x", .other ⟨[], ["touch", "y"]⟩,
        .exported "SSH_AUTH_SOCK", .assign "SSH_AGENT_PID" "12", .exported "SSH_AGENT_PID",
        .echo ["Agent", "pid", "12"]] := by decide +kernel
  refine ⟨ran, ?_⟩
  rw [ran]
  decide +kernel

end Gitway.Agent
