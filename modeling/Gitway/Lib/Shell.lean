import Mathlib.Data.List.Basic

/-!
# Reading shell text

How a shell takes a text apart into simple commands, as far as the words of these are
literal. A text with anything in it that the shell would expand, connect with an operator
or leave open is not read; what such a text does depends on more than its characters.

The reader works in three stages: characters to tokens, tokens to commands and words to
assignments and arguments.
-/
namespace Lib.Shell

/-- The two families of shells. -/
inductive Dialect where
  | posix
  | csh
  deriving DecidableEq, Repr

/-- Why a text is not a list of simple commands made of literal words. -/
inductive Trouble where
  | expansion
  | operator
  | unterminated
  | emptyCommand
  | nul
  deriving DecidableEq, Repr

/-- A character of a word, and whether it was quoted. -/
structure Mark where
  char : Char
  quoted : Bool
  deriving DecidableEq, Repr

abbrev Word : Type := List Mark

def Word.text (w : Word) : String := String.ofList (w.map Mark.char)

/-- A word without any quoting. -/
def unquoted (cs : List Char) : Word := cs.map fun c => ⟨c, false⟩

inductive Token where
  | word (w : Word)
  | separator (c : Char)
  deriving DecidableEq, Repr

/-! ### Characters -/

inductive Quote where
  | single
  | double
  deriving DecidableEq, Repr

def Quote.char : Quote → Char
  | .single => '\x27'
  | .double => '\x22'

def isBlank (c : Char) : Bool := c == ' ' || c == '\t'

def isSeparator (c : Char) : Bool := c == ';' || c == '\n'

def isOperator (c : Char) : Bool := ['&', '|', '<', '>', '(', ')'].contains c

/-- The character starts an expansion, inside these quotes or outside any. -/
def Dialect.live (d : Dialect) (quote : Option Quote) (c : Char) (next : Option Char) : Bool :=
  if c == '$' || c == '\x60' then quote != some .single
  -- The history character is passed unchanged before these.
  else c == '!' && d == .csh && !next.any fun n => [' ', '\t', '\n', '=', '('].contains n

/-- A backslash inside the quotes takes away the meaning of this character. -/
def Dialect.escapable (d : Dialect) (quote : Quote) (c : Char) : Bool :=
  match d with
  | .posix => quote == .double && ['$', '\x60', '\x22', '\\', '\n'].contains c
  | .csh => ['!', '\n'].contains c

/-- What a character is outside quotes. -/
inductive Kind where
  | blank
  | separator
  | quote (q : Quote)
  | backslash
  | comment
  | trouble (t : Trouble)
  | plain
  deriving DecidableEq, Repr

/-- `begun` says whether a word has been begun, and `next` is the character behind. -/
def Dialect.kind (d : Dialect) (begun : Bool) (c : Char) (next : Option Char) : Kind :=
  if isBlank c then .blank
  else if isSeparator c then .separator
  else if c == Quote.single.char then .quote .single
  else if c == Quote.double.char then .quote .double
  else if c == '\\' then .backslash
  else if c == '#' && !begun then .comment
  else if d.live none c next then .trouble .expansion
  else if isOperator c then .trouble .operator
  else if c == '\x00' then .trouble .nul
  else .plain

/-- What a character is inside quotes. -/
inductive QuotedKind where
  | closing
  | backslash
  | trouble (t : Trouble)
  | plain
  deriving DecidableEq, Repr

def Dialect.quotedKind (d : Dialect) (q : Quote) (c : Char) (next : Option Char) : QuotedKind :=
  if c == q.char then .closing
  else if c == '\\' && next.any (d.escapable q) then .backslash
  else if d.live (some q) c next then .trouble .expansion
  else if c == '\n' && d == .csh then .trouble .unterminated
  else if c == '\x00' then .trouble .nul
  else .plain

/-! ### Tokens -/

inductive Quoting where
  | bare
  | escaped
  | quoted (q : Quote)
  | quotedEscaped (q : Quote)
  | comment
  deriving DecidableEq, Repr

def extend (cur : Option Word) (c : Char) (quoted : Bool) : Option Word :=
  some (cur.getD [] ++ [⟨c, quoted⟩])

def flush (cur : Option Word) : List Token := cur.toList.map .word

def emit (ts : List Token) (rest : Except Trouble (List Token)) : Except Trouble (List Token) :=
  rest.map (ts ++ ·)

/-- The tokens of a text. `cur` is the word that has been begun, if there is one. -/
def lex (d : Dialect) : Quoting → Option Word → List Char → Except Trouble (List Token)
  | .bare, cur, [] => .ok (flush cur)
  | .comment, _, [] => .ok []
  | .escaped, _, [] | .quoted _, _, [] | .quotedEscaped _, _, [] => .error .unterminated
  | .bare, cur, c :: cs =>
    match d.kind cur.isSome c cs.head? with
    | .blank => emit (flush cur) (lex d .bare none cs)
    | .separator => emit (flush cur ++ [.separator c]) (lex d .bare none cs)
    | .quote q => lex d (.quoted q) (some (cur.getD [])) cs
    | .backslash => lex d .escaped cur cs
    | .comment => lex d .comment none cs
    | .trouble t => .error t
    | .plain => lex d .bare (extend cur c false) cs
  | .escaped, cur, c :: cs =>
    if c == '\n' then
      match d with
      -- The line goes on.
      | .posix => lex d .bare cur cs
      | .csh => emit (flush cur) (lex d .bare none cs)
    else if c == '\x00' then .error .nul
    else lex d .bare (extend cur c true) cs
  | .quoted q, cur, c :: cs =>
    match d.quotedKind q c cs.head? with
    | .closing => lex d .bare cur cs
    | .backslash => lex d (.quotedEscaped q) cur cs
    | .trouble t => .error t
    | .plain => lex d (.quoted q) (extend cur c true) cs
  | .quotedEscaped q, cur, c :: cs =>
    if c == '\n' && d == .posix then lex d (.quoted q) cur cs
    else lex d (.quoted q) (extend cur c true) cs
  | .comment, _, c :: cs =>
    if c == '\n' then emit [.separator c] (lex d .bare none cs)
    else lex d .comment none cs

/-! ### Commands -/

/-- The words of each command. -/
def gather (d : Dialect) : List Word → List Token → Except Trouble (List (List Word))
  | words, [] => .ok (if words.isEmpty then [] else [words])
  | words, .word w :: ts => gather d (words ++ [w]) ts
  | words, .separator c :: ts =>
    if words.isEmpty then
      if c == ';' && d == .posix then .error .emptyCommand else gather d [] ts
    else (gather d [] ts).map (words :: ·)

structure Command where
  assignments : List (String × String)
  words : List String
  deriving DecidableEq, Repr

/-- An identifier that is not quoted. -/
def isName : Word → Bool
  | [] => false
  | first :: others =>
    (first.char.isAlpha || first.char == '_') && !first.quoted &&
      others.all fun m => (m.char.isAlphanum || m.char == '_') && !m.quoted

/-- The name and the value of an assignment. -/
def assignment (w : Word) : Option (Word × Word) :=
  match w.dropWhile fun m => m.char != '=' with
  | ⟨_, false⟩ :: value =>
    let name := w.takeWhile fun m => m.char != '='
    if isName name then some (name, value) else none
  | _ => none

/-- An unquoted tilde at the start of the value or behind an unquoted colon. `opens` says
whether a tilde would be at such a place here. -/
def hasTilde (opens : Bool) : Word → Bool
  | [] => false
  | m :: value => (opens && m == ⟨'~', false⟩) || hasTilde (m == ⟨':', false⟩) value

/-- The shell looks for homes, files or alternatives that the word stands for. -/
def Dialect.globs (d : Dialect) (w : Word) : Bool :=
  w.head? == some ⟨'~', false⟩ ||
    w.any (fun m => ['*', '?', '['].contains m.char && !m.quoted) ||
    (d == .csh && w.any (fun m => m == ⟨'{', false⟩) && w != unquoted ['{'] &&
      w != unquoted ['{', '}'])

def plainWord (d : Dialect) (w : Word) : Except Trouble String :=
  if d.globs w then .error .expansion else .ok w.text

/-- A simple command: assignments come before its words. -/
def simpleCommand (d : Dialect) : List Word → Except Trouble Command
  | [] => .ok ⟨[], []⟩
  | w :: ws =>
    match (if d = .posix then assignment w else none) with
    | some (name, value) =>
      if hasTilde true value then .error .expansion
      else (simpleCommand d ws).map fun c =>
        { c with assignments := (name.text, value.text) :: c.assignments }
    | none => ((w :: ws).mapM (plainWord d)).map fun words => ⟨[], words⟩

def read (d : Dialect) (text : String) : Except Trouble (List Command) := do
  let tokens ← lex d .bare none text.toList
  let commands ← gather d [] tokens
  commands.mapM (simpleCommand d)

/-! ### What a command does -/

inductive Action where
  | assign (name value : String)
  | exported (name : String)
  | setenv (name value : String)
  | echo (words : List String)
  | other (command : Command)
  deriving DecidableEq, Repr

def Command.actions (d : Dialect) (command : Command) : List Action :=
  match d, command.assignments, command.words with
  | .posix, assignments, [] => assignments.map fun a => .assign a.1 a.2
  | .posix, [], ["export", name] =>
    if name.toList.contains '=' then [.other command] else [.exported name]
  | .csh, [], ["setenv", name] => [.setenv name ""]
  | .csh, [], ["setenv", name, value] => [.setenv name value]
  | _, [], "echo" :: words => [.echo words]
  | _, _, _ => [.other command]

/-- All that a text does, where that can be read off it. -/
def actions (d : Dialect) (text : String) : Except Trouble (List Action) :=
  (read d text).map fun commands => commands.flatMap (Command.actions d)

end Lib.Shell
