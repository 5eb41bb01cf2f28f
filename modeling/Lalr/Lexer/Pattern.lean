import Lalr.Failure
import Lalr.LineCounter
import Lalr.Regex.Reader

/-!
# Patterns

A pattern says how the text of a terminal is recognised: as a literal or by a
regular expression, under flags that are its own.
-/

namespace Lalr

/-- Whether a pattern is a literal text or a regular expression. -/
inductive PatternKind where
  | literal
  | expression
  deriving DecidableEq, Repr, Inhabited

/-- A pattern. `raw` is the pattern as the grammar has it, if that is known, and `storedWidth` is
the width that came with a stored pattern, which is trusted. -/
structure Pattern where
  kind : PatternKind
  value : String
  flags : RegexFlags := {}
  raw : Option String := none
  storedWidth : Option Width := none
  deriving DecidableEq, Repr, Inhabited

/-- The letters of flags, in order. -/
def RegexFlags.letters (flags : RegexFlags) : List String :=
  (if flags.ascii then ["A"] else []) ++ (if flags.ignoreCase then ["i"] else [])
    ++ (if flags.multiLine then ["m"] else []) ++ (if flags.dotAll then ["s"] else [])
    ++ (if flags.verbose then ["x"] else [])

/-- The flags that letters stand for. Other letters are passed over. -/
def RegexFlags.ofLetters (letters : List String) : RegexFlags where
  ascii := letters.contains "A"
  ignoreCase := letters.contains "i"
  multiLine := letters.contains "m"
  dotAll := letters.contains "s"
  verbose := letters.contains "x"

/-- The letters that stand for flags. -/
def flagLetters : List String := ["A", "i", "m", "s", "x"]

/-- The characters that a literal has to escape inside a regular expression. -/
def escapedChars : List Char := "()[]\x7b\x7d?*+-|^$\\.&~# \t\n\r\x0b\x0c".toList

/-- The regular expression that matches just a literal. -/
def escapedLiteral (text : String) : String :=
  String.ofList (text.toList.flatMap fun c => if escapedChars.contains c then ['\\', c] else [c])

/-- An expression inside a group for each flag, the first flag innermost. -/
def flagged (letters : List String) (expression : String) : String :=
  letters.foldl
    (fun inner letter => "(?" ++ Unicode.lowerText letter ++ ":" ++ inner ++ ")") expression

/-- Whether the text of an expression holds another text. -/
def holdsText (needle text : String) : Bool :=
  countOccurrences needle.toList 0 text.toList != 0

/-- Whether an expression looks as if it could match a line break. Where it does not, the line
breaks of its tokens are not counted. -/
def mayMatchBreak (expression : String) : Bool :=
  holdsText "\n" expression || holdsText "\\n" expression || holdsText "\\s" expression
    || holdsText "[^" expression || (holdsText "(?s" expression && holdsText "." expression)

/-- A fault of an expression as a failure. -/
def RegexFault.failure : RegexFault → Failure
  | .malformed => .fault .malformedRegex
  | .repeatTooLarge => .fault .tooLarge
  | .mixedAlphabets => .fault .malformedValue

namespace Pattern

/-- The regular expression of a pattern under letters that may stand for flags. -/
def expressionUnder (kind : PatternKind) (value : String) (letters : List String) : String :=
  match kind with
  | .literal => flagged letters (escapedLiteral value)
  | .expression => flagged letters value

/-- A pattern with flags given by letters. Letters that stand for no flag are refused. -/
def make (kind : PatternKind) (value : String) (letters : List String)
    (raw : Option String := none) (storedWidth : Option Width := none) : Except Failure Pattern :=
  let letters := sortedSet letters
  match letters.filter fun letter => !flagLetters.contains letter with
  | [] => .ok { kind, value, flags := .ofLetters letters, raw, storedWidth }
  | unknown =>
    .error (.lexical (.unknownFlags unknown (Text.quoted (expressionUnder kind value letters))))

/-- The regular expression of a pattern. -/
def expression (pattern : Pattern) : String :=
  expressionUnder pattern.kind pattern.value pattern.flags.letters

/-- The pattern as messages show it. -/
def shown (pattern : Pattern) : String := Text.quoted pattern.expression

/-- Whether two patterns recognise the same by the same means. -/
def same (a b : Pattern) : Bool := a.kind == b.kind && a.value == b.value && a.flags == b.flags

/-- The width of a pattern. -/
def width (pattern : Pattern) : Except Failure Width :=
  match pattern.kind, pattern.storedWidth with
  | .literal, _ => .ok ⟨pattern.value.length, pattern.value.length⟩
  | .expression, some width => .ok width
  | .expression, none =>
    match Regex.widthOf pattern.expression with
    | .ok width => .ok width
    | .error .malformed => .error (.unmeasurable pattern.expression)
    | .error fault => .error fault.failure

end Pattern

/-- A terminal: a name, a pattern, and the priority with which it competes. -/
structure Terminal where
  name : String
  pattern : Pattern
  priority : Int := 0
  deriving DecidableEq, Repr, Inhabited

namespace Terminal

/-- The terminal as messages show it. -/
def shown (terminal : Terminal) : String :=
  "TerminalDef(" ++ Text.quoted terminal.name ++ ", " ++ terminal.pattern.shown ++ ")"

/-- The terminal as the user of a grammar knows it. A terminal without a name of its own goes by
what the grammar has in its place. -/
def userShown (terminal : Terminal) : String :=
  if "__".toList.isPrefixOf terminal.name.toList then
    match terminal.pattern.raw with
    | none | some "" => terminal.name
    | some raw => raw
  else terminal.name

end Terminal

end Lalr
