import Lalr.Forest.Basic
import Lalr.Table.Grid
import Lalr.Text.Context

/-!
# Failures

Everything that can go wrong, by its cause, and the message for each cause.
Where the input is at fault the failure also says where, what would have been
accepted instead, and in which state of the parse.
-/

namespace Lalr

/-- What is wrong with the options of a parser. -/
inductive ConfigurationFault where
  | noStart
  | unsupportedParser (parser : Data)
  | unsupportedLexer (lexer : Data)
  | invalidPropagation (setting : Data)
  | unknownOption (name : String)
  | fixedOptions (names : List String)
  | severalStarts (starts : List Data)
  | unknownStart (start : String) (starts : List Data)
  deriving DecidableEq, Inhabited

/-- The message of a fault. -/
def ConfigurationFault.message : ConfigurationFault → String
  | .noStart => "At least one start symbol is required"
  | .unsupportedParser parser =>
    "Unsupported parser " ++ parser.shown ++ ": only 'lalr' tables can be run"
  | .unsupportedLexer lexer =>
    "Unsupported lexer " ++ lexer.shown ++ ": must be 'basic' or 'contextual'"
  | .invalidPropagation setting => "Invalid option for propagate_positions: " ++ setting.shown
  | .unknownOption name => "Unknown option: " ++ name
  | .fixedOptions names =>
    "Can't change " ++ Text.joinWith ", " names ++ " when loading a compiled grammar"
  | .severalStarts starts =>
    "(" ++ Text.quoted ("Parser was loaded with more than one possible start rule. "
        ++ "Must specify which start rule to parse")
      ++ ", " ++ (Data.list starts).shown ++ ")"
  | .unknownStart start starts =>
    "Unknown start rule " ++ start ++ ". Must be one of " ++ (Data.list starts).shown

/-- What is wrong with a compiled grammar. -/
inductive GrammarFault where
  | unexpectedType (name : Data)
  | danglingReference (reference : Data)
  | malformed (what : String)
  | missingField (owner field : String)
  | malformedAction (raw : Data)
  | notRule (shown : String)
  | unknownAction (kind : Data)
  | unknownToken (index : String)
  | unknownStart (start : Data) (known : List String)
  | duplicateRule (rule : String)
  deriving DecidableEq, Inhabited

/-- The message of a fault. -/
def GrammarFault.message : GrammarFault → String
  | .unexpectedType name => "Unexpected object of type " ++ name.shown ++ " in compiled grammar"
  | .danglingReference reference =>
    "Dangling reference " ++ reference.shown ++ " in compiled grammar"
  | .malformed what => "Malformed " ++ what
  | .missingField owner field => "Compiled grammar is missing " ++ owner ++ "." ++ field
  | .malformedAction raw => "Malformed parse action " ++ raw.shown
  | .notRule shown => "Reduce action refers to " ++ shown ++ ", which isn't a rule"
  | .unknownAction kind => "Unknown parse action kind " ++ kind.shown
  | .unknownToken index => "Parse table refers to unknown token #" ++ index
  | .unknownStart start known =>
    "Unknown start symbol " ++ start.shown ++ "; the table knows " ++ Data.shownTexts known
  | .duplicateRule rule => "Rule " ++ rule ++ " already exists"

/-- What is wrong with the terminals of a lexer or the tokens it makes. -/
inductive LexicalFault where
  | unknownFlags (flags : List String) (pattern : String)
  | uncompilable (name pattern : String)
  | zeroWidth (name pattern : String)
  | undefinedIgnored (names : List Data)
  | notToken (shown : String)
  deriving DecidableEq, Inhabited

/-- The message of a fault. -/
def LexicalFault.message : LexicalFault → String
  | .unknownFlags flags pattern =>
    "Unknown pattern flags " ++ Data.shownTexts flags ++ " in " ++ pattern
  | .uncompilable name pattern => "Cannot compile token " ++ name ++ ": " ++ pattern
  | .zeroWidth name pattern =>
    "Lexer does not allow zero-width terminals. (" ++ name ++ ": " ++ pattern ++ ")"
  | .undefinedIgnored names => "Ignore terminals are not defined: " ++ (Data.list names).shown
  | .notToken shown => "Callbacks must return a token (returned " ++ shown ++ ")"

/-- Calls that are refused whatever the grammar. -/
inductive Refusal where
  | lexWithoutText
  | resumeWithoutText
  | spanInInlineHandler
  | treeWithOthers
  | customWithOthers
  deriving DecidableEq, Repr, Inhabited

/-- The message of a refusal. -/
def Refusal.message : Refusal → String
  | .lexWithoutText => "Cannot lex: No text assigned to lexer state"
  | .resumeWithoutText =>
    "Cannot resume: this parser has no text to lex. Feed it tokens instead."
  | .spanInInlineHandler => "Meta args not supported for internal transformer"
  | .treeWithOthers => "Visitor functions cannot combine 'tree' with 'meta' or 'inline'."
  | .customWithOthers => "Cannot use 'wrapper' along with 'tree', 'meta' or 'inline'."

/-- Faults that carry no message: something was looked up and not there, or not of the kind that was
needed. A `strayStop` is what becomes of a failure that would have ended an iteration before its
time. -/
inductive Fault where
  | missingEntry
  | outOfRange
  | brokenPromise
  | wrongKind
  | missingPart
  | malformedRegex
  | malformedValue
  | tooLarge
  | strayStop
  deriving DecidableEq, Repr, Inhabited

/-- Where a parse stands: how many states are on its stack, and which is on top. -/
structure Standing where
  depth : Nat
  state : State
  deriving DecidableEq, Inhabited

/-- What was rejected: a token, or just a text where nobody made a token. -/
inductive Offender where
  | token (token : Token)
  | text (text : String)
  deriving DecidableEq, Inhabited

namespace Offender

/-- The place of what was rejected. -/
def place : Offender → Place
  | .token it => it.place
  | .text _ => {}

/-- What was rejected, as messages show it. -/
def shown : Offender → String
  | .token it => it.shown
  | .text it => Text.quoted it

/-- A line or column of what was rejected, as messages show it. -/
def positionShown (offender : Offender) (position : Place → Option Nat) : String :=
  match offender with
  | .token it =>
    match position it.place with
    | some position => toString position
    | none => "None"
  | .text _ => "?"

/-- The kind of what was rejected, if it is a token. -/
def kind? : Offender → Option String
  | .token it => some it.kind
  | .text _ => none

end Offender

/-- The failure of a lexer that finds no terminal at a position. `allowed` holds the names of the
terminals that were tried, in order. -/
structure StuckText where
  char : Char
  position : Nat
  line : Nat
  column : Nat
  allowed : List String := []
  history : Option (List Token) := none
  standing : Option Standing := none
  deriving DecidableEq, Inhabited

/-- Where a parse can be taken up again: its stack of states, the top first, and the state that
would end it. -/
structure Standpoint where
  states : List State
  ending : State
  deriving DecidableEq, Inhabited

/-- The failure of a parse that has no action for a token. `expected` holds the terminals that the
state has entries for, in order. A failure that has gone through a running parse knows where the
parse can be taken up again. -/
structure StuckToken where
  offender : Offender
  expected : List String
  atEnd : Bool := false
  history : Option (List Token) := none
  standing : Option Standing := none
  standpoint : Option Standpoint := none
  deriving DecidableEq, Inhabited

/-- The names that would have been accepted, one on a line. -/
def expectedShown (names : List String) : String :=
  "Expected one of: \n\t* " ++ Text.joinWith "\n\t* " names ++ "\n"

/-- The message of a lexer that is stuck. -/
def StuckText.message (stuck : StuckText) : String :=
  "No terminal matches '" ++ stuck.char.toString ++ "' in the current parser context, at line "
    ++ toString stuck.line ++ " col " ++ toString stuck.column
    ++ (if stuck.allowed.isEmpty then "" else "\n\n" ++ expectedShown stuck.allowed)
    ++ (match stuck.history with
        | none | some [] => ""
        | some history =>
          "\nPrevious tokens: " ++ Text.joinWith ", " (history.map Token.shown) ++ "\n")

/-- The message of a parse that is stuck, given the terminals that would really be accepted. -/
def StuckToken.message (stuck : StuckToken) (acceptable : List String) : String :=
  if stuck.atEnd then
    "Unexpected end-of-input. " ++ expectedShown acceptable
      ++ (match stuck.history.bind List.getLast? with
          | some last => "Last token: " ++ last.shown ++ "\n"
          | none => "")
  else
    "Unexpected token " ++ stuck.offender.shown
      ++ " at line " ++ stuck.offender.positionShown Place.line
      ++ ", column " ++ stuck.offender.positionShown Place.column ++ ".\n"
      ++ expectedShown acceptable
      ++ (match stuck.history with
          | none | some [] => ""
          | some history => "Previous tokens: " ++ Token.shownList history ++ "\n")

/-- Everything that can go wrong. A `visit` failure says at which tree or token a handler failed,
and how; a `raised` failure comes from a handler itself. -/
inductive Failure where
  | configuration (cause : ConfigurationFault)
  | grammar (cause : GrammarFault)
  | lexical (cause : LexicalFault)
  | refused (cause : Refusal)
  | fault (cause : Fault)
  | unmeasurable (pattern : String)
  | dedent (width expected : Nat)
  | stuckText (stuck : StuckText)
  | stuckToken (stuck : StuckToken)
  | visit (rule : String) (subject : Value) (origin : Failure)
  | raised (kind message : String)
  deriving DecidableEq, Inhabited

namespace Failure

/-- Whether the input is at fault, so that a parse may go on after it. -/
def isStuck : Failure → Bool
  | .stuckText _ => true
  | .stuckToken _ => true
  | _ => false

/-- Whether the failure blames the grammar. Such a failure passes through handlers unchanged. -/
def isGrammar : Failure → Bool
  | .grammar _ => true
  | .raised kind _ => kind == "GrammarError"
  | _ => false

/-- Whether the failure is one that says that an iteration is over. -/
def isStop : Failure → Bool
  | .raised kind _ => kind == "StopIteration"
  | _ => false

/-- Whether the failure ends the input. -/
def atEnd : Failure → Bool
  | .stuckToken stuck => stuck.offender.kind? == some Token.endKind
  | _ => false

/-- Where the parse stood when the input was found at fault. -/
def standing? : Failure → Option Standing
  | .stuckText stuck => stuck.standing
  | .stuckToken stuck => stuck.standing
  | _ => none

/-- The position in the text that the failure is about. -/
def position? : Failure → Option Nat
  | .stuckText stuck => some stuck.position
  | .stuckToken stuck => stuck.offender.place.startPos
  | _ => none

/-- The line and the column that the failure is about, as messages show them. -/
def lineAndColumnShown : Failure → String × String
  | .stuckText stuck => (toString stuck.line, toString stuck.column)
  | .stuckToken stuck =>
    (stuck.offender.positionShown Place.line, stuck.offender.positionShown Place.column)
  | _ => ("None", "None")

/-- The name of the kind of failure, if it has one of its own. -/
def kind? : Failure → Option String
  | .configuration _ => some "ConfigurationError"
  | .grammar _ => some "GrammarError"
  | .lexical _ => some "LexError"
  | .refused _ => none
  | .fault .strayStop => some "RuntimeError"
  | .fault _ => none
  | .unmeasurable _ => none
  | .dedent _ _ => some "DedentError"
  | .stuckText _ => some "UnexpectedCharacters"
  | .stuckToken stuck => some (if stuck.atEnd then "UnexpectedEOF" else "UnexpectedToken")
  | .visit _ _ _ => some "VisitError"
  | .raised kind _ => some kind

/-- The message of a failure, given the terminals that would have been accepted where the input is
at fault. -/
def message (acceptable : List String) : Failure → String
  | .configuration cause => cause.message
  | .grammar cause => cause.message
  | .lexical cause => cause.message
  | .refused cause => cause.message
  | .fault _ => ""
  | .unmeasurable pattern => pattern
  | .dedent width expected =>
    "Unexpected dedent to column " ++ toString width ++ ". Expected dedent to " ++ toString expected
  | .stuckText stuck => stuck.message
  | .stuckToken stuck => stuck.message acceptable
  | .visit rule _ origin =>
    "Error trying to process rule \"" ++ rule ++ "\":\n\n" ++ message acceptable origin
  | .raised _ message => message

/-- The line of a text around the position of the failure, with a caret below it. -/
def context (failure : Failure) (text : String) (span : Nat := 40) : Except Failure String :=
  match failure.position? with
  | some position => .ok (Text.context text position span)
  | none => .error (.fault .brokenPromise)

end Failure

end Lalr
