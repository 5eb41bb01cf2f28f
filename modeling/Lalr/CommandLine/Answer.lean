import Lalr.CommandLine.Arguments
import Lalr.Data.Reader
import Lalr.Parser.Session
import Lalr.Parser.Store
import Lalr.Unicode.Blank

/-!
# Answers of the command line

A request is answered with an exit code and two texts, the output and the
complaints. The records of the journal are among the complaints. A failure that
is nobody's complaint is the failure of the whole command.
-/

namespace Lalr.CommandLine

/-- What a command answers. -/
structure Answer where
  code : Nat := 0
  output : String := ""
  complaints : String := ""
  deriving DecidableEq, Repr, Inhabited

/-- Why a file cannot be read. -/
inductive Unreadable where
  | missing
  | forbidden
  | directory
  deriving DecidableEq, Repr, Inhabited

/-- What is said of a file that cannot be read. -/
def Unreadable.message (name : String) : Unreadable → String
  | .missing => "[Errno 2] No such file or directory: " ++ Text.quoted name
  | .forbidden => "[Errno 13] Permission denied: " ++ Text.quoted name
  | .directory => "[Errno 21] Is a directory: " ++ Text.quoted name

/-- The text with a line break after it. -/
def line (text : String) : String := text ++ "\n"

/-- The level from which on records of the journal are shown. -/
def threshold (verbosity : Nat) : Level :=
  match verbosity with
  | 0 => .error
  | 1 => .info
  | _ => .debug

/-- The journal as complaints show it. -/
def journalShown (journal : Journal) : String :=
  String.join (journal.inOrder.map fun entry => line (entry.channel.shown ++ ": " ++ entry.message))

/-- Whether a grammar that fails to load in this way is complained about. -/
def isComplaintAboutGrammar : Failure → Bool
  | .fault cause => cause == .malformedValue
  | .refused _ => false
  | .raised _ _ => false
  | _ => true

/-- The parser for a grammar, or a complaint about it. -/
def openGrammar (request : Request) (source : Except Unreadable String) :
    Run (Except String Parser) := do
  match source with
  | .error reason => return .error (reason.message request.grammar)
  | .ok text =>
    match Data.ofJson? text with
    | none => return .error "not a JSON document"
    | some data =>
      unless data.isRecord do throw (.fault .brokenPromise)
      let positions : Setting := .data (.bool request.wishes.positions)
      try return .ok (← Parser.load data [("propagate_positions", positions)])
      catch failure =>
        if isComplaintAboutGrammar failure then return .error (failure.message [])
        else throw failure

/-- What is complained about where a text fails. Where the text is at fault the line around the
fault is shown below the message. -/
def complaint (parser : Parser) (text : String) (failure : Failure) : Run String := do
  match failure with
  | .stuckText _ | .stuckToken _ =>
    let acceptable ← ExceptT.mk (parser.acceptable failure)
    let context ← Run.lift (failure.context text)
    return line (Unicode.trimEnd (failure.message acceptable)) ++ context
  | .configuration _ | .grammar _ | .lexical _ | .dedent _ _ | .visit _ _ _ =>
    return line (failure.message [])
  | _ => throw failure

/-- A token as a line of the output. -/
def tokenLine (token : Token) : String :=
  line (token.kind ++ "\t" ++ token.value.shown ++ "\t" ++ shownPosition token.place.line ++ ":"
    ++ shownPosition token.place.column)

/-- Answers with the tokens of a text, as far as it has any. -/
def lexAnswer (parser : Parser) (text : String) : Run Answer := do
  let drained ← parser.tokens text false (text.length + 2)
  let output := String.join (drained.tokens.map tokenLine)
  match drained.failure with
  | none => return { output }
  | some failure => return { code := 1, output, complaints := ← complaint parser text failure }

/-- Answers with the tree of a text. -/
def parseAnswer (parser : Parser) (text : String) (wishes : Wishes) : Run Answer := do
  match ← ExceptT.lift (parser.parse text wishes.start).run with
  | .ok (.node root) =>
    if wishes.positions then
      return { output := line (Text.joinWith "\n" (← Work.look (·.spannedLines root))) }
    else return { output := ← Work.look (·.outline root) }
  | .ok _ => throw (.fault .missingPart)
  | .error failure => return { code := 1, complaints := ← complaint parser text failure }

/-- Answers a request, apart from the journal. -/
def respond (request : Request) (source : Except Unreadable String) (input : String) :
    Run Answer := do
  match ← openGrammar request source with
  | .error reason => return { code := 1, complaints := line (request.grammar ++ ": " ++ reason) }
  | .ok parser =>
    let text := if request.words.isEmpty then input else Text.joinWith " " request.words
    if request.wishes.table then return { output := line parser.table.grid }
    else if request.wishes.lexing then lexAnswer parser text
    else parseAnswer parser text request.wishes

/-- Answers a request, given the file of the grammar and the standard input. -/
def answer (request : Request) (source : Except Unreadable String) (input : String) :
    Except Failure Answer := do
  let journal : Journal := { threshold := some (threshold request.wishes.verbosity) }
  let (result, workspace) := (respond request source input).run { journal }
  let reply ← result
  return { reply with complaints := journalShown workspace.journal ++ reply.complaints }

end Lalr.CommandLine
