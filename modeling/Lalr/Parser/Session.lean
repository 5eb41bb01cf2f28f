import Lalr.Forest.Copy
import Lalr.Parser.Basic

/-!
# Sessions

A session is a parse that can be taken step by step: fed with tokens by hand or
from its text, copied, asked what it would accept, and run to its end. A frozen
session does not change when it is fed; it gives a new one instead.
-/

namespace Lalr

/-- A parse in progress. `starting` lies at the bottom of the stack and `ending` is the state that
ends the parse; `cursor` is the position in the text if there is one, and `result` is what the last
token fed from the text has given. -/
structure Session where
  stack : Stack State Value
  starting : State
  ending : State
  cursor : Option Cursor := none
  result : Value := .nothing
  frozen : Bool := false
  deriving Inhabited

namespace Session

/-- Where the parse stands. -/
def standing? (session : Session) : Option Standing :=
  session.stack.states.head?.map fun state => ⟨session.stack.states.length, state⟩

/-- Where the parse can be taken up again. -/
def standpoint (session : Session) : Standpoint := ⟨session.stack.states, session.ending⟩

/-- Whether two sessions are at the same position of their texts, or neither has a text. -/
def sameCursor (a b : Session) : Bool :=
  match a.cursor, b.cursor with
  | none, none => true
  | some a, some b => a.same b
  | _, _ => false

/-- Whether two sessions are at the same point: as many states with the same one on top, and the
same position in the text. -/
def same (a b : Session) : Bool := a.standing? == b.standing? && a.sameCursor b

/-- The key under which sessions that stand alike are kept. The states -1 and -2 have the same
key. -/
def standingKey? (session : Session) : Option (Nat × State) :=
  session.standing?.map fun standing =>
    (standing.depth, if standing.state = .number (-1) then .number (-2) else standing.state)

/-- A session with a stack of its own. Its values are copies, or the very same values if `deep` is
false. -/
def copy (session : Session) (deep : Bool := true) : Work Session := do
  let values ←
    if deep then Work.plant fun forest => forest.deepCopies session.stack.values
    else pure session.stack.values
  let states :=
    if session.stack.states.isEmpty then [session.starting] else session.stack.states
  return { session with stack := { states, values }, result := .nothing }

/-- A copy that does not change when it is fed. -/
def freeze (session : Session) : Work Session := return { ← session.copy with frozen := true }

/-- A copy that changes when it is fed. -/
def thaw (session : Session) : Work Session := return { ← session.copy with frozen := false }

end Session

/-- A failure that has gone through a running parse. The failure of a token that ends the input
remembers the token before it, unless it remembers tokens already. -/
def Failure.passing (failure : Failure) (standpoint : Standpoint) (last : Option Token) : Failure :=
  match failure with
  | .stuckToken stuck =>
    .stuckToken { stuck with
      standpoint := some standpoint
      history :=
        match stuck.atEnd, stuck.history, last with
        | true, none, some token => some [token]
        | _, history, _ => history }
  | failure => failure

namespace Parser

/-- Writes down what is done about a token: the top of the stack, the kind of the token and the
action. -/
def traceAction (kind : String) (states : List State) (action : Option (Action State)) :
    Work Unit :=
  Work.record .debug .action fun _ =>
    Text.padEnd 30 (State.shownList (states.take 5).reverse) ++ " " ++ Text.padEnd 15 kind ++ " "
      ++ Text.padEnd 5 (match action with
        | some action => action.shown
        | none => "None")

/-- The effects of a parse on a token. -/
def effects (parser : Parser) (token : Token) : Effects Work State Value Failure where
  trace := traceAction token.kind
  shift := (parser.reductions.shift token).run
  reduce := fun rule values => (parser.reductions.reduce rule values).run
  fault := .fault

/-- The failure of a session that rejects a token. -/
def rejection (token : Token) (expected : List String) (session : Session) : Failure :=
  .stuckToken {
    offender := .token token
    expected
    atEnd := token.kind == Token.endKind
    standing := session.standing? }

/-- Feeds a token, which may be meant to end the input, to a session that changes. What comes out is
the result of the parse if the token has ended it, and nothing otherwise. -/
def feedAs (parser : Parser) (isEnd : Bool) (session : Session) (token : Token) :
    Work (Except Failure Value × Session) := do
  let ending := if isEnd then some session.ending else none
  let fuel := parser.table.reductionBound session.stack.states.length
  let (outcome, stack) ←
    parser.table.feed (parser.effects token) token.kind ending fuel session.stack
  let session := { session with stack }
  match outcome with
  | .shifted => return (.ok .nothing, session)
  | .finished value => return (.ok value, session)
  | .rejected expected => return (.error (rejection token expected session), session)
  | .failed failure => return (.error failure, session)
  | .endless => return (.error (.fault .brokenPromise), session)

/-- Feeds a token to a session that changes. -/
def feed (parser : Parser) (session : Session) (token : Token) :
    Work (Except Failure Value × Session) :=
  parser.feedAs (token.kind == Token.endKind) session token

/-- Feeds a token to a frozen session. What comes out is a new frozen session with the result. -/
def feedFrozen (parser : Parser) (session : Session) (token : Token) :
    Work (Except Failure Session) := do
  let (answer, fed) ← parser.feed (← session.copy) token
  match answer with
  | .ok result => return .ok { fed with result }
  | .error failure => return .error failure

/-- The token that ends the input of a session, at the place of a given token or else of the last
token of its text. -/
def endToken (session : Session) (last : Option Token) : Token :=
  Token.endOfInput (last <|> session.cursor.bind Cursor.last)

/-- The next token of a session's text. -/
def pull (parser : Parser) (stream : TokenStream) (session : Session) :
    Work (Except Failure (Option Token) × TokenStream × Session) := do
  match session.cursor with
  | none => return (.error (.refused .lexWithoutText), stream, session)
  | some cursor =>
    let (answer, stream, cursor) ← parser.source.pull session.standing? stream cursor
    return (answer, stream, { session with cursor := some cursor })

/-- More tokens than a session's text has, if none of them is empty. -/
def tokenBound (session : Session) : Nat :=
  match session.cursor with
  | some cursor => 4 * (cursor.text.size + 2)
  | none => 1

/-- Feeds a token that comes from the text. A frozen session takes no notice, apart from the result
it remembers. -/
def step (parser : Parser) (session : Session) (token : Token) :
    Work (Except Failure Unit × Session) := do
  if session.frozen then
    match ← parser.feedFrozen session token with
    | .ok _ =>
      return (.ok (), { session with result := .foreign "ImmutableInteractiveParser" })
    | .error failure => return (.error failure, session)
  else
    match ← parser.feed session token with
    | (.ok result, session) => return (.ok (), { session with result })
    | (.error failure, session) => return (.error failure, session)

/-- Takes up to `count` tokens from the text of a session and feeds all but the last of them. With
each token comes the height of the stack that it met. -/
def takeTokens (parser : Parser) : Nat → TokenStream → Session →
    Work (Except Failure (List (Token × Nat)) × Session)
  | 0, _, session => return (.ok [], session)
  | count + 1, stream, session => do
    match ← parser.pull stream session with
    | (.error failure, _, session) => return (.error failure, session)
    | (.ok none, _, session) => return (.ok [], session)
    | (.ok (some token), stream, session) =>
      let met := (token, session.stack.states.length)
      match count with
      | 0 => return (.ok [met], session)
      | _ + 1 =>
        match ← parser.step session token with
        | (.error failure, session) => return (.error failure, session)
        | (.ok (), session) =>
          let (rest, session) ← parser.takeTokens count stream session
          return (rest.map (met :: ·), session)

/-- Feeds the rest of the text to a session that changes, and gives back its tokens. -/
def exhaust (parser : Parser) (session : Session) :
    Work (Except Failure (List Token) × Session) := do
  let (taken, session) ← parser.takeTokens (tokenBound session + 2) {} session
  return (taken.map (·.map Prod.fst), session)

/-- Feeds the rest of the text to a copy of a frozen session. -/
def exhaustFrozen (parser : Parser) (session : Session) : Work (Except Failure Session) := do
  match ← parser.exhaust (← session.thaw) with
  | (.ok _, session) => return .ok (← session.freeze)
  | (.error failure, _) => return .error failure

/-- The row of the state on top of a stack. -/
def choices (parser : Parser) (states : List State) : Except Failure (Row State) :=
  usable (parser.table.topRow states)

/-- The choices of a session and the height of its stack as text. -/
def outline (parser : Parser) (session : Session) : Except Failure String := do
  let lines := (← parser.choices session.stack.states).map fun (symbol, action) =>
    "\t- " ++ symbol ++ " -> " ++ action.shown
  return Text.joinWith "\n" ("Parser choices:" :: lines
    ++ ["stack size: " ++ toString session.stack.states.length])

/-- The terminals that would be accepted where a parse stands. -/
def accepts (parser : Parser) (standpoint : Standpoint) : Work (Except Failure (List String)) := do
  match ← parser.table.accepted traceAction standpoint.ending standpoint.states with
  | .error fault => return .error (.fault fault)
  | .ok accepted =>
    Work.record .debug .recovery fun _ =>
      "accepts at state "
        ++ (match standpoint.states.head? with
            | some state => state.plain
            | none => "")
        ++ ": " ++ Data.shownTexts accepted
    return .ok accepted

/-- The terminals that would have been accepted instead of what a failure is about. -/
def acceptable (parser : Parser) (failure : Failure) : Work (Except Failure (List String)) :=
  match failure with
  | .stuckToken stuck =>
    match stuck.standpoint with
    | some standpoint => parser.accepts standpoint
    | none => return .ok stuck.expected
  | _ => return .ok []

/-- Writes down both parts of the stack of a session. -/
def dump (session : Session) : Work Unit := do
  let entry (message : String) : Work Unit := Work.record .error .general fun _ => message
  let states := session.stack.states.reverse
  let values ← Work.look fun forest => session.stack.values.reverse.map forest.shown
  entry "STATE STACK DUMP"
  entry "----------------"
  for (index, state) in (List.range states.length).zip states do
    entry (toString index ++ ") " ++ state.plain)
  entry "VALUE STACK DUMP"
  entry "----------------"
  for (index, value) in (List.range values.length).zip values do
    entry (toString index ++ ") " ++ value)

/-- Ends a run with a failure. -/
def interrupt (parser : Parser) (failure : Failure) (last : Option Token) (session : Session) :
    Work (Except Failure Value × Session) := do
  if parser.options.debug.holds then dump session
  return (.error (failure.passing session.standpoint last), session)

/-- Feeds the rest of the text and then the end of the input. At most `fuel` tokens are fed; `last`
is the last token fed before. -/
def runWithin (parser : Parser) : Nat → TokenStream → Option Token → Session →
    Work (Except Failure Value × Session)
  | 0, _, last, session => parser.interrupt (.fault .brokenPromise) last session
  | fuel + 1, stream, last, session => do
    match ← parser.pull stream session with
    | (.error failure, _, session) => parser.interrupt failure last session
    | (.ok (some token), stream, session) =>
      match ← parser.feedAs false session token with
      | (.ok _, session) => parser.runWithin fuel stream (some token) session
      | (.error failure, session) => parser.interrupt failure (some token) session
    | (.ok none, _, session) =>
      match ← parser.feedAs true session (Token.endOfInput last) with
      | (.ok value, session) => return (.ok value, session)
      | (.error failure, session) => parser.interrupt failure last session

/-- Runs a session to its end. -/
def run (parser : Parser) (last : Option Token) (session : Session) :
    Work (Except Failure Value × Session) :=
  parser.runWithin (tokenBound session + 1) {} last session

/-- Runs a session to its end from where it is. -/
def resume (parser : Parser) (session : Session) : Work (Except Failure Value × Session) := do
  match session.cursor with
  | none => return (.error (.refused .resumeWithoutText), session)
  | some cursor => parser.run cursor.last session

/-- A new session for a text, if there is one, from a start symbol, which has to be named if there
are several. -/
def start (parser : Parser) (text : Option String) (start : Option String) :
    Except Failure Session := do
  let start ← parser.chooseStart start
  match assoc? parser.table.starts start, assoc? parser.table.ends start with
  | some starting, some ending =>
    return {
      stack := { states := [starting], values := [] }
      starting
      ending
      cursor := text.map Cursor.ofText }
  | _, _ => throw (.fault .missingEntry)

/-- Parses a text. -/
def parse (parser : Parser) (text : String) (start : Option String) : Run Value := do
  let session ← Run.lift (parser.start (some text) start)
  let (answer, _) ← parser.run none session
  Run.lift answer

end Parser

end Lalr
