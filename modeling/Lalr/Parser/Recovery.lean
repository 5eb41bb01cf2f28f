import Lalr.Parser.Session

/-!
# Recovery

A parse that fails on its input may ask a handler what to do. The handler sees
the failure and the session, which it may feed with tokens or move forward in
the text, and says whether to go on.
-/

namespace Lalr

/-- What is asked when a parse fails on its input. The answer is whether to go on, with the session
as the handler leaves it. -/
abbrev FailureHandler := Failure → Session → Work (Except Failure Bool × Session)

namespace Session

/-- The position in the text. -/
def position? (session : Session) : Option Nat :=
  session.cursor.map fun cursor => cursor.counter.position

/-- The session with the next `count` characters of its text passed over. -/
def skip (session : Session) (count : Nat) : Session :=
  { session with cursor := session.cursor.map fun cursor => cursor.skip count }

end Session

namespace Parser

/-- Passes over the character that a lexer is stuck at, unless the handler has moved on itself. -/
def skipStuck (failure : Failure) (before : Option Nat) (session : Session) : Work Session := do
  match failure, session.cursor with
  | .stuckText _, some cursor =>
    let position := cursor.counter.position
    if before = some position then
      Work.record .debug .recovery fun _ =>
        "skipping " ++ Text.quoted (cursor.slice position (position + 1)) ++ " at "
          ++ toString position
      return session.skip 1
    else return session
  | _, _ => return session

/-- Goes on after a failure as long as the handler says so, and asks it at most `patience` times.
Where the end of the input is rejected twice in a row, the handler is not asked again. -/
def recover (parser : Parser) (handler : FailureHandler) :
    Nat → Failure → Session → Work (Except Failure Value × Session)
  | 0, failure, session => return (.error failure, session)
  | patience + 1, failure, session => do
    let before := session.position?
    let (line, column) := failure.lineAndColumnShown
    Work.record .info .recovery fun _ =>
      "error at " ++ line ++ ":" ++ column ++ ", calling handler: " ++ failure.kind?.getD ""
    match ← handler failure session with
    | (.error raised, session) => return (.error raised, session)
    | (.ok false, session) => return (.error failure, session)
    | (.ok true, session) =>
      let session ← skipStuck failure before session
      match ← parser.resume session with
      | (.ok value, session) => return (.ok value, session)
      | (.error next, session) =>
        if !next.isStuck then return (.error next, session)
        else if failure.atEnd && next.atEnd then
          Work.record .info .recovery fun _ => "no progress at end of input, giving up"
          return (.error next, session)
        else parser.recover handler patience next session

/-- Parses a text with the help of a handler. -/
def parseRecovering (parser : Parser) (handler : FailureHandler) (patience : Nat) (text : String)
    (start : Option String) : Run Value := do
  let session ← Run.lift (parser.start (some text) start)
  match ← parser.run none session with
  | (.ok value, _) => return value
  | (.error failure, session) =>
    if failure.isStuck then
      let (answer, _) ← parser.recover handler patience failure session
      Run.lift answer
    else throw failure

end Parser

end Lalr
