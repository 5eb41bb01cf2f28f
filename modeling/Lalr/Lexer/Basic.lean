import Lalr.Forest.Shown
import Lalr.Lexer.Absorption
import Lalr.LineCounter
import Lalr.Traversal.Handler

/-!
# Lexers

A lexer cuts a text into tokens. At each position it takes the first of its
terminals that matches, passes over tokens of ignored kinds, and lets callbacks
look at tokens of the kinds they are registered for.
-/

namespace Lalr

/-- Where a lexer is in a text, and the last token it made. -/
structure Cursor where
  text : Array Char
  counter : LineCounter := {}
  last : Option Token := none
  deriving DecidableEq, Inhabited

namespace Cursor

/-- The beginning of a text. -/
def ofText (text : String) : Cursor := { text := text.toList.toArray }

/-- The text between two positions. -/
def slice (cursor : Cursor) (start stop : Nat) : String :=
  String.ofList (cursor.text.extract start stop).toList

/-- The cursor after the next `count` characters. -/
def skip (cursor : Cursor) (count : Nat) : Cursor :=
  let start := cursor.counter.position
  { cursor with counter := cursor.counter.feed (cursor.slice start (start + count)) }

/-- Whether two cursors over one text are at the same position after the same token. -/
def same (a b : Cursor) : Bool :=
  a.counter == b.counter
    && (match a.last, b.last with
        | none, none => true
        | some a, some b => a.agrees b
        | _, _ => false)

end Cursor

/-- What a lexer is made from. The strays are what is to be ignored and is not even a name. -/
structure LexerSettings where
  terminals : List Terminal
  ignored : List String := []
  strays : List Data := []
  callbacks : List (String × TokenHandler) := []
  flags : RegexFlags := {}
  skipValidation : Bool := false

/-- A lexer. Its vocabulary is prepared when it is first needed, and together with it what there is
to announce about absorbed literals. -/
structure Lexer where
  number : Nat
  terminals : List Terminal
  ignored : List String
  breaking : List String
  callbacks : List (String × TokenHandler)
  vocabulary : Thunk (Except Failure Vocabulary × List String)

namespace Lexer

/-- Checks that a terminal can be compiled and never matches the empty text. -/
def validate (flags : RegexFlags) (terminal : Terminal) : Except Failure Unit := do
  match Regex.compile terminal.pattern.expression flags with
  | .error .malformed =>
    throw (.lexical (.uncompilable terminal.name terminal.pattern.shown))
  | .error fault => throw fault.failure
  | .ok _ => pure ()
  if (← terminal.pattern.width).least == 0 then
    throw (.lexical (.zeroWidth terminal.name terminal.pattern.shown))

/-- Whether a terminal is tried before another: the higher priority goes first, then what can match
more, then the longer pattern, then the lesser name. -/
def goesBefore (a b : Terminal × Nat) : Bool :=
  if a.1.priority ≠ b.1.priority then a.1.priority > b.1.priority
  else if a.2 ≠ b.2 then a.2 > b.2
  else if a.1.pattern.value.length ≠ b.1.pattern.value.length then
    a.1.pattern.value.length > b.1.pattern.value.length
  else a.1.name ≤ b.1.name

/-- The terminals in the order in which they are tried. -/
def inOrder (terminals : List Terminal) : Except Failure (List Terminal) := do
  let measured ← terminals.mapM fun terminal =>
      return (terminal, (← terminal.pattern.width).most)
  return (measured.mergeSort goesBefore).map (·.1)

/-- The names of the terminals that may match a line break. -/
def breakingNames (terminals : List Terminal) : List String :=
  (terminals.filter fun terminal => mayMatchBreak terminal.pattern.expression).map Terminal.name

/-- The failure where what is to be ignored is not there. Strays can be named if they can be keys
and it is clear in which order. -/
def complaint (undefined : List String) (strays : List Data) : Failure :=
  let named (names : List Data) : Failure := .lexical (.undefinedIgnored names)
  match undefined, strays.eraseDups with
  | undefined, [] => named ((sortedSet undefined).map Data.text)
  | [], [.list _] => .fault .wrongKind
  | [], [.record _] => .fault .wrongKind
  | [], [stray] => named [stray]
  | [], strays =>
    match strays.mapM Data.asInt? with
    | some numbers => named ((numbers.mergeSort (· ≤ ·)).map Data.int)
    | none => .fault .wrongKind
  | _, _ => .fault .wrongKind

/-- The lexer of some settings, under a number that tells it from others. -/
def make (number : Nat) (settings : LexerSettings) : Except Failure Lexer := do
  unless settings.skipValidation do
    settings.terminals.forM (validate settings.flags)
    let names := settings.terminals.map Terminal.name
    match settings.ignored.filter fun name => !names.contains name, settings.strays with
    | [], [] => pure ()
    | undefined, strays => throw (complaint undefined strays)
  let terminals ← inOrder settings.terminals
  return {
    number
    terminals
    ignored := settings.ignored
    breaking := breakingNames terminals
    callbacks := settings.callbacks
    vocabulary := Thunk.mk fun _ => (Vocabulary.prepare terminals settings.flags).run.run [] }

/-- The vocabulary of a lexer. What it absorbs is announced until it has been prepared once. -/
def openVocabulary (lexer : Lexer) : Work (Except Failure Vocabulary) := do
  let (vocabulary, announcements) := lexer.vocabulary.get
  unless (← get).announced.contains lexer.number do
    for announcement in announcements do
      Work.record .debug .lexer fun _ => announcement
    match vocabulary with
    | .ok _ =>
      modify fun workspace =>
        { workspace with announced := lexer.number :: workspace.announced }
    | .error _ => pure ()
  return vocabulary

/-- The terminals that are tried where nothing matches, for a message. -/
def allowed (lexer : Lexer) (vocabulary : Vocabulary) : List String :=
  match vocabulary.scanner.names.filter fun name => !lexer.ignored.contains name with
  | [] => ["<END-OF-FILE>"]
  | names => sortedSet names

/-- The failure of a lexer that is stuck at the cursor. -/
def stuck (lexer : Lexer) (vocabulary : Vocabulary) (cursor : Cursor)
    (standing : Option Standing) : Failure :=
  .stuckText {
    char := cursor.text.getD cursor.counter.position default
    position := cursor.counter.position
    line := cursor.counter.line
    column := cursor.counter.column
    allowed := lexer.allowed vocabulary
    history := cursor.last.map fun token => [token]
    standing }

/-- The token that a terminal makes of the text from the cursor to `stop`, and the cursor after
it. -/
def cut (lexer : Lexer) (cursor : Cursor) (stop : Nat) (name : String) : Token × Cursor :=
  let before := cursor.counter
  let text := cursor.slice before.position stop
  let after := before.feed text (lexer.breaking.contains name)
  let token := {
    kind := name
    text
    place := {
      startPos := before.position
      line := before.line
      column := before.column
      endLine := after.line
      endColumn := after.column
      endPos := after.position } }
  (token, { cursor with counter := after })

/-- Calls what is registered for the kind of a fresh token. A token that turns out to be an absorbed
literal is not shown to the callback of the terminal that matched. -/
def callBack (lexer : Lexer) (vocabulary : Vocabulary) (token : Token) : Run Value := do
  let settled := { token with kind := vocabulary.kindOf token.kind token.text }
  match assoc? lexer.callbacks token.kind with
  | some callback => if settled.kind = token.kind then callback settled else return .token settled
  | none => return .token settled

/-- The next token that is not ignored, if there is one before the end of the text, and the cursor
after it. At most `fuel` tokens are looked at, and something is wrong if that is not enough. -/
def nextWithin (lexer : Lexer) (standing : Option Standing) :
    Nat → Cursor → Work (Except Failure (Option Token) × Cursor)
  | 0, cursor =>
    return (if cursor.text.size ≤ cursor.counter.position then .ok none
      else .error (.fault .brokenPromise), cursor)
  | fuel + 1, cursor => do
    if cursor.text.size ≤ cursor.counter.position then return (.ok none, cursor)
    match ← lexer.openVocabulary with
    | .error failure => return (.error failure, cursor)
    | .ok vocabulary =>
      match vocabulary.scanner.matchAt cursor.text cursor.counter.position with
      | none => return (.error (lexer.stuck vocabulary cursor standing), cursor)
      | some (stop, name) =>
        let (token, after) := lexer.cut cursor stop name
        match ← (lexer.callBack vocabulary token).run with
        | .error failure => return (.error failure, after)
        | .ok value =>
          if lexer.ignored.contains name then lexer.nextWithin standing fuel after
          else
            match value with
            | .token token => return (.ok (some token), { after with last := some token })
            | value =>
              let shown ← Work.look fun forest => forest.shown value
              return (.error (.lexical (.notToken shown)), after)

/-- The next token that is not ignored, if there is one before the end of the text, and the cursor
after it. -/
def next (lexer : Lexer) (standing : Option Standing) (cursor : Cursor) :
    Work (Except Failure (Option Token) × Cursor) :=
  lexer.nextWithin standing (cursor.text.size + 1 - cursor.counter.position) cursor

end Lexer

end Lalr
