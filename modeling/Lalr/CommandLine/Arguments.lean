import Lalr.Unicode.Digit

/-!
# Arguments of the command line

Flags and plain arguments may come in any order. All arguments are gone through
for flags first, and what is left over is then gone through again for the
grammar and the words of the text. A divider ends the flags of a passage; one
that stands before every plain argument is dropped after the first passage, so
that it does not hold for the second.
-/

namespace Lalr.CommandLine

/-- What can be asked for by a flag. -/
inductive Flag where
  | help
  | start
  | lex
  | table
  | positions
  | verbose
  deriving DecidableEq, Repr, Inhabited

namespace Flag

/-- All flags. -/
def all : List Flag := [.help, .start, .lex, .table, .positions, .verbose]

/-- The word of a flag, which comes after two dashes. -/
def word : Flag → String
  | .help => "help"
  | .start => "start"
  | .lex => "lex"
  | .table => "table"
  | .positions => "propagate-positions"
  | .verbose => "verbose"

/-- The flag of a letter, which comes after one dash. -/
def ofLetter? : Char → Option Flag
  | 'h' => some .help
  | 'v' => some .verbose
  | _ => none

/-- The flags whose words begin in some way. -/
def beginning (chars : List Char) : List Flag :=
  all.filter fun flag => chars.isPrefixOf flag.word.toList

end Flag

/-- Ways in which a command ends before it has begun: its usage was asked for, or it was called
against its usage. -/
inductive Ending where
  | help
  | misuse
  deriving DecidableEq, Repr, Inhabited

/-- The exit code of an ending. -/
def Ending.code : Ending → Nat
  | .help => 0
  | .misuse => 2

/-- What an argument is. A flag may have a value attached to it by an equals sign, and the letter of
a flag may be followed by more letters. -/
inductive Piece where
  | plain
  | divider
  | flag (flag : Flag) (value : Option String)
  | letters (first : Flag) (rest : List Char)
  | unknown
  deriving DecidableEq, Repr, Inhabited

/-- An argument and what it is. -/
structure Argument where
  text : String
  piece : Piece
  deriving DecidableEq, Repr, Inhabited

/-- Two dashes with nothing after them. -/
def dividerText : String := "--"

/-- Whether a dash before these characters makes a number, with or without a fraction. A line break
may follow it. -/
def isUnsignedNumber (chars : List Char) : Bool :=
  let chars := if chars.getLast? == some '\n' then chars.dropLast else chars
  let whole := chars.takeWhile Unicode.isDecimal
  match chars.dropWhile Unicode.isDecimal with
  | [] => !whole.isEmpty
  | '.' :: fraction => !fraction.isEmpty && fraction.all Unicode.isDecimal
  | _ => false

/-- What an argument is that begins with a dash and names no flag. -/
def flaglessPiece (rest : List Char) : Piece :=
  if isUnsignedNumber rest || rest.contains ' ' then .plain else .unknown

/-- The flag that begins with what comes after two dashes, if there is one. There must not be
several. -/
def flagOfWord? (word : List Char) : Except Ending (Option Piece) :=
  let value :=
    match word.dropWhile (· != '=') with
    | [] => none
    | _ :: value => some (String.ofList value)
  match Flag.beginning (word.takeWhile (· != '=')) with
  | [] => .ok none
  | [flag] => .ok (some (.flag flag value))
  | _ => .error .misuse

/-- What an argument is that stands before the divider. -/
def pieceOf (text : String) : Except Ending Piece := do
  match text.toList with
  | '-' :: '-' :: word => return (← flagOfWord? word).getD (flaglessPiece ('-' :: word))
  | '-' :: letter :: rest =>
    match Flag.ofLetter? letter with
    | some flag => return .letters flag rest
    | none => return flaglessPiece (letter :: rest)
  | _ => return .plain

/-- What each of some arguments is. After the divider all of them are plain. -/
def classify : List String → Except Ending (List Argument)
  | [] => .ok []
  | text :: rest =>
    if text = dividerText then
      .ok (⟨text, .divider⟩ :: rest.map fun text => ⟨text, .plain⟩)
    else do
      let piece ← pieceOf text
      return ⟨text, piece⟩ :: (← classify rest)

/-- What the flags ask for. -/
structure Wishes where
  start : Option String := none
  lexing : Bool := false
  table : Bool := false
  positions : Bool := false
  verbosity : Nat := 0
  deriving DecidableEq, Repr, Inhabited

/-- The wishes after a flag has been obeyed. -/
def Wishes.obey (wishes : Wishes) (flag : Flag) (value : Option String) : Except Ending Wishes :=
  match flag with
  | .help => .error .help
  | .start => .ok { wishes with start := value }
  | .lex => .ok { wishes with lexing := true }
  | .table => .ok { wishes with table := true }
  | .positions => .ok { wishes with positions := true }
  | .verbose => .ok { wishes with verbosity := wishes.verbosity + 1 }

/-- The flags of the letters in one argument, and what is left of it where a letter is that of no
flag. -/
def cluster (flag : Flag) : List Char → Except Ending (List Flag × Option String)
  | [] => .ok ([flag], none)
  | letter :: rest =>
    if letter = '-' ∨ letter = '=' then .error .misuse
    else
      match Flag.ofLetter? letter with
      | none => .ok ([flag], some (String.ofList ('-' :: letter :: rest)))
      | some next => do
        let (flags, left) ← cluster next rest
        return (flag :: flags, left)

/-- What a passage leaves over. A gap is where a flag has been. -/
inductive Remnant where
  | word (text : String)
  | divider
  | unknown (text : String)
  | gap
  deriving DecidableEq, Repr, Inhabited

namespace Remnant

/-- The argument that is left over. -/
def text? : Remnant → Option String
  | .word it => some it
  | .divider => some dividerText
  | .unknown it => some it
  | .gap => none

/-- Whether the remnant has its meaning from where it stands. -/
def isPositional : Remnant → Bool
  | .word _ => true
  | .divider => true
  | _ => false

end Remnant

/-- Goes through arguments and obeys their flags. The start symbol is the value attached to its flag
or the plain argument after it; other flags take no value. -/
def Wishes.gather : Wishes → List Argument → Except Ending (Wishes × List Remnant)
  | wishes, [] => .ok (wishes, [])
  | wishes, ⟨_, .flag .start none⟩ :: ⟨value, .plain⟩ :: rest => do
    let (wishes, left) ← ({ wishes with start := some value } : Wishes).gather rest
    return (wishes, .gap :: left)
  | _, ⟨_, .flag .start none⟩ :: _ => .error .misuse
  | wishes, ⟨text, piece⟩ :: rest => do
    match piece with
    | .plain =>
      let (wishes, left) ← wishes.gather rest
      return (wishes, .word text :: left)
    | .divider =>
      let (wishes, left) ← wishes.gather rest
      return (wishes, .divider :: left)
    | .unknown =>
      let (wishes, left) ← wishes.gather rest
      return (wishes, .unknown text :: left)
    | .flag flag value =>
      if value.isSome && flag != .start then throw .misuse
      let (wishes, left) ← (← wishes.obey flag value).gather rest
      return (wishes, .gap :: left)
    | .letters first letters =>
      let (flags, tail) ← cluster first letters
      let obeyed ← flags.foldlM (fun wishes flag => wishes.obey flag none) wishes
      let (wishes, left) ← obeyed.gather rest
      return (wishes, .gap :: tail.toList.map .unknown ++ left)

/-- The arguments that the first passage leaves to the second. -/
def leftOver : List Remnant → List String
  | [] => []
  | .gap :: rest => leftOver rest
  | .unknown text :: rest => text :: leftOver rest
  | .divider :: rest => rest.filterMap Remnant.text?
  | .word text :: rest => text :: rest.filterMap Remnant.text?

/-- The grammar and the words among what the second passage leaves over. They have to come in one
row, with nothing else beside it. The divider that goes with either is not part of it. -/
def place? (remnants : List Remnant) : Option (String × List String) :=
  let remnants := remnants.dropWhile (· == .gap)
  let words (row : List Remnant) := (row.filterMap Remnant.text?).erase dividerText
  if (remnants.dropWhile Remnant.isPositional).all (· == .gap) then
    match remnants.takeWhile Remnant.isPositional with
    | .divider :: .word grammar :: row => some (grammar, words row)
    | .word grammar :: .divider :: row => some (grammar, words row)
    | .word grammar :: row => some (grammar, words row)
    | _ => none
  else none

/-- What a command asks for: something about a grammar, and mostly about a text, which is given in
words or else is the standard input. -/
structure Request where
  wishes : Wishes
  grammar : String
  words : List String
  deriving DecidableEq, Repr, Inhabited

/-- The request that arguments make. -/
def Request.ofArguments (arguments : List String) : Except Ending Request := do
  let (wishes, left) ← ({} : Wishes).gather (← classify arguments)
  let (wishes, left) ← wishes.gather (← classify (leftOver left))
  match place? left with
  | some (grammar, words) => return { wishes, grammar, words }
  | none => throw .misuse

/-- Whether the request is about a text that its words do not give. -/
def Request.readsInput (request : Request) : Bool :=
  !request.wishes.table && request.words.isEmpty

end Lalr.CommandLine
