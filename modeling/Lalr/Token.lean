import Lalr.Data.Shown

/-!
# Tokens

A token is a piece of text with a kind and a place. It may carry a value other
than its text. Two tokens agree when they have one kind and one text; places and values do
not count.
-/

namespace Lalr

/-- Where a token lies: the offset, line and column of its first character, and those of the
position just after it. What is unknown is missing. -/
structure Place where
  startPos : Option Nat := none
  line : Option Nat := none
  column : Option Nat := none
  endLine : Option Nat := none
  endColumn : Option Nat := none
  endPos : Option Nat := none
  deriving DecidableEq, Repr, Inhabited

/-- A token. `payload` is its value where that is not its text. -/
structure Token where
  kind : String
  text : String
  payload : Option Data := none
  place : Place := {}
  deriving DecidableEq, Inhabited

namespace Token

/-- The token with a given value, whose text is the value as it stands in running text. -/
def ofData (kind : String) (value : Data) (place : Place := {}) : Token :=
  match value with
  | .text text => { kind, text, place }
  | value => { kind, text := value.plain, payload := some value, place }

/-- The value of a token: its text, unless it carries another value. -/
def value (token : Token) : Data := token.payload.getD (.text token.text)

/-- Whether two tokens have the same kind and the same text. -/
def agrees (a b : Token) : Bool := a.kind == b.kind && a.text == b.text

/-- A token at the place of another. -/
def borrowing (kind : String) (value : Data) (source : Token) : Token :=
  ofData kind value source.place

/-- The token with its kind or its value replaced, where a replacement is given. -/
def update (token : Token) (kind : Option String) (value : Option Data) : Token :=
  borrowing (kind.getD token.kind) (value.getD token.value) token

/-- The kind of the token that ends the input. -/
def endKind : String := "$END"

/-- The token that ends the input. It lies where the last token lies, and at the very beginning if
there was none. -/
def endOfInput : Option Token → Token
  | some last => borrowing endKind (.text "") last
  | none =>
    { kind := endKind, text := "",
      place := { startPos := some 0, line := some 1, column := some 1 } }

/-- The token as messages show it. -/
def shown (token : Token) : String :=
  "Token(" ++ Text.quoted token.kind ++ ", " ++ token.value.shown ++ ")"

/-- Some tokens as messages show a list. -/
def shownList (tokens : List Token) : String :=
  "[" ++ Text.joinWith ", " (tokens.map shown) ++ "]"

end Token

end Lalr
