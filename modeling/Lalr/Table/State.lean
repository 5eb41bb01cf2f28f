import Lalr.Data.Numeral
import Lalr.Data.Shown

/-!
# States of a parse table

States are numbers or names. A stored table may also mention other data as a
state; such a state has no row, because stored rows are named by texts.
-/

namespace Lalr

/-- A state of a parse table. -/
inductive State where
  | number (value : Int)
  | name (value : String)
  | other (value : Data)
  deriving DecidableEq, Inhabited

namespace State

/-- Whether a text reads as the number of a state: decimal digits after any number of minus
signs. -/
def looksNumeric (text : String) : Bool :=
  let digits := text.toList.dropWhile (· == '-')
  !digits.isEmpty && digits.all Unicode.isDigitLike

/-- The state that stored data stands for. A text that looks like a number stands for that number;
the result is none if it then turns out not to be one. -/
def ofData? : Data → Option State
  | .text text => if looksNumeric text then (Numeral.int? text).map number else some (.name text)
  | .int value => some (.number value)
  | data => some (.other data)

/-- The state as data. -/
def toData : State → Data
  | .number value => .int value
  | .name value => .text value
  | .other value => value

/-- The state as messages show it. -/
def shown (state : State) : String := state.toData.shown

/-- The state as it stands in running text. -/
def plain (state : State) : String := state.toData.plain

/-- A list of states as messages show it. -/
def shownList (states : List State) : String :=
  "[" ++ Text.joinWith ", " (states.map shown) ++ "]"

end State

end Lalr
