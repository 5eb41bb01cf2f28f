import Lalr.Data.Basic

/-!
# Lenient access to data

What is missing, or of another kind than it is taken for, counts as empty: a
field as null, a list as the empty list, a text as the empty text, a number as
zero.
-/

namespace Lalr.Data

/-- The field of a record. -/
def get (data : Data) (name : String) : Data := (data.field? name).getD .null

/-- The items of a list. -/
def items (data : Data) : List Data := data.asList?.getD []

/-- The item of a list at a position. -/
def nth (data : Data) (index : Nat) : Data := data.items[index]?.getD .null

/-- The text. -/
def string (data : Data) : String := data.asText?.getD ""

/-- The texts among the items of a list. -/
def strings (data : Data) : List String := data.items.filterMap asText?

/-- The fields of a record. -/
def entries : Data → List (String × Data)
  | .record fields => fields
  | _ => []

/-- The number. -/
def number : Data → Int
  | .int value => value
  | _ => 0

/-- The number, if it is one and not negative. -/
def count? : Data → Option Nat
  | .int value => if 0 ≤ value then some value.toNat else none
  | _ => none

/-- The number, unless it is negative. -/
def count (data : Data) : Nat := data.count?.getD 0

/-- Whether the data is null. -/
def isNull : Data → Bool
  | .null => true
  | _ => false

/-- The data, if it is not null. -/
def present? (data : Data) : Option Data := if data.isNull then none else some data

end Lalr.Data
