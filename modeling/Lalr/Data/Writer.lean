import Lalr.Data.Basic
import Lalr.Data.Shown
import Lalr.Text.Lines
import Lalr.Text.Quoted

/-!
# Writing data as JSON

The text holds ASCII only: a character outside the printable part of ASCII is
written as one or two `\u` escapes. A list or record is written on one line.
-/

namespace Lalr.Data

/-- What stands between two items and between a name and its value. -/
structure Spacing where
  comma : String
  colon : String

/-- A space after each comma and colon. -/
def Spacing.spaced : Spacing := ⟨", ", ": "⟩

/-- No spaces. -/
def Spacing.compact : Spacing := ⟨",", ":"⟩

/-- The escape of a number of sixteen bits. -/
def unitEscape (unit : Nat) : List Char := '\\' :: 'u' :: Text.hexDigits unit 4

/-- How one character is written inside a JSON string. -/
def jsonChar (c : Char) : List Char :=
  if c == '\x22' || c == '\\' then ['\\', c]
  else if c == '\n' then ['\\', 'n']
  else if c == '\r' then ['\\', 'r']
  else if c == '\t' then ['\\', 't']
  else if c == '\x08' then ['\\', 'b']
  else if c == '\x0c' then ['\\', 'f']
  else if 0x20 ≤ c.toNat && c.toNat ≤ 0x7E then [c]
  else if c.toNat < 0x10000 then unitEscape c.toNat
  else
    unitEscape (0xD800 + (c.toNat - 0x10000) / 0x400)
      ++ unitEscape (0xDC00 + (c.toNat - 0x10000) % 0x400)

/-- A text as a JSON string. -/
def jsonText (text : String) : String :=
  String.ofList ('\x22' :: (text.toList.flatMap jsonChar ++ ['\x22']))

mutual

/-- The data as JSON. -/
def json (spacing : Spacing) : Data → String
  | .null => "null"
  | .bool value => if value then "true" else "false"
  | .int value => toString value
  | .decimal mantissa exponent => decimalShown mantissa exponent
  | .text value => jsonText value
  | .list items => "[" ++ Text.joinWith spacing.comma (jsonItems spacing items) ++ "]"
  | .record fields =>
    "\x7b" ++ Text.joinWith spacing.comma (jsonFields spacing fields) ++ "\x7d"

/-- The items of a list as JSON. -/
def jsonItems (spacing : Spacing) : List Data → List String
  | [] => []
  | item :: rest => json spacing item :: jsonItems spacing rest

/-- The fields of a record as JSON. -/
def jsonFields (spacing : Spacing) : List (String × Data) → List String
  | [] => []
  | (name, value) :: rest =>
    (jsonText name ++ spacing.colon ++ json spacing value) :: jsonFields spacing rest

end

end Lalr.Data
