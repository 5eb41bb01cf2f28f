import Lalr.Data.Basic
import Lalr.Text.Lines
import Lalr.Text.Quoted

/-!
# How data is shown in messages

Texts are quoted, lists stand in square brackets, records in braces, and the
three constants are written `None`, `True` and `False`.
-/

namespace Lalr.Data

/-- A decimal fraction. It is written positionally when its first digit stands for a power of ten
from the minus fourth to the fifteenth, and with an exponent otherwise. -/
def decimalShown (mantissa exponent : Int) : String :=
  let sign := if mantissa < 0 then "-" else ""
  let digits := (toString mantissa.natAbs).toList
  let significant := (digits.reverse.dropWhile (· == '0')).reverse
  if significant.isEmpty then sign ++ "0.0"
  else
    let point : Int := digits.length + exponent
    if -4 < point && point ≤ 16 then
      if point ≤ 0 then
        sign ++ "0." ++ String.ofList (List.replicate (-point).toNat '0' ++ significant)
      else
        let whole := significant.take point.toNat
        let padding := List.replicate (point.toNat - significant.length) '0'
        let fraction := significant.drop point.toNat
        sign ++ String.ofList (whole ++ padding) ++ "."
          ++ String.ofList (if fraction.isEmpty then ['0'] else fraction)
    else
      let power := point - 1
      let powerDigits := toString power.natAbs
      let fraction := significant.drop 1
      sign ++ String.ofList (significant.take 1)
        ++ (if fraction.isEmpty then "" else "." ++ String.ofList fraction)
        ++ (if power < 0 then "e-" else "e+")
        ++ (if powerDigits.length < 2 then "0" else "") ++ powerDigits

/-- A truth value as messages write it. -/
def boolShown (value : Bool) : String := if value then "True" else "False"

mutual

/-- The data as messages show it. -/
def shown : Data → String
  | .null => "None"
  | .bool value => boolShown value
  | .int value => toString value
  | .decimal mantissa exponent => decimalShown mantissa exponent
  | .text value => Text.quoted value
  | .list items => "[" ++ Text.joinWith ", " (shownItems items) ++ "]"
  | .record fields => "\x7b" ++ Text.joinWith ", " (shownFields fields) ++ "\x7d"

/-- The items of a list as messages show them. -/
def shownItems : List Data → List String
  | [] => []
  | item :: rest => shown item :: shownItems rest

/-- The fields of a record as messages show them. -/
def shownFields : List (String × Data) → List String
  | [] => []
  | (name, value) :: rest => (Text.quoted name ++ ": " ++ shown value) :: shownFields rest

end

/-- The data as it stands inside running text: a text as it is, anything else as it is shown. -/
def plain : Data → String
  | .text value => value
  | data => shown data

/-- A list of texts as messages show it. -/
def shownTexts (texts : List String) : String :=
  "[" ++ Text.joinWith ", " (texts.map Text.quoted) ++ "]"

end Lalr.Data
