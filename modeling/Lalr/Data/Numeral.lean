import Lalr.Unicode.Blank
import Lalr.Unicode.Digit

/-!
# Integer numerals

An integer numeral is an optional sign and decimal digits of any script, in
which single underscores may stand between digits and around which there may be
white space.
-/

namespace Lalr.Numeral

/-- The value of digits read after the number `total`. `afterDigit` tells whether the last
character was a digit: an underscore needs a digit on both sides. -/
def digits? (total : Nat) (afterDigit : Bool) : List Char → Option Nat
  | [] => if afterDigit then some total else none
  | c :: rest =>
    match Unicode.digitValue? c with
    | some value => digits? (total * 10 + value) true rest
    | none => if c == '_' && afterDigit then digits? total false rest else none

/-- The white space that may stand around a numeral, which is any but the four information
separators. -/
def isPadding (c : Char) : Bool :=
  Unicode.isBlank c && !(0x1C ≤ c.toNat && c.toNat ≤ 0x1F)

/-- The characters without the white space at both ends. -/
def unpadded (chars : List Char) : List Char :=
  ((chars.dropWhile isPadding).reverse.dropWhile isPadding).reverse

/-- The value of a numeral. -/
def int? (text : String) : Option Int :=
  match unpadded text.toList with
  | '-' :: rest => (digits? 0 false rest).map fun value => -(value : Int)
  | '+' :: rest => (digits? 0 false rest).map Int.ofNat
  | chars => (digits? 0 false chars).map Int.ofNat

end Lalr.Numeral
