import Lalr.Unicode.Ranges

/-!
# White space
-/

namespace Lalr.Unicode

/-- The white space characters: separators, tabs, line breaks and the four information
separators. -/
def blankRanges : Ranges := #[
  (0x9, 0xD), (0x1C, 0x20), (0x85, 0x85), (0xA0, 0xA0), (0x1680, 0x1680),
  (0x2000, 0x200A), (0x2028, 0x2029), (0x202F, 0x202F), (0x205F, 0x205F), (0x3000, 0x3000)]

/-- White space of any kind. -/
def isBlank (c : Char) : Bool := blankRanges.has c.toNat

/-- The six white space characters of ASCII text: space, tab, line feed, vertical tab, form feed
and carriage return. -/
def isAsciiBlank (c : Char) : Bool :=
  c == ' ' || (9 ≤ c.toNat && c.toNat ≤ 13)

/-- Drops the white space at the end of a text. -/
def trimEnd (text : String) : String :=
  String.ofList (text.toList.reverse.dropWhile isBlank).reverse

end Lalr.Unicode
