import Lalr.Unicode.Printable

/-!
# Quoted text

Diagnostics show a text between quotes, with everything that would not print
written as an escape. The single quote is used, unless the text holds one and
holds no double quote.
-/

namespace Lalr.Text

/-- The digit of value `value` in lower case hexadecimal. -/
def hexDigit (value : Nat) : Char :=
  if value < 10 then Char.ofNat (48 + value) else Char.ofNat (87 + value)

/-- The last `width` hexadecimal digits of `value`. -/
def hexDigits (value : Nat) : Nat → List Char
  | 0 => []
  | width + 1 => hexDigits (value / 16) width ++ [hexDigit (value % 16)]

/-- The quote that encloses a text. -/
def enclosingQuote (chars : List Char) : Char :=
  if chars.contains '\x27' && !chars.contains '\x22' then '\x22' else '\x27'

/-- How one character is written between the quotes `quote`. -/
def quotedChar (quote c : Char) : List Char :=
  if c == quote || c == '\\' then ['\\', c]
  else if c == '\n' then ['\\', 'n']
  else if c == '\r' then ['\\', 'r']
  else if c == '\t' then ['\\', 't']
  else if Unicode.isPrintable c then [c]
  else if c.toNat < 0x100 then '\\' :: 'x' :: hexDigits c.toNat 2
  else if c.toNat < 0x10000 then '\\' :: 'u' :: hexDigits c.toNat 4
  else '\\' :: 'U' :: hexDigits c.toNat 8

/-- The text between quotes, with escapes. -/
def quoted (text : String) : String :=
  let chars := text.toList
  let quote := enclosingQuote chars
  String.ofList (quote :: (chars.flatMap (quotedChar quote) ++ [quote]))

end Lalr.Text
