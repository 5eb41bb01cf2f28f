/-!
# Counting lines and columns

A line counter follows the position in a text while pieces of the text go by.
-/

namespace Lalr

/-- How often `needle` occurs in a list of characters, counting from the left and without overlap.
The empty text occurs before every character and at the end. -/
def countOccurrences (needle : List Char) : Nat → List Char → Nat
  | _, [] => if needle.isEmpty then 1 else 0
  | 0, c :: rest =>
    if needle.isPrefixOf (c :: rest) then countOccurrences needle (needle.length - 1) rest + 1
    else countOccurrences needle 0 rest
  | skipped + 1, _ :: rest => countOccurrences needle skipped rest

/-- Where the last occurrence of `needle` begins, when `offset` characters came before. -/
def lastOccurrence? (needle : List Char) (offset : Nat) : List Char → Option Nat
  | [] => if needle.isEmpty then some offset else none
  | c :: rest =>
    match lastOccurrence? needle (offset + 1) rest with
    | some later => some later
    | none => if needle.isPrefixOf (c :: rest) then some offset else none

/-- A position in a text: its offset, its line and column, and where its line begins. Lines and
columns are counted from one. -/
structure LineCounter where
  newline : String := "\n"
  position : Nat := 0
  line : Nat := 1
  column : Nat := 1
  lineStart : Nat := 0
  deriving DecidableEq, Repr, Inhabited

namespace LineCounter

/-- The counter after a piece of text. Without `mayBreak` the piece is taken to hold no line
break. -/
def feed (counter : LineCounter) (piece : String) (mayBreak : Bool := true) : LineCounter :=
  let chars := piece.toList
  let breaks := if mayBreak then countOccurrences counter.newline.toList 0 chars else 0
  let lineStart :=
    if breaks = 0 then counter.lineStart
    else
      match lastOccurrence? counter.newline.toList 0 chars with
      | some offset => counter.position + offset + 1
      | none => counter.lineStart
  let position := counter.position + chars.length
  { counter with
    position
    line := counter.line + breaks
    column := position + 1 - lineStart
    lineStart }

end LineCounter

end Lalr
