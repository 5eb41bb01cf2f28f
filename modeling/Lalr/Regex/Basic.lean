import Lalr.Unicode.Blank
import Lalr.Unicode.Case
import Lalr.Unicode.Digit
import Lalr.Unicode.Word

/-!
# Regular expressions

The expressions that describe terminals, with groups, back references,
look-around and scoped flags. This module holds the tree of an expression and
what one of its characters or classes accepts under the flags in force.
-/

namespace Lalr

/-- The switches that change how an expression is read or matched. -/
structure RegexFlags where
  ascii : Bool := false
  ignoreCase : Bool := false
  multiLine : Bool := false
  dotAll : Bool := false
  verbose : Bool := false
  deriving DecidableEq, Repr, Inhabited

namespace RegexFlags

/-- The flags that are on in either. -/
def union (a b : RegexFlags) : RegexFlags where
  ascii := a.ascii || b.ascii
  ignoreCase := a.ignoreCase || b.ignoreCase
  multiLine := a.multiLine || b.multiLine
  dotAll := a.dotAll || b.dotAll
  verbose := a.verbose || b.verbose

/-- The flags that are on in `a` and off in `b`. -/
def without (a b : RegexFlags) : RegexFlags where
  ascii := a.ascii && !b.ascii
  ignoreCase := a.ignoreCase && !b.ignoreCase
  multiLine := a.multiLine && !b.multiLine
  dotAll := a.dotAll && !b.dotAll
  verbose := a.verbose && !b.verbose

/-- Whether every flag of `a` is on in `b`. -/
def subset (a b : RegexFlags) : Bool := a.without b == {}

/-- The flags that a number has in its bits: 2 ignores case, 8 is for lines, 16 lets the dot match
a line break, 64 is verbose and 256 restricts classes to ASCII. -/
def ofBits (bits : Nat) : RegexFlags where
  ascii := bits.testBit 8
  ignoreCase := bits.testBit 1
  multiLine := bits.testBit 3
  dotAll := bits.testBit 4
  verbose := bits.testBit 6

end RegexFlags

/-- The flags that a group switches on and off for its body. A group may also go back from ASCII
classes to those of all scripts. -/
structure FlagChange where
  on : RegexFlags := {}
  off : RegexFlags := {}
  allScripts : Bool := false
  deriving DecidableEq, Repr, Inhabited

/-- The flags in force inside a group. -/
def FlagChange.apply (change : FlagChange) (flags : RegexFlags) : RegexFlags :=
  let flags := if change.allScripts then { flags with ascii := false } else flags
  (flags.union change.on).without change.off

/-- The classes that an escape names. -/
inductive NamedClass where
  | digit
  | space
  | word
  deriving DecidableEq, Repr, Inhabited

/-- What may stand between the brackets of a class. -/
inductive ClassItem where
  | char (c : Char)
  | range (first last : Char)
  | named (name : NamedClass) (negated : Bool)
  deriving DecidableEq, Repr, Inhabited

/-- Conditions on a position that consume nothing. -/
inductive Anchor where
  | lineStart
  | lineEnd
  | textStart
  | textEnd
  | wordBoundary
  | notWordBoundary
  deriving DecidableEq, Repr, Inhabited

/-- How a repetition chooses the number of its rounds. -/
inductive Greed where
  | greedy
  | lazy
  | possessive
  deriving DecidableEq, Repr, Inhabited

/-- The least and the greatest number of characters that an expression can match. -/
structure Width where
  least : Nat
  most : Nat
  deriving DecidableEq, Repr, Inhabited

/-- A regular expression. -/
inductive Regex where
  | empty
  | char (c : Char)
  | class (negated : Bool) (items : List ClassItem)
  | anyChar
  | anchor (anchor : Anchor)
  | sequence (first second : Regex)
  | choice (first second : Regex)
  | group (index : Nat) (body : Regex)
  | scoped (change : FlagChange) (body : Regex)
  | atomic (body : Regex)
  | repetition (greed : Greed) (least : Nat) (most : Option Nat) (body : Regex)
  | backReference (index : Nat) (width : Width)
  | look (behind negated : Bool) (body : Regex)
  | conditional (index : Nat) (present absent : Regex)
  deriving DecidableEq, Repr, Inhabited

namespace NamedClass

/-- Whether a character belongs to a named class. -/
def has (name : NamedClass) (ascii : Bool) (c : Char) : Bool :=
  match name with
  | .digit => if ascii then c.isDigit else Unicode.isDecimal c
  | .space => if ascii then Unicode.isAsciiBlank c else Unicode.isBlank c
  | .word => if ascii then Unicode.isAsciiWord c else Unicode.isWord c

end NamedClass

/-- Whether two characters are the same under the flags. -/
def RegexFlags.sameChar (flags : RegexFlags) (a b : Char) : Bool :=
  if flags.ignoreCase then
    if flags.ascii then Unicode.asciiLower a == Unicode.asciiLower b
    else Unicode.foldChar a == Unicode.foldChar b
  else a == b

namespace ClassItem

/-- Whether an item of a class accepts a character under the flags. -/
def accepts (flags : RegexFlags) (item : ClassItem) (c : Char) : Bool :=
  match item with
  | .char d => flags.sameChar c d
  | .range first last =>
    if flags.ignoreCase then
      (if flags.ascii then Unicode.asciiFoldClass c else Unicode.foldClass c).any fun d =>
        first ≤ d && d ≤ last
    else first ≤ c && c ≤ last
  | .named name negated => name.has flags.ascii c != negated

end ClassItem

/-- Whether a class accepts a character under the flags. -/
def classAccepts (flags : RegexFlags) (negated : Bool) (items : List ClassItem) (c : Char) : Bool :=
  items.any (·.accepts flags c) != negated

end Lalr
