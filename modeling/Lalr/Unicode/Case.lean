import Lalr.Unicode.CaseTables

/-!
# Letter case

Changing the case of a character or of a text, deciding whether a name is in
upper case, and the folding under which two characters are the same when case
is ignored.
-/

namespace Lalr.Unicode

/-- Where the first run that covers a code point takes it. -/
def mapByRuns (runs : Array CaseRun) (code : Nat) : Option Nat :=
  (runs.find? (·.covers code)).map (·.image code)

/-- The simple lower case of a character. -/
def lowerChar (c : Char) : Char :=
  if c.toNat < 0x80 then c.toLower
  else ((mapByRuns lowerRuns c.toNat).map Char.ofNat).getD c

/-- The upper case of a character, which may have several characters. -/
def upperChars (c : Char) : List Char :=
  if c.toNat < 0x80 then [c.toUpper]
  else
    match upperExpansions.find? (·.1 == c.toNat) with
    | some (_, codes) => codes.map Char.ofNat
    | none => [((mapByRuns upperRuns c.toNat).map Char.ofNat).getD c]

/-- The text in upper case. -/
def upperText (text : String) : String := String.ofList (text.toList.flatMap upperChars)

/-- Whether the first character that is not passed over counts as cased. -/
def reachesCased (chars : List Char) : Bool :=
  match chars.dropWhile fun c => caseIgnorableRanges.has c.toNat with
  | [] => false
  | c :: _ => casedRanges.has c.toNat

/-- The lower case of the characters `rest`, where `before` holds those already passed, nearest
first. A capital sigma that ends a word becomes the final small sigma. -/
def lowerAfter (before : List Char) : List Char → List Char
  | [] => []
  | c :: rest =>
    let lowered :=
      if c.toNat == 0x3A3 then
        [Char.ofNat (if reachesCased before && !reachesCased rest then 0x3C2 else 0x3C3)]
      else if c.toNat == 0x130 then ['i', Char.ofNat 0x307]
      else [lowerChar c]
    lowered ++ lowerAfter (c :: before) rest

/-- The text in lower case. -/
def lowerText (text : String) : String := String.ofList (lowerAfter [] text.toList)

/-- An upper case character. -/
def isUpperChar (c : Char) : Bool :=
  if c.toNat < 0x80 then c.isUpper else upperRanges.has c.toNat

/-- A lower case character. -/
def isLowerChar (c : Char) : Bool :=
  if c.toNat < 0x80 then c.isLower else lowerRanges.has c.toNat

/-- A title case character. -/
def isTitleChar (c : Char) : Bool := 0x80 ≤ c.toNat && titleRanges.has c.toNat

/-- A text is in upper case if it has an upper case character and none of lower or title case. -/
def isUpperText (text : String) : Bool :=
  text.toList.any isUpperChar && !text.toList.any fun c => isLowerChar c || isTitleChar c

/-- The character that stands for all those equal to `c` when case is ignored. -/
def foldChar (c : Char) : Char :=
  let low := lowerChar c
  match foldExceptions.find? (·.1 == low.toNat) with
  | some (_, code) => Char.ofNat code
  | none => low

/-- The characters whose simple lower case is `c`. -/
def loweredTo (c : Char) : List Char :=
  let ascii := if c.isLower then [c.toUpper] else []
  let others := lowerRuns.toList.filterMap fun run => (run.preimage? c.toNat).map Char.ofNat
  c :: (ascii ++ others)

/-- The characters equal to `c` when case is ignored, `c` among them. -/
def foldClass (c : Char) : List Char :=
  let representative := foldChar c
  let lowers := representative :: foldExceptions.toList.filterMap fun (source, target) =>
    if target == representative.toNat then some (Char.ofNat source) else none
  c :: lowers.flatMap loweredTo

/-- The ASCII lower case of a character. -/
def asciiLower (c : Char) : Char := c.toLower

/-- The characters equal to `c` when the case of ASCII letters is ignored. -/
def asciiFoldClass (c : Char) : List Char := [c, c.toLower, c.toUpper]

end Lalr.Unicode
