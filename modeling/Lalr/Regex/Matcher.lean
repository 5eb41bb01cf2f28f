import Lalr.Regex.Width

/-!
# Matching regular expressions

The matcher tries the ways an expression can match in order of preference: the
earlier branch of a choice first, more rounds of a greedy repetition first. It
hands each way to a continuation and goes on to the next one when the
continuation refuses.
-/

namespace Lalr

/-- Where a match has got to: the position in the text, and the groups that have been closed, the
latest first, each with its first position and the position just after it. -/
structure MatchPoint where
  position : Nat
  groups : List (Nat × Nat × Nat) := []
  deriving DecidableEq, Repr, Inhabited

/-- The span that a group matched last. -/
def MatchPoint.span? (point : MatchPoint) (index : Nat) : Option (Nat × Nat) :=
  (point.groups.find? (·.1 == index)).map (·.2)

/-- What is to follow a part of an expression. -/
abbrev Continuation := MatchPoint → Option MatchPoint

/-- A part of an expression: it hands the points it can reach to a continuation, in order of
preference, until the continuation accepts one. -/
abbrev Matching := MatchPoint → Continuation → Option MatchPoint

namespace Anchor

/-- Whether the character at a position exists and is a word character. -/
def wordAt (flags : RegexFlags) (text : Array Char) (position : Nat) : Bool :=
  match text[position]? with
  | some c => NamedClass.word.has flags.ascii c
  | none => false

/-- Whether a position lies between a word character and none. -/
def atBoundary (flags : RegexFlags) (text : Array Char) (position : Nat) : Bool :=
  (position != 0 && wordAt flags text (position - 1)) != wordAt flags text position

/-- Whether an anchor holds at a position. The end of a line is also just before a line break that
ends the text. -/
def holds (flags : RegexFlags) (text : Array Char) (anchor : Anchor) (position : Nat) : Bool :=
  match anchor with
  | .textStart => position == 0
  | .textEnd => position == text.size
  | .lineStart =>
    position == 0 || flags.multiLine && text[position - 1]? == some '\n'
  | .lineEnd =>
    position == text.size
      || text[position]? == some '\n' && (flags.multiLine || position + 1 == text.size)
  | .wordBoundary => !text.isEmpty && atBoundary flags text position
  | .notWordBoundary => !text.isEmpty && !atBoundary flags text position

end Anchor

/-- Steps over one character that a test accepts. -/
def matchChar (text : Array Char) (accepts : Char → Bool) : Matching := fun point next =>
  match text[point.position]? with
  | some c =>
    if accepts c then next { point with position := point.position + 1 } else none
  | none => none

/-- Steps over a text equal to the part of `text` from `start` to `stop`. -/
def matchAgain (flags : RegexFlags) (text : Array Char) (start stop : Nat) (position : Nat) :
    Option Nat :=
  let same (a b : Char) : Bool :=
    if flags.ignoreCase then
      if flags.ascii then Unicode.asciiLower a == Unicode.asciiLower b
      else Unicode.lowerChar a == Unicode.lowerChar b
    else a == b
  let length := stop - start
  if position + length ≤ text.size &&
      (List.range length).all fun offset =>
        match text[start + offset]?, text[position + offset]? with
        | some a, some b => same a b
        | _, _ => false
  then some (position + length)
  else none

/-- Whether another round may follow `count` rounds. -/
def mayRepeat (most : Option Nat) (count : Nat) : Bool :=
  match most with
  | some most => count < most
  | none => true

/-- The rounds of a repetition, `count` of which have been made. Beyond the least number of rounds,
a round starts only at a position where the round before did not start, so that rounds that match
nothing come to an end; `last` is that position. Every round but one beyond the least consumes a
character, which bounds the recursion. -/
def matchRounds (round : Matching) (isLazy : Bool) (least : Nat) (most : Option Nat) :
    Nat → Nat → Option Nat → Matching
  | 0, _, _, _, _ => none
  | bound + 1, count, last, point, next =>
    let again (last : Option Nat) : Option MatchPoint :=
      round point fun after => matchRounds round isLazy least most bound (count + 1) last after next
    if count < least then again last
    else if mayRepeat most count && last != some point.position then
      if isLazy then
        match next point with
        | some found => some found
        | none => again (some point.position)
      else
        match again (some point.position) with
        | some found => some found
        | none => next point
    else next point

/-- The ways an expression can match from a point on. -/
def Regex.matching (text : Array Char) (flags : RegexFlags) : Regex → Matching
  | .empty => fun point next => next point
  | .char c => matchChar text (flags.sameChar c)
  | .class negated items => matchChar text (classAccepts flags negated items)
  | .anyChar => matchChar text fun c => flags.dotAll || c != '\n'
  | .anchor condition => fun point next =>
    if condition.holds flags text point.position then next point else none
  | .sequence first second => fun point next =>
    first.matching text flags point fun middle => second.matching text flags middle next
  | .choice first second => fun point next =>
    match first.matching text flags point next with
    | some found => some found
    | none => second.matching text flags point next
  | .group index body => fun point next =>
    body.matching text flags point fun after =>
      next { after with groups := (index, point.position, after.position) :: after.groups }
  | .scoped change body => body.matching text (change.apply flags)
  | .atomic body => fun point next =>
    match body.matching text flags point some with
    | some after => next after
    | none => none
  | .repetition greed least most body => fun point next =>
    let bound := least + (text.size - point.position) + 2
    let rounds :=
      matchRounds (body.matching text flags) (greed == .lazy) least most bound 0 none point
    if greed == .possessive then
      match rounds some with
      | some after => next after
      | none => none
    else rounds next
  | .backReference index _ => fun point next =>
    match point.span? index with
    | some (start, stop) =>
      match matchAgain flags text start stop point.position with
      | some position => next { point with position }
      | none => none
    | none => none
  | .look behind negated body => fun point next =>
    let distance := if behind then body.width.least else 0
    let found :=
      if point.position < distance then none
      else body.matching text flags { point with position := point.position - distance } some
    match found, negated with
    | some after, false => next { after with position := point.position }
    | none, true => next point
    | _, _ => none
  | .conditional index present absent => fun point next =>
    if (point.span? index).isSome then present.matching text flags point next
    else absent.matching text flags point next

/-- An expression ready to be matched, with the flags that hold for all of it and the names of its
groups. -/
structure CompiledRegex where
  regex : Regex
  flags : RegexFlags
  names : List (String × Nat)
  deriving DecidableEq, Repr, Inhabited

namespace CompiledRegex

/-- The preferred match that begins at a position. -/
def matchAt (compiled : CompiledRegex) (text : Array Char) (position : Nat) : Option MatchPoint :=
  compiled.regex.matching text compiled.flags { position } some

/-- The preferred match that begins at a position and reaches the end of the text. -/
def fullMatchAt (compiled : CompiledRegex) (text : Array Char) (position : Nat) :
    Option MatchPoint :=
  compiled.regex.matching text compiled.flags { position } fun point =>
    if point.position == text.size then some point else none

/-- The name of the group that a match closed last. -/
def lastName? (compiled : CompiledRegex) (point : MatchPoint) : Option String :=
  match point.groups with
  | [] => none
  | (index, _) :: _ => (compiled.names.find? (·.2 == index)).map (·.1)

end CompiledRegex

end Lalr
