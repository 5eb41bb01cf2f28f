import Lalr.Data.Numeral
import Lalr.Data.Reader
import Lalr.Regex.Matcher
import Lalr.Unicode.Identifier

/-!
# Reading regular expressions

The reader turns the text of an expression into its tree and refuses what is
malformed. It works on pieces: single characters, and pairs of a backslash and
the character it escapes. A backslash at the very end escapes nothing, and is
refused when the reader gets to it. The readers take a bound on their recursion depth, for
which three times the number of pieces is enough, because no three steps in a row
leave all pieces in place.
-/

namespace Lalr

/-- Why the text of an expression is refused. -/
inductive RegexFault where
  | malformed
  | repeatTooLarge
  | mixedAlphabets
  deriving DecidableEq, Repr, Inhabited

namespace Regex

/-- A character, a backslash and the character it escapes, or a backslash that ends the text. -/
inductive Piece where
  | plain (c : Char)
  | escaped (c : Char)
  | dangling
  deriving DecidableEq, Repr, Inhabited

/-- The characters of a piece. -/
def Piece.chars : Piece → List Char
  | .plain c => [c]
  | .escaped c => ['\\', c]
  | .dangling => ['\\']

/-- Cuts characters into pieces. -/
def pieces : List Char → List Piece
  | [] => []
  | '\\' :: c :: rest => .escaped c :: pieces rest
  | c :: rest => if c == '\\' then [.dangling] else .plain c :: pieces rest

/-- What a reader knows: the pieces that are left, the flags that hold for the whole expression,
the width of each group (none while the group is open), the names of groups, the number of groups
when the outermost look-behind began, and the groups that conditions refer to. -/
structure ReaderState where
  rest : List Piece
  flags : RegexFlags
  allScripts : Bool := false
  groups : List (Option Width) := []
  names : List (String × Nat) := []
  groupsBeforeLookBehind : Option Nat := none
  conditions : List Nat := []

/-- A step of the reader. -/
abbrev Reading := StateT ReaderState (Except RegexFault)

/-- Refuses the expression. -/
def refuse {α : Type} : Reading α := throw .malformed

/-- The next piece, which stays. -/
def peek : Reading (Option Piece) := return (← get).rest.head?

/-- The next piece, which is consumed. -/
def take : Reading (Option Piece) := do
  let state ← get
  match state.rest with
  | [] => return none
  | piece :: rest =>
    set { state with rest }
    return some piece

/-- Consumes a character if it comes next, and tells whether it did. -/
def accept (c : Char) : Reading Bool := do
  let state ← get
  match state.rest with
  | .plain d :: rest =>
    if c == d then
      set { state with rest }
      return true
    else return false
  | _ => return false

/-- Consumes a character that has to come next. -/
def demand (c : Char) : Reading Unit := do
  unless ← accept c do refuse

/-- Consumes at most `count` characters that pass a test. -/
def takeSome (passes : Char → Bool) : Nat → Reading (List Char)
  | 0 => return []
  | count + 1 => do
    let state ← get
    match state.rest with
    | .plain c :: rest =>
      if passes c then
        set { state with rest }
        return c :: (← takeSome passes count)
      else return []
    | _ => return []

/-- Consumes all the characters that pass a test. -/
def takeAll (passes : Char → Bool) : Reading (List Char) := do
  takeSome passes (← get).rest.length

/-- Splits pieces at the first plain character `stop`, which is dropped. -/
def splitAtStop (stop : Char) : List Piece → Option (List Char × List Piece)
  | [] => none
  | piece :: rest =>
    if piece == .plain stop then some ([], rest)
    else (splitAtStop stop rest).map fun (before, after) => (piece.chars ++ before, after)

/-- Consumes a name and the character that ends it. -/
def takeName (stop : Char) : Reading String := do
  let state ← get
  match splitAtStop stop state.rest with
  | none => refuse
  | some (name, rest) =>
    if name.isEmpty then refuse
    set { state with rest }
    return String.ofList name

/-- Consumes an identifier and the character that ends it. -/
def takeIdentifier (stop : Char) : Reading String := do
  let name ← takeName stop
  unless Unicode.isIdentifier name.toList do refuse
  return name

/-- An octal digit. -/
def isOctal (c : Char) : Bool := '0' ≤ c && c ≤ '7'

/-- A hexadecimal digit. -/
def isHex (c : Char) : Bool := (Data.hexValue? c).isSome

/-- The number that digits write in a base. -/
def codeOf (base : Nat) (digits : List Char) : Nat :=
  digits.foldl (fun total c => total * base + (Data.hexValue? c).getD 0) 0

/-- The code point that `count` hexadecimal digits write. -/
def takeHexCode (count : Nat) : Reading Nat := do
  let digits ← takeSome isHex count
  if digits.length != count then refuse
  let code := codeOf 16 digits
  if code > 0x10FFFF then refuse
  return code

/-- What an escaped letter stands for outside and inside classes. -/
def letterCode? (c : Char) : Option Nat :=
  match c with
  | 'a' => some 7
  | 'b' => some 8
  | 'f' => some 12
  | 'n' => some 10
  | 'r' => some 13
  | 't' => some 9
  | 'v' => some 11
  | '\\' => some 92
  | _ => none

/-- The class that an escaped letter names, and whether it is negated. -/
def namedClass? (c : Char) : Option (NamedClass × Bool) :=
  match c with
  | 'd' => some (.digit, false)
  | 'D' => some (.digit, true)
  | 's' => some (.space, false)
  | 'S' => some (.space, true)
  | 'w' => some (.word, false)
  | 'W' => some (.word, true)
  | _ => none

/-- The anchor that an escaped letter names. -/
def anchor? (c : Char) : Option Anchor :=
  match c with
  | 'A' => some .textStart
  | 'Z' => some .textEnd
  | 'b' => some .wordBoundary
  | 'B' => some .notWordBoundary
  | _ => none

/-- Whether a code point is a character rather than half of a pair. -/
def isScalar (code : Nat) : Bool := code < 0xD800 || 0xDFFF < code

/-- The expression for one code point. Halves of pairs occur in no text. -/
def ofCode (code : Nat) : Regex :=
  if isScalar code then .char (Char.ofNat code) else .class false []

/-- The items for a range of code points. -/
def itemsOfRange (first last : Nat) : List ClassItem :=
  let first := if isScalar first then first else 0xE000
  let last := if isScalar last then last else 0xD7FF
  if first ≤ last then [.range (Char.ofNat first) (Char.ofNat last)] else []

/-- The items for one code point. -/
def itemsOfCode (code : Nat) : List ClassItem :=
  if isScalar code then [.char (Char.ofNat code)] else []

/-- Refuses a reference to a group that a look-behind may not refer to. -/
def checkInLookBehind (index : Nat) : Reading Unit := do
  let state ← get
  match state.groupsBeforeLookBehind with
  | none => return
  | some before =>
    match state.groups[index - 1]? with
    | some (some _) => if index > before then refuse
    | _ => refuse

/-- A reference back to a group, which has to be closed. -/
def referBack (index : Nat) : Reading Regex := do
  match (← get).groups[index - 1]? with
  | some (some width) =>
    checkInLookBehind index
    return .backReference index width
  | _ => refuse

/-- Reads what follows a backslash and a digit other than zero: three octal digits write a code
point, and one or two digits refer back to a group. -/
def readNumberedEscape (first : Char) : Reading Regex := do
  match ← takeSome Char.isDigit 1 with
  | [] => referBack (first.toNat - 48)
  | second :: _ =>
    let third ← if isOctal first && isOctal second then takeSome isOctal 1 else pure []
    match third with
    | [] => referBack ((first.toNat - 48) * 10 + (second.toNat - 48))
    | third :: _ =>
      let code := codeOf 8 [first, second, third]
      if code > 0xFF then refuse
      return ofCode code

/-- Reads what follows a backslash and the character `c` outside a class. -/
def readEscape (c : Char) : Reading Regex := do
  if let some condition := anchor? c then return .anchor condition
  if let some (name, negated) := namedClass? c then return .class false [.named name negated]
  if let some point := letterCode? c then return ofCode point
  if c == 'x' then return ofCode (← takeHexCode 2)
  if c == 'u' then return ofCode (← takeHexCode 4)
  if c == 'U' then return ofCode (← takeHexCode 8)
  if c == '0' then return ofCode (codeOf 8 (← takeSome isOctal 2))
  if c.isDigit then return ← readNumberedEscape c
  if c.isAlpha then refuse
  return .char c

/-- One member of a class as it is read: a code point, or a named class. -/
inductive Member where
  | code (code : Nat)
  | named (name : NamedClass) (negated : Bool)

/-- The items of a member. -/
def Member.items : Member → List ClassItem
  | .code point => itemsOfCode point
  | .named name negated => [.named name negated]

/-- Reads what follows a backslash and the character `c` inside a class. -/
def readClassEscape (c : Char) : Reading Member := do
  if let some point := letterCode? c then return .code point
  if let some (name, negated) := namedClass? c then return .named name negated
  if c == 'x' then return .code (← takeHexCode 2)
  if c == 'u' then return .code (← takeHexCode 4)
  if c == 'U' then return .code (← takeHexCode 8)
  if isOctal c then
    let point := codeOf 8 (c :: (← takeSome isOctal 2))
    if point > 0xFF then refuse
    return .code point
  if c.isAlphanum then refuse
  return .code c.toNat

/-- Reads one member of a class whose first piece has been consumed. -/
def readMember : Piece → Reading Member
  | .plain c => return .code c.toNat
  | .escaped c => readClassEscape c
  | .dangling => refuse

/-- Reads the members of a class up to its closing bracket. A bracket that comes first is a
member. -/
def readMembers (isFirst : Bool) : Nat → Reading (List ClassItem)
  | 0 => refuse
  | bound + 1 => do
    match ← take with
    | none => refuse
    | some piece =>
      if piece == .plain ']' && !isFirst then return []
      let first ← readMember piece
      if ← accept '-' then
        match ← take with
        | none => refuse
        | some last =>
          if last == .plain ']' then return first.items ++ itemsOfCode 45
          match first, ← readMember last with
          | .code low, .code high =>
            if high < low then refuse
            return itemsOfRange low high ++ (← readMembers false bound)
          | _, _ => refuse
      else return first.items ++ (← readMembers false bound)

/-- Reads a class whose opening bracket has been consumed. -/
def readClass : Reading Regex := do
  let negated ← accept '^'
  return .class negated (← readMembers true ((← get).rest.length + 1))

/-- The least number of rounds that is too large to be asked for. -/
def repeatLimit : Nat := 0xFFFFFFFF

/-- Reads the bounds of a repetition whose opening brace has been consumed, if they are bounds.
Otherwise nothing is consumed and the brace stands for itself. -/
def readBounds : Reading (Option (Nat × Option Nat)) := do
  let before ← get
  if before.rest.head? == some (.plain '\x7d') then return none
  let low ← takeAll Char.isDigit
  let high ← if ← accept ',' then takeAll Char.isDigit else pure low
  if ← accept '\x7d' then
    let least := codeOf 10 low
    let most := if high.isEmpty then none else some (codeOf 10 high)
    if least ≥ repeatLimit || most.any (· ≥ repeatLimit) then throw .repeatTooLarge
    if most.any (· < least) then refuse
    return some (least, most)
  else
    set before
    return none

/-- The flag that a letter names. -/
def flag? (c : Char) : Option RegexFlags :=
  match c with
  | 'i' => some { ignoreCase := true }
  | 'm' => some { multiLine := true }
  | 's' => some { dotAll := true }
  | 'x' => some { verbose := true }
  | 'a' => some { ascii := true }
  | _ => none

/-- Reads the flags that a group switches off, up to the colon. -/
def readFlagsOff (off : RegexFlags) : Nat → Reading RegexFlags
  | 0 => refuse
  | bound + 1 => do
    match ← take with
    | some (.plain c) =>
      match flag? c with
      | some flag =>
        if flag.ascii then refuse
        let off := off.union flag
        if ← accept ':' then return off else readFlagsOff off bound
      | none => refuse
    | _ => refuse

/-- Reads the flags that a group switches on, whose first letter is `c`. The result tells whether
the flags hold for the whole expression. -/
def readFlagsOn (change : FlagChange) (c : Char) : Nat → Reading (FlagChange × Bool)
  | 0 => refuse
  | bound + 1 => do
    let change ←
      if c == 'u' then pure { change with allScripts := true }
      else
        match flag? c with
        | some flag => pure { change with on := change.on.union flag }
        | none => refuse
    if change.allScripts && change.on.ascii then refuse
    match ← take with
    | some (.plain ')') => return (change, true)
    | some (.plain ':') => return (change, false)
    | some (.plain '-') =>
      let off ← readFlagsOff {} ((← get).rest.length + 1)
      if change.on.without off != change.on then refuse
      return ({ change with off }, false)
    | some (.plain c) => readFlagsOn change c bound
    | _ => refuse

/-- Reads the flags of a group whose first letter is `c`. -/
def readFlags (c : Char) : Reading (FlagChange × Bool) := do
  let bound := (← get).rest.length + 1
  if c == '-' then
    let off ← readFlagsOff {} bound
    return ({ off }, false)
  else readFlagsOn {} c bound

/-- Opens a group, which may have a name that no group has yet. -/
def openGroup (name : Option String) : Reading Nat := do
  let state ← get
  let index := state.groups.length + 1
  let names ←
    match name with
    | none => pure state.names
    | some name =>
      if state.names.any (·.1 == name) then refuse
      pure (state.names ++ [(name, index)])
  set { state with groups := state.groups ++ [none], names }
  return index

/-- Closes a group. -/
def closeGroup (index : Nat) (width : Width) : Reading Unit :=
  modify fun state => { state with groups := state.groups.set (index - 1) (some width) }

/-- Reads which group a condition refers to. -/
def readCondition : Reading Nat := do
  let name ← takeName ')'
  let index ←
    if Unicode.isIdentifier name.toList then
      match (← get).names.find? (·.1 == name) with
      | some (_, index) => pure index
      | none => refuse
    else
      match Numeral.int? name with
      | some (.ofNat index) =>
        if index == 0 || index ≥ 0x3FFFFFFF then refuse
        modify fun state => { state with conditions := state.conditions ++ [index] }
        pure index
      | _ => refuse
  checkInLookBehind index
  return index

/-- Drops pieces up to and including a closing parenthesis. -/
def skipComment : Reading Unit := do
  let state ← get
  match splitAtStop ')' state.rest with
  | none => refuse
  | some (_, rest) => set { state with rest }

/-- Drops pieces up to and including a line break, or all of them if there is none. -/
def skipLine : Reading Unit := do
  let state ← get
  let rest := state.rest.dropWhile (· != .plain '\n')
  if rest.isEmpty && state.rest.contains .dangling then refuse
  set { state with rest := rest.drop 1 }

/-- Reads how greedy a repetition is. -/
def readGreed : Reading Greed := do
  if ← accept '?' then return .lazy
  if ← accept '+' then return .possessive
  return .greedy

/-- Reads whether what lies behind has to match or must not match. -/
def readNegation : Reading Bool := do
  if ← accept '=' then return false
  demand '!'
  return true

/-- Repeats the last of the items read, which are held in reverse. -/
def repeatLast (items : List Regex) (least : Nat) (most : Option Nat) : Reading (List Regex) := do
  match items with
  | [] => refuse
  | .anchor _ :: _ => refuse
  | .repetition .. :: _ => refuse
  | item :: rest =>
    return .repetition (← readGreed) least most item :: rest

/-- The items, which are held in reverse, one after another. -/
def ofItems (items : List Regex) : Regex :=
  items.foldl (fun later item =>
    match later with
    | .empty => item
    | later => .sequence item later) .empty

mutual

/-- Reads branches up to the end of the text or a closing parenthesis. -/
def readChoice (verbose nested isFirst : Bool) : Nat → Reading Regex
  | 0 => refuse
  | bound + 1 => do
    let branch ← readItems verbose (!nested && isFirst) [] bound
    if ← accept '|' then
      let verbose ← if nested then pure verbose else pure (← get).flags.verbose
      return .choice branch (← readChoice verbose nested false bound)
    else return branch

/-- Reads the items of a branch. Those read are held in reverse. -/
def readItems (verbose isFirst : Bool) (items : List Regex) : Nat → Reading Regex
  | 0 => refuse
  | bound + 1 => do
    match ← peek with
    | none | some (.plain '|') | some (.plain ')') => return ofItems items
    | some .dangling => refuse
    | some (.escaped c) =>
      let _ ← take
      readItems verbose isFirst ((← readEscape c) :: items) bound
    | some (.plain c) =>
      let _ ← take
      if verbose && Unicode.isAsciiBlank c then readItems verbose isFirst items bound
      else if verbose && c == '#' then
        skipLine
        readItems verbose isFirst items bound
      else if c == '[' then readItems verbose isFirst ((← readClass) :: items) bound
      else if c == '.' then readItems verbose isFirst (.anyChar :: items) bound
      else if c == '^' then readItems verbose isFirst (.anchor .lineStart :: items) bound
      else if c == '$' then readItems verbose isFirst (.anchor .lineEnd :: items) bound
      else if c == '*' then readItems verbose isFirst (← repeatLast items 0 none) bound
      else if c == '+' then readItems verbose isFirst (← repeatLast items 1 none) bound
      else if c == '?' then readItems verbose isFirst (← repeatLast items 0 (some 1)) bound
      else if c == '\x7b' then
        match ← readBounds with
        | some (least, most) => readItems verbose isFirst (← repeatLast items least most) bound
        | none => readItems verbose isFirst (.char c :: items) bound
      else if c == '(' then
        let (verbose, items) ← readGroup verbose isFirst items bound
        readItems verbose isFirst items bound
      else readItems verbose isFirst (.char c :: items) bound

/-- Reads a group whose opening parenthesis has been consumed and adds it to the items. Flags for
the whole expression add no item, but may change how the rest is read. -/
def readGroup (verbose isFirst : Bool) (items : List Regex) :
    Nat → Reading (Bool × List Regex)
  | 0 => refuse
  | bound + 1 => do
    if ← accept '?' then
      match ← take with
      | some (.plain 'P') =>
        if ← accept '<' then
          let name ← takeIdentifier '>'
          let index ← openGroup (some name)
          let body ← readChoice verbose true true bound
          demand ')'
          closeGroup index body.width
          return (verbose, .group index body :: items)
        else if ← accept '=' then
          let name ← takeIdentifier ')'
          match (← get).names.find? (·.1 == name) with
          | some (_, index) => return (verbose, (← referBack index) :: items)
          | none => refuse
        else refuse
      | some (.plain ':') =>
        let body ← readChoice verbose true true bound
        demand ')'
        return (verbose, .scoped {} body :: items)
      | some (.plain '#') =>
        skipComment
        return (verbose, items)
      | some (.plain '=') =>
        let body ← readChoice verbose true true bound
        demand ')'
        return (verbose, .look false false body :: items)
      | some (.plain '!') =>
        let body ← readChoice verbose true true bound
        demand ')'
        return (verbose, .look false true body :: items)
      | some (.plain '<') =>
        let negated ← readNegation
        let outer := (← get).groupsBeforeLookBehind
        if outer.isNone then
          modify fun state => { state with groupsBeforeLookBehind := some state.groups.length }
        let body ← readChoice verbose true true bound
        modify fun state => { state with groupsBeforeLookBehind := outer }
        demand ')'
        return (verbose, .look true negated body :: items)
      | some (.plain '(') =>
        let index ← readCondition
        let present ← readItems verbose false [] bound
        let absent ← if ← accept '|' then readItems verbose false [] bound else pure .empty
        demand ')'
        return (verbose, .conditional index present absent :: items)
      | some (.plain '>') =>
        let body ← readChoice verbose true true bound
        demand ')'
        return (verbose, .atomic body :: items)
      | some (.plain c) =>
        let (change, isGlobal) ← readFlags c
        if isGlobal then
          if !isFirst || !items.isEmpty then refuse
          modify fun state =>
            { state with
              flags := state.flags.union change.on
              allScripts := state.allScripts || change.allScripts }
          return ((← get).flags.verbose, items)
        else
          let inner := (verbose || change.on.verbose) && !change.off.verbose
          let body ← readChoice inner true true bound
          demand ')'
          return (verbose, .scoped change body :: items)
      | _ => refuse
    else
      let index ← openGroup none
      let body ← readChoice verbose true true bound
      demand ')'
      closeGroup index body.width
      return (verbose, .group index body :: items)

end

/-- Reads an expression that takes up the whole text. -/
def readAll (bound : Nat) : Reading Regex := do
  let regex ← readChoice (← get).flags.verbose false true bound
  let state ← get
  if state.allScripts && state.flags.ascii then throw .mixedAlphabets
  unless state.rest.isEmpty do refuse
  if state.conditions.any (· > state.groups.length) then refuse
  return regex

/-- The expression that a text writes under the given flags. -/
def read (text : String) (flags : RegexFlags) : Except RegexFault CompiledRegex :=
  let rest := pieces text.toList
  match (readAll (3 * rest.length + 4)).run { rest, flags } with
  | .ok (regex, state) => .ok ⟨regex, state.flags, state.names⟩
  | .error fault => .error fault

/-- The expression that a text writes, made ready to be matched: a look-behind needs a fixed
width. -/
def compile (text : String) (flags : RegexFlags) : Except RegexFault CompiledRegex :=
  match read text flags with
  | .ok compiled => if compiled.regex.looksBehindFixed then .ok compiled else .error .malformed
  | .error fault => .error fault

end Regex

/-- The width of the expression that a text writes. -/
def Regex.widthOf (text : String) : Except RegexFault Width :=
  match Regex.read text {} with
  | .ok compiled => .ok compiled.regex.width.report
  | .error fault => .error fault

end Lalr
