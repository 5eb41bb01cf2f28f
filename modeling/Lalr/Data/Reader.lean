import Lalr.Data.Basic

/-!
# Reading JSON

`Data.ofJson?` reads one JSON value that takes up the whole text. Of two fields
with one name the later one counts, in the place of the earlier. The readers
take a bound on their recursion depth, for which the length of the text is
always enough, because every step consumes a character.
-/

namespace Lalr.Data

/-- Drops JSON white space. -/
def skipSpace (chars : List Char) : List Char :=
  chars.dropWhile fun c => c == ' ' || c == '\t' || c == '\n' || c == '\r'

/-- The value of a hexadecimal digit. -/
def hexValue? (c : Char) : Option Nat :=
  if c.isDigit then some (c.toNat - 48)
  else if 'a' ≤ c && c ≤ 'f' then some (c.toNat - 87)
  else if 'A' ≤ c && c ≤ 'F' then some (c.toNat - 55)
  else none

/-- The value of four hexadecimal digits. -/
def unit? (a b c d : Char) : Option Nat :=
  match hexValue? a, hexValue? b, hexValue? c, hexValue? d with
  | some a, some b, some c, some d => some (((a * 16 + b) * 16 + c) * 16 + d)
  | _, _, _, _ => none

/-- What a backslash and one character stand for, apart from numbers. -/
def simpleEscape? (c : Char) : Option Char :=
  if c == '\x22' || c == '\\' || c == '/' then some c
  else if c == 'n' then some '\n'
  else if c == 'r' then some '\r'
  else if c == 't' then some '\t'
  else if c == 'b' then some '\x08'
  else if c == 'f' then some '\x0c'
  else none

/-- The first part of a pair of escapes for a character beyond sixteen bits. -/
def isHighUnit (unit : Nat) : Bool := 0xD800 ≤ unit && unit < 0xDC00

/-- The second part of such a pair. -/
def isLowUnit (unit : Nat) : Bool := 0xDC00 ≤ unit && unit < 0xE000

/-- Reads the rest of a string whose opening quote has been read. `high` is the first part of a
pair of escapes that still waits for its second part; alone it becomes the replacement character. -/
def readString (high : Option Nat) : List Char → Option (List Char × List Char)
  | [] => none
  | '\\' :: 'u' :: a :: b :: c :: d :: rest =>
    let lone := if high.isSome then ['\uFFFD'] else []
    match unit? a b c d with
    | none => none
    | some unit =>
      match high with
      | some first =>
        if isLowUnit unit then
          (readString none rest).map fun (read, rest) =>
            (Char.ofNat (0x10000 + (first - 0xD800) * 0x400 + (unit - 0xDC00)) :: read, rest)
        else if isHighUnit unit then
          (readString (some unit) rest).map fun (read, rest) => (lone ++ read, rest)
        else
          (readString none rest).map fun (read, rest) => (lone ++ Char.ofNat unit :: read, rest)
      | none =>
        if isHighUnit unit then readString (some unit) rest
        else
          let c := if isLowUnit unit then '\uFFFD' else Char.ofNat unit
          (readString none rest).map fun (read, rest) => (c :: read, rest)
  | '\\' :: c :: rest =>
    let lone := if high.isSome then ['\uFFFD'] else []
    match simpleEscape? c with
    | none => none
    | some c => (readString none rest).map fun (read, rest) => (lone ++ c :: read, rest)
  | c :: rest =>
    let lone := if high.isSome then ['\uFFFD'] else []
    if c == '\x22' then some (lone, rest)
    else if c == '\\' || c.toNat < 0x20 then none
    else (readString none rest).map fun (read, rest) => (lone ++ c :: read, rest)

/-- The number that decimal digits write. -/
def digitsValue (digits : List Char) : Nat :=
  digits.foldl (fun total c => total * 10 + (c.toNat - 48)) 0

/-- Whether decimal digits may begin a number: there is one, and no needless leading zero. -/
def wholePart (digits : List Char) : Bool :=
  match digits with
  | [] => false
  | ['0'] => true
  | c :: _ => c != '0'

/-- Reads the exponent of a number, if one follows. -/
def readExponent (chars : List Char) : Option Int × List Char :=
  match chars with
  | c :: rest =>
    if c == 'e' || c == 'E' then
      let (negative, digits) :=
        match rest with
        | '-' :: rest => (true, rest)
        | '+' :: rest => (false, rest)
        | rest => (false, rest)
      match digits.takeWhile Char.isDigit with
      | [] => (none, chars)
      | power =>
        let value : Int := digitsValue power
        (some (if negative then -value else value), digits.dropWhile Char.isDigit)
    else (none, chars)
  | [] => (none, chars)

/-- Reads a number without its sign. Leading zeros end the number. -/
def readMagnitude (chars : List Char) : Option ((Nat × Option Int) × List Char) :=
  let (whole, rest) :=
    match chars with
    | '0' :: rest => (['0'], rest)
    | _ => (chars.takeWhile Char.isDigit, chars.dropWhile Char.isDigit)
  if whole.isEmpty then none
  else
    let (fraction, rest) :=
      match rest with
      | '.' :: after =>
        match after.takeWhile Char.isDigit with
        | [] => ([], rest)
        | fraction => (fraction, after.dropWhile Char.isDigit)
      | _ => ([], rest)
    let (power, rest) := readExponent rest
    if fraction.isEmpty && power.isNone then some ((digitsValue whole, none), rest)
    else
      some ((digitsValue (whole ++ fraction), some (power.getD 0 - fraction.length)), rest)

/-- Reads a number. -/
def readNumber (chars : List Char) : Option (Data × List Char) :=
  let (negative, magnitude) :=
    match chars with
    | '-' :: rest => (true, rest)
    | _ => (false, chars)
  (readMagnitude magnitude).map fun ((value, power), rest) =>
    let signed : Int := if negative then -(value : Int) else value
    match power with
    | none => (.int signed, rest)
    | some power => (.decimal signed power, rest)

mutual

/-- Reads a value, and gives back what follows it. -/
def readValue : Nat → List Char → Option (Data × List Char)
  | 0, _ => none
  | depth + 1, chars =>
    match skipSpace chars with
    | '\x22' :: rest =>
      (readString none rest).map fun (read, rest) => (.text (String.ofList read), rest)
    | '[' :: rest =>
      match skipSpace rest with
      | ']' :: rest => some (.list [], rest)
      | rest => (readItems depth rest).map fun (items, rest) => (.list items, rest)
    | '\x7b' :: rest =>
      match skipSpace rest with
      | '\x7d' :: rest => some (.record [], rest)
      | rest =>
        (readFields depth rest).map fun (fields, rest) => (.record (settle fields), rest)
    | 'n' :: 'u' :: 'l' :: 'l' :: rest => some (.null, rest)
    | 't' :: 'r' :: 'u' :: 'e' :: rest => some (.bool true, rest)
    | 'f' :: 'a' :: 'l' :: 's' :: 'e' :: rest => some (.bool false, rest)
    | rest => readNumber rest

/-- Reads the items of a list up to and including its closing bracket. -/
def readItems : Nat → List Char → Option (List Data × List Char)
  | 0, _ => none
  | depth + 1, chars =>
    match readValue depth chars with
    | none => none
    | some (item, rest) =>
      match skipSpace rest with
      | ',' :: rest => (readItems depth rest).map fun (items, rest) => (item :: items, rest)
      | ']' :: rest => some ([item], rest)
      | _ => none

/-- Reads the fields of a record up to and including its closing brace. -/
def readFields : Nat → List Char → Option (List (String × Data) × List Char)
  | 0, _ => none
  | depth + 1, chars =>
    match skipSpace chars with
    | '\x22' :: rest =>
      match readString none rest with
      | none => none
      | some (name, rest) =>
        match skipSpace rest with
        | ':' :: rest =>
          match readValue depth rest with
          | none => none
          | some (value, rest) =>
            let entry := (String.ofList name, value)
            match skipSpace rest with
            | ',' :: rest =>
              (readFields depth rest).map fun (fields, rest) => (entry :: fields, rest)
            | '\x7d' :: rest => some ([entry], rest)
            | _ => none
        | _ => none
    | _ => none

end

/-- The value that a text writes in JSON, if it writes one. -/
def ofJson? (text : String) : Option Data :=
  let chars := text.toList
  match readValue (chars.length + 1) chars with
  | some (data, rest) => if (skipSpace rest).isEmpty then some data else none
  | none => none

end Lalr.Data
