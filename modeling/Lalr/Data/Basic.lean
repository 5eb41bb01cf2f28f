/-!
# Plain data

`Data` is what compiled grammars are stored as and what options are given as:
scalars, lists and records. A record keeps its fields in the order in which they
were first written.
-/

namespace Lalr

/-- A tree of scalars, lists and records. -/
inductive Data where
  | null
  | bool (value : Bool)
  | int (value : Int)
  | decimal (mantissa exponent : Int)
  | text (value : String)
  | list (items : List Data)
  | record (fields : List (String × Data))
  deriving Inhabited

namespace Data

mutual

/-- Decides whether two pieces of data are the same. -/
def decideEq : (a b : Data) → Decidable (a = b)
  | .null, .null => isTrue rfl
  | .bool a, .bool b => if h : a = b then isTrue (h ▸ rfl) else isFalse (by simpa using h)
  | .int a, .int b => if h : a = b then isTrue (h ▸ rfl) else isFalse (by simpa using h)
  | .decimal a b, .decimal c d =>
    if h : a = c ∧ b = d then isTrue (by simp [h]) else isFalse (by simpa using h)
  | .text a, .text b => if h : a = b then isTrue (h ▸ rfl) else isFalse (by simpa using h)
  | .list a, .list b =>
    match decideEqList a b with
    | isTrue h => isTrue (h ▸ rfl)
    | isFalse h => isFalse (by simpa using h)
  | .record a, .record b =>
    match decideEqFields a b with
    | isTrue h => isTrue (h ▸ rfl)
    | isFalse h => isFalse (by simpa using h)
  | .null, .bool _ | .null, .int _ | .null, .decimal .. | .null, .text _ | .null, .list _
  | .null, .record _ | .bool _, .null | .bool _, .int _ | .bool _, .decimal ..
  | .bool _, .text _ | .bool _, .list _ | .bool _, .record _ | .int _, .null
  | .int _, .bool _ | .int _, .decimal .. | .int _, .text _ | .int _, .list _
  | .int _, .record _ | .decimal .., .null | .decimal .., .bool _ | .decimal .., .int _
  | .decimal .., .text _ | .decimal .., .list _ | .decimal .., .record _ | .text _, .null
  | .text _, .bool _ | .text _, .int _ | .text _, .decimal .. | .text _, .list _
  | .text _, .record _ | .list _, .null | .list _, .bool _ | .list _, .int _
  | .list _, .decimal .. | .list _, .text _ | .list _, .record _ | .record _, .null
  | .record _, .bool _ | .record _, .int _ | .record _, .decimal .. | .record _, .text _
  | .record _, .list _ => isFalse (by simp)

/-- Decides whether two lists of data are the same. -/
def decideEqList : (a b : List Data) → Decidable (a = b)
  | [], [] => isTrue rfl
  | [], _ :: _ | _ :: _, [] => isFalse (by simp)
  | a :: as, b :: bs =>
    match decideEq a b, decideEqList as bs with
    | isTrue h, isTrue hs => isTrue (by rw [h, hs])
    | isFalse h, _ => isFalse (by simp [h])
    | _, isFalse hs => isFalse (by simp [hs])

/-- Decides whether two lists of fields are the same. -/
def decideEqFields : (a b : List (String × Data)) → Decidable (a = b)
  | [], [] => isTrue rfl
  | [], _ :: _ | _ :: _, [] => isFalse (by simp)
  | (m, a) :: as, (n, b) :: bs =>
    if hn : m = n then
      match decideEq a b, decideEqFields as bs with
      | isTrue h, isTrue hs => isTrue (by rw [hn, h, hs])
      | isFalse h, _ => isFalse (by simp [h])
      | _, isFalse hs => isFalse (by simp [hs])
    else isFalse (by simp [hn])

end

instance : DecidableEq Data := decideEq

/-- The value that a list of fields has under a name. -/
def lookup (fields : List (String × Data)) (name : String) : Option Data :=
  (fields.find? (·.1 == name)).map (·.2)

/-- The value of a record's field, if the data is a record that has it. -/
def field? (data : Data) (name : String) : Option Data :=
  match data with
  | .record fields => lookup fields name
  | _ => none

/-- Sets a field. A field that is already there keeps its position. -/
def put {α β : Type} [BEq α] (fields : List (α × β)) (name : α)
    (value : β) : List (α × β) :=
  if fields.any (·.1 == name) then
    fields.map fun entry => if entry.1 == name then (entry.1, value) else entry
  else fields ++ [(name, value)]

/-- The fields with each name kept once, at its first position and with its last value. -/
def settle {α β : Type} [BEq α] (fields : List (α × β)) : List (α × β) :=
  fields.foldl (fun settled entry => put settled entry.1 entry.2) []

/-- Whether a condition given as data holds: null, false, zero and whatever is empty do not. -/
def holds : Data → Bool
  | .null => false
  | .bool value => value
  | .int value => value != 0
  | .decimal mantissa _ => mantissa != 0
  | .text value => value != ""
  | .list items => !items.isEmpty
  | .record fields => !fields.isEmpty

/-- Whether the data is the number `n`. The truth values count as one and zero. -/
def isNumber (n : Int) : Data → Bool
  | .bool value => (if value then 1 else 0) == n
  | .int value => value == n
  | .decimal mantissa exponent =>
    if 0 ≤ exponent then mantissa * Nat.pow 10 exponent.toNat == n
    else mantissa == n * Nat.pow 10 (-exponent).toNat
  | _ => false

/-- The text, if the data is one. -/
def asText? : Data → Option String
  | .text value => some value
  | _ => none

/-- The number, if the data is a whole one. -/
def asInt? : Data → Option Int
  | .int value => some value
  | _ => none

/-- The items, if the data is a list. -/
def asList? : Data → Option (List Data)
  | .list items => some items
  | _ => none

/-- Whether the data is a record. -/
def isRecord : Data → Bool
  | .record _ => true
  | _ => false

/-- What goes by when the data is run through item by item: the items of a list, the characters of
a text, the names of a record. -/
def elements? : Data → Option (List Data)
  | .list items => some items
  | .text value => some (value.toList.map fun c => .text c.toString)
  | .record fields => some (fields.map fun entry => .text entry.1)
  | _ => none

end Data

end Lalr
