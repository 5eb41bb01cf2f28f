import Lalr.Data.Access
import Lalr.Workspace

/-!
# Values as documents

A value can be written as data and read back. A token is a record of its kind
`t`, its value `v`, and its place `p`, with its text `s` if the value is another;
a tree is a record of its label `d` and its children `c`, with its span `m` unless
that is empty, and with `k` if the node is a variant. A tree that is read may
have a name `id`, by which `ref` stands for the very same node later on, and
`nest` stands for a number of nodes with one label around a leaf.
-/

namespace Lalr

namespace Data

/-- Numbers of this size and beyond are written as texts. -/
def exactBound : Nat := Nat.pow 2 53

/-- An integer in a document. -/
def ofInteger (value : Int) : Data :=
  if value.natAbs < exactBound then .int value else .record [("int", .text (toString value))]

/-- An optional number in a document. -/
def ofPosition (position : Option Nat) : Data :=
  match position with
  | some position => .int position
  | none => .null

mutual

/-- Data in a document, where a record is a list of its fields. -/
def document : Data → Data
  | .int value => ofInteger value
  | .list items => .list (documents items)
  | .record fields => .record [("dict", .list (fieldDocuments fields))]
  | data => data

/-- Items of a list in a document. -/
def documents : List Data → List Data
  | [] => []
  | item :: rest => document item :: documents rest

/-- Fields of a record in a document. -/
def fieldDocuments : List (String × Data) → List Data
  | [] => []
  | (name, value) :: rest => .list [.text name, document value] :: fieldDocuments rest

end

end Data

/-- The parts of a place in a document. -/
def Place.document (place : Place) : List Data :=
  [place.startPos, place.line, place.column, place.endLine, place.endColumn, place.endPos].map
    Data.ofPosition

/-- The place that a document says. -/
def Place.ofDocument (data : Data) : Place :=
  let part (index : Nat) := (data.nth index).count?
  ⟨part 0, part 1, part 2, part 3, part 4, part 5⟩

/-- A token in a document. -/
def Token.document (token : Token) : Data :=
  .record ([("t", .text token.kind), ("v", token.value.document), ("p", .list token.place.document)]
    ++ (if token.payload.isSome then [("s", .text token.text)] else []))

/-- The token that a document says. -/
def Token.ofDocument (data : Data) : Token :=
  .ofData (data.get "t").string (data.get "v") (.ofDocument (data.get "p"))

namespace Span

/-- One half of a span in a document: lines and columns before the offset. -/
def half (place : Place) : List Data :=
  [place.line, place.column, place.startPos, place.endLine, place.endColumn, place.endPos].map
    Data.ofPosition

/-- A span in a document. -/
def document (span : Span) : Data := .list (half span.own ++ half span.container)

/-- The span that a document says. It is not empty, whatever its parts are. -/
def ofDocument (data : Data) : Span :=
  let part (index : Nat) := (data.nth index).count?
  { isEmpty := false
    own := ⟨part 2, part 0, part 1, part 3, part 4, part 5⟩
    container := ⟨part 8, part 6, part 7, part 9, part 10, part 11⟩ }

end Span

namespace Forest

/-- A value in a document, as far down as `depth`. -/
def documentTo (forest : Forest) : Nat → Value → Data
  | _, .nothing => .null
  | _, .flag value => .bool value
  | _, .number value => .ofInteger value
  | _, .text value => .text value
  | _, .token token => token.document
  | _, .span id =>
    let span := forest.span id
    .record [("meta", if span.isEmpty then .text "empty" else span.document)]
  | _, .discard => .record [("discard", .bool true)]
  | _, .foreign kind => .record [("py", .text kind)]
  | 0, _ => .null
  | depth + 1, .sequence id => .list ((forest.items id).map (forest.documentTo depth))
  | depth + 1, .node id =>
    let span := forest.spanOf id
    .record ([("d", .text (forest.label id)),
        ("c", .list ((forest.children id).map (forest.documentTo depth)))]
      ++ (if span.isEmpty then [] else [("m", span.document)])
      ++ (if (forest.node id).variant then [("k", .text "sub")] else []))

/-- A value in a document. -/
def document (forest : Forest) (value : Value) : Data := forest.documentTo forest.depthBound value

end Forest

/-- The nodes that have been named so far, the last one first. -/
abbrev NodeNames := List (String × NodeId)

namespace Value

/-- Steps of reading a document. -/
abbrev Reading := StateT NodeNames Work

/-- Puts a leaf below a number of nodes with one label. -/
def nest (label : String) : Nat → Value → Reading Value
  | 0, leaf => return leaf
  | count + 1, leaf => do
    nest label count (.node (← Work.plant fun forest => forest.addTree label [leaf]))

/-- Plants the tree that a record says, given its children. -/
def plantTree (data : Data) (children : List Value) : Reading Value := do
  let span ←
    match data.field? "m" with
    | some it => some <$> Work.plant fun forest => forest.addSpan (.ofDocument it)
    | none => pure none
  let variant := data.get "k" == .text "sub"
  let id ← Work.plant fun forest => forest.addTree (data.get "d").string children span variant
  match data.field? "id" with
  | some name => modify fun names => (name.string, id) :: names
  | none => pure ()
  return .node id

/-- The value that a record says, given what has been read from its fields. -/
def ofRecord (data : Data) (children : Reading (List Value)) (leaf : Reading Value) :
    Reading Value := do
  match data.field? "ref", data.field? "nest", data.field? "t", data.field? "discard" with
  | some name, _, _, _ => return ((← get).lookup name.string).elim .nothing .node
  | _, some count, _, _ => nest (data.get "label").string count.count (← leaf)
  | _, _, some _, _ => return .token (.ofDocument data)
  | _, _, _, some _ => return .discard
  | _, _, _, _ => plantTree data (← children)

mutual

/-- The value that a document says. -/
def read : Data → Reading Value
  | .bool value => return .flag value
  | .int value => return .number value
  | .text value => return .text value
  | .list items => do
    let items ← readItems items
    return .sequence (← Work.plant fun forest => forest.addSequence items)
  | .record fields => ofRecord (.record fields) (readList "c" fields) (readField "leaf" fields)
  | _ => return .nothing

/-- The values that some documents say. -/
def readItems : List Data → Reading (List Value)
  | [] => return []
  | item :: rest => do return (← read item) :: (← readItems rest)

/-- The value of a field. -/
def readField (name : String) : List (String × Data) → Reading Value
  | [] => return .nothing
  | (field, value) :: rest => if field = name then read value else readField name rest

/-- The values in the list that a field holds. -/
def readList (name : String) : List (String × Data) → Reading (List Value)
  | [] => return []
  | (field, value) :: rest =>
    if field = name then
      match value with
      | .list items => readItems items
      | _ => return []
    else readList name rest

end

/-- The value that a document says, where some nodes have names already. -/
def ofDocument (names : NodeNames) (data : Data) : Work Value := do
  let (value, _) ← (read data).run names
  return value

end Value

end Lalr
