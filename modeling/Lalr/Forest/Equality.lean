import Lalr.Forest.Basic

/-!
# Equality of values

Two trees are equal when their labels and children are. Where they lie in the
text does not count, and neither does it matter whether they are one node or
two.
-/

namespace Lalr

namespace Forest

/-- Whether two lists of values are equal, given when two values are. -/
def sameItems (same : Value → Value → Bool) : List Value → List Value → Bool
  | [], [] => true
  | a :: as, b :: bs => same a b && sameItems same as bs
  | _, _ => false

/-- Whether two values are equal as far down as `depth`. A token is equal to its text, and the truth
values are equal to one and zero. -/
def sameTo (forest : Forest) : Nat → Value → Value → Bool
  | _, .nothing, .nothing => true
  | _, .flag a, .flag b => a == b
  | _, .number a, .number b => a == b
  | _, .flag a, .number b => (if a then 1 else 0) == b
  | _, .number a, .flag b => a == (if b then 1 else 0)
  | _, .text a, .text b => a == b
  | _, .token a, .token b => a.agrees b
  | _, .token a, .text b => a.text == b
  | _, .text a, .token b => a == b.text
  | _, .discard, .discard => true
  | _, .span a, .span b => a == b
  | _, .foreign a, .foreign b => a == b
  | depth + 1, .node a, .node b =>
    a == b || (forest.label a == forest.label b
      && sameItems (forest.sameTo depth) (forest.children a) (forest.children b))
  | depth + 1, .sequence a, .sequence b =>
    a == b || sameItems (forest.sameTo depth) (forest.items a) (forest.items b)
  | _, _, _ => false

/-- Whether two values are equal. -/
def same (forest : Forest) (a b : Value) : Bool := forest.sameTo forest.depthBound a b

end Forest

/-- What a hash of a value depends on. Values that are equal have equal keys. -/
inductive HashKey where
  | nothing
  | discard
  | number (value : Int)
  | text (value : String)
  | tree (label : String) (children : List HashKey)
  | span (id : SpanId)
  | foreign (kind : String)
  deriving BEq, Inhabited

namespace HashKey

/-- The key of a number. Numbers count modulo a large prime, and minus one counts as minus two. -/
def ofInt (value : Int) : HashKey :=
  let prime : Nat := Nat.pow 2 61 - 1
  let residue : Int := (value.natAbs % prime : Nat)
  let signed := if value < 0 then -residue else residue
  .number (if signed = -1 then -2 else signed)

end HashKey

namespace Forest

/-- The hash key of a value, if it has one: a sequence has none, and so has no tree that holds
one. -/
def hashKeyTo (forest : Forest) : Nat → Value → Option HashKey
  | _, .nothing => some .nothing
  | _, .flag value => some (.ofInt (if value then 1 else 0))
  | _, .number value => some (.ofInt value)
  | _, .text value => some (.text value)
  | _, .token token => some (.text token.text)
  | _, .discard => some .discard
  | _, .span id => some (.span id)
  | _, .foreign kind => some (.foreign kind)
  | _, .sequence _ => none
  | 0, .node _ => none
  | depth + 1, .node id =>
    ((forest.children id).mapM (forest.hashKeyTo depth)).map (.tree (forest.label id))

/-- The hash key of a value, if it has one. -/
def hashKey? (forest : Forest) (value : Value) : Option HashKey :=
  forest.hashKeyTo forest.depthBound value

end Forest

end Lalr
