import Lalr.Artifact.Objects

/-!
# Registers

While a grammar is stored, terminals and rules are entered into a register, and
a reference to the entry stands wherever they are used. Terminals of one name
share an entry, and so do rules that are the same rule.
-/

namespace Lalr

/-- What is entered into a register. -/
inductive Entry where
  | terminal (terminal : Terminal)
  | rule (rule : Rule)
  deriving DecidableEq, Inhabited

namespace Entry

/-- Whether two entries share a place. -/
def same : Entry → Entry → Bool
  | .terminal a, .terminal b => a.name == b.name
  | .rule a, .rule b => a.same b
  | _, _ => false

/-- The data that an entry is stored as. -/
def toData : Entry → Except Failure Data
  | .terminal it => it.toData
  | .rule it => .ok it.toData

end Entry

/-- The entries made so far, the first one first. -/
abbrev Register := List Entry

/-- Steps that enter something into a register. -/
abbrev Registering := StateM Register

namespace Register

/-- Enters something, unless it has an entry already. The result refers to the entry. -/
def enter (entry : Entry) : Registering Data :=
  modifyGet fun register =>
    match register.findIdx? entry.same with
    | some index => (.record [("@", .int index)], register)
    | none => (.record [("@", .int register.length)], register ++ [entry])

/-- The data that a register is stored as. -/
def toData (register : Register) : Except Failure Data := do
  let entries ← register.mapM Entry.toData
  return .record ((List.range entries.length).zip entries |>.map fun (index, entry) =>
    (toString index, entry))

end Register

end Lalr
