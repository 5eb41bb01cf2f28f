/-!
# The journal

What goes on inside a parse is written down record by record, each on a channel
and with a level. A journal has a threshold, below which records are not kept.
-/

namespace Lalr

/-- How much a record matters. -/
inductive Level where
  | debug
  | info
  | error
  deriving DecidableEq, Repr, Inhabited

/-- The rank of a level. -/
def Level.rank : Level → Nat
  | .debug => 0
  | .info => 1
  | .error => 2

/-- The level as a record shows it. -/
def Level.shown : Level → String
  | .debug => "DEBUG"
  | .info => "INFO"
  | .error => "ERROR"

/-- What a record is about. -/
inductive Channel where
  | general
  | lexer
  | action
  | recovery
  deriving DecidableEq, Repr, Inhabited

/-- The channel as a record shows it. -/
def Channel.shown : Channel → String
  | .general => "shiftreduce"
  | .lexer => "shiftreduce.lexer"
  | .action => "shiftreduce.action"
  | .recovery => "shiftreduce.recovery"

/-- A record of the journal. -/
structure Record where
  level : Level
  channel : Channel
  message : String
  deriving DecidableEq, Repr, Inhabited

/-- The records kept so far, the last one first. Without a threshold none is kept. -/
structure Journal where
  threshold : Option Level := none
  records : List Record := []
  deriving DecidableEq, Repr, Inhabited

namespace Journal

/-- Whether records of a level are kept. -/
def keeps (journal : Journal) (level : Level) : Bool :=
  match journal.threshold with
  | some threshold => threshold.rank ≤ level.rank
  | none => false

/-- Writes a record down, if it is of a level that is kept. -/
def write (journal : Journal) (level : Level) (channel : Channel) (message : Unit → String) :
    Journal :=
  if journal.keeps level then
    { journal with records := ⟨level, channel, message ()⟩ :: journal.records }
  else journal

/-- The records in the order in which they were written. -/
def inOrder (journal : Journal) : List Record := journal.records.reverse

end Journal

end Lalr
