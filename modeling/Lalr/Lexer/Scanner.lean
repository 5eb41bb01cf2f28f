import Lalr.Lexer.Pattern

/-!
# Scanners

A scanner tries terminals in order at a position. Neighbours with the same flags
are put into one alternation of named groups, so that the group that a match
closes last tells which terminal matched.
-/

namespace Lalr

/-- A scanner, with its alternations ready to be matched. A whole scanner accepts only matches that
reach the end of the text. -/
structure Scanner where
  terminals : List Terminal
  whole : Bool
  alternations : List CompiledRegex
  deriving DecidableEq, Inhabited

namespace Scanner

/-- The terminals cut into runs with the same flags. -/
def runs : List Terminal → List (List Terminal)
  | [] => []
  | terminal :: rest =>
    match runs rest with
    | [] => [[terminal]]
    | [] :: others => [terminal] :: others
    | (next :: run) :: others =>
      if terminal.pattern.flags = next.pattern.flags then (terminal :: next :: run) :: others
      else [terminal] :: (next :: run) :: others

/-- The alternation of some terminals. -/
def alternation (terminals : List Terminal) : String :=
  Text.joinWith "|" (terminals.map fun terminal =>
    "(?P<" ++ terminal.name ++ ">" ++ terminal.pattern.expression ++ ")")

/-- The scanner of some terminals, under flags that hold for all of them. -/
def make (terminals : List Terminal) (flags : RegexFlags) (whole : Bool := false) :
    Except Failure Scanner := do
  let alternations ← (runs terminals).mapM fun run =>
    (Regex.compile (alternation run) flags).mapError RegexFault.failure
  return { terminals, whole, alternations }

/-- Tries some alternations at a position. -/
def tryAll (whole : Bool) (text : Array Char) (position : Nat) :
    List CompiledRegex → Option (Nat × String)
  | [] => none
  | alternation :: rest =>
    let found :=
      if whole then alternation.fullMatchAt text position else alternation.matchAt text position
    match found with
    | some point => (alternation.lastName? point).map fun name => (point.position, name)
    | none => tryAll whole text position rest

/-- Where the match that begins at a position ends, and the name of the terminal that matched. -/
def matchAt (scanner : Scanner) (text : Array Char) (position : Nat) : Option (Nat × String) :=
  tryAll scanner.whole text position scanner.alternations

/-- The names of the terminals. -/
def names (scanner : Scanner) : List String := scanner.terminals.map Terminal.name

end Scanner

end Lalr
