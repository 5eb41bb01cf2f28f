import Lalr.Lexer.Scanner

/-!
# Absorbed literals

A literal that some expression of the same priority matches as well need not be
tried on its own. It is absorbed: tokens of the expression whose text is the
literal become tokens of the literal afterwards.
-/

namespace Lalr

/-- The scanner of a lexer, with the scanners of absorbed literals under the names of the
expressions that absorb them. -/
structure Vocabulary where
  scanner : Scanner
  absorbed : List (String × Scanner)
  deriving DecidableEq, Inhabited

/-- Steps of preparing a vocabulary. Each absorption is announced before its scanner is made. -/
abbrev Preparing := ExceptT Failure (StateM (List String))

namespace Vocabulary

/-- Whether an expression matches the whole text of a literal. -/
def matchesLiteral (flags : RegexFlags) (expression literal : Terminal) : Except Failure Bool := do
  let compiled ← (Regex.compile expression.pattern.expression flags).mapError RegexFault.failure
  let text := literal.pattern.value.toList.toArray
  match compiled.matchAt text 0 with
  | some point => return point.position == text.size
  | none => return false

/-- The literals of some terminals. -/
def literals (terminals : List Terminal) : List Terminal :=
  terminals.filter fun terminal => terminal.pattern.kind == .literal

/-- The literals that an expression matches. -/
def matchedLiterals (flags : RegexFlags) (literals : List Terminal) (expression : Terminal) :
    Except Failure (List Terminal) :=
  (literals.filter fun literal => literal.priority == expression.priority).filterM
    (matchesLiteral flags expression)

/-- Whether a literal that an expression matches need not be tried on its own: all its flags hold
for the expression too. -/
def replaces (expression literal : Terminal) : Bool :=
  literal.pattern.flags.subset expression.pattern.flags

/-- Goes through the expressions of a list of terminals. The result holds the scanners of what they
absorb and the names of the literals that need not be tried. -/
def absorb (flags : RegexFlags) (literals : List Terminal) :
    List Terminal → Preparing (List (String × Scanner) × List String)
  | [] => return ([], [])
  | terminal :: rest =>
    match terminal.pattern.kind with
    | .literal => absorb flags literals rest
    | .expression => do
      let matched ← ExceptT.mk (pure (matchedLiterals flags literals terminal))
      if matched.isEmpty then absorb flags literals rest
      else
        modify fun announced =>
          announced ++ [terminal.name ++ " absorbs literal terminals "
            ++ Text.joinWith ", " (matched.map Terminal.name)]
        let scanner ← ExceptT.mk (pure (Scanner.make matched flags true))
        let (scanners, names) ← absorb flags literals rest
        return ((terminal.name, scanner) :: scanners,
          (matched.filter (replaces terminal)).map Terminal.name ++ names)

/-- Prepares the vocabulary of some terminals. -/
def prepare (terminals : List Terminal) (flags : RegexFlags) : Preparing Vocabulary := do
  let (scanners, replaced) ← absorb flags (literals terminals) terminals
  let left := terminals.filter fun terminal => !replaced.contains terminal.name
  let scanner ← ExceptT.mk (pure (Scanner.make left flags))
  return { scanner, absorbed := Data.settle scanners }

/-- The kind of a token after absorbed literals have come back. -/
def kindOf (vocabulary : Vocabulary) (name text : String) : String :=
  match assoc? vocabulary.absorbed name with
  | some scanner =>
    match scanner.matchAt text.toList.toArray 0 with
    | some (_, literal) => literal
    | none => name
  | none => name

end Vocabulary

end Lalr
