import Lalr.Lexer.Basic

/-!
# Lexers that know the state of the parse

In each state only the terminals that the state has entries for are tried, with
those that are ignored or always accepted. States that try the same terminals
share a lexer. A root lexer, which tries every terminal, is asked only where
this fails: if it finds a token there, the token is what is wrong.
-/

namespace Lalr

/-- The lexers of the states, and the lexer of all terminals. -/
structure ContextualLexer where
  lexers : List (State × Lexer)
  root : Lexer

namespace ContextualLexer

/-- The settings of the lexer for a set of names. The terminals have been validated before. -/
def settingsFor (settings : LexerSettings) (names : List String) : LexerSettings :=
  let byName := Data.settle (settings.terminals.map fun terminal => (terminal.name, terminal))
  { settings with
    terminals := (byName.filter fun entry => names.contains entry.1).map (·.2)
    skipValidation := true }

/-- Makes the lexers of some states. `made` holds those made so far under the sets of names they are
for. -/
def makeLexers (settings : LexerSettings) (alwaysAccepted : List String) (root : Nat) :
    List (List String × Lexer) → List (State × List String) →
      Except Failure (List (State × Lexer) × Nat)
  | made, [] => return ([], made.length)
  | made, (state, names) :: rest => do
    let key := sortedSet names
    match assoc? made key with
    | some lexer =>
      let (lexers, count) ← makeLexers settings alwaysAccepted root made rest
      return ((state, lexer) :: lexers, count)
    | none =>
      let tried := names ++ settings.ignored ++ alwaysAccepted
      let lexer ← Lexer.make (root + made.length + 1) (settingsFor settings tried)
      let (lexers, count) ← makeLexers settings alwaysAccepted root ((key, lexer) :: made) rest
      return ((state, lexer) :: lexers, count)

/-- The lexers for some states with the names that each state has entries for, and how many
different ones there are besides the root. Lexers are numbered from `number` on. -/
def make (number : Nat) (settings : LexerSettings) (states : List (State × List String))
    (alwaysAccepted : List String) : Except Failure (ContextualLexer × Nat) := do
  let root ← Lexer.make number settings
  let (lexers, count) ← makeLexers settings alwaysAccepted number [] states
  return ({ lexers, root }, count)

/-- What to make of the root lexer's answer where the lexer of the state was stuck: a token is in
the wrong place, and otherwise the text is wrong. -/
def blame (stuck : StuckText) (history : Option (List Token)) :
    Except Failure (Option Token) → Failure
  | .ok (some token) =>
    .stuckToken {
      offender := .token token
      expected := stuck.allowed
      history
      standing := stuck.standing }
  | .ok none => .stuckText stuck
  | .error (.stuckText _) => .stuckText stuck
  | .error failure => failure

/-- The next token that is not ignored in the state where a parse stands. -/
def next (lexer : ContextualLexer) (standing : Option Standing) (cursor : Cursor) :
    Work (Except Failure (Option Token) × Cursor) := do
  match standing with
  | none => return (.error (.fault .brokenPromise), cursor)
  | some place =>
    match assoc? lexer.lexers place.state with
    | none => return (.error (.fault .missingEntry), cursor)
    | some own =>
      match ← own.next standing cursor with
      | (.error (.stuckText stuck), cursor) =>
        let (answer, after) ← lexer.root.next standing cursor
        return (.error (blame stuck (cursor.last.map fun token => [token]) answer), after)
      | result => return result

end ContextualLexer

end Lalr
