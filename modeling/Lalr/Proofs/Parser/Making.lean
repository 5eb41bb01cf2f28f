import Lalr.Parser.Basic
import Lalr.Proofs.Runs

/-!
# Making parsers

To make a parser is a computation that depends on nothing but the grammar, the
options and the number of lexers there are, beside what it writes into the journal.
-/

namespace Lalr.Parser

variable {terminals : List Terminal} {rules : List Rule} {table : Table State}
  {ignored : List Data} {options : Options}

/-- The settings of the lexers of a parser. -/
def settings (terminals : List Terminal) (ignored : List Data)
    (callbacks : List (String × TokenHandler)) (flags : RegexFlags) : LexerSettings where
  terminals
  ignored := ignored.filterMap Data.asText?
  strays := ignored.filter fun name => name.asText?.isNone
  callbacks
  flags

/-- The flags that hold for all terminals. They do not matter where there are none. -/
def flagsFor (terminals : List Terminal) (options : Options) : Except Failure RegexFlags :=
  if terminals.isEmpty then .ok {} else usable options.regexFlags

/-- The parser of a grammar and the number of lexers there are then. -/
def assemble (terminals : List Terminal) (rules : List Rule) (table : Table State)
    (ignored : List Data) (options : Options) (number : Nat) : Except Failure (Parser × Nat) := do
  options.starts.forM (checkStart table)
  let transformer ← usable options.transformer
  let reductions ←
    Reductions.make (growth options transformer) rules (terminals.map Terminal.name)
  let callbacks ← usable options.callbacks
  let flags ← flagsFor terminals options
  let settings := settings terminals ignored callbacks flags
  let (source, count) ← makeSource options settings table number
  let whole ← Lexer.make (number + count) settings
  let wholeKeeping ← Lexer.make (number + count + 1) { settings with ignored := [], strays := [] }
  return (
    { options, terminals, rules, ignored := ignored.filterMap Data.asText?, table, reductions,
      source, whole, wholeKeeping },
    number + count + 2)

end Lalr.Parser

namespace Lalr.Run

variable {α β : Type} {before after : Workspace}

theorem lift_bind (answer : Except Failure α) (rest : α → Except Failure β) :
    Run.lift (answer >>= rest) = Run.lift answer >>= fun value => Run.lift (rest value) := by
  cases answer with
  | error failure => rfl
  | ok value => rfl

theorem lift_bind_of_ok {answer : Except Failure α} {value : α} (went : answer = .ok value)
    (rest : α → Run β) : Run.lift answer >>= rest = rest value := by
  rw [went, lift_ok, pure_bind]

theorem forIn_lift (items : List α) (check : α → Except Failure Unit) :
    (forIn items PUnit.unit fun item _ => do
      Run.lift (check item)
      pure (ForInStep.yield PUnit.unit)) = Run.lift (items.forM check) := by
  induction items with
  | nil => rfl
  | cons item items ih =>
      have split : Run.lift ((item :: items).forM check) =
          Run.lift (check item) >>= fun _ => Run.lift (items.forM check) :=
        lift_bind (check item) fun _ => items.forM check
      rw [List.forIn_cons, split, ← ih, bind_assoc]
      simp only [pure_bind]

end Lalr.Run

namespace Lalr.Parser

variable {terminals : List Terminal} {rules : List Rule} {table : Table State}
  {ignored : List Data} {options : Options} {before after : Workspace} {parser : Parser}

/-- A parser that has been made can be assembled, and nothing but the journal and the number of
lexers has changed. -/
theorem assemble_of_make
    (made : (make terminals rules table ignored options).Yields before parser after) :
    ∃ count, assemble terminals rules table ignored options before.lexerCount =
        .ok (parser, count) ∧
      after = { before with journal := after.journal, lexerCount := count } := by
  unfold make at made
  rw [Run.forIn_lift] at made
  simp only [Run.yields_bind, Run.yields_lift, Run.yields_get] at made
  rcases made with
    ⟨_, _, ⟨starts, rfl⟩, transformer, _, ⟨transformed, rfl⟩, reductions, _,
      ⟨reduced, rfl⟩, callbacks, _, ⟨called, rfl⟩, flags, _, ⟨flagged, rfl⟩, _, _,
      ⟨rfl, rfl⟩, ⟨source, count⟩, _, ⟨sourced, rfl⟩, made⟩
  have assembled {whole wholeKeeping : Lexer}
      (first : Lexer.make (before.lexerCount + count)
        (settings terminals ignored callbacks flags) = .ok whole)
      (second : Lexer.make (before.lexerCount + count + 1)
        { settings terminals ignored callbacks flags with ignored := [], strays := [] } =
          .ok wholeKeeping) :
      assemble terminals rules table ignored options before.lexerCount =
        .ok (
          { options, terminals, rules, ignored := ignored.filterMap Data.asText?, table, reductions,
            source, whole, wholeKeeping },
          before.lexerCount + count + 2) := by
    simp only [assemble, bind_eq_ok]
    exact ⟨_, starts, _, transformed, _, reduced, _, called, _, flagged, _, sourced, _, first, _,
      second, rfl⟩
  dsimp only at made
  split at made
  · simp only [Run.yields_bind, Run.yields_lift, Run.yields_record, Run.yields_modify,
      Run.yields_pure] at made
    rcases made with
      ⟨_, _, rfl, whole, _, ⟨first, rfl⟩, wholeKeeping, _, ⟨second, rfl⟩, _, _, rfl, _,
        _, rfl, rfl, rfl⟩
    exact ⟨_, assembled first second, rfl⟩
  · simp only [Run.yields_bind, Run.yields_lift, Run.yields_record, Run.yields_modify,
      Run.yields_pure] at made
    rcases made with
      ⟨whole, _, ⟨first, rfl⟩, wholeKeeping, _, ⟨second, rfl⟩, _, _, rfl, _,
        _, rfl, rfl, rfl⟩
    exact ⟨_, assembled first second, rfl⟩

/-- A parser that can be assembled is what making gives. -/
theorem make_of_assemble {count : Nat}
    (assembled : assemble terminals rules table ignored options before.lexerCount =
      .ok (parser, count)) :
    ∃ after, (make terminals rules table ignored options).Yields before parser after := by
  simp only [assemble, bind_eq_ok] at assembled
  rcases assembled with
    ⟨_, starts, transformer, transformed, reductions, reduced, callbacks, called, flags, flagged,
      ⟨source, count⟩, sourced, whole, first, wholeKeeping, second, assembled⟩
  cases assembled
  unfold make
  rw [Run.forIn_lift]
  simp only [Run.yields_bind, Run.yields_lift, Run.yields_get]
  cases reader : source.reader with
  | contextual lexer =>
      apply Exists.intro
      refine ⟨_, _, ⟨starts, rfl⟩, transformer, _, ⟨transformed, rfl⟩, reductions, _,
        ⟨reduced, rfl⟩, callbacks, _, ⟨called, rfl⟩, flags, _, ⟨flagged, rfl⟩, _, _,
        ⟨rfl, rfl⟩, ⟨source, count⟩, _, ⟨sourced, rfl⟩, ?_⟩
      simp only [reader, Run.yields_bind, Run.yields_lift, Run.yields_record, Run.yields_modify,
        Run.yields_pure]
      exact ⟨⟨⟩, _, rfl, whole, _, ⟨first, rfl⟩, wholeKeeping, _, ⟨second, rfl⟩,
        ⟨⟩, _, rfl, ⟨⟩, _, rfl, rfl, rfl⟩
  | basic lexer =>
      apply Exists.intro
      refine ⟨_, _, ⟨starts, rfl⟩, transformer, _, ⟨transformed, rfl⟩, reductions, _,
        ⟨reduced, rfl⟩, callbacks, _, ⟨called, rfl⟩, flags, _, ⟨flagged, rfl⟩, _, _,
        ⟨rfl, rfl⟩, ⟨source, count⟩, _, ⟨sourced, rfl⟩, ?_⟩
      simp only [reader, Run.yields_bind, Run.yields_lift, Run.yields_record, Run.yields_modify,
        Run.yields_pure]
      exact ⟨whole, _, ⟨first, rfl⟩, wholeKeeping, _, ⟨second, rfl⟩, ⟨⟩, _, rfl,
        ⟨⟩, _, rfl, rfl, rfl⟩

/-- A parser with a basic lexer that ignores nothing can be made of its parts, where its lexer can
be made under every number. -/
theorem make_of_basic {transformer : Option Transformer} {reductions : Reductions}
    {callbacks : List (String × TokenHandler)} {flags : RegexFlags} {postLexer : Option PostLexer}
    {lexer : Nat → Lexer} (basic : options.contextual = false)
    (starts : options.starts.forM (checkStart table) = .ok ())
    (transformed : usable options.transformer = .ok transformer)
    (reduced : Reductions.make (growth options transformer) rules (terminals.map Terminal.name) =
      .ok reductions)
    (called : usable options.callbacks = .ok callbacks)
    (flagged : flagsFor terminals options = .ok flags)
    (posted : usable options.postLexer = .ok postLexer)
    (made : ∀ number, Lexer.make number (settings terminals [] callbacks flags) =
      .ok (lexer number)) :
    ∃ after, (make terminals rules table [] options).Yields before
      { options, terminals, rules, ignored := [], table, reductions
        source := { reader := .basic (lexer before.lexerCount), postLexer }
        whole := lexer (before.lexerCount + 1)
        wholeKeeping := lexer (before.lexerCount + 2) } after := by
  have sourced : makeSource options (settings terminals [] callbacks flags) table
      before.lexerCount = .ok ({ reader := .basic (lexer before.lexerCount), postLexer }, 1) := by
    simp only [makeSource, basic, Bool.false_eq_true, if_false, made, posted]
    rfl
  have assembled : assemble terminals rules table [] options before.lexerCount = .ok (
      { options, terminals, rules, ignored := [], table, reductions
        source := { reader := .basic (lexer before.lexerCount), postLexer }
        whole := lexer (before.lexerCount + 1)
        wholeKeeping := lexer (before.lexerCount + 2) }, before.lexerCount + 3) := by
    simp only [assemble, bind_eq_ok]
    exact ⟨⟨⟩, starts, transformer, transformed, reductions, reduced, callbacks, called,
      flags, flagged, _, sourced, _, made _, _, made _, rfl⟩
  exact make_of_assemble assembled

end Lalr.Parser
