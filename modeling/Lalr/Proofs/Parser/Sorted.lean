import Lalr.Proofs.Lexer.Making
import Lalr.Proofs.Lexer.Ordering
import Lalr.Proofs.Parser.Making

/-!
# Parsers whose terminals are in order

Where the terminals of a grammar come in the order in which they are tried, the lexers that
are made for it can be named: no sorting is left to do.
-/

namespace Lalr

namespace ContextualLexer

variable {settings : LexerSettings}

/-- The lexer for some names, where all terminals are in order. -/
def ownLexer (settings : LexerSettings) (names : List String) (number : Nat) : Lexer :=
  .ofOrdered number (settingsFor settings names)
    (settings.terminals.filter fun terminal => names.contains terminal.name)

theorem make_ownLexer (distinct : (settings.terminals.map Terminal.name).Nodup)
    (sorted : Lexer.inOrder settings.terminals = .ok settings.terminals) (number : Nat)
    (names : List String) :
    Lexer.make number (settingsFor settings names) = .ok (ownLexer settings names number) := by
  refine Lexer.make_eq_ok.mpr ⟨rfl, _, ?_, rfl⟩
  rw [terminals_settingsFor distinct, Lexer.inOrder_filter distinct sorted]

end ContextualLexer

namespace Parser

/-- The parser of a grammar whose terminals are in order, without anything that is the user's own
but a post-lexer. -/
def ofSorted (terminals : List Terminal) (rules : List Rule) (table : Table State)
    (ignored : List Data) (options : Options) (source : TokenSource) (count : Nat) : Parser where
  options
  terminals
  rules
  ignored := ignored.filterMap Data.asText?
  table
  reductions :=
    (Reductions.make {} rules (terminals.map Terminal.name)).toOption.getD { rules := [] }
  source
  whole := .ofOrdered count (settings terminals ignored [] {}) terminals
  wholeKeeping := .ofOrdered (count + 1)
    { settings terminals ignored [] {} with ignored := [], strays := [] } terminals

/-- Whether the terminals, the start symbol and the rules of a grammar are all right. -/
def isSound (terminals : List Terminal) (rules : List Rule) (table : Table State)
    (ignored : List Data) : Bool :=
  (Lexer.check (settings terminals ignored [] {})).toOption.isSome &&
    (checkStart table (.text "start")).toOption.isSome &&
      (Reductions.make {} rules (terminals.map Terminal.name)).toOption.isSome

variable {terminals : List Terminal} {rules : List Rule} {table : Table State}
  {ignored : List Data} {count : Nat}

theorem check_of_isSound (sound : isSound terminals rules table ignored = true) :
    Lexer.check (settings terminals ignored [] {}) = .ok () := by
  simp only [isSound, Bool.and_eq_true] at sound
  exact (exists_of_isSome sound.1.1).choose_spec

/-- Whether options are the default ones but for the lexer and the post-lexer. -/
structure Usual (options : Options) : Prop where
  starts : options.starts = [.text "start"]
  transformer : options.transformer = .ok none
  callbacks : options.callbacks = .ok []
  flags : options.flags = .int 0
  growth : growth options none = {}

theorem Usual.flagsFor {options : Options} (usual : Usual options) :
    flagsFor terminals options = .ok {} := by
  unfold Parser.flagsFor Options.regexFlags
  rw [usual.flags]
  split <;> rfl

/-- A parser whose terminals are in order is made. -/
theorem ofSorted_made {options : Options} {source : TokenSource} (usual : Usual options)
    (sound : isSound terminals rules table ignored = true)
    (sorted : Lexer.inOrder terminals = .ok terminals)
    (sourced : makeSource options (settings terminals ignored [] {}) table 0 = .ok
      (source, count)) :
    ∃ after, (make terminals rules table ignored options).Yields {}
      (ofSorted terminals rules table ignored options source count) after := by
  have checked := check_of_isSound sound
  have keeping : Lexer.check
      { settings terminals ignored [] {} with ignored := [], strays := [] } = .ok () := by
    rcases bind_eq_ok.mp checked with ⟨validated, valid, _⟩
    exact bind_eq_ok.mpr ⟨validated, valid, rfl⟩
  simp only [isSound, Bool.and_eq_true] at sound
  rcases sound with ⟨⟨_, starts⟩, reductions⟩
  rcases exists_of_isSome starts with ⟨⟨⟩, starts⟩
  rcases exists_of_isSome reductions with ⟨reductions, reduced⟩
  apply @make_of_assemble _ _ _ _ _ _ _ (count + 2)
  simp only [assemble, bind_eq_ok, usual.starts, usual.transformer, usual.callbacks]
  refine ⟨⟨⟩, bind_eq_ok.mpr ⟨⟨⟩, starts, rfl⟩, none, rfl, reductions,
    usual.growth ▸ reduced, [], rfl, {}, usual.flagsFor, _, sourced, _,
    Lexer.make_eq_ok.mpr ⟨checked, _, sorted, rfl⟩, _,
    Lexer.make_eq_ok.mpr ⟨keeping, _, sorted, rfl⟩, ?_⟩
  simp only [ofSorted, reduced, Except.toOption, Option.getD_some, Nat.zero_add]
  rfl

/-- The source with a basic lexer of terminals that are in order. -/
def sourceOf (settings : LexerSettings) (number : Nat) (postLexer : Option PostLexer := none) :
    TokenSource :=
  { reader := .basic (.ofOrdered number settings settings.terminals), postLexer }

theorem sourceOf_made {settings : LexerSettings} {number : Nat} {postLexer : Option PostLexer}
    (checked : Lexer.check settings = .ok ())
    (sorted : Lexer.inOrder settings.terminals = .ok settings.terminals) :
    makeSource { contextual := false, postLexer := .ok postLexer } settings table number =
      .ok (sourceOf settings number postLexer, 1) := by
  have made : Lexer.make number settings = .ok (.ofOrdered number settings settings.terminals) :=
    Lexer.make_eq_ok.mpr ⟨checked, _, sorted, rfl⟩
  simp only [makeSource, Bool.false_eq_true, if_false, made]
  rfl

/-- The parser of a grammar whose terminals are in order, with a basic lexer. -/
def basicOf (terminals : List Terminal) (rules : List Rule) (table : Table State)
    (ignored : List Data) (postLexer : Option PostLexer := none) : Parser :=
  ofSorted terminals rules table ignored { contextual := false, postLexer := .ok postLexer }
    (sourceOf (settings terminals ignored [] {}) 0 postLexer) 1

theorem basicOf_made {postLexer : Option PostLexer}
    (sound : isSound terminals rules table ignored = true)
    (sorted : Lexer.inOrder terminals = .ok terminals) :
    ∃ after, (make terminals rules table ignored
      { contextual := false, postLexer := .ok postLexer }).Yields {}
        (basicOf terminals rules table ignored postLexer) after :=
  ofSorted_made ⟨rfl, rfl, rfl, rfl, rfl⟩ sound sorted
    (sourceOf_made (check_of_isSound sound) sorted)

/-- The parser of a grammar whose terminals are in order, with contextual lexers. -/
def contextualOf (terminals : List Terminal) (rules : List Rule) (table : Table State)
    (ignored : List Data) (lexer : ContextualLexer) (count : Nat) : Parser :=
  ofSorted terminals rules table ignored { contextual := true } { reader := .contextual lexer }
    (count + 1)

theorem contextualOf_made {lexer : ContextualLexer}
    (sound : isSound terminals rules table ignored = true)
    (sorted : Lexer.inOrder terminals = .ok terminals)
    (made : ContextualLexer.make 0 (settings terminals ignored [] {})
      (table.rows.map fun entry => (entry.1, entry.2.map (·.1))) [] = .ok (lexer, count)) :
    ∃ after, (make terminals rules table ignored { contextual := true }).Yields {}
      (contextualOf terminals rules table ignored lexer count) after := by
  refine ofSorted_made ⟨rfl, rfl, rfl, rfl, rfl⟩ sound sorted ?_
  simp only [makeSource, if_true]
  exact bind_eq_ok.mpr ⟨_, rfl, bind_eq_ok.mpr ⟨_, made, rfl⟩⟩

end Parser

end Lalr
