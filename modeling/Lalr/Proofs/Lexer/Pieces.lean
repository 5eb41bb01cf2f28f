import Lalr.Proofs.Lexer.Progress

/-!
# The pieces of a text

A lexer cuts a text into pieces, each of which one of its terminals has matched. What it makes of
the pieces, which of them it ignores and which callbacks hear of them, has no bearing on where they
are cut. If the cutting comes to an end, each piece has taken up some of the text.
-/

namespace Lalr

/-- A piece of a text: the name of the terminal that has matched, and the token that comes of it. -/
structure Lexeme where
  name : String
  token : Token

namespace Lexer

variable {lexer : Lexer} {vocabulary : Vocabulary} {text : Array Char}
  {counter last last' : LineCounter} {pieces pieces' : List Lexeme}

/-- The pieces that the scanner of a vocabulary cuts off a text one after another, from one position
to another. It does not matter which of them are ignored. -/
inductive Cuts (lexer : Lexer) (vocabulary : Vocabulary) (text : Array Char) :
    LineCounter → List Lexeme → LineCounter → Prop
  | nothing (counter : LineCounter) : Cuts lexer vocabulary text counter [] counter
  | piece {counter last : LineCounter} {stop : Nat} {name : String} {pieces : List Lexeme}
      (here : counter.position < text.size)
      (found : vocabulary.scanner.matchAt text counter.position = some (stop, name))
      (cuts : Cuts lexer vocabulary text
        (lexer.cut ⟨text, counter, none⟩ stop name).2.counter pieces
        last) :
      Cuts lexer vocabulary text counter
        (⟨name, (lexer.found vocabulary ⟨text, counter, none⟩ stop name).1⟩ :: pieces) last

/-- Whether no more pieces can be cut off at a position: it is the end of the text, or nothing
matches there. -/
def Stops (vocabulary : Vocabulary) (text : Array Char) (counter : LineCounter) : Prop :=
  text.size ≤ counter.position ∨ vocabulary.scanner.matchAt text counter.position = none

/-- Where a piece can be cut off, the scanner does not stop. -/
theorem not_stops {stop : Nat} {name : String} (here : counter.position < text.size)
    (found : vocabulary.scanner.matchAt text counter.position = some (stop, name)) :
    ¬Stops vocabulary text counter := by
  rintro (ended | none)
  · omega
  · rw [found] at none
    cases none

theorem Cuts.append {middle : LineCounter}
    (first : lexer.Cuts vocabulary text counter pieces middle)
    (rest : lexer.Cuts vocabulary text middle pieces' last) :
    lexer.Cuts vocabulary text counter (pieces ++ pieces') last := by
  induction first with
  | nothing => exact rest
  | piece here found _ ih => exact .piece here found (ih rest)

/-- A text is cut into pieces up to where the scanner stops in one way only. -/
theorem Cuts.unique (cuts : lexer.Cuts vocabulary text counter pieces last)
    (stops : Stops vocabulary text last) (cuts' : lexer.Cuts vocabulary text counter pieces' last')
    (stops' : Stops vocabulary text last') : pieces = pieces' ∧ last = last' := by
  induction cuts generalizing pieces' with
  | nothing =>
      cases cuts' with
      | nothing => exact ⟨rfl, rfl⟩
      | piece here found _ => exact absurd stops (not_stops here found)
  | piece here found _ ih =>
      cases cuts' with
      | nothing => exact absurd stops' (not_stops here found)
      | piece _ found' rest =>
          cases found.symm.trans found'
          rcases ih stops rest with ⟨rfl, rfl⟩
          exact ⟨rfl, rfl⟩

/-- From a position where the scanner finds nothing but the empty text it does not get to where it
stops. -/
theorem Cuts.not_stops_of_stays {stop position : Nat} {name : String}
    (cuts : lexer.Cuts vocabulary text counter pieces last) (here : position < text.size)
    (found : vocabulary.scanner.matchAt text position = some (stop, name))
    (stays : stop ≤ position) (same : counter.position = position) :
    ¬Stops vocabulary text last := by
  induction cuts with
  | nothing =>
      rw [← same] at here found
      exact not_stops here found
  | piece _ found' _ ih =>
      rw [same, found] at found'
      cases found'
      apply ih
      rw [position_cut]
      dsimp only
      omega

/-- Each piece on the way to where the scanner stops takes up some of the text. -/
theorem Cuts.position_lt {stop : Nat} {name : String} (here : counter.position < text.size)
    (found : vocabulary.scanner.matchAt text counter.position = some (stop, name))
    (cuts : lexer.Cuts vocabulary text
      (lexer.cut ⟨text, counter, none⟩ stop name).2.counter pieces
      last) (stops : Stops vocabulary text last) :
    counter.position < (lexer.cut ⟨text, counter, none⟩ stop name).2.counter.position ∧
      (lexer.cut ⟨text, counter, none⟩ stop name).2.counter.position ≤ text.size := by
  have moved := position_cut lexer ⟨text, counter, none⟩ stop name
  dsimp only at moved
  refine ⟨?_, by omega⟩
  by_contra stays
  have short : stop ≤ counter.position := by omega
  exact cuts.not_stops_of_stays here found short (by omega) stops

/-- The pieces up to where the scanner stops are in different places. -/
theorem Cuts.nodup (cuts : lexer.Cuts vocabulary text counter pieces last)
    (stops : Stops vocabulary text last) :
    (∀ piece ∈ pieces, ∃ start, piece.token.place.startPos = some start ∧
      counter.position ≤ start) ∧
      (pieces.map Lexeme.token).Nodup := by
  induction cuts with
  | nothing => simp
  | @piece counter last stop name pieces here found cuts ih =>
      rcases cuts.position_lt here found stops with ⟨forward, inside⟩
      rcases ih stops with ⟨later, distinct⟩
      refine ⟨?_, ?_⟩
      · rw [List.forall_mem_cons]
        refine ⟨⟨counter.position, rfl, Nat.le_refl _⟩, ?_⟩
        intro piece member
        rcases later piece member with ⟨start, starts, le⟩
        exact ⟨start, starts, by omega⟩
      · rw [List.map_cons, List.nodup_cons]
        refine ⟨?_, distinct⟩
        intro again
        rcases List.mem_map.mp again with ⟨piece, member, same⟩
        rcases later piece member with ⟨start, starts, le⟩
        rw [same] at starts
        have here' : counter.position = start := Option.some.inj starts
        omega

/-- The token of a piece is called as the vocabulary says. -/
theorem Cuts.kind (cuts : lexer.Cuts vocabulary text counter pieces last) :
    ∀ piece ∈ pieces, piece.token.kind = vocabulary.kindOf piece.name piece.token.text := by
  induction cuts with
  | nothing => simp
  | piece _ _ _ ih =>
      rw [List.forall_mem_cons]
      exact ⟨rfl, ih⟩

/-- What there is to be said about how a list ends, if `last` is the position that has been reached:
at the end of the text nothing has gone wrong, and elsewhere the lexer is stuck. -/
def EndsAt (lexer : Lexer) (vocabulary : Vocabulary) (text : Array Char) (last : LineCounter)
    (failure : Option Failure) : Prop :=
  (failure = none ∧ text.size ≤ last.position) ∨
    ((∃ token, failure = some (lexer.stuck vocabulary ⟨text, last, token⟩ none)) ∧
      last.position < text.size ∧ vocabulary.scanner.matchAt text last.position = none)

theorem EndsAt.stops {failure : Option Failure}
    (ends : lexer.EndsAt vocabulary text last failure) : Stops vocabulary text last := by
  rcases ends with ⟨_, ended⟩ | ⟨_, _, none⟩
  · exact .inl ended
  · exact .inr none

end Lexer

/-- Whether a list of tokens is complete: it has neither been cut short nor run out of its
bounds. -/
def Drained.Complete (drained : Drained) : Prop :=
  drained.cut = false ∧ drained.failure ≠ some (.fault .brokenPromise)

end Lalr
