import Lalr.LineCounter
import Mathlib.Data.List.Basic

/-!
# Counting lines truly

A line counter that is fed a text piece by piece knows the line and the column of the
position that it has come to, as long as no piece that holds a line break is taken to hold
none. Feeding it one piece after another is feeding it both at once, so it does not matter
how a text is cut. This is so for any single character that ends lines.
-/

namespace Lalr

/-- The line of the position that a text ends at. -/
def lineAfter (before : List Char) : Nat := 1 + before.count '\n'

/-- Where the last line of a text begins: just after its last line break, or where the text
begins. -/
def lastLineStart (before : List Char) : Nat :=
  before.length - (before.reverse.takeWhile (· != '\n')).length

/-- The column of the position that a text ends at. -/
def columnAfter (before : List Char) : Nat := before.length - lastLineStart before + 1

theorem lastLineStart_le (before : List Char) : lastLineStart before ≤ before.length :=
  Nat.sub_le _ _

theorem lastLineStart_append_of_notMem {before piece : List Char} (unbroken : '\n' ∉ piece) :
    lastLineStart (before ++ piece) = lastLineStart before := by
  have all : ∀ c ∈ piece.reverse, (c != '\n') = true := by
    intro c member
    rw [bne_iff_ne]
    rintro rfl
    exact unbroken (List.mem_reverse.mp member)
  rw [lastLineStart, List.reverse_append, List.takeWhile_append_of_pos all, List.length_append,
    List.length_append, List.length_reverse, lastLineStart]
  omega

theorem lastLineStart_append_break {before piece : List Char} (unbroken : '\n' ∉ piece) :
    lastLineStart (before ++ '\n' :: piece) = before.length + 1 := by
  rw [List.append_cons, lastLineStart_append_of_notMem unbroken]
  simp [lastLineStart]

/-! ## Occurrences of one character -/

theorem countOccurrences_singleton (newline : Char) (chars : List Char) :
    countOccurrences [newline] 0 chars = chars.count newline := by
  induction chars with
  | nil => rfl
  | cons c rest ih =>
      rw [countOccurrences, List.count_cons]
      by_cases same : c = newline
      · simp [same, ih]
      · simp [same, ih, Ne.symm same]

theorem lastOccurrence?_of_notMem {newline : Char} {offset : Nat} {chars : List Char}
    (unbroken : newline ∉ chars) : lastOccurrence? [newline] offset chars = none := by
  induction chars generalizing offset with
  | nil => rfl
  | cons c rest ih =>
      rw [List.mem_cons, not_or] at unbroken
      rw [lastOccurrence?, ih unbroken.2]
      simp [unbroken.1]

theorem lastOccurrence?_append_cons {newline : Char} {offset : Nat} {before after : List Char}
    (unbroken : newline ∉ after) :
    lastOccurrence? [newline] offset
      (before ++ newline :: after) = some (offset + before.length) := by
  induction before generalizing offset with
  | nil => simp [lastOccurrence?, lastOccurrence?_of_notMem unbroken]
  | cons c rest ih =>
      rw [List.cons_append, lastOccurrence?, ih, List.length_cons]
      simp only [Option.some.injEq]
      omega

theorem exists_last_of_mem {newline : Char} {chars : List Char} (member : newline ∈ chars) :
    ∃ before after, chars = before ++ newline :: after ∧ newline ∉ after := by
  rcases List.eq_append_cons_of_mem (List.mem_reverse.mpr member) with
    ⟨after, before, reversed, unbroken⟩
  refine ⟨before.reverse, after.reverse, ?_, ?_⟩
  · rw [List.reverse_eq_iff] at reversed
    simpa using reversed
  · simpa using unbroken

namespace LineCounter

attribute [ext] LineCounter

variable {counter : LineCounter} {newline : Char} {piece : String}

/-! ## One piece -/

theorem feed_position (counter : LineCounter) (piece : String) (mayBreak : Bool) :
    (counter.feed piece mayBreak).position = counter.position + piece.toList.length := rfl

theorem feed_column (counter : LineCounter) (piece : String) (mayBreak : Bool) :
    (counter.feed piece mayBreak).column =
      (counter.feed piece mayBreak).position + 1 - (counter.feed piece mayBreak).lineStart := rfl

theorem feed_line (single : counter.newline = .singleton newline) (piece : String) :
    (counter.feed piece).line = counter.line + piece.toList.count newline := by
  simp [feed, single, countOccurrences_singleton]

theorem feed_lineStart_of_notMem (single : counter.newline = .singleton newline)
    (unbroken : newline ∉ piece.toList) : (counter.feed piece).lineStart = counter.lineStart := by
  simp [feed, single, countOccurrences_singleton, List.count_eq_zero_of_not_mem unbroken]

theorem feed_lineStart_of_last (single : counter.newline = .singleton newline)
    {before after : List Char} (cut : piece.toList = before ++ newline :: after)
    (unbroken : newline ∉ after) :
    (counter.feed piece).lineStart = counter.position + before.length + 1 := by
  simp [feed, single, countOccurrences_singleton, cut, lastOccurrence?_append_cons unbroken]

/-- A line never begins after the position of the counter. -/
theorem feed_lineStart_le (single : counter.newline = .singleton newline)
    (inside : counter.lineStart ≤ counter.position) :
    (counter.feed piece).lineStart ≤ (counter.feed piece).position := by
  rw [feed_position]
  by_cases broken : newline ∈ piece.toList
  · rcases exists_last_of_mem broken with ⟨before, after, cut, unbroken⟩
    rw [feed_lineStart_of_last single cut unbroken, cut, List.length_append, List.length_cons]
    omega
  · rw [feed_lineStart_of_notMem single broken]
    omega

/-- A piece without a line break may be taken to hold none. -/
theorem feed_of_notMem (single : counter.newline = .singleton newline) {mayBreak : Bool}
    (heeds : mayBreak = false → newline ∉ piece.toList) :
    counter.feed piece mayBreak = counter.feed piece := by
  cases mayBreak with
  | true => rfl
  | false =>
      have none : countOccurrences [newline] 0 piece.toList = 0 := by
        rw [countOccurrences_singleton, List.count_eq_zero_of_not_mem (heeds rfl)]
      simp [feed, single, none]

/-! ## Piece by piece -/

/-- The column of a counter is counted from where its line begins. -/
def Settled (counter : LineCounter) : Prop :=
  counter.column = counter.position + 1 - counter.lineStart

theorem settled_feed (counter : LineCounter) (piece : String) (mayBreak : Bool) :
    (counter.feed piece mayBreak).Settled := feed_column counter piece mayBreak

theorem feed_empty (single : counter.newline = .singleton newline) (settled : counter.Settled) :
    counter.feed "" = counter := by
  have lineStart : (counter.feed "").lineStart = counter.lineStart :=
    feed_lineStart_of_notMem single (by simp)
  apply LineCounter.ext
  · rfl
  · simp [feed_position]
  · simp [feed_line single]
  · rw [feed_column, lineStart]
    exact settled.symm
  · exact lineStart

/-- Where a line begins after two pieces. The last line break of both is the last one of the second
piece, or that of the first if the second has none. -/
theorem feed_feed_lineStart (single : counter.newline = .singleton newline)
    (first second : String) :
    ((counter.feed first).feed second).lineStart = (counter.feed (first ++ second)).lineStart := by
  have single' : (counter.feed first).newline = .singleton newline := single
  by_cases later : newline ∈ second.toList
  · rcases exists_last_of_mem later with ⟨before, after, cut, unbroken⟩
    have cut' : (first ++ second).toList = (first.toList ++ before) ++ newline :: after := by
      simp [cut]
    rw [feed_lineStart_of_last single' cut unbroken, feed_position,
      feed_lineStart_of_last single cut' unbroken, List.length_append]
    omega
  rw [feed_lineStart_of_notMem single' later]
  by_cases earlier : newline ∈ first.toList
  · rcases exists_last_of_mem earlier with ⟨before, after, cut, unbroken⟩
    have cut' : (first ++ second).toList = before ++ newline :: (after ++ second.toList) := by
      simp [cut]
    have unbroken' : newline ∉ after ++ second.toList := by simp [unbroken, later]
    rw [feed_lineStart_of_last single cut unbroken, feed_lineStart_of_last single cut' unbroken']
  · have neither : newline ∉ (first ++ second).toList := by simp [earlier, later]
    rw [feed_lineStart_of_notMem single earlier, feed_lineStart_of_notMem single neither]

/-- Two pieces that are fed one after the other count as what they are together. -/
theorem feed_append (single : counter.newline = .singleton newline) (first second : String) :
    (counter.feed first).feed second = counter.feed (first ++ second) := by
  have single' : (counter.feed first).newline = .singleton newline := single
  have position : ((counter.feed first).feed second).position =
      (counter.feed (first ++ second)).position := by
    simp [feed_position, Nat.add_assoc]
  have lineStart := feed_feed_lineStart single first second
  apply LineCounter.ext
  · rfl
  · exact position
  · simp [feed_line single, feed_line single', Nat.add_assoc]
  · rw [feed_column, feed_column, position, lineStart]
  · exact lineStart

/-- The counter after several pieces of text, each with whether it may hold a line break. -/
def feedAll (counter : LineCounter) (pieces : List (String × Bool)) : LineCounter :=
  pieces.foldl (fun counter (piece, mayBreak) => counter.feed piece mayBreak) counter

/-- Pieces that are fed one after the other count as the text that they make up. -/
theorem feedAll_eq_feed (single : counter.newline = .singleton newline) (settled : counter.Settled)
    {pieces : List (String × Bool)}
    (heeds : ∀ piece ∈ pieces, piece.2 = false → newline ∉ piece.1.toList) :
    counter.feedAll pieces = counter.feed (String.join (pieces.map Prod.fst)) := by
  induction pieces generalizing counter with
  | nil => exact (feed_empty single settled).symm
  | cons first rest ih =>
      rw [List.forall_mem_cons] at heeds
      calc
        counter.feedAll (first :: rest) = (counter.feed first.1 first.2).feedAll rest := rfl
        _ = (counter.feed first.1 first.2).feed (String.join (rest.map Prod.fst)) :=
          ih single (settled_feed counter first.1 first.2) heeds.2
        _ = (counter.feed first.1).feed (String.join (rest.map Prod.fst)) := by
          rw [feed_of_notMem single heeds.1]
        _ = counter.feed (String.join ((first :: rest).map Prod.fst)) := by
          rw [feed_append single, List.map_cons, String.join_cons]

/-- A new line counter that is fed a text in pieces has come to the end of the text, however the
text is cut: it counts one line more than there are line breaks, its line begins just after the last
of them, and its column is counted from there. -/
theorem counts_in_pieces (newline : Char) (text : String) (pieces : List (String × Bool))
    (cut : String.join (pieces.map Prod.fst) = text)
    (heeds : ∀ piece ∈ pieces, piece.2 = false → newline ∉ piece.1.toList) :
    let start : LineCounter := { newline := .singleton newline }
    let counter := start.feedAll pieces
    counter = start.feed text ∧
      counter.position = text.length ∧
      counter.line = 1 + text.toList.count newline ∧
      (newline ∉ text.toList → counter.lineStart = 0) ∧
      (∀ before after, text.toList = before ++ newline :: after → newline ∉ after →
        counter.lineStart = before.length + 1) ∧
      (counter.column : Int) = counter.position - counter.lineStart + 1 := by
  intro start counter
  have whole : counter = start.feed text := by
    have settled : start.Settled := rfl
    rw [← cut]
    exact feedAll_eq_feed rfl settled heeds
  have position : counter.position = text.length := by
    rw [whole, feed_position, String.length_toList]
    exact Nat.zero_add text.length
  have first (unbroken : newline ∉ text.toList) : counter.lineStart = 0 := by
    rw [whole, feed_lineStart_of_notMem rfl unbroken]
  have later (before after : List Char) (cut : text.toList = before ++ newline :: after)
      (unbroken : newline ∉ after) : counter.lineStart = before.length + 1 := by
    rw [whole, feed_lineStart_of_last rfl cut unbroken]
    simp [start]
  have inside : counter.lineStart ≤ counter.position := by
    rw [whole]
    exact feed_lineStart_le rfl (Nat.le_refl 0)
  refine ⟨whole, position, ?_, first, later, ?_⟩
  · rw [whole, feed_line rfl]
  · have column : counter.column = counter.position + 1 - counter.lineStart := by
      rw [whole, feed_column]
    omega

theorem counts_in_pieces_accented :
    let pieces := [("é\n", true), ("", false), ("ab", false), ("\n\nc", true)]
    let counter := ({} : LineCounter).feedAll pieces
    String.join (pieces.map Prod.fst) = "é\nab\n\nc" ∧
      (∀ piece ∈ pieces, piece.2 = false → '\n' ∉ piece.1.toList) ∧
      counter.position = 7 ∧ counter.line = 4 ∧ counter.lineStart = 6 ∧
        counter.column = 2 := by
  intro pieces counter
  have cut : String.join (pieces.map Prod.fst) = "é\nab\n\nc" := by decide
  have heeds : ∀ piece ∈ pieces, piece.2 = false → '\n' ∉ piece.1.toList := by decide
  rcases counts_in_pieces '\n' _ pieces cut heeds with
    ⟨-, position, line, -, lineStart, column⟩
  have lineStart : counter.lineStart = 6 :=
    lineStart "é\nab\n".toList ['c'] (by decide) (by decide)
  have position : counter.position = 7 := position
  refine ⟨cut, heeds, position, line, lineStart, ?_⟩
  change (counter.column : Int) = counter.position - counter.lineStart + 1 at column
  omega

/-- A line break of two characters can be cut in two, and then neither piece holds it. -/
example :
    ({ newline := "\r\n" } : LineCounter).feedAll [("a\r", true), ("\nb", true)] ≠
      ({ newline := "\r\n" } : LineCounter).feed "a\r\nb" := by
  decide

/-! ## What a counter knows -/

/-- Whether a line counter knows the position that a text ends at. -/
structure Tracks (counter : LineCounter) (before : List Char) : Prop where
  newline : counter.newline = "\n"
  position : counter.position = before.length
  line : counter.line = lineAfter before
  column : counter.column = columnAfter before
  lineStart : counter.lineStart = lastLineStart before

theorem tracks_start : Tracks {} [] := ⟨rfl, rfl, rfl, rfl, rfl⟩

/-- A piece that is fed to a line counter is tracked, if it is not taken to hold no line break while
it holds one. -/
theorem Tracks.feed {counter : LineCounter} {before : List Char} (tracks : counter.Tracks before)
    {piece : String} {mayBreak : Bool} (heeds : mayBreak = false → '\n' ∉ piece.toList) :
    (counter.feed piece mayBreak).Tracks (before ++ piece.toList) := by
  have single : counter.newline = .singleton '\n' := tracks.newline
  have position : (counter.feed piece).position = (before ++ piece.toList).length := by
    rw [feed_position, tracks.position, List.length_append]
  have line : (counter.feed piece).line = lineAfter (before ++ piece.toList) := by
    rw [feed_line single, tracks.line, lineAfter, lineAfter, List.count_append, Nat.add_assoc]
  have lineStart : (counter.feed piece).lineStart = lastLineStart (before ++ piece.toList) := by
    by_cases broken : '\n' ∈ piece.toList
    · rcases exists_last_of_mem broken with ⟨first, rest, cut, unbroken⟩
      rw [feed_lineStart_of_last single cut unbroken, cut, ← List.append_assoc,
        lastLineStart_append_break unbroken, tracks.position, List.length_append]
    · rw [feed_lineStart_of_notMem single broken, tracks.lineStart,
        lastLineStart_append_of_notMem broken]
  have column : (counter.feed piece).column = columnAfter (before ++ piece.toList) := by
    have inside := lastLineStart_le (before ++ piece.toList)
    rw [feed_column, position, lineStart, columnAfter]
    omega
  rw [feed_of_notMem single heeds]
  exact ⟨tracks.newline, position, line, column, lineStart⟩

end LineCounter

end Lalr
