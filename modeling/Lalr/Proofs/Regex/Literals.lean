import Lalr.Lexer.Pattern
import Lalr.Proofs.Lexer.Scanning
import Lalr.Proofs.Regex.Consumption

/-!
# Literals as regular expressions

The regular expression of a literal is the row of its characters, inside a group for each
of its flags. Such a row steps over as many characters of a text as it has itself, one by
one, wherever it is tried. A text that it matches as a whole it therefore matches inside
any other text as well.
-/

namespace Lalr.Regex

/-! ## Rows of characters -/

/-- Whether an expression is a row of characters. Flags may change on the way. -/
def isRow : Regex → Bool
  | .empty | .char _ => true
  | .sequence first second => first.isRow && second.isRow
  | .scoped _ body => body.isRow
  | _ => false

/-- Whether the characters of a text from a position on pass some tests one by one. -/
def passes (text : Array Char) : List (Char → Bool) → Nat → Bool
  | [], _ => true
  | test :: tests, position => text[position]?.any test && passes text tests (position + 1)

theorem passes_append (text : Array Char) (tests more : List (Char → Bool)) :
    ∀ position, passes text (tests ++ more) position =
      (passes text tests position && passes text more (position + tests.length)) := by
  induction tests with
  | nil => simp [passes]
  | cons test tests ih =>
      intro position
      simp [passes, ih, Bool.and_assoc, Nat.add_assoc, Nat.add_comm 1]

/-- What passes inside a part of a text passes at its place in the text. -/
theorem passes_of_extract {text : Array Char} {start stop : Nat} {tests : List (Char → Bool)} :
    ∀ {position : Nat}, passes (text.extract start stop) tests position = true →
      passes text tests (start + position) = true := by
  induction tests with
  | nil => exact fun _ => rfl
  | cons test tests ih =>
      intro position passed
      simp only [passes, Bool.and_eq_true] at passed ⊢
      rcases passed with ⟨here, later⟩
      refine ⟨?_, ih later⟩
      cases read : (text.extract start stop)[position]? with
      | none => simp [read] at here
      | some c =>
          have same : text[start + position]? = some c := by
            rw [Array.getElem?_extract] at read
            split at read
            · exact read
            · cases read
          simpa [same, read] using here

/-- What passes at a place in a text passes in the part of the text that it takes up. -/
theorem passes_extract {text : Array Char} {start stop : Nat} {tests : List (Char → Bool)} :
    ∀ {position : Nat}, start + position + tests.length ≤ stop →
      passes text tests (start + position) = true →
      passes (text.extract start stop) tests position = true := by
  induction tests with
  | nil => exact fun _ _ => rfl
  | cons test tests ih =>
      intro position within passed
      simp only [passes, List.length_cons, Bool.and_eq_true] at passed within ⊢
      refine ⟨?_, ih (by omega) passed.2⟩
      cases read : text[start + position]? with
      | none => simp [read] at passed
      | some c =>
          have here : start + position < text.size := by
            by_contra beyond
            simp [Array.getElem?_eq_none (Nat.not_lt.mp beyond)] at read
          rw [Array.getElem?_extract, if_pos (by omega), read]
          simpa [read] using passed.1

theorem length_le_of_passes {text : Array Char} {tests : List (Char → Bool)} :
    ∀ {position : Nat}, passes text tests position = true →
      tests.length ≤ text.size - position := by
  induction tests with
  | nil => exact fun _ => Nat.zero_le _
  | cons test tests ih =>
      intro position passed
      simp only [passes, List.length_cons, Bool.and_eq_true] at passed ⊢
      have later := ih passed.2
      have here : position < text.size := by
        by_contra beyond
        simp [Array.getElem?_eq_none (Nat.not_lt.mp beyond)] at passed
      omega

/-- A row tests as many characters as it has and steps over them. -/
theorem matching_of_isRow (regex : Regex) :
    ∀ flags, regex.isRow = true → ∃ tests : List (Char → Bool), ∀ text point next,
      regex.matching text flags point next =
        if passes text tests point.position then
          next { point with position := point.position + tests.length }
        else none := by
  induction regex with
  | empty => exact fun _ _ => ⟨[], fun _ _ _ => rfl⟩
  | char c =>
      intro flags _
      refine ⟨[flags.sameChar c], fun text point next => ?_⟩
      simp only [matching, matchChar, passes, Bool.and_true]
      cases text[point.position]? <;> rfl
  | sequence first second ih ih' =>
      intro flags row
      rcases Bool.and_eq_true_iff.mp row with ⟨row, row'⟩
      rcases ih flags row with ⟨tests, steps⟩
      rcases ih' flags row' with ⟨tests', steps'⟩
      refine ⟨tests ++ tests', fun text point next => ?_⟩
      simp only [matching, steps, steps', passes_append, List.length_append, Nat.add_assoc]
      cases passes text tests point.position <;> rfl
  | «scoped» change body ih => exact fun flags row => ih (change.apply flags) row
  | «class» | anyChar | anchor | choice | group | atomic | repetition | backReference | look |
      conditional => exact fun _ row => absurd row (by simp [isRow])

/-- A row that matches the whole of a part of a text matches there in the text. -/
theorem matchAt_of_fullMatchAt {compiled : CompiledRegex} (row : compiled.regex.isRow = true)
    {text : Array Char} {start stop : Nat} {point : MatchPoint}
    (matched : compiled.fullMatchAt (text.extract start stop) 0 = some point) :
    compiled.matchAt text start = some { position := start + (text.extract start stop).size } := by
  rcases matching_of_isRow compiled.regex compiled.flags row with ⟨tests, steps⟩
  simp only [CompiledRegex.fullMatchAt, steps, Nat.zero_add] at matched
  split at matched
  next passed =>
    split at matched
    next whole =>
      have here := passes_of_extract passed
      simp only [Nat.add_zero] at here
      simp only [beq_iff_eq] at whole
      simp only [CompiledRegex.matchAt, steps, here, if_true, whole]
    next => cases matched
  next => cases matched

/-- A row that matches in a text matches the whole of what it takes up there. -/
theorem fullMatchAt_of_matchAt {compiled : CompiledRegex} (row : compiled.regex.isRow = true)
    {text : Array Char} {start : Nat} {point : MatchPoint}
    (matched : compiled.matchAt text start = some point) :
    ∃ point', compiled.fullMatchAt (text.extract start point.position) 0 = some point' := by
  rcases matching_of_isRow compiled.regex compiled.flags row with ⟨tests, steps⟩
  simp only [CompiledRegex.matchAt, steps] at matched
  split at matched
  next passed =>
    cases matched
    have fits := length_le_of_passes passed
    have size : (text.extract start (start + tests.length)).size = tests.length := by
      rw [Array.size_extract]
      omega
    have inside : passes (text.extract start (start + tests.length)) tests 0 = true :=
      passes_extract (Nat.le_refl _) passed
    simp [CompiledRegex.fullMatchAt, steps, inside, size]
  next => cases matched

/-! ## Reading literals -/

/-- Whether a reader comes to a result, starting from one state and leaving another. -/
def Reading.Reads {α : Type} (reading : Reading α) (before : ReaderState) (value : α)
    (after : ReaderState) : Prop :=
  reading.run before = .ok (value, after)

namespace Reading

variable {α β : Type} {before after : ReaderState} {value : α}

@[simp] theorem reads_pure {given : α} :
    Reads (pure given) before value after ↔ given = value ∧ before = after := by
  constructor
  · intro read
    cases read
    exact ⟨rfl, rfl⟩
  · rintro ⟨rfl, rfl⟩
    rfl

@[simp] theorem not_reads_refuse : ¬Reads (refuse : Reading α) before value after := by
  intro read
  cases read

@[simp] theorem not_reads_throw {fault : RegexFault} :
    ¬Reads (throw fault : Reading α) before value after := by
  intro read
  cases read

@[simp] theorem reads_bind {reading : Reading α} {rest : α → Reading β} {value : β} :
    Reads (reading >>= rest) before value after ↔
      ∃ given between, reading.Reads before given between ∧
        (rest given).Reads between value after := by
  unfold Reads
  rw [StateT.run_bind, bind_eq_ok]
  simp only [Prod.exists]

@[simp] theorem reads_get {state : ReaderState} :
    Reads get before state after ↔ before = state ∧ before = after := by
  constructor
  · intro read
    cases read
    exact ⟨rfl, rfl⟩
  · rintro ⟨rfl, rfl⟩
    rfl

@[simp] theorem reads_peek {piece : Option Piece} :
    Reads peek before piece after ↔ before.rest.head? = piece ∧ before = after := by
  rw [peek, reads_bind]
  simp only [reads_get, reads_pure]
  constructor
  · rintro ⟨_, _, ⟨rfl, rfl⟩, read⟩
    exact read
  · exact fun read => ⟨before, before, ⟨rfl, rfl⟩, read⟩

theorem reads_unique {reading : Reading α} {after' : ReaderState} {value' : α}
    (read : reading.Reads before value after) (read' : reading.Reads before value' after') :
    value = value' ∧ after = after' := by
  have same := read.symm.trans read'
  cases same
  exact ⟨rfl, rfl⟩

/-- A reader goes on from where its first part has got to. -/
theorem reads_bind_of {reading : Reading α} {next : α → Reading β} {given : α}
    {between : ReaderState} {value : β} (read : reading.Reads before given between) :
    (reading >>= next).Reads before value after ↔ (next given).Reads between value after := by
  rw [reads_bind]
  constructor
  · rintro ⟨given', between', read', rest⟩
    rcases reads_unique read read' with ⟨rfl, rfl⟩
    exact rest
  · exact fun rest => ⟨given, between, read, rest⟩

theorem reads_get_self {state : ReaderState} : Reads get state state state := rfl

theorem reads_peek_self {state : ReaderState} : Reads peek state state.rest.head? state := rfl

theorem reads_take_cons {state : ReaderState} {piece : Piece} {rest : List Piece}
    (next : state.rest = piece :: rest) : take.Reads state (some piece) { state with rest } := by
  simp only [take, reads_bind_of reads_get_self, next]
  rfl

end Reading

section Pieces

variable {c : Char} {state : ReaderState} {rest : List Piece}

theorem accept_reads (next : state.rest = .plain c :: rest) :
    (accept c).Reads state true { state with rest } := by
  simp only [accept, Reading.reads_bind_of Reading.reads_get_self, next, beq_self_eq_true, if_true]
  rfl

theorem accept_reads_other (other : state.rest.head? ≠ some (.plain c)) :
    (accept c).Reads state false state := by
  simp only [accept, Reading.reads_bind_of Reading.reads_get_self]
  split
  next d rest next =>
    have different : (c == d) = false := by
      simp only [next, List.head?_cons, ne_eq, Option.some.injEq, Piece.plain.injEq] at other
      simpa using Ne.symm other
    simp [different]
  next => simp

theorem demand_reads (next : state.rest = .plain c :: rest) :
    (demand c).Reads state () { state with rest } :=
  (Reading.reads_bind_of (accept_reads next)).mpr rfl

end Pieces

/-- Whether what is left for a reader ends the branch that it is in. -/
def Closes (rest : List Piece) : Prop :=
  ∀ piece, rest.head? = some piece → piece = .plain ')'

section Items

variable {verbose isFirst : Bool} {items : List Regex} {bound : Nat} {state after : ReaderState}
  {regex : Regex}

/-- What holds of items, and of a sequence if it holds of its parts, holds of the items one after
another. -/
theorem ofItems_induction {holds : Regex → Prop} (none : holds .empty)
    (join : ∀ first second, holds first → holds second → holds (.sequence first second))
    (each : ∀ item ∈ items, holds item) : holds (ofItems items) := by
  unfold ofItems
  generalize Regex.empty = later at none
  induction items generalizing later with
  | nil => exact none
  | cons item items ih =>
      rw [List.forall_mem_cons] at each
      apply ih each.2
      dsimp only
      split
      · exact each.1
      · exact join _ _ each.1 none

theorem isRow_ofItems (rows : ∀ item ∈ items, item.isRow = true) :
    (ofItems items).isRow = true := by
  apply @ofItems_induction _ fun regex => regex.isRow = true
  · rfl
  · intro first second row row'
    simp [isRow, row, row']
  · exact rows

theorem consumes_foldl (items : List Regex) (later : Regex) : (items.foldl (fun later item =>
    match later with
    | .empty => item
    | later => .sequence item later) later).consumes = (items.any consumes || later.consumes) := by
  induction items generalizing later with
  | nil => simp
  | cons item items ih =>
      rw [List.foldl_cons, ih]
      split
      · simp [consumes, Bool.or_comm]
      · simp [consumes, Bool.or_left_comm, Bool.or_assoc]

/-- Items one after another take up text if one of them does. -/
theorem consumes_ofItems : (ofItems items).consumes = items.any consumes := by
  have all := consumes_foldl items .empty
  rwa [consumes, Bool.or_false] at all

/-- At the end of a branch nothing more is read. -/
theorem readItems_closed (closes : Closes state.rest) :
    (readItems verbose isFirst items (bound + 1)).Reads state (ofItems items) state := by
  rw [readItems, Reading.reads_bind_of Reading.reads_peek_self]
  cases here : state.rest.head? with
  | none => rfl
  | some piece =>
      rcases closes piece here with rfl
      rfl

/-- An escaped character that is special stands for itself. -/
theorem readEscape_of_mem {c : Char} (special : c ∈ escapedChars) :
    readEscape c = pure (.char c) := by
  have each : escapedChars.Forall fun c => readEscape c = pure (.char c) := by
    rw [show escapedChars = ['(', ')', '[', ']', '\x7b', '\x7d', '?', '*', '+', '-',
      '|', '^', '$', '\\', '.', '&', '~', '#', ' ', '\t', '\n', '\r', '\x0b', '\x0c'] from rfl]
    repeat' constructor
  exact List.forall_iff_forall_mem.mp each c special

theorem readItems_escaped {c : Char} (special : c ∈ escapedChars) {rest : List Piece}
    (next : state.rest = .escaped c :: rest)
    (read : (readItems verbose isFirst (.char c :: items) bound).Reads { state with rest }
      regex after) :
    (readItems verbose isFirst items (bound + 1)).Reads state regex after := by
  rw [readItems, Reading.reads_bind_of Reading.reads_peek_self, next]
  simp only [List.head?_cons, readEscape_of_mem special, pure_bind]
  exact (Reading.reads_bind_of (Reading.reads_take_cons next)).mpr read

theorem mem_escapedChars_of_isAsciiBlank {c : Char} (blank : Unicode.isAsciiBlank c = true) :
    c ∈ escapedChars := by
  simp only [Unicode.isAsciiBlank, Bool.or_eq_true, beq_iff_eq, Bool.and_eq_true,
    decide_eq_true_eq] at blank
  rcases blank with rfl | ⟨low, high⟩
  · decide
  · rw [← Char.ofNat_toNat c]
    generalize c.toNat = code at low high
    have same : code = 9 ∨ code = 10 ∨ code = 11 ∨ code = 12 ∨ code = 13 := by
      omega
    rcases same with rfl | rfl | rfl | rfl | rfl
    all_goals decide

theorem readItems_plain {c : Char} (usual : c ∉ escapedChars) {rest : List Piece}
    (next : state.rest = .plain c :: rest)
    (read : (readItems verbose isFirst (.char c :: items) bound).Reads { state with rest }
      regex after) :
    (readItems verbose isFirst items (bound + 1)).Reads state regex after := by
  have differs {d : Char} (special : d ∈ escapedChars) : (c == d) = false := by
    simp only [beq_eq_false_iff_ne]
    rintro rfl
    exact usual special
  have blank : Unicode.isAsciiBlank c = false := by
    rw [Bool.eq_false_iff]
    exact mt mem_escapedChars_of_isAsciiBlank usual
  rw [readItems, Reading.reads_bind_of Reading.reads_peek_self, next, List.head?_cons]
  split
  next none => cases none
  next bar =>
    rcases Piece.plain.inj (Option.some.inj bar) with rfl
    exact absurd (by decide) usual
  next bracket =>
    rcases Piece.plain.inj (Option.some.inj bracket) with rfl
    exact absurd (by decide) usual
  next dangling => cases dangling
  next escaped => cases escaped
  next plain =>
    rcases Piece.plain.inj (Option.some.inj plain) with rfl
    rw [Reading.reads_bind_of (Reading.reads_take_cons next)]
    simp only [blank, differs (d := '#') (by decide), differs (d := '[') (by decide),
      differs (d := '.') (by decide), differs (d := '^') (by decide),
      differs (d := '$') (by decide), differs (d := '*') (by decide),
      differs (d := '+') (by decide), differs (d := '?') (by decide),
      differs (d := '\x7b') (by decide), differs (d := '(') (by decide), Bool.and_false,
      Bool.false_eq_true, if_false]
    exact read

end Items

theorem pieces_cons {c : Char} (plain : c ≠ '\\') (rest : List Char) :
    pieces (c :: rest) = .plain c :: pieces rest := by
  rw [pieces]
  · simp [plain]
  · exact fun _ _ same => absurd same plain

/-- The pieces of a literal with its special characters escaped. -/
theorem pieces_escaped (chars rest : List Char) :
    pieces ((chars.flatMap fun c => if escapedChars.contains c then ['\\', c] else [c]) ++ rest) =
      chars.map (fun c => if escapedChars.contains c then .escaped c else .plain c) ++
        pieces rest := by
  induction chars with
  | nil => rfl
  | cons c chars ih =>
      rw [List.flatMap_cons, List.append_assoc, List.map_cons, List.cons_append, ← ih]
      split
      · rfl
      next usual =>
        refine pieces_cons ?_ _
        rintro rfl
        exact usual (by decide)

/-- Whether a text, at the end of a branch, is read as a row of characters, which changes nothing
but what is left. A proper row has some characters. -/
structure ReadsRow (text : List Char) (proper : Bool) : Prop where
  pieces : ∀ tail, pieces (text ++ tail) = pieces text ++ pieces tail
  reads : ∀ tail, Closes (Regex.pieces tail) →
    ∀ (verbose isFirst : Bool) {items : List Regex} {bound : Nat},
      (∀ item ∈ items, item.isRow = true) → 3 * (Regex.pieces text).length < bound →
      ∀ state : ReaderState, ∃ regex, regex.isRow = true ∧
        regex.consumes = (items.any consumes || proper) ∧
        (readItems verbose isFirst items bound).Reads
          { state with rest := Regex.pieces (text ++ tail) } regex
          { state with rest := Regex.pieces tail }

theorem readsRow_literal (literal : String) :
    ReadsRow (escapedLiteral literal).toList !literal.toList.isEmpty := by
  rw [escapedLiteral, String.toList_ofList]
  have all (tail : List Char) := pieces_escaped literal.toList tail
  have own := all []
  rw [List.append_nil, show pieces [] = [] from rfl, List.append_nil] at own
  refine ⟨fun tail => by rw [all, own], ?_⟩
  intro tail closes verbose isFirst items bound rows enough state
  rw [own] at enough
  rw [all]
  generalize literal.toList = chars at enough ⊢
  induction chars generalizing items bound with
  | nil =>
      rcases Nat.exists_eq_succ_of_ne_zero (Nat.ne_zero_of_lt enough) with ⟨bound, rfl⟩
      exact ⟨_, isRow_ofItems rows, by simp [consumes_ofItems], readItems_closed closes⟩
  | cons c chars ih =>
      rw [List.map_cons, List.length_cons] at enough
      rcases Nat.exists_eq_succ_of_ne_zero (Nat.ne_zero_of_lt enough) with ⟨bound, rfl⟩
      rcases @ih (.char c :: items) bound (List.forall_mem_cons.mpr ⟨rfl, rows⟩) (by omega) with
        ⟨regex, row, takes, read⟩
      refine ⟨regex, row, by simp [takes, consumes], ?_⟩
      rw [List.map_cons, List.cons_append]
      by_cases special : c ∈ escapedChars
      · rw [if_pos (List.contains_iff_mem.mpr special)]
        exact readItems_escaped special rfl read
      · rw [if_neg (mt List.contains_iff_mem.mp special)]
        exact readItems_plain special rfl read

variable {proper : Bool}

section Groups

/-- The letters of flags that patterns have. -/
def groupLetters : List Char := ['a', 'i', 'm', 's', 'x']

theorem readFlags_letter {letter : Char} (isFlag : letter ∈ groupLetters) (rest : List Piece)
    (state : ReaderState) : ∃ change, (readFlags letter).Reads
      { state with rest := .plain ':' :: rest } (change, false) { state with rest } := by
  have known : ∃ flag, flag? letter = some flag ∧ letter ≠ '-' ∧ letter ≠ 'u' := by
    simp only [groupLetters, List.mem_cons, List.not_mem_nil, or_false] at isFlag
    rcases isFlag with rfl | rfl | rfl | rfl | rfl <;> exact ⟨_, rfl, by decide, by decide⟩
  rcases known with ⟨flag, found, notMinus, notU⟩
  refine ⟨{ on := ({} : RegexFlags).union flag }, ?_⟩
  simp only [readFlags, Reading.reads_bind_of Reading.reads_get_self, notMinus, notU, beq_iff_eq,
    if_false, readFlagsOn, found, pure_bind, Bool.false_and, Bool.false_eq_true]
  rw [Reading.reads_bind_of (Reading.reads_take_cons rfl)]
  rfl

theorem pieces_bracket (tail : List Char) :
    pieces (')' :: tail) = .plain ')' :: pieces tail := pieces_cons (by decide) tail

theorem closes_bracket (tail : List Char) : Closes (pieces (')' :: tail)) := by
  intro piece here
  rw [pieces_bracket] at here
  cases here
  rfl

/-- A branch that reads as a row is the only branch of its group. -/
theorem readChoice_row {text : List Char} (reads : ReadsRow text proper) {tail : List Char}
    (closes : Closes (pieces tail)) (verbose nested isFirst : Bool) {bound : Nat}
    (enough : 3 * (pieces text).length + 1 < bound) (state : ReaderState) :
    ∃ regex, regex.isRow = true ∧ regex.consumes = proper ∧
      (readChoice verbose nested isFirst bound).Reads
        { state with rest := pieces (text ++ tail) } regex { state with rest := pieces tail } := by
  rcases Nat.exists_eq_succ_of_ne_zero (Nat.ne_zero_of_lt enough) with ⟨bound, rfl⟩
  rcases reads.reads tail closes verbose (!nested && isFirst)
      (List.forall_mem_nil _) (Nat.lt_of_succ_lt_succ enough) state with
    ⟨regex, row, takes, read⟩
  refine ⟨regex, row, takes, ?_⟩
  rw [readChoice, Reading.reads_bind_of read]
  refine (Reading.reads_bind_of (accept_reads_other fun here => ?_)).mpr rfl
  cases closes _ here

/-- What follows the letter of a group for a flag is read up to the bracket that closes it. -/
theorem readScoped_reads {letter : Char} {change : FlagChange} {verbose : Bool} {bound : Nat}
    {body : Regex} {state flagged behind after : ReaderState} (isFirst : Bool) (items : List Regex)
    (flags : (readFlags letter).Reads state (change, false) flagged)
    (inner : (readChoice ((verbose || change.on.verbose) && !change.off.verbose) true true
      bound).Reads flagged body behind)
    (closed : (demand ')').Reads behind () after) :
    Reading.Reads (do
      let (change, isGlobal) ← readFlags letter
      if isGlobal then
        if !isFirst || !items.isEmpty then refuse
        modify fun state =>
          { state with
            flags := state.flags.union change.on
            allScripts := state.allScripts || change.allScripts }
        return ((← get).flags.verbose, items)
      else
        let inner := (verbose || change.on.verbose) && !change.off.verbose
        let body ← readChoice inner true true bound
        demand ')'
        return (verbose, .scoped change body :: items))
      state (verbose, .scoped change body :: items) after :=
  (Reading.reads_bind_of flags).mpr ((Reading.reads_bind_of inner).mpr
    ((Reading.reads_bind_of closed).mpr rfl))

/-- A group for a flag is added as a row if its body reads as a row. -/
theorem readGroup_row {letter : Char} (isFlag : letter ∈ groupLetters) {text : List Char}
    (reads : ReadsRow text proper) (tail : List Char) (verbose isFirst : Bool) (items : List Regex)
    {bound : Nat} (enough : 3 * (pieces text).length + 2 < bound) (state : ReaderState) :
    ∃ item, item.isRow = true ∧ item.consumes = proper ∧
      (readGroup verbose isFirst items bound).Reads
      { state with
        rest := .plain '?' :: .plain letter :: .plain ':' :: pieces (text ++ ')' :: tail) }
      (verbose, item :: items) { state with rest := pieces tail } := by
  rcases Nat.exists_eq_succ_of_ne_zero (Nat.ne_zero_of_lt enough) with ⟨bound, rfl⟩
  rcases readFlags_letter isFlag (pieces (text ++ ')' :: tail)) state with ⟨change, flags⟩
  rcases readChoice_row reads (closes_bracket tail)
      ((verbose || change.on.verbose) && !change.off.verbose) true true
      (Nat.lt_of_succ_lt_succ enough) state with
    ⟨body, row, takes, inner⟩
  have plain := readScoped_reads isFirst items flags inner (demand_reads (pieces_bracket tail))
  refine ⟨.scoped change body, row, takes, ?_⟩
  rw [readGroup, Reading.reads_bind_of (accept_reads rfl)]
  refine (Reading.reads_bind_of (Reading.reads_take_cons rfl)).mpr ?_
  simp only [groupLetters, List.mem_cons, List.not_mem_nil, or_false] at isFlag
  rcases isFlag with rfl | rfl | rfl | rfl | rfl <;> exact plain

end Groups

/-- A group for a flag reads as a row if its body does. -/
theorem readsRow_flagged {letter : Char} (isFlag : letter ∈ groupLetters) {text : List Char}
    (reads : ReadsRow text proper) :
    ReadsRow ('(' :: '?' :: letter :: ':' :: (text ++ [')'])) proper := by
  have notSlash : letter ≠ '\\' := by
    rintro rfl
    exact absurd isFlag (by decide)
  have all (tail : List Char) : pieces ('(' :: '?' :: letter :: ':' :: (text ++ [')']) ++ tail) =
      .plain '(' :: .plain '?' :: .plain letter :: .plain ':' :: pieces (text ++ ')' :: tail) := by
    simp only [List.cons_append, List.append_assoc, List.nil_append]
    rw [pieces_cons (by decide), pieces_cons (by decide), pieces_cons notSlash,
      pieces_cons (by decide)]
  have own := all []
  rw [List.append_nil, reads.pieces, pieces_bracket] at own
  refine ⟨fun tail => ?_, fun tail closes verbose isFirst items bound rows enough state => ?_⟩
  · rw [all, own, reads.pieces, pieces_bracket]
    simp [pieces]
  · rw [own] at enough
    simp only [List.length_cons, List.length_append] at enough
    rcases (show ∃ less, bound = less + 2 from ⟨bound - 2, by omega⟩) with ⟨bound, rfl⟩
    rcases readGroup_row isFlag reads tail verbose isFirst items
        (show _ < bound + 1 by omega) state with
      ⟨item, row, takes, group⟩
    refine ⟨_, isRow_ofItems (List.forall_mem_cons.mpr ⟨row, rows⟩),
      by simp [consumes_ofItems, takes, Bool.or_comm], ?_⟩
    rw [all, readItems, Reading.reads_bind_of Reading.reads_peek_self]
    refine (Reading.reads_bind_of (Reading.reads_take_cons rfl)).mpr ?_
    simp only [show Unicode.isAsciiBlank '(' = false from rfl, show ('(' == '#') = false from rfl,
      Bool.and_false, Bool.false_eq_true, if_false]
    exact (Reading.reads_bind_of group).mpr (readItems_closed closes)

theorem readsRow_foldl {letters : List String}
    (known : ∀ letter ∈ letters, ∃ c ∈ groupLetters,
      Unicode.lowerText letter = String.singleton c) :
    ∀ {expression : String}, ReadsRow expression.toList proper →
      ReadsRow (flagged letters expression).toList proper := by
  induction letters with
  | nil => exact fun reads => reads
  | cons letter letters ih =>
      intro expression reads
      rcases List.forall_mem_cons.mp known with ⟨⟨c, isFlag, lower⟩, known⟩
      refine ih known ?_
      have group := readsRow_flagged isFlag reads
      simpa [lower] using group

theorem exists_groupLetter (flags : RegexFlags) : ∀ letter ∈ flags.letters,
    ∃ c ∈ groupLetters, Unicode.lowerText letter = String.singleton c := by
  have each : ∀ letter ∈ flagLetters, ∃ c ∈ groupLetters,
      Unicode.lowerText letter = String.singleton c :=
    List.forall_iff_forall_mem.mp ⟨⟨'a', by decide, rfl⟩, ⟨'i', by decide, rfl⟩,
      ⟨'m', by decide, rfl⟩, ⟨'s', by decide, rfl⟩, ⟨'x', by decide, rfl⟩⟩
  refine fun letter member => each letter ?_
  grind [RegexFlags.letters, flagLetters]

/-- The regular expression of a literal reads as a row. -/
theorem readsRow_pattern {pattern : Pattern} (literal : pattern.kind = .literal) :
    ReadsRow pattern.expression.toList !pattern.value.toList.isEmpty := by
  rw [Pattern.expression, literal]
  exact readsRow_foldl (exists_groupLetter _) (readsRow_literal _)

/-- Nothing of a row goes backwards, so a literal can always be compiled. -/
theorem looksBehindFixed_of_isRow (regex : Regex) (row : regex.isRow = true) :
    regex.looksBehindFixed = true := by
  induction regex with
  | empty => rfl
  | char => rfl
  | sequence first second ih ih' =>
      rw [isRow, Bool.and_eq_true] at row
      rw [looksBehindFixed, ih row.1, ih' row.2, Bool.and_self]
  | «scoped» change body ih => exact ih row
  | _ => cases row

theorem exists_compile_literal {pattern : Pattern} (literal : pattern.kind = .literal)
    (flags : RegexFlags) :
    ∃ regex, regex.isRow = true ∧ regex.consumes = !pattern.value.toList.isEmpty ∧
      compile pattern.expression flags = .ok ⟨regex, flags, []⟩ := by
  have ends : Closes (pieces []) := fun _ here => by cases here
  rcases readChoice_row (readsRow_pattern literal) ends flags.verbose false true
      (show _ < 3 * (pieces pattern.expression.toList).length + 4 by omega)
      { rest := [], flags } with
    ⟨regex, row, takes, choice⟩
  rw [List.append_nil] at choice
  have whole : (readAll (3 * (pieces pattern.expression.toList).length + 4)).Reads
      { rest := pieces pattern.expression.toList, flags } regex { rest := pieces [], flags } := by
    refine (Reading.reads_bind_of Reading.reads_get_self).mpr ?_
    exact (Reading.reads_bind_of choice).mpr rfl
  unfold Reading.Reads at whole
  refine ⟨regex, row, takes, ?_⟩
  simp only [compile, Regex.read, whole, looksBehindFixed_of_isRow regex row, if_true]

/-- The regular expression of a literal is a row. -/
theorem isRow_of_compile {pattern : Pattern} (literal : pattern.kind = .literal)
    {flags : RegexFlags} {compiled : CompiledRegex}
    (compiles : compile pattern.expression flags = .ok compiled) : compiled.regex.isRow = true := by
  rcases exists_compile_literal literal flags with ⟨regex, row, _, compiles'⟩
  rw [compiles] at compiles'
  cases compiles'
  exact row

end Lalr.Regex

namespace Lalr

/-- A literal that matches the whole of a part of a text matches there in the text. -/
theorem Terminal.stop?_of_extract {flags : RegexFlags} {literal : Terminal}
    (kind : literal.pattern.kind = .literal) {text : Array Char} {start stop stop' : Nat}
    (whole : literal.stop? flags true (text.extract start stop) 0 = some stop') :
    literal.stop? flags false text start = some (start + (text.extract start stop).size) := by
  unfold Terminal.stop? at whole ⊢
  cases compiles : Regex.compile literal.pattern.expression flags with
  | error fault => simp [compiles] at whole
  | ok compiled =>
      simp only [compiles, if_true, Option.map_eq_some_iff] at whole ⊢
      rcases whole with ⟨point, matched, _⟩
      exact ⟨_, Regex.matchAt_of_fullMatchAt
        (Regex.isRow_of_compile kind compiles) matched, rfl⟩

/-- A literal that matches in a text matches the whole of what it takes up there. -/
theorem Terminal.stop?_extract {flags : RegexFlags} {literal : Terminal}
    (kind : literal.pattern.kind = .literal) {text : Array Char} {start stop : Nat}
    (stops : literal.stop? flags false text start = some stop) :
    ∃ stop', literal.stop? flags true (text.extract start stop) 0 = some stop' := by
  unfold Terminal.stop? at stops ⊢
  cases compiles : Regex.compile literal.pattern.expression flags with
  | error fault => simp [compiles] at stops
  | ok compiled =>
      simp only [compiles, Option.map_eq_some_iff] at stops ⊢
      rcases stops with ⟨point, matched, rfl⟩
      rcases Regex.fullMatchAt_of_matchAt (Regex.isRow_of_compile kind compiles) matched with
        ⟨point', whole⟩
      exact ⟨_, point', whole, rfl⟩

end Lalr
