import Lalr.Proofs.Lexer.Plainness
import Lalr.Proofs.Regex.Portability

/-!
# Alternations of portable terminals

An alternation of portable terminals is read as a choice of named groups, whose bodies are what the
terminals are by themselves. A group has the first number that the groups before it leave free, and
the groups of its body have the numbers after it. If two groups have one name, the alternation is
refused.
-/

namespace Lalr

namespace Regex

/-! ## Names in groups -/

/-- What stands for an escape or ends a name is not a part of it. -/
theorem ne_of_continuesIdentifier {c : Char} (continues : Unicode.continuesIdentifier c = true) :
    c ≠ '\\' ∧ c ≠ '>' := by
  constructor <;> rintro rfl <;> exact absurd continues (by decide)

theorem ne_of_isIdentifier {chars : List Char} (identifier : Unicode.isIdentifier chars = true) :
    chars ≠ [] ∧ ∀ c ∈ chars, c ≠ '\\' ∧ c ≠ '>' := by
  cases chars with
  | nil => cases identifier
  | cons first rest =>
      rw [Unicode.isIdentifier, Bool.and_eq_true, List.all_eq_true] at identifier
      refine ⟨List.cons_ne_nil _ _, List.forall_mem_cons.mpr
        ⟨?_, fun c member => ne_of_continuesIdentifier (identifier.2 c member)⟩⟩
      constructor <;> rintro rfl <;> exact absurd identifier.1 (by decide)

theorem pieces_plain {chars : List Char} (plain : ∀ c ∈ chars, c ≠ '\\') (rest : List Char) :
    pieces (chars ++ rest) = chars.map .plain ++ pieces rest := by
  induction chars with
  | nil => rfl
  | cons c chars ih =>
      rw [List.forall_mem_cons] at plain
      rw [List.cons_append, pieces_cons plain.1, ih plain.2]
      rfl

theorem splitAtStop_plain {stop : Char} {chars : List Char} (others : ∀ c ∈ chars, c ≠ stop)
    (rest : List Piece) :
    splitAtStop stop (chars.map .plain ++ .plain stop :: rest) = some (chars, rest) := by
  induction chars with
  | nil => simp [splitAtStop]
  | cons c chars ih =>
      rw [List.forall_mem_cons] at others
      have other : (Piece.plain c == .plain stop) = false := by simpa using others.1
      simp [splitAtStop, other, ih others.2, Piece.chars]

/-- An identifier is taken up to the character that ends it. -/
theorem takeIdentifier_reads {name : String} (identifier : Unicode.isIdentifier name.toList = true)
    {state : ReaderState} {rest : List Char}
    (next : state.rest = pieces (name.toList ++ '>' :: rest)) :
    (takeIdentifier '>').Reads state name { state with rest := pieces rest } := by
  rcases ne_of_isIdentifier identifier with ⟨some_, others⟩
  have split : splitAtStop '>' state.rest = some (name.toList, pieces rest) := by
    rw [next, pieces_plain fun c member => (others c member).1, pieces_cons (by decide)]
    exact splitAtStop_plain (fun c member => (others c member).2) _
  have named : (takeName '>').Reads state name { state with rest := pieces rest } := by
    have notEmpty : name.toList.isEmpty = false := by simpa using some_
    simp only [takeName, Reading.reads_bind_of Reading.reads_get_self, split, notEmpty]
    rw [← String.ofList_toList (s := name), String.toList_ofList]
    rfl
  rw [takeIdentifier, Reading.reads_bind_of named]
  simp [identifier]

/-- Whether a reader reads something if a condition holds, and fails if it does not. -/
def Reading.Settles {α : Type} (reading : Reading α) (holds : Prop)
    (before : ReaderState) (value : α) (after : ReaderState) : Prop :=
  (holds → reading.Reads before value after) ∧ (¬holds → reading.Fails before)

namespace Reading.Settles

variable {α β : Type} {reading : Reading α} {next : α → Reading β} {holds holds' : Prop}
  {before between after : ReaderState} {given : α} {value : β}

theorem of_reads (read : reading.Reads before given after) :
    reading.Settles True before given after :=
  ⟨fun _ => read, fun false => absurd trivial false⟩

theorem bind (first : reading.Settles holds before given between)
    (rest : holds → (next given).Settles holds' between value after) :
    (reading >>= next).Settles (holds ∧ holds') before value after := by
  refine ⟨fun both => ?_, fun notBoth => ?_⟩
  · exact reads_bind.mpr ⟨_, _, first.1 both.1, (rest both.1).1 both.2⟩
  · by_cases one : holds
    · exact .bind_right (first.1 one) ((rest one).2 fun two => notBoth ⟨one, two⟩)
    · exact .bind_left (first.2 one)

theorem bind_reads (first : reading.Reads before given between)
    (rest : (next given).Settles holds between value after) :
    (reading >>= next).Settles holds before value after := by
  simpa using (of_reads first).bind fun _ => rest

theorem reads_bind (first : reading.Settles holds before given between)
    (rest : (next given).Reads between value after) :
    (reading >>= next).Settles holds before value after := by
  simpa using first.bind fun _ => of_reads rest

end Reading.Settles

/-! ## Groups around portable expressions -/

end Regex

/-- A terminal with what its expression is by itself. -/
structure Portion (flags : RegexFlags) where
  terminal : Terminal
  regex : Regex
  own : Regex.ReaderState
  alone : Regex.Alone flags terminal.pattern.expression regex own

namespace Portion

variable {flags : RegexFlags}

/-- The names of the group of a terminal and of the groups in it, if that group has a number. -/
def block (index : Nat) (portion : Portion flags) : List (String × Nat) :=
  (portion.terminal.name, index) :: portion.own.names.map fun (name, number) =>
    (name, number + index)

/-- Whether a portion can be put behind groups whose names are given: it names no group as they are
named, nor as it is called itself. -/
def Fits (names : List (String × Nat)) (portion : Portion flags) : Prop :=
  (∀ entry ∈ names, entry.1 ≠ portion.terminal.name) ∧
    ∀ entry ∈ portion.own.names, entry.1 ≠ portion.terminal.name ∧
      ∀ other ∈ names, entry.1 ≠ other.1

/-- The text of a portion in an alternation. -/
def text (portion : Portion flags) : List Char :=
  "(?P<".toList ++ portion.terminal.name.toList ++ '>' ::
    (portion.terminal.pattern.expression.toList ++ [')'])

/-- A reader at the beginning of an alternative, with the groups before it. -/
def top (flags : RegexFlags) (rest : List Regex.Piece) (groups : List (Option Width))
    (names : List (String × Nat)) : Regex.ReaderState := { rest, flags, groups, names }

open Regex

variable {rest : List Piece} {groups : List (Option Width)} {names : List (String × Nat)}

theorem openGroup_settles (name : String) :
    (openGroup (some name)).Settles (∀ entry ∈ names, entry.1 ≠ name)
      (top flags rest groups names) (groups.length + 1)
      (top flags rest (groups ++ [none]) (names ++ [(name, groups.length + 1)])) := by
  constructor
  · intro free
    have none : names.any (·.1 == name) = false := by simpa using free
    simp only [openGroup, Reading.reads_bind_of Reading.reads_get_self, top, none]
    rfl
  · intro given
    refine openGroup_fails ?_
    simpa [top] using given

/-- The frame of the expression of a portion. -/
def frame (portion : Portion flags) (tail : List Char) (groups : List (Option Width))
    (names : List (String × Nat)) : Frame where
  tail := pieces (')' :: tail)
  groups := groups ++ [none]
  names := names ++ [(portion.terminal.name, groups.length + 1)]
  flags
  closes := closes_bracket tail

variable (portion : Portion flags) (tail : List Char)

theorem fits_iff :
    portion.Fits names ↔ (∀ entry ∈ names, entry.1 ≠ portion.terminal.name) ∧
      (portion.frame tail groups names).Apart portion.own := by
  simp only [Fits, Frame.Apart, frame, List.mem_append, List.mem_singleton]
  grind

theorem expression_settles {bound : Nat}
    (enough : 3 * (pieces portion.terminal.pattern.expression.toList).length + 4 ≤ bound) :
    (readChoice flags.verbose true true bound).Settles
      ((portion.frame tail groups names).Apart portion.own)
      (top flags (pieces (portion.terminal.pattern.expression.toList ++ ')' :: tail))
        (groups ++ [none]) (names ++ [(portion.terminal.name, groups.length + 1)]))
      (portion.regex.shift (groups.length + 1))
      (top flags (pieces (')' :: tail)) (groups ++ [none] ++ portion.own.groups)
        (names ++ portion.block (groups.length + 1))) := by
  have before : (portion.frame tail groups names).place
      (.start (pieces portion.terminal.pattern.expression.toList)) =
        top flags (pieces (portion.terminal.pattern.expression.toList ++ ')' :: tail))
          (groups ++ [none]) (names ++ [(portion.terminal.name, groups.length + 1)]) := by
    rw [portion.alone.pieces]
    simp [Frame.place, frame, top, ReaderState.start]
  have after : (portion.frame tail groups names).place portion.own =
      top flags (pieces (')' :: tail)) (groups ++ [none] ++ portion.own.groups)
        (names ++ portion.block (groups.length + 1)) := by
    simp [Frame.place, frame, top, portion.alone.ended, portion.alone.ahead, block, Frame.offset]
  have offset : (portion.frame tail groups names).offset = groups.length + 1 := by
    simp [frame, Frame.offset]
  rw [← before, ← after, ← offset]
  exact ⟨portion.alone.reads _ true true bound enough (.inl rfl),
    portion.alone.fails _ true true bound enough (.inl rfl)⟩

theorem closeGroup_top (width : Width) (own : List (Option Width)) :
    (closeGroup (groups.length + 1) width).Reads (top flags rest (groups ++ [none] ++ own) names) ()
      (top flags rest (groups ++ some width :: own) names) := by
  have closed : (groups ++ [none] ++ own).set (groups.length + 1 - 1) (some width) =
      groups ++ some width :: own := by
    simp
  rw [top, top, ← closed]
  rfl

/-- The group of a portion. -/
theorem readGroup_settles (identifier : Unicode.isIdentifier portion.terminal.name.toList = true)
    {isFirst : Bool} {items : List Regex} {bound : Nat}
    (enough : 3 * (pieces portion.terminal.pattern.expression.toList).length + 5 ≤ bound) :
    (readGroup flags.verbose isFirst items bound).Settles (portion.Fits names)
      (top flags (.plain '?' :: .plain 'P' :: .plain '<' :: pieces
        (portion.terminal.name.toList ++ '>' ::
          (portion.terminal.pattern.expression.toList ++ ')' :: tail))) groups names)
      (flags.verbose, .group (groups.length + 1) (portion.regex.shift (groups.length + 1)) :: items)
      (top flags (pieces tail) (groups ++ some portion.regex.width :: portion.own.groups)
        (names ++ portion.block (groups.length + 1))) := by
  have exists_bound : ∃ less, bound = less + 1 := Nat.exists_eq_succ_of_ne_zero (by omega)
  rcases exists_bound with ⟨bound, rfl⟩
  rw [@fits_iff _ groups _ portion tail]
  refine .bind_reads (accept_reads rfl) (.bind_reads (Reading.reads_take_cons rfl) ?_)
  refine .bind_reads (accept_reads rfl) (.bind_reads (takeIdentifier_reads identifier rfl) ?_)
  refine .bind (openGroup_settles _) fun _ =>
    .reads_bind (portion.expression_settles tail (by omega)) ?_
  refine (Reading.reads_bind_of (demand_reads (pieces_bracket tail))).mpr ?_
  rw [width_shift]
  exact (Reading.reads_bind_of (closeGroup_top _ _)).mpr rfl

theorem pieces_text : pieces (portion.text ++ tail) =
    .plain '(' :: .plain '?' :: .plain 'P' :: .plain '<' ::
      pieces (portion.terminal.name.toList ++ '>' ::
        (portion.terminal.pattern.expression.toList ++ ')' :: tail)) := by
  simp [text, pieces_cons]

/-- An alternative that is the group of a portion. -/
theorem readItems_settles (identifier : Unicode.isIdentifier portion.terminal.name.toList = true)
    (groups : List (Option Width)) (names : List (String × Nat)) (isFirst : Bool) {bound : Nat}
    (enough : 3 * (pieces portion.terminal.pattern.expression.toList).length + 7 ≤ bound)
    (ends : tail = [] ∨ ∃ more, tail = '|' :: more) :
    (readItems flags.verbose isFirst [] bound).Settles (portion.Fits names)
      (top flags (pieces (portion.text ++ tail)) groups names)
      (.group (groups.length + 1) (portion.regex.shift (groups.length + 1)))
      (top flags (pieces tail) (groups ++ some portion.regex.width :: portion.own.groups)
        (names ++ portion.block (groups.length + 1))) := by
  rcases (show ∃ less, bound = less + 2 from ⟨bound - 2, by omega⟩) with ⟨bound, rfl⟩
  have blank : Unicode.isAsciiBlank '(' = false := rfl
  have ended : (readItems flags.verbose isFirst
      [.group (groups.length + 1) (portion.regex.shift (groups.length + 1))] (bound + 1)).Reads
      (top flags (pieces tail) (groups ++ some portion.regex.width :: portion.own.groups)
        (names ++ portion.block (groups.length + 1)))
      (.group (groups.length + 1) (portion.regex.shift (groups.length + 1)))
      (top flags (pieces tail) (groups ++ some portion.regex.width :: portion.own.groups)
        (names ++ portion.block (groups.length + 1))) := by
    rcases ends with rfl | ⟨more, rfl⟩
    · rfl
    · rw [pieces_cons (by decide)]
      rfl
  rw [pieces_text]
  refine .bind_reads (Reading.reads_peek.mpr ⟨rfl, rfl⟩)
    (.bind_reads (Reading.reads_take_cons rfl) ?_)
  simp only [blank, show ('(' == '#') = false from rfl, Bool.and_false,
    Bool.false_eq_true, if_false]
  exact (portion.readGroup_settles tail identifier (by omega)).reads_bind ended

/-- The text of a portion takes at least the pieces around its name and its expression. -/
theorem length_pieces (identifier : Unicode.isIdentifier portion.terminal.name.toList = true) :
    (pieces portion.terminal.pattern.expression.toList).length + (pieces tail).length + 6 ≤
      (pieces (portion.text ++ tail)).length := by
  rcases ne_of_isIdentifier identifier with ⟨_, others⟩
  rw [pieces_text, pieces_plain fun c member => (others c member).1, pieces_cons (by decide),
    portion.alone.pieces, pieces_bracket]
  simp only [List.length_cons, List.length_append]
  omega

/-! ## Alternations -/

/-- Portions with the numbers that their groups have behind `before` groups. -/
def layout : Nat → List (Portion flags) → List (Nat × Portion flags)
  | _, [] => []
  | before, portion :: rest =>
    (before + 1, portion) :: layout (before + 1 + portion.own.groups.length) rest

/-- The names of the groups of portions behind `before` groups. -/
def blocks (before : Nat) (portions : List (Portion flags)) : List (String × Nat) :=
  (layout before portions).flatMap fun (index, portion) => portion.block index

/-- Whether portions can be put one after another behind `before` groups whose names are given. -/
def AllFit : List (String × Nat) → Nat → List (Portion flags) → Prop
  | _, _, [] => True
  | names, before, portion :: rest =>
    portion.Fits names ∧ AllFit (names ++ portion.block (before + 1))
      (before + 1 + portion.own.groups.length) rest

/-- The text of an alternation of portions. -/
def choiceText : List (Portion flags) → List Char
  | [] => []
  | [portion] => portion.text
  | portion :: rest => portion.text ++ '|' :: choiceText rest

/-- What an alternation of portions behind `before` groups is read as. -/
def choice (before : Nat) (portions : List (Portion flags)) : Regex :=
  .branches ((layout before portions).map fun (index, portion) =>
    (index, portion.regex.shift index))

/-- An alternation of portions is read from its first one on. Induction on the portions. -/
theorem readChoice_settles (portions : List (Portion flags)) (some_ : portions ≠ [])
    (identifiers : ∀ portion ∈ portions,
      Unicode.isIdentifier portion.terminal.name.toList = true) :
    ∀ (groups : List (Option Width)) (names : List (String × Nat))
      (isFirst : Bool) {bound : Nat},
      3 * (pieces (choiceText portions)).length + 4 ≤ bound →
      (readChoice flags.verbose false isFirst bound).Settles (AllFit names groups.length portions)
        (top flags (pieces (choiceText portions)) groups names) (choice groups.length portions)
        (top flags [] (groups ++ portions.flatMap fun portion =>
          some portion.regex.width :: portion.own.groups)
            (names ++ blocks groups.length portions)) := by
  induction portions with
  | nil => exact absurd rfl some_
  | cons portion rest ih =>
      intro groups names isFirst bound enough
      have exists_bound : ∃ less, bound = less + 1 := Nat.exists_eq_succ_of_ne_zero (by omega)
      rcases exists_bound with ⟨bound, rfl⟩
      rw [List.forall_mem_cons] at identifiers
      cases rest with
      | nil =>
          have shorter := portion.length_pieces [] identifiers.1
          simp only [choiceText, List.append_nil] at enough shorter
          have alone := portion.readItems_settles [] identifiers.1 groups names isFirst
            (show _ ≤ bound by omega) (.inl rfl)
          rw [List.append_nil] at alone
          simp only [AllFit, and_true, choiceText, choice, layout, List.map_cons,
            List.map_nil, branches, blocks, List.flatMap_cons, List.flatMap_nil, List.append_nil]
          exact alone.reads_bind rfl
      | cons next rest =>
          have bar := pieces_cons (by decide : '|' ≠ '\\') (choiceText (next :: rest))
          have shorter := portion.length_pieces ('|' :: choiceText (next :: rest)) identifiers.1
          rw [bar, List.length_cons] at shorter
          simp only [choiceText] at enough
          have first :=
            portion.readItems_settles ('|' :: choiceText (next :: rest)) identifiers.1 groups
            names isFirst (show _ ≤ bound by omega) (.inr ⟨_, rfl⟩)
          have others := ih (by simp) identifiers.2
            (groups ++ some portion.regex.width :: portion.own.groups)
            (names ++ portion.block (groups.length + 1)) false (show _ ≤ bound by omega)
          have count : (groups ++ some portion.regex.width :: portion.own.groups).length =
              groups.length + 1 + portion.own.groups.length := by
            simp only [List.length_append, List.length_cons]
            omega
          rw [count] at others
          rw [bar] at first
          refine first.bind fun _ =>
            .bind_reads (accept_reads rfl) (.bind_reads Reading.reads_get_self
            (.bind_reads (Reading.reads_pure.mpr ⟨rfl, rfl⟩) ?_))
          have allGroups : groups ++ (portion :: next :: rest).flatMap (fun portion =>
                some portion.regex.width :: portion.own.groups) =
              groups ++ some portion.regex.width :: portion.own.groups ++ (next :: rest).flatMap
                fun portion => some portion.regex.width :: portion.own.groups := by simp
          have allNames : names ++ blocks groups.length (portion :: next :: rest) =
              names ++ portion.block (groups.length + 1) ++
                blocks (groups.length + 1 + portion.own.groups.length) (next :: rest) := by
            simp [blocks, layout]
          rw [allGroups, allNames]
          exact others.reads_bind rfl

end Portion

end Lalr
