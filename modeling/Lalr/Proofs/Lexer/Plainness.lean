import Lalr.Proofs.Lexer.Scanning
import Lalr.Proofs.Regex.Ways

/-!
# Which scanners are plain

A scanner is plain if the expressions of its terminals have no groups and each of its
alternations has been read as a choice of named groups with these expressions as bodies.
This can be decided.
-/

namespace Lalr

namespace Regex

/-- Groups with numbers of their own that are alternatives of each other. -/
def branches : List (Nat × Regex) → Regex
  | [] => .class false []
  | [(index, body)] => .group index body
  | (index, body) :: rest => .choice (.group index body) (branches rest)

/-- The first alternative that matches is the one whose group is closed. -/
theorem matching_branches (text : Array Char) (flags : RegexFlags) (point : MatchPoint)
    (next : Continuation) (entries : List (Nat × Regex)) :
    (branches entries).matching text flags point next =
      entries.findSome? fun entry => entry.2.matching text flags point fun after =>
        next { after with
          groups := (entry.1, point.position, after.position) :: after.groups } := by
  induction entries with
  | nil =>
      simp only [branches, matching, matchChar]
      cases text[point.position]? <;> simp [classAccepts]
  | cons entry rest ih =>
      rw [List.findSome?_cons]
      cases rest with
      | nil =>
          simp only [branches, matching, List.findSome?_nil]
          split
          next found => exact found
          next nothing => exact nothing
      | cons second rest =>
          simp only [branches, matching]
          rw [ih]
          cases entry.2.matching text flags point _ <;> rfl

/-- Groups with numbers from `index` on that are alternatives of each other. -/
def alternatives : Nat → List Regex → Regex
  | _, [] => .class false []
  | index, [body] => .group index body
  | index, body :: rest => .choice (.group index body) (alternatives (index + 1) rest)

theorem alternatives_eq_branches (bodies : List Regex) : ∀ index,
    alternatives index bodies = branches ((bodies.zipIdx index).map Prod.swap) := by
  induction bodies with
  | nil => exact fun _ => rfl
  | cons body rest ih =>
      intro index
      cases rest with
      | nil => rfl
      | cons second rest => exact congrArg _ (ih (index + 1))

theorem matching_alternatives (text : Array Char) (flags : RegexFlags) (point : MatchPoint)
    (next : Continuation) (bodies : List Regex) (index : Nat) :
    (alternatives index bodies).matching text flags point next =
      (bodies.zipIdx index).findSome? fun entry => entry.1.matching text flags point fun after =>
        next { after with
          groups := (entry.2, point.position, after.position) :: after.groups } := by
  rw [alternatives_eq_branches, matching_branches, List.findSome?_map]
  rfl

end Regex

namespace Terminal

/-- The expression of a terminal, if it has no groups and no flags for the whole of it. -/
def body? (flags : RegexFlags) (terminal : Terminal) : Option Regex :=
  match Regex.compile terminal.pattern.expression flags with
  | .ok compiled =>
    if compiled.flags = flags ∧ compiled.regex.isFlat then some compiled.regex else none
  | .error _ => none

theorem body?_eq_some {flags : RegexFlags} {terminal : Terminal} {body : Regex}
    (found : terminal.body? flags = some body) :
    body.isFlat = true ∧ ∃ compiled,
      Regex.compile terminal.pattern.expression flags = .ok compiled ∧ compiled.regex = body ∧
        compiled.flags = flags := by
  unfold body? at found
  split at found
  next compiled went =>
    split at found
    next plain =>
      cases found
      exact ⟨plain.2, compiled, went, rfl, plain.1⟩
    next => cases found
  next => cases found

end Terminal

namespace Scanner

/-- Whether a whole match is wanted only where it ends the text. -/
def accepts (whole : Bool) (text : Array Char) (position : Nat) : Bool :=
  !whole || position == text.size

/-- The match of an expression that a scanner accepts. -/
def matchOf (whole : Bool) (compiled : CompiledRegex) (text : Array Char) (position : Nat) :
    Option MatchPoint :=
  if whole then compiled.fullMatchAt text position else compiled.matchAt text position

theorem matchOf_eq (whole : Bool) (compiled : CompiledRegex) (text : Array Char) (position : Nat) :
    matchOf whole compiled text position =
      compiled.regex.matching text compiled.flags { position } fun point =>
        if accepts whole text point.position then some point else none := by
  cases whole
  · simp [matchOf, accepts, CompiledRegex.matchAt]
  · simp [matchOf, accepts, CompiledRegex.fullMatchAt]

/-- Whether an alternation is that of the expressions of some terminals, none of which has
groups. -/
def isPlainRun (flags : RegexFlags) (run : List Terminal) (alternation : CompiledRegex) : Bool :=
  run.all (fun terminal => (terminal.body? flags).isSome) &&
    alternation == {
      regex := Regex.alternatives 1 (run.map fun terminal => (terminal.body? flags).getD .empty)
      flags
      names := (run.map Terminal.name).zipIdx 1 }

def arePlainRuns (flags : RegexFlags) : List (List Terminal) → List CompiledRegex → Bool
  | [], [] => true
  | run :: runs, alternation :: alternations =>
    isPlainRun flags run alternation && arePlainRuns flags runs alternations
  | _, _ => false

/-- Whether a scanner can be seen to be plain. -/
def isPlain (flags : RegexFlags) (scanner : Scanner) : Bool :=
  arePlainRuns flags (runs scanner.terminals) scanner.alternations

variable {flags : RegexFlags} {whole : Bool} {text : Array Char} {position : Nat}

/-- A body matches inside its group as it does by itself, whatever the group makes of it. -/
theorem matching_body {terminal : Terminal} {body : Regex}
    (found : terminal.body? flags = some body) (close : MatchPoint → MatchPoint) :
    (body.matching text flags { position } fun after =>
      if accepts whole text after.position then some (close after) else none) =
      (terminal.stop? flags whole text position).map fun stop => close { position := stop } := by
  rcases Terminal.body?_eq_some found with ⟨flat, compiled, went, rfl, same⟩
  rcases compiled.regex.byPosition_of_isFlat text flags flat with ⟨ways, byPosition⟩
  have alone : terminal.stop? flags whole text position =
      (ways position).find? (accepts whole text) := by
    rw [Terminal.stop?, went]
    change (matchOf whole compiled text position).map _ = _
    rw [matchOf_eq, same, byPosition, Matching.ByPosition.findSome?_ite, Option.map_map]
    exact congrFun Option.map_id _
  rw [alone, byPosition, Matching.ByPosition.findSome?_ite]

/-- Numbered items are told apart by their numbers. -/
theorem find?_zipIdx {α : Type} (items : List α) :
    ∀ (index : Nat), ∀ entry ∈ items.zipIdx index,
    (items.zipIdx index).find? (·.2 == entry.2) = some entry := by
  induction items with
  | nil => simp
  | cons item items ih =>
      intro index entry member
      rw [List.zipIdx_cons, List.find?_cons]
      rw [List.zipIdx_cons] at member
      rcases List.mem_cons.mp member with rfl | member
      · simp
      · have later : index + 1 ≤ entry.2 := (List.mem_zipIdx member).1
        have apart : (index == entry.2) = false := by
          rw [beq_eq_false_iff_ne]
          omega
        simp only [apart]
        exact ih (index + 1) entry member

/-- If the entries of an alternation find what their terminals find by themselves, and what is found
goes by the names of the terminals, the alternation finds what the first terminal finds. -/
theorem entries_find {α : Type} (compiled : CompiledRegex) (others : Option (Nat × String))
    (find : α → Option MatchPoint) (terminal : α → Terminal) (entries : List α)
    (finds : ∀ entry ∈ entries,
      (find entry).map MatchPoint.position = (terminal entry).stop? flags whole text position)
    (named : ∀ entry ∈ entries, ∀ point, find entry = some point →
      compiled.lastName? point = some (terminal entry).name) :
    (match entries.findSome? find with
      | some point => (compiled.lastName? point).map fun name => (point.position, name)
      | none => others) = (firstOf flags whole text position (entries.map terminal)).or others := by
  induction entries with
  | nil => rfl
  | cons entry entries ih =>
      rw [List.forall_mem_cons] at finds named
      rw [List.findSome?_cons, List.map_cons, firstOf, List.findSome?_cons, ← finds.1]
      cases found : find entry with
      | none => exact ih finds.2 named.2
      | some point => simp only [named.1 point found, Option.map_some, Option.some_or]

theorem findSome?_congr {α β : Type} {items : List α} {f g : α → Option β}
    (same : ∀ item ∈ items, f item = g item) : items.findSome? f = items.findSome? g := by
  induction items with
  | nil => rfl
  | cons item items ih =>
      rw [List.forall_mem_cons] at same
      rw [List.findSome?_cons, List.findSome?_cons, same.1, ih same.2]

/-- The alternation of some terminals without groups matches what one of them matches by itself, and
remembers its number. -/
theorem matchOf_alternatives {run : List Terminal} {names : List (String × Nat)}
    (flat : ∀ terminal ∈ run, (terminal.body? flags).isSome = true) :
    matchOf whole {
        regex := Regex.alternatives 1 (run.map fun terminal => (terminal.body? flags).getD .empty)
        flags
        names } text position =
      (run.zipIdx 1).findSome? fun entry =>
        (entry.1.stop? flags whole text position).map fun stop =>
          (⟨stop, [(entry.2, position, stop)]⟩ : MatchPoint) := by
  rw [matchOf_eq, Regex.matching_alternatives, List.zipIdx_map, List.findSome?_map]
  refine findSome?_congr fun entry member => ?_
  rcases Option.isSome_iff_exists.mp (flat entry.1 (List.fst_mem_of_mem_zipIdx member)) with
    ⟨body, found⟩
  simp only [Function.comp_apply, Prod.map, found, Option.getD_some]
  exact matching_body found fun after =>
    { after with groups := (entry.2, position, after.position) :: after.groups }

/-- Whether an alternation finds what some terminals find by themselves, one after another, and
leaves the rest to others. -/
def Finds (flags : RegexFlags) (whole : Bool) (run : List Terminal) (alternation : CompiledRegex) :
    Prop :=
  ∀ text position others, (match matchOf whole alternation text position with
    | some point => (alternation.lastName? point).map fun name => (point.position, name)
    | none => others) = (firstOf flags whole text position run).or others

/-- An alternation that has been read as expected finds what its terminals find by themselves. -/
theorem isPlainRun_finds {run : List Terminal} {alternation : CompiledRegex}
    (plain : isPlainRun flags run alternation = true) : Finds flags whole run alternation := by
  intro text position others
  simp only [isPlainRun, Bool.and_eq_true, List.all_eq_true, beq_iff_eq] at plain
  rcases plain with ⟨flat, rfl⟩
  rw [matchOf_alternatives flat]
  have named : ∀ entry ∈ run.zipIdx 1,
      (((run.map Terminal.name).zipIdx 1).find? (·.2 == entry.2)).map (·.1) =
        some entry.1.name := by
    intro entry member
    have numbered : (entry.1.name, entry.2) ∈ (run.map Terminal.name).zipIdx 1 := by
      rw [List.zipIdx_map]
      exact List.mem_map_of_mem (f := Prod.map Terminal.name id) member
    rw [find?_zipIdx _ _ _ numbered]
    rfl
  conv_rhs => rw [← List.zipIdx_map_fst 1 run]
  refine entries_find _ others _ Prod.fst (run.zipIdx 1) (fun entry _ => ?_)
    fun entry member point found => ?_
  · rw [Option.map_map]
    exact congrFun Option.map_id _
  · rcases Option.map_eq_some_iff.mp found with ⟨stop, _, rfl⟩
    exact named entry member

theorem arePlainRuns_find (runs : List (List Terminal)) : ∀ {alternations : List CompiledRegex},
    arePlainRuns flags runs alternations = true →
      List.Forall₂ (Finds flags whole) runs alternations := by
  induction runs with
  | nil =>
      intro alternations plain
      cases alternations with
      | nil => exact .nil
      | cons _ _ => cases plain
  | cons run runs ih =>
      intro alternations plain
      cases alternations with
      | nil => cases plain
      | cons alternation alternations =>
          rcases Bool.and_eq_true_iff.mp plain with ⟨first, rest⟩
          exact .cons (isPlainRun_finds first) (ih rest)

theorem tryAll_finds {runs : List (List Terminal)} {alternations : List CompiledRegex}
    (find : List.Forall₂ (Finds flags whole) runs alternations) (text : Array Char)
    (position : Nat) :
    tryAll whole text position alternations = firstOf flags whole text position runs.flatten := by
  induction find with
  | nil => rfl
  | cons first _ ih =>
      rw [List.flatten_cons, firstOf, List.findSome?_append]
      exact (first text position _).trans (congrArg _ ih)

theorem flatten_runs (terminals : List Terminal) : (runs terminals).flatten = terminals := by
  induction terminals with
  | nil => rfl
  | cons terminal rest ih =>
      rw [runs]
      split
      next none =>
        rw [none] at ih
        simpa using ih
      next others some =>
        rw [some] at ih
        simpa using ih
      next next_ run others some =>
        rw [some] at ih
        split <;> simpa using ih

/-- A scanner is plain if its alternations find what the terminals of their runs find. -/
theorem plain_of_finds {scanner : Scanner}
    (find : List.Forall₂ (Finds flags scanner.whole) (runs scanner.terminals)
      scanner.alternations) :
    scanner.Plain flags := by
  intro text position
  rw [matchAt, tryAll_finds find, flatten_runs]

/-- A scanner that can be seen to be plain is plain. -/
theorem plain_of_isPlain {scanner : Scanner} (plain : scanner.isPlain flags = true) :
    scanner.Plain flags := plain_of_finds (arePlainRuns_find _ plain)

end Scanner

namespace Vocabulary

/-- Whether all scanners of a vocabulary can be seen to be plain. -/
def isPlain (flags : RegexFlags) (vocabulary : Vocabulary) : Bool :=
  vocabulary.scanner.isPlain flags && vocabulary.absorbed.all fun entry => entry.2.isPlain flags

theorem plain_of_isPlain {flags : RegexFlags} {vocabulary : Vocabulary}
    (plain : vocabulary.isPlain flags = true) : vocabulary.Plain flags := by
  rcases Bool.and_eq_true_iff.mp plain with ⟨scanner, absorbed⟩
  rw [List.all_eq_true] at absorbed
  exact ⟨Scanner.plain_of_isPlain scanner, fun entry member =>
    Scanner.plain_of_isPlain (absorbed entry member)⟩

end Vocabulary

end Lalr
