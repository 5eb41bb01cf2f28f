import Lalr.Proofs.Data.Json
import Lalr.Proofs.Lexer.Gluing

/-!
# Scanners of portable terminals

A scanner can be made from portable terminals if no two groups in one of its alternations have
the same name. It then tries its terminals in order, and each of them finds what its expression
finds by itself.
-/

namespace Lalr

namespace Portion

open Regex

variable {flags : RegexFlags}

/-! ## Reading an alternation -/

theorem toList_alternation (portions : List (Portion flags)) :
    (Scanner.alternation (portions.map terminal)).toList = choiceText portions := by
  have one (portion : Portion flags) : ("(?P<" ++ portion.terminal.name ++ ">" ++
      portion.terminal.pattern.expression ++ ")").toList = portion.text := by
    simp [text, String.toList_append]
  induction portions with
  | nil => rfl
  | cons portion rest ih =>
      cases rest with
      | nil => simpa [Scanner.alternation, Text.joinWith, choiceText] using one portion
      | cons next rest =>
          simp only [Scanner.alternation, List.map_cons] at ih ⊢
          rw [Data.toList_joinWith_cons, ih, one portion]
          rfl

variable {portions : List (Portion flags)}

/-- What an alternation of portions is compiled to. -/
def compiled (portions : List (Portion flags)) : CompiledRegex where
  regex := choice 0 portions
  flags
  names := blocks 0 portions

theorem looksBehindFixed_branches (entries : List (Nat × Regex))
    (fixed : ∀ entry ∈ entries, entry.2.looksBehindFixed = true) :
    (branches entries).looksBehindFixed = true := by
  induction entries with
  | nil => rfl
  | cons entry rest ih =>
      rw [List.forall_mem_cons] at fixed
      cases rest with
      | nil => exact fixed.1
      | cons next rest =>
          simp only [branches, looksBehindFixed, ih fixed.2, Bool.and_true]
          exact fixed.1

/-- The portions of a layout are those that are laid out. -/
theorem map_layout (portions : List (Portion flags)) : ∀ before,
    (layout before portions).map (·.2) = portions := by
  induction portions with
  | nil => exact fun _ => rfl
  | cons portion rest ih => exact fun before => congrArg _ (ih _)

theorem looksBehindFixed_choice
    (fixed : ∀ portion ∈ portions, portion.regex.looksBehindFixed = true)
    (before : Nat) : (choice before portions).looksBehindFixed = true := by
  refine looksBehindFixed_branches _ (List.forall_mem_map.mpr fun entry member => ?_)
  rw [looksBehindFixed_shift]
  refine fixed entry.2 ?_
  rw [← map_layout portions before]
  exact List.mem_map_of_mem member

/-- Portions that fit one after another are compiled as their choice, and others are refused. -/
theorem compile_alternation (some_ : portions ≠ [])
    (identifiers : ∀ portion ∈ portions,
      Unicode.isIdentifier portion.terminal.name.toList = true)
    (fixed : ∀ portion ∈ portions, portion.regex.looksBehindFixed = true) :
    (AllFit [] 0 portions →
      compile (Scanner.alternation (portions.map terminal)) flags = .ok (compiled portions)) ∧
    (¬AllFit [] 0 portions →
      ∃ fault, compile (Scanner.alternation (portions.map terminal)) flags = .error fault) := by
  have settles := readChoice_settles portions some_ identifiers [] [] true (Nat.le_refl _)
  have all : (readAll (3 * (pieces (choiceText portions)).length + 4)).Settles
      (AllFit [] 0 portions) (top flags (pieces (choiceText portions)) [] []) (choice 0 portions)
      (top flags [] (portions.flatMap fun portion => some portion.regex.width :: portion.own.groups)
        (blocks 0 portions)) :=
    .bind_reads Reading.reads_get_self (settles.reads_bind rfl)
  rw [compile, Regex.read, toList_alternation]
  constructor
  · intro fits
    have read := all.1 fits
    rw [Reading.Reads, top] at read
    simp only [read]
    exact if_pos (looksBehindFixed_choice fixed 0)
  · intro clash
    rcases all.2 clash with ⟨fault, failed⟩
    rw [top] at failed
    simp only [failed]
    exact ⟨_, rfl⟩

/-! ## Names of groups -/

/-- The names of the group of a portion and of the groups in it. -/
def names (portion : Portion flags) : List String :=
  portion.terminal.name :: portion.own.names.map (·.1)

theorem map_block (portion : Portion flags) (index : Nat) :
    (portion.block index).map (·.1) = portion.names := by
  simp [block, names, Function.comp_def]

theorem fits_iff_nodup (portion : Portion flags) {given : List (String × Nat)}
    (distinct : (given.map (·.1)).Nodup) :
    portion.Fits given ↔ (given.map (·.1) ++ portion.names).Nodup := by
  have own := portion.alone.distinct
  simp only [Fits, names, List.nodup_append, List.nodup_cons, distinct, own, true_and, and_true,
    List.mem_cons, List.mem_map, not_exists, not_and, forall_exists_index, and_imp,
    forall_apply_eq_imp_iff₂]
  constructor
  · rintro ⟨free, apart⟩
    refine ⟨fun entry member => (apart entry member).1, fun entry member name same => ?_⟩
    rcases same with rfl | ⟨other, member', rfl⟩
    · exact free entry member
    · exact Ne.symm ((apart other member').2 entry member)
  · rintro ⟨free, apart⟩
    exact ⟨fun entry member => apart entry member _ (.inl rfl), fun entry member =>
      ⟨free entry member, fun other member' => Ne.symm
        (apart other member' _ (.inr ⟨entry, member, rfl⟩))⟩⟩

/-- Portions fit one after another if all their groups have different names. Induction on the
portions. -/
theorem allFit_iff_nodup (portions : List (Portion flags)) :
    ∀ (given : List (String × Nat)) before,
    (given.map (·.1)).Nodup →
    (AllFit given before portions ↔ (given.map (·.1) ++ portions.flatMap names).Nodup) := by
  induction portions with
  | nil => exact fun given before distinct => by simpa [AllFit] using distinct
  | cons portion rest ih =>
      intro given before distinct
      have joined : (given ++ portion.block (before + 1)).map (·.1) =
          given.map (·.1) ++ portion.names := by rw [List.map_append, map_block]
      rw [AllFit, portion.fits_iff_nodup distinct, List.flatMap_cons, ← List.append_assoc]
      constructor
      · rintro ⟨first, others⟩
        rw [ih _ _ (joined ▸ first), joined] at others
        exact others
      · intro all
        have first := (List.nodup_append.mp all).1
        refine ⟨first, ?_⟩
        rw [ih _ _ (joined ▸ first), joined]
        exact all

/-! ## Matching an alternation -/

theorem lt_of_mem_layout (portions : List (Portion flags)) :
    ∀ before, ∀ entry ∈ layout before portions,
    before < entry.1 := by
  induction portions with
  | nil => simp [layout]
  | cons portion rest ih =>
      intro before
      rw [layout, List.forall_mem_cons]
      exact ⟨Nat.lt_succ_self _, fun entry member => by have := ih _ entry member; omega⟩

/-- The group of a portion goes by the name of its terminal. Induction on the portions. -/
theorem find?_blocks (portions : List (Portion flags)) :
    ∀ before, ∀ entry ∈ layout before portions,
    ((blocks before portions).find? (·.2 == entry.1)).map (·.1) = some entry.2.terminal.name := by
  induction portions with
  | nil => simp [layout]
  | cons portion rest ih =>
      intro before
      have later := lt_of_mem_layout rest (before + 1 + portion.own.groups.length)
      rw [blocks, layout, List.forall_mem_cons, List.flatMap_cons]
      refine ⟨by simp [block], fun entry member => ?_⟩
      have passed : (portion.block (before + 1)).find? (·.2 == entry.1) = none := by
        rw [List.find?_eq_none]
        have beyond := later entry member
        simp only [block, List.forall_mem_cons, List.forall_mem_map, beq_iff_eq]
        refine ⟨by omega, fun inner inside => ?_⟩
        have small := (portion.alone.numbered inner inside).2
        omega
      rw [List.find?_append, passed, Option.none_or]
      exact ih _ entry member

/-- The expression of a portion by itself. -/
def single (portion : Portion flags) : CompiledRegex where
  regex := portion.regex
  flags
  names := portion.own.names

theorem stop?_eq (portion : Portion flags) (fixed : portion.regex.looksBehindFixed = true)
    (whole : Bool) (text : Array Char) (position : Nat) :
    portion.terminal.stop? flags whole text position =
      (Scanner.matchOf whole portion.single text position).map MatchPoint.position := by
  rw [Terminal.stop?, portion.alone.compile_eq rfl fixed]
  rfl

/-- In its group, whatever its number is, an expression matches what it matches by itself. -/
theorem matching_shift_accepts (portion : Portion flags) (index : Nat) (whole : Bool)
    (text : Array Char) (position : Nat) (close : MatchPoint → MatchPoint)
    (stays : ∀ point, (close point).position = point.position) :
    ((portion.regex.shift index).matching text flags { position } fun after =>
        if Scanner.accepts whole text (close after).position then some (close after) else none) =
      (Scanner.matchOf whole portion.single text position).map fun after =>
        close (after.shift index) := by
  have natural := matching_natural text portion.regex flags (fun after => close (after.shift index))
    { position } fun after => if Scanner.accepts whole text after.position then some after else none
  rw [Scanner.matchOf_eq, matching_shift_start]
  refine Eq.trans (congrArg _ (funext fun after => ?_)) natural
  rw [stays, MatchPoint.position_shift]
  split <;> rfl

/-- An alternation of portions finds what their terminals find by themselves, one after another. -/
theorem finds_compiled (fixed : ∀ portion ∈ portions, portion.regex.looksBehindFixed = true)
    (whole : Bool) : Scanner.Finds flags whole (portions.map terminal) (compiled portions) := by
  intro text position others
  let find (entry : Nat × Portion flags) : Option MatchPoint :=
    (Scanner.matchOf whole entry.2.single text position).map fun after =>
      { position := after.position
        groups := (entry.1, position, after.position) :: (after.shift entry.1).groups }
  have matched : Scanner.matchOf whole (compiled portions) text position =
      (layout 0 portions).findSome? find := by
    rw [Scanner.matchOf_eq, compiled, choice, matching_branches, List.findSome?_map]
    refine Scanner.findSome?_congr fun entry _ => ?_
    exact matching_shift_accepts entry.2 entry.1 whole text position
      (fun after => { after with groups := (entry.1, position, after.position) :: after.groups })
      fun _ => rfl
  have all := map_layout portions 0
  rw [matched]
  conv_rhs => rw [← all, List.map_map]
  refine Scanner.entries_find _ others find _ (layout 0 portions) (fun entry member => ?_)
    fun entry member point found => ?_
  · have fixed : entry.2.regex.looksBehindFixed = true := by
      refine fixed entry.2 ?_
      rw [← all]
      exact List.mem_map_of_mem member
    rw [Function.comp_apply, stop?_eq entry.2 fixed, Option.map_map]
    rfl
  · rcases Option.map_eq_some_iff.mp found with ⟨after, _, rfl⟩
    exact find?_blocks portions 0 entry member

end Portion

namespace Terminal

variable {flags : RegexFlags} {terminal : Terminal}

/-- The names of the groups that a terminal has in an alternation. -/
def groupNames (flags : RegexFlags) (terminal : Terminal) : List String :=
  match Regex.compile terminal.pattern.expression flags with
  | .ok compiled => terminal.name :: compiled.names.map (·.1)
  | .error _ => [terminal.name]

/-- Whether a terminal can be put into an alternation: it has the name of a group, and its
expression can be compiled by itself and is portable. -/
structure Gluable (flags : RegexFlags) (terminal : Terminal) : Prop where
  identifier : Unicode.isIdentifier terminal.name.toList = true
  compiles : ∃ compiled, Regex.compile terminal.pattern.expression flags = .ok compiled
  portable : Regex.isPortable flags terminal.pattern.expression = true

theorem Gluable.exists_portion (gluable : terminal.Gluable flags) :
    ∃ portion : Portion flags, portion.terminal = terminal ∧
      portion.regex.looksBehindFixed = true ∧ portion.names = terminal.groupNames flags := by
  rcases Regex.exists_alone gluable.portable with ⟨regex, own, alone⟩
  rcases gluable.compiles with ⟨compiled, compiles⟩
  have fixed : regex.looksBehindFixed = true := by
    rw [Regex.compile, alone.read_eq rfl] at compiles
    by_contra loose
    simp [loose] at compiles
  refine ⟨⟨terminal, regex, own, alone⟩, rfl, fixed, ?_⟩
  rw [groupNames, alone.compile_eq rfl fixed]
  rfl

end Terminal

namespace Scanner

variable {flags : RegexFlags} {whole : Bool} {terminals run : List Terminal}

theorem exists_portions (each : ∀ terminal ∈ terminals, terminal.Gluable flags) :
    ∃ portions : List (Portion flags), portions.map Portion.terminal = terminals ∧
      (∀ portion ∈ portions, portion.regex.looksBehindFixed = true) ∧
      portions.flatMap Portion.names = terminals.flatMap (Terminal.groupNames flags) := by
  induction terminals with
  | nil => exact ⟨[], rfl, by simp, rfl⟩
  | cons terminal rest ih =>
      rw [List.forall_mem_cons] at each
      rcases each.1.exists_portion with ⟨portion, same, fixed, names⟩
      rcases ih each.2 with ⟨portions, all, others, named⟩
      exact ⟨portion :: portions, by rw [List.map_cons, same, all],
        List.forall_mem_cons.mpr ⟨fixed, others⟩,
        by rw [List.flatMap_cons, List.flatMap_cons, names, named]⟩

theorem ne_nil_of_mem_runs (member : run ∈ runs terminals) : run ≠ [] := by
  induction terminals generalizing run with
  | nil => cases member
  | cons terminal rest ih => grind [runs]

theorem mem_of_mem_runs (member : run ∈ runs terminals) {terminal : Terminal}
    (inside : terminal ∈ run) : terminal ∈ terminals := by
  rw [← flatten_runs terminals]
  exact List.mem_flatten_of_mem member inside

/-- Whether no two groups in one of the alternations for some terminals have the same name. -/
def Apart (flags : RegexFlags) (terminals : List Terminal) : Prop :=
  ∀ run ∈ runs terminals, (run.flatMap (Terminal.groupNames flags)).Nodup

/-- The alternation of terminals that can be put together is compiled if their groups have different
names, and refused if not. -/
theorem compile_run (some_ : run ≠ []) (each : ∀ terminal ∈ run, terminal.Gluable flags) :
    ((run.flatMap (Terminal.groupNames flags)).Nodup →
      ∃ alternation, Regex.compile (Scanner.alternation run) flags = .ok alternation ∧
        ∀ whole, Finds flags whole run alternation) ∧
    (¬(run.flatMap (Terminal.groupNames flags)).Nodup →
      ∃ fault, Regex.compile (Scanner.alternation run) flags = .error fault) := by
  rcases exists_portions each with ⟨portions, rfl, fixed, names⟩
  have identifiers : ∀ portion ∈ portions,
      Unicode.isIdentifier portion.terminal.name.toList = true := fun portion member =>
    (each _ (List.mem_map_of_mem member)).identifier
  rcases Portion.compile_alternation (by simpa using some_) identifiers fixed with
    ⟨compiles, refuses⟩
  have fits := Portion.allFit_iff_nodup portions [] 0 List.nodup_nil
  rw [List.map_nil, List.nil_append] at fits
  rw [← names, ← fits]
  exact ⟨fun apart => ⟨_, compiles apart, Portion.finds_compiled fixed⟩, refuses⟩

/-- A scanner can be made from terminals that can be put together exactly if the groups in each of
its alternations have different names. -/
theorem exists_make_iff (each : ∀ terminal ∈ terminals, terminal.Gluable flags) :
    (∃ scanner, make terminals flags whole = .ok scanner) ↔ Apart flags terminals := by
  have inside {run : List Terminal} (member : run ∈ runs terminals) :
      ∀ terminal ∈ run, terminal.Gluable flags := fun terminal inside =>
    each terminal (mem_of_mem_runs member inside)
  constructor
  · rintro ⟨scanner, made⟩ run member
    by_contra clash
    rcases (compile_run (ne_nil_of_mem_runs member) (inside member)).2 clash with
      ⟨fault, refused⟩
    rcases exists_of_mem_left (alternations_of_make made) member with ⟨compiled, _, compiles⟩
    cases refused.symm.trans compiles
  · intro apart
    refine exists_make fun run member => ?_
    rcases (compile_run (ne_nil_of_mem_runs member) (inside member)).1 (apart run member) with
      ⟨compiled, compiles, _⟩
    exact ⟨compiled, compiles⟩

/-- A scanner of terminals that can be put together is plain. -/
theorem plain_of_make (each : ∀ terminal ∈ terminals, terminal.Gluable flags)
    {scanner : Scanner} (made : make terminals flags whole = .ok scanner) :
    scanner.Plain flags := by
  have apart := (exists_make_iff each).mp ⟨scanner, made⟩
  rcases make_eq_ok made with ⟨same, _⟩
  refine plain_of_finds ?_
  rw [same]
  have compiled := List.forall₂_and_left (p := (· ∈ runs terminals)) _ _ |>.mpr
    ⟨fun _ member => member, alternations_of_make made⟩
  refine compiled.imp fun run alternation known => ?_
  rcases known with ⟨member, compiles⟩
  rcases (compile_run (ne_nil_of_mem_runs member)
      fun terminal inside => each terminal (mem_of_mem_runs member inside)).1
      (apart run member) with
    ⟨alternation', compiles', finds⟩
  cases compiles.symm.trans compiles'
  exact finds _

end Scanner

end Lalr
