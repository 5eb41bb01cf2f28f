import Mathlib.Data.List.Flatten
import Lalr.Proofs.Lexer.Alternation

/-!
# Vocabularies of portable terminals

A lexer checks its terminals one by one, and puts them into alternations only when it is first
asked for a token. If the expressions of its terminals are portable, the scanners for any of them
can be made exactly if no two groups in one alternation have the same name, and they try their
terminals in order. Literals are always portable.
-/

namespace Lalr

namespace Terminal

variable {flags : RegexFlags} {terminal : Terminal}

theorem groupNames_of_literal (literal : terminal.pattern.kind = .literal) :
    terminal.groupNames flags = [terminal.name] := by
  rcases Regex.exists_compile_literal literal flags with ⟨regex, _, _, compiles⟩
  rw [groupNames, compiles]
  rfl

theorem gluable_of_literal (literal : terminal.pattern.kind = .literal)
    (identifier : Unicode.isIdentifier terminal.name.toList = true) : terminal.Gluable flags where
  identifier
  compiles := by
    rcases Regex.exists_compile_literal literal flags with ⟨regex, _, _, compiles⟩
    exact ⟨_, compiles⟩
  portable := Regex.isPortable_of_literal literal flags

end Terminal

namespace Scanner

variable {flags : RegexFlags} {terminals tried : List Terminal}

theorem sublist_of_mem_runs {run : List Terminal} (member : run ∈ runs terminals) :
    run.Sublist terminals := by
  conv_rhs => rw [← flatten_runs terminals]
  exact List.sublist_flatten_of_mem member

/-- Where all groups have different names, those in an alternation have. -/
theorem apart_of_nodup (distinct : (terminals.flatMap (Terminal.groupNames flags)).Nodup)
    (among : tried.Sublist terminals) : Apart flags tried := fun _ member =>
  distinct.sublist (((sublist_of_mem_runs member).trans among).flatMap _)

theorem apart_of_literals (distinct : (terminals.map Terminal.name).Nodup)
    (literals : ∀ terminal ∈ terminals, terminal.pattern.kind = .literal) :
    Apart flags terminals := by
  refine apart_of_nodup ?_ (List.Sublist.refl _)
  rw [List.flatMap_congr fun terminal member =>
    Terminal.groupNames_of_literal (literals terminal member)]
  exact (List.flatMap_pure_eq_map Terminal.name terminals).symm ▸ distinct

end Scanner

namespace Preparing

variable {α β : Type}

/-- Whether preparing something comes to an end, whatever has been announced before. -/
def Succeeds (preparing : Preparing α) : Prop :=
  ∀ before : List String, ∃ value, ∃ after : List String,
    @Eq (Except Failure α × List String) (preparing.run.run before) (.ok value, after)

namespace Succeeds

theorem pure (value : α) : (Pure.pure value : Preparing α).Succeeds :=
  fun before => ⟨value, before, rfl⟩

theorem mk {answer : Except Failure α} (well : ∃ value, answer = .ok value) :
    Preparing.Succeeds (ExceptT.mk (Pure.pure answer) : Preparing α) := by
  rcases well with ⟨value, rfl⟩
  exact fun before => ⟨value, before, rfl⟩

theorem modify (change : List String → List String) : (modify change : Preparing Unit).Succeeds :=
  fun before => ⟨(), change before, rfl⟩

theorem bind {preparing : Preparing α} {rest : α → Preparing β} (first : preparing.Succeeds)
    (goes : ∀ value, preparing.Yields value → (rest value).Succeeds) :
    (preparing >>= rest).Succeeds := by
  intro before
  rcases first before with ⟨given, between, yields⟩
  rcases goes given ⟨before, between, yields⟩ between with ⟨value, after, went⟩
  refine ⟨value, after, ?_⟩
  rw [ExceptT.run_bind, StateT.run_bind, yields]
  exact went

end Succeeds

end Preparing

theorem Terminal.Gluable.exists_matchedLiterals {flags : RegexFlags} {expression : Terminal}
    (gluable : expression.Gluable flags) (literals : List Terminal) :
    ∃ matched, Vocabulary.matchedLiterals flags literals expression = .ok matched := by
  rcases gluable.compiles with ⟨compiled, compiles⟩
  refine exists_filterM fun literal _ => ?_
  rw [Vocabulary.matchesLiteral, compiles]
  simp only [Except.mapError, bind, Except.bind]
  split
  · exact ⟨_, rfl⟩
  · exact ⟨_, rfl⟩

namespace Vocabulary

variable {flags : RegexFlags} {literals terminals : List Terminal} {vocabulary : Vocabulary}

theorem absorb_succeeds (kinds : ∀ literal ∈ literals, literal.pattern.kind = .literal)
    (identifiers : ∀ literal ∈ literals, Unicode.isIdentifier literal.name.toList = true)
    (distinct : (literals.map Terminal.name).Nodup) (rest : List Terminal)
    (each : ∀ terminal ∈ rest, terminal.Gluable flags) :
    (absorb flags literals rest).Succeeds := by
  induction rest with
  | nil => exact .pure _
  | cons terminal rest ih =>
      rw [List.forall_mem_cons] at each
      cases kind : terminal.pattern.kind with
      | literal =>
          rw [absorb_literal terminal kind]
          exact ih each.2
      | expression =>
          rcases each.1.exists_matchedLiterals literals with ⟨matched, went⟩
          rw [absorb_expression terminal kind went]
          rcases matchedLiterals_eq_ok kind went with rfl
          split
          · exact ih each.2
          · refine .bind (.modify _) fun _ _ => .bind (.mk ?_) fun _ _ =>
              .bind (ih each.2) fun _ _ =>
              .pure _
            have some_ {literal : Terminal}
                (member : literal ∈ literals.filter (absorbs flags terminal)) :
                literal ∈ literals := (List.mem_filter.mp member).1
            refine (Scanner.exists_make_iff fun literal member =>
              Terminal.gluable_of_literal (kinds _ (some_ member))
              (identifiers _ (some_ member))).mpr ?_
            exact Scanner.apart_of_literals (distinct.sublist (List.filter_sublist.map _))
              fun literal member => kinds _ (some_ member)

/-- A vocabulary can be prepared from terminals that can be put together, if the groups of those
that are tried have different names. -/
theorem prepare_succeeds (each : ∀ terminal ∈ terminals, terminal.Gluable flags)
    (distinct : (terminals.map Terminal.name).Nodup)
    (apart : ∀ tried : List Terminal, tried.Sublist terminals → Scanner.Apart flags tried) :
    (prepare terminals flags).Succeeds := by
  have sublist : (literals terminals).Sublist terminals := List.filter_sublist
  refine .bind (absorb_succeeds (fun literal member => (mem_literals.mp member).2)
    (fun literal member => (each literal (sublist.mem member)).identifier)
    (distinct.sublist (sublist.map _)) terminals each) fun found _ =>
    .bind (.mk ?_) fun _ _ => .pure _
  exact (Scanner.exists_make_iff fun terminal member =>
    each terminal (List.mem_of_mem_filter member)).mpr (apart _ List.filter_sublist)

/-- All scanners of a vocabulary of terminals that can be put together are plain. -/
theorem plain_of_prepare (each : ∀ terminal ∈ terminals, terminal.Gluable flags)
    (yields : (prepare terminals flags).Yields vocabulary) : vocabulary.Plain flags := by
  rcases prepare_yields yields with ⟨left, made, ⟨_, _, rfl⟩, scanners, settled, absorbing⟩
  refine ⟨Scanner.plain_of_make (fun terminal member =>
    each terminal (List.mem_of_mem_filter member))
    made, fun entry member => ?_⟩
  rw [settled] at member
  rcases exists_of_mem_right absorbing (Data.mem_of_settle member) with ⟨expression, _, _, made⟩
  exact Scanner.plain_of_make (fun literal member => each literal (mem_absorbedBy.mp member).1) made

end Vocabulary

namespace Lexer

variable {number : Nat} {settings : LexerSettings} {lexer : Lexer}

/-- A terminal that has been checked can be compiled by itself. -/
theorem compiles_of_validate {flags : RegexFlags} {terminal : Terminal}
    (valid : validate flags terminal = .ok ()) :
    ∃ compiled, Regex.compile terminal.pattern.expression flags = .ok compiled := by
  unfold validate at valid
  split at valid
  · cases valid
  · cases valid
  next compiled compiles => exact ⟨compiled, compiles⟩

theorem validate_of_make (made : make number settings = .ok lexer)
    (checks : settings.skipValidation = false) :
    ∀ terminal ∈ settings.terminals, validate settings.flags terminal = .ok () := by
  have checked := check_of_make made
  simp only [check, checks, Bool.false_eq_true, if_false] at checked
  rcases bind_eq_ok.mp checked with ⟨⟨⟩, validated, _⟩
  exact forM_eq_ok validated

/-- Terminals of a lexer that checks them can be put together if they have the names of groups and
their expressions are portable. -/
theorem gluable_of_make (made : make number settings = .ok lexer)
    (checks : settings.skipValidation = false)
    (identifiers : ∀ terminal ∈ settings.terminals,
      Unicode.isIdentifier terminal.name.toList = true)
    (portable : ∀ terminal ∈ settings.terminals, terminal.pattern.kind = .expression →
      Regex.isPortable settings.flags terminal.pattern.expression = true) :
    ∀ terminal ∈ settings.terminals, terminal.Gluable settings.flags := by
  intro terminal member
  cases kind : terminal.pattern.kind with
  | literal => exact Terminal.gluable_of_literal kind (identifiers terminal member)
  | expression => exact ⟨identifiers terminal member,
      compiles_of_validate (validate_of_make made checks terminal member),
      portable terminal member kind⟩

theorem vocabulary_ofOrdered (number : Nat) (settings : LexerSettings) (terminals : List Terminal) :
    (ofOrdered number settings terminals).vocabulary.get =
      (Vocabulary.prepare terminals settings.flags).run.run [] := rfl

/-- The vocabulary of a lexer can be prepared if its terminals can be put together and all of their
groups have different names. -/
theorem exists_vocabulary_of_make (made : make number settings = .ok lexer)
    (distinct : (settings.terminals.map Terminal.name).Nodup)
    (gluable : ∀ terminal ∈ settings.terminals, terminal.Gluable settings.flags)
    (apart : (settings.terminals.flatMap (Terminal.groupNames settings.flags)).Nodup) :
    ∃ vocabulary, lexer.vocabulary.get.1 = .ok vocabulary := by
  rcases make_eq_ok.mp made with ⟨_, ordered, went, rfl⟩
  have permuted := perm_of_inOrder went
  have each : ∀ terminal ∈ ordered, terminal.Gluable settings.flags := by
    intro terminal member
    exact gluable terminal (permuted.subset member)
  rcases Vocabulary.prepare_succeeds each ((permuted.map _).nodup_iff.mpr distinct)
    (fun tried among => Scanner.apart_of_nodup
      ((permuted.flatMap_right _).nodup_iff.mpr apart) among) []
    with ⟨vocabulary, _, yields⟩
  exact ⟨vocabulary, congrArg Prod.fst yields⟩

/-- The scanners of a lexer try terminals in order. If a lexer has checked its terminals and the
expressions of these are portable, then a scanner of some of them can be made exactly if no two
groups in one of its alternations have the same name; wherever it is asked, it finds what the first
terminal finds that matches there by itself, up to the end of the text if it is a whole scanner, and
nothing only if none of them matches. The scanners of the lexer itself can be made if no two groups
of all its terminals have the same name. -/
theorem scanners_try_in_order (made : make number settings = .ok lexer)
    (checks : settings.skipValidation = false)
    (identifiers : ∀ terminal ∈ settings.terminals,
      Unicode.isIdentifier terminal.name.toList = true)
    (distinct : (settings.terminals.map Terminal.name).Nodup)
    (portable : ∀ terminal ∈ settings.terminals, terminal.pattern.kind = .expression →
      Regex.isPortable settings.flags terminal.pattern.expression = true) :
    (∀ (tried : List Terminal) (whole : Bool), tried ⊆ settings.terminals →
      ((∃ scanner, Scanner.make tried settings.flags whole = .ok scanner) ↔
        Scanner.Apart settings.flags tried) ∧
      ∀ scanner, Scanner.make tried settings.flags whole = .ok scanner →
        ∀ text position, scanner.matchAt text position =
          Scanner.firstOf settings.flags whole text position tried) ∧
    ((settings.terminals.flatMap (Terminal.groupNames settings.flags)).Nodup →
      ∃ vocabulary, lexer.vocabulary.get.1 = .ok vocabulary) ∧
    ∀ vocabulary, lexer.vocabulary.get.1 = .ok vocabulary →
      vocabulary.Plain settings.flags := by
  have each := gluable_of_make made checks identifiers portable
  refine ⟨fun tried whole among => ?_, exists_vocabulary_of_make made distinct each,
    fun vocabulary prepared => ?_⟩
  · have each' : ∀ terminal ∈ tried, terminal.Gluable settings.flags := fun terminal member =>
      each terminal (among member)
    refine ⟨Scanner.exists_make_iff each', fun scanner made text position => ?_⟩
    rcases Scanner.make_eq_ok made with ⟨same, same'⟩
    rw [Scanner.plain_of_make each' made, same, same']
  · rcases vocabulary_of_make made prepared with ⟨ordered, permuted, yields⟩
    exact Vocabulary.plain_of_prepare
      (fun terminal member => each terminal (permuted.subset member)) yields

theorem width_of_expression {pattern : Pattern} {width : Width} (kind : pattern.kind = .expression)
    (computed : pattern.storedWidth = none)
    (measured : Regex.widthOf pattern.expression = .ok width) :
    pattern.width = .ok width := by
  rw [Pattern.width, kind, computed, measured]

/-- What is measured of an expression is what it is compiled to without flags. -/
theorem width_of_compile {pattern : Pattern} {compiled : CompiledRegex}
    (kind : pattern.kind = .expression) (computed : pattern.storedWidth = none)
    (compiles : Regex.compile pattern.expression {} = .ok compiled) :
    pattern.width = .ok compiled.regex.width.report :=
  width_of_expression kind computed (by rw [Regex.widthOf, Regex.read_of_compile compiles])

/-- A terminal passes if it can be compiled and takes up some text. -/
theorem validate_eq_ok {flags : RegexFlags} {terminal : Terminal} {compiled : CompiledRegex}
    {width : Width} (compiles : Regex.compile terminal.pattern.expression flags = .ok compiled)
    (measured : terminal.pattern.width = .ok width) (proper : width.least ≠ 0) :
    validate flags terminal = .ok () := by
  simp only [validate, compiles, measured]
  exact if_neg (by simpa using proper)

/-- A lexer can be made of terminals that pass, and leaves them as they are if they are in order. -/
theorem make_of_pairwise {flags : RegexFlags} {entries : List (Terminal × Nat)}
    (valid : ∀ entry ∈ entries, validate flags entry.1 = .ok ())
    (measures : ∀ entry ∈ entries, measured entry.1 = .ok entry)
    (ordered : entries.Pairwise fun a b => goesBefore a b = true) :
    make number { terminals := entries.map (·.1), flags } =
      .ok (ofOrdered number { terminals := entries.map (·.1), flags } (entries.map (·.1))) := by
  have checked : check { terminals := entries.map (·.1), flags } = .ok () := by
    rw [check, if_neg Bool.false_ne_true]
    exact bind_eq_ok.mpr ⟨(), forM_of_forall (List.forall_mem_map.mpr valid), rfl⟩
  have sorted : inOrder (entries.map (·.1)) = .ok (entries.map (·.1)) := by
    refine inOrder_eq_ok.mpr ⟨entries, ?_, by rw [List.mergeSort_of_pairwise ordered]⟩
    rw [List.forall₂_map_left_iff, List.forall₂_same]
    exact measures
  exact make_eq_ok.mpr ⟨checked, _, sorted, rfl⟩

theorem measured_eq_ok {terminal : Terminal} {width : Width}
    (measures : terminal.pattern.width = .ok width) :
    measured terminal = .ok (terminal, width.most) := by
  rw [measured, measures]
  rfl

/-- A lexer can be made of one terminal that passes. -/
theorem make_single {flags : RegexFlags} {terminal : Terminal} {compiled : CompiledRegex}
    {width : Width} (compiles : Regex.compile terminal.pattern.expression flags = .ok compiled)
    (measures : terminal.pattern.width = .ok width) (proper : width.least ≠ 0) :
    make number { terminals := [terminal], flags } =
      .ok (ofOrdered number { terminals := [terminal], flags } [terminal]) :=
  @make_of_pairwise number flags [(terminal, width.most)]
    (List.forall_mem_singleton.mpr (validate_eq_ok compiles measures proper))
    (List.forall_mem_singleton.mpr (measured_eq_ok measures)) (List.pairwise_singleton _ _)

/-- A doubled letter. -/
def doubled : Terminal where
  name := "A"
  pattern := { kind := .expression, value := "(?P<x>a)(?P=x)" }

def doubledSettings : LexerSettings where
  terminals := [doubled]

theorem read_doubled : Regex.compile doubled.pattern.expression doubledSettings.flags =
      .ok ⟨.sequence (.group 1 (.char 'a')) (.backReference 1 ⟨1, 1⟩), {}, [("x", 1)]⟩ ∧
    Regex.isPortable doubledSettings.flags doubled.pattern.expression = true :=
  ⟨eq_ok_of_toOption (by decide +kernel), by decide +kernel⟩

theorem width_doubled : doubled.pattern.width = .ok ⟨2, 2⟩ :=
  width_of_compile rfl rfl read_doubled.1

theorem make_doubled : make 0 doubledSettings = .ok (ofOrdered 0 doubledSettings [doubled]) :=
  make_single read_doubled.1 width_doubled (by decide)

theorem scanners_try_in_order_doubled :
    (∃ scanner, Scanner.make [doubled] {} false = .ok scanner ∧
      scanner.matchAt "aab".toList.toArray 0 = some (2, "A") ∧
      scanner.matchAt "aab".toList.toArray 1 = none) ∧
    ∃ vocabulary, (ofOrdered 0 doubledSettings [doubled]).vocabulary.get.1 = .ok vocabulary ∧
      vocabulary.Plain {} := by
  have identifiers : ∀ terminal ∈ doubledSettings.terminals,
      Unicode.isIdentifier terminal.name.toList = true := by decide
  have portable : ∀ terminal ∈ doubledSettings.terminals,
      terminal.pattern.kind = .expression →
      Regex.isPortable doubledSettings.flags terminal.pattern.expression = true :=
    List.forall_mem_singleton.mpr fun _ => read_doubled.2
  have names : [doubled].flatMap (Terminal.groupNames doubledSettings.flags) = ["A", "x"] := by
    rw [List.flatMap_singleton, Terminal.groupNames, read_doubled.1]
    rfl
  have apart : ([doubled].flatMap (Terminal.groupNames doubledSettings.flags)).Nodup := by
    rw [names]
    decide
  rcases scanners_try_in_order make_doubled rfl identifiers (by decide) portable with
    ⟨scanners, prepares, plain⟩
  rcases scanners [doubled] false (List.Subset.refl _) with ⟨possible, each⟩
  rcases possible.mpr (Scanner.apart_of_nodup apart (List.Sublist.refl _)) with ⟨scanner, made⟩
  rcases prepares apart with ⟨vocabulary, prepared⟩
  refine ⟨⟨scanner, made, ?_, ?_⟩, vocabulary, prepared, plain vocabulary prepared⟩
  · rw [each scanner made, Scanner.firstOf, List.findSome?_singleton, Terminal.stop?,
      read_doubled.1]
    rfl
  · rw [each scanner made, Scanner.firstOf, List.findSome?_singleton, Terminal.stop?,
      read_doubled.1]
    rfl

/-- A reference by a number, which refers to another group in an alternation. -/
def numbered : Terminal where
  name := "A"
  pattern := { kind := .expression, value := "(a)(b)\\2" }

/-- What the reference is by itself, and in an alternation. -/
theorem compile_numbered :
    Regex.compile numbered.pattern.expression {} =
      .ok ⟨.sequence (.group 1 (.char 'a'))
        (.sequence (.group 2 (.char 'b')) (.backReference 2 ⟨1, 1⟩)), {}, []⟩ ∧
    Regex.compile (Scanner.alternation [numbered]) {} =
      .ok ⟨.group 1 (.sequence (.group 2 (.char 'a'))
        (.sequence (.group 3 (.char 'b')) (.backReference 2 ⟨1, 1⟩))), {}, [("A", 1)]⟩ :=
  ⟨eq_ok_of_toOption (by decide +kernel), eq_ok_of_toOption (by decide +kernel)⟩

/-- Flags for the whole of an expression, which an alternation refuses. -/
def overall : Terminal where
  name := "A"
  pattern := { kind := .expression, value := "(?i)a" }

/-- A terminal that passes may find nothing in a scanner where it matches by itself, and a scanner
may be refused although its terminals pass. -/
theorem scanner_differs :
    (validate {} numbered = .ok () ∧
      Scanner.firstOf {} false "abb".toList.toArray 0 [numbered] = some (3, "A") ∧
      ∃ scanner, Scanner.make [numbered] {} = .ok scanner ∧
        scanner.matchAt "abb".toList.toArray 0 = none) ∧
    validate {} overall = .ok () ∧
      Scanner.make [overall] {} = .error (.fault .malformedRegex) := by
  have measured : numbered.pattern.width = .ok ⟨3, 3⟩ :=
    width_of_compile rfl rfl compile_numbered.1
  have made : Scanner.make [numbered] {} = .ok ⟨[numbered], false, [_]⟩ :=
    bind_eq_ok.mpr ⟨_,
      mapM_of_forall₂ (.cons (Scanner.mapError_eq_ok.mpr compile_numbered.2) .nil),
      rfl⟩
  refine ⟨⟨validate_eq_ok compile_numbered.1 measured (by decide), ?_, _, made, rfl⟩,
    eq_ok_of_toOption (by decide +kernel), eq_error_of_failureOf? (by decide +kernel)⟩
  rw [Scanner.firstOf, List.findSome?_singleton, Terminal.stop?, compile_numbered.1]
  rfl

end Lexer

end Lalr
