import Lalr.Proofs.Lexer.Preparing
import Lalr.Proofs.Lexer.Undisputed

/-!
# What becomes of literals that are not tried

A literal that an expression absorbs is not tried on its own, because the expression matches it
where nothing is around it. In a text the expression may match something else, or nothing, and
another terminal may get ahead of it. The token stays the same exactly where the terminal that is
tried instead of the literal absorbs it and matches as much.
-/

namespace Lalr

namespace Vocabulary

variable {flags : RegexFlags} {terminals : List Terminal} {vocabulary : Vocabulary} {full : Scanner}
  {text : Array Char} {position stop : Nat} {name : String}

/-- Where what a scanner finds ends, and the kind that a token gets for it. -/
def chosen (vocabulary : Vocabulary) (scanner : Scanner) (text : Array Char) (position : Nat) :
    Option (Nat × String) :=
  (scanner.matchAt text position).map fun found =>
    (found.1, vocabulary.kindOf found.2 (String.ofList (text.extract position found.1).toList))

/-- Whether a literal that is not tried has a stand-in where it would be the first terminal to
match: the first one that does match absorbs the literal, and ends where the literal ends. -/
def StandsIn (vocabulary : Vocabulary) (flags : RegexFlags) (terminals : List Terminal)
    (text : Array Char) (position : Nat) : Prop :=
  ∀ literal ∈ terminals, ∀ stop, Replaced flags terminals literal.name →
    Scanner.firstOf flags false text position terminals = some (stop, literal.name) →
    ∃ expression ∈ terminals, absorbs flags expression literal = true ∧
      Scanner.firstOf flags false text position vocabulary.scanner.terminals =
        some (stop, expression.name)

theorem absorbedBy_eq_filter (expression : Terminal) :
    absorbedBy flags terminals expression = terminals.filter fun literal =>
      absorbs flags expression literal && literal.pattern.kind == .literal := by
  rw [absorbedBy, literals, List.filter_filter]

/-- What the first terminal of all finds is found if the terminal is tried. -/
theorem firstOf_tried (yields : (prepare terminals flags).Yields vocabulary)
    (kept : ¬Replaced flags terminals name)
    (first : Scanner.firstOf flags false text position terminals = some (stop, name)) :
    Scanner.firstOf flags false text position vocabulary.scanner.terminals = some (stop, name) := by
  rcases prepare_yields yields with ⟨left, made, ⟨replaced, names, rfl⟩, _⟩
  have keeps : ∀ found, Scanner.firstOf flags false text position terminals = some found →
      (!replaced.contains found.2) = true := by
    intro found same
    rw [first] at same
    cases same
    simpa [names] using kept
  rw [(Scanner.make_eq_ok made).1,
    Scanner.firstOf_filter (fun name => !replaced.contains name) keeps,
    first]

section Kinds

variable (distinct : (terminals.map Terminal.name).Nodup)
  (yields : (prepare terminals flags).Yields vocabulary) (plain : vocabulary.Plain flags)

include distinct yields plain

/-- The token of a literal stays one. -/
theorem kindOf_literal {literal : Terminal} (member : literal ∈ terminals)
    (kind : literal.pattern.kind = .literal) (text : String) :
    vocabulary.kindOf literal.name text = literal.name := by
  have nothing : absorbedBy flags terminals literal = [] := by
    simp [absorbedBy, absorbs, kind]
  rw [kindOf_eq distinct yields plain member, nothing]
  rfl

/-- A token of an expression becomes the literal that it absorbs, if the literal is the first
terminal of all to match what the expression has matched. No literal that goes before it matches the
whole of that, because it would match there in the text. -/
theorem kindOf_absorbing {expression literal : Terminal} (member : expression ∈ terminals)
    (member' : literal ∈ terminals) (kind : literal.pattern.kind = .literal)
    (absorbing : absorbs flags expression literal = true)
    (first : Scanner.firstOf flags false text position terminals = some (stop, literal.name)) :
    vocabulary.kindOf expression.name (String.ofList (text.extract position stop).toList) =
      literal.name := by
  rcases Scanner.firstOf_eq_some.mp first with
    ⟨before, terminal, after, split, stops, named, earlier⟩
  have among : terminal ∈ terminals := by simp [split]
  rcases List.inj_on_of_nodup_map distinct among member' named with rfl
  rcases Terminal.stop?_extract kind stops with ⟨stop', whole⟩
  have found : Scanner.firstOf flags true (text.extract position stop) 0
      (absorbedBy flags terminals expression) = some (stop', terminal.name) := by
    rw [absorbedBy_eq_filter, split, List.filter_append,
      List.filter_cons_of_pos (by simp [absorbing, kind])]
    apply Scanner.firstOf_eq_some.mpr
    refine ⟨_, terminal, _, rfl, whole, rfl, ?_⟩
    intro other listed
    rcases List.mem_filter.mp listed with ⟨ahead, absorbed⟩
    have literal : other.pattern.kind = .literal := by
      simpa using (Bool.and_eq_true_iff.mp absorbed).2
    cases matched : other.stop? flags true (text.extract position stop) 0 with
    | none => rfl
    | some stop'' =>
        have here := Terminal.stop?_of_extract literal matched
        rw [earlier other ahead] at here
        cases here
  rw [kindOf_eq distinct yields plain member, String.toList_ofList, Array.toArray_toList, found]
  rfl

/-- A token becomes a literal only if its terminal absorbs it. -/
theorem absorbs_of_kindOf {terminal literal : Terminal} (member : terminal ∈ terminals)
    (member' : literal ∈ terminals) (differs : terminal.name ≠ literal.name) {text : String}
    (turned : vocabulary.kindOf terminal.name text = literal.name) :
    absorbs flags terminal literal = true := by
  have turns : vocabulary.kindOf terminal.name text ≠ terminal.name := by
    rw [turned]
    exact Ne.symm differs
  rcases exists_of_kindOf_ne distinct yields plain member turns with ⟨other, absorbed, same, _⟩
  rcases mem_absorbedBy.mp absorbed with ⟨among, _, absorbing⟩
  rcases List.inj_on_of_nodup_map distinct among member' (same.symm.trans turned) with rfl
  exact absorbing

/-- The token stays the same when literals are not tried exactly where they have stand-ins. -/
theorem chosen_eq_iff (made : Scanner.make terminals flags = .ok full) (whole : full.Plain flags) :
    vocabulary.chosen vocabulary.scanner text position = vocabulary.chosen full text position ↔
      vocabulary.StandsIn flags terminals text position := by
  rcases Scanner.make_eq_ok made with ⟨all, ends⟩
  have found : full.matchAt text position = Scanner.firstOf flags false text
      position terminals := by
    rw [whole, all, ends]
  rw [chosen, chosen, found, matchAt_eq yields plain]
  cases first : Scanner.firstOf flags false text position terminals with
  | none =>
      have none : Scanner.firstOf flags false text position
          vocabulary.scanner.terminals = none := by
        apply Scanner.firstOf_eq_none.mpr
        intro terminal member
        exact Scanner.firstOf_eq_none.mp first terminal ((tried_sublist yields).subset member)
      simp [StandsIn, first, none]
  | some match_ =>
      rcases match_ with ⟨stop, name⟩
      by_cases replaced : Replaced flags terminals name
      · have known := replaced
        rcases known with ⟨_, _, literal, absorbed, _, rfl⟩
        rcases mem_absorbedBy.mp absorbed with ⟨member, kind, _⟩
        rw [Option.map_some, kindOf_literal distinct yields plain member kind]
        constructor
        · intro same other member' stop' _ first'
          have again := Option.some.inj (first.symm.trans first')
          rcases Prod.mk.inj again with ⟨rfl, named⟩
          rcases List.inj_on_of_nodup_map distinct member member' named with rfl
          rcases Option.map_eq_some_iff.mp same with ⟨⟨stop', name⟩, tried, same⟩
          rcases Prod.mk.inj same with ⟨rfl, turned⟩
          rcases Scanner.firstOf_eq_some.mp tried with
            ⟨before, terminal, after, split, _, rfl, _⟩
          rcases (mem_tried yields).mp
            (show terminal ∈ vocabulary.scanner.terminals by simp [split])
            with ⟨among, kept⟩
          have differs : terminal.name ≠ literal.name := by
            intro same
            rw [same] at kept
            exact kept replaced
          have absorbing := absorbs_of_kindOf distinct yields plain among member differs turned
          exact ⟨terminal, among, absorbing, tried⟩
        · intro stands
          rcases stands literal member stop replaced first with
            ⟨expression, among, absorbing, first'⟩
          rw [first', Option.map_some,
            kindOf_absorbing distinct yields plain among member kind absorbing first]
      · have kept := firstOf_tried yields replaced first
        rw [kept]
        refine iff_of_true rfl ?_
        intro literal member stop' replaced' first'
        rw [first] at first'
        cases first'
        exact absurd replaced' replaced

/-- Where a literal matches, a token is found if the literal is tried, or if an expression that
absorbs it matches as well. -/
theorem isSome_chosen {literal : Terminal} (member : literal ∈ terminals)
    (stops : (literal.stop? flags false text position).isSome = true)
    (ready : ¬Replaced flags terminals literal.name ∨ ∃ expression ∈ terminals,
      absorbs flags expression literal = true ∧
        (expression.stop? flags false text position).isSome = true) :
    (vocabulary.chosen vocabulary.scanner text position).isSome = true := by
  have tried : ∃ terminal ∈ vocabulary.scanner.terminals,
      (terminal.stop? flags false text position).isSome = true := by
    rcases ready with kept | ⟨expression, among, absorbing, here⟩
    · exact ⟨literal, (mem_tried yields).mpr ⟨member, kept⟩, stops⟩
    · refine ⟨expression, (mem_tried yields).mpr ⟨among, ?_⟩, here⟩
      rintro ⟨_, _, other, absorbed, _, same⟩
      rcases mem_absorbedBy.mp absorbed with ⟨among', kind, _⟩
      rcases List.inj_on_of_nodup_map distinct among' among same with rfl
      simp [absorbs, kind] at absorbing
  rcases tried with ⟨terminal, member, here⟩
  rw [chosen, Option.isSome_map, matchAt_eq yields plain, Option.isSome_iff_ne_none]
  intro none
  rw [Scanner.firstOf_eq_none.mp none terminal member] at here
  cases here

end Kinds

end Vocabulary

namespace Lexer

variable {number : Nat} {settings : LexerSettings} {lexer : Lexer}

/-- Not trying the literals that expressions absorb changes a token nowhere but where such a literal
is the first terminal of all to match and has no stand-in. Where a literal matches, a token is found
at least if the literal is tried or an expression that absorbs it matches. -/
theorem token_kept_iff (made : make number settings = .ok lexer)
    (checks : settings.skipValidation = false)
    (identifiers : ∀ terminal ∈ settings.terminals,
      Unicode.isIdentifier terminal.name.toList = true)
    (distinct : (settings.terminals.map Terminal.name).Nodup)
    (portable : ∀ terminal ∈ settings.terminals, terminal.pattern.kind = .expression →
      Regex.isPortable settings.flags terminal.pattern.expression = true) :
    inOrder settings.terminals = .ok lexer.terminals ∧
    ((settings.terminals.flatMap (Terminal.groupNames settings.flags)).Nodup →
      (∃ vocabulary, lexer.vocabulary.get.1 = .ok vocabulary) ∧
        ∃ full, Scanner.make lexer.terminals settings.flags = .ok full) ∧
    ∀ vocabulary full, lexer.vocabulary.get.1 = .ok vocabulary →
      Scanner.make lexer.terminals settings.flags = .ok full → ∀ text position,
        (vocabulary.chosen vocabulary.scanner text position =
            vocabulary.chosen full text position ↔
          vocabulary.StandsIn settings.flags lexer.terminals text position) ∧
        ∀ literal ∈ lexer.terminals,
          (literal.stop? settings.flags false text position).isSome = true →
          (¬Vocabulary.Replaced settings.flags lexer.terminals literal.name ∨
            ∃ expression ∈ lexer.terminals,
              Vocabulary.absorbs settings.flags expression literal = true ∧
                (expression.stop? settings.flags false text position).isSome = true) →
          (vocabulary.chosen vocabulary.scanner text position).isSome = true := by
  have gluable := gluable_of_make made checks identifiers portable
  have prepares := exists_vocabulary_of_make made distinct gluable
  rcases make_eq_ok.mp made with ⟨_, ordered, went, rfl⟩
  have permuted := perm_of_inOrder went
  have gluable : ∀ terminal ∈ ordered, terminal.Gluable settings.flags := by
    intro terminal member
    exact gluable terminal (permuted.subset member)
  refine ⟨went, ?_, ?_⟩
  · intro apart
    have apart' := (permuted.flatMap_right (Terminal.groupNames settings.flags)).nodup_iff.mpr apart
    refine ⟨prepares apart, (Scanner.exists_make_iff gluable).mpr ?_⟩
    exact Scanner.apart_of_nodup apart' (List.Sublist.refl _)
  · intro vocabulary full prepared made' text position
    have distinct := (permuted.map Terminal.name).nodup_iff.mpr distinct
    have yields : (Vocabulary.prepare ordered settings.flags).Yields vocabulary :=
      ⟨[], _, Prod.ext prepared rfl⟩
    have plain := Vocabulary.plain_of_prepare gluable yields
    refine ⟨Vocabulary.chosen_eq_iff distinct yields plain made' ?_, ?_⟩
    · exact Scanner.plain_of_make gluable made'
    · intro literal member stops ready
      exact Vocabulary.isSome_chosen distinct yields plain member stops ready

/-- A word that no digit follows. -/
def guarded : Terminal where
  name := "R"
  pattern := { kind := .expression, value := "if(?!1)" }

/-- The word as a literal, which the expression absorbs. -/
def word : Terminal where
  name := "IF"
  pattern := { kind := .literal, value := "if" }

def guardedSettings : LexerSettings where
  terminals := [guarded, word]

theorem compile_guarded : Regex.compile guarded.pattern.expression {} =
    .ok ⟨.sequence (.char 'i') (.sequence (.char 'f') (.look false true (.char '1'))),
      {}, []⟩ := by
  decide +kernel

theorem make_guarded :
    make 0 guardedSettings = .ok (ofOrdered 0 guardedSettings [guarded, word]) := by
  have width : guarded.pattern.width = .ok ⟨2, 2⟩ := width_of_compile rfl rfl compile_guarded
  rcases Regex.exists_compile_literal (show word.pattern.kind = .literal from rfl) {} with
    ⟨_, _, _, compiles⟩
  apply @make_of_pairwise 0 {} [(guarded, 2), (word, 2)]
  · simp only [List.forall_mem_cons]
    exact ⟨validate_eq_ok compile_guarded width (by decide),
      validate_eq_ok compiles rfl (by decide), List.forall_mem_nil _⟩
  · simp only [List.forall_mem_cons]
    exact ⟨measured_eq_ok width, rfl, List.forall_mem_nil _⟩
  · decide

theorem token_kept_iff_word :
    ∃ lexer vocabulary full, make 0 guardedSettings = .ok lexer ∧
      lexer.vocabulary.get.1 = .ok vocabulary ∧
      Scanner.make lexer.terminals guardedSettings.flags = .ok full ∧
      vocabulary.chosen vocabulary.scanner "if".toList.toArray 0 =
        vocabulary.chosen full "if".toList.toArray 0 ∧
      (vocabulary.chosen vocabulary.scanner "if".toList.toArray 0).isSome = true := by
  have portable : ∀ terminal ∈ guardedSettings.terminals,
      terminal.pattern.kind = .expression →
      Regex.isPortable guardedSettings.flags terminal.pattern.expression = true := by
    decide +kernel
  have names : guardedSettings.terminals.flatMap (Terminal.groupNames guardedSettings.flags) =
      ["R", "IF"] := by
    have own : guarded.groupNames {} = ["R"] := by
      rw [Terminal.groupNames, compile_guarded]
      rfl
    have own' : word.groupNames {} = ["IF"] := Terminal.groupNames_of_literal rfl
    simp [guardedSettings, own, own']
  rcases token_kept_iff make_guarded rfl (by decide) (by decide) portable with
    ⟨_, prepares, each⟩
  rcases prepares (by rw [names]; decide) with ⟨⟨vocabulary, prepared⟩, full, made⟩
  rcases each vocabulary full prepared made "if".toList.toArray 0 with ⟨kept, found⟩
  have first : Scanner.firstOf {} false "if".toList.toArray 0 [guarded, word] = some (2, "R") := by
    decide +kernel
  refine ⟨_, vocabulary, full, make_guarded, prepared, made, kept.mpr ?_, ?_⟩
  · intro literal _ stop replaced first'
    rcases replaced with ⟨_, _, other, absorbed, _, same⟩
    rcases Vocabulary.mem_absorbedBy.mp absorbed with ⟨member, kind, _⟩
    have named : other.name = "R" := by
      rw [same]
      exact (Prod.mk.inj (Option.some.inj (first'.symm.trans first))).2
    rcases List.mem_pair.mp member with rfl | rfl
    · cases kind
    · exact absurd named (by decide)
  · exact found word (by simp [ofOrdered]) (by decide +kernel)
      (.inr ⟨guarded, by simp [ofOrdered], by decide +kernel, by decide +kernel⟩)

/-- What is chosen at the beginning of a text if the literal is not tried, and if it is. -/
def guardedChoices (text : String) : Option (Option (Nat × String) × Option (Nat × String)) :=
  ((Vocabulary.prepare [guarded, word] {}).run.run []).1.toOption.bind fun vocabulary =>
    (Scanner.make [guarded, word] {}).toOption.map fun full =>
      (vocabulary.chosen vocabulary.scanner text.toList.toArray 0,
        vocabulary.chosen full text.toList.toArray 0)

/-- A literal that is absorbed may be lost: where a digit follows the word the expression does not
match, and nothing else is tried. -/
theorem word_is_lost :
    ∃ lexer vocabulary full, make 0 guardedSettings = .ok lexer ∧
      lexer.vocabulary.get.1 = .ok vocabulary ∧
      Scanner.make lexer.terminals guardedSettings.flags = .ok full ∧
      vocabulary.chosen vocabulary.scanner "if1".toList.toArray 0 = none ∧
      vocabulary.chosen full "if1".toList.toArray 0 = some (2, "IF") := by
  have choices : guardedChoices "if1" = some (none, some (2, "IF")) := by decide +kernel
  rcases Option.bind_eq_some_iff.mp choices with ⟨vocabulary, prepared, choices⟩
  rcases Option.map_eq_some_iff.mp choices with ⟨full, made, chosen⟩
  rcases Prod.mk.inj chosen with ⟨tried, all⟩
  have ok {α : Type} {answer : Except Failure α} {value : α}
      (some_ : answer.toOption = some value) :
      answer = .ok value := by
    cases answer <;> simp_all [Except.toOption]
  refine ⟨_, vocabulary, full, make_guarded, ?_, ok made, tried, all⟩
  rw [vocabulary_ofOrdered]
  exact ok prepared

end Lexer

end Lalr
