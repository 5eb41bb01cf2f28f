import Lalr.Proofs.Lexer.Ordering
import Lalr.Proofs.Lexer.Preparing
import Lalr.Proofs.Lexer.Reading

/-!
# Words that become keywords

A token of an expression becomes a literal if the expression absorbs the literal, and the literal
matches the whole of the token. What an expression absorbs is settled beforehand, from the one
spelling in which a literal is written: the expression has to match that spelling by itself. A
literal that matches other spellings as well, because it is read without regard to case, comes back
in all of them if the expression matches the spelling in which it is written, and in none if it does
not.
-/

namespace Lalr

namespace Vocabulary

variable {flags : RegexFlags} {terminals : List Terminal} {vocabulary : Vocabulary}
  {expression literal : Terminal}

/-- An expression absorbs the literals of its priority whose spelling it matches by itself. -/
theorem absorbs_iff : absorbs flags expression literal = true ↔
    expression.pattern.kind = .expression ∧ literal.priority = expression.priority ∧
      expression.stop? flags false literal.pattern.value.toList.toArray 0 =
        some literal.pattern.value.toList.length := by
  have spelled : (matchesLiteral flags expression literal).toOption.getD false = true ↔
      expression.stop? flags false literal.pattern.value.toList.toArray 0 =
        some literal.pattern.value.toList.length := by
    unfold matchesLiteral Terminal.stop?
    cases Regex.compile expression.pattern.expression flags with
    | error fault => simp [Except.mapError, bind, Except.bind, Except.toOption]
    | ok compiled =>
        simp only [Except.mapError, bind, Except.bind, Bool.false_eq_true, if_false]
        cases compiled.matchAt literal.pattern.value.toList.toArray 0 with
        | none => simp [Except.toOption, pure, Except.pure]
        | some point => simp [Except.toOption, pure, Except.pure]
  rw [absorbs, Bool.and_eq_true, Bool.and_eq_true, spelled, beq_iff_eq, beq_iff_eq, and_assoc]

/-- What becomes of a token is up to one of the expressions with the name of its terminal, if any of
them absorbs something: the token becomes the first literal that this expression absorbs and that
matches the whole of its text. -/
theorem exists_absorber (yields : (prepare terminals flags).Yields vocabulary)
    (identifiers : ∀ terminal ∈ terminals, Unicode.isIdentifier terminal.name.toList = true)
    (name : String) :
    ((∀ text, vocabulary.kindOf name text = name) ∧
      ∀ expression ∈ terminals, expression.name = name →
        absorbedBy flags terminals expression = []) ∨
    ∃ expression ∈ terminals, expression.name = name ∧ ∀ text, vocabulary.kindOf name text =
      ((Scanner.firstOf flags true text.toList.toArray 0
        (absorbedBy flags terminals expression)).map Prod.snd).getD name := by
  rcases prepare_yields yields with ⟨_, _, _, scanners, settled, each⟩
  cases known : assoc? vocabulary.absorbed name with
  | none =>
      left
      refine ⟨fun text => by rw [kindOf, known], ?_⟩
      rintro expression member rfl
      by_contra something
      have listed : expression ∈ terminals.filter fun expression =>
          !(absorbedBy flags terminals expression).isEmpty := by
        simpa [member] using something
      rcases exists_of_mem_left each listed with ⟨entry, among, named, _⟩
      have key : expression.name ∈ vocabulary.absorbed.map (·.1) := by
        rw [settled]
        exact Data.mem_keys_settle (List.mem_map.mpr ⟨entry, among, named⟩)
      rcases List.mem_map.mp key with ⟨pair, among, same⟩
      have found := isSome_assoc? among
      rw [same, known] at found
      cases found
  | some scanner =>
      right
      have among := mem_of_assoc? known
      rw [settled] at among
      rcases exists_of_mem_right each (Data.mem_of_settle among) with
        ⟨expression, listed, named, made⟩
      refine ⟨expression, (List.mem_filter.mp listed).1, named.symm, ?_⟩
      intro text
      -- Literals can be put into one alternation, whatever the expressions are like.
      have plain : scanner.Plain flags := by
        apply Scanner.plain_of_make _ made
        intro literal absorbed
        rcases mem_absorbedBy.mp absorbed with ⟨member, kind, _⟩
        exact Terminal.gluable_of_literal kind (identifiers literal member)
      rcases Scanner.make_eq_ok made with ⟨tried, whole⟩
      rw [kindOf, known]
      dsimp only
      rw [plain, tried, whole]
      cases Scanner.firstOf flags true text.toList.toArray 0
        (absorbedBy flags terminals expression) <;> rfl

/-- A token that all expressions with the name of its terminal may turn into a literal becomes that
literal or another one of the same priority, if the literal matches the whole of it. -/
theorem kindOf_of_absorbs (yields : (prepare terminals flags).Yields vocabulary)
    (identifiers : ∀ terminal ∈ terminals, Unicode.isIdentifier terminal.name.toList = true)
    {name text : String} (member : literal ∈ terminals) (kind : literal.pattern.kind = .literal)
    (matches_ : (literal.stop? flags true text.toList.toArray 0).isSome = true)
    (named : ∃ expression ∈ terminals, expression.name = name)
    (absorbing : ∀ expression ∈ terminals, expression.name = name →
      absorbs flags expression literal = true) :
    ∃ other ∈ terminals, other.pattern.kind = .literal ∧ other.priority = literal.priority ∧
      (other.stop? flags true text.toList.toArray 0).isSome = true ∧
      vocabulary.kindOf name text = other.name := by
  have absorbed {expression : Terminal} (among : expression ∈ terminals)
      (same : expression.name = name) : literal ∈ absorbedBy flags terminals expression :=
    mem_absorbedBy.mpr ⟨member, kind, absorbing expression among same⟩
  rcases exists_absorber yields identifiers name with
    ⟨_, nothing⟩ | ⟨expression, among, same, turns⟩
  · rcases named with ⟨expression, among, same⟩
    have listed := absorbed among same
    rw [nothing expression among same] at listed
    cases listed
  · rw [turns]
    cases found : Scanner.firstOf flags true text.toList.toArray 0
        (absorbedBy flags terminals expression) with
    | none =>
        rw [Scanner.firstOf_eq_none.mp found literal (absorbed among same)] at matches_
        cases matches_
    | some match_ =>
        rcases match_ with ⟨stop, _⟩
        rcases Scanner.firstOf_eq_some.mp found with
          ⟨before, other, after, split, stops, rfl, _⟩
        have listed : other ∈ absorbedBy flags terminals expression := by simp [split]
        rcases mem_absorbedBy.mp listed with ⟨member', kind', absorbs'⟩
        refine ⟨other, member', kind', ?_, by rw [stops]; rfl, rfl⟩
        rw [(absorbs_iff.mp absorbs').2.1, (absorbs_iff.mp (absorbing expression among same)).2.1]

/-- A token that does not keep the name of its terminal becomes a literal that an expression of that
name absorbs, and the literal matches the whole of it. -/
theorem exists_of_kindOf (yields : (prepare terminals flags).Yields vocabulary)
    (identifiers : ∀ terminal ∈ terminals, Unicode.isIdentifier terminal.name.toList = true)
    {name text : String} (turned : vocabulary.kindOf name text ≠ name) :
    ∃ expression ∈ terminals, expression.name = name ∧ ∃ literal ∈ terminals,
      literal.pattern.kind = .literal ∧ absorbs flags expression literal = true ∧
      (literal.stop? flags true text.toList.toArray 0).isSome = true ∧
      vocabulary.kindOf name text = literal.name := by
  rcases exists_absorber yields identifiers name with
    ⟨keeps, _⟩ | ⟨expression, among, same, turns⟩
  · exact absurd (keeps text) turned
  · rw [turns] at turned ⊢
    cases found : Scanner.firstOf flags true text.toList.toArray 0
        (absorbedBy flags terminals expression) with
    | none =>
        rw [found] at turned
        exact absurd rfl turned
    | some match_ =>
        rcases match_ with ⟨stop, _⟩
        rcases Scanner.firstOf_eq_some.mp found with
          ⟨before, literal, after, split, stops, rfl, _⟩
        have listed : literal ∈ absorbedBy flags terminals expression := by simp [split]
        rcases mem_absorbedBy.mp listed with ⟨member, kind, absorbs'⟩
        exact ⟨expression, among, same, literal, member, kind,
          absorbs', by rw [stops]; rfl, rfl⟩

end Vocabulary

namespace Lexer

variable {number : Nat} {settings : LexerSettings} {lexer : Lexer} {standing : Option Standing}
  {cursor next : Cursor} {before after : Workspace} {token : Token}

/-- A token that a lexer without callbacks finds has been cut off by the scanner of its
vocabulary. -/
theorem exists_cut (silent : lexer.callbacks = [])
    (gives : (lexer.next standing cursor).Gives before (.ok (some token), next) after) :
    ∃ vocabulary start stop name, lexer.vocabulary.get.1 = .ok vocabulary ∧
      vocabulary.scanner.matchAt cursor.text start = some (stop, name) ∧
        name ∉ lexer.ignored ∧
      token.place.startPos = some start ∧
      token.text = String.ofList (cursor.text.extract start stop).toList ∧
      token.kind = vocabulary.kindOf name token.text := by
  cases prepared : lexer.vocabulary.get.1 with
  | ok vocabulary =>
      rcases next_eq_find silent prepared standing before cursor with ⟨_, finds, _⟩
      have same := (gives.unique finds).1.symm
      rcases findWithin_ok _ same with ⟨here, stop, name, text, found, kept, made⟩
      cases made
      rw [text] at found
      refine ⟨vocabulary, here.counter.position, stop, name, rfl, found, kept, rfl, ?_, rfl⟩
      rw [← text]
      rfl
  | error failure =>
      by_cases ended : cursor.text.size ≤ cursor.counter.position
      · rw [next_of_atEnd ended] at gives
        cases (Work.gives_pure.mp gives).1
      · rcases next_of_unprepared prepared (Nat.not_le.mp ended) standing before with
          ⟨_, fails, _⟩
        cases (gives.unique fails).1

/-- A word of an expression comes back as a keyword: if the expressions with the name of the
terminal that matched match by themselves the spelling in which a literal of their priority is
written, and the literal matches the whole of the word under its own flags, then the token is that
of such a literal. No other token is that of a literal instead of the terminal that matched. -/
theorem keyword_comes_back (made : make number settings = .ok lexer)
    (identifiers : ∀ terminal ∈ settings.terminals,
      Unicode.isIdentifier terminal.name.toList = true)
    (silent : settings.callbacks = [])
    (gives : (lexer.next standing cursor).Gives before (.ok (some token), next) after) :
    ∃ vocabulary start stop name, lexer.vocabulary.get.1 = .ok vocabulary ∧
      vocabulary.scanner.matchAt cursor.text start = some (stop, name) ∧
      token.place.startPos = some start ∧
      token.text = String.ofList (cursor.text.extract start stop).toList ∧
      (∀ literal ∈ settings.terminals, literal.pattern.kind = .literal →
        (literal.stop? settings.flags true token.text.toList.toArray 0).isSome = true →
        (∃ expression ∈ settings.terminals, expression.name = name) →
        (∀ expression ∈ settings.terminals, expression.name = name →
          expression.pattern.kind = .expression ∧ literal.priority = expression.priority ∧
            expression.stop? settings.flags false literal.pattern.value.toList.toArray 0 =
              some literal.pattern.value.toList.length) →
        ∃ other ∈ settings.terminals, other.pattern.kind = .literal ∧
          other.priority = literal.priority ∧
          (other.stop? settings.flags true token.text.toList.toArray 0).isSome = true ∧
          token.kind = other.name) ∧
      (token.kind ≠ name → ∃ expression ∈ settings.terminals, expression.name = name ∧
        ∃ literal ∈ settings.terminals, literal.pattern.kind = .literal ∧
          literal.priority = expression.priority ∧
          (literal.stop? settings.flags true token.text.toList.toArray 0).isSome = true ∧
          token.kind = literal.name) := by
  have silent' := (callbacks_of_make made).trans silent
  rcases exists_cut silent' gives with
    ⟨vocabulary, start, stop, name, prepared, found, _, starts, text, kind⟩
  rcases vocabulary_of_make made prepared with ⟨ordered, permuted, yields⟩
  have identifiers' : ∀ terminal ∈ ordered,
      Unicode.isIdentifier terminal.name.toList = true := by
    intro terminal member
    exact identifiers terminal (permuted.subset member)
  refine ⟨vocabulary, start, stop, name, prepared, found, starts, text, ?_, ?_⟩
  · intro literal member isLiteral matches_ named spells
    rcases named with ⟨expression, among, same⟩
    have absorbing : ∀ expression ∈ ordered, expression.name = name →
        Vocabulary.absorbs settings.flags expression literal = true := by
      intro expression among same
      exact Vocabulary.absorbs_iff.mpr (spells expression (permuted.subset among) same)
    rcases Vocabulary.kindOf_of_absorbs yields identifiers' (permuted.mem_iff.mpr member) isLiteral
      matches_ ⟨expression, permuted.mem_iff.mpr among, same⟩ absorbing with
      ⟨other, among', isLiteral', priority, matches', turned⟩
    exact ⟨other, permuted.subset among', isLiteral', priority, matches', kind.trans turned⟩
  · intro turned
    rw [kind] at turned
    rcases Vocabulary.exists_of_kindOf yields identifiers' turned with
      ⟨expression, among, same, literal, among', isLiteral, absorbs, matches_, turned⟩
    exact ⟨expression, permuted.subset among, same, literal, permuted.subset among', isLiteral,
      (Vocabulary.absorbs_iff.mp absorbs).2.1, matches_, kind.trans turned⟩

/-- A word and a keyword, both without regard to case. -/
def relaxed : List Terminal :=
  [{ name := "WORD"
     pattern := { kind := .expression, value := "[a-z]+", flags := { ignoreCase := true } } },
    { name := "IF"
      pattern := { kind := .literal, value := "if", flags := { ignoreCase := true } } }]

/-- A word in small letters, and a keyword that is written in capitals, without regard to case. -/
def capitals : List Terminal :=
  [{ name := "WORD", pattern := { kind := .expression, value := "[a-z]+" } },
    { name := "IF"
      pattern := { kind := .literal, value := "IF", flags := { ignoreCase := true } } }]

/-- What the scanner of some terminals finds where a text begins, and the token that comes of it. -/
def opening (terminals : List Terminal) (text : String) : Option
    (Option (Nat × String) × Token) :=
  ((Vocabulary.prepare terminals {}).run.run []).1.toOption.bind fun vocabulary =>
    ((ofOrdered 0 { terminals } terminals).find vocabulary none (.ofText text)).1.toOption.join.map
      fun token => (vocabulary.scanner.matchAt text.toList.toArray 0, token)

/-- The lexer of terminals that are in order hands out the token with which a text opens. -/
theorem next_of_opening {terminals : List Terminal} {text : String}
    {match_ : Option (Nat × String)} (opens : opening terminals text = some (match_, token)) :
    ∃ vocabulary next after,
      (ofOrdered 0 { terminals } terminals).vocabulary.get.1 = .ok vocabulary ∧
      vocabulary.scanner.matchAt text.toList.toArray 0 = match_ ∧
      ((ofOrdered 0 { terminals } terminals).next none (.ofText text)).Gives {}
        (.ok (some token), next) after := by
  rcases Option.bind_eq_some_iff.mp opens with ⟨vocabulary, prepared, opens⟩
  rcases Option.map_eq_some_iff.mp opens with ⟨_, found, same⟩
  cases same
  have prepared' : (ofOrdered 0 { terminals } terminals).vocabulary.get.1 = .ok vocabulary := by
    rw [vocabulary_ofOrdered]
    revert prepared
    cases ((Vocabulary.prepare terminals {}).run.run []).1 <;> simp [Except.toOption]
  rcases next_eq_find rfl prepared' none {} (.ofText text) with ⟨after, finds, _⟩
  revert finds found
  rcases (ofOrdered 0 { terminals } terminals).find vocabulary none (.ofText text) with
    ⟨answer, next⟩
  intro found finds
  rcases answer with failure | token'
  · cases found
  · cases found
    exact ⟨vocabulary, next, after, prepared', rfl, finds⟩

theorem orderly : inOrder relaxed = .ok relaxed ∧ inOrder capitals = .ok capitals := by
  exact ⟨inOrder_of_isOrdered (by decide +kernel), inOrder_of_isOrdered (by decide +kernel)⟩

/-- What there is to see of the two lexers: their terminals pass, the word matches the small
spelling of the keyword and not the capital one, and the keyword matches either way. -/
theorem openings :
    (check { terminals := relaxed }).toOption.isSome = true ∧
    opening relaxed "iF" = some (some (2, "WORD"),
      { kind := "IF", text := "iF",
        place := ⟨some 0, some 1, some 1, some 1, some 3, some 2⟩ }) ∧
    (relaxed[1].stop? {} true "iF".toList.toArray 0).isSome = true ∧
    (∀ expression ∈ relaxed, expression.name = "WORD" →
      expression.pattern.kind = .expression ∧ relaxed[1].priority = expression.priority ∧
        expression.stop? {} false relaxed[1].pattern.value.toList.toArray 0 =
          some relaxed[1].pattern.value.toList.length) ∧
    (check { terminals := capitals }).toOption.isSome = true ∧
    opening capitals "if" = some (some (2, "WORD"),
      { kind := "WORD", text := "if",
        place := ⟨some 0, some 1, some 1, some 1, some 3, some 2⟩ }) ∧
    (capitals[1].stop? {} true "if".toList.toArray 0).isSome = true := by
  decide +kernel

theorem keyword_comes_back_relaxed : ∃ lexer token next after,
    make 0 { terminals := relaxed } = .ok lexer ∧
    (lexer.next none (.ofText "iF")).Gives {} (.ok (some token), next) after ∧
    token.text = "iF" ∧ ∃ other ∈ relaxed, other.pattern.kind = .literal ∧
      token.kind = other.name := by
  rcases openings with ⟨passes, opens, matches_, spells, _⟩
  rcases exists_of_isSome passes with ⟨⟨⟩, checked⟩
  have made : make 0 { terminals := relaxed } = .ok
      (ofOrdered 0 { terminals := relaxed } relaxed) :=
    make_eq_ok.mpr ⟨checked, _, orderly.1, rfl⟩
  rcases next_of_opening opens with ⟨vocabulary, next, after, prepared, found, gives⟩
  rcases keyword_comes_back made (by decide) rfl gives with
    ⟨vocabulary', start, stop, name, prepared', found', starts, text, comes, _⟩
  cases prepared.symm.trans prepared'
  cases starts
  cases found.symm.trans found'
  rcases comes relaxed[1] (by decide) rfl matches_ ⟨relaxed[0], by decide, rfl⟩ spells with
    ⟨other, member, isLiteral, _, _, turned⟩
  exact ⟨_, _, next, after, made, gives, rfl, other, member, isLiteral, turned⟩

/-- A keyword that is written in capitals does not come back where it stands in small letters,
although it matches there and has the priority of the word: the word does not match the capitals. -/
theorem keyword_stays_word : ∃ lexer vocabulary token next after,
    make 0 { terminals := capitals } = .ok lexer ∧ lexer.vocabulary.get.1 = .ok vocabulary ∧
    vocabulary.scanner.matchAt "if".toList.toArray 0 = some (2, "WORD") ∧
    (lexer.next none (.ofText "if")).Gives {} (.ok (some token), next) after ∧
    (∃ expression ∈ capitals, expression.name = "WORD" ∧
      expression.pattern.kind = .expression ∧
      ∃ literal ∈ capitals, literal.pattern.kind = .literal ∧
        literal.priority = expression.priority ∧
        (literal.stop? {} true token.text.toList.toArray 0).isSome = true) ∧
    ∀ literal ∈ capitals, literal.pattern.kind = .literal → token.kind ≠ literal.name := by
  rcases openings with ⟨_, _, _, _, passes, opens, matches_⟩
  rcases exists_of_isSome passes with ⟨⟨⟩, checked⟩
  have made : make 0 { terminals := capitals } = .ok
      (ofOrdered 0 { terminals := capitals } capitals) :=
    make_eq_ok.mpr ⟨checked, _, orderly.2, rfl⟩
  rcases next_of_opening opens with ⟨vocabulary, next, after, prepared, found, gives⟩
  refine ⟨_, vocabulary, _, next, after, made, prepared, found, gives, ?_, by decide⟩
  exact ⟨capitals[0], by decide, rfl, rfl, capitals[1], by decide, rfl, rfl, matches_⟩

end Lexer

end Lalr
