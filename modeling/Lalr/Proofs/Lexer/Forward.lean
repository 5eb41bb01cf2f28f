import Lalr.Proofs.Lexer.Preparing
import Lalr.Proofs.Lexer.Progress
import Lalr.Proofs.Regex.Measuring

/-!
# Lexers move forward

A lexer that checks its terminals refuses those that may match nothing. It measures each of them as
it is read without flags. Where the flags of the lexer do not change how an expression is read, each
match takes up as much text as has been measured. Then every token takes up some text, whether it is
handed on or ignored, and the search for the next one ends before the text does.
-/

namespace Lalr

namespace Terminal

variable {flags : RegexFlags} {terminal : Terminal}

/-- Whether a terminal takes up some text wherever it matches by itself. -/
def Proper (flags : RegexFlags) (terminal : Terminal) : Prop :=
  ∀ whole text position stop, terminal.stop? flags whole text position = some stop →
    position < stop

/-- A terminal takes up some text if a number of characters that its matches take up is not zero. -/
theorem proper_of_least {compiled : CompiledRegex} {least : Nat} (some_ : 0 < least)
    (compiles : Regex.compile terminal.pattern.expression flags = .ok compiled)
    (takes : ∀ {text position point}, (compiled.matchAt text position = some point ∨
      compiled.fullMatchAt text position = some point) → position + least ≤ point.position) :
    terminal.Proper flags := by
  intro whole text position stop stops
  simp only [stop?, compiles, Option.map_eq_some_iff] at stops
  rcases stops with ⟨point, found, rfl⟩
  have late : position + least ≤ point.position := by
    apply takes
    cases whole
    · exact .inl found
    · exact .inr found
  omega

theorem exists_width_of_validate (valid : Lexer.validate flags terminal = .ok ()) :
    ∃ width, terminal.pattern.width = .ok width ∧ width.least ≠ 0 := by
  rcases Lexer.compiles_of_validate valid with ⟨compiled, compiles⟩
  simp only [Lexer.validate, compiles] at valid
  rcases bind_eq_ok.mp valid with ⟨width, measured, valid⟩
  refine ⟨width, measured, ?_⟩
  intro none
  simp [none] at valid

/-- A literal that passes takes up some text, because it is not empty. -/
theorem proper_of_literal (literal : terminal.pattern.kind = .literal)
    (valid : Lexer.validate flags terminal = .ok ()) : terminal.Proper flags := by
  rcases exists_width_of_validate valid with ⟨width, measured, proper⟩
  rcases Regex.exists_compile_literal literal flags with ⟨regex, _, consumes, compiles⟩
  have takes : regex.consumes = true := by
    rw [Pattern.width, literal] at measured
    cases measured
    simpa [consumes] using proper
  apply proper_of_least (regex.least_pos_of_consumes takes) compiles
  intro text position point found
  exact Regex.least_le_of_matchOf regex.wide_zero found

/-- What has been measured of an expression is what it takes up if the flags leave it as it is read
without them. Where they do not, its width under them counts. -/
theorem proper_of_expression (expression : terminal.pattern.kind = .expression)
    (computed : terminal.pattern.storedWidth = none)
    (portable : Regex.isPortable flags terminal.pattern.expression = true)
    (valid : Lexer.validate flags terminal = .ok ())
    (strict : flags.verbose = true → ∀ compiled,
      Regex.compile terminal.pattern.expression flags = .ok compiled →
        compiled.regex.width.least ≠ 0) : terminal.Proper flags := by
  rcases exists_width_of_validate valid with ⟨width, measured, proper⟩
  rcases Lexer.compiles_of_validate valid with ⟨compiled, compiles⟩
  have some_ : compiled.regex.width.least ≠ 0 := by
    cases spaced : flags.verbose with
    | true => exact strict spaced compiled compiles
    | false =>
        rcases Regex.exists_alone portable with ⟨regex, own, alone⟩
        have bare : Regex.read terminal.pattern.expression {} = .ok ⟨regex, {}, own.names⟩ :=
          alone.read_eq spaced.symm
        have same : compiled = ⟨regex, flags, own.names⟩ := by
          apply Except.ok.inj
          exact (Regex.read_of_compile compiles).symm.trans (alone.read_eq rfl)
        rw [Pattern.width, expression, computed, Regex.widthOf, bare] at measured
        cases measured
        simp only [Width.report] at proper
        simp only [same]
        omega
  apply proper_of_least (Nat.pos_of_ne_zero some_) compiles
  exact Regex.width_le_of_compile compiles

end Terminal

/-- A plain scanner takes up some text if all of its terminals do. -/
theorem Scanner.consuming_of_proper {flags : RegexFlags} {scanner : Scanner}
    (plain : scanner.Plain flags)
    (proper : ∀ terminal ∈ scanner.terminals, terminal.Proper flags) :
    scanner.Consuming := by
  intro text position stop name found
  rw [plain] at found
  rcases firstOf_eq_some.mp found with ⟨before, terminal, after, split, stops, _⟩
  have member : terminal ∈ scanner.terminals := by simp [split]
  exact proper terminal member _ _ _ _ stops

theorem Work.bind_congr {α β : Type} {work : Work α} {first second : α → Work β}
    (same : ∀ before answer after, work.Gives before answer after →
      first answer = second answer) :
    work >>= first = work >>= second := by
  apply StateT.ext
  intro before
  rw [StateT.run_bind, StateT.run_bind]
  exact congrArg (StateT.run (m := Id) · _) (same before _ _ (work.gives before))

namespace Lexer

variable {number : Nat} {settings : LexerSettings} {lexer : Lexer} {vocabulary : Vocabulary}
  {standing : Option Standing} {cursor next : Cursor} {before after : Workspace}
  {answer : Except Failure (Option Token)}

/-- What is cut off a text that is not at its end takes up some of it. -/
theorem position_lt_cut (consuming : lexer.Consuming)
    (prepared : lexer.vocabulary.get.1 = .ok vocabulary)
    (here : cursor.counter.position < cursor.text.size) {stop : Nat} {name : String}
    (found : vocabulary.scanner.matchAt cursor.text cursor.counter.position = some (stop, name)) :
    cursor.counter.position < (lexer.cut cursor stop name).2.counter.position := by
  have longer := consuming _ prepared _ _ _ _ found
  rw [position_cut]
  omega

/-- The search for a token ends by itself: all bounds that cover what is left of the text come to
the same. Induction on the bound. -/
theorem nextWithin_eq (consuming : lexer.Consuming) (standing : Option Standing) (fuel : Nat) :
    ∀ (fuel' : Nat) (cursor : Cursor), cursor.text.size - cursor.counter.position ≤ fuel →
      cursor.text.size - cursor.counter.position ≤ fuel' →
      lexer.nextWithin standing fuel cursor = lexer.nextWithin standing fuel' cursor := by
  have atEnd (fuel : Nat) (cursor : Cursor) (ended : cursor.text.size ≤ cursor.counter.position) :
      lexer.nextWithin standing fuel cursor = pure (.ok none, cursor) := by
    cases fuel <;> simp [nextWithin, ended]
  induction fuel with
  | zero =>
      intro fuel' cursor enough _
      rw [atEnd _ cursor (by omega), atEnd _ cursor (by omega)]
  | succ fuel ih =>
      intro fuel' cursor enough enough'
      by_cases ended : cursor.text.size ≤ cursor.counter.position
      · rw [atEnd _ cursor ended, atEnd _ cursor ended]
      · rcases Nat.exists_eq_succ_of_ne_zero (show fuel' ≠ 0 by omega) with ⟨fuel', rfl⟩
        simp only [nextWithin, if_neg ended]
        apply Work.bind_congr
        intro before opened after opening
        rcases openVocabulary_gives opening with ⟨rfl, _⟩
        cases prepared : lexer.vocabulary.get.1 with
        | error failure => rfl
        | ok vocabulary =>
            dsimp only
            split
            · rfl
            next stop name found =>
              have forward := position_lt_cut consuming prepared
                (Nat.not_le.mp ended) found
              have later := ih fuel' (lexer.cut cursor stop name).2
                (show cursor.text.size - _ ≤ _ by omega)
                  (show cursor.text.size - _ ≤ _ by omega)
              rw [later]

/-- A search never goes back, and ends beyond where it began if it finds a token. Induction on the
bound. -/
theorem nextWithin_forward (consuming : lexer.Consuming) (fuel : Nat) :
    ∀ {before : Workspace} {cursor : Cursor},
      (lexer.nextWithin standing fuel cursor).Gives before (answer, next) after →
      cursor.counter.position ≤ next.counter.position ∧
        ∀ token, answer = .ok (some token) →
          cursor.counter.position < next.counter.position := by
  induction fuel with
  | zero =>
      intro before cursor gives
      rcases Work.gives_pure.mp gives with ⟨same, _⟩
      cases same
      refine ⟨Nat.le_refl _, ?_⟩
      intro token same
      split at same <;> cases same
  | succ fuel ih =>
      intro before cursor gives
      rw [nextWithin] at gives
      split at gives
      next =>
        rcases Work.gives_pure.mp gives with ⟨same, _⟩
        cases same
        simp
      next going =>
        rcases Work.gives_bind.mp gives with ⟨opened, between, opening, gives⟩
        rcases openVocabulary_gives opening with ⟨rfl, _⟩
        cases prepared : lexer.vocabulary.get.1 with
        | error failure =>
            rw [prepared] at gives
            rcases Work.gives_pure.mp gives with ⟨same, _⟩
            cases same
            simp
        | ok vocabulary =>
            rw [prepared] at gives
            dsimp only at gives
            split at gives
            next =>
              rcases Work.gives_pure.mp gives with ⟨same, _⟩
              cases same
              simp
            next stop name found =>
              have forward := position_lt_cut consuming prepared
                (Nat.not_le.mp going) found
              rcases Work.gives_bind.mp gives with ⟨called, between', _, gives⟩
              split at gives
              next =>
                rcases Work.gives_pure.mp gives with ⟨same, _⟩
                cases same
                exact ⟨Nat.le_of_lt forward, by simp⟩
              next value =>
                split at gives
                next =>
                  rcases ih gives with ⟨onward, _⟩
                  have late := Nat.lt_of_lt_of_le forward onward
                  exact ⟨Nat.le_of_lt late, fun _ _ => late⟩
                next =>
                  split at gives
                  next =>
                    rcases Work.gives_pure.mp gives with ⟨same, _⟩
                    cases same
                    exact ⟨Nat.le_of_lt forward, fun _ _ => forward⟩
                  next =>
                    rcases Work.gives_bind.mp gives with ⟨_, _, _, gives⟩
                    rcases Work.gives_pure.mp gives with ⟨same, _⟩
                    cases same
                    exact ⟨Nat.le_of_lt forward, fun _ _ => forward⟩

/-- The lexer of a vocabulary that has been measured takes up text with each match. -/
theorem consuming_of_make (made : make number settings = .ok lexer)
    (checks : settings.skipValidation = false)
    (computed : ∀ terminal ∈ settings.terminals, terminal.pattern.storedWidth = none)
    (identifiers : ∀ terminal ∈ settings.terminals,
      Unicode.isIdentifier terminal.name.toList = true)
    (portable : ∀ terminal ∈ settings.terminals, terminal.pattern.kind = .expression →
      Regex.isPortable settings.flags terminal.pattern.expression = true)
    (strict : settings.flags.verbose = true → ∀ terminal ∈ settings.terminals,
      terminal.pattern.kind = .expression → ∀ compiled,
        Regex.compile terminal.pattern.expression settings.flags = .ok compiled →
          compiled.regex.width.least ≠ 0) : lexer.Consuming := by
  intro vocabulary prepared
  have gluable := gluable_of_make made checks identifiers portable
  have valid := validate_of_make made checks
  rcases vocabulary_of_make made prepared with ⟨ordered, permuted, yields⟩
  have plain := Vocabulary.plain_of_prepare
    (fun terminal member => gluable terminal (permuted.subset member)) yields
  rcases Vocabulary.prepare_yields yields with ⟨left, made', ⟨_, _, rfl⟩, _⟩
  apply Scanner.consuming_of_proper plain.scanner
  intro terminal member
  rw [(Scanner.make_eq_ok made').1] at member
  have member := permuted.subset (List.mem_of_mem_filter member)
  cases kind : terminal.pattern.kind with
  | literal => exact Terminal.proper_of_literal kind (valid terminal member)
  | expression =>
      apply Terminal.proper_of_expression kind (computed terminal member)
        (portable terminal member kind) (valid terminal member)
      intro spaced
      exact strict spaced terminal member kind

/-- A lexer moves forward. If it has checked and measured its terminals, whose expressions are
portable and match nothing empty under flags that let blanks stand anywhere, then each match of its
scanner takes up some text, and what is cut off moves the position. The search for the next token
comes to an end: all bounds that cover what is left of the text lead to the same answer. It never
goes back, and a token that it finds ends beyond where it began. -/
theorem moves_forward (made : make number settings = .ok lexer)
    (checks : settings.skipValidation = false)
    (computed : ∀ terminal ∈ settings.terminals, terminal.pattern.storedWidth = none)
    (identifiers : ∀ terminal ∈ settings.terminals,
      Unicode.isIdentifier terminal.name.toList = true)
    (portable : ∀ terminal ∈ settings.terminals, terminal.pattern.kind = .expression →
      Regex.isPortable settings.flags terminal.pattern.expression = true)
    (strict : settings.flags.verbose = true → ∀ terminal ∈ settings.terminals,
      terminal.pattern.kind = .expression → ∀ compiled,
        Regex.compile terminal.pattern.expression settings.flags = .ok compiled →
          compiled.regex.width.least ≠ 0) :
    lexer.Consuming ∧
    (∀ vocabulary, lexer.vocabulary.get.1 = .ok vocabulary → ∀ (cursor : Cursor) (stop : Nat)
      (name : String), cursor.counter.position < cursor.text.size →
        vocabulary.scanner.matchAt cursor.text cursor.counter.position = some (stop, name) →
        cursor.counter.position < (lexer.cut cursor stop name).2.counter.position) ∧
    (∀ standing fuel cursor, cursor.text.size - cursor.counter.position ≤ fuel →
      lexer.nextWithin standing fuel cursor = lexer.next standing cursor) ∧
    ∀ standing cursor before answer next after,
      (lexer.next standing cursor).Gives before (answer, next) after →
        cursor.counter.position ≤ next.counter.position ∧
          ∀ token, answer = .ok (some token) →
            cursor.counter.position < next.counter.position := by
  have consuming := consuming_of_make made checks computed identifiers portable strict
  refine ⟨consuming, ?_, ?_, ?_⟩
  · intro vocabulary prepared cursor stop name here found
    exact position_lt_cut consuming prepared here found
  · intro standing fuel cursor enough
    exact nextWithin_eq consuming standing fuel _ cursor enough (by omega)
  · intro standing cursor before answer next after gives
    exact nextWithin_forward consuming _ gives

/-- The flags under which blanks may stand anywhere. -/
def spacing : RegexFlags := { verbose := true }

/-- Two letters with a blank between them, which is nothing where blanks may stand anywhere. -/
def spaced : Terminal where
  name := "A"
  pattern := { kind := .expression, value := "a b" }

theorem read_spaced :
    Regex.compile spaced.pattern.expression spacing =
      .ok ⟨.sequence (.char 'a') (.char 'b'), spacing, []⟩ ∧
    Regex.isPortable spacing spaced.pattern.expression = true ∧
    Regex.widthOf spaced.pattern.expression = .ok ⟨3, 3⟩ := by
  refine ⟨?_, ?_, ?_⟩
  · decide +kernel
  · decide +kernel
  · decide +kernel

theorem width_spaced : spaced.pattern.width = .ok ⟨3, 3⟩ :=
  width_of_expression rfl rfl read_spaced.2.2

theorem moves_forward_spaced :
    ∃ lexer, make 0 { terminals := [spaced], flags := spacing } = .ok lexer ∧
      lexer.Consuming ∧
      lexer.nextWithin none 2 (.ofText "ab") = lexer.next none (.ofText "ab") := by
  have made := @make_single 0 _ _ _ _ read_spaced.1 width_spaced (by decide)
  have strict : ∀ compiled, Regex.compile spaced.pattern.expression spacing = .ok compiled →
      compiled.regex.width.least ≠ 0 := by
    intro compiled compiles
    cases read_spaced.1.symm.trans compiles
    decide
  rcases moves_forward made rfl (by simp [spaced]) (List.forall_mem_singleton.mpr (by decide))
    (List.forall_mem_singleton.mpr fun _ => read_spaced.2.1)
    (fun _ => List.forall_mem_singleton.mpr fun _ => strict) with ⟨consuming, _, ends, _⟩
  exact ⟨_, made, consuming, ends none 2 _ (by decide)⟩

/-- A blank, which is nothing where blanks may stand anywhere. -/
def blank : Terminal where
  name := "A"
  pattern := { kind := .expression, value := " " }

/-- What a lexer of the blank finds tokens with. -/
def blankVocabulary : Vocabulary where
  scanner := ⟨[blank], false, [⟨.group 1 .empty, spacing, [("A", 1)]⟩]⟩
  absorbed := []

theorem read_blank :
    Regex.compile blank.pattern.expression spacing = .ok ⟨.empty, spacing, []⟩ ∧
    Regex.widthOf blank.pattern.expression = .ok ⟨1, 1⟩ ∧
    (Vocabulary.prepare [blank] spacing).run.run [] = (.ok blankVocabulary, []) ∧
    blankVocabulary.scanner.matchAt " ".toList.toArray 0 = some (0, "A") := by
  refine ⟨eq_ok_of_toOption ?_, ?_, Prod.ext (eq_ok_of_toOption ?_) ?_, ?_⟩
  all_goals decide +kernel

/-- A blank passes because it is measured as one character, but matches nothing at all, and a lexer
that finds it stays where it is. -/
theorem stays_at_blank :
    ∃ lexer, make 0 { terminals := [blank], flags := spacing } = .ok lexer ∧
      ∃ vocabulary, lexer.vocabulary.get.1 = .ok vocabulary ∧
        vocabulary.scanner.matchAt " ".toList.toArray 0 = some (0, "A") ∧
        ∃ token next, lexer.find vocabulary none (.ofText " ") = (.ok (some token), next) ∧
          next.counter.position = 0 := by
  rcases read_blank with ⟨compiles, measured, prepares, found⟩
  have made := @make_single 0 _ _ _ _ compiles (width_of_expression rfl rfl measured) (by decide)
  refine ⟨_, made, blankVocabulary, ?_, found, _, _,
    find_of_some (by decide) found (by decide), rfl⟩
  rw [vocabulary_ofOrdered, prepares]

end Lexer

end Lalr
