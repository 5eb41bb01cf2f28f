import Lalr.Proofs.Blame
import Lalr.Proofs.Lexer.Reading
import Lalr.Proofs.Lexer.Scanning
import Lalr.Proofs.Regex.Consumption
import Lalr.Proofs.Regex.Advancing

/-!
# Progress in a text

A reader whose terminals match at least one character each moves forward in the text and
says where it has got to: a token lies between where the reader began and where it has stopped,
and so does the character that it is stuck at. No token is called like the end of the input,
because the names of terminals have been read as the names of groups.
-/

namespace Lalr

/-! ## Names -/

namespace Scanner

variable {terminals : List Terminal} {flags : RegexFlags} {whole : Bool} {scanner : Scanner}

/-- Whether a scanner calls what it finds by identifiers. -/
def Identified (scanner : Scanner) : Prop :=
  ∀ text position stop name, scanner.matchAt text position = some (stop, name) →
    Unicode.isIdentifier name.toList = true

theorem identified_of_tryAll {text : Array Char} {position stop : Nat} {name : String}
    {alternations : List CompiledRegex}
    (named : ∀ alternation ∈ alternations, ∀ entry ∈ alternation.names,
      Unicode.isIdentifier entry.1.toList = true)
    (found : tryAll whole text position alternations = some (stop, name)) :
    Unicode.isIdentifier name.toList = true := by
  induction alternations with
  | nil => cases found
  | cons alternation rest ih =>
      rw [List.forall_mem_cons] at named
      rw [tryAll] at found
      split at found
      next point _ =>
        rcases Option.map_eq_some_iff.mp found with ⟨name', last, same⟩
        cases same
        unfold CompiledRegex.lastName? at last
        split at last
        · cases last
        · rcases Option.map_eq_some_iff.mp last with ⟨entry, listed, rfl⟩
          exact named.1 entry (List.mem_of_find?_eq_some listed)
      next => exact ih named.2 found

theorem identified_of_make (made : make terminals flags whole = .ok scanner) :
    scanner.Identified := by
  intro text position stop name found
  refine identified_of_tryAll (fun alternation member => ?_) found
  rcases exists_of_mem_right (alternations_of_make made) member with ⟨run, _, compiles⟩
  exact Regex.isIdentifier_of_compile compiles

theorem make_unstuck : Unstuck (make terminals flags whole) := by
  refine .bind (.mapM (fun run => ?_) _) fun alternations => .ok _
  cases Regex.compile (alternation run) flags with
  | error fault => exact .error (by cases fault <;> rfl)
  | ok regex => exact .ok _

end Scanner

namespace Preparing

variable {α β : Type}

/-- Whether preparing something never fails in a way that blames the input. -/
def Unstuck (preparing : Preparing α) : Prop :=
  ∀ before : List String,
    Lalr.Unstuck (preparing.run.run before : Except Failure α × List String).1

namespace Unstuck

theorem pure (value : α) : Preparing.Unstuck (Pure.pure value : Preparing α) := fun _ => .ok value

theorem mk {answer : Except Failure α} (unstuck : Lalr.Unstuck answer) :
    Preparing.Unstuck (ExceptT.mk (Pure.pure answer) : Preparing α) := fun _ => unstuck

theorem bind {preparing : Preparing α} {rest : α → Preparing β} (first : preparing.Unstuck)
    (goes : ∀ value, (rest value).Unstuck) : Preparing.Unstuck (preparing >>= rest) := by
  intro before
  rw [ExceptT.run_bind, StateT.run_bind]
  rcases ran : (preparing.run.run before : Except Failure α × List String) with
    ⟨answer, between⟩
  simp only [Bind.bind, StateT.run]
  cases answer with
  | error failure => exact .error (first before failure (congrArg Prod.fst ran))
  | ok value => exact goes value between

end Unstuck

end Preparing

namespace Vocabulary

variable {flags : RegexFlags} {literals terminals : List Terminal} {vocabulary : Vocabulary}

theorem matchedLiterals_unstuck (expression : Terminal) :
    Unstuck (matchedLiterals flags literals expression) := by
  refine .filterM (fun literal => ?_) _
  unfold matchesLiteral
  cases Regex.compile expression.pattern.expression flags with
  | error fault => exact .error (by cases fault <;> rfl)
  | ok compiled =>
      refine .bind (.ok _) fun compiled => ?_
      dsimp only
      split
      · exact .ok _
      · exact .ok _

theorem absorb_unstuck (rest : List Terminal) : (absorb flags literals rest).Unstuck := by
  induction rest with
  | nil => exact .pure _
  | cons terminal rest ih =>
      cases kind : terminal.pattern.kind with
      | literal =>
          rw [absorb_literal terminal kind]
          exact ih
      | expression =>
          cases matched : matchedLiterals flags literals terminal with
          | error failure =>
              rw [absorb_failed terminal kind matched]
              exact .mk (.error (matchedLiterals_unstuck _ _ matched))
          | ok matched' =>
              rw [absorb_expression terminal kind matched]
              split
              · exact ih
              · refine .bind (fun before => .ok _) fun _ => ?_
                exact .bind (.mk Scanner.make_unstuck) fun _ => .bind ih fun _ => .pure _

/-- A vocabulary that cannot be prepared blames no text. -/
theorem prepare_unstuck : (prepare terminals flags).Unstuck :=
  .bind (absorb_unstuck terminals) fun _ => .bind (.mk Scanner.make_unstuck) fun _ => .pure _

/-- Whether a vocabulary calls tokens by identifiers. -/
def Identified (vocabulary : Vocabulary) : Prop :=
  vocabulary.scanner.Identified ∧ ∀ entry ∈ vocabulary.absorbed, entry.2.Identified

theorem identified_of_prepare (yields : (prepare terminals flags).Yields vocabulary) :
    vocabulary.Identified := by
  rcases prepare_yields yields with ⟨left, made, _, scanners, settled, each⟩
  refine ⟨Scanner.identified_of_make made, fun entry member => ?_⟩
  rw [settled] at member
  rcases exists_of_mem_right each (Data.mem_of_settle member) with ⟨expression, _, _, made⟩
  exact Scanner.identified_of_make made

theorem Identified.kindOf (identified : vocabulary.Identified) {name : String}
    (named : Unicode.isIdentifier name.toList = true) (text : String) :
    Unicode.isIdentifier (vocabulary.kindOf name text).toList = true := by
  unfold Vocabulary.kindOf
  split
  next scanner known =>
    split
    next stop literal found =>
      exact identified.2 _ (mem_of_assoc? known) _ _ _ _ found
    next => exact named
  next => exact named

end Vocabulary

/-- The end of the input is not called by an identifier. -/
theorem Token.ne_endKind_of_isIdentifier {kind : String}
    (identifier : Unicode.isIdentifier kind.toList = true) : kind ≠ Token.endKind := by
  rintro rfl
  exact absurd identifier (by decide)

/-! ## Positions -/

/-- Whether a token takes up some of the text between two positions. -/
def Token.Within (token : Token) (first last : Nat) : Prop :=
  ∃ start stop, token.place.startPos = some start ∧ token.place.endPos = some stop ∧
    first ≤ start ∧ start < stop ∧ stop ≤ last

theorem Token.Within.mono {token : Token} {first first' last last' : Nat}
    (within : token.Within first last) (earlier : first' ≤ first) (later : last ≤ last') :
    token.Within first' last' := by
  rcases within with ⟨start, stop, starts, stops, before, proper, after⟩
  exact ⟨start, stop, starts, stops, Nat.le_trans earlier before, proper,
    Nat.le_trans after later⟩

namespace Cursor

/-- Whether a token lies between two cursors, of which the second is not beyond the end of the text,
and does not end the input. -/
structure Passes (cursor : Cursor) (token : Token) (next : Cursor) : Prop where
  inside : token.kind ≠ Token.endKind
  within : token.Within cursor.counter.position next.counter.position
  bounded : next.counter.position ≤ next.text.size

/-- Whether a reader has moved forward in its text to give an answer: past a token, up to a
character that it is stuck at or beyond, or to the end. -/
structure Advances (cursor : Cursor) (answer : Except Failure (Option Token)) (next : Cursor) :
    Prop where
  text : next.text = cursor.text
  forward : cursor.counter.position ≤ next.counter.position
  answered :
    match answer with
    | .ok none => next.AtEnd
    | .ok (some token) => cursor.Passes token next
    | .error (.stuckText stuck) =>
      cursor.counter.position ≤ stuck.position ∧ stuck.position < next.text.size ∧
        stuck.position ≤ next.counter.position
    | .error (.stuckToken stuck) =>
      ∃ token, stuck.offender = .token token ∧ cursor.Passes token next
    | .error _ => True

theorem Advances.sooner {cursor middle next : Cursor} {answer : Except Failure (Option Token)}
    (advances : middle.Advances answer next) (text : middle.text = cursor.text)
    (forward : cursor.counter.position ≤ middle.counter.position) :
    cursor.Advances answer next := by
  rcases advances with ⟨text', forward', answered⟩
  refine ⟨text'.trans text, Nat.le_trans forward forward', ?_⟩
  have passes {token : Token} (passes : middle.Passes token next) : cursor.Passes token next :=
    ⟨passes.inside, passes.within.mono forward (Nat.le_refl _), passes.bounded⟩
  match answer, answered with
  | .ok none, ended => exact ended
  | .ok (some token), passed => exact passes passed
  | .error failure, answered =>
      cases failure with
      | stuckText stuck => exact ⟨Nat.le_trans forward answered.1, answered.2⟩
      | stuckToken stuck =>
          rcases answered with ⟨token, offends, passed⟩
          exact ⟨token, offends, passes passed⟩
      | _ => trivial

end Cursor

namespace Lexer

variable {lexer : Lexer} {vocabulary : Vocabulary} {standing : Option Standing}
  {cursor next : Cursor} {before after : Workspace} {answer : Except Failure (Option Token)}

/-- Whether what a lexer matches takes up at least one character. -/
def Consuming (lexer : Lexer) : Prop :=
  ∀ vocabulary, lexer.vocabulary.get.1 = .ok vocabulary → vocabulary.scanner.Consuming

/-- Whether nothing but its terminals has a bearing on what a lexer finds, and each of them takes up
some text under the name of an identifier. -/
structure Steady (lexer : Lexer) : Prop where
  silent : lexer.callbacks = []
  prepared : Unstuck lexer.vocabulary.get.1
  identified : ∀ vocabulary, lexer.vocabulary.get.1 = .ok vocabulary → vocabulary.Identified
  consuming : lexer.Consuming

theorem steady_of_make {number : Nat} {settings : LexerSettings}
    (made : make number settings = .ok lexer) (silent : settings.callbacks = [])
    (consuming : lexer.Consuming) : lexer.Steady := by
  refine ⟨(callbacks_of_make made).trans silent, ?_, fun vocabulary prepared => ?_,
    consuming⟩
  · rcases make_eq_ok.mp made with ⟨_, ordered, _, rfl⟩
    exact Vocabulary.prepare_unstuck []
  · rcases vocabulary_of_make made prepared with ⟨ordered, _, yields⟩
    exact Vocabulary.identified_of_prepare yields

theorem position_cut (lexer : Lexer) (cursor : Cursor) (stop : Nat) (name : String) :
    (lexer.cut cursor stop name).2.counter.position =
      cursor.counter.position + (min stop cursor.text.size - cursor.counter.position) := by
  simp only [cut, LineCounter.feed, Cursor.slice, String.toList_ofList, Array.length_toList,
    Array.size_extract]

theorem found_passes (identified : vocabulary.Identified)
    (consuming : vocabulary.scanner.Consuming)
    (here : cursor.counter.position < cursor.text.size) {stop : Nat} {name : String}
    (found : vocabulary.scanner.matchAt cursor.text cursor.counter.position = some (stop, name)) :
    cursor.Passes (lexer.found vocabulary cursor stop name).1
      (lexer.found vocabulary cursor stop name).2 := by
  have longer := consuming _ _ _ _ found
  have moved := lexer.position_cut cursor stop name
  refine ⟨?_, ⟨cursor.counter.position,
    (lexer.cut cursor stop name).2.counter.position, rfl, rfl, Nat.le_refl _, by
    omega, Nat.le_refl _⟩, ?_⟩
  · exact Token.ne_endKind_of_isIdentifier (identified.kindOf (identified.1 _ _ _ _ found) _)
  · show (lexer.cut cursor stop name).2.counter.position ≤ cursor.text.size
    omega

/-- What is found lies between the cursor and where the lexer has stopped. Induction on the tokens
that are passed over. -/
theorem findWithin_advances (identified : vocabulary.Identified)
    (consuming : vocabulary.scanner.Consuming) (fuel : Nat) : ∀ cursor : Cursor,
    cursor.Advances (lexer.findWithin vocabulary standing fuel cursor).1
      (lexer.findWithin vocabulary standing fuel cursor).2 := by
  induction fuel with
  | zero =>
      intro cursor
      rw [findWithin]
      by_cases ended : cursor.text.size ≤ cursor.counter.position
      · rw [if_pos ended]
        exact ⟨rfl, Nat.le_refl _, ended⟩
      · rw [if_neg ended]
        exact ⟨rfl, Nat.le_refl _, trivial⟩
  | succ fuel ih =>
      intro cursor
      rw [findWithin]
      by_cases ended : cursor.text.size ≤ cursor.counter.position
      · rw [if_pos ended]
        exact ⟨rfl, Nat.le_refl _, ended⟩
      · rw [if_neg ended]
        have here : cursor.counter.position < cursor.text.size := Nat.not_le.mp ended
        cases found : vocabulary.scanner.matchAt cursor.text cursor.counter.position with
        | none => exact ⟨rfl, Nat.le_refl _, Nat.le_refl _, here, Nat.le_refl _⟩
        | some match_ =>
            rcases match_ with ⟨stop, name⟩
            have moved := lexer.position_cut cursor stop name
            have forward :
                cursor.counter.position ≤ (lexer.cut cursor stop name).2.counter.position := by
                  omega
            dsimp only
            split
            next => exact (ih (lexer.cut cursor stop name).2).sooner rfl forward
            next => exact ⟨rfl, forward, found_passes identified consuming here found⟩

theorem find_advances (identified : vocabulary.Identified)
    (consuming : vocabulary.scanner.Consuming) :
    cursor.Advances (lexer.find vocabulary standing cursor).1
      (lexer.find vocabulary standing cursor).2 :=
  findWithin_advances identified consuming _ cursor

theorem next_advances (steady : lexer.Steady)
    (gives : (lexer.next standing cursor).Gives before (answer, next) after) :
    cursor.Advances answer next := by
  cases prepared : lexer.vocabulary.get.1 with
  | ok vocabulary =>
      rcases next_eq_find steady.silent prepared standing before cursor with ⟨after', finds, _⟩
      rcases gives.unique finds with ⟨same, _⟩
      have advances : cursor.Advances (lexer.find vocabulary standing cursor).1
          (lexer.find vocabulary standing cursor).2 :=
        find_advances (steady.identified _ prepared) (steady.consuming _ prepared)
      rw [← same] at advances
      exact advances
  | error failure =>
      by_cases ended : cursor.AtEnd
      · rw [next_of_atEnd ended] at gives
        rcases Work.gives_pure.mp gives with ⟨same, _⟩
        cases same
        exact ⟨rfl, Nat.le_refl _, ended⟩
      · have here : cursor.counter.position < cursor.text.size := Nat.not_le.mp ended
        have exists_fuel : ∃ fuel, cursor.text.size + 1 - cursor.counter.position = fuel + 1 :=
          ⟨_, Nat.sub_add_comm (Nat.le_of_lt here)⟩
        rcases exists_fuel with ⟨fuel, enough⟩
        rw [Lexer.next, enough, nextWithin, if_neg (Nat.not_le.mpr here)] at gives
        rcases Work.gives_bind.mp gives with ⟨opened, between, opening, gives⟩
        rcases openVocabulary_gives opening with ⟨rfl, _⟩
        rw [prepared] at gives
        rcases Work.gives_pure.mp gives with ⟨same, _⟩
        cases same
        have innocent := steady.prepared failure prepared
        cases failure with
        | stuckText stuck => cases innocent
        | stuckToken stuck => cases innocent
        | _ => exact ⟨rfl, Nat.le_refl _, trivial⟩

end Lexer

namespace Reader

variable {reader : Reader} {standing : Option Standing} {cursor next : Cursor}
  {before after : Workspace} {answer : Except Failure (Option Token)}

/-- The lexers of a reader. -/
def lexers : Reader → List Lexer
  | .basic lexer => [lexer]
  | .contextual lexer => lexer.root :: lexer.lexers.map (·.2)

/-- Where the lexer of a state is stuck the root lexer goes on from there, so what is blamed lies
between where the one began and where the other has stopped. -/
theorem blame_advances {stuck : StuckText} {met : Cursor} {history : Option (List Token)}
    (own : cursor.Advances (.error (.stuckText stuck)) met) (root : met.Advances answer next) :
    cursor.Advances (.error (ContextualLexer.blame stuck history answer)) next := by
  rcases own with ⟨text, forward, first, here, beyond⟩
  have late : stuck.position ≤ next.counter.position := Nat.le_trans beyond root.forward
  have kept : stuck.position < next.text.size := by
    rw [root.text]
    exact here
  have root' := root.sooner text forward
  cases answer with
  | ok found =>
      cases found with
      | none => exact ⟨root'.text, root'.forward, first, kept, late⟩
      | some token => exact ⟨root'.text, root'.forward, token, rfl, root'.answered⟩
  | error failure =>
      cases failure with
      | stuckText stuck' => exact ⟨root'.text, root'.forward, first, kept, late⟩
      | _ => exact root'

/-- A reader whose lexers are steady moves forward. -/
theorem next_advances (steady : ∀ lexer ∈ reader.lexers, lexer.Steady)
    (gives : (reader.next standing cursor).Gives before (answer, next) after) :
    cursor.Advances answer next := by
  cases reader with
  | basic lexer => exact Lexer.next_advances (steady lexer (List.mem_singleton_self _)) gives
  | contextual lexer =>
      simp only [lexers, List.forall_mem_cons, List.forall_mem_map] at steady
      unfold Reader.next ContextualLexer.next at gives
      dsimp only at gives
      split at gives
      next =>
        rcases Work.gives_pure.mp gives with ⟨same, _⟩
        cases same
        exact ⟨rfl, Nat.le_refl _, trivial⟩
      next place =>
        split at gives
        next =>
          rcases Work.gives_pure.mp gives with ⟨same, _⟩
          cases same
          exact ⟨rfl, Nat.le_refl _, trivial⟩
        next own known =>
          rcases Work.gives_bind.mp gives with ⟨⟨answer', met⟩, between, asked, gives⟩
          have advances := Lexer.next_advances (steady.2 _ (mem_of_assoc? known)) asked
          split at gives
          next stuck met' same =>
            cases same
            rcases Work.gives_bind.mp gives with ⟨⟨answer'', last⟩, between', asked', gives⟩
            rcases Work.gives_pure.mp gives with ⟨same, _⟩
            cases same
            exact blame_advances advances (Lexer.next_advances steady.1 asked')
          next =>
            rcases Work.gives_pure.mp gives with ⟨same, _⟩
            cases same
            exact advances

/-- At the end of a text a reader stays where it is. -/
theorem next_of_atEnd (ended : cursor.AtEnd)
    (gives : (reader.next standing cursor).Gives before (answer, next) after) : next = cursor := by
  cases reader with
  | basic lexer =>
      rw [Reader.next, Lexer.next_of_atEnd ended] at gives
      cases (Work.gives_pure.mp gives).1
      rfl
  | contextual lexer =>
      unfold Reader.next ContextualLexer.next at gives
      dsimp only at gives
      split at gives
      next =>
        cases (Work.gives_pure.mp gives).1
        rfl
      next place =>
        split at gives
        next =>
          cases (Work.gives_pure.mp gives).1
          rfl
        next own known =>
          rw [Lexer.next_of_atEnd ended, pure_bind] at gives
          cases (Work.gives_pure.mp gives).1
          rfl

end Reader

end Lalr
