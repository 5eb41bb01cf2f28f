import Lalr.Proofs.Lexer.Absorbing
import Lalr.Proofs.Lexer.Making
import Lalr.Proofs.Lexer.Purity

/-!
# What lexers find

A scanner puts its terminals into alternations. It is plain if it finds what its
terminals find one after another, each of them by itself. A lexer without callbacks
whose vocabulary is prepared does nothing but to find: what it finds is a function of the
text and of the position in it.
-/

namespace Lalr

/-- Where a match of a terminal ends that begins at a position, if the terminal is matched by
itself. -/
def Terminal.stop? (flags : RegexFlags) (whole : Bool) (text : Array Char) (position : Nat)
    (terminal : Terminal) : Option Nat :=
  match Regex.compile terminal.pattern.expression flags with
  | .error _ => none
  | .ok compiled =>
    (if whole then compiled.fullMatchAt text position else compiled.matchAt text position).map
      MatchPoint.position

namespace Scanner

variable {flags : RegexFlags} {whole : Bool} {text : Array Char} {position : Nat}
  {terminals : List Terminal}

/-- What the first of some terminals finds that matches at a position by itself. -/
def firstOf (flags : RegexFlags) (whole : Bool) (text : Array Char) (position : Nat)
    (terminals : List Terminal) : Option (Nat × String) :=
  terminals.findSome? fun terminal =>
    (terminal.stop? flags whole text position).map fun stop => (stop, terminal.name)

/-- Whether each alternative of a scanner matches as it does by itself. -/
def Plain (flags : RegexFlags) (scanner : Scanner) : Prop :=
  ∀ text position, scanner.matchAt text position =
    firstOf flags scanner.whole text position scanner.terminals

theorem make_eq_ok {scanner : Scanner} (made : make terminals flags whole = .ok scanner) :
    scanner.terminals = terminals ∧ scanner.whole = whole := by
  unfold make at made
  rcases bind_eq_ok.mp made with ⟨alternations, _, made⟩
  cases made
  exact ⟨rfl, rfl⟩

theorem mapError_eq_ok {answer : Except RegexFault CompiledRegex} {compiled : CompiledRegex} :
    answer.mapError RegexFault.failure = .ok compiled ↔ answer = .ok compiled := by
  cases answer <;> simp [Except.mapError]

/-- A scanner has an alternation for each run of its terminals. -/
theorem alternations_of_make {scanner : Scanner} (made : make terminals flags whole = .ok scanner) :
    List.Forall₂ (fun run compiled => Regex.compile (alternation run) flags = .ok compiled)
      (runs terminals) scanner.alternations := by
  unfold make at made
  rcases bind_eq_ok.mp made with ⟨alternations, compiled, made⟩
  cases made
  exact (mapM_eq_ok compiled).imp fun _ _ => mapError_eq_ok.mp

theorem exists_make
    (each : ∀ run ∈ runs terminals, ∃ compiled,
      Regex.compile (alternation run) flags = .ok compiled) :
    ∃ scanner, make terminals flags whole = .ok scanner := by
  have steps : ∀ run ∈ runs terminals, ∃ compiled,
      (Regex.compile (alternation run) flags).mapError RegexFault.failure = .ok compiled :=
    fun run member => (each run member).imp fun _ => mapError_eq_ok.mpr
  rcases exists_mapM steps with ⟨alternations, compiled⟩
  exact ⟨_, bind_eq_ok.mpr ⟨alternations, compiled, rfl⟩⟩

theorem firstOf_eq_none :
    firstOf flags whole text position terminals = none ↔
      ∀ terminal ∈ terminals, terminal.stop? flags whole text position = none := by
  simp [firstOf, List.findSome?_eq_none_iff]

/-- The terminal that finds something is the first that does. -/
theorem firstOf_eq_some {stop : Nat} {name : String} :
    firstOf flags whole text position terminals = some (stop, name) ↔
      ∃ before terminal after, terminals = before ++ terminal :: after ∧
        terminal.stop? flags whole text position = some stop ∧ terminal.name = name ∧
        ∀ other ∈ before, other.stop? flags whole text position = none := by
  simp [firstOf, List.findSome?_eq_some_iff, and_assoc]

end Scanner

/-- Whether all scanners of a vocabulary are plain. -/
structure Vocabulary.Plain (flags : RegexFlags) (vocabulary : Vocabulary) : Prop where
  scanner : vocabulary.scanner.Plain flags
  absorbed : ∀ entry ∈ vocabulary.absorbed, entry.2.Plain flags

namespace Lexer

variable {flags : RegexFlags} {lexer : Lexer} {vocabulary : Vocabulary} {standing : Option Standing}
  {cursor met : Cursor}

/-- The token that a lexer without callbacks makes of what its scanner finds, and the cursor that
remembers it. -/
def found (lexer : Lexer) (vocabulary : Vocabulary) (cursor : Cursor) (stop : Nat) (name : String) :
    Token × Cursor :=
  let (token, after) := lexer.cut cursor stop name
  let token := { token with kind := vocabulary.kindOf name token.text }
  (token, { after with last := some token })

/-- What a lexer without callbacks finds. -/
def findWithin (lexer : Lexer) (vocabulary : Vocabulary) (standing : Option Standing) :
    Nat → Cursor → Except Failure (Option Token) × Cursor
  | 0, cursor =>
    (if cursor.text.size ≤ cursor.counter.position then .ok none
      else .error (.fault .brokenPromise), cursor)
  | fuel + 1, cursor =>
    if cursor.text.size ≤ cursor.counter.position then (.ok none, cursor)
    else
      match vocabulary.scanner.matchAt cursor.text cursor.counter.position with
      | none => (.error (lexer.stuck vocabulary cursor standing), cursor)
      | some (stop, name) =>
        if lexer.ignored.contains name then
          findWithin lexer vocabulary standing fuel (lexer.cut cursor stop name).2
        else
          let (token, after) := lexer.found vocabulary cursor stop name
          (.ok (some token), after)

/-- What a lexer without callbacks finds from a cursor on. -/
def find (lexer : Lexer) (vocabulary : Vocabulary) (standing : Option Standing) (cursor : Cursor) :
    Except Failure (Option Token) × Cursor :=
  lexer.findWithin vocabulary standing (cursor.text.size + 1 - cursor.counter.position) cursor

theorem callBack_of_none (none : lexer.callbacks = []) (token : Token) :
    lexer.callBack vocabulary token =
      pure (.token { token with kind := vocabulary.kindOf token.kind token.text }) := by
  simp [callBack, none, assoc?]

/-- A lexer without callbacks does nothing but to find. -/
theorem nextWithin_eq_find (none : lexer.callbacks = [])
    (prepared : lexer.vocabulary.get.1 = .ok vocabulary) (fuel : Nat) :
    ∀ (before : Workspace) (cursor : Cursor), ∃ after,
      (lexer.nextWithin standing fuel cursor).Gives before
        (lexer.findWithin vocabulary standing fuel cursor) after ∧ after.Alike before := by
  induction fuel with
  | zero => exact fun before cursor => ⟨before, rfl, .refl _⟩
  | succ fuel ih =>
      intro before cursor
      simp only [nextWithin, findWithin]
      by_cases ended : cursor.text.size ≤ cursor.counter.position
      · rw [if_pos ended, if_pos ended]
        exact ⟨before, Work.gives_pure.mpr ⟨rfl, rfl⟩, .refl _⟩
      · rw [if_neg ended, if_neg ended]
        have opening := Work.gives lexer.openVocabulary before
        rcases openVocabulary_gives opening with ⟨same, alike⟩
        rw [same, prepared] at opening
        cases here : vocabulary.scanner.matchAt cursor.text cursor.counter.position with
        | none =>
            refine ⟨_, Work.gives_bind.mpr ⟨_, _, opening, ?_⟩, alike⟩
            simp only [here]
            exact Work.gives_pure.mpr ⟨rfl, rfl⟩
        | some match_ =>
            rcases match_ with ⟨stop, name⟩
            by_cases skipped : lexer.ignored.contains name = true
            · rcases ih _ (lexer.cut cursor stop name).2 with ⟨after, went, alike'⟩
              refine ⟨after, Work.gives_bind.mpr ⟨_, _, opening, ?_⟩, alike'.trans alike⟩
              simp only [here, callBack_of_none none, skipped, if_true]
              exact Work.gives_bind.mpr ⟨_, _, Work.gives_pure.mpr ⟨rfl, rfl⟩, went⟩
            · refine ⟨_, Work.gives_bind.mpr ⟨_, _, opening, ?_⟩, alike⟩
              simp only [here, callBack_of_none none, skipped]
              exact Work.gives_bind.mpr ⟨_, _, Work.gives_pure.mpr ⟨rfl, rfl⟩,
                Work.gives_pure.mpr ⟨rfl, rfl⟩⟩

theorem next_eq_find (none : lexer.callbacks = [])
    (prepared : lexer.vocabulary.get.1 = .ok vocabulary) (standing : Option Standing)
    (before : Workspace) (cursor : Cursor) :
    ∃ after, (lexer.next standing cursor).Gives before (lexer.find vocabulary standing cursor)
      after ∧ after.Alike before :=
  nextWithin_eq_find none prepared _ before cursor

theorem find_of_none (here : cursor.counter.position < cursor.text.size)
    (none : vocabulary.scanner.matchAt cursor.text cursor.counter.position = none) :
    lexer.find vocabulary standing cursor =
      (.error (lexer.stuck vocabulary cursor standing), cursor) := by
  have exists_fuel : ∃ fuel, cursor.text.size + 1 - cursor.counter.position = fuel + 1 :=
    ⟨_, Nat.sub_add_comm (Nat.le_of_lt here)⟩
  rcases exists_fuel with ⟨fuel, enough⟩
  rw [find, enough, findWithin, if_neg (Nat.not_le.mpr here), none]

theorem find_of_some (here : cursor.counter.position < cursor.text.size) {stop : Nat}
    {name : String}
    (some_ : vocabulary.scanner.matchAt cursor.text cursor.counter.position = some (stop, name))
    (kept : name ∉ lexer.ignored) :
    lexer.find vocabulary standing cursor =
      (.ok (some (lexer.found vocabulary cursor stop name).1),
        (lexer.found vocabulary cursor stop name).2) := by
  have exists_fuel : ∃ fuel, cursor.text.size + 1 - cursor.counter.position = fuel + 1 :=
    ⟨_, Nat.sub_add_comm (Nat.le_of_lt here)⟩
  rcases exists_fuel with ⟨fuel, enough⟩
  simp [find, enough, findWithin, Nat.not_le.mpr here, some_, kept]

/-- A lexer whose vocabulary cannot be prepared says so where there is something left of the
text. -/
theorem next_of_unprepared {failure : Failure} (failed : lexer.vocabulary.get.1 = .error failure)
    (here : cursor.counter.position < cursor.text.size) (standing : Option Standing)
    (before : Workspace) :
    ∃ after, (lexer.next standing cursor).Gives before (.error failure, cursor) after ∧
      after.Alike before := by
  have exists_fuel : ∃ fuel, cursor.text.size + 1 - cursor.counter.position = fuel + 1 :=
    ⟨_, Nat.sub_add_comm (Nat.le_of_lt here)⟩
  rcases exists_fuel with ⟨fuel, enough⟩
  have opening := Work.gives lexer.openVocabulary before
  rcases openVocabulary_gives opening with ⟨same, alike⟩
  rw [same, failed] at opening
  rw [Lexer.next, enough, nextWithin, if_neg (Nat.not_le.mpr here)]
  exact ⟨_, Work.gives_bind.mpr ⟨_, _, opening, Work.gives_pure.mpr ⟨rfl, rfl⟩⟩, alike⟩

/-- The vocabulary of a lexer is prepared from its terminals. -/
theorem vocabulary_of_make {number : Nat} {settings : LexerSettings}
    (made : make number settings = .ok lexer) (prepared : lexer.vocabulary.get.1 = .ok vocabulary) :
    ∃ ordered, ordered.Perm settings.terminals ∧
      (Vocabulary.prepare ordered settings.flags).Yields vocabulary := by
  rcases make_eq_ok.mp made with ⟨_, ordered, went, rfl⟩
  exact ⟨ordered, perm_of_inOrder went, [], _, Prod.ext prepared rfl⟩

/-- Where a lexer gets stuck nothing matches, and it has passed over ignored tokens only. -/
theorem findWithin_stuck {stuck : StuckText} (fuel : Nat) : ∀ {cursor : Cursor},
    lexer.findWithin vocabulary standing fuel cursor = (.error (.stuckText stuck), met) →
      met.counter.position < met.text.size ∧
        vocabulary.scanner.matchAt met.text met.counter.position = none ∧
        met.text = cursor.text ∧ met.last = cursor.last ∧
        lexer.stuck vocabulary met standing = .stuckText stuck := by
  induction fuel with
  | zero =>
      intro cursor went
      simp only [findWithin, Prod.mk.injEq] at went
      split at went
      · cases went.1
      · cases went.1
  | succ fuel ih =>
      intro cursor went
      simp only [findWithin] at went
      split at went
      · cases went
      next going =>
        split at went
        next none =>
          cases went
          exact ⟨Nat.not_le.mp going, none, rfl, rfl, rfl⟩
        next stop name _ =>
          split at went
          · rcases ih went with ⟨here, none, text, last, stuck⟩
            exact ⟨here, none, text, last, stuck⟩
          · cases went

/-- A token that is found has been cut off by the scanner somewhere. -/
theorem findWithin_ok {token : Token} (fuel : Nat) : ∀ {cursor : Cursor},
    lexer.findWithin vocabulary standing fuel cursor = (.ok (some token), met) →
      ∃ (here : Cursor) (stop : Nat) (name : String), here.text = cursor.text ∧
        vocabulary.scanner.matchAt here.text here.counter.position = some (stop, name) ∧
        name ∉ lexer.ignored ∧ lexer.found vocabulary here stop name = (token, met) := by
  induction fuel with
  | zero =>
      intro cursor went
      simp only [findWithin, Prod.mk.injEq] at went
      split at went
      · cases went.1
      · cases went.1
  | succ fuel ih =>
      intro cursor went
      simp only [findWithin] at went
      split at went
      · cases went
      · split at went
        · cases went
        next stop name found =>
          split at went
          · rcases ih went with ⟨here, stop, name, same, rest⟩
            exact ⟨here, stop, name, same, rest⟩
          next kept =>
            cases went
            exact ⟨cursor, stop, name, rfl, found, by simpa using kept, rfl⟩

end Lexer

end Lalr
