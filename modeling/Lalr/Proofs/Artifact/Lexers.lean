import Lalr.Proofs.Artifact.Objects
import Lalr.Proofs.Lexer.Absorbing
import Lalr.Proofs.Lexer.Making
import Lalr.Proofs.Lexer.Purity

/-!
# Lexers of terminals that come back

A terminal that has been stored knows its width already, and that is all that is new
about it. Lexers of such terminals are made where lexers of the terminals themselves
are, with the same terminals tried in the same order, and they find the same tokens.
-/

namespace Lalr

/-! ## Scanners and vocabularies -/

/-- The scanner with the terminals as they are found in stored data. -/
def Scanner.stored (scanner : Scanner) : Scanner :=
  { scanner with terminals := scanner.terminals.map Terminal.stored }

namespace Scanner

theorem runs_stored (terminals : List Terminal) :
    runs (terminals.map Terminal.stored) = (runs terminals).map (List.map Terminal.stored) := by
  induction terminals with
  | nil => rfl
  | cons terminal rest ih =>
      rw [List.map_cons, runs, ih, runs]
      cases runs rest with
      | nil => rfl
      | cons run others =>
          cases run with
          | nil => rfl
          | cons next run =>
              by_cases same : terminal.pattern.flags = next.pattern.flags
              · simp [same, Terminal.stored, Pattern.stored]
              · simp [same, Terminal.stored, Pattern.stored]

theorem alternation_stored (terminals : List Terminal) :
    alternation (terminals.map Terminal.stored) = alternation terminals := by
  unfold alternation
  rw [List.map_map]
  rfl

theorem make_stored (terminals : List Terminal) (flags : RegexFlags) (whole : Bool) :
    make (terminals.map Terminal.stored) flags whole = (make terminals flags whole).map stored := by
  have compiled : (fun run : List Terminal => (Regex.compile (alternation run) flags).mapError
      RegexFault.failure) ∘ List.map Terminal.stored =
        fun run => (Regex.compile (alternation run) flags).mapError RegexFault.failure := by
    funext run
    simp only [Function.comp_apply, alternation_stored]
  unfold make
  rw [runs_stored, List.mapM_map, compiled]
  cases (runs terminals).mapM fun run =>
    (Regex.compile (alternation run) flags).mapError RegexFault.failure <;> rfl

theorem names_stored (scanner : Scanner) : scanner.stored.names = scanner.names := by
  unfold names stored
  rw [List.map_map]
  rfl

end Scanner

/-- The vocabulary with the terminals as they are found in stored data. -/
def Vocabulary.stored (vocabulary : Vocabulary) : Vocabulary where
  scanner := vocabulary.scanner.stored
  absorbed := vocabulary.absorbed.map fun entry => (entry.1, entry.2.stored)

namespace Vocabulary

theorem literals_stored (terminals : List Terminal) :
    literals (terminals.map Terminal.stored) = (literals terminals).map Terminal.stored := by
  unfold literals
  rw [List.filter_map]
  rfl

theorem filterM_stored {accept accept' : Terminal → Except Failure Bool}
    (same : ∀ terminal, accept' terminal.stored = accept terminal) (terminals : List Terminal) :
    (terminals.map Terminal.stored).filterM accept' =
      (terminals.filterM accept).map (List.map Terminal.stored) := by
  induction terminals with
  | nil => rfl
  | cons terminal rest ih =>
      rw [List.map_cons, filterM_cons, filterM_cons, same, ih]
      cases accept terminal with
      | error failure => rfl
      | ok kept =>
          cases rest.filterM accept with
          | error failure => rfl
          | ok others => cases kept <;> rfl

theorem matchedLiterals_stored (flags : RegexFlags) (literals : List Terminal)
    (expression : Terminal) :
    matchedLiterals flags (literals.map Terminal.stored) expression.stored =
      (matchedLiterals flags literals expression).map (List.map Terminal.stored) := by
  unfold matchedLiterals
  rw [List.filter_map]
  exact filterM_stored (fun _ => rfl) _

theorem map_name_stored (terminals : List Terminal) :
    (terminals.map Terminal.stored).map Terminal.name = terminals.map Terminal.name := by
  rw [List.map_map]
  rfl

theorem absorb_stored (flags : RegexFlags) (literals terminals : List Terminal) :
    absorb flags (literals.map Terminal.stored) (terminals.map Terminal.stored) =
      (fun found => (found.1.map fun entry => (entry.1, entry.2.stored), found.2)) <$>
        absorb flags literals terminals := by
  induction terminals with
  | nil => rfl
  | cons terminal rest ih =>
      have same := matchedLiterals_stored flags literals terminal
      rw [List.map_cons]
      cases kind : terminal.pattern.kind with
      | literal => rw [absorb_literal terminal kind, absorb_literal terminal.stored kind, ih]
      | expression =>
          cases matches_ : matchedLiterals flags literals terminal with
          | error failure =>
              rw [matches_] at same
              rw [absorb_failed terminal kind matches_, absorb_failed terminal.stored kind same]
              rfl
          | ok matched =>
              rw [matches_] at same
              have replaced : (((matched.map Terminal.stored).filter (replaces terminal.stored)).map
                  Terminal.name) = (matched.filter (replaces terminal)).map Terminal.name := by
                rw [List.filter_map, map_name_stored]
                rfl
              rw [absorb_expression terminal kind matches_,
                absorb_expression terminal.stored kind same]
              simp only [List.isEmpty_map, replaced, Scanner.make_stored, announcement,
                map_name_stored]
              by_cases none : matched.isEmpty = true
              · rw [if_pos none, if_pos none, ih]
              · rw [if_neg none, if_neg none, map_bind]
                refine bind_congr fun _ => ?_
                cases Scanner.make matched flags true with
                | error failure => rfl
                | ok scanner =>
                    have given (scanner : Scanner) :
                        (ExceptT.mk (pure (.ok scanner)) : Preparing Scanner) = pure scanner := rfl
                    simp only [Except.map, given, pure_bind]
                    rw [ih, bind_map_left, map_bind]
                    rfl

theorem prepare_stored (terminals : List Terminal) (flags : RegexFlags) :
    prepare (terminals.map Terminal.stored) flags = stored <$> prepare terminals flags := by
  unfold prepare
  rw [literals_stored, absorb_stored, map_bind, bind_map_left]
  refine bind_congr fun found => ?_
  have left : (terminals.map Terminal.stored).filter (fun terminal =>
      !found.2.contains terminal.name) =
        (terminals.filter fun terminal => !found.2.contains terminal.name).map Terminal.stored := by
    rw [List.filter_map]
    rfl
  simp only [left, Scanner.make_stored, Data.settle_map]
  cases Scanner.make (terminals.filter fun terminal =>
    !found.2.contains terminal.name) flags <;> rfl

theorem kindOf_stored (vocabulary : Vocabulary) (name text : String) :
    vocabulary.stored.kindOf name text = vocabulary.kindOf name text := by
  have found : assoc? vocabulary.stored.absorbed name =
      (assoc? vocabulary.absorbed name).map Scanner.stored := assoc?_map _ _ _
  unfold kindOf
  rw [found]
  cases assoc? vocabulary.absorbed name <;> rfl

end Vocabulary

/-! ## Making lexers -/

/-- The settings with the terminals as they are found in stored data. -/
def LexerSettings.stored (settings : LexerSettings) : LexerSettings :=
  { settings with terminals := settings.terminals.map Terminal.stored }

namespace Lexer

theorem validate_stored (flags : RegexFlags) (terminal : Terminal) :
    validate flags terminal.stored = validate flags terminal := by
  have expression : terminal.stored.pattern.expression = terminal.pattern.expression := rfl
  have width : terminal.stored.pattern.width = terminal.pattern.width := Pattern.width_stored _
  unfold validate
  rw [expression, width]
  rfl

theorem inOrder_stored (terminals : List Terminal) :
    inOrder (terminals.map Terminal.stored) =
      (inOrder terminals).map (List.map Terminal.stored) := by
  have measured : (terminals.map Terminal.stored).mapM (fun terminal => do
      return (terminal, (← terminal.pattern.width).most)) =
        (terminals.mapM fun terminal => do
          return (terminal, (← terminal.pattern.width).most) : Except Failure _).map
            (List.map fun entry => (entry.1.stored, entry.2)) := by
    induction terminals with
    | nil => rfl
    | cons terminal rest ih =>
        have width : terminal.stored.pattern.width = terminal.pattern.width :=
          Pattern.width_stored _
        rw [List.map_cons, List.mapM_cons, List.mapM_cons, ih, width]
        cases terminal.pattern.width with
        | error failure => rfl
        | ok width =>
            cases rest.mapM fun terminal => (do
              return (terminal, (← terminal.pattern.width).most) : Except Failure _) <;> rfl
  unfold inOrder
  rw [measured]
  cases terminals.mapM fun terminal => (do
    return (terminal, (← terminal.pattern.width).most) : Except Failure _) with
  | error failure => rfl
  | ok measured =>
      have sorted := List.map_mergeSort (r := goesBefore) (s := goesBefore)
        (f := fun entry : Terminal × Nat => (entry.1.stored, entry.2)) (l := measured)
        fun _ _ _ _ => rfl
      refine congrArg Except.ok ?_
      rw [← sorted, List.map_map, List.map_map]
      rfl

theorem breakingNames_stored (terminals : List Terminal) :
    breakingNames (terminals.map Terminal.stored) = breakingNames terminals := by
  unfold breakingNames
  rw [List.filter_map, List.map_map]
  rfl

theorem check_stored (settings : LexerSettings) : check settings.stored = check settings := by
  have validated : settings.stored.terminals.forM (validate settings.stored.flags) =
      settings.terminals.forM (validate settings.flags) := by
    show (settings.terminals.map Terminal.stored).forM (validate settings.flags) = _
    induction settings.terminals with
    | nil => rfl
    | cons terminal rest ih =>
        rw [List.map_cons, forM_cons_eq, forM_cons_eq, validate_stored, ih]
  have names : checkIgnored settings.stored = checkIgnored settings := by
    unfold checkIgnored
    rw [LexerSettings.stored, Vocabulary.map_name_stored]
  unfold check
  rw [validated, names]
  rfl

/-- Whether two lexers are the same apart from their numbers, and from what the terminals of the
second know of their widths. -/
structure Resembles (lexer lexer' : Lexer) : Prop where
  ignored : lexer'.ignored = lexer.ignored
  breaking : lexer'.breaking = lexer.breaking
  callbacks : lexer'.callbacks = lexer.callbacks
  vocabulary : lexer'.vocabulary.get.1 = lexer.vocabulary.get.1.map Vocabulary.stored

theorem make_stored {number : Nat} {settings : LexerSettings} {lexer : Lexer}
    (made : make number settings = .ok lexer) (number' : Nat) :
    ∃ lexer', make number' settings.stored = .ok lexer' ∧ lexer.Resembles lexer' := by
  rw [make_eq] at made
  rcases bind_eq_ok.mp made with ⟨_, checked, made⟩
  cases ordered : inOrder settings.terminals with
  | error failure =>
      rw [ordered] at made
      cases made
  | ok terminals =>
      rw [ordered] at made
      cases made
      have stored := inOrder_stored settings.terminals
      rw [ordered] at stored
      refine ⟨ofOrdered number' settings.stored (terminals.map Terminal.stored), ?_,
        rfl, ?_, rfl, ?_⟩
      · rw [make_eq, check_stored, checked]
        exact congrArg (Except.map (ofOrdered number' settings.stored)) stored
      · exact breakingNames_stored terminals
      · show ((Vocabulary.prepare (terminals.map Terminal.stored) settings.flags).run.run []).1 = _
        rw [Vocabulary.prepare_stored]
        simp only [ExceptT.run_map, StateT.run_map]
        rfl

end Lexer

/-! ## What lexers find -/

/-- Whether a handler for tokens does the same in all workspaces that are alike. -/
def TokenHandler.Discreet (callback : TokenHandler) : Prop := ∀ token, (callback token).Discreet

namespace Lexer

/-- Whether the callbacks of a lexer are discreet. -/
def Discreet (lexer : Lexer) : Prop :=
  ∀ kind callback, assoc? lexer.callbacks kind = some callback → TokenHandler.Discreet callback

namespace Resembles

variable {lexer lexer' : Lexer}

theorem cut (resembles : lexer.Resembles lexer') (cursor : Cursor) (stop : Nat) (name : String) :
    lexer'.cut cursor stop name = lexer.cut cursor stop name := by
  unfold Lexer.cut
  rw [resembles.breaking]

theorem stuck (resembles : lexer.Resembles lexer') (vocabulary : Vocabulary) (cursor : Cursor)
    (standing : Option Standing) :
    lexer'.stuck vocabulary.stored cursor standing = lexer.stuck vocabulary cursor standing := by
  have names : vocabulary.stored.scanner.names = vocabulary.scanner.names :=
    vocabulary.scanner.names_stored
  unfold Lexer.stuck Lexer.allowed
  rw [names, resembles.ignored]

theorem callBack (resembles : lexer.Resembles lexer') (vocabulary : Vocabulary) (token : Token) :
    lexer'.callBack vocabulary.stored token = lexer.callBack vocabulary token := by
  unfold Lexer.callBack
  rw [vocabulary.kindOf_stored, resembles.callbacks]

/-- What is done with the vocabulary is what there is to it. -/
theorem open_bind {α : Type} {rest rest' : Except Failure Vocabulary → Work α}
    (agree : Work.Agree (rest lexer.vocabulary.get.1) (rest' lexer'.vocabulary.get.1)) :
    Work.Agree (lexer.openVocabulary >>= rest) (lexer'.openVocabulary >>= rest') := by
  constructor
  intro before before' alike
  have opens := Work.gives lexer.openVocabulary before
  have opens' := Work.gives lexer'.openVocabulary before'
  rcases openVocabulary_gives opens with ⟨same, quiet⟩
  rcases openVocabulary_gives opens' with ⟨same', quiet'⟩
  have agreed := agree.run _ _ ((quiet.trans alike).trans quiet'.symm)
  simp only [StateT.run_bind]
  simp only [Bind.bind]
  rw [same, same']
  exact agreed

theorem agree_callBack (discreet : lexer.Discreet) (vocabulary : Vocabulary) (token : Token) :
    (lexer.callBack vocabulary token).Discreet := by
  unfold Lexer.callBack
  split
  next callback known =>
    dsimp only
    split
    · exact discreet _ _ known _
    · exact .pure _
  next => exact .pure _

/-- Lexers that resemble one another find the same tokens. Induction on the number of tokens that
are looked at. -/
theorem nextWithin (resembles : lexer.Resembles lexer') (discreet : lexer.Discreet)
    (standing : Option Standing) (fuel : Nat) : ∀ cursor,
      Work.Agree (lexer.nextWithin standing fuel cursor)
        (lexer'.nextWithin standing fuel cursor) := by
  induction fuel with
  | zero => exact fun _ => .pure _
  | succ fuel ih =>
      intro cursor
      rw [Lexer.nextWithin, Lexer.nextWithin]
      split
      next => exact .pure _
      next =>
        refine open_bind ?_
        rw [resembles.vocabulary]
        cases lexer.vocabulary.get.1 with
        | error failure => exact .pure _
        | ok vocabulary =>
            simp only [Except.map, resembles.stuck, resembles.cut, resembles.callBack,
              resembles.ignored]
            have scanner : vocabulary.stored.scanner.matchAt = vocabulary.scanner.matchAt := rfl
            rw [scanner]
            split
            next => exact .pure _
            next stop name _ =>
              refine Agrees.bind (agree_callBack discreet vocabulary _) fun answer => ?_
              cases answer with
              | error failure => exact .pure _
              | ok value =>
                  dsimp only
                  split
                  next => exact ih _
                  next =>
                    split
                    next => exact .pure _
                    next => exact Agrees.bind (Work.Agree.look _) fun _ => .pure _

theorem next (resembles : lexer.Resembles lexer') (discreet : lexer.Discreet)
    (standing : Option Standing) (cursor : Cursor) :
    Work.Agree (lexer.next standing cursor) (lexer'.next standing cursor) :=
  resembles.nextWithin discreet standing _ cursor

end Resembles

end Lexer

/-! ## Lexers that know the state of the parse -/

namespace ContextualLexer

theorem settingsFor_stored (settings : LexerSettings) (names : List String) :
    settingsFor settings.stored names = (settingsFor settings names).stored := by
  have named : settings.stored.terminals.map (fun terminal => (terminal.name, terminal)) =
      (settings.terminals.map fun terminal => (terminal.name, terminal)).map fun entry =>
        (entry.1, entry.2.stored) := by
    rw [LexerSettings.stored, List.map_map, List.map_map]
    rfl
  unfold settingsFor
  simp only [named, Data.settle_map, List.filter_map]
  simp only [LexerSettings.stored, List.map_map]
  rfl

/-- Whether the lexers of two lists are for the same keys and resemble one another. -/
def Pairwise {κ : Type} (made made' : List (κ × Lexer)) : Prop :=
  List.Forall₂ (fun entry entry' => entry.1 = entry'.1 ∧ entry.2.Resembles entry'.2) made made'

theorem makeLexers_stored {settings : LexerSettings} {alwaysAccepted : List String}
    {root count : Nat} (root' : Nat) {states : List (State × List String)} :
    ∀ {made made' : List (List String × Lexer)} {lexers : List (State × Lexer)},
      makeLexers settings alwaysAccepted root made states = .ok (lexers, count) →
      Pairwise made made' →
      ∃ lexers', makeLexers settings.stored alwaysAccepted root' made' states =
          .ok (lexers', count) ∧ Pairwise lexers lexers' := by
  induction states with
  | nil =>
      intro made made' lexers went pairs
      cases went
      exact ⟨[], by rw [makeLexers, pairs.length_eq]; rfl, .nil⟩
  | cons place rest ih =>
      rcases place with ⟨state, names⟩
      intro made made' lexers went pairs
      rw [makeLexers] at went ⊢
      have known := assoc?_alike pairs (sortedSet names)
      dsimp only at went ⊢
      generalize assoc? made (sortedSet names) = before at went known
      generalize assoc? made' (sortedSet names) = before' at known ⊢
      cases known with
      | @some lexer lexer' resembles =>
          rcases bind_eq_ok.mp went with ⟨⟨others, _⟩, others_went, done⟩
          cases done
          rcases ih others_went pairs with ⟨others', went', pairs'⟩
          exact ⟨(state, lexer') :: others', bind_of_ok went' _,
            List.Forall₂.cons ⟨rfl, resembles⟩ pairs'⟩
      | none =>
          rcases bind_eq_ok.mp went with ⟨lexer, new, went⟩
          rcases bind_eq_ok.mp went with ⟨⟨others, _⟩, others_went, done⟩
          cases done
          rcases Lexer.make_stored new (root' + made'.length + 1) with ⟨lexer', new', resembles⟩
          have pairs : Pairwise ((sortedSet names, lexer) :: made)
            ((sortedSet names, lexer') :: made') := .cons ⟨rfl, resembles⟩ pairs
          rcases ih others_went pairs with ⟨others', went', pairs'⟩
          rw [← settingsFor_stored] at new'
          exact ⟨(state, lexer') :: others', (bind_of_ok new' _).trans (bind_of_ok went' _),
            List.Forall₂.cons ⟨rfl, resembles⟩ pairs'⟩

/-- Whether the lexers of the states and the lexers of all terminals resemble one another. -/
structure Resembles (lexer lexer' : ContextualLexer) : Prop where
  lexers : Pairwise lexer.lexers lexer'.lexers
  root : lexer.root.Resembles lexer'.root

theorem make_stored {settings : LexerSettings} {alwaysAccepted : List String} {number count : Nat}
    {states : List (State × List String)} {lexer : ContextualLexer}
    (made : make number settings states alwaysAccepted = .ok (lexer, count)) (number' : Nat) :
    ∃ lexer', make number' settings.stored states alwaysAccepted = .ok (lexer', count) ∧
      lexer.Resembles lexer' := by
  rcases bind_eq_ok.mp made with ⟨root, rooted, made⟩
  rcases bind_eq_ok.mp made with ⟨⟨lexers, _⟩, made, done⟩
  cases done
  rcases Lexer.make_stored rooted number' with ⟨root', rooted', roots⟩
  rcases makeLexers_stored number' made .nil with ⟨lexers', made', pairs⟩
  refine ⟨⟨lexers', root'⟩, ?_, pairs, roots⟩
  exact (bind_of_ok rooted' _).trans (bind_of_ok made' _)

/-- Whether the callbacks of all lexers are discreet. -/
structure Discreet (lexer : ContextualLexer) : Prop where
  lexers : ∀ entry ∈ lexer.lexers, entry.2.Discreet
  root : lexer.root.Discreet

variable {lexer lexer' : ContextualLexer}

theorem Resembles.next (resembles : lexer.Resembles lexer') (discreet : lexer.Discreet)
    (standing : Option Standing) (cursor : Cursor) :
    Work.Agree (lexer.next standing cursor) (lexer'.next standing cursor) := by
  unfold ContextualLexer.next
  cases standing with
  | none => exact .pure _
  | some place =>
      have known := assoc?_alike resembles.lexers place.state
      have quiet : ∀ own, assoc? lexer.lexers place.state = some own → own.Discreet :=
        fun own found => discreet.lexers _ (mem_of_assoc? found)
      dsimp only
      generalize assoc? lexer.lexers place.state = own at known quiet
      generalize assoc? lexer'.lexers place.state = own' at known
      cases known with
      | none => exact .pure _
      | some resembled =>
          apply Agrees.bind (resembled.next (quiet _ rfl) _ _)
          rintro ⟨answer, after⟩
          split
          next => exact Agrees.bind (resembles.root.next discreet.root _ _) fun _ => .pure _
          next => exact .pure _

end ContextualLexer

/-! ## Sources of tokens -/

/-- Whether two readers resemble one another. -/
inductive Reader.Resembles : Reader → Reader → Prop
  | basic {lexer lexer' : Lexer} (lexers : lexer.Resembles lexer') :
      Reader.Resembles (.basic lexer) (.basic lexer')
  | contextual {lexer lexer' : ContextualLexer} (lexers : lexer.Resembles lexer') :
      Reader.Resembles (.contextual lexer) (.contextual lexer')

/-- Whether the callbacks of all lexers of a reader are discreet. -/
def Reader.Discreet : Reader → Prop
  | .basic lexer => lexer.Discreet
  | .contextual lexer => lexer.Discreet

theorem Reader.Resembles.next {reader reader' : Reader} (resembles : reader.Resembles reader')
    (discreet : reader.Discreet) (standing : Option Standing) (cursor : Cursor) :
    Work.Agree (reader.next standing cursor) (reader'.next standing cursor) := by
  cases resembles with
  | basic lexers => exact lexers.next discreet standing cursor
  | contextual lexers => exact lexers.next discreet standing cursor

theorem TokenStream.pullWithin_agree {σ : Type} {postLexer : PostLexer}
    {source source' : σ → Work (Except Failure (Option Token) × σ)}
    (agree : ∀ state, Work.Agree (source state) (source' state)) (fuel : Nat) :
    ∀ (stream : TokenStream) (state : σ),
      Work.Agree (pullWithin postLexer source fuel stream state)
        (pullWithin postLexer source' fuel stream state) := by
  induction fuel with
  | zero =>
      intro stream state
      unfold pullWithin
      split <;> exact .pure _
  | succ fuel ih =>
      intro stream state
      unfold pullWithin
      split
      next => exact .pure _
      next => exact .pure _
      next => exact .pure _
      next =>
        apply Agrees.bind (agree state)
        rintro ⟨answer, state⟩
        rcases answer with failure | _ | token
        · exact .pure _
        · exact ih _ _
        · exact ih _ _

theorem TokenSource.pull_agree {source source' : TokenSource}
    (readers : source.reader.Resembles source'.reader) (discreet : source.reader.Discreet)
    (postLexers : source.postLexer = source'.postLexer) (standing : Option Standing)
    (stream : TokenStream) (cursor : Cursor) :
    Work.Agree (source.pull standing stream cursor) (source'.pull standing stream cursor) := by
  unfold pull
  rw [← postLexers]
  split
  next => exact Agrees.bind (readers.next discreet standing cursor) fun _ => .pure _
  next => exact TokenStream.pullWithin_agree (readers.next discreet standing) _ stream cursor

end Lalr
