import Lalr.Proofs.Lexer.Plainness
import Lalr.Proofs.Lexer.Reading

/-!
# Contextual lexers only narrow

The lexer of a state tries fewer terminals than the root lexer. Fewer expressions absorb
fewer literals, so whatever the root lexer tries is tried by the lexer of a state too if
it is one of its terminals. An ignored terminal is one of the terminals of every state:
where the lexer of a state is stuck, the root lexer finds a token or is stuck as well, and
never passes over ignored text.
-/

namespace Lalr

namespace Vocabulary

variable {flags : RegexFlags} {terminals : List Terminal} {vocabulary : Vocabulary}
  {text : Array Char} {position : Nat}

/-- What a plain scanner finds is one of the terminals, and not one that is replaced. -/
theorem exists_of_matchAt (yields : (prepare terminals flags).Yields vocabulary)
    (plain : vocabulary.Plain flags) {stop : Nat} {name : String}
    (found : vocabulary.scanner.matchAt text position = some (stop, name)) :
    ∃ terminal ∈ terminals, terminal.name = name ∧ ¬Replaced flags terminals name ∧
      terminal.stop? flags false text position = some stop := by
  rcases prepare_yields yields with ⟨left, made, ⟨replaced, names, rfl⟩, _⟩
  rcases Scanner.make_eq_ok made with ⟨tried, notWhole⟩
  rw [plain.scanner, notWhole, tried, Scanner.firstOf_eq_some] at found
  rcases found with ⟨before, terminal, after, split, stops, rfl, _⟩
  have member : terminal ∈ terminals.filter fun terminal => !replaced.contains terminal.name := by
    rw [split]
    simp
  rcases List.mem_filter.mp member with ⟨member, kept⟩
  refine ⟨terminal, member, rfl, ?_, stops⟩
  rw [← names]
  simpa using kept

/-- A plain scanner finds something wherever one of its terminals that is not replaced matches. -/
theorem matchAt_ne_none (yields : (prepare terminals flags).Yields vocabulary)
    (plain : vocabulary.Plain flags) {terminal : Terminal} (member : terminal ∈ terminals)
    (kept : ¬Replaced flags terminals terminal.name) {stop : Nat}
    (stops : terminal.stop? flags false text position = some stop) :
    vocabulary.scanner.matchAt text position ≠ none := by
  rcases prepare_yields yields with ⟨left, made, ⟨replaced, names, rfl⟩, _⟩
  rcases Scanner.make_eq_ok made with ⟨tried, notWhole⟩
  rw [plain.scanner, notWhole, tried, ne_eq, Scanner.firstOf_eq_none]
  intro nothing
  rw [← names] at kept
  have unmatched := nothing terminal (List.mem_filter.mpr ⟨member, by simpa using kept⟩)
  rw [stops] at unmatched
  cases unmatched

/-- A token keeps the name of its terminal or gets that of a literal. -/
theorem kindOf_eq_or (yields : (prepare terminals flags).Yields vocabulary)
    (plain : vocabulary.Plain flags) (name text : String) :
    vocabulary.kindOf name text = name ∨
      ∃ literal ∈ terminals, literal.name = vocabulary.kindOf name text := by
  rcases prepare_yields yields with ⟨_, _, _, scanners, settled, each⟩
  unfold kindOf
  cases absorbed : assoc? vocabulary.absorbed name with
  | none => exact .inl rfl
  | some scanner =>
      dsimp only
      cases matched : scanner.matchAt text.toList.toArray 0 with
      | none => exact .inl rfl
      | some match_ =>
          rcases match_ with ⟨stop, kind⟩
          right
          have listed := mem_of_assoc? absorbed
          rw [plain.absorbed _ listed, Scanner.firstOf_eq_some] at matched
          rcases matched with ⟨before, literal, after, split, _, named, _⟩
          rw [settled] at listed
          rcases exists_of_mem_right each (Data.mem_of_settle listed) with
            ⟨expression, _, _, made⟩
          have member : literal ∈ scanner.terminals := by
            rw [split]
            simp
          rw [(Scanner.make_eq_ok made).1] at member
          exact ⟨literal, (mem_absorbedBy.mp member).1, named⟩

end Vocabulary

namespace ContextualLexer

variable {settings : LexerSettings} {number count : Nat} {alwaysAccepted : List String}
  {names : List String} {lexer : ContextualLexer} {own : Lexer}
  {ownVocabulary rootVocabulary : Vocabulary}

theorem mem_terminals_settingsFor (distinct : (settings.terminals.map Terminal.name).Nodup)
    {terminal : Terminal} :
    terminal ∈ (settingsFor settings names).terminals ↔
      terminal ∈ settings.terminals ∧ terminal.name ∈ names := by
  rw [terminals_settingsFor distinct, List.mem_filter, List.contains_iff_mem]

/-- What the lexer of a state finds has a name that it has been made for. -/
theorem mem_names_of_find (distinct : (settings.terminals.map Terminal.name).Nodup)
    (made : Lexer.make number (settingsFor settings names) = .ok own)
    (prepared : own.vocabulary.get.1 = .ok ownVocabulary)
    (plain : ownVocabulary.Plain settings.flags) {standing : Option Standing}
    {cursor next : Cursor} {token : Token}
    (found : own.find ownVocabulary standing cursor = (.ok (some token), next)) :
    token.kind ∈ names := by
  rcases Lexer.vocabulary_of_make made prepared with ⟨ordered, perm, yields⟩
  rcases Lexer.findWithin_ok _ found with ⟨here, stop, name, _, matched, _, cut⟩
  rcases (congrArg Prod.fst cut).symm with rfl
  have named {terminal : Terminal} (member : terminal ∈ ordered) : terminal.name ∈ names :=
    ((mem_terminals_settingsFor distinct).mp (perm.mem_iff.mp member)).2
  change ownVocabulary.kindOf name (own.cut here stop name).1.text ∈ names
  rcases Vocabulary.kindOf_eq_or yields plain name (own.cut here stop name).1.text with
    same | ⟨literal, member, same⟩
  · rcases Vocabulary.exists_of_matchAt yields plain matched with ⟨terminal, member, rfl, _⟩
    rw [same]
    exact named member
  · rw [← same]
    exact named member

/-- Where the lexer of a state finds nothing, the root lexer finds nothing that is ignored: a
terminal that it tries is tried in the state as well, if it is one of those for the state. -/
theorem notMem_of_matchAt (distinct : (settings.terminals.map Terminal.name).Nodup)
    {root : Lexer} {number' : Nat} (rooted : Lexer.make number' settings = .ok root)
    (rootPrepared : root.vocabulary.get.1 = .ok rootVocabulary)
    (rootPlain : rootVocabulary.Plain settings.flags)
    (made : Lexer.make number (settingsFor settings names) = .ok own)
    (prepared : own.vocabulary.get.1 = .ok ownVocabulary)
    (plain : ownVocabulary.Plain settings.flags) {text : Array Char} {position stop : Nat}
    {name : String} (stuck : ownVocabulary.scanner.matchAt text position = none)
    (matched : rootVocabulary.scanner.matchAt text position = some (stop, name)) :
    name ∉ names := by
  rcases Lexer.vocabulary_of_make rooted rootPrepared with ⟨all, perm, rootYields⟩
  rcases Lexer.vocabulary_of_make made prepared with ⟨ordered, ownPerm, yields⟩
  rcases Vocabulary.exists_of_matchAt rootYields rootPlain matched with
    ⟨terminal, member, rfl, kept, stops⟩
  intro named
  have fewer : ordered ⊆ all := by
    intro other listed
    exact perm.mem_iff.mpr ((mem_terminals_settingsFor distinct).mp (ownPerm.mem_iff.mp listed)).1
  have tried : terminal ∈ ordered :=
    ownPerm.mem_iff.mpr ((mem_terminals_settingsFor distinct).mpr
      ⟨perm.mem_iff.mp member, named⟩)
  exact Vocabulary.matchAt_ne_none yields plain tried (fun replaced => kept (replaced.mono fewer))
    stops stuck

/-- What a contextual lexer without callbacks does in a state: it does what the lexer of the state
does, unless this is stuck. Then it is the root lexer that is asked what to blame. -/
theorem next_of_stuck {place : Standing} {cursor met : Cursor} {stuck : StuckText}
    {before between : Workspace} (known : assoc? lexer.lexers place.state = some own)
    (went : (own.next (some place) cursor).Gives before (.error (.stuckText stuck), met) between)
    {answer : Except Failure (Option Token)} {next : Cursor} {after : Workspace}
    (asked : (lexer.root.next (some place) met).Gives between (answer, next) after) :
    (lexer.next (some place) cursor).Gives before
      (.error (blame stuck (met.last.map fun token => [token]) answer), next) after := by
  simp only [ContextualLexer.next, known]
  refine Work.gives_bind.mpr ⟨_, _, went, ?_⟩
  exact Work.gives_bind.mpr ⟨_, _, asked, Work.gives_pure.mpr ⟨rfl, rfl⟩⟩

/-- A contextual lexer without callbacks whose alternatives match as they do by themselves only
narrows. Every token that it finds in a state is of a kind that the state has an entry for, or is
ignored, or is always accepted. Where the lexer of the state is stuck it fails at the same position:
with the token that the root lexer finds right there, if it finds anything, and otherwise because of
the text. -/
theorem next_narrows {table : Table State}
    (made : make number settings (table.rows.map fun entry => (entry.1, entry.2.map (·.1)))
      alwaysAccepted = .ok (lexer, count))
    (distinct : (settings.terminals.map Terminal.name).Nodup) (silent : settings.callbacks = [])
    {place : Standing} {row : Row State} (here : table.row? place.state = some row) :
    ∃ own, assoc? lexer.lexers place.state = some own ∧
      ∀ {ownVocabulary rootVocabulary : Vocabulary},
        own.vocabulary.get.1 = .ok ownVocabulary → ownVocabulary.Plain settings.flags →
        lexer.root.vocabulary.get.1 = .ok rootVocabulary → rootVocabulary.Plain settings.flags →
        (∀ {cursor next : Cursor} {token : Token} {before after : Workspace},
          (lexer.next (some place) cursor).Gives before (.ok (some token), next) after →
            (assoc? row token.kind).isSome ∨ token.kind ∈ settings.ignored ∨
              token.kind ∈ alwaysAccepted) ∧
        (∀ {cursor : Cursor}, cursor.counter.position < cursor.text.size →
          ownVocabulary.scanner.matchAt cursor.text cursor.counter.position = none →
            ∀ before, ∃ stuck between, (own.next (some place) cursor).Gives before
              (.error (.stuckText stuck), cursor) between) ∧
        ∀ {cursor met : Cursor} {stuck : StuckText} {before between : Workspace},
          (own.next (some place) cursor).Gives before (.error (.stuckText stuck), met) between →
            stuck.position = met.counter.position ∧
            ownVocabulary.scanner.matchAt met.text met.counter.position = none ∧
            (rootVocabulary.scanner.matchAt met.text met.counter.position = none →
              ∃ after, (lexer.next (some place) cursor).Gives before
                (.error (.stuckText stuck), met) after) ∧
            ∀ {stop : Nat} {name : String},
              rootVocabulary.scanner.matchAt met.text met.counter.position = some (stop, name) →
                name ∉ settings.ignored ∧ ∃ token next after,
                  (lexer.root.next (some place) met).Gives between
                    (.ok (some token), next) after ∧
                  token.place.startPos = some met.counter.position ∧
                  token.place.endPos = some next.counter.position ∧ next.last = some token ∧
                  (lexer.next (some place) cursor).Gives before
                    (.error (.stuckToken {
                      offender := .token token
                      expected := stuck.allowed
                      history := met.last.map fun token => [token]
                      standing := some place }), next) after := by
  have listed : assoc? (table.rows.map fun entry => (entry.1, entry.2.map (·.1))) place.state =
      some (row.map (·.1)) := by
    rw [assoc?_map, show assoc? table.rows place.state = some row from here]
    rfl
  rcases exists_own made listed with ⟨own, known, number', ownMade⟩
  rcases make_eq_ok made with ⟨rooted, _⟩
  have ownSilent : own.callbacks = [] := (Lexer.callbacks_of_make ownMade).trans silent
  have rootSilent : lexer.root.callbacks = [] := (Lexer.callbacks_of_make rooted).trans silent
  have rootIgnored : lexer.root.ignored = settings.ignored := Lexer.ignored_of_make rooted
  refine ⟨own, known, ?_⟩
  intro ownVocabulary rootVocabulary prepared plain rootPrepared rootPlain
  refine ⟨?_, ?_, ?_⟩
  · intro cursor next token before after went
    rcases next_eq_ok went with ⟨_, _, ⟨rfl⟩, known', went⟩
    rcases Option.some.inj (known.symm.trans known') with rfl
    rcases Lexer.next_eq_find ownSilent prepared (some place) before cursor with ⟨_, found, _⟩
    have kind := mem_names_of_find distinct ownMade prepared plain (found.unique went).1
    rw [List.append_assoc, List.mem_append, List.mem_append] at kind
    rcases kind with entry | rest
    · left
      rcases List.mem_map.mp entry with ⟨entry, member, same⟩
      rw [← same]
      exact isSome_assoc? member
    · exact .inr rest
  · intro cursor going nothing before
    rcases Lexer.next_eq_find ownSilent prepared (some place) before cursor with
      ⟨between, found, _⟩
    rw [Lexer.find_of_none going nothing] at found
    exact ⟨_, between, found⟩
  · intro cursor met stuck before between went
    rcases Lexer.next_eq_find ownSilent prepared (some place) before cursor with ⟨_, found, _⟩
    rcases Lexer.findWithin_stuck _ (found.unique went).1 with ⟨going, nothing, _, _, same⟩
    rcases Lexer.next_eq_find rootSilent rootPrepared (some place) between met with
      ⟨after, asked, _⟩
    have stands : stuck.position = met.counter.position ∧ stuck.standing = some place := by
      cases same
      exact ⟨rfl, rfl⟩
    refine ⟨stands.1, nothing, ?_, ?_⟩
    · intro unmatched
      rw [Lexer.find_of_none going unmatched] at asked
      exact ⟨after, next_of_stuck known went asked⟩
    · intro stop name matched
      have kept : name ∉ settings.ignored := by
        intro ignored
        refine notMem_of_matchAt distinct rooted rootPrepared rootPlain ownMade prepared plain
          nothing matched ?_
        simp [ignored]
      rw [Lexer.find_of_some going matched (by rwa [rootIgnored])] at asked
      refine ⟨kept, _, _, after, asked, rfl, rfl, rfl, ?_⟩
      have blamed := next_of_stuck known went asked
      rw [blame, stands.2] at blamed
      exact blamed

/-! ## Marks and blanks -/

/-- Any mark, the plus, which is one of them, and a blank. -/
def marks : List Terminal :=
  [{ name := "MARK", pattern := { kind := .expression, value := "[!-/]" } },
    { name := "PLUS", pattern := { kind := .literal, value := "+" } },
    { name := "WS", pattern := { kind := .literal, value := " " } }]

def markSettings : LexerSettings where
  terminals := marks
  ignored := ["WS"]

/-- A table whose only state goes on with a plus. -/
def markTable : Table State where
  rows := [(.number 0, [("PLUS", .shift (.number 1))])]
  starts := []
  ends := []

/-- What is tried where everything is. -/
def markVocabulary : Vocabulary where
  scanner := {
    terminals := [marks[0], marks[2]]
    whole := false
    alternations :=
      [⟨.choice (.group 1 (.class false [.range '!' '/'])) (.group 2 (.char ' ')), {},
        [("MARK", 1), ("WS", 2)]⟩] }
  absorbed := [("MARK", {
    terminals := [marks[1]]
    whole := true
    alternations := [⟨.group 1 (.char '+'), {}, [("PLUS", 1)]⟩] })]

/-- What is tried where only a plus is expected. -/
def plusVocabulary : Vocabulary where
  scanner := {
    terminals := [marks[1], marks[2]]
    whole := false
    alternations :=
      [⟨.choice (.group 1 (.char '+')) (.group 2 (.char ' ')), {},
        [("PLUS", 1), ("WS", 2)]⟩] }
  absorbed := []

def markLexer : ContextualLexer where
  lexers :=
    [(.number 0, Lexer.ofOrdered 1 (settingsFor markSettings ["PLUS", "WS"]) (marks.drop 1))]
  root := Lexer.ofOrdered 0 markSettings marks

theorem make_markLexer : make 0 markSettings
    (markTable.rows.map fun entry => (entry.1, entry.2.map (·.1))) [] = .ok (markLexer, 1) := by
  have checked : Lexer.check markSettings = .ok () := eq_ok_of_toOption (by decide +kernel)
  have ordered : Lexer.inOrder marks = .ok marks := Lexer.inOrder_of_isOrdered (by decide +kernel)
  have fewer : Lexer.inOrder (marks.drop 1) = .ok (marks.drop 1) :=
    Lexer.inOrder_of_isOrdered (by decide +kernel)
  have root : Lexer.make 0 markSettings = .ok markLexer.root :=
    Lexer.make_eq_ok.mpr ⟨checked, marks, ordered, rfl⟩
  have own : Lexer.make 1 (settingsFor markSettings ["PLUS", "WS"]) =
      .ok (Lexer.ofOrdered 1 (settingsFor markSettings ["PLUS", "WS"]) (marks.drop 1)) :=
    Lexer.make_eq_ok.mpr ⟨rfl, marks.drop 1, fewer, rfl⟩
  simp only [make, root, markTable, List.map_cons, List.map_nil, makeLexers, assoc?]
  rw [show ["PLUS"] ++ markSettings.ignored ++ [] = ["PLUS", "WS"] from rfl]
  simp only [List.length_nil, own]
  rfl

theorem next_narrows_mark : ∃ token next after expected,
    (markLexer.next (some ⟨1, .number 0⟩) (.ofText "*")).Gives {}
      (.error (.stuckToken {
        offender := .token token
        expected
        standing := some ⟨1, .number 0⟩ }), next) after ∧
      token.place.startPos = some 0 ∧ next.last = some token := by
  have distinct : (markSettings.terminals.map Terminal.name).Nodup := by decide
  have prepared : markLexer.root.vocabulary.get.1 = .ok markVocabulary :=
    eq_ok_of_toOption (by decide +kernel)
  have ownPrepared (own : Lexer) (known : assoc? markLexer.lexers (.number 0) = some own) :
      own.vocabulary.get.1 = .ok plusVocabulary := by
    cases known
    exact eq_ok_of_toOption (by decide +kernel)
  have here : markTable.row? (Standing.state ⟨1, .number 0⟩) =
    some [("PLUS", .shift (.number 1))] := rfl
  rcases next_narrows make_markLexer distinct rfl here with ⟨own, known, narrows⟩
  rcases narrows (ownPrepared own known)
      (Vocabulary.plain_of_isPlain (by decide +kernel)) prepared
      (Vocabulary.plain_of_isPlain (by decide +kernel)) with
    ⟨_, sticks, blames⟩
  have nothing : plusVocabulary.scanner.matchAt (Cursor.ofText "*").text 0 = none := by
    decide +kernel
  have matched : markVocabulary.scanner.matchAt (Cursor.ofText "*").text 0 = some (1, "MARK") := by
    decide +kernel
  rcases sticks (by decide) nothing {} with ⟨stuck, between, went⟩
  rcases (blames went).2.2.2 matched with ⟨_, token, next, after, _, first, _, last, blamed⟩
  exact ⟨token, next, after, stuck.allowed, blamed, first, last⟩

end ContextualLexer

end Lalr
