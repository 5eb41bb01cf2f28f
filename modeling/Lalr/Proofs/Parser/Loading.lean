import Lalr.Proofs.Artifact.Lexers
import Lalr.Proofs.Parser.Driving
import Lalr.Proofs.Parser.Storing

/-!
# Parsers that have been loaded

A parser that is loaded from what another has been stored as has the parts of the other.
With the options that data cannot say set as they were, it does the same about every
text: it gives the same value, or it fails in the same way at the same place.
-/

namespace Lalr

namespace Work.Agree

theorem forIn {β : Type} {items : List β} {step step' : β → PUnit → Work (ForInStep PUnit)}
    (agree : ∀ item, Work.Agree (step item ⟨⟩) (step' item ⟨⟩)) :
    Work.Agree (forIn items PUnit.unit step) (forIn items PUnit.unit step') := by
  induction items with
  | nil => exact Agrees.pure _
  | cons item items ih =>
      rw [List.forIn_cons, List.forIn_cons]
      refine Agrees.bind (agree item) fun next => ?_
      cases next with
      | done => exact Agrees.pure _
      | yield => exact ih

end Work.Agree

namespace Parser

/-! ## Parsers that do the same about texts -/

/-- Whether two parsers resemble one another, have the same options and take the same tokens from
texts. -/
structure Twins (parser parser' : Parser) : Prop extends Resembles parser parser' where
  options : parser'.options = parser.options
  pull : ∀ standing stream cursor, Work.Agree (parser.source.pull standing stream cursor)
    (parser'.source.pull standing stream cursor)

theorem agree_dump (session : Session) : Work.Agree (dump session) (dump session) := by
  unfold dump
  refine Agrees.bind (Work.Agree.look _) fun values => ?_
  refine Agrees.bind (Work.Agree.record ..) fun _ => ?_
  refine Agrees.bind (Work.Agree.record ..) fun _ => ?_
  refine Agrees.bind (Work.Agree.forIn fun _ => ?_) fun _ => ?_
  · exact Agrees.bind (Work.Agree.record ..) fun _ => Agrees.pure _
  refine Agrees.bind (Work.Agree.record ..) fun _ => ?_
  refine Agrees.bind (Work.Agree.record ..) fun _ => ?_
  refine Agrees.bind (Work.Agree.forIn fun _ => ?_) fun _ => ?_
  · exact Agrees.bind (Work.Agree.record ..) fun _ => Agrees.pure _
  exact Agrees.pure _

namespace Twins

variable {parser parser' : Parser}

theorem pull_agree (twins : parser.Twins parser') (stream : TokenStream) (session : Session) :
    Work.Agree (parser.pull stream session) (parser'.pull stream session) := by
  unfold Parser.pull
  split
  next => exact Agrees.pure _
  next => exact Agrees.bind (twins.pull _ _ _) fun _ => Agrees.pure _

theorem interrupt (twins : parser.Twins parser') (failure : Failure) (last : Option Token)
    (session : Session) :
    Work.Agree (parser.interrupt failure last session)
      (parser'.interrupt failure last session) := by
  unfold Parser.interrupt
  rw [twins.options]
  split
  · exact Agrees.bind (agree_dump session) fun _ => Agrees.pure _
  · exact Agrees.pure _

/-- Parsers that take the same tokens and do the same about each of them come to the same. Induction
on the number of tokens that are fed. -/
theorem runWithin (twins : parser.Twins parser') (fuel : Nat) :
    ∀ (stream : TokenStream) (last : Option Token) (session : Session),
      Work.Agree (parser.runWithin fuel stream last session)
        (parser'.runWithin fuel stream last session) := by
  induction fuel with
  | zero => exact fun _ _ _ => twins.interrupt _ _ _
  | succ fuel ih =>
      intro stream last session
      unfold Parser.runWithin
      apply Agrees.bind (twins.pull_agree _ _)
      rintro ⟨answer, stream, session⟩
      rcases answer with failure | _ | token
      · exact twins.interrupt _ _ _
      · apply Agrees.bind (twins.toResembles.feedAs _ _ _)
        rintro ⟨answer, session⟩
        cases answer with
        | error failure => exact twins.interrupt _ _ _
        | ok value => exact Agrees.pure _
      · apply Agrees.bind (twins.toResembles.feedAs _ _ _)
        rintro ⟨answer, session⟩
        cases answer with
        | error failure => exact twins.interrupt _ _ _
        | ok value => exact ih _ _ _

theorem start (twins : parser.Twins parser') (text symbol : Option String) :
    parser'.start text symbol = parser.start text symbol := by
  unfold Parser.start chooseStart
  rw [twins.options, twins.table.starts, twins.table.ends]

theorem parse (twins : parser.Twins parser') (text : String) (symbol : Option String) :
    Run.Agree (parser.parse text symbol) (parser'.parse text symbol) := by
  unfold Parser.parse
  rw [twins.start]
  refine Run.Agree.bind (Run.Agree.lift _) fun session => ?_
  refine Run.Agree.bind (Run.Agree.work (twins.runWithin _ _ _ _)) fun _ => Run.Agree.lift _

end Twins

/-! ## Making parsers of terminals that come back -/

section

variable {terminals : List Terminal} {rules : List Rule} {table table' : Table State}
  {ignored : List Data} {options : Options} {callbacks : List (String × TokenHandler)}
  {flags : RegexFlags} {parser : Parser} {number count : Nat} {alike : Rule → Rule → Prop}

/-- A parser consists of what it has been assembled from. -/
theorem assemble_parts
    (assembled : assemble terminals rules table ignored options number = .ok (parser, count)) :
    parser.options = options ∧ parser.terminals = terminals ∧ parser.rules = rules ∧
      parser.ignored = ignored.filterMap Data.asText? ∧ parser.table = table := by
  simp only [assemble, bind_eq_ok] at assembled
  rcases assembled with ⟨_, _, _, _, _, _, _, _, _, _, _, _, _, _, _, _, assembled⟩
  cases assembled
  exact ⟨rfl, rfl, rfl, rfl, rfl⟩

theorem settings_stored (none : (settings terminals ignored callbacks flags).strays = []) :
    settings (terminals.map Terminal.stored) ((ignored.filterMap Data.asText?).map Data.text)
      callbacks flags = (settings terminals ignored callbacks flags).stored := by
  have names (names : List String) : (names.map Data.text).filterMap Data.asText? = names := by
    rw [List.filterMap_map]
    exact List.filterMap_some
  have strays (names : List String) :
      (names.map Data.text).filter (fun name => name.asText?.isNone) = [] := by
    rw [List.filter_eq_nil_iff]
    simp [Data.asText?]
  simp only [settings, LexerSettings.stored, names, strays] at none ⊢
  rw [none]

theorem states_alike (tables : table.Alike alike table') :
    (table'.rows.map fun row : State × Row State => (row.1, row.2.map (·.1))) =
      table.rows.map fun row : State × Row State => (row.1, row.2.map (·.1)) := by
  have rows := tables.rows
  generalize table.rows = first at rows
  generalize table'.rows = second at rows
  induction rows with
  | nil => rfl
  | cons head _ ih =>
      have symbols := keys_alike head.2
      rw [List.map_cons, List.map_cons, ih, head.1, symbols]

theorem makeSource_stored {settings : LexerSettings} {source : TokenSource}
    (sourced : makeSource options settings table number = .ok (source, count))
    (tables : table.Alike alike table') (number' : Nat) :
    ∃ source', makeSource options settings.stored table' number' = .ok (source', count) ∧
      source.reader.Resembles source'.reader ∧ source.postLexer = source'.postLexer := by
  unfold makeSource at sourced ⊢
  split at sourced
  next contextual =>
    rcases bind_eq_ok.mp sourced with ⟨postLexer, chosen, sourced⟩
    rcases bind_eq_ok.mp sourced with ⟨⟨lexer, others⟩, made, sourced⟩
    cases sourced
    rcases ContextualLexer.make_stored made number' with ⟨lexer', made', resembles⟩
    refine ⟨{ reader := .contextual lexer', postLexer }, ?_, .contextual resembles, rfl⟩
    rw [if_pos contextual]
    refine (bind_of_ok chosen _).trans ?_
    rw [states_alike tables]
    exact bind_of_ok made' _
  next basic =>
    rcases bind_eq_ok.mp sourced with ⟨lexer, made, sourced⟩
    rcases bind_eq_ok.mp sourced with ⟨postLexer, chosen, sourced⟩
    cases sourced
    rcases Lexer.make_stored made number' with ⟨lexer', made', resembles⟩
    refine ⟨{ reader := .basic lexer', postLexer }, ?_, .basic resembles, rfl⟩
    rw [if_neg basic]
    exact (bind_of_ok made' _).trans (bind_of_ok chosen _)

theorem checkStart_alike (tables : table.Alike alike table') :
    checkStart table' = checkStart table := by
  unfold checkStart
  rw [tables.starts, tables.ends]

/-- Where a parser has been assembled, another can be assembled from its stored parts, which
resembles it in all that it does. -/
theorem assemble_stored
    (assembled : assemble terminals rules table ignored options number = .ok (parser, count))
    (tables : table.Alike alike table') (number' : Nat) :
    ∃ parser' count', assemble (terminals.map Terminal.stored) rules table'
        ((ignored.filterMap Data.asText?).map Data.text) options number' = .ok (parser', count') ∧
      parser'.reductions = parser.reductions ∧
      parser.source.reader.Resembles parser'.source.reader ∧
      parser.source.postLexer = parser'.source.postLexer := by
  simp only [assemble, bind_eq_ok] at assembled
  rcases assembled with
    ⟨_, starts, transformer, transformed, reductions, reduced, callbacks, called, flags, flagged,
      ⟨source, others⟩, sourced, whole, wholeMade, keeping, keepingMade, assembled⟩
  cases assembled
  have none := Lexer.strays_of_check (Lexer.check_of_make wholeMade) rfl
  rcases makeSource_stored sourced tables number' with ⟨source', sourced', readers, postLexers⟩
  rcases Lexer.make_stored wholeMade (number' + others) with ⟨whole', wholeMade', _⟩
  rcases Lexer.make_stored keepingMade (number' + others + 1) with ⟨keeping', keepingMade', _⟩
  have flagsSame : flagsFor (terminals.map Terminal.stored) options = .ok flags := by
    rw [flagsFor, List.isEmpty_map]
    exact flagged
  have names : (terminals.map Terminal.stored).map Terminal.name = terminals.map Terminal.name :=
    Vocabulary.map_name_stored terminals
  rw [← settings_stored none] at sourced' wholeMade'
  have assembled' : ∃ parser' count', assemble (terminals.map Terminal.stored) rules table'
      ((ignored.filterMap Data.asText?).map Data.text) options number' = .ok (parser', count') ∧
      parser'.reductions = reductions ∧ parser'.source = source' := by
    simp only [assemble, bind_eq_ok]
    refine ⟨_, _, ⟨_, (checkStart_alike tables).symm ▸ starts, transformer,
      transformed, reductions, names.symm ▸ reduced, callbacks, called, flags, flagsSame,
      (source', others), sourced', whole', wholeMade', keeping', ?_, rfl⟩, rfl, rfl⟩
    rw [settings_stored none]
    exact keepingMade'
  rcases assembled' with ⟨parser', count', went, reductions, rfl⟩
  exact ⟨parser', count', went, reductions, readers, postLexers⟩

/-- Where a parser has been assembled, another can be without the options that data cannot say. -/
theorem assemble_reset
    (assembled : assemble terminals rules table ignored options number = .ok (parser, count))
    (number' : Nat) :
    ∃ parser' count', assemble terminals rules table ignored (options.reset []) number' =
      .ok (parser', count') := by
  simp only [assemble, bind_eq_ok] at assembled
  rcases assembled with
    ⟨_, starts, transformer, transformed, reductions, reduced, callbacks, called, flags, flagged,
      _, _, whole, wholeMade, keeping, keepingMade, assembled⟩
  rcases Reductions.exists_make (growth (options.reset []) none) reduced rfl rfl rfl with
    ⟨reductions', reduced'⟩
  have sourced : ∃ found, makeSource (options.reset [])
      (settings terminals ignored [] flags) table
      number' = .ok found := by
    rcases Lexer.exists_make_callbacks wholeMade [] number' with ⟨root, rooted⟩
    unfold makeSource
    split
    next =>
      have checked := Lexer.check_of_make wholeMade
      have measurable : ∀ terminal ∈ terminals, terminal.Measurable :=
        Lexer.measurable_of_check checked rfl
      have exists_found : ∃ found, ContextualLexer.makeLexers
          (settings terminals ignored [] flags) [] number' []
          (table.rows.map fun row => (row.1, row.2.map (·.1))) = .ok found :=
        ContextualLexer.exists_makeLexers measurable [] number' []
      rcases exists_found with ⟨found, went⟩
      have made : ContextualLexer.make number' (settings terminals ignored [] flags)
          (table.rows.map fun row => (row.1, row.2.map (·.1))) [] =
            .ok ({ lexers := found.1, root }, found.2) :=
        (bind_of_ok rooted _).trans (bind_of_ok went _)
      exact ⟨_, bind_eq_ok.mpr ⟨none, rfl, bind_eq_ok.mpr ⟨_, made, rfl⟩⟩⟩
    next => exact ⟨_, bind_eq_ok.mpr ⟨root, rooted, rfl⟩⟩
  rcases sourced with ⟨⟨source, others⟩, sourced⟩
  rcases Lexer.exists_make_callbacks wholeMade [] (number' + others) with ⟨whole', wholeMade'⟩
  rcases Lexer.exists_make_callbacks keepingMade [] (number' + others + 1) with
    ⟨keeping', keepingMade'⟩
  simp only [assemble, bind_eq_ok]
  exact ⟨_, _, _, starts, none, rfl, reductions', reduced', [], rfl, flags, flagged,
    (source, others), sourced, whole', wholeMade', keeping', keepingMade', rfl⟩

end

/-! ## What parsers are stored as -/

section

variable {parser : Parser} {starts : List Data}

theorem texts_of_checkStart {table : Table State}
    (checked : starts.forM (checkStart table) = .ok ()) :
    ∀ start ∈ starts, ∃ name, start = .text name := by
  intro start member
  have fine := forM_eq_ok checked start member
  cases start with
  | text name => exact ⟨name, rfl⟩
  | null => cases fine
  | bool value => cases fine
  | int value => cases fine
  | decimal mantissa exponent => cases fine
  | list items => cases fine
  | record fields => cases fine

open Data (Proper)

theorem proper_texts (texts : List String) : (Data.list (texts.map Data.text)).Proper :=
  proper_list Proper.text texts

theorem proper_flags {options : Options} (plain : options.Plain) : options.flags.Proper := by
  rcases plain.flags with ⟨bits, given⟩ | ⟨value, given⟩
  · exact given ▸ .int bits
  · exact given ▸ .bool value

theorem proper_starts (texts : ∀ start ∈ starts, ∃ name, start = .text name) :
    (Data.list starts).Proper := by
  refine .list fun start member => ?_
  rcases texts start member with ⟨name, rfl⟩
  exact .text name

theorem proper_options {options : Options} (plain : options.Plain)
    (texts : ∀ start ∈ options.starts, ∃ name, start = .text name) :
    options.toData.Proper := by
  refine .record (by simp) ?_
  simp only [List.forall_mem_cons]
  exact ⟨proper_starts texts, .text _, .text _, plain.debug, plain.placeholders, .bool _,
    proper_flags plain, fun _ none => by cases none⟩

theorem proper_references {α : Type} {register : Register}
    {toEntry : α → Entry} {items : List α} {references : List Data}
    (refers : List.Forall₂ (fun item reference =>
      register.RefersTo reference (toEntry item)) items
      references) : (Data.list references).Proper := by
  refine .list fun reference member => ?_
  rcases exists_of_mem_right refers member with ⟨_, _, index, rfl, _⟩
  refine .record (by simp) ?_
  simp only [List.forall_mem_singleton]
  exact .int index

theorem proper_partsData {terminals rules again : List Data} {table : Data}
    (plain : parser.options.Plain)
    (texts : ∀ start ∈ parser.options.starts, ∃ name, start = .text name)
    (terminalsProper : (Data.list terminals).Proper) (rulesProper : (Data.list rules).Proper)
    (againProper : (Data.list again).Proper) (tableProper : table.Proper) :
    (parser.partsData terminals rules again table).Proper := by
  have lexer : (parser.lexerData terminals).Proper := by
    refine .record (by simp [typeField]) ?_
    simp only [List.forall_mem_cons]
    exact ⟨terminalsProper, proper_texts _, proper_flags plain, .text _, .text _,
      fun _ none => by cases none⟩
  have machine : (parser.machineData rules).Proper := by
    refine .record (by simp [typeField]) ?_
    simp only [List.forall_mem_cons]
    exact ⟨rulesProper, proper_starts texts, .text _, .text _, fun _ none => by cases none⟩
  refine .record (by simp) ?_
  simp only [List.forall_mem_cons]
  refine ⟨.record (by simp) ?_, againProper, proper_options plain texts, .text _,
    fun _ none => by cases none⟩
  simp only [List.forall_mem_cons]
  exact ⟨lexer, machine, tableProper, .text _, fun _ none => by cases none⟩

/-- Whether a rule of a table is the same as before, and just the one it was if the parser has
it. -/
def Restores (rules : List Rule) (rule rule' : Rule) : Prop :=
  rule.same rule' = true ∧ (rule ∈ rules → rule' = rule)

theorem exists_toData {terminal : Terminal} (measurable : terminal.Measurable) :
    ∃ data, terminal.toData = .ok data := by
  rcases measurable with ⟨width, measured⟩
  have pattern : ∃ data, terminal.pattern.toData = .ok data := by
    unfold Pattern.toData
    cases terminal.pattern.kind with
    | literal => exact ⟨_, rfl⟩
    | expression => exact ⟨_, bind_of_ok measured _⟩
  rcases pattern with ⟨data, stored⟩
  exact ⟨_, bind_of_ok stored _⟩

/-- A parser is stored as data from which a parser with its parts is made. -/
theorem exists_load (storable : parser.Storable) (plain : parser.options.Plain)
    (starting : parser.options.starts ≠ [])
    (texts : ∀ start ∈ parser.options.starts, ∃ name, start = .text name) :
    ∃ data table', parser.toData = .ok data ∧ data.Proper ∧
      parser.table.Alike (Restores parser.rules) table' ∧
      ∀ changes : List (String × Setting), (changes.map (·.1)).Nodup →
        (∀ change ∈ changes, change.1 ∈ Options.special) →
        load data changes = (do
          Run.lift (parser.options.starts.forM (checkStart table'))
          make (parser.terminals.map Terminal.stored) parser.rules table'
            (parser.ignored.map Data.text) (parser.options.reset changes)) := by
  rcases partsToData_gives storable with
    ⟨terminals, rules, again, table, register, gives, distinct, entered, refers, refersRules,
      refersAgain, stores⟩
  have entries : ∀ entry ∈ register, ∃ data, entry.toData = .ok data := by
    intro entry member
    cases entry with
    | terminal terminal => exact exists_toData (storable.widths terminal (entered terminal member))
    | rule rule => exact ⟨_, rfl⟩
  rcases Register.exists_toData entries with ⟨memo, stored, memoProper⟩
  rcases Table.read_of_stores storable.numeric storable.keyed stores with ⟨table', read, tables⟩
  refine ⟨.record [("data", parser.partsData terminals rules again table), ("memo", memo)],
    table', ?_, ?_, ?_, ?_⟩
  · have ran : (parser.partsToData.run [] : Data × Register) =
        (parser.partsData terminals rules again table, register) := gives
    unfold toData
    rw [ran]
    exact bind_of_ok stored _
  · have tableProper := Table.proper_of_stores storable.numeric storable.keyed stores
    refine .record (by simp) ?_
    simp only [List.forall_mem_cons]
    exact ⟨proper_partsData plain texts (proper_references refers) (proper_references refersRules)
      (proper_references refersAgain) tableProper, memoProper, fun _ none => by cases none⟩
  · refine tables.imp fun {rule rule'} stands => ⟨stands.1, fun member => ?_⟩
    rcases exists_of_mem_left refersAgain member with ⟨_, _, refersTo⟩
    have same : (Entry.rule rule).same (.rule rule') = true := stands.1
    cases distinct _ refersTo.mem _ stands.2 same
    rfl
  · exact fun changes nodup named =>
      load_partsData storable plain starting stored refers refersAgain read nodup named

end

/-! ## Storing and loading -/

end Parser

/-- Whether two terminals are the same, apart from what is remembered of their width, which is the
same as well. -/
structure Terminal.SameAs (terminal terminal' : Terminal) : Prop where
  name : terminal'.name = terminal.name
  priority : terminal'.priority = terminal.priority
  kind : terminal'.pattern.kind = terminal.pattern.kind
  value : terminal'.pattern.value = terminal.pattern.value
  flags : terminal'.pattern.flags = terminal.pattern.flags
  raw : terminal'.pattern.raw = terminal.pattern.raw
  width : terminal'.pattern.width = terminal.pattern.width

theorem Terminal.sameAs_stored (terminal : Terminal) : terminal.SameAs terminal.stored :=
  ⟨rfl, rfl, rfl, rfl, rfl, rfl, Pattern.width_stored _⟩

namespace Parser

/-- Whether two parsers have the same terminals, rules, table and ignored kinds, and the same
options among those that data can say. -/
structure SameParts (parser parser' : Parser) : Prop where
  terminals : List.Forall₂ Terminal.SameAs parser.terminals parser'.terminals
  rules : parser'.rules = parser.rules
  ignored : parser'.ignored = parser.ignored
  table : parser.table.Alike (Restores parser.rules) parser'.table
  starts : parser'.options.starts = parser.options.starts
  contextual : parser'.options.contextual = parser.options.contextual
  debug : parser'.options.debug = parser.options.debug
  placeholders : parser'.options.placeholders = parser.options.placeholders
  propagation : parser'.options.propagation = parser.options.propagation
  flags : parser'.options.flags = parser.options.flags

section

variable {settings : List (String × Setting)} {terminals : List Terminal} {rules : List Rule}
  {table table' : Table State} {ignored : List Data} {options : Options} {parser loaded : Parser}
  {number count : Nat} {first second third : Workspace}

theorem sameParts_of_assemble {changes : List (String × Setting)}
    (tables : parser.table.Alike (Restores parser.rules) table')
    (assembled : assemble (parser.terminals.map Terminal.stored) parser.rules table'
      (parser.ignored.map Data.text) (parser.options.reset changes) number = .ok (loaded, count)) :
    parser.SameParts loaded := by
  rcases assemble_parts assembled with ⟨options, terminals, rules, ignored, rfl⟩
  have names : (parser.ignored.map Data.text).filterMap Data.asText? = parser.ignored := by
    rw [List.filterMap_map]
    exact List.filterMap_some
  rw [names] at ignored
  refine ⟨?_, rules, ignored, tables, ?_, ?_, ?_, ?_, ?_, ?_⟩
  · rw [terminals, List.forall₂_map_right_iff, List.forall₂_same]
    exact fun terminal _ => terminal.sameAs_stored
  all_goals
    rw [options]
    rfl

/-- A parser that has been assembled can be stored if its table can. -/
theorem storable_of_assemble
    (assembled : assemble terminals rules table ignored options number = .ok (parser, count))
    (names : (terminals.map Terminal.name).Nodup) (numeric : table.Numeric) (keyed : table.Keyed) :
    parser.Storable := by
  simp only [assemble, bind_eq_ok] at assembled
  rcases assembled with ⟨_, _, _, _, _, reduced, _, _, _, _, _, _, _, whole, _, _, assembled⟩
  cases assembled
  exact ⟨names, Lexer.measurable_of_check (Lexer.check_of_make whole) rfl,
    Reductions.eq_of_same reduced, numeric, keyed⟩

/-- The lexers of a parser are discreet if the callbacks are. -/
theorem discreet_reader
    (assembled : assemble terminals rules table ignored options number = .ok (parser, count))
    (discreet : ∀ callbacks, options.callbacks = .ok callbacks → ∀ kind callback,
      assoc? callbacks kind = some callback → TokenHandler.Discreet callback) :
    parser.source.reader.Discreet := by
  simp only [assemble, bind_eq_ok] at assembled
  rcases assembled with
    ⟨_, _, _, _, _, _, callbacks, called, flags, _, ⟨source, _⟩, sourced, _, _,
      _, _, assembled⟩
  cases assembled
  have given : options.callbacks = .ok callbacks := by
    cases same : options.callbacks with
    | error fault =>
        rw [same] at called
        cases called
    | ok callbacks' =>
        rw [same] at called
        cases called
        rfl
  have each {lexer : Lexer} (same : lexer.callbacks = callbacks) : lexer.Discreet := by
    unfold Lexer.Discreet
    rw [same]
    exact discreet callbacks given
  unfold makeSource at sourced
  split at sourced
  next =>
    rcases bind_eq_ok.mp sourced with ⟨_, _, sourced⟩
    rcases bind_eq_ok.mp sourced with ⟨⟨lexer, _⟩, made, sourced⟩
    cases sourced
    rcases bind_eq_ok.mp made with ⟨root, rooted, made⟩
    rcases bind_eq_ok.mp made with ⟨⟨lexers, _⟩, made, done⟩
    cases done
    refine ⟨fun entry member => ?_, each (Lexer.callbacks_of_make rooted)⟩
    have isFor := ContextualLexer.isFor_of_makeLexers (by simp) made
    rcases exists_of_mem_right isFor member with ⟨_, _, _, _, new⟩
    exact each (Lexer.callbacks_of_make new)
  next =>
    rcases bind_eq_ok.mp sourced with ⟨lexer, made, sourced⟩
    rcases bind_eq_ok.mp sourced with ⟨_, _, sourced⟩
    cases sourced
    exact each (Lexer.callbacks_of_make made)

/-- A parser is stored as data that a text in JSON can say, and a parser can be loaded from what
the text is read as. The parser that is loaded has the same parts. With the options that data
cannot say set as they were, it does the same about every text, as long as the handlers that it
calls keep to the forest and to notes. -/
theorem load_toData (given : (Options.ofSettings settings false).Yields first options second)
    (made : (make terminals rules table ignored options).Yields second parser third)
    (settingNames : (settings.map (·.1)).Nodup) (names : (terminals.map Terminal.name).Nodup)
    (numeric : table.Numeric) (keyed : table.Keyed) (plain : options.Plain) :
    ∃ data, parser.toData = .ok data ∧ ∃ read, Data.ofJson?
      (Data.json .spaced data) = some read ∧
      (∀ before, ∃ loaded after, (load read []).Yields before loaded after ∧
        parser.SameParts loaded) ∧
      ∀ before, ∃ loaded after,
        (load read (Options.specialOf settings)).Yields before loaded after ∧
        parser.SameParts loaded ∧ loaded.options = parser.options ∧
        ((∀ transformer, options.transformer = .ok (some transformer) →
          transformer.Discreet) →
          (∀ callbacks, options.callbacks = .ok callbacks → ∀ kind callback,
            assoc? callbacks kind = some callback → TokenHandler.Discreet callback) →
          ∀ text symbol, Run.Agree (parser.parse text symbol) (loaded.parse text symbol)) := by
  rcases Options.ofKnown_eq_ok (Options.ofSettings_yields given) with ⟨starting, reset⟩
  rcases assemble_of_make made with ⟨count, assembled, _⟩
  have storable := storable_of_assemble assembled names numeric keyed
  have discreetReader := discreet_reader assembled
  have discreetReductions := discreet_of_make made
  rcases assemble_parts assembled with ⟨rfl, rfl, rfl, ignoredSame, rfl⟩
  have started : parser.options.starts.forM (checkStart parser.table) = .ok () := by
    simp only [assemble, bind_eq_ok] at assembled
    rcases assembled with ⟨_, started, _⟩
    exact started
  rcases exists_load storable plain starting (texts_of_checkStart started) with
    ⟨data, table', stored, proper, tables, loads⟩
  have started' : parser.options.starts.forM (checkStart table') = .ok () :=
    (checkStart_alike tables).symm ▸ started
  have yields (changes : List (String × Setting)) {before : Workspace} {loaded : Parser}
      {number : Nat} (distinct : (changes.map (·.1)).Nodup)
      (named : ∀ change ∈ changes, change.1 ∈ Options.special)
      (assembled : assemble (parser.terminals.map Terminal.stored) parser.rules table'
        (parser.ignored.map Data.text) (parser.options.reset changes) before.lexerCount =
          .ok (loaded, number)) :
      ∃ after, (load data changes).Yields before loaded after := by
    rw [loads changes distinct named]
    rcases make_of_assemble assembled with ⟨after, made⟩
    exact ⟨after, Run.yields_bind.mpr ⟨_, _, Run.yields_lift.mpr ⟨started', rfl⟩, made⟩⟩
  refine ⟨data, stored, data, Data.ofJson?_json Data.Spacing.separates_spaced proper, ?_, ?_⟩
  · intro before
    rcases assemble_reset assembled 0 with ⟨_, _, plainly⟩
    rcases assemble_stored plainly tables before.lexerCount with ⟨loaded, _, went, _⟩
    rw [← ignoredSame] at went
    rcases yields [] List.nodup_nil (by simp) went with ⟨after, loads⟩
    exact ⟨loaded, after, loads, sameParts_of_assemble tables went⟩
  · intro before
    rcases assemble_stored assembled tables before.lexerCount with
      ⟨loaded, _, went, reductions, readers, postLexers⟩
    rw [← ignoredSame] at went
    have same : loaded.options = parser.options := (assemble_parts went).1
    have table : loaded.table = table' := (assemble_parts went).2.2.2.2
    rw [← reset] at went
    rcases yields _ (Options.nodup_specialOf settingNames)
        (fun change => Options.mem_specialOf) went with
      ⟨after, loads⟩
    refine ⟨loaded, after, loads, sameParts_of_assemble tables went, same, ?_⟩
    intro transformer callbacks text symbol
    have twins : parser.Twins loaded := {
      toResembles := resembles_of_reductions (table ▸ tables.imp fun restores => restores.1)
        reductions.symm (discreetReductions transformer)
      options := same
      pull := TokenSource.pull_agree readers (discreetReader callbacks) postLexers }
    exact twins.parse text symbol

end

/-! ## A parser with a callback -/

/-- The settings of a parser that takes a B for the end of the input. -/
def lettersSettings : List (String × Setting) :=
  [("lexer", .data (.text "basic")), ("lexer_callbacks", .callbacks [("B", endInput)])]

theorem onlyTable_numeric : onlyTable.Numeric where
  rows := by
    simp only [onlyTable, List.forall_mem_cons]
    exact ⟨⟨0, rfl⟩, ⟨1, rfl⟩, ⟨2, rfl⟩, fun _ none => by cases none⟩
  targets := by
    intro row member entry listed target shifts
    simp only [onlyTable, List.mem_cons, List.not_mem_nil, or_false] at member
    rcases member with rfl | rfl | rfl
    · simp only [List.mem_cons, List.not_mem_nil, or_false] at listed
      rcases listed with rfl | rfl <;> cases shifts <;> exact ⟨_, rfl⟩
    · simp only [List.mem_singleton] at listed
      subst listed
      cases shifts
    · cases listed
  starts := by
    simp only [onlyTable, List.forall_mem_singleton]
    exact ⟨0, rfl⟩
  ends := by
    simp only [onlyTable, List.forall_mem_singleton]
    exact ⟨2, rfl⟩

theorem onlyTable_keyed : onlyTable.Keyed where
  rows := by decide
  entries := by decide
  starts := by decide
  ends := by decide

theorem lettersParser_plain : lettersParser.options.Plain where
  propagation _ := by rintro ⟨⟩
  flags := .inl ⟨0, rfl⟩
  debug := .bool false
  placeholders := .bool false

theorem endInput_discreet : TokenHandler.Discreet endInput := fun _ => Run.Agree.pure _

/-- A parser with a callback is loaded from what it has been stored as, and with the callback it
does the same about every text. -/
theorem load_toData_letters :
    (Options.ofSettings lettersSettings false).Yields {} lettersParser.options {} ∧
      ∃ made, (make letters [onlyRule] onlyTable [] lettersParser.options).Yields {} lettersParser
          made ∧
        ∃ data, lettersParser.toData = .ok data ∧
          ∃ read, Data.ofJson? (Data.json .spaced data) = some read ∧
            ∃ loaded after,
              (load read (Options.specialOf lettersSettings)).Yields {} loaded after ∧
              lettersParser.SameParts loaded ∧
              ∀ text symbol, Run.Agree (lettersParser.parse text symbol)
                (loaded.parse text symbol) := by
  have given : (Options.ofSettings lettersSettings false).Yields {}
      lettersParser.options {} := by rfl
  rcases lettersParser_made with ⟨made, make⟩
  rcases load_toData given make (by decide) (by decide)
      onlyTable_numeric onlyTable_keyed lettersParser_plain with
    ⟨data, stored, read, decoded, _, loads⟩
  rcases loads {} with ⟨loaded, after, loads, parts, _, same⟩
  refine ⟨given, made, make, data, stored, read, decoded, loaded, after, loads, parts,
    same (fun _ given => by cases given) ?_⟩
  rintro _ ⟨⟩ kind callback found
  have member := mem_of_assoc? found
  simp only [List.mem_singleton, Prod.mk.injEq] at member
  exact member.2 ▸ endInput_discreet

end Parser

end Lalr
