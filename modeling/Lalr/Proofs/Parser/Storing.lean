import Lalr.Parser.Store
import Lalr.Proofs.Artifact.Tables
import Lalr.Proofs.Parser.Making
import Lalr.Proofs.Parser.Options
import Lalr.Proofs.Parser.Resemblance

/-!
# Parsers that come back

What a parser is stored as is read piece by piece: its terminals and rules from the
memo, its table with rules of the memo, and its options from their own record. To load
a parser is therefore to make one from terminals that know their widths, the same
rules, a table that says the same, and the same options with some of them set anew.
-/

namespace Lalr

/-! ## What is entered -/

namespace Parser

variable {parser : Parser}

/-- What is entered while a parser is stored: its terminals and some rules. -/
def Enters (parser : Parser) (ruled : Rule → Prop) : Entry → Prop
  | .terminal terminal => terminal ∈ parser.terminals
  | .rule rule => ruled rule

/-- Whether the terminals of a parser have different names and known widths, and its rules are
different rules. -/
structure Storable (parser : Parser) : Prop where
  names : (parser.terminals.map Terminal.name).Nodup
  widths : ∀ terminal ∈ parser.terminals, ∃ width, terminal.pattern.width = .ok width
  rules : ∀ rule ∈ parser.rules, ∀ rule' ∈ parser.rules,
    rule.same rule' = true → rule = rule'
  numeric : parser.table.Numeric
  keyed : parser.table.Keyed

theorem Storable.terminal_eq (storable : parser.Storable) {terminal terminal' : Terminal}
    (mem : terminal ∈ parser.terminals) (mem' : terminal' ∈ parser.terminals)
    (same : terminal.name = terminal'.name) : terminal = terminal' :=
  List.inj_on_of_nodup_map storable.names mem mem' same

/-- The record of the settings of the lexer. -/
def lexerData (parser : Parser) (terminals : List Data) : Data :=
  .record [("terminals", .list terminals),
    ("ignore", .list (parser.ignored.map Data.text)),
    ("g_regex_flags", parser.options.flags),
    ("lexer_type", .text (if parser.options.contextual then "contextual" else "basic")),
    typeField .lexerSettings]

/-- The record of the rules and the start symbols. -/
def machineData (parser : Parser) (rules : List Data) : Data :=
  .record [("rules", .list rules), ("start", .list parser.options.starts),
    ("parser_type", .text "lalr"), typeField .parserSettings]

/-- The record of all parts of a parser. -/
def partsData (parser : Parser) (terminals rules again : List Data) (table : Data) : Data :=
  .record [("parser", .record [("lexer_conf", parser.lexerData terminals),
      ("parser_conf", parser.machineData rules), ("parser", table),
      ("__type__", .text "ParsingFrontend")]),
    ("rules", .list again), ("options", parser.options.toData), ("__type__", .text "Parser")]

/-- A parser is stored with references to its terminals and rules, under which the finished register
has just these. -/
theorem partsToData_gives (storable : parser.Storable) :
    ∃ terminals rules again table register,
      Registering.running.gives parser.partsToData []
        (parser.partsData terminals rules again table) register ∧
      register.Distinct ∧
      (∀ terminal, Entry.terminal terminal ∈ register → terminal ∈ parser.terminals) ∧
      List.Forall₂ (fun terminal reference => register.RefersTo reference (.terminal terminal))
        parser.terminals terminals ∧
      List.Forall₂ (fun rule reference => register.RefersTo reference (.rule rule)) parser.rules
        rules ∧
      List.Forall₂ (fun rule reference => register.RefersTo reference (.rule rule)) parser.rules
        again ∧
      Table.Stores register parser.table table := by
  have widen : ∀ entry, parser.Enters (· ∈ parser.rules) entry →
      parser.Enters (fun _ => True) entry := by
    intro entry entered
    cases entry with
    | terminal terminal => exact entered
    | rule rule => trivial
  have listed : ∀ terminal ∈ parser.terminals,
      parser.Enters (· ∈ parser.rules) (.terminal terminal) := fun _ member => member
  have ruled : ∀ rule ∈ parser.rules, parser.Enters (· ∈ parser.rules) (.rule rule) :=
    fun _ member => member
  have anyRule : ∀ row ∈ parser.table.rows, ∀ entry ∈ row.2,
      Table.Pooled (parser.Enters fun _ => True) entry.2 := fun _ _ _ _ _ _ => trivial
  -- the terminals and the rules are entered before the table, whose rules are looked up among them
  rcases Register.enterAll_gives Entry.terminal listed [] with
    ⟨terminals, first, gives, grows, refers⟩
  rcases Register.enterAll_gives Entry.rule ruled first with
    ⟨rules, second, gives', grows', refers'⟩
  rcases Table.toData_gives anyRule second with ⟨table, third, tabled, tableGrows, stores⟩
  rcases Register.enterAll_gives
      Entry.rule (fun rule member => widen _ (ruled rule member)) third with
    ⟨again, register, givesAgain, growsAgain, refersAgain⟩
  have early := grows.trans grows'
  have late := tableGrows.trans growsAgain
  have whole := (early.mono widen).trans late
  have distinct : register.Distinct := whole.distinct fun _ none => by cases none
  have terminalMem : ∀ terminal, Entry.terminal terminal ∈ register →
      terminal ∈ parser.terminals := by
    intro terminal member
    rcases whole.source _ member with none | entered
    · cases none
    · exact entered
  have ruleMem : ∀ rule ∈ parser.rules, Entry.rule rule ∈ register := by
    intro rule member
    rcases exists_of_mem_left refers' member with ⟨reference, listed, refers⟩
    refine late.begins.subset (Register.RefersTo.mem (refers.refersTo ?_))
    intro other entered same
    cases other with
    | terminal terminal => cases same
    | rule rule' =>
        rcases early.source _ entered with none | listed'
        · cases none
        · rw [storable.rules rule member rule' listed' same]
  have ruleOnly : ∀ rule ∈ parser.rules, ∀ other ∈ register,
      (Entry.rule rule).same other = true → Entry.rule rule = other := fun rule member =>
    distinct _ (ruleMem rule member)
  have terminalOnly : ∀ terminal ∈ parser.terminals, ∀ other ∈ register,
      (Entry.terminal terminal).same other = true → Entry.terminal terminal = other := by
    intro terminal member other entered same
    cases other with
    | rule rule => cases same
    | terminal terminal' =>
        rw [storable.terminal_eq member (terminalMem _ entered) (beq_iff_eq.mp same)]
  refine ⟨terminals, rules, again, table, register, ?_, distinct, terminalMem, ?_, ?_, ?_,
    stores.grows growsAgain⟩
  · exact Registering.running.bind gives (Registering.running.bind gives'
      (Registering.running.bind tabled (Registering.running.bind givesAgain
        (Registering.running.pure _ _))))
  · refine ((List.forall₂_and_left _ _).mpr ⟨terminalOnly, refers⟩).imp fun _ _ head => ?_
    exact (head.2.grows ((grows'.mono widen).trans late)).refersTo head.1
  · refine ((List.forall₂_and_left _ _).mpr ⟨ruleOnly, refers'⟩).imp fun _ _ head => ?_
    exact (head.2.grows late).refersTo head.1
  · refine ((List.forall₂_and_left _ _).mpr ⟨ruleOnly, refersAgain⟩).imp fun _ _ head => ?_
    exact head.2.refersTo head.1

/-! ## What is read -/

/-- The fields of the object of the settings of the lexer. -/
def lexerFields (parser : Parser) : List (String × Stored) :=
  [("terminals", .list (parser.terminals.map Stored.ofTerminal)),
    ("ignore", .list (parser.ignored.map fun name => .plain (.text name))),
    ("g_regex_flags", .plain parser.options.flags),
    ("lexer_type", .plain (.text (if parser.options.contextual then "contextual" else "basic")))]

/-- The object of the settings of the lexer. -/
def lexerObject (parser : Parser) : Stored := .object .lexerSettings parser.lexerFields

theorem read_lexerData {register : Register} {terminals : List Data}
    (plain : parser.options.Plain)
    (refers : List.Forall₂ (fun terminal reference => register.RefersTo reference
      (.terminal terminal)) parser.terminals terminals) :
    Stored.read register.memo [.lexerSettings] (parser.lexerData terminals) =
      .ok parser.lexerObject := by
  have listed : Stored.read register.memo ObjectKind.lexerSettings.contents (.list terminals) =
      .ok (.list (parser.terminals.map Stored.ofTerminal)) := by
    rw [Stored.read, Register.readItems_references Entry.terminal refers]
    rfl
  have flags : Stored.read register.memo ObjectKind.lexerSettings.contents parser.options.flags =
      .ok (.plain parser.options.flags) := by
    rcases plain.flags with ⟨bits, given⟩ | ⟨value, given⟩
    · rw [given]
      rfl
    · rw [given]
      rfl
  have read : Stored.read register.memo [.lexerSettings] (parser.lexerData terminals) =
      Stored.make .lexerSettings parser.lexerFields .null :=
    Stored.read_object rfl parser.lexerFields (.cons ⟨rfl, listed⟩
      (.cons ⟨rfl, Stored.read_letters parser.ignored⟩ (.cons ⟨rfl, flags⟩
        (.cons ⟨rfl, rfl⟩ .nil)))) rfl []
  rw [read]
  rfl

/-- The settings of a lexer say nothing that the stored options do not say themselves. -/
theorem storedSettings_partsData (parser : Parser) (terminals rules again : List Data)
    (table : Data) :
    storedSettings (parser.partsData terminals rules again table) parser.lexerObject =
      .ok parser.options.storedSettings := by
  let fields := [("start", .list parser.options.starts),
    ("parser", .text "lalr"),
    ("lexer", .text (if parser.options.contextual then "contextual" else "basic")),
    ("debug", parser.options.debug),
    ("maybe_placeholders", parser.options.placeholders),
    ("propagate_positions", .bool (parser.options.propagation != .off)),
    ("g_regex_flags", parser.options.flags)]
  have unfolded : storedSettings (parser.partsData terminals rules again table)
      parser.lexerObject = .ok ((if parser.options.flags.holds && !true then
        Data.put fields "g_regex_flags" parser.options.flags else fields).map fun field =>
          (field.1, .data field.2)) := rfl
  rw [unfolded, Bool.not_true, Bool.and_false]
  rfl

/-- The table that is read has the rules of the parser where these are the same. -/
theorem load_partsData {register : Register} {terminals rules again : List Data}
    {table memo : Data} {table' : Table State} {changes : List (String × Setting)}
    (storable : parser.Storable) (plain : parser.options.Plain)
    (starts : parser.options.starts ≠ []) (stored : register.toData = .ok memo)
    (refers : List.Forall₂ (fun terminal reference => register.RefersTo reference
      (.terminal terminal)) parser.terminals terminals)
    (refersAgain : List.Forall₂ (fun rule reference => register.RefersTo reference (.rule rule))
      parser.rules again)
    (read : Table.read register.memo table = .ok table')
    (distinct : (changes.map (·.1)).Nodup)
    (named : ∀ change ∈ changes, change.1 ∈ Options.special) :
    load (.record [("data", parser.partsData terminals rules again table), ("memo", memo)])
        changes =
      (do
        Run.lift (parser.options.starts.forM (checkStart table'))
        make (parser.terminals.map Terminal.stored) parser.rules table'
          (parser.ignored.map Data.text) (parser.options.reset changes)) := by
  have parts : (Data.record [("data", parser.partsData terminals rules again table),
      ("memo", memo)]).demand "data" "compiled grammar" =
        .ok (parser.partsData terminals rules again table) := rfl
  have memoRead := Register.readMemo_toData stored
  have lexerRead := read_lexerData plain refers
  have rulesRead : Stored.read register.memo [.rule] (.list again) =
      .ok (.list (parser.rules.map Stored.ofRule)) := by
    rw [Stored.read, Register.readItems_references Entry.rule refersAgain]
    rfl
  have settings := storedSettings_partsData parser terminals rules again table
  have options := Options.ofSettings_merged starts plain distinct named
  have terminalsRead : (parser.terminals.map Stored.ofTerminal).mapM Stored.toTerminal =
      .ok (parser.terminals.map Terminal.stored) := by
    refine mapM_of_forall₂ ?_
    rw [List.forall₂_map_left_iff, List.forall₂_map_right_iff, List.forall₂_same]
    intro terminal member
    rcases storable.widths terminal member with ⟨width, measured⟩
    exact Stored.toTerminal_ofTerminal measured
  have rulesMade : (parser.rules.map Stored.ofRule).mapM Stored.toRule = .ok parser.rules := by
    rw [List.mapM_map]
    exact mapM_of_forall₂ (List.forall₂_same.mpr fun rule _ => Stored.toRule_ofRule rule)
  have ignored : (parser.ignored.map fun name => Stored.plain (.text name)).mapM Stored.toData =
      .ok (parser.ignored.map Data.text) := by
    refine mapM_of_forall₂ ?_
    rw [List.forall₂_map_left_iff, List.forall₂_map_right_iff, List.forall₂_same]
    exact fun name _ => rfl
  have fixed : sortedSet ((changes.map (·.1)).filter fun name =>
      !Options.resettable.contains name) = [] := by
    have none : (changes.map (·.1)).filter (fun name =>
        !Options.resettable.contains name) = [] := by
      rw [List.filter_eq_nil_iff]
      intro name member
      rcases List.mem_map.mp member with ⟨change, listed, rfl⟩
      have resettable : ∀ name ∈ Options.special, name ∈ Options.resettable := by decide
      simpa using resettable _ (named change listed)
    rw [none]
    simp [sortedSet]
  unfold load
  simp only [fixed]
  refine (Run.lift_bind_of_ok parts _).trans ?_
  refine (Run.lift_bind_of_ok memoRead _).trans ?_
  refine (Run.lift_bind_of_ok rfl _).trans ?_
  refine (Run.lift_bind_of_ok lexerRead _).trans ?_
  refine (Run.lift_bind_of_ok read _).trans ?_
  refine (Run.lift_bind_of_ok rulesRead _).trans ?_
  refine (Run.lift_bind_of_ok settings _).trans ?_
  rw [options, pure_bind]
  refine (Run.lift_bind_of_ok rfl _).trans ?_
  refine (Run.lift_bind_of_ok terminalsRead _).trans ?_
  rw [Run.forIn_lift]
  refine bind_congr fun _ => ?_
  refine (Run.lift_bind_of_ok rulesMade _).trans ?_
  exact (Run.lift_bind_of_ok ignored _)

end Parser

end Lalr
