import Lalr.Artifact.Objects
import Lalr.Proofs.Data.Json
import Lalr.Proofs.Lexer.Making

/-!
# Objects that come back

The data that a symbol, a rule or a terminal is stored as is read as an object, and
the object stands for the symbol, the rule or the terminal. Only an expression is not
quite the same afterwards: it comes with the width that it was found to have.
-/

namespace Lalr

namespace RegexFlags

theorem letters_sublist (flags : RegexFlags) : List.Sublist flags.letters flagLetters := by
  rcases flags with ⟨ascii, ignoreCase, multiLine, dotAll, verbose⟩
  revert ascii ignoreCase multiLine dotAll verbose
  decide

theorem ofLetters_letters (flags : RegexFlags) : ofLetters flags.letters = flags := by
  rcases flags with ⟨ascii, ignoreCase, multiLine, dotAll, verbose⟩
  revert ascii ignoreCase multiLine dotAll verbose
  decide

end RegexFlags

theorem RegexFlags.sortedSet_letters (flags : RegexFlags) :
    sortedSet flags.letters = flags.letters := by
  have ordered : flagLetters.Pairwise (decide <| · ≤ ·) := by decide
  have distinct : flagLetters.Nodup := by decide
  exact sortedSet_eq_self (ordered.sublist flags.letters_sublist)
    (distinct.sublist flags.letters_sublist)

theorem Pattern.make_letters (kind : PatternKind) (value : String) (flags : RegexFlags)
    (raw : Option String) (storedWidth : Option Width) :
    make kind value flags.letters raw storedWidth =
      .ok { kind, value, flags, raw, storedWidth } := by
  have known : flags.letters.filter (fun letter => !flagLetters.contains letter) = [] := by
    rw [List.filter_eq_nil_iff]
    intro letter member
    simpa using flags.letters_sublist.subset member
  simp only [make, flags.sortedSet_letters, known, flags.ofLetters_letters]

/-- The pattern as it is found in a stored terminal: an expression comes with its width. -/
def Pattern.stored (pattern : Pattern) : Pattern :=
  { pattern with
    storedWidth :=
      match pattern.kind with
      | .literal => none
      | .expression => pattern.width.toOption }

/-- The terminal as it is found in stored data. -/
def Terminal.stored (terminal : Terminal) : Terminal :=
  { terminal with pattern := terminal.pattern.stored }

theorem Pattern.width_stored (pattern : Pattern) : pattern.stored.width = pattern.width := by
  rcases pattern with ⟨kind, value, flags, raw, storedWidth⟩
  cases kind with
  | literal => rfl
  | expression =>
      cases storedWidth with
      | some width => rfl
      | none =>
          cases measured : (Pattern.mk .expression value flags raw none).width with
          | ok found =>
              simp only [stored, measured, Except.toOption]
              rfl
          | error failure =>
              simp only [stored, measured, Except.toOption]

theorem bind_of_ok {ε α β : Type} {answer : Except ε α} {value : α}
    (went : answer = .ok value) (rest : α → Except ε β) : answer >>= rest = rest value := by
  rw [went]
  rfl

namespace Stored

variable {memo : Memo} {known : List ObjectKind}

/-! ## Reading the fields of objects -/

theorem inTurn_ok (values : List (String × Stored)) :
    inTurn (values.map fun value => (value.1, .ok value.2)) = .ok values := by
  unfold inTurn
  rw [List.mapM_map]
  exact mapM_of_forall₂ (List.forall₂_same.mpr fun value _ => rfl)

theorem readFields_append (fields others : List (String × Data)) :
    readFields memo known (fields ++ others) =
      readFields memo known fields ++ readFields memo known others := by
  induction fields with
  | nil => rfl
  | cons field fields ih => simp [readFields, ih]

theorem readFields_ok {fields : List (String × Data)} {values : List (String × Stored)}
    (reads : List.Forall₂ (fun field value => field.1 = value.1 ∧
      read memo known field.2 = .ok value.2) fields values) :
    readFields memo known fields = values.map fun value => (value.1, .ok value.2) := by
  induction reads with
  | nil => rfl
  | @cons field value fields values head _ ih =>
      rcases field with ⟨name, data⟩
      rw [readFields, ih, List.map_cons, ← head.1, head.2]

theorem lookup_append_of_notMem {fields : List (String × Data)} {name : String}
    (notMem : name ∉ fields.map (·.1)) (others : List (String × Data)) :
    Data.lookup (fields ++ others) name = Data.lookup others name := by
  have none : fields.find? (fun field => field.1 == name) = none := by
    rw [List.find?_eq_none]
    intro field member same
    exact notMem (List.mem_map.mpr ⟨field, member, beq_iff_eq.mp same⟩)
  simp only [Data.lookup, List.find?_append, none, Option.none_or]

/-- Where the names of all fields of an object are there, each with something that can be read, the
object is made from what is read. -/
theorem read_object {kind : ObjectKind} (isKnown : ObjectKind.find? known kind.name = some kind)
    {fields : List (String × Data)} (values : List (String × Stored))
    (reads : List.Forall₂ (fun field value => field.1 = value.1 ∧
      read memo kind.contents field.2 = .ok value.2) fields values)
    (names : values.map (·.1) = kind.fields) (others : List (String × Data)) :
    read memo known (.record (fields ++ typeField kind :: others)) =
      make kind values
        ((Data.lookup (fields ++ typeField kind :: others) "_width").getD .null) := by
  have same : fields.map (·.1) = kind.fields := by
    rw [← names]
    exact @keys_alike _ _ _ (fun data value => read memo kind.contents data = .ok value) _ _ reads
  have proper : kind.fields.Nodup ∧ "__type__" ∉ kind.fields := by
    cases kind <;> decide
  have type : Data.lookup (fields ++ typeField kind :: others) "__type__" =
      some (.text kind.name) := by
    rw [lookup_append_of_notMem (same ▸ proper.2)]
    rfl
  have found : ∀ value ∈ values, assoc? (readFields memo kind.contents
      (fields ++ typeField kind :: others)) value.1 = some (.ok value.2) := by
    intro value member
    rw [readFields_append, readFields_ok reads, assoc?_append_of_mem]
    · exact assoc?_of_mem (by simpa [Function.comp_def, names] using proper.1)
        (List.mem_map_of_mem (f := fun value => (value.1, Except.ok value.2)) member)
    · simpa using ⟨_, member⟩
  have wanted : kind.fields.filterMap (fun name =>
      (assoc? (readFields memo kind.contents (fields ++ typeField kind :: others)) name).map
        fun value => (name, value)) = values.map fun value => (value.1, .ok value.2) := by
    rw [← names, List.filterMap_map, ← List.filterMap_eq_map]
    refine List.filterMap_congr fun value member => ?_
    simp [found value member]
  simp only [read, type, isKnown, wanted, inTurn_ok]
  rfl

/-! ## Symbols and rules -/

/-- The object of a symbol. -/
def ofSymbol : Symbol → Stored
  | .terminal name filteredOut =>
    .object .terminalSymbol
      [("name", .plain (.text name)), ("filter_out", .plain (.bool filteredOut))]
  | .nonterminal name => .object .nonterminalSymbol [("name", .plain (.text name))]

/-- The fields of the object of the options of a rule. -/
def optionFields (options : RuleOptions) : List (String × Stored) :=
  [("keep_all_tokens", .plain (.bool options.keepAllTokens)),
    ("expand1", .plain (.bool options.expandSingle)),
    ("priority",
      .plain (match options.priority with
        | some priority => .int priority
        | none => .null)),
    ("template_source", .plain (optionalText options.templateSource)),
    ("empty_indices", .list (options.emptyIndices.map fun empty => .plain (.bool empty)))]

/-- The object of the options of a rule. -/
def ofOptions (options : RuleOptions) : Stored := .object .ruleOptions (optionFields options)

/-- The fields of the object of a rule. -/
def ruleFields (rule : Rule) : List (String × Stored) :=
  [("origin", ofSymbol (.nonterminal rule.origin)),
    ("expansion", .list (rule.expansion.map ofSymbol)),
    ("order", .plain (.int rule.order)),
    ("alias", .plain (optionalText rule.byname)),
    ("options", ofOptions rule.options)]

/-- The object of a rule. -/
def ofRule (rule : Rule) : Stored := .object .rule (ruleFields rule)

theorem isKey_ofSymbol (symbol : Symbol) : (ofSymbol symbol).isKey = true := by
  cases symbol <;> rfl

theorem read_symbol
    (terminals : ObjectKind.find? known ObjectKind.terminalSymbol.name = some .terminalSymbol)
    (nonterminals : ObjectKind.find? known ObjectKind.nonterminalSymbol.name =
      some .nonterminalSymbol) (symbol : Symbol) :
    read memo known symbol.toData = .ok (ofSymbol symbol) := by
  cases symbol with
  | terminal name filteredOut =>
      exact read_object terminals
        [("name", .plain (.text name)), ("filter_out", .plain (.bool filteredOut))]
        (.cons ⟨rfl, rfl⟩ (.cons ⟨rfl, rfl⟩ .nil)) rfl []
  | nonterminal name =>
      exact read_object nonterminals [("name", .plain (.text name))]
        (.cons ⟨rfl, rfl⟩ .nil) rfl []

theorem readItems_map {α : Type} {toData : α → Data} (ofItem : α → Stored)
    (reads : ∀ item, read memo known (toData item) = .ok (ofItem item)) (items : List α) :
    readItems memo known (items.map toData) = .ok (items.map ofItem) := by
  induction items with
  | nil => rfl
  | cons item items ih =>
      rw [List.map_cons, readItems, reads, ih]
      rfl

theorem read_optionalText (text : Option String) :
    read memo known (optionalText text) = .ok (.plain (optionalText text)) := by
  cases text <;> rfl

theorem read_options
    (isKnown : ObjectKind.find? known ObjectKind.ruleOptions.name = some .ruleOptions)
    (options : RuleOptions) : read memo known options.toData = .ok (ofOptions options) := by
  have indices : read memo ObjectKind.ruleOptions.contents
      (.list (options.emptyIndices.map Data.bool)) =
        .ok (.list (options.emptyIndices.map fun empty => .plain (.bool empty))) := by
    rw [read, readItems_map (fun empty => .plain (.bool empty)) fun _ => rfl]
    rfl
  have priority : read memo ObjectKind.ruleOptions.contents (match options.priority with
      | some priority => Data.int priority
      | none => .null) = .ok (.plain (match options.priority with
      | some priority => .int priority
      | none => .null)) := by
    cases options.priority <;> rfl
  exact read_object isKnown (optionFields options)
    (.cons ⟨rfl, rfl⟩ (.cons ⟨rfl, rfl⟩ (.cons ⟨rfl, priority⟩
      (.cons ⟨rfl, read_optionalText _⟩ (.cons ⟨rfl, indices⟩ .nil))))) rfl []

theorem check_rule (rule : Rule) : check .rule (ruleFields rule) = .ok () := by
  have keys : (ofSymbol (.nonterminal rule.origin) :: rule.expansion.map ofSymbol).all isKey =
      true := by
    simp [isKey_ofSymbol]
  have unfolded : check .rule (ruleFields rule) =
      if (ofSymbol (.nonterminal rule.origin) :: rule.expansion.map ofSymbol).all isKey then .ok ()
      else .error (.grammar (.malformed ObjectKind.rule.name)) := rfl
  rw [unfolded, if_pos keys]

theorem read_rule (isKnown : ObjectKind.find? known ObjectKind.rule.name = some .rule)
    (rule : Rule) : read memo known rule.toData = .ok (ofRule rule) := by
  have expansion : read memo ObjectKind.rule.contents (.list (rule.expansion.map Symbol.toData)) =
      .ok (.list (rule.expansion.map ofSymbol)) := by
    rw [read, readItems_map ofSymbol fun symbol => read_symbol rfl rfl symbol]
    rfl
  have made : make .rule (ruleFields rule) .null =
      check .rule (ruleFields rule) >>= fun _ => .ok (ofRule rule) := rfl
  have reads : read memo known rule.toData = make .rule (ruleFields rule) .null :=
    read_object isKnown (ruleFields rule)
      (.cons ⟨rfl, read_symbol rfl rfl (.nonterminal rule.origin)⟩
      (.cons ⟨rfl, expansion⟩
        (.cons ⟨rfl, rfl⟩ (.cons ⟨rfl, read_optionalText rule.byname⟩
        (.cons ⟨rfl, read_options rfl rule.options⟩ .nil))))) rfl []
  rw [reads, made, check_rule]
  rfl

@[simp] theorem asText?_optionalText (text : Option String) :
    (Stored.plain (optionalText text)).asText? = text := by
  cases text <;> rfl

@[simp] theorem toSymbol_ofSymbol (symbol : Symbol) : (ofSymbol symbol).toSymbol = .ok symbol := by
  cases symbol with
  | terminal name filteredOut => cases filteredOut <;> rfl
  | nonterminal name => rfl

theorem toOptions_ofOptions (options : RuleOptions) :
    (ofOptions options).toOptions = .ok options := by
  have indices : ((options.emptyIndices.map fun empty => Stored.plain (.bool empty)).map holds) =
      options.emptyIndices := by
    rw [List.map_map]
    exact List.map_id _
  have source := asText?_optionalText options.templateSource
  have priority : (Stored.plain (match options.priority with
      | some priority => .int priority
      | none => .null)).asNumber? = options.priority := by
    cases options.priority <;> rfl
  have unfolded : (ofOptions options).toOptions = .ok {
      keepAllTokens := options.keepAllTokens
      expandSingle := options.expandSingle
      priority := (Stored.plain (match options.priority with
        | some priority => .int priority
        | none => .null)).asNumber?
      templateSource := (Stored.plain (optionalText options.templateSource)).asText?
      emptyIndices :=
        (options.emptyIndices.map fun empty => Stored.plain (.bool empty)).map holds } := rfl
  rw [unfolded, indices, source, priority]

theorem mapM_toSymbol (symbols : List Symbol) :
    (symbols.map ofSymbol).mapM toSymbol = .ok symbols := by
  rw [List.mapM_map]
  exact mapM_of_forall₂ (List.forall₂_same.mpr fun symbol _ => toSymbol_ofSymbol symbol)

theorem toRuleWith_ofRule (rule : Rule) (options : RuleOptions) :
    (ofRule rule).toRuleWith options = .ok { rule with options } := by
  have unfolded : (ofRule rule).toRuleWith options = do
      return {
        origin := (← (ofSymbol (.nonterminal rule.origin)).toSymbol).name
        expansion := ← (rule.expansion.map ofSymbol).mapM toSymbol
        order := rule.order
        byname := (Stored.plain (optionalText rule.byname)).asText?
        options } := rfl
  rw [unfolded, toSymbol_ofSymbol, mapM_toSymbol, asText?_optionalText]
  rfl

theorem toRule_ofRule (rule : Rule) : (ofRule rule).toRule = .ok rule := by
  have unfolded : (ofRule rule).toRule =
      (ofOptions rule.options).toOptions >>= (ofRule rule).toRuleWith := rfl
  rw [unfolded, toOptions_ofOptions]
  exact toRuleWith_ofRule rule rule.options

theorem toTableRule_ofRule (rule : Rule) : (ofRule rule).toTableRule = .ok rule := by
  have unfolded : (ofRule rule).toTableRule =
      (ofRule rule).toRuleWith ((ofOptions rule.options).toOptions.toOption.getD {}) := rfl
  rw [unfolded, toOptions_ofOptions]
  exact toRuleWith_ofRule rule rule.options

/-! ## Patterns and terminals -/

/-- The fields that the objects of all patterns have. -/
def patternFields (pattern : Pattern) : List (String × Stored) :=
  [("value", .plain (.text pattern.value)),
    ("flags", .list (pattern.flags.letters.map fun letter => .plain (.text letter))),
    ("raw", .plain (optionalText pattern.raw))]

/-- The object of a pattern. -/
def ofPattern (pattern : Pattern) : Stored :=
  match pattern.kind, pattern.width with
  | .literal, _ => .object .literal (patternFields pattern)
  | .expression, .ok width =>
    .object .expression (patternFields pattern ++
      [("_width", .list [.plain (.int width.least), .plain (.int width.most)])])
  | .expression, .error _ => .object .expression (patternFields pattern)

/-- The fields of the object of a terminal. -/
def terminalFields (terminal : Terminal) : List (String × Stored) :=
  [("name", .plain (.text terminal.name)), ("pattern", ofPattern terminal.pattern),
    ("priority", .plain (.int terminal.priority))]

/-- The object of a terminal. -/
def ofTerminal (terminal : Terminal) : Stored := .object .terminal (terminalFields terminal)

theorem mapM_asText? (texts : List String) :
    (texts.map fun text => Stored.plain (.text text)).mapM asText? = some texts := by
  induction texts with
  | nil => rfl
  | cons text texts ih =>
      rw [List.map_cons, List.mapM_cons, ih]
      rfl

theorem filterMap_asText? (texts : List String) :
    (texts.map fun text => Stored.plain (.text text)).filterMap asText? = texts := by
  induction texts with
  | nil => rfl
  | cons text texts ih =>
      rw [List.map_cons, List.filterMap_cons, ih]
      rfl

theorem settleFlags_letters (kind : ObjectKind) (flags : RegexFlags) :
    settleFlags kind (.list (flags.letters.map fun letter => .plain (.text letter))) =
      .ok (.list (flags.letters.map fun letter => .plain (.text letter))) := by
  have keys : (flags.letters.map fun letter => Stored.plain (.text letter)).all isKey = true := by
    simp [isKey]
  simp only [settleFlags, elements?, keys, mapM_asText?, flags.sortedSet_letters]
  rfl

theorem check_pattern {kind : ObjectKind} (isPattern : kind = .literal ∨ kind = .expression)
    (pattern : Pattern) : check kind (patternFields pattern) = .ok () := by
  have letters := filterMap_asText? pattern.flags.letters
  rcases isPattern with rfl | rfl
  · have unfolded : check .literal (patternFields pattern) =
        discard (Pattern.make .literal pattern.value ((pattern.flags.letters.map fun letter =>
          Stored.plain (.text letter)).filterMap asText?)) := rfl
    rw [unfolded, letters, Pattern.make_letters]
    rfl
  · have unfolded : check .expression (patternFields pattern) =
        discard (Pattern.make .expression pattern.value ((pattern.flags.letters.map fun letter =>
          Stored.plain (.text letter)).filterMap asText?)) := rfl
    rw [unfolded, letters, Pattern.make_letters]
    rfl

/-- An object is made from fields that are in the form in which it holds them. -/
theorem make_of_settled {kind : ObjectKind} {values : List (String × Stored)}
    (names : values.map (·.1) = kind.fields)
    (settled : ∀ value ∈ values, settleField kind value.1 value.2 = .ok value.2)
    (optionless : "options" ∉ kind.fields) (width : Data) :
    make kind values width = check kind values >>= fun _ =>
      if kind = .expression then
        (settleWidth width).map fun width =>
          match width with
          | some width => .object kind (values ++ [("_width", width)])
          | none => .object kind values
      else .ok (.object kind values) := by
  have proper : kind.fields.Nodup ∧ ∀ name ∈ kind.required, name ∈ kind.fields := by
    cases kind <;> decide
  have distinct : (values.map (·.1)).Nodup := names ▸ proper.1
  have found : ∀ value ∈ values, assoc? values value.1 = some value.2 := fun value member =>
    assoc?_of_mem distinct member
  have complete : kind.required.all (fun name => (assoc? values name).isSome) = true := by
    rw [List.all_eq_true]
    intro name member
    have member := proper.2 name member
    rw [← names] at member
    rcases List.mem_map.mp member with ⟨value, listed, rfl⟩
    rw [found value listed]
    rfl
  have fields : kind.fields.mapM (fun name => do
      match assoc? values name with
      | some value => return (name, ← settleField kind name value)
      | none => return (name, defaultOf kind name)) = (.ok values : Except Failure _) := by
    rw [← names, List.mapM_map]
    refine mapM_of_forall₂ (List.forall₂_same.mpr fun value member => ?_)
    simp only [Function.comp_apply, found value member, settled value member]
    rfl
  have options : assoc? values "options" = none := assoc?_of_notMem (names ▸ optionless)
  unfold make
  rw [complete, if_pos rfl]
  refine (bind_of_ok fields _).trans ?_
  simp only [options, pure_bind]
  refine bind_congr fun _ => ?_
  split
  next =>
    cases settleWidth width with
    | error failure => rfl
    | ok width => cases width <;> rfl
  next => rfl

theorem settled_patternFields {kind : ObjectKind}
    (isPattern : kind = .literal ∨ kind = .expression) (pattern : Pattern) :
    ∀ value ∈ patternFields pattern, settleField kind value.1 value.2 = .ok value.2 := by
  have flags := settleFlags_letters kind pattern.flags
  rcases isPattern with rfl | rfl
  · simp only [patternFields, List.forall_mem_cons]
    exact ⟨rfl, flags, rfl, fun _ none => by cases none⟩
  · simp only [patternFields, List.forall_mem_cons]
    exact ⟨rfl, flags, rfl, fun _ none => by cases none⟩

theorem read_letters (letters : List String) :
    read memo known (.list (letters.map Data.text)) =
      .ok (.list (letters.map fun letter => .plain (.text letter))) := by
  rw [read, readItems_map (fun letter => .plain (.text letter)) fun _ => rfl]
  rfl

theorem reads_patternFields (pattern : Pattern) :
    List.Forall₂ (fun field value => field.1 = value.1 ∧ read memo known field.2 = .ok value.2)
      [("value", .text pattern.value), ("flags", .list (pattern.flags.letters.map Data.text)),
        ("raw", optionalText pattern.raw)] (patternFields pattern) :=
  .cons ⟨rfl, rfl⟩ (.cons ⟨rfl, read_letters _⟩ (.cons ⟨rfl, read_optionalText _⟩ .nil))

theorem read_pattern {pattern : Pattern} {data : Data}
    (literals : ObjectKind.find? known ObjectKind.literal.name = some .literal)
    (expressions : ObjectKind.find? known ObjectKind.expression.name = some .expression)
    (stored : pattern.toData = .ok data) : read memo known data = .ok (ofPattern pattern) := by
  unfold Pattern.toData at stored
  unfold ofPattern
  cases kind : pattern.kind with
  | literal =>
      simp only [kind] at stored
      cases stored
      refine (read_object literals (patternFields pattern) (reads_patternFields pattern) rfl
        []).trans ?_
      rw [make_of_settled rfl (settled_patternFields (.inl rfl) pattern) (by decide),
        check_pattern (.inl rfl)]
      rfl
  | expression =>
      simp only [kind, bind_eq_ok] at stored
      rcases stored with ⟨width, measured, stored⟩
      cases stored
      refine (read_object expressions (patternFields pattern) (reads_patternFields pattern) rfl
        [("_width", .list [.int width.least, .int width.most])]).trans ?_
      rw [make_of_settled rfl (settled_patternFields (.inr rfl) pattern) (by decide),
        check_pattern (.inr rfl), measured]
      rfl

theorem toPattern_ofPattern {pattern : Pattern} {width : Width}
    (measured : pattern.width = .ok width) :
    (ofPattern pattern).toPattern = .ok pattern.stored := by
  rcases pattern with ⟨kind, value, flags, raw, storedWidth⟩
  cases kind with
  | literal =>
      have unfolded : (ofPattern ⟨.literal, value, flags, raw, storedWidth⟩).toPattern =
          Pattern.make .literal value ((flags.letters.map fun letter =>
            Stored.plain (.text letter)).filterMap asText?)
            (Stored.plain (optionalText raw)).asText? := rfl
      rw [unfolded, filterMap_asText?, asText?_optionalText, Pattern.make_letters]
      rfl
  | expression =>
      have object : ofPattern ⟨.expression, value, flags, raw, storedWidth⟩ =
          .object .expression (patternFields ⟨.expression, value, flags, raw, storedWidth⟩ ++
            [("_width", .list [.plain (.int width.least), .plain (.int width.most)])]) := by
        simp only [ofPattern, measured]
      have unfolded : (Stored.object .expression
          (patternFields ⟨.expression, value, flags, raw, storedWidth⟩ ++
            [("_width", .list [.plain (.int width.least), .plain (.int width.most)])])).toPattern =
          Pattern.make .expression value ((flags.letters.map fun letter =>
            Stored.plain (.text letter)).filterMap asText?)
            (Stored.plain (optionalText raw)).asText? (some width) := rfl
      rw [object, unfolded, filterMap_asText?, asText?_optionalText, Pattern.make_letters]
      simp [Pattern.stored, measured, Except.toOption]

theorem check_terminal (terminal : Terminal) : check .terminal
    (terminalFields terminal) = .ok () := by
  have isPattern : (ofPattern terminal.pattern).isObject [.literal, .expression] = true := by
    unfold ofPattern
    split <;> rfl
  have unfolded : check .terminal (terminalFields terminal) =
      if (ofPattern terminal.pattern).isObject [.literal, .expression] then .ok ()
      else .error (.fault .brokenPromise) := rfl
  rw [unfolded, if_pos isPattern]

theorem read_terminal {terminal : Terminal} {data : Data}
    (isKnown : ObjectKind.find? known ObjectKind.terminal.name = some .terminal)
    (stored : terminal.toData = .ok data) : read memo known data = .ok (ofTerminal terminal) := by
  rcases bind_eq_ok.mp stored with ⟨pattern, patternStored, stored⟩
  cases stored
  have made : make .terminal (terminalFields terminal) .null =
      check .terminal (terminalFields terminal) >>= fun _ => .ok (ofTerminal terminal) := rfl
  refine (read_object isKnown (terminalFields terminal) (.cons ⟨rfl, rfl⟩
    (.cons ⟨rfl, read_pattern rfl rfl patternStored⟩ (.cons ⟨rfl, rfl⟩ .nil)))
    rfl []).trans ?_
  refine made.trans ?_
  rw [check_terminal]
  rfl

theorem toTerminal_ofTerminal {terminal : Terminal} {width : Width}
    (measured : terminal.pattern.width = .ok width) :
    (ofTerminal terminal).toTerminal = .ok terminal.stored := by
  have unfolded : (ofTerminal terminal).toTerminal =
      (ofPattern terminal.pattern).toPattern >>= fun pattern =>
        .ok { name := terminal.name, pattern, priority := terminal.priority } := rfl
  rw [unfolded, toPattern_ofPattern measured]
  rfl

end Stored

/-! ## What objects are stored as -/

open Data (Proper)

theorem proper_optionalText (text : Option String) : (optionalText text).Proper := by
  cases text with
  | none => exact .null
  | some text => exact .text text

theorem proper_list {α : Type} {toData : α → Data} (proper : ∀ item, (toData item).Proper)
    (items : List α) : (Data.list (items.map toData)).Proper := by
  refine .list fun data member => ?_
  rcases List.mem_map.mp member with ⟨item, _, rfl⟩
  exact proper item

theorem Symbol.proper_toData (symbol : Symbol) : symbol.toData.Proper := by
  cases symbol with
  | terminal name filteredOut =>
      refine .record (by simp [typeField]) ?_
      simp only [List.forall_mem_cons]
      exact ⟨.text _, .bool _, .text _, fun _ none => by cases none⟩
  | nonterminal name =>
      refine .record (by simp [typeField]) ?_
      simp only [List.forall_mem_cons]
      exact ⟨.text _, .text _, fun _ none => by cases none⟩

theorem RuleOptions.proper_toData (options : RuleOptions) : options.toData.Proper := by
  refine .record (by simp [typeField]) ?_
  simp only [List.forall_mem_cons]
  refine ⟨.bool _, .bool _, ?_, proper_optionalText _, proper_list (fun _ => .bool _) _, .text _,
    fun _ none => by cases none⟩
  cases options.priority with
  | none => exact .null
  | some priority => exact .int priority

theorem Rule.proper_toData (rule : Rule) : rule.toData.Proper := by
  refine .record (by simp [typeField]) ?_
  simp only [List.forall_mem_cons]
  exact ⟨Symbol.proper_toData _, proper_list Symbol.proper_toData _, .int _,
    proper_optionalText _, RuleOptions.proper_toData _, .text _, fun _ none => by cases none⟩

theorem Pattern.proper_toData {pattern : Pattern} {data : Data}
    (stored : pattern.toData = .ok data) : data.Proper := by
  unfold Pattern.toData at stored
  cases kind : pattern.kind with
  | literal =>
      simp only [kind] at stored
      cases stored
      refine .record (by simp [typeField]) ?_
      simp only [List.cons_append, List.nil_append, List.forall_mem_cons]
      exact ⟨.text _, proper_list (fun _ => .text _) _, proper_optionalText _, .text _,
        fun _ none => by cases none⟩
  | expression =>
      simp only [kind, bind_eq_ok] at stored
      rcases stored with ⟨width, _, stored⟩
      cases stored
      have widths : (Data.list [.int width.least, .int width.most]).Proper := by
        refine .list ?_
        simp only [List.forall_mem_cons]
        exact ⟨.int _, .int _, fun _ none => by cases none⟩
      refine .record (by simp [typeField]) ?_
      simp only [List.cons_append, List.nil_append, List.forall_mem_cons]
      exact ⟨.text _, proper_list (fun _ => .text _) _, proper_optionalText _, .text _, widths,
        fun _ none => by cases none⟩

theorem Terminal.proper_toData {terminal : Terminal} {data : Data}
    (stored : terminal.toData = .ok data) : data.Proper := by
  rcases bind_eq_ok.mp stored with ⟨pattern, patternStored, stored⟩
  cases stored
  refine .record (by simp [typeField]) ?_
  simp only [List.forall_mem_cons]
  exact ⟨.text _, Pattern.proper_toData patternStored, .int _, .text _,
    fun _ none => by cases none⟩

end Lalr
