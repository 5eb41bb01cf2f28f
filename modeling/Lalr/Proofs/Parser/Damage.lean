import Lalr.Proofs.Parser.Settings

/-!
# Damaged artifacts

Whatever key is lost from a stored parser that can be loaded, what is left can be loaded as
well, or the failure says what is missing or wrong. There are exceptions: without the keys
that tell objects and references from records, what is read is something else than what is
then used. The same goes for the flags of a pattern and for its width, which say under which
circumstances it can be used, and for the flags for all terminals, unless they are stored
in both of their places.
-/

namespace Lalr

namespace Parser

variable {source source' data data' : Data} {key : String} {path : List String}
variable {fields chosen : List (String × Data)} {lexer lexer' : Stored}
variable {before after : Workspace} {parser : Parser}

/-! ## Loading -/

/-- What a parser is loaded from, step by step. -/
structure Parts (source : Data) where
  data : Data
  memo : Memo
  frontend : Data
  lexerData : Data
  lexer : Stored
  tableData : Data
  table : Table State
  rulesData : Data
  storedRules : Stored
  fields : List (String × Data)
  chosen : List (String × Data)
  options : Options
  storedTerminals : List Stored
  terminals : List Terminal
  ruleItems : List Stored
  rules : List Rule
  storedIgnored : List Stored
  ignored : List Data
  data_found : source.field? "data" = some data
  memo_read : Stored.readMemo ((source.field? "memo").getD (.record [])) = .ok memo
  frontend_found : data.field? "parser" = some frontend
  lexerData_found : frontend.field? "lexer_conf" = some lexerData
  lexer_read : Stored.read memo [.lexerSettings] lexerData = .ok lexer
  tableData_found : frontend.field? "parser" = some tableData
  table_read : Table.read memo tableData = .ok table
  rulesData_found : data.field? "rules" = some rulesData
  rules_read : Stored.read memo [.rule] rulesData = .ok storedRules
  fields_read : storedFields data = .ok fields
  isLexer : lexer.isObject [.lexerSettings] = true
  lexer_chosen : withLexer lexer fields = .ok chosen
  options_made : Options.MadeOf (withFlags (heldFlags lexer) chosen) options
  starts_known : options.starts.forM (checkStart table) = .ok ()
  terminals_found : itemsOf lexer "terminals" = .ok storedTerminals
  terminals_read : storedTerminals.mapM Stored.toTerminal = .ok terminals
  rules_listed : storedRules.elements? = some ruleItems
  rules_made : ruleItems.mapM Stored.toRule = .ok rules
  ignored_found : itemsOf lexer "ignore" = .ok storedIgnored
  ignored_read : storedIgnored.mapM Stored.toData = .ok ignored

/-- The last steps of loading, once the settings of the lexer, the rules, the table and the options
have been read. -/
def putTogether (lexer rules : Stored) (table : Table State) (options : Options) : Run Parser := do
  let stored ← Run.lift (itemsOf lexer "terminals")
  let terminals ← Run.lift (stored.mapM Stored.toTerminal)
  Run.lift (options.starts.forM (checkStart table))
  let rules ← Run.lift do
    match rules.elements? with
    | some rules => rules.mapM Stored.toRule
    | none => throw (.fault .wrongKind)
  let ignored ← Run.lift do (← itemsOf lexer "ignore").mapM Stored.toData
  make terminals rules table ignored options

/-- Loading without changes, step by step. -/
theorem load_nil (isRecord : source.isRecord = true) : load source [] = (do
    let data ← Run.lift (source.demand "data" "compiled grammar")
    let memo ← Run.lift (Stored.readMemo ((source.field? "memo").getD (.record [])))
    let frontend ← Run.lift (data.demand "parser" "compiled grammar")
    let lexer ← Run.lift do
      Stored.read memo [.lexerSettings] (← frontend.demand "lexer_conf" "parser")
    let table ← Run.lift do Table.read memo (← frontend.demand "parser" "parser")
    let rules ← Run.lift do Stored.read memo [.rule] (← data.demand "rules" "compiled grammar")
    let settings ← Run.lift (storedSettings data lexer)
    let options ← Options.ofSettings settings true
    putTogether lexer rules table options) := by
  have none : sortedSet [] = [] := by simp [sortedSet]
  unfold load
  simp only [isRecord, if_true, List.map_nil, List.filter_nil, none, List.foldl_nil]
  simp only [Run.forIn_lift]
  rfl

/-- A parser that is loaded is made of its parts. -/
theorem exists_parts (loaded : (load source []).Yields before parser after) :
    ∃ parts : Parts source, ∃ between,
      (make parts.terminals parts.rules parts.table parts.ignored parts.options).Yields between
        parser after := by
  cases isRecord : source.isRecord with
  | false =>
      unfold load at loaded
      simp only [isRecord] at loaded
      rcases Run.yields_bind.mp loaded with ⟨_, _, failed, _⟩
      exact absurd failed Run.yields_throw
  | true =>
      rw [load_nil isRecord] at loaded
      simp only [putTogether, Run.yields_bind, Run.yields_lift] at loaded
      rcases loaded with
        ⟨data, _, ⟨dataFound, rfl⟩, memo, _, ⟨memoRead, rfl⟩, frontend, _,
          ⟨frontendFound, rfl⟩, lexer, _, ⟨lexed, rfl⟩, table, _, ⟨tabled, rfl⟩,
          storedRules, _, ⟨ruled, rfl⟩, settings, _, ⟨settled, rfl⟩, options, _, made,
          storedTerminals, _, ⟨terminalsFound, rfl⟩, terminals, _, ⟨terminalsRead, rfl⟩, _,
          _, ⟨started, rfl⟩, rules, _, ⟨rulesMade, rfl⟩, ignored, _,
          ⟨ignores, rfl⟩, done⟩
      rcases bind_eq_ok.mp lexed with ⟨lexerData, lexerFound, lexerRead⟩
      rcases bind_eq_ok.mp tabled with ⟨tableData, tableFound, tableRead⟩
      rcases bind_eq_ok.mp ruled with ⟨rulesData, rulesFound, rulesRead⟩
      rcases storedSettings_eq_ok.mp settled with
        ⟨fields, chosen, stored, isLexer, chooses, rfl⟩
      rcases bind_eq_ok.mp ignores with ⟨storedIgnored, ignoredFound, ignoredRead⟩
      cases listed : storedRules.elements? with
      | none =>
          rw [listed] at rulesMade
          cases rulesMade
      | some ruleItems =>
          rw [listed] at rulesMade
          exact ⟨{
            data, memo, frontend, lexerData, lexer, tableData, table, rulesData, storedRules,
            fields, chosen, options, storedTerminals, terminals, ruleItems, rules, storedIgnored,
            ignored
            data_found := Data.demand_eq_ok.mp dataFound
            memo_read := memoRead
            frontend_found := Data.demand_eq_ok.mp frontendFound
            lexerData_found := Data.demand_eq_ok.mp lexerFound
            lexer_read := lexerRead
            tableData_found := Data.demand_eq_ok.mp tableFound
            table_read := tableRead
            rulesData_found := Data.demand_eq_ok.mp rulesFound
            rules_read := rulesRead
            fields_read := stored
            isLexer
            lexer_chosen := chooses
            options_made := Options.madeOf_of_ofKnown (Options.ofSettings_yields made)
            starts_known := started
            terminals_found := terminalsFound
            terminals_read := terminalsRead
            rules_listed := listed
            rules_made := rulesMade
            ignored_found := ignoredFound
            ignored_read := ignoredRead }, _, done⟩

/-- What is left of a memo holds what is left of its objects, and so does no memo at all. -/
theorem memo_fair (pruned : source.Pruned source') (indexed : ∀ entries,
      source.field? "memo" = some (.record entries) → Stored.Indexed entries) {memo : Memo}
    (went : Stored.readMemo ((source.field? "memo").getD (.record [])) = .ok memo) :
    Fair (Stored.MemoWorn memo) (Stored.readMemo ((source'.field? "memo").getD (.record []))) := by
  cases found' : source'.field? "memo" with
  | none =>
      refine .ok ⟨fun index stored known => ?_, fun _ _ none => by cases none⟩
      cases found : source.field? "memo" with
      | none =>
          rw [found] at went
          cases went
          cases known
      | some stored =>
          rw [found] at went
          cases stored with
          | record entries =>
              exact Stored.objects_of_readMemo (indexed entries found) went _ _ known
          | _ => cases went
  | some stored' =>
      rcases pruned.exists_field? found' with ⟨stored, found, left⟩
      rw [found] at went
      cases left with
      | @record entries entries' each =>
          exact Stored.readMemo_fair (indexed entries found) each went
      | list => cases went
      | scalar _ noRecord =>
          cases stored' with
          | record => cases noRecord
          | _ => cases went

/-- A sequence in lexer settings is what is left of it, or empty if the settings can do without. -/
theorem exists_itemsOf (worn : Stored.Worn lexer lexer')
    (isLexer : lexer.isObject [.lexerSettings] = true) {name : String} {items : List Stored}
    (went : itemsOf lexer name = .ok items)
    (sequence : name ∈ ObjectKind.lexerSettings.optional →
      Stored.fallback .lexerSettings name = .list []) :
    ∃ items', itemsOf lexer' name = .ok items' ∧ (Stored.Worn (.list items) (.list items') ∨
      name ∈ ObjectKind.lexerSettings.optional ∧ items' = []) := by
  rcases Stored.eq_object_of_isObject isLexer with ⟨settings, rfl⟩
  unfold itemsOf at went ⊢
  split at went
  next found =>
    cases went
    rcases Option.bind_eq_some_iff.mp found with ⟨value, held, listed⟩
    cases worn with
    | @object _ _ settings' each =>
        rcases each.exists_assoc? held with ⟨value', held', ⟨left, _⟩ | ⟨optional, rfl⟩⟩
        · rcases left.elements listed with ⟨items', listed', left⟩
          have found' : ((Stored.object .lexerSettings settings').field? name).bind
              Stored.elements? = some items' :=
                Option.bind_eq_some_iff.mpr ⟨value', held', listed'⟩
          exact ⟨items', by rw [found'], .inl left⟩
        · have found' : ((Stored.object .lexerSettings settings').field? name).bind
              Stored.elements? = some [] :=
            Option.bind_eq_some_iff.mpr ⟨_, held', by rw [sequence optional]; rfl⟩
          exact ⟨[], by rw [found'], .inr ⟨optional, rfl⟩⟩
  next => cases went

theorem asText?_of_toData {stored : Stored} {data : Data} (went : stored.toData = .ok data)
    (text : data.asText?.isSome = true) : stored.asText?.isSome = true := by
  cases stored with
  | plain _ =>
      cases went
      cases data <;> first | rfl | cases text
  | list _ =>
      rcases bind_eq_ok.mp went with ⟨_, _, went⟩
      cases went
      cases text
  | record _ =>
      rcases bind_eq_ok.mp went with ⟨_, _, went⟩
      cases went
      cases text
  | object _ _ =>
      rcases bind_eq_ok.mp went with ⟨_, _, went⟩
      rcases bind_eq_ok.mp went with ⟨_, _, went⟩
      cases went
      cases text

/-- What is left of texts are texts. -/
theorem texts_left {items items' : List Stored} (worn : Stored.Worn (.list items) (.list items'))
    (texts : ∀ item ∈ items, item.asText?.isSome = true) :
    ∀ item ∈ items', item.asText?.isSome = true := by
  intro item' listed'
  cases worn with
  | list each =>
      rcases exists_of_mem_right each listed' with ⟨item, listed, left⟩
      rw [left.asText?]
      exact texts item listed
  | texts =>
      rcases List.mem_map.mp listed' with ⟨text, _, rfl⟩
      rfl

/-- What is ignored is still named by texts. -/
theorem ignored_fair (worn : Stored.Worn lexer lexer')
    (isLexer : lexer.isObject [.lexerSettings] = true) {storedIgnored : List Stored}
    {ignored : List Data} (found : itemsOf lexer "ignore" = .ok storedIgnored)
    (read : storedIgnored.mapM Stored.toData = .ok ignored)
    (texts : ∀ name ∈ ignored, name.asText?.isSome = true) :
    Fair (fun ignored' => ∀ name ∈ ignored', name.asText?.isSome = true)
      (itemsOf lexer' "ignore" >>= fun items => items.mapM Stored.toData) := by
  rcases exists_itemsOf worn isLexer found fun _ => rfl with ⟨items', found', left⟩
  have texts' : ∀ item ∈ items', item.asText?.isSome = true := by
    rcases left with left | ⟨_, rfl⟩
    · refine texts_left left fun item listed => ?_
      rcases exists_of_mem_left (mapM_eq_ok read) listed with ⟨name, named, read⟩
      exact asText?_of_toData read (texts name named)
    · simp
  have known {item : Stored} {name : Data} (text : item.asText?.isSome = true)
      (read : item.toData = .ok name) : name.asText?.isSome = true := by
    rcases Option.isSome_iff_exists.mp text with ⟨text, given⟩
    rw [Stored.asText?_eq_some given] at read
    cases read
    rfl
  have exists_names : ∃ names, items'.mapM Stored.toData = .ok names := by
    refine exists_mapM fun item listed => ?_
    rcases Option.isSome_iff_exists.mp (texts' item listed) with ⟨text, given⟩
    exact ⟨.text text, by rw [Stored.asText?_eq_some given]; rfl⟩
  rcases exists_names with ⟨names, named⟩
  refine .of_ok (bind_eq_ok.mpr ⟨items', found', named⟩) fun name listed => ?_
  rcases exists_of_mem_right (mapM_eq_ok named) listed with ⟨item, member, read⟩
  exact known (texts' item member) read

/-- What is left of the settings can be read, up to a report of which of them is wrong. -/
theorem storedSettings_fair (pruned : data.Pruned data') (worn : Stored.Worn lexer lexer')
    (isLexer : lexer.isObject [.lexerSettings] = true) (stored : storedFields data = .ok fields)
    {kind : Data} (named : lexer.field? "lexer_type" = some (.plain kind)) :
    Fair (fun settings' => ∃ fields' chosen', storedFields data' = .ok fields' ∧
        lexer'.isObject [.lexerSettings] = true ∧ withLexer lexer' fields' = .ok chosen' ∧
        settings' = asSettings (withFlags (heldFlags lexer') chosen'))
      (storedSettings data' lexer') := by
  have isLexer' : lexer'.isObject [.lexerSettings] = true := worn.isObject.trans isLexer
  have fair : Fair (fun _ => True) (storedSettings data' lexer') := by
    rw [storedSettings_eq]
    refine (storedFields_fair pruned stored).bind fun fields' _ => ?_
    rw [if_pos isLexer']
    rcases exists_withLexer worn isLexer named fields' with ⟨chosen', chooses⟩
    exact (Fair.fine chooses).bind fun _ _ => .ok trivial
  exact fair.known.imp fun _ went => storedSettings_eq_ok.mp went.1

theorem assoc?_settings (stored : storedFields data = .ok fields)
    (chooses : withLexer lexer fields = .ok chosen) {name : String} (noLexer : name ≠ "lexer")
    (noFlags : name ≠ "g_regex_flags") (flags : Data) :
    assoc? (withFlags flags chosen) name = data.dig ["options", name] := by
  rw [assoc?_withFlags noFlags, assoc?_withLexer chooses noLexer, storedFields_dig stored]

theorem settingsLeft {fields' chosen' : List (String × Data)} (pruned : data.Pruned data')
    (stored : storedFields data = .ok fields) (chooses : withLexer lexer fields = .ok chosen)
    (stored' : storedFields data' = .ok fields') (chooses' : withLexer lexer' fields' = .ok chosen')
    (flags flags' : Data) : SettingsLeft (withFlags flags chosen) (withFlags flags' chosen') := by
  intro name value' noLexer noFlags found'
  rw [assoc?_settings stored' chooses' noLexer noFlags] at found'
  rw [assoc?_settings stored chooses noLexer noFlags]
  exact pruned.exists_dig found'

/-- The flags of the options that are made of stored settings. -/
theorem flags_of_madeOf {options : Options} (stored : storedFields data = .ok fields)
    (chooses : withLexer lexer fields = .ok chosen) (there : source.field? "data" = some data)
    (made : Options.MadeOf (withFlags (heldFlags lexer) chosen) options) :
    options.flags = flagsOf (source.dig optionFlags) (heldFlags lexer) := by
  rw [made.flags, flags_withFlags, assoc?_withLexer chooses (by decide), storedFields_dig stored]
  simp only [optionFlags, Data.dig, there, Option.bind_some]
  rfl

theorem isRecord_of_pruned (pruned : source.Pruned source')
    (there : source.field? "data" = some data) :
    source'.isRecord = true := by
  cases pruned with
  | scalar =>
      cases source with
      | record => rfl
      | _ => cases there
  | list => cases there
  | record => rfl

/-- The settings of the lexer are found again, and what is read is what is left of them. -/
theorem lexer_fair {memo memo' : Memo} (memoWorn : Stored.MemoWorn memo memo')
    (pruned : data.Pruned data') {lexerData : Data}
    (found : data.field? "lexer_conf" = some lexerData)
    (read : Stored.read memo [.lexerSettings] lexerData = .ok lexer) :
    Fair (fun lexer' => lexer.Worn lexer' ∧ ∃ lexerData',
      data'.field? "lexer_conf" = some lexerData' ∧
        Stored.read memo' [.lexerSettings] lexerData' = .ok lexer')
      (data'.demand "lexer_conf" "parser" >>= Stored.read memo' [.lexerSettings]) := by
  refine (Data.demand_fair pruned (Data.demand_eq_ok.mpr found)).known.bind
    fun lexerData' ⟨found', left⟩ => ?_
  exact (Stored.read_fair memoWorn left _ _ read).known.imp fun lexer' ⟨read', worn⟩ =>
    ⟨worn, lexerData', Data.demand_eq_ok.mp found', read'⟩

/-- The lexer settings hold the flags that stand at the end of the route to them. -/
theorem holds_dig {memo : Memo} (objects : ∀ index stored, assoc? memo index = some stored →
      stored.isObject Stored.memoKinds = true) {frontend lexerData : Data}
    (data_found : source.field? "data" = some data)
    (frontend_found : data.field? "parser" = some frontend)
    (lexerData_found : frontend.field? "lexer_conf" = some lexerData)
    (read : Stored.read memo [.lexerSettings] lexerData = .ok lexer)
    (isLexer : lexer.isObject [.lexerSettings] = true) :
    source.dig ["data", "parser", "lexer_conf"] = some lexerData ∧
      Holds (source.dig lexerFlags) (heldFlags lexer) := by
  have holds := holds_of_read objects read isLexer
  constructor
  · simp [Data.dig, data_found, frontend_found, lexerData_found]
  · simpa [lexerFlags, Data.dig, data_found, frontend_found, lexerData_found] using holds

/-- The options that are left are the same apart from what a parser can be made without. -/
theorem Parts.optionsLeft (parts : Parts source) (lacks : source.Lacks key path source')
    (pruned : source.Pruned source')
    (twice : LeadsToFlags key path → StatesFlagsTwice source) {memo' : Memo}
    (memoWorn : Stored.MemoWorn parts.memo memo') {frontend' lexerData' : Data}
    (data_found' : source'.field? "data" = some data')
    (frontend_found' : data'.field? "parser" = some frontend')
    (lexerData_found' : frontend'.field? "lexer_conf" = some lexerData')
    (lexer_read' : Stored.read memo' [.lexerSettings] lexerData' = .ok lexer')
    (isLexer' : lexer'.isObject [.lexerSettings] = true)
    (settings : SettingsLeft (withFlags (heldFlags parts.lexer) parts.chosen)
      (withFlags (heldFlags lexer') chosen)) (stored' : storedFields data' = .ok fields)
    (chooses' : withLexer lexer' fields = .ok chosen) {options' : Options}
    (made' : Options.MadeOf (withFlags (heldFlags lexer') chosen) options') :
    parts.options.LeftOf options' := by
  refine parts.options_made.left made' settings ?_
  rcases holds_dig memoWorn.objects parts.data_found parts.frontend_found
      parts.lexerData_found parts.lexer_read parts.isLexer with
    ⟨_, holds⟩
  rcases holds_dig memoWorn.objects' data_found' frontend_found'
      lexerData_found' lexer_read' isLexer' with
    ⟨there', holds'⟩
  exact flags_left lacks pruned twice there' holds holds'
    (flags_of_madeOf parts.fields_read parts.lexer_chosen parts.data_found parts.options_made)
    (flags_of_madeOf stored' chooses' data_found' made')

/-- What is left of the parts of a parser that can be made is a parser, or it is reported what is
wrong with it. -/
theorem Parts.putTogether_fair (parts : Parts source)
    (made : (make parts.terminals parts.rules parts.table parts.ignored parts.options).Yields before
      parser after)
    (worn : parts.lexer.Worn lexer') {storedRules' : Stored}
    (rulesWorn : parts.storedRules.Worn storedRules') {options' : Options}
    (optionsLeft : parts.options.LeftOf options') (table' : Table State) :
    (putTogether lexer' storedRules' table' options').Fair fun _ => True := by
  unfold putTogether
  rcases exists_itemsOf worn parts.isLexer parts.terminals_found fun optional =>
      absurd optional (by decide) with
    ⟨storedTerminals', terminalsFound', terminalsWorn⟩
  have terminalsWorn := terminalsWorn.resolve_right fun none => absurd none.1 (by decide)
  rw [Run.lift_bind_of_ok terminalsFound']
  rcases Stored.exists_mapM_worn
      (fun _ _ none => by cases none) (fun _ _ _ worn read => Stored.exists_toTerminal worn read)
      terminalsWorn parts.terminals_read with
    ⟨terminals', terminalsRead', terminalsLeft⟩
  rw [Run.lift_bind_of_ok terminalsRead']
  have starts := texts_left_of_checkStart optionsLeft parts.starts_known
  refine .bind (.lift (Fair.forM fun start member => checkStart_fair (starts start member) table'))
    fun _ _ => ?_
  rcases rulesWorn.elements parts.rules_listed with ⟨ruleItems', listed', rulesWorn⟩
  rcases Stored.exists_mapM_worn
      (fun _ _ none => by cases none) (fun _ _ _ worn made => Stored.exists_toRule worn made)
      rulesWorn parts.rules_made with
    ⟨rules', rulesMade', rulesLeft⟩
  rw [listed']
  rw [Run.lift_bind_of_ok rulesMade']
  refine .bind (.lift (ignored_fair worn parts.isLexer parts.ignored_found parts.ignored_read
    (texts_of_make made))) fun ignored' texts => ?_
  exact make_fair made terminalsLeft rulesLeft optionsLeft texts table'

/-- Whatever dispensable key is lost from a stored parser that can be loaded, what is left can be
loaded, or it is reported what is wrong with it: if the flags for all terminals are stored in both
places, or the key does not lead to them. -/
theorem load_lacking (loaded : (load source []).Yields before parser after)
    (indexed : ∀ entries, source.field? "memo" = some (.record entries) →
      Stored.Indexed entries)
    (lacks : source.Lacks key path source') (dispensable : Data.Dispensable key path)
    (twice : LeadsToFlags key path → StatesFlagsTwice source) :
    (load source' []).Fair fun _ => True := by
  have pruned := lacks.pruned dispensable
  rcases exists_parts loaded with ⟨parts, between, made⟩
  rw [load_nil (isRecord_of_pruned pruned parts.data_found)]
  -- step by step: what is read is what is left of what was read before
  refine .bind (.lift (Data.demand_fair pruned (Data.demand_eq_ok.mpr parts.data_found)).known)
    fun data' ⟨data_found', left⟩ => ?_
  refine .bind (.lift (memo_fair pruned indexed parts.memo_read)) fun memo' memoWorn => ?_
  refine .bind (.lift (Data.demand_fair left (Data.demand_eq_ok.mpr parts.frontend_found)).known)
    fun frontend' ⟨frontend_found', frontendLeft⟩ => ?_
  refine .bind (.lift (lexer_fair memoWorn frontendLeft parts.lexerData_found parts.lexer_read))
    fun lexer' ⟨worn, lexerData', lexerData_found', lexer_read'⟩ => ?_
  have tables : Fair (fun _ => True) (frontend'.demand "parser" "parser" >>= Table.read memo') :=
    (Data.demand_fair frontendLeft (Data.demand_eq_ok.mpr parts.tableData_found)).bind
      fun _ left => Table.read_fair memoWorn left parts.table_read
  refine .bind (.lift tables) fun table' _ => ?_
  have ruled : Fair parts.storedRules.Worn
      (data'.demand "rules" "compiled grammar" >>= Stored.read memo' [.rule]) :=
    (Data.demand_fair left (Data.demand_eq_ok.mpr parts.rulesData_found)).bind
      fun _ left => Stored.read_fair memoWorn left _ _ parts.rules_read
  refine .bind (.lift ruled) fun storedRules' rulesWorn => ?_
  rcases exists_lexerType parts.lexer_chosen parts.options_made.contextual with ⟨kind, named⟩
  refine .bind (.lift (storedSettings_fair left worn parts.isLexer parts.fields_read named))
    fun settings' ⟨fields', chosen', stored', isLexer', chooses', same⟩ => ?_
  subst same
  have settings := settingsLeft left parts.fields_read parts.lexer_chosen stored' chooses'
    (heldFlags parts.lexer) (heldFlags lexer')
  refine .bind (Options.ofSettings_fair (parts.options_made.exists_starts settings))
    fun options' made' => ?_
  exact parts.putTogether_fair made worn rulesWorn (parts.optionsLeft lacks pruned twice memoWorn
    (Data.demand_eq_ok.mp data_found') (Data.demand_eq_ok.mp frontend_found') lexerData_found'
    lexer_read' isLexer' settings stored' chooses' made') table'

/-! ## A stored parser of a single letter -/

/-- The record of an object of a type. -/
def typed (type : String) (fields : List (String × Data)) : Data :=
  .record (fields ++ [("__type__", .text type)])

/-- A terminal and a rule. -/
def savedMemo : List (String × Data) :=
  [("0", typed "TerminalDef" [("name", .text "A"), ("priority", .int 0),
      ("pattern", typed "PatternRE" [("value", .text "a"), ("_width", .list [.int 1, .int 1])])]),
    ("1", typed "Rule" [("origin", typed "NonTerminal" [("name", .text "start")]),
      ("expansion", .list [typed "Terminal" [("name", .text "A")]])])]

/-- The letter is taken, the rule is applied at the end, and that is all. -/
def savedTable : Data :=
  .record [
    ("tokens", .record [("0", .text "A"), ("1", .text "$END"), ("2", .text "start")]),
    ("states", .record [
      ("0", .record [("0", .list [.int 0, .int 1]), ("2", .list [.int 0, .int 2])]),
      ("1", .record [("1", .list [.int 1, .record [("@", .int 1)]])]),
      ("2", .record [])]),
    ("start_states", .record [("start", .int 0)]),
    ("end_states", .record [("start", .int 2)])]

def savedLexer : List (String × Data) :=
  [("terminals", .list [.record [("@", .int 0)]]), ("lexer_type", .text "basic"),
    ("g_regex_flags", .int 2), ("__type__", .text "LexerConf")]

/-- What is stored of the parser, where the settings of its lexer are given. -/
def saved (lexer : List (String × Data)) : Data :=
  .record [
    ("data", .record [
      ("parser", .record [("lexer_conf", .record lexer), ("parser", savedTable)]),
      ("rules", .list [.record [("@", .int 1)]]),
      ("options", .record [("start", .list [.text "start"]), ("g_regex_flags", .int 2)])]),
    ("memo", .record savedMemo)]

theorem saved_lacks {settings : List (String × Data)} {key : String}
    (held : key ∈ settings.map (·.1)) :
    (saved settings).Lacks key ["data", "parser", "lexer_conf"]
      (saved (settings.filter fun field => field.1 ≠ key)) :=
  .field [] _ (.field [] _ (.field [] _ (.here held)))

theorem saved_loaded :
    ∃ parser after, (load (saved savedLexer) []).Yields {} parser after := by
  have loads : ((load (saved savedLexer) []).run.run {} :
      Except Failure Parser × Workspace).1.toOption.isSome = true := by decide +kernel
  cases went : ((load (saved savedLexer) []).run.run {} : Except Failure Parser × Workspace) with
  | mk answer after =>
      rw [went] at loads
      cases answer with
      | ok parser => exact ⟨parser, after, went⟩
      | error => cases loads

theorem load_lacking_flags :
    Stored.Indexed savedMemo ∧ StatesFlagsTwice (saved savedLexer) ∧
      Data.Dispensable "g_regex_flags" ["data", "parser", "lexer_conf"] ∧
      (∃ parser after, (load (saved savedLexer) []).Yields {} parser after) ∧
      (load (saved (savedLexer.filter fun field => field.1 ≠ "g_regex_flags")) []).Fair
        fun _ => True := by
  have indexed : Stored.Indexed savedMemo := by
    constructor
    · decide
    · decide
  have twice : StatesFlagsTwice (saved savedLexer) := ⟨.int 2, rfl, rfl, rfl⟩
  have dispensable : Data.Dispensable "g_regex_flags" ["data", "parser", "lexer_conf"] := by
    unfold Data.Dispensable
    decide
  rcases saved_loaded with ⟨parser, after, loaded⟩
  refine ⟨indexed, twice, dispensable, ⟨parser, after, loaded⟩, ?_⟩
  refine load_lacking loaded (fun entries found => ?_) (saved_lacks (by decide)) dispensable
    fun _ => twice
  cases found
  exact indexed

/-- Lexer settings without their type are no lexer settings, which nothing reports. -/
theorem load_without_type :
    (∃ parser after, (load (saved savedLexer) []).Yields {} parser after) ∧
      (saved savedLexer).Lacks "__type__" ["data", "parser", "lexer_conf"]
        (saved (savedLexer.filter fun field => field.1 ≠ "__type__")) ∧
      ((load (saved (savedLexer.filter fun field => field.1 ≠ "__type__")) []).run.run {}).1 =
        .error (.fault .missingPart) ∧
      ¬(load (saved (savedLexer.filter fun field => field.1 ≠ "__type__")) []).Fair
        fun _ => True := by
  have fails : ((load (saved (savedLexer.filter fun field => field.1 ≠ "__type__")) []).run.run
      {}).1 = .error (.fault .missingPart) := eq_error_of_failureOf? (by decide +kernel)
  refine ⟨saved_loaded, saved_lacks (by decide), fails, fun fair => ?_⟩
  have reported := fair {}
  rw [fails] at reported
  cases reported
  contradiction

end Parser

end Lalr
