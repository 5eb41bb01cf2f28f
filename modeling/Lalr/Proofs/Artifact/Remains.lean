import Lalr.Artifact.Tables
import Lalr.Proofs.Artifact.Salvaging

/-!
# What objects that have lost fields stand for

A rule of which something is lost is still a rule with as many symbols, and a terminal of
which something is lost still matches the same. A table has no use for most of what a rule
says, and what it needs to find is looked for and missed by name.
-/

namespace Lalr

/-- Whether a rule has as many symbols as another, and the same missing symbols or none. -/
structure Rule.LeftOf (rule rule' : Rule) : Prop where
  length : rule'.expansion.length = rule.expansion.length
  marks : rule'.options.emptyIndices = rule.options.emptyIndices ∨ rule'.options.emptyIndices = []

/-- Whether a terminal has the name of another and matches the same by the same means. -/
structure Terminal.LeftOf (terminal terminal' : Terminal) : Prop where
  name : terminal'.name = terminal.name
  pattern : ∃ raw, terminal'.pattern = { terminal.pattern with raw }

namespace Stored

variable {value value' : Stored} {kind : ObjectKind} {fields fields' : List (String × Stored)}

theorem Worn.asNumber? (worn : Worn value value') : value'.asNumber? = value.asNumber? := by
  cases worn <;> rfl

theorem Worn.elements_none (worn : Worn value value') (none : value.elements? = none) :
    value'.elements? = .none := by
  cases worn with
  | plain data => exact none
  | list | texts | record => cases none
  | object => rfl

/-- A field that the object cannot do without holds what is left of what it held. -/
theorem FieldsWorn.exists_needed (worn : FieldsWorn Worn fields fields' kind) {name : String}
    (needed : name ∉ kind.optional) (found : assoc? fields name = some value) :
    ∃ value', assoc? fields' name = some value' ∧ Worn value value' ∧
      Steady name value value' := by
  rcases worn.exists_assoc? found with ⟨value', found', ⟨left, steady⟩ | ⟨optional, _⟩⟩
  · exact ⟨value', found', left, steady⟩
  · exact absurd optional needed

theorem textField_worn (worn : FieldsWorn Worn fields fields' kind) {name text : String}
    (needed : name ∉ kind.optional) (went : (object kind fields).textField name = .ok text) :
    (object kind fields').textField name = .ok text := by
  cases found : assoc? fields name with
  | none =>
      simp only [textField, field?, found] at went
      cases went
  | some value =>
      rcases worn.exists_needed needed found with ⟨value', found', left, _⟩
      simp only [textField, field?, found, found', Option.bind_some, left.asText?] at went ⊢
      exact went

/-- What is left of a symbol is a symbol. -/
theorem exists_toSymbol (worn : Worn value value') {symbol : Symbol}
    (went : value.toSymbol = .ok symbol) : ∃ symbol', value'.toSymbol = .ok symbol' := by
  cases worn with
  | plain _ => exact ⟨symbol, went⟩
  | list | texts | record => cases went
  | @object kind fields fields' each =>
      cases kind with
      | terminalSymbol =>
          rcases bind_eq_ok.mp went with ⟨name, named, _⟩
          exact ⟨_, bind_eq_ok.mpr ⟨name, textField_worn each (by decide) named, rfl⟩⟩
      | nonterminalSymbol =>
          rcases bind_eq_ok.mp went with ⟨name, named, _⟩
          cases held : (object .nonterminalSymbol fields).textField "name" with
          | error _ =>
              rw [held] at named
              cases named
          | ok text =>
              refine ⟨_, bind_eq_ok.mpr ⟨text, ?_, rfl⟩⟩
              rw [textField_worn each (by decide) held]
              rfl
      | _ => cases went

/-- Where no text stands for anything, what is left of a sequence stands for things like those that
the sequence stood for. -/
theorem exists_mapM_worn {α : Type} {related : α → α → Prop}
    {convert : Stored → Except Failure α} {items items' : List Stored} {results : List α}
    (noText : ∀ text result, convert (ofText text) ≠ .ok result)
    (each : ∀ value value' result, Worn value value' → convert value = .ok result →
      ∃ result', convert value' = .ok result' ∧ related result result')
    (worn : Worn (.list items) (.list items')) (went : items.mapM convert = .ok results) :
    ∃ results', items'.mapM convert = .ok results' ∧
      List.Forall₂ related results results' := by
  have converts := mapM_eq_ok went
  cases worn with
  | list left =>
      refine mapM_related ?_
      clear went
      induction left generalizing results with
      | nil =>
          cases converts
          exact .nil
      | cons head _ ih =>
          cases converts with
          | cons first rest => exact .cons (each _ _ _ head first) (ih rest)
  | @texts texts texts' lost =>
      cases texts with
      | nil =>
          rw [List.sublist_nil.mp lost]
          cases went
          exact ⟨[], rfl, .nil⟩
      | cons text _ =>
          cases converts with
          | cons first _ => exact absurd first (noText text _)

/-- The items of a field of an object, if it has any. -/
def itemsIn (stored : Stored) (name : String) : List Stored :=
  ((stored.field? name).bind elements?).getD []

theorem itemsIn_worn (worn : FieldsWorn Worn fields fields' kind) {name : String}
    (needed : name ∉ kind.optional) :
    Worn (.list ((object kind fields).itemsIn name))
      (.list ((object kind fields').itemsIn name)) := by
  cases found : assoc? fields name with
  | none =>
      simp only [itemsIn, field?, found, worn.assoc?_eq_none found]
      exact .list .nil
  | some value =>
      rcases worn.exists_needed needed found with ⟨value', found', left, _⟩
      simp only [itemsIn, field?, found, found', Option.bind_some]
      cases items : value.elements? with
      | none =>
          rw [left.elements_none items]
          exact .list .nil
      | some items =>
          rcases left.elements items with ⟨items', known, left⟩
          rw [known]
          exact left

/-- What is left of the options of a rule are options with the same missing symbols or none. -/
theorem exists_toOptions (worn : Worn value value') {options : RuleOptions}
    (went : value.toOptions = .ok options) :
    ∃ options', value'.toOptions = .ok options' ∧
      (options'.emptyIndices = options.emptyIndices ∨ options'.emptyIndices = []) := by
  have kinded : value'.isObject [.ruleOptions] = value.isObject [.ruleOptions] := worn.isObject
  unfold toOptions at went ⊢
  rw [kinded]
  split at went
  next isOptions =>
    cases went
    rw [if_pos isOptions]
    refine ⟨_, rfl, ?_⟩
    cases worn with
    | @object kind fields fields' each =>
        show ((object kind fields').itemsIn "empty_indices").map holds =
          ((object kind fields).itemsIn "empty_indices").map holds ∨
            ((object kind fields').itemsIn "empty_indices").map holds = []
        cases found : assoc? fields "empty_indices" with
        | none =>
            simp [itemsIn, field?, found, each.assoc?_eq_none found]
        | some value =>
            rcases each.exists_assoc? found with
              ⟨value', found', ⟨_, steady⟩ | ⟨_, rfl⟩⟩
            · simp only [itemsIn, field?, found, found', Option.bind_some]
              exact .inl (steady.2 rfl)
            · simp only [itemsIn, field?, found']
              right
              cases kind <;> rfl
    | _ => cases isOptions
  next => cases went

theorem eq_object_of_isObject (object : value.isObject [kind] = true) :
    ∃ fields, value = .object kind fields := by
  cases value with
  | object kind' fields =>
      have same : kind' = kind := by simpa [isObject] using object
      exact ⟨fields, by rw [same]⟩
  | _ => cases object

/-- What a rule stands for: its origin and its symbols have to be there. -/
theorem toRuleWith_eq_ok {options : RuleOptions} {rule : Rule} :
    (object .rule fields).toRuleWith options = .ok rule ↔
      ∃ origin symbol symbols, assoc? fields "origin" = some origin ∧
        origin.toSymbol = .ok symbol ∧
        ((object .rule fields).itemsIn "expansion").mapM toSymbol = .ok symbols ∧
        rule = {
          origin := symbol.name
          expansion := symbols
          order := ((object .rule fields).numberField? "order").getD 0
          byname := ((object .rule fields).field? "alias").bind asText?
          options } := by
  have isRule : (object .rule fields).isObject [.rule] = true := rfl
  simp only [toRuleWith, isRule]
  cases found : (object .rule fields).field? "origin" with
  | none =>
      constructor
      · intro went
        cases went
      · rintro ⟨origin, _, _, found', _⟩
        cases found.symm.trans found'
  | some origin =>
      constructor
      · intro went
        rcases bind_eq_ok.mp went with ⟨symbol, named, went⟩
        rcases bind_eq_ok.mp went with ⟨symbols, expanded, went⟩
        cases went
        exact ⟨origin, symbol, symbols, found, named, expanded, rfl⟩
      · rintro ⟨_, symbol, symbols, found', named, expanded, rfl⟩
        cases found.symm.trans found'
        exact bind_eq_ok.mpr ⟨symbol, named, bind_eq_ok.mpr ⟨symbols, expanded, rfl⟩⟩

theorem isObject_of_toRuleWith {options : RuleOptions} {rule : Rule}
    (went : value.toRuleWith options = .ok rule) : ∃ fields, value = .object .rule fields := by
  by_cases isRule : value.isObject [.rule] = true
  · exact eq_object_of_isObject isRule
  · simp only [toRuleWith, isRule] at went
    cases went

/-- What is left of a rule is a rule with as many symbols. -/
theorem exists_toRuleWith (worn : Worn value value') {options : RuleOptions} {rule : Rule}
    (went : value.toRuleWith options = .ok rule) (options' : RuleOptions) :
    ∃ rule', value'.toRuleWith options' = .ok rule' ∧ rule'.options = options' ∧
      rule'.expansion.length = rule.expansion.length := by
  rcases isObject_of_toRuleWith went with ⟨fields, rfl⟩
  rcases toRuleWith_eq_ok.mp went with ⟨origin, symbol, symbols, found, named, expanded, rfl⟩
  cases worn with
  | @object _ _ fields' each =>
      rcases each.exists_needed (by decide) found with ⟨origin', found', left, _⟩
      rcases exists_toSymbol left named with ⟨symbol', named'⟩
      have any (value value' : Stored) (symbol : Symbol) (left : Worn value value')
          (named : value.toSymbol = .ok symbol) :
          ∃ symbol', value'.toSymbol = .ok symbol' ∧ True :=
        (exists_toSymbol left named).imp fun _ named => ⟨named, trivial⟩
      rcases exists_mapM_worn (fun _ _ none => by cases none) any
          (itemsIn_worn each (by decide)) expanded with
        ⟨symbols', expanded', pairs⟩
      exact ⟨_, toRuleWith_eq_ok.mpr ⟨origin', symbol', symbols', found', named',
        expanded', rfl⟩, rfl, pairs.length_eq.symm⟩

/-- What is left of a rule that a table needs is such a rule. -/
theorem exists_toTableRule (worn : Worn value value') {rule : Rule}
    (went : value.toTableRule = .ok rule) : ∃ rule', value'.toTableRule = .ok rule' := by
  rcases exists_toRuleWith worn went _ with ⟨rule', went', _⟩
  exact ⟨rule', went'⟩

/-- What is left of a rule is a rule with as many symbols, and the same missing symbols or none. -/
theorem exists_toRule (worn : Worn value value') {rule : Rule} (went : value.toRule = .ok rule) :
    ∃ rule', value'.toRule = .ok rule' ∧ rule.LeftOf rule' := by
  cases given : value.field? "options" with
  | none =>
      simp only [toRule, given] at went
      cases went
  | some stored =>
      simp only [toRule, given] at went
      rcases bind_eq_ok.mp went with ⟨options, optional, went⟩
      rcases isObject_of_toRuleWith went with ⟨fields, rfl⟩
      have same : rule.options = options := by
        rcases toRuleWith_eq_ok.mp went with ⟨_, _, _, _, _, _, rfl⟩
        rfl
      have left : ∃ stored' options', value'.field? "options" = some stored' ∧
          stored'.toOptions = .ok options' ∧
            (options'.emptyIndices = options.emptyIndices ∨ options'.emptyIndices = []) := by
        cases worn with
        | @object _ _ fields' each =>
            rcases each.exists_assoc? given with ⟨stored', given', ⟨left, _⟩ | ⟨_, rfl⟩⟩
            · rcases exists_toOptions left optional with ⟨options', optional', marks⟩
              exact ⟨stored', options', given', optional', marks⟩
            · exact ⟨_, {}, given', rfl, .inr rfl⟩
      rcases left with ⟨stored', options', given', optional', marks⟩
      rcases exists_toRuleWith worn went options' with ⟨rule', went', same', length⟩
      refine ⟨rule', ?_, length, ?_⟩
      · simp only [toRule, given']
        exact bind_eq_ok.mpr ⟨options', optional', went'⟩
      · rw [same, same']
        exact marks

/-- A field of which an object uses all, and which it cannot do without, is as it was. -/
theorem FieldsWorn.assoc?_steady (worn : FieldsWorn Worn fields fields' kind) {name : String}
    (steady : name = "flags" ∨ name = "_width") (needed : name ∉ kind.optional) :
    assoc? fields' name = assoc? fields name := by
  cases found : assoc? fields name with
  | none => exact worn.assoc?_eq_none found
  | some value =>
      rcases worn.exists_needed needed found with ⟨value', found', _, same⟩
      rw [found', same.1 steady]

/-- What is left of a pattern is the same pattern, but for how the grammar has it. -/
theorem exists_toPattern (worn : Worn value value') {pattern : Pattern}
    (went : value.toPattern = .ok pattern) :
    ∃ raw, value'.toPattern = .ok { pattern with raw } := by
  have made {kind : PatternKind} {text : String} {letters : List String} {raw : Option String}
      {width : Option Width} {pattern : Pattern}
      (went : Pattern.make kind text letters raw width = .ok pattern) (raw' : Option String) :
      Pattern.make kind text letters raw' width = .ok { pattern with raw := raw' } := by
    simp only [Pattern.make] at went ⊢
    split at went
    next none =>
      cases went
      rfl
    next => cases went
  cases worn with
  | @object kind fields fields' each =>
      cases kind with
      | literal =>
          have flags := each.assoc?_steady (.inl rfl) (by decide)
          rcases bind_eq_ok.mp went with ⟨text, given, went⟩
          refine ⟨((object .literal fields').field? "raw").bind asText?,
            bind_eq_ok.mpr ⟨text, textField_worn each (by decide) given, ?_⟩⟩
          simp only [field?, flags]
          exact made went _
      | expression =>
          have flags := each.assoc?_steady (.inl rfl) (by decide)
          have width := each.assoc?_steady (.inr rfl) (by decide)
          rcases bind_eq_ok.mp went with ⟨text, given, went⟩
          refine ⟨((object .expression fields').field? "raw").bind asText?,
            bind_eq_ok.mpr ⟨text, textField_worn each (by decide) given, ?_⟩⟩
          simp only [field?, flags, width] at went ⊢
          split at went
          next =>
            split at went
            next => exact made went _
            next => cases went
          next => exact made went _
      | _ =>
          rcases bind_eq_ok.mp went with ⟨_, _, went⟩
          cases went
  | _ => cases went

/-- What a terminal stands for: its name, its pattern and its priority have to be there. -/
theorem toTerminal_eq_ok {terminal : Terminal} :
    (object .terminal fields).toTerminal = .ok terminal ↔
      ∃ stored pattern priority name, assoc? fields "pattern" = some stored ∧
        (object .terminal fields).numberField? "priority" = some priority ∧
        (object .terminal fields).textField "name" = .ok name ∧ stored.toPattern = .ok pattern ∧
        terminal = { name, pattern, priority } := by
  have isTerminal : (object .terminal fields).isObject [.terminal] = true := rfl
  simp only [toTerminal, isTerminal]
  cases found : (object .terminal fields).field? "pattern" with
  | none =>
      constructor
      · intro went
        cases went
      · rintro ⟨stored, _, _, _, found', _⟩
        cases found.symm.trans found'
  | some stored =>
      cases ranked : (object .terminal fields).numberField? "priority" with
      | none =>
          constructor
          · intro went
            cases went
          · rintro ⟨_, _, _, _, _, none, _⟩
            cases none
      | some priority =>
          constructor
          · intro went
            rcases bind_eq_ok.mp went with ⟨name, named, went⟩
            rcases bind_eq_ok.mp went with ⟨pattern, patterned, went⟩
            cases went
            exact ⟨stored, pattern, priority, name, found, rfl, named, patterned, rfl⟩
          · rintro ⟨_, pattern, _, name, found', ⟨⟩, named, patterned, rfl⟩
            cases found.symm.trans found'
            exact bind_eq_ok.mpr ⟨name, named, bind_eq_ok.mpr ⟨pattern, patterned, rfl⟩⟩

/-- What is left of a terminal is a terminal that matches the same. -/
theorem exists_toTerminal (worn : Worn value value') {terminal : Terminal}
    (went : value.toTerminal = .ok terminal) :
    ∃ terminal', value'.toTerminal = .ok terminal' ∧ terminal.LeftOf terminal' := by
  have isTerminal : value.isObject [.terminal] = true := by
    by_contra other
    simp only [toTerminal, other] at went
    cases went
  rcases eq_object_of_isObject isTerminal with ⟨fields, rfl⟩
  rcases toTerminal_eq_ok.mp went with
    ⟨stored, pattern, priority, name, found, ranked, named, patterned, rfl⟩
  cases worn with
  | @object _ _ fields' each =>
      rcases each.exists_needed (by decide) found with ⟨stored', found', left, _⟩
      rcases exists_toPattern left patterned with ⟨raw, patterned'⟩
      have ranked' : ∃ priority', (object .terminal fields').numberField? "priority" =
          some priority' := by
        rcases Option.bind_eq_some_iff.mp ranked with ⟨ranking, given, known⟩
        rcases each.exists_assoc? given with ⟨ranking', given', ⟨left, _⟩ | ⟨_, rfl⟩⟩
        · exact ⟨priority, Option.bind_eq_some_iff.mpr
            ⟨ranking', given', left.asNumber? ▸ known⟩⟩
        · exact ⟨0, Option.bind_eq_some_iff.mpr ⟨_, given', rfl⟩⟩
      rcases ranked' with ⟨priority', ranked'⟩
      exact ⟨_, toTerminal_eq_ok.mpr ⟨stored', _, priority', name, found', ranked',
        textField_worn each (by decide) named, patterned', rfl⟩, rfl, raw, rfl⟩

end Stored
namespace Data

variable {data data' : Data}

theorem demand_eq_ok {name owner : String} {value : Data} :
    data.demand name owner = .ok value ↔ data.field? name = some value := by
  unfold demand
  cases data.field? name with
  | none => simp
  | some found => simp

/-- A field that has to be there is found, or it is said to be missing. -/
theorem demand_fair (pruned : data.Pruned data') {name owner : String} {value : Data}
    (went : data.demand name owner = .ok value) :
    Fair (fun value' => value.Pruned value') (data'.demand name owner) := by
  unfold demand at went ⊢
  split
  next value' found' =>
    rcases pruned.exists_field? found' with ⟨value, found, left⟩
    rw [found] at went
    cases went
    exact .ok left
  next => exact .error trivial

/-- Going through what is left of some fields is fair if each step is where it went well before. -/
theorem mapM_fields_fair {α β : Type} {step : String × Data → Except Failure α}
    {step' : String × Data → Except Failure β} {fields fields' : List (String × Data)}
    {results : List α} (pruned : FieldsPruned Pruned fields fields')
    (each : ∀ name value value' result, value.Pruned value' →
      step (name, value) = .ok result →
      Fair (fun _ => True) (step' (name, value')))
    (went : fields.mapM step = .ok results) : Fair (fun _ => True) (fields'.mapM step') := by
  refine Fair.mapM_each fun field' listed' => ?_
  rcases pruned.exists_of_mem listed' with ⟨field, listed, name, left⟩
  rcases exists_of_mem_left (mapM_eq_ok went) listed with ⟨result, _, went⟩
  exact each field'.1 field.2 field'.2 result left (name ▸ went)

end Data

namespace Table

variable {memo memo' : Memo} {data data' : Data}

theorem fieldsOf_eq_ok {fields : List (String × Data)} (went : fieldsOf data = .ok fields) :
    data = .record fields := by
  cases data with
  | record _ =>
      cases went
      rfl
  | _ => cases went

theorem fieldsOf_fair (pruned : data.Pruned data') {fields : List (String × Data)}
    (went : fieldsOf data = .ok fields) :
    Fair (Data.FieldsPruned Data.Pruned fields) (fieldsOf data') := by
  cases fieldsOf_eq_ok went
  cases pruned with
  | scalar _ noRecord => cases noRecord
  | record each => exact .ok each

theorem readName_fair (pruned : data.Pruned data') {name : String}
    (went : readName data = .ok name) :
    Fair (fun _ => True) (readName data') := by
  cases pruned with
  | scalar => exact .fine went
  | list | record => cases went

theorem readState_fair (pruned : data.Pruned data') {state : State}
    (went : readState data = .ok state) : Fair (fun _ => True) (readState data') := by
  cases pruned with
  | scalar => exact .fine went
  | list | record => exact .ok trivial

theorem readSymbols_fair (pruned : data.Pruned data') {symbols : List (Int × String)}
    (went : readSymbols data = .ok symbols) : Fair (fun _ => True) (readSymbols data') := by
  cases pruned with
  | scalar => exact .fine went
  | list each =>
      rcases bind_eq_ok.mp went with ⟨names, named, _⟩
      refine (Fair.mapM_each fun item' listed' => ?_).bind fun _ _ => .ok trivial
      rcases exists_of_mem_right each listed' with ⟨item, listed, left⟩
      rcases exists_of_mem_left (mapM_eq_ok named) listed with ⟨name, _, named⟩
      exact readName_fair left named
  | record each =>
      rcases bind_eq_ok.mp went with ⟨_, fields, went⟩
      cases fields
      rcases bind_eq_ok.mp went with ⟨entries, went, _⟩
      refine (Data.mapM_fields_fair each (fun index value value' result left went => ?_)
        went).bind fun _ _ => .ok trivial
      simp only at went ⊢
      split at went
      next number _ =>
        rcases bind_eq_ok.mp went with ⟨name, named, _⟩
        exact (readName_fair left named).bind fun _ _ => .ok trivial
      next => cases went

theorem readSymbol_fair (symbols : List (Int × String)) (index : String) :
    Fair (fun _ => True) (readSymbol symbols index) := by
  unfold readSymbol
  split
  · exact .ok trivial
  · exact .error trivial

/-- What is left of a pair is a pair. The names of a record are no numbers, so what begins with a
number is a list. -/
theorem exists_pair_left (pruned : data.Pruned data') {kind argument : Data}
    (found : data.elements? = some [kind, argument]) (noText : kind.asText? = none) :
    ∃ kind' argument', data'.elements? = some [kind', argument'] ∧ kind.Pruned kind' ∧
      argument.Pruned argument' := by
  cases pruned with
  | scalar => exact ⟨kind, argument, found, .refl kind, .refl argument⟩
  | list each =>
      cases found
      cases each with
      | cons first rest =>
          cases rest with
          | cons second rest =>
              cases rest
              exact ⟨_, _, rfl, first, second⟩
  | @record fields fields' =>
      have named : kind ∈ fields.map fun entry => Data.text entry.1 := by
        rw [Option.some.inj found]
        exact List.mem_cons_self
      rcases List.mem_map.mp named with ⟨entry, _, rfl⟩
      cases noText

/-- What is left of an action is an action, or it is found to be none. -/
theorem readAction_fair (worn : Stored.MemoWorn memo memo') (pruned : data.Pruned data')
    {action : Action State} (went : readAction memo data = .ok action) :
    Fair (fun _ => True) (readAction memo' data') := by
  unfold readAction at went
  split at went
  next kind argument found =>
    have noText : kind.asText? = none := by
      cases kind with
      | text => cases went
      | _ => rfl
    rcases exists_pair_left pruned found noText with ⟨kind', argument', found', leftKind, left⟩
    simp only [readAction, found', leftKind.isNumber]
    split at went
    next shifts =>
      rw [if_pos shifts]
      rcases bind_eq_ok.mp went with ⟨state, read, _⟩
      exact (readState_fair left read).bind fun _ _ => .ok trivial
    next noShift =>
      rw [if_neg noShift]
      split at went
      next reduces =>
        rw [if_pos reduces]
        rcases bind_eq_ok.mp went with ⟨stored, read, went⟩
        refine (Stored.read_fair worn left _ _ read).bind fun stored' left => ?_
        rw [left.isObject]
        split at went
        next isRule =>
          rw [if_pos isRule]
          rcases bind_eq_ok.mp went with ⟨rule, ruled, _⟩
          rcases Stored.exists_toTableRule left ruled with ⟨rule', ruled'⟩
          exact (Fair.fine ruled').bind fun _ _ => .ok trivial
        next => cases went
      next => cases went
  next => cases went

theorem readRow_fair (worn : Stored.MemoWorn memo memo') (pruned : data.Pruned data')
    {symbols : List (Int × String)} {row : Row State} (went : readRow memo symbols data = .ok row)
    (symbols' : List (Int × String)) : Fair (fun _ => True) (readRow memo' symbols' data') := by
  rcases bind_eq_ok.mp went with ⟨fields, read, went⟩
  rcases bind_eq_ok.mp went with ⟨entries, went, _⟩
  refine (fieldsOf_fair pruned read).bind fun fields' each => ?_
  refine (Data.mapM_fields_fair each (fun index value value' entry left went => ?_)
    went).bind fun _ _ => .ok trivial
  rcases bind_eq_ok.mp went with ⟨_, _, went⟩
  rcases bind_eq_ok.mp went with ⟨action, acted, _⟩
  exact (readSymbol_fair symbols' index).bind fun _ _ =>
    (readAction_fair worn left acted).bind fun _ _ => .ok trivial

theorem readStates_fair (pruned : data.Pruned data') {states : List (String × State)}
    (went : readStates data = .ok states) : Fair (fun _ => True) (readStates data') := by
  rcases bind_eq_ok.mp went with ⟨fields, read, went⟩
  refine (fieldsOf_fair pruned read).bind fun fields' each => ?_
  refine Data.mapM_fields_fair each (fun start value value' entry left went => ?_) went
  rcases bind_eq_ok.mp went with ⟨state, read, _⟩
  exact (readState_fair left read).bind fun _ _ => .ok trivial

/-- What is left of a table is a table, or it is found what is missing. -/
theorem read_fair (worn : Stored.MemoWorn memo memo') (pruned : data.Pruned data')
    {table : Table State} (went : read memo data = .ok table) :
    Fair (fun _ => True) (read memo' data') := by
  simp only [read, bind_eq_ok] at went
  rcases went with
    ⟨tokens, tokensThere, symbols, symbolsRead, states, statesThere, fields, fieldsRead, rows,
      rowsRead, starts, startsThere, _, startsRead, ends, endsThere, _, endsRead, _⟩
  unfold read
  refine (Data.demand_fair pruned tokensThere).bind fun tokens' left => ?_
  refine (readSymbols_fair left symbolsRead).bind fun symbols' _ => ?_
  refine (Data.demand_fair pruned statesThere).bind fun states' left => ?_
  refine (fieldsOf_fair left fieldsRead).bind fun fields' each => ?_
  have rows : Fair (fun _ => True) (fields'.mapM fun field => do
      return (← readState (.text field.1), ← readRow memo' symbols' field.2)) := by
    refine Data.mapM_fields_fair each (fun state row row' entry left went => ?_) rowsRead
    rcases bind_eq_ok.mp went with ⟨_, stated, went⟩
    rcases bind_eq_ok.mp went with ⟨_, read, _⟩
    exact (Fair.fine stated).bind fun _ _ =>
      (readRow_fair worn left read symbols').bind fun _ _ => .ok trivial
  refine rows.bind fun _ _ => ?_
  refine (Data.demand_fair pruned startsThere).bind fun starts' left => ?_
  refine (readStates_fair left startsRead).bind fun _ _ => ?_
  refine (Data.demand_fair pruned endsThere).bind fun ends' left => ?_
  exact (readStates_fair left endsRead).bind fun _ _ => .ok trivial

end Table
end Lalr
