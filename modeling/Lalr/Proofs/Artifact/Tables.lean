import Lalr.Artifact.Tables
import Lalr.Proofs.Artifact.Register
import Lalr.Proofs.Data.Json
import Lalr.Proofs.Machine.Agreement
import Lalr.Proofs.Machine.Renaming

/-!
# Tables that come back

While a table is stored, its symbols are numbered as they are met, and its rules are
entered into a register. With the finished list of symbols and the memo of the finished
register, the same rows are read, in which each rule is one that is the same.
-/

namespace Lalr

namespace Table

/-- What has been numbered and what has been entered while a table is stored. -/
abbrev Progress := List String × Register

/-- What steps that number symbols and enter rules give. -/
def numbering : Running (StateT (List String) Registering) Progress where
  gives {α} step before value after :=
    @Eq ((α × List String) × Register) ((step.run before.1).run before.2)
      ((value, after.1), after.2)
  pure _ _ := rfl
  bind := by
    intro α β step rest before between after value answer first second
    show @Eq ((β × List String) × Register) (((step >>= rest).run before.1).run before.2) _
    rw [StateT.run_bind, StateT.run_bind]
    simp only [Bind.bind]
    rw [first]
    exact second

/-- Whether symbols have been numbered and something that belongs to a pool has been entered. -/
structure Progresses (pool : Entry → Prop) (before after : Progress) : Prop where
  begins : List.IsPrefix before.1 after.1
  distinct : before.1.Nodup → after.1.Nodup
  register : before.2.Grows pool after.2

namespace Progresses

variable {pool : Entry → Prop}

theorem refl (progress : Progress) : Progresses pool progress progress :=
  ⟨List.prefix_refl _, id, .refl _⟩

theorem trans {first second third : Progress} (progresses : Progresses pool first second)
    (progresses' : Progresses pool second third) : Progresses pool first third where
  begins := progresses.begins.trans progresses'.begins
  distinct := progresses'.distinct ∘ progresses.distinct
  register := progresses.register.trans progresses'.register

end Progresses

/-- Whether data is what an action is stored as. -/
def StoresAction (register : Register) : Action State → Data → Prop
  | .shift target, data => data = .list [.int 0, target.toData]
  | .reduce rule, data =>
    ∃ reference, data = .list [.int 1, reference] ∧ register.Refers reference (.rule rule)

/-- Whether a field is what an entry of a row is stored as. -/
def StoresEntry (progress : Progress) (entry : String × Action State)
    (field : String × Data) : Prop :=
  ∃ index : Nat, field.1 = toString index ∧ progress.1[index]? = some entry.1 ∧
    StoresAction progress.2 entry.2 field.2

/-- Whether a field is what a row is stored as. -/
def StoresRow (progress : Progress) (row : State × Row State) (field : String × Data) : Prop :=
  field.1 = stateName row.1 ∧
    ∃ fields, field.2 = .record fields ∧ List.Forall₂ (StoresEntry progress) row.2 fields

variable {pool : Entry → Prop} {before after : Progress}

theorem StoresAction.grows {before after : Register} {action : Action State} {data : Data}
    (grows : before.Grows pool after) (stores : StoresAction before action data) :
    StoresAction after action data := by
  cases action with
  | shift target => exact stores
  | reduce rule =>
      rcases stores with ⟨reference, given, refers⟩
      exact ⟨reference, given, refers.grows grows⟩

theorem StoresEntry.progresses {entry : String × Action State} {field : String × Data}
    (progresses : Progresses pool before after) (stores : StoresEntry before entry field) :
    StoresEntry after entry field := by
  rcases stores with ⟨index, named, here, stores⟩
  rcases progresses.begins with ⟨others, same⟩
  refine ⟨index, named, ?_, stores.grows progresses.register⟩
  rw [← same, List.getElem?_append_left (List.getElem?_eq_some_iff.mp here).1, here]

theorem StoresRow.progresses {row : State × Row State} {field : String × Data}
    (progresses : Progresses pool before after) (stores : StoresRow before row field) :
    StoresRow after row field := by
  rcases stores with ⟨named, fields, given, stores⟩
  exact ⟨named, fields, given, stores.imp fun _ _ stores => stores.progresses progresses⟩

/-- Entering something leaves the numbers of symbols as they are. -/
theorem numbering_lift {α : Type} {step : Registering α} {names : List String}
    {before after : Register} {value : α}
    (gives : Registering.running.gives step before value after) :
    numbering.gives (liftM step) (names, before) value (names, after) := by
  have lifted : @Eq ((α × List String) × Register)
      (((liftM step : StateT (List String) Registering α).run names).run before)
      (((step.run before).1, names), (step.run before).2) := rfl
  show @Eq ((α × List String) × Register) _ _
  rw [lifted]
  rw [show @Eq (α × Register) (step.run before) (value, after) from gives]

theorem run_symbolNumber (name : String) (names : List String) :
    @Eq (Nat × List String) ((symbolNumber name).run names)
      (match names.findIdx? (· == name) with
        | some index => (index, names)
        | none => (names.length, names ++ [name])) := rfl

theorem symbolNumber_gives (name : String) (before : Progress) :
    ∃ (index : Nat) (after : Progress),
      numbering.gives (modifyGet fun names => (symbolNumber name).run names) before index after ∧
      Progresses pool before after ∧ after.1[index]? = some name := by
  have ran : @Eq ((Nat × List String) × Register)
      (((modifyGet fun names => (symbolNumber name).run names :
        StateT (List String) Registering Nat).run before.1).run before.2)
      ((symbolNumber name).run before.1, before.2) := rfl
  rw [run_symbolNumber] at ran
  cases place : before.1.findIdx? (· == name) with
  | some index =>
      rcases List.findIdx?_eq_some_iff_getElem.mp place with ⟨within, same, _⟩
      refine ⟨index, before, ran.trans (by rw [place]), .refl before, ?_⟩
      rw [List.getElem?_eq_getElem within, beq_iff_eq.mp same]
  | none =>
      have fresh : ∀ other ∈ before.1, other ≠ name := by
        simpa using List.findIdx?_eq_none_iff.mp place
      refine ⟨before.1.length, (before.1 ++ [name], before.2), ran.trans (by rw [place]),
        ⟨List.prefix_append .., fun distinct => ?_, .refl _⟩, by simp⟩
      rw [List.nodup_append]
      refine ⟨distinct, by simp, fun other member new single => ?_⟩
      rw [List.mem_singleton.mp single]
      exact fresh other member

/-- Whether the rules of a table belong to a pool. -/
def Pooled (pool : Entry → Prop) (action : Action State) : Prop :=
  ∀ rule, action = .reduce rule → pool (.rule rule)

theorem actionToData_gives {action : Action State} (pooled : Pooled pool action)
    (before : Register) :
    ∃ data after, Registering.running.gives (actionToData action) before data after ∧
      before.Grows pool after ∧ StoresAction after action data := by
  cases action with
  | shift target => exact ⟨_, before, rfl, .refl before, rfl⟩
  | reduce rule =>
      rcases Register.enter_gives (pooled rule rfl) before with
        ⟨reference, after, gives, grows, refers⟩
      exact ⟨_, after, Registering.running.bind gives (Registering.running.pure _ _), grows,
        reference, rfl, refers⟩

/-- Stores an entry of a row under the number of its symbol. -/
def entryToData (entry : String × Action State) :
    StateT (List String) Registering (String × Data) := do
  let number : Nat ← modifyGet fun names => (symbolNumber entry.1).run names
  return (toString number, ← actionToData entry.2)

theorem entryToData_gives {entry : String × Action State} (pooled : Pooled pool entry.2)
    (before : Progress) :
    ∃ field after, numbering.gives (entryToData entry) before field after ∧
      Progresses pool before after ∧ StoresEntry after entry field := by
  rcases symbolNumber_gives entry.1 before with ⟨index, between, numbers, progresses, here⟩
  rcases actionToData_gives pooled between.2 with ⟨data, register, gives, grows, stores⟩
  have registers : Progresses pool between (between.1, register) :=
    ⟨List.prefix_refl _, id, grows⟩
  exact ⟨(toString index, data), (between.1, register),
    numbering.bind numbers (numbering.bind (numbering_lift gives) (numbering.pure _ _)),
    progresses.trans registers, index, rfl, here, stores⟩

theorem rowToData_gives {row : Row State} (pooled : ∀ entry ∈ row, Pooled pool entry.2)
    (before : Progress) :
    ∃ data after, numbering.gives (rowToData row) before data after ∧
      Progresses pool before after ∧
      ∃ fields, data = .record fields ∧ List.Forall₂ (StoresEntry after) row fields := by
  rcases numbering.mapM
      (fun entry field progress => StoresEntry progress entry field)
        Progresses.refl Progresses.trans
      (fun progresses stores => stores.progresses progresses)
      (fun entry member => entryToData_gives (pooled entry member)) before with
    ⟨fields, after, gives, progresses, stores⟩
  exact ⟨.record fields, after, numbering.bind gives (numbering.pure _ _),
    progresses, fields, rfl, stores⟩

/-- Stores a row under the name of its state. -/
def namedRowToData (row : State × Row State) :
    StateT (List String) Registering (String × Data) := do
  return (stateName row.1, ← rowToData row.2)

/-- Whether data is what a table is stored as. -/
def Stores (register : Register) (table : Table State) (data : Data) : Prop :=
  ∃ (names : List String) (rows : List (String × Data)), names.Nodup ∧
    data = .record [
      ("tokens", .record ((numbered names).map fun entry => (toString entry.1, .text entry.2))),
      ("states", .record rows), ("start_states", statesToData table.starts),
      ("end_states", statesToData table.ends)] ∧
    List.Forall₂ (StoresRow (names, register)) table.rows rows

theorem Stores.grows {before after : Register} {table : Table State} {data : Data}
    (grows : before.Grows pool after) (stores : Stores before table data) :
    Stores after table data := by
  rcases stores with ⟨names, rows, distinct, given, stores⟩
  have progresses : Progresses pool (names, before) (names, after) :=
    ⟨List.prefix_refl _, id, grows⟩
  exact ⟨names, rows, distinct, given, stores.imp fun _ _ stores =>
    stores.progresses progresses⟩

theorem toData_gives {table : Table State}
    (pooled : ∀ row ∈ table.rows, ∀ entry ∈ row.2, Pooled pool entry.2)
    (before : Register) :
    ∃ data after, Registering.running.gives table.toData before data after ∧
      before.Grows pool after ∧ Stores after table data := by
  have each : ∀ row ∈ table.rows, ∀ state, ∃ field state',
      numbering.gives (namedRowToData row) state field state' ∧ Progresses pool state state' ∧
        StoresRow state' row field := by
    intro row member state
    rcases rowToData_gives (pooled row member) state with
      ⟨data, after, gives, progresses, stores⟩
    exact ⟨(stateName row.1, data), after, numbering.bind gives (numbering.pure _ _), progresses,
      rfl, stores⟩
  rcases numbering.mapM
      (fun row field progress => StoresRow progress row field) Progresses.refl Progresses.trans
      (fun progresses stores => stores.progresses progresses) each ([], before) with
    ⟨rows, ⟨names, after⟩, gives, progresses, stores⟩
  refine ⟨_, after, ?_, progresses.register, names, rows, progresses.distinct List.nodup_nil, rfl,
    stores⟩
  have ran : Registering.running.gives ((table.rows.mapM namedRowToData).run []) before
      (rows, names) after := gives
  exact Registering.running.bind ran (Registering.running.pure _ _)

end Table

/-! ## Reading tables -/

namespace State

/-- Whether a state is a number. -/
def IsNumber (state : State) : Prop := ∃ value, state = .number value

/-- Whether a state is a number or a name. -/
def IsPlain : State → Prop
  | .number _ => True
  | .name _ => True
  | .other _ => False

instance : DecidablePred IsPlain
  | .number _ => .isTrue trivial
  | .name _ => .isTrue trivial
  | .other _ => .isFalse id

/-- The state that a state is read as when it has been stored, if it can be read at all. -/
def reread? (state : State) : Option State := ofData? state.toData

theorem IsNumber.isPlain {state : State} (number : state.IsNumber) : state.IsPlain := by
  rcases number with ⟨value, rfl⟩
  trivial

theorem IsNumber.reread {state : State} (number : state.IsNumber) : state.reread? = some state := by
  rcases number with ⟨value, rfl⟩
  rfl

/-- A name that does not look like a number is read as it is. -/
theorem reread_name {name : String} (plain : looksNumeric name = false) :
    reread? (.name name) = some (.name name) := by
  rw [reread?, toData, ofData?, plain]
  rfl

/-- The state that a state is read as, or the state itself if it cannot be read. -/
def reading (state : State) : State := state.reread?.getD state

theorem reread_of_isSome {state : State} (readable : state.reread?.isSome) :
    state.reread? = some state.reading := by
  rcases Option.isSome_iff_exists.mp readable with ⟨state', reread⟩
  rw [reading, reread]
  rfl

/-- A state is read in the same way where it names a row. -/
theorem ofData?_stateName {state : State} (plain : state.IsPlain) :
    ofData? (.text (Table.stateName state)) = state.reread? := by
  cases state with
  | number value => exact ofData?_toString value
  | name name => rfl
  | other data => cases plain

end State

/-- Whether a register has an entry for a rule that is the same as another. -/
def Register.Stands (register : Register) (rule rule' : Rule) : Prop :=
  rule.same rule' = true ∧ Entry.rule rule' ∈ register

theorem Action.rename_id {σ : Type} (action : Action σ) : action.rename id = action := by
  cases action <;> rfl

namespace Row

variable {σ τ : Type} {row row' : Row σ}

theorem rename_id (row : Row σ) : row.rename id = row := by
  simp [rename, Action.rename_id]

/-- The states that the entries of a row move on to. -/
def targets (row : Row σ) : List σ :=
  row.filterMap fun entry =>
    match entry.2 with
    | .shift target => some target
    | .reduce _ => none

theorem mem_targets {state : σ} : state ∈ row.targets ↔
    ∃ entry ∈ row, entry.2 = .shift state := by
  unfold targets
  rw [List.mem_filterMap]
  refine exists_congr fun entry => and_congr_right fun _ => ?_
  cases entry.2 <;> simp

theorem targets_rename (f : σ → τ) : (row.rename f).targets = row.targets.map f := by
  unfold targets rename
  rw [List.filterMap_map, List.map_filterMap]
  refine List.filterMap_congr fun entry _ => ?_
  simp only [Function.comp_apply]
  cases entry.2 <;> rfl

theorem targets_alike {alike : Rule → Rule → Prop} (rows : row.Alike alike row') :
    row.targets = row'.targets := by
  unfold Row.Alike at rows
  induction rows with
  | nil => rfl
  | @cons entry entry' rest rest' head _ ih =>
      have ih : targets rest = targets rest' := ih
      rcases entry with ⟨symbol, target | rule⟩ <;> rcases entry' with
        ⟨symbol', target' | rule'⟩
      · cases head.2
        exact congrArg (target :: ·) ih
      · cases head.2
      · cases head.2
      · exact ih

end Row

namespace Table

/-- Whether all states that a table mentions are numbers. -/
structure Numeric (table : Table State) : Prop where
  rows : ∀ row ∈ table.rows, row.1.IsNumber
  targets : ∀ row ∈ table.rows, ∀ entry ∈ row.2,
    ∀ target, entry.2 = .shift target → target.IsNumber
  starts : ∀ start ∈ table.starts, start.2.IsNumber
  ends : ∀ ending ∈ table.ends, ending.2.IsNumber

/-- Whether no state has two rows, no symbol two entries in a row, and no start symbol two
states. -/
structure Keyed (table : Table State) : Prop where
  rows : (table.rows.map (·.1)).Nodup
  entries : ∀ row ∈ table.rows, (row.2.map (·.1)).Nodup
  starts : (table.starts.map (·.1)).Nodup
  ends : (table.ends.map (·.1)).Nodup

/-- The states that a table mentions, in the order in which it mentions them. -/
def mentioned {σ : Type} (table : Table σ) : List σ :=
  table.rows.flatMap (fun row => row.1 :: Row.targets row.2) ++
    (table.starts.map (·.2) ++ table.ends.map (·.2))

section Mentioned

variable {σ τ : Type} {table table' : Table σ}

theorem mem_mentioned {state : σ} : state ∈ table.mentioned ↔
    (∃ row ∈ table.rows, state = row.1 ∨ ∃ entry ∈ row.2, entry.2 = .shift state) ∨
      (∃ start ∈ table.starts, start.2 = state) ∨
        ∃ ending ∈ table.ends, ending.2 = state := by
  simp only [mentioned, List.mem_append, List.mem_flatMap, List.mem_cons,
    List.mem_map, Row.mem_targets]

theorem mentioned_of_row {row : σ × Row σ} (member : row ∈ table.rows) :
    row.1 ∈ table.mentioned :=
  mem_mentioned.mpr (.inl ⟨row, member, .inl rfl⟩)

theorem mentioned_of_target {row : σ × Row σ} {entry : String × Action σ} {target : σ}
    (member : row ∈ table.rows) (listed : entry ∈ row.2) (shifts : entry.2 = .shift target) :
    target ∈ table.mentioned :=
  mem_mentioned.mpr (.inl ⟨row, member, .inr ⟨entry, listed, shifts⟩⟩)

theorem mentioned_of_start {start : String × σ} (member : start ∈ table.starts) :
    start.2 ∈ table.mentioned :=
  mem_mentioned.mpr (.inr (.inl ⟨start, member, rfl⟩))

theorem mentioned_of_ending {ending : String × σ} (member : ending ∈ table.ends) :
    ending.2 ∈ table.mentioned :=
  mem_mentioned.mpr (.inr (.inr ⟨ending, member, rfl⟩))

theorem mentioned_mapStates (f : σ → τ) :
    (table.mapStates f).mentioned = table.mentioned.map f := by
  have starts : (table.mapStates f).starts = table.starts.map fun start =>
      (start.1, f start.2) := rfl
  have ends : (table.mapStates f).ends = table.ends.map fun ending => (ending.1, f ending.2) := rfl
  rw [mentioned, rows_mapStates, starts, ends]
  simp [mentioned, Row.targets_rename, List.flatMap_map, List.map_flatMap, Function.comp_def]

/-- Tables that are alike mention the same states. -/
theorem mentioned_alike {alike : Rule → Rule → Prop} (tables : table.Alike alike table') :
    table.mentioned = table'.mentioned := by
  have rows {rows rows' : List (σ × Row σ)}
      (same : List.Forall₂ (fun row row' => row.1 = row'.1 ∧
        Row.Alike alike row.2 row'.2) rows rows') :
      rows.flatMap (fun row => row.1 :: Row.targets row.2) =
        rows'.flatMap fun row => row.1 :: Row.targets row.2 := by
    induction same with
    | nil => rfl
    | cons head _ ih =>
        rw [List.flatMap_cons, List.flatMap_cons, ih, head.1, Row.targets_alike head.2]
  rw [mentioned, mentioned, rows tables.rows, tables.starts, tables.ends]

end Mentioned

theorem Numeric.isNumber {table : Table State} (numeric : table.Numeric) {state : State}
    (member : state ∈ table.mentioned) : state.IsNumber := by
  rcases mem_mentioned.mp member with
    ⟨row, listed, rfl | ⟨entry, within, shifts⟩⟩ | ⟨start,
      listed, rfl⟩ | ⟨ending, listed, rfl⟩
  · exact numeric.rows _ listed
  · exact numeric.targets _ listed _ within _ shifts
  · exact numeric.starts _ listed
  · exact numeric.ends _ listed

variable {register : Register} {names : List String} {table : Table State} {data : Data}

section Reading

variable {f : State → State}

theorem readState_of_reread {state state' : State} (reads : state.reread? = some state') :
    readState state.toData = .ok state' := by
  rw [State.reread?] at reads
  rw [readState, reads]

theorem readAction_of_stores {action : Action State} {data : Data}
    (reads : ∀ target, action = .shift target → target.reread? = some (f target))
    (stores : StoresAction register action data) :
    ∃ action', readAction register.memo data = .ok action' ∧
      (action.rename f).Alike register.Stands action' := by
  cases action with
  | shift target =>
      rcases (show data = .list [.int 0, target.toData] from stores) with rfl
      refine ⟨.shift (f target), ?_, rfl⟩
      exact bind_of_ok (readState_of_reread (reads target rfl)) fun state =>
        .ok (Action.shift state)
  | reduce rule =>
      rcases stores with ⟨reference, rfl, refers⟩
      rcases Register.read_reference refers [.rule] with ⟨found, member, same, read⟩
      cases found with
      | terminal terminal => cases same
      | rule rule' =>
          refine ⟨.reduce rule', ?_, same, member⟩
          have unfolded : readAction register.memo (.list [.int 1, reference]) =
              Stored.read register.memo [.rule] reference >>= fun stored =>
                if stored.isObject [.rule] then stored.toTableRule >>= fun rule =>
                  .ok (.reduce rule)
                else .error (.grammar (.notRule stored.shown)) := rfl
          rw [unfolded, read]
          exact bind_of_ok (Stored.toTableRule_ofRule rule') fun rule => .ok (Action.reduce rule)

theorem readSymbol_numbered {index : Nat} {name : String} (here : names[index]? = some name) :
    readSymbol ((numbered names).map fun entry => ((entry.1 : Int), entry.2)) (toString index) =
      .ok name := by
  have numeral : Numeral.int? (toString index) = some (index : Int) :=
    Numeral.int?_toString (index : Int)
  have found : assoc? ((numbered names).map fun entry => ((entry.1 : Int), entry.2)) (index : Int) =
      some name := assoc?_numbered (fun _ _ same => Int.ofNat.inj same) id here
  simp only [readSymbol, numeral, Option.bind_some, found]

theorem readSymbols_numbered (names : List String) :
    readSymbols (.record ((numbered names).map fun entry => (toString entry.1, .text entry.2))) =
      .ok ((numbered names).map fun entry => ((entry.1 : Int), entry.2)) := by
  have settled : Data.settle ((numbered names).map fun entry => ((entry.1 : Int), entry.2)) =
      (numbered names).map fun entry => ((entry.1 : Int), entry.2) :=
    Data.settle_of_distinct (nodup_numbered (fun _ _ same => Int.ofNat.inj same) id names)
  unfold readSymbols
  refine (bind_of_ok
    (mapM_of_forall₂ (?each : List.Forall₂ _ _ ((numbered names).map fun entry =>
    ((entry.1 : Int), entry.2)))) _).trans (congrArg Except.ok settled)
  rw [List.forall₂_map_left_iff, List.forall₂_map_right_iff, List.forall₂_same]
  intro entry _
  have numeral : Numeral.int? (toString entry.1) = some (entry.1 : Int) :=
    Numeral.int?_toString (entry.1 : Int)
  simp only [numeral]
  rfl

theorem readRow_of_stores {row : State × Row State} {field : String × Data}
    (reads : ∀ entry ∈ row.2, ∀ target, entry.2 = .shift target →
      target.reread? = some (f target))
    (keyed : (row.2.map (·.1)).Nodup) (stores : StoresRow (names, register) row field) :
    ∃ row', readRow register.memo ((numbered names).map fun entry => ((entry.1 : Int), entry.2))
        field.2 = .ok row' ∧
      Row.Alike register.Stands (row.2.rename f) row' := by
  rcases stores with ⟨_, fields, given, stores⟩
  have each : List.Forall₂ (fun (entry : String × Action State) (field : String × Data) =>
      ∃ entry', (do
        return (← readSymbol ((numbered names).map fun entry =>
          ((entry.1 : Int), entry.2)) field.1,
          ← readAction register.memo field.2)) = (.ok entry' : Except Failure _) ∧
        entry.1 = entry'.1 ∧ (entry.2.rename f).Alike register.Stands entry'.2) row.2 fields := by
    refine ((List.forall₂_and_left _ _).mpr ⟨reads, stores⟩).imp fun entry field head => ?_
    rcases head with ⟨reads, index, named, here, stores⟩
    rcases readAction_of_stores reads stores with ⟨action, read, alike⟩
    refine ⟨(entry.1, action), ?_, rfl, alike⟩
    rw [named, readSymbol_numbered here, read]
    rfl
  rcases mapM_related each with ⟨row', read, alike⟩
  have keys := @keys_alike _ _ _ (fun action : Action State =>
    Action.Alike register.Stands (action.rename f))
    _ _ alike
  refine ⟨row', ?_, List.forall₂_map_left_iff.mpr alike⟩
  rw [given]
  refine (bind_of_ok read _).trans ?_
  exact congrArg Except.ok (Data.settle_of_distinct (keys ▸ keyed))

theorem readStates_toData {states : List (String × State)}
    (reads : ∀ state ∈ states, state.2.reread? = some (f state.2)) :
    readStates (statesToData states) = .ok (states.map fun state => (state.1, f state.2)) := by
  refine mapM_of_forall₂ ?_
  rw [List.forall₂_map_left_iff, List.forall₂_map_right_iff, List.forall₂_same]
  rintro ⟨start, state⟩ member
  exact bind_of_ok (readState_of_reread (reads _ member)) fun state => .ok (start, state)

/-- A stored table is read row by row with its states as they are read, and each rule is one of the
register that is the same. Rows whose states are read alike are settled. -/
theorem read_rows_of_stores (plain : ∀ state ∈ table.mentioned, state.IsPlain)
    (reads : ∀ state ∈ table.mentioned, state.reread? = some (f state))
    (keyed : ∀ row ∈ table.rows, (row.2.map (·.1)).Nodup)
    (stores : Stores register table data) :
    ∃ rows, List.Forall₂ (fun row row' => f row.1 = row'.1 ∧
        Row.Alike register.Stands (row.2.rename f) row'.2) table.rows rows ∧
      read register.memo data = .ok {
        rows := Data.settle rows
        starts := table.starts.map fun start => (start.1, f start.2)
        ends := table.ends.map fun ending => (ending.1, f ending.2) } := by
  rcases stores with ⟨names, rows, distinct, rfl, stores⟩
  have each : List.Forall₂ (fun (row : State × Row State) (field : String × Data) =>
      ∃ row', (do
        return (← readState (.text field.1), ← readRow register.memo
          ((numbered names).map fun entry => ((entry.1 : Int), entry.2)) field.2)) =
          (.ok row' : Except Failure _) ∧
        f row.1 = row'.1 ∧ Row.Alike register.Stands (row.2.rename f) row'.2)
        table.rows rows := by
    have listed : ∀ row ∈ table.rows, row ∈ table.rows := fun _ member => member
    refine ((List.forall₂_and_left _ _).mpr ⟨listed, stores⟩).imp fun row field head => ?_
    rcases head with ⟨member, stores⟩
    rcases readRow_of_stores
        (fun entry listed target shifts => reads target (mentioned_of_target member listed shifts))
        (keyed row member) stores with
      ⟨row', read, alike⟩
    have named : readState (.text field.1) = .ok (f row.1) := by
      rw [stores.1, readState, State.ofData?_stateName (plain _ (mentioned_of_row member)),
        reads _ (mentioned_of_row member)]
    refine ⟨(f row.1, row'), ?_, rfl, alike⟩
    rw [named, read]
    rfl
  rcases mapM_related each with ⟨rows', readRows, alike⟩
  refine ⟨rows', alike, ?_⟩
  refine (bind_of_ok (readSymbols_numbered names) _).trans ?_
  refine (bind_of_ok readRows _).trans ?_
  refine (bind_of_ok (readStates_toData fun _ member =>
    reads _ (mentioned_of_start member)) _).trans ?_
  exact bind_of_ok (readStates_toData fun _ member => reads _ (mentioned_of_ending member)) _

end Reading

/-- A stored table whose states are numbers is read as a table with the same rows, in which each
rule is one of the register that is the same. -/
theorem read_of_stores (numeric : table.Numeric) (keyed : table.Keyed)
    (stores : Stores register table data) :
    ∃ table', read register.memo data = .ok table' ∧ table.Alike register.Stands table' := by
  rcases @read_rows_of_stores _ _ _ id
      (fun state member => (numeric.isNumber member).isPlain)
      (fun state member => (numeric.isNumber member).reread) keyed.entries stores with
    ⟨rows, alike, read⟩
  have alike : List.Forall₂ (fun row row' => row.1 = row'.1 ∧
      Row.Alike register.Stands row.2 row'.2)
      table.rows rows := alike.imp fun row row' head => by
    rw [Row.rename_id] at head
    exact head
  have keys := @keys_alike _ _ _ (Row.Alike register.Stands) _ _ alike
  rw [Data.settle_of_distinct (keys ▸ keyed.rows)] at read
  exact ⟨_, read, alike, (List.map_id _).symm, (List.map_id _).symm⟩

/-! ## What tables are stored as -/

theorem proper_of_isPlain {state : State} (plain : state.IsPlain) : state.toData.Proper := by
  cases state with
  | number value => exact .int value
  | name name => exact .text name
  | other data => cases plain

theorem proper_of_storesAction {action : Action State} {data : Data}
    (plain : ∀ target, action = .shift target → target.IsPlain)
    (stores : StoresAction register action data) : data.Proper := by
  cases action with
  | shift target =>
      rcases (show data = .list [.int 0, target.toData] from stores) with rfl
      refine .list ?_
      simp only [List.forall_mem_cons]
      exact ⟨.int 0, proper_of_isPlain (plain target rfl), fun _ none => by cases none⟩
  | reduce rule =>
      rcases stores with ⟨reference, rfl, index, _, rfl, _⟩
      refine .list ?_
      simp only [List.forall_mem_cons]
      refine ⟨.int 1, .record (by simp) ?_, fun _ none => by cases none⟩
      simp only [List.forall_mem_cons]
      exact ⟨.int index, fun _ none => by cases none⟩

theorem proper_of_storesRow {row : State × Row State} {field : String × Data}
    (plain : ∀ entry ∈ row.2, ∀ target, entry.2 = .shift target → target.IsPlain)
    (keyed : (row.2.map (·.1)).Nodup) (stores : StoresRow (names, register) row field) :
    field.2.Proper := by
  rcases stores with ⟨_, fields, given, stores⟩
  rw [given]
  refine .record (nodup_of_forall₂ stores ?_ keyed) fun field member => ?_
  · rintro entry field entry' field' ⟨index, named, here, _⟩
      ⟨index', named', here', _⟩ same
    rw [named, named'] at same
    rcases Register.toString_injective same with rfl
    rw [here] at here'
    exact Option.some.inj here'
  · rcases exists_of_mem_right stores member with ⟨entry, listed, _, _, _, stores⟩
    exact proper_of_storesAction (plain entry listed) stores

theorem names_of_storesRows {rows : List (State × Row State)} {fields : List (String × Data)}
    (stores : List.Forall₂ (StoresRow (names, register)) rows fields) :
    fields.map (·.1) = rows.map fun row => stateName row.1 := by
  induction stores with
  | nil => rfl
  | cons head _ ih => rw [List.map_cons, List.map_cons, ih, head.1]

theorem proper_statesToData {states : List (String × State)} (keyed : (states.map (·.1)).Nodup)
    (plain : ∀ state ∈ states, state.2.IsPlain) : (statesToData states).Proper := by
  refine .record ?_ fun field member => ?_
  · rw [List.map_map]
    exact keyed
  · rcases List.mem_map.mp member with ⟨⟨start, state⟩, listed, rfl⟩
    exact proper_of_isPlain (plain _ listed)

/-- A table can be said in JSON if its states are numbers or names, and no two rows get the same
name. -/
theorem proper_of_named (plain : ∀ state ∈ table.mentioned, state.IsPlain) (keyed : table.Keyed)
    (named : (table.rows.map fun row => stateName row.1).Nodup)
    (stores : Stores register table data) :
    data.Proper := by
  rcases stores with ⟨names, rows, distinct, rfl, stores⟩
  have tokens : Data.Proper (.record ((numbered names).map fun entry =>
      (toString entry.1, .text entry.2))) := by
    refine .record (nodup_numbered Register.toString_injective Data.text names)
      fun field member => ?_
    rcases List.mem_map.mp member with ⟨entry, _, rfl⟩
    exact .text _
  have states : Data.Proper (.record rows) := by
    refine .record (names_of_storesRows stores ▸ named) fun field member => ?_
    rcases exists_of_mem_right stores member with ⟨row, listed, stores⟩
    exact proper_of_storesRow
      (fun entry within target shifts => plain target (mentioned_of_target listed within shifts))
      (keyed.entries row listed) stores
  refine .record (by simp) ?_
  simp only [List.forall_mem_cons]
  exact ⟨tokens, states, proper_statesToData keyed.starts fun _ member =>
    plain _ (mentioned_of_start member), proper_statesToData keyed.ends fun _ member =>
    plain _ (mentioned_of_ending member), fun _ none => by cases none⟩

theorem proper_of_stores (numeric : table.Numeric) (keyed : table.Keyed)
    (stores : Stores register table data) : data.Proper := by
  refine proper_of_named (fun state member => (numeric.isNumber member).isPlain) keyed ?_ stores
  have named : table.rows.map (fun row => stateName row.1) =
      (table.rows.map (·.1)).map stateName := by
    rw [List.map_map]
    rfl
  rw [named]
  refine List.Nodup.map_on ?_ keyed.rows
  intro state member state' member' same
  rcases List.mem_map.mp member with ⟨row, listed, rfl⟩
  rcases List.mem_map.mp member' with ⟨row', listed', rfl⟩
  rcases numeric.rows row listed with ⟨value, number⟩
  rcases numeric.rows row' listed' with ⟨value', number'⟩
  rw [number, number'] at same ⊢
  rw [@Numeral.toString_injective value value' same]

/-! ## Tables that go through JSON -/

theorem mapStates_id {σ : Type} (table : Table σ) : table.mapStates id = table := by
  have rows : (table.mapStates id).rows = table.rows := by
    rw [rows_mapStates]
    simp [Row.rename_id]
  have starts : (table.mapStates id).starts = table.starts := List.map_id _
  have ends : (table.mapStates id).ends = table.ends := List.map_id _
  cases table
  simp_all [mapStates]

/-- What comes of data that is said in JSON and read again. -/
def throughJson (data : Data) : Except Failure Data :=
  match Data.ofJson? (Data.json .spaced data) with
  | some data => .ok data
  | none => .error (.fault .malformedValue)

/-- The table that is read from what a table is stored as, with the rules that have been entered,
once both have gone through JSON. -/
def restored (table : Table State) : Except Failure (Table State) := do
  let (data, register) := (table.toData.run [] : Data × Register)
  let memo ← Stored.readMemo (← throughJson (← register.toData))
  read memo (← throughJson data)

theorem throughJson_proper (proper : data.Proper) : throughJson data = .ok data := by
  rw [throughJson, Data.ofJson?_json Data.Spacing.separates_spaced proper]

/-- A table that can be said in JSON comes back as its data is read with the memo of its rules. -/
theorem exists_restored (plain : ∀ state ∈ table.mentioned, state.IsPlain) (keyed : table.Keyed)
    (named : (table.rows.map fun row => stateName row.1).Nodup) :
    ∃ register data, Stores register table data ∧ table.restored = read register.memo data := by
  have pooled : ∀ row ∈ table.rows, ∀ entry ∈ row.2,
      Pooled (fun entry => ∃ rule, entry = .rule rule) entry.2 :=
        fun _ _ _ _ rule _ => ⟨rule, rfl⟩
  rcases toData_gives pooled [] with ⟨data, register, gives, grows, stores⟩
  have entries : ∀ entry ∈ register, ∃ data, entry.toData = .ok data := by
    intro entry member
    rcases grows.source entry member with none | ⟨rule, rfl⟩
    · cases none
    · exact ⟨_, rfl⟩
  rcases Register.exists_toData entries with ⟨memo, stored, memoProper⟩
  refine ⟨register, data, stores, ?_⟩
  have ran : (table.toData.run [] : Data × Register) = (data, register) := gives
  rw [restored, ran]
  refine (bind_of_ok stored _).trans ((bind_of_ok (throughJson_proper memoProper) _).trans ?_)
  refine (bind_of_ok (Register.readMemo_toData stored) _).trans ?_
  exact bind_of_ok (throughJson_proper (proper_of_named plain keyed named stores)) _

/-! ### States that have been read -/

theorem readState_eq_ok {state : State} :
    readState data = .ok state ↔ State.ofData? data = some state := by
  unfold readState
  split
  next found => simp [found]
  next none => simp [none]

theorem reads_of_readAction {action action' : Action State}
    (stores : StoresAction register action data)
    (read : readAction register.memo data = .ok action') (target : State)
    (shifts : action = .shift target) :
    ∃ state, target.reread? = some state := by
  subst shifts
  rcases (show data = .list [.int 0, target.toData] from stores) with rfl
  have read : (readState target.toData >>= fun state => .ok (.shift state)) = .ok action' := read
  rcases bind_eq_ok.mp read with ⟨state, found, _⟩
  exact ⟨state, readState_eq_ok.mp found⟩

theorem reads_of_readRow {row : State × Row State} {field : String × Data}
    {symbols : List (Int × String)} {row' : Row State}
    (stores : StoresRow (names, register) row field)
    (read : readRow register.memo symbols field.2 = .ok row') :
    ∀ entry ∈ row.2, ∀ target, entry.2 = .shift target →
      ∃ state, target.reread? = some state := by
  intro entry member target shifts
  rcases stores with ⟨_, fields, given, stores⟩
  rw [given] at read
  rcases bind_eq_ok.mp read with ⟨_, found, read⟩
  cases found
  rcases bind_eq_ok.mp read with ⟨entries, went, _⟩
  rcases exists_of_mem_left stores member with ⟨field, listed, index, _, _, stores⟩
  rcases exists_of_mem_left (mapM_eq_ok went) listed with ⟨entry', _, went⟩
  rcases bind_eq_ok.mp went with ⟨symbol, _, went⟩
  rcases bind_eq_ok.mp went with ⟨action, went, _⟩
  exact reads_of_readAction stores went target shifts

theorem reads_of_readStates {states states' : List (String × State)}
    (read : readStates (statesToData states) = .ok states') :
    ∀ state ∈ states, ∃ state', state.2.reread? = some state' := by
  intro state member
  rcases bind_eq_ok.mp read with ⟨_, found, read⟩
  cases found
  rcases exists_of_mem_left (mapM_eq_ok read) (List.mem_map_of_mem member) with ⟨entry, _, went⟩
  rcases bind_eq_ok.mp went with ⟨state', found, _⟩
  exact ⟨state', readState_eq_ok.mp found⟩

/-- Where a stored table has been read, each state that it mentions has been. -/
theorem reads_of_read {table' : Table State} (plain : ∀ state ∈ table.mentioned, state.IsPlain)
    (stores : Stores register table data) (read : read register.memo data = .ok table') :
    ∀ state ∈ table.mentioned, ∃ state', state.reread? = some state' := by
  rcases stores with ⟨names, rows, _, rfl, stores⟩
  rcases bind_eq_ok.mp read with ⟨_, tokens, read⟩
  rcases bind_eq_ok.mp read with ⟨symbols, _, read⟩
  rcases bind_eq_ok.mp read with ⟨_, states, read⟩
  rcases bind_eq_ok.mp read with ⟨_, fields, read⟩
  rcases bind_eq_ok.mp read with ⟨rows', readRows, read⟩
  rcases bind_eq_ok.mp read with ⟨_, starting, read⟩
  rcases bind_eq_ok.mp read with ⟨starts, readStarts, read⟩
  rcases bind_eq_ok.mp read with ⟨_, ending, read⟩
  rcases bind_eq_ok.mp read with ⟨ends, readEnds, _⟩
  cases states
  cases fields
  cases starting
  cases ending
  intro state member
  rcases mem_mentioned.mp member with
    ⟨row, listed, same⟩ | ⟨start, listed, rfl⟩ | ⟨ending, listed, rfl⟩
  · rcases exists_of_mem_left stores listed with ⟨field, within, stores⟩
    rcases exists_of_mem_left (mapM_eq_ok readRows) within with ⟨row', _, went⟩
    rcases bind_eq_ok.mp went with ⟨state', named, went⟩
    rcases bind_eq_ok.mp went with ⟨row', readRow, _⟩
    rcases same with rfl | ⟨entry, within, shifts⟩
    · refine ⟨state', ?_⟩
      rw [← State.ofData?_stateName (plain _ member), ← stores.1]
      exact readState_eq_ok.mp named
    · exact reads_of_readRow stores readRow entry within state shifts
  · exact reads_of_readStates readStarts start listed
  · exact reads_of_readStates readEnds ending listed

/-- Rows that are read one by one make up the renamed table. -/
theorem alike_of_rows {f : State → State} {rows : List (State × Row State)}
    (alike : List.Forall₂ (fun row row' => f row.1 = row'.1 ∧
      Row.Alike register.Stands (row.2.rename f) row'.2) table.rows rows) :
    (table.mapStates f).Alike register.Stands {
      rows
      starts := table.starts.map fun start => (start.1, f start.2)
      ends := table.ends.map fun ending => (ending.1, f ending.2) } := by
  refine ⟨?_, rfl, rfl⟩
  rw [rows_mapStates]
  exact List.forall₂_map_left_iff.mpr alike

/-- A stored table is read as its renamed one if different states of rows are read differently. -/
theorem read_renamed {f : State → State} (plain : ∀ state ∈ table.mentioned, state.IsPlain)
    (reads : ∀ state ∈ table.mentioned, state.reread? = some (f state)) (keyed : table.Keyed)
    (apart : ∀ first ∈ table.states, ∀ second ∈ table.states,
      f first = f second → first = second)
    (stores : Stores register table data) :
    ∃ table', read register.memo data = .ok table' ∧
      (table.mapStates f).Alike register.Stands table' := by
  rcases read_rows_of_stores plain reads keyed.entries stores with ⟨rows, alike, read⟩
  have renamed := alike_of_rows alike
  have keys := @keys_alike _ _ _ (Row.Alike register.Stands) _ _ renamed.rows
  have distinct : ((table.mapStates f).rows.map (·.1)).Nodup := by
    have states : (table.mapStates f).rows.map (·.1) = table.states.map f := states_mapStates f
    rw [states]
    exact List.Nodup.map_on apart keyed.rows
  rw [Data.settle_of_distinct (keys ▸ distinct)] at read
  exact ⟨_, read, renamed⟩

/-- If no row is lost, what has been read is the stored table with each state as it is read. -/
theorem alike_of_read {table' : Table State} (plain : ∀ state ∈ table.mentioned, state.IsPlain)
    (keyed : table.Keyed) (stores : Stores register table data)
    (read : read register.memo data = .ok table') (kept : table'.rows.length = table.rows.length) :
    (∀ state ∈ table.mentioned, state.reread? = some state.reading) ∧
      (table.mapStates State.reading).Alike register.Stands table' := by
  have found := reads_of_read plain stores read
  have reads := fun state member => State.reread_of_isSome
    (Option.isSome_iff_exists.mpr (found state member))
  rcases read_rows_of_stores plain reads keyed.entries stores with ⟨rows, alike, read'⟩
  cases read.symm.trans read'
  have distinct : (rows.map (·.1)).Nodup := Data.distinct_of_settle (kept.trans alike.length_eq)
  refine ⟨reads, ?_⟩
  rw [Data.settle_of_distinct distinct]
  exact alike_of_rows alike

/-- States that stay apart under some names are read apart, if the table reads like those names. -/
theorem reread_injOn {rename : State → State} {table' : Table State}
    {alike alike' : Rule → Rule → Prop}
    (reads : ∀ state ∈ table.mentioned, state.reread? = some state.reading)
    (injective : Set.InjOn rename {state | state ∈ table.mentioned})
    (renamed : (table.mapStates rename).Alike alike table')
    (read : (table.mapStates State.reading).Alike alike' table') :
    Set.InjOn State.reread? {state | state ∈ table.mentioned} := by
  -- Both tables mention what the one that has been read mentions, so the names agree.
  have agree : table.mentioned.map rename = table.mentioned.map State.reading := by
    rw [← mentioned_mapStates, ← mentioned_mapStates, mentioned_alike renamed,
      mentioned_alike read]
  rw [List.map_inj_left] at agree
  intro first member second member' together
  apply injective member member'
  rw [reads first member, reads second member'] at together
  rw [agree first member, agree second member', Option.some.inj together]

theorem reading_injOn (reads : ∀ state ∈ table.mentioned, state.reread? = some state.reading)
    (apart : ∀ first ∈ table.mentioned, ∀ second ∈ table.mentioned,
      first.reread? = second.reread? →
      first = second) : Set.InjOn State.reading {state | state ∈ table.mentioned} := by
  intro first member second member' together
  apply apart first member second member'
  rw [reads first member, reads second member', together]

/-- States are read as they are if no name looks like a number. -/
theorem reread_of_unlike (plain : ∀ state ∈ table.mentioned, state.IsPlain)
    (unlike : ∀ name, .name name ∈ table.mentioned → State.looksNumeric name = false) :
    ∀ state ∈ table.mentioned, state.reread? = some (id state) := by
  intro state member
  cases state with
  | number value => rfl
  | name name => exact State.reread_name (unlike name member)
  | other data => cases plain _ member

/-- A table whose states are numbers and names comes back from JSON with all of its rows, and as
itself but for names of states that stay apart, exactly if each of its states can be read and no two
of them are read as one. It comes back unchanged if no name looks like a number. -/
theorem restored_iff (plain : ∀ state ∈ table.mentioned, state.IsPlain) (keyed : table.Keyed)
    (named : (table.rows.map fun row => stateName row.1).Nodup) :
    ((∃ table', table.restored = .ok table' ∧ table'.rows.length = table.rows.length ∧
      ∃ rename : State → State, Set.InjOn rename {state | state ∈ table.mentioned} ∧
        (table.mapStates rename).Alike (fun rule rule' => rule.same rule' = true) table') ↔
      (∀ state ∈ table.mentioned, state.reread?.isSome) ∧
        ∀ first ∈ table.mentioned, ∀ second ∈ table.mentioned,
          first.reread? = second.reread? →
          first = second) ∧
    ((∀ name, .name name ∈ table.mentioned → State.looksNumeric name = false) →
      ∃ table', table.restored = .ok table' ∧
        table.Alike (fun rule rule' => rule.same rule' = true) table') := by
  rcases exists_restored plain keyed named with ⟨register, data, stores, same⟩
  have listed {state : State} (member : state ∈ table.states) : state ∈ table.mentioned := by
    rcases List.mem_map.mp member with ⟨row, within, rfl⟩
    exact mentioned_of_row within
  have loosen {rename : State → State} {table' : Table State}
      (alike : (table.mapStates rename).Alike register.Stands table') :
      (table.mapStates rename).Alike (fun rule rule' => rule.same rule' = true) table' :=
    alike.imp fun stands => stands.1
  rw [same]
  refine ⟨⟨?_, ?_⟩, ?_⟩
  · rintro ⟨table', read, kept, rename, injective, renamed⟩
    rcases alike_of_read plain keyed stores read kept with ⟨reads, alike⟩
    refine ⟨fun state member => by simp [reads state member], ?_⟩
    exact fun first member second member' =>
      reread_injOn reads injective renamed alike member member'
  · rintro ⟨readable, apart⟩
    have reads := fun state member => State.reread_of_isSome (readable state member)
    have injective := reading_injOn reads apart
    rcases read_renamed plain reads keyed
        (fun _ member _ member' => injective (listed member) (listed member')) stores with
      ⟨table', read, alike⟩
    refine ⟨table', read, ?_, State.reading, injective, loosen alike⟩
    rw [← alike.rows.length_eq, rows_mapStates, List.length_map]
  · intro unlike
    rcases read_renamed plain (reread_of_unlike plain unlike) keyed
        (fun _ _ _ _ same => same) stores with
      ⟨table', read, alike⟩
    exact ⟨table', read, mapStates_id table ▸ loosen alike⟩

/-- A table of which one state is a number and the others are names. -/
def mixedTable : Table State where
  rows := [(.name "begin", [("A", .shift (.number 1)), ("start", .shift (.name "-"))]),
    (.number 1, [("$END", .reduce { origin := "start", expansion := [.terminal "A" false] })]),
    (.name "-", [])]
  starts := [("start", .name "begin")]
  ends := [("start", .name "-")]

/-- A table of names and a number comes back with its three rows. -/
theorem restored_iff_mixed : ∃ table', mixedTable.restored = .ok table' ∧
    table'.rows.length = 3 ∧
    ∃ rename : State → State, Set.InjOn rename {state | state ∈ mixedTable.mentioned} ∧
      (mixedTable.mapStates rename).Alike (fun rule rule' => rule.same rule' = true) table' := by
  have keyed : mixedTable.Keyed := ⟨by decide, by decide, by decide, by decide⟩
  have reads : ∀ state ∈ mixedTable.mentioned, state.reread? = some state := by decide +kernel
  refine (restored_iff (by decide) keyed (by decide +kernel)).1.mpr ⟨?_, ?_⟩
  · intro state member
    rw [reads state member]
    rfl
  · intro first member second member' together
    rw [reads first member, reads second member'] at together
    exact Option.some.inj together

/-- A table of which two states are spellings of one number. -/
def paddedTable : Table State where
  rows := [(.name "1", [("A", .shift (.name "01")), ("start", .shift (.name "2"))]),
    (.name "01", [("$END", .reduce { origin := "start", expansion := [.terminal "A" false] })]),
    (.name "2", [])]
  starts := [("start", .name "1")]
  ends := [("start", .name "2")]

/-- Two spellings of one number become one state, and a row is lost. -/
theorem restored_merges : (∀ state ∈ paddedTable.mentioned, state.IsPlain) ∧
    paddedTable.Keyed ∧
    (paddedTable.rows.map fun row => stateName row.1).Nodup ∧
    ∃ table', paddedTable.restored = .ok table' ∧
      table'.rows.length ≠ paddedTable.rows.length := by
  have plain : ∀ state ∈ paddedTable.mentioned, state.IsPlain := by decide
  have keyed : paddedTable.Keyed := ⟨by decide, by decide, by decide, by decide⟩
  have named : (paddedTable.rows.map fun row => stateName row.1).Nodup := by decide +kernel
  have reads : ∀ state ∈ paddedTable.mentioned,
      state.reread? = some state.reading := by decide +kernel
  have together : State.reading (.name "1") = State.reading (.name "01") := by decide +kernel
  rcases exists_restored plain keyed named with ⟨register, data, stores, same⟩
  rcases read_rows_of_stores plain reads keyed.entries stores with ⟨rows, alike, read⟩
  refine ⟨plain, keyed, named, _, same.trans read, ?_⟩
  intro kept
  have distinct := Data.distinct_of_settle (kept.trans alike.length_eq)
  rcases alike with _ | ⟨first, _ | ⟨second, _⟩⟩
  rw [List.map_cons, List.map_cons, ← first.1, ← second.1, together] at distinct
  simp at distinct

end Table

end Lalr
