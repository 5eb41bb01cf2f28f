import Lalr.Proofs.Artifact.Wearing

/-!
# Reading what is left

Reading goes down the data, and so does the comparison of what is read with what was read
before something was lost. The memo may have lost something as well: an object of which
there is still a part, or a whole entry, which a reference to it does not find any more.
-/

namespace Lalr.Stored

variable {memo memo' : Memo} {known : List ObjectKind}

/-- The kinds of objects that a memo holds. -/
def memoKinds : List ObjectKind := [.terminal, .rule]

/-- Whether a memo holds objects and nothing else, and another what is left of them. -/
structure MemoWorn (memo memo' : Memo) : Prop where
  objects : ∀ index stored, assoc? memo index = some stored → stored.isObject memoKinds
  left : ∀ index stored', assoc? memo' index = some stored' →
    ∃ stored, assoc? memo index = some stored ∧ Worn stored stored'

theorem MemoWorn.objects' (worn : MemoWorn memo memo') (index : Int) (stored' : Stored)
    (found : assoc? memo' index = some stored') : stored'.isObject memoKinds := by
  rcases worn.left index stored' found with ⟨stored, found, left⟩
  rw [left.isObject]
  exact worn.objects index stored found

theorem readItems_eq_mapM (items : List Data) :
    readItems memo known items = items.mapM (read memo known) := by
  induction items with
  | nil => rfl
  | cons item rest ih =>
      rw [readItems, List.mapM_cons, ih]

theorem readFields_eq_map (fields : List (String × Data)) :
    readFields memo known fields = fields.map fun field => (field.1, read memo known field.2) := by
  induction fields with
  | nil => rfl
  | cons field rest ih =>
      rcases field with ⟨name, value⟩
      rw [readFields, ih, List.map_cons]

/-- What is found for a reference is the object of an index, or the reference cannot be one to
anything. -/
theorem resolve_cases (reference : Data) :
    (∃ index, ∀ memo, resolve memo reference =
      match assoc? memo index with
      | some stored => .ok stored
      | none => .error (.grammar (.danglingReference reference))) ∨
    ∃ failure, ∀ memo, resolve memo reference = .error failure := by
  cases reference with
  | null => exact .inr ⟨_, fun _ => rfl⟩
  | list _ => exact .inr ⟨_, fun _ => rfl⟩
  | record _ => exact .inr ⟨_, fun _ => rfl⟩
  | bool value => exact .inl ⟨if value then 1 else 0, fun _ => rfl⟩
  | int index => exact .inl ⟨index, fun _ => rfl⟩
  | text text =>
      cases number : Numeral.int? text with
      | none =>
          refine .inr ⟨.grammar (.danglingReference (.text text)), fun memo => ?_⟩
          simp only [resolve, number]
          rfl
      | some index =>
          refine .inl ⟨index, fun memo => ?_⟩
          simp only [resolve, number]
          rfl
  | decimal mantissa exponent =>
      by_cases whole : 0 ≤ exponent
      · refine .inl ⟨mantissa * Nat.pow 10 exponent.toNat, fun memo => ?_⟩
        simp only [resolve, if_pos whole]
        rfl
      · refine .inl ⟨mantissa.tdiv (Nat.pow 10 (-exponent).toNat), fun memo => ?_⟩
        simp only [resolve, if_neg whole]
        rfl

theorem resolve_eq_ok {reference : Data} {stored : Stored}
    (went : resolve memo reference = .ok stored) : ∃ index, assoc? memo index = some stored := by
  rcases resolve_cases reference with ⟨index, found⟩ | ⟨failure, fails⟩
  · rw [found] at went
    split at went
    next known =>
      cases went
      exact ⟨index, known⟩
    next => cases went
  · rw [fails] at went
    cases went

/-- A reference that stood for an object stands for what is left of it, or it is dangling. -/
theorem resolve_fair (worn : MemoWorn memo memo') {reference : Data} {stored : Stored}
    (went : resolve memo reference = .ok stored) :
    Fair (Worn stored) (resolve memo' reference) := by
  rcases resolve_cases reference with ⟨index, found⟩ | ⟨failure, fails⟩
  · rw [found] at went ⊢
    split
    next stored' known' =>
      rcases worn.left index stored' known' with ⟨_, known, left⟩
      rw [known] at went
      cases went
      exact .ok left
    next => exact .error trivial
  · rw [fails] at went
    cases went

theorem withWidth_eq_ok {kind : ObjectKind} {fields : List (String × Stored)} {width : Data}
    {stored : Stored} (went : withWidth kind width fields = .ok stored) :
    ∃ others, stored = .object kind (fields ++ others) := by
  unfold withWidth at went
  split at went
  next =>
    rcases bind_eq_ok.mp went with ⟨settled, _, went⟩
    cases settled with
    | none =>
        cases went
        exact ⟨[], by rw [List.append_nil]⟩
    | some pair =>
        cases went
        exact ⟨_, rfl⟩
  next =>
    cases went
    exact ⟨[], by rw [List.append_nil]⟩

/-- An object holds what is settled for each of its fields. -/
theorem make_eq_ok {kind : ObjectKind} {found : List (String × Stored)} {width : Data}
    {stored : Stored} (made : make kind found width = .ok stored) :
    ∃ fields others, stored = .object kind (fields ++ others) ∧
      List.Forall₂ (fun name field => field.1 = name ∧ settled kind found name = .ok field.2)
        kind.fields fields := by
  rw [make_eq] at made
  split at made
  next =>
    rcases bind_eq_ok.mp made with ⟨fields, went, made⟩
    rcases bind_eq_ok.mp made with ⟨_, _, made⟩
    rcases withWidth_eq_ok made with ⟨others, rfl⟩
    refine ⟨fields, others, rfl, (mapM_eq_ok went).imp fun name field went => ?_⟩
    rcases bind_eq_ok.mp went with ⟨held, known, went⟩
    cases went
    exact ⟨rfl, known⟩
  next => cases made

/-- What has been found for the fields of an object, each with what comes of reading it. -/
def wanted (memo : Memo) (kind : ObjectKind) (fields : List (String × Data)) :
    List (String × Except Failure Stored) :=
  kind.fields.filterMap fun name =>
    ((assoc? fields name).map (read memo kind.contents)).map fun answer => (name, answer)

theorem read_typed {fields : List (String × Data)} {name : String} {kind : ObjectKind}
    (type : assoc? fields "__type__" = some (.text name))
    (isKind : ObjectKind.find? known name = some kind) :
    read memo known (.record fields) =
      inTurn (wanted memo kind fields) >>= fun found =>
        make kind found ((assoc? fields "_width").getD .null) := by
  have same : (kind.fields.filterMap fun name =>
      (assoc? (readFields memo kind.contents fields) name).map fun value => (name, value)) =
        wanted memo kind fields := by
    refine List.filterMap_congr fun name _ => ?_
    rw [readFields_eq_map, assoc?_map]
  rw [read, Data.lookup_eq_assoc?, type, Data.lookup_eq_assoc?]
  simp only [isKind, same]

theorem read_reference {fields : List (String × Data)} {reference : Data}
    (untyped : assoc? fields "__type__" = none) (refers : assoc? fields "@" = some reference) :
    read memo known (.record fields) = resolve memo reference := by
  simp only [read, Data.lookup_eq_assoc?, untyped, refers]

theorem read_untyped {fields : List (String × Data)} (untyped : assoc? fields "__type__" = none)
    (loose : assoc? fields "@" = none) :
    read memo known (.record fields) = do
      return .record (← inTurn (fields.map fun field => (field.1, read memo known field.2))) := by
  simp only [read, Data.lookup_eq_assoc?, untyped, loose, readFields_eq_map]

/-- A record that can be read has the type of an object, is a reference, or is neither. -/
theorem read_record_cases {fields : List (String × Data)} {stored : Stored}
    (went : read memo known (.record fields) = .ok stored) :
    (∃ name kind, assoc? fields "__type__" = some (.text name) ∧
      ObjectKind.find? known name = some kind) ∨
    (assoc? fields "__type__" = none ∧ ∃ reference, assoc? fields "@" = some reference) ∨
    (assoc? fields "__type__" = none ∧ assoc? fields "@" = none) := by
  cases type : assoc? fields "__type__" with
  | none =>
      cases refers : assoc? fields "@" with
      | none => exact .inr (.inr ⟨rfl, rfl⟩)
      | some reference => exact .inr (.inl ⟨rfl, reference, rfl⟩)
  | some named =>
      rw [read, Data.lookup_eq_assoc?, type] at went
      cases named with
      | text name =>
          cases isKind : ObjectKind.find? known name with
          | none =>
              simp only [isKind] at went
              cases went
          | some kind => exact .inl ⟨name, kind, rfl, isKind⟩
      | _ => cases went

theorem inTurn_eq_ok {answers : List (String × Except Failure Stored)}
    {values : List (String × Stored)} (went : inTurn answers = .ok values) :
    List.Forall₂ (fun answer value => answer.1 = value.1 ∧ answer.2 = .ok value.2) answers
      values := by
  refine (mapM_eq_ok went).imp fun answer value went => ?_
  rcases bind_eq_ok.mp went with ⟨held, known, went⟩
  cases went
  exact ⟨rfl, known⟩

theorem inTurn_assoc? {answers : List (String × Except Failure Stored)}
    {values : List (String × Stored)} (went : inTurn answers = .ok values) (name : String) :
    Option.Rel (fun answer value => answer = .ok value) (assoc? answers name)
      (assoc? values name) :=
  @assoc?_alike _ _ _ (fun answer value => answer = Except.ok value) _ _ _ (inTurn_eq_ok went) name

theorem inTurn_fair (kept : String → Stored → Prop)
    {answers : List (String × Except Failure Stored)}
    (each : ∀ answer ∈ answers, Fair (kept answer.1) answer.2) :
    Fair (List.Forall₂ (fun answer value => answer.1 = value.1 ∧ kept answer.1 value.2) answers)
      (inTurn answers) := by
  refine Fair.mapM (List.forall₂_same.mpr fun answer member => ?_)
  exact (each answer member).bind fun _ known => .ok ⟨rfl, known⟩

theorem assoc?_filterMap {β : Type} (names : List String) (value : String → Option β)
    (name : String) :
    assoc? (names.filterMap fun other => (value other).map fun held => (other, held)) name =
      if name ∈ names then value name else none := by
  induction names with
  | nil => rfl
  | cons other rest ih =>
      rw [List.filterMap_cons]
      by_cases here : other = name
      · subst here
        cases held : value other with
        | none => simp [ih, held]
        | some held => simp [assoc?]
      · cases value other with
        | none => simpa [Ne.symm here] using ih
        | some held => simpa [assoc?, here, Ne.symm here] using ih

theorem isObject_of_typed {fields : List (String × Data)} {name : String} {kind : ObjectKind}
    {stored : Stored} (type : assoc? fields "__type__" = some (.text name))
    (isKind : ObjectKind.find? known name = some kind)
    (went : read memo known (.record fields) = .ok stored) : stored.isObject [kind] = true := by
  rw [read_typed type isKind] at went
  rcases bind_eq_ok.mp went with ⟨found, _, made⟩
  rcases make_eq_ok made with ⟨fields, others, rfl, _⟩
  simp [isObject]

theorem read_untyped_eq_ok {fields : List (String × Data)} {stored : Stored}
    (untyped : assoc? fields "__type__" = none) (loose : assoc? fields "@" = none)
    (went : read memo known (.record fields) = .ok stored) :
    ∃ values, stored = .record values ∧
      inTurn (fields.map fun field => (field.1, read memo known field.2)) = .ok values ∧
      values.map (·.1) = fields.map (·.1) := by
  rw [read_untyped untyped loose] at went
  rcases bind_eq_ok.mp went with ⟨values, inTurn, went⟩
  cases went
  refine ⟨values, rfl, inTurn, ?_⟩
  have same := @keys_alike _ _ _ (fun answer value => answer = Except.ok value) _ _
    (inTurn_eq_ok inTurn)
  rw [← same, List.map_map]
  rfl

theorem read_list_eq_ok {items : List Data} {stored : Stored}
    (went : read memo known (.list items) = .ok stored) :
    ∃ values, stored = .list values ∧
      List.Forall₂ (fun item value => read memo known item = .ok value) items values := by
  rw [read, readItems_eq_mapM] at went
  rcases bind_eq_ok.mp went with ⟨values, each, went⟩
  cases went
  exact ⟨values, rfl, mapM_eq_ok each⟩

theorem agrees_of_objects {kinds kinds' : List ObjectKind} {stored stored' : Stored}
    (object : stored.isObject kinds = true) (object' : stored'.isObject kinds' = true) :
    Agrees stored stored' := by
  cases stored with
  | object kind fields =>
      cases stored' with
      | object kind' fields' => exact ⟨rfl, rfl⟩
      | _ => cases object'
  | _ => cases object

/-- What the same data is read as where a memo has lost something agrees with what it was read
as. -/
theorem read_agrees (worn : MemoWorn memo memo') {data : Data} {stored stored' : Stored}
    (went : read memo known data = .ok stored) (went' : read memo' known data = .ok stored') :
    Agrees stored stored' := by
  cases data with
  | list items =>
      rcases read_list_eq_ok went with ⟨values, rfl, each⟩
      rcases read_list_eq_ok went' with ⟨values', rfl, each'⟩
      have lengths : values'.length = values.length := each'.length_eq.symm.trans each.length_eq
      refine ⟨rfl, ?_⟩
      cases values <;> cases values' <;> first | rfl | cases lengths
  | record fields =>
      rcases read_record_cases went with
        ⟨name, kind, type, isKind⟩ | ⟨untyped, reference, refers⟩ |
        ⟨untyped, loose⟩
      · exact agrees_of_objects (isObject_of_typed type isKind went)
          (isObject_of_typed type isKind went')
      · rw [read_reference untyped refers] at went went'
        rcases resolve_eq_ok went with ⟨index, found⟩
        rcases resolve_eq_ok went' with ⟨index', found'⟩
        exact agrees_of_objects (worn.objects index _ found) (worn.objects' index' _ found')
      · rcases read_untyped_eq_ok untyped loose went with ⟨values, rfl, _, names⟩
        rcases read_untyped_eq_ok untyped loose went' with ⟨values', rfl, _, names'⟩
        have lengths := congrArg List.length (names'.trans names.symm)
        rw [List.length_map, List.length_map] at lengths
        refine ⟨rfl, ?_⟩
        cases values <;> cases values' <;> first | rfl | cases lengths
  | _ =>
      cases went
      cases went'
      exact ⟨rfl, rfl⟩

theorem read_sameItems (worn : MemoWorn memo memo') {data : Data} {stored stored' : Stored}
    (went : read memo known data = .ok stored) (went' : read memo' known data = .ok stored') :
    SameItems stored stored' := by
  intro items found
  cases data with
  | list data =>
      rcases read_list_eq_ok went with ⟨values, rfl, each⟩
      rcases read_list_eq_ok went' with ⟨values', rfl, each'⟩
      cases found
      refine ⟨values', rfl, ?_⟩
      clear went went'
      induction each generalizing values' with
      | nil =>
          cases each'
          exact .nil
      | cons head _ ih =>
          cases each' with
          | cons head' tail' => exact .cons (read_agrees worn head head') (ih _ tail')
  | record fields =>
      rcases read_record_cases went with
        ⟨name, kind, type, isKind⟩ | ⟨untyped, reference, refers⟩ |
        ⟨untyped, loose⟩
      · have object := isObject_of_typed type isKind went
        cases stored with
        | object _ _ => cases found
        | _ => cases object
      · rw [read_reference untyped refers] at went
        rcases resolve_eq_ok went with ⟨index, known⟩
        have object := worn.objects index _ known
        cases stored with
        | object _ _ => cases found
        | _ => cases object
      · rcases read_untyped_eq_ok untyped loose went with ⟨values, rfl, _, names⟩
        rcases read_untyped_eq_ok untyped loose went' with ⟨values', rfl, _, names'⟩
        cases found
        have same : (values'.map fun value => Stored.plain (.text value.1)) =
            values.map fun value => .plain (.text value.1) := by
          have texts := congrArg (List.map ofText) (names'.trans names.symm)
          rwa [List.map_map, List.map_map] at texts
        exact ⟨_, rfl, same ▸ List.forall₂_same.mpr fun _ _ => ⟨rfl, rfl⟩⟩
  | _ =>
      cases went
      cases went'
      exact ⟨items, found, List.forall₂_same.mpr fun _ _ => ⟨rfl, rfl⟩⟩

/-- Whether what is read of some data is what is left of what was read of other data. -/
def Survives (memo memo' : Memo) (data data' : Data) : Prop :=
  ∀ known stored, read memo known data = .ok stored →
    Fair (Worn stored) (read memo' known data')

/-- What is found for a field of an object is what the data of its name is read as. -/
theorem inTurn_wanted {kind : ObjectKind} {fields : List (String × Data)}
    {found : List (String × Stored)} (went : inTurn (wanted memo kind fields) = .ok found)
    {name : String} (member : name ∈ kind.fields) :
    Option.Rel (fun data value => read memo kind.contents data = .ok value) (assoc? fields name)
      (assoc? found name) := by
  have related := inTurn_assoc? went name
  rw [wanted, assoc?_filterMap, if_pos member] at related
  generalize assoc? fields name = given at related ⊢
  generalize assoc? found name = answer at related ⊢
  cases given with
  | none =>
      cases related
      exact .none
  | some data =>
      cases related with
      | some read => exact .some read

theorem exists_inTurn_wanted {kind : ObjectKind} {fields : List (String × Data)}
    {found : List (String × Stored)} (went : inTurn (wanted memo kind fields) = .ok found)
    {name : String} (member : name ∈ kind.fields) {data : Data}
    (given : assoc? fields name = some data) :
    ∃ value, assoc? found name = some value ∧ read memo kind.contents data = .ok value := by
  have related := inTurn_wanted went member
  rw [given] at related
  generalize assoc? found name = answer at related
  cases related with
  | some read => exact ⟨_, rfl, read⟩

/-- Nothing is found for a field that is not there. -/
theorem inTurn_wanted_eq_none {kind : ObjectKind} {fields : List (String × Data)}
    {found : List (String × Stored)} (went : inTurn (wanted memo kind fields) = .ok found)
    {name : String} :
    assoc? found name = none ↔ (name ∈ kind.fields → assoc? fields name = none) := by
  by_cases member : name ∈ kind.fields
  · have related := inTurn_wanted went member
    generalize assoc? fields name = given at related ⊢
    generalize assoc? found name = answer at related ⊢
    cases related <;> simp [member]
  · have related := inTurn_assoc? went name
    rw [wanted, assoc?_filterMap, if_neg member] at related
    generalize assoc? found name = answer at related ⊢
    cases related
    simp [member]

/-- What is found for the fields of an object is what is left of what was found. -/
theorem inTurn_wanted_fair {kind : ObjectKind} {fields fields' : List (String × Data)}
    {found : List (String × Stored)} (worn : MemoWorn memo memo')
    (pruned : Data.FieldsPruned (Survives memo memo') fields fields')
    (went : inTurn (wanted memo kind fields) = .ok found) :
    Fair (FoundWorn found) (inTurn (wanted memo' kind fields')) := by
  refine (inTurn_fair (fun name value' => ∃ value, assoc? found name = some value ∧
    Worn value value' ∧ (name = "flags" ∨ name = "empty_indices" → SameItems value value'))
      ?_).known.imp fun found' ⟨went', each⟩ => ⟨?_, ?_⟩
  · intro answer member
    rcases List.mem_filterMap.mp member with ⟨name, listed, entered⟩
    rcases Option.map_eq_some_iff.mp entered with ⟨_, answered, rfl⟩
    rcases Option.map_eq_some_iff.mp answered with ⟨data', given', rfl⟩
    rcases pruned.exists_assoc? given' with ⟨data, given, survives, steady⟩
    rcases exists_inTurn_wanted went listed given with ⟨value, known, read⟩
    refine (survives _ _ read).known.imp fun value' ⟨read', left⟩ =>
      ⟨value, known, left, fun delicate => ?_⟩
    have within : name ∈ Data.delicate := by
      rcases delicate with rfl | rfl <;> decide
    rw [steady within] at read'
    exact read_sameItems worn read read'
  · intro name value' found'
    rcases exists_of_mem_right each (mem_of_assoc? found') with ⟨_, _, rfl, known⟩
    exact known
  · intro none'
    refine (inTurn_wanted_eq_none went).mpr fun member => ?_
    exact (pruned.notMem_vital ((inTurn_wanted_eq_none went').mp none' member)).resolve_right
      (by decide)

/-- The width that is stored with an expression is not lost. -/
theorem assoc?_width {related : Data → Data → Prop} {fields fields' : List (String × Data)}
    (pruned : Data.FieldsPruned related fields fields') :
    assoc? fields' "_width" = assoc? fields "_width" := by
  cases found : assoc? fields "_width" with
  | none => exact pruned.eq_none found
  | some width =>
      rcases pruned.exists_vital (by decide) found with ⟨width', found', _, steady⟩
      rw [found', steady (by decide)]

/-- Reading what is left of some data gives what is left of what was read, or it says what is
missing. Induction on the data. -/
theorem read_fair (worn : MemoWorn memo memo') {data data' : Data} (pruned : data.Pruned data') :
    Survives memo memo' data data' := by
  refine Data.Pruned.induct ?_ ?_ ?_ pruned
  · intro data noList noRecord known stored went
    cases data with
    | list _ => cases noList
    | record _ => cases noRecord
    | _ =>
        cases went
        exact .ok (.plain _)
  · intro items items' left below known stored went
    rcases read_list_eq_ok went with ⟨values, rfl, reads⟩
    have each : List.Forall₂ (fun value item' =>
        Fair (Worn value) (read memo' known item')) values
        items' := by
      clear went left
      induction below generalizing values with
      | nil =>
          cases reads
          exact .nil
      | cons head _ ih =>
          cases reads with
          | cons first rest => exact .cons (head _ _ first) (ih _ rest)
    rw [read, readItems_eq_mapM]
    exact (Fair.mapM each).bind fun values' left => .ok (.list left)
  · intro fields fields' each below known stored went
    rcases read_record_cases went with
      ⟨name, kind, typed, isKind⟩ | ⟨untyped, reference, refers⟩ |
      ⟨untyped, loose⟩
    · rcases each.exists_vital (by decide) typed with ⟨_, typed', left, _⟩
      cases left
      rw [read_typed typed isKind] at went
      rw [read_typed typed' isKind, assoc?_width each]
      rcases bind_eq_ok.mp went with ⟨found, inTurn, made⟩
      exact (inTurn_wanted_fair worn below inTurn).bind fun found' left => make_fair left made
    · rcases each.exists_vital (by decide) refers with ⟨reference', refers', left, _⟩
      rw [read_reference untyped refers] at went
      rw [read_reference (each.eq_none untyped) refers']
      cases left with
      | scalar => exact resolve_fair worn went
      | list | record => cases went
    · rcases read_untyped_eq_ok untyped loose went with ⟨values, rfl, inTurn, names⟩
      rw [read_untyped (each.eq_none untyped) (each.eq_none loose)]
      have reads : ∀ answer ∈ fields'.map (fun field => (field.1, read memo' known field.2)),
          Fair (fun _ => True) answer.2 := by
        intro answer member
        rcases List.mem_map.mp member with ⟨field', listed', rfl⟩
        rcases below.exists_of_mem listed' with ⟨field, listed, _, survives⟩
        rcases exists_of_mem_left (inTurn_eq_ok inTurn)
          (List.mem_map_of_mem (f := fun field => (field.1, read memo known field.2)) listed) with
          ⟨value, _, _, went⟩
        exact (survives _ _ went).imp fun _ _ => trivial
      refine (inTurn_fair (fun _ _ => True) reads).bind fun values' same => .ok (.record ?_)
      have names' := @keys_alike _ _ _ (fun _ _ => True) _ _ same
      rw [List.map_map] at names'
      rw [← names', names]
      exact each.names

/-- Whether the entries of a memo have different numbers and are all stored as objects. -/
def Indexed (entries : List (String × Data)) : Prop :=
  (entries.map fun entry => Numeral.int? entry.1).Nodup ∧
    ∀ entry ∈ entries, (entry.2.field? "__type__").isSome = true

theorem readEntry_eq_ok {entry : String × Data} {pair : Int × Stored} :
    readEntry entry = .ok pair ↔
      Numeral.int? entry.1 = some pair.1 ∧ read [] memoKinds entry.2 = .ok pair.2 := by
  unfold readEntry
  cases number : Numeral.int? entry.1 with
  | none =>
      constructor
      · intro went
        cases went
      · rintro ⟨number, _⟩
        cases number
  | some index =>
      simp only
      constructor
      · intro went
        rcases bind_eq_ok.mp went with ⟨stored, read, went⟩
        cases went
        exact ⟨rfl, read⟩
      · rintro ⟨number, went⟩
        rcases pair with ⟨_, stored⟩
        cases number
        exact bind_eq_ok.mpr ⟨stored, went, rfl⟩

/-- The numbers of the objects of a memo are those that their keys write. -/
theorem numbers_eq {entries : List (String × Data)} {pairs : List (Int × Stored)}
    (each : List.Forall₂ (fun entry pair => Numeral.int? entry.1 = some pair.1) entries pairs) :
    (entries.map fun entry => Numeral.int? entry.1) = (pairs.map (·.1)).map some := by
  induction each with
  | nil => rfl
  | cons head _ ih => rw [List.map_cons, List.map_cons, List.map_cons, head, ih]

theorem readMemo_eq_ok {entries : List (String × Data)}
    (numbers : (entries.map fun entry => Numeral.int? entry.1).Nodup)
    (went : readMemo (.record entries) = .ok memo) :
    (memo.map (·.1)).Nodup ∧
      List.Forall₂ (fun entry pair => readEntry entry = .ok pair) entries memo := by
  unfold readMemo at went
  simp only at went
  split at went
  next pairs read =>
    have each := mapM_eq_ok read
    rw [numbers_eq (each.imp fun _ _ read => (readEntry_eq_ok.mp read).1)] at numbers
    have distinct := numbers.of_map _
    rw [Data.settle_of_distinct distinct] at went
    cases went
    exact ⟨distinct, each⟩
  next => cases went
  next => cases went

/-- What stands in a memo as an object is read as one. -/
theorem isObject_of_entry {data : Data} {stored : Stored}
    (typed : (data.field? "__type__").isSome = true)
    (went : read memo known data = .ok stored) : stored.isObject known = true := by
  cases data with
  | record fields =>
      rw [Data.field?, Data.lookup_eq_assoc?] at typed
      rcases read_record_cases went with
        ⟨name, kind, type, isKind⟩ | ⟨untyped, _⟩ | ⟨untyped, _⟩
      · have object := isObject_of_typed type isKind went
        cases stored with
        | object kind' _ =>
            have same : kind' = kind := by simpa [isObject] using object
            have listed : kind ∈ known := List.mem_of_find?_eq_some isKind
            simpa [isObject, same] using listed
        | _ => cases object
      · rw [untyped] at typed
        cases typed
      · rw [untyped] at typed
        cases typed
  | _ => cases typed

theorem memoWorn_nil : MemoWorn [] [] where
  objects _ _ found := by cases found
  left _ _ found := by cases found

theorem objects_of_readMemo {entries : List (String × Data)} (indexed : Indexed entries)
    (went : readMemo (.record entries) = .ok memo) :
    ∀ index stored, assoc? memo index = some stored → stored.isObject memoKinds := by
  intro index stored found
  rcases exists_of_mem_right (readMemo_eq_ok indexed.1 went).2 (mem_of_assoc? found) with
    ⟨entry, listed, read⟩
  exact isObject_of_entry (indexed.2 entry listed) (readEntry_eq_ok.mp read).2

/-- What is left of a memo holds what is left of its objects. -/
theorem readMemo_fair {entries entries' : List (String × Data)} (indexed : Indexed entries)
    (pruned : Data.FieldsPruned Data.Pruned entries entries')
    (went : readMemo (.record entries) = .ok memo) :
    Fair (MemoWorn memo) (readMemo (.record entries')) := by
  rcases readMemo_eq_ok indexed.1 went with ⟨distinct, each⟩
  have fair : Fair (List.Forall₂ (fun (entry' : String × Data) pair' =>
      Numeral.int? entry'.1 = some pair'.1 ∧ ∃ stored, assoc? memo pair'.1 = some stored ∧
        Worn stored pair'.2) entries') (entries'.mapM readEntry) := by
    refine Fair.mapM (List.forall₂_same.mpr fun entry' listed' => ?_)
    rcases pruned.exists_of_mem listed' with ⟨entry, listed, key, left⟩
    rcases exists_of_mem_left each listed with ⟨pair, entered, read⟩
    rcases readEntry_eq_ok.mp read with ⟨number, read⟩
    have found : assoc? memo pair.1 = some pair.2 := assoc?_of_mem distinct entered
    rw [key] at number
    simp only [readEntry, number]
    exact (read_fair memoWorn_nil left _ _ read).bind fun stored' left =>
      .ok ⟨rfl, pair.2, found, left⟩
  unfold readMemo
  simp only
  split
  next pairs' read' =>
    rw [read'] at fair
    cases fair with
    | ok each' =>
        have numbers' : (entries'.map fun entry => Numeral.int? entry.1).Nodup := by
          have fewer := pruned.names.map Numeral.int?
          rw [List.map_map, List.map_map] at fewer
          exact indexed.1.sublist fewer
        rw [numbers_eq (each'.imp fun _ _ known => known.1)] at numbers'
        rw [Data.settle_of_distinct (numbers'.of_map _)]
        refine .ok ⟨objects_of_readMemo indexed went, fun index stored' found' => ?_⟩
        rcases exists_of_mem_right each' (mem_of_assoc? found') with ⟨_, _, _, known⟩
        exact known
  next => exact .error trivial
  next failure _ failed =>
    rw [failed] at fair
    cases fair with
    | error reported => exact .error reported

end Lalr.Stored
