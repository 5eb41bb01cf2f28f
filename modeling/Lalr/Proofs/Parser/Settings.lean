import Lalr.Proofs.Parser.Dwindling

/-!
# The settings that are stored with a parser

The options of a parser that is loaded are the stored ones, with the lexer and the flags that the
settings of its lexer name. What is left of the stored data can still be read as settings, or it is
reported what is wrong with them. The flags for all terminals can stand in two places, so that they
are found again if they are lost from one of them.
-/

namespace Lalr

namespace Stored

/-! ## What objects hold -/

variable {memo : Memo} {known : List ObjectKind}

/-- Only data without parts is left as it is when it is read. -/
theorem read_eq_plain (objects : ∀ index stored, assoc? memo index = some stored →
      stored.isObject memoKinds = true) {data value : Data}
    (went : read memo known data = .ok (.plain value)) :
    data = value ∧ value.isScalar = true := by
  cases data with
  | list items =>
      rcases read_list_eq_ok went with ⟨_, same, _⟩
      cases same
  | record fields =>
      rcases read_record_cases went with
        ⟨name, kind, type, isKind⟩ | ⟨untyped, reference, refers⟩ |
        ⟨untyped, loose⟩
      · cases isObject_of_typed type isKind went
      · rw [read_reference untyped refers] at went
        rcases resolve_eq_ok went with ⟨index, found⟩
        cases objects index _ found
      · rcases read_untyped_eq_ok untyped loose went with ⟨_, same, _⟩
        cases same
  | _ =>
      cases went
      exact ⟨rfl, rfl⟩

theorem read_scalar {data : Data} (scalar : data.isScalar = true) :
    read memo known data = .ok (.plain data) := by
  cases data with
  | list => cases scalar
  | record => cases scalar
  | _ => rfl

/-- An object of a kind that is the only one known is read from a record with its type. -/
theorem exists_record_of_read (objects : ∀ index stored, assoc? memo index = some stored →
      stored.isObject memoKinds = true) {kind : ObjectKind}
        (foreign : kind ∉ memoKinds) {data : Data}
    {stored : Stored} (went : read memo [kind] data = .ok stored)
    (object : stored.isObject [kind] = true) :
    ∃ fields name, data = .record fields ∧ assoc? fields "__type__" = some (.text name) ∧
      ObjectKind.find? [kind] name = some kind := by
  cases data with
  | list items =>
      rcases read_list_eq_ok went with ⟨_, rfl, _⟩
      cases object
  | record fields =>
      rcases read_record_cases went with
        ⟨name, kind', type, isKind⟩ | ⟨untyped, reference, refers⟩ |
        ⟨untyped, loose⟩
      · rcases List.mem_singleton.mp (List.mem_of_find?_eq_some isKind) with rfl
        exact ⟨fields, name, rfl, type, isKind⟩
      · rw [read_reference untyped refers] at went
        rcases resolve_eq_ok went with ⟨index, found⟩
        rcases eq_object_of_isObject object with ⟨fields, rfl⟩
        have listed : kind ∈ memoKinds := by simpa [isObject] using objects index _ found
        exact absurd listed foreign
      · rcases read_untyped_eq_ok untyped loose went with ⟨_, rfl, _⟩
        cases object
  | _ =>
      cases went
      cases object

theorem exists_of_settles {kind : ObjectKind} {found holds : List (String × Stored)}
    {names : List String} (each : List.Forall₂
      (fun name field => field.1 = name ∧ settled kind found name = .ok field.2) names holds)
    {name : String} (member : name ∈ names) :
    ∃ held, assoc? holds name = some held ∧ settled kind found name = .ok held := by
  induction each with
  | nil => cases member
  | @cons _ field names rest head _ ih =>
      rcases field with ⟨first, value⟩
      rcases head with ⟨rfl, settles⟩
      by_cases here : name = first
      · exact ⟨value, by simp [assoc?, here], here ▸ settles⟩
      · rcases ih ((List.mem_cons.mp member).resolve_left here) with ⟨held, entered, settles⟩
        exact ⟨held, by simpa [assoc?, Ne.symm here] using entered, settles⟩

/-- What is held in a field of an object is settled from what has been read for the field. -/
theorem exists_settled {fields : List (String × Data)} {type name : String} {kind : ObjectKind}
    {stored : Stored} (typed : assoc? fields "__type__" = some (.text type))
    (isKind : ObjectKind.find? known type = some kind)
    (went : read memo known (.record fields) = .ok stored) (member : name ∈ kind.fields) :
    ∃ held, stored.field? name = some held ∧
      ((∃ data value, assoc? fields name = some data ∧
        read memo kind.contents data = .ok value ∧
          settleField kind name value = .ok held) ∨
        assoc? fields name = none ∧ held = fallback kind name) := by
  rw [read_typed typed isKind] at went
  rcases bind_eq_ok.mp went with ⟨found, inTurn, made⟩
  rcases make_eq_ok made with ⟨holds, others, rfl, each⟩
  rcases exists_of_settles each member with ⟨held, entered, settles⟩
  refine ⟨held, by rw [field?, assoc?_append, entered, Option.some_or], ?_⟩
  unfold settled at settles
  cases given : assoc? fields name with
  | none =>
      rw [(inTurn_wanted_eq_none inTurn).mpr fun _ => given] at settles
      cases settles
      exact .inr ⟨rfl, rfl⟩
  | some data =>
      rcases exists_inTurn_wanted inTurn member given with ⟨value, known, read⟩
      rw [known] at settles
      exact .inl ⟨data, value, rfl, read, settles⟩

end Stored

namespace Parser

/-! ## Stored settings -/

/-- The options that are stored. -/
def storedFields (data : Data) : Except Failure (List (String × Data)) :=
  match (data.field? "options").getD (.record []) with
  | .record fields => .ok fields
  | .list [] => .ok []
  | .text "" => .ok []
  | .text _ => .error (.fault .malformedValue)
  | _ => .error (.fault .wrongKind)

/-- The stored options with the lexer that the lexer settings name. -/
def withLexer (lexer : Stored) (stored : List (String × Data)) :
    Except Failure (List (String × Data)) :=
  match lexer.field? "lexer_type" with
  | some (.plain .null) => .ok stored
  | some (.plain kind) => .ok (Data.put stored "lexer" kind)
  | some other => do return Data.put stored "lexer" (← other.toData)
  | none => .error (.fault .missingPart)

/-- The flags that the lexer settings hold. -/
def heldFlags (lexer : Stored) : Data :=
  match lexer.field? "g_regex_flags" with
  | some (.plain flags) => flags
  | _ => .null

/-- The stored options with flags, unless they have their own. -/
def withFlags (flags : Data) (stored : List (String × Data)) : List (String × Data) :=
  if flags.holds && !stored.any (fun entry => entry.1 == "g_regex_flags") then
    Data.put stored "g_regex_flags" flags
  else stored

theorem storedSettings_eq (data : Data) (lexer : Stored) :
    storedSettings data lexer = (do
      let stored ← storedFields data
      unless lexer.isObject [.lexerSettings] do throw (.fault .missingPart)
      let stored ← withLexer lexer stored
      return asSettings (withFlags (heldFlags lexer) stored)) := by
  unfold storedSettings
  have fields : ∀ {α : Type} (rest : List (String × Data) → Except Failure α),
      (storedFields data >>= rest) =
        match (data.field? "options").getD (.record []) with
        | .record fields => rest fields
        | .list [] => rest []
        | .text "" => rest []
        | .text _ => .error (.fault .malformedValue)
        | _ => .error (.fault .wrongKind) := by
    intro α rest
    unfold storedFields
    split <;> rfl
  rw [fields]
  unfold withLexer
  generalize (data.field? "options").getD (.record []) = options
  generalize lexer.field? "lexer_type" = type
  by_cases isObject : lexer.isObject [.lexerSettings] = true
  · simp only [isObject, if_true]
    rcases type with _ | (kind | items | fields | ⟨kind, fields⟩)
    case none => cases options <;> rfl
    case some.plain => cases kind <;> cases options <;> rfl
    all_goals
      dsimp only
      generalize Stored.toData _ = stored
      cases stored <;> cases options <;> rfl
  · simp only [isObject]
    cases options <;> rfl

variable {data data' : Data} {fields chosen : List (String × Data)} {lexer lexer' : Stored}

theorem storedSettings_eq_ok {settings : List (String × Setting)} :
    storedSettings data lexer = .ok settings ↔
      ∃ fields chosen, storedFields data = .ok fields ∧ lexer.isObject
        [.lexerSettings] = true ∧
        withLexer lexer fields = .ok chosen ∧
        settings = asSettings (withFlags (heldFlags lexer) chosen) := by
  rw [storedSettings_eq]
  constructor
  · intro went
    rcases bind_eq_ok.mp went with ⟨fields, stored, went⟩
    split at went
    next isLexer =>
      rcases bind_eq_ok.mp went with ⟨chosen, chooses, went⟩
      cases went
      exact ⟨fields, chosen, stored, isLexer, chooses, rfl⟩
    next => cases went
  · rintro ⟨fields, chosen, stored, isLexer, chooses, rfl⟩
    refine bind_eq_ok.mpr ⟨fields, stored, ?_⟩
    rw [if_pos isLexer]
    exact bind_eq_ok.mpr ⟨chosen, chooses, rfl⟩

/-- The options that are stored are found on a route. -/
theorem storedFields_dig (went : storedFields data = .ok fields) (name : String) :
    assoc? fields name = data.dig ["options", name] := by
  unfold storedFields at went
  cases found : data.field? "options" with
  | none =>
      rw [found] at went
      cases went
      simp [Data.dig, found, assoc?]
  | some options =>
      rw [found] at went
      simp only [Data.dig, found, Option.bind_some]
      simp only [Option.getD_some] at went
      split at went
      next fields =>
        cases went
        rw [Data.field?, Data.lookup_eq_assoc?]
        cases assoc? fields name <;> rfl
      next =>
        cases went
        rfl
      next =>
        cases went
        rfl
      next => cases went
      next => cases went

theorem storedFields_fair (pruned : data.Pruned data') (went : storedFields data = .ok fields) :
    Fair (fun _ => True) (storedFields data') := by
  cases found' : data'.field? "options" with
  | none =>
      rw [storedFields, found']
      exact .ok trivial
  | some options' =>
      rcases pruned.exists_field? found' with ⟨options, found, left⟩
      rw [storedFields, found] at went
      rw [storedFields, found']
      cases left with
      | scalar => exact .fine went
      | record => exact .ok trivial
      | list each =>
          cases each with
          | nil => exact .ok trivial
          | cons _ _ => cases went

theorem assoc?_withLexer (went : withLexer lexer fields = .ok chosen) {name : String}
    (other : name ≠ "lexer") : assoc? chosen name = assoc? fields name := by
  have put (kind : Data) : assoc? (Data.put fields "lexer" kind) name = assoc? fields name := by
    rw [assoc?_put, if_neg (Ne.symm other)]
  unfold withLexer at went
  split at went
  next =>
    cases went
    rfl
  next =>
    cases went
    exact put _
  next =>
    rcases bind_eq_ok.mp went with ⟨_, _, went⟩
    cases went
    exact put _
  next => cases went

theorem assoc?_withFlags {flags : Data} {stored : List (String × Data)} {name : String}
    (other : name ≠ "g_regex_flags") : assoc?
      (withFlags flags stored) name = assoc? stored name := by
  unfold withFlags
  split
  · rw [assoc?_put, if_neg (Ne.symm other)]
  · rfl

/-- Flags that are stored with the options go before those of the lexer settings. -/
theorem flags_withFlags (flags : Data) (stored : List (String × Data)) :
    (assoc? (withFlags flags stored) "g_regex_flags").getD (.int 0) =
      (assoc? stored "g_regex_flags").getD (if flags.holds then flags else .int 0) := by
  have isSet : (stored.any fun entry => entry.1 == "g_regex_flags") =
      (assoc? stored "g_regex_flags").isSome := by
    induction stored with
    | nil => rfl
    | cons entry rest ih =>
        rcases entry with ⟨name, value⟩
        by_cases here : name = "g_regex_flags"
        · simp [assoc?, here]
        · simp [assoc?, here, ih]
  unfold withFlags
  rw [isSet]
  cases found : assoc? stored "g_regex_flags" with
  | some own => simp [found]
  | none =>
      by_cases holds : flags.holds = true
      · simp [holds, assoc?_put]
      · simp [holds, found]

/-- A lexer that options can name is named by data. -/
theorem exists_lexerType {flags default : Data} (went : withLexer lexer fields = .ok chosen)
    {contextual : Bool} (read : Options.readLexer
      ((assoc? (withFlags flags chosen) "lexer").getD default) = .ok contextual) :
    ∃ kind, lexer.field? "lexer_type" = some (.plain kind) := by
  have listed {stored : Data} (chooses : Data.put fields "lexer" stored = chosen)
      (noText : stored.asText? = none) : False := by
    rw [assoc?_withFlags (by decide), ← chooses, assoc?_put, if_pos rfl, Option.getD_some] at read
    cases stored <;> first | cases read | cases noText
  unfold withLexer at went
  split at went
  next known => exact ⟨_, known⟩
  next kind _ known => exact ⟨kind, known⟩
  next other _ noPlain known =>
    rcases bind_eq_ok.mp went with ⟨stored, converted, went⟩
    cases went
    exfalso
    refine listed rfl ?_
    cases other with
    | plain kind => exact absurd rfl (noPlain kind)
    | list items =>
        rcases bind_eq_ok.mp converted with ⟨_, _, converted⟩
        cases converted
        rfl
    | record fields =>
        rcases bind_eq_ok.mp converted with ⟨_, _, converted⟩
        cases converted
        rfl
    | object kind fields =>
        rcases bind_eq_ok.mp converted with ⟨_, _, converted⟩
        rcases bind_eq_ok.mp converted with ⟨_, _, converted⟩
        cases converted
        rfl
  next => cases went

/-- What is left of lexer settings names a lexer or none. -/
theorem exists_withLexer (worn : Stored.Worn lexer lexer')
    (isLexer : lexer.isObject [.lexerSettings] = true) {kind : Data}
    (known : lexer.field? "lexer_type" = some (.plain kind)) (stored : List (String × Data)) :
    ∃ chosen, withLexer lexer' stored = .ok chosen := by
  rcases Stored.eq_object_of_isObject isLexer with ⟨settings, rfl⟩
  have plain : ∃ kind', lexer'.field? "lexer_type" = some (.plain kind') := by
    cases worn with
    | object each =>
        rcases each.exists_assoc? known with ⟨value', found', ⟨left, _⟩ | ⟨_, rfl⟩⟩
        · cases left
          exact ⟨kind, found'⟩
        · exact ⟨.null, found'⟩
  rcases plain with ⟨kind', found'⟩
  unfold withLexer
  rw [found']
  cases kind' <;> exact ⟨_, rfl⟩

/-! ## Flags for all terminals -/

/-- Whether the flags that lexer settings hold are the flags that are stored with them. What is no
scalar cannot stand for flags. -/
structure Holds (stored : Option Data) (held : Data) : Prop where
  kept : ∀ flags, flags.isScalar = true → stored = some flags → held = flags
  stored : held.holds = true → held.isScalar = true ∧ stored = some held

theorem holds_of_read {memo : Memo} (objects : ∀ index stored, assoc? memo index = some stored →
      stored.isObject Stored.memoKinds = true) {data : Data} {lexer : Stored}
    (went : Stored.read memo [.lexerSettings] data = .ok lexer)
    (isLexer : lexer.isObject [.lexerSettings] = true) :
    Holds (data.field? "g_regex_flags") (heldFlags lexer) := by
  rcases Stored.exists_record_of_read objects (by decide) went isLexer with
    ⟨fields, type, rfl, typed, isKind⟩
  rcases @Stored.exists_settled _ _ _ _ "g_regex_flags" _ _ typed isKind went (by decide) with
    ⟨held, found, settles⟩
  rw [Data.field?, Data.lookup_eq_assoc?]
  unfold heldFlags
  rw [found]
  rcases settles with ⟨data, value, given, read, settles⟩ | ⟨none, rfl⟩
  · cases settles
    rw [given]
    constructor
    · rintro flags scalar ⟨⟩
      rw [Stored.read_scalar scalar] at read
      cases read
      rfl
    · intro holds
      cases held with
      | plain flags =>
          rcases Stored.read_eq_plain objects read with ⟨rfl, scalar⟩
          exact ⟨scalar, rfl⟩
      | _ => cases holds
  · rw [none]
    constructor
    · rintro _ _ ⟨⟩
    · intro holds
      cases holds

/-- The flags that hold where the options state some or not, and the lexer settings hold some. -/
def flagsOf (stated : Option Data) (held : Data) : Data :=
  stated.getD (if held.holds then held else .int 0)

/-- The routes to the flags for all terminals: they stand with the options and with the settings of
the lexer. -/
def optionFlags : List String := ["data", "options", "g_regex_flags"]

def lexerFlags : List String := ["data", "parser", "lexer_conf", "g_regex_flags"]

/-- Whether the flags for all terminals are stored in both of their places. -/
def StatesFlagsTwice (source : Data) : Prop :=
  ∃ flags, flags.isScalar = true ∧ source.dig optionFlags = some flags ∧
    source.dig lexerFlags = some flags

/-- Whether some flags are as good as others: zero is as good as false. -/
def SameFlags (flags flags' : Data) : Prop :=
  flags' = flags ∨ flags.holds = false ∧ flags' = .int 0

/-- Flags that can be used are numbers. -/
theorem regexFlags_of_same {options options' : Options} {flags : RegexFlags}
    (usable : options.regexFlags = .ok flags) (same : SameFlags options.flags options'.flags) :
    options'.regexFlags = .ok flags := by
  unfold Options.regexFlags at usable ⊢
  rcases same with same | ⟨off, zero⟩
  · rw [same]
    exact usable
  · rw [zero]
    cases given : options.flags with
    | int bits =>
        rw [given] at usable off
        have none : bits = 0 := by simpa [Data.holds] using off
        rw [none] at usable
        exact usable
    | bool value =>
        rw [given] at usable
        cases usable
        rfl
    | _ =>
        rw [given] at usable
        cases usable

theorem isScalar_of_regexFlags {options : Options} {flags : RegexFlags}
    (usable : options.regexFlags = .ok flags) : options.flags.isScalar = true := by
  unfold Options.regexFlags at usable
  cases given : options.flags <;> rw [given] at usable <;> first | rfl | cases usable

variable {source source' : Data} {key : String} {path : List String}

/-- Whether a key, by the path to its record, is that of the flags for all terminals, or of the
options with which they stand. -/
def LeadsToFlags (key : String) (path : List String) : Prop :=
  path ++ [key] = ["data", "options"] ∨ path ++ [key] = optionFlags ∨ path ++ [key] = lexerFlags

/-- A key that is lost on the way to the flags of the options, where the lexer settings are still
there, is one that leads to these flags alone. -/
theorem leadsToFlags_of_cut {settings' : Data}
    (there' : source'.dig ["data", "parser", "lexer_conf"] = some settings')
    (cut : path ++ [key] <+: optionFlags ∧ source'.dig (path ++ [key]) = none) :
    LeadsToFlags key path := by
  have whole : path ++ [key] <+: ["data", "options"] ++ ["g_regex_flags"] := cut.1
  rcases List.prefix_concat_iff.mp whole with same | sooner
  · exact .inr (.inl same)
  · have sooner : path ++ [key] <+: ["data"] ++ ["options"] := sooner
    rcases List.prefix_concat_iff.mp sooner with same | sooner
    · exact .inl same
    · rcases Data.exists_dig_of_prefix (sooner.trans (by decide)) there' with ⟨_, known⟩
      rw [cut.2] at known
      cases known

/-- A key that is lost on the way to the flags of the lexer settings, where these are still there,
is the last one. -/
theorem path_of_cut {settings' : Data}
    (there' : source'.dig ["data", "parser", "lexer_conf"] = some settings')
    (cut : path ++ [key] <+: lexerFlags ∧ source'.dig (path ++ [key]) = none) :
    path ++ [key] = lexerFlags := by
  have whole : path ++ [key] <+: ["data", "parser", "lexer_conf"] ++ ["g_regex_flags"] := cut.1
  refine (List.prefix_concat_iff.mp whole).resolve_right fun sooner => ?_
  rcases Data.exists_dig_of_prefix sooner there' with ⟨_, known⟩
  rw [cut.2] at known
  cases known

/-- Flags that are stored with the options are found again: if they are lost there, then they still
stand with the settings of the lexer. -/
theorem sameFlags_of_stated (lacks : source.Lacks key path source') (pruned : source.Pruned source')
    (twice : LeadsToFlags key path → StatesFlagsTwice source)
    {settings' held' own : Data}
    (there' : source'.dig ["data", "parser", "lexer_conf"] = some settings')
    (holds' : Holds (source'.dig lexerFlags) held') (scalar : own.isScalar = true)
    (stated : source.dig optionFlags = some own) :
    SameFlags own (flagsOf (source'.dig optionFlags) held') := by
  rcases lacks.dig scalar stated with kept | cut
  · rw [kept]
    exact .inl rfl
  · rcases twice (leadsToFlags_of_cut there' cut) with ⟨again, _, stated', repeated⟩
    rcases Option.some.inj (stated.symm.trans stated') with rfl
    have kept : source'.dig lexerFlags = some own := by
      refine (lacks.dig scalar repeated).resolve_right fun cut' => ?_
      have further : lexerFlags <+: optionFlags := path_of_cut there' cut' ▸ cut.1
      exact absurd further (by decide)
    have same := holds'.kept own scalar kept
    cases stated' : source'.dig optionFlags with
    | some own' =>
        rcases pruned.exists_dig stated' with ⟨_, known, left⟩
        rcases Option.some.inj (stated.symm.trans known) with rfl
        left
        cases left with
        | scalar => rfl
        | list | record => cases scalar
    | none =>
        by_cases on : own.holds = true
        · exact .inl (by simp [flagsOf, same, on])
        · exact .inr ⟨by simpa using on, by simp [flagsOf, same, on]⟩

/-- If no flags are stored with the options, then those of the lexer settings are not lost. -/
theorem flagsOf_of_unstated (lacks : source.Lacks key path source')
    (pruned : source.Pruned source')
    (twice : LeadsToFlags key path → StatesFlagsTwice source)
    {settings' held held' : Data}
    (there' : source'.dig ["data", "parser", "lexer_conf"] = some settings')
    (holds : Holds (source.dig lexerFlags) held) (holds' : Holds (source'.dig lexerFlags) held')
    (unstated : source.dig optionFlags = none) :
    flagsOf (source'.dig optionFlags) held' = flagsOf none held := by
  have unstated' : source'.dig optionFlags = none := by
    cases stated' : source'.dig optionFlags with
    | none => rfl
    | some own' =>
        rcases pruned.exists_dig stated' with ⟨_, known, _⟩
        rw [unstated] at known
        cases known
  rw [unstated']
  by_cases on : held.holds = true
  · rcases holds.stored on with ⟨scalar, stored⟩
    rcases lacks.dig scalar stored with kept | cut
    · rw [holds'.kept held scalar kept]
    · rcases twice (.inr (.inr (path_of_cut there' cut))) with ⟨_, _, stated', _⟩
      rw [unstated] at stated'
      cases stated'
  · have off : ¬held'.holds = true := by
      intro on'
      rcases holds'.stored on' with ⟨scalar', stored'⟩
      rcases pruned.exists_dig stored' with ⟨_, stored, left⟩
      rcases left.eq_of_isScalar scalar' with rfl
      rw [holds.kept _ scalar' stored] at on
      exact on on'
    simp [flagsOf, on, off]

/-- The flags for all terminals stay the same if a key is lost that does not lead to them, or if
they are stored twice. -/
theorem flags_left (lacks : source.Lacks key path source') (pruned : source.Pruned source')
    (twice : LeadsToFlags key path → StatesFlagsTwice source)
    {settings' held held' : Data}
    (there' : source'.dig ["data", "parser", "lexer_conf"] = some settings')
    (holds : Holds (source.dig lexerFlags) held) (holds' : Holds (source'.dig lexerFlags) held')
    {options options' : Options} (flags : options.flags = flagsOf (source.dig optionFlags) held)
    (flags' : options'.flags = flagsOf (source'.dig optionFlags) held') :
    ∀ flags, options.regexFlags = .ok flags → options'.regexFlags = .ok flags := by
  intro found usable
  refine regexFlags_of_same usable ?_
  have scalar := isScalar_of_regexFlags usable
  rw [flags] at scalar ⊢
  rw [flags']
  cases stated : source.dig optionFlags with
  | some own =>
      rw [stated] at scalar
      exact sameFlags_of_stated lacks pruned twice there' holds' scalar stated
  | none => exact .inl (flagsOf_of_unstated lacks pruned twice there' holds holds' stated)

end Parser

end Lalr
