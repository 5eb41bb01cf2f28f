import Lalr.Artifact.Reader
import Lalr.Proofs.Artifact.Objects
import Lalr.Proofs.Data.Pruning
import Lalr.Proofs.Fairness
import Lalr.Proofs.Parser.Options

/-!
# Objects that have lost fields

When data of which something is lost is read, the objects that are found are those from
before, in which a field may hold its default in the place of what it held. Where an object
cannot do without the field that is lost, and where an object is gone that is still referred
to, reading says so.
-/

namespace Lalr

/-- The fields that an object of a kind can do without. Without its flags a pattern can be made too,
but not the same one. -/
def ObjectKind.optional (kind : ObjectKind) : List String :=
  kind.fields.filter fun name => !kind.required.contains name && name != "flags"

namespace Stored

/-- A text as something that stored data stands for. -/
def ofText (text : String) : Stored := .plain (.text text)

/-- What a field of an object holds if nothing was stored for it. -/
def fallback (kind : ObjectKind) (name : String) : Stored :=
  if name = "options" then noOptions else defaultOf kind name

/-- Which of the items of a sequence hold, one by one. -/
def marks (stored : Stored) : List Bool := (stored.elements?.getD []).map holds

/-- Whether a field of which an object uses all holds as much as before. -/
def Steady (name : String) (value value' : Stored) : Prop :=
  (name = "flags" ∨ name = "_width" → value' = value) ∧
    (name = "empty_indices" → value'.marks = value.marks)

/-- Whether the fields of an object of a kind are those from before, where their values are related
or are the defaults of fields that the object can do without. -/
inductive FieldsWorn (related : Stored → Stored → Prop) :
    List (String × Stored) → List (String × Stored) → ObjectKind → Prop
  | nil {kind : ObjectKind} : FieldsWorn related [] [] kind
  | kept {kind : ObjectKind} {name : String} {value value' : Stored}
      {rest rest' : List (String × Stored)} (steady : Steady name value value')
      (head : related value value') (tail : FieldsWorn related rest rest' kind) :
      FieldsWorn related ((name, value) :: rest) ((name, value') :: rest') kind
  | spare {kind : ObjectKind} {name : String} {value : Stored}
      {rest rest' : List (String × Stored)} (optional : name ∈ kind.optional)
      (tail : FieldsWorn related rest rest' kind) :
      FieldsWorn related ((name, value) :: rest) ((name, fallback kind name) :: rest') kind

/-- Whether one thing is what is left of another. What was a record may be used as the sequence of
its names, of which some may be gone. -/
inductive Worn : Stored → Stored → Prop
  | plain (data : Data) : Worn (.plain data) (.plain data)
  | list {items items' : List Stored} (each : List.Forall₂ Worn items items') :
      Worn (.list items) (.list items')
  | texts {texts texts' : List String} (lost : texts'.Sublist texts) :
      Worn (.list (texts.map ofText)) (.list (texts'.map ofText))
  | record {fields fields' : List (String × Stored)}
      (lost : (fields'.map (·.1)).Sublist (fields.map (·.1))) :
      Worn (.record fields) (.record fields')
  | object {kind : ObjectKind} {fields fields' : List (String × Stored)}
      (each : FieldsWorn Worn fields fields' kind) :
      Worn (.object kind fields) (.object kind fields')

/-! ## Making objects -/

/-- What a field of an object holds. -/
def settled (kind : ObjectKind) (found : List (String × Stored)) (name : String) :
    Except Failure Stored :=
  match assoc? found name with
  | some value => settleField kind name value
  | none => .ok (fallback kind name)

/-- An object with the width that was stored with it. -/
def withWidth (kind : ObjectKind) (width : Data) (fields : List (String × Stored)) :
    Except Failure Stored :=
  if kind = .expression then do
    match ← settleWidth width with
    | some width => return .object kind (fields ++ [("_width", width)])
    | none => return .object kind fields
  else .ok (.object kind fields)

/-- A field of an object with its name, where nothing has been made of missing options yet. -/
def filled (kind : ObjectKind) (found : List (String × Stored)) (name : String) :
    Except Failure (String × Stored) :=
  match assoc? found name with
  | some value => do return (name, ← settleField kind name value)
  | none => return (name, defaultOf kind name)

/-- The fields of an object with options where it needs them. -/
def withOptions (fields : List (String × Stored)) : List (String × Stored) :=
  match assoc? fields "options" with
  | some options =>
    Data.put fields "options" (if options.holds then options else noOptions)
  | none => fields

theorem make_eq_filled (kind : ObjectKind) (found : List (String × Stored)) (width : Data) :
    make kind found width =
      if kind.required.all fun name => (assoc? found name).isSome then do
        let fields ← kind.fields.mapM (filled kind found)
        check kind (withOptions fields)
        withWidth kind width (withOptions fields)
      else .error (.grammar (.malformed kind.name)) := by
  unfold make
  by_cases complete : (kind.required.all fun name => (assoc? found name).isSome) = true
  · rw [complete, if_pos rfl, if_pos rfl]
    refine bind_congr fun fields => ?_
    unfold withOptions withWidth
    cases assoc? fields "options" <;> rfl
  · simp only [complete]
    rfl

theorem filled_eq {kind : ObjectKind} {found : List (String × Stored)} {name : String}
    (other : name ≠ "options") :
    filled kind found name = do return (name, ← settled kind found name) := by
  unfold filled settled
  cases assoc? found name with
  | none => simp [fallback, other]; rfl
  | some value => rfl

theorem mapM_filled_eq {kind : ObjectKind} {found : List (String × Stored)} {names : List String}
    (apart : "options" ∉ names) :
    names.mapM (filled kind found) = names.mapM fun name => do
      return (name, ← settled kind found name) := by
  induction names with
  | nil => rfl
  | cons name rest ih =>
      rw [List.mem_cons, not_or] at apart
      rw [List.mapM_cons, List.mapM_cons, filled_eq (Ne.symm apart.1), ih apart.2]

theorem names_of_mapM_settled {kind : ObjectKind} {found fields : List (String × Stored)}
    {names : List String}
    (went : (names.mapM fun name => do return (name, ← settled kind found name)) = .ok fields) :
    fields.map (·.1) = names := by
  have each := mapM_eq_ok went
  clear went
  induction each with
  | nil => rfl
  | cons head _ ih =>
      rcases bind_eq_ok.mp head with ⟨_, _, head⟩
      cases head
      rw [List.map_cons, ih]

theorem withOptions_of_notMem {fields : List (String × Stored)}
    (apart : "options" ∉ fields.map (·.1)) : withOptions fields = fields := by
  rw [withOptions, assoc?_of_notMem apart]

theorem withOptions_append {fields : List (String × Stored)}
    (apart : "options" ∉ fields.map (·.1)) (options : Stored) :
    withOptions (fields ++ [("options", options)]) =
      fields ++ [("options", if options.holds then options else noOptions)] := by
  have found : assoc? (fields ++ [("options", options)]) "options" = some options := by
    rw [assoc?_append, assoc?_of_notMem apart]
    rfl
  have others (value : Stored) : (fields.map fun field =>
      if field.1 == "options" then (field.1, value) else field) = fields := by
    refine (List.map_congr_left fun field member => ?_).trans fields.map_id
    have other : field.1 ≠ "options" :=
      fun same => apart (List.mem_map.mpr ⟨field, member, same⟩)
    simp [other]
  simp only [withOptions, found]
  rw [Data.put, if_pos (by simp), List.map_append, others]
  simp

/-- Missing options are made up for field by field as well. -/
theorem mapM_filled {α : Type} (kind : ObjectKind) (found : List (String × Stored))
    (rest : List (String × Stored) → Except Failure α) :
    (kind.fields.mapM (filled kind found) >>= fun fields => rest (withOptions fields)) =
      (kind.fields.mapM fun name => do return (name, ← settled kind found name)) >>= rest := by
  by_cases isRule : kind = .rule
  · subst isRule
    have split : ObjectKind.rule.fields = ["origin", "expansion", "order",
        "alias"] ++ ["options"] :=
      rfl
    rw [split, List.mapM_append, List.mapM_append, mapM_filled_eq (by decide)]
    cases front : ["origin", "expansion", "order", "alias"].mapM fun name => do
        return (name, ← settled .rule found name) with
    | error failure => rfl
    | ok fields =>
        have apart : "options" ∉ fields.map (·.1) := by
          rw [names_of_mapM_settled front]
          decide
        cases known : assoc? found "options" with
        | none =>
            have last : ["options"].mapM (filled .rule found) =
                .ok [("options", defaultOf .rule "options")] := by simp [filled, known]; rfl
            have last' : (["options"].mapM fun name =>
                do return (name, ← settled .rule found name)) =
                .ok [("options", noOptions)] := by simp [settled, known]; rfl
            rw [last, last']
            exact congrArg rest (withOptions_append apart _)
        | some options =>
            let chosen := if options.holds then options else noOptions
            have last : ["options"].mapM (filled .rule found) = .ok [("options", chosen)] := by
              simp [filled, known]; rfl
            have last' : (["options"].mapM fun name =>
                do return (name, ← settled .rule found name)) =
                .ok [("options", chosen)] := by simp [settled, known]; rfl
            have chosenHolds : chosen.holds = true := by
              by_cases here : options.holds = true
              · rw [show chosen = options from if_pos here, here]
              · rw [show chosen = noOptions from if_neg here]
                rfl
            rw [last, last']
            refine congrArg rest ((withOptions_append apart _).trans ?_)
            rw [chosenHolds, if_pos rfl]
  · have apart : "options" ∉ kind.fields := by
      cases kind <;> first | decide | exact absurd rfl isRule
    rw [mapM_filled_eq apart]
    cases went : kind.fields.mapM fun name => do return (name, ← settled kind found name) with
    | error failure => rfl
    | ok fields =>
        have same : withOptions fields = fields :=
          withOptions_of_notMem (names_of_mapM_settled went ▸ apart)
        exact congrArg rest same

theorem make_eq (kind : ObjectKind) (found : List (String × Stored)) (width : Data) :
    make kind found width =
      if kind.required.all fun name => (assoc? found name).isSome then do
        let fields ← kind.fields.mapM fun name => do return (name, ← settled kind found name)
        check kind fields
        withWidth kind width fields
      else .error (.grammar (.malformed kind.name)) := by
  rw [make_eq_filled]
  split
  next => exact mapM_filled kind found fun fields => do
    check kind fields
    withWidth kind width fields
  next => rfl

/-- A field is held as it is found, as a list, as sorted flags, as options or as a list of start
symbols. -/
theorem settleField_cases {kind : ObjectKind} {name : String} (member : name ∈ kind.fields) :
    (name ≠ "flags" ∧ name ≠ "empty_indices" ∧
      ∀ value, settleField kind name value = .ok value) ∨
    (name ≠ "flags" ∧ ∀ value, settleField kind name value = settleList kind value) ∨
    (name = "flags" ∧ ∀ value, settleField kind name value = settleFlags kind value) ∨
    (name = "options" ∧ kind = .rule ∧
      ∀ value, settleField kind name value = .ok (if value.holds then value else noOptions)) ∨
    (name = "start" ∧ ∀ value, settleField kind name value =
      match value.asText? with
      | some _ => .ok (.list [value])
      | none => settleList kind value) := by
  have plainly {name : String} (found : name ≠ "flags" ∧ name ≠ "empty_indices")
      (same : ∀ value, settleField kind name value = .ok value) :
      name ≠ "flags" ∧ name ≠ "empty_indices" ∧
        ∀ value, settleField kind name value = .ok value :=
    ⟨found.1, found.2, same⟩
  cases kind <;> simp only [ObjectKind.fields, List.mem_cons, List.not_mem_nil, or_false] at member
  case terminalSymbol =>
    rcases member with rfl | rfl
    all_goals exact .inl (plainly (by decide) fun _ => rfl)
  case nonterminalSymbol =>
    subst member
    exact .inl (plainly (by decide) fun _ => rfl)
  case ruleOptions =>
    rcases member with rfl | rfl | rfl | rfl | rfl
    case inr.inr.inr.inr => exact .inr (.inl ⟨by decide, fun _ => rfl⟩)
    all_goals exact .inl (plainly (by decide) fun _ => rfl)
  case rule =>
    rcases member with rfl | rfl | rfl | rfl | rfl
    case inr.inl => exact .inr (.inl ⟨by decide, fun _ => rfl⟩)
    case inr.inr.inr.inr => exact .inr (.inr (.inr (.inl ⟨rfl, rfl, fun _ => rfl⟩)))
    all_goals exact .inl (plainly (by decide) fun _ => rfl)
  case literal | expression =>
    rcases member with rfl | rfl | rfl
    case inr.inl => exact .inr (.inr (.inl ⟨rfl, fun _ => rfl⟩))
    all_goals exact .inl (plainly (by decide) fun _ => rfl)
  case terminal =>
    rcases member with rfl | rfl | rfl
    all_goals exact .inl (plainly (by decide) fun _ => rfl)
  case lexerSettings =>
    rcases member with rfl | rfl | rfl | rfl
    case inl | inr.inl => exact .inr (.inl ⟨by decide, fun _ => rfl⟩)
    all_goals exact .inl (plainly (by decide) fun _ => rfl)
  case parserSettings =>
    rcases member with rfl | rfl | rfl
    case inl => exact .inr (.inl ⟨by decide, fun _ => rfl⟩)
    case inr.inl => exact .inr (.inr (.inr (.inr ⟨rfl, fun _ => rfl⟩)))
    exact .inl (plainly (by decide) fun _ => rfl)

/-- Whether two things are the same as far as flags and marks go: the same text, if one is a text,
and both hold or neither does. -/
def Agrees (value value' : Stored) : Prop :=
  value'.asText? = value.asText? ∧ value'.holds = value.holds

/-- Whether a sequence has items that agree with those of another. -/
def SameItems (value value' : Stored) : Prop :=
  ∀ items, value.elements? = some items →
    ∃ items', value'.elements? = some items' ∧ List.Forall₂ Agrees items items'

theorem worn_plains (items : List Data) :
    List.Forall₂ Worn (items.map plain) (items.map plain) := by
  rw [List.forall₂_map_left_iff, List.forall₂_map_right_iff, List.forall₂_same]
  exact fun data _ => .plain data

/-- The items of a sequence that is left are what is left of the items. -/
theorem Worn.elements {value value' : Stored} (worn : value.Worn value') {items : List Stored}
    (found : value.elements? = some items) :
    ∃ items', value'.elements? = some items' ∧ Worn (.list items) (.list items') := by
  have names (fields : List (String × Stored)) :
      (fields.map fun entry => Stored.plain (.text entry.1)) = (fields.map (·.1)).map ofText := by
    rw [List.map_map]
    rfl
  cases worn with
  | plain data =>
      refine ⟨items, found, .list ?_⟩
      rcases Option.map_eq_some_iff.mp found with ⟨_, _, rfl⟩
      exact worn_plains _
  | list each =>
      cases found
      exact ⟨_, rfl, .list each⟩
  | texts lost =>
      cases found
      exact ⟨_, rfl, .texts lost⟩
  | record lost =>
      cases found
      refine ⟨_, rfl, ?_⟩
      rw [names, names]
      exact .texts lost
  | object _ => cases found

theorem asText?_eq_some {value : Stored} {text : String} (given : value.asText? = some text) :
    value = ofText text := by
  unfold asText? at given
  split at given
  next => exact congrArg ofText (Option.some.inj given)
  next => cases given

theorem all_isKey {items : List Stored} {letters : List String}
    (texts : items.mapM asText? = some letters) : items.all isKey = true := by
  induction items generalizing letters with
  | nil => rfl
  | cons item rest ih =>
      rw [List.mapM_cons] at texts
      rcases Option.bind_eq_some_iff.mp texts with ⟨text, given, texts⟩
      rcases Option.bind_eq_some_iff.mp texts with ⟨others, texts, _⟩
      rw [asText?_eq_some given, List.all_cons, ih texts]
      rfl

/-- Flags that are settled have been found to be texts. -/
theorem settleFlags_eq_ok {kind : ObjectKind} {value held : Stored}
    (went : settleFlags kind value = .ok held) :
    ∃ items letters, value.elements? = some items ∧ items.mapM asText? = some letters ∧
      held = .list ((sortedSet letters).map ofText) := by
  cases found : value.elements? with
  | none =>
      simp only [settleFlags, found] at went
      cases went
  | some items =>
      cases texts : items.mapM asText? with
      | none =>
          simp only [settleFlags, found, texts] at went
          split at went <;> split at went <;> cases went
      | some letters =>
          simp only [settleFlags, found, texts] at went
          split at went
          next =>
            cases went
            exact ⟨items, letters, rfl, texts, rfl⟩
          next => cases went

/-- Flags that are the same make the same field. -/
theorem settleFlags_same {kind : ObjectKind} {value value' held : Stored}
    (same : SameItems value value') (went : settleFlags kind value = .ok held) :
    settleFlags kind value' = .ok held := by
  rcases settleFlags_eq_ok went with ⟨items, letters, found, texts, rfl⟩
  rcases same items found with ⟨items', found', agree⟩
  have texts' : items'.mapM asText? = some letters := by
    rw [← texts]
    clear texts found found'
    induction agree with
    | nil => rfl
    | cons head _ ih => rw [List.mapM_cons, List.mapM_cons, head.1, ih]
  simp only [settleFlags, found', texts', all_isKey texts']
  rfl

/-- Whether a field holds what is left of what it held, or its default if the object can do without
it. -/
def Kept (kind : ObjectKind) (name : String) (value value' : Stored) : Prop :=
  (Worn value value' ∧ Steady name value value') ∨
    (name ∈ kind.optional ∧ value' = fallback kind name)

/-- Whether what is found for the fields of an object is what is left of what was found before. -/
structure FoundWorn (found found' : List (String × Stored)) : Prop where
  kept : ∀ name value', assoc? found' name = some value' → ∃ value,
    assoc? found name = some value ∧ Worn value value' ∧
      (name = "flags" ∨ name = "empty_indices" → SameItems value value')
  flags : assoc? found' "flags" = none → assoc? found "flags" = none

theorem steady_of_ne {name : String} {value value' : Stored} {kind : ObjectKind}
    (member : name ∈ kind.fields) (noFlags : name ≠ "flags")
    (noMarks : name ≠ "empty_indices") :
    Steady name value value' := by
  have noWidth : name ≠ "_width" := by
    rintro rfl
    revert member
    cases kind <;> decide
  exact ⟨fun flags => (flags.elim noFlags noWidth).elim, fun marks => absurd marks noMarks⟩

theorem settleList_fair {kind : ObjectKind} {value value' held : Stored} (worn : Worn value value')
    (went : settleList kind value = .ok held) : Fair (Worn held) (settleList kind value') := by
  unfold settleList at went
  split at went
  next items found =>
    cases went
    rcases worn.elements found with ⟨items', found', worn'⟩
    rw [settleList, found']
    exact .ok worn'
  next => cases went

theorem marks_of_same {kind : ObjectKind} {value value' held held' : Stored}
    (same : SameItems value value') (went : settleList kind value = .ok held)
    (went' : settleList kind value' = .ok held') : held'.marks = held.marks := by
  unfold settleList at went went'
  split at went
  next items found =>
    rcases same items found with ⟨items', found', agree⟩
    rw [found'] at went'
    cases went
    cases went'
    show items'.map holds = items.map holds
    clear found found'
    induction agree with
    | nil => rfl
    | cons head _ ih => rw [List.map_cons, List.map_cons, head.2, ih]
  next => cases went

theorem Worn.asText? {value value' : Stored} (worn : Worn value value') :
    value'.asText? = value.asText? := by
  cases worn <;> rfl

/-- What is left of something holds only if the thing did. -/
theorem Worn.holds {value value' : Stored} (worn : Worn value value')
    (holds : value'.holds = true) :
    value.holds = true := by
  cases worn with
  | plain _ => exact holds
  | list each =>
      cases each with
      | nil => exact holds
      | cons _ _ => rfl
  | @texts texts texts' lost =>
      cases texts with
      | nil =>
          rw [List.sublist_nil.mp lost] at holds
          exact holds
      | cons _ _ => rfl
  | @record fields fields' lost =>
      cases fields with
      | nil =>
          rw [List.map_eq_nil_iff.mp (List.sublist_nil.mp lost)] at holds
          exact holds
      | cons _ _ => rfl
  | object _ => rfl

/-- A field for which something is found holds what is left of what it held. -/
theorem settleField_fair {kind : ObjectKind} {name : String} {value value' held : Stored}
    (member : name ∈ kind.fields) (worn : Worn value value')
    (same : name = "flags" ∨ name = "empty_indices" → SameItems value value')
    (went : settleField kind name value = .ok held) :
    Fair (Kept kind name held) (settleField kind name value') := by
  rcases settleField_cases member with ⟨noFlags, noMarks, plainly⟩ | ⟨noFlags, listed⟩ |
    ⟨rfl, sorted⟩ | ⟨rfl, rfl, chosen⟩ | ⟨rfl, started⟩
  · rw [plainly] at went ⊢
    cases went
    exact .ok (.inl ⟨worn, steady_of_ne member noFlags noMarks⟩)
  · rw [listed] at went ⊢
    refine (settleList_fair worn went).known.imp fun held' ⟨went', worn⟩ => .inl ⟨worn, ?_⟩
    by_cases noMarks : name = "empty_indices"
    · refine ⟨fun other => ?_, fun _ => marks_of_same (same (.inr noMarks)) went went'⟩
      subst noMarks
      exact absurd other (by decide)
    · exact steady_of_ne member noFlags noMarks
  · rw [sorted] at went ⊢
    refine .of_ok (settleFlags_same (same (.inl rfl)) went)
      (.inl ⟨?_, fun _ => rfl, fun _ => rfl⟩)
    rcases settleFlags_eq_ok went with ⟨_, letters, _, _, rfl⟩
    exact .texts (.refl _)
  · rw [chosen] at went ⊢
    cases went
    by_cases holds' : value'.holds = true
    · rw [if_pos holds', if_pos (worn.holds holds')]
      exact .ok (.inl ⟨worn, steady_of_ne member (by decide) (by decide)⟩)
    · rw [if_neg holds']
      exact .ok (.inr ⟨by decide, rfl⟩)
  · rw [started, worn.asText?]
    rw [started] at went
    have steady (held' : Stored) : Steady "start" held held' :=
      steady_of_ne member (by decide) (by decide)
    split at went
    next =>
      cases went
      exact .ok (.inl ⟨.list (.cons worn .nil), steady _⟩)
    next => exact (settleList_fair worn went).imp fun held' worn => .inl ⟨worn, steady held'⟩

/-- A field of an object holds what is left of what it held, if the object cannot do without it. -/
theorem settled_fair {kind : ObjectKind} {name : String} {found found' : List (String × Stored)}
    {held : Stored} (worn : FoundWorn found found') (member : name ∈ kind.fields)
    (present : name ∈ kind.required → (assoc? found' name).isSome)
    (went : settled kind found name = .ok held) :
    Fair (Kept kind name held) (settled kind found' name) := by
  cases found' : assoc? found' name with
  | some value' =>
      rcases worn.kept name value' found' with ⟨value, known, left, same⟩
      rw [settled, known] at went
      rw [settled, found']
      exact settleField_fair member left same went
  | none =>
      rw [settled, found']
      by_cases flags : name = "flags"
      · subst flags
        rw [settled, worn.flags found'] at went
        cases went
        refine .ok (.inl ⟨?_, fun _ => rfl, fun _ => rfl⟩)
        cases kind <;> first | exact .plain _ | exact .list .nil
      · refine .ok (.inr ⟨List.mem_filter.mpr ⟨member, ?_⟩, rfl⟩)
        have optional : name ∉ kind.required := fun required => by
          simp [found'] at present
          exact present required
        simp [optional, flags]

namespace FieldsWorn

variable {related : Stored → Stored → Prop} {kind : ObjectKind}
  {fields fields' : List (String × Stored)}

theorem concat (worn : FieldsWorn related fields fields' kind) {name : String} {value : Stored}
    (same : related value value) :
    FieldsWorn related (fields ++ [(name, value)]) (fields' ++ [(name, value)]) kind := by
  induction worn with
  | nil => exact .kept ⟨fun _ => rfl, fun _ => rfl⟩ same .nil
  | kept steady head _ ih => exact .kept steady head ih
  | spare optional _ ih => exact .spare optional ih

/-- A field that was there is there, with what is left of its value or with its default. -/
theorem exists_assoc? (worn : FieldsWorn related fields fields' kind) {name : String}
    {value : Stored} (found : assoc? fields name = some value) :
    ∃ value', assoc? fields' name = some value' ∧
      ((related value value' ∧ Steady name value value') ∨
        (name ∈ kind.optional ∧ value' = fallback kind name)) := by
  induction worn with
  | nil => cases found
  | @kept kind other value value' rest rest' steady head _ ih =>
      simp only [assoc?] at found ⊢
      split at found
      next here =>
        cases found
        subst here
        exact ⟨value', if_pos rfl, .inl ⟨head, steady⟩⟩
      next elsewhere =>
        rw [if_neg elsewhere]
        exact ih found
  | @spare kind other value rest rest' optional _ ih =>
      simp only [assoc?] at found ⊢
      split at found
      next here =>
        subst here
        exact ⟨_, if_pos rfl, .inr ⟨optional, rfl⟩⟩
      next elsewhere =>
        rw [if_neg elsewhere]
        exact ih found

/-- A field that was not there is not there. -/
theorem assoc?_eq_none (worn : FieldsWorn related fields fields' kind) {name : String}
    (none : assoc? fields name = none) : assoc? fields' name = .none := by
  induction worn with
  | nil => rfl
  | kept _ _ _ ih | spare _ _ ih =>
      simp only [assoc?] at none ⊢
      split at none
      next => cases none
      next elsewhere =>
        rw [if_neg elsewhere]
        exact ih none

end FieldsWorn

theorem fieldsWorn_of_kept {kind : ObjectKind} {fields fields' : List (String × Stored)}
    (each : List.Forall₂ (fun field field' => field.1 = field'.1 ∧
      Kept kind field.1 field.2 field'.2) fields fields') :
    FieldsWorn Worn fields fields' kind := by
  induction each with
  | nil => exact .nil
  | @cons field field' rest rest' head _ ih =>
      rcases field with ⟨name, value⟩
      rcases field' with ⟨_, value'⟩
      rcases head with ⟨rfl, ⟨worn, steady⟩ | ⟨optional, rfl⟩⟩
      · exact .kept steady worn ih
      · exact .spare optional ih

/-- An object is left of the same kind. -/
theorem Worn.isObject {kinds : List ObjectKind} {value value' : Stored} (worn : Worn value value') :
    value'.isObject kinds = value.isObject kinds := by
  cases worn <;> rfl

/-- What is left of an object passes the check of its kind or is found to be malformed. -/
theorem check_fair {kind : ObjectKind} {fields fields' : List (String × Stored)}
    (worn : FieldsWorn Worn fields fields' kind) (went : check kind fields = .ok ()) :
    Fair (fun _ => True) (check kind fields') := by
  have patterned {patternKind : PatternKind} {value : String} {letters : List String} :
      Fair (fun _ => True) (discard (Pattern.make patternKind value letters)) := by
    unfold Pattern.make
    simp only
    split
    · exact .ok trivial
    · exact .error trivial
  cases kind with
  | rule =>
      unfold check
      simp only
      split
      · exact .ok trivial
      · exact .error trivial
  | terminal =>
      cases found : assoc? fields "pattern" with
      | none =>
          simp only [check, found] at went
          cases went
      | some pattern =>
          rcases worn.exists_assoc? found with
            ⟨pattern', found', ⟨left, _⟩ | ⟨optional, _⟩⟩
          · simp only [check, found, found', Option.any_some, left.isObject] at went ⊢
            exact .of_ok went trivial
          · exact absurd optional (by decide)
  | literal => exact patterned
  | expression => exact patterned
  | terminalSymbol => exact .ok trivial
  | nonterminalSymbol => exact .ok trivial
  | ruleOptions => exact .ok trivial
  | lexerSettings => exact .ok trivial
  | parserSettings => exact .ok trivial

theorem worn_of_settleWidth {width : Data} {pair : Stored}
    (went : settleWidth width = .ok (some pair)) : Worn pair pair := by
  unfold settleWidth at went
  split at went
  next => cases went
  next =>
    split at went
    next least most _ =>
      cases went
      exact .list (.cons (.plain least) (.cons (.plain most) .nil))
    next => cases went
    next => cases went

theorem withWidth_fair {kind : ObjectKind} {fields fields' : List (String × Stored)} {width : Data}
    {stored : Stored} (worn : FieldsWorn Worn fields fields' kind)
    (went : withWidth kind width fields = .ok stored) :
    Fair (Worn stored) (withWidth kind width fields') := by
  unfold withWidth at went ⊢
  split at went
  next isExpression =>
    rcases bind_eq_ok.mp went with ⟨settled, known, went⟩
    rw [if_pos isExpression, known]
    cases settled with
    | none =>
        cases went
        exact .ok (.object worn)
    | some pair =>
        cases went
        exact .ok (.object (worn.concat (worn_of_settleWidth known)))
  next other =>
    rw [if_neg other]
    cases went
    exact .ok (.object worn)

/-- An object is made of what is left of what it was made of, or something that it needs is found to
be missing. -/
theorem make_fair {kind : ObjectKind} {found found' : List (String × Stored)} {width : Data}
    {stored : Stored} (worn : FoundWorn found found') (made : make kind found width = .ok stored) :
    Fair (Worn stored) (make kind found' width) := by
  rw [make_eq] at made ⊢
  split
  next complete =>
    split at made
    next =>
      rcases bind_eq_ok.mp made with ⟨fields, went, made⟩
      rcases bind_eq_ok.mp made with ⟨_, checked, made⟩
      have each : List.Forall₂ (fun field name =>
          Fair (fun field' => field.1 = field'.1 ∧ Kept kind field.1 field.2 field'.2)
        (do return (name, ← settled kind found' name))) fields kind.fields := by
        refine List.Forall₂.flip (List.Forall₂.imp ?_ ((List.forall₂_and_left _ _).mpr
          ⟨fun _ member => member, mapM_eq_ok went⟩))
        rintro name field ⟨member, went⟩
        rcases bind_eq_ok.mp went with ⟨held, known, went⟩
        cases went
        have present : name ∈ kind.required → (assoc? found' name).isSome := fun required =>
          List.all_eq_true.mp complete name required
        exact (settled_fair worn member present known).bind fun held' kept => .ok ⟨rfl, kept⟩
      refine (Fair.mapM each).bind fun fields' each => ?_
      have worn := fieldsWorn_of_kept each
      exact (check_fair worn checked).bind fun _ _ => withWidth_fair worn made
    next => cases made
  next => exact .error trivial

end Stored

end Lalr
