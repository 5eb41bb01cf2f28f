import Lalr.Data.Basic
import Lalr.Proofs.Pairs

/-!
# Data that lacks a key

A key may be removed from a record anywhere in some data. What is left has the same
shape: lists are as long as before, and the fields of a record are those from before, each
with what is left of its value, apart from one that may be missing. This is what the
proofs about damaged data go by, since it can be followed down record by record.
-/

namespace Lalr

namespace Data

theorem lookup_eq_assoc? (fields : List (String × Data)) (name : String) :
    lookup fields name = assoc? fields name := by
  induction fields with
  | nil => rfl
  | cons field rest ih =>
      rcases field with ⟨other, value⟩
      simp only [lookup] at ih ⊢
      by_cases here : other = name
      · simp [assoc?, here]
      · simpa [assoc?, here] using ih

/-- Whether one piece of data is another without a key of one of its records. The path holds the
names of the fields that lead to the record. -/
inductive Lacks (key : String) : List String → Data → Data → Prop
  | here {fields : List (String × Data)} (held : key ∈ fields.map (·.1)) :
      Lacks key [] (.record fields) (.record (fields.filter fun field => field.1 ≠ key))
  | field {name : String} {path : List String} {value value' : Data}
      (before after : List (String × Data)) (below : Lacks key path value value') :
      Lacks key (name :: path) (.record (before ++ (name, value) :: after))
        (.record (before ++ (name, value') :: after))
  | item {path : List String} {value value' : Data} (before after : List Data)
      (below : Lacks key path value value') :
      Lacks key path (.list (before ++ value :: after)) (.list (before ++ value' :: after))

/-- The keys by which objects and references are told from records, and those of a pattern that say
what it matches. -/
def vital : List String := ["__type__", "@", "_width", "flags"]

/-- The fields that an object uses all of. -/
def delicate : List String := ["flags", "_width", "empty_indices"]

/-- Whether a key can be lost without changing what kind of thing anything is, and does not stand
within a field that an object uses all of. -/
def Dispensable (key : String) (path : List String) : Prop :=
  key ∉ vital ∧ ∀ name ∈ path, name ∉ delicate

/-- Whether some fields are what is left of others, where the values of fields that are kept are
related. -/
inductive FieldsPruned (related : Data → Data → Prop) :
    List (String × Data) → List (String × Data) → Prop
  | nil : FieldsPruned related [] []
  | kept {name : String} {value value' : Data} {rest rest' : List (String × Data)}
      (steady : name ∈ delicate → value' = value) (head : related value value')
      (tail : FieldsPruned related rest rest') :
      FieldsPruned related ((name, value) :: rest) ((name, value') :: rest')
  | lost {name : String} {value : Data} {rest rest' : List (String × Data)}
      (spared : name ∉ vital) (gone : name ∉ rest'.map (·.1))
      (tail : FieldsPruned related rest rest') :
      FieldsPruned related ((name, value) :: rest) rest'

/-- Whether one piece of data is what is left of another. -/
inductive Pruned : Data → Data → Prop
  | scalar {data : Data} (noList : data.asList? = none) (noRecord : data.isRecord = false) :
      Pruned data data
  | list {items items' : List Data} (each : List.Forall₂ Pruned items items') :
      Pruned (.list items) (.list items')
  | record {fields fields' : List (String × Data)} (each : FieldsPruned Pruned fields fields') :
      Pruned (.record fields) (.record fields')

mutual

/-- Data of which nothing is lost is left as it is. -/
theorem Pruned.refl : (data : Data) → Pruned data data
  | .null => .scalar rfl rfl
  | .bool _ => .scalar rfl rfl
  | .int _ => .scalar rfl rfl
  | .decimal _ _ => .scalar rfl rfl
  | .text _ => .scalar rfl rfl
  | .list items => .list (Pruned.items_refl items)
  | .record fields => .record (Pruned.fields_refl fields)

theorem Pruned.items_refl : (items : List Data) → List.Forall₂ Pruned items items
  | [] => .nil
  | item :: rest => .cons (Pruned.refl item) (Pruned.items_refl rest)

theorem Pruned.fields_refl : (fields : List (String × Data)) → FieldsPruned Pruned fields fields
  | [] => .nil
  | (_, value) :: rest => .kept (fun _ => rfl) (Pruned.refl value) (Pruned.fields_refl rest)

end

/-- Data can be followed down record by record and list by list. -/
theorem Pruned.induct {motive : Data → Data → Prop}
    (scalar : ∀ data : Data, data.asList? = none → data.isRecord = false → motive data data)
    (list : ∀ items items', List.Forall₂ Pruned items items' →
      List.Forall₂ motive items items' →
      motive (.list items) (.list items'))
    (record : ∀ fields fields', FieldsPruned Pruned fields fields' →
      FieldsPruned motive fields fields' → motive (.record fields) (.record fields'))
    {data data' : Data} (pruned : Pruned data data') : motive data data' :=
  @Pruned.rec (fun data data' _ => motive data data')
    (fun items items' _ => List.Forall₂ motive items items')
    (fun fields fields' _ => FieldsPruned motive fields fields')
    (fun {data} noList noRecord => scalar data noList noRecord)
    (fun {items items'} each below => list items items' each below)
    (fun {fields fields'} each below => record fields fields' each below)
    .nil (fun _ _ head tail => .cons head tail)
    .nil (fun steady _ _ head tail => .kept steady head tail)
    (fun spared gone _ tail => .lost spared gone tail) data data' pruned

theorem Pruned.eq_of_scalar {data data' : Data} (pruned : Pruned data data')
    (noList : data.asList? = none) (noRecord : data.isRecord = false) : data' = data := by
  cases pruned with
  | scalar => rfl
  | list => cases noList
  | record => cases noRecord

namespace FieldsPruned

variable {related : Data → Data → Prop} {fields fields' : List (String × Data)}

theorem names (pruned : FieldsPruned related fields fields') :
    (fields'.map (·.1)).Sublist (fields.map (·.1)) := by
  induction pruned with
  | nil => exact .slnil
  | kept _ _ _ ih => exact ih.cons_cons _
  | lost _ _ _ ih => exact ih.cons _

/-- What is found under a name in what is left of some fields is what is left of what is found there
in the fields. -/
theorem exists_assoc? (pruned : FieldsPruned related fields fields') {name : String} {value' : Data}
    (found : assoc? fields' name = some value') :
    ∃ value, assoc? fields name = some value ∧ related value value' ∧
      (name ∈ delicate → value' = value) := by
  induction pruned with
  | nil => cases found
  | @kept other value value'' rest rest' steady head _ ih =>
      simp only [assoc?] at found ⊢
      split at found
      next here =>
        cases found
        exact ⟨value, by rw [if_pos here], head, here ▸ steady⟩
      next elsewhere =>
        rcases ih found with ⟨value, found, known⟩
        exact ⟨value, by rw [if_neg elsewhere, found], known⟩
  | @lost other value rest rest' _ gone _ ih =>
      have elsewhere : other ≠ name := by
        rintro rfl
        exact gone (List.mem_map_of_mem (f := (·.1)) (mem_of_assoc? found))
      rcases ih found with ⟨value, found, known⟩
      exact ⟨value, by rw [assoc?, if_neg elsewhere, found], known⟩

/-- What is not found any more was not found before or can be spared. -/
theorem notMem_vital (pruned : FieldsPruned related fields fields') {name : String}
    (none : assoc? fields' name = none) : assoc? fields name = .none ∨ name ∉ vital := by
  induction pruned with
  | nil => exact .inl rfl
  | @kept other value value'' rest rest' _ _ _ ih =>
      simp only [assoc?] at none ⊢
      split at none
      next => cases none
      next elsewhere =>
        rw [if_neg elsewhere]
        exact ih none
  | @lost other value rest rest' spared _ _ ih =>
      by_cases here : other = name
      · exact .inr (here ▸ spared)
      · rw [assoc?, if_neg here]
        exact ih none

/-- What was not found before is not found. -/
theorem eq_none (pruned : FieldsPruned related fields fields') {name : String}
    (none : assoc? fields name = none) : assoc? fields' name = .none := by
  cases found' : assoc? fields' name with
  | none => rfl
  | some value' =>
      rcases pruned.exists_assoc? found' with ⟨value, found, _⟩
      rw [none] at found
      cases found

/-- What is found under a vital name is not lost. -/
theorem exists_vital (pruned : FieldsPruned related fields fields') {name : String} {value : Data}
    (needed : name ∈ vital) (found : assoc? fields name = some value) :
    ∃ value', assoc? fields' name = some value' ∧ related value value' ∧
      (name ∈ delicate → value' = value) := by
  cases found' : assoc? fields' name with
  | none =>
      rw [(pruned.notMem_vital found').resolve_right fun spared => spared needed] at found
      cases found
  | some value' =>
      rcases pruned.exists_assoc? found' with ⟨_, known, left⟩
      rw [known] at found
      cases found
      exact ⟨value', rfl, left⟩

theorem exists_of_mem (pruned : FieldsPruned related fields fields') {field' : String × Data}
    (mem : field' ∈ fields') : ∃ field ∈ fields, field.1 = field'.1 ∧
      related field.2 field'.2 := by
  induction pruned with
  | nil => cases mem
  | @kept name value value' rest rest' _ head _ ih =>
      rcases List.mem_cons.mp mem with rfl | later
      · exact ⟨(name, value), List.mem_cons_self, rfl, head⟩
      · rcases ih later with ⟨field, listed, known⟩
        exact ⟨field, List.mem_cons_of_mem _ listed, known⟩
  | lost _ _ _ ih =>
      rcases ih mem with ⟨field, listed, known⟩
      exact ⟨field, List.mem_cons_of_mem _ listed, known⟩

end FieldsPruned

theorem FieldsPruned.filter {key : String} (spared : key ∉ vital)
    (fields : List (String × Data)) :
    FieldsPruned Pruned fields (fields.filter fun field => field.1 ≠ key) := by
  induction fields with
  | nil => exact .nil
  | cons field rest ih =>
      rcases field with ⟨name, value⟩
      by_cases here : name = key
      · rw [List.filter_cons_of_neg (by simpa using here)]
        exact .lost (here ▸ spared) (by simp [here]) ih
      · rw [List.filter_cons_of_pos (by simpa using here)]
        exact .kept (fun _ => rfl) (.refl value) ih

theorem FieldsPruned.behind {fields fields' : List (String × Data)}
    (before : List (String × Data)) (pruned : FieldsPruned Pruned fields fields') :
    FieldsPruned Pruned (before ++ fields) (before ++ fields') := by
  induction before with
  | nil => exact pruned
  | cons field rest ih => exact .kept (fun _ => rfl) (.refl field.2) ih

/-- What lacks a key that is dispensable is what is left. Induction on the way to the record that
lacks the key. -/
theorem Lacks.pruned {key : String} {path : List String} {data data' : Data}
    (lacks : data.Lacks key path data') (dispensable : Dispensable key path) :
    Pruned data data' := by
  rcases dispensable with ⟨spared, outside⟩
  induction lacks with
  | here => exact .record (.filter spared _)
  | @field name path value value' before after _ ih =>
      rw [List.forall_mem_cons] at outside
      exact .record (.behind before (.kept (fun within => absurd within outside.1) (ih outside.2)
        (Pruned.fields_refl after)))
  | item before after _ ih =>
      exact .list (List.rel_append (Pruned.items_refl before)
        (.cons (ih outside) (Pruned.items_refl after)))

namespace Pruned

variable {data data' : Data}

theorem asText? (pruned : data.Pruned data') : data'.asText? = data.asText? := by
  cases pruned <;> rfl

theorem isNumber (pruned : data.Pruned data') (n : Int) : data'.isNumber n = data.isNumber n := by
  cases pruned <;> rfl

/-- A field of what is left of a record holds what is left of what it held. -/
theorem exists_field? (pruned : data.Pruned data') {name : String} {value' : Data}
    (found' : data'.field? name = some value') :
    ∃ value, data.field? name = some value ∧ value.Pruned value' := by
  cases pruned with
  | scalar => exact ⟨value', found', .refl _⟩
  | list => cases found'
  | record each =>
      rw [field?, lookup_eq_assoc?] at found'
      rcases each.exists_assoc? found' with ⟨value, found, left, _⟩
      exact ⟨value, by rw [field?, lookup_eq_assoc?, found], left⟩

/-- What is left of some data holds only if the data did. -/
theorem holds (pruned : data.Pruned data') (holds : data'.holds = true) : data.holds = true := by
  cases pruned with
  | scalar => exact holds
  | list each =>
      cases each with
      | nil => exact holds
      | cons _ _ => rfl
  | @record fields fields' each =>
      cases each with
      | nil => exact holds
      | kept _ _ _ | lost _ _ _ => rfl

end Pruned

end Data

end Lalr
