import Lalr.Proofs.Data.Pruning
import Lalr.Proofs.Parser.Options

/-!
# Routes through data

A scalar that stands deep inside some data is reached through the fields of records. If a
key is lost somewhere, the scalar is still there, unless the key lies on the route to it.
-/

namespace Lalr

namespace Data

/-- What some data holds at the end of a route through the fields of records. -/
def dig (data : Data) : List String → Option Data
  | [] => some data
  | name :: route => (data.field? name).bind fun value => value.dig route

/-- Whether some data has no parts. -/
def isScalar (data : Data) : Bool := data.asList?.isNone && !data.isRecord

theorem dig_cons (fields : List (String × Data)) (name : String) (route : List String) :
    (Data.record fields).dig (name :: route) =
      (assoc? fields name).bind fun value => value.dig route := by
  rw [dig, field?, lookup_eq_assoc?]

/-- Where there is a way on, there is a way so far. -/
theorem exists_dig_of_prefix {data value : Data} {route onward : List String}
    (further : route <+: onward) (found : data.dig onward = some value) :
    ∃ value, data.dig route = some value := by
  induction route generalizing data onward with
  | nil => exact ⟨data, rfl⟩
  | cons name route ih =>
      rcases further with ⟨rest, rfl⟩
      rcases Option.bind_eq_some_iff.mp found with ⟨below, there, found⟩
      rcases ih (List.prefix_append route rest) found with ⟨value, known⟩
      exact ⟨value, Option.bind_eq_some_iff.mpr ⟨below, there, known⟩⟩

/-- What is found on a route through a record does not depend on the value of one of its fields, or
else the route goes on through this value. -/
theorem dig_middle (before after : List (String × Data)) (name other : String) :
    (∀ (value value' : Data) (route : List String),
      (record (before ++ (name, value') :: after)).dig (other :: route) =
        (record (before ++ (name, value) :: after)).dig (other :: route)) ∨
    name = other ∧ ∀ (value : Data) (route : List String),
      (record (before ++ (name, value) :: after)).dig (other :: route) = value.dig route := by
  cases earlier : assoc? before other with
  | some held =>
      refine .inl fun value value' route => ?_
      simp [dig_cons, assoc?_append, earlier]
  | none =>
      by_cases here : name = other
      · refine .inr ⟨here, fun value route => ?_⟩
        simp [dig_cons, assoc?_append, earlier, assoc?, here]
      · refine .inl fun value value' route => ?_
        simp [dig_cons, assoc?_append, earlier, assoc?, here]

/-- A scalar is still found at the end of a route, unless the key that has been lost lies on the
route: then there is no way beyond it. Induction on the way to the record that lacks the key. -/
theorem Lacks.dig {key : String} {path : List String} {data data' : Data}
    (lacks : data.Lacks key path data') :
    ∀ {route : List String} {value : Data}, value.isScalar = true →
      data.dig route = some value →
      data'.dig route = some value ∨
        path ++ [key] <+: route ∧ data'.dig (path ++ [key]) = none := by
  induction lacks with
  | @here fields _ =>
      intro route value scalar found
      cases route with
      | nil =>
          cases found
          cases scalar
      | cons name route =>
          by_cases gone : name = key
          · subst gone
            refine .inr ⟨List.cons_prefix_cons.mpr ⟨rfl, List.nil_prefix⟩, ?_⟩
            have missing : name ∉ (fields.filter fun field => field.1 ≠ name).map (·.1) := by
              simp
            rw [List.nil_append, dig_cons, assoc?_of_notMem missing]
            rfl
          · left
            rw [dig_cons] at found ⊢
            have same : assoc? (fields.filter fun field => field.1 ≠ key) name =
                assoc? fields name :=
              assoc?_filter (fun other => decide (other ≠ key)) fields (decide_eq_true gone)
            rw [same]
            exact found
  | @field name path below below' before after _ ih =>
      intro route value scalar found
      cases route with
      | nil =>
          cases found
          cases scalar
      | cons other route =>
          rcases dig_middle before after name other with same | ⟨rfl, through⟩
          · rw [same below below']
            exact .inl found
          · rw [List.cons_append, through, through]
            rw [through] at found
            exact (ih scalar found).imp_right fun cut =>
              ⟨List.cons_prefix_cons.mpr ⟨rfl, cut.1⟩, cut.2⟩
  | item before after _ _ =>
      intro route value scalar found
      cases route with
      | nil =>
          cases found
          cases scalar
      | cons name route => cases found

/-- What is found at the end of a route in what is left of some data is what is left of what was
found there. -/
theorem Pruned.exists_dig {data data' : Data} (pruned : data.Pruned data') {route : List String}
    {value' : Data} (found' : data'.dig route = some value') :
    ∃ value, data.dig route = some value ∧ value.Pruned value' := by
  induction route generalizing data data' with
  | nil =>
      cases found'
      exact ⟨data, rfl, pruned⟩
  | cons name route ih =>
      rcases Option.bind_eq_some_iff.mp found' with ⟨below', there', found'⟩
      rcases pruned.exists_field? there' with ⟨below, there, left⟩
      rcases ih left found' with ⟨value, found, left⟩
      exact ⟨value, Option.bind_eq_some_iff.mpr ⟨below, there, found⟩, left⟩

theorem Pruned.eq_of_isScalar {data data' : Data} (pruned : data.Pruned data')
    (scalar : data'.isScalar = true) : data = data' := by
  cases pruned with
  | scalar => rfl
  | list => cases scalar
  | record => cases scalar

end Data

end Lalr
