import Lalr.Proofs.Shaping.Choosing
import Lalr.Proofs.Shaping.Intervals

/-!
# Placed derivations

What a parse that keeps positions makes of a derivation can be told without a forest: the
tree of a rule gets its position from the places of the values of its symbols. This file
says so as a function of derivations and shows that the places in what comes out are nested
if the tokens lie in a row.
-/

namespace Lalr

namespace Shape

variable {α : Type} {gap : α} {inner : α → List α} {values children : List α}

/-- Whether some children come of some values, in the order of these: each value is left out, kept,
or replaced by what lies in it, and there are gaps between them. -/
inductive Arises (gap : α) (inner : α → List α) : List α → List α → Prop
  | nil : Arises gap inner [] []
  | gap {values children : List α} (rest : Arises gap inner values children) :
      Arises gap inner values (gap :: children)
  | dropped (value : α) {values children : List α} (rest : Arises gap inner values children) :
      Arises gap inner (value :: values) children
  | kept (value : α) {values children : List α} (rest : Arises gap inner values children) :
      Arises gap inner (value :: values) (value :: children)
  | spliced (value : α) {values children : List α} (rest : Arises gap inner values children) :
      Arises gap inner (value :: values) (inner value ++ children)

namespace Arises

theorem none (values : List α) : Arises gap inner values [] := by
  induction values with
  | nil => exact .nil
  | cons value values ih => exact .dropped value ih

theorem all (values : List α) : Arises gap inner values values := by
  induction values with
  | nil => exact .nil
  | cons value values ih => exact .kept value ih

theorem gaps (count : Nat) (arises : Arises gap inner values children) :
    Arises gap inner values (List.replicate count gap ++ children) := by
  induction count with
  | zero => exact arises
  | succ count ih =>
      rw [List.replicate_succ]
      exact .gap ih

theorem gaps_after (count : Nat) (arises : Arises gap inner values children) :
    Arises gap inner values (children ++ List.replicate count gap) := by
  induction arises with
  | nil => simpa using gaps count nil
  | gap _ ih => exact .gap ih
  | dropped value _ ih => exact .dropped value ih
  | kept value _ ih => exact .kept value ih
  | spliced value _ ih =>
      rw [List.append_assoc]
      exact .spliced value ih

/-- What comes of some values is one of them, lies in one of them, or is a gap. -/
theorem mem (arises : Arises gap inner values children) {child : α} (member : child ∈ children) :
    child = gap ∨ ∃ value ∈ values, child = value ∨ child ∈ inner value := by
  induction arises with
  | nil => cases member
  | gap _ ih => exact (List.mem_cons.mp member).elim .inl ih
  | dropped _ _ ih =>
      exact (ih member).imp_right fun ⟨value, listed, from_⟩ =>
        ⟨value, List.mem_cons_of_mem _ listed, from_⟩
  | kept value _ ih =>
      rcases List.mem_cons.mp member with rfl | member
      · exact .inr ⟨_, List.mem_cons_self .., .inl rfl⟩
      · exact (ih member).imp_right fun ⟨value, listed, from_⟩ =>
          ⟨value, List.mem_cons_of_mem _ listed, from_⟩
  | spliced value _ ih =>
      rcases List.mem_append.mp member with member | member
      · exact .inr ⟨_, List.mem_cons_self .., .inr member⟩
      · exact (ih member).imp_right fun ⟨value, listed, from_⟩ =>
          ⟨value, List.mem_cons_of_mem _ listed, from_⟩

end Arises

theorem pick_arises (keepAll : Bool) (symbols : List Symbol) :
    ∀ (index missing : Nat) (gaps : List Nat), Arises gap inner (values.drop index)
      (pick gap inner values (select keepAll index missing symbols gaps).1) := by
  induction symbols with
  | nil => exact fun _ _ _ => .none _
  | cons symbol symbols ih =>
      intro index missing gaps
      have later := ih (index + 1)
      rw [select]
      dsimp only
      by_cases within : index < values.length
      · rw [List.drop_eq_getElem_cons within]
        split
        next =>
          rw [pick, addition, List.getElem?_eq_getElem within, List.append_assoc]
          dsimp only
          split
          · exact .gaps _ (.spliced _ (later ..))
          · exact .gaps _ (.kept _ (later ..))
        next => exact .dropped _ (later ..)
      · have beyond (count : Nat) (large : values.length ≤ count) : values.drop count = [] :=
          List.drop_eq_nil_of_le large
        rw [beyond (index + 1) (by omega)] at later
        rw [beyond index (by omega)]
        split
        next =>
          rw [pick, addition, List.getElem?_eq_none (Nat.not_lt.mp within), List.append_nil]
          exact .gaps _ (later ..)
        next => exact later ..

/-- The children that a rule chooses come of the values of its symbols. -/
theorem chosen_arises (gap : α) (inner : α → List α) {rule : Rule} {placeholders : Bool}
    {shape : Shape} (shaped : ofRule rule placeholders = .ok shape) (values : List α) :
    Arises gap inner values (shape.chosen gap inner values) := by
  unfold chosen
  rcases ofRule_eq_ok shaped with ⟨-, -, ⟨selects, -⟩ | ⟨takesAll, -⟩⟩
  · rw [selects]
    exact (pick_arises _ _ 0 0 _).gaps_after _
  · rw [takesAll]
    exact .all values

/-- What a rule is replaced by where some places make up its position: its only child, or a tree of
all its children. -/
def wrapped (unwraps : Bool) (label : String) (variant : Bool) (places : List Place)
    (chosen : List Appearance) : Appearance :=
  match unwraps, chosen with
  | true, [only] => only.around places
  | _, _ => .node label (({} : Span).around places) variant chosen

/-- What a rule makes of the values of its symbols where positions are kept. -/
def located (shape : Shape) (label : String) (variant : Bool) (seen : List Appearance) :
    Appearance :=
  wrapped shape.unwraps label variant (Appearance.placesOf seen)
    (shape.chosen (.plain .nothing) Appearance.children seen)

/-- Whether a value is handed on as it is where a rule is replaced by its only child: it is kept,
and not spliced. -/
def HandsOn (shape : Shape) (seen : List Appearance) (index : Nat) : Prop :=
  shape.unwraps = true ∧ (shape.chosen (.plain .nothing) Appearance.children seen).length = 1 ∧
    ∀ kept, shape.selection = some kept → ∃ child ∈ kept, child.index = index ∧
      child.spliced = false

/-- Whether each value that is handed on has a place, comes before all values that have one, or
comes before one of them. -/
def Steady (shape : Shape) (seen : List Appearance) : Prop :=
  ∀ index only, shape.HandsOn seen index → seen[index]? = some only → only.place? = none →
    Appearance.placesOf (seen.drop (index + 1)) = [] → Appearance.placesOf (seen.take index) = []

theorem steady_of_placed {shape : Shape} {seen : List Appearance}
    (placed : ∀ item ∈ seen, item.place?.isSome = true) : shape.Steady seen := by
  intro index only _ found bare
  simpa [bare] using placed only (List.mem_of_getElem? found)

end Shape

namespace Appearance

variable {values children : List Appearance} {low high : Nat}

open Shape

/-- What comes of nested values is nested. -/
theorem nested_of_arises (arises : Arises (.plain .nothing) Appearance.children values children)
    (each : ∀ value ∈ values, value.Nested) : ∀ child ∈ children, child.Nested := by
  intro child member
  rcases arises.mem member with rfl | ⟨value, listed, rfl | inside⟩
  · exact .plain _
  · exact each _ listed
  · exact (each value listed).child child inside

/-- What comes of values without places has none. -/
theorem placesOf_of_arises (arises : Arises (.plain .nothing) Appearance.children values children)
    (each : ∀ value ∈ values, value.Nested) (bare : placesOf values = []) :
    placesOf children = [] := by
  refine placesOf_eq_nil.mpr fun child member => ?_
  rcases arises.mem member with rfl | ⟨value, listed, rfl | inside⟩
  · rfl
  · exact placesOf_eq_nil.mp bare _ listed
  · have unplaced := placesOf_eq_nil.mp bare value listed
    exact placesOf_eq_nil.mp ((each value listed).placesOf_children unplaced) child inside

/-- What comes of values in a row lies in a row. -/
theorem row_of_arises (arises : Arises (.plain .nothing) Appearance.children values children)
    (each : ∀ value ∈ values, value.Nested) (row : Place.Row low high (placesOf values)) :
    Place.Row low high (placesOf children) := by
  induction arises generalizing low with
  | nil => exact row
  | gap _ ih => exact ih each row
  | dropped value _ ih =>
      rcases List.forall_mem_cons.mp each with ⟨_, others⟩
      rw [placesOf, List.filterMap_cons] at row
      split at row
      next => exact ih others row
      next =>
        cases row with
        | cons covers le rest =>
            exact ih others (rest.widen (Nat.le_trans le covers.le) (Nat.le_refl _))
  | kept value _ ih =>
      rcases List.forall_mem_cons.mp each with ⟨_, others⟩
      rw [placesOf, List.filterMap_cons] at row ⊢
      split at row
      next => exact ih others row
      next =>
        cases row with
        | cons covers le rest => exact .cons covers le (ih others rest)
  | spliced value _ ih =>
      rcases List.forall_mem_cons.mp each with ⟨nested, others⟩
      rw [placesOf, List.filterMap_append]
      rw [placesOf, List.filterMap_cons] at row
      split at row
      next bare =>
        rw [show List.filterMap place? value.children = [] from nested.placesOf_children bare]
        exact ih others row
      next place has =>
        cases row with
        | cons covers le rest =>
            exact ((nested.row_children has covers).widen le (Nat.le_refl _)).append
              (ih others rest)

theorem placesOf_append (items others : List Appearance) :
    placesOf (items ++ others) = placesOf items ++ placesOf others :=
  List.filterMap_append

/-- What a rule makes of nested values in a row is nested and lies where they do. -/
theorem nested_located {rule : Rule} {placeholders : Bool} {shape : Shape}
    (shaped : ofRule rule placeholders = .ok shape) (label : String) (variant : Bool)
    (each : ∀ value ∈ values, value.Nested) (row : Place.Row low high (placesOf values)) :
    (shape.located label variant values).Nested ∧
      Place.Row low high (placesOf [shape.located label variant values]) := by
  have arises := chosen_arises (.plain .nothing) Appearance.children shaped values
  have nested := nested_of_arises arises each
  unfold located wrapped
  generalize shape.chosen (.plain .nothing) Appearance.children values = chosen at arises nested ⊢
  cases places : placesOf values with
  | nil =>
      have bare := placesOf_of_arises arises each places
      have unplaced : Place.Row low high [] := .nil row.low_le_high
      have keeps (span : Span) : span.around [] = span := rfl
      split
      next only _ =>
        rcases List.forall_mem_cons.mp nested with ⟨nested, -⟩
        have same : only.around [] = only := by
          cases only <;> rfl
        rw [same, bare]
        exact ⟨nested, unplaced⟩
      next =>
        rw [keeps]
        exact ⟨.bare bare nested, unplaced⟩
  | cons first places' =>
      rw [places] at row
      rcases row.exists_fills with ⟨start, stop, left, right, fills⟩
      have inside := row_of_arises arises each (places ▸ fills.row)
      split
      next only _ =>
        rcases List.forall_mem_cons.mp nested with ⟨nested, -⟩
        rcases nested.around fills inside with ⟨nested, row⟩
        exact ⟨nested, row.widen left right⟩
      next =>
        have lies := Span.lies_around fills
        refine ⟨nested_of_row lies inside nested, ?_⟩
        rw [placesOf, List.filterMap_cons_some (place?_node_of_lies lies)]
        exact .cons lies.outer left (.nil right)

end Appearance

/-- What a rule makes of the values of its symbols, by the shape that is made of it. -/
def Rule.located (growth : Growth) (rule : Rule) (seen : List Appearance) : Appearance :=
  match Shape.ofRule rule growth.placeholders with
  | .ok shape => shape.located rule.label (growth.nodes == .variant) seen
  | .error _ => .plain .nothing

namespace Derivation

mutual

/-- What a parse that keeps positions makes of a derivation. Where there are no rules, the values of
a rule's symbols are put together. -/
def located (growth : Growth) (rules : List Rule) : Derivation → Appearance
  | .leaf token => .plain (.token token)
  | .node rule parts =>
    match rules.find? fun entry => entry.same rule with
    | some own => own.located growth (locatedOf growth rules parts)
    | none => .sequence (locatedOf growth rules parts)

/-- What a parse that keeps positions makes of some derivations. -/
def locatedOf (growth : Growth) (rules : List Rule) : List Derivation → List Appearance
  | [] => []
  | part :: parts => part.located growth rules :: locatedOf growth rules parts

end

theorem locatedOf_eq_map (growth : Growth) (rules : List Rule) (parts : List Derivation) :
    locatedOf growth rules parts = parts.map (located growth rules) := by
  induction parts with
  | nil => rfl
  | cons part parts ih => simp [locatedOf, ih]

/-- Whether the values that the rules of a derivation hand on have places, where values before them
do and none behind them does. -/
inductive Steady (growth : Growth) (rules : List Rule) : Derivation → Prop
  | leaf (token : Token) : Steady growth rules (.leaf token)
  | node {rule : Rule} {parts : List Derivation}
      (here : ∀ own shape, rules.find? (fun entry => entry.same rule) = some own →
        Shape.ofRule own growth.placeholders = .ok shape →
          shape.Steady (locatedOf growth rules parts))
      (below : ∀ part ∈ parts, part.Steady growth rules) :
    Steady growth rules (.node rule parts)

variable {growth : Growth} {rules : List Rule} {low high : Nat}

mutual

/-- What is made of a derivation is nested if the tokens lie in a row. -/
theorem nested_located : (part : Derivation) →
    {low high : Nat} → Place.Row low high (part.leaves.map Token.place) →
      (part.located growth rules).Nested ∧
        Place.Row low high (Appearance.placesOf [part.located growth rules])
  | .leaf token, _, _, row => ⟨.plain _, row⟩
  | .node rule parts, low, high, row => by
      rcases nested_locatedOf parts row with ⟨each, inside⟩
      have unplaced : Place.Row low high [] := .nil row.low_le_high
      unfold located
      split
      next own _ =>
        unfold Rule.located
        split
        next shape shaped => exact Appearance.nested_located shaped _ _ each inside
        next => exact ⟨.plain _, unplaced⟩
      next => exact ⟨.sequence each, unplaced⟩

theorem nested_locatedOf : (parts : List Derivation) →
    {low high : Nat} → Place.Row low high ((leavesOf parts).map Token.place) →
      (∀ item ∈ locatedOf growth rules parts, item.Nested) ∧
        Place.Row low high (Appearance.placesOf (locatedOf growth rules parts))
  | [], _, _, row => ⟨by simp [locatedOf], row⟩
  | part :: parts, _, _, row => by
      rw [leavesOf, List.map_append] at row
      rcases row.split with ⟨middle, front, back⟩
      rcases nested_located part front with ⟨nested, inside⟩
      rcases nested_locatedOf parts back with ⟨each, rest⟩
      refine ⟨List.forall_mem_cons.mpr ⟨nested, each⟩, ?_⟩
      rw [locatedOf, ← List.singleton_append, Appearance.placesOf_append]
      exact inside.append rest

end

end Derivation

end Lalr
