import Lalr.Shaping.Positions
import Lalr.Proofs.Forest.Appearances

/-!
# Nested intervals

The places of the values that a tree is built of lie in a row: each of them begins where
the one before it has ended, or later. A tree that covers the whole row contains whatever
it keeps of these values. This file says what it means that the places in a tree are
nested, and that they stay so when the tree is passed on and covers more.
-/

namespace Lalr

/-- Whether a place reaches from one position to another, with all that tells whether it is
known. -/
structure Place.Covers (place : Place) (start stop : Nat) : Prop where
  startPos : place.startPos = some start
  endPos : place.endPos = some stop
  line : place.line.isSome = true
  endLine : place.endLine.isSome = true
  le : start ≤ stop

/-- The place from the start of one to the end of another. -/
def Place.upTo (first last : Place) : Place where
  startPos := first.startPos
  line := first.line
  column := first.column
  endLine := last.endLine
  endColumn := last.endColumn
  endPos := last.endPos

theorem Place.Covers.upTo {first last : Place} {start stop start' stop' : Nat}
    (starts : first.Covers start stop') (ends : last.Covers start' stop) (le : start ≤ stop) :
    (first.upTo last).Covers start stop :=
  ⟨starts.startPos, ends.endPos, starts.line, ends.endLine, le⟩

theorem Place.Covers.unique {place : Place} {start stop start' stop' : Nat}
    (covers : place.Covers start stop) (covers' : place.Covers start' stop') :
    start = start' ∧ stop = stop' :=
  ⟨Option.some.inj (covers.startPos.symm.trans covers'.startPos),
    Option.some.inj (covers.endPos.symm.trans covers'.endPos)⟩

/-! ## Places in a row -/

/-- Whether some places follow each other without overlap between two positions. -/
inductive Place.Row : Nat → Nat → List Place → Prop
  | nil {low high : Nat} (le : low ≤ high) : Row low high []
  | cons {low high start stop : Nat} {place : Place} {places : List Place}
      (covers : place.Covers start stop) (le : low ≤ start) (rest : Row stop high places) :
      Row low high (place :: places)

/-- Whether some places fill what lies between two positions: they lie in a row, the first of them
starts at the one position and the last ends at the other. -/
structure Place.Fills (start stop : Nat) (places : List Place) : Prop where
  first : ∃ first stop', places.head? = some first ∧ first.Covers start stop'
  last : ∃ last start', places.getLast? = some last ∧ last.Covers start' stop
  row : Place.Row start stop places

namespace Place.Row

variable {low middle high low' high' : Nat} {places others : List Place}

theorem low_le_high (row : Row low high places) : low ≤ high := by
  induction row with
  | nil le => exact le
  | cons covers le _ ih => exact Nat.le_trans le (Nat.le_trans covers.le ih)

theorem widen (row : Row low high places) (below : low' ≤ low) (above : high ≤ high') :
    Row low' high' places := by
  induction row generalizing low' with
  | nil le => exact .nil (Nat.le_trans below (Nat.le_trans le above))
  | cons covers le _ ih => exact .cons covers (Nat.le_trans below le) (ih (Nat.le_refl _) above)

theorem append (row : Row low middle places) (rest : Row middle high others) :
    Row low high (places ++ others) := by
  induction row with
  | nil le => exact rest.widen le (Nat.le_refl _)
  | cons covers le _ ih => exact .cons covers le (ih rest)

/-- A row falls into two. -/
theorem split (row : Row low high (places ++ others)) :
    ∃ middle, Row low middle places ∧ Row middle high others := by
  induction places generalizing low with
  | nil => exact ⟨low, .nil (Nat.le_refl _), row⟩
  | cons place places ih =>
      cases row with
      | cons covers le rest =>
          rcases ih rest with ⟨middle, front, back⟩
          exact ⟨middle, .cons covers le front, back⟩

/-- Places that are not none fill what lies between two positions. -/
theorem exists_fills {first : Place} (row : Row low high (first :: places)) :
    ∃ start stop, low ≤ start ∧ stop ≤ high ∧ Fills start stop (first :: places) := by
  induction places generalizing low first with
  | nil =>
      cases row with
      | cons covers le rest =>
          exact ⟨_, _, le, rest.low_le_high, ⟨_, _, rfl, covers⟩, ⟨_, _, rfl, covers⟩,
            .cons covers (Nat.le_refl _) (.nil (Nat.le_refl _))⟩
  | cons second places ih =>
      cases row with
      | cons covers le rest =>
          rcases ih rest with ⟨_, stop, above, below, _, ⟨last, _, found, ends⟩, inner⟩
          refine ⟨_, stop, le, below, ⟨first, _, rfl, covers⟩, ⟨last, _, ?_, ends⟩,
            .cons covers (Nat.le_refl _) (inner.widen above (Nat.le_refl _))⟩
          rw [List.getLast?_cons_cons]
          exact found

end Place.Row

/-! ## Spans around a row -/

namespace Span

/-- A span that has got its position from some places. -/
def around (span : Span) (places : List Place) : Span :=
  let begun :=
    match places.head? with
    | some first => span.beginAt first
    | none => span
  match places.getLast? with
  | some last => begun.endAt last
  | none => begun

/-- Whether a span reaches between two positions, and its container from one further left to one
further right. -/
structure Lies (span : Span) (low start stop high : Nat) : Prop where
  covers : span.isEmpty = false
  own : span.own.Covers start stop
  container : span.container.Covers low high
  left : low ≤ start
  right : stop ≤ high

variable {span : Span} {low start stop high low' high' : Nat} {places : List Place}

/-- The place of a span that lies somewhere is the place of its container. -/
theorem Lies.outer (lies : span.Lies low start stop high) : span.outerPlace.Covers low high where
  startPos := by simp [outerPlace, lies.container.startPos]
  endPos := by simp [outerPlace, lies.container.endPos]
  line := by simp [outerPlace, lies.container.line]
  endLine := by simp [outerPlace, lies.container.endLine]
  le := lies.container.le

/-- A span without a place covers all that some places fill, and so does its container. -/
theorem lies_around (fills : Place.Fills start stop places) :
    (({} : Span).around places).Lies start start stop stop := by
  rcases fills with ⟨⟨first, _, found, starts⟩, ⟨last, _, found', ends⟩, row⟩
  have covers := starts.upTo ends row.low_le_high
  simp only [around, found, found']
  exact ⟨rfl, covers, covers, Nat.le_refl _, Nat.le_refl _⟩

/-- A span that lies somewhere stays there as its container becomes all that some places fill. -/
theorem Lies.around (lies : span.Lies low start stop high) (fills : Place.Fills low' high' places)
    (left : low' ≤ low) (right : high ≤ high') :
    (span.around places).Lies low' start stop high' := by
  rcases fills with ⟨⟨first, _, found, starts⟩, ⟨last, _, found', ends⟩, row⟩
  have covers := starts.upTo ends row.low_le_high
  have known : span.own.line.isNone = false := Option.isNone_eq_false_iff.mpr lies.own.line
  have known' : span.own.endLine.isNone = false := Option.isNone_eq_false_iff.mpr lies.own.endLine
  have kept : span.around places = { span with container := first.upTo last } := by
    simp [Span.around, found, found', beginAt, endAt, known, known', Place.upTo]
  rw [kept]
  exact ⟨lies.covers, lies.own, covers, Nat.le_trans left lies.left,
    Nat.le_trans lies.right right⟩

end Span

/-! ## Nested places -/

namespace Appearance

/-- The place of a value as the tree above it sees it: that of a token, and of a tree that of its
container if it has one. -/
def place? : Appearance → Option Place
  | .plain (.token token) => some token.place
  | .node _ span _ _ => if span.isEmpty then none else some span.outerPlace
  | _ => none

/-- The places of the values that have one. -/
def placesOf (items : List Appearance) : List Place := items.filterMap place?

/-- Whether the places in a value are nested. A tree without a place has no children with places.
Where a tree has a place, this lies in its container, the places of its children lie in its own
place in their order and without overlap, and all tokens below it lie there too. -/
inductive Nested : Appearance → Prop
  | plain (value : Value) : Nested (.plain value)
  | sequence {items : List Appearance} (each : ∀ item ∈ items, item.Nested) :
      Nested (.sequence items)
  | bare {label : String} {variant : Bool} {children : List Appearance}
      (bare : placesOf children = []) (each : ∀ child ∈ children, child.Nested) :
      Nested (.node label {} variant children)
  | placed {label : String} {span : Span} {variant : Bool} {children : List Appearance}
      {low start stop high : Nat} (lies : span.Lies low start stop high)
      (row : Place.Row start stop (placesOf children))
      (tokens : ∀ token ∈ tokensOf children, ∃ start' stop',
        token.place.Covers start' stop' ∧
        start ≤ start' ∧ stop' ≤ stop) (each : ∀ child ∈ children, child.Nested) :
      Nested (.node label span variant children)

variable {item : Appearance} {items : List Appearance} {low start stop high : Nat}

theorem placesOf_eq_nil : placesOf items = [] ↔ ∀ item ∈ items, item.place? = none :=
  List.filterMap_eq_nil_iff

theorem place?_node_of_lies {label : String} {span : Span} {variant : Bool}
    {children : List Appearance} (lies : span.Lies low start stop high) :
    (Appearance.node label span variant children).place? = some span.outerPlace := by
  simp [place?, lies.covers]

/-- A value without a place has no tokens. -/
theorem Nested.tokens_eq_nil (nested : item.Nested) (bare : item.place? = none) :
    item.tokens = [] := by
  induction nested with
  | plain value => cases value <;> first | rfl | cases bare
  | sequence => rfl
  | bare unplaced _ ih =>
      refine List.eq_nil_iff_forall_not_mem.mpr fun token member => ?_
      rcases mem_tokensOf.mp member with ⟨child, listed, inside⟩
      rw [ih child listed (placesOf_eq_nil.mp unplaced child listed)] at inside
      cases inside
  | placed lies =>
      rw [place?_node_of_lies lies] at bare
      cases bare

/-- The tokens of a value lie in its place. -/
theorem Nested.tokens_covered (nested : item.Nested) {place : Place}
    (has : item.place? = some place) (covers : place.Covers low high) :
    ∀ token ∈ item.tokens, ∃ start stop,
      token.place.Covers start stop ∧ low ≤ start ∧ stop ≤ high := by
  cases nested with
  | plain value =>
      cases value with
      | token token =>
          rcases Option.some.inj has with rfl
          simpa [tokens] using ⟨low, high, covers, Nat.le_refl _, Nat.le_refl _⟩
      | _ => cases has
  | sequence => cases has
  | bare => cases has
  | placed lies row inside each =>
      rw [place?_node_of_lies lies] at has
      rcases Option.some.inj has with rfl
      rcases lies.outer.unique covers with ⟨rfl, rfl⟩
      intro token member
      rcases inside token member with ⟨_, _, covers, left, right⟩
      exact ⟨_, _, covers, Nat.le_trans lies.left left, Nat.le_trans right lies.right⟩

/-- The tokens of values in a row lie where the row does. -/
theorem tokens_covered_of_row (each : ∀ item ∈ items, item.Nested)
    (row : Place.Row low high (placesOf items)) : ∀ token ∈ tokensOf items, ∃ start stop,
      token.place.Covers start stop ∧ low ≤ start ∧ stop ≤ high := by
  induction items generalizing low with
  | nil => simp [tokensOf]
  | cons item items ih =>
      rcases List.forall_mem_cons.mp each with ⟨nested, others⟩
      rw [tokensOf, List.forall_mem_append]
      unfold placesOf at row
      cases has : item.place? with
      | none =>
          rw [List.filterMap_cons_none has] at row
          exact ⟨by simp [nested.tokens_eq_nil has], ih others row⟩
      | some place =>
          rw [List.filterMap_cons_some has] at row
          cases row with
          | cons covers le rest =>
              refine ⟨fun token member => ?_, fun token member => ?_⟩
              · rcases nested.tokens_covered has covers token member with
                  ⟨_, _, known, left, right⟩
                exact ⟨_, _, known, Nat.le_trans le left, Nat.le_trans right rest.low_le_high⟩
              · rcases ih others rest token member with ⟨_, _, known, left, right⟩
                exact ⟨_, _, known, Nat.le_trans le (Nat.le_trans covers.le left), right⟩

/-- A tree is nested if its children are and lie in a row in its own place. -/
theorem nested_of_row {label : String} {span : Span} {variant : Bool}
    (lies : span.Lies low start stop high) (row : Place.Row start stop (placesOf items))
    (each : ∀ item ∈ items, item.Nested) : Nested (.node label span variant items) :=
  .placed lies row (tokens_covered_of_row each row) each

/-- The children of a nested value are nested. -/
theorem Nested.child (nested : item.Nested) : ∀ child ∈ item.children, child.Nested := by
  cases nested with
  | plain => nofun
  | sequence => nofun
  | bare _ each => exact each
  | placed _ _ _ each => exact each

/-- The children of a value without a place have none. -/
theorem Nested.placesOf_children (nested : item.Nested) (bare : item.place? = none) :
    placesOf item.children = [] := by
  cases nested with
  | plain => rfl
  | sequence => rfl
  | bare unplaced => exact unplaced
  | placed lies =>
      rw [place?_node_of_lies lies] at bare
      cases bare

/-- The children of a value lie in a row in its place. -/
theorem Nested.row_children (nested : item.Nested) {place : Place} (has : item.place? = some place)
    (covers : place.Covers low high) : Place.Row low high (placesOf item.children) := by
  cases nested with
  | plain => exact .nil covers.le
  | sequence => exact .nil covers.le
  | bare => cases has
  | placed lies row =>
      rw [place?_node_of_lies lies] at has
      rcases Option.some.inj has with rfl
      rcases lies.outer.unique covers with ⟨rfl, rfl⟩
      exact row.widen lies.left lies.right

/-- A tree that has got its position from some places. Other values have no positions to get. -/
def around (places : List Place) : Appearance → Appearance
  | .node label span variant children => .node label (span.around places) variant children
  | item => item

/-- A nested value stays nested as it is passed on, with all that some places fill as its
container. -/
theorem Nested.around (nested : item.Nested) {places : List Place}
    (fills : Place.Fills start stop places) (inside : Place.Row start stop (placesOf [item])) :
    (item.around places).Nested ∧ Place.Row start stop (placesOf [item.around places]) := by
  have outer {label : String} {span : Span} {variant : Bool} {children : List Appearance}
      {low high : Nat} (lies : span.Lies start low high stop) :
      Place.Row start stop (placesOf [.node label span variant children]) := by
    rw [placesOf, List.filterMap_cons_some (place?_node_of_lies lies)]
    exact .cons lies.outer (Nat.le_refl _) (.nil (Nat.le_refl _))
  cases nested with
  | plain value => exact ⟨.plain value, inside⟩
  | sequence each => exact ⟨.sequence each, inside⟩
  | bare unplaced each =>
      have lies := Span.lies_around fills
      exact ⟨nested_of_row lies (unplaced ▸ .nil fills.row.low_le_high) each, outer lies⟩
  | placed lies row tokens each =>
      rw [placesOf, List.filterMap_cons_some (place?_node_of_lies lies)] at inside
      cases inside with
      | cons covers left rest =>
          rcases lies.outer.unique covers with ⟨rfl, rfl⟩
          have lies := lies.around fills left rest.low_le_high
          exact ⟨.placed lies row tokens each, outer lies⟩

end Appearance

end Lalr
