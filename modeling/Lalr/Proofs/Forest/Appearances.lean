import Mathlib.Data.Fintype.Sum
import Lalr.Forest.Equality
import Lalr.Proofs.Forest.Likeness

/-!
# What values look like

What a value looks like is all that can be said of it without numbers of nodes and
sequences. Unlike the trees that a parse builds, the values that handlers make may
share their parts, so nothing is said here of how often a sequence is used: all that
counts is which sequences are not used at all, for these may be changed.
-/

namespace Lalr

/-- Whether a value is no more than what it says, so that nothing in a forest belongs to it. -/
def Value.isPlain : Value → Bool
  | .node _ => false
  | .sequence _ => false
  | .span _ => false
  | _ => true

/-- What a value looks like. -/
inductive Appearance where
  | plain (value : Value)
  | node (label : String) (span : Span) (variant : Bool) (children : List Appearance)
  | sequence (items : List Appearance)
  deriving Inhabited

namespace Appearance

/-- The children of a node, as they look. -/
def children : Appearance → List Appearance
  | .node _ _ _ children => children
  | _ => []

mutual

/-- How many nodes and sequences lie one below the other. -/
def height : Appearance → Nat
  | .plain _ => 0
  | .node _ _ _ children => heightOf children + 1
  | .sequence items => heightOf items + 1

/-- How many nodes and sequences lie one below the other in some values. -/
def heightOf : List Appearance → Nat
  | [] => 0
  | item :: rest => max item.height (heightOf rest)

end

mutual

/-- The tokens of a tree. -/
def tokens : Appearance → List Token
  | .plain (.token token) => [token]
  | .plain _ => []
  | .node _ _ _ children => tokensOf children
  | .sequence _ => []

/-- The tokens of some trees. -/
def tokensOf : List Appearance → List Token
  | [] => []
  | item :: rest => item.tokens ++ tokensOf rest

end

theorem mem_tokensOf {items : List Appearance} {token : Token} :
    token ∈ tokensOf items ↔ ∃ item ∈ items, token ∈ item.tokens := by
  induction items with
  | nil => simp [tokensOf]
  | cons item items ih => simp [tokensOf, ih]

end Appearance

namespace Forest

/-- What a node looks like, apart from its children. -/
structure NodeLooks (forest : Forest) (node : Node) (label : String) (span : Span)
    (variant : Bool) : Prop where
  label : node.label = label
  span : forest.seenSpan true node = some span
  variant : node.variant = variant

mutual

/-- A value of a forest looks like something, and none of the sequences that it lies in is among
some that are not its own. -/
inductive Appears (forest : Forest) (own : List SequenceId) : Value → Appearance → Prop
  | plain {value : Value} (isPlain : value.isPlain = true) :
      Appears forest own value (.plain value)
  | node {id : NodeId} {node : Node} {items : List Value} {label : String} {span : Span}
      {variant : Bool} {seen : List Appearance} (found : forest.nodes[id.index]? = some node)
      (looks : forest.NodeLooks node label span variant) (outside : node.children ∉ own)
      (held : forest.sequences[node.children.index]? = some items)
      (appear : AllAppear forest own items seen) :
      Appears forest own (.node id) (.node label span variant seen)
  | sequence {id : SequenceId} {items : List Value} {seen : List Appearance}
      (outside : id ∉ own) (held : forest.sequences[id.index]? = some items)
      (appear : AllAppear forest own items seen) :
      Appears forest own (.sequence id) (.sequence seen)

/-- Some values look like something, one by one. -/
inductive AllAppear (forest : Forest) (own : List SequenceId) :
    List Value → List Appearance → Prop
  | nil : AllAppear forest own [] []
  | cons {value : Value} {values : List Value} {appearance : Appearance} {seen : List Appearance}
      (appears : Appears forest own value appearance) (rest : AllAppear forest own values seen) :
      AllAppear forest own (value :: values) (appearance :: seen)

end

variable {forest before after : Forest} {own own' : List SequenceId}

theorem allAppear_iff {values : List Value} {seen : List Appearance} :
    forest.AllAppear own values seen ↔ List.Forall₂ (forest.Appears own) values seen := by
  constructor
  · intro appear
    induction values generalizing seen with
    | nil => cases appear; exact .nil
    | cons value values ih => cases appear with | cons appears rest => exact .cons appears (ih rest)
  · intro appear
    induction appear with
    | nil => exact .nil
    | cons appears _ ih => exact .cons appears ih

/-- Whether sequences are among some others, or have not been there before. -/
def Within (before : Forest) (own own' : List SequenceId) : Prop :=
  ∀ id ∈ own', id ∈ own ∨ before.sequences.size ≤ id.index

theorem notMem_of_within (within : before.Within own own') {id : SequenceId} {items : List Value}
    (held : before.sequences[id.index]? = some items) (outside : id ∉ own) : id ∉ own' := by
  intro member
  rcases Array.getElem?_eq_some_iff.mp held with ⟨bound, _⟩
  exact (within id member).elim outside (Nat.not_le_of_lt bound)

mutual

/-- A value goes on looking as it does where only sequences are changed that are not its own. -/
theorem Appears.keep (preserves : before.Preserves true after own)
    (within : before.Within own own') :
    {value : Value} → {appearance : Appearance} → before.Appears own value appearance →
      after.Appears own' value appearance
  | _, _, .plain isPlain => .plain isPlain
  | _, _, .node found ⟨label, span, variant⟩ outside held appear => by
      rcases preserves.node found with ⟨kept, last, labels, children⟩
      rcases preserves.seen found last with ⟨variants, seen⟩
      rw [← children] at outside held
      exact .node last ⟨labels.trans label, seen _ span, variants.trans variant⟩
        (notMem_of_within within held outside) (preserves.sequence outside held)
        (appear.keep preserves within)
  | _, _, .sequence outside held appear =>
      .sequence (notMem_of_within within held outside) (preserves.sequence outside held)
        (appear.keep preserves within)

theorem AllAppear.keep (preserves : before.Preserves true after own)
    (within : before.Within own own') :
    {values : List Value} → {seen : List Appearance} → before.AllAppear own values seen →
      after.AllAppear own' values seen
  | _, _, .nil => .nil
  | _, _, .cons appears rest => .cons (appears.keep preserves within) (rest.keep preserves within)

end

mutual

/-- A value looks like one thing only. -/
theorem Appears.unique :
    {value : Value} → {appearance other : Appearance} → forest.Appears own value appearance →
      forest.Appears own' value other → appearance = other
  | _, _, _, .plain isPlain, other => by
      cases other with
      | plain => rfl
      | node => cases isPlain
      | sequence => cases isPlain
  | _, _, _, .node found looks _ held appear, other => by
      cases other with
      | plain isPlain => cases isPlain
      | node found' looks' _ held' appear' =>
          rcases Option.some.inj (found.symm.trans found') with rfl
          rcases looks with ⟨rfl, span, rfl⟩
          rcases looks' with ⟨rfl, span', rfl⟩
          rcases Option.some.inj (span.symm.trans span') with rfl
          rcases Option.some.inj (held.symm.trans held') with rfl
          rw [appear.unique appear']
  | _, _, _, .sequence _ held appear, other => by
      cases other with
      | plain isPlain => cases isPlain
      | sequence _ held' appear' =>
          rcases Option.some.inj (held.symm.trans held') with rfl
          rw [appear.unique appear']

theorem AllAppear.unique :
    {values : List Value} → {seen others : List Appearance} →
      forest.AllAppear own values seen →
      forest.AllAppear own' values others → seen = others
  | _, _, _, .nil, .nil => rfl
  | _, _, _, .cons appears rest, .cons appears' rest' => by
      rw [appears.unique appears', rest.unique rest']

end

/-! ## Additions -/

/-- Whether all of some sequences are there. -/
def Has (forest : Forest) (own : List SequenceId) : Prop :=
  ∀ id ∈ own, id.index < forest.sequences.size

theorem Has.keep {changed : List SequenceId} (has : before.Has own)
    (preserves : before.Preserves true after changed) : after.Has own :=
  fun id member => Nat.lt_of_lt_of_le (has id member) preserves.grows

/-- A sequence that is added is none of those that are there. -/
theorem Has.notMem (has : forest.Has own) (items : List Value) :
    (forest.addSequence items).1 ∉ own :=
  fun member => Nat.lt_irrefl _ (has _ member)

/-- A value goes on looking as it does where nothing is changed. -/
theorem Appears.stay {value : Value} {appearance : Appearance}
    (appears : before.Appears own value appearance)
    (preserves : before.Preserves true after []) : after.Appears own value appearance :=
  appears.keep (preserves.narrow (by simp)) fun _ => .inl

theorem AllAppear.stay {values : List Value} {seen : List Appearance}
    (appear : before.AllAppear own values seen)
    (preserves : before.Preserves true after []) : after.AllAppear own values seen :=
  appear.keep (preserves.narrow (by simp)) fun _ => .inl

/-- A node that is added looks like what lies in its sequence. -/
theorem appears_addNode {node : Node} {span : Span} {items : List Value} {seen : List Appearance}
    (held : forest.sequences[node.children.index]? = some items)
    (appear : forest.AllAppear own items seen) (outside : node.children ∉ own)
    (covers : forest.seenSpan true node = some span) :
    (forest.addNode node).2.Appears own (.node (forest.addNode node).1)
      (.node node.label span node.variant seen) :=
  have preserves := Preserves.addNode forest node
  .node (by simp [addNode]) ⟨rfl, covers, rfl⟩ outside (preserves.sequence (by simp) held)
    (appear.stay preserves)

/-! ## Heights -/

/-- The node or the sequence of a forest that has some number. -/
def part (forest : Forest) : Fin forest.nodes.size ⊕ Fin forest.sequences.size → Value
  | .inl index => .node ⟨index⟩
  | .inr index => .sequence ⟨index⟩

mutual

/-- Below a value there are parts of each lesser height. -/
theorem Appears.exists_height :
    {value : Value} → {appearance : Appearance} → forest.Appears own value appearance →
      ∀ {height : Nat}, height < appearance.height →
        ∃ part appearance, forest.Appears own (forest.part part) appearance ∧
          appearance.height = height + 1
  | _, _, .plain _, _, less => absurd less (Nat.not_lt_zero _)
  | .node id, _, .node found looks outside held appear, height, less => by
      rcases Nat.lt_succ_iff_lt_or_eq.mp less with less | same
      · exact appear.exists_height less
      · rcases Array.getElem?_eq_some_iff.mp found with ⟨bound, _⟩
        exact ⟨.inl ⟨id.index, bound⟩, _, .node found looks outside held appear,
          congrArg (· + 1) same.symm⟩
  | .sequence id, _, .sequence outside held appear, _, less => by
      rcases Nat.lt_succ_iff_lt_or_eq.mp less with less | same
      · exact appear.exists_height less
      · rcases Array.getElem?_eq_some_iff.mp held with ⟨bound, _⟩
        exact ⟨.inr ⟨id.index, bound⟩, _, .sequence outside held appear,
          congrArg (· + 1) same.symm⟩

theorem AllAppear.exists_height :
    {values : List Value} → {seen : List Appearance} → forest.AllAppear own values seen →
      ∀ {height : Nat}, height < Appearance.heightOf seen →
        ∃ part appearance, forest.Appears own (forest.part part) appearance ∧
          appearance.height = height + 1
  | _, _, .nil, _, less => absurd less (Nat.not_lt_zero _)
  | _, _, .cons appears rest, _, less =>
      (lt_max_iff.mp less).elim appears.exists_height rest.exists_height

end

/-- A value is at most as high as the forest has parts, for no part lies below itself. -/
theorem Appears.height_lt {value : Value} {appearance : Appearance}
    (appears : forest.Appears own value appearance) : appearance.height < forest.depthBound := by
  choose part looks appear high using
    fun height : Fin appearance.height => appears.exists_height height.isLt
  have injective : Function.Injective part := by
    intro height height' same
    have looksSame : looks height = looks height' :=
      (appear height).unique (same ▸ appear height')
    have heights := (high height).symm.trans (looksSame ▸ high height')
    exact Fin.ext (Nat.succ.inj heights)
  have count := Fintype.card_le_of_injective part injective
  simp only [Fintype.card_fin, Fintype.card_sum] at count
  exact Nat.lt_succ_of_le count

/-! ## Equality -/

theorem sameTo_plain (depth : Nat) {value : Value} (isPlain : value.isPlain = true) :
    forest.sameTo depth value value = true := by
  cases value with
  | node id => cases isPlain
  | sequence id => cases isPlain
  | span id => cases isPlain
  | token token => cases depth <;> simp [sameTo, Token.agrees]
  | _ => cases depth <;> simp [sameTo]

mutual

/-- Values that look alike are equal, as long as they are compared far enough down. -/
theorem Appears.sameTo :
    {value value' : Value} → {appearance : Appearance} → forest.Appears own value appearance →
      forest.Appears own' value' appearance → ∀ {depth : Nat}, appearance.height ≤ depth →
        forest.sameTo depth value value' = true
  | _, _, _, .plain isPlain, .plain _, _, _ => sameTo_plain _ isPlain
  | _, _, _, .node found looks _ held appear, .node found' looks' _ held' appear',
    depth, enough => by
      rcases Nat.exists_eq_add_of_le' (Nat.le_trans (Nat.succ_pos _) enough) with ⟨depth, rfl⟩
      have below := appear.sameItems appear' (Nat.le_of_succ_le_succ enough)
      simp [Forest.sameTo, Forest.label, Forest.children, Forest.node, Forest.items, found, found',
        held, held', below, looks.label, looks'.label]
  | _, _, _, .sequence _ held appear, .sequence _ held' appear', depth, enough => by
      rcases Nat.exists_eq_add_of_le' (Nat.le_trans (Nat.succ_pos _) enough) with ⟨depth, rfl⟩
      have below := appear.sameItems appear' (Nat.le_of_succ_le_succ enough)
      simp [Forest.sameTo, Forest.items, held, held', below]

theorem AllAppear.sameItems :
    {values values' : List Value} → {seen : List Appearance} →
      forest.AllAppear own values seen →
      forest.AllAppear own' values' seen → ∀ {depth : Nat},
        Appearance.heightOf seen ≤ depth →
        Forest.sameItems (forest.sameTo depth) values values' = true
  | _, _, _, .nil, .nil, _, _ => rfl
  | _, _, _, .cons appears rest, .cons appears' rest', depth, enough => by
      rcases max_le_iff.mp enough with ⟨first, others⟩
      rw [Forest.sameItems, appears.sameTo appears' first, rest.sameItems rest' others,
        Bool.and_self]

end

/-- Values that look alike are equal. -/
theorem Appears.same_eq_true {value value' : Value} {appearance : Appearance}
    (appears : forest.Appears own value appearance)
    (appears' : forest.Appears own' value' appearance) : forest.same value value' = true :=
  appears.sameTo appears' (Nat.le_of_lt appears.height_lt)

end Forest

end Lalr
