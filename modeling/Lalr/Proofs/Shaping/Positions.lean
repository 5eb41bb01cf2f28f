import Lalr.Proofs.Forest.Likeness
import Lalr.Proofs.Shaping.Growth

/-!
# Positions in two forests

A tree that is built gets its position from the values that it is built of. Where
spans do not count, this changes nothing that does. Where they do, trees that are
built of similar values get the same position.
-/

namespace Lalr

open Forest

namespace Forest

theorem openSpan_of_some {forest : Forest} {id : NodeId} {span : SpanId}
    (has : (forest.node id).span = some span) : forest.openSpan id = (span, forest) := by
  simp [openSpan, has]

theorem openSpan_of_none {forest : Forest} {id : NodeId} (none : (forest.node id).span = none) :
    forest.openSpan id =
      (⟨forest.spans.size⟩, setNode { forest with spans := forest.spans.push {} } id
        { forest.node id with span := some ⟨forest.spans.size⟩ }) := by
  simp only [openSpan, none]
  rfl

/-- Nothing that counts of a node changes as it gets a span, for the span covers no text yet. -/
theorem preserves_openSpan {counts : Bool} (forest : Forest) (id : NodeId) :
    forest.Preserves counts (forest.openSpan id).2 [] := by
  refine ⟨.openSpan forest id, fun {index node kept} found last => ?_⟩
  cases has : (forest.node id).span with
  | some span =>
      rw [openSpan_of_some has] at last ⊢
      exact (Preserves.refl forest []).seen found last
  | none =>
      rw [openSpan_of_none has] at last ⊢
      rcases Array.getElem?_eq_some_iff.mp found with ⟨bound, _⟩
      by_cases same : id.index = index
      · subst same
        have here : forest.node id = node := by simp [Forest.node, found]
        rw [here] at has last ⊢
        have same : { node with span := some ⟨forest.spans.size⟩ } = kept := by
          simpa [setNode, bound] using last
        rcases same with rfl
        refine ⟨rfl, fun span seen => ?_⟩
        rw [seenSpan_of_none forest counts has] at seen
        cases counts <;> simpa [seenSpan, setNode] using seen
      · have unchanged : forest.nodes[index]? = some kept := by simpa [setNode, same] using last
        exact (Preserves.addSpan forest {}).seen found unchanged

theorem preserves_setSpan (forest : Forest) (id : SpanId) (span : Span) :
    forest.Preserves false (forest.setSpan id span) [] where
  toKeeps := .setSpan forest id span
  seen found last := by
    rw [Option.some.inj (found.symm.trans last)]
    exact ⟨rfl, fun _ seen => seen⟩

/-- Where spans do not count, nothing that counts changes as a tree gets its position. -/
theorem preserves_locate (forest : Forest) (propagation : Propagation) (id : NodeId)
    (values : List Value) : forest.Preserves false (forest.locate propagation id values) [] := by
  unfold Forest.locate
  have opened : forest.Preserves false (forest.openSpan id).2 [] := preserves_openSpan forest id
  generalize forest.openSpan id = made at opened ⊢
  rcases made with ⟨span, between⟩
  dsimp only at opened ⊢
  split <;> split <;> first
    | exact opened
    | exact opened.trans (preserves_setSpan ..)
    | exact (opened.trans (preserves_setSpan ..)).trans (preserves_setSpan ..)

/-- A forest with one more node, which has a span of its own. -/
def addLocated (forest : Forest) (node : Node) (span : Span) : Forest :=
  ((forest.addSpan span).2.addNode { node with span := some (forest.addSpan span).1 }).2

/-- A span that begins where the first of some values does. -/
def beginning (forest : Forest) (propagation : Propagation) (values : List Value) : Span :=
  match forest.firstPlace? propagation values with
  | some place => ({} : Span).beginAt place
  | none => {}

/-- A span that ends where the last of some values does. -/
def ended (forest : Forest) (propagation : Propagation) (values : List Value)
    (span : Span) : Span :=
  match forest.firstPlace? propagation values.reverse with
  | some place => span.endAt place
  | none => span

theorem setIfInBounds_push {α : Type} (xs : Array α) (old new : α) :
    (xs.push old).setIfInBounds xs.size new = xs.push new := by
  ext i
  · simp
  · grind

/-- A node that has just been added gets a span of its own as it gets its position. -/
theorem locate_addNode (forest : Forest) (propagation : Propagation) (values : List Value)
    {node : Node} (none : node.span = none) :
    (forest.addNode node).2.locate propagation (forest.addNode node).1 values =
      let begun := (forest.addLocated node {}).beginning propagation values
      forest.addLocated node
        ((forest.addLocated node begun).ended propagation values begun) := by
  have opened : (forest.addNode node).2.openSpan (forest.addNode node).1 =
      ((forest.addSpan {}).1, forest.addLocated node {}) := by
    simp [openSpan, addNode, addLocated, addSpan, setNode, Forest.node, none, setIfInBounds_push]
  have change (span span' : Span) : (forest.addLocated node span).setSpan
      (forest.addSpan {}).1 span' =
      forest.addLocated node span' := by
    simp [addLocated, addSpan, addNode, setSpan, setIfInBounds_push]
  have read (span : Span) : (forest.addLocated node span).span (forest.addSpan {}).1 = span := by
    simp [addLocated, addSpan, addNode, Forest.span]
  simp only [locate, opened, beginning, ended]
  cases (forest.addLocated node {}).firstPlace? propagation values with
  | none =>
      dsimp only
      cases (forest.addLocated node {}).firstPlace? propagation values.reverse with
      | none => rfl
      | some place => simp only [change, read]
  | some place =>
      simp only [change, read]
      cases (forest.addLocated node (({} : Span).beginAt place)).firstPlace? propagation
        values.reverse <;> rfl

end Forest

namespace ValueLikeness

variable {likeness : ValueLikeness} {forests : Forest × Forest} {values values' : List Value}

section Places

variable (spans : likeness.spans = true)
  (tokens : ∀ {token token' : Token}, likeness.token token token' → token = token')

include spans tokens

theorem Similar.place?_eq {value value' : Value}
    (similar : likeness.Similar forests value value') :
    forests.1.place? value = forests.2.place? value' := by
  cases similar with
  | nothing => rfl
  | token alike => rw [tokens alike]; rfl
  | sequence => rfl
  | node nodes =>
      rcases nodes with ⟨found, found', -, -, span, seen, seen'⟩
      rw [spans] at seen seen'
      simp only [place?, spanOf_of_seenSpan found seen, spanOf_of_seenSpan found' seen']

omit spans in
theorem Similar.counts_eq (propagation : Propagation) {value value' : Value}
    (similar : likeness.Similar forests value value') :
    propagation.counts forests.1 value = propagation.counts forests.2 value' := by
  cases similar with
  | nothing => cases propagation <;> rfl
  | token alike => rw [tokens alike]; cases propagation <;> rfl
  | sequence => cases propagation <;> rfl
  | node nodes =>
      cases propagation with
      | off => rfl
      | all => rfl
      | skipping names =>
          simp [Propagation.counts, Forest.label, Forest.node, nodes.found, nodes.found',
            nodes.label]

theorem firstPlace?_eq (forests : Forest × Forest) (propagation : Propagation)
    (similar : List.Forall₂ (likeness.Similar forests) values values') :
    forests.1.firstPlace? propagation values = forests.2.firstPlace? propagation values' := by
  unfold firstPlace?
  induction similar with
  | nil => rfl
  | cons head rest ih =>
      rw [List.filter_cons, List.filter_cons, head.counts_eq tokens propagation]
      split
      · rw [List.findSome?_cons, List.findSome?_cons, head.place?_eq spans tokens, ih]
      · exact ih

end Places

/-- Nodes that are added with the same span are alike if their children are. -/
theorem alike_addLocated (forests : Forest × Forest) (node node' : Node)
    {used : List (SequenceId × SequenceId)}
    (children : likeness.HeldAlike forests node.children node'.children used)
    (label : node.label = node'.label) (variant : node.variant = node'.variant) (span : Span) :
    likeness.Alike (forests.1.addLocated node span, forests.2.addLocated node' span)
      (.node (forests.1.addNode node).1) (.node (forests.2.addNode node').1)
      ((node.children, node'.children) :: used) := by
  have spanned : likeness.Stays forests
      ((forests.1.addSpan span).2, (forests.2.addSpan span).2) [] := ⟨.addSpan .., .addSpan ..⟩
  refine ValueLikeness.alike_addNode _ { node with span := some (forests.1.addSpan span).1 }
    { node' with span := some (forests.2.addSpan span).1 } (children.keep spanned (by simp)) label
    variant ?_
  cases likeness.spans with
  | false => exact ⟨{}, rfl, rfl⟩
  | true => exact ⟨span, by simp [seenSpan, addSpan], by simp [seenSpan, addSpan]⟩

end ValueLikeness

end Lalr
