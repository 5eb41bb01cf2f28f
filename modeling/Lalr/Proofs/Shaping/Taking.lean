import Mathlib.Data.List.Perm.Subperm
import Lalr.Proofs.Confinement
import Lalr.Proofs.Forest.Cells
import Lalr.Proofs.Shaping.Placing

/-!
# Children that are taken over

A rule takes over the sequences of the trees that it splices, and puts what it chooses into
one of these or into a new one. This file shows that each value that is chosen keeps all
that belongs to it, and that what is chosen has no part in common.
-/

namespace Lalr

open Forest

namespace Forest

/-- Whether two forests differ in their sequences only. -/
def Rearranges (before after : Forest) : Prop :=
  after.nodes = before.nodes ∧ after.spans = before.spans

instance : IsPreorder Forest Rearranges where
  refl _ := ⟨rfl, rfl⟩
  trans _ _ _ first second := ⟨second.1.trans first.1, second.2.trans first.2⟩

theorem touches_of_preserves {before after : Forest} {ids : List SequenceId}
    (preserves : before.Preserves true after ids) (same : before.Rearranges after) :
    before.Touches after (ids.map Cell.sequence) where
  node found := by
    rw [same.1]
    exact found
  sequence outside held :=
    preserves.sequence (fun listed => outside (List.mem_map_of_mem listed)) held
  span _ covers := by
    rw [same.2]
    exact covers
  sequences := preserves.grows
  spans := by rw [same.2]

end Forest

namespace Shape

variable {α β : Type} {forest : Forest} {bodies : List Body}

theorem pick_map (f : α → β) (gap : α) {inner : α → List α} {inner' : β → List β}
    {values : List α} (same : ∀ value ∈ values, inner' (f value) = (inner value).map f)
    (kept : List KeptChild) :
    pick (f gap) inner' (values.map f) kept = (pick gap inner values kept).map f := by
  induction kept with
  | nil => rfl
  | cons child rest ih =>
      have first : addition inner' (values.map f) child = (addition inner values child).map f := by
        unfold addition
        rw [List.getElem?_map]
        cases found : values[child.index]? with
        | none => rfl
        | some value =>
            dsimp only [Option.map_some]
            split
            · exact same value (List.mem_of_getElem? found)
            · rfl
      rw [pick, pick, ih, first]
      simp

/-- A rule chooses in the same way whatever is made of what it chooses from. -/
theorem chosen_map (shape : Shape) (f : α → β) (gap : α) {inner : α → List α}
    {inner' : β → List β} {values : List α}
    (same : ∀ value ∈ values, inner' (f value) = (inner value).map f) :
    shape.chosen (f gap) inner' (values.map f) = (shape.chosen gap inner values).map f := by
  unfold chosen
  cases shape.selection with
  | none => rfl
  | some kept =>
      dsimp only
      rw [pick_map f gap same]
      simp

theorem innerItems_value {body : Body} (bears : forest.Bears body) :
    innerItems forest body.value = body.children.map Body.value := by
  cases bears with
  | plain isPlain => cases ‹Value› <;> first | rfl | cases isPlain
  | node found _ _ held => exact innerItems_node found held
  | sequence => rfl

theorem cellsOf_gaps (count : Nat) :
    Body.cellsOf (List.replicate count (.plain .nothing)) = [] := by
  induction count with
  | zero => rfl
  | succ count ih => exact ih

theorem cellsOf_drop_sublist (bodies : List Body) (index : Nat) :
    (Body.cellsOf (bodies.drop (index + 1))).Sublist (Body.cellsOf (bodies.drop index)) := by
  by_cases within : index < bodies.length
  · rw [List.drop_eq_getElem_cons within]
    exact List.sublist_append_right ..
  · rw [List.drop_eq_nil_of_le (by omega)]
    exact List.nil_sublist _

theorem chosen_looks (shape : Shape) (bodies : List Body) :
    shape.chosen (.plain .nothing) Appearance.children (bodies.map Body.looks) =
      (shape.chosen (.plain .nothing) Body.children bodies).map Body.looks :=
  chosen_map shape Body.looks (.plain .nothing) fun body _ => body.children_looks

theorem chosen_value (shape : Shape) (bears : ∀ body ∈ bodies, forest.Bears body) :
    shape.chosen .nothing (innerItems forest) (bodies.map Body.value) =
      (shape.chosen (.plain .nothing) Body.children bodies).map Body.value :=
  chosen_map shape Body.value (.plain .nothing) fun body member =>
    innerItems_value (bears body member)

/-- What is spliced lies in sequences of its own, and what is chosen lies in other cells of the
values that it is chosen from. Induction on the symbols. -/
theorem exists_splices (bears : ∀ body ∈ bodies, forest.Bears body) (keepAll : Bool)
    (symbols : List Symbol) : ∀ (index missing : Nat) (gaps : List Nat),
      (∀ child ∈ (select keepAll index missing symbols gaps).1, child.spliced = true →
        ∃ id, (bodies.map Body.value)[child.index]? = some (.node id)) →
      ∃ ids, Splices forest (bodies.map Body.value)
          (select keepAll index missing symbols gaps).1 ids ∧
        (ids.map Cell.sequence ++ Body.cellsOf (pick (.plain .nothing) Body.children bodies
          (select keepAll index missing symbols gaps).1)).Subperm
            (Body.cellsOf (bodies.drop index)) := by
  induction symbols with
  | nil => exact fun _ _ _ _ => ⟨[], .nil, List.nil_subperm⟩
  | cons symbol symbols ih =>
      intro index missing gaps nodes
      simp only [select] at nodes ⊢
      split at nodes
      next kept =>
        rcases List.forall_mem_cons.mp nodes with ⟨here, others⟩
        rcases ih _ _ _ others with ⟨ids, splices, inside⟩
        rw [if_pos kept]
        simp only [pick, Body.cellsOf_append, cellsOf_gaps, List.nil_append, addition]
        generalize Body.cellsOf (pick (.plain .nothing) Body.children bodies
          (select keepAll (index + 1) 0 symbols gaps.tail).1) = picked at inside ⊢
        by_cases spliced : isSpliced symbol = true
        · rcases here spliced with ⟨id, found⟩
          rw [List.getElem?_map, Option.map_eq_some_iff] at found
          rcases found with ⟨body, found, value⟩
          rcases List.getElem?_eq_some_iff.mp found with ⟨within, same⟩
          rw [List.drop_eq_getElem_cons within, same, found]
          have bears := bears body (List.mem_of_getElem? found)
          rcases bears.exists_node value with ⟨node, spanId, span, children, rfl⟩
          cases bears with
          | node listed spanned covers held each =>
              refine ⟨_ :: ids,
                .spliced spliced (by simp [found, Body.value]) listed held splices, ?_⟩
              simp only [spliced, if_true, List.map_cons, List.cons_append,
                Body.cellsOf, Body.cells, Body.children]
              refine (List.subperm_cons _).mpr (.cons_right _ ?_)
              refine (List.perm_append_comm_assoc ..).subperm.trans ?_
              exact (List.subperm_append_left _).mpr inside
        · have whole : isSpliced symbol = false := by simpa using spliced
          refine ⟨ids, .whole whole splices, ?_⟩
          simp only [whole, Bool.false_eq_true, if_false]
          by_cases within : index < bodies.length
          · rw [List.drop_eq_getElem_cons within, List.getElem?_eq_getElem within]
            simp only [Body.cellsOf, List.append_nil]
            refine (List.perm_append_comm_assoc ..).subperm.trans ?_
            exact (List.subperm_append_left _).mpr inside
          · rw [List.getElem?_eq_none (Nat.not_lt.mp within)]
            exact inside.trans (cellsOf_drop_sublist bodies index).subperm
      next out =>
        rcases ih _ _ _ nodes with ⟨ids, splices, inside⟩
        rw [if_neg out]
        exact ⟨ids, splices, inside.trans (cellsOf_drop_sublist bodies index).subperm⟩

/-! ## Choosing -/

theorem confined_leaveGap (collected : SequenceId) (count : Nat) :
    (leaveGap collected count).Confined Rearranges := by
  unfold leaveGap
  split
  · exact .pure _
  · exact .work (.tend fun _ => ⟨rfl, rfl⟩)

theorem confined_childrenOf (value : Option Value) : (childrenOf value).Confined Rearranges := by
  unfold childrenOf
  split
  · exact .look _
  · exact .throw _
  · exact .throw _

theorem confined_collect (values : List Value) (kept : List KeptChild) :
    ∀ collected, (collect values collected kept).Confined Rearranges := by
  induction kept with
  | nil => exact fun _ => .pure _
  | cons child rest ih =>
      intro collected
      rw [collect_cons]
      refine .bind (confined_leaveGap _ _) fun _ => ?_
      unfold collectChild
      split
      · refine .bind (confined_childrenOf _) fun spliced => ?_
        refine .bind (.look _) fun (found, added) => ?_
        dsimp only
        split
        · exact ih _
        · exact .bind (.work (.tend fun _ => ⟨rfl, rfl⟩)) fun _ => ih _
      · split
        · exact .throw _
        · exact .bind (.work (.tend fun _ => ⟨rfl, rfl⟩)) fun _ => ih _

/-- To choose children changes sequences only. -/
theorem confined_choose (shape : Shape) (given : SequenceId) :
    (shape.choose given).Confined Rearranges := by
  cases selects : shape.selection with
  | none =>
      unfold choose
      rw [selects]
      exact .pure _
  | some kept =>
      rw [choose_eq selects]
      refine .bind (.look _) fun items => ?_
      refine .bind (.plant fun _ => ⟨rfl, rfl⟩) fun fresh => ?_
      refine .bind (confined_collect _ _ _) fun collected => ?_
      exact .bind (confined_leaveGap _ _) fun _ => .pure _

/-- What has been chosen lies in a sequence, with all that belongs to it. It lies in cells of what
it has been chosen from and in new ones. -/
structure ChosenBodies (before after : Forest) (given sequence : SequenceId)
    (bodies chosen : List Body) :
    Prop where
  held : after.sequences[sequence.index]? = some (chosen.map Body.value)
  bears : ∀ body ∈ chosen, after.Bears body
  nodup : (Cell.sequence sequence :: Body.cellsOf chosen).Nodup
  within : ∀ cell ∈ Cell.sequence sequence :: Body.cellsOf chosen,
    cell ∈ Cell.sequence given :: Body.cellsOf bodies ∨ ¬before.HasCell cell
  touches : ∃ ids : List SequenceId, ids.map Cell.sequence ⊆ Body.cellsOf bodies ∧
    before.Touches after (ids.map Cell.sequence)

theorem choose_bears {before after : Workspace} {rule : Rule} {placeholders : Bool} {shape : Shape}
    {given sequence : SequenceId} (shaped : ofRule rule placeholders = .ok shape)
    (held : before.forest.sequences[given.index]? = some (bodies.map Body.value))
    (bears : ∀ body ∈ bodies, before.forest.Bears body)
    (nodup : (Cell.sequence given :: Body.cellsOf bodies).Nodup)
    (yields : (shape.choose given).Yields before sequence after) :
    ChosenBodies before.forest after.forest given sequence bodies
      (shape.chosen (.plain .nothing) Body.children bodies) := by
  rcases List.nodup_cons.mp nodup with ⟨outside, apart⟩
  have exists_ids : ∃ ids, (∀ kept, shape.selection = some kept →
      Splices before.forest (bodies.map Body.value) kept ids) ∧
      (ids.map Cell.sequence ++ Body.cellsOf (shape.chosen (.plain .nothing) Body.children
        bodies)).Subperm (Body.cellsOf bodies) := by
    unfold chosen
    rcases ofRule_eq_ok shaped with ⟨-, -, ⟨selects, -⟩ | ⟨takesAll, -⟩⟩
    · rcases exists_splices bears rule.options.keepAllTokens rule.expansion
        0 0 _ fun child member spliced => by
          rcases symbol_of_mem_select member with ⟨_, symbol, here, same⟩
          exact choose_nodes shaped held yields here (same.symm.trans spliced) with
        ⟨ids, splices, inside⟩
      refine ⟨ids, fun kept same => ?_, ?_⟩
      · rcases Option.some.inj (selects.symm.trans same) with rfl
        exact splices
      · simp only [selects, Body.cellsOf_append, cellsOf_gaps, List.append_nil]
        exact inside
    · refine ⟨[], fun kept same => ?_, ?_⟩
      · rw [takesAll] at same
        cases same
      · simp only [takesAll]
        exact List.Subperm.refl _
  rcases exists_ids with ⟨ids, splices, inside⟩
  have arises := chosen_arises (.plain .nothing) Body.children shaped bodies
  have sameItems := shape.chosen_value bears
  generalize shape.chosen (.plain .nothing) Body.children bodies = chosen at *
  have nodupAll : (ids.map Cell.sequence ++ Body.cellsOf chosen).Nodup := by
    rcases inside with ⟨all, perm, sublist⟩
    exact perm.nodup_iff.mp (apart.sublist sublist)
  rcases List.nodup_append'.mp nodupAll with ⟨nodupIds, nodupChosen, separate⟩
  have ofBodies : Body.cellsOf chosen ⊆ Body.cellsOf bodies := fun cell member =>
    inside.subset (List.mem_append_right _ member)
  rcases choose_items held splices (List.Nodup.of_map _ nodupIds) yields with
    ⟨found, place, preserves⟩
  have touches := touches_of_preserves preserves ((confined_choose shape given).yields yields)
  have there : ∀ body ∈ chosen, before.forest.Bears body := by
    intro body member
    rcases arises.mem member with rfl | ⟨value, listed, rfl | inner⟩
    · exact .plain rfl
    · exact bears _ listed
    · exact (bears value listed).child body inner
  refine ⟨?_, fun body member => ?_, List.nodup_cons.mpr ⟨fun member => ?_, nodupChosen⟩, ?_,
    ids, fun cell member => inside.subset (List.mem_append_left _ member), touches⟩
  · rw [found, sameItems]
  · exact (there body member).keep touches fun cell own changed =>
      separate changed (Body.cells_subset member own)
  · rcases place with rfl | listed | fresh
    · exact outside (ofBodies member)
    · exact separate (List.mem_map_of_mem listed) member
    · exact Nat.not_le_of_lt (hasCell_of_bears bears _ (ofBodies member)) fresh
  · refine List.forall_mem_cons.mpr ⟨?_, fun cell member =>
      .inl (List.mem_cons_of_mem _ (ofBodies member))⟩
    rcases place with rfl | listed | fresh
    · exact .inl (List.mem_cons_self ..)
    · exact .inl (List.mem_cons_of_mem _ (inside.subset
        (List.mem_append_left _ (List.mem_map_of_mem listed))))
    · exact .inr (Nat.not_lt_of_le fresh)

end Shape

end Lalr
