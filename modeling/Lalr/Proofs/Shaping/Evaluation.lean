import Lalr.Proofs.Machine.Tracking
import Lalr.Proofs.Shaping.Entries
import Lalr.Proofs.Shaping.Reductions
import Lalr.Proofs.Traversal.Meanings

/-!
# What derivations look like

A reduction makes a tree of what it chooses, or has a pure handler make something of it.
Either way what comes out looks like what follows from the looks of the values that go in.
So what a parse makes of its input can be told from the derivation of the input, however
trees and handlers are mixed on the way.
-/

namespace Lalr

open Forest

namespace Growth

variable {growth : Growth} {meaning : String → List Appearance → Option Appearance}
  {before after : Workspace} {label : String} {build : SequenceId → Run Value}
  {children : SequenceId} {items : List Value} {seen : List Appearance}
  {own below ids : List SequenceId}

/-- Whether trees get no positions, and a transformer is pure if there is one. -/
structure Pure (growth : Growth) (meaning : String → List Appearance → Option Appearance) :
    Prop where
  off : growth.propagation = .off
  transformer : ∀ {transformer}, growth.transformer = some transformer →
    transformer.Pure meaning

/-- Whether no handler is called for a label. -/
def Bare (growth : Growth) (label : String) : Prop :=
  ∀ {transformer}, growth.transformer = some transformer → transformer.handlerFor? label = none

/-- What is made of the chosen children of a rule, by how they look. -/
def nodeSeen (growth : Growth) (meaning : String → List Appearance → Option Appearance)
    (label : String) (seen : List Appearance) : Option Appearance :=
  match growth.transformer with
  | none => some (.node label {} (growth.nodes == .variant) seen)
  | some transformer => transformer.madeOf meaning label {} seen

/-- What is made of the values of a rule's symbols, by how they look. -/
def ruleSeen (growth : Growth) (meaning : String → List Appearance → Option Appearance)
    (label : String) (shape : Shape) (seen : List Appearance) : Option Appearance :=
  match shape.unwraps, shape.chosen (.plain .nothing) Appearance.children seen with
  | true, [only] => some only
  | _, chosen => growth.nodeSeen meaning label chosen

/-- What is built where no handler is called is a new tree. -/
theorem builder_bare (seen : List Appearance) (built : growth.builder label = .ok build)
    (pure : growth.Pure meaning) (bare : growth.Bare label) :
    ∃ variant, growth.nodeSeen meaning label seen = some (.node label {} variant seen) ∧
      ∀ children, build children = do
        return .node (← Work.plant fun forest =>
          forest.addNode { label, children, variant }) := by
  unfold builder at built
  unfold nodeSeen
  cases has : growth.transformer with
  | none =>
      rw [has] at built
      dsimp only at built
      split at built
      · cases built
      · cases built
        exact ⟨_, rfl, fun _ => rfl⟩
  | some transformer =>
      simp only [has, bare has] at built
      cases built
      refine ⟨false, ?_, fun children => ?_⟩
      · simp [Transformer.madeOf, bare has]
      · simp only [Transformer.rebuild, (pure.transformer has).fallback]

/-- What is built looks as it should. -/
theorem Pure.builder_comes (pure : growth.Pure meaning) (built : growth.builder label = .ok build)
    (has : before.forest.Has own) (held : before.forest.sequences[children.index]? = some items)
    (appear : before.forest.AllAppear own items seen) (outside : children ∉ own) :
    (build children).Comes before own (growth.nodeSeen meaning label seen) := by
  by_cases bare : growth.Bare label
  · rcases builder_bare seen built pure bare with ⟨variant, made, builds⟩
    rw [made, builds]
    have planted : Run.Adds (Work.plant fun forest => forest.addNode { label, children, variant })
        before fun forest id => forest.Appears own (.node id) (.node label {} variant seen) :=
      .plant (.addNode ..) (appears_addNode held appear outside rfl)
    refine Run.Comes.bind planted fun {id between} _ appears => ?_
    exact ⟨.node id, between, Run.yields_pure.mpr ⟨rfl, rfl⟩, .refl _ _, appears⟩
  · have exists_transformer : ∃ transformer, growth.transformer = some transformer ∧
        transformer.handlerFor? label ≠ none := by simpa [Bare] using bare
    rcases exists_transformer with ⟨transformer, given, handled⟩
    rcases Option.ne_none_iff_exists'.mp handled with ⟨handler, handles⟩
    have comes := (pure.transformer given).comes has held appear outside
      (rfl : before.forest.seenSpan true { label, children, span := none } = some {})
    simp only [nodeSeen, given]
    simp only [handles] at comes
    simp only [builder, given, handles] at built
    have spanless := (pure.transformer given).spanless handles
    split at built
    next => cases built
    next => cases built
    next plain =>
      cases built
      have same : { handler with
          convention := if transformer.kind = .inPlace then some .tree else none } = handler := by
        simp [(pure.transformer given).copying, ← plain]
      rw [same]
      exact comes
    next =>
      cases built
      exact comes

/-- What is built of a sequence that nobody owns yet is an entry of the stack. -/
theorem Pure.builder_entry (pure : growth.Pure meaning) (built : growth.builder label = .ok build)
    (held : before.forest.sequences[children.index]? = some items)
    (appear : before.forest.AllAppear (children :: below) items seen) (outside : children ∉ below)
    (has : before.forest.Has below) {flag : Bool} (bare : flag = true → growth.Bare label)
    {value : Value} (yields : (build children).Yields before value after) :
    ∃ result used, growth.nodeSeen meaning label seen = some result ∧
      after.forest.Entry (used ++ below) flag value result used ∧ used.Sublist [children] ∧
      before.forest.Preserves true after.forest [] := by
  cases flag with
  | true =>
      rcases builder_bare seen built pure (bare rfl) with ⟨variant, made, builds⟩
      rw [builds] at yields
      simp only [Run.yields_bind, Run.yields_plant, Run.yields_pure] at yields
      rcases yields with ⟨_, _, ⟨rfl, rfl⟩, rfl, rfl⟩
      exact ⟨_, [children], made, entry_addNode held appear rfl,
        List.Sublist.refl _, .addNode ..⟩
  | false =>
      have appear : before.forest.AllAppear below items seen :=
        appear.keep (.refl _ _) fun id member => .inl (List.mem_cons_of_mem _ member)
      rcases (pure.builder_comes built has held appear outside).of_yields yields with
        ⟨result, made, preserves, appears⟩
      exact ⟨result, [], made, .shared appears, List.nil_sublist _, preserves⟩

/-- What a rule is replaced by is an entry of the stack. -/
theorem Pure.wrap_entry (pure : growth.Pure meaning) (built : growth.builder label = .ok build)
    {shape : Shape}
    (held : before.forest.sequences[children.index]? = some items)
    (appear : before.forest.AllAppear (children :: below) items
      (shape.chosen (.plain .nothing) Appearance.children seen)) (outside : children ∉ below)
    (has : before.forest.Has below) {flag : Bool}
    (bare : flag = true → shape.unwraps = false ∧ growth.Bare label)
    {value : Value} (yields : (wrap shape.unwraps build children items).Yields before value after) :
    ∃ result used, growth.ruleSeen meaning label shape seen = some result ∧
      after.forest.Entry (used ++ below) flag value result used ∧ used.Sublist [children] ∧
      before.forest.Preserves true after.forest [] := by
  have builds := @Pure.builder_entry _ _ before after _ _ _ _ _ _ pure built held appear outside has
    flag (fun isFlag => (bare isFlag).2) value
  unfold ruleSeen
  generalize shape.chosen (.plain .nothing) Appearance.children seen = chosen at appear builds ⊢
  cases unwraps : shape.unwraps with
  | false =>
      rw [unwraps] at yields
      exact builds yields
  | true =>
      rw [unwraps] at yields
      cases appear with
      | nil => exact builds yields
      | cons appears rest =>
          cases rest with
          | cons => exact builds yields
          | nil =>
              have same : flag = false := by
                cases flag with
                | false => rfl
                | true => exact absurd (bare rfl).1 (by simp [unwraps])
              rcases same with rfl
              rcases Run.yields_pure.mp yields with ⟨rfl, rfl⟩
              exact ⟨_, [], rfl, .shared (appears.keep (.refl _ _) fun id member =>
                .inl (List.mem_cons_of_mem _ member)), List.nil_sublist _, .refl _ _⟩

/-- A reduction on a stack makes what it should of the values that it finds there. It takes over
sequences of these values or uses new ones, and keeps all others. -/
theorem Pure.reduce_entry (pure : growth.Pure meaning) {rule : Rule} {shape : Shape}
    {values : List Value} {value : Value} (built : growth.builder rule.label = .ok build)
    (shaped : Shape.ofRule rule growth.placeholders = .ok shape)
    (entries : before.forest.Entries (ids ++ below) (rule.expansion.map Shape.isSpliced) values seen
      ids) (nodup : (ids ++ below).Nodup) (has : before.forest.Has (ids ++ below)) {flag : Bool}
    (bare : flag = true → shape.unwraps = false ∧ growth.Bare rule.label)
    (yields : (growth.reduce shape build values).Yields before value after) :
    ∃ result used, growth.ruleSeen meaning rule.label shape seen = some result ∧
      after.forest.Entry (used ++ below) flag value result used ∧ (used ++ below).Nodup ∧
      (∀ id ∈ used, id ∈ ids ∨ before.forest.sequences.size ≤ id.index) ∧
      before.forest.Preserves true after.forest ids := by
  rw [reduce_eq] at yields
  simp only [Run.yields_bind, Run.yields_plant, Run.yields_look] at yields
  rcases yields with
    ⟨_, _, ⟨rfl, rfl⟩, children, chosen, choose, _, _, ⟨rfl, rfl⟩, result,
      wrapped, wrap, place⟩
  simp only [Growth.place, pure.off, Run.yields_pure] at place
  rcases place with ⟨rfl, rfl⟩
  have planted : before.forest.Preserves true (before.forest.addSequence values).2 [] :=
    .addSequence ..
  have within : before.forest.Within (ids ++ below)
      ((before.forest.addSequence values).1 :: (ids ++ below)) :=
    List.forall_mem_cons.mpr ⟨.inr (Nat.le_refl _), fun _ => .inl⟩
  have entries := entries.keep planted (List.nil_subset _) (List.disjoint_nil_right _) within
  have hasBelow : before.forest.Has below := fun id member => has id (by simp [member])
  rcases Shape.choose_appear shaped
      (held_addSequence ..) entries (List.nodup_cons.mpr ⟨has.notMem values, nodup⟩)
      (hasBelow.keep planted) choose with
    ⟨items, held, appear, outside, member, preserves⟩
  have same : chosen.forest.items children = items := by simp [Forest.items, held]
  rw [same] at wrap
  rcases pure.wrap_entry built held appear
      outside ((hasBelow.keep planted).keep preserves) bare wrap with
    ⟨made, used, seen_eq, entry, sublist, preservesWrap⟩
  refine ⟨made, used, seen_eq, entry, ?_, fun id inside => ?_, ?_⟩
  · have apart : ([children] ++ below).Nodup :=
      List.nodup_cons.mpr ⟨outside, (List.nodup_append'.mp nodup).2.1⟩
    exact apart.sublist (sublist.append_right below)
  · rcases List.mem_singleton.mp (sublist.subset inside) with rfl
    rcases member with rfl | member | fresh
    · exact .inr (Nat.le_refl _)
    · exact .inl member
    · exact .inr (Nat.le_trans planted.grows fresh)
  · exact ((planted.narrow (by simp)).trans preserves).trans (preservesWrap.narrow (by simp))

end Growth

/-- All that decides what a derivation looks like: how trees are grown, what handlers mean, and the
rules and the terminals of the grammar. -/
structure Reading where
  growth : Growth
  meaning : String → List Appearance → Option Appearance
  rules : List Rule
  kinds : List String

/-- Whether the tree of a derivation may be spliced. -/
def Derivation.isHelper (rules : List Rule) : Derivation → Bool
  | .leaf _ => false
  | .node rule _ =>
    (rules.find? fun entry => entry.same rule).isSome && Shape.isSpliced (.nonterminal rule.origin)

/-- The derivations of symbols that are spliced have trees that may be. -/
def Rule.FitsParts (own : Rule) (rules : List Rule) (parts : List Derivation) : Prop :=
  ∀ {index : Nat} {symbol : Symbol} {part : Derivation}, own.expansion[index]? = some symbol →
    Shape.isSpliced symbol = true → parts[index]? = some part → part.isHelper rules = true

namespace Reading

/-- The handlers for tokens. -/
def tokens (reading : Reading) : List (String × TokenHandler) :=
  Reductions.handlersFor reading.growth.transformer reading.kinds

/-- What a token is shifted as. -/
def tokenSeen (reading : Reading) (token : Token) : Option Appearance :=
  Transformer.answerTo reading.meaning (assoc? reading.tokens token.kind).isSome token

mutual

/-- A derivation looks like something. -/
inductive Evaluates (reading : Reading) : Derivation → Appearance → Prop
  | leaf {token : Token} {result : Appearance} (made : reading.tokenSeen token = some result) :
      Evaluates reading (.leaf token) result
  | node {rule own : Rule} {shape : Shape} {parts : List Derivation} {seen : List Appearance}
      {result : Appearance} (found : reading.rules.find? (fun entry => entry.same rule) = some own)
      (shaped : Shape.ofRule own reading.growth.placeholders = .ok shape)
      (length : own.expansion.length = parts.length) (fits : own.FitsParts reading.rules parts)
      (all : AllEvaluate reading parts seen)
      (made : reading.growth.ruleSeen reading.meaning own.label shape seen = some result) :
      Evaluates reading (.node rule parts) result
  | loose {rule : Rule} {parts : List Derivation} {seen : List Appearance}
      (ruleless : reading.rules = []) (tokenless : reading.tokens = [])
      (all : AllEvaluate reading parts seen) : Evaluates reading (.node rule parts) (.sequence seen)

/-- Some derivations look like something one by one. -/
inductive AllEvaluate (reading : Reading) : List Derivation → List Appearance → Prop
  | nil : AllEvaluate reading [] []
  | cons {part : Derivation} {parts : List Derivation} {appearance : Appearance}
      {seen : List Appearance} (evaluates : Evaluates reading part appearance)
      (rest : AllEvaluate reading parts seen) :
      AllEvaluate reading (part :: parts) (appearance :: seen)

end

variable {reading : Reading} {parts rest : List Derivation} {seen : List Appearance}

theorem allEvaluate_iff :
    reading.AllEvaluate parts seen ↔ List.Forall₂ reading.Evaluates parts seen := by
  constructor
  · intro all
    induction parts generalizing seen with
    | nil => cases all; exact .nil
    | cons part parts ih => cases all with | cons first rest => exact .cons first (ih rest)
  · intro all
    induction all with
    | nil => exact .nil
    | cons first _ ih => exact .cons first ih

/-- What the derivation at some place looks like. -/
theorem AllEvaluate.get (all : reading.AllEvaluate parts seen) :
    ∀ {index : Nat} {part : Derivation}, parts[index]? = some part →
      ∃ appearance, seen[index]? = some appearance ∧ reading.Evaluates part appearance := by
  induction parts generalizing seen with
  | nil => intro index part here; simp at here
  | cons first parts ih =>
      intro index part here
      cases all with
      | cons evaluates rest =>
          cases index with
          | zero =>
              rcases (show first = part by simpa using here) with rfl
              exact ⟨_, rfl, evaluates⟩
          | succ index => exact ih rest (by simpa using here)

/-- The derivations on top of a stack, which has its top first, and those below. -/
theorem AllEvaluate.taken (all : reading.AllEvaluate (parts.reverse ++ rest) seen) :
    ∃ top below, seen = top.reverse ++ below ∧ reading.AllEvaluate parts top ∧
      reading.AllEvaluate rest below := by
  have all := (allEvaluate_iff.mp all).flip
  have front := List.forall₂_take_append _ _ _ all
  have back := List.forall₂_drop_append _ _ _ all
  refine ⟨(seen.take parts.reverse.length).reverse, seen.drop parts.reverse.length, by simp, ?_,
    allEvaluate_iff.mpr back.flip⟩
  rw [allEvaluate_iff, ← List.forall₂_reverse_iff, List.reverse_reverse]
  exact front.flip

theorem AllEvaluate.put {top below : List Appearance} (all : reading.AllEvaluate parts top)
    (others : reading.AllEvaluate rest below) :
    reading.AllEvaluate (parts.reverse ++ rest) (top.reverse ++ below) :=
  allEvaluate_iff.mpr (List.rel_append (List.forall₂_reverse_iff.mpr (allEvaluate_iff.mp all))
    (allEvaluate_iff.mp others))

/-- Whether handlers are pure, and trees that may be spliced are trees of all their children that no
handler is called for. -/
structure Sound (reading : Reading) : Prop where
  pure : reading.growth.Pure reading.meaning
  helpers : ∀ rule ∈ reading.rules, Shape.isSpliced (.nonterminal rule.origin) = true →
    (rule.options.expandSingle && !rule.hasByname) = false ∧ reading.growth.Bare rule.label

/-- A rule whose tree may be spliced makes a new tree of all that it chooses. -/
theorem Sound.helper (sound : reading.Sound) {rule own : Rule} {shape : Shape}
    (found : reading.rules.find? (fun entry => entry.same rule) = some own)
    (shaped : Shape.ofRule own reading.growth.placeholders = .ok shape)
    (isHelper : (Derivation.node rule parts).isHelper reading.rules = true) :
    shape.unwraps = false ∧ reading.growth.Bare own.label := by
  have origins : own.origin = rule.origin :=
    (Rule.same_iff.mp (by simpa using List.find?_some found)).1
  simp only [Derivation.isHelper, found, Option.isSome_some, Bool.true_and, ← origins] at isHelper
  rcases sound.helpers own (List.mem_of_find?_eq_some found) isHelper with ⟨unwraps, bare⟩
  exact ⟨(Shape.ofRule_eq_ok shaped).2.1.trans unwraps, bare⟩

/-- The values on a stack look like the derivations of their symbols. The sequences of trees that
may be spliced are not older than the parse, and nothing that is older has been changed. -/
def Stands (reading : Reading) (base forest : Forest) (values : List Value)
    (parts : List Derivation) (seen : List Appearance) : Prop :=
  reading.AllEvaluate parts seen ∧
    ∃ ids, forest.Entries ids (parts.map (Derivation.isHelper reading.rules)) values seen ids ∧
      ids.Nodup ∧ (∀ id ∈ ids, base.sequences.size ≤ id.index) ∧
        base.Preserves true forest []

section Steps

variable {base : Forest} {before after : Workspace} {values : List Value} {value : Value}
  {reductions : Reductions}

/-- The values on top of a stack, in the order of their symbols, and those below them. -/
theorem Stands.taken
    (stands : reading.Stands base before.forest values (parts.reverse ++ rest) seen) :
    ∃ top below usedTop usedBelow, reading.AllEvaluate parts top ∧
      reading.AllEvaluate rest below ∧
      before.forest.Entries (usedTop ++ usedBelow) (parts.map (Derivation.isHelper reading.rules))
        (values.take parts.length).reverse top usedTop ∧
      before.forest.Entries (usedTop ++ usedBelow) (rest.map (Derivation.isHelper reading.rules))
        (values.drop parts.length) below usedBelow ∧
      (usedTop ++ usedBelow).Nodup ∧
      (∀ id ∈ usedTop ++ usedBelow, base.sequences.size ≤ id.index) ∧
      base.Preserves true before.forest [] := by
  rcases stands with ⟨all, ids, entries, nodup, fresh, preserves⟩
  rcases all.taken with ⟨top, below, rfl, allTop, allBelow⟩
  have heights : parts.length = top.reverse.length := by
    simpa using (allEvaluate_iff.mp allTop).length_eq
  rw [List.map_append] at entries
  rcases Entries.split _ (by simpa using heights) entries with
    ⟨usedTop, usedBelow, rfl, entriesTop, entriesBelow⟩
  rw [← heights] at entriesTop entriesBelow
  rcases entriesTop.reverse with ⟨usedBy, perm, entriesTop⟩
  rw [List.map_reverse, List.reverse_reverse, List.reverse_reverse] at entriesTop
  have whole := perm.append_right usedBelow
  exact ⟨top, below, usedBy, usedBelow, allTop, allBelow, entriesTop.subset whole.subset,
    entriesBelow.subset whole.subset, whole.nodup_iff.mpr nodup,
    fun id member => fresh id (whole.subset member), preserves⟩

/-- A token that is shifted looks like what is made of it. -/
theorem Stands.shift (stands : reading.Stands base before.forest values parts seen)
    (sound : reading.Sound)
    (make : Reductions.make reading.growth reading.rules reading.kinds = .ok reductions)
    {token : Token} (yields : (reductions.shift token).Yields before value after) :
    ∃ result, reading.Stands base after.forest (value :: values) (.leaf token :: parts)
      (result :: seen) := by
  rcases stands with ⟨all, ids, entries, nodup, fresh, preserves⟩
  have exists_result : ∃ result, reading.tokenSeen token = some result ∧
      before.forest.Preserves true after.forest [] ∧ after.forest.Appears ids value result := by
    have listed : reductions.tokens = reading.tokens := (Reductions.make_eq_ok make).2
    rw [Reductions.shift, listed] at yields
    unfold tokenSeen Transformer.answerTo
    cases known : assoc? reading.tokens token.kind with
    | none =>
        rw [known] at yields
        rcases Run.yields_pure.mp yields with ⟨rfl, rfl⟩
        exact ⟨_, rfl, .refl _ _, .plain rfl⟩
    | some callback =>
        rw [known] at yields
        rcases Reductions.exists_handler (mem_of_assoc? known) with
          ⟨transformer, handler, given, handles, rfl⟩
        have comes : (handler.call [.token token]).Comes before ids
            (reading.meaning token.kind [.plain (.token token)]) :=
          (sound.pure.transformer given).means handles (.cons (.plain rfl) .nil) entries.bound
        exact comes.of_yields yields
  rcases exists_result with ⟨result, made, kept, appears⟩
  refine ⟨result, .cons (.leaf made) all, ids, ?_, nodup, fresh, preserves.trans kept⟩
  exact .cons (.shared appears)
    (entries.keep kept (List.nil_subset _) (List.disjoint_nil_right _) fun _ => .inl)

/-- What a reduction by a rule puts on a stack looks like what is made of the values of the rule's
symbols. A tree on the stack that the rule does not splice may be shared from now on. -/
theorem Stands.reduce_found
    (stands : reading.Stands base before.forest values (parts.reverse ++ rest) seen)
    (sound : reading.Sound) {rule own : Rule} {shape : Shape} {build : SequenceId → Run Value}
    (found : reading.rules.find? (fun entry => entry.same rule) = some own)
    (shaped : Shape.ofRule own reading.growth.placeholders = .ok shape)
    (built : reading.growth.builder own.label = .ok build)
    (length : own.expansion.length = parts.length) (fits : own.FitsParts reading.rules parts)
    (yields : (reading.growth.reduce shape build (values.take parts.length).reverse).Yields before
      value after) :
    ∃ seen', reading.Stands base after.forest (value :: values.drop parts.length)
      (.node rule parts :: rest) seen' := by
  rcases stands.taken with
    ⟨top, below, usedTop, usedBelow, allTop, allBelow, entriesTop, entriesBelow, nodup,
      fresh, preserves⟩
  have weaker : List.Forall₂ (fun flag' flag => flag' = true → flag = true)
      (own.expansion.map Shape.isSpliced) (parts.map (Derivation.isHelper reading.rules)) := by
    rw [List.forall₂_map_left_iff, List.forall₂_map_right_iff]
    exact List.forall₂_iff_get.mpr ⟨length, fun index bound bound' spliced =>
      fits (List.getElem?_eq_getElem bound) spliced (List.getElem?_eq_getElem bound')⟩
  rcases entriesTop.release weaker with ⟨kept, released, parted, release⟩
  rcases List.nodup_append'.mp ((parted.append_right usedBelow).nodup_iff.mp nodup) with
    ⟨nodupTop, nodupBelow, separate⟩
  rcases List.nodup_append'.mp nodupTop with ⟨nodupKept, -, keptApart⟩
  have has : before.forest.Has (usedTop ++ usedBelow) :=
    List.forall_mem_append.mpr ⟨entriesTop.bound, entriesBelow.bound⟩
  have keptInside : kept ⊆ usedTop ++ usedBelow := fun id member =>
    List.mem_append_left _ (parted.mem_iff.mpr (List.mem_append_left _ member))
  have inside : kept ++ usedBelow ⊆ usedTop ++ usedBelow :=
    List.append_subset.mpr ⟨keptInside, List.subset_append_right ..⟩
  have apartKept : kept.Disjoint usedBelow := fun id member =>
    separate (List.mem_append_left _ member)
  have apartReleased : (kept ++ usedBelow).Disjoint released :=
    List.disjoint_append_left.mpr ⟨keptApart, fun id under member =>
      separate (List.mem_append_right _ member) under⟩
  rcases sound.pure.reduce_entry built shaped (release inside apartReleased)
      (List.nodup_append'.mpr ⟨nodupKept, nodupBelow, apartKept⟩)
      (fun id member => has id (inside member)) (sound.helper found shaped) yields with
    ⟨result, used, made, entry, nodupUsed, within, changed⟩
  refine ⟨_, .cons (.node found shaped length fits allTop made) allBelow, used ++ usedBelow, ?_,
    nodupUsed, fun id member => ?_, ?_⟩
  · refine .cons entry (entriesBelow.keep changed keptInside apartKept.symm fun id member => ?_)
    rcases List.mem_append.mp member with member | member
    · exact (within id member).imp_left fun member => keptInside member
    · exact .inl (List.mem_append_right _ member)
  · rcases List.mem_append.mp member with member | member
    · rcases within id member with member | new
      · exact fresh id (keptInside member)
      · exact Nat.le_trans preserves.grows new
    · exact fresh id (List.mem_append_right _ member)
  · exact ((preserves.narrow (by simp)).trans changed).narrow fun id member =>
      .inr (fresh id (keptInside member))

/-- Where there are no rules, the values of a rule's symbols are put together as a sequence. -/
theorem Stands.reduce_loose
    (stands : reading.Stands base before.forest values (parts.reverse ++ rest) seen)
    (ruleless : reading.rules = []) (tokenless : reading.tokens = []) (rule : Rule) :
    ∃ seen', reading.Stands base (before.forest.addSequence (values.take parts.length).reverse).2
      (.sequence (before.forest.addSequence (values.take parts.length).reverse).1 ::
        values.drop parts.length) (.node rule parts :: rest) seen' := by
  rcases stands.taken with
    ⟨top, below, usedTop, usedBelow, allTop, allBelow, entriesTop, entriesBelow, nodup,
      fresh, preserves⟩
  have unspliced (part : Derivation) : part.isHelper reading.rules = false := by
    cases part <;> simp [Derivation.isHelper, ruleless]
  have appear := entriesTop.appear (by simp [unspliced])
  have added : before.forest.Preserves true
      (before.forest.addSequence (values.take parts.length).reverse).2 [] := .addSequence ..
  have inside : usedBelow ⊆ usedTop ++ usedBelow := List.subset_append_right ..
  have outside : (before.forest.addSequence (values.take parts.length).reverse).1 ∉ usedBelow :=
    entriesBelow.bound.notMem _
  refine ⟨_, .cons (.loose ruleless tokenless allTop) allBelow, usedBelow, ?_,
    (List.nodup_append'.mp nodup).2.1, fun id member => fresh id (inside member),
    preserves.trans added⟩
  rw [List.map_cons, unspliced]
  refine .cons (.shared (.sequence outside (held_addSequence ..) ?_)) ?_
  · exact appear.keep (added.narrow (by simp)) fun id member => .inl (inside member)
  · exact entriesBelow.keep added (List.nil_subset _) (List.disjoint_nil_right _) fun id member =>
      .inl (inside member)

/-- Where there is no transformer, only trees look like trees, and a rule finds them where it
splices. -/
theorem Stands.fits (stands : reading.Stands base before.forest values (parts.reverse ++ rest) seen)
    (plain : reading.growth.transformer = none) {rule own : Rule} {shape : Shape}
    {build : SequenceId → Run Value}
    (found : reading.rules.find? (fun entry => entry.same rule) = some own)
    (shaped : Shape.ofRule own reading.growth.placeholders = .ok shape)
    (names : parts.map Derivation.name = rule.expansion.map Symbol.name)
    (yields : (reading.growth.reduce shape build (values.take parts.length).reverse).Yields before
      value after) : own.FitsParts reading.rules parts := by
  rcases stands.taken with ⟨top, _, _, _, allTop, -, entries, -⟩
  rw [Growth.reduce_eq] at yields
  simp only [Run.yields_bind, Run.yields_plant] at yields
  rcases yields with ⟨_, _, ⟨rfl, rfl⟩, _, _, choose, _⟩
  intro index symbol part here spliced there
  rcases Shape.choose_nodes shaped (held_addSequence ..) choose here spliced with ⟨id, value⟩
  rcases allTop.get there with ⟨appearance, looks, evaluates⟩
  have flagged : (parts.map (Derivation.isHelper reading.rules))[index]? =
      some (part.isHelper reading.rules) := by simp [there]
  rcases entries.get flagged value looks with ⟨used, entry, -⟩
  cases evaluates with
  | @leaf token _ made =>
      have tokenless : reading.tokens = [] := by
        simp [Reading.tokens, Reductions.handlersFor, plain]
      have same : .plain (.token token) = appearance := by
        simpa [tokenSeen, tokenless, Transformer.answerTo, assoc?] using made
      rcases same with rfl
      cases entry with
      | shared appears => cases appears
  | @node rule' _ _ parts' _ _ found' =>
      have named : rule'.origin = symbol.name := by
        have same := congrArg (·[index]?) (names.trans
          (Rule.names_of_same (by simpa using List.find?_some found)).symm)
        simpa [here, there, Derivation.name] using same
      have nonterminal : symbol = .nonterminal rule'.origin := by
        cases symbol with
        | terminal => cases spliced
        | nonterminal name => exact congrArg Symbol.nonterminal named.symm
      simp [Derivation.isHelper, found', ← nonterminal, spliced]
  | loose ruleless => simp [ruleless] at found

/-- What is put on a stack in the place of the values of a rule's symbols. -/
theorem Stands.reduce
    (stands : reading.Stands base before.forest values (parts.reverse ++ rest) seen)
    (sound : reading.Sound)
    (make : Reductions.make reading.growth reading.rules reading.kinds = .ok reductions)
    {rule : Rule} (length : rule.expansion.length = parts.length)
    (fits : ∀ {own shape build}, reading.rules.find? (fun entry => entry.same rule) = some own →
      Shape.ofRule own reading.growth.placeholders = .ok shape →
      (reading.growth.reduce shape build (values.take parts.length).reverse).Yields before value
        after → own.FitsParts reading.rules parts)
    (yields : (reductions.reduce rule (values.take rule.expansion.length).reverse).Yields before
      value after) :
    ∃ seen', reading.Stands base after.forest (value :: values.drop rule.expansion.length)
      (.node rule parts :: rest) seen' := by
  rcases Reductions.make_eq_ok make with ⟨rules, tokens⟩
  rw [length] at yields ⊢
  unfold Reductions.reduce at yields
  cases found : reductions.find? rule with
  | some reduction =>
      rw [found] at yields
      rcases Reductions.find?_eq_some rules found with
        ⟨own, listed, shape, build, shaped, built, rfl⟩
      have same := Rule.length_of_same (by simpa using List.find?_some listed)
      exact stands.reduce_found sound listed shaped built (same.trans length)
        (fits listed shaped yields) yields
  | none =>
      rw [found] at yields
      dsimp only at yields
      split at yields
      next isEmpty =>
        simp only [Reductions.isEmpty, Bool.and_eq_true, List.isEmpty_iff] at isEmpty
        rw [isEmpty.1] at rules
        simp only [Run.yields_bind, Run.yields_plant, Run.yields_pure] at yields
        rcases yields with ⟨_, _, ⟨rfl, rfl⟩, rfl, rfl⟩
        exact stands.reduce_loose (List.forall₂_nil_right_iff.mp rules)
          (tokens.symm.trans isEmpty.2) rule
      next => exact absurd yields Run.yields_throw

end Steps

end Reading

end Lalr
