import Lalr.Proofs.Shaping.Evaluation

/-!
# Transforming trees while they are built

With a transformer at hand a derivation looks like what the transformer makes of the tree
that the derivation looks like without it. Where nothing is discarded, it does not matter
that the transformer sees the children of a rule before they are chosen, and that it never
sees a tree that is spliced.
-/

namespace Lalr

namespace Transformer

variable {transformer : Transformer} {meaning : String → List Appearance → Option Appearance}
  {handled : String → Bool} {item result : Appearance} {items results : List Appearance}

/-- Whether nothing is discarded. -/
def Keeps (transformer : Transformer) (meaning : String → List Appearance → Option Appearance) :
    Prop :=
  ∀ {name : String} {seen : List Appearance}, (transformer.handlerFor? name).isSome = true →
    meaning name seen ≠ some (.plain .discard)

/-- Whether the transformer treats tokens as they are treated where some kinds are handled. -/
def Treats (transformer : Transformer) (handled : String → Bool) (tokens : List Token) : Prop :=
  ∀ token ∈ tokens,
    (transformer.visitsTokens && (transformer.handlerFor? token.kind).isSome) = handled token.kind

/-- Whether the transformer turns a value into another, if its tokens are treated alike. -/
def Becomes (transformer : Transformer) (meaning : String → List Appearance → Option Appearance)
    (handled : String → Bool) (item result : Appearance) : Prop :=
  transformer.Treats handled item.tokens →
    Turns transformer meaning item result ∧ result ≠ .plain .discard

theorem allTurn_of_becomes
    (becomes : List.Forall₂ (transformer.Becomes meaning handled) items results)
    (treats : transformer.Treats handled (Appearance.tokensOf items)) :
    AllTurn transformer meaning items results := by
  induction becomes with
  | nil => exact .nil
  | cons first _ ih =>
      rcases List.forall_mem_append.mp treats with ⟨here, others⟩
      rcases first here with ⟨turns, present⟩
      exact .kept turns present (ih others)

end Transformer

namespace Reading

/-- The reading of a parse without a transformer. -/
def bare (reading : Reading) : Reading :=
  { reading with growth := { reading.growth with transformer := none } }

variable {reading : Reading} {transformer : Transformer}

/-- Which kinds of tokens are handled as they are shifted. -/
def handled (reading : Reading) (kind : String) : Bool := (assoc? reading.tokens kind).isSome

/-- The kinds that are handled are those terminals that the transformer has handlers for. -/
theorem handled_eq (given : reading.growth.transformer = some transformer) (kind : String) :
    reading.handled kind = true ↔
      kind ∈ reading.kinds ∧ (transformer.handlerFor? kind).isSome = true := by
  constructor
  · intro isHandled
    rcases Option.isSome_iff_exists.mp isHandled with ⟨callback, known⟩
    have listed := mem_of_assoc? known
    simp only [tokens, Reductions.handlersFor, given, List.mem_filterMap,
      Option.map_eq_some_iff] at listed
    rcases listed with ⟨name, named, handler, handles, paired⟩
    cases paired
    exact ⟨named, by simp [handles]⟩
  · rintro ⟨named, handled⟩
    rcases Option.isSome_iff_exists.mp handled with ⟨handler, handles⟩
    have listed : (kind, fun token => handler.call [.token token]) ∈ reading.tokens := by
      simp only [tokens, Reductions.handlersFor, given, List.mem_filterMap]
      exact ⟨kind, named, by rw [handles]; rfl⟩
    exact isSome_assoc? listed

theorem tokens_bare (reading : Reading) : reading.bare.tokens = [] := rfl

mutual

/-- Where no token is handled and there are no rules, a transformer has no bearing on what a
derivation looks like. -/
theorem Evaluates.eq_of_loose (ruleless : reading.rules = []) (tokenless : reading.tokens = []) :
    {part : Derivation} → {plain made : Appearance} → reading.bare.Evaluates part plain →
      reading.Evaluates part made → plain = made
  | _, _, _, .leaf made, .leaf made' => by
      simp only [tokenSeen, tokenless, tokens_bare] at made made'
      exact Option.some.inj (made.symm.trans made')
  | _, _, _, .node found .., _ => by
      have found : reading.rules.find? _ = some _ := found
      simp [ruleless] at found
  | _, _, _, .loose _ _ all, other => by
      cases other with
      | node found => simp [ruleless] at found
      | loose _ _ all' => rw [all.eq_of_loose ruleless tokenless all']

theorem AllEvaluate.eq_of_loose (ruleless : reading.rules = []) (tokenless : reading.tokens = []) :
    {parts : List Derivation} → {plain made : List Appearance} →
      reading.bare.AllEvaluate parts plain → reading.AllEvaluate parts made → plain = made
  | _, _, _, .nil, .nil => rfl
  | _, _, _, .cons first rest, .cons first' rest' => by
      rw [first.eq_of_loose ruleless tokenless first', rest.eq_of_loose ruleless tokenless rest']

end

/-- What is kept of a token or a tree where a transformer is at hand, if the transformer turns what
there is without it into what there is with it. Trees that may be spliced have children of which
this holds. -/
structure Inlines (reading : Reading) (transformer : Transformer) (part : Derivation)
    (plain made : Appearance) : Prop where
  becomes : transformer.Becomes reading.meaning reading.handled plain made
  children : part.isHelper reading.rules = true →
    List.Forall₂ (transformer.Becomes reading.meaning reading.handled)
      plain.children made.children

variable {part : Derivation} {plain made : Appearance}

theorem inlines_leaf (given : reading.growth.transformer = some transformer)
    (keeps : transformer.Keeps reading.meaning) {token : Token}
    (seen : reading.bare.tokenSeen token = some plain)
    (seen' : reading.tokenSeen token = some made) :
    reading.Inlines transformer (.leaf token) plain made where
  becomes := by
    have same : .plain (.token token) = plain := by
      simpa [tokenSeen, tokens_bare, Transformer.answerTo, assoc?] using seen
    rcases same with rfl
    intro treats
    have alike := treats token (by simp [Appearance.tokens])
    refine ⟨.token (by rw [alike]; exact seen'), ?_⟩
    rintro rfl
    unfold tokenSeen Transformer.answerTo at seen'
    split at seen'
    next isHandled =>
      rcases Option.isSome_iff_exists.mp isHandled with ⟨callback, known⟩
      rcases Reductions.exists_handler (mem_of_assoc? known) with
        ⟨_, handler, given', handles, -⟩
      rcases Option.some.inj (given.symm.trans given') with rfl
      exact keeps (by simp [handles]) seen'
    next => cases seen'
  children isHelper := by cases isHelper

theorem inlines_loose {rule : Rule} {parts : List Derivation} {seen : List Appearance}
    (ruleless : reading.rules = []) :
    reading.Inlines transformer (.node rule parts) (.sequence seen) (.sequence seen) where
  becomes _ := ⟨.sequence _, fun same => by cases same⟩
  children isHelper := by simp [Derivation.isHelper, ruleless] at isHelper

/-- A transformer turns a tree into what it makes of the tree's children where they have been
transformed before. -/
theorem becomes_built (keeps : transformer.Keeps reading.meaning) {label : String} {variant : Bool}
    {seen seen' : List Appearance}
    (chosen : List.Forall₂ (transformer.Becomes reading.meaning reading.handled) seen seen')
    (built : transformer.madeOf reading.meaning label {} seen' = some made) :
    transformer.Becomes reading.meaning reading.handled (.node label {} variant seen) made := by
  intro treats
  refine ⟨.node (Transformer.allTurn_of_becomes chosen treats) built, ?_⟩
  rintro rfl
  unfold Transformer.madeOf at built
  split at built
  next => cases built
  next handler handles => exact keeps (by simp [handles]) built

/-- What is kept of each of some values is kept of what a rule makes of them. -/
theorem inlines_node (sound : reading.Sound) (given : reading.growth.transformer = some transformer)
    (keeps : transformer.Keeps reading.meaning) {rule own : Rule} {shape : Shape}
    {parts : List Derivation} {seen seen' : List Appearance}
    (found : reading.rules.find? (fun entry => entry.same rule) = some own)
    (shaped : Shape.ofRule own reading.growth.placeholders = .ok shape)
    (length : own.expansion.length = parts.length) (fits : own.FitsParts reading.rules parts)
    (inline : ∀ {index : Nat} {part : Derivation} {plain made : Appearance},
      parts[index]? = some part → seen[index]? = some plain → seen'[index]? = some made →
        reading.Inlines transformer part plain made)
    (heights : parts.length = seen.length) (heights' : parts.length = seen'.length)
    (ruled : reading.bare.growth.ruleSeen reading.meaning own.label shape seen = some plain)
    (ruled' : reading.growth.ruleSeen reading.meaning own.label shape seen' = some made) :
    reading.Inlines transformer (.node rule parts) plain made := by
  have chosen : List.Forall₂ (transformer.Becomes reading.meaning reading.handled)
      (shape.chosen (.plain .nothing) Appearance.children seen)
      (shape.chosen (.plain .nothing) Appearance.children seen') := by
    have nothing : transformer.Becomes reading.meaning reading.handled (.plain .nothing)
        (.plain .nothing) := fun _ => ⟨.plain rfl, fun same => by cases same⟩
    refine Shape.chosen_related shaped nothing (heights.symm.trans heights')
      (length.trans heights) ?_
    intro index symbol plain made here looks looks'
    rcases List.getElem?_eq_some_iff.mp looks with ⟨bound, _⟩
    have there := List.getElem?_eq_getElem (heights ▸ bound)
    have inlines := inline there looks looks'
    split
    next spliced => exact inlines.children (fits here spliced there)
    next => exact inlines.becomes
  unfold Growth.ruleSeen at ruled ruled'
  generalize shape.chosen (.plain .nothing) Appearance.children seen = chosenPlain at chosen ruled
  generalize shape.chosen (.plain .nothing) Appearance.children seen' = chosenMade at chosen ruled'
  have built (ruled : some (.node own.label {} (reading.growth.nodes == .variant) chosenPlain) =
        some plain)
      (ruled' : reading.growth.nodeSeen reading.meaning own.label chosenMade = some made) :
      reading.Inlines transformer (.node rule parts) plain made := by
    rcases Option.some.inj ruled with rfl
    simp only [Growth.nodeSeen, given] at ruled'
    refine ⟨becomes_built keeps chosen ruled', fun isHelper => ?_⟩
    have bare := (sound.helper found shaped isHelper).2 given
    simp only [Transformer.madeOf, bare, Option.some.injEq] at ruled'
    rw [← ruled']
    exact chosen
  cases unwraps : shape.unwraps with
  | false =>
      rw [unwraps] at ruled ruled'
      exact built ruled ruled'
  | true =>
      rw [unwraps] at ruled ruled'
      cases chosen with
      | nil => exact built ruled ruled'
      | cons first others =>
          cases others with
          | cons => exact built ruled ruled'
          | nil =>
              rcases Option.some.inj ruled with rfl
              rcases Option.some.inj ruled' with rfl
              refine ⟨first, fun isHelper => ?_⟩
              rw [(sound.helper found shaped isHelper).1] at unwraps
              cases unwraps

mutual

/-- With a transformer at hand a derivation looks like what the transformer turns the tree into that
the derivation looks like without it. -/
theorem Evaluates.inlines (sound : reading.Sound)
    (given : reading.growth.transformer = some transformer)
    (keeps : transformer.Keeps reading.meaning) :
    {part : Derivation} → {plain made : Appearance} →
    reading.bare.Evaluates part plain → reading.Evaluates part made →
      reading.Inlines transformer part plain made
  | _, _, _, .leaf seen, .leaf seen' => inlines_leaf given keeps seen seen'
  | _, _, _, .node found shaped length fits all made, other => by
      have found : reading.rules.find? _ = some _ := found
      cases other with
      | node found' shaped' _ _ all' made' =>
          rcases Option.some.inj (found.symm.trans found') with rfl
          rcases Except.ok.inj (Eq.trans (Eq.symm shaped) shaped') with rfl
          exact inlines_node sound given keeps found shaped' length fits
            (all.inlines sound given keeps all')
            (allEvaluate_iff.mp all).length_eq (allEvaluate_iff.mp all').length_eq made made'
      | loose ruleless => simp [ruleless] at found
  | _, _, _, .loose ruleless _ all, other => by
      have ruleless : reading.rules = [] := ruleless
      cases other with
      | node found => simp [ruleless] at found
      | loose _ tokenless all' =>
          rw [all.eq_of_loose ruleless tokenless all']
          exact inlines_loose ruleless

theorem AllEvaluate.inlines (sound : reading.Sound)
    (given : reading.growth.transformer = some transformer)
    (keeps : transformer.Keeps reading.meaning) :
    {parts : List Derivation} → {seen seen' : List Appearance} →
    reading.bare.AllEvaluate parts seen → reading.AllEvaluate parts seen' →
      ∀ {index : Nat} {part : Derivation} {plain made : Appearance}, parts[index]? = some part →
        seen[index]? = some plain → seen'[index]? = some made →
          reading.Inlines transformer part plain made
  | _, _, _, .nil, .nil, _, _, _, _, here, _, _ => by simp at here
  | _, _, _, .cons first rest, .cons first' rest', 0, _, _, _, here, looks, looks' => by
      simp only [List.getElem?_cons_zero, Option.some.injEq] at here looks looks'
      subst here looks looks'
      exact first.inlines sound given keeps first'
  | _, _, _, .cons _ rest, .cons _ rest', index + 1, _, _, _, here, looks, looks' =>
      rest.inlines sound given keeps rest' here looks looks'

end

end Reading

end Lalr
