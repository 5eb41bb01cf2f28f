import Mathlib.Data.List.Pairwise
import Lalr.Proofs.Discretion
import Lalr.Proofs.Grammar.Rules
import Lalr.Proofs.Shaping.Growth

/-!
# The reductions of a parser

A parser has a reduction for each of its rules, which is made for the shape of the
rule, and handlers for the tokens that its transformer cares about. All of them are
as discreet as the handlers of the transformer.
-/

namespace Lalr

open Run

namespace Shape

theorem agree_leaveGap (collected : SequenceId) (count : Nat) :
    (leaveGap collected count).Discreet := by
  unfold leaveGap
  split
  · exact Agree.pure _
  · exact Agree.work (Work.Agree.tend _)

theorem agree_childrenOf (value : Option Value) : (childrenOf value).Discreet := by
  unfold childrenOf
  split
  · exact Agree.look _
  · exact Agree.throw _
  · exact Agree.throw _

theorem agree_collect (values : List Value) (kept : List KeptChild) :
    ∀ collected, (collect values collected kept).Discreet := by
  induction kept with
  | nil => exact fun _ => Agree.pure _
  | cons child rest ih =>
      intro collected
      rw [collect_cons]
      refine Agree.bind (agree_leaveGap _ _) fun _ => ?_
      unfold collectChild
      split
      · refine Agree.bind (agree_childrenOf _) fun spliced => ?_
        refine Agree.bind (Agree.look _) fun (found, added) => ?_
        dsimp only
        split
        · exact ih _
        · exact Agree.bind (Agree.work (Work.Agree.tend _)) fun _ => ih _
      · split
        · exact Agree.throw _
        · exact Agree.bind (Agree.work (Work.Agree.tend _)) fun _ => ih _

theorem agree_choose (shape : Shape) (given : SequenceId) : (shape.choose given).Discreet := by
  cases selects : shape.selection with
  | none =>
      unfold choose
      rw [selects]
      exact Agree.pure _
  | some kept =>
      rw [choose_eq selects]
      refine Agree.bind (Agree.look _) fun items => ?_
      refine Agree.bind (Agree.plant _) fun fresh => ?_
      refine Agree.bind (agree_collect _ _ _) fun collected => ?_
      exact Agree.bind (agree_leaveGap _ _) fun _ => Agree.pure _

end Shape

namespace Growth

variable {growth : Growth}

theorem agree_builder (discreet : ∀ transformer, growth.transformer = some transformer →
    transformer.Discreet) {label : String} {build : SequenceId → Run Value}
    (built : growth.builder label = .ok build) (children : SequenceId) :
    (build children).Discreet := by
  unfold builder at built
  split at built
  next =>
    split at built
    · cases built
    · cases built
      exact Agree.bind (Agree.plant _) fun _ => Agree.pure _
  next transformer has =>
    have discreet := discreet transformer has
    split at built
    next =>
      cases built
      exact discreet.rebuild _ _ _
    next handler known =>
      have discreet := discreet.handlers _ _ known
      split at built
      next => cases built
      next => cases built
      next =>
        cases built
        have discreet (convention : Option Convention) :
            Handler.Discreet { handler with convention } := discreet
        exact (discreet _).apply _ _ _
      next =>
        cases built
        exact discreet.apply _ _ _

theorem agree_reduce {build : SequenceId → Run Value}
    (discreet : ∀ children, (build children).Discreet) (shape : Shape) (values : List Value) :
    (growth.reduce shape build values).Discreet := by
  rw [reduce_eq]
  refine Agree.bind (Agree.plant _) fun given => ?_
  refine Agree.bind (shape.agree_choose given) fun children => ?_
  refine Agree.bind (Agree.look _) fun chosen => ?_
  refine Agree.bind ?_ fun result => ?_
  · unfold wrap
    split
    · exact Agree.pure _
    · exact discreet _
  · unfold place
    split
    · exact Agree.pure _
    · exact Agree.bind (Agree.tend _) fun _ => Agree.pure _
    · exact Agree.pure _

end Growth

namespace Reductions

variable {growth : Growth} {rules : List Rule}

/-- The reduction that is made for a rule without a transformer. -/
def IsFor (growth : Growth) (rule : Rule) (reduction : List Value → Run Value) : Prop :=
  ∃ shape build, Shape.ofRule rule growth.placeholders = .ok shape ∧
    growth.builder rule.label = .ok build ∧ reduction = growth.reduce shape build

theorem ofShapes_eq_ok {shapes : List (Rule × Shape)} :
    ∀ {made result : List (Rule × (List Value → Run Value))},
      ofShapes growth shapes made = .ok result →
        ∃ rest, result = made.reverse ++ rest ∧
          List.Forall₂ (fun pair entry => entry.1 = pair.1 ∧
            ∃ build, growth.builder pair.1.label = .ok build ∧
              entry.2 = growth.reduce pair.2 build) shapes rest := by
  induction shapes with
  | nil =>
      intro made result went
      cases went
      exact ⟨[], by simp, .nil⟩
  | cons pair shapes ih =>
      intro made result went
      rcases pair with ⟨rule, shape⟩
      simp only [ofShapes, bind_eq_ok] at went
      rcases went with ⟨build, built, went⟩
      split at went
      · cases went
      · rcases ih went with ⟨rest, rfl, entries⟩
        exact ⟨(rule, growth.reduce shape build) :: rest, by simp,
          .cons ⟨rfl, build, built, rfl⟩ entries⟩

/-- No two rules with reductions are the same rule. Induction on the rules that are left. -/
theorem apart_of_ofShapes {shapes : List (Rule × Shape)} :
    ∀ {made result : List (Rule × (List Value → Run Value))},
      ofShapes growth shapes made = .ok result →
        (∀ entry ∈ made, ∀ pair ∈ shapes, entry.1.same pair.1 = false) ∧
          shapes.Pairwise fun pair pair' => pair.1.same pair'.1 = false := by
  induction shapes with
  | nil =>
      intro made result went
      exact ⟨by simp, .nil⟩
  | cons pair shapes ih =>
      intro made result went
      rcases pair with ⟨rule, shape⟩
      simp only [ofShapes, bind_eq_ok] at went
      rcases went with ⟨build, _, went⟩
      split at went
      · cases went
      next fresh =>
        rcases ih went with ⟨apart, pairs⟩
        rw [List.forall_mem_cons] at apart
        refine ⟨fun entry member => ?_, List.pairwise_cons.mpr ⟨apart.1, pairs⟩⟩
        rw [List.forall_mem_cons]
        refine ⟨?_, apart.2 entry member⟩
        have none : made.any (fun entry => entry.1.same rule) = false := by simpa using fresh
        simpa using List.any_eq_false.mp none entry member

/-- Rules that are different rules have reductions if something can be built for each label. -/
theorem exists_ofShapes {shapes : List (Rule × Shape)}
    (builds : ∀ label, ∃ build, growth.builder label = .ok build) :
    ∀ {made : List (Rule × (List Value → Run Value))},
      (∀ entry ∈ made, ∀ pair ∈ shapes, entry.1.same pair.1 = false) →
        (shapes.Pairwise fun pair pair' => pair.1.same pair'.1 = false) →
          ∃ result, ofShapes growth shapes made = .ok result := by
  induction shapes with
  | nil => exact fun _ _ => ⟨_, rfl⟩
  | cons pair shapes ih =>
      intro made apart pairs
      rcases pair with ⟨rule, shape⟩
      rcases builds rule.label with ⟨build, built⟩
      rcases List.pairwise_cons.mp pairs with ⟨head, pairs⟩
      have fresh : made.any (fun entry => entry.1.same rule) = false := by
        rw [List.any_eq_false]
        intro entry member
        simpa using apart entry member (rule, shape) (by simp)
      have apart' : ∀ entry ∈ (rule, growth.reduce shape build) :: made, ∀ pair ∈ shapes,
          entry.1.same pair.1 = false := by
        rw [List.forall_mem_cons]
        exact ⟨head, fun entry member pair listed => apart entry member pair (by simp [listed])⟩
      rcases ih apart' pairs with ⟨result, went⟩
      exact ⟨result, by simp only [ofShapes, built, fresh]; exact went⟩

/-- The handlers that a transformer has for tokens of some kinds. -/
def handlersFor (transformer : Option Transformer) (kinds : List String) :
    List (String × TokenHandler) :=
  match transformer with
  | none => []
  | some transformer =>
    kinds.filterMap fun kind =>
      (transformer.handlerFor? kind).map fun handler =>
        (kind, fun token => handler.call [.token token])

/-- A handler for tokens calls a handler of the transformer. -/
theorem exists_handler {transformer : Option Transformer} {kinds : List String} {kind : String}
    {callback : TokenHandler} (member : (kind, callback) ∈ handlersFor transformer kinds) :
    ∃ given handler, transformer = some given ∧ given.handlerFor? kind = some handler ∧
      callback = fun token => handler.call [.token token] := by
  unfold handlersFor at member
  split at member
  next => cases member
  next given =>
    rcases List.mem_filterMap.mp member with ⟨_, _, made⟩
    rcases Option.map_eq_some_iff.mp made with ⟨handler, handles, paired⟩
    cases paired
    exact ⟨given, handler, rfl, handles, rfl⟩

/-- Each of the rules has a reduction of its own, in the same order. -/
theorem make_eq_ok {kinds : List String} {reductions : Reductions}
    (went : make growth rules kinds = .ok reductions) :
    List.Forall₂ (fun rule entry => entry.1 = rule ∧ IsFor growth rule entry.2) rules
        reductions.rules ∧
      reductions.tokens = handlersFor growth.transformer kinds := by
  simp only [make, bind_eq_ok] at went
  rcases went with ⟨shapes, shaped, made, went, done⟩
  cases done
  rcases ofShapes_eq_ok went with ⟨rest, same, entries⟩
  rcases (show made = rest by simpa using same) with rfl
  refine ⟨?_, rfl⟩
  have pairs := mapM_eq_ok shaped
  clear shaped went same
  dsimp only
  induction pairs generalizing made with
  | nil => cases entries; exact .nil
  | cons head _ ih =>
      rcases bind_eq_ok.mp head with ⟨shape, shaped, paired⟩
      cases paired
      cases entries with
      | cons entry entries =>
          rcases entry with ⟨named, build, built, reduced⟩
          exact .cons ⟨named, shape, build, shaped, built, reduced⟩ (ih _ entries)

/-- Rules that have reductions have others where trees are built of plain nodes. -/
theorem exists_make (growth' : Growth) {kinds : List String} {reductions : Reductions}
    (went : make growth rules kinds = .ok reductions) (plain : growth'.nodes = .plain)
    (none : growth'.transformer = none)
    (placeholders : growth'.placeholders = growth.placeholders) :
    ∃ reductions', make growth' rules kinds = .ok reductions' := by
  simp only [make, bind_eq_ok] at went
  rcases went with ⟨shapes, shaped, _, went, _⟩
  have builds (label : String) : ∃ build, growth'.builder label = .ok build := by
    simp only [Growth.builder, none, plain]
    exact ⟨_, rfl⟩
  rcases apart_of_ofShapes went with ⟨apart, pairs⟩
  rcases exists_ofShapes builds apart pairs with ⟨result, went'⟩
  simp only [make, bind_eq_ok, placeholders]
  exact ⟨_, shapes, shaped, result, went', rfl⟩

/-- Rules that have reductions are one rule if they are the same. -/
theorem eq_of_same {kinds : List String} {reductions : Reductions}
    (went : make growth rules kinds = .ok reductions) :
    ∀ rule ∈ rules, ∀ rule' ∈ rules, rule.same rule' = true → rule = rule' := by
  simp only [make, bind_eq_ok] at went
  rcases went with ⟨shapes, shaped, _, went, _⟩
  have listed : shapes.map Prod.fst = rules := by
    have pairs := mapM_eq_ok shaped
    clear shaped went
    induction pairs with
    | nil => rfl
    | cons head _ ih =>
        rcases bind_eq_ok.mp head with ⟨shape, _, paired⟩
        cases paired
        rw [List.map_cons, ih]
  have apart : rules.Pairwise fun rule rule' => rule.same rule' = false := by
    rw [← listed, List.pairwise_map]
    exact (apart_of_ofShapes went).2
  intro rule member rule' member' same
  by_contra ne
  have symmetric : Std.Symm fun rule rule' : Rule => rule.same rule' = false := by
    constructor
    intro rule rule' apart
    cases same : rule'.same rule with
    | false => rfl
    | true =>
        rw [Rule.same_symm same] at apart
        cases apart
  rw [apart.forall member member' ne] at same
  cases same

/-- The reduction that is found for a rule is the one for the first rule that is the same. -/
theorem find?_eq_some {reductions : Reductions} {rule : Rule}
    {reduction : List Value → Run Value}
    (entries : List.Forall₂ (fun rule entry => entry.1 = rule ∧ IsFor growth rule entry.2) rules
      reductions.rules) (found : reductions.find? rule = some reduction) :
    ∃ own, rules.find? (fun entry => entry.same rule) = some own ∧
      IsFor growth own reduction := by
  unfold find? at found
  generalize reductions.rules = listed at entries found
  induction entries with
  | nil => cases found
  | @cons own entry rules listed head _ ih =>
      rcases head with ⟨rfl, isFor⟩
      by_cases same : entry.1.same rule = true
      · simp only [List.find?_cons, same] at found ⊢
        cases found
        exact ⟨entry.1, rfl, isFor⟩
      · simp only [List.find?_cons, same] at found ⊢
        exact ih found

end Reductions

/-- Whether reducing by rules and shifting tokens is discreet. -/
structure Reductions.Discreet (reductions : Reductions) : Prop where
  reduce : ∀ rule values, (reductions.reduce rule values).Discreet
  shift : ∀ token, (reductions.shift token).Discreet

/-- Reductions are as discreet as the transformer that they have been made for. -/
theorem Reductions.discreet_of_make {growth : Growth} {rules : List Rule} {kinds : List String}
    {reductions : Reductions}
    (discreet : ∀ transformer, growth.transformer = some transformer → transformer.Discreet)
    (went : make growth rules kinds = .ok reductions) : reductions.Discreet where
  reduce := by
    intro rule values
    unfold reduce
    split
    next reduction found =>
      rcases find?_eq_some (make_eq_ok went).1 found with ⟨own, _, shape, build, _, built, rfl⟩
      exact Growth.agree_reduce (Growth.agree_builder discreet built) shape values
    next =>
      split
      · exact Agree.bind (Agree.plant _) fun _ => Agree.pure _
      · exact Agree.throw _
  shift := by
    intro token
    unfold shift
    rw [(make_eq_ok went).2]
    split
    next callback known =>
      rcases exists_handler (mem_of_assoc? known) with ⟨transformer, handler, has, handles, rfl⟩
      exact (discreet transformer has).handlers _ _ handles _
    next => exact Agree.pure _

end Lalr
