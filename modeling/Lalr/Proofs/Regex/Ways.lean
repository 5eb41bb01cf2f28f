import Mathlib.Tactic.Choose
import Lalr.Regex.Matcher

/-!
# The ways of an expression

An expression without groups and references matches by position alone: from each
position there is a list of positions that it can reach, in order of preference, and the
first of them that the continuation accepts is taken. Where such expressions are the
bodies of named groups that are alternatives of each other, the first body that matches
by itself is the one that matches.
-/

namespace Lalr

/-- Whether a part of an expression reaches positions that depend on where it begins alone, and
leaves the groups as they are. -/
def Matching.ByPosition (matching : Matching) : Prop :=
  ∃ ways : Nat → List Nat, ∀ point next,
    matching point next = (ways point.position).findSome? fun position =>
      next { point with position }

namespace Matching.ByPosition

theorem findSome?_flatMap {α β γ : Type} (items : List α) (more : α → List β)
    (f : β → Option γ) :
    (items.flatMap more).findSome? f = items.findSome? fun item => (more item).findSome? f := by
  induction items with
  | nil => rfl
  | cons item items ih =>
      rw [List.flatMap_cons, List.findSome?_append, ih, List.findSome?_cons]
      cases (more item).findSome? f <;> rfl

variable {first second : Matching} {text : Array Char}

theorem here : ByPosition fun point next => next point :=
  ⟨fun position => [position], fun point next => by simp⟩

theorem guarded (holds : Nat → Bool) :
    ByPosition fun point next => if holds point.position then next point else none := by
  refine ⟨fun position => if holds position then [position] else [], fun point next => ?_⟩
  by_cases held : holds point.position = true <;> simp [held]

theorem char (accepts : Char → Bool) : (matchChar text accepts).ByPosition := by
  refine ⟨fun position => if text[position]?.any accepts then [position + 1] else [],
    fun point next => ?_⟩
  unfold matchChar
  cases read : text[point.position]? with
  | none => simp [read]
  | some c => by_cases accepted : accepts c = true <;> simp [read, accepted]

theorem sequence (byFirst : first.ByPosition) (bySecond : second.ByPosition) :
    ByPosition fun point next => first point fun middle => second middle next := by
  rcases byFirst with ⟨ways, first_eq⟩
  rcases bySecond with ⟨ways', second_eq⟩
  refine ⟨fun position => (ways position).flatMap ways', fun point next => ?_⟩
  simp only [first_eq, second_eq, findSome?_flatMap]

theorem choice (byFirst : first.ByPosition) (bySecond : second.ByPosition) :
    ByPosition fun point next =>
      match first point next with
      | some found => some found
      | none => second point next := by
  rcases byFirst with ⟨ways, first_eq⟩
  rcases bySecond with ⟨ways', second_eq⟩
  refine ⟨fun position => ways position ++ ways' position, fun point next => ?_⟩
  simp only [first_eq, second_eq, List.findSome?_append]
  cases (ways point.position).findSome? _ <;> rfl

/-- What is tried once keeps its first way only. -/
theorem atomic (byFirst : first.ByPosition) :
    ByPosition fun point next =>
      match first point some with
      | some after => next after
      | none => none := by
  rcases byFirst with ⟨ways, first_eq⟩
  refine ⟨fun position => (ways position).head?.toList, fun point next => ?_⟩
  simp only [first_eq]
  cases ways point.position with
  | nil => rfl
  | cons position rest => cases h : next { point with position } <;> simp [h]

theorem look (byFirst : first.ByPosition) (distance : Nat) (negated : Bool) :
    ByPosition fun point next =>
      match (if point.position < distance then none
        else first { point with position := point.position - distance } some), negated with
      | some after, false => next { after with position := point.position }
      | none, true => next point
      | _, _ => none := by
  rcases byFirst with ⟨ways, first_eq⟩
  refine ⟨fun position =>
    if (if position < distance then [] else ways (position - distance)).isEmpty = negated then
      [position] else [], fun point next => ?_⟩
  simp only [first_eq]
  by_cases near : point.position < distance
  · cases negated <;> simp [near]
  · cases reached : ways (point.position - distance) <;> cases negated <;> simp [near]

/-- The first way that is accepted is taken, whatever is made of it. -/
theorem findSome?_ite {α β : Type} (items : List α) (accepts : α → Bool) (f : α → β) :
    (items.findSome? fun item => if accepts item then some (f item) else none) =
      (items.find? accepts).map f := by
  induction items with
  | nil => rfl
  | cons item items ih =>
      rw [List.findSome?_cons, List.find?_cons, ih]
      cases accepts item <;> rfl

/-- A choice of a matching by position is one by position. -/
theorem dependent {matching : Nat → Matching}
    (each : ∀ position, (matching position).ByPosition) :
    ByPosition fun point next => matching point.position point next := by
  choose ways each_eq using each
  exact ⟨fun position => ways position position, fun point next => each_eq _ point next⟩

theorem ite (holds : Bool) (byFirst : first.ByPosition) (bySecond : second.ByPosition) :
    ByPosition fun point next => if holds then first point next else second point next := by
  cases holds
  · exact bySecond
  · exact byFirst

/-- The rounds of a repetition. Induction on the bound. -/
theorem rounds (byFirst : first.ByPosition) (isLazy : Bool) (least : Nat) (most : Option Nat)
    (bound : Nat) : ∀ count last,
      (matchRounds first isLazy least most bound count last).ByPosition := by
  induction bound with
  | zero => exact fun _ _ => ⟨fun _ => [], fun _ _ => rfl⟩
  | succ bound ih =>
      intro count last
      have again (last : Option Nat) := byFirst.sequence (ih (count + 1) last)
      have onward := dependent fun position => again (some position)
      have more : ByPosition fun point next =>
          if isLazy then
            match next point with
            | some found => some found
            | none => first point fun after =>
                matchRounds first isLazy least most bound (count + 1)
                  (some point.position) after next
          else
            match (first point fun after =>
              matchRounds first isLazy least most bound (count + 1)
              (some point.position) after next)
              with
            | some found => some found
            | none => next point := ite _ (here.choice onward) (onward.choice here)
      have stop := dependent fun position =>
        ite (mayRepeat most count && last != some position) more here
      simp only [matchRounds]
      by_cases few : count < least
      · simp only [few, if_true]
        exact again last
      · simp only [few, if_false]
        exact stop

end Matching.ByPosition

namespace Regex

/-- Whether an expression has no groups and refers to none. -/
def isFlat : Regex → Bool
  | .empty | .char _ | .class _ _ | .anyChar | .anchor _ => true
  | .sequence first second | .choice first second => first.isFlat && second.isFlat
  | .scoped _ body | .atomic body | .repetition _ _ _ body | .look _ _ body => body.isFlat
  | .group _ _ | .backReference _ _ | .conditional _ _ _ => false

theorem byPosition_of_isFlat (text : Array Char) (regex : Regex) :
    ∀ flags, regex.isFlat = true → (regex.matching text flags).ByPosition := by
  induction regex with
  | empty => exact fun _ _ => .here
  | char c => exact fun _ _ => .char _
  | «class» negated items => exact fun _ _ => .char _
  | anyChar => exact fun _ _ => .char _
  | anchor condition =>
      exact fun flags _ => .guarded fun position => condition.holds flags text position
  | sequence first second ih ih' =>
      intro flags flat
      rcases Bool.and_eq_true_iff.mp flat with ⟨flat, flat'⟩
      exact (ih flags flat).sequence (ih' flags flat')
  | choice first second ih ih' =>
      intro flags flat
      rcases Bool.and_eq_true_iff.mp flat with ⟨flat, flat'⟩
      exact (ih flags flat).choice (ih' flags flat')
  | «scoped» change body ih => exact fun flags flat => ih (change.apply flags) flat
  | atomic body ih => exact fun flags flat => (ih flags flat).atomic
  | repetition greed least most body ih =>
      intro flags flat
      have all := Matching.ByPosition.dependent fun position =>
        (ih flags flat).rounds (greed == .lazy)
        least most (least + (text.size - position) + 2) 0 none
      simp only [matching]
      exact .ite _ all.atomic all
  | look behind negated body ih =>
      exact fun flags flat => (ih flags flat).look (if behind then body.width.least else 0) negated
  | group index body ih => exact fun _ flat => absurd flat (by simp [isFlat])
  | backReference index width => exact fun _ flat => absurd flat (by simp [isFlat])
  | conditional index present absent ih ih' => exact fun _ flat => absurd flat (by simp [isFlat])

end Regex

end Lalr
