import Lalr.Regex.Matcher

/-!
# The numbers of groups

An expression that stands behind other groups has its groups numbered from there on. It
matches what it matches by itself, since a match looks groups up by their numbers only; the
groups that it closes are renumbered like the expression.
-/

namespace Lalr

/-- The expression whose groups have numbers that are greater by an offset. -/
def Regex.shift (offset : Nat) : Regex → Regex
  | .empty => .empty
  | .char c => .char c
  | .class negated items => .class negated items
  | .anyChar => .anyChar
  | .anchor condition => .anchor condition
  | .sequence first second => .sequence (first.shift offset) (second.shift offset)
  | .choice first second => .choice (first.shift offset) (second.shift offset)
  | .group index body => .group (index + offset) (body.shift offset)
  | .scoped change body => .scoped change (body.shift offset)
  | .atomic body => .atomic (body.shift offset)
  | .repetition greed least most body => .repetition greed least most (body.shift offset)
  | .backReference index width => .backReference (index + offset) width
  | .look behind negated body => .look behind negated (body.shift offset)
  | .conditional index present absent =>
    .conditional (index + offset) (present.shift offset) (absent.shift offset)

namespace Regex

@[simp] theorem width_shift (offset : Nat) (regex : Regex) :
    (regex.shift offset).width = regex.width := by
  induction regex <;> simp_all [shift, width]

@[simp] theorem looksBehindFixed_shift (offset : Nat) (regex : Regex) :
    (regex.shift offset).looksBehindFixed = regex.looksBehindFixed := by
  induction regex <;> simp_all [shift, looksBehindFixed]

@[simp] theorem shift_zero (regex : Regex) : regex.shift 0 = regex := by
  induction regex <;> simp_all [shift]

theorem shift_injective (offset : Nat) {first second : Regex}
    (same : first.shift offset = second.shift offset) : first = second := by
  induction first generalizing second <;> cases second <;> grind [shift]

end Regex

/-- The point whose groups have numbers that are greater by an offset. -/
def MatchPoint.shift (offset : Nat) (point : MatchPoint) : MatchPoint where
  position := point.position
  groups := point.groups.map fun (index, span) => (index + offset, span)

namespace MatchPoint

variable {offset : Nat} {point : MatchPoint}

@[simp] theorem position_shift : (point.shift offset).position = point.position := rfl

@[simp] theorem span?_shift (index : Nat) :
    (point.shift offset).span? (index + offset) = point.span? index := by
  have same (number : Nat) : (number + offset == index + offset) = (number == index) := by
    rw [Bool.eq_iff_iff, beq_iff_eq, beq_iff_eq, Nat.add_right_cancel_iff]
  simp [span?, shift, List.find?_map, Function.comp_def, same]

@[simp] theorem shift_move (position : Nat) :
    { point.shift offset with position } = { point with position }.shift offset := rfl

@[simp] theorem shift_close (index start stop : Nat) :
    { point.shift offset with
      groups := (index + offset, start, stop) :: (point.shift offset).groups } =
      { point with groups := (index, start, stop) :: point.groups }.shift offset := rfl

end MatchPoint

namespace Matching

/-- Whether what a continuation makes of a point can be changed after the match as well. -/
def Natural (matching : Matching) : Prop :=
  ∀ (change : MatchPoint → MatchPoint) point next,
    matching point (fun after => (next after).map change) = (matching point next).map change

namespace Natural

variable {first second : Matching}

theorem here : Natural fun point next => next point := fun _ _ _ => rfl

theorem char (text : Array Char) (accepts : Char → Bool) : (matchChar text accepts).Natural := by
  intro change point next
  unfold matchChar
  split
  · split <;> rfl
  · rfl

theorem sequence (one : first.Natural) (two : second.Natural) :
    Natural fun point next => first point fun middle => second middle next := by
  intro change point next
  simp only [two change]
  exact one change point _

theorem choice (one : first.Natural) (two : second.Natural) :
    Natural fun point next =>
      match first point next with
      | some found => some found
      | none => second point next := by
  intro change point next
  simp only [one change, two change]
  cases first point next <;> rfl

theorem atomic : Natural fun point next =>
    match first point some with
    | some after => next after
    | none => none := by
  intro change point next
  dsimp only
  cases first point some <;> rfl

/-- The rounds of a repetition. Induction on the bound. -/
theorem rounds (one : first.Natural) (isLazy : Bool) (least : Nat) (most : Option Nat)
    (bound : Nat) : ∀ count last,
      (matchRounds first isLazy least most bound count last).Natural := by
  induction bound with
  | zero => exact fun _ _ _ _ _ => rfl
  | succ bound ih =>
      intro count last change point next
      have again (last : Option Nat) := one.sequence (ih (count + 1) last) change point next
      dsimp only at again
      simp only [matchRounds]
      split
      · exact again last
      · split
        · split
          · rw [again]
            cases next point <;> rfl
          · rw [again]
            cases first point _ <;> rfl
        · rfl

end Natural

end Matching

namespace Regex

theorem matching_natural (text : Array Char) (regex : Regex) : ∀ flags,
    (regex.matching text flags).Natural := by
  induction regex with
  | empty => exact fun _ => .here
  | char c => exact fun _ => .char _ _
  | «class» negated items => exact fun _ => .char _ _
  | anyChar => exact fun _ => .char _ _
  | anchor condition =>
      intro flags change point next
      simp only [matching]
      split <;> rfl
  | sequence first second ih ih' => exact fun flags => (ih flags).sequence (ih' flags)
  | choice first second ih ih' => exact fun flags => (ih flags).choice (ih' flags)
  | group index body ih => exact fun flags change point next => ih flags change point _
  | «scoped» condition body ih => exact fun flags => ih (condition.apply flags)
  | atomic body ih => exact fun flags => .atomic
  | repetition greed least most body ih =>
      intro flags change point next
      have rounds := (ih flags).rounds (greed == .lazy) least most
        (least + (text.size - point.position) + 2) 0 none
      simp only [matching]
      split
      · exact Matching.Natural.atomic change point next
      · exact rounds change point next
  | backReference index width =>
      intro flags change point next
      simp only [matching]
      split
      · split <;> rfl
      · rfl
  | look behind negated body ih =>
      intro flags change point next
      simp only [matching]
      split <;> rfl
  | conditional index present absent ih ih' =>
      intro flags change point next
      simp only [matching]
      split
      · exact ih flags change point next
      · exact ih' flags change point next

end Regex

/-- Whether a part of an expression does to renumbered points what another does to the points. -/
def Matching.Renumbers (offset : Nat) (shifted matching : Matching) : Prop :=
  ∀ point next, shifted (point.shift offset) next =
    matching point fun after => next (after.shift offset)

namespace Matching.Renumbers

variable {offset : Nat} {first first' second second' : Matching}

theorem here : Renumbers offset (fun point next => next point) fun point next => next point :=
  fun _ _ => rfl

theorem char (text : Array Char) (accepts : Char → Bool) :
    Renumbers offset (matchChar text accepts) (matchChar text accepts) := fun _ _ => rfl

theorem sequence (one : Renumbers offset first' first) (two : Renumbers offset second' second) :
    Renumbers offset (fun point next => first' point fun middle => second' middle next)
      fun point next => first point fun middle => second middle next := by
  intro point next
  dsimp only
  rw [one]
  exact congrArg (first point) (funext fun middle => two middle next)

theorem choice (one : Renumbers offset first' first) (two : Renumbers offset second' second) :
    Renumbers offset
      (fun point next =>
        match first' point next with
        | some found => some found
        | none => second' point next)
      fun point next =>
        match first point next with
        | some found => some found
        | none => second point next := by
  intro point next
  simp only [one point, two point]

/-- A match that is wanted for itself comes out renumbered. -/
theorem eq_map (natural : first.Natural) (one : Renumbers offset first' first)
    (point : MatchPoint) :
    first' (point.shift offset) some = (first point some).map (·.shift offset) := by
  rw [one]
  exact natural (·.shift offset) point some

theorem atomic (natural : first.Natural) (one : Renumbers offset first' first) :
    Renumbers offset
      (fun point next =>
        match first' point some with
        | some after => next after
        | none => none)
      fun point next =>
        match first point some with
        | some after => next after
        | none => none := by
  intro point next
  simp only [one.eq_map natural]
  cases first point some <;> rfl

/-- The rounds of a repetition. Induction on the bound. -/
theorem rounds (one : Renumbers offset first' first) (isLazy : Bool) (least : Nat)
    (most : Option Nat) (bound : Nat) : ∀ count last,
    Renumbers offset (matchRounds first' isLazy least most bound count last)
      (matchRounds first isLazy least most bound count last) := by
  induction bound with
  | zero => exact fun _ _ _ _ => rfl
  | succ bound ih =>
      intro count last point next
      have again (last : Option Nat) := one.sequence (ih (count + 1) last) point next
      simp only [matchRounds, MatchPoint.position_shift, again]

end Matching.Renumbers

namespace Regex

variable {text : Array Char} {offset : Nat}

/-- An expression that is renumbered matches as it did before. Induction on the expression. -/
theorem matching_shift (regex : Regex) : ∀ flags,
    Matching.Renumbers offset ((regex.shift offset).matching text flags)
      (regex.matching text flags) := by
  induction regex with
  | empty => exact fun _ => .here
  | char c => exact fun _ => .char _ _
  | «class» negated items => exact fun _ => .char _ _
  | anyChar => exact fun _ => .char _ _
  | anchor condition => exact fun flags point next => rfl
  | sequence first second ih ih' => exact fun flags => (ih flags).sequence (ih' flags)
  | choice first second ih ih' => exact fun flags => (ih flags).choice (ih' flags)
  | group index body ih => exact fun flags point next => ih flags point _
  | «scoped» change body ih => exact fun flags => ih (change.apply flags)
  | atomic body ih => exact fun flags => (ih flags).atomic (matching_natural text body flags)
  | repetition greed least most body ih =>
      intro flags point next
      have rounds := (ih flags).rounds (greed == .lazy) least most
        (least + (text.size - point.position) + 2) 0 none
      have natural := (matching_natural text body flags).rounds (greed == .lazy) least most
        (least + (text.size - point.position) + 2) 0 none
      simp only [shift, matching, MatchPoint.position_shift]
      split
      · exact rounds.atomic natural point next
      · exact rounds point next
  | backReference index width =>
      intro flags point next
      simp only [shift, matching, MatchPoint.span?_shift, MatchPoint.position_shift,
        MatchPoint.shift_move]
  | look behind negated body ih =>
      intro flags point next
      have found (position : Nat) :=
        (ih flags).eq_map (matching_natural text body flags) { point with position }
      simp only [shift, matching, width_shift, MatchPoint.position_shift,
        MatchPoint.shift_move, found]
      generalize (if behind then body.width.least else 0) = distance
      by_cases near : point.position < distance
      · simp only [near, if_true]
        cases negated <;> rfl
      · simp only [near, if_false]
        cases body.matching text flags { point with position := point.position - distance } some <;>
          cases negated <;> rfl
  | conditional index present absent ih ih' =>
      intro flags point next
      simp only [shift, matching, MatchPoint.span?_shift]
      split
      · exact ih flags point next
      · exact ih' flags point next

/-- Where no group has been closed yet, it does not matter how groups are numbered. -/
theorem matching_shift_start (regex : Regex) (flags : RegexFlags) (position : Nat)
    (next : Continuation) :
    (regex.shift offset).matching text flags { position } next =
      regex.matching text flags { position } fun after => next (after.shift offset) :=
  matching_shift regex flags { position } next

end Regex

end Lalr
