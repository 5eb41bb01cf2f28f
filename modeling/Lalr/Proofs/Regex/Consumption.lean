import Lalr.Lexer.Scanner

/-!
# Expressions that take up text

A match never ends before it begins, and takes up at least as many characters as its expression
asks for. A back reference asks for as many as its group is known to take up.
-/

namespace Lalr

/-- Whether each group that has been closed spans at least as many characters as its number says. -/
def MatchPoint.Spans (wide : Nat → Nat) (point : MatchPoint) : Prop :=
  ∀ entry ∈ point.groups, entry.2.1 + wide entry.1 ≤ entry.2.2

/-- Whether a part of an expression takes up at least a number of characters before it hands on, if
groups span what they are known to span, and closes groups only where they do. -/
def Matching.Takes (wide : Nat → Nat) (least : Nat) (matching : Matching) : Prop :=
  ∀ point next found, point.Spans wide → matching point next = some found →
    ∃ after, after.Spans wide ∧ point.position + least ≤ after.position ∧
      next after = some found

namespace Matching.Takes

variable {wide : Nat → Nat} {least least' : Nat} {first second : Matching} {text : Array Char}

theorem here : Takes wide 0 fun point next => next point :=
  fun point _ _ spans went => ⟨point, spans, Nat.le_refl _, went⟩

theorem weaken (takes : first.Takes wide least) (less : least' ≤ least) :
    first.Takes wide least' := by
  intro point next found spans went
  rcases takes point next found spans went with ⟨after, spans', late, went⟩
  exact ⟨after, spans', by omega, went⟩

theorem char (accepts : Char → Bool) : (matchChar text accepts).Takes wide 1 := by
  intro point next found spans went
  unfold matchChar at went
  split at went
  · split at went
    · exact ⟨{ point with position := point.position + 1 }, spans, Nat.le_refl _, went⟩
    · cases went
  · cases went

theorem sequence (one : first.Takes wide least) (two : second.Takes wide least') :
    Takes wide (least + least') fun point next =>
      first point fun middle => second middle next := by
  intro point next found spans went
  rcases one point _ found spans went with ⟨middle, spans, late, went⟩
  rcases two middle _ found spans went with ⟨after, spans, late', went⟩
  exact ⟨after, spans, by omega, went⟩

theorem choice (one : first.Takes wide least) (two : second.Takes wide least) :
    Takes wide least fun point next =>
      match first point next with
      | some found => some found
      | none => second point next := by
  intro point next found spans went
  dsimp only at went
  split at went
  next found' went' =>
    cases went
    exact one point next found spans went'
  next => exact two point next found spans went

/-- What is tried once takes up what it does otherwise. -/
theorem atomic (one : first.Takes wide least) :
    Takes wide least fun point next =>
      match first point some with
      | some after => next after
      | none => none := by
  intro point next found spans went
  dsimp only at went
  split at went
  next after went' =>
    rcases one point some after spans went' with ⟨_, spans, late, same⟩
    cases same
    exact ⟨after, spans, late, went⟩
  next => cases went

/-- The rounds of a repetition: those that are asked for and have not been made yet are made.
Induction on the bound. -/
theorem rounds (one : first.Takes wide least) (isLazy : Bool) (fewest : Nat) (most : Option Nat)
    (bound : Nat) : ∀ count last,
    (matchRounds first isLazy fewest most bound count last).Takes wide
      (least * (fewest - count)) := by
  induction bound with
  | zero => exact fun _ _ _ _ _ _ went => nomatch went
  | succ bound ih =>
      intro count last point next found spans went
      have again {last : Option Nat} (went : (first point fun after =>
          matchRounds first isLazy fewest most bound (count + 1) last after next) = some found) :
          ∃ after, after.Spans wide ∧
            point.position + least * (fewest - count) ≤ after.position ∧
            next after = some found := by
        rcases (one.sequence (ih (count + 1) last)) point next found spans went with
          ⟨after, spans, late, went⟩
        refine ⟨after, spans, Nat.le_trans (Nat.add_le_add_left ?_ _) late, went⟩
        rw [Nat.add_comm, ← Nat.mul_succ]
        exact Nat.mul_le_mul_left _ (by omega)
      simp only [matchRounds] at went
      by_cases few : count < fewest
      · rw [if_pos few] at went
        exact again went
      · rw [if_neg few] at went
        have stop (went : next point = some found) :
            ∃ after, after.Spans wide ∧
              point.position + least * (fewest - count) ≤ after.position ∧
              next after = some found :=
          ⟨point, spans, by simp [Nat.sub_eq_zero_of_le (Nat.not_lt.mp few)], went⟩
        split at went
        · split at went
          · split at went
            next found' went' =>
              cases went
              exact stop went'
            next => exact again went
          · split at went
            next found' went' =>
              cases went
              exact again went'
            next => exact stop went
        · exact stop went

end Matching.Takes

namespace Regex

/-- How many characters an expression asks for at least, if it is known what its groups span. -/
def least (wide : Nat → Nat) : Regex → Nat
  | .char _ | .class _ _ | .anyChar => 1
  | .sequence first second => first.least wide + second.least wide
  | .choice first second => min (first.least wide) (second.least wide)
  | .group _ body | .scoped _ body | .atomic body => body.least wide
  | .repetition _ fewest _ body => body.least wide * fewest
  | .conditional _ present absent => min (present.least wide) (absent.least wide)
  | .backReference index _ => wide index
  | .empty | .anchor _ | .look _ _ _ => 0

/-- Whether the groups of an expression ask for what is known of them. -/
def Wide (wide : Nat → Nat) : Regex → Prop
  | .group index body => wide index ≤ body.least wide ∧ body.Wide wide
  | .sequence first second | .choice first second => first.Wide wide ∧ second.Wide wide
  | .conditional _ present absent => present.Wide wide ∧ absent.Wide wide
  | .scoped _ body | .atomic body | .repetition _ _ _ body | .look _ _ body => body.Wide wide
  | .empty | .char _ | .class _ _ | .anyChar | .anchor _ | .backReference _ _ => True

theorem eq_of_matchAgain {flags : RegexFlags} {text : Array Char} {start stop position after : Nat}
    (again : matchAgain flags text start stop position = some after) :
    after = position + (stop - start) := by
  unfold matchAgain at again
  rw [Option.ite_none_right_eq_some] at again
  rcases again with ⟨_, same⟩
  cases same
  rfl

/-- A match takes up what its expression asks for. Induction on the expression. -/
theorem matching_takes {wide : Nat → Nat} (text : Array Char) (regex : Regex) :
    ∀ flags, regex.Wide wide → (regex.matching text flags).Takes wide (regex.least wide) := by
  induction regex with
  | empty => exact fun _ _ => .here
  | char c => exact fun _ _ => .char _
  | «class» negated items => exact fun _ _ => .char _
  | anyChar => exact fun _ _ => .char _
  | anchor condition =>
      intro flags _ point next found spans went
      simp only [matching] at went
      split at went
      · exact Matching.Takes.here point next found spans went
      · cases went
  | sequence first second ih ih' =>
      exact fun flags known => (ih flags known.1).sequence (ih' flags known.2)
  | choice first second ih ih' =>
      exact fun flags known => ((ih flags known.1).weaken (Nat.min_le_left _ _)).choice
        ((ih' flags known.2).weaken (Nat.min_le_right _ _))
  | group index body ih =>
      intro flags known point next found spans went
      rcases ih flags known.2 point _ found spans went with ⟨after, spans', late, went⟩
      have closed : (index, point.position, after.position).2.1 + wide index ≤ after.position :=
        Nat.le_trans (Nat.add_le_add_left known.1 _) late
      exact ⟨{ after with groups := (index, point.position, after.position) :: after.groups },
        List.forall_mem_cons.mpr ⟨closed, spans'⟩, late, went⟩
  | «scoped» change body ih => exact fun flags => ih (change.apply flags)
  | atomic body ih => exact fun flags known => (ih flags known).atomic
  | repetition greed fewest most body ih =>
      intro flags known point next found spans went
      have rounds := (ih flags known).rounds (greed == .lazy) fewest most
        (fewest + (text.size - point.position) + 2) 0 none
      simp only [matching] at went
      split at went
      · exact rounds.atomic point next found spans went
      · exact rounds point next found spans went
  | backReference index width =>
      intro flags _ point next found spans went
      simp only [matching] at went
      split at went
      next start stop closed =>
        split at went
        next position again =>
          rcases eq_of_matchAgain again with rfl
          rcases Option.map_eq_some_iff.mp closed with ⟨entry, listed, same⟩
          have number : entry.1 = index := by simpa using List.find?_some listed
          have span := spans entry (List.mem_of_find?_eq_some listed)
          rw [number, same] at span
          refine ⟨{ point with position := point.position + (stop - start) }, spans, ?_, went⟩
          dsimp only [least] at span ⊢
          omega
        next => cases went
      · cases went
  | look behind negated body ih =>
      intro flags known point next found spans went
      simp only [matching] at went
      split at went
      next after matched =>
        rw [Option.ite_none_left_eq_some] at matched
        have moved : MatchPoint.Spans wide { point with
            position := point.position - if behind then body.width.least else 0 } := spans
        rcases ih flags known _ some after moved matched.2 with ⟨after', spans', _, same⟩
        cases same
        exact ⟨{ after with position := point.position }, spans', Nat.le_refl _, went⟩
      next => exact ⟨point, spans, Nat.le_refl _, went⟩
      next => cases went
  | conditional index present absent ih ih' =>
      intro flags known point next found spans went
      simp only [matching] at went
      split at went
      · exact (ih flags known.1).weaken (Nat.min_le_left _ _) point next found spans went
      · exact (ih' flags known.2).weaken (Nat.min_le_right _ _) point next found spans went

/-- An expression that is ready to be matched takes up what it asks for, up to the end of the text
as well. -/
theorem least_le_of_matchOf {wide : Nat → Nat} {compiled : CompiledRegex}
    (known : compiled.regex.Wide wide) {text : Array Char} {position : Nat} {point : MatchPoint}
    (found : compiled.matchAt text position = some point ∨
      compiled.fullMatchAt text position = some point) :
    position + compiled.regex.least wide ≤ point.position := by
  have takes := compiled.regex.matching_takes text compiled.flags known
  rcases found with found | found
  · rcases takes _ _ _ (by simp [MatchPoint.Spans]) found with ⟨after, _, late, went⟩
    cases went
    exact late
  · rcases takes _ _ _ (by simp [MatchPoint.Spans]) found with ⟨after, _, late, went⟩
    split at went
    · cases went
      exact late
    · cases went

/-- Whether an expression asks for a character on each of its branches, whatever its groups span. -/
def consumes : Regex → Bool
  | .char _ | .class _ _ | .anyChar => true
  | .sequence first second => first.consumes || second.consumes
  | .choice first second => first.consumes && second.consumes
  | .group _ body | .scoped _ body | .atomic body => body.consumes
  | .repetition _ fewest _ body => body.consumes && decide (0 < fewest)
  | .conditional _ present absent => present.consumes && absent.consumes
  | .empty | .anchor _ | .backReference _ _ | .look _ _ _ => false

theorem wide_zero (regex : Regex) : regex.Wide fun _ => 0 := by
  induction regex <;> simp_all [Wide]

theorem least_pos_of_consumes (regex : Regex) :
    regex.consumes = true → 0 < regex.least fun _ => 0 := by
  induction regex with
  | char | «class» | anyChar => exact fun _ => Nat.one_pos
  | sequence first second ih ih' =>
      intro either
      rcases Bool.or_eq_true_iff.mp either with one | two
      · exact Nat.add_pos_left (ih one) _
      · exact Nat.add_pos_right _ (ih' two)
  | choice first second ih ih' =>
      intro both
      rw [consumes, Bool.and_eq_true] at both
      exact Nat.lt_min.mpr ⟨ih both.1, ih' both.2⟩
  | conditional index present absent ih ih' =>
      intro both
      rw [consumes, Bool.and_eq_true] at both
      exact Nat.lt_min.mpr ⟨ih both.1, ih' both.2⟩
  | group index body ih => exact ih
  | «scoped» change body ih => exact ih
  | atomic body ih => exact ih
  | repetition greed fewest most body ih =>
      intro both
      rw [consumes, Bool.and_eq_true, decide_eq_true_eq] at both
      exact Nat.mul_pos (ih both.1) both.2
  | _ => exact nofun

end Regex

namespace Scanner

/-- Whether each match of a scanner takes up at least one character. -/
def Consuming (scanner : Scanner) : Prop :=
  ∀ text position stop name, scanner.matchAt text position = some (stop, name) → position < stop

/-- A scanner takes up text if each of its alternations asks for a character. -/
theorem consuming_of_consumes {scanner : Scanner}
    (each : ∀ alternation ∈ scanner.alternations, alternation.regex.consumes = true) :
    scanner.Consuming := by
  rcases scanner with ⟨terminals, whole, alternations⟩
  intro text position stop name found
  unfold matchAt at found
  dsimp only at each found
  induction alternations with
  | nil => cases found
  | cons alternation rest ih =>
      rw [List.forall_mem_cons] at each
      rw [tryAll] at found
      split at found
      next point went =>
        rcases Option.map_eq_some_iff.mp found with ⟨_, _, same⟩
        cases same
        have some_ := alternation.regex.least_pos_of_consumes each.1
        have late : position + alternation.regex.least (fun _ => 0) ≤ point.position := by
          apply Regex.least_le_of_matchOf (alternation.regex.wide_zero)
          cases whole
          · exact .inl went
          · exact .inr went
        omega
      next => exact ih each.2 found

end Scanner

end Lalr
