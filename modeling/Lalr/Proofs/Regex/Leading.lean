import Lalr.Lexer.Scanner

/-!
# Where matches lead

A match goes from its first position to its last one in steps over single characters. So
whatever relation of positions is kept by each of these steps, stands still and goes on,
holds of the two ends of the match. Two such relations are of use: no match leads beyond the
end of a text, and an expression that asks for no line break passes none.
-/

namespace Lalr

/-- A relation of positions that holds of a position and itself, and goes on from one position to
the next. -/
structure IsWay (way : Nat → Nat → Prop) : Prop where
  still : ∀ position, way position position
  onward : ∀ {first middle last}, way first middle → way middle last → way first last

/-- Whether a part of an expression hands on positions only that a way leads to. -/
def Matching.Leads (way : Nat → Nat → Prop) (matching : Matching) : Prop :=
  ∀ point next found, matching point next = some found →
    ∃ after, way point.position after.position ∧ next after = some found

namespace Matching.Leads

variable {way : Nat → Nat → Prop} {first second : Matching} {text : Array Char}

theorem here (isWay : IsWay way) : Leads way fun point next => next point :=
  fun point _ _ went => ⟨point, isWay.still _, went⟩

theorem char {accepts : Char → Bool}
    (steps : ∀ position c, text[position]? = some c → accepts c = true →
      way position (position + 1)) : (matchChar text accepts).Leads way := by
  intro point next found went
  unfold matchChar at went
  split at went
  next c known =>
    split at went
    next accepted => exact ⟨_, steps _ c known accepted, went⟩
    next => cases went
  next => cases went

theorem sequence (isWay : IsWay way) (one : first.Leads way) (two : second.Leads way) :
    Leads way fun point next => first point fun middle => second middle next := by
  intro point next found went
  rcases one point _ found went with ⟨middle, there, went⟩
  rcases two middle _ found went with ⟨after, further, went⟩
  exact ⟨after, isWay.onward there further, went⟩

theorem choice (one : first.Leads way) (two : second.Leads way) :
    Leads way fun point next =>
      match first point next with
      | some found => some found
      | none => second point next := by
  intro point next found went
  dsimp only at went
  split at went
  next found' went' =>
    cases went
    exact one point next found went'
  next => exact two point next found went

theorem atomic (one : first.Leads way) :
    Leads way fun point next =>
      match first point some with
      | some after => next after
      | none => none := by
  intro point next found went
  dsimp only at went
  split at went
  next after went' =>
    rcases one point some after went' with ⟨_, there, same⟩
    cases same
    exact ⟨after, there, went⟩
  next => cases went

/-- The rounds of a repetition. Induction on the bound. -/
theorem rounds (isWay : IsWay way) (one : first.Leads way) (isLazy : Bool) (least : Nat)
    (most : Option Nat) (bound : Nat) : ∀ count last,
    (matchRounds first isLazy least most bound count last).Leads way := by
  induction bound with
  | zero => exact fun _ _ _ _ _ went => nomatch went
  | succ bound ih =>
      intro count last point next found went
      have again {last : Option Nat} (went : (first point fun after =>
          matchRounds first isLazy least most bound (count + 1) last after next) = some found) :
          ∃ after, way point.position after.position ∧ next after = some found :=
        sequence isWay one (ih (count + 1) last) point next found went
      have stop (went : next point = some found) :
          ∃ after, way point.position after.position ∧ next after = some found :=
        here isWay point next found went
      simp only [matchRounds] at went
      split at went
      · exact again went
      · split at went
        · split at went
          · split at went
            next found' went' =>
              cases went
              exact stop went'
            next => exact again went
          · split at went
            next found' went' =>
              cases went
              exact again went'
            next => exact stop went
        · exact stop went

end Matching.Leads

namespace Regex

/-- Whether each step over a character that an expression asks for under some flags keeps to a way,
and each jump over a text that has been matched before. -/
def KeepsTo (way : Nat → Nat → Prop) (text : Array Char) : RegexFlags → Regex → Prop
  | flags, .char c =>
    ∀ position d, text[position]? = some d → flags.sameChar c d = true →
      way position (position + 1)
  | flags, .class negated items =>
    ∀ position d, text[position]? = some d → classAccepts flags negated items d = true →
      way position (position + 1)
  | flags, .anyChar =>
    ∀ position d, text[position]? = some d → (flags.dotAll || d != '\n') = true →
      way position (position + 1)
  | flags, .sequence first second => first.KeepsTo way text flags ∧ second.KeepsTo way text flags
  | flags, .choice first second => first.KeepsTo way text flags ∧ second.KeepsTo way text flags
  | flags, .conditional _ present absent =>
    present.KeepsTo way text flags ∧ absent.KeepsTo way text flags
  | flags, .group _ body => body.KeepsTo way text flags
  | flags, .atomic body => body.KeepsTo way text flags
  | flags, .repetition _ _ _ body => body.KeepsTo way text flags
  | flags, .scoped change body => body.KeepsTo way text (change.apply flags)
  | _, .backReference _ _ =>
    ∀ position after, position ≤ after → after ≤ text.size → way position after
  | _, .empty => True
  | _, .anchor _ => True
  | _, .look _ _ _ => True

theorem bounds_of_matchAgain {flags : RegexFlags} {text : Array Char}
    {start stop position after : Nat}
    (again : matchAgain flags text start stop position = some after) :
    position ≤ after ∧ after ≤ text.size := by
  unfold matchAgain at again
  rw [Option.ite_none_right_eq_some, Bool.and_eq_true, decide_eq_true_iff] at again
  rcases again with ⟨⟨inside, _⟩, same⟩
  cases same
  exact ⟨Nat.le_add_right _ _, inside⟩

/-- An expression whose steps keep to a way leads along it. -/
theorem matching_leads {way : Nat → Nat → Prop} (isWay : IsWay way) (text : Array Char)
    (regex : Regex) :
    ∀ flags, regex.KeepsTo way text flags → (regex.matching text flags).Leads way := by
  induction regex with
  | empty => exact fun _ _ => .here isWay
  | char c => exact fun _ keeps => .char keeps
  | «class» negated items => exact fun _ keeps => .char keeps
  | anyChar => exact fun _ keeps => .char keeps
  | anchor condition =>
      intro flags _ point next found went
      simp only [matching] at went
      split at went
      · exact Matching.Leads.here isWay point next found went
      · cases went
  | sequence first second ih ih' =>
      intro flags keeps
      have both := Matching.Leads.sequence isWay (ih flags keeps.1) (ih' flags keeps.2)
      exact both
  | choice first second ih ih' =>
      exact fun flags keeps => (ih flags keeps.1).choice (ih' flags keeps.2)
  | group index body ih =>
      intro flags keeps point next found went
      rcases ih flags keeps point _ found went with ⟨after, there, went⟩
      exact ⟨{ after with groups := (index, point.position, after.position) :: after.groups },
        there, went⟩
  | «scoped» change body ih => exact fun flags keeps => ih (change.apply flags) keeps
  | atomic body ih => exact fun flags keeps => (ih flags keeps).atomic
  | repetition greed least most body ih =>
      intro flags keeps point next found went
      have rounds := (ih flags keeps).rounds isWay (greed == .lazy) least most
        (least + (text.size - point.position) + 2) 0 none
      simp only [matching] at went
      split at went
      · exact rounds.atomic point next found went
      · exact rounds point next found went
  | backReference index width =>
      intro flags keeps point next found went
      simp only [matching] at went
      split at went
      · split at went
        next position again =>
          rcases bounds_of_matchAgain again with ⟨late, inside⟩
          exact ⟨{ point with position }, keeps _ _ late inside, went⟩
        next => cases went
      · cases went
  | look behind negated body ih =>
      intro flags keeps point next found went
      simp only [matching] at went
      split at went
      next _ _ after _ => exact ⟨{ after with position := point.position }, isWay.still _, went⟩
      next => exact ⟨point, isWay.still _, went⟩
      next => cases went
  | conditional index present absent ih ih' =>
      intro flags keeps point next found went
      simp only [matching] at went
      split at went
      · exact ih flags keeps.1 point next found went
      · exact ih' flags keeps.2 point next found went

end Regex

namespace CompiledRegex

variable {way : Nat → Nat → Prop} {compiled : CompiledRegex}
  {text : Array Char} {position : Nat} {point : MatchPoint}

theorem leads_of_matchAt (isWay : IsWay way)
    (keeps : compiled.regex.KeepsTo way text compiled.flags)
    (found : compiled.matchAt text position = some point) : way position point.position := by
  rcases compiled.regex.matching_leads isWay text _ keeps _ _ _ found with ⟨after, there, same⟩
  cases same
  exact there

theorem leads_of_fullMatchAt (isWay : IsWay way)
    (keeps : compiled.regex.KeepsTo way text compiled.flags)
    (found : compiled.fullMatchAt text position = some point) : way position point.position := by
  rcases compiled.regex.matching_leads isWay text _ keeps _ _ _ found with ⟨after, there, same⟩
  split at same
  · cases same
    exact there
  · cases same

end CompiledRegex

/-! ## The end of the text -/

/-- Whether the second of two positions is not before the first, and not beyond the end of a text
unless the first is. -/
def Bounded (text : Array Char) (first last : Nat) : Prop :=
  first ≤ last ∧ (first ≤ text.size → last ≤ text.size)

theorem isWay_bounded (text : Array Char) : IsWay (Bounded text) where
  still := fun _ => ⟨Nat.le_refl _, fun inside => inside⟩
  onward := fun there further =>
    ⟨Nat.le_trans there.1 further.1, fun inside => further.2 (there.2 inside)⟩

theorem Regex.keepsTo_bounded (text : Array Char) (regex : Regex) :
    ∀ flags, regex.KeepsTo (Bounded text) text flags := by
  have step {position : Nat} {c : Char} (known : text[position]? = some c) :
      Bounded text position (position + 1) :=
    ⟨Nat.le_succ _, fun _ => (Array.getElem?_eq_some_iff.mp known).1⟩
  induction regex with
  | char c => exact fun _ _ _ known _ => step known
  | «class» negated items => exact fun _ _ _ known _ => step known
  | anyChar => exact fun _ _ _ known _ => step known
  | sequence first second ih ih' => exact fun flags => ⟨ih flags, ih' flags⟩
  | choice first second ih ih' => exact fun flags => ⟨ih flags, ih' flags⟩
  | conditional index present absent ih ih' => exact fun flags => ⟨ih flags, ih' flags⟩
  | group index body ih => exact ih
  | atomic body ih => exact ih
  | repetition greed least most body ih => exact ih
  | «scoped» change body ih => exact fun flags => ih (change.apply flags)
  | backReference index width => exact fun _ _ _ late inside => ⟨late, fun _ => inside⟩
  | empty => exact fun _ => trivial
  | anchor condition => exact fun _ => trivial
  | look behind negated body => exact fun _ => trivial

/-- A match of a scanner goes forward, and not beyond the end of the text. -/
theorem Scanner.bounded_of_matchAt {scanner : Scanner} {text : Array Char} {position stop : Nat}
    {name : String} (found : scanner.matchAt text position = some (stop, name)) :
    Bounded text position stop := by
  rcases scanner with ⟨terminals, whole, alternations⟩
  unfold matchAt at found
  dsimp only at found
  induction alternations with
  | nil => cases found
  | cons alternation rest ih =>
      rw [tryAll] at found
      split at found
      next point went =>
        rcases Option.map_eq_some_iff.mp found with ⟨_, _, same⟩
        cases same
        have keeps := alternation.regex.keepsTo_bounded text alternation.flags
        split at went
        · exact CompiledRegex.leads_of_fullMatchAt (isWay_bounded text) keeps went
        · exact CompiledRegex.leads_of_matchAt (isWay_bounded text) keeps went
      next => exact ih found

/-! ## Line breaks -/

/-- Whether there is no line break between two positions of a text, the second of which is not
before the first. -/
def Unbroken (text : Array Char) (first last : Nat) : Prop :=
  first ≤ last ∧ ∀ position, first ≤ position → position < last →
    text[position]? ≠ some '\n'

theorem isWay_unbroken (text : Array Char) : IsWay (Unbroken text) := by
  refine ⟨fun _ => ⟨Nat.le_refl _, by omega⟩, fun {_ middle _} there further => ?_⟩
  refine ⟨Nat.le_trans there.1 further.1, fun position late early => ?_⟩
  rcases Nat.lt_or_ge position middle with before | after
  · exact there.2 position late before
  · exact further.2 position after early

/-- Whether an expression can be seen to ask for no line break, under some flags. -/
def Regex.isUnbroken : RegexFlags → Regex → Bool
  | flags, .char c => !flags.sameChar c '\n'
  | flags, .class negated items => !classAccepts flags negated items '\n'
  | flags, .anyChar => !flags.dotAll
  | flags, .sequence first second => first.isUnbroken flags && second.isUnbroken flags
  | flags, .choice first second => first.isUnbroken flags && second.isUnbroken flags
  | flags, .conditional _ present absent => present.isUnbroken flags && absent.isUnbroken flags
  | flags, .group _ body => body.isUnbroken flags
  | flags, .atomic body => body.isUnbroken flags
  | flags, .repetition _ _ _ body => body.isUnbroken flags
  | flags, .scoped change body => body.isUnbroken (change.apply flags)
  | _, .backReference _ _ => false
  | _, .empty => true
  | _, .anchor _ => true
  | _, .look _ _ _ => true

theorem Regex.keepsTo_unbroken (text : Array Char) (regex : Regex) :
    ∀ flags, regex.isUnbroken flags = true → regex.KeepsTo (Unbroken text) text flags := by
  have step {accepts : Char → Bool} (refused : accepts '\n' = false) :
      ∀ position c, text[position]? = some c → accepts c = true →
        Unbroken text position (position + 1) := by
    intro position c known accepted
    refine ⟨Nat.le_succ _, fun other late early same => ?_⟩
    rcases (show other = position by omega) with rfl
    cases known.symm.trans same
    rw [refused] at accepted
    cases accepted
  induction regex with
  | char c =>
      intro flags unbroken
      exact step (by simpa [isUnbroken] using unbroken)
  | «class» negated items =>
      intro flags unbroken
      exact step (by simpa [isUnbroken] using unbroken)
  | anyChar =>
      intro flags unbroken
      have refused : (flags.dotAll || '\n' != '\n') = false := by simpa [isUnbroken] using unbroken
      exact step refused
  | sequence first second ih ih' =>
      intro flags unbroken
      rcases Bool.and_eq_true_iff.mp unbroken with ⟨one, two⟩
      exact ⟨ih flags one, ih' flags two⟩
  | choice first second ih ih' =>
      intro flags unbroken
      rcases Bool.and_eq_true_iff.mp unbroken with ⟨one, two⟩
      exact ⟨ih flags one, ih' flags two⟩
  | conditional index present absent ih ih' =>
      intro flags unbroken
      rcases Bool.and_eq_true_iff.mp unbroken with ⟨one, two⟩
      exact ⟨ih flags one, ih' flags two⟩
  | group index body ih => exact ih
  | atomic body ih => exact ih
  | repetition greed least most body ih => exact ih
  | «scoped» change body ih => exact fun flags => ih (change.apply flags)
  | backReference index width => exact fun _ unbroken => nomatch unbroken
  | empty => exact fun _ _ => trivial
  | anchor condition => exact fun _ _ => trivial
  | look behind negated body => exact fun _ _ => trivial

end Lalr
