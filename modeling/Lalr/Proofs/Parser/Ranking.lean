import Lalr.Parser.Examples
import Lalr.Proofs.Runs

/-!
# The rank of examples

Examples of failures are gone through once, and a candidate is kept that later examples may replace.
What comes out is the first of the best: an example that fails on the very same token is better than
one that fails on a token of the same kind, if kinds count, and that is better than one that only
fails in the same state of the parse. This holds whatever the texts are tried with, and if trying
one fails for another reason the search fails with it.
-/

namespace Lalr

open Work

/-- What trying a text of an example has come to: a failure, unless the text is fine. `accepted`
holds the terminals that would have been accepted where it failed, if they were asked for. -/
structure Finding where
  label : Data
  failure? : Option Failure := none
  accepted : List String := []

/-- Whether the acceptable terminals of two failures have to be the same. -/
structure Likeness.Asks (likeness : Likeness) (own other : Failure) : Prop where
  counts : likeness.byAcceptance = true
  own : own.offender?.isSome = true
  other : other.offender?.isSome = true

namespace Finding

section

variable (likeness : Likeness) (own : Failure) (accepted : List String)

/-- Whether a text fails in the state of the parse that a failure comes from, and with the same
terminals acceptable if this counts and both failures reject something. -/
def Comparable (finding : Finding) : Prop :=
  ∃ other, finding.failure? = some other ∧ other.isStuck = true ∧
    other.standing? = own.standing? ∧
    (likeness.Asks own other → ∀ name, name ∈ finding.accepted ↔ name ∈ accepted)

/-- Whether a text fails on something that a failure rejects, for a way of telling what is. -/
def Rejects (same : Offender → Offender → Prop) (finding : Finding) : Prop :=
  ∃ other theirs mine, finding.failure? = some other ∧ other.offender? = some theirs ∧
    own.offender? = some mine ∧ same theirs mine

/-- Whether a text fails on the very token that a failure rejects. -/
abbrev SameToken : Finding → Prop :=
  Rejects own fun theirs mine => theirs.agrees mine = true

/-- Whether a text fails on a token of the kind that a failure rejects. -/
abbrev SameKind : Finding → Prop :=
  Rejects own fun theirs mine => ∃ kind, theirs.kind? = some kind ∧ mine.kind? = some kind

/-- Whether a text fails on something else than a failure rejects, and one of them is no token. -/
abbrev Kindless : Finding → Prop :=
  Rejects own fun theirs mine =>
    theirs.agrees mine = false ∧ (theirs.kind? = none ∨ mine.kind? = none)

end

/-- Whether a label is that of the first finding of some sort. -/
def First (wanted : Finding → Prop) (findings : List Finding) (label : Data) : Prop :=
  ∃ earlier finding later, findings = earlier ++ finding :: later ∧ finding.label = label ∧
    wanted finding ∧ ∀ other ∈ earlier, ¬wanted other

section

variable (likeness : Likeness) (own : Failure) (accepted : List String) (findings : List Finding)

/-- Whether no comparable finding has the very same token. -/
def Undecided : Prop :=
  ∀ finding ∈ findings, finding.Comparable likeness own accepted → ¬finding.SameToken own

/-- The label that findings come to: that of the first comparable one with the very same token;
without such a one, if kinds count, that of the first with a token of the same kind; otherwise that
of the first comparable one, if there is any. -/
inductive Ranked : Data → Prop
  | token {label : Data}
      (first : First (fun finding => finding.Comparable likeness own accepted ∧
        finding.SameToken own)
        findings label) :
      Ranked label
  | kind {label : Data} (undecided : Undecided likeness own accepted findings)
      (counts : likeness.byKind = true)
      (first : First (fun finding => finding.Comparable likeness own accepted ∧
        finding.SameKind own)
        findings label) :
      Ranked label
  | state {label : Data} (undecided : Undecided likeness own accepted findings)
      (unlike : likeness.byKind = true → ∀ finding ∈ findings,
        finding.Comparable likeness own accepted → ¬finding.SameKind own)
      (first : First (Comparable likeness own accepted) findings label) :
      Ranked label
  | none (apart : ∀ finding ∈ findings,
    ¬finding.Comparable likeness own accepted) : Ranked .null

/-- What is known of the findings so far when they have come to a candidate. -/
inductive Stands : Candidate → Prop
  | none (apart : ∀ finding ∈ findings, ¬finding.Comparable likeness own accepted) : Stands {}
  | state {label : Data} (named : label ≠ .null)
      (undecided : Undecided likeness own accepted findings)
      (unlike : likeness.byKind = true → ∀ finding ∈ findings,
        finding.Comparable likeness own accepted → ¬finding.SameKind own)
      (first : First (Comparable likeness own accepted) findings label) :
      Stands { label }
  | kind {label : Data} (named : label ≠ .null)
      (undecided : Undecided likeness own accepted findings) (counts : likeness.byKind = true)
      (first : First (fun finding => finding.Comparable likeness own accepted ∧
        finding.SameKind own)
        findings label) :
      Stands { label, byKind := true }

end

/-- What makes a finding as close to a failure as it is found to be, or what keeps it from being
compared. -/
inductive Graded (likeness : Likeness) (own : Failure) (finding : Finding) :
    Except Failure Closeness → Prop
  | token (same : finding.SameToken own) : Graded likeness own finding (.ok .token)
  | kind (other : ¬finding.SameToken own) (kinds : ¬finding.Kindless own)
      (counts : likeness.byKind = true) (same : finding.SameKind own) :
      Graded likeness own finding (.ok .kind)
  | state (other : ¬finding.SameToken own)
      (kinds : likeness.byKind = true → ¬finding.Kindless own)
      (unlike : likeness.byKind = true → ¬finding.SameKind own) :
      Graded likeness own finding (.ok .state)
  | kindless (counts : likeness.byKind = true) (kindless : finding.Kindless own) :
      Graded likeness own finding (.error (.fault .missingPart))

section

variable {likeness : Likeness} {own other : Failure} {accepted : List String}
  {findings : List Finding} {finding : Finding} {candidate : Candidate} {wanted : Finding → Prop}
  {label : Data}

theorem First.append (first : First wanted findings label) (more : List Finding) :
    First wanted (findings ++ more) label := by
  rcases first with ⟨earlier, finding, later, rfl, named, is, none⟩
  exact ⟨earlier, finding, later ++ more, by simp, named, is, none⟩

theorem first_snoc (none : ∀ other ∈ findings, ¬wanted other) (is : wanted finding) :
    First wanted (findings ++ [finding]) finding.label :=
  ⟨findings, finding, [], rfl, rfl, is, none⟩

theorem rejects_iff {same : Offender → Offender → Prop}
    (failed : finding.failure? = some other) :
    finding.Rejects own same ↔
      ∃ theirs mine, other.offender? = some theirs ∧ own.offender? = some mine ∧
        same theirs mine := by
  simp [Rejects, failed]

theorem not_rejects {same : Offender → Offender → Prop} (failed : finding.failure? = some other)
    (none : other.offender? = none ∨ own.offender? = none) : ¬finding.Rejects own same := by
  rw [rejects_iff failed]
  rintro ⟨theirs, mine, rejects, rejected, -⟩
  rcases none with none | none
  · rw [none] at rejects
    cases rejects
  · rw [none] at rejected
    cases rejected

/-- How close a failure is found to be tells what its text fails on. -/
theorem graded (failed : finding.failure? = some other) :
    Graded likeness own finding (likeness.closeness own other) := by
  unfold Likeness.closeness
  split
  · rename_i mine theirs rejected rejects
    have judged (same : Offender → Offender → Prop) : finding.Rejects own same ↔
        same theirs mine := by
      simp [rejects_iff failed, rejects, rejected]
    by_cases same : theirs.agrees mine = true
    · rw [if_pos same]
      exact .token ((judged _).mpr same)
    · have differs : ¬finding.SameToken own := fun agrees => same ((judged _).mp agrees)
      rw [if_neg same]
      by_cases counts : likeness.byKind = true
      · rw [if_pos counts]
        split
        · rename_i kind kind' its itself
          have kinds : ¬finding.Kindless own := by
            intro kindless
            rcases (judged _).mp kindless with ⟨-, none | none⟩
            · cases its.symm.trans none
            · cases itself.symm.trans none
          by_cases alike : kind = kind'
          · rw [if_pos alike]
            exact .kind differs kinds counts ((judged _).mpr ⟨kind, its, alike ▸ itself⟩)
          · rw [if_neg alike]
            refine .state differs (fun _ => kinds) fun _ found => alike ?_
            rcases (judged _).mp found with ⟨kind, is, is'⟩
            cases its.symm.trans is
            cases itself.symm.trans is'
            rfl
        · rename_i without
          refine .kindless counts ((judged _).mpr ⟨by simpa using same, ?_⟩)
          cases its : theirs.kind? with
          | none => exact .inl rfl
          | some kind =>
              cases itself : mine.kind? with
              | none => exact .inr rfl
              | some kind' => exact (without kind kind' its itself).elim
      · rw [if_neg counts]
        exact .state differs (fun counted => (counts counted).elim) fun counted =>
          (counts counted).elim
  · rename_i without
    have none : other.offender? = none ∨ own.offender? = none := by
      cases rejects : other.offender? with
      | none => exact .inl rfl
      | some theirs =>
          cases rejected : own.offender? with
          | none => exact .inr rfl
          | some mine => exact (without mine theirs rejected rejects).elim
    exact .state (not_rejects failed none) (fun _ => not_rejects failed none)
      fun _ => not_rejects failed none

theorem Graded.goes {closeness : Closeness} (graded : Graded likeness own finding (.ok closeness))
    (open_ : closeness ≠ .token) :
    ¬finding.SameToken own ∧ (likeness.byKind = true → ¬finding.Kindless own) := by
  cases graded with
  | token => exact (open_ rfl).elim
  | kind other kinds => exact ⟨other, fun _ => kinds⟩
  | state other kinds => exact ⟨other, kinds⟩

theorem Stands.ranked (stands : Stands likeness own accepted findings candidate) :
    Ranked likeness own accepted findings candidate.label := by
  cases stands with
  | none apart => exact .none apart
  | state _ undecided unlike first => exact .state undecided unlike first
  | kind _ undecided counts first => exact .kind undecided counts first

theorem Stands.undecided (stands : Stands likeness own accepted findings candidate) :
    Undecided likeness own accepted findings := by
  cases stands with
  | none apart => exact fun finding member comparable => (apart finding member comparable).elim
  | state _ undecided _ _ => exact undecided
  | kind _ undecided _ _ => exact undecided

theorem forall_snoc :
    (∀ other ∈ findings ++ [finding], wanted other) ↔
      (∀ other ∈ findings, wanted other) ∧ wanted finding := by
  rw [List.forall_mem_append, List.forall_mem_singleton]

theorem Undecided.snoc (undecided : Undecided likeness own accepted findings)
    (goes : finding.Comparable likeness own accepted → ¬finding.SameToken own) :
    Undecided likeness own accepted (findings ++ [finding]) :=
  forall_snoc.mpr ⟨undecided, goes⟩

/-- The very same token decides. -/
theorem Stands.decided (stands : Stands likeness own accepted findings candidate)
    (comparable : finding.Comparable likeness own accepted) (same : finding.SameToken own) :
    Ranked likeness own accepted (findings ++ [finding]) finding.label :=
  .token (first_snoc (fun other member found => stands.undecided other member found.1 found.2)
    ⟨comparable, same⟩)

/-- What is not comparable changes nothing. -/
theorem Stands.apart (stands : Stands likeness own accepted findings candidate)
    (apart : ¬finding.Comparable likeness own accepted) :
    Stands likeness own accepted (findings ++ [finding]) candidate := by
  have undecided := stands.undecided.snoc fun comparable => (apart comparable).elim
  cases stands with
  | none all => exact .none (forall_snoc.mpr ⟨all, apart⟩)
  | state named _ unlike first =>
      refine .state named undecided (fun counts => ?_) (first.append _)
      exact forall_snoc.mpr ⟨unlike counts, fun comparable => (apart comparable).elim⟩
  | kind named _ counts first => exact .kind named undecided counts (first.append _)

/-- A token of the same kind is the candidate, unless there was one before. -/
theorem Stands.kindred (stands : Stands likeness own accepted findings candidate)
    (named : finding.label ≠ .null) (comparable : finding.Comparable likeness own accepted)
    (other : ¬finding.SameToken own) (counts : likeness.byKind = true)
    (same : finding.SameKind own) :
    Stands likeness own accepted (findings ++ [finding])
      (if candidate.byKind = true then candidate
        else { label := finding.label, byKind := true }) := by
  have undecided := stands.undecided.snoc fun _ => other
  cases stands with
  | none apart =>
      refine .kind named undecided counts (first_snoc ?_ ⟨comparable, same⟩)
      exact fun other member found => apart other member found.1
  | state _ _ unlike _ =>
      refine .kind named undecided counts (first_snoc ?_ ⟨comparable, same⟩)
      exact fun other member found => unlike counts other member found.1 found.2
  | kind named _ counts first => exact .kind named undecided counts (first.append _)

/-- What fails in the same state only is the candidate if there was none before. -/
theorem Stands.unlike (stands : Stands likeness own accepted findings candidate)
    (named : finding.label ≠ .null) (comparable : finding.Comparable likeness own accepted)
    (other : ¬finding.SameToken own) (unlike : likeness.byKind = true → ¬finding.SameKind own) :
    Stands likeness own accepted (findings ++ [finding])
      (if candidate.label = .null then { label := finding.label } else candidate) := by
  have undecided := stands.undecided.snoc fun _ => other
  cases stands with
  | none apart =>
      rw [if_pos rfl]
      refine .state named undecided (fun counts => ?_) (first_snoc apart comparable)
      refine forall_snoc.mpr ⟨fun other member comparable =>
        (apart other member comparable).elim, ?_⟩
      exact fun _ => unlike counts
  | state before _ others first =>
      rw [if_neg before]
      refine .state before undecided (fun counts => ?_) (first.append _)
      exact forall_snoc.mpr ⟨others counts, fun _ => unlike counts⟩
  | kind before _ counts first =>
      rw [if_neg before]
      exact .kind before undecided counts (first.append _)

/-- The candidate that a comparable finding leaves, unless it decides. -/
def weighed (closeness : Closeness) (label : Data) (candidate : Candidate) : Candidate :=
  match closeness with
  | .kind => if candidate.byKind = true then candidate else { label, byKind := true }
  | _ => if candidate.label = .null then { label } else candidate

theorem Stands.weighed {closeness : Closeness}
    (stands : Stands likeness own accepted findings candidate) (named : finding.label ≠ .null)
    (comparable : finding.Comparable likeness own accepted)
    (graded : Graded likeness own finding (.ok closeness)) (open_ : closeness ≠ .token) :
    Stands likeness own accepted (findings ++ [finding])
      (weighed closeness finding.label candidate) := by
  cases graded with
  | token => exact (open_ rfl).elim
  | kind other _ counts same => exact stands.kindred named comparable other counts same
  | state other _ unlike => exact stands.unlike named comparable other unlike

end

end Finding

namespace Mishap

section

variable (attempt : String → Work (Option Mishap)) (likeness : Likeness) (own : Mishap)
  (accepted : List String)

/-- What comes of trying a text, where `accepted` is what would have been accepted instead of what
`own` is about. This is asked for when a text first fails in the same state and has to have the same
terminals acceptable, and then it is known. -/
inductive Tells (label : Data) (text : String) :
    Option (List String) → Workspace → Finding → Option (List String) → Workspace → Prop
  | fine {known : Option (List String)} {before after : Workspace}
      (tries : (attempt text).Gives before none after) :
      Tells label text known before { label } known after
  | unasked {known : Option (List String)} {before after : Workspace} {other : Mishap}
      (tries : (attempt text).Gives before (some other) after)
      (stuck : other.failure.isStuck = true)
      (elsewhere : other.failure.standing? = own.failure.standing? →
        ¬likeness.Asks own.failure other.failure) :
      Tells label text known before { label, failure? := some other.failure } known after
  | asked {known : Option (List String)} {before tried between after : Workspace} {other : Mishap}
      {names : List String} (tries : (attempt text).Gives before (some other) tried)
      (stuck : other.failure.isStuck = true)
      (stands : other.failure.standing? = own.failure.standing?)
      (asks : likeness.Asks own.failure other.failure)
      (theirs : other.acceptable.run.Gives tried (.ok names) between)
      (mine : (own.recollect known).run.Gives between (.ok accepted) after) :
      Tells label text known before
        { label, failure? := some other.failure, accepted := names } (some accepted) after

/-- How trying a text fails: for another reason than the text, or because nobody can tell which
terminals would have been accepted, or because kinds count where there are none. -/
inductive Breaks (label : Data) (text : String) (known : Option (List String))
    (before : Workspace) :
    Failure → Workspace → Prop
  | raised {after : Workspace} {other : Mishap}
      (tries : (attempt text).Gives before (some other) after)
      (free : other.failure.isStuck = false) :
      Breaks label text known before other.failure after
  | theirs {tried after : Workspace} {other : Mishap} {failure : Failure}
      (tries : (attempt text).Gives before (some other) tried)
      (stuck : other.failure.isStuck = true)
      (stands : other.failure.standing? = own.failure.standing?)
      (asks : likeness.Asks own.failure other.failure)
      (fails : other.acceptable.run.Gives tried (.error failure) after) :
      Breaks label text known before failure after
  | mine {tried between after : Workspace} {other : Mishap} {names : List String}
    {failure : Failure}
      (tries : (attempt text).Gives before (some other) tried)
      (stuck : other.failure.isStuck = true)
      (stands : other.failure.standing? = own.failure.standing?)
      (asks : likeness.Asks own.failure other.failure)
      (theirs : other.acceptable.run.Gives tried (.ok names) between)
      (fails : (own.recollect known).run.Gives between (.error failure) after) :
      Breaks label text known before failure after
  | kindless {later : Option (List String)} {after : Workspace} {finding : Finding}
      (tells : Tells attempt likeness own accepted label text known before finding later after)
      (comparable : finding.Comparable likeness own.failure accepted)
      (counts : likeness.byKind = true) (kindless : finding.Kindless own.failure) :
      Breaks label text known before (.fault .missingPart) after

/-- What comes of trying the texts of some examples in turn. Each is tried where the ones before
have left off, with nothing but the journal written in between. A text that fails in a comparable
way on the very same token is the last, and so is one that cannot be compared; then the failure is
given too. -/
inductive Tried :
    Option (List String) → Workspace → List (Data × String) → List Finding →
      Option Failure → Prop
  | done {known : Option (List String)} {before : Workspace} : Tried known before [] [] none
  | decisive {known later : Option (List String)} {before after : Workspace} {label : Data}
      {text : String} {finding : Finding} {rest : List (Data × String)}
      (tells : Tells attempt likeness own accepted label text known before finding later after)
      (comparable : finding.Comparable likeness own.failure accepted)
      (same : finding.SameToken own.failure) :
      Tried known before ((label, text) :: rest) [finding] none
  | broken {known : Option (List String)} {before after : Workspace} {label : Data} {text : String}
      {failure : Failure} {rest : List (Data × String)}
      (breaks : Breaks attempt likeness own accepted label text known before failure after) :
      Tried known before ((label, text) :: rest) [] (some failure)
  | next {known later : Option (List String)} {before between next : Workspace} {label : Data}
      {text : String} {finding : Finding} {rest : List (Data × String)} {findings : List Finding}
      {ending : Option Failure}
      (tells : Tells attempt likeness own accepted label text known before finding later between)
      (goes : finding.Comparable likeness own.failure accepted →
        ¬finding.SameToken own.failure ∧
          (likeness.byKind = true → ¬finding.Kindless own.failure))
      (written : next = { between with journal := next.journal })
      (tried : Tried later next rest findings ending) :
      Tried known before ((label, text) :: rest) (finding :: findings) ending

end

section Trying

variable {attempt : String → Work (Option Mishap)} {likeness : Likeness} {own other : Mishap}
  {accepted : List String} {label : Data} {text : String} {known later : Option (List String)}
  {before after : Workspace} {finding : Finding}

theorem noteMatch_gives {kind : String} {place : Nat × Nat} {answer : Unit}
    (gives : (noteMatch kind place).Gives before answer after) :
    after = { before with journal := after.journal } := by
  cases gives
  rfl

theorem noteState_gives {place : Nat × Nat} {candidate answer : Candidate}
    (gives : (noteState label place candidate).Gives before answer after) :
    after = { before with journal := after.journal } ∧
      answer = if candidate.label = .null then { label } else candidate := by
  unfold noteState at gives
  split at gives
  · rename_i null
    rcases gives_bind.mp gives with ⟨_, noted, notes, gives⟩
    rcases gives_pure.mp gives with ⟨rfl, rfl⟩
    exact ⟨noteMatch_gives notes, (if_pos null).symm⟩
  · rename_i there
    rcases gives_pure.mp gives with ⟨rfl, rfl⟩
    exact ⟨rfl, (if_neg there).symm⟩

theorem noteKind_gives {place : Nat × Nat} {candidate answer : Candidate}
    (gives : (noteKind label place candidate).Gives before answer after) :
    after = { before with journal := after.journal } ∧
      answer = if candidate.byKind = true then candidate else { label, byKind := true } := by
  unfold noteKind at gives
  split at gives
  · rename_i byKind
    rcases gives_pure.mp gives with ⟨rfl, rfl⟩
    exact ⟨rfl, (if_pos byKind).symm⟩
  · rename_i byState
    rcases gives_bind.mp gives with ⟨_, noted, notes, gives⟩
    rcases gives_pure.mp gives with ⟨rfl, rfl⟩
    exact ⟨noteMatch_gives notes, (if_neg byState).symm⟩

/-- A comparable example decides or makes the candidate what it should be, and only the journal is
written. -/
theorem weigh_gives {closeness : Closeness} {place : Nat × Nat} {candidate : Candidate}
    {answer : Data ⊕ Candidate} (named : label ≠ .null)
    (namedBefore : candidate.byKind = true → candidate.label ≠ .null)
    (gives : (weigh closeness label place candidate).Gives before answer after) :
    after = { before with journal := after.journal } ∧
      answer = if closeness = .token then .inl label
        else .inr (Finding.weighed closeness label candidate) := by
  cases closeness with
  | token =>
      rcases gives_bind.mp gives with ⟨_, noted, notes, gives⟩
      rcases gives_pure.mp gives with ⟨rfl, rfl⟩
      exact ⟨noteMatch_gives notes, rfl⟩
  | kind =>
      rcases gives_bind.mp gives with ⟨met, between, kind, gives⟩
      rcases gives_bind.mp gives with ⟨settled, left, state, gives⟩
      rcases gives_pure.mp gives with ⟨rfl, rfl⟩
      rcases noteKind_gives kind with ⟨written, rfl⟩
      rcases noteState_gives state with ⟨written', rfl⟩
      refine ⟨by rw [written', written], ?_⟩
      -- What the kind has brought about has a label, and stays.
      have stays : (if candidate.byKind = true then candidate
          else { label, byKind := true } : Candidate).label ≠ .null := by
        split
        · rename_i byKind
          exact namedBefore byKind
        · exact named
      rw [if_neg stays]
      rfl
  | state =>
      rcases gives_bind.mp gives with ⟨settled, left, state, gives⟩
      rcases gives_pure.mp gives with ⟨rfl, rfl⟩
      rcases noteState_gives state with ⟨written, rfl⟩
      exact ⟨written, rfl⟩

/-- What is known of the acceptable terminals goes with what they are. -/
def Fits (known : Option (List String)) (accepted : List String) : Prop :=
  ∀ names ∈ known, names = accepted

theorem Tells.fits
    (tells : Tells attempt likeness own accepted label text known before finding later after)
    (fits : Fits later accepted) : Fits known accepted := by
  cases tells with
  | fine => exact fits
  | unasked => exact fits
  | asked _ _ _ _ _ mine =>
      intro names member
      rcases Option.mem_def.mp member with rfl
      have recalled := gives_pure.mp (show Work.Gives (pure (Except.ok names)) _ _ _ from mine)
      cases recalled.1
      rfl

theorem Tells.label_eq
    (tells : Tells attempt likeness own accepted label text known before finding later after) :
    finding.label = label := by
  cases tells <;> rfl

theorem asks_iff {failure failure' : Failure} :
    likeness.Asks failure failure' ↔
      (likeness.byAcceptance && failure.offender?.isSome && failure'.offender?.isSome) = true := by
  constructor
  · rintro ⟨counts, own, other⟩
    simp [counts, own, other]
  · intro asks
    simp only [Bool.and_eq_true] at asks
    exact ⟨asks.1.1, asks.1.2, asks.2⟩

theorem agrees_gives_unasked {answer : Except Failure (Bool × Option (List String))}
    (unasked : ¬likeness.Asks own.failure other.failure)
    (gives : (own.agrees likeness other known).run.Gives before answer after) :
    answer = .ok (true, known) ∧ before = after := by
  unfold agrees at gives
  rw [if_neg fun asks => unasked (asks_iff.mpr asks)] at gives
  rcases gives_pure.mp gives with ⟨rfl, rfl⟩
  exact ⟨rfl, rfl⟩

/-- Where the acceptable terminals have to be the same, those of the example are asked for first. -/
theorem agrees_gives_asked {answer : Except Failure (Bool × Option (List String))}
    (asks : likeness.Asks own.failure other.failure)
    (gives : (own.agrees likeness other known).run.Gives before answer after) :
    (∃ failure, other.acceptable.run.Gives before (.error failure) after ∧
      answer = .error failure) ∨
    ∃ names between, other.acceptable.run.Gives before (.ok names) between ∧
      ((∃ failure, (own.recollect known).run.Gives between (.error failure) after ∧
        answer = .error failure) ∨
      ∃ mine alike, (own.recollect known).run.Gives between (.ok mine) after ∧
        answer = .ok (alike, some mine) ∧
        (alike = true ↔ ∀ name, name ∈ names ↔ name ∈ mine)) := by
  unfold agrees at gives
  rw [if_pos (asks_iff.mp asks)] at gives
  rcases Run.gives_run_bind.mp gives with failed | ⟨names, between, theirs, gives⟩
  · exact .inl failed
  refine .inr ⟨names, between, theirs, ?_⟩
  rcases Run.gives_run_bind.mp gives with failed | ⟨mine, later, recalled, gives⟩
  · exact .inl failed
  rcases gives_pure.mp gives with ⟨rfl, rfl⟩
  refine .inr ⟨mine, _, recalled, rfl, ?_⟩
  simp only [Bool.and_eq_true, List.all_eq_true, List.contains_iff_mem]
  exact ⟨fun both name => ⟨both.1 name, both.2 name⟩,
    fun same => ⟨fun name => (same name).mp, fun name => (same name).mpr⟩⟩

theorem exists_fits (known : Option (List String)) : ∃ accepted, Fits known accepted := by
  cases known with
  | none => exact ⟨[], fun _ member => nomatch member⟩
  | some names => exact ⟨names, fun _ member => (Option.some.inj member).symm⟩

/-- A failure in the same state is comparable if the acceptable terminals are found to agree, and
otherwise nobody can tell which they are. -/
theorem agrees_tells {answer : Except Failure (Bool × Option (List String))} (label : Data)
    {tried : Workspace} (tries : (attempt text).Gives before (some other) tried)
    (stuck : other.failure.isStuck = true)
    (stands : other.failure.standing? = own.failure.standing?)
    (gives : (own.agrees likeness other known).run.Gives tried answer after) :
    (∃ failure, answer = .error failure ∧ ∀ accepted,
      Breaks attempt likeness own accepted label text known before failure after) ∨
    ∃ alike later finding, answer = .ok (alike, later) ∧
      finding.failure? = some other.failure ∧ ∀ accepted, Fits later accepted →
        Tells attempt likeness own accepted label text known before finding later after ∧
          (alike = true ↔ finding.Comparable likeness own.failure accepted) := by
  by_cases asks : likeness.Asks own.failure other.failure
  · rcases agrees_gives_asked asks gives with
      ⟨failure, fails, rfl⟩ | ⟨names, between, theirs, rest⟩
    · exact .inl ⟨failure, rfl, fun _ => .theirs tries stuck stands asks fails⟩
    rcases rest with ⟨failure, fails, rfl⟩ | ⟨mine, alike, recalled, rfl, same⟩
    · exact .inl ⟨failure, rfl, fun _ => .mine tries stuck stands asks theirs fails⟩
    refine .inr ⟨alike, some mine,
      { label, failure? := some other.failure, accepted := names }, rfl,
      rfl, fun accepted fits => ?_⟩
    rcases fits mine rfl with rfl
    refine ⟨.asked tries stuck stands asks theirs recalled, same.trans ?_⟩
    constructor
    · exact fun same => ⟨_, rfl, stuck, stands, fun _ => same⟩
    · rintro ⟨_, ⟨⟩, -, -, same⟩
      exact same asks
  · rcases agrees_gives_unasked asks gives with ⟨rfl, rfl⟩
    refine .inr ⟨true, known, { label, failure? := some other.failure }, rfl, rfl,
      fun accepted _ => ⟨.unasked tries stuck fun _ => asks, ?_⟩⟩
    exact iff_of_true rfl ⟨_, rfl, stuck, stands, fun asked => (asks asked).elim⟩

/-- Comparing a text breaks off as it should, or tells of a finding that is as close as it is found
to be. -/
theorem compare_gives {answer : Except Failure (Option Closeness × Option (List String))}
    (label : Data)
    (gives : (compare attempt likeness own text known).run.Gives before answer after) :
    (∃ failure accepted, answer = .error failure ∧ Fits known accepted ∧
      Breaks attempt likeness own accepted label text known before failure after) ∨
    ∃ closeness later finding, answer = .ok (closeness, later) ∧
      ∀ accepted, Fits later accepted →
      Tells attempt likeness own accepted label text known before finding later after ∧
        (closeness = none → ¬finding.Comparable likeness own.failure accepted) ∧
        ∀ found ∈ closeness, finding.Comparable likeness own.failure accepted ∧
          finding.Graded likeness own.failure (.ok found) := by
  unfold compare at gives
  rw [ExceptT.run_bind_lift] at gives
  rcases gives_bind.mp gives with ⟨tried, between, tries, gives⟩
  cases tried with
  | none =>
      rcases gives_pure.mp gives with ⟨rfl, rfl⟩
      refine .inr ⟨none, known, { label }, rfl,
        fun accepted _ => ⟨.fine tries, ?_, by simp⟩⟩
      rintro - ⟨_, failed, -⟩
      cases failed
  | some other =>
      dsimp only at gives
      split at gives
      · rename_i free
        rcases gives_pure.mp gives with ⟨rfl, rfl⟩
        rcases exists_fits known with ⟨accepted, fits⟩
        exact .inl ⟨_, accepted, rfl, fits, .raised tries (by simpa using free)⟩
      rename_i caught
      have stuck : other.failure.isStuck = true := by simpa using caught
      split at gives
      · rename_i elsewhere
        rcases gives_pure.mp gives with ⟨rfl, rfl⟩
        refine .inr ⟨none, known, { label, failure? := some other.failure }, rfl,
          fun accepted _ => ⟨.unasked tries stuck fun stands => (elsewhere stands).elim,
            ?_, by simp⟩⟩
        rintro - ⟨_, ⟨⟩, -, stands, -⟩
        exact elsewhere stands
      rename_i stands
      rw [not_not] at stands
      rcases Run.gives_run_bind.mp gives with
        ⟨failure, fails, rfl⟩ | ⟨⟨alike, known'⟩, later, agreed, gives⟩
      · rcases agrees_tells label tries stuck stands fails with
          ⟨_, ⟨⟩, breaks⟩ | ⟨_, _, _, ended, -⟩
        · rcases exists_fits known with ⟨accepted, fits⟩
          exact .inl ⟨failure, accepted, rfl, fits, breaks accepted⟩
        · cases ended
      rcases agrees_tells label tries stuck stands agreed with
        ⟨_, ended, -⟩ | ⟨_, _, finding, ⟨⟩, failed, tells⟩
      · cases ended
      dsimp only at gives
      split at gives
      · rename_i alike
        have graded : finding.Graded likeness own.failure
            (likeness.closeness own.failure other.failure) := Finding.graded failed
        rcases Run.gives_run_bind.mp gives with
          ⟨failure, fails, rfl⟩ | ⟨found, _, lifted, gives⟩
        · rw [Run.run_lift] at fails
          rcases gives_pure.mp fails with ⟨broken, rfl⟩
          rw [broken] at graded
          rcases exists_fits known' with ⟨accepted, fits⟩
          rcases tells accepted fits with ⟨tells, comparable⟩
          cases graded with
          | kindless counts kindless =>
              exact .inl ⟨_, accepted, rfl, tells.fits fits,
                .kindless tells (comparable.mp alike) counts kindless⟩
        · rw [Run.run_lift] at lifted
          rcases gives_pure.mp lifted with ⟨went, rfl⟩
          rcases gives_pure.mp gives with ⟨rfl, rfl⟩
          rw [went] at graded
          refine .inr ⟨some found, known', finding, rfl, fun accepted fits => ?_⟩
          rcases tells accepted fits with ⟨tells, comparable⟩
          refine ⟨tells, by simp, ?_⟩
          rintro _ ⟨⟩
          exact ⟨comparable.mp alike, graded⟩
      · rename_i unlike
        rcases gives_pure.mp gives with ⟨rfl, rfl⟩
        refine .inr ⟨none, known', finding, rfl, fun accepted fits => ?_⟩
        rcases tells accepted fits with ⟨tells, comparable⟩
        exact ⟨tells, fun _ found => unlike (comparable.mpr found), by simp⟩

end Trying

section Searching

variable {attempt : String → Work (Option Mishap)} {likeness : Likeness} {own : Mishap}
  {accepted : List String} {label : Data} {text : String} {known later : Option (List String)}
  {before between onward : Workspace} {candidate candidate' : Candidate}
  {rest : List (Data × String)} {answer : Except Failure Data}

/-- How a search that has a candidate ends when it has gone on with some texts: as the failure that
has broken it off, or with the label that its findings come to, those from before included. -/
def Concludes (attempt : String → Work (Option Mishap)) (likeness : Likeness) (own : Mishap)
    (known : Option (List String)) (candidate : Candidate) (before : Workspace)
    (texts : List (Data × String)) (answer : Except Failure Data) : Prop :=
  ∃ accepted findings ending, Fits known accepted ∧
    Tried attempt likeness own accepted known before texts findings ending ∧
    match ending with
    | some failure => answer = .error failure
    | none => ∃ label, answer = .ok label ∧ ∀ seen,
        Finding.Stands likeness own.failure accepted seen candidate →
          Finding.Ranked likeness own.failure accepted (seen ++ findings) label

/-- A search goes on after a finding that does not decide. -/
theorem Concludes.next (finding : Finding)
    (concludes : Concludes attempt likeness own later candidate' onward rest answer)
    (tells : ∀ accepted, Fits later accepted →
      Tells attempt likeness own accepted label text known before finding later between ∧
        (finding.Comparable likeness own.failure accepted → ¬finding.SameToken own.failure ∧
          (likeness.byKind = true → ¬finding.Kindless own.failure)) ∧
        ∀ seen, Finding.Stands likeness own.failure accepted seen candidate →
          Finding.Stands likeness own.failure accepted (seen ++ [finding]) candidate')
    (written : onward = { between with journal := onward.journal }) :
    Concludes attempt likeness own known candidate before ((label, text) :: rest) answer := by
  rcases concludes with ⟨accepted, findings, ending, fits, tried, ends⟩
  rcases tells accepted fits with ⟨tells, goes, stays⟩
  refine ⟨accepted, finding :: findings, ending, tells.fits fits,
    .next tells goes written tried, ?_⟩
  cases ending with
  | some failure => exact ends
  | none =>
      rcases ends with ⟨label, rfl, ranked⟩
      refine ⟨label, rfl, fun seen stands => ?_⟩
      rw [List.append_cons]
      exact ranked _ (stays seen stands)

theorem weighed_named {closeness : Closeness} (named : label ≠ .null)
    (namedBefore : candidate.byKind = true → candidate.label ≠ .null)
    (byKind : (Finding.weighed closeness label candidate).byKind = true) :
    (Finding.weighed closeness label candidate).label ≠ .null := by
  unfold Finding.weighed at byKind ⊢
  split
  · split
    · rename_i found
      exact namedBefore found
    · exact named
  · split
    · exact named
    · assumption

/-- The texts of an example are gone through as they should be if what follows them is. -/
theorem tryTexts_concludes (named : label ≠ .null) {number : Nat}
    {go : Candidate → Option (List String) → Run Data}
    (goes : ∀ candidate known before answer after,
      (candidate.byKind = true → candidate.label ≠ .null) →
      (go candidate known).run.Gives before answer after →
      Concludes attempt likeness own known candidate before rest answer)
    (texts : List String) (index : Nat) {after : Workspace}
    (namedBefore : candidate.byKind = true → candidate.label ≠ .null)
    (gives : (tryTexts attempt likeness own label number texts index candidate
      known >>= fun tried =>
      match tried with
      | (.inl label, _) => pure label
      | (.inr candidate, known) => go candidate known).run.Gives before answer after) :
    Concludes attempt likeness own known candidate before
      (texts.map (label, ·) ++ rest) answer := by
  induction texts generalizing index candidate known before with
  | nil => exact goes _ _ _ _ _ namedBefore gives
  | cons text texts ih =>
      rw [tryTexts, bind_assoc] at gives
      rcases Run.gives_run_bind.mp gives with
        ⟨failure, fails, rfl⟩ | ⟨⟨closeness, later⟩, between, compared, gives⟩
      · rcases compare_gives label fails with
          ⟨_, accepted, ⟨⟩, fits, breaks⟩ | ⟨_, _, _, ended, -⟩
        · exact ⟨accepted, [], some failure, fits, .broken breaks, rfl⟩
        · cases ended
      rcases compare_gives label compared with
        ⟨_, _, ended, -⟩ | ⟨_, _, finding, ⟨⟩, tells⟩
      · cases ended
      cases closeness with
      | none =>
          refine .next finding (ih (index + 1) namedBefore gives) (fun accepted fits => ?_) rfl
          rcases tells accepted fits with ⟨tells, apart, -⟩
          exact ⟨tells, fun comparable => (apart rfl comparable).elim,
            fun seen stands => stands.apart (apart rfl)⟩
      | some closeness =>
          dsimp only at gives
          rw [bind_assoc, Run.run_work_bind] at gives
          rcases gives_bind.mp gives with ⟨weighed, onward, weighs, gives⟩
          rcases weigh_gives named namedBefore weighs with ⟨written, rfl⟩
          by_cases decisive : closeness = .token
          · rw [if_pos decisive] at gives
            rcases gives_pure.mp gives with ⟨rfl, rfl⟩
            rcases exists_fits later with ⟨accepted, fits⟩
            rcases tells accepted fits with ⟨tells, -, close⟩
            rcases close closeness rfl with ⟨comparable, graded⟩
            rw [decisive] at graded
            cases graded with
            | token same =>
                refine ⟨accepted, [finding], none, tells.fits fits,
                  .decisive tells comparable same, label, rfl, fun seen stands => ?_⟩
                rw [← tells.label_eq]
                exact stands.decided comparable same
          · rw [if_neg decisive] at gives
            refine .next finding (ih (index + 1) (weighed_named named namedBefore) gives)
              (fun accepted fits => ?_) written
            rcases tells accepted fits with ⟨tells, -, close⟩
            rcases close closeness rfl with ⟨comparable, graded⟩
            refine ⟨tells, fun _ => graded.goes decisive, fun seen stands => ?_⟩
            have stays := stands.weighed (by rwa [tells.label_eq]) comparable graded decisive
            rwa [tells.label_eq] at stays

/-- The texts of some examples with their labels. -/
def pairs (examples : List FailureExample) : List (Data × String) :=
  examples.flatMap fun it => (it.texts.getD []).map (it.label, ·)

theorem tryExamples_concludes (examples : List FailureExample) (number : Nat) {after : Workspace}
    (lists : ∀ it ∈ examples, it.texts.isSome = true)
    (named : ∀ it ∈ examples, it.label ≠ .null)
    (namedBefore : candidate.byKind = true → candidate.label ≠ .null)
    (gives : (tryExamples attempt likeness own examples number candidate known).run.Gives before
      answer after) :
    Concludes attempt likeness own known candidate before (pairs examples) answer := by
  induction examples generalizing number candidate known before answer after with
  | nil =>
      rcases gives_pure.mp gives with ⟨rfl, rfl⟩
      rcases exists_fits known with ⟨accepted, fits⟩
      refine ⟨accepted, [], none, fits, .done, candidate.label, rfl, fun seen stands => ?_⟩
      rw [List.append_nil]
      exact stands.ranked
  | cons it examples ih =>
      rw [List.forall_mem_cons] at lists named
      rcases Option.isSome_iff_exists.mp lists.1 with ⟨texts, listed⟩
      rw [tryExamples, listed] at gives
      rw [pairs, List.flatMap_cons, listed, Option.getD_some]
      refine tryTexts_concludes named.1 (fun _ _ _ _ _ namedBefore gives => ?_)
        texts 0 namedBefore gives
      exact ih (number + 1) lists.2 named.2 namedBefore gives

end Searching

/-- The examples of failures are gone through in order and the best is picked: the label that comes
out is the one that the findings come to, whatever the texts are tried with, unless trying or
comparing a text that is not preceded by a decisive one breaks the search off. -/
theorem matchExamples_ranked (attempt : String → Work (Option Mishap)) (likeness : Likeness)
    (own : Mishap) (examples : List FailureExample) (before : Workspace)
    (stands : own.failure.standing?.isSome = true)
    (lists : ∀ it ∈ examples, it.texts.isSome = true)
    (named : ∀ it ∈ examples, it.label ≠ .null) :
    ∃ answer after accepted findings ending,
      (own.matchExamples attempt likeness examples).run.Gives before answer after ∧
      Tried attempt likeness own accepted none before (pairs examples) findings ending ∧
      match ending with
      | some failure => answer = .error failure
      | none => ∃ label, answer = .ok label ∧
          Finding.Ranked likeness own.failure accepted findings label := by
  have exists_answer : ∃ answer after,
      (own.matchExamples attempt likeness examples).run.Gives before answer after :=
    ⟨_, _, Work.gives _ _⟩
  rcases exists_answer with ⟨answer, after, gives⟩
  rcases Option.isSome_iff_exists.mp stands with ⟨standing, stood⟩
  have found := gives
  rw [matchExamples, stood] at found
  have unnamed : ({} : Candidate).byKind = true → ({} : Candidate).label ≠ .null := by
    intro byKind
    cases byKind
  rcases tryExamples_concludes examples 0 lists named unnamed found with
    ⟨accepted, findings, ending, -, tried, ends⟩
  refine ⟨_, _, accepted, findings, ending, gives, tried, ?_⟩
  cases ending with
  | some failure => exact ends
  | none =>
      rcases ends with ⟨label, is, ranked⟩
      exact ⟨label, is, ranked [] (.none fun _ member => nomatch member)⟩

/-- A token that is rejected where a parse begins. -/
def rejecting (kind text : String) : Mishap where
  failure := .stuckToken
    { offender := .token { kind, text }, expected := [], standing := some ⟨1, .number 0⟩ }
  acceptable := pure []

theorem matchExamples_ranked_second :
    let own := rejecting "A" "b"
    let attempt := fun text => (pure (some (rejecting "A" text)) : Work (Option Mishap))
    let examples : List FailureExample :=
      [{ label := .text "first", texts := some ["a"] },
        { label := .text "second", texts := some ["b"] }]
    own.failure.standing?.isSome = true ∧ (∀ it ∈ examples, it.texts.isSome = true) ∧
    (∀ it ∈ examples, it.label ≠ .null) ∧
    ∃ after accepted findings,
      (own.matchExamples attempt {} examples).run.Gives {} (.ok (.text "second")) after ∧
      Tried attempt {} own accepted none {} (pairs examples) findings none ∧
      Finding.Ranked {} own.failure accepted findings (.text "second") := by
  intro own attempt examples
  have stands : own.failure.standing?.isSome = true := rfl
  have lists : ∀ it ∈ examples, it.texts.isSome = true := by simp [examples]
  have named : ∀ it ∈ examples, it.label ≠ .null := by simp [examples]
  refine ⟨stands, lists, named, ?_⟩
  rcases matchExamples_ranked attempt {} own examples {} stands lists named with
    ⟨answer, after, accepted, findings, ending, gives, tried, ends⟩
  have found : (own.matchExamples attempt {} examples).run.Gives {} (.ok (.text "second")) {} := rfl
  rcases gives.unique found with ⟨rfl, rfl⟩
  cases ending with
  | some failure => cases ends
  | none =>
      rcases ends with ⟨label, ⟨⟩, ranked⟩
      exact ⟨_, accepted, findings, found, tried, ranked⟩

/-- A text that fails for a reason of its own breaks the search off, even if the next one would have
been decisive. -/
theorem matchExamples_breaks :
    let own := rejecting "A" "b"
    let failure := Failure.raised "ValueError" "no"
    let attempt := fun text => (pure (some (if text = "a" then ⟨failure, pure []⟩ else own)) :
      Work (Option Mishap))
    let first : FailureExample := { label := .text "first", texts := some ["a"] }
    let second : FailureExample := { label := .text "second", texts := some ["b"] }
    (own.matchExamples attempt {} [second, first]).run.Gives {} (.ok second.label) {} ∧
    (own.matchExamples attempt {} [first, second]).run.Gives {} (.error failure) {} :=
  ⟨rfl, rfl⟩

end Mishap

end Lalr
