import Lalr.Proofs.Regex.Advancing
import Lalr.Proofs.Regex.Numbering

/-!
# Frames

An expression that is a part of a longer one is read in a frame: other groups come before it, and
the parenthesis of its own group follows. A reader follows the frame if it reads there what it reads
far behind other groups, with the groups renumbered. Far behind means behind as many groups as a
number of two digits can tell, all of them still open, so that no number that is written in the
expression refers to a group. A reader fails in a frame whose names the expression uses for groups
of its own.
-/

namespace Lalr.Regex

/-- What surrounds an expression that is read as a part of a longer one: the pieces that follow it,
the groups before it and their names. -/
structure Frame where
  tail : List Piece
  groups : List (Option Width) := []
  names : List (String × Nat) := []
  flags : RegexFlags := {}
  closes : Closes tail

namespace Frame

/-- By how much the numbers of groups grow in a frame. -/
abbrev offset (frame : Frame) : Nat := frame.groups.length

/-- The state in a frame of a reader that would be at `own` if nothing were around it. -/
def place (frame : Frame) (own : ReaderState) : ReaderState where
  rest := own.rest ++ frame.tail
  flags := frame.flags
  groups := frame.groups ++ own.groups
  names := frame.names ++ own.names.map fun (name, index) => (name, index + frame.offset)
  groupsBeforeLookBehind := own.groupsBeforeLookBehind.map (· + frame.offset)

/-- Whether no group has a name that the frame has given. -/
def Apart (frame : Frame) (own : ReaderState) : Prop :=
  ∀ entry ∈ own.names, ∀ other ∈ frame.names, entry.1 ≠ other.1

/-- The frame of an expression that stands behind as many open groups as a number can tell. -/
def far : Frame where
  tail := [.plain ')']
  groups := List.replicate 99 none
  closes := by simp [Closes]

@[simp] theorem offset_far : far.offset = 99 := rfl

end Frame

open Lalr.Regex.Frame (far)

/-- Whether a reader has neither gone beyond its frame nor asked for a group by its number. -/
structure ReaderState.Within (state : ReaderState) : Prop where
  rest : state.rest ≠ []
  conditions : state.conditions = []

namespace ReaderState.Within

variable {before after : ReaderState}

/-- Who is within a frame has never left it. -/
theorem sooner (within : after.Within) (leads : before.Leads after) : before.Within where
  rest := by
    intro ended
    have left := leads.rest
    rw [ended, List.suffix_nil] at left
    exact within.rest left
  conditions := by
    have noted := leads.conditions
    rwa [within.conditions, List.prefix_nil] at noted

end ReaderState.Within

/-- Whether a reader refuses what it finds. -/
def Reading.Fails {α : Type} (reading : Reading α) (before : ReaderState) : Prop :=
  ∃ fault, reading.run before = .error fault

namespace Reading.Fails

variable {α β : Type} {reading : Reading α} {next : α → Reading β}
  {before after : ReaderState} {value : α}

theorem bind_left (fails : reading.Fails before) : (reading >>= next).Fails before := by
  rcases fails with ⟨fault, went⟩
  exact ⟨fault, by rw [StateT.run_bind, went]; rfl⟩

theorem bind_right (reads : reading.Reads before value after) (fails : (next value).Fails after) :
    (reading >>= next).Fails before := by
  rcases fails with ⟨fault, went⟩
  refine ⟨fault, ?_⟩
  rw [StateT.run_bind, show reading.run before = .ok (value, after) from reads]
  exact went

end Reading.Fails

/-- What does not change with the number of groups before an expression. -/
abbrev fixed {α : Type} (_ : Nat) (value : α) : α := value

namespace Frame

variable {α β : Type} {act : Nat → α → α} {act' : Nat → β → β} {frame : Frame}
  {related condition : Prop} [Decidable condition] {own : ReaderState}
  {source target source' target' : Reading α}

/-- Whether two values are those of one expression far behind other groups and in a frame. -/
def Pairs (frame : Frame) (act : Nat → α → α) (value value' : α) : Prop :=
  ∃ own, value = act far.offset own ∧ value' = act frame.offset own

theorem Pairs.fixed (frame : Frame) (value : α) : frame.Pairs fixed value value :=
  ⟨value, rfl, rfl⟩

/-- Whether `target`, in a frame, goes on from a state as `source` does far behind other groups. -/
def Simulates (frame : Frame) (act : Nat → α → α) (own : ReaderState)
    (source target : Reading α) :
    Prop :=
  ∀ value after, source.Reads (far.place own) value after → after.Within →
    ∃ value' own', value = act far.offset value' ∧ after = far.place own' ∧
      (frame.Apart own' →
        target.Reads (frame.place own) (act frame.offset value') (frame.place own')) ∧
      (frame.Apart own → ¬frame.Apart own' → target.Fails (frame.place own))

/-- Whether a reader of an expression that was at one state may be at another. -/
def Leads (own own' : ReaderState) : Prop := (far.place own).Leads (far.place own')

/-- A reader never puts pieces back. -/
theorem Leads.length_le {own' : ReaderState} (leads : Leads own own') :
    own'.rest.length ≤ own.rest.length := by
  have shorter := ReaderState.Leads.rest leads
  simpa [place] using shorter.length_le

/-- The names that are there from the beginning are apart if those in the end are. -/
theorem Apart.sooner {own' : ReaderState} (apart : frame.Apart own') (leads : Leads own own') :
    frame.Apart own := by
  rcases ReaderState.Leads.names leads with ⟨opened, names, _⟩
  intro entry member
  have member' : (entry.1, entry.2 + far.offset) ∈ (far.place own').names := by
    rw [names]
    exact List.mem_append_left _ (List.mem_append_right _ (List.mem_map_of_mem member))
  rcases List.mem_map.mp ((List.mem_append.mp member').resolve_left nofun) with
    ⟨entry', member', same⟩
  rw [← congrArg Prod.fst same]
  exact apart entry' member'

theorem Simulates.bind {next next' : α → Reading β}
    (first : frame.Simulates act own source target)
    (advances : ∀ value before between origin, source.Reads before value between →
      (next value).Advances origin)
    (rest : ∀ value own', source.Reads (far.place own) (act far.offset value) (far.place own') →
      frame.Simulates act' own' (next (act far.offset value)) (next' (act frame.offset value))) :
    frame.Simulates act' own (source >>= next) (target >>= next') := by
  intro value after read within
  rcases Reading.reads_bind.mp read with ⟨given, between, read, read'⟩
  have leads := advances given _ _ between read _ _ _ read' (.refl between)
  rcases first _ _ read (within.sooner leads) with ⟨given, own', rfl, rfl, reads, fails⟩
  rcases rest given own' read _ _ read' within with ⟨value, own'', rfl, rfl, reads', fails'⟩
  refine ⟨value, own'', rfl, rfl, fun apart => ?_, fun before clash => ?_⟩
  · exact Reading.reads_bind.mpr ⟨_, _, reads (apart.sooner leads), reads' apart⟩
  · by_cases apart : frame.Apart own'
    · exact .bind_right (reads apart) (fails' apart clash)
    · exact .bind_left (fails before apart)

/-- A reader that only consumes pieces simulates if it consumes the same ones. -/
theorem simulates_of_reads (same : ∀ value after, source.Reads (far.place own) value after →
      after.Within → ∃ rest, after = far.place { own with rest } ∧
        target.Reads (frame.place own) value (frame.place { own with rest })) :
    frame.Simulates fixed own source target := by
  intro value after read within
  rcases same value after read within with ⟨rest, rfl, reads⟩
  exact ⟨value, _, rfl, rfl, fun _ => reads, fun apart clash => absurd apart clash⟩

/-- Whether a reader only goes on as readers may and, if values before it are those of one
expression, reads in a frame what it reads far behind other groups from any state on to which a
reader may come from `start`. -/
structure Follows (frame : Frame) (related : Prop) (start : ReaderState)
    (act : Nat → α → α) (source target : Reading α) : Prop where
  advances : ∀ origin, source.Advances origin
  simulates : related → ∀ own, Leads start own → frame.Simulates act own source target

namespace Follows

variable {start : ReaderState}

theorem pure {value value' : α} (pairs : related → frame.Pairs act value value') :
    frame.Follows related start act (Pure.pure value) (Pure.pure value') where
  advances _ := .pure value
  simulates holds own _ value after read _ := by
    rcases Reading.reads_pure.mp read with ⟨rfl, rfl⟩
    rcases pairs holds with ⟨value, rfl, rfl⟩
    exact ⟨value, own, rfl, rfl, fun _ => Reading.reads_pure.mpr ⟨rfl, rfl⟩,
      fun apart clash => absurd apart clash⟩

theorem pure_fixed (value : α) :
    frame.Follows related start fixed (Pure.pure value) (Pure.pure value) :=
  .pure fun _ => .fixed frame value

theorem refuse : frame.Follows related start act Regex.refuse target where
  advances _ := .refuse
  simulates _ _ _ _ _ read := absurd read Reading.not_reads_refuse

theorem refuse_bind {next : β → Reading α} :
    frame.Follows related start act (Regex.refuse >>= next) target where
  advances _ := fun _ _ _ read => absurd (Reading.reads_bind.mp read) (by simp)
  simulates _ _ _ _ _ read := absurd (Reading.reads_bind.mp read) (by simp)

theorem weaken {strong : Prop} (follows : frame.Follows related start act source target)
    (holds : strong → related) : frame.Follows strong start act source target where
  advances := follows.advances
  simulates strong := follows.simulates (holds strong)

theorem bind {next next' : α → Reading β}
    (first : frame.Follows related start act source target)
    (rest : ∀ value value', frame.Follows (related ∧ frame.Pairs act value value') start act'
      (next value) (next' value')) :
    frame.Follows related start act' (source >>= next) (target >>= next') where
  advances origin := .bind (first.advances origin) fun value => (rest value value).advances origin
  simulates holds own from_ :=
    (first.simulates holds own from_).bind (fun value _ _ origin _ =>
      (rest value value).advances origin)
      fun value own' read => (rest _ _).simulates ⟨holds, value, rfl, rfl⟩ own'
        (from_.trans (first.advances _ _ _ _ read (.refl _)))

/-- What is known of whatever a reader reads may be relied on afterwards. -/
theorem bind_known (known : α → Prop) {next next' : α → Reading β}
    (first : frame.Follows related start fixed source target)
    (knows : ∀ before value after, source.Reads before value after → known value)
    (rest : ∀ value, known value →
      frame.Follows related start act' (next value) (next' value)) :
    frame.Follows related start act' (source >>= next) (target >>= next') where
  advances origin := by
    intro before value after read leads
    rcases Reading.reads_bind.mp read with ⟨given, between, read, read'⟩
    exact (rest given (knows _ _ _ read)).advances origin _ _ _ read'
      (first.advances origin _ _ _ read leads)
  simulates holds own from_ := by
    refine (first.simulates holds own from_).bind ?_ fun value own' read => ?_
    · exact fun value _ _ origin read => (rest value (knows _ _ _ read)).advances origin
    · exact (rest value (knows _ _ _ read)).simulates holds own'
        (from_.trans (first.advances _ _ _ _ read (.refl _)))

theorem bind_fixed {next next' : α → Reading β}
    (first : frame.Follows related start fixed source target)
    (rest : ∀ value, frame.Follows related start act' (next value) (next' value)) :
    frame.Follows related start act' (source >>= next) (target >>= next') :=
  first.bind_known (fun _ => True) (fun _ _ _ _ => trivial) fun value _ => rest value

/-- A piece that is taken is one of the expression, of which less is left. -/
theorem take_bind {next next' : Option Piece → Reading β}
    (ended : ∀ origin, (next none).Advances origin)
    (rest : ∀ piece later,
      frame.Follows (related ∧ later.rest.length < start.rest.length) later act'
      (next (some piece)) (next' (some piece))) :
    frame.Follows related start act' (take >>= next) (take >>= next') where
  advances origin := .bind take_keeps fun piece =>
    match piece with
    | none => ended origin
    | some piece => (rest piece start).advances origin
  simulates holds own from_ := by
    intro value after read within
    rcases own with ⟨pieces, flags, allScripts, groups, names, before, conditions⟩
    rcases Reading.reads_bind.mp read with ⟨piece, between, taken, read⟩
    cases pieces with
    | nil =>
        cases taken
        have leads := (rest (.plain ')') start).advances _ _ _ _ read (.refl _)
        exact absurd rfl (within.sooner leads).rest
    | cons piece pieces =>
        cases taken
        have shorter := from_.length_le
        exact (rest piece ⟨pieces, flags, allScripts, groups, names, before,
          conditions⟩).simulates ⟨holds, Nat.lt_of_succ_le shorter⟩ _ (.refl _)
          value after read within

theorem ite (first : frame.Follows related start act source target)
    (second : frame.Follows related start act source' target') :
    frame.Follows related start act (if condition then source else source')
      (if condition then target else target') := by
  split
  · exact first
  · exact second

theorem get_bind {next next' : ReaderState → Reading α}
    (advances : ∀ origin, (get >>= next).Advances origin)
    (rest : related → ∀ own, Leads start own →
      frame.Simulates act own (next (far.place own)) (next' (frame.place own))) :
    frame.Follows related start act (get >>= next) (get >>= next') where
  advances := advances
  simulates := rest

/-- A reader may look at what a state holds of its expression. -/
theorem look_bind (project : ReaderState → α) {next next' : α → Reading β}
    (pairs : ∀ own, frame.Pairs act (project (far.place own)) (project (frame.place own)))
    (rest : ∀ value value', frame.Follows (related ∧ frame.Pairs act value value') start act'
      (next value) (next' value')) :
    frame.Follows related start act' (get >>= fun state => next (project state))
      (get >>= fun state => next' (project state)) where
  advances _ := .bind .get fun state => (rest (project state) (project state)).advances _
  simulates holds own := (rest _ _).simulates ⟨holds, pairs own⟩ own

/-- It is enough to follow where the values before it are those of one expression. -/
theorem intro (advances : ∀ origin, source.Advances origin)
    (rest : related → frame.Follows related start act source target) :
    frame.Follows related start act source target where
  advances := advances
  simulates holds := (rest holds).simulates holds

/-- Where an expression ends, a reader that looks ahead sees a parenthesis or nothing. -/
theorem peek_bind {next next' : Option Piece → Reading α}
    (none : ∀ origin, (next none).Advances origin)
    (ended : ∀ piece, piece = Option.none ∨ piece = some (.plain ')') →
      frame.Follows related start act (next (some (.plain ')'))) (next' piece))
    (rest : ∀ piece, frame.Follows related start act (next (some piece)) (next' (some piece))) :
    frame.Follows related start act (peek >>= next) (peek >>= next') where
  advances _ := .bind peek_keeps fun piece =>
    match piece with
    | .none => none _
    | some piece => (rest piece).advances _
  simulates holds own from_ := by
    rcases own with ⟨pieces, flags, allScripts, groups, names, before, conditions⟩
    cases pieces with
    | nil =>
        refine (ended frame.tail.head? ?_).simulates holds _ from_
        cases next : frame.tail.head? with
        | none => exact .inl rfl
        | some piece => exact .inr (by rw [frame.closes piece next])
    | cons piece pieces => exact (rest piece).simulates holds _ from_

/-- A reader that only consumes pieces. -/
theorem of_reads (advances : ∀ origin, source.Advances origin)
    (same : ∀ own value after, source.Reads (far.place own) value after → after.Within →
      ∃ rest, after = far.place { own with rest } ∧
        target.Reads (frame.place own) value (frame.place { own with rest })) :
    frame.Follows related start fixed source target where
  advances := advances
  simulates _ own _ := simulates_of_reads (same own)

end Follows

end Frame

/-! ## Pieces -/

section Pieces

variable {frame : Frame} {related : Prop} {start : ReaderState}

/-- Where an expression has ended, a reader sees nothing but a parenthesis. -/
theorem head?_of_closes {rest : List Piece} (closes : Closes rest) :
    rest = [] ∨ ∃ more, rest = .plain ')' :: more := by
  cases rest with
  | nil => exact .inl rfl
  | cons piece more => exact .inr ⟨more, by rw [closes piece rfl]⟩

theorem take_follows : frame.Follows related start fixed take take :=
  .of_reads (fun _ => take_keeps) fun own value after read within => by
    rcases own with ⟨rest, flags, allScripts, groups, names, before, conditions⟩
    cases rest with
    | nil =>
        cases read
        exact absurd rfl within.rest
    | cons piece rest =>
        cases read
        exact ⟨rest, rfl, rfl⟩

/-- Where an expression has ended, what follows is at most a parenthesis. -/
theorem closes_place (frame : Frame) {own : ReaderState} (ended : own.rest = []) :
    Closes (frame.place own).rest := by
  simpa [Frame.place, ended] using frame.closes

/-- A character is accepted, or not, whatever follows the expression, unless it may be a part of
what follows. -/
theorem accept_place (c : Char) (own : ReaderState) (other : c ≠ ')' ∨ own.rest ≠ []) :
    ∃ accepted rest, ∀ frame : Frame,
      (accept c).Reads (frame.place own) accepted (frame.place { own with rest }) := by
  rcases own with ⟨rest, flags, allScripts, groups, names, before, conditions⟩
  cases rest with
  | nil =>
      refine ⟨false, [], fun frame => accept_reads_other fun here => ?_⟩
      exact other.resolve_right (by simp) (Piece.plain.inj (closes_place frame rfl _ here))
  | cons piece rest =>
      by_cases same : piece = .plain c
      · subst same
        exact ⟨true, rest, fun frame => accept_reads rfl⟩
      · exact ⟨false, piece :: rest, fun frame =>
          accept_reads_other (by simpa [Frame.place] using same)⟩

theorem accept_follows (c : Char) : frame.Follows related start fixed (accept c) (accept c) :=
  .of_reads (fun _ => accept_keeps c) fun own value after read within => by
    by_cases beyond : c = ')' ∧ own.rest = []
    · rcases beyond with ⟨rfl, ended⟩
      have here : (far.place own).rest = .plain ')' :: [] := by simp [Frame.place, ended, far]
      rcases Reading.reads_unique read (accept_reads here) with ⟨_, rfl⟩
      exact absurd rfl within.rest
    · rcases accept_place c own (not_and_or.mp beyond) with ⟨accepted, rest, each⟩
      rcases Reading.reads_unique read (each far) with ⟨rfl, rfl⟩
      exact ⟨rest, rfl, each frame⟩

theorem demand_follows (c : Char) : frame.Follows related start fixed (demand c) (demand c) :=
  .bind_fixed (accept_follows c) fun _ => .ite (.pure_fixed _) .refuse

/-- The characters that pass at the beginning of some pieces, at most `count` of them, and the
pieces after them. -/
def passed (passes : Char → Bool) : Nat → List Piece → List Char × List Piece
  | count + 1, .plain c :: rest =>
    if passes c then
      let (chars, left) := passed passes count rest
      (c :: chars, left)
    else ([], .plain c :: rest)
  | _, rest => ([], rest)

theorem takeSome_reads (passes : Char → Bool) (count : Nat) : ∀ state : ReaderState,
    (takeSome passes count).Reads state (passed passes count state.rest).1
      { state with rest := (passed passes count state.rest).2 } := by
  induction count with
  | zero => exact fun state => rfl
  | succ count ih =>
      rintro ⟨rest, flags, allScripts, groups, names, before, conditions⟩
      simp only [takeSome, Reading.reads_bind, Reading.reads_get]
      refine ⟨_, _, ⟨rfl, rfl⟩, ?_⟩
      rcases rest with _ | ⟨c | c | _, rest⟩
      · exact Reading.reads_pure.mpr ⟨rfl, rfl⟩
      · cases passes_c : passes c with
        | false => simp [passed, passes_c]
        | true =>
            simp only [passed, passes_c, if_true, Reading.reads_bind]
            exact ⟨_, _, rfl, _, _,
              ih ⟨rest, flags, allScripts, groups, names, before, conditions⟩,
              Reading.reads_pure.mpr ⟨rfl, rfl⟩⟩
      · exact Reading.reads_pure.mpr ⟨rfl, rfl⟩
      · exact Reading.reads_pure.mpr ⟨rfl, rfl⟩

/-- What follows an expression is not taken if a parenthesis does not pass. Induction on the
expression. -/
theorem passed_append {passes : Char → Bool} (fails : passes ')' = false) {tail : List Piece}
    (closes : Closes tail) (rest : List Piece) : ∀ {count count' : Nat},
    (count = count' ∨ rest.length ≤ count ∧ rest.length ≤ count') →
      passed passes count (rest ++ tail) =
        ((passed passes count' rest).1, (passed passes count' rest).2 ++ tail) := by
  induction rest with
  | nil =>
      intro count count' _
      rcases head?_of_closes closes with rfl | ⟨more, rfl⟩ <;> cases count <;> cases count' <;>
        simp [passed, fails]
  | cons piece rest ih =>
      intro count count' enough
      rcases count with _ | count <;> rcases count' with _ | count'
      · simp [passed]
      · simp at enough
      · simp at enough
      · have enough' : count = count' ∨ rest.length ≤ count ∧ rest.length ≤ count' := by
          simpa using enough
        rcases piece with c | c | _
        · simp only [List.cons_append, passed, ih enough']
          split <;> rfl
        · simp [passed]
        · simp [passed]

theorem of_mem_passed {passes : Char → Bool} {rest : List Piece} {c : Char} : ∀ {count : Nat},
    c ∈ (passed passes count rest).1 → passes c = true := by
  induction rest with
  | nil => exact fun {count} member => by cases count <;> simp [passed] at member
  | cons piece rest ih =>
      intro count member
      rcases count with _ | count
      · simp [passed] at member
      · rcases piece with d | d | _
        · rw [passed] at member
          split at member
          next passes_d =>
            rcases List.mem_cons.mp member with rfl | member
            · exact passes_d
            · exact ih member
          next => cases member
        · simp [passed] at member
        · simp [passed] at member

theorem takeSome_place {passes : Char → Bool} (fails : passes ')' = false) (frame : Frame)
    {own : ReaderState} {count count' : Nat}
    (enough : count = count' ∨ own.rest.length ≤ count ∧ own.rest.length ≤ count') :
    (takeSome passes count).Reads (frame.place own) (passed passes count' own.rest).1
      (frame.place { own with rest := (passed passes count' own.rest).2 }) := by
  have reads := takeSome_reads passes count (frame.place own)
  have same := passed_append fails frame.closes own.rest enough
  rw [show (frame.place own).rest = own.rest ++ frame.tail from rfl, same] at reads
  exact reads

theorem takeSome_simulates {passes : Char → Bool} (fails : passes ')' = false) {own : ReaderState}
    {count count' : Nat}
    (enough : count = count' ∨ own.rest.length ≤ count ∧ own.rest.length ≤ count') :
    frame.Simulates fixed own (takeSome passes count) (takeSome passes count') :=
  Frame.simulates_of_reads fun value after read _ => by
    rcases Reading.reads_unique read (takeSome_place fails far enough) with ⟨rfl, rfl⟩
    exact ⟨_, rfl, takeSome_place fails frame (.inl rfl)⟩

theorem takeSome_follows {passes : Char → Bool} (fails : passes ')' = false) (count : Nat) :
    frame.Follows related start fixed (takeSome passes count) (takeSome passes count) where
  advances _ := takeSome_keeps passes count
  simulates _ _ _ := takeSome_simulates fails (.inl rfl)

/-- What stops before the end of an expression stops there in any frame. -/
theorem splitAtStop_append {stop : Char} {rest tail after : List Piece} : ∀ {before : List Char},
    splitAtStop stop (rest ++ tail) = some (before, after) →
      (∃ left, after = left ++ tail ∧
        ∀ tail', splitAtStop stop (rest ++ tail') = some (before, left ++ tail')) ∨
      ∃ before', splitAtStop stop tail = some (before', after) := by
  induction rest with
  | nil => exact fun split => .inr ⟨_, split⟩
  | cons piece rest ih =>
      intro before split
      rw [List.cons_append, splitAtStop] at split
      split at split
      next stops =>
        cases split
        exact .inl ⟨rest, rfl, fun tail' => by simp [splitAtStop, stops]⟩
      next goes =>
        rcases Option.map_eq_some_iff.mp split with ⟨⟨before', after'⟩, split, same⟩
        cases same
        rcases ih split with ⟨left, rfl, each⟩ | beyond
        · exact .inl ⟨left, rfl, fun tail' => by simp [splitAtStop, goes, each]⟩
        · exact .inr beyond

/-- Beyond the end of an expression that is far behind other groups nothing is left. -/
theorem eq_nil_of_splitAtStop_far {stop : Char} {before : List Char} {after : List Piece}
    (split : splitAtStop stop far.tail = some (before, after)) : after = [] := by
  have shorter := suffix_of_splitAtStop split
  unfold far splitAtStop at split
  split at split
  · cases split
    rfl
  · cases split

theorem takeName_follows (stop : Char) :
    frame.Follows related start fixed (takeName stop) (takeName stop) :=
  .of_reads (fun _ => takeName_keeps stop) fun own value after read within => by
    simp only [takeName, Reading.reads_bind, Reading.reads_get] at read
    rcases read with ⟨_, _, ⟨rfl, rfl⟩, read⟩
    split at read
    next => exact absurd read Reading.not_reads_refuse
    next name rest split =>
      rcases splitAtStop_append split with ⟨left, rfl, each⟩ | ⟨_, beyond⟩
      · cases blank : name.isEmpty with
        | true => simp [blank] at read
        | false =>
            simp only [blank] at read
            cases read
            refine ⟨left, rfl, ?_⟩
            simp only [takeName, Reading.reads_bind, Reading.reads_get]
            refine ⟨_, _, ⟨rfl, rfl⟩, ?_⟩
            simp only [Frame.place, each, blank]
            rfl
      · rcases eq_nil_of_splitAtStop_far beyond with rfl
        cases blank : name.isEmpty with
        | true => simp [blank] at read
        | false =>
            simp only [blank] at read
            cases read
            exact absurd rfl within.rest

theorem takeIdentifier_follows (stop : Char) :
    frame.Follows related start fixed (takeIdentifier stop) (takeIdentifier stop) :=
  .bind_fixed (takeName_follows stop) fun _ => .ite (.pure_fixed _) .refuse_bind

theorem takeHexCode_follows (count : Nat) :
    frame.Follows related start fixed (takeHexCode count) (takeHexCode count) := by
  refine .bind_fixed (takeSome_follows (by decide) count) fun digits => .ite .refuse_bind ?_
  exact .ite .refuse_bind (.pure_fixed _)

theorem readClassEscape_follows (c : Char) :
    frame.Follows related start fixed (readClassEscape c) (readClassEscape c) := by
  unfold readClassEscape
  repeat' first
    | exact .pure_fixed _
    | exact .refuse_bind
    | exact .bind_fixed (takeHexCode_follows _) fun _ => .pure_fixed _
    | refine .bind_fixed (takeSome_follows (by decide) _) fun _ => ?_
    | refine .ite ?_ ?_
    | split

theorem readMember_follows (piece : Piece) :
    frame.Follows related start fixed (readMember piece) (readMember piece) := by
  cases piece with
  | plain c => exact .pure_fixed _
  | escaped c => exact readClassEscape_follows c
  | dangling => exact .refuse

/-- The members of a class are read if the bound allows for the pieces that are left. Induction on
the bound far behind other groups. -/
theorem readMembers_follows (bound : Nat) :
    ∀ {related : Prop} {start : ReaderState} {bound' : Nat} (isFirst : Bool),
      (related → start.rest.length < bound') →
        frame.Follows related start fixed (readMembers isFirst bound)
          (readMembers isFirst bound') := by
  induction bound with
  | zero => exact fun _ _ => .refuse
  | succ bound ih =>
      intro related start bound' isFirst enough
      cases bound' with
      | zero =>
          exact ⟨fun _ => readMembers_keeps _ _,
            fun holds => absurd (enough holds) (Nat.not_lt_zero _)⟩
      | succ bound' =>
          refine .take_bind (fun _ => .refuse) fun piece later => ?_
          have enough' (holds : related ∧ later.rest.length < start.rest.length) :
              later.rest.length < bound' :=
            Nat.lt_of_lt_of_le holds.2 (Nat.le_of_lt_succ (enough holds.1))
          refine .ite (.pure_fixed _) (.bind_fixed (readMember_follows _) fun first => ?_)
          refine .bind_fixed (accept_follows _) fun ranged => .ite ?_
            (.bind_fixed (ih _ enough') fun _ => .pure_fixed _)
          refine .take_bind (fun _ => .refuse) fun last later' => ?_
          refine .ite (.pure_fixed _) (.bind_fixed (readMember_follows _) fun last => ?_)
          split
          · refine .ite .refuse_bind (.bind_fixed (ih _ fun holds => ?_) fun _ => .pure_fixed _)
            exact Nat.lt_trans holds.2 (enough' holds.1)
          · exact .refuse

/-- The length of what is left when a reader begins bounds what it may consume. -/
theorem length_lt_bound (own : ReaderState) :
    own.rest.length < (frame.place own).rest.length + 1 := by
  simp only [Frame.place, List.length_append]
  omega

theorem readClass_follows : frame.Follows related start Regex.shift readClass readClass := by
  refine .bind_fixed (accept_follows '^') fun negated => .get_bind ?_ fun _ own _ => ?_
  · exact fun _ => .bind .get fun _ => .bind (readMembers_keeps _ _) fun _ => .pure _
  · have members : frame.Follows True own Regex.shift
        (do return .class negated (← readMembers true ((far.place own).rest.length + 1)))
        (do return .class negated (← readMembers true ((frame.place own).rest.length + 1))) :=
      .bind_fixed (readMembers_follows _ true fun _ => length_lt_bound own) fun items =>
        .pure fun _ => ⟨.class negated items, rfl, rfl⟩
    exact members.simulates trivial own (.refl _)

theorem takeAll_place (passes : Char → Bool) (fails : passes ')' = false) (own : ReaderState) :
    ∃ chars rest, ∀ frame : Frame,
      (takeAll passes).Reads (frame.place own) chars (frame.place { own with rest }) :=
  ⟨(passed passes own.rest.length own.rest).1, (passed passes own.rest.length own.rest).2,
    fun frame => (Reading.reads_bind_of Reading.reads_get_self).mpr
      (takeSome_place fails frame (.inr ⟨by simp [Frame.place], Nat.le_refl _⟩))⟩

/-- What comes next is not a brace if the expression has ended. -/
theorem head?_place {c : Char} (other : c ≠ ')') (frame : Frame) (own : ReaderState) :
    ((frame.place own).rest.head? == some (.plain c)) = (own.rest.head? == some (.plain c)) := by
  rcases own with ⟨rest, flags, allScripts, groups, names, before, conditions⟩
  cases rest with
  | nil =>
      rcases head?_of_closes frame.closes with ended | ⟨more, next⟩
      · simp [Frame.place, ended]
      · simpa [Frame.place, next] using Ne.symm other
  | cons piece rest => rfl

/-- The end of the bounds of a repetition that begins at `own`. -/
def closeBounds (own : ReaderState) (low high : List Char) : Reading
    (Option (Nat × Option Nat)) := do
  if ← accept '\x7d' then
    let least := codeOf 10 low
    let most := if high.isEmpty then none else some (codeOf 10 high)
    if least ≥ repeatLimit || most.any (· ≥ repeatLimit) then throw .repeatTooLarge
    if most.any (· < least) then refuse
    return some (least, most)
  else
    set own
    return none

theorem closeBounds_place {own : ReaderState} {left : List Piece} {low high : List Char}
    {value : Option (Nat × Option Nat)} {after : ReaderState}
    (read : (closeBounds (far.place own) low high).Reads (far.place { own with rest := left }) value
      after) :
    ∃ rest, after = far.place { own with rest } ∧ ∀ frame : Frame,
      (closeBounds (frame.place own) low high).Reads (frame.place { own with rest := left }) value
        (frame.place { own with rest }) := by
  rcases accept_place '\x7d' { own with rest := left } (.inl (by decide)) with
    ⟨closed, rest, closes⟩
  simp only [closeBounds, Reading.reads_bind_of (closes far)] at read
  simp only [closeBounds, Reading.reads_bind_of (closes _)]
  cases closed with
  | false =>
      simp only [Bool.false_eq_true, if_false] at read ⊢
      cases read
      exact ⟨own.rest, rfl, fun frame => rfl⟩
  | true =>
      simp only [if_true] at read ⊢
      generalize (if high.isEmpty then none else some (codeOf 10 high)) = most at read ⊢
      refine ⟨rest, ?_⟩
      split at read
      next => exact absurd (Reading.reads_bind.mp read) (by simp)
      next small =>
        split at read
        next => exact absurd (Reading.reads_bind.mp read) (by simp)
        next ordered =>
          rcases Reading.reads_pure.mp read with ⟨rfl, rfl⟩
          refine ⟨rfl, fun frame => ?_⟩
          rw [if_neg small, if_neg ordered]
          rfl

/-- The bounds of a repetition are read, or not, whatever follows the expression. -/
theorem readBounds_place {own : ReaderState} {value : Option (Nat × Option Nat)}
    {after : ReaderState} (read : readBounds.Reads (far.place own) value after) :
    ∃ rest, after = far.place { own with rest } ∧ ∀ frame : Frame,
      readBounds.Reads (frame.place own) value (frame.place { own with rest }) := by
  have unfolded (frame : Frame) : readBounds.Reads (frame.place own) = Reading.Reads (do
      if (frame.place own).rest.head? == some (.plain '\x7d') then return none
      let low ← takeAll Char.isDigit
      if ← accept ',' then
        let high ← takeAll Char.isDigit
        closeBounds (frame.place own) low high
      else closeBounds (frame.place own) low low) (frame.place own) := rfl
  rw [unfolded] at read
  simp only [unfolded, head?_place (c := '\x7d') (by decide)] at read ⊢
  by_cases closed : (own.rest.head? == some (.plain '\x7d')) = true
  · simp only [closed, if_true] at read ⊢
    rcases Reading.reads_pure.mp read with ⟨rfl, rfl⟩
    exact ⟨own.rest, rfl, fun frame => Reading.reads_pure.mpr ⟨rfl, rfl⟩⟩
  · simp only [closed] at read ⊢
    rcases takeAll_place Char.isDigit (by decide) own with ⟨low, rest, lows⟩
    rcases accept_place ',' { own with rest } (.inl (by decide)) with ⟨parted, rest', parts⟩
    simp only [Bool.false_eq_true, if_false, Reading.reads_bind_of (lows _),
      Reading.reads_bind_of (parts _)] at read ⊢
    cases parted with
    | true =>
        rcases takeAll_place Char.isDigit (by decide) { own with rest := rest' } with
          ⟨high, rest'', highs⟩
        simp only [if_true, Reading.reads_bind_of (highs _)] at read ⊢
        exact closeBounds_place read
    | false =>
        simp only [Bool.false_eq_true, if_false] at read ⊢
        exact closeBounds_place read

theorem readBounds_follows : frame.Follows related start fixed readBounds readBounds :=
  .of_reads (fun _ => readBounds_keeps) fun own value after read _ => by
    rcases readBounds_place read with ⟨rest, same, each⟩
    exact ⟨rest, same, each frame⟩

theorem readFlagsOff_follows (bound : Nat) :
    ∀ {related : Prop} {start : ReaderState} {bound' : Nat} (off : RegexFlags),
      (related → start.rest.length < bound') →
        frame.Follows related start fixed (readFlagsOff off bound) (readFlagsOff off bound') := by
  induction bound with
  | zero => exact fun _ _ => .refuse
  | succ bound ih =>
      intro related start bound' off enough
      cases bound' with
      | zero =>
          exact ⟨fun _ => readFlagsOff_keeps _ _,
            fun holds => absurd (enough holds) (Nat.not_lt_zero _)⟩
      | succ bound' =>
          refine .take_bind (fun _ => .refuse) fun piece later => ?_
          have enough' (holds : related ∧ later.rest.length < start.rest.length) :
              later.rest.length < bound' :=
            Nat.lt_of_lt_of_le holds.2 (Nat.le_of_lt_succ (enough holds.1))
          have rest (off : RegexFlags) :
              frame.Follows (related ∧ later.rest.length < start.rest.length) later fixed
                (do if ← accept ':' then return off else readFlagsOff off bound)
                (do if ← accept ':' then return off else readFlagsOff off bound') :=
            .bind_fixed (accept_follows _) fun _ => .ite (.pure_fixed _) (ih _ enough')
          rcases piece with c | c | _
          · dsimp only
            split
            · exact .ite .refuse_bind (rest _)
            · exact .refuse
          · exact .refuse
          · exact .refuse

/-- What follows a letter that switches a flag on, with `more` for further letters. -/
def afterLetter (change : FlagChange) (more : Char → Reading (FlagChange × Bool)) :
    Reading (FlagChange × Bool) := do
  if change.allScripts && change.on.ascii then refuse
  match ← take with
  | some (.plain ')') => return (change, true)
  | some (.plain ':') => return (change, false)
  | some (.plain '-') =>
    let off ← readFlagsOff {} ((← get).rest.length + 1)
    if change.on.without off != change.on then refuse
    return ({ change with off }, false)
  | some (.plain c) => more c
  | _ => refuse

theorem afterLetter_follows (change : FlagChange)
    {more more' : Char → Reading (FlagChange × Bool)}
    (each : ∀ c later, frame.Follows (related ∧
      later.rest.length < start.rest.length) later fixed
      (more c) (more' c)) :
    frame.Follows related start fixed (afterLetter change more) (afterLetter change more') := by
  have off {related : Prop} {start : ReaderState} :
      frame.Follows related start fixed
        (do
          let off ← readFlagsOff {} ((← get).rest.length + 1)
          if change.on.without off != change.on then refuse
          return ({ change with off }, false))
        (do
          let off ← readFlagsOff {} ((← get).rest.length + 1)
          if change.on.without off != change.on then refuse
          return ({ change with off }, false)) := by
    refine .get_bind ?_ fun _ own _ => ?_
    · exact fun _ => .bind .get fun _ => .bind (readFlagsOff_keeps _ _) fun _ =>
        .ite (.bind .refuse fun _ => .pure _) (.pure _)
    · have rest : frame.Follows True own fixed
          (do
            let off ← readFlagsOff {} ((far.place own).rest.length + 1)
            if change.on.without off != change.on then refuse
            return ({ change with off }, false))
          (do
            let off ← readFlagsOff {} ((frame.place own).rest.length + 1)
            if change.on.without off != change.on then refuse
            return ({ change with off }, false)) :=
        .bind_fixed (readFlagsOff_follows _ _ fun _ => length_lt_bound own) fun _ =>
          .ite .refuse_bind (.pure_fixed _)
      exact rest.simulates trivial own (.refl _)
  refine .ite .refuse_bind (.take_bind (fun _ => .refuse) fun piece later => ?_)
  split
  · exact .pure_fixed _
  · exact .pure_fixed _
  · exact off
  · exact each _ later
  · exact .refuse

theorem readFlagsOn_follows (bound : Nat) :
    ∀ {related : Prop} {start : ReaderState} {bound' : Nat} (change : FlagChange) (c : Char),
      (related → start.rest.length < bound') →
        frame.Follows related start fixed (readFlagsOn change c bound)
          (readFlagsOn change c bound') := by
  induction bound with
  | zero => exact fun _ _ _ => .refuse
  | succ bound ih =>
      intro related start bound' change c enough
      cases bound' with
      | zero =>
          exact ⟨fun _ => readFlagsOn_keeps _ _ _,
            fun holds => absurd (enough holds) (Nat.not_lt_zero _)⟩
      | succ bound' =>
          have rest (change : FlagChange) : frame.Follows related start fixed
              (afterLetter change fun c => readFlagsOn change c bound)
              (afterLetter change fun c => readFlagsOn change c bound') :=
            afterLetter_follows change fun c later => ih change c fun holds =>
              Nat.lt_of_lt_of_le holds.2 (Nat.le_of_lt_succ (enough holds.1))
          refine .ite (.bind_fixed (.pure_fixed _) rest) ?_
          split
          · exact .bind_fixed (.pure_fixed _) rest
          · exact .refuse_bind

theorem readFlags_follows (c : Char) :
    frame.Follows related start fixed (readFlags c) (readFlags c) := by
  refine .get_bind (fun _ => readFlags_keeps c) fun _ own _ => ?_
  have flags : frame.Follows True own fixed
      (do
        if c == '-' then
          let off ← readFlagsOff {} ((far.place own).rest.length + 1)
          return ({ off }, false)
        else readFlagsOn {} c ((far.place own).rest.length + 1))
      (do
        if c == '-' then
          let off ← readFlagsOff {} ((frame.place own).rest.length + 1)
          return ({ off }, false)
        else readFlagsOn {} c ((frame.place own).rest.length + 1)) :=
    .ite (.bind_fixed (readFlagsOff_follows _ _ fun _ => length_lt_bound own) fun _ =>
      .pure_fixed _) (readFlagsOn_follows _ _ _ fun _ => length_lt_bound own)
  exact flags.simulates trivial own (.refl _)

theorem skipComment_follows : frame.Follows related start fixed skipComment skipComment :=
  .of_reads (fun _ => skipComment_keeps) fun own value after read within => by
    simp only [skipComment, Reading.reads_bind_of Reading.reads_get_self] at read ⊢
    split at read
    next => exact absurd read Reading.not_reads_refuse
    next split =>
      rcases splitAtStop_append split with ⟨left, rfl, each⟩ | ⟨_, beyond⟩
      · cases read
        refine ⟨left, rfl, ?_⟩
        simp only [Frame.place, each]
        rfl
      · rcases eq_nil_of_splitAtStop_far beyond with rfl
        cases read
        exact absurd rfl within.rest

theorem skipLine_follows : frame.Follows related start fixed skipLine skipLine :=
  .of_reads (fun _ => skipLine_keeps) fun own value after read within => by
    simp only [skipLine, Reading.reads_bind_of Reading.reads_get_self, Frame.place,
      List.dropWhile_append] at read ⊢
    cases left : own.rest.dropWhile (· != .plain '\n') with
    | nil =>
        -- without a line break of its own a comment takes up the parenthesis as well
        simp only [left, List.isEmpty_nil, if_true] at read
        split at read
        next => exact absurd (Reading.reads_bind.mp read) (by simp)
        next =>
          cases read
          exact absurd rfl within.rest
    | cons piece rest =>
        simp only [left, List.isEmpty_cons, Bool.false_eq_true, if_false, List.cons_append,
          Bool.false_and, List.drop_succ_cons, List.drop_zero] at read ⊢
        cases read
        exact ⟨rest, rfl, rfl⟩

theorem readGreed_follows : frame.Follows related start fixed readGreed readGreed :=
  .bind_fixed (accept_follows _) fun _ => .ite (.pure_fixed _)
    (.bind_fixed (accept_follows _) fun _ => .ite (.pure_fixed _) (.pure_fixed _))

theorem readNegation_follows : frame.Follows related start fixed readNegation readNegation :=
  .bind_fixed (accept_follows _) fun _ => .ite (.pure_fixed _)
    (.bind_fixed (demand_follows _) fun _ => .pure_fixed _)

end Pieces

end Lalr.Regex
