import Lalr.Proofs.Regex.Embedding

/-!
# Portable expressions

An expression is portable if it means by itself what it means as a part of a longer one: it refers
to no group by a number, it sets no flags for the whole of an expression, and no comment runs into
what follows it. This is decided by reading it far behind other groups and before a parenthesis.
What a portable expression is read as by itself can then be found again wherever it stands.
-/

namespace Lalr.Regex

open Lalr.Regex.Frame (far)

/-- The state of a reader of an expression that nothing is around. -/
def ReaderState.start (rest : List Piece) : ReaderState := { rest, flags := {} }

/-- Whether an expression can be read far behind other groups, without asking for any of them, up to
the parenthesis after it, where no look-behind is going on. -/
def isPortable (flags : RegexFlags) (text : String) : Bool :=
  match (readChoice flags.verbose true true (3 * (pieces text.toList).length + 4)).run
      { ReaderState.start (pieces (text.toList ++ [')'])) with groups := far.groups } with
  | .ok (_, state) =>
    state.rest == [.plain ')'] && state.conditions.isEmpty && state.groupsBeforeLookBehind.isNone
  | .error _ => false

theorem exists_of_isPortable {flags : RegexFlags} {text : String}
    (portable : isPortable flags text = true) : ∃ regex after,
      (readChoice flags.verbose true true (3 * (pieces text.toList).length + 4)).Reads
        { ReaderState.start (pieces (text.toList ++ [')'])) with groups := far.groups }
        regex after ∧
      after.rest = [.plain ')'] ∧ after.conditions = [] ∧
        after.groupsBeforeLookBehind = none := by
  unfold isPortable at portable
  split at portable
  next regex after read =>
    simp only [Bool.and_eq_true, beq_iff_eq, List.isEmpty_iff, Option.isNone_iff_eq_none,
      and_assoc] at portable
    exact ⟨regex, after, read, portable⟩
  next => cases portable

/-- The regular expression of a literal is portable. -/
theorem isPortable_of_literal {pattern : Pattern} (literal : pattern.kind = .literal)
    (flags : RegexFlags) : isPortable flags pattern.expression = true := by
  rcases readChoice_row (readsRow_pattern literal) (closes_bracket [])
      flags.verbose true true
      (show _ < 3 * (pieces pattern.expression.toList).length + 4 by omega)
      { ReaderState.start [] with groups := far.groups } with
    ⟨regex, _, _, read⟩
  unfold Reading.Reads at read
  simp only [isPortable, ReaderState.start] at read ⊢
  rw [read]
  rfl

theorem pieces_ne_nil {chars : List Char} (some_ : chars ≠ []) : pieces chars ≠ [] := by
  fun_cases pieces chars with
  | case1 => exact absurd rfl some_
  | case2 => simp
  | case3 => simp
  | case4 => simp

/-- A text whose pieces end in a parenthesis that is put after it does not end in a backslash.
Induction on the text as it is cut into pieces. -/
theorem pieces_append (chars : List Char) : ∀ {core : List Piece},
    pieces (chars ++ [')']) = core ++ [.plain ')'] →
      ∀ tail, pieces (chars ++ tail) = pieces chars ++ pieces tail := by
  induction chars using pieces.induct with
  | case1 => exact fun _ _ => rfl
  | case2 c rest ih =>
      intro core ends tail
      cases core with
      | nil => cases ends
      | cons piece core => exact congrArg _ (ih (List.tail_eq_of_cons_eq ends) tail)
  | case3 c rest notPair backslash =>
      -- a backslash at the very end would escape the parenthesis
      intro core ends tail
      rcases beq_iff_eq.mp backslash with rfl
      cases rest with
      | nil => exact absurd (congrArg List.getLast? ends) (by simp [pieces])
      | cons d rest => exact absurd rfl (notPair d rest rfl)
  | case4 c rest notPair plain ih =>
      intro core ends tail
      have plain' : c ≠ '\\' := by simpa using plain
      rw [List.cons_append, pieces_cons plain'] at ends ⊢
      rw [pieces_cons plain']
      cases core with
      | nil => exact absurd (List.tail_eq_of_cons_eq ends) (pieces_ne_nil (by simp))
      | cons piece core => exact congrArg _ (ih (List.tail_eq_of_cons_eq ends) tail)

/-- What a portable expression is by itself, and the state of a reader that has read it where
nothing is around it. -/
structure Alone (flags : RegexFlags) (text : String) (regex : Regex)
    (own : ReaderState) : Prop where
  ended : own.rest = []
  ahead : own.groupsBeforeLookBehind = none
  pieces : ∀ tail, pieces (text.toList ++ tail) = pieces text.toList ++ pieces tail
  numbered : ∀ entry ∈ own.names, 0 < entry.2 ∧ entry.2 ≤ own.groups.length
  distinct : (own.names.map (·.1)).Nodup
  reads : ∀ (frame : Frame) (nested isFirst : Bool) (bound : Nat),
    3 * (Regex.pieces text.toList).length + 4 ≤ bound →
    nested = true ∨ frame.flags.verbose = flags.verbose → frame.Apart own →
    (readChoice flags.verbose nested isFirst bound).Reads
      (frame.place (.start (Regex.pieces text.toList))) (regex.shift frame.offset)
      (frame.place own)
  fails : ∀ (frame : Frame) (nested isFirst : Bool) (bound : Nat),
    3 * (Regex.pieces text.toList).length + 4 ≤ bound →
    nested = true ∨ frame.flags.verbose = flags.verbose → ¬frame.Apart own →
    (readChoice flags.verbose nested isFirst bound).Fails
      (frame.place (.start (Regex.pieces text.toList)))

theorem place_start_far (rest : List Piece) :
    far.place (.start rest) =
      { ReaderState.start (rest ++ [.plain ')']) with groups := far.groups } := by
  simp [Frame.place, far, ReaderState.start]

/-- States that look the same in one frame look the same in all of them. -/
theorem place_congr {frame : Frame} {own own' : ReaderState}
    (same : frame.place own = frame.place own') (other : Frame) :
    other.place own = other.place own' ∧ own.names = own'.names := by
  have rest := List.append_cancel_right (congrArg ReaderState.rest same)
  have groups := List.append_cancel_left (congrArg ReaderState.groups same)
  have names := List.append_cancel_left (congrArg ReaderState.names same)
  have behind := congrArg ReaderState.groupsBeforeLookBehind same
  have raise : Function.Injective fun entry : String × Nat =>
      (entry.1, entry.2 + frame.offset) := by
    rintro ⟨name, index⟩ ⟨name', index'⟩ same
    simpa using same
  have names := List.map_injective_iff.mpr raise names
  have behind := Option.map_injective (fun _ _ => Nat.add_right_cancel) behind
  simp only [Frame.place, rest, groups, names, behind, and_self]

theorem exists_alone {flags : RegexFlags} {text : String}
    (portable : isPortable flags text = true) :
    ∃ regex own, Alone flags text regex own := by
  rcases exists_of_isPortable portable with ⟨_, after, read, ended, unasked, ahead⟩
  have leads := (readGroups_advances _).1 _ _ _ _ _ _ read (.refl _)
  rcases leads.rest with ⟨core, ends⟩
  rw [ended] at ends
  have append := pieces_append text.toList ends.symm
  rw [append [')'], show pieces [')'] = [.plain ')'] from rfl, ← place_start_far] at read leads
  have within : after.Within := ⟨by simp [ended], unasked⟩
  have follows (frame : Frame) (nested isFirst : Bool) {bound : Nat}
      (enough : 3 * (pieces text.toList).length + 4 ≤ bound)
      (same : nested = true ∨ frame.flags.verbose = flags.verbose) :=
    ((readGroups_follows _).1 flags.verbose true nested isFirst enough same).simulates
      trivial (.start (pieces text.toList)) (.refl _) _ _ read within
  rcases follows far true true (Nat.le_refl _) (.inl rfl) with ⟨regex, own, rfl, rfl, _⟩
  refine ⟨regex, own, ?_, Option.map_eq_none_iff.mp ahead, append,
    fun entry member => ?_, ?_, ?_, ?_⟩
  · have alone : own.rest ++ [.plain ')'] = [] ++ [.plain ')'] := ended
    exact List.append_cancel_right alone
  · rcases leads.names with ⟨opened, names, each⟩
    have member' : (entry.1, entry.2 + far.offset) ∈ (far.place own).names :=
      List.mem_append_right _ (List.mem_map_of_mem member)
    rw [names] at member'
    rcases each _ ((List.mem_append.mp member').resolve_left nofun) with ⟨_, above, below⟩
    simp only [Frame.place, List.length_append, Frame.offset] at above below
    omega
  · have distinct := leads.distinct (by simp [Frame.place, far, ReaderState.start])
    simpa [Frame.place, far, Function.comp_def] using distinct
  · intro frame nested isFirst bound enough same apart
    rcases follows frame nested isFirst enough same with
      ⟨regex', own', shifted, placed, reads, _⟩
    rcases shift_injective _ shifted with rfl
    rcases place_congr placed frame with ⟨placed, names⟩
    rw [placed]
    exact reads (by rwa [Frame.Apart, ← names])
  · intro frame nested isFirst bound enough same clash
    rcases follows frame nested isFirst enough same with
      ⟨regex', own', shifted, placed, _, fails⟩
    rcases place_congr placed frame with ⟨placed, names⟩
    exact fails (by simp [Frame.Apart, ReaderState.start]) (by rwa [Frame.Apart, ← names])

/-- The frame of an expression that nothing is around. -/
def Frame.bare (flags : RegexFlags) : Frame where
  tail := []
  flags
  closes := by simp [Closes]

theorem place_bare (flags : RegexFlags) (own : ReaderState) :
    (Frame.bare flags).place own =
      { rest := own.rest, flags, groups := own.groups, names := own.names,
        groupsBeforeLookBehind := own.groupsBeforeLookBehind } := by
  simp [Frame.place, Frame.bare, Frame.offset]

namespace Alone

variable {flags : RegexFlags} {text : String} {regex : Regex} {own : ReaderState}

/-- By itself a portable expression is read alike under all flags that read it alike. -/
theorem read_eq (alone : Alone flags text regex own) {other : RegexFlags}
    (same : other.verbose = flags.verbose) :
    Regex.read text other = .ok ⟨regex, other, own.names⟩ := by
  have reads := alone.reads (Frame.bare other) false true _ (Nat.le_refl _) (.inr same)
    (by simp [Frame.Apart, Frame.bare])
  rw [place_bare, place_bare, alone.ended, alone.ahead, show (Frame.bare other).offset = 0 from rfl,
    shift_zero] at reads
  dsimp only [ReaderState.start] at reads
  have whole : (readAll (3 * (Regex.pieces text.toList).length + 4)).Reads
      { rest := Regex.pieces text.toList, flags := other } regex
      { rest := [], flags := other, groups := own.groups, names := own.names } := by
    simp only [readAll, Reading.reads_bind_of Reading.reads_get_self, same,
      Reading.reads_bind_of reads]
    simp
  unfold Reading.Reads at whole
  simp only [Regex.read, whole]

theorem compile_eq (alone : Alone flags text regex own) {other : RegexFlags}
    (same : other.verbose = flags.verbose) (fixed : regex.looksBehindFixed = true) :
    compile text other = .ok ⟨regex, other, own.names⟩ := by
  rw [compile, alone.read_eq same]
  exact if_pos fixed

end Alone

end Lalr.Regex
