import Lalr.Proofs.Regex.Advancing
import Lalr.Proofs.Regex.Consumption

/-!
# The width of what is read

A reader gives a back reference the width of its group, which is the width of the body that
has been read for it. Therefore the least width of an expression is a lower bound: each match
takes up at least as many characters.
-/

namespace Lalr.Regex

/-- Whether the groups of an expression, and the references back to groups, have the widths that are
given for them. -/
def Measured (groups : List (Option Width)) : Regex → Prop
  | .group index body => groups[index - 1]? = some (some body.width) ∧ body.Measured groups
  | .backReference index width => groups[index - 1]? = some (some width)
  | .sequence first second | .choice first second =>
    first.Measured groups ∧ second.Measured groups
  | .conditional _ present absent => present.Measured groups ∧ absent.Measured groups
  | .scoped _ body | .atomic body | .repetition _ _ _ body | .look _ _ body => body.Measured groups
  | .empty | .char _ | .class _ _ | .anyChar | .anchor _ => True

theorem Measured.mono {groups groups' : List (Option Width)}
    (kept : ∀ (index : Nat) (width : Width),
      groups[index]? = some (some width) → groups'[index]? = some (some width))
    (regex : Regex) : regex.Measured groups → regex.Measured groups' := by
  induction regex with
  | group index body ih => exact fun known => ⟨kept _ _ known.1, ih known.2⟩
  | backReference index width => exact kept _ _
  | sequence first second ih ih' => exact And.imp ih ih'
  | choice first second ih ih' => exact And.imp ih ih'
  | conditional index present absent ih ih' => exact And.imp ih ih'
  | «scoped» change body ih => exact ih
  | atomic body ih => exact ih
  | repetition greed least most body ih => exact ih
  | look behind negated body ih => exact ih
  | _ => exact id

theorem Measured.extend {groups groups' : List (Option Width)} (more : groups <+: groups')
    {regex : Regex} (measured : regex.Measured groups) : regex.Measured groups' := by
  rcases more with ⟨others, rfl⟩
  refine mono (fun index width known => ?_) regex measured
  rw [List.getElem?_append_left (List.getElem?_eq_some_iff.mp known).1]
  exact known

/-- Closing a group that is open changes no width. -/
theorem Measured.close {groups : List (Option Width)} {index : Nat} {width : Width}
    (opened : groups[index]? = some none) {regex : Regex} (measured : regex.Measured groups) :
    regex.Measured (groups.set index (some width)) := by
  refine mono (fun other width' known => ?_) regex measured
  rw [List.getElem?_set]
  split
  next same =>
    rw [← same, opened] at known
    cases known
  next => exact known

theorem measured_ofItems {groups : List (Option Width)} {items : List Regex}
    (measured : ∀ item ∈ items, item.Measured groups) : (ofItems items).Measured groups :=
  ofItems_induction trivial (fun _ _ => And.intro) measured

/-! ## Readers that measure -/

/-- Whether a reader that begins with some groups leaves these as they are, adds others, and makes
something that fits all of them. -/
def Reading.Measures (groups : List (Option Width)) {α : Type} (reading : Reading α)
    (fits : List (Option Width) → α → Prop) : Prop :=
  ∀ before value after, before.groups = groups → reading.Reads before value after →
    groups <+: after.groups ∧ fits after.groups value

instance (groups : List (Option Width)) : Lasting fun state => state.groups = groups where
  consume known _ _ := known
  ask known _ := known

namespace Reading.Measures

variable {groups : List (Option Width)} {α β : Type} {fits : List (Option Width) → α → Prop}
  {fits' : List (Option Width) → β → Prop} {reading reading' : Reading α} {condition : Prop}
  [Decidable condition]

theorem pure {value : α} (known : fits groups value) :
    (Pure.pure value : Reading α).Measures groups fits := by
  rintro before _ after rfl read
  rcases reads_pure.mp read with ⟨rfl, rfl⟩
  exact ⟨List.prefix_rfl, known⟩

theorem refuse : (Regex.refuse : Reading α).Measures groups fits :=
  fun _ _ _ _ read => absurd read not_reads_refuse

theorem bind {next : α → Reading β} (first : reading.Measures groups fits)
    (rest : ∀ groups' value, groups <+: groups' → fits groups' value →
      (next value).Measures groups' fits') : (reading >>= next).Measures groups fits' := by
  intro before value after same read
  rcases reads_bind.mp read with ⟨given, between, read, read'⟩
  rcases first _ _ _ same read with ⟨more, known⟩
  rcases rest _ given more known _ _ _ rfl read' with ⟨more', known'⟩
  exact ⟨more.trans more', known'⟩

theorem ite (first : reading.Measures groups fits) (second : reading'.Measures groups fits) :
    (if condition then reading else reading').Measures groups fits := by
  split
  · exact first
  · exact second

/-- A reader that opens no group and reads something that needs none. -/
theorem bind_keeps {next : α → Reading β}
    (keeps : reading.Keeps fun state => state.groups = groups)
    (rest : ∀ value, (next value).Measures groups fits') :
    (reading >>= next).Measures groups fits' := by
  intro before value after same read
  rcases reads_bind.mp read with ⟨given, between, read, read'⟩
  exact rest given _ _ _ (keeps _ _ _ read same) read'

end Reading.Measures

variable {groups : List (Option Width)}

/-- A reference back to a group has its width. -/
theorem referBack_measures (index : Nat) :
    (referBack index).Measures groups fun groups regex => regex.Measured groups := by
  rintro before regex after rfl read
  simp only [referBack, Reading.reads_bind_of Reading.reads_get_self] at read
  split at read
  next width known =>
    rcases Reading.reads_bind.mp read with ⟨_, between, checked, read⟩
    rcases Reading.reads_pure.mp read with ⟨rfl, rfl⟩
    have kept : between.groups = before.groups :=
      @checkInLookBehind_keeps (fun state => state.groups = before.groups) _ _ _ _ checked rfl
    rw [kept]
    exact ⟨List.prefix_rfl, known⟩
  next => exact absurd read Reading.not_reads_refuse

theorem measured_ofCode (groups : List (Option Width)) (code : Nat) :
    (ofCode code).Measured groups := by
  unfold ofCode
  split <;> trivial

theorem readThirdDigit_measures (groups : List (Option Width)) (first second : Char)
    (third : List Char) : Reading.Measures groups (match third with
      | [] => referBack ((first.toNat - 48) * 10 + (second.toNat - 48))
      | third :: _ => do
        let code := codeOf 8 [first, second, third]
        if code > 0xFF then refuse
        return ofCode code) fun groups regex => regex.Measured groups := by
  cases third with
  | nil => exact referBack_measures _
  | cons third rest =>
      have coded (code : Nat) : (pure (ofCode code) : Reading Regex).Measures groups
          fun groups regex => regex.Measured groups := .pure (measured_ofCode _ _)
      exact .ite (.bind_keeps .refuse fun _ => coded _) (coded _)

theorem readNumberedEscape_measures (first : Char) :
    (readNumberedEscape first).Measures groups fun groups regex => regex.Measured groups := by
  refine .bind_keeps (takeSome_keeps _ _) fun digits => ?_
  cases digits with
  | nil => exact referBack_measures _
  | cons second rest =>
      have last := readThirdDigit_measures groups first second
      exact .ite (.bind_keeps (takeSome_keeps _ _) last) (.bind_keeps (.pure _) last)

theorem readEscape_measures (c : Char) :
    (readEscape c).Measures groups fun groups regex => regex.Measured groups := by
  have coded (code : Nat) : (pure (ofCode code) : Reading Regex).Measures groups
      fun groups regex => regex.Measured groups := .pure (measured_ofCode _ _)
  unfold readEscape
  repeat' first
    | exact .pure trivial
    | exact coded _
    | exact .refuse
    | exact .bind_keeps .refuse fun _ => .pure trivial
    | exact .bind_keeps (takeHexCode_keeps _) fun _ => coded _
    | exact .bind_keeps (takeSome_keeps _ _) fun _ => coded _
    | exact readNumberedEscape_measures _
    | refine .ite ?_ ?_
    | split

theorem repeatLast_measures {items : List Regex} (known : ∀ item ∈ items, item.Measured groups)
    (least : Nat) (most : Option Nat) : (repeatLast items least most).Measures groups
      fun groups items => ∀ item ∈ items, item.Measured groups := by
  unfold repeatLast
  split
  · exact .refuse
  · exact .refuse
  · exact .refuse
  · rw [List.forall_mem_cons] at known
    exact .bind_keeps readGreed_keeps fun _ => .pure (List.forall_mem_cons.mpr known)

theorem readClass_measures : readClass.Measures groups fun groups regex => regex.Measured groups :=
  .bind_keeps (accept_keeps _) fun _ => .bind_keeps .get fun _ =>
    .bind_keeps (readMembers_keeps _ _) fun _ => .pure trivial

/-- A group that is opened is the last one, and has no width yet. -/
theorem groups_openGroup {name : Option String} {before after : ReaderState} {index : Nat}
    (read : (openGroup name).Reads before index after) :
    index = before.groups.length + 1 ∧ after.groups = before.groups ++ [none] := by
  cases name with
  | none =>
      cases read
      exact ⟨rfl, rfl⟩
  | some name =>
      simp only [openGroup, Reading.reads_bind_of Reading.reads_get_self] at read
      split at read
      · exact absurd (Reading.reads_bind.mp read) (by simp)
      · cases read
        exact ⟨rfl, rfl⟩

/-- A group is added with the width of its body. -/
theorem group_measures {name : Option String} {verbose : Bool} {items : List Regex}
    {body : Reading Regex} (known : ∀ item ∈ items, item.Measured groups)
    (measures : ∀ groups, body.Measures groups fun groups regex => regex.Measured groups) :
    Reading.Measures groups (do
      let index ← openGroup name
      let body ← body
      demand ')'
      closeGroup index body.width
      return (verbose, Regex.group index body :: items))
      fun groups found => ∀ item ∈ found.2, item.Measured groups := by
  rintro before found after rfl read
  rcases Reading.reads_bind.mp read with ⟨index, opened, opens, read⟩
  rcases Reading.reads_bind.mp read with ⟨regex, between, reads, read⟩
  rcases Reading.reads_bind.mp read with ⟨_, closing, demanded, read⟩
  rcases Reading.reads_bind.mp read with ⟨_, closed, closes, read⟩
  rcases Reading.reads_pure.mp read with ⟨rfl, rfl⟩
  rcases groups_openGroup opens with ⟨rfl, start⟩
  rcases measures _ _ _ _ rfl reads with ⟨⟨inner, more⟩, fits⟩
  have kept : closing.groups = between.groups :=
    @demand_keeps (fun state => state.groups = between.groups) _ _ _ _ _ demanded rfl
  have still : between.groups[before.groups.length]? = some none := by
    rw [← more, start]
    simp
  have left : closed.groups = between.groups.set before.groups.length (some regex.width) := by
    cases closes
    rw [← kept]
    rfl
  have behind : between.groups.set before.groups.length (some regex.width) =
      before.groups ++ some regex.width :: inner := by
    rw [← more, start]
    simp
  have prefix_ : before.groups <+: closed.groups := by
    rw [left, behind]
    exact List.prefix_append _ _
  refine ⟨prefix_, List.forall_mem_cons.mpr ⟨⟨?_, ?_⟩, fun item member =>
    (known item member).extend prefix_⟩⟩
  · rw [left, behind]
    simp
  · rw [left]
    exact fits.close still

/-- What is read between the parentheses of groups has the widths of its groups. Induction on the
bound of the recursion. -/
theorem readGroups_measures (bound : Nat) : ∀ groups,
    (∀ verbose nested isFirst, (readChoice verbose nested isFirst bound).Measures groups
      fun groups regex => regex.Measured groups) ∧
    (∀ verbose isFirst items, (∀ item ∈ items, item.Measured groups) →
      (readItems verbose isFirst items bound).Measures groups
        fun groups regex => regex.Measured groups) ∧
    ∀ verbose isFirst items, (∀ item ∈ items, item.Measured groups) →
      (readGroup verbose isFirst items bound).Measures groups
        fun groups found => ∀ item ∈ found.2, item.Measured groups := by
  induction bound with
  | zero =>
      exact fun _ => ⟨fun _ _ _ => .refuse, fun _ _ _ _ => .refuse, fun _ _ _ _ => .refuse⟩
  | succ bound ih =>
      have choice (groups : List (Option Width)) := (ih groups).1
      have items (groups : List (Option Width)) := (ih groups).2.1
      have group (groups : List (Option Width)) := (ih groups).2.2
      refine fun groups => ⟨fun verbose nested isFirst => ?_,
        fun verbose isFirst read known => ?_, fun verbose isFirst read known => ?_⟩
      · refine .bind (items _ _ _ _ (by simp)) fun groups branch _ first =>
          .bind_keeps (accept_keeps _) fun goesOn => .ite ?_ (.pure first)
        have rest (verbose : Bool) : Reading.Measures groups (do
            return Regex.choice branch (← readChoice verbose nested false bound))
            fun groups regex => regex.Measured groups :=
          .bind (choice _ _ _ _) fun _ _ more second => .pure ⟨first.extend more, second⟩
        exact .ite (.bind_keeps (.pure _) rest)
          (.bind_keeps .get fun _ => .bind_keeps (.pure _) rest)
      · refine .bind_keeps peek_keeps fun piece => ?_
        have goOn {item : Regex} (fits : item.Measured groups) (verbose : Bool) :
            (readItems verbose isFirst (item :: read) bound).Measures groups
              fun groups regex => regex.Measured groups :=
          items _ _ _ _ (List.forall_mem_cons.mpr ⟨fits, known⟩)
        split
        · exact .pure (measured_ofItems known)
        · exact .pure (measured_ofItems known)
        · exact .pure (measured_ofItems known)
        · exact .refuse
        · refine .bind_keeps take_keeps fun _ =>
            .bind (readEscape_measures _) fun _ _ more fits => ?_
          exact items _ _ _ _ (List.forall_mem_cons.mpr
            ⟨fits, fun item member => (known item member).extend more⟩)
        · have repeated (least : Nat) (most : Option Nat) : Reading.Measures groups (do
              readItems verbose isFirst (← repeatLast read least most) bound)
              fun groups regex => regex.Measured groups :=
            .bind (repeatLast_measures known _ _) fun _ _ _ fits => items _ _ _ _ fits
          refine .bind_keeps take_keeps fun _ => ?_
          refine .ite (items _ _ _ _ known) ?_
          refine .ite (.bind_keeps skipLine_keeps fun _ => items _ _ _ _ known) ?_
          refine .ite (.bind readClass_measures fun _ _ more fits => items _ _ _ _
            (List.forall_mem_cons.mpr ⟨fits, fun item member =>
              (known item member).extend more⟩)) ?_
          refine .ite (goOn (by trivial) _)
            (.ite (goOn (by trivial) _) (.ite (goOn (by trivial) _) ?_))
          refine .ite (repeated _ _) (.ite (repeated _ _) (.ite (repeated _ _) ?_))
          refine .ite (.bind_keeps readBounds_keeps fun bounds => ?_) ?_
          · split
            · exact repeated _ _
            · exact goOn (by trivial) _
          · exact .ite (.bind (group _ _ _ _ known) fun _ _ _ fits => items _ _ _ _ fits)
              (goOn (by trivial) _)
      · have nested {verbose verbose' : Bool} {make : Regex → Regex}
            (made : ∀ groups (body : Regex), body.Measured groups →
              (make body).Measured groups) :
            Reading.Measures groups (do
              let body ← readChoice verbose true true bound
              demand ')'
              return (verbose', make body :: read))
              fun groups found => ∀ item ∈ found.2, item.Measured groups :=
          .bind (choice _ _ _ _) fun _ body more fits => .bind_keeps (demand_keeps _) fun _ =>
            .pure (List.forall_mem_cons.mpr ⟨made _ body fits, fun item member =>
              (known item member).extend more⟩)
        refine .bind_keeps (accept_keeps _) fun special => .ite ?_ ?_
        · refine .bind_keeps take_keeps fun piece => ?_
          split
          · refine .bind_keeps (accept_keeps _) fun opens => .ite ?_ ?_
            · exact .bind_keeps (takeIdentifier_keeps _) fun name =>
                group_measures known fun groups => choice groups _ _ _
            · refine .bind_keeps (accept_keeps _) fun refers => .ite ?_ .refuse
              refine .bind_keeps (takeIdentifier_keeps _) fun name =>
                .bind_keeps .get fun state => ?_
              split
              · exact .bind (referBack_measures _) fun _ _ more fits =>
                  .pure (List.forall_mem_cons.mpr ⟨fits, fun item member =>
                    (known item member).extend more⟩)
              · exact .refuse
          · exact nested fun _ _ => id
          · exact .bind_keeps skipComment_keeps fun _ => .pure known
          · exact nested fun _ _ => id
          · exact nested fun _ _ => id
          · have sees (change : ReaderState → Option Nat) : Reading.Keeps
                (fun state => state.groups = groups) (modify fun state =>
                  { state with groupsBeforeLookBehind := change state }) :=
                  .modify fun _ known => known
            have behind (negated : Bool) (outer : Option Nat) : Reading.Measures groups (do
                let body ← readChoice verbose true true bound
                modify fun state => { state with groupsBeforeLookBehind := outer }
                demand ')'
                return (verbose, Regex.look true negated body :: read))
                fun groups found => ∀ item ∈ found.2, item.Measured groups :=
              .bind (choice _ _ _ _) fun _ body more fits =>
                .bind_keeps (.modify fun _ known => known) fun _ =>
                .bind_keeps (demand_keeps _) fun _ => .pure (List.forall_mem_cons.mpr
                  ⟨fits, fun item member => (known item member).extend more⟩)
            refine .bind_keeps readNegation_keeps fun negated => .bind_keeps .get fun state => ?_
            exact .ite (.bind_keeps (sees fun state => some state.groups.length) fun _ =>
              behind _ _) (behind _ _)
          · refine .bind_keeps readCondition_keeps fun index =>
              .bind (items _ _ _ _ (by simp)) fun groups' present more fits =>
                .bind_keeps (accept_keeps _) fun other => ?_
            have nothing : Reading.Measures groups' (pure Regex.empty)
                fun groups regex => regex.Measured groups := .pure trivial
            have absent {groups'' : List (Option Width)} {absent : Regex}
                (more' : groups' <+: groups'')
                (fits' : absent.Measured groups'') : Reading.Measures groups'' (do
                  demand ')'
                  return (verbose, Regex.conditional index present absent :: read))
                  fun groups found => ∀ item ∈ found.2, item.Measured groups :=
              .bind_keeps (demand_keeps _) fun _ => .pure (List.forall_mem_cons.mpr
                ⟨⟨fits.extend more', fits'⟩, fun item member =>
                  (known item member).extend (more.trans more')⟩)
            exact .ite (.bind (items _ _ _ _ (by simp)) fun _ _ more' fits' => absent more' fits')
              (.bind nothing fun _ _ more' fits' => absent more' fits')
          · exact nested fun _ _ => id
          · refine .bind_keeps (readFlags_keeps _) fun flags => .ite ?_ (nested fun _ _ => id)
            have rest (change : FlagChange) : Reading.Measures groups (do
                modify fun state =>
                  { state with
                    flags := state.flags.union change.on
                    allScripts := state.allScripts || change.allScripts }
                return ((← get).flags.verbose, read))
                fun groups found => ∀ item ∈ found.2, item.Measured groups :=
              .bind_keeps (.modify fun _ known => known) fun _ =>
                .bind_keeps .get fun _ => .pure known
            exact .ite (.bind_keeps .refuse fun _ => rest _) (rest _)
          · exact .refuse
        · exact group_measures known fun groups => choice groups _ _ _

/-! ## The least width -/

theorem readAll_measures (bound : Nat) :
    (readAll bound).Measures groups fun groups regex => regex.Measured groups := by
  refine .bind_keeps .get fun _ => .bind ((readGroups_measures bound _).1 _ _ _)
    fun groups regex _ fits =>
    .bind_keeps .get fun state => ?_
  have last : Reading.Measures groups (do
      if state.conditions.any (· > state.groups.length) then refuse
      return regex) fun groups regex => regex.Measured groups :=
    .ite (.bind_keeps .refuse fun _ => .pure fits) (.pure fits)
  have ended : Reading.Measures groups (do
      unless state.rest.isEmpty do refuse
      if state.conditions.any (· > state.groups.length) then refuse
      return regex) fun groups regex => regex.Measured groups :=
    .ite last (.bind_keeps .refuse fun _ => last)
  exact .ite (.bind_keeps (.throw _) fun _ => ended) ended

theorem exists_measured_of_compile {text : String} {flags : RegexFlags} {compiled : CompiledRegex}
    (went : compile text flags = .ok compiled) : ∃ groups, compiled.regex.Measured groups := by
  rcases reads_of_compile went with ⟨state, reads, _⟩
  exact ⟨_, (readAll_measures _ _ _ _ rfl reads).2⟩

/-- The least width of the group with a number. -/
def leastOf (groups : List (Option Width)) (index : Nat) : Nat :=
  match groups[index - 1]? with
  | some (some width) => width.least
  | _ => 0

theorem least_capped (width : Width) : width.capped.least ≤ width.least := Nat.min_le_left _ _

/-- An expression asks for at least as many characters as its least width says. Induction on the
expression. -/
theorem width_le_least {groups : List (Option Width)} (regex : Regex) :
    regex.Measured groups → regex.width.least ≤ regex.least (leastOf groups) := by
  induction regex with
  | empty => exact fun _ => Nat.le_refl _
  | char => exact fun _ => Nat.le_refl _
  | «class» => exact fun _ => Nat.le_refl _
  | anyChar => exact fun _ => Nat.le_refl _
  | anchor => exact fun _ => Nat.le_refl _
  | look => exact fun _ => Nat.le_refl _
  | sequence first second ih ih' =>
      exact fun known => Nat.le_trans (least_capped _) (Nat.add_le_add (ih known.1) (ih' known.2))
  | choice first second ih ih' =>
      exact fun known => Nat.le_min.mpr ⟨Nat.le_trans (Nat.min_le_left _ _) (ih known.1),
        Nat.le_trans (Nat.min_le_right _ _) (ih' known.2)⟩
  | conditional index present absent ih ih' =>
      exact fun known => Nat.le_min.mpr ⟨Nat.le_trans (Nat.min_le_left _ _) (ih known.1),
        Nat.le_trans (Nat.min_le_right _ _) (ih' known.2)⟩
  | group index body ih => exact fun known => ih known.2
  | «scoped» change body ih => exact ih
  | atomic body ih => exact ih
  | repetition greed fewest most body ih =>
      exact fun known => Nat.le_trans (least_capped _) (Nat.mul_le_mul_right _ (ih known))
  | backReference index width =>
      intro known
      have known : groups[index - 1]? = some (some width) := known
      rw [least, leastOf, known]
      exact Nat.le_refl _

/-- The groups of an expression ask for what their widths say. -/
theorem wide_of_measured {groups : List (Option Width)} (regex : Regex) :
    regex.Measured groups → regex.Wide (leastOf groups) := by
  induction regex with
  | group index body ih =>
      rintro ⟨here, known⟩
      refine ⟨?_, ih known⟩
      rw [leastOf, here]
      exact width_le_least body known
  | sequence first second ih ih' => exact And.imp ih ih'
  | choice first second ih ih' => exact And.imp ih ih'
  | conditional index present absent ih ih' => exact And.imp ih ih'
  | «scoped» change body ih => exact ih
  | atomic body ih => exact ih
  | repetition greed least most body ih => exact ih
  | look behind negated body ih => exact ih
  | _ => exact fun _ => trivial

/-- A match takes up at least as many characters as the least width of its expression. -/
theorem width_le_of_compile {text : String} {flags : RegexFlags} {compiled : CompiledRegex}
    (went : compile text flags = .ok compiled) {chars : Array Char} {position : Nat}
    {point : MatchPoint} (found : compiled.matchAt chars position = some point ∨
      compiled.fullMatchAt chars position = some point) :
    position + compiled.regex.width.least ≤ point.position := by
  rcases exists_measured_of_compile went with ⟨groups, measured⟩
  have late := least_le_of_matchOf (wide_of_measured _ measured) found
  have asks := width_le_least _ measured
  omega

end Lalr.Regex
