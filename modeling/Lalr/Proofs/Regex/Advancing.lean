import Lalr.Proofs.Regex.Literals

/-!
# How readers go on

A reader only consumes pieces, and only adds to what it knows of groups and conditions. The
groups that it opens are numbered from the last one on, and whatever name it gives to one of
them is an identifier that no other group has. A scanner calls what it finds by the name of a
group, so no terminal can make a token that is called like the end of the input.
-/

namespace Lalr.Regex

/-- Whether a state is one to which a reader may come from another. -/
structure ReaderState.Leads (before after : ReaderState) : Prop where
  rest : after.rest <:+ before.rest
  conditions : before.conditions <+: after.conditions
  groups : before.groups.length ≤ after.groups.length
  names : ∃ opened, after.names = before.names ++ opened ∧ ∀ entry ∈ opened,
    Unicode.isIdentifier entry.1.toList = true ∧ before.groups.length < entry.2 ∧
      entry.2 ≤ after.groups.length
  distinct : (before.names.map (·.1)).Nodup → (after.names.map (·.1)).Nodup

namespace ReaderState.Leads

variable {before after : ReaderState}

theorem refl (state : ReaderState) : state.Leads state where
  rest := List.suffix_rfl
  conditions := List.prefix_rfl
  groups := Nat.le_refl _
  names := ⟨[], (List.append_nil _).symm, by simp⟩
  distinct := id

theorem trans {between : ReaderState} (leads : before.Leads between)
    (leads' : between.Leads after) :
    before.Leads after where
  rest := leads'.rest.trans leads.rest
  conditions := leads.conditions.trans leads'.conditions
  groups := Nat.le_trans leads.groups leads'.groups
  names := by
    rcases leads.names with ⟨opened, names, each⟩
    rcases leads'.names with ⟨opened', names', each'⟩
    refine ⟨opened ++ opened', by rw [names', names, List.append_assoc], fun entry member => ?_⟩
    rcases List.mem_append.mp member with member | member
    · rcases each entry member with ⟨identifier, above, below⟩
      exact ⟨identifier, above, Nat.le_trans below leads'.groups⟩
    · rcases each' entry member with ⟨identifier, above, below⟩
      exact ⟨identifier, Nat.lt_of_le_of_lt leads.groups above, below⟩
  distinct := leads'.distinct ∘ leads.distinct

/-- A state that differs in its flags or in where its look-behind began can be come to as well. -/
theorem of_eq {left : ReaderState} (leads : before.Leads after) (rest : left.rest <:+ after.rest)
    (conditions : after.conditions <+: left.conditions)
    (groups : left.groups.length = after.groups.length) (names : left.names = after.names) :
    before.Leads left where
  rest := rest.trans leads.rest
  conditions := leads.conditions.trans conditions
  groups := groups ▸ leads.groups
  names := by
    rw [names, groups]
    exact leads.names
  distinct := names ▸ leads.distinct

end ReaderState.Leads

/-- Whether something stays true of a state when pieces are consumed and when a condition asks for a
group. -/
class Lasting (kept : ReaderState → Prop) : Prop where
  consume {state : ReaderState} (known : kept state) {rest : List Piece}
    (less : rest <:+ state.rest) :
    kept { state with rest }
  ask {state : ReaderState} (known : kept state) (index : Nat) :
    kept { state with conditions := state.conditions ++ [index] }

/-- The next piece can be consumed. -/
theorem Lasting.tail {kept : ReaderState → Prop} [Lasting kept] {state : ReaderState}
    (known : kept state) {piece : Piece} {rest : List Piece} (next : state.rest = piece :: rest) :
    kept { state with rest } :=
  consume known (next ▸ List.suffix_cons piece rest)

instance (origin : ReaderState) : Lasting origin.Leads where
  consume leads _ less := leads.of_eq less List.prefix_rfl rfl rfl
  ask leads _ := leads.of_eq List.suffix_rfl (List.prefix_append _ _) rfl rfl

/-- Whether what is true of a state stays true when a reader has read something. -/
def Reading.Keeps (kept : ReaderState → Prop) {α : Type} (reading : Reading α) : Prop :=
  ∀ before value after, reading.Reads before value after → kept before → kept after

/-- Whether a reader that is at a state to which `origin` leads stays at such states. -/
abbrev Reading.Advances (origin : ReaderState) {α : Type} (reading : Reading α) : Prop :=
  reading.Keeps origin.Leads

namespace Reading.Keeps

variable {kept : ReaderState → Prop} {α β : Type} {condition : Prop} [Decidable condition]

theorem pure (value : α) : (Pure.pure value : Reading α).Keeps kept := by
  rintro before _ after read known
  rcases reads_pure.mp read with ⟨_, rfl⟩
  exact known

theorem refuse : (Regex.refuse : Reading α).Keeps kept :=
  fun _ _ _ read _ => absurd read not_reads_refuse

theorem throw (fault : RegexFault) : (MonadExcept.throw fault : Reading α).Keeps kept :=
  fun _ _ _ read _ => absurd read not_reads_throw

theorem get : (MonadState.get : Reading ReaderState).Keeps kept := by
  rintro before _ after read known
  rcases reads_get.mp read with ⟨_, rfl⟩
  exact known

theorem bind {reading : Reading α} {next : α → Reading β} (first : reading.Keeps kept)
    (rest : ∀ value, (next value).Keeps kept) : (reading >>= next).Keeps kept := by
  intro before value after read known
  rcases reads_bind.mp read with ⟨given, between, read, read'⟩
  exact rest given _ _ _ read' (first _ _ _ read known)

theorem ite {reading reading' : Reading α} (first : reading.Keeps kept)
    (second : reading'.Keeps kept) : (if condition then reading else reading').Keeps kept := by
  split
  · exact first
  · exact second

theorem put {left : ReaderState} (known : kept left) : (set left : Reading PUnit).Keeps kept := by
  intro before value after read _
  cases read
  exact known

theorem modify {change : ReaderState → ReaderState}
    (keeps : ∀ state, kept state → kept (change state)) :
    (modify change : Reading Unit).Keeps kept := by
  intro before value after read known
  cases read
  exact keeps before known

/-- Whether a reader that has looked at a state goes on from there as it may. -/
def From (kept : ReaderState → Prop) (state : ReaderState) (reading : Reading α) : Prop :=
  ∀ value after, reading.Reads state value after → kept state → kept after

/-- A reader may put together what it leaves from what it has seen. -/
theorem get_bind {next : ReaderState → Reading β}
    (rest : ∀ state, From kept state (next state)) :
    (MonadState.get >>= next).Keeps kept := by
  intro before value after read known
  rcases reads_bind.mp read with ⟨_, _, got, read⟩
  rcases reads_get.mp got with ⟨rfl, rfl⟩
  exact rest _ _ _ read known

namespace From

variable {state : ReaderState} {reading reading' : Reading α}

theorem of_keeps (keeps : reading.Keeps kept) : From kept state reading :=
  fun _ _ => keeps _ _ _

theorem ite (first : From kept state reading) (second : From kept state reading') :
    From kept state (if condition then reading else reading') := by
  split
  · exact first
  · exact second

theorem refuse_bind {next : α → Reading β} : From kept state (Regex.refuse >>= next) := by
  intro value after read _
  rcases reads_bind.mp read with ⟨_, _, refused, _⟩
  exact absurd refused not_reads_refuse

theorem set_bind {next : PUnit → Reading β} {left : ReaderState}
    (keeps : kept state → kept left) (rest : ∀ done, (next done).Keeps kept) :
    From kept state (set left >>= next) := by
  intro value after read known
  rcases reads_bind.mp read with ⟨_, _, put, read⟩
  cases put
  exact rest _ _ _ _ read (keeps known)

end From

end Reading.Keeps

/-! ## Readers that open no group -/

variable {kept : ReaderState → Prop}

theorem peek_keeps : peek.Keeps kept := .bind .get fun _ => .pure _

theorem checkInLookBehind_keeps (index : Nat) : (checkInLookBehind index).Keeps kept := by
  refine .bind .get fun state => ?_
  split
  · exact .pure _
  · split
    · exact .ite .refuse (.pure _)
    · exact .refuse

theorem referBack_keeps (index : Nat) : (referBack index).Keeps kept := by
  refine .bind .get fun state => ?_
  split
  · exact .bind (checkInLookBehind_keeps index) fun _ => .pure _
  · exact .refuse

/-- The number of the group that has a name. -/
def findGroup (name : String) : Reading Nat := do
  match (← get).names.find? (·.1 == name) with
  | some (_, index) => return index
  | none => refuse

theorem findGroup_keeps (name : String) : (findGroup name).Keeps kept := by
  refine .bind .get fun state => ?_
  split
  · exact .pure _
  · exact .refuse

variable [Lasting kept]

theorem take_keeps : take.Keeps kept := .get_bind fun state => by
  split
  · exact .of_keeps (.pure _)
  next next => exact .set_bind (Lasting.tail · next) fun _ => .pure _

theorem accept_keeps (c : Char) : (accept c).Keeps kept := .get_bind fun state => by
  split
  next next => exact .ite (.set_bind (Lasting.tail · next) fun _ => .pure _) (.of_keeps (.pure _))
  next => exact .of_keeps (.pure _)

theorem demand_keeps (c : Char) : (demand c).Keeps kept :=
  .bind (accept_keeps c) fun _ => .ite (.pure _) .refuse

theorem takeSome_keeps (passes : Char → Bool) (count : Nat) :
    (takeSome passes count).Keeps kept := by
  induction count with
  | zero => exact .pure _
  | succ count ih =>
      refine .get_bind fun state => ?_
      split
      next next =>
        exact .ite (.set_bind (Lasting.tail · next) fun _ => .bind ih fun _ => .pure _)
          (.of_keeps (.pure _))
      next => exact .of_keeps (.pure _)

theorem takeAll_keeps (passes : Char → Bool) : (takeAll passes).Keeps kept :=
  .bind .get fun _ => takeSome_keeps passes _

theorem suffix_of_splitAtStop {stop : Char} {pieces after : List Piece} :
    ∀ {before : List Char}, splitAtStop stop pieces = some (before, after) →
      after <:+ pieces := by
  induction pieces with
  | nil => exact fun split => nomatch split
  | cons piece pieces ih =>
      intro before split
      rw [splitAtStop] at split
      split at split
      · cases split
        exact List.suffix_cons _ _
      · rcases Option.map_eq_some_iff.mp split with ⟨⟨before, after⟩, split, same⟩
        cases same
        exact (ih split).trans (List.suffix_cons _ _)

theorem takeName_keeps (stop : Char) : (takeName stop).Keeps kept :=
  .get_bind fun state => by
    split
    next => exact .of_keeps .refuse
    next split =>
      exact .ite .refuse_bind
        (.set_bind (Lasting.consume · (suffix_of_splitAtStop split)) fun _ => .pure _)

theorem takeIdentifier_keeps (stop : Char) : (takeIdentifier stop).Keeps kept :=
  .bind (takeName_keeps stop) fun _ => .ite (.pure _) (.bind .refuse fun _ => .pure _)

theorem takeHexCode_keeps (count : Nat) : (takeHexCode count).Keeps kept := by
  refine .bind (takeSome_keeps _ _) fun _ => .ite (.bind .refuse fun _ => ?_) ?_
  all_goals exact .ite (.bind .refuse fun _ => .pure _) (.pure _)

omit [Lasting kept] in
theorem readThirdDigit_keeps (first second : Char) (third : List Char) :
    Reading.Keeps kept (match third with
      | [] => referBack ((first.toNat - 48) * 10 + (second.toNat - 48))
      | third :: _ => do
        let code := codeOf 8 [first, second, third]
        if code > 0xFF then refuse
        return ofCode code) := by
  cases third with
  | nil => exact referBack_keeps _
  | cons third rest => exact .ite (.bind .refuse fun _ => .pure _) (.pure _)

theorem readNumberedEscape_keeps (first : Char) : (readNumberedEscape first).Keeps kept := by
  refine .bind (takeSome_keeps _ _) fun digits => ?_
  cases digits with
  | nil => exact referBack_keeps _
  | cons second rest =>
      exact .ite (.bind (takeSome_keeps _ _) (readThirdDigit_keeps first second))
        (.bind (.pure _) (readThirdDigit_keeps first second))

/-- An escape is a case for each character, and each of them reads a code at most. -/
theorem readEscape_keeps (c : Char) : (readEscape c).Keeps kept := by
  unfold readEscape
  repeat' first
    | exact .pure _
    | exact .bind .refuse fun _ => .pure _
    | exact .bind (takeHexCode_keeps _) fun _ => .pure _
    | exact .bind (takeSome_keeps _ _) fun _ => .pure _
    | exact readNumberedEscape_keeps _
    | refine .ite ?_ ?_
    | split

theorem readClassEscape_keeps (c : Char) : (readClassEscape c).Keeps kept := by
  unfold readClassEscape
  repeat' first
    | exact .pure _
    | exact .bind .refuse fun _ => .pure _
    | exact .bind (takeHexCode_keeps _) fun _ => .pure _
    | refine .bind (takeSome_keeps _ _) fun _ => ?_
    | refine .ite ?_ ?_
    | split

theorem readMember_keeps (piece : Piece) : (readMember piece).Keeps kept := by
  cases piece with
  | plain c => exact .pure _
  | escaped c => exact readClassEscape_keeps c
  | dangling => exact .refuse

theorem readMembers_keeps (bound : Nat) :
    ∀ isFirst, (readMembers isFirst bound).Keeps kept := by
  induction bound with
  | zero => exact fun _ => .refuse
  | succ bound ih =>
      intro isFirst
      refine .bind take_keeps fun piece => ?_
      split
      · exact .refuse
      refine .ite (.pure _) (.bind (readMember_keeps _) fun first => ?_)
      refine .bind (accept_keeps _) fun ranged => .ite (.bind take_keeps fun last => ?_)
        (.bind (ih _) fun _ => .pure _)
      split
      · exact .refuse
      refine .ite (.pure _) (.bind (readMember_keeps _) fun last => ?_)
      split
      · exact .ite (.bind .refuse fun _ => .bind (ih _) fun _ => .pure _)
          (.bind (ih _) fun _ => .pure _)
      · exact .refuse

theorem readClass_keeps : readClass.Keeps kept :=
  .bind (accept_keeps _) fun _ => .bind .get fun _ =>
    .bind (readMembers_keeps _ _) fun _ => .pure _

theorem readBounds_keeps : readBounds.Keeps kept := .get_bind fun before => by
  intro value after read known
  have bounds (low high : List Char) : Reading.Keeps kept (do
      if ← accept '\x7d' then
        let least := codeOf 10 low
        let most := if high.isEmpty then none else some (codeOf 10 high)
        if least ≥ repeatLimit || most.any (· ≥ repeatLimit) then throw .repeatTooLarge
        if most.any (· < least) then refuse
        return some (least, most)
      else
        set before
        return none) := by
    refine .bind (accept_keeps _) fun closed => .ite ?_ (.bind (.put known) fun _ => .pure _)
    exact .ite (.bind (.throw _) fun _ => .ite (.bind .refuse fun _ => .pure _) (.pure _))
      (.ite (.bind .refuse fun _ => .pure _) (.pure _))
  refine Reading.Keeps.ite (.pure none) (.bind (takeAll_keeps _) fun low => ?_) _ _ _ read
    known
  exact .bind (accept_keeps ',') fun parted =>
    .ite (.bind (takeAll_keeps _) (bounds low)) (.bind (.pure low) (bounds low))

theorem readFlagsOff_keeps (bound : Nat) : ∀ off, (readFlagsOff off bound).Keeps kept := by
  induction bound with
  | zero => exact fun _ => .refuse
  | succ bound ih =>
      intro off
      refine .bind take_keeps fun piece => ?_
      split
      · split
        · have rest (off : RegexFlags) : Reading.Keeps kept (do
              if ← accept ':' then return off else readFlagsOff off bound) :=
            .bind (accept_keeps _) fun _ => .ite (.pure _) (ih _)
          exact .ite (.bind .refuse fun _ => rest _) (rest _)
        · exact .refuse
      · exact .refuse

/-- What is read after a flag. -/
theorem readFlagsRest_keeps {bound : Nat}
    (further : ∀ change c, (readFlagsOn change c bound).Keeps kept) (change : FlagChange) :
    Reading.Keeps kept (do
      if change.allScripts && change.on.ascii then refuse
      match ← take with
      | some (.plain ')') => return (change, true)
      | some (.plain ':') => return (change, false)
      | some (.plain '-') =>
        let off ← readFlagsOff {} ((← get).rest.length + 1)
        if change.on.without off != change.on then refuse
        return ({ change with off }, false)
      | some (.plain c) => readFlagsOn change c bound
      | _ => refuse) := by
  refine .ite (.bind .refuse fun _ => ?_) ?_
  all_goals
    refine .bind take_keeps fun piece => ?_
    split
    · exact .pure _
    · exact .pure _
    · exact .bind .get fun _ => .bind (readFlagsOff_keeps _ _) fun _ =>
        .ite (.bind .refuse fun _ => .pure _) (.pure _)
    · exact further _ _
    · exact .refuse

theorem readFlagsOn_keeps (bound : Nat) :
    ∀ change c, (readFlagsOn change c bound).Keeps kept := by
  induction bound with
  | zero => exact fun _ _ => .refuse
  | succ bound ih =>
      intro change c
      have rest (change : FlagChange) := readFlagsRest_keeps ih change
      refine .ite (.bind (.pure _) rest) ?_
      split
      · exact .bind (.pure _) rest
      · exact .bind .refuse rest

theorem readFlags_keeps (c : Char) : (readFlags c).Keeps kept :=
  .bind .get fun _ => .ite (.bind (readFlagsOff_keeps _ _) fun _ => .pure _)
    (readFlagsOn_keeps _ _ _)

/-- The group that a condition asks for by its number. -/
def numberCondition (name : String) : Reading Nat := do
  match Numeral.int? name with
  | some (.ofNat index) =>
    if index == 0 || index ≥ 0x3FFFFFFF then refuse
    modify fun state => { state with conditions := state.conditions ++ [index] }
    return index
  | _ => refuse

/-- A condition asks for a group by a name, or else by a number. -/
theorem readCondition_eq : readCondition = (do
    let name ← takeName ')'
    let index ← if Unicode.isIdentifier name.toList then findGroup name else numberCondition name
    checkInLookBehind index
    return index) := by
  unfold readCondition findGroup numberCondition
  refine congrArg _ (funext fun name => ?_)
  dsimp only
  split
  · rw [bind_assoc]
    refine congrArg _ (funext fun state => ?_)
    cases state.names.find? (·.1 == name) <;> rfl
  · rcases Numeral.int? name with _ | index | index
    · rfl
    · by_cases large : (index == 0 || decide (index ≥ 0x3FFFFFFF)) = true <;>
        simp only [large, Bool.false_eq_true, if_true, if_false] <;> rfl
    · rfl

theorem numberCondition_keeps (name : String) : (numberCondition name).Keeps kept := by
  unfold numberCondition
  split
  · have noted (index : Nat) : Reading.Keeps kept (do
        modify fun state => { state with conditions := state.conditions ++ [index] }
        return index) :=
      .bind (.modify fun _ known => Lasting.ask known index) fun _ => .pure _
    exact .ite (.bind .refuse fun _ => noted _) (noted _)
  · exact .refuse

theorem readCondition_keeps : readCondition.Keeps kept := by
  rw [readCondition_eq]
  refine .bind (takeName_keeps _) fun name => ?_
  have rest (index : Nat) : Reading.Keeps kept (do
      checkInLookBehind index
      return index) := .bind (checkInLookBehind_keeps index) fun _ => .pure _
  exact .ite (.bind (findGroup_keeps name) rest) (.bind (numberCondition_keeps name) rest)

theorem skipComment_keeps : skipComment.Keeps kept := .get_bind fun state => by
  split
  next => exact .of_keeps .refuse
  next split =>
    intro value after read known
    cases read
    exact Lasting.consume known (suffix_of_splitAtStop split)

theorem skipLine_keeps : skipLine.Keeps kept := .get_bind fun state => by
  refine .ite .refuse_bind fun value after read known => ?_
  cases read
  exact Lasting.consume known ((List.drop_suffix _ _).trans (List.dropWhile_suffix _))

theorem readGreed_keeps : readGreed.Keeps kept :=
  .bind (accept_keeps _) fun _ => .ite (.pure _)
    (.bind (accept_keeps _) fun _ => .ite (.pure _) (.pure _))

theorem readNegation_keeps : readNegation.Keeps kept :=
  .bind (accept_keeps _) fun _ => .ite (.pure _)
    (.bind (demand_keeps _) fun _ => .pure _)

theorem repeatLast_keeps (items : List Regex) (least : Nat) (most : Option Nat) :
    (repeatLast items least most).Keeps kept := by
  unfold repeatLast
  split
  · exact .refuse
  · exact .refuse
  · exact .refuse
  · exact .bind readGreed_keeps fun _ => .pure _

/-! ## Groups -/

variable {origin : ReaderState}

theorem closeGroup_advances (index : Nat) (width : Width) :
    (closeGroup index width).Advances origin :=
  .modify fun _ leads => leads.of_eq List.suffix_rfl List.prefix_rfl List.length_set rfl

/-- A group is opened behind those that are there. -/
theorem ReaderState.Leads.open {state : ReaderState} (leads : origin.Leads state)
    (named : List (String × Nat))
    (known : ∀ entry ∈ named, Unicode.isIdentifier entry.1.toList = true ∧
      entry.2 = state.groups.length + 1)
    (fresh : (state.names.map (·.1)).Nodup → ((state.names ++ named).map (·.1)).Nodup) :
    origin.Leads
      { state with groups := state.groups ++ [none], names := state.names ++ named } where
  rest := leads.rest
  conditions := leads.conditions
  groups := Nat.le_trans leads.groups (by simp)
  names := by
    rcases leads.names with ⟨opened, names, old⟩
    refine ⟨opened ++ named, by simp [names], fun entry member => ?_⟩
    have more := leads.groups
    rw [List.length_append, List.length_singleton]
    rcases List.mem_append.mp member with member | member
    · rcases old entry member with ⟨identifier, above, below⟩
      exact ⟨identifier, above, Nat.le_succ_of_le below⟩
    · rcases known entry member with ⟨identifier, number⟩
      exact ⟨identifier, by omega, by omega⟩
  distinct := fresh ∘ leads.distinct

theorem openGroup_advances {name : Option String}
    (identifier : ∀ text ∈ name, Unicode.isIdentifier text.toList = true) :
    (openGroup name).Advances origin := by
  refine .get_bind fun state => ?_
  cases name with
  | none =>
      refine .set_bind (fun leads => ?_) fun _ => .pure _
      simpa using leads.open [] (by simp) (by simp)
  | some text =>
      by_cases taken : state.names.any (·.1 == text) = true
      · simp only [taken, if_true]
        exact .refuse_bind
      · simp only [taken, Bool.false_eq_true, if_false]
        refine .set_bind (fun leads => leads.open _ (by simpa using identifier) fun distinct => ?_)
          fun _ => .pure _
        rw [List.map_append, List.nodup_append]
        simp only [List.any_eq_true, beq_iff_eq, not_exists, not_and] at taken
        simpa [distinct] using fun name number member => taken (name, number) member

/-- A name that has been taken as an identifier is one. -/
theorem isIdentifier_of_takeIdentifier {stop : Char} {before after : ReaderState} {name : String}
    (read : (takeIdentifier stop).Reads before name after) :
    Unicode.isIdentifier name.toList = true := by
  rcases Reading.reads_bind.mp read with ⟨text, _, _, read⟩
  split at read
  next identifier =>
    rcases Reading.reads_pure.mp read with ⟨rfl, _⟩
    exact identifier
  next =>
    rcases Reading.reads_bind.mp read with ⟨_, _, refused, _⟩
    exact absurd refused Reading.not_reads_refuse

/-- A reader that takes an identifier may open a group of that name. -/
theorem Reading.Keeps.takeIdentifier_bind {β : Type} {stop : Char} {next : String → Reading β}
    (rest : ∀ name, Unicode.isIdentifier name.toList = true → (next name).Keeps kept) :
    (takeIdentifier stop >>= next).Keeps kept := by
  intro before value after read known
  rcases Reading.reads_bind.mp read with ⟨name, between, taken, read⟩
  exact rest name (isIdentifier_of_takeIdentifier taken) _ _ _ read
    (takeIdentifier_keeps stop _ _ _ taken known)

/-- What is read between the parentheses of groups. Induction on the bound of the recursion; a group
with a name is opened with an identifier. -/
theorem readGroups_advances (bound : Nat) :
    (∀ verbose nested isFirst, (readChoice verbose nested isFirst bound).Advances origin) ∧
      (∀ verbose isFirst items, (readItems verbose isFirst items bound).Advances origin) ∧
        ∀ verbose isFirst items, (readGroup verbose isFirst items bound).Advances origin := by
  induction bound with
  | zero => exact ⟨fun _ _ _ => .refuse, fun _ _ _ => .refuse, fun _ _ _ => .refuse⟩
  | succ bound ih =>
      rcases ih with ⟨choice, items, group⟩
      refine ⟨fun verbose nested isFirst => ?_, fun verbose isFirst read => ?_,
        fun verbose isFirst read => ?_⟩
      · refine .bind (items _ _ _) fun branch => .bind (accept_keeps _) fun goesOn => ?_
        refine .ite ?_ (.pure _)
        have rest (verbose : Bool) : Reading.Advances origin (do
            return Regex.choice branch (← readChoice verbose nested false bound)) :=
          .bind (choice _ _ _) fun _ => .pure _
        exact .ite (.bind (.pure _) rest) (.bind .get fun _ => .bind (.pure _) rest)
      · refine .bind peek_keeps fun piece => ?_
        split
        · exact .pure _
        · exact .pure _
        · exact .pure _
        · exact .refuse
        · exact .bind take_keeps fun _ => .bind (readEscape_keeps _) fun _ => items _ _ _
        · have repeated (least : Nat) (most : Option Nat) : Reading.Advances origin (do
              readItems verbose isFirst (← repeatLast read least most) bound) :=
            .bind (repeatLast_keeps _ _ _) fun _ => items _ _ _
          refine .bind take_keeps fun _ => ?_
          refine .ite (items _ _ _) ?_
          refine .ite (.bind skipLine_keeps fun _ => items _ _ _) ?_
          refine .ite (.bind readClass_keeps fun _ => items _ _ _) ?_
          refine .ite (items _ _ _) (.ite (items _ _ _) (.ite (items _ _ _) ?_))
          refine .ite (repeated _ _) (.ite (repeated _ _) (.ite (repeated _ _) ?_))
          refine .ite (.bind readBounds_keeps fun bounds => ?_) ?_
          · split
            · exact repeated _ _
            · exact items _ _ _
          · exact .ite (.bind (group _ _ _) fun _ => items _ _ _) (items _ _ _)
      · have nested {β : Type} {verbose : Bool} {next : Regex → Reading β}
            (rest : ∀ body, (next body).Advances origin) :
            (readChoice verbose true true bound >>= fun body =>
              demand ')' >>= fun _ => next body).Advances origin :=
          .bind (choice _ _ _) fun body => .bind (demand_keeps _) fun _ => rest body
        refine .bind (accept_keeps _) fun special => .ite ?_ ?_
        · refine .bind take_keeps fun piece => ?_
          split
          · refine .bind (accept_keeps _) fun opens => .ite ?_ ?_
            · refine .takeIdentifier_bind fun name identifier => ?_
              refine .bind (openGroup_advances fun text same => ?_) fun index => nested fun body =>
                .bind (closeGroup_advances _ _) fun _ => .pure _
              cases same
              exact identifier
            · refine .bind (accept_keeps _) fun refers => .ite ?_ .refuse
              refine .bind (takeIdentifier_keeps _) fun name => .bind .get fun state => ?_
              split
              · exact .bind (referBack_keeps _) fun _ => .pure _
              · exact .refuse
          · exact nested fun _ => .pure _
          · exact .bind skipComment_keeps fun _ => .pure _
          · exact nested fun _ => .pure _
          · exact nested fun _ => .pure _
          · have sees (change : ReaderState → Option Nat) : Reading.Advances origin
                (modify fun state =>
                { state with groupsBeforeLookBehind := change state }) :=
              .modify fun _ leads => leads.of_eq List.suffix_rfl List.prefix_rfl rfl rfl
            have behind (negated : Bool) (outer : Option Nat) : Reading.Advances origin (do
                let body ← readChoice verbose true true bound
                modify fun state => { state with groupsBeforeLookBehind := outer }
                demand ')'
                return (verbose, Regex.look true negated body :: read)) :=
              .bind (choice _ _ _) fun _ => .bind (sees _) fun _ =>
                .bind (demand_keeps _) fun _ => .pure _
            refine .bind readNegation_keeps fun negated => .bind .get fun state => ?_
            exact .ite (.bind (sees fun state => some state.groups.length) fun _ => behind _ _)
              (behind _ _)
          · have absent (index : Nat) (present absent : Regex) : Reading.Advances origin (do
                demand ')'
                return (verbose, Regex.conditional index present absent :: read)) :=
              .bind (demand_keeps _) fun _ => .pure _
            refine .bind readCondition_keeps fun index => .bind (items _ _ _) fun present =>
              .bind (accept_keeps _) fun other => ?_
            exact .ite (.bind (items _ _ _) (absent _ _)) (.bind (.pure _) (absent _ _))
          · exact nested fun _ => .pure _
          · refine .bind (readFlags_keeps _) fun flags => .ite ?_ (nested fun _ => .pure _)
            have rest (change : FlagChange) : Reading.Advances origin (do
                modify fun state =>
                  { state with
                    flags := state.flags.union change.on
                    allScripts := state.allScripts || change.allScripts }
                return ((← get).flags.verbose, read)) :=
              .bind (.modify fun _ leads => leads.of_eq List.suffix_rfl List.prefix_rfl rfl rfl)
                fun _ => .bind .get fun _ => .pure _
            exact .ite (.bind .refuse fun _ => rest _) (rest _)
          · exact .refuse
        · exact .bind (openGroup_advances (by simp)) fun index => nested fun body =>
            .bind (closeGroup_advances _ _) fun _ => .pure _

theorem readAll_advances (bound : Nat) : (readAll bound).Advances origin := by
  refine .bind .get fun _ => .bind ((readGroups_advances bound).1 _ _ _) fun regex =>
    .bind .get fun state => ?_
  have last : Reading.Advances origin (do
      if state.conditions.any (· > state.groups.length) then refuse
      return regex) := .ite (.bind .refuse fun _ => .pure _) (.pure _)
  have ended : Reading.Advances origin (do
      unless state.rest.isEmpty do refuse
      if state.conditions.any (· > state.groups.length) then refuse
      return regex) := .ite last (.bind .refuse fun _ => last)
  exact .ite (.bind (.throw _) fun _ => ended) ended

theorem read_of_compile {text : String} {flags : RegexFlags} {compiled : CompiledRegex}
    (went : compile text flags = .ok compiled) : Regex.read text flags = .ok compiled := by
  unfold compile at went
  split at went
  next compiled' read =>
    split at went
    · cases went
      exact read
    · cases went
  next => cases went

/-- An expression that can be compiled has been read to its end. -/
theorem reads_of_compile {text : String} {flags : RegexFlags} {compiled : CompiledRegex}
    (went : compile text flags = .ok compiled) :
    ∃ state : ReaderState, (readAll (3 * (pieces text.toList).length + 4)).Reads
      { rest := pieces text.toList, flags } compiled.regex state ∧
        compiled.names = state.names := by
  have read := read_of_compile went
  unfold Regex.read at read
  dsimp only at read
  split at read
  next regex state run =>
    cases read
    exact ⟨state, run, rfl⟩
  next => cases read

/-- The names of the groups of an expression are identifiers. -/
theorem isIdentifier_of_compile {text : String} {flags : RegexFlags} {compiled : CompiledRegex}
    (went : compile text flags = .ok compiled) :
    ∀ entry ∈ compiled.names, Unicode.isIdentifier entry.1.toList = true := by
  rcases reads_of_compile went with ⟨state, reads, same⟩
  rcases (readAll_advances _ _ _ _ reads (.refl _)).names with ⟨opened, names, known⟩
  intro entry member
  rw [same, names] at member
  exact (known entry member).1

end Lalr.Regex
