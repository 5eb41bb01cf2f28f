import Lalr.Proofs.Regex.Framing

/-!
# Expressions behind other groups

What an expression means does not depend on the groups before it, if it refers to groups by their
names only, sets no flags for the whole of a longer expression and ends where its text ends. Such an
expression is portable. It can be read in any frame in which the names of its groups are free, and
what is read there differs in the numbers of groups only.
-/

namespace Lalr.Regex

open Lalr.Regex.Frame (far)

/-! ## References to groups -/

/-- The number of a group of an expression, the first being zero, behind other groups. -/
def numberBehind (offset index : Nat) : Nat := index + 1 + offset

section References

variable {frame : Frame} {related : Prop} {start own : ReaderState}

theorem groups_place (index : Nat) :
    (frame.place own).groups[index + 1 + frame.offset - 1]? = own.groups[index]? := by
  rw [show index + 1 + frame.offset - 1 = index + frame.groups.length by
    simp only [Frame.offset]; omega]
  exact List.getElem?_append_right (by omega) |>.trans (by simp)

/-- Far behind other groups no number of at most two digits is that of a closed group. -/
theorem groups_far {number : Nat} (small : number ≤ 99) :
    (far.place own).groups[number - 1]? = some none := by
  have inside : number - 1 < far.groups.length := by
    rw [show far.groups.length = 99 from rfl]
    omega
  rw [Frame.place, List.getElem?_append_left inside]
  exact List.getElem?_replicate_of_lt inside

theorem checkInLookBehind_place {index : Nat} {value : Unit} {after : ReaderState}
    (read : (checkInLookBehind (index + far.offset)).Reads (far.place own) value after) :
    after = far.place own ∧ ∀ frame : Frame,
      (checkInLookBehind (index + frame.offset)).Reads (frame.place own) value
        (frame.place own) := by
  simp only [checkInLookBehind, Reading.reads_bind_of Reading.reads_get_self] at read ⊢
  cases looking : own.groupsBeforeLookBehind with
  | none =>
      simp only [Frame.place, looking, Option.map_none] at read ⊢
      cases read
      exact ⟨rfl, fun frame => rfl⟩
  | some before =>
      have seen (frame : Frame) :
          (frame.place own).groupsBeforeLookBehind = some (before + frame.offset) := by
        simp [Frame.place, looking]
      simp only [seen] at read ⊢
      cases index with
      | zero =>
          rw [groups_far (by simp)] at read
          exact absurd read Reading.not_reads_refuse
      | succ index =>
          simp only [groups_place, Nat.add_lt_add_iff_right, gt_iff_lt] at read ⊢
          split at read
          next =>
            split at read
            next => exact absurd read Reading.not_reads_refuse
            next old =>
              cases read
              exact ⟨rfl, fun frame => by rw [if_neg old]; rfl⟩
          next => exact absurd read Reading.not_reads_refuse

theorem referBack_follows {index index' : Nat}
    (pairs : related → frame.Pairs (fun offset index => index + offset) index index') :
    frame.Follows related start Regex.shift (referBack index) (referBack index') where
  advances _ := referBack_keeps index
  simulates holds own _ value after read _ := by
    rcases pairs holds with ⟨index, rfl, rfl⟩
    simp only [referBack, Reading.Fails] at read ⊢
    simp only [Reading.reads_bind_of Reading.reads_get_self] at read ⊢
    cases index with
    | zero =>
        rw [groups_far (by simp)] at read
        exact absurd read Reading.not_reads_refuse
    | succ index =>
        simp only [groups_place] at read ⊢
        split at read
        next width _ =>
          rcases Reading.reads_bind.mp read with ⟨_, _, checked, read⟩
          rcases checkInLookBehind_place checked with ⟨rfl, checks⟩
          rcases Reading.reads_pure.mp read with ⟨rfl, rfl⟩
          exact ⟨.backReference (index + 1) width, own, rfl, rfl,
            fun _ => Reading.reads_bind.mpr ⟨_, _, checks frame, rfl⟩,
            fun apart clash => absurd apart clash⟩
        next => exact absurd read Reading.not_reads_refuse

/-- A number that is written in an expression refers to no group. -/
theorem not_reads_referBack_far {number : Nat} (small : number ≤ 99) {value : Regex}
    {after : ReaderState} : ¬(referBack number).Reads (far.place own) value after := by
  intro read
  simp only [referBack, Reading.reads_bind_of Reading.reads_get_self, groups_far small] at read
  exact Reading.not_reads_refuse read

@[simp] theorem shift_ofCode (offset code : Nat) : (ofCode code).shift offset = ofCode code := by
  unfold ofCode
  split <;> rfl

/-- An expression without groups of its own is the same in any frame. -/
theorem pure_constant {regex : Regex} (constant : ∀ offset, regex.shift offset = regex) :
    frame.Follows related start Regex.shift (pure regex) (pure regex) :=
  .pure fun _ => ⟨regex, (constant _).symm, (constant _).symm⟩

theorem pure_ofCode (code : Nat) :
    frame.Follows related start Regex.shift (pure (ofCode code)) (pure (ofCode code)) :=
  pure_constant fun offset => shift_ofCode offset code

theorem referBack_number_follows {number : Nat} (small : related → number ≤ 99)
    {target : Reading Regex} :
    frame.Follows related start Regex.shift (referBack number) target where
  advances _ := referBack_keeps number
  simulates holds _ _ _ _ read := absurd read (not_reads_referBack_far (small holds))

theorem digit_le {c : Char} (isDigit : c.isDigit = true) : c.toNat - 48 ≤ 9 := by
  simp only [Char.isDigit, Bool.and_eq_true, decide_eq_true_eq] at isDigit
  have most : c.toNat ≤ 57 := isDigit.2
  omega

theorem readThirdDigit_follows {first second : Char} (digit : first.toNat - 48 ≤ 9)
    (digit' : second.toNat - 48 ≤ 9) (third : List Char) :
    frame.Follows related start Regex.shift
      (match third with
        | [] => referBack ((first.toNat - 48) * 10 + (second.toNat - 48))
        | third :: _ => do
          let code := codeOf 8 [first, second, third]
          if code > 0xFF then refuse
          return ofCode code)
      (match third with
        | [] => referBack ((first.toNat - 48) * 10 + (second.toNat - 48))
        | third :: _ => do
          let code := codeOf 8 [first, second, third]
          if code > 0xFF then refuse
          return ofCode code) := by
  cases third with
  | nil => exact referBack_number_follows fun _ => by omega
  | cons third rest => exact .ite .refuse_bind (pure_ofCode _)

theorem readNumberedEscape_follows {first : Char} (isDigit : first.isDigit = true) :
    frame.Follows related start Regex.shift (readNumberedEscape first)
      (readNumberedEscape first) := by
  have low := digit_le isDigit
  refine .bind_known (fun digits => ∀ c ∈ digits, c.isDigit = true)
    (takeSome_follows (by decide) 1) (fun _ _ _ read c member => ?_)
    fun digits areDigits => ?_
  · rcases Reading.reads_unique read (takeSome_reads _ _ _) with ⟨rfl, _⟩
    exact of_mem_passed member
  · cases digits with
    | nil => exact referBack_number_follows fun _ => Nat.le_trans low (by decide)
    | cons second rest =>
        have low' := digit_le (areDigits second List.mem_cons_self)
        exact .ite (.bind_fixed (takeSome_follows (by decide) 1) (readThirdDigit_follows low low'))
          (.bind_fixed (.pure_fixed _) (readThirdDigit_follows low low'))

/-- An escape is a case for each character, and only digits may refer to groups. -/
theorem readEscape_follows (c : Char) :
    frame.Follows related start Regex.shift (readEscape c) (readEscape c) := by
  unfold readEscape
  repeat' first
    | exact pure_ofCode _
    | exact pure_constant fun _ => rfl
    | exact .refuse_bind
    | exact .bind_fixed (takeHexCode_follows _) fun _ => pure_ofCode _
    | exact .bind_fixed (takeSome_follows (by decide) _) fun _ => pure_ofCode _
    | exact readNumberedEscape_follows ‹_›
    | split

/-! ## Groups -/

theorem closeGroup_reads (own : ReaderState) (index : Nat) (width : Width) :
    (closeGroup (numberBehind frame.offset index) width).Reads (frame.place own) ()
      (frame.place { own with groups := own.groups.set index (some width) }) := by
  have behind : numberBehind frame.offset index - 1 = frame.groups.length + index := by
    simp only [numberBehind, Frame.offset]
    omega
  have closed : (frame.place own).groups.set (numberBehind frame.offset index - 1) (some width) =
      frame.groups ++ own.groups.set index (some width) := by
    rw [behind, Frame.place, List.set_append_right _ _ (Nat.le_add_right _ _),
      Nat.add_sub_cancel_left]
  simp only [Frame.place, ← closed]
  rfl

theorem closeGroup_follows {index index' : Nat} {width width' : Width}
    (pairs : related → frame.Pairs numberBehind index index' ∧ width = width') :
    frame.Follows related start fixed (closeGroup index width) (closeGroup index' width') where
  advances _ := closeGroup_advances index width
  simulates holds own _ value after read _ := by
    rcases pairs holds with ⟨⟨index, rfl, rfl⟩, rfl⟩
    rcases Reading.reads_unique read (closeGroup_reads own index width) with ⟨rfl, rfl⟩
    exact ⟨(), _, rfl, rfl, fun _ => closeGroup_reads own index width,
      fun apart clash => absurd apart clash⟩

/-- The groups of an expression are found by the names that the frame leaves free. -/
theorem find?_place {name : String} {entry : String × Nat} (apart : frame.Apart own)
    (found : own.names.find? (·.1 == name) = some entry) :
    (frame.place own).names.find? (·.1 == name) = some (entry.1, entry.2 + frame.offset) := by
  have none : frame.names.find? (·.1 == name) = none := by
    rw [List.find?_eq_none]
    intro other member same
    have here : entry.1 = name := by
      have passes := List.find?_some found
      exact beq_iff_eq.mp passes
    exact apart entry (List.mem_of_find?_eq_some found) other member
      (here.trans (beq_iff_eq.mp same).symm)
  have moved : (own.names.map fun entry => (entry.1, entry.2 + frame.offset)).find? (·.1 == name) =
      some (entry.1, entry.2 + frame.offset) := by
    rw [List.find?_map]
    exact congrArg (Option.map _) found
  simp only [Frame.place, List.find?_append, none, moved, Option.none_or]

theorem find?_place_far {name : String} {entry : String × Nat}
    (found : (far.place own).names.find? (·.1 == name) = some entry) :
    ∃ index, own.names.find? (·.1 == name) = some (entry.1, index) ∧
      entry.2 = index + far.offset := by
  have named : (far.place own).names =
      own.names.map fun entry => (entry.1, entry.2 + far.offset) := List.nil_append _
  rw [named, List.find?_map, Option.map_eq_some_iff] at found
  rcases found with ⟨⟨name', index⟩, found, rfl⟩
  exact ⟨index, found, rfl⟩

/-- The state after a group has been opened. -/
def ReaderState.opened (own : ReaderState) (name : Option String) : ReaderState :=
  { own with
    groups := own.groups ++ [none]
    names := own.names ++ (name.map fun name => (name, own.groups.length + 1)).toList }

theorem place_opened (name : Option String) :
    { frame.place own with
      groups := (frame.place own).groups ++ [none]
      names := (frame.place own).names ++
        (name.map fun name => (name, (frame.place own).groups.length + 1)).toList } =
      frame.place (own.opened name) := by
  have number : frame.groups.length + own.groups.length + 1 =
      own.groups.length + 1 + frame.groups.length := by omega
  cases name <;> simp [Frame.place, ReaderState.opened, number]

theorem numberBehind_length :
    numberBehind frame.offset own.groups.length = (frame.place own).groups.length + 1 := by
  simp only [numberBehind, Frame.place, Frame.offset, List.length_append]
  omega

theorem any_place (frame : Frame) (own : ReaderState) (text : String) :
    (frame.place own).names.any (·.1 == text) =
      (frame.names.any (·.1 == text) || own.names.any (·.1 == text)) := by
  simp [Frame.place, Function.comp_def]

/-- A group can be opened unless its name has been given. -/
theorem openGroup_reads {name : Option String}
    (free : ∀ text ∈ name, (frame.place own).names.any (·.1 == text) = false) :
    (openGroup name).Reads (frame.place own) (numberBehind frame.offset own.groups.length)
      (frame.place (own.opened name)) := by
  rw [numberBehind_length, ← place_opened]
  simp only [openGroup, Reading.reads_bind_of Reading.reads_get_self]
  cases name with
  | none => simp [Reading.Reads]; rfl
  | some text =>
      simp only [free text rfl]
      rfl

theorem openGroup_fails {text : String} {state : ReaderState}
    (given : state.names.any (·.1 == text) = true) : (openGroup (some text)).Fails state := by
  refine .bind_right Reading.reads_get_self ?_
  simp only [given, if_true]
  exact ⟨.malformed, rfl⟩

theorem openGroup_follows {name : Option String}
    (identifier : ∀ text ∈ name, Unicode.isIdentifier text.toList = true) :
    frame.Follows related start numberBehind (openGroup name) (openGroup name) where
  advances _ := openGroup_advances identifier
  simulates _ own _ value after read _ := by
    have fresh (text : String) (named : text ∈ name) : own.names.any (·.1 == text) = false := by
      rcases Option.mem_def.mp named with rfl
      by_contra given
      have given' : (far.place own).names.any (·.1 == text) = true := by
        rw [any_place, eq_true_of_ne_false given, Bool.or_true]
      rcases openGroup_fails given' with ⟨fault, went⟩
      exact nomatch went.symm.trans read
    have free (frame : Frame) (apart : frame.Apart (own.opened name)) (text : String)
        (named : text ∈ name) : (frame.place own).names.any (·.1 == text) = false := by
      rcases Option.mem_def.mp named with rfl
      rw [any_place, fresh text rfl, Bool.or_false, List.any_eq_false]
      intro other member same
      exact apart (text, own.groups.length + 1) (by simp [ReaderState.opened]) other member
        (beq_iff_eq.mp same).symm
    rcases Reading.reads_unique read (openGroup_reads (free far (by simp [Frame.Apart, far]))) with
      ⟨rfl, rfl⟩
    refine ⟨own.groups.length, own.opened name, rfl, rfl,
      fun apart => openGroup_reads (free frame apart), fun apart clash => ?_⟩
    cases name with
    | none => exact absurd (by simpa [Frame.Apart, ReaderState.opened] using apart) clash
    | some text =>
        refine openGroup_fails ?_
        rw [any_place, Bool.or_eq_true]
        refine .inl ?_
        by_contra given
        refine clash fun entry member other listed => ?_
        rcases List.mem_append.mp member with old | new
        · exact apart entry old other listed
        · rcases List.mem_singleton.mp new with rfl
          rintro rfl
          exact given (List.any_eq_true.mpr ⟨other, listed, beq_self_eq_true _⟩)

theorem findGroup_follows (name : String) :
    frame.Follows related start (fun offset index => index + offset) (findGroup name)
      (findGroup name) := by
  refine .get_bind (fun _ => findGroup_keeps name) fun _ own _ value after read _ => ?_
  split at read
  next name' index found =>
    rcases find?_place_far found with ⟨index, found, rfl⟩
    rcases Reading.reads_pure.mp read with ⟨rfl, rfl⟩
    refine ⟨index, own, rfl, rfl, fun apart => ?_, fun apart clash => absurd apart clash⟩
    simp only [find?_place apart found]
    exact Reading.reads_pure.mpr ⟨rfl, rfl⟩
  next => exact absurd read Reading.not_reads_refuse

theorem findGroup_bind {α : Type} (name : String) (next : Nat → Reading α) :
    findGroup name >>= next = (do
      match (← get).names.find? (·.1 == name) with
      | some (_, index) => next index
      | none => refuse) := by
  unfold findGroup
  rw [bind_assoc]
  refine congrArg _ (funext fun state => ?_)
  cases state.names.find? (·.1 == name) <;> rfl

/-- Who asks for a group by its number is not within a frame any more. -/
theorem not_within_of_numberCondition {name : String} {before after : ReaderState} {index : Nat}
    (read : (numberCondition name).Reads before index after) : ¬after.Within := by
  intro within
  unfold numberCondition at read
  split at read
  next number _ =>
    split at read
    next => exact absurd (Reading.reads_bind.mp read) (by simp)
    next =>
      cases read
      have none := within.conditions
      simp at none
  next => exact absurd read Reading.not_reads_refuse

theorem numberCondition_follows (name : String) {target : Reading Nat} :
    frame.Follows related start (fun offset index => index + offset)
      (numberCondition name) target where
  advances _ := numberCondition_keeps name
  simulates _ _ _ _ _ read within := absurd within (not_within_of_numberCondition read)

theorem checkInLookBehind_follows {index index' : Nat}
    (pairs : related → frame.Pairs (fun offset index => index + offset) index index') :
    frame.Follows related start fixed (checkInLookBehind index) (checkInLookBehind index') where
  advances _ := checkInLookBehind_keeps index
  simulates holds own _ value after read _ := by
    rcases pairs holds with ⟨index, rfl, rfl⟩
    rcases checkInLookBehind_place read with ⟨rfl, checks⟩
    exact ⟨(), own, rfl, rfl, fun _ => checks frame, fun apart clash => absurd apart clash⟩

theorem readCondition_follows :
    frame.Follows related start (fun offset index => index + offset) readCondition
      readCondition := by
  rw [readCondition_eq]
  refine .bind_fixed (takeName_follows _) fun name => ?_
  have rest (index index' : Nat) : frame.Follows
      (related ∧ frame.Pairs (fun offset index => index + offset) index index') start
      (fun offset index => index + offset)
      (do
        checkInLookBehind index
        return index)
      (do
        checkInLookBehind index'
        return index') :=
    .bind_fixed (checkInLookBehind_follows And.right) fun _ => .pure And.right
  exact .ite (.bind (findGroup_follows name) rest) (.bind (numberCondition_follows name) rest)

/-! ## Items -/

/-- Items behind other groups. -/
def shiftItems (offset : Nat) (items : List Regex) : List Regex := items.map (·.shift offset)

theorem foldl_shiftItems (offset : Nat) (items : List Regex) (later : Regex) :
    (shiftItems offset items).foldl
      (fun later item => match later with
        | .empty => item
        | later => .sequence item later) (later.shift offset) =
    (items.foldl
      (fun later item => match later with
        | .empty => item
        | later => .sequence item later) later).shift offset := by
  induction items generalizing later with
  | nil => rfl
  | cons item items ih =>
      rw [shiftItems, List.map_cons, List.foldl_cons, List.foldl_cons, ← ih]
      congr 1
      cases later <;> rfl

theorem ofItems_shiftItems (offset : Nat) (items : List Regex) :
    ofItems (shiftItems offset items) = (ofItems items).shift offset :=
  foldl_shiftItems offset items .empty

theorem repeatLast_follows {items items' : List Regex} (least : Nat) (most : Option Nat)
    (pairs : related → frame.Pairs shiftItems items items') :
    frame.Follows related start shiftItems (repeatLast items least most)
      (repeatLast items' least most) where
  advances _ := repeatLast_keeps items least most
  simulates holds own from_ := by
    rcases pairs holds with ⟨items, rfl, rfl⟩
    cases items with
    | nil => exact fun _ _ read => absurd read Reading.not_reads_refuse
    | cons item items =>
        have repeated : frame.Follows related start shiftItems
            (do return .repetition (← readGreed) least most (item.shift far.offset) ::
                shiftItems far.offset items)
            (do return .repetition (← readGreed) least most (item.shift frame.offset) ::
                shiftItems frame.offset items) :=
          .bind_fixed readGreed_follows fun greed =>
            .pure fun _ => ⟨.repetition greed least most item :: items, rfl, rfl⟩
        cases item with
        | anchor => exact fun _ _ read => absurd read Reading.not_reads_refuse
        | repetition => exact fun _ _ read => absurd read Reading.not_reads_refuse
        | _ => exact repeated.simulates holds own from_

/-- The number of groups when a look-behind began grows as the numbers of groups do. -/
theorem setBehind_follows {behind behind' : ReaderState → Option Nat}
    (same : related → ∃ behindOwn : ReaderState → Option Nat, ∀ own,
      behind (far.place own) = (behindOwn own).map (· + far.offset) ∧
        behind' (frame.place own) = (behindOwn own).map (· + frame.offset)) :
    frame.Follows related start fixed
      (modify fun state => { state with groupsBeforeLookBehind := behind state })
      (modify fun state => { state with groupsBeforeLookBehind := behind' state }) where
  advances _ := .modify fun _ leads => leads.of_eq List.suffix_rfl List.prefix_rfl rfl rfl
  simulates holds own _ value after read _ := by
    rcases same holds with ⟨behindOwn, each⟩
    cases read
    refine ⟨(), { own with groupsBeforeLookBehind := behindOwn own }, rfl, ?_, fun _ => ?_,
      fun apart clash => absurd apart clash⟩
    · simp only [(each own).1]
      rfl
    · have reads : Reading.Reads (modify fun state =>
          { state with groupsBeforeLookBehind := behind' state }) (frame.place own) ()
          { frame.place own with groupsBeforeLookBehind := behind' (frame.place own) } := rfl
      rwa [(each own).2] at reads

/-- What a group has been read as, and the items before it, behind other groups. -/
def shiftFound (offset : Nat) (found : Bool × List Regex) : Bool × List Regex :=
  (found.1, shiftItems offset found.2)

/-- What is read between the parentheses of groups. Far behind other groups all of it stands inside
the parentheses of a group. Induction on the bound of the recursion. -/
theorem readGroups_follows (bound : Nat) :
    (∀ {related : Prop} {start : ReaderState} {bound' : Nat}
      (verbose isFirst nested' isFirst' : Bool),
      bound ≤ bound' → nested' = true ∨ frame.flags.verbose = verbose →
        frame.Follows related start Regex.shift (readChoice verbose true isFirst bound)
          (readChoice verbose nested' isFirst' bound')) ∧
    (∀ {related : Prop} {start : ReaderState} {bound' : Nat} {items items' : List Regex}
      (verbose isFirst' : Bool), bound ≤ bound' →
        (related → frame.Pairs shiftItems items items') →
        frame.Follows related start Regex.shift (readItems verbose false items bound)
          (readItems verbose isFirst' items' bound')) ∧
    (∀ {related : Prop} {start : ReaderState} {bound' : Nat} {items items' : List Regex}
      (verbose isFirst' : Bool), bound ≤ bound' →
        (related → frame.Pairs shiftItems items items') →
        frame.Follows related start shiftFound (readGroup verbose false items bound)
          (readGroup verbose isFirst' items' bound')) := by
  induction bound with
  | zero => exact ⟨fun _ _ _ _ _ _ => .refuse, fun _ _ _ _ => .refuse, fun _ _ _ _ => .refuse⟩
  | succ bound ih =>
      rcases ih with ⟨choice, items, group⟩
      refine ⟨fun {related start bound'} verbose isFirst nested' isFirst' more same => ?_,
        fun {related start bound' read read'} verbose isFirst' more pairs => ?_,
        fun {related start bound' read read'} verbose isFirst' more pairs => ?_⟩
      all_goals have positive : ∃ less, bound' = less + 1 :=
        Nat.exists_eq_succ_of_ne_zero (by omega)
      all_goals rcases positive with ⟨bound', rfl⟩
      all_goals replace more : bound ≤ bound' := Nat.le_of_succ_le_succ more
      · refine .bind (items verbose _ more fun _ => ⟨[], rfl, rfl⟩) fun branch branch' => ?_
        refine .bind_fixed (accept_follows _) fun goesOn => .ite ?_ (.pure And.right)
        have rest : frame.Follows (related ∧ frame.Pairs Regex.shift branch branch')
            start Regex.shift
              (do return Regex.choice branch (← readChoice verbose true false bound))
            (do return Regex.choice branch' (← readChoice verbose nested' false bound')) := by
          refine .bind (choice _ _ _ _ more same) fun later later' => .pure ?_
          rintro ⟨⟨_, branch, rfl, rfl⟩, later, rfl, rfl⟩
          exact ⟨.choice branch later, rfl, rfl⟩
        cases nested' with
        | true => exact rest
        | false =>
            rcases same.resolve_left Bool.false_ne_true with rfl
            exact ⟨rest.advances, rest.simulates⟩
      · have added (item : Regex) (constant : ∀ offset, item.shift offset = item)
            (holds : related) :
            frame.Pairs shiftItems (item :: read) (item :: read') := by
          rcases pairs holds with ⟨own, rfl, rfl⟩
          exact ⟨item :: own, by simp [shiftItems, constant], by simp [shiftItems, constant]⟩
        have repeated (least : Nat) (most : Option Nat) : frame.Follows related start Regex.shift
            (do readItems verbose false (← repeatLast read least most) bound)
            (do readItems verbose isFirst' (← repeatLast read' least most) bound') :=
          .bind (repeatLast_follows least most pairs) fun _ _ => items _ _ more And.right
        have ended : frame.Follows related start Regex.shift (pure (ofItems read))
            (pure (ofItems read')) := by
          refine .pure fun holds => ?_
          rcases pairs holds with ⟨own, rfl, rfl⟩
          exact ⟨ofItems own, ofItems_shiftItems _ _, ofItems_shiftItems _ _⟩
        refine .peek_bind (fun _ => .pure _) ?_ fun piece => ?_
        · rintro _ (rfl | rfl) <;> exact ended
        · split
          · exact ended
          · exact ended
          · exact ended
          · exact .refuse
          · refine .bind_fixed take_follows fun _ =>
              .bind (readEscape_follows _) fun item item' => ?_
            refine items _ _ more ?_
            rintro ⟨holds, item, rfl, rfl⟩
            rcases pairs holds with ⟨own, rfl, rfl⟩
            exact ⟨item :: own, rfl, rfl⟩
          · refine .bind_fixed take_follows fun _ => ?_
            refine .ite (items _ _ more pairs) ?_
            refine .ite (.bind_fixed skipLine_follows fun _ => items _ _ more pairs) ?_
            refine .ite (.bind readClass_follows fun item item' => items _ _ more ?_) ?_
            · rintro ⟨holds, item, rfl, rfl⟩
              rcases pairs holds with ⟨own, rfl, rfl⟩
              exact ⟨item :: own, rfl, rfl⟩
            refine .ite (items _ _ more (added _ fun _ => rfl)) ?_
            refine .ite (items _ _ more (added _ fun _ => rfl)) ?_
            refine .ite (items _ _ more (added _ fun _ => rfl)) ?_
            refine .ite (repeated _ _) (.ite (repeated _ _) (.ite (repeated _ _) ?_))
            refine .ite (.bind_fixed readBounds_follows fun bounds => ?_) ?_
            · split
              · exact repeated _ _
              · exact items _ _ more (added _ fun _ => rfl)
            · refine .ite (.bind (group _ _ more pairs) fun found found' => ?_)
                (items _ _ more (added _ fun _ => rfl))
              refine .intro (fun _ => (readGroups_advances bound).2.1 _ _ _) ?_
              rintro ⟨_, found, rfl, rfl⟩
              exact items _ _ more fun _ => ⟨found.2, rfl, rfl⟩
      · have nested {β : Type} {act : Nat → β → β} {related : Prop} {verbose : Bool}
            {next next' : Regex → Reading β}
            (rest : ∀ body body',
              frame.Follows (related ∧ frame.Pairs Regex.shift body body') start act
              (next body) (next' body')) :
            frame.Follows related start act
              (readChoice verbose true true bound >>= fun body => demand ')' >>= fun _ => next body)
              (readChoice verbose true true bound' >>= fun body =>
                demand ')' >>= fun _ => next' body) :=
          .bind (choice _ _ _ _ more (.inl rfl)) fun body body' =>
            .bind_fixed (demand_follows _) fun _ => rest body body'
        -- a group adds one item, which is made of its body
        have around (verbose : Bool) (item : Regex → Regex)
            (shifts : ∀ offset body, (item body).shift offset = item (body.shift offset))
            (body body' : Regex) :
            frame.Follows (related ∧ frame.Pairs Regex.shift body body') start shiftFound
              (pure (verbose, item body :: read)) (pure (verbose, item body' :: read')) := by
          refine .pure ?_
          rintro ⟨holds, body, rfl, rfl⟩
          rcases pairs holds with ⟨own, rfl, rfl⟩
          exact ⟨(verbose, item body :: own), by simp [shiftFound, shiftItems, shifts],
            by simp [shiftFound, shiftItems, shifts]⟩
        have grouped (name : Option String)
            (identifier : ∀ text ∈ name, Unicode.isIdentifier text.toList = true) :
            frame.Follows related start shiftFound
              (do
                let index ← openGroup name
                let body ← readChoice verbose true true bound
                demand ')'
                closeGroup index body.width
                return (verbose, .group index body :: read))
              (do
                let index ← openGroup name
                let body ← readChoice verbose true true bound'
                demand ')'
                closeGroup index body.width
                return (verbose, .group index body :: read')) := by
          refine .bind (openGroup_follows identifier) fun index index' =>
            nested fun body body' => ?_
          refine .bind_fixed (closeGroup_follows ?_) fun _ => .pure ?_
          · rintro ⟨⟨_, index⟩, body, rfl, rfl⟩
            exact ⟨index, by rw [width_shift, width_shift]⟩
          · rintro ⟨⟨holds, index, rfl, rfl⟩, body, rfl, rfl⟩
            rcases pairs holds with ⟨own, rfl, rfl⟩
            exact ⟨(verbose, .group (index + 1) body :: own), rfl, rfl⟩
        refine .bind_fixed (accept_follows _) fun special => .ite ?_ (grouped none (by simp))
        refine .bind_fixed take_follows fun piece => ?_
        split
        · refine .bind_fixed (accept_follows _) fun opens => .ite ?_ ?_
          · exact .bind_known _ (takeIdentifier_follows _)
              (fun _ _ _ => isIdentifier_of_takeIdentifier) fun name identifier =>
                grouped (some name) (by simpa using identifier)
          · refine .bind_fixed (accept_follows _) fun refers => .ite ?_ .refuse
            refine .bind_fixed (takeIdentifier_follows _) fun name => ?_
            have referred : frame.Follows related start shiftFound
                (do
                  let index ← findGroup name
                  return (verbose, (← referBack index) :: read))
                (do
                  let index ← findGroup name
                  return (verbose, (← referBack index) :: read')) := by
              refine .bind (findGroup_follows name) fun index index' =>
                .bind (referBack_follows And.right) fun item item' => .pure ?_
              rintro ⟨⟨holds, _⟩, item, rfl, rfl⟩
              rcases pairs holds with ⟨own, rfl, rfl⟩
              exact ⟨(verbose, item :: own), rfl, rfl⟩
            rw [findGroup_bind, findGroup_bind] at referred
            exact referred
        · exact nested (around _ _ fun _ _ => rfl)
        · exact .bind_fixed skipComment_follows fun _ => .pure fun holds => by
            rcases pairs holds with ⟨own, rfl, rfl⟩
            exact ⟨(verbose, own), rfl, rfl⟩
        · exact nested (around _ _ fun _ _ => rfl)
        · exact nested (around _ _ fun _ _ => rfl)
        · refine .bind_fixed readNegation_follows fun negated => ?_
          have behind {related' : Prop} (outer outer' : Option Nat) (same : related' → related ∧
                frame.Pairs (fun offset outer => outer.map (· + offset)) outer outer') :
              frame.Follows related' start shiftFound
                (do
                  let body ← readChoice verbose true true bound
                  modify fun state => { state with groupsBeforeLookBehind := outer }
                  demand ')'
                  return (verbose, Regex.look true negated body :: read))
                (do
                  let body ← readChoice verbose true true bound'
                  modify fun state => { state with groupsBeforeLookBehind := outer' }
                  demand ')'
                  return (verbose, Regex.look true negated body :: read')) := by
            refine .bind (choice _ _ _ _ more (.inl rfl)) fun body body' =>
              .bind_fixed (setBehind_follows fun holds => ?_) fun _ =>
                .bind_fixed (demand_follows _) fun _ =>
                  (around _ _ (fun _ _ => rfl) body body').weaken fun holds =>
                    ⟨(same holds.1).1, holds.2⟩
            rcases same holds.1 with ⟨_, own, rfl, rfl⟩
            exact ⟨fun _ => own, fun _ => ⟨rfl, rfl⟩⟩
          have begun : frame.Follows related start fixed
              (modify fun state =>
                { state with groupsBeforeLookBehind := some state.groups.length })
              (modify fun state =>
                { state with groupsBeforeLookBehind := some state.groups.length }) := by
            refine setBehind_follows fun _ => ⟨fun own => some own.groups.length, fun own => ?_⟩
            simp [Frame.place, Nat.add_comm]
          have all (outer outer' : Option Nat) : frame.Follows
              (related ∧ frame.Pairs (fun offset outer => outer.map (· + offset))
                outer outer') start
              shiftFound
              (do
                if outer.isNone then
                  modify fun state =>
                    { state with groupsBeforeLookBehind := some state.groups.length }
                let body ← readChoice verbose true true bound
                modify fun state => { state with groupsBeforeLookBehind := outer }
                demand ')'
                return (verbose, Regex.look true negated body :: read))
              (do
                if outer'.isNone then
                  modify fun state =>
                    { state with groupsBeforeLookBehind := some state.groups.length }
                let body ← readChoice verbose true true bound'
                modify fun state => { state with groupsBeforeLookBehind := outer' }
                demand ')'
                return (verbose, Regex.look true negated body :: read')) := by
            have goesOn := behind outer outer' fun holds => holds
            refine .intro ?_ ?_
            · have goesOn := (behind outer outer (fun holds : False => holds.elim)).advances
              exact fun _ => .ite (.bind (begun.advances _) fun _ => goesOn _) (goesOn _)
            · rintro ⟨_, outer, rfl, rfl⟩
              cases outer with
              | none => exact .bind_fixed (begun.weaken And.left) fun _ => goesOn
              | some outer => exact goesOn
          exact .look_bind _ (fun own => ⟨own.groupsBeforeLookBehind, rfl, rfl⟩) all
        · refine .bind readCondition_follows fun index index' => ?_
          refine .bind (items _ _ more fun _ => ⟨[], rfl, rfl⟩) fun present present' => ?_
          refine .bind_fixed (accept_follows _) fun other => ?_
          have rest {related' : Prop} (absent absent' : Regex)
              (all : related' → related ∧
                frame.Pairs (fun offset index => index + offset) index index' ∧
                frame.Pairs Regex.shift present present' ∧
                frame.Pairs Regex.shift absent absent') :
              frame.Follows related' start shiftFound
                (do
                  demand ')'
                  return (verbose, Regex.conditional index present absent :: read))
                (do
                  demand ')'
                  return (verbose, Regex.conditional index' present' absent' :: read')) := by
            refine .bind_fixed (demand_follows _) fun _ => .pure fun holds => ?_
            rcases all holds with
              ⟨holds, ⟨index, rfl, rfl⟩, ⟨present, rfl, rfl⟩, ⟨absent, rfl, rfl⟩⟩
            rcases pairs holds with ⟨own, rfl, rfl⟩
            exact ⟨(verbose, .conditional index present absent :: own), rfl, rfl⟩
          refine .ite ?_ (rest _ _ fun holds =>
            ⟨holds.1.1, holds.1.2, holds.2, .empty, rfl, rfl⟩)
          exact .bind (items _ _ more fun _ => ⟨[], rfl, rfl⟩) fun absent absent' =>
            rest _ _ fun holds => ⟨holds.1.1.1, holds.1.1.2, holds.1.2, holds.2⟩
        · exact nested (around _ _ fun _ _ => rfl)
        · refine .bind_fixed (readFlags_follows _) fun flags => .ite ?_
            (nested (around _ _ fun _ _ => rfl))
          exact .refuse_bind
        · exact .refuse

end References

end Lalr.Regex
