import Mathlib.Data.List.Induction
import Lalr.Proofs.Lexer.Indenting

/-!
# Nested blocks

A line break outside of brackets begins a line, and the widths of the lines so far say which
blocks are open: a line ends every block that is wider than the line is, and it has to stand in
a block of its own width unless it opens one. Indents and dedents are the brackets around those
blocks. So the tokens that layout gives are the tokens that it is given, less the line breaks
between brackets, with balanced indents and dedents among them that tell how many blocks are
open, and a line is refused where it ends a block and falls between two others.
-/

namespace Lalr

namespace Layout

section Lines

variable (rules : LayoutRules)

/-- How wide the white space is after the last line break of a token. -/
def lineWidth (token : Token) : Nat := widthOf rules (Text.afterLastBreak token.text.toList)

/-- Whether some tokens leave a bracket open. -/
def LeavesOpen (tokens : List Token) : Prop := countClosing rules tokens < countOpening rules tokens

instance : DecidablePred (LeavesOpen rules) := fun _ => inferInstanceAs (Decidable (_ < _))

/-- Whether a token begins a line: it is a line break, and no bracket is open before it. -/
structure BeginsLine (before : List Token) (token : Token) : Prop where
  kind : token.kind = rules.lineBreak
  outside : ¬LeavesOpen rules before

/-- The tokens that are left once the line breaks between brackets are dropped. -/
def keptAfter : List Token → List Token → List Token
  | _, [] => []
  | before, token :: tokens =>
    if token.kind = rules.lineBreak ∧ LeavesOpen rules before then keptAfter
      (before ++ [token]) tokens
    else token :: keptAfter (before ++ [token]) tokens

/-- The widths of the lines that some tokens begin. -/
def lineWidths (tokens : List Token) : List Nat :=
  ((keptAfter rules [] tokens).filter (·.kind = rules.lineBreak)).map (lineWidth rules)

/-- The widths of the blocks that are open after lines of some widths, with the innermost first: of
those that were open before a line, the ones that are narrower, and the block that the line is
in. -/
def openBlocks (widths : List Nat) : List Nat :=
  widths.foldl (fun blocks width => width :: blocks.filter (· < width)) [0]

/-- The widths of the blocks that are open after some tokens. -/
def blocksAfter (tokens : List Token) : List Nat := openBlocks (lineWidths rules tokens)

/-- Some tokens without the indents and dedents among them. -/
def withoutMarks (tokens : List Token) : List Token :=
  tokens.filter fun token => token.kind ≠ rules.indent ∧ token.kind ≠ rules.dedent

/-- Whether tokens are what a line calls for: a single indent, or any number of dedents. -/
def Marks (tokens : List Token) : Prop :=
  (∃ token, tokens = [token] ∧ token.kind = rules.indent) ∨
    ∀ token ∈ tokens, token.kind = rules.dedent

/-- Whether no beginning of some tokens has more dedents than indents. -/
def NeverDips (tokens : List Token) : Prop :=
  ∀ front, front <+: tokens → countKind rules.dedent front ≤ countKind rules.indent front

/-- Whether no beginning of some tokens closes more brackets than it opens. -/
def NeverShuts (tokens : List Token) : Prop :=
  ∀ front, front <+: tokens → countClosing rules front ≤ countOpening rules front

end Lines

/-- Whether the width of a line falls between those of two blocks: the line ends a block and is in
none of the others. -/
def Between (blocks : List Nat) (width : Nat) : Prop := width < blocks.headD 0 ∧ width ∉ blocks

instance (blocks : List Nat) : DecidablePred (Between blocks) :=
  fun _ => inferInstanceAs (Decidable (_ ∧ _))

variable {rules : LayoutRules} {layout layout' : Layout} {token : Token} {widths : List Nat}

/-! ## The tokens that are kept and the widths of their lines -/

theorem lineWidth_of_split {front space : List Char}
    (text : token.text.toList = front ++ '\n' :: space) (single : '\n' ∉ space) :
    lineWidth rules token = space.count ' ' + space.count '\t' * rules.tabLength := by
  have after : Text.afterLastBreak token.text.toList = space := by
    have plain : ∀ char ∈ space.reverse, (char != '\n') = true := by
      intro char within
      simpa using fun same : char = '\n' => single (same ▸ List.mem_reverse.mp within)
    rw [text, Text.afterLastBreak, List.reverse_append, List.reverse_cons, List.append_assoc,
      List.takeWhile_append_of_pos plain]
    simp
  rw [lineWidth, after, widthOf]

theorem keptAfter_append (before tokens more : List Token) :
    keptAfter rules before (tokens ++ more) =
      keptAfter rules before tokens ++ keptAfter rules (before ++ tokens) more := by
  induction tokens generalizing before with
  | nil => simp [keptAfter]
  | cons token tokens ih =>
      simp only [List.cons_append, keptAfter, ih, List.append_assoc, List.nil_append]
      split <;> rfl

theorem keptAfter_begins {before : List Token} (begins : BeginsLine rules before token) :
    keptAfter rules before [token] = [token] := by
  simp [keptAfter, begins.outside]

theorem lineWidths_begins {before : List Token} (begins : BeginsLine rules before token) :
    lineWidths rules (before ++ [token]) = lineWidths rules before ++ [lineWidth rules token] := by
  simp [lineWidths, keptAfter_append, keptAfter_begins begins, begins.kind]

theorem lineWidths_other {before : List Token} (other : ¬BeginsLine rules before token) :
    lineWidths rules (before ++ [token]) = lineWidths rules before := by
  by_cases kind : token.kind = rules.lineBreak
  · have open_ : LeavesOpen rules before := by
      by_contra outside
      exact other ⟨kind, outside⟩
    simp [lineWidths, keptAfter_append, keptAfter, kind, open_]
  · simp [lineWidths, keptAfter_append, keptAfter, kind]

/-! ## The blocks that are open -/

theorem openBlocks_append (widths : List Nat) (width : Nat) :
    openBlocks (widths ++ [width]) = width :: (openBlocks widths).filter (· < width) := by
  simp [openBlocks]

/-- Blocks are the wider the further in they are, and the outermost is the margin. Induction on the
lines. -/
theorem openBlocks_nested (widths : List Nat) :
    (openBlocks widths).Pairwise (· > ·) ∧ HasMargin (openBlocks widths) := by
  induction widths using List.reverseRecOn with
  | nil => exact ⟨List.pairwise_singleton _ _, rfl⟩
  | append_singleton widths width ih =>
      rcases ih with ⟨descending, margin⟩
      rw [openBlocks_append]
      refine ⟨List.pairwise_cons.mpr ⟨fun block within => ?_, descending.filter _⟩, ?_⟩
      · simpa using (List.mem_filter.mp within).2
      · rcases List.getLast?_eq_some_iff.mp margin with ⟨inner, same⟩
        rw [HasMargin, same, List.filter_append, List.getLast?_cons]
        rcases Nat.eq_zero_or_pos width with rfl | wide
        · simp
        · simp [wide]

theorem openBlocks_ne_nil (widths : List Nat) : openBlocks widths ≠ [] := by
  intro none
  have margin := (openBlocks_nested widths).2
  rw [none] at margin
  cases margin

theorem blocksAfter_begins {before : List Token} (begins : BeginsLine rules before token) :
    blocksAfter rules (before ++ [token]) =
      lineWidth rules token :: (blocksAfter rules before).filter (· < lineWidth rules token) := by
  rw [blocksAfter, lineWidths_begins begins, openBlocks_append, blocksAfter]

theorem blocksAfter_other {before : List Token} (other : ¬BeginsLine rules before token) :
    blocksAfter rules (before ++ [token]) = blocksAfter rules before := by
  rw [blocksAfter, lineWidths_other other, blocksAfter]

/-- The blocks that a line leaves open are those that are not wider. -/
theorem closeBlocks_eq_filter (descending : widths.Pairwise (· > ·)) (width : Nat) :
    closeBlocks width widths = widths.filter (· ≤ width) := by
  induction widths with
  | nil => rfl
  | cons block widths ih =>
      rcases List.pairwise_cons.mp descending with ⟨narrower, descending⟩
      rw [closeBlocks, List.dropWhile_cons]
      by_cases wide : width < block
      · rw [if_pos (by simpa using wide), List.filter_cons_of_neg (by simpa using wide)]
        exact ih descending
      · rw [if_neg (by simpa using wide), List.filter_eq_self.mpr]
        intro other within
        rcases List.mem_cons.mp within with rfl | within
        · simpa using wide
        · have := narrower other within
          simp only [decide_eq_true_eq]
          omega

theorem HasMargin.zero_mem (margin : HasMargin widths) : 0 ∈ widths := List.mem_of_getLast? margin

theorem filter_le_of_mem (descending : widths.Pairwise (· > ·)) {width : Nat}
    (within : width ∈ widths) :
    widths.filter (· ≤ width) = width :: widths.filter (· < width) := by
  induction widths with
  | nil => cases within
  | cons block widths ih =>
      rcases List.pairwise_cons.mp descending with ⟨narrower, descending⟩
      rcases List.mem_cons.mp within with rfl | further
      · rw [List.filter_cons_of_pos (by simp), List.filter_cons_of_neg (by simp)]
        refine congrArg (width :: ·) (List.filter_congr fun other within => ?_)
        have := narrower other within
        simp only [decide_eq_decide]
        omega
      · have wide := narrower width further
        rw [List.filter_cons_of_neg (by simpa using wide),
          List.filter_cons_of_neg (by simpa using Nat.le_of_lt wide), ih descending further]

theorem filter_le_of_not_mem {width : Nat} (outside : width ∉ widths) :
    widths.filter (· ≤ width) = widths.filter (· < width) := by
  refine List.filter_congr fun other within => ?_
  have : other ≠ width := fun same => outside (same ▸ within)
  simp only [decide_eq_decide]
  omega

/-- A line ends in a block, which is of its own width exactly where there is one of that width. -/
theorem closeBlocks_eq_cons (descending : widths.Pairwise (· > ·)) (margin : HasMargin widths)
    (width : Nat) : ∃ block outer, closeBlocks width widths = block :: outer ∧
      (block = width ↔ width ∈ widths) := by
  rw [closeBlocks_eq_filter descending]
  have left : 0 ∈ widths.filter (· ≤ width) :=
    List.mem_filter.mpr ⟨margin.zero_mem, by simp⟩
  rcases List.exists_cons_of_ne_nil (List.ne_nil_of_mem left) with ⟨block, outer, same⟩
  refine ⟨block, outer, same, fun own => ?_, fun within => ?_⟩
  · have within : block ∈ widths.filter (· ≤ width) := same ▸ List.mem_cons_self
    exact own ▸ (List.mem_filter.mp within).1
  · rw [filter_le_of_mem descending within] at same
    exact (List.cons.inj same).1.symm

/-- A line break calls for an indent or for dedents, and the line must not fall between two
blocks. -/
theorem breakLine_eq (rules : LayoutRules) (descending : widths.Pairwise (· > ·))
    (margin : HasMargin widths) (breaks : '\n' ∈ token.text.toList) :
    ∃ marks, Marks rules marks ∧
      breakLine rules widths token = (token :: marks,
        if Between widths (lineWidth rules token) then
          .error (.dedent (lineWidth rules token)
            ((widths.filter (· < lineWidth rules token)).headD 0))
        else .ok (lineWidth rules token :: widths.filter (· < lineWidth rules token))) := by
  have space : indentation? token.text = some (Text.afterLastBreak token.text.toList) := by
    rw [indentation?, if_pos (List.contains_iff_mem.mpr breaks)]
  rcases List.exists_cons_of_ne_nil (List.ne_nil_of_mem margin.zero_mem) with
    ⟨innermost, outer, same⟩
  let mark (kind : String) : Token :=
    Token.borrowing kind (.text (String.ofList (Text.afterLastBreak token.text.toList))) token
  rcases closeBlocks_eq_cons descending margin (lineWidth rules token) with
    ⟨block, left, ends, own⟩
  unfold breakLine
  rw [space, same]
  dsimp only
  rw [← same, ← lineWidth]
  split
  next opens =>
    refine ⟨[mark rules.indent], .inl ⟨_, rfl, rfl⟩, ?_⟩
    rw [if_neg (fun both => ?_), List.filter_eq_self.mpr]
    · intro block within
      rw [same] at descending within
      rcases List.mem_cons.mp within with rfl | within
      · simpa using opens
      · have := (List.pairwise_cons.mp descending).1 block within
        simp only [decide_eq_true_eq]
        omega
    · have narrower := both.1
      rw [same, List.headD_cons] at narrower
      omega
  next stays =>
    refine ⟨List.replicate (widths.length - (closeBlocks (lineWidth rules token) widths).length)
      (mark rules.dedent), .inr fun given within => ?_, Prod.ext rfl ?_⟩
    · rw [List.eq_of_mem_replicate within]
      rfl
    simp only [ends]
    by_cases within : lineWidth rules token ∈ widths
    · rw [if_pos (own.mpr within), if_neg fun both => both.2 within, ← ends,
        closeBlocks_eq_filter descending, filter_le_of_mem descending within]
    · have between : Between widths (lineWidth rules token) := by
        refine ⟨?_, within⟩
        rw [same, List.headD_cons]
        refine Nat.lt_of_le_of_ne (Nat.le_of_not_lt stays) fun equal => within ?_
        rw [equal, same]
        exact List.mem_cons_self
      rw [if_neg (mt own.mp within), if_pos between, ← filter_le_of_not_mem within,
        ← closeBlocks_eq_filter descending, ends, List.headD_cons]

/-! ## What layout has made of some tokens -/

/-- Whether tokens are what a line calls for at some place among the tokens given: before it stand
those that are kept of what came before the line break, and with it the indents and dedents tell the
blocks. -/
structure Called (rules : LayoutRules) (before : List Token) (token : Token)
    (given outer marks rest : List Token) : Prop where
  split : given = outer ++ token :: marks ++ rest
  kept : withoutMarks rules outer = keptAfter rules [] before
  calls : Marks rules marks
  depth : countKind rules.indent (outer ++ token :: marks) + 1 =
    countKind rules.dedent (outer ++ token :: marks) +
      (blocksAfter rules (before ++ [token])).length

/-- What layout knows after some tokens where nothing was wrong. -/
structure Knows (rules : LayoutRules) (before : List Token) (layout : Layout) : Prop where
  brackets : layout.open_ + countClosing rules before = countOpening rules before
  neverShuts : NeverShuts rules before
  widths : layout.widths = blocksAfter rules before
  fits : ∀ earlier line rest, before = earlier ++ line :: rest →
    BeginsLine rules earlier line → ¬Between (blocksAfter rules earlier) (lineWidth rules line)

/-- What layout has made of some tokens where nothing was wrong. -/
structure Reached (rules : LayoutRules) (before given : List Token) (layout : Layout) : Prop
    extends Knows rules before layout where
  kept : withoutMarks rules given = keptAfter rules [] before
  depth : countKind rules.indent given + 1 =
    countKind rules.dedent given + (blocksAfter rules before).length
  neverDips : NeverDips rules given
  called : ∀ earlier line rest, before = earlier ++ line :: rest →
    BeginsLine rules earlier line →
    ∃ outer marks more, Called rules earlier line given outer marks more

/-- A list that ends in an item splits at that item or before it. -/
theorem split_concat {α : Type} {front back before : List α} {item last : α}
    (same : before ++ [last] = front ++ item :: back) :
    (front = before ∧ item = last ∧ back = []) ∨
      ∃ rest, back = rest ++ [last] ∧ before = front ++ item :: rest := by
  rcases List.eq_nil_or_concat back with rfl | ⟨rest, other, rfl⟩
  · rcases List.append_inj' same rfl with ⟨rfl, ends⟩
    rcases List.singleton_inj.mp ends with rfl
    exact .inl ⟨rfl, rfl, rfl⟩
  · rw [List.concat_eq_append, ← List.cons_append, ← List.append_assoc] at same
    rcases List.append_inj' same rfl with ⟨rfl, ends⟩
    rcases List.singleton_inj.mp ends with rfl
    exact .inr ⟨rest, List.concat_eq_append, rfl⟩

/-- Of two places in a list, either they are the same or one stands before the other. -/
theorem split_compare {α : Type} {front back front' back' : List α} {item item' : α}
    (same : front ++ item :: back = front' ++ item' :: back') :
    (front = front' ∧ item = item') ∨ (∃ rest, front' = front ++ item :: rest) ∨
      ∃ rest, front = front' ++ item' :: rest := by
  rcases List.append_eq_append_iff.mp same with
    ⟨between, rfl, back⟩ | ⟨between, rfl, back⟩ <;>
    rcases between with _ | ⟨other, between⟩
  · exact .inl ⟨(List.append_nil _).symm, (List.cons.inj back).1⟩
  · exact .inr (.inl ⟨between, (List.cons.inj back).1 ▸ rfl⟩)
  · exact .inl ⟨List.append_nil _, (List.cons.inj back).1.symm⟩
  · exact .inr (.inr ⟨between, (List.cons.inj back).1 ▸ rfl⟩)

theorem prefix_append_cases {α : Type} {front before more : List α}
    (within : front <+: before ++ more) :
    front <+: before ∨ ∃ some_, front = before ++ some_ ∧ some_ <+: more := by
  rcases List.prefix_or_prefix_of_prefix within (List.prefix_append before more) with
    within | ⟨some_, rfl⟩
  · exact .inl within
  · exact .inr ⟨some_, rfl, (List.prefix_append_right_inj before).mp within⟩

theorem withoutMarks_append (tokens more : List Token) :
    withoutMarks rules (tokens ++ more) = withoutMarks rules tokens ++ withoutMarks rules more :=
  List.filter_append ..

theorem withoutMarks_marks {marks : List Token} (calls : Marks rules marks) :
    withoutMarks rules marks = [] := by
  refine List.filter_eq_nil_iff.mpr fun mark within => ?_
  rcases calls with ⟨indent, rfl, kind⟩ | dedents
  · rcases List.mem_singleton.mp within with rfl
    simp [kind]
  · simp [dedents mark within]

theorem withoutMarks_foreign (foreign : Foreign rules token) (marks : List Token) :
    withoutMarks rules (token :: marks) = token :: withoutMarks rules marks :=
  List.filter_cons_of_pos (by simpa using ⟨foreign.indent, foreign.dedent⟩)

/-! ## Indents and dedents -/

theorem neverDips_foreign {given : List Token} (dips : NeverDips rules given)
    (foreign : Foreign rules token) : NeverDips rules (given ++ [token]) := by
  intro front within
  rcases List.prefix_concat_iff.mp within with rfl | within
  · have := dips given (List.prefix_refl given)
    simpa [countKind_append, countKind_cons, foreign.indent, foreign.dedent] using this
  · exact dips front within

/-- Dedents can be given as long as there are enough indents for all of them. -/
theorem neverDips_marks {given marks : List Token} (apart : rules.indent ≠ rules.dedent)
    (dips : NeverDips rules given) (calls : Marks rules marks)
    (enough : countKind rules.dedent (given ++ marks) ≤ countKind rules.indent (given ++ marks)) :
    NeverDips rules (given ++ marks) := by
  intro front within
  rcases prefix_append_cases within with within | ⟨some_, rfl, begins⟩
  · exact dips front within
  · have before := dips given (List.prefix_refl given)
    rw [countKind_append, countKind_append] at enough ⊢
    have fewer : countKind rules.dedent some_ ≤ countKind rules.dedent marks :=
      begins.sublist.countP_le
    rcases calls with ⟨indent, rfl, kind⟩ | dedents
    · have none : countKind rules.dedent [indent] = 0 := by simp [countKind_cons, kind, apart]
      omega
    · have none : countKind rules.indent marks = 0 := by
        refine List.countP_eq_zero.mpr fun mark within => ?_
        simpa [dedents mark within] using apart.symm
      omega

theorem marks_finish : Marks rules (layout.finish rules) := by
  refine .inr fun mark within => ?_
  rw [List.eq_of_mem_replicate within]
  cases layout.last <;> rfl

/-! ## One token more -/

/-- What layout gives for a token, where it has been given some tokens before. -/
inductive Gives (rules : LayoutRules) (before : List Token) (token : Token) : List Token → Prop
  | line {marks : List Token} (begins : BeginsLine rules before token) (calls : Marks rules marks) :
      Gives rules before token (token :: marks)
  | other (other : ¬BeginsLine rules before token) :
      Gives rules before token (keptAfter rules before [token])

theorem Gives.kept {before ready : List Token} (gives : Gives rules before token ready)
    (foreign : Foreign rules token) :
    withoutMarks rules ready = keptAfter rules before [token] := by
  cases gives with
  | line begins calls =>
      rw [withoutMarks_foreign foreign, withoutMarks_marks calls, keptAfter_begins begins]
  | other other =>
      rw [keptAfter]
      split
      · rfl
      · exact withoutMarks_foreign foreign []

/-- What goes wrong where brackets are counted is that a bracket is closed which is not open. -/
theorem countBrackets_error {failure : Failure}
    (counted : countBrackets rules layout token.kind = .error failure) :
    failure = .fault .brokenPromise ∧ layout.open_ = 0 ∧
      countOpening rules [token] < countClosing rules [token] := by
  unfold countBrackets at counted
  split at counted
  · cases counted
  next other =>
    have other : token.kind ∉ rules.opening := by simpa using other
    split at counted
    next closes =>
      have closes : token.kind ∈ rules.closing := by simpa using closes
      split at counted
      next none =>
        cases counted
        exact ⟨rfl, none, by simp [countOpening, countClosing, other, closes]⟩
      next => cases counted
    next => cases counted

namespace Knows

variable {before : List Token}

theorem start : Knows rules [] {} where
  brackets := rfl
  neverShuts _ within := List.prefix_nil.mp within ▸ Nat.le_refl 0
  widths := rfl
  fits earlier line rest same := by simp at same

section

variable (knows : Knows rules before layout)
include knows

theorem outside_iff : layout.open_ = 0 ↔ ¬LeavesOpen rules before := by
  have brackets := knows.brackets
  rw [LeavesOpen]
  omega

theorem nested : layout.widths.Pairwise (· > ·) ∧ HasMargin layout.widths := by
  rw [knows.widths]
  exact openBlocks_nested _

/-- A token that begins no line between two blocks is given and then counted as a bracket if it is
one. -/
theorem accept_fits (breaks : token.kind = rules.lineBreak → '\n' ∈ token.text.toList)
    (fits : BeginsLine rules before token →
      ¬Between (blocksAfter rules before) (lineWidth rules token)) :
    ∃ ready, Gives rules before token ready ∧
      layout.accept rules token = (ready, countBrackets rules
        { layout with last := some token, widths := blocksAfter rules (before ++ [token]) }
        token.kind) := by
  rcases knows.nested with ⟨descending, margin⟩
  by_cases begins : BeginsLine rules before token
  · rcases breakLine_eq rules descending margin (breaks begins.kind) with ⟨marks, calls, broke⟩
    refine ⟨token :: marks, .line begins calls, ?_⟩
    rw [knows.widths, if_neg (fits begins), ← blocksAfter_begins begins,
      ← knows.widths] at broke
    unfold accept
    dsimp only
    rw [if_pos begins.kind, if_pos (knows.outside_iff.mpr begins.outside), broke]
    rfl
  · refine ⟨_, .other begins, ?_⟩
    rw [blocksAfter_other begins, ← knows.widths]
    unfold accept
    dsimp only
    by_cases kind : token.kind = rules.lineBreak
    · have open_ : LeavesOpen rules before := by
        by_contra outside
        exact begins ⟨kind, outside⟩
      rw [if_pos kind, if_neg (mt knows.outside_iff.mp (not_not_intro open_)), keptAfter,
        if_pos ⟨kind, open_⟩]
      rfl
    · rw [if_neg kind, keptAfter, if_neg fun both => kind both.1]
      rfl

/-- A line between two blocks is refused after what it calls for has been given. -/
theorem accept_between (breaks : token.kind = rules.lineBreak → '\n' ∈ token.text.toList)
    (begins : BeginsLine rules before token)
    (between : Between (blocksAfter rules before) (lineWidth rules token)) :
    ∃ ready, Gives rules before token ready ∧
      layout.accept rules token = (ready, .error (.dedent (lineWidth rules token)
        (((blocksAfter rules before).filter (· < lineWidth rules token)).headD 0))) := by
  rcases knows.nested with ⟨descending, margin⟩
  rcases breakLine_eq rules descending margin (breaks begins.kind) with ⟨marks, calls, broke⟩
  refine ⟨token :: marks, .line begins calls, ?_⟩
  rw [knows.widths, if_pos between] at broke
  unfold accept
  dsimp only
  rw [if_pos begins.kind, if_pos (knows.outside_iff.mpr begins.outside), knows.widths, broke]
  rfl

/-- What layout knows of the tokens so far and one token more, and what it gives for that. -/
theorem accepts {layout' : Layout} {ready : List Token}
    (breaks : token.kind = rules.lineBreak → '\n' ∈ token.text.toList)
    (accepted : layout.accept rules token = (ready, .ok layout')) :
    Knows rules (before ++ [token]) layout' ∧ Gives rules before token ready := by
  have fits (begins : BeginsLine rules before token) :
      ¬Between (blocksAfter rules before) (lineWidth rules token) := by
    intro between
    rcases knows.accept_between breaks begins between with ⟨ready', -, refused⟩
    rw [refused] at accepted
    cases (Prod.mk.inj accepted).2
  rcases knows.accept_fits breaks fits with ⟨ready', gives, accepted'⟩
  rw [accepted'] at accepted
  rcases Prod.mk.inj accepted with ⟨rfl, counted⟩
  rcases countBrackets_balances counted with ⟨widths, counts⟩
  have brackets : layout'.open_ + countClosing rules (before ++ [token]) =
      countOpening rules (before ++ [token]) := by
    have := knows.brackets
    simp only [countClosing, countOpening, List.countP_append] at counts this ⊢
    omega
  refine ⟨⟨brackets, ?_, widths, ?_⟩, gives⟩
  · intro front within
    rcases List.prefix_concat_iff.mp within with rfl | within
    · omega
    · exact knows.neverShuts front within
  · intro earlier line rest same begins
    rcases split_concat same with ⟨rfl, rfl, -⟩ | ⟨rest, rfl, shorter⟩
    · exact fits begins
    · exact knows.fits earlier line rest shorter begins

/-- Layout refuses a token only where it begins a line between two blocks, after what the line calls
for, or closes a bracket that is not open. -/
theorem refuses {ready : List Token} {failure : Failure}
    (breaks : token.kind = rules.lineBreak → '\n' ∈ token.text.toList)
    (refused : layout.accept rules token = (ready, .error failure)) :
    (BeginsLine rules before token ∧
      Between (blocksAfter rules before) (lineWidth rules token) ∧
      failure = .dedent (lineWidth rules token)
        (((blocksAfter rules before).filter (· < lineWidth rules token)).headD 0) ∧
      Gives rules before token ready) ∨
    ((BeginsLine rules before token →
      ¬Between (blocksAfter rules before) (lineWidth rules token)) ∧
      failure = .fault .brokenPromise ∧ ¬NeverShuts rules (before ++ [token])) := by
  by_cases line : BeginsLine rules before token ∧
    Between (blocksAfter rules before) (lineWidth rules token)
  · rcases line with ⟨begins, between⟩
    rcases knows.accept_between breaks begins between with ⟨ready', gives, refused'⟩
    rw [refused'] at refused
    rcases Prod.mk.inj refused with ⟨rfl, same⟩
    cases same
    exact .inl ⟨begins, between, rfl, gives⟩
  · have fits (begins : BeginsLine rules before token) :
        ¬Between (blocksAfter rules before) (lineWidth rules token) :=
          fun between => line ⟨begins, between⟩
    rcases knows.accept_fits breaks fits with ⟨ready', -, accepted⟩
    rw [accepted] at refused
    rcases countBrackets_error (Prod.mk.inj refused).2 with ⟨rfl, unopened, closes⟩
    refine .inr ⟨fits, rfl, fun never => ?_⟩
    have enough := never _ (List.prefix_refl _)
    have brackets := knows.brackets
    dsimp only at unopened
    simp only [countClosing, countOpening, List.countP_append] at closes brackets enough
    omega

end

end Knows

namespace Reached

variable {before given : List Token}

theorem start : Reached rules [] [] {} where
  toKnows := .start
  kept := rfl
  depth := rfl
  neverDips _ within := List.prefix_nil.mp within ▸ Nat.le_refl 0
  called earlier line rest same := by simp at same

section

variable (reached : Reached rules before given layout)
include reached

/-- What layout has made of the tokens so far and one token more. -/
theorem accepts {layout' : Layout} {ready : List Token} (apart : rules.indent ≠ rules.dedent)
    (foreign : Foreign rules token)
    (breaks : token.kind = rules.lineBreak → '\n' ∈ token.text.toList)
    (accepted : layout.accept rules token = (ready, .ok layout')) :
    Reached rules (before ++ [token]) (given ++ ready) layout' := by
  rcases reached.toKnows.accepts breaks accepted with ⟨knows, gives⟩
  have balances := (accept_balances apart foreign reached.nested.2 accepted).1
  rw [reached.widths, knows.widths] at balances
  have depth : countKind rules.indent (given ++ ready) + 1 =
      countKind rules.dedent (given ++ ready) + (blocksAfter rules (before ++ [token])).length := by
    have := reached.depth
    simp only [countKind_append]
    omega
  refine ⟨knows, ?_, depth, ?_, ?_⟩
  · rw [withoutMarks_append, reached.kept, gives.kept foreign, keptAfter_append, List.nil_append]
  · cases gives with
    | line begins calls =>
        rw [List.append_cons] at depth ⊢
        have opened :=
          List.length_pos_of_ne_nil (openBlocks_ne_nil (lineWidths rules (before ++ [token])))
        rw [← blocksAfter] at opened
        exact neverDips_marks apart (neverDips_foreign reached.neverDips foreign) calls (by omega)
    | other other =>
        rw [keptAfter]
        split
        · simpa [keptAfter] using reached.neverDips
        · exact neverDips_foreign reached.neverDips foreign
  · intro earlier line rest same begins
    rcases split_concat same with ⟨rfl, rfl, -⟩ | ⟨rest, rfl, shorter⟩
    · cases gives with
      | line _ calls => exact ⟨given, _, [], by simp, reached.kept, calls, depth⟩
      | other other => exact absurd begins other
    · rcases reached.called earlier line rest shorter begins with ⟨outer, marks, more, called⟩
      refine ⟨outer, marks, more ++ ready, ?_, called.kept, called.calls, called.depth⟩
      rw [called.split, List.append_assoc]

/-- A line between two blocks is kept before it is refused. -/
theorem refuses {ready : List Token} {failure : Failure} (foreign : Foreign rules token)
    (breaks : token.kind = rules.lineBreak → '\n' ∈ token.text.toList)
    (refused : layout.accept rules token = (ready, .error failure)) :
    (BeginsLine rules before token ∧
      Between (blocksAfter rules before) (lineWidth rules token) ∧
      failure = .dedent (lineWidth rules token)
        (((blocksAfter rules before).filter (· < lineWidth rules token)).headD 0) ∧
      withoutMarks rules (given ++ ready) = keptAfter rules [] (before ++ [token])) ∨
    ((BeginsLine rules before token →
      ¬Between (blocksAfter rules before) (lineWidth rules token)) ∧
      failure = .fault .brokenPromise ∧ ¬NeverShuts rules (before ++ [token])) := by
  rcases reached.toKnows.refuses breaks refused with ⟨begins, between, failed, gives⟩ | unopened
  · refine .inl ⟨begins, between, failed, ?_⟩
    rw [withoutMarks_append, reached.kept, gives.kept foreign, keptAfter_append, List.nil_append]
  · exact .inr unopened

end

end Reached

/-- Whether a token is the first to begin a line between two blocks, and layout gets that far. -/
structure Misfit (rules : LayoutRules) (before : List Token) (token : Token) : Prop where
  begins : BeginsLine rules before token
  between : Between (blocksAfter rules before) (lineWidth rules token)
  neverShuts : NeverShuts rules before
  first : ∀ earlier line rest, before = earlier ++ line :: rest →
    BeginsLine rules earlier line → ¬Between (blocksAfter rules earlier) (lineWidth rules line)

/-- What layout makes of tokens that it gets through. After the marks that a line calls for, the
indents that are not matched yet are as many as the blocks that are open inside of the margin. -/
structure Nested (rules : LayoutRules) (tokens given : List Token) : Prop where
  kept : withoutMarks rules given = keptAfter rules [] tokens
  balanced : countKind rules.indent given = countKind rules.dedent given
  neverDips : NeverDips rules given
  lines : ∀ before token after, tokens = before ++ token :: after →
    BeginsLine rules before token →
    (∃ outer marks rest, Called rules before token given outer marks rest) ∧
    (blocksAfter rules (before ++ [token])).Pairwise (· > ·) ∧
    (blocksAfter rules (before ++ [token])).head? = some (lineWidth rules token) ∧
    HasMargin (blocksAfter rules (before ++ [token])) ∧
    ∀ front space, token.text.toList = front ++ '\n' :: space → '\n' ∉ space →
      lineWidth rules token = space.count ' ' + space.count '\t' * rules.tabLength

/-- Once the blocks that are still open have been ended, indents and dedents are balanced. -/
theorem Reached.nested_finish {tokens given : List Token} (apart : rules.indent ≠ rules.dedent)
    (reached : Reached rules tokens given layout) :
    Nested rules tokens (given ++ layout.finish rules) := by
  have ended : countKind rules.dedent (layout.finish rules) =
      (blocksAfter rules tokens).length - 1 := by
    rw [← reached.widths, finish, countKind_replicate]
    cases layout.last <;> simp
  have none : countKind rules.indent (layout.finish rules) = 0 := by
    rw [finish, countKind_replicate]
    cases layout.last <;> simp [apart.symm]
  have opened : 0 < (blocksAfter rules tokens).length :=
    List.length_pos_of_ne_nil (openBlocks_ne_nil _)
  have depth := reached.depth
  have balanced : countKind rules.indent (given ++ layout.finish rules) =
      countKind rules.dedent (given ++ layout.finish rules) := by
    rw [countKind_append, countKind_append]
    omega
  refine ⟨?_, balanced, neverDips_marks apart reached.neverDips marks_finish
    (Nat.le_of_eq balanced.symm), ?_⟩
  · rw [withoutMarks_append, reached.kept, withoutMarks_marks marks_finish, List.append_nil]
  · intro before token after same begins
    rcases reached.called before token after same begins with ⟨outer, marks, more, called⟩
    rcases openBlocks_nested (lineWidths rules (before ++ [token])) with ⟨descending, margin⟩
    refine ⟨⟨outer, marks, more ++ layout.finish rules, ?_, called.kept,
      called.calls, called.depth⟩, descending, ?_, margin,
      fun front space => lineWidth_of_split⟩
    · rw [called.split, List.append_assoc]
    · rw [blocksAfter_begins begins, List.head?_cons]

end Layout

end Lalr
