import Lalr.Proofs.Artifact.Remains
import Lalr.Proofs.Lexer.Forward
import Lalr.Proofs.Parser.Loading
import Lalr.Proofs.Shaping.Reductions
import Lalr.Proofs.Shaping.Shapes

/-!
# Making parsers of what is left

Where a parser was made of a grammar, one can be made of what is left of the grammar, or
the failure says what is wrong with it: something is ignored that is no terminal any more,
two rules have become the same, the table does not know a start symbol. The terminals match
the same under the same flags, so they still compile and still match some text.
-/

namespace Lalr

/-! ## Lexers -/

/-- A terminal of which something is lost passes if the terminal did. -/
theorem Terminal.LeftOf.validate {terminal terminal' : Terminal} (left : terminal.LeftOf terminal')
    {flags : RegexFlags} (valid : Lexer.validate flags terminal = .ok ()) :
    Lexer.validate flags terminal' = .ok () := by
  rcases left.pattern with ⟨raw, pattern⟩
  rcases Lexer.compiles_of_validate valid with ⟨compiled, compiles⟩
  rcases Terminal.exists_width_of_validate valid with ⟨width, measured, proper⟩
  have compiles' : Regex.compile terminal'.pattern.expression flags = .ok compiled := by
    rw [pattern]
    exact compiles
  have measured' : terminal'.pattern.width = .ok width := by
    rw [pattern]
    exact measured
  exact Lexer.validate_eq_ok compiles' measured' proper

namespace Lexer

theorem reported_complaint (undefined : List String) : (complaint undefined []).Reported := by
  cases undefined <;> exact trivial

/-- A lexer for valid terminals is made, or something is ignored that is not there. -/
theorem make_fair {settings : LexerSettings}
    (valid : ∀ terminal ∈ settings.terminals, validate settings.flags terminal = .ok ())
    (strays : settings.strays = []) (number : Nat) :
    Fair (fun _ => True) (make number settings) := by
  have measurable : ∀ terminal ∈ settings.terminals, terminal.Measurable :=
    fun terminal member =>
    (Terminal.exists_width_of_validate (valid terminal member)).imp fun _ known => known.1
  rcases exists_inOrder measurable with ⟨ordered, went⟩
  have checked : Fair (fun _ => True) (check settings) := by
    unfold check
    split
    · exact .ok trivial
    · refine (Fair.fine (forM_of_forall valid)).bind fun _ _ => ?_
      unfold checkIgnored
      rw [strays]
      split
      · exact .ok trivial
      · exact .error (reported_complaint _)
  rw [make_eq, went]
  exact checked.bind fun _ _ => .ok trivial

end Lexer

/-! ## Reductions -/

namespace Shape

/-- A rule of which something is lost has a shape if the rule did. -/
theorem exists_ofRule_left {rule rule' : Rule} (left : rule.LeftOf rule')
    {placeholders placeholders' : Bool} (fewer : placeholders' = true → placeholders = true)
    {shape : Shape} (shaped : ofRule rule placeholders = .ok shape) :
    ∃ shape', ofRule rule' placeholders' = .ok shape' := by
  have accounted : marks rule' placeholders' = [] ∨
      (marks rule' placeholders').count false = rule'.expansion.length := by
    cases wanted : placeholders' with
    | false => exact .inl rfl
    | true =>
        have before := (ofRule_eq_ok shaped).1
        rw [fewer wanted] at before
        simp only [marks, if_true] at before ⊢
        rw [left.length]
        rcases left.marks with same | none
        · rwa [same]
        · exact .inl none
  have marked : (if placeholders' = true then rule'.options.emptyIndices else []) =
    marks rule' placeholders' := rfl
  have gapped : (if (marks rule' placeholders').isEmpty = true then []
    else runsOfTrue (marks rule' placeholders')) = gaps (marks rule' placeholders') := rfl
  simp only [ofRule, marked, gapped]
  rw [if_pos (by simpa using accounted)]
  split
  · exact ⟨_, rfl⟩
  · exact ⟨_, rfl⟩

end Shape

namespace Reductions

theorem ofShapes_fair {growth : Growth}
    (builds : ∀ label, ∃ build, growth.builder label = .ok build)
    {shapes : List (Rule × Shape)} :
    ∀ made, Fair (fun _ => True) (ofShapes growth shapes made) := by
  induction shapes with
  | nil => exact fun _ => .ok trivial
  | cons pair rest ih =>
      intro made
      rcases pair with ⟨rule, shape⟩
      rcases builds rule.label with ⟨build, built⟩
      simp only [ofShapes]
      refine (Fair.fine built).bind fun _ _ => ?_
      split
      · exact .error trivial
      · exact ih _

/-- Rules of which something is lost have reductions, unless two of them are the same rule now. -/
theorem make_fair {growth growth' : Growth} {rules rules' : List Rule} {kinds : List String}
    {reductions : Reductions} (made : make growth rules kinds = .ok reductions)
    (none : growth.transformer = none) (none' : growth'.transformer = .none)
    (usable : growth'.nodes = .unusable → growth.nodes = .unusable)
    (fewer : growth'.placeholders = true → growth.placeholders = true)
    (left : List.Forall₂ Rule.LeftOf rules rules') (kinds' : List String) :
    Fair (fun _ => True) (make growth' rules' kinds') := by
  have each := (make_eq_ok made).1
  have shapes : Fair (fun _ => True) (rules'.mapM fun rule => do
      return (rule, ← Shape.ofRule rule growth'.placeholders)) := by
    refine Fair.mapM_each fun rule' listed' => ?_
    rcases exists_of_mem_right left listed' with ⟨rule, listed, left⟩
    rcases exists_of_mem_left each listed with ⟨_, _, _, shape, _, shaped, _⟩
    rcases Shape.exists_ofRule_left left fewer shaped with ⟨shape', shaped'⟩
    exact (Fair.fine shaped').bind fun _ _ => .ok trivial
  cases left with
  | nil => exact .ok trivial
  | cons _ _ =>
      have builds (label : String) : ∃ build, growth'.builder label = .ok build := by
        have proper : growth'.nodes ≠ .unusable := by
          intro unusable
          rcases exists_of_mem_left each List.mem_cons_self with ⟨_, _, _, _, _, _, built, _⟩
          simp only [Growth.builder, none, usable unusable] at built
          cases built
        simp only [Growth.builder, none', if_neg proper]
        exact ⟨_, rfl⟩
      unfold make
      refine shapes.bind fun shapes _ => (ofShapes_fair builds []).bind fun _ _ => ?_
      exact .ok trivial

end Reductions

/-! ## Parsers -/

/-- Whether options are those that are left of others that data says. Their flags hold for all
terminals in the same way. -/
structure Options.LeftOf (options options' : Options) : Prop where
  starts : (∀ start ∈ options.starts, start.asText?.isSome = true) →
    ∀ start ∈ options'.starts, start.asText?.isSome = true
  placeholders : options'.placeholders.holds = true → options.placeholders.holds = true
  nodes : options'.nodes = .unusable → options.nodes = .unusable
  transformer : ∀ transformer, options.transformer = .ok transformer →
    transformer = none ∧ options'.transformer = .ok none
  callbacks : ∀ callbacks, options.callbacks = .ok callbacks → options'.callbacks = .ok []
  postLexer : ∀ postLexer, options.postLexer = .ok postLexer → options'.postLexer = .ok none
  flags : ∀ flags, options.regexFlags = .ok flags → options'.regexFlags = .ok flags

namespace Parser

variable {terminals terminals' : List Terminal} {rules rules' : List Rule} {table : Table State}
  {ignored ignored' : List Data} {options options' : Options} {before after : Workspace}
  {parser : Parser}

theorem checkStart_fair {start : Data} (text : start.asText?.isSome = true) (table : Table State) :
    Fair (fun _ => True) (checkStart table start) := by
  cases start with
  | text name =>
      simp only [checkStart]
      split
      · exact .ok trivial
      · exact .error trivial
  | _ => cases text

theorem usable_eq_ok {α : Type} {value : Except Fault α} {result : α}
    (went : usable value = .ok result) : value = .ok result := by
  cases value with
  | error _ => cases went
  | ok _ =>
      cases went
      rfl

/-- The lexers of a parser can be made of valid terminals, unless something is ignored that is not
there. -/
theorem makeSource_fair {settings : LexerSettings}
    (valid : ∀ terminal ∈ settings.terminals,
      Lexer.validate settings.flags terminal = .ok ())
    (strays : settings.strays = []) (none : options.postLexer = .ok none) (table : Table State)
    (number : Nat) : Fair (fun _ => True) (makeSource options settings table number) := by
  have postLexer : usable options.postLexer = .ok .none := by rw [none]; rfl
  unfold makeSource
  split
  · refine (Fair.fine postLexer).bind fun _ _ => ?_
    have measurable : ∀ terminal ∈ settings.terminals, terminal.Measurable :=
      fun terminal member =>
        (Terminal.exists_width_of_validate (valid terminal member)).imp fun _ known => known.1
    have made (states : List (State × List String)) (alwaysAccepted : List String) :
        Fair (fun _ => True) (ContextualLexer.make number settings states alwaysAccepted) := by
      refine (Lexer.make_fair valid strays number).bind fun _ _ => ?_
      have exists_went : ∃ found, ContextualLexer.makeLexers settings alwaysAccepted number []
          states = .ok found :=
        ContextualLexer.exists_makeLexers measurable alwaysAccepted number []
      rcases exists_went with ⟨_, went⟩
      exact (Fair.fine went).bind fun _ _ => .ok trivial
    exact (made _ _).bind fun _ _ => .ok trivial
  · refine (Lexer.make_fair valid strays number).bind fun _ _ => ?_
    exact (Fair.fine postLexer).bind fun _ _ => .ok trivial

/-- A parser ignores what texts name and nothing else. -/
theorem texts_of_make
    (made : (make terminals rules table ignored options).Yields before parser after) :
    ∀ name ∈ ignored, name.asText?.isSome = true := by
  rcases assemble_of_make made with ⟨_, assembled, _⟩
  simp only [assemble, bind_eq_ok] at assembled
  rcases assembled with ⟨_, _, _, _, _, _, _, _, _, _, _, _, _, wholeMade, _⟩
  have none : ignored.filter (fun name => name.asText?.isNone) = [] :=
    Lexer.strays_of_check (Lexer.check_of_make wholeMade) rfl
  rw [List.filter_eq_nil_iff] at none
  exact fun name member => Option.isSome_iff_ne_none.mpr (by simpa using none name member)

/-- The post-lexer of a parser that has a source of tokens can be used. -/
theorem exists_postLexer {settings : LexerSettings} {number : Nat} {made : TokenSource × Nat}
    (sourced : makeSource options settings table number = .ok made) :
    ∃ postLexer, options.postLexer = .ok postLexer := by
  unfold makeSource at sourced
  split at sourced
  · rcases bind_eq_ok.mp sourced with ⟨postLexer, used, _⟩
    exact ⟨postLexer, usable_eq_ok used⟩
  · rcases bind_eq_ok.mp sourced with ⟨_, _, sourced⟩
    rcases bind_eq_ok.mp sourced with ⟨postLexer, used, _⟩
    exact ⟨postLexer, usable_eq_ok used⟩

/-- The flags for all terminals can still be used, and are the same. -/
theorem flagsFor_left (terminalsLeft : List.Forall₂ Terminal.LeftOf terminals terminals')
    (optionsLeft : options.LeftOf options') {flags : RegexFlags}
    (flagged : flagsFor terminals options = .ok flags) :
    flagsFor terminals' options' = .ok flags := by
  have emptiness : terminals'.isEmpty = terminals.isEmpty := by
    cases terminalsLeft <;> rfl
  unfold flagsFor at flagged ⊢
  rw [emptiness]
  split at flagged
  next empty =>
    rw [if_pos empty]
    exact flagged
  next some =>
    rw [if_neg some, optionsLeft.flags _ (usable_eq_ok flagged)]
    rfl

/-- The start symbols that are left are texts. -/
theorem texts_left_of_checkStart (optionsLeft : options.LeftOf options')
    (started : options.starts.forM (checkStart table) = .ok ()) :
    ∀ start ∈ options'.starts, start.asText?.isSome = true := by
  refine optionsLeft.starts fun start member => ?_
  rcases texts_of_checkStart started start member with ⟨name, rfl⟩
  rfl

/-- A parser is made of what is left of a grammar from which one was made, or it is reported what is
wrong with it. -/
theorem make_fair (made : (make terminals rules table ignored options).Yields before parser after)
    (terminalsLeft : List.Forall₂ Terminal.LeftOf terminals terminals')
    (rulesLeft : List.Forall₂ Rule.LeftOf rules rules') (optionsLeft : options.LeftOf options')
    (names : ∀ name ∈ ignored', name.asText?.isSome = true) (table' : Table State) :
    (make terminals' rules' table' ignored' options').Fair fun _ => True := by
  rcases assemble_of_make made with ⟨count, assembled, _⟩
  simp only [assemble, bind_eq_ok] at assembled
  rcases assembled with
    ⟨_, started, transformer, transformed, reductions, reduced, callbacks, called, flags, flagged,
      _, sourced, whole, wholeMade, _⟩
  rcases optionsLeft.transformer _ (usable_eq_ok transformed) with ⟨rfl, transformer'⟩
  rcases exists_postLexer sourced with ⟨postLexer, postLexes⟩
  have postLexer' := optionsLeft.postLexer _ postLexes
  have used : usable options'.transformer = .ok none := by rw [transformer']; rfl
  have called' : usable options'.callbacks = .ok [] := by
    rw [optionsLeft.callbacks _ (usable_eq_ok called)]
    rfl
  have flagged' := flagsFor_left terminalsLeft optionsLeft flagged
  have starts := texts_left_of_checkStart optionsLeft started
  have strays : ignored'.filter (fun name => name.asText?.isNone) = [] := by
    rw [List.filter_eq_nil_iff]
    exact fun name member => by simp [Option.isSome_iff_ne_none.mp (names name member)]
  have valid : ∀ terminal ∈ terminals', Lexer.validate flags terminal = .ok () := by
    intro terminal' listed'
    rcases exists_of_mem_right terminalsLeft listed' with ⟨terminal, listed, left⟩
    exact left.validate (Lexer.validate_of_make wholeMade rfl terminal listed)
  unfold make
  rw [Run.forIn_lift]
  refine .bind (.lift (Fair.forM fun start member => checkStart_fair (starts start member) table'))
    fun _ _ => ?_
  rw [Run.lift_bind_of_ok used]
  refine .bind (.lift (Reductions.make_fair reduced rfl rfl optionsLeft.nodes
    optionsLeft.placeholders rulesLeft _)) fun reductions' _ => ?_
  rw [Run.lift_bind_of_ok called']
  refine (Run.lift_bind_of_ok flagged' _).symm ▸ ?_
  refine .bind .get fun workspace _ => ?_
  have source (number : Nat) : Fair (fun _ => True)
      (makeSource options' (settings terminals' ignored' [] flags) table' number) :=
    makeSource_fair valid strays postLexer' table' number
  refine .bind (.lift (source _)) ?_
  rintro ⟨source, count⟩ _
  have lexer (number : Nat) : Fair (fun _ => True)
      (Lexer.make number (settings terminals' ignored' [] flags)) :=
    Lexer.make_fair valid strays number
  have keeping (number : Nat) : Fair (fun _ => True) (Lexer.make number
      { settings terminals' ignored' [] flags with ignored := [], strays := [] }) :=
    Lexer.make_fair valid rfl number
  dsimp only
  split
  · refine .bind (.modify _) fun _ _ => ?_
    refine .bind (.lift (lexer _)) fun _ _ => .bind (.lift (keeping _)) fun _ _ => ?_
    exact .bind (.modify _) fun _ _ => .bind (.modify _) fun _ _ => .pure trivial
  · refine .bind (.lift (lexer _)) fun _ _ => .bind (.lift (keeping _)) fun _ _ => ?_
    exact .bind (.modify _) fun _ _ => .bind (.modify _) fun _ _ => .pure trivial

end Parser
end Lalr
