import Lalr.Proofs.Lexer.Narrowing
import Lalr.Proofs.Lexer.Ordering
import Lalr.Proofs.Regex.Literals

/-!
# What the lexer of a state finds where the root lexer finds it

The lexer of a state tries some of the terminals, in the order that they have among all. It
may try literals that the root lexer leaves to an expression that is not one of them. Where
none of these gets ahead of what the root lexer finds, and where a literal that the root
lexer finds by way of an expression is not overtaken in the state, the two lexers find the
same tokens, as long as the state expects them.
-/

namespace Lalr

/-- What the first of some terminals finds, the first of those that are kept finds as well if it is
kept itself. -/
theorem Scanner.firstOf_filter {flags : RegexFlags} {whole : Bool} {text : Array Char}
    {position : Nat} {terminals : List Terminal} (keeps : String → Bool)
    (named : ∀ match_, firstOf flags whole text position terminals = some match_ →
      keeps match_.2 = true) :
    firstOf flags whole text position (terminals.filter fun terminal => keeps terminal.name) =
      firstOf flags whole text position terminals := by
  unfold firstOf at named ⊢
  induction terminals with
  | nil => rfl
  | cons terminal rest ih =>
      rw [List.findSome?_cons] at named ⊢
      cases stops : terminal.stop? flags whole text position with
      | none =>
          rw [stops] at named
          rw [List.filter_cons]
          split
          · rw [List.findSome?_cons, stops]
            exact ih named
          · exact ih named
      | some stop =>
          rw [stops] at named
          have kept : keeps terminal.name = true := named _ rfl
          rw [List.filter_cons, if_pos kept, List.findSome?_cons, stops]
          rfl

namespace Vocabulary

variable {flags : RegexFlags} {terminals : List Terminal} {vocabulary : Vocabulary}

/-- A plain scanner finds what the first of its terminals finds. -/
theorem matchAt_eq (yields : (prepare terminals flags).Yields vocabulary)
    (plain : vocabulary.Plain flags) (text : Array Char) (position : Nat) :
    vocabulary.scanner.matchAt text position =
      Scanner.firstOf flags false text position vocabulary.scanner.terminals := by
  rcases prepare_yields yields with ⟨left, made, _⟩
  rw [plain.scanner, (Scanner.make_eq_ok made).2]

/-- All terminals are tried in order but those that are replaced. -/
theorem mem_tried (yields : (prepare terminals flags).Yields vocabulary) {terminal : Terminal} :
    terminal ∈ vocabulary.scanner.terminals ↔
      terminal ∈ terminals ∧ ¬Replaced flags terminals terminal.name := by
  rcases prepare_yields yields with ⟨left, made, ⟨replaced, names, rfl⟩, _⟩
  rw [(Scanner.make_eq_ok made).1, List.mem_filter, ← names]
  simp

theorem tried_sublist (yields : (prepare terminals flags).Yields vocabulary) :
    vocabulary.scanner.terminals.Sublist terminals := by
  rcases prepare_yields yields with ⟨left, made, ⟨replaced, names, rfl⟩, _⟩
  rw [(Scanner.make_eq_ok made).1]
  exact List.filter_sublist

/-- Where all names are different, a token becomes the first literal that its terminal absorbs and
that matches the whole of its text. -/
theorem kindOf_eq (distinct : (terminals.map Terminal.name).Nodup)
    (yields : (prepare terminals flags).Yields vocabulary) (plain : vocabulary.Plain flags)
    {terminal : Terminal} (member : terminal ∈ terminals) (text : String) :
    vocabulary.kindOf terminal.name text =
      ((Scanner.firstOf flags true text.toList.toArray 0 (absorbedBy flags terminals terminal)).map
        Prod.snd).getD terminal.name := by
  rcases prepare_yields yields with ⟨_, _, _, scanners, settled, each⟩
  have keys : scanners.map (·.1) = (terminals.filter fun expression =>
      !(absorbedBy flags terminals expression).isEmpty).map Terminal.name := by
    rw [← List.forall₂_eq_eq_eq, List.forall₂_map_left_iff, List.forall₂_map_right_iff]
    exact (each.imp fun _ _ entry => entry.1).flip
  have different : (scanners.map (·.1)).Nodup := by
    rw [keys]
    exact distinct.sublist (List.filter_sublist.map _)
  rw [Data.settle_of_distinct different] at settled
  unfold kindOf
  by_cases nothing : absorbedBy flags terminals terminal = []
  · have unknown : terminal.name ∉ scanners.map (·.1) := by
      rw [keys]
      intro listed
      rcases List.mem_map.mp listed with ⟨expression, absorbing, same⟩
      rcases List.mem_filter.mp absorbing with ⟨member', absorbing⟩
      rcases List.inj_on_of_nodup_map distinct member' member same with rfl
      simp [nothing] at absorbing
    rw [settled, assoc?_of_notMem unknown, nothing]
    rfl
  · have absorbing : terminal ∈ terminals.filter fun expression =>
        !(absorbedBy flags terminals expression).isEmpty := by
      simpa [member] using nothing
    rcases exists_of_mem_left each absorbing with ⟨entry, listed, named, made⟩
    rcases Scanner.make_eq_ok made with ⟨tried, whole⟩
    rw [settled, ← named, assoc?_of_mem different listed]
    dsimp only
    rw [plain.absorbed entry (by rwa [settled]), tried, whole]
    cases Scanner.firstOf flags true text.toList.toArray 0
      (absorbedBy flags terminals terminal) <;> rfl

/-- Where all names are different, a token that does not keep the name of its terminal gets that of
a literal that the terminal absorbs, and the literal matches the whole of its text. -/
theorem exists_of_kindOf_ne (distinct : (terminals.map Terminal.name).Nodup)
    (yields : (prepare terminals flags).Yields vocabulary) (plain : vocabulary.Plain flags)
    {terminal : Terminal} (member : terminal ∈ terminals) {text : String}
    (turns : vocabulary.kindOf terminal.name text ≠ terminal.name) :
    ∃ literal ∈ absorbedBy flags terminals terminal,
      vocabulary.kindOf terminal.name text = literal.name ∧
        ∃ stop, literal.stop? flags true text.toList.toArray 0 = some stop := by
  have kind := kindOf_eq distinct yields plain member text
  cases absorbed : Scanner.firstOf flags true text.toList.toArray 0
      (absorbedBy flags terminals terminal) with
  | none =>
      rw [absorbed] at kind
      exact absurd kind turns
  | some match_ =>
      rcases match_ with ⟨stop, name⟩
      rw [absorbed] at kind
      rcases Scanner.firstOf_eq_some.mp absorbed with
        ⟨before, literal, after, listed, stops, rfl, _⟩
      refine ⟨literal, ?_, kind, stop, stops⟩
      rw [listed]
      simp

end Vocabulary

/-- Two items of a list without repetitions stand in one order only. -/
theorem not_sublist_swap {α : Type} {items : List α} {a b : α} (distinct : items.Nodup)
    (first : [a, b].Sublist items) : ¬[b, a].Sublist items := by
  induction items with
  | nil => cases first
  | cons item items ih =>
      rcases List.nodup_cons.mp distinct with ⟨fresh, distinct⟩
      intro second
      cases first with
      | cons _ first =>
          cases second with
          | cons _ second => exact ih distinct first second
          | cons_cons _ second => exact fresh (first.subset (by simp))
      | cons_cons _ first =>
          cases second with
          | cons _ second => exact fresh (second.subset (by simp))
          | cons_cons _ second => exact fresh (List.singleton_sublist.mp first)

namespace ContextualLexer

/-- The lexer that is made for some of the names, beside the root lexer. Both vocabularies can be
prepared, and are plain. -/
structure Beside (settings : LexerSettings) (names : List String) (root own : Lexer)
    (rootVocabulary ownVocabulary : Vocabulary) : Prop where
  distinct : (settings.terminals.map Terminal.name).Nodup
  rooted : ∃ number, Lexer.make number settings = .ok root
  made : ∃ number, Lexer.make number (settingsFor settings names) = .ok own
  rootPrepared : root.vocabulary.get.1 = .ok rootVocabulary
  prepared : own.vocabulary.get.1 = .ok ownVocabulary
  rootPlain : rootVocabulary.Plain settings.flags
  plain : ownVocabulary.Plain settings.flags

/-- The positions of a text that a scanner comes to from one on, as long as it finds what is
ignored. -/
inductive Passes (scanner : Scanner) (ignored : List String) (text : Array Char) (first : Nat) :
    Nat → Prop
  | start : Passes scanner ignored text first first
  | skip {position stop : Nat} {name : String}
      (passes : Passes scanner ignored text first position) (within : position < text.size)
      (found : scanner.matchAt text position = some (stop, name)) (skipped : name ∈ ignored) :
      Passes scanner ignored text first (position + (text.extract position stop).size)

/-- Whether nothing gets in the way of what the root lexer finds at a position and a state expects.
A literal that only the lexer of the state tries does not match where the root lexer finds a
terminal that is tried after it. And where the root lexer finds a literal of the state by way of an
expression that is not tried there, the first terminal to match in the state is the literal or
another expression that becomes the literal there, and the state does not ignore it. -/
structure Undisputed (settings : LexerSettings) (names : List String) (root own : Vocabulary)
    (text : Array Char) (position : Nat) : Prop where
  kept : ∀ {stop : Nat} {terminal literal : Terminal},
    root.scanner.matchAt text position = some (stop, terminal.name) →
    (terminal.name ∈ settings.ignored ∨
      root.kindOf terminal.name (String.ofList (text.extract position stop).toList) ∈ names) →
    [literal, terminal].Sublist own.scanner.terminals → literal ∉ root.scanner.terminals →
    literal.stop? settings.flags false text position = none
  turned : ∀ {stop : Nat} {name : String} {literal : Terminal},
    root.scanner.matchAt text position = some (stop, name) → name ∉ settings.ignored →
    name ∉ names → literal ∈ settings.terminals → literal.name ∈ names →
    root.kindOf name (String.ofList (text.extract position stop).toList) = literal.name →
    ∃ ready ∈ own.scanner.terminals, ready.name ∉ settings.ignored ∧
      (ready = literal ∨
        own.kindOf ready.name (String.ofList (text.extract position stop).toList) = literal.name ∧
          ready.stop? settings.flags false text position =
            some (position + (text.extract position stop).size)) ∧
      ∀ other, [other, ready].Sublist own.scanner.terminals →
        other.stop? settings.flags false text position = none

namespace Beside

variable {settings : LexerSettings} {names : List String} {root own : Lexer}
  {rootVocabulary ownVocabulary : Vocabulary} {text : Array Char}
  {position stop : Nat} {name : String}

theorem rootYields (beside : Beside settings names root own rootVocabulary ownVocabulary) :
    (Vocabulary.prepare root.terminals settings.flags).Yields rootVocabulary := by
  rcases beside.rooted with ⟨number, rooted⟩
  rcases Lexer.make_eq_ok.mp rooted with ⟨_, ordered, _, rfl⟩
  exact ⟨[], _, Prod.ext beside.rootPrepared rfl⟩

theorem yields (beside : Beside settings names root own rootVocabulary ownVocabulary) :
    (Vocabulary.prepare own.terminals settings.flags).Yields ownVocabulary := by
  rcases beside.made with ⟨number, made⟩
  rcases Lexer.make_eq_ok.mp made with ⟨_, ordered, _, rfl⟩
  exact ⟨[], _, Prod.ext beside.prepared rfl⟩

/-- The terminals of the state stand in the order of all terminals. -/
theorem terminals_eq (beside : Beside settings names root own rootVocabulary ownVocabulary) :
    own.terminals = root.terminals.filter fun terminal => names.contains terminal.name := by
  rcases beside.rooted with ⟨number, rooted⟩
  rcases beside.made with ⟨number', made⟩
  rcases Lexer.make_eq_ok.mp rooted with ⟨_, ordered, went, rfl⟩
  rcases Lexer.make_eq_ok.mp made with ⟨_, ordered', went', rfl⟩
  rw [terminals_settingsFor beside.distinct, Lexer.inOrder_filter beside.distinct went] at went'
  exact (Except.ok.inj went').symm

theorem mem_terminals (beside : Beside settings names root own rootVocabulary ownVocabulary)
    {terminal : Terminal} :
    terminal ∈ own.terminals ↔ terminal ∈ root.terminals ∧ terminal.name ∈ names := by
  rw [beside.terminals_eq, List.mem_filter, List.contains_iff_mem]

theorem perm (beside : Beside settings names root own rootVocabulary ownVocabulary) :
    root.terminals.Perm settings.terminals := by
  rcases beside.rooted with ⟨number, rooted⟩
  rcases Lexer.make_eq_ok.mp rooted with ⟨_, ordered, went, rfl⟩
  exact Lexer.perm_of_inOrder went

theorem nodup (beside : Beside settings names root own rootVocabulary ownVocabulary) :
    (root.terminals.map Terminal.name).Nodup :=
  (beside.perm.map Terminal.name).nodup_iff.mpr beside.distinct

theorem nodup_own (beside : Beside settings names root own rootVocabulary ownVocabulary) :
    (own.terminals.map Terminal.name).Nodup := by
  rw [beside.terminals_eq]
  exact beside.nodup.sublist (List.filter_sublist.map _)

/-- What the root lexer tries is tried in the state, if it is one of its terminals. -/
theorem tried (beside : Beside settings names root own rootVocabulary ownVocabulary)
    {terminal : Terminal} (member : terminal ∈ rootVocabulary.scanner.terminals)
    (expected : terminal.name ∈ names) : terminal ∈ ownVocabulary.scanner.terminals := by
  rcases (Vocabulary.mem_tried beside.rootYields).mp member with ⟨listed, kept⟩
  have fewer : own.terminals ⊆ root.terminals := by
    rw [beside.terminals_eq]
    exact List.filter_subset_self _
  exact (Vocabulary.mem_tried beside.yields).mpr
    ⟨beside.mem_terminals.mpr ⟨listed, expected⟩,
      fun replaced => kept (replaced.mono fewer)⟩

/-- What both lexers try, they try in one order. -/
theorem ordered (beside : Beside settings names root own rootVocabulary ownVocabulary)
    {terminal other : Terminal}
    (first : [terminal, other].Sublist rootVocabulary.scanner.terminals) :
    ¬[other, terminal].Sublist ownVocabulary.scanner.terminals := by
  intro second
  have within := second.trans (Vocabulary.tried_sublist beside.yields)
  rw [beside.terminals_eq] at within
  exact not_sublist_swap (List.Nodup.of_map _ beside.nodup)
    (first.trans (Vocabulary.tried_sublist beside.rootYields)) (within.trans List.filter_sublist)

/-- A plain scanner finds a terminal that matches if no other that is tried before it does. -/
theorem matchAt_eq_some {flags : RegexFlags} {terminals : List Terminal} {vocabulary : Vocabulary}
    (yields : (Vocabulary.prepare terminals flags).Yields vocabulary)
    (plain : vocabulary.Plain flags) {terminal : Terminal}
    (member : terminal ∈ vocabulary.scanner.terminals)
    (stops : terminal.stop? flags false text position = some stop)
    (first : ∀ other, [other, terminal].Sublist vocabulary.scanner.terminals →
      other.stop? flags false text position = none) :
    vocabulary.scanner.matchAt text position = some (stop, terminal.name) := by
  rcases List.append_of_mem member with ⟨before, after, split⟩
  rw [Vocabulary.matchAt_eq yields plain, Scanner.firstOf_eq_some]
  refine ⟨before, terminal, after, split, stops, rfl, fun other earlier => first other ?_⟩
  rw [split]
  exact (List.singleton_sublist.mpr earlier).append (List.singleton_sublist.mpr (by simp))

/-- Where the root lexer finds a terminal of the state, so does the lexer of the state. -/
theorem matchAt_kept (beside : Beside settings names root own rootVocabulary ownVocabulary)
    (undisputed : Undisputed settings names rootVocabulary ownVocabulary text position)
    (found : rootVocabulary.scanner.matchAt text position = some (stop, name))
    (wanted : name ∈ settings.ignored ∨
      rootVocabulary.kindOf name (String.ofList (text.extract position stop).toList) ∈ names)
    (expected : name ∈ names) :
    ownVocabulary.scanner.matchAt text position = some (stop, name) := by
  have here := found
  rw [Vocabulary.matchAt_eq beside.rootYields beside.rootPlain, Scanner.firstOf_eq_some] at here
  rcases here with ⟨before, terminal, after, split, stops, rfl, first⟩
  have member : terminal ∈ ownVocabulary.scanner.terminals :=
    beside.tried (by rw [split]; simp) expected
  refine matchAt_eq_some beside.yields beside.plain member stops fun other earlier => ?_
  by_cases shared : other ∈ rootVocabulary.scanner.terminals
  · rw [split] at shared
    rcases List.mem_append.mp shared with ahead | later
    · exact first other ahead
    · rcases List.mem_cons.mp later with rfl | later
      · have twice := (earlier.trans (Vocabulary.tried_sublist beside.yields)).nodup
          (List.Nodup.of_map _ beside.nodup_own)
        simp at twice
      · -- The root lexer tries it afterwards, and so does the lexer of the state.
        refine absurd earlier (beside.ordered ?_)
        rw [split]
        exact ((List.singleton_sublist.mpr later).cons_cons terminal).trans
          (List.sublist_append_right before _)
  · exact undisputed.kept found wanted earlier shared

/-- The literals that an expression absorbs in the state are those of the state that it absorbs
among all. -/
theorem absorbedBy_eq (beside : Beside settings names root own rootVocabulary ownVocabulary)
    (terminal : Terminal) :
    Vocabulary.absorbedBy settings.flags own.terminals terminal =
      (Vocabulary.absorbedBy settings.flags root.terminals terminal).filter fun literal =>
        names.contains literal.name := by
  rw [beside.terminals_eq]
  simp only [Vocabulary.absorbedBy, Vocabulary.literals, List.filter_filter]
  refine List.filter_congr fun literal _ => ?_
  ac_rfl

/-- A token of a terminal of the state becomes the same literal in the state if the literal is one
of the state. -/
theorem kindOf_kept (beside : Beside settings names root own rootVocabulary ownVocabulary)
    {terminal : Terminal} (member : terminal ∈ root.terminals)
    (expected : terminal.name ∈ names) {text : String}
    (turned : rootVocabulary.kindOf terminal.name text ∈ names) :
    ownVocabulary.kindOf terminal.name text = rootVocabulary.kindOf terminal.name text := by
  have member' := beside.mem_terminals.mpr ⟨member, expected⟩
  rw [Vocabulary.kindOf_eq beside.nodup beside.rootYields beside.rootPlain member] at turned ⊢
  rw [Vocabulary.kindOf_eq beside.nodup_own beside.yields beside.plain member',
    beside.absorbedBy_eq]
  rw [Scanner.firstOf_filter names.contains]
  cases found : Scanner.firstOf settings.flags true text.toList.toArray 0
      (Vocabulary.absorbedBy settings.flags root.terminals terminal) with
  | none => simp
  | some match_ =>
      rw [found] at turned
      intro _ same
      cases same
      exact List.contains_iff_mem.mpr turned

/-- Where the root lexer finds a literal of the state by way of an expression that is not one of the
state, the lexer of the state finds the literal as well. -/
theorem matchAt_turned (beside : Beside settings names root own rootVocabulary ownVocabulary)
    (undisputed : Undisputed settings names rootVocabulary ownVocabulary text position)
    (found : rootVocabulary.scanner.matchAt text position = some (stop, name))
    (kept : name ∉ settings.ignored) (unexpected : name ∉ names)
    (turned : rootVocabulary.kindOf name
      (String.ofList (text.extract position stop).toList) ∈ names) :
    ∃ name', name' ∉ settings.ignored ∧
      ownVocabulary.scanner.matchAt text position =
        some (position + (text.extract position stop).size, name') ∧
      ownVocabulary.kindOf name' (String.ofList (text.extract position stop).toList) =
        rootVocabulary.kindOf name (String.ofList (text.extract position stop).toList) := by
  have here := found
  rw [Vocabulary.matchAt_eq beside.rootYields beside.rootPlain, Scanner.firstOf_eq_some] at here
  rcases here with ⟨_, terminal, _, split, _, rfl, _⟩
  have tried : terminal ∈ rootVocabulary.scanner.terminals := by
    rw [split]
    simp
  have member := ((Vocabulary.mem_tried beside.rootYields).mp tried).1
  rcases Vocabulary.exists_of_kindOf_ne beside.nodup
      beside.rootYields beside.rootPlain member fun same => unexpected (same ▸ turned) with
    ⟨literal, absorbs, kind, stop', whole⟩
  rw [String.toList_ofList, Array.toArray_toList] at whole
  rcases Vocabulary.mem_absorbedBy.mp absorbs with ⟨among, isLiteral, _⟩
  rw [kind] at turned
  rcases undisputed.turned found kept unexpected (beside.perm.mem_iff.mp among) turned kind with
    ⟨ready, readyTried, kept, same | ⟨becomes, stops⟩, first⟩
  · subst same
    refine ⟨ready.name, kept, matchAt_eq_some beside.yields beside.plain readyTried
      (Terminal.stop?_of_extract isLiteral whole) first, ?_⟩
    have among : ready ∈ own.terminals := ((Vocabulary.mem_tried beside.yields).mp readyTried).1
    have nothing : Vocabulary.absorbedBy settings.flags own.terminals ready = [] := by
      refine List.filter_eq_nil_iff.mpr fun other _ => ?_
      simp [Vocabulary.absorbs, isLiteral]
    rw [Vocabulary.kindOf_eq beside.nodup_own beside.yields beside.plain among, nothing]
    exact kind.symm
  · exact ⟨ready.name, kept, matchAt_eq_some beside.yields beside.plain readyTried stops first,
      becomes.trans kind.symm⟩

/-- Where a state has all the expressions that absorb its literals, there is nothing to dispute
about. -/
theorem undisputed_of_absorbing
    (beside : Beside settings names root own rootVocabulary ownVocabulary)
    (absorbing : ∀ literal ∈ settings.terminals, literal.name ∈ names →
      ∀ expression ∈ settings.terminals,
        Vocabulary.absorbs settings.flags expression literal = true → expression.name ∈ names)
    (text : Array Char) (position : Nat) :
    Undisputed settings names rootVocabulary ownVocabulary text position where
  kept := by
    intro stop terminal literal _ _ earlier untried
    have tried := (Vocabulary.mem_tried beside.yields).mp (earlier.subset (List.mem_cons_self ..))
    rcases beside.mem_terminals.mp tried.1 with ⟨listed, expected⟩
    by_cases replaced : Vocabulary.Replaced settings.flags root.terminals literal.name
    · rcases replaced with ⟨expression, among, other, absorbed, replaces, same⟩
      rcases Vocabulary.mem_absorbedBy.mp absorbed with ⟨otherListed, isLiteral, absorbs⟩
      rcases List.inj_on_of_nodup_map beside.nodup otherListed listed same with rfl
      have known := absorbing other (beside.perm.mem_iff.mp listed) expected expression
        (beside.perm.mem_iff.mp among) absorbs
      exact absurd ⟨expression, beside.mem_terminals.mpr ⟨among, known⟩, other,
        Vocabulary.mem_absorbedBy.mpr ⟨tried.1, isLiteral, absorbs⟩, replaces, rfl⟩ tried.2
    · exact absurd ((Vocabulary.mem_tried beside.rootYields).mpr ⟨listed, replaced⟩) untried
  turned := by
    intro stop name literal found _ unexpected _ expected turned
    rcases Vocabulary.exists_of_matchAt beside.rootYields beside.rootPlain found with
      ⟨terminal, member, rfl, _⟩
    have turns : rootVocabulary.kindOf terminal.name
        (String.ofList (text.extract position stop).toList) ≠ terminal.name := by
      intro same
      rw [← same, turned] at unexpected
      exact unexpected expected
    rcases Vocabulary.exists_of_kindOf_ne beside.nodup
        beside.rootYields beside.rootPlain member turns with
      ⟨other, absorbed, same, _⟩
    rcases Vocabulary.mem_absorbedBy.mp absorbed with ⟨among, _, absorbs⟩
    refine absurd (absorbing other (beside.perm.mem_iff.mp among) ?_ terminal
      (beside.perm.mem_iff.mp member) absorbs) unexpected
    rw [← same, turned]
    exact expected

end Beside

end ContextualLexer

/-- Whether two cursors are at the same position of one text. They may disagree about the line that
this is in, and about the token that came last. -/
structure Cursor.Aligned (first second : Cursor) : Prop where
  text : first.text = second.text
  position : first.counter.position = second.counter.position

/-- Whether two tokens are the same apart from where they lie. -/
structure Token.Alike (first second : Token) : Prop where
  kind : first.kind = second.kind
  text : first.text = second.text
  payload : first.payload = second.payload

namespace Lexer

theorem position_cut_extract (lexer : Lexer) (cursor : Cursor) (stop : Nat) (name : String) :
    (lexer.cut cursor stop name).2.counter.position =
      cursor.counter.position + (cursor.text.extract cursor.counter.position stop).size := by
  simp only [cut, LineCounter.feed, Cursor.slice, String.toList_ofList, Array.length_toList]

end Lexer

namespace ContextualLexer.Beside

variable {settings : LexerSettings} {names : List String} {root own : Lexer}
  {rootVocabulary ownVocabulary : Vocabulary} {standing : Option Standing}

/-- What the root lexer finds somewhere in a text, the lexer of the state finds there if the state
expects it: the same piece of text, of the same kind. -/
theorem found_follows (beside : Beside settings names root own rootVocabulary ownVocabulary)
    {text : Array Char} {position stop : Nat} {name : String}
    (undisputed : Undisputed settings names rootVocabulary ownVocabulary text position)
    (found : rootVocabulary.scanner.matchAt text position = some (stop, name))
    (kept : name ∉ settings.ignored)
    (expected :
      rootVocabulary.kindOf name (String.ofList (text.extract position stop).toList) ∈ names) :
    ∃ stop' name', ownVocabulary.scanner.matchAt text position = some (stop', name') ∧
      name' ∉ settings.ignored ∧ text.extract position stop' = text.extract position stop ∧
      ownVocabulary.kindOf name' (String.ofList (text.extract position stop).toList) =
        rootVocabulary.kindOf name (String.ofList (text.extract position stop).toList) := by
  by_cases tried : name ∈ names
  · rcases Vocabulary.exists_of_matchAt beside.rootYields beside.rootPlain found with
      ⟨terminal, member, rfl, _⟩
    exact ⟨stop, _, beside.matchAt_kept undisputed found (.inr expected) tried, kept,
      rfl, beside.kindOf_kept member tried expected⟩
  · rcases beside.matchAt_turned undisputed found kept tried expected with
      ⟨name', kept', matched, same⟩
    refine ⟨_, name', matched, kept', ?_, same⟩
    apply Array.ext
    · simp
      omega
    · intro index _ _
      simp

/-- Where the root lexer comes to the end of the text, or to a token that the state expects, the
lexer of the state comes to the end or to the same token, and both are at the same position then.
Induction on the tokens that are looked at: those that are ignored are passed over by both. -/
theorem findWithin_follows (beside : Beside settings names root own rootVocabulary ownVocabulary)
    (ignored : ∀ name ∈ settings.ignored, name ∈ names) {text : Array Char} {first : Nat}
    (undisputed : ∀ position,
      Passes rootVocabulary.scanner settings.ignored text first position →
        position < text.size →
        Undisputed settings names rootVocabulary ownVocabulary text position)
    (fuel : Nat) : ∀ {cursor cursor' met : Cursor} {found : Option Token}, cursor.text = text →
      Passes rootVocabulary.scanner settings.ignored text first cursor.counter.position →
      cursor.Aligned cursor' →
      root.findWithin rootVocabulary standing fuel cursor = (.ok found, met) →
      (∀ token, found = some token → token.kind ∈ names) →
      ∃ found' met', own.findWithin ownVocabulary standing fuel cursor' = (.ok found', met') ∧
        Option.Rel Token.Alike found found' ∧ met.Aligned met' := by
  rcases beside.rooted with ⟨_, rooted⟩
  rcases beside.made with ⟨_, made⟩
  have rootIgnored : root.ignored = settings.ignored := Lexer.ignored_of_make rooted
  have ownIgnored : own.ignored = settings.ignored := (Lexer.ignored_of_make made).trans rfl
  induction fuel with
  | zero =>
      intro cursor cursor' met found same passes aligned went expected
      simp only [Lexer.findWithin, Prod.mk.injEq] at went
      rcases went with ⟨ended, rfl⟩
      split at ended
      next ends =>
        cases ended
        rw [aligned.text, aligned.position] at ends
        exact ⟨none, cursor', by rw [Lexer.findWithin, if_pos ends], .none, aligned⟩
      next => cases ended
  | succ fuel ih =>
      intro cursor cursor' met found same passes aligned went expected
      subst same
      simp only [Lexer.findWithin, rootIgnored] at went
      simp only [Lexer.findWithin, ownIgnored, ← aligned.text, ← aligned.position]
      split at went
      next ends =>
        cases went
        exact ⟨none, cursor', by rw [if_pos ends], .none, aligned⟩
      next going =>
        rw [if_neg going]
        have within := Nat.not_le.mp going
        have undisputed := undisputed _ passes within
        split at went
        next => cases went
        next stop name matched =>
          split at went
          next skipped =>
            have skipped' := List.contains_iff_mem.mp skipped
            have after : (root.cut cursor stop name).2.Aligned (own.cut cursor' stop name).2 := by
              refine ⟨aligned.text, ?_⟩
              rw [Lexer.position_cut_extract, Lexer.position_cut_extract, aligned.text,
                aligned.position]
            rw [beside.matchAt_kept undisputed matched (.inl skipped') (ignored name skipped')]
            simp only [skipped, if_true]
            refine ih (show (root.cut cursor stop name).2.text = cursor.text from rfl) ?_ after went
              expected
            rw [Lexer.position_cut_extract]
            exact .skip passes within matched skipped'
          next kept =>
            cases went
            rcases beside.found_follows undisputed
                matched (by simpa using kept) (expected _ rfl) with
              ⟨stop', name', matched', kept', piece, kind⟩
            have text : cursor'.slice cursor'.counter.position stop' =
                cursor.slice cursor.counter.position stop := by
              rw [Cursor.slice, ← aligned.text, ← aligned.position, piece]
              rfl
            rw [matched']
            simp only [List.contains_iff_mem, kept', if_false]
            refine ⟨_, _, rfl, .some ⟨?_, text.symm, rfl⟩, aligned.text, ?_⟩
            · show rootVocabulary.kindOf name (cursor.slice cursor.counter.position stop) =
                ownVocabulary.kindOf name' (cursor'.slice cursor'.counter.position stop')
              rw [text]
              exact kind.symm
            · show (root.cut cursor stop name).2.counter.position =
                (own.cut cursor' stop' name').2.counter.position
              rw [Lexer.position_cut_extract, Lexer.position_cut_extract, ← aligned.text,
                ← aligned.position, piece]

end ContextualLexer.Beside

end Lalr
