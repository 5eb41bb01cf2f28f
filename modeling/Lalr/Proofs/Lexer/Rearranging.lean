import Mathlib.Data.List.Dedup
import Lalr.Lexer.Stream
import Lalr.Proofs.Lexer.Ordering
import Lalr.Proofs.Lexer.Preparing

/-!
# Terminals in any order

Neither the order in which terminals are given nor the order in which the names for a state
are listed makes a difference, because terminals are put in order before anything else is made
of them. One thing does depend on the order: terminals are checked one by one, and the first
that does not pass decides how the whole fails. A terminal that can be compiled fails in
another way than one that cannot if its width cannot be told.
-/

namespace Lalr

/-! ## Sets of names -/

theorem eraseDups_thin {α : Type} [BEq α] [LawfulBEq α] (items : List α) :
    items.eraseDups.Sublist items ∧ items.eraseDups.Nodup := by
  induction size : items.length using Nat.strong_induction_on generalizing items with
  | _ size ih =>
      cases items with
      | nil => exact ⟨List.Sublist.refl _, List.nodup_nil⟩
      | cons item rest =>
          have fewer := List.length_filter_le (fun other => !other == item) rest
          have ⟨among, distinct⟩ := ih _ (by rw [← size, List.length_cons]; omega)
            (rest.filter fun other => !other == item) rfl
          rw [List.eraseDups_cons]
          refine ⟨(among.trans List.filter_sublist).cons_cons item,
            List.nodup_cons.mpr ⟨?_, distinct⟩⟩
          intro again
          simpa using (List.mem_filter.mp (among.mem again)).2

/-- A set of names has only one increasing list. -/
theorem sortedSet_congr {names names' : List String}
    (same : ∀ name, name ∈ names' ↔ name ∈ names) :
    sortedSet names' = sortedSet names := by
  have increasing (names : List String) : (sortedSet names).Pairwise (· ≤ ·) := by
    have sorted := @List.pairwise_mergeSort _ (fun a b : String => decide (a ≤ b))
      (by simpa using fun a b c => String.le_trans) (by simpa using String.le_total) names
    exact (sorted.sublist (eraseDups_thin _).1).imp of_decide_eq_true
  refine List.Perm.eq_of_pairwise (fun _ _ _ _ => String.le_antisymm)
    (increasing _) (increasing _) ?_
  refine (List.perm_ext_iff_of_nodup (eraseDups_thin _).2 (eraseDups_thin _).2).mpr fun name => ?_
  exact mem_sortedSet.trans ((same name).trans mem_sortedSet.symm)

/-! ## Making a lexer -/

/-- Whether one of the settings is the other with the terminals, and what is ignored, in another
order. -/
structure LexerSettings.Rearranged (settings settings' : LexerSettings) : Prop where
  terminals : settings'.terminals.Perm settings.terminals
  ignored : ∀ name, name ∈ settings'.ignored ↔ name ∈ settings.ignored
  strays : settings'.strays = settings.strays
  callbacks : settings'.callbacks = settings.callbacks
  flags : settings'.flags = settings.flags
  skipValidation : settings'.skipValidation = settings.skipValidation

/-- Whether checking a terminal has one of the two outcomes meant for it: it cannot be compiled, or
its width can be told. -/
structure Terminal.Judged (flags : RegexFlags) (terminal : Terminal) : Prop where
  refused : ∀ fault, Regex.compile terminal.pattern.expression flags = .error fault →
    fault = .malformed
  measurable : ∀ compiled, Regex.compile terminal.pattern.expression flags = .ok compiled →
    terminal.Measurable

/-- Whether settings are checked, and all that is checked has an outcome that is meant for it. -/
structure LexerSettings.Judged (settings : LexerSettings) : Prop where
  checks : settings.skipValidation = false
  named : settings.strays = []
  terminals : ∀ terminal ∈ settings.terminals, terminal.Judged settings.flags

/-- Whether a failure blames the terminals. -/
def Failure.IsLexical (failure : Failure) : Prop := ∃ cause, failure = .lexical cause

theorem forM_eq_error {α ε : Type} {step : α → Except ε Unit} {items : List α} {failure : ε}
    (failed : items.forM step = .error failure) :
    ∃ item ∈ items, step item = .error failure := by
  induction items with
  | nil => cases failed
  | cons item rest ih =>
      rw [forM_cons_eq] at failed
      cases first : step item with
      | error other =>
          rw [first] at failed
          cases failed
          exact ⟨item, List.mem_cons_self, first⟩
      | ok done =>
          rw [first] at failed
          rcases ih failed with ⟨later, listed, broken⟩
          exact ⟨later, List.mem_cons_of_mem _ listed, broken⟩

namespace Lexer

variable {settings settings' : LexerSettings} {number : Nat}

theorem isLexical_of_validate {flags : RegexFlags} {terminal : Terminal}
    (judged : terminal.Judged flags) {failure : Failure}
    (refused : validate flags terminal = .error failure) : failure.IsLexical := by
  unfold validate at refused
  cases compiles : Regex.compile terminal.pattern.expression flags with
  | error fault =>
      rcases judged.refused fault compiles with rfl
      rw [compiles] at refused
      cases refused
      exact ⟨_, rfl⟩
  | ok compiled =>
      rcases judged.measurable compiled compiles with ⟨width, measures⟩
      rw [compiles, measures] at refused
      have refused : (if width.least == 0 then
          .error (.lexical (.zeroWidth terminal.name terminal.pattern.shown))
        else .ok () : Except Failure Unit) = .error failure := refused
      split at refused
      · cases refused
        exact ⟨_, rfl⟩
      · cases refused

theorem isLexical_of_check (judged : settings.Judged) {failure : Failure}
    (refused : check settings = .error failure) : failure.IsLexical := by
  rw [check, judged.checks, if_neg Bool.false_ne_true] at refused
  cases validated : settings.terminals.forM (validate settings.flags) with
  | error failure' =>
      rw [validated] at refused
      cases refused
      rcases forM_eq_error validated with ⟨terminal, listed, broken⟩
      exact isLexical_of_validate (judged.terminals terminal listed) broken
  | ok done =>
      rw [validated] at refused
      have refused : checkIgnored settings = .error failure := refused
      rw [checkIgnored, judged.named] at refused
      split at refused
      next => cases refused
      next =>
        cases refused
        exact ⟨_, rfl⟩

/-- If all that is checked has an outcome that is meant for it, no lexer is refused for another
reason. -/
theorem isLexical_of_make (judged : settings.Judged) {failure : Failure}
    (refused : make number settings = .error failure) : failure.IsLexical := by
  rw [make_eq] at refused
  cases checked : check settings with
  | error failure' =>
      rw [checked] at refused
      cases refused
      exact isLexical_of_check judged checked
  | ok done =>
      rcases exists_inOrder (measurable_of_check checked judged.checks) with ⟨ordered, went⟩
      rw [checked, went] at refused
      cases refused

end Lexer

namespace LexerSettings.Rearranged

variable {settings settings' : LexerSettings}

theorem symm (rearranged : settings.Rearranged settings') : settings'.Rearranged settings where
  terminals := rearranged.terminals.symm
  ignored name := (rearranged.ignored name).symm
  strays := rearranged.strays.symm
  callbacks := rearranged.callbacks.symm
  flags := rearranged.flags.symm
  skipValidation := rearranged.skipValidation.symm

theorem judged (rearranged : settings.Rearranged settings') (judged : settings.Judged) :
    settings'.Judged where
  checks := rearranged.skipValidation.trans judged.checks
  named := rearranged.strays.trans judged.named
  terminals terminal listed :=
    rearranged.flags ▸ judged.terminals terminal (rearranged.terminals.subset listed)

theorem distinct (rearranged : settings.Rearranged settings')
    (distinct : (settings.terminals.map Terminal.name).Nodup) :
    (settings'.terminals.map Terminal.name).Nodup :=
  (rearranged.terminals.map _).nodup_iff.mpr distinct

/-- Settings pass if they pass in another order. -/
theorem check (rearranged : settings.Rearranged settings')
    (checked : Lexer.check settings = .ok ()) :
    Lexer.check settings' = .ok () := by
  unfold Lexer.check at checked ⊢
  rw [rearranged.skipValidation]
  split at checked
  next skips => rw [if_pos skips]
  next checks =>
    rcases bind_eq_ok.mp checked with ⟨⟨⟩, validated, named⟩
    have validated' : settings'.terminals.forM (Lexer.validate settings'.flags) = .ok () := by
      refine forM_of_forall fun terminal listed => ?_
      rw [rearranged.flags]
      exact forM_eq_ok validated terminal (rearranged.terminals.subset listed)
    rw [if_neg checks, validated']
    show Lexer.checkIgnored settings' = .ok ()
    unfold Lexer.checkIgnored at named ⊢
    rw [rearranged.strays]
    split at named
    next defined strays =>
      have defined' : settings'.ignored.filter
          (fun name => !(settings'.terminals.map Terminal.name).contains name) = [] := by
        rw [List.filter_eq_nil_iff] at defined ⊢
        intro name listed
        have known := defined name ((rearranged.ignored name).mp listed)
        simpa [(rearranged.terminals.map Terminal.name).mem_iff] using known
      rw [defined', strays]
    next => cases named

end LexerSettings.Rearranged

namespace Lexer

variable {settings settings' : LexerSettings} {number : Nat} {lexer lexer' : Lexer}

/-- Whether two lexers are the same apart from the order of what they ignore. -/
def Alike (lexer lexer' : Lexer) : Prop :=
  ∃ ignored, (∀ name, name ∈ ignored ↔ name ∈ lexer.ignored) ∧
    lexer' = { lexer with ignored }

/-- Lexers for the same terminals in another order are alike. -/
theorem make_rearranged (rearranged : settings.Rearranged settings')
    (distinct : (settings.terminals.map Terminal.name).Nodup)
    (made : make number settings = .ok lexer) :
    ∃ lexer', make number settings' = .ok lexer' ∧ lexer.Alike lexer' := by
  rcases make_eq_ok.mp made with ⟨checked, ordered, went, rfl⟩
  refine ⟨ofOrdered number settings' ordered, make_eq_ok.mpr ⟨rearranged.check checked, ordered,
    inOrder_perm distinct rearranged.terminals went, rfl⟩, settings'.ignored,
    rearranged.ignored, ?_⟩
  simp only [ofOrdered, rearranged.callbacks, rearranged.flags]

/-- A lexer goes on in the same way whatever the order of what it ignores. Induction on the number
of tokens that are looked at. -/
theorem Alike.nextWithin (alike : lexer.Alike lexer') (standing : Option Standing) (fuel : Nat) :
    ∀ cursor, lexer'.nextWithin standing fuel cursor = lexer.nextWithin standing fuel cursor := by
  rcases alike with ⟨ignored, same, rfl⟩
  have contains (name : String) : ignored.contains name = lexer.ignored.contains name := by
    rw [Bool.eq_iff_iff, List.contains_iff_mem, List.contains_iff_mem, same]
  have stuck (vocabulary : Vocabulary) (cursor : Cursor) :
      { lexer with ignored }.stuck vocabulary cursor standing =
        lexer.stuck vocabulary cursor standing := by
    simp only [Lexer.stuck, allowed, contains]
  induction fuel with
  | zero => exact fun cursor => rfl
  | succ fuel ih =>
      intro cursor
      simp only [Lexer.nextWithin, stuck, contains, ih]
      rfl

theorem Alike.next (alike : lexer.Alike lexer') (standing : Option Standing) (cursor : Cursor) :
    lexer'.next standing cursor = lexer.next standing cursor :=
  alike.nextWithin standing _ cursor

end Lexer

/-- An order for every set of names. -/
structure Listing where
  list : List String → List String
  nodup : ∀ names, (list names).Nodup
  mem_list : ∀ {names name}, name ∈ list names ↔ name ∈ names

namespace ContextualLexer

variable {settings settings' : LexerSettings} {alwaysAccepted alwaysAccepted' : List String}
  {states states' : List (State × List String)} {number count : Nat}

/-- The settings of the lexer for a set of names, with the terminals in the order in which the names
are listed. -/
def listedSettings (settings : LexerSettings) (listed : List String) : LexerSettings :=
  let byName := Data.settle (settings.terminals.map fun terminal => (terminal.name, terminal))
  { settings with terminals := listed.filterMap (assoc? byName), skipValidation := true }

/-- Makes the lexers of some states from terminals in the order in which their names are listed. -/
def makeListed (settings : LexerSettings) (alwaysAccepted : List String) (listing : Listing)
    (root : Nat) : List (List String × Lexer) → List (State × List String) →
      Except Failure (List (State × Lexer) × Nat)
  | made, [] => return ([], made.length)
  | made, (state, names) :: rest => do
    let key := sortedSet names
    match assoc? made key with
    | some lexer =>
      let (lexers, count) ← makeListed settings alwaysAccepted listing root made rest
      return ((state, lexer) :: lexers, count)
    | none =>
      let tried := listing.list (names ++ settings.ignored ++ alwaysAccepted)
      let lexer ← Lexer.make (root + made.length + 1) (listedSettings settings tried)
      let (lexers, count) ←
        makeListed settings alwaysAccepted listing root ((key, lexer) :: made) rest
      return ((state, lexer) :: lexers, count)

/-- The lexers for some states, made from terminals in the order in which their names are listed. -/
def makeInOrder (number : Nat) (settings : LexerSettings) (states : List (State × List String))
    (alwaysAccepted : List String) (listing : Listing) :
    Except Failure (ContextualLexer × Nat) := do
  let root ← Lexer.make number settings
  let (lexers, count) ← makeListed settings alwaysAccepted listing number [] states
  return ({ lexers, root }, count)

theorem distinct_settingsFor (distinct : (settings.terminals.map Terminal.name).Nodup)
    (names : List String) : ((settingsFor settings names).terminals.map Terminal.name).Nodup := by
  rw [terminals_settingsFor distinct]
  exact distinct.sublist (List.filter_sublist.map _)

/-- What is listed are the terminals for the set of names, in some order. -/
theorem perm_listedSettings (distinct : (settings.terminals.map Terminal.name).Nodup)
    (listing : Listing) (names : List String) :
    (listedSettings settings (listing.list names)).terminals.Perm
      (settingsFor settings names).terminals := by
  have keys : ((settings.terminals.map fun terminal => (terminal.name, terminal)).map
      (·.1)).Nodup := by
    rw [List.map_map]
    exact distinct
  have known {name : String} {terminal : Terminal} :
      assoc? (settings.terminals.map fun terminal => (terminal.name, terminal)) name =
        some terminal ↔ terminal ∈ settings.terminals ∧ terminal.name = name := by
    constructor
    · intro found
      rcases List.mem_map.mp (mem_of_assoc? found) with ⟨_, listed, pair⟩
      cases pair
      exact ⟨listed, rfl⟩
    · rintro ⟨listed, rfl⟩
      exact assoc?_of_mem keys (List.mem_map_of_mem listed)
  rw [terminals_settingsFor distinct]
  simp only [listedSettings, Data.settle_of_distinct keys]
  refine (List.perm_ext_iff_of_nodup ((listing.nodup names).filterMap ?_)
    ((distinct.of_map _).filter _)).mpr fun terminal => ?_
  · intro name name' terminal found found'
    exact (known.mp found).2.symm.trans (known.mp found').2
  · rw [List.mem_filterMap, List.mem_filter, List.contains_iff_mem]
    constructor
    · rintro ⟨name, listed, found⟩
      rcases known.mp found with ⟨member, rfl⟩
      exact ⟨member, listing.mem_list.mp listed⟩
    · rintro ⟨member, listed⟩
      exact ⟨_, listing.mem_list.mpr listed, known.mpr ⟨member, rfl⟩⟩

/-- The lexers of the states are the same in whatever order names are listed. Induction on the
states. -/
theorem makeListed_of_makeLexers (distinct : (settings.terminals.map Terminal.name).Nodup)
    (listing : Listing) {root : Nat} {found : List (State × Lexer) × Nat} :
    ∀ {made}, makeLexers settings alwaysAccepted root made states = .ok found →
      makeListed settings alwaysAccepted listing root made states = .ok found := by
  induction states generalizing found with
  | nil => exact fun went => went
  | cons place rest ih =>
      intro made went
      rw [makeLexers] at went
      rw [makeListed]
      cases known : assoc? made (sortedSet place.2) with
      | some lexer =>
          simp only [known] at went ⊢
          rcases bind_eq_ok.mp went with ⟨others, others_went, done⟩
          exact bind_eq_ok.mpr ⟨others, ih others_went, done⟩
      | none =>
          simp only [known] at went ⊢
          rcases bind_eq_ok.mp went with ⟨lexer, new, went⟩
          rcases bind_eq_ok.mp went with ⟨others, others_went, done⟩
          rcases Lexer.make_eq_ok.mp new with ⟨_, ordered, sorted, rfl⟩
          have listed := Lexer.inOrder_perm (distinct_settingsFor distinct _)
            (perm_listedSettings distinct listing _) sorted
          exact bind_eq_ok.mpr ⟨_, Lexer.make_eq_ok.mpr ⟨rfl, ordered, listed, rfl⟩,
            bind_eq_ok.mpr ⟨others, ih others_went, done⟩⟩

/-- Once there is a root lexer, the lexers of the states can be made. -/
theorem exists_make_of_root {root : Lexer} (rooted : Lexer.make number settings = .ok root)
    (states : List (State × List String)) (alwaysAccepted : List String) :
    ∃ found, makeLexers settings alwaysAccepted number [] states = .ok found ∧
      make number settings states alwaysAccepted =
        .ok ({ lexers := found.1, root }, found.2) := by
  rcases Lexer.make_eq_ok.mp rooted with ⟨_, ordered, went, _⟩
  rcases @exists_makeLexers settings (Lexer.measurable_of_inOrder went)
      alwaysAccepted number states [] with
    ⟨found, made⟩
  exact ⟨found, made, bind_eq_ok.mpr ⟨root, rooted, bind_eq_ok.mpr ⟨found, made, rfl⟩⟩⟩

/-- Nothing depends on the order in which the names for a state are listed. -/
theorem makeInOrder_eq (distinct : (settings.terminals.map Terminal.name).Nodup)
    (listing : Listing) :
    makeInOrder number settings states alwaysAccepted listing =
      make number settings states alwaysAccepted := by
  cases rooted : Lexer.make number settings with
  | error failure =>
      rw [makeInOrder, make, rooted]
      rfl
  | ok root =>
      rcases exists_make_of_root rooted states alwaysAccepted with ⟨found, went, made⟩
      rw [made]
      exact bind_eq_ok.mpr ⟨root, rooted, bind_eq_ok.mpr
        ⟨found, makeListed_of_makeLexers distinct listing went, rfl⟩⟩

/-- Whether the same keys come with lexers that are alike. -/
def LexersAlike {κ : Type} : List (κ × Lexer) → List (κ × Lexer) → Prop :=
  List.Forall₂ fun entry entry' => entry.1 = entry'.1 ∧ entry.2.Alike entry'.2

/-- Whether two lexers are alike in each state. -/
structure Alike (lexer lexer' : ContextualLexer) : Prop where
  lexers : LexersAlike lexer.lexers lexer'.lexers
  root : lexer.root.Alike lexer'.root

/-- Whether the same states come with the same sets of names. -/
def SameStates : List (State × List String) → List (State × List String) → Prop :=
  List.Forall₂ fun place place' => place.1 = place'.1 ∧
    ∀ name, name ∈ place'.2 ↔ name ∈ place.2

theorem SameStates.symm (same : SameStates states states') : SameStates states' states :=
  List.Forall₂.flip (same.imp fun _ _ place =>
    ⟨place.1.symm, fun name => (place.2 name).symm⟩)

/-- Settings in another order give the lexer of a state the same terminals, in another order. -/
theorem rearranged_settingsFor (rearranged : settings.Rearranged settings')
    (distinct : (settings.terminals.map Terminal.name).Nodup) {names names' : List String}
    (same : ∀ name, name ∈ names' ↔ name ∈ names) :
    (settingsFor settings names).Rearranged (settingsFor settings' names') where
  terminals := by
    rw [settingsFor_congr same, terminals_settingsFor distinct,
      terminals_settingsFor (rearranged.distinct distinct)]
    exact rearranged.terminals.filter _
  ignored := rearranged.ignored
  strays := rearranged.strays
  callbacks := rearranged.callbacks
  flags := rearranged.flags
  skipValidation := rfl

/-- The lexers of the states are alike for settings in another order. Induction on the states: the
lexers made so far are for the same sets of names. -/
theorem makeLexers_rearranged (rearranged : settings.Rearranged settings')
    (distinct : (settings.terminals.map Terminal.name).Nodup)
    (accepted : ∀ name, name ∈ alwaysAccepted' ↔ name ∈ alwaysAccepted)
    (same : SameStates states states') {root : Nat} {lexers : List (State × Lexer)} :
    ∀ {made made'}, LexersAlike made made' →
      makeLexers settings alwaysAccepted root made states = .ok (lexers, count) →
      ∃ lexers', makeLexers settings' alwaysAccepted' root made' states' = .ok
        (lexers', count) ∧
        LexersAlike lexers lexers' := by
  induction same generalizing lexers count with
  | nil =>
      intro made made' before went
      cases went
      exact ⟨[], by rw [makeLexers, before.length_eq]; rfl, .nil⟩
  | @cons place place' rest rest' first _ ih =>
      intro made made' before went
      rcases place with ⟨state, names⟩
      rcases place' with ⟨_, names'⟩
      rcases first with ⟨rfl, names_same⟩
      rw [makeLexers] at went ⊢
      rw [sortedSet_congr names_same]
      have related := assoc?_alike before (sortedSet names)
      generalize assoc? made (sortedSet names) = known at went related
      generalize assoc? made' (sortedSet names) = known' at related ⊢
      cases related with
      | @some lexer lexer' alike =>
          rcases bind_eq_ok.mp went with ⟨⟨others, _⟩, others_went, done⟩
          cases done
          rcases ih before others_went with ⟨others', others_went', each⟩
          exact ⟨(state, lexer') :: others', bind_eq_ok.mpr ⟨_, others_went', rfl⟩,
            .cons ⟨rfl, alike⟩ each⟩
      | none =>
          rcases bind_eq_ok.mp went with ⟨lexer, new, went⟩
          rcases bind_eq_ok.mp went with ⟨⟨others, _⟩, others_went, done⟩
          cases done
          have tried : ∀ name, name ∈ names' ++ settings'.ignored ++ alwaysAccepted' ↔
              name ∈ names ++ settings.ignored ++ alwaysAccepted := fun name => by
            simp only [List.mem_append, names_same, rearranged.ignored, accepted]
          rcases Lexer.make_rearranged
              (rearranged_settingsFor rearranged distinct tried)
                (distinct_settingsFor distinct _) new with
            ⟨lexer', new', alike⟩
          rw [before.length_eq] at new'
          have before' : LexersAlike ((sortedSet names, lexer) :: made)
              ((sortedSet names, lexer') :: made') := .cons ⟨rfl, alike⟩ before
          rcases ih before' others_went with ⟨others', others_went', each⟩
          exact ⟨(state, lexer') :: others',
            bind_eq_ok.mpr ⟨lexer', new', bind_eq_ok.mpr ⟨_, others_went', rfl⟩⟩,
            .cons ⟨rfl, alike⟩ each⟩

/-- Contextual lexers for the same terminals in another order are alike. -/
theorem make_rearranged (rearranged : settings.Rearranged settings')
    (distinct : (settings.terminals.map Terminal.name).Nodup)
    (accepted : ∀ name, name ∈ alwaysAccepted' ↔ name ∈ alwaysAccepted)
    (same : SameStates states states') {lexer : ContextualLexer}
    (made : make number settings states alwaysAccepted = .ok (lexer, count)) :
    ∃ lexer', make number settings' states' alwaysAccepted' = .ok (lexer', count) ∧
      lexer.Alike lexer' := by
  rcases bind_eq_ok.mp made with ⟨root, rooted, made⟩
  rcases bind_eq_ok.mp made with ⟨⟨lexers, _⟩, went, done⟩
  cases done
  rcases Lexer.make_rearranged rearranged distinct rooted with ⟨root', rooted', alike⟩
  rcases makeLexers_rearranged rearranged distinct accepted same .nil went with
    ⟨lexers', went', each⟩
  exact ⟨⟨lexers', root'⟩,
    bind_eq_ok.mpr ⟨root', rooted', bind_eq_ok.mpr ⟨_, went', rfl⟩⟩, each,
    alike⟩

/-- A contextual lexer is refused only if its root lexer is. -/
theorem root_of_make_eq_error {failure : Failure}
    (refused : make number settings states alwaysAccepted = .error failure) :
    Lexer.make number settings = .error failure := by
  cases rooted : Lexer.make number settings with
  | error other =>
      rw [make, rooted] at refused
      cases refused
      rfl
  | ok root =>
      rcases exists_make_of_root rooted states alwaysAccepted with ⟨found, _, made⟩
      rw [made] at refused
      cases refused

theorem Alike.next {lexer lexer' : ContextualLexer} (alike : lexer.Alike lexer')
    (standing : Option Standing) (cursor : Cursor) :
    lexer'.next standing cursor = lexer.next standing cursor := by
  unfold ContextualLexer.next
  cases standing with
  | none => rfl
  | some place =>
      dsimp only
      have related := assoc?_alike alike.lexers place.state
      generalize assoc? lexer.lexers place.state = own at related ⊢
      generalize assoc? lexer'.lexers place.state = own' at related ⊢
      cases related with
      | none => rfl
      | some same => simp only [same.next, alike.root.next]

end ContextualLexer

/-! ## Reading -/

namespace Reader

/-- Reads a text token by token, where what the tokens so far have made of the parse says where it
stands. At most `limit` tokens are taken. -/
def readAlong (reader : Reader) (stands : List Token → Option Standing) :
    Nat → List Token → Cursor → Work (List Token × Option Failure)
  | 0, tokens, _ => return (tokens, none)
  | limit + 1, tokens, cursor => do
    match ← reader.next (stands tokens) cursor with
    | (.error failure, _) => return (tokens, some failure)
    | (.ok none, _) => return (tokens, none)
    | (.ok (some token), cursor) => reader.readAlong stands limit (tokens ++ [token]) cursor

/-- Whether two readers give the same tokens and failures, one by one and along every run of states
of a parse. -/
structure Agrees (reader reader' : Reader) : Prop where
  next : ∀ standing cursor, reader'.next standing cursor = reader.next standing cursor
  readAlong : ∀ stands limit tokens cursor,
    reader'.readAlong stands limit tokens cursor = reader.readAlong stands limit tokens cursor

/-- Readers that agree on the next token agree along every run. Induction on the number of tokens
that are taken. -/
theorem agrees_of_next {reader reader' : Reader}
    (next : ∀ standing cursor, reader'.next standing cursor = reader.next standing cursor) :
    reader.Agrees reader' where
  next
  readAlong stands limit := by
    induction limit with
    | zero => exact fun tokens cursor => rfl
    | succ limit ih =>
        intro tokens cursor
        simp only [Reader.readAlong, next, ih]

/-- How two attempts to make readers from the same terminals end: both readers are made and agree,
or both are refused, and both with the blame on the terminals if every terminal has an outcome that
is meant for it. -/
inductive MadeAlike (settings : LexerSettings) : Except Failure Reader →
    Except Failure Reader → Prop
  | made {reader reader' : Reader} (agrees : reader.Agrees reader') :
      MadeAlike settings (.ok reader) (.ok reader')
  | refused {failure failure' : Failure}
      (lexical : settings.Judged → failure.IsLexical ∧ failure'.IsLexical) :
      MadeAlike settings (.error failure) (.error failure')

theorem MadeAlike.agrees {settings : LexerSettings} {reader : Reader}
    {answer : Except Failure Reader} (alike : MadeAlike settings (.ok reader) answer) :
    ∃ reader', answer = .ok reader' ∧ reader.Agrees reader' := by
  cases alike with
  | made agrees => exact ⟨_, rfl, agrees⟩

/-- Attempts end alike if the second succeeds, with what gives the same tokens, whenever the first
does, and the first whenever the second does. -/
theorem madeAlike_of {α : Type} {settings : LexerSettings} {answer answer' : Except Failure α}
    {reader : α → Reader}
    (onward : ∀ {made}, answer = .ok made → ∃ made', answer' = .ok made' ∧
      ∀ standing cursor, (reader made').next standing cursor = (reader made).next standing cursor)
    (back : ∀ {made'}, answer' = .ok made' → ∃ made, answer = .ok made)
    (lexical : ∀ {failure failure'}, answer = .error failure → answer' = .error failure' →
      settings.Judged → failure.IsLexical ∧ failure'.IsLexical) :
    MadeAlike settings (answer.map reader) (answer'.map reader) := by
  cases made : answer with
  | ok first =>
      rcases onward made with ⟨second, made', next⟩
      rw [made']
      exact .made (agrees_of_next next)
  | error failure =>
      cases made' : answer' with
      | ok second =>
          rcases back made' with ⟨_, made''⟩
          rw [made] at made''
          cases made''
      | error failure' => exact .refused (lexical made made')

variable {settings settings' : LexerSettings}

/-- Nothing about a lexer depends on the order in which terminals with different names are given,
nor on the order of what is ignored. Either both orders give a lexer, and these give the same tokens
and the same failures, with the same terminals allowed, on every text and along every run of states;
or both are refused, and both with the blame on the terminals if every terminal either cannot be
compiled or has a width that can be told. The same goes for lexers that know the state of the parse,
in whatever order the names for each state are listed. -/
theorem made_in_any_order (rearranged : settings.Rearranged settings')
    (distinct : (settings.terminals.map Terminal.name).Nodup) (number : Nat) :
    MadeAlike settings ((Lexer.make number settings).map .basic)
        ((Lexer.make number settings').map .basic) ∧
      ∀ {states states' : List (State × List String)}
        {alwaysAccepted alwaysAccepted' : List String}
        (listing listing' : Listing), ContextualLexer.SameStates states states' →
        (∀ name, name ∈ alwaysAccepted' ↔ name ∈ alwaysAccepted) →
          MadeAlike settings
            ((ContextualLexer.makeInOrder number settings states alwaysAccepted listing).map
              (.contextual ·.1))
            ((ContextualLexer.makeInOrder number settings' states' alwaysAccepted' listing').map
              (.contextual ·.1)) ∧
          ContextualLexer.makeInOrder number settings states alwaysAccepted listing =
            ContextualLexer.make number settings states alwaysAccepted := by
  have lexical {failure failure' : Failure} (refused : Lexer.make number settings = .error failure)
      (refused' : Lexer.make number settings' = .error failure') (judged : settings.Judged) :
      failure.IsLexical ∧ failure'.IsLexical :=
    ⟨Lexer.isLexical_of_make judged refused,
      Lexer.isLexical_of_make (rearranged.judged judged) refused'⟩
  constructor
  · refine madeAlike_of (fun made => ?_) (fun made' => ?_) lexical
    · rcases Lexer.make_rearranged rearranged distinct made with ⟨lexer', made', alike⟩
      exact ⟨lexer', made', alike.next⟩
    · rcases Lexer.make_rearranged rearranged.symm (rearranged.distinct distinct) made' with
        ⟨lexer, made, _⟩
      exact ⟨lexer, made⟩
  · intro states states' alwaysAccepted alwaysAccepted' listing listing' same accepted
    refine ⟨?_, ContextualLexer.makeInOrder_eq distinct listing⟩
    rw [ContextualLexer.makeInOrder_eq distinct,
      ContextualLexer.makeInOrder_eq (rearranged.distinct distinct)]
    refine madeAlike_of (fun made => ?_) (fun made' => ?_) fun refused refused' =>
      lexical (ContextualLexer.root_of_make_eq_error refused)
        (ContextualLexer.root_of_make_eq_error refused')
    · rcases ContextualLexer.make_rearranged rearranged distinct accepted same made with
        ⟨lexer', made', alike⟩
      exact ⟨_, made', alike.next⟩
    · rcases ContextualLexer.make_rearranged rearranged.symm
          (rearranged.distinct distinct) (fun name => (accepted name).symm) same.symm made' with
        ⟨lexer, made, _⟩
      exact ⟨_, made⟩

end Reader

/-- Names in the order in which they come. -/
def Listing.forward : Listing := ⟨List.dedup, List.nodup_dedup, List.mem_dedup⟩

/-- Names from the last to the first. -/
def Listing.backward : Listing where
  list names := names.dedup.reverse
  nodup names := List.nodup_reverse.mpr (List.nodup_dedup names)
  mem_list := List.mem_reverse.trans List.mem_dedup

namespace Reader

def small : Terminal where
  name := "SMALL"
  pattern := { kind := .expression, value := "a" }

def blank : Terminal where
  name := "BLANK"
  pattern := { kind := .expression, value := " " }

def smallSettings (terminals : List Terminal) : LexerSettings where
  terminals
  ignored := ["BLANK"]

theorem made_in_any_order_small :
    ∃ reader reader' : Reader,
      (ContextualLexer.makeInOrder 0 (smallSettings [small, blank])
        [(.number 0, ["SMALL", "$END"])] []
        .forward).map (.contextual ·.1) = .ok reader ∧
      (ContextualLexer.makeInOrder 0 (smallSettings [blank, small])
        [(.number 0, ["$END", "SMALL"])] []
        .backward).map (.contextual ·.1) = .ok reader' ∧ reader.Agrees reader' := by
  have rearranged : (smallSettings [small, blank]).Rearranged (smallSettings [blank, small]) :=
    ⟨List.Perm.swap _ _ _, fun _ => Iff.rfl, rfl, rfl, rfl, rfl⟩
  have distinct : ((smallSettings [small, blank]).terminals.map Terminal.name).Nodup := by decide
  have same : ContextualLexer.SameStates [(.number 0, ["SMALL", "$END"])]
      [(.number 0, ["$END", "SMALL"])] :=
    .cons ⟨rfl, fun _ => (List.Perm.swap _ _ _).mem_iff⟩ .nil
  rcases @exists_of_isSome _ _ (Lexer.make 0 (smallSettings [small, blank]))
      (by decide +kernel) with
    ⟨root, rooted⟩
  rcases ContextualLexer.exists_make_of_root rooted [(.number 0, ["SMALL", "$END"])] [] with
    ⟨found, _, went⟩
  rcases (made_in_any_order rearranged distinct 0).2 .forward .backward same fun _ => Iff.rfl with
    ⟨alike, listed⟩
  rw [listed, went] at alike
  rcases alike.agrees with ⟨reader', there, agrees⟩
  exact ⟨_, reader', by rw [listed, went]; rfl, there, agrees⟩

/-- An expression that cannot be read. -/
def opening : Terminal where
  name := "OPENING"
  pattern := { kind := .expression, value := "(" }

/-- An expression that can be read only where it may hold a comment. -/
def remark : Terminal where
  name := "REMARK"
  pattern := { kind := .expression, value := "a#)" }

def verboseSettings (terminals : List Terminal) : LexerSettings where
  terminals
  flags := { verbose := true }

/-- Which of two terminals comes first decides whether the blame is on the terminals. -/
theorem refused_out_of_order :
    (verboseSettings [opening, remark]).Rearranged (verboseSettings [remark, opening]) ∧
      ([opening, remark].map Terminal.name).Nodup ∧
      Lexer.make 0 (verboseSettings [opening, remark]) =
        .error (.lexical (.uncompilable "OPENING" "'('")) ∧
      Lexer.make 0 (verboseSettings [remark, opening]) = .error (.unmeasurable "a#)") ∧
      ¬(Failure.unmeasurable "a#)").IsLexical := by
  refine ⟨⟨List.Perm.swap _ _ _, fun _ => Iff.rfl, rfl, rfl, rfl, rfl⟩, by decide,
    eq_error_of_failureOf? (by decide +kernel), eq_error_of_failureOf? (by decide +kernel), ?_⟩
  rintro ⟨_, wrong⟩
  cases wrong

end Reader

end Lalr
