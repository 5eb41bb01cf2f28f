import Lalr.Lexer.Contextual
import Lalr.Proofs.Pairs
import Lalr.Proofs.Runs

/-!
# Making lexers

To make a lexer is to check its settings and to put its terminals in order. Everything
else about it follows from the settings.
-/

namespace Lalr.Lexer

/-- Checks what is to be ignored: all of it has to be the names of terminals. -/
def checkIgnored (settings : LexerSettings) : Except Failure Unit :=
  match settings.ignored.filter fun name => !(settings.terminals.map Terminal.name).contains name,
    settings.strays with
  | [], [] => .ok ()
  | undefined, strays => .error (complaint undefined strays)

/-- Checks settings, unless they have been checked before. -/
def check (settings : LexerSettings) : Except Failure Unit :=
  if settings.skipValidation then .ok ()
  else settings.terminals.forM (validate settings.flags) >>= fun _ => checkIgnored settings

/-- The lexer for terminals that are in order. -/
def ofOrdered (number : Nat) (settings : LexerSettings) (terminals : List Terminal) : Lexer where
  number
  terminals
  ignored := settings.ignored
  breaking := breakingNames terminals
  callbacks := settings.callbacks
  vocabulary := Thunk.mk fun _ => (Vocabulary.prepare terminals settings.flags).run.run []

theorem make_eq (number : Nat) (settings : LexerSettings) :
    make number settings =
      check settings >>= fun _ => (inOrder settings.terminals).map (ofOrdered number settings) := by
  unfold make check
  by_cases skips : settings.skipValidation = true
  · simp only [skips]
    rfl
  · simp only [skips, checkIgnored]
    cases settings.terminals.forM (validate settings.flags) with
    | error failure => rfl
    | ok checked =>
        generalize settings.ignored.filter _ = undefined
        generalize settings.strays = strays
        cases undefined <;> cases strays <;> rfl

/-- A lexer that has been made is the one for its terminals in order. -/
theorem make_eq_ok {number : Nat} {settings : LexerSettings} {lexer : Lexer} :
    make number settings = .ok lexer ↔
      check settings = .ok () ∧ ∃ ordered, inOrder settings.terminals = .ok ordered ∧
        lexer = ofOrdered number settings ordered := by
  rw [make_eq, bind_eq_ok]
  constructor
  · rintro ⟨⟨⟩, checked, made⟩
    refine ⟨checked, ?_⟩
    cases ordered : inOrder settings.terminals with
    | error failure =>
        rw [ordered] at made
        cases made
    | ok terminals =>
        rw [ordered] at made
        cases made
        exact ⟨terminals, rfl, rfl⟩
  · rintro ⟨checked, ordered, went, rfl⟩
    exact ⟨(), checked, by rw [went]; rfl⟩

/-- Where the terminals are in order already, a lexer holds what has been prepared for them. -/
theorem make_of_prepared {number : Nat} {settings : LexerSettings} {breaking : List String}
    {vocabulary : Except Failure Vocabulary × List String} (checked : check settings = .ok ())
    (sorted : inOrder settings.terminals = .ok settings.terminals)
    (breaks : breakingNames settings.terminals = breaking)
    (prepared : (Vocabulary.prepare settings.terminals settings.flags).run.run [] = vocabulary) :
    make number settings = .ok {
      number
      terminals := settings.terminals
      ignored := settings.ignored
      breaking
      callbacks := settings.callbacks
      vocabulary := Thunk.mk fun _ => vocabulary } := by
  refine make_eq_ok.mpr ⟨checked, _, sorted, ?_⟩
  rw [ofOrdered, breaks, prepared]

/-- A lexer that is made under another number is the same otherwise. -/
theorem make_number {number : Nat} {settings : LexerSettings} {lexer : Lexer}
    (made : make number settings = .ok lexer) (number' : Nat) :
    make number' settings = .ok { lexer with number := number' } := by
  rcases make_eq_ok.mp made with ⟨checked, ordered, went, rfl⟩
  exact make_eq_ok.mpr ⟨checked, ordered, went, rfl⟩

end Lalr.Lexer

namespace Lalr

/-- Whether the width of a terminal is known or can be found out. -/
def Terminal.Measurable (terminal : Terminal) : Prop :=
  ∃ width, terminal.pattern.width = .ok width

namespace Lexer

variable {settings : LexerSettings}

/-- Terminals that have been checked are measurable. -/
theorem measurable_of_check (checked : check settings = .ok ())
    (checks : settings.skipValidation = false) :
    ∀ terminal ∈ settings.terminals, terminal.Measurable := by
  intro terminal member
  simp only [check, checks, Bool.false_eq_true, if_false] at checked
  rcases bind_eq_ok.mp checked with ⟨⟨⟩, validated, _⟩
  have valid := forM_eq_ok validated terminal member
  unfold validate at valid
  split at valid
  · cases valid
  · cases valid
  · rcases bind_eq_ok.mp valid with ⟨width, measured, _⟩
    exact ⟨width, measured⟩

/-- All that is to be ignored has been found to be a name. -/
theorem strays_of_check (checked : check settings = .ok ())
    (checks : settings.skipValidation = false) : settings.strays = [] := by
  simp only [check, checks, Bool.false_eq_true, if_false] at checked
  rcases bind_eq_ok.mp checked with ⟨_, _, named⟩
  unfold checkIgnored at named
  split at named
  next strays => exact strays
  next => cases named

/-- A terminal with the greatest number of characters that it matches. -/
def measured (terminal : Terminal) : Except Failure (Terminal × Nat) := do
  return (terminal, (← terminal.pattern.width).most)

theorem inOrder_eq_ok {terminals ordered : List Terminal} :
    inOrder terminals = .ok ordered ↔
      ∃ entries, List.Forall₂
        (fun terminal entry => measured terminal = .ok entry) terminals entries ∧
        (entries.mergeSort goesBefore).map (·.1) = ordered := by
  unfold inOrder
  rw [bind_eq_ok]
  constructor
  · rintro ⟨entries, each, went⟩
    cases went
    exact ⟨entries, mapM_eq_ok each, rfl⟩
  · rintro ⟨entries, each, rfl⟩
    exact ⟨entries, mapM_of_forall₂ each, rfl⟩

theorem fst_of_measured {terminal : Terminal} {entry : Terminal × Nat}
    (went : measured terminal = .ok entry) : entry.1 = terminal := by
  rcases bind_eq_ok.mp went with ⟨width, _, went⟩
  cases went
  rfl

theorem map_fst_of_measured {terminals : List Terminal} {entries : List (Terminal × Nat)}
    (each : List.Forall₂ (fun terminal entry => measured terminal = .ok entry)
      terminals entries) :
    entries.map (·.1) = terminals := by
  induction each with
  | nil => rfl
  | cons head _ ih => rw [List.map_cons, fst_of_measured head, ih]

theorem exists_inOrder {terminals : List Terminal}
    (measurable : ∀ terminal ∈ terminals, terminal.Measurable) :
    ∃ ordered, inOrder terminals = .ok ordered := by
  have each : ∀ terminal ∈ terminals, ∃ entry, measured terminal = .ok entry := by
    intro terminal member
    rcases measurable terminal member with ⟨width, known⟩
    exact ⟨(terminal, width.most), by rw [measured, known]; rfl⟩
  rcases exists_mapM each with ⟨entries, went⟩
  exact ⟨_, inOrder_eq_ok.mpr ⟨entries, mapM_eq_ok went, rfl⟩⟩

/-- Putting terminals in order leaves none out and adds none. -/
theorem perm_of_inOrder {terminals ordered : List Terminal}
    (went : inOrder terminals = .ok ordered) : ordered.Perm terminals := by
  rcases inOrder_eq_ok.mp went with ⟨entries, each, rfl⟩
  exact ((List.mergeSort_perm entries goesBefore).map _).trans (.of_eq (map_fst_of_measured each))

/-- Whether terminals are listed in the order in which they are tried. -/
def isOrdered (terminals : List Terminal) : Bool :=
  match terminals.mapM measured with
  | .error _ => false
  | .ok entries => decide (entries.Pairwise (goesBefore · ·))

/-- Terminals that are in order stay as they are. -/
theorem inOrder_of_isOrdered {terminals : List Terminal} (ordered : isOrdered terminals = true) :
    inOrder terminals = .ok terminals := by
  unfold isOrdered at ordered
  split at ordered
  next => cases ordered
  next entries went =>
    have each := mapM_eq_ok went
    refine inOrder_eq_ok.mpr ⟨entries, each, ?_⟩
    rw [List.mergeSort_of_pairwise (of_decide_eq_true ordered), map_fst_of_measured each]

theorem exists_make (checked : check settings = .ok ())
    (measurable : ∀ terminal ∈ settings.terminals, terminal.Measurable) (number : Nat) :
    ∃ lexer, make number settings = .ok lexer := by
  rcases exists_inOrder measurable with ⟨ordered, went⟩
  exact ⟨_, make_eq_ok.mpr ⟨checked, ordered, went, rfl⟩⟩

/-- A lexer can be made with other callbacks. -/
theorem exists_make_callbacks {number : Nat} {lexer : Lexer}
    (made : make number settings = .ok lexer) (callbacks : List (String × TokenHandler))
    (number' : Nat) :
    ∃ lexer', make number' { settings with callbacks } = .ok lexer' := by
  rcases make_eq_ok.mp made with ⟨checked, ordered, went, rfl⟩
  exact ⟨_, make_eq_ok.mpr ⟨checked, ordered, went, rfl⟩⟩

theorem callbacks_of_make {number : Nat} {lexer : Lexer} (made : make number settings = .ok lexer) :
    lexer.callbacks = settings.callbacks := by
  rcases make_eq_ok.mp made with ⟨_, ordered, _, rfl⟩
  rfl

theorem ignored_of_make {number : Nat} {lexer : Lexer} (made : make number settings = .ok lexer) :
    lexer.ignored = settings.ignored := by
  rcases make_eq_ok.mp made with ⟨_, ordered, _, rfl⟩
  rfl

theorem check_of_make {number : Nat} {lexer : Lexer} (made : make number settings = .ok lexer) :
    check settings = .ok () := (make_eq_ok.mp made).1

end Lexer

theorem mem_sortedSet {text : String} {texts : List String} :
    text ∈ sortedSet texts ↔ text ∈ texts := by
  rw [sortedSet, List.mem_eraseDups, List.mem_mergeSort]

theorem eraseDups_of_nodup {α : Type} [BEq α] [LawfulBEq α] {items : List α}
    (distinct : items.Nodup) : items.eraseDups = items := by
  induction items with
  | nil => rfl
  | cons item items ih =>
      rcases List.nodup_cons.mp distinct with ⟨fresh, distinct⟩
      have others : items.filter (fun other => !other == item) = items := by
        rw [List.filter_eq_self]
        intro other member
        have ne : other ≠ item := fun same => fresh (same ▸ member)
        simpa using ne
      rw [List.eraseDups_cons, others, ih distinct]

/-- Texts that are in order, each of them once, stay as they are. -/
theorem sortedSet_eq_self {texts : List String} (ordered : texts.Pairwise (decide <| · ≤ ·))
    (distinct : texts.Nodup) : sortedSet texts = texts := by
  rw [sortedSet, List.mergeSort_of_pairwise ordered, eraseDups_of_nodup distinct]

namespace ContextualLexer

variable {settings : LexerSettings}

/-- Where all names are different, the terminals for a set of names are those with these names. -/
theorem terminals_settingsFor (distinct : (settings.terminals.map Terminal.name).Nodup)
    (names : List String) :
    (settingsFor settings names).terminals =
      settings.terminals.filter fun terminal => names.contains terminal.name := by
  have keys : ((settings.terminals.map fun terminal => (terminal.name, terminal)).map
      (·.1)).Nodup := by
    rw [List.map_map]
    exact distinct
  unfold settingsFor
  simp only [Data.settle_of_distinct keys, List.filter_map, List.map_map]
  exact List.map_id _

theorem settingsFor_congr {names names' : List String}
    (same : ∀ name, name ∈ names ↔ name ∈ names') :
    settingsFor settings names = settingsFor settings names' := by
  have contains (name : String) : names.contains name = names'.contains name := by
    rw [Bool.eq_iff_iff, List.contains_iff_mem, List.contains_iff_mem, same]
  simp only [settingsFor, contains]

/-- Whether a lexer has been made for a set of names. -/
def IsFor (settings : LexerSettings) (alwaysAccepted names : List String) (lexer : Lexer) : Prop :=
  ∃ number,
    Lexer.make number (settingsFor settings (names ++ settings.ignored ++ alwaysAccepted)) =
    .ok lexer

theorem IsFor.congr {alwaysAccepted names names' : List String} {lexer : Lexer}
    (isFor : IsFor settings alwaysAccepted names lexer)
    (same : sortedSet names = sortedSet names') :
    IsFor settings alwaysAccepted names' lexer := by
  rcases isFor with ⟨number, made⟩
  refine ⟨number, ?_⟩
  rw [← made]
  refine congrArg _ (settingsFor_congr fun name => ?_)
  have members : name ∈ names ↔ name ∈ names' := by
    rw [← mem_sortedSet, same, mem_sortedSet]
  simp [members]

/-- Each state has a lexer that has been made for the names that it has entries for. Induction on
the states. -/
theorem isFor_of_makeLexers {alwaysAccepted : List String} {root count : Nat}
    {states : List (State × List String)} :
    ∀ {made : List (List String × Lexer)} {lexers : List (State × Lexer)},
      (∀ entry ∈ made, ∃ names, sortedSet names = entry.1 ∧
        IsFor settings alwaysAccepted names entry.2) →
      makeLexers settings alwaysAccepted root made states = .ok (lexers, count) →
      List.Forall₂ (fun place entry => place.1 = entry.1 ∧
        IsFor settings alwaysAccepted place.2 entry.2) states lexers := by
  induction states with
  | nil =>
      intro made lexers _ went
      cases went
      exact .nil
  | cons place rest ih =>
      intro made lexers each went
      rw [makeLexers] at went
      split at went
      next lexer known =>
        rcases bind_eq_ok.mp went with ⟨⟨others, _⟩, others_went, done⟩
        cases done
        rcases each _ (mem_of_assoc? known) with ⟨names, same, isFor⟩
        exact .cons ⟨rfl, isFor.congr same⟩ (ih each others_went)
      next =>
        rcases bind_eq_ok.mp went with ⟨lexer, new, went⟩
        rcases bind_eq_ok.mp went with ⟨⟨others, _⟩, others_went, done⟩
        cases done
        refine .cons ⟨rfl, _, new⟩ (ih ?_ others_went)
        rw [List.forall_mem_cons]
        exact ⟨⟨place.2, rfl, _, new⟩, each⟩

/-- A contextual lexer has a lexer for each state, made for the names that the state has entries
for, and a root lexer. -/
theorem make_eq_ok {number count : Nat} {states : List (State × List String)}
    {alwaysAccepted : List String} {lexer : ContextualLexer}
    (made : make number settings states alwaysAccepted = .ok (lexer, count)) :
    Lexer.make number settings = .ok lexer.root ∧
      List.Forall₂ (fun place entry => place.1 = entry.1 ∧
        IsFor settings alwaysAccepted place.2 entry.2) states lexer.lexers := by
  unfold make at made
  rcases bind_eq_ok.mp made with ⟨root, rooted, made⟩
  rcases bind_eq_ok.mp made with ⟨⟨lexers, _⟩, went, made⟩
  cases made
  exact ⟨rooted, isFor_of_makeLexers (by simp) went⟩

theorem exists_own {number count : Nat} {states : List (State × List String)}
    {alwaysAccepted : List String} {lexer : ContextualLexer}
    (made : make number settings states alwaysAccepted = .ok (lexer, count)) {state : State}
    {names : List String} (known : assoc? states state = some names) :
    ∃ own, assoc? lexer.lexers state = some own ∧ IsFor settings alwaysAccepted names own := by
  have related := assoc?_alike (make_eq_ok made).2 state
  rw [known] at related
  cases found : assoc? lexer.lexers state with
  | none =>
      rw [found] at related
      cases related
  | some own =>
      rw [found] at related
      cases related with
      | some isFor => exact ⟨own, rfl, isFor⟩

theorem mem_of_settingsFor {names : List String} {terminal : Terminal}
    (mem : terminal ∈ (settingsFor settings names).terminals) :
    terminal ∈ settings.terminals := by
  rcases List.mem_map.mp mem with ⟨entry, listed, rfl⟩
  rcases List.mem_map.mp (Data.mem_of_settle (List.mem_filter.mp listed).1) with
    ⟨terminal, here, rfl⟩
  exact here

/-- The lexers of the states can be made if all terminals are measurable. -/
theorem exists_makeLexers (measurable : ∀ terminal ∈ settings.terminals, terminal.Measurable)
    (alwaysAccepted : List String) (root : Nat) {states : List (State × List String)} :
    ∀ made, ∃ found, makeLexers settings alwaysAccepted root made states = .ok found := by
  induction states with
  | nil => exact fun made => ⟨_, rfl⟩
  | cons place rest ih =>
      intro made
      rw [makeLexers]
      split
      next lexer _ =>
        rcases ih made with ⟨found, went⟩
        exact ⟨_, by rw [went]; rfl⟩
      next =>
        rcases Lexer.exists_make rfl
            (fun terminal member => measurable terminal (mem_of_settingsFor member))
            (root + made.length + 1) with
          ⟨lexer, new⟩
        rcases ih ((sortedSet place.2, lexer) :: made) with ⟨found, went⟩
        exact ⟨_, bind_eq_ok.mpr ⟨lexer, new, bind_eq_ok.mpr ⟨found, went, rfl⟩⟩⟩

end ContextualLexer

end Lalr
