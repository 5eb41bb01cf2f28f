import Lalr.Parser.Options
import Lalr.Proofs.Data.Json
import Lalr.Proofs.Pairs
import Lalr.Proofs.Runs

/-!
# Options that come back

The options that data can say are stored as settings. Made from these settings, with
some of the others set anew, options are the same in all that was stored.
-/

namespace Lalr

section Put

variable {α β : Type} [DecidableEq α]

theorem assoc?_replace (fields : List (α × β)) (name : α) (value : β) (key : α) :
    assoc? (fields.map fun field => if field.1 == name then (field.1, value) else field) key =
      (assoc? fields key).map fun old => if name = key then value else old := by
  induction fields with
  | nil => rfl
  | cons field fields ih =>
      rcases field with ⟨other, old⟩
      by_cases here : other = key
      · subst here
        by_cases named : other = name
        · simp [assoc?, named]
        · simp [assoc?, named, Ne.symm named]
      · by_cases named : other = name
        · simpa [assoc?, named, named ▸ here] using ih
        · simpa [assoc?, named, here] using ih

theorem assoc?_append (fields others : List (α × β)) (key : α) :
    assoc? (fields ++ others) key = (assoc? fields key).or (assoc? others key) := by
  induction fields with
  | nil => rfl
  | cons field fields ih =>
      rcases field with ⟨other, value⟩
      by_cases here : other = key
      · simp [assoc?, here]
      · simpa [assoc?, here] using ih

theorem assoc?_filter (kept : α → Bool) (fields : List (α × β)) {key : α}
    (stays : kept key = true) :
    assoc? (fields.filter fun field => kept field.1) key = assoc? fields key := by
  induction fields with
  | nil => rfl
  | cons field fields ih =>
      rcases field with ⟨other, value⟩
      by_cases here : other = key
      · subst here
        simp [stays, assoc?]
      · by_cases also : kept other = true
        · simp [also, assoc?, here, ih]
        · simpa [also, assoc?, here] using ih

theorem assoc?_put (fields : List (α × β)) (name : α) (value : β) (key : α) :
    assoc? (Data.put fields name value) key =
      if name = key then some value else assoc? fields key := by
  unfold Data.put
  split
  next there =>
    rw [assoc?_replace]
    by_cases here : name = key
    · rcases List.any_eq_true.mp there with ⟨field, member, same⟩
      rcases Option.isSome_iff_exists.mp (isSome_assoc? member) with ⟨old, known⟩
      rw [(beq_iff_eq.mp same).trans here] at known
      simp [here, known]
    · simp [here]
  next absent =>
    rw [assoc?_append]
    by_cases here : name = key
    · have none : assoc? fields key = none := by
        refine assoc?_of_notMem fun member => absent ?_
        rcases List.mem_map.mp member with ⟨field, listed, same⟩
        exact List.any_eq_true.mpr ⟨field, listed, by simp [same, here]⟩
      simp [assoc?, here, none]
    · simp [assoc?, here]

/-- Where settings are changed, what is changed last counts. Induction on the changes. -/
theorem assoc?_foldl_put {changes : List (α × β)} (distinct : (changes.map (·.1)).Nodup)
    (fields : List (α × β)) (key : α) :
    assoc? (changes.foldl (fun merged change => Data.put merged change.1 change.2) fields) key =
      (assoc? changes key).or (assoc? fields key) := by
  induction changes generalizing fields with
  | nil => rfl
  | cons change changes ih =>
      rcases change with ⟨name, value⟩
      rcases List.nodup_cons.mp distinct with ⟨fresh, distinct⟩
      rw [List.foldl_cons, ih distinct, assoc?_put]
      by_cases here : name = key
      · subst here
        simp [assoc?, assoc?_of_notMem fresh]
      · simp [assoc?, here]

theorem mem_keys_foldl_put {changes fields : List (α × β)} {entry : α × β}
    (mem : entry ∈ changes.foldl (fun merged change =>
      Data.put merged change.1 change.2) fields) :
    entry.1 ∈ changes.map (·.1) ∨ entry.1 ∈ fields.map (·.1) := by
  induction changes generalizing fields with
  | nil => exact .inr (List.mem_map_of_mem mem)
  | cons change changes ih =>
      rcases ih mem with later | now
      · exact .inl (List.mem_cons_of_mem _ later)
      · rcases List.mem_map.mp now with ⟨field, listed, same⟩
        dsimp only [Data.put] at listed
        split at listed
        · rcases List.mem_map.mp listed with ⟨old, member, replaced⟩
          refine .inr (List.mem_map.mpr ⟨old, member, ?_⟩)
          rw [← same, ← replaced]
          split <;> rfl
        · rcases List.mem_append.mp listed with member | new
          · exact .inr (List.mem_map.mpr ⟨field, member, same⟩)
          · rw [List.mem_singleton.mp new] at same
            exact .inl (same ▸ List.mem_cons_self)

end Put

namespace Options

/-- The names of the options that data cannot say. -/
def special : List String := ["tree_class", "transformer", "lexer_callbacks", "postlex"]

/-- Whether the options that data can say are of the kinds that they are meant to be: positions are
propagated or not, flags are a number, and the rest is what a text in JSON can say. -/
structure Plain (options : Options) : Prop where
  propagation : ∀ names, options.propagation ≠ .skipping names
  flags : (∃ bits, options.flags = .int bits) ∨ ∃ value, options.flags = .bool value
  debug : options.debug.Proper
  placeholders : options.placeholders.Proper

/-- The settings that options are stored as. -/
def storedSettings (options : Options) : List (String × Setting) :=
  [("start", .data (.list options.starts)),
    ("parser", .data (.text "lalr")),
    ("lexer", .data (.text (if options.contextual then "contextual" else "basic"))),
    ("debug", .data options.debug),
    ("maybe_placeholders", .data options.placeholders),
    ("propagate_positions", .data (.bool (options.propagation != .off))),
    ("g_regex_flags", .data options.flags)]

/-- A setting, which is null if it is not given. -/
def settingOf (settings : List (String × Setting)) (name : String) : Setting :=
  (assoc? settings name).getD (.data .null)

/-- The options of which those that data cannot say are set anew. -/
def reset (options : Options) (settings : List (String × Setting)) : Options :=
  { options with
    nodes := readNodes (settingOf settings "tree_class")
    transformer := readTransformer (settingOf settings "transformer")
    callbacks := readCallbacks (settingOf settings "lexer_callbacks")
    postLexer := readPostLexer (settingOf settings "postlex") }

/-- Those of some settings that data cannot say. -/
def specialOf (settings : List (String × Setting)) : List (String × Setting) :=
  settings.filter fun setting => special.contains setting.1

variable {settings changes : List (String × Setting)} {options : Options}

theorem assoc?_specialOf {name : String} (named : name ∈ special) :
    assoc? (specialOf settings) name = assoc? settings name :=
  assoc?_filter special.contains settings (List.contains_iff_mem.mpr named)

theorem settingOf_specialOf {name : String} (named : name ∈ special) :
    settingOf (specialOf settings) name = settingOf settings name := by
  rw [settingOf, assoc?_specialOf named, settingOf]

theorem nodup_specialOf (distinct : (settings.map (·.1)).Nodup) :
    ((specialOf settings).map (·.1)).Nodup :=
  distinct.sublist ((List.filter_sublist).map _)

theorem mem_specialOf {setting : String × Setting} (mem : setting ∈ specialOf settings) :
    setting.1 ∈ special := by
  have kept := (List.mem_filter.mp mem).2
  exact List.contains_iff_mem.mp kept

/-- A start symbol that has been given is read as at least one. -/
theorem readStarts_ne_nil {start : Data} {starts : List Data}
    (given : (start = .text "" || start.holds) = true) (read : readStarts start = .ok starts) :
    starts ≠ [] := by
  rintro rfl
  cases start with
  | text => cases read
  | list items =>
      cases read
      simp [Data.holds] at given
  | record fields =>
      cases fields with
      | nil => simp [Data.holds] at given
      | cons field fields => cases read
  | null => cases read
  | bool => cases read
  | int => cases read
  | decimal => cases read

/-- Options are made of settings with at least one start symbol, and with those settings that data
cannot say. -/
theorem ofKnown_eq_ok (known : ofKnown settings = .ok options) :
    options.starts ≠ [] ∧ options.reset (specialOf settings) = options := by
  have same : ∀ name ∈ special, settingOf (specialOf settings) name = settingOf settings name :=
    fun _ => settingOf_specialOf
  unfold ofKnown at known
  dsimp only at known
  split at known
  next given =>
    split at known
    next =>
      rcases bind_eq_ok.mp known with ⟨contextual, _, known⟩
      rcases bind_eq_ok.mp known with ⟨propagation, _, known⟩
      rcases bind_eq_ok.mp known with ⟨starts, read, known⟩
      cases known
      refine ⟨readStarts_ne_nil given read, ?_⟩
      simp only [reset, same "tree_class" (by decide), same "transformer" (by decide),
        same "lexer_callbacks" (by decide), same "postlex" (by decide)]
      rfl
    next => cases known
  next => cases known

/-- Options that have been stored are made again, apart from what is set anew. -/
theorem ofKnown_merged (starts : options.starts ≠ []) (plain : options.Plain)
    (distinct : (changes.map (·.1)).Nodup) (named : ∀ change ∈ changes, change.1 ∈ special) :
    ofKnown (changes.foldl (fun merged change => Data.put merged change.1 change.2)
      options.storedSettings) = .ok (options.reset changes) := by
  have own {name : String} (other : name ∉ special) : assoc? (changes.foldl
      (fun merged change => Data.put merged change.1 change.2) options.storedSettings) name =
        assoc? options.storedSettings name := by
    have unchanged : name ∉ changes.map (·.1) := by
      intro member
      rcases List.mem_map.mp member with ⟨change, listed, rfl⟩
      exact other (named change listed)
    rw [assoc?_foldl_put distinct, assoc?_of_notMem unchanged, Option.none_or]
  have changed {name : String} (absent : assoc? options.storedSettings name = none) :
      assoc? (changes.foldl (fun merged change => Data.put merged change.1 change.2)
        options.storedSettings) name = assoc? changes name := by
    rw [assoc?_foldl_put distinct, absent, Option.or_none]
  generalize changes.foldl (fun merged change => Data.put merged change.1 change.2)
    options.storedSettings = merged at own changed
  have start : assoc? merged "start" = _ := own (by decide)
  have parser : assoc? merged "parser" = _ := own (by decide)
  have lexer : assoc? merged "lexer" = _ := own (by decide)
  have debug : assoc? merged "debug" = _ := own (by decide)
  have placeholders : assoc? merged "maybe_placeholders" = _ := own (by decide)
  have propagation : assoc? merged "propagate_positions" = _ := own (by decide)
  have flags : assoc? merged "g_regex_flags" = _ := own (by decide)
  have nodes : assoc? merged "tree_class" = _ := changed rfl
  have transformer : assoc? merged "transformer" = _ := changed rfl
  have callbacks : assoc? merged "lexer_callbacks" = _ := changed rfl
  have postLexer : assoc? merged "postlex" = _ := changed rfl
  have given : (Data.list options.starts).holds = true := by
    simpa [Data.holds] using starts
  have contextual : readLexer (.text (if options.contextual then "contextual" else "basic")) =
      .ok options.contextual := by
    cases options.contextual <;> rfl
  have propagated : readPropagation (.data (.bool (options.propagation != .off))) =
      .ok options.propagation := by
    cases known : options.propagation with
    | off => rfl
    | all => rfl
    | skipping names => exact absurd known (plain.propagation names)
  unfold ofKnown
  simp only [start, parser, lexer, debug, placeholders, propagation, flags, nodes, transformer,
    callbacks, postLexer]
  simp [storedSettings, assoc?, Setting.asData, given, contextual, propagated]
  rfl

theorem unknown_merged (named : ∀ change ∈ changes, change.1 ∈ special) :
    unknown (changes.foldl (fun merged change => Data.put merged change.1 change.2)
      options.storedSettings) = [] := by
  have specialNames : ∀ name ∈ special, name ∈ names := by decide
  have storedNames : ∀ name ∈ options.storedSettings.map (·.1), name ∈ names := by
    simp only [storedSettings, List.map_cons, List.map_nil, List.forall_mem_cons]
    exact ⟨by decide, by decide, by decide, by decide, by decide, by decide, by decide,
      fun _ none => by cases none⟩
  rw [unknown, List.filter_eq_nil_iff]
  intro entry member
  have known : entry.1 ∈ names := by
    rcases mem_keys_foldl_put member with changed | stored
    · rcases List.mem_map.mp changed with ⟨change, listed, same⟩
      exact same ▸ specialNames _ (named change listed)
    · exact storedNames _ stored
  simpa using known

theorem ofSettings_merged (starts : options.starts ≠ []) (plain : options.Plain)
    (distinct : (changes.map (·.1)).Nodup) (named : ∀ change ∈ changes, change.1 ∈ special) :
    ofSettings (changes.foldl (fun merged change => Data.put merged change.1 change.2)
      options.storedSettings) true = pure (options.reset changes) := by
  unfold ofSettings
  rw [unknown_merged named, ofKnown_merged starts plain distinct named]
  rfl

theorem ofSettings_yields {compiled : Bool} {before after : Workspace}
    (made : (ofSettings settings compiled).Yields before options after) :
    ofKnown settings = .ok options := by
  unfold ofSettings at made
  split at made
  next =>
    rcases Run.yields_bind.mp made with ⟨_, _, failed, _⟩
    exact absurd failed Run.yields_throw
  next =>
    rcases Run.yields_bind.mp made with ⟨_, _, _, made⟩
    exact (Run.yields_lift.mp made).1

end Options

end Lalr
