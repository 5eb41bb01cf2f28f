import Lalr.Proofs.Data.Routes
import Lalr.Proofs.Parser.Remaking

/-!
# Stored options of which something is lost

An option that is lost takes its default. Which of the options say what a parser needs is
checked one by one, so that the settings that are left make options, or the failure says
which one is wrong. What is said of the lexer and of the flags comes from two places, and is
left aside here.
-/

namespace Lalr

/-- Settings that are all data. -/
def asSettings (stored : List (String × Data)) : List (String × Setting) :=
  stored.map fun entry => (entry.1, .data entry.2)

theorem getD_asSettings (stored : List (String × Data)) (name : String) (default : Data) :
    (assoc? (asSettings stored) name).getD (.data default) =
      .data ((assoc? stored name).getD default) := by
  rw [asSettings, assoc?_map]
  cases assoc? stored name <;> rfl

/-- Whether settings are what is left of others, apart from those that are stored in two places. -/
def SettingsLeft (stored stored' : List (String × Data)) : Prop :=
  ∀ name value', name ≠ "lexer" → name ≠ "g_regex_flags" →
    assoc? stored' name = some value' →
    ∃ value, assoc? stored name = some value ∧ value.Pruned value'

namespace SettingsLeft

variable {stored stored' : List (String × Data)} {name : String} {default : Data}

/-- A setting is the default, or what is left of the setting from before. -/
theorem getD (left : SettingsLeft stored stored') (name : String) (default : Data)
    (once : name ≠ "lexer" ∧ name ≠ "g_regex_flags") :
    (assoc? stored' name).getD default = default ∨
      ((assoc? stored name).getD default).Pruned ((assoc? stored' name).getD default) := by
  cases found' : assoc? stored' name with
  | none => exact .inl rfl
  | some value' =>
      rcases left name value' once.1 once.2 found' with ⟨value, found, pruned⟩
      rw [found]
      exact .inr pruned

/-- What does not hold by default does not come to hold. -/
theorem holds (left : SettingsLeft stored stored') (off : default.holds = false)
    (once : name ≠ "lexer" ∧ name ≠ "g_regex_flags")
    (holds' : ((assoc? stored' name).getD default).holds = true) :
    ((assoc? stored name).getD default).holds = true := by
  rcases left.getD name default once with same | pruned
  · rw [same, off] at holds'
    cases holds'
  · exact pruned.holds holds'

theorem holds_eq_false (left : SettingsLeft stored stored') (off : default.holds = false)
    (once : name ≠ "lexer" ∧ name ≠ "g_regex_flags")
    (none : ((assoc? stored name).getD default).holds = false) :
    ((assoc? stored' name).getD default).holds = false := by
  by_contra on
  have on := left.holds off once (Bool.eq_true_of_not_eq_false on)
  rw [none] at on
  cases on

/-- What is null stays null. -/
theorem eq_null (left : SettingsLeft stored stored')
    (once : name ≠ "lexer" ∧ name ≠ "g_regex_flags")
    (null : (assoc? stored name).getD .null = .null) :
    (assoc? stored' name).getD .null = .null := by
  rcases left.getD name .null once with same | pruned
  · exact same
  · rw [null] at pruned
    exact pruned.eq_of_scalar rfl rfl

end SettingsLeft

namespace Options

theorem elements?_pruned {data data' : Data} (pruned : data.Pruned data') {items : List Data}
    (found : data.elements? = some items) : ∃ items', data'.elements? = some items' ∧
      ((∀ item ∈ items, item.asText?.isSome = true) →
        ∀ item ∈ items', item.asText?.isSome = true) := by
  cases pruned with
  | scalar => exact ⟨items, found, fun texts => texts⟩
  | @list items items' each =>
      cases found
      refine ⟨items', rfl, fun texts item' listed' => ?_⟩
      rcases exists_of_mem_right each listed' with ⟨item, listed, left⟩
      rw [left.asText?]
      exact texts item listed
  | @record fields fields' each =>
      refine ⟨_, rfl, fun _ item listed => ?_⟩
      rcases List.mem_map.mp listed with ⟨field, _, rfl⟩
      rfl

theorem readStarts_pruned {start start' : Data} (pruned : start.Pruned start') {starts : List Data}
    (went : readStarts start = .ok starts) : ∃ starts', readStarts start' = .ok starts' ∧
      ((∀ item ∈ starts, item.asText?.isSome = true) →
        ∀ item ∈ starts', item.asText?.isSome = true) := by
  have listed {data data' : Data} (pruned : data.Pruned data')
      (known : readStarts data = data.elements?.elim (.error (.fault .wrongKind)) .ok)
      (known' : readStarts data' = data'.elements?.elim (.error (.fault .wrongKind)) .ok)
      (went : readStarts data = .ok starts) : ∃ starts', readStarts data' = .ok starts' ∧
        ((∀ item ∈ starts, item.asText?.isSome = true) →
          ∀ item ∈ starts', item.asText?.isSome = true) := by
    rw [known] at went
    cases found : data.elements? with
    | none =>
        rw [found] at went
        cases went
    | some items =>
        rw [found] at went
        cases went
        rcases elements?_pruned pruned found with ⟨items', found', texts⟩
        exact ⟨items', by rw [known', found']; rfl, texts⟩
  cases pruned with
  | scalar => exact ⟨starts, went, fun texts => texts⟩
  | list each => exact listed (.list each) rfl rfl went
  | record each => exact listed (.record each) rfl rfl went

/-- What is stored of the options that a parser is made with, one by one. -/
theorem ofKnown_asSettings (stored : List (String × Data)) :
    ofKnown (asSettings stored) = (do
      let setting (name : String) (default : Data) : Data := (assoc? stored name).getD default
      let start := setting "start" (.list [.text "start"])
      unless start = .text "" || start.holds do throw (.configuration .noStart)
      let parser := setting "parser" (.text "lalr")
      unless parser = .text "lalr" do throw (.configuration (.unsupportedParser parser))
      let contextual ← readLexer (setting "lexer" (.text "contextual"))
      let propagation ← readPropagation (.data (setting "propagate_positions" (.bool false)))
      return {
        starts := ← readStarts start
        contextual
        debug := setting "debug" (.bool false)
        placeholders := setting "maybe_placeholders" (.bool false)
        propagation
        nodes := readNodes (.data (setting "tree_class" .null))
        transformer := readTransformer (.data (setting "transformer" .null))
        callbacks := readCallbacks (.data (setting "lexer_callbacks" .null))
        postLexer := readPostLexer (.data (setting "postlex" .null))
        flags := setting "g_regex_flags" (.int 0) }) := by
  simp only [ofKnown, getD_asSettings, Setting.asData]

theorem readLexer_fair (data : Data) : Fair (fun _ => True) (readLexer data) := by
  unfold readLexer
  split
  · exact .ok trivial
  · exact .ok trivial
  · exact .error trivial

theorem readPropagation_fair (data : Data) :
    Fair (fun _ => True) (readPropagation (.data data)) := by
  unfold readPropagation
  split
  · exact .ok trivial
  · exact .ok trivial
  · exact .ok trivial
  · exact .error trivial
  · exact .ok trivial

variable {stored stored' : List (String × Data)} {options : Options}

/-- The options that were made of some settings, one by one. -/
structure MadeOf (stored : List (String × Data)) (options : Options) : Prop where
  starts : readStarts ((assoc? stored "start").getD (.list [.text "start"])) = .ok options.starts
  contextual : readLexer ((assoc? stored "lexer").getD (.text "contextual")) = .ok
    options.contextual
  placeholders : options.placeholders = (assoc? stored "maybe_placeholders").getD (.bool false)
  nodes : options.nodes = readNodes (.data ((assoc? stored "tree_class").getD .null))
  transformer : options.transformer =
    readTransformer (.data ((assoc? stored "transformer").getD .null))
  callbacks : options.callbacks =
    readCallbacks (.data ((assoc? stored "lexer_callbacks").getD .null))
  postLexer : options.postLexer = readPostLexer (.data ((assoc? stored "postlex").getD .null))
  flags : options.flags = (assoc? stored "g_regex_flags").getD (.int 0)

theorem madeOf_of_ofKnown (went : ofKnown (asSettings stored) = .ok options) :
    MadeOf stored options := by
  rw [ofKnown_asSettings] at went
  dsimp only at went
  split at went
  next =>
    split at went
    next =>
      rcases bind_eq_ok.mp went with ⟨contextual, lexed, went⟩
      rcases bind_eq_ok.mp went with ⟨propagation, _, went⟩
      rcases bind_eq_ok.mp went with ⟨starts, started, went⟩
      cases went
      exact ⟨started, lexed, rfl, rfl, rfl, rfl, rfl, rfl⟩
    next => cases went
  next => cases went

/-- Options are made of settings that can be read for start symbols, or it is reported which of them
is wrong. -/
theorem ofKnown_fair (started : ∃ starts,
      readStarts ((assoc? stored "start").getD (.list [.text "start"])) = .ok starts) :
    Fair (MadeOf stored) (ofKnown (asSettings stored)) := by
  have fair : Fair (fun _ => True) (ofKnown (asSettings stored)) := by
    rw [ofKnown_asSettings]
    dsimp only
    split
    next =>
      split
      next =>
        refine (readLexer_fair _).bind fun _ _ => (readPropagation_fair _).bind fun _ _ => ?_
        rcases started with ⟨starts, started⟩
        exact (Fair.fine started).bind fun _ _ => .ok trivial
      next => exact .error trivial
    next => exact .error trivial
  exact fair.known.imp fun options went => madeOf_of_ofKnown went.1

theorem readNodes_eq_unusable {data : Data} :
    readNodes (.data data) = .unusable ↔ data.holds = true := by
  unfold readNodes
  by_cases holds : data.holds = true
  · simp [holds]
  · simp [holds]

theorem readTransformer_eq_ok {data : Data} {transformer : Option Transformer} :
    readTransformer (.data data) = .ok transformer ↔ data = .null ∧ transformer = none := by
  unfold readTransformer
  cases data <;> simp [eq_comm]

theorem readCallbacks_eq_ok {data : Data} {callbacks : List (String × TokenHandler)}
    (went : readCallbacks (.data data) = .ok callbacks) : data.holds = false := by
  unfold readCallbacks at went
  cases holds : data.holds with
  | false => rfl
  | true =>
      cases text : data.asText?.isSome <;> simp [holds, text] at went

theorem readPostLexer_eq_ok {data : Data} {postLexer : Option PostLexer}
    (went : readPostLexer (.data data) = .ok postLexer) : data.holds = false := by
  unfold readPostLexer at went
  cases holds : data.holds with
  | false => rfl
  | true =>
      simp only [holds] at went
      cases went

/-- What is made of settings that are left are options that are left. -/
theorem MadeOf.left {options' : Options} (made : MadeOf stored options)
    (made' : MadeOf stored' options') (left : SettingsLeft stored stored')
    (flags : ∀ flags, options.regexFlags = .ok flags → options'.regexFlags = .ok flags) :
    options.LeftOf options' where
  starts texts := by
    rcases left.getD "start" (.list [.text "start"]) (by decide) with same | pruned
    · have read := made'.starts
      rw [same] at read
      rw [← Except.ok.inj read]
      exact List.forall_mem_singleton.mpr rfl
    · rcases readStarts_pruned pruned made.starts with ⟨starts', read', more⟩
      rw [made'.starts] at read'
      cases read'
      exact more texts
  placeholders holds' := by
    rw [made.placeholders]
    rw [made'.placeholders] at holds'
    exact left.holds rfl (by decide) holds'
  nodes unusable := by
    rw [made'.nodes, readNodes_eq_unusable] at unusable
    rw [made.nodes, readNodes_eq_unusable]
    exact left.holds rfl (by decide) unusable
  transformer transformer given := by
    rw [made.transformer, readTransformer_eq_ok] at given
    rw [made'.transformer, readTransformer_eq_ok]
    exact ⟨given.2, left.eq_null (by decide) given.1, rfl⟩
  callbacks callbacks given := by
    have off := left.holds_eq_false rfl (by decide) (readCallbacks_eq_ok (made.callbacks ▸ given))
    rw [made'.callbacks, readCallbacks, off]
    rfl
  postLexer postLexer given := by
    have off := left.holds_eq_false rfl (by decide) (readPostLexer_eq_ok (made.postLexer ▸ given))
    rw [made'.postLexer, readPostLexer, off]
    rfl
  flags

/-- Settings that are left can be read for start symbols. -/
theorem MadeOf.exists_starts (made : MadeOf stored options) (left : SettingsLeft stored stored') :
    ∃ starts, readStarts ((assoc? stored' "start").getD (.list [.text "start"])) =
      .ok starts := by
  rcases left.getD "start" (.list [.text "start"]) (by decide) with same | pruned
  · exact ⟨_, by rw [same]; rfl⟩
  · rcases readStarts_pruned pruned made.starts with ⟨starts, read, _⟩
    exact ⟨starts, read⟩

/-- The settings of a compiled grammar that nobody knows are passed over. -/
theorem ofSettings_fair (started : ∃ starts,
      readStarts ((assoc? stored "start").getD (.list [.text "start"])) = .ok starts) :
    (ofSettings (asSettings stored) true).Fair (MadeOf stored) := by
  have recorded (others : List (String × Setting)) : Run.Fair (fun _ => True)
      (forIn others PUnit.unit fun entry _ => do
        Work.record .debug .general fun _ =>
          "Ignoring compile-time option " ++ entry.1 ++ "=" ++ entry.2.asData.shown
        pure (ForInStep.yield PUnit.unit)) :=
    .forIn fun _ => .bind (.work _) fun _ _ => .pure trivial
  unfold ofSettings
  exact .bind (recorded _) fun _ _ => .lift (ofKnown_fair started)

end Options

end Lalr
