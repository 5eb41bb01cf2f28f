import Mathlib.Data.List.Infix
import Lalr.Artifact.Register
import Lalr.Proofs.Artifact.Objects
import Lalr.Proofs.Grammar.Rules

/-!
# Entries and the references to them

A register only grows, and it never holds two entries that are the same. What is
entered is referred to by a number under which the finished register still has an
entry that is the same, and the memo that the register is read as has its object.
-/

namespace Lalr

/-! ## Running steps one after another -/

/-- A way of telling what steps give and what they make of a state. -/
structure Running (m : Type → Type) [Monad m] (σ : Type) where
  gives : ∀ {α : Type}, m α → σ → α → σ → Prop
  pure : ∀ {α : Type} (value : α) (state : σ), gives (Pure.pure value) state value state
  bind : ∀ {α β : Type} {step : m α} {rest : α → m β}
    {before between after : σ} {value : α}
    {answer : β}, gives step before value between → gives (rest value) between answer after →
      gives (step >>= rest) before answer after

/-- Where each of some steps lets the state grow and gives something that is good in it, and stays
so while the state grows, all of them do. Induction on the items. -/
theorem Running.mapM {m : Type → Type} [Monad m] [LawfulMonad m] {σ : Type}
    (running : Running m σ) {α β : Type} (good : α → β → σ → Prop)
    {grows : σ → σ → Prop} (refl : ∀ state, grows state state)
    (trans : ∀ {first second third}, grows first second → grows second third →
      grows first third)
    (keeps : ∀ {item value state state'}, grows state state' → good item value state →
      good item value state')
    {step : α → m β}
    {items : List α}
    (each : ∀ item ∈ items, ∀ state, ∃ value state',
      running.gives (step item) state value state' ∧
      grows state state' ∧ good item value state') (state : σ) :
    ∃ values state', running.gives (items.mapM step) state values state' ∧
      grows state state' ∧
      List.Forall₂ (fun item value => good item value state') items values := by
  induction items generalizing state with
  | nil =>
      rw [List.mapM_nil]
      exact ⟨[], state, running.pure [] state, refl state, .nil⟩
  | cons item items ih =>
      rcases each item (by simp) state with ⟨value, between, gives, grows, good⟩
      rcases ih (fun item member => each item (by simp [member])) between with
        ⟨values, after, others, grows', goods⟩
      rw [List.mapM_cons]
      refine ⟨value :: values, after, running.bind gives (running.bind others (running.pure _ _)),
        trans grows grows', .cons (keeps grows' good) goods⟩

/-- What steps that enter something give. -/
def Registering.running : Running Registering Register where
  gives {α} step before value after := @Eq (α × Register) (step.run before) (value, after)
  pure _ _ := rfl
  bind := by
    intro α β step rest before between after value answer first second
    show @Eq (β × Register) ((step >>= rest).run before) (answer, after)
    rw [StateT.run_bind]
    simp only [Bind.bind]
    rw [first]
    exact second

namespace Entry

theorem same_refl (entry : Entry) : entry.same entry = true := by
  cases entry with
  | terminal terminal => simp [same]
  | rule rule => exact Rule.same_refl rule

theorem same_symm {first second : Entry} (same : first.same second = true) :
    second.same first = true := by
  cases first <;> cases second <;> simp_all [Entry.same]
  exact Rule.same_symm same

end Entry

namespace Register

/-- Whether entries that are the same are one entry. -/
def Distinct (register : Register) : Prop :=
  ∀ first ∈ register, ∀ second ∈ register, first.same second = true → first = second

/-- Whether data refers to an entry that is the same as a given one. -/
def Refers (register : Register) (reference : Data) (entry : Entry) : Prop :=
  ∃ (index : Nat) (found : Entry), reference = .record [("@", .int index)] ∧
    register[index]? = some found ∧ entry.same found = true

/-- Whether a register has come from another by entering what belongs to a pool. -/
structure Grows (pool : Entry → Prop) (before after : Register) : Prop where
  begins : List.IsPrefix before after
  distinct : before.Distinct → after.Distinct
  source : ∀ entry ∈ after, entry ∈ before ∨ pool entry

variable {pool pool' : Entry → Prop} {before after : Register} {reference : Data} {entry : Entry}

theorem Grows.refl (register : Register) : register.Grows pool register :=
  ⟨List.prefix_refl _, id, fun _ member => .inl member⟩

theorem Grows.trans {first second third : Register} (grows : first.Grows pool second)
    (grows' : second.Grows pool third) : first.Grows pool third where
  begins := grows.begins.trans grows'.begins
  distinct := grows'.distinct ∘ grows.distinct
  source entry member := (grows'.source entry member).elim (grows.source entry) .inr

theorem Grows.mono (grows : before.Grows pool after)
    (within : ∀ entry, pool entry → pool' entry) :
    before.Grows pool' after where
  begins := grows.begins
  distinct := grows.distinct
  source entry member := (grows.source entry member).imp_right (within entry)

theorem Refers.grows (grows : before.Grows pool after) (refers : before.Refers reference entry) :
    after.Refers reference entry := by
  rcases refers with ⟨index, found, rfl, here, same⟩
  rcases grows.begins with ⟨others, rfl⟩
  refine ⟨index, found, rfl, ?_, same⟩
  rw [List.getElem?_append_left (List.getElem?_eq_some_iff.mp here).1, here]

theorem run_enter (entry : Entry) (register : Register) :
    @Eq (Data × Register) ((enter entry).run register)
      (match register.findIdx? entry.same with
        | some index => (.record [("@", .int index)], register)
        | none => (.record [("@", .int register.length)], register ++ [entry])) := rfl

theorem enter_gives (pooled : pool entry) (before : Register) :
    ∃ reference after, Registering.running.gives (enter entry) before reference after ∧
      before.Grows pool after ∧ after.Refers reference entry := by
  cases place : before.findIdx? entry.same with
  | some index =>
      have exists_found : ∃ found, before[index]? = some found ∧ entry.same found = true := by
        rcases List.findIdx?_eq_some_iff_getElem.mp place with ⟨within, same, _⟩
        exact ⟨before[index], List.getElem?_eq_getElem within, same⟩
      rcases exists_found with ⟨found, here, same⟩
      refine ⟨.record [("@", .int index)], before, ?_, .refl before, index, found,
        rfl, here, same⟩
      exact (run_enter entry before).trans (by rw [place])
  | none =>
      have fresh : ∀ other ∈ before, entry.same other = false := by
        simpa using List.findIdx?_eq_none_iff.mp place
      refine ⟨.record [("@", .int before.length)], before ++ [entry], ?_,
        ⟨List.prefix_append .., ?_, ?_⟩, before.length, entry, rfl, by simp, entry.same_refl⟩
      · exact (run_enter entry before).trans (by rw [place])
      · intro distinct first member second member' same
        simp only [List.mem_append, List.mem_singleton] at member member'
        rcases member with member | rfl
        · rcases member' with member' | rfl
          · exact distinct first member second member' same
          · have same := Entry.same_symm same
            rw [fresh first member] at same
            cases same
        · rcases member' with member' | rfl
          · rw [fresh second member'] at same
            cases same
          · rfl
      · intro other member
        rcases List.mem_append.mp member with old | new
        · exact .inl old
        · rw [List.mem_singleton.mp new]
          exact .inr pooled

/-- What is entered item by item is referred to item by item. -/
theorem enterAll_gives {α : Type} (toEntry : α → Entry) {items : List α}
    (pooled : ∀ item ∈ items, pool (toEntry item)) (before : Register) :
    ∃ references after,
      Registering.running.gives (items.mapM fun item => enter (toEntry item)) before references
        after ∧
      before.Grows pool after ∧
      List.Forall₂ (fun item reference => after.Refers reference (toEntry item)) items
        references :=
  Registering.running.mapM (fun item reference after => after.Refers reference (toEntry item))
    Grows.refl Grows.trans (fun grows refers => refers.grows grows)
    (fun item member => enter_gives (pooled item member)) before

/-- Whether data refers to just an entry. -/
def RefersTo (register : Register) (reference : Data) (entry : Entry) : Prop :=
  ∃ index : Nat, reference = .record [("@", .int index)] ∧ register[index]? = some entry

theorem RefersTo.mem (refers : after.RefersTo reference entry) : entry ∈ after := by
  rcases refers with ⟨index, _, here⟩
  exact List.mem_of_getElem? here

/-- A reference to an entry leads to just this entry, if no other is the same. -/
theorem Refers.refersTo (refers : after.Refers reference entry)
    (only : ∀ other ∈ after, entry.same other = true → entry = other) :
    after.RefersTo reference entry := by
  rcases refers with ⟨index, found, given, here, same⟩
  have found_eq := only found (List.mem_of_getElem? here) same
  exact ⟨index, given, found_eq ▸ here⟩

end Register

/-! ## Reading registers -/

namespace Stored

/-- The object of an entry. -/
def ofEntry : Entry → Stored
  | .terminal terminal => ofTerminal terminal
  | .rule rule => ofRule rule

end Stored

namespace Register

/-- The objects of a register under their numbers. -/
def memo (register : Register) : Memo :=
  (numbered register).map fun entry => ((entry.1 : Int), Stored.ofEntry entry.2)

variable {register : Register} {data : Data}

theorem resolve_memo {index : Nat} {entry : Entry} (here : register[index]? = some entry) :
    Stored.resolve register.memo (.int index) = .ok (Stored.ofEntry entry) := by
  have found : assoc? register.memo (index : Int) = some (Stored.ofEntry entry) :=
    assoc?_numbered (fun _ _ same => Int.ofNat.inj same) Stored.ofEntry here
  simp only [Stored.resolve, found]

/-- Where an entry is referred to, the object of an entry that is the same is read. -/
theorem read_reference (refers : register.Refers reference entry) (known : List ObjectKind) :
    ∃ found ∈ register, entry.same found = true ∧
      Stored.read register.memo known reference = .ok (Stored.ofEntry found) := by
  rcases refers with ⟨index, found, rfl, here, same⟩
  exact ⟨found, List.mem_of_getElem? here, same, resolve_memo here⟩

/-- A list of references is read as the objects that they lead to. -/
theorem readItems_references {α : Type} (toEntry : α → Entry) {items : List α}
    {references : List Data}
    (refers : List.Forall₂ (fun item reference =>
      register.RefersTo reference (toEntry item)) items
      references) (known : List ObjectKind) :
    Stored.readItems register.memo known references =
      .ok (items.map fun item => Stored.ofEntry (toEntry item)) := by
  induction refers with
  | nil => rfl
  | cons head _ ih =>
      rcases head with ⟨index, rfl, here⟩
      have read : Stored.read register.memo known (.record [("@", .int index)]) =
          Stored.resolve register.memo (.int index) := rfl
      rw [Stored.readItems, read, resolve_memo here, ih]
      rfl

theorem read_entry {entry : Entry} {data : Data} (stored : entry.toData = .ok data) :
    Stored.read [] [.terminal, .rule] data = .ok (Stored.ofEntry entry) := by
  cases entry with
  | terminal terminal => exact Stored.read_terminal rfl stored
  | rule rule =>
      cases stored
      exact Stored.read_rule rfl rule

theorem readMemo_toData (stored : register.toData = .ok data) :
    Stored.readMemo data = .ok register.memo := by
  rcases bind_eq_ok.mp stored with ⟨entries, listed, stored⟩
  cases stored
  have each := numbered_forall₂ (mapM_eq_ok listed)
  have entriesRead : (((List.range entries.length).zip entries).map fun entry =>
      (toString entry.1, entry.2)).mapM Stored.readEntry = .ok register.memo := by
    refine mapM_of_forall₂ ?_
    rw [memo, List.forall₂_map_left_iff, List.forall₂_map_right_iff]
    refine each.flip.imp fun data entry head => ?_
    rcases head with ⟨index, stored⟩
    have numeral : Numeral.int? (toString data.1) = some (data.1 : Int) :=
      Numeral.int?_toString (data.1 : Int)
    simp only [Stored.readEntry, numeral, read_entry stored, index]
    rfl
  have settled : Data.settle register.memo = register.memo := Data.settle_of_distinct
    (nodup_numbered (fun _ _ same => Int.ofNat.inj same) Stored.ofEntry register)
  simp only [Stored.readMemo, entriesRead, settled]
  rfl

theorem toString_injective : Function.Injective fun index : Nat => toString index :=
  fun first second same => Int.ofNat.inj (@Numeral.toString_injective first second same)

theorem proper_entry {entry : Entry} {data : Data} (stored : entry.toData = .ok data) :
    data.Proper := by
  cases entry with
  | terminal terminal => exact Terminal.proper_toData stored
  | rule rule =>
      cases stored
      exact Rule.proper_toData rule

theorem exists_toData (storable : ∀ entry ∈ register, ∃ data, entry.toData = .ok data) :
    ∃ data, register.toData = .ok data ∧ data.Proper := by
  rcases exists_mapM storable with ⟨entries, listed⟩
  refine ⟨.record ((numbered entries).map fun entry => (toString entry.1, entry.2)), ?_, ?_⟩
  · simp only [toData, listed]
    rfl
  · refine .record (nodup_numbered toString_injective id entries) fun field member => ?_
    rcases List.mem_map.mp member with ⟨entry, listedUnder, rfl⟩
    have here := List.mem_of_getElem? (getElem?_of_mem_numbered listedUnder)
    rcases exists_of_mem_right (mapM_eq_ok listed) here with ⟨_, _, stored⟩
    exact proper_entry stored

end Register

end Lalr
