import Mathlib.Data.List.Forall2
import Mathlib.Data.List.Nodup
import Mathlib.Data.List.Perm.Subperm
import Lalr.Table.Basic

/-!
# Looking up in pairs

What is found under a key in a list of pairs is one of them, and lists with the same
keys have it in the same places.
-/

namespace Lalr

variable {α β γ : Type} {alike : β → γ → Prop}

theorem mem_of_assoc? [DecidableEq α] {pairs : List (α × β)} {key : α} {value : β}
    (found : assoc? pairs key = some value) : (key, value) ∈ pairs := by
  induction pairs with
  | nil => cases found
  | cons pair rest ih =>
      rcases pair with ⟨other, first⟩
      simp only [assoc?] at found
      split at found
      · simp_all
      · exact List.mem_cons_of_mem _ (ih found)

theorem assoc?_append_of_mem [DecidableEq α] {pairs : List (α × β)} {key : α}
    (mem : key ∈ pairs.map (·.1)) (others : List (α × β)) :
    assoc? (pairs ++ others) key = assoc? pairs key := by
  induction pairs with
  | nil => cases mem
  | cons pair pairs ih =>
      rcases pair with ⟨other, value⟩
      simp only [List.cons_append, assoc?]
      split
      next => rfl
      next ne =>
        refine ih ?_
        rcases List.mem_cons.mp mem with here | later
        · exact absurd here.symm ne
        · exact later

/-- Where all keys are different, every pair is found. -/
theorem assoc?_of_mem [DecidableEq α] {pairs : List (α × β)}
    (distinct : (pairs.map (·.1)).Nodup) {pair : α × β} (mem : pair ∈ pairs) :
    assoc? pairs pair.1 = some pair.2 := by
  induction pairs with
  | nil => cases mem
  | cons first pairs ih =>
      rcases List.nodup_cons.mp distinct with ⟨fresh, distinct⟩
      simp only [assoc?]
      rcases List.mem_cons.mp mem with rfl | later
      · simp
      · have ne : first.1 ≠ pair.1 := by
          intro same
          exact fresh (List.mem_map.mpr ⟨pair, later, same.symm⟩)
        rw [if_neg ne, ih distinct later]

theorem assoc?_of_notMem [DecidableEq α] {pairs : List (α × β)} {key : α}
    (notMem : key ∉ pairs.map (·.1)) : assoc? pairs key = none := by
  cases found : assoc? pairs key with
  | none => rfl
  | some value => exact absurd (List.mem_map_of_mem (mem_of_assoc? found)) notMem

theorem isSome_assoc? [DecidableEq α] {pairs : List (α × β)} {pair : α × β}
    (mem : pair ∈ pairs) :
    (assoc? pairs pair.1).isSome = true := by
  induction pairs with
  | nil => cases mem
  | cons first pairs ih =>
      simp only [assoc?]
      split
      next => rfl
      next ne =>
        rcases List.mem_cons.mp mem with rfl | later
        · exact absurd rfl ne
        · exact ih later

theorem exists_of_mem_left {related : α → β → Prop} {items : List α} {items' : List β}
    (same : List.Forall₂ related items items') {item : α} (mem : item ∈ items) :
    ∃ item' ∈ items', related item item' := by
  induction same with
  | nil => cases mem
  | @cons _ first _ _ head _ ih =>
      rcases List.mem_cons.mp mem with rfl | later
      · exact ⟨first, by simp, head⟩
      · rcases ih later with ⟨item', listed, related⟩
        exact ⟨item', by simp [listed], related⟩

theorem exists_of_mem_right {related : α → β → Prop} {items : List α} {items' : List β}
    (same : List.Forall₂ related items items') {item' : β} (mem : item' ∈ items') :
    ∃ item ∈ items, related item item' := by
  induction same with
  | nil => cases mem
  | @cons first _ _ _ head _ ih =>
      rcases List.mem_cons.mp mem with rfl | later
      · exact ⟨first, by simp, head⟩
      · rcases ih later with ⟨item, listed, related⟩
        exact ⟨item, by simp [listed], related⟩

/-- Pairs with different keys stand beside pairs with different keys if pairs with one key never
do. -/
theorem nodup_of_forall₂ {κ : Type} {related : α × β → κ × γ → Prop}
    {pairs : List (α × β)} {others : List (κ × γ)}
    (same : List.Forall₂ related pairs others)
    (apart : ∀ {pair other pair' other'}, related pair other → related pair' other' →
      other.1 = other'.1 → pair.1 = pair'.1)
    (distinct : (pairs.map (·.1)).Nodup) : (others.map (·.1)).Nodup := by
  induction same with
  | nil => exact List.nodup_nil
  | @cons pair other pairs others head rest ih =>
      rcases List.nodup_cons.mp distinct with ⟨fresh, distinct⟩
      refine List.nodup_cons.mpr ⟨fun member => ?_, ih distinct⟩
      rcases List.mem_map.mp member with ⟨other', listed, keys⟩
      rcases exists_of_mem_right rest listed with ⟨pair', listed', head'⟩
      exact fresh (List.mem_map.mpr ⟨pair', listed', apart head' head keys⟩)

/-- The items, each under its number. -/
def numbered (items : List α) : List (Nat × α) := (List.range items.length).zip items

theorem keys_numbered (items : List α) :
    (numbered items).map (·.1) = List.range items.length :=
  List.map_fst_zip (by simp)

theorem getElem?_of_mem_numbered {items : List α} {entry : Nat × α}
    (mem : entry ∈ numbered items) :
    items[entry.1]? = some entry.2 := by
  rcases List.mem_iff_getElem.mp mem with ⟨index, within, rfl⟩
  simp [numbered] at within ⊢

theorem mem_numbered {items : List α} {index : Nat} {item : α}
    (here : items[index]? = some item) :
    (index, item) ∈ numbered items := by
  rcases List.getElem?_eq_some_iff.mp here with ⟨within, rfl⟩
  refine List.mem_iff_getElem.mpr ⟨index, by simpa [numbered] using within, ?_⟩
  simp [numbered]

theorem numbered_forall₂ {related : α → β → Prop} {items : List α} {items' : List β}
    (same : List.Forall₂ related items items') :
    List.Forall₂ (fun entry entry' => entry.1 = entry'.1 ∧ related entry.2 entry'.2)
      (numbered items) (numbered items') := by
  rw [List.forall₂_iff_get] at same ⊢
  refine ⟨by simp [numbered, same.1], fun index within within' => ?_⟩
  simp only [numbered, List.length_zip, List.length_range, Nat.min_self] at within within'
  simpa [numbered] using same.2 index within within'

theorem nodup_numbered {κ : Type} {key : Nat → κ} (apart : Function.Injective key)
    (value : α → β) (items : List α) :
    (((numbered items).map fun entry => (key entry.1, value entry.2)).map (·.1)).Nodup := by
  have keys : ((numbered items).map fun entry => (key entry.1, value entry.2)).map (·.1) =
      (List.range items.length).map key := by
    rw [← keys_numbered, List.map_map, List.map_map]
    rfl
  rw [keys]
  exact List.Nodup.map apart List.nodup_range

/-- Items are found under keys made from their numbers. -/
theorem assoc?_numbered {κ : Type} [DecidableEq κ] {key : Nat → κ}
    (apart : Function.Injective key) (value : α → β) {items : List α} {index : Nat} {item : α}
    (here : items[index]? = some item) :
    assoc? ((numbered items).map fun entry => (key entry.1, value entry.2)) (key index) =
      some (value item) :=
  assoc?_of_mem (nodup_numbered apart value items) (List.mem_map_of_mem
    (f := fun entry : Nat × α => (key entry.1, value entry.2)) (mem_numbered here))

/-- Lists of pairs with the same keys give values that are alike for every key. -/
theorem assoc?_alike [DecidableEq α] {pairs : List (α × β)} {pairs' : List (α × γ)}
    (same : List.Forall₂ (fun pair pair' => pair.1 = pair'.1 ∧
      alike pair.2 pair'.2) pairs pairs')
    (key : α) : Option.Rel alike (assoc? pairs key) (assoc? pairs' key) := by
  induction same with
  | nil => exact .none
  | @cons pair pair' rest rest' heads _ ih =>
      rcases pair with ⟨key', value⟩
      rcases pair' with ⟨_, value'⟩
      rcases heads with ⟨rfl, related⟩
      simp only [assoc?]
      by_cases here : key' = key
      · simpa [here] using Option.Rel.some related
      · simpa [here] using ih

/-- Lists of pairs with the same keys have the same keys in the same order. -/
theorem keys_alike {pairs : List (α × β)} {pairs' : List (α × γ)}
    (same : List.Forall₂ (fun pair pair' => pair.1 = pair'.1 ∧ alike pair.2 pair'.2)
      pairs pairs') : pairs.map (·.1) = pairs'.map (·.1) := by
  induction same with
  | nil => rfl
  | cons heads _ ih => simp [heads.1, ih]

/-- Going through lists whose items have the same effect one by one gives the same. -/
theorem foldl_alike {related : α → β → Prop} {step : γ → α → γ}
    {step' : γ → β → γ}
    (steps : ∀ value item item', related item item' → step value item = step' value item')
    {items : List α} {items' : List β} (same : List.Forall₂ related items items') (value : γ) :
    items.foldl step value = items'.foldl step' value := by
  induction same generalizing value with
  | nil => rfl
  | cons head _ ih => rw [List.foldl_cons, List.foldl_cons, steps _ _ _ head, ih]

/-- Where values are replaced, what is found is replaced. -/
theorem assoc?_map [DecidableEq α] (replace : β → γ) (pairs : List (α × β)) (key : α) :
    assoc? (pairs.map fun pair => (pair.1, replace pair.2)) key =
      (assoc? pairs key).map replace := by
  induction pairs with
  | nil => rfl
  | cons pair pairs ih =>
      simp only [List.map_cons, assoc?, ih]
      split <;> rfl

namespace Data

theorem put_map [BEq α] (replace : β → γ) (pairs : List (α × β)) (key : α) (value : β) :
    put (pairs.map fun pair => (pair.1, replace pair.2)) key (replace value) =
      (put pairs key value).map fun pair => (pair.1, replace pair.2) := by
  have here : (pairs.map fun pair => (pair.1, replace pair.2)).any (·.1 == key) =
      pairs.any (·.1 == key) := by
    rw [List.any_map]
    rfl
  unfold put
  rw [here]
  split
  · rw [List.map_map, List.map_map]
    refine List.map_congr_left fun pair _ => ?_
    simp only [Function.comp_apply]
    split <;> rfl
  · rw [List.map_append]
    rfl

theorem mem_of_put [BEq α] [LawfulBEq α] {fields : List (α × β)} {name : α} {value : β}
    {entry : α × β} (member : entry ∈ put fields name value) :
    entry ∈ fields ∨ entry = (name, value) := by
  unfold put at member
  split at member
  · rcases List.mem_map.mp member with ⟨field, listed, same⟩
    split at same
    next here =>
      right
      rw [← same, beq_iff_eq.mp here]
    next =>
      left
      rw [← same]
      exact listed
  · simpa using member

/-- Settling adds no pairs. -/
theorem mem_of_settle [BEq α] [LawfulBEq α] {fields : List (α × β)} {entry : α × β}
    (member : entry ∈ settle fields) : entry ∈ fields := by
  have going : ∀ settled : List (α × β),
      entry ∈ fields.foldl (fun settled field => put settled field.1 field.2) settled →
        entry ∈ settled ∨ entry ∈ fields := by
    clear member
    induction fields with
    | nil => exact fun settled member => .inl member
    | cons field fields ih =>
        intro settled member
        rcases ih _ member with member | member
        · rcases mem_of_put member with member | rfl
          · exact .inl member
          · exact .inr (by simp)
        · exact .inr (by simp [member])
  simpa using going [] member

/-- Pairs with different keys are settled already. -/
theorem settle_of_distinct [BEq α] [LawfulBEq α] {fields : List (α × β)}
    (distinct : (fields.map (·.1)).Nodup) : settle fields = fields := by
  have going : ∀ settled : List (α × β), ((settled ++ fields).map (·.1)).Nodup →
      fields.foldl (fun settled entry => put settled entry.1 entry.2) settled =
        settled ++ fields := by
    clear distinct
    induction fields with
    | nil => simp
    | cons field fields ih =>
        intro settled distinct
        have fresh : settled.any (·.1 == field.1) = false := by
          rw [List.any_eq_false]
          intro other member same
          rw [List.map_append, List.nodup_append] at distinct
          exact distinct.2.2 other.1 (List.mem_map_of_mem member) field.1 (by simp)
            (beq_iff_eq.mp same)
        rw [List.foldl_cons, put, fresh]
        simpa using ih (settled ++ [field]) (by simpa using distinct)
  exact going [] (by simpa using distinct)

/-- Pairs are settled by their keys, whatever their values are. -/
theorem settle_map [BEq α] (replace : β → γ) (pairs : List (α × β)) :
    settle (pairs.map fun pair => (pair.1, replace pair.2)) =
      (settle pairs).map fun pair => (pair.1, replace pair.2) := by
  have started (settled : List (α × β)) :
      (pairs.map fun pair => (pair.1, replace pair.2)).foldl
          (fun settled pair => put settled pair.1 pair.2)
          (settled.map fun pair => (pair.1, replace pair.2)) =
        (pairs.foldl (fun settled pair => put settled pair.1 pair.2) settled).map
          fun pair => (pair.1, replace pair.2) := by
    induction pairs generalizing settled with
    | nil => rfl
    | cons pair pairs ih => rw [List.map_cons, List.foldl_cons, put_map, ih, List.foldl_cons]
  exact started []

/-- Putting a value leaves the keys as they are, or adds a new one behind them. -/
theorem keys_put [BEq α] (fields : List (α × β)) (name : α) (value : β) :
    (put fields name value).map (·.1) =
      if fields.any (·.1 == name) then fields.map (·.1) else fields.map (·.1) ++ [name] := by
  unfold put
  split
  · rw [List.map_map]
    refine List.map_congr_left fun entry _ => ?_
    dsimp only [Function.comp_apply]
    split <;> rfl
  · rw [List.map_append]
    rfl

theorem mem_keys_put [BEq α] [LawfulBEq α] {fields : List (α × β)} {key name : α} {value : β}
    (member : key ∈ fields.map (·.1) ∨ key = name) :
    key ∈ (put fields name value).map (·.1) := by
  rw [keys_put]
  split
  next known =>
    rcases member with member | rfl
    · exact member
    · simpa [List.any_eq_true] using known
  next => simpa using member

theorem nodup_put [BEq α] [LawfulBEq α] {fields : List (α × β)} {name : α} {value : β}
    (distinct : (fields.map (·.1)).Nodup) : ((put fields name value).map (·.1)).Nodup := by
  rw [keys_put]
  split
  · exact distinct
  next unknown =>
    rw [List.nodup_append]
    refine ⟨distinct, List.nodup_singleton _, ?_⟩
    rintro key member _ single rfl
    rcases List.mem_map.mp member with ⟨entry, listed, rfl⟩
    refine unknown (List.any_eq_true.mpr ⟨entry, listed, ?_⟩)
    exact beq_iff_eq.mpr (List.mem_singleton.mp single)

/-- Pairs that have been settled have different keys. -/
theorem nodup_settle [BEq α] [LawfulBEq α] (fields : List (α × β)) :
    ((settle fields).map (·.1)).Nodup := by
  have going : ∀ settled : List (α × β), (settled.map (·.1)).Nodup →
      ((fields.foldl (fun settled field => put settled field.1 field.2) settled).map
        (·.1)).Nodup := by
    induction fields with
    | nil => exact fun _ distinct => distinct
    | cons field fields ih => exact fun settled distinct => ih _ (nodup_put distinct)
  exact going [] List.nodup_nil

/-- No key is lost when pairs are settled. -/
theorem mem_keys_settle [BEq α] [LawfulBEq α] {fields : List (α × β)} {key : α}
    (member : key ∈ fields.map (·.1)) : key ∈ (settle fields).map (·.1) := by
  have going : ∀ settled : List (α × β), key ∈ settled.map (·.1) ∨
      key ∈ fields.map (·.1) →
      key ∈ (fields.foldl (fun settled field => put settled field.1 field.2)
        settled).map (·.1) := by
    clear member
    induction fields with
    | nil => simp
    | cons field fields ih =>
        intro settled member
        apply ih
        rw [List.map_cons, List.mem_cons, ← or_assoc] at member
        exact member.imp_left mem_keys_put
  exact going [] (.inr member)

/-- If settling drops no pair, the keys are different already. -/
theorem distinct_of_settle [BEq α] [LawfulBEq α] {fields : List (α × β)}
    (same : (settle fields).length = fields.length) : (fields.map (·.1)).Nodup := by
  have within : (settle fields).map (·.1) ⊆ fields.map (·.1) := by
    intro key member
    rcases List.mem_map.mp member with ⟨entry, listed, rfl⟩
    exact List.mem_map_of_mem (mem_of_settle listed)
  have all := (List.Nodup.subperm (nodup_settle fields) within).perm_of_length_le (by simp [same])
  exact all.nodup_iff.mp (nodup_settle fields)

end Data

end Lalr
