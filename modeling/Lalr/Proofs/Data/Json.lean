import Lalr.Proofs.Data.Numbers
import Lalr.Proofs.Pairs

/-!
# Reading what has been written

Data that is written as JSON is read as the same data. A text in JSON cannot say all
that data can: the fields of a record have to have different names, and a decimal
fraction has to be written with its own digits.
-/

namespace Lalr.Data

open Text

theorem hexValue?_hexDigit : ∀ value < 16, hexValue? (hexDigit value) = some value := by
  decide

theorem unit?_hexDigits {unit : Nat} (small : unit < 0x10000) :
    unit? (hexDigit (unit / 16 / 16 / 16 % 16)) (hexDigit (unit / 16 / 16 % 16))
      (hexDigit (unit / 16 % 16)) (hexDigit (unit % 16)) = some unit := by
  have digit (n : Nat) : hexValue? (hexDigit (n % 16)) = some (n % 16) :=
    hexValue?_hexDigit _ (Nat.mod_lt n (by omega))
  simp only [unit?, digit]
  congr 1
  omega

/-- What a character that has been read adds to what is read after it. -/
def prepend (c : Char) (read : Option (List Char × List Char)) : Option (List Char × List Char) :=
  read.map fun (read, rest) => (c :: read, rest)

/-- A character of sixteen bits is read from its escape. -/
theorem readString_unitEscape (c : Char) (small : c.toNat < 0x10000) (rest : List Char) :
    readString none (unitEscape c.toNat ++ rest) = prepend c (readString none rest) := by
  have valid : c.toNat < 0xD800 ∨ 0xDFFF < c.toNat ∧ c.toNat < 0x110000 := c.valid
  have high : isHighUnit c.toNat = false := by
    simp only [isHighUnit, Bool.and_eq_false_iff, decide_eq_false_iff_not]
    omega
  have low : isLowUnit c.toNat = false := by
    simp only [isLowUnit, Bool.and_eq_false_iff, decide_eq_false_iff_not]
    omega
  simp only [unitEscape, hexDigits, List.nil_append, List.cons_append, readString,
    unit?_hexDigits small, high, low]
  simp [prepend, Char.ofNat_toNat]

/-- A character beyond sixteen bits is read from the two escapes it is written as. -/
theorem readString_unitEscapes (c : Char) (large : 0x10000 ≤ c.toNat) (rest : List Char) :
    readString none (unitEscape (0xD800 + (c.toNat - 0x10000) / 0x400) ++
      unitEscape (0xDC00 + (c.toNat - 0x10000) % 0x400) ++ rest) =
        prepend c (readString none rest) := by
  have valid : c.toNat < 0xD800 ∨ 0xDFFF < c.toNat ∧ c.toNat < 0x110000 := c.valid
  have high : isHighUnit (0xD800 + (c.toNat - 0x10000) / 0x400) = true := by
    simp only [isHighUnit, Bool.and_eq_true, decide_eq_true_eq]
    omega
  have low : isLowUnit (0xDC00 + (c.toNat - 0x10000) % 0x400) = true := by
    simp only [isLowUnit, Bool.and_eq_true, decide_eq_true_eq]
    omega
  have value : 0x10000 + (0xD800 + (c.toNat - 0x10000) / 0x400 - 0xD800) * 0x400 +
      (0xDC00 + (c.toNat - 0x10000) % 0x400 - 0xDC00) = c.toNat := by
    omega
  have first : unit? _ _ _ _ = some (0xD800 + (c.toNat - 0x10000) / 0x400) :=
    unit?_hexDigits (by omega)
  have second : unit? _ _ _ _ = some (0xDC00 + (c.toNat - 0x10000) % 0x400) :=
    unit?_hexDigits (by omega)
  simp only [unitEscape, hexDigits, List.nil_append, List.cons_append, readString, first, second,
    high, low, if_true, value, Char.ofNat_toNat]
  rfl

theorem readString_cons {c : Char} (quote : c ≠ '\x22') (escape : c ≠ '\\')
    (printable : ¬c.toNat < 0x20) (rest : List Char) :
    readString none (c :: rest) = prepend c (readString none rest) := by
  rw [readString.eq_def]
  split
  · simp_all
  · simp_all
  · simp_all
  next begins =>
    cases begins
    have quoted : (c == '\x22') = false := beq_false_of_ne quote
    have escaped : (c == '\\' || decide (c.toNat < 0x20)) = false := by
      rw [beq_false_of_ne escape, decide_eq_false printable]
      rfl
    simp only [quoted, escaped]
    rfl

theorem readString_jsonChar (c : Char) (rest : List Char) :
    readString none (jsonChar c ++ rest) = prepend c (readString none rest) := by
  unfold jsonChar
  by_cases escaped : (c == '\x22' || c == '\\') = true
  · rcases (by simpa using escaped : c = '\x22' ∨ c = '\\') with rfl | rfl
    · rfl
    · rfl
  rw [if_neg escaped]
  simp only [Bool.or_eq_true, beq_iff_eq, not_or] at escaped
  split
  next is => cases beq_iff_eq.mp is; rfl
  split
  next is => cases beq_iff_eq.mp is; rfl
  split
  next is => cases beq_iff_eq.mp is; rfl
  split
  next is => cases beq_iff_eq.mp is; rfl
  split
  next is => cases beq_iff_eq.mp is; rfl
  split
  next printable =>
    simp only [Bool.and_eq_true, decide_eq_true_eq] at printable
    exact readString_cons escaped.1 escaped.2 (by omega) rest
  split
  next small => exact readString_unitEscape c small rest
  next large => exact readString_unitEscapes c (by omega) rest

theorem readString_jsonChars (chars rest : List Char) :
    readString none (chars.flatMap jsonChar ++ '\x22' :: rest) = some (chars, rest) := by
  induction chars with
  | nil => rfl
  | cons c chars ih =>
      rw [List.flatMap_cons, List.append_assoc, readString_jsonChar, ih]
      rfl

/-! ## Values -/

/-- Whether data is what a text in JSON can say: the fields of a record have different names, and
decimal fractions are normal. -/
inductive Proper : Data → Prop
  | null : Proper .null
  | bool (value : Bool) : Proper (.bool value)
  | int (value : Int) : Proper (.int value)
  | decimal {mantissa exponent : Int} (normal : IsNormal mantissa.natAbs exponent) :
      Proper (.decimal mantissa exponent)
  | text (value : String) : Proper (.text value)
  | list {items : List Data} (each : ∀ item ∈ items, Proper item) : Proper (.list items)
  | record {fields : List (String × Data)} (distinct : (fields.map (·.1)).Nodup)
      (each : ∀ field ∈ fields, Proper field.2) : Proper (.record fields)

@[simp] theorem proper_text (value : String) : (Data.text value).Proper := .text value

@[simp] theorem proper_int (value : Int) : (Data.int value).Proper := .int value

@[simp] theorem proper_bool (value : Bool) : (Data.bool value).Proper := .bool value

@[simp] theorem proper_list_iff {items : List Data} :
    (Data.list items).Proper ↔ ∀ item ∈ items, item.Proper := by
  refine ⟨fun proper => ?_, .list⟩
  cases proper with
  | list each => exact each

@[simp] theorem proper_record_iff {fields : List (String × Data)} :
    (Data.record fields).Proper ↔
      (fields.map (·.1)).Nodup ∧ ∀ field ∈ fields, field.2.Proper := by
  refine ⟨fun proper => ?_, fun ⟨distinct, each⟩ => .record distinct each⟩
  cases proper with
  | record distinct each => exact ⟨distinct, each⟩

/-- Whether what stands between items and between names and values is a comma or a colon and white
space. -/
structure Spacing.Separates (spacing : Spacing) : Prop where
  comma : ∃ blanks, spacing.comma.toList = ',' :: blanks ∧ skipSpace blanks = []
  colon : ∃ blanks, spacing.colon.toList = ':' :: blanks ∧ skipSpace blanks = []

theorem Spacing.separates_spaced : Spacing.spaced.Separates where
  comma := ⟨[' '], by decide, by decide⟩
  colon := ⟨[' '], by decide, by decide⟩

theorem skipSpace_append {blanks : List Char} (blank : skipSpace blanks = []) (rest : List Char) :
    skipSpace (blanks ++ rest) = skipSpace rest := by
  unfold skipSpace at blank ⊢
  rw [List.dropWhile_append, blank]
  rfl

theorem readValue_append {blanks : List Char} (blank : skipSpace blanks = []) (depth : Nat)
    (rest : List Char) : readValue depth (blanks ++ rest) = readValue depth rest := by
  cases depth with
  | zero => rfl
  | succ depth => simp only [readValue, skipSpace_append blank]

theorem readItems_append {blanks : List Char} (blank : skipSpace blanks = []) (depth : Nat)
    (rest : List Char) : readItems depth (blanks ++ rest) = readItems depth rest := by
  cases depth with
  | zero => rfl
  | succ depth => simp only [readItems, readValue_append blank]

theorem readFields_append {blanks : List Char} (blank : skipSpace blanks = []) (depth : Nat)
    (rest : List Char) : readFields depth (blanks ++ rest) = readFields depth rest := by
  cases depth with
  | zero => rfl
  | succ depth => simp only [readFields, skipSpace_append blank]

/-- What a number may begin with. -/
def numberHeads : List Char := '-' :: Numeral.digits

theorem readValue_of_mem_heads {c : Char} (head : c ∈ numberHeads) (depth : Nat)
    (others : List Char) : readValue (depth + 1) (c :: others) = readNumber (c :: others) := by
  have all : ∀ c ∈ numberHeads,
      readValue (depth + 1) (c :: others) = readNumber (c :: others) := by
    simp only [numberHeads, Numeral.digits, List.forall_mem_cons]
    exact ⟨rfl, rfl, rfl, rfl, rfl, rfl, rfl, rfl, rfl, rfl, rfl, fun _ none => by cases none⟩
  exact all c head

theorem readValue_number {chars rest : List Char} {data : Data}
    (begins : ∃ c ∈ numberHeads, ∃ others, chars = c :: others)
    (read : readNumber (chars ++ rest) = some (data, rest)) (depth : Nat) :
    readValue (depth + 1) (chars ++ rest) = some (data, rest) := by
  rcases begins with ⟨c, head, others, rfl⟩
  rw [List.cons_append, readValue_of_mem_heads head]
  exact read

/-- A sign or a digit begins a number. -/
theorem signed_begins (value : Int) {body : List Char}
    (head : ∃ c ∈ Numeral.digits, ∃ others, body = c :: others) :
    ∃ c ∈ numberHeads, ∃ others, (if value < 0 then ['-'] else []) ++ body = c :: others := by
  split
  · exact ⟨'-', by decide, body, rfl⟩
  · rcases head with ⟨c, digit, others, rfl⟩
    exact ⟨c, List.mem_cons_of_mem _ digit, others, rfl⟩

theorem toString_begins (value : Int) :
    ∃ c ∈ numberHeads, ∃ others, (toString value).toList = c :: others := by
  rw [Numeral.toList_toString]
  exact signed_begins value (toDigits_begins _)

theorem decimalShown_begins (mantissa exponent : Int) :
    ∃ c ∈ numberHeads, ∃ others, (decimalShown mantissa exponent).toList = c :: others := by
  rw [toList_decimalShown]
  exact signed_begins mantissa (decimalBody_begins (fun _ => Numeral.isDigit_of_mem) exponent)

theorem jsonItems_eq_map (spacing : Spacing) (items : List Data) :
    jsonItems spacing items = items.map (json spacing) := by
  induction items with
  | nil => rfl
  | cons item items ih => rw [jsonItems, ih, List.map_cons]

/-- A field as JSON. -/
def jsonField (spacing : Spacing) (field : String × Data) : String :=
  jsonText field.1 ++ spacing.colon ++ json spacing field.2

theorem jsonFields_eq_map (spacing : Spacing) (fields : List (String × Data)) :
    jsonFields spacing fields = fields.map (jsonField spacing) := by
  induction fields with
  | nil => rfl
  | cons field fields ih => rw [jsonFields, ih, List.map_cons, jsonField]

theorem toList_joinWith_cons (separator first second : String) (rest : List String) :
    (joinWith separator (first :: second :: rest)).toList =
      first.toList ++ (separator.toList ++ (joinWith separator (second :: rest)).toList) := by
  simp [joinWith, String.intercalate_cons_cons, String.toList_append]

theorem toList_json_null (spacing : Spacing) :
    (json spacing .null).toList = ['n', 'u', 'l', 'l'] := by simp [json]

theorem toList_json_bool (spacing : Spacing) (value : Bool) :
    (json spacing (.bool value)).toList =
      if value then ['t', 'r', 'u', 'e'] else ['f', 'a', 'l', 's', 'e'] := by
  cases value <;> simp [json]

theorem toList_jsonText (value : String) :
    (jsonText value).toList = '\x22' :: (value.toList.flatMap jsonChar ++ ['\x22']) := by
  simp [jsonText]

theorem toList_json_list (spacing : Spacing) (items : List Data) :
    (json spacing (.list items)).toList =
      '[' :: ((joinWith spacing.comma (items.map (json spacing))).toList ++ [']']) := by
  simp [json, jsonItems_eq_map]

theorem toList_json_record (spacing : Spacing) (fields : List (String × Data)) :
    (json spacing (.record fields)).toList =
      '\x7b' :: ((joinWith spacing.comma (fields.map (jsonField spacing))).toList ++ ['\x7d']) := by
  simp [json, jsonFields_eq_map]

/-- What no value begins with: white space and what ends a list. -/
def Begins (chars : List Char) : Prop :=
  ∃ c others, chars = c :: others ∧ skipSpace [c] = [c] ∧ c ≠ ']'

theorem Begins.skipSpace_eq {chars : List Char} (begins : Begins chars) (rest : List Char) :
    skipSpace (chars ++ rest) = chars ++ rest := by
  rcases begins with ⟨c, others, rfl, keeps, _⟩
  unfold skipSpace at keeps ⊢
  rw [List.dropWhile_cons] at keeps
  split at keeps
  next => cases keeps
  next other => rw [List.cons_append, List.dropWhile_cons, if_neg other]

theorem json_begins (spacing : Spacing) {data : Data} (proper : data.Proper) :
    Begins (json spacing data).toList := by
  have heads : ∀ c ∈ numberHeads, skipSpace [c] = [c] ∧ c ≠ ']' :=
    forall_mem_of_all (by decide)
  cases proper with
  | null => exact ⟨'n', _, toList_json_null spacing, by decide, by decide⟩
  | bool value =>
      cases value with
      | true => exact ⟨'t', _, toList_json_bool spacing true, by decide, by decide⟩
      | false => exact ⟨'f', _, toList_json_bool spacing false, by decide, by decide⟩
  | int value =>
      rcases toString_begins value with ⟨c, head, others, begins⟩
      exact ⟨c, others, begins, heads c head⟩
  | decimal =>
      rcases decimalShown_begins _ _ with ⟨c, head, others, begins⟩
      exact ⟨c, others, begins, heads c head⟩
  | text value => exact ⟨'\x22', _, toList_jsonText value, by decide, by decide⟩
  | list => exact ⟨'[', _, toList_json_list spacing _, by decide, by decide⟩
  | record => exact ⟨'\x7b', _, toList_json_record spacing _, by decide, by decide⟩

/-- Whether what data is written as is read as the data, by readers of any greater depth, where no
number goes on after it. -/
def Reads (spacing : Spacing) (data : Data) : Prop :=
  ∀ depth rest, (json spacing data).toList.length < depth → Stops rest →
    readValue depth ((json spacing data).toList ++ rest) = some (data, rest)

variable {spacing : Spacing}

theorem stops_mark {c : Char} (mark : c ∈ [',', ':', ']', '\x7d']) (rest : List Char) :
    Stops (c :: rest) := by
  have marks : ∀ c ∈ [',', ':', ']', '\x7d'],
      c.isDigit = false ∧ c ≠ '.' ∧ c ≠ 'e' ∧ c ≠ 'E' := forall_mem_of_all (by decide)
  rintro _ ⟨⟩
  exact marks c mark

/-- Induction on the items. -/
theorem readItems_json (separates : spacing.Separates) (rest : List Char) :
    ∀ {items : List Data} {depth : Nat}, items ≠ [] →
      (∀ item ∈ items, Reads spacing item) →
      (joinWith spacing.comma (items.map (json spacing))).toList.length + 1 < depth →
      readItems depth ((joinWith spacing.comma (items.map (json spacing))).toList ++ ']' :: rest) =
        some (items, rest) := by
  intro items
  induction items with
  | nil => exact fun some => absurd rfl some
  | cons item items ih =>
      intro depth _ reads enough
      have read := reads item (by simp)
      cases depth with
      | zero => omega
      | succ depth =>
          cases items with
          | nil =>
              have single : (joinWith spacing.comma ([item].map (json spacing))).toList =
                  (json spacing item).toList := by simp [joinWith]
              rw [single] at enough ⊢
              rw [readItems, read depth _ (by omega) (stops_mark (by simp) rest)]
              rfl
          | cons second items =>
              rcases separates.comma with ⟨blanks, comma, blank⟩
              have joined := toList_joinWith_cons spacing.comma (json spacing item)
                (json spacing second) (items.map (json spacing))
              rw [comma] at joined
              simp only [List.map_cons] at enough ih ⊢
              rw [joined] at enough ⊢
              simp only [List.length_append, List.length_cons] at enough
              simp only [List.append_assoc, List.cons_append]
              rw [readItems, read depth _ (by omega) (stops_mark (by simp) _)]
              have others := @ih depth (by simp) (fun item member => reads item (by simp [member]))
                (by omega)
              simp [skipSpace, readItems_append blank, others]

/-- A field is read up to the mark behind it, which other fields follow or which ends the record. -/
theorem readFields_jsonField (separates : spacing.Separates) {field : String × Data}
    (read : Reads spacing field.2) {depth : Nat} {mark : Char} {rest : List Char}
    (enough : (jsonField spacing field).toList.length ≤ depth)
    (marks : mark = ',' ∨ mark = '\x7d') :
    readFields (depth + 1) ((jsonField spacing field).toList ++ mark :: rest) =
      if mark = ',' then
        (readFields depth rest).map fun found => (field :: found.1, found.2)
      else some ([field], rest) := by
  rcases separates.colon with ⟨blanks, colon, blank⟩
  have written : (jsonField spacing field).toList =
      '\x22' :: (field.1.toList.flatMap jsonChar ++ '\x22' :: ':' ::
        (blanks ++ (json spacing field.2).toList)) := by
    simp [jsonField, toList_jsonText, colon]
  rw [written] at enough ⊢
  simp only [List.length_cons, List.length_append] at enough
  simp only [List.append_assoc, List.cons_append]
  have value := read depth (mark :: rest) (by omega)
    (stops_mark (by rcases marks with rfl | rfl <;> simp) rest)
  rcases marks with rfl | rfl
  · simp [readFields, skipSpace, readString_jsonChars, readValue_append blank, value]
  · simp [readFields, skipSpace, readString_jsonChars, readValue_append blank, value]

/-- Induction on the fields. -/
theorem readFields_json (separates : spacing.Separates) (rest : List Char) :
    ∀ {fields : List (String × Data)} {depth : Nat}, fields ≠ [] →
      (∀ field ∈ fields, Reads spacing field.2) →
      (joinWith spacing.comma (fields.map (jsonField spacing))).toList.length + 1 < depth →
      readFields depth
          ((joinWith spacing.comma (fields.map (jsonField spacing))).toList ++ '\x7d' :: rest) =
        some (fields, rest) := by
  intro fields
  induction fields with
  | nil => exact fun some => absurd rfl some
  | cons field fields ih =>
      intro depth _ reads enough
      have read := reads field (by simp)
      cases depth with
      | zero => omega
      | succ depth =>
          cases fields with
          | nil =>
              have single : (joinWith spacing.comma ([field].map (jsonField spacing))).toList =
                  (jsonField spacing field).toList := by simp [joinWith]
              rw [single] at enough ⊢
              rw [readFields_jsonField separates read (by omega) (.inr rfl), if_neg (by decide)]
          | cons second fields =>
              rcases separates.comma with ⟨blanks, comma, blank⟩
              have joined := toList_joinWith_cons spacing.comma (jsonField spacing field)
                (jsonField spacing second) (fields.map (jsonField spacing))
              rw [comma] at joined
              simp only [List.map_cons] at enough ih ⊢
              rw [joined] at enough ⊢
              simp only [List.length_append, List.length_cons] at enough
              simp only [List.append_assoc, List.cons_append]
              rw [readFields_jsonField separates read (by omega) (.inl rfl), if_pos rfl]
              have others := @ih depth (by simp)
                (fun field member => reads field (by simp [member])) (by omega)
              simp [readFields_append blank, others]

theorem Begins.append {chars : List Char} (begins : Begins chars) (rest : List Char) :
    Begins (chars ++ rest) := by
  rcases begins with ⟨c, others, rfl, keeps, ne⟩
  exact ⟨c, others ++ rest, rfl, keeps, ne⟩

theorem joinWith_begins {separator first : String} (begins : Begins first.toList)
    (rest : List String) : Begins (joinWith separator (first :: rest)).toList := by
  cases rest with
  | nil => simpa [joinWith] using begins
  | cons second rest =>
      rw [toList_joinWith_cons]
      exact begins.append _

theorem readValue_list {chars : List Char} (begins : Begins chars) (depth : Nat) :
    readValue (depth + 1) ('[' :: chars) =
      (readItems depth chars).map fun (items, rest) => (.list items, rest) := by
  have keeps := begins.skipSpace_eq []
  rcases begins with ⟨c, others, rfl, _, ne⟩
  rw [List.append_nil] at keeps
  have opened : skipSpace ('[' :: c :: others) = '[' :: c :: others := rfl
  simp only [readValue, opened, keeps]
  split
  next ends => exact absurd (List.cons.inj ends).1 ne
  next => rfl

theorem readValue_record (chars : List Char) (depth : Nat) :
    readValue (depth + 1) ('\x7b' :: '\x22' :: chars) =
      (readFields depth ('\x22' :: chars)).map fun (fields, rest) =>
        (.record (settle fields), rest) := rfl

/-- A reader has at least a depth of one. -/
theorem reads_of_succ {data : Data}
    (read : ∀ depth rest, (json spacing data).toList.length ≤ depth → Stops rest →
      readValue (depth + 1) ((json spacing data).toList ++ rest) = some (data, rest)) :
    Reads spacing data := by
  intro depth rest enough stops
  cases depth with
  | zero => omega
  | succ depth => exact read depth rest (by omega) stops

/-- Induction on the data. -/
theorem reads_json (separates : spacing.Separates) {data : Data} (proper : data.Proper) :
    Reads spacing data := by
  induction proper with
  | null =>
      refine reads_of_succ fun depth rest enough stops => ?_
      rw [toList_json_null]
      rfl
  | bool value =>
      refine reads_of_succ fun depth rest enough stops => ?_
      rw [toList_json_bool]
      cases value <;> rfl
  | int value =>
      refine reads_of_succ fun depth rest enough stops => ?_
      rw [json]
      exact readValue_number (toString_begins value) (readNumber_toString value stops) depth
  | decimal normal =>
      refine reads_of_succ fun depth rest enough stops => ?_
      rw [json]
      exact readValue_number (decimalShown_begins _ _) (readNumber_decimalShown normal stops) depth
  | text value =>
      refine reads_of_succ fun depth rest enough stops => ?_
      rw [json, toList_jsonText]
      simp [readValue, skipSpace, readString_jsonChars]
  | @list items each ih =>
      refine reads_of_succ fun depth rest enough stops => ?_
      rw [toList_json_list] at enough ⊢
      cases items with
      | nil =>
          simp [joinWith]
          rfl
      | cons item items =>
          simp only [List.length_cons, List.length_append, List.length_nil] at enough
          have read := @readItems_json spacing separates rest (item :: items) depth (by simp) ih
            (by omega)
          have begins : Begins (joinWith spacing.comma
              ((item :: items).map (json spacing))).toList :=
            joinWith_begins (json_begins spacing (each item (by simp))) _
          simp only [List.cons_append, List.append_assoc, List.nil_append]
          rw [readValue_list (begins.append _), read]
          rfl
  | @record fields distinct each ih =>
      refine reads_of_succ fun depth rest enough stops => ?_
      rw [toList_json_record] at enough ⊢
      cases fields with
      | nil =>
          simp [joinWith]
          rfl
      | cons field fields =>
          simp only [List.length_cons, List.length_append, List.length_nil] at enough
          have read := @readFields_json spacing separates rest (field :: fields) depth (by simp) ih
            (by omega)
          have exists_others : ∃ others, (joinWith spacing.comma
              ((field :: fields).map (jsonField spacing))).toList = '\x22' :: others := by
            cases fields with
            | nil => exact ⟨_, by simp [joinWith, jsonField, toList_jsonText]; rfl⟩
            | cons second fields =>
                rw [List.map_cons, List.map_cons, toList_joinWith_cons]
                exact ⟨_, by simp [jsonField, toList_jsonText]; rfl⟩
          rcases exists_others with ⟨others, begins⟩
          rw [begins] at read ⊢
          simp only [List.cons_append, List.append_assoc, List.nil_append] at read ⊢
          rw [readValue_record, read]
          simp [settle_of_distinct distinct]

theorem ofJson?_json (separates : spacing.Separates) {data : Data} (proper : data.Proper) :
    ofJson? (json spacing data) = some data := by
  have read := reads_json separates proper ((json spacing data).toList.length + 1) []
    (by omega) (by simp [Stops])
  rw [List.append_nil] at read
  simp [ofJson?, read, skipSpace]

end Lalr.Data
