import Lalr.Data.Reader
import Lalr.Table.State

/-!
# Numerals of numbers

The decimal digits that a number is written with are read back as that number: as the
value of a numeral, as a number in JSON and as the name of a state.
-/

namespace Lalr

theorem forall_mem_of_all {α : Type} {holds : α → Prop} [DecidablePred holds] {items : List α}
    (all : items.all (fun item => decide (holds item)) = true) :
    ∀ item ∈ items, holds item := by
  simpa using all

namespace Numeral

theorem isDigit_of_mem {n : Nat} {c : Char} (member : c ∈ Nat.toDigits 10 n) : c.isDigit = true :=
  Nat.isDigit_of_mem_toDigits (by decide) (by decide) member

/-- The numeral of a number other than zero does not begin with a zero. -/
theorem head_toDigits {n : Nat} (positive : 0 < n) :
    ∀ {c : Char} {rest : List Char}, Nat.toDigits 10 n = c :: rest → c ≠ '0' := by
  induction n using Nat.strongRecOn with
  | ind n ih =>
      intro c rest begins
      by_cases small : n < 10
      · rw [Nat.toDigits_of_lt_base small] at begins
        cases begins
        have digits : ∀ digit < 10, 0 < digit → Nat.digitChar digit ≠ '0' := by decide
        exact digits n small positive
      · have large : 10 ≤ n := by omega
        rw [Nat.toDigits_of_base_le (by decide) large] at begins
        cases higher : Nat.toDigits 10 (n / 10) with
        | nil => exact absurd higher Nat.toDigits_ne_nil
        | cons first others =>
            rw [higher] at begins
            cases begins
            exact ih (n / 10) (by omega) (by omega) higher

theorem digitsValue_toDigits (n : Nat) : Data.digitsValue (Nat.toDigits 10 n) = n := by
  have value := Nat.ofDigitChars_ten_toDigits (n := n)
  rw [Nat.ofDigitChars_eq_foldl] at value
  simpa [Data.digitsValue, Nat.mul_comm] using value

/-- The ten digits. -/
def digits : List Char := ['0', '1', '2', '3', '4', '5', '6', '7', '8', '9']

theorem mem_digits {c : Char} (digit : c.isDigit = true) : c ∈ digits := by
  simp only [Char.isDigit, Bool.and_eq_true, decide_eq_true_eq] at digit
  have low : 48 ≤ c.toNat := digit.1
  have high : c.toNat ≤ 57 := digit.2
  have codes : ∀ code < 58, 48 ≤ code → Char.ofNat code ∈ digits := by decide
  rw [← Char.ofNat_toNat c]
  exact codes c.toNat (by omega) low

/-- The digits of a number are those of a numeral in any script. -/
theorem digitValue?_of_isDigit {c : Char} (digit : c.isDigit = true) :
    Unicode.digitValue? c = some (c.toNat - 48) := by
  have values : ∀ c ∈ digits, Unicode.digitValue? c = some (c.toNat - 48) :=
    forall_mem_of_all (by decide)
  exact values c (mem_digits digit)

theorem isPadding_of_isDigit {c : Char} (digit : c.isDigit = true) : isPadding c = false := by
  have padding : ∀ c ∈ digits, isPadding c = false := forall_mem_of_all (by decide)
  exact padding c (mem_digits digit)

theorem digits?_of_isDigit {chars : List Char} (all : ∀ c ∈ chars, c.isDigit = true) :
    ∀ (total : Nat) (afterDigit : Bool), chars ≠ [] ∨ afterDigit = true →
      digits? total afterDigit chars = some (Nat.ofDigitChars 10 chars total) := by
  induction chars with
  | nil =>
      intro total afterDigit reads
      simpa [digits?] using reads
  | cons c chars ih =>
      intro total afterDigit _
      have value := digitValue?_of_isDigit (all c (by simp))
      simp only [digits?, value]
      rw [ih (fun c member => all c (by simp [member])) _ _ (.inr rfl), Nat.ofDigitChars_cons,
        Nat.mul_comm]
      rfl

theorem digits?_toDigits (n : Nat) : digits? 0 false (Nat.toDigits 10 n) = some n := by
  rw [digits?_of_isDigit (fun _ member => isDigit_of_mem member) _ _ (.inl Nat.toDigits_ne_nil),
    Nat.ofDigitChars_ten_toDigits]

/-- Characters that are no white space have none at their ends. -/
theorem unpadded_of_forall {chars : List Char} (all : ∀ c ∈ chars, isPadding c = false) :
    unpadded chars = chars := by
  have keeps : ∀ {chars : List Char}, (∀ c ∈ chars, isPadding c = false) →
      chars.dropWhile isPadding = chars := by
    intro chars all
    cases chars with
    | nil => rfl
    | cons c chars => simp [all c (by simp)]
  unfold unpadded
  rw [keeps all, keeps (by simpa using all), List.reverse_reverse]

theorem toList_toString (value : Int) :
    (toString value).toList =
      (if value < 0 then ['-'] else []) ++ Nat.toDigits 10 value.natAbs := by
  cases value with
  | ofNat n =>
      have positive : ¬Int.ofNat n < 0 := by simp
      rw [if_neg positive]
      exact Nat.toList_repr
  | negSucc n =>
      have negative : Int.negSucc n < 0 := Int.negSucc_lt_zero n
      rw [if_pos negative]
      show ("-" ++ Nat.repr (n + 1)).toList = _
      rw [String.toList_append, Nat.toList_repr]
      rfl

/-- What a number is written as is read as the number. -/
theorem int?_toString (value : Int) : int? (toString value) = some value := by
  have isDigit {n : Nat} : ∀ c ∈ Nat.toDigits 10 n, c.isDigit = true := fun _ => isDigit_of_mem
  have noPadding : ∀ c ∈ (toString value).toList, isPadding c = false := by
    intro c member
    rw [toList_toString] at member
    rcases List.mem_append.mp member with sign | digit
    · split at sign
      · rcases (show c = '-' by simpa using sign) with rfl
        decide
      · cases sign
    · exact isPadding_of_isDigit (isDigit c digit)
  unfold int?
  rw [unpadded_of_forall noPadding, toList_toString]
  by_cases negative : value < 0
  · rw [if_pos negative]
    have value_eq : -(value.natAbs : Int) = value := by omega
    generalize value.natAbs = magnitude at value_eq ⊢
    simp [digits?_toDigits, value_eq]
  · rw [if_neg negative]
    have value_eq : (value.natAbs : Int) = value := by omega
    generalize value.natAbs = magnitude at value_eq ⊢
    rw [List.nil_append]
    split
    next rest begins =>
      have minus := isDigit '-' (by rw [begins]; simp)
      cases minus
    next rest begins =>
      have plus := isDigit '+' (by rw [begins]; simp)
      cases plus
    next => simp [digits?_toDigits, value_eq]

/-- Different numbers are written differently. -/
theorem toString_injective {value value' : Int} (same : toString value = toString value') :
    value = value' := by
  have read := int?_toString value
  rw [same, int?_toString] at read
  exact (Option.some.inj read).symm

end Numeral

namespace State

/-- A number that names a state is read as that state. -/
theorem ofData?_toString (value : Int) :
    ofData? (.text (toString value)) = some (.number value) := by
  have numeric : looksNumeric (toString value) = true := by
    have isDigit : ∀ c ∈ Nat.toDigits 10 value.natAbs, c.isDigit = true :=
      fun _ => Numeral.isDigit_of_mem
    have noSign : (Nat.toDigits 10 value.natAbs).dropWhile (· == '-') =
        Nat.toDigits 10 value.natAbs := by
      cases digits : Nat.toDigits 10 value.natAbs with
      | nil => rfl
      | cons c rest =>
          have digit := isDigit c (by simp [digits])
          have ne : (c == '-') = false := by
            rw [beq_eq_false_iff_ne]
            rintro rfl
            cases digit
          simp [ne]
    have dropped : (toString value).toList.dropWhile (· == '-') =
        Nat.toDigits 10 value.natAbs := by
      rw [Numeral.toList_toString]
      split
      · simpa using noSign
      · simpa using noSign
    unfold looksNumeric
    rw [dropped]
    simp only [Bool.and_eq_true, Bool.not_eq_true', List.isEmpty_eq_false_iff, List.all_eq_true]
    refine ⟨Nat.toDigits_ne_nil, fun c member => ?_⟩
    simp [Unicode.isDigitLike, Unicode.isDecimal, Numeral.digitValue?_of_isDigit (isDigit c member)]
  simp only [ofData?, numeric, if_true, Numeral.int?_toString, Option.map_some]

end State

end Lalr
