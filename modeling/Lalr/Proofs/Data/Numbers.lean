import Mathlib.Data.List.DropRight
import Lalr.Data.Reader
import Lalr.Data.Writer
import Lalr.Proofs.Data.Numerals

/-!
# Numbers in JSON

A number is read part by part: the digits before the point, those after it, and the
exponent. A whole number is read from what it is written as, and so is a decimal
fraction that is written with its own digits, wherever the text does not go on with
what another number might go on with.
-/

namespace Lalr.Data

/-! ## Reading numbers -/

/-- Whether a text does not go on with a digit. -/
def Halts (rest : List Char) : Prop := ∀ c, rest.head? = some c → c.isDigit = false

/-- Whether a text does not go on with anything that a number may go on with. -/
def Stops (rest : List Char) : Prop :=
  ∀ c, rest.head? = some c → c.isDigit = false ∧ c ≠ '.' ∧ c ≠ 'e' ∧ c ≠ 'E'

theorem Stops.halts {rest : List Char} (stops : Stops rest) : Halts rest :=
  fun c head => (stops c head).1

variable {digits rest : List Char}

theorem takeWhile_digits (all : ∀ c ∈ digits, c.isDigit = true) (halts : Halts rest) :
    (digits ++ rest).takeWhile Char.isDigit = digits := by
  rw [List.takeWhile_append_of_pos all]
  cases rest with
  | nil => simp
  | cons c rest => simp [halts c rfl]

theorem dropWhile_digits (all : ∀ c ∈ digits, c.isDigit = true) (halts : Halts rest) :
    (digits ++ rest).dropWhile Char.isDigit = rest := by
  rw [List.dropWhile_append_of_pos all]
  cases rest with
  | nil => simp
  | cons c rest => simp [halts c rfl]

theorem readExponent_of_stops (stops : Stops rest) : readExponent rest = (none, rest) := by
  cases rest with
  | nil => rfl
  | cons c rest =>
      have head := stops c rfl
      simp [readExponent, head]

/-- Reads the digits before the point of a number. -/
def readWhole (chars : List Char) : List Char × List Char :=
  match chars with
  | '0' :: rest => (['0'], rest)
  | _ => (chars.takeWhile Char.isDigit, chars.dropWhile Char.isDigit)

/-- Reads the digits after the point of a number, if there are any. -/
def readFraction (chars : List Char) : List Char × List Char :=
  match chars with
  | '.' :: after =>
    match after.takeWhile Char.isDigit with
    | [] => ([], chars)
    | fraction => (fraction, after.dropWhile Char.isDigit)
  | _ => ([], chars)

theorem readWhole_append (proper : wholePart digits = true)
    (all : ∀ c ∈ digits, c.isDigit = true) (halts : Halts rest) :
    readWhole (digits ++ rest) = (digits, rest) := by
  have taken := takeWhile_digits all halts
  have dropped := dropWhile_digits all halts
  unfold readWhole
  split
  next others begins =>
    cases digits with
    | nil => cases proper
    | cons first others' =>
        cases begins
        cases others' with
        | nil => rfl
        | cons second others' => cases proper
  next => rw [taken, dropped]

theorem readFraction_append (some : digits ≠ []) (all : ∀ c ∈ digits, c.isDigit = true)
    (halts : Halts rest) : readFraction ('.' :: (digits ++ rest)) = (digits, rest) := by
  have taken := takeWhile_digits all halts
  have dropped := dropWhile_digits all halts
  simp only [readFraction, taken, dropped]

theorem readFraction_of_ne (other : rest.head? ≠ some '.') : readFraction rest = ([], rest) := by
  unfold readFraction
  split
  next => simp at other
  next => rfl

/-- A number is read part by part. -/
theorem readMagnitude_eq {chars whole fraction : List Char} {power : Option Int}
    {rest rest' rest'' : List Char} (wholeRead : readWhole chars = (whole, rest))
    (fractionRead : readFraction rest = (fraction, rest'))
    (powerRead : readExponent rest' = (power, rest'')) (some : whole ≠ []) :
    readMagnitude chars =
      if fraction.isEmpty && power.isNone then .some ((digitsValue whole, none), rest'')
      else .some ((digitsValue (whole ++ fraction),
        .some (power.getD 0 - fraction.length)), rest'') := by
  have unfolded : readMagnitude chars =
      if (readWhole chars).1.isEmpty then none
      else
        let read := readFraction (readWhole chars).2
        let ended := readExponent read.2
        if read.1.isEmpty && ended.1.isNone then
          .some ((digitsValue (readWhole chars).1, none), ended.2)
        else .some ((digitsValue ((readWhole chars).1 ++ read.1),
          .some (ended.1.getD 0 - read.1.length)), ended.2) := rfl
  have begins : whole.isEmpty = false := List.isEmpty_eq_false_iff.mpr some
  rw [unfolded]
  simp only [wholeRead, fractionRead, powerRead, begins]
  rfl

theorem wholePart_toDigits (n : Nat) : wholePart (Nat.toDigits 10 n) = true := by
  rcases Nat.eq_zero_or_pos n with rfl | positive
  · rfl
  · cases digits : Nat.toDigits 10 n with
    | nil => exact absurd digits Nat.toDigits_ne_nil
    | cons first others =>
        have nonzero := Numeral.head_toDigits positive digits
        cases others with
        | nil => simp [wholePart, nonzero]
        | cons second others => simp [wholePart, nonzero]

theorem readMagnitude_toDigits (n : Nat) (stops : Stops rest) :
    readMagnitude (Nat.toDigits 10 n ++ rest) = some ((n, none), rest) := by
  have noPoint : rest.head? ≠ some '.' := fun head => (stops _ head).2.1 rfl
  rw [readMagnitude_eq
    (readWhole_append (wholePart_toDigits n) (fun _ => Numeral.isDigit_of_mem) stops.halts)
    (readFraction_of_ne noPoint) (readExponent_of_stops stops) Nat.toDigits_ne_nil,
    Numeral.digitsValue_toDigits]
  rfl

theorem isDigit_of_mem_digits : ∀ c ∈ Numeral.digits, c.isDigit = true :=
  forall_mem_of_all (by decide)

theorem zero_isDigit : ∀ c ∈ ['0'], c.isDigit = true := List.forall_mem_singleton.mpr rfl

/-- The number with a sign and maybe a power of ten. -/
def signedNumber (value : Int) : Option Int → Data
  | none => .int value
  | some power => .decimal value power

/-- A sign is read before the digits of a number. -/
theorem readNumber_signed (value : Int) {body : List Char} {power : Option Int}
    (head : ∃ c ∈ Numeral.digits, ∃ others, body = c :: others)
    (read : readMagnitude (body ++ rest) = some ((value.natAbs, power), rest)) :
    readNumber ((if value < 0 then ['-'] else []) ++ body ++ rest) =
      some (signedNumber value power, rest) := by
  by_cases negative : value < 0
  · have value_eq : -(value.natAbs : Int) = value := by omega
    generalize value.natAbs = magnitude at read value_eq
    cases power with
    | none => simp [readNumber, negative, read, value_eq, signedNumber]
    | some power => simp [readNumber, negative, read, value_eq, signedNumber]
  · have value_eq : (value.natAbs : Int) = value := by omega
    generalize value.natAbs = magnitude at read value_eq
    rcases head with ⟨c, digit, others, rfl⟩
    have noSign : c ≠ '-' := by
      rintro rfl
      cases isDigit_of_mem_digits _ digit
    rw [if_neg negative, List.nil_append]
    unfold readNumber
    split
    next magnitude begins =>
      split at begins
      next starts => exact absurd (List.cons.inj starts).1 noSign
      next =>
        cases begins
        rw [read]
        cases power with
        | none => simp [value_eq, signedNumber]
        | some power => simp [value_eq, signedNumber]

theorem toDigits_begins (n : Nat) :
    ∃ c ∈ Numeral.digits, ∃ others, Nat.toDigits 10 n = c :: others := by
  cases digits : Nat.toDigits 10 n with
  | nil => exact absurd digits Nat.toDigits_ne_nil
  | cons first others =>
      have digit := Numeral.isDigit_of_mem (digits ▸ List.mem_cons_self)
      exact ⟨first, Numeral.mem_digits digit, others, rfl⟩

theorem readNumber_toString (value : Int) (stops : Stops rest) :
    readNumber ((toString value).toList ++ rest) = some (.int value, rest) := by
  rw [Numeral.toList_toString]
  exact readNumber_signed value (toDigits_begins _) (readMagnitude_toDigits _ stops)

/-! ## Decimal fractions -/

/-- Whether a decimal fraction is written with its own digits: it does not end in a zero, unless
the zero is the only digit after the point. -/
def IsNormal (magnitude : Nat) (exponent : Int) : Prop :=
  let point : Int := (Nat.toDigits 10 magnitude).length + exponent
  if magnitude % 10 = 0 then exponent = -1 ∧ point ≤ 16 else exponent < 0 ∨ 16 < point

/-- Zeros before a number do not change it. -/
theorem digitsValue_replicate (count : Nat) (digits : List Char) :
    digitsValue (List.replicate count '0' ++ digits) = digitsValue digits := by
  induction count with
  | zero => rfl
  | succ count ih => simpa [List.replicate_succ, digitsValue] using ih

theorem halts_of_ne {c : Char} (other : c.isDigit = false) (rest : List Char) :
    Halts (c :: rest) := by
  rintro _ ⟨⟩
  exact other

theorem readMagnitude_point (whole fraction : List Char) (proper : wholePart whole = true)
    (wholeDigits : ∀ c ∈ whole, c.isDigit = true) (some : fraction ≠ [])
    (fractionDigits : ∀ c ∈ fraction, c.isDigit = true) (stops : Stops rest) :
    readMagnitude (whole ++ '.' :: (fraction ++ rest)) =
      .some ((digitsValue (whole ++ fraction), .some (-fraction.length)), rest) := by
  have nonempty : whole ≠ [] := by
    rintro rfl
    cases proper
  rw [readMagnitude_eq (readWhole_append proper wholeDigits (halts_of_ne (by decide) _))
    (readFraction_append some fractionDigits stops.halts) (readExponent_of_stops stops) nonempty]
  have hasFraction : fraction.isEmpty = false := List.isEmpty_eq_false_iff.mpr some
  simp [hasFraction]

theorem readExponent_eq {power : List Char} (negative : Bool) (some : power ≠ [])
    (all : ∀ c ∈ power, c.isDigit = true) (halts : Halts rest) :
    readExponent ('e' :: (if negative then '-' else '+') :: (power ++ rest)) =
      (.some (if negative then -(digitsValue power : Int) else digitsValue power), rest) := by
  have taken := takeWhile_digits all halts
  have dropped := dropWhile_digits all halts
  cases negative with
  | false =>
      simp [readExponent, taken, dropped]
  | true =>
      simp [readExponent, taken, dropped]

theorem readMagnitude_power {first : Char} (fraction power : List Char) (negative : Bool)
    (proper : wholePart [first] = true) (digit : first.isDigit = true)
    (fractionDigits : ∀ c ∈ fraction, c.isDigit = true) (some : power ≠ [])
    (powerDigits : ∀ c ∈ power, c.isDigit = true) (stops : Stops rest) :
    readMagnitude (first :: ((if fraction.isEmpty then [] else '.' :: fraction) ++
        'e' :: (if negative then '-' else '+') :: (power ++ rest))) =
      .some ((digitsValue (first :: fraction),
        .some ((if negative then -(digitsValue power : Int) else digitsValue power) -
          fraction.length)), rest) := by
  have exponent := readExponent_eq negative some powerDigits stops.halts
  have wholeDigits : ∀ c ∈ [first], c.isDigit = true := by simpa using digit
  generalize (if negative then -(digitsValue power : Int) else digitsValue power) =
    value at exponent
  have halts := halts_of_ne (c := 'e') (by decide)
    ((if negative then '-' else '+') :: (power ++ rest))
  have noPoint : ('e' :: (if negative then '-' else '+') :: (power ++ rest)).head? ≠
      .some '.' := by
    simp
  generalize 'e' :: (if negative then '-' else '+') :: (power ++ rest) = tail at *
  cases fraction with
  | nil =>
      have whole := readWhole_append proper wholeDigits halts
      have fraction := readFraction_of_ne noPoint
      have read := readMagnitude_eq whole fraction exponent (by simp)
      simpa using read
  | cons second fraction =>
      have whole := readWhole_append proper wholeDigits (halts_of_ne (c := '.') (by decide)
        (second :: fraction ++ tail))
      have fraction := readFraction_append (List.cons_ne_nil second fraction) fractionDigits halts
      have read := readMagnitude_eq whole fraction exponent (by simp)
      simpa using read

/-- The digits of an exponent, which are two at least. -/
def powerDigits (power : Nat) : List Char :=
  List.replicate (if (Nat.toDigits 10 power).length < 2 then 1 else 0) '0' ++ Nat.toDigits 10 power

/-- The characters of a decimal fraction without its sign, from the digits of its number. -/
def decimalBody (digits : List Char) (exponent : Int) : List Char :=
  let significant := digits.rdropWhile (· == '0')
  let point : Int := digits.length + exponent
  if significant.isEmpty then ['0', '.', '0']
  else if -4 < point && point ≤ 16 then
    if point ≤ 0 then '0' :: '.' :: (List.replicate (-point).toNat '0' ++ significant)
    else
      let fraction := significant.drop point.toNat
      significant.take point.toNat ++ List.replicate (point.toNat - significant.length) '0'
        ++ '.' :: (if fraction.isEmpty then ['0'] else fraction)
  else
    let fraction := significant.drop 1
    significant.take 1 ++ ((if fraction.isEmpty then [] else '.' :: fraction) ++
      'e' :: (if point - 1 < 0 then '-' else '+') :: powerDigits (point - 1).natAbs)

theorem toList_decimalShown (mantissa exponent : Int) :
    (decimalShown mantissa exponent).toList =
      (if mantissa < 0 then ['-'] else []) ++
        decimalBody (Nat.toDigits 10 mantissa.natAbs) exponent := by
  have digits (n : Nat) : (toString n).toList = Nat.toDigits 10 n := Nat.toList_repr
  have length (n : Nat) : (toString n).length = (Nat.toDigits 10 n).length := by
    rw [← digits, String.length_toList]
  have sign : (if mantissa < 0 then "-" else "").toList = if mantissa < 0 then ['-'] else [] := by
    split <;> rfl
  have significant_eq : ((Nat.toDigits 10 mantissa.natAbs).reverse.dropWhile (· == '0')).reverse =
      (Nat.toDigits 10 mantissa.natAbs).rdropWhile (· == '0') := rfl
  simp only [decimalShown, decimalBody, digits, length, significant_eq]
  by_cases none : ((Nat.toDigits 10 mantissa.natAbs).rdropWhile (· == '0')).isEmpty = true
  · simp only [if_pos none, String.toList_append, sign]
    rfl
  simp only [if_neg none]
  generalize ((Nat.toDigits 10 mantissa.natAbs).length : Int) + exponent = point
  by_cases positional : (decide (-4 < point) && decide (point ≤ 16)) = true
  · simp only [if_pos positional]
    by_cases small : point ≤ 0
    · simp only [if_pos small, String.toList_append, sign, String.toList_ofList]
      simp
    · simp only [if_neg small, String.toList_append, sign, String.toList_ofList]
      simp
  · simp only [if_neg positional, String.toList_append, sign, String.toList_ofList,
      apply_ite String.toList, digits]
    have padding (short : Prop) [Decidable short] :
        List.replicate (if short then 1 else 0) '0' = if short then ['0'] else [] := by
      split <;> rfl
    by_cases negative : point - 1 < 0
    · simp [negative, powerDigits, padding]
    · simp [negative, powerDigits, padding]

theorem toDigits_eq {n : Nat} (large : 10 ≤ n) :
    Nat.toDigits 10 n = Nat.toDigits 10 (n / 10) ++ [Nat.digitChar (n % 10)] :=
  Nat.toDigits_of_base_le (by decide) large

theorem digitChar_eq_zero : ∀ digit < 10, Nat.digitChar digit = '0' → digit = 0 := by decide

/-- A number that does not end in a zero has no zeros to drop. -/
theorem rdropWhile_toDigits {n : Nat} (last : n % 10 ≠ 0) :
    (Nat.toDigits 10 n).rdropWhile (· == '0') = Nat.toDigits 10 n := by
  have other : ¬(Nat.digitChar (n % 10) == '0') = true := by
    intro zero
    exact last (digitChar_eq_zero _ (Nat.mod_lt n (by omega)) (beq_iff_eq.mp zero))
  rcases Nat.lt_or_ge n 10 with small | large
  · have digits : Nat.toDigits 10 n = [] ++ [Nat.digitChar (n % 10)] := by
      rw [Nat.toDigits_of_lt_base small, Nat.mod_eq_of_lt small]
      rfl
    rw [digits, List.rdropWhile_concat_neg (· == '0') _ _ other]
  · rw [toDigits_eq large, List.rdropWhile_concat_neg (· == '0') _ _ other]

/-- The zeros that are dropped can be put back. -/
theorem rdropWhile_append_replicate (digits : List Char) :
    digits.rdropWhile (· == '0') ++
      List.replicate (digits.length - (digits.rdropWhile (· == '0')).length) '0' = digits := by
  have parts : digits.rdropWhile (· == '0') ++ (digits.reverse.takeWhile (· == '0')).reverse =
      digits := by
    have split := congrArg List.reverse
      (List.takeWhile_append_dropWhile (p := (· == '0')) (l := digits.reverse))
    rwa [List.reverse_append, List.reverse_reverse] at split
  have zeros : (digits.reverse.takeWhile (· == '0')).reverse =
      List.replicate (digits.length - (digits.rdropWhile (· == '0')).length) '0' := by
    rw [List.eq_replicate_iff]
    constructor
    · have length := congrArg List.length parts
      rw [List.length_append] at length
      omega
    · intro c member
      rw [List.mem_reverse] at member
      exact beq_iff_eq.mp (List.mem_takeWhile_imp (p := (· == '0')) member)
  rw [← zeros, parts]

theorem decimalBody_of_zero {n : Nat} (last : n % 10 = 0) (positive : 0 < n)
    (short : ((Nat.toDigits 10 n).length : Int) + -1 ≤ 16) :
    decimalBody (Nat.toDigits 10 n) (-1) = Nat.toDigits 10 (n / 10) ++ ['.', '0'] := by
  have digits : Nat.toDigits 10 n = Nat.toDigits 10 (n / 10) ++ ['0'] := by
    rw [toDigits_eq (by omega), last]
    rfl
  have dropped : (Nat.toDigits 10 n).rdropWhile (· == '0') =
      (Nat.toDigits 10 (n / 10)).rdropWhile (· == '0') := by
    rw [digits, List.rdropWhile_concat_pos _ _ _ (by decide)]
  have some : (Nat.toDigits 10 (n / 10)).rdropWhile (· == '0') ≠ [] := by
    intro none
    cases higher : Nat.toDigits 10 (n / 10) with
    | nil => exact Nat.toDigits_ne_nil higher
    | cons first others =>
        have zeros := List.rdropWhile_eq_nil_iff.mp none first (higher ▸ List.mem_cons_self)
        exact Numeral.head_toDigits (by omega) higher (beq_iff_eq.mp zeros)
  have restored := rdropWhile_append_replicate (Nat.toDigits 10 (n / 10))
  have shorter := (List.rdropWhile_prefix (p := (· == '0')) (Nat.toDigits 10 (n / 10))).length_le
  have nonempty := List.length_pos_iff.mpr some
  have length : ((Nat.toDigits 10 n).length : Int) + -1 = (Nat.toDigits 10 (n / 10)).length := by
    rw [digits, List.length_append, List.length_singleton]
    omega
  rw [length] at short
  unfold decimalBody
  simp only [dropped, length]
  rw [if_neg (by simpa using some), if_pos (by simp; omega), if_neg (by omega), Int.toNat_natCast,
    List.take_of_length_le shorter, List.drop_eq_nil_of_le shorter, restored]
  rfl

theorem zeros_isDigit (count : Nat) {digits : List Char}
    (all : ∀ c ∈ digits, c.isDigit = true) :
    ∀ c ∈ List.replicate count '0' ++ digits, c.isDigit = true := by
  intro c member
  rcases List.mem_append.mp member with zero | digit
  · rw [List.eq_of_mem_replicate zero]
    decide
  · exact all c digit

theorem wholePart_of_ne {first : Char} (nonzero : first ≠ '0') (others : List Char) :
    wholePart (first :: others) = true := by
  cases others with
  | nil => simp [wholePart, nonzero]
  | cons second others => simp [wholePart, nonzero]

/-- A decimal fraction that does not end in a zero is read digit by digit. -/
theorem readMagnitude_decimalBody_of_ne {n : Nat} {exponent : Int} (last : n % 10 ≠ 0)
    (fractional : exponent < 0 ∨ 16 < (Nat.toDigits 10 n).length + exponent)
    (stops : Stops rest) :
    readMagnitude (decimalBody (Nat.toDigits 10 n) exponent ++ rest) =
      some ((n, some exponent), rest) := by
  have isDigit {n : Nat} : ∀ c ∈ Nat.toDigits 10 n, c.isDigit = true :=
    fun _ => Numeral.isDigit_of_mem
  have value := Numeral.digitsValue_toDigits n
  have nonzero {first : Char} {others : List Char} (begins : Nat.toDigits 10 n = first :: others) :
      first ≠ '0' := Numeral.head_toDigits (by omega) begins
  have digitsDigit := isDigit (n := n)
  have dropped := rdropWhile_toDigits last
  unfold decimalBody
  generalize Nat.toDigits 10 n = digits at *
  cases digits with
  | nil => simp [digitsValue] at value; omega
  | cons first others =>
      have nonzero := nonzero rfl
      simp only [dropped, List.isEmpty_cons, Bool.false_eq_true, if_false]
      by_cases positional : (decide (-4 < ((first :: others).length : Int) + exponent) &&
          decide (((first :: others).length : Int) + exponent ≤ 16)) = true
      · rw [if_pos positional]
        simp only [Bool.and_eq_true, decide_eq_true_eq] at positional
        have negative : exponent < 0 := by omega
        by_cases small : ((first :: others).length : Int) + exponent ≤ 0
        · rw [if_pos small]
          have read := readMagnitude_point ['0'] _ rfl zero_isDigit (by simp)
            (zeros_isDigit (-(((first :: others).length : Int) + exponent)).toNat digitsDigit) stops
          have padded := digitsValue_replicate
            ((-(((first :: others).length : Int) + exponent)).toNat + 1) (first :: others)
          rw [List.replicate_succ, List.cons_append, value] at padded
          rw [List.singleton_append, List.singleton_append, padded] at read
          rw [List.cons_append, List.cons_append, read, List.length_append, List.length_replicate]
          simp only [List.length_cons] at small ⊢
          congr 4
          omega
        · rw [if_neg small]
          have exists_point : ∃ point : Nat,
              ((first :: others).length : Int) + exponent = point + 1 :=
            ⟨(((first :: others).length : Int) + exponent - 1).toNat, by omega⟩
          rcases exists_point with ⟨point, whole⟩
          have within : point + 1 < (first :: others).length := by omega
          have some : (first :: others).drop (point + 1) ≠ [] := by simpa using within
          have read := readMagnitude_point ((first :: others).take (point + 1))
            ((first :: others).drop (point + 1)) (wholePart_of_ne nonzero _)
            (fun c member => digitsDigit c (List.mem_of_mem_take member)) some
            (fun c member => digitsDigit c (List.mem_of_mem_drop member)) stops
          rw [List.take_append_drop, value] at read
          have toNat : ((point : Int) + 1).toNat = point + 1 := by omega
          have noPadding : point + 1 - (first :: others).length = 0 := by omega
          rw [whole, toNat, noPadding, List.replicate_zero, List.append_nil,
            if_neg (by simpa using some), List.append_assoc, List.cons_append, read,
            List.length_drop]
          congr 4
          omega
      · rw [if_neg positional]
        have length : ((first :: others).length : Int) = others.length + 1 := by simp
        rw [length]
        have power : others.length + 1 + exponent - 1 = others.length + exponent := by omega
        rw [power]
        have read := readMagnitude_power others (powerDigits (others.length + exponent).natAbs)
          (decide (others.length + exponent < 0)) (wholePart_of_ne nonzero [])
          (digitsDigit first (by simp)) (fun c member => digitsDigit c (by simp [member]))
          (by simp [powerDigits, Nat.toDigits_ne_nil]) (zeros_isDigit _ isDigit) stops
        have powerValue : digitsValue (powerDigits (others.length + exponent).natAbs) =
            (others.length + exponent).natAbs := by
          rw [powerDigits, digitsValue_replicate, Numeral.digitsValue_toDigits]
        rw [value, powerValue] at read
        simp only [decide_eq_true_eq] at read
        simp only [List.take_succ_cons, List.take_zero, List.drop_succ_cons, List.drop_zero,
          List.cons_append, List.nil_append, List.append_assoc]
        rw [read]
        congr 4
        split <;> omega

theorem readMagnitude_decimalBody {n : Nat} {exponent : Int} (normal : IsNormal n exponent)
    (stops : Stops rest) :
    readMagnitude (decimalBody (Nat.toDigits 10 n) exponent ++ rest) =
      some ((n, some exponent), rest) := by
  unfold IsNormal at normal
  by_cases last : n % 10 = 0
  · simp only [if_pos last] at normal
    rcases normal with ⟨rfl, short⟩
    rcases Nat.eq_zero_or_pos n with rfl | positive
    · exact readMagnitude_point ['0'] ['0'] rfl zero_isDigit (by decide) zero_isDigit stops
    · have digits : Nat.toDigits 10 (n / 10) ++ ['0'] = Nat.toDigits 10 n := by
        rw [toDigits_eq (n := n) (by omega), last]
        rfl
      have read := readMagnitude_point (Nat.toDigits 10 (n / 10)) ['0'] (wholePart_toDigits _)
        (fun _ => Numeral.isDigit_of_mem) (by decide) zero_isDigit stops
      rw [digits, Numeral.digitsValue_toDigits] at read
      rw [decimalBody_of_zero last positive short, List.append_assoc]
      exact read
  · simp only [if_neg last] at normal
    exact readMagnitude_decimalBody_of_ne last normal stops

theorem decimalBody_begins {digits : List Char} (all : ∀ c ∈ digits, c.isDigit = true)
    (exponent : Int) :
    ∃ c ∈ Numeral.digits, ∃ others, decimalBody digits exponent = c :: others := by
  unfold decimalBody
  have subset := (List.rdropWhile_prefix (p := (· == '0')) digits).subset
  generalize digits.rdropWhile (· == '0') = significant at subset
  cases significant with
  | nil => exact ⟨'0', by decide, _, rfl⟩
  | cons first others =>
      have digit := Numeral.mem_digits (all first (subset (by simp)))
      simp only [List.isEmpty_cons, Bool.false_eq_true, if_false]
      split
      · split
        · exact ⟨'0', by decide, _, rfl⟩
        · next large =>
          have exists_point : ∃ point, ((digits.length : Int) + exponent).toNat = point + 1 :=
            ⟨((digits.length : Int) + exponent).toNat - 1, by omega⟩
          rcases exists_point with ⟨point, within⟩
          rw [within]
          exact ⟨first, digit, _, rfl⟩
      · exact ⟨first, digit, _, rfl⟩

theorem readNumber_decimalShown {mantissa exponent : Int}
    (normal : IsNormal mantissa.natAbs exponent) (stops : Stops rest) :
    readNumber ((decimalShown mantissa exponent).toList ++ rest) =
      some (.decimal mantissa exponent, rest) := by
  rw [toList_decimalShown]
  exact readNumber_signed mantissa (decimalBody_begins (fun _ => Numeral.isDigit_of_mem) exponent)
    (readMagnitude_decimalBody normal stops)

end Lalr.Data
