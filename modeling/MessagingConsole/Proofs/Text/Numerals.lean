import Mathlib.Algebra.Group.Nat.Defs
import Mathlib.Data.List.Forall2
import MessagingConsole.Proofs.Text.Digits

/-!
# Numerals of a fixed width

Zeros in front of a numeral do not change the number that it writes, and numerals of one width
are in order as their numbers are.  So are texts in which such numerals stand in columns.

## Main Definitions

- `columns` - numerals in columns, with marks between them.

## Main Results

- `ofDigitChars_zeroPadded` - a numeral with zeros in front writes the same number.
- `columns_lt` - columns are in order as their numbers are, the first of them first.
-/

namespace MessagingConsole.Text

variable {width n n' : Nat}

theorem toList_zeroPadded (width n : Nat) :
    (zeroPadded width n).toList =
      List.replicate (width - (Nat.toDigits 10 n).length) '0' ++ Nat.toDigits 10 n :=
  String.toList_ofList

theorem isDigit_of_mem_zeroPadded {c : Char} (mem : c ∈ (zeroPadded width n).toList) :
    c.isDigit := by
  rw [toList_zeroPadded] at mem
  exact isDigit_of_mem_padded mem

theorem zeroPadded_ne_nil (width n : Nat) : (zeroPadded width n).toList ≠ [] := by
  rw [toList_zeroPadded]
  exact padded_ne_nil _ n

/-- A numeral of a fixed width writes its number. -/
theorem ofDigitChars_zeroPadded (width n : Nat) :
    Nat.ofDigitChars 10 (zeroPadded width n).toList 0 = n := by
  rw [toList_zeroPadded, ofDigitChars_padded]

/-- A number is determined by its numeral. -/
theorem decimal_injective : Function.Injective decimal := by
  intro n n' same
  have digits : Nat.toDigits 10 n = Nat.toDigits 10 n' := String.ofList_injective same
  rw [← Nat.ofDigitChars_toDigits (b := 10) (n := n) (by decide) (by decide), digits,
    Nat.ofDigitChars_toDigits (by decide) (by decide)]

/-! ## Widths -/

/-- A number has a numeral of a width. -/
structure Fits (width n : Nat) : Prop where
  width_pos : 0 < width
  lt : n < 10 ^ width

theorem Fits.length_zeroPadded (fits : Fits width n) :
    (zeroPadded width n).toList.length = width := by
  have short := (Nat.length_toDigits_le_iff (by decide) fits.width_pos).mpr fits.lt
  rw [toList_zeroPadded, List.length_append, List.length_replicate, Nat.sub_add_cancel short]

/-! ## Order -/

section Order

variable {digits digits' : List Char}

theorem ofDigitChars_cons_eq (c : Char) (digits : List Char) :
    Nat.ofDigitChars 10 (c :: digits) 0 =
      10 ^ digits.length * (c.toNat - '0'.toNat) + Nat.ofDigitChars 10 digits 0 := by
  rw [Nat.ofDigitChars_cons, Nat.mul_zero, Nat.zero_add, Nat.ofDigitChars_eq_ofDigitChars_zero]

theorem ofDigitChars_lt (all : ∀ c ∈ digits, c.isDigit) :
    Nat.ofDigitChars 10 digits 0 < 10 ^ digits.length := by
  induction digits with
  | nil => decide
  | cons c digits ih =>
    obtain ⟨first, all⟩ := List.forall_mem_cons.mp all
    have digit : c.toNat - '0'.toNat + 1 ≤ 10 := by
      have range := Char.isDigit_iff_toNat.mp first
      have nine : '9'.toNat = '0'.toNat + 9 := rfl
      omega
    calc Nat.ofDigitChars 10 (c :: digits) 0
        < 10 ^ digits.length * (c.toNat - '0'.toNat) + 10 ^ digits.length := by
          rw [ofDigitChars_cons_eq]
          exact Nat.add_lt_add_left (ih all) _
      _ = 10 ^ digits.length * (c.toNat - '0'.toNat + 1) := (Nat.mul_succ _ _).symm
      _ ≤ 10 ^ digits.length * 10 := Nat.mul_le_mul_left _ digit

/-- Digits are in order as the numbers are that they write, whatever comes behind them. -/
theorem digits_append_lt (all : ∀ c ∈ digits, c.isDigit) (all' : ∀ c ∈ digits', c.isDigit)
    (same : digits.length = digits'.length)
    (lt : Nat.ofDigitChars 10 digits 0 < Nat.ofDigitChars 10 digits' 0) (rest rest' : List Char) :
    digits ++ rest < digits' ++ rest' := by
  induction digits generalizing digits' with
  | nil =>
    rw [List.length_nil] at same
    rw [List.eq_nil_of_length_eq_zero same.symm] at lt
    exact absurd lt (Nat.lt_irrefl _)
  | cons c digits ih =>
    obtain ⟨c', digits', rfl⟩ := List.exists_cons_of_length_eq_add_one same.symm
    obtain ⟨first, others⟩ := List.forall_mem_cons.mp all
    obtain ⟨first', others'⟩ := List.forall_mem_cons.mp all'
    have length : digits.length = digits'.length := Nat.succ.inj same
    have bound := ofDigitChars_lt others'
    have range := Char.isDigit_iff_toNat.mp first
    have range' := Char.isDigit_iff_toNat.mp first'
    rw [ofDigitChars_cons_eq, ofDigitChars_cons_eq, length] at lt
    refine List.cons_lt_cons_iff.mpr ?_
    rcases Nat.lt_trichotomy c.toNat c'.toNat with less | equal | greater
    · exact .inl less
    · obtain rfl := Char.toNat_inj.mp equal
      exact .inr ⟨rfl, ih others others' length (Nat.lt_of_add_lt_add_left lt)⟩
    · -- the first digits alone make the difference
      have step : c'.toNat - '0'.toNat + 1 ≤ c.toNat - '0'.toNat := by omega
      have more := Nat.mul_le_mul_left (10 ^ digits'.length) step
      rw [Nat.mul_succ] at more
      omega

theorem zeroPadded_append_lt (fits : Fits width n) (fits' : Fits width n') (lt : n < n')
    (rest rest' : List Char) :
    (zeroPadded width n).toList ++ rest < (zeroPadded width n').toList ++ rest' := by
  refine digits_append_lt (fun c => isDigit_of_mem_zeroPadded)
    (fun c => isDigit_of_mem_zeroPadded) ?_ ?_ rest rest'
  · rw [fits.length_zeroPadded, fits'.length_zeroPadded]
  · rwa [ofDigitChars_zeroPadded, ofDigitChars_zeroPadded]

/-! ## Columns -/

/-- Numerals in columns, which have a width and a mark behind them. -/
def columns : (shape : List (Nat × List Char)) → (numbers : List Nat) → List Char
  | (width, mark) :: shape, n :: numbers =>
    (zeroPadded width n).toList ++ (mark ++ columns shape numbers)
  | _, _ => []

/-- **Columns are in order as their numbers are**, the first of them first. -/
theorem columns_lt {shape : List (Nat × List Char)} {numbers numbers' : List Nat}
    (fits : List.Forall₂ (fun column n => Fits column.1 n) shape numbers)
    (fits' : List.Forall₂ (fun column n => Fits column.1 n) shape numbers')
    (lt : numbers < numbers') : columns shape numbers < columns shape numbers' := by
  induction fits generalizing numbers' with
  | nil =>
    cases fits'
    exact absurd lt (List.not_lt_nil _)
  | cons fit _ ih =>
    obtain _ | ⟨fit', fits'⟩ := fits'
    rcases List.cons_lt_cons_iff.mp lt with less | ⟨rfl, later⟩
    · exact zeroPadded_append_lt fit fit' less _ _
    · exact List.append_left_lt (List.append_left_lt (ih fits' later))

end Order

end MessagingConsole.Text
