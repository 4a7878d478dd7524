import MessagingConsole.Text.Numeral

/-!
# Digits that are read back

The numeral of a number is read as this number, in every base up to sixteen, and a decimal
numeral is not taken for one in another base, since only that of zero begins with a zero.

## Main Results

- `forall_mem_toDigits` - what holds of all digits of a base holds of all characters of numerals.
- `readDigits?_toDigits` - a numeral is read back in its base.
- `readNumeral?_toDigits` - a decimal numeral is read back as one.
- `ofDigitChars_padded` - zeros in front of a decimal numeral do not count.
-/

namespace MessagingConsole.Text

variable {base n : Nat}

theorem forall_mem_toDigits {P : Char → Prop} (base_gt : 1 < base)
    (digit : ∀ d < base, P (Nat.digitChar d)) (n : Nat) : ∀ c ∈ Nat.toDigits base n, P c := by
  induction n using Nat.strongRecOn with
  | ind n ih =>
    rcases Nat.lt_or_ge n base with small | large
    · rw [Nat.toDigits_of_lt_base small]
      exact List.forall_mem_singleton.mpr (digit n small)
    · rw [Nat.toDigits_of_base_le base_gt large, List.forall_mem_append]
      refine ⟨ih (n / base) (Nat.div_lt_self (by omega) base_gt), ?_⟩
      exact List.forall_mem_singleton.mpr (digit _ (Nat.mod_lt n (by omega)))

/-- A decimal numeral begins with a zero only if it is that of zero. -/
theorem head_toDigits (pos : 0 < n) : ∃ c rest, Nat.toDigits 10 n = c :: rest ∧ c ≠ '0' := by
  induction n using Nat.strongRecOn with
  | ind n ih =>
    rcases Nat.lt_or_ge n 10 with small | large
    · have other : ∀ d < 10, 0 < d → Nat.digitChar d ≠ '0' := by decide
      exact ⟨_, [], Nat.toDigits_of_lt_base small, other n small pos⟩
    · obtain ⟨c, rest, front, other⟩ := ih (n / 10) (by omega) (by omega)
      refine ⟨c, rest ++ [Nat.digitChar (n % 10)], ?_, other⟩
      rw [Nat.toDigits_of_base_le (by decide) large, front, List.cons_append]

/-! ## Zeros in front -/

theorem isDigit_of_mem_padded {zeros : Nat} {c : Char}
    (mem : c ∈ List.replicate zeros '0' ++ Nat.toDigits 10 n) : c.isDigit := by
  rcases List.mem_append.mp mem with padding | digit
  · rw [List.eq_of_mem_replicate padding]
    rfl
  · exact Nat.isDigit_of_mem_toDigits (by decide) (by decide) digit

theorem padded_ne_nil (zeros n : Nat) : List.replicate zeros '0' ++ Nat.toDigits 10 n ≠ [] :=
  List.append_ne_nil_of_right_ne_nil _ Nat.toDigits_ne_nil

/-- Zeros in front of a numeral do not count. -/
theorem ofDigitChars_padded (zeros n : Nat) :
    Nat.ofDigitChars 10 (List.replicate zeros '0' ++ Nat.toDigits 10 n) 0 = n := by
  rw [Nat.ofDigitChars_append, Nat.ofDigitChars_replicate_zero, Nat.mul_zero,
    Nat.ofDigitChars_toDigits (by decide) (by decide)]

/-! ## Reading -/

theorem digit?_digitChar : ∀ d < 16, digit? (Nat.digitChar d) = some d := by
  decide

theorem readDigitsAfter?_append (n : Nat) (front rest : List Char) :
    readDigitsAfter? base n (front ++ rest) =
      (readDigitsAfter? base n front).bind (readDigitsAfter? base · rest) := by
  induction front generalizing n with
  | nil => rfl
  | cons c front ih =>
    rw [List.cons_append, readDigitsAfter?, readDigitsAfter?]
    cases digit? c with
    | none => rfl
    | some d =>
      dsimp only
      split
      · exact ih _
      · rfl

theorem readDigitsAfter?_digitChar {d : Nat} (small : d < base) (base_le : base ≤ 16) (n : Nat) :
    readDigitsAfter? base n [Nat.digitChar d] = some (base * n + d) := by
  rw [readDigitsAfter?, digit?_digitChar d (by omega)]
  exact if_pos small

/-- **A numeral is read back in its base.** -/
theorem readDigits?_toDigits (base_gt : 1 < base) (base_le : base ≤ 16) (n : Nat) :
    readDigits? base (Nat.toDigits base n) = some n := by
  have digits : readDigitsAfter? base 0 (Nat.toDigits base n) = some n := by
    induction n using Nat.strongRecOn with
    | ind n ih =>
      rcases Nat.lt_or_ge n base with small | large
      · rw [Nat.toDigits_of_lt_base small, readDigitsAfter?_digitChar small base_le, Nat.mul_zero,
          Nat.zero_add]
      · have last : n % base < base := Nat.mod_lt n (by omega)
        rw [Nat.toDigits_of_base_le base_gt large, readDigitsAfter?_append,
          ih (n / base) (Nat.div_lt_self (by omega) base_gt), Option.bind_some,
          readDigitsAfter?_digitChar last base_le, Nat.div_add_mod]
  have some_digit : (Nat.toDigits base n).isEmpty = false :=
    List.isEmpty_eq_false_iff.mpr Nat.toDigits_ne_nil
  rw [readDigits?, some_digit]
  exact digits

/-- A decimal numeral is read back, not as one in another base. -/
theorem readNumeral?_toDigits (n : Nat) : readNumeral? (Nat.toDigits 10 n) = some n := by
  rcases Nat.eq_zero_or_pos n with rfl | pos
  · rfl
  · obtain ⟨c, rest, digits, other⟩ := head_toDigits pos
    have read : readDigits? 10 (Nat.toDigits 10 n) = some n :=
      readDigits?_toDigits (by decide) (by decide) n
    rw [digits] at read ⊢
    unfold readNumeral?
    split
    next same => exact absurd (List.cons.inj same).1 other
    next same => exact absurd (List.cons.inj same).1 other
    next same => exact absurd (List.cons.inj same).1 other
    next => exact read

/-! ## What is no digit -/

theorem readDigitsAfter?_of_mem {digits : List Char} {c : Char} (mem : c ∈ digits)
    (other : digit? c = none) (n : Nat) : readDigitsAfter? base n digits = none := by
  induction digits generalizing n with
  | nil => cases mem
  | cons d digits ih =>
    rw [readDigitsAfter?]
    rcases List.mem_cons.mp mem with rfl | mem
    · rw [other]
    · split
      · split
        · exact ih mem _
        · rfl
      · rfl

theorem readDigits?_of_mem {digits : List Char} {c : Char} (mem : c ∈ digits)
    (other : digit? c = none) : readDigits? base digits = none := by
  rw [readDigits?]
  split
  · rfl
  · exact readDigitsAfter?_of_mem mem other 0

/-- A text with a character that is neither a digit nor the mark of a base is no numeral. -/
theorem readNumeral?_of_mem {text : List Char} {c : Char} (mem : c ∈ text)
    (other : digit? c = none) (unmarked : c ∉ ['x', 'X']) : readNumeral? text = none := by
  have zero : c ≠ '0' := by
    rintro rfl
    cases other
  obtain ⟨lower, upper⟩ : c ≠ 'x' ∧ c ≠ 'X' := by simpa using unmarked
  unfold readNumeral?
  split
  next => exact readDigits?_of_mem (by simpa [zero, lower] using mem) other
  next => exact readDigits?_of_mem (by simpa [zero, upper] using mem) other
  next => exact readDigits?_of_mem mem other
  next => exact readDigits?_of_mem mem other

end MessagingConsole.Text
