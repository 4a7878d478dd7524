import MessagingConsole.Network.Endpoint
import MessagingConsole.Proofs.Text.Digits

/-!
# Ports as numerals

A port is read digit by digit in 16 bits, and reading stops where a product or a sum does not
fit.  Nothing is lost by that: numbers only grow with more digits, so a number that fits at the
end has fitted all along.  What is read is the number that the digits write, however many zeros
they begin with, and no number that is too large is taken for another one.

## Main Definitions

- `IsNumeral` - a text is decimal digits, with a `+` in front or not.

## Main Results

- `portAfter?_eq_some_iff` - digits are read as the number that they write, if that fits.
- `readPort_eq_ok_iff_isNumeral` - which texts are read as which ports.
- `ports_of_numerals` - all of this, and what is refused.
-/

namespace MessagingConsole

/-- A text is one decimal digit or more, with a `+` in front or not. -/
structure IsNumeral (text : String) (digits : List Char) : Prop where
  cut : text.toList = digits ∨ text.toList = '+' :: digits
  ne_nil : digits ≠ []
  isDigit : ∀ c ∈ digits, c.isDigit

variable {argument : String} {digits : List Char} {fault : ArgumentFault} {n port : UInt16}

/-! ## Arithmetic in 16 bits -/

section Arithmetic

variable {a b result : UInt16}

theorem product?_eq_some_iff : product? a b = some result ↔ result.toNat = a.toNat * b.toNat := by
  rw [product?, Option.ite_none_right_eq_some, Option.some_inj, ← UInt16.toNat_inj,
    UInt16.toNat_mul]
  have bound := result.toNat_lt
  simp only [UInt16.size]
  omega

theorem sum?_eq_some_iff : sum? a b = some result ↔ result.toNat = a.toNat + b.toNat := by
  rw [sum?, Option.ite_none_right_eq_some, Option.some_inj, ← UInt16.toNat_inj, UInt16.toNat_add]
  have bound := result.toNat_lt
  simp only [UInt16.size]
  omega

end Arithmetic

/-! ## Digits -/

/-- More digits never make a number smaller. -/
theorem le_ofDigitChars (digits : List Char) (n : Nat) : n ≤ Nat.ofDigitChars 10 digits n := by
  induction digits generalizing n with
  | nil => exact Nat.le_refl n
  | cons c rest ih =>
    rw [Nat.ofDigitChars_cons]
    exact Nat.le_trans (by omega) (ih _)

theorem toNat_digit {c : Char} (digit : c.isDigit) :
    (UInt16.ofNat (c.toNat - '0'.toNat)).toNat = c.toNat - '0'.toNat := by
  have range := Char.isDigit_iff_toNat.mp digit
  have nine : '9'.toNat = 57 := rfl
  exact UInt16.toNat_ofNat_of_lt' (by simp only [UInt16.size]; omega)

/-- One more digit is read if the number with it fits. -/
theorem portAfter?_cons_eq_some_iff {c : Char} : portAfter? n (c :: digits) = some port ↔
    c.isDigit ∧ ∃ next : UInt16, next.toNat = 10 * n.toNat + (c.toNat - '0'.toNat) ∧
      portAfter? next digits = some port := by
  rw [portAfter?, Option.ite_none_right_eq_some]
  refine and_congr_right fun digit => ?_
  simp only [Option.bind_eq_bind, Option.bind_eq_some_iff, product?_eq_some_iff,
    sum?_eq_some_iff, toNat_digit digit, UInt16.toNat_ofNat]
  constructor
  · rintro ⟨tens, product, next, sum, read⟩
    exact ⟨next, by omega, read⟩
  · rintro ⟨next, sum, read⟩
    have bound := next.toNat_lt
    have tens : (UInt16.ofNat (n.toNat * 10)).toNat = n.toNat * 10 :=
      UInt16.toNat_ofNat_of_lt' (by simp only [UInt16.size]; omega)
    exact ⟨_, tens, next, by omega, read⟩

/-- **Digits are read as the number that they write**, exactly if 16 bits hold it. -/
theorem portAfter?_eq_some_iff : portAfter? n digits = some port ↔
    (∀ c ∈ digits, c.isDigit) ∧ port.toNat = Nat.ofDigitChars 10 digits n.toNat := by
  induction digits generalizing n with
  | nil =>
    rw [portAfter?, Option.some_inj, Nat.ofDigitChars_nil, UInt16.toNat_inj, eq_comm]
    exact ⟨fun same => ⟨fun _ mem => absurd mem List.not_mem_nil, same⟩, And.right⟩
  | cons c rest ih =>
    rw [portAfter?_cons_eq_some_iff, List.forall_mem_cons, Nat.ofDigitChars_cons, and_assoc]
    refine and_congr_right fun _ => ?_
    constructor
    · rintro ⟨next, sum, read⟩
      rw [← sum]
      exact ih.mp read
    · rintro ⟨all, value⟩
      -- the number so far is at most the last one, which fits
      have least := le_ofDigitChars rest (10 * n.toNat + (c.toNat - '0'.toNat))
      have bound := port.toNat_lt
      have next : (UInt16.ofNat (10 * n.toNat + (c.toNat - '0'.toNat))).toNat =
          10 * n.toNat + (c.toNat - '0'.toNat) :=
        UInt16.toNat_ofNat_of_lt' (by simp only [UInt16.size]; omega)
      exact ⟨_, next, ih.mpr ⟨all, by rw [next]; exact value⟩⟩

/-! ## Numerals -/

theorem IsNumeral.unique {digits' : List Char} (numeral : IsNumeral argument digits)
    (numeral' : IsNumeral argument digits') : digits = digits' := by
  have sign {signed unsigned : List Char} (all : ∀ c ∈ unsigned, c.isDigit)
      (same : unsigned = '+' :: signed) : False := by
    rw [same] at all
    exact absurd (all '+' List.mem_cons_self) (by decide)
  rcases numeral.cut with plain | signed <;> rcases numeral'.cut with plain' | signed'
  · exact plain.symm.trans plain'
  · exact (sign numeral.isDigit (plain.symm.trans signed')).elim
  · exact (sign numeral'.isDigit (plain'.symm.trans signed)).elim
  · exact (List.cons.inj (signed.symm.trans signed')).2

/-- A numeral is read as the number that its digits write. -/
theorem portNumeral?_eq_some_iff : portNumeral? argument.toList = some port ↔
    ∃ digits, IsNumeral argument digits ∧ port.toNat = Nat.ofDigitChars 10 digits 0 := by
  have read (digits : List Char) :
      (if digits.isEmpty then none else portAfter? 0 digits) = some port ↔
        digits ≠ [] ∧ (∀ c ∈ digits, c.isDigit) ∧ port.toNat = Nat.ofDigitChars 10 digits 0 := by
    rw [Option.ite_none_left_eq_some, portAfter?_eq_some_iff, List.isEmpty_iff, UInt16.toNat_zero]
  unfold portNumeral?
  constructor
  · intro reads
    split at reads
    next rest signed =>
      obtain ⟨ne_nil, all, value⟩ := (read rest).mp reads
      exact ⟨rest, ⟨.inr signed, ne_nil, all⟩, value⟩
    next =>
      obtain ⟨ne_nil, all, value⟩ := (read _).mp reads
      exact ⟨_, ⟨.inl rfl, ne_nil, all⟩, value⟩
  · rintro ⟨digits, numeral, value⟩
    have reads := (read digits).mpr ⟨numeral.ne_nil, numeral.isDigit, value⟩
    rcases numeral.cut with plain | signed
    · rw [plain]
      split
      next rest =>
        exact absurd (numeral.isDigit '+' List.mem_cons_self) (by decide)
      next => exact reads
    · rw [signed]
      exact reads

/-! ## Ports -/

theorem readPort_eq_ok_iff :
    readPort argument = .ok port ↔ portNumeral? argument.toList = some port ∧ port ≠ 0 := by
  unfold readPort
  split
  next unread => simp [unread]
  next zero =>
    refine ⟨nofun, fun ⟨read, nonzero⟩ => ?_⟩
    exact absurd (Option.some.inj (read.symm.trans zero)) nonzero
  next number nonzero read =>
    rw [read, Except.ok.injEq, Option.some_inj]
    exact ⟨fun same => ⟨same, fun zero => nonzero (same.trans zero)⟩, And.left⟩

theorem readPort_eq_error_iff : readPort argument = .error fault ↔
    fault = .invalidPort argument ∧ ∀ port, readPort argument ≠ .ok port := by
  have outcome : (∃ port, readPort argument = .ok port) ∨
      readPort argument = .error (.invalidPort argument) := by
    unfold readPort
    split
    · exact .inr rfl
    · exact .inr rfl
    · exact .inl ⟨_, rfl⟩
  constructor
  · intro refused
    rcases outcome with ⟨port, read⟩ | refused'
    · rw [refused] at read
      cases read
    · obtain rfl := Except.error.inj (refused.symm.trans refused')
      exact ⟨rfl, fun port read => by rw [refused] at read; cases read⟩
  · rintro ⟨rfl, unread⟩
    exact outcome.resolve_left fun ⟨port, read⟩ => unread port read

/-- The numbers of the ports other than zero are those that are asked for. -/
theorem port_bounds (nonzero : port ≠ 0) : 1 ≤ port.toNat ∧ port.toNat ≤ 65535 := by
  have positive : port.toNat ≠ 0 := fun zero => nonzero (UInt16.toNat_inj.mp zero)
  have bound : port.toNat < 65536 := port.toNat_lt
  omega

/-- A port is read from the numerals of its number, which is not zero. -/
theorem readPort_eq_ok_iff_isNumeral : readPort argument = .ok port ↔
    ∃ digits, IsNumeral argument digits ∧ 1 ≤ Nat.ofDigitChars 10 digits 0 ∧
      Nat.ofDigitChars 10 digits 0 ≤ 65535 ∧ port.toNat = Nat.ofDigitChars 10 digits 0 := by
  rw [readPort_eq_ok_iff, portNumeral?_eq_some_iff]
  constructor
  · rintro ⟨⟨digits, numeral, value⟩, nonzero⟩
    obtain ⟨least, most⟩ := port_bounds nonzero
    rw [value] at least most
    exact ⟨digits, numeral, least, most, value⟩
  · rintro ⟨digits, numeral, least, -, value⟩
    refine ⟨⟨digits, numeral, value⟩, ?_⟩
    rintro rfl
    rw [← value] at least
    exact absurd least (by decide)

/-- A number that is too large is refused, whatever port it would be modulo 65536. -/
theorem readPort_of_large (numeral : IsNumeral argument digits)
    (large : 65536 ≤ Nat.ofDigitChars 10 digits 0) :
    readPort argument = .error (.invalidPort argument) := by
  refine readPort_eq_error_iff.mpr ⟨rfl, fun port read => ?_⟩
  obtain ⟨digits', numeral', -, most, -⟩ := readPort_eq_ok_iff_isNumeral.mp read
  rw [numeral.unique numeral'] at large
  omega

/-! ## Decimal numerals -/

/-- The decimal numeral of a number is one, whatever zeros stand in front of it. -/
theorem isNumeral_padded (zeros n : Nat) :
    IsNumeral (String.ofList (List.replicate zeros '0') ++ Text.decimal n)
      (List.replicate zeros '0' ++ Nat.toDigits 10 n) := by
  refine ⟨.inl ?_, Text.padded_ne_nil zeros n, fun c mem => Text.isDigit_of_mem_padded mem⟩
  rw [String.toList_append, Text.decimal, String.toList_ofList, String.toList_ofList]

/-- A port is read from its decimal numeral, whatever zeros stand in front of it. -/
theorem readPort_padded (reachable : port ≠ 0) (zeros : Nat) :
    readPort (String.ofList (List.replicate zeros '0') ++ Text.decimal port.toNat) = .ok port := by
  obtain ⟨least, most⟩ := port_bounds reachable
  refine readPort_eq_ok_iff_isNumeral.mpr ⟨_, isNumeral_padded zeros port.toNat, ?_⟩
  rw [Text.ofDigitChars_padded]
  exact ⟨least, most, rfl⟩

/-- **Ports are read from decimal numerals.**  A text is read as a port exactly if it is one
decimal digit or more, with a `+` in front or not, that write the number of this port, from 1 to
65535; every other text is refused.  So no number that 16 bits cannot hold is read at all, and
each port is read from its decimal numeral with any number of zeros in front. -/
theorem ports_of_numerals :
    (∀ (argument : String) (port : UInt16), readPort argument = .ok port ↔
      ∃ digits, IsNumeral argument digits ∧ 1 ≤ Nat.ofDigitChars 10 digits 0 ∧
        Nat.ofDigitChars 10 digits 0 ≤ 65535 ∧ port.toNat = Nat.ofDigitChars 10 digits 0) ∧
    (∀ (argument : String) (fault : ArgumentFault), readPort argument = .error fault ↔
      fault = .invalidPort argument ∧
        ¬ ∃ digits, IsNumeral argument digits ∧ 1 ≤ Nat.ofDigitChars 10 digits 0 ∧
          Nat.ofDigitChars 10 digits 0 ≤ 65535) ∧
    (∀ (argument : String) (digits : List Char), IsNumeral argument digits →
      65536 ≤ Nat.ofDigitChars 10 digits 0 →
        readPort argument = .error (.invalidPort argument)) ∧
    ∀ (port : UInt16) (zeros : Nat), port ≠ 0 →
      readPort (String.ofList (List.replicate zeros '0') ++ Text.decimal port.toNat) =
        .ok port := by
  refine ⟨fun _ _ => readPort_eq_ok_iff_isNumeral, fun argument fault => ?_,
    fun _ _ => readPort_of_large, fun port zeros reachable => readPort_padded reachable zeros⟩
  rw [readPort_eq_error_iff]
  refine and_congr_right fun _ => ?_
  constructor
  · rintro unread ⟨digits, numeral, least, most⟩
    have value : (UInt16.ofNat (Nat.ofDigitChars 10 digits 0)).toNat =
        Nat.ofDigitChars 10 digits 0 :=
      UInt16.toNat_ofNat_of_lt' (Nat.lt_succ_of_le most)
    exact unread _ (readPort_eq_ok_iff_isNumeral.mpr ⟨digits, numeral, least, most, value⟩)
  · intro none port read
    obtain ⟨digits, numeral, least, most, -⟩ := readPort_eq_ok_iff_isNumeral.mp read
    exact none ⟨digits, numeral, least, most⟩

/-- The largest port behind a sign, a port behind more zeros than 16 bits have digits, a number
that is 80 modulo 65536, and a sign without digits. -/
theorem ports_of_numerals_bounds :
    readPort "+65535" = .ok 65535 ∧
      readPort (String.ofList (List.replicate 20 '0') ++ "6000") = .ok 6000 ∧
      readPort "65616" = .error (.invalidPort "65616") ∧
      readPort "+" = .error (.invalidPort "+") := by
  obtain ⟨accepts, refuses, large, padded⟩ := ports_of_numerals
  refine ⟨?_, padded 6000 20 (by decide), ?_, ?_⟩
  · have numeral : IsNumeral "+65535" "65535".toList :=
      ⟨by decide, by decide, List.all_eq_true.mp (by decide)⟩
    exact (accepts "+65535" 65535).mpr ⟨_, numeral, by decide⟩
  · have numeral : IsNumeral "65616" "65616".toList :=
      ⟨by decide, by decide, List.all_eq_true.mp (by decide)⟩
    exact large "65616" _ numeral (by decide)
  · refine (refuses "+" _).mpr ⟨rfl, ?_⟩
    rintro ⟨digits, ⟨plain | signed, ne_nil, all⟩, -⟩
    · rw [← plain] at all
      exact absurd (all '+' (by decide)) (by decide)
    · exact ne_nil (List.cons.inj signed).2.symm

end MessagingConsole
