import Mathlib.Data.String.Basic
import MessagingConsole.Proofs.Calendar.Gregorian
import MessagingConsole.Proofs.Text.Numerals

/-!
# Stamps

A stamp can be read: the date and the time of day that it shows say which second the local clock
had reached.  Stamps of years that have four digits are in order as the clock is.

A leap second is shown as one second more, without a carry into the minute.  So the order of
stamps is that of minutes and shown seconds, which is the order of seconds where there is no leap
second.

## Main Definitions

- `Calendar.readStamp?` - the second that a stamp denotes.
- `Instant.ShownBefore` - the order in which a local clock shows instants.

## Main Results

- `Instant.readStamp?_stamp` - a stamp denotes the second of its local clock.
- `Instant.stamp_lt_iff` - stamps are in order as local clocks are.
-/

namespace MessagingConsole

namespace Calendar

/-! ## Reading -/

/-- The number that a text begins with, and what follows it. -/
def readNumber? (text : List Char) : Option (Nat × List Char) :=
  let digits := text.takeWhile Char.isDigit
  if digits = [] then none
  else some (Nat.ofDigitChars 10 digits 0, text.dropWhile Char.isDigit)

/-- The number behind a mark that a text begins with. -/
def readBehind? (mark : Char) : List Char → Option (Nat × List Char)
  | c :: text => if c = mark then readNumber? text else none
  | [] => none

/-- The year that a text begins with, which may have a sign. -/
def readYear? : List Char → Option (Int × List Char)
  | '-' :: text => (readNumber? text).map fun (n, rest) => (-n, rest)
  | '+' :: text => (readNumber? text).map fun (n, rest) => (n, rest)
  | text => (readNumber? text).map fun (n, rest) => (n, rest)

/-- The seconds from 1970 on that a stamp denotes, if it is one of a date and a time of day. -/
def readStamp? (text : List Char) : Option Int := do
  let (year, text) ← readYear? text
  let (month, text) ← readBehind? '-' text
  let (day, text) ← readBehind? '-' text
  let (hour, text) ← readBehind? ' ' text
  let (minute, text) ← readBehind? ':' text
  let (second, text) ← readBehind? ':' text
  let date : Date := ⟨year, month, day⟩
  if text = [] ∧ date.Valid ∧ hour < 24 ∧ minute < 60 ∧ second < 60 then
    some (86400 * date.days + 3600 * hour + 60 * minute + second)
  else none

section Reading

variable {rest : List Char}

/-- A text that does not begin with a digit. -/
def NoDigit (text : List Char) : Prop := ∀ c ∈ text.head?, ¬ c.isDigit

theorem readNumber?_zeroPadded (width n : Nat) (ends : NoDigit rest) :
    readNumber? ((Text.zeroPadded width n).toList ++ rest) = some (n, rest) := by
  have all : ∀ c ∈ (Text.zeroPadded width n).toList, c.isDigit = true :=
    fun c => Text.isDigit_of_mem_zeroPadded
  have apart : rest.takeWhile Char.isDigit = [] ∧ rest.dropWhile Char.isDigit = rest := by
    cases rest with
    | nil => exact ⟨rfl, rfl⟩
    | cons c rest =>
      have other : ¬ c.isDigit := ends c rfl
      exact ⟨List.takeWhile_cons_of_neg other, List.dropWhile_cons_of_neg other⟩
  simp only [readNumber?, List.takeWhile_append_of_pos all, List.dropWhile_append_of_pos all, apart,
    List.append_nil, Text.ofDigitChars_zeroPadded]
  exact if_neg (Text.zeroPadded_ne_nil width n)

theorem readBehind?_zeroPadded (mark : Char) (width n : Nat) (ends : NoDigit rest) :
    readBehind? mark (mark :: ((Text.zeroPadded width n).toList ++ rest)) = some (n, rest) := by
  rw [readBehind?, if_pos rfl, readNumber?_zeroPadded width n ends]

theorem readYear?_zeroPadded (width n : Nat) (ends : NoDigit rest) :
    readYear? ((Text.zeroPadded width n).toList ++ rest) = some ((n : Int), rest) := by
  have number := readNumber?_zeroPadded width n ends
  obtain ⟨c, digits, text⟩ := List.exists_cons_of_ne_nil (Text.zeroPadded_ne_nil width n)
  have digit : c.isDigit := by
    refine @Text.isDigit_of_mem_zeroPadded width n c ?_
    rw [text]
    exact List.mem_cons_self
  rw [text, List.cons_append] at number ⊢
  unfold readYear?
  -- A digit is not a sign.
  split
  case h_1 negative =>
    obtain ⟨rfl, -⟩ := List.cons.inj negative
    exact absurd digit (by decide)
  case h_2 positive =>
    obtain ⟨rfl, -⟩ := List.cons.inj positive
    exact absurd digit (by decide)
  case h_3 =>
    rw [number]
    rfl

theorem readYear?_yearText (year : Int) (ends : NoDigit rest) :
    readYear? ((yearText year).toList ++ rest) = some (year, rest) := by
  have number := readNumber?_zeroPadded 4 year.natAbs ends
  unfold yearText
  split_ifs with negative short
  · have read : readYear? ('-' :: ((Text.zeroPadded 4 year.natAbs).toList ++ rest)) =
        some (-(year.natAbs : Int), rest) := by
      rw [readYear?, number]
      rfl
    have sign : "-".toList = ['-'] := rfl
    have value : -(year.natAbs : Int) = year := by omega
    rw [String.toList_append, sign, List.append_assoc, List.singleton_append, read, value]
  · have value : (year.natAbs : Int) = year := by omega
    rw [readYear?_zeroPadded 4 year.natAbs ends, value]
  · have read : readYear? ('+' :: ((Text.zeroPadded 4 year.natAbs).toList ++ rest)) =
        some ((year.natAbs : Int), rest) := by
      rw [readYear?, number]
      rfl
    have sign : "+".toList = ['+'] := rfl
    have value : (year.natAbs : Int) = year := by omega
    rw [String.toList_append, sign, List.append_assoc, List.singleton_append, read, value]

end Reading

end Calendar

namespace Instant

/-! ## What a local clock shows -/

/-- The date that the local clock shows. -/
def date (t : Instant) : Calendar.Date := Calendar.civilDate (t.local / 86400)

/-- The minutes that the local clock has seen since the beginning of 1970. -/
def minutes (t : Instant) : Int := t.local / 60

/-- The second of its minute that the local clock shows, which for a leap second is one more than
that of the instant. -/
def second (t : Instant) : Nat :=
  (t.local % 60).toNat + if t.nanos < 1000000000 then 0 else 1

/-- The local clock of `a` shows less than that of `b`. -/
def ShownBefore (a b : Instant) : Prop :=
  a.minutes < b.minutes ∨ a.minutes = b.minutes ∧ a.second < b.second

/-- The year of the local clock has four digits. -/
def HasPlainYear (t : Instant) : Prop := 0 ≤ t.date.year ∧ t.date.year ≤ 9999

instance (t : Instant) : Decidable t.HasPlainYear := inferInstanceAs (Decidable (_ ∧ _))

variable {a b t : Instant}

theorem date_eq (t : Instant) : t.date = Calendar.civilDate (t.minutes / 1440) := by
  have days : t.local / 86400 = t.local / 60 / 1440 := by omega
  rw [date, minutes, days]

theorem second_of_calm (calm : t.nanos < 1000000000) : t.second = (t.local % 60).toNat := by
  rw [second, if_pos calm, Nat.add_zero]

theorem toList_stamp (t : Instant) :
    t.stamp.toList =
      (Calendar.yearText t.date.year).toList ++
        '-' :: ((Text.zeroPadded 2 t.date.month).toList ++
        '-' :: ((Text.zeroPadded 2 t.date.day).toList ++
        ' ' :: ((Text.zeroPadded 2 (t.minutes % 1440 / 60).toNat).toList ++
        ':' :: ((Text.zeroPadded 2 (t.minutes % 60).toNat).toList ++
        ':' :: (Text.zeroPadded 2 t.second).toList)))) := by
  have hour : (t.local % 86400).toNat / 3600 = (t.minutes % 1440 / 60).toNat := by
    unfold minutes
    omega
  have minute : (t.local % 86400).toNat / 60 % 60 = (t.minutes % 60).toNat := by
    unfold minutes
    omega
  have second : (t.local % 86400).toNat % 60 = (t.local % 60).toNat := by omega
  have marks : "-".toList = ['-'] ∧ " ".toList = [' '] ∧ ":".toList = [':'] := ⟨rfl, rfl, rfl⟩
  simp only [stamp, hour, minute, second, marks, String.toList_append, List.append_assoc,
    List.singleton_append]
  rfl

/-- **A stamp denotes the second of its local clock.** -/
theorem readStamp?_stamp (calm : t.nanos < 1000000000) :
    Calendar.readStamp? t.stamp.toList = some t.local := by
  have dash (rest : List Char) : Calendar.NoDigit ('-' :: rest) := by rintro _ ⟨⟩; decide
  have blank (rest : List Char) : Calendar.NoDigit (' ' :: rest) := by rintro _ ⟨⟩; decide
  have colon (rest : List Char) : Calendar.NoDigit (':' :: rest) := by rintro _ ⟨⟩; decide
  have nil : Calendar.NoDigit [] := by rintro _ ⟨⟩
  -- Nothing stands behind the last numeral.
  have last : Calendar.readBehind? ':' (':' :: (Text.zeroPadded 2 t.second).toList) =
      some (t.second, []) := by
    rw [← Calendar.readBehind?_zeroPadded ':' 2 t.second nil, List.append_nil]
  rw [toList_stamp, Calendar.readStamp?, Calendar.readYear?_yearText _ (dash _)]
  simp only [Option.bind_eq_bind, Option.bind_some, Calendar.readBehind?_zeroPadded, dash, blank,
    colon, last]
  have valid : t.date.Valid := Calendar.civilDate_valid _
  have days : t.date.days = t.local / 86400 := Calendar.days_civilDate _
  unfold minutes
  rw [days, second_of_calm calm, if_pos ⟨trivial, valid, by omega⟩]
  -- Day, hour, minute and second make up the second of the clock again.
  refine congrArg some ?_
  omega

/-! ## Order -/

/-- The widths of the numerals of a stamp, and the marks behind them. -/
def stampColumns : List (Nat × List Char) :=
  [(4, ['-']), (2, ['-']), (2, [' ']), (2, [':']), (2, [':']), (2, [])]

/-- The numbers that a stamp shows. -/
def fields (t : Instant) : List Nat :=
  [t.date.year.natAbs, t.date.month, t.date.day, (t.minutes % 1440 / 60).toNat,
    (t.minutes % 60).toNat, t.second]

theorem toList_stamp_eq_columns (plain : t.HasPlainYear) :
    t.stamp.toList = Text.columns stampColumns t.fields := by
  have year : Calendar.yearText t.date.year = Text.zeroPadded 4 t.date.year.natAbs := by
    rw [Calendar.yearText, if_neg (not_lt.mpr plain.1), if_pos plain.2]
  rw [toList_stamp, year]
  simp only [Text.columns, stampColumns, fields, List.append_nil, List.nil_append, List.cons_append]

theorem fits_fields (plain : t.HasPlainYear) :
    List.Forall₂ (fun column n => Text.Fits column.1 n) stampColumns t.fields := by
  have valid : t.date.Valid := Calendar.civilDate_valid _
  have day := valid.day.2.trans (Calendar.monthDays_le t.date.year t.date.month)
  have month := valid.month.2
  have second : t.second ≤ 60 := by
    unfold second
    split <;> omega
  have year : t.date.year.natAbs < 10000 := by
    obtain ⟨first, last⟩ := plain
    omega
  have two {n : Nat} (lt : n < 100) : Text.Fits 2 n := ⟨by decide, lt⟩
  exact .cons ⟨by decide, year⟩ (.cons (two (by omega)) (.cons (two (by omega))
    (.cons (two (by omega)) (.cons (two (by omega)) (.cons (two (by omega)) .nil)))))

/-- A clock that shows less shows a smaller number in the first place that differs. -/
theorem fields_lt (plain : a.HasPlainYear) (before : a.ShownBefore b) : a.fields < b.fields := by
  have days : a.minutes / 1440 < b.minutes / 1440 ∨ a.minutes / 1440 = b.minutes / 1440 := by
    unfold ShownBefore at before
    omega
  simp only [fields, List.cons_lt_cons_iff]
  rcases days with earlier | sameDay
  · have dates : a.date.Before b.date := by
      rw [date_eq, date_eq]
      exact (Calendar.civilDate_before_iff _ _).mpr earlier
    have first := plain.1
    rcases dates with year | ⟨year, month | ⟨month, day⟩⟩
    · exact .inl (by omega)
    · exact .inr ⟨congrArg Int.natAbs year, .inl month⟩
    · exact .inr ⟨congrArg Int.natAbs year, .inr ⟨month, .inl day⟩⟩
  · have same : a.date = b.date := by rw [date_eq, date_eq, sameDay]
    rw [same]
    refine .inr ⟨rfl, .inr ⟨rfl, .inr ⟨rfl, ?_⟩⟩⟩
    rcases before with minutes | ⟨minutes, second⟩
    · omega
    · exact .inr ⟨by rw [minutes], .inr ⟨by rw [minutes], .inl second⟩⟩

theorem stamp_lt (plain : a.HasPlainYear) (plain' : b.HasPlainYear) (before : a.ShownBefore b) :
    a.stamp < b.stamp := by
  rw [String.lt_iff_toList_lt, toList_stamp_eq_columns plain, toList_stamp_eq_columns plain']
  exact Text.columns_lt (fits_fields plain) (fits_fields plain') (fields_lt plain before)

/-- Clocks that show the same show the same stamp. -/
theorem stamp_congr (minutes : a.minutes = b.minutes) (second : a.second = b.second) :
    a.stamp = b.stamp := by
  refine String.toList_inj.mp ?_
  rw [toList_stamp, toList_stamp, date_eq, date_eq, minutes, second]

theorem shownBefore_trichotomy (a b : Instant) :
    a.ShownBefore b ∨ (a.minutes = b.minutes ∧ a.second = b.second) ∨ b.ShownBefore a := by
  unfold ShownBefore
  omega

/-- **Stamps are in order as local clocks are.** -/
theorem stamp_lt_iff (plain : a.HasPlainYear) (plain' : b.HasPlainYear) :
    a.stamp < b.stamp ↔ a.ShownBefore b := by
  refine ⟨fun lt => ?_, stamp_lt plain plain'⟩
  rcases shownBefore_trichotomy a b with before | ⟨minutes, second⟩ | after
  · exact before
  · exact absurd (stamp_congr minutes second) lt.ne
  · exact absurd lt (stamp_lt plain' plain after).not_gt

theorem stamp_eq_iff (plain : a.HasPlainYear) (plain' : b.HasPlainYear) :
    a.stamp = b.stamp ↔ a.minutes = b.minutes ∧ a.second = b.second := by
  refine ⟨fun same => ?_, fun ⟨minutes, second⟩ => stamp_congr minutes second⟩
  rcases shownBefore_trichotomy a b with before | shown | after
  · exact absurd same (stamp_lt plain plain' before).ne
  · exact shown
  · exact absurd same (stamp_lt plain' plain after).ne'

theorem shownBefore_iff (calm : a.nanos < 1000000000) (calm' : b.nanos < 1000000000) :
    a.ShownBefore b ↔ a.local < b.local := by
  rw [ShownBefore, second_of_calm calm, second_of_calm calm']
  unfold minutes
  omega

theorem shown_eq_iff (calm : a.nanos < 1000000000) (calm' : b.nanos < 1000000000) :
    a.minutes = b.minutes ∧ a.second = b.second ↔ a.local = b.local := by
  rw [second_of_calm calm, second_of_calm calm']
  unfold minutes
  omega

end Instant

end MessagingConsole
