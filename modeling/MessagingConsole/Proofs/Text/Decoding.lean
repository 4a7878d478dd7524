import MessagingConsole.Proofs.Text.Utf8

/-!
# Decoding is the inverse of encoding

The decoder reads one octet at a time and an octet string is well formed if no piece of it
is broken, while the octets of a text are those of its characters one after the other.  The
two agree: an octet string has a text exactly if it is the octets of that text.

The arithmetic of UTF-8 is in two lemmas about single characters, one for each direction.
Everything else is about the state of the decoder: the pieces it is done with, and the
sequence it is inside of.

## Main Definitions

- `Begun.Completes` - how a sequence that has begun can be carried on to its end.
- `Spelled` - what the decoder knows about the octets it has read.

## Main Results

- `decode?_eq_some_iff` - an octet string has a text if it is the octets of it.
-/

namespace MessagingConsole.Utf8

/-- Some octets carry a sequence on to its end, where its bits are a number. -/
def Begun.Completes (s : Begun) : Bytes → Nat → Prop
  | [], _ => False
  | b :: rest, n =>
    s.low ≤ b ∧ b ≤ s.high ∧
      if s.wanted ≤ 1 then rest = [] ∧ n = s.value * 64 + (b.toNat - 0x80)
      else Completes ⟨s.value * 64 + (b.toNat - 0x80), s.wanted - 1, 0x80, 0xBF⟩ rest n

/-! ## Characters of more than one octet -/

theorem utf8EncodeChar_two {n : Nat} (low : 0x80 ≤ n) (high : n ≤ 0x7FF) :
    String.utf8EncodeChar (Char.ofNat n) =
      [UInt8.ofNat (n / 64 + 0xC0), UInt8.ofNat (n % 64 + 0x80)] := by
  have valid : n.isValidChar := .inl (by omega)
  have first : n / 64 % 0x20 = n / 64 := by omega
  unfold String.utf8EncodeChar
  simp only [toNat_ofNat valid]
  rw [if_neg (by omega), if_pos high, first]

theorem utf8EncodeChar_three {n : Nat} (low : 0x800 ≤ n) (high : n ≤ 0xFFFF)
    (valid : n.isValidChar) :
    String.utf8EncodeChar (Char.ofNat n) =
      [UInt8.ofNat (n / 4096 + 0xE0), UInt8.ofNat (n / 64 % 64 + 0x80),
        UInt8.ofNat (n % 64 + 0x80)] := by
  have first : n / 4096 % 0x10 = n / 4096 := by omega
  unfold String.utf8EncodeChar
  simp only [toNat_ofNat valid]
  rw [if_neg (by omega), if_neg (by omega), if_pos high, first]

theorem utf8EncodeChar_four {n : Nat} (low : 0x10000 ≤ n) (valid : n.isValidChar) :
    String.utf8EncodeChar (Char.ofNat n) =
      [UInt8.ofNat (n / 262144 + 0xF0), UInt8.ofNat (n / 4096 % 64 + 0x80),
        UInt8.ofNat (n / 64 % 64 + 0x80), UInt8.ofNat (n % 64 + 0x80)] := by
  have high : n < 0x110000 := by
    rcases valid with low | ⟨-, high⟩ <;> omega
  have first : n / 262144 % 0x08 = n / 262144 := by omega
  unfold String.utf8EncodeChar
  simp only [toNat_ofNat valid]
  rw [if_neg (by omega), if_neg (by omega), if_neg (by omega), first]

variable {s : Begun} {b : UInt8} {octets : Bytes} {n : Nat}

/-! ## Beginnings -/

theorem begin_two (low : 0xC2 ≤ b.toNat) (high : b.toNat ≤ 0xDF) :
    begin? b = some ⟨b.toNat - 0xC0, 1, 0x80, 0xBF⟩ := by
  have range : 0xC2 ≤ b ∧ b ≤ 0xDF := ⟨low, high⟩
  rw [begin?, if_pos range]

theorem begin_three (low : 0xE0 ≤ b.toNat) (high : b.toNat ≤ 0xEF) :
    begin? b = some ⟨b.toNat - 0xE0, 2, if b = 0xE0 then 0xA0 else 0x80,
      if b = 0xED then 0x9F else 0xBF⟩ := by
  have range : ¬ (0xC2 ≤ b ∧ b ≤ 0xDF) := by
    rintro ⟨-, short : b.toNat ≤ 0xDF⟩
    omega
  rw [begin?, if_neg range]
  by_cases first : b = 0xE0
  · subst first
    rfl
  · by_cases gap : b = 0xED
    · subst gap
      rfl
    · have middle : 0xE1 ≤ b ∧ b ≤ 0xEF := by
        rw [← UInt8.toNat_inj] at first
        simp only [UInt8.le_iff_toNat_le, UInt8.reduceToNat] at first ⊢
        omega
      rw [if_neg first, if_neg gap, if_pos middle, if_neg first, if_neg gap]

theorem begin_four (low : 0xF0 ≤ b.toNat) (high : b.toNat ≤ 0xF4) :
    begin? b = some ⟨b.toNat - 0xF0, 3, if b = 0xF0 then 0x90 else 0x80,
      if b = 0xF4 then 0x8F else 0xBF⟩ := by
  have values : b = 0xF0 ∨ b = 0xF1 ∨ b = 0xF2 ∨ b = 0xF3 ∨ b = 0xF4 := by
    simp only [← UInt8.toNat_inj, UInt8.reduceToNat]
    omega
  rcases values with rfl | rfl | rfl | rfl | rfl <;> rfl

theorem begin_none (outside : ¬ (0xC2 ≤ b.toNat ∧ b.toNat ≤ 0xF4)) : begin? b = none := by
  simp only [begin?, UInt8.le_iff_toNat_le, ← UInt8.toNat_inj, UInt8.reduceToNat]
  repeat' rw [if_neg (by omega)]

/-! ## What carries a beginning on -/

theorem completes_of_wanted_one {value : Nat} {low high : UInt8} :
    Begun.Completes ⟨value, 1, low, high⟩ octets n ↔
      ∃ b, octets = [b] ∧ (low ≤ b ∧ b ≤ high) ∧ n = value * 64 + (b.toNat - 0x80) := by
  cases octets with
  | nil => simp [Begun.Completes]
  | cons b rest => simp [Begun.Completes, and_assoc, and_left_comm]

theorem completes_of_wanted_more {value wanted : Nat} {low high : UInt8} :
    Begun.Completes ⟨value, wanted + 2, low, high⟩ octets n ↔
      ∃ b rest, octets = b :: rest ∧ (low ≤ b ∧ b ≤ high) ∧
        Begun.Completes ⟨value * 64 + (b.toNat - 0x80), wanted + 1, 0x80, 0xBF⟩ rest n := by
  cases octets with
  | nil => simp [Begun.Completes]
  | cons b rest => simp [Begun.Completes, and_assoc]

/-- The range of a second octet, which one first octet narrows from below and another one from
above. -/
theorem range_iff {c first last low high : UInt8} :
    ((if b = first then low else 0x80) ≤ c ∧ c ≤ (if b = last then high else 0xBF)) ↔
      (b.toNat = first.toNat → low.toNat ≤ c.toNat) ∧
      (b.toNat ≠ first.toNat → 0x80 ≤ c.toNat) ∧
      (b.toNat = last.toNat → c.toNat ≤ high.toNat) ∧
      (b.toNat ≠ last.toNat → c.toNat ≤ 0xBF) := by
  have lower : (if b = first then low else 0x80) ≤ c ↔
      (b = first → low ≤ c) ∧ (b ≠ first → 0x80 ≤ c) := by
    split <;> simp [*]
  have upper : c ≤ (if b = last then high else 0xBF) ↔
      (b = last → c ≤ high) ∧ (b ≠ last → c ≤ 0xBF) := by
    split <;> simp [*]
  rw [lower, upper, and_assoc]
  simp only [UInt8.le_iff_toNat_le, ne_eq, UInt8.toNat_inj, UInt8.reduceToNat]

theorem ofNat_eq (b : UInt8) (same : n = b.toNat) : UInt8.ofNat n = b := by
  rw [same, UInt8.ofNat_toNat]

/-- What begins a sequence and what carries it on to its end are the octets of its
character. -/
theorem utf8EncodeChar_of_completes (begins : begin? b = some s)
    (completes : s.Completes octets n) :
    String.utf8EncodeChar (Char.ofNat n) = b :: octets := by
  by_cases bounds : 0xC2 ≤ b.toNat ∧ b.toNat ≤ 0xF4
  case neg =>
    rw [begin_none bounds] at begins
    cases begins
  -- One case for each number of octets.
  by_cases two : b.toNat ≤ 0xDF
  · rw [begin_two bounds.1 two] at begins
    obtain rfl := Option.some.inj begins
    obtain ⟨c, rfl, ⟨above, below⟩, value⟩ := completes_of_wanted_one.mp completes
    simp only [UInt8.le_iff_toNat_le, UInt8.reduceToNat] at above below
    rw [utf8EncodeChar_two (by omega) (by omega), ofNat_eq b (by omega), ofNat_eq c (by omega)]
  by_cases three : b.toNat ≤ 0xEF
  · rw [begin_three (by omega) three] at begins
    obtain rfl := Option.some.inj begins
    obtain ⟨c, rest, rfl, range, completes⟩ := completes_of_wanted_more.mp completes
    obtain ⟨d, rfl, ⟨above, below⟩, value⟩ := completes_of_wanted_one.mp completes
    have range := range_iff.mp range
    simp only [UInt8.le_iff_toNat_le, UInt8.reduceToNat] at above below range
    have valid : n.isValidChar := by
      unfold Nat.isValidChar
      omega
    rw [utf8EncodeChar_three (by omega) (by omega) valid, ofNat_eq b (by omega),
      ofNat_eq c (by omega), ofNat_eq d (by omega)]
  · rw [begin_four (by omega) bounds.2] at begins
    obtain rfl := Option.some.inj begins
    obtain ⟨c, rest, rfl, range, completes⟩ := completes_of_wanted_more.mp completes
    obtain ⟨d, rest, rfl, ⟨above, below⟩, completes⟩ := completes_of_wanted_more.mp completes
    obtain ⟨e, rfl, ⟨above', below'⟩, value⟩ := completes_of_wanted_one.mp completes
    have range := range_iff.mp range
    simp only [UInt8.le_iff_toNat_le, UInt8.reduceToNat] at above below above' below' range
    have valid : n.isValidChar := by
      unfold Nat.isValidChar
      omega
    rw [utf8EncodeChar_four (by omega) valid, ofNat_eq b (by omega), ofNat_eq c (by omega),
      ofNat_eq d (by omega), ofNat_eq e (by omega)]

/-- A number below 256 is an octet. -/
theorem exists_octet (small : n < 256) : ∃ b, UInt8.ofNat n = b ∧ b.toNat = n :=
  ⟨_, rfl, UInt8.toNat_ofNat_of_lt small⟩

/-- An ASCII character is one octet. -/
theorem exists_ascii_of_char (c : Char) (narrow : c.val.toNat < 0x80) :
    ∃ b : UInt8, b < 0x80 ∧ c = Char.ofNat b.toNat ∧ String.utf8EncodeChar c = [b] := by
  obtain ⟨b, b_eq, b_is⟩ := exists_octet (n := c.val.toNat) (by omega)
  refine ⟨b, ?_, ?_, ?_⟩
  · simp only [UInt8.lt_iff_toNat_lt, UInt8.reduceToNat]
    omega
  · rw [b_is]
    exact (Char.ofNat_toNat c).symm
  · unfold String.utf8EncodeChar
    rw [if_pos (by omega), b_eq]

/-- The octets of a character that is no ASCII character begin a sequence and carry it on to
its end. -/
theorem exists_begin_of_char (c : Char) (wide : 0x80 ≤ c.val.toNat) :
    ∃ b octets s, String.utf8EncodeChar c = b :: octets ∧ 0x80 ≤ b ∧ begin? b = some s ∧
      s.Completes octets c.val.toNat := by
  have valid : c.val.toNat.isValidChar := c.valid
  have same : Char.ofNat c.val.toNat = c := Char.ofNat_toNat c
  generalize c.val.toNat = n at wide valid same
  subst same
  have bound : n < 0xD800 ∨ 0xDFFF < n ∧ n < 0x110000 := valid
  -- The last octet is the same in each case.
  obtain ⟨last, last_eq, last_is⟩ := exists_octet (n := n % 64 + 0x80) (by omega)
  by_cases two : n ≤ 0x7FF
  · obtain ⟨b, b_eq, b_is⟩ := exists_octet (n := n / 64 + 0xC0) (by omega)
    refine ⟨b, [last], _, ?_, ?_, begin_two (by omega) (by omega), ?_⟩
    · rw [utf8EncodeChar_two wide two, b_eq, last_eq]
    · simp only [UInt8.le_iff_toNat_le, UInt8.reduceToNat]
      omega
    · refine completes_of_wanted_one.mpr ⟨last, rfl, ?_, by omega⟩
      simp only [UInt8.le_iff_toNat_le, UInt8.reduceToNat]
      omega
  obtain ⟨d, d_eq, d_is⟩ := exists_octet (n := n / 64 % 64 + 0x80) (by omega)
  have tails : (0x80 ≤ d ∧ d ≤ 0xBF) ∧ 0x80 ≤ last ∧ last ≤ 0xBF := by
    simp only [UInt8.le_iff_toNat_le, UInt8.reduceToNat]
    omega
  by_cases three : n ≤ 0xFFFF
  · obtain ⟨b, b_eq, b_is⟩ := exists_octet (n := n / 4096 + 0xE0) (by omega)
    refine ⟨b, [d, last], _, ?_, ?_, begin_three (by omega) (by omega), ?_⟩
    · rw [utf8EncodeChar_three (by omega) three valid, b_eq, d_eq, last_eq]
    · simp only [UInt8.le_iff_toNat_le, UInt8.reduceToNat]
      omega
    · refine completes_of_wanted_more.mpr ⟨d, _, rfl, range_iff.mpr ?_, ?_⟩
      · simp only [UInt8.reduceToNat]
        omega
      · exact completes_of_wanted_one.mpr ⟨last, rfl, tails.2, by omega⟩
  · obtain ⟨b, b_eq, b_is⟩ := exists_octet (n := n / 262144 + 0xF0) (by omega)
    obtain ⟨e, e_eq, e_is⟩ := exists_octet (n := n / 4096 % 64 + 0x80) (by omega)
    refine ⟨b, [e, d, last], _, ?_, ?_, begin_four (by omega) (by omega), ?_⟩
    · rw [utf8EncodeChar_four (by omega) valid, b_eq, e_eq, d_eq, last_eq]
    · simp only [UInt8.le_iff_toNat_le, UInt8.reduceToNat]
      omega
    · refine completes_of_wanted_more.mpr ⟨e, _, rfl, range_iff.mpr ?_, ?_⟩
      · simp only [UInt8.reduceToNat]
        omega
      · refine completes_of_wanted_more.mpr ⟨d, _, rfl, tails.1, ?_⟩
        exact completes_of_wanted_one.mpr ⟨last, rfl, tails.2, by omega⟩

/-! ## Decoding what was encoded -/

/-- What carries a sequence on to its end leaves the decoder with the character. -/
theorem foldl_step_of_completes {done : List Piece} (completes : s.Completes octets n) :
    octets.foldl Decoder.step ⟨some s, done⟩ = ⟨none, .scalar (Char.ofNat n) :: done⟩ := by
  induction octets generalizing s with
  | nil => cases completes
  | cons b rest ih =>
    obtain ⟨above, below, later⟩ := completes
    have range : s.low ≤ b ∧ b ≤ s.high := ⟨above, below⟩
    simp only [List.foldl_cons, Decoder.step, if_pos range]
    split at later
    case isTrue last =>
      obtain ⟨nothing, value⟩ := later
      rw [if_pos last, nothing, value]
      rfl
    case isFalse more =>
      rw [if_neg more]
      exact ih later

theorem foldl_step_char (c : Char) (done : List Piece) :
    (String.utf8EncodeChar c).foldl Decoder.step ⟨none, done⟩ = ⟨none, .scalar c :: done⟩ := by
  by_cases wide : 0x80 ≤ c.val.toNat
  · obtain ⟨b, octets, s, encoded, high, begins, completes⟩ := exists_begin_of_char c wide
    have begun : Decoder.step ⟨none, done⟩ b = ⟨some s, done⟩ := by
      simp only [Decoder.step, Decoder.start, if_neg (UInt8.not_lt.mpr high), begins]
    rw [encoded, List.foldl_cons, begun, foldl_step_of_completes completes]
    rw [show Char.ofNat c.val.toNat = c from Char.ofNat_toNat c]
  · obtain ⟨b, ascii, same, encoded⟩ := exists_ascii_of_char c (Nat.not_le.mp wide)
    rw [encoded, List.foldl_cons, List.foldl_nil]
    simp only [Decoder.step, Decoder.start, if_pos ascii, same]

/-- The octets of characters are cut into these characters. -/
theorem foldl_step_chars (chars : List Char) (done : List Piece) :
    (chars.flatMap String.utf8EncodeChar).foldl Decoder.step ⟨none, done⟩ =
      ⟨none, (chars.map .scalar).reverse ++ done⟩ := by
  induction chars generalizing done with
  | nil => rfl
  | cons c rest ih =>
    rw [List.flatMap_cons, List.foldl_append, foldl_step_char, ih]
    simp

/-- The pieces of a text are its characters. -/
theorem pieces_encode (text : String) : pieces (encode text) = text.toList.map .scalar := by
  simp [pieces, encode, foldl_step_chars, Decoder.finish]

/-- A text is what its octets are decoded to. -/
theorem decode?_encode (text : String) : decode? (encode text) = some text := by
  have cut := pieces_encode text
  have whole : (pieces (encode text)).all Piece.isWhole := by
    rw [cut, List.all_map]
    exact List.all_eq_true.mpr fun _ _ => rfl
  have chars : (text.toList.map Piece.scalar).map Piece.char = text.toList := by
    rw [List.map_map]
    exact List.map_id _
  rw [decode?, if_pos whole, cut, chars, String.ofList_toList]

/-! ## Encoding what was decoded -/

/-- What the decoder knows about the octets it has read, unless a piece of them is broken:
they are the octets of the characters it is done with, and then some that begin a sequence,
and what carries that on to its end does so from the first of them. -/
inductive Spelled : Bytes → Decoder → Prop
  | between (chars : List Char) :
      Spelled (chars.flatMap String.utf8EncodeChar) ⟨none, (chars.map .scalar).reverse⟩
  | inside (chars : List Char) {b : UInt8} {octets : Bytes} {first s : Begun}
      (begins : begin? b = some first)
      (carries : ∀ rest n, s.Completes rest n → first.Completes (octets ++ rest) n) :
      Spelled (chars.flatMap String.utf8EncodeChar ++ b :: octets)
        ⟨some s, (chars.map .scalar).reverse⟩
  | broken {read : Bytes} {d : Decoder} (mem : .broken ∈ d.done) : Spelled read d

theorem broken_mem_start {done : List Piece} (mem : .broken ∈ done) (b : UInt8) :
    .broken ∈ (Decoder.start done b).done := by
  unfold Decoder.start
  split
  case isTrue => exact List.mem_cons_of_mem _ mem
  case isFalse =>
    split
    · exact mem
    · exact List.mem_cons_of_mem _ mem

/-- A broken piece stays. -/
theorem broken_mem_step {d : Decoder} (mem : .broken ∈ d.done) (b : UInt8) :
    .broken ∈ (d.step b).done := by
  obtain ⟨begun, done⟩ := d
  cases begun with
  | none => exact broken_mem_start mem b
  | some s =>
    simp only [Decoder.step]
    split
    case isTrue =>
      split
      · exact List.mem_cons_of_mem _ mem
      · exact mem
    case isFalse => exact broken_mem_start (List.mem_cons_of_mem _ mem) b

theorem spelled_char (chars : List Char) {c : Char} {front : Bytes}
    (encoded : String.utf8EncodeChar c = front) :
    Spelled (chars.flatMap String.utf8EncodeChar ++ front)
      ⟨none, .scalar c :: (chars.map .scalar).reverse⟩ := by
  have spelled := Spelled.between (chars ++ [c])
  rw [List.flatMap_append, List.map_append, List.reverse_append, List.flatMap_singleton,
    encoded] at spelled
  exact spelled

theorem spelled_start (chars : List Char) (b : UInt8) :
    Spelled (chars.flatMap String.utf8EncodeChar ++ [b])
      (Decoder.start (chars.map .scalar).reverse b) := by
  unfold Decoder.start
  split
  case isTrue ascii => exact spelled_char chars (utf8EncodeChar_ascii ascii)
  case isFalse =>
    split
    case h_1 s begins => exact .inside chars begins fun rest n completes => completes
    case h_2 => exact .broken List.mem_cons_self

/-- One octet more. -/
theorem Spelled.step {read : Bytes} {d : Decoder} (spelled : Spelled read d) (b : UInt8) :
    Spelled (read ++ [b]) (d.step b) := by
  cases spelled with
  | between chars => exact spelled_start chars b
  | broken mem => exact .broken (broken_mem_step mem b)
  | @inside chars lead octets first s begins carries =>
    rw [List.append_assoc, List.cons_append]
    by_cases range : s.low ≤ b ∧ b ≤ s.high
    · by_cases last : s.wanted ≤ 1
      · have ends : s.Completes [b] (s.value * 64 + (b.toNat - 0x80)) := by
          simp [Begun.Completes, range, last]
        have encoded := utf8EncodeChar_of_completes begins (carries _ _ ends)
        simp only [Decoder.step, if_pos range, if_pos last]
        exact spelled_char chars encoded
      · simp only [Decoder.step, if_pos range, if_neg last]
        refine .inside chars begins fun rest n completes => ?_
        rw [List.append_assoc, List.singleton_append]
        refine carries _ _ ⟨range.1, range.2, ?_⟩
        rw [if_neg last]
        exact completes
    · simp only [Decoder.step, if_neg range]
      exact .broken (broken_mem_start List.mem_cons_self b)

theorem Spelled.foldl {read : Bytes} {d : Decoder} (spelled : Spelled read d) (bytes : Bytes) :
    Spelled (read ++ bytes) (bytes.foldl Decoder.step d) := by
  induction bytes generalizing read d with
  | nil =>
    rw [List.append_nil]
    exact spelled
  | cons b rest ih =>
    rw [List.append_cons]
    exact ih (spelled.step b)

/-- Octets that are cut into whole pieces are those of the pieces. -/
theorem eq_flatMap_of_spelled {bytes : Bytes} {d : Decoder} (spelled : Spelled bytes d)
    (whole : ∀ piece ∈ d.finish, piece.isWhole) :
    bytes = (d.finish.map Piece.char).flatMap String.utf8EncodeChar := by
  have absurd_of_broken {pieces : List Piece} (whole : ∀ piece ∈ pieces, piece.isWhole)
      (mem : .broken ∈ pieces) : False := Bool.false_ne_true (whole .broken mem)
  cases spelled with
  | between chars =>
    have chars_eq : (chars.map Piece.scalar).map Piece.char = chars := by
      rw [List.map_map]
      exact List.map_id _
    simp only [Decoder.finish, List.reverse_reverse, chars_eq]
  | inside chars begins carries =>
    exact (absurd_of_broken whole (by simp [Decoder.finish])).elim
  | broken mem =>
    obtain ⟨begun, done⟩ := d
    cases begun <;> exact (absurd_of_broken whole (by simp [Decoder.finish, mem])).elim

/-- **An octet string has a text exactly if it is the octets of that text.** -/
theorem decode?_eq_some_iff {bytes : Bytes} {text : String} :
    decode? bytes = some text ↔ bytes = encode text := by
  constructor
  · intro decoded
    simp only [decode?] at decoded
    split at decoded
    case isFalse => cases decoded
    case isTrue whole =>
      obtain rfl := Option.some.inj decoded
      have spelled := (Spelled.between []).foldl bytes
      have same := eq_flatMap_of_spelled spelled (List.all_eq_true.mp whole)
      rw [encode, String.toList_ofList]
      exact same
  · rintro rfl
    exact decode?_encode text

end MessagingConsole.Utf8
