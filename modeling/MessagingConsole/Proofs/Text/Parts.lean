import MessagingConsole.Proofs.Text.Decoding
import MessagingConsole.Text.Pieces

/-!
# Parts of texts

Octet strings are compared, cut and searched octet by octet where the texts they spell are
meant.  That does no harm: an octet string that begins with a text spells a text that begins
with it, and since an octet below `0x80` is never a part of a longer character, a text that is
cut at one falls apart into two texts.

## Main Results

- `encode_prefix_iff` - octets begin with octets as texts begin with texts.
- `isText_cut_iff` - a text can be cut at any octet below `0x80`.
- `Text.pieces_intercalate` - pieces with separators between them are cut into these pieces.
-/

namespace MessagingConsole

namespace Utf8

variable {bytes front rest : Bytes} {chars : List Char} {b : UInt8}

theorem encode_append (first second : String) :
    encode (first ++ second) = encode first ++ encode second := by
  unfold encode
  rw [String.toList_append, List.flatMap_append]

/-- An octet string that could be decoded is decoded to the same text leniently. -/
theorem decodeLossy_of_decode? {text : String} (decoded : decode? bytes = some text) :
    decodeLossy bytes = text := by
  simp only [decode?] at decoded
  split at decoded
  · exact Option.some.inj decoded
  · cases decoded

theorem decodeLossy_encode (text : String) : decodeLossy (encode text) = text :=
  decodeLossy_of_decode? (decode?_encode text)

/-! ## Beginnings -/

/-- The decoder keeps the pieces that it is done with. -/
theorem suffix_done_step (d : Decoder) (b : UInt8) : d.done <:+ (d.step b).done := by
  have start (done : List Piece) : done <:+ (Decoder.start done b).done := by
    unfold Decoder.start
    split
    case isTrue => exact List.suffix_cons _ _
    case isFalse =>
      split
      · exact List.suffix_rfl
      · exact List.suffix_cons _ _
  obtain ⟨begun, done⟩ := d
  cases begun with
  | none => exact start done
  | some s =>
    simp only [Decoder.step]
    split
    case isTrue =>
      split
      · exact List.suffix_cons _ _
      · exact List.suffix_rfl
    case isFalse => exact (List.suffix_cons _ _).trans (start (.broken :: done))

theorem prefix_finish_foldl (d : Decoder) (bytes : Bytes) :
    d.done.reverse <+: (bytes.foldl Decoder.step d).finish := by
  induction bytes generalizing d with
  | nil =>
    obtain ⟨begun, done⟩ := d
    cases begun with
    | none => exact List.prefix_rfl
    | some s =>
      show done.reverse <+: (Piece.broken :: done).reverse
      rw [List.reverse_cons]
      exact List.prefix_append _ _
  | cons b rest ih => exact (List.reverse_prefix.mpr (suffix_done_step d b)).trans (ih (d.step b))

/-- **Octets begin with the octets of a text as texts begin with texts.** -/
theorem encode_prefix_iff {start text : String} :
    encode start <+: encode text ↔ start.toList <+: text.toList := by
  constructor
  · rintro ⟨rest, same⟩
    have begins : start.toList.map Piece.scalar <+: pieces (encode text) := by
      rw [← same, pieces, List.foldl_append, encode, foldl_step_chars, List.append_nil]
      have front := prefix_finish_foldl ⟨none, (start.toList.map .scalar).reverse⟩ rest
      rw [List.reverse_reverse] at front
      exact front
    rw [pieces_encode] at begins
    have chars := begins.map Piece.char
    simpa only [List.map_map, Function.comp_def, Piece.char, List.map_id_fun', id] using chars
  · rintro ⟨rest, same⟩
    refine ⟨rest.flatMap String.utf8EncodeChar, ?_⟩
    rw [encode, encode, ← same, List.flatMap_append]

/-! ## Octets below `0x80` -/

theorem low_of_begin? {s : Begun} (begins : begin? b = some s) : 0x80 ≤ s.low := by
  unfold begin? at begins
  repeat' split at begins
  case isFalse => cases begins
  all_goals
    obtain rfl := Option.some.inj begins
    dsimp only
    decide

/-- What carries a sequence on are no octets below `0x80`. -/
theorem Begun.Completes.high {s : Begun} {n : Nat} (completes : s.Completes bytes n)
    (low : 0x80 ≤ s.low) : ∀ b ∈ bytes, 0x80 ≤ b := by
  induction bytes generalizing s with
  | nil => exact List.forall_mem_nil _
  | cons first rest ih =>
    obtain ⟨above, -, later⟩ := completes
    refine List.forall_mem_cons.mpr ⟨UInt8.le_trans low above, ?_⟩
    split at later
    · obtain ⟨rfl, -⟩ := later
      exact List.forall_mem_nil _
    · exact ih later (UInt8.le_refl 0x80)

/-- A character is one octet below `0x80`, or it has no such octets. -/
theorem utf8EncodeChar_cases (c : Char) :
    (∃ b : UInt8, b < 0x80 ∧ c = Char.ofNat b.toNat ∧ String.utf8EncodeChar c = [b]) ∨
      ∀ b ∈ String.utf8EncodeChar c, 0x80 ≤ b := by
  by_cases wide : 0x80 ≤ c.val.toNat
  · obtain ⟨b, octets, s, encoded, high, begins, completes⟩ := exists_begin_of_char c wide
    rw [encoded]
    exact .inr (List.forall_mem_cons.mpr ⟨high, completes.high (low_of_begin? begins)⟩)
  · exact .inl (exists_ascii_of_char c (Nat.not_le.mp wide))

/-- An octet below `0x80` is in a text where its character is. -/
theorem mem_encode_iff {text : String} (ascii : b < 0x80) :
    b ∈ encode text ↔ Char.ofNat b.toNat ∈ text.toList := by
  constructor
  · intro mem
    obtain ⟨c, inside, mem⟩ := List.mem_flatMap.mp mem
    rcases utf8EncodeChar_cases c with ⟨other, -, rfl, encoded⟩ | high
    · rw [encoded, List.mem_singleton] at mem
      rw [mem]
      exact inside
    · exact absurd ascii (UInt8.not_lt.mpr (high b mem))
  · intro mem
    refine List.mem_flatMap.mpr ⟨_, mem, ?_⟩
    rw [utf8EncodeChar_ascii ascii]
    exact List.mem_singleton_self b

/-- Some octets are those of a text. -/
def IsText (bytes : Bytes) : Prop :=
  ∃ text, bytes = encode text

theorem isText_encode (text : String) : IsText (encode text) :=
  ⟨text, rfl⟩

theorem isText_flatMap (chars : List Char) : IsText (chars.flatMap String.utf8EncodeChar) :=
  ⟨String.ofList chars, by rw [encode, String.toList_ofList]⟩

theorem isText_iff_isSome : IsText bytes ↔ (decode? bytes).isSome := by
  simp only [IsText, Option.isSome_iff_exists, decode?_eq_some_iff]

theorem IsText.append (first : IsText front) (second : IsText rest) :
    IsText (front ++ rest) := by
  obtain ⟨start, rfl⟩ := first
  obtain ⟨later, rfl⟩ := second
  exact ⟨start ++ later, (encode_append start later).symm⟩

theorem isText_singleton (ascii : b < 0x80) : IsText [b] := by
  rw [← utf8EncodeChar_ascii ascii, ← List.flatMap_singleton String.utf8EncodeChar]
  exact isText_flatMap _

/-- The characters of a text are on one side of an octet below `0x80`, or are that octet. -/
theorem isText_of_flatMap_eq (ascii : b < 0x80)
    (same : chars.flatMap String.utf8EncodeChar = front ++ b :: rest) :
    IsText front ∧ IsText rest := by
  induction chars generalizing front with
  | nil => cases front <;> cases same
  | cons c chars ih =>
    rw [List.flatMap_cons] at same
    rcases List.append_eq_append_iff.mp same with ⟨middle, rfl, later⟩ | ⟨middle, encoded, later⟩
    · obtain ⟨first, second⟩ := ih later
      have char : IsText (String.utf8EncodeChar c) := by
        rw [← List.flatMap_singleton String.utf8EncodeChar]
        exact isText_flatMap _
      exact ⟨char.append first, second⟩
    · cases middle with
      | nil =>
        obtain ⟨-, second⟩ := @ih [] later.symm
        rw [List.append_nil] at encoded
        rw [← encoded, ← List.flatMap_singleton String.utf8EncodeChar]
        exact ⟨isText_flatMap _, second⟩
      | cons first middle =>
        -- The octet belongs to the first character, which is this octet alone.
        obtain ⟨rfl, rfl⟩ := List.cons.inj later
        rcases utf8EncodeChar_cases c with ⟨other, -, -, single⟩ | high
        · rw [single] at encoded
          obtain ⟨rfl, rfl⟩ : front = [] ∧ middle = [] := by
            have lengths := congrArg List.length encoded
            simp only [List.length_append, List.length_cons, List.length_nil] at lengths
            exact ⟨List.length_eq_zero_iff.mp (by omega), List.length_eq_zero_iff.mp (by omega)⟩
          exact ⟨⟨"", rfl⟩, isText_flatMap chars⟩
        · have inside : b ∈ String.utf8EncodeChar c := by
            rw [encoded]
            simp
          exact absurd ascii (UInt8.not_lt.mpr (high b inside))

/-- **A text can be cut at an octet below `0x80`.** -/
theorem isText_cut_iff (ascii : b < 0x80) :
    IsText (front ++ b :: rest) ↔ IsText front ∧ IsText rest := by
  constructor
  · rintro ⟨text, same⟩
    exact isText_of_flatMap_eq ascii same.symm
  · rintro ⟨first, second⟩
    exact first.append ((isText_singleton ascii).append second)

end Utf8

/-! ## Pieces -/

namespace Text

variable {α : Type} [DecidableEq α] {separator : α}

/-- What lies in front of the first separator is the first piece. -/
theorem pieces_append_separator {piece : List α} (free : separator ∉ piece) (rest : List α) :
    pieces separator (piece ++ separator :: rest) = piece :: pieces separator rest := by
  induction piece with
  | nil => exact if_pos rfl
  | cons c piece ih =>
    obtain ⟨other, free⟩ := not_or.mp (mt List.mem_cons.mpr free)
    have tail := ih free
    unfold pieces at tail ⊢
    rw [List.cons_append, List.foldr_cons, tail, if_neg (Ne.symm other)]

theorem pieces_of_free {piece : List α} (free : separator ∉ piece) :
    pieces separator piece = [piece] := by
  induction piece with
  | nil => rfl
  | cons c piece ih =>
    obtain ⟨other, free⟩ := not_or.mp (mt List.mem_cons.mpr free)
    have tail := ih free
    unfold pieces at tail ⊢
    rw [List.foldr_cons, tail, if_neg (Ne.symm other)]

/-- Pieces without separators are what lies between the separators. -/
theorem pieces_intercalate {parts : List (List α)} (some_part : parts ≠ [])
    (free : ∀ part ∈ parts, separator ∉ part) :
    pieces separator ([separator].intercalate parts) = parts := by
  induction parts with
  | nil => exact absurd rfl some_part
  | cons part rest ih =>
    obtain ⟨first, others⟩ := List.forall_mem_cons.mp free
    cases rest with
    | nil => rw [List.intercalate_singleton, pieces_of_free first]
    | cons next rest =>
      rw [List.intercalate_cons_cons, List.append_assoc, List.singleton_append,
        pieces_append_separator first, ih (List.cons_ne_nil _ _) others]

/-- What is no separator is in one of the pieces. -/
theorem exists_mem_pieces {text : List α} {c : α} (mem : c ∈ text) (other : c ≠ separator) :
    ∃ piece ∈ pieces separator text, c ∈ piece := by
  induction text with
  | nil => cases mem
  | cons d text ih =>
    unfold pieces at ih ⊢
    rw [List.foldr_cons]
    rcases List.mem_cons.mp mem with rfl | mem
    · rw [if_neg other]
      split
      · exact ⟨[c], List.mem_singleton_self _, List.mem_singleton_self c⟩
      · exact ⟨_, List.mem_cons_self, List.mem_cons_self⟩
    · obtain ⟨piece, listed, inside⟩ := ih mem
      split
      · exact ⟨piece, List.mem_cons_of_mem _ listed, inside⟩
      · split
        next none =>
          rw [none] at listed
          cases listed
        next first rest cut =>
          rw [cut] at listed
          rcases List.mem_cons.mp listed with rfl | later
          · exact ⟨_, List.mem_cons_self, List.mem_cons_of_mem d inside⟩
          · exact ⟨piece, List.mem_cons_of_mem _ later, inside⟩

end Text

end MessagingConsole
