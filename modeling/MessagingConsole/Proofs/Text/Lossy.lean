import MessagingConsole.Proofs.Text.Parts

/-!
# What octets that are no text are shown as

Octets come from elsewhere and need not spell a text.  Where the octets of a character stand, it
is shown.  Where no character's octets stand, something is broken, and one U+FFFD is shown for
the longest part that begins a character, or for a single octet if that begins none.  This says
for each octet string what it is shown as, since no character's octets begin another's and since
there is one longest part.  The decoder, which reads one octet at a time and does not look back,
shows just that.

## Main Definitions

- `Starts` - some octets are the first ones of a character.
- `Breaks` - a part of an octet string that one U+FFFD is shown for.
- `Shows` - what an octet string is shown as.
- `Inside` - how a sequence that the decoder is inside of can be carried on.

## Main Results

- `Shows.unique` - an octet string is shown in one way.
- `shows_iff` - it is shown as what it is decoded to.
- `Shows.count_eq` - it is shown with all its characters of ASCII.
-/

namespace MessagingConsole.Utf8

/-- Some octets are the first ones of a character, or all that it has. -/
def Starts (octets : Bytes) : Prop :=
  ∃ c, octets <+: String.utf8EncodeChar c

/-- Octets in front of others are broken: no character's octets stand there, and they are the
longest part that begins a character, or a single octet that begins none. -/
structure Breaks (front rest : Bytes) : Prop where
  no_char : ∀ c, ¬ String.utf8EncodeChar c <+: front ++ rest
  nonempty : front ≠ []
  starts : front.length = 1 ∨ Starts front
  longest : ∀ more, more <+: rest → more ≠ [] → ¬ Starts (front ++ more)

/-- What octets are shown as, character by character. -/
inductive Shows : Bytes → List Char → Prop
  | nothing : Shows [] []
  | char (c : Char) {rest : Bytes} {chars : List Char} (later : Shows rest chars) :
      Shows (String.utf8EncodeChar c ++ rest) (c :: chars)
  | broken {front rest : Bytes} {chars : List Char} (breaks : Breaks front rest)
      (later : Shows rest chars) : Shows (front ++ rest) ('\uFFFD' :: chars)

variable {bytes front octets rest : Bytes} {b : UInt8} {s : Begun} {chars chars' : List Char}

/-! ## There is one way -/

/-- No character's octets begin another's. -/
theorem eq_of_prefix_utf8EncodeChar {c c' : Char}
    (begins : String.utf8EncodeChar c <+: String.utf8EncodeChar c') : c = c' := by
  have texts : encode (String.ofList [c]) <+: encode (String.ofList [c']) := by
    simpa [encode] using begins
  rw [encode_prefix_iff, String.toList_ofList, String.toList_ofList] at texts
  exact (List.cons_prefix_cons.mp texts).1

theorem utf8EncodeChar_ne_nil (c : Char) : String.utf8EncodeChar c ≠ [] := by
  intro none
  have begins : String.utf8EncodeChar c <+: String.utf8EncodeChar 'a' := none ▸ List.nil_prefix
  rw [eq_of_prefix_utf8EncodeChar begins] at none
  exact absurd none (by decide)

theorem eq_of_append_utf8EncodeChar {c c' : Char} {rest' : Bytes}
    (same : String.utf8EncodeChar c ++ rest = String.utf8EncodeChar c' ++ rest') :
    c = c' ∧ rest = rest' := by
  have one : c = c' := by
    rcases List.prefix_or_prefix_of_prefix (List.prefix_append _ rest)
      (same ▸ List.prefix_append _ rest') with begins | begins
    · exact eq_of_prefix_utf8EncodeChar begins
    · exact (eq_of_prefix_utf8EncodeChar begins).symm
  subst one
  exact ⟨rfl, List.append_cancel_left same⟩

/-- The longer one of two broken parts would be the beginning that the shorter one lacks. -/
theorem Breaks.eq_nil_of_append {more rest : Bytes} (breaks : Breaks front (more ++ rest))
    (breaks' : Breaks (front ++ more) rest) : more = [] := by
  refine Decidable.byContradiction fun some_more => ?_
  refine breaks.longest more (List.prefix_append more rest) some_more ?_
  rcases breaks'.starts with single | starts
  · have first := List.length_pos_iff.mpr breaks.nonempty
    have second := List.length_pos_iff.mpr some_more
    rw [List.length_append] at single
    omega
  · exact starts

theorem Breaks.unique {front' rest' : Bytes} (breaks : Breaks front rest)
    (breaks' : Breaks front' rest') (same : front ++ rest = front' ++ rest') :
    front = front' ∧ rest = rest' := by
  rcases List.append_eq_append_iff.mp same with ⟨more, rfl, rfl⟩ | ⟨more, rfl, rfl⟩
  · obtain rfl := breaks.eq_nil_of_append breaks'
    exact ⟨(List.append_nil _).symm, rfl⟩
  · obtain rfl := breaks'.eq_nil_of_append breaks
    exact ⟨List.append_nil _, rfl⟩

/-- **An octet string is shown in one way.** -/
theorem Shows.unique (shows : Shows bytes chars) (shows' : Shows bytes chars') :
    chars = chars' := by
  induction shows generalizing chars' with
  | nothing =>
    generalize none : ([] : Bytes) = bytes at shows'
    cases shows' with
    | nothing => rfl
    | char c => exact absurd (List.append_eq_nil_iff.mp none.symm).1 (utf8EncodeChar_ne_nil c)
    | broken breaks => exact absurd (List.append_eq_nil_iff.mp none.symm).1 breaks.nonempty
  | @char c rest chars later ih =>
    generalize same : String.utf8EncodeChar c ++ rest = bytes at shows'
    cases shows' with
    | nothing => exact absurd (List.append_eq_nil_iff.mp same).1 (utf8EncodeChar_ne_nil c)
    | char c' later' =>
      obtain ⟨rfl, rfl⟩ := eq_of_append_utf8EncodeChar same
      rw [ih later']
    | broken breaks => exact absurd (same ▸ List.prefix_append _ rest) (breaks.no_char c)
  | @broken front rest chars breaks later ih =>
    generalize same : front ++ rest = bytes at shows'
    cases shows' with
    | nothing => exact absurd (List.append_eq_nil_iff.mp same).1 breaks.nonempty
    | char c => exact absurd (same ▸ List.prefix_append _ _) (breaks.no_char c)
    | broken breaks' later' =>
      obtain ⟨rfl, rfl⟩ := breaks.unique breaks' same
      rw [ih later']

/-! ## The pieces of joined octets -/

/-- What the decoder is done with already does not matter to how it goes on. -/
theorem step_append (begun : Option Begun) (done old : List Piece) (b : UInt8) :
    Decoder.step ⟨begun, done ++ old⟩ b =
      ⟨(Decoder.step ⟨begun, done⟩ b).begun, (Decoder.step ⟨begun, done⟩ b).done ++ old⟩ := by
  have start (done : List Piece) : Decoder.start (done ++ old) b =
      ⟨(Decoder.start done b).begun, (Decoder.start done b).done ++ old⟩ := by
    unfold Decoder.start
    split
    case isTrue => rfl
    case isFalse => split <;> rfl
  cases begun with
  | none => exact start done
  | some s =>
    simp only [Decoder.step]
    split
    case isTrue => split <;> rfl
    case isFalse => exact start (.broken :: done)

theorem finish_foldl_append (begun : Option Begun) (done old : List Piece) (bytes : Bytes) :
    (bytes.foldl Decoder.step ⟨begun, done ++ old⟩).finish =
      old.reverse ++ (bytes.foldl Decoder.step ⟨begun, done⟩).finish := by
  induction bytes generalizing begun done with
  | nil => cases begun <;> simp [Decoder.finish]
  | cons b rest ih => rw [List.foldl_cons, List.foldl_cons, step_append, ih]

/-- The pieces so far come in front of the others. -/
theorem finish_foldl (done : List Piece) (bytes : Bytes) :
    (bytes.foldl Decoder.step ⟨none, done⟩).finish = done.reverse ++ pieces bytes :=
  finish_foldl_append none [] done bytes

theorem pieces_chars_append (chars : List Char) (rest : Bytes) :
    pieces (chars.flatMap String.utf8EncodeChar ++ rest) = chars.map .scalar ++ pieces rest := by
  rw [pieces, List.foldl_append, foldl_step_chars, finish_foldl, List.append_nil,
    List.reverse_reverse]

/-- A text in front of other octets is read as it is. -/
theorem decodeLossy_encode_append (text : String) (rest : Bytes) :
    decodeLossy (encode text ++ rest) = text ++ decodeLossy rest := by
  have chars : (text.toList.map Piece.scalar).map Piece.char = text.toList := by
    rw [List.map_map]
    exact List.map_id _
  rw [decodeLossy, encode, pieces_chars_append, List.map_append, chars, String.ofList_append,
    String.ofList_toList]
  rfl

/-! ## Inside of a sequence -/

/-- The octets of a sequence that the decoder is inside of: what carries it on to its end are the
other octets of a character that begins with them. -/
structure Inside (read : Bytes) (s : Begun) : Prop where
  filled : read ≠ []
  range : s.low ≤ s.high
  completes_iff : ∀ rest, (∃ n, s.Completes rest n) ↔ ∃ c, String.utf8EncodeChar c = read ++ rest

theorem range_of_begin? (begins : begin? b = some s) : s.low ≤ s.high := by
  unfold begin? at begins
  repeat' split at begins
  case isFalse => cases begins
  all_goals
    obtain rfl := Option.some.inj begins
    dsimp only
    decide

theorem wide_of_begin? (begins : begin? b = some s) : ¬ b < 0x80 := by
  intro ascii
  simp only [UInt8.lt_iff_toNat_lt, UInt8.reduceToNat] at ascii
  rw [begin_none (by omega)] at begins
  cases begins

/-- The first octet of a character with several begins the character. -/
theorem exists_begin_of_octets {c : Char} (wide : ¬ b < 0x80)
    (encoded : String.utf8EncodeChar c = b :: octets) :
    ∃ s n, begin? b = some s ∧ s.Completes octets n := by
  by_cases several : 0x80 ≤ c.val.toNat
  · obtain ⟨b', octets', s, encoded', -, begins, completes⟩ := exists_begin_of_char c several
    obtain ⟨rfl, rfl⟩ := List.cons.inj (encoded'.symm.trans encoded)
    exact ⟨s, _, begins, completes⟩
  · obtain ⟨b', ascii, -, encoded'⟩ := exists_ascii_of_char c (Nat.not_le.mp several)
    obtain ⟨rfl, -⟩ := List.cons.inj (encoded'.symm.trans encoded)
    exact absurd ascii wide

theorem inside_of_begin? (begins : begin? b = some s) : Inside [b] s := by
  refine ⟨List.cons_ne_nil b [], range_of_begin? begins, fun rest => ⟨?_, ?_⟩⟩
  · rintro ⟨n, completes⟩
    exact ⟨Char.ofNat n, utf8EncodeChar_of_completes begins completes⟩
  · rintro ⟨c, encoded⟩
    obtain ⟨s', n, begins', completes⟩ := exists_begin_of_octets (wide_of_begin? begins) encoded
    obtain rfl := Option.some.inj (begins'.symm.trans begins)
    exact ⟨n, completes⟩

/-- One octet more, unless it is the last one. -/
theorem Inside.step {read : Bytes} (inside : Inside read s) (carries : s.low ≤ b ∧ b ≤ s.high)
    (more : ¬ s.wanted ≤ 1) :
    Inside (read ++ [b]) ⟨s.value * 64 + (b.toNat - 0x80), s.wanted - 1, 0x80, 0xBF⟩ := by
  have range : (0x80 : UInt8) ≤ 0xBF := by decide
  refine ⟨List.append_ne_nil_of_right_ne_nil read (List.cons_ne_nil b []), range, fun rest => ?_⟩
  rw [List.append_assoc, List.singleton_append, ← inside.completes_iff]
  simp only [Begun.Completes, carries, if_neg more, true_and]

/-- Each sequence that has begun can be carried on to an end. -/
theorem exists_completes {value wanted : Nat} {low high : UInt8} (range : low ≤ high) :
    ∃ rest n, Begun.Completes ⟨value, wanted, low, high⟩ rest n := by
  induction wanted generalizing value low high with
  | zero => exact ⟨[low], _, UInt8.le_refl low, range, rfl, rfl⟩
  | succ wanted ih =>
    have first : low ≤ low ∧ low ≤ high := ⟨UInt8.le_refl low, range⟩
    cases wanted with
    | zero => exact ⟨[low], _, completes_of_wanted_one.mpr ⟨low, rfl, first, rfl⟩⟩
    | succ wanted =>
      have later : (0x80 : UInt8) ≤ 0xBF := by decide
      obtain ⟨rest, n, completes⟩ := @ih (value * 64 + (low.toNat - 0x80)) 0x80 0xBF later
      exact ⟨low :: rest, n, completes_of_wanted_more.mpr ⟨low, rest, rfl, first, completes⟩⟩

/-- The octets of a sequence that the decoder is inside of begin a character and are none. -/
theorem Inside.exists_char {read : Bytes} (inside : Inside read s) :
    ∃ c more, more ≠ [] ∧ String.utf8EncodeChar c = read ++ more := by
  obtain ⟨more, n, completes⟩ := exists_completes inside.range
  obtain ⟨c, encoded⟩ := (inside.completes_iff more).mp ⟨n, completes⟩
  refine ⟨c, more, ?_, encoded⟩
  rintro rfl
  cases completes

/-- A sequence is broken where nothing that follows carries it on. -/
theorem Inside.breaks {read : Bytes} (inside : Inside read s)
    (stops : ∀ more, more <+: rest → more ≠ [] → ¬ Starts (read ++ more)) : Breaks read rest := by
  obtain ⟨c', others, some_others, encoded'⟩ := inside.exists_char
  have begins' : read <+: String.utf8EncodeChar c' := encoded' ▸ List.prefix_append read others
  -- a character that ends within the sequence would begin the one that the sequence begins
  have outside (c : Char) : ¬ String.utf8EncodeChar c <+: read := by
    intro short
    obtain rfl := eq_of_prefix_utf8EncodeChar (short.trans begins')
    have length := short.length_le
    have positive := List.length_pos_iff.mpr some_others
    rw [encoded', List.length_append] at length
    omega
  refine ⟨fun c begins => ?_, inside.filled, .inr ⟨c', begins'⟩, stops⟩
  rcases List.prefix_or_prefix_of_prefix begins (List.prefix_append read rest) with short | long
  · exact outside c short
  · obtain ⟨more, encoded⟩ := long
    have follows : more <+: rest := by
      rwa [← encoded, List.prefix_append_right_inj] at begins
    refine stops more follows ?_ ⟨c, encoded ▸ List.prefix_rfl⟩
    rintro rfl
    rw [List.append_nil] at encoded
    exact outside c (encoded ▸ List.prefix_rfl)

/-- What follows octets that the decoder is inside of makes a character of them, or they and some
of what follows are broken, and the decoder goes on behind these as from the beginning. -/
theorem Inside.exists_end {read : Bytes} (inside : Inside read s) (done : List Piece)
    (bytes : Bytes) :
    (∃ c rest, read ++ bytes = String.utf8EncodeChar c ++ rest) ∨
      ∃ front rest, read ++ bytes = front ++ rest ∧ Breaks front rest ∧
        (bytes.foldl Decoder.step ⟨some s, done⟩).finish =
          done.reverse ++ .broken :: pieces rest := by
  induction bytes generalizing read s with
  | nil =>
    refine .inr ⟨read, [], rfl, inside.breaks fun more none some_more => ?_, ?_⟩
    · exact absurd (List.prefix_nil.mp none) some_more
    · exact List.reverse_cons
  | cons b rest ih =>
    by_cases carries : s.low ≤ b ∧ b ≤ s.high
    · by_cases last : s.wanted ≤ 1
      · have completes : ∃ n, s.Completes [b] n := by
          simp [Begun.Completes, carries, last]
        obtain ⟨c, encoded⟩ := (inside.completes_iff [b]).mp completes
        exact .inl ⟨c, rest, by rw [encoded, List.append_assoc, List.singleton_append]⟩
      · have later := ih (inside.step carries last)
        rw [List.append_assoc, List.singleton_append] at later
        rw [List.foldl_cons, Decoder.step]
        simp only [if_pos carries, if_neg last]
        exact later
    · refine .inr ⟨read, b :: rest, rfl, inside.breaks fun more follows some_more => ?_, ?_⟩
      · rintro ⟨c, others, encoded⟩
        obtain ⟨next, more, rfl⟩ := List.exists_cons_of_ne_nil some_more
        obtain ⟨rfl, -⟩ := List.cons_prefix_cons.mp follows
        rw [List.append_assoc] at encoded
        obtain ⟨n, above, below, -⟩ := (inside.completes_iff _).mpr ⟨c, encoded.symm⟩
        exact carries ⟨above, below⟩
      · have again : Decoder.step ⟨some s, done⟩ b = Decoder.step ⟨none, .broken :: done⟩ b :=
          if_neg carries
        rw [List.foldl_cons, again, ← List.foldl_cons, finish_foldl, List.reverse_cons,
          List.append_assoc, List.singleton_append]

/-! ## The decoder -/

/-- An octet that is no character and begins none is broken by itself. -/
theorem breaks_of_begin? (wide : ¬ b < 0x80) (begins : begin? b = none) (rest : Bytes) :
    Breaks [b] rest := by
  have outside (c : Char) (octets : Bytes) : String.utf8EncodeChar c ≠ b :: octets := by
    intro encoded
    obtain ⟨s, n, begins', -⟩ := exists_begin_of_octets wide encoded
    rw [begins] at begins'
    cases begins'
  refine ⟨fun c stands => ?_, List.cons_ne_nil b [], .inl rfl, fun more _ _ starts => ?_⟩
  · obtain ⟨first, octets, encoded⟩ := List.exists_cons_of_ne_nil (utf8EncodeChar_ne_nil c)
    rw [encoded, List.singleton_append, List.cons_prefix_cons] at stands
    exact outside c octets (stands.1 ▸ encoded)
  · obtain ⟨c, others, encoded⟩ := starts
    exact outside c _ encoded.symm

theorem shows_char {c : Char} (same : bytes = String.utf8EncodeChar c ++ rest)
    (later : Shows rest ((pieces rest).map Piece.char)) :
    Shows bytes ((pieces bytes).map Piece.char) := by
  have first := pieces_chars_append [c] rest
  rw [List.flatMap_singleton, ← same] at first
  rw [first, same]
  exact .char c later

theorem shows_broken (same : bytes = front ++ rest) (breaks : Breaks front rest)
    (cut : pieces bytes = .broken :: pieces rest)
    (later : Shows rest ((pieces rest).map Piece.char)) :
    Shows bytes ((pieces bytes).map Piece.char) := by
  rw [cut, same]
  exact .broken breaks later

/-- Octets are shown as the decoder reads them. -/
theorem shows_pieces (bytes : Bytes) : Shows bytes ((pieces bytes).map Piece.char) := by
  induction length : bytes.length using Nat.strongRecOn generalizing bytes with
  | ind n ih =>
    subst length
    have shorter {front rest : Bytes} (same : bytes = front ++ rest) (filled : front ≠ []) :
        Shows rest ((pieces rest).map Piece.char) := by
      refine ih rest.length ?_ rest rfl
      have positive := List.length_pos_iff.mpr filled
      rw [same, List.length_append]
      omega
    cases bytes with
    | nil => exact .nothing
    | cons b tail =>
      by_cases ascii : b < 0x80
      · have char : b :: tail = String.utf8EncodeChar (Char.ofNat b.toNat) ++ tail := by
          rw [utf8EncodeChar_ascii ascii]
          rfl
        exact shows_char char (shorter char (utf8EncodeChar_ne_nil _))
      cases begins : begin? b with
      | none =>
        have cut : pieces (b :: tail) = .broken :: pieces tail := by
          rw [pieces, List.foldl_cons, Decoder.step]
          simp only [Decoder.start, if_neg ascii, begins]
          exact finish_foldl [.broken] tail
        have breaks := breaks_of_begin? ascii begins tail
        exact shows_broken rfl breaks cut (shorter rfl breaks.nonempty)
      | some s =>
        have begun : Decoder.step ⟨none, []⟩ b = ⟨some s, []⟩ := by
          simp only [Decoder.step, Decoder.start, if_neg ascii, begins]
        rcases (inside_of_begin? begins).exists_end [] tail with
          ⟨c, rest, same⟩ | ⟨front, rest, same, breaks, cut⟩
        · exact shows_char same (shorter same (utf8EncodeChar_ne_nil c))
        · rw [← begun] at cut
          exact shows_broken same breaks cut (shorter same breaks.nonempty)

/-- **Octets are shown as what they are decoded to.** -/
theorem shows_iff : Shows bytes chars ↔ chars = (decodeLossy bytes).toList := by
  have shows := shows_pieces bytes
  rw [decodeLossy, String.toList_ofList]
  exact ⟨fun shows' => shows'.unique shows, fun same => same ▸ shows⟩

/-! ## Octets below `0x80` -/

/-- An octet below `0x80` is a part of its own character only. -/
theorem count_utf8EncodeChar (ascii : b < 0x80) (c : Char) :
    (String.utf8EncodeChar c).count b = if c = Char.ofNat b.toNat then 1 else 0 := by
  have single := utf8EncodeChar_ascii ascii
  split
  case isTrue same => rw [same, single, List.count_singleton_self]
  case isFalse other =>
    refine List.count_eq_zero.mpr fun mem => ?_
    rcases utf8EncodeChar_cases c with ⟨octet, -, same, encoded⟩ | high
    · rw [encoded, List.mem_singleton] at mem
      exact other (mem ▸ same)
    · exact absurd ascii (UInt8.not_lt.mpr (high b mem))

theorem count_encode (ascii : b < 0x80) (text : String) :
    (encode text).count b = text.toList.count (Char.ofNat b.toNat) := by
  unfold encode
  induction text.toList with
  | nil => rfl
  | cons c chars ih =>
    rw [List.flatMap_cons, List.count_append, ih, count_utf8EncodeChar ascii, List.count_cons,
      Nat.add_comm]
    simp only [beq_iff_eq]

/-- What is broken are octets of longer characters. -/
theorem Breaks.high (breaks : Breaks front rest) : ∀ b ∈ front, 0x80 ≤ b := by
  intro b mem
  refine UInt8.not_lt.mp fun ascii => ?_
  -- an octet below `0x80` at the front would be a character that stands there
  have alone : front ≠ [b] := by
    rintro rfl
    refine breaks.no_char (Char.ofNat b.toNat) ?_
    rw [utf8EncodeChar_ascii ascii]
    exact List.prefix_append [b] rest
  rcases breaks.starts with single | ⟨c, begins⟩
  · obtain ⟨first, rfl⟩ := List.length_eq_one_iff.mp single
    rw [List.mem_singleton.mp mem] at alone
    exact alone rfl
  · rcases utf8EncodeChar_cases c with ⟨octet, -, -, encoded⟩ | high
    · rw [encoded] at begins
      obtain ⟨more, rfl, none⟩ := (List.prefix_cons_iff.mp begins).resolve_left breaks.nonempty
      rw [List.prefix_nil.mp none] at alone mem
      exact alone (congrArg (fun octet => [octet]) (List.mem_singleton.mp mem).symm)
    · exact absurd ascii (UInt8.not_lt.mpr (high b (begins.subset mem)))

/-- **An octet below `0x80` is shown as its character**, as often as it is there, whatever is
broken around it. -/
theorem Shows.count_eq (ascii : b < 0x80) (shows : Shows bytes chars) :
    chars.count (Char.ofNat b.toNat) = bytes.count b := by
  induction shows with
  | nothing => rfl
  | char c later ih =>
    rw [List.count_append, count_utf8EncodeChar ascii, List.count_cons, ih, Nat.add_comm]
    simp only [beq_iff_eq]
  | @broken front rest chars breaks later ih =>
    have none : front.count b = 0 :=
      List.count_eq_zero.mpr fun mem => absurd ascii (UInt8.not_lt.mpr (breaks.high b mem))
    have other : '\uFFFD' ≠ Char.ofNat b.toNat := by
      intro same
      have single := congrArg List.length (utf8EncodeChar_ascii ascii)
      rw [← same, List.length_singleton] at single
      exact absurd single (by decide)
    rw [List.count_append, none, Nat.zero_add, List.count_cons_of_ne other, ih]

end MessagingConsole.Utf8
