import MessagingConsole.Proofs.Publisher.Broadcast

/-!
# Which contents are broadcasts

A content is looked at without one line end.  It is a broadcast if what is left is printable and
short, and the first octet that is not printable is reported before the length is.  A broadcast
has one octet for each character, and three contents: itself, and itself with either line end.

## Main Definitions

- `IsBody` - what a content has in front of its line end.

## Main Results

- `isBody_iff` - the body of a content is what it has in front of its line end.
- `ofContent_outcome` - what a content is taken for, and which contents are taken for the same.
-/

namespace MessagingConsole.Publisher.Broadcast

/-- What a content has in front of CR LF if it ends with that, else in front of LF if it ends with
that, else all of it. -/
inductive IsBody : (raw body : Bytes) → Prop
  | crLf (body : Bytes) : IsBody (body ++ [13, 10]) body
  | lf (body : Bytes) (alone : ¬ [13, 10] <:+ body ++ [10]) : IsBody (body ++ [10]) body
  | unended (raw : Bytes) (open_end : ¬ [10] <:+ raw) : IsBody raw raw

variable {raw content line : Bytes} {b : UInt8} {text : String} {offset : Nat}

/-! ## Bodies -/

theorem body_crLf (line : Bytes) : body (line ++ [13, 10]) = line := by
  simp [body]

theorem body_lf (alone : ¬ [13, 10] <:+ line ++ [10]) : body (line ++ [10]) = line := by
  unfold body
  rw [List.reverse_append]
  split
  case h_1 rest reversed =>
    obtain ⟨-, behind⟩ := List.cons.inj reversed
    have ends : line = rest.reverse ++ [13] := by simpa using behind
    refine absurd ⟨rest.reverse, ?_⟩ alone
    rw [ends, List.append_assoc]
    rfl
  case h_2 rest _ reversed =>
    obtain ⟨-, behind⟩ := List.cons.inj reversed
    simpa using congrArg List.reverse behind.symm
  case h_3 other => exact absurd rfl (other line.reverse)

theorem body_unended (open_end : ¬ [10] <:+ raw) : body raw = raw := by
  have other (rest : Bytes) : raw.reverse ≠ 10 :: rest := by
    intro reversed
    have ends : raw = rest.reverse ++ [10] := by simpa using congrArg List.reverse reversed
    exact open_end ⟨rest.reverse, ends.symm⟩
  unfold body
  split
  case h_1 rest reversed => exact absurd reversed (other (13 :: rest))
  case h_2 rest _ reversed => exact absurd reversed (other rest)
  case h_3 => rfl

/-- The body of a content is what it has in front of its line end. -/
theorem isBody_iff : IsBody raw line ↔ line = body raw := by
  constructor
  · intro is_body
    cases is_body with
    | crLf => exact (body_crLf line).symm
    | lf _ alone => exact (body_lf alone).symm
    | unended _ open_end => exact (body_unended open_end).symm
  · rintro rfl
    by_cases crLf : [13, 10] <:+ raw
    · obtain ⟨line, rfl⟩ := crLf
      rw [body_crLf]
      exact .crLf line
    by_cases lf : [10] <:+ raw
    · obtain ⟨line, rfl⟩ := lf
      rw [body_lf crLf]
      exact .lf line crLf
    · rw [body_unended lf]
      exact .unended raw lf

theorem prefix_body (raw : Bytes) : body raw <+: raw := by
  obtain ⟨lineEnd, -, same⟩ := exists_lineEnd raw
  exact ⟨lineEnd, same.symm⟩

/-! ## Outcomes -/

theorem isPrintable_iff : isPrintable b ↔ 0x20 ≤ b ∧ b ≤ 0x7E := by
  simp [isPrintable]

theorem findIdx?_unprintable_eq_none_iff {bytes : Bytes} :
    bytes.findIdx? (! isPrintable ·) = none ↔ ∀ b ∈ bytes, isPrintable b := by
  simp

/-- The ways to judge a content: by an octet, by its length, and as a broadcast, which has the
octets of the body as its characters. -/
theorem ofContent_cases (raw : Bytes) :
    (∃ offset, (body raw).findIdx? (! isPrintable ·) = some offset ∧
      ofContent raw = .error (.notPrintable offset)) ∨
    ((∀ b ∈ body raw, isPrintable b) ∧ maxLength < (body raw).length ∧
      ofContent raw = .error (.tooLong (body raw).length maxLength)) ∨
    ((∀ b ∈ body raw, isPrintable b) ∧ (body raw).length ≤ maxLength ∧
      ofContent raw = .ok (String.ofList ((body raw).map fun b => Char.ofNat b.toNat))) := by
  unfold ofContent
  dsimp only
  split
  case h_1 offset found => exact .inl ⟨offset, found, rfl⟩
  case h_2 none =>
    have printable := findIdx?_unprintable_eq_none_iff.mp none
    split
    case isTrue long => exact .inr (.inl ⟨printable, long, rfl⟩)
    case isFalse short => exact .inr (.inr ⟨printable, Nat.not_lt.mp short, rfl⟩)

/-- A content is taken for a text if that is its body, which is printable and short. -/
theorem ofContent_eq_ok_iff : ofContent raw = .ok text ↔
    (∀ b ∈ body raw, isPrintable b) ∧ (body raw).length ≤ maxLength ∧
      Utf8.encode text = body raw := by
  constructor
  · intro accepted
    obtain ⟨octets, printable, short⟩ := ofContent_eq_ok accepted
    exact ⟨printable, short, octets⟩
  · rintro ⟨printable, short, octets⟩
    rcases ofContent_cases raw with ⟨offset, found, -⟩ | ⟨-, long, -⟩ | ⟨-, -, accepted⟩
    · rw [findIdx?_unprintable_eq_none_iff.mpr printable] at found
      cases found
    · exact absurd short (Nat.not_le.mpr long)
    · obtain ⟨octets', -⟩ := ofContent_eq_ok accepted
      rw [accepted, Utf8.encode_inj.mp (octets'.trans octets.symm)]

/-- An offset is reported if it is that of the first octet of the body that is not printable. -/
theorem ofContent_eq_notPrintable_iff : ofContent raw = .error (.notPrintable offset) ↔
    (body raw).findIdx? (! isPrintable ·) = some offset := by
  rcases ofContent_cases raw with
    ⟨first, found, outcome⟩ | ⟨printable, -, outcome⟩ | ⟨printable, -, outcome⟩
  · simp [outcome, found]
  all_goals
    rw [outcome, findIdx?_unprintable_eq_none_iff.mpr printable]
    simp

/-- A length is reported if it is that of a body that is printable, and too long. -/
theorem ofContent_eq_tooLong_iff {length max : Nat} :
    ofContent raw = .error (.tooLong length max) ↔
      (∀ b ∈ body raw, isPrintable b) ∧ maxLength < (body raw).length ∧
        length = (body raw).length ∧ max = maxLength := by
  rcases ofContent_cases raw with
    ⟨first, found, outcome⟩ | ⟨printable, long, outcome⟩ | ⟨-, short, outcome⟩
  · rw [outcome, ← findIdx?_unprintable_eq_none_iff, found]
    simp
  · rw [outcome]
    constructor
    · intro same
      cases same
      exact ⟨printable, long, rfl, rfl⟩
    · rintro ⟨-, -, rfl, rfl⟩
      rfl
  · simp [outcome, Nat.not_lt.mpr short]

/-- No other fault is found in a content. -/
theorem fault_of_ofContent {fault : BroadcastFault} (refused : ofContent raw = .error fault) :
    (∃ offset, fault = .notPrintable offset) ∨ ∃ length max, fault = .tooLong length max := by
  rcases ofContent_cases raw with ⟨offset, -, outcome⟩ | ⟨-, -, outcome⟩ | ⟨-, -, outcome⟩
  · exact .inl ⟨offset, Except.error.inj (refused.symm.trans outcome)⟩
  · exact .inr ⟨_, _, Except.error.inj (refused.symm.trans outcome)⟩
  · cases refused.symm.trans outcome

/-- The offset of the first octet of the body that is not printable, said of the content. -/
theorem findIdx?_body_iff : (body raw).findIdx? (! isPrintable ·) = some offset ↔
    offset < (body raw).length ∧ (∃ b, raw[offset]? = some b ∧ ¬ isPrintable b) ∧
      ∀ i < offset, ∃ b, raw[i]? = some b ∧ isPrintable b := by
  have octet {i : Nat} (inside : i < (body raw).length) : raw[i]? = some (body raw)[i] := by
    have within := Nat.lt_of_lt_of_le inside (prefix_body raw).length_le
    rw [List.getElem?_eq_getElem within, (prefix_body raw).getElem inside]
  rw [List.findIdx?_eq_some_iff_getElem]
  constructor
  · rintro ⟨inside, unprintable, earlier⟩
    refine ⟨inside, ⟨_, octet inside, by simpa using unprintable⟩, fun i before => ?_⟩
    exact ⟨_, octet (Nat.lt_trans before inside), by simpa using earlier i before⟩
  · rintro ⟨inside, ⟨b, at_offset, unprintable⟩, earlier⟩
    obtain rfl := Option.some.inj ((octet inside).symm.trans at_offset)
    refine ⟨inside, by simpa using unprintable, fun i before => ?_⟩
    obtain ⟨c, at_i, printable⟩ := earlier i before
    obtain rfl := Option.some.inj ((octet (Nat.lt_trans before inside)).symm.trans at_i)
    simpa using printable

/-! ## Contents of a broadcast -/

/-- A printable body has three contents: it may go without a line end or have either one. -/
theorem body_eq_iff (printable : ∀ b ∈ line, isPrintable b) :
    body content = line ↔
      content = line ∨ content = line ++ [10] ∨ content = line ++ [13, 10] := by
  have unending {b : UInt8} (control : ¬ isPrintable b) : ¬ [b] <:+ line := by
    rintro ⟨front, rfl⟩
    exact control (printable b (List.mem_append_right front (List.mem_singleton_self b)))
  constructor
  · rintro rfl
    obtain ⟨lineEnd, among, same⟩ := exists_lineEnd content
    simp only [lineEnds, List.mem_cons, List.not_mem_nil, or_false] at among
    rcases among with rfl | rfl | rfl
    · exact .inl (by simpa using same)
    · exact .inr (.inl same)
    · exact .inr (.inr same)
  · rintro (rfl | rfl | rfl)
    · exact body_unended (unending (by decide))
    · refine body_lf fun ends => ?_
      obtain ⟨front, same⟩ := ends
      have cr : [13] <:+ line := ⟨front, (List.append_left_inj [10]).mp (by simpa using same)⟩
      exact unending (by decide) cr
    · exact body_crLf line

theorem ofContent_eq_iff (accepted : ofContent raw = .ok text) :
    ofContent content = .ok text ↔
      content = body raw ∨ content = body raw ++ [10] ∨ content = body raw ++ [13, 10] := by
  obtain ⟨printable, short, octets⟩ := ofContent_eq_ok_iff.mp accepted
  rw [ofContent_eq_ok_iff, ← body_eq_iff printable]
  constructor
  · rintro ⟨-, -, octets'⟩
    rw [← octets', octets]
  · intro same
    rw [same]
    exact ⟨printable, short, octets⟩

/-- A broadcast has a character for each octet of the body. -/
theorem length_of_ofContent (accepted : ofContent raw = .ok text) :
    text.length = (body raw).length := by
  rcases ofContent_cases raw with ⟨offset, -, outcome⟩ | ⟨-, -, outcome⟩ | ⟨-, -, outcome⟩
  · cases accepted.symm.trans outcome
  · cases accepted.symm.trans outcome
  · obtain rfl := Except.ok.inj (accepted.symm.trans outcome)
    rw [String.length_ofList, List.length_map]

/-- **What a content is taken for.**  Without its line end it is a broadcast if it is printable and
short; else the first octet that is not printable is reported, and the length only if there is
none.  A broadcast has a character for each octet, and it is that of three contents. -/
theorem ofContent_outcome (raw : Bytes) :
    ∃ line, (∀ other, IsBody raw other ↔ other = line) ∧
      (∀ text, ofContent raw = .ok text ↔
        (∀ b ∈ line, 0x20 ≤ b ∧ b ≤ 0x7E) ∧ line.length ≤ 120 ∧ Utf8.encode text = line) ∧
      (∀ offset, ofContent raw = .error (.notPrintable offset) ↔
        offset < line.length ∧ (∃ b, raw[offset]? = some b ∧ ¬ (0x20 ≤ b ∧ b ≤ 0x7E)) ∧
          ∀ i < offset, ∃ b, raw[i]? = some b ∧ 0x20 ≤ b ∧ b ≤ 0x7E) ∧
      (∀ length max, ofContent raw = .error (.tooLong length max) ↔
        (∀ b ∈ line, 0x20 ≤ b ∧ b ≤ 0x7E) ∧ 120 < line.length ∧
          length = line.length ∧ max = 120) ∧
      (∀ fault, ofContent raw = .error fault →
        (∃ offset, fault = .notPrintable offset) ∨ ∃ length max, fault = .tooLong length max) ∧
      ∀ text, ofContent raw = .ok text →
        text.length = (Utf8.encode text).length ∧
          ∀ content, ofContent content = .ok text ↔
            content = line ∨ content = line ++ [10] ∨ content = line ++ [13, 10] := by
  refine ⟨body raw, fun other => isBody_iff, ?_, ?_, ?_, fun fault => fault_of_ofContent, ?_⟩
  · simpa only [isPrintable_iff, maxLength] using fun text => @ofContent_eq_ok_iff raw text
  · intro offset
    rw [ofContent_eq_notPrintable_iff, findIdx?_body_iff]
    simp only [isPrintable_iff]
  · simpa only [isPrintable_iff, maxLength] using
      fun length max => @ofContent_eq_tooLong_iff raw length max
  · intro text accepted
    obtain ⟨octets, -⟩ := ofContent_eq_ok accepted
    rw [octets]
    exact ⟨length_of_ofContent accepted, fun content => ofContent_eq_iff accepted⟩

/-- A content that ends with CR LF is taken for what it has in front of it, as one that ends with
LF is, while what ends with both has a line feed in its body. -/
theorem ofContent_outcome_of_crLf :
    ofContent [0x6F, 0x6B, 13, 10] = .ok "ok" ∧ "ok".length = (Utf8.encode "ok").length ∧
      ofContent [0x6F, 0x6B, 10] = .ok "ok" ∧ ofContent [0x6F, 0x6B, 10, 13, 10] ≠ .ok "ok" ∧
      ofContent [0x6F, 0x6B, 10, 13, 10] = .error (.notPrintable 2) := by
  obtain ⟨line, body_iff, ok_iff, -, -, -, contents⟩ := ofContent_outcome [0x6F, 0x6B, 13, 10]
  have line_is : [0x6F, 0x6B] = line := (body_iff _).mp (.crLf [0x6F, 0x6B])
  subst line_is
  have accepted : ofContent [0x6F, 0x6B, 13, 10] = .ok "ok" :=
    (ok_iff "ok").mpr ⟨by simp, by decide, by decide⟩
  obtain ⟨lengths, same⟩ := contents "ok" accepted
  exact ⟨accepted, lengths, (same _).mpr (.inr (.inl rfl)),
    fun taken => absurd ((same _).mp taken) (by decide), rfl⟩

end MessagingConsole.Publisher.Broadcast
