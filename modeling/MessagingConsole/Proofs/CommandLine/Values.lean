import MessagingConsole.Proofs.CommandLine.Ports
import MessagingConsole.Proofs.Text.Digits

/-!
# Ports and endpoints as values of arguments

A port is read from its decimal numeral, and an endpoint from its host, a colon and its port,
whatever colons the host has of its own.  No other port than one that can be reached is ever
read.  Where nothing can be read the argument is shown to the user, between quotes and without
any control character, so that the explanation stays on one line.

## Main Definitions

- `IsControl`, `IsPlain` - the control characters, and the texts without them.

## Main Results

- `readPort_decimal`, `Endpoint.ofArgument_address` - what is written is read back.
- `Endpoint.usable_of_ofArgument` - an endpoint that was read has a host and a port.
- `ArgumentFault.isPlain_message` - an explanation has no control characters.
-/

namespace MessagingConsole

/-- The control characters of Unicode, the line feed among them. -/
def IsControl (c : Char) : Prop :=
  c.toNat < 0x20 ∨ 0x7F ≤ c.toNat ∧ c.toNat < 0xA0

instance (c : Char) : Decidable (IsControl c) :=
  inferInstanceAs (Decidable (_ ∨ _))

/-- A text without control characters, so that it stays on one line. -/
def IsPlain (text : List Char) : Prop :=
  ∀ c ∈ text, ¬ IsControl c

instance (text : List Char) : Decidable (IsPlain text) :=
  List.decidableBAll (fun c => ¬ IsControl c) text

/-! ## Explanations -/

section Explanations

theorem isPlain_append {first second : List Char} :
    IsPlain (first ++ second) ↔ IsPlain first ∧ IsPlain second :=
  List.forall_mem_append

theorem isUnprintable_of_isControl {c : Char} (control : IsControl c) : Text.isUnprintable c := by
  -- The first two ranges of the table hold all control characters.
  obtain ⟨rest, table⟩ : ∃ rest, Text.unprintableRanges = (0x0, 0x1F) :: (0x7F, 0xA0) :: rest :=
    ⟨_, rfl⟩
  unfold Text.isUnprintable
  rw [table]
  rcases control with low | ⟨above, below⟩
  · have inside : c.toNat ≤ 0x1F := by omega
    simp [Text.inRanges, inside]
  · have first : ¬ c.toNat < 0x7F := by omega
    have second : c.toNat ≤ 0xA0 := by omega
    simp [Text.inRanges, first, second]

theorem isPlain_hexadecimal (n : Nat) : IsPlain (Nat.toDigits 16 n) := by
  have digit : ∀ d < 16, ¬ IsControl (Nat.digitChar d) := by decide
  exact Text.forall_mem_toDigits (by decide) digit n

/-- What stands for a character between quotes is plain. -/
theorem isPlain_escapeChar (c : Char) : IsPlain (Text.escapeChar c) := by
  unfold Text.escapeChar
  iterate 6
    split
    · decide
  split
  next =>
    rw [isPlain_append, isPlain_append]
    exact ⟨⟨by decide, isPlain_hexadecimal c.toNat⟩, by decide⟩
  next printable =>
    exact List.forall_mem_singleton.mpr fun control =>
      printable (isUnprintable_of_isControl control)

theorem isPlain_quoted (text : String) : IsPlain (Text.quoted text).toList := by
  have escaped : IsPlain (text.toList.flatMap Text.escapeChar) := by
    intro c mem
    obtain ⟨source, -, inside⟩ := List.mem_flatMap.mp mem
    exact isPlain_escapeChar source c inside
  rw [Text.quoted, String.toList_ofList, isPlain_append]
  exact ⟨List.forall_mem_cons.mpr ⟨by decide, escaped⟩, by decide⟩

theorem isPlain_explanation {before after : String} (argument : String)
    (front : IsPlain before.toList) (back : IsPlain after.toList) :
    IsPlain (before ++ Text.quoted argument ++ after).toList := by
  rw [String.toList_append, String.toList_append, isPlain_append, isPlain_append]
  exact ⟨⟨front, isPlain_quoted argument⟩, back⟩

/-- However an argument is spelled, what is wrong with it is said on one line. -/
theorem ArgumentFault.isPlain_message (fault : ArgumentFault) : IsPlain fault.message.toList := by
  cases fault with
  | invalidPort argument => exact isPlain_explanation argument (by decide) (by decide)
  | missingHost argument => exact isPlain_explanation argument (by decide) (by decide)

end Explanations

/-! ## Ports -/

theorem readPort_decimal {port : UInt16} (reachable : port ≠ 0) :
    readPort (Text.decimal port.toNat) = .ok port := by
  simpa using readPort_padded reachable 0

theorem ne_zero_of_readPort {argument : String} {port : UInt16}
    (read : readPort argument = .ok port) : port ≠ 0 :=
  (readPort_eq_ok_iff.mp read).2

/-! ## Endpoints -/

theorem forall_reverse_ne_colon {cs : List Char} (free : ':' ∉ cs) :
    ∀ c ∈ cs.reverse, decide (c ≠ ':') = true := by
  intro c mem
  rw [decide_eq_true_iff]
  rintro rfl
  exact free (List.mem_reverse.mp mem)

/-- The last colon is the one in front of a part without colons. -/
theorem splitAtLastColon?_append {host port : List Char} (free : ':' ∉ port) :
    splitAtLastColon? (host ++ ':' :: port) = some (host, port) := by
  have before := forall_reverse_ne_colon free
  unfold splitAtLastColon?
  simp only [List.reverse_append, List.reverse_cons, List.append_assoc, List.singleton_append]
  rw [List.dropWhile_append_of_pos before, List.takeWhile_append_of_pos before]
  simp

theorem colon_notMem_decimal (n : Nat) : ':' ∉ (Text.decimal n).toList := by
  intro mem
  rw [Text.decimal, String.toList_ofList] at mem
  exact absurd (Nat.isDigit_of_mem_toDigits (by decide) (by decide) mem) (by decide)

/-- An endpoint is read back from its address, if it has a host. -/
theorem Endpoint.ofArgument_address {e : Endpoint} (named : e.host ≠ "") (reachable : e.port ≠ 0)
    (defaultHost : String) : ofArgument e.address defaultHost = .ok e := by
  have free := colon_notMem_decimal e.port.toNat
  have split : splitAtLastColon? e.address.toList =
      some (e.host.toList, (Text.decimal e.port.toNat).toList) := by
    rw [← splitAtLastColon?_append free, address, String.toList_append, String.toList_append,
      List.append_assoc]
    rfl
  have host : e.host.toList ≠ [] := fun empty => named (String.toList_eq_nil_iff.mp empty)
  unfold ofArgument
  rw [split]
  split
  next empty => exact absurd (congrArg Prod.fst (Option.some.inj empty)) host
  next host' port' _ parts =>
    obtain ⟨rfl, rfl⟩ := Prod.mk.inj (Option.some.inj parts)
    rw [String.ofList_toList, String.ofList_toList, readPort_decimal reachable]
    rfl
  next none => cases none

/-- An endpoint that was read has a host and a port. -/
theorem Endpoint.usable_of_ofArgument {argument defaultHost : String} {e : Endpoint}
    (named : defaultHost ≠ "") (read : ofArgument argument defaultHost = .ok e) :
    e.host ≠ "" ∧ e.port ≠ 0 := by
  unfold ofArgument at read
  split at read
  next => cases read
  next host port filled _ =>
    cases reads : readPort (String.ofList port) with
    | error fault =>
      rw [reads] at read
      cases read
    | ok port =>
      rw [reads] at read
      obtain rfl := Except.ok.inj read
      refine ⟨fun empty => filled (String.ofList_eq_empty_iff.mp empty), ne_zero_of_readPort reads⟩
  next none =>
    cases reads : readPort argument with
    | error fault =>
      rw [reads] at read
      cases read
    | ok port =>
      rw [reads] at read
      obtain rfl := Except.ok.inj read
      exact ⟨named, ne_zero_of_readPort reads⟩

end MessagingConsole
