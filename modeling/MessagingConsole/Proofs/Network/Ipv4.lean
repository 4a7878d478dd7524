import MessagingConsole.Network.Host
import MessagingConsole.Proofs.Text.Digits
import MessagingConsole.Proofs.Text.Parts

/-!
# Dotted forms are read back

The dotted form of an IPv4 address is read as this address, and a text with a colon is not read
as one.

## Main Definitions

- `IsAddressChar` - the characters that addresses are written with.

## Main Results

- `Ipv4.ofNumbers?_text`, `Ipv4.ofText?_text` - the dotted form of an address is read back.
- `Ipv4.ofNumbers?_of_colon` - a text with a colon is no IPv4 address.
-/

namespace MessagingConsole

/-- Addresses are written with digits, points and colons. -/
def IsAddressChar (c : Char) : Prop :=
  (Text.digit? c).isSome ∨ c = '.' ∨ c = ':'

instance (c : Char) : Decidable (IsAddressChar c) :=
  inferInstanceAs (Decidable (_ ∨ _))

/-- Nothing is read from a list with a part that cannot be read. -/
theorem mapM_eq_none_of_mem {α β : Type} {read : α → Option β} {parts : List α} {part : α}
    (mem : part ∈ parts) (unread : read part = none) : parts.mapM read = none := by
  induction parts with
  | nil => cases mem
  | cons first rest ih =>
    rw [List.mapM_cons]
    rcases List.mem_cons.mp mem with rfl | mem
    · rw [unread]
      rfl
    · rw [ih mem]
      cases read first <;> rfl

namespace Ipv4

variable {ip : Ipv4}

/-- The numbers of the octets. -/
def numbers (ip : Ipv4) : List Nat :=
  [ip.a.toNat, ip.b.toNat, ip.c.toNat, ip.d.toNat]

theorem toList_text (ip : Ipv4) :
    ip.text.toList = ['.'].intercalate (ip.numbers.map (Nat.toDigits 10)) := by
  simp [text, numbers, Text.decimal]

theorem pieces_text (ip : Ipv4) :
    Text.pieces '.' ip.text.toList = ip.numbers.map (Nat.toDigits 10) := by
  rw [toList_text]
  refine Text.pieces_intercalate (by simp [numbers]) (List.forall_mem_map.mpr fun n _ mem => ?_)
  exact absurd (Nat.isDigit_of_mem_toDigits (by decide) (by decide) mem) (by decide)

theorem eq_point_or_isDigit {c : Char} (mem : c ∈ ip.text.toList) : c = '.' ∨ c.isDigit := by
  by_cases point : c = '.'
  · exact .inl point
  · obtain ⟨piece, listed, inside⟩ := Text.exists_mem_pieces mem point
    rw [pieces_text] at listed
    obtain ⟨n, -, rfl⟩ := List.mem_map.mp listed
    exact .inr (Nat.isDigit_of_mem_toDigits (by decide) (by decide) inside)

theorem colon_notMem_text (ip : Ipv4) : ':' ∉ ip.text.toList := by
  intro mem
  rcases eq_point_or_isDigit mem with point | digit
  · exact absurd point (by decide)
  · exact absurd digit (by decide)

theorem isAddressChar_of_mem_text {c : Char} (mem : c ∈ ip.text.toList) : IsAddressChar c := by
  rcases eq_point_or_isDigit mem with point | digit
  · exact .inr (.inl point)
  · exact .inl (by simp [Text.digit?, digit])

/-! ## Reading -/

/-- Four numbers that octets hold are joined to one number of four octets. -/
theorem joined?_numbers (ip : Ipv4) : joined? 4 ip.numbers =
    some (((ip.a.toNat * 256 + ip.b.toNat) * 256 + ip.c.toNat) * 256 + ip.d.toNat) := by
  have octet (n : UInt8) : n.toNat < 256 := n.toNat_lt
  simp only [numbers, joined?, octet, ↓reduceIte, Option.map_some, Option.some.injEq]
  show ip.a.toNat * 16777216 + (ip.b.toNat * 65536 + (ip.c.toNat * 256 + ip.d.toNat)) = _
  omega

/-- The octets of that number are those of the address. -/
theorem ofNat_joined (ip : Ipv4) :
    ofNat (((ip.a.toNat * 256 + ip.b.toNat) * 256 + ip.c.toNat) * 256 + ip.d.toNat) = ip := by
  obtain ⟨a, b, c, d⟩ := ip
  have bounds := And.intro (And.intro a.toNat_lt b.toNat_lt) (And.intro c.toNat_lt d.toNat_lt)
  simp only [ofNat, mk.injEq, ← UInt8.toNat_inj, Nat.toUInt8_eq, UInt8.toNat_ofNat']
  omega

/-- **The dotted form of an address is read back.** -/
theorem ofNumbers?_text (ip : Ipv4) : ofNumbers? ip.text.toList = some ip := by
  have read : (ip.numbers.map (Nat.toDigits 10)).mapM Text.readNumeral? = some ip.numbers := by
    simp [numbers, Text.readNumeral?_toDigits]
  simp only [ofNumbers?, pieces_text, read, Option.bind_eq_bind, Option.bind_some,
    joined?_numbers, Option.map_eq_map, Option.map_some, ofNat_joined]

theorem ofText?_text (ip : Ipv4) : ofText? ip.text.toList = some ip := by
  simp [ofText?, ofNumbers?_text]

/-- A text with a colon is no address in numbers and dots. -/
theorem ofNumbers?_of_colon {text : List Char} (colon : ':' ∈ text) : ofNumbers? text = none := by
  have other : ':' ≠ '.' := by decide
  obtain ⟨piece, listed, inside⟩ := Text.exists_mem_pieces colon other
  have unread : Text.readNumeral? piece = none :=
    Text.readNumeral?_of_mem inside (by decide) (by decide)
  simp only [ofNumbers?, mapM_eq_none_of_mem listed unread, Option.bind_eq_bind, Option.bind_none]

/-- A dotted form has four digits and three points at least. -/
theorem seven_le_length_text (ip : Ipv4) : 7 ≤ ip.text.toList.length := by
  have digit (n : Nat) : 1 ≤ (Nat.toDigits 10 n).length :=
    List.length_pos_iff.mpr Nat.toDigits_ne_nil
  have a := digit ip.a.toNat
  have b := digit ip.b.toNat
  have c := digit ip.c.toNat
  have d := digit ip.d.toNat
  rw [toList_text]
  simp only [numbers, List.map_cons, List.map_nil, List.intercalate_cons_cons,
    List.intercalate_singleton, List.length_append, List.length_cons, List.length_nil]
  omega

end Ipv4

end MessagingConsole
