import MessagingConsole.Text.Utf8

/-!
# The octets of a text

A text is determined by its octets, and ASCII texts have one octet for each character.
-/

namespace MessagingConsole.Utf8

/-- The octets of a text are those that the text is stored as. -/
theorem toByteArray_encode (text : String) :
    (encode text).toByteArray = text.toByteArray := by
  rw [← String.utf8Encode_toList]
  rfl

/-- Different texts have different octets. -/
theorem encode_inj {a b : String} : encode a = encode b ↔ a = b := by
  constructor
  · intro same
    apply String.toByteArray_inj.mp
    rw [← toByteArray_encode, same, toByteArray_encode]
  · rintro rfl
    rfl

theorem toNat_ofNat {n : Nat} (valid : n.isValidChar) : (Char.ofNat n).val.toNat = n := by
  rw [Char.ofNat, dif_pos valid]
  rfl

/-- An ASCII character is encoded as the one octet that it is. -/
theorem utf8EncodeChar_ascii {b : UInt8} (ascii : b < 0x80) :
    String.utf8EncodeChar (Char.ofNat b.toNat) = [b] := by
  have small : b.toNat < 0x80 := UInt8.lt_iff_toNat_lt.mp ascii
  have valid : b.toNat.isValidChar := .inl (by omega)
  unfold String.utf8EncodeChar
  simp only [toNat_ofNat valid]
  rw [if_pos (by omega)]
  simp

/-- Octets below `0x80` are the octets of the text that they are the characters of. -/
theorem encode_ofList_ascii {bytes : Bytes} (ascii : ∀ b ∈ bytes, b < 0x80) :
    encode (String.ofList (bytes.map fun b => Char.ofNat b.toNat)) = bytes := by
  unfold encode
  rw [String.toList_ofList, List.flatMap_map]
  induction bytes with
  | nil => rfl
  | cons b rest ih =>
    obtain ⟨first, others⟩ := List.forall_mem_cons.mp ascii
    rw [List.flatMap_cons, utf8EncodeChar_ascii first, ih others]
    rfl

end MessagingConsole.Utf8
