/-!
# UTF-8

Octet strings and the texts they spell.  A decoder reads one octet at a time and
cuts its input into *pieces*: a whole scalar value, or a broken sequence, which is
the longest beginning of a scalar value that the input does not carry on.

## Main Definitions

- `Utf8.encode` - the octets of a text.
- `Utf8.pieces` - the cut of an octet string into pieces.
- `Utf8.decode?` - the text, if every piece is whole.
- `Utf8.decodeLossy` - the text with U+FFFD in the place of each broken piece.
-/

namespace MessagingConsole

/-- A string of octets, as consoles, files and transports carry it. -/
abbrev Bytes := List UInt8

namespace Utf8

/-- The octets of a text. -/
def encode (text : String) : Bytes :=
  text.toList.flatMap String.utf8EncodeChar

/-- A piece of an octet string. -/
inductive Piece where
  /-- A well-formed sequence. -/
  | scalar (c : Char)
  /-- The longest beginning of a well-formed sequence that is not carried on. -/
  | broken
  deriving DecidableEq, Repr

/-- Whether a piece is a well-formed sequence. -/
def Piece.isWhole : Piece → Bool
  | .scalar _ => true
  | .broken => false

/-- The character that stands for a piece: a broken one is shown as U+FFFD. -/
def Piece.char : Piece → Char
  | .scalar c => c
  | .broken => Char.ofNat 0xFFFD

/-- A sequence that has begun: the bits read so far, how many octets it still
wants, and the range that the next one has to lie in. -/
structure Begun where
  value : Nat
  wanted : Nat
  low : UInt8
  high : UInt8
  deriving DecidableEq, Repr

/-- What a leading octet of two or more begins.  The narrow ranges keep out
spellings that are longer than needed, surrogates and values past U+10FFFF. -/
def begin? (b : UInt8) : Option Begun :=
  if 0xC2 ≤ b ∧ b ≤ 0xDF then some ⟨b.toNat - 0xC0, 1, 0x80, 0xBF⟩
  else if b = 0xE0 then some ⟨0, 2, 0xA0, 0xBF⟩
  else if b = 0xED then some ⟨13, 2, 0x80, 0x9F⟩
  else if 0xE1 ≤ b ∧ b ≤ 0xEF then some ⟨b.toNat - 0xE0, 2, 0x80, 0xBF⟩
  else if b = 0xF0 then some ⟨0, 3, 0x90, 0xBF⟩
  else if 0xF1 ≤ b ∧ b ≤ 0xF3 then some ⟨b.toNat - 0xF0, 3, 0x80, 0xBF⟩
  else if b = 0xF4 then some ⟨4, 3, 0x80, 0x8F⟩
  else none

/-- The decoder between two octets: the sequence it is inside of, if any, and the
pieces so far, newest first. -/
structure Decoder where
  begun : Option Begun
  done : List Piece

/-- Reads an octet that begins a piece. -/
def Decoder.start (done : List Piece) (b : UInt8) : Decoder :=
  if b < 0x80 then ⟨none, .scalar (Char.ofNat b.toNat) :: done⟩
  else match begin? b with
    | some s => ⟨some s, done⟩
    | none => ⟨none, .broken :: done⟩

/-- Reads one octet.  One that does not carry a sequence on ends it as broken and
begins the next piece itself. -/
def Decoder.step (d : Decoder) (b : UInt8) : Decoder :=
  match d.begun with
  | none => start d.done b
  | some s =>
    if s.low ≤ b ∧ b ≤ s.high then
      let value := s.value * 64 + (b.toNat - 0x80)
      if s.wanted ≤ 1 then ⟨none, .scalar (Char.ofNat value) :: d.done⟩
      else ⟨some ⟨value, s.wanted - 1, 0x80, 0xBF⟩, d.done⟩
    else start (.broken :: d.done) b

/-- The pieces at the end of the input, where an open sequence is broken. -/
def Decoder.finish (d : Decoder) : List Piece :=
  match d.begun with
  | none => d.done.reverse
  | some _ => (.broken :: d.done).reverse

/-- The pieces of an octet string, in order. -/
def pieces (bytes : Bytes) : List Piece :=
  (bytes.foldl Decoder.step ⟨none, []⟩).finish

/-- The text of an octet string, each broken piece shown as U+FFFD. -/
def decodeLossy (bytes : Bytes) : String :=
  String.ofList ((pieces bytes).map Piece.char)

/-- The text of an octet string, if it is well formed. -/
def decode? (bytes : Bytes) : Option String :=
  let cut := pieces bytes
  if cut.all Piece.isWhole then some (String.ofList (cut.map Piece.char)) else none

end Utf8

end MessagingConsole
