import MessagingConsole.Console.Source
import MessagingConsole.Error

/-!
# Lines of the console

A reader cuts the console's input into lines.  A line ends at a line feed, and one
carriage return before it is dropped; at the end of input the rest is a line too,
unless it is empty or a lone carriage return.

A line of more than `maxLineLength` octets is an error, and what belongs to it is
thrown away as it arrives.  After any error the reader pauses: the next call finds the
end of input, and the one after that reads first before it looks at what is pending.

## Main Definitions

- `LineReader` - what was read and not yet returned, and how the reader stands.
- `LineReader.cut` - the next line of what is pending.
- `LineReader.next` - the next line, with as many reads as it needs.
-/

namespace MessagingConsole

/-- Why a line could not be read. -/
inductive LineFault where
  /-- Reading or decoding failed. -/
  | unreadable (reason : String)
  /-- The line is longer than `maxLineLength`. -/
  | tooLong
  deriving DecidableEq, Repr

/-- The error that a fault of a line ends a client with. -/
def LineFault.error : LineFault → Error
  | .unreadable reason => .console reason
  | .tooLong => .lineTooLong maxLineLength

/-- What a call for a line finds. -/
inductive LineAnswer where
  | line (text : String)
  | endOfInput
  | fault (fault : LineFault)
  /-- Nothing arrives any more, and the client is shut down. -/
  | interrupted
  deriving DecidableEq, Repr

/-- A reader of lines. -/
structure LineReader where
  /-- The octets that were read and do not belong to a line returned already. -/
  pending : Bytes
  /-- The size of the buffer. -/
  capacity : Nat
  /-- The octets of the buffer in front of the pending ones, free for use again. -/
  spent : Nat
  /-- Whether the pending octets belong to a line that is thrown away. -/
  discarding : Bool
  /-- Whether the pending octets may hold a line that was not looked for yet. -/
  readable : Bool
  /-- Whether the last read met the end of input. -/
  atEnd : Bool
  /-- Whether the last call ended with an error. -/
  faulted : Bool
  deriving DecidableEq, Repr

namespace LineReader

/-- A reader that has read nothing. -/
def fresh : LineReader :=
  { pending := [], capacity := 8192, spent := 0, discarding := false, readable := false
    atEnd := false, faulted := false }

/-- The octet that ends a line. -/
def lineFeed : UInt8 := 10

/-- The octet that is dropped before a line feed. -/
def carriageReturn : UInt8 := 13

/-- The octets of a line without one carriage return at their end. -/
def dropReturn (line : Bytes) : Bytes :=
  if line.getLast? = some carriageReturn then line.dropLast else line

/-- What looking for a line among the pending octets finds. -/
inductive Finding where
  | line (text : String)
  | fault (fault : LineFault)
  /-- There is no whole line. -/
  | nothing
  deriving DecidableEq, Repr

/-- The text of a line. -/
def decodeLine (line : Bytes) : Finding :=
  match Utf8.decode? (dropReturn line) with
  | some text => .line text
  | none => .fault (.unreadable "Unable to decode input as UTF8")

/-- The reader after `count` pending octets were used up, of which `rest` is left. -/
def advance (r : LineReader) (count : Nat) (rest : Bytes) : LineReader :=
  { r with pending := rest, spent := r.spent + count }

/-- Cuts the next line off the pending octets. -/
def cutLine (r : LineReader) : Finding × LineReader :=
  let (line, rest) := r.pending.span (· ≠ lineFeed)
  if maxLineLength < line.length then (.fault .tooLong, { r with discarding := true })
  else match rest with
    | [] => (.nothing, r)
    | _ :: rest => (decodeLine line, r.advance (line.length + 1) rest)

/-- Cuts the next line off, past a line that is thrown away. -/
def cut (r : LineReader) : Finding × LineReader :=
  if r.discarding then
    let (dropped, rest) := r.pending.span (· ≠ lineFeed)
    match rest with
    | [] => (.nothing, r.advance dropped.length [])
    | _ :: rest => cutLine { r.advance (dropped.length + 1) rest with discarding := false }
  else r.cutLine

/-- Cuts the next line off when the input has ended: the rest is a line unless it is
empty or a lone carriage return. -/
def cutAtEnd (r : LineReader) : Finding × LineReader :=
  match r.cut with
  | (.nothing, r) =>
    if r.pending = [] ∨ r.pending = [carriageReturn] then (.nothing, r)
    else (decodeLine r.pending, r.advance r.pending.length [])
  | found => found

/-- The reader with room in its buffer: if there is none, the pending octets move to
the front when the spent ones leave enough space for them, else the buffer doubles. -/
def makeRoom (r : LineReader) : LineReader :=
  if r.spent + r.pending.length < r.capacity then r
  else if 1 ≤ r.spent ∧ r.pending.length ≤ r.spent then { r with spent := 0 }
  else { r with capacity := r.capacity * 2 }

/-- How many octets the next read may bring. -/
def room (r : LineReader) : Nat :=
  r.capacity - (r.spent + r.pending.length)

/-- The reader after a read that brought octets. -/
def fill (r : LineReader) (bytes : Bytes) : LineReader :=
  { r with pending := r.pending ++ bytes, atEnd := false, readable := true }

/-- The answer to a finding that ends a call, and the reader it leaves: one that finds
nothing has to read before it looks again. -/
def answer : Finding × LineReader → LineAnswer × LineReader
  | (.line text, r) => (.line text, r)
  | (.fault fault, r) => (.fault fault, { r with faulted := true })
  | (.nothing, r) => (.endOfInput, { r with readable := false })

/-- Reads until there is an answer. -/
def fetch (r : LineReader) (source : Source) : (LineAnswer × LineReader) × Source :=
  let r := r.makeRoom
  match _h : source.read r.room with
  | (.data bytes, rest) =>
    match (r.fill bytes).cut with
    | (.nothing, r) => ({ r with readable := false } : LineReader).fetch rest
    | found => (answer found, rest)
  | (.endOfInput, rest) =>
    if r.atEnd then ((.endOfInput, r), rest)
    else (answer { r with atEnd := true, readable := true }.cutAtEnd, rest)
  | (.fault reason, rest) =>
    ((.fault (.unreadable reason), { r with faulted := true }), rest)
  | (.silence, rest) => ((.interrupted, r), rest)
termination_by source.size
decreasing_by exact Source.size_read_lt _h

/-- The next line. -/
def next (r : LineReader) (source : Source) : (LineAnswer × LineReader) × Source :=
  if r.faulted then ((.endOfInput, { r with faulted := false, readable := false }), source)
  else if r.readable then
    if r.atEnd then (answer r.cutAtEnd, source)
    else match r.cut with
      | (.nothing, r) => ({ r with readable := false } : LineReader).fetch source
      | found => (answer found, source)
  else r.fetch source

end LineReader

end MessagingConsole
