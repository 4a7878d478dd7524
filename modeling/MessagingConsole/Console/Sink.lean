import MessagingConsole.Text.Utf8

/-!
# Console output

An output that takes so many octets and flushes so many times, and then fails.  A write
that does not fit is taken in part.
-/

namespace MessagingConsole

/-- How a write ends. -/
inductive WriteAnswer where
  /-- Everything was taken. -/
  | whole
  /-- Only so many octets were taken before the output closed. -/
  | part (count : Nat)
  deriving DecidableEq, Repr

/-- An output. -/
structure Sink where
  /-- How many octets it still takes, if there is a limit. -/
  room : Option Nat
  /-- How many flushes still go through, if there is a limit. -/
  flushes : Option Nat
  deriving DecidableEq, Repr

namespace Sink

/-- An output that takes everything. -/
def unlimited : Sink := ⟨none, none⟩

/-- Writes octets.  Nothing can always be written. -/
def write (sink : Sink) (bytes : Bytes) : WriteAnswer × Sink :=
  match sink.room with
  | none => (.whole, sink)
  | some room =>
    if bytes.length ≤ room then (.whole, { sink with room := some (room - bytes.length) })
    else (.part room, { sink with room := some 0 })

/-- Flushes what was written, and tells whether that went through. -/
def flush (sink : Sink) : Bool × Sink :=
  match sink.flushes with
  | none => (true, sink)
  | some 0 => (false, sink)
  | some (n + 1) => (true, { sink with flushes := some n })

end Sink

end MessagingConsole
