import MessagingConsole.Text.Utf8

/-!
# Console input

What the reads of a console bring, one delivery after the other.  A delivery of no
octets is an end of input that may be followed by more, as on a terminal; after the
last delivery every read meets the end.
-/

namespace MessagingConsole

/-- What one read of the console brings. -/
inductive Delivery where
  /-- Octets, over several reads if there are more than a read takes. -/
  | data (bytes : Bytes)
  /-- A read that fails. -/
  | fault (reason : String)
  /-- A read that never ends. -/
  | silence
  deriving DecidableEq, Repr

/-- How a read ends. -/
inductive ReadAnswer where
  | data (bytes : Bytes)
  | endOfInput
  | fault (reason : String)
  | silence
  deriving DecidableEq, Repr

/-- The deliveries of a console that are still to come. -/
abbrev Source := List Delivery

namespace Source

/-- Reads at most `room` octets, but at least one of those that are there. -/
def read (room : Nat) : Source → ReadAnswer × Source
  | [] => (.endOfInput, [])
  | .data [] :: rest => (.endOfInput, rest)
  | .data (b :: bytes) :: rest =>
    let later := bytes.drop (room - 1)
    (.data (b :: bytes.take (room - 1)), if later.isEmpty then rest else .data later :: rest)
  | .fault reason :: rest => (.fault reason, rest)
  | .silence :: rest => (.silence, .silence :: rest)

/-- The octets that are still to come. -/
def bytes (source : Source) : Bytes :=
  source.flatMap fun
    | .data bytes => bytes
    | _ => []

/-- A bound on the reads that bring something: one for each delivery and each octet. -/
def size : Source → Nat
  | [] => 0
  | .data bytes :: rest => bytes.length + 1 + size rest
  | _ :: rest => 1 + size rest

/-- A read that brings octets leaves a smaller source. -/
theorem size_read_lt {room : Nat} {source rest : Source} {now : Bytes}
    (h : source.read room = (.data now, rest)) : rest.size < source.size := by
  match source with
  | [] => simp [read] at h
  | .data [] :: _ => simp [read] at h
  | .fault _ :: _ => simp [read] at h
  | .silence :: _ => simp [read] at h
  | .data (b :: bytes) :: tail =>
    simp only [read, Prod.mk.injEq] at h
    obtain ⟨-, rfl⟩ := h
    split <;> simp only [size, List.length_cons, List.length_drop] <;> omega

end Source

end MessagingConsole
