import Mathlib.Algebra.Order.BigOperators.Group.List
import Mathlib.Algebra.Order.Ring.Nat
import MessagingConsole.Proofs.Subscriber.Delivery
import MessagingConsole.Proofs.Text.Lossy
import MessagingConsole.Proofs.Text.Numerals

/-!
# The lines of an output

A message is printed as a text and a line feed, and nothing else is printed.  But the text is the
publisher's: decoding it keeps every line feed that is among the octets, and a stamp adds none.
So an output has a line feed for each message and one for each of the messages' own, and it falls
apart into the messages at its line feeds exactly if these have none.

## Main Definitions

- `LineFormat.body` - the text that a message is printed as, without the line feed behind it.
- `PrintsLines` - some lines and nothing else were printed.

## Main Results

- `LineFormat.count_body` - the line feeds of a message are all printed.
- `Subscriber.lineFeeds_of_printed` - the line feeds of an output.
-/

namespace MessagingConsole

/-- Some lines were printed and counted, each with one line feed, which ends it. -/
structure PrintsLines (lines : List String) (t : Transcript) (value : Except Error Nat) :
    Prop where
  output_eq : t.output = lines.flatMap fun line => Utf8.encode (line ++ "\n")
  /-- Cutting the output at its line feeds gives back the lines. -/
  pieces_eq : Text.pieces 10 t.output = lines.map Utf8.encode ++ [[]]
  value_eq : value = .ok (t.output.count 10)

/-! ## Stamps and lines -/

/-- A stamp is within one line. -/
theorem Instant.lineFeed_notMem_stamp (time : Instant) : '\n' ∉ time.stamp.toList := by
  have number (width n : Nat) : '\n' ∉ (Text.zeroPadded width n).toList :=
    fun mem => absurd (Text.isDigit_of_mem_zeroPadded mem) (by decide)
  have year (year : Int) : '\n' ∉ (Calendar.yearText year).toList := by
    unfold Calendar.yearText
    split_ifs <;> simp [number]
  simp [Instant.stamp, number, year]

theorem encode_line (line : String) : Utf8.encode (line ++ "\n") = Utf8.encode line ++ [10] :=
  Utf8.encode_append line "\n"

theorem lineFeed_notMem_encode {line : String} (free : '\n' ∉ line.toList) :
    10 ∉ Utf8.encode line := by
  rw [Utf8.mem_encode_iff (by decide)]
  exact free

/-- Lines without line feeds are what lies between the line feeds. -/
theorem pieces_lines {lines : List String} (free : ∀ line ∈ lines, '\n' ∉ line.toList) :
    Text.pieces 10 (lines.flatMap fun line => Utf8.encode (line ++ "\n")) =
      lines.map Utf8.encode ++ [[]] := by
  induction lines with
  | nil => rfl
  | cons line rest ih =>
    obtain ⟨first, others⟩ := List.forall_mem_cons.mp free
    rw [List.flatMap_cons, encode_line, List.append_assoc, List.singleton_append,
      Text.pieces_append_separator (lineFeed_notMem_encode first), ih others, List.map_cons,
      List.cons_append]

/-- Each line has the line feed that ends it, and those that are in it. -/
theorem count_lines (lines : List String) :
    (lines.flatMap fun line => Utf8.encode (line ++ "\n")).count 10 =
      lines.length + (lines.map fun line => line.toList.count '\n').sum := by
  induction lines with
  | nil => rfl
  | cons line rest ih =>
    have own : (Utf8.encode line).count 10 = line.toList.count '\n' :=
      Utf8.count_encode (by decide) line
    rw [List.flatMap_cons, encode_line, List.count_append, List.count_append, ih, own,
      List.count_singleton_self, List.length_cons, List.map_cons, List.sum_cons]
    omega

/-! ## Messages as lines -/

namespace LineFormat

/-- The text that a message is printed as, without the line feed behind it. -/
def body (m : Message) : LineFormat → String
  | .plain => Utf8.decodeLossy m.payload
  | .timestamped => m.receivedAt.stamp ++ ": " ++ Utf8.decodeLossy m.payload

theorem render_eq_body (format : LineFormat) (m : Message) :
    format.render m = format.body m ++ "\n" := by
  cases format <;> rfl

/-- **The line feeds of a message are all printed**, and its stamp adds none. -/
theorem count_body (format : LineFormat) (m : Message) :
    (format.body m).toList.count '\n' = m.payload.count 10 := by
  have ascii : (10 : UInt8) < 0x80 := by decide
  have shown : (Utf8.decodeLossy m.payload).toList.count '\n' = m.payload.count 10 :=
    (Utf8.shows_iff.mpr rfl).count_eq ascii
  cases format with
  | plain => exact shown
  | timestamped =>
    have stamp := List.count_eq_zero.mpr m.receivedAt.lineFeed_notMem_stamp
    have separator : ": ".toList.count '\n' = 0 := by decide
    rw [body, String.toList_append, String.toList_append, List.count_append, List.count_append,
      stamp, separator, shown]
    exact Nat.zero_add _

theorem lineFeed_notMem_body_iff {format : LineFormat} {m : Message} :
    '\n' ∉ (format.body m).toList ↔ 10 ∉ m.payload := by
  rw [← List.count_eq_zero, ← List.count_eq_zero, count_body]

theorem count_render (format : LineFormat) (m : Message) :
    (format.render m).toList.count '\n' = m.payload.count 10 + 1 := by
  rw [render_eq_body, String.toList_append, List.count_append, count_body]
  rfl

end LineFormat

namespace Subscriber

variable {format : LineFormat} {messages : List Message} {t : Transcript}
  {value : Except Error Nat} {lines : List String}

/-- What was printed are lines, if that is what the messages are rendered as. -/
theorem Printed.output_eq_lines (printed : Printed format messages t value)
    (rendered : messages.map format.render = lines.map (· ++ "\n")) :
    t.output = lines.flatMap fun line => Utf8.encode (line ++ "\n") := by
  calc t.output = (messages.map format.render).flatMap Utf8.encode := by
        rw [printed.output_eq, List.flatMap_map]
        rfl
    _ = lines.flatMap fun line => Utf8.encode (line ++ "\n") := by
        rw [rendered, List.flatMap_map]

/-- Messages that are rendered as lines without line feeds are printed as these lines. -/
theorem Printed.printsLines (printed : Printed format messages t value)
    (rendered : messages.map format.render = lines.map (· ++ "\n"))
    (free : ∀ line ∈ lines, '\n' ∉ line.toList) : PrintsLines lines t value := by
  have output := printed.output_eq_lines rendered
  have number : messages.length = lines.length := by
    simpa only [List.length_map] using congrArg List.length rendered
  have none : (lines.map fun line => line.toList.count '\n').sum = 0 :=
    List.sum_eq_zero_iff.mpr
      (List.forall_mem_map.mpr fun line mem => List.count_eq_zero.mpr (free line mem))
  refine ⟨output, ?_, ?_⟩
  · rw [output, pieces_lines free]
  · rw [output, count_lines, none, Nat.add_zero, printed.value_eq, number]

/-- The line feeds of an output are those behind the messages and those within them. -/
theorem Printed.count_output (printed : Printed format messages t value) :
    t.output.count 10 = messages.length + (messages.map fun m => m.payload.count 10).sum := by
  have rendered : messages.map format.render = (messages.map format.body).map (· ++ "\n") := by
    rw [List.map_map]
    exact List.map_congr_left fun m _ => format.render_eq_body m
  rw [printed.output_eq_lines rendered, count_lines, List.length_map, List.map_map]
  simp only [Function.comp_def, LineFormat.count_body]

/-- **The line feeds of an output.**  A subscriber that has printed some messages has put out the
line of each, which is its text and a line feed, so that there are as many line feeds as messages
besides those that the messages bring along.  The output has one line for each message, and can be
cut into the messages at its line feeds, exactly if none of them has a line feed in it. -/
theorem lineFeeds_of_printed (s : Subscriber) (format : LineFormat) (budget : Nat)
    (env : Environment) {n : Nat}
    (returned : ((s.printAll format budget 0).run env).value = .ok n) :
    let t := ((s.printAll format budget 0).run env).transcript
    let printed := s.filter.among t.received
    (∀ m : Message, format.render m = format.body m ++ "\n" ∧
      (format.render m).toList.count '\n' = m.payload.count 10 + 1 ∧
      ((format.render m).toList.count '\n' = 1 ↔ 10 ∉ m.payload)) ∧
    t.output = printed.flatMap format.line ∧ n = printed.length ∧
    t.output.count 10 = n + (printed.map fun m => m.payload.count 10).sum ∧
    (t.output.count 10 = n ↔ ∀ m ∈ printed, 10 ∉ m.payload) ∧
    (PrintsLines (printed.map format.body) t (.ok n) ↔ ∀ m ∈ printed, 10 ∉ m.payload) := by
  intro t printed
  have follows := Session.follows_run (s.printAll format budget 0) env
  rw [returned] at follows
  obtain ⟨output, number⟩ := (follows_printAll_iff.mp follows).output_eq
  rw [Nat.zero_add] at number
  have shown : Printed format printed t (.ok n) := ⟨congrArg Except.ok number, output⟩
  have count := shown.count_output
  rw [← number] at count
  have free : t.output.count 10 = n ↔ ∀ m ∈ printed, 10 ∉ m.payload := by
    rw [count, Nat.add_eq_left, List.sum_eq_zero_iff, List.forall_mem_map]
    exact forall₂_congr fun m _ => List.count_eq_zero
  refine ⟨fun m => ⟨format.render_eq_body m, format.count_render m, ?_⟩, output, number, count,
    free, fun lines => ?_, fun none => ?_⟩
  · rw [format.count_render, Nat.add_eq_right, List.count_eq_zero]
  · exact free.mp (Except.ok.inj lines.value_eq).symm
  · refine shown.printsLines ?_ (List.forall_mem_map.mpr fun m mem => ?_)
    · rw [List.map_map]
      exact List.map_congr_left fun m _ => format.render_eq_body m
    · exact LineFormat.lineFeed_notMem_body_iff.mpr (none m mem)

/-- Octets that are no text, a character that is cut between frames, and a message that the
filter does not accept, which has a line feed and is not printed. -/
theorem lineFeeds_of_printed_stamped :
    let s : Subscriber := ⟨⟨"localhost", 5556⟩, ⟨"t"⟩, .silent⟩
    let arrived : List Message :=
      [⟨[[0x74, 0xFF]], ⟨0, 0, 0⟩⟩, ⟨[[0x0A]], ⟨1, 0, 0⟩⟩, ⟨[[0x74, 0xC3], [0xA9]], ⟨2, 0, 0⟩⟩]
    let printing := (s.printAll .timestamped 4 0).run (.calm "" ⟨[]⟩ arrived)
    printing.value = .ok 2 ∧
      PrintsLines ["1970-01-01 00:00:00: t\uFFFD", "1970-01-01 00:00:02: té"] printing.transcript
        (.ok 2) := by
  intro s arrived printing
  have returned : printing.value = .ok 2 := by decide +kernel
  obtain ⟨-, -, -, -, -, lines⟩ := lineFeeds_of_printed s .timestamped 4 _ returned
  have printed : s.filter.among printing.transcript.received =
      [⟨[[0x74, 0xFF]], ⟨0, 0, 0⟩⟩, ⟨[[0x74, 0xC3], [0xA9]], ⟨2, 0, 0⟩⟩] := by decide +kernel
  have bodies : (s.filter.among printing.transcript.received).map LineFormat.timestamped.body =
      ["1970-01-01 00:00:00: t\uFFFD", "1970-01-01 00:00:02: té"] := by
    rw [printed]
    decide +kernel
  refine ⟨returned, ?_⟩
  rw [← bodies]
  exact lines.mpr (by rw [printed]; decide)

/-- A message that ends with a line feed of its own is one message and two lines. -/
theorem two_lines_of_one_message :
    let s : Subscriber := ⟨⟨"localhost", 5556⟩, .everything, .silent⟩
    let m : Message := ⟨[Utf8.encode "hello\n"], ⟨0, 0, 0⟩⟩
    let printing := (s.printAll .plain 2 0).run (.calm "" ⟨[]⟩ [m])
    LineFormat.plain.render m = "hello\n\n" ∧
      (LineFormat.plain.render m).toList.count '\n' ≠ 1 ∧ printing.value = .ok 1 ∧
      printing.transcript.output.count 10 = 2 ∧
      Text.pieces 10 printing.transcript.output = [Utf8.encode "hello", [], []] := by
  decide +kernel

end Subscriber

end MessagingConsole
