import MessagingConsole.Message
import MessagingConsole.Proofs.Text.Lossy

/-!
# Lines are of joined octets

A message is printed as the text of all its octets.  How these were cut into frames makes no
difference, not even to a character that was cut itself, and a text comes out as it went in.  What
is no text is shown with U+FFFD in the place of each broken part, behind the text in front of it,
and a line that was shown so is a text.

## Main Results

- `LineFormat.render_congr` - a line depends on the joined octets and the time of arrival.
- `LineFormat.renders_joined` - what the joined octets of a message are shown as.
-/

namespace MessagingConsole.LineFormat

variable {m n : Message}

/-- A line depends on the joined octets and the time of arrival. -/
theorem render_congr (format : LineFormat) (joined : m.frames.flatten = n.frames.flatten)
    (time : m.receivedAt = n.receivedAt) : format.render m = format.render n := by
  unfold render
  rw [m.payload_eq_flatten, n.payload_eq_flatten, joined, time]

theorem render_plain (m : Message) :
    plain.render m = Utf8.decodeLossy m.frames.flatten ++ "\n" := by
  unfold render
  rw [m.payload_eq_flatten]

/-- A text is shown as it is. -/
theorem render_plain_of_text {text : String} (joined : m.frames.flatten = Utf8.encode text) :
    plain.render m = text ++ "\n" := by
  rw [render_plain, joined, Utf8.decodeLossy_encode]

/-- A text in front of other octets is shown as it is. -/
theorem render_plain_append {front : String}
    (joined : m.frames.flatten = Utf8.encode front ++ n.frames.flatten) :
    plain.render m = front ++ plain.render n := by
  rw [render_plain, render_plain, joined, Utf8.decodeLossy_encode_append, String.append_assoc]

/-- **Lines are of joined octets.**  Messages with the same octets that came at the same time are
printed as the same line in both formats.  The plain line is what the octets are shown as, with a
line feed: texts are shown octet for octet, also in front of what is broken, and what was shown is
a text that is shown as it is. -/
theorem renders_joined :
    (∀ m : Message, m.payload = m.frames.flatten) ∧
    (∀ (format : LineFormat) (m n : Message), m.frames.flatten = n.frames.flatten →
      m.receivedAt = n.receivedAt → format.render m = format.render n) ∧
    ∀ m : Message, ∃ text : String,
      plain.render m = text ++ "\n" ∧
      (∀ chars, Utf8.Shows m.frames.flatten chars ↔ chars = text.toList) ∧
      (Utf8.IsText m.frames.flatten → Utf8.encode text = m.frames.flatten) ∧
      (∀ (front : String) (rest : Message),
        m.frames.flatten = Utf8.encode front ++ rest.frames.flatten →
          plain.render m = front ++ plain.render rest) ∧
      ∀ again : Message, again.frames.flatten = Utf8.encode text →
        plain.render again = plain.render m := by
  refine ⟨Message.payload_eq_flatten, fun format m n => render_congr format, fun m => ?_⟩
  refine ⟨Utf8.decodeLossy m.frames.flatten, render_plain m, fun chars => Utf8.shows_iff, ?_,
    fun front rest => render_plain_append, fun again joined => ?_⟩
  · rintro ⟨text, joined⟩
    rw [joined, Utf8.decodeLossy_encode]
  · rw [render_plain_of_text joined, render_plain]

/-- A character that is cut between frames, with an empty one between its octets, and octets that
begin characters but are none: a character that is not finished, and a surrogate. -/
theorem renders_joined_of_cut :
    let time : Instant := ⟨0, 0, 0⟩
    let cut : Message := ⟨[[0x61, 0xC3], [], [0xA9]], time⟩
    let broken : Message := ⟨[[0x61], [0xE2, 0x82, 0xED], [0xA0]], time⟩
    timestamped.render cut = timestamped.render ⟨[Utf8.encode "aé"], time⟩ ∧
      plain.render cut = "aé\n" ∧
      Utf8.Shows broken.frames.flatten "a\uFFFD\uFFFD\uFFFD".toList ∧
      plain.render broken = "a" ++ plain.render ⟨[[0xE2, 0x82, 0xED, 0xA0]], time⟩ ∧
      plain.render ⟨[Utf8.encode "a\uFFFD\uFFFD\uFFFD"], time⟩ = plain.render broken := by
  intro time cut broken
  obtain ⟨-, congr, lines⟩ := renders_joined
  obtain ⟨text, line, shows, -, front, again⟩ := lines broken
  have line_is : plain.render broken = "a\uFFFD\uFFFD\uFFFD" ++ "\n" := by decide +kernel
  obtain rfl : text = "a\uFFFD\uFFFD\uFFFD" :=
    (String.append_left_inj "\n").mp (line.symm.trans line_is)
  exact ⟨congr timestamped cut ⟨[Utf8.encode "aé"], time⟩ (by decide) rfl, by decide +kernel,
    (shows _).mpr rfl, front "a" ⟨[[0xE2, 0x82, 0xED, 0xA0]], time⟩ (by decide),
    again _ (by decide)⟩

end MessagingConsole.LineFormat
