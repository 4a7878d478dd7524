import MessagingConsole.Message
import MessagingConsole.Proofs.Calendar.Stamps

/-!
# Lines with stamps

A line with a stamp is the stamp, a colon with a blank, and the line without one.  The first
colon with a blank is that between them, since the colons of a stamp are followed by digits, so
that a line can be taken apart whatever the message says.

## Main Definitions

- `Text.cut?` - what a text has before and behind the first separator.

## Main Results

- `cut?_timestamped` - a line is cut into its stamp and the line without.
- `timestamped_lines` - what a line with a stamp says about the arrival of its message.
-/

namespace MessagingConsole

namespace Text

/-- What lies before the first place where a text has a separator, and behind the separator. -/
def cut? (separator : List Char) : (text : List Char) → Option (List Char × List Char)
  | [] => if separator = [] then some ([], []) else none
  | c :: text =>
    if separator <+: c :: text then some ([], (c :: text).drop separator.length)
    else (cut? separator text).map fun (front, behind) => (c :: front, behind)

variable {c : Char} {separator front text : List Char}

theorem cut?_cons (other : ¬ separator <+: c :: text) :
    cut? separator (c :: text) =
      (cut? separator text).map fun (front, behind) => (c :: front, behind) := by
  rw [cut?, if_neg other]

/-- A text that a separator begins is cut there. -/
theorem cut?_separator (separator text : List Char) :
    cut? separator (separator ++ text) = some ([], text) := by
  cases separator with
  | nil => cases text <;> simp [cut?]
  | cons c separator =>
    have begins : c :: separator <+: c :: (separator ++ text) := List.prefix_append _ text
    rw [List.cons_append, cut?, if_pos begins, ← List.cons_append, List.drop_left]

/-- A front in which the separator cannot begin stays in one piece. -/
theorem cut?_append (free : c ∉ front) :
    cut? (c :: separator) (front ++ text) =
      (cut? (c :: separator) text).map fun (before, behind) => (front ++ before, behind) := by
  induction front with
  | nil => simp
  | cons first front ih =>
    have apart : ¬ c :: separator <+: first :: (front ++ text) := by
      intro starts
      rw [(List.cons_prefix_cons.mp starts).1] at free
      exact free List.mem_cons_self
    rw [List.cons_append, cut?_cons apart, ih fun mem => free (List.mem_cons_of_mem _ mem),
      Option.map_map]
    rfl

end Text

namespace Instant

variable {text : List Char}

theorem colon_notMem_zeroPadded (width n : Nat) : ':' ∉ (Text.zeroPadded width n).toList :=
  fun mem => absurd (Text.isDigit_of_mem_zeroPadded mem) (by decide)

theorem colon_notMem_yearText (year : Int) : ':' ∉ (Calendar.yearText year).toList := by
  unfold Calendar.yearText
  split_ifs <;> simp [colon_notMem_zeroPadded]

/-- A colon in front of a numeral does not separate. -/
theorem cut?_colon (width n : Nat) :
    Text.cut? [':', ' '] (':' :: ((Text.zeroPadded width n).toList ++ text)) =
      (Text.cut? [':', ' '] text).map fun (before, behind) =>
        (':' :: ((Text.zeroPadded width n).toList ++ before), behind) := by
  obtain ⟨c, digits, numeral⟩ := List.exists_cons_of_ne_nil (Text.zeroPadded_ne_nil width n)
  have apart : ¬ [':', ' '] <+: ':' :: ((Text.zeroPadded width n).toList ++ text) := by
    intro starts
    have mem : ' ' ∈ (Text.zeroPadded width n).toList := by
      rw [numeral] at starts ⊢
      rw [(List.cons_prefix_cons.mp (List.cons_prefix_cons.mp starts).2).1]
      exact List.mem_cons_self
    exact absurd (Text.isDigit_of_mem_zeroPadded mem) (by decide)
  rw [Text.cut?_cons apart, Text.cut?_append (colon_notMem_zeroPadded width n), Option.map_map]
  rfl

/-- Behind a stamp the first colon with a blank is one that follows it. -/
theorem cut?_stamp (t : Instant) (text : List Char) :
    Text.cut? [':', ' '] (t.stamp.toList ++ ([':', ' '] ++ text)) =
      some (t.stamp.toList, text) := by
  have free : ':' ∉ (Calendar.yearText t.date.year).toList ++
      '-' :: ((Text.zeroPadded 2 t.date.month).toList ++
      '-' :: ((Text.zeroPadded 2 t.date.day).toList ++
      ' ' :: (Text.zeroPadded 2 (t.minutes % 1440 / 60).toNat).toList)) := by
    simp [colon_notMem_yearText, colon_notMem_zeroPadded]
  have cut := @Text.cut?_append ':' [' '] _
    (':' :: ((Text.zeroPadded 2 (t.minutes % 60).toNat).toList ++
      (':' :: ((Text.zeroPadded 2 t.second).toList ++ ([':', ' '] ++ text))))) free
  rw [cut?_colon, cut?_colon, Text.cut?_separator] at cut
  simp only [Option.map_some, List.append_nil] at cut
  rw [toList_stamp]
  simpa only [List.append_assoc, List.cons_append] using cut

end Instant

namespace LineFormat

theorem render_timestamped (m : Message) :
    timestamped.render m = m.receivedAt.stamp ++ ": " ++ plain.render m := by
  simp only [render, String.append_assoc]

/-- **A line is cut into its stamp and the line without**, whatever the message says. -/
theorem cut?_timestamped (m : Message) :
    Text.cut? ": ".toList (timestamped.render m).toList =
      some (m.receivedAt.stamp.toList, (plain.render m).toList) := by
  have separator : ": ".toList = [':', ' '] := rfl
  rw [render_timestamped, String.toList_append, String.toList_append, separator, List.append_assoc]
  exact m.receivedAt.cut?_stamp _

/-- **Lines with stamps say when messages arrived.**  Such a line is a stamp and the line without
one, can be cut into these again, and its stamp denotes the second that the local clock had
reached, if that is no leap second.  Stamps of years with four digits are in order as local
clocks are, and so as the seconds are if these are no leap seconds. -/
theorem timestamped_lines :
    (∀ m : Message,
      timestamped.render m = m.receivedAt.stamp ++ ": " ++ plain.render m ∧
      Text.cut? ": ".toList (timestamped.render m).toList =
        some (m.receivedAt.stamp.toList, (plain.render m).toList) ∧
      (m.receivedAt.nanos < 1000000000 →
        Calendar.readStamp? m.receivedAt.stamp.toList =
          some (m.receivedAt.seconds + m.receivedAt.offset))) ∧
    ∀ a b : Instant, a.HasPlainYear → b.HasPlainYear →
      (a.stamp < b.stamp ↔ a.ShownBefore b) ∧
      (a.nanos < 1000000000 → b.nanos < 1000000000 →
        (a.stamp < b.stamp ↔ a.seconds + a.offset < b.seconds + b.offset) ∧
        (a.stamp = b.stamp ↔ a.seconds + a.offset = b.seconds + b.offset)) := by
  refine ⟨fun m => ⟨render_timestamped m, cut?_timestamped m, m.receivedAt.readStamp?_stamp⟩,
    fun a b plain plain' => ⟨Instant.stamp_lt_iff plain plain', fun calm calm' => ⟨?_, ?_⟩⟩⟩
  · exact (Instant.stamp_lt_iff plain plain').trans (Instant.shownBefore_iff calm calm')
  · exact (Instant.stamp_eq_iff plain plain').trans (Instant.shown_eq_iff calm calm')

/-- A message with a separator in it, on a leap day that has begun on the local clock only, and
the last second of a year with the first one of the next. -/
theorem timestamped_lines_of_leap_day :
    let m : Message := ⟨[Utf8.encode "a: b"], ⟨951780600, 0, 3600⟩⟩
    let a : Instant := ⟨-3601, 999999999, 3600⟩
    let b : Instant := ⟨0, 0, 0⟩
    timestamped.render m = "2000-02-29 00:30:00: a: b\n" ∧
      Text.cut? ": ".toList (timestamped.render m).toList =
        some ("2000-02-29 00:30:00".toList, "a: b\n".toList) ∧
      Calendar.readStamp? "2000-02-29 00:30:00".toList = some 951784200 ∧
      a.stamp = "1969-12-31 23:59:59" ∧ b.stamp = "1970-01-01 00:00:00" ∧
      a.stamp < b.stamp ∧ a.stamp ≠ b.stamp := by
  intro m a b
  obtain ⟨lines, order⟩ := timestamped_lines
  obtain ⟨-, cut, read⟩ := lines m
  obtain ⟨-, seconds⟩ := order a b (by decide +kernel) (by decide +kernel)
  obtain ⟨lt, eq⟩ := seconds (by decide) (by decide)
  have stamp : m.receivedAt.stamp = "2000-02-29 00:30:00" := by decide +kernel
  have text : plain.render m = "a: b\n" := by decide +kernel
  rw [stamp, text] at cut
  rw [stamp] at read
  exact ⟨by decide +kernel, cut, read (by decide), by decide +kernel, by decide +kernel,
    lt.mpr (by decide), fun same => absurd (eq.mp same) (by decide)⟩

end LineFormat

end MessagingConsole
