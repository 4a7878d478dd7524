import Mathlib.Data.List.TakeDrop
import MessagingConsole.Console.LineReader

/-!
# The answers of a console

What successive calls for a line are answered, and how much of the input they use up.
A line takes at least one octet, so that a console has no more lines than octets, however
they arrive.

## Main Definitions

- `LineReader.answers` - the answers to so many calls.
- `LineReader.unread` - the octets that no line was cut off from yet.

## Main Results

- `LineReader.unread_next` - a call that finds a line leaves less of the input.
- `LineReader.length_le_unread` - there are no more lines than octets.
-/

namespace MessagingConsole

/-- How many octets a finding takes at least. -/
def LineReader.Finding.cost : LineReader.Finding → Nat
  | .line _ => 1
  | _ => 0

/-- How many octets an answer takes at least. -/
def LineAnswer.cost : LineAnswer → Nat
  | .line _ => 1
  | _ => 0

/-- What a read brings, if anything. -/
def ReadAnswer.bytes : ReadAnswer → Bytes
  | .data bytes => bytes
  | _ => []

/-- A read takes what it brings from the source. -/
theorem Source.bytes_read (room : Nat) (source : Source) :
    source.bytes = (source.read room).1.bytes ++ (source.read room).2.bytes := by
  match source with
  | [] => rfl
  | .data [] :: rest => rfl
  | .fault reason :: rest => rfl
  | .silence :: rest => rfl
  | .data (b :: bytes) :: rest =>
    have parts : bytes = bytes.take (room - 1) ++ bytes.drop (room - 1) :=
      (List.take_append_drop _ _).symm
    simp only [read, ReadAnswer.bytes, Source.bytes, List.flatMap_cons, List.cons_append]
    split
    case isTrue none =>
      rw [List.isEmpty_iff] at none
      rw [none, List.append_nil] at parts
      rw [← parts]
    case isFalse =>
      rw [List.flatMap_cons, ← List.append_assoc, ← parts]

namespace LineReader

variable {r : LineReader} {source : Source}

/-- The octets that no line was cut off from yet. -/
def unread (r : LineReader) (source : Source) : Nat :=
  r.pending.length + source.bytes.length

/-- The answers to so many calls for a line. -/
def answers (r : LineReader) : (count : Nat) → Source → List LineAnswer
  | 0, _ => []
  | count + 1, source =>
    (r.next source).1.1 :: (r.next source).1.2.answers count (r.next source).2

theorem length_answers (r : LineReader) (count : Nat) (source : Source) :
    (r.answers count source).length = count := by
  induction count generalizing r source with
  | zero => rfl
  | succ count ih => exact congrArg (· + 1) (ih _ _)

/-! ## What a call uses up -/

theorem cost_decodeLine (line : Bytes) : (decodeLine line).cost ≤ 1 := by
  unfold decodeLine
  split <;> simp [Finding.cost]

theorem length_span (bytes : Bytes) :
    (bytes.span (· ≠ lineFeed)).1.length + (bytes.span (· ≠ lineFeed)).2.length =
      bytes.length := by
  rw [List.span_eq_takeWhile_dropWhile, ← List.length_append, List.takeWhile_append_dropWhile]

theorem length_cutLine (r : LineReader) :
    r.cutLine.2.pending.length + r.cutLine.1.cost ≤ r.pending.length := by
  have parts := length_span r.pending
  unfold cutLine
  dsimp only
  split
  case isTrue => simp [Finding.cost]
  case isFalse =>
    split
    case h_1 => simp [Finding.cost]
    case h_2 feed rest after =>
      have cost := cost_decodeLine (r.pending.span (· ≠ lineFeed)).1
      rw [after, List.length_cons] at parts
      simp only [advance]
      omega

theorem length_cut (r : LineReader) :
    r.cut.2.pending.length + r.cut.1.cost ≤ r.pending.length := by
  unfold cut
  split
  case isTrue =>
    have parts := length_span r.pending
    dsimp only
    split
    case h_1 => simp [advance, Finding.cost]
    case h_2 feed rest after =>
      rw [after, List.length_cons] at parts
      refine Nat.le_trans (length_cutLine _) ?_
      simp only [advance]
      omega
  case isFalse => exact length_cutLine r

theorem length_cutAtEnd (r : LineReader) :
    r.cutAtEnd.2.pending.length + r.cutAtEnd.1.cost ≤ r.pending.length := by
  have used := length_cut r
  unfold cutAtEnd
  split
  case h_1 rest found =>
    rw [found] at used
    split
    case isTrue => exact used
    case isFalse some =>
      have cost := cost_decodeLine rest.pending
      have some : rest.pending ≠ [] := fun none => some (.inl none)
      have long := List.length_pos_iff.mpr some
      simp only [advance, List.length_nil]
      simp only [Finding.cost] at used
      omega
  case h_2 => exact used

theorem cost_answer (found : Finding × LineReader) :
    (answer found).2.pending.length + (answer found).1.cost =
      found.2.pending.length + found.1.cost := by
  obtain ⟨finding, r⟩ := found
  cases finding <;> rfl

theorem pending_makeRoom (r : LineReader) : r.makeRoom.pending = r.pending := by
  unfold makeRoom
  split
  case isTrue => rfl
  case isFalse => split <;> rfl

theorem unread_fetch (r : LineReader) (source : Source) :
    (r.fetch source).1.2.unread (r.fetch source).2 + (r.fetch source).1.1.cost ≤
      r.unread source := by
  have brought {room : Nat} {source rest : Source} {now : ReadAnswer}
      (read : source.read room = (now, rest)) :
      source.bytes.length = now.bytes.length + rest.bytes.length := by
    rw [source.bytes_read room, read, List.length_append]
  -- One case for each way a read can end; only the first one reads again.
  fun_induction fetch r source with
  | case1 r source made bytes rest read later nothing ih =>
    have used := length_cut (made.fill bytes)
    rw [nothing] at used
    simp only [unread, fill, made, pending_makeRoom, List.length_append, brought read,
      ReadAnswer.bytes] at used ih ⊢
    omega
  | case2 r source made bytes rest read found =>
    have used := length_cut (made.fill bytes)
    have answered := cost_answer (made.fill bytes).cut
    simp only [unread, fill, made, pending_makeRoom, List.length_append, brought read,
      ReadAnswer.bytes] at used answered ⊢
    omega
  | case3 r source made rest read ended =>
    simp [unread, made, pending_makeRoom, brought read, ReadAnswer.bytes, LineAnswer.cost]
  | case4 r source made rest read ended =>
    have used := length_cutAtEnd { made with atEnd := true, readable := true }
    have answered := cost_answer { made with atEnd := true, readable := true }.cutAtEnd
    simp only [unread, made, pending_makeRoom, brought read, ReadAnswer.bytes, List.length_nil]
      at used answered ⊢
    omega
  | case5 r source made reason rest read =>
    simp [unread, made, pending_makeRoom, brought read, ReadAnswer.bytes, LineAnswer.cost]
  | case6 r source made rest read =>
    simp [unread, made, pending_makeRoom, brought read, ReadAnswer.bytes, LineAnswer.cost]

/-- A call that finds a line leaves less of the input, and no call leaves more. -/
theorem unread_next (r : LineReader) (source : Source) :
    (r.next source).1.2.unread (r.next source).2 + (r.next source).1.1.cost ≤
      r.unread source := by
  unfold next
  split
  case isTrue => simp [unread, LineAnswer.cost]
  case isFalse =>
    split
    case isTrue =>
      split
      case isTrue =>
        have used := length_cutAtEnd r
        have answered := cost_answer r.cutAtEnd
        simp only [unread]
        omega
      case isFalse =>
        have used := length_cut r
        split
        case h_1 rest nothing =>
          refine Nat.le_trans (unread_fetch _ source) ?_
          rw [nothing] at used
          simp only [unread] at used ⊢
          omega
        case h_2 =>
          have answered := cost_answer r.cut
          simp only [unread]
          omega
    case isFalse => exact unread_fetch r source

/-- There are no more lines than octets. -/
theorem length_le_unread {lines : List String} {more : List LineAnswer} {count : Nat}
    (answered : r.answers count source = lines.map .line ++ more) :
    lines.length ≤ r.unread source := by
  induction lines generalizing r source count with
  | nil => exact Nat.zero_le _
  | cons line rest ih =>
    cases count with
    | zero => cases answered
    | succ count =>
      rw [answers, List.map_cons, List.cons_append] at answered
      obtain ⟨first, later⟩ := List.cons.inj answered
      have used := unread_next r source
      have others := ih later
      rw [first] at used
      simp only [LineAnswer.cost, List.length_cons] at used ⊢
      omega

end LineReader

end MessagingConsole
