import MessagingConsole.Console.LineReader

/-!
# Reading until there is an answer

What a call for a line does, one read at a time.  A call reads as much of the input as it
needs and leaves the rest alone, so that its answer is settled by the deliveries that are
there and is the same whatever comes after them, or else it waits for one that is not
there yet.

## Main Results

- `LineReader.fetch_of_data` and its like - a call goes on with what a read brings.
- `LineReader.next_append` - a call is interrupted where the input stops, or it does not
  depend on what comes later.
-/

namespace MessagingConsole

/-- A read that meets a delivery does not look past it. -/
theorem Source.read_append {here : Source} (some : here ≠ []) (room : Nat) (later : Source) :
    read room (here ++ later) = ((read room here).1, (read room here).2 ++ later) := by
  match here with
  | [] => exact absurd rfl some
  | .data [] :: rest => rfl
  | .fault reason :: rest => rfl
  | .silence :: rest => rfl
  | .data (b :: bytes) :: rest =>
    simp only [read, List.cons_append]
    split <;> rfl

namespace LineReader

variable {r : LineReader} {source rest : Source}

/-! ## One read -/

theorem fetch_of_data {bytes : Bytes}
    (read : source.read r.makeRoom.room = (.data bytes, rest)) :
    r.fetch source =
      match (r.makeRoom.fill bytes).cut with
      | (.nothing, r) => ({ r with readable := false } : LineReader).fetch rest
      | found => (answer found, rest) := by
  rw [fetch]
  split
  case h_1 bytes' rest' read' =>
    obtain ⟨⟨⟩, rfl⟩ := Prod.mk.inj (read.symm.trans read')
    rfl
  all_goals
    rename_i read'
    cases read.symm.trans read'

theorem fetch_of_endOfInput (read : source.read r.makeRoom.room = (.endOfInput, rest)) :
    r.fetch source =
      if r.makeRoom.atEnd then ((.endOfInput, r.makeRoom), rest)
      else (answer { r.makeRoom with atEnd := true, readable := true }.cutAtEnd, rest) := by
  rw [fetch]
  split
  case h_2 rest' read' =>
    obtain ⟨-, rfl⟩ := Prod.mk.inj (read.symm.trans read')
    rfl
  all_goals
    rename_i read'
    cases read.symm.trans read'

theorem fetch_of_fault {reason : String}
    (read : source.read r.makeRoom.room = (.fault reason, rest)) :
    r.fetch source =
      ((.fault (.unreadable reason), { r.makeRoom with faulted := true }), rest) := by
  rw [fetch]
  split
  case h_3 reason' rest' read' =>
    obtain ⟨⟨⟩, rfl⟩ := Prod.mk.inj (read.symm.trans read')
    rfl
  all_goals
    rename_i read'
    cases read.symm.trans read'

theorem fetch_of_silence (read : source.read r.makeRoom.room = (.silence, rest)) :
    r.fetch source = ((.interrupted, r.makeRoom), rest) := by
  rw [fetch]
  split
  case h_4 rest' read' =>
    obtain ⟨-, rfl⟩ := Prod.mk.inj (read.symm.trans read')
    rfl
  all_goals
    rename_i read'
    cases read.symm.trans read'

/-! ## Input that is still to come -/

/-- Reading until there is an answer ends before the deliveries do, or waits for more. -/
theorem fetch_append (r : LineReader) (here : Source) :
    (r.fetch (here ++ [.silence])).1.1 = .interrupted ∨
      ∃ found rest, ∀ later, r.fetch (here ++ later) = (found, rest ++ later) := by
  -- The deliveries get fewer with every read that brings something.
  induction measure : here.size using Nat.strongRecOn generalizing r here with
  | ind size ih =>
    by_cases some : here = []
    · subst some
      left
      have stopped : Source.read r.makeRoom.room [.silence] = (.silence, [.silence]) := rfl
      rw [List.nil_append, fetch_of_silence stopped]
    · have reads := Source.read_append some r.makeRoom.room
      cases read : here.read r.makeRoom.room with
      | mk now rest =>
        rw [read] at reads
        cases now with
        | data bytes =>
          cases cut : (r.makeRoom.fill bytes).cut with
          | mk finding cut' =>
            have step (later : Source) := fetch_of_data (reads later)
            rw [cut] at step
            cases finding with
            | nothing =>
              have smaller : rest.size < size := measure ▸ Source.size_read_lt read
              rcases ih rest.size smaller { cut' with readable := false } rest rfl with
                waits | ⟨found, rest', same⟩
              · left
                rw [step]
                exact waits
              · exact .inr ⟨found, rest', fun later => (step later).trans (same later)⟩
            | line text => exact .inr ⟨_, rest, step⟩
            | fault fault => exact .inr ⟨_, rest, step⟩
        | endOfInput =>
          right
          by_cases ended : r.makeRoom.atEnd
          · exact ⟨_, rest, fun later => (fetch_of_endOfInput (reads later)).trans (if_pos ended)⟩
          · exact ⟨_, rest, fun later => (fetch_of_endOfInput (reads later)).trans (if_neg ended)⟩
        | fault reason => exact .inr ⟨_, rest, fun later => fetch_of_fault (reads later)⟩
        | silence => exact .inr ⟨_, rest, fun later => fetch_of_silence (reads later)⟩

/-- **A call for a line does not anticipate input.**  It is interrupted where the input
stops, or its answer and what it leaves do not depend on what comes later. -/
theorem next_append (r : LineReader) (here : Source) :
    (r.next (here ++ [.silence])).1.1 = .interrupted ∨
      ∃ found rest, ∀ later, r.next (here ++ later) = (found, rest ++ later) := by
  unfold next
  split
  case isTrue => exact .inr ⟨_, here, fun later => rfl⟩
  case isFalse =>
    split
    case isTrue =>
      split
      case isTrue => exact .inr ⟨_, here, fun later => rfl⟩
      case isFalse =>
        cases cut : r.cut with
        | mk finding r =>
          cases finding with
          | nothing => exact fetch_append { r with readable := false } here
          | line text => exact .inr ⟨_, here, fun later => rfl⟩
          | fault fault => exact .inr ⟨_, here, fun later => rfl⟩
    case isFalse => exact fetch_append r here

end LineReader

end MessagingConsole
