import Mathlib.Data.List.Infix
import MessagingConsole.Proofs.Console.Answers
import MessagingConsole.Proofs.Session.Consumption

/-!
# What is left of the input

The input of a console is what its reader holds and what its source is still to bring.  Every
call for a line leaves an end of it: octets are only taken off at the front, whether they make
a line, belong to a line that is thrown away, or end in an error, and what was taken off is
never there again for a later call.

## Main Definitions

- `LineReader.input` and `Environment.input` - the octets that are still to be cut into lines.
- `Environment.Consumes` - some of them were used up.

## Main Results

- `Environment.Gives.suffix_input` - a transcript leaves an end of the input.
- `Environment.Gives.consumes` - one that heard a line has used up some of it.
-/

namespace MessagingConsole

namespace LineReader

variable {r : LineReader} {source : Source}

/-- The octets that are still to be cut into lines. -/
def input (r : LineReader) (source : Source) : Bytes :=
  r.pending ++ source.bytes

theorem suffix_span (bytes : Bytes) : (bytes.span (· ≠ lineFeed)).2 <:+ bytes := by
  rw [List.span_eq_takeWhile_dropWhile]
  exact List.dropWhile_suffix _

theorem suffix_cutLine (r : LineReader) : r.cutLine.2.pending <:+ r.pending := by
  have rest := suffix_span r.pending
  unfold cutLine
  dsimp only
  split
  case isTrue => exact List.suffix_rfl
  case isFalse =>
    split
    case h_1 => exact List.suffix_rfl
    case h_2 feed later after =>
      rw [after] at rest
      exact (List.suffix_cons feed later).trans rest

theorem suffix_cut (r : LineReader) : r.cut.2.pending <:+ r.pending := by
  have rest := suffix_span r.pending
  unfold cut
  split
  case isTrue =>
    dsimp only
    split
    case h_1 => exact List.nil_suffix
    case h_2 feed later after =>
      rw [after] at rest
      exact (suffix_cutLine _).trans ((List.suffix_cons feed later).trans rest)
  case isFalse => exact suffix_cutLine r

theorem suffix_cutAtEnd (r : LineReader) : r.cutAtEnd.2.pending <:+ r.pending := by
  have left := suffix_cut r
  unfold cutAtEnd
  split
  case h_1 rest found =>
    rw [found] at left
    split
    case isTrue => exact left
    case isFalse => exact List.nil_suffix
  case h_2 => exact left

theorem pending_answer (found : Finding × LineReader) :
    (answer found).2.pending = found.2.pending := by
  obtain ⟨finding, r⟩ := found
  cases finding <;> rfl

/-- What is pending comes in front of what is still to be read. -/
theorem suffix_input {left : Bytes} (bytes : Bytes) (suffix : left <:+ r.pending) :
    left ++ bytes <:+ r.pending ++ bytes :=
  List.suffix_append_self_iff.mpr suffix

theorem suffix_fetch (r : LineReader) (source : Source) :
    (r.fetch source).1.2.input (r.fetch source).2 <:+ r.input source := by
  have brought {room : Nat} {source rest : Source} {now : ReadAnswer}
      (read : source.read room = (now, rest)) : source.bytes = now.bytes ++ rest.bytes := by
    rw [source.bytes_read room, read]
  -- One case for each way a read can end; only the first one reads again.
  fun_induction fetch r source with
  | case1 r source made bytes rest read later nothing ih =>
    have left := suffix_cut (made.fill bytes)
    rw [nothing] at left
    refine ih.trans ?_
    have whole := suffix_input rest.bytes left
    simpa [input, fill, made, pending_makeRoom, brought read, ReadAnswer.bytes] using whole
  | case2 r source made bytes rest read found =>
    have whole := suffix_input rest.bytes (suffix_cut (made.fill bytes))
    simpa [input, pending_answer, fill, made, pending_makeRoom, brought read, ReadAnswer.bytes]
      using whole
  | case3 r source made rest read ended =>
    simp [input, made, pending_makeRoom, brought read, ReadAnswer.bytes]
  | case4 r source made rest read ended =>
    have whole := suffix_input rest.bytes
      (suffix_cutAtEnd { made with atEnd := true, readable := true })
    simpa [input, pending_answer, made, pending_makeRoom, brought read, ReadAnswer.bytes]
      using whole
  | case5 r source made reason rest read =>
    simp [input, made, pending_makeRoom, brought read, ReadAnswer.bytes]
  | case6 r source made rest read =>
    simp [input, made, pending_makeRoom, brought read, ReadAnswer.bytes]

/-- A call for a line leaves an end of the input. -/
theorem suffix_next (r : LineReader) (source : Source) :
    (r.next source).1.2.input (r.next source).2 <:+ r.input source := by
  unfold next
  split
  case isTrue => exact List.suffix_rfl
  case isFalse =>
    split
    case isTrue =>
      split
      case isTrue =>
        have whole := suffix_input source.bytes (suffix_cutAtEnd r)
        simpa [input, pending_answer] using whole
      case isFalse =>
        have whole := suffix_input source.bytes (suffix_cut r)
        split
        case h_1 rest nothing =>
          rw [nothing] at whole
          exact (suffix_fetch _ source).trans whole
        case h_2 => simpa [input, pending_answer] using whole
    case isFalse => exact suffix_fetch r source

end LineReader

namespace Environment

variable {env final : Environment} {t : Transcript}

/-- The octets of the console's input that are still to be cut into lines. -/
def input (env : Environment) : Bytes :=
  env.reader.input env.source

/-- What is left of the input of an environment is an end of it without its first octets. -/
def Consumes (env final : Environment) : Prop :=
  ∃ used, used ≠ [] ∧ env.input = used ++ final.input

theorem length_input (env : Environment) : env.input.length = env.unread :=
  List.length_append

/-- **A transcript leaves an end of the input.**  Nothing that was used up comes back. -/
theorem Gives.suffix_input (gives : env.Gives t final) : final.input <:+ env.input := by
  induction t generalizing env with
  | nil =>
    cases gives
    exact List.suffix_rfl
  | cons e rest ih =>
    obtain ⟨operation, answer⟩ := e
    obtain ⟨rfl, later⟩ := gives_cons.mp gives
    refine (ih later).trans ?_
    cases operation with
    | readLine => exact env.reader.suffix_next env.source
    | _ => exact List.suffix_rfl

/-- A transcript that heard a line has used up some of the input. -/
theorem Gives.consumes (gives : env.Gives t final) (heard : 0 < t.heard) :
    env.Consumes final := by
  obtain ⟨used, whole⟩ := gives.suffix_input
  refine ⟨used, ?_, whole.symm⟩
  rintro rfl
  have few := gives.heard_le_unread
  rw [← length_input, ← length_input, ← whole, List.nil_append] at few
  omega

end Environment

end MessagingConsole
