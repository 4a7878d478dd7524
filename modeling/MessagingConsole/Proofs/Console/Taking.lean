import MessagingConsole.Proofs.Console.Lines
import MessagingConsole.Proofs.Console.Remainder

/-!
# What one line takes of the input

A call that finds a line takes that line off the front of the input and nothing behind it: its
octets and the line feed that ends it, or, where the input has ended, all octets that were
left.  In front of it there may be the rest of a line that was too long, which the reader
throws away up to its line feed.

Nothing is assumed about the reader, so that this holds after any calls that came before,
also after those that failed.

## Main Definitions

- `LineReader.Passes` - what a reader throws away.
- `LineReader.TakesLine` - one line is taken off the input.

## Main Results

- `LineReader.takesLine_of_next` - a call that finds a line takes that line alone.
-/

namespace MessagingConsole.LineReader

/-- What a reader throws away: nothing, or octets of a line that was too long, up to its
line feed.  The flags say whether it throws away octets before and after. -/
inductive Passes : Bool → Bytes → Bool → Prop
  | nothing : Passes false [] false
  | more {octets : Bytes} (free : lineFeed ∉ octets) : Passes true octets true
  | ended {octets : Bytes} (free : lineFeed ∉ octets) : Passes true (octets ++ [lineFeed]) false

/-- One line is taken off an input: its octets and a line feed, behind what is thrown away.
The last line may have no line feed, and then the input has ended and nothing is pending. -/
inductive TakesLine (r : LineReader) (source : Source) (text : String) (later : LineReader)
    (rest : Source) : Prop
  | line {passed line : Bytes} (passes : Passes r.discarding passed false)
      (free : lineFeed ∉ line) (spells : dropReturn line = Utf8.encode text)
      (parts : r.input source = passed ++ (line ++ lineFeed :: later.input rest))
  | last {passed line : Bytes} (passes : Passes r.discarding passed false)
      (free : lineFeed ∉ line) (spells : dropReturn line = Utf8.encode text)
      (parts : r.input source = passed ++ (line ++ later.input rest))
      (ended : later.atEnd) (whole : later.pending = [])

variable {r later : LineReader} {source rest : Source} {text : String}

theorem Passes.refl (discards : Bool) : Passes discards [] discards := by
  cases discards with
  | false => exact .nothing
  | true => exact .more List.not_mem_nil

theorem Passes.trans {first second third : Bool} {octets more : Bytes}
    (passes : Passes first octets second) (onward : Passes second more third) :
    Passes first (octets ++ more) third := by
  cases passes with
  | nothing => exact onward
  | ended free =>
    cases onward with
    | nothing =>
      rw [List.append_nil]
      exact .ended free
  | more free =>
    cases onward with
    | more free' => exact .more (by simp [free, free'])
    | ended free' =>
      rw [← List.append_assoc]
      exact .ended (by simp [free, free'])

/-! ## Among the pending octets -/

/-- The octets that are thrown away come first.  Either all pending ones are among them, or
the next line is looked for behind them. -/
theorem exists_passed (r : LineReader) :
    ∃ passed past, Passes r.discarding passed past.discarding ∧
      r.pending = passed ++ past.pending ∧ past.atEnd = r.atEnd ∧
      (past.pending = [] ∧ r.cut = (.nothing, past) ∨
        past.discarding = false ∧ r.cut = past.cut) := by
  cases discards : r.discarding with
  | false => exact ⟨[], r, discards ▸ .nothing, rfl, rfl, .inr ⟨discards, rfl⟩⟩
  | true =>
    by_cases mem : lineFeed ∈ r.pending
    · obtain ⟨octets, left, parts, free⟩ := List.eq_append_cons_of_mem mem
      have span : r.pending.span (· ≠ lineFeed) = (octets, lineFeed :: left) := by
        rw [parts, span_append free]
        simp
      refine ⟨octets ++ [lineFeed],
        { r.advance (octets.length + 1) left with discarding := false }, .ended free, ?_, rfl,
        .inr ⟨rfl, ?_⟩⟩
      · rw [parts, List.append_assoc]
        rfl
      · unfold cut
        rw [discards, span]
        rfl
    · have span : r.pending.span (· ≠ lineFeed) = (r.pending, []) := by
        have whole := span_append mem []
        rw [List.append_nil] at whole
        simpa using whole
      have still : (r.advance r.pending.length []).discarding = true := discards
      refine ⟨r.pending, r.advance r.pending.length [], ?_, (List.append_nil _).symm, rfl,
        .inl ⟨rfl, ?_⟩⟩
      · rw [still]
        exact .more mem
      · unfold cut
        rw [discards, span]
        rfl

theorem spells_of_decodeLine {line : Bytes} (decoded : decodeLine line = .line text) :
    dropReturn line = Utf8.encode text := by
  unfold decodeLine at decoded
  split at decoded
  next spelled =>
    cases decoded
    exact Utf8.decode?_eq_some_iff.mp spelled
  next => cases decoded

/-- Looking for a line in vain throws away what has to be thrown away, and no more. -/
theorem passes_of_nothing (found : r.cut = (.nothing, later)) :
    ∃ passed, Passes r.discarding passed later.discarding ∧
      r.pending = passed ++ later.pending ∧ lineFeed ∉ later.pending ∧
      (later.discarding → later.pending = []) ∧ later.atEnd = r.atEnd := by
  obtain ⟨passed, past, passes, parts, atEnd, ⟨none, cut⟩ | ⟨keeps, cut⟩⟩ := r.exists_passed
  · obtain ⟨-, rfl⟩ := Prod.mk.inj (found.symm.trans cut)
    exact ⟨passed, passes, parts, by simp [none], fun _ => none, atEnd⟩
  · have cuts := cut_cases keeps
    rw [← cut, found] at cuts
    obtain rfl : later = past := cuts.eq_of_nothing rfl
    refine ⟨passed, passes, parts, ?_, by simp [keeps], atEnd⟩
    generalize finding : (Finding.nothing, later) = cut at cuts
    cases cuts with
    | tooLong => cases finding
    | nothing free => exact free
    | @line line left free parts fits =>
      -- Where there is a line feed there is a finding.
      obtain ⟨-, -, some⟩ := decodeLine_reads later fits
      exact absurd (Prod.mk.inj finding).1.symm some

/-- Cutting a line off takes it and its line feed, behind what is thrown away. -/
theorem exists_line_of_cut (found : r.cut = (.line text, later)) :
    ∃ passed line, Passes r.discarding passed false ∧ lineFeed ∉ line ∧
      dropReturn line = Utf8.encode text ∧
      r.pending = passed ++ (line ++ lineFeed :: later.pending) := by
  obtain ⟨passed, past, passes, parts, -, ⟨none, cut⟩ | ⟨keeps, cut⟩⟩ := r.exists_passed
  · cases found.symm.trans cut
  · have cuts := cut_cases keeps
    rw [← cut, found] at cuts
    generalize finding : (Finding.line text, later) = cut at cuts
    cases cuts with
    | tooLong => cases finding
    | nothing => cases finding
    | @line line left free cutAt fits =>
      obtain ⟨decoded, rfl⟩ := Prod.mk.inj finding
      rw [keeps] at passes
      refine ⟨passed, line, passes, free, spells_of_decodeLine decoded.symm, ?_⟩
      rw [parts, cutAt]
      rfl

/-! ## One call -/

/-- What was thrown away before a line was found was thrown away in front of it. -/
theorem TakesLine.after {r' : LineReader} {source' : Source} {passed : Bytes}
    (takes : TakesLine r' source' text later rest)
    (passes : Passes r.discarding passed r'.discarding)
    (parts : r.input source = passed ++ r'.input source') : TakesLine r source text later rest := by
  cases takes with
  | line passes' free spells parts' =>
    refine .line (passes.trans passes') free spells ?_
    rw [parts, parts', List.append_assoc]
  | last passes' free spells parts' ended whole =>
    refine .last (passes.trans passes') free spells ?_ ended whole
    rw [parts, parts', List.append_assoc]

/-- A line that is cut off the pending octets is taken off the input. -/
theorem takesLine_of_cut (found : r.cut = (.line text, later)) :
    TakesLine r source text later source := by
  obtain ⟨passed, line, passes, free, spells, parts⟩ := exists_line_of_cut found
  refine .line passes free spells ?_
  simp [input, parts]

/-- At the end of the input what is left may be a line without a line feed. -/
theorem takesLine_of_cutAtEnd (found : r.cutAtEnd = (.line text, later)) (ended : r.atEnd) :
    TakesLine r source text later source := by
  unfold cutAtEnd at found
  split at found
  case h_1 left cut =>
    split at found
    case isTrue => cases found
    case isFalse some =>
      obtain ⟨passed, passes, parts, free, empty, atEnd⟩ := passes_of_nothing cut
      obtain ⟨decoded, rfl⟩ := Prod.mk.inj found
      have keeps : left.discarding = false := by
        by_contra discards
        exact some (.inl (empty (by simpa using discards)))
      rw [keeps] at passes
      refine .last passes free (spells_of_decodeLine decoded) ?_ (atEnd.trans ended) rfl
      simp [input, parts, advance]
  case h_2 => exact takesLine_of_cut found

theorem eq_of_answer_line {found : Finding × LineReader}
    (line : answer found = (.line text, later)) : found = (.line text, later) := by
  obtain ⟨finding, left⟩ := found
  cases finding <;> cases line
  rfl

theorem discarding_makeRoom (r : LineReader) : r.makeRoom.discarding = r.discarding := by
  obtain ⟨capacity, spent, made⟩ := r.makeRoom_eq
  rw [made]

/-- What a read brings was to come before, and making room loses nothing. -/
theorem input_fill {room : Nat} {bytes : Bytes} (read : source.read room = (.data bytes, rest)) :
    (r.makeRoom.fill bytes).input rest = r.input source := by
  have brought := source.bytes_read room
  rw [read] at brought
  show (r.makeRoom.pending ++ bytes) ++ rest.bytes = r.pending ++ source.bytes
  rw [brought, pending_makeRoom, List.append_assoc]
  rfl

/-- A reader that differs in its buffer only takes the same line. -/
theorem TakesLine.of_eq {r' : LineReader} {source' : Source}
    (takes : TakesLine r' source' text later rest) (discarding : r'.discarding = r.discarding)
    (same : r'.input source' = r.input source) : TakesLine r source text later rest := by
  have unchanged : Passes r.discarding [] r'.discarding := by
    rw [discarding]
    exact .refl _
  exact takes.after unchanged same.symm

/-- Reading until there is an answer takes one line, if the answer is a line. -/
theorem takesLine_of_fetch (found : r.fetch source = ((.line text, later), rest)) :
    TakesLine r source text later rest := by
  -- One case for each way a read can end; only the first one reads again.
  fun_induction fetch r source with
  | case1 r source made bytes left read past nothing ih =>
    obtain ⟨passed, passes, parts, -⟩ := passes_of_nothing nothing
    rw [show (made.fill bytes).discarding = r.discarding from discarding_makeRoom r] at passes
    refine (ih found).after passes ?_
    rw [← input_fill read, input, parts, List.append_assoc]
    rfl
  | case2 r source made bytes left read =>
    obtain ⟨answered, rfl⟩ := Prod.mk.inj found
    have takes : TakesLine (made.fill bytes) left text later left :=
      takesLine_of_cut (eq_of_answer_line answered)
    exact takes.of_eq (discarding_makeRoom r) (input_fill read)
  | case3 r source made left read ended => cases found
  | case4 r source made left read ended =>
    obtain ⟨answered, rfl⟩ := Prod.mk.inj found
    have takes : TakesLine { made with atEnd := true, readable := true } left text later left :=
      takesLine_of_cutAtEnd (eq_of_answer_line answered) rfl
    refine takes.of_eq (discarding_makeRoom r) ?_
    have brought := source.bytes_read made.room
    rw [read] at brought
    show made.pending ++ left.bytes = r.pending ++ source.bytes
    rw [brought, pending_makeRoom]
    rfl
  | case5 r source made reason left read => cases found
  | case6 r source made left read => cases found

/-- **A call that finds a line takes that line alone** off the front of the input. -/
theorem takesLine_of_next (found : r.next source = ((.line text, later), rest)) :
    TakesLine r source text later rest := by
  unfold next at found
  split at found
  case isTrue => cases found
  case isFalse =>
    split at found
    case isTrue =>
      split at found
      case isTrue ended =>
        obtain ⟨answered, rfl⟩ := Prod.mk.inj found
        exact takesLine_of_cutAtEnd (eq_of_answer_line answered) ended
      case isFalse =>
        split at found
        case h_1 past nothing =>
          obtain ⟨passed, passes, parts, -⟩ := passes_of_nothing nothing
          refine (takesLine_of_fetch found).after passes ?_
          show r.pending ++ source.bytes = passed ++ (past.pending ++ source.bytes)
          rw [parts, List.append_assoc]
        case h_2 =>
          obtain ⟨answered, rfl⟩ := Prod.mk.inj found
          exact takesLine_of_cut (eq_of_answer_line answered)
    case isFalse => exact takesLine_of_fetch found

end MessagingConsole.LineReader
