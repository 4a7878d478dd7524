import MessagingConsole.Proofs.Console.Answers
import MessagingConsole.Proofs.Console.Reading
import MessagingConsole.Proofs.Session.Provision
import MessagingConsole.Proofs.Text.Decoding

/-!
# The lines of an input

Which lines a console has is a matter of its octets alone.  A reader cuts lines off what it
has read so far, one read at a time, and looks again at what is left; the reference cuts the
whole input once, at its line feeds.  The two agree up to the first line that is too long
or that is no text, however the octets arrive.

What carries the proof is that the octets pending in the reader and those still to come
are together what is left of the input: `Before` says so, and a call for a line finds the
first segment of what is left and leaves the reader before the others.

## Main Definitions

- `LineReader.segments` - an input cut at its line feeds.
- `LineReader.Reads` - what a call finds at a segment.
- `LineReader.Heard` - what successive calls find, up to the first error.
- `Terminal.prompts` - prompts one after the other, also after one that failed.

## Main Results

- `LineReader.next_serves` - one call for a line.
- `Terminal.heard_prompts` - the answers to prompts depend on the octets of the input only.
-/

namespace MessagingConsole

namespace LineReader

/-! ## The reference -/

/-- An input cut at its line feeds.  What stands after the last one counts if it is neither
empty nor a lone carriage return. -/
def segments (input : Bytes) : List Bytes :=
  let pieces := input.splitOn lineFeed
  pieces.dropLast ++
    pieces.getLast?.toList.filter fun rest => rest ≠ [] ∧ rest ≠ [carriageReturn]

/-- What a call finds at a segment: it is too long, or else a text without one carriage
return at its end, or else no text at all. -/
inductive Reads (segment : Bytes) : LineAnswer → Prop
  | line {text : String} (fits : segment.length ≤ maxLineLength)
      (spells : dropReturn segment = Utf8.encode text) : Reads segment (.line text)
  | tooLong (long : maxLineLength < segment.length) : Reads segment (.fault .tooLong)
  | undecodable (fits : segment.length ≤ maxLineLength)
      (spells : ∀ text, dropReturn segment ≠ Utf8.encode text) :
      Reads segment (.fault (.unreadable "Unable to decode input as UTF8"))

/-- What successive calls find of the segments of an input, one each, and no line for ever
after the last.  It says nothing about calls after one that failed. -/
inductive Heard : List Bytes → List (Except Stop (Option String)) → Prop
  | enough (left : List Bytes) : Heard left []
  | ended {results : List (Except Stop (Option String))} (later : Heard [] results) :
      Heard [] (.ok none :: results)
  | line {segment : Bytes} {left : List Bytes} {text : String}
      {results : List (Except Stop (Option String))} (reads : Reads segment (.line text))
      (later : Heard left results) : Heard (segment :: left) (.ok (some text) :: results)
  | fault {segment : Bytes} {left : List Bytes} {fault : LineFault}
      (reads : Reads segment (.fault fault)) (results : List (Except Stop (Option String))) :
      Heard (segment :: left) (.error (.failed fault.error) :: results)

/-! ## Segments -/

variable {line rest bytes : Bytes}

theorem segments_of_free (free : lineFeed ∉ bytes) :
    segments bytes = if bytes = [] ∨ bytes = [carriageReturn] then [] else [bytes] := by
  unfold segments
  rw [List.splitOn_eq_singleton free]
  by_cases none : bytes = [] ∨ bytes = [carriageReturn]
  · rw [if_pos none]
    rcases none with rfl | rfl <;> rfl
  · rw [if_neg none]
    rw [not_or] at none
    simp [none]

/-- The first line feed ends the first segment. -/
theorem segments_append_lineFeed (free : lineFeed ∉ line) :
    segments (line ++ lineFeed :: rest) = line :: segments rest := by
  unfold segments
  rw [List.splitOn_append_cons_self_of_not_mem free]
  cases pieces : rest.splitOn lineFeed with
  | nil => exact absurd pieces (List.splitOn_ne_nil _ _)
  | cons first others => rfl

/-- A beginning without a line feed that is too long is the beginning of a segment that is
too long. -/
theorem segments_of_long (free : lineFeed ∉ line) (long : maxLineLength < line.length)
    (bytes : Bytes) :
    ∃ segment others, segments (line ++ bytes) = segment :: others ∧
      maxLineLength < segment.length := by
  by_cases more : lineFeed ∈ bytes
  · obtain ⟨front, rest, rfl, none⟩ := List.eq_append_cons_of_mem more
    have whole : lineFeed ∉ line ++ front := by
      rw [List.mem_append, not_or]
      exact ⟨free, none⟩
    refine ⟨line ++ front, segments rest, ?_, ?_⟩
    · rw [← List.append_assoc, segments_append_lineFeed whole]
    · rw [List.length_append]
      omega
  · have whole : lineFeed ∉ line ++ bytes := by
      rw [List.mem_append, not_or]
      exact ⟨free, more⟩
    have longer : maxLineLength < (line ++ bytes).length := by
      rw [List.length_append]
      omega
    refine ⟨line ++ bytes, [], ?_, longer⟩
    rw [segments_of_free whole, if_neg]
    unfold maxLineLength at longer
    rintro (none | lone)
    · rw [none] at longer
      simp at longer
    · rw [lone] at longer
      simp at longer

/-! ## What a call finds -/

/-- What is left of an input gives a call its answer: the first segment does, or its end. -/
inductive Answered : List Bytes → LineAnswer → List Bytes → Prop
  | ended : Answered [] .endOfInput []
  | segment {segment : Bytes} {left : List Bytes} {answer : LineAnswer}
      (reads : Reads segment answer) : Answered (segment :: left) answer left

/-- A reader stands before what is left of an input that arrives as octets only. -/
structure Before (r : LineReader) (source : Source) (left : List Bytes) : Prop where
  left_eq : segments (r.pending ++ source.bytes) = left
  keeps : r.discarding = false
  sound : r.faulted = false
  data : ∀ delivery ∈ source, ∃ b bytes, delivery = .data (b :: bytes)
  ended : r.atEnd → source = []
  exhausted : r.atEnd → r.readable = false → left = []

/-- A call has the answer that what is left of the input gives it, and unless that is an
error it leaves the reader before the others. -/
def Serves (left : List Bytes) (found : (LineAnswer × LineReader) × Source) : Prop :=
  ∃ others, Answered left found.1.1 others ∧
    ((∀ fault, found.1.1 ≠ .fault fault) → Before found.1.2 found.2 others)

variable {r : LineReader} {source : Source} {left : List Bytes}

/-- What is found at a line of a length that is allowed. -/
theorem decodeLine_reads (r : LineReader) (fits : line.length ≤ maxLineLength) :
    Reads line (answer (decodeLine line, r)).1 ∧
      ((∀ fault, (answer (decodeLine line, r)).1 ≠ .fault fault) →
        (answer (decodeLine line, r)).2 = r) ∧
      decodeLine line ≠ .nothing := by
  unfold decodeLine
  cases decoded : Utf8.decode? (dropReturn line) with
  | some text =>
    exact ⟨.line fits (Utf8.decode?_eq_some_iff.mp decoded), fun _ => rfl, nofun⟩
  | none =>
    refine ⟨.undecodable fits fun text spells => ?_, fun sound => ?_, nofun⟩
    · rw [Utf8.decode?_eq_some_iff.mpr spells] at decoded
      cases decoded
    · exact absurd rfl (sound _)

/-- What cutting a line off the pending octets can be. -/
inductive Cut (r : LineReader) : Finding × LineReader → Prop
  | tooLong {line rest : Bytes} (free : lineFeed ∉ line) (parts : r.pending = line ++ rest)
      (long : maxLineLength < line.length) : Cut r (.fault .tooLong, { r with discarding := true })
  | nothing (free : lineFeed ∉ r.pending) (fits : r.pending.length ≤ maxLineLength) :
      Cut r (.nothing, r)
  | line {line rest : Bytes} (free : lineFeed ∉ line)
      (parts : r.pending = line ++ lineFeed :: rest) (fits : line.length ≤ maxLineLength) :
      Cut r (decodeLine line, r.advance (line.length + 1) rest)

/-- Octets without a line feed are passed by. -/
theorem span_append (free : lineFeed ∉ line) (rest : Bytes) :
    (line ++ rest).span (· ≠ lineFeed) =
      (line ++ rest.takeWhile (· ≠ lineFeed), rest.dropWhile (· ≠ lineFeed)) := by
  have passed : ∀ b ∈ line, decide (b ≠ lineFeed) = true := by
    intro b mem
    exact decide_eq_true fun feed => free (feed ▸ mem)
  rw [List.span_eq_takeWhile_dropWhile, List.takeWhile_append_of_pos passed,
    List.dropWhile_append_of_pos passed]

theorem cut_cases (keeps : r.discarding = false) : Cut r r.cut := by
  have straight : r.cut = r.cutLine := by
    rw [cut, if_neg]
    simp [keeps]
  rw [straight]
  unfold cutLine
  by_cases mem : lineFeed ∈ r.pending
  · obtain ⟨line, rest, parts, free⟩ := List.eq_append_cons_of_mem mem
    have span : r.pending.span (· ≠ lineFeed) = (line, lineFeed :: rest) := by
      rw [parts, span_append free]
      simp
    rw [span]
    dsimp only
    split
    case isTrue long => exact .tooLong free parts long
    case isFalse fits => exact .line free parts (Nat.le_of_not_lt fits)
  · have span : r.pending.span (· ≠ lineFeed) = (r.pending, []) := by
      have whole := span_append mem []
      rw [List.append_nil] at whole
      simpa using whole
    rw [span]
    dsimp only
    split
    case isTrue long => exact .tooLong mem (List.append_nil _).symm long
    case isFalse fits => exact .nothing mem (Nat.le_of_not_lt fits)

/-- A line that was cut off is what is left first. -/
theorem Cut.serves {cut : Finding × LineReader} (cuts : Cut r cut) (found : cut.1 ≠ .nothing)
    (before : Before r source left) (readable : r.readable) :
    Serves left (answer cut, source) := by
  obtain ⟨rfl, keeps, sound, data, ended, -⟩ := before
  cases cuts with
  | nothing => exact absurd rfl found
  | tooLong free parts long =>
    rw [parts, List.append_assoc]
    obtain ⟨segment, others, same, long⟩ := segments_of_long free long (_ ++ source.bytes)
    rw [same]
    exact ⟨others, .segment (.tooLong long), fun sound => absurd rfl (sound _)⟩
  | @line line rest free parts fits =>
    rw [parts, List.append_assoc, List.cons_append, segments_append_lineFeed free]
    obtain ⟨reads, same, -⟩ := decodeLine_reads (r.advance (line.length + 1) rest) fits
    refine ⟨segments (rest ++ source.bytes), .segment reads, fun well => ?_⟩
    rw [same well]
    refine ⟨rfl, keeps, sound, data, ended, fun _ unread => ?_⟩
    rw [show r.readable = false from unread] at readable
    cases readable

/-- Looking for a line where there is none leaves the reader as it is. -/
theorem Cut.eq_of_nothing {cut : Finding × LineReader} (cuts : Cut r cut)
    (nothing : cut.1 = .nothing) : cut.2 = r := by
  cases cuts with
  | tooLong => cases nothing
  | nothing => rfl
  | @line line rest free parts fits =>
    obtain ⟨-, -, some⟩ := decodeLine_reads (r.advance (line.length + 1) rest) fits
    exact absurd nothing some

/-- A reader that has to read before it looks again. -/
theorem Before.wait (before : Before r source left) (atEnd : r.atEnd = false) :
    Before { r with readable := false } source left := by
  refine ⟨before.left_eq, before.keeps, before.sound, before.data, before.ended, ?_⟩
  intro ended
  rw [show r.atEnd = true from ended] at atEnd
  cases atEnd

/-- At the end of the input the rest is what is left first, or nothing is left. -/
theorem cutAtEnd_serves (before : Before r [] left) (readable : r.readable) :
    Serves left (answer r.cutAtEnd, []) := by
  have cuts := cut_cases before.keeps
  unfold cutAtEnd
  generalize r.cut = cut at cuts
  cases cuts with
  | tooLong free parts long => exact (Cut.tooLong free parts long).serves nofun before readable
  | @line line rest free parts fits =>
    obtain ⟨-, -, some⟩ := decodeLine_reads (r.advance (line.length + 1) rest) fits
    have served := (Cut.line free parts fits).serves some before readable
    cases decoded : decodeLine line with
    | nothing => exact absurd decoded some
    | line text =>
      rw [decoded] at served
      exact served
    | fault fault =>
      rw [decoded] at served
      exact served
  | nothing free fits =>
    obtain ⟨rfl, keeps, sound, data, ended, -⟩ := before
    rw [show r.pending ++ Source.bytes [] = r.pending from List.append_nil _,
      segments_of_free free]
    dsimp only
    split
    case isTrue none =>
      have exhausted : segments r.pending = [] := (segments_of_free free).trans (if_pos none)
      refine ⟨[], .ended, fun _ => ⟨?_, keeps, sound, data, fun _ => rfl, fun _ _ => rfl⟩⟩
      rw [← exhausted]
      exact congrArg segments (List.append_nil _)
    case isFalse some =>
      obtain ⟨reads, same, -⟩ := decodeLine_reads (r.advance r.pending.length []) fits
      refine ⟨[], .segment reads, fun well => ?_⟩
      rw [same well]
      exact ⟨rfl, keeps, sound, data, fun _ => rfl, fun _ _ => rfl⟩

/-- Making room in the buffer changes nothing else. -/
theorem makeRoom_eq (r : LineReader) :
    ∃ capacity spent, r.makeRoom = { r with capacity, spent } := by
  unfold makeRoom
  split
  case isTrue => exact ⟨_, _, rfl⟩
  case isFalse => split <;> exact ⟨_, _, rfl⟩

theorem Before.makeRoom (before : Before r source left) : Before r.makeRoom source left := by
  obtain ⟨capacity, spent, made⟩ := r.makeRoom_eq
  rw [made]
  exact ⟨before.left_eq, before.keeps, before.sound, before.data, before.ended, before.exhausted⟩

/-- A read of octets only brings some of them and leaves the others. -/
theorem read_of_data (data : ∀ delivery ∈ source, ∃ b bytes, delivery = .data (b :: bytes))
    (some : source ≠ []) (room : Nat) :
    ∃ now rest, source.read room = (.data now, rest) ∧ now ++ rest.bytes = source.bytes ∧
      ∀ delivery ∈ rest, ∃ b bytes, delivery = .data (b :: bytes) := by
  have brought := Source.bytes_read room source
  match source, some with
  | first :: others, _ =>
    obtain ⟨b, bytes, rfl⟩ := data first List.mem_cons_self
    refine ⟨_, _, rfl, brought.symm, ?_⟩
    have later : ∀ delivery ∈ others, ∃ b bytes, delivery = .data (b :: bytes) :=
      fun delivery mem => data delivery (List.mem_cons_of_mem _ mem)
    split
    case isTrue => exact later
    case isFalse some =>
      have left : bytes.drop (room - 1) ≠ [] := fun none => some (List.isEmpty_iff.mpr none)
      obtain ⟨c, rest, cut⟩ := List.exists_cons_of_ne_nil left
      exact List.forall_mem_cons.mpr ⟨⟨c, rest, congrArg _ cut⟩, later⟩

/-- What was read is pending, and may hold a line. -/
theorem Before.fill {now : Bytes} {rest : Source} (before : Before r source left)
    (brought : now ++ rest.bytes = source.bytes)
    (data : ∀ delivery ∈ rest, ∃ b bytes, delivery = .data (b :: bytes)) :
    Before (r.fill now) rest left := by
  refine ⟨?_, before.keeps, before.sound, data, nofun, nofun⟩
  rw [← before.left_eq, ← brought]
  exact congrArg segments (List.append_assoc ..)

/-- Reading until there is an answer finds what is left first. -/
theorem fetch_serves (before : Before r source left) (waiting : r.readable = false) :
    Serves left (r.fetch source) := by
  -- The deliveries get fewer with every read that brings something.
  induction measure : source.size using Nat.strongRecOn generalizing r source with
  | ind size ih =>
    have made := before.makeRoom
    by_cases none : source = []
    · subst none
      have reached : Source.read r.makeRoom.room [] = (.endOfInput, []) := rfl
      rw [fetch_of_endOfInput reached]
      split
      case isTrue ended =>
        obtain ⟨capacity, spent, same⟩ := r.makeRoom_eq
        have exhausted : left = [] := made.exhausted ended (by rw [same]; exact waiting)
        rw [exhausted] at made ⊢
        exact ⟨[], .ended, fun _ => made⟩
      case isFalse =>
        have ended : Before { r.makeRoom with atEnd := true, readable := true } [] left :=
          ⟨made.left_eq, made.keeps, made.sound, made.data, fun _ => rfl, nofun⟩
        exact cutAtEnd_serves ended rfl
    · obtain ⟨now, rest, read, brought, data⟩ := read_of_data before.data none r.makeRoom.room
      have filled := made.fill brought data
      have cuts := cut_cases filled.keeps
      rw [fetch_of_data read]
      generalize (r.makeRoom.fill now).cut = cut at cuts
      obtain ⟨finding, after⟩ := cut
      cases finding with
      | nothing =>
        obtain rfl : after = _ := cuts.eq_of_nothing rfl
        exact ih rest.size (measure ▸ Source.size_read_lt read) (filled.wait rfl) rfl rfl
      | line text => exact cuts.serves nofun filled rfl
      | fault fault => exact cuts.serves nofun filled rfl

/-- **One call for a line** finds what is left of the input first. -/
theorem next_serves (before : Before r source left) : Serves left (r.next source) := by
  unfold next
  rw [if_neg (by simp [before.sound])]
  split
  case isTrue readable =>
    split
    case isTrue atEnd =>
      obtain rfl := before.ended atEnd
      exact cutAtEnd_serves before readable
    case isFalse going =>
      have cuts := cut_cases before.keeps
      generalize r.cut = cut at cuts
      obtain ⟨finding, after⟩ := cut
      cases finding with
      | nothing =>
        obtain rfl : after = r := cuts.eq_of_nothing rfl
        exact fetch_serves (before.wait (by simpa using going)) rfl
      | line text => exact cuts.serves nofun before readable
      | fault fault => exact cuts.serves nofun before readable
  case isFalse waiting => exact fetch_serves before (by simpa using waiting)

/-! ## Calls one after the other -/

/-- Successive calls find the segments of what is left, one after the other. -/
theorem heard_answers (before : Before r source left) (count : Nat) :
    Heard left ((r.answers count source).map LineAnswer.outcome) := by
  induction count generalizing r source left with
  | zero => exact .enough left
  | succ count ih =>
    obtain ⟨others, answered, later⟩ := next_serves before
    rw [answers, List.map_cons]
    generalize r.next source = found at answered later
    obtain ⟨⟨answer, r'⟩, source'⟩ := found
    dsimp only at answered later ⊢
    cases answered with
    | ended => exact .ended (ih (later (by simp)))
    | segment reads =>
      cases answer with
      | line text => exact .line reads (ih (later (by simp)))
      | fault fault => exact .fault reads _
      | endOfInput => cases reads
      | interrupted => cases reads

/-- Octets that arrive in chunks are before a fresh reader. -/
theorem before_fresh {chunks : List Bytes} (some : ∀ chunk ∈ chunks, chunk ≠ []) :
    Before .fresh (chunks.map .data) (segments chunks.flatten) := by
  refine ⟨?_, rfl, rfl, ?_, nofun, nofun⟩
  · rw [Source.bytes, List.flatMap_map, List.flatMap_id']
    rfl
  · intro delivery mem
    obtain ⟨chunk, among, rfl⟩ := List.mem_map.mp mem
    obtain ⟨b, bytes, rfl⟩ := List.exists_cons_of_ne_nil (some chunk among)
    exact ⟨b, bytes, rfl⟩

/-! ## The reference determines what is heard -/

theorem Reads.unique {segment : Bytes} {answer answer' : LineAnswer}
    (reads : Reads segment answer) (reads' : Reads segment answer') : answer = answer' := by
  cases reads with
  | line fits spells =>
    cases reads' with
    | line fits' spells' => rw [Utf8.encode_inj.mp (spells.symm.trans spells')]
    | tooLong long => exact absurd long (Nat.not_lt_of_le fits)
    | undecodable fits' none => exact absurd spells (none _)
  | tooLong long =>
    cases reads' with
    | tooLong => rfl
    | line fits => exact absurd long (Nat.not_lt_of_le fits)
    | undecodable fits => exact absurd long (Nat.not_lt_of_le fits)
  | undecodable fits none =>
    cases reads' with
    | undecodable => rfl
    | line fits' spells => exact absurd spells (none _)
    | tooLong long => exact absurd long (Nat.not_lt_of_le fits)

/-- Results up to the first error, and that error. -/
def upToError {α : Type} : List (Except Stop α) → List (Except Stop α)
  | [] => []
  | .ok value :: rest => .ok value :: upToError rest
  | .error stop :: _ => [.error stop]

/-- What is heard is the same up to the first error. -/
theorem Heard.upToError_eq {results results' : List (Except Stop (Option String))}
    (heard : Heard left results) (heard' : Heard left results')
    (length : results.length = results'.length) : upToError results = upToError results' := by
  induction heard generalizing results' with
  | enough => rw [List.length_eq_zero_iff.mp length.symm]
  | ended later ih =>
    cases heard' with
    | enough => cases length
    | ended later' => exact congrArg (_ :: ·) (ih later' (Nat.succ.inj length))
  | line reads later ih =>
    cases heard' with
    | enough => cases length
    | line reads' later' =>
      cases reads.unique reads'
      exact congrArg (_ :: ·) (ih later' (Nat.succ.inj length))
    | fault reads' => cases reads.unique reads'
  | fault reads =>
    cases heard' with
    | enough => cases length
    | line reads' => cases reads.unique reads'
    | fault reads' =>
      cases reads.unique reads'
      rfl

end LineReader

/-- The surroundings of a console whose input arrives in chunks, with an output that takes
everything. -/
def Environment.console (env : Environment) (chunks : List Bytes) : Environment :=
  { env with source := chunks.map .data, reader := .fresh, sink := .unlimited }

namespace Terminal

open LineReader (Heard segments upToError)

/-- Prompts one after the other, also after one that failed, with what each of them was
answered. -/
def prompts : List String → Session (List (Except Stop (Option String)))
  | [] => return []
  | text :: rest => do
    let result ← (prompt text).run
    return result :: (← prompts rest)

/-- On an output that takes everything, a prompt is answered as the reader does. -/
theorem exists_prompt {env : Environment} (unlimited : env.sink = .unlimited) (text : String) :
    ∃ t, env.Gives t (env.answer .readLine).2 ∧
      Attempt.Follows (prompt text) t (env.answer .readLine).1.outcome := by
  have shows := Environment.gives_shown unlimited [Utf8.encode text]
  have reads : env.Gives [⟨.readLine, (env.answer .readLine).1⟩] (env.answer .readLine).2 :=
    ⟨rfl, rfl⟩
  refine ⟨_, Environment.gives_append.mpr ⟨env, shows, reads⟩, ?_⟩
  exact follows_prompt.mpr (.inr ⟨_, rfl, _, rfl, rfl⟩)

/-- On an output that takes everything, prompts are answered as the reader does. -/
theorem exists_prompts {env : Environment} (unlimited : env.sink = .unlimited)
    (texts : List String) :
    ∃ t final, env.Gives t final ∧
      (prompts texts).Follows t
        ((env.reader.answers texts.length env.source).map LineAnswer.outcome) := by
  induction texts generalizing env with
  | nil => exact ⟨[], env, rfl, rfl, rfl⟩
  | cons text rest ih =>
    have unlimited' : (env.answer .readLine).2.sink = .unlimited := unlimited
    obtain ⟨first, gives, prompted⟩ := exists_prompt unlimited text
    obtain ⟨later, final, gives', follows⟩ := ih unlimited'
    refine ⟨first ++ later, final, Environment.gives_append.mpr ⟨_, gives, gives'⟩, ?_⟩
    rw [prompts]
    refine Session.follows_bind.mpr ⟨_, first, later, rfl, prompted, ?_⟩
    exact Session.follows_bind.mpr ⟨_, later, [], (List.append_nil _).symm, follows, rfl, rfl⟩

/-- **The lines of a console are a matter of its octets.**  However an input is cut into chunks,
successive prompts find its segments one after the other and then no line for ever, up to
the first segment that is too long or no text, which is an error.  So two ways of cutting the
same input make no difference up to and including the first error. -/
theorem heard_prompts (env : Environment) (texts : List String) (chunks : List Bytes)
    (some : ∀ chunk ∈ chunks, chunk ≠ []) :
    let heard (chunks : List Bytes) := ((prompts texts).run (env.console chunks)).value
    Heard (segments chunks.flatten) (heard chunks) ∧ (heard chunks).length = texts.length ∧
      ∀ others : List Bytes, (∀ chunk ∈ others, chunk ≠ []) → others.flatten = chunks.flatten →
        upToError (heard others) = upToError (heard chunks) := by
  intro heard
  have answered (chunks : List Bytes) : heard chunks =
      (LineReader.fresh.answers texts.length (chunks.map .data)).map LineAnswer.outcome := by
    have unlimited : (env.console chunks).sink = .unlimited := rfl
    obtain ⟨t, final, gives, follows⟩ := exists_prompts unlimited texts
    exact congrArg Outcome.value (Session.run_eq_iff.mpr ⟨follows, gives⟩)
  have length (chunks : List Bytes) : (heard chunks).length = texts.length := by
    rw [answered, List.length_map, LineReader.length_answers]
  have found {chunks : List Bytes} (some : ∀ chunk ∈ chunks, chunk ≠ []) :
      Heard (segments chunks.flatten) (heard chunks) := by
    rw [answered]
    exact LineReader.heard_answers (LineReader.before_fresh some) _
  refine ⟨found some, length chunks, fun others some' same => ?_⟩
  have heard' := found some'
  rw [same] at heard'
  exact heard'.upToError_eq (found some) ((length others).trans (length chunks).symm)

/-- A carriage return apart from its line feed, a character in two chunks and an octet that is
no text, in three chunks and in one. -/
theorem heard_prompts_of_three_chunks :
    let env := Environment.calm "" ⟨[]⟩ []
    let chunks : List Bytes := [[0x61, 0x0D], [0x0A, 0xC3], [0xA9, 0x0A, 0xFF]]
    let heard (chunks : List Bytes) :=
      ((prompts ["> ", "> ", "> ", "> "]).run (env.console chunks)).value
    segments chunks.flatten = [[0x61, 0x0D], [0xC3, 0xA9], [0xFF]] ∧
      Heard (segments chunks.flatten) (heard chunks) ∧
      upToError (heard chunks) = upToError (heard [chunks.flatten]) ∧
      upToError (heard [chunks.flatten]) =
        [.ok (some "a"), .ok (some "é"),
          .error (.failed (.console "Unable to decode input as UTF8"))] := by
  intro env chunks heard
  obtain ⟨found, -, same⟩ := heard_prompts env ["> ", "> ", "> ", "> "] chunks (by decide)
  exact ⟨by decide, found, (same [chunks.flatten] (by decide) rfl).symm, by decide +kernel⟩

end Terminal

end MessagingConsole
