import MessagingConsole.Proofs.Console.Taking

/-!
# Where a console says that there is no line

An answer of no line is heard as the end of the input.  It stands for the end as long as no
call has failed.  After a failure the next call is answered so whatever is left, and what is
pending then may never be looked at again, so that lines are lost.

So the answer can be trusted on one kind of input only: each line that a line feed ends is a
text of a length that is allowed, and what stands behind the last line feed is not too long.
That rest may be no text: it is reported when the input has ended, and nothing is left then.

## Main Definitions

- `LineReader.Clean` - the inputs on which the answer can be trusted.
- `LineReader.AtEndOfInput` - a reader that has met the end and owes no line.

## Main Results

- `LineReader.steps_next` - one call on what is left of an input.
- `Terminal.endOfInput_iff_clean` - no line is an end of input on clean inputs, and on no others.
-/

namespace MessagingConsole

namespace LineReader

/-- An input of lines that are texts of a length that is allowed.  What stands behind the last
line feed has such a length, and may be no text. -/
def Clean (input : Bytes) : Prop :=
  let pieces := input.splitOn lineFeed
  (∀ line ∈ pieces.dropLast, ∃ text, Reads line (.line text)) ∧
    ∀ rest ∈ pieces.getLast?, rest.length ≤ maxLineLength

/-- The octets that no call has told of yet.  A line that was reported as too long was told of,
also where the reader still throws it away. -/
def untold (r : LineReader) (source : Source) : Bytes :=
  if r.discarding then ((r.input source).dropWhile (· ≠ lineFeed)).tail else r.input source

/-- The reader has met the end of its input, and no line that a line feed ends is left. -/
def AtEndOfInput (r : LineReader) (source : Source) : Prop :=
  r.atEnd ∧ lineFeed ∉ r.untold source

instance (r : LineReader) (source : Source) : Decidable (r.AtEndOfInput source) :=
  inferInstanceAs (Decidable (_ ∧ _))

/-- The reader and the source after so many calls for a line. -/
def after (r : LineReader) : Nat → Source → LineReader × Source
  | 0, source => (r, source)
  | count + 1, source => (r.next source).1.2.after count (r.next source).2

/-! ## Clean inputs -/

variable {line rest bytes : Bytes} {r : LineReader} {source : Source}

theorem clean_of_free (free : lineFeed ∉ bytes) : Clean bytes ↔ bytes.length ≤ maxLineLength := by
  unfold Clean
  rw [List.splitOn_eq_singleton free]
  simp

theorem clean_append_lineFeed (free : lineFeed ∉ line) :
    Clean (line ++ lineFeed :: rest) ↔ (∃ text, Reads line (.line text)) ∧ Clean rest := by
  unfold Clean
  rw [List.splitOn_append_cons_self_of_not_mem free]
  cases pieces : rest.splitOn lineFeed with
  | nil => exact absurd pieces (List.splitOn_ne_nil _ _)
  | cons first others => simp [and_assoc]

/-- An input is not clean if it begins with a line that is too long. -/
theorem not_clean_of_long (free : lineFeed ∉ line) (long : maxLineLength < line.length)
    (bytes : Bytes) : ¬ Clean (line ++ bytes) := by
  intro clean
  by_cases more : lineFeed ∈ bytes
  · obtain ⟨front, rest, rfl, none⟩ := List.eq_append_cons_of_mem more
    have whole : lineFeed ∉ line ++ front := by simp [free, none]
    rw [← List.append_assoc, clean_append_lineFeed whole] at clean
    obtain ⟨⟨text, reads⟩, -⟩ := clean
    cases reads with
    | line fits =>
      rw [List.length_append] at fits
      omega
  · have whole : lineFeed ∉ line ++ bytes := by simp [free, more]
    have fits := (clean_of_free whole).mp clean
    rw [List.length_append] at fits
    omega

/-! ## One call -/

/-- A reader that has not failed and has not met the end of its input.  Where it has to read
before it looks again, what is pending is the beginning of a line that may still fit. -/
structure Standing (r : LineReader) (source : Source) : Prop where
  keeps : r.discarding = false
  sound : r.faulted = false
  going : r.atEnd = false
  data : ∀ delivery ∈ source, ∃ b bytes, delivery = .data (b :: bytes)
  looked : r.readable = false → lineFeed ∉ r.pending ∧ r.pending.length ≤ maxLineLength

/-- Nothing is left that a call could find. -/
structure Exhausted (r : LineReader) (source : Source) : Prop where
  keeps : r.discarding = false
  ended : r.atEnd
  arrived : source = []
  none : r.pending = [] ∨ r.pending = [carriageReturn]

/-- What a call finds of an input, and what it leaves: it cuts off a line, or it meets the end
and finds what stands there, or it fails at a line before the end is met. -/
inductive Steps (input : Bytes) : (LineAnswer × LineReader) × Source → Prop
  | line {line : Bytes} {text : String} {later : LineReader} {source : Source}
      (free : lineFeed ∉ line) (reads : Reads line (.line text))
      (parts : input = line ++ lineFeed :: later.input source)
      (standing : Standing later source) : Steps input ((.line text, later), source)
  | ended {answer : LineAnswer} {later : LineReader} {source : Source}
      (free : lineFeed ∉ input) (fits : input.length ≤ maxLineLength)
      (exhausted : Exhausted later source) : Steps input ((answer, later), source)
  | fault {fault : LineFault} {later : LineReader} {source : Source} (dirty : ¬ Clean input)
      (going : later.atEnd = false) (faulted : later.faulted) :
      Steps input ((.fault fault, later), source)

/-- A line that was cut off comes first, or an error at it. -/
theorem Cut.steps {cut : Finding × LineReader} (cuts : Cut r cut) (found : cut.1 ≠ .nothing)
    (standing : Standing r source) (readable : r.readable) :
    Steps (r.input source) (answer cut, source) := by
  cases cuts with
  | nothing => exact absurd rfl found
  | tooLong free parts long =>
    refine .fault ?_ standing.going rfl
    rw [input, parts, List.append_assoc]
    exact not_clean_of_long free long _
  | @line line rest free parts fits =>
    have parts' : r.input source = line ++ lineFeed :: (rest ++ source.bytes) := by
      rw [input, parts, List.append_assoc, List.cons_append]
    obtain ⟨reads, -, -⟩ := decodeLine_reads (r.advance (line.length + 1) rest) fits
    cases decoded : decodeLine line with
    | nothing => exact absurd decoded found
    | line text =>
      rw [decoded] at reads
      refine .line free reads parts' ?_
      refine ⟨standing.keeps, standing.sound, standing.going, standing.data, fun unread => ?_⟩
      cases readable.symm.trans unread
    | fault fault =>
      rw [decoded] at reads
      refine .fault (fun clean => ?_) standing.going rfl
      rw [parts', clean_append_lineFeed free] at clean
      obtain ⟨⟨text, reads'⟩, -⟩ := clean
      cases reads.unique reads'

/-- Looking in vain shows the beginning of a line that may still fit. -/
theorem Cut.fits_of_nothing {cut : Finding × LineReader} (cuts : Cut r cut)
    (nothing : cut.1 = .nothing) : lineFeed ∉ r.pending ∧ r.pending.length ≤ maxLineLength := by
  cases cuts with
  | tooLong => cases nothing
  | nothing free fits => exact ⟨free, fits⟩
  | @line line rest free parts fits =>
    obtain ⟨-, -, some⟩ := decodeLine_reads (r.advance (line.length + 1) rest) fits
    exact absurd nothing some

/-- There is no whole line in the beginning of one that may still fit. -/
theorem cut_of_fits (keeps : r.discarding = false) (free : lineFeed ∉ r.pending)
    (fits : r.pending.length ≤ maxLineLength) : r.cut = (.nothing, r) := by
  have cuts := cut_cases keeps
  generalize r.cut = cut at cuts
  cases cuts with
  | nothing => rfl
  | tooLong _ parts long =>
    rw [parts, List.length_append] at fits
    omega
  | line _ parts => simp [parts] at free

/-- At the end of the input the rest is found, if it is any, and then nothing is left. -/
theorem steps_cutAtEnd (keeps : r.discarding = false) (ended : r.atEnd)
    (free : lineFeed ∉ r.pending) (fits : r.pending.length ≤ maxLineLength) :
    Steps (r.input []) (answer r.cutAtEnd, []) := by
  have whole : r.input [] = r.pending := List.append_nil _
  unfold cutAtEnd
  rw [cut_of_fits keeps free fits, whole]
  dsimp only
  split
  case isTrue none => exact .ended free fits ⟨keeps, ended, rfl, none⟩
  case isFalse =>
    cases decodeLine r.pending <;> exact .ended free fits ⟨keeps, ended, rfl, .inl rfl⟩

theorem Standing.makeRoom (standing : Standing r source) : Standing r.makeRoom source := by
  obtain ⟨capacity, spent, made⟩ := r.makeRoom_eq
  rw [made]
  exact ⟨standing.keeps, standing.sound, standing.going, standing.data, standing.looked⟩

/-- What was read may hold a line. -/
theorem Standing.fill {rest : Source} (standing : Standing r source) (now : Bytes)
    (data : ∀ delivery ∈ rest, ∃ b bytes, delivery = .data (b :: bytes)) :
    Standing (r.fill now) rest :=
  ⟨standing.keeps, standing.sound, rfl, data, nofun⟩

theorem input_makeRoom (r : LineReader) (source : Source) :
    r.makeRoom.input source = r.input source :=
  congrArg (· ++ source.bytes) (pending_makeRoom r)

/-- A reader that has looked in vain has to read first. -/
theorem Standing.wait (standing : Standing r source)
    (looked : lineFeed ∉ r.pending ∧ r.pending.length ≤ maxLineLength) :
    Standing { r with readable := false } source :=
  ⟨standing.keeps, standing.sound, standing.going, standing.data, fun _ => looked⟩

/-- Reading until there is an answer. -/
theorem steps_fetch (standing : Standing r source) (waiting : r.readable = false) :
    Steps (r.input source) (r.fetch source) := by
  -- The deliveries get fewer with every read that brings something.
  induction measure : source.size using Nat.strongRecOn generalizing r source with
  | ind size ih =>
    have made := standing.makeRoom
    by_cases arrived : source = []
    · subst arrived
      have reached : Source.read r.makeRoom.room [] = (.endOfInput, []) := rfl
      obtain ⟨free, fits⟩ := standing.looked waiting
      rw [← pending_makeRoom r] at free fits
      rw [fetch_of_endOfInput reached, if_neg (by rw [made.going]; exact Bool.false_ne_true),
        ← input_makeRoom]
      exact steps_cutAtEnd (r := { r.makeRoom with atEnd := true, readable := true })
        made.keeps rfl free fits
    · obtain ⟨now, rest, read, -, data⟩ := read_of_data standing.data arrived r.makeRoom.room
      have filled := made.fill now data
      have cuts := cut_cases filled.keeps
      rw [← input_fill read, fetch_of_data read]
      generalize (r.makeRoom.fill now).cut = cut at cuts
      obtain ⟨finding, left⟩ := cut
      cases finding with
      | nothing =>
        obtain rfl : left = _ := cuts.eq_of_nothing rfl
        have waits := filled.wait (cuts.fits_of_nothing rfl)
        exact ih rest.size (measure ▸ Source.size_read_lt read) waits rfl rfl
      | line text => exact cuts.steps nofun filled rfl
      | fault fault => exact cuts.steps nofun filled rfl

/-- **One call for a line** where none has failed and the end was not met. -/
theorem steps_next (standing : Standing r source) : Steps (r.input source) (r.next source) := by
  unfold next
  rw [if_neg (by simp [standing.sound])]
  split
  case isTrue readable =>
    rw [if_neg (by simp [standing.going])]
    have cuts := cut_cases standing.keeps
    generalize r.cut = cut at cuts
    obtain ⟨finding, left⟩ := cut
    cases finding with
    | nothing =>
      obtain rfl : left = r := cuts.eq_of_nothing rfl
      exact steps_fetch (standing.wait (cuts.fits_of_nothing rfl)) rfl
    | line text => exact cuts.steps nofun standing readable
    | fault fault => exact cuts.steps nofun standing readable
  case isFalse waiting => exact steps_fetch standing (by simpa using waiting)

/-- Where nothing is left, every call is answered so. -/
theorem Exhausted.next (exhausted : Exhausted r source) :
    (r.next source).1.1 = .endOfInput ∧ Exhausted (r.next source).1.2 (r.next source).2 := by
  obtain ⟨keeps, ended, rfl, none⟩ := exhausted
  have free : lineFeed ∉ r.pending := by rcases none with none | none <;> rw [none] <;> decide
  have fits : r.pending.length ≤ maxLineLength := by
    rcases none with none | none <;> rw [none] <;> decide
  unfold LineReader.next
  split
  case isTrue => exact ⟨rfl, keeps, ended, rfl, none⟩
  case isFalse =>
    split
    case isTrue =>
      have nothing : r.cutAtEnd = (.nothing, r) := by
        unfold cutAtEnd
        rw [cut_of_fits keeps free fits]
        exact if_pos none
      rw [nothing]
      exact ⟨rfl, keeps, ended, rfl, none⟩
    case isFalse =>
      have reached : Source.read r.makeRoom.room [] = (.endOfInput, []) := rfl
      obtain ⟨capacity, spent, made⟩ := r.makeRoom_eq
      rw [fetch_of_endOfInput reached, if_pos (by rw [made]; exact ended), made]
      exact ⟨rfl, keeps, ended, rfl, none⟩

theorem Exhausted.atEndOfInput (exhausted : Exhausted r source) : r.AtEndOfInput source := by
  obtain ⟨keeps, ended, rfl, none⟩ := exhausted
  refine ⟨ended, ?_⟩
  unfold untold
  rw [if_neg (by simp [keeps])]
  rcases none with none | none <;> rw [input, none] <;> decide

/-- The call after one that failed is answered with no line, and looks at nothing. -/
theorem next_of_faulted (faulted : r.faulted) (source : Source) :
    r.next source = ((.endOfInput, { r with faulted := false, readable := false }), source) :=
  if_pos faulted

/-! ## Calls one after the other -/

theorem after_succ {answer : LineAnswer} {later : LineReader} {source' : Source}
    (first : r.next source = ((answer, later), source')) (count : Nat) :
    r.after (count + 1) source = later.after count source' := by
  rw [after, first]

/-- Where nothing is left, it stays so. -/
theorem Exhausted.after (exhausted : Exhausted r source) (count : Nat) :
    Exhausted (r.after count source).1 (r.after count source).2 := by
  induction count generalizing r source with
  | zero => exact exhausted
  | succ count ih => exact ih exhausted.next.2

/-- **No line is an end of input on clean inputs, and on no others.** -/
theorem atEndOfInput_iff_clean (standing : Standing r source) :
    (∀ count,
      let past := r.after count source
      let found := past.1.next past.2
      found.1.1 = .endOfInput → found.1.2.AtEndOfInput found.2) ↔ Clean (r.input source) := by
  -- A line takes octets off the input, so that what is left of it gets shorter.
  induction measure : (r.input source).length using Nat.strongRecOn generalizing r source with
  | ind size ih =>
    have steps := steps_next standing
    generalize first : r.next source = found at steps
    cases steps with
    | @line line text later source' free reads parts standing' =>
      have shorter : (later.input source').length < size := by
        rw [← measure, parts, List.length_append, List.length_cons]
        omega
      have rest := ih _ shorter standing' rfl
      rw [parts, clean_append_lineFeed free, ← rest]
      constructor
      · intro told
        exact ⟨⟨text, reads⟩, fun count => after_succ first count ▸ told (count + 1)⟩
      · rintro ⟨-, told⟩ count
        cases count with
        | zero =>
          dsimp only [LineReader.after]
          rw [first]
          exact nofun
        | succ count =>
          rw [after_succ first]
          exact told count
    | @ended answer later source' free fits exhausted =>
      refine iff_of_true (fun count => ?_) ((clean_of_free free).mpr fits)
      cases count with
      | zero =>
        dsimp only [LineReader.after]
        rw [first]
        exact fun _ => exhausted.atEndOfInput
      | succ count =>
        rw [after_succ first]
        exact fun _ => (exhausted.after count).next.2.atEndOfInput
    | @fault fault later source' dirty going faulted =>
      -- The second call is answered with no line, and it has not looked for the end.
      refine iff_of_false (fun told => ?_) dirty
      have second := told 1
      rw [after_succ first 0] at second
      dsimp only [LineReader.after] at second
      rw [next_of_faulted faulted] at second
      obtain ⟨ended, -⟩ := second rfl
      rw [show later.atEnd = true from ended] at going
      cases going

/-- Octets that arrive in chunks are before a fresh reader that stands. -/
theorem standing_fresh {chunks : List Bytes} (some : ∀ chunk ∈ chunks, chunk ≠ []) :
    Standing .fresh (chunks.map .data) := by
  have before := before_fresh some
  exact ⟨rfl, rfl, rfl, before.data, fun _ => ⟨List.not_mem_nil, Nat.zero_le _⟩⟩

end LineReader

/-- The end of the console's input was met, and it owes no line. -/
def Environment.AtEndOfInput (env : Environment) : Prop :=
  env.reader.AtEndOfInput env.source

instance (env : Environment) : Decidable env.AtEndOfInput :=
  inferInstanceAs (Decidable (env.reader.AtEndOfInput env.source))

namespace Terminal

open LineReader (Clean)

variable {env : Environment}

theorem eq_endOfInput_of_outcome {answer : LineAnswer} (none : answer.outcome = .ok none) :
    answer = .endOfInput := by
  cases answer <;> cases none
  rfl

/-- On an output that takes everything, a prompt does to the surroundings what its call does. -/
theorem run_prompt (unlimited : env.sink = .unlimited) (text : String) :
    ((prompt text).run.run env).value = (env.answer .readLine).1.outcome ∧
      ((prompt text).run.run env).env = (env.answer .readLine).2 := by
  obtain ⟨t, gives, follows⟩ := exists_prompt unlimited text
  have run := Session.run_eq_iff.mpr ⟨follows, gives⟩
  exact ⟨congrArg Outcome.value run, congrArg Outcome.env run⟩

/-- Prompts leave the surroundings as their calls do. -/
theorem env_prompts (unlimited : env.sink = .unlimited) (texts : List String) :
    ((prompts texts).run env).env =
      let past := env.reader.after texts.length env.source
      { env with reader := past.1, source := past.2 } := by
  induction texts generalizing env with
  | nil => rfl
  | cons text rest ih =>
    have unlimited' : (env.answer .readLine).2.sink = .unlimited := unlimited
    obtain ⟨-, left⟩ := run_prompt unlimited text
    have first : ((prompts (text :: rest)).run env).env =
        ((prompts rest).run ((prompt text).run.run env).env).env := by
      change ((Session.bind (prompt text).run fun result =>
        (prompts rest).bind fun results => .done (result :: results)).run env).env = _
      simp only [Session.run_bind, Session.run_done]
    rw [first, left, ih unlimited']
    rfl

/-- A prompt after others is a call after as many calls. -/
theorem run_prompt_after (unlimited : env.sink = .unlimited) (texts : List String)
    (text : String) :
    let past := env.reader.after texts.length env.source
    let found := past.1.next past.2
    let last := (prompt text).run.run ((prompts texts).run env).env
    last.value = found.1.1.outcome ∧ (last.env.AtEndOfInput ↔ found.1.2.AtEndOfInput found.2) := by
  intro past found last
  have left : ((prompts texts).run env).env = { env with reader := past.1, source := past.2 } :=
    env_prompts unlimited texts
  have answered : ((prompts texts).run env).env.answer .readLine =
      (found.1.1, { env with reader := found.1.2, source := found.2 }) := by
    rw [left]
    rfl
  have unlimited' : ((prompts texts).run env).env.sink = .unlimited := by
    rw [left]
    exact unlimited
  obtain ⟨value, after⟩ := run_prompt unlimited' text
  rw [answered] at value after
  exact ⟨value, by rw [after]; rfl⟩

/-- **No line is an end of input on clean inputs, and on no others.**  However an input arrives
and whatever prompts came before, also some that failed, a prompt that is answered with no line
has met the end of the input and no line is owed, if the input is clean.  On every other input
some prompt is answered so too early. -/
theorem endOfInput_iff_clean (env : Environment) (chunks : List Bytes)
    (some : ∀ chunk ∈ chunks, chunk ≠ []) :
    (∀ (texts : List String) (text : String),
      let past := (prompts texts).run (env.console chunks)
      let last := (prompt text).run.run past.env
      last.value = .ok none → last.env.AtEndOfInput) ↔ Clean chunks.flatten := by
  have arrived : LineReader.fresh.input (chunks.map .data) = chunks.flatten := by
    rw [LineReader.input, Source.bytes, List.flatMap_map, List.flatMap_id']
    rfl
  have unlimited : (env.console chunks).sink = .unlimited := rfl
  rw [← arrived, ← LineReader.atEndOfInput_iff_clean (LineReader.standing_fresh some)]
  constructor
  · intro told count past found none
    obtain ⟨value, met⟩ := run_prompt_after unlimited (List.replicate count "") ""
    rw [List.length_replicate] at value met
    exact met.mp (told _ _ (value.trans (congrArg LineAnswer.outcome none)))
  · intro told texts text past last none
    obtain ⟨value, met⟩ := run_prompt_after unlimited texts text
    exact met.mpr (told _ (eq_endOfInput_of_outcome (value.symm.trans none)))

/-- A line in two chunks, and then a rest that is no text. -/
theorem endOfInput_of_clean_chunks :
    let env := Environment.calm "" ⟨[]⟩ []
    let chunks : List Bytes := [[0x61, 0x0D], [0x0A, 0xFF]]
    (∀ chunk ∈ chunks, chunk ≠ []) ∧ Clean chunks.flatten ∧
      ∀ (texts : List String) (text : String),
        let past := (prompts texts).run (env.console chunks)
        let last := (prompt text).run.run past.env
        last.value = .ok none → last.env.AtEndOfInput := by
  intro env chunks
  have some : ∀ chunk ∈ chunks, chunk ≠ [] := by decide
  have parts : chunks.flatten = [0x61, 0x0D] ++ LineReader.lineFeed :: [0xFF] := rfl
  have clean : Clean chunks.flatten := by
    rw [parts, LineReader.clean_append_lineFeed (by decide),
      LineReader.clean_of_free (by decide)]
    have reads : LineReader.Reads [0x61, 0x0D] (.line "a") := .line (by decide) (by decide)
    exact ⟨⟨"a", reads⟩, by decide⟩
  exact ⟨some, clean, (endOfInput_iff_clean env chunks some).mpr clean⟩

/-- No line, although the end was not met and a line is still to come.  And no line for a line
that no call will return, where the end was met between two lines that are no texts. -/
theorem no_line_before_endOfInput :
    let env := Environment.calm "" ⟨[]⟩ []
    let past (texts : List String) (chunk : Bytes) := (prompts texts).run (env.console [chunk])
    let early := (prompt "> ").run.run (past ["> "] [0xFF, 0x0A, 0x6F, 0x6B, 0x0A]).env
    let late := (prompt "> ").run.run
      (past ["> ", "> ", "> ", "> "] [0xFF, 0x0A, 0xFF, 0x0A, 0x62, 0x0A]).env
    (early.value = .ok none ∧ early.env.reader.atEnd = false ∧
      early.env.input = Utf8.encode "ok\n" ∧ ¬ early.env.AtEndOfInput) ∧
    late.value = .ok none ∧ late.env.reader.atEnd = true ∧
      late.env.input = Utf8.encode "b\n" ∧ ¬ late.env.AtEndOfInput := by
  decide +kernel

end Terminal

end MessagingConsole
