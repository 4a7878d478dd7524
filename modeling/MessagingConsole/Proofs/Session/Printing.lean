import MessagingConsole.Proofs.Session.Replay
import MessagingConsole.Session.Terminal

/-!
# Printing and prompting

What writing to the console can look like from outside.  A client prints its texts as
*chunks*, each of which is written and then flushed.  Printing either shows all of them,
or it breaks at the first chunk that is cut short or not flushed, and then nothing after
that chunk is tried.

`Terminal.Prints` says so once for any list of chunks, and the laws at the end give the
chunks of everything that clients write.

## Main Definitions

- `Terminal.shown` - the exchanges of a chunk that was written and flushed.
- `Terminal.Prints` - how printing a list of chunks can go.
- `LineAnswer.outcome` - what an answer to a prompt means for the client.
-/

namespace MessagingConsole

/-- Whether an exchange is about the output of the console. -/
def Exchange.isOutput : Exchange → Bool
  | ⟨.write _, _⟩ => true
  | ⟨.flush, _⟩ => true
  | _ => false

/-- What the answer to a call for a line means: a line, no line at the end of input, or
a stop. -/
def LineAnswer.outcome : LineAnswer → Except Stop (Option String)
  | .line text => .ok (some text)
  | .endOfInput => .ok none
  | .fault reason => .error (.failed reason.error)
  | .interrupted => .error .shutdown

namespace Terminal

/-- The exchanges of a chunk that was written and flushed. -/
def shown (chunk : Bytes) : Transcript :=
  [⟨.write chunk, .whole⟩, ⟨.flush, true⟩]

/-- The chunks that a line is written in. -/
def lineChunks (line : String) : List Bytes :=
  [Utf8.encode line, [LineReader.lineFeed]]

/-- The exchanges of a command prompt that was shown, and the answer to it. -/
def asked (answer : LineAnswer) : Transcript :=
  shown (Utf8.encode commandPrompt) ++ [⟨.readLine, answer⟩]

/-- The exchanges of a chunk that could not be shown, and the error that stands for it. -/
inductive Breaks (chunk : Bytes) : Transcript → Error → Prop
  | closed (count : Nat) : Breaks chunk [⟨.write chunk, .part count⟩] (.console "output closed")
  | unflushed : Breaks chunk [⟨.write chunk, .whole⟩, ⟨.flush, false⟩] (.console "flush failed")

/-- How printing chunks one after the other can go, and how it ends. -/
inductive Prints (chunks : List Bytes) : Transcript → Except Stop Unit → Prop
  /-- All chunks are shown. -/
  | whole : Prints chunks (chunks.flatMap shown) (.ok ())
  /-- The first chunk that cannot be shown is the last one tried. -/
  | broken {before after : List Bytes} {chunk : Bytes} {t : Transcript} {error : Error}
      (cut : chunks = before ++ chunk :: after) (breaks : Breaks chunk t error) :
      Prints chunks (before.flatMap shown ++ t) (.error (.failed error))

/-- How a client can go on that prints chunks first: it is stopped while it prints, or
`Later` says how it goes on once they are shown. -/
def PrintsThen {α : Type} (chunks : List Bytes) (Later : Transcript → Except Stop α → Prop)
    (t : Transcript) (result : Except Stop α) : Prop :=
  (∃ stop, Prints chunks t (.error stop) ∧ result = .error stop) ∨
    ∃ rest, t = chunks.flatMap shown ++ rest ∧ Later rest result

variable {t : Transcript} {result : Except Stop Unit} {chunks more : List Bytes}

/-- Printing that ends well has shown all chunks. -/
theorem prints_ok_iff : Prints chunks t (.ok ()) ↔ t = chunks.flatMap shown := by
  constructor
  · rintro ⟨⟩
    rfl
  · rintro rfl
    exact .whole

/-- Chunks after others are printed once those are shown. -/
theorem prints_append_iff :
    Prints (chunks ++ more) t result ↔ PrintsThen chunks (Prints more) t result := by
  constructor
  · rintro (_ | @⟨before, after, chunk, last, error, cut, breaks⟩)
    · exact .inr ⟨_, List.flatMap_append, .whole⟩
    · -- The chunk that breaks is one of the first chunks or one of the others.
      rcases List.append_eq_append_iff.mp cut with ⟨middle, rfl, rfl⟩ | ⟨middle, rfl, tail⟩
      · exact .inr ⟨_, by rw [List.flatMap_append, List.append_assoc], .broken rfl breaks⟩
      · cases middle with
        | nil =>
          have cut : more = [] ++ chunk :: after := tail.symm
          exact .inr ⟨last, by simp, .broken cut breaks⟩
        | cons head middle =>
          obtain ⟨rfl, rfl⟩ := List.cons.inj tail
          exact .inl ⟨_, .broken rfl breaks, rfl⟩
  · rintro (⟨stop, printed, rfl⟩ | ⟨rest, rfl, printed⟩)
    · cases printed with
      | broken cut breaks => exact .broken (by rw [cut, List.append_assoc]; rfl) breaks
    · cases printed with
      | whole =>
        rw [← List.flatMap_append]
        exact .whole
      | broken cut breaks =>
        rw [← List.append_assoc, ← List.flatMap_append]
        exact .broken (by rw [cut, List.append_assoc]) breaks

theorem printsThen_congr {α : Type} {Later Then : Transcript → Except Stop α → Prop}
    {result : Except Stop α} (same : ∀ t result, Later t result ↔ Then t result) :
    PrintsThen chunks Later t result ↔ PrintsThen chunks Then t result := by
  simp only [PrintsThen, same]

/-- Chunks can be printed in two parts before a client goes on. -/
theorem printsThen_append_iff {α : Type} {Later : Transcript → Except Stop α → Prop}
    {result : Except Stop α} :
    PrintsThen (chunks ++ more) Later t result ↔
      PrintsThen chunks (PrintsThen more Later) t result := by
  simp only [PrintsThen, prints_append_iff, List.flatMap_append]
  constructor
  · rintro (⟨stop, ⟨cut, printed, ⟨⟩⟩ | ⟨rest, rfl, printed⟩, rfl⟩ | ⟨rest, rfl, later⟩)
    · exact .inl ⟨stop, printed, rfl⟩
    · exact .inr ⟨rest, rfl, .inl ⟨stop, printed, rfl⟩⟩
    · exact .inr ⟨_, by rw [List.append_assoc], .inr ⟨rest, rfl, later⟩⟩
  · rintro (⟨stop, printed, rfl⟩ | ⟨rest, rfl, ⟨stop, printed, rfl⟩ | ⟨rest, rfl, later⟩⟩)
    · exact .inl ⟨stop, .inl ⟨stop, printed, rfl⟩, rfl⟩
    · exact .inl ⟨stop, .inr ⟨rest, rfl, printed⟩, rfl⟩
    · exact .inr ⟨rest, by rw [List.append_assoc], later⟩

theorem isOutput_shown (chunks : List Bytes) : ∀ e ∈ chunks.flatMap shown, e.isOutput := by
  intro e mem
  obtain ⟨chunk, -, mem⟩ := List.mem_flatMap.mp mem
  simp only [shown, List.mem_cons, List.not_mem_nil, or_false] at mem
  rcases mem with rfl | rfl <;> rfl

/-- Printing asks for nothing but output. -/
theorem Prints.isOutput (printed : Prints chunks t result) : ∀ e ∈ t, e.isOutput := by
  intro e mem
  cases printed with
  | whole => exact isOutput_shown _ e mem
  | broken cut breaks =>
    rcases List.mem_append.mp mem with before | last
    · exact isOutput_shown _ e before
    · cases breaks with
      | closed count =>
        cases List.mem_singleton.mp last
        rfl
      | unflushed =>
        simp only [List.mem_cons, List.not_mem_nil, or_false] at last
        rcases last with rfl | rfl <;> rfl

/-- A single chunk is shown, or it breaks. -/
theorem prints_singleton_iff {chunk : Bytes} :
    Prints [chunk] t result ↔
      (t = shown chunk ∧ result = .ok ()) ∨
      ∃ error, Breaks chunk t error ∧ result = .error (.failed error) := by
  constructor
  · rintro (_ | @⟨before, after, other, last, error, cut, breaks⟩)
    · exact .inl ⟨by simp, rfl⟩
    · obtain ⟨rfl, rfl, rfl⟩ : before = [] ∧ other = chunk ∧ after = [] := by
        simpa [List.cons_eq_append_iff] using cut
      exact .inr ⟨error, breaks, rfl⟩
  · rintro (⟨rfl, rfl⟩ | ⟨error, breaks, rfl⟩)
    · exact prints_ok_iff.mpr (by simp)
    · have cut : [chunk] = [] ++ chunk :: [] := rfl
      exact .broken cut breaks

/-! ## The laws of the console -/

theorem follows_write {bytes : Bytes} :
    Attempt.Follows (write bytes) t result ↔ Prints [bytes] t result := by
  rw [prints_singleton_iff]
  unfold write
  rw [Attempt.follows_perform_bind]
  constructor
  · rintro ⟨answer, rest, rfl, follows⟩
    cases answer with
    | part count =>
      obtain ⟨rfl, rfl⟩ := Attempt.follows_fail.mp follows
      exact .inr ⟨_, .closed count, rfl⟩
    | whole =>
      obtain ⟨flushed, rest, rfl, later⟩ := Attempt.follows_perform_bind.mp follows
      cases flushed with
      | true =>
        obtain ⟨rfl, rfl⟩ := Attempt.follows_pure.mp later
        exact .inl ⟨rfl, rfl⟩
      | false =>
        obtain ⟨rfl, rfl⟩ := Attempt.follows_fail.mp later
        exact .inr ⟨_, .unflushed, rfl⟩
  · have flush := @Attempt.follows_perform_bind
    rintro (⟨rfl, rfl⟩ | ⟨error, breaks, rfl⟩)
    · exact ⟨.whole, _, rfl, flush.mpr ⟨true, [], rfl, Attempt.follows_pure.mpr ⟨rfl, rfl⟩⟩⟩
    · cases breaks with
      | closed count => exact ⟨.part count, [], rfl, Attempt.follows_fail.mpr ⟨rfl, rfl⟩⟩
      | unflushed =>
        exact ⟨.whole, _, rfl, flush.mpr ⟨false, [], rfl, Attempt.follows_fail.mpr ⟨rfl, rfl⟩⟩⟩

/-- An attempt that prints chunks is gone on with once they are shown. -/
theorem follows_prints_bind {α : Type} {first : Attempt Unit} {next : Unit → Attempt α}
    {result : Except Stop α}
    (prints : ∀ {t result}, Attempt.Follows first t result ↔ Prints chunks t result) :
    Attempt.Follows (first >>= next) t result ↔
      PrintsThen chunks (Attempt.Follows (next ())) t result := by
  rw [Attempt.follows_bind]
  simp only [prints]
  refine or_congr_right ?_
  constructor
  · rintro ⟨⟨⟩, t₁, rest, rfl, printed, follows⟩
    exact ⟨rest, by rw [prints_ok_iff.mp printed], follows⟩
  · rintro ⟨rest, rfl, follows⟩
    exact ⟨(), _, rest, rfl, .whole, follows⟩

theorem follows_writeLine {line : String} :
    Attempt.Follows (writeLine line) t result ↔ Prints (lineChunks line) t result := by
  unfold writeLine
  rw [follows_prints_bind follows_write, printsThen_congr fun _ _ => follows_write]
  exact prints_append_iff.symm

/-- A prompt is shown, and then one line is asked for. -/
theorem follows_prompt {text : String} {result : Except Stop (Option String)} :
    Attempt.Follows (prompt text) t result ↔
      PrintsThen [Utf8.encode text]
        (fun rest result => ∃ answer, rest = [⟨.readLine, answer⟩] ∧ result = answer.outcome)
        t result := by
  unfold prompt
  rw [follows_prints_bind follows_write]
  refine printsThen_congr fun rest result => ?_
  rw [Attempt.follows_perform_bind]
  constructor
  · rintro ⟨answer, rest, rfl, follows⟩
    cases answer <;> obtain ⟨rfl, rfl⟩ := Session.follows_pure.mp follows <;>
      exact ⟨_, rfl, rfl⟩
  · rintro ⟨answer, rfl, rfl⟩
    refine ⟨answer, [], rfl, ?_⟩
    cases answer <;> exact Session.follows_pure.mpr ⟨rfl, rfl⟩

/-- How a client can go on that has asked for a line: it is stopped if there is no
answer, or it goes on with the answer. -/
def Hears {α : Type} (next : Option String → Attempt α) (t : Transcript)
    (result : Except Stop α) : Prop :=
  ∃ answer rest, t = ⟨.readLine, answer⟩ :: rest ∧
    ((∃ stop, answer.outcome = .error stop ∧ rest = [] ∧ result = .error stop) ∨
      ∃ reply, answer.outcome = .ok reply ∧ Attempt.Follows (next reply) rest result)

theorem follows_prompt_bind {α : Type} {text : String} {next : Option String → Attempt α}
    {result : Except Stop α} :
    Attempt.Follows (prompt text >>= next) t result ↔
      PrintsThen [Utf8.encode text] (Hears next) t result := by
  rw [Attempt.follows_bind]
  simp only [follows_prompt]
  constructor
  · rintro (⟨stop, ⟨_, printed, ⟨⟩⟩ | ⟨_, rfl, answer, rfl, outcome⟩, rfl⟩ |
      ⟨reply, t₁, t₂, rfl, ⟨_, _, ⟨⟩⟩ | ⟨_, rfl, answer, rfl, outcome⟩, follows⟩)
    · exact .inl ⟨_, printed, rfl⟩
    · exact .inr ⟨_, rfl, answer, [], rfl, .inl ⟨stop, outcome.symm, rfl, rfl⟩⟩
    · refine .inr ⟨_, by rw [List.append_assoc]; rfl, answer, t₂, rfl, ?_⟩
      exact .inr ⟨reply, outcome.symm, follows⟩
  · rintro (⟨stop, printed, rfl⟩ |
      ⟨_, rfl, answer, rest, rfl, ⟨stop, outcome, rfl, rfl⟩ | ⟨reply, outcome, follows⟩⟩)
    · exact .inl ⟨stop, .inl ⟨stop, printed, rfl⟩, rfl⟩
    · exact .inl ⟨stop, .inr ⟨_, rfl, answer, rfl, outcome.symm⟩, rfl⟩
    · refine .inr ⟨reply, _, rest, ?_, .inr ⟨_, rfl, answer, rfl, outcome.symm⟩, follows⟩
      rw [List.append_assoc]
      rfl

end Terminal

end MessagingConsole
