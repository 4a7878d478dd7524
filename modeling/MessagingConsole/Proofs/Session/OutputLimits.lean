import MessagingConsole.Proofs.Session.Lockstep
import MessagingConsole.Proofs.Session.Traffic

/-!
# An output with limits

A session on an output that takes so many octets and so many flushes, beside the same
session on one that takes everything.  Neither the session nor the rest of its surroundings
can tell the two outputs apart before a write does not fit or a flush does not go through,
so that the two runs agree up to there.

## Main Definitions

- `Sink.after` - what is left of an output, and `Sink.Takes`, what goes through it.
- `Sink.Refuses` - how an exchange with a limited output differs.

## Main Results

- `Session.run_limited` - the two runs agree until the output refuses something.
-/

namespace MessagingConsole

/-- The environment with another output. -/
def Environment.printingTo (env : Environment) (sink : Sink) : Environment := { env with sink }

/-- How many flushes of a transcript went through. -/
def Transcript.flushes (t : Transcript) : Nat := t.countP Exchange.isFlush

@[simp] theorem Transcript.flushes_append (t₁ t₂ : Transcript) :
    flushes (t₁ ++ t₂) = t₁.flushes + t₂.flushes := List.countP_append

namespace Sink

/-- An output that takes so many octets and then fails. -/
def taking (octets : Nat) : Sink := ⟨some octets, none⟩

/-- An output that lets so many flushes through and then fails. -/
def flushing (count : Nat) : Sink := ⟨none, some count⟩

/-- What is left of an output after exchanges that it took. -/
def after (sink : Sink) (t : Transcript) : Sink where
  room := sink.room.map (· - t.output.length)
  flushes := sink.flushes.map (· - t.flushes)

/-- An output takes all that a transcript writes and flushes. -/
structure Takes (sink : Sink) (t : Transcript) : Prop where
  octets : ∀ room, sink.room = some room → t.output.length ≤ room
  flushes : ∀ count, sink.flushes = some count → t.flushes ≤ count

/-- How an exchange with a limited output differs from the one with an output that takes
everything, after exchanges that both took: a write is cut short, or a flush fails. -/
inductive Refuses (sink : Sink) (past : Transcript) : Exchange → Exchange → Prop
  | write {bytes : Bytes} {room : Nat} (limit : sink.room = some room)
      (fits : past.output.length ≤ room) (full : room < past.output.length + bytes.length) :
      Refuses sink past ⟨.write bytes, .whole⟩ ⟨.write bytes, .part (room - past.output.length)⟩
  | flush (limit : sink.flushes = some past.flushes) :
      Refuses sink past ⟨.flush, true⟩ ⟨.flush, false⟩

/-- Two environments that differ in their outputs only, after exchanges that both took. -/
inductive Limits (sink : Sink) (past : Transcript) : Environment → Environment → Prop
  | intro (env : Environment) (takes : sink.Takes past) :
      Limits sink past (env.printingTo .unlimited) (env.printingTo (sink.after past))

variable {sink : Sink} {past : Transcript}

theorem Limits.takes {free limited : Environment} (limits : sink.Limits past free limited) :
    sink.Takes past := by
  cases limits with
  | intro env takes => exact takes

theorem after_nil (sink : Sink) : sink.after [] = sink := by
  obtain ⟨room, flushes⟩ := sink
  cases room <;> cases flushes <;> rfl

theorem takes_nil (sink : Sink) : sink.Takes [] :=
  ⟨fun _ _ => Nat.zero_le _, fun _ _ => Nat.zero_le _⟩

/-- Exchanges that are not about the output leave it as it is. -/
theorem after_concat_of_silent (sink : Sink) (past : Transcript) {e : Exchange}
    (silent : e.isOutput = false) :
    sink.after (past ++ [e]) = sink.after past ∧ (sink.Takes past → sink.Takes (past ++ [e])) := by
  have output : Transcript.output [e] = [] := by
    obtain ⟨operation, answer⟩ := e
    cases operation <;> first | rfl | cases silent
  have flushes : Transcript.flushes [e] = 0 := by
    obtain ⟨operation, answer⟩ := e
    cases operation <;> first | rfl | cases silent
  constructor
  · simp [after, output, flushes]
  · intro takes
    constructor
    · simpa [output] using takes.octets
    · simpa [flushes] using takes.flushes

/-- A write fits into what is left of an output, or it is cut short where the room ends. -/
theorem write_after (takes : sink.Takes past) (bytes : Bytes) :
    ((sink.after past).write bytes = (.whole, sink.after (past ++ [⟨.write bytes, .whole⟩])) ∧
      sink.Takes (past ++ [⟨.write bytes, .whole⟩])) ∨
    Refuses sink past ⟨.write bytes, .whole⟩
      ⟨.write bytes, ((sink.after past).write bytes).1⟩ := by
  have output : Transcript.output (past ++ [⟨.write bytes, .whole⟩]) = past.output ++ bytes := by
    simp [Exchange.output]
  have flushes : Transcript.flushes (past ++ [⟨.write bytes, .whole⟩]) = past.flushes := by
    simp [Transcript.flushes, Exchange.isFlush]
  obtain ⟨room, count⟩ := sink
  cases room with
  | none =>
    refine .inl ⟨?_, by simp, ?_⟩
    · simp [Sink.write, after, flushes]
    · rw [flushes]
      exact takes.flushes
  | some room =>
    have fits := takes.octets room rfl
    by_cases short : bytes.length ≤ room - past.output.length
    · refine .inl ⟨?_, ?_, ?_⟩
      · simp [Sink.write, after, output, flushes, short, Nat.sub_sub]
      · rintro room' ⟨⟩
        rw [output, List.length_append]
        omega
      · rw [flushes]
        exact takes.flushes
    · have full : room < past.output.length + bytes.length := by omega
      have answer : ((after ⟨some room, count⟩ past).write bytes).1 =
          .part (room - past.output.length) := by
        simp [Sink.write, after, short]
      rw [answer]
      exact .inr (.write rfl fits full)

/-- A flush goes through what is left of an output, or it fails. -/
theorem flush_after (takes : sink.Takes past) :
    ((sink.after past).flush = (true, sink.after (past ++ [⟨.flush, true⟩])) ∧
      sink.Takes (past ++ [⟨.flush, true⟩])) ∨
    Refuses sink past ⟨.flush, true⟩ ⟨.flush, (sink.after past).flush.1⟩ := by
  have output : Transcript.output (past ++ [⟨.flush, true⟩]) = past.output := by
    simp [Exchange.output]
  have flushes : Transcript.flushes (past ++ [⟨.flush, true⟩]) = past.flushes + 1 := by
    simp [Transcript.flushes, Exchange.isFlush]
  obtain ⟨room, count⟩ := sink
  cases count with
  | none =>
    refine .inl ⟨?_, ?_, by simp⟩
    · simp [Sink.flush, after, output]
    · rw [output]
      exact takes.octets
  | some count =>
    have fits := takes.flushes count rfl
    rcases Nat.lt_or_eq_of_le fits with more | none
    · obtain ⟨left, rest⟩ : ∃ left, count - past.flushes = left + 1 :=
        ⟨count - past.flushes - 1, by omega⟩
      refine .inl ⟨?_, ?_, ?_⟩
      · have fewer : count - (past.flushes + 1) = left := by omega
        simp [Sink.flush, after, output, flushes, rest, fewer]
      · rw [output]
        exact takes.octets
      · rintro count' ⟨⟩
        rw [flushes]
        exact more
    · have answer : (after ⟨room, some count⟩ past).flush.1 = false := by
        simp [Sink.flush, after, none]
      rw [answer]
      exact .inr (.flush (congrArg some none.symm))

/-- An answer that is not about the output does not depend on it. -/
theorem answer_printingTo {operation : Operation}
    (silent : ∀ answer, Exchange.isOutput ⟨operation, answer⟩ = false) (env : Environment)
    (sink : Sink) :
    (env.printingTo sink).answer operation =
      ((env.answer operation).1, (env.answer operation).2.printingTo sink) := by
  cases operation with
  | write bytes => cases silent .whole
  | flush => cases silent true
  | _ => rfl

/-- An output with limits goes along with one that takes everything until it refuses
something. -/
theorem lockstep_limits (sink : Sink) : Environment.Lockstep sink.Limits sink.Refuses := by
  intro past free limited operation limits
  obtain ⟨env, takes⟩ := limits
  by_cases silent : ∀ answer, Exchange.isOutput ⟨operation, answer⟩ = false
  · rw [answer_printingTo silent, answer_printingTo silent]
    obtain ⟨same, still⟩ := after_concat_of_silent sink past
      (silent (env.answer operation).1)
    refine .inl ⟨rfl, ?_⟩
    rw [← same]
    exact .intro _ (still takes)
  · cases operation with
    | write bytes =>
      rcases write_after takes bytes with ⟨written, takes⟩ | refuses
      · refine .inl ⟨congrArg (·.1) written, ?_⟩
        show sink.Limits _ (env.printingTo .unlimited)
          (env.printingTo ((sink.after past).write bytes).2)
        rw [written]
        exact .intro env takes
      · exact .inr refuses
    | flush =>
      rcases flush_after takes with ⟨flushed, takes⟩ | refuses
      · refine .inl ⟨congrArg (·.1) flushed, ?_⟩
        show sink.Limits _ (env.printingTo .unlimited) (env.printingTo (sink.after past).flush.2)
        rw [flushed]
        exact .intro env takes
      · exact .inr refuses
    | _ => exact absurd (fun _ => rfl) silent

end Sink

/-- **A run on a limited output is the run on an unlimited one until the output refuses
something.** -/
theorem Session.run_limited {α : Type} (s : Session α) (env : Environment) (sink : Sink) :
    AgreeUntil sink.Limits sink.Refuses [] (s.run (env.printingTo .unlimited))
      (s.run (env.printingTo sink)) := by
  have start : sink.Limits [] (env.printingTo .unlimited) (env.printingTo (sink.after [])) :=
    .intro env sink.takes_nil
  rw [sink.after_nil] at start
  exact s.run_agreeUntil sink.lockstep_limits start

end MessagingConsole
