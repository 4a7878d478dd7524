import MessagingConsole.Proofs.Console.Reading
import MessagingConsole.Proofs.Session.Lockstep

/-!
# Input and turns that are still to come

A session whose input stops at some point, beside the same session with more input from
there on.  What has not arrived has no influence: the two runs are one and the same until
a call for a line waits at the point where the input stops.  In the same way a session that is
shut down after some turns is the one that is not, until a turn does not begin.

## Main Definitions

- `Environment.reading` - an environment with another input.
- `Source.Continues` - environments of which one has more input to come.
- `LineReader.Waits` - how the exchanges differ where the input stops.
- `Environment.endingAt` - an environment with another shutdown between turns.
- `Shutdown.Precedes` and `Shutdown.Cuts` - the same for turns.

## Main Results

- `Session.run_continued` - the two runs agree until one of them waits.
- `Session.run_cut` - the two runs agree until a turn of one of them does not begin.
-/

namespace MessagingConsole

/-- The environment with another input. -/
def Environment.reading (env : Environment) (source : Source) : Environment := { env with source }

/-- Two environments of which the input stops in the first and goes on in the second, and
that are the same otherwise. -/
inductive Source.Continues (later : Source) (past : Transcript) : Environment → Environment → Prop
  | intro (env : Environment) (here : Source) :
      Continues later past (env.reading (here ++ [.silence])) (env.reading (here ++ later))

/-- A call for a line is interrupted where the input stops, and is answered otherwise where
it goes on. -/
inductive LineReader.Waits (past : Transcript) : Exchange → Exchange → Prop
  | intro (answer : LineAnswer) : Waits past ⟨.readLine, .interrupted⟩ ⟨.readLine, answer⟩

/-- An answer that is not a line does not depend on the input. -/
theorem Environment.answer_reading {operation : Operation} (silent : operation ≠ .readLine)
    (env : Environment) (source : Source) :
    (env.reading source).answer operation =
      ((env.answer operation).1, (env.answer operation).2.reading source) := by
  cases operation with
  | readLine => exact absurd rfl silent
  | _ => rfl

/-- An environment whose input stops goes along with one whose input goes on until a call
for a line waits. -/
theorem Source.lockstep_continues (later : Source) :
    Environment.Lockstep later.Continues LineReader.Waits := by
  intro past stopping going operation continues
  obtain ⟨env, here⟩ := continues
  by_cases silent : operation = .readLine
  · subst silent
    rcases env.reader.next_append here with waits | ⟨⟨answer, reader⟩, rest, same⟩
    · right
      have interrupted : ((env.reading (here ++ [.silence])).answer .readLine).1 = .interrupted :=
        waits
      rw [interrupted]
      exact .intro _
    · -- The line is cut off from deliveries that both inputs have.
      have answers (source : Source) :
          (env.reading (here ++ source)).answer .readLine =
            (answer, ({ env with reader } : Environment).reading (rest ++ source)) := by
        simp only [Environment.answer, Environment.reading, same]
      rw [answers, answers]
      exact .inl ⟨rfl, .intro _ rest⟩
  · rw [Environment.answer_reading silent, Environment.answer_reading silent]
    exact .inl ⟨rfl, .intro _ here⟩

/-- **A run whose input stops is the run with more input until a call for a line waits.** -/
theorem Session.run_continued {α : Type} (s : Session α) (env : Environment)
    (here later : Source) :
    AgreeUntil later.Continues LineReader.Waits [] (s.run (env.reading (here ++ [.silence])))
      (s.run (env.reading (here ++ later))) :=
  s.run_agreeUntil later.lockstep_continues (.intro env here)

/-! ## Turns -/

/-- The environment with another shutdown between turns. -/
def Environment.endingAt (env : Environment) (shutdown : Shutdown) : Environment :=
  { env with shutdown }

/-- Two environments of which the first has a shutdown before a later turn, and that are the same
otherwise. -/
inductive Shutdown.Precedes (past : Transcript) : Environment → Environment → Prop
  | intro (env : Environment) (turns : Nat) :
      Precedes past (env.endingAt (.after turns)) (env.endingAt .never)

/-- A turn begins only where no shutdown comes before it. -/
inductive Shutdown.Cuts (past : Transcript) : Exchange → Exchange → Prop
  | intro : Cuts past ⟨.turn, .interrupted⟩ ⟨.turn, .begun⟩

/-- An answer that is not about a turn does not depend on the shutdown between turns. -/
theorem Environment.answer_endingAt {operation : Operation} (other : operation ≠ .turn)
    (env : Environment) (shutdown : Shutdown) :
    (env.endingAt shutdown).answer operation =
      ((env.answer operation).1, (env.answer operation).2.endingAt shutdown) := by
  cases operation with
  | turn => exact absurd rfl other
  | _ => rfl

/-- An environment with a shutdown goes along with one without until a turn does not begin. -/
theorem Shutdown.lockstep_precedes : Environment.Lockstep Precedes Cuts := by
  intro past stopping going operation precedes
  obtain ⟨env, turns⟩ := precedes
  by_cases other : operation = .turn
  · subst other
    cases turns with
    | zero => exact .inr .intro
    | succ turns => exact .inl ⟨rfl, .intro env turns⟩
  · rw [Environment.answer_endingAt other, Environment.answer_endingAt other]
    exact .inl ⟨rfl, .intro _ turns⟩

/-- **A run that is shut down before a turn is the run that goes on until that turn.** -/
theorem Session.run_cut {α : Type} (s : Session α) (env : Environment) (turns : Nat) :
    AgreeUntil Shutdown.Precedes Shutdown.Cuts [] (s.run (env.endingAt (.after turns)))
      (s.run (env.endingAt .never)) :=
  s.run_agreeUntil Shutdown.lockstep_precedes (.intro env turns)

end MessagingConsole
