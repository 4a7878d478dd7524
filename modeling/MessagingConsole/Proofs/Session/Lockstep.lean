import MessagingConsole.Session.Environment

/-!
# Two runs in lockstep

One session in two environments.  As long as the environments give the same answers, the
two runs are the same; the session cannot know which of the environments it is in.  So
two runs can be compared exchange by exchange, with a relation between the environments
that every common answer keeps, up to the operation at which the answers differ.

## Main Definitions

- `Environment.Lockstep` - a relation of environments that common answers keep.
- `Agrees` - two runs that are the same from outside.
- `AgreeUntil` - two runs that agree throughout, or up to the exchange where they part.

## Main Results

- `Session.run_agreeUntil` - runs in environments in lockstep agree until they part.
-/

namespace MessagingConsole

/-- Two environments that are alike after some exchanges give the next operation the same
answer and are alike after that too, or the two exchanges are a way to part. -/
def Environment.Lockstep (Alike : Transcript → Environment → Environment → Prop)
    (Parts : Transcript → Exchange → Exchange → Prop) : Prop :=
  ∀ past env₁ env₂ operation, Alike past env₁ env₂ →
    ((env₂.answer operation).1 = (env₁.answer operation).1 ∧
      Alike (past ++ [⟨operation, (env₁.answer operation).1⟩])
        (env₁.answer operation).2 (env₂.answer operation).2) ∨
    Parts past ⟨operation, (env₁.answer operation).1⟩ ⟨operation, (env₂.answer operation).1⟩

/-- Two runs that are the same from outside. -/
def Agrees {α : Type} (first second : Outcome α) : Prop :=
  second.transcript = first.transcript ∧ second.value = first.value

/-- Two runs that agree throughout, or up to the exchange where they part. -/
inductive AgreeUntil {α : Type} (Alike : Transcript → Environment → Environment → Prop)
    (Parts : Transcript → Exchange → Exchange → Prop) (past : Transcript)
    (first second : Outcome α) : Prop
  | throughout (agrees : Agrees first second)
      (alike : Alike (past ++ first.transcript) first.env second.env)
  | parting {front rest₁ rest₂ : Transcript} {e₁ e₂ : Exchange}
      (first_eq : first.transcript = front ++ e₁ :: rest₁)
      (second_eq : second.transcript = front ++ e₂ :: rest₂)
      (parts : Parts (past ++ front) e₁ e₂)

variable {Alike : Transcript → Environment → Environment → Prop}
  {Parts : Transcript → Exchange → Exchange → Prop}

/-- **Runs in environments in lockstep agree until they part.** -/
theorem Session.run_agreeUntil {α : Type} (lockstep : Environment.Lockstep Alike Parts)
    (s : Session α) {past : Transcript} {env₁ env₂ : Environment}
    (alike : Alike past env₁ env₂) :
    AgreeUntil Alike Parts past (s.run env₁) (s.run env₂) := by
  induction s generalizing past env₁ env₂ with
  | done value =>
    refine .throughout ⟨rfl, rfl⟩ ?_
    rw [run_done, run_done, List.append_nil]
    exact alike
  | ask operation next ih =>
    rw [run_ask, run_ask]
    rcases lockstep past env₁ env₂ operation alike with ⟨same, later⟩ | parts
    · rw [same]
      -- One common answer, and then the two runs of the rest.
      cases ih (env₁.answer operation).1 later with
      | throughout agrees alike =>
        rw [List.append_assoc] at alike
        exact .throughout ⟨congrArg (_ :: ·) agrees.1, agrees.2⟩ alike
      | parting first_eq second_eq parts =>
        rw [List.append_assoc] at parts
        exact .parting (congrArg (_ :: ·) first_eq) (congrArg (_ :: ·) second_eq) parts
    · rw [← List.append_nil past] at parts
      exact .parting rfl rfl parts

end MessagingConsole
