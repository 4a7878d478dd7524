import MessagingConsole.Proofs.Publisher.Endings
import MessagingConsole.Proofs.Requester.Endings
import MessagingConsole.Proofs.Session.Continuation
import MessagingConsole.Proofs.Session.Surroundings

/-!
# Clients do not anticipate input

A run of a client whose console stops bringing input, so that it is shut down there, beside
the run of the same client with any input from there on.  The shutdown truncates: whatever
was put out, sent and received before it is what the other run does first, and nothing comes
after it.  In particular nothing is published or declined that waits for its confirmation.

A shutdown can also come before a turn, whatever the console brings.  It truncates in the same
way, and leaves no trace of that turn.

## Main Definitions

- `CutOff` - a run that is shut down where its input stops, beside one that goes on.

## Main Results

- `cutOff_of_silence` - the requester and the publisher are cut off where their input stops.
- `begins_of_shutdown` - and between two turns, where a shutdown comes before the second one.
-/

namespace MessagingConsole.Clients

/-- The exchange with a console that brings nothing any more. -/
def interruption : Exchange := ⟨.readLine, .interrupted⟩

/-- A run that is shut down where its input stops, beside one whose input goes on.  If it
has come to that point it ends well, with nothing after it but records and the closing of
the channel; and if it has not, the two runs are the same. -/
structure CutOff {α : Type} (stopping going : Outcome (Except Error α)) : Prop where
  begins : stopping.transcript.Begins going.transcript
  reached : interruption ∈ stopping.transcript →
    (∃ result, stopping.value = .ok result) ∧
    ∃ front rest, stopping.transcript = front ++ interruption :: rest ∧
      front <+: going.transcript ∧ ∀ e ∈ rest, e.isClosing
  unreached : interruption ∉ stopping.transcript → Agrees stopping going

/-- A client that heeds what stops it is cut off where its input stops. -/
theorem cutOff_of_heeds {α : Type} {endpoint : Endpoint} {s : Session (Except Error α)}
    (heeds : ∀ {t value}, s.Follows t value → Heeds endpoint t value) (env : Environment)
    (here later : Source) :
    CutOff (s.run (env.reading (here ++ [.silence]))) (s.run (env.reading (here ++ later))) := by
  have stops : interruption.stop? endpoint = some .shutdown := rfl
  have heeded := heeds (s.follows_run (env.reading (here ++ [.silence])))
  cases s.run_continued env here later with
  | throughout agrees alike =>
    refine ⟨?_, ?_, fun _ => agrees⟩
    · rw [agrees.1]
      exact .refl _
    · intro reached
      obtain ⟨front, rest, split⟩ := List.append_of_mem reached
      obtain ⟨closing, ends⟩ := heeded front interruption rest _ split stops
      refine ⟨ends, front, rest, split, ?_, closing⟩
      rw [agrees.1, split]
      exact List.prefix_append _ _
  | @parting front rest₁ rest₂ e₁ e₂ stopping_eq going_eq parts =>
    obtain ⟨answer⟩ := parts
    obtain ⟨closing, ends⟩ := heeded front interruption rest₁ _ stopping_eq stops
    refine ⟨heeded.begins stopping_eq stops going_eq List.prefix_rfl, fun _ => ?_, ?_⟩
    · refine ⟨ends, front, rest₁, stopping_eq, ?_, closing⟩
      rw [going_eq]
      exact List.prefix_append _ _
    · intro unreached
      have reached : interruption ∈ front ++ interruption :: rest₁ :=
        List.mem_append_right _ List.mem_cons_self
      exact absurd (stopping_eq ▸ reached) unreached

/-- **A shutdown only truncates, and clients do not anticipate input.**  Whatever a console
brings before it stops, and whatever it would bring instead: the run that is shut down there
does a beginning of what the other run does. -/
theorem cutOff_of_silence (env : Environment) (here later : Source) :
    (∀ r : Requester,
      CutOff (r.runIn (env.reading (here ++ [.silence]))) (r.runIn (env.reading (here ++ later)))) ∧
    ∀ p : Publisher,
      CutOff (p.runIn (env.reading (here ++ [.silence])))
        (p.runIn (env.reading (here ++ later))) := by
  -- A budget that is enough for both inputs.
  let budget := max (env.reading (here ++ [.silence])).budget (env.reading (here ++ later)).budget
  refine ⟨fun r => ?_, fun p => ?_⟩
  · rw [← r.run_eq_runIn _ (Nat.le_max_left _ _ : _ ≤ budget),
      ← r.run_eq_runIn _ (Nat.le_max_right _ _ : _ ≤ budget)]
    exact cutOff_of_heeds Requester.heeds_run env here later
  · rw [← p.run_eq_runIn _ (Nat.le_max_left _ _ : _ ≤ budget),
      ← p.run_eq_runIn _ (Nat.le_max_right _ _ : _ ≤ budget)]
    exact cutOff_of_heeds Publisher.heeds_run env here later

/-! ## Shutdowns between turns -/

/-- A client that heeds what stops it does the beginning of a run up to the turn that a shutdown
comes before, and ends well there. -/
theorem begins_of_heeds {α : Type} {endpoint : Endpoint} {s : Session (Except Error α)}
    (heeds : ∀ {t value}, s.Follows t value → Heeds endpoint t value) (env : Environment)
    (turns : Nat) :
    let stopping := s.run (env.endingAt (.after turns))
    let going := s.run (env.endingAt .never)
    stopping.transcript.Begins going.transcript ∧
      (Agrees stopping going ∨ ∃ result, stopping.value = .ok result) := by
  intro stopping going
  have heeded := heeds (s.follows_run (env.endingAt (.after turns)))
  cases s.run_cut env turns with
  | throughout agrees alike =>
    refine ⟨?_, .inl agrees⟩
    rw [show going.transcript = stopping.transcript from agrees.1]
    exact .refl _
  | @parting front rest₁ rest₂ e₁ e₂ stopping_eq going_eq parts =>
    cases parts
    obtain ⟨-, ends⟩ := heeded front _ rest₁ .shutdown stopping_eq rfl
    exact ⟨heeded.begins stopping_eq rfl going_eq List.prefix_rfl, .inr ends⟩

/-- **A shutdown between turns only truncates.**  Whatever the surroundings are, and after however
many turns it comes: the run that is shut down there does a beginning of what the other run does,
and ends well unless it is the other run. -/
theorem begins_of_shutdown (env : Environment) (turns : Nat) :
    (∀ r : Requester,
      let stopping := r.runIn (env.endingAt (.after turns))
      let going := r.runIn (env.endingAt .never)
      stopping.transcript.Begins going.transcript ∧
        (Agrees stopping going ∨ stopping.value = .ok ())) ∧
    ∀ p : Publisher,
      let stopping := p.runIn (env.endingAt (.after turns))
      let going := p.runIn (env.endingAt .never)
      stopping.transcript.Begins going.transcript ∧
        (Agrees stopping going ∨ stopping.value = .ok ()) := by
  refine ⟨fun r => ?_, fun p => ?_⟩
  · obtain ⟨begins, ends⟩ := begins_of_heeds (s := r.run env.budget) Requester.heeds_run env turns
    exact ⟨begins, ends.imp_right fun ⟨_, value⟩ => value⟩
  · obtain ⟨begins, ends⟩ := begins_of_heeds (s := p.run env.budget) Publisher.heeds_run env turns
    exact ⟨begins, ends.imp_right fun ⟨_, value⟩ => value⟩

/-- A requester that is shut down before its second turn has sent its line and does not wait for
the reply. -/
example :
    let r : Requester := ⟨⟨"localhost", 5555⟩, .silent⟩
    let env := Environment.calm "ping\n" ⟨[]⟩ [⟨[Utf8.encode "pong"], ⟨0, 0, 0⟩⟩]
    let stopping := r.runIn (env.endingAt (.after 1))
    stopping.value = .ok () ∧ stopping.transcript.sent = [Utf8.encode "ping"] ∧
      stopping.transcript.received = [] := by
  decide +kernel

end MessagingConsole.Clients
