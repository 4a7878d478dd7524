import MessagingConsole.Proofs.Publisher.Endings
import MessagingConsole.Proofs.Requester.Endings
import MessagingConsole.Proofs.Session.OutputLimits
import MessagingConsole.Proofs.Subscriber.Turns

/-!
# Failures of the output only truncate

A run of a client whose output fails at some octet, or at some flush, beside the run of the
same client whose output takes everything.  As long as nothing has failed the two runs are
one and the same; and the failure stops the client at once, so that what is put out, sent
and received is cut off there and nothing else changes.

Both halves are general.  That the runs agree up to the failure holds of every session, and
that nothing comes after it holds of every session that heeds what stops it.

## Main Definitions

- `BreaksOff` - a run that is stopped by a failure of its output, beside a whole one.
- `Truncated` - what limits on the octets and on the flushes do to a run.

## Main Results

- `truncated_of_limits` - the three clients are truncated by their outputs.
-/

namespace MessagingConsole.Clients

variable {α : Type} {free limited : Outcome (Except Error α)}

/-- A run that is stopped by a failure of its output, beside the run that is not: it puts
out, sends and receives a beginning of what the whole run does, and after the exchange
that failed there are only records and the closing of the channel. -/
structure BreaksOff (reason : String) (free limited : Outcome (Except Error α)) : Prop where
  value : limited.value = .error (.console reason)
  begins : limited.transcript.Begins free.transcript
  last : ∃ front failed rest, limited.transcript = front ++ failed :: rest ∧
    failed.failure? = some reason ∧ ∀ e ∈ rest, e.isClosing

/-- What limits do to a run: `free` has an output that takes everything, that of `short`
takes `n` octets and then fails, and that of `hasty` lets `n` flushes through and then
fails. -/
structure Truncated (n : Nat) (free short hasty : Outcome (Except Error α)) : Prop where
  fits : free.transcript.output.length ≤ n → Agrees free short
  exceeds : n < free.transcript.output.length →
    short.transcript.output = free.transcript.output.take n ∧ BreaksOff "output closed" free short
  flushes : free.transcript.flushes ≤ n → Agrees free hasty
  overflushes : n < free.transcript.flushes → BreaksOff "flush failed" free hasty

/-- A client that heeds what stops it breaks off where its output has failed. -/
theorem breaksOff_of_parting {endpoint : Endpoint} {reason : String}
    {front rest₁ rest₂ : Transcript} {taken failed : Exchange}
    (heeds : Heeds endpoint limited.transcript limited.value)
    (free_eq : free.transcript = front ++ taken :: rest₁)
    (limited_eq : limited.transcript = front ++ failed :: rest₂)
    (failure : failed.failure? = some reason) (cut : failed.output <+: taken.output) :
    limited.transcript.output = front.output ++ failed.output ∧ BreaksOff reason free limited := by
  have stops := Exchange.stop?_of_failure? endpoint failure
  obtain ⟨closing, ends⟩ := heeds front failed rest₂ _ limited_eq stops
  have begins := heeds.begins limited_eq stops free_eq cut
  exact ⟨(heeds.traffic limited_eq stops).1, ends, begins, front, failed, rest₂, limited_eq,
    failure, closing⟩

section Heeding

variable {endpoint : Endpoint} {s : Session (Except Error α)}
  (heeds : ∀ {t value}, s.Follows t value → Heeds endpoint t value) (env : Environment) (n : Nat)

include heeds

/-- A run on an output that takes `n` octets is the whole run, if that has no more, or it
breaks off after the first `n`. -/
theorem agrees_or_exceeds :
    let free := s.run (env.printingTo .unlimited)
    let short := s.run (env.printingTo (.taking n))
    (free.transcript.output.length ≤ n ∧ Agrees free short) ∨
    (n < free.transcript.output.length ∧
      short.transcript.output = free.transcript.output.take n ∧
      BreaksOff "output closed" free short) := by
  intro free short
  cases s.run_limited env (.taking n) with
  | throughout agrees alike => exact .inl ⟨alike.takes.octets n rfl, agrees⟩
  | @parting front rest₁ rest₂ _ _ free_eq short_eq parts =>
    rw [List.nil_append] at parts
    cases parts with
    | @write bytes room limit fits full =>
      cases limit
      obtain ⟨output, breaks⟩ := breaksOff_of_parting (heeds (s.follows_run _)) free_eq short_eq
        rfl (List.take_prefix _ bytes)
      have whole : free.transcript.output =
          front.output ++ (bytes ++ Transcript.output rest₁) := by
        simp [free, free_eq, Exchange.output]
      have first : n - front.output.length ≤ bytes.length := by omega
      refine .inr ⟨?_, ?_, breaks⟩
      · rw [whole, List.length_append, List.length_append]
        omega
      · rw [output, whole, List.take_append, List.take_of_length_le fits,
          List.take_append_of_le_length first]
        rfl
    | flush limit => cases limit

/-- A run on an output that lets `n` flushes through is the whole run, if that has no more,
or it breaks off at the next one. -/
theorem agrees_or_overflushes :
    let free := s.run (env.printingTo .unlimited)
    let hasty := s.run (env.printingTo (.flushing n))
    (free.transcript.flushes ≤ n ∧ Agrees free hasty) ∨
    (n < free.transcript.flushes ∧ BreaksOff "flush failed" free hasty) := by
  intro free hasty
  cases s.run_limited env (.flushing n) with
  | throughout agrees alike => exact .inl ⟨alike.takes.flushes n rfl, agrees⟩
  | @parting front rest₁ rest₂ _ _ free_eq hasty_eq parts =>
    rw [List.nil_append] at parts
    cases parts with
    | write limit => cases limit
    | flush limit =>
      obtain ⟨-, breaks⟩ := breaksOff_of_parting (heeds (s.follows_run _)) free_eq hasty_eq
        rfl List.nil_prefix
      refine .inr ⟨?_, breaks⟩
      have count : n = front.flushes := Option.some.inj limit
      have one : Transcript.flushes [⟨.flush, true⟩] = 1 := rfl
      rw [show free.transcript = _ from free_eq, ← List.singleton_append,
        Transcript.flushes_append, Transcript.flushes_append, count]
      omega

/-- A client that heeds what stops it is truncated by its output. -/
theorem truncated_of_heeds :
    Truncated n (s.run (env.printingTo .unlimited)) (s.run (env.printingTo (.taking n)))
      (s.run (env.printingTo (.flushing n))) := by
  have octets := agrees_or_exceeds heeds env n
  have flushes := agrees_or_overflushes heeds env n
  constructor
  · intro fits
    rcases octets with ⟨-, agrees⟩ | ⟨exceeds, -⟩
    · exact agrees
    · exact absurd fits (Nat.not_le_of_lt exceeds)
  · intro exceeds
    rcases octets with ⟨fits, -⟩ | ⟨-, breaks⟩
    · exact absurd fits (Nat.not_le_of_lt exceeds)
    · exact breaks
  · intro few
    rcases flushes with ⟨-, agrees⟩ | ⟨many, -⟩
    · exact agrees
    · exact absurd few (Nat.not_le_of_lt many)
  · intro many
    rcases flushes with ⟨few, -⟩ | ⟨-, breaks⟩
    · exact absurd few (Nat.not_le_of_lt many)
    · exact breaks

end Heeding

/-- **Failures of the output only truncate.**  For every console, all files, every network
and every number: a client whose output takes so many octets puts out the first ones of
what it would put out otherwise, and breaks off there; one whose output lets so many flushes
through breaks off at the next one; and where the limit is not reached, nothing changes. -/
theorem truncated_of_limits (env : Environment) (n : Nat) :
    (∀ r : Requester,
      Truncated n (r.runIn (env.printingTo .unlimited)) (r.runIn (env.printingTo (.taking n)))
        (r.runIn (env.printingTo (.flushing n)))) ∧
    (∀ p : Publisher,
      Truncated n (p.runIn (env.printingTo .unlimited)) (p.runIn (env.printingTo (.taking n)))
        (p.runIn (env.printingTo (.flushing n)))) ∧
    ∀ (s : Subscriber) (format : LineFormat),
      let printing := s.printAll format env.budget 0
      Truncated n (printing.run (env.printingTo .unlimited))
        (printing.run (env.printingTo (.taking n)))
        (printing.run (env.printingTo (.flushing n))) := by
  refine ⟨fun r => ?_, fun p => ?_, fun s format => ?_⟩
  · exact truncated_of_heeds (s := r.run env.budget) Requester.heeds_run env n
  · exact truncated_of_heeds (s := p.run env.budget) Publisher.heeds_run env n
  · exact truncated_of_heeds Subscriber.heeds_printAll env n

end MessagingConsole.Clients
