import MessagingConsole.Proofs.Publisher.Turns
import MessagingConsole.Proofs.Session.Opening
import MessagingConsole.Proofs.Session.Traffic

/-!
# The whole session of a publisher

A publisher binds its endpoint, carries out commands and closes its channel.  What it knows as
its endpoint afterwards is the one that was bound, and so do its records; where nothing was
bound there is no record at all.

## Main Definitions

- `session` - binding and the run after it, as one session.
- `Binds` - how binding can go.

## Main Results

- `follows_bind_iff` and `follows_session_iff` - the transcripts of a session.
-/

namespace MessagingConsole.Publisher

variable {logger : Log.Logger} {endpoint : Endpoint} {t : Transcript}

/-- The logger of a publisher, which tells what it has bound. -/
def loggerFor (logger : Log.Logger) (bound : Endpoint) : Log.Logger :=
  logger.child [("endpoint", bound.text)]

/-- Binds an endpoint, carries out commands until there is no more, and closes the channel. -/
def session (logger : Log.Logger) (endpoint : Endpoint) (budget : Nat) :
    Session (Except Error Unit) :=
  (bind logger endpoint).andRun () fun p => p.run budget

/-- How binding can go. -/
inductive Binds (logger : Log.Logger) (endpoint : Endpoint) :
    Transcript → Except Stop Publisher → Prop
  | refused (fault : TransportFault) :
      Binds logger endpoint [⟨.bind endpoint, .error fault⟩]
        (.error (.failed (.bind endpoint fault)))
  | bound (bound : Endpoint) :
      Binds logger endpoint
        (⟨.bind endpoint, .ok bound⟩ :: (loggerFor logger bound).noted .info "publisher bound" [])
        (.ok ⟨bound, loggerFor logger bound⟩)

/-- The transcripts of binding. -/
theorem follows_bind_iff {result : Except Stop Publisher} :
    Attempt.Follows (bind logger endpoint) t result ↔ Binds logger endpoint t result := by
  unfold bind
  rw [Attempt.follows_perform_bind]
  constructor
  · rintro ⟨fault | bound, rest, rfl, follows⟩
    · obtain ⟨stop, first, rfl⟩ | ⟨bound, t₁, t₂, rfl, first, -⟩ := Attempt.follows_bind.mp follows
      · obtain ⟨rfl, ⟨⟩⟩ := Attempt.follows_orFail.mp first
        exact .refused fault
      · obtain ⟨-, ⟨⟩⟩ := Attempt.follows_orFail.mp first
    · obtain ⟨rfl, rfl⟩ := Attempt.follows_note_pure.mp follows
      exact .bound bound
  · rintro (⟨fault⟩ | ⟨bound⟩)
    · exact ⟨.error fault, [], rfl, Attempt.follows_fail.mpr ⟨rfl, rfl⟩⟩
    · exact ⟨.ok bound, _, rfl, Attempt.follows_note_pure.mpr ⟨rfl, rfl⟩⟩

/-- Binding prints nothing. -/
theorem Binds.output {result : Except Stop Publisher} (binds : Binds logger endpoint t result) :
    t.output = [] := by
  cases binds with
  | refused fault => rfl
  | bound bound => simp [Exchange.output]

/-- The transcripts of a session. -/
theorem follows_session_iff {budget : Nat} {value : Except Error Unit} :
    (session logger endpoint budget).Follows t value ↔
      Attempt.Leads (Binds logger endpoint) ()
        (fun p t value => ∃ rest faults, Rounds p budget rest value ∧ t = rest ++ p.closing faults)
        t value :=
  Attempt.follows_andRun_iff follows_bind_iff follows_run_iff

end MessagingConsole.Publisher
