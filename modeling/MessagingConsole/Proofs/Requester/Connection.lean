import MessagingConsole.Proofs.Requester.Turns
import MessagingConsole.Proofs.Session.Dialing
import MessagingConsole.Proofs.Session.Opening

/-!
# The whole session of a requester

A requester connects, takes its turns and closes its channel.  `Connects` has one constructor
for each way in which connecting can go, and what follows is told by `Attempt.Leads`, so that no
later proof opens the requester again.

## Main Definitions

- `session` - connecting and the run after it, as one session.
- `Connects` - how connecting can go.

## Main Results

- `follows_connect_iff` and `follows_session_iff` - the transcripts of a session.
-/

namespace MessagingConsole.Requester

open Attempt (Dials)

variable {logger : Log.Logger} {endpoint : Endpoint} {t : Transcript}

/-- The logger of a requester, which tells where it is connected. -/
def loggerFor (logger : Log.Logger) (endpoint : Endpoint) : Log.Logger :=
  logger.child [("endpoint", endpoint.text)]

/-- Connects, takes turns until that is over, and closes the channel.  A shutdown while it is
still connecting is no error. -/
def session (logger : Log.Logger) (endpoint : Endpoint) (budget : Nat) :
    Session (Except Error Unit) :=
  (connect logger endpoint).andRun () fun r => r.run budget

/-- How connecting to a server can go. -/
inductive Connects (logger : Log.Logger) (endpoint : Endpoint) :
    Transcript → Except Stop Requester → Prop
  | undialed {t : Transcript} {stop : Stop}
      (dials : Dials (loggerFor logger endpoint) endpoint t (.error stop)) :
      Connects logger endpoint
        ((loggerFor logger endpoint).noted .debug "connecting requester" [] ++ t) (.error stop)
  | dialed {t : Transcript} (dials : Dials (loggerFor logger endpoint) endpoint t (.ok ())) :
      Connects logger endpoint
        ((loggerFor logger endpoint).noted .debug "connecting requester" [] ++
          (t ++ (loggerFor logger endpoint).noted .info "connected" []))
        (.ok ⟨endpoint, loggerFor logger endpoint⟩)

/-- The transcripts of connecting. -/
theorem follows_connect_iff {result : Except Stop Requester} :
    Attempt.Follows (connect logger endpoint) t result ↔ Connects logger endpoint t result := by
  show Attempt.Follows
    (do
      Session.note (loggerFor logger endpoint) .debug "connecting requester" []
      Attempt.dial (loggerFor logger endpoint) endpoint
      Session.note (loggerFor logger endpoint) .info "connected" []
      return (⟨endpoint, loggerFor logger endpoint⟩ : Requester)) t result ↔ _
  rw [Attempt.follows_note_bind]
  constructor
  · rintro ⟨rest, rfl, follows⟩
    rcases Attempt.follows_bind.mp follows with
      ⟨stop, dials, rfl⟩ | ⟨⟨⟩, t₁, t₂, rfl, dials, later⟩
    · exact .undialed (Attempt.follows_dial_iff.mp dials)
    · obtain ⟨rfl, rfl⟩ := Attempt.follows_note_pure.mp later
      exact .dialed (Attempt.follows_dial_iff.mp dials)
  · intro connects
    cases connects with
    | undialed dials =>
      refine ⟨_, rfl, Attempt.follows_bind.mpr (.inl ⟨_, ?_, rfl⟩)⟩
      exact Attempt.follows_dial_iff.mpr dials
    | dialed dials =>
      have first := Attempt.follows_dial_iff.mpr dials
      refine ⟨_, rfl, Attempt.follows_bind.mpr (.inr ⟨(), _, _, rfl, first, ?_⟩)⟩
      exact Attempt.follows_note_pure.mpr ⟨rfl, rfl⟩

/-- Connecting prints nothing. -/
theorem Connects.output {result : Except Stop Requester}
    (connects : Connects logger endpoint t result) : t.output = [] := by
  cases connects with
  | undialed dials => simp [dials.quiet.1]
  | dialed dials => simp [dials.quiet.1]

/-- The transcripts of a session. -/
theorem follows_session_iff {budget : Nat} {value : Except Error Unit} :
    (session logger endpoint budget).Follows t value ↔
      Attempt.Leads (Connects logger endpoint) ()
        (fun r t value => ∃ rest faults, Turns r budget .awaitingInput rest value ∧
          t = rest ++ r.closing faults)
        t value :=
  Attempt.follows_andRun_iff follows_connect_iff follows_run_iff

end MessagingConsole.Requester
