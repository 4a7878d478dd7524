import MessagingConsole.Proofs.Session.Dialing
import MessagingConsole.Proofs.Subscriber.Turns

/-!
# The whole session of a subscriber

A subscriber connects, asks for its filter, and then prints messages and closes its channel.
`Connects` and `Runs` have one constructor for each way in which that can go, so that no
later proof opens the session again.

## Main Definitions

- `Connects` - how connecting can go, and `Runs`, how a session can.

## Main Results

- `follows_connect_iff` and `follows_run_iff` - the transcripts of a session.
-/

namespace MessagingConsole.Subscriber

open Attempt (Dials)

variable {logger : Log.Logger} {endpoint : Endpoint} {filter : TopicFilter} {t : Transcript}

/-- The logger of a subscriber, which tells where it is connected and with which filter. -/
def loggerFor (logger : Log.Logger) (endpoint : Endpoint) (filter : TopicFilter) : Log.Logger :=
  logger.child [("endpoint", endpoint.text), ("filter", filter.start)]

/-- How connecting to a publisher can go. -/
inductive Connects (logger : Log.Logger) (endpoint : Endpoint) (filter : TopicFilter) :
    Transcript → Except Stop Subscriber → Prop
  | undialed {t : Transcript} {stop : Stop}
      (dials : Dials (loggerFor logger endpoint filter) endpoint t (.error stop)) :
      Connects logger endpoint filter
        ((loggerFor logger endpoint filter).noted .debug "connecting subscriber" [] ++ t)
        (.error stop)
  | unsubscribed {t : Transcript} {answer : SendAnswer} {stop : Stop}
      (dials : Dials (loggerFor logger endpoint filter) endpoint t (.ok ()))
      (untaken : answer.outcome (.subscribe endpoint filter.start) = .error stop) :
      Connects logger endpoint filter
        ((loggerFor logger endpoint filter).noted .debug "connecting subscriber" [] ++
          (t ++ [⟨.send filter.subscription, answer⟩]))
        (.error stop)
  | subscribed {t : Transcript}
      (dials : Dials (loggerFor logger endpoint filter) endpoint t (.ok ())) :
      Connects logger endpoint filter
        ((loggerFor logger endpoint filter).noted .debug "connecting subscriber" [] ++
          (t ++ ⟨.send filter.subscription, .taken⟩ ::
            (loggerFor logger endpoint filter).noted .info "subscribed" []))
        (.ok ⟨endpoint, filter, loggerFor logger endpoint filter⟩)

/-- What closing the channel leaves in a transcript. -/
def closing (s : Subscriber) (faults : List TransportFault) : Transcript :=
  s.logger.closing "error while closing subscriber" "subscriber closed" faults

/-- How a session can go. -/
inductive Runs (logger : Log.Logger) (subscription : Subscription) (budget : Nat) :
    Transcript → Except Error Nat → Prop
  /-- The client is shut down before it is connected. -/
  | shutdown {t : Transcript}
      (connects : Connects logger subscription.endpoint subscription.filter t (.error .shutdown)) :
      Runs logger subscription budget t (.ok 0)
  | unconnected {t : Transcript} {error : Error}
      (connects : Connects logger subscription.endpoint subscription.filter t
        (.error (.failed error))) :
      Runs logger subscription budget t (.error error)
  | connected {s : Subscriber} {t₁ t₂ : Transcript} {value : Except Error Nat}
      (connects : Connects logger subscription.endpoint subscription.filter t₁ (.ok s))
      (turns : Turns s subscription.format budget 0 t₂ value) (faults : List TransportFault) :
      Runs logger subscription budget (t₁ ++ (t₂ ++ s.closing faults)) value

/-- Asking for a filter, once the connection is open. -/
theorem follows_subscribe_iff {logger : Log.Logger} {result : Except Stop Subscriber} :
    Attempt.Follows
        (do
          Attempt.send (.subscribe endpoint filter.start) filter.subscription
          Session.note logger .info "subscribed" []
          return (⟨endpoint, filter, logger⟩ : Subscriber))
        t result ↔
      (∃ (answer : SendAnswer) (stop : Stop), t = [⟨.send filter.subscription, answer⟩] ∧
        answer.outcome (.subscribe endpoint filter.start) = .error stop ∧ result = .error stop) ∨
      (t = ⟨.send filter.subscription, .taken⟩ :: logger.noted .info "subscribed" [] ∧
        result = .ok ⟨endpoint, filter, logger⟩) := by
  rw [Attempt.follows_bind]
  constructor
  · rintro (⟨stop, sends, rfl⟩ | ⟨⟨⟩, t₁, t₂, rfl, sends, later⟩)
    · obtain ⟨answer, rfl, untaken⟩ := Attempt.follows_send.mp sends
      exact .inl ⟨answer, stop, rfl, untaken.symm, rfl⟩
    · obtain ⟨_ | _ | _, rfl, ⟨⟩⟩ := Attempt.follows_send.mp sends
      obtain ⟨rfl, rfl⟩ := Attempt.follows_note_pure.mp later
      exact .inr ⟨rfl, rfl⟩
  · rintro (⟨answer, stop, rfl, untaken, rfl⟩ | ⟨rfl, rfl⟩)
    · exact .inl ⟨stop, Attempt.follows_send.mpr ⟨answer, rfl, untaken.symm⟩, rfl⟩
    · refine .inr ⟨(), [_], _, rfl, Attempt.follows_send.mpr ⟨.taken, rfl, rfl⟩, ?_⟩
      exact Attempt.follows_note_pure.mpr ⟨rfl, rfl⟩

/-- The transcripts of connecting. -/
theorem follows_connect_iff {result : Except Stop Subscriber} :
    Attempt.Follows (connect logger endpoint filter) t result ↔
      Connects logger endpoint filter t result := by
  show Attempt.Follows
    (do
      Session.note (loggerFor logger endpoint filter) .debug "connecting subscriber" []
      Attempt.dial (loggerFor logger endpoint filter) endpoint
      Attempt.send (.subscribe endpoint filter.start) filter.subscription
      Session.note (loggerFor logger endpoint filter) .info "subscribed" []
      return (⟨endpoint, filter, loggerFor logger endpoint filter⟩ : Subscriber)) t result ↔ _
  rw [Attempt.follows_note_bind]
  constructor
  · rintro ⟨rest, rfl, follows⟩
    rcases Attempt.follows_bind.mp follows with
      ⟨stop, dials, rfl⟩ | ⟨⟨⟩, t₁, t₂, rfl, dials, later⟩
    · exact .undialed (Attempt.follows_dial_iff.mp dials)
    · rcases follows_subscribe_iff.mp later with ⟨answer, stop, rfl, untaken, rfl⟩ | ⟨rfl, rfl⟩
      · exact .unsubscribed (Attempt.follows_dial_iff.mp dials) untaken
      · exact .subscribed (Attempt.follows_dial_iff.mp dials)
  · intro connects
    cases connects with
    | undialed dials =>
      refine ⟨_, rfl, Attempt.follows_bind.mpr (.inl ⟨_, ?_, rfl⟩)⟩
      exact Attempt.follows_dial_iff.mpr dials
    | unsubscribed dials untaken =>
      have first := Attempt.follows_dial_iff.mpr dials
      refine ⟨_, rfl, Attempt.follows_bind.mpr (.inr ⟨(), _, _, rfl, first, ?_⟩)⟩
      exact follows_subscribe_iff.mpr (.inl ⟨_, _, rfl, untaken, rfl⟩)
    | subscribed dials =>
      have first := Attempt.follows_dial_iff.mpr dials
      refine ⟨_, rfl, Attempt.follows_bind.mpr (.inr ⟨(), _, _, rfl, first, ?_⟩)⟩
      exact follows_subscribe_iff.mpr (.inr ⟨rfl, rfl⟩)

/-- The transcripts of a session. -/
theorem follows_run_iff {subscription : Subscription} {budget : Nat} {value : Except Error Nat} :
    (run logger subscription budget).Follows t value ↔ Runs logger subscription budget t value := by
  unfold run
  rw [Session.follows_bind]
  constructor
  · rintro ⟨result, t₁, t₂, rfl, first, later⟩
    have connects := follows_connect_iff.mp first
    match result, connects, later with
    | .error .shutdown, connects, later =>
      obtain ⟨rfl, rfl⟩ := later
      rw [List.append_nil]
      exact .shutdown connects
    | .error (.failed error), connects, later =>
      obtain ⟨rfl, rfl⟩ := later
      rw [List.append_nil]
      exact .unconnected connects
    | .ok s, connects, later =>
      obtain ⟨rest, last, rfl, turns, closed⟩ := Session.follows_bind_after.mp later
      obtain ⟨faults, rfl⟩ := Session.follows_close.mp closed
      exact .connected connects (follows_printAll_iff.mp turns) faults
  · intro runs
    cases runs with
    | shutdown connects =>
      exact ⟨_, t, [], by simp, follows_connect_iff.mpr connects, rfl, rfl⟩
    | unconnected connects =>
      exact ⟨_, t, [], by simp, follows_connect_iff.mpr connects, rfl, rfl⟩
    | connected connects turns faults =>
      refine ⟨_, _, _, rfl, follows_connect_iff.mpr connects, ?_⟩
      exact Session.follows_bind_after.mpr
        ⟨_, _, rfl, follows_printAll_iff.mpr turns, Session.follows_close.mpr ⟨faults, rfl⟩⟩

end MessagingConsole.Subscriber
