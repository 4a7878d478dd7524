import MessagingConsole.Proofs.Session.Restriction
import MessagingConsole.Proofs.Subscriber.Connection

/-!
# A subscriber with another logger

A subscriber whose logger restricts to another one restricts to the subscriber with that, in
waiting for a message, in printing and in listing messages, and in whole sessions.

## Main Results

- `Subscriber.restrictsTo_session` - sessions of a subscriber with two loggers.
-/

namespace MessagingConsole.Subscriber

variable {keep : Log.Record → Bool} {more less : Log.Logger} {endpoint : Endpoint}
  {filter : TopicFilter} {format : LineFormat} {t : Transcript} {budget printed : Nat}
  {value : Except Error Nat}

theorem Reception.keeping (restricts : more.RestrictsTo keep less) {result : Except Stop Message}
    (reception : Reception ⟨endpoint, filter, more⟩ budget t result) :
    Reception ⟨endpoint, filter, less⟩ budget (t.keeping keep) result := by
  induction reception with
  | spent => exact .spent
  | unanswered stops => exact .unanswered stops
  | @accepted budget message accepts =>
    have noted : (taking ⟨endpoint, filter, more⟩ message).keeping keep =
        taking ⟨endpoint, filter, less⟩ message :=
      restricts ..
    rw [Transcript.keeping_cons_of_plain rfl, noted]
    exact .accepted accepts
  | dropped rejects later ih =>
    have noted : (dropping ⟨endpoint, filter, more⟩).keeping keep =
        dropping ⟨endpoint, filter, less⟩ :=
      restricts ..
    rw [Transcript.keeping_cons_of_plain rfl, Transcript.keeping_append, noted]
    exact .dropped rejects ih

theorem Turn.keeping (restricts : more.RestrictsTo keep less) {result : Except Stop Unit}
    (turn : Turn ⟨endpoint, filter, more⟩ format budget t result) :
    Turn ⟨endpoint, filter, less⟩ format budget (t.keeping keep) result := by
  cases turn with
  | stopped reception => exact .stopped (reception.keeping restricts)
  | received reception printed =>
    rw [Transcript.keeping_append, Transcript.keeping_of_prints printed]
    exact .received (reception.keeping restricts) printed

theorem Turns.keeping (restricts : more.RestrictsTo keep less)
    (turns : Turns ⟨endpoint, filter, more⟩ format budget printed t value) :
    Turns ⟨endpoint, filter, less⟩ format budget printed (t.keeping keep) value := by
  induction turns with
  | spent printed => exact .spent printed
  | again turn later ih =>
    rw [Transcript.keeping_append]
    exact .again (turn.keeping restricts) ih
  | shutdown turn =>
    rw [Transcript.keeping_append, restricts]
    exact .shutdown (turn.keeping restricts)
  | failed turn => exact .failed (turn.keeping restricts)

theorem restrictsTo_receive (restricts : more.RestrictsTo keep less) (budget : Nat) :
    (receive ⟨endpoint, filter, more⟩ budget).run.RestrictsTo keep Eq
      (receive ⟨endpoint, filter, less⟩ budget).run :=
  .of_follows fun follows =>
    follows_receive_iff.mpr ((follows_receive_iff.mp follows).keeping restricts)

/-- Printing messages once it is connected. -/
theorem restrictsTo_printAll (restricts : more.RestrictsTo keep less) (endpoint : Endpoint)
    (filter : TopicFilter) (format : LineFormat) (budget printed : Nat) :
    (printAll ⟨endpoint, filter, more⟩ format budget printed).RestrictsTo keep Eq
      (printAll ⟨endpoint, filter, less⟩ format budget printed) :=
  .of_follows fun follows =>
    follows_printAll_iff.mpr ((follows_printAll_iff.mp follows).keeping restricts)

/-- A stream whose subscriber has another logger. -/
def Feed.withLogger (logger : Log.Logger) : Feed → Feed
  | .waiting s => .waiting { s with logger }
  | .failed => .failed
  | .finished => .finished

/-- Asking a stream for its next item leaves the stream as it is with the other logger. -/
theorem restrictsTo_next (restricts : more.RestrictsTo keep less) (budget : Nat) (feed : Feed) :
    ((feed.withLogger more).next budget).RestrictsTo keep
      (fun asked asked' => ∃ answer later,
        asked = (answer, Feed.withLogger more later) ∧ asked' = (answer, later.withLogger less))
      ((feed.withLogger less).next budget) := by
  cases feed with
  | waiting s =>
    refine .bind (restrictsTo_receive restricts budget) fun result _ same => ?_
    subst same
    match result with
    | .ok message => exact .pure ⟨_, .waiting s, rfl, rfl⟩
    | .error (.failed error) => exact .pure ⟨_, .failed, rfl, rfl⟩
    | .error .shutdown => exact .pure ⟨_, .waiting s, rfl, rfl⟩
  | failed => exact .pure ⟨_, .finished, rfl, rfl⟩
  | finished => exact .pure ⟨_, .finished, rfl, rfl⟩

theorem restrictsTo_take (restricts : more.RestrictsTo keep less) (budget count : Nat)
    (feed : Feed) :
    ((feed.withLogger more).take budget count).RestrictsTo keep Eq
      ((feed.withLogger less).take budget count) := by
  induction count generalizing feed with
  | zero => exact .pure rfl
  | succ count ih =>
    refine .bind (restrictsTo_next restricts budget feed) ?_
    rintro _ _ ⟨answer, later, rfl, rfl⟩
    cases answer with
    | item item =>
      refine .bind (ih later) fun others _ same => ?_
      subst same
      exact .pure rfl
    | interrupted => exact .pure rfl
    | ended => exact .pure rfl
    | exhausted => exact .pure rfl

/-- Listing messages once it is connected. -/
theorem restrictsTo_messages (restricts : more.RestrictsTo keep less) (endpoint : Endpoint)
    (filter : TopicFilter) (budget count : Nat) :
    (messages ⟨endpoint, filter, more⟩ budget count).RestrictsTo keep Eq
      (messages ⟨endpoint, filter, less⟩ budget count) :=
  restrictsTo_take restricts budget count (.waiting ⟨endpoint, filter, less⟩)

/-- Connecting ends alike, with the logger of either subscriber. -/
theorem Connects.keeping (restricts : more.RestrictsTo keep less)
    {result : Except Stop Subscriber} (connects : Connects more endpoint filter t result) :
    Connects less endpoint filter (t.keeping keep)
      (result.map fun _ => ⟨endpoint, filter, loggerFor less endpoint filter⟩) := by
  have child : (loggerFor more endpoint filter).RestrictsTo keep
      (loggerFor less endpoint filter) :=
    restricts.child _
  cases connects with
  | undialed dials =>
    rw [Transcript.keeping_append, child]
    exact .undialed (dials.keeping child)
  | unsubscribed dials untaken =>
    rw [Transcript.keeping_append, Transcript.keeping_append, child]
    exact .unsubscribed (dials.keeping child) untaken
  | subscribed dials =>
    rw [Transcript.keeping_append, Transcript.keeping_append,
      Transcript.keeping_cons_of_plain rfl, child, child]
    exact .subscribed (dials.keeping child)

/-- **The session of a subscriber restricts to the one with another logger.** -/
theorem restrictsTo_session (restricts : more.RestrictsTo keep less)
    (subscription : Subscription) (budget : Nat) :
    (run more subscription budget).RestrictsTo keep Eq (run less subscription budget) := by
  refine .of_follows fun follows => follows_run_iff.mpr ?_
  cases follows_run_iff.mp follows with
  | shutdown connects => exact .shutdown (connects.keeping restricts)
  | unconnected connects => exact .unconnected (connects.keeping restricts)
  | connected connects turns faults =>
    have child : (loggerFor more subscription.endpoint subscription.filter).RestrictsTo keep
        (loggerFor less subscription.endpoint subscription.filter) :=
      restricts.child _
    rw [Transcript.keeping_append, Transcript.keeping_append]
    have opens := connects.keeping restricts
    cases connects with
    | subscribed dials =>
      rw [closing, Transcript.keeping_closing child]
      exact .connected opens (turns.keeping child) faults

end MessagingConsole.Subscriber
