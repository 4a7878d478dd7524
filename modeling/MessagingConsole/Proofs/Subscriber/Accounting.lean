import MessagingConsole.Proofs.Session.Accounting
import MessagingConsole.Proofs.Session.Consumption
import MessagingConsole.Proofs.Subscriber.Connection

/-!
# The log of a subscriber

A subscriber owes its log one record for each message that it takes from the transport, which
tells whether its filter accepts the message.  A run that ends well returns how many of these
were accepted, and reports that number when it is shut down.

## Main Definitions

- `Subscriber.ledger` - what a subscriber owes.

## Main Results

- `Subscriber.balanced_session` - the log of a whole session balances.
- `Subscriber.taken_session` - the count is the number of messages recorded as received.
-/

namespace MessagingConsole

variable {t : Transcript}

namespace Subscriber

variable {s : Subscriber} {format : LineFormat} {budget printed : Nat} {logger : Log.Logger}
  {endpoint : Endpoint} {filter : TopicFilter} {subscription : Subscription}
  {value : Except Error Nat}

/-- A subscriber owes a record for each message, which tells whether its filter accepts it. -/
def ledger (s : Subscriber) : Ledger where
  logger := s.logger
  messages := ["received message", "dropping message outside filter"]
  owed
    | ⟨.receive, .message message⟩ =>
      some (if s.filter.accepts message.topic then
        s.logger.record .trace "received message"
          [("bytes", Text.decimal message.payload.length)]
      else s.logger.record .debug "dropping message outside filter" [])
    | _ => none
  owed_eq_none := by
    rintro ⟨operation, answer⟩ idle
    cases operation <;> first | rfl | exact absurd rfl idle

theorem balanced_note {level : Log.Level} {message : String} {pairs : List Log.Pair}
    (other : message ∉ ["received message", "dropping message outside filter"]) :
    s.ledger.Balanced (s.logger.noted level message pairs) :=
  Ledger.balanced_noted other

theorem Reception.balanced {result : Except Stop Message}
    (reception : Reception s budget t result) : s.ledger.Balanced t := by
  induction reception with
  | spent => exact Ledger.balanced_nil
  | @unanswered budget answer stop stops =>
    refine Ledger.balanced_of_unowed ?_ (List.forall_mem_singleton.mpr rfl)
    refine List.forall_mem_singleton.mpr ?_
    cases answer <;> first | rfl | cases stops
  | @accepted budget message accepts =>
    have owes : s.ledger.owed ⟨.receive, .message message⟩ =
        some (s.logger.record .trace "received message"
          [("bytes", Text.decimal message.payload.length)]) :=
      congrArg some (if_pos accepts)
    exact (Ledger.balanced_entry rfl List.mem_cons_self owes).1
  | @dropped budget message t result rejects later ih =>
    have owes : s.ledger.owed ⟨.receive, .message message⟩ =
        some (s.logger.record .debug "dropping message outside filter" []) :=
      congrArg some (if_neg rejects)
    have entry := (Ledger.balanced_entry rfl (List.mem_cons_of_mem _ List.mem_cons_self) owes).1
    exact entry.append ih

theorem Turn.balanced {result : Except Stop Unit} (turn : Turn s format budget t result) :
    s.ledger.Balanced t := by
  cases turn with
  | stopped reception => exact reception.balanced
  | received reception printed =>
    exact reception.balanced.append (Ledger.balanced_of_prints printed)

theorem Turns.balanced (turns : Turns s format budget printed t value) :
    s.ledger.Balanced t := by
  induction turns with
  | spent printed => exact Ledger.balanced_nil
  | again turn later ih => exact turn.balanced.append ih
  | shutdown turn => exact turn.balanced.append (balanced_note (by decide))
  | failed turn => exact turn.balanced

theorem balanced_closing (faults : List TransportFault) : s.ledger.Balanced (s.closing faults) :=
  Ledger.balanced_closing faults
    (show "error while closing subscriber" ∉
        ["received message", "dropping message outside filter"] ∧
      "subscriber closed" ∉ ["received message", "dropping message outside filter"] by decide)

theorem Connects.balanced {result : Except Stop Subscriber}
    (connects : Connects logger endpoint filter t result) :
    (ledger ⟨endpoint, filter, loggerFor logger endpoint filter⟩).Balanced t := by
  have dial {t : Transcript} {ended : Except Stop Unit}
      (dials : Attempt.Dials (loggerFor logger endpoint filter) endpoint t ended) :
      (ledger ⟨endpoint, filter, loggerFor logger endpoint filter⟩).Balanced t :=
    Ledger.balanced_of_dials (show "waiting for endpoint to accept connections" ∉
      ["received message", "dropping message outside filter"] by decide) dials
  have sent (answer : SendAnswer) :
      (ledger ⟨endpoint, filter, loggerFor logger endpoint filter⟩).Balanced
        [⟨.send filter.subscription, answer⟩] :=
    Ledger.balanced_of_unowed (List.forall_mem_singleton.mpr rfl)
      (List.forall_mem_singleton.mpr rfl)
  cases connects with
  | undialed dials => exact (balanced_note (by decide)).append (dial dials)
  | unsubscribed dials =>
    exact (balanced_note (by decide)).append ((dial dials).append (sent _))
  | subscribed dials =>
    have subscribing : (ledger ⟨endpoint, filter, loggerFor logger endpoint filter⟩).Balanced
        (⟨.send filter.subscription, .taken⟩ ::
          (loggerFor logger endpoint filter).noted .info "subscribed" []) :=
      (sent .taken).append (balanced_note (by decide))
    exact (balanced_note (by decide)).append ((dial dials).append subscribing)

/-- **The log of a subscriber accounts for its traffic.** -/
theorem balanced_session (follows : (run logger subscription budget).Follows t value) :
    (ledger ⟨subscription.endpoint, subscription.filter,
      loggerFor logger subscription.endpoint subscription.filter⟩).Balanced t := by
  cases follows_run_iff.mp follows with
  | shutdown connects => exact connects.balanced
  | unconnected connects => exact connects.balanced
  | connected connects turns faults =>
    refine connects.balanced.append ?_
    cases connects with
    | subscribed dials => exact turns.balanced.append (balanced_closing faults)

/-! ## The messages that are counted -/

/-- Waiting for a message records the one that it ends with, and no other, as received. -/
theorem Reception.taken (keeps : s.logger.keeps .trace) {result : Except Stop Message}
    (reception : Reception s budget t result) :
    (t.about ["received message"]).length = if result.isOk then 1 else 0 := by
  induction reception with
  | spent => rfl
  | unanswered stops =>
    rw [Transcript.about_cons_of_plain rfl]
    rfl
  | accepted accepts =>
    rw [Transcript.about_cons_of_plain rfl, taking,
      Transcript.about_noted_of_keeps List.mem_cons_self keeps]
    rfl
  | dropped rejects later ih =>
    rw [Transcript.about_cons_of_plain rfl, Transcript.about_append, dropping,
      Transcript.about_noted_of_notMem (by decide)]
    exact ih

/-- A message that is printed is recorded as received, and a turn that is shut down has
recorded none. -/
theorem Turn.taken (keeps : s.logger.keeps .trace) {result : Except Stop Unit}
    (turn : Turn s format budget t result) :
    (result = .ok () → (t.about ["received message"]).length = 1) ∧
      (result = .error .shutdown → (t.about ["received message"]).length = 0) := by
  cases turn with
  | stopped reception => exact ⟨nofun, fun _ => reception.taken keeps⟩
  | received reception printed =>
    rw [Transcript.about_append, Transcript.about_of_prints printed, List.append_nil]
    refine ⟨fun _ => reception.taken keeps, ?_⟩
    rintro rfl
    cases printed

/-- A run that ends well tells how many messages it has recorded as received. -/
theorem Turns.taken (keeps : s.logger.keeps .trace) {count : Nat}
    (turns : Turns s format budget printed t value) (ends : value = .ok count) :
    printed + (t.about ["received message"]).length = count := by
  induction turns with
  | spent printed =>
    cases ends
    rfl
  | again turn later ih =>
    rw [Transcript.about_append, List.length_append, (turn.taken keeps).1 rfl]
    have rest := ih ends
    omega
  | shutdown turn =>
    cases ends
    rw [Transcript.about_append, List.length_append, (turn.taken keeps).2 rfl,
      Transcript.about_noted_of_notMem (by decide)]
    rfl
  | failed turn => cases ends

/-! ## The number that is reported -/

theorem Reception.about_shutdown {result : Except Stop Message}
    (reception : Reception s budget t result) : t.about ["shutting down"] = [] := by
  induction reception with
  | spent => rfl
  | unanswered stops => exact Transcript.about_cons_of_plain rfl
  | accepted accepts =>
    rw [Transcript.about_cons_of_plain rfl]
    exact Transcript.about_noted_of_notMem (by decide)
  | dropped rejects later ih =>
    rw [Transcript.about_cons_of_plain rfl, Transcript.about_append, dropping,
      Transcript.about_noted_of_notMem (by decide)]
    exact ih

theorem Turn.about_shutdown {result : Except Stop Unit} (turn : Turn s format budget t result) :
    t.about ["shutting down"] = [] := by
  cases turn with
  | stopped reception => exact reception.about_shutdown
  | received reception printed =>
    rw [Transcript.about_append, reception.about_shutdown]
    exact Transcript.about_of_prints printed

/-- Waiting that ends with a message has received one. -/
theorem Reception.received_pos {result : Except Stop Message}
    (reception : Reception s budget t result) (ends : result.isOk) : 0 < t.received.length := by
  cases reception with
  | spent => cases ends
  | unanswered stops => cases ends
  | accepted accepts => simp
  | dropped rejects later => simp

theorem Turn.received_pos (turn : Turn s format budget t (.ok ())) : 0 < t.received.length := by
  cases turn with
  | received reception printed =>
    rw [Transcript.received_append, List.length_append]
    exact Nat.add_pos_left (reception.received_pos rfl) _

/-- A run whose messages do not use up its budget and that ends well is shut down, and tells
so together with its count. -/
theorem Turns.told {count : Nat} (turns : Turns s format budget printed t value)
    (ends : value = .ok count) (enough : t.received.length < budget) :
    t.about ["shutting down"] =
      [s.logger.record .info "shutting down" [("printed", Text.decimal count)]].filter
        (s.logger.keeps ·.level) := by
  induction turns with
  | spent printed => exact absurd enough (Nat.not_lt_zero _)
  | again turn later ih =>
    -- A turn that goes on takes a message, so that the rest still has a turn to be shut down in.
    rw [Transcript.received_append, List.length_append] at enough
    have first := turn.received_pos
    rw [Transcript.about_append, turn.about_shutdown, List.nil_append]
    exact ih ends (by omega)
  | shutdown turn =>
    cases ends
    rw [Transcript.about_append, turn.about_shutdown, List.nil_append]
    exact Transcript.about_noted_of_mem List.mem_cons_self
  | failed turn => cases ends

/-! ## Whole sessions -/

/-- Connecting hands on records of its own only. -/
theorem Connects.about {messages : List String} {result : Except Stop Subscriber}
    (connecting : "connecting subscriber" ∉ messages)
    (waiting : "waiting for endpoint to accept connections" ∉ messages)
    (subscribed : "subscribed" ∉ messages)
    (connects : Connects logger endpoint filter t result) : t.about messages = [] := by
  cases connects with
  | undialed dials =>
    rw [Transcript.about_append, Transcript.about_noted_of_notMem connecting]
    exact Transcript.about_of_dials waiting dials
  | unsubscribed dials =>
    rw [Transcript.about_append, Transcript.about_append, Transcript.about_of_dials waiting dials,
      Transcript.about_noted_of_notMem connecting]
    exact Transcript.about_cons_of_plain rfl
  | subscribed dials =>
    rw [Transcript.about_append, Transcript.about_append, Transcript.about_of_dials waiting dials,
      Transcript.about_noted_of_notMem connecting, Transcript.about_cons_of_plain rfl]
    exact Transcript.about_noted_of_notMem subscribed

theorem about_closing {messages : List String} (faults : List TransportFault)
    (others : "error while closing subscriber" ∉ messages ∧ "subscriber closed" ∉ messages) :
    (s.closing faults).about messages = [] :=
  Transcript.about_closing_of_notMem others.1 others.2

/-- A subscriber has not asked for its filter before it is connected. -/
theorem Connects.notMem_sent (connects : Connects logger endpoint filter t (.error .shutdown)) :
    filter.subscription ∉ t.sent := by
  cases connects with
  | undialed dials =>
    rw [Transcript.sent_append, Log.Logger.sent_noted, dials.sent]
    exact List.not_mem_nil
  | unsubscribed dials untaken =>
    simp [dials.sent, Exchange.sent?_of_stop untaken]

/-- **The count that a session returns is the number of messages that it has recorded as
received.** -/
theorem taken_session {count : Nat} (keeps : logger.keeps .trace)
    (follows : (run logger subscription budget).Follows t (.ok count)) :
    (t.about ["received message"]).length = count := by
  cases follows_run_iff.mp follows with
  | shutdown connects =>
    rw [connects.about (by decide) (by decide) (by decide)]
    rfl
  | connected connects turns =>
    rw [Transcript.about_append, Transcript.about_append, about_closing _ (by decide),
      connects.about (by decide) (by decide) (by decide), List.append_nil, List.nil_append]
    cases connects with
    | subscribed dials => rw [← turns.taken keeps rfl, Nat.zero_add]

/-- **A session that is shut down once it is connected reports the count that it returns.** -/
theorem told_session {count : Nat}
    (follows : (run logger subscription budget).Follows t (.ok count))
    (connected : subscription.filter.subscription ∈ t.sent)
    (enough : t.received.length < budget) :
    t.about ["shutting down"] =
      [(loggerFor logger subscription.endpoint subscription.filter).record .info "shutting down"
        [("printed", Text.decimal count)]].filter
          ((loggerFor logger subscription.endpoint subscription.filter).keeps ·.level) := by
  cases follows_run_iff.mp follows with
  | shutdown connects => exact absurd connected connects.notMem_sent
  | @connected s t₁ t₂ value connects turns =>
    have few : t₂.received.length < budget := by
      rw [Transcript.received_append, Transcript.received_append, List.length_append,
        List.length_append] at enough
      omega
    rw [Transcript.about_append, Transcript.about_append, about_closing _ (by decide),
      connects.about (by decide) (by decide) (by decide), List.append_nil, List.nil_append]
    cases connects with
    | subscribed dials => exact turns.told rfl few

end Subscriber

end MessagingConsole
