import MessagingConsole.Proofs.Publisher.Accounting
import MessagingConsole.Proofs.Requester.Accounting
import MessagingConsole.Proofs.Session.Surroundings
import MessagingConsole.Proofs.Subscriber.Accounting

/-!
# The logs of the clients

What the log of a client tells about its traffic, for every session, whatever it is answered
and wherever it is stopped.  The records of the traffic are those that the ledger of the client
owes, in order and without any other, and every record tells where the client is connected.
Beyond that the requests and replies of a requester come by turns, and the count that a
subscriber returns is the number of the messages that it has recorded as received, which is
also the number that it reports.

## Main Definitions

- `Requester.Recounts`, `Publisher.Recounts`, `Subscriber.Recounts` - what a log tells.

## Main Results

- `Clients.log_accounts_for_traffic` - the logs of all sessions account for their traffic.
-/

namespace MessagingConsole

variable {t : Transcript} {logger : Log.Logger}

/-- What the log of a requester tells about its traffic. -/
structure Requester.Recounts (r : Requester) (t : Transcript) : Prop where
  balanced : r.ledger.Balanced t
  /-- Requests and replies come by turns. -/
  alternating : Alternating "sending request" "received reply"
    ((t.about r.ledger.messages).map (·.message))
  /-- What it tries to send are the lines that it hears. -/
  echoes : t.Echoes
  endpoint : ∀ record ∈ t.records, ("endpoint", r.endpoint.text) ∈ record.pairs

/-- What the log of a publisher tells about its traffic. -/
structure Publisher.Recounts (p : Publisher) (t : Transcript) : Prop where
  balanced : p.ledger.Balanced t
  endpoint : ∀ record ∈ t.records, ("endpoint", p.endpoint.text) ∈ record.pairs

/-- What the log of a subscriber tells about its traffic and about what it returns. -/
structure Subscriber.Recounts (s : Subscriber) (t : Transcript) (value : Except Error Nat) :
    Prop where
  balanced : s.ledger.Balanced t
  /-- The count that it returns is that of the messages that it has recorded as received. -/
  counted : s.logger.keeps .trace → ∀ count, value = .ok count →
    (t.about ["received message"]).length = count
  endpoint : ∀ record ∈ t.records, ("endpoint", s.endpoint.text) ∈ record.pairs
  filter : ∀ record ∈ t.records, ("filter", s.filter.start) ∈ record.pairs

/-- What a logger adds to its context is in every record. -/
theorem Ledger.Balanced.mem_pairs {ledger : Ledger} {pairs : List Log.Pair} {pair : Log.Pair}
    (balanced : ledger.Balanced t) (child : ledger.logger = logger.child pairs)
    (mem : pair ∈ pairs) : ∀ record ∈ t.records, pair ∈ record.pairs := by
  intro record recorded
  have context := balanced.context record recorded
  rw [child] at context
  exact context.subset (List.mem_append_right _ mem)

theorem Requester.recounts_session {endpoint : Endpoint} {budget : Nat}
    {value : Except Error Unit} (follows : (session logger endpoint budget).Follows t value) :
    Recounts ⟨endpoint, loggerFor logger endpoint⟩ t where
  balanced := balanced_session follows
  alternating := by
    have messages := map_about (balanced_session follows)
    have turns := alternating_session follows
    rw [show (ledger ⟨endpoint, loggerFor logger endpoint⟩).messages =
      ["sending request", "received reply"] from rfl, messages]
    split
    · exact turns
    · trivial
  echoes := echoes_session follows
  endpoint := (balanced_session follows).mem_pairs rfl List.mem_cons_self

theorem Subscriber.recounts_session {subscription : Subscription} {budget : Nat}
    {value : Except Error Nat} (follows : (run logger subscription budget).Follows t value) :
    Recounts ⟨subscription.endpoint, subscription.filter,
      loggerFor logger subscription.endpoint subscription.filter⟩ t value where
  balanced := balanced_session follows
  counted := by
    rintro keeps count rfl
    have kept : logger.keeps .trace := keeps
    exact taken_session kept follows
  endpoint := (balanced_session follows).mem_pairs rfl List.mem_cons_self
  filter := (balanced_session follows).mem_pairs rfl (List.mem_cons_of_mem _ List.mem_cons_self)

namespace Clients

/-- **The log accounts for the traffic.**  The records of every session are those that its
client owes.  A publisher whose endpoint cannot be bound leaves no record, and a subscriber
that is shut down once it is connected reports the count that it returns, in one record. -/
theorem log_accounts_for_traffic (logger : Log.Logger) :
    (∀ (endpoint : Endpoint) (budget : Nat) (t : Transcript) (value : Except Error Unit),
      (Requester.session logger endpoint budget).Follows t value →
        Requester.Recounts ⟨endpoint, Requester.loggerFor logger endpoint⟩ t) ∧
    (∀ (endpoint : Endpoint) (budget : Nat) (t : Transcript) (value : Except Error Unit),
      (Publisher.session logger endpoint budget).Follows t value →
        ∃ answer rest, t = ⟨.bind endpoint, answer⟩ :: rest ∧
          match answer with
          | .error _ => t.records = []
          | .ok bound => Publisher.Recounts ⟨bound, Publisher.loggerFor logger bound⟩ t) ∧
    (∀ (subscription : Subscription) (budget : Nat) (t : Transcript) (value : Except Error Nat),
      (Subscriber.run logger subscription budget).Follows t value →
        Subscriber.Recounts ⟨subscription.endpoint, subscription.filter,
          Subscriber.loggerFor logger subscription.endpoint subscription.filter⟩ t value) ∧
    ∀ (subscription : Subscription) (env : Environment) (count : Nat),
      let session := Subscriber.runIn logger subscription env
      session.value = .ok count → subscription.filter.subscription ∈ session.transcript.sent →
        let child := Subscriber.loggerFor logger subscription.endpoint subscription.filter
        session.transcript.about ["shutting down"] =
          [child.record .info "shutting down" [("printed", Text.decimal count)]].filter
            (child.keeps ·.level) := by
  refine ⟨?_, ?_, ?_, ?_⟩
  · intro endpoint budget t value follows
    exact Requester.recounts_session follows
  · intro endpoint budget t value follows
    obtain ⟨answer, rest, begins, recounts⟩ := Publisher.balanced_session follows
    refine ⟨answer, rest, begins, ?_⟩
    cases answer with
    | error fault => exact recounts
    | ok bound => exact ⟨recounts, recounts.mem_pairs rfl List.mem_cons_self⟩
  · intro subscription budget t value follows
    exact Subscriber.recounts_session follows
  · intro subscription env count session ends connected child
    have follows := Session.follows_run (Subscriber.run logger subscription env.budget) env
    rw [show ((Subscriber.run logger subscription env.budget).run env).value = .ok count
      from ends] at follows
    refine Subscriber.told_session follows connected ?_
    have few : session.env.link.arrivals.length + session.transcript.received.length ≤
        env.link.arrivals.length :=
      (Session.gives_run (Subscriber.run logger subscription env.budget) env).received_le
    show session.transcript.received.length < env.budget
    unfold Environment.budget
    omega

/-- A session of each client with a logger that keeps everything.  The broadcast is confirmed, and
its record is the only entry of the publisher. -/
theorem log_accounts_for_traffic_of_calm :
    let logger := Log.Logger.root .trace "pqsub"
    let endpoint : Endpoint := ⟨"0.0.0.0", 5556⟩
    let subscription : Subscription := ⟨⟨"localhost", 5556⟩, ⟨"he"⟩, .plain⟩
    let files : FileTree := ⟨[([Utf8.encode "motd"], .file (Utf8.encode "hello\n"))]⟩
    let messages : List Message :=
      [⟨[Utf8.encode "hello"], ⟨0, 0, 0⟩⟩, ⟨[Utf8.encode "bye"], ⟨0, 0, 0⟩⟩]
    let env := Environment.calm "send motd\nYES\n" files messages
    let request := (Requester.session logger endpoint 5).run env
    let publication := (Publisher.session logger endpoint 5).run env
    let printing := Subscriber.runIn logger subscription env
    let child := Subscriber.loggerFor logger subscription.endpoint subscription.filter
    Requester.Recounts ⟨endpoint, Requester.loggerFor logger endpoint⟩ request.transcript ∧
    Publisher.Recounts ⟨endpoint, Publisher.loggerFor logger endpoint⟩ publication.transcript ∧
    publication.transcript.about ["publishing", "rejected broadcast"] =
      [(Publisher.loggerFor logger endpoint).record .debug "publishing" [("bytes", "5")]] ∧
    (printing.transcript.about ["received message"]).length = 1 ∧
    printing.transcript.about ["shutting down"] =
      [child.record .info "shutting down" [("printed", "1")]] := by
  intro logger endpoint subscription files messages env request publication printing child
  obtain ⟨requesters, publishers, subscribers, reports⟩ := log_accounts_for_traffic logger
  have prints : printing.value = .ok 1 := by decide +kernel
  have connected : subscription.filter.subscription ∈ printing.transcript.sent := by
    decide +kernel
  have publishes : Publisher.Recounts ⟨endpoint, Publisher.loggerFor logger endpoint⟩
      publication.transcript := by
    obtain ⟨answer, rest, begins, recounts⟩ :=
      publishers endpoint 5 _ _ (Session.follows_run _ env)
    have gives := Session.gives_run (Publisher.session logger endpoint 5) env
    rw [begins] at gives
    obtain ⟨rfl, -⟩ := Environment.gives_cons.mp gives
    have bound : (env.answer (.bind endpoint)).1 = .ok endpoint := by decide +kernel
    rw [bound] at recounts
    exact recounts
  refine ⟨requesters endpoint 5 _ _ (Session.follows_run _ env), publishes, ?_, ?_, ?_⟩
  · have owed : publication.transcript.filterMap
        (Publisher.ledger ⟨endpoint, Publisher.loggerFor logger endpoint⟩).owed =
          [(Publisher.loggerFor logger endpoint).record .debug "publishing" [("bytes", "5")]] := by
      decide +kernel
    refine publishes.balanced.entries.trans ?_
    rw [owed]
    decide +kernel
  · have recounts := subscribers subscription env.budget _ _ (Session.follows_run _ env)
    exact recounts.counted rfl 1 prints
  · have report := reports subscription env 1 prints connected
    exact report

end Clients

end MessagingConsole
