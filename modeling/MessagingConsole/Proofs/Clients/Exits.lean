import MessagingConsole.Proofs.Publisher.Endings
import MessagingConsole.Proofs.Requester.Alternation
import MessagingConsole.Proofs.Requester.Endings
import MessagingConsole.Proofs.Session.Closing
import MessagingConsole.Proofs.Subscriber.Connection

/-!
# The exits of the clients

A client leaves its loop at the end of its input, at `quit`, at a shutdown or with an error,
and it closes its channel on every one of these ways.  The errors that it can leave with are
those of the operations it asks for: none of the three ever ends with an event out of turn,
and what is wrong with a broadcast is no error of the publisher.

Nothing is assumed about the answers, so that the exits are those in every environment.  Only
that a requester which ends well has come to the end of its session is about environments:
there its turns do not run out.

## Main Definitions

- `Requester.Fails`, `Publisher.Fails`, `Subscriber.Fails` - the errors of the three clients.
- `Requester.Finishes` - a session that has come to its end.

## Main Results

- `exits_close` - every exit is one of these and closes the channel once.
-/

namespace MessagingConsole

open Terminal (Prints)

variable {t : Transcript}

/-- A stop is a shutdown, or one of some errors. -/
def Stop.Within (Fails : Error → Prop) : Stop → Prop
  | .shutdown => True
  | .failed error => Fails error

/-- Sending a message is stopped by the shutdown, or with the error of it. -/
theorem SendAnswer.within {Fails : Error → Prop} {error : TransportFault → Error}
    (sending : ∀ fault, Fails (error fault)) {answer : SendAnswer} {stop : Stop}
    (untaken : answer.outcome error = .error stop) : stop.Within Fails := by
  cases answer with
  | taken => cases untaken
  | fault fault =>
    cases untaken
    exact sending fault
  | interrupted =>
    cases untaken
    trivial

/-- A turn that a shutdown can come before is stopped by that, or by what stops the turn. -/
theorem Session.Passes.within {α : Type} {Turn : Transcript → α → Prop} {stopped value : α}
    {Fails : Error → Prop} {stop : Stop} {t : Transcript}
    (pass : Session.Passes Turn stopped t value) (stopOf : α → Option Stop)
    (shutdown : stopOf stopped = some .shutdown) (stops : stopOf value = some stop)
    (inside : ∀ {t}, Turn t value → stop.Within Fails) : stop.Within Fails := by
  cases pass with
  | interrupted =>
    cases shutdown.symm.trans stops
    trivial
  | begun turn => exact inside turn

/-! ## What the console fails with -/

section Console

variable {Fails : Error → Prop} {stop : Stop} (console : ∀ reason, Fails (.console reason))

include console

theorem Terminal.Prints.within {chunks : List Bytes} {result : Except Stop Unit}
    (printed : Prints chunks t result) (stopped : Attempt.stopOf result = some stop) :
    stop.Within Fails := by
  cases printed with
  | whole => cases stopped
  | broken cut breaks =>
    cases stopped
    cases breaks <;> exact console _

theorem LineAnswer.within {answer : LineAnswer} (long : Fails (.lineTooLong maxLineLength))
    (outcome : answer.outcome = .error stop) : stop.Within Fails := by
  cases answer with
  | fault fault =>
    cases outcome
    cases fault with
    | unreadable reason => exact console reason
    | tooLong => exact long
  | interrupted =>
    cases outcome
    trivial
  | line text => cases outcome
  | endOfInput => cases outcome

end Console

/-! ## The requester -/

namespace Requester

variable {r : Requester} {state : State}

/-- The messages of the records of closing its channel. -/
abbrev closingMessages : List String := ["error while closing requester", "requester closed"]

/-- The errors that a requester can end with. -/
inductive Fails (r : Requester) : Error → Prop
  | send (fault : TransportFault) : Fails r (.send r.endpoint fault)
  | receive (fault : TransportFault) : Fails r (.receive r.endpoint fault)
  | console (reason : String) : Fails r (.console reason)
  | lineTooLong : Fails r (.lineTooLong maxLineLength)

/-- Whatever stops a turn, it is no event out of turn. -/
theorem Turn.within {next : State} {stop : Stop} (turn : Turn r state t ⟨next, some stop⟩) :
    stop.Within r.Fails := by
  cases turn with
  | unprompted printed => exact printed.within .console rfl
  | stopped outcome => exact LineAnswer.within .console .lineTooLong outcome
  | unsent line untaken => exact SendAnswer.within .send untaken
  | @unanswered answer _ outcome =>
    cases answer with
    | message reply => cases outcome
    | fault fault =>
      cases outcome
      exact .receive fault
    | interrupted =>
      cases outcome
      trivial
  | unprinted printed => exact printed.within .console rfl

theorem Pass.within {next : State} {stop : Stop} (pass : Pass r state t ⟨next, some stop⟩) :
    stop.Within r.Fails :=
  Session.Passes.within pass Stepped.stop rfl rfl Turn.within

theorem Turns.fails {budget : Nat} {value : Except Error Unit} {error : Error}
    (turns : Turns r budget state t value) (failed : value = .error error) : r.Fails error := by
  induction turns with
  | spent state => cases failed
  | again pass goes later ih => exact ih failed
  | finished pass => cases failed
  | shutdown pass => cases failed
  | failed pass =>
    cases failed
    exact pass.within

theorem Turn.leavesOpen {stepped : Stepped} (turn : Turn r state t stepped) :
    ∀ e ∈ t, e.LeavesOpen closingMessages := by
  have recorded (reply : Message) : ∀ e ∈ r.receiving reply, e.LeavesOpen closingMessages :=
    leavesOpen_noted (by decide)
  have sending (line : String) (answer : SendAnswer) :
      ∀ e ∈ Terminal.asked (.line line) ++
          (r.sending line ++ [⟨.send (Utf8.encode line), answer⟩]),
        e.LeavesOpen closingMessages := by
    refine List.forall_mem_append.mpr ⟨leavesOpen_asked, List.forall_mem_append.mpr ⟨?_, ?_⟩⟩
    · exact leavesOpen_noted (by decide)
    · exact List.forall_mem_singleton.mpr trivial
  cases turn with
  | unprompted printed => exact printed.leavesOpen
  | stopped outcome => exact leavesOpen_asked
  | ended =>
    exact List.forall_mem_append.mpr ⟨leavesOpen_asked, leavesOpen_noted (by decide)⟩
  | sent line => exact sending line .taken
  | unsent line => exact sending line _
  | unanswered outcome => exact List.forall_mem_singleton.mpr trivial
  | replied reply =>
    have shown : Prints [reply.payload] (Terminal.shown reply.payload) (.ok ()) :=
      Terminal.prints_singleton_iff.mpr (.inl ⟨rfl, rfl⟩)
    refine List.forall_mem_cons.mpr ⟨trivial, ?_⟩
    exact List.forall_mem_append.mpr ⟨recorded reply, shown.leavesOpen⟩
  | @unprinted reply rest stop printed =>
    refine List.forall_mem_cons.mpr ⟨trivial, ?_⟩
    exact List.forall_mem_append.mpr ⟨recorded reply, printed.leavesOpen⟩
  | finished => exact List.forall_mem_nil _

theorem Pass.leavesOpen {stepped : Stepped} (pass : Pass r state t stepped) :
    ∀ e ∈ t, e.LeavesOpen closingMessages :=
  Session.Passes.forall_mem pass (fun _ => trivial) Turn.leavesOpen

theorem Turns.leavesOpen {budget : Nat} {value : Except Error Unit}
    (turns : Turns r budget state t value) : ∀ e ∈ t, e.LeavesOpen closingMessages := by
  induction turns with
  | spent state => exact List.forall_mem_nil _
  | again pass goes later ih => exact List.forall_mem_append.mpr ⟨pass.leavesOpen, ih⟩
  | finished pass => exact pass.leavesOpen
  | shutdown pass =>
    exact List.forall_mem_append.mpr ⟨pass.leavesOpen, leavesOpen_noted (by decide)⟩
  | failed pass => exact pass.leavesOpen

/-- Steps none of which is stopped lead from a state to the end of the session, each of them in a
turn that has begun. -/
inductive Finishes (r : Requester) : State → Transcript → Prop
  | last {state : State} {t : Transcript} (step : (r.step state).Follows t ⟨.terminated, none⟩) :
      Finishes r state (⟨.turn, .begun⟩ :: t)
  | again {state next : State} {t₁ t₂ : Transcript} (step : (r.step state).Follows t₁ ⟨next, none⟩)
      (goes : next ≠ .terminated) (later : Finishes r next t₂) :
      Finishes r state (⟨.turn, .begun⟩ :: t₁ ++ t₂)

/-- Turns that end well without a shutdown, before their budget is spent, finish the session. -/
theorem Turns.finishes {budget : Nat} {value : Except Error Unit}
    (turns : Turns r budget state t value) (ends : value = .ok ())
    (enough : 2 * t.heard + state.lead < budget)
    (running : ∀ e ∈ t, e.stop? r.endpoint ≠ some .shutdown) : r.Finishes state t := by
  induction turns with
  | spent state => exact absurd enough (Nat.not_lt_zero _)
  | again pass goes later ih =>
    obtain ⟨-, still⟩ := List.forall_mem_append.mp running
    have used := pass.lead_le goes
    rw [Transcript.heard_append] at enough
    obtain ⟨rest, rfl, turn⟩ := pass.exists_begun nofun
    exact .again (follows_step_iff.mpr turn) goes (ih ends (by omega) still)
  | finished pass =>
    obtain ⟨rest, rfl, turn⟩ := pass.exists_begun nofun
    exact .last (follows_step_iff.mpr turn)
  | shutdown pass =>
    -- The turn was stopped by its last exchange, which is a shutdown.
    obtain ⟨stopped, -⟩ := List.forall_mem_append.mp running
    cases pass.halts with
    | stopped unstopped stops => exact absurd stops (stopped _ (by simp))
  | failed pass => cases ends

end Requester

/-! ## The publisher -/

namespace Publisher

variable {p : Publisher}

/-- The messages of the records of closing its channel. -/
abbrev closingMessages : List String := ["error while closing publisher", "publisher closed"]

/-- The errors that a publisher can end with. -/
inductive Fails (p : Publisher) : Error → Prop
  | send (fault : TransportFault) : Fails p (.send p.endpoint fault)
  | console (reason : String) : Fails p (.console reason)
  | lineTooLong : Fails p (.lineTooLong maxLineLength)

theorem Answered.within {body : String} {answer : LineAnswer} {result : Except Stop Unit}
    {stop : Stop} (answered : Answered p body answer t result)
    (stopped : Attempt.stopOf result = some stop) : stop.Within p.Fails := by
  cases answered with
  | stopped outcome =>
    cases stopped
    exact LineAnswer.within .console .lineTooLong outcome
  | declined outcome declines printed => exact printed.within .console stopped
  | refused confirms untaken =>
    cases stopped
    exact SendAnswer.within .send untaken
  | published confirms printed => exact printed.within .console stopped

theorem CarriedOut.within {line : String} {result : Except Stop Bool} {stop : Stop}
    (carriedOut : CarriedOut p line t result) (stopped : Attempt.stopOf result = some stop) :
    stop.Within p.Fails := by
  cases carriedOut with
  | quit command => cases stopped
  | noticed notice printed =>
    rw [Attempt.stopOf_map] at stopped
    exact printed.within .console stopped
  | rejected command faulty printed =>
    rw [Attempt.stopOf_map] at stopped
    exact printed.within .console stopped
  | unshown o offered printed =>
    cases stopped
    exact printed.within .console rfl
  | answered o offered rest =>
    rw [Attempt.stopOf_map] at stopped
    exact rest.within stopped

/-- Whatever stops a round, it is nothing about a broadcast. -/
theorem Turn.within {result : Except Stop Bool} {stop : Stop} (turn : Turn p t result)
    (stopped : Attempt.stopOf result = some stop) : stop.Within p.Fails := by
  cases turn with
  | unprompted printed =>
    cases stopped
    exact printed.within .console rfl
  | stopped outcome =>
    cases stopped
    exact LineAnswer.within .console .lineTooLong outcome
  | ended => cases stopped
  | command rest => exact rest.within stopped

theorem Pass.within {result : Except Stop Bool} {stop : Stop} (pass : Pass p t result)
    (stopped : Attempt.stopOf result = some stop) : stop.Within p.Fails :=
  Session.Passes.within pass Attempt.stopOf rfl stopped fun turn => turn.within stopped

theorem Rounds.fails {budget : Nat} {value : Except Error Unit} {error : Error}
    (rounds : Rounds p budget t value) (failed : value = .error error) : p.Fails error := by
  induction rounds with
  | spent => cases failed
  | again pass later ih => exact ih failed
  | finished pass => cases failed
  | shutdown pass => cases failed
  | failed pass =>
    cases failed
    exact pass.within rfl

theorem Answered.leavesOpen {body : String} {answer : LineAnswer} {result : Except Stop Unit}
    (answered : Answered p body answer t result) : ∀ e ∈ t, e.LeavesOpen closingMessages := by
  have record : ∀ e ∈ p.logger.noted .debug "publishing"
      [("bytes", Text.decimal (Utf8.encode body).length)], e.LeavesOpen closingMessages :=
    leavesOpen_noted (by decide)
  cases answered with
  | stopped outcome => exact List.forall_mem_nil _
  | declined outcome declines printed => exact printed.leavesOpen
  | refused confirms =>
    exact List.forall_mem_append.mpr ⟨record, List.forall_mem_singleton.mpr trivial⟩
  | published confirms printed =>
    exact List.forall_mem_append.mpr
      ⟨record, List.forall_mem_cons.mpr ⟨trivial, printed.leavesOpen⟩⟩

theorem CarriedOut.leavesOpen {line : String} {result : Except Stop Bool}
    (carriedOut : CarriedOut p line t result) : ∀ e ∈ t, e.LeavesOpen closingMessages := by
  cases carriedOut with
  | quit command => exact List.forall_mem_nil _
  | noticed notice printed => exact printed.leavesOpen
  | rejected command faulty printed =>
    refine List.forall_mem_cons.mpr ⟨trivial, List.forall_mem_append.mpr ⟨?_, ?_⟩⟩
    · exact leavesOpen_noted (by decide)
    · exact printed.leavesOpen
  | unshown o offered printed => exact List.forall_mem_cons.mpr ⟨trivial, printed.leavesOpen⟩
  | answered o offered rest =>
    have displayed : Prints (display o.body) ((display o.body).flatMap Terminal.shown) (.ok ()) :=
      .whole
    refine List.forall_mem_cons.mpr ⟨trivial, List.forall_mem_append.mpr ⟨?_, ?_⟩⟩
    · exact displayed.leavesOpen
    · exact List.forall_mem_cons.mpr ⟨trivial, rest.leavesOpen⟩

theorem Turn.leavesOpen {result : Except Stop Bool} (turn : Turn p t result) :
    ∀ e ∈ t, e.LeavesOpen closingMessages := by
  cases turn with
  | unprompted printed => exact printed.leavesOpen
  | stopped outcome => exact leavesOpen_asked
  | ended => exact leavesOpen_asked
  | command rest => exact List.forall_mem_append.mpr ⟨leavesOpen_asked, rest.leavesOpen⟩

theorem Pass.leavesOpen {result : Except Stop Bool} (pass : Pass p t result) :
    ∀ e ∈ t, e.LeavesOpen closingMessages :=
  Session.Passes.forall_mem pass (fun _ => trivial) Turn.leavesOpen

theorem Rounds.leavesOpen {budget : Nat} {value : Except Error Unit}
    (rounds : Rounds p budget t value) : ∀ e ∈ t, e.LeavesOpen closingMessages := by
  induction rounds with
  | spent => exact List.forall_mem_nil _
  | again pass later ih => exact List.forall_mem_append.mpr ⟨pass.leavesOpen, ih⟩
  | finished pass => exact pass.leavesOpen
  | shutdown pass =>
    exact List.forall_mem_append.mpr ⟨pass.leavesOpen, leavesOpen_noted (by decide)⟩
  | failed pass => exact pass.leavesOpen

end Publisher

/-! ## The subscriber -/

namespace Subscriber

variable {s : Subscriber} {format : LineFormat} {budget printed : Nat}

/-- The messages of the records of closing its channel. -/
abbrev closingMessages : List String := ["error while closing subscriber", "subscriber closed"]

/-- The errors that a subscriber can end with once it is connected. -/
inductive Fails (s : Subscriber) : Error → Prop
  | receive (fault : TransportFault) : Fails s (.receive s.endpoint fault)
  | console (reason : String) : Fails s (.console reason)

theorem Reception.within {result : Except Stop Message} {stop : Stop}
    (reception : Reception s budget t result) (stopped : result = .error stop) :
    stop.Within s.Fails := by
  induction reception with
  | spent =>
    cases stopped
    trivial
  | @unanswered budget answer _ stops =>
    cases stopped
    cases answer with
    | message message => cases stops
    | fault fault =>
      cases stops
      exact .receive fault
    | interrupted =>
      cases stops
      trivial
  | accepted accepts => cases stopped
  | dropped rejects later ih => exact ih stopped

theorem Turn.within {result : Except Stop Unit} {stop : Stop}
    (turn : Turn s format budget t result) (stopped : Attempt.stopOf result = some stop) :
    stop.Within s.Fails := by
  cases turn with
  | stopped reception =>
    cases stopped
    exact reception.within rfl
  | received reception printed => exact printed.within .console stopped

theorem Turns.fails {value : Except Error Nat} {error : Error}
    (turns : Turns s format budget printed t value) (failed : value = .error error) :
    s.Fails error := by
  induction turns with
  | spent printed => cases failed
  | again turn later ih => exact ih failed
  | shutdown turn => cases failed
  | failed turn =>
    cases failed
    exact turn.within rfl

theorem Reception.leavesOpen {result : Except Stop Message}
    (reception : Reception s budget t result) : ∀ e ∈ t, e.LeavesOpen closingMessages := by
  induction reception with
  | spent => exact List.forall_mem_nil _
  | unanswered stops => exact List.forall_mem_singleton.mpr trivial
  | accepted accepts => exact List.forall_mem_cons.mpr ⟨trivial, leavesOpen_noted (by decide)⟩
  | dropped rejects later ih =>
    refine List.forall_mem_cons.mpr ⟨trivial, List.forall_mem_append.mpr ⟨?_, ih⟩⟩
    exact leavesOpen_noted (by decide)

theorem Turn.leavesOpen {result : Except Stop Unit} (turn : Turn s format budget t result) :
    ∀ e ∈ t, e.LeavesOpen closingMessages := by
  cases turn with
  | stopped reception => exact reception.leavesOpen
  | received reception printed =>
    exact List.forall_mem_append.mpr ⟨reception.leavesOpen, printed.leavesOpen⟩

theorem Turns.leavesOpen {value : Except Error Nat}
    (turns : Turns s format budget printed t value) :
    ∀ e ∈ t, e.LeavesOpen closingMessages := by
  induction turns with
  | spent printed => exact List.forall_mem_nil _
  | again turn later ih => exact List.forall_mem_append.mpr ⟨turn.leavesOpen, ih⟩
  | shutdown turn =>
    exact List.forall_mem_append.mpr ⟨turn.leavesOpen, leavesOpen_noted (by decide)⟩
  | failed turn => exact turn.leavesOpen

variable {logger : Log.Logger} {endpoint : Endpoint} {filter : TopicFilter}

theorem leavesOpen_of_dials {result : Except Stop Unit}
    (dials : Attempt.Dials logger endpoint t result) :
    ∀ e ∈ t, e.LeavesOpen closingMessages := by
  cases dials with
  | soon answered => exact List.forall_mem_singleton.mpr trivial
  | late answer =>
    refine List.forall_mem_cons.mpr ⟨trivial, List.forall_mem_append.mpr ⟨?_, ?_⟩⟩
    · exact leavesOpen_noted (by decide)
    · exact List.forall_mem_singleton.mpr trivial

theorem Connects.leavesOpen (connects : Connects logger endpoint filter t (.ok s)) :
    ∀ e ∈ t, e.LeavesOpen closingMessages := by
  cases connects with
  | subscribed dials =>
    refine List.forall_mem_append.mpr ⟨leavesOpen_noted (by decide), ?_⟩
    refine List.forall_mem_append.mpr ⟨leavesOpen_of_dials dials, ?_⟩
    exact List.forall_mem_cons.mpr ⟨trivial, leavesOpen_noted (by decide)⟩

/-- A session that has connected goes on with its turns and closes its channel. -/
theorem exists_turns {subscription : Subscription} {front rest : Transcript}
    {value : Except Error Nat}
    (connects : Connects logger subscription.endpoint subscription.filter front (.ok s))
    (runs : Runs logger subscription budget (front ++ rest) value) :
    ∃ later faults, Turns s subscription.format budget 0 later value ∧
      rest = later ++ s.closing faults := by
  have follows := follows_connect_iff.mpr connects
  generalize whole : front ++ rest = t at runs
  cases runs with
  | shutdown connects' =>
    have follows' := follows_connect_iff.mpr connects'
    obtain ⟨-, ⟨⟩⟩ := follows.unique follows' (whole.trans (List.append_nil t).symm)
  | unconnected connects' =>
    have follows' := follows_connect_iff.mpr connects'
    obtain ⟨-, ⟨⟩⟩ := follows.unique follows' (whole.trans (List.append_nil t).symm)
  | connected connects' turns faults =>
    obtain ⟨rfl, ⟨⟩⟩ := follows.unique (follows_connect_iff.mpr connects') whole
    exact ⟨_, faults, turns, List.append_cancel_left whole⟩

end Subscriber

namespace Clients

/-- **Every exit of a client is an allowed one and closes the channel.**  Whatever a client is
answered, the error that it ends with is one of its own, and its channel is closed once, after
everything else but the records of that, one of each fault and a last one; for a subscriber this
holds once it is connected.  And in every environment a requester that ends well without having
been shut down has come to the end of its session. -/
theorem exits_close :
    (∀ (r : Requester) (budget : Nat) (t : Transcript) (value : Except Error Unit),
      (r.run budget).Follows t value →
      (∀ error, value = .error error → r.Fails error) ∧
        ClosesOnce r.logger "error while closing requester" "requester closed" t) ∧
    (∀ (p : Publisher) (budget : Nat) (t : Transcript) (value : Except Error Unit),
      (p.run budget).Follows t value →
      (∀ error, value = .error error → p.Fails error) ∧
        ClosesOnce p.logger "error while closing publisher" "publisher closed" t) ∧
    (∀ (logger : Log.Logger) (subscription : Subscription) (budget : Nat) (s : Subscriber)
        (front rest : Transcript) (value : Except Error Nat),
      (Subscriber.connect logger subscription.endpoint subscription.filter).Follows front
        (.ok s) →
      (Subscriber.run logger subscription budget).Follows (front ++ rest) value →
      (∀ error, value = .error error → s.Fails error) ∧
        ClosesOnce s.logger "error while closing subscriber" "subscriber closed" (front ++ rest)) ∧
    ∀ (r : Requester) (env : Environment),
      (r.runIn env).value = .ok () →
      (∀ e ∈ (r.runIn env).transcript, e.stop? r.endpoint ≠ some .shutdown) →
      ∃ front faults, r.Finishes .awaitingInput front ∧
        (r.runIn env).transcript = front ++ r.closing faults := by
  refine ⟨?_, ?_, ?_, ?_⟩
  · intro r budget t value follows
    obtain ⟨rest, faults, turns, rfl⟩ := Requester.follows_run_iff.mp follows
    exact ⟨fun error => turns.fails, closesOnce_of_leavesOpen (by decide) turns.leavesOpen⟩
  · intro p budget t value follows
    obtain ⟨rest, faults, rounds, rfl⟩ := Publisher.follows_run_iff.mp follows
    exact ⟨fun error => rounds.fails, closesOnce_of_leavesOpen (by decide) rounds.leavesOpen⟩
  · intro logger subscription budget s front rest value connected follows
    have connects := Subscriber.follows_connect_iff.mp connected
    obtain ⟨later, faults, turns, rfl⟩ :=
      Subscriber.exists_turns connects (Subscriber.follows_run_iff.mp follows)
    refine ⟨fun error => turns.fails, ?_⟩
    rw [← List.append_assoc]
    exact closesOnce_of_leavesOpen (by decide)
      (List.forall_mem_append.mpr ⟨connects.leavesOpen, turns.leavesOpen⟩)
  · intro r env ends running
    have follows := (r.run env.budget).follows_run env
    have gives := (r.run env.budget).gives_run env
    obtain ⟨front, faults, turns, whole⟩ := Requester.follows_run_iff.mp follows
    have few := gives.heard_le_unread
    rw [whole, Transcript.heard_append] at few
    have short : 2 * front.heard + Requester.State.lead .awaitingInput < env.budget := by
      simp only [Requester.State.lead, Environment.budget]
      omega
    refine ⟨front, faults, turns.finishes ends short fun e mem => running e ?_, whole⟩
    show e ∈ ((r.run env.budget).run env).transcript
    rw [whole]
    exact List.mem_append_left _ mem

/-- A publisher that cannot send an offer any more and whose socket is closed with a fault, a
subscriber that is shut down after a message and a requester whose input ends after a reply: all
three record their closing, the publisher warns of the fault, and the requester has finished. -/
theorem exits_close_of_endings :
    let p : Publisher := ⟨⟨"0.0.0.0", 5556⟩, .root .debug "pqpub"⟩
    let r : Requester := ⟨⟨"localhost", 5555⟩, .root .debug "pqreq"⟩
    let subscription : Subscription := ⟨⟨"localhost", 5556⟩, .everything, .plain⟩
    let logger := Log.Logger.root .debug "pqsub"
    let context := Subscriber.loggerFor logger subscription.endpoint .everything
    let offers := Environment.calm "send motd\nYES\nhelp\n"
      ⟨[([Utf8.encode "motd"], .file (Utf8.encode "hello\n"))]⟩ []
    let refusing :=
      { offers with
        link := { offers.link with sendsAfter := .fault .noMessage, closing := [.noRequest] } }
    let talks := Environment.calm "ping\n" ⟨[]⟩ [⟨[Utf8.encode "pong"], ⟨0, 0, 0⟩⟩]
    let published := (p.run 5).run refusing
    let listened := (Subscriber.run logger subscription 9).run talks
    let requested := r.runIn talks
    published.value = .error (.send p.endpoint .noMessage) ∧
      ClosesOnce p.logger "error while closing publisher" "publisher closed" published.transcript ∧
      p.logger.record .warning "error while closing publisher"
        [("err", TransportFault.noRequest.message)] ∈ published.transcript.records ∧
      listened.value = .ok 1 ∧
      ClosesOnce context "error while closing subscriber" "subscriber closed" listened.transcript ∧
      ClosesOnce r.logger "error while closing requester" "requester closed" requested.transcript ∧
      ∃ front faults, r.Finishes .awaitingInput front ∧
        requested.transcript = front ++ r.closing faults := by
  intro p r subscription logger context offers refusing talks published listened requested
  obtain ⟨requesters, publishers, subscribers, finishing⟩ := exits_close
  have value : listened.value = .ok 1 := by decide +kernel
  refine ⟨by decide +kernel, ?_, by decide +kernel, value, ?_, ?_, ?_⟩
  · exact (publishers p 5 _ _ (Session.follows_run _ refusing)).2
  · have follows : (Subscriber.run logger subscription 9).Follows listened.transcript (.ok 1) := by
      rw [← value]
      exact Session.follows_run _ talks
    generalize listened.transcript = t at follows ⊢
    cases Subscriber.follows_run_iff.mp follows with
    | connected connects turns =>
      have connected := Subscriber.follows_connect_iff.mpr connects
      cases connects with
      | subscribed dials => exact (subscribers _ _ _ _ _ _ _ connected follows).2
  · exact (requesters r _ _ _ (Session.follows_run _ talks)).2
  · exact finishing r talks (by decide +kernel) (by decide +kernel)

end Clients

end MessagingConsole
