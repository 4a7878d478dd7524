import MessagingConsole.Proofs.Subscriber.Connection

/-!
# What a subscriber prints

A subscriber prints each message that its filter accepts, once and in the order in which
they arrive, and tells how many it has printed.  Two facts add up to that.  Whatever happens
in a run that ends well, what is printed is determined by the messages that the transport
handed up, so that none of them is lost, repeated or moved.  And where the output takes
everything and the link has only messages before the shutdown, a run does end well and is
handed up all of them.

## Main Definitions

- `TopicFilter.among` - the messages whose first frame begins with a filter.
- `Link.HandsUp` - the messages of a link before it is quiet, and `Link.Brings`, those before the
  client is shut down.
- `Printed` - a run that has printed some messages and told how many.

## Main Results

- `Turns.output_eq` - what is printed is determined by what was received.
- `Link.exists_handsUp` - every link has some messages before it is quiet.
- `Turns.received_of_handsUp` - all messages of a link are received.
- `prints_accepted` - a subscriber prints the messages that its filter accepts.
-/

namespace MessagingConsole

/-- The messages whose first frame begins with the octets of a filter. -/
def TopicFilter.among (f : TopicFilter) (messages : List Message) : List Message :=
  messages.filter fun m => Utf8.encode f.start <+: m.topic

/-- The octets that a message is printed as. -/
def LineFormat.line (format : LineFormat) (m : Message) : Bytes :=
  Utf8.encode (format.render m)

namespace TopicFilter

variable {f : TopicFilter} {m : Message}

theorem accepts_iff {topic : Bytes} : f.accepts topic ↔ Utf8.encode f.start <+: topic :=
  List.isPrefixOf_iff_prefix

@[simp] theorem among_append (first second : List Message) :
    f.among (first ++ second) = f.among first ++ f.among second :=
  List.filter_append ..

theorem among_singleton_of_accepts (accepts : f.accepts m.topic) : f.among [m] = [m] :=
  List.filter_cons_of_pos (decide_eq_true (accepts_iff.mp accepts))

theorem among_singleton_of_rejects (rejects : ¬ f.accepts m.topic) : f.among [m] = [] := by
  refine List.filter_cons_of_neg ?_
  rw [decide_eq_true_iff, ← accepts_iff]
  exact rejects

/-- A message whose first frame is shorter than a filter is not accepted by it, whatever its
other frames are. -/
theorem notMem_among_of_length_lt {messages : List Message}
    (short : m.topic.length < (Utf8.encode f.start).length) : m ∉ f.among messages := by
  intro mem
  have begins := of_decide_eq_true (List.mem_filter.mp mem).2
  exact Nat.not_le_of_lt short begins.length_le

/-- The empty filter accepts every message. -/
theorem among_everything (messages : List Message) : everything.among messages = messages :=
  List.filter_eq_self.mpr fun _ _ => decide_eq_true List.nil_prefix

end TopicFilter

namespace Subscriber

variable {s : Subscriber} {format : LineFormat} {t : Transcript} {budget printed : Nat}

/-! ## What is printed is determined by what was received -/

theorem received_dropped {message : Message} :
    Transcript.received (⟨.receive, .message message⟩ :: (s.dropping ++ t)) =
      message :: t.received := by
  simp [dropping]

/-- Waiting prints nothing, and ends with the first message that the filter accepts. -/
theorem Reception.among_received {result : Except Stop Message}
    (reception : Reception s budget t result) :
    t.output = [] ∧ s.filter.among t.received = result.toOption.toList := by
  induction reception with
  | spent => exact ⟨rfl, rfl⟩
  | @unanswered budget answer stop stops =>
    cases answer with
    | message message => cases stops
    | _ => exact ⟨rfl, rfl⟩
  | @accepted budget message accepts =>
    have taken := TopicFilter.among_singleton_of_accepts accepts
    simpa [taking, Except.toOption] using taken
  | @dropped budget message rest result rejects later ih =>
    have left := TopicFilter.among_singleton_of_rejects rejects
    obtain ⟨output, among⟩ := ih
    constructor
    · simpa [dropping] using output
    · rw [received_dropped, ← List.singleton_append, TopicFilter.among_append, left,
        List.nil_append, among]

/-- A turn that goes on prints one message that the filter accepts. -/
theorem Turn.printed_one (turn : Turn s format budget t (.ok ())) :
    ∃ message, s.filter.among t.received = [message] ∧ t.output = format.line message := by
  cases turn with
  | @received message t₁ t₂ _ reception printed =>
    obtain ⟨output, among⟩ := reception.among_received
    have shown := Terminal.prints_ok_iff.mp printed
    refine ⟨message, ?_, ?_⟩
    · rw [Transcript.received_append, printed.received, List.append_nil, among]
      rfl
    · rw [Transcript.output_append, output, shown]
      simp [LineFormat.line]

/-- A turn that is shut down prints nothing. -/
theorem Turn.printed_none (turn : Turn s format budget t (.error .shutdown)) :
    s.filter.among t.received = [] ∧ t.output = [] := by
  cases turn with
  | stopped reception => exact reception.among_received.symm
  | received reception printed =>
    -- Printing is stopped by errors only.
    cases printed

/-- **No message is lost.**  What a subscriber has printed when it ends well are the messages
among those received that its filter accepts, and it tells their number. -/
theorem Turns.output_eq {count : Nat} (turns : Turns s format budget printed t (.ok count)) :
    t.output = (s.filter.among t.received).flatMap format.line ∧
      count = printed + (s.filter.among t.received).length := by
  generalize ends : (.ok count : Except Error Nat) = value at turns
  induction turns with
  | spent printed =>
    cases ends
    exact ⟨rfl, rfl⟩
  | @again budget printed t₁ t₂ value turn later ih =>
    obtain ⟨message, among, output⟩ := turn.printed_one
    obtain ⟨rest, counted⟩ := ih ends
    rw [Transcript.output_append, Transcript.received_append, TopicFilter.among_append, among]
    constructor
    · rw [output, rest]
      rfl
    · rw [counted, List.length_append, List.length_singleton, Nat.add_assoc]
  | @shutdown budget printed rest turn =>
    cases ends
    obtain ⟨among, output⟩ := turn.printed_none
    simp [among, output]
  | failed turn => cases ends

end Subscriber

/-! ## The messages of a link -/

/-- What stops a client that waits when nothing arrives. -/
def Quiet.stop (endpoint : Endpoint) : Quiet → Stop
  | .fault f => .failed (.receive endpoint f)
  | .silence => .shutdown

theorem Quiet.stop?_answer (endpoint : Endpoint) (quiet : Quiet) :
    Exchange.stop? endpoint ⟨.receive, quiet.answer⟩ = some (quiet.stop endpoint) := by
  cases quiet <;> rfl

/-- What printing comes to that has printed so many messages when nothing arrives. -/
def Quiet.value (endpoint : Endpoint) (printed : Nat) : Quiet → Except Error Nat
  | .fault f => .error (.receive endpoint f)
  | .silence => .ok printed

namespace Link

/-- A link has these messages for the client, and then it is quiet in this way. -/
def HandsUp (l : Link) (messages : List Message) (quiet : Quiet) : Prop :=
  ∃ later, l.arrivals ++ [.quiet l.arrivalsAfter] =
    messages.map .message ++ .quiet quiet :: later

/-- A link has these messages for the client, and then the client is shut down. -/
def Brings (l : Link) (messages : List Message) : Prop :=
  ∃ later, l.arrivals ++ [.quiet l.arrivalsAfter] =
    messages.map .message ++ .quiet .silence :: later

variable {l : Link} {message : Message} {messages : List Message} {quiet : Quiet}

/-- Every link has some messages and is quiet behind them. -/
theorem exists_handsUp (l : Link) : ∃ messages quiet, l.HandsUp messages quiet := by
  obtain ⟨sends, sendsAfter, arrivals, arrivalsAfter⟩ := l
  induction arrivals with
  | nil => exact ⟨[], arrivalsAfter, [], rfl⟩
  | cons arrival arrivals ih =>
    cases arrival with
    | message message =>
      obtain ⟨messages, quiet, later, rest⟩ := ih
      exact ⟨message :: messages, quiet, later, congrArg (Arrival.message message :: ·) rest⟩
    | quiet quiet => exact ⟨[], quiet, arrivals ++ [.quiet arrivalsAfter], rfl⟩

theorem HandsUp.receive_nil (hands : l.HandsUp [] quiet) : l.receive.1 = quiet.answer := by
  obtain ⟨later, arrivals⟩ := hands
  obtain ⟨sends, sendsAfter, _ | ⟨arrival, rest⟩, arrivalsAfter⟩ := l
  · obtain ⟨⟨⟩, -⟩ := List.cons.inj arrivals
    rfl
  · obtain ⟨rfl, -⟩ := List.cons.inj arrivals
    rfl

theorem HandsUp.receive_cons (hands : l.HandsUp (message :: messages) quiet) :
    l.receive.1 = .message message ∧ l.receive.2.HandsUp messages quiet := by
  obtain ⟨later, arrivals⟩ := hands
  obtain ⟨sends, sendsAfter, _ | ⟨arrival, rest⟩, arrivalsAfter⟩ := l
  · obtain ⟨⟨⟩, -⟩ := List.cons.inj arrivals
  · obtain ⟨rfl, tail⟩ := List.cons.inj arrivals
    exact ⟨rfl, later, tail⟩

theorem HandsUp.length_le (hands : l.HandsUp messages quiet) :
    messages.length ≤ l.arrivals.length := by
  obtain ⟨later, arrivals⟩ := hands
  have lengths := congrArg List.length arrivals
  simp only [List.length_append, List.length_cons, List.length_nil, List.length_map] at lengths
  omega

theorem Brings.send (brings : l.Brings messages) : l.send.2.Brings messages := by
  unfold Link.send
  split <;> exact brings

end Link

namespace Subscriber

variable {s : Subscriber} {format : LineFormat} {t : Transcript} {budget printed : Nat}
  {env final : Environment} {messages : List Message} {quiet : Quiet}

/-- Waiting is handed up the messages of the link, and is stopped after the last one. -/
theorem Reception.received_of_handsUp {result : Except Stop Message}
    (reception : Reception s budget t result) (gives : env.Gives t final)
    (hands : env.link.HandsUp messages quiet) (enough : messages.length < budget) :
    (result = .error (quiet.stop s.endpoint) ∧ t.received = messages) ∨
    ∃ message rest, result = .ok message ∧ t.received ++ rest = messages ∧
      rest.length < messages.length ∧ final.link.HandsUp rest quiet ∧ final.sink = env.sink := by
  induction reception generalizing env messages with
  | spent => exact absurd enough (Nat.not_lt_zero _)
  | @unanswered budget answer stop stops =>
    obtain ⟨answered, -⟩ := Environment.gives_cons.mp gives
    cases messages with
    | nil =>
      have quieted : answer = quiet.answer := answered.symm.trans hands.receive_nil
      rw [quieted, quiet.stop?_answer] at stops
      refine .inl ⟨congrArg Except.error (Option.some.inj stops).symm, ?_⟩
      rw [quieted]
      cases quiet <;> rfl
    | cons message messages =>
      have arrived : answer = .message message := answered.symm.trans hands.receive_cons.1
      subst arrived
      cases stops
  | @accepted budget message accepts =>
    obtain ⟨answered, later⟩ := Environment.gives_cons.mp gives
    cases messages with
    | nil =>
      have quieted := answered.symm.trans hands.receive_nil
      cases quiet <;> cases quieted
    | cons message' messages =>
      cases answered.symm.trans hands.receive_cons.1
      have same := later.unique (Environment.gives_noted ..)
      refine .inr ⟨message, messages, rfl, by simp [taking], Nat.lt_succ_self _, ?_, ?_⟩
      · rw [same]
        exact hands.receive_cons.2
      · rw [same]
        rfl
  | @dropped budget message rest result rejects later ih =>
    obtain ⟨answered, after⟩ := Environment.gives_cons.mp gives
    have following := Environment.gives_noted_append.mp after
    cases messages with
    | nil =>
      have quieted := answered.symm.trans hands.receive_nil
      cases quiet <;> cases quieted
    | cons message' messages =>
      cases answered.symm.trans hands.receive_cons.1
      rw [received_dropped]
      rcases ih following hands.receive_cons.2 (Nat.lt_of_succ_lt_succ enough) with
        ⟨ends, all⟩ | ⟨found, others, ends, all, fewer, hands, sink⟩
      · exact .inl ⟨ends, congrArg (message :: ·) all⟩
      · exact .inr ⟨found, others, ends, congrArg (message :: ·) all,
          Nat.lt_succ_of_lt fewer, hands, sink⟩

/-- A turn is handed up messages of the link, and goes on if the output takes everything, or it
is stopped after the last one. -/
theorem Turn.received_of_handsUp {result : Except Stop Unit}
    (turn : Turn s format budget t result) (gives : env.Gives t final)
    (hands : env.link.HandsUp messages quiet) (enough : messages.length < budget) :
    (result = .error (quiet.stop s.endpoint) ∧ t.received = messages) ∨
    ∃ rest, t.received ++ rest = messages ∧ rest.length < messages.length ∧
      final.link.HandsUp rest quiet ∧
      (env.sink = .unlimited → result = .ok () ∧ final.sink = .unlimited) := by
  cases turn with
  | stopped reception =>
    rcases reception.received_of_handsUp gives hands enough with
      ⟨ends, all⟩ | ⟨message, rest, ⟨⟩, -⟩
    exact .inl ⟨congrArg Except.error (Except.error.inj ends), all⟩
  | @received message t₁ t₂ _ reception printed =>
    obtain ⟨middle, waited, shown⟩ := Environment.gives_append.mp gives
    rcases reception.received_of_handsUp waited hands enough with
      ⟨⟨⟩, -⟩ | ⟨found, rest, -, all, fewer, hands, sink⟩
    refine .inr ⟨rest, ?_, fewer, ?_, fun unlimited => ?_⟩
    · rw [Transcript.received_append, printed.received, List.append_nil, all]
    · rw [shown.link_eq fun e mem => .inl (printed.isOutput e mem)]
      exact hands
    · obtain ⟨ends, same⟩ := shown.prints (sink.trans unlimited) printed
      exact ⟨ends, by rw [same, sink, unlimited]⟩

/-- **All messages are received**, in order, up to where the output fails.  Where it takes
everything a subscriber has had all of them, and ends as the link falls quiet. -/
theorem Turns.received_of_handsUp {value : Except Error Nat}
    (turns : Turns s format budget printed t value) (gives : env.Gives t final)
    (hands : env.link.HandsUp messages quiet) (enough : messages.length < budget) :
    t.received <+: messages ∧
      (env.sink = .unlimited → t.received = messages ∧
        ∃ count, value = quiet.value s.endpoint count) := by
  induction turns generalizing env messages with
  | spent printed => exact absurd enough (Nat.not_lt_zero _)
  | again turn later ih =>
    obtain ⟨middle, first, others⟩ := Environment.gives_append.mp gives
    rcases turn.received_of_handsUp first hands enough with
      ⟨⟨⟩, -⟩ | ⟨rest, all, fewer, hands, goesOn⟩
    obtain ⟨begins, ends⟩ := ih others hands (by omega)
    rw [Transcript.received_append, ← all]
    refine ⟨(List.prefix_append_right_inj _).mpr begins, fun unlimited => ?_⟩
    obtain ⟨received, value⟩ := ends (goesOn unlimited).2
    exact ⟨by rw [received], value⟩
  | @shutdown budget printed t turn =>
    obtain ⟨middle, first, -⟩ := Environment.gives_append.mp gives
    rw [Transcript.received_append, Log.Logger.received_noted, List.append_nil]
    rcases turn.received_of_handsUp first hands enough with ⟨ends, all⟩ | ⟨rest, all, -, -, goesOn⟩
    · refine ⟨all ▸ List.prefix_rfl, fun _ => ⟨all, printed, ?_⟩⟩
      cases quiet with
      | fault fault => cases ends
      | silence => rfl
    · exact ⟨⟨rest, all⟩, fun unlimited => nomatch (goesOn unlimited).1⟩
  | @failed budget printed t error turn =>
    rcases turn.received_of_handsUp gives hands enough with ⟨ends, all⟩ | ⟨rest, all, -, -, goesOn⟩
    · refine ⟨all ▸ List.prefix_rfl, fun _ => ⟨all, printed, ?_⟩⟩
      cases quiet with
      | fault fault =>
        cases ends
        rfl
      | silence => cases ends
    · exact ⟨⟨rest, all⟩, fun unlimited => nomatch (goesOn unlimited).1⟩

/-! ## Connecting -/

variable {logger : Log.Logger} {endpoint : Endpoint} {filter : TopicFilter}

/-- Connecting ends as the network answers the dial for good and the link takes the request
for the filter.  It prints and receives nothing, and leaves the messages of the link. -/
theorem Connects.of_gives {result : Except Stop Subscriber}
    (connects : Connects logger endpoint filter t result) (gives : env.Gives t final) :
    (result = do
      (env.network.dial endpoint none).1.outcome endpoint
      env.link.send.1.outcome (.subscribe endpoint filter.start)
      return ⟨endpoint, filter, loggerFor logger endpoint filter⟩) ∧
    t.output = [] ∧ t.received = [] ∧ final.sink = env.sink ∧
      ∀ messages, env.link.Brings messages → final.link.Brings messages := by
  cases connects with
  | undialed dials =>
    have dialed := Environment.gives_noted_append.mp gives
    obtain ⟨ends, network, rfl⟩ := dialed.dials dials
    obtain ⟨output, received⟩ := dials.quiet
    refine ⟨?_, by simp [output], by simp [received], rfl, fun _ => id⟩
    rw [← ends]
    rfl
  | @unsubscribed t answer stop dials untaken =>
    have dialed := Environment.gives_noted_append.mp gives
    obtain ⟨middle, first, last⟩ := Environment.gives_append.mp dialed
    obtain ⟨ends, network, rfl⟩ := first.dials dials
    obtain ⟨refused, rfl⟩ := Environment.gives_cons.mp last
    have refused : env.link.send.1 = answer := refused
    obtain ⟨output, received⟩ := dials.quiet
    refine ⟨?_, by simp [output], by simp [received], rfl, fun _ => Link.Brings.send⟩
    rw [← ends, refused, untaken]
    rfl
  | subscribed dials =>
    have dialed := Environment.gives_noted_append.mp gives
    obtain ⟨middle, first, last⟩ := Environment.gives_append.mp dialed
    obtain ⟨ends, network, rfl⟩ := first.dials dials
    obtain ⟨taken, noted⟩ := Environment.gives_cons.mp last
    have taken : env.link.send.1 = .taken := taken
    obtain rfl := noted.unique (Environment.gives_noted ..)
    obtain ⟨output, received⟩ := dials.quiet
    refine ⟨?_, by simp [output], by simp [received], rfl, fun _ => Link.Brings.send⟩
    rw [← ends, taken]
    rfl

/-! ## Whole runs -/

/-- A run has printed some messages, one after the other, and told how many. -/
structure Printed (format : LineFormat) (messages : List Message) (t : Transcript)
    (value : Except Error Nat) : Prop where
  value_eq : value = .ok messages.length
  output_eq : t.output = messages.flatMap format.line

/-- The messages of a link fit into the budget of its environment. -/
theorem length_lt_budget (hands : env.link.HandsUp messages quiet) :
    messages.length < env.budget := by
  have few := hands.length_le
  unfold Environment.budget
  omega

/-- Turns that are handed up all messages of the link print those that the filter accepts. -/
theorem Turns.printed_among {value : Except Error Nat}
    (turns : Turns s format budget 0 t value) (gives : env.Gives t final)
    (unlimited : env.sink = .unlimited) (brings : env.link.Brings messages)
    (enough : messages.length < budget) : Printed format (s.filter.among messages) t value := by
  have hands : env.link.HandsUp messages .silence := brings
  obtain ⟨received, count, rfl⟩ := (turns.received_of_handsUp gives hands enough).2 unlimited
  obtain ⟨output, counted⟩ := turns.output_eq
  rw [received] at output counted
  exact ⟨by rw [counted, Nat.zero_add]; rfl, output⟩

variable {subscription : Subscription} {value : Except Error Nat}

/-- A session that is connected prints the messages that its filter accepts. -/
theorem Runs.printed_among (runs : Runs logger subscription budget t value)
    (gives : env.Gives t final) (unlimited : env.sink = .unlimited)
    (brings : env.link.Brings messages) (enough : messages.length < budget)
    (connected : (env.network.dial subscription.endpoint none).1 = .connected)
    (accepts : env.link.AcceptsSends) :
    Printed subscription.format (subscription.filter.among messages) t value := by
  have taken : env.link.send.1 = .taken :=
    Environment.sendsWell_answer accepts (.send subscription.filter.subscription)
  cases runs with
  | shutdown connects =>
    obtain ⟨ends, -⟩ := connects.of_gives gives
    rw [connected, taken] at ends
    cases ends
  | unconnected connects =>
    obtain ⟨ends, -⟩ := connects.of_gives gives
    rw [connected, taken] at ends
    cases ends
  | connected connects turns =>
    obtain ⟨middle, first, later⟩ := Environment.gives_append.mp gives
    obtain ⟨last, printing, -⟩ := Environment.gives_append.mp later
    obtain ⟨ends, output, -, sink, still⟩ := connects.of_gives first
    rw [connected, taken] at ends
    cases ends
    obtain ⟨value, printed⟩ :=
      turns.printed_among printing (sink.trans unlimited) (still _ brings) enough
    exact ⟨value, by simp [output, printed, closing]⟩

/-- A session that is shut down while it dials, or while it asks for its filter, prints
nothing. -/
theorem Runs.printed_nil (runs : Runs logger subscription budget t value)
    (gives : env.Gives t final)
    (interrupted : (env.network.dial subscription.endpoint none).1 = .interrupted ∨
      (env.network.dial subscription.endpoint none).1 = .connected ∧
        env.link.send.1 = .interrupted) :
    Printed subscription.format [] t value := by
  -- Either way, connecting ends with the shutdown.
  have stopped {result : Except Stop Subscriber} {t : Transcript} {final : Environment}
      (connects : Connects logger subscription.endpoint subscription.filter t result)
      (gives : env.Gives t final) : result = .error .shutdown := by
    obtain ⟨ends, -⟩ := connects.of_gives gives
    rcases interrupted with undialed | ⟨dialed, unsent⟩
    · rw [ends, undialed]
      rfl
    · rw [ends, dialed, unsent]
      rfl
  cases runs with
  | shutdown connects => exact ⟨rfl, (connects.of_gives gives).2.1⟩
  | unconnected connects => cases stopped connects gives
  | connected connects turns =>
    obtain ⟨middle, first, -⟩ := Environment.gives_append.mp gives
    cases stopped connects first

/-- **A subscriber prints exactly what its filter accepts.**  Whatever messages arrive, and
at whatever point among them the client is shut down, on an output that takes everything:
those that arrived before and whose first frame begins with the filter are printed, once and
in order, and their number is told, by a subscriber that is connected already and by a whole
session.  A session that is shut down while it is connecting, be it at the dial or at the
request for its filter, prints nothing. -/
theorem prints_accepted (arrived : List Message) (point : Nat) (env : Environment)
    (unlimited : env.sink = .unlimited) (brings : env.link.Brings (arrived.take point)) :
    (∀ (s : Subscriber) (format : LineFormat) (budget : Nat), env.budget ≤ budget →
      let printing := (s.printAll format budget 0).run env
      Printed format (s.filter.among (arrived.take point)) printing.transcript printing.value) ∧
    (∀ (logger : Log.Logger) (subscription : Subscription), env.link.AcceptsSends →
      (env.network.dial subscription.endpoint none).1 = .connected →
      let session := runIn logger subscription env
      Printed subscription.format (subscription.filter.among (arrived.take point))
        session.transcript session.value) ∧
    (∀ (logger : Log.Logger) (subscription : Subscription),
      ((env.network.dial subscription.endpoint none).1 = .interrupted ∨
        (env.network.dial subscription.endpoint none).1 = .connected ∧
          env.link.send.1 = .interrupted) →
      let session := runIn logger subscription env
      session.value = .ok 0 ∧ session.transcript.output = []) ∧
    (∀ (filter : TopicFilter) (m : Message), m.topic.length < (Utf8.encode filter.start).length →
      m ∉ filter.among (arrived.take point)) ∧
    TopicFilter.everything.among (arrived.take point) = arrived.take point := by
  have fits := length_lt_budget brings
  refine ⟨?_, ?_, ?_, fun filter m => TopicFilter.notMem_among_of_length_lt,
    TopicFilter.among_everything _⟩
  · intro s format budget enough printing
    have turns := follows_printAll_iff.mp (Session.follows_run (s.printAll format budget 0) env)
    exact turns.printed_among (Session.gives_run _ env) unlimited brings
      (Nat.lt_of_lt_of_le fits enough)
  · intro logger subscription accepts connected session
    have runs := follows_run_iff.mp (Session.follows_run (run logger subscription env.budget) env)
    exact runs.printed_among (Session.gives_run _ env) unlimited brings fits connected accepts
  · intro logger subscription interrupted session
    have runs := follows_run_iff.mp (Session.follows_run (run logger subscription env.budget) env)
    obtain ⟨value, output⟩ := runs.printed_nil (Session.gives_run _ env) interrupted
    exact ⟨value, output⟩

/-- Three messages and a shutdown after the second one, which a frame keeps from the filter
that it begins with only when its frames are joined; the same in a session, in one that nobody
answers, and in one whose request for its filter is cut off. -/
theorem prints_accepted_of_three :
    let arrived : List Message := [["t1", " up"], ["t", "1 down"], ["t1"]].map fun frames =>
      ⟨frames.map Utf8.encode, ⟨0, 0, 0⟩⟩
    let env := Environment.calm "" ⟨[]⟩ (arrived.take 2)
    let subscription : Subscription := ⟨⟨"localhost", 5556⟩, ⟨"t1"⟩, .plain⟩
    let session := runIn .silent subscription env
    let unanswered := runIn .silent subscription
      { env with network := { env.network with reach := .unanswered 1500 } }
    let unasked := runIn .silent subscription
      { env with link := { env.link with sends := [.interrupted] } }
    session.value = .ok 1 ∧ session.transcript.output = Utf8.encode "t1 up\n" ∧
      unanswered.value = .ok 0 ∧ unanswered.transcript.output = [] ∧
      unasked.value = .ok 0 ∧ unasked.transcript.output = [] := by
  intro arrived env subscription session unanswered unasked
  have brings : env.link.Brings (arrived.take 2) := ⟨[], rfl⟩
  have connected : (env.network.dial subscription.endpoint none).1 = .connected := by decide
  have accepts : env.link.AcceptsSends := Environment.acceptsSends_calm ..
  obtain ⟨-, whole, -⟩ := prints_accepted arrived 2 env rfl brings
  obtain ⟨value, output⟩ := whole .silent subscription accepts connected
  obtain ⟨-, -, early, -⟩ := prints_accepted arrived 2
    { env with network := { env.network with reach := .unanswered 1500 } } rfl brings
  obtain ⟨none, nothing⟩ := early .silent subscription (.inl (by decide))
  obtain ⟨-, -, cut, -⟩ := prints_accepted arrived 2
    { env with link := { env.link with sends := [.interrupted] } } rfl brings
  obtain ⟨none', nothing'⟩ := cut .silent subscription (.inr ⟨connected, rfl⟩)
  exact ⟨value.trans (by decide), output.trans (by decide), none, nothing, none', nothing'⟩

end Subscriber

end MessagingConsole
