import MessagingConsole.Proofs.Console.Taking
import MessagingConsole.Proofs.Requester.Alternation

/-!
# Steps that fail

A step can fail at five places, and at each of them it has done a different part of its work.
Until the transport has taken the line the state is that of the console, so that a line which
could not be sent is lost but nothing is owed.  Once a reply has arrived the state is that of
the console again, so that a reply which could not be printed is lost but is not waited for a
second time.

## Main Definitions

- `Failure` - the five places, with what the step has done by then.
- `SendsFirst` - a reply is waited for only after a message was sent.

## Main Results

- `sendsFirst_of_steps` - no reply is waited for before the next request.
- `failure_of_step` - what a step that failed has done.
-/

namespace MessagingConsole

open Terminal (Breaks Prints shown asked)

/-! ## What exchanges leave alone -/

namespace Environment

variable {env final : Environment} {t : Transcript}

/-- The console's input stands as it stood before. -/
structure SameInput (env final : Environment) : Prop where
  reader : final.reader = env.reader
  source : final.source = env.source

/-- One line is taken off the console's input, and nothing else. -/
def TakesLine (env : Environment) (line : String) (final : Environment) : Prop :=
  env.reader.TakesLine env.source line final.reader final.source

/-- Only calls for lines use up input. -/
theorem Gives.sameInput (gives : env.Gives t final) (silent : ∀ e ∈ t, e.operation ≠ .readLine) :
    env.SameInput final := by
  have kept (env : Environment) (e : Exchange) (mem : e ∈ t) :
      ((env.answer e.operation).2.reader, (env.answer e.operation).2.source) =
        (env.reader, env.source) := by
    have other := silent e mem
    obtain ⟨operation, answer⟩ := e
    cases operation <;> first | rfl | exact absurd rfl other
  have same : (final.reader, final.source) = (env.reader, env.source) :=
    gives.part_eq (fun env => (env.reader, env.source)) kept
  exact ⟨(Prod.mk.inj same).1, (Prod.mk.inj same).2⟩

/-- A message that is received was the next arrival. -/
theorem arrivals_of_receive {message : Message}
    (received : (env.answer .receive).1 = .message message) :
    env.link.arrivals = .message message :: (env.answer .receive).2.link.arrivals := by
  simp only [answer, Link.receive] at received ⊢
  cases arrivals : env.link.arrivals with
  | nil =>
    rw [arrivals] at received
    cases quiet : env.link.arrivalsAfter <;> rw [quiet] at received <;> cases received
  | cons arrival rest =>
    rw [arrivals] at received
    cases arrival with
    | message other =>
      cases received
      rfl
    | quiet quiet => cases quiet <;> cases received

end Environment

/-- What is put out asks for no line. -/
theorem Exchange.operation_ne_readLine {e : Exchange} (output : e.isOutput) :
    e.operation ≠ .readLine := by
  obtain ⟨operation, answer⟩ := e
  rintro ⟨⟩
  cases output

/-- A record asks for no line. -/
theorem Exchange.operation_ne_readLine_of_record {e : Exchange} (record : e.record?.isSome) :
    e.operation ≠ .readLine := by
  obtain ⟨operation, answer⟩ := e
  rintro ⟨⟩
  cases record

/-- Of a chunk that cannot be shown, its first octets are put out. -/
theorem Terminal.Breaks.output_prefix {chunk : Bytes} {t : Transcript} {error : Error}
    (breaks : Breaks chunk t error) : t.output <+: chunk := by
  cases breaks with
  | closed count =>
    rw [Transcript.output_cons, Transcript.output_nil, List.append_nil]
    exact List.take_prefix count chunk
  | unflushed =>
    have output : Transcript.output [⟨.write chunk, .whole⟩, ⟨.flush, false⟩] = chunk := by
      simp [Exchange.output]
    rw [output]

/-- A prompt that is followed by the answer of a line takes that line of the input. -/
theorem Environment.Gives.takesLine {env final : Environment} {line : String} {rest : Transcript}
    (gives : env.Gives (asked (.line line) ++ rest) final)
    (silent : ∀ e ∈ rest, e.operation ≠ .readLine) : env.TakesLine line final := by
  obtain ⟨heard, before, after⟩ := gives_append.mp gives
  obtain ⟨prompted, shows, reads⟩ := gives_append.mp before
  have shown_isOutput : ∀ e ∈ shown (Utf8.encode Terminal.commandPrompt), e.isOutput := by
    simpa using Terminal.isOutput_shown [Utf8.encode Terminal.commandPrompt]
  have start := shows.sameInput fun e mem =>
    Exchange.operation_ne_readLine (shown_isOutput e mem)
  have stop := after.sameInput silent
  obtain ⟨answer, rfl⟩ := gives_cons.mp reads
  have found : prompted.reader.next prompted.source =
      ((.line line, final.reader), final.source) := by
    rw [stop.reader, stop.source, ← answer]
    rfl
  rw [start.reader, start.source] at found
  exact LineReader.takesLine_of_next found

namespace Requester

variable {r : Requester} {env : Environment} {o : Outcome Stepped}

/-- A reply is waited for only after a message was sent. -/
def SendsFirst (t : Transcript) : Prop :=
  ∀ (before : Transcript) answer after, t = before ++ ⟨.receive, answer⟩ :: after → before.sent ≠ []

/-- The first thing that happens is that the prompt for a line is written. -/
def Prompts (t : Transcript) : Prop :=
  ∃ answer rest, t = ⟨.write (Utf8.encode Terminal.commandPrompt), answer⟩ :: rest

/-- The five places where a step can fail with an error, and what it has done by then, in the
surroundings that it leaves. -/
inductive Failure (r : Requester) (env : Environment) (o : Outcome Stepped) : State → Error → Prop
  /-- The prompt cannot be shown.  No input is used up and nothing is sent. -/
  | prompt {error : Error} (breaks : Breaks (Utf8.encode Terminal.commandPrompt) o.transcript error)
      (unread : env.SameInput o.env) (unsent : o.transcript.sent = [])
      (kept : o.value.state = .awaitingInput) : Failure r env o .awaitingInput error
  /-- The line cannot be read or is no text.  Nothing is sent. -/
  | line {fault : LineFault} (unheard : o.transcript = asked (.fault fault))
      (unsent : o.transcript.sent = []) (kept : o.value.state = .awaitingInput) :
      Failure r env o .awaitingInput fault.error
  /-- The line cannot be sent, which may be `quit`.  It is taken off the input, and only the prompt
  is put out. -/
  | send {line : String} {fault : TransportFault}
      (refused : ⟨.send (Utf8.encode line), .fault fault⟩ ∈ o.transcript)
      (taken : env.TakesLine line o.env)
      (prompted : o.transcript.output = Utf8.encode Terminal.commandPrompt)
      (unsent : o.transcript.sent = []) (kept : o.value.state = .awaitingInput) :
      Failure r env o .awaitingInput (.send r.endpoint fault)
  /-- There is no reply.  Nothing is put out and no input is used up. -/
  | receive {fault : TransportFault} (unanswered : o.transcript = [⟨.receive, .fault fault⟩])
      (unread : env.SameInput o.env) (unprinted : o.transcript.output = [])
      (kept : o.value.state = .awaitingReply) :
      Failure r env o .awaitingReply (.receive r.endpoint fault)
  /-- The reply cannot be printed.  It is taken from the transport, some of its first octets are
  put out, and from now on the next line is awaited. -/
  | print {reply : Message} {error : Error}
      (taken : env.link.arrivals = .message reply :: o.env.link.arrivals)
      (received : o.transcript.received = [reply])
      (cut : o.transcript.output <+: reply.payload)
      (closed : error = .console "output closed" ∨ error = .console "flush failed")
      (unread : env.SameInput o.env) (unsent : o.transcript.sent = [])
      (moved : o.value.state = .awaitingInput)
      (prompts : ∀ t stepped, (r.step o.value.state).Follows t stepped → Prompts t)
      (sendsFirst : ∀ count t ends, (r.steps count o.value.state).Follows t ends → SendsFirst t) :
      Failure r env o .awaitingReply error

/-! ## The next request comes first -/

variable {t t₁ t₂ : Transcript} {state : State} {stepped : Stepped}

theorem sendsFirst_nil : SendsFirst [] := by
  intro before answer after split
  simp at split

/-- Exchanges without waiting for a reply can stand in front, and with a message sent among
them anything can follow. -/
theorem sendsFirst_append (unasked : ∀ answer, ⟨.receive, answer⟩ ∉ t₁)
    (later : t₁.sent ≠ [] ∨ SendsFirst t₂) : SendsFirst (t₁ ++ t₂) := by
  intro before answer after split
  rcases List.append_eq_append_iff.mp split with ⟨middle, rfl, tail⟩ | ⟨middle, front, tail⟩
  · rw [Transcript.sent_append]
    rcases later with some | first
    · exact List.append_ne_nil_of_left_ne_nil some _
    · exact List.append_ne_nil_of_right_ne_nil _ (first middle answer after tail)
  · cases middle with
    | nil =>
      rw [List.append_nil] at front
      rcases later with some | first
      · exact front ▸ some
      · exact absurd (first [] answer after tail.symm) (by simp)
    | cons e middle =>
      obtain ⟨rfl, -⟩ := List.cons.inj tail
      exact absurd (front ▸ List.mem_append_right _ List.mem_cons_self) (unasked answer)

/-- At the turn of the console a message is sent, or no reply is owed after it either. -/
theorem Turn.sent_or_unowed (turn : Turn r state t stepped) (own : state ≠ .awaitingReply) :
    t.sent ≠ [] ∨ stepped.state ≠ .awaitingReply := by
  cases turn with
  | unprompted | stopped | ended | unsent | finished => exact .inr nofun
  | sent line => exact .inl (by simp [sending])
  | unanswered | replied | unprinted => exact absurd rfl own

/-- **No reply is waited for before the next request**, whatever goes wrong on the way. -/
theorem sendsFirst_of_steps {count : Nat} {ends : List Stepped} (own : state ≠ .awaitingReply)
    (follows : (r.steps count state).Follows t ends) : SendsFirst t := by
  induction count generalizing state t ends with
  | zero =>
    obtain ⟨rfl, rfl⟩ := follows
    exact sendsFirst_nil
  | succ count ih =>
    obtain ⟨stepped, rest, t₁, t₂, rfl, rfl, turn, later⟩ := follows_steps_succ.mp follows
    have unasked (answer : ReceiveAnswer) : ⟨.receive, answer⟩ ∉ t₁ :=
      fun mem => own (turn.state_of_receive mem)
    exact sendsFirst_append unasked ((turn.sent_or_unowed own).imp_right fun own => ih own later)

/-- The turn of the console begins with its prompt. -/
theorem Turn.prompts (turn : Turn r .awaitingInput t stepped) : Prompts t := by
  cases turn with
  | unprompted printed =>
    rcases Terminal.prints_singleton_iff.mp printed with ⟨-, ⟨⟩⟩ | ⟨error, breaks, -⟩
    cases breaks with
    | closed count => exact ⟨_, _, rfl⟩
    | unflushed => exact ⟨_, _, rfl⟩
  | stopped | ended | sent | unsent => exact ⟨_, _, rfl⟩

/-! ## Where a step fails -/

section Places

variable {final : Environment} {error : Error}

theorem operation_ne_readLine_noted {level : Log.Level} {message : String}
    {pairs : List Log.Pair} :
    ∀ e ∈ r.logger.noted level message pairs, e.operation ≠ .readLine :=
  fun e mem => Exchange.operation_ne_readLine_of_record (Log.Logger.record_noted e mem)

/-- At the line that the transport refuses. -/
theorem Failure.of_unsent {line : String} {fault : TransportFault}
    (gives : env.Gives
      (asked (.line line) ++ (r.sending line ++ [⟨.send (Utf8.encode line), .fault fault⟩]))
      final) :
    Failure r env
      ⟨⟨.awaitingInput, some (.failed (.send r.endpoint fault))⟩, final,
        asked (.line line) ++ (r.sending line ++ [⟨.send (Utf8.encode line), .fault fault⟩])⟩
      .awaitingInput (.send r.endpoint fault) := by
  refine @Failure.send r env _ line fault (by simp) ?_ ?_ ?_ rfl
  · refine gives.takesLine fun e mem => ?_
    rcases List.mem_append.mp mem with record | sent
    · exact operation_ne_readLine_noted e record
    · cases List.mem_singleton.mp sent
      nofun
  · simp [sending]
  · simp [sending, Exchange.sent?]

/-- At the printing of a reply. -/
theorem Failure.of_unprinted {message : Message} {stop : Stop} {t : Transcript}
    (printed : Prints [message.payload] t (.error stop)) (failed : stop = .failed error)
    (gives : env.Gives (⟨.receive, .message message⟩ :: (r.receiving message ++ t)) final) :
    Failure r env
      ⟨⟨.awaitingInput, some stop⟩, final,
        ⟨.receive, .message message⟩ :: (r.receiving message ++ t)⟩ .awaitingReply error := by
  have aside : ∀ e ∈ r.receiving message ++ t, e.isOutput ∨ e.record?.isSome := by
    intro e mem
    rcases List.mem_append.mp mem with record | output
    · exact .inr (Log.Logger.record_noted e record)
    · exact .inl (printed.isOutput e output)
  obtain ⟨received, later⟩ := Environment.gives_cons.mp gives
  obtain ⟨breaks, closed⟩ : Breaks message.payload t error ∧
      (error = .console "output closed" ∨ error = .console "flush failed") := by
    rcases Terminal.prints_singleton_iff.mp printed with ⟨-, ⟨⟩⟩ | ⟨error, breaks, ⟨⟩⟩
    cases failed
    cases breaks with
    | closed count => exact ⟨.closed count, .inl rfl⟩
    | unflushed => exact ⟨.unflushed, .inr rfl⟩
  have taken : env.link.arrivals = .message message :: final.link.arrivals := by
    rw [later.link_eq aside]
    exact Environment.arrivals_of_receive received
  have unread : env.SameInput final := by
    refine gives.sameInput fun e mem => ?_
    rcases List.mem_cons.mp mem with rfl | mem
    · nofun
    · rcases aside e mem with output | record
      · exact Exchange.operation_ne_readLine output
      · exact Exchange.operation_ne_readLine_of_record record
  have own : State.awaitingInput ≠ .awaitingReply := nofun
  refine .print taken ?_ ?_ closed unread ?_ rfl ?_ ?_
  · simp [receiving, printed.received]
  · simpa [receiving] using breaks.output_prefix
  · simp [receiving, printed.sent]
  · exact fun t stepped follows => (follows_step_iff.mp follows).prompts
  · exact fun count t ends follows => sendsFirst_of_steps own follows

end Places

/-- **A step that fails** fails at one of five places, in any state and any surroundings, and has
done by then what belongs to that place.  No other error is possible. -/
theorem failure_of_step (r : Requester) (state : State) (env : Environment) {error : Error}
    (failed : ((r.step state).run env).value.stop = some (.failed error)) :
    Failure r env ((r.step state).run env) state error := by
  have turn := follows_step_iff.mp (Session.follows_run (r.step state) env)
  have gives := Session.gives_run (r.step state) env
  generalize (r.step state).run env = o at failed turn gives
  obtain ⟨stepped, final, t⟩ := o
  -- One case for each way a step can go; five of them end with an error.
  cases turn with
  | unprompted printed =>
    rcases Terminal.prints_singleton_iff.mp printed with ⟨-, ⟨⟩⟩ | ⟨error, breaks, ⟨⟩⟩
    cases failed
    have unread := gives.sameInput fun e mem =>
      Exchange.operation_ne_readLine (printed.isOutput e mem)
    exact .prompt breaks unread printed.sent rfl
  | @stopped answer stop outcome =>
    cases failed
    cases answer with
    | fault fault =>
      cases outcome
      exact .line rfl rfl rfl
    | line | endOfInput | interrupted => cases outcome
  | ended | sent | replied | finished => cases failed
  | @unsent line answer stop untaken =>
    cases failed
    cases answer with
    | fault fault =>
      cases untaken
      exact .of_unsent gives
    | taken | interrupted => cases untaken
  | @unanswered answer stop outcome =>
    cases failed
    cases answer with
    | fault fault =>
      cases outcome
      have unread := gives.sameInput fun e mem => by
        cases List.mem_singleton.mp mem
        nofun
      exact .receive rfl unread rfl rfl
    | message | interrupted => cases outcome
  | unprinted printed => exact .of_unprinted printed (Option.some.inj failed) gives

/-- A `quit` that the transport does not take, and a reply of which half is printed. -/
theorem failure_of_refused_quit :
    let r : Requester := ⟨⟨"localhost", 5555⟩, .silent⟩
    let calm := Environment.calm "quit\n" ⟨[]⟩ [⟨[Utf8.encode "pong"], ⟨0, 0, 0⟩⟩]
    let refusing := { calm with link := { calm.link with sends := [.fault .noMessage] } }
    let closing := { calm with sink := ⟨some 2, none⟩ }
    let asked := (r.step .awaitingInput).run refusing
    let answered := (r.step .awaitingReply).run closing
    Failure r refusing asked .awaitingInput (.send r.endpoint .noMessage) ∧
      asked.value.state = .awaitingInput ∧ asked.env.reader.pending = [] ∧
      Failure r closing answered .awaitingReply (.console "output closed") ∧
      answered.value.state = .awaitingInput ∧
      answered.transcript.output = Utf8.encode "po" := by
  intro r calm refusing closing asked answered
  have unsent : Failure r refusing asked .awaitingInput (.send r.endpoint .noMessage) :=
    failure_of_step r .awaitingInput refusing (by decide +kernel)
  have unprinted : Failure r closing answered .awaitingReply (.console "output closed") :=
    failure_of_step r .awaitingReply closing (by decide +kernel)
  exact ⟨unsent, by decide +kernel, by decide +kernel, unprinted, by decide +kernel,
    by decide +kernel⟩

end Requester

end MessagingConsole
