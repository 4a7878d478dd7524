import MessagingConsole.Proofs.Session.Traffic

/-!
# What stops a client

A turn that does not begin, an output that fails, a line or a message that does not come, a
message that is not taken: each of these exchanges stops a client, and says with what.  A
client *halts* if it is stopped by the first such exchange and by nothing else, and a run
*heeds* its exchanges if after one that stops it only records and the closing of the channel
follow.

Both are facts about a transcript and the way it ended, so that they are proved once for
the turns of a client, whatever they are answered, and hold in every environment.

## Main Definitions

- `Exchange.stop?` - what an exchange stops a client with, and `Exchange.failure?`, why an
  output failed.
- `Halts` - how an attempt ends, and `Heeds`, how a run does.
- `Transcript.Begins` - a run that does a beginning of what another one does.
-/

namespace MessagingConsole

namespace Exchange

/-- Why an exchange with the output of the console failed, if it did. -/
def failure? : Exchange → Option String
  | ⟨.write _, .part _⟩ => some "output closed"
  | ⟨.flush, false⟩ => some "flush failed"
  | _ => none

/-- What an exchange stops a client with that talks to an endpoint, if it does. -/
def stop? (endpoint : Endpoint) : Exchange → Option Stop
  | ⟨.turn, .interrupted⟩ => some .shutdown
  | ⟨.write _, .part _⟩ => some (.failed (.console "output closed"))
  | ⟨.flush, false⟩ => some (.failed (.console "flush failed"))
  | ⟨.readLine, .fault fault⟩ => some (.failed fault.error)
  | ⟨.readLine, .interrupted⟩ => some .shutdown
  | ⟨.send _, .fault fault⟩ => some (.failed (.send endpoint fault))
  | ⟨.send _, .interrupted⟩ => some .shutdown
  | ⟨.receive, .fault fault⟩ => some (.failed (.receive endpoint fault))
  | ⟨.receive, .interrupted⟩ => some .shutdown
  | _ => none

/-- Whether an exchange is one of those after the end of a client: a record, or the
closing of the channel. -/
def isClosing : Exchange → Bool
  | ⟨.log _, _⟩ => true
  | ⟨.close, _⟩ => true
  | _ => false

theorem stop?_of_failure? {e : Exchange} {reason : String} (endpoint : Endpoint)
    (failed : e.failure? = some reason) :
    e.stop? endpoint = some (.failed (.console reason)) := by
  unfold failure? at failed
  split at failed <;> cases failed <;> rfl

theorem isClosing_of_record {e : Exchange} (recorded : e.record?.isSome) : e.isClosing := by
  obtain ⟨operation, answer⟩ := e
  cases operation <;> first | rfl | cases recorded

theorem isClosing_of_close {e : Exchange} (closes : e.operation = .close) : e.isClosing := by
  obtain ⟨operation, answer⟩ := e
  cases closes
  rfl

theorem stop?_of_isClosing {e : Exchange} (endpoint : Endpoint) (closing : e.isClosing) :
    e.stop? endpoint = none := by
  obtain ⟨operation, answer⟩ := e
  cases operation <;> first | rfl | cases closing

end Exchange

/-- The stop that an attempt ended with, if it did. -/
def Attempt.stopOf {α : Type} : Except Stop α → Option Stop
  | .ok _ => none
  | .error stop => some stop

@[simp] theorem Attempt.stopOf_map {α β : Type} (result : Except Stop α) (change : α → β) :
    stopOf (result.map change) = stopOf result := by
  cases result <;> rfl

/-- How a run ends that was stopped: a shutdown is no error. -/
def Stop.Ends {α : Type} : Stop → Except Error α → Prop
  | .shutdown, value => ∃ result, value = .ok result
  | .failed error, value => value = .error error

/-- Nothing in a transcript stops a client. -/
def Unstopped (endpoint : Endpoint) (t : Transcript) : Prop :=
  ∀ e ∈ t, e.stop? endpoint = none

/-- An attempt is stopped by its last exchange, which is the first that stops it, or by
none. -/
inductive Halts (endpoint : Endpoint) : Transcript → Option Stop → Prop
  | unstopped {t : Transcript} (unstopped : Unstopped endpoint t) : Halts endpoint t none
  | stopped {t : Transcript} {e : Exchange} {stop : Stop} (unstopped : Unstopped endpoint t)
      (stops : e.stop? endpoint = some stop) : Halts endpoint (t ++ [e]) (some stop)

/-- After an exchange that stops it, nothing is left of a run but records and the closing
of the channel, and the run ends accordingly. -/
def Heeds {α : Type} (endpoint : Endpoint) (t : Transcript) (value : Except Error α) : Prop :=
  ∀ front e rest stop, t = front ++ e :: rest → e.stop? endpoint = some stop →
    (∀ later ∈ rest, later.isClosing) ∧ stop.Ends value

variable {endpoint : Endpoint} {t t₁ t₂ : Transcript}

/-! ## Exchanges that stop nothing -/

theorem unstopped_nil : Unstopped endpoint [] := by
  intro e mem
  exact absurd mem List.not_mem_nil

theorem unstopped_append :
    Unstopped endpoint (t₁ ++ t₂) ↔ Unstopped endpoint t₁ ∧ Unstopped endpoint t₂ :=
  List.forall_mem_append

theorem unstopped_cons {e : Exchange} :
    Unstopped endpoint (e :: t) ↔ e.stop? endpoint = none ∧ Unstopped endpoint t :=
  List.forall_mem_cons

theorem isClosing_noted {logger : Log.Logger} {level : Log.Level} {message : String}
    {pairs : List Log.Pair} : ∀ e ∈ logger.noted level message pairs, e.isClosing := by
  intro e mem
  exact Exchange.isClosing_of_record (Log.Logger.record_noted e mem)

theorem isClosing_closing {logger : Log.Logger} {faulty closed : String}
    {faults : List TransportFault} : ∀ e ∈ logger.closing faulty closed faults, e.isClosing := by
  intro e mem
  rcases Log.Logger.aside_closing e mem with recorded | closes
  · exact Exchange.isClosing_of_record recorded
  · exact Exchange.isClosing_of_close closes

theorem unstopped_noted {logger : Log.Logger} {level : Log.Level} {message : String}
    {pairs : List Log.Pair} : Unstopped endpoint (logger.noted level message pairs) := by
  intro e mem
  exact Exchange.stop?_of_isClosing endpoint (isClosing_noted e mem)

theorem unstopped_shown (endpoint : Endpoint) (chunk : Bytes) :
    Unstopped endpoint (Terminal.shown chunk) :=
  unstopped_cons.mpr ⟨rfl, unstopped_cons.mpr ⟨rfl, unstopped_nil⟩⟩

theorem unstopped_flatMap_shown (endpoint : Endpoint) (chunks : List Bytes) :
    Unstopped endpoint (chunks.flatMap Terminal.shown) := by
  intro e mem
  obtain ⟨chunk, -, mem⟩ := List.mem_flatMap.mp mem
  exact unstopped_shown endpoint chunk e mem

theorem Exchange.stop?_readLine (endpoint : Endpoint) (answer : LineAnswer) :
    Exchange.stop? endpoint ⟨.readLine, answer⟩ = Attempt.stopOf answer.outcome := by
  cases answer <;> rfl

theorem Exchange.stop?_send (endpoint : Endpoint) (payload : Bytes) (answer : SendAnswer) :
    Exchange.stop? endpoint ⟨.send payload, answer⟩ =
      Attempt.stopOf (answer.outcome (.send endpoint)) := by
  cases answer <;> rfl

/-- A prompt is followed by the end of an attempt if its answer is a stop. -/
theorem unstopped_asked {answer : LineAnswer} {reply : Option String}
    (outcome : answer.outcome = .ok reply) : Unstopped endpoint (Terminal.asked answer) := by
  have prompt := unstopped_shown endpoint (Utf8.encode Terminal.commandPrompt)
  refine unstopped_append.mpr ⟨prompt, unstopped_cons.mpr ⟨?_, unstopped_nil⟩⟩
  rw [Exchange.stop?_readLine, outcome]
  rfl

/-! ## How an attempt ends -/

/-- Exchanges that stop nothing can stand in front. -/
theorem Halts.append {stop : Option Stop} (front : Unstopped endpoint t₁)
    (halts : Halts endpoint t₂ stop) : Halts endpoint (t₁ ++ t₂) stop := by
  cases halts with
  | unstopped rest => exact .unstopped (unstopped_append.mpr ⟨front, rest⟩)
  | stopped rest stops =>
    rw [← List.append_assoc]
    exact .stopped (unstopped_append.mpr ⟨front, rest⟩) stops

/-- An attempt that is not stopped has met nothing that stops it. -/
theorem Halts.unstopped_of_none (halts : Halts endpoint t none) : Unstopped endpoint t := by
  cases halts with
  | unstopped unstopped => exact unstopped

/-- A turn that a shutdown comes before is stopped by that. -/
theorem Session.Passes.halts {α : Type} {Turn : Transcript → α → Prop} {stopped value : α}
    {stop : α → Option Stop} (pass : Session.Passes Turn stopped t value)
    (shutdown : stop stopped = some .shutdown)
    (inside : ∀ {t}, Turn t value → Halts endpoint t (stop value)) :
    Halts endpoint t (stop value) := by
  cases pass with
  | interrupted =>
    rw [shutdown]
    exact .stopped unstopped_nil rfl
  | begun turn =>
    have mark : Unstopped endpoint [⟨.turn, .begun⟩] := unstopped_cons.mpr ⟨rfl, unstopped_nil⟩
    exact .append mark (inside turn)

/-- Asking for a line ends an attempt if there is no answer. -/
theorem halts_asked {answer : LineAnswer} {stop : Stop}
    (outcome : answer.outcome = .error stop) :
    Halts endpoint (Terminal.asked answer) (some stop) := by
  have prompt := unstopped_shown endpoint (Utf8.encode Terminal.commandPrompt)
  refine .stopped prompt ?_
  rw [Exchange.stop?_readLine, outcome]
  rfl

/-- Printing is stopped by the first write or flush that fails. -/
theorem Terminal.Prints.halts {chunks : List Bytes} {result : Except Stop Unit}
    (printed : Terminal.Prints chunks t result) : Halts endpoint t (Attempt.stopOf result) := by
  cases printed with
  | whole => exact .unstopped (unstopped_flatMap_shown endpoint chunks)
  | @broken before after chunk last error cut breaks =>
    have shown : Unstopped endpoint (before.flatMap Terminal.shown) :=
      unstopped_flatMap_shown endpoint before
    cases breaks with
    | closed count => exact .stopped shown rfl
    | unflushed =>
      -- The chunk was written, and it is the flush after it that fails.
      have written : Unstopped endpoint [⟨.write chunk, .whole⟩] :=
        unstopped_cons.mpr ⟨rfl, unstopped_nil⟩
      rw [← List.singleton_append, ← List.append_assoc]
      exact .stopped (unstopped_append.mpr ⟨shown, written⟩) rfl

/-! ## How a run ends -/

variable {α : Type} {value : Except Error α}

/-- A run that meets nothing that stops it has nothing to heed. -/
theorem heeds_of_unstopped (unstopped : Unstopped endpoint t) : Heeds endpoint t value := by
  intro front e rest stop split stops
  have none : e.stop? endpoint = none := unstopped e (by simp [split])
  rw [none] at stops
  cases stops

/-- A part that stops nothing can stand in front of a run. -/
theorem Heeds.append (front : Unstopped endpoint t₁) (heeds : Heeds endpoint t₂ value) :
    Heeds endpoint (t₁ ++ t₂) value := by
  intro before e rest stop split stops
  rcases List.append_eq_append_iff.mp split with ⟨middle, -, tail⟩ | ⟨middle, same, tail⟩
  · exact heeds middle e rest stop tail stops
  · cases middle with
    | nil => exact heeds [] e rest stop tail.symm stops
    | cons head middle =>
      obtain ⟨rfl, -⟩ := List.cons.inj tail
      have none : e.stop? endpoint = none := front e (by simp [same])
      rw [none] at stops
      cases stops

/-- A run ends after an attempt that was stopped, with nothing but records and the closing
of the channel. -/
theorem Halts.heeds {stop : Stop} {last : Transcript} (halts : Halts endpoint t (some stop))
    (closing : ∀ e ∈ last, e.isClosing) (ends : stop.Ends value) :
    Heeds endpoint (t ++ last) value := by
  cases halts with
  | @stopped t e _ unstopped stops =>
    rw [List.append_assoc, List.singleton_append]
    refine .append unstopped ?_
    intro front other rest again split stops'
    cases front with
    | nil =>
      obtain ⟨rfl, rfl⟩ := List.cons.inj split
      cases stops.symm.trans stops'
      exact ⟨closing, ends⟩
    | cons head front =>
      -- What comes after the end stops nothing any more.
      obtain ⟨-, rfl⟩ := List.cons.inj split
      have none := Exchange.stop?_of_isClosing endpoint (closing other (by simp))
      rw [none] at stops'
      cases stops'

/-! ## Runs that are cut off -/

/-- A transcript puts out, sends and receives a beginning of what another one does. -/
structure Transcript.Begins (t whole : Transcript) : Prop where
  output : t.output <+: whole.output
  sent : t.sent <+: whole.sent
  received : t.received <+: whole.received

theorem Transcript.Begins.refl (t : Transcript) : t.Begins t :=
  ⟨List.prefix_rfl, List.prefix_rfl, List.prefix_rfl⟩

/-- What is left of a run after its end is neither output nor traffic. -/
theorem Exchange.quiet_of_isClosing {e : Exchange} (closing : e.isClosing) :
    e.output = [] ∧ e.sent? = none ∧ e.received? = none := by
  obtain ⟨operation, answer⟩ := e
  cases operation <;> first | exact ⟨rfl, rfl, rfl⟩ | cases closing

/-- Nothing is sent or received by an exchange that stops a client. -/
theorem Exchange.untaken_of_stop? {e : Exchange} {stop : Stop}
    (stops : e.stop? endpoint = some stop) : e.sent? = none ∧ e.received? = none := by
  unfold stop? at stops
  split at stops <;> first | exact ⟨rfl, rfl⟩ | cases stops

theorem Transcript.quiet_of_isClosing (closing : ∀ e ∈ t, e.isClosing) :
    t.output = [] ∧ t.sent = [] ∧ t.received = [] := by
  have quiet (e : Exchange) (mem : e ∈ t) := Exchange.quiet_of_isClosing (closing e mem)
  refine ⟨List.flatMap_eq_nil_iff.mpr ?_, List.filterMap_eq_nil_iff.mpr ?_,
    List.filterMap_eq_nil_iff.mpr ?_⟩
  · exact fun e mem => (quiet e mem).1
  · exact fun e mem => (quiet e mem).2.1
  · exact fun e mem => (quiet e mem).2.2

/-- A run puts out nothing after the exchange that stops it, and sends and receives nothing
from there on. -/
theorem Heeds.traffic {front rest : Transcript} {e : Exchange} {stop : Stop}
    (heeds : Heeds endpoint t value) (split : t = front ++ e :: rest)
    (stops : e.stop? endpoint = some stop) :
    t.output = front.output ++ e.output ∧ t.sent = front.sent ∧ t.received = front.received := by
  obtain ⟨closing, -⟩ := heeds front e rest stop split stops
  obtain ⟨output, sent, received⟩ := Transcript.quiet_of_isClosing closing
  obtain ⟨unsent, unreceived⟩ := Exchange.untaken_of_stop? stops
  simp [split, output, sent, received, unsent, unreceived]

/-- A run that is stopped where another one goes on does a beginning of what that one
does. -/
theorem Heeds.begins {front rest rest' whole : Transcript} {e e' : Exchange} {stop : Stop}
    (heeds : Heeds endpoint t value) (split : t = front ++ e :: rest)
    (stops : e.stop? endpoint = some stop) (whole_eq : whole = front ++ e' :: rest')
    (cut : e.output <+: e'.output) : t.Begins whole := by
  obtain ⟨output, sent, received⟩ := heeds.traffic split stops
  constructor
  · rw [output, whole_eq, Transcript.output_append, Transcript.output_cons, ← List.append_assoc]
    exact ((List.prefix_append_right_inj _).mpr cut).trans (List.prefix_append _ _)
  · rw [sent, whole_eq, Transcript.sent_append]
    exact List.prefix_append _ _
  · rw [received, whole_eq, Transcript.received_append]
    exact List.prefix_append _ _

end MessagingConsole
