import MessagingConsole.Proofs.Session.Printing
import MessagingConsole.Requester

/-!
# The turns of a requester

What one step can look like from outside.  A step of the console prompts, reads a line
and sends it; a step of the server waits for a reply and prints it; and both can be cut
off at every exchange on the way.  `Turn` has one constructor for each of these ways, with
the state that it leaves, so that a fact about all steps is proved by cases and no proof
opens the requester again.

## Main Definitions

- `Turn` - what a step can be, and how it ends.
- `Pass` - a step that a shutdown can come before, and `Turns`, such steps in a row.

## Main Results

- `follows_step_iff` - the transcripts of a step are its turns.
- `follows_run_iff` - the transcripts of a run are turns in a row, and the closing.
-/

namespace MessagingConsole

/-- What the answer to waiting for a message means: a message, or a stop. -/
def ReceiveAnswer.outcome (endpoint : Endpoint) : ReceiveAnswer → Except Stop Message
  | .message reply => .ok reply
  | .fault reason => .error (.failed (.receive endpoint reason))
  | .interrupted => .error .shutdown

namespace Requester

open Terminal (Prints shown asked)

variable {r : Requester} {t : Transcript}

/-- The record of a request that is about to be sent. -/
def sending (r : Requester) (line : String) : Transcript :=
  r.logger.noted .trace "sending request" [("bytes", Text.decimal (Utf8.encode line).length)]

/-- The record of a reply. -/
def receiving (r : Requester) (message : Message) : Transcript :=
  r.logger.noted .trace "received reply" [("frames", Text.decimal message.frames.length)]

/-- What a step can be in a state, and how it ends. -/
inductive Turn (r : Requester) : State → Transcript → Stepped → Prop
  /-- The prompt cannot be shown. -/
  | unprompted {t : Transcript} {stop : Stop}
      (printed : Prints [Utf8.encode Terminal.commandPrompt] t (.error stop)) :
      Turn r .awaitingInput t ⟨.awaitingInput, some stop⟩
  /-- There is no answer to the prompt. -/
  | stopped {answer : LineAnswer} {stop : Stop} (outcome : answer.outcome = .error stop) :
      Turn r .awaitingInput (asked answer) ⟨.awaitingInput, some stop⟩
  | ended :
      Turn r .awaitingInput
        (asked .endOfInput ++ r.logger.noted .debug "console input ended" [])
        ⟨.terminated, none⟩
  /-- The transport takes the line. -/
  | sent (line : String) :
      Turn r .awaitingInput
        (asked (.line line) ++ (r.sending line ++ [⟨.send (Utf8.encode line), .taken⟩]))
        ⟨if line = quit then .terminated else .awaitingReply, none⟩
  /-- The transport does not take the line. -/
  | unsent (line : String) {answer : SendAnswer} {stop : Stop}
      (untaken : answer.outcome (.send r.endpoint) = .error stop) :
      Turn r .awaitingInput
        (asked (.line line) ++ (r.sending line ++ [⟨.send (Utf8.encode line), answer⟩]))
        ⟨.awaitingInput, some stop⟩
  /-- There is no reply. -/
  | unanswered {answer : ReceiveAnswer} {stop : Stop}
      (outcome : answer.outcome r.endpoint = .error stop) :
      Turn r .awaitingReply [⟨.receive, answer⟩] ⟨.awaitingReply, some stop⟩
  /-- The reply is printed. -/
  | replied (message : Message) :
      Turn r .awaitingReply
        (⟨.receive, .message message⟩ :: (r.receiving message ++ shown message.payload))
        ⟨.awaitingInput, none⟩
  /-- The reply cannot be printed. -/
  | unprinted {message : Message} {t : Transcript} {stop : Stop}
      (printed : Prints [message.payload] t (.error stop)) :
      Turn r .awaitingReply (⟨.receive, .message message⟩ :: (r.receiving message ++ t))
        ⟨.awaitingInput, some stop⟩
  | finished : Turn r .terminated [] ⟨.terminated, none⟩

/-- How a turn can go that a shutdown can come before. -/
abbrev Pass (r : Requester) (state : State) : Transcript → Stepped → Prop :=
  Session.Passes (Turn r state) ⟨state, some .shutdown⟩

/-- How turns can follow each other, at most so many of them, and how that ends. -/
inductive Turns (r : Requester) : Nat → State → Transcript → Except Error Unit → Prop
  | spent (state : State) : Turns r 0 state [] (.ok ())
  | again {budget : Nat} {state next : State} {t₁ t₂ : Transcript} {value : Except Error Unit}
      (pass : Pass r state t₁ ⟨next, none⟩) (goes : next ≠ .terminated)
      (later : Turns r budget next t₂ value) : Turns r (budget + 1) state (t₁ ++ t₂) value
  | finished {budget : Nat} {state : State} {t : Transcript}
      (pass : Pass r state t ⟨.terminated, none⟩) : Turns r (budget + 1) state t (.ok ())
  | shutdown {budget : Nat} {state next : State} {t : Transcript}
      (pass : Pass r state t ⟨next, some .shutdown⟩) :
      Turns r (budget + 1) state
        (t ++ r.logger.noted .info "shutting down" [("state", next.name)]) (.ok ())
  | failed {budget : Nat} {state next : State} {t : Transcript} {error : Error}
      (pass : Pass r state t ⟨next, some (.failed error)⟩) :
      Turns r (budget + 1) state t (.error error)

/-! ## From the requester to its turns -/

theorem follows_send {line : String} {result : Except Stop Unit} :
    Attempt.Follows (r.send line) t result ↔
      ∃ answer : SendAnswer,
        t = r.sending line ++ [⟨.send (Utf8.encode line), answer⟩] ∧
        result = answer.outcome (.send r.endpoint) :=
  Attempt.follows_note_send

/-- The turn of a line ends with the sending of it. -/
theorem follows_line {line : String} {result : Except Stop State} :
    Attempt.Follows
        (do
          let next ← Attempt.orFail .outOfTurn (State.awaitingInput.accept (.line line))
          r.send line
          return next)
        t result ↔
      ∃ answer : SendAnswer,
        t = r.sending line ++ [⟨.send (Utf8.encode line), answer⟩] ∧
        result = (answer.outcome (.send r.endpoint)).map
          fun _ => if line = quit then .terminated else .awaitingReply := by
  change Attempt.Follows (do r.send line; return _) t result ↔ _
  rw [Attempt.follows_bind_pure]
  simp only [follows_send]
  constructor
  · rintro ⟨_, ⟨answer, rfl, rfl⟩, rfl⟩
    exact ⟨answer, rfl, rfl⟩
  · rintro ⟨answer, rfl, rfl⟩
    exact ⟨_, ⟨answer, rfl, rfl⟩, rfl⟩

/-- Waiting for a reply, and the state that it leads to. -/
theorem follows_collect {result : Except Stop (State × Bytes)} :
    Attempt.Follows r.collect t result ↔
      (∃ answer stop, answer.outcome r.endpoint = .error stop ∧
        t = [⟨.receive, answer⟩] ∧ result = .error stop) ∨
      ∃ reply : Message, t = ⟨.receive, .message reply⟩ :: r.receiving reply ∧
        result = .ok (.awaitingInput, reply.payload) := by
  change Attempt.Follows (r.receive >>= fun payload => pure (.awaitingInput, payload)) t result ↔ _
  rw [Attempt.follows_bind_pure]
  unfold receive
  constructor
  · rintro ⟨ended, follows, rfl⟩
    obtain ⟨answer, rest, rfl, later⟩ := Attempt.follows_perform_bind.mp follows
    cases answer with
    | message reply =>
      obtain ⟨rfl, rfl⟩ := Attempt.follows_note_pure.mp later
      exact .inr ⟨reply, rfl, rfl⟩
    | fault reason =>
      obtain ⟨rfl, rfl⟩ := Attempt.follows_fail.mp later
      exact .inl ⟨_, _, rfl, rfl, rfl⟩
    | interrupted =>
      obtain ⟨rfl, rfl⟩ := Attempt.follows_throw.mp later
      exact .inl ⟨_, _, rfl, rfl, rfl⟩
  · rintro (⟨answer, stop, outcome, rfl, rfl⟩ | ⟨reply, rfl, rfl⟩)
    · refine ⟨.error stop, Attempt.follows_perform_bind.mpr ⟨answer, [], rfl, ?_⟩, rfl⟩
      cases answer with
      | message reply => cases outcome
      | fault reason =>
        cases outcome
        exact Attempt.follows_fail.mpr ⟨rfl, rfl⟩
      | interrupted =>
        cases outcome
        exact Attempt.follows_throw.mpr ⟨rfl, rfl⟩
    · refine ⟨.ok _, Attempt.follows_perform_bind.mpr ⟨.message reply, _, rfl, ?_⟩, rfl⟩
      exact Attempt.follows_note_pure.mpr ⟨rfl, rfl⟩

/-- The step of the console reports how the request went. -/
theorem follows_step_awaitingInput {stepped : Stepped} :
    (r.step .awaitingInput).Follows t stepped ↔
      ∃ result, Attempt.Follows r.request t result ∧
        stepped = match result with
          | .ok next => ⟨next, none⟩
          | .error stop => ⟨.awaitingInput, some stop⟩ := by
  rw [step, Session.follows_bind]
  constructor
  · rintro ⟨result, t₁, t₂, rfl, first, later⟩
    refine ⟨result, ?_, ?_⟩ <;> cases result <;> obtain ⟨rfl, rfl⟩ := later
    · rwa [List.append_nil]
    · rwa [List.append_nil]
    · rfl
    · rfl
  · rintro ⟨result, first, rfl⟩
    refine ⟨result, t, [], (List.append_nil _).symm, first, ?_⟩
    cases result <;> exact ⟨rfl, rfl⟩

theorem follows_console_iff {stepped : Stepped} :
    (r.step .awaitingInput).Follows t stepped ↔ Turn r .awaitingInput t stepped := by
  rw [follows_step_awaitingInput]
  unfold request
  simp only [Terminal.follows_prompt_bind]
  constructor
  · rintro ⟨result, ⟨stop, printed, rfl⟩ |
      ⟨_, rfl, answer, rest, rfl, ⟨stop, outcome, rfl, rfl⟩ | ⟨reply, outcome, follows⟩⟩, rfl⟩
    · exact .unprompted printed
    · exact .stopped outcome
    · cases answer with
      | line line =>
        cases outcome
        obtain ⟨_ | fault | _, rfl, rfl⟩ := follows_line.mp follows
        · exact .sent line
        · exact .unsent line rfl
        · exact .unsent line rfl
      | endOfInput =>
        cases outcome
        obtain ⟨rfl, rfl⟩ := Attempt.follows_note_pure.mp follows
        exact .ended
      | fault reason => cases outcome
      | interrupted => cases outcome
  · intro turn
    cases turn with
    | unprompted printed => exact ⟨_, .inl ⟨_, printed, rfl⟩, rfl⟩
    | @stopped answer stop outcome =>
      exact ⟨_, .inr ⟨_, rfl, answer, [], rfl, .inl ⟨stop, outcome, rfl, rfl⟩⟩, rfl⟩
    | ended =>
      refine ⟨.ok .terminated, .inr ⟨_, rfl, .endOfInput, _, rfl, .inr ⟨none, rfl, ?_⟩⟩, rfl⟩
      exact Attempt.follows_note_pure.mpr ⟨rfl, rfl⟩
    | sent line =>
      refine ⟨.ok _, .inr ⟨_, rfl, .line line, _, rfl, .inr ⟨some line, rfl, ?_⟩⟩, rfl⟩
      exact follows_line.mpr ⟨.taken, rfl, rfl⟩
    | @unsent line answer stop untaken =>
      refine ⟨.error stop, .inr ⟨_, rfl, .line line, _, rfl, .inr ⟨some line, rfl, ?_⟩⟩, rfl⟩
      exact follows_line.mpr ⟨answer, rfl, by rw [untaken]; rfl⟩

/-- The step of the server ends with the printing of the reply. -/
theorem follows_print {payload : Bytes} {stepped : Stepped} :
    (do
      match ← (Terminal.write payload).run with
      | .ok () => return ⟨.awaitingInput, none⟩
      | .error stop => return ⟨.awaitingInput, some stop⟩ : Session Stepped).Follows t stepped ↔
      (t = shown payload ∧ stepped = ⟨.awaitingInput, none⟩) ∨
      ∃ stop, Prints [payload] t (.error stop) ∧ stepped = ⟨.awaitingInput, some stop⟩ := by
  rw [Session.follows_bind]
  constructor
  · rintro ⟨ended, t₁, t₂, rfl, first, reported⟩
    have printed := Terminal.follows_write.mp first
    cases ended with
    | ok =>
      obtain ⟨rfl, rfl⟩ := reported
      exact .inl ⟨by simpa using Terminal.prints_ok_iff.mp printed, rfl⟩
    | error stop =>
      obtain ⟨rfl, rfl⟩ := reported
      exact .inr ⟨stop, by simpa using printed, rfl⟩
  · rintro (⟨rfl, rfl⟩ | ⟨stop, printed, rfl⟩)
    · have printed : Prints [payload] (shown payload) (.ok ()) :=
        Terminal.prints_singleton_iff.mpr (.inl ⟨rfl, rfl⟩)
      exact ⟨.ok (), _, [], by simp, Terminal.follows_write.mpr printed, rfl, rfl⟩
    · exact ⟨.error stop, t, [], by simp, Terminal.follows_write.mpr printed, rfl, rfl⟩

theorem follows_server_iff {stepped : Stepped} :
    (r.step .awaitingReply).Follows t stepped ↔ Turn r .awaitingReply t stepped := by
  rw [step, Session.follows_bind]
  constructor
  · rintro ⟨result, t₁, t₂, rfl, first, later⟩
    rcases follows_collect.mp first with ⟨answer, stop, outcome, rfl, rfl⟩ | ⟨reply, rfl, rfl⟩
    · obtain ⟨rfl, rfl⟩ := later
      exact .unanswered outcome
    · rcases follows_print.mp later with ⟨rfl, rfl⟩ | ⟨stop, printed, rfl⟩
      · exact .replied reply
      · exact .unprinted printed
  · intro turn
    cases turn with
    | @unanswered answer stop outcome =>
      refine ⟨.error stop, _, [], (List.append_nil _).symm, ?_, rfl, rfl⟩
      exact follows_collect.mpr (.inl ⟨answer, stop, outcome, rfl, rfl⟩)
    | replied reply =>
      refine ⟨_, _, _, rfl, follows_collect.mpr (.inr ⟨reply, rfl, rfl⟩), ?_⟩
      exact follows_print.mpr (.inl ⟨rfl, rfl⟩)
    | @unprinted reply t stop printed =>
      refine ⟨_, _, t, rfl, follows_collect.mpr (.inr ⟨reply, rfl, rfl⟩), ?_⟩
      exact follows_print.mpr (.inr ⟨stop, printed, rfl⟩)

/-- The transcripts of a step are its turns. -/
theorem follows_step_iff {state : State} {stepped : Stepped} :
    (r.step state).Follows t stepped ↔ Turn r state t stepped := by
  cases state with
  | awaitingInput => exact follows_console_iff
  | awaitingReply => exact follows_server_iff
  | terminated =>
    constructor
    · rintro ⟨rfl, rfl⟩
      exact .finished
    · rintro ⟨⟩
      exact ⟨rfl, rfl⟩

theorem follows_pass_iff {state : State} {stepped : Stepped} :
    (Session.pass ⟨state, some .shutdown⟩ (r.step state)).Follows t stepped ↔
      Pass r state t stepped :=
  Session.follows_pass follows_step_iff

/-- The transcripts of several steps that are not stopped are turns in a row. -/
theorem follows_turns_iff {budget : Nat} {state : State} {value : Except Error Unit} :
    (r.turns budget state).Follows t value ↔ Turns r budget state t value := by
  induction budget generalizing state t with
  | zero =>
    constructor
    · rintro ⟨rfl, rfl⟩
      exact .spent state
    · rintro ⟨⟩
      exact ⟨rfl, rfl⟩
  | succ budget ih =>
    rw [turns, Session.follows_bind]
    simp only [follows_pass_iff]
    constructor
    · rintro ⟨⟨next, stop⟩, t₁, t₂, rfl, pass, later⟩
      match stop, pass, later with
      | some .shutdown, pass, later =>
        obtain ⟨⟨⟩, t₃, t₄, rfl, noted, rfl, rfl⟩ := Session.follows_bind.mp later
        rw [Session.follows_note.mp noted, List.append_nil]
        exact .shutdown pass
      | some (.failed error), pass, later =>
        obtain ⟨rfl, rfl⟩ := later
        rw [List.append_nil]
        exact .failed pass
      | none, pass, later =>
        dsimp only at later
        split at later
        case isTrue finished =>
          obtain ⟨rfl, rfl⟩ := later
          rw [List.append_nil]
          exact .finished (finished ▸ pass)
        case isFalse goes => exact .again pass goes (ih.mp later)
    · intro turns
      cases turns with
      | again pass goes later =>
        refine ⟨_, _, _, rfl, pass, ?_⟩
        dsimp only
        rw [if_neg goes]
        exact ih.mpr later
      | finished pass => exact ⟨_, t, [], by simp, pass, rfl, rfl⟩
      | shutdown pass =>
        refine ⟨_, _, _, rfl, pass, ?_⟩
        exact Session.follows_bind.mpr ⟨(), _, [], by simp, Session.follows_note.mpr rfl, rfl, rfl⟩
      | failed pass => exact ⟨_, t, [], by simp, pass, rfl, rfl⟩

/-- What closing the channel leaves in a transcript. -/
def closing (r : Requester) (faults : List TransportFault) : Transcript :=
  r.logger.closing "error while closing requester" "requester closed" faults

/-- A run is turns and then the closing of the channel. -/
theorem follows_run_iff {budget : Nat} {value : Except Error Unit} :
    (r.run budget).Follows t value ↔
      ∃ rest faults, Turns r budget .awaitingInput rest value ∧ t = rest ++ r.closing faults := by
  rw [run, close, Session.follows_bind_after]
  simp only [follows_turns_iff, Session.follows_close]
  constructor
  · rintro ⟨rest, last, rfl, turns, faults, rfl⟩
    exact ⟨rest, faults, turns, rfl⟩
  · rintro ⟨rest, faults, turns, rfl⟩
    exact ⟨rest, r.closing faults, rfl, turns, faults, rfl⟩

end Requester

end MessagingConsole
