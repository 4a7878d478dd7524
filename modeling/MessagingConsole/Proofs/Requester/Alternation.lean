import MessagingConsole.Proofs.Requester.Turns
import MessagingConsole.Proofs.Session.Surroundings
import MessagingConsole.Proofs.Session.Traffic
import MessagingConsole.Proofs.Text.Utf8

/-!
# Requests and replies alternate

However the steps of a requester go, and also if the caller goes on after some that were
stopped: a request is out exactly if one more message was sent than received, and only
then a reply is waited for.  Nothing is assumed about the answers to a step, so that the
statements hold for every console, every output and every transport.

## Main Definitions

- `stateAfter` - the state that steps have left.
- `Balanced` - the invariant: the counts of a session agree with its state.

## Main Results

- `alternates` - the counts, the turns and the end of a session.
-/

namespace MessagingConsole.Requester

open Terminal (shown asked)

variable {r : Requester} {t : Transcript} {state : State} {stepped : Stepped}
  {sent : List Bytes} {received : List Message}

/-- The state that steps have left, if it is known where they started. -/
def stateAfter (start : State) : List Stepped → State
  | [] => start
  | stepped :: rest => stateAfter stepped.state rest

/-- The counts of a session agree with its state. -/
structure Balanced (state : State) (sent : List Bytes) (received : List Message) : Prop where
  owed : state = .awaitingReply ↔
    sent.length = received.length + 1 ∧ sent.getLast? ≠ some (Utf8.encode quit)
  even : state = .awaitingInput → sent.length = received.length

/-! ## One step -/

/-- A step sends one message at its turn, or receives one, or neither, and the state goes
on with the traffic. -/
inductive Traffic : State → List Bytes → List Message → State → Prop
  | idle (state : State) : Traffic state [] [] state
  | ended : Traffic .awaitingInput [] [] .terminated
  | sent (line : String) :
      Traffic .awaitingInput [Utf8.encode line] []
        (if line = quit then .terminated else .awaitingReply)
  | received (reply : Message) : Traffic .awaitingReply [] [reply] .awaitingInput

theorem received?_of_outcome {endpoint : Endpoint} {answer : ReceiveAnswer} {stop : Stop}
    (outcome : answer.outcome endpoint = .error stop) :
    Exchange.received? ⟨.receive, answer⟩ = none := by
  cases answer <;> first | rfl | cases outcome

theorem Turn.traffic (turn : Turn r state t stepped) :
    Traffic state t.sent t.received stepped.state := by
  cases turn with
  | unprompted printed => simpa [printed.sent, printed.received] using Traffic.idle _
  | stopped outcome => exact .idle _
  | ended => simpa using Traffic.ended
  | sent line => simpa [sending] using Traffic.sent line
  | unsent line untaken =>
    simpa [sending, Exchange.sent?_of_stop untaken] using Traffic.idle _
  | unanswered outcome => simpa [received?_of_outcome outcome] using Traffic.idle _
  | replied reply => simpa [receiving] using Traffic.received reply
  | @unprinted reply t stop printed =>
    simpa [receiving, printed.sent, printed.received] using Traffic.received reply
  | finished => exact .idle _

/-- A step keeps the counts in agreement with the state. -/
theorem Traffic.balanced {next : State} {sending : List Bytes} {receiving : List Message}
    (traffic : Traffic state sending receiving next) (balanced : Balanced state sent received) :
    Balanced next (sent ++ sending) (received ++ receiving) := by
  obtain ⟨owed, even⟩ := balanced
  cases traffic with
  | idle =>
    rw [List.append_nil, List.append_nil]
    exact ⟨owed, even⟩
  | ended =>
    have even := even rfl
    exact ⟨by simp [even], nofun⟩
  | sent line =>
    have even := even rfl
    -- `quit` leaves a message without a reply, and the last message tells that.
    have last : (sent ++ [Utf8.encode line]).getLast? ≠ some (Utf8.encode quit) ↔ line ≠ quit := by
      simp [Utf8.encode_inj]
    by_cases ends : line = quit
    · simp only [if_pos ends]
      exact ⟨iff_of_false nofun fun owed => last.mp owed.2 ends, nofun⟩
    · simp only [if_neg ends]
      exact ⟨iff_of_true rfl ⟨by simp [even], last.mpr ends⟩, nofun⟩
  | received reply =>
    have even := (owed.mp rfl).1
    exact ⟨iff_of_false nofun (by simp [even]), fun _ => by simp [even]⟩

/-- A reply is waited for only while a request is out. -/
theorem Turn.state_of_receive {answer : ReceiveAnswer} (turn : Turn r state t stepped)
    (mem : ⟨.receive, answer⟩ ∈ t) : state = .awaitingReply := by
  have unrecorded {level : Log.Level} {message : String} {pairs : List Log.Pair} :
      (⟨.receive, answer⟩ : Exchange) ∉ r.logger.noted level message pairs :=
    fun mem => absurd (Log.Logger.record_noted _ mem) (by simp [Exchange.record?])
  cases turn with
  | unprompted printed => exact absurd (printed.isOutput _ mem) (by simp [Exchange.isOutput])
  | stopped outcome => simp [asked, shown] at mem
  | ended => simp [asked, shown, unrecorded] at mem
  | sent line => simp [asked, shown, sending, unrecorded] at mem
  | unsent line untaken => simp [asked, shown, sending, unrecorded] at mem
  | unanswered | replied | unprinted => rfl
  | finished => simp at mem

/-- A message is sent only at the turn of the console. -/
theorem Turn.state_of_send {payload : Bytes} {answer : SendAnswer}
    (turn : Turn r state t stepped) (mem : ⟨.send payload, answer⟩ ∈ t) :
    state = .awaitingInput := by
  have unrecorded {level : Log.Level} {message : String} {pairs : List Log.Pair} :
      (⟨.send payload, answer⟩ : Exchange) ∉ r.logger.noted level message pairs :=
    fun mem => absurd (Log.Logger.record_noted _ mem) (by simp [Exchange.record?])
  cases turn with
  | unprompted | stopped | ended | sent | unsent => rfl
  | unanswered => simp at mem
  | replied reply => simp [receiving, shown, unrecorded] at mem
  | unprinted printed =>
    simp only [receiving, List.mem_cons, List.mem_append, unrecorded, false_or] at mem
    rcases mem with ⟨⟨⟩⟩ | mem
    exact absurd (printed.isOutput _ mem) (by simp [Exchange.isOutput])
  | finished => simp at mem

/-! ## Any number of steps -/

theorem follows_steps_succ {count : Nat} {ends : List Stepped} :
    (r.steps (count + 1) state).Follows t ends ↔
      ∃ stepped rest t₁ t₂, ends = stepped :: rest ∧ t = t₁ ++ t₂ ∧
        Turn r state t₁ stepped ∧ (r.steps count stepped.state).Follows t₂ rest := by
  rw [steps, Session.follows_bind]
  simp only [follows_step_iff]
  constructor
  · rintro ⟨stepped, t₁, t₂, rfl, turn, later⟩
    obtain ⟨rest, t₃, t₄, rfl, follows, rfl, rfl⟩ := Session.follows_bind.mp later
    exact ⟨stepped, rest, t₁, t₃, rfl, by rw [List.append_nil], turn, follows⟩
  · rintro ⟨stepped, rest, t₁, t₂, rfl, rfl, turn, follows⟩
    refine ⟨stepped, t₁, t₂, rfl, turn, ?_⟩
    exact Session.follows_bind.mpr ⟨rest, t₂, [], by simp, follows, rfl, rfl⟩

/-- Steps keep the counts in agreement with the state. -/
theorem balanced_of_steps {count : Nat} {ends : List Stepped}
    (follows : (r.steps count state).Follows t ends) (balanced : Balanced state sent received) :
    Balanced (stateAfter state ends) (sent ++ t.sent) (received ++ t.received) := by
  induction count generalizing state t ends sent received with
  | zero =>
    obtain ⟨rfl, rfl⟩ := follows
    simpa [stateAfter] using balanced
  | succ count ih =>
    obtain ⟨stepped, rest, t₁, t₂, rfl, rfl, turn, later⟩ := follows_steps_succ.mp follows
    have after := ih later (turn.traffic.balanced balanced)
    simpa [stateAfter] using after

/-- Nothing happens in a session that is finished. -/
theorem eq_replicate_of_terminated {count : Nat} {ends : List Stepped}
    (follows : (r.steps count .terminated).Follows t ends) :
    t = [] ∧ ends = List.replicate count ⟨.terminated, none⟩ := by
  induction count generalizing t ends with
  | zero =>
    obtain ⟨rfl, rfl⟩ := follows
    exact ⟨rfl, rfl⟩
  | succ count ih =>
    obtain ⟨stepped, rest, t₁, t₂, rfl, rfl, turn, later⟩ := follows_steps_succ.mp follows
    cases turn with
    | finished =>
      obtain ⟨rfl, rfl⟩ := ih later
      exact ⟨rfl, rfl⟩

/-- **Requests and replies alternate.**  After any steps of a connected requester, some of
which may have been stopped: a reply is awaited exactly if one more message was sent than
received and the last one was not `quit`, and a line is awaited only if the numbers are
equal.  The next step waits for a message, or tries to send one, only at its turn, and
once the session is over all further steps report that and ask for nothing. -/
theorem alternates (r : Requester) (count : Nat) {t : Transcript} {ends : List Stepped}
    (follows : (r.steps count .awaitingInput).Follows t ends) :
    let state := stateAfter .awaitingInput ends
    (state = .awaitingReply ↔
      t.sent.length = t.received.length + 1 ∧ t.sent.getLast? ≠ some (Utf8.encode quit)) ∧
    (state = .awaitingInput → t.sent.length = t.received.length) ∧
    (∀ now stepped, (r.step state).Follows now stepped →
      (∀ answer, ⟨.receive, answer⟩ ∈ now → state = .awaitingReply) ∧
      ∀ payload answer, ⟨.send payload, answer⟩ ∈ now → state = .awaitingInput) ∧
    (state = .terminated → ∀ more now later, (r.steps more state).Follows now later →
      now = [] ∧ later = List.replicate more ⟨.terminated, none⟩) := by
  intro state
  have start : Balanced .awaitingInput [] [] := ⟨by simp, fun _ => rfl⟩
  obtain ⟨owed, even⟩ := balanced_of_steps follows start
  refine ⟨owed, even, fun now stepped next => ?_, fun finished more now later next => ?_⟩
  · have turn := follows_step_iff.mp next
    exact ⟨fun answer => turn.state_of_receive, fun payload answer => turn.state_of_send⟩
  · rw [finished] at next
    exact eq_replicate_of_terminated next

/-- A session goes on after a fault of the transport, and `quit` ends it. -/
theorem alternates_past_fault :
    let r : Requester := ⟨⟨"localhost", 5555⟩, .silent⟩
    let arrivals : List Arrival :=
      [.quiet (.fault .noMessage), .message ⟨[Utf8.encode "pong"], ⟨0, 0, 0⟩⟩]
    let calm := Environment.calm "ping\nquit\n" ⟨[]⟩ []
    let steps := (r.steps 4 .awaitingInput).run { calm with link := { calm.link with arrivals } }
    stateAfter .awaitingInput steps.value = .terminated ∧
      steps.transcript.sent.length = steps.transcript.received.length + 1 ∧
      ∀ more now later, (r.steps more .terminated).Follows now later → now = [] := by
  intro r arrivals calm steps
  have finished : stateAfter .awaitingInput steps.value = .terminated := by decide +kernel
  obtain ⟨-, -, -, rest⟩ := alternates r 4 (Session.follows_run (r.steps 4 .awaitingInput) _)
  refine ⟨finished, by decide +kernel, fun more now later next => ?_⟩
  exact (rest finished more now later (by rw [finished]; exact next)).1

end MessagingConsole.Requester
