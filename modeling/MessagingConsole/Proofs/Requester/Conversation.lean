import MessagingConsole.Requester.State

/-!
# The conversations of a session

Whatever events a session is offered, the ones that it accepts are a conversation: requests
with their replies, one after the other, and then perhaps a request that waits for its reply,
the line that ends the session, or the end of the input.  An event out of turn leaves no trace
but its own answer.

What may follow is a matter of the state alone.  Before a request it is a conversation, after
one it is a reply and then a conversation, and after the end it is nothing.  An event is accepted
exactly if it leads from what may follow one state to what may follow the next, and this is all
that is ever looked up in the table of turns.

## Main Definitions

- `State.afterAll` and `State.accepted` - the state that events leave, and those of them that
  were accepted.
- `Conversation` - the form of a conversation, and the state that it ends in.
- `Remains` - what may still follow a state.

## Main Results

- `remains_cons_iff` - one event, accepted.
- `State.replay_append` - every event is answered in the state that the events before it leave.
- `State.conversation_of_events` - the events of a session, whatever they are.
-/

namespace MessagingConsole.Requester

/-! ## Events one after the other -/

namespace State

/-- The state that events leave.  Those that are refused change nothing. -/
def afterAll (s : State) (events : List Event) : State :=
  events.foldl after s

/-- The events that are accepted. -/
def accepted (s : State) (events : List Event) : List Event :=
  ((events.zip (s.replay events)).filter fun (_, answer) => answer.isOk).map (·.1)

variable {s next : State} {e : Event} {o : OutOfTurn} {events : List Event}

theorem after_of_accept (accepts : s.accept e = .ok next) : s.after e = next := by
  rw [after, accepts]

theorem after_of_refuse (refuses : s.accept e = .error o) : s.after e = s := by
  rw [after, refuses]

theorem accepted_cons_of_accept (accepts : s.accept e = .ok next) :
    s.accepted (e :: events) = e :: next.accepted events := by
  simp [accepted, replay, accepts, after_of_accept accepts, Except.isOk, Except.toBool]

theorem accepted_cons_of_refuse (refuses : s.accept e = .error o) :
    s.accepted (e :: events) = s.accepted events := by
  simp [accepted, replay, refuses, after_of_refuse refuses, Except.isOk, Except.toBool]

/-- **Every event is answered in the state that the events before it leave.** -/
theorem replay_append (s : State) (front rest : List Event) :
    s.replay (front ++ rest) = s.replay front ++ (s.afterAll front).replay rest := by
  induction front generalizing s with
  | nil => rfl
  | cons e front ih => exact congrArg (s.accept e :: ·) (ih (s.after e))

theorem getElem?_replay (s : State) (events : List Event) (i : Nat) :
    (s.replay events)[i]? = events[i]?.map (s.afterAll (events.take i)).accept := by
  induction events generalizing s i with
  | nil => rfl
  | cons e events ih =>
    cases i with
    | zero => rfl
    | succ i => exact ih (s.after e) i

/-- A refusal names the state that refused and the event that was refused. -/
theorem eq_of_refuse (refuses : s.accept e = .error o) : o = ⟨s, e.name⟩ := by
  unfold accept at refuses
  split at refuses
  case h_4 => exact (Except.error.inj refuses).symm
  all_goals cases refuses

/-- Nothing is accepted after the end. -/
theorem replay_terminated (events : List Event) :
    State.terminated.replay events = events.map fun e => .error ⟨.terminated, e.name⟩ := by
  induction events with
  | nil => rfl
  | cons e events ih =>
    have refuses : State.terminated.accept e = .error ⟨.terminated, e.name⟩ := by
      cases e <;> rfl
    rw [replay, refuses, after_of_refuse refuses, ih, List.map_cons]

/-- Without the events that are refused, the others have the answers that they had, and leave
the state that all of them leave. -/
theorem replay_accepted (s : State) (events : List Event) :
    s.replay (s.accepted events) = (s.replay events).filter Except.isOk ∧
      s.afterAll (s.accepted events) = s.afterAll events := by
  induction events generalizing s with
  | nil => exact ⟨rfl, rfl⟩
  | cons e events ih =>
    obtain ⟨answers, final⟩ := ih (s.after e)
    cases answer : s.accept e with
    | ok next =>
      rw [after_of_accept answer] at answers final
      rw [accepted_cons_of_accept answer]
      simp only [replay, afterAll, List.foldl_cons, answer, after_of_accept answer]
      exact ⟨congrArg (Except.ok next :: ·) answers, final⟩
    | error o =>
      rw [after_of_refuse answer] at answers final
      rw [accepted_cons_of_refuse answer]
      simp only [replay, afterAll, List.foldl_cons, answer, after_of_refuse answer]
      exact ⟨answers, final⟩

end State

/-! ## Conversations -/

/-- Requests, each with its reply. -/
def rounds (lines : List String) : List Event :=
  lines.flatMap fun line => [.line line, .reply]

/-- What may come after the last reply, and the state that it leaves. -/
inductive Ending : List Event → State → Prop
  | nothing : Ending [] .awaitingInput
  | request {line : String} (other : line ≠ quit) : Ending [.line line] .awaitingReply
  | quit : Ending [.line quit] .terminated
  | endOfInput : Ending [.endOfInput] .terminated

/-- Requests with their replies and an ending, none of the requests being `quit`. -/
def Conversation (events : List Event) (final : State) : Prop :=
  ∃ lines ending, (∀ line ∈ lines, line ≠ quit) ∧ Ending ending final ∧
    events = rounds lines ++ ending

/-- What may still follow a state until another one is reached. -/
def Remains : State → List Event → State → Prop
  | .awaitingInput, events, final => Conversation events final
  | .awaitingReply, events, final =>
    events = [] ∧ final = .awaitingReply ∨
      ∃ later, events = .reply :: later ∧ Conversation later final
  | .terminated, events, final => events = [] ∧ final = .terminated

variable {s next final : State} {e : Event} {line : String} {later events : List Event}

theorem conversation_nil_iff : Conversation [] final ↔ final = .awaitingInput := by
  constructor
  · rintro ⟨lines, ending, -, ends, same⟩
    obtain ⟨-, rfl⟩ := List.append_eq_nil_iff.mp same.symm
    cases ends
    rfl
  · rintro rfl
    exact ⟨[], [], List.forall_mem_nil _, .nothing, rfl⟩

/-- A request is the last event, or has its reply behind it. -/
theorem conversation_line_iff (other : line ≠ quit) :
    Conversation (.line line :: later) final ↔ Remains .awaitingReply later final := by
  constructor
  · rintro ⟨lines, ending, others, ends, same⟩
    cases lines with
    | nil =>
      subst same
      cases ends with
      | request => exact .inl ⟨rfl, rfl⟩
      | quit => exact absurd rfl other
    | cons first lines =>
      obtain ⟨-, rfl⟩ := List.cons.inj same
      exact .inr ⟨_, rfl, lines, ending, (List.forall_mem_cons.mp others).2, ends, rfl⟩
  · rintro (⟨rfl, rfl⟩ | ⟨later, rfl, lines, ending, others, ends, rfl⟩)
    · exact ⟨[], _, List.forall_mem_nil _, .request other, rfl⟩
    · exact ⟨line :: lines, ending, List.forall_mem_cons.mpr ⟨other, others⟩, ends, rfl⟩

/-- Any other event is the last one, if it belongs to a conversation. -/
theorem conversation_last_iff (other : ∀ line ≠ quit, e ≠ .line line) :
    Conversation (e :: later) final ↔
      (e = .line quit ∨ e = .endOfInput) ∧ later = [] ∧ final = .terminated := by
  constructor
  · rintro ⟨lines, ending, others, ends, same⟩
    cases lines with
    | nil =>
      subst same
      cases ends with
      | request different => exact absurd rfl (other _ different)
      | quit => exact ⟨.inl rfl, rfl, rfl⟩
      | endOfInput => exact ⟨.inr rfl, rfl, rfl⟩
    | cons first lines =>
      obtain ⟨rfl, -⟩ := List.cons.inj same
      exact absurd rfl (other _ (List.forall_mem_cons.mp others).1)
  · rintro ⟨rfl | rfl, rfl, rfl⟩
    · exact ⟨[], _, List.forall_mem_nil _, .quit, rfl⟩
    · exact ⟨[], _, List.forall_mem_nil _, .endOfInput, rfl⟩

theorem remains_nil_iff : Remains s [] final ↔ final = s := by
  cases s with
  | awaitingInput => exact conversation_nil_iff
  | awaitingReply => simp [Remains]
  | terminated => simp [Remains]

/-- **An event is accepted exactly if it is one that may follow**, and leads to a state that what
comes behind it may follow. -/
theorem remains_cons_iff :
    Remains s (e :: later) final ↔ ∃ next, s.accept e = .ok next ∧ Remains next later final := by
  cases s with
  | awaitingInput =>
    cases e with
    | line text =>
      by_cases ends : text = quit
      · subst ends
        have last := @conversation_last_iff final (.line quit) later
          fun line other same => other (Event.line.inj same).symm
        simpa [Remains, State.accept] using last
      · simpa [Remains, State.accept, ends] using conversation_line_iff ends
    | endOfInput =>
      have last := @conversation_last_iff final .endOfInput later nofun
      simpa [Remains, State.accept] using last
    | reply =>
      have last := @conversation_last_iff final .reply later nofun
      simpa [Remains, State.accept] using last
  | awaitingReply => cases e <;> simp [Remains, State.accept]
  | terminated => cases e <;> simp [Remains, State.accept]

/-- Of any events, those that are accepted are what may follow. -/
theorem remains_accepted (s : State) (events : List Event) :
    Remains s (s.accepted events) (s.afterAll events) := by
  induction events generalizing s with
  | nil => exact remains_nil_iff.mpr rfl
  | cons e events ih =>
    have rest := ih (s.after e)
    cases answer : s.accept e with
    | ok next =>
      rw [State.after_of_accept answer] at rest
      rw [State.accepted_cons_of_accept answer]
      refine remains_cons_iff.mpr ⟨next, answer, ?_⟩
      simpa only [State.afterAll, List.foldl_cons, State.after_of_accept answer] using rest
    | error o =>
      rw [State.after_of_refuse answer] at rest
      rw [State.accepted_cons_of_refuse answer]
      simpa only [State.afterAll, List.foldl_cons, State.after_of_refuse answer] using rest

/-- Events are accepted, all of them, exactly if they may follow. -/
theorem all_accepted_iff :
    (∀ answer ∈ s.replay events, answer.isOk) ↔ ∃ final, Remains s events final := by
  induction events generalizing s with
  | nil => simp [State.replay, remains_nil_iff]
  | cons e events ih =>
    rw [State.replay, List.forall_mem_cons]
    simp only [remains_cons_iff]
    cases answer : s.accept e with
    | ok next =>
      rw [State.after_of_accept answer, ih]
      simp [Except.isOk, Except.toBool]
    | error o => simp [Except.isOk, Except.toBool]

/-- **The events of a session, whatever they are.**  Those that it accepts are a conversation,
which ends in the state that it is in.  It accepts all events exactly if they are a conversation.
Every other event is answered with the state that refused it and its own name, and leaves no
trace: without the refused ones the others have the answers that they had, and leave the same
state.  Once the session is over, every event is refused. -/
theorem State.conversation_of_events (events : List Event) :
    let start := State.awaitingInput
    Conversation (start.accepted events) (start.afterAll events) ∧
    ((∀ answer ∈ start.replay events, answer.isOk) ↔ ∃ final, Conversation events final) ∧
    (∀ (i : Nat) (o : OutOfTurn), (start.replay events)[i]? = some (.error o) →
      ∃ e, events[i]? = some e ∧ o = ⟨start.afterAll (events.take i), e.name⟩) ∧
    start.afterAll (start.accepted events) = start.afterAll events ∧
    start.replay (start.accepted events) = (start.replay events).filter Except.isOk ∧
    (start.afterAll events = .terminated → ∀ more, start.replay (events ++ more) =
      start.replay events ++ more.map fun e => Except.error ⟨.terminated, e.name⟩) := by
  intro start
  obtain ⟨answers, final⟩ := replay_accepted start events
  refine ⟨remains_accepted start events, all_accepted_iff, fun i o refused => ?_, final, answers,
    fun terminated more => ?_⟩
  · rw [getElem?_replay] at refused
    obtain ⟨e, found, refuses⟩ := Option.map_eq_some_iff.mp refused
    exact ⟨e, found, eq_of_refuse refuses⟩
  · rw [replay_append, terminated, replay_terminated]

end MessagingConsole.Requester
