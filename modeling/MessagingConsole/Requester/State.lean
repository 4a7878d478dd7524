/-!
# Turns of a requester

A requester and its server take turns: a request is out until its reply has come.
Three states and three events say whose turn it is.

## Main Definitions

- `Requester.State` and `Requester.Event`.
- `Requester.State.accept` - the next state, or the turn that was out of order.
- `Requester.State.replay` - the answers to a list of events.
-/

namespace MessagingConsole.Requester

/-- The line that ends a session. -/
def quit : String := "quit"

/-- Whose turn it is. -/
inductive State where
  /-- A console line may be sent. -/
  | awaitingInput
  /-- A request is out. -/
  | awaitingReply
  /-- The session is over. -/
  | terminated
  deriving DecidableEq, Repr

/-- The name of a state. -/
def State.name : State → String
  | .awaitingInput => "AwaitingInput"
  | .awaitingReply => "AwaitingReply"
  | .terminated => "Terminated"

/-- What can happen in a session. -/
inductive Event where
  | line (text : String)
  | endOfInput
  | reply
  deriving DecidableEq, Repr

/-- The name of an event. -/
def Event.name : Event → String
  | .line _ => "console line"
  | .endOfInput => "end of input"
  | .reply => "reply"

/-- An event in a state that does not accept it. -/
structure OutOfTurn where
  state : State
  event : String
  deriving DecidableEq, Repr

/-- The text of an event out of turn. -/
def OutOfTurn.message (o : OutOfTurn) : String :=
  o.event ++ " is not allowed while " ++ o.state.name

/-- The state after an event, if the state accepts it.  The line `quit` ends a session
without waiting for a reply. -/
def State.accept (s : State) (e : Event) : Except OutOfTurn State :=
  match s, e with
  | .awaitingInput, .line text =>
    .ok (if text = quit then .terminated else .awaitingReply)
  | .awaitingInput, .endOfInput => .ok .terminated
  | .awaitingReply, .reply => .ok .awaitingInput
  | s, e => .error ⟨s, e.name⟩

/-- The state after an event that may be refused: a refused one changes nothing. -/
def State.after (s : State) (e : Event) : State :=
  match s.accept e with
  | .ok next => next
  | .error _ => s

/-- The answers to a list of events, one for each. -/
def State.replay (s : State) : List Event → List (Except OutOfTurn State)
  | [] => []
  | e :: rest => s.accept e :: (s.after e).replay rest

end MessagingConsole.Requester
