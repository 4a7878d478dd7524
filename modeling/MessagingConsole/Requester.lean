import MessagingConsole.Session.Dial
import MessagingConsole.Session.Environment
import MessagingConsole.Session.Terminal

/-!
# Requester

Sends console lines to a server and prints its replies, one reply for each request.
The line `quit` is sent and ends the session without waiting for a reply; the end of
input ends it without sending anything.

## Main Definitions

- `Requester.connect` - a requester at an endpoint.
- `Requester.step` - one turn: a line is sent, or a reply is printed.
- `Requester.run` - turns until the session ends, and then the channel is closed.
- `Requester.runIn` - the same in an environment, whose input bounds the turns.
-/

namespace MessagingConsole

/-- A requester with its channel open. -/
structure Requester where
  endpoint : Endpoint
  logger : Log.Logger

namespace Requester

/-- Connects to a server. -/
def connect (logger : Log.Logger) (endpoint : Endpoint) : Attempt Requester := do
  let logger := logger.child [("endpoint", endpoint.text)]
  Session.note logger .debug "connecting requester" []
  Attempt.dial logger endpoint
  Session.note logger .info "connected" []
  return ⟨endpoint, logger⟩

/-- Sends a request. -/
def send (r : Requester) (line : String) : Attempt Unit := do
  let payload := Utf8.encode line
  Session.note r.logger .trace "sending request" [("bytes", Text.decimal payload.length)]
  Attempt.send (.send r.endpoint) payload

/-- Waits for a reply, and joins its frames. -/
def receive (r : Requester) : Attempt Bytes := do
  match ← Session.perform .receive with
  | .fault fault => Attempt.fail (.receive r.endpoint fault)
  | .interrupted => throw .shutdown
  | .message message =>
    Session.note r.logger .trace "received reply"
      [("frames", Text.decimal message.frames.length)]
    return message.payload

/-- The turn of the console: reads a line and sends it. -/
def request (r : Requester) : Attempt State := do
  match ← Terminal.prompt Terminal.commandPrompt with
  | some line =>
    let next ← Attempt.orFail .outOfTurn (State.awaitingInput.accept (.line line))
    r.send line
    return next
  | none =>
    Session.note r.logger .debug "console input ended" []
    Attempt.orFail .outOfTurn (State.awaitingInput.accept .endOfInput)

/-- The turn of the server: waits for its reply. -/
def collect (r : Requester) : Attempt (State × Bytes) := do
  let reply ← r.receive
  let next ← Attempt.orFail .outOfTurn (State.awaitingReply.accept .reply)
  return (next, reply)

/-- How a step ends: the state it leaves, and what stopped it, if anything did. -/
structure Stepped where
  state : State
  stop : Option Stop
  deriving DecidableEq, Repr

/-- Takes one turn.  The state moves on once a line is sent, and once a reply is there,
before it is printed. -/
def step (r : Requester) : State → Session Stepped
  | .awaitingInput => do
    match ← r.request.run with
    | .ok next => return ⟨next, none⟩
    | .error stop => return ⟨.awaitingInput, some stop⟩
  | .awaitingReply => do
    match ← r.collect.run with
    | .error stop => return ⟨.awaitingReply, some stop⟩
    | .ok (next, reply) =>
      match ← (Terminal.write reply).run with
      | .ok () => return ⟨next, none⟩
      | .error stop => return ⟨next, some stop⟩
  | .terminated => return ⟨.terminated, none⟩

/-- Closes the channel. -/
def close (r : Requester) : Session Unit :=
  Session.close r.logger "error while closing requester" "requester closed"

/-- Takes turns until the session is over or stopped, at most `budget` of them.  It can be shut
down before a turn and while one is waiting. -/
def turns (r : Requester) : (budget : Nat) → State → Session (Except Error Unit)
  | 0, _ => return .ok ()
  | budget + 1, state => do
    let stepped ← Session.pass ⟨state, some .shutdown⟩ (r.step state)
    match stepped.stop with
    | some .shutdown =>
      Session.note r.logger .info "shutting down" [("state", stepped.state.name)]
      return .ok ()
    | some (.failed error) => return .error error
    | none =>
      if stepped.state = .terminated then return .ok ()
      else r.turns budget stepped.state

/-- Runs a session from its first turn, and closes the channel however it ends. -/
def run (r : Requester) (budget : Nat) : Session (Except Error Unit) := do
  let result ← r.turns budget .awaitingInput
  r.close
  return result

/-- Runs a session in an environment. -/
def runIn (r : Requester) (env : Environment) : Outcome (Except Error Unit) :=
  (r.run env.budget).run env

/-- Takes so many steps from a state, also after some that were stopped, and tells how
each of them ended. -/
def steps (r : Requester) : (count : Nat) → State → Session (List Stepped)
  | 0, _ => return []
  | count + 1, state => do
    let stepped ← r.step state
    return stepped :: (← r.steps count stepped.state)

end Requester

end MessagingConsole
