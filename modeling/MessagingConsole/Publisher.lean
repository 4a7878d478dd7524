import MessagingConsole.Publisher.Broadcast
import MessagingConsole.Publisher.Command
import MessagingConsole.Session.Environment
import MessagingConsole.Session.Terminal

/-!
# Publisher

Broadcasts short text files to everybody who subscribed, at the commands of a console.
A broadcast is shown first and goes out only after it is confirmed.  Problems with a
file are reported on the console, and the next command is read.

## Main Definitions

- `Publisher.bind` - a publisher at an endpoint.
- `Publisher.round` - one command.
- `Publisher.run` - commands until the console ends, and then the channel is closed.
- `Publisher.runIn` - the same in an environment, whose input bounds the commands.
-/

namespace MessagingConsole

/-- A publisher with its channel open. -/
structure Publisher where
  endpoint : Endpoint
  logger : Log.Logger

namespace Publisher

/-- The answer that confirms a broadcast. -/
def confirmation : String := "YES"

/-- The list of commands. -/
def commandList : String :=
  "\n".intercalate
    ["The commands are as follows:",
     "  help        This command",
     "  send XXX    Send the file XXX out to all subscribed clients",
     "  quit        Exit this code"]

/-- Binds a publisher.  It knows the endpoint that was bound, which has another port
than the one asked for if that one was zero. -/
def bind (logger : Log.Logger) (endpoint : Endpoint) : Attempt Publisher := do
  let bound ← Attempt.orFail (.bind endpoint) (← Session.perform (.bind endpoint))
  let logger := logger.child [("endpoint", bound.text)]
  Session.note logger .info "publisher bound" []
  return ⟨bound, logger⟩

/-- Sends a message to everybody who subscribed. -/
def publish (p : Publisher) (payload : Bytes) : Attempt Unit := do
  Session.note p.logger .debug "publishing" [("bytes", Text.decimal payload.length)]
  Attempt.send (.send p.endpoint) payload

/-- Shows a broadcast, and publishes it if the next line confirms that. -/
def offer (p : Publisher) (body : String) : Attempt Unit := do
  Terminal.writeLine
    ("The following message will be sent (" ++ Text.decimal body.length ++ " characters):")
  Terminal.writeLine body
  match ← Terminal.prompt "Type YES to confirm: " with
  | some answer =>
    if String.ofList (Text.trim answer.toList) = confirmation then
      p.publish (Utf8.encode body)
      Terminal.writeLine "Message sent!"
    else Terminal.writeLine "Message not sent."
  | none => Terminal.writeLine "Message not sent."

/-- Carries out `send`. -/
def sendFile (p : Publisher) (path : Bytes) : Attempt Unit := do
  match Broadcast.ofRead path (← Session.perform (.readFile path)) with
  | .ok body => p.offer body
  | .error fault =>
    Session.note p.logger .debug "rejected broadcast"
      [("path", Utf8.decodeLossy path), ("err", fault.message)]
    Terminal.writeLine ("Error: " ++ fault.message)

/-- Reads and carries out one command, and tells whether there may be another. -/
def round (p : Publisher) : Attempt Bool := do
  match ← Terminal.prompt Terminal.commandPrompt with
  | none => return false
  | some line =>
    match Command.ofLine line with
    | .quit => return false
    | .help => Terminal.writeLine commandList
    | .missingFile => Terminal.writeLine "Error: send requires a file name"
    | .unknown _ =>
      Terminal.writeLine "Invalid command. Type help for a list of valid commands."
    | .send path => p.sendFile (Utf8.encode path)
    return true

/-- Closes the channel. -/
def close (p : Publisher) : Session Unit :=
  Session.close p.logger "error while closing publisher" "publisher closed"

/-- Carries out commands until there is no more or one is stopped, at most `budget` of them.  It
can be shut down before a command and while one is waiting. -/
def rounds (p : Publisher) : (budget : Nat) → Session (Except Error Unit)
  | 0 => return .ok ()
  | budget + 1 => do
    match ← Session.pass (.error .shutdown) p.round.run with
    | .ok true => p.rounds budget
    | .ok false => return .ok ()
    | .error .shutdown =>
      Session.note p.logger .info "shutting down" []
      return .ok ()
    | .error (.failed error) => return .error error

/-- Carries out commands, and closes the channel however that ends. -/
def run (p : Publisher) (budget : Nat) : Session (Except Error Unit) := do
  let result ← p.rounds budget
  p.close
  return result

/-- Runs a publisher in an environment. -/
def runIn (p : Publisher) (env : Environment) : Outcome (Except Error Unit) :=
  (p.run env.budget).run env

end Publisher

end MessagingConsole
