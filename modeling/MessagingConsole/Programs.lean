import MessagingConsole.CommandLine.Options
import MessagingConsole.Publisher
import MessagingConsole.Requester

/-!
# Programs

The three programs, from their command lines to their exit status.  Each prints who it
talks to, runs its client on the console, and tells on the error output why it ended
early.

## Main Definitions

- `Program.subscriber`, `Program.requester`, `Program.publisher`.
- `Program.runIn` - a program in an environment.
-/

namespace MessagingConsole.Program

open CommandLine (Refusal)

/-- The status that a program ends with. -/
inductive ExitStatus where
  | success
  | failure
  /-- The program gave up on an argument that is not a text. -/
  | abort
  deriving DecidableEq, Repr

/-- The number of a status. -/
def ExitStatus.code : ExitStatus → UInt32
  | .success => 0
  | .failure => 1
  | .abort => 101

/-- Prints a line on the console. -/
def announce (line : String) : Session Unit := do
  let _ ← Session.perform (.write (Utf8.encode (line ++ "\n")))

/-- Ends a program whose command line does not lead to a run: a notice that was asked
for is a success. -/
def refuse : Refusal → Session ExitStatus
  | .error (.notice (.help text)) => do announce text; return .success
  | .error (.notice (.version line)) => do announce line; return .success
  | .error (.usage text) => do announce text; return .failure
  | .error error => do
    Session.perform (.report ("Error: " ++ error.message))
    return .failure
  | .undecodable => return .abort

/-- Ends a program because of an error. -/
def exitWith (logger : Log.Logger) (error : Error) : Session ExitStatus := do
  Session.note logger .error "exiting on error" [("err", error.message)]
  Session.perform (.report ("Error: " ++ error.message))
  return .failure

/-- Ends a program after its client. -/
def finish (logger : Log.Logger) : Except Error Unit → Session ExitStatus
  | .ok () => return .success
  | .error error => exitWith logger error

/-- The subscriber: prints what is published at an endpoint. -/
def subscriber (commandLine : List Bytes) (budget : Nat) : Session ExitStatus := do
  match CommandLine.Options.subscriber commandLine with
  | .error refusal => refuse refusal
  | .ok options =>
    let logger := Log.Logger.root options.logLevel CommandLine.App.subscriber.name
    announce ("Receiving updates from " ++ options.config.endpoint.text ++ "...")
    match ← Subscriber.run logger options.config budget with
    | .ok printed =>
      Session.note logger .info "subscriber finished" [("printed", Text.decimal printed)]
      return .success
    | .error error => exitWith logger error

/-- The requester: sends console lines to a server. -/
def requester (commandLine : List Bytes) (budget : Nat) : Session ExitStatus := do
  match CommandLine.Options.requester commandLine with
  | .error refusal => refuse refusal
  | .ok options =>
    let logger := Log.Logger.root options.logLevel CommandLine.App.requester.name
    announce ("Attempting to connect to " ++ options.config.host ++ " on port " ++
      Text.decimal options.config.port.toNat ++ "...")
    match ← (Requester.connect logger options.config).run with
    | .error .shutdown => return .success
    | .error (.failed error) => exitWith logger error
    | .ok requester =>
      announce "Connected."
      announce "Type a request at the prompt, or quit to exit."
      finish logger (← requester.run budget)

/-- The publisher: broadcasts files at the commands of the console. -/
def publisher (commandLine : List Bytes) (budget : Nat) : Session ExitStatus := do
  match CommandLine.Options.publisher commandLine with
  | .error refusal => refuse refusal
  | .ok options =>
    let logger := Log.Logger.root options.logLevel CommandLine.App.publisher.name
    match ← (Publisher.bind logger options.config).run with
    | .error .shutdown => return .success
    | .error (.failed error) => exitWith logger error
    | .ok publisher =>
      announce ("Publishing on " ++ publisher.endpoint.text ++
        ". Type help for a list of commands.")
      let result ← publisher.run budget
      announce "Thanks for using pqpub! Exiting..."
      finish logger result

/-- Runs a program in an environment. -/
def runIn (program : List Bytes → (budget : Nat) → Session ExitStatus)
    (commandLine : List Bytes) (env : Environment) : Outcome ExitStatus :=
  (program commandLine env.budget).run env

end MessagingConsole.Program
