import MessagingConsole.CommandLine.Scan
import MessagingConsole.Log
import MessagingConsole.Subscriber

/-!
# Options

What the three programs take from their command lines.  Values are read once the whole
command line was scanned, operands before filters; a bad one is explained, with the
usage line below.

## Main Definitions

- `Options` - what a program is to do, and how much it logs.
- `Options.subscriber`, `Options.requester`, `Options.publisher`.
-/

namespace MessagingConsole.CommandLine

/-- What a program is to do, and down to which level it logs. -/
structure Options (α : Type) where
  config : α
  logLevel : Log.Level
  deriving DecidableEq, Repr

/-- The text of an argument. -/
def textOf (argument : Bytes) : Except Refusal String :=
  match Utf8.decode? argument with
  | some text => .ok text
  | none => .error .undecodable

/-- A fault in a value, with the usage line below its explanation. -/
def withUsage {α : Type} (app : App) : Except ArgumentFault α → Except Refusal α
  | .ok value => .ok value
  | .error fault => .error (.error (.usage (fault.message ++ "\n" ++ app.usage)))

/-- The value of an operand that may be missing. -/
def valueOf {α : Type} (operand : Option Bytes) (default : α)
    (read : String → Except Refusal α) : Except Refusal α :=
  match operand with
  | some argument => do read (← textOf argument)
  | none => .ok default

/-- The level that a scan asks for. -/
def Scan.logLevel (s : Scan) : Log.Level :=
  .ofVerbosity s.verbosity

/-- What a subscriber is to do. -/
def Options.subscriber (commandLine : List Bytes) : Except Refusal (Options Subscription) := do
  let scan ← App.subscriber.scan commandLine
  let endpoint ← valueOf scan.operands[0]? .defaultSubscription fun text =>
    withUsage .subscriber (Endpoint.ofArgument text Endpoint.defaultSubscription.host)
  let filter ← valueOf scan.filterValues[0]? TopicFilter.everything fun text => .ok ⟨text⟩
  let format := if scan.timestamps = 0 then LineFormat.plain else .timestamped
  return ⟨⟨endpoint, filter, format⟩, scan.logLevel⟩

/-- Which server a requester is to ask. -/
def Options.requester (commandLine : List Bytes) : Except Refusal (Options Endpoint) := do
  let scan ← App.requester.scan commandLine
  let host ← valueOf scan.operands[0]? Endpoint.defaultService.host .ok
  let port ← valueOf scan.operands[1]? Endpoint.defaultService.port fun text =>
    withUsage .requester (readPort text)
  return ⟨⟨host, port⟩, scan.logLevel⟩

/-- Which endpoint a publisher is to bind. -/
def Options.publisher (commandLine : List Bytes) : Except Refusal (Options Endpoint) := do
  let scan ← App.publisher.scan commandLine
  let text ← textOf (scan.operands[0]?.getD [])
  let port ← withUsage .publisher (readPort text)
  return ⟨⟨Endpoint.everyInterface, port⟩, scan.logLevel⟩

end MessagingConsole.CommandLine
