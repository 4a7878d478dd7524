import MessagingConsole.Network.Endpoint
import MessagingConsole.Network.Fault
import MessagingConsole.Requester.State

/-!
# Errors

Everything that can end a client early.  An error is its cause; `Error.message` is the
one place that words it.
-/

namespace MessagingConsole

/-- The longest console line, in octets. -/
def maxLineLength : Nat := 65536

/-- What a user can ask for instead of a run. -/
inductive Notice where
  /-- The help text. -/
  | help (text : String)
  /-- The name and version of a program. -/
  | version (line : String)
  deriving DecidableEq, Repr

/-- The causes that end a client. -/
inductive Error where
  /-- Arguments that cannot be used, with the text that explains it. -/
  | usage (text : String)
  /-- A notice was asked for. -/
  | notice (notice : Notice)
  | connect (endpoint : Endpoint) (fault : TransportFault)
  | bind (endpoint : Endpoint) (fault : TransportFault)
  | subscribe (endpoint : Endpoint) (filter : String) (fault : TransportFault)
  | send (endpoint : Endpoint) (fault : TransportFault)
  | receive (endpoint : Endpoint) (fault : TransportFault)
  /-- Reading from or writing to the console failed. -/
  | console (reason : String)
  | lineTooLong (max : Nat)
  | outOfTurn (turn : Requester.OutOfTurn)
  deriving DecidableEq, Repr

namespace Error

/-- The text of an error. -/
def message : Error → String
  | .usage text => text
  | .notice (.help text) => text ++ "\n"
  | .notice (.version _) => "\n"
  | .connect endpoint fault =>
    "failed to connect to " ++ endpoint.text ++ ": " ++ fault.message
  | .bind endpoint fault => "failed to bind " ++ endpoint.text ++ ": " ++ fault.message
  | .subscribe endpoint filter fault =>
    "failed to subscribe to " ++ endpoint.text ++ " with filter " ++ Text.quoted filter ++
      ": " ++ fault.message
  | .send endpoint fault => "failed to send to " ++ endpoint.text ++ ": " ++ fault.message
  | .receive endpoint fault =>
    "failed to receive from " ++ endpoint.text ++ ": " ++ fault.message
  | .console reason => "console I/O failed: " ++ reason
  | .lineTooLong max => "console line exceeds " ++ Text.decimal max ++ " bytes"
  | .outOfTurn turn => turn.message

/-- Whether an error is about the arguments. -/
def isUsage : Error → Bool
  | .usage _ => true
  | _ => false

/-- The text of the cause below an error, where there is one. -/
def source : Error → Option String
  | .connect _ fault | .bind _ fault | .subscribe _ _ fault | .send _ fault
  | .receive _ fault => some fault.message
  | .console reason => some reason
  | _ => none

end Error

end MessagingConsole
