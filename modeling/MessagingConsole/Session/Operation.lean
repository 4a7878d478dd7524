import MessagingConsole.Console.LineReader
import MessagingConsole.Console.Sink
import MessagingConsole.FileTree
import MessagingConsole.Log
import MessagingConsole.Message

/-!
# Operations

What a client can ask of its surroundings, and what it may be answered.  A transcript
is the list of the operations of a run with their answers; output, traffic and log are
read off it.

## Main Definitions

- `Operation` and `Operation.Answer`.
- `Exchange` - an operation with its answer, and `Transcript`.
- `Transcript.output`, `sent`, `received`, `records`, `diagnostics`.
-/

namespace MessagingConsole

/-- What a client asks for. -/
inductive Operation where
  /-- Begin a turn, unless the client is shut down first. -/
  | turn
  /-- Write octets to the console. -/
  | write (bytes : Bytes)
  /-- Flush the console. -/
  | flush
  /-- Wait for the next line of the console. -/
  | readLine
  /-- Read a whole file. -/
  | readFile (path : Bytes)
  /-- Open a socket and connect it.  With a patience, wait for so many milliseconds at
  most. -/
  | dial (endpoint : Endpoint) (patience : Option Nat)
  /-- Open a socket and bind it. -/
  | bind (endpoint : Endpoint)
  /-- Send a message of one frame. -/
  | send (payload : Bytes)
  /-- Wait for the next message. -/
  | receive
  /-- Hand on a record. -/
  | log (record : Log.Record)
  /-- Print a line for the user beside the output. -/
  | report (line : String)
  /-- Close the socket, whatever goes wrong with that. -/
  | close
  deriving DecidableEq, Repr

/-- How a turn begins. -/
inductive TurnAnswer where
  | begun
  /-- The client is shut down before it has done anything of the turn. -/
  | interrupted
  deriving DecidableEq, Repr

/-- How a dial ends. -/
inductive DialAnswer where
  | connected
  | refused (fault : TransportFault)
  /-- Nobody has answered within the patience. -/
  | waiting
  /-- The client is shut down. -/
  | interrupted
  deriving DecidableEq, Repr

/-- How sending a message ends. -/
inductive SendAnswer where
  /-- The transport has the message. -/
  | taken
  | fault (fault : TransportFault)
  /-- The client is shut down before the transport has the message. -/
  | interrupted
  deriving DecidableEq, Repr

/-- How waiting for a message ends. -/
inductive ReceiveAnswer where
  | message (message : Message)
  | fault (fault : TransportFault)
  /-- The client is shut down. -/
  | interrupted
  deriving DecidableEq, Repr

/-- What an operation can be answered. -/
@[reducible] def Operation.Answer : Operation → Type
  | .turn => TurnAnswer
  | .write _ => WriteAnswer
  | .flush => Bool
  | .readLine => LineAnswer
  | .readFile _ => Except FileFault Bytes
  | .dial _ _ => DialAnswer
  | .bind _ => Except TransportFault Endpoint
  | .send _ => SendAnswer
  | .receive => ReceiveAnswer
  | .log _ => Unit
  | .report _ => Unit
  | .close => List TransportFault

/-- An operation and its answer. -/
structure Exchange where
  operation : Operation
  answer : operation.Answer

namespace Exchange

/-- The octets that an exchange puts out. -/
def output : Exchange → Bytes
  | ⟨.write bytes, .whole⟩ => bytes
  | ⟨.write bytes, .part count⟩ => bytes.take count
  | _ => []

/-- The message that an exchange hands to the transport. -/
def sent? : Exchange → Option Bytes
  | ⟨.send payload, .taken⟩ => some payload
  | _ => none

/-- The message that an exchange takes from the transport. -/
def received? : Exchange → Option Message
  | ⟨.receive, .message message⟩ => some message
  | _ => none

/-- The record that an exchange hands on. -/
def record? : Exchange → Option Log.Record
  | ⟨.log record, _⟩ => some record
  | _ => none

/-- Whether an exchange is a flush that went through. -/
def isFlush : Exchange → Bool
  | ⟨.flush, answer⟩ => answer
  | _ => false

/-- The text that an exchange prints beside the output, given the stamp of its time. -/
def diagnostic (stamp : String) : Exchange → String
  | ⟨.log record, _⟩ => record.line stamp ++ "\n"
  | ⟨.report line, _⟩ => line ++ "\n"
  | _ => ""

end Exchange

/-- The exchanges of a run, in order. -/
abbrev Transcript := List Exchange

namespace Transcript

/-- Everything that was put out. -/
def output (t : Transcript) : Bytes := t.flatMap Exchange.output

/-- The messages that were sent. -/
def sent (t : Transcript) : List Bytes := t.filterMap Exchange.sent?

/-- The messages that were received. -/
def received (t : Transcript) : List Message := t.filterMap Exchange.received?

/-- The records that were handed on. -/
def records (t : Transcript) : List Log.Record := t.filterMap Exchange.record?

/-- The text printed beside the output, all records under one stamp. -/
def diagnostics (stamp : String) (t : Transcript) : String :=
  String.join (t.map (Exchange.diagnostic stamp))

/-- The output cut after each flush, given what was put out since the last one. -/
def flushedFrom (unflushed : Bytes) : Transcript → List Bytes
  | [] => if unflushed.isEmpty then [] else [unflushed]
  | e :: rest =>
    if e.isFlush then unflushed :: flushedFrom [] rest
    else flushedFrom (unflushed ++ e.output) rest

/-- The output cut after each flush. -/
def flushed (t : Transcript) : List Bytes := flushedFrom [] t

end Transcript

end MessagingConsole
