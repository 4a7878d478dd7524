import MessagingConsole.Text.Numeral
import MessagingConsole.Text.Quoted

/-!
# Endpoints

A host and a TCP port, and how a user writes them on a command line.

## Main Definitions

- `Endpoint` - a host and a port; `Endpoint.text` writes `tcp://host:port`.
- `readPort` - the reading of a port argument.
- `Endpoint.ofArgument` - the reading of `PORT` or `HOST:PORT`.
-/

namespace MessagingConsole

/-- What is wrong with an argument that should name a port or an endpoint. -/
inductive ArgumentFault where
  /-- No port can be read from it. -/
  | invalidPort (argument : String)
  /-- There is nothing in front of the colon. -/
  | missingHost (argument : String)
  deriving DecidableEq, Repr

/-- The explanation given to the user. -/
def ArgumentFault.message : ArgumentFault → String
  | .invalidPort argument =>
    "invalid port " ++ Text.quoted argument ++ ": expected an integer between 1 and 65535"
  | .missingHost argument =>
    "invalid endpoint " ++ Text.quoted argument ++ ": missing host"

/-- A TCP endpoint. -/
structure Endpoint where
  host : String
  port : UInt16
  deriving DecidableEq, Repr

/-- A host and a port the way an argument writes them. -/
def Endpoint.address (e : Endpoint) : String :=
  e.host ++ ":" ++ Text.decimal e.port.toNat

/-- An endpoint with its scheme. -/
def Endpoint.text (e : Endpoint) : String :=
  "tcp://" ++ e.address

/-- A product, if 16 bits hold it. -/
def product? (a b : UInt16) : Option UInt16 :=
  if a.toNat * b.toNat < UInt16.size then some (a * b) else none

/-- A sum, if 16 bits hold it. -/
def sum? (a b : UInt16) : Option UInt16 :=
  if a.toNat + b.toNat < UInt16.size then some (a + b) else none

/-- The number that decimal digits write after those that wrote `n`, as long as 16 bits
hold it. -/
def portAfter? : (n : UInt16) → List Char → Option UInt16
  | n, [] => some n
  | n, c :: rest =>
    if c.isDigit then do
      let tens ← product? n 10
      let next ← sum? tens (UInt16.ofNat (c.toNat - '0'.toNat))
      portAfter? next rest
    else none

/-- The number that a port numeral spells: an optional `+`, then decimal digits, any
number of leading zeros among them. -/
def portNumeral? (argument : List Char) : Option UInt16 :=
  let digits := match argument with
    | '+' :: rest => rest
    | _ => argument
  if digits.isEmpty then none else portAfter? 0 digits

/-- Reads a port.  Zero is refused, since nothing can be reached on it. -/
def readPort (argument : String) : Except ArgumentFault UInt16 :=
  match portNumeral? argument.toList with
  | none | some 0 => .error (.invalidPort argument)
  | some port => .ok port

/-- A text cut at its last colon, which belongs to neither part. -/
def splitAtLastColon? (cs : List Char) : Option (List Char × List Char) :=
  let reversed := cs.reverse
  match reversed.dropWhile (· ≠ ':') with
  | [] => none
  | _ :: host => some (host.reverse, (reversed.takeWhile (· ≠ ':')).reverse)

/-- Reads `HOST:PORT`, or `PORT` alone, which is combined with a default host.  The
last colon is the one that counts, so a host may hold colons of its own. -/
def Endpoint.ofArgument (argument defaultHost : String) : Except ArgumentFault Endpoint :=
  match splitAtLastColon? argument.toList with
  | some ([], _) => .error (.missingHost argument)
  | some (host, port) => return ⟨String.ofList host, ← readPort (String.ofList port)⟩
  | none => return ⟨defaultHost, ← readPort argument⟩

namespace Endpoint

/-- Where a subscriber listens unless it is told otherwise. -/
def defaultSubscription : Endpoint := ⟨"localhost", 6000⟩

/-- Where a requester sends unless it is told otherwise. -/
def defaultService : Endpoint := ⟨"localhost", 6500⟩

/-- The host a publisher binds, which accepts connections on every interface. -/
def everyInterface : String := "0.0.0.0"

end Endpoint

end MessagingConsole
