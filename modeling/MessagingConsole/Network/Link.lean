import MessagingConsole.Network.Host
import MessagingConsole.Session.Operation

/-!
# Networks and links

What a client meets on the network: who answers a dial and when, which ports can be
bound, and how the sends and receives over its socket go, one after the other.

## Main Definitions

- `Reach` - how a dial goes in time; `Reach.answer` answers it.
- `Network` - `Network.dial` and `Network.bind` answer a client that opens a socket.
- `Link` - `Link.send` and `Link.receive` answer a client that uses it.
-/

namespace MessagingConsole

/-- How a dial goes, when its endpoint has an address. -/
inductive Reach where
  | accepted
  | refused (fault : TransportFault)
  /-- Nobody ever answers, and the client is shut down after so many milliseconds. -/
  | unanswered (shutdownAfter : Nat)
  /-- Nobody answers for so many milliseconds, and then it goes on in another way. -/
  | late (wait : Nat) (reach : Reach)
  deriving DecidableEq, Repr

/-- How a dial is answered, within the patience if there is one, and how it goes on. -/
def Reach.answer : Reach → (patience : Option Nat) → DialAnswer × Reach
  | .accepted, _ => (.connected, .accepted)
  | .refused fault, _ => (.refused fault, .refused fault)
  | .unanswered rest, none => (.interrupted, .unanswered rest)
  | .unanswered rest, some patience =>
    if rest ≤ patience then (.interrupted, .unanswered rest)
    else (.waiting, .unanswered (rest - patience))
  | .late _ reach, none => reach.answer none
  | .late wait reach, some patience =>
    if wait ≤ patience then reach.answer (some (patience - wait))
    else (.waiting, .late (wait - patience) reach)

/-- The network around a client. -/
structure Network where
  /-- How dialing goes. -/
  reach : Reach
  /-- The ports that somebody else has bound. -/
  taken : List UInt16
  /-- The port that is given to a socket that asks for any. -/
  free : UInt16
  /-- What the client's machine makes of hosts and addresses. -/
  resolver : Resolver := .isolated

namespace Network

/-- Dials an endpoint. -/
def dial (n : Network) (e : Endpoint) (patience : Option Nat) : DialAnswer × Network :=
  match n.resolver.resolve e with
  | .error fault => (.refused fault, n)
  | .ok _ =>
    let (answer, reach) := n.reach.answer patience
    (answer, { n with reach })

/-- Binds an endpoint, and tells which one was bound.  It keeps the host as it was given. -/
def bind (n : Network) (e : Endpoint) : Except TransportFault Endpoint :=
  match n.resolver.resolve e with
  | .error fault => .error fault
  | .ok ip =>
    if ! n.resolver.isLocal ip then .error .addressNotAvailable
    else if n.taken.contains e.port then .error .addressInUse
    else .ok { e with port := if e.port = 0 then n.free else e.port }

end Network

/-- What comes after the last message of a link. -/
inductive Quiet where
  /-- Receiving fails. -/
  | fault (fault : TransportFault)
  /-- Nothing arrives any more, and the client is shut down. -/
  | silence
  deriving DecidableEq, Repr

/-- How waiting for one message goes. -/
inductive Arrival where
  | message (message : Message)
  | quiet (quiet : Quiet)
  deriving DecidableEq, Repr

/-- The answer to waiting when nothing arrives. -/
def Quiet.answer : Quiet → ReceiveAnswer
  | .fault f => .fault f
  | .silence => .interrupted

/-- The answer to waiting for an arrival. -/
def Arrival.answer : Arrival → ReceiveAnswer
  | .message m => .message m
  | .quiet q => q.answer

/-- How the sends and receives over a socket go, and its closing. -/
structure Link where
  /-- How the next sends go. -/
  sends : List SendAnswer
  /-- How all sends after those go. -/
  sendsAfter : SendAnswer
  /-- How the next receives go. -/
  arrivals : List Arrival
  /-- How all receives after those go. -/
  arrivalsAfter : Quiet
  /-- What goes wrong when the socket is closed. -/
  closing : List TransportFault := []

namespace Link

/-- Sends a message. -/
def send (l : Link) : SendAnswer × Link :=
  match l.sends with
  | [] => (l.sendsAfter, l)
  | answer :: rest => (answer, { l with sends := rest })

/-- Waits for a message. -/
def receive (l : Link) : ReceiveAnswer × Link :=
  match l.arrivals with
  | [] => (l.arrivalsAfter.answer, l)
  | arrival :: rest => (arrival.answer, { l with arrivals := rest })

end Link

end MessagingConsole
