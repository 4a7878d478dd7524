import MessagingConsole.Network.Link

/-!
# Peers

The other side of a link, by what it does: peers that spoil the handshake, servers that
answer requests from a list of replies, publishers that send a list of messages, and
the subscribers of a publisher.

## Main Definitions

- `Peer.reach` - how dialing a peer goes.
- `Link.serving` - the link to a server, and `Link.publishing` the one to a publisher.
- `Audience.delivered` - what a subscriber gets of what was published.
-/

namespace MessagingConsole

/-- How a peer behaves when it is dialed. -/
inductive Peer where
  | wellBehaved
  | noGreeting
  | badFirstByte
  | badSignature
  | oldVersion
  | badMechanism
  | noReady
  | wrongType
  | unknownType
  | noType
  | unknownCommand
  | messageFirst
  /-- Takes nothing once it is connected. -/
  | deaf
  deriving DecidableEq, Repr

/-- How dialing a peer goes. -/
def Peer.reach : Peer → Reach
  | .wellBehaved | .deaf => .accepted
  | .noGreeting => .refused .noGreeting
  | .badFirstByte => .refused (.codec "Bad first byte of greeting")
  | .badSignature => .refused (.codec "Failed to parse greeting")
  | .oldVersion => .refused .unsupportedVersion
  | .badMechanism => .refused (.codec "Failed to parse ZmqMechanism")
  | .noReady => .refused .noReply
  | .wrongType => .refused .incompatibleSockets
  | .unknownType => .refused .unknownSocketType
  | .noType => .refused .missingSocketType
  | .unknownCommand => .refused .unknownCommand
  | .messageFirst => .refused .notReady

/-- What a server does about a request. -/
inductive Reply where
  /-- It answers. -/
  | frames (frames : List Bytes)
  /-- It answers, and takes nothing after that. -/
  | last (frames : List Bytes)
  /-- It hangs up. -/
  | disconnect
  /-- It sends a command that there is none of. -/
  | badCommand
  /-- It never answers, and the client is shut down. -/
  | shutdown
  deriving DecidableEq, Repr

namespace Link

/-- A link that takes every message and brings none. -/
def mute : Link :=
  { sends := [], sendsAfter := .taken, arrivals := [], arrivalsAfter := .silence }

/-- A link that takes nothing. -/
def deaf : Link :=
  { mute with sendsAfter := .fault .brokenPipe, arrivalsAfter := .fault .noMessage }

/-- A link that fails with a fault instead of a reply.  A receive after that has no
request to belong to. -/
def failing (fault : TransportFault) : Link :=
  { mute with arrivals := [.quiet (.fault fault)], arrivalsAfter := .fault .noRequest }

/-- The link to a server that answers from a list of replies, all at one instant, and
hangs up when there are none left. -/
def serving (moment : Instant) : List Reply → Link
  | [] => failing .noMessage
  | .frames frames :: rest =>
    let later := serving moment rest
    { later with
      sends := .taken :: later.sends
      arrivals := .message ⟨frames, moment⟩ :: later.arrivals }
  | .last frames :: _ =>
    { sends := [.taken], sendsAfter := .fault .brokenPipe
      arrivals := [.message ⟨frames, moment⟩], arrivalsAfter := .fault .noRequest }
  | .disconnect :: _ => failing .noMessage
  | .badCommand :: _ => failing .unknownCommand
  | .shutdown :: _ => mute

/-- The link to a publisher of messages.  After the last one the client is shut down. -/
def publishing (messages : List Message) : Link :=
  { mute with arrivals := messages.map .message }

end Link

namespace Audience

/-- What a subscriber to some topics gets of what was published: each message once that
begins with one of the topics, in order. -/
def delivered (topics published : List Bytes) : List Bytes :=
  published.filter fun payload => topics.any (·.isPrefixOf payload)

end Audience

end MessagingConsole
