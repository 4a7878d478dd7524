import MessagingConsole.Session.Dial
import MessagingConsole.Session.Environment
import MessagingConsole.Session.Terminal

/-!
# Subscriber

Prints the messages of a publisher whose topic begins with a filter, one line each.

## Main Definitions

- `Subscriber.connect` - a subscriber at an endpoint, its filter in place.
- `Subscriber.receive` - the next message that the filter accepts.
- `Subscriber.printAll` - prints messages until the client is stopped.
- `Subscriber.Feed` - the messages as a stream, and `Subscriber.messages`, its items as a list.
- `Subscriber.run` - connects, prints and closes.
- `Subscriber.runIn` - the same in an environment, whose arrivals bound the messages.
-/

namespace MessagingConsole

/-- A subscriber with its channel open. -/
structure Subscriber where
  endpoint : Endpoint
  filter : TopicFilter
  logger : Log.Logger

/-- What a subscriber is to do. -/
structure Subscription where
  endpoint : Endpoint
  filter : TopicFilter
  format : LineFormat
  deriving DecidableEq, Repr

namespace Subscriber

/-- Connects to a publisher and asks it for a filter. -/
def connect (logger : Log.Logger) (endpoint : Endpoint) (filter : TopicFilter) :
    Attempt Subscriber := do
  let logger := logger.child [("endpoint", endpoint.text), ("filter", filter.start)]
  Session.note logger .debug "connecting subscriber" []
  Attempt.dial logger endpoint
  Attempt.send (.subscribe endpoint filter.start) filter.subscription
  Session.note logger .info "subscribed" []
  return ⟨endpoint, filter, logger⟩

/-- Waits for the next message that the filter accepts, past at most `budget` others. -/
def receive (s : Subscriber) : (budget : Nat) → Attempt Message
  | 0 => throw .shutdown
  | budget + 1 => do
    match ← Session.perform .receive with
    | .fault fault => Attempt.fail (.receive s.endpoint fault)
    | .interrupted => throw .shutdown
    | .message message =>
      if s.filter.accepts message.topic then
        Session.note s.logger .trace "received message"
          [("bytes", Text.decimal message.payload.length)]
        return message
      else
        Session.note s.logger .debug "dropping message outside filter" []
        s.receive budget

/-- A stream of the messages that a subscriber waits for.  The subscriber is in it until
an error comes, which is the last item. -/
inductive Feed where
  /-- The next message is yet to come. -/
  | waiting (s : Subscriber)
  /-- The last item has been given. -/
  | failed
  /-- The end has been told. -/
  | finished

/-- What comes of asking a stream for its next item. -/
inductive Feed.Answer where
  | item (item : Except Error Message)
  /-- The client is shut down before there is an item. -/
  | interrupted
  | ended
  /-- The end had been told before.  This is no answer of the stream, which panics when it is
  polled after its end. -/
  | exhausted
  deriving Repr

/-- Asks a stream for its next item.  One that is asked after its end panics, every time. -/
def Feed.next (budget : Nat) : Feed → Session (Feed.Answer × Feed)
  | .waiting s => do
    match ← (s.receive budget).run with
    | .ok message => return (.item (.ok message), .waiting s)
    | .error (.failed error) => return (.item (.error error), .failed)
    | .error .shutdown => return (.interrupted, .waiting s)
  | .failed => return (.ended, .finished)
  | .finished => return (.exhausted, .finished)

/-- The next `count` items of a stream, or fewer if it ends. -/
def Feed.take (budget : Nat) : (count : Nat) → Feed → Session (List (Except Stop Message))
  | 0, _ => return []
  | count + 1, feed => do
    match ← feed.next budget with
    | (.item item, feed) => return item.mapError .failed :: (← feed.take budget count)
    | (.interrupted, _) => return [.error .shutdown]
    | (.ended, _) | (.exhausted, _) => return []

/-- Prints one message. -/
def printNext (s : Subscriber) (format : LineFormat) (budget : Nat) : Attempt Unit := do
  let message ← s.receive budget
  Terminal.write (Utf8.encode (format.render message))

/-- Prints messages until it is stopped, and tells how many it has printed in all;
`printed` counts those before.  At most `budget` messages are printed.  The first thing about a
message is waiting for it, so that a shutdown before a turn is one that interrupts the waiting. -/
def printAll (s : Subscriber) (format : LineFormat) :
    (budget printed : Nat) → Session (Except Error Nat)
  | 0, printed => return .ok printed
  | budget + 1, printed => do
    match ← (s.printNext format (budget + 1)).run with
    | .ok () => s.printAll format budget (printed + 1)
    | .error (.failed error) => return .error error
    | .error .shutdown =>
      Session.note s.logger .info "shutting down" [("printed", Text.decimal printed)]
      return .ok printed

/-- The next `count` items of the stream of messages that the filter accepts. -/
def messages (s : Subscriber) (budget count : Nat) : Session (List (Except Stop Message)) :=
  (Feed.waiting s).take budget count

/-- Closes the channel. -/
def close (s : Subscriber) : Session Unit :=
  Session.close s.logger "error while closing subscriber" "subscriber closed"

/-- Connects, prints messages until it is stopped, and closes the channel however that
ends.  A shutdown while it is still connecting leaves nothing printed. -/
def run (logger : Log.Logger) (subscription : Subscription) (budget : Nat) :
    Session (Except Error Nat) := do
  match ← (connect logger subscription.endpoint subscription.filter).run with
  | .error .shutdown => return .ok 0
  | .error (.failed error) => return .error error
  | .ok s =>
    let result ← s.printAll subscription.format budget 0
    s.close
    return result

/-- Runs a subscriber in an environment. -/
def runIn (logger : Log.Logger) (subscription : Subscription) (env : Environment) :
    Outcome (Except Error Nat) :=
  (run logger subscription env.budget).run env

end Subscriber

end MessagingConsole
