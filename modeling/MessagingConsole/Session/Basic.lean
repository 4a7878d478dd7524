import MessagingConsole.Session.Operation

/-!
# Sessions

A session is a client seen from outside: a value that it is done with, or an operation
and what it goes on with for each answer.  A session ends after finitely many
operations whatever it is answered.

## Main Definitions

- `Session` - with its monad, in which clients are written.
- `Attempt` - a session that can be stopped, by a shutdown or by an error, and `Attempt.send`.
- `Session.note` - logging, which never stops a client.
- `Session.pass` - a turn that a shutdown can come before, and `Session.close`.
-/

namespace MessagingConsole

/-- A client, from its next operation on. -/
inductive Session (α : Type) where
  | done (value : α)
  | ask (operation : Operation) (next : operation.Answer → Session α)

namespace Session

variable {α β : Type}

/-- A session followed by another one. -/
def bind : Session α → (α → Session β) → Session β
  | .done value, next => next value
  | .ask operation rest, next => .ask operation fun answer => (rest answer).bind next

instance : Monad Session where
  pure := .done
  bind := Session.bind

/-- The session of one operation. -/
def perform (operation : Operation) : Session operation.Answer :=
  .ask operation .done

/-- Hands on a record if the logger keeps its level. -/
def note (logger : Log.Logger) (level : Log.Level) (message : String)
    (pairs : List Log.Pair) : Session Unit :=
  if logger.keeps level then perform (.log (logger.record level message pairs))
  else pure ()

/-- One turn of a client that may be shut down at the start of it, and is stopped then. -/
def pass (stopped : α) (turn : Session α) : Session α := do
  match ← perform .turn with
  | .begun => turn
  | .interrupted => return stopped

/-- Closes the channel, and hands on a record of every fault that the transport reports, and then
one of the closing. -/
def close (logger : Log.Logger) (faulty closed : String) : Session Unit := do
  let faults ← perform .close
  faults.forM fun fault => note logger .warning faulty [("err", fault.message)]
  note logger .debug closed []

end Session

/-- What stops a client before it has done what it was about to do. -/
inductive Stop where
  | shutdown
  | failed (error : Error)
  deriving DecidableEq, Repr

/-- A session that may be stopped. -/
abbrev Attempt := ExceptT Stop Session

namespace Attempt

variable {α : Type}

/-- Stops with an error. -/
def fail (error : Error) : Attempt α :=
  throw (.failed error)

/-- Stops with an error if something went wrong. -/
def orFail {ε : Type} (error : ε → Error) : Except ε α → Attempt α
  | .ok value => pure value
  | .error fault => fail (error fault)

/-- Sends a message of one frame. -/
def send (error : TransportFault → Error) (payload : Bytes) : Attempt Unit := do
  match ← Session.perform (.send payload) with
  | .taken => pure ()
  | .fault fault => fail (error fault)
  | .interrupted => throw .shutdown

end Attempt

end MessagingConsole
