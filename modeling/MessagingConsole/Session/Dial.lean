import MessagingConsole.Session.Basic

/-!
# Dialing in a session

Opening a connection.  The transport keeps trying while nobody accepts, so dialing
fails only where the endpoint cannot be read or the other side turns out to be
unsuitable.
-/

namespace MessagingConsole

/-- The milliseconds after which a wait is worth a record. -/
def dialPatience : Nat := 1000

/-- Dials an endpoint.  A long wait is logged, and then goes on until
there is an answer. -/
def Attempt.dial (logger : Log.Logger) (endpoint : Endpoint) : Attempt Unit := do
  match ← Session.perform (.dial endpoint (some dialPatience)) with
  | .connected => pure ()
  | .refused fault => Attempt.fail (.connect endpoint fault)
  | .interrupted => throw .shutdown
  | .waiting =>
    Session.note logger .warning "waiting for endpoint to accept connections" []
    match ← Session.perform (.dial endpoint none) with
    | .refused fault => Attempt.fail (.connect endpoint fault)
    | .interrupted => throw .shutdown
    | .connected | .waiting => pure ()

end MessagingConsole
