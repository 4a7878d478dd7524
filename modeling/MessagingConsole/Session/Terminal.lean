import MessagingConsole.Session.Basic

/-!
# The console in a session

Writing and prompting.  Every write is flushed at once, and a failure of either stops
the client.
-/

namespace MessagingConsole.Terminal

/-- What asks for a command or a request. -/
def commandPrompt : String := "> "

/-- Writes octets and flushes them. -/
def write (bytes : Bytes) : Attempt Unit := do
  match ← Session.perform (.write bytes) with
  | .part _ => Attempt.fail (.console "output closed")
  | .whole =>
    if ← Session.perform .flush then pure ()
    else Attempt.fail (.console "flush failed")

/-- Writes a text and then a line feed. -/
def writeLine (line : String) : Attempt Unit := do
  write (Utf8.encode line)
  write [LineReader.lineFeed]

/-- Writes a prompt and waits for a line.  There is none at the end of input. -/
def prompt (text : String) : Attempt (Option String) := do
  write (Utf8.encode text)
  match ← Session.perform .readLine with
  | .line line => pure (some line)
  | .endOfInput => pure none
  | .fault fault => Attempt.fail fault.error
  | .interrupted => throw .shutdown

end MessagingConsole.Terminal
