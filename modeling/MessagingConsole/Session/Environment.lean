import MessagingConsole.Network.Link
import MessagingConsole.Session.Basic

/-!
# Running sessions

An environment answers every operation of a session: a console with input and output,
files, a network, a link and a shutdown.  Running a session in an environment gives its
value, the environment it leaves, and the transcript of the run.

## Main Definitions

- `Shutdown` - when a client is shut down between its turns.
- `Environment` and `Environment.answer`.
- `Session.run` - a session in an environment.
- `Environment.budget` - a bound on the turns that the input of an environment allows.
-/

namespace MessagingConsole

/-- When a client is shut down at the start of a turn. -/
inductive Shutdown where
  | never
  /-- After so many turns that it could begin. -/
  | after (turns : Nat)
  deriving DecidableEq, Repr

/-- How the next turn begins. -/
def Shutdown.turn : Shutdown → TurnAnswer × Shutdown
  | .never => (.begun, .never)
  | .after 0 => (.interrupted, .after 0)
  | .after (turns + 1) => (.begun, .after turns)

/-- The surroundings of a client.  A shutdown while it waits for something is part of what it
waits for. -/
structure Environment where
  source : Source
  reader : LineReader
  sink : Sink
  files : FileTree
  network : Network
  link : Link
  shutdown : Shutdown := .never

namespace Environment

/-- Answers an operation. -/
def answer (env : Environment) : (operation : Operation) → operation.Answer × Environment
  | .turn =>
    let (answer, shutdown) := env.shutdown.turn
    (answer, { env with shutdown })
  | .write bytes =>
    let (answer, sink) := env.sink.write bytes
    (answer, { env with sink })
  | .flush =>
    let (answer, sink) := env.sink.flush
    (answer, { env with sink })
  | .readLine =>
    let ((answer, reader), source) := env.reader.next env.source
    (answer, { env with reader, source })
  | .readFile path => (env.files.read path, env)
  | .dial endpoint patience =>
    let (answer, network) := env.network.dial endpoint patience
    (answer, { env with network })
  | .bind endpoint => (env.network.bind endpoint, env)
  | .send _ =>
    let (answer, link) := env.link.send
    (answer, { env with link })
  | .receive =>
    let (answer, link) := env.link.receive
    (answer, { env with link })
  | .log _ => ((), env)
  | .report _ => ((), env)
  | .close => (env.link.closing, env)

/-- The octets of the console's input that no line was cut off from yet. -/
def unread (env : Environment) : Nat :=
  env.reader.pending.length + env.source.bytes.length

/-- One more than the turns that can go on: each of them uses up an octet of the input
or an arrival of the link. -/
def budget (env : Environment) : Nat :=
  2 * env.unread + env.link.arrivals.length + 1

end Environment

/-- What a run leaves behind. -/
structure Outcome (α : Type) where
  value : α
  env : Environment
  transcript : Transcript

namespace Session

variable {α β : Type}

/-- Runs a session in an environment, after the exchanges of `past`, newest first. -/
def runAfter (past : Transcript) : Session α → Environment → Outcome α
  | .done value, env => ⟨value, env, past.reverse⟩
  | .ask operation next, env =>
    let (answer, env) := env.answer operation
    (next answer).runAfter (⟨operation, answer⟩ :: past) env

/-- Runs a session in an environment. -/
def run (s : Session α) (env : Environment) : Outcome α :=
  s.runAfter [] env

/-- What happened before a run only stands in front of its transcript. -/
theorem runAfter_eq (past : Transcript) (s : Session α) (env : Environment) :
    s.runAfter past env =
      { s.run env with transcript := past.reverse ++ (s.run env).transcript } := by
  induction s generalizing past env with
  | done value => simp [runAfter, run]
  | ask operation next ih =>
    simp only [run, runAfter]
    rw [ih, ih _ [_]]
    simp

@[simp] theorem run_done (value : α) (env : Environment) :
    (done value).run env = ⟨value, env, []⟩ := rfl

/-- A run begins with the answer to the first operation. -/
theorem run_ask (operation : Operation) (next : operation.Answer → Session α)
    (env : Environment) :
    (ask operation next).run env =
      let rest := (next (env.answer operation).1).run (env.answer operation).2
      { rest with transcript := ⟨operation, (env.answer operation).1⟩ :: rest.transcript } := by
  simp only [run, runAfter]
  rw [runAfter_eq]
  simp [run]

/-- A session followed by another one runs the second where the first has ended. -/
theorem run_bind (s : Session α) (next : α → Session β) (env : Environment) :
    (s.bind next).run env =
      let first := s.run env
      let second := (next first.value).run first.env
      { second with transcript := first.transcript ++ second.transcript } := by
  induction s generalizing env with
  | done value => simp [Session.bind]
  | ask operation rest ih =>
    simp only [Session.bind, run_ask]
    rw [ih]
    simp

end Session

end MessagingConsole
