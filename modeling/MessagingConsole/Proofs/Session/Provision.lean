import MessagingConsole.Proofs.Console.Answers
import MessagingConsole.Proofs.Session.Printing
import MessagingConsole.Proofs.Session.Surroundings

/-!
# Surroundings in which nothing goes wrong

An environment *provides* answers and replies if it takes every output and every message,
if no shutdown comes before a turn, and if the next calls for a line are answered so and the
next messages are these.  The laws below say for each kind of exchange that such an
environment gives it and what it provides from then on, so that a whole conversation is given
piece by piece.

## Main Definitions

- `Environment.Provides` - with a law for each exchange of a client.
-/

namespace MessagingConsole.Environment

open Terminal (shown asked)

/-- The surroundings of a client that answer its next calls for a line so, have these
messages for it, take all that it writes and sends, and let it begin every turn. -/
structure Provides (env : Environment) (answers : List LineAnswer) (replies : List Message) :
    Prop where
  unlimited : env.sink = .unlimited
  accepts : env.link.AcceptsSends
  answers_eq : env.reader.answers answers.length env.source = answers
  arrivals : replies.map .message <+: env.link.arrivals
  running : env.shutdown = .never

variable {env final : Environment} {answer : LineAnswer} {answers : List LineAnswer}
  {reply : Message} {replies : List Message}

/-- An output that takes everything shows every chunk, and stays as it is. -/
theorem gives_shown (unlimited : env.sink = .unlimited) (chunks : List Bytes) :
    env.Gives (chunks.flatMap shown) env := by
  obtain ⟨source, reader, sink, files, network, link, shutdown⟩ := env
  cases unlimited
  induction chunks with
  | nil => rfl
  | cons chunk rest ih =>
    rw [List.flatMap_cons, gives_append]
    exact ⟨_, ⟨rfl, rfl, rfl⟩, ih⟩

/-- An output that takes everything still does so after a run. -/
theorem Gives.unlimited {t : Transcript} (gives : env.Gives t final)
    (unlimited : env.sink = .unlimited) : final.sink = .unlimited := by
  induction t generalizing env with
  | nil =>
    cases gives
    exact unlimited
  | cons e rest ih =>
    obtain ⟨operation, given⟩ := e
    obtain ⟨rfl, later⟩ := gives_cons.mp gives
    refine ih later ?_
    cases operation with
    | write bytes => simp [answer, unlimited, Sink.write, Sink.unlimited]
    | flush => simp [answer, unlimited, Sink.flush, Sink.unlimited]
    | _ => exact unlimited

/-- Every environment takes records, and stays as it is. -/
theorem gives_of_records {t : Transcript} (recorded : ∀ e ∈ t, e.record?.isSome) :
    env.Gives t env := by
  induction t with
  | nil => rfl
  | cons e rest ih =>
    obtain ⟨record, others⟩ := List.forall_mem_cons.mp recorded
    obtain ⟨operation, answer⟩ := e
    cases operation <;> first | exact ⟨rfl, ih others⟩ | cases record

theorem gives_noted (env : Environment) (logger : Log.Logger) (level : Log.Level)
    (message : String) (pairs : List Log.Pair) :
    env.Gives (logger.noted level message pairs) env :=
  gives_of_records Log.Logger.record_noted

/-- Closing a channel brings the faults that the link has for that, and leaves everything as it
is. -/
theorem gives_closing (env : Environment) (logger : Log.Logger) (faulty closed : String) :
    env.Gives (logger.closing faulty closed env.link.closing) env := by
  refine ⟨rfl, gives_of_records (List.forall_mem_append.mpr ⟨?_, ?_⟩)⟩
  · exact Log.Logger.record_warned
  · exact Log.Logger.record_noted

theorem gives_noted_append {t : Transcript} {logger : Log.Logger} {level : Log.Level}
    {message : String} {pairs : List Log.Pair} :
    env.Gives (logger.noted level message pairs ++ t) final ↔ env.Gives t final := by
  rw [gives_append]
  constructor
  · rintro ⟨middle, noted, later⟩
    rw [noted.unique (gives_noted env logger level message pairs)] at later
    exact later
  · intro later
    exact ⟨env, gives_noted env logger level message pairs, later⟩

/-- Printing on an output that takes everything shows everything, and leaves the output as
it is. -/
theorem Gives.prints {t : Transcript} {chunks : List Bytes} {result : Except Stop Unit}
    (gives : env.Gives t final) (unlimited : env.sink = .unlimited)
    (printed : Terminal.Prints chunks t result) : result = .ok () ∧ final = env := by
  cases printed with
  | whole => exact ⟨rfl, gives.unique (gives_shown unlimited chunks)⟩
  | broken cut breaks =>
    obtain ⟨middle, shown, last⟩ := gives_append.mp gives
    rw [shown.unique (gives_shown unlimited _)] at last
    -- No output that takes everything gives what breaks a chunk.
    cases breaks with
    | closed count =>
      obtain ⟨answered, -⟩ := gives_cons.mp last
      simp [answer, unlimited, Sink.write, Sink.unlimited] at answered
    | unflushed =>
      obtain ⟨-, later⟩ := gives_cons.mp last
      obtain ⟨answered, -⟩ := gives_cons.mp later
      simp [answer, unlimited, Sink.write, Sink.flush, Sink.unlimited] at answered

theorem gives_readFile (path : Bytes) :
    env.Gives [⟨.readFile path, env.files.read path⟩] env := ⟨rfl, rfl⟩

/-- Every turn begins where no shutdown comes before one. -/
theorem gives_begun {t : Transcript} (running : env.shutdown = .never) (gives : env.Gives t final) :
    env.Gives (⟨.turn, .begun⟩ :: t) final := by
  obtain ⟨source, reader, sink, files, network, link, shutdown⟩ := env
  cases running
  exact gives_cons.mpr ⟨rfl, gives⟩

/-- A call for a line is given the next answer. -/
theorem Provides.readLine (provides : env.Provides (answer :: answers) replies) :
    ∃ later, env.Gives [⟨.readLine, answer⟩] later ∧ later.files = env.files ∧
      later.Provides answers replies := by
  obtain ⟨unlimited, accepts, answered, arrivals, running⟩ := provides
  obtain ⟨first, rest⟩ := List.cons.inj answered
  exact ⟨_, ⟨first, rfl⟩, rfl, unlimited, accepts, rest, arrivals, running⟩

theorem Provides.asked (provides : env.Provides (answer :: answers) replies) :
    ∃ later, env.Gives (asked answer) later ∧ later.files = env.files ∧
      later.Provides answers replies := by
  obtain ⟨later, gives, files, provided⟩ := provides.readLine
  have prompt := gives_shown provides.unlimited [Utf8.encode Terminal.commandPrompt]
  rw [List.flatMap_singleton] at prompt
  exact ⟨later, gives_append.mpr ⟨env, prompt, gives⟩, files, provided⟩

theorem Provides.send (provides : env.Provides answers replies) (payload : Bytes) :
    ∃ later, env.Gives [⟨.send payload, .taken⟩] later ∧ later.files = env.files ∧
      later.Provides answers replies := by
  obtain ⟨unlimited, accepts, answered, arrivals, running⟩ := provides
  have taken : (env.answer (.send payload)).1 = .taken := sendsWell_answer accepts (.send payload)
  refine ⟨_, ⟨taken, rfl⟩, rfl, unlimited, acceptsSends_answer accepts _, answered, ?_, running⟩
  simp only [answer, Link.send]
  split <;> exact arrivals

theorem Provides.receive (provides : env.Provides answers (reply :: replies)) :
    ∃ later, env.Gives [⟨.receive, .message reply⟩] later ∧ later.files = env.files ∧
      later.Provides answers replies := by
  obtain ⟨unlimited, accepts, answered, ⟨after, arrivals⟩, running⟩ := provides
  refine ⟨_, ⟨?_, rfl⟩, rfl, unlimited, acceptsSends_answer accepts .receive, answered, ?_, running⟩
  · simp only [answer, Link.receive, ← arrivals]
    rfl
  · simp only [answer, Link.receive, ← arrivals]
    exact ⟨after, rfl⟩

/-- The lines that are provided are no more than the octets of the input. -/
theorem Provides.length_le_unread {lines : List String} {more : List LineAnswer}
    (provides : env.Provides (lines.map .line ++ more) replies) : lines.length ≤ env.unread :=
  LineReader.length_le_unread provides.answers_eq

end MessagingConsole.Environment
