import MessagingConsole.Proofs.Publisher.Turns
import MessagingConsole.Proofs.Session.Provision
import MessagingConsole.Proofs.Session.Traffic

/-!
# The session of a publisher

What a session comes to if nothing goes wrong, as a recursion over the lines.  A line is
read as a command, and after an offer the next line is the answer to it, whatever it says;
which of the two a line is depends on the files.

## Main Definitions

- `dialogue` - what is put out and published, as a recursion over the lines.
- `Rounded` - a round that surroundings give.

## Main Results

- `runIn_eq_dialogue` - every session in which nothing goes wrong comes to its dialogue.
-/

namespace MessagingConsole.Publisher

open Terminal (shown lineChunks asked)

variable {p : Publisher} {env : Environment} {answers : List LineAnswer} {line : String}

/-- What a session comes to. -/
structure Dialogue where
  output : Bytes
  published : List Bytes
  deriving DecidableEq

/-- The octets of a prompt for a command. -/
def prompted : Bytes := Utf8.encode Terminal.commandPrompt

/-- The octets of a line with its line feed. -/
def lined (line : String) : Bytes := Utf8.encode line ++ [LineReader.lineFeed]

/-- The octets of an offer: its announcement, the broadcast, and what asks for the
confirmation. -/
def offered (body : String) : Bytes :=
  lined (announcement body) ++ lined body ++ Utf8.encode confirmationPrompt

/-- A dialogue with more output and broadcasts in front. -/
def Dialogue.after (output : Bytes) (published : List Bytes) (d : Dialogue) : Dialogue :=
  ⟨output ++ d.output, published ++ d.published⟩

/-- What lines come to.  No line, or `quit`, ends the session.  A broadcast that can be
loaded takes one more line, which confirms it or not; without one it is declined, and the
prompt after it is the last. -/
def dialogue (files : FileTree) : List String → Dialogue
  | [] => ⟨prompted, []⟩
  | line :: rest =>
    match Command.ofLine line with
    | .quit => ⟨prompted, []⟩
    | .help => (dialogue files rest).after (prompted ++ lined commandList) []
    | .missingFile =>
      (dialogue files rest).after (prompted ++ lined "Error: send requires a file name") []
    | .unknown _ =>
      (dialogue files rest).after
        (prompted ++ lined "Invalid command. Type help for a list of valid commands.") []
    | .send path =>
      match Broadcast.ofFile files (Utf8.encode path) with
      | .error fault =>
        (dialogue files rest).after (prompted ++ lined ("Error: " ++ fault.message)) []
      | .ok body =>
        match rest with
        | [] =>
          Dialogue.after (prompted ++ offered body ++ lined "Message not sent.") [] ⟨prompted, []⟩
        | answer :: rest =>
          if String.ofList (Text.trim answer.toList) = confirmation then
            (dialogue files rest).after
              (prompted ++ offered body ++ lined "Message sent!") [Utf8.encode body]
          else
            (dialogue files rest).after
              (prompted ++ offered body ++ lined "Message not sent.") []

theorem flatten_lineChunks (line : String) : (lineChunks line).flatten = lined line := by
  simp [lineChunks, lined]

theorem flatten_display (body : String) : (display body).flatten = offered body := by
  simp [display, offered, flatten_lineChunks]

/-! ## Rounds that surroundings give -/

/-- A round after which there may be another one, given by an environment: what it puts
out and publishes, and the environment that it leaves. -/
def Rounded (p : Publisher) (env : Environment) (output : Bytes) (published : List Bytes)
    (later : Environment) : Prop :=
  ∃ t, Turn p t (.ok true) ∧ env.Gives t later ∧ t.output = output ∧ t.sent = published

/-- A command that is answered with a line. -/
theorem exists_rounded_of_notice {text : String}
    (provides : env.Provides (.line line :: answers) [])
    (notice : (Command.ofLine line).notice? = some text) :
    ∃ later, Rounded p env (prompted ++ lined text) [] later ∧ later.files = env.files ∧
      later.Provides answers [] := by
  obtain ⟨later, gives, files, provided⟩ := provides.asked
  have turn : Turn p _ (.ok true) := .command (.noticed notice .whole)
  have shows := Environment.gives_shown provided.unlimited (lineChunks text)
  have whole := Environment.gives_append.mpr ⟨later, gives, shows⟩
  refine ⟨later, ⟨_, turn, whole, ?_, ?_⟩, files, provided⟩
  · simp [flatten_lineChunks, prompted]
  · simp

/-- A command to send a file that has no broadcast. -/
theorem exists_rounded_of_fault {path : String} {fault : BroadcastFault}
    (provides : env.Provides (.line line :: answers) [])
    (command : Command.ofLine line = .send path)
    (faulty : Broadcast.ofFile env.files (Utf8.encode path) = .error fault) :
    ∃ later, Rounded p env (prompted ++ lined ("Error: " ++ fault.message)) [] later ∧
      later.files = env.files ∧ later.Provides answers [] := by
  obtain ⟨later, gives, files, provided⟩ := provides.asked
  rw [← files] at faulty
  have turn : Turn p _ (.ok true) := .command (.rejected command faulty .whole)
  have reads := later.gives_readFile (Utf8.encode path)
  have shows := Environment.gives_shown provided.unlimited
    (lineChunks ("Error: " ++ fault.message))
  have recorded := later.gives_noted p.logger .debug "rejected broadcast"
    [("path", Utf8.decodeLossy (Utf8.encode path)), ("err", fault.message)]
  have tail := Environment.gives_append.mpr ⟨later, recorded, shows⟩
  have rest := Environment.gives_append.mpr ⟨later, reads, tail⟩
  refine ⟨later, ⟨_, turn, Environment.gives_append.mpr ⟨later, gives, rest⟩, ?_, ?_⟩, files,
    provided⟩
  · simp [flatten_lineChunks, prompted, Exchange.output]
  · simp [Exchange.sent?]

/-- An offer that is answered, if the surroundings give what follows the answer. -/
theorem exists_rounded_of_answered {o : Offer} {answer : LineAnswer} {t : Transcript}
    (provides : env.Provides (.line o.command :: answer :: answers) [])
    (read : env.files.read (Utf8.encode o.path) = .ok o.content)
    (answered : Answered p o.body answer t (.ok ()))
    (goes : ∀ now : Environment, now.Provides answers [] →
      ∃ later, now.Gives t later ∧ later.files = now.files ∧ later.Provides answers []) :
    ∃ later, Rounded p env (prompted ++ offered o.body ++ t.output) t.sent later ∧
      later.files = env.files ∧ later.Provides answers [] := by
  obtain ⟨shown, gives, files, provided⟩ := provides.asked
  obtain ⟨heard, hears, files', provided'⟩ := provided.readLine
  obtain ⟨later, follows, files'', provided''⟩ := goes heard provided'
  have turn : Turn p _ (.ok true) := .command (.answered o rfl answered)
  rw [← files] at read
  have loads : shown.Gives [o.loaded] shown := ⟨read, rfl⟩
  have shows := Environment.gives_shown provided.unlimited (display o.body)
  have answering := Environment.gives_append.mpr ⟨heard, hears, follows⟩
  have tail := Environment.gives_append.mpr ⟨shown, shows, answering⟩
  have rest := Environment.gives_append.mpr ⟨shown, loads, tail⟩
  refine ⟨later, ⟨_, turn, Environment.gives_append.mpr ⟨shown, gives, rest⟩, ?_, ?_⟩,
    files''.trans (files'.trans files), provided''⟩
  · simp [flatten_display, prompted, Offer.loaded, Exchange.output]
  · simp [Offer.loaded, Exchange.sent?]

/-- A broadcast that can be loaded is offered. -/
theorem exists_offer {path body : String} {files : FileTree}
    (command : Command.ofLine line = .send path)
    (loaded : Broadcast.ofFile files (Utf8.encode path) = .ok body) :
    ∃ o : Offer, o.command = line ∧ o.body = body ∧
      files.read (Utf8.encode o.path) = .ok o.content := by
  obtain ⟨raw, read, valid⟩ := Broadcast.ofRead_eq_ok loaded
  exact ⟨⟨line, path, raw, body, command, valid⟩, rfl, rfl, read⟩

/-- An offer that is answered by something else. -/
theorem exists_rounded_of_declined {path body : String} {answer : LineAnswer}
    {reply : Option String} (provides : env.Provides (.line line :: answer :: answers) [])
    (command : Command.ofLine line = .send path)
    (loaded : Broadcast.ofFile env.files (Utf8.encode path) = .ok body)
    (outcome : answer.outcome = .ok reply) (declines : ¬ Confirms answer) :
    ∃ later, Rounded p env (prompted ++ offered body ++ lined "Message not sent.") [] later ∧
      later.files = env.files ∧ later.Provides answers [] := by
  obtain ⟨o, rfl, rfl, read⟩ := exists_offer command loaded
  have answered : Answered p o.body answer _ (.ok ()) := .declined outcome declines .whole
  have round := exists_rounded_of_answered provides read answered
    fun now provided => ⟨now, Environment.gives_shown provided.unlimited _, rfl, provided⟩
  simpa [flatten_lineChunks] using round

/-- An offer that is confirmed. -/
theorem exists_rounded_of_confirmed {path body text : String}
    (provides : env.Provides (.line line :: .line text :: answers) [])
    (command : Command.ofLine line = .send path)
    (loaded : Broadcast.ofFile env.files (Utf8.encode path) = .ok body)
    (confirms : Confirms (.line text)) :
    ∃ later, Rounded p env (prompted ++ offered body ++ lined "Message sent!")
        [Utf8.encode body] later ∧
      later.files = env.files ∧ later.Provides answers [] := by
  obtain ⟨o, rfl, rfl, read⟩ := exists_offer command loaded
  have round := exists_rounded_of_answered (p := p) provides read (.published confirms .whole)
    fun now provided => by
      obtain ⟨later, taken, files, provided⟩ := provided.send (Utf8.encode o.body)
      have shows := Environment.gives_shown provided.unlimited (lineChunks "Message sent!")
      refine ⟨later, Environment.gives_append.mpr ⟨now, Environment.gives_noted .., ?_⟩, files,
        provided⟩
      rw [← List.singleton_append]
      exact Environment.gives_append.mpr ⟨later, taken, shows⟩
  simpa [flatten_lineChunks] using round

/-! ## From a round to a run -/

/-- Rounds that an environment gives, which end well and come to a dialogue. -/
def Holds (p : Publisher) (budget : Nat) (env : Environment) (d : Dialogue) : Prop :=
  ∃ t final, Rounds p budget t (.ok ()) ∧ env.Gives t final ∧ t.output = d.output ∧
    t.sent = d.published

/-- A round stands before the rest of a dialogue. -/
theorem Holds.again {budget : Nat} {output : Bytes} {published : List Bytes} {d : Dialogue}
    {later : Environment} (running : env.shutdown = .never)
    (round : Rounded p env output published later) (rest : Holds p budget later d) :
    Holds p (budget + 1) env (d.after output published) := by
  obtain ⟨t₁, turn, gives, rfl, rfl⟩ := round
  obtain ⟨t₂, final, rounds, follows, output, published⟩ := rest
  have whole := Environment.gives_append.mpr ⟨later, gives, follows⟩
  refine ⟨⟨.turn, .begun⟩ :: t₁ ++ t₂, final, .again (.begun turn) rounds,
    Environment.gives_begun running whole, ?_, ?_⟩
  · simp [Dialogue.after, output]
  · simp [Dialogue.after, published]

/-- A prompt that is answered by the end of the input is the last. -/
theorem holds_ended {budget : Nat} (provides : env.Provides (.endOfInput :: answers) []) :
    Holds p (budget + 1) env ⟨prompted, []⟩ := by
  obtain ⟨later, gives, -⟩ := provides.asked
  exact ⟨_, later, .finished (.begun .ended), Environment.gives_begun provides.running gives,
    by simp [prompted], by simp⟩

theorem holds_quit {budget : Nat} (provides : env.Provides (.line line :: answers) [])
    (command : Command.ofLine line = .quit) : Holds p (budget + 1) env ⟨prompted, []⟩ := by
  obtain ⟨later, gives, -⟩ := provides.asked
  refine ⟨_, later, .finished (.begun (.command (.quit command))), ?_, ?_, ?_⟩
  · rw [List.append_nil]
    exact Environment.gives_begun provides.running gives
  · simp [prompted]
  · simp

/-- Rounds in surroundings in which nothing goes wrong come to the dialogue of the lines,
if there are enough of them. -/
theorem holds_dialogue {lines : List String} {files : FileTree} {budget : Nat}
    (provides : env.Provides (lines.map .line ++ [.endOfInput, .endOfInput]) [])
    (same : env.files = files) (long : lines.length < budget) :
    Holds p budget env (dialogue files lines) := by
  -- The three commands that are answered with a line go on in the same way.
  have noticed {rest : List String} {budget : Nat} {line text : String} {env : Environment}
      (notice : (Command.ofLine line).notice? = some text)
      (provides : env.Provides
        ((line :: rest).map .line ++ [.endOfInput, .endOfInput]) []) (same : env.files = files)
      (ih : ∀ {later : Environment},
        later.Provides (rest.map .line ++ [.endOfInput, .endOfInput]) [] → later.files = files →
          Holds p budget later (dialogue files rest)) :
      Holds p (budget + 1) env ((dialogue files rest).after (prompted ++ lined text) []) := by
    obtain ⟨later, round, kept, provided⟩ := exists_rounded_of_notice provides notice
    exact .again provides.running round (ih provided (kept.trans same))
  fun_induction dialogue files lines generalizing env budget
  all_goals obtain ⟨budget, rfl⟩ := Nat.exists_eq_add_one.mpr (Nat.zero_lt_of_lt long)
  case case1 => exact holds_ended provides
  case case2 command => exact holds_quit provides command
  case case3 command ih | case4 command ih | case5 command ih =>
    have short := Nat.lt_of_succ_lt_succ long
    exact noticed (by rw [command]; rfl) provides same fun provided kept => ih provided kept short
  case case6 command fault faulty ih =>
    subst same
    obtain ⟨later, round, kept, provided⟩ := exists_rounded_of_fault provides command faulty
    exact .again provides.running round (ih provided kept (Nat.lt_of_succ_lt_succ long))
  case case7 command body loaded =>
    subst same
    obtain ⟨later, round, -, provided⟩ :=
      exists_rounded_of_declined provides command loaded rfl id
    -- The input has ended in the middle of the round, and it takes one more round to see that.
    have short := Nat.lt_of_succ_lt_succ long
    obtain ⟨budget, rfl⟩ := Nat.exists_eq_add_one.mpr (Nat.zero_lt_of_lt short)
    exact .again provides.running round (holds_ended provided)
  case case8 command body loaded answer rest confirms ih =>
    subst same
    obtain ⟨later, round, kept, provided⟩ :=
      exists_rounded_of_confirmed provides command loaded confirms
    have short := Nat.lt_of_succ_lt (Nat.lt_of_succ_lt_succ long)
    exact .again provides.running round (ih provided kept short)
  case case9 command body loaded answer rest declines ih =>
    subst same
    obtain ⟨later, round, kept, provided⟩ :=
      exists_rounded_of_declined provides command loaded rfl declines
    have short := Nat.lt_of_succ_lt (Nat.lt_of_succ_lt_succ long)
    exact .again provides.running round (ih provided kept short)

/-- **A session is what its lines and files make of it.**  If the calls for a line find
these lines and then the end of the input, and if output and messages are taken: a run
ends well, and what it puts out and publishes is the dialogue of the lines. -/
theorem runIn_eq_dialogue (p : Publisher) (lines : List String) (env : Environment)
    (provides : env.Provides (lines.map .line ++ [.endOfInput, .endOfInput]) []) :
    (p.runIn env).value = .ok () ∧
      (p.runIn env).transcript.output = (dialogue env.files lines).output ∧
      (p.runIn env).transcript.sent = (dialogue env.files lines).published := by
  have long : lines.length < env.budget := by
    have few := provides.length_le_unread
    unfold Environment.budget
    omega
  obtain ⟨t, final, rounds, gives, output, published⟩ := holds_dialogue provides rfl long
  have follows := follows_run_iff.mpr ⟨t, final.link.closing, rounds, rfl⟩
  have closes : final.Gives (p.closing final.link.closing) final := Environment.gives_closing ..
  have run := Session.run_eq_iff.mpr ⟨follows, Environment.gives_append.mpr ⟨final, gives, closes⟩⟩
  rw [runIn, run]
  refine ⟨rfl, ?_, ?_⟩
  · simp [closing, output]
  · simp [closing, published]

/-- A session with three offers: `quit` declines the first one and ends nothing, the second
one is confirmed, and at the third one the input ends. -/
theorem runIn_of_three_offers :
    let p : Publisher := ⟨⟨"localhost", 5555⟩, .silent⟩
    let files : FileTree := ⟨[([Utf8.encode "motd"], .file (Utf8.encode "hello\n"))]⟩
    let run := p.runIn (.calm "send motd\nquit\nsend motd\n YES \nsend motd" files [])
    run.value = .ok () ∧ run.transcript.sent = [Utf8.encode "hello"] := by
  intro p files run
  have provides :
      (Environment.calm "send motd\nquit\nsend motd\n YES \nsend motd" files []).Provides
        (["send motd", "quit", "send motd", " YES ", "send motd"].map .line ++
          [.endOfInput, .endOfInput]) [] :=
    ⟨rfl, Environment.acceptsSends_calm .., by decide +kernel, List.prefix_rfl, rfl⟩
  obtain ⟨value, -, published⟩ := runIn_eq_dialogue p _ _ provides
  exact ⟨value, published.trans (by decide +kernel)⟩

end MessagingConsole.Publisher
