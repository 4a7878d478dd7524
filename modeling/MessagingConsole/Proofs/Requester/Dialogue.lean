import MessagingConsole.Proofs.Requester.Turns
import MessagingConsole.Proofs.Session.Provision
import MessagingConsole.Proofs.Session.Traffic
import MessagingConsole.Proofs.Text.Utf8

/-!
# The session of a requester

What a session comes to if nothing goes wrong: the lines up to the first `quit` are sent
as they are, each reply is printed as it is, and a prompt stands before every line.  The
alternation of the two sides, the states and the budget of turns are gone from this
description.

## Main Definitions

- `answered` and `requests` - the lines that are replied to, and the messages sent.
- `Dialogue` - what a session comes to, as a property of its transcript.

## Main Results

- `dialogue_runIn` - every session in which nothing goes wrong is such a dialogue.
-/

namespace MessagingConsole.Requester

open Terminal (shown asked)

variable {r : Requester} {t : Transcript} {line : String} {lines : List String}
  {reply : Message} {replies : List Message} {env : Environment}

/-- The lines that are sent and replied to: those before the first `quit`. -/
def answered (lines : List String) : List String := lines.takeWhile (· ≠ quit)

/-- The messages of a session: all lines up to the first `quit`. -/
def requests (lines : List String) : List Bytes :=
  (answered lines ++ if quit ∈ lines then [quit] else []).map Utf8.encode

/-- The output of a session: a prompt, and another one after each reply. -/
def printed (replies : List Message) : Bytes :=
  Utf8.encode Terminal.commandPrompt ++
    replies.flatMap fun reply => reply.payload ++ Utf8.encode Terminal.commandPrompt

/-- What a session comes to that is given lines and replies. -/
structure Dialogue (lines : List String) (replies : List Message) (t : Transcript) : Prop where
  sent : t.sent = requests lines
  output : t.output = printed (replies.take (answered lines).length)
  received : t.received = replies.take (answered lines).length
  waits : t.waits = (answered lines).length
  /-- After `quit` there are only records and the closing of the channel. -/
  after_quit : ∀ before after, t = before ++ ⟨.send (Utf8.encode quit), .taken⟩ :: after →
    ∀ e ∈ after, e.record?.isSome ∨ e.operation = .close

theorem answered_quit : answered (quit :: lines) = [] := by
  simp [answered]

theorem answered_cons (goes : line ≠ quit) : answered (line :: lines) = line :: answered lines := by
  simp [answered, goes]

example : answered ["quit ", "QUIT", "", "quit", "later"] = ["quit ", "QUIT", ""] := by decide

theorem requests_cons (goes : line ≠ quit) :
    requests (line :: lines) = Utf8.encode line :: requests lines := by
  have same : quit ∈ line :: lines ↔ quit ∈ lines := by
    rw [List.mem_cons, or_iff_right (Ne.symm goes)]
  simp only [requests, answered_cons goes, same]
  rfl

/-! ## Dialogues grow at their front -/

theorem Dialogue.ended : Dialogue [] replies
    (⟨.turn, .begun⟩ ::
      (asked .endOfInput ++ r.logger.noted .debug "console input ended" [])) where
  sent := by simp [requests, answered]
  output := by simp [answered, printed]
  received := by simp [answered]
  waits := by simp [answered]
  after_quit before after split := by
    have sent := congrArg Transcript.sent split
    simp at sent

theorem Dialogue.quit : Dialogue (quit :: lines) replies
    (⟨.turn, .begun⟩ ::
      (asked (.line quit) ++ (r.sending quit ++ [⟨.send (Utf8.encode quit), .taken⟩]))) where
  sent := by simp [requests, answered_quit, sending]
  output := by simp [answered_quit, printed, sending]
  received := by simp [answered_quit, sending]
  waits := by simp [answered_quit, sending]
  after_quit before after split e mem := by
    rw [← List.append_assoc, ← List.cons_append] at split
    obtain ⟨middle, last⟩ := Transcript.exists_split_of_unsent (by simp [sending]) split
    have lengths := congrArg List.length last
    simp only [List.length_append, List.length_cons, List.length_nil] at lengths
    obtain rfl : after = [] := List.eq_nil_of_length_eq_zero (by omega)
    cases mem

/-- A line that is not `quit`, and its reply, stand before the rest of a dialogue. -/
theorem Dialogue.request (goes : line ≠ Requester.quit) (rest : Dialogue lines replies t) :
    Dialogue (line :: lines) (reply :: replies)
      ((⟨.turn, .begun⟩ ::
          (asked (.line line) ++ (r.sending line ++ [⟨.send (Utf8.encode line), .taken⟩]))) ++
        ((⟨.turn, .begun⟩ ::
          ⟨.receive, .message reply⟩ :: (r.receiving reply ++ shown reply.payload)) ++ t)) where
  sent := by simp [requests_cons goes, sending, receiving, rest.sent]
  output := by simp [answered_cons goes, printed, sending, receiving, rest.output]
  received := by simp [answered_cons goes, sending, receiving, rest.received]
  waits := by
    simp only [answered_cons goes, sending, receiving, rest.waits, Transcript.waits_append,
      Transcript.waits_cons, Transcript.waits_nil, Terminal.waits_asked, Terminal.waits_shown,
      Log.Logger.waits_noted, List.length_cons, reduceCtorEq, if_true, if_false]
    omega
  after_quit before after split := by
    rw [← List.append_assoc] at split
    have unsent : Utf8.encode Requester.quit ≠ Utf8.encode line :=
      fun same => goes (Utf8.encode_inj.mp same).symm
    obtain ⟨middle, later⟩ :=
      Transcript.exists_split_of_unsent (by simp [sending, receiving, unsent]) split
    exact rest.after_quit middle after later

/-- Closing the channel adds nothing to a dialogue. -/
theorem Dialogue.close (dialogue : Dialogue lines replies t) (faults : List TransportFault) :
    Dialogue lines replies (t ++ r.closing faults) where
  sent := by simp [closing, dialogue.sent]
  output := by simp [closing, dialogue.output]
  received := by simp [closing, dialogue.received]
  waits := by simp [closing, dialogue.waits]
  after_quit before after split e mem := by
    have closed : ∀ e ∈ r.closing faults, e.record?.isSome ∨ e.operation = .close :=
      Log.Logger.aside_closing
    rcases List.append_eq_append_iff.mp split with ⟨middle, rfl, tail⟩ | ⟨middle, rfl, tail⟩
    · exact closed e (by simp [tail, mem])
    · cases middle with
      | nil => exact closed e (by rw [← show _ = r.closing faults from tail]; exact .tail _ mem)
      | cons head middle =>
        obtain ⟨rfl, rfl⟩ := List.cons.inj tail
        rcases List.mem_append.mp mem with inside | outside
        · exact dialogue.after_quit before middle rfl e inside
        · exact closed e outside

/-! ## From a turn to a run -/

/-- The surroundings give the turn of a line. -/
theorem exists_sent {answers : List LineAnswer} (r : Requester)
    (provides : env.Provides (.line line :: answers) replies) :
    ∃ later, env.Gives
        (⟨.turn, .begun⟩ ::
          (asked (.line line) ++ (r.sending line ++ [⟨.send (Utf8.encode line), .taken⟩]))) later ∧
      later.Provides answers replies := by
  have running := provides.running
  obtain ⟨heard, first, -, provides⟩ := provides.asked
  obtain ⟨later, taken, -, provides⟩ := provides.send (Utf8.encode line)
  have recorded : heard.Gives (r.sending line) heard := Environment.gives_noted ..
  have whole := Environment.gives_append.mpr
    ⟨heard, first, Environment.gives_append.mpr ⟨heard, recorded, taken⟩⟩
  exact ⟨later, Environment.gives_begun running whole, provides⟩

/-- The surroundings give the turn of a reply. -/
theorem exists_replied {answers : List LineAnswer} (r : Requester)
    (provides : env.Provides answers (reply :: replies)) :
    ∃ later, env.Gives
        (⟨.turn, .begun⟩ ::
          ⟨.receive, .message reply⟩ :: (r.receiving reply ++ shown reply.payload)) later ∧
      later.Provides answers replies := by
  have running := provides.running
  obtain ⟨later, received, -, provides⟩ := provides.receive
  have recorded : later.Gives (r.receiving reply) later := Environment.gives_noted ..
  have printed := Environment.gives_shown provides.unlimited [reply.payload]
  rw [List.flatMap_singleton] at printed
  have whole := Environment.gives_append.mpr
    ⟨later, received, Environment.gives_append.mpr ⟨later, recorded, printed⟩⟩
  exact ⟨later, Environment.gives_begun running whole, provides⟩

/-- Turns in surroundings in which nothing goes wrong are a dialogue, if there are enough
of them and of replies. -/
theorem exists_dialogue {budget : Nat}
    (provides : env.Provides (lines.map .line ++ [.endOfInput]) replies)
    (enough : (answered lines).length ≤ replies.length) (long : 2 * lines.length < budget) :
    ∃ t final, Turns r budget .awaitingInput t (.ok ()) ∧ env.Gives t final ∧
      Dialogue lines replies t := by
  -- A line takes two turns, so that the budget shrinks by two where the lines do by one.
  induction lines generalizing env replies budget with
  | nil =>
    obtain ⟨budget, rfl⟩ := Nat.exists_eq_add_of_lt long
    obtain ⟨later, gives, -⟩ := provides.asked
    refine ⟨_, later, .finished (.begun .ended), ?_, .ended⟩
    refine Environment.gives_begun provides.running (Environment.gives_append.mpr ?_)
    exact ⟨later, gives, Environment.gives_noted ..⟩
  | cons line rest ih =>
    rw [List.length_cons] at long
    obtain ⟨budget, rfl⟩ : ∃ short, budget = short + 1 + 1 := ⟨budget - 2, by omega⟩
    have shorter : 2 * rest.length < budget := by omega
    rw [List.map_cons, List.cons_append] at provides
    obtain ⟨waiting, gives, provides⟩ := exists_sent r provides
    by_cases goes : line = quit
    · subst goes
      have turn : Turn r .awaitingInput _ ⟨.terminated, none⟩ := .sent quit
      exact ⟨_, waiting, .finished (.begun turn), gives, .quit⟩
    · have turn := Turn.sent (r := r) line
      rw [if_neg goes] at turn
      rw [answered_cons goes, List.length_cons] at enough
      cases replies with
      | nil => cases enough
      | cons reply replies =>
        obtain ⟨idle, replied, provides⟩ := exists_replied r provides
        obtain ⟨t, final, turns, later, dialogue⟩ :=
          ih provides (Nat.le_of_succ_le_succ enough) shorter
        have turns := Turns.again (.begun turn) nofun (.again (.begun (.replied reply)) nofun turns)
        have replied := Environment.gives_append.mpr ⟨idle, replied, later⟩
        exact ⟨_, final, turns, Environment.gives_append.mpr ⟨waiting, gives, replied⟩,
          dialogue.request goes⟩

/-- **A session is what its lines and replies make of it.**  If the calls for a line find
these lines and then the end of the input, if there is a reply for each line before the
first `quit`, and if output and messages are taken: a run ends well, and what it sends,
puts out and receives is the dialogue of the lines and the replies. -/
theorem dialogue_runIn (r : Requester) (lines : List String) (replies : List Message)
    (env : Environment) (provides : env.Provides (lines.map .line ++ [.endOfInput]) replies)
    (enough : (answered lines).length ≤ replies.length) :
    (r.runIn env).value = .ok () ∧ Dialogue lines replies (r.runIn env).transcript := by
  have long : 2 * lines.length < env.budget := by
    have few := provides.length_le_unread
    unfold Environment.budget
    omega
  obtain ⟨t, final, turns, gives, dialogue⟩ := exists_dialogue provides enough long
  have follows := follows_run_iff.mpr ⟨t, final.link.closing, turns, rfl⟩
  have closes : final.Gives (r.closing final.link.closing) final := Environment.gives_closing ..
  have run := Session.run_eq_iff.mpr ⟨follows, Environment.gives_append.mpr ⟨final, gives, closes⟩⟩
  rw [runIn, run]
  exact ⟨rfl, dialogue.close _⟩

/-- A session of two requests: a line end before the last line is dropped with its carriage
return, `quit` with a blank is sent like any line, and a reply may come in many frames or
in none. -/
theorem dialogue_of_two_requests :
    let r : Requester := ⟨⟨"localhost", 5555⟩, .silent⟩
    let replies : List Message :=
      [⟨[Utf8.encode "po", [], Utf8.encode "ng\n"], ⟨0, 0, 0⟩⟩, ⟨[], ⟨0, 0, 0⟩⟩]
    let run := r.runIn (.calm "ping\x0d\nquit \nquit\nlater" ⟨[]⟩ replies)
    run.value = .ok () ∧
      run.transcript.sent = ["ping", "quit ", "quit"].map Utf8.encode ∧
      run.transcript.output = Utf8.encode "> pong\n> > " := by
  intro r replies run
  have provides : (Environment.calm "ping\x0d\nquit \nquit\nlater" ⟨[]⟩ replies).Provides
      (["ping", "quit ", "quit", "later"].map .line ++ [.endOfInput]) replies :=
    ⟨rfl, Environment.acceptsSends_calm .., by decide +kernel, List.prefix_rfl, rfl⟩
  obtain ⟨value, dialogue⟩ := dialogue_runIn r _ replies _ provides (by decide)
  exact ⟨value, dialogue.sent.trans (by decide), dialogue.output.trans (by decide)⟩

end MessagingConsole.Requester
