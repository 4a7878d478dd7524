import MessagingConsole.Proofs.Publisher.Broadcast
import MessagingConsole.Proofs.Session.Printing
import MessagingConsole.Publisher

/-!
# The turns of a publisher

What one command can look like from outside.  A round prompts, reads a line and carries
it out, and it can be cut off at every exchange on the way: a chunk that cannot be shown,
a line that cannot be read, a file that cannot be loaded, a message that cannot be sent.
`Turn` has one constructor for each of these ways, so that a fact about all rounds is
proved by cases and no proof opens the publisher again.

## Main Definitions

- `Offer` - a command to send a file, with the broadcast that was loaded for it.
- `Answered` - what can follow the answer to an offer.
- `Turn` - what a round can be.
- `Pass` - a round that a shutdown can come before, and `Rounds`, such rounds in a row.

## Main Results

- `follows_round_iff` - the transcripts of a round are its turns.
- `follows_run_iff` - the transcripts of a run are turns in a row, and the closing.
-/

namespace MessagingConsole

namespace Publisher

open Terminal (Prints shown lineChunks asked)

variable {p : Publisher} {t : Transcript}

/-- The line that announces a broadcast. -/
def announcement (body : String) : String :=
  "The following message will be sent (" ++ Text.decimal body.length ++ " characters):"

/-- What asks for the confirmation of a broadcast. -/
def confirmationPrompt : String := "Type YES to confirm: "

/-- The chunks in which a broadcast is shown and its confirmation asked for. -/
def display (body : String) : List Bytes :=
  lineChunks (announcement body) ++ (lineChunks body ++ [Utf8.encode confirmationPrompt])

/-- Whether an answer confirms a broadcast. -/
def Confirms : LineAnswer → Prop
  | .line text => String.ofList (Text.trim text.toList) = confirmation
  | _ => False

/-- The line that a command is answered with, for the commands that take nothing more. -/
def Command.notice? : Command → Option String
  | .help => some commandList
  | .missingFile => some "Error: send requires a file name"
  | .unknown _ => some "Invalid command. Type help for a list of valid commands."
  | .quit | .send _ => none

/-- A command to send a file, with the broadcast that was loaded for it. -/
structure Offer where
  command : String
  path : String
  content : Bytes
  body : String
  ofLine_command : Command.ofLine command = .send path
  ofContent_content : Broadcast.ofContent content = .ok body

/-- The exchange in which the file of an offer was read. -/
def Offer.loaded (o : Offer) : Exchange :=
  ⟨.readFile (Utf8.encode o.path), .ok o.content⟩

/-- The exchanges of an offer that was shown completely, from the prompt for its command
to the prompt for its confirmation. -/
def Offer.exchanges (o : Offer) : Transcript :=
  asked (.line o.command) ++ o.loaded :: (display o.body).flatMap shown

/-- What can follow the answer to an offer. -/
inductive Answered (p : Publisher) (body : String) (answer : LineAnswer) :
    Transcript → Except Stop Unit → Prop
  /-- There is no answer. -/
  | stopped {stop : Stop} (outcome : answer.outcome = .error stop) :
      Answered p body answer [] (.error stop)
  /-- The answer is another one, or the input has ended. -/
  | declined {reply : Option String} {t : Transcript} {result : Except Stop Unit}
      (outcome : answer.outcome = .ok reply) (declines : ¬ Confirms answer)
      (printed : Prints (lineChunks "Message not sent.") t result) :
      Answered p body answer t result
  /-- The broadcast is confirmed, and the transport does not take it. -/
  | refused {reaction : SendAnswer} {stop : Stop} (confirms : Confirms answer)
      (untaken : reaction.outcome (.send p.endpoint) = .error stop) :
      Answered p body answer
        (p.logger.noted .debug "publishing"
            [("bytes", Text.decimal (Utf8.encode body).length)] ++
          [⟨.send (Utf8.encode body), reaction⟩])
        (.error stop)
  /-- The broadcast is confirmed and goes out. -/
  | published {t : Transcript} {result : Except Stop Unit} (confirms : Confirms answer)
      (printed : Prints (lineChunks "Message sent!") t result) :
      Answered p body answer
        (p.logger.noted .debug "publishing"
            [("bytes", Text.decimal (Utf8.encode body).length)] ++
          ⟨.send (Utf8.encode body), .taken⟩ :: t)
        result

/-- What can follow a command, and whether there may be another one. -/
inductive CarriedOut (p : Publisher) (line : String) : Transcript → Except Stop Bool → Prop
  | quit (command : Command.ofLine line = .quit) : CarriedOut p line [] (.ok false)
  /-- The command is answered with a line. -/
  | noticed {text : String} {t : Transcript} {result : Except Stop Unit}
      (notice : (Command.ofLine line).notice? = some text)
      (printed : Prints (lineChunks text) t result) :
      CarriedOut p line t (result.map fun _ => true)
  /-- There is nothing to broadcast in the file. -/
  | rejected {path : String} {content : Except FileFault Bytes} {fault : BroadcastFault}
      {t : Transcript} {result : Except Stop Unit}
      (command : Command.ofLine line = .send path)
      (faulty : Broadcast.ofRead (Utf8.encode path) content = .error fault)
      (printed : Prints (lineChunks ("Error: " ++ fault.message)) t result) :
      CarriedOut p line
        (⟨.readFile (Utf8.encode path), content⟩ ::
          (p.logger.noted .debug "rejected broadcast"
            [("path", Utf8.decodeLossy (Utf8.encode path)), ("err", fault.message)] ++ t))
        (result.map fun _ => true)
  /-- The broadcast cannot be shown. -/
  | unshown (o : Offer) {t : Transcript} {stop : Stop} (offered : o.command = line)
      (printed : Prints (display o.body) t (.error stop)) :
      CarriedOut p line (o.loaded :: t) (.error stop)
  /-- The broadcast is shown and answered. -/
  | answered (o : Offer) {answer : LineAnswer} {t : Transcript} {result : Except Stop Unit}
      (offered : o.command = line) (rest : Answered p o.body answer t result) :
      CarriedOut p line
        (o.loaded :: ((display o.body).flatMap shown ++ ⟨.readLine, answer⟩ :: t))
        (result.map fun _ => true)

/-- What a round can be, and whether there may be another one. -/
inductive Turn (p : Publisher) : Transcript → Except Stop Bool → Prop
  /-- The prompt cannot be shown. -/
  | unprompted {t : Transcript} {stop : Stop}
      (printed : Prints [Utf8.encode Terminal.commandPrompt] t (.error stop)) :
      Turn p t (.error stop)
  /-- There is no answer to the prompt. -/
  | stopped {answer : LineAnswer} {stop : Stop} (outcome : answer.outcome = .error stop) :
      Turn p (asked answer) (.error stop)
  | ended : Turn p (asked .endOfInput) (.ok false)
  | command {line : String} {t : Transcript} {result : Except Stop Bool}
      (rest : CarriedOut p line t result) : Turn p (asked (.line line) ++ t) result

/-- How a round can go that a shutdown can come before. -/
abbrev Pass (p : Publisher) : Transcript → Except Stop Bool → Prop :=
  Session.Passes (Turn p) (.error .shutdown)

/-- How rounds can follow each other, at most so many of them, and how that ends. -/
inductive Rounds (p : Publisher) : Nat → Transcript → Except Error Unit → Prop
  | spent : Rounds p 0 [] (.ok ())
  | again {budget : Nat} {t₁ t₂ : Transcript} {value : Except Error Unit}
      (pass : Pass p t₁ (.ok true)) (later : Rounds p budget t₂ value) :
      Rounds p (budget + 1) (t₁ ++ t₂) value
  | finished {budget : Nat} {t : Transcript} (pass : Pass p t (.ok false)) :
      Rounds p (budget + 1) t (.ok ())
  | shutdown {budget : Nat} {t : Transcript} (pass : Pass p t (.error .shutdown)) :
      Rounds p (budget + 1) (t ++ p.logger.noted .info "shutting down" []) (.ok ())
  | failed {budget : Nat} {t : Transcript} {error : Error}
      (pass : Pass p t (.error (.failed error))) : Rounds p (budget + 1) t (.error error)

/-! ## From the publisher to its turns -/

theorem follows_publish {payload : Bytes} {result : Except Stop Unit} :
    Attempt.Follows (p.publish payload) t result ↔
      ∃ reaction : SendAnswer,
        t = p.logger.noted .debug "publishing" [("bytes", Text.decimal payload.length)] ++
          [⟨.send payload, reaction⟩] ∧
        result = reaction.outcome (.send p.endpoint) :=
  Attempt.follows_note_send

theorem answered_iff_of_stopped {body : String} {answer : LineAnswer} {stop : Stop}
    {result : Except Stop Unit} (outcome : answer.outcome = .error stop) :
    Answered p body answer t result ↔ t = [] ∧ result = .error stop := by
  constructor
  · rintro (⟨same⟩ | ⟨other, -, -⟩ | ⟨confirms, -⟩ | ⟨confirms, -⟩)
    · cases outcome.symm.trans same
      exact ⟨rfl, rfl⟩
    · cases outcome.symm.trans other
    all_goals cases answer <;> contradiction
  · rintro ⟨rfl, rfl⟩
    exact .stopped outcome

theorem answered_iff_of_declined {body : String} {answer : LineAnswer} {reply : Option String}
    {result : Except Stop Unit} (outcome : answer.outcome = .ok reply)
    (declines : ¬ Confirms answer) :
    Answered p body answer t result ↔ Prints (lineChunks "Message not sent.") t result := by
  constructor
  · rintro (⟨other⟩ | ⟨-, -, printed⟩ | ⟨confirms, -⟩ | ⟨confirms, -⟩)
    · cases outcome.symm.trans other
    · exact printed
    all_goals exact absurd confirms declines
  · exact .declined outcome declines

/-- A confirmed broadcast goes out, and that is told if the transport took it. -/
theorem answered_iff_of_confirmed {body : String} {answer : LineAnswer}
    {result : Except Stop Unit} (confirms : Confirms answer) :
    Answered p body answer t result ↔
      Attempt.Follows
        (do
          p.publish (Utf8.encode body)
          Terminal.writeLine "Message sent!")
        t result := by
  rw [Attempt.follows_bind]
  constructor
  · rintro (⟨outcome⟩ | ⟨-, declines, -⟩ | ⟨-, untaken⟩ | ⟨-, printed⟩)
    · cases answer <;> contradiction
    · exact absurd confirms declines
    · exact .inl ⟨_, follows_publish.mpr ⟨_, rfl, untaken.symm⟩, rfl⟩
    · refine .inr ⟨(), _, _, ?_, follows_publish.mpr ⟨.taken, rfl, rfl⟩,
        Terminal.follows_writeLine.mpr printed⟩
      rw [List.append_assoc]
      rfl
  · rintro (⟨stop, first, rfl⟩ | ⟨⟨⟩, t₁, t₂, rfl, first, second⟩)
    · obtain ⟨reaction, rfl, untaken⟩ := follows_publish.mp first
      exact .refused confirms untaken.symm
    · obtain ⟨_ | _ | _, rfl, ⟨⟩⟩ := follows_publish.mp first
      rw [List.append_assoc]
      exact .published confirms (Terminal.follows_writeLine.mp second)

theorem follows_offer {body : String} {result : Except Stop Unit} :
    Attempt.Follows (p.offer body) t result ↔
      Terminal.PrintsThen (display body)
        (fun rest result => ∃ answer later, rest = ⟨.readLine, answer⟩ :: later ∧
          Answered p body answer later result)
        t result := by
  unfold offer display
  rw [Terminal.follows_prints_bind Terminal.follows_writeLine, Terminal.printsThen_append_iff]
  refine Terminal.printsThen_congr fun t result => ?_
  rw [Terminal.follows_prints_bind Terminal.follows_writeLine, Terminal.printsThen_append_iff]
  refine Terminal.printsThen_congr fun t result => ?_
  rw [Terminal.follows_prompt_bind]
  refine Terminal.printsThen_congr fun t result => ?_
  refine exists_congr fun answer => exists_congr fun rest => and_congr_right' ?_
  cases outcome : answer.outcome with
  | error stop => simp [answered_iff_of_stopped outcome]
  | ok reply =>
    simp only [Except.ok.injEq, exists_eq_left', reduceCtorEq, false_and, exists_false, false_or]
    cases answer with
    | line text =>
      cases outcome
      dsimp only
      by_cases same : String.ofList (Text.trim text.toList) = confirmation
      · have confirms : Confirms (.line text) := same
        rw [answered_iff_of_confirmed confirms, if_pos same]
      · have declines : ¬ Confirms (.line text) := same
        rw [answered_iff_of_declined rfl declines, if_neg same]
        exact Terminal.follows_writeLine
    | endOfInput =>
      cases outcome
      have declines : ¬ Confirms .endOfInput := id
      rw [answered_iff_of_declined rfl declines]
      exact Terminal.follows_writeLine
    | fault reason => cases outcome
    | interrupted => cases outcome

theorem follows_sendFile {path : Bytes} {result : Except Stop Unit} :
    Attempt.Follows (p.sendFile path) t result ↔
      ∃ content rest, t = ⟨.readFile path, content⟩ :: rest ∧
        ((∃ body, Broadcast.ofRead path content = .ok body ∧
            Attempt.Follows (p.offer body) rest result) ∨
          ∃ fault later, Broadcast.ofRead path content = .error fault ∧
            rest = p.logger.noted .debug "rejected broadcast"
              [("path", Utf8.decodeLossy path), ("err", fault.message)] ++ later ∧
            Prints (lineChunks ("Error: " ++ fault.message)) later result) := by
  unfold sendFile
  rw [Attempt.follows_perform_bind]
  refine exists_congr fun content => exists_congr fun rest => and_congr_right' ?_
  cases loaded : Broadcast.ofRead path content with
  | ok body => simp
  | error fault => simp [Attempt.follows_note_bind, Terminal.follows_writeLine]

theorem carriedOut_iff_of_notice {line text : String} {result : Except Stop Bool}
    (notice : (Command.ofLine line).notice? = some text) :
    CarriedOut p line t result ↔
      Attempt.Follows (do Terminal.writeLine text; return true) t result := by
  rw [Attempt.follows_bind_pure]
  simp only [Terminal.follows_writeLine]
  constructor
  · rintro (⟨command⟩ | ⟨same, printed⟩ | ⟨command, -, -⟩ | ⟨o, rfl, -⟩ | ⟨o, rfl, -⟩)
    · simp [command, Command.notice?] at notice
    · cases notice.symm.trans same
      exact ⟨_, printed, rfl⟩
    · simp [command, Command.notice?] at notice
    · simp [o.ofLine_command, Command.notice?] at notice
    · simp [o.ofLine_command, Command.notice?] at notice
  · rintro ⟨ended, printed, rfl⟩
    exact .noticed notice printed

theorem carriedOut_iff_of_quit {line : String} {result : Except Stop Bool}
    (command : Command.ofLine line = .quit) :
    CarriedOut p line t result ↔ t = [] ∧ result = .ok false := by
  constructor
  · rintro (⟨-⟩ | ⟨same, printed⟩ | ⟨other, -, -⟩ | ⟨o, rfl, -⟩ | ⟨o, rfl, -⟩)
    · exact ⟨rfl, rfl⟩
    · simp [command, Command.notice?] at same
    · simp [command] at other
    · simp [o.ofLine_command] at command
    · simp [o.ofLine_command] at command
  · rintro ⟨rfl, rfl⟩
    exact .quit command

theorem carriedOut_iff_of_send {line path : String} {result : Except Stop Bool}
    (command : Command.ofLine line = .send path) :
    CarriedOut p line t result ↔
      Attempt.Follows (do p.sendFile (Utf8.encode path); return true) t result := by
  rw [Attempt.follows_bind_pure]
  simp only [follows_sendFile, follows_offer]
  constructor
  · rintro (⟨other⟩ | ⟨notice, -⟩ | ⟨same, faulty, printed⟩ | ⟨o, rfl, printed⟩ |
      ⟨o, rfl, rest⟩)
    · simp [command] at other
    · simp [command, Command.notice?] at notice
    · cases command.symm.trans same
      exact ⟨_, ⟨_, _, rfl, .inr ⟨_, _, faulty, rfl, printed⟩⟩, rfl⟩
    · cases command.symm.trans o.ofLine_command
      exact ⟨_, ⟨_, _, rfl, .inl ⟨_, o.ofContent_content, .inl ⟨_, printed, rfl⟩⟩⟩, rfl⟩
    · cases command.symm.trans o.ofLine_command
      exact ⟨_, ⟨_, _, rfl, .inl ⟨_, o.ofContent_content, .inr ⟨_, rfl, _, _, rfl, rest⟩⟩⟩, rfl⟩
  · rintro ⟨ended, ⟨content, rest, rfl, ⟨body, loaded, shows⟩ |
      ⟨fault, later, faulty, rfl, printed⟩⟩, rfl⟩
    · obtain ⟨raw, rfl, valid⟩ := Broadcast.ofRead_eq_ok loaded
      let o : Offer := ⟨line, path, raw, body, command, valid⟩
      rcases shows with ⟨stop, printed, rfl⟩ | ⟨_, rfl, answer, later, rfl, rest⟩
      · exact .unshown o rfl printed
      · exact .answered o rfl rest
    · exact .rejected command faulty printed

/-- A prompt and what is gone on with make a turn, if they end at the end of the input and
carry out a command. -/
theorem printsThen_hears_iff {next : Option String → Attempt Bool} {result : Except Stop Bool}
    (ends : ∀ {t result}, Attempt.Follows (next none) t result ↔ t = [] ∧ result = .ok false)
    (carriesOut : ∀ {line t result},
      Attempt.Follows (next (some line)) t result ↔ CarriedOut p line t result) :
    Terminal.PrintsThen [Utf8.encode Terminal.commandPrompt] (Terminal.Hears next) t result ↔
      Turn p t result := by
  constructor
  · rintro (⟨stop, printed, rfl⟩ |
      ⟨_, rfl, answer, rest, rfl, ⟨stop, outcome, rfl, rfl⟩ | ⟨reply, outcome, follows⟩⟩)
    · exact .unprompted printed
    · exact .stopped outcome
    · cases answer with
      | line text =>
        cases outcome
        exact .command (carriesOut.mp follows)
      | endOfInput =>
        cases outcome
        obtain ⟨rfl, rfl⟩ := ends.mp follows
        exact .ended
      | fault reason => cases outcome
      | interrupted => cases outcome
  · intro turn
    cases turn with
    | unprompted printed => exact .inl ⟨_, printed, rfl⟩
    | @stopped answer stop outcome =>
      exact .inr ⟨_, rfl, answer, [], rfl, .inl ⟨stop, outcome, rfl, rfl⟩⟩
    | ended => exact .inr ⟨_, rfl, .endOfInput, [], rfl, .inr ⟨none, rfl, ends.mpr ⟨rfl, rfl⟩⟩⟩
    | @command line rest _ follows =>
      exact .inr ⟨_, rfl, .line line, rest, rfl, .inr ⟨some line, rfl, carriesOut.mpr follows⟩⟩

/-- The transcripts of a round are its turns. -/
theorem follows_round_iff {result : Except Stop Bool} :
    Attempt.Follows p.round t result ↔ Turn p t result := by
  unfold round
  rw [Terminal.follows_prompt_bind]
  refine printsThen_hears_iff Attempt.follows_pure fun {line t result} => ?_
  dsimp only
  cases command : Command.ofLine line with
  | help => exact (carriedOut_iff_of_notice (by rw [command]; rfl)).symm
  | quit => exact Attempt.follows_pure.trans (carriedOut_iff_of_quit command).symm
  | send path => exact (carriedOut_iff_of_send command).symm
  | missingFile => exact (carriedOut_iff_of_notice (by rw [command]; rfl)).symm
  | unknown text => exact (carriedOut_iff_of_notice (by rw [command]; rfl)).symm

theorem follows_pass_iff {result : Except Stop Bool} :
    (Session.pass (.error .shutdown) p.round.run).Follows t result ↔ Pass p t result :=
  Session.follows_pass follows_round_iff

/-- The transcripts of several rounds are turns in a row. -/
theorem follows_rounds_iff {budget : Nat} {value : Except Error Unit} :
    (p.rounds budget).Follows t value ↔ Rounds p budget t value := by
  induction budget generalizing t with
  | zero =>
    constructor
    · rintro ⟨rfl, rfl⟩
      exact .spent
    · rintro ⟨⟩
      exact ⟨rfl, rfl⟩
  | succ budget ih =>
    rw [rounds, Session.follows_bind]
    constructor
    · rintro ⟨result, t₁, t₂, rfl, first, later⟩
      have pass : Pass p t₁ result := follows_pass_iff.mp first
      match result, pass, later with
      | .ok true, pass, later => exact .again pass (ih.mp later)
      | .ok false, pass, later =>
        obtain ⟨rfl, rfl⟩ := later
        rw [List.append_nil]
        exact .finished pass
      | .error .shutdown, pass, later =>
        obtain ⟨⟨⟩, t₃, t₄, rfl, noted, rfl, rfl⟩ := Session.follows_bind.mp later
        rw [Session.follows_note.mp noted, List.append_nil]
        exact .shutdown pass
      | .error (.failed error), pass, later =>
        obtain ⟨rfl, rfl⟩ := later
        rw [List.append_nil]
        exact .failed pass
    · rintro (_ | ⟨pass, later⟩ | ⟨pass⟩ | ⟨pass⟩ | ⟨pass⟩)
      · exact ⟨_, _, _, rfl, follows_pass_iff.mpr pass, ih.mpr later⟩
      · exact ⟨_, t, [], by simp, follows_pass_iff.mpr pass, rfl, rfl⟩
      · refine ⟨_, _, _, rfl, follows_pass_iff.mpr pass, ?_⟩
        exact Session.follows_bind.mpr ⟨(), _, [], by simp, Session.follows_note.mpr rfl, rfl, rfl⟩
      · exact ⟨_, t, [], by simp, follows_pass_iff.mpr pass, rfl, rfl⟩

/-- What closing the channel leaves in a transcript. -/
def closing (p : Publisher) (faults : List TransportFault) : Transcript :=
  p.logger.closing "error while closing publisher" "publisher closed" faults

/-- A run is rounds and then the closing of the channel. -/
theorem follows_run_iff {budget : Nat} {value : Except Error Unit} :
    (p.run budget).Follows t value ↔
      ∃ rest faults, Rounds p budget rest value ∧ t = rest ++ p.closing faults := by
  rw [run, close, Session.follows_bind_after]
  simp only [follows_rounds_iff, Session.follows_close]
  constructor
  · rintro ⟨rest, last, rfl, rounds, faults, rfl⟩
    exact ⟨rest, faults, rounds, rfl⟩
  · rintro ⟨rest, faults, rounds, rfl⟩
    exact ⟨rest, p.closing faults, rfl, rounds, faults, rfl⟩

end Publisher

end MessagingConsole
