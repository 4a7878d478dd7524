import MessagingConsole.Proofs.Session.Stopping
import MessagingConsole.Subscriber

/-!
# The turns of a subscriber

What printing one message can look like from outside.  A subscriber waits until a message
comes that its filter accepts, past any number of others, and prints that; waiting can be
stopped at every message, and printing at every exchange.  `Reception` has one constructor
for each way in which waiting goes on or ends, and `Turns` one for each way in which a turn
does, so that a fact about all runs is proved by cases and no proof opens the subscriber
again.

## Main Definitions

- `Reception` - how waiting for a message can go.
- `Turn` - what printing a message can be, and `Turns`, turns in a row.

## Main Results

- `follows_receive_iff` and `follows_printAll_iff` - the transcripts of a subscriber.
- `heeds_printAll` - what stops a subscriber is the last thing it does.
-/

namespace MessagingConsole.Subscriber

open Terminal (Prints shown)

variable {s : Subscriber} {format : LineFormat} {t : Transcript}

/-- The record of a message that the filter accepts. -/
def taking (s : Subscriber) (message : Message) : Transcript :=
  s.logger.noted .trace "received message" [("bytes", Text.decimal message.payload.length)]

/-- The record of a message that the filter does not accept. -/
def dropping (s : Subscriber) : Transcript :=
  s.logger.noted .debug "dropping message outside filter" []

/-- How waiting for a message can go, past at most so many others. -/
inductive Reception (s : Subscriber) : Nat → Transcript → Except Stop Message → Prop
  | spent : Reception s 0 [] (.error .shutdown)
  /-- No message comes. -/
  | unanswered {budget : Nat} {answer : ReceiveAnswer} {stop : Stop}
      (stops : Exchange.stop? s.endpoint ⟨.receive, answer⟩ = some stop) :
      Reception s (budget + 1) [⟨.receive, answer⟩] (.error stop)
  /-- The filter accepts the message. -/
  | accepted {budget : Nat} {message : Message} (accepts : s.filter.accepts message.topic) :
      Reception s (budget + 1) (⟨.receive, .message message⟩ :: s.taking message) (.ok message)
  /-- The filter does not accept the message, and the next one is waited for. -/
  | dropped {budget : Nat} {message : Message} {t : Transcript} {result : Except Stop Message}
      (rejects : ¬ s.filter.accepts message.topic) (later : Reception s budget t result) :
      Reception s (budget + 1) (⟨.receive, .message message⟩ :: (s.dropping ++ t)) result

/-- What printing the next message can be. -/
inductive Turn (s : Subscriber) (format : LineFormat) (budget : Nat) :
    Transcript → Except Stop Unit → Prop
  | stopped {t : Transcript} {stop : Stop} (reception : Reception s budget t (.error stop)) :
      Turn s format budget t (.error stop)
  | received {message : Message} {t₁ t₂ : Transcript} {result : Except Stop Unit}
      (reception : Reception s budget t₁ (.ok message))
      (printed : Prints [Utf8.encode (format.render message)] t₂ result) :
      Turn s format budget (t₁ ++ t₂) result

/-- How turns can follow each other, at most so many of them, and how that ends.  The second
number counts the messages that were printed before. -/
inductive Turns (s : Subscriber) (format : LineFormat) :
    Nat → Nat → Transcript → Except Error Nat → Prop
  | spent (printed : Nat) : Turns s format 0 printed [] (.ok printed)
  | again {budget printed : Nat} {t₁ t₂ : Transcript} {value : Except Error Nat}
      (turn : Turn s format (budget + 1) t₁ (.ok ()))
      (later : Turns s format budget (printed + 1) t₂ value) :
      Turns s format (budget + 1) printed (t₁ ++ t₂) value
  | shutdown {budget printed : Nat} {t : Transcript}
      (turn : Turn s format (budget + 1) t (.error .shutdown)) :
      Turns s format (budget + 1) printed
        (t ++ s.logger.noted .info "shutting down" [("printed", Text.decimal printed)])
        (.ok printed)
  | failed {budget printed : Nat} {t : Transcript} {error : Error}
      (turn : Turn s format (budget + 1) t (.error (.failed error))) :
      Turns s format (budget + 1) printed t (.error error)

/-! ## From the subscriber to its turns -/

/-- Waiting goes on after a message that the filter does not accept. -/
theorem follows_message_iff {budget : Nat} {message : Message} {result : Except Stop Message}
    (ih : ∀ {t result}, Attempt.Follows (s.receive budget) t result ↔ Reception s budget t result) :
    Attempt.Follows
        (if s.filter.accepts message.topic then do
          Session.note s.logger .trace "received message"
            [("bytes", Text.decimal message.payload.length)]
          return message
        else do
          Session.note s.logger .debug "dropping message outside filter" []
          s.receive budget)
        t result ↔
      Reception s (budget + 1) (⟨.receive, .message message⟩ :: t) result := by
  by_cases accepts : s.filter.accepts message.topic
  · rw [if_pos accepts, Attempt.follows_note_pure]
    constructor
    · rintro ⟨rfl, rfl⟩
      exact .accepted accepts
    · intro reception
      cases reception with
      | unanswered stops => cases stops
      | accepted => exact ⟨rfl, rfl⟩
      | dropped rejects => exact absurd accepts rejects
  · rw [if_neg accepts, Attempt.follows_note_bind]
    simp only [ih]
    constructor
    · rintro ⟨rest, rfl, later⟩
      exact .dropped accepts later
    · intro reception
      cases reception with
      | unanswered stops => cases stops
      | accepted accepts' => exact absurd accepts' accepts
      | dropped rejects later => exact ⟨_, rfl, later⟩

/-- The transcripts of waiting for a message are its receptions. -/
theorem follows_receive_iff {budget : Nat} {result : Except Stop Message} :
    Attempt.Follows (s.receive budget) t result ↔ Reception s budget t result := by
  induction budget generalizing t result with
  | zero =>
    rw [receive, Attempt.follows_throw]
    constructor
    · rintro ⟨rfl, rfl⟩
      exact .spent
    · rintro ⟨⟩
      exact ⟨rfl, rfl⟩
  | succ budget ih =>
    rw [receive, Attempt.follows_perform_bind]
    constructor
    · rintro ⟨answer, rest, rfl, follows⟩
      cases answer with
      | message message => exact (follows_message_iff ih).mp follows
      | fault fault =>
        obtain ⟨rfl, rfl⟩ := Attempt.follows_fail.mp follows
        exact .unanswered rfl
      | interrupted =>
        obtain ⟨rfl, rfl⟩ := Attempt.follows_throw.mp follows
        exact .unanswered rfl
    · intro reception
      cases reception with
      | @unanswered _ answer stop stops =>
        refine ⟨answer, [], rfl, ?_⟩
        cases answer with
        | message message => cases stops
        | fault fault =>
          cases stops
          exact Attempt.follows_fail.mpr ⟨rfl, rfl⟩
        | interrupted =>
          cases stops
          exact Attempt.follows_throw.mpr ⟨rfl, rfl⟩
      | @accepted _ message accepts =>
        exact ⟨.message message, _, rfl, (follows_message_iff ih).mpr (.accepted accepts)⟩
      | @dropped _ message rest _ rejects later =>
        exact ⟨.message message, _, rfl, (follows_message_iff ih).mpr (.dropped rejects later)⟩

/-- The transcripts of printing one message are its turns. -/
theorem follows_printNext_iff {budget : Nat} {result : Except Stop Unit} :
    Attempt.Follows (s.printNext format budget) t result ↔ Turn s format budget t result := by
  unfold printNext
  rw [Attempt.follows_bind]
  simp only [follows_receive_iff, Terminal.follows_write]
  constructor
  · rintro (⟨stop, reception, rfl⟩ | ⟨message, t₁, t₂, rfl, reception, printed⟩)
    · exact .stopped reception
    · exact .received reception printed
  · intro turn
    cases turn with
    | stopped reception => exact .inl ⟨_, reception, rfl⟩
    | received reception printed => exact .inr ⟨_, _, _, rfl, reception, printed⟩

/-- The transcripts of printing all messages are turns in a row. -/
theorem follows_printAll_iff {budget printed : Nat} {value : Except Error Nat} :
    (s.printAll format budget printed).Follows t value ↔
      Turns s format budget printed t value := by
  induction budget generalizing printed t with
  | zero =>
    constructor
    · rintro ⟨rfl, rfl⟩
      exact .spent printed
    · rintro ⟨⟩
      exact ⟨rfl, rfl⟩
  | succ budget ih =>
    rw [printAll, Session.follows_bind]
    constructor
    · rintro ⟨result, t₁, t₂, rfl, first, later⟩
      have turn : Turn s format (budget + 1) t₁ result := follows_printNext_iff.mp first
      match result, turn, later with
      | .ok (), turn, later => exact .again turn (ih.mp later)
      | .error .shutdown, turn, later =>
        obtain ⟨⟨⟩, t₃, t₄, rfl, noted, rfl, rfl⟩ := Session.follows_bind.mp later
        rw [Session.follows_note.mp noted, List.append_nil]
        exact .shutdown turn
      | .error (.failed error), turn, later =>
        obtain ⟨rfl, rfl⟩ := later
        rw [List.append_nil]
        exact .failed turn
    · intro turns
      cases turns with
      | again turn later => exact ⟨_, _, _, rfl, follows_printNext_iff.mpr turn, ih.mpr later⟩
      | shutdown turn =>
        refine ⟨_, _, _, rfl, follows_printNext_iff.mpr turn, ?_⟩
        exact Session.follows_bind.mpr ⟨(), _, [], by simp, Session.follows_note.mpr rfl, rfl, rfl⟩
      | failed turn => exact ⟨_, t, [], by simp, follows_printNext_iff.mpr turn, rfl, rfl⟩

/-! ## What stops a subscriber -/

theorem unstopped_message (message : Message) :
    Unstopped s.endpoint [⟨.receive, .message message⟩] :=
  unstopped_cons.mpr ⟨rfl, unstopped_nil⟩

/-- Waiting is stopped by its last exchange, or by none, unless its budget is spent. -/
theorem Reception.halts {budget : Nat} {result : Except Stop Message}
    (reception : Reception s budget t result) :
    Halts s.endpoint t (Attempt.stopOf result) ∨
      Unstopped s.endpoint t ∧ result = .error .shutdown := by
  induction reception with
  | spent => exact .inr ⟨unstopped_nil, rfl⟩
  | unanswered stops => exact .inl (.stopped unstopped_nil stops)
  | @accepted budget message accepts =>
    rw [← List.singleton_append]
    have front := unstopped_message (s := s) message
    exact .inl (.unstopped (unstopped_append.mpr ⟨front, unstopped_noted⟩))
  | @dropped budget message rest result rejects later ih =>
    rw [← List.singleton_append, ← List.append_assoc]
    have front : Unstopped s.endpoint ([⟨.receive, .message message⟩] ++ s.dropping) :=
      unstopped_append.mpr ⟨unstopped_message message, unstopped_noted⟩
    rcases ih with halts | ⟨unstopped, spent⟩
    · exact .inl (.append front halts)
    · exact .inr ⟨unstopped_append.mpr ⟨front, unstopped⟩, spent⟩

theorem Turn.halts {budget : Nat} {result : Except Stop Unit}
    (turn : Turn s format budget t result) :
    Halts s.endpoint t (Attempt.stopOf result) ∨
      Unstopped s.endpoint t ∧ result = .error .shutdown := by
  cases turn with
  | stopped reception =>
    rcases reception.halts with halts | ⟨unstopped, spent⟩
    · exact .inl halts
    · cases spent
      exact .inr ⟨unstopped, rfl⟩
  | received reception printed =>
    rcases reception.halts with halts | ⟨-, spent⟩
    · exact .inl (.append halts.unstopped_of_none printed.halts)
    · cases spent

/-- Turns in a row heed what stops them. -/
theorem Turns.heeds {budget printed : Nat} {value : Except Error Nat}
    (turns : Turns s format budget printed t value) : Heeds s.endpoint t value := by
  induction turns with
  | spent => exact heeds_of_unstopped unstopped_nil
  | again turn later ih =>
    rcases turn.halts with halts | ⟨-, spent⟩
    · exact .append halts.unstopped_of_none ih
    · cases spent
  | shutdown turn =>
    rcases turn.halts with halts | ⟨unstopped, -⟩
    · exact halts.heeds isClosing_noted ⟨_, rfl⟩
    · exact heeds_of_unstopped (unstopped_append.mpr ⟨unstopped, unstopped_noted⟩)
  | @failed budget printed rest error turn =>
    rcases turn.halts with halts | ⟨-, spent⟩
    · rw [← List.append_nil rest]
      exact halts.heeds (fun e mem => absurd mem List.not_mem_nil) rfl
    · cases spent

/-- **After what stops it, a subscriber only records that.** -/
theorem heeds_printAll {budget printed : Nat} {value : Except Error Nat}
    (follows : (s.printAll format budget printed).Follows t value) :
    Heeds s.endpoint t value :=
  (follows_printAll_iff.mp follows).heeds

end MessagingConsole.Subscriber
