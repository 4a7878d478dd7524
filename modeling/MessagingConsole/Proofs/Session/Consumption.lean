import MessagingConsole.Proofs.Console.Answers
import MessagingConsole.Proofs.Session.Traffic

/-!
# What a transcript uses up

Every line that a client hears is cut off from the input of the console, and no exchange
gives anything back.  So the lines of a transcript are no more than the octets that were
there, whatever else happens in it, which bounds the turns of every client that asks for
a line before it goes on.  In the same way the messages of a transcript are no more than the
arrivals of the link, which bounds the turns of a client that waits for a message.

## Main Definitions

- `Transcript.heard` - how many lines a transcript heard.

## Main Results

- `Environment.Gives.heard_le_unread` - they are no more than the octets of the input.
- `Environment.Gives.received_le` - the messages are no more than the arrivals.
- `Environment.Gives.budget_le` - no transcript raises the budget of what follows it.
-/

namespace MessagingConsole

/-- Whether an exchange brings a line of the console. -/
def Exchange.isLine : Exchange → Bool
  | ⟨.readLine, .line _⟩ => true
  | _ => false

/-- How many lines a transcript heard. -/
def Transcript.heard (t : Transcript) : Nat := t.countP Exchange.isLine

namespace Transcript

@[simp] theorem heard_append (t₁ t₂ : Transcript) : heard (t₁ ++ t₂) = t₁.heard + t₂.heard :=
  List.countP_append

@[simp] theorem heard_turn_cons (answer : TurnAnswer) (t : Transcript) :
    heard (⟨.turn, answer⟩ :: t) = t.heard := rfl

theorem heard_asked_line (line : String) : heard (Terminal.asked (.line line)) = 1 := rfl

end Transcript

namespace Environment

variable {env final : Environment} {t : Transcript}

/-- An answer that is a line takes an octet, and no answer gives one back. -/
theorem unread_answer (env : Environment) (operation : Operation) :
    (env.answer operation).2.unread +
        Transcript.heard [⟨operation, (env.answer operation).1⟩] ≤ env.unread := by
  cases operation with
  | readLine =>
    have used := env.reader.unread_next env.source
    have cost (answer : LineAnswer) : Transcript.heard [⟨.readLine, answer⟩] = answer.cost := by
      cases answer <;> rfl
    rw [cost]
    exact used
  | _ => exact Nat.le_refl _

/-- **The lines of a transcript are no more than the octets of the input.** -/
theorem Gives.heard_le_unread (gives : env.Gives t final) :
    final.unread + t.heard ≤ env.unread := by
  induction t generalizing env with
  | nil =>
    cases gives
    exact Nat.le_refl _
  | cons e rest ih =>
    obtain ⟨operation, answer⟩ := e
    obtain ⟨rfl, later⟩ := gives_cons.mp gives
    have now := unread_answer env operation
    have after := ih later
    rw [← List.singleton_append, Transcript.heard_append]
    omega

/-- A message that is received is one of the arrivals of the link, which is gone then. -/
theorem arrivals_answer (env : Environment) (operation : Operation) :
    (env.answer operation).2.link.arrivals.length +
        (Transcript.received [⟨operation, (env.answer operation).1⟩]).length ≤
      env.link.arrivals.length := by
  cases operation with
  | receive =>
    simp only [answer, Link.receive]
    split
    case h_1 => cases env.link.arrivalsAfter <;> simp [Quiet.answer, Exchange.received?]
    case h_2 arrival rest brings =>
      rw [brings]
      rcases arrival with message | fault | _
      · simp
      · simp [Arrival.answer, Quiet.answer, Exchange.received?]
      · simp [Arrival.answer, Quiet.answer, Exchange.received?]
  | send payload =>
    simp only [answer, Link.send]
    split <;> simp
  | _ => simp [answer, Exchange.received?]

/-- **The messages of a transcript are no more than the arrivals of the link.** -/
theorem Gives.received_le (gives : env.Gives t final) :
    final.link.arrivals.length + t.received.length ≤ env.link.arrivals.length := by
  induction t generalizing env with
  | nil =>
    cases gives
    exact Nat.le_refl _
  | cons e rest ih =>
    obtain ⟨operation, answer⟩ := e
    obtain ⟨rfl, later⟩ := gives_cons.mp gives
    have now := arrivals_answer env operation
    have after := ih later
    rw [← List.singleton_append, Transcript.received_append, List.length_append]
    omega

/-- What a transcript leaves of the input and of the arrivals allows no more turns than
before it. -/
theorem Gives.budget_le (gives : env.Gives t final) : final.budget ≤ env.budget := by
  have unread := gives.heard_le_unread
  have arrivals := gives.received_le
  unfold budget
  omega

end Environment

end MessagingConsole
