import MessagingConsole.Proofs.Requester.Turns
import MessagingConsole.Proofs.Session.Consumption
import MessagingConsole.Proofs.Session.Stopping

/-!
# How a run of a requester ends

A turn is stopped by its last exchange or by none, so that a run heeds what stops it: an
output that fails, a line or a reply that does not come, a request that is not taken.  And
a run always ends by itself, since two turns use up a line: a budget beyond what the input
allows changes nothing.

## Main Results

- `Turn.halts` and `heeds_run` - what stops a requester is the last thing it does.
- `run_eq_runIn` - a run does not depend on its budget.
-/

namespace MessagingConsole.Requester

variable {r : Requester} {t : Transcript} {state : State} {stepped : Stepped}

/-! ## What stops a requester -/

theorem stop?_receive (endpoint : Endpoint) (answer : ReceiveAnswer) :
    Exchange.stop? endpoint ⟨.receive, answer⟩ = Attempt.stopOf (answer.outcome endpoint) := by
  cases answer <;> rfl

/-- A turn is stopped by its last exchange, or by none. -/
theorem Turn.halts (turn : Turn r state t stepped) : Halts r.endpoint t stepped.stop := by
  have record (line : String) : Unstopped r.endpoint (r.sending line) := unstopped_noted
  cases turn with
  | unprompted printed => exact printed.halts
  | stopped outcome => exact halts_asked outcome
  | ended => exact .unstopped (unstopped_append.mpr ⟨unstopped_asked rfl, unstopped_noted⟩)
  | sent line =>
    have taken : Unstopped r.endpoint [⟨.send (Utf8.encode line), .taken⟩] :=
      unstopped_cons.mpr ⟨rfl, unstopped_nil⟩
    have tail := unstopped_append.mpr ⟨record line, taken⟩
    exact .unstopped (unstopped_append.mpr ⟨unstopped_asked rfl, tail⟩)
  | @unsent line answer stop untaken =>
    have stops : Exchange.stop? r.endpoint ⟨.send (Utf8.encode line), answer⟩ = some stop := by
      rw [Exchange.stop?_send, untaken]
      rfl
    exact .append (unstopped_asked rfl) (.stopped (record line) stops)
  | @unanswered answer stop outcome =>
    have stops : Exchange.stop? r.endpoint ⟨.receive, answer⟩ = some stop := by
      rw [stop?_receive, outcome]
      rfl
    exact .stopped unstopped_nil stops
  | replied message =>
    have shown := unstopped_shown r.endpoint message.payload
    exact .unstopped
      (unstopped_cons.mpr ⟨rfl, unstopped_append.mpr ⟨unstopped_noted, shown⟩⟩)
  | @unprinted message rest stop printed =>
    have front : Unstopped r.endpoint (⟨.receive, .message message⟩ :: r.receiving message) :=
      unstopped_cons.mpr ⟨rfl, unstopped_noted⟩
    rw [← List.cons_append]
    exact .append front printed.halts
  | finished => exact .unstopped unstopped_nil

theorem Pass.halts (pass : Pass r state t stepped) : Halts r.endpoint t stepped.stop :=
  Session.Passes.halts pass rfl Turn.halts

/-- Turns in a row and the closing of the channel heed what stops them. -/
theorem Turns.heeds {budget : Nat} {value : Except Error Unit}
    (turns : Turns r budget state t value) (faults : List TransportFault) :
    Heeds r.endpoint (t ++ r.closing faults) value := by
  have closed : Unstopped r.endpoint (r.closing faults) :=
    fun e mem => Exchange.stop?_of_isClosing _ (isClosing_closing e mem)
  induction turns with
  | spent state => exact heeds_of_unstopped closed
  | again pass goes later ih =>
    rw [List.append_assoc]
    exact .append pass.halts.unstopped_of_none ih
  | finished pass =>
    exact heeds_of_unstopped (unstopped_append.mpr ⟨pass.halts.unstopped_of_none, closed⟩)
  | shutdown pass =>
    rw [List.append_assoc]
    refine pass.halts.heeds ?_ ⟨_, rfl⟩
    exact List.forall_mem_append.mpr ⟨isClosing_noted, isClosing_closing⟩
  | failed pass => exact pass.halts.heeds isClosing_closing rfl

/-- **After what stops it, a requester only closes its channel.** -/
theorem heeds_run {budget : Nat} {value : Except Error Unit}
    (follows : (r.run budget).Follows t value) : Heeds r.endpoint t value := by
  obtain ⟨rest, faults, turns, rfl⟩ := follows_run_iff.mp follows
  exact turns.heeds faults

/-! ## The budget of turns -/

/-- Turns that can still come before the next line is heard. -/
def State.lead : State → Nat
  | .awaitingReply => 1
  | _ => 0

/-- A turn that goes on hears a line, or leads to a turn that does. -/
theorem Turn.lead_le {next : State} (turn : Turn r state t ⟨next, none⟩)
    (goes : next ≠ .terminated) : next.lead + 1 ≤ 2 * t.heard + state.lead := by
  cases turn with
  | ended => exact absurd rfl goes
  | sent line =>
    have heard := Transcript.heard_append (Terminal.asked (.line line))
      (r.sending line ++ [⟨.send (Utf8.encode line), .taken⟩])
    rw [Transcript.heard_asked_line] at heard
    split <;> simp only [State.lead] <;> omega
  | replied message => simp [State.lead]
  | finished => exact absurd rfl goes

theorem Pass.lead_le {next : State} (pass : Pass r state t ⟨next, none⟩)
    (goes : next ≠ .terminated) : next.lead + 1 ≤ 2 * t.heard + state.lead := by
  obtain ⟨rest, rfl, turn⟩ := pass.exists_begun nofun
  exact turn.lead_le goes

/-- Turns that end within their budget are turns within every other budget that the lines
they heard allow. -/
theorem Turns.rebudget {budget other : Nat} {value : Except Error Unit}
    (turns : Turns r budget state t value) (enough : 2 * t.heard + state.lead < budget)
    (enough' : 2 * t.heard + state.lead < other) : Turns r other state t value := by
  induction turns generalizing other with
  | spent state => exact absurd enough (Nat.not_lt_zero _)
  | again pass goes later ih =>
    obtain ⟨other, rfl⟩ := Nat.exists_eq_add_one.mpr (Nat.zero_lt_of_lt enough')
    have used := pass.lead_le goes
    rw [Transcript.heard_append] at enough enough'
    exact .again pass goes (ih (by omega) (by omega))
  | finished pass =>
    obtain ⟨other, rfl⟩ := Nat.exists_eq_add_one.mpr (Nat.zero_lt_of_lt enough')
    exact .finished pass
  | shutdown pass =>
    obtain ⟨other, rfl⟩ := Nat.exists_eq_add_one.mpr (Nat.zero_lt_of_lt enough')
    exact .shutdown pass
  | failed pass =>
    obtain ⟨other, rfl⟩ := Nat.exists_eq_add_one.mpr (Nat.zero_lt_of_lt enough')
    exact .failed pass

/-- **A run does not depend on its budget**, once that is what the input allows. -/
theorem run_eq_runIn (r : Requester) (env : Environment) {budget : Nat}
    (enough : env.budget ≤ budget) : (r.run budget).run env = r.runIn env := by
  have follows := (r.run env.budget).follows_run env
  have gives := (r.run env.budget).gives_run env
  obtain ⟨rest, faults, turns, whole⟩ := follows_run_iff.mp follows
  have few := gives.heard_le_unread
  rw [whole, Transcript.heard_append] at few
  have short : 2 * rest.heard + State.lead .awaitingInput < env.budget := by
    simp only [State.lead, Environment.budget]
    omega
  have turns' := turns.rebudget short (Nat.lt_of_lt_of_le short enough)
  have follows' := follows_run_iff.mpr ⟨rest, faults, turns', whole⟩
  rw [Session.run_eq_iff.mpr ⟨follows', gives⟩]
  rfl

end MessagingConsole.Requester
