import MessagingConsole.Proofs.Clients.Exits
import MessagingConsole.Proofs.Console.Remainder
import MessagingConsole.Proofs.Session.Responsiveness

/-!
# Sessions end

A publisher takes rounds and a requester takes steps until one of them is the last, and that
is not put off for ever: a round that may be followed by another one has heard a line, and so
has one of every two steps, and every line takes an octet of the input that is never there
again.  So the rounds of a session are no more than the octets of its input and one, and its
steps no more than twice the octets and one, however the input is delivered, and whatever
becomes of the output, the files and the messages.

Only a shutdown could end a session earlier, and where every read, every send and every receive
ends and no shutdown comes before a turn there is none.

## Main Definitions

- `Publisher.Lasts` and `Requester.Lasts` - a session that comes to its own end after so many
  rounds or steps.

## Main Results

- `Clients.sessions_end` - the bounds, and what pays for them.
-/

namespace MessagingConsole

variable {t : Transcript}

/-! ## The publisher -/

namespace Publisher

variable {p : Publisher}

/-- Rounds begin and follow each other, exactly so many of them: each but the last allows another
one, and the last ends the session or fails. -/
inductive Lasts (p : Publisher) : Nat → Transcript → Except Error Unit → Prop
  | again {count : Nat} {t₁ t₂ : Transcript} {value : Except Error Unit}
      (round : Attempt.Follows p.round t₁ (.ok true)) (later : Lasts p count t₂ value) :
      Lasts p (count + 1) (⟨.turn, .begun⟩ :: t₁ ++ t₂) value
  | finished {t : Transcript} (round : Attempt.Follows p.round t (.ok false)) :
      Lasts p 1 (⟨.turn, .begun⟩ :: t) (.ok ())
  | failed {t : Transcript} {error : Error}
      (round : Attempt.Follows p.round t (.error (.failed error))) :
      Lasts p 1 (⟨.turn, .begun⟩ :: t) (.error error)

/-- Rounds within a budget that the lines they heard do not use up come to their own end if
nothing shuts them down. -/
theorem Rounds.lasts {budget : Nat} {value : Except Error Unit}
    (rounds : Rounds p budget t value) (enough : t.heard < budget)
    (running : ∀ e ∈ t, e.stop? p.endpoint ≠ some .shutdown) :
    ∃ count, count ≤ t.heard + 1 ∧ p.Lasts count t value := by
  induction rounds with
  | spent => exact absurd enough (Nat.not_lt_zero _)
  | again pass later ih =>
    obtain ⟨-, still⟩ := List.forall_mem_append.mp running
    have used := pass.heard_pos
    rw [Transcript.heard_append] at enough ⊢
    obtain ⟨count, few, lasts⟩ := ih (by omega) still
    obtain ⟨rest, rfl, turn⟩ := pass.exists_begun nofun
    exact ⟨count + 1, by omega, .again (follows_round_iff.mpr turn) lasts⟩
  | finished pass =>
    obtain ⟨rest, rfl, turn⟩ := pass.exists_begun nofun
    exact ⟨1, Nat.le_add_left _ _, .finished (follows_round_iff.mpr turn)⟩
  | shutdown pass =>
    obtain ⟨stopped, -⟩ := List.forall_mem_append.mp running
    obtain ⟨e, mem, stops⟩ := pass.halts.exists_shutdown
    exact absurd stops (stopped e mem)
  | failed pass =>
    obtain ⟨rest, rfl, turn⟩ := pass.exists_begun nofun
    exact ⟨1, Nat.le_add_left _ _, .failed (follows_round_iff.mpr turn)⟩

end Publisher

/-! ## The requester -/

namespace Requester

variable {r : Requester} {state : State}

/-- Steps begin and follow each other, exactly so many of them: each but the last leads to a state
that is not the end, and the last leads to the end or fails. -/
inductive Lasts (r : Requester) : Nat → State → Transcript → Except Error Unit → Prop
  | again {count : Nat} {state next : State} {t₁ t₂ : Transcript} {value : Except Error Unit}
      (step : (r.step state).Follows t₁ ⟨next, none⟩) (goes : next ≠ .terminated)
      (later : Lasts r count next t₂ value) :
      Lasts r (count + 1) state (⟨.turn, .begun⟩ :: t₁ ++ t₂) value
  | finished {state : State} {t : Transcript}
      (step : (r.step state).Follows t ⟨.terminated, none⟩) :
      Lasts r 1 state (⟨.turn, .begun⟩ :: t) (.ok ())
  | failed {state next : State} {t : Transcript} {error : Error}
      (step : (r.step state).Follows t ⟨next, some (.failed error)⟩) :
      Lasts r 1 state (⟨.turn, .begun⟩ :: t) (.error error)

theorem Turns.lasts {budget : Nat} {value : Except Error Unit}
    (turns : Turns r budget state t value) (enough : 2 * t.heard + state.lead < budget)
    (running : ∀ e ∈ t, e.stop? r.endpoint ≠ some .shutdown) :
    ∃ count, count ≤ 2 * t.heard + state.lead + 1 ∧ r.Lasts count state t value := by
  induction turns with
  | spent state => exact absurd enough (Nat.not_lt_zero _)
  | again pass goes later ih =>
    obtain ⟨-, still⟩ := List.forall_mem_append.mp running
    have used := pass.lead_le goes
    rw [Transcript.heard_append] at enough ⊢
    obtain ⟨count, few, lasts⟩ := ih (by omega) still
    obtain ⟨rest, rfl, turn⟩ := pass.exists_begun nofun
    exact ⟨count + 1, by omega, .again (follows_step_iff.mpr turn) goes lasts⟩
  | finished pass =>
    obtain ⟨rest, rfl, turn⟩ := pass.exists_begun nofun
    exact ⟨1, Nat.le_add_left _ _, .finished (follows_step_iff.mpr turn)⟩
  | shutdown pass =>
    obtain ⟨stopped, -⟩ := List.forall_mem_append.mp running
    obtain ⟨e, mem, stops⟩ := pass.halts.exists_shutdown
    exact absurd stops (stopped e mem)
  | failed pass =>
    obtain ⟨rest, rfl, turn⟩ := pass.exists_begun (by simp)
    exact ⟨1, Nat.le_add_left _ _, .failed (follows_step_iff.mpr turn)⟩

/-- Two steps that lead back to the turn of the console have heard a line. -/
theorem heard_pos_of_steps {first second : Stepped}
    (follows : (r.steps 2 .awaitingInput).Follows t [first, second]) (goes : first.stop = none)
    (returns : second.state = .awaitingInput) : 0 < t.heard := by
  obtain ⟨_, _, t₁, t₂, ⟨⟩, rfl, turn, later⟩ := follows_steps_succ.mp follows
  obtain ⟨_, _, t₃, t₄, ⟨⟩, rfl, turn', -⟩ := follows_steps_succ.mp later
  obtain ⟨next, stop⟩ := first
  cases goes
  by_cases ends : next = .terminated
  · -- Nothing leads back from the end of a session.
    subst ends
    cases turn'
    cases returns
  · have used := turn.lead_le ends
    simp only [State.lead] at used
    rw [Transcript.heard_append]
    omega

end Requester

namespace Clients

/-- **Sessions end.**  Where every read, every send and every receive ends and no shutdown comes
before a turn, a publisher comes to its own end after at most one round more than the input has
octets, and a requester after at most one step more than twice that.  It is the input that pays
for them, in every environment: a round after which there may be another one, and two steps that
lead back to the turn of the console, have used up some of it, and whatever runs afterwards
leaves an end of what is left. -/
theorem sessions_end :
    (∀ (p : Publisher) (env : Environment), env.Responsive →
      ∃ count, count ≤ env.unread + 1 ∧ ∃ front faults,
        p.Lasts count front (p.runIn env).value ∧
          (p.runIn env).transcript = front ++ p.closing faults) ∧
    (∀ (r : Requester) (env : Environment), env.Responsive →
      ∃ count, count ≤ 2 * env.unread + 1 ∧ ∃ front faults,
        r.Lasts count .awaitingInput front (r.runIn env).value ∧
          (r.runIn env).transcript = front ++ r.closing faults) ∧
    (∀ (p : Publisher) (env : Environment),
      let round := p.round.run.run env
      round.value = .ok true → env.Consumes round.env) ∧
    (∀ (r : Requester) (env : Environment) (first second : Requester.Stepped),
      let pair := (r.steps 2 .awaitingInput).run env
      pair.value = [first, second] → first.stop = none → second.state = .awaitingInput →
        env.Consumes pair.env) ∧
    ∀ {α : Type} (s : Session α) (env : Environment), (s.run env).env.input <:+ env.input := by
  refine ⟨?_, ?_, ?_, ?_, fun s env => (s.gives_run env).suffix_input⟩
  · intro p env responsive
    have gives := (p.run env.budget).gives_run env
    obtain ⟨front, faults, rounds, whole⟩ :=
      Publisher.follows_run_iff.mp ((p.run env.budget).follows_run env)
    have few := gives.heard_le_unread
    have running : ∀ e ∈ ((p.run env.budget).run env).transcript,
        e.stop? p.endpoint ≠ some .shutdown := gives.uninterrupted responsive
    rw [whole] at running
    rw [whole, Transcript.heard_append] at few
    have enough : front.heard < env.budget := by
      unfold Environment.budget
      omega
    obtain ⟨count, bound, lasts⟩ := rounds.lasts enough (List.forall_mem_append.mp running).1
    exact ⟨count, by omega, front, faults, lasts, whole⟩
  · intro r env responsive
    have gives := (r.run env.budget).gives_run env
    obtain ⟨front, faults, turns, whole⟩ :=
      Requester.follows_run_iff.mp ((r.run env.budget).follows_run env)
    have few := gives.heard_le_unread
    have running : ∀ e ∈ ((r.run env.budget).run env).transcript,
        e.stop? r.endpoint ≠ some .shutdown := gives.uninterrupted responsive
    rw [whole] at running
    rw [whole, Transcript.heard_append] at few
    have enough : 2 * front.heard + Requester.State.lead .awaitingInput < env.budget := by
      simp only [Requester.State.lead, Environment.budget]
      omega
    obtain ⟨count, bound, lasts⟩ := turns.lasts enough (List.forall_mem_append.mp running).1
    simp only [Requester.State.lead] at bound
    exact ⟨count, by omega, front, faults, lasts, whole⟩
  · intro p env round goes
    have follows := Session.follows_run p.round.run env
    rw [goes] at follows
    exact (Session.gives_run p.round.run env).consumes
      (Publisher.follows_round_iff.mp follows).heard_pos
  · intro r env first second pair steps goes returns
    have follows := Session.follows_run (r.steps 2 .awaitingInput) env
    rw [steps] at follows
    exact (Session.gives_run _ env).consumes
      (Requester.heard_pos_of_steps follows goes returns)

/-- An input that ends while a broadcast waits to be confirmed, goes on, and then fails: the
publisher declines and goes on to the failure, and a requester has its first line answered. -/
theorem sessions_end_of_script :
    let p : Publisher := ⟨⟨"0.0.0.0", 5556⟩, .silent⟩
    let r : Requester := ⟨⟨"localhost", 5555⟩, .silent⟩
    let source : Source :=
      [.data (Utf8.encode "send motd\r\n"), .data [], .data (Utf8.encode "help\n"),
        .fault "unplugged"]
    let calm := Environment.calm "" ⟨[([Utf8.encode "motd"], .file (Utf8.encode "hello\n"))]⟩
      [⟨[Utf8.encode "pong"], ⟨0, 0, 0⟩⟩]
    let env := { calm with source, link := { calm.link with arrivalsAfter := .fault .noMessage } }
    (∃ count, count ≤ env.unread + 1 ∧ ∃ front faults, p.Lasts count front (p.runIn env).value ∧
      (p.runIn env).transcript = front ++ p.closing faults) ∧
    (∃ count, count ≤ 2 * env.unread + 1 ∧ ∃ front faults,
      r.Lasts count .awaitingInput front (r.runIn env).value ∧
        (r.runIn env).transcript = front ++ r.closing faults) ∧
    env.Consumes (p.round.run.run env).env ∧
    env.Consumes ((r.steps 2 .awaitingInput).run env).env := by
  intro p r source calm env
  obtain ⟨publishers, requesters, rounds, pairs, -⟩ := sessions_end
  have responsive : env.Responsive :=
    ⟨rfl, by decide, by decide, by decide, by decide, by decide⟩
  refine ⟨publishers p env responsive, requesters r env responsive, ?_, ?_⟩
  · exact rounds p env (by decide +kernel)
  · refine pairs r env ⟨.awaitingReply, none⟩ ⟨.awaitingInput, none⟩ ?_ rfl rfl
    decide +kernel

end Clients

end MessagingConsole
