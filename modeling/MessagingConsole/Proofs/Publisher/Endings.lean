import MessagingConsole.Proofs.Publisher.Turns
import MessagingConsole.Proofs.Session.Consumption
import MessagingConsole.Proofs.Session.Stopping

/-!
# How a run of a publisher ends

A round is stopped by its last exchange or by none, wherever in a command that is: at the
prompt, in the middle of an offer, while its answer is awaited, or in the line that tells
what became of it.  So a run heeds what stops it.  And a run always ends by itself, since
every round that goes on has heard a line: a budget beyond what the input allows changes
nothing.

## Main Results

- `Turn.halts` and `heeds_run` - what stops a publisher is the last thing it does.
- `run_eq_runIn` - a run does not depend on its budget.
-/

namespace MessagingConsole.Publisher

variable {p : Publisher} {t : Transcript}

/-! ## What stops a publisher -/

/-- What follows the answer to an offer is stopped by its last exchange, the answer itself
included, or by none. -/
theorem Answered.halts {body : String} {answer : LineAnswer} {result : Except Stop Unit}
    (answered : Answered p body answer t result) :
    Halts p.endpoint (⟨.readLine, answer⟩ :: t) (Attempt.stopOf result) := by
  -- An answer after which the round goes on stops nothing.
  have heard {reply : Option String} (outcome : answer.outcome = .ok reply) :
      Unstopped p.endpoint [⟨.readLine, answer⟩] := by
    refine unstopped_cons.mpr ⟨?_, unstopped_nil⟩
    rw [Exchange.stop?_readLine, outcome]
    rfl
  have confirmed (confirms : Confirms answer) : Unstopped p.endpoint [⟨.readLine, answer⟩] := by
    cases answer with
    | line text => exact heard rfl
    | _ => exact absurd confirms id
  have record : Unstopped p.endpoint (p.logger.noted .debug "publishing"
      [("bytes", Text.decimal (Utf8.encode body).length)]) := unstopped_noted
  rw [← List.singleton_append]
  cases answered with
  | stopped outcome =>
    have stops := Exchange.stop?_readLine p.endpoint answer
    rw [outcome] at stops
    exact .stopped unstopped_nil stops
  | declined outcome declines printed => exact .append (heard outcome) printed.halts
  | @refused reaction stop confirms untaken =>
    have stops : Exchange.stop? p.endpoint ⟨.send (Utf8.encode body), reaction⟩ = some stop := by
      rw [Exchange.stop?_send, untaken]
      rfl
    rw [← List.append_assoc]
    exact .stopped (unstopped_append.mpr ⟨confirmed confirms, record⟩) stops
  | published confirms printed =>
    have taken : Unstopped p.endpoint [⟨.send (Utf8.encode body), .taken⟩] :=
      unstopped_cons.mpr ⟨rfl, unstopped_nil⟩
    refine .append (confirmed confirms) (.append record ?_)
    exact .append taken printed.halts

/-- What follows a command is stopped by its last exchange, or by none. -/
theorem CarriedOut.halts {line : String} {result : Except Stop Bool}
    (carriedOut : CarriedOut p line t result) :
    Halts p.endpoint t (Attempt.stopOf result) := by
  have loaded (o : Offer) : Unstopped p.endpoint [o.loaded] :=
    unstopped_cons.mpr ⟨rfl, unstopped_nil⟩
  cases carriedOut with
  | quit command => exact .unstopped unstopped_nil
  | noticed notice printed =>
    rw [Attempt.stopOf_map]
    exact printed.halts
  | @rejected path content fault rest result command faulty printed =>
    have read : Unstopped p.endpoint [⟨.readFile (Utf8.encode path), content⟩] :=
      unstopped_cons.mpr ⟨rfl, unstopped_nil⟩
    rw [Attempt.stopOf_map]
    exact .append read (.append unstopped_noted printed.halts)
  | unshown o offered printed => exact .append (loaded o) printed.halts
  | answered o offered rest =>
    have shown := Halts.append (unstopped_flatMap_shown p.endpoint (display o.body)) rest.halts
    rw [Attempt.stopOf_map]
    exact .append (loaded o) shown

/-- A round is stopped by its last exchange, or by none. -/
theorem Turn.halts {result : Except Stop Bool} (turn : Turn p t result) :
    Halts p.endpoint t (Attempt.stopOf result) := by
  cases turn with
  | unprompted printed => exact printed.halts
  | stopped outcome => exact halts_asked outcome
  | ended => exact .unstopped (unstopped_asked rfl)
  | command rest => exact .append (unstopped_asked rfl) rest.halts

theorem Pass.halts {result : Except Stop Bool} (pass : Pass p t result) :
    Halts p.endpoint t (Attempt.stopOf result) :=
  Session.Passes.halts pass rfl Turn.halts

/-- Rounds and the closing of the channel heed what stops them. -/
theorem Rounds.heeds {budget : Nat} {value : Except Error Unit}
    (rounds : Rounds p budget t value) (faults : List TransportFault) :
    Heeds p.endpoint (t ++ p.closing faults) value := by
  have closed : Unstopped p.endpoint (p.closing faults) :=
    fun e mem => Exchange.stop?_of_isClosing _ (isClosing_closing e mem)
  induction rounds with
  | spent => exact heeds_of_unstopped closed
  | again pass later ih =>
    rw [List.append_assoc]
    exact .append pass.halts.unstopped_of_none ih
  | finished pass =>
    exact heeds_of_unstopped (unstopped_append.mpr ⟨pass.halts.unstopped_of_none, closed⟩)
  | shutdown pass =>
    rw [List.append_assoc]
    refine pass.halts.heeds ?_ ⟨_, rfl⟩
    exact List.forall_mem_append.mpr ⟨isClosing_noted, isClosing_closing⟩
  | failed pass => exact pass.halts.heeds isClosing_closing rfl

/-- **After what stops it, a publisher only closes its channel.** -/
theorem heeds_run {budget : Nat} {value : Except Error Unit}
    (follows : (p.run budget).Follows t value) : Heeds p.endpoint t value := by
  obtain ⟨rest, faults, rounds, rfl⟩ := follows_run_iff.mp follows
  exact rounds.heeds faults

/-! ## The budget of rounds -/

/-- A round after which there may be another one has heard a line. -/
theorem Turn.heard_pos (turn : Turn p t (.ok true)) : 0 < t.heard := by
  cases turn with
  | @command line rest result carriedOut =>
    rw [Transcript.heard_append, Transcript.heard_asked_line]
    omega

theorem Pass.heard_pos (pass : Pass p t (.ok true)) : 0 < t.heard := by
  obtain ⟨rest, rfl, turn⟩ := pass.exists_begun nofun
  exact turn.heard_pos

/-- Rounds that end within their budget are rounds within every other budget that the lines
they heard allow. -/
theorem Rounds.rebudget {budget other : Nat} {value : Except Error Unit}
    (rounds : Rounds p budget t value) (enough : t.heard < budget) (enough' : t.heard < other) :
    Rounds p other t value := by
  induction rounds generalizing other with
  | spent => exact absurd enough (Nat.not_lt_zero _)
  | again pass later ih =>
    obtain ⟨other, rfl⟩ := Nat.exists_eq_add_one.mpr (Nat.zero_lt_of_lt enough')
    have used := pass.heard_pos
    rw [Transcript.heard_append] at enough enough'
    exact .again pass (ih (by omega) (by omega))
  | finished pass =>
    obtain ⟨other, rfl⟩ := Nat.exists_eq_add_one.mpr (Nat.zero_lt_of_lt enough')
    exact .finished pass
  | shutdown pass =>
    obtain ⟨other, rfl⟩ := Nat.exists_eq_add_one.mpr (Nat.zero_lt_of_lt enough')
    exact .shutdown pass
  | failed pass =>
    obtain ⟨other, rfl⟩ := Nat.exists_eq_add_one.mpr (Nat.zero_lt_of_lt enough')
    exact .failed pass

/-- **A run does not depend on its budget**, once that is what the input allows. -/
theorem run_eq_runIn (p : Publisher) (env : Environment) {budget : Nat}
    (enough : env.budget ≤ budget) : (p.run budget).run env = p.runIn env := by
  have follows := (p.run env.budget).follows_run env
  have gives := (p.run env.budget).gives_run env
  obtain ⟨rest, faults, rounds, whole⟩ := follows_run_iff.mp follows
  have few := gives.heard_le_unread
  rw [whole, Transcript.heard_append] at few
  have short : rest.heard < env.budget := by
    unfold Environment.budget
    omega
  have rounds' := rounds.rebudget short (Nat.lt_of_lt_of_le short enough)
  have follows' := follows_run_iff.mpr ⟨rest, faults, rounds', whole⟩
  rw [Session.run_eq_iff.mpr ⟨follows', gives⟩]
  rfl

end MessagingConsole.Publisher
