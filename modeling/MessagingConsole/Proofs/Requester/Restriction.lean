import MessagingConsole.Proofs.Requester.Connection
import MessagingConsole.Proofs.Session.Restriction

/-!
# A requester with another logger

A requester whose logger restricts to another one restricts to the requester with that: each of
its turns is one of the other requester once the records are taken out that are not kept, and
so are turns in a row and whole sessions.

## Main Results

- `Requester.restrictsTo_session` - sessions of a requester with two loggers.
-/

namespace MessagingConsole.Requester

variable {keep : Log.Record → Bool} {more less : Log.Logger} {endpoint : Endpoint}
  {t : Transcript} {state : State} {stepped : Stepped} {budget : Nat} {value : Except Error Unit}

/-- A request and the record of it. -/
theorem keeping_request (restricts : more.RestrictsTo keep less) (line : String)
    (answer : SendAnswer) :
    Transcript.keeping keep (Terminal.asked (.line line) ++
        (sending ⟨endpoint, more⟩ line ++ [⟨.send (Utf8.encode line), answer⟩])) =
      Terminal.asked (.line line) ++
        (sending ⟨endpoint, less⟩ line ++ [⟨.send (Utf8.encode line), answer⟩]) := by
  have noted : (sending ⟨endpoint, more⟩ line).keeping keep = sending ⟨endpoint, less⟩ line :=
    restricts ..
  rw [Transcript.keeping_append, Transcript.keeping_append, noted]
  rfl

/-- A reply and the record of it. -/
theorem keeping_reply (restricts : more.RestrictsTo keep less) (message : Message)
    (rest : Transcript) :
    Transcript.keeping keep
        (⟨.receive, .message message⟩ :: (receiving ⟨endpoint, more⟩ message ++ rest)) =
      ⟨.receive, .message message⟩ ::
        (receiving ⟨endpoint, less⟩ message ++ rest.keeping keep) := by
  have noted : (receiving ⟨endpoint, more⟩ message).keeping keep =
      receiving ⟨endpoint, less⟩ message :=
    restricts ..
  rw [Transcript.keeping_cons_of_plain rfl, Transcript.keeping_append, noted]

theorem Turn.keeping (restricts : more.RestrictsTo keep less)
    (turn : Turn ⟨endpoint, more⟩ state t stepped) :
    Turn ⟨endpoint, less⟩ state (t.keeping keep) stepped := by
  cases turn with
  | unprompted printed =>
    rw [Transcript.keeping_of_prints printed]
    exact .unprompted printed
  | stopped outcome => exact .stopped outcome
  | ended =>
    rw [Transcript.keeping_append, restricts]
    exact .ended
  | sent line =>
    rw [keeping_request restricts]
    exact .sent line
  | unsent line untaken =>
    rw [keeping_request restricts]
    exact .unsent line untaken
  | unanswered outcome => exact .unanswered outcome
  | replied message =>
    rw [keeping_reply restricts]
    exact .replied message
  | unprinted printed =>
    rw [keeping_reply restricts, Transcript.keeping_of_prints printed]
    exact .unprinted printed
  | finished => exact .finished

theorem Pass.keeping (restricts : more.RestrictsTo keep less)
    (pass : Pass ⟨endpoint, more⟩ state t stepped) :
    Pass ⟨endpoint, less⟩ state (t.keeping keep) stepped :=
  Session.Passes.keeping pass (Turn.keeping restricts)

theorem Turns.keeping (restricts : more.RestrictsTo keep less)
    (turns : Turns ⟨endpoint, more⟩ budget state t value) :
    Turns ⟨endpoint, less⟩ budget state (t.keeping keep) value := by
  induction turns with
  | spent state => exact .spent state
  | again pass goes later ih =>
    rw [Transcript.keeping_append]
    exact .again (pass.keeping restricts) goes ih
  | finished pass => exact .finished (pass.keeping restricts)
  | shutdown pass =>
    rw [Transcript.keeping_append, restricts]
    exact .shutdown (pass.keeping restricts)
  | failed pass => exact .failed (pass.keeping restricts)

/-- The run of a requester with a channel. -/
theorem restrictsTo_run (restricts : more.RestrictsTo keep less) (endpoint : Endpoint)
    (budget : Nat) :
    (run ⟨endpoint, more⟩ budget).RestrictsTo keep Eq (run ⟨endpoint, less⟩ budget) := by
  refine .of_follows fun follows => ?_
  obtain ⟨rest, faults, turns, rfl⟩ := follows_run_iff.mp follows
  rw [Transcript.keeping_append, closing, Transcript.keeping_closing restricts]
  exact follows_run_iff.mpr ⟨_, faults, turns.keeping restricts, rfl⟩

/-- Two requesters that differ in their loggers at most, of which one restricts to the
other. -/
inductive Thins (keep : Log.Record → Bool) : Requester → Requester → Prop
  | intro (endpoint : Endpoint) {more less : Log.Logger}
      (restricts : more.RestrictsTo keep less) : Thins keep ⟨endpoint, more⟩ ⟨endpoint, less⟩

theorem restrictsTo_connect (restricts : more.RestrictsTo keep less) (endpoint : Endpoint) :
    (connect more endpoint).run.RestrictsTo keep (Attempt.Alike (Thins keep))
      (connect less endpoint).run := by
  intro t result follows
  have child : (loggerFor more endpoint).RestrictsTo keep (loggerFor less endpoint) :=
    restricts.child _
  cases follows_connect_iff.mp follows with
  | undialed dials =>
    refine ⟨_, .stopped _, follows_connect_iff.mpr ?_⟩
    rw [Transcript.keeping_append, child]
    exact .undialed (dials.keeping child)
  | dialed dials =>
    refine ⟨.ok ⟨endpoint, loggerFor less endpoint⟩, .done (.intro _ child),
      follows_connect_iff.mpr ?_⟩
    rw [Transcript.keeping_append, Transcript.keeping_append, child, child]
    exact .dialed (dials.keeping child)

/-- **The session of a requester restricts to the one with another logger.** -/
theorem restrictsTo_session (restricts : more.RestrictsTo keep less) (endpoint : Endpoint)
    (budget : Nat) :
    (session more endpoint budget).RestrictsTo keep Eq (session less endpoint budget) :=
  Attempt.restrictsTo_andRun (restrictsTo_connect restricts endpoint) fun
    | _, _, .intro endpoint restricts => restrictsTo_run restricts endpoint budget

end MessagingConsole.Requester
