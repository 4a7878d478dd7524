import MessagingConsole.Proofs.Publisher.Binding
import MessagingConsole.Proofs.Session.Restriction

/-!
# A publisher with another logger

A publisher whose logger restricts to another one restricts to the publisher with that, in
answering an offer, in carrying out a command, in its rounds and in whole sessions.

## Main Results

- `Publisher.restrictsTo_session` - sessions of a publisher with two loggers.
-/

namespace MessagingConsole.Publisher

variable {keep : Log.Record → Bool} {more less : Log.Logger} {endpoint : Endpoint}
  {t : Transcript} {budget : Nat}

theorem Answered.keeping (restricts : more.RestrictsTo keep less) {body : String}
    {answer : LineAnswer} {result : Except Stop Unit}
    (answered : Answered ⟨endpoint, more⟩ body answer t result) :
    Answered ⟨endpoint, less⟩ body answer (t.keeping keep) result := by
  cases answered with
  | stopped outcome => exact .stopped outcome
  | declined outcome declines printed =>
    rw [Transcript.keeping_of_prints printed]
    exact .declined outcome declines printed
  | refused confirms untaken =>
    rw [Transcript.keeping_append, restricts]
    exact .refused confirms untaken
  | published confirms printed =>
    rw [Transcript.keeping_append, restricts, Transcript.keeping_cons_of_plain rfl,
      Transcript.keeping_of_prints printed]
    exact .published confirms printed

theorem CarriedOut.keeping (restricts : more.RestrictsTo keep less) {line : String}
    {result : Except Stop Bool} (carriedOut : CarriedOut ⟨endpoint, more⟩ line t result) :
    CarriedOut ⟨endpoint, less⟩ line (t.keeping keep) result := by
  cases carriedOut with
  | quit command => exact .quit command
  | noticed notice printed =>
    rw [Transcript.keeping_of_prints printed]
    exact .noticed notice printed
  | rejected command faulty printed =>
    rw [Transcript.keeping_cons_of_plain rfl, Transcript.keeping_append, restricts,
      Transcript.keeping_of_prints printed]
    exact .rejected command faulty printed
  | unshown o offered printed =>
    rw [Transcript.keeping_cons_of_plain rfl, Transcript.keeping_of_prints printed]
    exact .unshown o offered printed
  | answered o offered rest =>
    rw [Transcript.keeping_cons_of_plain rfl, Transcript.keeping_append,
      Transcript.keeping_flatMap_shown, Transcript.keeping_cons_of_plain rfl]
    exact .answered o offered (rest.keeping restricts)

theorem Turn.keeping (restricts : more.RestrictsTo keep less) {result : Except Stop Bool}
    (turn : Turn ⟨endpoint, more⟩ t result) :
    Turn ⟨endpoint, less⟩ (t.keeping keep) result := by
  cases turn with
  | unprompted printed =>
    rw [Transcript.keeping_of_prints printed]
    exact .unprompted printed
  | stopped outcome => exact .stopped outcome
  | ended => exact .ended
  | command rest =>
    rw [Transcript.keeping_append, Transcript.keeping_asked]
    exact .command (rest.keeping restricts)

theorem Pass.keeping (restricts : more.RestrictsTo keep less) {result : Except Stop Bool}
    (pass : Pass ⟨endpoint, more⟩ t result) : Pass ⟨endpoint, less⟩ (t.keeping keep) result :=
  Session.Passes.keeping pass (Turn.keeping restricts)

theorem Rounds.keeping (restricts : more.RestrictsTo keep less) {value : Except Error Unit}
    (rounds : Rounds ⟨endpoint, more⟩ budget t value) :
    Rounds ⟨endpoint, less⟩ budget (t.keeping keep) value := by
  induction rounds with
  | spent => exact .spent
  | again pass later ih =>
    rw [Transcript.keeping_append]
    exact .again (pass.keeping restricts) ih
  | finished pass => exact .finished (pass.keeping restricts)
  | shutdown pass =>
    rw [Transcript.keeping_append, restricts]
    exact .shutdown (pass.keeping restricts)
  | failed pass => exact .failed (pass.keeping restricts)

/-- The run of a publisher with a channel. -/
theorem restrictsTo_run (restricts : more.RestrictsTo keep less) (endpoint : Endpoint)
    (budget : Nat) :
    (run ⟨endpoint, more⟩ budget).RestrictsTo keep Eq (run ⟨endpoint, less⟩ budget) := by
  refine .of_follows fun follows => ?_
  obtain ⟨rest, faults, rounds, rfl⟩ := follows_run_iff.mp follows
  rw [Transcript.keeping_append, closing, Transcript.keeping_closing restricts]
  exact follows_run_iff.mpr ⟨_, faults, rounds.keeping restricts, rfl⟩

/-- Two publishers that differ in their loggers at most, of which one restricts to the
other. -/
inductive Thins (keep : Log.Record → Bool) : Publisher → Publisher → Prop
  | intro (endpoint : Endpoint) {more less : Log.Logger}
      (restricts : more.RestrictsTo keep less) : Thins keep ⟨endpoint, more⟩ ⟨endpoint, less⟩

theorem restrictsTo_bind (restricts : more.RestrictsTo keep less) (endpoint : Endpoint) :
    (bind more endpoint).run.RestrictsTo keep (Attempt.Alike (Thins keep))
      (bind less endpoint).run := by
  intro t result follows
  cases follows_bind_iff.mp follows with
  | refused fault =>
    exact ⟨_, .stopped _, follows_bind_iff.mpr (.refused fault)⟩
  | bound bound =>
    have child : (loggerFor more bound).RestrictsTo keep (loggerFor less bound) :=
      restricts.child _
    refine ⟨.ok ⟨bound, loggerFor less bound⟩, .done (.intro _ child), follows_bind_iff.mpr ?_⟩
    rw [Transcript.keeping_cons_of_plain rfl, child]
    exact .bound bound

/-- **The session of a publisher restricts to the one with another logger.** -/
theorem restrictsTo_session (restricts : more.RestrictsTo keep less) (endpoint : Endpoint)
    (budget : Nat) :
    (session more endpoint budget).RestrictsTo keep Eq (session less endpoint budget) :=
  Attempt.restrictsTo_andRun (restrictsTo_bind restricts endpoint) fun
    | _, _, .intro endpoint restricts => restrictsTo_run restricts endpoint budget

end MessagingConsole.Publisher
