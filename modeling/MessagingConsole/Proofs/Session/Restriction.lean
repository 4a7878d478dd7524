import MessagingConsole.Proofs.Session.Accounting
import MessagingConsole.Proofs.Session.Opening

/-!
# Logs that keep fewer records

Handing on a record changes nothing for a client: the answer is always the same, and the
surroundings stay as they are.  So a client with one logger does what it does with another one,
except that its transcript has fewer records.

One session *restricts to* another one if the other follows every transcript of the first, once
the records that are not kept are taken out of it.  Sessions that are put together in the same
way from such parts restrict to each other, so that it is enough to look at the parts; and a
session and one that it restricts to run alike in every environment.

## Main Definitions

- `Transcript.keeping` - a transcript with some of its records only.
- `Log.Logger.RestrictsTo` and `Session.RestrictsTo` - loggers and sessions with fewer records.
- `Outcome.SameButLog` - runs that differ in their records at most.
- `LogBlind` - a client that runs alike whatever its logger is.

## Main Results

- `Session.RestrictsTo.run_eq` - the run of a session that another one restricts to.
- `LogBlind.of_restrictsTo` - what restricts to silence is blind for its logger.
-/

namespace MessagingConsole

variable {α β γ δ : Type} {keep : Log.Record → Bool} {t : Transcript}

/-! ## Transcripts -/

namespace Transcript

/-- What is left of a transcript when only some of its records are handed on. -/
def keeping (keep : Log.Record → Bool) (t : Transcript) : Transcript :=
  t.filter fun e => e.record?.all keep

@[simp] theorem keeping_append (t₁ t₂ : Transcript) :
    keeping keep (t₁ ++ t₂) = t₁.keeping keep ++ t₂.keeping keep := List.filter_append ..

/-- An exchange that is no record stays. -/
theorem keeping_cons_of_plain {e : Exchange} {rest : Transcript} (plain : e.record? = none) :
    keeping keep (e :: rest) = e :: rest.keeping keep :=
  List.filter_cons_of_pos (by rw [plain]; rfl)

theorem keeping_of_plain (plain : ∀ e ∈ t, e.record? = none) : t.keeping keep = t :=
  List.filter_eq_self.mpr fun e mem => by rw [plain e mem]; rfl

theorem keeping_of_prints {chunks : List Bytes} {result : Except Stop Unit}
    (printed : Terminal.Prints chunks t result) : t.keeping keep = t :=
  keeping_of_plain fun e mem => (Ledger.idle_of_isOutput (printed.isOutput e mem)).2

theorem keeping_flatMap_shown (chunks : List Bytes) :
    keeping keep (chunks.flatMap Terminal.shown) = chunks.flatMap Terminal.shown :=
  keeping_of_prints (Terminal.prints_ok_iff.mpr rfl)

@[simp] theorem keeping_asked (answer : LineAnswer) :
    keeping keep (Terminal.asked answer) = Terminal.asked answer := rfl

/-- Whatever is read off a transcript without its records stays. -/
theorem filterMap_keeping {read : Exchange → Option β}
    (blind : ∀ e record, e.record? = some record → read e = none) :
    (t.keeping keep).filterMap read = t.filterMap read := by
  induction t with
  | nil => rfl
  | cons e rest ih =>
    cases recorded : e.record? with
    | none => rw [keeping_cons_of_plain recorded, List.filterMap_cons, List.filterMap_cons, ih]
    | some record =>
      have nothing := blind e record recorded
      rw [List.filterMap_cons_none nothing, ← ih, keeping, List.filter_cons]
      split
      · exact List.filterMap_cons_none nothing
      · rfl

theorem sent_keeping : (t.keeping keep).sent = t.sent := by
  refine filterMap_keeping ?_
  rintro ⟨operation, answer⟩ record recorded
  cases operation <;> first | rfl | cases recorded

theorem received_keeping : (t.keeping keep).received = t.received := by
  refine filterMap_keeping ?_
  rintro ⟨operation, answer⟩ record recorded
  cases operation <;> first | rfl | cases recorded

theorem output_keeping : (t.keeping keep).output = t.output := by
  induction t with
  | nil => rfl
  | cons e rest ih =>
    obtain ⟨operation, answer⟩ := e
    cases operation with
    | log record =>
      rw [output_cons, ← ih, keeping, List.filter_cons]
      split <;> rfl
    | _ => rw [keeping_cons_of_plain rfl, output_cons, output_cons, ih]

/-- The records that are left are those that are kept. -/
theorem records_keeping : (t.keeping keep).records = t.records.filter keep := by
  induction t with
  | nil => rfl
  | cons e rest ih =>
    cases recorded : e.record? with
    | none =>
      rw [keeping_cons_of_plain recorded, records, List.filterMap_cons_none recorded, records,
        List.filterMap_cons_none recorded]
      exact ih
    | some record =>
      rw [records, records, List.filterMap_cons_some recorded, keeping, List.filter_cons,
        List.filter_cons, recorded, Option.all_some]
      split
      · rw [List.filterMap_cons_some recorded]
        exact congrArg _ ih
      · exact ih

/-- Without any record there is none left to be kept. -/
theorem keeping_none_keeping :
    (t.keeping keep).keeping (fun _ => false) = t.keeping fun _ => false := by
  unfold keeping
  rw [List.filter_filter]
  refine List.filter_congr fun e _ => ?_
  cases e.record? <;> rfl

end Transcript

/-- An environment answers alike whether a record is handed on or not. -/
theorem Environment.Gives.keeping {env final : Environment} (gives : env.Gives t final) :
    env.Gives (t.keeping keep) final := by
  induction t generalizing env with
  | nil => exact gives
  | cons e rest ih =>
    obtain ⟨operation, answer⟩ := e
    obtain ⟨answered, later⟩ := gives_cons.mp gives
    cases operation with
    | log record =>
      -- Handing on a record leaves the environment as it is, so that it can be left out.
      rw [Transcript.keeping, List.filter_cons]
      split
      · exact gives_cons.mpr ⟨answered, ih later⟩
      · exact ih later
    | _ =>
      rw [Transcript.keeping_cons_of_plain rfl]
      exact gives_cons.mpr ⟨answered, ih later⟩

/-! ## Loggers -/

/-- Whether a record is as grave as a level at least. -/
def Log.Level.admits (threshold : Level) (record : Record) : Bool :=
  record.level.rank ≤ threshold.rank

namespace Log.Logger

/-- Of the records that one logger hands on, another one hands on those that are kept. -/
def RestrictsTo (more : Logger) (keep : Log.Record → Bool) (less : Logger) : Prop :=
  ∀ level message pairs,
    Transcript.keeping keep (more.noted level message pairs) = less.noted level message pairs

/-- More context changes nothing about that. -/
theorem RestrictsTo.child {more less : Logger} (restricts : more.RestrictsTo keep less)
    (pairs : List Pair) : (more.child pairs).RestrictsTo keep (less.child pairs) := by
  have joined (logger : Logger) (level : Level) (message : String) (own : List Pair) :
      (logger.child pairs).noted level message own = logger.noted level message (pairs ++ own) := by
    have same : (logger.child pairs).record level message own =
        logger.record level message (pairs ++ own) :=
      congrArg (Record.mk level message) (List.append_assoc ..)
    unfold noted
    rw [same]
    rfl
  intro level message own
  rw [joined, joined]
  exact restricts ..

/-- Every logger restricts to silence. -/
theorem restrictsTo_silent (logger : Logger) : logger.RestrictsTo (fun _ => false) silent := by
  intro level message pairs
  unfold noted
  split <;> rfl

/-- The logger of a program restricts to the one with a lower threshold. -/
theorem restrictsTo_root {threshold more : Level} (app : String)
    (fewer : threshold.rank ≤ more.rank) :
    (root more app).RestrictsTo threshold.admits (root threshold app) := by
  intro level message pairs
  unfold noted
  have kept (bound : Level) : (root bound app).keeps level ↔ level.rank ≤ bound.rank :=
    decide_eq_true_iff
  -- A record below the lower threshold is kept on both sides, and any other is taken out.
  by_cases low : level.rank ≤ threshold.rank
  · rw [if_pos ((kept more).mpr (Nat.le_trans low fewer)), if_pos ((kept threshold).mpr low)]
    exact List.filter_eq_self.mpr (List.forall_mem_singleton.mpr (decide_eq_true low))
  · rw [if_neg (mt (kept threshold).mp low)]
    split
    · exact List.filter_eq_nil_iff.mpr (List.forall_mem_singleton.mpr (mt of_decide_eq_true low))
    · rfl

end Log.Logger

/-- The closing of a channel is left with the records that are kept. -/
theorem Transcript.keeping_closing {more less : Log.Logger} (restricts : more.RestrictsTo keep less)
    (faulty closed : String) (faults : List TransportFault) :
    keeping keep (more.closing faulty closed faults) = less.closing faulty closed faults := by
  have warned : keeping keep (more.warned faulty faults) = less.warned faulty faults := by
    induction faults with
    | nil => rfl
    | cons fault rest ih =>
      rw [Log.Logger.warned, List.flatMap_cons, keeping_append, restricts]
      exact congrArg _ ih
  rw [Log.Logger.closing, keeping_cons_of_plain rfl, keeping_append, warned, restricts]
  rfl

/-! ## Sessions -/

/-- One session follows, without the records that are not kept, whatever another one follows,
and comes to a value that goes with the other. -/
def Session.RestrictsTo (more : Session α) (keep : Log.Record → Bool) (Same : α → β → Prop)
    (less : Session β) : Prop :=
  ∀ t value, more.Follows t value →
    ∃ value', Same value value' ∧ less.Follows (t.keeping keep) value'

/-- Two attempts end alike: both are stopped in the same way, or their values go together. -/
inductive Attempt.Alike (Same : α → β → Prop) : Except Stop α → Except Stop β → Prop
  | stopped (stop : Stop) : Alike Same (.error stop) (.error stop)
  | done {value : α} {value' : β} (same : Same value value') : Alike Same (.ok value) (.ok value')

namespace Session

variable {Same : α → β → Prop} {Then : γ → δ → Prop}

theorem RestrictsTo.pure {value : α} {value' : β} (same : Same value value') :
    RestrictsTo (Pure.pure value) keep Same (Pure.pure value') := by
  rintro t _ ⟨rfl, rfl⟩
  exact ⟨value', same, rfl, rfl⟩

/-- Sessions that are put together of parts restrict to each other if the parts do. -/
theorem RestrictsTo.bind {more : Session α} {less : Session β} {goOn : α → Session γ}
    {goOn' : β → Session δ} (first : more.RestrictsTo keep Same less)
    (later : ∀ value value', Same value value' →
      (goOn value).RestrictsTo keep Then (goOn' value')) :
    (more >>= goOn).RestrictsTo keep Then (less >>= goOn') := by
  intro t result follows
  obtain ⟨value, t₁, t₂, rfl, ends, goes⟩ := follows_bind.mp follows
  obtain ⟨value', same, ends'⟩ := first t₁ value ends
  obtain ⟨result', alike, goes'⟩ := later value value' same t₂ result goes
  refine ⟨result', alike, ?_⟩
  rw [Transcript.keeping_append]
  exact follows_bind.mpr ⟨value', _, _, rfl, ends', goes'⟩

/-- An operation that is no record restricts to itself. -/
theorem restrictsTo_perform {operation : Operation}
    (plain : ∀ answer, Exchange.record? ⟨operation, answer⟩ = none) :
    (perform operation).RestrictsTo keep Eq (perform operation) := by
  intro t answer follows
  refine ⟨answer, rfl, ?_⟩
  rw [follows_perform.mp follows, Transcript.keeping_cons_of_plain (plain answer)]
  exact follows_perform.mpr rfl

theorem restrictsTo_note {more less : Log.Logger} (restricts : more.RestrictsTo keep less)
    (level : Log.Level) (message : String) (pairs : List Log.Pair) :
    (note more level message pairs).RestrictsTo keep Eq (note less level message pairs) := by
  rintro t ⟨⟩ follows
  refine ⟨(), rfl, ?_⟩
  rw [follows_note.mp follows, restricts]
  exact follows_note.mpr rfl

/-- It is enough that the other session follows what is left of every transcript. -/
theorem RestrictsTo.of_follows {more less : Session α}
    (restricts : ∀ {t value}, more.Follows t value → less.Follows (t.keeping keep) value) :
    more.RestrictsTo keep Eq less :=
  fun _ value follows => ⟨value, rfl, restricts follows⟩

/-- **A run and one that it restricts to are the same run**, but for the records. -/
theorem RestrictsTo.run_eq {more less : Session α} (restricts : more.RestrictsTo keep Eq less)
    (env : Environment) :
    less.run env =
      { more.run env with transcript := (more.run env).transcript.keeping keep } := by
  obtain ⟨_, rfl, follows⟩ := restricts _ _ (more.follows_run env)
  exact run_eq_iff.mpr ⟨follows, (more.gives_run env).keeping⟩

end Session

/-- The beginning of a turn is no record. -/
theorem Session.Passes.keeping {Turn Turn' : Transcript → α → Prop} {stopped value : α}
    (pass : Session.Passes Turn stopped t value)
    (inside : ∀ {t}, Turn t value → Turn' (t.keeping keep) value) :
    Session.Passes Turn' stopped (t.keeping keep) value := by
  cases pass with
  | interrupted => exact .interrupted
  | begun turn =>
    rw [Transcript.keeping_cons_of_plain rfl]
    exact .begun (inside turn)

/-- Dialing goes on alike without the record of a long wait. -/
theorem Attempt.Dials.keeping {more less : Log.Logger} {endpoint : Endpoint}
    {result : Except Stop Unit} (restricts : more.RestrictsTo keep less)
    (dials : Dials more endpoint t result) : Dials less endpoint (t.keeping keep) result := by
  cases dials with
  | soon answered => exact .soon answered
  | late answer =>
    have waits : (waiting more).keeping keep = waiting less := restricts ..
    rw [Transcript.keeping_cons_of_plain rfl, Transcript.keeping_append, waits]
    exact .late answer

/-- Sessions that open a channel first restrict to each other if opening does and the clients
do. -/
theorem Attempt.restrictsTo_andRun {opening : Attempt γ} {opening' : Attempt δ} {idle : α}
    {run : γ → Session (Except Error α)} {run' : δ → Session (Except Error α)}
    {Same : γ → δ → Prop} (opens : opening.run.RestrictsTo keep (Alike Same) opening'.run)
    (runs : ∀ client client', Same client client' →
      (run client).RestrictsTo keep Eq (run' client')) :
    (opening.andRun idle run).RestrictsTo keep Eq (opening'.andRun idle run') := by
  refine opens.bind fun ended ended' alike => ?_
  cases alike with
  | stopped stop => cases stop <;> exact .pure rfl
  | done same => exact runs _ _ same

/-! ## Runs -/

/-- Two runs differ in nothing but their records. -/
structure Outcome.SameButLog (one other : Outcome α) : Prop where
  value : one.value = other.value
  output : one.transcript.output = other.transcript.output
  sent : one.transcript.sent = other.transcript.sent
  received : one.transcript.received = other.transcript.received
  /-- Without their records the transcripts are the same. -/
  exchanges : one.transcript.keeping (fun _ => false) = other.transcript.keeping fun _ => false
  env : one.env = other.env

/-- A client runs alike whatever its logger is. -/
def LogBlind (client : Log.Logger → Session α) : Prop :=
  ∀ (logger other : Log.Logger) (env : Environment),
    ((client logger).run env).SameButLog ((client other).run env)

theorem Outcome.SameButLog.symm {one other : Outcome α} (same : one.SameButLog other) :
    other.SameButLog one :=
  ⟨same.value.symm, same.output.symm, same.sent.symm, same.received.symm, same.exchanges.symm,
    same.env.symm⟩

theorem Outcome.SameButLog.trans {one other last : Outcome α} (first : one.SameButLog other)
    (second : other.SameButLog last) : one.SameButLog last :=
  ⟨first.value.trans second.value, first.output.trans second.output,
    first.sent.trans second.sent, first.received.trans second.received,
    first.exchanges.trans second.exchanges, first.env.trans second.env⟩

/-- A session that another one restricts to runs as that, but for the records. -/
theorem Session.RestrictsTo.sameButLog {more less : Session α}
    (restricts : more.RestrictsTo keep Eq less) (env : Environment) :
    (less.run env).SameButLog (more.run env) := by
  rw [restricts.run_eq env]
  exact ⟨rfl, Transcript.output_keeping, Transcript.sent_keeping, Transcript.received_keeping,
    Transcript.keeping_none_keeping, rfl⟩

/-- **What restricts to silence is blind for its logger.** -/
theorem LogBlind.of_restrictsTo {client : Log.Logger → Session α}
    (restricts : ∀ logger, (client logger).RestrictsTo (fun _ => false) Eq (client .silent)) :
    LogBlind client :=
  fun logger other env =>
    ((restricts logger).sameButLog env).symm.trans ((restricts other).sameButLog env)

end MessagingConsole
