import MessagingConsole.Session.Environment

/-!
# The two sides of a run

A run is a conversation, and each side of it can be asked alone whether it agrees to a
transcript.  A session *follows* a transcript if, answered as the transcript says, it
asks exactly the operations of the transcript.  An environment *gives* a transcript if
it answers those operations so, one after the other.

What a session follows holds whatever it is answered, so that a statement about
`Session.Follows` covers every environment, and also surroundings that no environment
describes.  `Session.run_eq_iff` joins the two sides: the run of a session in an
environment is the one transcript that the session follows and the environment gives.

## Main Definitions

- `Session.Follows` and `Attempt.Follows` - with one law for each way to build a session.
- `Environment.Gives` - with `Gives.invariant`, the one induction over what is given.
- `Session.Passes` - how a turn can go that a shutdown can come before.
- `Log.Logger.noted` and `Log.Logger.closing` - what handing on a record and closing a channel
  leave in a transcript.
-/

namespace MessagingConsole

namespace Session

variable {α β : Type} {t : Transcript}

/-- Answered as in a transcript, a session asks exactly its operations and is then done
with a value. -/
def Follows : Session α → Transcript → α → Prop
  | .done result, t, value => t = [] ∧ result = value
  | .ask operation next, t, value =>
    ∃ answer rest, t = ⟨operation, answer⟩ :: rest ∧ (next answer).Follows rest value

theorem follows_pure {result value : α} :
    (pure result : Session α).Follows t value ↔ t = [] ∧ result = value := Iff.rfl

theorem follows_perform {operation : Operation} {answer : operation.Answer} :
    (perform operation).Follows t answer ↔ t = [⟨operation, answer⟩] := by
  constructor
  · rintro ⟨given, rest, rfl, rfl, rfl⟩
    rfl
  · rintro rfl
    exact ⟨answer, [], rfl, rfl, rfl⟩

/-- A session followed by another one follows a transcript of the first and then one of
the second. -/
theorem follows_bind {s : Session α} {next : α → Session β} {value : β} :
    (s >>= next).Follows t value ↔
      ∃ middle t₁ t₂, t = t₁ ++ t₂ ∧ s.Follows t₁ middle ∧ (next middle).Follows t₂ value := by
  change (s.bind next).Follows t value ↔ _
  induction s generalizing t with
  | done result =>
    constructor
    · intro rest
      exact ⟨result, [], t, rfl, ⟨rfl, rfl⟩, rest⟩
    · rintro ⟨middle, t₁, t₂, rfl, ⟨rfl, rfl⟩, rest⟩
      exact rest
  | ask operation go ih =>
    constructor
    · rintro ⟨answer, rest, rfl, follows⟩
      obtain ⟨middle, t₁, t₂, rfl, first, second⟩ := (ih answer).mp follows
      exact ⟨middle, _ :: t₁, t₂, rfl, ⟨answer, t₁, rfl, first⟩, second⟩
    · rintro ⟨middle, t₁, t₂, rfl, ⟨answer, rest, rfl, first⟩, second⟩
      exact ⟨answer, rest ++ t₂, rfl, (ih answer).mpr ⟨middle, rest, t₂, rfl, first, second⟩⟩

/-- What a session does first is determined by the answers: of two transcripts that it
follows to its end, none goes on after the other. -/
theorem Follows.unique {s : Session α} {t' rest rest' : Transcript} {value value' : α}
    (follows : s.Follows t value) (follows' : s.Follows t' value')
    (same : t ++ rest = t' ++ rest') : t = t' ∧ value = value' := by
  induction s generalizing t t' with
  | done result =>
    obtain ⟨rfl, rfl⟩ := follows
    obtain ⟨rfl, rfl⟩ := follows'
    exact ⟨rfl, rfl⟩
  | ask operation next ih =>
    obtain ⟨answer, later, rfl, follows⟩ := follows
    obtain ⟨answer', later', rfl, follows'⟩ := follows'
    obtain ⟨⟨⟩, tail⟩ := List.cons.inj same
    obtain ⟨rfl, rfl⟩ := ih answer follows follows' tail
    exact ⟨rfl, rfl⟩

end Session

namespace Log.Logger

/-- What handing on a record leaves in a transcript. -/
def noted (logger : Logger) (level : Level) (message : String) (pairs : List Pair) :
    Transcript :=
  if logger.keeps level then [⟨.log (logger.record level message pairs), ()⟩] else []

/-- What handing on a record of each fault leaves in a transcript. -/
def warned (logger : Logger) (message : String) (faults : List TransportFault) : Transcript :=
  faults.flatMap fun fault => logger.noted .warning message [("err", fault.message)]

/-- What closing a channel leaves in a transcript. -/
def closing (logger : Logger) (faulty closed : String) (faults : List TransportFault) :
    Transcript :=
  ⟨.close, faults⟩ :: (logger.warned faulty faults ++ logger.noted .debug closed [])

end Log.Logger

/-- Handing on a record leaves nothing but records. -/
theorem Log.Logger.record_noted {logger : Logger} {level : Level} {message : String}
    {pairs : List Pair} : ∀ e ∈ logger.noted level message pairs, e.record?.isSome := by
  intro e mem
  unfold noted at mem
  split at mem
  · cases List.mem_singleton.mp mem
    rfl
  · exact absurd mem List.not_mem_nil

theorem Log.Logger.record_warned {logger : Logger} {message : String}
    {faults : List TransportFault} : ∀ e ∈ logger.warned message faults, e.record?.isSome := by
  intro e mem
  obtain ⟨fault, -, noted⟩ := List.mem_flatMap.mp mem
  exact record_noted e noted

/-- Closing a channel is one operation, which nothing but records comes after. -/
theorem Log.Logger.aside_closing {logger : Logger} {faulty closed : String}
    {faults : List TransportFault} :
    ∀ e ∈ logger.closing faulty closed faults, e.record?.isSome ∨ e.operation = .close := by
  refine List.forall_mem_cons.mpr ⟨.inr rfl, List.forall_mem_append.mpr ⟨?_, ?_⟩⟩
  · exact fun e mem => .inl (record_warned e mem)
  · exact fun e mem => .inl (record_noted e mem)

theorem Session.follows_note {t : Transcript} {logger : Log.Logger} {level : Log.Level}
    {message : String} {pairs : List Log.Pair} :
    (Session.note logger level message pairs).Follows t () ↔
      t = logger.noted level message pairs := by
  unfold Session.note Log.Logger.noted
  split
  · exact Session.follows_perform
  · exact Session.follows_pure.trans (and_iff_left rfl)

/-- A session that is closed up after it is done, whatever it is done with. -/
theorem Session.follows_bind_after {β : Type} {s : Session β} {after : Session Unit}
    {t : Transcript} {value : β} :
    (do
      let result ← s
      after
      return result).Follows t value ↔
      ∃ rest last, t = rest ++ last ∧ s.Follows rest value ∧ after.Follows last () := by
  rw [follows_bind]
  constructor
  · rintro ⟨result, t₁, t₂, rfl, first, later⟩
    obtain ⟨⟨⟩, t₃, t₄, rfl, closes, rfl, rfl⟩ := follows_bind.mp later
    exact ⟨t₁, t₃, by rw [List.append_nil], first, closes⟩
  · rintro ⟨rest, last, rfl, first, closes⟩
    refine ⟨value, rest, last, rfl, first, ?_⟩
    exact follows_bind.mpr ⟨(), last, [], by simp, closes, rfl, rfl⟩

/-- Handing on a record of each fault. -/
theorem Session.follows_warned {logger : Log.Logger} {message : String}
    {faults : List TransportFault} {t : Transcript} :
    (faults.forM fun fault => note logger .warning message [("err", fault.message)]).Follows t () ↔
      t = logger.warned message faults := by
  induction faults generalizing t with
  | nil => exact follows_pure.trans (and_iff_left rfl)
  | cons fault rest ih =>
    refine follows_bind.trans ⟨?_, ?_⟩
    · rintro ⟨⟨⟩, t₁, t₂, rfl, first, later⟩
      rw [follows_note.mp first, ih.mp later]
      rfl
    · rintro rfl
      exact ⟨(), _, _, rfl, follows_note.mpr rfl, ih.mpr rfl⟩

/-! ## Turns that a shutdown can come before -/

namespace Session

/-- How one turn can go: it is shut down before it begins, or it begins. -/
inductive Passes {α : Type} (Turn : Transcript → α → Prop) (stopped : α) : Transcript → α → Prop
  | interrupted : Passes Turn stopped [⟨.turn, .interrupted⟩] stopped
  | begun {t : Transcript} {value : α} (turn : Turn t value) :
      Passes Turn stopped (⟨.turn, .begun⟩ :: t) value

section Passes

variable {α : Type} {t : Transcript} {Turn : Transcript → α → Prop} {stopped value : α}

theorem follows_pass {s : Session α} (turns : ∀ {t value}, s.Follows t value ↔ Turn t value) :
    (pass stopped s).Follows t value ↔ Passes Turn stopped t value := by
  constructor
  · rintro ⟨answer, rest, rfl, follows⟩
    cases answer with
    | begun => exact .begun (turns.mp follows)
    | interrupted =>
      obtain ⟨rfl, rfl⟩ := follows
      exact .interrupted
  · rintro (_ | ⟨turn⟩)
    · exact ⟨.interrupted, [], rfl, rfl, rfl⟩
    · exact ⟨.begun, _, rfl, turns.mpr turn⟩

/-- A turn that is not stopped by the shutdown before it has begun. -/
theorem Passes.exists_begun (pass : Passes Turn stopped t value) (other : value ≠ stopped) :
    ∃ rest, t = ⟨.turn, .begun⟩ :: rest ∧ Turn rest value := by
  cases pass with
  | interrupted => exact absurd rfl other
  | begun turn => exact ⟨_, rfl, turn⟩

/-- What the exchanges of a turn have in common, they have in common with its beginning. -/
theorem Passes.forall_mem {P : Exchange → Prop} (pass : Passes Turn stopped t value)
    (marks : ∀ answer, P ⟨.turn, answer⟩) (inside : ∀ {t}, Turn t value → ∀ e ∈ t, P e) :
    ∀ e ∈ t, P e := by
  cases pass with
  | interrupted => exact List.forall_mem_singleton.mpr (marks _)
  | begun turn => exact List.forall_mem_cons.mpr ⟨marks _, inside turn⟩

end Passes

end Session

/-! ## Closing a channel -/

/-- Closing a channel and handing on the records of it. -/
theorem Session.follows_close {logger : Log.Logger} {faulty closed : String} {t : Transcript} :
    (close logger faulty closed).Follows t () ↔
      ∃ faults, t = logger.closing faulty closed faults := by
  rw [close, follows_bind]
  constructor
  · rintro ⟨faults, t₁, t₂, rfl, closes, later⟩
    obtain ⟨⟨⟩, t₃, t₄, rfl, warns, notes⟩ := follows_bind.mp later
    rw [follows_perform.mp closes, follows_warned.mp warns, follows_note.mp notes]
    exact ⟨faults, rfl⟩
  · rintro ⟨faults, rfl⟩
    refine ⟨faults, [_], _, rfl, follows_perform.mpr rfl, follows_bind.mpr ?_⟩
    exact ⟨(), _, _, rfl, follows_warned.mpr rfl, follows_note.mpr rfl⟩

/-! ## Attempts -/

/-- What an answer to a send means for the client. -/
def SendAnswer.outcome (error : TransportFault → Error) : SendAnswer → Except Stop Unit
  | .taken => .ok ()
  | .fault reason => .error (.failed (error reason))
  | .interrupted => .error .shutdown

namespace Attempt

variable {α β : Type} {t : Transcript} {result : Except Stop β}

/-- Answered as in a transcript, an attempt asks exactly its operations, and then it has
a value or is stopped. -/
def Follows (a : Attempt α) (t : Transcript) (result : Except Stop α) : Prop :=
  (ExceptT.run a).Follows t result

theorem follows_pure {value : β} :
    Follows (pure value) t result ↔ t = [] ∧ result = .ok value :=
  Session.follows_pure.trans (and_congr_right' eq_comm)

theorem follows_throw {stop : Stop} :
    Follows (throw stop) t result ↔ t = [] ∧ result = .error stop :=
  Session.follows_pure.trans (and_congr_right' eq_comm)

theorem follows_fail {error : Error} :
    Follows (fail error) t result ↔ t = [] ∧ result = .error (.failed error) :=
  follows_throw

/-- What a session is done with is the value of the attempt. -/
theorem follows_lift {s : Session β} :
    Follows (liftM s) t result ↔ ∃ value, s.Follows t value ∧ result = .ok value := by
  change (s >>= fun value => pure (Except.ok value)).Follows t result ↔ _
  rw [Session.follows_bind]
  constructor
  · rintro ⟨value, t₁, t₂, rfl, first, rfl, rfl⟩
    exact ⟨value, by simpa using first, rfl⟩
  · rintro ⟨value, first, rfl⟩
    exact ⟨value, t, [], by simp, first, rfl, rfl⟩

/-- An attempt followed by another one is stopped in the first, or goes on with its
value. -/
theorem follows_bind {a : Attempt α} {next : α → Attempt β} :
    Follows (a >>= next) t result ↔
      (∃ stop, Follows a t (.error stop) ∧ result = .error stop) ∨
      ∃ value t₁ t₂, t = t₁ ++ t₂ ∧ Follows a t₁ (.ok value) ∧
        Follows (next value) t₂ result := by
  unfold Follows
  rw [ExceptT.run_bind, Session.follows_bind]
  constructor
  · rintro ⟨stop | value, t₁, t₂, rfl, first, second⟩
    · obtain ⟨rfl, rfl⟩ := second
      exact .inl ⟨stop, by simpa using first, rfl⟩
    · exact .inr ⟨value, t₁, t₂, rfl, first, second⟩
  · rintro (⟨stop, first, rfl⟩ | ⟨value, t₁, t₂, rfl, first, second⟩)
    · exact ⟨.error stop, t, [], by simp, first, rfl, rfl⟩
    · exact ⟨.ok value, t₁, t₂, rfl, first, second⟩

/-- An attempt that begins with an operation goes on with the answer to it. -/
theorem follows_perform_bind {operation : Operation} {next : operation.Answer → Attempt β} :
    Follows (liftM (Session.perform operation) >>= next) t result ↔
      ∃ answer rest, t = ⟨operation, answer⟩ :: rest ∧ Follows (next answer) rest result := by
  rw [follows_bind]
  constructor
  · rintro (⟨stop, first, -⟩ | ⟨answer, t₁, rest, rfl, first, second⟩)
    · obtain ⟨_, -, ⟨⟩⟩ := follows_lift.mp first
    · obtain ⟨_, first, ⟨⟩⟩ := follows_lift.mp first
      cases Session.follows_perform.mp first
      exact ⟨answer, rest, rfl, second⟩
  · rintro ⟨answer, rest, rfl, second⟩
    refine .inr ⟨answer, [_], rest, rfl, ?_, second⟩
    exact follows_lift.mpr ⟨answer, Session.follows_perform.mpr rfl, rfl⟩

/-- Handing on a record never stops an attempt. -/
theorem follows_note_bind {logger : Log.Logger} {level : Log.Level} {message : String}
    {pairs : List Log.Pair} {next : Unit → Attempt β} :
    Follows (liftM (Session.note logger level message pairs) >>= next) t result ↔
      ∃ rest, t = logger.noted level message pairs ++ rest ∧ Follows (next ()) rest result := by
  rw [follows_bind]
  constructor
  · rintro (⟨stop, first, -⟩ | ⟨⟨⟩, t₁, rest, rfl, first, second⟩)
    · obtain ⟨_, -, ⟨⟩⟩ := follows_lift.mp first
    · obtain ⟨_, first, -⟩ := follows_lift.mp first
      cases Session.follows_note.mp first
      exact ⟨rest, rfl, second⟩
  · rintro ⟨rest, rfl, second⟩
    refine .inr ⟨(), _, rest, rfl, ?_, second⟩
    exact follows_lift.mpr ⟨(), Session.follows_note.mpr rfl, rfl⟩

/-- An attempt whose value is only changed ends as before, with the changed value. -/
theorem follows_bind_pure {a : Attempt α} {change : α → β} :
    Follows (a >>= fun value => pure (change value)) t result ↔
      ∃ ended, Follows a t ended ∧ result = ended.map change := by
  rw [follows_bind]
  constructor
  · rintro (⟨stop, first, rfl⟩ | ⟨value, t₁, t₂, rfl, first, second⟩)
    · exact ⟨.error stop, first, rfl⟩
    · obtain ⟨rfl, rfl⟩ := follows_pure.mp second
      exact ⟨.ok value, by simpa using first, rfl⟩
  · rintro ⟨stop | value, first, rfl⟩
    · exact .inl ⟨stop, first, rfl⟩
    · exact .inr ⟨value, t, [], by simp, first, follows_pure.mpr ⟨rfl, rfl⟩⟩

/-- An attempt that only hands on a record. -/
theorem follows_note_pure {logger : Log.Logger} {level : Log.Level} {message : String}
    {pairs : List Log.Pair} {value : β} :
    Follows (liftM (Session.note logger level message pairs) >>= fun _ => pure value) t result ↔
      t = logger.noted level message pairs ∧ result = .ok value := by
  rw [follows_note_bind]
  constructor
  · rintro ⟨rest, rfl, later⟩
    obtain ⟨rfl, rfl⟩ := follows_pure.mp later
    exact ⟨List.append_nil _, rfl⟩
  · rintro ⟨rfl, rfl⟩
    exact ⟨[], (List.append_nil _).symm, follows_pure.mpr ⟨rfl, rfl⟩⟩

theorem follows_orFail {ε : Type} {error : ε → Error} {outcome : Except ε β} :
    Follows (orFail error outcome) t result ↔
      t = [] ∧ result = outcome.mapError fun fault => .failed (error fault) := by
  cases outcome with
  | ok value => exact follows_pure
  | error fault => exact follows_fail

/-- A message that is not taken stops an attempt. -/
theorem follows_send {payload : Bytes} {error : TransportFault → Error}
    {result : Except Stop Unit} :
    Follows (send error payload) t result ↔
      ∃ answer : SendAnswer, t = [⟨.send payload, answer⟩] ∧ result = answer.outcome error := by
  unfold send
  rw [follows_perform_bind]
  constructor
  · rintro ⟨answer, rest, rfl, later⟩
    cases answer with
    | taken =>
      obtain ⟨rfl, rfl⟩ := follows_pure.mp later
      exact ⟨_, rfl, rfl⟩
    | fault fault =>
      obtain ⟨rfl, rfl⟩ := follows_fail.mp later
      exact ⟨_, rfl, rfl⟩
    | interrupted =>
      obtain ⟨rfl, rfl⟩ := follows_throw.mp later
      exact ⟨_, rfl, rfl⟩
  · rintro ⟨answer, rfl, rfl⟩
    refine ⟨answer, [], rfl, ?_⟩
    cases answer with
    | taken => exact follows_pure.mpr ⟨rfl, rfl⟩
    | fault fault => exact follows_fail.mpr ⟨rfl, rfl⟩
    | interrupted => exact follows_throw.mpr ⟨rfl, rfl⟩

/-- Sending that is recorded first. -/
theorem follows_note_send {logger : Log.Logger} {level : Log.Level} {message : String}
    {pairs : List Log.Pair} {payload : Bytes} {error : TransportFault → Error}
    {result : Except Stop Unit} :
    Follows
        (do
          liftM (Session.note logger level message pairs)
          send error payload)
        t result ↔
      ∃ answer : SendAnswer,
        t = logger.noted level message pairs ++ [⟨.send payload, answer⟩] ∧
        result = answer.outcome error := by
  rw [follows_note_bind]
  constructor
  · rintro ⟨rest, rfl, follows⟩
    obtain ⟨answer, rfl, rfl⟩ := follows_send.mp follows
    exact ⟨answer, rfl, rfl⟩
  · rintro ⟨answer, rfl, rfl⟩
    exact ⟨_, rfl, follows_send.mpr ⟨answer, rfl, rfl⟩⟩

end Attempt

/-! ## Environments -/

namespace Environment

/-- An environment answers operations as in a transcript, and leaves another one. -/
def Gives (env : Environment) : Transcript → Environment → Prop
  | [], final => env = final
  | e :: rest, final =>
    (env.answer e.operation).1 = e.answer ∧ (env.answer e.operation).2.Gives rest final

variable {env final : Environment} {t : Transcript}

theorem gives_cons {operation : Operation} {answer : operation.Answer} :
    env.Gives (⟨operation, answer⟩ :: t) final ↔
      (env.answer operation).1 = answer ∧ (env.answer operation).2.Gives t final := Iff.rfl

theorem gives_append {t₁ t₂ : Transcript} :
    env.Gives (t₁ ++ t₂) final ↔ ∃ middle, env.Gives t₁ middle ∧ middle.Gives t₂ final := by
  induction t₁ generalizing env with
  | nil => simp [Gives]
  | cons e rest ih => simp [Gives, ih, and_assoc]

/-- What an environment gives leaves it in one way. -/
theorem Gives.unique {final' : Environment} (gives : env.Gives t final)
    (gives' : env.Gives t final') : final = final' := by
  induction t generalizing env with
  | nil => exact gives.symm.trans gives'
  | cons e rest ih => exact ih gives.2 gives'.2

/-- What every answer keeps holds in the end, and what it entails holds of every
exchange. -/
theorem Gives.invariant {Kept : Environment → Prop} {Seen : Exchange → Prop}
    (kept : ∀ env operation, Kept env → Kept (env.answer operation).2)
    (seen : ∀ env operation, Kept env → Seen ⟨operation, (env.answer operation).1⟩)
    (gives : env.Gives t final) (start : Kept env) : Kept final ∧ ∀ e ∈ t, Seen e := by
  induction t generalizing env with
  | nil =>
    cases gives
    exact ⟨start, by simp⟩
  | cons e rest ih =>
    obtain ⟨operation, answer⟩ := e
    obtain ⟨rfl, later⟩ := gives_cons.mp gives
    obtain ⟨last, others⟩ := ih later (kept env operation start)
    exact ⟨last, List.forall_mem_cons.mpr ⟨seen env operation start, others⟩⟩

end Environment

/-- **A run is agreed on by both sides.**  It is the one transcript that the session
follows and the environment gives. -/
theorem Session.run_eq_iff {α : Type} {s : Session α} {env final : Environment} {value : α}
    {t : Transcript} :
    s.run env = ⟨value, final, t⟩ ↔ s.Follows t value ∧ env.Gives t final := by
  induction s generalizing env t with
  | done result =>
    rw [run_done]
    constructor
    · rintro ⟨⟩
      exact ⟨⟨rfl, rfl⟩, rfl⟩
    · rintro ⟨⟨rfl, rfl⟩, rfl⟩
      rfl
  | ask operation next ih =>
    rw [run_ask]
    constructor
    · rintro ⟨⟩
      -- The rest of the session runs where the first answer has left the environment.
      have rest := (ih (env.answer operation).1).mp (rfl :
        (next (env.answer operation).1).run (env.answer operation).2 = _)
      exact ⟨⟨_, _, rfl, rest.1⟩, rfl, rest.2⟩
    · rintro ⟨⟨answer, rest, rfl, follows⟩, gives⟩
      obtain ⟨rfl, later⟩ := Environment.gives_cons.mp gives
      rw [(ih _).mpr ⟨follows, later⟩]

/-- A run follows its own transcript. -/
theorem Session.follows_run {α : Type} (s : Session α) (env : Environment) :
    s.Follows (s.run env).transcript (s.run env).value :=
  (run_eq_iff.mp rfl).1

/-- An environment gives the transcript of a run. -/
theorem Session.gives_run {α : Type} (s : Session α) (env : Environment) :
    env.Gives (s.run env).transcript (s.run env).env :=
  (run_eq_iff.mp rfl).2

end MessagingConsole
