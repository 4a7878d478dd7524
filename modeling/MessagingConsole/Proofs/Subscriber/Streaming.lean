import MessagingConsole.Proofs.Session.OutputLimits
import MessagingConsole.Proofs.Subscriber.Delivery

/-!
# Streaming and printing

A subscriber hands out its messages in two ways: as a stream, which keeps the subscriber between
one item and the next, and by printing them in a loop that can be shut down.  Both wait in the same
way.  So a stream has for its items the messages that the filter accepts, and then the error if
receiving fails, after which it ends.  It gives no item after that, and panics when it is polled
after its end.  With the `n`-th flush of a printing subscriber the first `n` items are printed,
wherever it is stopped.

## Main Definitions

- `Feed.answers` - what a stream answers that is asked again and again.
- `Quiet.answers` - how the answers go on when nothing arrives any more.
- `Subscriber.yielded` - the messages among the first items of a stream.

## Main Results

- `Feed.next_cases` - what one request to a stream comes to.
- `Feed.answers_of_handsUp` - all answers of a stream.
- `Turns.flushed_take` - what has been printed with so many flushes.
- `streams_as_printed` - a stream and a printing subscriber hand out the same messages.
-/

namespace MessagingConsole

/-! ## What has been flushed -/

namespace Transcript

variable {t : Transcript}

@[simp] theorem flushes_noted {logger : Log.Logger} {level : Log.Level} {message : String}
    {pairs : List Log.Pair} : flushes (logger.noted level message pairs) = 0 := by
  unfold Log.Logger.noted
  split <;> rfl

/-- Exchanges that put nothing out and flush nothing do not count. -/
theorem flushedFrom_append {unflushed : Bytes} (output : t.output = []) (none : t.flushes = 0)
    (rest : Transcript) : flushedFrom unflushed (t ++ rest) = flushedFrom unflushed rest := by
  induction t with
  | nil => rfl
  | cons e t ih =>
    rw [Transcript.output_cons, List.append_eq_nil_iff] at output
    obtain ⟨unflushing, later⟩ := List.countP_eq_zero.mp none |> List.forall_mem_cons.mp
    rw [List.cons_append, flushedFrom, if_neg unflushing, output.1, List.append_nil]
    exact ih output.2 (List.countP_eq_zero.mpr later)

/-- A chunk that was written is flushed as it is. -/
theorem flushed_shown (chunk : Bytes) (rest : Transcript) :
    flushed (Terminal.shown chunk ++ rest) = chunk :: flushed rest := by
  simp [flushed, flushedFrom, Terminal.shown, Exchange.isFlush, Exchange.output]

theorem flushes_shown (chunk : Bytes) : flushes (Terminal.shown chunk) = 1 := rfl

/-- A chunk that could not be shown was not flushed. -/
theorem flushes_of_breaks {chunk : Bytes} {error : Error}
    (breaks : Terminal.Breaks chunk t error) : t.flushes = 0 := by
  cases breaks <;> rfl

end Transcript

/-- What comes of polling a stream that gives no message any more: the error, once, then its
end.  Every poll after the end panics, which is what `exhausted` stands for. -/
def Quiet.answers (endpoint : Endpoint) (count : Nat) : Quiet → List Subscriber.Feed.Answer
  | .fault f => .item (.error (.receive endpoint f)) :: .ended :: List.replicate count .exhausted
  | .silence => [.interrupted]

namespace Subscriber

variable {s : Subscriber} {format : LineFormat} {t : Transcript} {budget printed : Nat}

theorem Reception.flushes_eq_zero {result : Except Stop Message}
    (reception : Reception s budget t result) : t.flushes = 0 := by
  induction reception with
  | spent => rfl
  | unanswered => rfl
  | accepted => exact Transcript.flushes_noted
  | dropped _ _ ih =>
    rw [← List.singleton_append, Transcript.flushes_append, Transcript.flushes_append, ih]
    exact congrArg (0 + ·) (congrArg (· + 0) Transcript.flushes_noted)

/-- A turn that goes on flushes the line of the one message that it prints. -/
theorem Turn.flushed_one (turn : Turn s format budget t (.ok ())) (rest : Transcript) :
    ∃ message, s.filter.among t.received = [message] ∧ t.flushes = 1 ∧
      (t ++ rest).flushed = format.line message :: rest.flushed := by
  cases turn with
  | @received message t₁ t₂ _ reception printed =>
    obtain ⟨output, among⟩ := reception.among_received
    have unflushed := reception.flushes_eq_zero
    rcases Terminal.prints_singleton_iff.mp printed with ⟨rfl, -⟩ | ⟨error, -, ⟨⟩⟩
    refine ⟨message, ?_, ?_, ?_⟩
    · rw [Transcript.received_append, printed.received, List.append_nil, among]
      rfl
    · rw [Transcript.flushes_append, unflushed, Transcript.flushes_shown]
    · rw [List.append_assoc, Transcript.flushed, Transcript.flushedFrom_append output unflushed]
      exact Transcript.flushed_shown _ rest

/-- A turn that is stopped has flushed nothing. -/
theorem Turn.flushes_eq_zero {stop : Stop} (turn : Turn s format budget t (.error stop)) :
    t.flushes = 0 := by
  cases turn with
  | stopped reception => exact reception.flushes_eq_zero
  | received reception printed =>
    rcases Terminal.prints_singleton_iff.mp printed with ⟨-, ⟨⟩⟩ | ⟨error, breaks, -⟩
    rw [Transcript.flushes_append, reception.flushes_eq_zero, Transcript.flushes_of_breaks breaks]

/-- **With so many flushes so many messages are printed**, of those received that the filter
accepts, however printing ends. -/
theorem Turns.flushed_take {value : Except Error Nat}
    (turns : Turns s format budget printed t value) :
    t.flushes ≤ (s.filter.among t.received).length ∧
      t.flushed.take t.flushes = ((s.filter.among t.received).take t.flushes).map format.line := by
  have nothing {t : Transcript} (none : t.flushes = 0) :
      t.flushes ≤ (s.filter.among t.received).length ∧
        t.flushed.take t.flushes =
          ((s.filter.among t.received).take t.flushes).map format.line := by
    rw [none]
    exact ⟨Nat.zero_le _, rfl⟩
  induction turns with
  | spent => exact nothing rfl
  | @again budget printed t₁ t₂ value turn later ih =>
    obtain ⟨message, among, one, flushed⟩ := turn.flushed_one t₂
    obtain ⟨few, lines⟩ := ih
    rw [Transcript.flushes_append, one, flushed, Transcript.received_append,
      TopicFilter.among_append, among, Nat.add_comm, List.singleton_append, List.take_succ_cons,
      List.take_succ_cons, List.map_cons, lines]
    exact ⟨Nat.succ_le_succ few, rfl⟩
  | shutdown turn =>
    refine nothing ?_
    rw [Transcript.flushes_append, turn.flushes_eq_zero, Transcript.flushes_noted]
  | failed turn => exact nothing turn.flushes_eq_zero

/-- Unless the output fails, everything that was flushed are the lines of all messages that were
received and that the filter accepts. -/
theorem Turns.flushed_eq {value : Except Error Nat}
    (turns : Turns s format budget printed t value)
    (taken : ∀ reason, value ≠ .error (.console reason)) :
    t.flushed = (s.filter.among t.received).map format.line := by
  induction turns with
  | spent => rfl
  | @again budget printed t₁ t₂ value turn later ih =>
    obtain ⟨message, among, -, flushed⟩ := turn.flushed_one t₂
    rw [flushed, Transcript.received_append, TopicFilter.among_append, among, ih taken]
    rfl
  | @shutdown budget printed t turn =>
    obtain ⟨among, output⟩ := turn.printed_none
    rw [Transcript.flushed, Transcript.flushedFrom_append output turn.flushes_eq_zero,
      Transcript.received_append, TopicFilter.among_append, among, Log.Logger.received_noted]
    unfold Log.Logger.noted
    split <;> rfl
  | @failed budget printed t error turn =>
    cases turn with
    | stopped reception =>
      obtain ⟨output, among⟩ := reception.among_received
      rw [among, ← List.append_nil t, Transcript.flushed,
        Transcript.flushedFrom_append output reception.flushes_eq_zero]
      rfl
    | received reception printed =>
      rcases Terminal.prints_singleton_iff.mp printed with ⟨-, ⟨⟩⟩ | ⟨error, breaks, same⟩
      cases same
      cases breaks <;> exact absurd rfl (taken _)

/-- The number that is told when printing ends well is that of the flushes. -/
theorem Turns.flushes_eq {count : Nat} (turns : Turns s format budget printed t (.ok count)) :
    count = printed + t.flushes := by
  generalize ends : (.ok count : Except Error Nat) = value at turns
  induction turns with
  | spent =>
    cases ends
    rfl
  | @again budget printed t₁ t₂ value turn later ih =>
    obtain ⟨message, -, one, -⟩ := turn.flushed_one t₂
    rw [ih ends, Transcript.flushes_append, one, Nat.add_assoc]
  | shutdown turn =>
    cases ends
    rw [Transcript.flushes_append, turn.flushes_eq_zero, Transcript.flushes_noted, Nat.add_zero]
  | failed => cases ends

/-! ## One request to a stream -/

section Stream

variable {env : Environment} {messages : List Message} {quiet : Quiet}

/-- What a stream answers where waiting ends so, and how it stands then. -/
def Feed.ofResult (s : Subscriber) : Except Stop Message → Feed.Answer × Feed
  | .ok message => (.item (.ok message), .waiting s)
  | .error (.failed error) => (.item (.error error), .failed)
  | .error .shutdown => (.interrupted, .waiting s)

theorem Feed.next_waiting (s : Subscriber) (budget : Nat) :
    (Feed.waiting s).next budget =
      (s.receive budget).run.bind fun result => .done (ofResult s result) := by
  refine congrArg (Session.bind _) (funext fun result => ?_)
  rcases result with (_ | error) | message <;> rfl

theorem Feed.run_next (s : Subscriber) (budget : Nat) (env : Environment) :
    let waited := Session.run (s.receive budget).run env
    (((Feed.waiting s).next budget).run env).value = ofResult s waited.value ∧
      (((Feed.waiting s).next budget).run env).env = waited.env := by
  rw [Feed.next_waiting, Session.run_bind]
  exact ⟨rfl, rfl⟩

/-- **One request to a stream** comes to the next message that the filter accepts, if there is one,
and the stream goes on behind it; else to the way in which the link is quiet. -/
theorem Feed.next_cases (hands : env.link.HandsUp messages quiet)
    (enough : messages.length < budget) :
    let asked := ((Feed.waiting s).next budget).run env
    (s.filter.among messages = [] ∧ asked.value = ofResult s (.error (quiet.stop s.endpoint))) ∨
    ∃ message rest, s.filter.among messages = message :: s.filter.among rest ∧
      rest.length < messages.length ∧ asked.value = (.item (.ok message), .waiting s) ∧
      asked.env.link.HandsUp rest quiet := by
  have reception := follows_receive_iff.mp (Session.follows_run (s.receive budget).run env)
  have gives := Session.gives_run (s.receive budget).run env
  have among := reception.among_received.2
  obtain ⟨value, later⟩ := Feed.run_next s budget env
  rcases reception.received_of_handsUp gives hands enough with
    ⟨ends, all⟩ | ⟨message, rest, ends, all, fewer, hands, -⟩
  · rw [all, ends] at among
    exact .inl ⟨among, value.trans (congrArg _ ends)⟩
  · rw [ends] at among
    refine .inr ⟨message, rest, ?_, fewer, value.trans (congrArg _ ends), ?_⟩
    · rw [← all, TopicFilter.among_append, among]
      rfl
    · rw [later]
      exact hands

/-! ## All answers of a stream -/

/-- What a stream answers that is asked again and again, until the client is shut down. -/
def Feed.answers (budget : Nat) : (count : Nat) → Feed → Session (List Feed.Answer)
  | 0, _ => return []
  | count + 1, feed => do
    match ← feed.next budget with
    | (.interrupted, _) => return [.interrupted]
    | (answer, feed) => return answer :: (← feed.answers budget count)

/-- After an answer other than a shutdown a stream is asked again. -/
theorem Feed.answers_succ {feed next : Feed} {answer : Feed.Answer} (count : Nat)
    (asked : ((feed.next budget).run env).value = (answer, next))
    (goesOn : answer ≠ .interrupted) :
    ((feed.answers budget (count + 1)).run env).value =
      answer :: ((next.answers budget count).run ((feed.next budget).run env).env).value := by
  show (Session.run (Session.bind (feed.next budget) _) env).value = _
  rw [Session.run_bind]
  dsimp only
  rw [asked]
  cases answer with
  | interrupted => exact absurd rfl goesOn
  | _ =>
    show (Session.run (Session.bind (next.answers budget count) _) _).value = _
    rw [Session.run_bind]
    rfl

/-- A stream that is interrupted is not asked again. -/
theorem Feed.answers_interrupted {feed next : Feed} (count : Nat)
    (asked : ((feed.next budget).run env).value = (.interrupted, next)) :
    ((feed.answers budget (count + 1)).run env).value = [.interrupted] := by
  show (Session.run (Session.bind (feed.next budget) _) env).value = _
  rw [Session.run_bind]
  dsimp only
  rw [asked]
  rfl

/-- A stream that has told its end is finished for good: it panics whenever it is polled. -/
theorem Feed.answers_finished (budget count : Nat) (env : Environment) :
    ((Feed.finished.answers budget count).run env).value = List.replicate count .exhausted := by
  induction count generalizing env with
  | zero => rfl
  | succ count ih =>
    have asked : ((Feed.finished.next budget).run env).value = (.exhausted, .finished) := rfl
    rw [Feed.answers_succ count asked nofun, ih, List.replicate_succ]

/-- A stream whose last item was an error ends, and is finished after that. -/
theorem Feed.answers_failed (budget : Nat) {count more : Nat} (few : count ≤ more)
    (env : Environment) : ((Feed.failed.answers budget count).run env).value =
      (.ended :: List.replicate more .exhausted).take count := by
  cases count with
  | zero => rfl
  | succ count =>
    have asked : ((Feed.failed.next budget).run env).value = (.ended, .finished) := rfl
    rw [Feed.answers_succ count asked nofun, Feed.answers_finished, List.take_succ_cons,
      List.take_replicate, Nat.min_eq_left (Nat.le_of_succ_le few)]

/-- **The answers of a stream** are the messages that the filter accepts, in the order of their
arrival, and then those of a link that is quiet. -/
theorem Feed.answers_of_handsUp {count more : Nat} (hands : env.link.HandsUp messages quiet)
    (enough : messages.length < budget) (few : count ≤ more) :
    (((Feed.waiting s).answers budget count).run env).value =
      ((s.filter.among messages).map (fun m => Feed.Answer.item (.ok m)) ++
        quiet.answers s.endpoint more).take count := by
  induction count generalizing env messages with
  | zero => rfl
  | succ count ih =>
    rcases Feed.next_cases (s := s) hands enough with
      ⟨none, asked⟩ | ⟨message, rest, found, fewer, asked, hands⟩
    · rw [none]
      cases quiet with
      | fault fault =>
        rw [Feed.answers_succ count asked nofun,
          Feed.answers_failed budget (Nat.le_of_succ_le few)]
        rfl
      | silence =>
        rw [Feed.answers_interrupted count asked]
        exact (List.take_of_length_le (Nat.succ_le_succ count.zero_le)).symm
    · rw [Feed.answers_succ count asked nofun,
        ih hands (Nat.lt_trans fewer enough) (Nat.le_of_succ_le few), found]
      rfl

/-! ## The items of a stream -/

/-- What an answer adds to the items of a stream; a shutdown counts as one. -/
def Feed.Answer.given? : Feed.Answer → Option (Except Stop Message)
  | .item given => some (given.mapError .failed)
  | .interrupted => some (.error .shutdown)
  | .ended | .exhausted => none

/-- A stream that gives nothing is finished. -/
theorem Feed.finished_of_given? {feed next : Feed} {answer : Feed.Answer}
    (asked : ((feed.next budget).run env).value = (answer, next)) (none : answer.given? = none) :
    next = .finished := by
  cases feed with
  | waiting s =>
    obtain ⟨value, -⟩ := Feed.run_next s budget env
    rw [asked] at value
    generalize (Session.run (s.receive budget).run env).value = result at value
    rcases result with (_ | error) | message <;> cases value <;> cases none
  | failed =>
    cases asked
    rfl
  | finished =>
    cases asked
    rfl

/-- The items of a stream are those of its answers. -/
theorem Feed.take_eq_answers (budget count : Nat) (feed : Feed) (env : Environment) :
    ((feed.take budget count).run env).value =
      ((feed.answers budget count).run env).value.filterMap Feed.Answer.given? := by
  induction count generalizing feed env with
  | zero => rfl
  | succ count ih =>
    rcases asked : ((feed.next budget).run env).value with ⟨answer, next⟩
    show (Session.run (Session.bind (feed.next budget) _) env).value = _
    rw [Session.run_bind]
    dsimp only
    rw [asked]
    cases answer with
    | item given =>
      rw [Feed.answers_succ count asked nofun]
      show (Session.run (Session.bind (next.take budget count) _) _).value = _
      rw [Session.run_bind]
      exact congrArg (given.mapError .failed :: ·) (ih next _)
    | interrupted =>
      rw [Feed.answers_interrupted count asked]
      rfl
    | _ =>
      rw [Feed.answers_succ count asked nofun, Feed.finished_of_given? asked rfl,
        Feed.answers_finished]
      exact (List.filterMap_replicate_of_none rfl).symm

/-- What a quiet link adds to the items of a stream is what stops the client. -/
theorem given?_take_answers (endpoint : Endpoint) (quiet : Quiet) (count more : Nat) :
    ((quiet.answers endpoint more).take count).filterMap Feed.Answer.given? =
      [.error (quiet.stop endpoint)].take count := by
  rcases count with _ | _ | count
  · rfl
  · cases quiet <;> rfl
  · cases quiet with
    | fault fault =>
      show Except.error _ ::
        ((List.replicate more Feed.Answer.exhausted).take count).filterMap _ = _
      rw [List.take_replicate, List.filterMap_replicate_of_none rfl]
      rfl
    | silence => rfl

/-- **The items of a stream** are the messages that the filter accepts and what stops the client
behind them. -/
theorem messages_of_handsUp (hands : env.link.HandsUp messages quiet)
    (enough : messages.length < budget) (count : Nat) :
    ((s.messages budget count).run env).value =
      ((s.filter.among messages).map Except.ok ++ [Except.error (quiet.stop s.endpoint)]).take
        count := by
  rw [Subscriber.messages, Feed.take_eq_answers,
    Feed.answers_of_handsUp hands enough (Nat.le_refl count), List.take_append, List.take_append,
    List.filterMap_append, given?_take_answers, List.length_map, List.length_map,
    ← List.map_take, ← List.map_take, List.filterMap_map, ← List.filterMap_eq_map]
  rfl

/-- The messages among the first items of a stream. -/
def yielded (s : Subscriber) (budget count : Nat) (env : Environment) : List Message :=
  ((s.messages budget count).run env).value.filterMap Except.toOption

theorem yielded_of_handsUp (hands : env.link.HandsUp messages quiet)
    (enough : messages.length < budget) (count : Nat) :
    s.yielded budget count env = (s.filter.among messages).take count := by
  have last : ([Except.error (quiet.stop s.endpoint)].take
      (count - (s.filter.among messages).length)).filterMap Except.toOption =
        ([] : List Message) := by
    refine List.filterMap_eq_nil_iff.mpr fun item mem => ?_
    rw [List.mem_singleton.mp (List.mem_of_mem_take mem)]
    rfl
  rw [yielded, messages_of_handsUp hands enough, List.take_append, List.filterMap_append,
    List.length_map, last, List.append_nil, ← List.map_take, List.filterMap_map]
  exact List.filterMap_some

/-! ## A stream beside a printing subscriber -/

/-- With so many flushes a printing subscriber has printed so many items of the stream, where all
that it was handed up is at the front of what the stream is handed up. -/
theorem Turns.flushed_eq_yielded {value : Except Error Nat} {count bound : Nat}
    (turns : Turns s format bound printed t value) (received : t.received <+: messages)
    (hands : env.link.HandsUp messages quiet) (enough : messages.length < budget)
    (few : count ≤ t.flushes) :
    (t.flushed.take count).flatten = (s.yielded budget count env).flatMap format.line := by
  obtain ⟨shown, lines⟩ := turns.flushed_take
  obtain ⟨rest, rfl⟩ := received
  have fits := Nat.le_trans few shown
  have printed : t.flushed.take count =
      ((s.filter.among t.received).take count).map format.line := by
    have first := congrArg (List.take count) lines
    rwa [List.take_take, ← List.map_take, List.take_take, Nat.min_eq_left few] at first
  rw [yielded_of_handsUp hands enough, TopicFilter.among_append,
    List.take_append_of_le_length fits, printed, List.flatMap_def]

/-- On an output that takes everything a subscriber prints all that the filter accepts, a flush for
each, and comes to what the link comes to. -/
theorem Turns.flushed_all {value : Except Error Nat} {final : Environment} {bound : Nat}
    (turns : Turns s format bound 0 t value) (gives : env.Gives t final)
    (hands : env.link.HandsUp messages quiet) (enough : messages.length < bound)
    (unlimited : env.sink = .unlimited) :
    value = quiet.value s.endpoint (s.filter.among messages).length ∧
      t.flushed = (s.filter.among messages).map format.line := by
  obtain ⟨received, count, rfl⟩ := (turns.received_of_handsUp gives hands enough).2 unlimited
  have taken (reason : String) : quiet.value s.endpoint count ≠ .error (.console reason) := by
    cases quiet <;> exact nofun
  have flushed := turns.flushed_eq taken
  rw [received] at flushed
  refine ⟨?_, flushed⟩
  cases quiet with
  | fault fault => rfl
  | silence =>
    obtain ⟨-, counted⟩ := turns.output_eq
    rw [received, Nat.zero_add] at counted
    rw [counted]

/-- **The stream and the printing loop hand out the same messages.**  Whatever arrives, and however
the link falls quiet behind it, a stream that is asked again and again answers with the messages
whose first frame begins with the filter, in the order of their arrival; where receiving fails then,
with that error, once, and with its end.  A stream that is polled after its end panics, each time,
and gives no item.  However many of its items are taken, they are the first of these messages and
what stops the client.  A subscriber that prints what arrives, and is stopped anywhere, has with
the `n`-th flush printed the first `n` messages of the stream, and when it ends well tells how
often it has flushed.  Where nothing stops it before the link is quiet it has printed all of them,
and fails as the stream does. -/
theorem streams_as_printed (s : Subscriber) {arrived : List Message} {quiet : Quiet}
    {env : Environment} {budget : Nat} (hands : env.link.HandsUp arrived quiet)
    (enough : env.budget ≤ budget) :
    (∀ count, (((Feed.waiting s).answers budget count).run env).value =
      ((s.filter.among arrived).map (fun m => Feed.Answer.item (.ok m)) ++
        quiet.answers s.endpoint count).take count) ∧
    (∀ count, ((s.messages budget count).run env).value =
      ((s.filter.among arrived).map Except.ok ++
        [Except.error (quiet.stop s.endpoint)]).take count) ∧
    (∀ (format : LineFormat) (point : Nat) (after : Quiet) (surroundings : Environment),
      surroundings.link.HandsUp (arrived.take point) after → surroundings.budget ≤ budget →
      let printing := (s.printAll format budget 0).run surroundings
      let t := printing.transcript
      (∀ count ≤ t.flushes,
        (t.flushed.take count).flatten = (s.yielded budget count env).flatMap format.line) ∧
      ∀ count, printing.value = .ok count → t.flushes = count) ∧
    (∀ format : LineFormat, env.sink = .unlimited →
      let printing := (s.printAll format budget 0).run env
      printing.value = quiet.value s.endpoint (s.filter.among arrived).length ∧
      ∀ count, (printing.transcript.flushed.take count).flatten =
        (s.yielded budget count env).flatMap format.line) := by
  have fits := Nat.lt_of_lt_of_le (length_lt_budget hands) enough
  refine ⟨fun count => Feed.answers_of_handsUp hands fits (Nat.le_refl count),
    messages_of_handsUp hands fits, ?_, ?_⟩
  · intro format point after surroundings brings bounded printing t
    have turns := follows_printAll_iff.mp
      (Session.follows_run (s.printAll format budget 0) surroundings)
    have begins := (turns.received_of_handsUp (Session.gives_run _ surroundings) brings
      (Nat.lt_of_lt_of_le (length_lt_budget brings) bounded)).1
    refine ⟨fun count few => ?_, fun count ends => ?_⟩
    · exact turns.flushed_eq_yielded (begins.trans (List.take_prefix point arrived)) hands fits few
    · rw [show (Session.run _ surroundings).value = _ from ends] at turns
      rw [turns.flushes_eq, Nat.zero_add]
  · intro format unlimited printing
    have turns := follows_printAll_iff.mp (Session.follows_run (s.printAll format budget 0) env)
    obtain ⟨value, flushed⟩ :=
      turns.flushed_all (Session.gives_run _ env) hands fits unlimited
    refine ⟨value, fun count => ?_⟩
    rw [show printing.transcript.flushed = _ from flushed, yielded_of_handsUp hands fits,
      ← List.map_take, List.flatMap_def]

/-- Three messages, the second of which does not begin with the filter, and a fault behind them:
what a stream answers that is asked five times, the last of them after its end, and what is printed
with the first flush and in all. -/
theorem streams_as_printed_to_a_fault :
    let message (frames : List String) : Message := ⟨frames.map Utf8.encode, ⟨0, 0, 0⟩⟩
    let arrived := [message ["t1", " up"], message ["t", "1 down"], message ["t1"]]
    let link : Link :=
      { sends := [], sendsAfter := .taken, arrivals := arrived.map .message,
        arrivalsAfter := .fault .noMessage }
    let env := { Environment.calm "" ⟨[]⟩ [] with link }
    let s : Subscriber := ⟨⟨"localhost", 5556⟩, ⟨"t1"⟩, .silent⟩
    let printing := (s.printAll .plain env.budget 0).run env
    (((Feed.waiting s).answers env.budget 5).run env).value =
      [.item (.ok (message ["t1", " up"])), .item (.ok (message ["t1"])),
        .item (.error (.receive s.endpoint .noMessage)), .ended, .exhausted] ∧
      printing.value = .error (.receive s.endpoint .noMessage) ∧
      (printing.transcript.flushed.take 1).flatten = Utf8.encode "t1 up\n" ∧
      (printing.transcript.flushed.take 9).flatten = Utf8.encode "t1 up\nt1\n" := by
  intro message arrived link env s printing
  have hands : env.link.HandsUp arrived (.fault .noMessage) := ⟨[], rfl⟩
  have among : s.filter.among arrived = [message ["t1", " up"], message ["t1"]] := by decide
  obtain ⟨answers, -, -, whole⟩ := streams_as_printed s hands (Nat.le_refl _)
  obtain ⟨value, flushed⟩ := whole .plain rfl
  have fits := length_lt_budget hands
  refine ⟨(answers 5).trans ?_, value, (flushed 1).trans ?_, (flushed 9).trans ?_⟩
  · rw [among]
    rfl
  · rw [yielded_of_handsUp hands fits, among]
    decide
  · rw [yielded_of_handsUp hands fits, among]
    decide

end Stream

end Subscriber

end MessagingConsole
