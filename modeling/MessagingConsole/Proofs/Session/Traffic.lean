import MessagingConsole.Proofs.Session.Printing

/-!
# What a transcript puts out, sends, receives and hands on

Output, traffic and records of the transcripts that sessions are made of: records are neither
output nor traffic, and what is shown is all output.
-/

namespace MessagingConsole

namespace Exchange

theorem sent?_of_isOutput {e : Exchange} (output : e.isOutput) : e.sent? = none := by
  obtain ⟨operation, answer⟩ := e
  cases operation <;> first | rfl | simp [isOutput] at output

theorem received?_of_isOutput {e : Exchange} (output : e.isOutput) : e.received? = none := by
  obtain ⟨operation, answer⟩ := e
  cases operation <;> first | rfl | simp [isOutput] at output

@[simp] theorem sent?_turn (answer : TurnAnswer) : sent? ⟨.turn, answer⟩ = none := rfl

@[simp] theorem received?_turn (answer : TurnAnswer) : received? ⟨.turn, answer⟩ = none := rfl

@[simp] theorem output_turn (answer : TurnAnswer) : output ⟨.turn, answer⟩ = [] := rfl

@[simp] theorem sent?_taken (payload : Bytes) : sent? ⟨.send payload, .taken⟩ = some payload := rfl

/-- A message that is not taken is not sent. -/
theorem sent?_of_stop {answer : SendAnswer} {error : TransportFault → Error} {stop : Stop}
    (untaken : answer.outcome error = .error stop) (payload : Bytes) :
    sent? ⟨.send payload, answer⟩ = none := by
  cases answer with
  | taken => cases untaken
  | fault | interrupted => rfl

@[simp] theorem received?_send (payload : Bytes) (answer : SendAnswer) :
    received? ⟨.send payload, answer⟩ = none := rfl

@[simp] theorem output_send (payload : Bytes) (answer : SendAnswer) :
    output ⟨.send payload, answer⟩ = [] := rfl

@[simp] theorem sent?_receive (answer : ReceiveAnswer) : sent? ⟨.receive, answer⟩ = none := rfl

@[simp] theorem received?_message (message : Message) :
    received? ⟨.receive, .message message⟩ = some message := rfl

@[simp] theorem output_receive (answer : ReceiveAnswer) : output ⟨.receive, answer⟩ = [] := rfl

end Exchange

namespace Transcript

variable {t : Transcript}

/-- How often a message was waited for. -/
def waits (t : Transcript) : Nat := t.countP fun e => e.operation = .receive

@[simp] theorem output_append (t₁ t₂ : Transcript) :
    output (t₁ ++ t₂) = t₁.output ++ t₂.output := List.flatMap_append

@[simp] theorem sent_append (t₁ t₂ : Transcript) : sent (t₁ ++ t₂) = t₁.sent ++ t₂.sent :=
  List.filterMap_append

@[simp] theorem received_append (t₁ t₂ : Transcript) :
    received (t₁ ++ t₂) = t₁.received ++ t₂.received := List.filterMap_append

@[simp] theorem waits_append (t₁ t₂ : Transcript) : waits (t₁ ++ t₂) = t₁.waits + t₂.waits :=
  List.countP_append

@[simp] theorem output_nil : output [] = [] := rfl

@[simp] theorem sent_nil : sent [] = [] := rfl

@[simp] theorem received_nil : received [] = [] := rfl

@[simp] theorem waits_nil : waits [] = 0 := rfl

@[simp] theorem output_cons (e : Exchange) (rest : Transcript) :
    output (e :: rest) = e.output ++ rest.output := List.flatMap_cons

@[simp] theorem sent_cons (e : Exchange) (rest : Transcript) :
    sent (e :: rest) = e.sent?.toList ++ rest.sent := by
  unfold sent
  rw [List.filterMap_cons]
  cases e.sent? <;> rfl

@[simp] theorem received_cons (e : Exchange) (rest : Transcript) :
    received (e :: rest) = e.received?.toList ++ rest.received := by
  unfold received
  rw [List.filterMap_cons]
  cases e.received? <;> rfl

@[simp] theorem waits_cons (e : Exchange) (rest : Transcript) :
    waits (e :: rest) = (if e.operation = .receive then 1 else 0) + rest.waits := by
  unfold waits
  rw [List.countP_cons, Nat.add_comm]
  simp

/-- A message that was not sent in the front of a transcript was sent in the rest. -/
theorem exists_split_of_unsent {payload : Bytes} {front rest before after : Transcript}
    (unsent : payload ∉ front.sent)
    (split : front ++ rest = before ++ ⟨.send payload, .taken⟩ :: after) :
    ∃ middle, rest = middle ++ ⟨.send payload, .taken⟩ :: after := by
  rcases List.append_eq_append_iff.mp split with ⟨middle, rfl, tail⟩ | ⟨middle, rfl, tail⟩
  · exact ⟨middle, tail⟩
  · cases middle with
    | nil => exact ⟨[], tail.symm⟩
    | cons head middle =>
      obtain ⟨rfl, rfl⟩ := List.cons.inj tail
      simp at unsent

theorem sent_of_isOutput (output : ∀ e ∈ t, e.isOutput) : t.sent = [] :=
  List.filterMap_eq_nil_iff.mpr fun e mem => Exchange.sent?_of_isOutput (output e mem)

theorem received_of_isOutput (output : ∀ e ∈ t, e.isOutput) : t.received = [] :=
  List.filterMap_eq_nil_iff.mpr fun e mem => Exchange.received?_of_isOutput (output e mem)

@[simp] theorem records_append (t₁ t₂ : Transcript) :
    records (t₁ ++ t₂) = t₁.records ++ t₂.records := List.filterMap_append

theorem records_of_plain (plain : ∀ e ∈ t, e.record? = none) : t.records = [] :=
  List.filterMap_eq_nil_iff.mpr plain

end Transcript

/-! ## Records and chunks -/

/-- Records are neither output nor traffic. -/
theorem Transcript.quiet_of_records {t : Transcript} (recorded : ∀ e ∈ t, e.record?.isSome) :
    t.output = [] ∧ t.sent = [] ∧ t.received = [] ∧ t.waits = 0 := by
  have quiet (e : Exchange) (mem : e ∈ t) :
      e.output = [] ∧ e.sent? = none ∧ e.received? = none ∧ ¬ decide (e.operation = .receive) := by
    have record := recorded e mem
    obtain ⟨operation, answer⟩ := e
    cases operation <;> first | exact ⟨rfl, rfl, rfl, nofun⟩ | cases record
  refine ⟨List.flatMap_eq_nil_iff.mpr ?_, List.filterMap_eq_nil_iff.mpr ?_,
    List.filterMap_eq_nil_iff.mpr ?_, List.countP_eq_zero.mpr ?_⟩
  · exact fun e mem => (quiet e mem).1
  · exact fun e mem => (quiet e mem).2.1
  · exact fun e mem => (quiet e mem).2.2.1
  · exact fun e mem => (quiet e mem).2.2.2

namespace Log.Logger

variable (logger : Logger) (level : Level) (message : String) (pairs : List Pair)

@[simp] theorem output_noted : Transcript.output (logger.noted level message pairs) = [] :=
  (Transcript.quiet_of_records record_noted).1

@[simp] theorem sent_noted : Transcript.sent (logger.noted level message pairs) = [] :=
  (Transcript.quiet_of_records record_noted).2.1

@[simp] theorem received_noted : Transcript.received (logger.noted level message pairs) = [] :=
  (Transcript.quiet_of_records record_noted).2.2.1

@[simp] theorem waits_noted : Transcript.waits (logger.noted level message pairs) = 0 :=
  (Transcript.quiet_of_records record_noted).2.2.2

/-- Handing on a record leaves that record, if it is kept. -/
theorem records_noted : Transcript.records (logger.noted level message pairs) =
    [logger.record level message pairs].filter (logger.keeps ·.level) := by
  have same : (logger.record level message pairs).level = level := rfl
  rw [List.filter_cons, same]
  unfold noted
  split <;> rfl

theorem eq_of_mem_noted {logger : Logger} {level : Level} {message : String} {pairs : List Pair}
    {record : Record} (mem : record ∈ Transcript.records (logger.noted level message pairs)) :
    record = logger.record level message pairs := by
  rw [records_noted] at mem
  exact List.mem_singleton.mp (List.mem_filter.mp mem).1

/-- Each fault leaves its record, if it is kept. -/
theorem records_warned (faults : List TransportFault) :
    Transcript.records (logger.warned message faults) =
      (faults.map fun fault => logger.record .warning message [("err", fault.message)]).filter
        (logger.keeps ·.level) := by
  induction faults with
  | nil => rfl
  | cons fault rest ih =>
    have split : Transcript.records (logger.warned message (fault :: rest)) =
        Transcript.records (logger.noted .warning message [("err", fault.message)]) ++
          Transcript.records (logger.warned message rest) := Transcript.records_append ..
    rw [split, records_noted, ih, ← List.filter_append]
    rfl

theorem message_of_mem_warned {logger : Logger} {message : String}
    {faults : List TransportFault} {record : Record}
    (mem : record ∈ Transcript.records (logger.warned message faults)) :
    record.message = message := by
  rw [records_warned] at mem
  obtain ⟨fault, -, rfl⟩ := List.mem_map.mp (List.mem_filter.mp mem).1
  rfl

variable (faulty closed : String) (faults : List TransportFault)

/-- Closing a channel is neither output nor traffic, whatever goes wrong with it. -/
theorem quiet_closing :
    let t := logger.closing faulty closed faults
    t.output = [] ∧ t.sent = [] ∧ t.received = [] ∧ t.waits = 0 := by
  have recorded : ∀ e ∈ logger.warned faulty faults ++ logger.noted .debug closed [],
      e.record?.isSome :=
    List.forall_mem_append.mpr ⟨record_warned, record_noted⟩
  simpa [closing, Exchange.output, Exchange.sent?, Exchange.received?] using
    Transcript.quiet_of_records recorded

@[simp] theorem output_closing : Transcript.output (logger.closing faulty closed faults) = [] :=
  (logger.quiet_closing ..).1

@[simp] theorem sent_closing : Transcript.sent (logger.closing faulty closed faults) = [] :=
  (logger.quiet_closing ..).2.1

@[simp] theorem received_closing :
    Transcript.received (logger.closing faulty closed faults) = [] :=
  (logger.quiet_closing ..).2.2.1

@[simp] theorem waits_closing : Transcript.waits (logger.closing faulty closed faults) = 0 :=
  (logger.quiet_closing ..).2.2.2

/-- The records of a closing are those of its faults, and then the last one. -/
theorem records_closing : Transcript.records (logger.closing faulty closed faults) =
    Transcript.records (logger.warned faulty faults) ++
      Transcript.records (logger.noted .debug closed []) :=
  Transcript.records_append ..

end Log.Logger

namespace Terminal

variable {chunks : List Bytes} {t : Transcript} {result : Except Stop Unit}

theorem Prints.sent (printed : Prints chunks t result) : t.sent = [] :=
  Transcript.sent_of_isOutput printed.isOutput

theorem Prints.received (printed : Prints chunks t result) : t.received = [] :=
  Transcript.received_of_isOutput printed.isOutput

@[simp] theorem output_shown (chunk : Bytes) : Transcript.output (shown chunk) = chunk := by
  simp [shown, Exchange.output]

@[simp] theorem sent_shown (chunk : Bytes) : Transcript.sent (shown chunk) = [] := rfl

@[simp] theorem received_shown (chunk : Bytes) : Transcript.received (shown chunk) = [] := rfl

@[simp] theorem waits_shown (chunk : Bytes) : Transcript.waits (shown chunk) = 0 := rfl

/-- Chunks that are shown are put out one after the other. -/
@[simp] theorem output_flatMap_shown (chunks : List Bytes) :
    Transcript.output (chunks.flatMap shown) = chunks.flatten := by
  induction chunks with
  | nil => rfl
  | cons chunk rest ih => simp [ih]

@[simp] theorem sent_flatMap_shown (chunks : List Bytes) :
    Transcript.sent (chunks.flatMap shown) = [] :=
  Transcript.sent_of_isOutput (isOutput_shown chunks)

@[simp] theorem received_flatMap_shown (chunks : List Bytes) :
    Transcript.received (chunks.flatMap shown) = [] :=
  Transcript.received_of_isOutput (isOutput_shown chunks)

@[simp] theorem output_asked (answer : LineAnswer) :
    Transcript.output (asked answer) = Utf8.encode commandPrompt := by
  simp [asked, Exchange.output]

@[simp] theorem sent_asked (answer : LineAnswer) : Transcript.sent (asked answer) = [] := rfl

@[simp] theorem received_asked (answer : LineAnswer) :
    Transcript.received (asked answer) = [] := rfl

@[simp] theorem waits_asked (answer : LineAnswer) : Transcript.waits (asked answer) = 0 := rfl

end Terminal

end MessagingConsole
