import MessagingConsole.Proofs.Session.Traffic

/-!
# Closing a channel

When a client is done with its channel it closes it, hands on a record of each fault that the
transport reports of that, and then a last record.  A run *closes once* if that is the one time it
does so, if nothing but records comes after it, and if the records of it are handed on once and
the last one comes last.

All of that follows from one property of the exchanges before the closing, each for itself:
none of them closes the channel, and none of them hands on a record that reads like those of the
closing.  So it is enough to look at the exchanges that a client is made of.

## Main Definitions

- `Exchange.LeavesOpen` - what the exchanges before the closing have in common.
- `ClosesOnce` - a run that closes its channel once.

## Main Results

- `closesOnce_of_leavesOpen` - the closing after such exchanges is the only one.
-/

namespace MessagingConsole

/-- An exchange does not close the channel, and hands on no record with one of some messages. -/
def Exchange.LeavesOpen (messages : List String) : Exchange → Prop
  | ⟨.close, _⟩ => False
  | ⟨.log record, _⟩ => record.message ∉ messages
  | _ => True

/-- A run closes its channel once, and hands on the records of that, as far as the logger keeps
them: one of each fault, and a last one. -/
structure ClosesOnce (logger : Log.Logger) (faulty closed : String) (t : Transcript) : Prop where
  once : t.countP (fun e => e.operation = .close) = 1
  /-- Nothing is sent, received or printed any more once the channel is closed. -/
  last : ∀ front faults rest, t = front ++ ⟨.close, faults⟩ :: rest → ∀ e ∈ rest, e.record?.isSome
  warned : ∃ faults, ⟨.close, faults⟩ ∈ t ∧
    t.records.filter (fun record => record.message = faulty) =
      (faults.map fun fault => logger.record .warning faulty [("err", fault.message)]).filter
        (logger.keeps ·.level)
  logged : t.records.filter (fun record => record.message = closed) =
    if logger.keeps .debug then [logger.record .debug closed []] else []
  logged_last : logger.keeps .debug →
    t.records.getLast? = some (logger.record .debug closed [])

variable {logger : Log.Logger} {level : Log.Level} {message other faulty closed : String}
  {messages : List String} {pairs : List Log.Pair} {faults : List TransportFault}
  {t front : Transcript}

/-! ## Exchanges that leave a channel open -/

theorem Exchange.leavesOpen_of_isOutput {e : Exchange} (output : e.isOutput) :
    e.LeavesOpen messages := by
  obtain ⟨operation, answer⟩ := e
  cases operation <;> trivial

theorem leavesOpen_noted (differs : other ∉ messages) :
    ∀ e ∈ logger.noted level other pairs, e.LeavesOpen messages := by
  intro e mem
  unfold Log.Logger.noted at mem
  split at mem
  · cases List.mem_singleton.mp mem
    exact differs
  · exact absurd mem List.not_mem_nil

theorem leavesOpen_asked {answer : LineAnswer} :
    ∀ e ∈ Terminal.asked answer, e.LeavesOpen messages := by
  intro e mem
  simp only [Terminal.asked, Terminal.shown, List.cons_append, List.nil_append, List.mem_cons,
    List.not_mem_nil, or_false] at mem
  rcases mem with rfl | rfl | rfl <;> trivial

theorem Terminal.Prints.leavesOpen {chunks : List Bytes} {result : Except Stop Unit}
    (printed : Terminal.Prints chunks t result) : ∀ e ∈ t, e.LeavesOpen messages :=
  fun e mem => Exchange.leavesOpen_of_isOutput (printed.isOutput e mem)

/-! ## The closing -/

theorem Exchange.operation_ne_close {e : Exchange} (opened : e.LeavesOpen messages) :
    e.operation ≠ .close := by
  obtain ⟨operation, answer⟩ := e
  rintro rfl
  exact opened

theorem Exchange.message_notMem {e : Exchange} {record : Log.Record}
    (opened : e.LeavesOpen messages) (recorded : e.record? = some record) :
    record.message ∉ messages := by
  obtain ⟨operation, answer⟩ := e
  cases operation <;> cases recorded
  exact opened

theorem operation_ne_close_of_record {e : Exchange} (recorded : e.record?.isSome) :
    e.operation ≠ .close := by
  obtain ⟨operation, answer⟩ := e
  rintro rfl
  cases recorded

theorem countP_close_eq_zero (unclosed : ∀ e ∈ t, e.operation ≠ .close) :
    t.countP (fun e => e.operation = .close) = 0 := by
  refine List.countP_eq_zero.mpr fun e mem => ?_
  rw [decide_eq_true_iff]
  exact unclosed e mem

/-- The one closing of a transcript cuts it in one way. -/
theorem eq_of_close_eq {front' rest rest' : Transcript} {faults' : List TransportFault}
    (before : ∀ e ∈ front, e.operation ≠ .close) (after : ∀ e ∈ rest, e.operation ≠ .close)
    (same : front ++ ⟨.close, faults⟩ :: rest = front' ++ ⟨.close, faults'⟩ :: rest') :
    rest' = rest := by
  rcases List.append_eq_append_iff.mp same with ⟨middle, rfl, tail⟩ | ⟨middle, rfl, tail⟩
  · cases middle with
    | nil => exact (List.cons.inj tail).2.symm
    | cons head middle =>
      obtain ⟨-, rfl⟩ := List.cons.inj tail
      exact absurd rfl (after ⟨.close, faults'⟩ (by simp))
  · cases middle with
    | nil => exact (List.cons.inj tail).2
    | cons head middle =>
      obtain ⟨rfl, -⟩ := List.cons.inj tail
      exact absurd rfl (before ⟨.close, faults'⟩ (by simp))

/-- Nothing is handed on that reads like the records of the closing. -/
theorem filter_records_of_leavesOpen (opened : ∀ e ∈ t, e.LeavesOpen messages)
    (listed : message ∈ messages) :
    t.records.filter (fun record => record.message = message) = [] := by
  refine List.filter_eq_nil_iff.mpr fun record mem => ?_
  obtain ⟨e, mem, recorded⟩ := List.mem_filterMap.mp mem
  rw [decide_eq_true_iff]
  rintro rfl
  exact Exchange.message_notMem (opened e mem) recorded listed

section Alike

variable {records : List Log.Record} (alike : ∀ record ∈ records, record.message = message)
include alike

theorem filter_message_eq_self :
    records.filter (fun record => record.message = message) = records :=
  List.filter_eq_self.mpr fun record mem => decide_eq_true (alike record mem)

theorem filter_message_eq_nil (differs : message ≠ other) :
    records.filter (fun record => record.message = other) = [] := by
  refine List.filter_eq_nil_iff.mpr fun record mem => ?_
  rw [alike record mem, decide_eq_true_iff]
  exact differs

end Alike

/-- **The closing after exchanges that leave the channel open is the only one.** -/
theorem closesOnce_of_leavesOpen (apart : faulty ≠ closed)
    (opened : ∀ e ∈ front, e.LeavesOpen [faulty, closed]) :
    ClosesOnce logger faulty closed (front ++ logger.closing faulty closed faults) := by
  have before : ∀ e ∈ front, e.operation ≠ .close :=
    fun e mem => Exchange.operation_ne_close (opened e mem)
  have recorded : ∀ e ∈ logger.warned faulty faults ++ logger.noted .debug closed [],
      e.record?.isSome :=
    List.forall_mem_append.mpr ⟨Log.Logger.record_warned, Log.Logger.record_noted⟩
  have after : ∀ e ∈ logger.warned faulty faults ++ logger.noted .debug closed [],
      e.operation ≠ .close :=
    fun e mem => operation_ne_close_of_record (recorded e mem)
  have records : Transcript.records (front ++ logger.closing faulty closed faults) =
      front.records ++ (Transcript.records (logger.warned faulty faults) ++
        Transcript.records (logger.noted .debug closed [])) := by
    rw [Transcript.records_append, Log.Logger.records_closing]
  have warnings : ∀ record ∈ Transcript.records (logger.warned faulty faults),
      record.message = faulty := fun _ => Log.Logger.message_of_mem_warned
  have lasts : ∀ record ∈ Transcript.records (logger.noted .debug closed []),
      record.message = closed := fun _ mem => by rw [Log.Logger.eq_of_mem_noted mem]; rfl
  constructor
  · rw [Log.Logger.closing, List.countP_append, List.countP_cons, countP_close_eq_zero before,
      countP_close_eq_zero after]
    rfl
  · intro front' faults' rest split
    rw [eq_of_close_eq before after split]
    exact recorded
  · refine ⟨faults, List.mem_append_right _ List.mem_cons_self, ?_⟩
    rw [records, List.filter_append, List.filter_append,
      filter_records_of_leavesOpen opened List.mem_cons_self, filter_message_eq_self warnings,
      filter_message_eq_nil lasts apart.symm, List.nil_append, List.append_nil,
      Log.Logger.records_warned]
  · rw [records, List.filter_append, List.filter_append,
      filter_records_of_leavesOpen opened (by simp), filter_message_eq_nil warnings apart,
      filter_message_eq_self lasts, List.nil_append, List.nil_append]
    unfold Log.Logger.noted
    split <;> rfl
  · intro keeps
    have last : Transcript.records (logger.noted .debug closed []) =
        [logger.record .debug closed []] := by
      rw [Log.Logger.noted, if_pos keeps]
      rfl
    rw [records, last, ← List.append_assoc, List.getLast?_append]
    rfl

end MessagingConsole
