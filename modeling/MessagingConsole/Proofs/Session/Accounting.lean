import MessagingConsole.Proofs.Session.Dialing
import MessagingConsole.Proofs.Session.Printing

/-!
# What the log owes

A log accounts for the traffic if there is one record for each exchange that is worth one, in
the same order, and no other record that reads like these.  A *ledger* says for a client which
exchanges are worth a record and which record it is; a transcript *balances* it if the records
are those that are owed, as far as the logger keeps them, and every record carries what the
logger adds to it.

Balanced transcripts follow one another, so that it is enough to look at the exchanges that a
client is made of: a record and its exchange balance together, everything else owes nothing.

## Main Definitions

- `Transcript.about` - the records with some messages.
- `Ledger` - what is owed for which exchange.
- `Ledger.Balanced` - a transcript whose records are those that are owed.

## Main Results

- `Ledger.Balanced.append` and `Ledger.balanced_entry` - how a balance is put together.
-/

namespace MessagingConsole

/-- Whether something is sent, received or read from a file. -/
def Exchange.isTraffic : Exchange → Bool
  | ⟨.send _, _⟩ | ⟨.receive, _⟩ | ⟨.readFile _, _⟩ => true
  | _ => false

/-- The records that have one of some messages. -/
def Transcript.about (messages : List String) (t : Transcript) : List Log.Record :=
  t.records.filter (·.message ∈ messages)

/-- Which exchanges of a client are worth a record, which record that is, and the messages by
which such records are known. -/
structure Ledger where
  logger : Log.Logger
  messages : List String
  owed : Exchange → Option Log.Record
  /-- Only traffic is worth a record. -/
  owed_eq_none : ∀ e, ¬ e.isTraffic → owed e = none

/-- The records of a transcript are those that are owed for its exchanges, as far as they are
kept, and all of them have the context of the logger. -/
structure Ledger.Balanced (ledger : Ledger) (t : Transcript) : Prop where
  entries : t.about ledger.messages =
    (t.filterMap ledger.owed).filter (ledger.logger.keeps ·.level)
  context : ∀ record ∈ t.records, ledger.logger.context <+: record.pairs

namespace Transcript

variable {messages : List String}

@[simp] theorem about_append (t₁ t₂ : Transcript) :
    about messages (t₁ ++ t₂) = t₁.about messages ++ t₂.about messages := by
  rw [about, records_append, List.filter_append]
  rfl

theorem about_of_plain {t : Transcript} (plain : ∀ e ∈ t, e.record? = none) :
    t.about messages = [] := by
  rw [about, records_of_plain plain]
  rfl

/-- An exchange that is no record leaves none. -/
theorem about_cons_of_plain {e : Exchange} {rest : Transcript} (plain : e.record? = none) :
    about messages (e :: rest) = rest.about messages := by
  rw [about, records, List.filterMap_cons_none plain]
  rfl

section Noted

variable {logger : Log.Logger} {level : Log.Level} {message : String} {pairs : List Log.Pair}

theorem about_noted_of_mem (listed : message ∈ messages) :
    about messages (logger.noted level message pairs) =
      [logger.record level message pairs].filter (logger.keeps ·.level) := by
  rw [← Log.Logger.records_noted]
  refine List.filter_eq_self.mpr fun record mem => ?_
  rw [Log.Logger.eq_of_mem_noted mem, decide_eq_true_iff]
  exact listed

theorem about_noted_of_keeps (listed : message ∈ messages) (keeps : logger.keeps level) :
    about messages (logger.noted level message pairs) = [logger.record level message pairs] := by
  rw [about_noted_of_mem listed]
  exact List.filter_eq_self.mpr (List.forall_mem_singleton.mpr keeps)

theorem about_noted_of_notMem (other : message ∉ messages) :
    about messages (logger.noted level message pairs) = [] := by
  refine List.filter_eq_nil_iff.mpr fun record mem => ?_
  rw [Log.Logger.eq_of_mem_noted mem, decide_eq_true_iff]
  exact other

/-- Closing a channel leaves no record with another message than its own two. -/
theorem about_closing_of_notMem {faulty closed : String} {faults : List TransportFault}
    (warning : faulty ∉ messages) (last : closed ∉ messages) :
    about messages (logger.closing faulty closed faults) = [] := by
  refine List.filter_eq_nil_iff.mpr fun record mem => ?_
  rw [decide_eq_true_iff]
  rw [Log.Logger.records_closing] at mem
  rcases List.mem_append.mp mem with warned | noted
  · rwa [Log.Logger.message_of_mem_warned warned]
  · rw [Log.Logger.eq_of_mem_noted noted]
    exact last

end Noted

end Transcript

namespace Ledger

variable {ledger : Ledger} {t t₁ t₂ : Transcript} {level : Log.Level} {message : String}
  {pairs : List Log.Pair}

/-! ## How a balance is put together -/

theorem balanced_nil : ledger.Balanced [] :=
  ⟨rfl, List.forall_mem_nil _⟩

theorem Balanced.append (first : ledger.Balanced t₁) (second : ledger.Balanced t₂) :
    ledger.Balanced (t₁ ++ t₂) := by
  constructor
  · rw [Transcript.about_append, first.entries, second.entries, List.filterMap_append,
      List.filter_append]
  · rw [Transcript.records_append]
    exact List.forall_mem_append.mpr ⟨first.context, second.context⟩

/-- Exchanges that are no records and are not worth one owe nothing. -/
theorem balanced_of_unowed (unowed : ∀ e ∈ t, ledger.owed e = none)
    (plain : ∀ e ∈ t, e.record? = none) : ledger.Balanced t := by
  have none := Transcript.records_of_plain plain
  constructor
  · rw [Transcript.about_of_plain plain, List.filterMap_eq_nil_iff.mpr unowed]
    rfl
  · rw [none]
    exact List.forall_mem_nil _

/-- Nothing is owed where there is no traffic. -/
theorem filterMap_owed_of_idle (idle : ∀ e ∈ t, ¬ e.isTraffic) : t.filterMap ledger.owed = [] :=
  List.filterMap_eq_nil_iff.mpr fun e mem => ledger.owed_eq_none e (idle e mem)

theorem balanced_of_idle (idle : ∀ e ∈ t, ¬ e.isTraffic ∧ e.record? = none) :
    ledger.Balanced t :=
  balanced_of_unowed (fun e mem => ledger.owed_eq_none e (idle e mem).1)
    fun e mem => (idle e mem).2

/-- Every record that is handed on has the context. -/
theorem context_noted :
    ∀ record ∈ Transcript.records (ledger.logger.noted level message pairs),
      ledger.logger.context <+: record.pairs := by
  intro record mem
  rw [Log.Logger.eq_of_mem_noted mem]
  exact List.prefix_append _ _

theorem filterMap_owed_noted {logger : Log.Logger} :
    (logger.noted level message pairs).filterMap ledger.owed = [] := by
  refine filterMap_owed_of_idle fun e mem => ?_
  have recorded := Log.Logger.record_noted e mem
  obtain ⟨operation, answer⟩ := e
  cases operation <;> first | exact Bool.false_ne_true | cases recorded

/-- A record with another message is no entry. -/
theorem balanced_noted (other : message ∉ ledger.messages) :
    ledger.Balanced (ledger.logger.noted level message pairs) := by
  refine ⟨?_, context_noted⟩
  rw [filterMap_owed_noted, Transcript.about_noted_of_notMem other]
  rfl

/-- A record balances the exchange that it is owed for, whichever comes first. -/
theorem balanced_entry {e : Exchange} (plain : e.record? = none)
    (listed : message ∈ ledger.messages)
    (owes : ledger.owed e = some (ledger.logger.record level message pairs)) :
    ledger.Balanced (e :: ledger.logger.noted level message pairs) ∧
      ledger.Balanced (ledger.logger.noted level message pairs ++ [e]) := by
  have owed : [e].filterMap ledger.owed = [ledger.logger.record level message pairs] :=
    List.filterMap_cons_some owes
  have plain : ∀ other ∈ [e], other.record? = none := List.forall_mem_singleton.mpr plain
  rw [← List.singleton_append]
  refine ⟨⟨?_, ?_⟩, ⟨?_, ?_⟩⟩
  · rw [Transcript.about_append, Transcript.about_of_plain plain,
      Transcript.about_noted_of_mem listed, List.filterMap_append, owed, filterMap_owed_noted]
    rfl
  · rw [Transcript.records_append, Transcript.records_of_plain plain]
    exact context_noted
  · rw [Transcript.about_append, Transcript.about_of_plain plain,
      Transcript.about_noted_of_mem listed, List.filterMap_append, owed, filterMap_owed_noted,
      List.append_nil]
    rfl
  · rw [Transcript.records_append, Transcript.records_of_plain plain, List.append_nil]
    exact context_noted

/-! ## Exchanges that owe nothing -/

theorem idle_of_isOutput {e : Exchange} (output : e.isOutput) :
    ¬ e.isTraffic ∧ e.record? = none := by
  obtain ⟨operation, answer⟩ := e
  cases operation <;> first | exact ⟨Bool.false_ne_true, rfl⟩ | cases output

theorem idle_of_aside {e : Exchange} (aside : e.record?.isSome ∨ e.operation = .close) :
    ¬ e.isTraffic := by
  obtain ⟨operation, answer⟩ := e
  cases operation <;> first | exact Bool.false_ne_true | exact aside.elim nofun nofun

theorem balanced_of_prints {chunks : List Bytes} {result : Except Stop Unit}
    (printed : Terminal.Prints chunks t result) : ledger.Balanced t :=
  balanced_of_idle fun e mem => idle_of_isOutput (printed.isOutput e mem)

theorem balanced_shown (chunks : List Bytes) : ledger.Balanced (chunks.flatMap Terminal.shown) :=
  balanced_of_idle fun e mem => idle_of_isOutput (Terminal.isOutput_shown chunks e mem)

theorem balanced_readLine (answer : LineAnswer) : ledger.Balanced [⟨.readLine, answer⟩] :=
  balanced_of_idle (List.forall_mem_singleton.mpr ⟨Bool.false_ne_true, rfl⟩)

theorem balanced_asked (answer : LineAnswer) : ledger.Balanced (Terminal.asked answer) := by
  have prompt : ledger.Balanced (Terminal.shown (Utf8.encode Terminal.commandPrompt)) := by
    rw [← List.flatMap_singleton Terminal.shown]
    exact balanced_shown _
  exact prompt.append (balanced_readLine answer)

/-- The beginning of a turn owes nothing. -/
theorem balanced_of_passes {α : Type} {Turn : Transcript → α → Prop} {stopped value : α}
    (pass : Session.Passes Turn stopped t value)
    (inside : ∀ {t}, Turn t value → ledger.Balanced t) : ledger.Balanced t := by
  have mark (answer : TurnAnswer) : ledger.Balanced [⟨.turn, answer⟩] :=
    balanced_of_idle (List.forall_mem_singleton.mpr ⟨Bool.false_ne_true, rfl⟩)
  cases pass with
  | interrupted => exact mark .interrupted
  | begun turn => exact (mark .begun).append (inside turn)

theorem balanced_dial (endpoint : Endpoint) (patience : Option Nat) (answer : DialAnswer) :
    ledger.Balanced [⟨.dial endpoint patience, answer⟩] :=
  balanced_of_idle (List.forall_mem_singleton.mpr ⟨Bool.false_ne_true, rfl⟩)

theorem balanced_of_dials {endpoint : Endpoint} {result : Except Stop Unit}
    (other : "waiting for endpoint to accept connections" ∉ ledger.messages)
    (dials : Attempt.Dials ledger.logger endpoint t result) : ledger.Balanced t := by
  cases dials with
  | soon => exact balanced_dial ..
  | late answer =>
    exact (balanced_dial ..).append ((balanced_noted other).append (balanced_dial ..))

theorem balanced_warned (other : message ∉ ledger.messages) (faults : List TransportFault) :
    ledger.Balanced (ledger.logger.warned message faults) := by
  induction faults with
  | nil => exact balanced_nil
  | cons fault rest ih => exact (balanced_noted other).append ih

/-- Closing a channel owes nothing, whatever goes wrong with it. -/
theorem balanced_closing {faulty closed : String} (faults : List TransportFault)
    (others : faulty ∉ ledger.messages ∧ closed ∉ ledger.messages) :
    ledger.Balanced (ledger.logger.closing faulty closed faults) := by
  have closes : ledger.Balanced [⟨.close, faults⟩] :=
    balanced_of_idle (List.forall_mem_singleton.mpr ⟨Bool.false_ne_true, rfl⟩)
  exact closes.append ((balanced_warned others.1 faults).append (balanced_noted others.2))

end Ledger

namespace Transcript

variable {messages : List String} {t : Transcript} {result : Except Stop Unit}

theorem about_of_prints {chunks : List Bytes} (printed : Terminal.Prints chunks t result) :
    t.about messages = [] :=
  about_of_plain fun e mem => (Ledger.idle_of_isOutput (printed.isOutput e mem)).2

/-- Dialing hands on the record of a long wait, and no other. -/
theorem about_of_dials {logger : Log.Logger} {endpoint : Endpoint}
    (other : "waiting for endpoint to accept connections" ∉ messages)
    (dials : Attempt.Dials logger endpoint t result) : t.about messages = [] := by
  cases dials with
  | soon => exact about_cons_of_plain rfl
  | late answer =>
    rw [about_cons_of_plain rfl, about_append, Attempt.waiting, about_noted_of_notMem other]
    exact about_cons_of_plain rfl

end Transcript

end MessagingConsole
