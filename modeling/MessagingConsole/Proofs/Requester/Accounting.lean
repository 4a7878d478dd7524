import MessagingConsole.Proofs.Requester.Connection
import MessagingConsole.Proofs.Session.Accounting

/-!
# The log of a requester

A requester owes its log a record for each line that it tries to send and one for each reply.
Every run balances, whatever it is answered and wherever it is stopped, since the record and
the exchange are handed on together.  The requests and replies among the records come by turns,
as the traffic does, and what a requester tries to send are the lines that it hears.

## Main Definitions

- `Requester.ledger` - what a requester owes.
- `Alternating` - messages of two kinds by turns.
- `Transcript.Echoes` - what was tried to send are the lines that were heard.

## Main Results

- `Requester.balanced_session` - the log of a whole session balances.
- `Requester.alternating_session` - requests and replies come by turns.
- `Requester.echoes_session` - the requests are the lines.
-/

namespace MessagingConsole

open Terminal (Prints shown asked)

variable {t : Transcript}

/-- Two messages by turns, beginning with the first of them. -/
def Alternating (first second : String) : List String → Prop
  | [] => True
  | message :: rest => message = first ∧ Alternating second first rest

namespace Exchange

/-- The message that an exchange tries to send. -/
def attempted? : Exchange → Option Bytes
  | ⟨.send payload, _⟩ => some payload
  | _ => none

/-- The line that an exchange brings. -/
def line? : Exchange → Option String
  | ⟨.readLine, .line text⟩ => some text
  | _ => none

end Exchange

namespace Transcript

/-- The messages that a transcript tried to send. -/
def attempts (t : Transcript) : List Bytes := t.filterMap Exchange.attempted?

/-- The lines that a transcript heard. -/
def lines (t : Transcript) : List String := t.filterMap Exchange.line?

/-- What a transcript tried to send are the lines that it heard. -/
def Echoes (t : Transcript) : Prop := t.attempts = t.lines.map Utf8.encode

theorem Echoes.append {t₁ t₂ : Transcript} (first : t₁.Echoes) (second : t₂.Echoes) :
    Echoes (t₁ ++ t₂) := by
  unfold Echoes attempts lines at first second ⊢
  rw [List.filterMap_append, List.filterMap_append, List.map_append, first, second]

/-- Exchanges that neither send nor bring a line have nothing to echo. -/
theorem echoes_of_aside (aside : ∀ e ∈ t, e.attempted? = none ∧ e.line? = none) : t.Echoes := by
  have attempts : t.attempts = [] :=
    List.filterMap_eq_nil_iff.mpr fun e mem => (aside e mem).1
  have lines : t.lines = [] := List.filterMap_eq_nil_iff.mpr fun e mem => (aside e mem).2
  rw [Echoes, attempts, lines]
  rfl

section Noted

variable {logger : Log.Logger} {level : Log.Level} {message : String} {pairs : List Log.Pair}

/-- Records and the closing of a channel have nothing to echo. -/
theorem unechoed_of_aside {e : Exchange} (aside : e.record?.isSome ∨ e.operation = .close) :
    e.attempted? = none ∧ e.line? = none := by
  obtain ⟨operation, answer⟩ := e
  cases operation <;> first | exact ⟨rfl, rfl⟩ | exact aside.elim nofun nofun

theorem aside_noted :
    ∀ e ∈ logger.noted level message pairs, e.attempted? = none ∧ e.line? = none :=
  fun e mem => unechoed_of_aside (.inl (Log.Logger.record_noted e mem))

theorem echoes_noted : Echoes (logger.noted level message pairs) :=
  echoes_of_aside aside_noted

theorem echoes_closing {faulty closed : String} {faults : List TransportFault} :
    Echoes (logger.closing faulty closed faults) :=
  echoes_of_aside fun e mem => unechoed_of_aside (Log.Logger.aside_closing e mem)

/-- A line that is heard and then sent, with a record before that. -/
theorem echoes_request (line : String) (answer : SendAnswer) :
    Echoes (asked (.line line) ++
      (logger.noted level message pairs ++ [⟨.send (Utf8.encode line), answer⟩])) := by
  have unsent : (logger.noted level message pairs).filterMap Exchange.attempted? = [] :=
    List.filterMap_eq_nil_iff.mpr fun e mem => (aside_noted e mem).1
  have unheard : (logger.noted level message pairs).filterMap Exchange.line? = [] :=
    List.filterMap_eq_nil_iff.mpr fun e mem => (aside_noted e mem).2
  rw [Echoes, attempts, lines, List.filterMap_append, List.filterMap_append, unsent,
    List.filterMap_append, List.filterMap_append, unheard]
  rfl

end Noted

theorem echoes_of_isOutput (output : ∀ e ∈ t, e.isOutput) : t.Echoes := by
  refine echoes_of_aside fun e mem => ?_
  have printed := output e mem
  obtain ⟨operation, answer⟩ := e
  cases operation <;> first | exact ⟨rfl, rfl⟩ | cases printed

theorem echoes_of_dials {logger : Log.Logger} {endpoint : Endpoint} {result : Except Stop Unit}
    (dials : Attempt.Dials logger endpoint t result) : t.Echoes := by
  have dial (patience : Option Nat) (answer : DialAnswer) :
      Echoes [⟨.dial endpoint patience, answer⟩] := rfl
  cases dials with
  | soon => exact dial _ _
  | late answer => exact (dial _ _).append (echoes_noted.append (dial _ _))

end Transcript

namespace Requester

variable {r : Requester} {state : State} {stepped : Stepped} {budget : Nat}
  {value : Except Error Unit} {logger : Log.Logger} {endpoint : Endpoint}

/-- A requester owes a record for each line that it tries to send and for each reply. -/
def ledger (r : Requester) : Ledger where
  logger := r.logger
  messages := ["sending request", "received reply"]
  owed
    | ⟨.send payload, _⟩ =>
      some (r.logger.record .trace "sending request" [("bytes", Text.decimal payload.length)])
    | ⟨.receive, .message message⟩ =>
      some (r.logger.record .trace "received reply"
        [("frames", Text.decimal message.frames.length)])
    | _ => none
  owed_eq_none := by
    rintro ⟨operation, answer⟩ idle
    cases operation <;> first | rfl | exact absurd rfl idle

/-- A record is no entry if its message is none of these. -/
theorem balanced_note {level : Log.Level} {message : String} {pairs : List Log.Pair}
    (other : message ∉ ["sending request", "received reply"]) :
    r.ledger.Balanced (r.logger.noted level message pairs) :=
  Ledger.balanced_noted other

theorem balanced_request (line : String) (answer : SendAnswer) :
    r.ledger.Balanced (asked (.line line) ++
      (r.sending line ++ [⟨.send (Utf8.encode line), answer⟩])) := by
  have entry : r.ledger.Balanced (r.sending line ++ [⟨.send (Utf8.encode line), answer⟩]) :=
    (Ledger.balanced_entry rfl List.mem_cons_self rfl).2
  exact (Ledger.balanced_asked _).append entry

theorem balanced_reply (message : Message) :
    r.ledger.Balanced (⟨.receive, .message message⟩ :: r.receiving message) :=
  (Ledger.balanced_entry rfl (List.mem_cons_of_mem _ List.mem_cons_self) rfl).1

theorem Turn.balanced (turn : Turn r state t stepped) : r.ledger.Balanced t := by
  cases turn with
  | unprompted printed => exact Ledger.balanced_of_prints printed
  | stopped outcome => exact Ledger.balanced_asked _
  | ended => exact (Ledger.balanced_asked _).append (balanced_note (by decide))
  | sent line => exact balanced_request line .taken
  | unsent line => exact balanced_request line _
  | @unanswered answer stop outcome =>
    refine Ledger.balanced_of_unowed ?_ (List.forall_mem_singleton.mpr rfl)
    refine List.forall_mem_singleton.mpr ?_
    cases answer <;> first | rfl | cases outcome
  | replied message =>
    have printed : r.ledger.Balanced (shown message.payload) := by
      rw [← List.flatMap_singleton shown]
      exact Ledger.balanced_shown _
    exact (balanced_reply message).append printed
  | @unprinted message t stop printed =>
    exact (balanced_reply message).append (Ledger.balanced_of_prints printed)
  | finished => exact Ledger.balanced_nil

theorem Pass.balanced (pass : Pass r state t stepped) : r.ledger.Balanced t :=
  Ledger.balanced_of_passes pass Turn.balanced

theorem Turns.balanced (turns : Turns r budget state t value) : r.ledger.Balanced t := by
  induction turns with
  | spent state => exact Ledger.balanced_nil
  | again pass goes later ih => exact pass.balanced.append ih
  | finished pass => exact pass.balanced
  | shutdown pass => exact pass.balanced.append (balanced_note (by decide))
  | failed pass => exact pass.balanced

theorem balanced_closing (faults : List TransportFault) : r.ledger.Balanced (r.closing faults) :=
  Ledger.balanced_closing faults
    (show "error while closing requester" ∉ ["sending request", "received reply"] ∧
      "requester closed" ∉ ["sending request", "received reply"] by decide)

theorem Connects.balanced {result : Except Stop Requester}
    (connects : Connects logger endpoint t result) :
    (ledger ⟨endpoint, loggerFor logger endpoint⟩).Balanced t := by
  have dial {t : Transcript} {ended : Except Stop Unit}
      (dials : Attempt.Dials (loggerFor logger endpoint) endpoint t ended) :
      (ledger ⟨endpoint, loggerFor logger endpoint⟩).Balanced t :=
    Ledger.balanced_of_dials (show "waiting for endpoint to accept connections" ∉
      ["sending request", "received reply"] by decide) dials
  cases connects with
  | undialed dials => exact (balanced_note (by decide)).append (dial dials)
  | dialed dials =>
    exact (balanced_note (by decide)).append ((dial dials).append (balanced_note (by decide)))

/-- **The log of a requester accounts for its traffic.** -/
theorem balanced_session (follows : (session logger endpoint budget).Follows t value) :
    (ledger ⟨endpoint, loggerFor logger endpoint⟩).Balanced t := by
  cases follows_session_iff.mp follows with
  | shutdown connects => exact connects.balanced
  | failed connects => exact connects.balanced
  | opened connects runs =>
    obtain ⟨rest, faults, turns, rfl⟩ := runs
    refine connects.balanced.append ?_
    cases connects with
    | dialed dials => exact turns.balanced.append (balanced_closing faults)

/-! ## Requests and replies by turns -/

/-- The messages of the records that are owed. -/
def entries (r : Requester) (t : Transcript) : List String :=
  (t.filterMap r.ledger.owed).map (·.message)

@[simp] theorem entries_append (t₁ t₂ : Transcript) :
    r.entries (t₁ ++ t₂) = r.entries t₁ ++ r.entries t₂ := by
  simp [entries]

theorem entries_of_idle (idle : ∀ e ∈ t, ¬ e.isTraffic) : r.entries t = [] := by
  rw [entries, Ledger.filterMap_owed_of_idle idle]
  rfl

theorem entries_of_prints {chunks : List Bytes} {result : Except Stop Unit}
    (printed : Prints chunks t result) : r.entries t = [] :=
  entries_of_idle fun e mem => (Ledger.idle_of_isOutput (printed.isOutput e mem)).1

@[simp] theorem entries_noted {logger : Log.Logger} {level : Log.Level} {message : String}
    {pairs : List Log.Pair} : r.entries (logger.noted level message pairs) = [] := by
  rw [entries, Ledger.filterMap_owed_noted]
  rfl

@[simp] theorem entries_asked (answer : LineAnswer) : r.entries (asked answer) = [] := rfl

@[simp] theorem entries_shown (chunk : Bytes) : r.entries (shown chunk) = [] := rfl

@[simp] theorem entries_send (payload : Bytes) (answer : SendAnswer) :
    r.entries [⟨.send payload, answer⟩] = ["sending request"] := rfl

@[simp] theorem entries_message (message : Message) (rest : Transcript) :
    r.entries (⟨.receive, .message message⟩ :: rest) = "received reply" :: r.entries rest := rfl

/-- What a turn owes: nothing, and then the session does not go on, or the record of the side
whose turn it is, and then it is the turn of the other side or the session does not go on. -/
theorem Turn.entries_cases (turn : Turn r state t stepped) :
    (r.entries t = [] ∧ (stepped.stop = none → stepped.state = .terminated)) ∨
    (state = .awaitingInput ∧ r.entries t = ["sending request"] ∧
      (stepped.stop = none → stepped.state ≠ .awaitingInput)) ∨
    (state = .awaitingReply ∧ r.entries t = ["received reply"] ∧
      stepped.state = .awaitingInput) := by
  cases turn with
  | unprompted printed => exact .inl ⟨entries_of_prints printed, nofun⟩
  | stopped outcome => exact .inl ⟨entries_asked _, nofun⟩
  | ended => exact .inl ⟨by simp, fun _ => rfl⟩
  | sent line =>
    refine .inr (.inl ⟨rfl, by simp [sending], fun _ => ?_⟩)
    dsimp only
    split <;> exact nofun
  | unsent line => exact .inr (.inl ⟨rfl, by simp [sending], nofun⟩)
  | @unanswered answer stop outcome =>
    refine .inl ⟨?_, nofun⟩
    cases answer <;> first | rfl | cases outcome
  | replied message => exact .inr (.inr ⟨rfl, by simp [receiving], rfl⟩)
  | unprinted printed =>
    exact .inr (.inr ⟨rfl, by simp [receiving, entries_of_prints printed], rfl⟩)
  | finished => exact .inl ⟨rfl, fun _ => rfl⟩

/-- The beginning of a turn owes nothing. -/
theorem Pass.entries_cases (pass : Pass r state t stepped) :
    (r.entries t = [] ∧ (stepped.stop = none → stepped.state = .terminated)) ∨
    (state = .awaitingInput ∧ r.entries t = ["sending request"] ∧
      (stepped.stop = none → stepped.state ≠ .awaitingInput)) ∨
    (state = .awaitingReply ∧ r.entries t = ["received reply"] ∧
      stepped.state = .awaitingInput) := by
  cases pass with
  | interrupted => exact .inl ⟨rfl, nofun⟩
  | begun turn => exact turn.entries_cases

/-- How the records of a session go on from a state. -/
def State.Alternates : State → List String → Prop
  | .awaitingInput => Alternating "sending request" "received reply"
  | .awaitingReply => Alternating "received reply" "sending request"
  | .terminated => (· = [])

/-- The records of a turn alone go on as the state wants. -/
theorem Pass.alternating (pass : Pass r state t stepped) : state.Alternates (r.entries t) := by
  rcases pass.entries_cases with ⟨none, -⟩ | ⟨rfl, one, -⟩ | ⟨rfl, one, -⟩
  · rw [none]
    cases state <;> trivial
  · rw [one]
    exact ⟨rfl, trivial⟩
  · rw [one]
    exact ⟨rfl, trivial⟩

/-- **The records of a session go on by turns.** -/
theorem Turns.alternating (turns : Turns r budget state t value) :
    state.Alternates (r.entries t) := by
  induction turns with
  | spent state => cases state <;> trivial
  | @again budget state next t₁ t₂ value pass goes later ih =>
    rw [entries_append]
    -- A turn that goes on has its record, and the other side has the next turn.
    rcases pass.entries_cases with ⟨-, ends⟩ | ⟨rfl, one, leads⟩ | ⟨rfl, one, leads⟩
    · exact absurd (ends rfl) goes
    · rw [one]
      cases next with
      | awaitingInput => exact absurd rfl (leads rfl)
      | awaitingReply => exact ⟨rfl, ih⟩
      | terminated => exact absurd rfl goes
    · cases leads
      rw [one]
      exact ⟨rfl, ih⟩
  | finished pass => exact pass.alternating
  | shutdown pass =>
    rw [entries_append, entries_noted, List.append_nil]
    exact pass.alternating
  | failed pass => exact pass.alternating

theorem Connects.entries_eq_nil {result : Except Stop Requester}
    (connects : Connects logger endpoint t result) : r.entries t = [] := by
  have dial {t : Transcript} {ended : Except Stop Unit}
      (dials : Attempt.Dials (loggerFor logger endpoint) endpoint t ended) : r.entries t = [] := by
    cases dials with
    | soon => rfl
    | late answer =>
      rw [← List.singleton_append, entries_append, entries_append, Attempt.waiting, entries_noted]
      rfl
  cases connects with
  | undialed dials => simp [dial dials]
  | dialed dials => simp [dial dials]

theorem entries_closing (faults : List TransportFault) : r.entries (r.closing faults) = [] :=
  entries_of_idle fun e mem => Ledger.idle_of_aside (Log.Logger.aside_closing e mem)

theorem alternating_session (follows : (session logger endpoint budget).Follows t value) :
    Alternating "sending request" "received reply"
      (entries ⟨endpoint, loggerFor logger endpoint⟩ t) := by
  cases follows_session_iff.mp follows with
  | shutdown connects =>
    rw [connects.entries_eq_nil]
    trivial
  | failed connects =>
    rw [connects.entries_eq_nil]
    trivial
  | opened connects runs =>
    obtain ⟨rest, faults, turns, rfl⟩ := runs
    rw [entries_append, connects.entries_eq_nil]
    cases connects with
    | dialed dials =>
      rw [entries_append, entries_closing, List.append_nil]
      exact turns.alternating

/-! ## Lines and requests -/

theorem Turn.echoes (turn : Turn r state t stepped) : t.Echoes := by
  cases turn with
  | unprompted printed => exact Transcript.echoes_of_isOutput printed.isOutput
  | @stopped answer stop outcome =>
    cases answer <;> first | rfl | cases outcome
  | ended => exact Transcript.Echoes.append rfl Transcript.echoes_noted
  | sent line => exact Transcript.echoes_request line .taken
  | unsent line => exact Transcript.echoes_request line _
  | unanswered outcome => rfl
  | replied message =>
    have taken : Transcript.Echoes [⟨.receive, .message message⟩] := rfl
    exact taken.append (Transcript.echoes_noted.append rfl)
  | @unprinted message t stop printed =>
    have taken : Transcript.Echoes [⟨.receive, .message message⟩] := rfl
    exact taken.append
      (Transcript.echoes_noted.append (Transcript.echoes_of_isOutput printed.isOutput))
  | finished => rfl

theorem Pass.echoes (pass : Pass r state t stepped) : t.Echoes := by
  cases pass with
  | interrupted => rfl
  | begun turn => exact turn.echoes

theorem Turns.echoes (turns : Turns r budget state t value) : t.Echoes := by
  induction turns with
  | spent state => rfl
  | again pass goes later ih => exact pass.echoes.append ih
  | finished pass => exact pass.echoes
  | shutdown pass => exact pass.echoes.append Transcript.echoes_noted
  | failed pass => exact pass.echoes

theorem Connects.echoes {result : Except Stop Requester}
    (connects : Connects logger endpoint t result) : t.Echoes := by
  cases connects with
  | undialed dials => exact Transcript.echoes_noted.append (Transcript.echoes_of_dials dials)
  | dialed dials =>
    exact Transcript.echoes_noted.append
      ((Transcript.echoes_of_dials dials).append Transcript.echoes_noted)

/-- A requester tries to send the lines that it hears, and nothing else. -/
theorem echoes_session (follows : (session logger endpoint budget).Follows t value) :
    t.Echoes := by
  cases follows_session_iff.mp follows with
  | shutdown connects => exact connects.echoes
  | failed connects => exact connects.echoes
  | opened connects runs =>
    obtain ⟨rest, faults, turns, rfl⟩ := runs
    exact connects.echoes.append (turns.echoes.append Transcript.echoes_closing)

/-- The records of a requester are all of one level, so that it keeps all of them or none. -/
theorem map_about (balanced : r.ledger.Balanced t) :
    (t.about ["sending request", "received reply"]).map (·.message) =
      if r.logger.keeps .trace then r.entries t else [] := by
  have level : ∀ record ∈ t.filterMap r.ledger.owed, record.level = .trace := by
    intro record mem
    obtain ⟨e, -, owes⟩ := List.mem_filterMap.mp mem
    dsimp only [ledger] at owes
    split at owes <;> cases owes <;> rfl
  have same : t.about ["sending request", "received reply"] =
      (t.filterMap r.ledger.owed).filter (r.logger.keeps ·.level) := balanced.entries
  rw [same]
  split
  case isTrue keeps =>
    rw [List.filter_eq_self.mpr fun record mem => by rw [level record mem, keeps]]
    rfl
  case isFalse drops =>
    rw [List.filter_eq_nil_iff.mpr fun record mem => by rwa [level record mem]]
    rfl

end Requester

end MessagingConsole
