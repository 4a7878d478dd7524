import MessagingConsole.Proofs.Publisher.Confirmation
import MessagingConsole.Proofs.Session.Traffic

/-!
# What a run publishes

As long as the transport takes every message, the messages of a run are the bodies of the
offers that were confirmed in it.  A message that is not taken, be it refused or cut off by the
shutdown, changes little: it is the last thing that its run asks for before the channel is
closed.  So every run is a part in which all messages are taken, and then perhaps one offer that
is confirmed and not taken.

## Main Definitions

- `Offer.RefusedAt` - the transport does not take an offer that has just been confirmed.
- `Publishes` - the offers that a run publishes are those that are confirmed and not refused so.

## Main Results

- `exists_publishes` - every run publishes the bodies of these offers and nothing else.
-/

namespace MessagingConsole.Publisher

open Terminal (Prints shown lineChunks asked)

variable {p : Publisher} {files : FileTree} {before front past t tail : Transcript}

/-- The message that follows a confirmation is not taken by the transport. -/
def Offer.RefusedAt (t : Transcript) (o : Offer) (past : Transcript) : Prop :=
  ∃ records answer rest, answer ≠ .taken ∧
    t = past ++ records ++ ⟨.send (Utf8.encode o.body), answer⟩ :: rest ∧
      ∀ e ∈ records, e.record?.isSome

/-- The offers that a run publishes, each with the moment at which it is confirmed. -/
structure Publishes (files : FileTree) (t : Transcript) (published : List (Transcript × Offer)) :
    Prop where
  /-- They are those that are confirmed at some moment of the run, and not refused. -/
  mem_iff : ∀ past o, (past, o) ∈ published ↔
    past <+: t ∧ o.ConfirmedAt files past ∧ ¬ o.RefusedAt t past
  /-- They are in the order of their moments, and no moment counts twice. -/
  ordered : published.Pairwise fun first second => first.1.length < second.1.length
  /-- Their bodies are what the transport has taken. -/
  sent : t.sent = published.map fun c => Utf8.encode c.2.body

/-- What follows an offer that is confirmed and not taken. -/
def Offer.Refusal (o : Offer) (tail : Transcript) : Prop :=
  ∃ text records answer, answer ≠ .taken ∧
    tail = ⟨.readLine, .line text⟩ ::
      (records ++ [⟨.send (Utf8.encode o.body), answer⟩]) ∧
    ∀ e ∈ records, e.record?.isSome

/-! ## Every run up to a refusal -/

theorem sendsWell_of_quiet {e : Exchange} (quiet : e.Quiet) : e.SendsWell := by
  obtain ⟨operation, answer⟩ := e
  cases operation <;> trivial

theorem sendsWell_of_prints {chunks : List Bytes} {result : Except Stop Unit}
    (printed : Prints chunks t result) : ∀ e ∈ t, e.SendsWell :=
  fun e mem => sendsWell_of_quiet (Exchange.quiet_of_isOutput (printed.isOutput e mem))

theorem sendsWell_noted {level : Log.Level} {message : String} {pairs : List Log.Pair} :
    ∀ e ∈ p.logger.noted level message pairs, e.SendsWell :=
  fun e mem => sendsWell_of_quiet (quiet_noted e mem)

theorem sendsWell_asked {answer : LineAnswer} : ∀ e ∈ asked answer, e.SendsWell := by
  refine List.forall_mem_append.mpr ⟨fun e mem => ?_, List.forall_mem_singleton.mpr trivial⟩
  have output := Terminal.isOutput_shown [Utf8.encode Terminal.commandPrompt] e (by simpa using mem)
  exact sendsWell_of_quiet (Exchange.quiet_of_isOutput output)

/-- All messages of a round are taken, or the last one is not and stops the run. -/
theorem Turn.sendsWell_or_refused {result : Except Stop Bool} (turn : Turn p t result) :
    (∀ e ∈ t, e.SendsWell) ∨
      ∃ (o : Offer) (tail : Transcript) (stop : Stop),
        t = o.exchanges ++ tail ∧ o.Refusal tail ∧ result = .error stop := by
  cases turn with
  | unprompted printed => exact .inl (sendsWell_of_prints printed)
  | stopped outcome => exact .inl sendsWell_asked
  | ended => exact .inl sendsWell_asked
  | @command line t result rest =>
    rw [List.forall_mem_append, and_iff_right sendsWell_asked]
    cases rest with
    | quit command => exact .inl (List.forall_mem_nil _)
    | noticed notice printed => exact .inl (sendsWell_of_prints printed)
    | rejected command faulty printed =>
      refine .inl (List.forall_mem_cons.mpr ⟨trivial, List.forall_mem_append.mpr ⟨?_, ?_⟩⟩)
      · exact sendsWell_noted
      · exact sendsWell_of_prints printed
    | unshown o offered printed =>
      exact .inl (List.forall_mem_cons.mpr ⟨trivial, sendsWell_of_prints printed⟩)
    | @answered o answer t result offered rest =>
      subst offered
      have display : ∀ e ∈ (display o.body).flatMap shown, e.SendsWell := fun e mem =>
        sendsWell_of_quiet (Exchange.quiet_of_isOutput (Terminal.isOutput_shown _ e mem))
      have taken (well : ∀ e ∈ t, e.SendsWell) :
          ∀ e ∈ o.loaded :: ((Publisher.display o.body).flatMap shown ++ ⟨.readLine, answer⟩ :: t),
            e.SendsWell := by
        refine List.forall_mem_cons.mpr ⟨trivial, List.forall_mem_append.mpr ⟨display, ?_⟩⟩
        exact List.forall_mem_cons.mpr ⟨trivial, well⟩
      cases rest with
      | stopped outcome => exact .inl (taken (List.forall_mem_nil _))
      | declined outcome declines printed => exact .inl (taken (sendsWell_of_prints printed))
      | published confirms printed =>
        refine .inl (taken (List.forall_mem_append.mpr ⟨sendsWell_noted, ?_⟩))
        exact List.forall_mem_cons.mpr ⟨rfl, sendsWell_of_prints printed⟩
      | @refused reaction stop confirms untaken =>
        obtain ⟨text, rfl⟩ : ∃ text, answer = .line text := by
          cases answer <;> first | exact ⟨_, rfl⟩ | cases confirms
        have split := List.append_assoc (asked (.line o.command))
          (o.loaded :: (Publisher.display o.body).flatMap shown)
          (⟨.readLine, .line text⟩ :: (p.logger.noted .debug "publishing"
            [("bytes", Text.decimal (Utf8.encode o.body).length)] ++
              [⟨.send (Utf8.encode o.body), reaction⟩]))
        have refused : reaction ≠ .taken := by
          rintro rfl
          cases untaken
        exact .inr ⟨o, _, stop, split.symm,
          ⟨text, _, reaction, refused, rfl, Log.Logger.record_noted⟩, rfl⟩

/-- Beginning a round sends nothing. -/
theorem Pass.sendsWell_or_refused {result : Except Stop Bool} (pass : Pass p t result) :
    (∀ e ∈ t, e.SendsWell) ∨
      ∃ (o : Offer) (tail : Transcript) (stop : Stop),
        t = ⟨.turn, .begun⟩ :: o.exchanges ++ tail ∧ o.Refusal tail ∧ result = .error stop := by
  cases pass with
  | interrupted => exact .inl (List.forall_mem_singleton.mpr trivial)
  | begun turn =>
    rcases turn.sendsWell_or_refused with well | ⟨o, tail, stop, rfl, refusal, rfl⟩
    · exact .inl (List.forall_mem_cons.mpr ⟨trivial, well⟩)
    · exact .inr ⟨o, tail, stop, rfl, refusal, rfl⟩

/-- An offer that was only shown leaves nothing to account for. -/
theorem Accounts.shown (o : Offer) : Accounts files before (⟨.turn, .begun⟩ :: o.exchanges) [] := by
  have mark : Accounts files before [⟨.turn, .begun⟩] [] :=
    .quiet (List.forall_mem_singleton.mpr trivial)
  refine mark.append (Accounts.asked.append (.quiet ?_))
  refine List.forall_mem_cons.mpr ⟨trivial, fun e mem => ?_⟩
  exact Exchange.quiet_of_isOutput (Terminal.isOutput_shown _ e mem)

/-- Rounds account for what is sent in them, up to an offer that is not taken at their end. -/
theorem exists_accounts_or_refusal {budget : Nat} {value : Except Error Unit}
    (rounds : Rounds p budget t value) (reads : ∀ e ∈ t, e.ReadsFrom files) :
    ∃ front confirmed, Accounts files before front confirmed ∧
      (t = front ∨ ∃ (o : Offer) (tail rest : Transcript), t = front ++ (tail ++ rest) ∧
        o.exchanges <:+ before ++ front ∧ o.Refusal tail ∧ ∀ e ∈ rest, e.Quiet) := by
  have undisturbed {t : Transcript} (reads : ∀ e ∈ t, e.ReadsFrom files)
      (well : ∀ e ∈ t, e.SendsWell) : Undisturbed files t :=
    fun e mem => ⟨reads e mem, well e mem⟩
  have last (o : Offer) (before : Transcript) :
      o.exchanges <:+ before ++ ⟨.turn, .begun⟩ :: o.exchanges :=
    (List.suffix_cons _ _).trans (List.suffix_append _ _)
  induction rounds generalizing before with
  | spent => exact ⟨[], [], .quiet (by simp), .inl rfl⟩
  | @again budget t₁ t₂ value pass later ih =>
    obtain ⟨now, after⟩ := List.forall_mem_append.mp reads
    rcases pass.sendsWell_or_refused with well | ⟨o, tail, stop, -, -, ⟨⟩⟩
    obtain ⟨first, one⟩ := exists_accounts_of_pass pass (undisturbed now well)
    obtain ⟨front, second, two, rfl | ⟨o, tail, rest, rfl, offered, refusal⟩⟩ := ih after
    · exact ⟨_, _, one.append two, .inl rfl⟩
    · rw [List.append_assoc] at offered
      exact ⟨_, _, one.append two,
        .inr ⟨o, tail, rest, (List.append_assoc ..).symm, offered, refusal⟩⟩
  | finished pass =>
    rcases pass.sendsWell_or_refused with well | ⟨o, tail, stop, -, -, ⟨⟩⟩
    obtain ⟨confirmed, accounts⟩ := exists_accounts_of_pass pass (undisturbed reads well)
    exact ⟨_, confirmed, accounts, .inl rfl⟩
  | shutdown pass =>
    obtain ⟨now, -⟩ := List.forall_mem_append.mp reads
    rcases pass.sendsWell_or_refused with well | ⟨o, tail, stop, rfl, refusal, -⟩
    · obtain ⟨first, one⟩ := exists_accounts_of_pass pass (undisturbed now well)
      exact ⟨_, _, one.append (.quiet quiet_noted), .inl rfl⟩
    · exact ⟨_, [], .shown o, .inr
        ⟨o, tail, _, List.append_assoc .., last o before, refusal, quiet_noted⟩⟩
  | failed pass =>
    rcases pass.sendsWell_or_refused with well | ⟨o, tail, stop, rfl, refusal, -⟩
    · obtain ⟨confirmed, accounts⟩ := exists_accounts_of_pass pass (undisturbed reads well)
      exact ⟨_, confirmed, accounts, .inl rfl⟩
    · exact ⟨_, [], .shown o, .inr
        ⟨o, tail, [], by rw [List.append_nil], last o before, refusal, List.forall_mem_nil _⟩⟩

/-! ## What is published -/

/-- The first exchange after some records is no other one after other records. -/
theorem eq_of_records_eq {records records' rest rest' : Transcript} {e e' : Exchange}
    (recorded : ∀ e ∈ records, e.record?.isSome) (recorded' : ∀ e ∈ records', e.record?.isSome)
    (other : e.record? = none) (other' : e'.record? = none)
    (same : records ++ e :: rest = records' ++ e' :: rest') : e = e' := by
  have first {records rest : Transcript} {e : Exchange} (other : e.record? = none)
      (recorded : ∀ e ∈ records, e.record?.isSome) :
      (records ++ e :: rest).find? (·.record?.isNone) = some e := by
    rw [List.find?_append, List.find?_eq_none.mpr, List.find?_cons_of_pos]
    · rfl
    · rw [other]
      rfl
    · intro e mem
      rw [Option.isNone_iff_eq_none, ← ne_eq, Option.ne_none_iff_isSome]
      exact recorded e mem
  apply Option.some.inj
  rw [← first other recorded, same, first other' recorded']

/-- What is accounted for was not refused. -/
theorem Accounts.not_refusedAt {confirmed : List (Transcript × Offer)} {o : Offer}
    (accounts : Accounts files [] front confirmed) (mem : (past, o) ∈ confirmed) :
    ¬ o.RefusedAt (front ++ tail) past := by
  rintro ⟨records', answer, rest', untaken, refused, recorded'⟩
  obtain ⟨records, rest, taken, recorded⟩ := accounts.sent_after past o mem
  rw [List.nil_append] at taken
  rw [taken, List.append_assoc, List.append_assoc, List.append_assoc] at refused
  have same := List.append_cancel_left refused
  rw [List.cons_append] at same
  cases eq_of_records_eq recorded recorded' rfl rfl same
  exact untaken rfl

/-- The offers accounted for are published if nothing more is sent, and every other one that
is confirmed is refused. -/
theorem Accounts.publishes {confirmed : List (Transcript × Offer)}
    (accounts : Accounts files [] front confirmed) (unsent : tail.sent = [])
    (refused : ∀ past (o : Offer), front.length < past.length → past <+: front ++ tail →
      o.ConfirmedAt files past → o.RefusedAt (front ++ tail) past) :
    Publishes files (front ++ tail) confirmed where
  mem_iff past o := by
    constructor
    · intro mem
      obtain ⟨-, moment, confirmedAt⟩ := (accounts.mem_iff past o).mp mem
      exact ⟨moment.trans (List.prefix_append _ _), confirmedAt, accounts.not_refusedAt mem⟩
    · rintro ⟨moment, confirmedAt, taken⟩
      rcases Nat.lt_or_ge front.length past.length with long | short
      · exact absurd (refused past o long moment confirmedAt) taken
      · refine (accounts.mem_iff past o).mpr ⟨?_, ?_, confirmedAt⟩
        · obtain ⟨before, text, rfl, -⟩ := confirmedAt.confirmed
          rw [List.length_append]
          exact Nat.succ_pos _
        · exact List.prefix_of_prefix_length_le moment (List.prefix_append _ _) short
  ordered := accounts.ordered
  sent := by rw [Transcript.sent_append, unsent, List.append_nil, accounts.sent]

/-- Nothing of an offer that is not taken is sent. -/
theorem Offer.Refusal.sent {o : Offer} (refusal : o.Refusal tail) : tail.sent = [] := by
  obtain ⟨text, records, answer, untaken, rfl, recorded⟩ := refusal
  have unsent : Exchange.sent? ⟨.send (Utf8.encode o.body), answer⟩ = none := by
    cases answer <;> first | rfl | exact absurd rfl untaken
  refine List.filterMap_eq_nil_iff.mpr (List.forall_mem_cons.mpr ⟨rfl, ?_⟩)
  refine List.forall_mem_append.mpr ⟨fun e mem => ?_, List.forall_mem_singleton.mpr unsent⟩
  have record := recorded e mem
  obtain ⟨operation, answer⟩ := e
  cases operation <;> first | rfl | cases record

/-- An offer that is confirmed in a refusal is the one that is not taken. -/
theorem Offer.Refusal.refusedAt {o other : Offer} {rest : Transcript} (refusal : o.Refusal tail)
    (offered : o.exchanges <:+ front) (quiet : ∀ e ∈ rest, e.Quiet)
    (later : front.length < past.length) (moment : past <+: front ++ (tail ++ rest))
    (confirmedAt : other.ConfirmedAt files past) :
    other.RefusedAt (front ++ (tail ++ rest)) past := by
  obtain ⟨text, records, answer, untaken, rfl, recorded⟩ := refusal
  obtain ⟨now, e, after, rfl, split⟩ := exists_exchange later moment
  obtain ⟨-, offered', text', -, rfl⟩ := Offer.confirmedAt_concat_iff.mp confirmedAt
  cases now with
  | nil =>
    obtain ⟨same, tail⟩ := List.cons.inj split
    rw [List.append_nil] at offered' ⊢
    rw [Offer.eq_of_suffix offered' offered, ← same]
    exact ⟨records, answer, rest, untaken, by simp, recorded⟩
  | cons head now =>
    -- Only the first exchange of a refusal is about a line.
    have tail : records ++ [⟨.send (Utf8.encode o.body), answer⟩] ++ rest =
        now ++ ⟨.readLine, .line text'⟩ :: after := (List.cons.inj split).2
    have mem : (⟨.readLine, .line text'⟩ : Exchange) ∈
        records ++ [⟨.send (Utf8.encode o.body), answer⟩] ++ rest := by
      rw [tail]
      simp
    simp only [List.mem_append, List.mem_singleton] at mem
    rcases mem with (record | ⟨⟨⟩⟩) | last
    · exact absurd (recorded _ record) (by simp [Exchange.record?])
    · exact absurd (quiet _ last) id

/-- **A run publishes the bodies of the offers that were confirmed in it and not refused.**
That is so whatever happens to the output, the input, the files and the transport. -/
theorem exists_publishes (p : Publisher) (budget : Nat) (env : Environment) :
    ∃ published, Publishes env.files ((p.run budget).run env).transcript published := by
  have follows := (p.run budget).follows_run env
  have gives := (p.run budget).gives_run env
  have reads : ∀ e ∈ ((p.run budget).run env).transcript, e.ReadsFrom env.files :=
    fun e mem => gives.readsFrom e mem
  obtain ⟨t, faults, rounds, whole⟩ := follows_run_iff.mp follows
  rw [whole] at reads ⊢
  have quiet : ∀ e ∈ p.closing faults, e.Quiet :=
    fun e mem => Exchange.quiet_of_aside (Log.Logger.aside_closing e mem)
  have closed (before : Transcript) : Accounts env.files before (p.closing faults) [] :=
    .quiet quiet
  obtain ⟨front, published, accounts, rfl | ⟨o, tail, rest, rfl, offered, refusal, ends⟩⟩ :=
    exists_accounts_or_refusal rounds (List.forall_mem_append.mp reads).1
  · have unsent : (p.closing faults).sent = [] := (closed []).sent
    refine ⟨published, accounts.publishes unsent fun past o later moment confirmedAt => ?_⟩
    have mem := ((closed _).mem_iff past o).mpr ⟨later, moment, confirmedAt⟩
    exact absurd mem List.not_mem_nil
  · have quiet : ∀ e ∈ rest ++ p.closing faults, e.Quiet := List.forall_mem_append.mpr ⟨ends, quiet⟩
    have ended : Accounts env.files [] (rest ++ p.closing faults) [] := .quiet quiet
    rw [List.append_assoc, List.append_assoc]
    refine ⟨published, accounts.publishes ?_ fun past other later moment confirmedAt => ?_⟩
    · rw [Transcript.sent_append, refusal.sent, ended.sent]
      rfl
    · exact refusal.refusedAt offered quiet later moment confirmedAt

end MessagingConsole.Publisher
