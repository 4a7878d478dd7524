import MessagingConsole.Proofs.Publisher.Broadcast
import MessagingConsole.Proofs.Publisher.Turns
import MessagingConsole.Proofs.Session.Surroundings

/-!
# Nothing is published without a confirmation

A publisher shares one stream of lines between two readers: the one that waits for a
command and the one that waits for the answer to an offer.  This module says which
broadcasts go out, whatever happens to the output, the input and the files on the way.

A *moment* of a run is what has been exchanged so far.  At some moments an offer has just
been confirmed: `Offer.ConfirmedAt` asks for the command, the file, every chunk of the
display and the answer, one right after the other.  The messages of a run are the bodies
of the offers confirmed at its moments, in order, and each of them is sent before
anything else but a record is exchanged.

## Main Definitions

- `Offer.ConfirmedAt` - an offer has just been confirmed.
- `Accounts` - the invariant that carries the proof: what was sent in a part of a run is
  accounted for by the confirmations in that part.

## Main Results

- `sent_eq_confirmed` - the confirmations of a run and its messages correspond.
-/

namespace MessagingConsole

/-- Whether an exchange is neither about a line nor about a message to send. -/
def Exchange.Quiet : Exchange → Prop
  | ⟨.readLine, _⟩ => False
  | ⟨.send _, _⟩ => False
  | _ => True

theorem Exchange.quiet_of_isOutput {e : Exchange} (output : e.isOutput) : e.Quiet := by
  obtain ⟨operation, answer⟩ := e
  cases operation <;> trivial

theorem Exchange.quiet_of_aside {e : Exchange}
    (aside : e.record?.isSome ∨ e.operation = .close) : e.Quiet := by
  obtain ⟨operation, answer⟩ := e
  cases operation <;> first | trivial | exact aside.elim nofun nofun

namespace Publisher

open Terminal (Prints shown lineChunks asked)

variable {p : Publisher} {files : FileTree} {before past t t₁ t₂ : Transcript}

/-- An offer has just been confirmed: the last exchanges are those of an offer of what is
in its file, and a line that confirms it. -/
structure Offer.ConfirmedAt (files : FileTree) (o : Offer) (past : Transcript) : Prop where
  read : files.read (Utf8.encode o.path) = .ok o.content
  confirmed : ∃ before text,
    past = before ++ o.exchanges ++ [⟨.readLine, .line text⟩] ∧ Confirms (.line text)

/-! ## Confirmations are read off the last exchanges -/

theorem Offer.length_exchanges (o : Offer) : o.exchanges.length = 14 := rfl

/-- Offers that look alike are the same. -/
theorem Offer.exchanges_inj {o other : Offer} (same : o.exchanges = other.exchanges) :
    o = other := by
  obtain ⟨command, path, content, body, asks, loads⟩ := o
  obtain ⟨command', path', content', body', asks', loads'⟩ := other
  -- The command and the content can be seen, and they determine the path and the body.
  simp only [exchanges, asked, shown, loaded, List.cons_append, List.nil_append,
    List.cons.injEq, Exchange.mk.injEq, heq_eq_eq, true_and, LineAnswer.line.injEq] at same
  obtain ⟨rfl, ⟨-, read⟩, -⟩ := same
  cases asks.symm.trans asks'
  cases read
  cases loads.symm.trans loads'
  rfl

/-- The last exchange of a confirmation is the line that confirms. -/
theorem Offer.confirmedAt_concat_iff {o : Offer} {e : Exchange} :
    o.ConfirmedAt files (past ++ [e]) ↔
      files.read (Utf8.encode o.path) = .ok o.content ∧ o.exchanges <:+ past ∧
        ∃ text, Confirms (.line text) ∧ e = ⟨.readLine, .line text⟩ := by
  constructor
  · rintro ⟨read, before, text, same, confirms⟩
    obtain ⟨rfl, last⟩ := List.append_inj' same rfl
    exact ⟨read, ⟨before, rfl⟩, text, confirms, List.singleton_inj.mp last⟩
  · rintro ⟨read, ⟨before, rfl⟩, text, confirms, rfl⟩
    exact ⟨read, before, text, rfl, confirms⟩

/-- There is only one offer to confirm at a time. -/
theorem Offer.eq_of_suffix {o other : Offer} (first : o.exchanges <:+ past)
    (second : other.exchanges <:+ past) : o = other := by
  apply exchanges_inj
  have lengths : o.exchanges.length = other.exchanges.length := by
    rw [length_exchanges, length_exchanges]
  exact (List.suffix_of_suffix_length_le first second (Nat.le_of_eq lengths)).eq_of_length lengths

/-- No confirmation is read at the prompt for a command. -/
theorem Offer.not_confirmedAt_asked {o : Offer} {answer : LineAnswer} :
    ¬ o.ConfirmedAt files (before ++ asked answer) := by
  unfold asked
  rw [← List.append_assoc, confirmedAt_concat_iff]
  rintro ⟨-, ⟨start, same⟩, -⟩
  -- An offer ends with a prompt as well, but with the one for its confirmation.
  obtain ⟨front, ends⟩ :
      ∃ front, o.exchanges = front ++ shown (Utf8.encode confirmationPrompt) := by
    refine ⟨asked (.line o.command) ++ o.loaded ::
      (lineChunks (announcement o.body) ++ lineChunks o.body).flatMap shown, ?_⟩
    simp [exchanges, display]
  rw [ends, ← List.append_assoc] at same
  have prompts := List.append_inj_right' same rfl
  simp only [shown, List.cons.injEq, Exchange.mk.injEq, Operation.write.injEq,
    Utf8.encode_inj] at prompts
  exact absurd prompts.1.1 (by decide)

/-! ## Messages are accounted for by confirmations -/

/-- The confirmations in a part of a run account for what was sent in it.  `before` is
what had been exchanged when the part began. -/
structure Accounts (files : FileTree) (before t : Transcript)
    (confirmed : List (Transcript × Offer)) : Prop where
  /-- The confirmations are those at all moments of the part. -/
  mem_iff : ∀ past o, (past, o) ∈ confirmed ↔
    before.length < past.length ∧ past <+: before ++ t ∧ o.ConfirmedAt files past
  /-- They are in the order of their moments, and no moment counts twice. -/
  ordered : confirmed.Pairwise fun first second => first.1.length < second.1.length
  /-- What was sent are the bodies of the confirmed offers. -/
  sent : t.sent = confirmed.map fun c => Utf8.encode c.2.body
  /-- A confirmed offer is sent before anything else but a record is exchanged. -/
  sent_after : ∀ past o, (past, o) ∈ confirmed → ∃ records rest,
    before ++ t = past ++ records ++ ⟨.send (Utf8.encode o.body), .taken⟩ :: rest ∧
      ∀ e ∈ records, e.record?.isSome
  /-- Nothing but records is exchanged between a confirmation and an attempt to send. -/
  sent_only : ∀ now payload answer rest, t = now ++ ⟨.send payload, answer⟩ :: rest →
    ∃ past o records, (past, o) ∈ confirmed ∧ payload = Utf8.encode o.body ∧
      before ++ now = past ++ records ∧ ∀ e ∈ records, e.record?.isSome

/-- A moment of a part of a run is one just after an exchange of that part. -/
theorem exists_exchange (later : before.length < past.length) (moment : past <+: before ++ t) :
    ∃ now e rest, past = before ++ now ++ [e] ∧ t = now ++ e :: rest := by
  obtain ⟨rest, same⟩ := moment
  obtain ⟨now, rfl⟩ : ∃ now, past = before ++ now := by
    have prefixes : before <+: past :=
      List.prefix_of_prefix_length_le ⟨t, same.symm⟩ ⟨rest, rfl⟩ (Nat.le_of_lt later)
    obtain ⟨now, rfl⟩ := prefixes
    exact ⟨now, rfl⟩
  have split : t = now ++ rest := by simpa using same.symm
  rcases List.eq_nil_or_concat now with rfl | ⟨now, e, rfl⟩
  · simp at later
  · exact ⟨now, e, rest, by simp, by simpa using split⟩

/-- Nothing has to be accounted for where nothing is confirmed and nothing sent. -/
theorem Accounts.nothing (unsent : ∀ payload answer, ⟨.send payload, answer⟩ ∉ t)
    (unconfirmed : ∀ now e rest, t = now ++ e :: rest →
      ∀ o : Offer, ¬ o.ConfirmedAt files (before ++ now ++ [e])) :
    Accounts files before t [] where
  mem_iff past o := by
    refine iff_of_false List.not_mem_nil ?_
    rintro ⟨later, moment, confirmed⟩
    obtain ⟨now, e, rest, rfl, split⟩ := exists_exchange later moment
    exact unconfirmed now e rest split o confirmed
  ordered := .nil
  sent := by
    refine List.filterMap_eq_nil_iff.mpr fun e mem => ?_
    obtain ⟨operation, answer⟩ := e
    cases operation with
    | send payload => exact absurd mem (unsent payload answer)
    | _ => rfl
  sent_after _ _ mem := absurd mem List.not_mem_nil
  sent_only now payload answer rest split :=
    absurd (by simp [split]) (unsent payload answer)

theorem Accounts.quiet (quiet : ∀ e ∈ t, e.Quiet) : Accounts files before t [] := by
  refine .nothing (fun payload answer mem => quiet _ mem) fun now e rest split o => ?_
  rw [Offer.confirmedAt_concat_iff]
  rintro ⟨-, -, text, -, rfl⟩
  exact quiet ⟨.readLine, .line text⟩ (by simp [split])

/-- An exchange of a part is the last one of it or one before. -/
theorem eq_or_mem_of_concat {front now rest : Transcript} {last e : Exchange}
    (split : front ++ [last] = now ++ e :: rest) :
    (front = now ∧ last = e ∧ rest = []) ∨ e ∈ front := by
  rcases List.eq_nil_or_concat rest with rfl | ⟨rest, last', rfl⟩
  · obtain ⟨rfl, same⟩ := List.append_inj' split rfl
    exact .inl ⟨rfl, List.singleton_inj.mp same, rfl⟩
  · rw [List.concat_eq_append, ← List.cons_append, ← List.append_assoc] at split
    obtain ⟨rfl, -⟩ := List.append_inj' split rfl
    exact .inr (by simp)

/-- Answering a prompt for a command confirms nothing. -/
theorem Accounts.asked {answer : LineAnswer} : Accounts files before (asked answer) [] := by
  refine .nothing (by simp [Terminal.asked, shown]) fun now e rest split o confirmed => ?_
  rcases eq_or_mem_of_concat split with ⟨rfl, rfl, -⟩ | inside
  · rw [List.append_assoc] at confirmed
    exact Offer.not_confirmedAt_asked confirmed
  · obtain ⟨-, -, text, -, rfl⟩ := Offer.confirmedAt_concat_iff.mp confirmed
    simp [shown] at inside

/-- An answer that does not confirm an offer leaves nothing to account for. -/
theorem Accounts.declined {answer : LineAnswer} (declines : ¬ Confirms answer) :
    Accounts files before [⟨.readLine, answer⟩] [] := by
  refine .nothing (by simp) fun now e rest split o confirmed => ?_
  obtain ⟨-, -, text, confirms, rfl⟩ := Offer.confirmedAt_concat_iff.mp confirmed
  have mem : (⟨.readLine, .line text⟩ : Exchange) ∈ [(⟨.readLine, answer⟩ : Exchange)] := by
    simp [split]
  cases List.mem_singleton.mp mem
  exact declines confirms

/-- An offer that was confirmed accounts for the message that is sent next. -/
theorem Accounts.published {o : Offer} {text : String} {records : Transcript}
    (read : files.read (Utf8.encode o.path) = .ok o.content) (offered : o.exchanges <:+ before)
    (confirms : Confirms (.line text)) (recorded : ∀ e ∈ records, e.record?.isSome) :
    Accounts files before
      (⟨.readLine, .line text⟩ :: (records ++ [⟨.send (Utf8.encode o.body), .taken⟩]))
      [(before ++ [⟨.readLine, .line text⟩], o)] where
  mem_iff past other := by
    rw [List.mem_singleton]
    constructor
    · rintro ⟨⟩
      refine ⟨by simp, ⟨records ++ [⟨.send (Utf8.encode o.body), .taken⟩], by simp⟩, ?_⟩
      exact Offer.confirmedAt_concat_iff.mpr ⟨read, offered, text, confirms, rfl⟩
    · rintro ⟨later, moment, confirmed⟩
      obtain ⟨now, e, rest, rfl, split⟩ := exists_exchange later moment
      obtain ⟨-, offered', text', -, rfl⟩ := Offer.confirmedAt_concat_iff.mp confirmed
      cases now with
      | nil =>
        obtain ⟨same, -⟩ := List.cons.inj split
        rw [List.append_nil] at offered' ⊢
        rw [← same, Offer.eq_of_suffix offered' offered]
      | cons head now =>
        -- A later moment of the part ends with a record or with the message, not with a line.
        rcases eq_or_mem_of_concat (List.cons.inj split).2 with ⟨-, ⟨⟩, -⟩ | record
        exact absurd (recorded _ record) (by simp [Exchange.record?])
  ordered := List.pairwise_singleton _ _
  sent := by
    have unsent : records.filterMap Exchange.sent? = [] := by
      refine List.filterMap_eq_nil_iff.mpr fun e mem => ?_
      obtain ⟨operation, answer⟩ := e
      cases operation with
      | send payload => exact absurd (recorded _ mem) (by simp [Exchange.record?])
      | _ => rfl
    simp [Transcript.sent, List.filterMap_cons, Exchange.sent?, unsent]
  sent_after past other mem := by
    cases List.mem_singleton.mp mem
    exact ⟨records, [], by simp, recorded⟩
  sent_only now payload answer rest split := by
    cases now with
    | nil => cases (List.cons.inj split).1
    | cons head now =>
      obtain ⟨rfl, tail⟩ := List.cons.inj split
      rcases eq_or_mem_of_concat tail with ⟨rfl, ⟨⟩, -⟩ | record
      · exact ⟨_, o, records, List.mem_singleton.mpr rfl, rfl, by simp, recorded⟩
      · exact absurd (recorded _ record) (by simp [Exchange.record?])

/-- Parts of a run are accounted for one after the other. -/
theorem Accounts.append {first second : List (Transcript × Offer)}
    (one : Accounts files before t₁ first) (two : Accounts files (before ++ t₁) t₂ second) :
    Accounts files before (t₁ ++ t₂) (first ++ second) where
  mem_iff past o := by
    rw [List.mem_append, one.mem_iff, two.mem_iff, List.length_append, ← List.append_assoc]
    constructor
    · rintro (⟨later, moment, confirmed⟩ | ⟨later, moment, confirmed⟩)
      · exact ⟨later, moment.trans (List.prefix_append _ _), confirmed⟩
      · exact ⟨Nat.lt_of_le_of_lt (Nat.le_add_right _ _) later, moment, confirmed⟩
    · rintro ⟨later, moment, confirmed⟩
      -- The length of a moment tells the part that it belongs to.
      rcases Nat.lt_or_ge (before ++ t₁).length past.length with long | short
      · rw [List.length_append] at long
        exact .inr ⟨long, moment, confirmed⟩
      · have early := List.prefix_of_prefix_length_le moment (List.prefix_append _ _) short
        exact .inl ⟨later, early, confirmed⟩
  ordered := by
    refine List.pairwise_append.mpr ⟨one.ordered, two.ordered, fun a fore b aft => ?_⟩
    have early := ((one.mem_iff a.1 a.2).mp fore).2.1.length_le
    exact Nat.lt_of_le_of_lt early ((two.mem_iff b.1 b.2).mp aft).1
  sent := by
    rw [List.map_append, ← one.sent, ← two.sent]
    exact List.filterMap_append
  sent_after past o mem := by
    rw [← List.append_assoc]
    rcases List.mem_append.mp mem with fore | aft
    · obtain ⟨records, rest, same, recorded⟩ := one.sent_after past o fore
      exact ⟨records, rest ++ t₂, by rw [same]; simp, recorded⟩
    · exact two.sent_after past o aft
  sent_only now payload answer rest split := by
    rcases List.append_eq_append_iff.mp split with ⟨middle, rfl, tail⟩ | ⟨middle, rfl, tail⟩
    · obtain ⟨past, o, records, aft, payload_eq, same, recorded⟩ :=
        two.sent_only middle payload answer rest tail
      rw [List.append_assoc] at same
      exact ⟨past, o, records, List.mem_append_right _ aft, payload_eq, same, recorded⟩
    · cases middle with
      | nil =>
        -- An attempt at the border is the first exchange of the second part.
        obtain ⟨past, o, records, aft, payload_eq, same, recorded⟩ :=
          two.sent_only [] payload answer rest tail.symm
        exact ⟨past, o, records, List.mem_append_right _ aft, payload_eq, by simpa using same,
          recorded⟩
      | cons head middle =>
        obtain ⟨rfl, rfl⟩ := List.cons.inj tail
        obtain ⟨past, o, records, fore, found⟩ := one.sent_only now payload answer middle rfl
        exact ⟨past, o, records, List.mem_append_left _ fore, found⟩

/-! ## From a turn to a run -/

/-- Whether files are read as they are, and messages are all taken. -/
def Undisturbed (files : FileTree) (t : Transcript) : Prop :=
  ∀ e ∈ t, e.ReadsFrom files ∧ e.SendsWell

theorem undisturbed_append :
    Undisturbed files (t₁ ++ t₂) ↔ Undisturbed files t₁ ∧ Undisturbed files t₂ :=
  List.forall_mem_append

theorem quiet_noted {level : Log.Level} {message : String} {pairs : List Log.Pair} :
    ∀ e ∈ p.logger.noted level message pairs, e.Quiet :=
  fun e mem => Exchange.quiet_of_aside (.inl (Log.Logger.record_noted e mem))

/-- The answer to an offer accounts for what is sent after it. -/
theorem exists_accounts_of_answered {o : Offer} {answer : LineAnswer}
    {result : Except Stop Unit} (answered : Answered p o.body answer t result)
    (read : files.read (Utf8.encode o.path) = .ok o.content) (offered : o.exchanges <:+ before)
    (undisturbed : Undisturbed files t) :
    ∃ confirmed, Accounts files before (⟨.readLine, answer⟩ :: t) confirmed := by
  cases answered with
  | stopped outcome =>
    have declines : ¬ Confirms answer := by
      cases answer <;> first | exact id | cases outcome
    exact ⟨[], .declined declines⟩
  | declined outcome declines printed =>
    have rest := fun e mem => Exchange.quiet_of_isOutput (printed.isOutput e mem)
    exact ⟨_, (Accounts.declined declines).append (.quiet rest)⟩
  | refused confirms untaken =>
    have taken := (undisturbed _ (List.mem_append_right _ (List.mem_singleton.mpr rfl))).2
    cases taken
    cases untaken
  | @published after result confirms printed =>
    obtain ⟨text, rfl⟩ : ∃ text, answer = .line text := by
      cases answer <;> first | exact ⟨_, rfl⟩ | cases confirms
    have rest := fun e mem => Exchange.quiet_of_isOutput (printed.isOutput e mem)
    rw [List.append_cons, ← List.cons_append]
    exact ⟨_, (Accounts.published read offered confirms Log.Logger.record_noted).append
      (.quiet rest)⟩

/-- A round accounts for what is sent in it. -/
theorem exists_accounts_of_turn {result : Except Stop Bool} (turn : Turn p t result)
    (undisturbed : Undisturbed files t) : ∃ confirmed, Accounts files before t confirmed := by
  cases turn with
  | unprompted printed =>
    exact ⟨[], .quiet fun e mem => Exchange.quiet_of_isOutput (printed.isOutput e mem)⟩
  | stopped => exact ⟨[], .asked⟩
  | ended => exact ⟨[], .asked⟩
  | @command line after result rest =>
    suffices ∃ confirmed, Accounts files (before ++ asked (.line line)) after confirmed by
      obtain ⟨confirmed, accounts⟩ := this
      exact ⟨_, Accounts.asked.append accounts⟩
    have later := (undisturbed_append.mp undisturbed).2
    cases rest with
    | quit => exact ⟨[], .quiet (by simp)⟩
    | noticed notice printed =>
      exact ⟨[], .quiet fun e mem => Exchange.quiet_of_isOutput (printed.isOutput e mem)⟩
    | rejected command faulty printed =>
      refine ⟨[], .quiet (List.forall_mem_cons.mpr ⟨trivial, List.forall_mem_append.mpr ⟨?_, ?_⟩⟩)⟩
      · exact quiet_noted
      · exact fun e mem => Exchange.quiet_of_isOutput (printed.isOutput e mem)
    | unshown o offered printed =>
      refine ⟨[], .quiet (List.forall_mem_cons.mpr ⟨trivial, ?_⟩)⟩
      exact fun e mem => Exchange.quiet_of_isOutput (printed.isOutput e mem)
    | @answered o answer after result offered rest =>
      subst offered
      rw [← List.cons_append] at later ⊢
      obtain ⟨displayed, answering⟩ := undisturbed_append.mp later
      have read : Except.ok o.content = files.read (Utf8.encode o.path) :=
        (displayed _ (List.mem_cons_self ..)).1
      have shown : Accounts files (before ++ asked (.line o.command))
          (o.loaded :: (display o.body).flatMap shown) [] :=
        .quiet (List.forall_mem_cons.mpr
          ⟨trivial, fun e mem => Exchange.quiet_of_isOutput (Terminal.isOutput_shown _ e mem)⟩)
      obtain ⟨confirmed, accounts⟩ := exists_accounts_of_answered rest read.symm
        ⟨before, (List.append_assoc ..).symm⟩ (List.forall_mem_cons.mp answering).2
      exact ⟨_, shown.append accounts⟩

/-- Beginning a round confirms nothing and sends nothing. -/
theorem exists_accounts_of_pass {result : Except Stop Bool} (pass : Pass p t result)
    (undisturbed : Undisturbed files t) : ∃ confirmed, Accounts files before t confirmed := by
  have mark (answer : TurnAnswer) : Accounts files before [⟨.turn, answer⟩] [] :=
    .quiet (List.forall_mem_singleton.mpr trivial)
  cases pass with
  | interrupted => exact ⟨[], mark .interrupted⟩
  | begun turn =>
    obtain ⟨-, inside⟩ := List.forall_mem_cons.mp undisturbed
    obtain ⟨confirmed, accounts⟩ := exists_accounts_of_turn turn inside
    exact ⟨_, (mark .begun).append accounts⟩

/-- Rounds account for what is sent in them. -/
theorem exists_accounts_of_rounds {budget : Nat} {value : Except Error Unit}
    (rounds : Rounds p budget t value) (undisturbed : Undisturbed files t) :
    ∃ confirmed, Accounts files before t confirmed := by
  induction rounds generalizing before with
  | spent => exact ⟨[], .quiet (by simp)⟩
  | again pass later ih =>
    obtain ⟨now, after⟩ := undisturbed_append.mp undisturbed
    obtain ⟨first, one⟩ := exists_accounts_of_pass pass now
    obtain ⟨second, two⟩ := ih after
    exact ⟨_, one.append two⟩
  | finished pass => exact exists_accounts_of_pass pass undisturbed
  | shutdown pass =>
    obtain ⟨now, -⟩ := undisturbed_append.mp undisturbed
    obtain ⟨first, one⟩ := exists_accounts_of_pass pass now
    exact ⟨_, one.append (.quiet quiet_noted)⟩
  | failed pass => exact exists_accounts_of_pass pass undisturbed

/-- What a file has to be so that an offer of it can be confirmed. -/
theorem Offer.loads {o : Offer} (read : files.read (Utf8.encode o.path) = .ok o.content) :
    Broadcast.ofFile files (Utf8.encode o.path) = .ok o.body ∧
      (Utf8.encode o.body).length ≤ Broadcast.maxLength ∧
      (∀ b ∈ Utf8.encode o.body, Broadcast.isPrintable b) ∧
      ∃ lineEnd ∈ Broadcast.lineEnds,
        files.read (Utf8.encode o.path) = .ok (Utf8.encode o.body ++ lineEnd) := by
  obtain ⟨octets, printable, short⟩ := Broadcast.ofContent_eq_ok o.ofContent_content
  obtain ⟨lineEnd, known, split⟩ := Broadcast.exists_lineEnd o.content
  rw [Broadcast.ofFile, read, octets]
  exact ⟨o.ofContent_content, short, printable, lineEnd, known, congrArg _ split⟩

/-- **What is published is what was confirmed.**  Whatever happens to the output, the
input and the files, as long as the transport takes every message: the messages of a run
are the bodies of the offers that were confirmed in it, one message for each, sent right
after the confirmation, and each of them is a short printable line from its file. -/
theorem sent_eq_confirmed (p : Publisher) (budget : Nat) (env : Environment)
    (accepts : env.link.AcceptsSends) :
    ∃ confirmed : List (Transcript × Offer),
      Accounts env.files [] ((p.run budget).run env).transcript confirmed ∧
        ∀ c ∈ confirmed,
          Broadcast.ofFile env.files (Utf8.encode c.2.path) = .ok c.2.body ∧
          (Utf8.encode c.2.body).length ≤ Broadcast.maxLength ∧
          (∀ b ∈ Utf8.encode c.2.body, Broadcast.isPrintable b) ∧
          ∃ lineEnd ∈ Broadcast.lineEnds,
            env.files.read (Utf8.encode c.2.path) = .ok (Utf8.encode c.2.body ++ lineEnd) := by
  have follows := (p.run budget).follows_run env
  have gives := (p.run budget).gives_run env
  have undisturbed : Undisturbed env.files ((p.run budget).run env).transcript :=
    fun e mem => ⟨gives.readsFrom e mem, gives.sendsWell accepts e mem⟩
  obtain ⟨rest, faults, rounds, whole⟩ := follows_run_iff.mp follows
  rw [whole] at undisturbed ⊢
  obtain ⟨confirmed, accounts⟩ :=
    exists_accounts_of_rounds rounds (undisturbed_append.mp undisturbed).1
  have closed : Accounts env.files ([] ++ rest) (p.closing faults) [] :=
    .quiet fun e mem => Exchange.quiet_of_aside (Log.Logger.aside_closing e mem)
  have total := accounts.append closed
  rw [List.append_nil] at total
  refine ⟨confirmed, total, fun c mem => Offer.loads ?_⟩
  exact ((accounts.mem_iff c.1 c.2).mp mem).2.2.read

/-- A broadcast that went out shows that its offer was confirmed at some moment. -/
theorem exists_confirmedAt_of_yes :
    let p : Publisher := ⟨⟨"localhost", 5555⟩, .silent⟩
    let files : FileTree := ⟨[([Utf8.encode "motd"], .file (Utf8.encode "hello\n"))]⟩
    let t := ((p.run 3).run (.calm "help\nsend motd\n YES \n" files [])).transcript
    ∃ (past : Transcript) (o : Offer),
      past <+: t ∧ o.ConfirmedAt files past ∧ o.body = "hello" := by
  intro p files t
  have accepts := Environment.acceptsSends_calm "help\nsend motd\n YES \n" files []
  obtain ⟨confirmed, accounts, -⟩ := sent_eq_confirmed p 3 _ accepts
  have sent : t.sent = [Utf8.encode "hello"] := by decide +kernel
  obtain ⟨c, rfl, body⟩ := List.map_eq_singleton_iff.mp (accounts.sent.symm.trans sent)
  obtain ⟨-, moment, confirmedAt⟩ := (accounts.mem_iff c.1 c.2).mp (List.mem_singleton.mpr rfl)
  exact ⟨c.1, c.2, moment, confirmedAt, Utf8.encode_inj.mp body⟩

end Publisher

end MessagingConsole
