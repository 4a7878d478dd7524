import MessagingConsole.Proofs.Publisher.Binding
import MessagingConsole.Proofs.Session.Accounting

/-!
# The log of a publisher

A publisher owes its log a record for each broadcast that it tries to publish, with the length
of what it sends, and one for each file that has nothing to broadcast, with the path and what
is wrong with it.

## Main Definitions

- `Publisher.ledger` - what a publisher owes.

## Main Results

- `Publisher.balanced_session` - the log of a whole session balances.
-/

namespace MessagingConsole

open Terminal (shown)

variable {t : Transcript}

namespace Publisher

variable {p : Publisher} {budget : Nat} {logger : Log.Logger} {endpoint : Endpoint}

/-- A publisher owes a record for each broadcast that it tries to publish and for each file
with nothing to broadcast. -/
def ledger (p : Publisher) : Ledger where
  logger := p.logger
  messages := ["publishing", "rejected broadcast"]
  owed
    | ⟨.send payload, _⟩ =>
      some (p.logger.record .debug "publishing" [("bytes", Text.decimal payload.length)])
    | ⟨.readFile path, content⟩ =>
      match Broadcast.ofRead path content with
      | .ok _ => none
      | .error fault =>
        some (p.logger.record .debug "rejected broadcast"
          [("path", Utf8.decodeLossy path), ("err", fault.message)])
    | _ => none
  owed_eq_none := by
    rintro ⟨operation, answer⟩ idle
    cases operation <;> first | rfl | exact absurd rfl idle

theorem balanced_note {level : Log.Level} {message : String} {pairs : List Log.Pair}
    (other : message ∉ ["publishing", "rejected broadcast"]) :
    p.ledger.Balanced (p.logger.noted level message pairs) :=
  Ledger.balanced_noted other

theorem balanced_publication (payload : Bytes) (reaction : SendAnswer) :
    p.ledger.Balanced
      (p.logger.noted .debug "publishing" [("bytes", Text.decimal payload.length)] ++
        [⟨.send payload, reaction⟩]) :=
  (Ledger.balanced_entry rfl List.mem_cons_self rfl).2

theorem Answered.balanced {body : String} {answer : LineAnswer} {result : Except Stop Unit}
    (answered : Answered p body answer t result) : p.ledger.Balanced t := by
  cases answered with
  | stopped outcome => exact Ledger.balanced_nil
  | declined outcome declines printed => exact Ledger.balanced_of_prints printed
  | refused confirms => exact balanced_publication _ _
  | published confirms printed =>
    rw [List.append_cons]
    exact (balanced_publication _ .taken).append (Ledger.balanced_of_prints printed)

theorem CarriedOut.balanced {line : String} {result : Except Stop Bool}
    (carriedOut : CarriedOut p line t result) : p.ledger.Balanced t := by
  have loaded (o : Offer) : p.ledger.Balanced [o.loaded] := by
    refine Ledger.balanced_of_unowed ?_ (List.forall_mem_singleton.mpr rfl)
    refine List.forall_mem_singleton.mpr ?_
    simp [ledger, Offer.loaded, Broadcast.ofRead, o.ofContent_content]
  cases carriedOut with
  | quit command => exact Ledger.balanced_nil
  | noticed notice printed => exact Ledger.balanced_of_prints printed
  | @rejected path content fault rest result command faulty printed =>
    have owes : p.ledger.owed ⟨.readFile (Utf8.encode path), content⟩ =
        some (p.logger.record .debug "rejected broadcast"
          [("path", Utf8.decodeLossy (Utf8.encode path)), ("err", fault.message)]) := by
      simp [ledger, faulty]
    have entry := (Ledger.balanced_entry rfl (List.mem_cons_of_mem _ List.mem_cons_self) owes).1
    exact entry.append (Ledger.balanced_of_prints printed)
  | unshown o offered printed => exact (loaded o).append (Ledger.balanced_of_prints printed)
  | @answered o answer t result offered rest =>
    have displayed : p.ledger.Balanced ((display o.body).flatMap shown) := Ledger.balanced_shown _
    have heard : p.ledger.Balanced (⟨.readLine, answer⟩ :: t) :=
      (Ledger.balanced_readLine answer).append rest.balanced
    exact (loaded o).append (displayed.append heard)

theorem Turn.balanced {result : Except Stop Bool} (turn : Turn p t result) :
    p.ledger.Balanced t := by
  cases turn with
  | unprompted printed => exact Ledger.balanced_of_prints printed
  | stopped outcome => exact Ledger.balanced_asked _
  | ended => exact Ledger.balanced_asked _
  | command rest => exact (Ledger.balanced_asked _).append rest.balanced

theorem Pass.balanced {result : Except Stop Bool} (pass : Pass p t result) :
    p.ledger.Balanced t :=
  Ledger.balanced_of_passes pass Turn.balanced

theorem Rounds.balanced {value : Except Error Unit} (rounds : Rounds p budget t value) :
    p.ledger.Balanced t := by
  induction rounds with
  | spent => exact Ledger.balanced_nil
  | again pass later ih => exact pass.balanced.append ih
  | finished pass => exact pass.balanced
  | shutdown pass => exact pass.balanced.append (balanced_note (by decide))
  | failed pass => exact pass.balanced

theorem balanced_closing (faults : List TransportFault) : p.ledger.Balanced (p.closing faults) :=
  Ledger.balanced_closing faults
    (show "error while closing publisher" ∉ ["publishing", "rejected broadcast"] ∧
      "publisher closed" ∉ ["publishing", "rejected broadcast"] by decide)

/-- **The log of a publisher accounts for its traffic**, once it has bound its endpoint, and
there is no record before that. -/
theorem balanced_session {value : Except Error Unit}
    (follows : (session logger endpoint budget).Follows t value) :
    ∃ answer rest, t = ⟨.bind endpoint, answer⟩ :: rest ∧
      match answer with
      | .error _ => t.records = []
      | .ok bound => (ledger ⟨bound, loggerFor logger bound⟩).Balanced t := by
  cases follows_session_iff.mp follows with
  | shutdown binds => cases binds
  | failed binds =>
    cases binds with
    | refused fault => exact ⟨_, [], rfl, rfl⟩
  | opened binds runs =>
    obtain ⟨rest, faults, rounds, rfl⟩ := runs
    cases binds with
    | bound bound =>
      refine ⟨.ok bound, _, rfl, ?_⟩
      have binding : (ledger ⟨bound, loggerFor logger bound⟩).Balanced
          [⟨.bind endpoint, .ok bound⟩] :=
        Ledger.balanced_of_idle (List.forall_mem_singleton.mpr ⟨Bool.false_ne_true, rfl⟩)
      have opening : (ledger ⟨bound, loggerFor logger bound⟩).Balanced
          (⟨.bind endpoint, .ok bound⟩ ::
            (loggerFor logger bound).noted .info "publisher bound" []) :=
        binding.append (balanced_note (by decide))
      exact opening.append (rounds.balanced.append (balanced_closing faults))

end Publisher

end MessagingConsole
