import MessagingConsole.Proofs.Console.Answers
import MessagingConsole.Proofs.Session.Stopping

/-!
# Surroundings that always answer

A console whose reads all end, be it with octets, with the end of input or with a failure, and
a link over which every send and every receive completes: in such surroundings nothing waits for
ever, so that no client has to be shut down, and none is shut down between its turns.

## Main Definitions

- `Environment.Responsive` - such surroundings.

## Main Results

- `Environment.Gives.uninterrupted` - no exchange in them is a shutdown.
-/

namespace MessagingConsole

/-- Surroundings in which every read, every send and every receive ends, and no shutdown comes
before a turn. -/
structure Environment.Responsive (env : Environment) : Prop where
  running : env.shutdown = .never
  source : .silence ∉ env.source
  sends : .interrupted ∉ env.link.sends
  sendsAfter : env.link.sendsAfter ≠ .interrupted
  arrivals : .quiet .silence ∉ env.link.arrivals
  arrivalsAfter : env.link.arrivalsAfter ≠ .silence

namespace Source

variable {source rest : Source} {room : Nat} {now : ReadAnswer}

/-- A read ends if none of the deliveries is silence, and then none of the rest is. -/
theorem read_ends (speaks : .silence ∉ source) (read : source.read room = (now, rest)) :
    now ≠ .silence ∧ .silence ∉ rest := by
  match source, speaks with
  | [], _ =>
    cases read
    exact ⟨nofun, List.not_mem_nil⟩
  | .data [] :: later, speaks =>
    cases read
    exact ⟨nofun, fun mem => speaks (List.mem_cons_of_mem _ mem)⟩
  | .fault reason :: later, speaks =>
    cases read
    exact ⟨nofun, fun mem => speaks (List.mem_cons_of_mem _ mem)⟩
  | .silence :: later, speaks => exact absurd List.mem_cons_self speaks
  | .data (b :: bytes) :: later, speaks =>
    cases read
    refine ⟨nofun, fun mem => speaks (List.mem_cons_of_mem _ ?_)⟩
    split at mem
    · exact mem
    · simpa using mem

end Source

namespace LineReader

variable {source : Source}

theorem answer_ne_interrupted (found : Finding × LineReader) : (answer found).1 ≠ .interrupted := by
  obtain ⟨finding, r⟩ := found
  cases finding <;> exact nofun

theorem fetch_ends (r : LineReader) (speaks : .silence ∉ source) :
    (r.fetch source).1.1 ≠ .interrupted ∧ .silence ∉ (r.fetch source).2 := by
  have ended : LineAnswer.endOfInput ≠ .interrupted := by decide
  have failed (reason : LineFault) : LineAnswer.fault reason ≠ .interrupted := by rintro ⟨⟩
  -- One case for each way a read can end; only the first one reads again.
  fun_induction fetch r source with
  | case1 r source made bytes rest read later nothing ih =>
    exact ih (Source.read_ends speaks read).2
  | case2 r source made bytes rest read found =>
    exact ⟨answer_ne_interrupted _, (Source.read_ends speaks read).2⟩
  | case3 r source made rest read last => exact ⟨ended, (Source.read_ends speaks read).2⟩
  | case4 r source made rest read more =>
    exact ⟨answer_ne_interrupted _, (Source.read_ends speaks read).2⟩
  | case5 r source made reason rest read => exact ⟨failed _, (Source.read_ends speaks read).2⟩
  | case6 r source made rest read => exact absurd rfl (Source.read_ends speaks read).1

/-- A call for a line ends if no read falls silent. -/
theorem next_ends (r : LineReader) (speaks : .silence ∉ source) :
    (r.next source).1.1 ≠ .interrupted ∧ .silence ∉ (r.next source).2 := by
  unfold next
  split
  case isTrue => exact ⟨nofun, speaks⟩
  case isFalse =>
    split
    case isTrue =>
      split
      case isTrue => exact ⟨answer_ne_interrupted _, speaks⟩
      case isFalse =>
        split
        case h_1 => exact fetch_ends _ speaks
        case h_2 => exact ⟨answer_ne_interrupted _, speaks⟩
    case isFalse => exact fetch_ends r speaks

end LineReader

theorem Link.receive_ne_interrupted {l : Link} (arrivals : .quiet .silence ∉ l.arrivals)
    (arrivalsAfter : l.arrivalsAfter ≠ .silence) : l.receive.1 ≠ .interrupted := by
  unfold receive
  split
  case h_1 =>
    cases quiet : l.arrivalsAfter with
    | fault reason => exact nofun
    | silence => exact absurd quiet arrivalsAfter
  case h_2 arrival rest brings =>
    rw [brings] at arrivals
    match arrival, arrivals with
    | .message message, _ => exact nofun
    | .quiet (.fault reason), _ => exact nofun
    | .quiet .silence, arrivals => exact absurd List.mem_cons_self arrivals

theorem Link.send_ne_interrupted {l : Link} (sends : .interrupted ∉ l.sends)
    (sendsAfter : l.sendsAfter ≠ .interrupted) : l.send.1 ≠ .interrupted := by
  unfold send
  split
  case h_1 => exact sendsAfter
  case h_2 answer rest next =>
    rw [next] at sends
    exact fun same => sends (same ▸ List.mem_cons_self)

/-- A shutdown is met at the start of a turn, or while a line is waited for, or a message is sent
or waited for. -/
theorem Exchange.interrupted_of_stop? {e : Exchange} {endpoint : Endpoint}
    (stops : e.stop? endpoint = some .shutdown) :
    e = ⟨.turn, .interrupted⟩ ∨ e = ⟨.readLine, .interrupted⟩ ∨
      (∃ payload, e = ⟨.send payload, .interrupted⟩) ∨ e = ⟨.receive, .interrupted⟩ := by
  unfold stop? at stops
  split at stops
  case h_1 => exact .inl rfl
  case h_5 => exact .inr (.inl rfl)
  case h_7 payload => exact .inr (.inr (.inl ⟨payload, rfl⟩))
  case h_9 => exact .inr (.inr (.inr rfl))
  all_goals cases stops

namespace Environment

variable {env final : Environment} {t : Transcript} {endpoint : Endpoint}

theorem Responsive.answer (responsive : env.Responsive) (operation : Operation) :
    (env.answer operation).2.Responsive := by
  obtain ⟨running, source, sends, sendsAfter, arrivals, arrivalsAfter⟩ := responsive
  cases operation with
  | turn =>
    refine ⟨?_, source, sends, sendsAfter, arrivals, arrivalsAfter⟩
    simp [Environment.answer, running, Shutdown.turn]
  | readLine =>
    exact ⟨running, (env.reader.next_ends source).2, sends, sendsAfter, arrivals, arrivalsAfter⟩
  | send payload =>
    simp only [Environment.answer, Link.send]
    split
    case h_1 => exact ⟨running, source, sends, sendsAfter, arrivals, arrivalsAfter⟩
    case h_2 answer rest next =>
      refine ⟨running, source, fun mem => sends ?_, sendsAfter, arrivals, arrivalsAfter⟩
      rw [next]
      exact List.mem_cons_of_mem _ mem
  | receive =>
    simp only [Environment.answer, Link.receive]
    split
    case h_1 => exact ⟨running, source, sends, sendsAfter, arrivals, arrivalsAfter⟩
    case h_2 arrival rest brings =>
      refine ⟨running, source, sends, sendsAfter, fun mem => arrivals ?_, arrivalsAfter⟩
      rw [brings]
      exact List.mem_cons_of_mem _ mem
  | _ => exact ⟨running, source, sends, sendsAfter, arrivals, arrivalsAfter⟩

theorem Responsive.stop?_answer (responsive : env.Responsive) (operation : Operation) :
    Exchange.stop? endpoint ⟨operation, (env.answer operation).1⟩ ≠ some .shutdown := by
  intro stops
  rcases Exchange.interrupted_of_stop? stops with same | same | ⟨payload, same⟩ | same <;>
    cases operation <;> cases (Exchange.mk.inj same).1
  · have begins : (env.answer .turn).1 = .begun := by
      simp [Environment.answer, responsive.running, Shutdown.turn]
    exact nomatch begins.symm.trans (eq_of_heq (Exchange.mk.inj same).2)
  · exact (env.reader.next_ends responsive.source).1 (eq_of_heq (Exchange.mk.inj same).2)
  · exact Link.send_ne_interrupted responsive.sends responsive.sendsAfter
      (eq_of_heq (Exchange.mk.inj same).2)
  · exact Link.receive_ne_interrupted responsive.arrivals responsive.arrivalsAfter
      (eq_of_heq (Exchange.mk.inj same).2)

/-- **No client is shut down in surroundings that always answer.** -/
theorem Gives.uninterrupted (gives : env.Gives t final) (responsive : env.Responsive) :
    ∀ e ∈ t, e.stop? endpoint ≠ some .shutdown :=
  (gives.invariant (fun _ operation kept => kept.answer operation)
    (fun _ operation kept => kept.stop?_answer operation) responsive).2

end Environment

/-- An attempt that was shut down has met an exchange that did it. -/
theorem Halts.exists_shutdown {endpoint : Endpoint} {t : Transcript}
    (halts : Halts endpoint t (some .shutdown)) : ∃ e ∈ t, e.stop? endpoint = some .shutdown := by
  cases halts with
  | stopped unstopped stops => exact ⟨_, by simp, stops⟩

end MessagingConsole
