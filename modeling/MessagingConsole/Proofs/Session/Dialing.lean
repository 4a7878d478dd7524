import MessagingConsole.Proofs.Session.Provision
import MessagingConsole.Proofs.Session.Traffic
import MessagingConsole.Session.Dial

/-!
# Dialing

What opening a connection can look like from outside.  A dial is answered at once, or it
has waited for so long that a record says so, and then it is answered for good.

## Main Definitions

- `Attempt.Dials` - how dialing can go.
- `DialAnswer.outcome` - what an answer to a dial means for the client.

## Main Results

- `Attempt.follows_dial_iff` - the transcripts of dialing.
- `Environment.Gives.dials` - dialing ends as the network answers it for good.
-/

namespace MessagingConsole

/-- What an answer to a dial of an endpoint means for the client. -/
def DialAnswer.outcome (endpoint : Endpoint) : DialAnswer → Except Stop Unit
  | .refused fault => .error (.failed (.connect endpoint fault))
  | .interrupted => .error .shutdown
  | .connected | .waiting => .ok ()

namespace Attempt

/-- The record of a dial that nobody has answered yet. -/
def waiting (logger : Log.Logger) : Transcript :=
  logger.noted .warning "waiting for endpoint to accept connections" []

/-- How dialing an endpoint can go. -/
inductive Dials (logger : Log.Logger) (endpoint : Endpoint) : Transcript → Except Stop Unit → Prop
  | soon {answer : DialAnswer} (answered : answer ≠ .waiting) :
      Dials logger endpoint [⟨.dial endpoint (some dialPatience), answer⟩]
        (answer.outcome endpoint)
  | late (answer : DialAnswer) :
      Dials logger endpoint
        (⟨.dial endpoint (some dialPatience), .waiting⟩ ::
          (waiting logger ++ [⟨.dial endpoint none, answer⟩]))
        (answer.outcome endpoint)

variable {logger : Log.Logger} {endpoint : Endpoint} {t : Transcript} {result : Except Stop Unit}

/-- A dial without patience is answered for good. -/
theorem follows_redial_iff :
    Follows
        (do
          match ← Session.perform (.dial endpoint none) with
          | .refused fault => fail (.connect endpoint fault)
          | .interrupted => throw .shutdown
          | .connected | .waiting => pure ())
        t result ↔
      ∃ answer : DialAnswer, t = [⟨.dial endpoint none, answer⟩] ∧
        result = answer.outcome endpoint := by
  rw [follows_perform_bind]
  constructor
  · rintro ⟨answer, rest, rfl, follows⟩
    cases answer with
    | refused fault =>
      obtain ⟨rfl, rfl⟩ := follows_fail.mp follows
      exact ⟨_, rfl, rfl⟩
    | interrupted =>
      obtain ⟨rfl, rfl⟩ := follows_throw.mp follows
      exact ⟨_, rfl, rfl⟩
    | _ =>
      obtain ⟨rfl, rfl⟩ := follows_pure.mp follows
      exact ⟨_, rfl, rfl⟩
  · rintro ⟨answer, rfl, rfl⟩
    refine ⟨answer, [], rfl, ?_⟩
    cases answer <;> exact ⟨rfl, rfl⟩

/-- The transcripts of dialing an endpoint. -/
theorem follows_dial_iff :
    Follows (dial logger endpoint) t result ↔ Dials logger endpoint t result := by
  unfold dial
  rw [follows_perform_bind]
  constructor
  · rintro ⟨answer, rest, rfl, follows⟩
    cases answer with
    | waiting =>
      obtain ⟨last, rfl, later⟩ := follows_note_bind.mp follows
      obtain ⟨answer, rfl, rfl⟩ := follows_redial_iff.mp later
      exact .late answer
    | connected =>
      obtain ⟨rfl, rfl⟩ := follows_pure.mp follows
      exact .soon nofun
    | refused fault =>
      obtain ⟨rfl, rfl⟩ := follows_fail.mp follows
      exact .soon nofun
    | interrupted =>
      obtain ⟨rfl, rfl⟩ := follows_throw.mp follows
      exact .soon nofun
  · rintro (⟨answered⟩ | ⟨answer⟩)
    case soon answer =>
      refine ⟨answer, [], rfl, ?_⟩
      cases answer with
      | waiting => exact absurd rfl answered
      | connected => exact follows_pure.mpr ⟨rfl, rfl⟩
      | refused fault => exact follows_fail.mpr ⟨rfl, rfl⟩
      | interrupted => exact follows_throw.mpr ⟨rfl, rfl⟩
    case late =>
      refine ⟨.waiting, _, rfl, follows_note_bind.mpr ⟨_, rfl, ?_⟩⟩
      exact follows_redial_iff.mpr ⟨answer, rfl, rfl⟩

/-- Dialing sends nothing. -/
theorem Dials.sent (dials : Dials logger endpoint t result) : t.sent = [] := by
  cases dials with
  | soon => rfl
  | late answer => simp [waiting, Exchange.sent?]

/-- Dialing prints and receives nothing. -/
theorem Dials.quiet (dials : Dials logger endpoint t result) : t.output = [] ∧ t.received = [] := by
  cases dials with
  | soon => exact ⟨rfl, rfl⟩
  | late answer => simp [waiting, Exchange.output, Exchange.received?]

end Attempt

/-! ## Dialing in a network -/

/-- A dial is answered as it is for good, or not within the patience, and then it goes on as
before. -/
theorem Reach.settles (reach : Reach) (patience : Nat) :
    ((reach.answer (some patience)).1 ≠ .waiting →
      (reach.answer (some patience)).1 = (reach.answer none).1) ∧
    ((reach.answer (some patience)).2.answer none).1 = (reach.answer none).1 := by
  induction reach generalizing patience with
  | accepted => exact ⟨fun _ => rfl, rfl⟩
  | refused fault => exact ⟨fun _ => rfl, rfl⟩
  | unanswered rest =>
    by_cases soon : rest ≤ patience
    · simp [answer, soon]
    · simp [answer, soon]
  | late wait reach ih =>
    by_cases soon : wait ≤ patience
    · simpa [answer, soon] using ih (patience - wait)
    · simp [answer, soon]

/-- A network settles a dial in the same way, and refuses one that it cannot resolve at once. -/
theorem Network.dial_settles (n : Network) (endpoint : Endpoint) (patience : Nat) :
    ((n.dial endpoint (some patience)).1 ≠ .waiting →
      (n.dial endpoint (some patience)).1 = (n.dial endpoint none).1) ∧
    ((n.dial endpoint (some patience)).2.dial endpoint none).1 = (n.dial endpoint none).1 := by
  cases resolved : n.resolver.resolve endpoint with
  | error fault => simp [dial, resolved]
  | ok ip => simpa [dial, resolved] using n.reach.settles patience

/-- Somebody who accepts after a second and a half is noticed to be late, and accepts. -/
example :
    (Reach.late 1500 .accepted).answer (some dialPatience) = (.waiting, .late 500 .accepted) ∧
      ((Reach.late 500 .accepted).answer none).1 = .connected := ⟨rfl, rfl⟩

/-- Dialing ends as the network answers it for good, and uses nothing but the network. -/
theorem Environment.Gives.dials {env final : Environment} {t : Transcript}
    {logger : Log.Logger} {endpoint : Endpoint} {result : Except Stop Unit}
    (gives : env.Gives t final) (dials : Attempt.Dials logger endpoint t result) :
    result = (env.network.dial endpoint none).1.outcome endpoint ∧
      ∃ network, final = { env with network } := by
  obtain ⟨settled, later⟩ := env.network.dial_settles endpoint dialPatience
  cases dials with
  | soon answered =>
    obtain ⟨rfl, rfl⟩ := gives_cons.mp gives
    exact ⟨congrArg _ (settled answered), _, rfl⟩
  | late answer =>
    obtain ⟨-, rest⟩ := gives_cons.mp gives
    obtain ⟨rfl, rfl⟩ := gives_cons.mp (gives_noted_append.mp rest)
    exact ⟨congrArg _ later, _, rfl⟩

end MessagingConsole
