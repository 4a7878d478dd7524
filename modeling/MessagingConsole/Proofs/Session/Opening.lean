import MessagingConsole.Proofs.Session.Replay

/-!
# Clients that open a channel first

A whole session of a client begins with an attempt to open its channel.  If that fails, the
error is the one of the session; a shutdown before the channel is open is no error; and a
client that has its channel runs.

## Main Definitions

- `Attempt.andRun` - a session that opens a channel and then runs a client.
- `Attempt.Leads` - how such a session can go.

## Main Results

- `Attempt.follows_andRun_iff` - the transcripts of such a session.
-/

namespace MessagingConsole.Attempt

variable {α γ : Type}

/-- Opens a channel and runs the client that has it.  A shutdown before that ends well. -/
def andRun (opening : Attempt γ) (idle : α) (run : γ → Session (Except Error α)) :
    Session (Except Error α) := do
  match ← opening.run with
  | .error .shutdown => return .ok idle
  | .error (.failed error) => return .error error
  | .ok client => run client

/-- How a session can go whose channel opens so and whose client runs so. -/
inductive Leads (Opens : Transcript → Except Stop γ → Prop) (idle : α)
    (Runs : γ → Transcript → Except Error α → Prop) : Transcript → Except Error α → Prop
  | shutdown {t : Transcript} (opens : Opens t (.error .shutdown)) :
      Leads Opens idle Runs t (.ok idle)
  | failed {t : Transcript} {error : Error} (opens : Opens t (.error (.failed error))) :
      Leads Opens idle Runs t (.error error)
  | opened {client : γ} {t₁ t₂ : Transcript} {value : Except Error α}
      (opens : Opens t₁ (.ok client)) (runs : Runs client t₂ value) :
      Leads Opens idle Runs (t₁ ++ t₂) value

variable {opening : Attempt γ} {idle : α} {run : γ → Session (Except Error α)}
  {Opens : Transcript → Except Stop γ → Prop} {Runs : γ → Transcript → Except Error α → Prop}

/-- The transcripts of a session that opens a channel first. -/
theorem follows_andRun_iff (open_iff : ∀ {t result}, Follows opening t result ↔ Opens t result)
    (run_iff : ∀ {client t value}, (run client).Follows t value ↔ Runs client t value)
    {t : Transcript} {value : Except Error α} :
    (opening.andRun idle run).Follows t value ↔ Leads Opens idle Runs t value := by
  unfold andRun
  rw [Session.follows_bind]
  constructor
  · rintro ⟨result, t₁, t₂, rfl, first, later⟩
    have opens := open_iff.mp first
    match result, opens, later with
    | .error .shutdown, opens, later =>
      obtain ⟨rfl, rfl⟩ := later
      rw [List.append_nil]
      exact .shutdown opens
    | .error (.failed error), opens, later =>
      obtain ⟨rfl, rfl⟩ := later
      rw [List.append_nil]
      exact .failed opens
    | .ok client, opens, later => exact .opened opens (run_iff.mp later)
  · intro leads
    cases leads with
    | shutdown opens => exact ⟨_, t, [], by simp, open_iff.mpr opens, rfl, rfl⟩
    | failed opens => exact ⟨_, t, [], by simp, open_iff.mpr opens, rfl, rfl⟩
    | opened opens runs => exact ⟨_, _, _, rfl, open_iff.mpr opens, run_iff.mpr runs⟩

end MessagingConsole.Attempt
