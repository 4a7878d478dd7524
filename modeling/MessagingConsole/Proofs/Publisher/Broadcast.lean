import MessagingConsole.Proofs.Text.Utf8
import MessagingConsole.Publisher.Broadcast

/-!
# What a broadcast is

A content that is accepted is a short printable line with one line end or none after it,
and the broadcast is that line, octet for octet.
-/

namespace MessagingConsole.Publisher.Broadcast

/-- What may follow a body in a file. -/
def lineEnds : List Bytes := [[], [10], [13, 10]]

/-- A broadcast that was read is that of a content. -/
theorem ofRead_eq_ok {path : Bytes} {content : Except FileFault Bytes} {text : String}
    (loaded : ofRead path content = .ok text) :
    ∃ raw, content = .ok raw ∧ ofContent raw = .ok text := by
  match content, loaded with
  | .ok raw, loaded => exact ⟨raw, rfl, loaded⟩
  | .error .notFound, loaded | .error .permissionDenied, loaded
  | .error (.other _), loaded => cases loaded

/-- Only a line end is taken from a content. -/
theorem exists_lineEnd (raw : Bytes) : ∃ lineEnd ∈ lineEnds, raw = body raw ++ lineEnd := by
  unfold body
  split
  case h_1 rest reversed =>
    exact ⟨[13, 10], by simp [lineEnds], by simpa using congrArg List.reverse reversed⟩
  case h_2 rest _ reversed =>
    exact ⟨[10], by simp [lineEnds], by simpa using congrArg List.reverse reversed⟩
  case h_3 => exact ⟨[], by simp [lineEnds], by simp⟩

/-- What is accepted is printable and short, and its text has the octets of the body. -/
theorem ofContent_eq_ok {raw : Bytes} {text : String} (accepted : ofContent raw = .ok text) :
    Utf8.encode text = body raw ∧ (∀ b ∈ body raw, isPrintable b) ∧
      (body raw).length ≤ maxLength := by
  unfold ofContent at accepted
  dsimp only at accepted
  split at accepted
  case h_1 => cases accepted
  case h_2 printable =>
    split at accepted
    case isTrue => cases accepted
    case isFalse short =>
      cases accepted
      have printable : ∀ b ∈ body raw, isPrintable b := by simpa using printable
      refine ⟨Utf8.encode_ofList_ascii fun b mem => ?_, printable, Nat.not_lt.mp short⟩
      have bounds := printable b mem
      simp only [isPrintable, Bool.and_eq_true, decide_eq_true_eq] at bounds
      exact UInt8.lt_of_le_of_lt bounds.2 (by decide)

end MessagingConsole.Publisher.Broadcast
