import MessagingConsole.Proofs.Session.Printing

/-!
# What surroundings keep

Facts about an environment that no answer changes, and what they say about the exchanges
of every transcript that the environment gives.
-/

namespace MessagingConsole

/-- Surroundings in which nothing goes wrong: the console brings its input at once, and
output and messages are taken. -/
def Environment.calm (input : String) (files : FileTree) (replies : List Message) :
    Environment where
  source := [.data (Utf8.encode input)]
  reader := .fresh
  sink := .unlimited
  files := files
  network := { reach := .accepted, taken := [], free := 1 }
  link :=
    { sends := [], sendsAfter := .taken
      arrivals := replies.map .message, arrivalsAfter := .silence }

/-- A link that takes every message. -/
structure Link.AcceptsSends (l : Link) : Prop where
  now : ∀ answer ∈ l.sends, answer = .taken
  after : l.sendsAfter = .taken

namespace Exchange

/-- A file is read from a tree as it is there. -/
def ReadsFrom (files : FileTree) : Exchange → Prop
  | ⟨.readFile path, content⟩ => content = files.read path
  | _ => True

/-- A message is taken by the transport. -/
def SendsWell : Exchange → Prop
  | ⟨.send _, answer⟩ => answer = .taken
  | _ => True

end Exchange

namespace Environment

variable {env final : Environment} {t : Transcript}

theorem acceptsSends_calm (input : String) (files : FileTree) (replies : List Message) :
    (calm input files replies).link.AcceptsSends :=
  ⟨by simp [calm], rfl⟩

theorem answer_files (env : Environment) (operation : Operation) :
    (env.answer operation).2.files = env.files := by
  cases operation <;> rfl

/-- Sending takes nothing from a link that takes every message. -/
theorem acceptsSends_answer {env : Environment} (accepts : env.link.AcceptsSends)
    (operation : Operation) : (env.answer operation).2.link.AcceptsSends := by
  cases operation with
  | send payload =>
    obtain ⟨now, after⟩ := accepts
    simp only [answer, Link.send]
    split
    case h_1 => exact ⟨now, after⟩
    case h_2 sends => exact ⟨fun answer mem => now answer (by simp [sends, mem]), after⟩
  | receive =>
    obtain ⟨now, after⟩ := accepts
    simp only [answer, Link.receive]
    split <;> exact ⟨now, after⟩
  | _ => exact accepts

theorem sendsWell_answer {env : Environment} (accepts : env.link.AcceptsSends)
    (operation : Operation) : Exchange.SendsWell ⟨operation, (env.answer operation).1⟩ := by
  cases operation with
  | send payload =>
    simp only [Exchange.SendsWell, answer, Link.send]
    split
    case h_1 => exact accepts.after
    case h_2 sends => exact accepts.now _ (by simp [sends])
  | _ => trivial

/-- Every file is read as it was at the start. -/
theorem Gives.readsFrom (gives : env.Gives t final) : ∀ e ∈ t, e.ReadsFrom env.files := by
  have kept (now : Environment) (operation : Operation) (same : now.files = env.files) :
      (now.answer operation).2.files = env.files := by
    rw [answer_files, same]
  have seen (now : Environment) (operation : Operation) (same : now.files = env.files) :
      Exchange.ReadsFrom env.files ⟨operation, (now.answer operation).1⟩ := by
    cases operation with
    | readFile path => exact congrArg (·.read path) same
    | _ => trivial
  exact (gives.invariant kept seen rfl).2

/-- A link that takes every message takes each one of a transcript. -/
theorem Gives.sendsWell (gives : env.Gives t final) (accepts : env.link.AcceptsSends) :
    ∀ e ∈ t, e.SendsWell :=
  (gives.invariant (fun _ operation kept => acceptsSends_answer kept operation)
    (fun _ operation kept => sendsWell_answer kept operation) accepts).2

/-- A part of the surroundings that no exchange of a transcript changes. -/
theorem Gives.part_eq {α : Type} (part : Environment → α) (gives : env.Gives t final)
    (kept : ∀ env : Environment, ∀ e ∈ t, part (env.answer e.operation).2 = part env) :
    part final = part env := by
  induction t generalizing env with
  | nil =>
    cases gives
    rfl
  | cons e rest ih =>
    have later := ih gives.2 fun env e mem => kept env e (List.mem_cons_of_mem _ mem)
    exact later.trans (kept env e List.mem_cons_self)

/-- Output and records change nothing of the link. -/
theorem Gives.link_eq (gives : env.Gives t final)
    (aside : ∀ e ∈ t, e.isOutput ∨ e.record?.isSome) : final.link = env.link := by
  refine gives.part_eq (fun env => env.link) fun env e mem => ?_
  have kind := aside e mem
  obtain ⟨operation, answer⟩ := e
  cases operation with
  | send payload => exact kind.elim nofun nofun
  | receive => exact kind.elim nofun nofun
  | _ => rfl

end Environment

end MessagingConsole
