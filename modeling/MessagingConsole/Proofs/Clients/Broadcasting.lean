import MessagingConsole.Proofs.Publisher.Publication
import MessagingConsole.Proofs.Subscriber.PrintedLines

/-!
# Broadcasts from the publisher to the output of a subscriber

What a publisher sends are the bodies of confirmed offers, each as a message of one frame,
and a subscriber prints the messages that begin with its filter.  That the bodies arrive on
the output as they were confirmed is due to the publisher alone: a body is printable ASCII,
so that it has no line feed, and the decoding that a subscriber does before it prints is
harmless because a body is the octets of a text.

## Main Definitions

- `LineFormat.broadcastLines` - the lines for the bodies that begin with a filter.

## Main Results

- `broadcasts_printed` - a subscriber prints the broadcasts that begin with its filter.
-/

namespace MessagingConsole

/-- The lines that are printed for broadcasts that arrived at some times. -/
def LineFormat.broadcastLines (filter : TopicFilter) (bodies : List String)
    (times : List Instant) : LineFormat → List String
  | .plain => bodies.filter fun body => filter.start.toList <+: body.toList
  | .timestamped =>
    ((bodies.zip times).filter fun (body, _) => filter.start.toList <+: body.toList).map
      fun (body, time) => time.stamp ++ ": " ++ body

/-! ## Broadcasts as messages -/

/-- The message in which a body arrives at some time. -/
def Message.ofBroadcast (broadcast : String × Instant) : Message :=
  ⟨[Utf8.encode broadcast.1], broadcast.2⟩

/-- Messages of one frame each are bodies and times of arrival. -/
theorem Message.eq_map_ofBroadcast {messages : List Message} {bodies : List String}
    (frames : messages.map (·.frames) = bodies.map fun body => [Utf8.encode body]) :
    messages = (bodies.zip (messages.map (·.receivedAt))).map ofBroadcast := by
  induction bodies generalizing messages with
  | nil => exact List.map_eq_nil_iff.mp frames
  | cons body bodies ih =>
    cases messages with
    | nil => cases frames
    | cons message messages =>
      obtain ⟨first, others⟩ := List.cons.inj frames
      obtain ⟨octets, receivedAt⟩ := message
      obtain rfl : octets = [Utf8.encode body] := first
      exact congrArg (_ :: ·) (ih others)

/-- A filter chooses among broadcasts by their texts. -/
theorem TopicFilter.among_broadcasts (filter : TopicFilter)
    (broadcasts : List (String × Instant)) :
    filter.among (broadcasts.map Message.ofBroadcast) =
      (broadcasts.filter fun b => filter.start.toList <+: b.1.toList).map
        Message.ofBroadcast := by
  unfold among
  rw [List.filter_map]
  refine congrArg (List.map _) (List.filter_congr fun broadcast _ => ?_)
  exact decide_eq_decide.mpr Utf8.encode_prefix_iff

/-- The lines of a format for broadcasts are what the messages are rendered as. -/
theorem LineFormat.render_broadcasts (format : LineFormat) (filter : TopicFilter)
    {bodies : List String} {times : List Instant} (paired : bodies.length = times.length) :
    (filter.among ((bodies.zip times).map Message.ofBroadcast)).map format.render =
      (format.broadcastLines filter bodies times).map (· ++ "\n") := by
  have text (broadcast : String × Instant) :
      Utf8.decodeLossy (Message.ofBroadcast broadcast).payload = broadcast.1 := by
    rw [Message.payload_eq_flatten, Message.ofBroadcast, List.flatten_singleton]
    exact Utf8.decodeLossy_encode broadcast.1
  rw [TopicFilter.among_broadcasts, List.map_map]
  cases format with
  | plain =>
    have bodies_eq : bodies = (bodies.zip times).map Prod.fst :=
      (List.map_fst_zip (Nat.le_of_eq paired)).symm
    conv_rhs => rw [broadcastLines, bodies_eq, List.filter_map, List.map_map]
    exact List.map_congr_left fun broadcast _ => congrArg (· ++ "\n") (text broadcast)
  | timestamped =>
    rw [broadcastLines, List.map_map]
    refine List.map_congr_left fun broadcast _ => ?_
    simp only [Function.comp, render, text]
    rfl

/-- Bodies without line feeds make lines without line feeds. -/
theorem LineFormat.lineFeed_notMem_of_mem_broadcastLines {format : LineFormat}
    {filter : TopicFilter} {bodies : List String} {times : List Instant}
    (free : ∀ body ∈ bodies, '\n' ∉ body.toList) :
    ∀ line ∈ format.broadcastLines filter bodies times, '\n' ∉ line.toList := by
  intro line mem
  cases format with
  | plain => exact free line (List.mem_filter.mp mem).1
  | timestamped =>
    obtain ⟨⟨body, time⟩, chosen, rfl⟩ := List.mem_map.mp mem
    have first := (List.of_mem_zip (List.mem_filter.mp chosen).1).1
    simp [time.lineFeed_notMem_stamp, free body first]

namespace Publisher

variable {files : FileTree} {t : Transcript} {published : List (Transcript × Offer)}

/-- What is published is printable, so that it has no line feed. -/
theorem Publishes.lineFeed_notMem (publishes : Publishes files t published) :
    ∀ body ∈ published.map (·.2.body), '\n' ∉ body.toList := by
  intro body mem
  obtain ⟨⟨past, o⟩, inside, rfl⟩ := List.mem_map.mp mem
  obtain ⟨-, confirmedAt, -⟩ := (publishes.mem_iff past o).mp inside
  obtain ⟨-, -, printable, -⟩ := Offer.loads confirmedAt.read
  intro lineFeed
  have octet : 10 ∈ Utf8.encode o.body := (Utf8.mem_encode_iff (by decide)).mpr lineFeed
  exact absurd (printable 10 octet) (by decide)

end Publisher

namespace Clients

/-- **What a publisher broadcasts is what a subscriber prints.** -/
theorem broadcasts_printed (p : Publisher) (budget : Nat) (env : Environment) :
    ∃ published, Publisher.Publishes env.files ((p.run budget).run env).transcript published ∧
      ∀ messages : List Message,
        messages.map (·.frames) = ((p.run budget).run env).transcript.sent.map ([·]) →
        ∀ surroundings : Environment, surroundings.sink = .unlimited →
        surroundings.link.Brings messages →
        let bodies := published.map (·.2.body)
        let times := messages.map (·.receivedAt)
        (∀ body ∈ bodies, Utf8.decodeLossy (Utf8.encode body) = body) ∧
        (∀ (s : Subscriber) (format : LineFormat) (enough : Nat), surroundings.budget ≤ enough →
          let printing := (s.printAll format enough 0).run surroundings
          PrintsLines (format.broadcastLines s.filter bodies times) printing.transcript
            printing.value) ∧
        ∀ (logger : Log.Logger) (subscription : Subscription),
          surroundings.link.AcceptsSends →
          (surroundings.network.dial subscription.endpoint none).1 = .connected →
          let session := Subscriber.runIn logger subscription surroundings
          PrintsLines (subscription.format.broadcastLines subscription.filter bodies times)
            session.transcript session.value := by
  obtain ⟨published, publishes⟩ := Publisher.exists_publishes p budget env
  refine ⟨published, publishes, fun messages frames surroundings unlimited brings => ?_⟩
  intro bodies times
  have frames : messages.map (·.frames) = bodies.map fun body => [Utf8.encode body] := by
    rw [frames, publishes.sent, List.map_map, List.map_map]
    rfl
  have paired : bodies.length = times.length := by
    simpa [times] using (congrArg List.length frames).symm
  have broadcasts := Message.eq_map_ofBroadcast frames
  have lines {format : LineFormat} {filter : TopicFilter} {t : Transcript}
      {value : Except Error Nat}
      (printed : Subscriber.Printed format (filter.among messages) t value) :
      PrintsLines (format.broadcastLines filter bodies times) t value := by
    rw [broadcasts] at printed
    exact printed.printsLines (format.render_broadcasts filter paired)
      (LineFormat.lineFeed_notMem_of_mem_broadcastLines publishes.lineFeed_notMem)
  have fits := Subscriber.length_lt_budget brings
  refine ⟨fun body _ => Utf8.decodeLossy_encode body, ?_, ?_⟩
  · intro s format enough more printing
    have turns := Subscriber.follows_printAll_iff.mp
      (Session.follows_run (s.printAll format enough 0) surroundings)
    exact lines (turns.printed_among (Session.gives_run _ surroundings) unlimited brings
      (Nat.lt_of_lt_of_le fits more))
  · intro logger subscription accepts connected session
    have runs := Subscriber.follows_run_iff.mp
      (Session.follows_run (Subscriber.run logger subscription surroundings.budget) surroundings)
    exact lines (runs.printed_among (Session.gives_run _ surroundings) unlimited brings fits
      connected accepts)

/-- Two broadcasts, one of which begins with the filter of a subscriber that prints stamps. -/
theorem broadcasts_printed_of_two :
    let p : Publisher := ⟨⟨"0.0.0.0", 5556⟩, .silent⟩
    let files : FileTree := ⟨[([Utf8.encode "motd"], .file (Utf8.encode "hello\n")),
      ([Utf8.encode "news"], .file (Utf8.encode "how are you\r\n"))]⟩
    let env := Environment.calm "send motd\nYES\nsend news\nYES\n" files []
    let messages : List Message :=
      [⟨[Utf8.encode "hello"], ⟨0, 0, 0⟩⟩, ⟨[Utf8.encode "how are you"], ⟨60, 0, 0⟩⟩]
    let subscription : Subscription := ⟨⟨"localhost", 5556⟩, ⟨"ho"⟩, .timestamped⟩
    let session := Subscriber.runIn .silent subscription (.calm "" ⟨[]⟩ messages)
    ((p.run 5).run env).transcript.sent = [Utf8.encode "hello", Utf8.encode "how are you"] ∧
      PrintsLines ["1970-01-01 00:01:00: how are you"] session.transcript session.value := by
  intro p files env messages subscription session
  have sent : ((p.run 5).run env).transcript.sent =
      ["hello", "how are you"].map Utf8.encode := by decide +kernel
  refine ⟨sent, ?_⟩
  obtain ⟨published, publishes, printed⟩ := broadcasts_printed p 5 env
  have frames : messages.map (·.frames) = ((p.run 5).run env).transcript.sent.map ([·]) := by
    rw [sent]
    rfl
  have brings : (Environment.calm "" ⟨[]⟩ messages).link.Brings messages := ⟨[], rfl⟩
  obtain ⟨-, -, whole⟩ := printed messages frames (.calm "" ⟨[]⟩ messages) rfl brings
  have bodies : published.map (·.2.body) = ["hello", "how are you"] := by
    refine (List.map_inj_right fun _ _ => Utf8.encode_inj.mp).mp ?_
    rw [List.map_map]
    exact publishes.sent.symm.trans sent
  have chosen : subscription.format.broadcastLines subscription.filter ["hello", "how are you"]
      (messages.map (·.receivedAt)) = ["1970-01-01 00:01:00: how are you"] := by
    decide +kernel
  rw [← chosen, ← bodies]
  exact whole .silent subscription (Environment.acceptsSends_calm ..) (by decide)

end Clients

end MessagingConsole
