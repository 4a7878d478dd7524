import MessagingConsole.Proofs.CommandLine.Spelling

/-!
# What operands mean

The number of the operands decides what a program does with them, before any of them is looked
at: with too few or too many it shows its usage line and nothing else, and with fewer than it
could take it uses its defaults for the others.  Requests for more detail may stand anywhere
between the operands, and behind `--` everything is an operand.

## Main Definitions

- `operandLine` - a command line of requests for more detail and operands.
- `subscriberOf`, `requesterOf`, `publisherOf` - what operands mean for the three programs.

## Main Results

- `scan_operandLine` - what the scan understands of such a line.
- `options_of_operands` - the three programs take the operands for what they mean.
-/

namespace MessagingConsole.CommandLine

/-! ## Lines of operands -/

/-- Words that ask for more detail or give texts as operands, none of which looks like a
switch. -/
structure Gives (words : List Word) (texts : List String) : Prop where
  blocks : ∀ block ∈ blocksOf words,
    block = .verbose ∨ ∃ text ∈ texts, block = .operand (Utf8.encode text)
  operands : operandsOf (blocksOf words) = texts.map Utf8.encode
  alone : ∀ text ∈ texts, Standalone (Utf8.encode text)

/-- The arguments of operands behind `--`, if it is there. -/
def behindDashes : Option (List String) → List Bytes
  | some texts => Utf8.encode "--" :: texts.map Utf8.encode
  | none => []

/-- A command line of words, and perhaps of more operands behind `--`. -/
def operandLine (words : List Word) (behind : Option (List String)) : List Bytes :=
  line words ++ behindDashes behind

/-- The level that requests for more detail ask for. -/
def levelOf (words : List Word) : Log.Level :=
  .ofVerbosity ((blocksOf words).count .verbose)

/-- What operands mean for a subscriber: nothing, or where it listens. -/
def subscriberOf (level : Log.Level) : List String → Except Refusal (Options Subscription)
  | [] => .ok ⟨⟨⟨"localhost", 6000⟩, ⟨""⟩, .plain⟩, level⟩
  | [argument] =>
    match Endpoint.ofArgument argument "localhost" with
    | .ok endpoint => .ok ⟨⟨endpoint, ⟨""⟩, .plain⟩, level⟩
    | .error fault => .error (.error (.usage (fault.message ++ "\n" ++ App.subscriber.usage)))
  | _ => .error (.error (.usage App.subscriber.usage))

/-- What operands mean for a requester: the host of its server, and the port there. -/
def requesterOf (level : Log.Level) : List String → Except Refusal (Options Endpoint)
  | [] => .ok ⟨⟨"localhost", 6500⟩, level⟩
  | [host] => .ok ⟨⟨host, 6500⟩, level⟩
  | [host, argument] =>
    match readPort argument with
    | .ok port => .ok ⟨⟨host, port⟩, level⟩
    | .error fault => .error (.error (.usage (fault.message ++ "\n" ++ App.requester.usage)))
  | _ => .error (.error (.usage App.requester.usage))

/-- What operands mean for a publisher: the port that it binds, which has to be given. -/
def publisherOf (level : Log.Level) : List String → Except Refusal (Options Endpoint)
  | [argument] =>
    match readPort argument with
    | .ok port => .ok ⟨⟨"0.0.0.0", port⟩, level⟩
    | .error fault => .error (.error (.usage (fault.message ++ "\n" ++ App.publisher.usage)))
  | _ => .error (.error (.usage App.publisher.usage))

/-! ## The scan -/

section Scan

variable {app : App} {caller : Option String} {program : Bytes} {words : List Word}
  {front : List String}

/-- What stands behind `--` is added to the operands, if there are not too many then. -/
theorem Scan.arguments_behindDashes {s : Scan} (switches : s.operandsOnly = false)
    (room : s.operands.length ≤ app.operands.length) (behind : Option (List String)) :
    s.arguments app caller (behindDashes behind) =
      if (s.operands ++ (behind.getD []).map Utf8.encode).length ≤ app.operands.length then
        .ok { s with
          operands := s.operands ++ (behind.getD []).map Utf8.encode
          operandsOnly := behind.isSome }
      else .error (.error (.usage app.usage)) := by
  cases behind with
  | none =>
    obtain ⟨verbosity, timestamps, filters, filterValues, operands, awaitsFilter, _⟩ := s
    cases switches
    have unchanged : operands ++ (Option.getD (none : Option (List String)) []).map Utf8.encode =
        operands := List.append_nil _
    simp only [unchanged]
    exact (if_pos room).symm
  | some texts => exact arguments_operands switches room (texts.map Utf8.encode)

theorem Gives.understands (gives : Gives words front) (knows : app.Knows verboseSwitch) :
    ∀ block ∈ blocksOf words, app.Understands block := by
  intro block mem
  rcases gives.blocks block mem with rfl | ⟨text, -, rfl⟩
  · exact knows
  · trivial

theorem Gives.isStandalone (gives : Gives words front) :
    ∀ block ∈ blocksOf words, block.IsStandalone := by
  intro block mem
  rcases gives.blocks block mem with rfl | ⟨text, among, rfl⟩
  · trivial
  · exact gives.alone text among

/-- What is understood of words that only give operands. -/
theorem Gives.after_eq (gives : Gives words front) :
    Scan.start.after (blocksOf words) =
      { Scan.start with
        verbosity := (blocksOf words).count .verbose, operands := front.map Utf8.encode } := by
  have timestamps : (blocksOf words).count .timestamps = 0 := by
    refine List.count_eq_zero.mpr fun mem => ?_
    rcases gives.blocks _ mem with ⟨⟨⟩⟩ | ⟨text, -, ⟨⟩⟩
  have filters : filtersOf (blocksOf words) = [] := by
    refine List.filterMap_eq_nil_iff.mpr fun block mem => ?_
    rcases gives.blocks block mem with rfl | ⟨text, -, rfl⟩ <;> rfl
  simp [Scan.after, Scan.start, timestamps, filters, gives.operands]

/-- What was understood when requests for more detail and operands were read. -/
def understood (words : List Word) (texts : List String) (behind : Option (List String)) : Scan :=
  { Scan.start with
    verbosity := (blocksOf words).count .verbose
    operands := texts.map Utf8.encode
    operandsOnly := behind.isSome }

theorem arguments_operandLine (knows : app.Knows verboseSwitch) (gives : Gives words front)
    (behind : Option (List String)) :
    Scan.start.arguments app caller (operandLine words behind) =
      if (front ++ behind.getD []).length ≤ app.operands.length then
        .ok (understood words (front ++ behind.getD []) behind)
      else .error (.error (.usage app.usage)) := by
  have ready : Scan.start.Ready app := ⟨rfl, rfl, Nat.zero_le _⟩
  have octets : (front.map Utf8.encode).length = front.length := List.length_map _
  rw [operandLine, Scan.arguments_line words ready (gives.understands knows)
    gives.isStandalone, Scan.read, gives.after_eq]
  by_cases fits : (front.map Utf8.encode).length ≤ app.operands.length
  · rw [if_pos fits]
    have rest := @Scan.arguments_behindDashes app caller
      { Scan.start with
        verbosity := (blocksOf words).count .verbose, operands := front.map Utf8.encode }
      rfl fits behind
    refine rest.trans ?_
    simp only [← List.map_append, List.length_map]
    rfl
  · rw [if_neg fits, if_neg]
    · rfl
    · rw [List.length_append, ← octets]
      omega

/-- **What the scan understands of operands** is how many requests for more detail there are and
which operands, if their number is one that the program can do with.  Otherwise it answers with
the usage line, whatever they are. -/
theorem scan_operandLine (knows : app.Knows verboseSwitch) (gives : Gives words front)
    (behind : Option (List String)) :
    app.scan (program :: operandLine words behind) =
      if (front ++ behind.getD []).length ≤ app.operands.length ∧
          (app.operands.filter (·.required)).length ≤ (front ++ behind.getD []).length then
        .ok (understood words (front ++ behind.getD []) behind)
      else .error (.error (.usage app.usage)) := by
  have complete (texts : List String) : (understood words texts behind).isComplete app =
      decide ((app.operands.filter (·.required)).length ≤ texts.length) := by
    simp [Scan.isComplete, understood, Scan.start]
  show Scan.start.arguments app (calledBy program) (operandLine words behind) >>= _ = _
  rw [arguments_operandLine knows gives behind]
  by_cases fits : (front ++ behind.getD []).length ≤ app.operands.length
  · rw [if_pos fits]
    show (if Scan.isComplete app _ then _ else _) = _
    rw [complete]
    simp only [fits, true_and, decide_eq_true_eq]
    rfl
  · rw [if_neg fits, if_neg fun both => fits both.1]
    rfl

end Scan

/-! ## Options -/

section Options

variable {program : Bytes} {words : List Word} {front : List String}

theorem subscriber_operandLine (gives : Gives words front) (behind : Option (List String)) :
    Options.subscriber (program :: operandLine words behind) =
      subscriberOf (levelOf words) (front ++ behind.getD []) := by
  unfold Options.subscriber
  rw [scan_operandLine ⟨by decide, by decide⟩ gives]
  match front ++ behind.getD [] with
  | [] => rfl
  | [argument] =>
    show valueOf (some (Utf8.encode argument)) _ _ >>= _ = _
    rw [valueOf_encode, show Endpoint.defaultSubscription.host = "localhost" from rfl, subscriberOf]
    cases Endpoint.ofArgument argument "localhost" <;> rfl
  | _ :: _ :: more => rfl

theorem requester_operandLine (gives : Gives words front) (behind : Option (List String)) :
    Options.requester (program :: operandLine words behind) =
      requesterOf (levelOf words) (front ++ behind.getD []) := by
  unfold Options.requester
  rw [scan_operandLine ⟨by decide, by decide⟩ gives]
  match front ++ behind.getD [] with
  | [] => rfl
  | [host] =>
    show valueOf (some (Utf8.encode host)) _ _ >>= _ = _
    rw [valueOf_encode]
    rfl
  | [host, argument] =>
    show valueOf (some (Utf8.encode host)) _ _ >>= (fun host =>
      valueOf (some (Utf8.encode argument)) _ _ >>= _) = _
    rw [valueOf_encode, valueOf_encode, requesterOf]
    cases readPort argument <;> rfl
  | _ :: _ :: _ :: more => rfl

theorem publisher_operandLine (gives : Gives words front) (behind : Option (List String)) :
    Options.publisher (program :: operandLine words behind) =
      publisherOf (levelOf words) (front ++ behind.getD []) := by
  unfold Options.publisher
  rw [scan_operandLine ⟨by decide, by decide⟩ gives]
  match front ++ behind.getD [] with
  | [] => rfl
  | [argument] =>
    show (textOf (Utf8.encode argument) >>= fun text =>
      withUsage .publisher (readPort text) >>= _) = _
    rw [textOf_encode, publisherOf]
    show withUsage .publisher (readPort argument) >>= _ = _
    cases readPort argument <;> rfl
  | _ :: _ :: more => rfl

/-- **The number of operands decides** between what was given, a default and a refusal.  Wherever
requests for more detail and `--` stand between the operands, each program takes its operands for
what they mean, and a number that it has no use for is refused with its usage line alone. -/
theorem options_of_operands (gives : Gives words front) (behind : Option (List String)) :
    Options.subscriber (program :: operandLine words behind) =
        subscriberOf (levelOf words) (front ++ behind.getD []) ∧
      Options.requester (program :: operandLine words behind) =
        requesterOf (levelOf words) (front ++ behind.getD []) ∧
      Options.publisher (program :: operandLine words behind) =
        publisherOf (levelOf words) (front ++ behind.getD []) :=
  ⟨subscriber_operandLine gives behind, requester_operandLine gives behind,
    publisher_operandLine gives behind⟩

/-- A host and a bad port, with two requests for more detail between them: only the requester
comes to look at the port. -/
theorem options_of_operands_dashes :
    let words := [Word.operand (Utf8.encode "-"), .letters .verbose [.verbose]]
    let behind := some ["--"]
    let commandLine := Utf8.encode "program" :: operandLine words behind
    commandLine = ["program", "-", "-vv", "--", "--"].map Utf8.encode ∧
      Options.subscriber commandLine =
        .error (.error (.usage "Usage: pqsub [-t] [-f TOPIC] [-v...] [PORT | HOST:PORT]")) ∧
      Options.requester commandLine =
        .error (.error (.usage ("invalid port \"--\": expected an integer between 1 and 65535\n" ++
          "Usage: pqreq [-v...] [HOST] [PORT]"))) ∧
      Options.publisher commandLine =
        .error (.error (.usage "Usage: pqpub [-v...] PORT")) := by
  intro words behind commandLine
  have gives : Gives words ["-"] :=
    ⟨by decide +kernel, by decide +kernel, by decide +kernel⟩
  obtain ⟨subscriber, requester, publisher⟩ := options_of_operands gives behind
  exact ⟨by decide +kernel, subscriber, requester, publisher⟩

end Options

end MessagingConsole.CommandLine
