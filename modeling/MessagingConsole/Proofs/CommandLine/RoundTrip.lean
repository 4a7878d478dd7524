import MessagingConsole.CommandLine.Options
import MessagingConsole.Proofs.CommandLine.Values
import MessagingConsole.Proofs.Text.Parts

/-!
# Every configuration can be given on a command line

There is a command line for every configuration of the three programs, and the programs read
it back exactly.  What has to be written with care are the texts that a user chooses: a filter
that begins with a dash is joined to its switch, any other one follows it as an argument of
its own, and operands stand behind `--`, where nothing is a switch any more.

## Main Definitions

- `subscriberLine`, `requesterLine`, `publisherLine` - the command lines of configurations.

## Main Results

- `Scan.arguments_verbose`, `Scan.arguments_filter` - what the scan makes of such arguments.
- `options_of_line` - every configuration is read back from its command line.
-/

namespace MessagingConsole.CommandLine

/-! ## Command lines of configurations -/

/-- The arguments that ask for more detail, so many times. -/
def verboseArguments (verbosity : Nat) : List Bytes :=
  List.replicate verbosity (Utf8.encode "-v")

/-- The arguments that ask for a format. -/
def formatArguments : LineFormat → List Bytes
  | .plain => []
  | .timestamped => [Utf8.encode "-t"]

/-- The arguments that give a filter. -/
def filterArguments (filter : TopicFilter) : List Bytes :=
  if filter.start.toList.head? = some '-' then [Utf8.encode ("--filter=" ++ filter.start)]
  else [Utf8.encode "-f", Utf8.encode filter.start]

/-- The command line of a subscriber. -/
def subscriberLine (program : Bytes) (s : Subscription) (verbosity : Nat) : List Bytes :=
  program :: (formatArguments s.format ++ (verboseArguments verbosity ++
    (filterArguments s.filter ++ [Utf8.encode "--", Utf8.encode s.endpoint.address])))

/-- The command line of a requester. -/
def requesterLine (program : Bytes) (server : Endpoint) (verbosity : Nat) : List Bytes :=
  program :: (verboseArguments verbosity ++
    [Utf8.encode "--", Utf8.encode server.host, Utf8.encode (Text.decimal server.port.toNat)])

/-- The command line of a publisher. -/
def publisherLine (program : Bytes) (port : UInt16) (verbosity : Nat) : List Bytes :=
  program :: (verboseArguments verbosity ++
    [Utf8.encode "--", Utf8.encode (Text.decimal port.toNat)])

/-! ## Single arguments -/

/-- A value that can stand as an argument of its own, since it is not taken for a switch. -/
def Standalone (value : Bytes) : Prop :=
  value.head? = some dash → value = [dash]

instance (value : Bytes) : Decidable (Standalone value) :=
  inferInstanceAs (Decidable (_ → _))

theorem shape_of_standalone {value : Bytes} (standalone : Standalone value) :
    Shape.of value = .plain := by
  have other (b : UInt8) (rest : Bytes) : value ≠ dash :: b :: rest := by
    rintro rfl
    cases standalone rfl
  unfold Shape.of
  split
  next => exact absurd rfl (other _ _)
  next => exact absurd rfl (other _ _)
  next => exact absurd rfl (other _ _)
  next => rfl

/-- A dash and anything but a second one are letters. -/
theorem shape_of_letters {b : UInt8} (letter : b ≠ dash) (rest : Bytes) :
    Shape.of (dash :: b :: rest) = .short (b :: rest) := by
  unfold Shape.of dash
  split
  next same => exact absurd (List.cons.inj (List.cons.inj same).2).1 letter
  next _ same => exact absurd (List.cons.inj (List.cons.inj same).2).1 letter
  next same =>
    obtain ⟨-, tail⟩ := List.cons.inj same
    rw [tail]
  next other => exact absurd rfl (other b rest)

namespace Scan

variable {app : App} {calledBy : Option String} {s next : Scan} {later : List Bytes}

theorem arguments_cons {argument : Bytes}
    (read : s.argument app calledBy argument later = .ok next) :
    s.arguments app calledBy (argument :: later) = next.arguments app calledBy later := by
  rw [arguments, read]

/-- One letter after a dash is the switch of that letter. -/
theorem argument_letter {b : UInt8} {found : Switch} (switches : s.operandsOnly = false)
    (letter : b ≠ dash)
    (known : app.switches.find? (·.short.toNat = b.toNat) = some found)
    (carried : s.switch app calledBy found.effect none = .ok next) :
    s.argument app calledBy [dash, b] later = .ok next := by
  unfold argument
  rw [switches, shape_of_letters letter]
  simp [letters, known, carried]

/-- A text begins with a dash where its octets do. -/
theorem exists_encode_of_dashed {text : String} (dashed : text.toList.head? = some '-') :
    ∃ rest, Utf8.encode text = dash :: rest := by
  obtain ⟨rest, chars⟩ : ∃ rest, text.toList = '-' :: rest := by
    cases chars : text.toList with
    | nil =>
      rw [chars] at dashed
      cases dashed
    | cons c rest =>
      rw [chars] at dashed
      cases dashed
      exact ⟨rest, rfl⟩
  refine ⟨rest.flatMap String.utf8EncodeChar, ?_⟩
  rw [Utf8.encode, chars]
  rfl

/-- A text that does not begin with a dash is a value or an operand. -/
theorem shape_encode_of_plain {text : String} (plain : text.toList.head? ≠ some '-') :
    Shape.of (Utf8.encode text) = .plain := by
  refine shape_of_standalone fun dashed => ?_
  obtain ⟨rest, octets⟩ := List.head?_eq_some_iff.mp dashed
  have begins : Utf8.encode "-" <+: Utf8.encode text := by
    rw [octets]
    exact ⟨rest, rfl⟩
  obtain ⟨rest, split⟩ := Utf8.encode_prefix_iff.mp begins
  rw [← split] at plain
  exact absurd rfl plain

/-- A scan that has read switches only, and is between two of them. -/
def between (verbosity timestamps : Nat) (filters : List Bytes) : Scan where
  verbosity := verbosity
  timestamps := timestamps
  filters := filters.length
  filterValues := filters
  operands := []
  awaitsFilter := false
  operandsOnly := false

variable {verbosity timestamps : Nat} {filters : List Bytes}

/-- Asking for more detail so many times. -/
theorem arguments_verbose (more : Nat)
    (known : app.switches.find? (·.short.toNat = 118) = some verboseSwitch) :
    (between verbosity timestamps filters).arguments app calledBy
        (verboseArguments more ++ later) =
      (between (verbosity + more) timestamps filters).arguments app calledBy later := by
  induction more generalizing verbosity with
  | zero => rfl
  | succ more ih =>
    have read : (between verbosity timestamps filters).argument app calledBy (Utf8.encode "-v")
        (verboseArguments more ++ later) = .ok (between (verbosity + 1) timestamps filters) :=
      argument_letter rfl (by decide) known rfl
    show (between verbosity timestamps filters).arguments app calledBy
      (Utf8.encode "-v" :: (verboseArguments more ++ later)) = _
    rw [arguments_cons read, ih, Nat.add_assoc, Nat.add_comm 1]

/-- Asking for a format. -/
theorem arguments_format (format : LineFormat)
    (known : app.switches.find? (·.short.toNat = 116) = some timestampsSwitch) :
    (between verbosity timestamps filters).arguments app calledBy
        (formatArguments format ++ later) =
      (between verbosity (timestamps + if format = LineFormat.plain then 0 else 1)
        filters).arguments app calledBy later := by
  cases format with
  | plain => rfl
  | timestamped =>
    have read : (between verbosity timestamps filters).argument app calledBy (Utf8.encode "-t")
        later = .ok (between verbosity (timestamps + 1) filters) :=
      argument_letter rfl (by decide) known rfl
    exact arguments_cons read

/-- Giving a filter. -/
theorem arguments_filter (filter : TopicFilter)
    (letter : app.switches.find? (·.short.toNat = 102) = some filterSwitch)
    (named : app.switches.find? (fun candidate => Utf8.encode candidate.long =
      Utf8.encode "filter") = some filterSwitch) :
    (between verbosity timestamps filters).arguments app calledBy
        (filterArguments filter ++ later) =
      (between verbosity timestamps (filters ++ [Utf8.encode filter.start])).arguments app
        calledBy later := by
  have given : (between verbosity timestamps (filters ++ [Utf8.encode filter.start])) =
      { between verbosity timestamps filters with
        filters := filters.length + 1, filterValues := filters ++ [Utf8.encode filter.start] } := by
    unfold between
    rw [List.length_append]
    rfl
  unfold filterArguments
  split
  case isTrue dashed =>
    obtain ⟨rest, octets⟩ := exists_encode_of_dashed dashed
    have shape : Shape.of (Utf8.encode ("--filter=" ++ filter.start)) =
        .long (Utf8.encode "filter") (some (Utf8.encode filter.start)) := by
      rw [Utf8.encode_append]
      rfl
    have read : (between verbosity timestamps filters).argument app calledBy
        (Utf8.encode ("--filter=" ++ filter.start)) later =
        .ok (between verbosity timestamps (filters ++ [Utf8.encode filter.start])) := by
      have whole : attached (Utf8.encode filter.start) = Utf8.encode filter.start := by
        rw [octets]
        rfl
      unfold argument
      rw [shape, given]
      simp only [name, named]
      show Except.ok ((between verbosity timestamps filters).announceFilter _) = _
      rw [announceFilter, whole]
      rfl
    exact arguments_cons read
  case isFalse plain =>
    have announced : (between verbosity timestamps filters).argument app calledBy
        (Utf8.encode "-f") (Utf8.encode filter.start :: later) =
        .ok ((between verbosity timestamps filters).announceFilter none) :=
      argument_letter rfl (by decide) letter rfl
    have read : ((between verbosity timestamps filters).announceFilter none).argument app calledBy
        (Utf8.encode filter.start) later =
        .ok (between verbosity timestamps (filters ++ [Utf8.encode filter.start])) := by
      unfold argument
      rw [shape_encode_of_plain plain, given]
      rfl
    exact (arguments_cons announced).trans (arguments_cons read)

/-- What is read behind `--` are operands, as many as the program has. -/
theorem arguments_operandsOnly (only : s.operandsOnly = true)
    (room : s.operands.length ≤ app.operands.length) (operands : List Bytes) :
    s.arguments app calledBy operands =
      if (s.operands ++ operands).length ≤ app.operands.length then
        .ok { s with operands := s.operands ++ operands }
      else .error (.error (.usage app.usage)) := by
  induction operands generalizing s with
  | nil =>
    rw [List.append_nil, if_pos room]
    rfl
  | cons first rest ih =>
    have one : s.argument app calledBy first rest = s.operand app first := by
      rw [argument, if_pos only]
    by_cases free : s.operands.length < app.operands.length
    · have read : s.argument app calledBy first rest =
          .ok { s with operands := s.operands ++ [first] } := one.trans (if_pos free)
      have room : (s.operands ++ [first]).length ≤ app.operands.length := by
        rw [List.length_append]
        exact free
      rw [arguments_cons read, List.append_cons s.operands first rest]
      exact @ih { s with operands := s.operands ++ [first] } only room
    · have full : s.argument app calledBy first rest = .error (.error (.usage app.usage)) :=
        one.trans (if_neg free)
      have many : ¬ (s.operands ++ first :: rest).length ≤ app.operands.length := by
        rw [List.length_append, List.length_cons]
        omega
      rw [arguments, full, if_neg many]

/-- The operands of a program can stand behind `--`. -/
theorem arguments_operands (switches : s.operandsOnly = false)
    (room : s.operands.length ≤ app.operands.length) (operands : List Bytes) :
    s.arguments app calledBy (Utf8.encode "--" :: operands) =
      if (s.operands ++ operands).length ≤ app.operands.length then
        .ok { s with operands := s.operands ++ operands, operandsOnly := true }
      else .error (.error (.usage app.usage)) := by
  have shape : Shape.of (Utf8.encode "--") = .endOfSwitches := rfl
  have read : s.argument app calledBy (Utf8.encode "--") operands =
      .ok { s with operandsOnly := true } := by
    rw [argument, switches, shape]
    rfl
  rw [arguments_cons read]
  exact @arguments_operandsOnly app calledBy { s with operandsOnly := true } rfl room operands

end Scan

/-! ## Whole command lines -/

theorem scan_eq_ok {app : App} {program : Bytes} {arguments : List Bytes} {scan : Scan}
    (read : Scan.start.arguments app (calledBy program) arguments = .ok scan)
    (complete : scan.isComplete app) : app.scan (program :: arguments) = .ok scan := by
  show (Scan.start.arguments app (calledBy program) arguments >>= fun scan =>
    if scan.isComplete app then pure scan else throw (.error (.usage app.usage))) = _
  rw [read]
  exact if_pos complete

theorem textOf_encode (text : String) : textOf (Utf8.encode text) = .ok text := by
  rw [textOf, Utf8.decode?_encode]

theorem valueOf_encode {α : Type} (text : String) (default : α)
    (read : String → Except Refusal α) :
    valueOf (some (Utf8.encode text)) default read = read text := by
  show (textOf (Utf8.encode text) >>= read) = _
  rw [textOf_encode]
  rfl

section Lines

variable (program : Bytes) (verbosity : Nat)

theorem scan_subscriberLine (s : Subscription) :
    App.subscriber.scan (subscriberLine program s verbosity) =
      .ok { Scan.between verbosity (if s.format = LineFormat.plain then 0 else 1)
          [Utf8.encode s.filter.start] with
        operands := [Utf8.encode s.endpoint.address], operandsOnly := true } := by
  refine scan_eq_ok ?_ ?_
  · show (Scan.between 0 0 []).arguments .subscriber (calledBy program) _ = _
    rw [Scan.arguments_format s.format rfl, Scan.arguments_verbose verbosity rfl,
      Scan.arguments_filter s.filter rfl (by decide), Scan.arguments_operands rfl (Nat.zero_le _),
      Nat.zero_add, Nat.zero_add, List.nil_append]
    exact if_pos (Nat.le_refl 1)
  · cases s.format <;> rfl

theorem scan_requesterLine (server : Endpoint) :
    App.requester.scan (requesterLine program server verbosity) =
      .ok { Scan.between verbosity 0 [] with
        operands := [Utf8.encode server.host, Utf8.encode (Text.decimal server.port.toNat)]
        operandsOnly := true } := by
  refine scan_eq_ok ?_ rfl
  show (Scan.between 0 0 []).arguments .requester (calledBy program) _ = _
  rw [Scan.arguments_verbose verbosity rfl, Scan.arguments_operands rfl (Nat.zero_le _),
    Nat.zero_add]
  exact if_pos (Nat.le_refl 2)

theorem scan_publisherLine (port : UInt16) :
    App.publisher.scan (publisherLine program port verbosity) =
      .ok { Scan.between verbosity 0 [] with
        operands := [Utf8.encode (Text.decimal port.toNat)], operandsOnly := true } := by
  refine scan_eq_ok ?_ rfl
  show (Scan.between 0 0 []).arguments .publisher (calledBy program) _ = _
  rw [Scan.arguments_verbose verbosity rfl, Scan.arguments_operands rfl (Nat.zero_le _),
    Nat.zero_add]
  exact if_pos (Nat.le_refl 1)

theorem subscriber_of_line {s : Subscription} (named : s.endpoint.host ≠ "")
    (reachable : s.endpoint.port ≠ 0) :
    Options.subscriber (subscriberLine program s verbosity) = .ok ⟨s, .ofVerbosity verbosity⟩ := by
  obtain ⟨endpoint, filter, format⟩ := s
  have endpoint_read : valueOf (some (Utf8.encode endpoint.address)) .defaultSubscription
      (fun text => withUsage .subscriber
        (Endpoint.ofArgument text Endpoint.defaultSubscription.host)) = .ok endpoint :=
    (valueOf_encode _ _ _).trans (congrArg _ (Endpoint.ofArgument_address named reachable _))
  have filter_read : valueOf (some (Utf8.encode filter.start)) TopicFilter.everything
      (fun text => .ok ⟨text⟩) = .ok filter :=
    valueOf_encode _ _ _
  unfold Options.subscriber
  rw [scan_subscriberLine]
  simp only [bind, Except.bind, List.getElem?_cons_zero, Scan.between]
  rw [endpoint_read, filter_read]
  cases format <;> rfl

theorem requester_of_line {server : Endpoint} (reachable : server.port ≠ 0) :
    Options.requester (requesterLine program server verbosity) =
      .ok ⟨server, .ofVerbosity verbosity⟩ := by
  have host_read : valueOf (some (Utf8.encode server.host)) Endpoint.defaultService.host .ok =
      .ok server.host :=
    valueOf_encode _ _ _
  have port_read : valueOf (some (Utf8.encode (Text.decimal server.port.toNat)))
      Endpoint.defaultService.port (fun text => withUsage .requester (readPort text)) =
      .ok server.port :=
    (valueOf_encode _ _ _).trans (congrArg _ (readPort_decimal reachable))
  unfold Options.requester
  rw [scan_requesterLine]
  simp only [bind, Except.bind, List.getElem?_cons_zero, List.getElem?_cons_succ, Scan.between]
  rw [host_read, port_read]
  rfl

theorem publisher_of_line {port : UInt16} (reachable : port ≠ 0) :
    Options.publisher (publisherLine program port verbosity) =
      .ok ⟨⟨Endpoint.everyInterface, port⟩, .ofVerbosity verbosity⟩ := by
  unfold Options.publisher
  rw [scan_publisherLine]
  simp only [bind, Except.bind, List.getElem?_cons_zero, Option.getD_some, textOf_encode,
    readPort_decimal reachable]
  rfl

end Lines

/-- **Every configuration is read back from its command line**, for whatever name the program
is called by. -/
theorem options_of_line (program : Bytes) (verbosity : Nat) :
    (∀ subscription : Subscription,
      subscription.endpoint.host ≠ "" → subscription.endpoint.port ≠ 0 →
      Options.subscriber (subscriberLine program subscription verbosity) =
        .ok ⟨subscription, .ofVerbosity verbosity⟩) ∧
    (∀ server : Endpoint, server.port ≠ 0 →
      Options.requester (requesterLine program server verbosity) =
        .ok ⟨server, .ofVerbosity verbosity⟩) ∧
    ∀ port : UInt16, port ≠ 0 →
      Options.publisher (publisherLine program port verbosity) =
        .ok ⟨⟨"0.0.0.0", port⟩, .ofVerbosity verbosity⟩ := by
  refine ⟨fun subscription named reachable => ?_, fun server reachable => ?_,
    fun port reachable => ?_⟩
  · exact subscriber_of_line program verbosity named reachable
  · exact requester_of_line program verbosity reachable
  · exact publisher_of_line program verbosity reachable

/-- A host with colons, and a filter that looks like a switch. -/
theorem options_of_unusual_line :
    Options.subscriber (["pqsub", "-t", "-v", "-v", "--filter=--version", "--", "-::1:6000"].map
      Utf8.encode) = .ok ⟨⟨⟨"-::1", 6000⟩, ⟨"--version"⟩, .timestamped⟩, .debug⟩ ∧
    Options.requester (["pqreq", "--", "", "65535"].map Utf8.encode) =
      .ok ⟨⟨"", 65535⟩, .warning⟩ ∧
    Options.publisher (["pqpub", "-v", "--", "1"].map Utf8.encode) =
      .ok ⟨⟨"0.0.0.0", 1⟩, .info⟩ := by
  obtain ⟨subscriber, -, -⟩ := options_of_line (Utf8.encode "pqsub") 2
  obtain ⟨-, requester, -⟩ := options_of_line (Utf8.encode "pqreq") 0
  obtain ⟨-, -, publisher⟩ := options_of_line (Utf8.encode "pqpub") 1
  refine ⟨?_, ?_, ?_⟩
  · exact subscriber ⟨⟨"-::1", 6000⟩, ⟨"--version"⟩, .timestamped⟩ (by decide) (by decide)
  · exact requester ⟨"", 65535⟩ (by decide)
  · exact publisher 1 (by decide)

end MessagingConsole.CommandLine
