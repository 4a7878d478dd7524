import Mathlib.Data.List.TakeDrop
import MessagingConsole.CommandLine.Options
import MessagingConsole.Proofs.CommandLine.Values
import MessagingConsole.Proofs.Text.Parts

/-!
# What command lines can lead to

A command line of texts leads to a configuration that can be used, to a notice that was asked
for, or to an explanation that ends with the usage line.  Nothing else can happen, whatever
the arguments are and in whatever order they stand.

Arguments are scanned as octets.  All that the scan does with them is to cut them at dashes,
at equals signs and behind letters, all of which are ASCII, so that what it keeps of texts are
texts again and can be decoded later.  That is the invariant of the scan.

## Main Definitions

- `Explained` - the refusals that tell a user what to do.
- `LeadsTo` - a reading ends with a value of some kind or with such a refusal.
- `Scan.OfTexts` - the invariant of the scan: what was kept are texts.

## Main Results

- `Scan.leadsTo_arguments` - the scan keeps its invariant.
- `options_outcome` - the outcomes of the three programs.
-/

namespace MessagingConsole.CommandLine

open Utf8 (IsText)

/-- The refusals that tell a user what to do: a notice, the usage line, or one line without
control characters and the usage line below it. -/
inductive Explained (app : App) (caller : Option String) : Refusal → Prop
  | help : Explained app caller (.error (.notice (.help (app.helpText caller))))
  | version : Explained app caller (.error (.notice (.version (app.versionLine caller))))
  | usage : Explained app caller (.error (.usage app.usage))
  | fault {line : String} (plain : IsPlain line.toList) :
      Explained app caller (.error (.usage (line ++ "\n" ++ app.usage)))

/-- A reading ends with a value of some kind, or with a refusal that is explained. -/
def LeadsTo {α : Type} (app : App) (caller : Option String) (Kind : α → Prop) :
    Except Refusal α → Prop
  | .ok value => Kind value
  | .error refusal => Explained app caller refusal

/-- What a scan has kept of its arguments are texts. -/
structure Scan.OfTexts (s : Scan) : Prop where
  filterValues : ∀ value ∈ s.filterValues, IsText value
  operands : ∀ operand ∈ s.operands, IsText operand

variable {app : App} {caller : Option String}

theorem LeadsTo.bind {α β : Type} {Kind : α → Prop} {Next : β → Prop}
    {reading : Except Refusal α} {next : α → Except Refusal β}
    (first : LeadsTo app caller Kind reading)
    (later : ∀ value, Kind value → LeadsTo app caller Next (next value)) :
    LeadsTo app caller Next (reading >>= next) := by
  cases reading with
  | ok value => exact later value first
  | error refusal => exact first

/-! ## Parts of arguments -/

section Parts

variable {argument letters switch rest : Bytes} {value : Option Bytes} {b : UInt8}

/-- The rest of a text behind a character of ASCII. -/
theorem isText_of_cons (ascii : b < 0x80) (text : IsText (b :: rest)) : IsText rest :=
  ((Utf8.isText_cut_iff ascii).mp (show IsText ([] ++ b :: rest) from text)).2

theorem isText_dropWhile (ascii : b < 0x80) (text : IsText argument) :
    IsText (argument.dropWhile (· = b)) := by
  induction argument with
  | nil => exact text
  | cons first rest ih =>
    rw [List.dropWhile_cons]
    split
    case isTrue same =>
      cases of_decide_eq_true same
      exact ih (isText_of_cons ascii text)
    case isFalse => exact text

theorem isText_of_short (text : IsText argument) (shape : Shape.of argument = .short letters) :
    IsText letters := by
  unfold Shape.of at shape
  split at shape
  next => cases shape
  next =>
    dsimp only at shape
    split at shape <;> cases shape
  next =>
    cases shape
    exact isText_of_cons (by decide) text
  next => cases shape

/-- A text falls apart into texts at the first equals sign. -/
theorem isText_of_span {whole : Bytes} (text : IsText whole)
    (cut : whole.span (· ≠ equals) = (switch, rest)) :
    IsText switch ∧ (rest = [] ∨ ∃ part, rest = equals :: part ∧ IsText part) := by
  rw [List.span_eq_takeWhile_dropWhile] at cut
  obtain ⟨front, back⟩ := Prod.mk.inj cut
  rw [← List.takeWhile_append_dropWhile (p := (· ≠ equals)) (l := whole), front, back] at text
  cases rest with
  | nil =>
    rw [List.append_nil] at text
    exact ⟨text, .inl rfl⟩
  | cons c part =>
    have stops := List.head?_dropWhile_not (· ≠ equals) whole
    rw [back] at stops
    obtain rfl : c = equals := by simpa using stops
    obtain ⟨first, second⟩ := (Utf8.isText_cut_iff (by decide)).mp text
    exact ⟨first, .inr ⟨part, rfl, second⟩⟩

/-- A name and its value are cut from their argument at dashes and at an equals sign. -/
theorem isText_of_long (text : IsText argument) (shape : Shape.of argument = .long switch value) :
    IsText switch ∧ ∀ part ∈ value, IsText part := by
  unfold Shape.of at shape
  split at shape
  next => cases shape
  next rest _ =>
    have behind : IsText rest := isText_of_cons (by decide) (isText_of_cons (by decide) text)
    have joined : IsText (rest.dropWhile (· = dash)) := isText_dropWhile (by decide) behind
    dsimp only at shape
    split at shape
    next name cut =>
      cases shape
      exact ⟨(isText_of_span joined cut).1, fun part mem => nomatch mem⟩
    next name c part cut =>
      cases shape
      obtain ⟨first, nothing | ⟨part, same, second⟩⟩ := isText_of_span joined cut
      · cases nothing
      · cases same
        refine ⟨first, fun other mem => ?_⟩
        cases mem
        exact second
  next => cases shape
  next => cases shape

end Parts

/-! ## The scan -/

namespace Scan

variable {s : Scan} {value : Option Bytes} {later : List Bytes}

theorem leadsTo_switch (effect : Effect) (texts : s.OfTexts) (given : ∀ part ∈ value, IsText part) :
    LeadsTo app caller OfTexts (s.switch app caller effect value) := by
  cases effect with
  | help => exact .help
  | version => exact .version
  | verbose => exact ⟨texts.filterValues, texts.operands⟩
  | timestamps => exact ⟨texts.filterValues, texts.operands⟩
  | filter =>
    cases value with
    | none => exact ⟨texts.filterValues, texts.operands⟩
    | some part =>
      refine ⟨List.forall_mem_append.mpr ⟨texts.filterValues, ?_⟩, texts.operands⟩
      exact List.forall_mem_singleton.mpr (isText_dropWhile (by decide) (given part rfl))

/-- Letters are taken off one by one, and each of them that is known is ASCII. -/
theorem leadsTo_letters (ascii : ∀ known ∈ app.switches, known.short.toNat < 0x80)
    {letters : Bytes} (texts : s.OfTexts) (text : IsText letters) :
    LeadsTo app caller OfTexts (s.letters app caller letters) := by
  induction letters generalizing s with
  | nil => exact texts
  | cons b rest ih =>
    unfold Scan.letters
    split
    next => exact .usage
    next found known =>
      have narrow : b < 0x80 := by
        have same : found.short.toNat = b.toNat := by simpa using List.find?_some known
        have bound := ascii found (List.mem_of_find?_eq_some known)
        rw [same] at bound
        exact UInt8.lt_iff_toNat_lt.mpr bound
      have behind := isText_of_cons narrow text
      split
      case isTrue =>
        refine leadsTo_switch found.effect texts fun part mem => ?_
        split at mem
        · cases mem
        · cases mem
          exact behind
      case isFalse =>
        have carried := @leadsTo_switch app caller s none found.effect texts
          fun part mem => nomatch mem
        split
        next _ read =>
          rw [read] at carried
          exact ih carried behind
        next _ read =>
          rw [read] at carried
          exact carried

theorem leadsTo_name {switch : Bytes} (texts : s.OfTexts) (text : IsText switch)
    (given : ∀ part ∈ value, IsText part) (others : ∀ argument ∈ later, IsText argument) :
    LeadsTo app caller OfTexts (s.name app caller switch value later) := by
  unfold Scan.name
  split
  next found _ => exact leadsTo_switch found.effect texts given
  next =>
    have shown : (switch :: later).all fun argument => (Utf8.decode? argument).isSome := by
      refine List.all_eq_true.mpr (List.forall_mem_cons.mpr ⟨?_, fun argument mem => ?_⟩)
      · exact Utf8.isText_iff_isSome.mp text
      · exact Utf8.isText_iff_isSome.mp (others argument mem)
    rw [if_pos shown]
    exact .usage

theorem leadsTo_operand {operand : Bytes} (texts : s.OfTexts) (text : IsText operand) :
    LeadsTo app caller OfTexts (s.operand app operand) := by
  unfold Scan.operand
  split
  · refine ⟨texts.filterValues, List.forall_mem_append.mpr ⟨texts.operands, ?_⟩⟩
    exact List.forall_mem_singleton.mpr text
  · exact .usage

/-- **One argument more keeps the scan to texts.** -/
theorem leadsTo_argument (ascii : ∀ known ∈ app.switches, known.short.toNat < 0x80)
    {argument : Bytes} (texts : s.OfTexts) (text : IsText argument)
    (others : ∀ argument ∈ later, IsText argument) :
    LeadsTo app caller OfTexts (s.argument app caller argument later) := by
  unfold Scan.argument
  split
  case isTrue => exact leadsTo_operand texts text
  case isFalse =>
    split
    next => exact ⟨texts.filterValues, texts.operands⟩
    next name value shape =>
      obtain ⟨first, second⟩ := isText_of_long text shape
      exact leadsTo_name texts first second others
    next letters shape => exact leadsTo_letters ascii texts (isText_of_short text shape)
    next =>
      split
      · refine ⟨List.forall_mem_append.mpr ⟨texts.filterValues, ?_⟩, texts.operands⟩
        exact List.forall_mem_singleton.mpr text
      · exact leadsTo_operand texts text

/-- **A scan of texts keeps texts, or is refused with an explanation.** -/
theorem leadsTo_arguments (ascii : ∀ known ∈ app.switches, known.short.toNat < 0x80)
    {arguments : List Bytes} (texts : s.OfTexts) (all : ∀ argument ∈ arguments, IsText argument) :
    LeadsTo app caller OfTexts (s.arguments app caller arguments) := by
  induction arguments generalizing s with
  | nil => exact texts
  | cons argument later ih =>
    obtain ⟨text, others⟩ := List.forall_mem_cons.mp all
    have first : LeadsTo app caller OfTexts (s.argument app caller argument later) :=
      leadsTo_argument ascii texts text others
    unfold Scan.arguments
    split
    next _ read =>
      rw [read] at first
      exact ih first others
    next _ read =>
      rw [read] at first
      exact first

end Scan

theorem leadsTo_scan (ascii : ∀ known ∈ app.switches, known.short.toNat < 0x80)
    {commandLine : List Bytes} (all : ∀ argument ∈ commandLine, IsText argument) :
    LeadsTo app (commandLine.head?.bind calledBy) Scan.OfTexts
      (app.scan commandLine) := by
  unfold App.scan
  have start : Scan.start.OfTexts := ⟨by simp [Scan.start], by simp [Scan.start]⟩
  have others : ∀ argument ∈ commandLine.tail, IsText argument :=
    fun argument mem => all argument (List.mem_of_mem_tail mem)
  refine (Scan.leadsTo_arguments ascii start others).bind fun scan texts => ?_
  split
  · exact texts
  · exact .usage

/-! ## Values -/

variable {α : Type} {Kind : α → Prop}

theorem leadsTo_textOf {argument : Bytes} (text : IsText argument) :
    LeadsTo app caller (fun _ => True) (textOf argument) := by
  obtain ⟨text, rfl⟩ := text
  rw [textOf, Utf8.decode?_encode]
  trivial

theorem leadsTo_withUsage {reading : Except ArgumentFault α}
    (kind : ∀ value, reading = .ok value → Kind value) :
    LeadsTo app caller Kind (withUsage app reading) := by
  cases reading with
  | ok value => exact kind value rfl
  | error fault => exact .fault fault.isPlain_message

theorem leadsTo_valueOf {operand : Option Bytes} {default : α} {read : String → Except Refusal α}
    (text : ∀ argument ∈ operand, IsText argument) (usual : Kind default)
    (reads : ∀ text, LeadsTo app caller Kind (read text)) :
    LeadsTo app caller Kind (valueOf operand default read) := by
  cases operand with
  | none => exact usual
  | some argument => exact (leadsTo_textOf (text argument rfl)).bind fun text _ => reads text

/-! ## The three programs -/

/-- A port that something can be reached on. -/
def IsReachable (port : UInt16) : Prop :=
  1 ≤ port.toNat ∧ port.toNat ≤ 65535

theorem leadsTo_readPort (text : String) :
    LeadsTo app caller IsReachable (withUsage app (readPort text)) :=
  leadsTo_withUsage fun _ read => port_bounds (ne_zero_of_readPort read)

section Programs

variable {commandLine : List Bytes}

theorem Scan.OfTexts.operand {s : Scan} (texts : s.OfTexts) (place : Nat) :
    ∀ argument ∈ s.operands[place]?, IsText argument :=
  fun argument mem => texts.operands argument (List.mem_of_getElem? mem)

theorem leadsTo_subscriber (texts : ∀ argument ∈ commandLine, IsText argument) :
    LeadsTo .subscriber (commandLine.head?.bind calledBy)
      (fun options => options.config.endpoint.host ≠ "" ∧
        IsReachable options.config.endpoint.port)
      (Options.subscriber commandLine) := by
  unfold Options.subscriber
  refine (leadsTo_scan (by decide) texts).bind fun scan kept => ?_
  have endpoint : LeadsTo .subscriber (commandLine.head?.bind calledBy)
      (fun endpoint => endpoint.host ≠ "" ∧ IsReachable endpoint.port)
      (valueOf scan.operands[0]? Endpoint.defaultSubscription fun text =>
        withUsage .subscriber (Endpoint.ofArgument text Endpoint.defaultSubscription.host)) := by
    refine leadsTo_valueOf (kept.operand 0) ?_ fun text => leadsTo_withUsage fun e read => ?_
    · exact ⟨by decide, port_bounds (by decide)⟩
    · obtain ⟨named, nonzero⟩ := Endpoint.usable_of_ofArgument (by decide) read
      exact ⟨named, port_bounds nonzero⟩
  have filter : LeadsTo .subscriber (commandLine.head?.bind calledBy) (fun _ => True)
      (valueOf scan.filterValues[0]? TopicFilter.everything fun text => .ok ⟨text⟩) := by
    refine leadsTo_valueOf (fun argument mem => ?_) trivial fun text => trivial
    exact kept.filterValues argument (List.mem_of_getElem? mem)
  exact endpoint.bind fun e usable => filter.bind fun _ _ => usable

theorem leadsTo_requester (texts : ∀ argument ∈ commandLine, IsText argument) :
    LeadsTo .requester (commandLine.head?.bind calledBy)
      (fun options => IsReachable options.config.port) (Options.requester commandLine) := by
  unfold Options.requester
  refine (leadsTo_scan (by decide) texts).bind fun scan kept => ?_
  have host : LeadsTo .requester (commandLine.head?.bind calledBy) (fun _ => True)
      (valueOf scan.operands[0]? Endpoint.defaultService.host .ok) :=
    leadsTo_valueOf (kept.operand 0) trivial fun text => trivial
  have port : LeadsTo .requester (commandLine.head?.bind calledBy) IsReachable
      (valueOf scan.operands[1]? Endpoint.defaultService.port fun text =>
        withUsage .requester (readPort text)) :=
    leadsTo_valueOf (kept.operand 1) (port_bounds (by decide)) leadsTo_readPort
  exact host.bind fun _ _ => port.bind fun _ reachable => reachable

theorem leadsTo_publisher (texts : ∀ argument ∈ commandLine, IsText argument) :
    LeadsTo .publisher (commandLine.head?.bind calledBy)
      (fun options => options.config.host = Endpoint.everyInterface ∧
        IsReachable options.config.port)
      (Options.publisher commandLine) := by
  unfold Options.publisher
  refine (leadsTo_scan (by decide) texts).bind fun scan kept => ?_
  have given : IsText (scan.operands[0]?.getD []) := by
    cases operand : scan.operands[0]? with
    | none => exact Utf8.isText_encode ""
    | some argument => exact kept.operand 0 argument operand
  refine (leadsTo_textOf given).bind fun text _ => ?_
  exact (leadsTo_readPort text).bind fun port reachable => ⟨rfl, reachable⟩

end Programs

/-- **Every command line of texts has one of three outcomes**: a configuration that can be
used, a notice that was asked for, or an explanation above the usage line. -/
theorem options_outcome (commandLine : List Bytes)
    (texts : ∀ argument ∈ commandLine, IsText argument) :
    LeadsTo .subscriber (commandLine.head?.bind calledBy)
      (fun options => options.config.endpoint.host ≠ "" ∧
        IsReachable options.config.endpoint.port)
      (Options.subscriber commandLine) ∧
    LeadsTo .requester (commandLine.head?.bind calledBy)
      (fun options => IsReachable options.config.port) (Options.requester commandLine) ∧
    LeadsTo .publisher (commandLine.head?.bind calledBy)
      (fun options => options.config.host = "0.0.0.0" ∧ IsReachable options.config.port)
      (Options.publisher commandLine) :=
  ⟨leadsTo_subscriber texts, leadsTo_requester texts, leadsTo_publisher texts⟩

/-- An argument with a line feed in it is explained on one line. -/
theorem options_outcome_of_line_feed :
    let commandLine := ["pqsub", "-v", "one\ntwo"].map Utf8.encode
    let refusal := Refusal.error (.usage ("invalid port \"one\\ntwo\": " ++
      "expected an integer between 1 and 65535\n" ++ App.subscriber.usage))
    Options.subscriber commandLine = .error refusal ∧
      Explained .subscriber (some "pqsub") refusal := by
  intro commandLine refusal
  have texts : ∀ argument ∈ commandLine, IsText argument := by
    intro argument mem
    obtain ⟨text, -, rfl⟩ := List.mem_map.mp mem
    exact Utf8.isText_encode text
  obtain ⟨outcome, -⟩ := options_outcome commandLine texts
  have refused : Options.subscriber commandLine = .error refusal := by decide +kernel
  rw [refused] at outcome
  exact ⟨refused, outcome⟩

end MessagingConsole.CommandLine
