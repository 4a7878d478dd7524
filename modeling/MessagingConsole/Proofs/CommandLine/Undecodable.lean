import MessagingConsole.Proofs.CommandLine.Outcomes
import MessagingConsole.Proofs.CommandLine.RoundTrip

/-!
# Arguments that are no texts

Arguments are octets, and a program that comes to use octets as a text which are none gives up:
there is no configuration then, and nothing that tells the user what to do.

There are two ways to come to that.  A name after two dashes that is not known is shown
to the user together with everything behind it, so that an argument that would never have been
read can spoil the usage line.  And when the scan has ended, operands and filter are read as
texts, each of them if those before it were good.  Elsewhere octets are only compared, and such
arguments end as any others do.

## Main Definitions

- `GivesUpIf` - a reading gives up exactly under a condition.
- `Unshowable` - an argument that cannot be shown.
- `GivenUp` - the command lines that a program gives up on.

## Main Results

- `Scan.givesUpIf_arguments` - the scan gives up where it meets such an argument.
- `options_givesUpIf` - the outcomes of the three programs on command lines of any octets.
-/

namespace MessagingConsole.CommandLine

open Utf8 (IsText)

/-- A reading gives up under a condition.  Without it the reading ends with a value of some kind
or with a refusal that is explained. -/
inductive GivesUpIf {α : Type} (app : App) (caller : Option String) (Bad : Prop)
    (Kind : α → Prop) (reading : Except Refusal α) : Prop
  | givesUp (same : reading = .error .undecodable) (bad : Bad)
  | ends (leads : LeadsTo app caller Kind reading) (good : ¬ Bad)

/-- An argument that cannot be shown: it gives a name that no switch has, and that name or an
argument behind it is no text. -/
def Unshowable (app : App) (argument : Bytes) (later : List Bytes) : Prop :=
  ∃ name value, Shape.of argument = .long name value ∧
    (∀ known ∈ app.switches, Utf8.encode known.long ≠ name) ∧
    ∃ octets ∈ name :: later, ¬ IsText octets

namespace Scan

/-- A scan comes to an argument that cannot be shown, where switches may stand. -/
def Meets (app : App) (caller : Option String) (s : Scan) (arguments : List Bytes) : Prop :=
  ∃ front argument later next, arguments = front ++ argument :: later ∧
    s.arguments app caller front = .ok next ∧ next.operandsOnly = false ∧
    Unshowable app argument later

/-- Some operand is no text. -/
def HasBadOperand (s : Scan) : Prop :=
  ∃ operand ∈ s.operands, ¬ IsText operand

/-- The filter is no text, and nothing is wrong with the endpoint, which is read before it. -/
def HasBadFilter (s : Scan) : Prop :=
  (∀ operand ∈ s.operands, ∃ text endpoint, operand = Utf8.encode text ∧
    Endpoint.ofArgument text Endpoint.defaultSubscription.host = .ok endpoint) ∧
    ∃ value ∈ s.filterValues, ¬ IsText value

/-- No more operands were kept than the program has a use for. -/
def Fits (app : App) (s : Scan) : Prop :=
  s.operands.length ≤ app.operands.length

end Scan

/-- A command line that a program gives up on: its scan meets an argument that cannot be shown, or
leaves values that are bad. -/
def GivenUp (app : App) (Bad : Scan → Prop) (commandLine : List Bytes) : Prop :=
  Scan.start.Meets app (commandLine.head?.bind calledBy) commandLine.tail ∨
    ∃ scan, app.scan commandLine = .ok scan ∧ Bad scan

variable {app : App} {caller : Option String}

/-! ## Conditions -/

section Conditions

variable {α β : Type} {Bad Bad' : Prop} {Kind : α → Prop} {Next : β → Prop}
  {reading : Except Refusal α} {next : α → Except Refusal β}

theorem GivesUpIf.congr (gives : GivesUpIf app caller Bad Kind reading) (same : Bad ↔ Bad') :
    GivesUpIf app caller Bad' Kind reading := by
  cases gives with
  | givesUp given bad => exact .givesUp given (same.mp bad)
  | ends leads good => exact .ends leads (mt same.mpr good)

/-- What always ends gives up under no condition. -/
theorem LeadsTo.givesUpIf (leads : LeadsTo app caller Kind reading) :
    GivesUpIf app caller False Kind reading :=
  .ends leads id

theorem givesUpIf_ok {value : α} (kind : Kind value) :
    GivesUpIf app caller False Kind (.ok value) :=
  .ends kind id

/-- A reading that is followed by another one gives up if it does itself, or if the other one
does with its value. -/
theorem GivesUpIf.bind {Worse : α → Prop} (first : GivesUpIf app caller Bad Kind reading)
    (later : ∀ value, reading = .ok value → Kind value →
      GivesUpIf app caller (Worse value) Next (next value)) :
    GivesUpIf app caller (Bad ∨ ∃ value, reading = .ok value ∧ Worse value) Next
      (reading >>= next) := by
  cases first with
  | givesUp same bad =>
    rw [same]
    exact .givesUp rfl (.inl bad)
  | ends leads good =>
    cases reading with
    | error refusal =>
      refine .ends leads ?_
      rintro (bad | ⟨value, ⟨⟩, -⟩)
      exact good bad
    | ok value =>
      cases later value rfl leads with
      | givesUp same bad => exact .givesUp same (.inr ⟨value, rfl, bad⟩)
      | ends leads' good' =>
        refine .ends leads' ?_
        rintro (bad | ⟨_, ⟨⟩, bad⟩)
        · exact good bad
        · exact good' bad

end Conditions

/-! ## The scan -/

namespace Scan

variable {s next : Scan} {value : Option Bytes} {argument : Bytes} {later : List Bytes}

theorem fits_switch (effect : Effect) (value : Option Bytes) (fits : s.Fits app) :
    LeadsTo app caller (Fits app) (s.switch app caller effect value) := by
  cases effect with
  | help => exact .help
  | version => exact .version
  | verbose => exact fits
  | timestamps => exact fits
  | filter => cases value <;> exact fits

theorem fits_letters (letters : Bytes) (fits : s.Fits app) :
    LeadsTo app caller (Fits app) (s.letters app caller letters) := by
  induction letters generalizing s with
  | nil => exact fits
  | cons b rest ih =>
    unfold Scan.letters
    split
    next => exact .usage
    next found _ =>
      split
      case isTrue => exact fits_switch found.effect _ fits
      case isFalse =>
        have carried : LeadsTo app caller (Fits app) (s.switch app caller found.effect none) :=
          fits_switch found.effect none fits
        split
        next _ read =>
          rw [read] at carried
          exact ih carried
        next _ read =>
          rw [read] at carried
          exact carried

theorem fits_operand (operand : Bytes) :
    LeadsTo app caller (Fits app) (s.operand app operand) := by
  unfold Scan.operand
  split
  case isTrue room =>
    show (s.operands ++ [operand]).length ≤ app.operands.length
    rw [List.length_append]
    exact room
  case isFalse => exact .usage

/-- A name that is not known is shown, or cannot be. -/
theorem givesUpIf_name (name : Bytes) (value : Option Bytes) (later : List Bytes)
    (fits : s.Fits app) :
    GivesUpIf app caller
      ((∀ known ∈ app.switches, Utf8.encode known.long ≠ name) ∧
        ∃ octets ∈ name :: later, ¬ IsText octets)
      (Fits app) (Scan.name app caller s name value later) := by
  unfold Scan.name
  split
  next found known =>
    refine .ends (fits_switch found.effect value fits) ?_
    rintro ⟨unknown, -⟩
    exact unknown found (List.mem_of_find?_eq_some known) (by simpa using List.find?_some known)
  next unknown =>
    have nameless : ∀ known ∈ app.switches, Utf8.encode known.long ≠ name := by
      simpa using unknown
    split
    case isTrue shown =>
      refine .ends .usage ?_
      rintro ⟨-, octets, mem, bad⟩
      exact bad (Utf8.isText_iff_isSome.mpr (List.all_eq_true.mp shown octets mem))
    case isFalse hidden =>
      obtain ⟨octets, mem, bad⟩ := List.all_eq_false.mp (Bool.not_eq_true _ ▸ hidden)
      exact .givesUp rfl ⟨nameless, octets, mem, mt Utf8.isText_iff_isSome.mp bad⟩

/-- One argument. -/
theorem givesUpIf_argument (argument : Bytes) (later : List Bytes) (fits : s.Fits app) :
    GivesUpIf app caller (s.operandsOnly = false ∧ Unshowable app argument later) (Fits app)
      (s.argument app caller argument later) := by
  unfold Scan.argument
  split
  case isTrue only =>
    refine (fits_operand argument).givesUpIf.congr (iff_of_false id ?_)
    rintro ⟨switches, -⟩
    cases only.symm.trans switches
  case isFalse switches =>
    rw [Bool.not_eq_true] at switches
    -- Only a name can be one that cannot be shown.
    have harmless (other : ∀ name value, Shape.of argument ≠ .long name value) :
        False ↔ s.operandsOnly = false ∧ Unshowable app argument later := by
      refine iff_of_false id ?_
      rintro ⟨-, name, value, shape, -⟩
      exact other name value shape
    cases shape : Shape.of argument with
    | endOfSwitches => exact GivesUpIf.congr (givesUpIf_ok fits) (harmless (by simp [shape]))
    | long name value =>
      refine (givesUpIf_name name value later fits).congr ?_
      constructor
      · intro unshowable
        exact ⟨switches, name, value, shape, unshowable⟩
      · rintro ⟨-, name', value', shape', unshowable⟩
        cases shape.symm.trans shape'
        exact unshowable
    | short letters =>
      exact (fits_letters letters fits).givesUpIf.congr (harmless (by simp [shape]))
    | plain =>
      refine GivesUpIf.congr ?_ (harmless (by simp [shape]))
      dsimp only
      split
      case isTrue => exact givesUpIf_ok fits
      case isFalse => exact (fits_operand argument).givesUpIf

/-- What an argument that was read means does not depend on the arguments behind it. -/
theorem argument_of_ok (read : s.argument app caller argument later = .ok next)
    (others : List Bytes) : s.argument app caller argument others = .ok next := by
  unfold Scan.argument at read ⊢
  split
  case isTrue only => rwa [if_pos only] at read
  case isFalse switches =>
    rw [if_neg switches] at read
    cases shape : Shape.of argument with
    | long name value =>
      rw [shape] at read
      dsimp only at read ⊢
      unfold Scan.name at read ⊢
      split
      next found known =>
        rw [known] at read
        exact read
      next unknown =>
        rw [unknown] at read
        dsimp only at read
        split at read <;> cases read
    | _ =>
      rw [shape] at read
      exact read

theorem arguments_cons_eq_bind (argument : Bytes) (later : List Bytes) :
    s.arguments app caller (argument :: later) =
      s.argument app caller argument later >>= fun next => next.arguments app caller later := by
  rw [arguments]
  cases s.argument app caller argument later <;> rfl

theorem not_meets_nil : ¬ s.Meets app caller [] := by
  rintro ⟨front, argument, later, next, parts, -⟩
  exact List.append_ne_nil_of_right_ne_nil front (List.cons_ne_nil _ _) parts.symm

/-- What cannot be shown is the first argument, or it is met behind one that was read. -/
theorem meets_cons :
    s.Meets app caller (argument :: later) ↔
      (s.operandsOnly = false ∧ Unshowable app argument later) ∨
        ∃ next, s.argument app caller argument later = .ok next ∧ next.Meets app caller later := by
  constructor
  · rintro ⟨front, bad, rest, next, parts, read, switches, unshowable⟩
    cases front with
    | nil =>
      obtain ⟨rfl, rfl⟩ := List.cons.inj parts
      cases read
      exact .inl ⟨switches, unshowable⟩
    | cons first front =>
      obtain ⟨rfl, rfl⟩ := List.cons.inj parts
      rw [arguments_cons_eq_bind] at read
      cases first : s.argument app caller argument front with
      | error refusal =>
        rw [first] at read
        cases read
      | ok middle =>
        rw [first] at read
        exact .inr ⟨middle, argument_of_ok first _, front, bad, rest, next, rfl, read, switches,
          unshowable⟩
  · rintro (⟨switches, unshowable⟩ | ⟨middle, first, front, bad, rest, next, rfl, read, switches,
      unshowable⟩)
    · exact ⟨[], argument, later, s, rfl, rfl, switches, unshowable⟩
    · refine ⟨argument :: front, bad, rest, next, rfl, ?_, switches, unshowable⟩
      rw [arguments_cons_eq_bind, argument_of_ok first front]
      exact read

/-- **The scan gives up where it meets an argument that cannot be shown**, and nowhere else. -/
theorem givesUpIf_arguments (arguments : List Bytes) (fits : s.Fits app) :
    GivesUpIf app caller (s.Meets app caller arguments) (Fits app)
      (s.arguments app caller arguments) := by
  induction arguments generalizing s with
  | nil => exact .ends fits not_meets_nil
  | cons argument later ih =>
    rw [arguments_cons_eq_bind]
    exact ((givesUpIf_argument argument later fits).bind fun next _ fits => ih fits).congr
      meets_cons.symm

end Scan

/-- The scan of a whole command line. -/
theorem givesUpIf_scan (commandLine : List Bytes) :
    GivesUpIf app (commandLine.head?.bind calledBy)
      (Scan.start.Meets app (commandLine.head?.bind calledBy) commandLine.tail)
      (fun scan => scan.Fits app ∧ scan.filterValues.length ≤ 1) (app.scan commandLine) := by
  have start : Scan.start.Fits app := Nat.zero_le _
  have complete (scan : Scan) (fits : scan.Fits app) :
      LeadsTo app (commandLine.head?.bind calledBy)
        (fun scan => scan.Fits app ∧ scan.filterValues.length ≤ 1)
        (if scan.isComplete app then return scan else throw (.error (.usage app.usage))) := by
    split
    case isTrue complete =>
      refine ⟨fits, ?_⟩
      simp only [Scan.isComplete, Bool.and_eq_true, decide_eq_true_eq, beq_iff_eq] at complete
      omega
    case isFalse => exact .usage
  refine ((Scan.givesUpIf_arguments _ start).bind fun scan _ fits =>
    (complete scan fits).givesUpIf).congr ?_
  simp

/-! ## Values -/

section Values

variable {α β : Type} {Kind : α → Prop} {Next : β → Prop} {Bad : Scan → Prop}

theorem givesUpIf_textOf (argument : Bytes) :
    GivesUpIf app caller (¬ IsText argument) (fun text => argument = Utf8.encode text)
      (textOf argument) := by
  unfold textOf
  split
  next text decoded =>
    have spells := Utf8.decode?_eq_some_iff.mp decoded
    exact .ends spells (not_not_intro ⟨text, spells⟩)
  next none =>
    refine .givesUp rfl fun text => ?_
    rw [Utf8.isText_iff_isSome, none] at text
    cases text

/-- A value that can be used whatever text it is. -/
theorem givesUpIf_valueOf {operand : Option Bytes} {default : α}
    {read : String → Except Refusal α} (usual : Kind default)
    (reads : ∀ text, LeadsTo app caller Kind (read text)) :
    GivesUpIf app caller (∃ argument ∈ operand, ¬ IsText argument) Kind
      (valueOf operand default read) := by
  cases operand with
  | none => exact .ends usual (by simp)
  | some argument =>
    refine ((givesUpIf_textOf argument).bind fun text _ _ => (reads text).givesUpIf).congr ?_
    simp

/-- A value that was read is that of a text, or the default where there is none. -/
theorem valueOf_eq_ok {operand : Option Bytes} {default value : α}
    {read : String → Except Refusal α} :
    valueOf operand default read = .ok value ↔
      operand = none ∧ default = value ∨
        ∃ text, operand = some (Utf8.encode text) ∧ read text = .ok value := by
  cases operand with
  | none => simp [valueOf]
  | some argument =>
    by_cases text : IsText argument
    · obtain ⟨text, rfl⟩ := text
      rw [valueOf_encode]
      simp [Utf8.encode_inj]
    · have stuck : valueOf (some argument) default read = .error .undecodable := by
        cases @givesUpIf_textOf .publisher none argument with
        | givesUp same => rw [valueOf, same]; rfl
        | ends _ good => exact absurd text good
      refine iff_of_false (by simp [stuck]) ?_
      rintro (⟨⟨⟩, -⟩ | ⟨spelled, ⟨⟩, -⟩)
      exact text (Utf8.isText_encode spelled)

theorem withUsage_eq_ok {reading : Except ArgumentFault α} {value : α} :
    withUsage app reading = .ok value ↔ reading = .ok value := by
  cases reading with
  | ok => simp [withUsage]
  | error => simp [withUsage]

theorem exists_mem_getElem?_zero {values : List Bytes} (few : values.length ≤ 1)
    {P : Bytes → Prop} : (∃ value ∈ values[0]?, P value) ↔ ∃ value ∈ values, P value := by
  match values, few with
  | [], _ => simp
  | [value], _ => simp

end Values

/-! ## The three programs -/

/-- There is an endpoint to listen at if the operand gives one that can be used. -/
theorem exists_endpoint_iff {operands : List Bytes} (few : operands.length ≤ 1) :
    (∃ endpoint, valueOf operands[0]? Endpoint.defaultSubscription (fun text =>
        withUsage .subscriber (Endpoint.ofArgument text Endpoint.defaultSubscription.host)) =
      .ok endpoint) ↔
    ∀ operand ∈ operands, ∃ text endpoint, operand = Utf8.encode text ∧
      Endpoint.ofArgument text Endpoint.defaultSubscription.host = .ok endpoint := by
  simp only [valueOf_eq_ok, withUsage_eq_ok]
  match operands, few with
  | [], _ => simp
  | [operand], _ =>
    constructor
    · rintro ⟨endpoint, ⟨⟨⟩, -⟩ | ⟨text, same, read⟩⟩
      exact List.forall_mem_singleton.mpr ⟨text, endpoint, Option.some.inj same, read⟩
    · intro usable
      obtain ⟨text, endpoint, spells, read⟩ := List.forall_mem_singleton.mp usable
      exact ⟨endpoint, .inr ⟨text, congrArg some spells, read⟩⟩

theorem givesUpIf_subscriber (commandLine : List Bytes) :
    GivesUpIf .subscriber (commandLine.head?.bind calledBy)
      (GivenUp .subscriber (fun scan => scan.HasBadOperand ∨ scan.HasBadFilter) commandLine)
      (fun options => options.config.endpoint.host ≠ "" ∧
        IsReachable options.config.endpoint.port)
      (Options.subscriber commandLine) := by
  unfold Options.subscriber
  refine (givesUpIf_scan commandLine).bind fun scan _ ⟨fits, few⟩ => ?_
  have endpoint : GivesUpIf .subscriber (commandLine.head?.bind calledBy)
      (∃ argument ∈ scan.operands[0]?, ¬ IsText argument)
      (fun endpoint => endpoint.host ≠ "" ∧ IsReachable endpoint.port)
      (valueOf scan.operands[0]? Endpoint.defaultSubscription fun text =>
        withUsage .subscriber (Endpoint.ofArgument text Endpoint.defaultSubscription.host)) := by
    refine givesUpIf_valueOf ?_ fun text => leadsTo_withUsage fun e read => ?_
    · exact ⟨by decide, port_bounds (by decide)⟩
    · obtain ⟨named, nonzero⟩ := Endpoint.usable_of_ofArgument (by decide) read
      exact ⟨named, port_bounds nonzero⟩
  have filter : GivesUpIf .subscriber (commandLine.head?.bind calledBy)
      (∃ argument ∈ scan.filterValues[0]?, ¬ IsText argument) (fun _ => True)
      (valueOf scan.filterValues[0]? TopicFilter.everything fun text => .ok ⟨text⟩) :=
    givesUpIf_valueOf trivial fun text => trivial
  refine GivesUpIf.congr (endpoint.bind fun e _ usable => filter.bind fun f _ _ =>
    givesUpIf_ok usable) ?_
  simp only [exists_mem_getElem?_zero fits, exists_mem_getElem?_zero few, and_false,
    exists_false, or_false, exists_and_right, exists_endpoint_iff fits]
  rfl

/-- Every text is a host. -/
theorem exists_host_iff {operand : Option Bytes} {default : String} :
    (∃ host, valueOf operand default .ok = .ok host) ↔ ∀ argument ∈ operand, IsText argument := by
  cases operand <;> simp [valueOf_eq_ok, IsText]

theorem givesUpIf_requester (commandLine : List Bytes) :
    GivesUpIf .requester (commandLine.head?.bind calledBy)
      (GivenUp .requester Scan.HasBadOperand commandLine)
      (fun options => IsReachable options.config.port) (Options.requester commandLine) := by
  unfold Options.requester
  refine (givesUpIf_scan commandLine).bind fun scan _ ⟨fits, _⟩ => ?_
  have host : GivesUpIf .requester (commandLine.head?.bind calledBy)
      (∃ argument ∈ scan.operands[0]?, ¬ IsText argument) (fun _ => True)
      (valueOf scan.operands[0]? Endpoint.defaultService.host .ok) :=
    givesUpIf_valueOf trivial fun text => trivial
  have port : GivesUpIf .requester (commandLine.head?.bind calledBy)
      (∃ argument ∈ scan.operands[1]?, ¬ IsText argument) IsReachable
      (valueOf scan.operands[1]? Endpoint.defaultService.port fun text =>
        withUsage .requester (readPort text)) :=
    givesUpIf_valueOf (port_bounds (by decide)) leadsTo_readPort
  refine GivesUpIf.congr (host.bind fun _ _ _ => port.bind fun _ _ reachable =>
    givesUpIf_ok reachable) ?_
  simp only [and_false, exists_false, or_false, exists_and_right, exists_host_iff]
  unfold Scan.Fits at fits
  unfold Scan.HasBadOperand
  match scan.operands, fits with
  | [], _ => simp
  | [host], _ => simp
  | [host, port], _ =>
    by_cases text : IsText host <;> simp [text]

theorem givesUpIf_publisher (commandLine : List Bytes) :
    GivesUpIf .publisher (commandLine.head?.bind calledBy)
      (GivenUp .publisher Scan.HasBadOperand commandLine)
      (fun options => options.config.host = Endpoint.everyInterface ∧
        IsReachable options.config.port)
      (Options.publisher commandLine) := by
  unfold Options.publisher
  refine (givesUpIf_scan commandLine).bind fun scan _ ⟨fits, _⟩ => ?_
  have port (text : String) : GivesUpIf .publisher (commandLine.head?.bind calledBy) False
      IsReachable (withUsage .publisher (readPort text)) :=
    (leadsTo_readPort text).givesUpIf
  refine GivesUpIf.congr ((givesUpIf_textOf _).bind fun text _ _ =>
    (port text).bind fun _ _ reachable => givesUpIf_ok ⟨rfl, reachable⟩) ?_
  have given : IsText [] := Utf8.isText_encode ""
  unfold Scan.Fits at fits
  unfold Scan.HasBadOperand
  match scan.operands, fits with
  | [], _ => simp [given]
  | [operand], _ => simp

/-- **What becomes of a command line of any octets.**  Each program gives up where its scan comes
to an argument that cannot be shown, or where a value that it reads is no text, and nowhere
else.  All other command lines lead to a configuration that can be used, to a notice that was
asked for, or to an explanation that ends with the usage line. -/
theorem options_givesUpIf (commandLine : List Bytes) :
    GivesUpIf .subscriber (commandLine.head?.bind calledBy)
      (GivenUp .subscriber (fun scan => scan.HasBadOperand ∨ scan.HasBadFilter) commandLine)
      (fun options => options.config.endpoint.host ≠ "" ∧
        IsReachable options.config.endpoint.port)
      (Options.subscriber commandLine) ∧
    GivesUpIf .requester (commandLine.head?.bind calledBy)
      (GivenUp .requester Scan.HasBadOperand commandLine)
      (fun options => IsReachable options.config.port) (Options.requester commandLine) ∧
    GivesUpIf .publisher (commandLine.head?.bind calledBy)
      (GivenUp .publisher Scan.HasBadOperand commandLine)
      (fun options => options.config.host = "0.0.0.0" ∧ IsReachable options.config.port)
      (Options.publisher commandLine) :=
  ⟨givesUpIf_subscriber commandLine, givesUpIf_requester commandLine,
    givesUpIf_publisher commandLine⟩

/-- An octet that begins no character, in a name, behind a name, as an operand and as a filter:
none of it is explained. -/
theorem options_undecodable :
    let octet : Bytes := [0xFF]
    Options.publisher [Utf8.encode "pqpub", Utf8.encode "--" ++ octet] = .error .undecodable ∧
      Options.publisher [Utf8.encode "pqpub", Utf8.encode "--port", octet] = .error .undecodable ∧
      Options.requester [Utf8.encode "pqreq", octet] = .error .undecodable ∧
      Options.subscriber [Utf8.encode "pqsub", Utf8.encode "-f", octet] = .error .undecodable ∧
      ∀ app caller, ¬ Explained app caller .undecodable :=
  ⟨by decide +kernel, by decide +kernel, by decide +kernel, by decide +kernel, nofun⟩

end MessagingConsole.CommandLine
