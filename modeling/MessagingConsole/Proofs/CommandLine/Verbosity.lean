import MessagingConsole.CommandLine.Options

/-!
# Asking for more detail

How often more detail is asked for is a number that the scan of a command line only counts:
no argument is understood differently because of it, and no argument is refused.  So an
argument `-v` in front of all others is counted and otherwise changes nothing.

## Main Definitions

- `Scan.louder` - the same scan, with one more request for detail.
- `Louder` - the outcomes of two command lines of which one asks for more detail.

## Main Results

- `scan_verbose` - what `-v` does in front of all other arguments.
- `louder_subscriber`, `louder_requester`, `louder_publisher` - and what follows for the options.
-/

namespace MessagingConsole.CommandLine

variable {app : App} {caller : Option String} {name : Bytes} {arguments : List Bytes}

/-- The argument that asks for more detail. -/
def verboseArgument : Bytes := Utf8.encode "-v"

/-- What was understood, with one more request for detail. -/
def Scan.louder (s : Scan) : Scan :=
  { s with verbosity := s.verbosity + 1 }

namespace Scan

variable {s : Scan}

theorem switch_louder (effect : Effect) (value : Option Bytes) :
    s.louder.switch app caller effect value =
      (s.switch app caller effect value).map louder := by
  cases effect with
  | filter => cases value <;> rfl
  | _ => rfl

theorem letters_louder (letters : Bytes) :
    s.louder.letters app caller letters = (s.letters app caller letters).map louder := by
  induction letters generalizing s with
  | nil => rfl
  | cons b rest ih =>
    unfold Scan.letters
    split
    case h_1 => rfl
    case h_2 found _ =>
      split
      case isTrue => exact switch_louder ..
      case isFalse =>
        rw [switch_louder]
        cases s.switch app caller found.effect none with
        | ok s => exact ih
        | error refusal => rfl

theorem name_louder (switch : Bytes) (value : Option Bytes) (later : List Bytes) :
    Scan.name app caller s.louder switch value later =
      (Scan.name app caller s switch value later).map louder := by
  unfold Scan.name
  split
  case h_1 => exact switch_louder ..
  case h_2 => split <;> rfl

theorem operand_louder (argument : Bytes) :
    s.louder.operand app argument = (s.operand app argument).map louder := by
  unfold Scan.operand
  have same : s.louder.operands = s.operands := rfl
  rw [same]
  split <;> rfl

/-- **No argument is understood differently because of how much detail is asked for.** -/
theorem argument_louder (argument : Bytes) (later : List Bytes) :
    s.louder.argument app caller argument later =
      (s.argument app caller argument later).map louder := by
  unfold Scan.argument
  have only : s.louder.operandsOnly = s.operandsOnly := rfl
  have awaits : s.louder.awaitsFilter = s.awaitsFilter := rfl
  rw [only, awaits]
  split
  case isTrue => exact operand_louder argument
  case isFalse =>
    split
    case h_1 => rfl
    case h_2 => exact name_louder ..
    case h_3 => exact letters_louder _
    case h_4 =>
      split
      case isTrue => rfl
      case isFalse => exact operand_louder argument

theorem arguments_louder (arguments : List Bytes) :
    s.louder.arguments app caller arguments = (s.arguments app caller arguments).map louder := by
  induction arguments generalizing s with
  | nil => rfl
  | cons argument later ih =>
    unfold Scan.arguments
    rw [argument_louder]
    cases s.argument app caller argument later with
    | ok s => exact ih
    | error refusal => rfl

/-- The argument itself is counted, where the letter is known as that of the switch. -/
theorem argument_verbose (later : List Bytes) (switches : s.operandsOnly = false)
    (waits : s.awaitsFilter = false)
    (known : app.switches.find? (·.short.toNat = 'v'.toNat) = some verboseSwitch) :
    s.argument app caller verboseArgument later = .ok s.louder := by
  have letters : s.letters app caller [118] = .ok s.louder := by
    obtain ⟨verbosity, timestamps, filters, filterValues, operands, _, _⟩ := s
    cases waits
    unfold Scan.letters
    have same : app.switches.find? (·.short.toNat = (118 : UInt8).toNat) = some verboseSwitch :=
      known
    rw [same]
    rfl
  have shape : Shape.of verboseArgument = .short [118] := by decide
  rw [Scan.argument, switches, shape]
  exact letters

end Scan

/-- **What `-v` does in front of all other arguments.** -/
theorem scan_verbose
    (known : app.switches.find? (·.short.toNat = 'v'.toNat) = some verboseSwitch) :
    app.scan (name :: verboseArgument :: arguments) =
      (app.scan (name :: arguments)).map Scan.louder := by
  have counted (caller : Option String) :
      Scan.start.arguments app caller (verboseArgument :: arguments) =
        (Scan.start.arguments app caller arguments).map Scan.louder := by
    rw [Scan.arguments, Scan.argument_verbose arguments rfl rfl known]
    exact Scan.arguments_louder arguments
  unfold App.scan
  rw [List.tail_cons, List.tail_cons, counted]
  show (Scan.start.arguments app (calledBy name) arguments).map Scan.louder >>= _ =
    Except.map _ (Scan.start.arguments app (calledBy name) arguments >>= _)
  -- What is looked at when the scan has ended does not depend on the count either.
  cases Scan.start.arguments app (calledBy name) arguments with
  | error refusal => rfl
  | ok scan =>
    have same : scan.louder.isComplete app = scan.isComplete app := rfl
    show (if scan.louder.isComplete app then _ else _) = Except.map _ (if _ then _ else _)
    rw [same]
    split <;> rfl

/-! ## Options -/

/-- How the options of a command line change when it asks for more detail: they are refused
alike, or only the level is another one. -/
inductive Louder {α : Type} (scanned : Except Refusal Scan) :
    Except Refusal (Options α) → Except Refusal (Options α) → Prop
  | refused (refusal : Refusal) : Louder scanned (.error refusal) (.error refusal)
  | read {scan : Scan} (config : α) (read : scanned = .ok scan) :
      Louder scanned (.ok ⟨config, .ofVerbosity scan.verbosity⟩)
        (.ok ⟨config, .ofVerbosity (scan.verbosity + 1)⟩)

/-- Values are read alike on both sides. -/
theorem Louder.bind {α β : Type} {scanned : Except Refusal Scan} (reading : Except Refusal β)
    {next louder : β → Except Refusal (Options α)}
    (later : ∀ value, Louder scanned (next value) (louder value)) :
    Louder scanned (reading >>= next) (reading >>= louder) := by
  cases reading with
  | ok value => exact later value
  | error refusal => exact .refused refusal

theorem louder_subscriber :
    Louder (App.subscriber.scan (name :: arguments)) (Options.subscriber (name :: arguments))
      (Options.subscriber (name :: verboseArgument :: arguments)) := by
  unfold Options.subscriber
  rw [scan_verbose (by decide)]
  cases read : App.subscriber.scan (name :: arguments) with
  | error refusal => exact .refused refusal
  | ok scan =>
    change Louder _ (valueOf scan.operands[0]? _ _ >>= _) (valueOf scan.operands[0]? _ _ >>= _)
    exact .bind _ fun endpoint => .bind _ fun filter => .read _ rfl

theorem louder_requester :
    Louder (App.requester.scan (name :: arguments)) (Options.requester (name :: arguments))
      (Options.requester (name :: verboseArgument :: arguments)) := by
  unfold Options.requester
  rw [scan_verbose (by decide)]
  cases read : App.requester.scan (name :: arguments) with
  | error refusal => exact .refused refusal
  | ok scan =>
    change Louder _ (valueOf scan.operands[0]? _ _ >>= _) (valueOf scan.operands[0]? _ _ >>= _)
    exact .bind _ fun host => .bind _ fun port => .read _ rfl

theorem louder_publisher :
    Louder (App.publisher.scan (name :: arguments)) (Options.publisher (name :: arguments))
      (Options.publisher (name :: verboseArgument :: arguments)) := by
  unfold Options.publisher
  rw [scan_verbose (by decide)]
  cases read : App.publisher.scan (name :: arguments) with
  | error refusal => exact .refused refusal
  | ok scan =>
    change Louder _ (textOf (scan.operands[0]?.getD []) >>= _)
      (textOf (scan.operands[0]?.getD []) >>= _)
    exact .bind _ fun text => .bind _ fun port => .read _ rfl

/-- From three requests on the level is the same. -/
theorem Louder.eq_of_verbose {α : Type} {scanned : Except Refusal Scan}
    {fewer more : Except Refusal (Options α)} (louder : Louder scanned fewer more)
    (verbose : ∀ scan, scanned = .ok scan → 3 ≤ scan.verbosity) : more = fewer := by
  cases louder with
  | refused refusal => rfl
  | @read scan config read =>
    obtain ⟨extra, count⟩ := Nat.exists_eq_add_of_le' (verbose scan read)
    rw [count]
    rfl

end MessagingConsole.CommandLine
