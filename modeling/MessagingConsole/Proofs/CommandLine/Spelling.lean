import MessagingConsole.Proofs.CommandLine.RoundTrip

/-!
# Ways to spell a command line

A command line can be written in many ways that say the same.  What it says is a list of
*blocks*: a flag, a filter with its value, or an operand.  How it is written is a list of
*words*: a flag by its name, or flags as letters behind one dash, the last of which may be the
letter of the filter.

A scan only counts flags and filters and collects operands, so that nothing about the words is
left in what it understood, and about the order of the blocks no more than the order of the
operands.

## Main Definitions

- `Block` - what a part of a command line says, and `Word`, how it is written.
- `Scan.after` - what is understood after so many blocks.

## Main Results

- `Scan.arguments_line` - the scan of a written line is determined by its blocks.
- `subscriber_of_rearranged` - blocks in another order, written in another way.
-/

namespace MessagingConsole.CommandLine

/-! ## Blocks and words -/

/-- What a part of a command line says. -/
inductive Block where
  | verbose
  | timestamps
  | filter (value : Bytes)
  | operand (value : Bytes)
  deriving DecidableEq, Repr

/-- A switch that takes no value. -/
inductive Flag where
  | verbose
  | timestamps
  deriving DecidableEq, Repr

/-- A part of a command line as it is written. -/
inductive Word where
  /-- A flag by its name, as `--verbose`. -/
  | name (flag : Flag)
  /-- A filter by its name, as `--filter value`. -/
  | filterName (value : Bytes)
  /-- One flag or more by their letters, as `-v` or `-vt`. -/
  | letters (first : Flag) (others : List Flag)
  /-- A filter by its letter, behind those of any flags, as `-f value` or `-vf value`. -/
  | filterLetter (flags : List Flag) (value : Bytes)
  | operand (value : Bytes)
  deriving DecidableEq, Repr

namespace Flag

def switch : Flag → Switch
  | .verbose => verboseSwitch
  | .timestamps => timestampsSwitch

def block : Flag → Block
  | .verbose => .verbose
  | .timestamps => .timestamps

end Flag

/-- The octet of the letter of a switch. -/
def Switch.letter (s : Switch) : UInt8 := s.short.toNat.toUInt8

/-- The argument that gives the name of a switch. -/
def Switch.nameArgument (s : Switch) : Bytes := Utf8.encode ("--" ++ s.long)

namespace Word

/-- What a word says. -/
def blocks : Word → List Block
  | name flag => [flag.block]
  | filterName value => [.filter value]
  | letters first others => (first :: others).map Flag.block
  | filterLetter flags value => flags.map Flag.block ++ [.filter value]
  | operand value => [.operand value]

/-- The arguments of a word. -/
def arguments : Word → List Bytes
  | name flag => [flag.switch.nameArgument]
  | filterName value => [filterSwitch.nameArgument, value]
  | letters first others => [dash :: (first :: others).map (·.switch.letter)]
  | filterLetter flags value =>
    [dash :: (flags.map (·.switch.letter) ++ [filterSwitch.letter]), value]
  | operand value => [value]

end Word

namespace Block

/-- The value of a filter or an operand stands as an argument of its own. -/
def IsStandalone : Block → Prop
  | .filter value | .operand value => Standalone value
  | .verbose | .timestamps => True

instance : (block : Block) → Decidable block.IsStandalone
  | .filter value | .operand value => inferInstanceAs (Decidable (Standalone value))
  | .verbose | .timestamps => .isTrue trivial

def filter? : Block → Option Bytes
  | .filter value => some value
  | _ => none

def operand? : Block → Option Bytes
  | .operand value => some value
  | _ => none

end Block

/-- The arguments of words one after the other. -/
def line (words : List Word) : List Bytes := words.flatMap Word.arguments

/-- What words say one after the other. -/
def blocksOf (words : List Word) : List Block := words.flatMap Word.blocks

/-- The operands among blocks. -/
def operandsOf (blocks : List Block) : List Bytes := blocks.filterMap Block.operand?

/-- The filters among blocks. -/
def filtersOf (blocks : List Block) : List Bytes := blocks.filterMap Block.filter?

/-- A program knows a switch by its letter and by its name. -/
structure App.Knows (app : App) (s : Switch) : Prop where
  letter : app.switches.find? (·.short.toNat = s.letter.toNat) = some s
  name : app.switches.find? (fun candidate => Utf8.encode candidate.long = Utf8.encode s.long) =
    some s

/-- A program understands a block. -/
def App.Understands (app : App) : Block → Prop
  | .verbose => app.Knows verboseSwitch
  | .timestamps => app.Knows timestampsSwitch
  | .filter _ => app.Knows filterSwitch
  | .operand _ => True

theorem Flag.knows_of_understands {app : App} (flag : Flag) (known : app.Understands flag.block) :
    app.Knows flag.switch := by
  cases flag <;> exact known

/-! ## The scan -/

namespace Scan

/-- What is understood after so many blocks, if the operands among them are not too many. -/
def after (s : Scan) (blocks : List Block) : Scan :=
  { s with
    verbosity := s.verbosity + blocks.count .verbose
    timestamps := s.timestamps + blocks.count .timestamps
    filters := s.filters + (filtersOf blocks).length
    filterValues := s.filterValues ++ filtersOf blocks
    operands := s.operands ++ operandsOf blocks }

variable {app : App} {caller : Option String} {s : Scan} {later : List Bytes}

@[simp] theorem after_nil : s.after [] = s := by
  simp [after, filtersOf, operandsOf]

@[simp] theorem after_after (blocks more : List Block) :
    (s.after blocks).after more = s.after (blocks ++ more) := by
  simp [after, filtersOf, operandsOf, Nat.add_assoc]

/-- What is understood of blocks, unless the operands are too many. -/
def read (app : App) (s : Scan) (blocks : List Block) : Except Refusal Scan :=
  if (s.after blocks).operands.length ≤ app.operands.length then .ok (s.after blocks)
  else .error (.error (.usage app.usage))

/-- A scan that is not in the middle of anything. -/
structure Ready (app : App) (s : Scan) : Prop where
  waits : s.awaitsFilter = false
  switches : s.operandsOnly = false
  room : s.operands.length ≤ app.operands.length

theorem read_append (blocks more : List Block) :
    s.read app (blocks ++ more) = s.read app blocks >>= fun next => next.read app more := by
  have longer : (s.after blocks).operands.length ≤ (s.after (blocks ++ more)).operands.length := by
    rw [← after_after]
    show _ ≤ ((s.after blocks).operands ++ operandsOf more).length
    rw [List.length_append]
    exact Nat.le_add_right _ _
  unfold read
  by_cases fits : (s.after blocks).operands.length ≤ app.operands.length
  · rw [if_pos fits]
    show _ = if ((s.after blocks).after more).operands.length ≤ _ then _ else _
    rw [after_after]
  · rw [if_neg fits, if_neg (by omega)]
    rfl

/-- Blocks without operands are always understood. -/
theorem read_of_no_operand {blocks : List Block} (none : operandsOf blocks = [])
    (room : s.operands.length ≤ app.operands.length) :
    s.read app blocks = .ok (s.after blocks) := by
  refine if_pos ?_
  simpa [after, none] using room

theorem read_nil (room : s.operands.length ≤ app.operands.length) : s.read app [] = .ok s := by
  rw [read_of_no_operand rfl room, after_nil]

theorem Ready.of_read {next : Scan} {blocks : List Block} (ready : s.Ready app)
    (read : s.read app blocks = .ok next) : next.Ready app := by
  unfold Scan.read at read
  split at read
  case isTrue fits =>
    cases read
    exact ⟨ready.waits, ready.switches, fits⟩
  case isFalse => cases read

/-- A flag that is carried out is one block more. -/
theorem switch_flag (flag : Flag) (value : Option Bytes) (waits : s.awaitsFilter = false) :
    s.switch app caller flag.switch.effect value = .ok (s.after [flag.block]) := by
  obtain ⟨verbosity, timestamps, filters, filterValues, operands, awaitsFilter, operandsOnly⟩ := s
  cases waits
  cases flag <;> simp [switch, Flag.switch, Flag.block, verboseSwitch, timestampsSwitch, after,
    filtersOf, operandsOf, Block.filter?, Block.operand?]

theorem operandsOf_flags (flags : List Flag) : operandsOf (flags.map Flag.block) = [] := by
  refine List.filterMap_eq_nil_iff.mpr fun block mem => ?_
  obtain ⟨flag, -, rfl⟩ := List.mem_map.mp mem
  cases flag <;> rfl

/-- The letters of flags are carried out one after the other. -/
theorem letters_flags (flags : List Flag) (rest : Bytes) (waits : s.awaitsFilter = false)
    (known : ∀ flag ∈ flags, app.Knows flag.switch) :
    s.letters app caller (flags.map (·.switch.letter) ++ rest) =
      (s.after (flags.map Flag.block)).letters app caller rest := by
  induction flags generalizing s with
  | nil => simp
  | cons flag flags ih =>
    obtain ⟨knows, others⟩ := List.forall_mem_cons.mp known
    have valueless : flag.switch.value.isSome = false := by cases flag <;> rfl
    have waits' : (s.after [flag.block]).awaitsFilter = false := waits
    rw [List.map_cons, List.cons_append, Scan.letters, knows.letter]
    simp only [valueless, switch_flag flag none waits, Bool.false_eq_true, if_false]
    rw [ih waits' others, after_after]
    rfl

/-- The letter of the filter leaves its value to the next argument. -/
theorem letters_filter (known : app.Knows filterSwitch) :
    s.letters app caller [filterSwitch.letter] = .ok (s.announceFilter none) := by
  rw [Scan.letters, known.letter]
  rfl

/-- A name is read as the switch that it names. -/
theorem argument_name {found : Switch} (ready : s.Ready app) (known : app.Knows found)
    (shape : Shape.of found.nameArgument = .long (Utf8.encode found.long) none) :
    s.argument app caller found.nameArgument later = s.switch app caller found.effect none := by
  unfold argument
  rw [ready.switches, shape]
  simp [name, known.name]

theorem argument_letters {letters : Bytes} (ready : s.Ready app) (any : letters ≠ [])
    (letter : letters.head? ≠ some dash) :
    s.argument app caller (dash :: letters) later = s.letters app caller letters := by
  obtain ⟨b, rest, rfl⟩ := List.exists_cons_of_ne_nil any
  have letter : b ≠ dash := fun same => letter (congrArg Option.some same)
  unfold argument
  rw [ready.switches, shape_of_letters letter]
  simp

/-- The value that a filter is waiting for. -/
theorem argument_filterValue {value : Bytes} (ready : s.Ready app) (alone : Standalone value) :
    (s.announceFilter none).argument app caller value later = .ok (s.after [.filter value]) := by
  obtain ⟨verbosity, timestamps, filters, filterValues, operands, awaitsFilter, operandsOnly⟩ := s
  cases ready.waits
  cases ready.switches
  simp [argument, shape_of_standalone alone, announceFilter, after, filtersOf, operandsOf,
    Block.filter?, Block.operand?]

/-- An operand is one block more. -/
theorem operand_eq_read (value : Bytes) : s.operand app value = s.read app [.operand value] := by
  unfold operand read
  have room : (s.after [.operand value]).operands.length = s.operands.length + 1 := by
    simp [after, operandsOf, Block.operand?]
  rw [room]
  split
  · rw [if_pos (by omega)]
    simp [after, filtersOf, operandsOf, Block.filter?, Block.operand?]
  · rw [if_neg (by omega)]

/-- Flags as letters behind one dash. -/
theorem argument_flags (first : Flag) (others : List Flag) (ready : s.Ready app)
    (knows : ∀ flag ∈ first :: others, app.Knows flag.switch) :
    s.argument app caller (dash :: (first :: others).map (·.switch.letter)) later =
      .ok (s.after ((first :: others).map Flag.block)) := by
  have letter : first.switch.letter ≠ dash := by cases first <;> decide
  have carried := @letters_flags app caller s (first :: others) [] ready.waits knows
  rw [List.append_nil] at carried
  exact (argument_letters ready (List.cons_ne_nil _ _) (by simpa using letter)).trans carried

/-- Flags and the filter as letters behind one dash, and the value in the next argument. -/
theorem arguments_flags_filter (flags : List Flag) {value : Bytes} (ready : s.Ready app)
    (knows : ∀ flag ∈ flags, app.Knows flag.switch) (knowsFilter : app.Knows filterSwitch)
    (alone : Standalone value) :
    s.arguments app caller
        ((dash :: (flags.map (·.switch.letter) ++ [filterSwitch.letter])) :: value :: later) =
      (s.after (flags.map Flag.block ++ [.filter value])).arguments app caller later := by
  have any : flags.map (·.switch.letter) ++ [filterSwitch.letter] ≠ [] := by simp
  have letter : (flags.map (·.switch.letter) ++ [filterSwitch.letter]).head? ≠ some dash := by
    cases flags with
    | nil => decide
    | cons first others => cases first <;> simp [Flag.switch] <;> decide
  have ready' : (s.after (flags.map Flag.block)).Ready app :=
    ready.of_read (read_of_no_operand (operandsOf_flags flags) ready.room)
  have announced : s.argument app caller
      (dash :: (flags.map (·.switch.letter) ++ [filterSwitch.letter])) (value :: later) =
      .ok ((s.after (flags.map Flag.block)).announceFilter none) := by
    rw [argument_letters ready any letter, letters_flags flags _ ready.waits knows,
      letters_filter knowsFilter]
  have given := @argument_filterValue app caller _ later value ready' alone
  rw [after_after] at given
  exact (arguments_cons announced).trans (arguments_cons given)

/-- A word that is no operand is understood if its arguments are. -/
theorem arguments_of_after {word : Word} (ready : s.Ready app)
    (none : operandsOf word.blocks = [])
    (read : s.arguments app caller (word.arguments ++ later) =
      (s.after word.blocks).arguments app caller later) :
    s.arguments app caller (word.arguments ++ later) =
      s.read app word.blocks >>= fun next => next.arguments app caller later := by
  rw [read, read_of_no_operand none ready.room]
  rfl

/-- **One word** is scanned as the blocks that it says. -/
theorem arguments_word (word : Word) (ready : s.Ready app)
    (known : ∀ block ∈ word.blocks, app.Understands block)
    (alone : ∀ block ∈ word.blocks, block.IsStandalone) :
    s.arguments app caller (word.arguments ++ later) =
      s.read app word.blocks >>= fun next => next.arguments app caller later := by
  cases word with
  | name flag =>
    have knows : app.Knows flag.switch := flag.knows_of_understands (known _ List.mem_cons_self)
    have shape : Shape.of flag.switch.nameArgument = .long (Utf8.encode flag.switch.long) none := by
      cases flag <;> decide
    have read : s.argument app caller flag.switch.nameArgument later =
        .ok (s.after [flag.block]) :=
      (argument_name ready knows shape).trans (switch_flag flag none ready.waits)
    exact arguments_of_after ready (operandsOf_flags [flag]) (arguments_cons read)
  | filterName value =>
    have knows : app.Knows filterSwitch := known _ List.mem_cons_self
    have announced : s.argument app caller filterSwitch.nameArgument (value :: later) =
        .ok (s.announceFilter none) := argument_name ready knows (by decide)
    have given := @argument_filterValue app caller s later value ready (alone _ List.mem_cons_self)
    exact arguments_of_after ready rfl ((arguments_cons announced).trans (arguments_cons given))
  | letters first others =>
    have knows (flag : Flag) (mem : flag ∈ first :: others) : app.Knows flag.switch :=
      flag.knows_of_understands (known _ (List.mem_map_of_mem mem))
    exact arguments_of_after ready (operandsOf_flags _)
      (arguments_cons (argument_flags first others ready knows))
  | filterLetter flags value =>
    have knows (flag : Flag) (mem : flag ∈ flags) : app.Knows flag.switch :=
      flag.knows_of_understands
        (known _ (List.mem_append_left _ (List.mem_map_of_mem mem)))
    have knowsFilter : app.Knows filterSwitch :=
      known _ (List.mem_append_right _ List.mem_cons_self)
    have standalone : Standalone value := alone _ (List.mem_append_right _ List.mem_cons_self)
    refine arguments_of_after ready ?_
      (arguments_flags_filter flags ready knows knowsFilter standalone)
    show operandsOf (flags.map Flag.block ++ [.filter value]) = []
    rw [operandsOf, List.filterMap_append]
    exact congrArg (· ++ []) (operandsOf_flags flags)
  | operand value =>
    have standalone : Standalone value := alone _ List.mem_cons_self
    have read : s.argument app caller value later = s.read app [.operand value] := by
      unfold argument
      rw [ready.switches, shape_of_standalone standalone, ready.waits]
      exact operand_eq_read value
    show s.arguments app caller (value :: later) =
      s.read app [.operand value] >>= fun next => next.arguments app caller later
    rw [arguments, read]
    cases s.read app [.operand value] <;> rfl

/-- **A written line** is scanned as the blocks that it says, whatever comes behind it. -/
theorem arguments_line (words : List Word) (ready : s.Ready app)
    (known : ∀ block ∈ blocksOf words, app.Understands block)
    (alone : ∀ block ∈ blocksOf words, block.IsStandalone) :
    s.arguments app caller (line words ++ later) =
      s.read app (blocksOf words) >>= fun next => next.arguments app caller later := by
  induction words generalizing s with
  | nil =>
    show s.arguments app caller later = s.read app [] >>= _
    rw [read_nil ready.room]
    rfl
  | cons word words ih =>
    obtain ⟨knowsWord, knows⟩ := List.forall_mem_append.mp known
    obtain ⟨aloneWord, alone⟩ := List.forall_mem_append.mp alone
    have first := @arguments_word app caller s (line words ++ later) word ready knowsWord aloneWord
    show s.arguments app caller ((word.arguments ++ line words) ++ later) =
      s.read app (word.blocks ++ blocksOf words) >>= _
    rw [List.append_assoc, first, read_append]
    cases read : s.read app word.blocks with
    | error refusal => rfl
    | ok next => exact ih (ready.of_read read) knows alone

end Scan

variable {app : App} {program : Bytes} {words words' : List Word}

/-- The scan of a command line that is written in words.  What is refused, at an operand too
many or when the whole line was read, is answered by the usage line. -/
theorem scan_line (known : ∀ block ∈ blocksOf words, app.Understands block)
    (alone : ∀ block ∈ blocksOf words, block.IsStandalone) :
    app.scan (program :: line words) =
      if (Scan.start.after (blocksOf words)).operands.length ≤ app.operands.length ∧
          (Scan.start.after (blocksOf words)).isComplete app then
        .ok (Scan.start.after (blocksOf words))
      else .error (.error (.usage app.usage)) := by
  have ready : Scan.start.Ready app := ⟨rfl, rfl, Nat.zero_le _⟩
  have scanned := @Scan.arguments_line app (calledBy program) _ [] words ready known alone
  rw [List.append_nil] at scanned
  show Scan.start.arguments app (calledBy program) (line words) >>= _ = _
  rw [scanned, Scan.read]
  by_cases fits : (Scan.start.after (blocksOf words)).operands.length ≤ app.operands.length
  · rw [if_pos fits]
    simp only [fits, true_and]
    rfl
  · rw [if_neg fits, if_neg fun both => fits both.1]
    rfl

/-! ## Other orders and other words -/

section Rearranged

variable {blocks blocks' : List Block}

/-- Where there is one filter at most, the order of the blocks says nothing about filters. -/
theorem filtersOf_eq (same : blocks.Perm blocks') (few : (filtersOf blocks).length ≤ 1) :
    filtersOf blocks = filtersOf blocks' := by
  have filters : (filtersOf blocks).Perm (filtersOf blocks') := same.filterMap _
  match filtersOf blocks, few, filters with
  | [], _, filters => exact (List.nil_perm.mp filters).symm
  | [value], _, filters => exact (List.perm_singleton.mp filters.symm).symm

/-- Blocks are understood alike in any order that keeps the one of the operands. -/
theorem Scan.after_eq_of_perm (s : Scan) (same : blocks.Perm blocks')
    (operands : operandsOf blocks = operandsOf blocks') (few : (filtersOf blocks).length ≤ 1) :
    s.after blocks = s.after blocks' := by
  unfold Scan.after
  rw [same.count_eq, same.count_eq, filtersOf_eq same few, operands]

/-- Filters whose order could be told are too many. -/
theorem Scan.not_isComplete_of_many (many : 1 < (filtersOf blocks).length) :
    ¬ (Scan.start.after blocks).isComplete app := by
  have more : ¬ (Scan.start.after blocks).filters ≤ 1 := by
    show ¬ 0 + (filtersOf blocks).length ≤ 1
    omega
  simp [isComplete, more]

end Rearranged

/-- **Blocks in another order, written in another way, are scanned alike.** -/
theorem scan_of_rearranged (known : ∀ block ∈ blocksOf words, app.Understands block)
    (alone : ∀ block ∈ blocksOf words, block.IsStandalone)
    (same : (blocksOf words).Perm (blocksOf words'))
    (operands : operandsOf (blocksOf words) = operandsOf (blocksOf words')) :
    app.scan (program :: line words') = app.scan (program :: line words) := by
  have known' (block : Block) (mem : block ∈ blocksOf words') : app.Understands block :=
    known block (same.mem_iff.mpr mem)
  have alone' (block : Block) (mem : block ∈ blocksOf words') : block.IsStandalone :=
    alone block (same.mem_iff.mpr mem)
  rw [scan_line known alone, scan_line known' alone']
  by_cases few : (filtersOf (blocksOf words)).length ≤ 1
  · rw [Scan.start.after_eq_of_perm same operands few]
  · have many : 1 < (filtersOf (blocksOf words)).length := Nat.lt_of_not_le few
    have many' : 1 < (filtersOf (blocksOf words')).length := by
      have length := (same.filterMap Block.filter?).length_eq
      exact length ▸ many
    rw [if_neg fun both => Scan.not_isComplete_of_many many' both.2,
      if_neg fun both => Scan.not_isComplete_of_many many both.2]

/-- The level of a subscriber is the one that its scan asks for. -/
theorem exists_scan_of_subscriber {commandLine : List Bytes} {options : Options Subscription}
    (read : Options.subscriber commandLine = .ok options) :
    ∃ scan, App.subscriber.scan commandLine = .ok scan ∧ options.logLevel = scan.logLevel := by
  unfold Options.subscriber at read
  cases scanned : App.subscriber.scan commandLine with
  | error refusal =>
    rw [scanned] at read
    cases read
  | ok scan =>
    rw [scanned] at read
    refine ⟨scan, rfl, ?_⟩
    simp only [bind, Except.bind] at read
    split at read
    case h_1 => cases read
    case h_2 =>
      split at read
      case h_1 => cases read
      case h_2 =>
        cases read
        rfl

theorem understands_subscriber (block : Block) : App.subscriber.Understands block := by
  cases block with
  | verbose | timestamps | filter => exact ⟨by decide, by decide⟩
  | operand value => trivial

/-- **The order and the spelling of flags do not matter.**  Take what a command line of a
subscriber says, block by block, in any order that keeps the one of the operands, and write it
in words, by names or by letters: the options are the same, or the refusal is.  The log level is
given by the number of blocks that ask for more detail. -/
theorem subscriber_of_rearranged (program : Bytes) (words words' : List Word)
    (alone : ∀ block ∈ blocksOf words, block.IsStandalone)
    (same : (blocksOf words).Perm (blocksOf words'))
    (operands : operandsOf (blocksOf words) = operandsOf (blocksOf words')) :
    Options.subscriber (program :: line words') = Options.subscriber (program :: line words) ∧
      ∀ options, Options.subscriber (program :: line words) = .ok options →
        options.logLevel = .ofVerbosity ((blocksOf words).count .verbose) := by
  have known (block : Block) (_ : block ∈ blocksOf words) := understands_subscriber block
  refine ⟨?_, fun options read => ?_⟩
  · unfold Options.subscriber
    rw [scan_of_rearranged known alone same operands]
  · obtain ⟨scan, scanned, level⟩ := exists_scan_of_subscriber read
    rw [scan_line known alone] at scanned
    split at scanned
    case isTrue =>
      cases scanned
      rw [level, Scan.logLevel, Scan.after]
      exact congrArg Log.Level.ofVerbosity (Nat.zero_add _)
    case isFalse => cases scanned

/-- Five blocks in two orders, each written in other words. -/
theorem subscriber_of_rearranged_weather :
    let words := [Word.filterLetter [.timestamps, .verbose] (Utf8.encode "weather"),
      .operand (Utf8.encode "7000"), .name .verbose]
    let words' := [Word.letters .verbose [.verbose], .operand (Utf8.encode "7000"),
      .filterName (Utf8.encode "weather"), .name .timestamps]
    line words = ["-tvf", "weather", "7000", "--verbose"].map Utf8.encode ∧
      line words' = ["-vv", "7000", "--filter", "weather", "--timestamps"].map Utf8.encode ∧
      Options.subscriber (Utf8.encode "pqsub" :: line words') =
        Options.subscriber (Utf8.encode "pqsub" :: line words) ∧
      Options.subscriber (Utf8.encode "pqsub" :: line words) =
        .ok ⟨⟨⟨"localhost", 7000⟩, ⟨"weather"⟩, .timestamped⟩, .debug⟩ := by
  intro words words'
  have alone : ∀ block ∈ blocksOf words, block.IsStandalone := by decide +kernel
  obtain ⟨same, -⟩ := subscriber_of_rearranged (Utf8.encode "pqsub") words words' alone
    (by decide +kernel) (by decide +kernel)
  exact ⟨by decide +kernel, by decide +kernel, same, by rfl⟩

end MessagingConsole.CommandLine
