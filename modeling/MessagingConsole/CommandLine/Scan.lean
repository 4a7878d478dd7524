import MessagingConsole.CommandLine.App
import MessagingConsole.Error
import MessagingConsole.FileTree

/-!
# Scanning a command line

Arguments are read from left to right.  Help, version, unknown switches and operands too
many end the scan where they stand; what only the whole command line shows, as a switch
given twice, is looked at when the scan has ended.

## Main Definitions

- `Scan` - what was understood so far.
- `Scan.argument` - one more argument.
- `App.scan` - a whole command line.
-/

namespace MessagingConsole.CommandLine

/-- Why a command line does not lead to a run. -/
inductive Refusal where
  | error (error : Error)
  /-- An argument that had to be shown or used as a text is not UTF-8. -/
  | undecodable
  deriving DecidableEq, Repr

/-- What was understood of a command line. -/
structure Scan where
  /-- How often more detail was asked for. -/
  verbosity : Nat
  /-- How often timestamps were asked for. -/
  timestamps : Nat
  /-- How often a filter was announced. -/
  filters : Nat
  /-- The filters that were given. -/
  filterValues : List Bytes
  operands : List Bytes
  /-- Whether a filter was announced by the last argument and is still to come. -/
  awaitsFilter : Bool
  /-- Whether everything from here on is an operand. -/
  operandsOnly : Bool
  deriving DecidableEq, Repr

/-- The octet that switches begin with. -/
def dash : UInt8 := 45

/-- The octet between a switch and its value. -/
def equals : UInt8 := 61

/-- How an argument is read where switches may stand. -/
inductive Shape where
  /-- The argument `--`. -/
  | endOfSwitches
  /-- Two dashes or more and a name, which may be followed by a value. -/
  | long (name : Bytes) (value : Option Bytes)
  /-- A dash and letters. -/
  | short (letters : Bytes)
  /-- A value or an operand. -/
  | plain
  deriving DecidableEq, Repr

/-- The shape of an argument.  A dash alone is plain. -/
def Shape.of (argument : Bytes) : Shape :=
  match argument with
  | 45 :: 45 :: [] => .endOfSwitches
  | 45 :: 45 :: rest =>
    let text := rest.dropWhile (· = dash)
    match text.span (· ≠ equals) with
    | (name, []) => .long name none
    | (name, _ :: value) => .long name (some value)
  | 45 :: b :: rest => .short (b :: rest)
  | _ => .plain

namespace Scan

/-- Nothing was understood yet. -/
def start : Scan :=
  { verbosity := 0, timestamps := 0, filters := 0, filterValues := [], operands := []
    awaitsFilter := false, operandsOnly := false }

/-- A value that follows its switch directly: all `=` in front are dropped. -/
def attached (value : Bytes) : Bytes :=
  value.dropWhile (· = equals)

/-- A filter was announced, and perhaps given. -/
def announceFilter (s : Scan) : Option Bytes → Scan
  | some value =>
    { s with
      filters := s.filters + 1, filterValues := s.filterValues ++ [attached value]
      awaitsFilter := false }
  | none => { s with filters := s.filters + 1, awaitsFilter := true }

/-- Carries out a switch; `value` is what follows it directly. -/
def switch (app : App) (calledBy : Option String) (s : Scan) (effect : Effect)
    (value : Option Bytes) : Except Refusal Scan :=
  match effect with
  | .help => .error (.error (.notice (.help (app.helpText calledBy))))
  | .version => .error (.error (.notice (.version (app.versionLine calledBy))))
  | .verbose => .ok { s with verbosity := s.verbosity + 1, awaitsFilter := false }
  | .timestamps => .ok { s with timestamps := s.timestamps + 1, awaitsFilter := false }
  | .filter => .ok (s.announceFilter value)

/-- The letters after a dash, one switch each, until one takes the rest as its value.
Octets that are no letter are unknown. -/
def letters (app : App) (calledBy : Option String) (s : Scan) : Bytes → Except Refusal Scan
  | [] => .ok s
  | b :: rest =>
    match app.switches.find? (·.short.toNat = b.toNat) with
    | none => .error (.error (.usage app.usage))
    | some found =>
      if found.value.isSome then
        s.switch app calledBy found.effect (if rest.isEmpty then none else some rest)
      else match s.switch app calledBy found.effect none with
        | .ok s => letters app calledBy s rest
        | .error refusal => .error refusal

/-- A name after two dashes.  An unknown one is explained to the user together with all
arguments after it, which have to be texts for that. -/
def name (app : App) (calledBy : Option String) (s : Scan) (name : Bytes)
    (value : Option Bytes) (later : List Bytes) : Except Refusal Scan :=
  match app.switches.find? (fun candidate => Utf8.encode candidate.long = name) with
  | some found => s.switch app calledBy found.effect value
  | none =>
    if (name :: later).all (fun argument => (Utf8.decode? argument).isSome) then
      .error (.error (.usage app.usage))
    else .error .undecodable

/-- An argument that is told by its place. -/
def operand (app : App) (s : Scan) (argument : Bytes) : Except Refusal Scan :=
  if s.operands.length < app.operands.length then
    .ok { s with operands := s.operands ++ [argument] }
  else .error (.error (.usage app.usage))

/-- Reads one argument; `later` are those that follow it. -/
def argument (app : App) (calledBy : Option String) (s : Scan) (argument : Bytes)
    (later : List Bytes) : Except Refusal Scan :=
  if s.operandsOnly then s.operand app argument
  else match Shape.of argument with
    | .endOfSwitches => .ok { s with operandsOnly := true }
    | .long name value => Scan.name app calledBy s name value later
    | .short letters => s.letters app calledBy letters
    | .plain =>
      if s.awaitsFilter then
        .ok { s with filterValues := s.filterValues ++ [argument], awaitsFilter := false }
      else s.operand app argument

/-- Reads the arguments one after the other. -/
def arguments (app : App) (calledBy : Option String) (s : Scan) :
    List Bytes → Except Refusal Scan
  | [] => .ok s
  | argument :: later =>
    match s.argument app calledBy argument later with
    | .ok s => s.arguments app calledBy later
    | .error refusal => .error refusal

/-- Whether a command line that was read to its end can be used: timestamps and filter
at most once, every filter with its value, and no required operand missing. -/
def isComplete (app : App) (s : Scan) : Bool :=
  s.timestamps ≤ 1 && s.filters ≤ 1 && s.filters == s.filterValues.length &&
    (app.operands.filter (·.required)).length ≤ s.operands.length

end Scan

/-- The name that a program was called by: the last component of its path, if there is
one and it is UTF-8. -/
def calledBy (argument : Bytes) : Option String :=
  match ((Path.parts argument).filter fun part => part ≠ [] ∧ part ≠ Path.here).getLast? with
  | some name => if name = Path.above then none else Utf8.decode? name
  | none => none

/-- Scans a command line, the name of the program first. -/
def App.scan (app : App) (commandLine : List Bytes) : Except Refusal Scan := do
  let scan ← Scan.start.arguments app (commandLine.head?.bind calledBy) commandLine.tail
  if scan.isComplete app then return scan else throw (.error (.usage app.usage))

end MessagingConsole.CommandLine
