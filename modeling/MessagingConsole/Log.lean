import MessagingConsole.Text.Numeral

/-!
# Log records

Levels, records and loggers.  A logger adds its context to every record and keeps
those that are below its threshold; `Record.line` is the form in which a record is
printed.
-/

namespace MessagingConsole.Log

/-- How grave a record is, the gravest first. -/
inductive Level where
  | critical
  | error
  | warning
  | info
  | debug
  | trace
  deriving DecidableEq, Repr

/-- The place of a level in the order of gravity. -/
def Level.rank : Level → Nat
  | .critical => 0
  | .error => 1
  | .warning => 2
  | .info => 3
  | .debug => 4
  | .trace => 5

/-- The name of a level. -/
def Level.name : Level → String
  | .critical => "CRITICAL"
  | .error => "ERROR"
  | .warning => "WARNING"
  | .info => "INFO"
  | .debug => "DEBUG"
  | .trace => "TRACE"

/-- The four letters that stand for a level in a printed record. -/
def Level.shortName : Level → String
  | .critical => "CRIT"
  | .error => "ERRO"
  | .warning => "WARN"
  | .info => "INFO"
  | .debug => "DEBG"
  | .trace => "TRCE"

/-- The level that so many requests for more detail ask for. -/
def Level.ofVerbosity : Nat → Level
  | 0 => .warning
  | 1 => .info
  | 2 => .debug
  | _ => .trace

/-- A named value of a record. -/
abbrev Pair := String × String

/-- A record: its pairs are those of the context, outermost first, and then its own. -/
structure Record where
  level : Level
  message : String
  pairs : List Pair
  deriving DecidableEq, Repr

/-- A record as it is printed, after the stamp of its time: the message, unless it is
empty, and the pairs from the last to the first. -/
def Record.line (r : Record) (stamp : String) : String :=
  let message := if r.message.isEmpty then [] else [r.message]
  let pairs := r.pairs.reverse.map fun (key, value) => key ++ ": " ++ value
  stamp ++ " " ++ r.level.shortName ++ " " ++ ", ".intercalate (message ++ pairs)

/-- What is done with records: those down to the threshold are kept, and the context is
added to each.  Without a threshold none is kept. -/
structure Logger where
  threshold : Option Level
  context : List Pair
  deriving DecidableEq, Repr

namespace Logger

/-- The logger that keeps nothing. -/
def silent : Logger := ⟨none, []⟩

/-- The logger of a program. -/
def root (threshold : Level) (app : String) : Logger :=
  ⟨some threshold, [("app", app), ("build-id", "0.1.0")]⟩

/-- The logger with more context. -/
def child (logger : Logger) (pairs : List Pair) : Logger :=
  { logger with context := logger.context ++ pairs }

/-- Whether records of a level are kept. -/
def keeps (logger : Logger) (level : Level) : Bool :=
  match logger.threshold with
  | some threshold => level.rank ≤ threshold.rank
  | none => false

/-- A record with the context of a logger. -/
def record (logger : Logger) (level : Level) (message : String) (pairs : List Pair) : Record :=
  ⟨level, message, logger.context ++ pairs⟩

end Logger

end MessagingConsole.Log
