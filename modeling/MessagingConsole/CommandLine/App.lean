import MessagingConsole.Text.Utf8

/-!
# Programs and their command lines

What a program understands on its command line: switches and operands, each with the
help that is shown for it.

## Main Definitions

- `App` - a command line as data, and the three of them.
- `App.helpText`, `App.versionLine` - the notices a user can ask for.
-/

namespace MessagingConsole.CommandLine

/-- What a switch asks for. -/
inductive Effect where
  | help
  | version
  | verbose
  | timestamps
  | filter
  deriving DecidableEq, Repr

/-- A switch: a letter after one dash, or a name after two.  One with a value name
takes a value. -/
structure Switch where
  short : Char
  long : String
  value : Option String
  effect : Effect
  help : String
  deriving DecidableEq, Repr

/-- An argument that is told by its place. -/
structure Operand where
  name : String
  required : Bool
  help : String
  deriving DecidableEq, Repr

/-- What a program understands. -/
structure App where
  name : String
  about : String
  /-- The line shown when it was not understood. -/
  usage : String
  switches : List Switch
  operands : List Operand
  deriving DecidableEq, Repr

/-- Asks for help. -/
def helpSwitch : Switch := ⟨'h', "help", none, .help, "Prints help information"⟩

/-- Asks for the time of arrival in front of messages. -/
def timestampsSwitch : Switch :=
  ⟨'t', "timestamps", none, .timestamps, "Prefix each message with its arrival time"⟩

/-- Asks for the version. -/
def versionSwitch : Switch := ⟨'V', "version", none, .version, "Prints version information"⟩

/-- Asks for more detail in the log. -/
def verboseSwitch : Switch :=
  ⟨'v', "verbose", none, .verbose, "Log more detail to stderr (repeat for more)"⟩

/-- Gives the filter of a subscriber. -/
def filterSwitch : Switch :=
  ⟨'f', "filter", some "TOPIC", .filter, "Only print messages whose topic starts with TOPIC"⟩

namespace App

/-- The subscriber. -/
def subscriber : App where
  name := "pqsub"
  about := "Print messages published to a ZeroMQ endpoint"
  usage := "Usage: pqsub [-t] [-f TOPIC] [-v...] [PORT | HOST:PORT]"
  switches := [helpSwitch, timestampsSwitch, versionSwitch, verboseSwitch, filterSwitch]
  operands :=
    [⟨"endpoint", false, "PORT or HOST:PORT to subscribe to (Default: localhost:6000)"⟩]

/-- The requester. -/
def requester : App where
  name := "pqreq"
  about := "Send console lines to a ZeroMQ reply server"
  usage := "Usage: pqreq [-v...] [HOST] [PORT]"
  switches := [helpSwitch, versionSwitch, verboseSwitch]
  operands :=
    [⟨"host", false, "DNS name or IP address of the server (Default: localhost)"⟩,
     ⟨"port", false, "TCP port of the server (Default: 6500)"⟩]

/-- The publisher. -/
def publisher : App where
  name := "pqpub"
  about := "Broadcast text files to ZeroMQ subscribers"
  usage := "Usage: pqpub [-v...] PORT"
  switches := [helpSwitch, versionSwitch, verboseSwitch]
  operands := [⟨"port", true, "TCP port to publish on"⟩]

/-- The version of all programs. -/
def version : String := "0.1.0"

/-- Lines of two columns, the second one below itself. -/
def columns (rows : List (String × String)) : List String :=
  let width := (rows.map (·.1.length)).foldl max 0
  rows.map fun (left, right) =>
    "    " ++ left ++ String.ofList (List.replicate (width - left.length + 4) ' ') ++ right

/-- How a switch is written in a column. -/
def switchText (s : Switch) : String :=
  "-" ++ s.short.toString ++ ", --" ++ s.long ++
    match s.value with
    | some value => " <" ++ value ++ ">"
    | none => ""

/-- How the operands are written in a usage line. -/
def operandsText : List Operand → String
  | [operand] =>
    if operand.required then "<" ++ operand.name ++ ">" else "[" ++ operand.name ++ "]"
  | _ => "[ARGS]"

/-- The lines of a section, if it has any rows. -/
def sectionLines (title : String) (rows : List (String × String)) : List String :=
  if rows.isEmpty then [] else ["", title ++ ":"] ++ columns rows

/-- The name that a program goes by in a title: the name it was called by if that one
has spaces in it, which are turned into dashes, and its own otherwise. -/
def title (app : App) (calledBy : Option String) : String :=
  match calledBy with
  | some name =>
    if name.toList.contains ' ' then
      String.ofList (name.toList.map fun c => if c = ' ' then '-' else c)
    else app.name
  | none => app.name

/-- The name and version of a program. -/
def versionLine (app : App) (calledBy : Option String) : String :=
  app.title calledBy ++ " " ++ version

/-- The help of a program, without a line feed at its end. -/
def helpText (app : App) (calledBy : Option String) : String :=
  let rows := fun (switches : List Switch) => switches.map fun s => (switchText s, s.help)
  let flags := rows (app.switches.filter (·.value.isNone))
  let options := rows (app.switches.filter (·.value.isSome))
  let usage := [calledBy.getD app.name, "[FLAGS]"] ++
    (if options.isEmpty then [] else ["[OPTIONS]"]) ++ [operandsText app.operands]
  "\n".intercalate <|
    [app.versionLine calledBy, app.about, "", "USAGE:", "    " ++ " ".intercalate usage] ++
    sectionLines "FLAGS" flags ++ sectionLines "OPTIONS" options ++
    sectionLines "ARGS" (app.operands.map fun o => ("<" ++ o.name ++ ">", o.help))

end App

end MessagingConsole.CommandLine
