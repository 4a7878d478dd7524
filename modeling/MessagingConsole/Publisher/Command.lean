import MessagingConsole.Text.Blank

/-!
# Commands

The lines a publisher understands: a verb, and for `send` the path of a file.
-/

namespace MessagingConsole.Publisher

/-- What a line asks for. -/
inductive Command where
  | help
  | send (path : String)
  | quit
  /-- The verb `send` without a path. -/
  | missingFile
  /-- Any other line, without the blanks at its ends. -/
  | unknown (line : String)
  deriving DecidableEq, Repr

/-- Reads a command.  The verb ends at the first blank, and the path is all that
follows without the blanks at its ends. -/
def Command.ofLine (line : String) : Command :=
  let text := Text.trim line.toList
  let path := Text.trim (Text.afterFirstWord text)
  match String.ofList (Text.firstWord text) with
  | "help" => .help
  | "quit" => .quit
  | "send" => if path.isEmpty then .missingFile else .send (String.ofList path)
  | _ => .unknown (String.ofList text)

end MessagingConsole.Publisher
