import MessagingConsole.Programs
import MessagingConsole.Session.Environment

/-!
# The programs on this machine

Runs a program with the console and the files of the process.  The first argument
names the program, the others are its command line.  This executable carries no
transport: a publisher can be bound, with nobody to hear it, and every dial is refused.
-/

namespace MessagingConsole.Main

/-- Octets as the streams of the process take them. -/
def toBuffer (bytes : Bytes) : ByteArray := ⟨bytes.toArray⟩

/-- The console's input: the reader of its lines, and what was read and not yet taken. -/
abbrev Input := IO.Ref (LineReader × Source)

/-- Waits for the next line, reading more of the input as long as there is no answer. -/
partial def nextLine (input : Input) : IO LineAnswer := do
  let (reader, source) ← input.get
  match reader.next source with
  | ((.interrupted, reader), _) =>
    let bytes ← (← IO.getStdin).read 8192
    input.set (reader, [.data bytes.data.toList, .silence])
    nextLine input
  | ((answer, reader), source) =>
    input.set (reader, source)
    return answer

/-- Reads a whole file. -/
def readFile (path : Bytes) : IO (Except FileFault Bytes) :=
  try
    let content ← IO.FS.readBinFile (Utf8.decodeLossy path)
    return .ok content.data.toList
  catch
    | .noFileOrDirectory .. => return .error .notFound
    | .permissionDenied .. => return .error .permissionDenied
    | e => return .error (.other (toString e))

/-- Answers an operation. -/
def answer (input : Input) : (operation : Operation) → IO operation.Answer
  | .turn => return .begun
  | .write bytes =>
    try
      (← IO.getStdout).write (toBuffer bytes)
      return .whole
    catch _ => return .part 0
  | .flush =>
    try
      (← IO.getStdout).flush
      return true
    catch _ => return false
  | .readLine => nextLine input
  | .readFile path => readFile path
  | .dial endpoint _ =>
    return match Resolver.isolated.resolve endpoint with
      | .error fault => .refused fault
      | .ok _ => .refused (.network (Text.systemError "Connection refused" 111))
  | .bind endpoint =>
    return (Resolver.isolated.resolve endpoint).map fun _ => endpoint
  | .send _ => return .taken
  | .receive => return .interrupted
  | .log record => do
    IO.eprintln (record.line (Text.decimal (← IO.monoMsNow)))
  | .report line => IO.eprintln line
  | .close => return []

/-- Runs a session with the console and the files of the process. -/
def perform {α : Type} (input : Input) : Session α → IO α
  | .done value => return value
  | .ask operation next => do
    let found ← answer input operation
    perform input (next found)

/-- More turns than a process lives to take. -/
def endless : Nat := 0x4000000000000000

/-- Runs the program that the first argument names. -/
def start (arguments : List String) : IO UInt32 := do
  let input ← IO.mkRef (LineReader.fresh, [.silence])
  let commandLine := arguments.map Utf8.encode
  match arguments.head? with
  | some "pqsub" => return (← perform input (Program.subscriber commandLine endless)).code
  | some "pqreq" => return (← perform input (Program.requester commandLine endless)).code
  | some "pqpub" => return (← perform input (Program.publisher commandLine endless)).code
  | _ =>
    IO.eprintln "Usage: (pqsub | pqreq | pqpub) ARGUMENTS"
    return 1

end MessagingConsole.Main

/-- Runs one of the three programs. -/
def main (arguments : List String) : IO UInt32 :=
  MessagingConsole.Main.start arguments
