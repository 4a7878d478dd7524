import MessagingConsole.FileTree
import MessagingConsole.Text.Numeral

/-!
# Broadcasts

A broadcast is one short line of printable ASCII, kept in a file that may end with a
line end.

## Main Definitions

- `Broadcast.body` - the content of a file without one line end at its end.
- `Broadcast.ofContent` - the text of a body, or what is wrong with it.
- `Broadcast.ofFile` - the broadcast in a file of a tree.
-/

namespace MessagingConsole.Publisher

/-- Why there is nothing to broadcast. -/
inductive BroadcastFault where
  | notFound (path : Bytes)
  | permissionDenied (path : Bytes)
  | unreadable (path : Bytes) (reason : String)
  /-- The body has an octet that is not printable ASCII. -/
  | notPrintable (offset : Nat)
  | tooLong (length max : Nat)
  deriving DecidableEq, Repr

/-- The text of a fault.  Paths are shown with broken UTF-8 replaced. -/
def BroadcastFault.message : BroadcastFault → String
  | .notFound path => "There is no file named " ++ Utf8.decodeLossy path
  | .permissionDenied path => "Permission denied to read file " ++ Utf8.decodeLossy path
  | .unreadable path reason =>
    "Unable to read file " ++ Utf8.decodeLossy path ++ ": " ++ reason
  | .notPrintable offset =>
    "The file contains non-ASCII readable text at byte " ++ Text.decimal offset
  | .tooLong length max =>
    "The file length (" ++ Text.decimal length ++ " characters) exceeds " ++
      Text.decimal max ++ " characters"

namespace Broadcast

/-- The longest body, in characters. -/
def maxLength : Nat := 120

/-- The content of a file without a CR LF or an LF at its end. -/
def body (raw : Bytes) : Bytes :=
  match raw.reverse with
  | 10 :: 13 :: rest => rest.reverse
  | 10 :: rest => rest.reverse
  | _ => raw

/-- Whether an octet is printable ASCII. -/
def isPrintable (b : UInt8) : Bool :=
  0x20 ≤ b && b ≤ 0x7E

/-- The text of a body, if it is printable and short enough. -/
def ofContent (raw : Bytes) : Except BroadcastFault String :=
  let body := body raw
  match body.findIdx? (! isPrintable ·) with
  | some offset => .error (.notPrintable offset)
  | none =>
    if maxLength < body.length then .error (.tooLong body.length maxLength)
    else .ok (String.ofList (body.map fun b => Char.ofNat b.toNat))

/-- The broadcast that was read from a path, if it could be read and is valid. -/
def ofRead (path : Bytes) : Except FileFault Bytes → Except BroadcastFault String
  | .ok raw => ofContent raw
  | .error .notFound => .error (.notFound path)
  | .error .permissionDenied => .error (.permissionDenied path)
  | .error (.other reason) => .error (.unreadable path reason)

/-- The broadcast in a file. -/
def ofFile (files : FileTree) (path : Bytes) : Except BroadcastFault String :=
  ofRead path (files.read path)

end Broadcast

end MessagingConsole.Publisher
