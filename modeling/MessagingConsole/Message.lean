import MessagingConsole.Calendar
import MessagingConsole.Text.Utf8

/-!
# Messages

Received messages, the filters that choose among them by topic, and the lines they are
printed as.
-/

namespace MessagingConsole

/-- A message: its frames and when it arrived. -/
structure Message where
  frames : List Bytes
  receivedAt : Instant
  deriving DecidableEq, Repr

/-- The frame that filters look at, which is the first. -/
def Message.topic (m : Message) : Bytes :=
  m.frames.head?.getD []

/-- All frames joined.  A frame that is alone is taken as it is. -/
def Message.payload (m : Message) : Bytes :=
  match m.frames with
  | [frame] => frame
  | frames => frames.foldl (· ++ ·) []

theorem Message.payload_eq_flatten (m : Message) : m.payload = m.frames.flatten := by
  unfold payload
  split
  case h_1 frame alone => rw [alone, List.flatten_singleton]
  case h_2 =>
    have joined : m.frames.foldl (· ++ ·) [] = [] ++ (m.frames.map id).flatten :=
      List.foldl_append_eq_append
    rwa [List.map_id, List.nil_append] at joined

/-- The beginning that a topic has to have.  The empty filter matches every topic. -/
structure TopicFilter where
  start : String
  deriving DecidableEq, Repr

namespace TopicFilter

/-- The filter that matches every topic. -/
def everything : TopicFilter := ⟨""⟩

/-- Whether a topic begins with the filter. -/
def accepts (f : TopicFilter) (topic : Bytes) : Bool :=
  (Utf8.encode f.start).isPrefixOf topic

/-- The message that asks a publisher for a filter. -/
def subscription (f : TopicFilter) : Bytes :=
  1 :: Utf8.encode f.start

end TopicFilter

/-- How messages are printed. -/
inductive LineFormat where
  /-- The payload alone. -/
  | plain
  /-- The time of arrival in front of it. -/
  | timestamped
  deriving DecidableEq, Repr

/-- The name of a format. -/
def LineFormat.name : LineFormat → String
  | .plain => "Plain"
  | .timestamped => "Timestamped"

/-- The line of a message, with its line feed. -/
def LineFormat.render (f : LineFormat) (m : Message) : String :=
  let text := Utf8.decodeLossy m.payload
  match f with
  | .plain => text ++ "\n"
  | .timestamped => m.receivedAt.stamp ++ ": " ++ text ++ "\n"

end MessagingConsole
