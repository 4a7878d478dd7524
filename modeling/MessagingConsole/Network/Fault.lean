import MessagingConsole.Text.Numeral

/-!
# Transport faults

The reasons a transport gives for not doing what it was asked to do.
-/

namespace MessagingConsole

/-- Why a transport failed. -/
inductive TransportFault where
  /-- The network below it failed. -/
  | network (reason : String)
  /-- The stream of octets could not be framed. -/
  | codec (reason : String)
  /-- The text of an endpoint has no such part. -/
  | unreadableEndpoint (part : String)
  /-- The other side did not greet. -/
  | noGreeting
  /-- The other side speaks a version that is too old. -/
  | unsupportedVersion
  /-- The other side did not answer the greeting. -/
  | noReply
  /-- The two kinds of sockets do not go together. -/
  | incompatibleSockets
  /-- The other side named a kind of socket that there is none of. -/
  | unknownSocketType
  /-- The other side named no kind of socket. -/
  | missingSocketType
  /-- The other side sent something else before it was ready. -/
  | notReady
  /-- The identity of the other side is too long. -/
  | invalidIdentity
  /-- The connection ended without a message. -/
  | noMessage
  /-- There is no request that a reply could belong to. -/
  | noRequest
  deriving DecidableEq, Repr

namespace TransportFault

/-- The text of a fault. -/
def message : TransportFault → String
  | .network reason => "Network Error: " ++ reason
  | .codec reason => "Codec Error: " ++ reason
  | .unreadableEndpoint part => "Endpoint Error: Invalid Syntax: Could not parse " ++ part
  | .noGreeting => "Failed Greeting exchange"
  | .unsupportedVersion => "Unsupported ZMTP version"
  | .noReply => "No reply from server"
  | .incompatibleSockets => "Provided sockets combination is not compatible"
  | .unknownSocketType => "Unknown socket type"
  | .missingSocketType => "Failed to parse other socket type"
  | .notReady => "Failed to confirm ready state"
  | .invalidIdentity => "Invalid peer identity: must be less than 256 bytes in length"
  | .noMessage => "No message received"
  | .noRequest => "Unable to recv. No request in progress"

/-- The other side takes nothing any more. -/
def brokenPipe : TransportFault := .codec (Text.systemError "Broken pipe" 32)

/-- The other side sent a command that there is none of. -/
def unknownCommand : TransportFault := .codec "Unknown command received"

/-- Somebody else has the port. -/
def addressInUse : TransportFault :=
  .network (Text.systemError "Address already in use" 98)

/-- No interface of this machine has the address. -/
def addressNotAvailable : TransportFault :=
  .network (Text.systemError "Cannot assign requested address" 99)

/-- A host with a zero character is no name that could be looked up. -/
def nulInHost : TransportFault := .network "file name contained an unexpected NUL byte"

/-- A host is neither an address nor a name. -/
def unknownHost : TransportFault :=
  .network "failed to lookup address information: Name or service not known"

/-- Nobody can be asked for the address of a name. -/
def noNameService : TransportFault :=
  .network "failed to lookup address information: Temporary failure in name resolution"

end TransportFault

end MessagingConsole
