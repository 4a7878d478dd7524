import MessagingConsole.Network.Address
import MessagingConsole.Network.Fault
import MessagingConsole.Text.Pieces

/-!
# Hosts

The address that the host of an endpoint stands for.  A host is the text of an IPv4
address in numbers and dots, the text of an IPv6 address, which may stand in square
brackets, or a name.  Which names a machine knows or finds out, and which addresses are
its own, is up to the machine.

## Main Definitions

- `Ipv4.ofNumbers?` and `Ipv6.ofText?` - the readings of addresses.
- `Resolver` - what a machine makes of hosts and addresses.
- `Resolver.isolated` - a machine that can ask nobody and has no IPv6.
- `Resolver.resolve` - the address of an endpoint.
-/

namespace MessagingConsole

/-! ## IPv4 -/

namespace Ipv4

/-- The address whose four octets write a number. -/
def ofNat (n : Nat) : Ipv4 :=
  ⟨(n / 0x1000000).toUInt8, (n / 0x10000).toUInt8, (n / 0x100).toUInt8, n.toUInt8⟩

/-- The number that so many octets write when they are given by numbers: one for each
octet, except that the last number fills all octets that are left. -/
def joined? : (octets : Nat) → List Nat → Option Nat
  | 0, _ | _, [] => none
  | octets + 1, [last] => if last < Nat.pow 256 (octets + 1) then some last else none
  | octets + 1, first :: rest =>
    if first < 256 then (joined? octets rest).map (first * Nat.pow 256 octets + ·) else none

/-- Reads an address in numbers and dots: one to four numerals, each decimal, octal or
hexadecimal. -/
def ofNumbers? (text : List Char) : Option Ipv4 := do
  let numbers ← (Text.pieces '.' text).mapM Text.readNumeral?
  ofNat <$> joined? 4 numbers

/-- Reads an address in its dotted form alone. -/
def ofText? (text : List Char) : Option Ipv4 :=
  (ofNumbers? text).filter (·.text.toList = text)

/-- The address by which a machine reaches itself. -/
def loopback : Ipv4 := ⟨127, 0, 0, 1⟩

/-- The address that stands for every interface of a machine. -/
def unspecified : Ipv4 := ⟨0, 0, 0, 0⟩

/-- Whether an address belongs to the machine itself: one of the loopback network, or
the one for every interface. -/
def isLocal (ip : Ipv4) : Bool := ip.a = 127 || ip = unspecified

end Ipv4

/-! ## IPv6 -/

namespace Ipv6

/-- Reads a group: one to four hexadecimal digits. -/
def group? (text : List Char) : Option UInt16 :=
  if text.length ≤ 4 then UInt16.ofNat <$> Text.readDigits? 16 text else none

/-- Reads the last piece of a text: a group, or the two groups of an IPv4 address. -/
def lastGroups? (text : List Char) : Option (List UInt16) :=
  match group? text, Ipv4.ofText? text with
  | some group, _ => some [group]
  | none, some ip =>
    some [ip.a.toUInt16 <<< 8 ||| ip.b.toUInt16, ip.c.toUInt16 <<< 8 ||| ip.d.toUInt16]
  | none, none => none

/-- Reads pieces, all but the last of which are groups. -/
def groups? : List (List Char) → Option (List UInt16)
  | [] => some []
  | [last] => lastGroups? last
  | piece :: rest => do return (← group? piece) :: (← groups? rest)

/-- The pieces of one side of `::`, where there may be nothing at all. -/
def side (text : List Char) : List (List Char) :=
  if text.isEmpty then [] else Text.pieces ':' text

/-- A text cut at its first `::`. -/
def splitAtGap? : List Char → Option (List Char × List Char)
  | [] => none
  | ':' :: ':' :: rest => some ([], rest)
  | c :: rest => (splitAtGap? rest).map fun (before, after) => (c :: before, after)

/-- The address with these groups, if there are eight. -/
def ofGroups? (groups : List UInt16) : Option Ipv6 :=
  if h : groups.length = 8 then some ⟨⟨groups.toArray, by simp [h]⟩⟩ else none

/-- Reads an address: eight groups between colons, where `::` stands for one zero group
or more.  Only the whole text may end in an IPv4 address. -/
def ofText? (text : List Char) : Option Ipv6 :=
  match splitAtGap? text with
  | none => (groups? (Text.pieces ':' text)).bind ofGroups?
  | some (before, after) => do
    let high ← (side before).mapM group?
    let low ← groups? (side after)
    let zeros := 8 - (high.length + low.length)
    if zeros = 0 then none
    else ofGroups? (high ++ List.replicate zeros 0 ++ low)

end Ipv6

/-! ## Hosts -/

/-- The text between square brackets. -/
def unbracketed? (text : List Char) : Option (List Char) :=
  match text with
  | '[' :: rest => if rest.getLast? = some ']' then some rest.dropLast else none
  | _ => none

/-- Whether a text can be asked for as a name: labels between dots, each of one to 63
letters, digits, hyphens and underscores, with no hyphen in front and at most 253
characters in all.  One more dot may end it. -/
def isHostName (text : List Char) : Bool :=
  let name := if text.getLast? = some '.' then text.dropLast else text
  name.length ≤ 253 && name.head? ≠ some '-' &&
    (Text.pieces '.' name).all fun label =>
      ! label.isEmpty && label.length ≤ 63 &&
        label.all fun c => c.isAlphanum || c = '-' || c = '_'

/-- The address of a machine. -/
inductive IpAddress where
  | ipv4 (ip : Ipv4)
  | ipv6 (ip : Ipv6)
  deriving DecidableEq, Repr

namespace IpAddress

/-- Reads the text of an address. -/
def ofText? (text : List Char) : Option IpAddress :=
  match Ipv4.ofNumbers? text, Ipv6.ofText? ((unbracketed? text).getD text) with
  | some ip, _ => some (.ipv4 ip)
  | none, some ip => some (.ipv6 ip)
  | none, none => none

end IpAddress

/-! ## Resolvers -/

/-- What a machine makes of hosts and addresses. -/
structure Resolver where
  /-- The address of a host that is not empty. -/
  lookup : String → Except TransportFault IpAddress
  /-- Whether a socket of the machine can have the address. -/
  isLocal : IpAddress → Bool
  /-- A host with a zero character is not looked up. -/
  lookup_nul : ∀ host : String, '\x00' ∈ host.toList → lookup host = .error .nulInHost
  /-- The text of an address is not looked up but read. -/
  lookup_text : ∀ (host : String) (ip : IpAddress), '\x00' ∉ host.toList →
    IpAddress.ofText? host.toList = some ip → lookup host = .ok ip
  /-- Every machine has the loopback network and the address for every interface. -/
  isLocal_ipv4 : ∀ ip : Ipv4, ip.isLocal → isLocal (.ipv4 ip)

namespace Resolver

/-- What a machine makes of a host that is neither empty nor an address, if it can ask
nobody: it knows `localhost` alone. -/
def nameAlone (name : List Char) : Except TransportFault IpAddress :=
  if name.map Char.toLower = "localhost".toList then .ok (.ipv4 .loopback)
  else if isHostName name then .error .noNameService
  else .error .unknownHost

/-- A machine that can ask nobody and has no interface but that to itself, which has no
IPv6. -/
def isolated : Resolver where
  lookup host :=
    if host.toList.contains '\x00' then .error .nulInHost
    else match IpAddress.ofText? host.toList with
      | some ip => .ok ip
      | none => nameAlone host.toList
  isLocal
    | .ipv4 ip => ip.isLocal
    | .ipv6 _ => false
  lookup_nul host nul := by simp [nul]
  lookup_text host ip free text := by simp [free, text]
  isLocal_ipv4 ip own := own

/-- The address of an endpoint, whose text is read as one line with a host that is not
empty. -/
def resolve (r : Resolver) (e : Endpoint) : Except TransportFault IpAddress :=
  if e.host.toList.contains '\n' then .error (.unreadableEndpoint "transport")
  else if e.host.isEmpty then .error (.unreadableEndpoint "host and port")
  else r.lookup e.host

end Resolver

end MessagingConsole
