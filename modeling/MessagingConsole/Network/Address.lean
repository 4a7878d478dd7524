import MessagingConsole.Network.Endpoint
import MessagingConsole.Text.Utf8

/-!
# Bound addresses

The addresses that a transport reports for a socket, and the endpoints that stand for
them.  An IPv6 address is written in its canonical form: groups in lower-case
hexadecimal without leading zeros, and the longest run of at least two zero groups,
the first of equally long ones, shortened to `::`.  An address that maps an IPv4 one
shows that one in dotted form.
-/

namespace MessagingConsole

/-- The four octets of an IPv4 address. -/
structure Ipv4 where
  a : UInt8
  b : UInt8
  c : UInt8
  d : UInt8
  deriving DecidableEq, Repr

/-- The dotted form. -/
def Ipv4.text (ip : Ipv4) : String :=
  ".".intercalate ([ip.a, ip.b, ip.c, ip.d].map fun octet => Text.decimal octet.toNat)

/-- The eight groups of an IPv6 address. -/
structure Ipv6 where
  groups : Vector UInt16 8
  deriving DecidableEq, Repr

namespace Ipv6

/-- Groups in hexadecimal, separated by colons. -/
def groupsText (groups : List UInt16) : String :=
  ":".intercalate (groups.map fun group => Text.hexadecimal group.toNat)

/-- The length of the run of zeros that a list of groups begins with. -/
def leadingZeros (groups : List UInt16) : Nat :=
  (groups.takeWhile (· == 0)).length

/-- The longest run of zero groups as its position and length, the first of equally
long ones.  `position` counts the groups already passed and `best` is the longest run
among those. -/
def longestRun (position : Nat) (best : Nat × Nat) : List UInt16 → Nat × Nat
  | [] => best
  | group :: rest =>
    let run := leadingZeros (group :: rest)
    longestRun (position + 1) (if best.2 < run then (position, run) else best) rest

/-- The IPv4 address that an address maps, if it does. -/
def mapped? (ip : Ipv6) : Option Ipv4 :=
  match ip.groups.toList with
  | [0, 0, 0, 0, 0, 0xFFFF, high, low] =>
    some ⟨(high >>> 8).toUInt8, high.toUInt8, (low >>> 8).toUInt8, low.toUInt8⟩
  | _ => none

/-- The canonical form. -/
def text (ip : Ipv6) : String :=
  match ip.mapped? with
  | some ip => "::ffff:" ++ ip.text
  | none =>
    let groups := ip.groups.toList
    let (start, length) := longestRun 0 (0, 0) groups
    if length < 2 then groupsText groups
    else groupsText (groups.take start) ++ "::" ++ groupsText (groups.drop (start + length))

end Ipv6

/-- The address of a socket as its transport reports it. -/
inductive SocketAddress where
  | ipv4 (ip : Ipv4) (port : UInt16)
  | ipv6 (ip : Ipv6) (port : UInt16)
  | domain (name : String) (port : UInt16)
  /-- A socket of the file system, which may have no path. -/
  | ipc (path : Option Bytes)

/-- The endpoint that stands for an address.  One without a port has port 0 and its
whole text as the host. -/
def Endpoint.ofAddress : SocketAddress → Endpoint
  | .ipv4 ip port => ⟨ip.text, port⟩
  | .ipv6 ip port => ⟨ip.text, port⟩
  | .domain name port => ⟨name, port⟩
  | .ipc (some path) => ⟨"ipc://" ++ Utf8.decodeLossy path, 0⟩
  | .ipc none => ⟨"ipc://????", 0⟩

end MessagingConsole
