import MessagingConsole.Network.Link
import MessagingConsole.Proofs.CommandLine.Endpoints
import MessagingConsole.Proofs.Network.Ipv6

/-!
# Reported addresses

The endpoint that is reported for a bound socket shows its address in full: dialing it resolves
to that very address, so that no two addresses are reported alike, although the groups of an IPv6
address stand without brackets in front of another colon and the port.

## Main Definitions

- `SocketAddress.ofIp` - the address of a TCP socket.

## Main Results

- `Resolver.resolve_ofIp` - every machine resolves the text of an address to this address.
- `Network.bind_of_isLocal` - every machine can bind the addresses of its own.
- `Endpoint.reports_address` - what is reported determines the address and the port.
-/

namespace MessagingConsole

/-- The text of an address, of either family. -/
def IpAddress.text : IpAddress → String
  | .ipv4 ip => ip.text
  | .ipv6 ip => ip.text

/-- The address of a TCP socket. -/
def SocketAddress.ofIp : IpAddress → UInt16 → SocketAddress
  | .ipv4 ip, port => .ipv4 ip port
  | .ipv6 ip, port => .ipv6 ip port

variable {ip : IpAddress} {port : UInt16}

/-! ## Hosts -/

namespace IpAddress

theorem isAddressChar_of_mem_text {c : Char} (mem : c ∈ ip.text.toList) : IsAddressChar c := by
  cases ip with
  | ipv4 ip => exact Ipv4.isAddressChar_of_mem_text mem
  | ipv6 ip => exact Ipv6.isAddressChar_of_mem_text mem

theorem notMem_text {c : Char} (other : ¬ IsAddressChar c) : c ∉ ip.text.toList :=
  mt isAddressChar_of_mem_text other

/-- An address is written without brackets. -/
theorem unbracketed?_text (ip : IpAddress) : unbracketed? ip.text.toList = none := by
  have free : '[' ∉ ip.text.toList := notMem_text (by decide)
  unfold unbracketed?
  split
  next text =>
    rw [text] at free
    exact absurd List.mem_cons_self free
  next => rfl

/-- An address is read back, and not taken for one of the other family. -/
theorem ofText?_text (ip : IpAddress) : ofText? ip.text.toList = some ip := by
  unfold ofText?
  rw [unbracketed?_text, Option.getD_none]
  cases ip with
  | ipv4 ip =>
    have read : Ipv4.ofNumbers? (IpAddress.ipv4 ip).text.toList = some ip := ip.ofNumbers?_text
    rw [read]
  | ipv6 ip =>
    have unread : Ipv4.ofNumbers? (IpAddress.ipv6 ip).text.toList = none :=
      Ipv4.ofNumbers?_of_colon ip.colon_mem_text
    have read : Ipv6.ofText? (IpAddress.ipv6 ip).text.toList = some ip := ip.ofText?_text
    rw [unread, read]

theorem text_ne_empty (ip : IpAddress) : ip.text ≠ "" := by
  intro empty
  have read := ofText?_text ip
  rw [empty] at read
  cases read

end IpAddress

/-- **The text of an address resolves to this address**, on every machine. -/
theorem Resolver.resolve_ofIp (r : Resolver) (ip : IpAddress) (port : UInt16) :
    r.resolve ⟨ip.text, port⟩ = .ok ip := by
  have lineFeed : ip.text.toList.contains '\n' = false := by
    simpa using IpAddress.notMem_text (c := '\n') (by decide)
  have named : ip.text.isEmpty = false := by
    simpa using ip.text_ne_empty
  have found : r.lookup ip.text = .ok ip :=
    r.lookup_text _ _ (IpAddress.notMem_text (by decide)) ip.ofText?_text
  simp only [resolve, lineFeed, named, found]
  rfl

/-- **Every machine can bind the addresses of its own**, among them the one for every interface,
with any port that nobody else has. -/
theorem Network.bind_of_isLocal (n : Network) {ip : Ipv4} {port : UInt16} (own : ip.isLocal)
    (untaken : port ∉ n.taken) :
    n.bind ⟨ip.text, port⟩ = .ok ⟨ip.text, if port = 0 then n.free else port⟩ := by
  have resolved : n.resolver.resolve ⟨ip.text, port⟩ = .ok (.ipv4 ip) :=
    n.resolver.resolve_ofIp (.ipv4 ip) port
  have bindable : n.resolver.isLocal (.ipv4 ip) := n.resolver.isLocal_ipv4 ip own
  simp [bind, resolved, bindable, untaken]

/-! ## Endpoints -/

namespace Endpoint

theorem ofAddress_ofIp (ip : IpAddress) (port : UInt16) :
    ofAddress (.ofIp ip port) = ⟨ip.text, port⟩ := by
  cases ip <;> rfl

/-- An endpoint that is reported resolves to the address that it was made from. -/
theorem resolve_ofAddress (r : Resolver) (ip : IpAddress) (port : UInt16) :
    r.resolve (ofAddress (.ofIp ip port)) = .ok ip := by
  rw [ofAddress_ofIp]
  exact r.resolve_ofIp ip port

theorem ofAddress_inj {ip' : IpAddress} {port' : UInt16} :
    ofAddress (.ofIp ip port) = ofAddress (.ofIp ip' port') ↔ ip = ip' ∧ port = port' := by
  constructor
  · intro same
    have resolved := resolve_ofAddress .isolated ip port
    rw [same, resolve_ofAddress] at resolved
    rw [ofAddress_ofIp, ofAddress_ofIp] at same
    exact ⟨(Except.ok.inj resolved).symm, congrArg Endpoint.port same⟩
  · rintro ⟨rfl, rfl⟩
    rfl

/-- **A reported address is not ambiguous.**  For two TCP sockets with any addresses and ports, the
endpoints that are reported are equal, or only their texts are, exactly if the addresses are equal,
their family included, and the ports are.  The text of one that has a port is an argument behind
the scheme, which is read as this endpoint again, and dialing it resolves to the address on every
machine. -/
theorem reports_address :
    (∀ (ip ip' : IpAddress) (port port' : UInt16),
      let e := ofAddress (.ofIp ip port)
      let e' := ofAddress (.ofIp ip' port')
      (e = e' ↔ ip = ip' ∧ port = port') ∧ (e.text = e'.text ↔ ip = ip' ∧ port = port')) ∧
    ∀ (ip : IpAddress) (port : UInt16) (defaultHost : String), port ≠ 0 →
      let e := ofAddress (.ofIp ip port)
      ∃ address, e.text = "tcp://" ++ address ∧ ofArgument address defaultHost = .ok e ∧
        (∀ resolver : Resolver, resolver.resolve e = .ok ip) ∧ e.port = port := by
  refine ⟨fun ip ip' port port' => ⟨ofAddress_inj, ?_⟩, fun ip port defaultHost reachable => ?_⟩
  · exact text_injective.eq_iff.trans ofAddress_inj
  · have named : (ofAddress (.ofIp ip port)).host ≠ "" := by
      rw [ofAddress_ofIp]
      exact ip.text_ne_empty
    have same_port : (ofAddress (.ofIp ip port)).port = port := by rw [ofAddress_ofIp]
    have nonzero : (ofAddress (.ofIp ip port)).port ≠ 0 := by rwa [same_port]
    exact ⟨_, rfl, ofArgument_address named nonzero defaultHost,
      fun resolver => resolve_ofAddress resolver ip port, same_port⟩

/-- An address that maps an IPv4 one, that one itself, and two addresses with two runs of zeros,
of which the longer and else the first is shortened. -/
theorem reports_address_of_runs :
    let mapped : Ipv6 := ⟨#v[0, 0, 0, 0, 0, 0xFFFF, 0xC000, 0x0201]⟩
    let first : Ipv6 := ⟨#v[1, 0, 0, 2, 0, 0, 0, 0x6000]⟩
    let second : Ipv6 := ⟨#v[1, 0, 0, 0, 2, 0, 0, 0x6000]⟩
    (ofAddress (.ipv6 mapped 6000)).text = "tcp://::ffff:192.0.2.1:6000" ∧
      (ofAddress (.ipv6 mapped 6000)).text ≠ (ofAddress (.ipv4 ⟨192, 0, 2, 1⟩ 6000)).text ∧
      (ofAddress (.ipv6 first 80)).text ≠ (ofAddress (.ipv6 second 80)).text ∧
      let e := ofAddress (.ipv6 first 80)
      ofArgument "1:0:0:2::6000:80" "localhost" = .ok e ∧
        Resolver.isolated.resolve e = .ok (.ipv6 first) ∧ e.port = 80 := by
  intro mapped first second
  obtain ⟨apart, read⟩ := reports_address
  refine ⟨by decide, fun same => ?_, fun same => ?_, ?_⟩
  · cases ((apart (.ipv6 mapped) (.ipv4 ⟨192, 0, 2, 1⟩) 6000 6000).2.mp same).1
  · exact absurd ((apart (.ipv6 first) (.ipv6 second) 80 80).2.mp same).1 (by decide)
  · obtain ⟨address, text, reads, resolved, port⟩ := read (.ipv6 first) 80 "localhost" (by decide)
    have shown : (ofAddress (.ofIp (.ipv6 first) 80)).text = "tcp://" ++ "1:0:0:2::6000:80" := by
      decide
    rw [shown, String.append_right_inj] at text
    exact ⟨text ▸ reads, resolved .isolated, port⟩

end Endpoint

end MessagingConsole
