import RaptorLite.Common.AddressText

/-! # An address and its text

`PeerString` tells two peers apart, and it can be taken apart again: `SplitHostPort`, the parsers of
`common/socket_util.cc` and `raptor_blocking_resolve_address` lead back to the address it was made from. -/

namespace RaptorLite

variable {platform : Platform} {net : InetText} {a b : ResolvedAddress} {x y : SockAddr}

/-- The address bytes are read back from their text. -/
theorem InetText.Documented.endpoint_eq_of_ipText (hnet : net.Documented) (hx : x.Plain) (hy : y.Plain)
    (htext : x.ipText net = y.ipText net) (hport : x.hostPort = y.hostPort) : x.endpoint = y.endpoint := by
  have hports : ∀ p q : NetPort, ntohs p = ntohs q → p = q := by
    intro p q hpq
    rw [← htons_ntohs p, hpq, htons_ntohs]
  -- the text of an IPv4 address has no colon
  have hfamily : ∀ (u : ByteString 4) (v : ByteString 16), (net.ntop4 u).bytes ≠ (net.ntop6 v).bytes := by
    intro u v heq
    have hcolon := hnet.colon_pton6 _ _ (hnet.pton6_ntop6 v)
    rw [← heq] at hcolon
    exact (hnet.chars_pton4 _ _ (hnet.pton4_ntop4 u) _ hcolon).2 rfl
  cases x with
  | inet p u =>
      cases y with
      | inet q v =>
          have hbytes : some u = some v := by
            rw [← hnet.pton4_ntop4 u, ← hnet.pton4_ntop4 v]
            exact congrArg net.pton4 htext
          rw [hports p q hport, Option.some.inj hbytes]
      | inet6 q flowinfo v scopeId => exact absurd htext (hfamily u v)
      | other family data => exact hy.elim
  | inet6 p flowinfo u scopeId =>
      cases y with
      | inet q v => exact absurd htext.symm (hfamily v u)
      | inet6 q flowinfo' v scopeId' =>
          have hbytes : some u = some v := by
            rw [← hnet.pton6_ntop6 u, ← hnet.pton6_ntop6 v]
            exact congrArg net.pton6 htext
          rw [hports p q hport, Option.some.inj hbytes]
          rfl
      | other family data => exact hy.elim
  | other family data => exact hx.elim

/-- Plain addresses with one endpoint and one scope are printed alike. -/
theorem SockAddr.Plain.text_eq_of_endpoint (hx : x.Plain) (hy : y.Plain) (hendpoint : x.endpoint = y.endpoint)
    (hscope : x.scopeId = y.scopeId) (net : InetText) : x.host net = y.host net ∧ x.hostPort = y.hostPort := by
  cases x with
  | inet p u =>
      cases y with
      | inet q v =>
          cases hendpoint
          exact ⟨rfl, rfl⟩
      | inet6 q flowinfo v scopeId =>
          rw [endpoint_of_not_mapped hy] at hendpoint
          cases hendpoint
      | other family data => exact hy.elim
  | inet6 p flowinfo u scopeId =>
      rw [endpoint_of_not_mapped hx] at hendpoint
      cases y with
      | inet q v => cases hendpoint
      | inet6 q flowinfo' v scopeId' =>
          rw [endpoint_of_not_mapped hy] at hendpoint
          cases hendpoint
          cases hscope
          exact ⟨rfl, rfl⟩
      | other family data => exact hy.elim
  | other family data => exact hx.elim

/-- `PeerString` identifies a peer: with the inet functions of one system, it is the same for two addresses exactly if
they denote the same endpoint in the same zone, whether the text is made by the code for Linux or by that for
Windows. -/
theorem peerString_eq_iff (hnet : net.Documented) (ha : a.WellFormed) (hb : b.WellFormed)
    (platform platform' : Platform) :
    ∃ s t, peerString platform net a = some s ∧ peerString platform' net b = some t ∧
      (s = t ↔ a.addr.endpoint = b.addr.endpoint ∧ a.zone = b.zone) := by
  have hplain := normalized_plain ha
  have hplain' := normalized_plain hb
  refine ⟨_, _, hnet.peerString_eq ha platform, hnet.peerString_eq hb platform', ?_⟩
  rw [← endpoint_normalized a, ← endpoint_normalized b]
  constructor
  · intro heq
    have hform := hnet.hostPortForm a.normalized
    rw [heq] at hform
    obtain ⟨hhost, hport, -⟩ := (hnet.hostPortForm b.normalized).unique hform
    have hparts := append_zoneText_inj (hnet.percent_notMem _) (hnet.percent_notMem _) hhost
    exact ⟨hnet.endpoint_eq_of_ipText hplain hplain' hparts.1 (digits_injective hport), hparts.2⟩
  · rintro ⟨hendpoint, hzone⟩
    obtain ⟨hhost, hport⟩ := hplain.text_eq_of_endpoint hplain' hendpoint hzone net
    rw [hhost, hport]

/-- An IPv4 address and the one mapped from it, by the code for Linux and by that for Windows. -/
theorem peerString_eq_iff_mapped :
    peerString .linux uncompressedText ⟨.inet (htons 80) ⟨[192, 0, 2, 1], rfl⟩, 16⟩ = some (ascii "192.0.2.1:80") ∧
      peerString .windows uncompressedText
        ⟨.inet6 (htons 80) 0 (v4mappedBytes ⟨[192, 0, 2, 1], rfl⟩) 3, 28⟩ = some (ascii "192.0.2.1:80") := by
  obtain ⟨s, t, hs, ht, hiff⟩ := peerString_eq_iff uncompressedText_documented
    (a := ⟨.inet (htons 80) ⟨[192, 0, 2, 1], rfl⟩, 16⟩)
    (b := ⟨.inet6 (htons 80) 0 (v4mappedBytes ⟨[192, 0, 2, 1], rfl⟩) 3, 28⟩) ⟨.inl rfl, rfl⟩ ⟨.inr rfl, rfl⟩
    .linux .windows
  have htext : peerString .linux uncompressedText ⟨.inet (htons 80) ⟨[192, 0, 2, 1], rfl⟩, 16⟩ =
      some (ascii "192.0.2.1:80") := by
    decide +kernel
  have heq : s = t := hiff.mpr ⟨by decide, by decide⟩
  rw [← heq, ← hs, htext] at ht
  exact ⟨htext, ht⟩

/-- What is documented of `getaddrinfo` for the text of an address and a decimal port: it gives that address. -/
structure LookupDocumented (net : InetText) (getaddrinfo : List UInt8 → List UInt8 → Option (List ResolvedAddress)) :
    Prop where
  /-- An IPv4 address. -/
  numeric4 : ∀ host addr port, net.pton4 host = some addr → port < 65536 →
    ∃ result, getaddrinfo host (digits port) = some result ∧ result ≠ [] ∧
      ∀ a ∈ result, a.addr.endpoint = (SockAddr.inet (htons port) addr).endpoint
  /-- An IPv6 address. -/
  numeric6 : ∀ host addr port, net.pton6 host = some addr → port < 65536 →
    ∃ result, getaddrinfo host (digits port) = some result ∧ result ≠ [] ∧
      ∀ a ∈ result, a.addr.endpoint = (SockAddr.inet6 (htons port) 0 addr 0).endpoint

/-- The host of an address without a zone is parsed to its endpoint. -/
theorem InetText.Documented.stringToSockaddr_host (hnet : net.Documented) (hx : x.Plain) (hscope : x.scopeId = 0) :
    ∃ b, stringToSockaddr net (x.host net).bytes x.hostPort = some b ∧ b.WellFormed ∧ b.addr.endpoint = x.endpoint := by
  have hport : (0 : Int) ≤ x.hostPort ∧ (x.hostPort : Int) < 65536 :=
    ⟨Int.natCast_nonneg _, Int.ofNat_lt.mpr x.hostPort_lt⟩
  rw [x.host_of_no_zone net hscope]
  cases x with
  | inet port addr =>
      have hpton6 : net.pton6 (net.ntop4 addr).bytes = none := by
        cases hpton : net.pton6 (net.ntop4 addr).bytes with
        | none => rfl
        | some v =>
            have hcolon := hnet.colon_pton6 _ _ hpton
            exact absurd rfl (hnet.chars_pton4 _ _ (hnet.pton4_ntop4 addr) _ hcolon).2
      refine ⟨⟨.inet (htons (ntohs port)) addr, sockaddrSize .inet⟩, ?_, ⟨.inl rfl, rfl⟩, ?_⟩
      · simp only [stringToSockaddr, SockAddr.ipText, hpton6, hnet.pton4_ntop4, sockaddrSetPort, if_pos hport]
        rfl
      · rw [htons_ntohs]
  | inet6 port flowinfo addr scopeId =>
      refine ⟨⟨.inet6 (htons (ntohs port)) 0 addr 0, sockaddrSize .inet6⟩, ?_, ⟨.inr rfl, rfl⟩, ?_⟩
      · simp only [stringToSockaddr, SockAddr.ipText, hnet.pton6_ntop6, sockaddrSetPort, if_pos hport]
        rfl
      · rw [htons_ntohs]
        rfl
  | other family data => exact hx.elim

/-- Neither family parses a host with a zone. -/
theorem InetText.Documented.stringToSockaddr_zone (hnet : net.Documented) (hscope : x.scopeId ≠ 0) (port : Int) :
    stringToSockaddr net (x.host net).bytes port = none := by
  have hpercent := x.percent_mem_host net hscope
  have hpton6 : net.pton6 (x.host net).bytes = none := by
    cases hpton : net.pton6 (x.host net).bytes with
    | none => rfl
    | some v => exact absurd (hnet.chars_pton6 _ _ hpton _ hpercent) (by decide)
  have hpton4 : net.pton4 (x.host net).bytes = none := by
    cases hpton : net.pton4 (x.host net).bytes with
    | none => rfl
    | some v => exact absurd (hnet.chars_pton4 _ _ hpton _ hpercent).1 (by decide)
  simp only [stringToSockaddr, hpton6, hpton4]

/-- The host and the port of an address without a zone are looked up as its endpoint. -/
theorem LookupDocumented.host {getaddrinfo : List UInt8 → List UInt8 → Option (List ResolvedAddress)}
    (hlookup : LookupDocumented net getaddrinfo) (hnet : net.Documented) (hx : x.Plain) (hscope : x.scopeId = 0) :
    ∃ result, getaddrinfo (x.host net).bytes (digits x.hostPort) = some result ∧ result ≠ [] ∧
      ∀ a ∈ result, a.addr.endpoint = x.endpoint := by
  rw [x.host_of_no_zone net hscope]
  cases x with
  | inet port addr =>
      have hfound := hlookup.numeric4 _ addr (ntohs port) (hnet.pton4_ntop4 addr) (ntohs_lt port)
      rwa [htons_ntohs] at hfound
  | inet6 port flowinfo addr scopeId =>
      have hfound := hlookup.numeric6 _ addr (ntohs port) (hnet.pton6_ntop6 addr) (ntohs_lt port)
      rwa [htons_ntohs] at hfound
  | other family data => exact hx.elim

/-- `getaddrinfo` for hosts that are addresses. -/
def numericLookup (net : InetText) (host service : List UInt8) : Option (List ResolvedAddress) :=
  match net.pton4 host with
  | some addr => some [⟨.inet (htons (readDigits service)) addr, sockaddrSize .inet⟩]
  | none =>
      match net.pton6 host with
      | some addr => some [⟨.inet6 (htons (readDigits service)) 0 addr 0, sockaddrSize .inet6⟩]
      | none => none

/-- A lookup that parses the text does what is documented of `getaddrinfo`. -/
theorem numericLookup_documented (hnet : net.Documented) : LookupDocumented net (numericLookup net) where
  numeric4 host addr port hpton _ := by
    refine ⟨[⟨.inet (htons port) addr, sockaddrSize .inet⟩], ?_, List.cons_ne_nil _ _, ?_⟩
    · simp only [numericLookup, hpton, readDigits_digits]
    · intro a ha
      rw [List.mem_singleton.mp ha]
  numeric6 host addr port hpton _ := by
    have hpton4 : net.pton4 host = none := by
      cases hpton4 : net.pton4 host with
      | none => rfl
      | some u => exact absurd rfl (hnet.chars_pton4 _ _ hpton4 _ (hnet.colon_pton6 _ _ hpton)).2
    refine ⟨[⟨.inet6 (htons port) 0 addr 0, sockaddrSize .inet6⟩], ?_, List.cons_ne_nil _ _, ?_⟩
    · simp only [numericLookup, hpton4, hpton, readDigits_digits]
    · intro a ha
      rw [List.mem_singleton.mp ha]

/-- A peer's text comes back. `SplitHostPort` takes `PeerString` apart into `RemoteIp` and `RemotePort`. Without a zone
these two give the endpoint again, and connecting to `PeerString` looks up nothing else; with a zone
`raptor_string_to_sockaddr` aborts. -/
theorem peerString_comes_back {getaddrinfo : List UInt8 → List UInt8 → Option (List ResolvedAddress)}
    (hnet : net.Documented) (hlookup : LookupDocumented net getaddrinfo) (h : a.WellFormed) (platform : Platform) :
    ∃ (peer : CString) (ip : List UInt8), peerString platform net a = some peer.bytes ∧
      endpointIp platform net a = some ip ∧
      (∀ hostView portView,
        splitHostPort peer.bytes hostView portView = (true, ip, digits (endpointPort a).toNat)) ∧
      (a.zone = 0 →
        (∃ b, stringToSockaddr net ip (endpointPort a).toNat = some b ∧ b.WellFormed ∧
          b.addr.endpoint = a.addr.endpoint) ∧
        ∀ defaultPort, ∃ result, blockingResolveAddress getaddrinfo peer defaultPort = .ok result ∧ result ≠ [] ∧
          ∀ b ∈ result, b.addr.endpoint = a.addr.endpoint) ∧
      (a.zone ≠ 0 → stringToSockaddr net ip (endpointPort a).toNat = none) := by
  have hplain := normalized_plain h
  have hform := hnet.hostPortForm a.normalized
  have hnul := nul_notMem_joinedText (a.normalized.host net) (Int32.ofNat a.normalized.hostPort)
  refine ⟨⟨_, hnul⟩, _, hnet.peerString_eq h platform, hnet.endpointIp_eq h platform, ?_, ?_, ?_⟩
  · intro hostView portView
    rw [endpointPort_toNat h, splitHostPort, doSplitHostPort_accepts hform]
    rfl
  · intro hzone
    rw [endpointPort_toNat h, ← endpoint_normalized a]
    refine ⟨hnet.stringToSockaddr_host hplain hzone, fun defaultPort => ?_⟩
    obtain ⟨result, hfound, hne, hall⟩ := hlookup.host hnet hplain hzone
    refine ⟨result, ?_, hne, hall⟩
    have hresolve : resolveHostPort ⟨_, hnul⟩ defaultPort =
        .ok ((a.normalized.host net).bytes, digits a.normalized.hostPort) := by
      rw [resolveHostPort, splitHostPortToCString, doSplitHostPort_accepts hform]
      rfl
    rw [blockingResolveAddress, hresolve]
    simp only [hfound]
  · intro hzone
    exact hnet.stringToSockaddr_zone hzone _

/-- An IPv6 peer, and the same one seen through a link. -/
theorem peerString_comes_back_link :
    (∃ peer : CString, peerString .linux uncompressedText
        ⟨.inet6 (htons 443) 0 ⟨[32, 1, 13, 184, 0, 1, 0, 2, 0, 3, 0, 4, 0, 5, 0, 6], rfl⟩ 0, 28⟩ = some peer.bytes ∧
      peer.bytes = ascii "[2001:db8:1:2:3:4:5:6]:443" ∧
      ∃ result, blockingResolveAddress (numericLookup uncompressedText) peer none = .ok result ∧ result ≠ []) ∧
    stringToSockaddr uncompressedText (ascii "2001:db8:1:2:3:4:5:6%252") 443 = none := by
  obtain ⟨peer, ip, hpeer, -, -, hback, -⟩ := peerString_comes_back uncompressedText_documented
    (numericLookup_documented uncompressedText_documented)
    (a := ⟨.inet6 (htons 443) 0 ⟨[32, 1, 13, 184, 0, 1, 0, 2, 0, 3, 0, 4, 0, 5, 0, 6], rfl⟩ 0, 28⟩) ⟨.inr rfl, rfl⟩
    .linux
  have htext : peerString .linux uncompressedText
      ⟨.inet6 (htons 443) 0 ⟨[32, 1, 13, 184, 0, 1, 0, 2, 0, 3, 0, 4, 0, 5, 0, 6], rfl⟩ 0, 28⟩ =
        some (ascii "[2001:db8:1:2:3:4:5:6]:443") := by
    decide +kernel
  obtain ⟨result, hresult, hne, -⟩ := (hback (by decide)).2 none
  refine ⟨⟨peer, hpeer, ?_, result, hresult, hne⟩, ?_⟩
  · exact Option.some.inj (hpeer.symm.trans htext)
  · obtain ⟨peer, ip, -, hip, -, -, hzone⟩ := peerString_comes_back uncompressedText_documented
      (numericLookup_documented uncompressedText_documented)
      (a := ⟨.inet6 (htons 443) 0 ⟨[32, 1, 13, 184, 0, 1, 0, 2, 0, 3, 0, 4, 0, 5, 0, 6], rfl⟩ 2, 28⟩) ⟨.inr rfl, rfl⟩
      .linux
    have hipText : endpointIp .linux uncompressedText
        ⟨.inet6 (htons 443) 0 ⟨[32, 1, 13, 184, 0, 1, 0, 2, 0, 3, 0, 4, 0, 5, 0, 6], rfl⟩ 2, 28⟩ =
          some (ascii "2001:db8:1:2:3:4:5:6%252") := by
      decide +kernel
    rw [hipText] at hip
    have hnone := hzone (by decide)
    rw [← Option.some.inj hip] at hnone
    exact hnone

end RaptorLite
