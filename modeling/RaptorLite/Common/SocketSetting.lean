import RaptorLite.Common.SocketUtil

/-! # Sockets for addresses

The creation of a socket for a resolved address: `raptor_tcp_client_prepare_socket` (`linux/socket_setting.cc`)
and `raptor_create_socket` (`windows/socket_setting.cc`), with `raptor_create_dualstack_socket` of both. What the
system calls come to is an input. Both prefer an IPv6 socket and fall back to an IPv4 one for addresses of IPv4; the
address that is then used with the socket has to go with it. -/

namespace RaptorLite

/-- `raptor_dualstack_mode`. -/
inductive DualstackMode where
  /-- `RAPTOR_DSMODE_NONE`. -/
  | none
  /-- `RAPTOR_DSMODE_IPV4`. -/
  | ipv4
  /-- `RAPTOR_DSMODE_IPV6`. -/
  | ipv6
  /-- `RAPTOR_DSMODE_DUALSTACK`. -/
  | dualstack
  deriving DecidableEq, Repr

/-- The errors. -/
inductive SocketError where
  /-- `RAPTOR_POSIX_ERROR("socket")`. -/
  | socket
  /-- `RAPTOR_WINDOWS_ERROR(.., "WSASocket")`. -/
  | wsaSocket
  /-- One of the errors of `tcp_client_prepare_socket`. -/
  | prepare
  deriving DecidableEq, Repr

/-- What the calls come to: the descriptor for each family and whether `IPV6_V6ONLY` can be cleared. -/
structure SocketCalls (σ : Type) where
  /-- `socket` or `WSASocket`. -/
  socket : AddressFamily → σ
  /-- `raptor_set_socket_ipv6_only(fd, 0)` succeeds. -/
  clearIpv6Only : Bool

/-- A socket that was created. -/
structure NewSocket (σ : Type) where
  /-- Its descriptor. -/
  fd : σ
  /-- The family it was created with. -/
  family : AddressFamily
  /-- `*dsmode`. -/
  dsmode : DualstackMode
  deriving DecidableEq, Repr

section Dualstack

variable {σ : Type}

/-- The end of `raptor_create_dualstack_socket`: a socket of the given family. -/
def createPlain (usable : σ → Bool) (error : SocketError) (calls : SocketCalls σ) (family : AddressFamily) :
    Except SocketError (NewSocket σ) :=
  if usable (calls.socket family) then
    .ok ⟨calls.socket family, family, if family = .inet then .ipv4 else .none⟩
  else .error error

/-- `raptor_create_dualstack_socket`. The platforms differ in which descriptors they take for a dual stack socket
(`dual`) and which they return (`usable`), and in the error. -/
def createDualstack (dual usable : σ → Bool) (error : SocketError) (calls : SocketCalls σ) (a : ResolvedAddress) :
    Except SocketError (NewSocket σ) :=
  if a.addr.family = .inet6 then
    if dual (calls.socket .inet6) ∧ calls.clearIpv6Only then .ok ⟨calls.socket .inet6, .inet6, .dualstack⟩
    else if (sockaddrIsV4mapped a).isNone then
      -- not an IPv4 address: whatever we have got
      if usable (calls.socket .inet6) then .ok ⟨calls.socket .inet6, .inet6, .ipv6⟩ else .error error
    else createPlain usable error calls .inet
  else createPlain usable error calls a.addr.family

/-- The fallback to IPv4 is taken: no dual stack socket is to be had, but one of IPv4. -/
def FallsBack (dual usable : σ → Bool) (calls : SocketCalls σ) : Prop :=
  ¬ (dual (calls.socket .inet6) ∧ calls.clearIpv6Only) ∧ usable (calls.socket .inet)

variable {dual usable : σ → Bool} {error : SocketError} {calls : SocketCalls σ} {a : ResolvedAddress}

/-- Either the socket is one of IPv6, or the address is mapped and the socket is one of IPv4. -/
theorem createDualstack_ok {s : NewSocket σ} (hfamily : a.addr.family = .inet6)
    (h : createDualstack dual usable error calls a = .ok s) :
    s.family = .inet6 ∧ s.dsmode ≠ .ipv4 ∨
      s.family = .inet ∧ s.dsmode = .ipv4 ∧ (sockaddrIsV4mapped a).isSome ∧ FallsBack dual usable calls := by
  rw [createDualstack, if_pos hfamily] at h
  split at h
  · cases h
    exact .inl ⟨rfl, by simp⟩
  · next hdual =>
    split at h
    · split at h
      · cases h
        exact .inl ⟨rfl, by simp⟩
      · cases h
    · next hmapped =>
      unfold createPlain at h
      split at h
      · next husable =>
        cases h
        exact .inr ⟨rfl, rfl, Option.isSome_iff_ne_none.mpr (by simpa using hmapped), hdual, husable⟩
      · cases h

/-- The fallback for an address that is mapped. -/
theorem createDualstack_fallsBack (hfamily : a.addr.family = .inet6) (hmapped : (sockaddrIsV4mapped a).isSome)
    (h : FallsBack dual usable calls) :
    createDualstack dual usable error calls a = .ok ⟨calls.socket .inet, .inet, .ipv4⟩ := by
  obtain ⟨b, hb⟩ := Option.isSome_iff_exists.mp hmapped
  rw [createDualstack, if_pos hfamily]
  simp only [if_neg h.1, hb, Option.isNone_some, Bool.false_eq_true, if_false, createPlain, if_pos h.2]
  rfl

end Dualstack

/-! ### Linux -/

/-- `raptor_create_dualstack_socket`, for Linux: a descriptor 0 is good enough for a dual stack socket only. -/
def createDualstackSocket (calls : SocketCalls Int) (a : ResolvedAddress) : Except SocketError (NewSocket Int) :=
  createDualstack (fun fd => decide (0 ≤ fd)) (fun fd => decide (0 < fd)) .socket calls a

/-- `raptor_tcp_client_prepare_socket`: `*mapped_addr` and the socket; `prepare` says whether the options can be
set. -/
def tcpClientPrepareSocket (calls : SocketCalls Int) (prepare : Bool) (addr : ResolvedAddress) :
    Except SocketError (ResolvedAddress × NewSocket Int) :=
  let mapped := (sockaddrToV4mapped addr).getD addr
  (createDualstackSocket calls mapped).bind fun s =>
    let mapped := if s.dsmode = .ipv4 then (sockaddrIsV4mapped addr).getD addr else mapped
    if prepare then .ok (mapped, s) else .error .prepare

/-! ### Windows -/

/-- `raptor_create_dualstack_socket`, for Windows; none is `INVALID_SOCKET`. -/
def Windows.createDualstackSocket (calls : SocketCalls (Option Nat)) (a : ResolvedAddress) :
    Except SocketError (NewSocket (Option Nat)) :=
  createDualstack Option.isSome Option.isSome .wsaSocket calls a

/-- The address that `raptor_create_socket` makes of an address: mapped to IPv6, the wildcards to that of IPv6. -/
def Windows.mappedAddr (addr : ResolvedAddress) : ResolvedAddress :=
  let addr := (sockaddrToV4mapped addr).getD addr
  match sockaddrIsWildcard addr with
  | some port => sockaddrMakeWildcard6 port
  | none => addr

/-- `raptor_create_socket`: `*mapped_addr` and the socket. -/
def Windows.createSocket (calls : SocketCalls (Option Nat)) (addr : ResolvedAddress) :
    Except SocketError (ResolvedAddress × NewSocket (Option Nat)) :=
  (createDualstackSocket calls (mappedAddr addr)).map fun s => (mappedAddr addr, s)

/-! ### Addresses and sockets -/

/-- The address goes with a socket of the family, and denotes what the original does. -/
structure AddressAgrees (addr mapped : ResolvedAddress) (family : AddressFamily) : Prop where
  /-- The families agree. -/
  family_eq : mapped.addr.family = family
  /-- The length is that of the family. -/
  len_eq : mapped.len = sockaddrSize family
  /-- The same IP address and port. -/
  endpoint : SameEndpoint addr.addr mapped.addr

section Agrees

variable {addr : ResolvedAddress}

/-- The address mapped to IPv6. -/
theorem toV4mapped_agrees (h : addr.WellFormed) :
    ((sockaddrToV4mapped addr).getD addr).addr.family = .inet6 ∧
      ((sockaddrToV4mapped addr).getD addr).len = sockaddrSize .inet6 ∧
      ((sockaddrToV4mapped addr).getD addr).addr.endpoint = addr.addr.endpoint := by
  cases hmapped : sockaddrToV4mapped addr with
  | some b => exact sockaddrToV4mapped_eq_some hmapped
  | none =>
      have hnot : addr.addr.family ≠ .inet := by
        intro hinet
        rw [← sockaddrToV4mapped_isSome addr, hmapped] at hinet
        cases hinet
      have hfamily : addr.addr.family = .inet6 := h.1.resolve_left hnot
      exact ⟨hfamily, by rw [← hfamily]; exact h.2, rfl⟩

/-- The client socket of Linux: the address is converted back where the socket falls back. -/
theorem tcpClientPrepareSocket_agrees (h : addr.WellFormed) {calls : SocketCalls Int} {prepare : Bool}
    {mapped : ResolvedAddress} {s : NewSocket Int} (hok : tcpClientPrepareSocket calls prepare addr = .ok (mapped, s)) :
    AddressAgrees addr mapped s.family := by
  obtain ⟨hfamily, hlen, hendpoint⟩ := toV4mapped_agrees h
  obtain ⟨e, he⟩ := exists_endpoint h
  cases hcreate : createDualstackSocket calls ((sockaddrToV4mapped addr).getD addr) with
  | error f =>
      rw [tcpClientPrepareSocket, hcreate] at hok
      cases hok
  | ok s' =>
      rw [tcpClientPrepareSocket, hcreate] at hok
      simp only [Except.bind] at hok
      split at hok
      · cases hok
        rcases createDualstack_ok hfamily hcreate with ⟨hsocket, hmode⟩ | ⟨hsocket, hmode, hmapped, -⟩
        · rw [if_neg hmode, hsocket]
          exact ⟨hfamily, hlen, .of_eq he (hendpoint.trans he)⟩
        · rw [if_pos hmode, hsocket]
          cases hback : sockaddrIsV4mapped addr with
          | some b =>
              obtain ⟨hbfamily, hblen, hbendpoint⟩ := sockaddrIsV4mapped_eq_some hback
              exact ⟨hbfamily, hblen, .of_eq he (hbendpoint.trans he)⟩
          | none =>
              -- the original is no mapped address, so it was one of IPv4
              have hinet : addr.addr.family = .inet := by
                rw [← sockaddrToV4mapped_isSome addr]
                cases hto : sockaddrToV4mapped addr with
                | some b => rfl
                | none =>
                    rw [hto, Option.getD_none, hback] at hmapped
                    cases hmapped
              exact ⟨hinet, by rw [← hinet]; exact h.2, .of_eq he he⟩
      · cases hok

/-- An address of IPv4, mapped or not, that is not the wildcard. -/
def IsIpv4Host (addr : ResolvedAddress) : Prop :=
  ∃ ip port, addr.addr.endpoint = some (.v4 ip, port) ∧ ¬ (IpAddress.v4 ip).IsWildcard

namespace Windows

/-- The address of Windows: always one of IPv6, with what the original denotes. -/
theorem mappedAddr_agrees (h : addr.WellFormed) : AddressAgrees addr (mappedAddr addr) .inet6 := by
  obtain ⟨hfamily, hlen, hendpoint⟩ := toV4mapped_agrees h
  obtain ⟨e, he⟩ := exists_endpoint h
  unfold mappedAddr
  cases hwild : sockaddrIsWildcard ((sockaddrToV4mapped addr).getD addr) with
  | none =>
      simp only [hwild]
      exact ⟨hfamily, hlen, .of_eq he (hendpoint.trans he)⟩
  | some n =>
      simp only [hwild]
      obtain ⟨ip, port, hip, hwildcard, rfl⟩ := sockaddrIsWildcard_eq_some.mp hwild
      refine ⟨rfl, rfl, ip, .v6 ⟨List.replicate 16 0, rfl⟩, port, hendpoint.symm.trans hip, ?_, .inr ⟨hwildcard, rfl⟩⟩
      rw [endpoint_makeWildcard6, htons_ntohs]

/-- The fallback is open to the hosts of IPv4. -/
theorem isV4mapped_mappedAddr (h : addr.WellFormed) :
    (sockaddrIsV4mapped (mappedAddr addr)).isSome ↔ IsIpv4Host addr := by
  obtain ⟨-, -, hendpoint⟩ := toV4mapped_agrees h
  rw [sockaddrIsV4mapped_isSome (mappedAddr_agrees h).family_eq]
  unfold mappedAddr
  cases hwild : sockaddrIsWildcard ((sockaddrToV4mapped addr).getD addr) with
  | none =>
      simp only [hwild, hendpoint]
      constructor
      · rintro ⟨ip, port, hip⟩
        refine ⟨ip, port, hip, fun hwildcard => ?_⟩
        rw [sockaddrIsWildcard_eq_some.mpr ⟨_, _, hendpoint.trans hip, hwildcard, rfl⟩] at hwild
        cases hwild
      · rintro ⟨ip, port, hip, -⟩
        exact ⟨ip, port, hip⟩
  | some n =>
      simp only [hwild]
      obtain ⟨ip, port, hip, hwildcard, rfl⟩ := sockaddrIsWildcard_eq_some.mp hwild
      refine iff_of_false ?_ ?_
      · rintro ⟨ip', port', heq⟩
        rw [endpoint_makeWildcard6] at heq
        cases heq
      · rintro ⟨ip', port', heq, hnot⟩
        rw [← hendpoint, hip] at heq
        cases heq
        exact hnot hwildcard

/-- The socket of Windows goes with its address except where the fallback is taken. -/
theorem createSocket_agrees_iff (h : addr.WellFormed) (calls : SocketCalls (Option Nat)) :
    (∀ mapped s, createSocket calls addr = .ok (mapped, s) → AddressAgrees addr mapped s.family) ↔
      ¬ (IsIpv4Host addr ∧ FallsBack Option.isSome Option.isSome calls) := by
  have hagrees := mappedAddr_agrees h
  rw [← isV4mapped_mappedAddr h]
  constructor
  · rintro hall ⟨hmapped, hback⟩
    have hcreate : createSocket calls addr = .ok (mappedAddr addr, ⟨calls.socket .inet, .inet, .ipv4⟩) := by
      rw [createSocket, createDualstackSocket, createDualstack_fallsBack hagrees.family_eq hmapped hback]
      rfl
    have hfamily := (hall _ _ hcreate).family_eq
    rw [hagrees.family_eq] at hfamily
    cases hfamily
  · intro hnot mapped s hok
    cases hcreate : createDualstackSocket calls (mappedAddr addr) with
    | error f =>
        rw [createSocket, hcreate] at hok
        cases hok
    | ok s' =>
        rw [createSocket, hcreate] at hok
        cases hok
        rcases createDualstack_ok hagrees.family_eq hcreate with ⟨hsocket, -⟩ | ⟨-, -, hmapped, hback⟩
        · rw [hsocket]
          exact hagrees
        · exact absurd ⟨hmapped, hback⟩ hnot

end Windows

/-- The socket and the address used with it agree: always on Linux, and on Windows unless an address of IPv4 other
than the wildcard has to be used with a socket of IPv4. -/
theorem socket_address_agrees_iff (addr : ResolvedAddress) (h : addr.WellFormed) (calls : SocketCalls Int)
    (prepare : Bool) (calls' : SocketCalls (Option Nat)) :
    ((∀ mapped s, tcpClientPrepareSocket calls prepare addr = .ok (mapped, s) → AddressAgrees addr mapped s.family) ∧
      ∀ mapped s, Windows.createSocket calls' addr = .ok (mapped, s) → AddressAgrees addr mapped s.family) ↔
      ¬ (IsIpv4Host addr ∧ FallsBack Option.isSome Option.isSome calls') := by
  rw [← Windows.createSocket_agrees_iff h]
  exact and_iff_right fun mapped s hok => tcpClientPrepareSocket_agrees h hok

/-- `127.0.0.1`, port 80. -/
def loopback : ResolvedAddress := ⟨.inet ⟨0, 80⟩ ⟨[127, 0, 0, 1], rfl⟩, 16⟩

/-- With a dual stack socket, both platforms connect to `::ffff:127.0.0.1`. -/
theorem loopback_agrees_dualstack :
    ∃ mapped, tcpClientPrepareSocket ⟨fun _ => 5, true⟩ true loopback = .ok (mapped, ⟨5, .inet6, .dualstack⟩) ∧
      Windows.createSocket ⟨fun _ => some 5, true⟩ loopback = .ok (mapped, ⟨some 5, .inet6, .dualstack⟩) ∧
      AddressAgrees loopback mapped .inet6 := by
  have hall := (socket_address_agrees_iff loopback ⟨.inl rfl, rfl⟩ ⟨fun _ => 5, true⟩ true ⟨fun _ => some 5, true⟩).mpr
    (fun hback => hback.2.1 ⟨rfl, rfl⟩)
  exact ⟨_, rfl, rfl, hall.1 _ _ rfl⟩

/-- Without IPv6, Windows has a socket of IPv4 and an address of IPv6. -/
theorem loopback_disagrees_without_ipv6 :
    ∃ mapped, Windows.createSocket ⟨fun f => if f = .inet then some 5 else none, true⟩ loopback =
      .ok (mapped, ⟨some 5, .inet, .ipv4⟩) ∧ ¬ AddressAgrees loopback mapped .inet := by
  refine ⟨⟨.inet6 ⟨0, 80⟩ 0 (v4mappedBytes ⟨[127, 0, 0, 1], rfl⟩) 0, 28⟩, by decide, fun hagrees => ?_⟩
  exact absurd hagrees.family_eq (by decide)

end Agrees

end RaptorLite
