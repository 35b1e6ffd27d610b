import Mathlib.Data.List.Basic

/-! # Socket addresses

`raptor_resolved_address` and the functions of `common/socket_util.cc` that map addresses between the families. An
address is kept by its fields: the port and the address bytes as they are in memory, in network order. -/

namespace RaptorLite

/-- `sa_family`. -/
inductive AddressFamily where
  /-- `AF_INET`. -/
  | inet
  /-- `AF_INET6`. -/
  | inet6
  /-- Any other family. -/
  | other (family : Nat)
  deriving DecidableEq, Repr

/-- A number of bytes. -/
abbrev ByteString (n : Nat) := { bytes : List UInt8 // bytes.length = n }

/-- The two bytes of a port, the higher one first. -/
structure NetPort where
  /-- The higher byte. -/
  high : UInt8
  /-- The lower byte. -/
  low : UInt8
  deriving DecidableEq, Repr

/-- `ntohs`. -/
def ntohs (port : NetPort) : Nat := port.high.toNat * 256 + port.low.toNat

/-- `htons` of a number cast to `uint16_t`. -/
def htons (port : Nat) : NetPort := ⟨UInt8.ofNat (port / 256), UInt8.ofNat port⟩

/-- Swapping the bytes of a port twice gives the port. -/
@[simp] theorem htons_ntohs (port : NetPort) : htons (ntohs port) = port := by
  obtain ⟨high, low⟩ := port
  have hhigh := high.toNat_lt
  have hlow := low.toNat_lt
  simp only [htons, ntohs, NetPort.mk.injEq]
  constructor
  · apply UInt8.toNat_inj.mp
    rw [UInt8.toNat_ofNat']
    omega
  · apply UInt8.toNat_inj.mp
    rw [UInt8.toNat_ofNat']
    omega

/-- A socket address. -/
inductive SockAddr where
  /-- `raptor_sockaddr_in`. -/
  | inet (port : NetPort) (addr : ByteString 4)
  /-- `raptor_sockaddr_in6`. -/
  | inet6 (port : NetPort) (flowinfo : UInt32) (addr : ByteString 16) (scopeId : UInt32)
  /-- An address of another family. -/
  | other (family : Nat) (data : List UInt8)
  deriving DecidableEq, Repr

/-- `sa_family` of an address. -/
def SockAddr.family : SockAddr → AddressFamily
  | .inet _ _ => .inet
  | .inet6 _ _ _ _ => .inet6
  | .other family _ => .other family

/-- `sizeof` the address structure of a family; that of others does not matter here. -/
def sockaddrSize : AddressFamily → Nat
  | .inet => 16
  | .inet6 => 28
  | .other _ => 0

/-- `raptor_resolved_address`. -/
structure ResolvedAddress where
  /-- The address. -/
  addr : SockAddr
  /-- Its length. -/
  len : Nat
  deriving DecidableEq, Repr

/-- `kV4MappedPrefix`. -/
def kV4MappedPrefix : List UInt8 := [0, 0, 0, 0, 0, 0, 0, 0, 0, 0, 0xff, 0xff]

/-- The last four bytes of an IPv6 address. -/
def lastFour (addr : ByteString 16) : ByteString 4 := ⟨addr.1.drop 12, by rw [List.length_drop, addr.2]⟩

/-- An IPv4 address behind the prefix. -/
def v4mappedBytes (addr : ByteString 4) : ByteString 16 :=
  ⟨kV4MappedPrefix ++ addr.1, by rw [List.length_append, addr.2]; rfl⟩

/-- `raptor_sockaddr_is_v4mapped`: the address normalised to IPv4 where it returns 1. -/
def sockaddrIsV4mapped (a : ResolvedAddress) : Option ResolvedAddress :=
  match a.addr with
  | .inet6 port _ addr _ =>
      if addr.1.take 12 = kV4MappedPrefix then some ⟨.inet port (lastFour addr), sockaddrSize .inet⟩ else none
  | _ => none

/-- `raptor_sockaddr_to_v4mapped`: the address mapped to IPv6 where it returns 1. -/
def sockaddrToV4mapped (a : ResolvedAddress) : Option ResolvedAddress :=
  match a.addr with
  | .inet port addr => some ⟨.inet6 port 0 (v4mappedBytes addr) 0, sockaddrSize .inet6⟩
  | _ => none

/-- `raptor_sockaddr_is_wildcard`: the port where it returns 1. -/
def sockaddrIsWildcard (a : ResolvedAddress) : Option Nat :=
  match ((sockaddrIsV4mapped a).getD a).addr with
  | .inet port addr => if addr.1 = List.replicate 4 0 then some (ntohs port) else none
  | .inet6 port _ addr _ => if addr.1 = List.replicate 16 0 then some (ntohs port) else none
  | .other _ _ => none

/-- `raptor_sockaddr_make_wildcard6`. -/
def sockaddrMakeWildcard6 (port : Nat) : ResolvedAddress :=
  ⟨.inet6 (htons port) 0 ⟨List.replicate 16 0, rfl⟩ 0, sockaddrSize .inet6⟩

/-! ### What an address denotes -/

/-- An IP address, with the mapped ones as IPv4. -/
inductive IpAddress where
  /-- An IPv4 address. -/
  | v4 (addr : ByteString 4)
  /-- An IPv6 address that is not mapped. -/
  | v6 (addr : ByteString 16)
  deriving DecidableEq, Repr

/-- The IP address and the port of a socket address. -/
def SockAddr.endpoint : SockAddr → Option (IpAddress × NetPort)
  | .inet port addr => some (.v4 addr, port)
  | .inet6 port _ addr _ =>
      if addr.1.take 12 = kV4MappedPrefix then some (.v4 (lastFour addr), port) else some (.v6 addr, port)
  | .other _ _ => none

/-- `0.0.0.0` and `::`. -/
def IpAddress.IsWildcard : IpAddress → Prop
  | .v4 addr => addr.1 = List.replicate 4 0
  | .v6 addr => addr.1 = List.replicate 16 0

/-- The same IP address up to mapping, or both the wildcard, and the same port. -/
def SameEndpoint (a b : SockAddr) : Prop :=
  ∃ ip ip' port, a.endpoint = some (ip, port) ∧ b.endpoint = some (ip', port) ∧
    (ip = ip' ∨ ip.IsWildcard ∧ ip'.IsWildcard)

/-- An address as `getaddrinfo` returns it: of one of the two families, with its length. -/
def ResolvedAddress.WellFormed (a : ResolvedAddress) : Prop :=
  (a.addr.family = .inet ∨ a.addr.family = .inet6) ∧ a.len = sockaddrSize a.addr.family

variable {a b : ResolvedAddress}

/-- Two addresses with the same endpoint are addresses of one endpoint. -/
theorem SameEndpoint.of_eq {x y : SockAddr} {e : IpAddress × NetPort} (hx : x.endpoint = some e)
    (hy : y.endpoint = some e) : SameEndpoint x y :=
  ⟨e.1, e.1, e.2, hx, hy, .inl rfl⟩

/-- A mapped IPv6 address stands for the IPv4 address in its last four bytes. -/
theorem endpoint_of_mapped {addr : ByteString 16} (h : addr.1.take 12 = kV4MappedPrefix) (port : NetPort)
    (flowinfo scopeId : UInt32) :
    (SockAddr.inet6 port flowinfo addr scopeId).endpoint = some (.v4 (lastFour addr), port) :=
  if_pos h

/-- An IPv6 address that is not mapped stands for itself. -/
theorem endpoint_of_not_mapped {addr : ByteString 16} (h : addr.1.take 12 ≠ kV4MappedPrefix) (port : NetPort)
    (flowinfo scopeId : UInt32) : (SockAddr.inet6 port flowinfo addr scopeId).endpoint = some (.v6 addr, port) :=
  if_neg h

/-- Every well-formed address has an endpoint. -/
theorem exists_endpoint (h : a.WellFormed) : ∃ e, a.addr.endpoint = some e := by
  obtain ⟨addr, len⟩ := a
  cases addr with
  | inet port addr => exact ⟨_, rfl⟩
  | inet6 port flowinfo addr scopeId =>
      by_cases hmapped : addr.1.take 12 = kV4MappedPrefix
      · exact ⟨_, endpoint_of_mapped hmapped port flowinfo scopeId⟩
      · exact ⟨_, endpoint_of_not_mapped hmapped port flowinfo scopeId⟩
  | other family data =>
      rcases h.1 with hfamily | hfamily
      · cases hfamily
      · cases hfamily

/-- The last four bytes of a mapped address are the IPv4 address. -/
theorem lastFour_v4mappedBytes (addr : ByteString 4) : lastFour (v4mappedBytes addr) = addr :=
  Subtype.ext (List.drop_left' rfl)

/-- The first twelve bytes of a mapped address are the mapped prefix. -/
theorem take_v4mappedBytes (addr : ByteString 4) : (v4mappedBytes addr).1.take 12 = kV4MappedPrefix :=
  List.take_left' rfl

/-- Normalising to IPv4 does not change what is denoted. -/
theorem sockaddrIsV4mapped_eq_some (h : sockaddrIsV4mapped a = some b) :
    b.addr.family = .inet ∧ b.len = sockaddrSize .inet ∧ b.addr.endpoint = a.addr.endpoint := by
  obtain ⟨addr, len⟩ := a
  cases addr with
  | inet port addr => cases h
  | inet6 port flowinfo addr scopeId =>
      simp only [sockaddrIsV4mapped] at h
      split at h
      · next hmapped =>
        cases h
        exact ⟨rfl, rfl, (endpoint_of_mapped hmapped port flowinfo scopeId).symm⟩
      · cases h
  | other family data => cases h

/-- Mapping to IPv6 does not change what is denoted. -/
theorem sockaddrToV4mapped_eq_some (h : sockaddrToV4mapped a = some b) :
    b.addr.family = .inet6 ∧ b.len = sockaddrSize .inet6 ∧ b.addr.endpoint = a.addr.endpoint := by
  obtain ⟨addr, len⟩ := a
  cases addr with
  | inet port addr =>
      cases h
      refine ⟨rfl, rfl, ?_⟩
      rw [endpoint_of_mapped (take_v4mappedBytes addr), lastFour_v4mappedBytes]
      rfl
  | inet6 port flowinfo addr scopeId => cases h
  | other family data => cases h

/-- The addresses that are mapped to IPv6 are those of IPv4. -/
theorem sockaddrToV4mapped_isSome (a : ResolvedAddress) :
    (sockaddrToV4mapped a).isSome ↔ a.addr.family = .inet := by
  obtain ⟨addr, len⟩ := a
  cases addr with
  | inet port addr => exact iff_of_true rfl rfl
  | inet6 port flowinfo addr scopeId => exact iff_of_false (by simp [sockaddrToV4mapped]) (by simp [SockAddr.family])
  | other family data => exact iff_of_false (by simp [sockaddrToV4mapped]) (by simp [SockAddr.family])

/-- An IPv6 address can be normalised if it denotes an IPv4 address. -/
theorem sockaddrIsV4mapped_isSome (hfamily : a.addr.family = .inet6) :
    (sockaddrIsV4mapped a).isSome ↔ ∃ addr port, a.addr.endpoint = some (.v4 addr, port) := by
  obtain ⟨addr, len⟩ := a
  cases addr with
  | inet port addr => cases hfamily
  | inet6 port flowinfo addr scopeId =>
      by_cases hmapped : addr.1.take 12 = kV4MappedPrefix
      · refine iff_of_true (by simp [sockaddrIsV4mapped, hmapped]) ?_
        exact ⟨_, _, endpoint_of_mapped hmapped port flowinfo scopeId⟩
      · refine iff_of_false (by simp [sockaddrIsV4mapped, hmapped]) ?_
        rintro ⟨addr', port', heq⟩
        rw [endpoint_of_not_mapped hmapped] at heq
        cases heq
  | other family data => cases hfamily

/-- The wildcards and their ports. -/
theorem sockaddrIsWildcard_eq_some {n : Nat} :
    sockaddrIsWildcard a = some n ↔ ∃ ip port, a.addr.endpoint = some (ip, port) ∧ ip.IsWildcard ∧ ntohs port = n := by
  obtain ⟨addr, len⟩ := a
  cases addr with
  | inet port addr =>
      simp [sockaddrIsWildcard, sockaddrIsV4mapped, SockAddr.endpoint, IpAddress.IsWildcard]
  | inet6 port flowinfo addr scopeId =>
      by_cases hmapped : addr.1.take 12 = kV4MappedPrefix
      · simp [sockaddrIsWildcard, sockaddrIsV4mapped, SockAddr.endpoint, hmapped, IpAddress.IsWildcard]
      · simp [sockaddrIsWildcard, sockaddrIsV4mapped, SockAddr.endpoint, hmapped, IpAddress.IsWildcard]
  | other family data => simp [sockaddrIsWildcard, sockaddrIsV4mapped, SockAddr.endpoint]

/-- The wildcard of IPv6 is what it is called. -/
theorem endpoint_makeWildcard6 (n : Nat) :
    (sockaddrMakeWildcard6 n).addr.endpoint = some (.v6 ⟨List.replicate 16 0, rfl⟩, htons n) :=
  endpoint_of_not_mapped (by decide) _ _ _

end RaptorLite
