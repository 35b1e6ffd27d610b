import RaptorLite.Common.HostPort
import RaptorLite.Common.InetText

/-! # The text of an address

The functions of `common/socket_util.cc` between an address and its text, the members of `EndpointImpl` that call
them, and `raptor_blocking_resolve_address`, which gets such a text back from the user. `getaddrinfo` is the system's:
it is a parameter, and `LookupDocumented` states what is documented of it.

What a user sees of a peer is normalised: a mapped address appears as IPv4. `SockAddr.zone` is the scope that is
left then, and an address is known by its endpoint and its zone. -/

namespace RaptorLite

/-! ### Parts of an address -/

/-- `INET6_ADDRSTRLEN`. -/
def inet6AddrstrLen : Platform → Nat
  | .linux => 46
  | .windows => 65

namespace SockAddr

/-- `sa_family` as a number. -/
def familyNumber (platform : Platform) : SockAddr → Nat
  | .inet _ _ => 2
  | .inet6 _ _ _ _ =>
      match platform with
      | .linux => 10
      | .windows => 23
  | .other family _ => family

/-- `sin6_scope_id`, 0 in the other families. -/
def scopeId : SockAddr → UInt32
  | .inet6 _ _ _ scopeId => scopeId
  | _ => 0

/-- `ntohs` of the port, 0 in the other families. -/
def hostPort : SockAddr → Nat
  | .inet port _ => ntohs port
  | .inet6 port _ _ _ => ntohs port
  | .other _ _ => 0

/-- `raptor_inet_ntop` of the address bytes, null if the text does not fit into `size` bytes or there are no such
bytes. -/
def inetNtop (net : InetText) (size : Nat) : SockAddr → Option CString
  | .inet _ addr => if (net.ntop4 addr).bytes.length < size then some (net.ntop4 addr) else none
  | .inet6 _ _ addr _ => if (net.ntop6 addr).bytes.length < size then some (net.ntop6 addr) else none
  | .other _ _ => none

end SockAddr

/-- The address itself, or what it is mapped from. -/
def ResolvedAddress.normalized (a : ResolvedAddress) : SockAddr := ((sockaddrIsV4mapped a).getD a).addr

/-- A string that is read up to its end holds no NUL. -/
theorem nul_notMem_of_cString {memory s : List UInt8} (h : cString memory = some s) : 0 ∉ s := by
  induction memory generalizing s with
  | nil => cases h
  | cons c rest ih =>
      rw [cString] at h
      split at h
      · cases h
        exact List.not_mem_nil
      · next hc =>
        obtain ⟨t, ht, rfl⟩ := Option.map_eq_some_iff.mp h
        rw [List.mem_cons, not_or]
        exact ⟨Ne.symm hc, ih ht⟩

/-- The string that starts at a pointer. -/
def CString.read (memory : List UInt8) : Option CString :=
  match h : cString memory with
  | some bytes => some ⟨bytes, nul_notMem_of_cString h⟩
  | none => none

/-! ### From addresses to text -/

/-- `raptor_asprintf(&host_with_scope, "%s%%25%u", ..)`. -/
def hostWithScope (platform : Platform) (ntopBuf : CString) (scopeId : UInt32) :
    Option (Int × Option (List UInt8)) :=
  raptorAsprintf platform [.s ntopBuf.memory, .text (ascii "%25"), .text (digits scopeId.toNat)]

/-- `raptor_sockaddr_to_string`: what it returns and `*out`. -/
def sockaddrToString (platform : Platform) (net : InetText) (a : ResolvedAddress) (normalize : Bool) :
    Option (Int × Option (List UInt8)) :=
  let addr := if normalize then a.normalized else a.addr
  let port := Int32.ofNat addr.hostPort
  match addr.inetNtop net (inet6AddrstrLen platform) with
  | some ntopBuf =>
      if addr.scopeId ≠ 0 then
        match hostWithScope platform ntopBuf addr.scopeId with
        | some (_, some memory) => (CString.read memory).bind fun host => joinHostPort platform host port
        -- a null host is read
        | _ => none
      else joinHostPort platform ntopBuf port
  | none =>
      raptorAsprintf platform
        [.text (ascii "(sockaddr family="), .d (Int32.ofNat (addr.familyNumber platform)), .text (ascii ")")]

/-- `memcpy` to the start of a buffer, as far as there is one. -/
def copyInto (buf text : List UInt8) : Option (List UInt8) :=
  if text.length ≤ buf.length then some (text ++ buf.drop text.length) else none

/-- `raptor_sockaddr_get_ip`: what it returns and what is in the buffer then. -/
def sockaddrGetIp (platform : Platform) (net : InetText) (a : ResolvedAddress) (dst : List UInt8) :
    Option (Int × List UInt8) :=
  let addr := a.normalized
  match addr.inetNtop net (inet6AddrstrLen platform) with
  | some ntopBuf =>
      if addr.scopeId ≠ 0 then
        match hostWithScope platform ntopBuf addr.scopeId with
        | some (ret, some memory) =>
            if ret > dst.length then (copyInto dst (memory.take dst.length)).map fun buf => ((dst.length : Int), buf)
            else if ret > 0 then (copyInto dst (memory.take ret.toNat)).map fun buf => (ret, buf)
            else some (0, dst)
        | some (_, none) => some (0, dst)
        | none => none
      else (copyInto dst ntopBuf.bytes).map fun buf => ((ntopBuf.bytes.length : Int), buf)
  | none => some (0, dst)

/-- `raptor_sockaddr_get_port`; `AF_UNIX` is 1. -/
def sockaddrGetPort (a : ResolvedAddress) : Nat :=
  match a.addr with
  | .inet port _ => ntohs port
  | .inet6 port _ _ _ => ntohs port
  | .other family _ => if family = 1 then 1 else 0

/-- `EndpointImpl::PeerString`. -/
def peerString (platform : Platform) (net : InetText) (remoteAddr : ResolvedAddress) : Option (List UInt8) :=
  (sockaddrToString platform net remoteAddr true).map fun r =>
    match r.2 with
    | some ptr => ptr.take r.1.toNat
    | none => []

/-- `EndpointImpl::LocalIp` and `EndpointImpl::RemoteIp`. -/
def endpointIp (platform : Platform) (net : InetText) (addr : ResolvedAddress) : Option (List UInt8) :=
  (sockaddrGetIp platform net addr (List.replicate 128 0)).map fun r => r.2.take r.1.toNat

/-- `EndpointImpl::LocalPort` and `EndpointImpl::RemotePort`. -/
def endpointPort (addr : ResolvedAddress) : UInt16 := UInt16.ofNat (sockaddrGetPort addr)

/-! ### From text to addresses -/

/-- `raptor_sockaddr_set_port`: whether it returns 1, and the address. -/
def sockaddrSetPort (a : ResolvedAddress) (port : Int) : Bool × ResolvedAddress :=
  if 0 ≤ port ∧ port < 65536 then
    match a.addr with
    | .inet _ addr => (true, { a with addr := .inet (htons port.toNat) addr })
    | .inet6 _ flowinfo addr scopeId => (true, { a with addr := .inet6 (htons port.toNat) flowinfo addr scopeId })
    | .other _ _ => (false, a)
  else (false, a)

/-- `raptor_string_to_sockaddr`; the program aborts on a text that neither family parses. -/
def stringToSockaddr (net : InetText) (addr : List UInt8) (port : Int) : Option ResolvedAddress :=
  match net.pton6 addr with
  | some bytes => some (sockaddrSetPort ⟨.inet6 ⟨0, 0⟩ 0 bytes 0, sockaddrSize .inet6⟩ port).2
  | none =>
      match net.pton4 addr with
      | some bytes => some (sockaddrSetPort ⟨.inet ⟨0, 0⟩ bytes, sockaddrSize .inet⟩ port).2
      | none => none

/-- The errors of `raptor_blocking_resolve_address`. -/
inductive ResolveError where
  /-- `RAPTOR_ERROR_FROM_FORMAT`, with its text. -/
  | format (text : List UInt8)
  /-- `RAPTOR_POSIX_ERROR`, with the name of the function. -/
  | posix (api : String)
  deriving DecidableEq, Repr

/-- `svc`: the services that are known by name. -/
def knownServices : List (List UInt8 × List UInt8) :=
  [(ascii "http", ascii "80"), (ascii "https", ascii "443")]

/-- `raptor_blocking_resolve_address`: `*addresses`, or the error. `getaddrinfo` gives what it finds for a host and a
service, or fails. -/
def blockingResolveAddress (getaddrinfo : List UInt8 → List UInt8 → Option (List ResolvedAddress)) (name : CString)
    (defaultPort : Option (List UInt8)) : Except ResolveError (List ResolvedAddress) :=
  match resolveHostPort name defaultPort with
  | .error text => .error (.format text)
  | .ok (host, port) =>
      match getaddrinfo host port with
      | some result => .ok result
      | none =>
          -- retry if a well-known service name is recognized
          match (knownServices.find? fun svc => port = svc.1).bind fun svc => getaddrinfo host svc.2 with
          | some result => .ok result
          | none => .error (.posix "getaddrinfo")

/-! ### What a user sees -/

/-- The scope that is left of an address. -/
def ResolvedAddress.zone (a : ResolvedAddress) : UInt32 := a.normalized.scopeId

/-- An address that normalising leaves alone. -/
def SockAddr.Plain : SockAddr → Prop
  | .inet _ _ => True
  | .inet6 _ _ addr _ => addr.1.take 12 ≠ kV4MappedPrefix
  | .other _ _ => False

/-- The text of the address bytes. -/
def SockAddr.ipText (net : InetText) : SockAddr → List UInt8
  | .inet _ addr => (net.ntop4 addr).bytes
  | .inet6 _ _ addr _ => (net.ntop6 addr).bytes
  | .other _ _ => []

/-- What follows it. -/
def zoneText (scopeId : UInt32) : List UInt8 :=
  if scopeId ≠ 0 then ascii "%25" ++ digits scopeId.toNat else []

variable {platform : Platform} {net : InetText} {a b : ResolvedAddress} {x y : SockAddr}

/-- A port is below `2 ^ 16`. -/
theorem ntohs_lt (port : NetPort) : ntohs port < 65536 := by
  have hhigh := port.high.toNat_lt
  have hlow := port.low.toNat_lt
  rw [ntohs]
  omega

/-- So is the port of an address in host order. -/
theorem SockAddr.hostPort_lt (x : SockAddr) : x.hostPort < 65536 := by
  cases x with
  | inet port addr => exact ntohs_lt port
  | inet6 port flowinfo addr scopeId => exact ntohs_lt port
  | other family data => exact Nat.zero_lt_succ _

/-- An address of one of the two families is plain already or mapped from IPv4. -/
theorem normalized_cases (h : a.WellFormed) :
    a.normalized = a.addr ∧ a.addr.Plain ∨
      ∃ port flowinfo addr scopeId, a.addr = .inet6 port flowinfo addr scopeId ∧
        a.normalized = .inet port (lastFour addr) := by
  obtain ⟨addr, len⟩ := a
  cases addr with
  | inet port addr => exact .inl ⟨rfl, trivial⟩
  | inet6 port flowinfo addr scopeId =>
      by_cases hmapped : addr.1.take 12 = kV4MappedPrefix
      · refine .inr ⟨port, flowinfo, addr, scopeId, rfl, ?_⟩
        simp [ResolvedAddress.normalized, sockaddrIsV4mapped, hmapped]
      · refine .inl ⟨?_, hmapped⟩
        simp [ResolvedAddress.normalized, sockaddrIsV4mapped, hmapped]
  | other family data =>
      rcases h.1 with hfamily | hfamily
      · cases hfamily
      · cases hfamily

/-- Undoing the mapping leaves an address that is not mapped. -/
theorem normalized_plain (h : a.WellFormed) : a.normalized.Plain := by
  rcases normalized_cases h with ⟨hsame, hplain⟩ | ⟨port, flowinfo, addr, scopeId, -, hmapped⟩
  · rw [hsame]
    exact hplain
  · rw [hmapped]
    exact trivial

/-- Undoing the mapping does not change the endpoint that is denoted. -/
theorem endpoint_normalized (a : ResolvedAddress) : a.normalized.endpoint = a.addr.endpoint := by
  unfold ResolvedAddress.normalized
  cases hmapped : sockaddrIsV4mapped a with
  | none => rfl
  | some b => exact (sockaddrIsV4mapped_eq_some hmapped).2.2

/-- Normalising keeps the port. -/
theorem sockaddrGetPort_eq (h : a.WellFormed) : sockaddrGetPort a = a.normalized.hostPort := by
  rcases normalized_cases h with ⟨hsame, hplain⟩ | ⟨port, flowinfo, addr, scopeId, haddr, hmapped⟩
  · rw [hsame, sockaddrGetPort]
    -- of a third family no address is plain
    cases haddr : a.addr with
    | inet port addr => rfl
    | inet6 port flowinfo addr scopeId => rfl
    | other family data =>
        rw [haddr] at hplain
        exact hplain.elim
  · rw [sockaddrGetPort, haddr, hmapped]
    rfl

/-- The port of an endpoint is that of its address. -/
theorem endpointPort_toNat (h : a.WellFormed) : (endpointPort a).toNat = a.normalized.hostPort := by
  rw [endpointPort, sockaddrGetPort_eq h, UInt16.toNat_ofNat']
  exact Nat.mod_eq_of_lt a.normalized.hostPort_lt

/-! #### Characters -/

/-- The characters of the text of an address. -/
theorem InetText.Documented.ipText_chars (hnet : net.Documented) {c : UInt8} (h : c ∈ x.ipText net) : IsInetChar c := by
  cases x with
  | inet port addr => exact (hnet.chars_pton4 _ _ (hnet.pton4_ntop4 addr) c h).1
  | inet6 port flowinfo addr scopeId => exact hnet.chars_pton6 _ _ (hnet.pton6_ntop6 addr) c h
  | other family data => cases h

/-- The text of an address is at most 45 characters long. -/
theorem InetText.Documented.length_ipText (hnet : net.Documented) (x : SockAddr) : (x.ipText net).length ≤ 45 := by
  cases x with
  | inet port addr => exact Nat.le_trans (hnet.length_ntop4 addr) (by decide)
  | inet6 port flowinfo addr scopeId => exact hnet.length_ntop6 addr
  | other family data => exact Nat.zero_le _

/-- The text of an address holds no percent sign. -/
theorem InetText.Documented.percent_notMem (hnet : net.Documented) (x : SockAddr) : percent ∉ x.ipText net :=
  fun h => absurd (hnet.ipText_chars h) (by decide)

/-- The zone is written with digits behind `%25`. -/
theorem mem_zoneText {scopeId : UInt32} {c : UInt8} (h : c ∈ zoneText scopeId) : IsInetChar c ∨ c = percent := by
  unfold zoneText at h
  split at h
  · rcases List.mem_append.mp h with h | h
    · have htext : ascii "%25" = [percent, 50, 53] := by decide
      rw [htext] at h
      simp only [List.mem_cons, List.not_mem_nil, or_false] at h
      rcases h with rfl | rfl | rfl
      · exact .inr rfl
      · exact .inl (by decide)
      · exact .inl (by decide)
    · exact .inl (isInetChar_of_digit (mem_digits h))
  · cases h

/-- A zone is left out, or begins with a percent sign. -/
theorem zoneText_eq_nil_or (scopeId : UInt32) : zoneText scopeId = [] ∨ ∃ rest, zoneText scopeId = percent :: rest := by
  unfold zoneText
  split
  · exact .inr ⟨_, rfl⟩
  · exact .inl rfl

/-- A scope id has at most ten digits. -/
theorem length_digits_uint32 (n : UInt32) : (digits n.toNat).length ≤ 10 := by
  have hn := n.toNat_lt
  rw [digits, List.length_map]
  exact (Nat.length_toDigits_le_iff (by decide) (by decide)).mpr (by omega)

/-- A zone is at most 13 characters long. -/
theorem length_zoneText (scopeId : UInt32) : (zoneText scopeId).length ≤ 13 := by
  have hdigits := length_digits_uint32 scopeId
  have hstart : (ascii "%25").length = 3 := by decide
  unfold zoneText
  split
  · rw [List.length_append]
    omega
  · exact Nat.zero_le _

/-- A port is written as a number without a sign. -/
theorem decimal_ofNat_port {n : Nat} (h : n < 65536) : decimal (Int32.ofNat n).toInt = digits n := by
  have htoInt : (Int32.ofNat n).toInt = n := by
    rw [Int32.toInt_ofNat_of_lt (by omega)]
  rw [htoInt, decimal, if_neg (by omega), Int.toNat_natCast]

/-- Different zones have different texts. -/
theorem zoneText_injective {s t : UInt32} (h : zoneText s = zoneText t) : s = t := by
  unfold zoneText at h
  by_cases hs : s = 0
  · by_cases ht : t = 0
    · rw [hs, ht]
    · rw [if_neg (not_not.mpr hs), if_pos ht] at h
      cases h
  · by_cases ht : t = 0
    · rw [if_pos hs, if_neg (not_not.mpr ht)] at h
      cases h
    · rw [if_pos hs, if_pos ht] at h
      exact UInt32.toNat_inj.mp (digits_injective (List.append_cancel_left h))

/-- The host of a normalised address as it is printed. -/
def SockAddr.host (net : InetText) (x : SockAddr) : CString where
  bytes := x.ipText net ++ zoneText x.scopeId
  noNul := by
    have hzone : 0 ∉ zoneText x.scopeId := by
      intro h
      rcases mem_zoneText h with h | h
      · exact absurd h (by decide)
      · exact absurd h (by decide)
    have hip : 0 ∉ x.ipText net := by
      cases x with
      | inet port addr => exact (net.ntop4 addr).noNul
      | inet6 port flowinfo addr scopeId => exact (net.ntop6 addr).noNul
      | other family data => exact List.not_mem_nil
    exact List.not_mem_append hip hzone

/-- Without a zone the host is the text of the address. -/
theorem SockAddr.host_of_no_zone (x : SockAddr) (net : InetText) (hscope : x.scopeId = 0) :
    (x.host net).bytes = x.ipText net := by
  simp [SockAddr.host, zoneText, hscope]

/-- With a zone there is a percent sign in the host. -/
theorem SockAddr.percent_mem_host (x : SockAddr) (net : InetText) (hscope : x.scopeId ≠ 0) :
    percent ∈ (x.host net).bytes := by
  have hzone : percent ∈ zoneText x.scopeId := by
    rw [zoneText, if_pos hscope]
    exact List.mem_append_left _ (by decide)
  exact List.mem_append_right _ hzone

/-- The characters of a host. -/
theorem InetText.Documented.mem_host (hnet : net.Documented) {c : UInt8} (h : c ∈ (x.host net).bytes) :
    IsInetChar c ∨ c = percent := by
  rcases List.mem_append.mp h with h | h
  · exact .inl (hnet.ipText_chars h)
  · exact mem_zoneText h

/-- A printed host has no brackets. -/
theorem InetText.Documented.host_unbracketed (hnet : net.Documented) (x : SockAddr) :
    (x.host net).bytes.head? ≠ some openBracket ∧ closeBracket ∉ (x.host net).bytes := by
  constructor
  · intro h
    rcases hnet.mem_host (List.mem_of_mem_head? h) with h | h
    · exact absurd h (by decide)
    · exact absurd h (by decide)
  · intro h
    rcases hnet.mem_host h with h | h
    · exact absurd h (by decide)
    · exact absurd h (by decide)

/-- A host is at most 58 characters long. -/
theorem InetText.Documented.length_host (hnet : net.Documented) (x : SockAddr) : (x.host net).bytes.length ≤ 58 := by
  have hip := hnet.length_ipText x
  have hzone := length_zoneText x.scopeId
  rw [SockAddr.host, List.length_append]
  omega

/-- Cutting at the first percent sign is unique. -/
theorem append_zoneText_inj {l r : List UInt8} {s t : UInt32} (hl : percent ∉ l) (hr : percent ∉ r)
    (heq : l ++ zoneText s = r ++ zoneText t) : l = r ∧ s = t := by
  -- what is before the first percent sign
  have hcut : ∀ (u : List UInt8) (z : UInt32), percent ∉ u → (u ++ zoneText z).takeWhile (· ≠ percent) = u := by
    intro u z hu
    have hall : ∀ c ∈ u, decide (c ≠ percent) = true := by
      intro c hc
      exact decide_eq_true (fun heq => hu (heq ▸ hc))
    rw [List.takeWhile_append_of_pos hall]
    rcases zoneText_eq_nil_or z with hz | ⟨rest, hz⟩
    · rw [hz, List.takeWhile_nil, List.append_nil]
    · rw [hz, List.takeWhile_cons_of_neg (by simp), List.append_nil]
  have hlr : l = r := by
    rw [← hcut l s hl, heq, hcut r t hr]
  subst hlr
  exact ⟨rfl, zoneText_injective (List.append_cancel_left heq)⟩

/-! #### The functions -/

/-- Reading the memory of a string gives the string. -/
@[simp] theorem CString.read_memory (s : CString) : CString.read s.memory = some s := by
  unfold CString.read
  split
  · next bytes hbytes =>
    rw [s.cString_memory] at hbytes
    cases hbytes
    rfl
  · next hnone =>
    rw [s.cString_memory] at hnone
    cases hnone

/-- `inet_ntop` has room for every address. -/
theorem InetText.Documented.inetNtop_eq (hnet : net.Documented) (hplain : x.Plain) (platform : Platform) :
    ∃ s : CString, x.inetNtop net (inet6AddrstrLen platform) = some s ∧ s.bytes = x.ipText net := by
  have hroom : 46 ≤ inet6AddrstrLen platform := by
    cases platform with
    | linux => decide
    | windows => decide
  have hlen := hnet.length_ipText x
  cases x with
  | inet port addr =>
      exact ⟨net.ntop4 addr, if_pos (Nat.lt_of_le_of_lt hlen hroom), rfl⟩
  | inet6 port flowinfo addr scopeId =>
      exact ⟨net.ntop6 addr, if_pos (Nat.lt_of_le_of_lt hlen hroom), rfl⟩
  | other family data => exact hplain.elim

/-- The host with its zone, as `raptor_asprintf` makes it. -/
theorem hostWithScope_eq (platform : Platform) (s : CString) {scopeId : UInt32} (h : scopeId ≠ 0) :
    hostWithScope platform s scopeId = some (asprintfResult (s.bytes ++ zoneText scopeId)) := by
  rw [hostWithScope, raptorAsprintf_eq, zoneText, if_pos h]
  simp [formatted, FormatPiece.render]

/-- A text whose length is an `int` is printed. -/
theorem asprintfResult_of_short {text : List UInt8} (h : text.length < 2 ^ 31) :
    asprintfResult text = ((text.length : Int), some (text ++ [0])) := if_pos h

/-- The host with its zone is what `raptor_asprintf` makes. -/
theorem InetText.Documented.hostWithScope_host (hnet : net.Documented) (platform : Platform) {s : CString}
    (hs : s.bytes = x.ipText net) (hscope : x.scopeId ≠ 0) :
    hostWithScope platform s x.scopeId =
      some (((x.host net).bytes.length : Int), some (x.host net).memory) := by
  have hlen := hnet.length_host x
  have htext : s.bytes ++ zoneText x.scopeId = (x.host net).bytes := by
    rw [hs]
    rfl
  rw [hostWithScope_eq platform s hscope, htext, asprintfResult_of_short (by omega)]
  rfl

/-- Joining adds at most 14 characters to the host. -/
theorem length_joinedText_le (host : CString) (port : Int32) :
    (joinedText host port).length ≤ host.bytes.length + 14 := by
  have hport := length_decimal_le port
  unfold joinedText
  split
  · simp only [List.length_cons, List.length_append]
    omega
  · simp only [List.length_cons, List.length_append]
    omega

/-- The text of an address that was normalised. -/
theorem InetText.Documented.sockaddrToString_eq (hnet : net.Documented) (h : a.WellFormed) (platform : Platform) :
    sockaddrToString platform net a true =
      some (((joinedText (a.normalized.host net) (Int32.ofNat a.normalized.hostPort)).length : Int),
        some (joinedText (a.normalized.host net) (Int32.ofNat a.normalized.hostPort) ++ [0])) := by
  have hhost := hnet.length_host a.normalized
  have hjoined := length_joinedText_le (a.normalized.host net) (Int32.ofNat a.normalized.hostPort)
  obtain ⟨ntopBuf, hntop, hbytes⟩ := hnet.inetNtop_eq (normalized_plain h) platform
  have hjoin : joinHostPort platform (a.normalized.host net) (Int32.ofNat a.normalized.hostPort) =
      some (((joinedText (a.normalized.host net) (Int32.ofNat a.normalized.hostPort)).length : Int),
        some (joinedText (a.normalized.host net) (Int32.ofNat a.normalized.hostPort) ++ [0])) := by
    rw [joinHostPort_eq, asprintfResult_of_short (by omega)]
  simp only [sockaddrToString, if_true, hntop]
  by_cases hscope : a.normalized.scopeId = 0
  · -- the host is what `inet_ntop` wrote
    have heq : ntopBuf = a.normalized.host net := by
      obtain ⟨bytes, hnul⟩ := ntopBuf
      rw [← a.normalized.host_of_no_zone net hscope] at hbytes
      exact CString.mk.injEq .. ▸ hbytes
    rw [if_neg (not_not.mpr hscope), heq]
    exact hjoin
  · rw [if_pos hscope, hnet.hostWithScope_host platform hbytes hscope]
    simp only [CString.read_memory, Option.bind_some]
    exact hjoin

/-- The address without the port, in a buffer that is large enough. -/
theorem InetText.Documented.sockaddrGetIp_eq (hnet : net.Documented) (h : a.WellFormed) (platform : Platform)
    {dst : List UInt8} (hdst : 58 ≤ dst.length) :
    sockaddrGetIp platform net a dst =
      some (((a.normalized.host net).bytes.length : Int),
        (a.normalized.host net).bytes ++ dst.drop (a.normalized.host net).bytes.length) := by
  have hhost := hnet.length_host a.normalized
  obtain ⟨ntopBuf, hntop, hbytes⟩ := hnet.inetNtop_eq (normalized_plain h) platform
  have hcopy : copyInto dst (a.normalized.host net).bytes =
      some ((a.normalized.host net).bytes ++ dst.drop (a.normalized.host net).bytes.length) :=
    if_pos (by omega)
  simp only [sockaddrGetIp, hntop]
  by_cases hscope : a.normalized.scopeId = 0
  · have heq : ntopBuf.bytes = (a.normalized.host net).bytes := by
      rw [a.normalized.host_of_no_zone net hscope, hbytes]
    rw [if_neg (not_not.mpr hscope), heq, hcopy]
    rfl
  · have hpos : 0 < (a.normalized.host net).bytes.length :=
      List.length_pos_of_mem (a.normalized.percent_mem_host net hscope)
    rw [if_pos hscope, hnet.hostWithScope_host platform hbytes hscope]
    simp only [CString.memory, Int.toNat_natCast, List.take_left, hcopy, Option.map_some]
    rw [if_neg (by omega), if_pos (by omega)]

/-- `PeerString` is the host and the port, joined. -/
theorem InetText.Documented.peerString_eq (hnet : net.Documented) (h : a.WellFormed) (platform : Platform) :
    peerString platform net a =
      some (joinedText (a.normalized.host net) (Int32.ofNat a.normalized.hostPort)) := by
  rw [peerString, hnet.sockaddrToString_eq h, Option.map_some]
  simp only [Int.toNat_natCast, List.take_left]

/-- `RemoteIp` is the host. -/
theorem InetText.Documented.endpointIp_eq (hnet : net.Documented) (h : a.WellFormed) (platform : Platform) :
    endpointIp platform net a = some (a.normalized.host net).bytes := by
  rw [endpointIp, hnet.sockaddrGetIp_eq h platform (by rw [List.length_replicate]; decide),
    Option.map_some]
  simp only [Int.toNat_natCast, List.take_left]

/-- Joining host and port makes a name of the grammar, with these parts. -/
theorem InetText.Documented.hostPortForm (hnet : net.Documented) (x : SockAddr) :
    HostPortForm (joinedText (x.host net) (Int32.ofNat x.hostPort)) (x.host net).bytes (some (digits x.hostPort)) := by
  obtain ⟨hopen, hclose⟩ := hnet.host_unbracketed x
  have hform := hostPortForm_joinedText (x.host net) (Int32.ofNat x.hostPort) hopen hclose
  rwa [decimal_ofNat_port x.hostPort_lt] at hform

end RaptorLite
