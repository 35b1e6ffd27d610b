import RaptorLite.Linux.MessageStream
import RaptorLite.Windows.SendPath

/-! # Messages over completion ports

One side of a TCP connection whose `Connection` is that of `windows/connection.cc`. `SendMsg` and the completions
of `WSASend` submit regions of `_snd_buffer`; the kernel takes their bytes one after another while the operation
is under way, and the completion says how many it took. The completion of a `WSARecv` runs the loop of `recv`
calls. Events and failures are handled as in `ContainerImpl::OnSendEvent` and `OnRecvEvent`
(`common/container_impl.cc`). The operations under way are given up when the socket is closed.

`SendMsg` puts its slice into the buffer before it submits, and leaves it there when the submission fails, so
that it may return false for a message that is sent. The log of the messages put into the buffer is kept next
to that of those for which it returned true.

A completion that failed needs no step of its own: `IocpThreadAdaptor` hands it on like any other, since it never
sets `kErrorEvent`. So it is the completion of a `WSASend` of which the kernel took fewer bytes, or none, and for
a `WSARecv` a run of the loop whose first `recv` fails. -/

namespace RaptorLite.Windows

open StreamFraming
open RaptorLite.Connection (RecvResult RecvChunk takeChunk)
open Windows.Connection

/-! ### The side -/

/-- A `WSASend` under way. -/
structure PendingSend where
  /-- The bytes of its regions. -/
  bytes : List UInt8
  /-- How many of them the kernel has taken. -/
  taken : Nat
  deriving DecidableEq, Repr

/-- One side: its connection, and what the application and the kernel have seen of it. -/
structure Peer where
  /-- The endpoint. -/
  endpoint : EndpointImpl
  /-- The connection. -/
  connection : Connection
  /-- The slices put into `_snd_buffer`, in order. -/
  queued : List Slice
  /-- The slices for which `SendMsg` returned true, in order. -/
  confirmed : List Slice
  /-- The sends under way. -/
  sends : List PendingSend
  /-- The number of receives under way. -/
  receives : Nat
  /-- The bytes that the kernel took, in order. -/
  accepted : List UInt8
  /-- How many bytes of the other side `recv` has returned. -/
  arrived : Nat
  /-- The slices passed to `OnDataReceived`, in order. -/
  delivered : List Slice

/-- The steps of a side. -/
inductive PeerAction where
  /-- A message is sent; `outcome` is what its `WSASend` returns if it makes one. -/
  | sendMsg (s : Slice) (outcome : WsaResult)
  /-- The kernel takes this many more bytes of the send number `i`. -/
  | take (i n : Nat)
  /-- The send number `i` completes; `outcome` is what the next `WSASend` returns if one is made, and
  `lastError` what `WSAGetLastError` returns. -/
  | sendCompletion (i : Nat) (outcome : WsaResult) (lastError : Int32)
  /-- A receive completes, with the outcomes of the calls of `recv` and of the next `WSARecv`. -/
  | recvCompletion (script : List RecvResult) (outcome : WsaResult) (lastError : Int32)
  /-- The connection is closed, by the application or by the container. -/
  | close (notify : Bool) (ev : Event)

namespace Peer

/-- A connection just attached to the endpoint, with the receive that `Connection::Init` submits. -/
def make (endpoint : EndpointImpl) (handleId : UInt32) (check : ProtocolHandler) : Peer where
  endpoint := endpoint
  connection := Connection.make 0 handleId (some check)
  queued := []
  confirmed := []
  sends := []
  receives := 1
  accepted := []
  arrived := 0
  delivered := []

/-- `Connection::Shutdown`; the container drops the connection, and with the socket go its operations. -/
def close (p : Peer) (notify : Bool) (ev : Event) : Peer :=
  let r := p.connection.shutdown p.endpoint notify ev
  { p with
    endpoint := r.endpoint
    connection := r.connection
    sends := if r.closed = none then p.sends else []
    receives := if r.closed = none then p.receives else 0 }

/-- The packet of a completed send, as `FindEventService` passes it on. -/
def sendDetail (p : Peer) (taken : Nat) : EventDetail where
  ptr := p.endpoint.connectionId
  eventType := kSendEvent
  errorCode := 0
  transferredBytes := UInt32.ofNat taken
  handleId := p.connection.sendOverlapped.handleId
  overlaped := 0

/-- The packet of a completed receive. -/
def recvDetail (p : Peer) : EventDetail where
  ptr := p.endpoint.connectionId
  eventType := kRecvEvent
  errorCode := 0
  transferredBytes := 0
  handleId := p.connection.recvOverlapped.handleId
  overlaped := 0

/-- The container closes a connection whose event failed. -/
def settle (p : Peer) : Option Status → Peer
  | none => p
  | some err => p.close true ⟨.socketError, some err⟩

/-- The send that a call has submitted, if any. -/
def submitted (posted : Option (List Slice)) : List PendingSend :=
  (posted.map fun regions => PendingSend.mk (bytesOf regions) 0).toList

/-- One step of a side to which these bytes are in flight. An event for a connection that the container has
dropped does nothing, and is not a step. -/
def exec (formatMessage : Int32 → String) (p : Peer) (incoming : List UInt8) : PeerAction → Option Peer
  | .sendMsg slice outcome =>
      -- the interfaces do not pass on an empty slice
      if slice.size = 0 then some p
      else
        let r := p.connection.sendMsg p.endpoint slice outcome
        some { p with
          connection := r.connection
          sends := p.sends ++ submitted r.posted
          queued := if p.endpoint.isOnline then p.queued ++ [slice] else p.queued
          confirmed := if r.ok then p.confirmed ++ [slice] else p.confirmed }
  | .take i n =>
      (p.sends[i]?).bind fun send =>
        if send.taken + n ≤ send.bytes.length then
          some { p with
            sends := p.sends.set i { send with taken := send.taken + n }
            accepted := p.accepted ++ (send.bytes.drop send.taken).take n }
        else none
  | .sendCompletion i outcome lastError =>
      if p.endpoint.isOnline then
        (p.sends[i]?).map fun send =>
          let r := p.connection.doSendEvent formatMessage lastError (p.sendDetail send.taken) outcome
          settle { p with
            connection := r.2.connection
            sends := p.sends.eraseIdx i ++ submitted r.2.posted } r.1
      else none
  | .recvCompletion script outcome lastError =>
      if p.endpoint.isOnline ∧ p.receives ≠ 0 ∧ recvBytes script <+: incoming ∧
          -- all the outcomes are used: with one less the loop would not be over
          (p.connection.onRecvEvent p.recvDetail.handleId script.dropLast outcome).isNone then
        (p.connection.doRecvEvent formatMessage lastError p.recvDetail script outcome).map fun r =>
          settle { p with
            connection := { p.connection with rcvBuffer := r.2.rcv }
            receives := p.receives - 1 + r.2.posted.toNat
            arrived := p.arrived + (recvBytes script).length
            delivered := p.delivered ++ r.2.delivered } r.1
      else none
  | .close notify ev => some (p.close notify ev)

end Peer

/-- What the application sends are messages of the protocol of the side they are for. -/
def PeerAction.Speaks (check : ProtocolHandler) : PeerAction → Prop
  | .sendMsg s _ => Announced check.answer headerSize s.toBytes
  | _ => True

/-! ### Regions -/

/-- A submission has at most `MAX_PACKAGE_SIZE` bytes. -/
theorem length_bytesOf_gather_le {vs : List Slice} {counter prepareSendSize : Nat}
    (h : prepareSendSize ≤ maxPackageSize) :
    prepareSendSize + (bytesOf (gather vs counter prepareSendSize)).length ≤ maxPackageSize := by
  induction vs generalizing counter prepareSendSize with
  | nil => exact h
  | cons s rest ih =>
      rw [gather]
      split
      · exact h
      split
      · exact h
      · next hfits =>
          have hrest := @ih (counter + 1) (prepareSendSize + s.size) (by omega)
          rw [bytesOf_cons, List.length_append, Slice.length_toBytes]
          omega

/-- The bytes of a submission are counted by a `uint32_t`. -/
theorem length_bytesOf_regions_le (c : Connection) : (bytesOf c.regions).length ≤ maxPackageSize := by
  have h := @length_bytesOf_gather_le c.sndBuffer.vs 0 0 (Nat.zero_le maxPackageSize)
  rw [Nat.zero_add] at h
  exact h

/-! ### Receiving a part of a stream of messages -/

/-- A loop that needs all the outcomes it is given ends at the last one. -/
theorem onRecvLoop_messages {check : ProtocolHandler} (hst : StableAnswer check) {ms : List (List UInt8)}
    (hms : ∀ m ∈ ms, Announced check.answer headerSize m) {outcome : WsaResult} {script : List RecvResult}
    {rcv : SliceBuffer} (htail : Incomplete rcv.toBytes ms) (hrcv : rcv.toBytes ++ recvBytes script <+: ms.flatten)
    {r : OnRecvResult} (h : onRecvLoop (some check) outcome rcv script = some r)
    (hall : onRecvLoop (some check) outcome rcv script.dropLast = none) :
    ∃ before after, ms = before ++ after ∧ r.delivered.map Slice.toBytes = before ∧
      rcv.toBytes ++ recvBytes script = before.flatten ++ r.rcv.toBytes ∧ Incomplete r.rcv.toBytes after := by
  induction script generalizing ms rcv r with
  | nil => cases h
  | cons result rest ih =>
      cases result with
      | data chunk =>
          rw [recvBytes, ← List.append_assoc] at hrcv
          obtain ⟨before, after, slices, rcv', rfl, htake, hslices, hbytes, htail'⟩ :=
            takeChunk_messages hst hms ((List.prefix_append _ _).trans hrcv)
          rw [onRecvLoop, htake, Option.bind_some] at h
          dsimp only at h
          rw [if_neg (by simp)] at h
          rw [recvBytes, ← List.append_assoc, hbytes]
          by_cases hfull : chunk.1.length = recvBufferSize
          · -- the buffer of `recv` was full: the loop goes on
            rw [if_pos hfull] at h
            obtain ⟨r', hr', rfl⟩ := Option.map_eq_some_iff.mp h
            have hall' : onRecvLoop (some check) outcome rcv' rest.dropLast = none := by
              cases rest with
              | nil => cases hr'
              | cons next more =>
                  rw [List.dropLast_cons_cons, onRecvLoop, htake, Option.bind_some] at hall
                  dsimp only at hall
                  rw [if_neg (by simp), if_pos hfull, Option.map_eq_none_iff] at hall
                  exact hall
            rw [hbytes, List.append_assoc, List.flatten_append, List.prefix_append_right_inj] at hrcv
            obtain ⟨more, after, rfl, hmore, hbytes', hend⟩ :=
              ih (fun m hm => hms m (List.mem_append_right before hm)) htail' hrcv hr' hall'
            refine ⟨before ++ more, after, by rw [List.append_assoc], ?_, ?_, hend⟩
            · rw [List.map_append, hslices, hmore]
            · rw [List.append_assoc, hbytes', List.flatten_append, List.append_assoc]
          · rw [if_neg hfull, Option.some.injEq] at h
            subst h
            cases rest with
            | nil =>
                rw [recvBytes, List.append_nil]
                exact ⟨before, after, rfl, hslices, rfl, htail'⟩
            | cons next more =>
                rw [List.dropLast_cons_cons, onRecvLoop, htake, Option.bind_some] at hall
                dsimp only at hall
                rw [if_neg (by simp), if_neg hfull] at hall
                cases hall
      | closed | retry | error =>
          cases h
          cases rest with
          | nil =>
              rw [recvBytes, recvBytes, List.append_nil]
              exact ⟨[], ms, rfl, rfl, rfl, htail⟩
          | cons next more => cases hall

/-! ### What a side shows of its steps -/

namespace Peer

/-- The messages put into the buffer, as bytes. -/
def sentMessages (p : Peer) : List (List UInt8) := p.queued.map Slice.toBytes

/-- The messages delivered, as bytes. -/
def receivedMessages (p : Peer) : List (List UInt8) := p.delivered.map Slice.toBytes

/-- How many bytes at the front of `_snd_buffer` the kernel has taken. -/
def taken (p : Peer) : Nat := (p.sends.map PendingSend.taken).sum

/-- The side as a sender. -/
def outgoing (p : Peer) : Outgoing UInt8 where
  messages := p.sentMessages
  accepted := p.accepted
  buffered := p.connection.sndBuffer.toBytes.drop p.taken
  isOpen := p.endpoint.isOnline

/-- The side as a receiver. -/
def incoming (p : Peer) : Incoming UInt8 where
  arrived := p.arrived
  delivered := p.receivedMessages
  rest := p.connection.rcvBuffer.toBytes
  isOpen := p.endpoint.isOnline

/-- What holds of a side, whatever the other side does. -/
structure Sound (p : Peer) (check : ProtocolHandler) : Prop where
  /-- It cuts its stream with this handler. -/
  proto : p.connection.proto = some check
  /-- At most one send is under way. -/
  length_le : p.sends.length ≤ 1
  /-- A send under way is pending. -/
  pending : p.connection.sendPending = false → p.sends = []
  /-- Its bytes come first in the buffer, and they are counted by a `uint32_t`. -/
  atFront : ∀ send ∈ p.sends, send.bytes <+: p.connection.sndBuffer.toBytes ∧
    send.taken ≤ send.bytes.length ∧ send.bytes.length ≤ maxPackageSize
  /-- What `SendMsg` returned true for was put into the buffer. -/
  confirmed : p.confirmed.Sublist p.queued

/-- What a step shows: the side is sound, and it sends and receives as a side of a channel may. -/
structure Shows (check check' : ProtocolHandler) (accepted : List UInt8) (p p' : Peer) : Prop where
  /-- The side behind the step. -/
  sound : p'.Sound check'
  /-- What it sends is for the handler of the other side. -/
  sends : Relation.ReflTransGen (OutStep (Announced check.answer headerSize)) p.outgoing p'.outgoing
  /-- What it receives is cut with its own. -/
  receives : Relation.ReflTransGen (InStep (Announced check'.answer headerSize) accepted) p.incoming p'.incoming

variable {check check' : ProtocolHandler} {accepted : List UInt8} {p p' : Peer}

/-- A closed side. -/
theorem close_eq (p : Peer) (notify : Bool) (ev : Event) :
    p.close notify ev = if p.endpoint.isOnline then
      { p with
        endpoint := { p.endpoint with fd := closedFd }
        connection := { p.connection with sendPending := false, rcvBuffer := .empty, sndBuffer := .empty }
        sends := []
        receives := 0 }
      else p := by
  by_cases honline : p.endpoint.isOnline = true
  · simp [close, Connection.shutdown, honline]
  · simp [close, Connection.shutdown, honline]

/-- Closing. -/
theorem shows_close (h : p.Sound check') (notify : Bool) (ev : Event) :
    Shows check check' accepted p (p.close notify ev) := by
  rw [close_eq]
  by_cases honline : p.endpoint.isOnline = true
  · rw [if_pos honline]
    refine ⟨⟨h.proto, Nat.zero_le 1, fun _ => rfl, ?_, h.confirmed⟩, .single (.close rfl rfl rfl rfl),
      .single (.close rfl rfl rfl)⟩
    intro send hsend
    cases hsend
  · rw [if_neg honline]
    exact ⟨h, .refl, .refl⟩

/-- The send under way is the only one. -/
theorem Sound.eq_singleton (h : p.Sound check) {i : Nat} {send : PendingSend} (hsend : p.sends[i]? = some send) :
    p.sends = [send] ∧ i = 0 := by
  have hlen := h.length_le
  match hsends : p.sends, i with
  | [], i => rw [hsends] at hsend; cases hsend
  | [only], 0 =>
      rw [hsends] at hsend
      cases hsend
      exact ⟨rfl, rfl⟩
  | [only], i + 1 => rw [hsends] at hsend; cases hsend
  | _ :: _ :: _, _ =>
      rw [hsends] at hlen
      simp at hlen

/-- The side behind a call of `AsyncSend`. -/
def submit (p : Peer) (outcome : WsaResult) : Peer :=
  { p with
    connection := (p.connection.asyncSend outcome).connection
    sends := p.sends ++ submitted (p.connection.asyncSend outcome).posted }

/-- `AsyncSend` keeps a side sound, and shows nothing. -/
theorem Sound.submit (h : p.Sound check) (outcome : WsaResult) :
    (p.submit outcome).Sound check ∧ (p.submit outcome).outgoing = p.outgoing ∧
      (p.submit outcome).incoming = p.incoming := by
  rw [Peer.submit]
  rcases asyncSend_cases p.connection outcome with ⟨-, hr⟩ | ⟨-, hpending, -, hr⟩ | ⟨-, -, -, hr⟩
  · rw [hr, submitted, Option.map_none, Option.toList_none, List.append_nil]
    exact ⟨h, rfl, rfl⟩
  · -- nothing was under way, so the new send is the only one
    have hnone := h.pending hpending
    rw [hr, hnone, submitted, Option.map_some, Option.toList_some, List.nil_append]
    refine ⟨⟨h.proto, Nat.le_refl 1, (fun hfalse => by cases hfalse), ?_, h.confirmed⟩, ?_, rfl⟩
    · intro send hsend
      rw [List.mem_singleton.mp hsend]
      exact ⟨bytesOf_regions_isPrefix p.connection, Nat.zero_le _, length_bytesOf_regions_le p.connection⟩
    · simp [outgoing, taken, sentMessages, hnone]
  · rw [hr, submitted, Option.map_none, Option.toList_none, List.append_nil]
    exact ⟨h, rfl, rfl⟩

/-- What the kernel has taken is at the front of the buffer. -/
theorem Sound.taken_le (h : p.Sound check) : p.taken ≤ p.connection.sndBuffer.toBytes.length := by
  have hlen := h.length_le
  match hsends : p.sends with
  | [] =>
      rw [taken, hsends]
      exact Nat.zero_le _
  | [send] =>
      obtain ⟨hstart, htaken, -⟩ := h.atFront send (by rw [hsends]; exact List.mem_cons_self)
      rw [taken, hsends]
      simpa using Nat.le_trans htaken hstart.length_le
  | _ :: _ :: _ =>
      rw [hsends] at hlen
      simp at hlen

/-- A message is put into the buffer, and a send may be submitted. -/
theorem shows_sendMsg (h : p.Sound check') {slice : Slice} (hspeaks : Announced check.answer headerSize slice.toBytes)
    (honline : p.endpoint.isOnline = true) (outcome : WsaResult) {confirmed : List Slice}
    (hconfirmed : confirmed.Sublist (p.queued ++ [slice])) :
    Shows check check' accepted p
      (submit { p with
        connection := { p.connection with sndBuffer := p.connection.sndBuffer.addSlice slice }
        queued := p.queued ++ [slice]
        confirmed := confirmed } outcome) := by
  have hadded : ({ p with
      connection := { p.connection with sndBuffer := p.connection.sndBuffer.addSlice slice }
      queued := p.queued ++ [slice]
      confirmed := confirmed } : Peer).Sound check' := by
    refine ⟨h.proto, h.length_le, h.pending, ?_, hconfirmed⟩
    intro send hsend
    obtain ⟨hstart, hrest⟩ := h.atFront send hsend
    refine ⟨?_, hrest⟩
    rw [SliceBuffer.toBytes_addSlice]
    exact hstart.trans (List.prefix_append _ _)
  obtain ⟨hsound, hout, hin⟩ := hadded.submit outcome
  refine ⟨hsound, ?_, by rw [hin]; exact .refl⟩
  -- the submission shows nothing: the message is behind what the kernel has taken
  rw [hout]
  refine .single (.queue honline hspeaks ?_ rfl ?_ rfl)
  · simp [outgoing, sentMessages]
  · show (p.connection.sndBuffer.addSlice slice).toBytes.drop p.taken
      = p.connection.sndBuffer.toBytes.drop p.taken ++ slice.toBytes
    rw [SliceBuffer.toBytes_addSlice, List.drop_append_of_le_length h.taken_le]

/-- The kernel takes bytes of the send under way. -/
theorem shows_take (h : p.Sound check') {send : PendingSend} {n : Nat} (hsends : p.sends = [send])
    (hn : send.taken + n ≤ send.bytes.length) :
    Shows check check' accepted p
      { p with
        sends := [{ send with taken := send.taken + n }]
        accepted := p.accepted ++ (send.bytes.drop send.taken).take n } := by
  obtain ⟨hstart, htaken, hmax⟩ := h.atFront send (by rw [hsends]; exact List.mem_cons_self)
  refine ⟨⟨h.proto, Nat.le_refl 1, ?_, ?_, h.confirmed⟩, .single (.take rfl rfl ?_ rfl), .refl⟩
  · intro hpending
    have hnone := h.pending hpending
    rw [hsends] at hnone
    cases hnone
  · intro send' hsend'
    rw [List.mem_singleton.mp hsend']
    exact ⟨hstart, hn, hmax⟩
  · obtain ⟨rest, hrest⟩ := hstart
    show p.connection.sndBuffer.toBytes.drop p.taken = (send.bytes.drop send.taken).take n ++
      p.connection.sndBuffer.toBytes.drop ([{ send with taken := send.taken + n }].map PendingSend.taken).sum
    rw [taken, hsends, ← hrest]
    simp only [List.map_singleton, List.sum_singleton]
    rw [List.drop_append_of_le_length htaken, List.drop_append_of_le_length hn, ← List.append_assoc,
      ← List.drop_drop, List.take_append_drop]

/-- A step that shows nothing. -/
theorem Shows.of_same (hsound : p'.Sound check') (hout : p'.outgoing = p.outgoing)
    (hin : p'.incoming = p.incoming) : Shows check check' accepted p p' :=
  ⟨hsound, by rw [hout], by rw [hin]⟩

/-- The side behind a completed send whose bytes are dropped from the buffer. -/
def drained (p : Peer) (size : Nat) : Peer :=
  { p with
    connection := { p.connection with
      sendPending := false
      sndBuffer := (p.connection.sndBuffer.moveHeader size).2 }
    sends := [] }

/-- The send under way completes: its bytes are dropped, and the next send may be submitted. -/
theorem shows_sendCompletion (h : p.Sound check') (formatMessage : Int32 → String) {send : PendingSend}
    (hsends : p.sends = [send]) (outcome : WsaResult) (lastError : Int32) :
    let r := p.connection.doSendEvent formatMessage lastError (p.sendDetail send.taken) outcome
    Shows check check' accepted p { p with connection := r.2.connection, sends := submitted r.2.posted } := by
  obtain ⟨hstart, htaken, hmax⟩ := h.atFront send (by rw [hsends]; exact List.mem_cons_self)
  have hsize : (p.sendDetail send.taken).transferredBytes.toNat = send.taken := by
    rw [sendDetail, UInt32.toNat_ofNat']
    exact Nat.mod_eq_of_lt (by rw [maxPackageSize] at hmax; omega)
  dsimp only
  rw [Connection.doSendEvent, hsize]
  dsimp only
  rw [show (p.sendDetail send.taken).handleId = p.connection.sendOverlapped.handleId from rfl, onSendEvent_self]
  by_cases hzero : send.taken = 0
  · -- a completion without bytes ends the send, which stays pending
    rw [if_pos hzero, submitted, Option.map_none, Option.toList_none]
    refine Shows.of_same ⟨h.proto, Nat.zero_le 1, fun _ => rfl, ?_, h.confirmed⟩ ?_ rfl
    · intro send' hsend'
      cases hsend'
    · simp [outgoing, taken, sentMessages, hsends, hzero]
  · rw [if_neg hzero]
    have hle : send.taken ≤ p.connection.sndBuffer.length := by
      rw [← SliceBuffer.length_toBytes]
      exact Nat.le_trans htaken hstart.length_le
    have hdrained : (p.drained send.taken).Sound check' := by
      refine ⟨h.proto, Nat.zero_le 1, fun _ => rfl, ?_, h.confirmed⟩
      intro send' hsend'
      cases hsend'
    have hshown : (p.drained send.taken).outgoing = p.outgoing := by
      simp [outgoing, drained, taken, sentMessages, hsends, SliceBuffer.toBytes_moveHeader hle]
    obtain ⟨hsound, hout, hin⟩ := hdrained.submit outcome
    exact Shows.of_same hsound (hout.trans hshown) hin

/-- Receiving. -/
theorem shows_recv (hst : StableAnswer check') (h : p.Sound check') (honline : p.endpoint.isOnline = true)
    {script : List RecvResult} {outcome : WsaResult} {r : OnRecvResult}
    (hr : p.connection.onRecvEvent p.recvDetail.handleId script outcome = some r)
    (hall : p.connection.onRecvEvent p.recvDetail.handleId script.dropLast outcome = none)
    (hbytes : recvBytes script <+: accepted.drop p.arrived) (receives : Nat) :
    Shows check check' accepted p
      { p with
        connection := { p.connection with rcvBuffer := r.rcv }
        receives := receives
        arrived := p.arrived + (recvBytes script).length
        delivered := p.delivered ++ r.delivered } := by
  have hown : ∀ script', p.connection.onRecvEvent p.recvDetail.handleId script' outcome
      = onRecvLoop (some check') outcome p.connection.rcvBuffer script' := by
    intro script'
    rw [onRecvEvent, if_neg (fun hne => hne rfl), h.proto]
  rw [hown] at hr hall
  refine ⟨⟨h.proto, h.length_le, h.pending, h.atFront, h.confirmed⟩, .refl,
    .single (.arrive honline hbytes (?_ : Cuts _ _ _ (r.delivered.map Slice.toBytes) _) rfl ?_ rfl)⟩
  · intro ms hms htail hrcv
    obtain ⟨before, after, hsplit, hmore, hflat, hend⟩ := onRecvLoop_messages hst hms htail hrcv hr hall
    exact ⟨after, by rw [hmore]; exact hsplit, by rw [hmore]; exact hflat, hend⟩
  · simp [incoming, receivedMessages]

/-- Two steps in turn. -/
theorem Shows.trans {p'' : Peer} (h : Shows check check' accepted p p') (h' : Shows check check' accepted p' p'') :
    Shows check check' accepted p p'' :=
  ⟨h'.sound, h.sends.trans h'.sends, h.receives.trans h'.receives⟩

/-- Behind an event the container closes the connection, or does not. -/
theorem Shows.settle (h : Shows check check' accepted p p') (err : Option Status) :
    Shows check check' accepted p (p'.settle err) := by
  cases err with
  | none => exact h
  | some err => exact h.trans (shows_close h.sound true _)

/-- **A step of a side** is one that a side of a channel may take. -/
theorem exec_shows {formatMessage : Int32 → String} (hst : StableAnswer check') (h : p.Sound check')
    {a : PeerAction} (hspeaks : a.Speaks check) (hstep : p.exec formatMessage (accepted.drop p.arrived) a = some p') :
    Shows check check' accepted p p' := by
  cases a with
  | sendMsg slice outcome =>
      have hsize : slice.size ≠ 0 := by
        rw [← Slice.length_toBytes]
        exact fun hzero => hspeaks.ne_nil (List.length_eq_zero_iff.mp hzero)
      simp only [exec, if_neg hsize, Option.some.injEq] at hstep
      subst hstep
      by_cases honline : p.endpoint.isOnline = true
      · simp only [Connection.sendMsg, if_pos honline]
        have hconfirmed : ∀ ok : Bool,
            (if ok then p.confirmed ++ [slice] else p.confirmed).Sublist (p.queued ++ [slice]) := by
          intro ok
          cases ok with
          | false => exact h.confirmed.trans (List.sublist_append_left _ _)
          | true => exact h.confirmed.append (List.Sublist.refl _)
        exact shows_sendMsg h hspeaks honline outcome (hconfirmed _)
      · simp only [Connection.sendMsg, if_neg honline, submitted, Option.map_none, Option.toList_none,
          List.append_nil, Bool.false_eq_true, if_false]
        exact ⟨h, .refl, .refl⟩
  | take i n =>
      obtain ⟨send, hsend, hstep⟩ := Option.bind_eq_some_iff.mp hstep
      obtain ⟨hn, hstep⟩ := Option.ite_none_right_eq_some.mp hstep
      cases hstep
      obtain ⟨hsends, rfl⟩ := h.eq_singleton hsend
      rw [hsends, List.set_cons_zero]
      exact shows_take h hsends hn
  | sendCompletion i outcome lastError =>
      obtain ⟨honline, hstep⟩ := Option.ite_none_right_eq_some.mp hstep
      obtain ⟨send, hsend, rfl⟩ := Option.map_eq_some_iff.mp hstep
      obtain ⟨hsends, rfl⟩ := h.eq_singleton hsend
      apply Shows.settle
      rw [hsends, List.eraseIdx_cons_zero, List.nil_append]
      exact shows_sendCompletion h formatMessage hsends outcome lastError
  | recvCompletion script outcome lastError =>
      obtain ⟨⟨honline, -, hbytes, hall⟩, hstep⟩ := Option.ite_none_right_eq_some.mp hstep
      obtain ⟨r, hr, rfl⟩ := Option.map_eq_some_iff.mp hstep
      obtain ⟨r', hr', rfl⟩ := Option.map_eq_some_iff.mp hr
      apply Shows.settle
      exact shows_recv hst h honline hr' (Option.isNone_iff_eq_none.mp hall) hbytes _
  | close notify ev =>
      cases hstep
      exact shows_close h notify ev

end Peer

end RaptorLite.Windows
