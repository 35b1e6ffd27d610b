import RaptorLite.Foundations.MessageChannel
import RaptorLite.Foundations.Machine
import RaptorLite.Linux.SendPath

/-! # Messages from one application to the other

Two connections (`linux/connection.cc`) at the two ends of one TCP connection. What `send` took on one side
is what `recv` returns on the other, in order and cut in any way: the bytes in flight from one side are
those it gave to the kernel less those the other side has received. Either side queues messages with
`SendMsg`, handles send and receive events as `ContainerImpl::OnSendEvent` and `OnRecvEvent`
(`common/container_impl.cc`) do, and closes its connection, in any order of steps.

The messages of an application are those of its protocol: the handler of the other side answers with the
length of a message when it is shown the start of it. -/

namespace RaptorLite

open Connection StreamFraming

/-! ### The two sides -/

/-- One side: its connection, and what the application and the kernel have seen of it. -/
structure Peer where
  /-- The endpoint. -/
  endpoint : EndpointImpl
  /-- The connection. -/
  connection : Connection
  /-- The slices for which `SendMsg` returned true, in order. -/
  queued : List Slice
  /-- The bytes that `send` took, in order. -/
  accepted : List UInt8
  /-- How many bytes of the other side `recv` has returned. -/
  arrived : Nat
  /-- The slices passed to `OnDataReceived`, in order. -/
  delivered : List Slice

namespace Peer

/-- A connection just attached to the endpoint. -/
def make (endpoint : EndpointImpl) (handleId : UInt32) (check : ProtocolHandler) : Peer where
  endpoint := endpoint
  connection := Connection.make 0 handleId (some check)
  queued := []
  accepted := []
  arrived := 0
  delivered := []

/-- The bytes in flight from one side to the other. -/
def inFlight (sender receiver : Peer) : List UInt8 := sender.accepted.drop receiver.arrived

/-- The messages queued, as bytes. -/
def sentMessages (p : Peer) : List (List UInt8) := p.queued.map Slice.toBytes

/-- The messages delivered, as bytes. -/
def receivedMessages (p : Peer) : List (List UInt8) := p.delivered.map Slice.toBytes

/-- `Connection::Shutdown`; the container drops the connection. -/
def close (p : Peer) (notify : Bool) (ev : Event) : Peer :=
  let r := p.connection.shutdown p.endpoint notify ev
  { p with endpoint := r.endpoint, connection := r.connection }

end Peer

/-- The bytes of the successful calls of `recv`. -/
def recvBytes : List RecvResult → List UInt8
  | [] => []
  | .data chunk :: rest => chunk.1 ++ recvBytes rest
  | .closed :: rest => recvBytes rest
  | .retry :: rest => recvBytes rest
  | .error :: rest => recvBytes rest

/-- The steps of a side. -/
inductive PeerAction where
  /-- A message is sent through an interface of the application. -/
  | sendMsg (api : SendApi) (s : Slice)
  /-- A send event, with the outcomes of the calls of `send`. -/
  | sendEvent (script : List SendResult)
  /-- A receive event, with the outcomes of the calls of `recv` and the `errno` behind the last. -/
  | recvEvent (script : List RecvResult) (errno : Errno)
  /-- The connection is closed, by the application or by the container. -/
  | close (notify : Bool) (ev : Event)

/-- One step of a side to which these bytes are in flight. An event for a connection that the container
has dropped does nothing, and is not a step. -/
def Peer.exec (p : Peer) (incoming : List UInt8) : PeerAction → Option Peer
  | .sendMsg api slice =>
      let r := api.sendMsg p.endpoint p.connection slice
      some { p with connection := r.2.1, queued := if r.1 then p.queued ++ [slice] else p.queued }
  | .sendEvent script =>
      if p.endpoint.isOnline then
        (p.connection.doSendEvent p.endpoint script).map fun r =>
          { p with connection := r.connection, accepted := p.accepted ++ r.sent }
      else none
  | .recvEvent script errno =>
      if p.endpoint.isOnline then
        (p.connection.doRecvEvent p.endpoint script errno).bind fun r =>
          -- `recv` returns what is in flight, and the outcomes are those of this event
          if r.rest = [] ∧ recvBytes script <+: incoming then
            let p' := { p with
              connection := r.connection
              arrived := p.arrived + (recvBytes script).length
              delivered := p.delivered ++ r.delivered }
            match r.error with
            | none => some p'
            | some err => some (p'.close true ⟨.socketError, some err⟩)
          else none
      else none
  | .close notify ev => some (p.close notify ev)

/-- The two sides. -/
structure PeersState where
  /-- The side that connected. -/
  client : Peer
  /-- The side that accepted. -/
  server : Peer

/-- A step of one of the sides. -/
inductive PeersAction where
  /-- A step of the side that connected. -/
  | client (a : PeerAction)
  /-- A step of the side that accepted. -/
  | server (a : PeerAction)

/-- One step of the system. -/
def PeersState.exec (s : PeersState) : PeersAction → Option PeersState
  | .client a => (s.client.exec (s.server.inFlight s.client) a).map fun p => { s with client := p }
  | .server a => (s.server.exec (s.client.inFlight s.server) a).map fun p => { s with server := p }

/-- Two sides just connected, each with the protocol handler of its container. -/
def peersMachine (client server : Peer) : Machine PeersState PeersAction where
  init := ⟨client, server⟩
  step := PeersState.exec

/-- A message is announced by an `int`. -/
theorem length_lt_of_announced {check : ProtocolHandler} {m : List UInt8}
    (h : Announced check.answer headerSize m) : m.length < 2 ^ 31 := by
  have hlen := h.check_eq
  have hlt := Int32.toInt_lt (check (m.take headerSize))
  rw [ProtocolHandler.answer] at hlen
  omega

/-- What the application sends are messages of the protocol of the side they are for. -/
def PeerAction.Speaks (check : ProtocolHandler) : PeerAction → Prop
  | .sendMsg _ s => Announced check.answer headerSize s.toBytes
  | _ => True

/-- Each side sends messages of the protocol of the other. -/
def PeersAction.Speaks (toClient toServer : ProtocolHandler) : PeersAction → Prop
  | .client a => a.Speaks toServer
  | .server a => a.Speaks toClient

/-! ### Receiving a part of a stream of messages -/

section Receive

variable {check : ProtocolHandler} (hst : StableAnswer check)
include hst

/-- On a proper part of a message the loop of `ParsingProtocol` waits. -/
theorem parseRound_incomplete {after : List (List UInt8)}
    (hafter : ∀ m ∈ after, Announced check.answer headerSize m) {rcv : SliceBuffer}
    (hrcv : Incomplete rcv.toBytes after) (hpos : 0 < rcv.length) : parseRound check rcv = .done := by
  have hlen := rcv.length_toBytes
  cases after with
  | nil =>
      rw [show rcv.toBytes = [] from hrcv, List.length_nil] at hlen
      omega
  | cons m rest =>
      obtain ⟨hpart, hshort⟩ := hrcv
      rw [parseRound_eq]
      dsimp only
      rcases (hafter m List.mem_cons_self).check_incomplete hst.stable hpart with ⟨hzero, hfew⟩ | hknown
      · rw [if_neg (by omega), if_pos hzero, if_pos (by omega)]
      · rw [hknown, if_neg (by omega), if_neg (by omega), if_neg (by omega)]

/-- A message that is complete is cut out. -/
theorem parseRound_complete {m rest : List UInt8} (hm : Announced check.answer headerSize m)
    {rcv : SliceBuffer} (hrcv : rcv.toBytes = m ++ rest) :
    ∃ package rcv', parseRound check rcv = .deliver package rcv' ∧ package.toBytes = m ∧
      rcv'.toBytes = rest := by
  have hpos : 0 < m.length := List.length_pos_iff.mpr hm.ne_nil
  have hlen := rcv.length_toBytes
  rw [hrcv, List.length_append] at hlen
  have hanswer : check.answer (rcv.toBytes.take headerSize) = m.length := by
    rw [hrcv]
    exact hm.check_append hst.stable rest
  obtain ⟨package, rcv', hd, hpackage, hrcv'⟩ := deliverPackage_spec (show m.length ≤ rcv.length by omega)
  refine ⟨package, rcv', ?_, ?_, ?_⟩
  · rw [parseRound_eq]
    dsimp only
    rw [hanswer, if_neg (by omega), if_neg (by omega), Int.toNat_natCast, if_pos (by omega), hd]
  · rw [hpackage, hrcv, List.take_left]
  · rw [hrcv', hrcv, List.drop_left]

/-- **A call of `ParsingProtocol`** on complete messages and a part of the next delivers the messages and
leaves the part. -/
theorem parsingLoop_messages {before after : List (List UInt8)} {tail : List UInt8}
    (hbefore : ∀ m ∈ before, Announced check.answer headerSize m)
    (hafter : ∀ m ∈ after, Announced check.answer headerSize m) (htail : Incomplete tail after)
    (counter : Nat) (delivered : List Slice) {fuel : Nat} {rcv : SliceBuffer}
    (hrcv : rcv.toBytes = before.flatten ++ tail) (hfuel : rcv.length < fuel) :
    ∃ r, parsingLoop check fuel rcv counter delivered = some r ∧ r.code = counter + before.length ∧
      r.delivered.map Slice.toBytes = delivered.map Slice.toBytes ++ before ∧ r.rcv.toBytes = tail := by
  induction before generalizing fuel rcv counter delivered with
  | nil =>
      obtain ⟨fuel, rfl⟩ : ∃ k, fuel = k + 1 := ⟨fuel - 1, by omega⟩
      rw [List.flatten_nil, List.nil_append] at hrcv
      rw [parsingLoop]
      by_cases hpos : 0 < rcv.length
      · rw [if_pos hpos, parseRound_incomplete hst hafter (by rw [hrcv]; exact htail) hpos]
        exact ⟨_, rfl, by simp, by simp, hrcv⟩
      · rw [if_neg hpos]
        exact ⟨_, rfl, by simp, by simp, hrcv⟩
  | cons m before ih =>
      obtain ⟨fuel, rfl⟩ : ∃ k, fuel = k + 1 := ⟨fuel - 1, by omega⟩
      have hm := hbefore m List.mem_cons_self
      have hpos : 0 < m.length := List.length_pos_iff.mpr hm.ne_nil
      have hlen := rcv.length_toBytes
      rw [List.flatten_cons, List.append_assoc] at hrcv
      rw [hrcv, List.length_append] at hlen
      obtain ⟨package, rcv', hround, hpackage, hrcv'⟩ := parseRound_complete hst hm hrcv
      have hlen' := rcv'.length_toBytes
      rw [hrcv'] at hlen'
      rw [parsingLoop, if_pos (by omega), hround]
      obtain ⟨r, hr, hcode, hdelivered, htail'⟩ := ih
        (fun m' hm' => hbefore m' (List.mem_cons_of_mem m hm')) (counter + 1) (delivered ++ [package]) hrcv'
        (show rcv'.length < fuel by omega)
      refine ⟨r, hr, ?_, ?_, htail'⟩
      · rw [hcode, List.length_cons]
        push_cast
        omega
      · rw [hdelivered, List.map_append, List.map_singleton, hpackage, List.append_assoc]
        rfl

/-- The bytes of one `recv`, behind those that are buffered. -/
theorem takeChunk_messages {ms : List (List UInt8)} (hms : ∀ m ∈ ms, Announced check.answer headerSize m)
    {rcv : SliceBuffer} {chunk : RecvChunk} (hrcv : rcv.toBytes ++ chunk.1 <+: ms.flatten) :
    ∃ before after slices rcv', ms = before ++ after ∧
      takeChunk (some check) rcv chunk = some (true, slices, rcv') ∧ slices.map Slice.toBytes = before ∧
      rcv.toBytes ++ chunk.1 = before.flatten ++ rcv'.toBytes ∧ Incomplete rcv'.toBytes after := by
  obtain ⟨before, after, tail, rfl, hsplit, htail⟩ := exists_split hrcv
  have hbytes : (rcv.addSlice (Slice.ofBytes chunk.1)).toBytes = before.flatten ++ tail := by
    rw [SliceBuffer.toBytes_addSlice, Slice.toBytes_ofBytes, hsplit]
  obtain ⟨r, hr, hcode, hdelivered, hrcv'⟩ := parsingLoop_messages hst
    (fun m hm => hms m (List.mem_append_left after hm)) (fun m hm => hms m (List.mem_append_right before hm))
    htail 0 [] hbytes (Nat.lt_succ_self _)
  refine ⟨before, after, r.delivered, r.rcv, rfl, ?_, ?_, ?_, ?_⟩
  · rw [takeChunk, parsingProtocol, hr, Option.map_some, hcode]
    simp
  · rw [hdelivered, List.map_nil, List.nil_append]
  · rw [hsplit, hrcv']
  · rw [hrcv']
    exact htail

/-- How a call of `OnRecv` on bytes of the stream ends: with messages passed on and a part of the next in
the buffer. Only the kernel makes it fail. -/
theorem onRecv_messages {ms : List (List UInt8)} (hms : ∀ m ∈ ms, Announced check.answer headerSize m)
    {script : List RecvResult} {rcv : SliceBuffer} (htail : Incomplete rcv.toBytes ms)
    (hrcv : rcv.toBytes ++ recvBytes script <+: ms.flatten) {r : OnRecvResult}
    (h : onRecv (some check) rcv script = some r) (hrest : r.rest = []) :
    ∃ before after, ms = before ++ after ∧ r.delivered.map Slice.toBytes = before ∧
      rcv.toBytes ++ recvBytes script = before.flatten ++ r.rcv.toBytes ∧ Incomplete r.rcv.toBytes after := by
  induction script generalizing ms rcv r with
  | nil => cases h
  | cons outcome rest ih =>
      cases outcome with
      | data chunk =>
          rw [recvBytes, ← List.append_assoc] at hrcv
          obtain ⟨before, after, slices, rcv', rfl, htake, hslices, hbytes, htail'⟩ :=
            takeChunk_messages hst hms ((List.prefix_append _ _).trans hrcv)
          rw [onRecv, htake, Option.bind_some] at h
          dsimp only at h
          rw [if_neg (by simp)] at h
          rw [recvBytes, ← List.append_assoc, hbytes]
          split at h
          · -- the buffer of `recv` was full: the loop goes on
            obtain ⟨r', hr', rfl⟩ := Option.map_eq_some_iff.mp h
            rw [hbytes, List.append_assoc, List.flatten_append, List.prefix_append_right_inj] at hrcv
            obtain ⟨more, after, rfl, hmore, hbytes', hend⟩ :=
              ih (fun m hm => hms m (List.mem_append_right before hm)) htail' hrcv hr' hrest
            refine ⟨before ++ more, after, by rw [List.append_assoc], ?_, ?_, hend⟩
            · rw [List.map_append, hslices, hmore]
            · rw [List.append_assoc, hbytes', List.flatten_append, List.append_assoc]
          · cases h
            rw [show rest = [] from hrest, recvBytes, List.append_nil]
            exact ⟨before, after, rfl, hslices, rfl, htail'⟩
      | closed | retry | error =>
          cases h
          rw [show rest = [] from hrest, recvBytes, recvBytes, List.append_nil]
          exact ⟨[], ms, rfl, rfl, rfl, htail⟩

/-- What a call of `OnRecv` does to the bytes that arrive. -/
theorem cuts_onRecv {script : List RecvResult} {rcv : SliceBuffer} {r : OnRecvResult}
    (h : onRecv (some check) rcv script = some r) (hrest : r.rest = []) :
    Cuts (Announced check.answer headerSize) rcv.toBytes (recvBytes script) (r.delivered.map Slice.toBytes)
      r.rcv.toBytes := by
  intro ms hms htail hrcv
  obtain ⟨before, after, hsplit, hmore, hbytes, hend⟩ := onRecv_messages hst hms htail hrcv h hrest
  exact ⟨after, by rw [hmore]; exact hsplit, by rw [hmore]; exact hbytes, hend⟩

end Receive

/-! ### What a side shows of its steps -/

namespace Peer

/-- The side as a sender. -/
def outgoing (p : Peer) : Outgoing UInt8 where
  messages := p.sentMessages
  accepted := p.accepted
  buffered := p.connection.sndBuffer.toBytes
  isOpen := p.endpoint.isOnline

/-- The side as a receiver. -/
def incoming (p : Peer) : Incoming UInt8 where
  arrived := p.arrived
  delivered := p.receivedMessages
  rest := p.connection.rcvBuffer.toBytes
  isOpen := p.endpoint.isOnline

/-- What holds of a side, whatever the other side does. -/
structure Sound (p : Peer) (check : ProtocolHandler) : Prop where
  /-- `_snd_buffer` has no empty slice. -/
  noEmpty : p.connection.sndBuffer.NoEmpty
  /-- `_snd_buffer` has no slice that is too long for an `int`. -/
  short : p.connection.sndBuffer.Short
  /-- It cuts its stream with this handler. -/
  proto : p.connection.proto = some check

/-- A message with bytes is queued, unless the connection is closed. -/
theorem exec_sendMsg (p : Peer) (incoming : List UInt8) (api : SendApi) {slice : Slice}
    (hslice : slice.toBytes ≠ []) :
    p.exec incoming (.sendMsg api slice) = some (if p.endpoint.isOnline then
      { p with
        connection := { p.connection with sndBuffer := p.connection.sndBuffer.addSlice slice }
        queued := p.queued ++ [slice] }
      else p) := by
  have hsize : slice.size ≠ 0 := by
    rw [← Slice.length_toBytes]
    exact fun h => hslice (List.length_eq_zero_iff.mp h)
  simp only [Peer.exec, SendApi.sendMsg, if_neg hsize, Connection.sendMsg]
  cases p.endpoint.isOnline with
  | false => rfl
  | true => rfl

/-- A closed side. -/
theorem close_eq (p : Peer) (notify : Bool) (ev : Event) :
    p.close notify ev = if p.endpoint.isOnline then
      { p with
        endpoint := { p.endpoint with fd := closedFd }
        connection := { p.connection with rcvBuffer := .empty, sndBuffer := .empty } }
      else p := by
  simp only [Peer.close, Connection.shutdown]
  cases p.endpoint.isOnline with
  | false => rfl
  | true => rfl

/-- A closed peer is offline. -/
@[simp] theorem isOnline_close (p : Peer) (notify : Bool) (ev : Event) :
    (p.close notify ev).endpoint.isOnline = false :=
  isOnline_shutdown p.endpoint p.connection notify ev

/-- Closing keeps what was sent and what was delivered. -/
theorem close_keeps (p : Peer) (notify : Bool) (ev : Event) :
    (p.close notify ev).queued = p.queued ∧ (p.close notify ev).accepted = p.accepted ∧
      (p.close notify ev).arrived = p.arrived ∧ (p.close notify ev).delivered = p.delivered ∧
      (p.close notify ev).connection.proto = p.connection.proto := by
  rw [Peer.close_eq]
  split <;> exact ⟨rfl, rfl, rfl, rfl, rfl⟩

/-- What a step shows: the side is sound, and it sends and receives as a side of a channel may. -/
structure Shows (check check' : ProtocolHandler) (accepted : List UInt8) (p p' : Peer) : Prop where
  /-- The side behind the step. -/
  sound : p'.Sound check'
  /-- What it sends is for the handler of the other side. -/
  sends : Relation.ReflTransGen (OutStep (Announced check.answer headerSize)) p.outgoing p'.outgoing
  /-- What it receives is cut with its own. -/
  receives : Relation.ReflTransGen (InStep (Announced check'.answer headerSize) accepted) p.incoming p'.incoming

variable {check check' : ProtocolHandler} {accepted : List UInt8} {p p' : Peer}

/-- Closing. -/
theorem shows_close (h : p.Sound check') (notify : Bool) (ev : Event) :
    Shows check check' accepted p (p.close notify ev) := by
  obtain ⟨hqueued, haccepted, harrived, hdelivered, hproto⟩ := p.close_keeps notify ev
  by_cases honline : p.endpoint.isOnline = true
  · refine ⟨⟨?_, ?_, by rw [hproto]; exact h.proto⟩, .single (.close ?_ haccepted ?_ (p.isOnline_close notify ev)),
      .single (.close harrived ?_ (p.isOnline_close notify ev))⟩
    · rw [Peer.close_eq, if_pos honline]
      exact SliceBuffer.noEmpty_empty
    · rw [Peer.close_eq, if_pos honline]
      exact SliceBuffer.short_empty
    · simp only [Peer.outgoing, Peer.sentMessages, hqueued]
    · simp only [Peer.outgoing, Peer.close_eq, if_pos honline]
      rfl
    · simp only [Peer.incoming, Peer.receivedMessages, hdelivered]
  · rw [Peer.close_eq, if_neg honline]
    exact ⟨h, .refl, .refl⟩

/-- **A step of a side** is one that a side of a channel may take. -/
theorem exec_shows (hst : StableAnswer check') (h : p.Sound check') {a : PeerAction} (hspeaks : a.Speaks check)
    (hstep : p.exec (accepted.drop p.arrived) a = some p') : Shows check check' accepted p p' := by
  cases a with
  | sendMsg api slice =>
      have hsize : 0 < slice.size := by
        rw [← Slice.length_toBytes]
        exact List.length_pos_iff.mpr hspeaks.ne_nil
      have hshort : slice.size < 2 ^ 31 := by
        rw [← Slice.length_toBytes]
        exact length_lt_of_announced hspeaks
      rw [Peer.exec_sendMsg p _ api hspeaks.ne_nil, Option.some.injEq] at hstep
      subst hstep
      by_cases honline : p.endpoint.isOnline = true
      · rw [if_pos honline]
        refine ⟨⟨h.noEmpty.addSlice hsize, h.short.addSlice hshort, h.proto⟩,
          .single (.queue honline hspeaks ?_ rfl ?_ rfl), .refl⟩
        · simp [Peer.outgoing, Peer.sentMessages]
        · exact SliceBuffer.toBytes_addSlice _ _
      · rw [if_neg honline]
        exact ⟨h, .refl, .refl⟩
  | sendEvent script =>
      obtain ⟨honline, hstep⟩ := Option.ite_none_right_eq_some.mp hstep
      obtain ⟨r, hr, rfl⟩ := Option.map_eq_some_iff.mp hstep
      obtain ⟨r', hr', rfl⟩ := Option.map_eq_some_iff.mp hr
      obtain ⟨hbytes, hempty⟩ := onSend_spec h.noEmpty (Or.inr h.short) hr'
      exact ⟨⟨hempty, short_onSend h.short hr', h.proto⟩, .single (.take rfl rfl hbytes.symm rfl), .refl⟩
  | recvEvent script errno =>
      obtain ⟨honline, hstep⟩ := Option.ite_none_right_eq_some.mp hstep
      obtain ⟨r, hr, hstep⟩ := Option.bind_eq_some_iff.mp hstep
      obtain ⟨⟨hrest, hbytes⟩, hstep⟩ := Option.ite_none_right_eq_some.mp hstep
      obtain ⟨r', hr', rfl⟩ := Option.map_eq_some_iff.mp hr
      have hproto := h.proto
      rw [hproto] at hr'
      have hrest' : r'.rest = [] := by
        dsimp only at hrest
        split at hrest <;> exact hrest
      -- the bytes arrive, and behind a failure the container closes the connection
      have hsound : ∀ rcv arrived delivered, ({ p with
          connection := { p.connection with rcvBuffer := rcv }
          arrived := arrived
          delivered := delivered } : Peer).Sound check' := fun _ _ _ => ⟨h.noEmpty, h.short, h.proto⟩
      have harrive : Relation.ReflTransGen (InStep (Announced check'.answer headerSize) accepted) p.incoming
          ({ p with
            connection := { p.connection with rcvBuffer := r'.rcv }
            arrived := p.arrived + (recvBytes script).length
            delivered := p.delivered ++ r'.delivered } : Peer).incoming := by
        refine .single (.arrive honline hbytes (cuts_onRecv hst hr' hrest') rfl ?_ rfl)
        simp [Peer.incoming, Peer.receivedMessages]
      dsimp only at hstep
      by_cases hcode : r'.code = 0
      · simp only [if_pos hcode] at hstep
        cases hstep
        exact ⟨hsound _ _ _, .refl, harrive⟩
      · simp only [if_neg hcode] at hstep
        cases hstep
        obtain ⟨hclosed, hout, hin⟩ : Shows check check' accepted _ _ :=
          shows_close (hsound r'.rcv (p.arrived + (recvBytes script).length) (p.delivered ++ r'.delivered)) true
            ⟨.socketError, some _⟩
        exact ⟨hclosed, hout, harrive.trans hin⟩
  | close notify ev =>
      cases hstep
      exact shows_close h notify ev

end Peer

/-! ### The invariant of a direction -/

/-- From the application of one side to the application of the other. -/
structure Flows (check : ProtocolHandler) (sender receiver : Peer) : Prop where
  /-- The two sides make a channel. -/
  channel : Channel (Announced check.answer headerSize) sender.outgoing receiver.incoming
  /-- `_snd_buffer` has no empty slice. -/
  noEmpty : sender.connection.sndBuffer.NoEmpty
  /-- `_snd_buffer` has no slice that is too long for an `int`. -/
  short : sender.connection.sndBuffer.Short
  /-- The receiver cuts its stream with this handler. -/
  proto : receiver.connection.proto = some check

/-- **One step of a side** keeps both directions. -/
theorem Flows.exec {check check' : ProtocolHandler} (hst : StableAnswer check') {p p' q : Peer}
    {a : PeerAction} (hout : Flows check p q) (hin : Flows check' q p) (hspeaks : a.Speaks check)
    (hstep : p.exec (q.inFlight p) a = some p') : Flows check p' q ∧ Flows check' q p' := by
  obtain ⟨hsound, hsends, hreceives⟩ := Peer.exec_shows hst ⟨hout.noEmpty, hout.short, hin.proto⟩ hspeaks hstep
  exact ⟨⟨hout.channel.outSteps (fun _ hm => hm.ne_nil) hsends, hsound.noEmpty, hsound.short, hout.proto⟩,
    ⟨hin.channel.inSteps hreceives, hin.noEmpty, hin.short, hsound.proto⟩⟩

/-- Two sides just connected. -/
theorem flows_make (check check' : ProtocolHandler) (ep ep' : EndpointImpl) (handleId handleId' : UInt32) :
    Flows check (Peer.make ep handleId check') (Peer.make ep' handleId' check) where
  channel := Channel.start _ rfl rfl rfl rfl rfl rfl
  noEmpty := SliceBuffer.noEmpty_empty
  short := SliceBuffer.short_empty
  proto := rfl

/-! ### Runs -/

/-- What a direction owes the applications. -/
structure Conveys (sender receiver : Peer) : Prop where
  /-- What is delivered are the messages that were sent, in order: none changed, cut, twice or missing in
  between. -/
  inOrder : receiver.receivedMessages <+: sender.sentMessages
  /-- A message is delivered as soon as its last byte has arrived. -/
  atOnce : ∀ k, (sender.sentMessages.take k).flatten.length ≤ receiver.arrived →
    sender.sentMessages.take k <+: receiver.receivedMessages
  /-- With nothing buffered and nothing in flight, all messages are delivered. -/
  complete : sender.endpoint.isOnline = true → sender.connection.sndBuffer.vs = [] →
    sender.inFlight receiver = [] → receiver.receivedMessages = sender.sentMessages
  /-- `ParsingProtocol` takes whatever part of the stream comes next: it returns, and not with `-1`. -/
  parses : receiver.endpoint.isOnline = true → ∀ chunk : RecvChunk, chunk.1 <+: sender.inFlight receiver →
    ∃ slices rcv, takeChunk receiver.connection.proto receiver.connection.rcvBuffer chunk
      = some (true, slices, rcv)

/-- While the receiver is online, any part of what is in flight is parsed without an error. -/
theorem Flows.parses {check : ProtocolHandler} (hst : StableAnswer check) {p q : Peer}
    (h : Flows check p q) (honline : q.endpoint.isOnline = true) {chunk : RecvChunk}
    (hchunk : chunk.1 <+: p.inFlight q) :
    ∃ slices rcv, takeChunk q.connection.proto q.connection.rcvBuffer chunk = some (true, slices, rcv) := by
  obtain ⟨after, -, -, hafter, -, hpart⟩ := h.channel.awaits honline
  obtain ⟨-, -, slices, rcv, -, htake, -⟩ := takeChunk_messages hst hafter (hpart _ hchunk)
  rw [h.proto]
  exact ⟨slices, rcv, htake⟩

/-- The bytes that flow between two peers are a channel that conveys the messages. -/
theorem Flows.conveys {check : ProtocolHandler} (hst : StableAnswer check) {p q : Peer}
    (h : Flows check p q) : Conveys p q where
  inOrder := h.channel.inOrder
  atOnce := fun _ hk => h.channel.atOnce hk
  complete := fun honline hbuffer hflight =>
    h.channel.complete honline (by rw [Peer.outgoing, SliceBuffer.toBytes, hbuffer, bytesOf_nil]) hflight
  parses := fun honline _ hchunk => h.parses hst honline hchunk

/-- **Messages arrive whole, once and in order.** Two connections at the ends of one TCP connection, with any
protocol handlers whose answers do not change when they are shown more, and applications that send messages
of the protocol of the other side. In every run, with any calls of `SendMsg`, any outcomes of `send`, any
cuts of the stream by `recv`, failures of it, and either side closing at any time, each direction delivers
the messages for which `SendMsg` returned true, in order (a prefix of them); each as soon as its last byte has
arrived; while the sender is open, all of them once nothing is buffered or in flight (closing drops what is
still buffered); and `ParsingProtocol` never fails on what arrives. -/
theorem messages_arrive_in_order (toClient toServer : ProtocolHandler) (hclient : StableAnswer toClient)
    (hserver : StableAnswer toServer) (ep ep' : EndpointImpl) (handleId handleId' : UInt32) (s : PeersState)
    (hs : (peersMachine (Peer.make ep handleId toClient) (Peer.make ep' handleId' toServer)).Reaches
      (fun _ a => a.Speaks toClient toServer) s) :
    Conveys s.client s.server ∧ Conveys s.server s.client := by
  have h : Flows toServer s.client s.server ∧ Flows toClient s.server s.client := by
    refine hs.invariant (fun s => Flows toServer s.client s.server ∧ Flows toClient s.server s.client)
      ⟨flows_make .., flows_make ..⟩ ?_
    intro s a s' _ hspeaks h hstep
    cases a with
    | client a =>
        obtain ⟨p, hp, rfl⟩ := Option.map_eq_some_iff.mp hstep
        exact h.1.exec hclient h.2 hspeaks hp
    | server a =>
        obtain ⟨p, hp, rfl⟩ := Option.map_eq_some_iff.mp hstep
        exact (h.2.exec hserver h.1 hspeaks hp).symm
  exact ⟨h.1.conveys hserver, h.2.conveys hclient⟩

/-- The client sends two messages of one byte, of which one arrives; the server answers and closes. -/
theorem messages_arrive_in_order_first_of_two :
    ∃ s : PeersState, s.server.receivedMessages = [[7]] ∧ s.client.sentMessages = [[7], [8]] ∧
      Conveys s.client s.server ∧ Conveys s.server s.client := by
  obtain ⟨s, hrun, hreceived, hsent⟩ : ∃ s : PeersState,
      (peersMachine (Peer.make ⟨5, 1, true, 0⟩ 0 checkSingleBytes)
        (Peer.make ⟨6, 2, true, 80⟩ 0 checkSingleBytes)).run
        ⟨Peer.make ⟨5, 1, true, 0⟩ 0 checkSingleBytes, Peer.make ⟨6, 2, true, 80⟩ 0 checkSingleBytes⟩
        [.client (.sendMsg .container (Slice.ofBytes [7])), .client (.sendMsg .endpoint (Slice.ofBytes [8])),
          .client (.sendEvent [.sent 1, .sent 1]), .server (.recvEvent [.data ⟨[7], by decide⟩] ⟨0, ""⟩),
          .server (.sendMsg .container (Slice.ofBytes [9])), .server (.sendEvent [.sent 1]),
          .server (.close true {})] = some s ∧
      s.server.receivedMessages = [[7]] ∧ s.client.sentMessages = [[7], [8]] := ⟨_, rfl, rfl, rfl⟩
  have hone : ∀ b : UInt8, Announced checkSingleBytes.answer headerSize (Slice.ofBytes [b]).toBytes := by
    intro b
    rw [Slice.toBytes_ofBytes]
    exact ⟨by simp, rfl⟩
  refine ⟨s, hreceived, hsent, messages_arrive_in_order checkSingleBytes checkSingleBytes
    stableAnswer_checkSingleBytes stableAnswer_checkSingleBytes _ _ _ _ s (Machine.Reaches.init.run ?_ hrun)⟩
  intro a ha t
  simp only [List.mem_cons, List.not_mem_nil, or_false] at ha
  rcases ha with rfl | rfl | rfl | rfl | rfl | rfl | rfl
  · exact hone 7
  · exact hone 8
  · trivial
  · trivial
  · exact hone 9
  · trivial
  · trivial

end RaptorLite
