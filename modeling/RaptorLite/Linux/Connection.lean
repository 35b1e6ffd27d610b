import RaptorLite.Linux.Epoll
import RaptorLite.Linux.ParsingProtocol

/-! # Connections

`Connection` (`linux/connection.cc`) and the part of `EndpointImpl` (`common/endpoint_impl.cc`) it
shares with the application. Several connections and any number of `Endpoint` handles may share one
`EndpointImpl`, so the functions below take the endpoint next to the connection and return both.

The kernel is an oracle: `OnRecv` and `OnSend` are given the list of outcomes of their `recv` and `send`
calls and return the part they did not use. A list that ends before the loop does, like a handler on
which `ParsingProtocol` does not terminate, gives `none`. -/

namespace RaptorLite

/-! ### Errors and events -/

/-- `errno` with its `strerror` text, read where the source reads it. -/
structure Errno where
  /-- The error number. -/
  code : Int32
  /-- `strerror(code)`. -/
  text : String
  deriving DecidableEq, Repr

/-- `Status`. -/
structure Status where
  /-- `_error_code`. -/
  errorCode : Int32
  /-- `_message`. -/
  message : String
  deriving DecidableEq, Repr

/-- `MakeStatusFromPosixError`. -/
def makeStatusFromPosixError (api : String) (errno : Errno) : Status :=
  ⟨errno.code, api ++ ": " ++ errno.text⟩

/-- `EventType`. -/
inductive EventType where
  /-- `kManualShutdown`. -/
  | manualShutdown
  /-- `kSocketError`. -/
  | socketError
  /-- `kConnectionTimeout`. -/
  | connectionTimeout
  deriving DecidableEq, Repr

/-- `Event`. -/
structure Event where
  /-- `_type`. -/
  type : EventType := .manualShutdown
  /-- `_desc`. -/
  desc : Option Status := none
  deriving DecidableEq, Repr

/-! ### Endpoints -/

/-- `uint64_t(~0)`: the descriptor of a closed endpoint. -/
def closedFd : UInt64 := 0xffffffffffffffff

/-- `EndpointImpl`: the fields the modelled functions use. -/
structure EndpointImpl where
  /-- `_fd`. -/
  fd : UInt64
  /-- `_connection_id`. -/
  connectionId : UInt64
  /-- `_container != nullptr`. -/
  hasContainer : Bool := false
  /-- `_listen_port`. -/
  listenPort : UInt16 := 0
  deriving DecidableEq, Repr

/-- `EndpointImpl::IsOnline`. -/
def EndpointImpl.isOnline (ep : EndpointImpl) : Bool := ep.fd != closedFd && 0 < ep.fd

/-- `raptor_set_socket_shutdown((int)fd)`: the descriptor that is shut down and closed, none for a
negative one. -/
def setSocketShutdown (fd : UInt64) : Option UInt64 :=
  if fd.toUInt32.toInt32 < 0 then none else some fd

/-- A descriptor that is an `int` is closed. -/
theorem setSocketShutdown_eq {fd : UInt64} (h : fd.toNat < 2 ^ 31) : setSocketShutdown fd = some fd := by
  have h32 : fd.toUInt32.toNat = fd.toNat := by
    rw [UInt64.toNat_toUInt32]
    omega
  have hint : fd.toUInt32.toInt32.toInt = fd.toUInt32.toNat := by
    rw [← Int32.toInt_toBitVec, UInt32.toBitVec_toInt32, BitVec.toInt_eq_toNat_of_lt]
    · rfl
    · show 2 * fd.toUInt32.toNat < _
      omega
  rw [setSocketShutdown, if_neg]
  rw [Int32.lt_iff_toInt_lt]
  show ¬ fd.toUInt32.toInt32.toInt < 0
  omega

/-- An endpoint with a positive descriptor that is an `int` is online. -/
theorem EndpointImpl.isOnline_of_int {ep : EndpointImpl} (hpos : 0 < ep.fd.toNat)
    (hint : ep.fd.toNat < 2 ^ 31) : ep.isOnline = true := by
  have hne : ep.fd ≠ closedFd := by
    intro h
    rw [h] at hint
    exact absurd hint (by decide)
  have hlt : 0 < ep.fd := UInt64.lt_iff_toNat_lt.mpr hpos
  simp [isOnline, hne, hlt]

/-! ### Connections -/

/-- `Connection`. -/
structure Connection where
  /-- The endpoint shared with the application, as a reference. -/
  endpoint : Nat
  /-- `_handle_id`. -/
  handleId : UInt32
  /-- `_proto`. -/
  proto : Option ProtocolHandler
  /-- `_rcv_buffer`. -/
  rcvBuffer : SliceBuffer
  /-- `_snd_buffer`. -/
  sndBuffer : SliceBuffer

namespace Connection

/-- `Connection::Connection` followed by `SetProtocol`. -/
def make (endpoint : Nat) (handleId : UInt32) (proto : Option ProtocolHandler) : Connection :=
  ⟨endpoint, handleId, proto, .empty, .empty⟩

/-- `Connection::Init`: the registrations with the two pollers. -/
def initCalls (ep : EndpointImpl) : List PollCall :=
  [Poller.recv.add ep.fd ep.connectionId (epollIn ||| epollEt),
    Poller.send.add ep.fd ep.connectionId (epollOut ||| epollEt)]

/-- `Connection::SendMsg`. -/
def sendMsg (ep : EndpointImpl) (c : Connection) (s : Slice) : Bool × Connection × List PollCall :=
  if ep.isOnline then
    (true, { c with sndBuffer := c.sndBuffer.addSlice s },
      [Poller.send.modify ep.fd ep.connectionId (epollOut ||| epollEt)])
  else (false, c, [])

/-- What `Connection::Shutdown` leaves behind. -/
structure ShutdownResult where
  /-- The endpoint. -/
  endpoint : EndpointImpl
  /-- The connection. -/
  connection : Connection
  /-- The calls made on the pollers. -/
  calls : List PollCall
  /-- The descriptor that was shut down and closed. -/
  closed : Option UInt64
  /-- The event passed to `OnClosed`. -/
  notified : Option Event

/-- `Connection::Shutdown`. -/
def shutdown (ep : EndpointImpl) (c : Connection) (notify : Bool) (ev : Event) : ShutdownResult :=
  if ep.isOnline then
    { endpoint := { ep with fd := closedFd }
      connection := { c with rcvBuffer := .empty, sndBuffer := .empty }
      calls := [Poller.recv.delete ep.fd (epollIn ||| epollEt),
        Poller.send.delete ep.fd (epollOut ||| epollEt)]
      closed := setSocketShutdown ep.fd
      notified := if notify then some ev else none }
  else { endpoint := ep, connection := c, calls := [], closed := none, notified := none }

/-! ### Receiving -/

/-- The bytes of one successful `recv`. -/
abbrev RecvChunk := { bytes : List UInt8 // bytes ≠ [] ∧ bytes.length ≤ recvBufferSize }

/-- The outcome of one `recv` call. -/
inductive RecvResult where
  /-- Some bytes. -/
  | data (chunk : RecvChunk)
  /-- `0`: the peer closed its side. -/
  | closed
  /-- `-1` with `EINTR`, `EWOULDBLOCK` or `EAGAIN`. -/
  | retry
  /-- `-1` with another error. -/
  | error

/-- How a call of `OnRecv` ends. -/
structure OnRecvResult where
  /-- The returned value. -/
  code : Int
  /-- The slices passed to `OnDataReceived`, in order. -/
  delivered : List Slice
  /-- `_rcv_buffer` afterwards. -/
  rcv : SliceBuffer
  /-- The outcomes that were not used. -/
  rest : List RecvResult

/-- What `OnRecv` does with the bytes of one `recv`: the slices passed on, the new receive buffer, and
whether the loop goes on (`ParsingProtocol` did not return `-1`). -/
def takeChunk (proto : Option ProtocolHandler) (rcv : SliceBuffer) (chunk : RecvChunk) :
    Option (Bool × List Slice × SliceBuffer) :=
  match proto with
  | none => some (true, [Slice.ofBytes chunk.1], rcv)
  | some check =>
      (parsingProtocol check (rcv.addSlice (Slice.ofBytes chunk.1))).map fun r =>
        (r.code != -1, r.delivered, r.rcv)

/-- `Connection::OnRecv`. -/
def onRecv (proto : Option ProtocolHandler) : SliceBuffer → List RecvResult → Option OnRecvResult
  | _, [] => none
  | rcv, .closed :: rest => some ⟨-1, [], rcv, rest⟩
  | rcv, .retry :: rest => some ⟨0, [], rcv, rest⟩
  | rcv, .error :: rest => some ⟨-1, [], rcv, rest⟩
  | rcv, .data chunk :: rest =>
      (takeChunk proto rcv chunk).bind fun (goOn, delivered, rcv') =>
        if !goOn then some ⟨-1, delivered, rcv', rest⟩
        -- `while (recv_bytes == unused_space)`
        else if chunk.1.length = recvBufferSize then
          (onRecv proto rcv' rest).map fun r => { r with delivered := delivered ++ r.delivered }
        else some ⟨0, delivered, rcv', rest⟩

/-- How a call of `DoRecvEvent` ends. -/
structure DoRecvResult where
  /-- The returned error, `none` for `RAPTOR_ERROR_NONE`. -/
  error : Option Status
  /-- The connection. -/
  connection : Connection
  /-- The slices passed to `OnDataReceived`, in order. -/
  delivered : List Slice
  /-- The calls made on the pollers. -/
  calls : List PollCall
  /-- The outcomes that were not used. -/
  rest : List RecvResult

/-- `Connection::DoRecvEvent`. -/
def doRecvEvent (ep : EndpointImpl) (c : Connection) (script : List RecvResult) (errno : Errno) :
    Option DoRecvResult :=
  (onRecv c.proto c.rcvBuffer script).map fun r =>
    let c' := { c with rcvBuffer := r.rcv }
    if r.code = 0 then
      ⟨none, c', r.delivered, [Poller.recv.modify ep.fd ep.connectionId (epollIn ||| epollEt)],
        r.rest⟩
    else ⟨some (makeStatusFromPosixError "Connection:OnRecv" errno), c', r.delivered, [], r.rest⟩

/-! ### Sending -/

/-- The outcome of one `send` call. -/
inductive SendResult where
  /-- The number of bytes taken, more than none, and whether `errno` still has `EINTR`, `EWOULDBLOCK` or `EAGAIN`
  from an earlier call. -/
  | sent (n : Nat) (errnoRetries : Bool := false)
  /-- `0`. -/
  | zero
  /-- `-1` with `EINTR`, `EWOULDBLOCK` or `EAGAIN`. -/
  | retry
  /-- `-1` with another error. -/
  | error
  deriving DecidableEq, Repr

/-- How a call of `OnSend` ends. -/
structure OnSendResult where
  /-- The returned value. -/
  code : Int
  /-- The bytes the kernel took. -/
  sent : List UInt8
  /-- `_snd_buffer` afterwards. -/
  snd : SliceBuffer
  /-- The outcomes that were not used. -/
  rest : List SendResult

/-- `int slen = ::send(..)`: the `ssize_t` is cut to 32 bits. -/
def slenOf (n : Nat) : Int32 := Int32.ofNat n

/-- The loop of `Connection::OnSend` on a buffer that holds a slice. `send` takes at least one and at
most all bytes of the front slice. -/
def onSendLoop : SliceBuffer → List SendResult → Option OnSendResult
  | _, [] => none
  | snd, .zero :: rest => some ⟨0, [], snd, rest⟩
  | snd, .retry :: rest => some ⟨-1, [], snd, rest⟩
  | snd, .error :: rest => some ⟨0, [], snd, rest⟩
  | snd, .sent n errnoRetries :: rest =>
      match snd.vs with
      | [] => none
      | slice :: _ =>
          if 0 < n ∧ n ≤ slice.size then
            let slen := slenOf n
            let taken := slice.toBytes.take n
            if slen = 0 then some ⟨0, taken, snd, rest⟩
            -- a count of `2 ^ 31` or more can come out negative, and `errno` is an old one
            else if slen < 0 then some ⟨if errnoRetries then -1 else 0, taken, snd, rest⟩
            else
              let snd' := (snd.moveHeader slen.toNatClampNeg).2
              if 0 < snd'.vs.length then
                (onSendLoop snd' rest).map fun r => { r with sent := taken ++ r.sent }
              else some ⟨0, taken, snd', rest⟩
          else none

/-- `Connection::OnSend`. -/
def onSend (snd : SliceBuffer) (script : List SendResult) : Option OnSendResult :=
  if snd.vs = [] then some ⟨0, [], snd, script⟩ else onSendLoop snd script

/-- How a call of `DoSendEvent` ends; it returns `RAPTOR_ERROR_NONE` in every case. -/
structure DoSendResult where
  /-- The connection. -/
  connection : Connection
  /-- The bytes the kernel took. -/
  sent : List UInt8
  /-- The calls made on the pollers. -/
  calls : List PollCall
  /-- The outcomes that were not used. -/
  rest : List SendResult

/-- `Connection::DoSendEvent`. -/
def doSendEvent (ep : EndpointImpl) (c : Connection) (script : List SendResult) :
    Option DoSendResult :=
  (onSend c.sndBuffer script).map fun r =>
    { connection := { c with sndBuffer := r.snd }
      sent := r.sent
      calls := if r.code = -1 then
          [Poller.send.modify ep.fd ep.connectionId (epollOut ||| epollEt)]
        else []
      rest := r.rest }

/-! ### What the functions leave alone -/

/-- `SendMsg` leaves the endpoint object that the connection refers to. -/
@[simp] theorem endpoint_sendMsg (ep : EndpointImpl) (c : Connection) (s : Slice) :
    (c.sendMsg ep s).2.1.endpoint = c.endpoint := by
  unfold sendMsg
  split <;> rfl

/-- `Shutdown` leaves the endpoint object that the connection refers to. -/
@[simp] theorem endpoint_shutdown (ep : EndpointImpl) (c : Connection) (notify : Bool) (ev : Event) :
    (c.shutdown ep notify ev).connection.endpoint = c.endpoint := by
  unfold shutdown
  split <;> rfl

/-- After `Shutdown` the endpoint is offline. -/
@[simp] theorem isOnline_shutdown (ep : EndpointImpl) (c : Connection) (notify : Bool) (ev : Event) :
    (c.shutdown ep notify ev).endpoint.isOnline = false := by
  unfold shutdown
  split
  · rfl
  · next h => simpa using h

/-- A receive event leaves the endpoint object that the connection refers to. -/
theorem endpoint_doRecvEvent {ep : EndpointImpl} {c : Connection} {script : List RecvResult}
    {errno : Errno} {r : DoRecvResult} (h : c.doRecvEvent ep script errno = some r) :
    r.connection.endpoint = c.endpoint := by
  obtain ⟨r', -, rfl⟩ := Option.map_eq_some_iff.mp h
  dsimp only
  split <;> rfl

/-- A send event leaves the endpoint object that the connection refers to. -/
theorem endpoint_doSendEvent {ep : EndpointImpl} {c : Connection} {script : List SendResult}
    {r : DoSendResult} (h : c.doSendEvent ep script = some r) :
    r.connection.endpoint = c.endpoint := by
  obtain ⟨r', -, rfl⟩ := Option.map_eq_some_iff.mp h
  rfl

/-- `SendMsg` leaves the connection's handle. -/
@[simp] theorem handleId_sendMsg (ep : EndpointImpl) (c : Connection) (s : Slice) :
    (c.sendMsg ep s).2.1.handleId = c.handleId := by
  unfold sendMsg
  split <;> rfl

/-- `Shutdown` leaves the connection's handle. -/
@[simp] theorem handleId_shutdown (ep : EndpointImpl) (c : Connection) (notify : Bool) (ev : Event) :
    (c.shutdown ep notify ev).connection.handleId = c.handleId := by
  unfold shutdown
  split <;> rfl

/-- A receive event leaves the connection's handle. -/
theorem handleId_doRecvEvent {ep : EndpointImpl} {c : Connection} {script : List RecvResult}
    {errno : Errno} {r : DoRecvResult} (h : c.doRecvEvent ep script errno = some r) :
    r.connection.handleId = c.handleId := by
  obtain ⟨r', -, rfl⟩ := Option.map_eq_some_iff.mp h
  dsimp only
  split <;> rfl

/-- A send event leaves the connection's handle. -/
theorem handleId_doSendEvent {ep : EndpointImpl} {c : Connection} {script : List SendResult}
    {r : DoSendResult} (h : c.doSendEvent ep script = some r) :
    r.connection.handleId = c.handleId := by
  obtain ⟨r', -, rfl⟩ := Option.map_eq_some_iff.mp h
  rfl

end Connection

end RaptorLite
