import RaptorLite.Linux.Connection
import RaptorLite.Windows.IocpThread

/-! # Connections over completion ports

`Connection` (`windows/connection.cc`). At most one `WSASend` is meant to be outstanding, which
`_send_pending` remembers; it is given a run of slices from the front of `_snd_buffer`, which are dropped
when it completes. A `WSARecv` with no buffer only announces data, which `OnRecvEvent` then reads with
`recv`.

The kernel is an oracle again: a function that calls `WSASend` or `WSARecv` is given what the call returns,
and says which operation was handed over. The receiving side shares `ParsingProtocol` and the outcomes of
`recv` with the other connection. -/

namespace RaptorLite.Windows

open RaptorLite.Connection (RecvResult takeChunk)

/-! ### Results of overlapped calls -/

/-- `WSA_IO_PENDING`. -/
def wsaIoPending : Int32 := 997

/-- What `WSASend` or `WSARecv` returns. -/
inductive WsaResult where
  /-- `0`. -/
  | success
  /-- `SOCKET_ERROR`, with the code of `WSAGetLastError`. -/
  | error (code : Int32)
  deriving DecidableEq, Repr

/-- The operation is under way: its completion will be queued. -/
def WsaResult.accepted : WsaResult → Bool
  | .success => true
  | .error code => code == wsaIoPending

/-- `MakeStatusFromWindowsError`; `formatMessage` is `raptor_format_message`. -/
def makeStatusFromWindowsError (formatMessage : Int32 → String) (err : Int32) (api : String) : Status :=
  ⟨err, api ++ ": " ++ formatMessage err⟩

/-! ### Connections -/

/-- `Connection`. -/
structure Connection where
  /-- The endpoint shared with the application, as a reference. -/
  endpoint : Nat
  /-- `_handle_id`. -/
  handleId : UInt32
  /-- `_proto`. -/
  proto : Option ProtocolHandler
  /-- `_send_pending`. -/
  sendPending : Bool
  /-- `_rcv_buffer`. -/
  rcvBuffer : SliceBuffer
  /-- `_snd_buffer`. -/
  sndBuffer : SliceBuffer

namespace Connection

/-- `Connection::Connection` followed by `SetProtocol`. -/
def make (endpoint : Nat) (handleId : UInt32) (proto : Option ProtocolHandler) : Connection :=
  ⟨endpoint, handleId, proto, false, .empty, .empty⟩

/-- `_send_overlapped`, which the constructor fills. -/
def sendOverlapped (c : Connection) : OverLappedEx := ⟨kSendEvent, c.handleId⟩

/-- `_recv_overlapped`, which the constructor fills. -/
def recvOverlapped (c : Connection) : OverLappedEx := ⟨kRecvEvent, c.handleId⟩

/-- `Connection::AsyncRecv`: what is returned, which is also whether a `WSARecv` is under way. -/
def asyncRecv (outcome : WsaResult) : Bool := outcome.accepted

/-- How `Connection::Init` ends: the registration, and what `AsyncRecv` returns. -/
def init {σ : Type} (ep : EndpointImpl) (c : Connection) (reg : Registrations σ) (container : σ)
    (outcome : WsaResult) : Connection × Registrations σ × Bool :=
  ({ c with sendPending := false },
    reg.add ep.fd ep.connectionId (kRecvEvent ||| kSendEvent) container, asyncRecv outcome)

/-- What `Connection::Shutdown` leaves behind. -/
structure ShutdownResult where
  /-- The endpoint. -/
  endpoint : EndpointImpl
  /-- The connection. -/
  connection : Connection
  /-- The socket that is taken out of the registrations and closed. -/
  closed : Option UInt64
  /-- The event passed to `OnClosed`. -/
  notified : Option Event

/-- `Connection::Shutdown`. -/
def shutdown (ep : EndpointImpl) (c : Connection) (notify : Bool) (ev : Event) : ShutdownResult :=
  if ep.isOnline then
    { endpoint := { ep with fd := closedFd }
      connection := { c with sendPending := false, rcvBuffer := .empty, sndBuffer := .empty }
      closed := some ep.fd
      notified := if notify then some ev else none }
  else { endpoint := ep, connection := c, closed := none, notified := none }

/-! ### Sending -/

/-- `MAX_PACKAGE_SIZE`. -/
def maxPackageSize : Nat := 0xffff

/-- `MAX_WSABUF_COUNT`. -/
def maxWsabufCount : Nat := 16

/-- The callback that `AsyncSend` passes to `ForEachSlice`, from slice to slice: the slices whose bytes are
put into the `WSABUF` array. -/
def gather : List Slice → Nat → Nat → List Slice
  | [], _, _ => []
  | s :: rest, counter, prepareSendSize =>
      if maxWsabufCount ≤ counter then []
      else if maxPackageSize < prepareSendSize + s.size then []
      else s :: gather rest (counter + 1) (prepareSendSize + s.size)

/-- The regions that a `WSASend` is given now. -/
def regions (c : Connection) : List Slice := gather c.sndBuffer.vs 0 0

/-- How a call ends that may submit a `WSASend`. -/
structure SendOutcome where
  /-- The returned value. -/
  ok : Bool
  /-- The connection. -/
  connection : Connection
  /-- The regions of the `WSASend` that is under way, if one was accepted. -/
  posted : Option (List Slice)

/-- `Connection::AsyncSend`. -/
def asyncSend (c : Connection) (outcome : WsaResult) : SendOutcome :=
  if c.sndBuffer.vs = [] ∨ c.sendPending then ⟨true, c, none⟩
  else if outcome.accepted then ⟨true, { c with sendPending := true }, some c.regions⟩
  -- `_send_pending` is set before the call and cleared behind one that fails
  else ⟨false, { c with sendPending := false }, none⟩

/-- `Connection::SendMsg`. -/
def sendMsg (ep : EndpointImpl) (c : Connection) (s : Slice) (outcome : WsaResult) : SendOutcome :=
  if ep.isOnline then asyncSend { c with sndBuffer := c.sndBuffer.addSlice s } outcome
  else ⟨false, c, none⟩

/-- `Connection::OnSendEvent`. -/
def onSendEvent (c : Connection) (size : Nat) (handleId : UInt32) (outcome : WsaResult) : SendOutcome :=
  if c.handleId ≠ handleId then ⟨true, c, none⟩
  else if size = 0 then ⟨false, c, none⟩
  else
    let c := { c with sendPending := false, sndBuffer := (c.sndBuffer.moveHeader size).2 }
    if c.sndBuffer.vs = [] then ⟨true, c, none⟩ else c.asyncSend outcome

/-- `Connection::DoSendEvent`: the error, if any, next to how `OnSendEvent` ended. `lastError` is what
`WSAGetLastError` returns. -/
def doSendEvent (formatMessage : Int32 → String) (lastError : Int32) (c : Connection)
    (detail : EventDetail) (outcome : WsaResult) : Option Status × SendOutcome :=
  let r := c.onSendEvent detail.transferredBytes.toNat detail.handleId outcome
  (if r.ok then none
    else some (makeStatusFromWindowsError formatMessage lastError "Connection:OnSendEvent"), r)

/-! ### Receiving -/

/-- How a call of `OnRecvEvent` ends. -/
structure OnRecvResult where
  /-- The returned value. -/
  ok : Bool
  /-- The slices passed to `OnDataReceived`, in order. -/
  delivered : List Slice
  /-- `_rcv_buffer` afterwards. -/
  rcv : SliceBuffer
  /-- A `WSARecv` was handed over. -/
  posted : Bool

/-- The loop of `Connection::OnRecvEvent`; the outcome `retry` of `recv` is `WSAEWOULDBLOCK`. -/
def onRecvLoop (proto : Option ProtocolHandler) (outcome : WsaResult) :
    SliceBuffer → List RecvResult → Option OnRecvResult
  | _, [] => none
  | rcv, .closed :: _ => some ⟨false, [], rcv, false⟩
  | rcv, .retry :: _ => some ⟨true, [], rcv, false⟩
  | rcv, .error :: _ => some ⟨false, [], rcv, false⟩
  | rcv, .data chunk :: rest =>
      (takeChunk proto rcv chunk).bind fun (goOn, delivered, rcv') =>
        if !goOn then some ⟨false, delivered, rcv', false⟩
        -- `while (recv_bytes == unused_space)`
        else if chunk.1.length = recvBufferSize then
          (onRecvLoop proto outcome rcv' rest).map fun r =>
            { r with delivered := delivered ++ r.delivered }
        else some ⟨asyncRecv outcome, delivered, rcv', asyncRecv outcome⟩

/-- `Connection::OnRecvEvent`. -/
def onRecvEvent (c : Connection) (handleId : UInt32) (script : List RecvResult) (outcome : WsaResult) :
    Option OnRecvResult :=
  if handleId ≠ c.handleId then some ⟨true, [], c.rcvBuffer, false⟩
  else onRecvLoop c.proto outcome c.rcvBuffer script

/-- `Connection::DoRecvEvent`: the error, if any, next to how `OnRecvEvent` ended. -/
def doRecvEvent (formatMessage : Int32 → String) (lastError : Int32) (c : Connection)
    (detail : EventDetail) (script : List RecvResult) (outcome : WsaResult) :
    Option (Option Status × OnRecvResult) :=
  (c.onRecvEvent detail.handleId script outcome).map fun r =>
    (if r.ok then none
      else some (makeStatusFromWindowsError formatMessage lastError "Connection:OnRecvEvent"), r)

end Connection

end RaptorLite.Windows
