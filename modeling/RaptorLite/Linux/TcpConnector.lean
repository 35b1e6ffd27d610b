import Mathlib.Data.List.Nodup
import RaptorLite.Foundations.Machine
import RaptorLite.Linux.Connection

/-! # The connector over epoll

`TcpConnector` (`linux/tcp_connector.cc`) on one poll thread, with the endpoints it hands to the application.
The descriptor of a connection attempt and the record made for it pass through `_records`, the interest list
of the poller, a batch of events, a running `OnEventProcess` and an endpoint, and four functions release them.
The model keeps a log of all `close` and `delete` calls.

Descriptors are told apart by their opening: a number that the kernel gives out again is a new descriptor. The
address of a record is only compared, so a record is called by its descriptor. The part of `Shutdown` behind
the join of the poll thread runs when no batch and no handler is left, and nothing is connected after it. The
socket options that `ProcessProperty` sets are left out. -/

namespace RaptorLite

/-! ### State -/

/-- `EWOULDBLOCK`. -/
def eWouldBlock : Int32 := 11
/-- `EINPROGRESS`. -/
def eInProgress : Int32 := 115

/-- Who closes a descriptor. -/
inductive Closer where
  /-- `TcpConnector::AsyncConnect`, or the preparation of the socket that it calls. -/
  | asyncConnect
  /-- `TcpConnector::OnEventProcess`. -/
  | onEventProcess
  /-- `TcpConnector::Shutdown`. -/
  | shutdown
  /-- `EndpointImpl::Close`, or the container that the endpoint is attached to. -/
  | endpoint
  deriving DecidableEq, Repr

/-- A call of the `ConnectorHandler`. -/
inductive HandlerCall where
  /-- `OnConnect`, with the property `UserCustomValue`. -/
  | onConnect (userCustomValue : Int64)
  /-- `OnErrorOccurred`. -/
  | onErrorOccurred (desc : Status)
  deriving DecidableEq, Repr

/-- Whether it is `OnConnect`. -/
def HandlerCall.isConnect : HandlerCall → Bool
  | .onConnect _ => true
  | .onErrorOccurred _ => false

/-- An endpoint that `OnEventProcess` made, and the call it was made for. -/
structure Handed where
  /-- The record. -/
  entry : Nat
  /-- The call. -/
  call : HandlerCall
  /-- `_fd` of the endpoint, `none` for `~0`. -/
  fd : Option Nat
  /-- `_container != nullptr`. -/
  hasContainer : Bool
  deriving DecidableEq, Repr

/-- `TcpConnector` and what it hands out. -/
structure TcpConnector where
  /-- `_shutdown`. -/
  isShutdown : Bool
  /-- The number of descriptors opened so far. -/
  sockets : Nat
  /-- The records made so far: the `Connect` calls that were accepted. -/
  accepted : List Nat
  /-- `entry->user_value`. -/
  userValue : Nat → Int64
  /-- `_records`. -/
  records : List Nat
  /-- The records whose descriptors the poller watches. -/
  interest : List Nat
  /-- The rest of the batch that `epoll_wait` returned to the poll thread: `data.ptr` and the mask. -/
  batch : List (Nat × UInt32)
  /-- The `OnEventProcess` that is in the call of its handler: its record, and whether it took the branch of
  `kSendEvent`. -/
  running : Option (Nat × Bool)
  /-- The endpoints handed to the application, in order. -/
  handed : List Handed
  /-- The `close` calls, in order. -/
  closed : List (Nat × Closer)
  /-- The records deleted, in order. -/
  freed : List Nat

namespace TcpConnector

/-! ### Operations -/

/-- What the kernel answers to `AsyncConnect`. -/
inductive ConnectOutcome where
  /-- `raptor_tcp_client_prepare_socket` fails; a socket that it made, it has closed. -/
  | unprepared (opened : Bool)
  /-- `errno` behind the loop around `connect`, and whether the poller takes the descriptor. -/
  | connected (errno : Int32) (added : Bool)

/-- `TcpConnector::AsyncConnect`. -/
def asyncConnect (s : TcpConnector) (user : Int64) : ConnectOutcome → TcpConnector
  | .unprepared false => s
  | .unprepared true =>
      { s with
        sockets := s.sockets + 1
        closed := s.closed ++ [(s.sockets, .asyncConnect)] }
  | .connected errno added =>
      -- the result of `connect` is not looked at
      if errno ≠ eWouldBlock ∧ errno ≠ eInProgress then
        { s with
          sockets := s.sockets + 1
          closed := s.closed ++ [(s.sockets, .asyncConnect)] }
      else
        { s with
          sockets := s.sockets + 1
          accepted := s.accepted ++ [s.sockets]
          userValue := fun e => if e = s.sockets then user else s.userValue e
          records := s.records ++ [s.sockets]
          interest := if added then s.interest ++ [s.sockets] else s.interest }

/-- `epoll_wait` returns a batch to the idle poll thread: descriptors that it watches, each once. -/
def polling (s : TcpConnector) (batch : List (Nat × UInt32)) : Option TcpConnector :=
  if s.isShutdown = false ∧ s.batch = [] ∧ s.running = none ∧ (batch.map Prod.fst).Nodup ∧
      ∀ ev ∈ batch, ev.1 ∈ s.interest then some { s with batch }
  else none

/-- The endpoint of a record is made, its descriptor is taken from the poller and the handler is called. -/
def callHandler (s : TcpConnector) (entry : Nat) (call : HandlerCall) : TcpConnector :=
  { s with
    interest := s.interest.erase entry
    running := some (entry, call.isConnect)
    handed := s.handed ++ [⟨entry, call, some entry, false⟩] }

/-- `TcpConnector::OnEventProcess` on the next event of the batch, up to the call of the handler. -/
def onEventProcess (s : TcpConnector) (errorCode : Int32) : Option TcpConnector :=
  match s.running, s.batch with
  | none, (entry, events) :: rest =>
      let detail := EpollEvent.detail ⟨events, 0⟩ errorCode
      let call := if hasBit detail.eventType kSendEvent then .onConnect (s.userValue entry)
        else .onErrorOccurred ⟨errorCode, "getsockopt(SO_ERROR)"⟩
      some ({ s with batch := rest }.callHandler entry call)
  | _, _ => none

/-- `TcpConnector::OnEventProcess` behind the call of the handler. -/
def handlerReturned (s : TcpConnector) : Option TcpConnector :=
  s.running.map fun (entry, isConnect) =>
    { s with
      running := none
      closed := if isConnect then s.closed else s.closed ++ [(entry, .onEventProcess)]
      records := s.records.erase entry
      freed := s.freed ++ [entry] }

/-- A container takes the endpoint. -/
def attach (s : TcpConnector) (ep : Nat) : Option TcpConnector :=
  if ep < s.handed.length then
    some { s with handed := s.handed.modify ep fun h => { h with hasContainer := true } }
  else none

/-- `raptor_set_socket_shutdown` on the descriptor of the endpoint, if it has one, and `_fd = ~0`: what
`EndpointImpl::Close` does to an endpoint without a container and `Connection::Shutdown` to one with. -/
def release (s : TcpConnector) (ep : Nat) : Option TcpConnector :=
  (s.handed[ep]?).map fun h =>
    { s with
      closed := s.closed ++ h.fd.toList.map (·, .endpoint)
      handed := s.handed.modify ep fun h => { h with fd := none } }

/-- `EndpointImpl::Close`; `found` is whether the container of the endpoint still has its connection. -/
def endpointClose (s : TcpConnector) (ep : Nat) (found : Bool) : Option TcpConnector :=
  (s.handed[ep]?).bind fun h => if h.hasContainer && !found then some s else s.release ep

/-- `Connection::Shutdown` in the container of the endpoint. -/
def containerClose (s : TcpConnector) (ep : Nat) : Option TcpConnector :=
  (s.handed[ep]?).bind fun h => if h.hasContainer then s.release ep else none

/-- `TcpConnector::Shutdown`. -/
def shutdown (s : TcpConnector) : Option TcpConnector :=
  if s.isShutdown then some s
  else if s.batch = [] ∧ s.running = none then
    some { s with
      isShutdown := true
      closed := s.closed ++ s.records.map (·, .shutdown)
      records := []
      interest := [] }
  else none

end TcpConnector

/-- The steps. -/
inductive ConnectorAction where
  /-- `Connect`, with the address resolved. -/
  | connect (user : Int64) (outcome : TcpConnector.ConnectOutcome)
  /-- `epoll_wait` returns. -/
  | polling (batch : List (Nat × UInt32))
  /-- The next event is processed up to the call of the handler. -/
  | onEventProcess (errorCode : Int32)
  /-- The handler returns. -/
  | handlerReturned
  /-- The application attaches an endpoint, inside the handler or later. -/
  | attach (ep : Nat)
  /-- The application closes an endpoint, inside the handler or later. -/
  | endpointClose (ep : Nat) (found : Bool)
  /-- A container closes an endpoint. -/
  | containerClose (ep : Nat)
  /-- `Shutdown`. -/
  | shutdown

/-- One step. -/
def TcpConnector.exec (s : TcpConnector) : ConnectorAction → Option TcpConnector
  | .connect user outcome => if s.isShutdown then none else some (s.asyncConnect user outcome)
  | .polling batch => s.polling batch
  | .onEventProcess errorCode => s.onEventProcess errorCode
  | .handlerReturned => s.handlerReturned
  | .attach ep => s.attach ep
  | .endpointClose ep found => s.endpointClose ep found
  | .containerClose ep => s.containerClose ep
  | .shutdown => s.shutdown

/-- The connector behind `Init`. -/
def connectorMachine : Machine TcpConnector ConnectorAction where
  init := ⟨false, 0, [], fun _ => 0, [], [], [], none, [], [], []⟩
  step s a := s.exec a

end RaptorLite
