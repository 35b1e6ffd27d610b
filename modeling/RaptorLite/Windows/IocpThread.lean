import Mathlib.Logic.Function.Basic
import RaptorLite.Linux.Epoll

/-! # Completions

How a completion packet reaches the service that registered its socket (`windows/iocp_thread.cc`):
`IocpThread::WorkThread` turns what `GetQueuedCompletionStatus` reports into an `EventDetail`, and
`IocpThreadAdaptor` looks the socket up and passes the detail on. A service is a value of any type `σ`, and
an `OVERLAPPED` is referred to by number, since the receivers find their own records through its address.

`event_type` is an `int` in the source; it is kept as its 32 bits here and compared as a signed number. -/

namespace RaptorLite.Windows

/-- `internal::kConnectEvent`. -/
def kConnectEvent : UInt32 := (1 : UInt32) <<< 3
/-- `internal::kAcceptEvent`. -/
def kAcceptEvent : UInt32 := (1 : UInt32) <<< 4
/-- `internal::kMaxEventValue`. -/
def kMaxEventValue : UInt32 := kAcceptEvent ||| kErrorEvent

/-- `OverLappedEx`, behind its `OVERLAPPED`. -/
structure OverLappedEx where
  /-- `event_type`. -/
  eventType : UInt32
  /-- `HandleId`. -/
  handleId : UInt32
  deriving DecidableEq, Repr

/-- `EventDetail`. -/
structure EventDetail where
  /-- The socket, and behind `FindEventService` the completion key it was registered with. -/
  ptr : UInt64
  /-- `event_type`. -/
  eventType : UInt32
  /-- `error_code`. -/
  errorCode : Int32
  /-- `transferred_bytes`. -/
  transferredBytes : UInt32
  /-- `handle_id`. -/
  handleId : UInt32
  /-- `overlaped`. -/
  overlaped : Nat
  deriving DecidableEq, Repr

/-! ### The worker -/

/-- What `Iocp::polling` reports. -/
inductive PollResult where
  /-- A packet of an operation that succeeded. -/
  | success (bytes : UInt32) (key : UInt64) (overlapped : Nat) (olex : OverLappedEx)
  /-- The packet posted by `IocpThread::Shutdown`. -/
  | exit
  /-- `FALSE`: the packet of an operation that failed, or no packet at all. -/
  | failure (bytes : UInt32) (key : UInt64) (overlapped : Option (Nat × OverLappedEx))

/-- One round of `IocpThread::WorkThread`: the detail passed to `OnEventProcess`, if any. `lastError` is
what `WSAGetLastError` returns. -/
def workThread (lastError : Int32) : PollResult → Option EventDetail
  | .failure bytes key (some (overlapped, olex)) =>
      -- `lpOverlapped != NULL && CompletionKey != NULL`
      if key ≠ 0 then
        some { ptr := key
               eventType := olex.eventType
               errorCode := if lastError = 0 then -1 else lastError
               transferredBytes := bytes
               handleId := 0
               overlaped := overlapped }
      else none
  | .failure _ _ none => none
  | .exit => none
  | .success bytes key overlapped olex =>
      some { ptr := key
             eventType := olex.eventType
             errorCode := 0
             transferredBytes := bytes
             handleId := olex.handleId
             overlaped := overlapped }

/-! ### The adaptor -/

/-- `IocpSupplementInfo`. -/
structure IocpSupplementInfo (σ : Type) where
  /-- `CompletionKey`. -/
  completionKey : UInt64
  /-- `service`. -/
  service : σ
  /-- `event_types`. -/
  eventTypes : UInt32

/-- `_interesting_event_services`. -/
abbrev Registrations (σ : Type) := UInt64 → Option (IocpSupplementInfo σ)

namespace Registrations

variable {σ : Type}

/-- `IocpThreadAdaptor::Add`, which `Modify` calls. -/
def add (reg : Registrations σ) (sock completionKey : UInt64) (type : UInt32) (service : σ) :
    Registrations σ :=
  Function.update reg sock (some ⟨completionKey, service, type⟩)

/-- `IocpThreadAdaptor::Delete`. -/
def delete (reg : Registrations σ) (sock : UInt64) (type : UInt32) : Registrations σ :=
  match reg sock with
  | none => reg
  | some info =>
      -- no type is the default: the whole entry goes
      if type = 0 then Function.update reg sock none
      else Function.update reg sock (some { info with eventTypes := info.eventTypes &&& ~~~type })

/-- The test of `FindEventService` on a type that no single event has. -/
def outOfRange (eventType : UInt32) : Bool :=
  eventType.toInt32 < kErrorEvent.toInt32 || kMaxEventValue.toInt32 < eventType.toInt32

/-- `IocpThreadAdaptor::FindEventService`: the service and the detail as it is rewritten. -/
def findEventService (reg : Registrations σ) (detail : EventDetail) : Option (σ × EventDetail) :=
  (reg detail.ptr).map fun info =>
    (info.service,
      { detail with
        eventType := if outOfRange detail.eventType then info.eventTypes ||| kErrorEvent
          else detail.eventType
        ptr := info.completionKey })

/-- The round of the worker with the `OnEventProcess` of the adaptor: the call made on a service. -/
def onPolled (reg : Registrations σ) (lastError : Int32) (polled : PollResult) :
    Option (σ × EventDetail) :=
  (workThread lastError polled).bind reg.findEventService

end Registrations

end RaptorLite.Windows
