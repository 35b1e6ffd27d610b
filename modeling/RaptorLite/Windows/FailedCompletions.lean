import RaptorLite.Windows.Container
import RaptorLite.Windows.TcpConnector

/-! # Failed completions

What becomes of an operation that fails: `WorkThread` keeps the error code and the event type of the
operation, and leaves it to `FindEventService` to set `kErrorEvent`. That function sets it on types outside
of the range of the events, which no operation of the program has. So the receivers see the plain type of
the operation, and the handle id `0`, which a connection takes for a completion of an earlier one. -/

namespace RaptorLite.Windows

/-- The operations that the program submits. -/
inductive OpKind where
  /-- `WSASend` of a connection. -/
  | send
  /-- `WSARecv` of a connection. -/
  | recv
  /-- `ConnectEx` of the connector. -/
  | connect
  /-- `AcceptEx` of the listener. -/
  | accept
  deriving DecidableEq, Repr

/-- The `event_type` that the operation is submitted with. -/
def OpKind.eventType : OpKind → UInt32
  | .send => kSendEvent
  | .recv => kRecvEvent
  | .connect => kConnectEvent
  | .accept => kAcceptEvent

/-- Every operation has an event type in the range that `FindEventService` leaves alone. -/
theorem OpKind.outOfRange_eventType (kind : OpKind) :
    Registrations.outOfRange kind.eventType = false := by
  cases kind with
  | send => decide
  | recv => decide
  | connect => decide
  | accept => decide

/-- No operation has the error bit. -/
theorem OpKind.hasBit_eventType_error (kind : OpKind) : hasBit kind.eventType kErrorEvent = false := by
  cases kind with
  | send => decide
  | recv => decide
  | connect => decide
  | accept => decide

/-- The packet of a failed operation on a socket: the completion key is the socket, under which
`IocpThreadAdaptor::Add` put it into the port. -/
def failedPacket (sock : UInt64) (kind : OpKind) (handleId : UInt32) (overlapped : Nat) (bytes : UInt32) :
    PollResult :=
  .failure bytes sock (some (overlapped, ⟨kind.eventType, handleId⟩))

/-- The detail that the service of a registration gets for a failed operation. -/
def failedDetail {σ : Type} (info : IocpSupplementInfo σ) (kind : OpKind) (overlapped : Nat)
    (lastError : Int32) (bytes : UInt32) : EventDetail where
  ptr := info.completionKey
  eventType := kind.eventType
  errorCode := if lastError = 0 then -1 else lastError
  transferredBytes := bytes
  handleId := 0
  overlaped := overlapped

/-- The service is called with `kErrorEvent` set. -/
def ReportedAsError {σ : Type} (call : Option (σ × EventDetail)) (service : σ) : Prop :=
  ∃ detail, call = some (service, detail) ∧ hasBit detail.eventType kErrorEvent = true

section Delivery

variable {σ : Type} {reg : Registrations σ} {sock : UInt64} {info : IocpSupplementInfo σ}

/-- What a failed operation on a registered socket comes to: the service is called with the type of the
operation. -/
theorem onPolled_failedPacket (hreg : reg sock = some info) (hsock : sock ≠ 0) (kind : OpKind)
    (handleId : UInt32) (overlapped : Nat) (lastError : Int32) (bytes : UInt32) :
    reg.onPolled lastError (failedPacket sock kind handleId overlapped bytes)
      = some (info.service, failedDetail info kind overlapped lastError bytes) := by
  rw [Registrations.onPolled, failedPacket, workThread, if_pos hsock, Option.bind_some,
    Registrations.findEventService]
  dsimp only
  -- the type is in range, so it is passed on as it is
  rw [hreg, Option.map_some, kind.outOfRange_eventType]
  rfl

/-- A failed operation is not reported as an error. -/
theorem not_reportedAsError (hreg : reg sock = some info) (kind : OpKind) (handleId : UInt32)
    (overlapped : Nat) (lastError : Int32) (bytes : UInt32) :
    ¬ ReportedAsError (reg.onPolled lastError (failedPacket sock kind handleId overlapped bytes))
      info.service := by
  rintro ⟨detail, hcall, herror⟩
  by_cases hsock : sock = 0
  · -- the worker takes a null key for a timeout
    rw [Registrations.onPolled, failedPacket, workThread, if_neg (not_not_intro hsock)] at hcall
    cases hcall
  · rw [onPolled_failedPacket hreg hsock, Option.some.injEq, Prod.mk.injEq] at hcall
    rw [← hcall.2] at herror
    have hplain : hasBit kind.eventType kErrorEvent = true := herror
    rw [kind.hasBit_eventType_error] at hplain
    cases hplain

end Delivery

/-- The connector takes a failed `ConnectEx` for one that succeeded. -/
theorem onEventProcess_failed_connect {σ : Type} (info : IocpSupplementInfo σ)
    (formatMessage : Int32 → String) (t : TcpConnector) (overlapped : Nat) (lastError : Int32)
    (bytes : UInt32) :
    t.onEventProcess formatMessage (failedDetail info .connect overlapped lastError bytes)
      = some ({ t with records := t.records.erase overlapped },
          .onConnect (t.entries overlapped).fd (t.entries overlapped).userValue) := by
  have hconnect : hasBit OpKind.connect.eventType kConnectEvent = true := by decide
  rw [TcpConnector.onEventProcess]
  simp only [failedDetail, hconnect, OpKind.hasBit_eventType_error, if_true, Bool.false_eq_true, if_false]

/-- The container takes a failed send or receive for a completion of an earlier connection, and refreshes
the deadline of the one it belongs to. -/
theorem onEventProcess_failed_io {σ : Type} (info : IocpSupplementInfo σ) {kind : OpKind}
    (hkind : kind = .send ∨ kind = .recv) (overlapped : Nat) (lastError : Int32) (bytes : UInt32)
    {opt : ContainerOption} {magicNumber : UInt16} {s : ContainerState} (input : ContainerState.EventInput)
    {index : UInt32} {con : Nat} (hindex : checkConnectionId opt magicNumber info.completionKey = some index)
    (hcon : s.occupant index.toNat = some con) (hid : (s.connections con).handleId ≠ 0) :
    s.onEventProcess opt magicNumber (failedDetail info kind overlapped lastError bytes) input
      = s.refreshTime opt index.toNat input.now := by
  -- the detail carries the handle id 0, which is not the connection's
  have hother : (failedDetail info kind overlapped lastError bytes).handleId
      ≠ (s.connections con).handleId := hid.symm
  rw [ContainerState.onEventProcess, show (failedDetail info kind overlapped lastError bytes).ptr
    = info.completionKey from rfl, hindex]
  dsimp only
  rw [show (failedDetail info kind overlapped lastError bytes).eventType = kind.eventType from rfl,
    kind.hasBit_eventType_error]
  rcases hkind with rfl | rfl
  · exact ContainerState.onSendEvent_of_handleId_ne input hcon hother
  · exact ContainerState.onRecvEvent_of_handleId_ne input hcon hother

/-- **No failed completion is reported as an error.** For every registration map, every registered socket
and every operation the program submits, when polling fails with an overlapped the service of the socket is
not called with `kErrorEvent`: it is called with the type of the operation (for a socket that is not `0`)
and with the handle id `0`. So a failed `ConnectEx` leads the connector to call `OnConnect`, and a failed
send or receive leaves every connection in the container whose handle id is not `0`, with its deadline
refreshed. -/
theorem failed_completion_never_reported {σ : Type} (reg : Registrations σ) (sock : UInt64)
    (info : IocpSupplementInfo σ) (hreg : reg sock = some info) (kind : OpKind) (handleId : UInt32)
    (overlapped : Nat) (lastError : Int32) (bytes : UInt32) :
    ¬ ReportedAsError (reg.onPolled lastError (failedPacket sock kind handleId overlapped bytes))
      info.service ∧
    (sock ≠ 0 → ∃ detail,
      reg.onPolled lastError (failedPacket sock kind handleId overlapped bytes)
        = some (info.service, detail) ∧
      detail.eventType = kind.eventType ∧ detail.handleId = 0 ∧
      (kind = .connect → ∀ (formatMessage : Int32 → String) (t : TcpConnector),
        t.onEventProcess formatMessage detail
          = some ({ t with records := t.records.erase overlapped },
              .onConnect (t.entries overlapped).fd (t.entries overlapped).userValue)) ∧
      (kind = .send ∨ kind = .recv → ∀ (opt : ContainerOption) (magicNumber : UInt16)
        (s : ContainerState) (input : ContainerState.EventInput) (index : UInt32) (con : Nat),
        checkConnectionId opt magicNumber info.completionKey = some index →
        s.occupant index.toNat = some con → (s.connections con).handleId ≠ 0 →
        s.onEventProcess opt magicNumber detail input = s.refreshTime opt index.toNat input.now)) := by
  refine ⟨not_reportedAsError hreg kind handleId overlapped lastError bytes, ?_⟩
  intro hsock
  refine ⟨_, onPolled_failedPacket hreg hsock kind handleId overlapped lastError bytes, rfl, rfl, ?_, ?_⟩
  · intro hkind formatMessage t
    rw [hkind]
    exact onEventProcess_failed_connect info formatMessage t overlapped lastError bytes
  · intro hkind opt magicNumber s input index con hindex hcon hid
    exact onEventProcess_failed_io info hkind overlapped lastError bytes input hindex hcon hid

/-- The connector of one attempt, to reach port 80 with socket 7. -/
def oneAttempt : TcpConnector where
  entries _ := ⟨⟨kConnectEvent, 0⟩, 7, 42⟩
  records := {3}

/-- The registration of that attempt. -/
def oneRegistration : Registrations Unit := Registrations.add (fun _ => none) 7 7 kConnectEvent ()

/-- A refused connection: the connector reports it as made. -/
theorem failed_completion_never_reported_refused :
    ∃ detail, oneRegistration.onPolled 10061 (failedPacket 7 .connect 0 3 0) = some ((), detail) ∧
      detail.eventType = kConnectEvent ∧
      ∃ t, oneAttempt.onEventProcess (fun _ => "refused") detail = some (t, .onConnect 7 42) := by
  obtain ⟨-, hcall⟩ := failed_completion_never_reported oneRegistration 7 ⟨7, (), kConnectEvent⟩ rfl
    .connect 0 3 10061 0
  obtain ⟨detail, hdetail, htype, -, hconnect, -⟩ := hcall (by decide)
  exact ⟨detail, hdetail, htype, _, hconnect rfl (fun _ => "refused") oneAttempt⟩

/-- A refused `ConnectEx` reaches the connector without the error bit, which then calls `OnConnect`. -/
theorem refused_connect_calls_onConnect :
    ¬ ReportedAsError (oneRegistration.onPolled 10061 (failedPacket 7 .connect 0 3 0)) () ∧
    ∃ detail, oneRegistration.onPolled 10061 (failedPacket 7 .connect 0 3 0) = some ((), detail) ∧
      hasBit detail.eventType kErrorEvent = false ∧
      (oneAttempt.onEventProcess (fun _ => "refused") detail).map Prod.snd = some (.onConnect 7 42) := by
  refine ⟨?_, _, rfl, rfl, rfl⟩
  rintro ⟨detail, hcall, herror⟩
  cases hcall
  cases herror

end RaptorLite.Windows
