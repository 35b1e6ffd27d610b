import RaptorLite.Common.Container
import RaptorLite.Windows.Connection

/-! # Completion events in the container

The handlers of `ContainerImpl` (`common/container_impl.cc`) that a completion reaches, over the slot table
and the connections of `windows/connection.cc`. As in the container over `epoll`, endpoints and connections
are referred to by number, and what the handlers hand to the outside is appended to logs. -/

namespace RaptorLite.Windows

open RaptorLite.Connection (RecvResult)

/-- A container and the objects it refers to. -/
structure ContainerState where
  /-- The endpoints. -/
  endpoints : Nat → EndpointImpl
  /-- The connections. -/
  connections : Nat → Connection
  /-- The slot table, holding references to connections, and `_last_check_time`. -/
  slots : SlotState Nat
  /-- The messages pushed so far, in order. -/
  queue : List TcpMessage
  /-- The sends submitted so far, each with the connection, in order. -/
  sends : List (Nat × List Slice)
  /-- The connections a receive was submitted for so far, in order. -/
  receives : List Nat
  /-- The sockets taken out of the registrations and closed so far, in order. -/
  closedFds : List UInt64

namespace ContainerState

/-- The connection in a slot. -/
def occupant (s : ContainerState) (index : Nat) : Option Nat := s.slots.table.connection index

/-- `Connection::Shutdown` on the connection `con`. -/
def shutdownConnection (opt : ContainerOption) (s : ContainerState) (con : Nat) (notify : Bool)
    (ev : Event) : ContainerState :=
  let c := s.connections con
  let r := c.shutdown (s.endpoints c.endpoint) notify ev
  { s with
    endpoints := Function.update s.endpoints c.endpoint r.endpoint
    connections := Function.update s.connections con r.connection
    closedFds := s.closedFds ++ r.closed.toList
    queue := s.queue ++
      (r.notified.toList.map (RaptorLite.ContainerState.onClosed opt c.endpoint)).flatten }

/-- `ContainerImpl::DeleteConnection`. -/
def deleteConnection (s : ContainerState) (index : Nat) : Option ContainerState :=
  (s.slots.table.deleteConnection index).toOption.map fun t =>
    { s with slots := { s.slots with table := t } }

/-- `ContainerImpl::RefreshTime`. -/
def refreshTime (opt : ContainerOption) (s : ContainerState) (index : Nat) (now : Int) :
    Option ContainerState :=
  (s.slots.table.refreshTime index (deadlineLine opt now)).toOption.map fun t =>
    { s with slots := { s.slots with table := t } }

/-- `ContainerImpl::GetConnection`. -/
def getConnection (s : ContainerState) (index : Nat) : Option (Option Nat) :=
  (s.slots.table.getConnection index).toOption

/-- The end that the failing handlers share: shut the connection down and empty its slot. -/
def dropConnection (opt : ContainerOption) (s : ContainerState) (index con : Nat) (ev : Event) :
    Option ContainerState :=
  (s.shutdownConnection opt con true ev).deleteConnection index

/-- What the outside supplies while a completion is handled. -/
structure EventInput where
  /-- The outcomes of the `recv` calls. -/
  recvs : List RecvResult
  /-- What the `WSASend` or `WSARecv` returns that the handler makes. -/
  outcome : WsaResult
  /-- `WSAGetLastError` where an error is built from it. -/
  lastError : Int32
  /-- `raptor_format_message`. -/
  formatMessage : Int32 → String
  /-- The clock reading of `RefreshTime`. -/
  now : Int

/-- `ContainerImpl::OnErrorEvent`. -/
def onErrorEvent (opt : ContainerOption) (s : ContainerState) (index : Nat) (detail : EventDetail) :
    Option ContainerState :=
  (s.getConnection index).bind fun
    | none => some s
    | some con =>
        s.dropConnection opt index con
          ⟨.socketError, some ⟨detail.errorCode, "ContainerImpl:OnErrorEvent"⟩⟩

/-- `ContainerImpl::OnRecvEvent`. -/
def onRecvEvent (opt : ContainerOption) (s : ContainerState) (index : Nat) (detail : EventDetail)
    (input : EventInput) : Option ContainerState :=
  (s.getConnection index).bind fun
    | none => some s
    | some con =>
        let c := s.connections con
        (c.doRecvEvent input.formatMessage input.lastError detail input.recvs input.outcome).bind
          fun (err, r) =>
            let s' := { s with
              connections := Function.update s.connections con { c with rcvBuffer := r.rcv }
              receives := if r.posted then s.receives ++ [con] else s.receives
              queue := s.queue ++ r.delivered.map (TcpMessage.recvAMessage c.endpoint) }
            match err with
            | none => s'.refreshTime opt index input.now
            | some err => s'.dropConnection opt index con ⟨.socketError, some err⟩

/-- `ContainerImpl::OnSendEvent`. -/
def onSendEvent (opt : ContainerOption) (s : ContainerState) (index : Nat) (detail : EventDetail)
    (input : EventInput) : Option ContainerState :=
  (s.getConnection index).bind fun
    | none => some s
    | some con =>
        let c := s.connections con
        let (err, r) := c.doSendEvent input.formatMessage input.lastError detail input.outcome
        let s' := { s with
          connections := Function.update s.connections con r.connection
          sends := s.sends ++ (r.posted.map (Prod.mk con)).toList }
        match err with
        | none => s'.refreshTime opt index input.now
        | some err => s'.dropConnection opt index con ⟨.socketError, some err⟩

/-- `ContainerImpl::OnEventProcess`. -/
def onEventProcess (opt : ContainerOption) (magicNumber : UInt16) (s : ContainerState)
    (detail : EventDetail) (input : EventInput) : Option ContainerState :=
  match checkConnectionId opt magicNumber detail.ptr with
  | none => some s
  | some index =>
      -- the error bit comes before the others
      if hasBit detail.eventType kErrorEvent then s.onErrorEvent opt index.toNat detail
      else if hasBit detail.eventType kRecvEvent then s.onRecvEvent opt index.toNat detail input
      else if hasBit detail.eventType kSendEvent then s.onSendEvent opt index.toNat detail input
      else some s

/-! ### Completions of another handle -/

/-- A slot that holds a connection is one that `GetConnection` finds. -/
theorem getConnection_of_occupant {s : ContainerState} {index con : Nat}
    (h : s.occupant index = some con) : s.getConnection index = some (some con) := by
  obtain ⟨slot, hslot, hcon⟩ := Option.bind_eq_some_iff.mp h
  obtain ⟨first, it⟩ := slot
  rw [show first = some con from hcon] at hslot
  rw [getConnection, SlotTable.getConnection, hslot]
  rfl

/-- A completed receive whose handle id is not the connection's only refreshes the deadline. -/
theorem onRecvEvent_of_handleId_ne {opt : ContainerOption} {s : ContainerState} {index con : Nat}
    {detail : EventDetail} (input : EventInput) (hcon : s.occupant index = some con)
    (hid : detail.handleId ≠ (s.connections con).handleId) :
    s.onRecvEvent opt index detail input = s.refreshTime opt index input.now := by
  have hdo : (s.connections con).doRecvEvent input.formatMessage input.lastError detail input.recvs
      input.outcome = some (none, ⟨true, [], (s.connections con).rcvBuffer, false⟩) := by
    rw [Connection.doRecvEvent, Connection.onRecvEvent, if_pos hid]
    rfl
  rw [onRecvEvent, getConnection_of_occupant hcon, Option.bind_some]
  dsimp only
  rw [hdo, Option.bind_some]
  -- nothing was received or submitted, and the connection object is the one that was there
  simp only [Bool.false_eq_true, if_false, List.map_nil, List.append_nil, Function.update_eq_self]

/-- A completed send whose handle id is not the connection's only refreshes the deadline. -/
theorem onSendEvent_of_handleId_ne {opt : ContainerOption} {s : ContainerState} {index con : Nat}
    {detail : EventDetail} (input : EventInput) (hcon : s.occupant index = some con)
    (hid : detail.handleId ≠ (s.connections con).handleId) :
    s.onSendEvent opt index detail input = s.refreshTime opt index input.now := by
  have hdo : (s.connections con).doSendEvent input.formatMessage input.lastError detail input.outcome
      = (none, ⟨true, s.connections con, none⟩) := by
    rw [Connection.doSendEvent, Connection.onSendEvent, if_pos hid.symm]
    rfl
  rw [onSendEvent, getConnection_of_occupant hcon, Option.bind_some]
  dsimp only
  rw [hdo]
  simp only [Option.map_none, Option.toList_none, List.append_nil, Function.update_eq_self]

end ContainerState

end RaptorLite.Windows
