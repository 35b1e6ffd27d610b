import Mathlib.Logic.Function.Basic
import RaptorLite.Common.Cid
import RaptorLite.Common.SlotTable
import RaptorLite.Linux.Connection

/-! # The container

`ContainerImpl` (`common/container_impl.cc`) over the slot table and the connections of the previous
modules, each handler taken as one atomic step. Endpoints and connections live in heaps and are
referred to by number, since an endpoint is shared between the application and the connections made
for it. What the handlers hand to the outside (queued messages, calls on the pollers, timers, closed
descriptors) is appended to logs.

`issued` is not part of the program: it is the history of the connection ids that attaching gave out. -/

namespace RaptorLite

/-! ### Ids -/

/-- `InvalidIndex`. -/
def invalidIndex : UInt32 := 0xffffffff

/-- `ContainerImpl::CheckConnectionId`. -/
def checkConnectionId (opt : ContainerOption) (magicNumber : UInt16) (cid : UInt64) : Option UInt32 :=
  if cid = invalidConnectionId then none
  else if getMagicNumber cid ≠ magicNumber then none
  else if getUserId cid = invalidIndex ∨ opt.maxContainerSize ≤ (getUserId cid).toNat then none
  else some (getUserId cid)

/-- An accepted id yields its user id. -/
theorem eq_getUserId_of_check {opt : ContainerOption} {magicNumber : UInt16} {cid : UInt64}
    {index : UInt32} (h : checkConnectionId opt magicNumber cid = some index) :
    index = getUserId cid := by
  unfold checkConnectionId at h
  repeat' split at h
  all_goals cases h
  rfl

/-! ### State -/

/-- `TcpMessageNode`, by its `type`. -/
inductive TcpMessage where
  /-- `kRecvAMessage`. -/
  | recvAMessage (ep : Nat) (slice : Slice)
  /-- `kCloseEvent`. -/
  | closeEvent (ep : Nat) (event : Event)
  /-- `kHeartbeatEvent`. -/
  | heartbeatEvent (ep : Nat)
  /-- `kEndpointNotify`. -/
  | endpointNotify (ep : Nat)
  deriving DecidableEq

/-- The arguments of a `Timer::SetTimer` call. -/
structure TimerCall where
  /-- The slot index. -/
  tid1 : UInt32
  /-- The handle id. -/
  tid2 : UInt32
  /-- The delay. -/
  delay : UInt32
  deriving DecidableEq, Repr

/-- A container and the objects it refers to. -/
structure ContainerState where
  /-- The endpoints. -/
  endpoints : Nat → EndpointImpl
  /-- The connections. -/
  connections : Nat → Connection
  /-- The reference of the next connection. -/
  nextConnection : Nat
  /-- `Connection::global_counter`. -/
  globalCounter : UInt32
  /-- The slot table, holding references to connections, and `_last_check_time`. -/
  slots : SlotState Nat
  /-- The messages pushed so far, in order. -/
  queue : List TcpMessage
  /-- The calls made on the pollers so far, in order. -/
  calls : List PollCall
  /-- The timers set so far, in order. -/
  timers : List TimerCall
  /-- The descriptors closed so far, in order. -/
  closedFds : List UInt64
  /-- The ids given out, each with the endpoint it was assigned to, the latest first. -/
  issued : List (Nat × UInt64)

/-- The connection in a slot. -/
def ContainerState.occupant (s : ContainerState) (index : Nat) : Option Nat :=
  s.slots.table.connection index

namespace ContainerState

/-! ### Connections in place -/

/-- `ContainerImpl::OnClosed`. -/
def onClosed (opt : ContainerOption) (ep : Nat) (ev : Event) : List TcpMessage :=
  if opt.closedHandler then [.closeEvent ep ev] else []

/-- `Connection::Shutdown` on the connection `con`. -/
def shutdownConnection (opt : ContainerOption) (s : ContainerState) (con : Nat) (notify : Bool)
    (ev : Event) : ContainerState :=
  let c := s.connections con
  let r := c.shutdown (s.endpoints c.endpoint) notify ev
  { s with
    endpoints := Function.update s.endpoints c.endpoint r.endpoint
    connections := Function.update s.connections con r.connection
    calls := s.calls ++ r.calls
    closedFds := s.closedFds ++ r.closed.toList
    queue := s.queue ++ (r.notified.toList.map (onClosed opt c.endpoint)).flatten }

/-- `Connection::~Connection`. -/
def destroyConnection (opt : ContainerOption) (s : ContainerState) (con : Nat) : ContainerState :=
  s.shutdownConnection opt con false {}

/-- `ContainerImpl::DeleteConnection`. -/
def deleteConnection (s : ContainerState) (index : Nat) : Option ContainerState :=
  (s.slots.table.deleteConnection index).toOption.map fun t =>
    { s with slots := { s.slots with table := t } }

/-- `ContainerImpl::RefreshTime`. -/
def refreshTime (opt : ContainerOption) (s : ContainerState) (index : Nat) (now : Int) :
    Option ContainerState :=
  (s.slots.table.refreshTime index (deadlineLine opt now)).toOption.map fun t =>
    { s with slots := { s.slots with table := t } }

/-- `ContainerImpl::GetConnection`. -/
def getConnection (s : ContainerState) (index : Nat) : Option (Option Nat) :=
  (s.slots.table.getConnection index).toOption

/-- The end that `CloseEndpoint` and the failing handlers share: shut the connection down, empty its
slot, and let the handler's own reference, the last one, go. -/
def dropConnection (opt : ContainerOption) (s : ContainerState) (index con : Nat) (notify : Bool)
    (ev : Event) : Option ContainerState :=
  ((s.shutdownConnection opt con notify ev).deleteConnection index).map
    fun s' => s'.destroyConnection opt con

/-! ### Attaching -/

/-- `ContainerImpl::AttachEndpointImpl`: the error, if any, and the new state. -/
def attachEndpointImpl (opt : ContainerOption) (magicNumber : UInt16) (s : ContainerState) (ep : Nat)
    (now : Int) : Option (Option Status × ContainerState) :=
  match s.slots.table.attach opt s.nextConnection (deadlineLine opt now) with
  | .error _ => none
  | .ok (none, _) =>
      some (some ⟨-1, "The number of connections has exceeded the limit : " ++
        toString (opt.maxContainerSize % 2 ^ 32)⟩, s)
  | .ok (some index, t) =>
      let index := UInt32.ofNat index
      let cid := buildConnectionId magicNumber (s.endpoints ep).listenPort index
      let e := { s.endpoints ep with connectionId := cid, hasContainer := true }
      let handleId := s.globalCounter
      some (none,
        { s with
          endpoints := Function.update s.endpoints ep e
          connections := Function.update s.connections s.nextConnection
            (Connection.make ep handleId opt.protoHandler)
          nextConnection := s.nextConnection + 1
          globalCounter := s.globalCounter + 1
          slots := { s.slots with table := t }
          calls := s.calls ++ Connection.initCalls e
          timers := s.timers ++ (match opt.heartbeatInterval with
            -- `_timer_thread` exists only for a positive interval
            | some n => if 0 < n then [⟨index, handleId, UInt32.ofNat n⟩] else []
            | none => [])
          issued := (ep, cid) :: s.issued })

/-- `ContainerImpl::AttachEndpoint`. -/
def attachEndpoint (opt : ContainerOption) (magicNumber : UInt16) (s : ContainerState) (ep : Nat)
    (notify : Bool) (now : Int) : Option ContainerState :=
  (attachEndpointImpl opt magicNumber s ep now).map fun (err, s') =>
    if err = none ∧ notify ∧ opt.notifyHandler then
      { s' with queue := s'.queue ++ [.endpointNotify ep] }
    else s'

/-! ### Operations that carry an id -/

/-- `ContainerImpl::SendMsg`. -/
def sendMsg (opt : ContainerOption) (magicNumber : UInt16) (s : ContainerState) (cid : UInt64)
    (slice : Slice) : Option (Bool × ContainerState) :=
  match checkConnectionId opt magicNumber cid with
  | none => some (false, s)
  | some index =>
      (s.getConnection index.toNat).map fun
        | none => (false, s)
        | some con =>
            let c := s.connections con
            let r := c.sendMsg (s.endpoints c.endpoint) slice
            (r.1, { s with
              connections := Function.update s.connections con r.2.1
              calls := s.calls ++ r.2.2 })

/-- `ContainerImpl::CloseEndpoint`. -/
def closeEndpoint (opt : ContainerOption) (magicNumber : UInt16) (s : ContainerState) (ep : Nat)
    (eventNotify : Bool) : Option ContainerState :=
  match checkConnectionId opt magicNumber (s.endpoints ep).connectionId with
  | none => some s
  | some index =>
      (s.getConnection index.toNat).bind fun
        | none => some s
        | some con => s.dropConnection opt index.toNat con eventNotify {}

/-- `EndpointImpl::SendMsg`. -/
def endpointSendMsg (opt : ContainerOption) (magicNumber : UInt16) (s : ContainerState) (ep : Nat)
    (slice : Slice) : Option (Bool × ContainerState) :=
  if (s.endpoints ep).hasContainer then
    s.sendMsg opt magicNumber (s.endpoints ep).connectionId slice
  else some (false, s)

/-- `EndpointImpl::Close`. -/
def endpointClose (opt : ContainerOption) (magicNumber : UInt16) (s : ContainerState) (ep : Nat)
    (notify : Bool) : Option ContainerState :=
  if (s.endpoints ep).hasContainer then s.closeEndpoint opt magicNumber ep notify
  else
    some { s with
      endpoints := Function.update s.endpoints ep { s.endpoints ep with fd := closedFd }
      closedFds := s.closedFds ++ (setSocketShutdown (s.endpoints ep).fd).toList }

/-! ### Poll events and the timeout check -/

/-- What the outside supplies while a poll event is handled. -/
structure EventInput where
  /-- The outcomes of the `recv` calls. -/
  recvs : List Connection.RecvResult
  /-- The outcomes of the `send` calls. -/
  sends : List Connection.SendResult
  /-- `errno` where an error is built from it. -/
  errno : Errno
  /-- The clock reading of `RefreshTime`. -/
  now : Int

/-- `ContainerImpl::OnErrorEvent`. -/
def onErrorEvent (opt : ContainerOption) (s : ContainerState) (index : Nat) (errorCode : Int32) :
    Option ContainerState :=
  (s.getConnection index).bind fun
    | none => some s
    | some con =>
        s.dropConnection opt index con true
          ⟨.socketError, some ⟨errorCode, "ContainerImpl:OnErrorEvent"⟩⟩

/-- `ContainerImpl::OnRecvEvent`. -/
def onRecvEvent (opt : ContainerOption) (s : ContainerState) (index : Nat) (input : EventInput) :
    Option ContainerState :=
  (s.getConnection index).bind fun
    | none => some s
    | some con =>
        let c := s.connections con
        (c.doRecvEvent (s.endpoints c.endpoint) input.recvs input.errno).bind fun r =>
          let s' := { s with
            connections := Function.update s.connections con r.connection
            calls := s.calls ++ r.calls
            queue := s.queue ++ r.delivered.map (TcpMessage.recvAMessage c.endpoint) }
          match r.error with
          | none => s'.refreshTime opt index input.now
          | some err => s'.dropConnection opt index con true ⟨.socketError, some err⟩

/-- `ContainerImpl::OnSendEvent`; on Linux `DoSendEvent` never returns an error. -/
def onSendEvent (opt : ContainerOption) (s : ContainerState) (index : Nat) (input : EventInput) :
    Option ContainerState :=
  (s.getConnection index).bind fun
    | none => some s
    | some con =>
        let c := s.connections con
        (c.doSendEvent (s.endpoints c.endpoint) input.sends).bind fun r =>
          let s' := { s with
            connections := Function.update s.connections con r.connection
            calls := s.calls ++ r.calls }
          s'.refreshTime opt index input.now

/-- `ContainerImpl::OnEventProcess`. -/
def onEventProcess (opt : ContainerOption) (magicNumber : UInt16) (s : ContainerState)
    (detail : EventDetail) (input : EventInput) : Option ContainerState :=
  match checkConnectionId opt magicNumber detail.ptr with
  | none => some s
  | some index =>
      if hasBit detail.eventType kErrorEvent then s.onErrorEvent opt index.toNat detail.errorCode
      else if hasBit detail.eventType kRecvEvent then s.onRecvEvent opt index.toNat input
      else if hasBit detail.eventType kSendEvent then s.onSendEvent opt index.toNat input
      else some s

/-- The event that a timed-out connection is closed with. -/
def timeoutEvent : Event := ⟨.connectionTimeout, some ⟨-1, "Connection:Heart-beat Timeout"⟩⟩

/-- `ContainerImpl::OnTimeoutCheck`. The sweep gives the connections it takes out in order; each is shut
down and, as the table held the last reference, destroyed. -/
def onTimeoutCheck (opt : ContainerOption) (s : ContainerState) (now : Int) : Option ContainerState :=
  if now - s.slots.lastCheckTime < 3000 then some s
  else
    (s.slots.table.timeoutSweep now).toOption.map fun (t, cons) =>
      cons.foldl
        (fun s con => (s.shutdownConnection opt con true timeoutEvent).destroyConnection opt con)
        { s with slots := { table := t, lastCheckTime := now } }

end ContainerState

/-! ### What attaching does -/

/-- The timers that attaching a connection sets: one for its slot and handle id, if heartbeats are on. -/
def heartbeatCalls (opt : ContainerOption) (index handleId : UInt32) : List TimerCall :=
  match opt.heartbeatInterval with
  | some n => if 0 < n then [⟨index, handleId, UInt32.ofNat n⟩] else []
  | none => []

/-- A new connection of endpoint `ep` is in slot `index`. -/
structure ContainerState.Attaches (opt : ContainerOption) (magicNumber : UInt16) (ep index : Nat)
    (now : Int) (s s' : ContainerState) : Prop where
  /-- The slot is taken and its deadline recorded. -/
  table : s.slots.table.attach opt s.nextConnection (deadlineLine opt now) = .ok (some index, s'.slots.table)
  /-- The check time stays. -/
  lastCheckTime : s'.slots.lastCheckTime = s.slots.lastCheckTime
  /-- The connection is made. -/
  connections : s'.connections = Function.update s.connections s.nextConnection
    (Connection.make ep s.globalCounter opt.protoHandler)
  /-- The next reference. -/
  next : s'.nextConnection = s.nextConnection + 1
  /-- The next handle id. -/
  counter : s'.globalCounter = s.globalCounter + 1
  /-- Only the id of the endpoint is new. -/
  endpoints : s'.endpoints = Function.update s.endpoints ep { s.endpoints ep with
    connectionId := buildConnectionId magicNumber (s.endpoints ep).listenPort (UInt32.ofNat index)
    hasContainer := true }
  /-- The heartbeat timer is set. -/
  timers : s'.timers = s.timers ++ heartbeatCalls opt (UInt32.ofNat index) s.globalCounter
  /-- The id is issued. -/
  issued : s'.issued =
    (ep, buildConnectionId magicNumber (s.endpoints ep).listenPort (UInt32.ofNat index)) :: s.issued
  /-- At most the notification is queued. -/
  queue : s'.queue = s.queue ∨ s'.queue = s.queue ++ [.endpointNotify ep]

/-- Attaching either finds no slot and changes nothing or puts a new connection into a slot. -/
theorem ContainerState.attachEndpoint_cases {opt : ContainerOption} {magicNumber : UInt16}
    {s s' : ContainerState} {ep : Nat} {notify : Bool} {now : Int}
    (h : s.attachEndpoint opt magicNumber ep notify now = some s') :
    (s' = s ∧ ∃ t, s.slots.table.attach opt s.nextConnection (deadlineLine opt now) = .ok (none, t)) ∨
      ∃ index, Attaches opt magicNumber ep index now s s' := by
  obtain ⟨⟨err, s₁⟩, hattach, rfl⟩ := Option.map_eq_some_iff.mp h
  unfold attachEndpointImpl at hattach
  cases ht : s.slots.table.attach opt s.nextConnection (deadlineLine opt now) with
  | error f =>
      rw [ht] at hattach
      cases hattach
  | ok r =>
      obtain ⟨taken, t⟩ := r
      rw [ht] at hattach
      cases taken with
      | none =>
          cases hattach
          exact Or.inl ⟨if_neg (fun hnone => nomatch hnone.1), t, rfl⟩
      | some index =>
          cases hattach
          refine Or.inr ⟨index, ?_⟩
          -- the notification only appends to the queue
          dsimp only
          split
          · exact ⟨ht, rfl, rfl, rfl, rfl, rfl, rfl, rfl, Or.inr rfl⟩
          · exact ⟨ht, rfl, rfl, rfl, rfl, rfl, rfl, rfl, Or.inl rfl⟩

/-! ### The machine -/

/-- The calls made on a container by the application and by its pollers. -/
inductive ContainerAction where
  /-- `Container::AttachEndpoint`. -/
  | attachEndpoint (ep : Nat) (notify : Bool) (now : Int)
  /-- `Container::SendMsg`, which ignores empty slices. -/
  | sendMsg (cid : UInt64) (slice : Slice)
  /-- `Endpoint::SendMsg`, which ignores empty slices. -/
  | endpointSendMsg (ep : Nat) (slice : Slice)
  /-- `Container::CloseEndpoint`. -/
  | closeEndpoint (ep : Nat) (eventNotify : Bool)
  /-- `Endpoint::Close`. -/
  | endpointClose (ep : Nat) (notify : Bool)
  /-- A poll event. -/
  | onEventProcess (detail : EventDetail) (input : ContainerState.EventInput)
  /-- The timeout check of the receive poller. -/
  | onTimeoutCheck (now : Int)

/-- One call. -/
def ContainerState.exec (opt : ContainerOption) (magicNumber : UInt16) (s : ContainerState) :
    ContainerAction → Option ContainerState
  | .attachEndpoint ep notify now => s.attachEndpoint opt magicNumber ep notify now
  | .sendMsg cid slice =>
      if slice.size = 0 then some s else (s.sendMsg opt magicNumber cid slice).map Prod.snd
  | .endpointSendMsg ep slice =>
      if slice.size = 0 then some s else (s.endpointSendMsg opt magicNumber ep slice).map Prod.snd
  | .closeEndpoint ep eventNotify => s.closeEndpoint opt magicNumber ep eventNotify
  | .endpointClose ep notify => s.endpointClose opt magicNumber ep notify
  | .onEventProcess detail input => s.onEventProcess opt magicNumber detail input
  | .onTimeoutCheck now => s.onTimeoutCheck opt now

/-- The container behind `Init`: the endpoints exist, with the given descriptors and listening ports,
and none is attached. -/
def ContainerState.start (opt : ContainerOption) (sockets : Nat → UInt64 × UInt16) (now : Int) :
    ContainerState where
  endpoints ep := { fd := (sockets ep).1, connectionId := invalidConnectionId,
                    listenPort := (sockets ep).2 }
  connections _ := Connection.make 0 0 none
  nextConnection := 0
  globalCounter := 0
  slots := { table := .init opt, lastCheckTime := now }
  queue := []
  calls := []
  timers := []
  closedFds := []
  issued := []

/-- A container as a machine. A call that leaves the defined behaviour of the language, or does not
return, is a stuck step. -/
def containerMachine (opt : ContainerOption) (magicNumber : UInt16)
    (sockets : Nat → UInt64 × UInt16) (now : Int) : Machine ContainerState ContainerAction where
  init := .start opt sockets now
  step s a := s.exec opt magicNumber a

end RaptorLite
