import RaptorLite.Common.SocketSetting
import RaptorLite.Foundations.Machine

/-! # The listener

`TcpListener` (`linux/tcp_listener.cc`) with the threads of its `PollingThread` (`linux/epoll_thread.cc`) and
the sockets that `raptor_create_dualstack_socket` and `raptor_tcp_server_prepare_socket`
(`linux/socket_setting.cc`) make for it. Each port has a `ListenerObject` in the list behind `_head`, and the
poller is given the address of the object. `Init`, `Start` and `Shutdown` are called one after another;
calls of `AddListeningPort` and the polling threads run beside them, in any order of steps.

A step of a polling thread names the object whose event it reads. The threads share one array of events, so
this may be any object that is registered. -/

namespace RaptorLite

/-! ### Descriptors -/

/-- What is done with descriptors. -/
inductive FdStep where
  /-- `socket` or `accept4` returned this descriptor. -/
  | opened (fd : Int)
  /-- `close`. -/
  | closed (fd : Int)
  deriving DecidableEq, Repr

/-- Why a step is not taken. -/
inductive ListenerFault where
  /-- It cannot happen in this state. -/
  | notEnabled
  /-- `close` of a descriptor that is not open. -/
  | badClose
  /-- A `ListenerObject` is used behind its `delete`. -/
  | freedObject
  deriving DecidableEq, Repr

/-- The open descriptors behind a step. The kernel returns a descriptor that is not in use. -/
def FdStep.apply (fds : List Int) : FdStep → Except ListenerFault (List Int)
  | .opened fd => if fd ∈ fds then .error .notEnabled else .ok (fd :: fds)
  | .closed fd => if fd ∈ fds then .ok (fds.erase fd) else .error .badClose

/-- The open descriptors behind steps in turn. -/
def applySteps : List Int → List FdStep → Except ListenerFault (List Int)
  | fds, [] => .ok fds
  | fds, step :: rest => (step.apply fds).bind fun fds' => applySteps fds' rest

/-- A call of `socket` that returned this value. -/
def socketStep (fd : Int) : List FdStep := if 0 ≤ fd then [.opened fd] else []

/-- The steps of `raptor_create_dualstack_socket`. -/
def createDualstackSteps (calls : SocketCalls Int) (a : ResolvedAddress) : List FdStep :=
  if a.addr.family = .inet6 then
    let fd := calls.socket .inet6
    if 0 ≤ fd ∧ calls.clearIpv6Only then socketStep fd
    else if (sockaddrIsV4mapped a).isNone then socketStep fd
    else
      -- back to `AF_INET`
      socketStep fd ++ (if 0 ≤ fd then [.closed fd] else []) ++ socketStep (calls.socket .inet)
  else socketStep (calls.socket a.addr.family)

/-- `ListenerObject`. -/
structure ListenerObject where
  /-- `addr`. -/
  addr : ResolvedAddress
  /-- `listen_fd`. -/
  listenFd : Int
  /-- `port`. -/
  port : Nat
  /-- `mode`. -/
  mode : DualstackMode
  deriving DecidableEq, Repr

/-- `AddListeningPort` up to the lock: the steps, and what the object will hold. `prepare` is the port when
`raptor_tcp_server_prepare_socket` succeeds, which otherwise closes the socket. -/
def prepareListening (calls : SocketCalls Int) (prepare : Option Nat) (addr : ResolvedAddress) :
    List FdStep × Option ListenerObject :=
  match createDualstackSocket calls addr with
  | .error _ => (createDualstackSteps calls addr, none)
  | .ok s =>
      match prepare with
      | none => (createDualstackSteps calls addr ++ [.closed s.fd], none)
      | some port => (createDualstackSteps calls addr, some ⟨addr, s.fd, port, s.dsmode⟩)

/-! ### State -/

/-- Where a polling thread is in `DoWork`. -/
inductive PollPlace where
  /-- Created and waiting for `Start`. -/
  | created
  /-- With so many events still to look at; with none it comes to the condition of the loop. -/
  | handling (left : Nat)
  /-- In `epoll_wait`. -/
  | polling
  /-- Returned. -/
  | finished
  deriving DecidableEq, Repr

/-- `PollingThread`. -/
structure Polling where
  /-- `_shutdown`. -/
  isShutdown : Bool
  /-- The threads that could be created. -/
  threads : List PollPlace
  /-- `_epoll` has a descriptor. -/
  epollOpen : Bool
  /-- The objects that it was given. -/
  registered : List Nat

/-- Where the call of `Shutdown` is. -/
inductive ShutdownStage where
  /-- No call, or it has returned. -/
  | idle
  /-- In `_poll_thread->Shutdown()`. -/
  | joining
  /-- Before the loop over the list. -/
  | closing
  deriving DecidableEq, Repr

/-- `TcpListener`. -/
structure ListenerState where
  /-- `_shutdown`. -/
  isShutdown : Bool := true
  /-- `_poll_thread`. -/
  poll : Polling := ⟨true, [], false, []⟩
  /-- The call of `Shutdown`. -/
  stage : ShutdownStage := .idle
  /-- The list behind `_head`: the addresses of the objects, and the objects. -/
  head : List (Nat × ListenerObject) := []
  /-- The address of the next object. -/
  nextObject : Nat := 0
  /-- The calls of `AddListeningPort` between the preparation of the socket and the lock. -/
  adding : List ListenerObject := []
  /-- The open descriptors that nobody else has been given. -/
  fds : List Int := []
  /-- The descriptors of the endpoints passed to `OnAccept`, in order. -/
  accepted : List Int := []
  /-- The descriptors of failed calls that stay open. -/
  lost : List Int := []

/-! ### Steps -/

/-- The steps. -/
inductive ListenerAction where
  /-- `Init`, with the number of threads that could be created. -/
  | init (threads : Nat)
  /-- `Start`. -/
  | start
  /-- `AddListeningPort` up to the lock. -/
  | prepare (calls : SocketCalls Int) (prepare : Option Nat) (addr : ResolvedAddress)
  /-- The rest of the call of `AddListeningPort` with this number. -/
  | enlist (call : Nat)
  /-- `epoll_wait` returns to a thread with so many events. -/
  | polled (thread events : Nat)
  /-- A thread calls `OnEventProcess` for an object, with the result of `accept4`. -/
  | onEventProcess (thread object : Nat) (hangup : Bool) (result : Int)
  /-- A thread comes to the condition of its loop. -/
  | next (thread : Nat)
  /-- `Shutdown` up to the join. -/
  | shutdown
  /-- The threads are joined and the poller is closed. -/
  | joined
  /-- The loop over the list. -/
  | closeAll

/-- Put a thread to a place. -/
def ListenerState.setThread (s : ListenerState) (thread : Nat) (place : PollPlace) : ListenerState :=
  { s with poll := { s.poll with threads := s.poll.threads.set thread place } }

/-- `Thread::Start` or `Thread::Join` lets a thread into `DoWork`. -/
def PollPlace.enter : PollPlace → PollPlace
  | .created => .handling 0
  | place => place

/-- `TcpListener::OnEventProcess` with the result of `AcceptEx`. -/
def ListenerState.accept (s : ListenerState) (hangup : Bool) (result : Int) :
    Except ListenerFault ListenerState :=
  if hangup then .ok s
  else if 0 < result then
    -- the endpoint has the descriptor from here on
    if result ∈ s.fds then .error .notEnabled else .ok { s with accepted := s.accepted ++ [result] }
  else if result = 0 then
    -- taken for a failure
    if (0 : Int) ∈ s.fds then .error .notEnabled else .ok { s with fds := 0 :: s.fds, lost := 0 :: s.lost }
  else .ok s

/-- One step. -/
def ListenerState.exec (s : ListenerState) : ListenerAction → Except ListenerFault ListenerState
  | .init threads =>
      if s.stage ≠ .idle then .error .notEnabled
      else if s.isShutdown then
        if 0 < threads then
          .ok { s with isShutdown := false, poll := ⟨false, List.replicate threads .created, true, []⟩ }
        else .ok { s with poll := ⟨true, [], false, []⟩ }
      else .ok s
  | .start =>
      if s.stage ≠ .idle then .error .notEnabled
      else if s.isShutdown then .ok s
      -- `RAPTOR_ASSERT(_state == kAlive)` in `Thread::Start`
      else if s.poll.threads.all (· == .created) then
        .ok { s with poll := { s.poll with threads := s.poll.threads.map PollPlace.enter } }
      else .error .notEnabled
  | .prepare calls prepare addr =>
      if s.isShutdown then .ok s
      else
        let (steps, object) := prepareListening calls prepare addr
        (applySteps s.fds steps).map fun fds =>
          match object with
          | some object => { s with fds := fds, adding := s.adding ++ [object] }
          | none => { s with fds := fds, lost := fds.diff s.fds ++ s.lost }
  | .enlist call =>
      match s.adding[call]? with
      | none => .error .notEnabled
      | some object =>
          .ok { s with
            head := s.head ++ [(s.nextObject, object)]
            nextObject := s.nextObject + 1
            adding := s.adding.eraseIdx call
            -- `epoll_ctl` fails on a poller that is closed
            poll := if s.poll.epollOpen then
                { s.poll with registered := s.poll.registered ++ [s.nextObject] }
              else s.poll }
  | .polled thread events =>
      if s.poll.threads[thread]? = some .polling then
        if s.poll.isShutdown then .ok (s.setThread thread .finished)
        else .ok (s.setThread thread (.handling events))
      else .error .notEnabled
  | .onEventProcess thread object hangup result =>
      match s.poll.threads[thread]? with
      | some (.handling (left + 1)) =>
          if object ∈ s.poll.registered then
            if object ∈ s.head.map Prod.fst then
              (s.setThread thread (.handling left)).accept hangup result
            else .error .freedObject
          else .error .notEnabled
      | _ => .error .notEnabled
  | .next thread =>
      if s.poll.threads[thread]? = some (.handling 0) then
        .ok (s.setThread thread (if s.poll.isShutdown then .finished else .polling))
      else .error .notEnabled
  | .shutdown =>
      if s.stage ≠ .idle then .error .notEnabled
      else if s.isShutdown then .ok s
      else
        .ok { s with
          isShutdown := true
          poll := { s.poll with isShutdown := true, threads := s.poll.threads.map PollPlace.enter }
          stage := .joining }
  | .joined =>
      if s.stage = .joining ∧ s.poll.threads.all (· == .finished) then
        .ok { s with poll := { s.poll with epollOpen := false, registered := [] }, stage := .closing }
      else .error .notEnabled
  | .closeAll =>
      if s.stage = .closing then
        (applySteps s.fds (s.head.map fun entry => .closed entry.2.listenFd)).map fun fds =>
          { s with fds := fds, head := [], stage := .idle }
      else .error .notEnabled

/-- The listener from its construction on. -/
def listenerMachine : Machine ListenerState ListenerAction where
  init := {}
  step s a := (s.exec a).toOption

end RaptorLite
