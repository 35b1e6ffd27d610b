import Mathlib.Data.Fintype.Sets
import RaptorLite.Common.Container
import RaptorLite.Foundations.Threads

/-! # The threads on one connection

`Connection::Shutdown` and `Connection::OnRecv` (`linux/connection.cc`) as they are run by several threads on
one connection: the pollers that report an event on its socket, the timeout check, an application thread that
closes it. A step is one access to what the threads share; `_rcv_mutex`, which `OnRecv` holds, is the only lock
among them. The thread that attaches the endpoint is there as well: it registers the connection with the
pollers (`AttachEndpointImpl`) and queues the notification afterwards (`OnNotify`). -/

namespace RaptorLite

open Connection

/-! ### State -/

/-- How `OnRecv` goes on behind the packages of one `recv`. -/
inductive AfterPush where
  /-- `ParsingProtocol` returned `-1`. -/
  | fail
  /-- The buffer was full, so that `recv` is called again. -/
  | again
  /-- It returns `0`. -/
  | done
  deriving DecidableEq, Repr

/-- Where a thread is. -/
inductive ConnPc where
  /-- Not in a call on the connection. -/
  | idle
  /-- `Shutdown`: about to read `IsOnline`. -/
  | isOnline (notify : Bool) (ev : Event)
  /-- `Shutdown`: about to delete the socket from the receive poller. -/
  | deleteRecv (notify : Bool) (ev : Event)
  /-- `Shutdown`: about to delete the socket from the send poller. -/
  | deleteSend (notify : Bool) (ev : Event)
  /-- `Shutdown`: about to shut down and close the descriptor in the endpoint. -/
  | close (notify : Bool) (ev : Event)
  /-- `Shutdown`: about to mark the endpoint offline. -/
  | mark (notify : Bool) (ev : Event)
  /-- `Shutdown`: about to call `OnClosed`. -/
  | onClosed (ev : Event)
  /-- `Shutdown`: about to clear the receive buffer. -/
  | clearRcv
  /-- `Shutdown`: about to clear the send buffer. -/
  | clearSnd
  /-- `OnRecv`: about to lock `_rcv_mutex`. -/
  | lockRcv
  /-- `OnRecv`: about to call `recv`. -/
  | recv
  /-- `OnRecv`: about to pass these packages to `OnDataReceived`. -/
  | push (slices : List Slice) (after : AfterPush)

/-- Where the thread that attaches the endpoint is. -/
inductive AttachPc where
  /-- Before the end of `AttachEndpointImpl`. -/
  | impl
  /-- Before `OnNotify`. -/
  | notify
  /-- Behind it. -/
  | done
  deriving DecidableEq, Repr

/-- One connection and the threads on it. -/
structure ConnThreads (ι : Type) where
  /-- The endpoint. -/
  endpoint : EndpointImpl
  /-- The connection. -/
  connection : Connection
  /-- The attaching thread. -/
  attach : AttachPc
  /-- The other threads. -/
  pcs : ι → ConnPc
  /-- The holder of `_rcv_mutex`. -/
  rcvMutex : Option ι
  /-- The messages of the endpoint that were queued, in order. -/
  queue : List TcpMessage
  /-- The calls made on the pollers. -/
  calls : List PollCall
  /-- The descriptors that were closed, in order. -/
  closed : List UInt64
  /-- The arguments of the first `Shutdown` that found the endpoint online. -/
  first : Option (Bool × Event)

/-- The steps. -/
inductive ConnAction (ι : Type) where
  /-- `AttachEndpointImpl` registers the connection. -/
  | attachImpl
  /-- `OnNotify` queues the notification. -/
  | onNotify
  /-- A thread calls `Shutdown`. -/
  | enterShutdown (t : ι) (notify : Bool) (ev : Event)
  /-- A thread calls `DoRecvEvent`. -/
  | enterRecv (t : ι)
  /-- The next step of a thread, with the outcome of `recv` and `errno` where it needs them. -/
  | advance (t : ι) (outcome : RecvResult) (errno : Errno)

namespace ConnThreads

variable {ι : Type} [DecidableEq ι]

/-! ### Steps -/

/-- A thread goes on to another place. -/
def goto (s : ConnThreads ι) (t : ι) (pc : ConnPc) : ConnThreads ι :=
  { s with pcs := Function.update s.pcs t pc }

/-- `OnRecv` returns `-1` and `OnRecvEvent` calls `Shutdown`. -/
def failRecv (s : ConnThreads ι) (t : ι) (errno : Errno) : ConnThreads ι :=
  { s.goto t (.isOnline true
      ⟨.socketError, some (makeStatusFromPosixError "Connection:OnRecv" errno)⟩) with
    rcvMutex := none }

/-- `OnRecv` returns `0` and `DoRecvEvent` arms the socket again. -/
def returnRecv (s : ConnThreads ι) (t : ι) : ConnThreads ι :=
  { s.goto t .idle with
    rcvMutex := none
    calls := s.calls ++
      [Poller.recv.modify s.endpoint.fd s.endpoint.connectionId (epollIn ||| epollEt)] }

/-- The descriptor in the endpoint is open. -/
def IsOpen (s : ConnThreads ι) : Prop := s.endpoint.isOnline = true ∧ s.endpoint.fd ∉ s.closed

instance (s : ConnThreads ι) : Decidable s.IsOpen := inferInstanceAs (Decidable (_ ∧ _))

/-- One `recv`; only an open descriptor yields something else than an error. -/
def recv (s : ConnThreads ι) (t : ι) (errno : Errno) : RecvResult → Option (ConnThreads ι)
  | .data chunk =>
      if s.IsOpen then
        (takeChunk s.connection.proto s.connection.rcvBuffer chunk).map fun (goOn, slices, rcv) =>
          { s.goto t (.push slices (if !goOn then .fail
              else if chunk.1.length = recvBufferSize then .again else .done)) with
            connection := { s.connection with rcvBuffer := rcv } }
      else none
  | .closed => if s.IsOpen then some (s.failRecv t errno) else none
  | .retry => if s.IsOpen then some (s.returnRecv t) else none
  | .error => some (s.failRecv t errno)

/-- The next step of a thread. -/
def advance (opt : ContainerOption) (s : ConnThreads ι) (t : ι) (outcome : RecvResult) (errno : Errno) :
    Option (ConnThreads ι) :=
  match s.pcs t with
  | .idle => none
  | .isOnline notify ev =>
      if s.endpoint.isOnline then
        some { s.goto t (.deleteRecv notify ev) with first := s.first.or (some (notify, ev)) }
      else some (s.goto t .idle)
  | .deleteRecv notify ev =>
      some { s.goto t (.deleteSend notify ev) with
        calls := s.calls ++ [Poller.recv.delete s.endpoint.fd (epollIn ||| epollEt)] }
  | .deleteSend notify ev =>
      some { s.goto t (.close notify ev) with
        calls := s.calls ++ [Poller.send.delete s.endpoint.fd (epollOut ||| epollEt)] }
  | .close notify ev =>
      some { s.goto t (.mark notify ev) with
        closed := s.closed ++ (setSocketShutdown s.endpoint.fd).toList }
  | .mark notify ev =>
      some { s.goto t (if notify then .onClosed ev else .clearRcv) with
        endpoint := { s.endpoint with fd := closedFd } }
  | .onClosed ev =>
      some { s.goto t .clearRcv with
        queue := s.queue ++ ContainerState.onClosed opt s.connection.endpoint ev }
  | .clearRcv =>
      if s.rcvMutex = none then
        some { s.goto t .clearSnd with connection := { s.connection with rcvBuffer := .empty } }
      else none
  | .clearSnd => some { s.goto t .idle with connection := { s.connection with sndBuffer := .empty } }
  | .lockRcv => if s.rcvMutex = none then some { s.goto t .recv with rcvMutex := some t } else none
  | .recv => s.recv t errno outcome
  | .push (slice :: rest) after =>
      some { s.goto t (.push rest after) with
        queue := s.queue ++ [.recvAMessage s.connection.endpoint slice] }
  | .push [] .fail => some (s.failRecv t errno)
  | .push [] .again => some (s.goto t .recv)
  | .push [] .done => some (s.returnRecv t)

/-- One step. -/
def exec (opt : ContainerOption) (s : ConnThreads ι) : ConnAction ι → Option (ConnThreads ι)
  | .attachImpl =>
      if s.attach = .impl then
        some { s with attach := .notify, calls := s.calls ++ initCalls s.endpoint }
      else none
  | .onNotify =>
      if s.attach = .notify then
        some { s with
          attach := .done
          queue := s.queue ++ (if opt.notifyHandler then [.endpointNotify s.connection.endpoint] else []) }
      else none
  -- a handler finds the connection once it is in its slot
  | .enterShutdown t notify ev =>
      match s.pcs t with
      | .idle => if s.attach ≠ .impl then some (s.goto t (.isOnline notify ev)) else none
      | _ => none
  | .enterRecv t =>
      match s.pcs t with
      | .idle => if s.attach ≠ .impl then some (s.goto t .lockRcv) else none
      | _ => none
  | .advance t outcome errno => s.advance opt t outcome errno

end ConnThreads

/-- A connection of endpoint `ep` that is about to be attached. -/
def connMachine (ι : Type) [DecidableEq ι] (opt : ContainerOption) (endpoint : EndpointImpl) (ep : Nat)
    (handleId : UInt32) : Machine (ConnThreads ι) (ConnAction ι) where
  init :=
    { endpoint := endpoint, connection := Connection.make ep handleId opt.protoHandler, attach := .impl,
      pcs := fun _ => .idle, rcvMutex := none, queue := [], calls := [], closed := [], first := none }
  step s a := s.exec opt a

/-! ### Messages and places -/

/-- The event of a close message. -/
def TcpMessage.closeEvent? : TcpMessage → Option Event
  | .closeEvent _ ev => some ev
  | _ => none

namespace ConnPc

/-- Between a test of `Shutdown` that found the endpoint online and the mark that takes it offline. -/
def closing : ConnPc → Bool
  | .deleteRecv .. | .deleteSend .. | .close .. | .mark .. => true
  | _ => false

/-- Between such a test and the end of `OnClosed`. -/
def inside (pc : ConnPc) : Bool :=
  match pc with
  | .onClosed _ => true
  | pc => pc.closing

/-- About to test `IsOnline` in `Shutdown`. -/
def tests : ConnPc → Bool
  | .isOnline .. => true
  | _ => false

/-- About to call `OnClosed`. -/
def reports : ConnPc → Bool
  | .onClosed _ => true
  | _ => false

/-- The packages that a thread has received and not passed on. -/
def inHand : ConnPc → List Slice
  | .push slices _ => slices
  | _ => []

end ConnPc

namespace ConnThreads

variable {ι : Type} [DecidableEq ι] {opt : ContainerOption} {s s' : ConnThreads ι}

/-! ### What a thread does next -/

/-- What the threads and the application see of the connection is the same in both states. -/
structure SamePublic (s s' : ConnThreads ι) : Prop where
  /-- The endpoint. -/
  endpoint : s'.endpoint = s.endpoint
  /-- The attaching thread. -/
  attach : s'.attach = s.attach
  /-- The messages. -/
  queue : s'.queue = s.queue
  /-- The descriptors closed. -/
  closed : s'.closed = s.closed
  /-- The first to find the endpoint online. -/
  first : s'.first = s.first

/-- What the next step of thread `t` can do. -/
inductive AdvanceStep (opt : ContainerOption) (s : ConnThreads ι) (t : ι) : ConnThreads ι → Prop
  /-- It goes to another place, without anything in hand there. -/
  | move {s' : ConnThreads ι} (pc : ConnPc) (hpc : (s.pcs t).inside = false) (hpc' : pc.inside = false)
      (hhand : pc.inHand = []) (hpcs : s'.pcs = Function.update s.pcs t pc) (hsame : SamePublic s s') :
      AdvanceStep opt s t s'
  /-- It finds the endpoint online. -/
  | enter (notify : Bool) (ev : Event) (hpc : s.pcs t = .isOnline notify ev)
      (hon : s.endpoint.isOnline = true) :
      AdvanceStep opt s t
        { s.goto t (.deleteRecv notify ev) with first := s.first.or (some (notify, ev)) }
  /-- It deletes the socket from the receive poller. -/
  | deleteRecv {s' : ConnThreads ι} (notify : Bool) (ev : Event) (hpc : s.pcs t = .deleteRecv notify ev)
      (hpcs : s'.pcs = Function.update s.pcs t (.deleteSend notify ev)) (hsame : SamePublic s s') :
      AdvanceStep opt s t s'
  /-- It deletes the socket from the send poller. -/
  | deleteSend {s' : ConnThreads ι} (notify : Bool) (ev : Event) (hpc : s.pcs t = .deleteSend notify ev)
      (hpcs : s'.pcs = Function.update s.pcs t (.close notify ev)) (hsame : SamePublic s s') :
      AdvanceStep opt s t s'
  /-- It closes the descriptor. -/
  | close (notify : Bool) (ev : Event) (hpc : s.pcs t = .close notify ev) :
      AdvanceStep opt s t { s.goto t (.mark notify ev) with
        closed := s.closed ++ (setSocketShutdown s.endpoint.fd).toList }
  /-- It marks the endpoint. -/
  | mark (notify : Bool) (ev : Event) (hpc : s.pcs t = .mark notify ev) :
      AdvanceStep opt s t { s.goto t (if notify then .onClosed ev else .clearRcv) with
        endpoint := { s.endpoint with fd := closedFd } }
  /-- It calls `OnClosed`. -/
  | onClosed (ev : Event) (hpc : s.pcs t = .onClosed ev) :
      AdvanceStep opt s t { s.goto t .clearRcv with
        queue := s.queue ++ ContainerState.onClosed opt s.connection.endpoint ev }
  /-- It receives something. -/
  | receive (slices : List Slice) (after : AfterPush) (rcv : SliceBuffer) (hpc : s.pcs t = .recv)
      (hopen : s.IsOpen) :
      AdvanceStep opt s t { s.goto t (.push slices after) with
        connection := { s.connection with rcvBuffer := rcv } }
  /-- It passes a package on. -/
  | push (slice : Slice) (rest : List Slice) (after : AfterPush) (hpc : s.pcs t = .push (slice :: rest) after) :
      AdvanceStep opt s t { s.goto t (.push rest after) with
        queue := s.queue ++ [.recvAMessage s.connection.endpoint slice] }

/-- What `recv` does at a thread is an advance of that thread. -/
theorem advanceStep_recv {t : ι} {outcome : RecvResult} {errno : Errno} (hpc : s.pcs t = .recv)
    (h : s.recv t errno outcome = some s') : AdvanceStep opt s t s' := by
  have hout : (s.pcs t).inside = false := by rw [hpc]; rfl
  cases outcome with
  | data chunk =>
      rw [recv, Option.ite_none_right_eq_some] at h
      obtain ⟨⟨goOn, slices, rcv⟩, -, rfl⟩ := Option.map_eq_some_iff.mp h.2
      exact .receive slices _ rcv hpc h.1
  | closed =>
      rw [recv, Option.ite_none_right_eq_some] at h
      cases h.2
      exact .move _ hout rfl rfl rfl ⟨rfl, rfl, rfl, rfl, rfl⟩
  | retry =>
      rw [recv, Option.ite_none_right_eq_some] at h
      cases h.2
      exact .move _ hout rfl rfl rfl ⟨rfl, rfl, rfl, rfl, rfl⟩
  | error =>
      cases h
      exact .move _ hout rfl rfl rfl ⟨rfl, rfl, rfl, rfl, rfl⟩

/-- These are all the steps there are. -/
theorem advanceStep_of_advance {t : ι} {outcome : RecvResult} {errno : Errno}
    (h : s.advance opt t outcome errno = some s') : AdvanceStep opt s t s' := by
  unfold advance at h
  cases hpc : s.pcs t with
  | idle =>
      rw [hpc] at h
      cases h
  | isOnline notify ev =>
      simp only [hpc] at h
      split at h
      · next hon =>
        cases h
        exact .enter notify ev hpc hon
      · cases h
        exact .move _ (by rw [hpc]; rfl) rfl rfl rfl ⟨rfl, rfl, rfl, rfl, rfl⟩
  | deleteRecv notify ev =>
      simp only [hpc] at h
      cases h
      exact .deleteRecv notify ev hpc rfl ⟨rfl, rfl, rfl, rfl, rfl⟩
  | deleteSend notify ev =>
      simp only [hpc] at h
      cases h
      exact .deleteSend notify ev hpc rfl ⟨rfl, rfl, rfl, rfl, rfl⟩
  | close notify ev =>
      simp only [hpc] at h
      cases h
      exact .close notify ev hpc
  | mark notify ev =>
      simp only [hpc] at h
      cases h
      exact .mark notify ev hpc
  | onClosed ev =>
      simp only [hpc] at h
      cases h
      exact .onClosed ev hpc
  | clearRcv =>
      simp only [hpc, Option.ite_none_right_eq_some] at h
      cases h.2
      exact .move _ (by rw [hpc]; rfl) rfl rfl rfl ⟨rfl, rfl, rfl, rfl, rfl⟩
  | clearSnd =>
      simp only [hpc] at h
      cases h
      exact .move _ (by rw [hpc]; rfl) rfl rfl rfl ⟨rfl, rfl, rfl, rfl, rfl⟩
  | lockRcv =>
      simp only [hpc, Option.ite_none_right_eq_some] at h
      cases h.2
      exact .move _ (by rw [hpc]; rfl) rfl rfl rfl ⟨rfl, rfl, rfl, rfl, rfl⟩
  | recv =>
      simp only [hpc] at h
      exact advanceStep_recv hpc h
  | push slices after =>
      have hout : (s.pcs t).inside = false := by rw [hpc]; rfl
      simp only [hpc] at h
      cases slices with
      | cons slice rest =>
          cases h
          exact .push slice rest after hpc
      | nil =>
          -- all packages are passed on, so the thread leaves with empty hands
          cases after with
          | fail =>
              cases h
              exact .move _ hout rfl rfl rfl ⟨rfl, rfl, rfl, rfl, rfl⟩
          | again =>
              cases h
              exact .move _ hout rfl rfl rfl ⟨rfl, rfl, rfl, rfl, rfl⟩
          | done =>
              cases h
              exact .move _ hout rfl rfl rfl ⟨rfl, rfl, rfl, rfl, rfl⟩

end ConnThreads

end RaptorLite
