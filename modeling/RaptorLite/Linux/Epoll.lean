import Mathlib.Data.Nat.Bitwise

/-! # Epoll events

The event masks of `epoll`, the calls that register interest in a socket (`PollingThread::Add`,
`Modify` and `Delete` in `linux/epoll_thread.cc`), and the way `PollingThread::DoWork` turns an
`epoll_event` into the `EventDetail` that the receiver is given. -/

namespace RaptorLite

/-! ### Masks -/

/-- `EPOLLIN`. -/
def epollIn : UInt32 := 0x001
/-- `EPOLLOUT`. -/
def epollOut : UInt32 := 0x004
/-- `EPOLLERR`. -/
def epollErr : UInt32 := 0x008
/-- `EPOLLHUP`. -/
def epollHup : UInt32 := 0x010
/-- `EPOLLRDHUP`. -/
def epollRdhup : UInt32 := 0x2000
/-- `EPOLLET`. -/
def epollEt : UInt32 := 0x80000000

/-- `internal::kErrorEvent`. -/
def kErrorEvent : UInt32 := 1
/-- `internal::kSendEvent`. -/
def kSendEvent : UInt32 := (1 : UInt32) <<< 1
/-- `internal::kRecvEvent`. -/
def kRecvEvent : UInt32 := (1 : UInt32) <<< 2

/-- `mask & bit` as a condition. -/
def hasBit (mask bit : UInt32) : Bool := mask &&& bit != 0

/-! ### Interest -/

/-- The two pollers of a container. -/
inductive Poller where
  /-- `_poll_thread`, the `_recv_thread` of every connection. -/
  | recv
  /-- `_back_thread`, the `_send_thread` of every connection. -/
  | send
  deriving DecidableEq, Repr

/-- What a call asks of `epoll_ctl`. -/
inductive PollOp where
  /-- `EPOLL_CTL_ADD`. -/
  | add
  /-- `EPOLL_CTL_MOD`. -/
  | modify
  /-- `EPOLL_CTL_DEL`. -/
  | delete
  deriving DecidableEq, Repr

/-- One call of `PollingThread::Add`, `Modify` or `Delete`. -/
structure PollCall where
  /-- The poller it is made on. -/
  poller : Poller
  /-- The operation. -/
  op : PollOp
  /-- The socket. -/
  fd : UInt64
  /-- `ev.data.ptr`. -/
  data : UInt64
  /-- `ev.events`. -/
  events : UInt32
  deriving DecidableEq, Repr

/-- `PollingThread::Add`; like the other two it always asks for hang-ups. -/
def Poller.add (p : Poller) (fd data : UInt64) (events : UInt32) : PollCall :=
  ⟨p, .add, fd, data, events ||| epollRdhup⟩

/-- `PollingThread::Modify`. -/
def Poller.modify (p : Poller) (fd data : UInt64) (events : UInt32) : PollCall :=
  ⟨p, .modify, fd, data, events ||| epollRdhup⟩

/-- `PollingThread::Delete`. -/
def Poller.delete (p : Poller) (fd : UInt64) (events : UInt32) : PollCall :=
  ⟨p, .delete, fd, 0, events ||| epollRdhup⟩

/-! ### Events -/

/-- `struct epoll_event`. -/
structure EpollEvent where
  /-- The reported mask. -/
  events : UInt32
  /-- `data.ptr`: the connection id given on registration. -/
  data : UInt64
  deriving DecidableEq, Repr

/-- `EventDetail`. -/
structure EventDetail where
  /-- The connection id. -/
  ptr : UInt64
  /-- A combination of `kErrorEvent`, `kRecvEvent` and `kSendEvent`. -/
  eventType : UInt32
  /-- `errno` for an error event. -/
  errorCode : Int32
  deriving DecidableEq, Repr

/-- The condition under which `DoWork` reports an event as an error. -/
def EpollEvent.isHangup (ev : EpollEvent) : Bool :=
  hasBit ev.events epollErr || hasBit ev.events epollHup || hasBit ev.events epollRdhup

/-- The `event_type` that `DoWork` computes from the three questions it asks of a mask. -/
def eventTypeOf (hangup readable writable : Bool) : UInt32 :=
  if hangup then 0 ||| kErrorEvent
  else
    let t : UInt32 := 0
    let t := if readable then t ||| kRecvEvent else t
    if writable then t ||| kSendEvent else t

/-- The body of the loop in `PollingThread::DoWork`: the detail passed to `OnEventProcess`. -/
def EpollEvent.detail (ev : EpollEvent) (errno : Int32) : EventDetail where
  ptr := ev.data
  eventType := eventTypeOf ev.isHangup (hasBit ev.events epollIn) (hasBit ev.events epollOut)
  errorCode := if ev.isHangup then errno else 0

/-- An event becomes an error event exactly when it reports a hang-up or an error, whatever else its
mask reports. -/
theorem hasBit_eventTypeOf_error (hangup readable writable : Bool) :
    hasBit (eventTypeOf hangup readable writable) kErrorEvent = hangup := by
  revert hangup readable writable
  decide

end RaptorLite
