import RaptorLite.Foundations.Machine
import RaptorLite.Utils.ListEntry

/-! # The accept lists of a listener

`TcpListener` (`windows/tcp_listener.cc`) keeps an intrusive list of `AcceptObject`s for every port. The heads of
the lists are stored by value in the vector `_heads`, which moves its elements to another buffer when it grows,
and `Shutdown` drains a copy of each head that it makes in a local variable. A list head that is copied leaves
its entries pointing to where it was: the list becomes a strand.

`list_entry` links are addresses. An access to memory that was given back, a null pointer, and a `delete` of
something that is no `AcceptObject` have no result. How a vector grows is left to the library, so the new
capacity is a parameter. `born` and `objects` are not part of the program: they are the history that the results
are about. The sockets of the `AcceptObject`s are left out. -/

namespace RaptorLite.Windows

/-! ### State -/

/-- The places of the `list_entry` objects. -/
inductive EntryAddr where
  /-- The head of `_heads[index]`, in one of the buffers that the vector has had. -/
  | head (buffer index : Nat)
  /-- The entry of an `AcceptObject`. -/
  | object (id : Nat)
  /-- The head of the local variable `info` in `Shutdown`. -/
  | info
  deriving DecidableEq, Repr

/-- `ListenInforEx`, without the head of its list. -/
structure ListenPort where
  /-- `listen_fd`. -/
  listenFd : UInt64
  /-- The buffer in which the head was initialised. -/
  born : Nat
  /-- The `AcceptObject`s that were pushed and not removed. -/
  objects : List Nat

/-- `TcpListener`. -/
structure TcpListener where
  /-- `_shutdown`. -/
  isShutdown : Bool
  /-- The memory of the lists. -/
  cells : Cells EntryAddr
  /-- The buffer of `_heads`. -/
  buffer : Nat
  /-- `_heads.capacity()`. -/
  capacity : Nat
  /-- `_heads`. -/
  heads : List ListenPort
  /-- The next `AcceptObject`. -/
  nextObject : Nat
  /-- The `AcceptObject`s deleted so far, in order. -/
  deleted : List Nat
  /-- The listening sockets closed so far, in order. -/
  closed : List UInt64

/-- What `AddListeningPort` meets. -/
inductive ListenCall where
  /-- The socket cannot be made or prepared. -/
  | unprepared
  /-- The socket, and which calls of `StartAcceptEx` succeed. -/
  | prepared (listenFd : UInt64) (starts : Nat → Bool)

/-- Whether a port is added. -/
def ListenCall.adds : ListenCall → Bool
  | .unprepared => false
  | .prepared _ _ => true

namespace TcpListener

/-! ### Operations -/

/-- The elements of `_heads` move to a larger buffer. -/
def relocate (grow : Nat → Nat) (s : TcpListener) : TcpListener :=
  { s with
    cells := fun a =>
      match a with
      | .head buffer index =>
          if buffer = s.buffer then none
          else if buffer = s.buffer + 1 ∧ index < s.heads.length then s.cells (.head s.buffer index)
          else s.cells a
      | a => s.cells a
    buffer := s.buffer + 1
    capacity := grow s.capacity }

/-- `_heads.emplace_back(tmp)`, where `tmp` is not initialised. -/
def emplaceBack (grow : Nat → Nat) (s : TcpListener) (listenFd : UInt64) : TcpListener :=
  let s := if s.heads.length = s.capacity then s.relocate grow else s
  { s with
    cells := s.cells.alloc (.head s.buffer s.heads.length)
    heads := s.heads ++ [⟨listenFd, s.buffer, []⟩] }

/-- The loop of `AddListeningPort` from its round `i` on, with this many to go. -/
def startAccepts (index : Nat) (starts : Nat → Bool) : Nat → Nat → TcpListener → Option TcpListener
  | _, 0, s => some s
  | i, n + 1, s =>
      let node := s.nextObject
      ((s.cells.alloc (.object node)).listPushBack (.head s.buffer index) (.object node)).bind fun cells =>
        if starts i then
          startAccepts index starts (i + 1) n
            { s with
              cells
              nextObject := node + 1
              heads := s.heads.modify index fun p => { p with objects := p.objects ++ [node] } }
        else
          (cells.listRemoveEntry (.object node)).map fun cells =>
            { s with
              cells := cells.free (.object node)
              nextObject := node + 1
              deleted := s.deleted ++ [node] }

/-- `TcpListener::AddListeningPort`. -/
def addListeningPort (grow : Nat → Nat) (threads : Nat) (s : TcpListener) : ListenCall → Option TcpListener
  | .unprepared => some s
  | .prepared listenFd starts =>
      if s.isShutdown then some s
      else
        let index := s.heads.length
        let s := s.emplaceBack grow listenFd
        let s := { s with cells := s.cells.listInit (.head s.buffer index) }
        s.startAccepts index starts 0 (threads + 1)

/-- The inner loop of `Shutdown`: pop and delete until the list is empty. -/
def drain : Nat → Cells EntryAddr → List Nat → Option (Cells EntryAddr × List Nat)
  | 0, _, _ => none
  | fuel + 1, m, deleted =>
      (m.listPopBack .info).bind fun
        | (none, m) => some (m, deleted)
        | (some (.object id), m) =>
            if (m (.object id)).isSome then drain fuel (m.free (.object id)) (deleted ++ [id]) else none
        | (some _, _) => none

/-- The outer loop of `Shutdown` from port `i` on. -/
def drainPorts (fuel buffer : Nat) :
    Nat → List ListenPort → Cells EntryAddr → List Nat → Option (Cells EntryAddr × List Nat)
  | _, [], m, deleted => some (m, deleted)
  | i, _ :: rest, m, deleted =>
      (m (.head buffer i)).bind fun link =>
        (drain fuel (m.put .info link) deleted).bind fun r =>
          drainPorts fuel buffer (i + 1) rest (r.1.free .info) r.2

/-- `TcpListener::Shutdown`, with this much fuel for each list. -/
def shutdown (fuel : Nat) (s : TcpListener) : Option TcpListener :=
  if s.isShutdown then some s
  else
    (drainPorts fuel s.buffer 0 s.heads s.cells s.deleted).map fun r =>
      { s with
        isShutdown := true
        cells := r.1
        heads := []
        deleted := r.2
        closed := s.closed ++ s.heads.map ListenPort.listenFd }

end TcpListener

/-- The listener behind `Init`, under calls of `AddListeningPort`. -/
def listenerMachine (grow : Nat → Nat) (threads : Nat) : Machine TcpListener ListenCall where
  init := ⟨false, fun _ => none, 0, 0, [], 0, [], []⟩
  step s call := s.addListeningPort grow threads call

end RaptorLite.Windows
