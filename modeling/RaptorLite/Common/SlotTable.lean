import Mathlib.Algebra.Group.Nat.Defs
import Mathlib.Data.Int.Order.Basic
import RaptorLite.Foundations.Machine
import RaptorLite.Foundations.OrderedMultimap
import RaptorLite.Linux.ParsingProtocol

/-! # The slot table of a container

The part of `ContainerImpl` (`common/container_impl.cc`) that is guarded by `_conn_mtx`: the vector
`_mgr` of slots, the list `_free_index_list` of unused indices and the multimap `_timeout_records` of
deadlines, into which every used slot keeps an iterator. The connection stored in a slot is a
parameter `κ`, so the table can be used with connection objects or with references to them.

Undefined behaviour of the source (`front()` of an empty list, an index past the end of the vector, an
erase through an iterator that designates nothing, a call through a null pointer) is a `Fault`. -/

namespace RaptorLite

/-- `ContainerImpl::Option`: the values the modelled functions read. -/
structure ContainerOption where
  /-- `default_container_size`. -/
  defaultContainerSize : Nat := 256
  /-- `max_container_size`. -/
  maxContainerSize : Nat := 1048576
  /-- `connection_timeoutms`. -/
  connectionTimeoutms : Nat := 60000
  /-- `proto_handler`, when set. -/
  protoHandler : Option ProtocolHandler := none
  /-- `heartbeat_handler->GetHeartbeatInterval()`, when the handler is set. -/
  heartbeatInterval : Option Nat := none
  /-- Whether `closed_handler` is set. -/
  closedHandler : Bool := false
  /-- Whether `notify_handler` is set. -/
  notifyHandler : Bool := false

/-- `static_cast<uint32_t>` of an index. -/
def castIndex (i : Nat) : Nat := i % 2 ^ 32

/-- `GetCurrentMilliseconds() + _option.connection_timeoutms`: the sum is taken in `uint64_t` and
stored in an `int64_t`. -/
def deadlineLine (opt : ContainerOption) (now : Int) : Int :=
  Int.bmod (now + opt.connectionTimeoutms) (2 ^ 64)

/-- The ways a locked section can leave the defined behaviour of the language. -/
inductive Fault where
  /-- `_free_index_list.front()` on an empty list. -/
  | emptyFreeList
  /-- `_mgr[i]` with `i` past the end. -/
  | outOfRange
  /-- `_timeout_records.erase(it)` or `*it` where `it` designates no entry. -/
  | invalidIterator
  /-- A member call through a null connection pointer. -/
  | nullConnection
  deriving DecidableEq, Repr

variable {κ : Type}

/-- `_mgr`, `_timeout_records` and `_free_index_list`. -/
structure SlotTable (κ : Type) where
  /-- The slots: the connection, if any, and the iterator of its timeout record. -/
  mgr : List (Option κ × MapIter)
  /-- Deadlines, each mapped to the index of the slot it belongs to. -/
  timeoutRecords : OrderedMultimap Int Nat
  /-- The indices of the unused slots, in the order in which they will be used. -/
  freeIndexList : List Nat

namespace SlotTable

/-- `_mgr[i].first`. -/
def connection (t : SlotTable κ) (i : Nat) : Option κ := (t.mgr[i]?).bind Prod.fst

/-- Slot `i` exists and holds a connection. -/
def Live (t : SlotTable κ) (i : Nat) : Prop := t.connection i ≠ none

/-- The table built by `ContainerImpl::Init`. -/
def init (opt : ContainerOption) : SlotTable κ where
  mgr := List.replicate opt.defaultContainerSize (none, .singular)
  timeoutRecords := .empty
  freeIndexList := (List.range opt.defaultContainerSize).map castIndex

/-- The size the table grows to when no index is free. -/
def expandSize (opt : ContainerOption) (count : Nat) : Nat :=
  if count * 2 < opt.maxContainerSize then count * 2 else opt.maxContainerSize

/-- The growth step of `AttachEndpointImpl`: the new slots are empty and their indices free. -/
def expand (opt : ContainerOption) (t : SlotTable κ) : SlotTable κ :=
  let count := t.mgr.length
  let size := expandSize opt count
  { t with
    mgr := t.mgr.take size ++ List.replicate (size - count) (none, .pastEnd)
    freeIndexList := t.freeIndexList ++ (List.range' count (size - count)).map castIndex }

/-- The table part of `AttachEndpointImpl`: the index taken (`none` when the limit is reached) and the
new table. -/
def attach (opt : ContainerOption) (t : SlotTable κ) (con : κ) (deadline : Int) :
    Except Fault (Option Nat × SlotTable κ) :=
  if t.freeIndexList = [] ∧ opt.maxContainerSize ≤ t.mgr.length then .ok (none, t)
  else
    let t := if t.freeIndexList = [] then t.expand opt else t
    match t.freeIndexList with
    | [] => .error .emptyFreeList
    | index :: rest =>
        if index < t.mgr.length then
          .ok (some index,
            { mgr := t.mgr.set index (some con, t.timeoutRecords.insertIter)
              timeoutRecords := t.timeoutRecords.insert deadline index
              freeIndexList := rest })
        else .error .outOfRange

/-- The index that an attach takes: the front of the free list, after the growth step if it is empty. -/
def nextIndex (opt : ContainerOption) (t : SlotTable κ) : Option Nat :=
  (if t.freeIndexList = [] then t.expand opt else t).freeIndexList.head?

/-- What `DeleteConnection` and the timeout sweep share: empty the slot, erase its record and hand its
index back. -/
def releaseSlot (t : SlotTable κ) (index : Nat) : Except Fault (SlotTable κ) :=
  match t.mgr[index]? with
  | none => .error .outOfRange
  | some (_, it) =>
      match t.timeoutRecords.erase it with
      | none => .error .invalidIterator
      | some records =>
          .ok { mgr := t.mgr.set index (none, .pastEnd)
                timeoutRecords := records
                freeIndexList := t.freeIndexList ++ [index] }

/-- `ContainerImpl::DeleteConnection`. -/
def deleteConnection (t : SlotTable κ) (index : Nat) : Except Fault (SlotTable κ) :=
  match t.mgr[index]? with
  | none => .error .outOfRange
  | some (none, _) => .ok t
  | some (some _, _) => t.releaseSlot index

/-- `ContainerImpl::RefreshTime`. -/
def refreshTime (t : SlotTable κ) (index : Nat) (deadline : Int) : Except Fault (SlotTable κ) :=
  match t.mgr[index]? with
  | none => .error .outOfRange
  | some (none, _) => .ok t
  | some (some con, it) =>
      match t.timeoutRecords.erase it with
      | none => .error .invalidIterator
      | some records =>
          .ok { t with
                mgr := t.mgr.set index (some con, records.insertIter)
                timeoutRecords := records.insert deadline index }

/-- `ContainerImpl::GetConnection`. -/
def getConnection (t : SlotTable κ) (index : Nat) : Except Fault (Option κ) :=
  match t.mgr[index]? with
  | none => .error .outOfRange
  | some (con, _) => .ok con

/-- The body of the sweep for one expired record: the connection that is shut down, and the table
without it. -/
def expireSlot (t : SlotTable κ) (index : Nat) : Except Fault (SlotTable κ × κ) :=
  match t.mgr[index]? with
  | none => .error .outOfRange
  | some (none, _) => .error .nullConnection
  | some (some con, _) => (t.releaseSlot index).map fun t' => (t', con)

/-- Releasing a slot removes one timeout record. -/
theorem length_releaseSlot_lt {t t' : SlotTable κ} {index : Nat}
    (h : t.releaseSlot index = .ok t') :
    t'.timeoutRecords.entries.length < t.timeoutRecords.entries.length := by
  unfold releaseSlot at h
  split at h
  · cases h
  · split at h
    · cases h
    · next herase =>
      cases h
      exact OrderedMultimap.length_erase_lt herase

/-- Expiring a slot takes one deadline out of the records. -/
theorem length_expireSlot_lt {t t' : SlotTable κ} {index : Nat} {con : κ}
    (h : t.expireSlot index = .ok (t', con)) :
    t'.timeoutRecords.entries.length < t.timeoutRecords.entries.length := by
  unfold expireSlot at h
  split at h
  · cases h
  · cases h
  · cases hr : t.releaseSlot index with
    | error f => rw [hr] at h; cases h
    | ok t₁ =>
        rw [hr] at h
        cases h
        exact length_releaseSlot_lt hr

/-- The loop of `OnTimeoutCheck` from the iterator `it` on: the table behind it and the connections it
shut down, in order. -/
def sweep (now : Int) (t : SlotTable κ) (it : MapIter) : Except Fault (SlotTable κ × List κ) :=
  if it = .pastEnd then .ok (t, [])
  else
    match t.timeoutRecords.deref it with
    | none => .error .invalidIterator
    | some e =>
        if now < e.key then .ok (t, [])
        else
          match _h : t.expireSlot e.val with
          | .error f => .error f
          | .ok (t', con) =>
              -- `++it` is taken before the record is erased
              (sweep now t' (OrderedMultimap.nextIter e.id t.timeoutRecords.entries)).map
                fun r => (r.1, con :: r.2)
termination_by t.timeoutRecords.entries.length
decreasing_by exact length_expireSlot_lt _h

/-- The locked part of `OnTimeoutCheck`. -/
def timeoutSweep (now : Int) (t : SlotTable κ) : Except Fault (SlotTable κ × List κ) :=
  t.sweep now t.timeoutRecords.begin

end SlotTable

/-! ### The machine of the locked sections -/

/-- The table together with `_last_check_time`. -/
structure SlotState (κ : Type) where
  /-- The slot table. -/
  table : SlotTable κ
  /-- `_last_check_time`. -/
  lastCheckTime : Int

/-- The sections that run under `_conn_mtx`, each with the clock reading it uses. -/
inductive SlotAction (κ : Type) where
  /-- `AttachEndpointImpl`, storing the connection `con`. -/
  | attach (con : κ) (now : Int)
  /-- `DeleteConnection(index)`. -/
  | deleteConnection (index : Nat)
  /-- `RefreshTime(index)`. -/
  | refreshTime (index : Nat) (now : Int)
  /-- `OnTimeoutCheck(now)`. -/
  | onTimeoutCheck (now : Int)

/-- Run one locked section. -/
def SlotState.exec (opt : ContainerOption) (s : SlotState κ) :
    SlotAction κ → Except Fault (SlotState κ)
  | .attach con now =>
      (s.table.attach opt con (deadlineLine opt now)).map fun r => { s with table := r.2 }
  | .deleteConnection index => (s.table.deleteConnection index).map fun t => { s with table := t }
  | .refreshTime index now =>
      (s.table.refreshTime index (deadlineLine opt now)).map fun t => { s with table := t }
  | .onTimeoutCheck now =>
      -- at least 3 s between two checks
      if now - s.lastCheckTime < 3000 then .ok s
      else (s.table.timeoutSweep now).map fun r => { table := r.1, lastCheckTime := now }

/-- The calls that the container makes: `DeleteConnection` and `RefreshTime` on existing slots. -/
def SlotAction.InRange (s : SlotState κ) : SlotAction κ → Prop
  | .deleteConnection index => index < s.table.mgr.length
  | .refreshTime index _ => index < s.table.mgr.length
  | _ => True

/-- The locked sections as a machine that starts from `Init` at clock reading `start`; a section that
faults is a stuck step. -/
def slotMachine (opt : ContainerOption) (start : Int) : Machine (SlotState κ) (SlotAction κ) where
  init := { table := .init opt, lastCheckTime := start }
  step s a := (s.exec opt a).toOption

end RaptorLite
