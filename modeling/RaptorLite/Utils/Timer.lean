import Mathlib.Algebra.Group.Int.Defs
import Mathlib.Algebra.Group.Nat.Defs
import Mathlib.Data.Int.Order.Basic
import RaptorLite.Foundations.Machine
import RaptorLite.Foundations.OrderedMultimap

/-! # Timers

The `Timer` of `utils/timer.cc`: any thread sets a timer by pushing a node on a lock-free queue, and one
worker thread moves the nodes into a table ordered by deadline and fires what is due, at most three
timers in an iteration. The worker is a place with its local variables; a step is one access to what is
shared, so that calls of `SetTimer`, also from inside `OnTimer`, fall between any two of them.

The queue is taken at the grain of its pushes and pops: a `pop` returns the oldest node, or nothing while
the queue is empty or a push is under way. A clock reading is an argument of the step that makes it. -/

namespace RaptorLite

/-! ### Packing two ids into one -/

/-- `uint64_t(tid1) << 32 | tid2`. -/
def packTid (tid1 tid2 : UInt32) : UInt64 := (tid1.toUInt64 <<< 32) ||| tid2.toUInt64

/-- `static_cast<uint32_t>(tid >> 32)`. -/
def tidHigh (tid : UInt64) : UInt32 := (tid >>> 32).toUInt32

/-- `static_cast<uint32_t>(tid & 0xffffffff)`. -/
def tidLow (tid : UInt64) : UInt32 := (tid &&& 0xffffffff).toUInt32

/-- The first id is in the high half, the second in the low half. -/
theorem toNat_packTid (tid1 tid2 : UInt32) :
    (packTid tid1 tid2).toNat = tid1.toNat * 2 ^ 32 + tid2.toNat := by
  have h1 : tid1.toNat < 2 ^ 32 := tid1.toNat_lt
  have h2 : tid2.toNat < 2 ^ 32 := tid2.toNat_lt
  rw [packTid, UInt64.toNat_or, UInt64.toNat_shiftLeft, UInt32.toNat_toUInt64, UInt32.toNat_toUInt64]
  show tid1.toNat <<< 32 % 2 ^ 64 ||| tid2.toNat = _
  -- the two halves do not overlap, so the bitwise or is a sum
  rw [Nat.mod_eq_of_lt (by rw [Nat.shiftLeft_eq]; omega), ← Nat.shiftLeft_add_eq_or_of_lt h2,
    Nat.shiftLeft_eq]

/-- The first id comes back. -/
@[simp] theorem tidHigh_packTid (tid1 tid2 : UInt32) : tidHigh (packTid tid1 tid2) = tid1 := by
  have h1 : tid1.toNat < 2 ^ 32 := tid1.toNat_lt
  have h2 : tid2.toNat < 2 ^ 32 := tid2.toNat_lt
  apply UInt32.toNat_inj.mp
  rw [tidHigh, UInt64.toNat_toUInt32, UInt64.toNat_shiftRight, toNat_packTid]
  show (tid1.toNat * 2 ^ 32 + tid2.toNat) >>> 32 % 2 ^ 32 = _
  rw [Nat.shiftRight_eq_div_pow]
  omega

/-- The second id comes back. -/
@[simp] theorem tidLow_packTid (tid1 tid2 : UInt32) : tidLow (packTid tid1 tid2) = tid2 := by
  have h2 : tid2.toNat < 2 ^ 32 := tid2.toNat_lt
  apply UInt32.toNat_inj.mp
  rw [tidLow, UInt64.toNat_toUInt32, UInt64.toNat_and, toNat_packTid]
  show ((tid1.toNat * 2 ^ 32 + tid2.toNat) &&& (2 ^ 32 - 1)) % 2 ^ 32 = _
  rw [Nat.and_two_pow_sub_one_eq_mod]
  omega

/-! ### The timer -/

/-- A timer as the caller sees it: when it is due and what `OnTimer` is called with. -/
structure TimerRecord where
  /-- The deadline in milliseconds. -/
  deadline : Int
  /-- The first argument of `OnTimer`. -/
  tid1 : UInt32
  /-- The second argument of `OnTimer`. -/
  tid2 : UInt32
  deriving DecidableEq, Repr

/-- `TimerNode`, less its queue link. -/
structure TimerNode where
  /-- `tid`. -/
  tid : UInt64
  /-- `dead_line`. -/
  deadLine : Int
  deriving DecidableEq, Repr

/-- The timer a queued node stands for. -/
def TimerNode.record (n : TimerNode) : TimerRecord := ⟨n.deadLine, tidHigh n.tid, tidLow n.tid⟩

/-- The timer an entry of the table stands for. -/
def TimerRecord.ofEntry (e : MapEntry Int UInt64) : TimerRecord := ⟨e.key, tidHigh e.val, tidLow e.val⟩

/-- The members of `Timer`. -/
structure Timer where
  /-- `_shutdown`. -/
  shutdown : Bool
  /-- `_tbls`. -/
  tbls : OrderedMultimap Int UInt64
  /-- `_mq`, oldest node first. -/
  mq : List TimerNode

/-- `Timer::SetTimer`, with its clock reading. -/
def Timer.setTimer (t : Timer) (tid1 tid2 delayMs : UInt32) (now : Int) : Timer :=
  if t.shutdown then t
  else { t with mq := t.mq ++ [{ tid := packTid tid1 tid2, deadLine := now + delayMs.toNat }] }

/-- Setting a timer leaves the table to the worker. -/
@[simp] theorem Timer.setTimer_tbls (t : Timer) (tid1 tid2 delayMs : UInt32) (now : Int) :
    (t.setTimer tid1 tid2 delayMs now).tbls = t.tbls := by
  rw [Timer.setTimer]
  split <;> rfl

/-- Setting a timer does not shut it down. -/
@[simp] theorem Timer.setTimer_shutdown (t : Timer) (tid1 tid2 delayMs : UInt32) (now : Int) :
    (t.setTimer tid1 tid2 delayMs now).shutdown = t.shutdown := by
  rw [Timer.setTimer]
  split <;> rfl

/-- The most timers that one iteration fires. -/
def timerBatch : Nat := 3

/-- The time in milliseconds behind which an iteration fires no further timer, and the longest sleep. -/
def timerSliceMs : Int := 300

/-- The sleep at the end of an iteration, in milliseconds: the elapsed time goes through an `int`. -/
def Timer.sleepMs (begin current : Int) (count : Nat) : Option Int :=
  if count < timerBatch then
    let interval := (current - begin).bmod (2 ^ 32)
    if interval < timerSliceMs then some (timerSliceMs - interval) else none
  else none

/-! ### The worker thread -/

/-- Where `WorkThread` is, with the local variables that are still needed. -/
inductive TimerPc where
  /-- At the test of `_shutdown`. -/
  | loop
  /-- About to call `_mq.pop()`. -/
  | pop
  /-- About to read `begin_millseconds`. -/
  | readBegin
  /-- At the head of the inner loop. -/
  | scan (begin current : Int) (count : Nat) (it : MapIter)
  /-- Inside `_handler->OnTimer(tid1, tid2)`. -/
  | callback (begin : Int) (count : Nat) (it : MapIter) (tid1 tid2 : UInt32)
  /-- Behind the inner loop. -/
  | pace (begin current : Int) (count : Nat)
  /-- Returned. -/
  | returned
  deriving DecidableEq, Repr

/-- One iteration of the worker: its begin time, the table it scans and what it fired from it. -/
structure TimerRound where
  /-- `begin_millseconds`. -/
  begin : Int
  /-- The timers of the table when the scan starts, in table order. -/
  table : List TimerRecord
  /-- The timers fired, in order. -/
  fired : List TimerRecord
  deriving DecidableEq, Repr

/-- The timer, its worker and the history. -/
structure TimerState where
  /-- The members. -/
  timer : Timer
  /-- The worker. -/
  pc : TimerPc
  /-- The timers set, in order. -/
  set : List TimerRecord
  /-- The iterations before the current one. -/
  past : List TimerRound
  /-- The current iteration, or the last one while no scan has started. -/
  current : TimerRound
  /-- The timers that `Shutdown` deleted from the queue. -/
  dropped : List TimerRecord
  /-- The sleeps of the worker. -/
  slept : List Int

namespace TimerState

/-- The timers in `_mq`. -/
def queued (s : TimerState) : List TimerRecord := s.timer.mq.map TimerNode.record

/-- The timers in `_tbls`, in table order. -/
def tabled (s : TimerState) : List TimerRecord := s.timer.tbls.entries.map TimerRecord.ofEntry

/-- All iterations with a scan, the latest last. -/
def rounds (s : TimerState) : List TimerRound := s.past ++ [s.current]

/-- The timers fired, in order. -/
def fired (s : TimerState) : List TimerRecord := s.rounds.flatMap TimerRound.fired

end TimerState

/-- The steps. -/
inductive TimerAction where
  /-- A thread calls `SetTimer` and reads the clock. -/
  | setTimer (tid1 tid2 delayMs : UInt32) (now : Int)
  /-- The worker tests `_shutdown`. -/
  | test
  /-- The worker pops; `found` is false when the queue yields no node. -/
  | pop (found : Bool)
  /-- The worker reads the begin time and takes `_tbls.begin()`. -/
  | readBegin (now : Int)
  /-- The worker goes once through the head of the inner loop, up to the call of `OnTimer`. -/
  | scan
  /-- `OnTimer` returns and the worker reads the clock. -/
  | callbackReturns (now : Int)
  /-- The worker sleeps, if it does. -/
  | pace
  /-- `Shutdown` sets `_shutdown`. -/
  | shutdown
  /-- `Shutdown`, behind its join, deletes the oldest queued node. -/
  | drain
  deriving DecidableEq, Repr

/-- The steps of the worker thread. -/
def TimerAction.ofWorker : TimerAction → Bool
  | .setTimer .. | .shutdown | .drain => false
  | _ => true

namespace TimerState

/-- A call of `SetTimer` by any thread. -/
def setTimer (s : TimerState) (tid1 tid2 delayMs : UInt32) (now : Int) : TimerState :=
  { s with
    timer := s.timer.setTimer tid1 tid2 delayMs now
    set := if s.timer.shutdown then s.set else s.set ++ [⟨now + delayMs.toNat, tid1, tid2⟩] }

/-- The head of the inner loop; an iterator that designates nothing is stuck. -/
def scan (s : TimerState) (begin current : Int) (count : Nat) (it : MapIter) : Option TimerState :=
  if it = .pastEnd then some { s with pc := .pace begin current count }
  else do
    let e ← s.timer.tbls.deref it
    -- `if (it->first > begin_millseconds)`: the table is ordered, so nothing behind it is due either
    if begin < e.key then return { s with pc := .pace begin current count }
    -- `it = _tbls.erase(it);`: the entry behind the erased one
    let tbls ← s.timer.tbls.erase it
    return { s with
      timer := { s.timer with tbls := tbls }
      pc := .callback begin count (OrderedMultimap.nextIter e.id s.timer.tbls.entries) (tidHigh e.val)
        (tidLow e.val)
      current := { s.current with fired := s.current.fired ++ [TimerRecord.ofEntry e] } }

/-- One step. -/
def exec (s : TimerState) : TimerAction → Option TimerState
  | .setTimer tid1 tid2 delayMs now => some (s.setTimer tid1 tid2 delayMs now)
  | .test =>
      if s.pc = .loop then
        some { s with pc := if s.timer.shutdown then .returned else .pop }
      else none
  | .pop found =>
      if s.pc = .pop then
        match found, s.timer.mq with
        | false, _ => some { s with pc := .readBegin }
        | true, [] => none
        | true, n :: rest =>
            some { s with
              timer := { s.timer with tbls := s.timer.tbls.insert n.deadLine n.tid, mq := rest }
              pc := .readBegin }
      else none
  | .readBegin now =>
      if s.pc = .readBegin then
        some { s with
          pc := .scan now 0 0 s.timer.tbls.begin
          past := s.past ++ [s.current]
          current := { begin := now, table := s.tabled, fired := [] } }
      else none
  | .scan =>
      match s.pc with
      | .scan begin current count it => s.scan begin current count it
      | _ => none
  | .callbackReturns now =>
      match s.pc with
      | .callback begin count it _ _ =>
          -- both limits are tested behind the callback, so that one timer is always fired
          if timerBatch ≤ count + 1 ∨ timerSliceMs < now - begin then
            some { s with pc := .pace begin now (count + 1) }
          else some { s with pc := .scan begin now (count + 1) it }
      | _ => none
  | .pace =>
      match s.pc with
      | .pace begin current count =>
          some { s with pc := .loop, slept := s.slept ++ (Timer.sleepMs begin current count).toList }
      | _ => none
  | .shutdown => some { s with timer := { s.timer with shutdown := true } }
  | .drain =>
      match s.pc, s.timer.mq with
      | .returned, n :: rest =>
          some { s with
            timer := { s.timer with mq := rest }
            dropped := s.dropped ++ [n.record] }
      | _, _ => none

end TimerState

/-- The timer behind `Init` and `Start`. -/
def timerMachine : Machine TimerState TimerAction where
  init :=
    { timer := { shutdown := false, tbls := .empty, mq := [] }
      pc := .loop
      set := []
      past := []
      current := { begin := 0, table := [], fired := [] }
      dropped := []
      slept := [] }
  step := TimerState.exec

end RaptorLite
