import RaptorLite.Common.Container
import RaptorLite.Foundations.Machine
import RaptorLite.Foundations.Threads

/-! # The message queue and its threads

The message path of `ContainerImpl` (`common/container_impl.cc`): `m` producer threads in
`OnDataReceived`, `OnClosed`, `OnTimerEvent` or `OnNotify` (push, `_count.FetchAdd`, `_cv.Signal`), `k`
consumer threads in `MessageQueueThread`, and one call of `Shutdown` (set `_shutdown`, `_cv.Broadcast`,
join the consumers, drain the queue). Every access to shared memory, every lock operation and every
operation of the condition variable is a step of its own, and the steps of the threads interleave.

`_mpscq` is kept as the list of its nodes in the order of their exchanges, whose pop may come back with
nothing although the list is not empty. That this is what the queue is like, and that the drain finds
every node once the pushes have finished, is shown in `Utils.MpscqDrain`.

`_count` is kept without its wrap-around, as the number of additions less the number of subtractions;
what `_count.Load()` returns is that number modulo `2 ^ 32`. -/

namespace RaptorLite

/-! ### Messages -/

/-- A `TcpMessageNode`. Nodes are told apart by their address; here the address is the number of
pushes before its own. -/
structure TcpMessageNode where
  /-- The address. -/
  serial : Nat
  /-- The message. -/
  message : TcpMessage
  deriving DecidableEq

/-- The calls that push a message. -/
inductive ProducerCall where
  /-- `OnDataReceived`. -/
  | onDataReceived (ep : Nat) (slice : Slice)
  /-- `OnClosed`. -/
  | onClosed (ep : Nat) (event : Event)
  /-- `OnTimerEvent`. -/
  | onTimerEvent (ep : Nat)
  /-- `OnNotify`. -/
  | onNotify (ep : Nat)

/-- The message that a call makes, if it does not return at once. -/
def ProducerCall.message (opt : ContainerOption) : ProducerCall → Option TcpMessage
  | .onDataReceived ep slice => some (.recvAMessage ep slice)
  | .onClosed ep event => if opt.closedHandler then some (.closeEvent ep event) else none
  | .onTimerEvent ep => if opt.heartbeatInterval.isSome then some (.heartbeatEvent ep) else none
  | .onNotify ep => some (.endpointNotify ep)

/-! ### Threads -/

/-- Where a producer stands. -/
inductive MqProducerPc where
  /-- In no call. -/
  | idle
  /-- Its node is in the queue; about to run `_count.FetchAdd`. -/
  | fetchAdd
  /-- About to run `_cv.Signal`. -/
  | signal
  deriving DecidableEq, Repr

/-- Where a consumer stands in `MessageQueueThread`. -/
inductive MqConsumerPc where
  /-- About to read `_shutdown` in the condition of the outer loop. -/
  | loop
  /-- About to lock `_mutex`. -/
  | lock
  /-- Holds `_mutex`; about to load `_count` in the condition of the inner loop. -/
  | load
  /-- Has read a zero; about to call `_cv.Wait`. -/
  | wait
  /-- Asleep in `_cv.Wait`, with `_mutex` released. -/
  | asleep
  /-- Woken; `_cv.Wait` is about to lock `_mutex` again. -/
  | relock
  /-- Back from `_cv.Wait`; about to read `_shutdown`. -/
  | recheck
  /-- Has read that `_shutdown` is set; about to unlock and return. -/
  | leave
  /-- About to run `_mpscq.pop`. -/
  | pop
  /-- Has popped a node; about to run `_count.FetchSub`. -/
  | fetchSub (node : TcpMessageNode)
  /-- About to run `Dispatch`. -/
  | dispatch (node : TcpMessageNode)
  /-- About to unlock `_mutex` at the end of the outer loop. -/
  | unlock
  /-- The thread has returned. -/
  | returned
  deriving DecidableEq

namespace MqConsumerPc

/-- The places at which the thread holds `_mutex`. -/
def critical : MqConsumerPc → Bool
  | .load | .wait | .recheck | .leave | .pop | .fetchSub _ | .dispatch _ | .unlock => true
  | .loop | .lock | .asleep | .relock | .returned => false

/-- The node that the thread has popped and not dispatched. -/
def held : MqConsumerPc → Option TcpMessageNode
  | .fetchSub node => some node
  | .dispatch node => some node
  | _ => none

/-- The thread has popped a node and not yet subtracted it. -/
def unsubtracted : MqConsumerPc → Bool
  | .fetchSub _ => true
  | _ => false

end MqConsumerPc

/-- Where `Shutdown` stands. -/
inductive MqShutdownPc where
  /-- Not called. -/
  | running
  /-- `_shutdown` is set. -/
  | flagged
  /-- `_cv.Broadcast` is done; about to join the consumers. -/
  | joining
  /-- About to run `_mpscq.PopAndCheckEnd`. -/
  | draining
  /-- Has popped a node; about to run `_count.FetchSub` and delete it. -/
  | subtracting
  /-- The drain is over. -/
  | finished
  deriving DecidableEq, Repr

/-- The consumers are joined. -/
def MqShutdownPc.joined : MqShutdownPc → Bool
  | .running | .flagged | .joining => false
  | .draining | .subtracting | .finished => true

/-- The message queue with `m` producers and `k` consumers. -/
structure MqState (m k : Nat) where
  /-- The nodes in `_mpscq`, the oldest first. -/
  queue : List TcpMessageNode
  /-- Additions to `_count` less subtractions from it. -/
  count : Int
  /-- The consumer that holds `_mutex`. -/
  mutex : Option (Fin k)
  /-- `_shutdown`. -/
  shutdown : Bool
  /-- The producers. -/
  producers : Fin m → MqProducerPc
  /-- The consumers. -/
  consumers : Fin k → MqConsumerPc
  /-- The call of `Shutdown`. -/
  shutdownPc : MqShutdownPc
  /-- The nodes pushed so far, in order. -/
  pushed : List TcpMessageNode
  /-- The nodes popped by the consumers so far, in order. -/
  popped : List TcpMessageNode
  /-- The nodes dispatched so far, in order. -/
  dispatched : List TcpMessageNode
  /-- The nodes popped by the drain so far, in order. -/
  discarded : List TcpMessageNode

/-- The steps. -/
inductive MqAction (m k : Nat) where
  /-- A producer enters a call and pushes its node. -/
  | push (p : Fin m) (call : ProducerCall)
  /-- A producer runs `_count.FetchAdd`. -/
  | fetchAdd (p : Fin m)
  /-- A producer runs `_cv.Signal`, which wakes the given consumer. -/
  | signal (p : Fin m) (woken : Option (Fin k))
  /-- A consumer takes its next step; `null` says that a pop comes back with nothing in any case. -/
  | consume (c : Fin k) (null : Bool)
  /-- A sleeping consumer is woken without a signal. -/
  | wakeUp (c : Fin k)
  /-- `Shutdown` sets `_shutdown`. -/
  | setShutdown
  /-- `Shutdown` runs `_cv.Broadcast`. -/
  | broadcast
  /-- `Shutdown` has joined the consumers. -/
  | join
  /-- `Shutdown` takes the next step of its drain; `null` is given when `PopAndCheckEnd` comes back
  with nothing in any case, and then it is what it stores to `*empty`. -/
  | drain (null : Option Bool)

namespace MqState

variable {m k : Nat}

/-! ### Steps -/

/-- What `_count.Load()` returns. -/
def countLoad (s : MqState m k) : Int := s.count % 2 ^ 32

/-- Producer `p` goes on at `pc`. -/
def setProducer (s : MqState m k) (p : Fin m) (pc : MqProducerPc) : MqState m k :=
  { s with producers := Function.update s.producers p pc }

/-- Consumer `c` goes on at `pc`. -/
def setConsumer (s : MqState m k) (c : Fin k) (pc : MqConsumerPc) : MqState m k :=
  { s with consumers := Function.update s.consumers c pc }

/-- The next step of `MessageQueueThread` in consumer `c`. -/
def consume (s : MqState m k) (c : Fin k) (null : Bool) : Option (MqState m k) :=
  match s.consumers c with
  | .loop => some (s.setConsumer c (if s.shutdown then .returned else .lock))
  | .lock =>
      if s.mutex = none then some { s.setConsumer c .load with mutex := some c } else none
  | .load => some (s.setConsumer c (if s.countLoad = 0 then .wait else .pop))
  -- `_cv.Wait` releases the mutex and falls asleep in one step
  | .wait => some { s.setConsumer c .asleep with mutex := none }
  | .asleep => none
  | .relock =>
      if s.mutex = none then some { s.setConsumer c .recheck with mutex := some c } else none
  | .recheck => some (s.setConsumer c (if s.shutdown then .leave else .load))
  | .leave => some { s.setConsumer c .returned with mutex := none }
  | .pop =>
      -- `pop` may come back with nothing although `_count` is positive, while a push is under way
      match null, s.queue with
      | false, node :: rest =>
          some { s.setConsumer c (.fetchSub node) with queue := rest, popped := s.popped ++ [node] }
      | _, _ => some (s.setConsumer c .unlock)
  | .fetchSub node => some { s.setConsumer c (.dispatch node) with count := s.count - 1 }
  | .dispatch node =>
      some { s.setConsumer c .unlock with dispatched := s.dispatched ++ [node] }
  | .unlock => some { s.setConsumer c .loop with mutex := none }
  | .returned => none

/-- The next step of the drain in `Shutdown`. -/
def drain (s : MqState m k) (null : Option Bool) : Option (MqState m k) :=
  match s.shutdownPc with
  | .draining =>
      match null with
      | some empty =>
          -- the end is reported too early only when a push has not stored its link yet
          if empty = true then
            if ∃ p, s.producers p = .fetchAdd then some { s with shutdownPc := .finished } else none
          else some s
      | none =>
          match s.queue with
          | node :: rest =>
              some { s with queue := rest, discarded := s.discarded ++ [node],
                            shutdownPc := .subtracting }
          | [] => some { s with shutdownPc := .finished }
  | .subtracting => some { s with count := s.count - 1, shutdownPc := .draining }
  | _ => none

/-- One step. -/
def step (opt : ContainerOption) (s : MqState m k) : MqAction m k → Option (MqState m k)
  | .push p call =>
      if s.producers p = .idle then
        match call.message opt with
        | none => some s
        | some message =>
            let node := ⟨s.pushed.length, message⟩
            some { s.setProducer p .fetchAdd with
              queue := s.queue ++ [node], pushed := s.pushed ++ [node] }
      else none
  | .fetchAdd p =>
      if s.producers p = .fetchAdd then
        some { s.setProducer p .signal with count := s.count + 1 }
      else none
  | .signal p woken =>
      if s.producers p = .signal then
        match woken with
        | some c =>
            if s.consumers c = .asleep then some ((s.setProducer p .idle).setConsumer c .relock)
            else none
        | none =>
            -- a signal wakes a sleeper if there is one, and is lost otherwise
            if ∃ c, s.consumers c = .asleep then none else some (s.setProducer p .idle)
      else none
  | .consume c null => s.consume c null
  | .wakeUp c => if s.consumers c = .asleep then some (s.setConsumer c .relock) else none
  | .setShutdown =>
      if s.shutdownPc = .running then some { s with shutdown := true, shutdownPc := .flagged }
      else none
  | .broadcast =>
      if s.shutdownPc = .flagged then
        some { s with
          consumers := fun c => if s.consumers c = .asleep then .relock else s.consumers c
          shutdownPc := .joining }
      else none
  | .join =>
      if s.shutdownPc = .joining ∧ ∀ c, s.consumers c = .returned then
        some { s with shutdownPc := .draining }
      else none
  | .drain null => s.drain null

end MqState

/-- The message queue behind `Init` and `Start`. -/
def mqMachine (opt : ContainerOption) (m k : Nat) : Machine (MqState m k) (MqAction m k) where
  init :=
    { queue := [], count := 0, mutex := none, shutdown := false, producers := fun _ => .idle,
      consumers := fun _ => .loop, shutdownPc := .running, pushed := [], popped := [],
      dispatched := [], discarded := [] }
  step s a := s.step opt a

namespace MqState

variable {m k : Nat}

/-! ### The forms of a step -/

/-- The forms a step can take, with what it found. -/
inductive StepForm (opt : ContainerOption) (s : MqState m k) : MqAction m k → MqState m k → Prop
  /-- The handler is not set, and the call returns at once. -/
  | noMessage (p : Fin m) (call : ProducerCall) : StepForm opt s (.push p call) s
  | pushed (p : Fin m) (call : ProducerCall) (message : TcpMessage) (hp : s.producers p = .idle) :
      StepForm opt s (.push p call)
        { s.setProducer p .fetchAdd with
          queue := s.queue ++ [⟨s.pushed.length, message⟩]
          pushed := s.pushed ++ [⟨s.pushed.length, message⟩] }
  | counted (p : Fin m) (hp : s.producers p = .fetchAdd) :
      StepForm opt s (.fetchAdd p) { s.setProducer p .signal with count := s.count + 1 }
  | signalled (p : Fin m) (c : Fin k) (hp : s.producers p = .signal) (hc : s.consumers c = .asleep) :
      StepForm opt s (.signal p (some c)) ((s.setProducer p .idle).setConsumer c .relock)
  | signalledNobody (p : Fin m) (hp : s.producers p = .signal)
      (hnobody : ∀ c, s.consumers c ≠ .asleep) :
      StepForm opt s (.signal p none) (s.setProducer p .idle)
  | woken (c : Fin k) (hc : s.consumers c = .asleep) :
      StepForm opt s (.wakeUp c) (s.setConsumer c .relock)
  /-- `_shutdown` is set, and the thread returns. -/
  | loopEnds (c : Fin k) (null : Bool) (hc : s.consumers c = .loop) :
      StepForm opt s (.consume c null) (s.setConsumer c .returned)
  | loopGoesOn (c : Fin k) (null : Bool) (hc : s.consumers c = .loop) (hrun : s.shutdown = false) :
      StepForm opt s (.consume c null) (s.setConsumer c .lock)
  | locked (c : Fin k) (null : Bool) (hc : s.consumers c = .lock) (hfree : s.mutex = none) :
      StepForm opt s (.consume c null) { s.setConsumer c .load with mutex := some c }
  | loadedZero (c : Fin k) (null : Bool) (hc : s.consumers c = .load) (hzero : s.countLoad = 0) :
      StepForm opt s (.consume c null) (s.setConsumer c .wait)
  | loaded (c : Fin k) (null : Bool) (hc : s.consumers c = .load) (hcount : s.countLoad ≠ 0) :
      StepForm opt s (.consume c null) (s.setConsumer c .pop)
  | slept (c : Fin k) (null : Bool) (hc : s.consumers c = .wait) :
      StepForm opt s (.consume c null) { s.setConsumer c .asleep with mutex := none }
  | relocked (c : Fin k) (null : Bool) (hc : s.consumers c = .relock) (hfree : s.mutex = none) :
      StepForm opt s (.consume c null) { s.setConsumer c .recheck with mutex := some c }
  /-- `_shutdown` is set behind the sleep. -/
  | recheckEnds (c : Fin k) (null : Bool) (hc : s.consumers c = .recheck) :
      StepForm opt s (.consume c null) (s.setConsumer c .leave)
  | recheckGoesOn (c : Fin k) (null : Bool) (hc : s.consumers c = .recheck)
      (hrun : s.shutdown = false) : StepForm opt s (.consume c null) (s.setConsumer c .load)
  | left (c : Fin k) (null : Bool) (hc : s.consumers c = .leave) :
      StepForm opt s (.consume c null) { s.setConsumer c .returned with mutex := none }
  | poppedNull (c : Fin k) (null : Bool) (hc : s.consumers c = .pop) :
      StepForm opt s (.consume c null) (s.setConsumer c .unlock)
  | popped (c : Fin k) (null : Bool) (node : TcpMessageNode) (rest : List TcpMessageNode)
      (hc : s.consumers c = .pop) (hqueue : s.queue = node :: rest) :
      StepForm opt s (.consume c null)
        { s.setConsumer c (.fetchSub node) with queue := rest, popped := s.popped ++ [node] }
  | subtracted (c : Fin k) (null : Bool) (node : TcpMessageNode)
      (hc : s.consumers c = .fetchSub node) :
      StepForm opt s (.consume c null)
        { s.setConsumer c (.dispatch node) with count := s.count - 1 }
  | dispatched (c : Fin k) (null : Bool) (node : TcpMessageNode)
      (hc : s.consumers c = .dispatch node) :
      StepForm opt s (.consume c null)
        { s.setConsumer c .unlock with dispatched := s.dispatched ++ [node] }
  | unlocked (c : Fin k) (null : Bool) (hc : s.consumers c = .unlock) :
      StepForm opt s (.consume c null) { s.setConsumer c .loop with mutex := none }
  | flagged (hpc : s.shutdownPc = .running) :
      StepForm opt s .setShutdown { s with shutdown := true, shutdownPc := .flagged }
  | broadcast (hpc : s.shutdownPc = .flagged) :
      StepForm opt s .broadcast
        { s with
          consumers := fun c => if s.consumers c = .asleep then .relock else s.consumers c
          shutdownPc := .joining }
  | joined (hpc : s.shutdownPc = .joining) (hreturned : ∀ c, s.consumers c = .returned) :
      StepForm opt s .join { s with shutdownPc := .draining }
  | drainedNull (null : Option Bool) (hpc : s.shutdownPc = .draining) : StepForm opt s (.drain null) s
  | drainEnds (null : Option Bool) (hpc : s.shutdownPc = .draining)
      (hend : s.queue = [] ∨ ∃ p, s.producers p = .fetchAdd) :
      StepForm opt s (.drain null) { s with shutdownPc := .finished }
  | drained (null : Option Bool) (node : TcpMessageNode) (rest : List TcpMessageNode)
      (hpc : s.shutdownPc = .draining) (hqueue : s.queue = node :: rest) :
      StepForm opt s (.drain null)
        { s with queue := rest, discarded := s.discarded ++ [node], shutdownPc := .subtracting }
  | drainSubtracted (null : Option Bool) (hpc : s.shutdownPc = .subtracting) :
      StepForm opt s (.drain null) { s with count := s.count - 1, shutdownPc := .draining }

/-- Every step of a consumer has one of the forms. -/
theorem stepForm_of_consume (opt : ContainerOption) {s s' : MqState m k} {c : Fin k} {null : Bool}
    (h : s.consume c null = some s') : StepForm opt s (.consume c null) s' := by
  unfold MqState.consume at h
  cases hc : s.consumers c with
  | loop =>
      rw [hc] at h
      cases h
      cases hrun : s.shutdown with
      | true => exact .loopEnds c null hc
      | false => exact .loopGoesOn c null hc hrun
  | lock =>
      simp only [hc, Option.ite_none_right_eq_some, Option.some.injEq] at h
      obtain ⟨hfree, rfl⟩ := h
      exact .locked c null hc hfree
  | load =>
      rw [hc] at h
      cases h
      by_cases hzero : s.countLoad = 0
      · rw [if_pos hzero]
        exact .loadedZero c null hc hzero
      · rw [if_neg hzero]
        exact .loaded c null hc hzero
  | wait =>
      rw [hc] at h
      cases h
      exact .slept c null hc
  | relock =>
      simp only [hc, Option.ite_none_right_eq_some, Option.some.injEq] at h
      obtain ⟨hfree, rfl⟩ := h
      exact .relocked c null hc hfree
  | recheck =>
      rw [hc] at h
      cases h
      cases hrun : s.shutdown with
      | true => exact .recheckEnds c null hc
      | false => exact .recheckGoesOn c null hc hrun
  | leave =>
      rw [hc] at h
      cases h
      exact .left c null hc
  | pop =>
      simp only [hc] at h
      split at h
      · next hqueue =>
          cases h
          exact .popped c _ _ _ hc hqueue
      · cases h
        exact .poppedNull c _ hc
  | fetchSub node =>
      rw [hc] at h
      cases h
      exact .subtracted c null node hc
  | dispatch node =>
      rw [hc] at h
      cases h
      exact .dispatched c null node hc
  | unlock =>
      rw [hc] at h
      cases h
      exact .unlocked c null hc
  | asleep | returned =>
      rw [hc] at h
      cases h

/-- Every step of the drain has one of the forms. -/
theorem stepForm_of_drain (opt : ContainerOption) {s s' : MqState m k} {null : Option Bool}
    (h : s.drain null = some s') : StepForm opt s (.drain null) s' := by
  unfold MqState.drain at h
  cases hpc : s.shutdownPc with
  | draining =>
      simp only [hpc] at h
      match null with
      | none =>
          cases hqueue : s.queue with
          | nil =>
              simp only [hqueue, Option.some.injEq] at h
              subst h
              have hform : StepForm opt s (.drain none) _ := .drainEnds none hpc (Or.inl hqueue)
              rwa [hqueue] at hform
          | cons node rest =>
              simp only [hqueue, Option.some.injEq] at h
              subst h
              exact .drained none node rest hpc hqueue
      | some false =>
          cases h
          exact .drainedNull _ hpc
      | some true =>
          simp only [if_true, Option.ite_none_right_eq_some, Option.some.injEq] at h
          obtain ⟨hpush, rfl⟩ := h
          exact .drainEnds _ hpc (Or.inr hpush)
  | subtracting =>
      simp only [hpc, Option.some.injEq] at h
      subst h
      exact .drainSubtracted null hpc
  | running | flagged | joining | finished => simp [hpc] at h

/-- **Every step has one of the forms.** -/
theorem stepForm_of_step {opt : ContainerOption} {s s' : MqState m k} {a : MqAction m k}
    (h : s.step opt a = some s') : StepForm opt s a s' := by
  cases a with
  | push p call =>
      simp only [MqState.step, Option.ite_none_right_eq_some] at h
      obtain ⟨hp, h⟩ := h
      cases hmessage : call.message opt with
      | none =>
          rw [hmessage] at h
          cases h
          exact .noMessage p call
      | some message =>
          rw [hmessage] at h
          cases h
          exact .pushed p call message hp
  | fetchAdd p =>
      simp only [MqState.step, Option.ite_none_right_eq_some, Option.some.injEq] at h
      obtain ⟨hp, rfl⟩ := h
      exact .counted p hp
  | signal p woken =>
      simp only [MqState.step, Option.ite_none_right_eq_some] at h
      obtain ⟨hp, h⟩ := h
      cases woken with
      | none =>
          simp only [Option.ite_none_left_eq_some, Option.some.injEq] at h
          obtain ⟨hnobody, rfl⟩ := h
          exact .signalledNobody p hp (not_exists.mp hnobody)
      | some c =>
          simp only [Option.ite_none_right_eq_some, Option.some.injEq] at h
          obtain ⟨hc, rfl⟩ := h
          exact .signalled p c hp hc
  | consume c null => exact stepForm_of_consume opt h
  | wakeUp c =>
      simp only [MqState.step, Option.ite_none_right_eq_some, Option.some.injEq] at h
      obtain ⟨hc, rfl⟩ := h
      exact .woken c hc
  | setShutdown =>
      simp only [MqState.step, Option.ite_none_right_eq_some, Option.some.injEq] at h
      obtain ⟨hpc, rfl⟩ := h
      exact .flagged hpc
  | broadcast =>
      simp only [MqState.step, Option.ite_none_right_eq_some, Option.some.injEq] at h
      obtain ⟨hpc, rfl⟩ := h
      exact .broadcast hpc
  | join =>
      simp only [MqState.step, Option.ite_none_right_eq_some, Option.some.injEq] at h
      obtain ⟨⟨hpc, hreturned⟩, rfl⟩ := h
      exact .joined hpc hreturned
  | drain null => exact stepForm_of_drain opt h

end MqState

end RaptorLite
