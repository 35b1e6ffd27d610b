import Mathlib.Logic.Function.Basic
import RaptorLite.Foundations.Machine

/-! # Threads

`Thread` and `InternalThreadImpl` (`utils/thread.cc`, the pthread branch). The constructor spawns a thread that
waits behind a gate: `Run` sleeps on the condition variable `_ready` until `Start` has set `_started`, and only
then calls `thread_proc`. `Join` opens the gate when nobody has, waits for the thread and deletes the
implementation; a detached thread deletes it itself. A `Thread` can be moved, and the pointer `_impl` with it.

Any number of `Thread` objects and of spawned threads take steps in any order. One `Thread` object is used by
one caller at a time: while a call on it is in progress no other call on it begins. The scheduler may wake a
sleeping thread without a signal. -/

namespace RaptorLite

/-! ### The implementation -/

/-- Where `InternalThreadImpl::Start` stands. -/
inductive StartPc where
  /-- No call is in progress. -/
  | out
  /-- About to lock `_mutex`. -/
  | lock
  /-- About to set `_started`. -/
  | set
  /-- About to signal `_ready`. -/
  | signal
  /-- About to unlock `_mutex`. -/
  | unlock
  deriving DecidableEq, Repr

/-- Where `InternalThreadImpl::Run` stands. -/
inductive RunPc where
  /-- About to copy its arguments and to delete them. -/
  | spawned
  /-- About to lock `_mutex`, at first or out of `RaptorCondVarWait`. -/
  | lock
  /-- About to read `_started`. -/
  | check
  /-- In `RaptorCondVarWait`. -/
  | asleep
  /-- About to unlock `_mutex`. -/
  | unlock
  /-- About to call `thread_proc`. -/
  | proc
  /-- Behind `thread_proc`, which has returned or thrown. -/
  | finish
  /-- The thread has returned. -/
  | done
  deriving DecidableEq, Repr

/-- Who holds `_mutex`. -/
inductive MutexHolder where
  | caller
  | thread
  deriving DecidableEq, Repr

/-- An `InternalThreadImpl` with the thread it spawned. -/
structure InternalThreadImpl where
  /-- `ThreadImplArgs::joinable`. -/
  joinable : Bool
  /-- `_started`. -/
  started : Bool
  /-- The holder of `_mutex`. -/
  mutex : Option MutexHolder
  /-- The call of `Start`. -/
  startPc : StartPc
  /-- The thread. -/
  runPc : RunPc
  /-- How often `thread_proc` has been called. -/
  calls : Nat
  /-- The object has been deleted. -/
  freed : Bool
  deriving DecidableEq, Repr

/-- The places between `RaptorMutexLock` and `RaptorMutexUnlock`. -/
def StartPc.critical : StartPc → Bool
  | .set | .signal | .unlock => true
  | _ => false

/-- The places between `RaptorMutexLock` and `RaptorMutexUnlock`. -/
def RunPc.critical : RunPc → Bool
  | .check | .unlock => true
  | _ => false

/-- The places behind the gate. -/
def RunPc.passed : RunPc → Bool
  | .unlock | .proc | .finish | .done => true
  | _ => false

/-- The places behind `thread_proc`. -/
def RunPc.called : RunPc → Bool
  | .finish | .done => true
  | _ => false

/-- How many steps a thread behind an open gate has to go. -/
def RunPc.distance : RunPc → Nat
  | .spawned => 6
  | .lock => 5
  | .check => 4
  | .unlock => 3
  | .proc => 2
  | .finish => 1
  | .asleep | .done => 0

/-- `thread_proc` is behind the gate. -/
theorem RunPc.passed_of_called {pc : RunPc} (h : pc.called = true) : pc.passed = true := by
  cases pc with
  | finish | done => rfl
  | spawned | lock | check | asleep | unlock | proc => cases h

/-- `RaptorCondVarSignal`: a sleeping thread goes for the mutex. -/
def RunPc.signalled : RunPc → RunPc
  | .asleep => .lock
  | pc => pc

namespace InternalThreadImpl

/-- The constructor, when `pthread_create` succeeds. -/
def create (joinable : Bool) : InternalThreadImpl :=
  { joinable := joinable, started := false, mutex := none, startPc := .out, runPc := .spawned, calls := 0,
    freed := false }

/-- One step of `Start`. -/
def start (t : InternalThreadImpl) : Option InternalThreadImpl :=
  match t.startPc with
  | .out => none
  | .lock => if t.mutex = none then some { t with mutex := some .caller, startPc := .set } else none
  | .set => some { t with started := true, startPc := .signal }
  | .signal => some { t with runPc := t.runPc.signalled, startPc := .unlock }
  | .unlock => some { t with mutex := none, startPc := .out }

/-- One step of `Run`. -/
def run (t : InternalThreadImpl) : Option InternalThreadImpl :=
  match t.runPc with
  | .spawned => some { t with runPc := .lock }
  | .lock => if t.mutex = none then some { t with mutex := some .thread, runPc := .check } else none
  | .check =>
      if t.started then some { t with runPc := .unlock }
      -- `RaptorCondVarWait` gives the mutex back
      else some { t with mutex := none, runPc := .asleep }
  | .asleep => none
  | .unlock => some { t with mutex := none, runPc := .proc }
  | .proc => some { t with calls := t.calls + 1, runPc := .finish }
  | .finish => some { t with freed := t.freed || !t.joinable, runPc := .done }
  | .done => none

/-- The next step of `Run` uses the object. -/
def runUses (t : InternalThreadImpl) : Bool :=
  match t.runPc with
  | .lock | .check | .unlock => true
  | .finish => !t.joinable
  | _ => false

end InternalThreadImpl

/-! ### The objects -/

/-- `Thread::State`. -/
inductive ThreadState where
  | null
  | alive
  | active
  | finish
  | failed
  deriving DecidableEq, Repr

/-- The call in progress on a `Thread`. -/
inductive ThreadCall where
  /-- No call. -/
  | idle
  /-- The constructor behind `pthread_create`, about to read `info->join_object`. -/
  | construct
  /-- In `_impl->Start()`, called from `Join` or not. -/
  | start (join : Bool)
  /-- In `_impl->Join()`. -/
  | join
  /-- About to delete `_impl`. -/
  | delete
  deriving DecidableEq, Repr

/-- `Thread`. -/
structure Thread where
  /-- `_impl`. -/
  impl : Option Nat
  /-- `_state`. -/
  state : ThreadState
  /-- The call in progress. -/
  call : ThreadCall
  deriving DecidableEq, Repr

/-- How a run goes wrong. -/
inductive ThreadFault where
  /-- `RAPTOR_ASSERT` calls `abort`. -/
  | assertion
  /-- The constructor reads `info` behind its `delete`. -/
  | freedInfo
  /-- An implementation is used or deleted behind its `delete`. -/
  | freedImpl
  /-- `pthread_join` of a detached thread. -/
  | joinDetached
  deriving DecidableEq, Repr

/-- The `Thread` objects and the implementations that were allocated. -/
structure ThreadHeap where
  /-- The objects that were constructed. -/
  objects : Nat → Option Thread
  /-- The implementations. -/
  impls : Nat → Option InternalThreadImpl
  /-- What ended the run. -/
  fault : Option ThreadFault

/-- The steps. -/
inductive ThreadAction where
  /-- `Thread()`. -/
  | default (o : Nat)
  /-- `Thread(name, proc, arg, &success, options)`, whose thread was created or not. -/
  | construct (o i : Nat) (joinable created : Bool)
  /-- `Thread(Thread &&)`. -/
  | moveConstruct (o other : Nat)
  /-- `operator=(Thread &&)`. -/
  | moveAssign (o other : Nat)
  /-- A call of `Thread::Start` begins. -/
  | start (o : Nat)
  /-- A call of `Thread::Join` begins. -/
  | join (o : Nat)
  /-- The call in progress on an object goes on. -/
  | advance (o : Nat)
  /-- A spawned thread goes on. -/
  | thread (i : Nat)
  /-- A sleeping thread wakes up without a signal. -/
  | wake (i : Nat)
  deriving DecidableEq, Repr

/-- A `Thread` that refers to nothing. -/
def Thread.moved : Thread := { impl := none, state := .null, call := .idle }

namespace ThreadHeap

/-- The run ends. -/
def fail (s : ThreadHeap) (fault : ThreadFault) : ThreadHeap := { s with fault := some fault }

/-- An object changes. -/
def setObject (s : ThreadHeap) (o : Nat) (thd : Thread) : ThreadHeap :=
  { s with objects := Function.update s.objects o (some thd) }

/-- An implementation changes. -/
def setImpl (s : ThreadHeap) (i : Nat) (t : InternalThreadImpl) : ThreadHeap :=
  { s with impls := Function.update s.impls i (some t) }

/-- `Thread::Start`, up to the call of `_impl->Start()`. -/
def beginStart (s : ThreadHeap) (o : Nat) (thd : Thread) : Option ThreadHeap :=
  match thd.impl with
  | some i =>
      (s.impls i).map fun t =>
        if thd.state = .alive then
          (s.setImpl i { t with startPc := .lock }).setObject o
            { thd with state := .active, call := .start false }
        else s.fail .assertion
  | none => some (if thd.state = .failed then s else s.fail .assertion)

/-- `Thread::Join`, up to the call of `_impl->Start()` or of `_impl->Join()`. -/
def beginJoin (s : ThreadHeap) (o : Nat) (thd : Thread) : Option ThreadHeap :=
  match thd.impl with
  | some i =>
      (s.impls i).map fun t =>
        if thd.state = .alive then
          (s.setImpl i { t with startPc := .lock }).setObject o
            { thd with state := .active, call := .start true }
        else s.setObject o { thd with call := .join }
  | none => some (if thd.state = .failed then s else s.fail .assertion)

/-- The call in progress on object `o`, whose `_impl` is `i`, takes its next step. -/
def continueCall (s : ThreadHeap) (o : Nat) (thd : Thread) (i : Nat) (t : InternalThreadImpl) :
    Option ThreadHeap :=
  match thd.call with
  | .idle => none
  | .construct =>
      -- `Run` deletes `info` in its first step
      if t.runPc = .spawned then some (s.setObject o { thd with state := .alive, call := .idle })
      else some (s.fail .freedInfo)
  | .start join =>
      if t.freed then some (s.fail .freedImpl)
      else
        t.start.map fun t' =>
          (s.setImpl i t').setObject o
            { thd with
              call := if t'.startPc = .out then (if join then .join else .idle) else .start join }
  | .join =>
      if t.freed then some (s.fail .freedImpl)
      else if t.joinable = false then some (s.fail .joinDetached)
      -- `pthread_join` returns when the thread has
      else if t.runPc = .done then some (s.setObject o { thd with call := .delete })
      else none
  | .delete =>
      if t.freed then some (s.fail .freedImpl)
      else
        some ((s.setImpl i { t with freed := true }).setObject o
          { impl := none, state := .finish, call := .idle })

/-- What a step does. -/
def exec (s : ThreadHeap) : ThreadAction → Option ThreadHeap
  | .default o => if s.objects o = none then some (s.setObject o Thread.moved) else none
  | .construct o i joinable created =>
      if s.objects o = none ∧ s.impls i = none then
        if created then
          -- `_state` is not set yet
          some ((s.setImpl i (InternalThreadImpl.create joinable)).setObject o
            { impl := some i, state := .null, call := .construct })
        else some (s.setObject o { impl := none, state := .failed, call := .idle })
      else none
  | .moveConstruct o other =>
      match s.objects other with
      | some thd =>
          if s.objects o = none ∧ thd.call = .idle then
            some ((s.setObject other Thread.moved).setObject o thd)
          else none
      | none => none
  | .moveAssign o other =>
      match s.objects o, s.objects other with
      | some old, some thd =>
          if old.call = .idle ∧ thd.call = .idle then
            some (if o = other then s else (s.setObject other Thread.moved).setObject o thd)
          else none
      | _, _ => none
  | .start o =>
      match s.objects o with
      | some thd => if thd.call = .idle then s.beginStart o thd else none
      | none => none
  | .join o =>
      match s.objects o with
      | some thd => if thd.call = .idle then s.beginJoin o thd else none
      | none => none
  | .advance o =>
      match s.objects o with
      | some thd => thd.impl.bind fun i => (s.impls i).bind fun t => s.continueCall o thd i t
      | none => none
  | .thread i =>
      match s.impls i with
      | some t => if t.freed && t.runUses then some (s.fail .freedImpl) else t.run.map (s.setImpl i)
      | none => none
  | .wake i =>
      match s.impls i with
      | some t => if t.runPc = .asleep then some (s.setImpl i { t with runPc := .lock }) else none
      | none => none

/-- One step; a run that went wrong does not go on. -/
def step (s : ThreadHeap) (a : ThreadAction) : Option ThreadHeap :=
  if s.fault = none then s.exec a else none

/-- What a caller has to keep to: `Start` is called on a thread that was created and not started, or whose
creation failed, `Join` on one that was not joined, and not on a detached one; and the constructor reads
`info->join_object` before the thread deletes `info`. -/
def Disciplined (s : ThreadHeap) : ThreadAction → Prop
  | .start o => ∀ thd, s.objects o = some thd → thd.state = .alive ∨ thd.state = .failed
  | .join o =>
      ∀ thd, s.objects o = some thd → thd.state = .alive ∨ thd.state = .active ∨ thd.state = .failed
  | .advance o =>
      ∀ thd i t, s.objects o = some thd → thd.impl = some i → s.impls i = some t →
        (thd.call = .construct → t.runPc = .spawned) ∧ (thd.call = .join → t.joinable = true)
  | _ => True

end ThreadHeap

/-- No thread and no object yet. -/
def threadMachine : Machine ThreadHeap ThreadAction where
  init := { objects := fun _ => none, impls := fun _ => none, fault := none }
  step := ThreadHeap.step

/-! ### One implementation -/

namespace InternalThreadImpl

variable {t t' : InternalThreadImpl}

/-- What holds of an implementation between any two steps of the two sides of its gate. -/
structure Ok (t : InternalThreadImpl) : Prop where
  /-- The caller holds the mutex in the critical section of `Start`. -/
  caller : t.startPc.critical = true ↔ t.mutex = some .caller
  /-- The thread holds the mutex in the critical section of `Run`. -/
  thread : t.runPc.critical = true ↔ t.mutex = some .thread
  /-- `_started` is set in the second step of `Start`. -/
  unset : t.startPc = .lock ∨ t.startPc = .set → t.started = false
  /-- `_started` stays set. -/
  wasSet : t.startPc = .signal ∨ t.startPc = .unlock → t.started = true
  /-- The thread passes the gate behind `Start`. -/
  passed : t.runPc.passed = true → t.started = true ∧ t.startPc = .out
  /-- **No wakeup is lost**: a thread that sleeps behind an open gate is about to be signalled. -/
  wakeup : t.runPc = .asleep → t.started = true → t.startPc = .signal
  /-- `thread_proc` is called once. -/
  calls : t.calls = t.runPc.called.toNat
  /-- The object outlives its thread. -/
  freed : t.freed = true → t.runPc = .done
  /-- A detached thread deletes the object. -/
  detached : t.joinable = false → t.runPc = .done → t.freed = true

/-- A new implementation. -/
theorem Ok.create (joinable : Bool) : (create joinable).Ok := by
  constructor <;> simp [InternalThreadImpl.create, StartPc.critical, RunPc.critical, RunPc.passed, RunPc.called]

/-- A call of `Start` on a gate that is shut. -/
theorem Ok.enter (h : t.Ok) (hstart : t.startPc = .out) (hclosed : t.started = false) :
    { t with startPc := StartPc.lock }.Ok where
  caller := by
    have hcaller := h.caller
    rw [hstart] at hcaller
    exact hcaller
  thread := h.thread
  unset := fun _ => hclosed
  wasSet := by rintro (h | h) <;> cases h
  passed := fun hpassed => by
    have hopen := (h.passed hpassed).1
    rw [hclosed] at hopen
    cases hopen
  wakeup := fun _ hopen => by
    rw [hclosed] at hopen
    cases hopen
  calls := h.calls
  freed := h.freed
  detached := h.detached

/-- **A step of `Start`** keeps what holds of the implementation. -/
theorem Ok.start (h : t.Ok) (hstep : t.start = some t') : t'.Ok := by
  obtain ⟨hcaller, hthread, hunset, hset, hpassed, hwakeup, hcalls, hfreed, hdetached⟩ := h
  cases hstart : t.startPc with
  | out => simp [InternalThreadImpl.start, hstart] at hstep
  | lock =>
      simp only [InternalThreadImpl.start, hstart] at hstep
      split at hstep
      · cases hstep
        constructor <;> simp_all [StartPc.critical]
      · cases hstep
  | set =>
      simp only [InternalThreadImpl.start, hstart] at hstep
      cases hstep
      constructor <;> simp_all [StartPc.critical]
  | signal =>
      simp only [InternalThreadImpl.start, hstart] at hstep
      cases hstep
      constructor <;> cases hrun : t.runPc <;>
        simp_all [StartPc.critical, RunPc.critical, RunPc.signalled, RunPc.passed, RunPc.called]
  | unlock =>
      simp only [InternalThreadImpl.start, hstart] at hstep
      cases hstep
      constructor <;> simp_all [StartPc.critical]

/-- **A step of `Run`** keeps what holds of the implementation. -/
theorem Ok.run (h : t.Ok) (hstep : t.run = some t') : t'.Ok := by
  obtain ⟨hcaller, hthread, hunset, hset, hpassed, hwakeup, hcalls, hfreed, hdetached⟩ := h
  cases hrun : t.runPc with
  | asleep => simp [InternalThreadImpl.run, hrun] at hstep
  | done => simp [InternalThreadImpl.run, hrun] at hstep
  | lock =>
      simp only [InternalThreadImpl.run, hrun] at hstep
      split at hstep
      · cases hstep
        constructor <;> simp_all [RunPc.critical, RunPc.passed, RunPc.called]
      · cases hstep
  | check =>
      simp only [InternalThreadImpl.run, hrun] at hstep
      split at hstep
      · cases hstep
        constructor <;> cases hstart : t.startPc <;>
          simp_all [RunPc.critical, RunPc.passed, RunPc.called, StartPc.critical]
      · cases hstep
        constructor <;> simp_all [RunPc.critical, RunPc.passed, RunPc.called]
  | spawned | unlock | proc | finish =>
      simp only [InternalThreadImpl.run, hrun] at hstep
      cases hstep
      constructor <;> simp_all [RunPc.critical, RunPc.passed, RunPc.called]

/-- A thread that wakes up without a signal. -/
theorem Ok.wake (h : t.Ok) (hasleep : t.runPc = .asleep) : { t with runPc := RunPc.lock }.Ok := by
  obtain ⟨hcaller, hthread, hunset, hset, hpassed, hwakeup, hcalls, hfreed, hdetached⟩ := h
  constructor <;> simp_all [RunPc.critical, RunPc.passed, RunPc.called]

/-- A joined thread whose object is deleted. -/
theorem Ok.delete (h : t.Ok) (hdone : t.runPc = .done) : { t with freed := true }.Ok :=
  { h with
    freed := fun _ => hdone
    detached := fun _ _ => rfl }

/-- The object is not used behind its `delete` by the thread. -/
theorem Ok.runUses_of_freed (h : t.Ok) (hfreed : t.freed = true) : t.runUses = false := by
  rw [runUses, h.freed hfreed]

/-- While `Start` is in progress the object is there. -/
theorem Ok.not_freed_of_start (h : t.Ok) (hstart : t.startPc ≠ .out) : t.freed = false := by
  cases hfreed : t.freed with
  | false => rfl
  | true =>
      have hpassed : t.runPc.passed = true := by
        rw [h.freed hfreed]
        rfl
      exact absurd (h.passed hpassed).2 hstart

/-- What `Run` leaves alone. -/
theorem run_frame (hstep : t.run = some t') :
    t'.startPc = t.startPc ∧ t'.started = t.started ∧ t'.joinable = t.joinable ∧
      (t.joinable = true → t'.freed = t.freed) ∧ t.runPc ≠ .done := by
  cases hrun : t.runPc with
  | lock | check =>
      simp only [run, hrun] at hstep
      split at hstep <;> cases hstep
      all_goals exact ⟨rfl, rfl, rfl, fun _ => rfl, by simp⟩
  | asleep | done => simp [run, hrun] at hstep
  | spawned | unlock | proc =>
      simp only [run, hrun] at hstep
      cases hstep
      exact ⟨rfl, rfl, rfl, fun _ => rfl, by simp⟩
  | finish =>
      simp only [run, hrun] at hstep
      cases hstep
      exact ⟨rfl, rfl, rfl, fun hjoin => by simp [hjoin], by simp⟩

/-- **A thread behind an open gate gets on**: nobody keeps the mutex from it, and it does not sleep. -/
theorem Ok.progress (h : t.Ok) (hout : t.startPc = .out) (hopen : t.started = true) (hdone : t.runPc ≠ .done) :
    ∃ t', t.run = some t' ∧ RunPc.distance t'.runPc + 1 = RunPc.distance t.runPc := by
  cases hrun : t.runPc with
  | done => exact absurd hrun hdone
  | asleep =>
      have hsignal := h.wakeup hrun hopen
      rw [hout] at hsignal
      cases hsignal
  | lock =>
      have hmutex : t.mutex = none := by
        cases hm : t.mutex with
        | none => rfl
        | some holder =>
            cases holder with
            | caller =>
                have hcritical := h.caller.mpr hm
                rw [hout] at hcritical
                cases hcritical
            | thread =>
                have hcritical := h.thread.mpr hm
                rw [hrun] at hcritical
                cases hcritical
      simp [InternalThreadImpl.run, hrun, hmutex, RunPc.distance]
  | check => simp [InternalThreadImpl.run, hrun, hopen, RunPc.distance]
  | spawned | unlock | proc | finish => simp [InternalThreadImpl.run, hrun, RunPc.distance]

/-- What `Start` leaves alone, and that its last step leaves the gate open. -/
theorem Ok.start_frame (h : t.Ok) (hstep : t.start = some t') :
    t'.joinable = t.joinable ∧ t'.freed = t.freed ∧ (t'.startPc = .out → t'.started = true) := by
  cases hstart : t.startPc with
  | out => simp [InternalThreadImpl.start, hstart] at hstep
  | lock =>
      simp only [InternalThreadImpl.start, hstart] at hstep
      split at hstep <;> cases hstep
      exact ⟨rfl, rfl, fun hout => by cases hout⟩
  | set | signal =>
      simp only [InternalThreadImpl.start, hstart] at hstep
      cases hstep
      exact ⟨rfl, rfl, fun hout => by cases hout⟩
  | unlock =>
      simp only [InternalThreadImpl.start, hstart] at hstep
      cases hstep
      exact ⟨rfl, rfl, fun _ => h.wasSet (Or.inr hstart)⟩

end InternalThreadImpl

end RaptorLite
