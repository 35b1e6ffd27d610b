import Mathlib.Algebra.BigOperators.Group.Multiset.Basic
import RaptorLite.Foundations.Machine
import RaptorLite.Foundations.Threads
import RaptorLite.Linux.Epoll

/-! # Polling threads

`PollingThread` (`linux/epoll_thread.cc`) runs `DoWork` in any number of threads. They share one `Epoll`
(`linux/epoll.cc`) with its array `_events`: `epoll_wait` writes its results to the front of the array,
and the thread that called it then reads them one by one with `get_event` and passes each to
`OnEventProcess`. Nothing keeps a second thread from polling in between.

The steps below are the ones of `DoWork`: the test of `_shutdown`, `epoll_wait`, the test of `_shutdown`
behind it (a batch that is returned during a shutdown is abandoned), and one round of the loop over the
batch. `OnTimeoutCheck` does not touch the array and is left out. The main result settles for which
numbers of threads every event is handled exactly once. -/

namespace RaptorLite

/-! ### State -/

/-- `MAX_EPOLL_EVENTS`. -/
def maxEpollEvents : Nat := 256

/-- Where a thread stands in `DoWork`. -/
inductive PollPc where
  /-- About to read `_shutdown` in the condition of the loop. -/
  | loop
  /-- About to call `_epoll.polling()`. -/
  | polling
  /-- `epoll_wait` has returned this many events; about to read `_shutdown`. -/
  | polled (count : Nat)
  /-- About to handle entry `i` of this many. -/
  | event (i count : Nat)
  /-- The thread has returned. -/
  | returned
  deriving DecidableEq, Repr

/-- `n` threads and the `Epoll` they share. -/
structure PollState (n : Nat) where
  /-- `_shutdown`. -/
  shutdown : Bool
  /-- `Epoll::_events`. -/
  events : Nat → EpollEvent
  /-- The threads. -/
  pcs : Fin n → PollPc
  /-- The events that `epoll_wait` returned to each thread and that it has not handled. -/
  pending : Fin n → List EpollEvent
  /-- The events that `epoll_wait` returned to some thread so far. -/
  returned : List EpollEvent
  /-- The entries read so far, each with the detail that was passed to `OnEventProcess` for it. -/
  passed : List (EpollEvent × EventDetail)
  /-- The events of the batches that were abandoned because of a shutdown. -/
  abandoned : List EpollEvent

/-- The steps. -/
inductive PollAction (n : Nat) where
  /-- A thread reads `_shutdown` in the condition of its loop. -/
  | enter (t : Fin n)
  /-- `epoll_wait` returns to a thread; no result stands for `0` and for `-1`. -/
  | polling (t : Fin n) (results : List EpollEvent)
  /-- A thread reads `_shutdown` behind `epoll_wait`. -/
  | check (t : Fin n)
  /-- A thread handles the next entry. -/
  | handle (t : Fin n) (errno : Int32)
  /-- `PollingThread::Shutdown` sets `_shutdown`. -/
  | shutdown

namespace PollState

variable {n : Nat}

/-! ### Steps -/

/-- `Epoll::polling`: the array behind an `epoll_wait` with the given results. -/
def writeEvents (events : Nat → EpollEvent) (results : List EpollEvent) (i : Nat) : EpollEvent :=
  results.getD i (events i)

/-- `Epoll::get_event`. -/
def getEvent (s : PollState n) (index : Nat) : EpollEvent := s.events index

/-- Thread `t` goes on at `pc`. -/
def setPc (s : PollState n) (t : Fin n) (pc : PollPc) : PollState n :=
  { s with pcs := Function.update s.pcs t pc }

/-- One step. -/
def step (s : PollState n) : PollAction n → Option (PollState n)
  | .enter t =>
      match s.pcs t with
      | .loop => some (s.setPc t (if s.shutdown then .returned else .polling))
      | _ => none
  | .polling t results =>
      match s.pcs t with
      | .polling =>
          if results.length ≤ maxEpollEvents then
            some { s.setPc t (.polled results.length) with
              events := writeEvents s.events results
              pending := Function.update s.pending t results
              returned := s.returned ++ results }
          else none
      | _ => none
  | .check t =>
      match s.pcs t with
      | .polled count =>
          if s.shutdown then
            some { s.setPc t .returned with
              pending := Function.update s.pending t []
              abandoned := s.abandoned ++ s.pending t }
          else some (s.setPc t (if count = 0 then .loop else .event 0 count))
      | _ => none
  | .handle t errno =>
      match s.pcs t with
      | .event i count =>
          some { s.setPc t (if i + 1 < count then .event (i + 1) count else .loop) with
            passed := s.passed ++ [(s.getEvent i, (s.getEvent i).detail errno)]
            pending := Function.update s.pending t (s.pending t).tail }
      | _ => none
  | .shutdown => some { s with shutdown := true }

end PollState

/-- The threads behind `Init` and `Start`; `Epoll` clears the array. -/
def pollMachine (n : Nat) : Machine (PollState n) (PollAction n) where
  init :=
    { shutdown := false, events := fun _ => ⟨0, 0⟩, pcs := fun _ => .loop, pending := fun _ => [],
      returned := [], passed := [], abandoned := [] }
  step := PollState.step

/-! ### Exactly once -/

namespace PollState

variable {n : Nat}

/-- The events that are accounted for, with their multiplicities: those passed to `OnEventProcess`, those
that the threads have still to handle, and those abandoned. -/
def accounted (passed : List (EpollEvent × EventDetail)) (pending : Fin n → List EpollEvent)
    (abandoned : List EpollEvent) : Multiset EpollEvent :=
  ↑(passed.map Prod.fst) + ∑ t, (pending t : Multiset EpollEvent) + ↑abandoned

/-- **Every event is handled exactly once**: the events that `epoll_wait` returned are those passed to
`OnEventProcess`, those that the threads have still to handle and those abandoned, with their
multiplicities; and nothing is abandoned without a shutdown. -/
def EachOnce (s : PollState n) : Prop :=
  accounted s.passed s.pending s.abandoned = (s.returned : Multiset EpollEvent) ∧
  (s.shutdown = false → s.abandoned = [])

/-- An event that was returned has been passed on, is to be handled, or was abandoned. -/
theorem EachOnce.mem {s : PollState n} (h : s.EachOnce) {ev : EpollEvent} (hev : ev ∈ s.returned) :
    ev ∈ s.passed.map Prod.fst ∨ (∃ t, ev ∈ s.pending t) ∨ ev ∈ s.abandoned := by
  have hmem : ev ∈ (s.returned : Multiset EpollEvent) := Multiset.mem_coe.mpr hev
  rw [← h.1, accounted, Multiset.mem_add, Multiset.mem_add, Multiset.mem_sum] at hmem
  rcases hmem with (hpassed | ⟨t, -, hpending⟩) | habandoned
  · exact Or.inl (Multiset.mem_coe.mp hpassed)
  · exact Or.inr (Or.inl ⟨t, Multiset.mem_coe.mp hpending⟩)
  · exact Or.inr (Or.inr (Multiset.mem_coe.mp habandoned))

section Accounted

variable {passed : List (EpollEvent × EventDetail)} {pending : Fin n → List EpollEvent}
  {abandoned : List EpollEvent} {t : Fin n}

/-- A batch is returned to a thread that has nothing to handle. -/
theorem accounted_polling (h : pending t = []) (results : List EpollEvent) :
    accounted passed (Function.update pending t results) abandoned =
      accounted passed pending abandoned + ↑results := by
  have hsum := sum_update (fun l : List EpollEvent => (l : Multiset EpollEvent)) pending t results
  rw [h, Multiset.coe_nil, add_zero] at hsum
  rw [accounted, accounted, hsum, ← add_assoc, add_right_comm]

/-- A batch is abandoned. -/
theorem accounted_abandon :
    accounted passed (Function.update pending t []) (abandoned ++ pending t) =
      accounted passed pending abandoned := by
  have hsum := sum_update (fun l : List EpollEvent => (l : Multiset EpollEvent)) pending t []
  rw [Multiset.coe_nil, add_zero] at hsum
  rw [accounted, accounted, ← hsum, ← Multiset.coe_add, add_comm (abandoned : Multiset EpollEvent),
    ← add_assoc, ← add_assoc]

/-- An event to be handled becomes one passed on. -/
theorem accounted_handle {ev : EpollEvent} {rest : List EpollEvent} (h : pending t = ev :: rest)
    (detail : EventDetail) :
    accounted (passed ++ [(ev, detail)]) (Function.update pending t rest) abandoned =
      accounted passed pending abandoned := by
  have hsum := sum_update (fun l : List EpollEvent => (l : Multiset EpollEvent)) pending t rest
  rw [h, ← Multiset.cons_coe, ← Multiset.singleton_add, ← add_assoc] at hsum
  -- the event is counted once on either side of the sum
  have hmoved := add_right_cancel hsum
  rw [accounted, accounted, ← hmoved, List.map_append, ← Multiset.coe_add, List.map_singleton,
    Multiset.coe_singleton, add_assoc _ ({ev} : Multiset EpollEvent),
    add_comm ({ev} : Multiset EpollEvent)]

end Accounted

/-! ### One thread -/

/-- The entries of the array that a thread has still to read. -/
def unread (events : Nat → EpollEvent) : PollPc → List EpollEvent
  | .polled count => (List.range' 0 count).map events
  | .event i count => (List.range' i (count - i)).map events
  | _ => []

/-- The results of an `epoll_wait` are the front of the array. -/
theorem unread_writeEvents (events : Nat → EpollEvent) (results : List EpollEvent) :
    unread (writeEvents events results) (.polled results.length) = results := by
  apply List.ext_getElem
  · simp [unread]
  · intro i hi hi'
    simp [unread, writeEvents, List.getElem?_eq_getElem hi']

/-- Reading one entry leaves the others. -/
theorem unread_event {events : Nat → EpollEvent} {i count : Nat} (h : i < count) :
    unread events (.event i count) =
      events i :: unread events (if i + 1 < count then .event (i + 1) count else .loop) := by
  have hcount : count - i = (count - (i + 1)) + 1 := by omega
  simp only [unread]
  rw [hcount, List.range'_succ, List.map_cons]
  by_cases hlast : i + 1 < count
  · rw [if_pos hlast]
  -- the last entry: nothing is left to read and the thread polls again
  · have hzero : count - (i + 1) = 0 := by omega
    rw [if_neg hlast, hzero]
    rfl

/-- What holds as long as one thread polls: every thread finds its own batch in the array. -/
structure PollInv (s : PollState n) : Prop where
  /-- The entries still to be read are the events still to be handled. -/
  clean : ∀ t, s.pending t = unread s.events (s.pcs t)
  /-- The loop over a batch stays in it. -/
  bound : ∀ t i count, s.pcs t = .event i count → i < count
  /-- Every event is handled exactly once. -/
  eachOnce : s.EachOnce

section Single

variable (hn : n ≤ 1)

include hn

/-- There is one thread at most. -/
theorem thread_unique (t u : Fin n) : u = t := Fin.ext (by omega)

/-- What is said of the acting thread is said of all. -/
theorem forall_thread {P : Fin n → Prop} (t : Fin n) (h : P t) (u : Fin n) : P u :=
  thread_unique hn t u ▸ h

/-- A thread goes on between places at which it has the same entries to read. -/
theorem PollInv.setPc {s : PollState n} (h : PollInv s) {t : Fin n} {pc : PollPc}
    (hunread : unread s.events pc = unread s.events (s.pcs t))
    (hbound : ∀ i count, pc = .event i count → i < count) : PollInv (s.setPc t pc) where
  clean := forall_thread hn t (by
    show s.pending t = unread s.events (Function.update s.pcs t pc t)
    rw [Function.update_self, hunread]
    exact h.clean t)
  bound := forall_thread hn t (by
    intro i count hpc
    simp only [PollState.setPc, Function.update_self] at hpc
    exact hbound i count hpc)
  eachOnce := h.eachOnce

/-- `epoll_wait` returns a batch. -/
theorem PollInv.polling {s : PollState n} (h : PollInv s) {t : Fin n} (hpc : s.pcs t = .polling)
    (results : List EpollEvent) :
    PollInv { s.setPc t (.polled results.length) with
      events := writeEvents s.events results
      pending := Function.update s.pending t results
      returned := s.returned ++ results } where
  clean := forall_thread hn t (by
    simp only [PollState.setPc, Function.update_self]
    exact (unread_writeEvents s.events results).symm)
  bound := forall_thread hn t (by
    intro i count hevent
    simp only [PollState.setPc, Function.update_self] at hevent
    cases hevent)
  eachOnce := by
    -- a thread polls only when it has read its last batch to the end
    have hidle : s.pending t = [] := by
      rw [h.clean t, hpc]
      rfl
    have hbatch : accounted s.passed (Function.update s.pending t results) s.abandoned =
        ((s.returned ++ results : List EpollEvent) : Multiset EpollEvent) := by
      rw [accounted_polling hidle, h.eachOnce.1, Multiset.coe_add]
    exact ⟨hbatch, h.eachOnce.2⟩

/-- A batch is abandoned because of a shutdown. -/
theorem PollInv.abandon {s : PollState n} (h : PollInv s) (t : Fin n) (hshutdown : s.shutdown = true) :
    PollInv { s.setPc t .returned with
      pending := Function.update s.pending t []
      abandoned := s.abandoned ++ s.pending t } where
  clean := forall_thread hn t (by
    simp only [PollState.setPc, Function.update_self]
    rfl)
  bound := forall_thread hn t (by
    intro i count hevent
    simp only [PollState.setPc, Function.update_self] at hevent
    cases hevent)
  eachOnce := by
    refine ⟨accounted_abandon.trans h.eachOnce.1, ?_⟩
    -- only a shutdown abandons a batch
    intro hoff
    rw [show s.shutdown = false from hoff] at hshutdown
    cases hshutdown

/-- A thread handles an entry. -/
theorem PollInv.handle {s : PollState n} (h : PollInv s) {t : Fin n} {i count : Nat}
    (hpc : s.pcs t = .event i count) (detail : EventDetail) :
    PollInv { s.setPc t (if i + 1 < count then .event (i + 1) count else .loop) with
      passed := s.passed ++ [(s.getEvent i, detail)]
      pending := Function.update s.pending t (s.pending t).tail } := by
  -- with one thread the array still holds its own batch, so the entry read is the next event
  have hpending : s.pending t = s.getEvent i ::
      unread s.events (if i + 1 < count then .event (i + 1) count else .loop) := by
    rw [h.clean t, hpc, unread_event (h.bound t i count hpc)]
    rfl
  have htail : (s.pending t).tail =
      unread s.events (if i + 1 < count then .event (i + 1) count else .loop) := by
    rw [hpending, List.tail_cons]
  rw [htail]
  refine ⟨forall_thread hn t ?_, forall_thread hn t ?_,
    (accounted_handle hpending detail).trans h.eachOnce.1, h.eachOnce.2⟩
  · simp only [PollState.setPc, Function.update_self]
  · intro j count' hevent
    simp only [PollState.setPc, Function.update_self] at hevent
    by_cases hlast : i + 1 < count
    · rw [if_pos hlast] at hevent
      cases hevent
      exact hlast
    · rw [if_neg hlast] at hevent
      cases hevent

/-- **A step of the only thread** keeps the invariant. -/
theorem PollInv.step {s s' : PollState n} {a : PollAction n} (h : PollInv s)
    (hstep : s.step a = some s') : PollInv s' := by
  cases a with
  | enter t =>
      simp only [PollState.step] at hstep
      split at hstep
      · next hpc =>
          cases hstep
          refine h.setPc hn ?_ ?_
          · rw [hpc]
            cases s.shutdown <;> rfl
          · cases s.shutdown <;> nofun
      · cases hstep
  | polling t results =>
      simp only [PollState.step] at hstep
      split at hstep
      · next hpc =>
          obtain ⟨-, hstep⟩ := Option.ite_none_right_eq_some.mp hstep
          cases hstep
          exact h.polling hn hpc results
      · cases hstep
  | check t =>
      simp only [PollState.step] at hstep
      split at hstep
      · next count hpc =>
          by_cases hshutdown : s.shutdown = true
          · rw [if_pos hshutdown] at hstep
            cases hstep
            exact h.abandon hn t hshutdown
          · rw [if_neg hshutdown] at hstep
            cases hstep
            refine h.setPc hn ?_ ?_
            · rw [hpc]
              by_cases hcount : count = 0
              · rw [if_pos hcount, hcount]
                rfl
              · rw [if_neg hcount]
                rfl
            · intro i count' hevent
              by_cases hcount : count = 0
              · rw [if_pos hcount] at hevent
                cases hevent
              · rw [if_neg hcount] at hevent
                cases hevent
                omega
      · cases hstep
  | handle t errno =>
      simp only [PollState.step] at hstep
      split at hstep
      · next i count hpc =>
          cases hstep
          exact h.handle hn hpc _
      · cases hstep
  | shutdown =>
      cases hstep
      exact ⟨h.clean, h.bound, h.eachOnce.1, nofun⟩

end Single

/-! ### Two threads -/

/-- An event that asks for reading from connection 1. -/
def firstEvent : EpollEvent := ⟨epollIn, 1⟩

/-- An event that asks for reading from connection 2. -/
def secondEvent : EpollEvent := ⟨epollIn, 2⟩

/-- Two threads poll one after the other; then the first handles its batch. -/
def overwrite (t u : Fin n) : List (PollAction n) :=
  [.enter t, .enter u, .polling t [firstEvent], .polling u [secondEvent], .check t, .handle t 0]

/-- The first thread finds the batch of the second in the array, and its own event is in no batch any
more. -/
theorem run_overwrite (k : Nat) :
    ∃ s, (pollMachine (k + 2)).run (pollMachine (k + 2)).init
        (overwrite ⟨0, by omega⟩ ⟨1, by omega⟩) = some s ∧
      s.returned = [firstEvent, secondEvent] ∧ s.passed = [(secondEvent, secondEvent.detail 0)] ∧
      s.pending ⟨0, by omega⟩ = [] ∧ s.pending ⟨1, by omega⟩ = [secondEvent] ∧
      (∀ j h, s.pending ⟨j + 2, h⟩ = []) ∧ s.abandoned = [] :=
  ⟨_, rfl, rfl, rfl, rfl, rfl, fun _ _ => rfl, rfl⟩

/-- With two threads or more an event can get lost. -/
theorem exists_not_eachOnce (k : Nat) : ∃ s, (pollMachine (k + 2)).Reachable s ∧ ¬ s.EachOnce := by
  obtain ⟨s, hrun, hreturned, hpassed, hfirst, hsecond, hrest, habandoned⟩ := run_overwrite k
  refine ⟨s, Machine.reachable_of_run hrun, ?_⟩
  intro h
  have hne : firstEvent ≠ secondEvent := by decide
  have hmem : firstEvent ∈ s.returned := by simp [hreturned]
  rcases h.mem hmem with hin | ⟨⟨j, hj⟩, hin⟩ | hin
  · simp [hpassed, hne] at hin
  · -- the first thread, the second, and those that have not polled
    match j, hj with
    | 0, _ =>
        rw [hfirst] at hin
        cases hin
    | 1, _ =>
        rw [hsecond, List.mem_singleton] at hin
        exact hne hin
    | j + 2, hj =>
        rw [hrest j hj] at hin
        cases hin
  · rw [habandoned] at hin
    cases hin

end PollState

/-! ### Results -/

open PollState

/-- **Every polled event is handled exactly once, whatever the interleaving, exactly when at most one
thread polls.** -/
theorem eachOnce_iff_single_thread (n : Nat) :
    (∀ s, (pollMachine n).Reachable s → s.EachOnce) ↔ n ≤ 1 := by
  constructor
  · intro h
    by_contra hn
    obtain ⟨k, rfl⟩ : ∃ k, n = k + 2 := ⟨n - 2, by omega⟩
    obtain ⟨s, hs, hnot⟩ := exists_not_eachOnce k
    exact hnot (h s hs)
  · intro hn s hs
    have hinit : PollInv (pollMachine n).init := by
      refine ⟨fun _ => rfl, nofun, ?_, fun _ => rfl⟩
      simp [accounted, pollMachine]
    have hinv : PollInv s :=
      hs.invariant PollInv hinit fun _ _ _ _ _ h hstep => h.step hn hstep
    exact hinv.eachOnce

/-- Two threads poll one event each; the second batch overwrites the first, and both threads handle the
second event. The first event is lost, the second handled twice. -/
theorem second_batch_overwrites_first :
    ∃ s : PollState 2, (pollMachine 2).Reachable s ∧ s.returned = [firstEvent, secondEvent] ∧
      s.passed = [(secondEvent, secondEvent.detail 0), (secondEvent, secondEvent.detail 0)] ∧
      (∀ t, s.pending t = []) ∧ s.abandoned = [] ∧ ¬ s.EachOnce := by
  obtain ⟨s, hrun, hreturned, hpassed, hpending, habandoned⟩ : ∃ s : PollState 2,
      (pollMachine 2).run (pollMachine 2).init
        (overwrite 0 1 ++ [.check 1, .handle 1 0]) = some s ∧
      s.returned = [firstEvent, secondEvent] ∧
      s.passed = [(secondEvent, secondEvent.detail 0), (secondEvent, secondEvent.detail 0)] ∧
      (∀ t, s.pending t = []) ∧ s.abandoned = [] :=
    ⟨_, rfl, rfl, rfl, by decide, rfl⟩
  refine ⟨s, Machine.reachable_of_run hrun, hreturned, hpassed, hpending, habandoned, ?_⟩
  intro h
  have hmem : firstEvent ∈ s.returned := by simp [hreturned]
  have hne : firstEvent ≠ secondEvent := by decide
  rcases h.mem hmem with hin | ⟨t, hin⟩ | hin
  · simp [hpassed, hne] at hin
  · simp [hpending t] at hin
  · simp [habandoned] at hin

end RaptorLite
