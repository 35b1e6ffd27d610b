import Mathlib.Data.Finset.Card
import Mathlib.Data.PNat.Defs
import RaptorLite.Foundations.Machine
import RaptorLite.Linux.Connection

/-! # The shared worker

`PollingThread` over completion ports (`windows/iocp_thread.cc`): all objects share one
`IocpThreadAdaptor`, which is reference counted, and one of them drives its `IocpThread`. The object that
drives is the one with instance id 1, which the constructor gives to an object made while no other exists;
`Init`, `Start` and `Shutdown` of the others do nothing. So the worker follows that one object, and not the
objects that need it.

Adaptors and objects are referred to by number. An object records next to its members whether `Init` and
`Start` returned without an error and whether it was shut down. -/

namespace RaptorLite.Windows

/-! ### The worker -/

/-- What has become of the threads of an `IocpThread`. -/
inductive WorkerThreads where
  /-- There are none. -/
  | none
  /-- `Init` created them. -/
  | created
  /-- `Start` started them. -/
  | started
  deriving DecidableEq, Repr

/-- `IocpThread`. -/
structure IocpThread where
  /-- `_shutdown`. -/
  isShutdown : Bool := true
  /-- `_running_threads`. -/
  runningThreads : Nat := 0
  /-- `_threads`. -/
  threads : WorkerThreads := .none
  deriving DecidableEq, Repr

namespace IocpThread

/-- `IocpThread::Init`, with the error of `Iocp::create`, if any, and the number of threads that could be
created. -/
def init (t : IocpThread) (portError : Option Status) (created : Nat) : Option Status × IocpThread :=
  if t.isShutdown = false then (none, t)
  else
    match portError with
    | some err => (some err, t)
    | none =>
        (if created = 0 then some ⟨-1, "IocpThread: Failed to create thread"⟩ else none,
          { isShutdown := false, runningThreads := created, threads := .created })

/-- `IocpThread::Start`; `none` where `Thread::Start` asserts that a thread was not started before. -/
def start (t : IocpThread) : Option (Option Status × IocpThread) :=
  if t.isShutdown then some (some ⟨-1, "IocpThread is not initialized"⟩, t)
  else if t.threads = .started ∧ 0 < t.runningThreads then none
  else some (none, { t with threads := .started })

/-- `IocpThread::Shutdown`. -/
def shutdown (t : IocpThread) : IocpThread :=
  if t.isShutdown then t else { t with isShutdown := true, threads := .none }

/-- The worker is initialised and started. -/
def Running (t : IocpThread) : Prop := t.isShutdown = false ∧ t.threads = .started

/-- `Shutdown` leaves the flag that the work function reads set. -/
@[simp] theorem isShutdown_shutdown (t : IocpThread) : t.shutdown.isShutdown = true := by
  unfold shutdown
  split
  · next h => exact h
  · rfl

end IocpThread

/-! ### Objects -/

/-- `PollingThread`, with its history. -/
structure PollingThread where
  /-- `_instance_id`. -/
  instanceId : Nat
  /-- `_impl`, as a reference. -/
  impl : Nat
  /-- `Init` returned without an error. -/
  inited : Bool := false
  /-- `Start` returned without an error. -/
  started : Bool := false
  /-- `Shutdown` was called. -/
  down : Bool := false
  deriving DecidableEq, Repr

namespace PollingThread

/-- `PollingThread::Init` on the worker `t`. -/
def init (p : PollingThread) (t : IocpThread) (portError : Option Status) (created : Nat) :
    Option Status × IocpThread :=
  if p.instanceId = 1 then t.init portError created else (none, t)

/-- `PollingThread::Start` on the worker `t`. -/
def start (p : PollingThread) (t : IocpThread) : Option (Option Status × IocpThread) :=
  if p.instanceId = 1 then t.start else some (none, t)

/-- `PollingThread::Shutdown` on the worker `t`. -/
def shutdown (p : PollingThread) (t : IocpThread) : PollingThread × IocpThread :=
  if p.instanceId = 0 then (p, t)
  else ({ p with instanceId := 0 }, if p.instanceId = 1 then t.shutdown else t)

/-- The object was `Init`-ed and `Start`-ed and not shut down. -/
def Active (p : PollingThread) : Prop := p.inited = true ∧ p.started = true ∧ p.down = false

end PollingThread

/-! ### The machine -/

/-- `IocpThreadAdaptor`: its worker and its reference count. -/
structure IocpThreadAdaptor where
  /-- `_iocp`. -/
  iocp : IocpThread
  /-- `_refs`. -/
  refs : Nat
  deriving DecidableEq, Repr

/-- The objects, the adaptors and the three globals. -/
structure SharedState where
  /-- The adaptors that exist. -/
  adaptors : Nat → Option IocpThreadAdaptor
  /-- The reference of the next adaptor. -/
  nextAdaptor : Nat
  /-- `iocp_thread_adaptor`. -/
  iocpThreadAdaptor : Option Nat
  /-- `iocp_thread_count`. -/
  iocpThreadCount : Nat
  /-- The objects that exist. -/
  objects : Nat → Option PollingThread

namespace SharedState

/-- The shared adaptor. -/
def shared (s : SharedState) : Option IocpThreadAdaptor := s.iocpThreadAdaptor.bind s.adaptors

/-- A member function of object `ref`, which works on the object and its worker. -/
def call (s : SharedState) (ref : Nat)
    (f : PollingThread → IocpThread → Option (PollingThread × IocpThread)) : Option SharedState :=
  (s.objects ref).bind fun p =>
    (s.adaptors p.impl).bind fun a =>
      (f p a.iocp).map fun r =>
        { s with
          objects := Function.update s.objects ref (some r.1)
          adaptors := Function.update s.adaptors p.impl (some { a with iocp := r.2 }) }

/-- `PollingThread::PollingThread`, at the reference `ref`. -/
def construct (s : SharedState) (ref : Nat) : Option SharedState :=
  if s.objects ref ≠ none then none
  else if s.iocpThreadCount = 0 then
    some { adaptors := Function.update s.adaptors s.nextAdaptor (some ⟨{}, 1⟩)
           nextAdaptor := s.nextAdaptor + 1
           iocpThreadAdaptor := some s.nextAdaptor
           iocpThreadCount := s.iocpThreadCount + 1
           objects := Function.update s.objects ref
             (some { instanceId := s.iocpThreadCount + 1, impl := s.nextAdaptor }) }
  else
    s.iocpThreadAdaptor.bind fun impl =>
      (s.adaptors impl).map fun a =>
        { s with
          -- `RefIfNonZero`
          adaptors := Function.update s.adaptors impl
            (some { a with refs := if a.refs = 0 then 0 else a.refs + 1 })
          iocpThreadCount := s.iocpThreadCount + 1
          objects := Function.update s.objects ref
            (some { instanceId := s.iocpThreadCount + 1, impl := impl }) }

/-- `PollingThread::Shutdown` of object `ref`. -/
def shutdown (s : SharedState) (ref : Nat) : Option SharedState :=
  s.call ref fun p t => some ({ (p.shutdown t).1 with down := true }, (p.shutdown t).2)

/-- `PollingThread::~PollingThread` of object `ref`: behind the body, `_impl` gives its reference back, and
the last one ends the adaptor. -/
def destroy (s : SharedState) (ref : Nat) : Option SharedState :=
  (s.shutdown ref).bind fun s =>
    (s.objects ref).bind fun p =>
      (s.adaptors p.impl).map fun a =>
        { s with
          iocpThreadCount := s.iocpThreadCount - 1
          objects := Function.update s.objects ref none
          adaptors := Function.update s.adaptors p.impl
            (if a.refs = 1 then none else some { a with refs := a.refs - 1 }) }

end SharedState

/-- The steps; thread creation succeeds, so `Init` creates at least one thread. -/
inductive PollingAction where
  /-- Construct an object at `ref`. -/
  | construct (ref : Nat)
  /-- `Init`. -/
  | init (ref : Nat) (portError : Option Status) (created : ℕ+)
  /-- `Start`. -/
  | start (ref : Nat)
  /-- `Shutdown`. -/
  | shutdown (ref : Nat)
  /-- Destroy the object. -/
  | destroy (ref : Nat)

/-- One step. -/
def SharedState.exec (s : SharedState) : PollingAction → Option SharedState
  | .construct ref => s.construct ref
  | .init ref portError created =>
      s.call ref fun p t =>
        let r := p.init t portError created
        some ({ p with inited := p.inited || r.1.isNone }, r.2)
  | .start ref =>
      s.call ref fun p t =>
        (p.start t).map fun r => ({ p with started := p.started || r.1.isNone }, r.2)
  | .shutdown ref => s.shutdown ref
  | .destroy ref => s.destroy ref

/-- The program before any object is made. -/
def pollingMachine : Machine SharedState PollingAction where
  init :=
    { adaptors := fun _ => none, nextAdaptor := 0, iocpThreadAdaptor := none, iocpThreadCount := 0,
      objects := fun _ => none }
  step := SharedState.exec

/-! ### One call -/

/-- The worker is where the object that drives it put it. -/
structure Tracks (p : PollingThread) (t : IocpThread) : Prop where
  /-- `Init` took it up. -/
  inited : t.isShutdown = false ↔ p.inited = true
  /-- `Start` set it running. -/
  started : t.Running ↔ p.started = true

/-- What a member function does to its object and the worker: only the object with instance id 1 changes
the worker, which it then still drives or has shut down. -/
structure CallSpec (p p' : PollingThread) (t t' : IocpThread) : Prop where
  /-- The adaptor stays. -/
  impl : p'.impl = p.impl
  /-- The id goes when the object is shut down. -/
  down : (p.down = true ↔ p.instanceId = 0) → (p'.down = true ↔ p'.instanceId = 0)
  /-- No object gets instance id 1. -/
  first : p'.instanceId = 1 → p.instanceId = 1
  /-- The object that drives goes on driving. -/
  tracks : p'.instanceId = 1 → Tracks p t → Tracks p' t'
  /-- The object that drove stopped the worker. -/
  stopped : p.instanceId = 1 → p'.instanceId ≠ 1 → t'.isShutdown = true
  /-- Another object leaves the worker alone. -/
  other : p.instanceId ≠ 1 → t' = t

/-- `Init` on the thread of an object is one of the calls of `CallSpec`. -/
theorem CallSpec.init (p : PollingThread) (t : IocpThread) (portError : Option Status) (created : ℕ+) :
    CallSpec p { p with inited := p.inited || (p.init t portError created).1.isNone } t
      (p.init t portError created).2 := by
  refine ⟨rfl, id, id, ?_, fun hfirst hother => absurd hfirst hother, ?_⟩
  · intro hfirst h
    rw [PollingThread.init, if_pos hfirst]
    unfold IocpThread.init
    by_cases hup : t.isShutdown = false
    · -- the worker is up already
      rw [if_pos hup]
      exact ⟨by simp [hup], h.started⟩
    · rw [if_neg hup]
      cases portError with
      | some err => exact ⟨by simpa using h.inited, h.started⟩
      | none =>
          have hidle : ¬ p.started = true := by
            intro hstarted
            exact hup (h.started.mpr hstarted).1
          dsimp only
          rw [if_neg created.ne_zero]
          refine ⟨by simp, ?_⟩
          simp [IocpThread.Running, hidle]
  · intro hother
    rw [PollingThread.init, if_neg hother]

/-- `Start` on the thread of an object is one of the calls of `CallSpec`, as far as it returns. -/
theorem CallSpec.start {p : PollingThread} {t : IocpThread} {r : Option Status × IocpThread}
    (hr : p.start t = some r) : CallSpec p { p with started := p.started || r.1.isNone } t r.2 := by
  refine ⟨rfl, id, id, ?_, fun hfirst hother => absurd hfirst hother, ?_⟩
  · intro hfirst h
    rw [PollingThread.start, if_pos hfirst, IocpThread.start] at hr
    -- a worker that is down refuses to start, and the object does not count as started
    by_cases hdown : t.isShutdown = true
    · rw [if_pos hdown] at hr
      cases hr
      exact ⟨h.inited, by simpa using h.started⟩
    · rw [if_neg hdown] at hr
      obtain ⟨-, hr⟩ := Option.ite_none_left_eq_some.mp hr
      cases hr
      refine ⟨h.inited, ?_⟩
      simp [IocpThread.Running, hdown]
  · intro hother
    rw [PollingThread.start, if_neg hother] at hr
    cases hr
    rfl

/-- `Shutdown` is one of the calls of `CallSpec` and leaves the object marked as down. -/
theorem CallSpec.shutdown (p : PollingThread) (t : IocpThread) :
    CallSpec p { (p.shutdown t).1 with down := true } t (p.shutdown t).2 := by
  unfold PollingThread.shutdown
  by_cases hgone : p.instanceId = 0
  · have hother : p.instanceId ≠ 1 := by omega
    rw [if_pos hgone]
    exact ⟨rfl, fun _ => by simp [hgone], id, fun hfirst => absurd hfirst hother,
      fun hfirst => absurd hfirst hother, fun _ => rfl⟩
  · rw [if_neg hgone]
    refine ⟨rfl, fun _ => by simp, fun hzero => by simp at hzero, fun hzero => by simp at hzero, ?_, ?_⟩
    · intro hfirst _
      dsimp only
      rw [if_pos hfirst, IocpThread.isShutdown_shutdown]
    · intro hother
      exact if_neg hother

/-! ### Updated maps -/

/-- What an updated map holds: the new value, or an old one elsewhere. -/
theorem update_eq_some {α : Type} {f : Nat → Option α} {i j : Nat} {x : Option α} {y : α}
    (h : Function.update f i x j = some y) : (j = i ∧ x = some y) ∨ (j ≠ i ∧ f j = some y) := by
  by_cases heq : j = i
  · rw [heq, Function.update_self] at h
    exact Or.inl ⟨heq, h⟩
  · rw [Function.update_of_ne heq] at h
    exact Or.inr ⟨heq, h⟩

/-- The references of the objects that exist. -/
def IsDomain (live : Finset Nat) (objects : Nat → Option PollingThread) : Prop :=
  ∀ ref, ref ∈ live ↔ objects ref ≠ none

section IsDomain

variable {live : Finset Nat} {objects : Nat → Option PollingThread} {ref : Nat}

/-- A new object joins the live references with the update that creates it. -/
theorem IsDomain.insert (h : IsDomain live objects) (p : PollingThread) :
    IsDomain (Insert.insert ref live) (Function.update objects ref (some p)) := by
  intro ref'
  rw [Finset.mem_insert, h ref']
  by_cases heq : ref' = ref
  · simp [heq]
  · simp [heq]

/-- A destroyed object leaves the live references with the update that removes it. -/
theorem IsDomain.erase (h : IsDomain live objects) :
    IsDomain (live.erase ref) (Function.update objects ref none) := by
  intro ref'
  rw [Finset.mem_erase, h ref']
  by_cases heq : ref' = ref
  · simp [heq]
  · simp [heq]

/-- Writing to an object that exists keeps the live references. -/
theorem IsDomain.replace (h : IsDomain live objects) {p p' : PollingThread} (hp : objects ref = some p) :
    IsDomain live (Function.update objects ref (some p')) := by
  intro ref'
  rw [h ref']
  by_cases heq : ref' = ref
  · simp [heq, hp]
  · simp [heq]

end IsDomain

/-- The shared adaptor of a state in which it is replaced. -/
theorem SharedState.shared_update {s : SharedState} {impl count : Nat} {x : Option IocpThreadAdaptor}
    {objects : Nat → Option PollingThread} (himpl : s.iocpThreadAdaptor = some impl) :
    SharedState.shared { s with
      adaptors := Function.update s.adaptors impl x
      iocpThreadCount := count
      objects := objects } = x := by
  rw [shared]
  dsimp only
  rw [himpl, Option.bind_some, Function.update_self]

/-! ### The invariant -/

/-- What holds along every run. -/
structure SharedInv (s : SharedState) : Prop where
  /-- `iocp_thread_count` is the number of objects. -/
  counted : ∃ live : Finset Nat, live.card = s.iocpThreadCount ∧ IsDomain live s.objects
  /-- Every object holds the shared adaptor. -/
  impl : ∀ ref p, s.objects ref = some p → s.iocpThreadAdaptor = some p.impl
  /-- The shared adaptor exists while an object does, which it has a reference for. -/
  refs : (s.shared = none ∧ s.iocpThreadCount = 0) ∨
    ∃ a, s.shared = some a ∧ a.refs = s.iocpThreadCount ∧ 0 < s.iocpThreadCount
  /-- The objects without an id are those that were shut down. -/
  down : ∀ ref p, s.objects ref = some p → (p.down = true ↔ p.instanceId = 0)
  /-- At most one object has instance id 1. -/
  first : ∀ ref ref' p p', s.objects ref = some p → s.objects ref' = some p' → p.instanceId = 1 →
    p'.instanceId = 1 → ref = ref'
  /-- That object drives the worker. -/
  tracks : ∀ a ref p, s.shared = some a → s.objects ref = some p → p.instanceId = 1 → Tracks p a.iocp
  /-- Without it, the worker is down. -/
  idle : ∀ a, s.shared = some a → (∀ ref p, s.objects ref = some p → p.instanceId ≠ 1) →
    a.iocp.isShutdown = true

namespace SharedInv

variable {s s' : SharedState}

/-- No object and no thread: the invariant holds at the start. -/
theorem start : SharedInv pollingMachine.init where
  counted := ⟨∅, rfl, by simp [IsDomain, pollingMachine]⟩
  impl := nofun
  refs := Or.inl ⟨rfl, rfl⟩
  down := nofun
  first := nofun
  tracks := nofun
  idle := nofun

/-- There is no object when the count is zero. -/
theorem objects_eq_none (h : SharedInv s) (hcount : s.iocpThreadCount = 0) (ref : Nat) :
    s.objects ref = none := by
  obtain ⟨live, hcard, hlive⟩ := h.counted
  rw [hcount, Finset.card_eq_zero] at hcard
  by_contra hne
  have hmem := (hlive ref).mpr hne
  rw [hcard] at hmem
  exact absurd hmem (Finset.notMem_empty ref)

/-- An object that exists has the shared adaptor. -/
theorem shared_of_object (h : SharedInv s) {ref : Nat} {p : PollingThread} (hp : s.objects ref = some p) :
    ∃ a, s.adaptors p.impl = some a ∧ s.shared = some a ∧ a.refs = s.iocpThreadCount ∧
      0 < s.iocpThreadCount := by
  have himpl := h.impl ref p hp
  rcases h.refs with ⟨-, hzero⟩ | ⟨a, hshared, hrefs, hpos⟩
  · rw [h.objects_eq_none hzero ref] at hp
    cases hp
  · refine ⟨a, ?_, hshared, hrefs, hpos⟩
    rw [SharedState.shared, himpl] at hshared
    exact hshared

/-! ### Steps -/

/-- What a member function does to the state, from what it does to its object and the worker. -/
theorem call_cases (h : SharedInv s) {ref : Nat}
    {f : PollingThread → IocpThread → Option (PollingThread × IocpThread)} (hcall : s.call ref f = some s') :
    ∃ p a r, s.objects ref = some p ∧ s.shared = some a ∧ f p a.iocp = some r ∧
      s' = { s with
        objects := Function.update s.objects ref (some r.1)
        adaptors := Function.update s.adaptors p.impl (some { a with iocp := r.2 }) } := by
  obtain ⟨p, hp, hcall⟩ := Option.bind_eq_some_iff.mp hcall
  obtain ⟨a, ha, hcall⟩ := Option.bind_eq_some_iff.mp hcall
  obtain ⟨r, hr, rfl⟩ := Option.map_eq_some_iff.mp hcall
  obtain ⟨b, hb, hshared, -⟩ := h.shared_of_object hp
  rw [ha, Option.some.injEq] at hb
  rw [← hb] at hshared
  exact ⟨p, a, r, hp, hshared, hr, rfl⟩

/-- **A member function** keeps the invariant. -/
theorem call (h : SharedInv s) {ref : Nat} {p p' : PollingThread} {a : IocpThreadAdaptor} {t' : IocpThread}
    (hp : s.objects ref = some p) (hshared : s.shared = some a) (hspec : CallSpec p p' a.iocp t') :
    SharedInv { s with
      objects := Function.update s.objects ref (some p')
      adaptors := Function.update s.adaptors p.impl (some { a with iocp := t' }) } := by
  have himpl := h.impl ref p hp
  refine ⟨h.counted.imp fun live hlive => ⟨hlive.1, hlive.2.replace hp⟩, ?_, ?_, ?_, ?_, ?_, ?_⟩
  · intro ref' q hq
    rcases update_eq_some hq with ⟨-, hq⟩ | ⟨-, hq⟩
    · rw [← Option.some.inj hq, hspec.impl]
      exact himpl
    · exact h.impl ref' q hq
  · obtain ⟨b, -, hb, hrefs, hpos⟩ := h.shared_of_object hp
    rw [hshared, Option.some.injEq] at hb
    exact Or.inr ⟨_, SharedState.shared_update himpl, hb ▸ hrefs, hpos⟩
  · intro ref' q hq
    rcases update_eq_some hq with ⟨-, hq⟩ | ⟨-, hq⟩
    · rw [← Option.some.inj hq]
      exact hspec.down (h.down ref p hp)
    · exact h.down ref' q hq
  · -- an object with instance id 1 had it before the call
    have hbefore : ∀ ref' q, Function.update s.objects ref (some p') ref' = some q → q.instanceId = 1 →
        ∃ q', s.objects ref' = some q' ∧ q'.instanceId = 1 := by
      intro ref' q hq hfirst
      rcases update_eq_some hq with ⟨heq, hq⟩ | ⟨-, hq⟩
      · rw [← Option.some.inj hq] at hfirst
        exact ⟨p, heq ▸ hp, hspec.first hfirst⟩
      · exact ⟨q, hq, hfirst⟩
    intro ref₁ ref₂ p₁ p₂ h₁ h₂ hfirst₁ hfirst₂
    obtain ⟨q₁, hq₁, hone₁⟩ := hbefore ref₁ p₁ h₁ hfirst₁
    obtain ⟨q₂, hq₂, hone₂⟩ := hbefore ref₂ p₂ h₂ hfirst₂
    exact h.first ref₁ ref₂ q₁ q₂ hq₁ hq₂ hone₁ hone₂
  · intro b ref' q hb hq hfirst
    rw [SharedState.shared_update himpl, Option.some.injEq] at hb
    rw [← hb]
    rcases update_eq_some hq with ⟨-, hq⟩ | ⟨hne, hq⟩
    · rw [← Option.some.inj hq] at hfirst ⊢
      exact hspec.tracks hfirst (h.tracks a ref p hshared hp (hspec.first hfirst))
    · -- another object drives, so this call left the worker alone
      have hother : p.instanceId ≠ 1 := fun hone => hne (h.first ref' ref q p hq hp hfirst hone)
      rw [hspec.other hother]
      exact h.tracks a ref' q hshared hq hfirst
  · intro b hb hnone
    rw [SharedState.shared_update himpl, Option.some.injEq] at hb
    rw [← hb]
    have hp' : p'.instanceId ≠ 1 := hnone ref p' (Function.update_self ..)
    by_cases hone : p.instanceId = 1
    · exact hspec.stopped hone hp'
    · rw [hspec.other hone]
      apply h.idle a hshared
      intro ref' q hq
      by_cases heq : ref' = ref
      · rw [heq, hp, Option.some.injEq] at hq
        rw [← hq]
        exact hone
      · exact hnone ref' q ((Function.update_of_ne heq ..).trans hq)

/-- A new object, when there are others: it has another id than 1, and one more reference is held. -/
theorem construct_next (h : SharedInv s) {ref impl : Nat} {a : IocpThreadAdaptor}
    (hfree : s.objects ref = none) (hcount : s.iocpThreadCount ≠ 0)
    (himpl : s.iocpThreadAdaptor = some impl) (ha : s.adaptors impl = some a) :
    SharedInv { s with
      adaptors := Function.update s.adaptors impl
        (some { a with refs := if a.refs = 0 then 0 else a.refs + 1 })
      iocpThreadCount := s.iocpThreadCount + 1
      objects := Function.update s.objects ref
        (some { instanceId := s.iocpThreadCount + 1, impl := impl }) } := by
  have hshared : s.shared = some a := by
    rw [SharedState.shared, himpl]
    exact ha
  have hrefs : a.refs = s.iocpThreadCount := by
    rcases h.refs with ⟨-, hzero⟩ | ⟨b, hb, hrefs, -⟩
    · exact absurd hzero hcount
    · rw [hshared, Option.some.injEq] at hb
      rw [hb]
      exact hrefs
  -- the new object does not have instance id 1, so the questions about that one are about the old objects
  have hold : ∀ ref' q, Function.update s.objects ref
      (some { instanceId := s.iocpThreadCount + 1, impl := impl }) ref' = some q →
      q.instanceId = 1 → s.objects ref' = some q := by
    intro ref' q hq hfirst
    rcases update_eq_some hq with ⟨-, hq⟩ | ⟨-, hq⟩
    · rw [← Option.some.inj hq] at hfirst
      exact absurd (Nat.succ.inj hfirst) hcount
    · exact hq
  refine ⟨?_, ?_, ?_, ?_, ?_, ?_, ?_⟩
  · obtain ⟨live, hcard, hlive⟩ := h.counted
    have hnew : ref ∉ live := fun hmem => (hlive ref).mp hmem hfree
    exact ⟨insert ref live, by rw [Finset.card_insert_of_notMem hnew, hcard], hlive.insert _⟩
  · intro ref' q hq
    rcases update_eq_some hq with ⟨-, hq⟩ | ⟨-, hq⟩
    · rw [← Option.some.inj hq]
      exact himpl
    · exact h.impl ref' q hq
  · refine Or.inr ⟨_, SharedState.shared_update himpl, ?_, Nat.succ_pos _⟩
    dsimp only
    rw [hrefs, if_neg hcount]
  · intro ref' q hq
    rcases update_eq_some hq with ⟨-, hq⟩ | ⟨-, hq⟩
    · rw [← Option.some.inj hq]
      simp
    · exact h.down ref' q hq
  · intro ref₁ ref₂ p₁ p₂ h₁ h₂ hfirst₁ hfirst₂
    exact h.first ref₁ ref₂ p₁ p₂ (hold ref₁ p₁ h₁ hfirst₁) (hold ref₂ p₂ h₂ hfirst₂) hfirst₁ hfirst₂
  · intro b ref' q hb hq hfirst
    rw [SharedState.shared_update himpl, Option.some.injEq] at hb
    rw [← hb]
    exact h.tracks a ref' q hshared (hold ref' q hq hfirst) hfirst
  · intro b hb hnone
    rw [SharedState.shared_update himpl, Option.some.injEq] at hb
    rw [← hb]
    apply h.idle a hshared
    intro ref' q hq
    have hne : ref' ≠ ref := by
      intro heq
      rw [heq, hfree] at hq
      cases hq
    exact hnone ref' q ((Function.update_of_ne hne ..).trans hq)

/-- A new object, when there is no other: it has instance id 1 and a new adaptor, which is down. -/
theorem construct_first (h : SharedInv s) (ref : Nat) (hcount : s.iocpThreadCount = 0) :
    SharedInv
      { adaptors := Function.update s.adaptors s.nextAdaptor (some ⟨{}, 1⟩)
        nextAdaptor := s.nextAdaptor + 1
        iocpThreadAdaptor := some s.nextAdaptor
        iocpThreadCount := s.iocpThreadCount + 1
        objects := Function.update s.objects ref
          (some { instanceId := s.iocpThreadCount + 1, impl := s.nextAdaptor }) } := by
  -- the new object is the only one
  have hobjects : ∀ ref' q, Function.update s.objects ref
      (some { instanceId := s.iocpThreadCount + 1, impl := s.nextAdaptor }) ref' = some q →
      ref' = ref ∧ q = { instanceId := s.iocpThreadCount + 1, impl := s.nextAdaptor } := by
    intro ref' q hq
    rcases update_eq_some hq with ⟨heq, hq⟩ | ⟨-, hq⟩
    · exact ⟨heq, (Option.some.inj hq).symm⟩
    · rw [h.objects_eq_none hcount ref'] at hq
      cases hq
  have hadaptor : Function.update s.adaptors s.nextAdaptor (some ⟨{}, 1⟩) s.nextAdaptor
      = some ⟨{}, 1⟩ := Function.update_self ..
  refine ⟨?_, ?_, Or.inr ⟨_, hadaptor, ?_, Nat.succ_pos _⟩, ?_, ?_, ?_, ?_⟩
  · obtain ⟨live, hcard, hlive⟩ := h.counted
    have hnew : ref ∉ live := fun hmem => (hlive ref).mp hmem (h.objects_eq_none hcount ref)
    exact ⟨insert ref live, by rw [Finset.card_insert_of_notMem hnew, hcard], hlive.insert _⟩
  · intro ref' q hq
    rw [(hobjects ref' q hq).2]
  · rw [hcount]
  · intro ref' q hq
    rw [(hobjects ref' q hq).2]
    simp
  · intro ref₁ ref₂ p₁ p₂ h₁ h₂ _ _
    rw [(hobjects ref₁ p₁ h₁).1, (hobjects ref₂ p₂ h₂).1]
  · intro b ref' q hb hq _
    rw [← Option.some.inj (hadaptor.symm.trans hb), (hobjects ref' q hq).2]
    exact ⟨by simp, by simp [IocpThread.Running]⟩
  · intro b hb _
    rw [← Option.some.inj (hadaptor.symm.trans hb)]

/-- An object that does not have instance id 1 goes, and with the last one the adaptor. -/
theorem remove (h : SharedInv s) {ref : Nat} {p : PollingThread} {a : IocpThreadAdaptor}
    (hp : s.objects ref = some p) (ha : s.adaptors p.impl = some a) (hother : p.instanceId ≠ 1) :
    SharedInv { s with
      iocpThreadCount := s.iocpThreadCount - 1
      objects := Function.update s.objects ref none
      adaptors := Function.update s.adaptors p.impl
        (if a.refs = 1 then none else some { a with refs := a.refs - 1 }) } := by
  have himpl := h.impl ref p hp
  obtain ⟨b, hb, hshared, hrefs, hpos⟩ := h.shared_of_object hp
  rw [ha, Option.some.injEq] at hb
  rw [← hb] at hshared hrefs
  -- an adaptor that is left has the same worker
  have hworker : ∀ b, (if a.refs = 1 then none else some { a with refs := a.refs - 1 }) = some b →
      b.iocp = a.iocp := by
    intro b hb
    rw [← Option.some.inj (Option.ite_none_left_eq_some.mp hb).2]
  have hobjects : ∀ ref' q, Function.update s.objects ref none ref' = some q →
      s.objects ref' = some q := by
    intro ref' q hq
    rcases update_eq_some hq with ⟨-, hq⟩ | ⟨-, hq⟩
    · cases hq
    · exact hq
  refine ⟨?_, ?_, ?_, ?_, ?_, ?_, ?_⟩
  · obtain ⟨live, hcard, hlive⟩ := h.counted
    have hmem : ref ∈ live := (hlive ref).mpr (by rw [hp]; simp)
    exact ⟨live.erase ref, by rw [Finset.card_erase_of_mem hmem, hcard], hlive.erase⟩
  · intro ref' q hq
    exact h.impl ref' q (hobjects ref' q hq)
  · rw [SharedState.shared_update himpl]
    -- the last reference ends the adaptor, exactly when the count gets to zero
    by_cases hlast : a.refs = 1
    · rw [if_pos hlast]
      exact Or.inl ⟨rfl, by dsimp only; omega⟩
    · rw [if_neg hlast]
      exact Or.inr ⟨_, rfl, by dsimp only; omega, by dsimp only; omega⟩
  · intro ref' q hq
    exact h.down ref' q (hobjects ref' q hq)
  · intro ref₁ ref₂ p₁ p₂ h₁ h₂
    exact h.first ref₁ ref₂ p₁ p₂ (hobjects ref₁ p₁ h₁) (hobjects ref₂ p₂ h₂)
  · intro b ref' q hb hq hfirst
    rw [SharedState.shared_update himpl] at hb
    rw [hworker b hb]
    exact h.tracks a ref' q hshared (hobjects ref' q hq) hfirst
  · intro b hb hnone
    rw [SharedState.shared_update himpl] at hb
    rw [hworker b hb]
    apply h.idle a hshared
    intro ref' q hq
    by_cases heq : ref' = ref
    · rw [heq, hp, Option.some.injEq] at hq
      rw [← hq]
      exact hother
    · exact hnone ref' q ((Function.update_of_ne heq ..).trans hq)

/-- Constructing an object keeps the invariant and adds one object that is not yet initialised. -/
theorem construct (h : SharedInv s) {ref : Nat} (hstep : s.construct ref = some s') :
    SharedInv s' ∧ s.objects ref = none ∧
      ∃ p, p.inited = false ∧ s'.objects = Function.update s.objects ref (some p) := by
  obtain ⟨hfree, hstep⟩ := Option.ite_none_left_eq_some.mp hstep
  rw [not_not] at hfree
  by_cases hcount : s.iocpThreadCount = 0
  · rw [if_pos hcount] at hstep
    cases hstep
    exact ⟨h.construct_first ref hcount, hfree, _, rfl, rfl⟩
  · rw [if_neg hcount] at hstep
    obtain ⟨impl, himpl, hstep⟩ := Option.bind_eq_some_iff.mp hstep
    obtain ⟨a, ha, rfl⟩ := Option.map_eq_some_iff.mp hstep
    exact ⟨h.construct_next hfree hcount himpl ha, hfree, _, rfl, rfl⟩

/-- `Shutdown` on an object keeps the invariant and writes to that object alone. -/
theorem shutdown (h : SharedInv s) {ref : Nat} (hstep : s.shutdown ref = some s') :
    SharedInv s' ∧ ∃ p p', s.objects ref = some p ∧ p'.down = true ∧
      s'.objects = Function.update s.objects ref (some p') := by
  obtain ⟨p, a, r, hp, hshared, hr, rfl⟩ := h.call_cases hstep
  cases hr
  exact ⟨h.call hp hshared (CallSpec.shutdown p a.iocp), p, _, hp, rfl, rfl⟩

/-- Destroying an object keeps the invariant and removes that object alone. -/
theorem destroy (h : SharedInv s) {ref : Nat} (hstep : s.destroy ref = some s') :
    SharedInv s' ∧ ∃ p, s.objects ref = some p ∧ s'.objects = Function.update s.objects ref none := by
  obtain ⟨s₁, hdown, hstep⟩ := Option.bind_eq_some_iff.mp hstep
  obtain ⟨q, hq, hstep⟩ := Option.bind_eq_some_iff.mp hstep
  obtain ⟨a, ha, rfl⟩ := Option.map_eq_some_iff.mp hstep
  -- the body of the destructor has shut the object down, so it drives nothing
  obtain ⟨h₁, p, p', hp, hpdown, hobjects⟩ := h.shutdown hdown
  have hqdown : q.down = true := by
    rw [hobjects, Function.update_self] at hq
    cases hq
    exact hpdown
  have hother : q.instanceId ≠ 1 := by
    rw [(h₁.down ref q hq).mp hqdown]
    exact Nat.zero_ne_one
  refine ⟨h₁.remove hq ha hother, p, hp, ?_⟩
  dsimp only
  rw [hobjects, Function.update_idem]

end SharedInv

/-! ### What a step does to the objects -/

/-- The objects behind a step: one is made, grows, is shut down or goes. -/
inductive ObjectsAfter (objects : Nat → Option PollingThread) :
    PollingAction → (Nat → Option PollingThread) → Prop
  /-- A new object. -/
  | construct {ref : Nat} {p : PollingThread} (hfree : objects ref = none) (hp : p.inited = false) :
      ObjectsAfter objects (.construct ref) (Function.update objects ref (some p))
  /-- `Init`, which succeeds on the objects that drive nothing. -/
  | init {ref : Nat} {portError : Option Status} {created : ℕ+} {p : PollingThread} {ok : Bool}
      (hp : objects ref = some p) (hok : p.instanceId ≠ 1 → ok = true) :
      ObjectsAfter objects (.init ref portError created)
        (Function.update objects ref (some { p with inited := p.inited || ok }))
  /-- `Start`, which succeeds on the objects that drive nothing. -/
  | start {ref : Nat} {p : PollingThread} {ok : Bool} (hp : objects ref = some p)
      (hok : p.instanceId ≠ 1 → ok = true) :
      ObjectsAfter objects (.start ref)
        (Function.update objects ref (some { p with started := p.started || ok }))
  /-- `Shutdown`. -/
  | shutdown {ref : Nat} {p p' : PollingThread} (hp : objects ref = some p) (hdown : p'.down = true) :
      ObjectsAfter objects (.shutdown ref) (Function.update objects ref (some p'))
  /-- An object goes. -/
  | destroy {ref : Nat} {p : PollingThread} (hp : objects ref = some p) :
      ObjectsAfter objects (.destroy ref) (Function.update objects ref none)

/-- **One step** keeps the invariant. -/
theorem SharedInv.exec {s s' : SharedState} {a : PollingAction} (h : SharedInv s)
    (hstep : s.exec a = some s') : SharedInv s' ∧ ObjectsAfter s.objects a s'.objects := by
  cases a with
  | construct ref =>
      obtain ⟨hinv, hfree, p, hp, hobjects⟩ := h.construct hstep
      rw [hobjects]
      exact ⟨hinv, .construct hfree hp⟩
  | init ref portError created =>
      rw [SharedState.exec] at hstep
      obtain ⟨p, a, r, hp, hshared, hr, rfl⟩ := h.call_cases hstep
      cases hr
      refine ⟨h.call hp hshared (CallSpec.init p a.iocp portError created), .init hp ?_⟩
      intro hother
      rw [PollingThread.init, if_neg hother]
      rfl
  | start ref =>
      rw [SharedState.exec] at hstep
      obtain ⟨p, a, r, hp, hshared, hr, rfl⟩ := h.call_cases hstep
      obtain ⟨r, hstart, rfl⟩ := Option.map_eq_some_iff.mp hr
      refine ⟨h.call hp hshared (CallSpec.start hstart), .start hp ?_⟩
      intro hother
      rw [PollingThread.start, if_neg hother] at hstart
      cases hstart
      rfl
  | shutdown ref =>
      obtain ⟨hinv, p, p', hp, hdown, hobjects⟩ := h.shutdown hstep
      rw [hobjects]
      exact ⟨hinv, .shutdown hp hdown⟩
  | destroy ref =>
      obtain ⟨hinv, p, hp, hobjects⟩ := h.destroy hstep
      rw [hobjects]
      exact ⟨hinv, .destroy hp⟩

end RaptorLite.Windows
