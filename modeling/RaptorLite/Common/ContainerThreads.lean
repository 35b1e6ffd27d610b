import Mathlib.Data.Fintype.Basic
import RaptorLite.Common.Container
import RaptorLite.Common.SlotTableRuns

/-! # Container calls as interleaved steps

The same `ContainerImpl` as in `Container`, at the grain of its lock: a call of `SendMsg`,
`CloseEndpoint`, `OnErrorEvent`, `OnRecvEvent`, `OnSendEvent` or `OnTimer` takes `_conn_mtx` once in
`GetConnection` and again in `RefreshTime` or `DeleteConnection`, and works on the connection without
it in between, so other threads run there. `AttachEndpoint`, `OnTimeoutCheck` and the section of
`Shutdown` that clears the table hold the lock throughout and are single steps. -/

namespace RaptorLite

/-! ### Threads -/

/-- The calls that look a slot up. -/
inductive CallKind where
  /-- `ContainerImpl::SendMsg`. -/
  | sendMsg
  /-- `ContainerImpl::CloseEndpoint`. -/
  | closeEndpoint
  /-- `ContainerImpl::OnErrorEvent`. -/
  | onErrorEvent
  /-- `ContainerImpl::OnRecvEvent`. -/
  | onRecvEvent
  /-- `ContainerImpl::OnSendEvent`. -/
  | onSendEvent
  /-- `ContainerImpl::OnTimer`. -/
  | onTimer
  deriving DecidableEq, Repr

/-- The call is made by one of the threads that `Shutdown` joins before it clears the table. -/
def CallKind.joined : CallKind → Bool
  | .sendMsg => false
  | .closeEndpoint => false
  | _ => true

/-- The call can end in `DeleteConnection`. -/
def CallKind.mayDelete : CallKind → Bool
  | .sendMsg => false
  | .onTimer => false
  | _ => true

/-- Where a call stands. -/
inductive Stage where
  /-- About to run `GetConnection`. -/
  | lookup
  /-- Holds the connection and is about to use it: `SendMsg`, `DoRecvEvent`, `DoSendEvent` or the
  timer's message. -/
  | use (con : Nat)
  /-- About to run `Connection::Shutdown` on the connection. -/
  | shutdown (con : Nat)
  /-- About to run `RefreshTime`. -/
  | refresh
  /-- About to run `DeleteConnection`; the connection was shut down. -/
  | delete (con : Nat)
  deriving DecidableEq, Repr

/-- A call in progress. -/
structure Activation where
  /-- Which call. -/
  kind : CallKind
  /-- The slot index it works with. -/
  index : Nat
  /-- Where it stands. -/
  stage : Stage
  deriving DecidableEq, Repr

namespace Activation

/-- The connection that the call obtained from `GetConnection` and may still remove. -/
def target (act : Activation) : Option Nat :=
  match act.stage with
  | .lookup => none
  | .use con => if act.kind.mayDelete then some con else none
  | .shutdown con => some con
  | .refresh => none
  | .delete con => some con

/-- The next step of the call indexes `_mgr`. -/
def Indexes (act : Activation) : Prop :=
  act.stage = .lookup ∨ act.stage = .refresh ∨ ∃ con, act.stage = .delete con

/-- The call will index `_mgr` again. -/
def mayIndex (act : Activation) : Bool :=
  match act.stage with
  | .use _ => act.kind.mayDelete
  | _ => true

/-- The stage behind a `GetConnection` that found a connection. -/
def found (kind : CallKind) (con : Nat) : Stage :=
  match kind with
  | .closeEndpoint => .shutdown con
  | .onErrorEvent => .shutdown con
  | _ => .use con

end Activation

/-- A container and the `n` threads that call into it. -/
structure ThreadsState (n : Nat) where
  /-- The slot table, holding references to connections. -/
  slots : SlotState Nat
  /-- What each thread is doing. -/
  pcs : Fin n → Option Activation
  /-- The reference of the next connection. -/
  nextConnection : Nat
  /-- The indices that were given to `SetTimer`. -/
  timers : List Nat
  /-- The connection ids that were given to endpoints, the latest first. -/
  issued : List UInt64
  /-- `Shutdown` has joined the poll and timer threads. -/
  stopped : Bool
  /-- The connections on which `Connection::Shutdown` was run for an error, a close or a timeout of
  their own, or by the container's `Shutdown`. -/
  shut : List Nat

/-- The connection in a slot. -/
def ThreadsState.occupant {n : Nat} (s : ThreadsState n) (index : Nat) : Option Nat :=
  s.slots.table.connection index

/-- The steps. -/
inductive ThreadsAction (n : Nat) where
  /-- A thread enters a call with a connection id: `CheckConnectionId`. -/
  | call (t : Fin n) (kind : CallKind) (cid : UInt64)
  /-- The timer thread enters `OnTimer`. -/
  | timer (t : Fin n) (index : Nat)
  /-- `GetConnection`. -/
  | getConnection (t : Fin n)
  /-- The call uses its connection; `ok` says whether `DoRecvEvent` or `DoSendEvent` succeeds. -/
  | use (t : Fin n) (ok : Bool)
  /-- `Connection::Shutdown`. -/
  | shutdownConnection (t : Fin n)
  /-- `RefreshTime`. -/
  | refreshTime (t : Fin n) (now : Int)
  /-- `DeleteConnection`. -/
  | deleteConnection (t : Fin n)
  /-- `AttachEndpointImpl`, for an endpoint with this listening port. -/
  | attach (listenPort : UInt16) (now : Int)
  /-- `OnTimeoutCheck`. -/
  | onTimeoutCheck (now : Int)
  /-- The section of `Shutdown` that clears the table. -/
  | shutdown

namespace ThreadsState

variable {n : Nat}

/-- Thread `t` goes on with `act`, or is done. -/
def setPc (s : ThreadsState n) (t : Fin n) (act : Option Activation) : ThreadsState n :=
  { s with pcs := Function.update s.pcs t act }

/-- The table after a locked section. -/
def setTable (s : ThreadsState n) (t : SlotTable Nat) : ThreadsState n :=
  { s with slots := { s.slots with table := t } }

/-- Moving one thread leaves the others where they are. -/
theorem pcs_setPc (s : ThreadsState n) (t u : Fin n) (act : Option Activation) :
    (s.setPc t act).pcs u = if u = t then act else s.pcs u :=
  Function.update_apply s.pcs t act u

/-- One step; a slot access out of bounds, like any other fault, is a stuck step. -/
def exec (opt : ContainerOption) (magicNumber : UInt16) (s : ThreadsState n) :
    ThreadsAction n → Option (ThreadsState n)
  | .call t kind cid =>
      if s.pcs t = none ∧ kind ≠ .onTimer ∧ ¬ (s.stopped ∧ kind.joined) then
        match checkConnectionId opt magicNumber cid with
        | none => some s
        | some index => some (s.setPc t (some ⟨kind, index.toNat, .lookup⟩))
      else none
  | .timer t index =>
      if s.pcs t = none ∧ index ∈ s.timers ∧ s.stopped = false then
        some (s.setPc t (some ⟨.onTimer, index, .lookup⟩))
      else none
  | .getConnection t =>
      match s.pcs t with
      | some ⟨kind, index, .lookup⟩ =>
          (s.slots.table.getConnection index).toOption.map fun
            | none => s.setPc t none
            | some con => s.setPc t (some ⟨kind, index, Activation.found kind con⟩)
      | _ => none
  | .use t ok =>
      match s.pcs t with
      | some ⟨kind, index, .use con⟩ =>
          if kind.mayDelete then
            some (s.setPc t (some ⟨kind, index, if ok then .refresh else .shutdown con⟩))
          else some (s.setPc t none)
      | _ => none
  | .shutdownConnection t =>
      match s.pcs t with
      | some ⟨kind, index, .shutdown con⟩ =>
          some { s.setPc t (some ⟨kind, index, .delete con⟩) with shut := con :: s.shut }
      | _ => none
  | .refreshTime t now =>
      match s.pcs t with
      | some ⟨_, index, .refresh⟩ =>
          (s.slots.table.refreshTime index (deadlineLine opt now)).toOption.map fun table =>
            (s.setTable table).setPc t none
      | _ => none
  | .deleteConnection t =>
      match s.pcs t with
      | some ⟨_, index, .delete _⟩ =>
          (s.slots.table.deleteConnection index).toOption.map fun table =>
            (s.setTable table).setPc t none
      | _ => none
  | .attach listenPort now =>
      (s.slots.table.attach opt s.nextConnection (deadlineLine opt now)).toOption.map fun
        | (none, _) => s
        | (some index, table) =>
            { s.setTable table with
              nextConnection := s.nextConnection + 1
              timers := if opt.heartbeatInterval.any (0 < ·) then index :: s.timers else s.timers
              issued := buildConnectionId magicNumber listenPort (UInt32.ofNat index) :: s.issued }
  | .onTimeoutCheck now =>
      if s.stopped then none
      else if now - s.slots.lastCheckTime < 3000 then some s
      else
        (s.slots.table.timeoutSweep now).toOption.map fun (table, cons) =>
          { s with slots := { table := table, lastCheckTime := now }, shut := cons ++ s.shut }
  | .shutdown =>
      -- the poll, timer and queue threads have been joined
      if s.stopped = false ∧ ∀ t, ∀ act ∈ s.pcs t, act.kind.joined = false then
        some { s.setTable ⟨[], .empty, []⟩ with
               stopped := true, shut := s.slots.table.mgr.filterMap Prod.fst ++ s.shut }
      else none

end ThreadsState

/-- A container after `Init` with `n` threads outside of any call. -/
def threadsMachine (opt : ContainerOption) (magicNumber : UInt16) (n : Nat) (start : Int) :
    Machine (ThreadsState n) (ThreadsAction n) where
  init :=
    { slots := { table := .init opt, lastCheckTime := start }
      pcs := fun _ => none
      nextConnection := 0
      timers := []
      issued := []
      stopped := false
      shut := [] }
  step s a := s.exec opt magicNumber a

/-! ### What a step can do -/

namespace ThreadsState

variable {n : Nat} {opt : ContainerOption} {magicNumber : UInt16}

/-- The forms a step can take, with what it found. -/
inductive StepForm (opt : ContainerOption) (magicNumber : UInt16) (s : ThreadsState n) :
    ThreadsAction n → ThreadsState n → Prop
  /-- The id was rejected, the limit was reached or the check was throttled. -/
  | stay (a : ThreadsAction n) : StepForm opt magicNumber s a s
  | enter (t : Fin n) (kind : CallKind) (cid : UInt64) (index : UInt32)
      (hcheck : checkConnectionId opt magicNumber cid = some index) :
      StepForm opt magicNumber s (.call t kind cid)
        (s.setPc t (some ⟨kind, index.toNat, .lookup⟩))
  | enterTimer (t : Fin n) (index : Nat) (htimer : index ∈ s.timers) (hrun : s.stopped = false) :
      StepForm opt magicNumber s (.timer t index) (s.setPc t (some ⟨.onTimer, index, .lookup⟩))
  | missed (t : Fin n) : StepForm opt magicNumber s (.getConnection t) (s.setPc t none)
  | found (t : Fin n) (kind : CallKind) (index con : Nat)
      (hpc : s.pcs t = some ⟨kind, index, .lookup⟩) (hcon : s.occupant index = some con) :
      StepForm opt magicNumber s (.getConnection t)
        (s.setPc t (some ⟨kind, index, Activation.found kind con⟩))
  | useDone (t : Fin n) (ok : Bool) : StepForm opt magicNumber s (.use t ok) (s.setPc t none)
  | used (t : Fin n) (ok : Bool) (kind : CallKind) (index con : Nat)
      (hpc : s.pcs t = some ⟨kind, index, .use con⟩) (hkind : kind.mayDelete = true) :
      StepForm opt magicNumber s (.use t ok)
        (s.setPc t (some ⟨kind, index, if ok then .refresh else .shutdown con⟩))
  | shutConnection (t : Fin n) (kind : CallKind) (index con : Nat)
      (hpc : s.pcs t = some ⟨kind, index, .shutdown con⟩) :
      StepForm opt magicNumber s (.shutdownConnection t)
        { s.setPc t (some ⟨kind, index, .delete con⟩) with shut := con :: s.shut }
  | refreshed (t : Fin n) (now : Int) (index : Nat) (table : SlotTable Nat)
      (htable : s.slots.table.refreshTime index (deadlineLine opt now) = .ok table) :
      StepForm opt magicNumber s (.refreshTime t now) ((s.setTable table).setPc t none)
  | deleted (t : Fin n) (kind : CallKind) (index con : Nat) (table : SlotTable Nat)
      (hpc : s.pcs t = some ⟨kind, index, .delete con⟩)
      (htable : s.slots.table.deleteConnection index = .ok table) :
      StepForm opt magicNumber s (.deleteConnection t) ((s.setTable table).setPc t none)
  | attached (listenPort : UInt16) (now : Int) (index : Nat) (table : SlotTable Nat) (timers : List Nat)
      (htable : s.slots.table.attach opt s.nextConnection (deadlineLine opt now)
        = .ok (some index, table)) (htimers : timers = s.timers ∨ timers = index :: s.timers) :
      StepForm opt magicNumber s (.attach listenPort now)
        { s.setTable table with
          nextConnection := s.nextConnection + 1
          timers := timers
          issued := buildConnectionId magicNumber listenPort (UInt32.ofNat index) :: s.issued }
  | swept (now : Int) (table : SlotTable Nat) (cons : List Nat)
      (htable : s.slots.table.timeoutSweep now = .ok (table, cons)) :
      StepForm opt magicNumber s (.onTimeoutCheck now)
        { s with slots := { table := table, lastCheckTime := now }, shut := cons ++ s.shut }
  | cleared : StepForm opt magicNumber s .shutdown
        { s.setTable ⟨[], .empty, []⟩ with
          stopped := true, shut := s.slots.table.mgr.filterMap Prod.fst ++ s.shut }

/-- Every step has one of the forms of `StepForm`. -/
theorem stepForm_of_exec {s s' : ThreadsState n} {a : ThreadsAction n}
    (h : s.exec opt magicNumber a = some s') : StepForm opt magicNumber s a s' := by
  cases a with
  | call t kind cid =>
      simp only [exec] at h
      split at h
      · split at h
        · cases h; exact .stay _
        · next hcheck => cases h; exact .enter t kind cid _ hcheck
      · cases h
  | timer t index =>
      simp only [exec] at h
      split at h
      · next hguard => cases h; exact .enterTimer t index hguard.2.1 hguard.2.2
      · cases h
  | getConnection t =>
      simp only [exec] at h
      split at h
      · next kind index hpc =>
        obtain ⟨o, ho, rfl⟩ := Option.map_eq_some_iff.mp h
        cases o with
        | none => exact .missed t
        | some con =>
            have hcon := SlotTable.getConnection_eq_ok (eq_ok_of_toOption ho)
            exact .found t kind index con hpc hcon
      · cases h
  | use t ok =>
      simp only [exec] at h
      split at h
      · next kind index con hpc =>
        split at h
        · next hkind => cases h; exact .used t ok kind index con hpc hkind
        · cases h; exact .useDone t ok
      · cases h
  | shutdownConnection t =>
      simp only [exec] at h
      split at h
      · next kind index con hpc => cases h; exact .shutConnection t kind index con hpc
      · cases h
  | refreshTime t now =>
      simp only [exec] at h
      split at h
      · obtain ⟨table, htable, rfl⟩ := Option.map_eq_some_iff.mp h
        exact .refreshed t now _ table (eq_ok_of_toOption htable)
      · cases h
  | deleteConnection t =>
      simp only [exec] at h
      split at h
      · next kind index con hpc =>
        obtain ⟨table, htable, rfl⟩ := Option.map_eq_some_iff.mp h
        exact .deleted t kind index con table hpc (eq_ok_of_toOption htable)
      · cases h
  | attach listenPort now =>
      simp only [exec] at h
      obtain ⟨⟨taken, table⟩, htable, rfl⟩ := Option.map_eq_some_iff.mp h
      cases taken with
      | none => exact .stay _
      | some index =>
          refine .attached listenPort now index table _ (eq_ok_of_toOption htable) ?_
          split
          · exact Or.inr rfl
          · exact Or.inl rfl
  | onTimeoutCheck now =>
      simp only [exec] at h
      split at h
      · cases h
      · split at h
        · cases h; exact .stay _
        · obtain ⟨⟨table, cons⟩, htable, rfl⟩ := Option.map_eq_some_iff.mp h
          exact .swept now table cons (eq_ok_of_toOption htable)
  | shutdown =>
      simp only [exec] at h
      split at h
      · cases h; exact .cleared
      · cases h

end ThreadsState

end RaptorLite
