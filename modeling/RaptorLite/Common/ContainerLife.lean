import RaptorLite.Common.ContainerFrames

/-! # The life of a container

All that can happen to a container (`common/container_impl.cc`): the calls of the application and of the
pollers, the parts of a handler that run late, and `ContainerImpl::Shutdown`, which gives up the whole slot
table. What the sections under `_conn_mtx` do to the table is said once, as `TableStep`; the slot-table
invariant and the bounds on the size of the table follow for every run. Indices are `uint32_t` values, so the
invariant is stated for tables of at most `2 ^ 32` slots. -/

namespace RaptorLite

/-! ### Shutting down -/

namespace ContainerState

/-- `obj.first->Shutdown(false)` and the reset behind it, which lets the last reference go. -/
def dismiss (opt : ContainerOption) (s : ContainerState) (con : Nat) : ContainerState :=
  (s.shutdownConnection opt con false {}).destroyConnection opt con

/-- The section of `ContainerImpl::Shutdown` under `_conn_mtx`. -/
def clear (opt : ContainerOption) (s : ContainerState) : ContainerState :=
  let s' := (s.slots.table.mgr.filterMap Prod.fst).foldl (dismiss opt) s
  { s' with slots := { s.slots with table := ⟨[], .empty, []⟩ } }

end ContainerState

/-- A container and its `_shutdown` flag. -/
structure LifeState where
  /-- The container. -/
  container : ContainerState
  /-- `_shutdown`. -/
  isShutdown : Bool

/-- The steps. -/
inductive LifeAction where
  /-- A call on the container. -/
  | call (a : ContainerAction)
  /-- `Connection::Shutdown` inside a handler, or in the destructor. -/
  | shutdownConnection (con : Nat) (notify : Bool) (ev : Event)
  /-- `DeleteConnection` inside a handler. -/
  | deleteConnection (index : UInt32)
  /-- `RefreshTime` inside a handler. -/
  | refreshTime (index : UInt32) (now : Int)
  /-- `OnTimerEvent` queues a heartbeat. -/
  | onTimerEvent (ep : Nat)
  /-- `ContainerImpl::Shutdown`, which does nothing the second time. -/
  | shutdown

/-- One step. -/
def LifeState.exec (opt : ContainerOption) (magicNumber : UInt16) (s : LifeState) :
    LifeAction → Option LifeState
  | .call a => (s.container.exec opt magicNumber a).map fun c => { s with container := c }
  | .shutdownConnection con notify ev =>
      some { s with container := s.container.shutdownConnection opt con notify ev }
  | .deleteConnection index =>
      (s.container.deleteConnection index.toNat).map fun c => { s with container := c }
  | .refreshTime index now =>
      (s.container.refreshTime opt index.toNat now).map fun c => { s with container := c }
  | .onTimerEvent ep =>
      some { s with
        container := { s.container with queue := s.container.queue ++ [.heartbeatEvent ep] } }
  | .shutdown =>
      some (if s.isShutdown then s else { container := s.container.clear opt, isShutdown := true })

/-- The container behind `Init`. -/
def lifeMachine (opt : ContainerOption) (magicNumber : UInt16) (sockets : Nat → UInt64 × UInt16)
    (start : Int) : Machine LifeState LifeAction where
  init := { container := .start opt sockets start, isShutdown := false }
  step s a := s.exec opt magicNumber a

/-! ### What happens to the table -/

/-- What the sections under `_conn_mtx`, other than that of `Shutdown`, do to the slot table. -/
structure TableStep (opt : ContainerOption) (t t' : SlotTable Nat) : Prop where
  /-- The table does not shrink. -/
  grows : t.mgr.length ≤ t'.mgr.length
  /-- It grows to the configured maximum at most. -/
  bound : t'.mgr.length = t.mgr.length ∨ t'.mgr.length ≤ opt.maxContainerSize
  /-- A table without slots gets none: there is nothing to double. -/
  empty : t.mgr = [] → t'.mgr = []
  /-- While the indices fit, the invariant is kept. -/
  inv : t.Inv → t'.mgr.length ≤ 2 ^ 32 → t'.Inv

namespace TableStep

variable {opt : ContainerOption} {t t' : SlotTable Nat}

/-- Doing nothing is a step of the table. -/
theorem refl (opt : ContainerOption) (t : SlotTable Nat) : TableStep opt t t :=
  ⟨Nat.le_refl _, Or.inl rfl, id, fun h _ => h⟩

/-- Steps of the table compose. -/
theorem trans {t₁ t₂ t₃ : SlotTable Nat} (h : TableStep opt t₁ t₂) (h' : TableStep opt t₂ t₃) :
    TableStep opt t₁ t₃ where
  grows := Nat.le_trans h.grows h'.grows
  bound := by
    have h₁ := h.bound
    have h₂ := h'.bound
    omega
  empty h₀ := h'.empty (h.empty h₀)
  inv hinv hfit := h'.inv (h.inv hinv (Nat.le_trans h'.grows hfit)) hfit

/-- A section that keeps the size and the invariant. -/
theorem of_length_eq (hlen : t'.mgr.length = t.mgr.length) (hinv : t.Inv → t'.Inv) :
    TableStep opt t t' :=
  ⟨Nat.le_of_eq hlen.symm, Or.inl hlen, fun h => List.length_eq_zero_iff.mp (by rw [hlen, h]; rfl),
    fun h _ => hinv h⟩

/-- A successful attach is a step of the table. -/
theorem attach {con index : Nat} {deadline : Int} (h : t.attach opt con deadline = .ok (some index, t')) :
    TableStep opt t t' := by
  obtain ⟨t₁, rest, ht₁, -, hindex, ht'⟩ := SlotTable.attach_some h
  have hlen : t'.mgr.length = t₁.mgr.length := by rw [ht', List.length_set]
  refine ⟨(SlotTable.attach_ok h).1, ?_, ?_, fun hinv hfit => hinv.of_attach h hfit⟩
  · rw [hlen]
    rcases ht₁ with ⟨rfl, -⟩ | ⟨rfl, -, hlt⟩
    · exact Or.inl rfl
    · rw [SlotTable.length_expand hlt]
      exact Or.inr (SlotTable.expandSize_le opt _)
  · -- the slot that was taken would have to exist
    intro hempty
    rcases ht₁ with ⟨rfl, -⟩ | ⟨rfl, -, hlt⟩
    · rw [hempty] at hindex
      cases hindex
    · rw [SlotTable.length_expand hlt, hempty, List.length_nil, SlotTable.expandSize_zero] at hindex
      cases hindex

/-- The timeout sweep is a step of the table. -/
theorem timeoutSweep {now : Int} {cs : List Nat} (h : t.timeoutSweep now = .ok (t', cs)) :
    TableStep opt t t' :=
  of_length_eq (SlotTable.connection_timeoutSweep h).1 fun hinv => hinv.of_timeoutSweep h

end TableStep

namespace ContainerState

variable {opt : ContainerOption} {magicNumber : UInt16} {s s' : ContainerState} {index con : Nat}

/-- `DeleteConnection` is a step of the table. -/
theorem tableStep_deleteConnection (h : s.deleteConnection index = some s') :
    TableStep opt s.slots.table s'.slots.table := by
  obtain ⟨t, ht, rfl⟩ := Option.map_eq_some_iff.mp h
  have hok : s.slots.table.deleteConnection index = .ok t := eq_ok_of_toOption ht
  exact .of_length_eq (SlotTable.connection_deleteConnection hok).1 fun hinv => hinv.of_deleteConnection hok

/-- `RefreshTime` is a step of the table. -/
theorem tableStep_refreshTime {now : Int} (h : s.refreshTime opt index now = some s') :
    TableStep opt s.slots.table s'.slots.table := by
  obtain ⟨t, ht, rfl⟩ := Option.map_eq_some_iff.mp h
  have hok := eq_ok_of_toOption ht
  exact .of_length_eq (SlotTable.connection_refreshTime hok).1 fun hinv => hinv.of_refreshTime hok

/-- Any sequence of accesses to one slot is a step of the table. -/
theorem SlotSteps.tableStep (h : SlotSteps opt index con s s') :
    TableStep opt s.slots.table s'.slots.table := by
  induction h with
  | refl s => exact .refl opt _
  | update c queue calls hendpoint hhandle hqueue => exact .refl opt _
  | shutdownConnection notify ev => exact .refl opt _
  | deleteConnection h => exact tableStep_deleteConnection h
  | refreshTime now h => exact tableStep_refreshTime h
  | trans _ _ ih ih' => exact ih.trans ih'

/-- Every call is a step of the table. -/
theorem tableStep_exec {a : ContainerAction} (h : s.exec opt magicNumber a = some s') :
    TableStep opt s.slots.table s'.slots.table := by
  cases hid : a.carriedId s with
  | some cid =>
      rcases runsOnSlot_exec hid h with rfl | ⟨con, -, hsteps⟩
      · exact .refl opt _
      · exact hsteps.tableStep
  | none =>
      cases a with
      | attachEndpoint ep notify now =>
          rcases attachEndpoint_cases h with ⟨rfl, -⟩ | ⟨index, hattach⟩
          · exact .refl opt _
          · exact .attach hattach.table
      | onTimeoutCheck now =>
          simp only [exec, onTimeoutCheck] at h
          split at h
          · rw [← Option.some.inj h]
            exact .refl opt _
          · obtain ⟨⟨t, cons⟩, hsweep, rfl⟩ := Option.map_eq_some_iff.mp h
            rw [slots_foldl_shutdown]
            exact .timeoutSweep (eq_ok_of_toOption hsweep)
      | sendMsg cid slice => cases hid
      | closeEndpoint ep eventNotify => cases hid
      | onEventProcess detail input => cases hid
      | endpointSendMsg ep slice =>
          rw [endpointSendMsg_detached hid h]
          exact .refl opt _
      | endpointClose ep notify =>
          rw [endpointClose_detached hid h]
          exact .refl opt _

end ContainerState

/-! ### Runs -/

namespace LifeState

variable {opt : ContainerOption} {magicNumber : UInt16} {s s' : LifeState}

/-- A step is one of the table, or the table is given up. -/
theorem exec_table {a : LifeAction} (h : s.exec opt magicNumber a = some s') :
    TableStep opt s.container.slots.table s'.container.slots.table ∧ s'.isShutdown = s.isShutdown ∨
      s'.isShutdown = true ∧ s'.container.slots.table = ⟨[], .empty, []⟩ := by
  cases a with
  | call a =>
      obtain ⟨c, hc, rfl⟩ := Option.map_eq_some_iff.mp h
      exact Or.inl ⟨ContainerState.tableStep_exec hc, rfl⟩
  | shutdownConnection con notify ev =>
      cases h
      exact Or.inl ⟨.refl opt _, rfl⟩
  | deleteConnection index =>
      obtain ⟨c, hc, rfl⟩ := Option.map_eq_some_iff.mp h
      exact Or.inl ⟨ContainerState.tableStep_deleteConnection hc, rfl⟩
  | refreshTime index now =>
      obtain ⟨c, hc, rfl⟩ := Option.map_eq_some_iff.mp h
      exact Or.inl ⟨ContainerState.tableStep_refreshTime hc, rfl⟩
  | onTimerEvent ep =>
      cases h
      exact Or.inl ⟨.refl opt _, rfl⟩
  | shutdown =>
      cases h
      split
      · exact Or.inl ⟨.refl opt _, rfl⟩
      · exact Or.inr ⟨rfl, rfl⟩

end LifeState

/-- **The slot-table invariant holds for life**: in every reachable state, also behind `Shutdown`, whose
table has at most `2 ^ 32` slots. -/
theorem lifeMachine_inv {opt : ContainerOption} {magicNumber : UInt16} {sockets : Nat → UInt64 × UInt16}
    {start : Int} {s : LifeState} (hs : (lifeMachine opt magicNumber sockets start).Reachable s)
    (hfit : s.container.slots.table.mgr.length ≤ 2 ^ 32) : s.container.slots.table.Inv := by
  revert hfit
  apply hs.invariant fun s => s.container.slots.table.mgr.length ≤ 2 ^ 32 → s.container.slots.table.Inv
  · intro hfit
    apply SlotTable.inv_init
    simpa [lifeMachine, ContainerState.start, SlotTable.init] using hfit
  · intro s a s' _ _ ih hstep hfit
    rcases LifeState.exec_table hstep with ⟨htable, -⟩ | ⟨-, hcleared⟩
    · exact htable.inv (ih (Nat.le_trans htable.grows hfit)) hfit
    · rw [hcleared]
      exact SlotTable.inv_cleared

end RaptorLite
