import Mathlib.Data.Fintype.Basic
import RaptorLite.Common.ContainerThreads

/-! # Slot accesses in bounds

Is every slot index in bounds when a call uses it? Not in all runs: an id that was not issued passes
`CheckConnectionId`, and `Shutdown` clears the table under the calls in progress. There is a condition on single
steps, on what the callers pass and when, under which it holds in all states that are reached. -/

namespace RaptorLite

namespace ThreadsState

variable {n : Nat} {opt : ContainerOption} {magicNumber : UInt16}

/-- Every index that a call in progress will still use is below the size of the table. -/
def CallsInBounds (s : ThreadsState n) : Prop :=
  ∀ t act, s.pcs t = some act → act.mayIndex = true → act.index < s.slots.table.mgr.length

/-- Until the table is cleared it only grows: it has the slots of `Init`, those of the timers that were set
and those of the ids that were issued. -/
structure Covers (opt : ContainerOption) (s : ThreadsState n) : Prop where
  /-- The slots of `Init`. -/
  default : s.stopped = false → opt.defaultContainerSize ≤ s.slots.table.mgr.length
  /-- The timers. -/
  timers : s.stopped = false → ∀ i ∈ s.timers, i < s.slots.table.mgr.length
  /-- The ids. -/
  issued : s.stopped = false → ∀ cid ∈ s.issued, (getUserId cid).toNat < s.slots.table.mgr.length

/-- A step that issues nothing and does not make the table smaller. -/
theorem Covers.grow {s s' : ThreadsState n} (h : s.Covers opt) (htimers : s'.timers = s.timers)
    (hissued : s'.issued = s.issued) (hstopped : s'.stopped = s.stopped)
    (hlen : s.slots.table.mgr.length ≤ s'.slots.table.mgr.length) : s'.Covers opt where
  default hrun := Nat.le_trans (h.default (hstopped ▸ hrun)) hlen
  timers hrun i hi := Nat.lt_of_lt_of_le (h.timers (hstopped ▸ hrun) i (htimers ▸ hi)) hlen
  issued hrun cid hcid := Nat.lt_of_lt_of_le (h.issued (hstopped ▸ hrun) cid (hissued ▸ hcid)) hlen

/-- An id that is issued names the slot that was taken. -/
theorem Covers.attach {s : ThreadsState n} (h : s.Covers opt) {deadline : Int} {index : Nat}
    {table : SlotTable Nat} {timers : List Nat} (listenPort : UInt16)
    (htable : s.slots.table.attach opt s.nextConnection deadline = .ok (some index, table))
    (htimers : timers = s.timers ∨ timers = index :: s.timers) :
    Covers opt { s.setTable table with
      nextConnection := s.nextConnection + 1
      timers := timers
      issued := buildConnectionId magicNumber listenPort (UInt32.ofNat index) :: s.issued } := by
  obtain ⟨hlen, hlt, -⟩ := SlotTable.attach_ok htable
  refine ⟨fun hrun => Nat.le_trans (h.default hrun) hlen, ?_, ?_⟩
  · intro hrun i hi
    change i ∈ timers at hi
    rcases htimers with rfl | rfl
    · exact Nat.lt_of_lt_of_le (h.timers hrun i hi) hlen
    · rcases List.mem_cons.mp hi with rfl | hi
      · exact hlt
      · exact Nat.lt_of_lt_of_le (h.timers hrun i hi) hlen
  · intro hrun cid hcid
    rcases List.mem_cons.mp hcid with rfl | hcid
    · rw [getUserId_buildConnectionId, UInt32.toNat_ofNat']
      exact Nat.lt_of_le_of_lt (Nat.mod_le _ _) hlt
    · exact Nat.lt_of_lt_of_le (h.issued hrun cid hcid) hlen

/-- Every step keeps the slots of the ids that were issued, until the table is cleared. -/
theorem Covers.exec {s s' : ThreadsState n} {a : ThreadsAction n} (hinv : s.Covers opt)
    (h : s.exec opt magicNumber a = some s') : s'.Covers opt := by
  cases stepForm_of_exec h with
  | stay => exact hinv
  | enter => exact hinv.grow rfl rfl rfl (Nat.le_refl _)
  | enterTimer => exact hinv.grow rfl rfl rfl (Nat.le_refl _)
  | missed => exact hinv.grow rfl rfl rfl (Nat.le_refl _)
  | useDone => exact hinv.grow rfl rfl rfl (Nat.le_refl _)
  | found => exact hinv.grow rfl rfl rfl (Nat.le_refl _)
  | used => exact hinv.grow rfl rfl rfl (Nat.le_refl _)
  | shutConnection => exact hinv.grow rfl rfl rfl (Nat.le_refl _)
  | refreshed t now index table htable =>
      exact hinv.grow rfl rfl rfl (Nat.le_of_eq (SlotTable.connection_refreshTime htable).1.symm)
  | deleted t kind index con table hpc htable =>
      exact hinv.grow rfl rfl rfl (Nat.le_of_eq (SlotTable.connection_deleteConnection htable).1.symm)
  | attached listenPort now index table timers htable htimers => exact hinv.attach listenPort htable htimers
  | swept now table cons htable =>
      exact hinv.grow rfl rfl rfl (Nat.le_of_eq (SlotTable.connection_timeoutSweep htable).1.symm)
  | cleared =>
      refine ⟨?_, ?_, ?_⟩ <;>
        · intro hrun
          cases hrun

/-- A thread goes on with a call whose index is in bounds, and the table has not shrunk. -/
theorem CallsInBounds.setPc {s s' : ThreadsState n} (h : s.CallsInBounds) {t : Fin n}
    {act : Option Activation} (hpcs : s'.pcs = Function.update s.pcs t act)
    (hlen : s.slots.table.mgr.length ≤ s'.slots.table.mgr.length)
    (hact : ∀ a ∈ act, a.mayIndex = true → a.index < s.slots.table.mgr.length) : s'.CallsInBounds := by
  intro u a hu hmay
  rw [hpcs, Function.update_apply] at hu
  split at hu
  · exact Nat.lt_of_lt_of_le (hact a hu hmay) hlen
  · exact Nat.lt_of_lt_of_le (h u a hu hmay) hlen

/-- A call returns. -/
theorem CallsInBounds.leave {s : ThreadsState n} (h : s.CallsInBounds) (t : Fin n) :
    (s.setPc t none).CallsInBounds :=
  h.setPc rfl (Nat.le_refl _) nofun

/-- A call goes on with the index it has. -/
theorem CallsInBounds.goOn {s s' : ThreadsState n} (h : s.CallsInBounds) {t : Fin n} {kind : CallKind}
    {index : Nat} {stage stage' : Stage} (hpc : s.pcs t = some ⟨kind, index, stage⟩)
    (hmay : Activation.mayIndex ⟨kind, index, stage⟩ = true)
    (hpcs : s'.pcs = Function.update s.pcs t (some ⟨kind, index, stage'⟩)) (hslots : s'.slots = s.slots) :
    s'.CallsInBounds := by
  refine h.setPc hpcs (by rw [hslots]) ?_
  intro a ha _
  cases ha
  have hlt := h t _ hpc hmay
  exact hlt

/-- The id names one of the slots of `Init`, or none above a slot for which an id was issued. -/
def Known (opt : ContainerOption) (s : ThreadsState n) (cid : UInt64) : Prop :=
  (getUserId cid).toNat < opt.defaultContainerSize ∨ ∃ cid' ∈ s.issued, getUserId cid ≤ getUserId cid'

/-- An id that was issued is known. -/
theorem known_of_issued {s : ThreadsState n} {cid : UInt64} (h : cid ∈ s.issued) : s.Known opt cid :=
  Or.inr ⟨cid, h, UInt32.le_refl _⟩

/-- The slot of a known id is there. -/
theorem Covers.index_lt {s : ThreadsState n} (h : s.Covers opt) (hrun : s.stopped = false) {cid : UInt64}
    (hcid : s.Known opt cid) : (getUserId cid).toNat < s.slots.table.mgr.length := by
  rcases hcid with hdefault | ⟨cid', hissued, hle⟩
  · exact Nat.lt_of_lt_of_le hdefault (h.default hrun)
  · exact Nat.lt_of_le_of_lt (UInt32.le_iff_toNat_le.mp hle) (h.issued hrun cid' hissued)

/-- The step condition for accesses in bounds, on what the callers do: an id that `CheckConnectionId` accepts
is known to the container and is given to it before the table is cleared, and the table is cleared when no
call in progress will index it again. -/
def CallsKnown (opt : ContainerOption) (magicNumber : UInt16) (s : ThreadsState n) : ThreadsAction n → Prop
  | .call _ _ cid => (checkConnectionId opt magicNumber cid).isSome → s.Known opt cid ∧ s.stopped = false
  | .shutdown => ∀ t, ∀ act ∈ s.pcs t, act.mayIndex = false
  | _ => True

/-- One step of a run whose callers keep to that. -/
theorem CallsInBounds.exec {s s' : ThreadsState n} {a : ThreadsAction n} (hinv : s.CallsInBounds)
    (hcovers : s.Covers opt) (hknown : s.CallsKnown opt magicNumber a)
    (h : s.exec opt magicNumber a = some s') : s'.CallsInBounds := by
  cases stepForm_of_exec h with
  | stay => exact hinv
  | enter t kind cid index hcheck =>
      refine hinv.setPc rfl (Nat.le_refl _) ?_
      intro a ha _
      cases ha
      obtain ⟨hcid, hrun⟩ := hknown (by rw [hcheck]; rfl)
      rw [eq_getUserId_of_check hcheck]
      exact hcovers.index_lt hrun hcid
  | enterTimer t index htimer hrun =>
      refine hinv.setPc rfl (Nat.le_refl _) ?_
      intro a ha _
      cases ha
      exact hcovers.timers hrun index htimer
  | missed t => exact hinv.leave t
  | found t kind index con hpc hcon => exact hinv.goOn hpc rfl rfl rfl
  | useDone t ok => exact hinv.leave t
  | used t ok kind index con hpc hkind => exact hinv.goOn hpc hkind rfl rfl
  | shutConnection t kind index con hpc => exact hinv.goOn hpc rfl rfl rfl
  | refreshed t now index table htable =>
      refine hinv.setPc rfl ?_ fun a ha => by cases ha
      exact Nat.le_of_eq (SlotTable.connection_refreshTime htable).1.symm
  | deleted t kind index con table hpc htable =>
      refine hinv.setPc rfl ?_ fun a ha => by cases ha
      exact Nat.le_of_eq (SlotTable.connection_deleteConnection htable).1.symm
  | attached listenPort now index table timers htable htimers =>
      -- the table only grows
      obtain ⟨hlen, -⟩ := SlotTable.attach_ok htable
      exact fun t act hact hmay => Nat.lt_of_lt_of_le (hinv t act hact hmay) hlen
  | swept now table cons htable =>
      have hlen := (SlotTable.connection_timeoutSweep htable).1
      exact fun t act hact hmay => hlen.symm ▸ hinv t act hact hmay
  | cleared =>
      -- no call is left that may index the empty table
      intro t act hact hmay
      have hnot := hknown t act hact
      rw [hmay] at hnot
      cases hnot

end ThreadsState

/-- The slots of the ids that were issued are there, in every run, until the table is cleared. -/
theorem covers_of_reachable {opt : ContainerOption} {magicNumber : UInt16} {n : Nat} {start : Int}
    {s : ThreadsState n} (hs : (threadsMachine opt magicNumber n start).Reachable s) : s.Covers opt := by
  refine hs.invariant (ThreadsState.Covers opt) ⟨?_, ?_, ?_⟩ fun _ _ _ _ _ h hstep => h.exec hstep
  · exact fun _ => Nat.le_of_eq List.length_replicate.symm
  · intro _ i hi
    cases hi
  · intro _ cid hcid
    cases hcid

/-- **Slot accesses stay in bounds** in every run in which the callers give the container ids that are known to
it, the ones that it issued among them, no such call is made once `Shutdown` has cleared the table, and
none is in progress then: a call that is about to run `GetConnection`, `RefreshTime` or `DeleteConnection`
does so with an index below `_mgr.size()`. The ids issued stay known: until the table is cleared each of them
names a slot of it, also when it has grown. -/
theorem index_lt_of_callsKnown (opt : ContainerOption) (magicNumber : UInt16) (n : Nat) (start : Int)
    (s : ThreadsState n)
    (hs : (threadsMachine opt magicNumber n start).Reaches (ThreadsState.CallsKnown opt magicNumber) s) :
    (∀ t act, s.pcs t = some act → act.Indexes → act.index < s.slots.table.mgr.length) ∧
    (s.stopped = false → ∀ cid ∈ s.issued,
      s.Known opt cid ∧ (getUserId cid).toNat < s.slots.table.mgr.length) := by
  have hcovers := covers_of_reachable hs.reachable
  have hinv : s.CallsInBounds := by
    refine Machine.Reaches.invariant _ ?_ ?_ hs
    · exact fun _ _ h => (Option.some_ne_none _ h.symm).elim
    · exact fun _ _ _ hs hknown hinv hstep => hinv.exec (covers_of_reachable hs.reachable) hknown hstep
  refine ⟨fun t act hact hindexes => hinv t act hact ?_, ?_⟩
  · rcases hindexes with h | h | ⟨con, h⟩ <;> simp [Activation.mayIndex, h]
  · exact fun hrun cid hcid => ⟨ThreadsState.known_of_issued hcid, hcovers.issued hrun cid hcid⟩

/-- One slot, which becomes two. -/
def growingMachine : Machine (ThreadsState 2) (ThreadsAction 2) :=
  threadsMachine { defaultContainerSize := 1, maxContainerSize := 2 } 7 2 0

/-- Two endpoints are attached, for the second of which the table grows; one thread closes the first while
another sends on the id of the second. -/
theorem index_lt_of_callsKnown_grown :
    ∃ s : ThreadsState 2,
      growingMachine.run growingMachine.init
        [.attach 80 0, .attach 81 0, .call 0 .closeEndpoint (buildConnectionId 7 80 0), .getConnection 0,
          .shutdownConnection 0, .call 1 .sendMsg (buildConnectionId 7 81 1)] = some s ∧
      s.pcs 0 = some ⟨.closeEndpoint, 0, .delete 0⟩ ∧ s.pcs 1 = some ⟨.sendMsg, 1, .lookup⟩ ∧
      0 < s.slots.table.mgr.length ∧ 1 < s.slots.table.mgr.length := by
  obtain ⟨s, hrun, hpc₀, hpc₁⟩ : ∃ s : ThreadsState 2,
      growingMachine.run growingMachine.init
        [.attach 80 0, .attach 81 0, .call 0 .closeEndpoint (buildConnectionId 7 80 0), .getConnection 0,
          .shutdownConnection 0, .call 1 .sendMsg (buildConnectionId 7 81 1)] = some s ∧
      s.pcs 0 = some ⟨.closeEndpoint, 0, .delete 0⟩ ∧ s.pcs 1 = some ⟨.sendMsg, 1, .lookup⟩ :=
    ⟨_, rfl, rfl, rfl⟩
  have hreach : growingMachine.Reaches
      (ThreadsState.CallsKnown { defaultContainerSize := 1, maxContainerSize := 2 } 7) s := by
    refine Machine.Reaches.init.along hrun (.cons trivial fun s₁ h₁ => .cons trivial fun s₂ h₂ =>
      .cons ?_ fun s₃ h₃ => .cons trivial fun s₄ h₄ => .cons trivial fun s₅ h₅ => .cons ?_ fun _ _ => .nil)
    · cases h₁
      cases h₂
      exact fun _ => ⟨ThreadsState.known_of_issued (by decide), rfl⟩
    · cases h₁
      cases h₂
      cases h₃
      cases h₄
      cases h₅
      exact fun _ => ⟨ThreadsState.known_of_issued (by decide), rfl⟩
  obtain ⟨hbounds, -⟩ :=
    index_lt_of_callsKnown { defaultContainerSize := 1, maxContainerSize := 2 } 7 2 0 s hreach
  exact ⟨s, hrun, hpc₀, hpc₁, hbounds 0 _ hpc₀ (Or.inr (Or.inr ⟨0, rfl⟩)), hbounds 1 _ hpc₁ (Or.inl rfl)⟩

/-- With the default options, an id with user id 300 is accepted while the table has 256 slots; after
`Shutdown` the id of an endpoint that was attached is still accepted, while the table has none; and a call that
has its index when `Shutdown` clears the table is left with it. -/
theorem accepted_index_out_of_bounds :
    (∃ s : ThreadsState 1,
      (threadsMachine {} 7 1 0).run (threadsMachine {} 7 1 0).init
        [.call 0 .sendMsg (buildConnectionId 7 80 300)] = some s ∧
      s.pcs 0 = some ⟨.sendMsg, 300, .lookup⟩ ∧ s.slots.table.mgr.length = 256 ∧
      s.slots.table.getConnection 300 = .error .outOfRange) ∧
    (∃ s : ThreadsState 1,
      (threadsMachine { defaultContainerSize := 1 } 7 1 0).run
        (threadsMachine { defaultContainerSize := 1 } 7 1 0).init
        [.attach 80 0, .shutdown, .call 0 .sendMsg (buildConnectionId 7 80 0)] = some s ∧
      s.pcs 0 = some ⟨.sendMsg, 0, .lookup⟩ ∧ s.slots.table.mgr.length = 0 ∧
      s.slots.table.getConnection 0 = .error .outOfRange) ∧
    ∃ s : ThreadsState 1,
      (threadsMachine { defaultContainerSize := 1 } 7 1 0).run
        (threadsMachine { defaultContainerSize := 1 } 7 1 0).init
        [.attach 80 0, .call 0 .sendMsg (buildConnectionId 7 80 0), .shutdown] = some s ∧
      s.pcs 0 = some ⟨.sendMsg, 0, .lookup⟩ ∧ s.slots.table.mgr.length = 0 ∧
      s.slots.table.getConnection 0 = .error .outOfRange := by
  refine ⟨⟨_, rfl, rfl, ?_, rfl⟩, ⟨_, rfl, rfl, rfl, rfl⟩, ⟨_, rfl, rfl, rfl, rfl⟩⟩
  exact List.length_replicate

end RaptorLite
