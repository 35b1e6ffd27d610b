import Mathlib.Data.List.Count
import Mathlib.Data.List.Perm.Basic
import RaptorLite.Common.ContainerLife

/-! # Capacity and growth

When `ContainerImpl::AttachEndpointImpl` (`common/container_impl.cc`) may refuse an endpoint. The limit is
tested by the size of the vector of slots and only when no index is free, while `MaxContainerSize` limits the
connections that are live: the two agree as long as the table starts with a slot, starts within the limit and
has not been given up by `Shutdown`. Under the slot-table invariant every slot is either live or free, which
turns the test of the source into one about live connections. -/

namespace RaptorLite

variable {κ : Type}

namespace SlotTable

/-! ### Live and free slots -/

/-- The number of live connections. -/
def liveCount (t : SlotTable κ) : Nat := t.mgr.countP fun slot => slot.1.isSome

/-- The free list is as long as the empty slots are many. -/
theorem Inv.length_free {t : SlotTable κ} (hinv : t.Inv) :
    t.freeIndexList.length = t.mgr.countP fun slot => slot.1.isNone := by
  -- the empty slots by their indices
  have hperm : t.freeIndexList.Perm
      ((List.range t.mgr.length).filter fun i => (t.mgr[i]?.any fun slot => slot.1.isNone)) := by
    rw [List.perm_ext_iff_of_nodup hinv.free_nodup (List.nodup_range.filter _)]
    intro i
    rw [hinv.mem_free, List.mem_filter, List.mem_range]
    constructor
    · rintro ⟨it, hslot⟩
      exact ⟨(List.getElem?_eq_some_iff.mp hslot).1, by rw [hslot]; rfl⟩
    · rintro ⟨hi, hnone⟩
      rw [List.getElem?_eq_getElem hi] at hnone ⊢
      exact ⟨t.mgr[i].2, by rw [← Option.isNone_iff_eq_none.mp hnone]⟩
  have hmgr : t.mgr.map some = (List.range t.mgr.length).map fun i => t.mgr[i]? := by
    apply List.ext_getElem?
    intro i
    by_cases hi : i < t.mgr.length
    · simp [hi]
    · simp [hi]
  calc t.freeIndexList.length
      = (List.range t.mgr.length).countP fun i => (t.mgr[i]?.any fun slot => slot.1.isNone) := by
        rw [hperm.length_eq, List.countP_eq_length_filter]
    _ = (t.mgr.map some).countP fun slot => slot.any fun slot => slot.1.isNone := by
        rw [hmgr, List.countP_map]
        rfl
    _ = t.mgr.countP fun slot => slot.1.isNone := by
        rw [List.countP_map]
        rfl

/-- Every slot is live or free. -/
theorem Inv.liveCount_add {t : SlotTable κ} (hinv : t.Inv) :
    t.liveCount + t.freeIndexList.length = t.mgr.length := by
  rw [hinv.length_free, liveCount, List.length_eq_countP_add_countP fun slot => slot.1.isSome]
  congr 1
  apply List.countP_congr
  intro slot _
  simp

/-! ### The ends of an attach -/

/-- A table with a slot below the limit grows. -/
theorem lt_expandSize {opt : ContainerOption} {count : Nat} (hpos : 0 < count)
    (hlt : count < opt.maxContainerSize) : count < expandSize opt count := by
  unfold expandSize
  split <;> omega

/-- Growing puts the first new index in front. -/
theorem freeIndexList_expand {opt : ContainerOption} {t : SlotTable κ} (hfit : t.mgr.length < 2 ^ 32)
    (hfree : t.freeIndexList = []) (hpos : 0 < t.mgr.length) (hlt : t.mgr.length < opt.maxContainerSize) :
    ∃ rest, (t.expand opt).freeIndexList = t.mgr.length :: rest := by
  have hgrows := lt_expandSize hpos hlt
  obtain ⟨n, hn⟩ : ∃ n, expandSize opt t.mgr.length - t.mgr.length = n + 1 :=
    ⟨expandSize opt t.mgr.length - t.mgr.length - 1, by omega⟩
  refine ⟨(List.range' (t.mgr.length + 1) n).map castIndex, ?_⟩
  rw [expand]
  dsimp only
  rw [hfree, List.nil_append, hn, List.range'_succ, List.map_cons, castIndex, Nat.mod_eq_of_lt hfit]

/-- Twice nothing is nothing: growing a table without slots frees no index. -/
theorem freeIndexList_expand_nil {opt : ContainerOption} {t : SlotTable κ} (hfree : t.freeIndexList = [])
    (hzero : t.mgr.length = 0) : (t.expand opt).freeIndexList = [] := by
  rw [expand]
  dsimp only
  rw [hfree, hzero, expandSize_zero]
  rfl

/-- Where an attach ends: at the limit, with no slot to take, in the first free slot, or in the first new
one. -/
theorem Inv.attach_ends (opt : ContainerOption) {t : SlotTable κ} (hinv : t.Inv)
    (hfit : t.mgr.length < 2 ^ 32) (con : κ) (deadline : Int) :
    (t.freeIndexList = [] ∧ opt.maxContainerSize ≤ t.mgr.length ∧
        t.attach opt con deadline = .ok (none, t)) ∨
      (t.mgr = [] ∧ 0 < opt.maxContainerSize ∧ t.attach opt con deadline = .error .emptyFreeList) ∨
      ∃ index t', t.attach opt con deadline = .ok (some index, t') ∧ t.nextIndex opt = some index ∧
        (t.freeIndexList.head? = some index ∧ index < t.mgr.length ∨
          t.freeIndexList = [] ∧ index = t.mgr.length ∧ 0 < index ∧ index < opt.maxContainerSize) := by
  rcases attach_cases opt t con deadline with hlimit | ⟨t₁, ⟨rfl, hused⟩ | ⟨rfl, hfree, hlt⟩, hend⟩
  · exact Or.inl hlimit
  · -- a free index is that of a slot
    rcases hend with ⟨hnone, -⟩ | ⟨index, rest, hfirst, hend⟩
    · exact absurd hnone hused
    · have hindex := (hinv.occupy hfirst con deadline).1
      rcases hend with ⟨hge, -⟩ | ⟨-, hend⟩
      · exact absurd hindex hge
      · refine Or.inr (Or.inr ⟨index, _, hend, ?_, Or.inl ⟨by rw [hfirst]; rfl, hindex⟩⟩)
        rw [nextIndex, if_neg hused, hfirst]
        rfl
  · rcases Nat.eq_zero_or_pos t.mgr.length with hzero | hpos
    · rcases hend with ⟨-, hend⟩ | ⟨index, rest, hfirst, -⟩
      · exact Or.inr (Or.inl ⟨List.length_eq_zero_iff.mp hzero, by omega, hend⟩)
      · rw [freeIndexList_expand_nil hfree hzero] at hfirst
        cases hfirst
    · obtain ⟨rest', hnew⟩ := freeIndexList_expand hfit hfree hpos hlt
      rcases hend with ⟨hnone, -⟩ | ⟨index, rest, hfirst, hend⟩
      · rw [hnew] at hnone
        cases hnone
      · obtain ⟨rfl, rfl⟩ := List.cons.inj (hnew.symm.trans hfirst)
        rcases hend with ⟨hge, -⟩ | ⟨-, hend⟩
        · rw [length_expand hlt] at hge
          exact absurd (lt_expandSize hpos hlt) hge
        · refine Or.inr (Or.inr ⟨_, _, hend, ?_, Or.inr ⟨hfree, rfl, hpos, hlt⟩⟩)
          rw [nextIndex, if_pos hfree, hnew]
          rfl

end SlotTable

/-! ### One attach -/

/-- A small index is not the invalid one. -/
theorem ne_invalidIndex {index : Nat} (h : index < 2 ^ 32 - 1) : UInt32.ofNat index ≠ invalidIndex := by
  intro heq
  have hnat : (UInt32.ofNat index).toNat = 2 ^ 32 - 1 := congrArg UInt32.toNat heq
  rw [UInt32.toNat_ofNat_of_lt' (Nat.lt_trans h (by decide))] at hnat
  omega

/-- `CheckConnectionId` on an id of this container. -/
theorem checkConnectionId_buildConnectionId (opt : ContainerOption) (magicNumber listenPort : UInt16)
    {index : UInt32} (hindex : index ≠ invalidIndex) :
    checkConnectionId opt magicNumber (buildConnectionId magicNumber listenPort index) =
      if index.toNat < opt.maxContainerSize then some index else none := by
  -- the id that is never given out has all bits set
  have hvalid : buildConnectionId magicNumber listenPort index ≠ invalidConnectionId := by
    intro heq
    apply hindex
    rw [← getUserId_buildConnectionId magicNumber listenPort index, heq]
    rfl
  rw [checkConnectionId, if_neg hvalid, getMagicNumber_buildConnectionId, if_neg (fun h => h rfl),
    getUserId_buildConnectionId]
  by_cases hlt : index.toNat < opt.maxContainerSize
  · rw [if_neg (by simp [hindex, hlt]), if_pos hlt]
  · rw [if_pos (Or.inr (not_lt.mp hlt)), if_neg hlt]

namespace ContainerState

variable {opt : ContainerOption} {magicNumber : UInt16} {s : ContainerState}

/-- What attaching `ep` at `now` should do in the state `s`. -/
structure WithinCapacity (opt : ContainerOption) (magicNumber : UInt16) (s : ContainerState) (ep : Nat)
    (now : Int) : Prop where
  /-- At the limit the error is returned and nothing changes. -/
  refuses : opt.maxContainerSize ≤ s.slots.table.liveCount →
    ∃ err, s.attachEndpointImpl opt magicNumber ep now = some (some err, s)
  /-- Below it an index is taken from the free list and the endpoint gets its slot, with an id that the
  container accepts. -/
  stores : s.slots.table.liveCount < opt.maxContainerSize →
    ∃ (index : UInt32) (s' : ContainerState), s.slots.table.nextIndex opt = some index.toNat ∧
      s.attachEndpointImpl opt magicNumber ep now = some (none, s') ∧
      s'.occupant index.toNat = some s.nextConnection ∧
      (s'.connections s.nextConnection).endpoint = ep ∧
      checkConnectionId opt magicNumber (s'.endpoints ep).connectionId = some index

/-- An attach that takes a slot. -/
theorem attachEndpointImpl_some (magicNumber : UInt16) (ep : Nat) {index : Nat} {now : Int}
    {t : SlotTable Nat} (h : s.slots.table.attach opt s.nextConnection (deadlineLine opt now) = .ok (some index, t)) :
    ∃ s', s.attachEndpointImpl opt magicNumber ep now = some (none, s') ∧ s'.slots.table = t ∧
      (s'.connections s.nextConnection).endpoint = ep ∧
      (s'.endpoints ep).connectionId =
        buildConnectionId magicNumber (s.endpoints ep).listenPort (UInt32.ofNat index) := by
  unfold attachEndpointImpl
  rw [h]
  refine ⟨_, rfl, rfl, ?_, ?_⟩
  · dsimp only
    rw [Function.update_self]
    rfl
  · dsimp only
    rw [Function.update_self]

/-- An attach at the limit returns an error and leaves the state. -/
theorem attachEndpointImpl_limit {ep : Nat} {now : Int} {t : SlotTable Nat}
    (h : s.slots.table.attach opt s.nextConnection (deadlineLine opt now) = .ok (none, t)) :
    ∃ err, s.attachEndpointImpl opt magicNumber ep now = some (some err, s) := by
  unfold attachEndpointImpl
  rw [h]
  exact ⟨_, rfl⟩

/-- An attach whose table access faults has no result. -/
theorem attachEndpointImpl_error {ep : Nat} {now : Int} {f : Fault}
    (h : s.slots.table.attach opt s.nextConnection (deadlineLine opt now) = .error f) :
    s.attachEndpointImpl opt magicNumber ep now = none := by
  unfold attachEndpointImpl
  rw [h]

/-- An attach that takes a slot is as it should be exactly if the limit is not reached and the index is below
it. -/
theorem withinCapacity_iff_of_taken {ep index : Nat} {now : Int} {t : SlotTable Nat}
    (hend : s.slots.table.attach opt s.nextConnection (deadlineLine opt now) = .ok (some index, t))
    (hnext : s.slots.table.nextIndex opt = some index) (hsmall : index < 2 ^ 32 - 1) :
    WithinCapacity opt magicNumber s ep now ↔
      s.slots.table.liveCount < opt.maxContainerSize ∧ index < opt.maxContainerSize := by
  obtain ⟨s', hret, htable, hendpoint, hid⟩ := attachEndpointImpl_some magicNumber ep hend
  have hnat : (UInt32.ofNat index).toNat = index := UInt32.toNat_ofNat_of_lt' (Nat.lt_trans hsmall (by decide))
  have hcheck := checkConnectionId_buildConnectionId opt magicNumber (s.endpoints ep).listenPort
    (ne_invalidIndex hsmall)
  rw [hnat, ← hid] at hcheck
  constructor
  · intro h
    -- it succeeded, so it was not to be refused, and its id was to be accepted
    have hlive : s.slots.table.liveCount < opt.maxContainerSize := by
      by_contra hge
      obtain ⟨err, hret'⟩ := h.refuses (not_lt.mp hge)
      rw [hret] at hret'
      cases hret'
    refine ⟨hlive, ?_⟩
    obtain ⟨index', s'', -, hret', -, -, haccepted⟩ := h.stores hlive
    rw [hret] at hret'
    cases hret'
    by_contra hge
    rw [hcheck, if_neg hge] at haccepted
    cases haccepted
  · rintro ⟨hlive, hlt⟩
    refine ⟨fun hge => absurd hlive (not_lt.mpr hge), fun _ => ?_⟩
    refine ⟨UInt32.ofNat index, s', by rw [hnat]; exact hnext, hret, ?_, hendpoint, ?_⟩
    · rw [hnat, occupant, htable, (SlotTable.attach_ok hend).2.2, if_pos rfl]
    · rw [hcheck, if_pos hlt]

/-- An attach is as it should be exactly if there is a slot to double, or no limit to reach, and a free index
is only left over below the limit. -/
theorem withinCapacity_iff (hinv : s.slots.table.Inv) (hfit : s.slots.table.mgr.length < 2 ^ 32 - 1)
    (ep : Nat) (now : Int) :
    WithinCapacity opt magicNumber s ep now ↔
      (s.slots.table.mgr = [] → opt.maxContainerSize = 0) ∧
      ∀ i, s.slots.table.freeIndexList.head? = some i →
        s.slots.table.liveCount < opt.maxContainerSize ∧ i < opt.maxContainerSize := by
  have hcount := hinv.liveCount_add
  rcases hinv.attach_ends opt (by omega) s.nextConnection (deadlineLine opt now) with
    ⟨hfree, hlimit, hend⟩ | ⟨hempty, hpos, hend⟩ | ⟨index, t', hend, hnext, hwhere⟩
  · -- at the limit all slots are live
    rw [hfree, List.length_nil, Nat.add_zero] at hcount
    constructor
    · intro _
      refine ⟨fun hempty => ?_, fun i hi => ?_⟩
      · rw [hempty, List.length_nil] at hlimit
        exact Nat.le_zero.mp hlimit
      · rw [hfree] at hi
        cases hi
    · intro _
      exact ⟨fun _ => attachEndpointImpl_limit hend, fun hlt => absurd hlt (by omega)⟩
  · -- no slot and no limit: the attach does not return
    have hlive : s.slots.table.liveCount < opt.maxContainerSize := by
      rw [hempty, List.length_nil] at hcount
      omega
    constructor
    · intro h
      obtain ⟨index, s', -, hret, -⟩ := h.stores hlive
      rw [attachEndpointImpl_error hend] at hret
      cases hret
    · rintro ⟨hzero, -⟩
      rw [hzero hempty] at hpos
      cases hpos
  · rcases hwhere with ⟨hfirst, hslot⟩ | ⟨hfree, rfl, hpos, hlt⟩
    · -- the first free slot
      rw [withinCapacity_iff_of_taken hend hnext (by omega)]
      constructor
      · intro hlive
        refine ⟨fun hempty => ?_, fun i hi => ?_⟩
        · rw [hempty] at hslot
          cases hslot
        · rw [hfirst] at hi
          rw [← Option.some.inj hi]
          exact hlive
      · rintro ⟨-, hhead⟩
        exact hhead index hfirst
    · -- all slots are live, and one more is within the limit
      rw [withinCapacity_iff_of_taken hend hnext hfit]
      rw [hfree, List.length_nil, Nat.add_zero] at hcount
      constructor
      · intro _
        refine ⟨fun hempty => ?_, fun i hi => ?_⟩
        · rw [hempty] at hpos
          cases hpos
        · rw [hfree] at hi
          cases hi
      · intro _
        exact ⟨by omega, hlt⟩

end ContainerState

/-! ### Every run -/

section Runs

variable {opt : ContainerOption} {magicNumber : UInt16} {sockets : Nat → UInt64 × UInt16} {start : Int}

/-- Until the table is given up it has between its first size and the larger of the two configured ones; from
then on it has no slot. -/
structure Sized (opt : ContainerOption) (s : LifeState) : Prop where
  /-- The table does not fall below its first size. -/
  lower : s.isShutdown = false → opt.defaultContainerSize ≤ s.container.slots.table.mgr.length
  /-- It is as large as at first, or within the limit. -/
  upper : s.isShutdown = false → s.container.slots.table.mgr.length = opt.defaultContainerSize ∨
    s.container.slots.table.mgr.length ≤ opt.maxContainerSize
  /-- A table that was given up stays so. -/
  gone : s.isShutdown = true → s.container.slots.table.mgr = []

/-- In every reachable state the table has one of its sizes. -/
theorem sized_of_reachable {s : LifeState} (hs : (lifeMachine opt magicNumber sockets start).Reachable s) :
    Sized opt s := by
  apply hs.invariant (Sized opt)
  · refine ⟨fun _ => ?_, fun _ => Or.inl ?_, fun hshut => nomatch hshut⟩
    · exact Nat.le_of_eq List.length_replicate.symm
    · exact List.length_replicate
  · intro s a s' _ _ h hstep
    rcases LifeState.exec_table hstep with ⟨htable, hflag⟩ | ⟨hshut, hcleared⟩
    · refine ⟨fun hopen => ?_, fun hopen => ?_, fun hshut => ?_⟩
      · exact Nat.le_trans (h.lower (hflag.symm.trans hopen)) htable.grows
      · have hbefore := h.upper (hflag.symm.trans hopen)
        have hafter := htable.bound
        omega
      · exact htable.empty (h.gone (hflag.symm.trans hshut))
    · refine ⟨fun hopen => ?_, fun hopen => ?_, fun _ => by rw [hcleared]⟩
      · rw [hshut] at hopen
        cases hopen
      · rw [hshut] at hopen
        cases hopen

/-- Any number of the first slots can be taken. -/
theorem exists_liveCount (magicNumber : UInt16) (sockets : Nat → UInt64 × UInt16) (start : Int)
    (hd : opt.defaultContainerSize < 2 ^ 32) {k : Nat} (hk : k ≤ opt.defaultContainerSize) :
    ∃ s, (lifeMachine opt magicNumber sockets start).Reachable s ∧ s.isShutdown = false ∧
      s.container.slots.table.mgr.length = opt.defaultContainerSize ∧
      s.container.slots.table.liveCount = k := by
  induction k with
  | zero =>
      refine ⟨_, .init, rfl, List.length_replicate, ?_⟩
      show (List.replicate opt.defaultContainerSize (none, MapIter.singular)).countP _ = 0
      rw [List.countP_replicate]
      rfl
  | succ k ih =>
      obtain ⟨s, hs, hopen, hlen, hlive⟩ := ih (Nat.le_of_succ_le hk)
      have hinv := lifeMachine_inv hs (by omega)
      have hcount := hinv.liveCount_add
      -- a slot is free, and the attach takes it
      have hused : s.container.slots.table.freeIndexList ≠ [] := by
        intro hfree
        rw [hfree, List.length_nil] at hcount
        omega
      rcases hinv.attach_ends opt (by omega) s.container.nextConnection (deadlineLine opt 0) with
        ⟨hfree, -⟩ | ⟨hempty, -⟩ | ⟨index, t', hend, -, -⟩
      · exact absurd hfree hused
      · rw [hempty, List.length_nil] at hlen
        omega
      · obtain ⟨c, hret, htable, -⟩ := ContainerState.attachEndpointImpl_some magicNumber 0 hend
        have hstep : (lifeMachine opt magicNumber sockets start).step s (.call (.attachEndpoint 0 false 0)) =
            some { s with container := c } := by
          show ((s.container.attachEndpoint opt magicNumber 0 false 0).map _) = _
          rw [ContainerState.attachEndpoint, hret]
          rfl
        obtain ⟨t₁, rest, ⟨rfl, -⟩ | ⟨-, hfree, -⟩, hfirst, -, ht'⟩ := SlotTable.attach_some hend
        · have hlen' : t'.mgr.length = opt.defaultContainerSize := by rw [ht', List.length_set, hlen]
          refine ⟨_, hs.step trivial hstep, hopen, by rw [htable, hlen'], ?_⟩
          have hcount' := (hinv.of_attach hend (by omega)).liveCount_add
          have hrest : t'.freeIndexList = rest := by rw [ht']
          rw [hrest, hlen'] at hcount'
          rw [hfirst, List.length_cons] at hcount
          rw [htable]
          omega
        · exact absurd hfree hused

/-- Within the limit and with a slot to start from, every attach before `Shutdown` is as it should be. -/
theorem withinCapacity_of_sizes (hle : opt.defaultContainerSize ≤ opt.maxContainerSize)
    (hzero : opt.defaultContainerSize = 0 → opt.maxContainerSize = 0) {s : LifeState}
    (hs : (lifeMachine opt magicNumber sockets start).Reachable s) (hopen : s.isShutdown = false)
    (hfit : s.container.slots.table.mgr.length < 2 ^ 32 - 1) (ep : Nat) (now : Int) :
    s.container.WithinCapacity opt magicNumber ep now := by
  have hinv := lifeMachine_inv hs (by omega)
  have hsized := sized_of_reachable hs
  have hlower := hsized.lower hopen
  have hupper := hsized.upper hopen
  rw [ContainerState.withinCapacity_iff hinv hfit]
  constructor
  · intro hempty
    rw [hempty, List.length_nil] at hlower
    exact hzero (by omega)
  · intro i hi
    -- a free slot is within the limit and is not live
    obtain ⟨it, hslot⟩ := (hinv.mem_free i).mp (List.mem_of_mem_head? hi)
    have hi' := (List.getElem?_eq_some_iff.mp hslot).1
    have hcount := hinv.liveCount_add
    have hpos : 0 < s.container.slots.table.freeIndexList.length :=
      List.length_pos_of_mem (List.mem_of_mem_head? hi)
    omega

/-- If every attach before `Shutdown` is as it should be, the sizes are in order. -/
theorem sizes_of_withinCapacity (hd : opt.defaultContainerSize < 2 ^ 32 - 1)
    (h : ∀ s, (lifeMachine opt magicNumber sockets start).Reachable s → s.isShutdown = false →
      s.container.slots.table.mgr.length < 2 ^ 32 - 1 → s.container.WithinCapacity opt magicNumber 0 0) :
    opt.defaultContainerSize ≤ opt.maxContainerSize ∧
      (opt.defaultContainerSize = 0 → opt.maxContainerSize = 0) := by
  constructor
  · by_contra hgt
    -- fill the table up to the limit: there are still free slots
    obtain ⟨s, hs, hopen, hlen, hlive⟩ := exists_liveCount magicNumber sockets start
      (Nat.lt_trans hd (by decide)) (Nat.le_of_lt (not_le.mp hgt))
    have hinv := lifeMachine_inv hs (by omega)
    have hok := (ContainerState.withinCapacity_iff hinv (by omega) 0 0).mp (h s hs hopen (by omega))
    have hcount := hinv.liveCount_add
    cases hfree : s.container.slots.table.freeIndexList with
    | nil =>
        rw [hfree, List.length_nil] at hcount
        omega
    | cons i rest =>
        have hlt := (hok.2 i (by rw [hfree]; rfl)).1
        omega
  · intro hzero
    -- the first attach finds no slot
    obtain ⟨s, hs, hopen, hlen, -⟩ := exists_liveCount magicNumber sockets start
      (Nat.lt_trans hd (by decide)) (Nat.zero_le opt.defaultContainerSize)
    have hinv := lifeMachine_inv hs (by omega)
    have hok := (ContainerState.withinCapacity_iff hinv (by omega) 0 0).mp (h s hs hopen (by omega))
    exact hok.1 (List.length_eq_zero_iff.mp (by omega))

end Runs

/-- **Capacity and growth.** Attaching refuses an endpoint exactly at the limit, and otherwise stores it under
an id that the container accepts, in every state before `Shutdown` (whose indices are below `InvalidIndex`) if
and only if the table starts within the limit and, unless the limit is zero, with a slot. Behind `Shutdown` it
does so only for the limit zero. With a limit below `InvalidIndex` so are all indices. -/
theorem attach_capacity_iff (opt : ContainerOption) (magicNumber : UInt16) (sockets : Nat → UInt64 × UInt16)
    (start : Int) (hd : opt.defaultContainerSize < 2 ^ 32 - 1) :
    ((∀ s, (lifeMachine opt magicNumber sockets start).Reachable s → s.isShutdown = false →
        s.container.slots.table.mgr.length < 2 ^ 32 - 1 →
          ∀ ep now, s.container.WithinCapacity opt magicNumber ep now) ↔
      opt.defaultContainerSize ≤ opt.maxContainerSize ∧
        (opt.defaultContainerSize = 0 → opt.maxContainerSize = 0)) ∧
    (∀ s, (lifeMachine opt magicNumber sockets start).Reachable s → s.isShutdown = true →
      ∀ ep now, s.container.WithinCapacity opt magicNumber ep now ↔ opt.maxContainerSize = 0) ∧
    (opt.maxContainerSize < 2 ^ 32 - 1 → ∀ s, (lifeMachine opt magicNumber sockets start).Reachable s →
      s.container.slots.table.mgr.length < 2 ^ 32 - 1) := by
  refine ⟨?_, ?_, ?_⟩
  · constructor
    · intro h
      exact sizes_of_withinCapacity hd fun s hs hopen hfit => h s hs hopen hfit 0 0
    · rintro ⟨hle, hzero⟩ s hs hopen hfit ep now
      exact withinCapacity_of_sizes hle hzero hs hopen hfit ep now
  · intro s hs hshut ep now
    have hempty := (sized_of_reachable hs).gone hshut
    have hinv := lifeMachine_inv hs (by rw [hempty]; decide)
    rw [ContainerState.withinCapacity_iff hinv (by rw [hempty]; decide)]
    constructor
    · intro h
      exact h.1 hempty
    · intro hmax
      refine ⟨fun _ => hmax, fun i hi => ?_⟩
      -- no slot, no free index
      obtain ⟨it, hslot⟩ := (hinv.mem_free i).mp (List.mem_of_mem_head? hi)
      rw [hempty] at hslot
      cases hslot
  · intro hmax s hs
    have hsized := sized_of_reachable hs
    cases hshut : s.isShutdown with
    | false =>
        have hupper := hsized.upper hshut
        omega
    | true =>
        rw [hsized.gone hshut]
        decide

/-- A table of one slot that may grow to two. -/
theorem attach_capacity_iff_two_slots :
    ∃ s, (lifeMachine { defaultContainerSize := 1, maxContainerSize := 2 } 7 (fun _ => (5, 0)) 0).run
        (lifeMachine { defaultContainerSize := 1, maxContainerSize := 2 } 7 (fun _ => (5, 0)) 0).init
        [.call (.attachEndpoint 0 false 0)] = some s ∧ s.isShutdown = false ∧
      s.container.slots.table.mgr.length = 1 ∧
      s.container.WithinCapacity { defaultContainerSize := 1, maxContainerSize := 2 } 7 1 0 := by
  obtain ⟨s, hrun, hopen, hlen⟩ : ∃ s,
      (lifeMachine { defaultContainerSize := 1, maxContainerSize := 2 } 7 (fun _ => (5, 0)) 0).run
        (lifeMachine { defaultContainerSize := 1, maxContainerSize := 2 } 7 (fun _ => (5, 0)) 0).init
        [.call (.attachEndpoint 0 false 0)] = some s ∧ s.isShutdown = false ∧
      s.container.slots.table.mgr.length = 1 := ⟨_, rfl, rfl, rfl⟩
  refine ⟨s, hrun, hopen, hlen, ?_⟩
  exact (attach_capacity_iff { defaultContainerSize := 1, maxContainerSize := 2 } 7 (fun _ => (5, 0)) 0
    (by decide)).1.mpr ⟨by decide, by decide⟩ s (Machine.reachable_of_run hrun) hopen (by rw [hlen]; decide) 1 0

/-- Three containers: one of two slots with a limit of one takes a second endpoint and gives it an id that it
does not accept; one without a slot and one that was shut down take the front of an empty list. -/
theorem attach_misses_limit :
    (∃ (s : LifeState) (c : ContainerState),
      (lifeMachine { defaultContainerSize := 2, maxContainerSize := 1 } 7 (fun _ => (5, 0)) 0).run
        (lifeMachine { defaultContainerSize := 2, maxContainerSize := 1 } 7 (fun _ => (5, 0)) 0).init
        [.call (.attachEndpoint 0 false 0)] = some s ∧
      s.container.slots.table.liveCount = 1 ∧
      s.container.attachEndpointImpl { defaultContainerSize := 2, maxContainerSize := 1 } 7 1 0 =
        some (none, c) ∧
      checkConnectionId { defaultContainerSize := 2, maxContainerSize := 1 } 7
        (c.endpoints 1).connectionId = none) ∧
    (ContainerState.start { defaultContainerSize := 0, maxContainerSize := 4 } (fun _ => (5, 0)) 0).slots.table.attach
      { defaultContainerSize := 0, maxContainerSize := 4 } 0 60000 = .error .emptyFreeList ∧
    ∃ s : LifeState,
      (lifeMachine { defaultContainerSize := 1, maxContainerSize := 4 } 7 (fun _ => (5, 0)) 0).run
        (lifeMachine { defaultContainerSize := 1, maxContainerSize := 4 } 7 (fun _ => (5, 0)) 0).init
        [.shutdown] = some s ∧
      s.container.slots.table.attach { defaultContainerSize := 1, maxContainerSize := 4 } 0 60000 =
        .error .emptyFreeList := by
  refine ⟨⟨_, _, rfl, rfl, rfl, ?_⟩, rfl, _, rfl, rfl⟩
  decide

end RaptorLite
