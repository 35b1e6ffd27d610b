import Mathlib.Data.Fintype.Basic
import RaptorLite.Common.ContainerThreads

/-! # Removing only what was looked up

Does a handler remove only the connection that it had looked up? Not in all runs: the slot may have been given to
another endpoint in between. There is a condition on the calls of `AttachEndpoint` under which it holds in all states
that are reached, and a run that shows what happens without it. -/

namespace RaptorLite

namespace ThreadsState

variable {n : Nat} {opt : ContainerOption} {magicNumber : UInt16}

/-- The slot of a call that may still remove its connection holds that connection or nothing, and no
connection has left the table without having been shut down. -/
structure TargetInv (s : ThreadsState n) : Prop where
  /-- The invariant of the slot table. -/
  table : s.slots.table.Inv
  /-- The slots of the calls in progress. -/
  target : ∀ t act con, s.pcs t = some act → act.target = some con →
    s.occupant act.index = none ∨ s.occupant act.index = some con
  /-- Removal comes behind a shutdown. -/
  delete : ∀ t kind index con, s.pcs t = some ⟨kind, index, .delete con⟩ → con ∈ s.shut
  /-- The connections that were attached. -/
  attached : ∀ c, c < s.nextConnection → (∃ i, s.occupant i = some c) ∨ c ∈ s.shut

/-- A step that only moves thread `t`, to a call with the same target. -/
theorem TargetInv.setPc {s : ThreadsState n} (h : s.TargetInv) (t : Fin n)
    {act : Option Activation}
    (htarget : ∀ a ∈ act, ∀ con, a.target = some con →
      s.occupant a.index = none ∨ s.occupant a.index = some con)
    (hdelete : ∀ a ∈ act, ∀ con, a.stage = .delete con → con ∈ s.shut) : (s.setPc t act).TargetInv where
  table := h.table
  target u a con hu hcon := by
    rw [pcs_setPc] at hu
    split at hu
    · exact htarget a hu con hcon
    · exact h.target u a con hu hcon
  delete u kind index con hu := by
    rw [pcs_setPc] at hu
    split at hu
    · exact hdelete _ hu con rfl
    · exact h.delete u kind index con hu
  attached := h.attached

/-- A new table in which slots were at most emptied, of connections that had been shut down. -/
theorem TargetInv.setTable {s : ThreadsState n} (h : s.TargetInv) (slots : SlotState Nat)
    (shut : List Nat) (hinv : slots.table.Inv) (hshut : ∀ c ∈ s.shut, c ∈ shut)
    (hcon : ∀ i, slots.table.connection i = s.occupant i ∨
      slots.table.connection i = none ∧ ∀ c, s.occupant i = some c → c ∈ shut) :
    ({ s with slots := slots, shut := shut } : ThreadsState n).TargetInv where
  table := hinv
  target t act con hpc htarget := by
    rcases hcon act.index with hsame | ⟨hnone, -⟩
    · exact (h.target t act con hpc htarget).imp (fun he => hsame.trans he)
        fun he => hsame.trans he
    · exact Or.inl hnone
  delete t kind index con hpc := hshut con (h.delete t kind index con hpc)
  attached c hc := by
    rcases h.attached c hc with ⟨i, hi⟩ | hmem
    · rcases hcon i with hsame | ⟨-, hout⟩
      · exact Or.inl ⟨i, hsame.trans hi⟩
      · exact Or.inr (hout c hi)
    · exact Or.inr (hshut c hmem)

/-- A call returns. -/
theorem TargetInv.leave {s : ThreadsState n} (h : s.TargetInv) (t : Fin n) : (s.setPc t none).TargetInv :=
  h.setPc t nofun nofun

/-- A call enters: it has no target yet. -/
theorem TargetInv.enter {s : ThreadsState n} (h : s.TargetInv) (t : Fin n) (kind : CallKind) (index : Nat) :
    (s.setPc t (some ⟨kind, index, .lookup⟩)).TargetInv := by
  apply h.setPc t
  · intro a ha con hcon
    cases ha
    cases hcon
  · intro a ha con hcon
    cases ha
    cases hcon

/-- `DeleteConnection` empties the slot of a call that is about to do so: what it held was shut down. -/
theorem TargetInv.deleted {s : ThreadsState n} (h : s.TargetInv) {t : Fin n} {kind : CallKind}
    {index con : Nat} {table : SlotTable Nat} (hpc : s.pcs t = some ⟨kind, index, .delete con⟩)
    (htable : s.slots.table.deleteConnection index = .ok table) : (s.setTable table).TargetInv := by
  have hcon := (SlotTable.connection_deleteConnection htable).2
  apply h.setTable { s.slots with table := table } s.shut (h.table.of_deleteConnection htable) fun _ hc => hc
  intro i
  by_cases hi : i = index
  · subst hi
    refine Or.inr ⟨by rw [hcon, if_pos rfl], ?_⟩
    intro c hc
    rcases h.target t _ con hpc rfl with hnone | hsome
    · rw [hc] at hnone
      cases hnone
    · rw [hc, Option.some.injEq] at hsome
      exact hsome ▸ h.delete t kind _ con hpc
  · exact Or.inl (by rw [hcon, if_neg hi]; rfl)

/-- An attach takes a slot that is nobody's target. -/
theorem TargetInv.attach {s : ThreadsState n} (h : s.TargetInv) (hm : opt.maxContainerSize < 2 ^ 32)
    {deadline : Int} {index : Nat} {table : SlotTable Nat}
    (htable : s.slots.table.attach opt s.nextConnection deadline = .ok (some index, table))
    (hfree : ∀ t, ∀ act ∈ s.pcs t, act.target ≠ none → s.slots.table.nextIndex opt ≠ some act.index)
    (timers : List Nat) (issued : List UInt64) :
    TargetInv { s.setTable table with
      nextConnection := s.nextConnection + 1, timers := timers, issued := issued } := by
  obtain ⟨hinv, hvacant, hnext⟩ := h.table.attach_vacant hm htable
  obtain ⟨-, -, hcon⟩ := SlotTable.attach_ok htable
  refine ⟨hinv, ?_, h.delete, ?_⟩
  · intro t act con hpc htarget
    have hne : act.index ≠ index := fun heq =>
      hfree t act hpc (by rw [htarget]; simp) (heq ▸ hnext)
    have hsame : table.connection act.index = s.occupant act.index := by
      rw [hcon, if_neg hne]
      rfl
    exact (h.target t act con hpc htarget).imp hsame.trans hsame.trans
  · intro c hc
    rcases Nat.lt_succ_iff_lt_or_eq.mp hc with hc | rfl
    · refine (h.attached c hc).imp (fun ⟨i, hi⟩ => ⟨i, ?_⟩) id
      have hne : i ≠ index := by
        rintro rfl
        rw [occupant, hvacant] at hi
        cases hi
      exact (hcon i).trans ((if_neg hne).trans hi)
    · exact Or.inl ⟨index, (hcon index).trans (if_pos rfl)⟩

/-- The step condition for removals: an attach does not take the index of a call that is between its
`GetConnection` and its `DeleteConnection`. -/
def AttachSafe (opt : ContainerOption) (s : ThreadsState n) : ThreadsAction n → Prop
  | .attach _ _ => ∀ t, ∀ act ∈ s.pcs t, act.target ≠ none →
      s.slots.table.nextIndex opt ≠ some act.index
  | _ => True

/-- Every step that meets the condition keeps the targets of the deletes. -/
theorem TargetInv.exec {s s' : ThreadsState n} {a : ThreadsAction n}
    (hm : opt.maxContainerSize < 2 ^ 32) (hinv : s.TargetInv) (hsafe : s.AttachSafe opt a)
    (h : s.exec opt magicNumber a = some s') : s'.TargetInv := by
  cases stepForm_of_exec h with
  | stay => exact hinv
  | enter t kind cid index hcheck => exact hinv.enter t kind index.toNat
  | enterTimer t index htimer hrun => exact hinv.enter t .onTimer index
  | missed t => exact hinv.leave t
  | useDone t ok => exact hinv.leave t
  | found t kind index con hpc hcon =>
      refine hinv.setPc t ?_ ?_
      · intro a ha d hd
        cases ha
        -- the target is what `GetConnection` has just found in the slot
        have : d = con := by cases kind <;> cases hd <;> rfl
        exact Or.inr (this ▸ hcon)
      · intro a ha d hd
        cases ha
        cases kind <;> cases hd
  | used t ok kind index con hpc hkind =>
      have hold := hinv.target t _ con hpc (by simp [Activation.target, hkind])
      refine hinv.setPc t (fun a ha d hd => ?_) fun a ha d hd => ?_ <;> cases ha
      · cases ok with
        | true => cases hd
        | false => cases hd; exact hold
      · cases ok <;> cases hd
  | shutConnection t kind index con hpc =>
      have hold := hinv.target t _ con hpc rfl
      have hmore : ({ s with shut := con :: s.shut } : ThreadsState n).TargetInv :=
        hinv.setTable s.slots (con :: s.shut) hinv.table (fun c hc => List.mem_cons_of_mem con hc)
          fun _ => Or.inl rfl
      refine hmore.setPc t ?_ ?_
      · intro a ha d hd
        cases ha
        cases hd
        exact hold
      · intro a ha d hd
        cases ha
        cases hd
        exact List.mem_cons_self
  | refreshed t now index table htable =>
      obtain ⟨hlen, hcon⟩ := SlotTable.connection_refreshTime htable
      have hinv' : table.Inv := hinv.table.of_refreshTime htable
      have htable' := hinv.setTable { s.slots with table := table } s.shut hinv' (fun _ hc => hc)
        fun i => Or.inl (hcon i)
      exact htable'.leave t
  | deleted t kind index con table hpc htable => exact (hinv.deleted hpc htable).leave t
  | attached listenPort now index table timers htable htimers => exact hinv.attach hm htable hsafe timers _
  | swept now table cons htable =>
      refine hinv.setTable ⟨table, now⟩ (cons ++ s.shut) (hinv.table.of_timeoutSweep htable)
        (fun c hc => List.mem_append_right cons hc) ?_
      intro i
      apply ((SlotTable.connection_timeoutSweep htable).2 i).imp id
      rintro ⟨hnone, c, hc, hi⟩
      refine ⟨hnone, ?_⟩
      intro d hd
      rw [occupant, hi, Option.some.injEq] at hd
      exact hd ▸ List.mem_append_left s.shut hc
  | cleared =>
      have hclear := hinv.setTable { s.slots with table := ⟨[], .empty, []⟩ }
        (s.slots.table.mgr.filterMap Prod.fst ++ s.shut) SlotTable.inv_cleared
        (fun c hc => List.mem_append_right _ hc) fun i => Or.inr ⟨rfl, fun c hc => ?_⟩
      · exact ⟨hclear.table, hclear.target, hclear.delete, hclear.attached⟩
      · obtain ⟨it, hslot⟩ := SlotTable.connection_eq_some_iff.mp hc
        exact List.mem_append_left _
          (List.mem_filterMap.mpr ⟨_, List.mem_of_getElem? hslot, rfl⟩)

end ThreadsState

/-- **A handler removes only the connection it looked up**, in every run in which no attach takes the
index of a call between its `GetConnection` and its `DeleteConnection`; and then every connection that
was attached and is no longer in the table has been shut down. -/
theorem delete_removes_target (opt : ContainerOption) (hd : opt.defaultContainerSize < 2 ^ 32)
    (hm : opt.maxContainerSize < 2 ^ 32) (magicNumber : UInt16) (n : Nat) (start : Int)
    (s : ThreadsState n)
    (hs : (threadsMachine opt magicNumber n start).Reaches (ThreadsState.AttachSafe opt) s) :
    (∀ t kind index con, s.pcs t = some ⟨kind, index, .delete con⟩ →
      ∀ c, s.occupant index = some c → c = con) ∧
    ∀ c, c < s.nextConnection → (∃ i, s.occupant i = some c) ∨ c ∈ s.shut := by
  have hinit : (threadsMachine opt magicNumber n start).init.TargetInv :=
    ⟨SlotTable.inv_init (Nat.le_of_lt hd), fun _ _ _ h => (Option.some_ne_none _ h.symm).elim,
      fun _ _ _ _ h => (Option.some_ne_none _ h.symm).elim, fun c hc => (Nat.not_lt_zero c hc).elim⟩
  have hinv : s.TargetInv := Machine.Reaches.invariant _ hinit
    (fun _ _ _ _ hsafe hinv hstep => hinv.exec hm hsafe hstep) hs
  refine ⟨?_, hinv.attached⟩
  intro t kind index con hpc c hc
  rcases hinv.target t _ con hpc rfl with hnone | hsome
  · rw [hc] at hnone
    cases hnone
  · rw [hc, Option.some.injEq] at hsome
    exact hsome

/-- One slot, used by two poll threads. -/
def twoPollersMachine : Machine (ThreadsState 2) (ThreadsAction 2) :=
  threadsMachine { defaultContainerSize := 1, maxContainerSize := 1 } 7 2 0

/-- A poller removes connection 0 behind an error, connection 1 is attached to its slot, and then the other
poller finds an error on that one. -/
theorem delete_removes_target_recycled_slot :
    ∃ s : ThreadsState 2,
      twoPollersMachine.run twoPollersMachine.init
        [.attach 80 0, .call 0 .onErrorEvent (buildConnectionId 7 80 0), .getConnection 0,
          .shutdownConnection 0, .deleteConnection 0, .attach 80 0,
          .call 1 .onErrorEvent (buildConnectionId 7 80 0), .getConnection 1, .shutdownConnection 1] = some s ∧
      s.pcs 1 = some ⟨.onErrorEvent, 0, .delete 1⟩ ∧ s.occupant 0 = some 1 ∧
      (∀ c, s.occupant 0 = some c → c = 1) ∧ ((∃ i, s.occupant i = some 0) ∨ 0 ∈ s.shut) := by
  obtain ⟨s, hrun, hpc, hcon, hnext⟩ : ∃ s : ThreadsState 2,
      twoPollersMachine.run twoPollersMachine.init
        [.attach 80 0, .call 0 .onErrorEvent (buildConnectionId 7 80 0), .getConnection 0,
          .shutdownConnection 0, .deleteConnection 0, .attach 80 0,
          .call 1 .onErrorEvent (buildConnectionId 7 80 0), .getConnection 1, .shutdownConnection 1] = some s ∧
      s.pcs 1 = some ⟨.onErrorEvent, 0, .delete 1⟩ ∧ s.occupant 0 = some 1 ∧ s.nextConnection = 2 :=
    ⟨_, rfl, rfl, rfl, rfl⟩
  have hreach : twoPollersMachine.Reaches
      (ThreadsState.AttachSafe { defaultContainerSize := 1, maxContainerSize := 1 }) s := by
    refine Machine.Reaches.init.along hrun (.cons ?_ fun s₁ h₁ => .cons trivial fun s₂ h₂ =>
      .cons trivial fun s₃ h₃ => .cons trivial fun s₄ h₄ => .cons trivial fun s₅ h₅ => .cons ?_ fun _ _ =>
        .cons trivial fun _ _ => .cons trivial fun _ _ => .cons trivial fun _ _ => .nil)
    · intro t act hact
      cases hact
    · -- both pollers are outside of their calls
      cases h₁
      cases h₂
      cases h₃
      cases h₄
      cases h₅
      intro t act hact
      match t with
      | 0 => cases hact
      | 1 => cases hact
  obtain ⟨htarget, hshut⟩ := delete_removes_target { defaultContainerSize := 1, maxContainerSize := 1 }
    (by decide) (by decide) 7 2 0 s hreach
  exact ⟨s, hrun, hpc, hcon, htarget 1 .onErrorEvent 0 1 hpc, hshut 0 (by omega)⟩

/-- Both pollers report the hang-up of connection 0 and look it up; the first removes it, connection 1
is attached to the slot, and the second poller removes connection 1, which nobody has shut down. -/
theorem late_delete_removes_other_connection :
    ∃ s s' : ThreadsState 2,
      twoPollersMachine.run twoPollersMachine.init
        [.attach 80 0,
          .call 0 .onErrorEvent (buildConnectionId 7 80 0), .getConnection 0,
          .call 1 .onErrorEvent (buildConnectionId 7 80 0), .getConnection 1,
          .shutdownConnection 0, .deleteConnection 0,
          .attach 80 0, .shutdownConnection 1] = some s ∧
      s.pcs 1 = some ⟨.onErrorEvent, 0, .delete 0⟩ ∧ s.occupant 0 = some 1 ∧
      twoPollersMachine.step s (.deleteConnection 1) = some s' ∧
      s'.occupant 0 = none ∧ s'.nextConnection = 2 ∧ s'.shut = [0, 0] :=
  ⟨_, _, rfl, rfl, rfl, rfl, rfl, rfl, rfl⟩

end RaptorLite
