import RaptorLite.Common.ContainerLife
import RaptorLite.Common.IdleTimeout

/-! # The timeout check

What `ContainerImpl::OnTimeoutCheck` (`common/container_impl.cc`) does in any state of a container. The loop
walks the records from the front of the multimap and erases each through the iterator that its slot keeps;
that the two designate the same record is the slot-table invariant, so that the whole sweep is the filter of
the records by the clock. Each connection it takes out has its turn: it is shut down, and a close event is
queued if its endpoint is still online then. -/

namespace RaptorLite

/-! ### A sweep, slot by slot -/

namespace SlotTable

variable {κ : Type} {t t' : SlotTable κ} {now : Int} {cs : List κ}

/-- A slot is swept exactly when it has a record that is due. -/
theorem mem_expired_iff (t : SlotTable κ) (now : Int) (i : Nat) :
    i ∈ (t.expired now).map MapEntry.val ↔ ∃ e ∈ t.timeoutRecords.entries, e.val = i ∧ e.key ≤ now := by
  simp [expired, and_assoc, and_comm]

/-- A slot whose deadline is due is empty behind the sweep. -/
theorem Sweeps.emptied (h : Sweeps now t t' cs) {e : MapEntry Int Nat} (he : e ∈ t.timeoutRecords.entries)
    (hdue : e.key ≤ now) : t'.mgr[e.val]? = some (.none, .pastEnd) := by
  rw [h.slots, if_pos ((mem_expired_iff t now e.val).mpr ⟨e, he, rfl, hdue⟩)]

/-- A slot all of whose deadlines are later is left as it was. -/
theorem Sweeps.kept (h : Sweeps now t t' cs) {i : Nat}
    (hlater : ∀ e ∈ t.timeoutRecords.entries, e.val = i → now < e.key) : t'.mgr[i]? = t.mgr[i]? := by
  rw [h.slots, if_neg]
  rw [mem_expired_iff]
  rintro ⟨e, he, hval, hdue⟩
  exact absurd (hlater e he hval) (not_lt.mpr hdue)

/-- The slots that stay live. -/
theorem Sweeps.live_iff (h : Sweeps now t t' cs) (i : Nat) :
    t'.Live i ↔ t.Live i ∧ ∀ e ∈ t.timeoutRecords.entries, e.val = i → now < e.key := by
  constructor
  · intro hlive
    have hlater : ∀ e ∈ t.timeoutRecords.entries, e.val = i → now < e.key := by
      intro e he hval
      by_contra hdue
      obtain ⟨c, it, hslot⟩ := SlotTable.live_iff.mp hlive
      rw [← hval, h.emptied he (not_lt.mp hdue)] at hslot
      cases hslot
    refine ⟨?_, hlater⟩
    rw [SlotTable.live_iff, ← h.kept hlater]
    exact SlotTable.live_iff.mp hlive
  · rintro ⟨hlive, hlater⟩
    rw [SlotTable.live_iff, h.kept hlater]
    exact SlotTable.live_iff.mp hlive

/-- No index is handed back twice. -/
theorem Sweeps.nodup (h : Sweeps now t t' cs) : ((t.expired now).map MapEntry.val).Nodup := by
  have hnodup := h.inv.free_nodup
  rw [h.free] at hnodup
  exact hnodup.of_append_right

end SlotTable

namespace ContainerState

variable {opt : ContainerOption} {s s' : ContainerState}

/-! ### The turns of a check -/

/-- The connections a check shuts down, each with the state in which its turn comes. -/
def turns (opt : ContainerOption) : List Nat → ContainerState → List (Nat × ContainerState)
  | [], _ => []
  | con :: rest, s => (con, s) :: turns opt rest (s.expire opt con)

/-- The messages that a turn should queue: one close event, if the endpoint is still online and a closed
handler is set. -/
def closeMessages (opt : ContainerOption) (turn : Nat × ContainerState) : List TcpMessage :=
  let ep := (turn.2.connections turn.1).endpoint
  if (turn.2.endpoints ep).isOnline ∧ opt.closedHandler then [.closeEvent ep timeoutEvent] else []

/-- A turn queues its messages. -/
theorem queue_expire_eq (opt : ContainerOption) (s : ContainerState) (con : Nat) :
    (s.expire opt con).queue = s.queue ++ closeMessages opt (con, s) := by
  -- the destructor does not notify
  have hdestroy : ∀ t : ContainerState, (t.destroyConnection opt con).queue = t.queue := by
    intro t
    rw [destroyConnection, shutdownConnection]
    unfold Connection.shutdown
    split
    · simp
    · simp
  rw [expire, hdestroy, shutdownConnection, closeMessages]
  unfold Connection.shutdown onClosed
  cases (s.endpoints (s.connections con).endpoint).isOnline with
  | false => simp
  | true =>
      cases opt.closedHandler with
      | false => simp
      | true => simp

/-- The messages queued by the expiries are those of the connections in turn. -/
theorem queue_expireAll_eq (opt : ContainerOption) (cons : List Nat) (s : ContainerState) :
    (expireAll opt cons s).queue = s.queue ++ (turns opt cons s).flatMap (closeMessages opt) := by
  induction cons generalizing s with
  | nil => exact (List.append_nil _).symm
  | cons con rest ih =>
      show (expireAll opt rest (s.expire opt con)).queue = _
      rw [ih, queue_expire_eq, turns, List.flatMap_cons, List.append_assoc]

/-- What the turns queue does not depend on the slot table. -/
theorem turns_congr {t : ContainerState} (cons : List Nat) (hendpoints : t.endpoints = s.endpoints)
    (hconnections : t.connections = s.connections) :
    (turns opt cons t).flatMap (closeMessages opt) = (turns opt cons s).flatMap (closeMessages opt) := by
  induction cons generalizing s t with
  | nil => rfl
  | cons con rest ih =>
      have hfirst : closeMessages opt (con, t) = closeMessages opt (con, s) := by
        rw [closeMessages, closeMessages, hendpoints, hconnections]
      have hexpire : (t.expire opt con).endpoints = (s.expire opt con).endpoints ∧
          (t.expire opt con).connections = (s.expire opt con).connections := by
        simp [expire, destroyConnection, shutdownConnection, hendpoints, hconnections]
      rw [turns, turns, List.flatMap_cons, List.flatMap_cons, hfirst, ih hexpire.1 hexpire.2]

/-! ### The check -/

/-- What an unthrottled check at `now` leaves behind. -/
structure TimeoutSwept (opt : ContainerOption) (now : Int) (s s' : ContainerState) : Prop where
  /-- The live slots are those that were live and whose deadline is later. -/
  live : ∀ i, s'.slots.table.Live i ↔ s.slots.table.Live i ∧
    ∀ e ∈ s.slots.table.timeoutRecords.entries, e.val = i → now < e.key
  /-- The slots whose deadline has passed are emptied. -/
  emptied : ∀ e ∈ s.slots.table.timeoutRecords.entries, e.key ≤ now →
    s'.slots.table.mgr[e.val]? = some (none, .pastEnd)
  /-- Their records are erased, and no others. -/
  erased : s'.slots.table.timeoutRecords.entries =
    s.slots.table.timeoutRecords.entries.filter fun e => now < e.key
  /-- Their indices are appended to the free list. -/
  freed : s'.slots.table.freeIndexList =
    s.slots.table.freeIndexList ++ (s.slots.table.expired now).map MapEntry.val
  /-- Each index is appended once. -/
  once : ((s.slots.table.expired now).map MapEntry.val).Nodup
  /-- They are appended in deadline order. -/
  inOrder : (s.slots.table.expired now).Pairwise fun a b => a.key ≤ b.key
  /-- Every other slot keeps its connection and its iterator. -/
  kept : ∀ i, (∀ e ∈ s.slots.table.timeoutRecords.entries, e.val = i → now < e.key) →
    s'.slots.table.mgr[i]? = s.slots.table.mgr[i]?
  /-- Each connection taken out has its turn, in this order, and nothing else is queued. -/
  queued : ∃ cons : List Nat,
    cons.map some = (s.slots.table.expired now).map (fun e => s.occupant e.val) ∧
      s'.queue = s.queue ++ (turns opt cons s).flatMap (closeMessages opt)
  /-- The time of the check is noted. -/
  checked : s'.slots.lastCheckTime = now

/-- An unthrottled check returns and sweeps the table. -/
theorem onTimeoutCheck_sweeps (hinv : s.slots.table.Inv) {now : Int}
    (hdue : ¬ now - s.slots.lastCheckTime < 3000) :
    ∃ s', s.onTimeoutCheck opt now = some s' ∧ TimeoutSwept opt now s s' := by
  obtain ⟨t, cons, hsweep, h⟩ := hinv.sweeps now
  refine ⟨expireAll opt cons { s with slots := { table := t, lastCheckTime := now } }, ?_, ?_⟩
  · rw [onTimeoutCheck, if_neg hdue, hsweep]
    rfl
  have hslots : (expireAll opt cons { s with slots := { table := t, lastCheckTime := now } }).slots
      = { table := t, lastCheckTime := now } := slots_foldl_shutdown opt cons _
  refine ⟨?_, ?_, ?_, ?_, h.nodup, ?_, ?_, ⟨cons, h.taken, ?_⟩, by rw [hslots]⟩
  · rw [hslots]
    exact h.live_iff
  · rw [hslots]
    exact fun e he hdue => h.emptied he hdue
  · rw [hslots]
    exact h.entries
  · rw [hslots]
    exact h.free
  · exact s.slots.table.timeoutRecords.sorted.filter _
  · rw [hslots]
    exact fun i hlater => h.kept hlater
  · rw [queue_expireAll_eq]
    exact congrArg (s.queue ++ ·) (turns_congr cons rfl rfl)

end ContainerState

/-! ### Every run -/

/-- **The timeout check removes exactly the expired connections.** In every reachable state of a container
whose indices fit, a check less than three seconds after the last one changes nothing, and any other check
returns, with the expired connections taken out in deadline order and everything else as it was. -/
theorem timeoutCheck_removes_expired (opt : ContainerOption) (magicNumber : UInt16)
    (sockets : Nat → UInt64 × UInt16) (start : Int) (s : LifeState)
    (hs : (lifeMachine opt magicNumber sockets start).Reachable s)
    (hfit : s.container.slots.table.mgr.length ≤ 2 ^ 32) (now : Int) :
    (now - s.container.slots.lastCheckTime < 3000 →
      s.container.onTimeoutCheck opt now = some s.container) ∧
    (¬ now - s.container.slots.lastCheckTime < 3000 →
      ∃ c, s.container.onTimeoutCheck opt now = some c ∧ ContainerState.TimeoutSwept opt now s.container c) := by
  constructor
  · intro hthrottled
    rw [ContainerState.onTimeoutCheck, if_pos hthrottled]
  · intro hdue
    exact ContainerState.onTimeoutCheck_sweeps (lifeMachine_inv hs hfit) hdue

/-- One connection, attached at 0, is taken out by the check at 60000, and its index is free again. -/
theorem timeoutCheck_removes_expired_one_connection :
    ∃ (s : LifeState) (c : ContainerState),
      (lifeMachine { defaultContainerSize := 1, maxContainerSize := 1 } 7 (fun _ => (5, 0)) 0).run
        (lifeMachine { defaultContainerSize := 1, maxContainerSize := 1 } 7 (fun _ => (5, 0)) 0).init
        [.call (.attachEndpoint 0 false 0)] = some s ∧
      s.container.occupant 0 = some 0 ∧
      s.container.onTimeoutCheck { defaultContainerSize := 1, maxContainerSize := 1 } 60000 = some c ∧
      c.slots.table.freeIndexList = [0] ∧ ¬ c.slots.table.Live 0 := by
  obtain ⟨s, hrun, hlive, hlen, hlast, hfree, hentries⟩ : ∃ s : LifeState,
      (lifeMachine { defaultContainerSize := 1, maxContainerSize := 1 } 7 (fun _ => (5, 0)) 0).run
        (lifeMachine { defaultContainerSize := 1, maxContainerSize := 1 } 7 (fun _ => (5, 0)) 0).init
        [.call (.attachEndpoint 0 false 0)] = some s ∧ s.container.occupant 0 = some 0 ∧
      s.container.slots.table.mgr.length = 1 ∧ s.container.slots.lastCheckTime = 0 ∧
      s.container.slots.table.freeIndexList = [] ∧
      s.container.slots.table.timeoutRecords.entries = [⟨0, 60000, 0⟩] :=
    ⟨_, rfl, rfl, rfl, rfl, rfl, rfl⟩
  obtain ⟨c, hcheck, hswept⟩ := (timeoutCheck_removes_expired { defaultContainerSize := 1, maxContainerSize := 1 } 7
    (fun _ => (5, 0)) 0 s (Machine.reachable_of_run hrun) (by rw [hlen]; decide) 60000).2
    (by rw [hlast]; decide)
  refine ⟨s, c, hrun, hlive, hcheck, ?_, ?_⟩
  · rw [hswept.freed, hfree, SlotTable.expired, hentries]
    rfl
  · rw [hswept.live, hentries]
    intro h
    exact absurd (h.2 ⟨0, 60000, 0⟩ (List.mem_singleton.mpr rfl) rfl) (by decide)

end RaptorLite
