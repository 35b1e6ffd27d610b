import RaptorLite.Common.ContainerFrames

/-! # The deadlines of the slots

Every slot that is taken has one record in the multimap of deadlines. What the sections of `ContainerImpl` and the
calls made of them do to these deadlines is to give a slot a new one (an attach or `RefreshTime`), to take it away with
the slot, or nothing. -/

namespace RaptorLite

variable {κ : Type}

/-! ### The deadlines in the table -/

namespace SlotTable

/-- The table is in order and every record has the deadline of its slot. -/
structure Dated (t : SlotTable κ) (deadline : Nat → Int) : Prop where
  /-- The invariant of the table. -/
  inv : t.Inv
  /-- The deadlines. -/
  keys : ∀ e ∈ t.timeoutRecords.entries, e.key = deadline e.val

/-- Fewer records are dated as before. -/
theorem Dated.subset {t t' : SlotTable κ} {deadline : Nat → Int} (h : t.Dated deadline) (hinv : t'.Inv)
    (hsub : ∀ e ∈ t'.timeoutRecords.entries, e ∈ t.timeoutRecords.entries) : t'.Dated deadline :=
  ⟨hinv, fun e he => h.keys e (hsub e he)⟩

/-- A new record for slot `index`, in which no other record is left. -/
theorem Dated.insert {t t' : SlotTable κ} {deadline : Nat → Int} {index : Nat} {k : Int}
    (h : t.Dated deadline) (hinv : t'.Inv)
    (hentries : ∀ e ∈ t'.timeoutRecords.entries, e.val = index ∧ e.key = k ∨
      e ∈ t.timeoutRecords.entries ∧ e.val ≠ index) : t'.Dated (Function.update deadline index k) := by
  refine ⟨hinv, ?_⟩
  intro e he
  rcases hentries e he with ⟨hval, hkey⟩ | ⟨hold, hne⟩
  -- the new record, dated with the slot
  · rw [hval, Function.update_self, hkey]
  · rw [Function.update_of_ne hne]
    exact h.keys e hold

/-- A slot that is given out is dated with its deadline. -/
theorem Dated.attach {opt : ContainerOption} (hm : opt.maxContainerSize < 2 ^ 32) {t t' : SlotTable κ}
    {deadline : Nat → Int} {con : κ} {k : Int} {index : Nat} (h : t.Dated deadline)
    (hattach : t.attach opt con k = .ok (some index, t')) :
    t'.Dated (Function.update deadline index k) := by
  -- the slot that `attach` takes held no connection, hence no record
  obtain ⟨hinv, hvacant, -⟩ := h.inv.attach_vacant hm hattach
  apply h.insert hinv
  obtain ⟨t₁, rest, ht₁, -, -, rfl⟩ := attach_some hattach
  have hrecords : t₁.timeoutRecords = t.timeoutRecords := by
    rcases ht₁ with ⟨rfl, -⟩ | ⟨rfl, -, -⟩
    · rfl
    · rfl
  intro e he
  rcases OrderedMultimap.mem_insert.mp he with rfl | hold
  · exact Or.inl ⟨rfl, rfl⟩
  · -- a record belongs to a used slot, and slot `index` was empty
    rw [hrecords] at hold
    refine Or.inr ⟨hold, ?_⟩
    intro hval
    obtain ⟨c, hslot⟩ := h.inv.record_slot e hold
    rw [hval] at hslot
    rw [connection, hslot] at hvacant
    cases hvacant

/-- A slot that is given back has no record any more. -/
theorem Dated.deleteConnection {t t' : SlotTable κ} {deadline : Nat → Int} {index : Nat}
    (h : t.Dated deadline) (hdelete : t.deleteConnection index = .ok t') : t'.Dated deadline := by
  apply h.subset (h.inv.of_deleteConnection hdelete)
  unfold SlotTable.deleteConnection at hdelete
  split at hdelete
  · cases hdelete
  · cases hdelete
    exact fun e he => he
  · unfold SlotTable.releaseSlot at hdelete
    split at hdelete
    · cases hdelete
    · split at hdelete
      · cases hdelete
      · next herase =>
        cases hdelete
        exact fun e he => OrderedMultimap.mem_of_mem_erase herase he

/-- The sweep takes records out. -/
theorem Dated.timeoutSweep {t t' : SlotTable κ} {deadline : Nat → Int} {now : Int} {cs : List κ}
    (h : t.Dated deadline) (hsweep : t.timeoutSweep now = .ok (t', cs)) : t'.Dated deadline := by
  obtain ⟨t₁, cs₁, hsweep₁, hinv, -, hentries, -⟩ := h.inv.sweep_spec now
  rw [hsweep, Except.ok.injEq, Prod.mk.injEq] at hsweep₁
  obtain ⟨rfl, rfl⟩ := hsweep₁
  apply h.subset hinv
  rw [hentries]
  exact fun e he => (List.mem_filter.mp he).1

/-- `RefreshTime` dates a used slot anew and does nothing to an empty one. -/
theorem Dated.refreshTime {t t' : SlotTable κ} {deadline : Nat → Int} {index : Nat} {k : Int}
    (h : t.Dated deadline) (hrefresh : t.refreshTime index k = .ok t') :
    t.connection index = none ∧ t' = t ∨
      t.connection index ≠ none ∧ t'.Dated (Function.update deadline index k) := by
  have hinv := h.inv.of_refreshTime hrefresh
  unfold SlotTable.refreshTime at hrefresh
  split at hrefresh
  · cases hrefresh
  · next hslot =>
    cases hrefresh
    exact Or.inl ⟨by rw [connection, hslot]; rfl, rfl⟩
  · next con it hslot =>
    obtain ⟨records, herase, hentries⟩ := h.inv.erase_record hslot
    rw [herase] at hrefresh
    cases hrefresh
    refine Or.inr ⟨by rw [connection, hslot]; simp, ?_⟩
    apply h.insert hinv
    intro e he
    rcases OrderedMultimap.mem_insert.mp he with rfl | he
    · exact Or.inl ⟨rfl, rfl⟩
    · rw [hentries] at he
      -- the old record of the slot is erased, those of the other slots stay
      exact Or.inr (mem_filter_val_ne.mp he)

end SlotTable

/-! ### What a call does to the deadlines -/

/-- What a call means for the deadline of a slot. -/
inductive SlotTouch where
  /-- A connection is attached to the slot, or a receive event on it succeeds. -/
  | heard (index : Nat) (now : Int)
  /-- `RefreshTime` runs for another reason. -/
  | refreshed (index : Nat) (now : Int)
  /-- Neither. -/
  | untouched
  deriving DecidableEq, Repr

namespace ContainerState

/-- `RefreshTime` that is not due to a receive. -/
def touchRefresh (s : ContainerState) (index : Nat) (now : Int) : SlotTouch :=
  if s.occupant index = none then .untouched else .refreshed index now

/-- A receive event. -/
def touchRecv (s : ContainerState) (index : Nat) (input : EventInput) : SlotTouch :=
  match s.occupant index with
  | none => .untouched
  | some con =>
      let c := s.connections con
      match c.doRecvEvent (s.endpoints c.endpoint) input.recvs input.errno with
      | none => .untouched
      | some r => if r.error = none then .heard index input.now else .untouched

/-- A poll event. -/
def touchEvent (opt : ContainerOption) (magicNumber : UInt16) (s : ContainerState) (detail : EventDetail)
    (input : EventInput) : SlotTouch :=
  match checkConnectionId opt magicNumber detail.ptr with
  | none => .untouched
  | some index =>
      if hasBit detail.eventType kErrorEvent then .untouched
      -- one event is handled for one reason: an event that is also writable counts as a receive
      else if hasBit detail.eventType kRecvEvent then s.touchRecv index.toNat input
      else if hasBit detail.eventType kSendEvent then s.touchRefresh index.toNat input.now
      else .untouched

/-- A call on the container. -/
def touch (opt : ContainerOption) (magicNumber : UInt16) (s : ContainerState) :
    ContainerAction → SlotTouch
  | .attachEndpoint _ _ now =>
      match s.slots.table.attach opt s.nextConnection (deadlineLine opt now) with
      | .ok (some index, _) => .heard index now
      | _ => .untouched
  | .onEventProcess detail input => s.touchEvent opt magicNumber detail input
  | _ => .untouched

end ContainerState

/-- The deadlines behind a call. -/
def SlotTouch.date (opt : ContainerOption) (deadline : Nat → Int) : SlotTouch → Nat → Int
  | .heard index now | .refreshed index now => Function.update deadline index (deadlineLine opt now)
  | .untouched => deadline

namespace ContainerState

variable {opt : ContainerOption} {magicNumber : UInt16} {s s' : ContainerState} {index con : Nat}

/-- From one state to the next the table stays in order, with the deadlines that `touch` says. -/
def Dates (opt : ContainerOption) (touch : SlotTouch) (s s' : ContainerState) : Prop :=
  ∀ deadline, s.slots.table.Dated deadline → s'.slots.table.Dated (touch.date opt deadline)

/-- A step that does not touch the table leaves its deadlines. -/
theorem dates_of_table_eq (h : s'.slots.table = s.slots.table) : Dates opt .untouched s s' := by
  intro deadline hdated
  rw [h]
  exact hdated

/-- What happens before a step and leaves the table alone does not matter. -/
theorem Dates.of_table_eq {s₁ : ContainerState} {touch : SlotTouch} (h : Dates opt touch s₁ s')
    (htable : s₁.slots.table = s.slots.table) : Dates opt touch s s' := by
  intro deadline hdated
  exact h deadline (by rw [htable]; exact hdated)

/-- `DeleteConnection` leaves the other deadlines. -/
theorem dates_deleteConnection (h : s.deleteConnection index = some s') : Dates opt .untouched s s' := by
  obtain ⟨t, ht, rfl⟩ := Option.map_eq_some_iff.mp h
  intro deadline hdated
  exact hdated.deleteConnection (eq_ok_of_toOption ht)

/-- Dropping a connection leaves the other deadlines. -/
theorem dates_dropConnection {notify : Bool} {ev : Event}
    (h : s.dropConnection opt index con notify ev = some s') : Dates opt .untouched s s' := by
  obtain ⟨s₁, hdel, rfl⟩ := Option.map_eq_some_iff.mp h
  intro deadline hdated
  exact @dates_deleteConnection opt (s.shutdownConnection opt con notify ev) s₁ index hdel deadline hdated

/-- `RefreshTime` dates its slot anew. -/
theorem dates_refreshTime {now : Int} (h : s.refreshTime opt index now = some s') :
    Dates opt (s.touchRefresh index now) s s' := by
  obtain ⟨t, ht, rfl⟩ := Option.map_eq_some_iff.mp h
  intro deadline hdated
  rcases hdated.refreshTime (eq_ok_of_toOption ht) with ⟨hnone, rfl⟩ | ⟨hlive, hdated'⟩
  · rw [touchRefresh, occupant, if_pos hnone]
    exact hdated
  · rw [touchRefresh, occupant, if_neg hlive]
    exact hdated'

/-- `OnRecvEvent` dates its slot anew if the connection lives. -/
theorem dates_onRecvEvent {input : EventInput} (h : s.onRecvEvent opt index input = some s') :
    Dates opt (s.touchRecv index input) s s' := by
  obtain ⟨o, ho, hk⟩ := Option.bind_eq_some_iff.mp h
  have hoccupant := getConnection_eq ho
  rw [touchRecv, ← hoccupant]
  cases o with
  | none =>
      cases hk
      exact dates_of_table_eq rfl
  | some con =>
      obtain ⟨r, hr, hk⟩ := Option.bind_eq_some_iff.mp hk
      simp only [hr]
      cases herror : r.error with
      | none =>
          rw [herror] at hk
          -- the slot is in use, so the refresh dates it
          have hlive : s.occupant index ≠ none := by rw [← hoccupant]; simp
          have hdates : Dates opt (s.touchRefresh index input.now) s s' :=
            (dates_refreshTime hk).of_table_eq rfl
          rw [touchRefresh, if_neg hlive] at hdates
          rw [if_pos rfl]
          exact hdates
      | some err =>
          rw [herror] at hk
          rw [if_neg (by simp)]
          exact (dates_dropConnection hk).of_table_eq rfl

/-- `OnSendEvent` dates its slot anew if the connection lives. -/
theorem dates_onSendEvent {input : EventInput} (h : s.onSendEvent opt index input = some s') :
    Dates opt (s.touchRefresh index input.now) s s' := by
  obtain ⟨o, ho, hk⟩ := Option.bind_eq_some_iff.mp h
  have hoccupant := getConnection_eq ho
  cases o with
  | none =>
      cases hk
      rw [touchRefresh, if_pos hoccupant.symm]
      exact dates_of_table_eq rfl
  | some con =>
      -- the refresh does not depend on what `DoSendEvent` returned
      obtain ⟨r, -, hk⟩ := Option.bind_eq_some_iff.mp hk
      exact (dates_refreshTime hk).of_table_eq rfl

/-- A handler that looks a slot up and then at most drops what it finds. -/
theorem dates_of_bind {k : Option Nat → Option ContainerState} (hnone : k none = some s)
    (hsome : ∀ con, k (some con) = some s' → Dates opt .untouched s s')
    (h : (s.getConnection index).bind k = some s') : Dates opt .untouched s s' := by
  obtain ⟨o, -, hk⟩ := Option.bind_eq_some_iff.mp h
  cases o with
  | none =>
      rw [hnone, Option.some.injEq] at hk
      exact dates_of_table_eq (by rw [hk])
  | some con => exact hsome con hk

/-- `OnEventProcess` dates what its handlers date. -/
theorem dates_onEventProcess {detail : EventDetail} {input : EventInput}
    (h : s.onEventProcess opt magicNumber detail input = some s') :
    Dates opt (s.touchEvent opt magicNumber detail input) s s' := by
  unfold onEventProcess at h
  rw [touchEvent]
  cases hcheck : checkConnectionId opt magicNumber detail.ptr with
  | none =>
      rw [hcheck, Option.some.injEq] at h
      exact dates_of_table_eq (by rw [h])
  | some index =>
      rw [hcheck] at h
      simp only at h ⊢
      split at h
      · next herror =>
        rw [if_pos herror]
        exact dates_of_bind rfl (fun _ hk => dates_dropConnection hk) h
      · next herror =>
        rw [if_neg herror]
        split at h
        · next hrecv =>
          rw [if_pos hrecv]
          exact dates_onRecvEvent h
        · next hrecv =>
          rw [if_neg hrecv]
          split at h
          · next hsend =>
            rw [if_pos hsend]
            exact dates_onSendEvent h
          · next hsend =>
            rw [if_neg hsend]
            exact dates_of_table_eq (by rw [Option.some.inj h])

/-- `CloseEndpoint` leaves the other deadlines. -/
theorem dates_closeEndpoint {ep : Nat} {eventNotify : Bool}
    (h : s.closeEndpoint opt magicNumber ep eventNotify = some s') : Dates opt .untouched s s' := by
  unfold closeEndpoint at h
  split at h
  · exact dates_of_table_eq (by rw [Option.some.inj h])
  · exact dates_of_bind rfl (fun _ hk => dates_dropConnection hk) h

/-- `SendMsg` does not touch the table. -/
theorem table_sendMsg {cid : UInt64} {slice : Slice} {r : Bool × ContainerState}
    (h : s.sendMsg opt magicNumber cid slice = some r) : r.2.slots.table = s.slots.table := by
  unfold sendMsg at h
  split at h
  · cases h
    rfl
  · obtain ⟨o, -, rfl⟩ := Option.map_eq_some_iff.mp h
    cases o with
    | none => rfl
    | some con => rfl

/-- `OnTimeoutCheck` leaves the other deadlines. -/
theorem dates_onTimeoutCheck {now : Int} (h : s.onTimeoutCheck opt now = some s') :
    Dates opt .untouched s s' := by
  unfold onTimeoutCheck at h
  split at h
  · exact dates_of_table_eq (by rw [Option.some.inj h])
  · obtain ⟨⟨t, cons⟩, hsweep, rfl⟩ := Option.map_eq_some_iff.mp h
    intro deadline hdated
    show SlotTable.Dated _ deadline
    rw [slots_foldl_shutdown]
    exact hdated.timeoutSweep (eq_ok_of_toOption hsweep)

/-- Every call dates the slots as `touch` says. -/
theorem dates_exec (hm : opt.maxContainerSize < 2 ^ 32) {a : ContainerAction}
    (h : s.exec opt magicNumber a = some s') : Dates opt (s.touch opt magicNumber a) s s' := by
  cases a with
  | attachEndpoint ep notify now =>
      rw [touch]
      rcases attachEndpoint_cases h with ⟨rfl, t, hnone⟩ | ⟨index, hattach⟩
      · rw [hnone]
        exact dates_of_table_eq rfl
      · rw [hattach.table]
        exact fun deadline hdated => hdated.attach hm hattach.table
  | sendMsg cid slice =>
      simp only [exec] at h
      split at h
      · exact dates_of_table_eq (by rw [Option.some.inj h])
      · obtain ⟨r, hr, rfl⟩ := Option.map_eq_some_iff.mp h
        exact dates_of_table_eq (table_sendMsg hr)
  | endpointSendMsg ep slice =>
      simp only [exec, endpointSendMsg] at h
      split at h
      · exact dates_of_table_eq (by rw [Option.some.inj h])
      · split at h
        · obtain ⟨r, hr, rfl⟩ := Option.map_eq_some_iff.mp h
          exact dates_of_table_eq (table_sendMsg hr)
        · cases h
          exact dates_of_table_eq rfl
  | closeEndpoint ep eventNotify => exact dates_closeEndpoint h
  | endpointClose ep notify =>
      rw [exec, endpointClose] at h
      split at h
      · exact dates_closeEndpoint h
      · exact dates_of_table_eq (by rw [← Option.some.inj h])
  | onEventProcess detail input => exact dates_onEventProcess h
  | onTimeoutCheck now => exact dates_onTimeoutCheck h

end ContainerState

end RaptorLite
