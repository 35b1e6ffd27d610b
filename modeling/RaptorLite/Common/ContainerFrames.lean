import RaptorLite.Common.ConnectionIds

/-! # What a call on the container leaves alone

Every call on a container either attaches a connection, which `Attaches` describes, or is quiet: no slot is
filled, no endpoint comes online, no handle id changes, no timer is set and no heartbeat is queued. The
results about timers and timeouts look at the container only through these two. -/

namespace RaptorLite

/-- The endpoint of a queued heartbeat. -/
def TcpMessage.heartbeat? : TcpMessage → Option Nat
  | .heartbeatEvent ep => some ep
  | _ => none

namespace ContainerState

/-- The endpoints for which a heartbeat was queued, in order. -/
def heartbeats (s : ContainerState) : List Nat := s.queue.filterMap TcpMessage.heartbeat?

/-- A step that attaches nothing, seen from the heartbeats: no endpoint comes online, no handle id
changes, no timer is set and no heartbeat is queued. -/
structure Quiet (s s' : ContainerState) : Prop extends Shrinks s s' where
  /-- Handle ids stay. -/
  handleId : ∀ c, (s'.connections c).handleId = (s.connections c).handleId
  /-- No endpoint comes online. -/
  online : ∀ e, (s'.endpoints e).isOnline = true → (s.endpoints e).isOnline = true
  /-- No timer is set. -/
  timers : s'.timers = s.timers
  /-- No handle id is used up. -/
  counter : s'.globalCounter = s.globalCounter
  /-- No heartbeat is queued. -/
  heartbeats : s'.heartbeats = s.heartbeats
  /-- The table keeps its size. -/
  length : s'.slots.table.mgr.length = s.slots.table.mgr.length

/-- Doing nothing is quiet. -/
theorem Quiet.refl (s : ContainerState) : Quiet s s :=
  ⟨Shrinks.refl s, fun _ => rfl, fun _ h => h, rfl, rfl, rfl, rfl⟩

/-- Quiet steps compose. -/
theorem Quiet.trans {s₁ s₂ s₃ : ContainerState} (h : Quiet s₁ s₂) (h' : Quiet s₂ s₃) : Quiet s₁ s₃ where
  toShrinks := h.toShrinks.trans h'.toShrinks
  handleId c := (h'.handleId c).trans (h.handleId c)
  online e he := h.online e (h'.online e he)
  timers := h'.timers.trans h.timers
  counter := h'.counter.trans h.counter
  heartbeats := h'.heartbeats.trans h.heartbeats
  length := h'.length.trans h.length

section Quiet

variable {opt : ContainerOption} {magicNumber : UInt16} {s s' : ContainerState} {index con : Nat}

/-- Received data is no heartbeat. -/
theorem filterMap_heartbeat_data (ep : Nat) (slices : List Slice) :
    (slices.map (TcpMessage.recvAMessage ep)).filterMap TcpMessage.heartbeat? = [] := by
  rw [List.filterMap_eq_nil_iff]
  intro m hm
  obtain ⟨slice, -, rfl⟩ := List.mem_map.mp hm
  rfl

/-- Replacing a connection object, with the data it received queued. -/
theorem quiet_update {c : Connection} (hendpoint : c.endpoint = (s.connections con).endpoint)
    (hhandle : c.handleId = (s.connections con).handleId) {queue : List TcpMessage}
    (hqueue : ∃ slices : List Slice,
      queue = s.queue ++ slices.map (TcpMessage.recvAMessage (s.connections con).endpoint))
    (calls : List PollCall) :
    Quiet s
      { s with connections := Function.update s.connections con c, queue := queue, calls := calls } where
  toShrinks := (onlyTouches_update 0 hendpoint queue calls).toShrinks
  handleId d := by
    by_cases hd : d = con
    · subst hd
      simpa using hhandle
    · simp [hd]
  online _ h := h
  timers := rfl
  counter := rfl
  heartbeats := by
    obtain ⟨slices, rfl⟩ := hqueue
    rw [heartbeats, List.filterMap_append, filterMap_heartbeat_data, List.append_nil, heartbeats]
  length := rfl

/-- Shutting a connection down is quiet. -/
theorem quiet_shutdownConnection (opt : ContainerOption) (s : ContainerState) (con : Nat) (notify : Bool)
    (ev : Event) : Quiet s (s.shutdownConnection opt con notify ev) where
  toShrinks := (onlyTouches_shutdownConnection opt 0 con s notify ev).toShrinks
  handleId d := by
    by_cases hd : d = con
    · subst hd
      simp [shutdownConnection]
    · simp [shutdownConnection, hd]
  online e he := by
    by_cases h : e = (s.connections con).endpoint
    · subst h
      simp [shutdownConnection] at he
    · simpa [shutdownConnection, h] using he
  timers := rfl
  counter := rfl
  heartbeats := by
    -- what `OnClosed` queues is a close event
    have hnone : ∀ n : Option Event, ((n.toList.map (onClosed opt (s.connections con).endpoint)).flatten
        ).filterMap TcpMessage.heartbeat? = [] := by
      intro n
      cases n with
      | none => rfl
      | some ev => cases h : opt.closedHandler <;> simp [onClosed, h, TcpMessage.heartbeat?]
    simp only [heartbeats, shutdownConnection, List.filterMap_append, hnone, List.append_nil]
  length := rfl

/-- `DeleteConnection` is quiet. -/
theorem quiet_deleteConnection (hindex : index < 2 ^ 32) (h : s.deleteConnection index = some s') :
    Quiet s s' := by
  have honly : OnlyTouches index 0 s s' := onlyTouches_deleteConnection hindex h
  obtain ⟨t, ht, rfl⟩ := Option.map_eq_some_iff.mp h
  have hlength := (SlotTable.connection_deleteConnection (eq_ok_of_toOption ht)).1
  exact ⟨honly.toShrinks, fun _ => rfl, fun _ h => h, rfl, rfl, rfl, hlength⟩

/-- `RefreshTime` is quiet. -/
theorem quiet_refreshTime {now : Int} (hindex : index < 2 ^ 32)
    (h : s.refreshTime opt index now = some s') : Quiet s s' := by
  have honly : OnlyTouches index 0 s s' := onlyTouches_refreshTime hindex h
  obtain ⟨t, ht, rfl⟩ := Option.map_eq_some_iff.mp h
  have hlength := (SlotTable.connection_refreshTime (eq_ok_of_toOption ht)).1
  exact ⟨honly.toShrinks, fun _ => rfl, fun _ h => h, rfl, rfl, rfl, hlength⟩

/-- Any sequence of accesses to one slot is quiet. -/
theorem SlotSteps.quiet (hindex : index < 2 ^ 32) (h : SlotSteps opt index con s s') : Quiet s s' := by
  induction h with
  | refl s => exact Quiet.refl s
  | update c queue calls hendpoint hhandle hqueue => exact quiet_update hendpoint hhandle hqueue calls
  | shutdownConnection notify ev => exact quiet_shutdownConnection opt _ con notify ev
  | deleteConnection h => exact quiet_deleteConnection hindex h
  | refreshTime now h => exact quiet_refreshTime hindex h
  | trans _ _ ih ih' => exact ih.trans ih'

/-- A handler attaches nothing. -/
theorem RunsOnSlot.quiet (hindex : index < 2 ^ 32) (h : RunsOnSlot opt index s s') : Quiet s s' := by
  rcases h with rfl | ⟨con, -, h⟩
  · exact Quiet.refl _
  · exact h.quiet hindex

/-- Closing an endpoint that was never attached. -/
theorem quiet_closeDetached (s : ContainerState) (ep : Nat) (closedFds : List UInt64) :
    Quiet s { s with
      endpoints := Function.update s.endpoints ep { s.endpoints ep with fd := closedFd }
      closedFds := closedFds } := by
  refine ⟨⟨fun _ => rfl, fun _ _ h => h, rfl, rfl, fun h => h⟩, fun _ => rfl, ?_, rfl, rfl, rfl, rfl⟩
  intro e he
  by_cases hep : e = ep
  · subst hep
    simp [EndpointImpl.isOnline] at he
  · simpa [hep] using he

/-- Shutting down and destroying connections, one after the other. -/
theorem quiet_foldl_shutdown (opt : ContainerOption) (cons : List Nat) (s : ContainerState) :
    Quiet s (cons.foldl
      (fun s con => (s.shutdownConnection opt con true timeoutEvent).destroyConnection opt con) s) := by
  induction cons generalizing s with
  | nil => exact Quiet.refl s
  | cons con rest ih =>
      exact ((quiet_shutdownConnection opt s con true timeoutEvent).trans
        (quiet_shutdownConnection opt _ con false {})).trans (ih _)

/-- It leaves the slot table alone. -/
theorem slots_foldl_shutdown (opt : ContainerOption) (cons : List Nat) (s : ContainerState) :
    (cons.foldl (fun s con => (s.shutdownConnection opt con true timeoutEvent).destroyConnection opt con)
      s).slots = s.slots := by
  -- shutting a connection down touches its endpoint and the queue only
  induction cons generalizing s with
  | nil => rfl
  | cons con rest ih => exact ih _

/-- `OnTimeoutCheck` is quiet. -/
theorem quiet_onTimeoutCheck {now : Int} (h : s.onTimeoutCheck opt now = some s') : Quiet s s' := by
  have hshrinks := shrinks_onTimeoutCheck h
  unfold onTimeoutCheck at h
  split at h
  · exact Option.some.inj h ▸ Quiet.refl s
  · obtain ⟨⟨t, cons⟩, hsweep, rfl⟩ := Option.map_eq_some_iff.mp h
    -- the sweep changes the table, the shutdowns behind it do not
    have hlength := (SlotTable.connection_timeoutSweep (eq_ok_of_toOption hsweep)).1
    have hrest := quiet_foldl_shutdown opt cons { s with slots := { table := t, lastCheckTime := now } }
    exact ⟨hshrinks, hrest.handleId, hrest.online, hrest.timers, hrest.counter, hrest.heartbeats,
      hrest.length.trans hlength⟩

/-- A call attaches, or is quiet. -/
theorem exec_cases {a : ContainerAction} (h : s.exec opt magicNumber a = some s') :
    Quiet s s' ∨ ∃ ep now index, Attaches opt magicNumber ep index now s s' := by
  cases hid : a.carriedId s with
  | some cid => exact Or.inl ((runsOnSlot_exec hid h).quiet (getUserId cid).toNat_lt)
  | none =>
      cases a with
      | attachEndpoint ep notify now =>
          rcases attachEndpoint_cases h with ⟨rfl, -⟩ | ⟨index, hattach⟩
          · exact Or.inl (Quiet.refl _)
          · exact Or.inr ⟨ep, now, index, hattach⟩
      | onTimeoutCheck now => exact Or.inl (quiet_onTimeoutCheck h)
      | sendMsg cid slice => cases hid
      | closeEndpoint ep eventNotify => cases hid
      | onEventProcess detail input => cases hid
      | endpointSendMsg ep slice =>
          rw [endpointSendMsg_detached hid h]
          exact Or.inl (Quiet.refl s)
      | endpointClose ep notify =>
          rw [endpointClose_detached hid h]
          exact Or.inl (quiet_closeDetached s ep _)

end Quiet

/-! ### What attaching leaves alone -/

section Attaches

variable {opt : ContainerOption} {magicNumber : UInt16} {ep index : Nat} {now : Int}
  {s s' : ContainerState}

/-- The connections made before are as they were. -/
theorem Attaches.connections_of_lt (h : Attaches opt magicNumber ep index now s s') {con : Nat}
    (hcon : con < s.nextConnection) : s'.connections con = s.connections con := by
  rw [h.connections]
  exact Function.update_of_ne (Nat.ne_of_lt hcon) _ _

/-- Attaching gives an endpoint an id, which does not bring it online. -/
theorem Attaches.isOnline (h : Attaches opt magicNumber ep index now s s') (e : Nat) :
    (s'.endpoints e).isOnline = (s.endpoints e).isOnline := by
  rw [h.endpoints]
  by_cases he : e = ep
  · rw [he, Function.update_self]
    rfl
  · rw [Function.update_of_ne he]

/-- No heartbeat is queued. -/
theorem Attaches.heartbeats (h : Attaches opt magicNumber ep index now s s') :
    s'.heartbeats = s.heartbeats := by
  rcases h.queue with hq | hq
  · rw [ContainerState.heartbeats, hq, ContainerState.heartbeats]
  · rw [ContainerState.heartbeats, hq, ContainerState.heartbeats, List.filterMap_append]
    exact List.append_nil _

/-- A connection in a slot is the new one, or was there. -/
theorem Attaches.connection_cases (h : Attaches opt magicNumber ep index now s s') {i con : Nat}
    (hi : s'.slots.table.connection i = some con) :
    (i = index ∧ con = s.nextConnection) ∨ s.slots.table.connection i = some con := by
  obtain ⟨-, -, hcon⟩ := SlotTable.attach_ok h.table
  rw [hcon] at hi
  by_cases heq : i = index
  · rw [if_pos heq, Option.some.injEq] at hi
    exact Or.inl ⟨heq, hi.symm⟩
  · rw [if_neg heq] at hi
    exact Or.inr hi

end Attaches

end ContainerState

end RaptorLite
