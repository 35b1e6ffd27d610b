import RaptorLite.Common.Container
import RaptorLite.Common.SlotTableRuns

/-! # Whom a connection id addresses

A connection id is made of the container's magic number, a listening port and a slot index, and slot
indices are used again. The results here say which connection an operation with a given id can reach.
Every such operation looks a slot up and runs a few steps on the connection it finds (`RunsOnSlot`); the
tool is the relation `OnlyTouches index con`: steps on the connection `con` in slot `index` change that
connection, its endpoint and that slot, and nothing else. With the invariant that the connection in a
slot belongs to the endpoint most recently attached there, an id is safe to use exactly as long as that
endpoint is the one it was issued to. -/

namespace RaptorLite

namespace ContainerState

/-- The endpoint most recently attached to a slot. -/
def lastHolder (s : ContainerState) (index : Nat) : Option Nat :=
  (s.issued.find? fun p => (getUserId p.2).toNat = index).map Prod.fst

/-- The connection in a slot belongs to the endpoint most recently attached there. -/
structure IdInv (s : ContainerState) : Prop where
  /-- Indices are `uint32_t` values. -/
  fit : s.slots.table.IndicesFit
  /-- The owner of the connection in a slot. -/
  holder : ∀ i con, s.occupant i = some con →
    s.lastHolder i = some (s.connections con).endpoint
  /-- Connections in slots were made before. -/
  old : ∀ i con, s.occupant i = some con → con < s.nextConnection

/-- Nothing of endpoint `ep` differs between two states: neither its own state, nor its connections
with their buffers, nor the slots they are in. -/
structure Untouched (ep : Nat) (s s' : ContainerState) : Prop where
  /-- The endpoint; in particular it is online if it was. -/
  endpoint : s'.endpoints ep = s.endpoints ep
  /-- Its connections, with their send and receive buffers. -/
  connection : ∀ con, (s.connections con).endpoint = ep → s'.connections con = s.connections con
  /-- The slots of its connections. -/
  slot : ∀ i con, s.occupant i = some con → (s.connections con).endpoint = ep →
    s'.occupant i = some con

/-! ### Steps that make the table smaller -/

/-- A step that attaches nothing: connections keep their endpoints and slots are at most emptied. -/
structure Shrinks (s s' : ContainerState) : Prop where
  /-- Connections keep their endpoints. -/
  endpoint : ∀ c, (s'.connections c).endpoint = (s.connections c).endpoint
  /-- No slot is filled. -/
  slots : ∀ i c, s'.occupant i = some c → s.occupant i = some c
  /-- No connection is made. -/
  next : s'.nextConnection = s.nextConnection
  /-- No id is issued. -/
  issued : s'.issued = s.issued
  /-- Indices stay `uint32_t` values. -/
  fit : s.slots.table.IndicesFit → s'.slots.table.IndicesFit

/-- Nothing happens. -/
theorem Shrinks.refl (s : ContainerState) : Shrinks s s :=
  ⟨fun _ => rfl, fun _ _ h => h, rfl, rfl, fun h => h⟩

/-- One step after another. -/
theorem Shrinks.trans {s₁ s₂ s₃ : ContainerState} (h : Shrinks s₁ s₂) (h' : Shrinks s₂ s₃) :
    Shrinks s₁ s₃ where
  endpoint c := (h'.endpoint c).trans (h.endpoint c)
  slots i c hc := h.slots i c (h'.slots i c hc)
  next := h'.next.trans h.next
  issued := h'.issued.trans h.issued
  fit hf := h'.fit (h.fit hf)

/-- A step that attaches nothing keeps the owners of the slots. -/
theorem IdInv.shrinks {s s' : ContainerState} (h : s.IdInv) (hs : Shrinks s s') : s'.IdInv where
  fit := hs.fit h.fit
  holder i con hcon := by
    rw [lastHolder, hs.issued, hs.endpoint]
    exact h.holder i con (hs.slots i con hcon)
  old i con hcon := by
    rw [hs.next]
    exact h.old i con (hs.slots i con hcon)

/-! ### Steps on one connection -/

/-- Only slot `index`, the connection `con` and its endpoint may differ between two states. -/
structure OnlyTouches (index con : Nat) (s s' : ContainerState) : Prop extends Shrinks s s' where
  /-- Other endpoints are as before. -/
  endpoints : ∀ e, e ≠ (s.connections con).endpoint → s'.endpoints e = s.endpoints e
  /-- Other connections are as before. -/
  connections : ∀ c, c ≠ con → s'.connections c = s.connections c
  /-- Other slots are as before. -/
  otherSlots : ∀ i, i ≠ index → s'.occupant i = s.occupant i

section OnlyTouches

variable {opt : ContainerOption} {index con : Nat} {s s' : ContainerState}

/-- One step after another, on the same connection. -/
theorem OnlyTouches.trans {s₁ s₂ s₃ : ContainerState} (h : OnlyTouches index con s₁ s₂)
    (h' : OnlyTouches index con s₂ s₃) : OnlyTouches index con s₁ s₃ where
  toShrinks := h.toShrinks.trans h'.toShrinks
  endpoints e he := (h'.endpoints e (by rw [h.endpoint]; exact he)).trans (h.endpoints e he)
  connections c hc := (h'.connections c hc).trans (h.connections c hc)
  otherSlots i hi := (h'.otherSlots i hi).trans (h.otherSlots i hi)

/-- Replacing a connection object, with whatever is logged next to it. -/
theorem onlyTouches_update (index : Nat) {c : Connection} (hc : c.endpoint = (s.connections con).endpoint)
    (queue : List TcpMessage) (calls : List PollCall) :
    OnlyTouches index con s
      { s with connections := Function.update s.connections con c, queue := queue, calls := calls } where
  endpoint d := by
    by_cases hd : d = con
    · subst hd
      simpa using hc
    · simp [hd]
  slots _ _ h := h
  next := rfl
  issued := rfl
  fit h := h
  endpoints _ _ := rfl
  connections d hd := Function.update_of_ne hd _ _
  otherSlots _ _ := rfl

/-- `Connection::Shutdown` touches its connection and its endpoint. -/
theorem onlyTouches_shutdownConnection (opt : ContainerOption) (index con : Nat)
    (s : ContainerState) (notify : Bool) (ev : Event) :
    OnlyTouches index con s (s.shutdownConnection opt con notify ev) where
  endpoint d := by
    by_cases hd : d = con
    · subst hd
      simp [shutdownConnection]
    · simp [shutdownConnection, hd]
  slots _ _ h := h
  next := rfl
  issued := rfl
  fit h := h
  endpoints _ he := Function.update_of_ne he _ _
  connections d hd := Function.update_of_ne hd _ _
  otherSlots _ _ := rfl

/-- A new table behind a locked section that at most empties slot `index`. -/
theorem onlyTouches_table {t : SlotTable Nat}
    (hcon : ∀ j, t.connection j = if j = index then none else s.occupant j)
    (hfit : s.slots.table.IndicesFit → t.IndicesFit) :
    OnlyTouches index con s { s with slots := { s.slots with table := t } } where
  endpoint _ := rfl
  slots i c h := by
    have hi := hcon i
    split at hi
    · change t.connection i = some c at h
      rw [hi] at h
      cases h
    · exact hi ▸ h
  next := rfl
  issued := rfl
  fit := hfit
  endpoints _ _ := rfl
  connections _ _ := rfl
  otherSlots i hi := (hcon i).trans (if_neg hi)

/-- `DeleteConnection` touches its slot. -/
theorem onlyTouches_deleteConnection (hindex : index < 2 ^ 32)
    (h : s.deleteConnection index = some s') : OnlyTouches index con s s' := by
  obtain ⟨t, ht, rfl⟩ := Option.map_eq_some_iff.mp h
  have hok : s.slots.table.deleteConnection index = .ok t := eq_ok_of_toOption ht
  exact onlyTouches_table (SlotTable.connection_deleteConnection hok).2
    fun hfit => hfit.deleteConnection hindex hok

/-- `RefreshTime` touches the record of its slot. -/
theorem onlyTouches_refreshTime {now : Int} (hindex : index < 2 ^ 32)
    (h : s.refreshTime opt index now = some s') : OnlyTouches index con s s' := by
  obtain ⟨t, ht, rfl⟩ := Option.map_eq_some_iff.mp h
  have hok := eq_ok_of_toOption ht
  have hcon := (SlotTable.connection_refreshTime hok).2
  refine ⟨⟨fun _ => rfl, ?_, rfl, rfl, fun hfit => hfit.refreshTime hindex hok⟩,
    fun _ _ => rfl, fun _ _ => rfl, fun i _ => hcon i⟩
  intro i c hc
  rw [occupant, ← hcon i]
  exact hc

end OnlyTouches

/-! ### Handlers that look a slot up -/

/-- What a handler for slot `index` does: nothing, or something to the connection it finds there. -/
def HandlesSlot (index : Nat) (s s' : ContainerState) : Prop :=
  s' = s ∨ ∃ con, s.occupant index = some con ∧ OnlyTouches index con s s'

/-- A handler attaches nothing. -/
theorem HandlesSlot.shrinks {index : Nat} {s s' : ContainerState} (h : HandlesSlot index s s') :
    Shrinks s s' := by
  rcases h with rfl | ⟨con, -, h⟩
  · exact Shrinks.refl _
  · exact h.toShrinks

/-- A lookup that returns shows what is in the slot. -/
theorem getConnection_eq {s : ContainerState} {index : Nat} {o : Option Nat}
    (h : s.getConnection index = some o) : o = s.occupant index :=
  (SlotTable.getConnection_eq_ok (eq_ok_of_toOption h)).symm

/-- What a handler does to the connection `con` that it found in slot `index`, step by step. -/
inductive SlotSteps (opt : ContainerOption) (index con : Nat) : ContainerState → ContainerState → Prop
  /-- Nothing. -/
  | refl (s : ContainerState) : SlotSteps opt index con s s
  /-- The connection receives or sends; what it received is queued. -/
  | update {s : ContainerState} (c : Connection) (queue : List TcpMessage) (calls : List PollCall)
      (hendpoint : c.endpoint = (s.connections con).endpoint)
      (hhandle : c.handleId = (s.connections con).handleId)
      (hqueue : ∃ slices : List Slice,
        queue = s.queue ++ slices.map (TcpMessage.recvAMessage (s.connections con).endpoint)) :
      SlotSteps opt index con s
        { s with connections := Function.update s.connections con c, queue := queue, calls := calls }
  /-- `Connection::Shutdown`, also in the destructor. -/
  | shutdownConnection {s : ContainerState} (notify : Bool) (ev : Event) :
      SlotSteps opt index con s (s.shutdownConnection opt con notify ev)
  /-- `DeleteConnection`. -/
  | deleteConnection {s s' : ContainerState} (h : s.deleteConnection index = some s') :
      SlotSteps opt index con s s'
  /-- `RefreshTime`. -/
  | refreshTime {s s' : ContainerState} (now : Int) (h : s.refreshTime opt index now = some s') :
      SlotSteps opt index con s s'
  /-- One after the other. -/
  | trans {s₁ s₂ s₃ : ContainerState} (h : SlotSteps opt index con s₁ s₂)
      (h' : SlotSteps opt index con s₂ s₃) : SlotSteps opt index con s₁ s₃

/-- What a handler for slot `index` runs: nothing, or steps on the connection it finds there. -/
def RunsOnSlot (opt : ContainerOption) (index : Nat) (s s' : ContainerState) : Prop :=
  s' = s ∨ ∃ con, s.occupant index = some con ∧ SlotSteps opt index con s s'

section Handlers

variable {opt : ContainerOption} {magicNumber : UInt16} {index con : Nat} {s s' : ContainerState}

/-- The steps of a handler touch the connection that it found. -/
theorem SlotSteps.onlyTouches (hindex : index < 2 ^ 32) (h : SlotSteps opt index con s s') :
    OnlyTouches index con s s' := by
  induction h with
  | refl s => exact ⟨Shrinks.refl s, fun _ _ => rfl, fun _ _ => rfl, fun _ _ => rfl⟩
  | update c queue calls hendpoint hhandle hqueue => exact onlyTouches_update index hendpoint queue calls
  | shutdownConnection notify ev => exact onlyTouches_shutdownConnection opt index con _ notify ev
  | deleteConnection h => exact onlyTouches_deleteConnection hindex h
  | refreshTime now h => exact onlyTouches_refreshTime hindex h
  | trans _ _ ih ih' => exact ih.trans ih'

/-- A handler does something to the connection that it found, or nothing. -/
theorem RunsOnSlot.handlesSlot (hindex : index < 2 ^ 32) (h : RunsOnSlot opt index s s') :
    HandlesSlot index s s' := by
  rcases h with rfl | ⟨con, hcon, h⟩
  · exact Or.inl rfl
  · exact Or.inr ⟨con, hcon, h.onlyTouches hindex⟩

/-- Dropping a connection is done in steps of a handler. -/
theorem slotSteps_dropConnection {notify : Bool} {ev : Event}
    (h : s.dropConnection opt index con notify ev = some s') : SlotSteps opt index con s s' := by
  obtain ⟨s₁, hdel, rfl⟩ := Option.map_eq_some_iff.mp h
  exact ((SlotSteps.shutdownConnection notify ev).trans (.deleteConnection hdel)).trans
    (.shutdownConnection false {})

/-- Every handler looks its slot up and goes on with what it finds. -/
theorem runsOnSlot_of_bind {k : Option Nat → Option ContainerState} (hnone : k none = some s)
    (hsome : ∀ con, k (some con) = some s' → SlotSteps opt index con s s')
    (h : (s.getConnection index).bind k = some s') : RunsOnSlot opt index s s' := by
  obtain ⟨o, ho, hk⟩ := Option.bind_eq_some_iff.mp h
  cases o with
  | none =>
      rw [hnone, Option.some.injEq] at hk
      exact Or.inl hk.symm
  | some con => exact Or.inr ⟨con, (getConnection_eq ho).symm, hsome con hk⟩

/-- `OnErrorEvent` works on the connection in its slot. -/
theorem runsOnSlot_onErrorEvent {errorCode : Int32} (h : s.onErrorEvent opt index errorCode = some s') :
    RunsOnSlot opt index s s' :=
  runsOnSlot_of_bind rfl (fun _ hk => slotSteps_dropConnection hk) h

/-- `OnRecvEvent` works on the connection in its slot. -/
theorem runsOnSlot_onRecvEvent {input : EventInput} (h : s.onRecvEvent opt index input = some s') :
    RunsOnSlot opt index s s' := by
  refine runsOnSlot_of_bind rfl ?_ h
  intro con hk
  obtain ⟨r, hr, hk⟩ := Option.bind_eq_some_iff.mp hk
  refine (SlotSteps.update r.connection _ (s.calls ++ r.calls) (Connection.endpoint_doRecvEvent hr)
    (Connection.handleId_doRecvEvent hr) ⟨r.delivered, rfl⟩).trans ?_
  -- behind the receive the deadline is refreshed, or the connection is dropped
  cases herror : r.error with
  | none =>
      rw [herror] at hk
      exact .refreshTime _ hk
  | some err =>
      rw [herror] at hk
      exact slotSteps_dropConnection hk

/-- `OnSendEvent` works on the connection in its slot. -/
theorem runsOnSlot_onSendEvent {input : EventInput} (h : s.onSendEvent opt index input = some s') :
    RunsOnSlot opt index s s' := by
  refine runsOnSlot_of_bind rfl ?_ h
  intro con hk
  obtain ⟨r, hr, hk⟩ := Option.bind_eq_some_iff.mp hk
  exact (SlotSteps.update r.connection _ (s.calls ++ r.calls) (Connection.endpoint_doSendEvent hr)
    (Connection.handleId_doSendEvent hr) ⟨[], (List.append_nil _).symm⟩).trans (.refreshTime _ hk)

/-- `OnEventProcess` runs on the slot its connection id names. -/
theorem runsOnSlot_onEventProcess {detail : EventDetail} {input : EventInput}
    (h : s.onEventProcess opt magicNumber detail input = some s') :
    RunsOnSlot opt (getUserId detail.ptr).toNat s s' := by
  unfold onEventProcess at h
  cases hcheck : checkConnectionId opt magicNumber detail.ptr with
  | none =>
      rw [hcheck, Option.some.injEq] at h
      exact Or.inl h.symm
  | some index =>
      rw [hcheck, eq_getUserId_of_check hcheck] at h
      simp only at h
      split at h
      · exact runsOnSlot_onErrorEvent h
      · split at h
        · exact runsOnSlot_onRecvEvent h
        · split at h
          · exact runsOnSlot_onSendEvent h
          · exact Or.inl (Option.some.inj h).symm

/-- `SendMsg` runs on the slot its connection id names. -/
theorem runsOnSlot_sendMsg {cid : UInt64} {slice : Slice} {r : Bool × ContainerState}
    (h : s.sendMsg opt magicNumber cid slice = some r) : RunsOnSlot opt (getUserId cid).toNat s r.2 := by
  unfold sendMsg at h
  cases hcheck : checkConnectionId opt magicNumber cid with
  | none =>
      rw [hcheck, Option.some.injEq] at h
      exact Or.inl (by rw [← h])
  | some index =>
      rw [hcheck, eq_getUserId_of_check hcheck] at h
      obtain ⟨o, ho, rfl⟩ := Option.map_eq_some_iff.mp h
      cases o with
      | none => exact Or.inl rfl
      | some con =>
          refine Or.inr ⟨con, (getConnection_eq ho).symm, ?_⟩
          exact .update _ s.queue _ (Connection.endpoint_sendMsg _ _ _) (Connection.handleId_sendMsg _ _ _)
            ⟨[], (List.append_nil _).symm⟩

/-- `CloseEndpoint` runs on the slot the endpoint's connection id names. -/
theorem runsOnSlot_closeEndpoint {ep : Nat} {eventNotify : Bool}
    (h : s.closeEndpoint opt magicNumber ep eventNotify = some s') :
    RunsOnSlot opt (getUserId (s.endpoints ep).connectionId).toNat s s' := by
  unfold closeEndpoint at h
  cases hcheck : checkConnectionId opt magicNumber (s.endpoints ep).connectionId with
  | none =>
      rw [hcheck, Option.some.injEq] at h
      exact Or.inl h.symm
  | some index =>
      rw [hcheck, eq_getUserId_of_check hcheck] at h
      exact runsOnSlot_of_bind rfl (fun _ hk => slotSteps_dropConnection hk) h

end Handlers

end ContainerState

/-! ### Every call -/

/-- The connection id an operation carries. An endpoint that is in no container is closed directly. -/
def ContainerAction.carriedId (s : ContainerState) : ContainerAction → Option UInt64
  | .sendMsg cid _ => some cid
  | .endpointSendMsg ep _ =>
      if (s.endpoints ep).hasContainer then some (s.endpoints ep).connectionId else none
  | .closeEndpoint ep _ => some (s.endpoints ep).connectionId
  | .endpointClose ep _ =>
      if (s.endpoints ep).hasContainer then some (s.endpoints ep).connectionId else none
  | .onEventProcess detail _ => some detail.ptr
  | .attachEndpoint .. => none
  | .onTimeoutCheck _ => none

namespace ContainerState

variable {opt : ContainerOption} {magicNumber : UInt16} {s s' : ContainerState}

/-- An operation that carries an id runs on the slot the id names. -/
theorem runsOnSlot_exec {a : ContainerAction} {cid : UInt64} (hid : a.carriedId s = some cid)
    (h : s.exec opt magicNumber a = some s') : RunsOnSlot opt (getUserId cid).toNat s s' := by
  cases a with
  | attachEndpoint ep notify now => cases hid
  | onTimeoutCheck now => cases hid
  | sendMsg id slice =>
      cases hid
      simp only [exec] at h
      split at h
      · exact Or.inl (Option.some.inj h).symm
      · obtain ⟨r, hr, rfl⟩ := Option.map_eq_some_iff.mp h
        exact runsOnSlot_sendMsg hr
  | endpointSendMsg ep slice =>
      simp only [ContainerAction.carriedId] at hid
      split at hid
      · -- attached: the call goes on to the container
        next hcontainer =>
        cases hid
        simp only [exec] at h
        split at h
        · exact Or.inl (Option.some.inj h).symm
        · obtain ⟨r, hr, rfl⟩ := Option.map_eq_some_iff.mp h
          rw [endpointSendMsg, if_pos hcontainer] at hr
          exact runsOnSlot_sendMsg hr
      · cases hid
  | closeEndpoint ep eventNotify =>
      cases hid
      exact runsOnSlot_closeEndpoint h
  | endpointClose ep notify =>
      simp only [ContainerAction.carriedId] at hid
      split at hid
      · next hcontainer =>
        cases hid
        rw [exec, endpointClose, if_pos hcontainer] at h
        exact runsOnSlot_closeEndpoint h
      · cases hid
  | onEventProcess detail input =>
      cases hid
      exact runsOnSlot_onEventProcess h

/-- A message to an endpoint that was never attached goes nowhere. -/
theorem endpointSendMsg_detached {ep : Nat} {slice : Slice}
    (hid : (ContainerAction.endpointSendMsg ep slice).carriedId s = none)
    (h : s.exec opt magicNumber (.endpointSendMsg ep slice) = some s') : s' = s := by
  have hcontainer : ¬ (s.endpoints ep).hasContainer := by
    simpa [ContainerAction.carriedId] using hid
  simp only [exec, endpointSendMsg, if_neg hcontainer] at h
  split at h
  · exact (Option.some.inj h).symm
  · exact (Option.some.inj h).symm

/-- Closing an endpoint that was never attached closes its descriptor. -/
theorem endpointClose_detached {ep : Nat} {notify : Bool}
    (hid : (ContainerAction.endpointClose ep notify).carriedId s = none)
    (h : s.exec opt magicNumber (.endpointClose ep notify) = some s') :
    s' = { s with
      endpoints := Function.update s.endpoints ep { s.endpoints ep with fd := closedFd }
      closedFds := s.closedFds ++ (setSocketShutdown (s.endpoints ep).fd).toList } := by
  have hcontainer : ¬ (s.endpoints ep).hasContainer := by
    simpa [ContainerAction.carriedId] using hid
  rw [exec, endpointClose, if_neg hcontainer] at h
  exact (Option.some.inj h).symm

/-- Shutting down and destroying connections, one after the other. -/
theorem shrinks_foldl_shutdown (opt : ContainerOption) (cons : List Nat) (s : ContainerState) :
    Shrinks s (cons.foldl
      (fun s con => (s.shutdownConnection opt con true timeoutEvent).destroyConnection opt con) s) := by
  induction cons generalizing s with
  | nil => exact Shrinks.refl s
  | cons con rest ih =>
      have hfirst := (onlyTouches_shutdownConnection opt 0 con s true timeoutEvent).trans
        (onlyTouches_shutdownConnection opt 0 con _ false {})
      exact hfirst.toShrinks.trans (ih _)

/-- The timeout check fills no slot. -/
theorem shrinks_onTimeoutCheck {now : Int} (h : s.onTimeoutCheck opt now = some s') :
    Shrinks s s' := by
  unfold onTimeoutCheck at h
  split at h
  · exact Option.some.inj h ▸ Shrinks.refl s
  · obtain ⟨⟨t, cons⟩, hsweep, rfl⟩ := Option.map_eq_some_iff.mp h
    have hok := eq_ok_of_toOption hsweep
    have htable : Shrinks s { s with slots := { table := t, lastCheckTime := now } } := by
      refine ⟨fun _ => rfl, ?_, rfl, rfl, fun hfit => hfit.timeoutSweep hok⟩
      intro i c hc
      change t.connection i = some c at hc
      rcases (SlotTable.connection_timeoutSweep hok).2 i with hsame | ⟨hnone, -⟩
      · exact hsame.symm.trans hc
      · rw [hnone] at hc
        cases hc
    exact htable.trans (shrinks_foldl_shutdown opt cons _)

/-- The endpoint most recently attached to a slot, after one more id was issued. -/
theorem lastHolder_cons {ep : Nat} {cid : UInt64} {rest : List (Nat × UInt64)}
    (hissued : s'.issued = (ep, cid) :: rest) (hrest : s.issued = rest) (i : Nat) :
    s'.lastHolder i = if (getUserId cid).toNat = i then some ep else s.lastHolder i := by
  rw [lastHolder, lastHolder, hissued, hrest, List.find?_cons]
  by_cases h : (getUserId cid).toNat = i <;> simp [h]

/-- Attaching either changes nothing or puts a new connection of the endpoint into a slot and records
the id. -/
theorem IdInv.attachEndpoint {ep : Nat} {notify : Bool} {now : Int} (hinv : s.IdInv)
    (h : s.attachEndpoint opt magicNumber ep notify now = some s') : s'.IdInv := by
  rcases attachEndpoint_cases h with ⟨rfl, -⟩ | ⟨index, hattach⟩
  · exact hinv
  obtain ⟨hlt, hfit⟩ := hinv.fit.attach hattach.table
  obtain ⟨-, -, hcon⟩ := SlotTable.attach_ok hattach.table
  have huser : (getUserId (buildConnectionId magicNumber (s.endpoints ep).listenPort
      (UInt32.ofNat index))).toNat = index := by
    rw [getUserId_buildConnectionId, UInt32.toNat_ofNat', Nat.mod_eq_of_lt hlt]
  -- the new slot is held by `ep`; the others keep their connection and their holder
  refine ⟨hfit, ?_, ?_⟩
  · intro i con hi
    rw [lastHolder_cons hattach.issued rfl, huser, hattach.connections]
    rw [occupant, hcon] at hi
    by_cases hindex : i = index
    · rw [if_pos hindex, Option.some.injEq] at hi
      rw [if_pos hindex.symm, ← hi]
      simp [Connection.make]
    · rw [if_neg hindex] at hi
      have hold : con ≠ s.nextConnection := Nat.ne_of_lt (hinv.old i con hi)
      rw [if_neg (Ne.symm hindex), hinv.holder i con hi]
      simp [hold]
  · intro i con hi
    rw [hattach.next]
    rw [occupant, hcon] at hi
    by_cases hindex : i = index
    · rw [if_pos hindex, Option.some.injEq] at hi
      rw [← hi]
      exact Nat.lt_succ_self _
    · rw [if_neg hindex] at hi
      exact Nat.lt_succ_of_lt (hinv.old i con hi)

/-- Every step keeps the owners of the slots. -/
theorem IdInv.exec {a : ContainerAction} (hinv : s.IdInv)
    (h : s.exec opt magicNumber a = some s') : s'.IdInv := by
  cases hid : a.carriedId s with
  | some cid => exact hinv.shrinks ((runsOnSlot_exec hid h).handlesSlot (getUserId cid).toNat_lt).shrinks
  | none =>
      -- attaching, the timeout check, and calls on endpoints that were never attached
      cases a with
      | attachEndpoint ep notify now => exact hinv.attachEndpoint h
      | onTimeoutCheck now => exact hinv.shrinks (shrinks_onTimeoutCheck h)
      | sendMsg cid slice => cases hid
      | closeEndpoint ep eventNotify => cases hid
      | onEventProcess detail input => cases hid
      | endpointSendMsg ep slice =>
          rw [endpointSendMsg_detached hid h]
          exact hinv
      | endpointClose ep notify =>
          rw [endpointClose_detached hid h]
          exact ⟨hinv.fit, hinv.holder, hinv.old⟩

/-- At the start no slot is used. -/
theorem idInv_start (opt : ContainerOption) (sockets : Nat → UInt64 × UInt16) (now : Int) :
    (start opt sockets now).IdInv := by
  have hempty : ∀ i con, (start opt sockets now).occupant i ≠ some con := by
    intro i con
    simp only [occupant, start, SlotTable.init, SlotTable.connection, List.getElem?_replicate]
    split <;> simp
  exact ⟨SlotTable.indicesFit_init opt, fun i con h => absurd h (hempty i con),
    fun i con h => absurd h (hempty i con)⟩

/-- A handler for slot `index` leaves every endpoint but the last holder of that slot alone. -/
theorem HandlesSlot.untouched {index ep : Nat} (hinv : s.IdInv) (h : HandlesSlot index s s')
    (hep : s.occupant index = none ∨ s.lastHolder index ≠ some ep) : Untouched ep s s' := by
  rcases h with rfl | ⟨con, hcon, h⟩
  · exact ⟨rfl, fun _ _ => rfl, fun _ _ hc _ => hc⟩
  · have hne : (s.connections con).endpoint ≠ ep := by
      rcases hep with hnone | hother
      · rw [hnone] at hcon
        cases hcon
      · intro heq
        exact hother (heq ▸ hinv.holder index con hcon)
    refine ⟨h.endpoints ep (Ne.symm hne), fun d hd => h.connections d ?_, ?_⟩
    · rintro rfl
      exact hne hd
    · intro i d hd hdep
      rw [h.otherSlots i ?_, hd]
      rintro rfl
      rw [hcon, Option.some.injEq] at hd
      exact hne (hd ▸ hdep)

end ContainerState

/-- The step is not a late use of an id of endpoint `ep`: while the id it carries is one issued to `ep`
and the slot it names is in use, `ep` is the endpoint most recently attached to that slot. -/
def ContainerAction.Current (ep : Nat) (s : ContainerState) (a : ContainerAction) : Prop :=
  ∀ cid, a.carriedId s = some cid → (ep, cid) ∈ s.issued →
    s.occupant (getUserId cid).toNat = none ∨ s.lastHolder (getUserId cid).toNat = some ep

/-- The invariant of the ids holds in every reachable state. -/
theorem containerMachine_idInv {opt : ContainerOption} {magicNumber : UInt16}
    {sockets : Nat → UInt64 × UInt16} {now : Int} {s : ContainerState}
    (hs : (containerMachine opt magicNumber sockets now).Reachable s) : s.IdInv :=
  Machine.Reaches.invariant _ (ContainerState.idInv_start opt sockets now)
    (fun _ _ _ _ _ hinv hstep => hinv.exec hstep) hs

/-- **An id used in time reaches only its own endpoint.** In every run, whatever happened before: a step
that carries an id issued to `ep`, taken while the slot of the id is empty or `ep` is still the endpoint
most recently attached to it, leaves every other endpoint, its connections with their buffers, and
their slots as they are. -/
theorem untouched_of_current (opt : ContainerOption) (magicNumber : UInt16)
    (sockets : Nat → UInt64 × UInt16) (now : Int) (ep : Nat) (s s' : ContainerState)
    (a : ContainerAction) (cid : UInt64)
    (hs : (containerMachine opt magicNumber sockets now).Reachable s)
    (hcurrent : a.Current ep s) (hid : a.carriedId s = some cid) (hissued : (ep, cid) ∈ s.issued)
    (hstep : (containerMachine opt magicNumber sockets now).step s a = some s') :
    ∀ other, other ≠ ep → ContainerState.Untouched other s s' := by
  intro other hne
  have hinv := containerMachine_idInv hs
  have hhandles := (ContainerState.runsOnSlot_exec hid hstep).handlesSlot (getUserId cid).toNat_lt
  refine hhandles.untouched hinv ?_
  rcases hcurrent cid hid hissued with hnone | hholder
  · exact Or.inl hnone
  · refine Or.inr fun hother => hne ?_
    rw [hholder, Option.some.injEq] at hother
    exact hother.symm

/-- A container with a single slot, and endpoints that came in over different ports. -/
def oneSlotMachine : Machine ContainerState ContainerAction :=
  containerMachine { defaultContainerSize := 1, maxContainerSize := 1 } 7
    (fun ep => (UInt64.ofNat (ep + 5), UInt16.ofNat (ep + 80))) 0

/-- Endpoint 0 is attached and closed, endpoint 1 is attached to the slot that became free: sending on the id of
endpoint 1 leaves endpoint 0 alone. -/
theorem untouched_of_current_recycled_slot :
    ∃ s s' : ContainerState,
      oneSlotMachine.run oneSlotMachine.init
        [.attachEndpoint 0 false 0, .closeEndpoint 0 false, .attachEndpoint 1 false 0] = some s ∧
      oneSlotMachine.step s (.sendMsg (buildConnectionId 7 81 0) (Slice.ofBytes [9])) = some s' ∧
      (s'.connections 1).sndBuffer.toBytes = [9] ∧ ContainerState.Untouched 0 s s' := by
  obtain ⟨s, s', hrun, hstep, hsent, hissued, hholder⟩ : ∃ s s' : ContainerState,
      oneSlotMachine.run oneSlotMachine.init
        [.attachEndpoint 0 false 0, .closeEndpoint 0 false, .attachEndpoint 1 false 0] = some s ∧
      oneSlotMachine.step s (.sendMsg (buildConnectionId 7 81 0) (Slice.ofBytes [9])) = some s' ∧
      (s'.connections 1).sndBuffer.toBytes = [9] ∧
      s.issued = [(1, buildConnectionId 7 81 0), (0, buildConnectionId 7 80 0)] ∧ s.lastHolder 0 = some 1 :=
    ⟨_, _, rfl, rfl, rfl, rfl, rfl⟩
  have hcurrent : ContainerAction.Current 1 s
      (.sendMsg (buildConnectionId 7 81 0) (Slice.ofBytes [9])) := by
    rintro cid hid -
    cases hid
    exact Or.inr hholder
  exact ⟨s, s', hrun, hstep, hsent,
    untouched_of_current _ 7 _ 0 1 s s' _ _ (Machine.reachable_of_run hrun) hcurrent rfl
      (by rw [hissued]; exact List.mem_cons_self) hstep 0 (by decide)⟩

/-- Endpoint 0 is attached and closed, endpoint 1 is attached to the slot that became free; then a
message sent on the old id goes to endpoint 1, and closing endpoint 0 once more closes endpoint 1 and
takes it out of the table. -/
theorem late_id_reaches_other_endpoint :
    ∃ s sent closed : ContainerState,
      oneSlotMachine.run oneSlotMachine.init
        [.attachEndpoint 0 false 0, .closeEndpoint 0 false, .attachEndpoint 1 false 0] = some s ∧
      (0, buildConnectionId 7 80 0) ∈ s.issued ∧ (1, buildConnectionId 7 80 0) ∉ s.issued ∧
      s.occupant 0 = some 1 ∧ (s.connections 1).endpoint = 1 ∧
      oneSlotMachine.step s (.sendMsg (buildConnectionId 7 80 0) (Slice.ofBytes [9])) = some sent ∧
      (s.connections 1).sndBuffer.toBytes = [] ∧ (sent.connections 1).sndBuffer.toBytes = [9] ∧
      oneSlotMachine.step s (.closeEndpoint 0 false) = some closed ∧
      (s.endpoints 1).isOnline = true ∧ (closed.endpoints 1).isOnline = false ∧
      closed.occupant 0 = none := by
  obtain ⟨s, sent, closed, hrun, hissued, h⟩ : ∃ s sent closed : ContainerState,
      oneSlotMachine.run oneSlotMachine.init
        [.attachEndpoint 0 false 0, .closeEndpoint 0 false, .attachEndpoint 1 false 0] = some s ∧
      s.issued = [(1, buildConnectionId 7 81 0), (0, buildConnectionId 7 80 0)] ∧
      s.occupant 0 = some 1 ∧ (s.connections 1).endpoint = 1 ∧
      oneSlotMachine.step s (.sendMsg (buildConnectionId 7 80 0) (Slice.ofBytes [9])) = some sent ∧
      (s.connections 1).sndBuffer.toBytes = [] ∧ (sent.connections 1).sndBuffer.toBytes = [9] ∧
      oneSlotMachine.step s (.closeEndpoint 0 false) = some closed ∧
      (s.endpoints 1).isOnline = true ∧ (closed.endpoints 1).isOnline = false ∧
      closed.occupant 0 = none :=
    ⟨_, _, _, rfl, rfl, rfl, rfl, rfl, rfl, rfl, rfl, rfl, rfl, rfl⟩
  refine ⟨s, sent, closed, hrun, ?_, ?_, h⟩
  · rw [hissued]
    decide
  · rw [hissued]
    decide

end RaptorLite
