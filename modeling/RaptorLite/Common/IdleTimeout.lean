import RaptorLite.Common.SlotDeadlines

/-! # The idle timeout

`OnTimeoutCheck` removes the connections whose deadline has passed, and `doc/property.md` says what the
deadline should mean: no data was received for `connection_timeoutms`. The model adds to the container what
this speaks about: for every slot the time `heard` at which its connection was attached or last received
something, and the time `refreshed` of the last `RefreshTime` behind it that was not due to a receive. Such a
refresh is made by every send event; it is also made by a handler that runs late, when the connection it
handled is gone and another one is in the slot, so that this step may also come alone.

The deadline of a slot is counted from the later of the two, so that a send event lets a silent connection
live on. -/

namespace RaptorLite

/-! ### The machine -/

/-- A container and the times its deadlines are counted from. -/
structure IdleState where
  /-- The container. -/
  container : ContainerState
  /-- When the connection in a slot was attached or last received something. -/
  heard : Nat → Int
  /-- The last other `RefreshTime` on the slot since then. -/
  refreshed : Nat → Option Int

/-- The steps. -/
inductive IdleAction where
  /-- A call on the container. -/
  | container (a : ContainerAction)
  /-- `Connection::Shutdown` inside a handler, or in the destructor. -/
  | shutdownConnection (con : Nat) (notify : Bool) (ev : Event)
  /-- `DeleteConnection` inside a handler. -/
  | deleteConnection (index : UInt32)
  /-- `RefreshTime` inside a handler whose connection is not the one in the slot. -/
  | refreshTime (index : UInt32) (now : Int)
  /-- `OnTimerEvent` queues a heartbeat. -/
  | onTimerEvent (ep : Nat)

namespace IdleState

/-- Keep the history. -/
def note (s : IdleState) : SlotTouch → IdleState
  | .heard index now =>
      { s with
        heard := Function.update s.heard index now
        refreshed := Function.update s.refreshed index none }
  | .refreshed index now => { s with refreshed := Function.update s.refreshed index (some now) }
  | .untouched => s

/-- One step. -/
def exec (opt : ContainerOption) (magicNumber : UInt16) (s : IdleState) : IdleAction → Option IdleState
  | .container a =>
      (s.container.exec opt magicNumber a).map fun c =>
        { s with container := c }.note (s.container.touch opt magicNumber a)
  | .shutdownConnection con notify ev =>
      some { s with container := s.container.shutdownConnection opt con notify ev }
  | .deleteConnection index =>
      (s.container.deleteConnection index.toNat).map fun c => { s with container := c }
  | .refreshTime index now =>
      (s.container.refreshTime opt index.toNat now).map fun c =>
        { s with container := c }.note (s.container.touchRefresh index.toNat now)
  | .onTimerEvent ep =>
      some { s with
        container := { s.container with queue := s.container.queue ++ [.heartbeatEvent ep] } }

end IdleState

/-- The container behind `Init`. -/
def idleMachine (opt : ContainerOption) (magicNumber : UInt16) (sockets : Nat → UInt64 × UInt16)
    (start : Int) : Machine IdleState IdleAction where
  init := { container := .start opt sockets start, heard := fun _ => 0, refreshed := fun _ => none }
  step s a := s.exec opt magicNumber a

/-- The values of an `int64_t`. -/
def IsInt64 (x : Int) : Prop := -2 ^ 63 ≤ x ∧ x < 2 ^ 63

/-- Clock readings are `int64_t` values. -/
def IdleAction.ClockFits : IdleAction → Prop
  | .container (.attachEndpoint _ _ now) => IsInt64 now
  | .container (.onEventProcess _ input) => IsInt64 input.now
  | .container (.onTimeoutCheck now) => IsInt64 now
  | .refreshTime _ now => IsInt64 now
  | _ => True

/-! ### The invariant -/

namespace IdleState

variable {opt : ContainerOption} {magicNumber : UInt16} {s s' : IdleState}

/-- The deadline of a slot. -/
def deadline (opt : ContainerOption) (s : IdleState) (index : Nat) : Int :=
  deadlineLine opt ((s.refreshed index).getD (s.heard index))

/-- The history is kept as the slots are dated. -/
theorem deadline_note (opt : ContainerOption) (s : IdleState) (touch : SlotTouch) :
    (s.note touch).deadline opt = touch.date opt (s.deadline opt) := by
  funext i
  cases touch with
  | heard index now =>
      by_cases hi : i = index
      · subst hi
        simp [deadline, note, SlotTouch.date]
      · simp [deadline, note, SlotTouch.date, hi]
  | refreshed index now =>
      by_cases hi : i = index
      · subst hi
        simp [deadline, note, SlotTouch.date]
      · simp [deadline, note, SlotTouch.date, hi]
  | untouched => rfl

/-- The table holds the deadlines, which are counted from clock readings. -/
structure IdleInv (opt : ContainerOption) (s : IdleState) : Prop where
  /-- The deadlines. -/
  dated : s.container.slots.table.Dated (s.deadline opt)
  /-- The times are clock readings. -/
  heard : ∀ i, IsInt64 (s.heard i)

/-- A step that dates the slots as the history says keeps the deadlines. -/
theorem dated_note {c : ContainerState} {touch : SlotTouch}
    (hdated : s.container.slots.table.Dated (s.deadline opt))
    (hdates : ContainerState.Dates opt touch s.container c) :
    ({ s with container := c }.note touch).container.slots.table.Dated
      (({ s with container := c }.note touch).deadline opt) := by
  have hcontainer : ({ s with container := c }.note touch).container = c := by
    cases touch <;> rfl
  rw [hcontainer, deadline_note]
  exact hdates _ hdated

/-- Only clock readings are noted. -/
theorem heard_note {touch : SlotTouch} (h : ∀ i, IsInt64 (s.heard i))
    (htouch : ∀ index now, touch = .heard index now → IsInt64 now) (i : Nat) :
    IsInt64 ((s.note touch).heard i) := by
  cases touch with
  | heard index now =>
      show IsInt64 (Function.update s.heard index now i)
      by_cases hi : i = index
      · rw [hi, Function.update_self]
        exact htouch index now rfl
      · rw [Function.update_of_ne hi]
        exact h i
  | refreshed index now => exact h i
  | untouched => exact h i

/-- A send event does not count as something heard. -/
theorem touchRefresh_ne_heard (s : ContainerState) (index i : Nat) (now now' : Int) :
    s.touchRefresh index now ≠ .heard i now' := by
  rw [ContainerState.touchRefresh]
  split <;> simp

/-- A receive event is heard at the time it is handled. -/
theorem now_of_touchRecv {s : ContainerState} {index i : Nat} {input : ContainerState.EventInput} {now : Int}
    (h : s.touchRecv index input = .heard i now) : now = input.now := by
  unfold ContainerState.touchRecv at h
  split at h
  · cases h
  · dsimp only at h
    split at h
    · cases h
    · split at h <;> cases h
      rfl

/-- What a call notes is its own clock reading. -/
theorem isInt64_of_touch {s : ContainerState} {a : ContainerAction} (hclock : (IdleAction.container a).ClockFits)
    {index : Nat} {now : Int} (h : s.touch opt magicNumber a = .heard index now) : IsInt64 now := by
  cases a with
  | attachEndpoint ep notify now' =>
      rw [ContainerState.touch] at h
      split at h
      · cases h
        exact hclock
      · cases h
  | onEventProcess detail input =>
      rw [ContainerState.touch, ContainerState.touchEvent] at h
      split at h
      · cases h
      · split at h
        · cases h
        · split at h
          · rw [now_of_touchRecv h]
            exact hclock
          · split at h
            · exact absurd h (touchRefresh_ne_heard _ _ _ _ _)
            · cases h
  | sendMsg => cases h
  | endpointSendMsg => cases h
  | closeEndpoint => cases h
  | endpointClose => cases h
  | onTimeoutCheck => cases h

/-- Every step keeps the invariant. -/
theorem IdleInv.step (hm : opt.maxContainerSize < 2 ^ 32) (h : s.IdleInv opt) {a : IdleAction}
    (hclock : a.ClockFits) (hstep : s.exec opt magicNumber a = some s') : s'.IdleInv opt := by
  cases a with
  | container a =>
      obtain ⟨c, hc, rfl⟩ := Option.map_eq_some_iff.mp hstep
      refine ⟨dated_note h.dated (ContainerState.dates_exec hm hc), ?_⟩
      exact heard_note h.heard fun index now htouch => isInt64_of_touch hclock htouch
  | shutdownConnection con notify ev =>
      cases hstep
      exact ⟨h.dated, h.heard⟩
  | deleteConnection index =>
      obtain ⟨c, hc, rfl⟩ := Option.map_eq_some_iff.mp hstep
      have hdates : ContainerState.Dates opt .untouched s.container c :=
        ContainerState.dates_deleteConnection hc
      exact ⟨hdates _ h.dated, h.heard⟩
  | refreshTime index now =>
      obtain ⟨c, hc, rfl⟩ := Option.map_eq_some_iff.mp hstep
      refine ⟨dated_note h.dated (ContainerState.dates_refreshTime hc), ?_⟩
      exact heard_note h.heard fun i now' htouch => absurd htouch (touchRefresh_ne_heard _ _ _ _ _)
  | onTimerEvent ep =>
      cases hstep
      exact ⟨h.dated, h.heard⟩

/-- The invariant holds in every state reached while the clock fits. -/
theorem idleInv_of_reaches {sockets : Nat → UInt64 × UInt16} {start : Int}
    (hd : opt.defaultContainerSize < 2 ^ 32) (hm : opt.maxContainerSize < 2 ^ 32)
    (hs : (idleMachine opt magicNumber sockets start).Reaches (fun _ a => a.ClockFits) s) :
    s.IdleInv opt := by
  apply Machine.Reaches.invariant (IdleInv opt) _ _ hs
  · refine ⟨⟨SlotTable.inv_init (Nat.le_of_lt hd), ?_⟩, ?_⟩
    · intro e he
      cases he
    · intro i
      show IsInt64 0
      exact ⟨by decide, by decide⟩
  · intro s a s' _ hclock h hstep
    exact h.step hm hclock hstep

end IdleState

/-! ### The check -/

namespace ContainerState

variable {opt : ContainerOption} {s s' : ContainerState}

/-- The connection `con` in slot `index` is removed and shut down with `kConnectionTimeout`: its endpoint is
offline and, if it was online and there is a handler for it, its close event is queued. -/
structure TimedOut (opt : ContainerOption) (s s' : ContainerState) (index con : Nat) : Prop where
  /-- The slot is empty. -/
  removed : s'.occupant index = none
  /-- The endpoint is offline. -/
  offline : (s'.endpoints (s.connections con).endpoint).isOnline = false
  /-- The close event is queued. -/
  closed : (s.endpoints (s.connections con).endpoint).isOnline = true → opt.closedHandler = true →
    ∃ msgs, s'.queue = s.queue ++ msgs ∧
      TcpMessage.closeEvent (s.connections con).endpoint timeoutEvent ∈ msgs

/-- What the check does to one connection it takes out. -/
def expire (opt : ContainerOption) (s : ContainerState) (con : Nat) : ContainerState :=
  (s.shutdownConnection opt con true timeoutEvent).destroyConnection opt con

/-- Closing a connection starts nothing. -/
theorem quiet_expire (opt : ContainerOption) (s : ContainerState) (con : Nat) :
    Quiet s (s.expire opt con) :=
  (quiet_shutdownConnection opt s con true timeoutEvent).trans (quiet_shutdownConnection opt _ con false {})

/-- Shutting down appends to the message queue. -/
theorem queue_shutdownConnection (opt : ContainerOption) (s : ContainerState) (con : Nat) (notify : Bool)
    (ev : Event) : ∃ msgs, (s.shutdownConnection opt con notify ev).queue = s.queue ++ msgs := ⟨_, rfl⟩

/-- Closing a connection appends to the messages. -/
theorem queue_expire (opt : ContainerOption) (s : ContainerState) (con : Nat) :
    ∃ msgs, (s.expire opt con).queue = s.queue ++ msgs := by
  obtain ⟨m₁, h₁⟩ := queue_shutdownConnection opt s con true timeoutEvent
  obtain ⟨m₂, h₂⟩ := queue_shutdownConnection opt (s.shutdownConnection opt con true timeoutEvent) con
    false {}
  exact ⟨m₁ ++ m₂, by rw [expire, destroyConnection, h₂, h₁, List.append_assoc]⟩

/-- A connection that is closed leaves its endpoint offline. -/
theorem offline_expire (opt : ContainerOption) (s : ContainerState) (con : Nat) :
    ((s.expire opt con).endpoints (s.connections con).endpoint).isOnline = false := by
  have hfirst : ((s.shutdownConnection opt con true timeoutEvent).endpoints
      (s.connections con).endpoint).isOnline = false := by
    simp [shutdownConnection]
  -- the destructor shuts down once more, which brings nothing online
  by_contra hon
  rw [Bool.not_eq_false] at hon
  have := (quiet_shutdownConnection opt (s.shutdownConnection opt con true timeoutEvent) con false {}).online
    _ hon
  rw [hfirst] at this
  cases this

/-- Other endpoints stay as they are. -/
theorem endpoints_expire {ep con : Nat} (hne : ep ≠ (s.connections con).endpoint) :
    (s.expire opt con).endpoints ep = s.endpoints ep := by
  have hfirst := onlyTouches_shutdownConnection opt 0 con s true timeoutEvent
  have hsecond := onlyTouches_shutdownConnection opt 0 con (s.shutdownConnection opt con true timeoutEvent)
    false {}
  exact (hfirst.trans hsecond).endpoints ep hne

/-- An endpoint that goes offline in the step is told so. -/
theorem closed_expire (hclosed : opt.closedHandler = true) {ep con : Nat}
    (hon : (s.endpoints ep).isOnline = true) (hoff : ((s.expire opt con).endpoints ep).isOnline = false) :
    ∃ msgs, (s.expire opt con).queue = s.queue ++ msgs ∧ TcpMessage.closeEvent ep timeoutEvent ∈ msgs := by
  have hep : ep = (s.connections con).endpoint := by
    by_contra hne
    rw [endpoints_expire hne, hon] at hoff
    cases hoff
  subst hep
  have hfirst : (s.shutdownConnection opt con true timeoutEvent).queue =
      s.queue ++ [.closeEvent (s.connections con).endpoint timeoutEvent] := by
    simp [shutdownConnection, Connection.shutdown, hon, onClosed, hclosed]
  obtain ⟨msgs, hsecond⟩ := queue_shutdownConnection opt (s.shutdownConnection opt con true timeoutEvent)
    con false {}
  refine ⟨.closeEvent (s.connections con).endpoint timeoutEvent :: msgs, ?_, List.mem_cons_self⟩
  rw [expire, destroyConnection, hsecond, hfirst, List.append_assoc]
  rfl

/-- The connections of a sweep, one after the other. -/
def expireAll (opt : ContainerOption) (cons : List Nat) (s : ContainerState) : ContainerState :=
  cons.foldl (expire opt) s

/-- Closing connections appends to the messages. -/
theorem queue_expireAll (opt : ContainerOption) (cons : List Nat) (s : ContainerState) :
    ∃ msgs, (expireAll opt cons s).queue = s.queue ++ msgs := by
  induction cons generalizing s with
  | nil => exact ⟨[], (List.append_nil _).symm⟩
  | cons con rest ih =>
      obtain ⟨m₁, h₁⟩ := queue_expire opt s con
      obtain ⟨m₂, h₂⟩ := ih (s.expire opt con)
      refine ⟨m₁ ++ m₂, ?_⟩
      show (expireAll opt rest (s.expire opt con)).queue = _
      rw [h₂, h₁, List.append_assoc]

/-- Closing connections starts nothing. -/
theorem quiet_expireAll (opt : ContainerOption) (cons : List Nat) (s : ContainerState) :
    Quiet s (expireAll opt cons s) := quiet_foldl_shutdown opt cons s

/-- The endpoint of every connection of a sweep ends offline. -/
theorem offline_expireAll {cons : List Nat} {con : Nat} (hcon : con ∈ cons) (s : ContainerState) :
    ((expireAll opt cons s).endpoints (s.connections con).endpoint).isOnline = false := by
  induction cons generalizing s with
  | nil => cases hcon
  | cons first rest ih =>
      have hquiet := quiet_expire opt s first
      rcases List.mem_cons.mp hcon with rfl | hrest
      · -- it went offline in its turn and never comes online again
        rw [← Bool.not_eq_true]
        intro hon
        have hagain := (quiet_expireAll opt rest (s.expire opt con)).online _ hon
        rw [offline_expire] at hagain
        cases hagain
      · rw [← hquiet.endpoint con]
        exact ih hrest _

/-- Every endpoint that goes offline in a sweep is told so. -/
theorem closed_expireAll (hclosed : opt.closedHandler = true) {ep : Nat} {cons : List Nat} {s : ContainerState}
    (hon : (s.endpoints ep).isOnline = true)
    (hoff : ((expireAll opt cons s).endpoints ep).isOnline = false) :
    ∃ msgs, (expireAll opt cons s).queue = s.queue ++ msgs ∧ TcpMessage.closeEvent ep timeoutEvent ∈ msgs := by
  induction cons generalizing s with
  | nil =>
      rw [show expireAll opt [] s = s from rfl, hon] at hoff
      cases hoff
  | cons con rest ih =>
      show ∃ msgs, (expireAll opt rest (s.expire opt con)).queue = _ ∧ _
      -- it goes offline either in this turn or in a later one, and each turn only appends to the queue
      cases hstep : ((s.expire opt con).endpoints ep).isOnline with
      | true =>
          obtain ⟨m₁, h₁⟩ := queue_expire opt s con
          obtain ⟨m₂, h₂, hmem⟩ := ih hstep hoff
          exact ⟨m₁ ++ m₂, by rw [h₂, h₁, List.append_assoc], List.mem_append_right _ hmem⟩
      | false =>
          obtain ⟨m₁, h₁, hmem⟩ := closed_expire hclosed hon hstep
          obtain ⟨m₂, h₂⟩ := queue_expireAll opt rest (s.expire opt con)
          exact ⟨m₁ ++ m₂, by rw [h₂, h₁, List.append_assoc], List.mem_append_left _ hmem⟩

/-- An unthrottled check: it returns, and it times out exactly the connections whose deadline has passed. -/
theorem onTimeoutCheck_spec {deadline : Nat → Int} {now : Int} (hdated : s.slots.table.Dated deadline)
    (hdue : ¬ now - s.slots.lastCheckTime < 3000) :
    ∃ s', s.onTimeoutCheck opt now = some s' ∧ ∀ index con, s.occupant index = some con →
      (TimedOut opt s s' index con ↔ deadline index ≤ now) := by
  obtain ⟨t, cons, hsweep, -, -, -, hgone, hkept⟩ := hdated.inv.sweep_spec now
  refine ⟨expireAll opt cons { s with slots := { table := t, lastCheckTime := now } }, ?_, ?_⟩
  · rw [onTimeoutCheck, if_neg hdue, hsweep]
    rfl
  · intro index con hcon
    have htable : (expireAll opt cons { s with slots := { table := t, lastCheckTime := now } }).occupant index =
        t.connection index := congrArg (fun s => s.table.connection index) (slots_foldl_shutdown opt cons _)
    -- the record of the slot decides
    obtain ⟨it, hslot⟩ := SlotTable.connection_eq_some_iff.mp hcon
    obtain ⟨e, he, hval, -⟩ := hdated.inv.slot_record index con it hslot
    have hkey := hdated.keys e he
    rw [hval] at hkey
    constructor
    · intro hout
      by_contra hlater
      -- a record that is not due keeps its connection in place
      have hsame := hkept e he (by omega)
      have hremoved := hout.removed
      rw [htable, ← hval, hsame, hval] at hremoved
      rw [occupant, hremoved] at hcon
      cases hcon
    · intro hle
      have hnone := hgone e he (by omega)
      rw [hval] at hnone
      -- a slot that is empty behind the sweep gave its connection to it
      obtain ⟨c, hc, hcon'⟩ : ∃ c ∈ cons, s.slots.table.connection index = some c := by
        rcases (SlotTable.connection_timeoutSweep hsweep).2 index with hsame | ⟨-, hout⟩
        · rw [hnone] at hsame
          rw [occupant, ← hsame] at hcon
          cases hcon
        · exact hout
      rw [occupant, hcon', Option.some.injEq] at hcon
      subst hcon
      have hoff : ((expireAll opt cons { s with slots := { table := t, lastCheckTime := now } }).endpoints
          (s.connections c).endpoint).isOnline = false :=
        offline_expireAll (s := { s with slots := { table := t, lastCheckTime := now } }) hc
      exact ⟨htable.trans hnone, hoff, fun hon hclosed => closed_expireAll hclosed hon hoff⟩

end ContainerState

/-- A deadline that lies between clock readings is the sum it is computed as. -/
theorem deadlineLine_eq (opt : ContainerOption) {t now : Int} (ht : IsInt64 t) (hnow : IsInt64 now)
    (hle : t + opt.connectionTimeoutms ≤ now) : deadlineLine opt t = t + opt.connectionTimeoutms := by
  apply Int.bmod_eq_of_le
  · have hlow := ht.1
    omega
  · have hhigh := hnow.2
    omega

/-- **When an idle connection is timed out.** In every run of a container whose slot indices fit `uint32_t`,
a check that is not throttled returns, and for every live connection that has not received anything for
`connection_timeoutms` since it was attached or last received something: the check removes it and shuts it
down with `kConnectionTimeout` if and only if no other `RefreshTime` ran on its slot since then, or the
deadline set by the last one has also passed. -/
theorem idle_timeout_iff (opt : ContainerOption) (hd : opt.defaultContainerSize < 2 ^ 32)
    (hm : opt.maxContainerSize < 2 ^ 32) (magicNumber : UInt16) (sockets : Nat → UInt64 × UInt16)
    (start : Int) {s : IdleState}
    (hs : (idleMachine opt magicNumber sockets start).Reaches (fun _ a => a.ClockFits) s) {now : Int}
    (hnow : IsInt64 now) (hdue : ¬ now - s.container.slots.lastCheckTime < 3000) :
    ∃ c, s.container.onTimeoutCheck opt now = some c ∧ ∀ index con,
      s.container.occupant index = some con → s.heard index + opt.connectionTimeoutms ≤ now →
      (s.container.TimedOut opt c index con ↔
        ∀ r, s.refreshed index = some r → deadlineLine opt r ≤ now) := by
  have hinv := IdleState.idleInv_of_reaches hd hm hs
  obtain ⟨c, hcheck, hspec⟩ := s.container.onTimeoutCheck_spec hinv.dated hdue
  refine ⟨c, hcheck, ?_⟩
  intro index con hlive hidle
  rw [hspec index con hlive, IdleState.deadline]
  -- the deadline is counted from the last other refresh if there is one
  cases hrefreshed : s.refreshed index with
  | none =>
      have hdeadline := deadlineLine_eq opt (hinv.heard index) hnow hidle
      simp [hdeadline, hidle]
  | some r => simp

/-- One slot, a timeout of 60 s. -/
def idleOption : ContainerOption := { defaultContainerSize := 1, maxContainerSize := 1 }

/-- The container with one slot, endpoint `ep` on descriptor `ep + 5`. -/
def oneSlotIdleMachine : Machine IdleState IdleAction :=
  idleMachine idleOption 7 (fun ep => (UInt64.ofNat (ep + 5), 80)) 0

/-- A connection that was attached at 0 and neither received nor sent is timed out by the check at 60 s. -/
theorem idle_timeout_iff_silent :
    ∃ s c, oneSlotIdleMachine.run oneSlotIdleMachine.init [.container (.attachEndpoint 0 false 0)] = some s ∧
      s.container.occupant 0 = some 0 ∧ s.container.onTimeoutCheck idleOption 60000 = some c ∧
      s.container.TimedOut idleOption c 0 0 := by
  obtain ⟨s, hrun, hlive, hheard, hrefreshed, hlast⟩ : ∃ s,
      oneSlotIdleMachine.run oneSlotIdleMachine.init [.container (.attachEndpoint 0 false 0)] = some s ∧
      s.container.occupant 0 = some 0 ∧ s.heard 0 = 0 ∧ s.refreshed 0 = none ∧
      s.container.slots.lastCheckTime = 0 := ⟨_, rfl, rfl, rfl, rfl, rfl⟩
  have hs : oneSlotIdleMachine.Reaches (fun _ a => a.ClockFits) s := by
    apply Machine.Reaches.run .init _ hrun
    intro a ha t
    rw [List.mem_singleton.mp ha]
    exact ⟨by decide, by decide⟩
  obtain ⟨c, hcheck, hspec⟩ := @idle_timeout_iff idleOption (by decide) (by decide) 7 _ 0 s hs 60000
    ⟨by decide, by decide⟩ (by rw [hlast]; decide)
  refine ⟨s, c, hrun, hlive, hcheck, (hspec 0 0 hlive (by rw [hheard]; decide)).mpr ?_⟩
  rw [hrefreshed]
  exact fun r hr => nomatch hr

/-- A connection is attached at 0 and never receives anything. A send event at 50 s refreshes its deadline,
and the check at 60 s, when 60 s have passed without a receive, leaves it in place. -/
theorem send_event_keeps_silent_connection :
    ∃ s c, oneSlotIdleMachine.run oneSlotIdleMachine.init
        [.container (.attachEndpoint 0 false 0),
          .container (.onEventProcess ⟨buildConnectionId 7 80 0, kSendEvent, 0⟩ ⟨[], [], ⟨0, ""⟩, 50000⟩)] =
          some s ∧
      s.container.occupant 0 = some 0 ∧ s.heard 0 + idleOption.connectionTimeoutms ≤ 60000 ∧
      ¬ 60000 - s.container.slots.lastCheckTime < 3000 ∧
      s.container.onTimeoutCheck idleOption 60000 = some c ∧ ¬ s.container.TimedOut idleOption c 0 0 := by
  obtain ⟨s, hrun, hlive, hheard, hrefreshed, hlast⟩ : ∃ s,
      oneSlotIdleMachine.run oneSlotIdleMachine.init
        [.container (.attachEndpoint 0 false 0),
          .container (.onEventProcess ⟨buildConnectionId 7 80 0, kSendEvent, 0⟩ ⟨[], [], ⟨0, ""⟩, 50000⟩)] =
          some s ∧
      s.container.occupant 0 = some 0 ∧ s.heard 0 = 0 ∧ s.refreshed 0 = some 50000 ∧
      s.container.slots.lastCheckTime = 0 := ⟨_, rfl, rfl, rfl, rfl, rfl⟩
  have hs : oneSlotIdleMachine.Reaches (fun _ a => a.ClockFits) s := by
    apply Machine.Reaches.run .init _ hrun
    intro a ha t
    rcases List.mem_cons.mp ha with rfl | ha
    · exact ⟨by decide, by decide⟩
    · rw [List.mem_singleton.mp ha]
      exact ⟨by decide, by decide⟩
  have hinv := IdleState.idleInv_of_reaches (by decide) (by decide) hs
  have hdue : ¬ (60000 : Int) - s.container.slots.lastCheckTime < 3000 := by rw [hlast]; decide
  obtain ⟨c, hcheck, hspec⟩ := s.container.onTimeoutCheck_spec hinv.dated hdue
  refine ⟨s, c, hrun, hlive, by rw [hheard]; decide, hdue, hcheck, ?_⟩
  rw [hspec 0 0 hlive, IdleState.deadline, hrefreshed, Option.getD_some]
  decide

end RaptorLite
