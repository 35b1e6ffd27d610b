import RaptorLite.Common.ContainerFrames
import RaptorLite.Utils.TimerConservation

/-! # The heartbeat chain

A container with a heartbeat handler sets a timer for every connection it attaches, with the slot index and
the handle id of the connection, and sets it again whenever it fires (`ContainerImpl::OnTimer`). The model
puts the container and the timer side by side: attaching pushes on the queue of the timer, and the worker
of the timer runs `OnTimer` step by step, with the handlers of the other threads in between. The two
steps that these handlers make apart, `Connection::Shutdown` and `DeleteConnection`, may also come alone
and in any order.

A timer is pending while it is queued, in the table, or being fired and neither re-armed nor given up. The
results say that a live connection has one pending timer for as long as its endpoint is online, and that a
fired timer reaches only the connection that armed it. -/

namespace RaptorLite

/-! ### The machine -/

/-- Where `ContainerImpl::OnTimer` is. -/
inductive OnTimerPc where
  /-- Not running. -/
  | idle
  /-- Called, before `GetConnection`. -/
  | entered (tid1 tid2 : UInt32)
  /-- It has the connection, whose handle id is `tid2`, and is about to read `IsOnline`. -/
  | found (con : Nat) (tid1 tid2 : UInt32)
  /-- About to run `OnTimerEvent`. -/
  | beat (con : Nat) (tid1 tid2 : UInt32)
  /-- About to run `SetTimer`. -/
  | rearm (con : Nat) (tid1 tid2 : UInt32)
  deriving DecidableEq, Repr

/-- A container, its timer and the history of the chains. -/
structure HeartbeatState where
  /-- The container. -/
  container : ContainerState
  /-- The timer. -/
  timer : TimerState
  /-- `OnTimer`, which the worker of the timer runs. -/
  onTimer : OnTimerPc
  /-- The connections that armed a timer when they were attached, each with the ids of the timer. -/
  armed : List (Nat × UInt32 × UInt32)
  /-- The connections for which a fired timer queued a heartbeat, each with the ids of the timer. -/
  beats : List (Nat × UInt32 × UInt32)

/-- The steps. -/
inductive HeartbeatAction where
  /-- A call on the container, with the clock reading of `SetTimer` if it attaches. -/
  | container (a : ContainerAction) (now : Int)
  /-- `Connection::Shutdown` inside a handler, or in the destructor. -/
  | shutdownConnection (con : Nat) (notify : Bool) (ev : Event)
  /-- `DeleteConnection` inside a handler. -/
  | deleteConnection (index : UInt32)
  /-- A step of the worker outside `OnTimer`. -/
  | worker (a : TimerAction)
  /-- `OnTimer` runs `GetConnection` and compares the handle ids, which never change. -/
  | getConnection
  /-- `OnTimer` reads `IsOnline`. -/
  | isOnline
  /-- `OnTimer` queues the heartbeat. -/
  | onTimerEvent
  /-- `OnTimer` sets the next timer. -/
  | setTimer (now : Int)

namespace HeartbeatState

/-- `static_cast<uint32_t>(_option.heartbeat_handler->GetHeartbeatInterval())`. -/
def delay (opt : ContainerOption) : UInt32 := UInt32.ofNat (opt.heartbeatInterval.getD 0)

/-- The container made some calls of `SetTimer` for the connection `con`. -/
def arm (s : HeartbeatState) (con : Nat) (calls : List TimerCall) (now : Int) : HeartbeatState :=
  { s with
    timer := calls.foldl (fun t call => t.setTimer call.tid1 call.tid2 call.delay now) s.timer
    armed := s.armed ++ calls.map fun call => (con, call.tid1, call.tid2) }

/-- One step. -/
def exec (opt : ContainerOption) (magicNumber : UInt16) (s : HeartbeatState) :
    HeartbeatAction → Option HeartbeatState
  | .container a now =>
      (s.container.exec opt magicNumber a).map fun c =>
        -- the calls of `SetTimer` that the container made go to the timer
        { s with container := c }.arm s.container.nextConnection
          (c.timers.drop s.container.timers.length) now
  | .shutdownConnection con notify ev =>
      some { s with container := s.container.shutdownConnection opt con notify ev }
  | .deleteConnection index =>
      (s.container.deleteConnection index.toNat).map fun c => { s with container := c }
  | .worker a =>
      if a.ofWorker ∧ s.onTimer = .idle then
        (s.timer.exec a).map fun t =>
          { s with
            timer := t
            onTimer := match TimerState.called a t with
              | some (tid1, tid2) => .entered tid1 tid2
              | none => .idle }
      else none
  | .getConnection =>
      match s.onTimer with
      | .entered tid1 tid2 =>
          (s.container.getConnection tid1.toNat).map fun
            | none => { s with onTimer := .idle }
            | some con =>
                if (s.container.connections con).handleId = tid2 then
                  { s with onTimer := .found con tid1 tid2 }
                else { s with onTimer := .idle }
      | _ => none
  | .isOnline =>
      match s.onTimer with
      | .found con tid1 tid2 =>
          if (s.container.endpoints (s.container.connections con).endpoint).isOnline then
            some { s with onTimer := .beat con tid1 tid2 }
          else some { s with onTimer := .idle }
      | _ => none
  | .onTimerEvent =>
      match s.onTimer with
      | .beat con tid1 tid2 =>
          some { s with
            container := { s.container with
              queue := s.container.queue ++ [.heartbeatEvent (s.container.connections con).endpoint] }
            onTimer := .rearm con tid1 tid2
            beats := s.beats ++ [(con, tid1, tid2)] }
      | _ => none
  | .setTimer now =>
      match s.onTimer with
      | .rearm _ tid1 tid2 =>
          some { s with timer := s.timer.setTimer tid1 tid2 (delay opt) now, onTimer := .idle }
      | _ => none

end HeartbeatState

/-- The container and its timer behind `Init` and `Start`. -/
def heartbeatMachine (opt : ContainerOption) (magicNumber : UInt16) (sockets : Nat → UInt64 × UInt16)
    (start : Int) : Machine HeartbeatState HeartbeatAction where
  init :=
    { container := .start opt sockets start
      timer := timerMachine.init
      onTimer := .idle
      armed := []
      beats := [] }
  step s a := s.exec opt magicNumber a

namespace HeartbeatState

/-! ### Pending timers -/

/-- The ids of a timer. -/
def ids (r : TimerRecord) : UInt32 × UInt32 := (r.tid1, r.tid2)

/-- The timer being fired, until it is re-armed or given up. -/
def firing (s : HeartbeatState) : List (UInt32 × UInt32) :=
  match s.onTimer with
  | .idle => []
  | .entered tid1 tid2 | .found _ tid1 tid2 | .beat _ tid1 tid2 | .rearm _ tid1 tid2 => [(tid1, tid2)]

/-- The ids of the pending timers: queued, in the table, or being fired. -/
def pending (s : HeartbeatState) : List (UInt32 × UInt32) := s.timer.waiting.map ids ++ s.firing

/-- The connection whose timer `OnTimer` has accepted. -/
def accepted (s : HeartbeatState) : Option (Nat × UInt32 × UInt32) :=
  match s.onTimer with
  | .found con tid1 tid2 | .beat con tid1 tid2 | .rearm con tid1 tid2 => some (con, tid1, tid2)
  | _ => none

/-! ### The invariant -/

/-- The connection in slot `i` is `con` and its endpoint is online. -/
def LiveOnline (s : HeartbeatState) (i con : Nat) : Prop :=
  s.container.occupant i = some con ∧
    (s.container.endpoints (s.container.connections con).endpoint).isOnline = true

/-- What holds of the chains as long as handle ids are not used twice. -/
structure ChainInv (s : HeartbeatState) : Prop where
  /-- The timer is in order. -/
  timer : s.timer.TimerInv
  /-- The timer runs. -/
  running : s.timer.timer.shutdown = false
  /-- Indices are `uint32_t` values. -/
  fit : s.container.slots.table.IndicesFit
  /-- Handle ids count the connections. -/
  counter : s.container.globalCounter = UInt32.ofNat s.container.nextConnection
  /-- The handle id of a connection. -/
  handleId : ∀ con, con < s.container.nextConnection →
    (s.container.connections con).handleId = UInt32.ofNat con
  /-- A connection that armed a timer gave it its own handle id, and its slot exists. -/
  armed : ∀ x ∈ s.armed, x.1 < s.container.nextConnection ∧ x.2.2 = UInt32.ofNat x.1 ∧
    x.2.1.toNat < s.container.slots.table.mgr.length
  /-- A connection in a slot armed a timer for this slot. -/
  slot : ∀ i con, s.container.occupant i = some con →
    i < 2 ^ 32 ∧ (con, UInt32.ofNat i, UInt32.ofNat con) ∈ s.armed
  /-- Every pending timer was armed by some connection. -/
  owned : ∀ p ∈ s.pending, ∃ con, (con, p) ∈ s.armed
  /-- No two pending timers have the same ids. -/
  single : s.pending.Nodup
  /-- The chain of a live connection goes on. -/
  chain : ∀ i con, s.LiveOnline i con → (UInt32.ofNat i, UInt32.ofNat con) ∈ s.pending
  /-- `OnTimer` goes on only for the connection that armed the timer. -/
  accepted : ∀ x, s.accepted = some x → x ∈ s.armed
  /-- Heartbeats were queued only for the connections that armed the timers. -/
  beats : ∀ b ∈ s.beats, b ∈ s.armed
  /-- The heartbeats in the message queue are these. -/
  queue : s.container.heartbeats = s.beats.map fun b => (s.container.connections b.1).endpoint

/-! ### Steps of the container -/

section Steps

variable {opt : ContainerOption} {magicNumber : UInt16} {s s' : HeartbeatState}

/-- Numbers below 2^32 are told apart by their 32 bits. -/
theorem ofNat_inj {a b : Nat} (ha : a < 2 ^ 32) (hb : b < 2 ^ 32) (h : UInt32.ofNat a = UInt32.ofNat b) :
    a = b := by
  have hnat := congrArg UInt32.toNat h
  rwa [UInt32.toNat_ofNat_of_lt' ha, UInt32.toNat_ofNat_of_lt' hb] at hnat

/-- Nothing about the chains depends on what a quiet step changes. -/
theorem ChainInv.quiet (h : s.ChainInv) {c : ContainerState} (hquiet : s.container.Quiet c) :
    { s with container := c }.ChainInv where
  timer := h.timer
  running := h.running
  fit := hquiet.fit h.fit
  counter := by
    rw [hquiet.counter, hquiet.next]
    exact h.counter
  handleId con hcon := by
    rw [hquiet.handleId]
    exact h.handleId con (hquiet.next ▸ hcon)
  armed x hx := by
    rw [hquiet.next, hquiet.length]
    exact h.armed x hx
  slot i con hcon := h.slot i con (hquiet.slots i con hcon)
  owned := h.owned
  single := h.single
  chain i con hlive := by
    apply h.chain i con
    refine ⟨hquiet.slots i con hlive.1, ?_⟩
    rw [← hquiet.endpoint]
    exact hquiet.online _ hlive.2
  accepted := h.accepted
  beats := h.beats
  queue := by
    rw [hquiet.heartbeats, h.queue]
    simp only [hquiet.endpoint]

/-- The ids of the timer that a new connection arms are not in use. -/
theorem ChainInv.fresh (h : s.ChainInv) (hcount : s.container.nextConnection < 2 ^ 32) (tid1 : UInt32) :
    (tid1, UInt32.ofNat s.container.nextConnection) ∉ s.pending := by
  intro hmem
  obtain ⟨con, hcon⟩ := h.owned _ hmem
  obtain ⟨hlt, hid, -⟩ := h.armed _ hcon
  -- its owner would have the handle id of the connection that does not exist yet
  have heq := ofNat_inj (Nat.lt_trans hlt hcount) hcount hid.symm
  omega

/-- Setting a timer makes its ids pending once more. -/
theorem pending_setTimer (hrun : s.timer.timer.shutdown = false) (tid1 tid2 delayMs : UInt32) (now : Int) :
    ((s.timer.setTimer tid1 tid2 delayMs now).waiting.map ids ++ s.firing).Perm
      ((tid1, tid2) :: s.pending) := by
  have hwaiting := (TimerState.waiting_setTimer hrun tid1 tid2 delayMs now).map ids
  exact hwaiting.append_right s.firing

/-- With heartbeats on, attaching sets one timer. -/
theorem heartbeatCalls_eq {n : Nat} (hn : opt.heartbeatInterval = some n) (hpos : 0 < n)
    (index handleId : UInt32) : heartbeatCalls opt index handleId = [⟨index, handleId, delay opt⟩] := by
  rw [heartbeatCalls, hn]
  simp [hpos, delay, hn]

/-- Attaching arms a timer of its own for the new connection. -/
theorem ChainInv.attach (h : s.ChainInv) {ep index : Nat} {now now' : Int} {c : ContainerState}
    (hcount : s.container.nextConnection < 2 ^ 32) (delayMs : UInt32)
    (hattach : ContainerState.Attaches opt magicNumber ep index now s.container c) :
    ({ s with container := c }.arm s.container.nextConnection
      [⟨UInt32.ofNat index, s.container.globalCounter, delayMs⟩] now').ChainInv := by
  -- one timer is added; every other clause is about connections that were there before
  obtain ⟨hindex, hfit⟩ := h.fit.attach hattach.table
  obtain ⟨hlength, hlt, -⟩ := SlotTable.attach_ok hattach.table
  have hcounter := h.counter
  have hpending := pending_setTimer h.running (UInt32.ofNat index) s.container.globalCounter delayMs now'
  constructor
  case timer => exact h.timer.setTimer ..
  case running => exact (TimerState.shutdown_setTimer ..).trans h.running
  case fit => exact hfit
  case counter =>
    show c.globalCounter = UInt32.ofNat c.nextConnection
    rw [hattach.counter, hattach.next, hcounter, UInt32.ofNat_add]
    rfl
  case handleId =>
    intro con hlt
    show (c.connections con).handleId = UInt32.ofNat con
    change con < c.nextConnection at hlt
    rw [hattach.next] at hlt
    -- an earlier connection, or the new one
    rcases Nat.lt_succ_iff_lt_or_eq.mp hlt with hlt | rfl
    · rw [hattach.connections_of_lt hlt]
      exact h.handleId con hlt
    · rw [hattach.connections, Function.update_self]
      exact hcounter
  case armed =>
    intro x hx
    show x.1 < c.nextConnection ∧ x.2.2 = UInt32.ofNat x.1 ∧ x.2.1.toNat < c.slots.table.mgr.length
    rw [hattach.next]
    rcases List.mem_append.mp hx with hx | hx
    · obtain ⟨h1, h2, h3⟩ := h.armed x hx
      exact ⟨Nat.lt_succ_of_lt h1, h2, Nat.lt_of_lt_of_le h3 hlength⟩
    · rw [List.mem_singleton.mp hx]
      refine ⟨Nat.lt_succ_self _, hcounter, ?_⟩
      show (UInt32.ofNat index).toNat < _
      rwa [UInt32.toNat_ofNat_of_lt' hindex]
  case slot =>
    intro i con hi
    rcases hattach.connection_cases hi with ⟨rfl, rfl⟩ | hi
    · refine ⟨hindex, List.mem_append_right _ ?_⟩
      rw [← hcounter]
      exact List.mem_singleton_self _
    · obtain ⟨h1, h2⟩ := h.slot i con hi
      exact ⟨h1, List.mem_append_left _ h2⟩
  case owned =>
    intro p hp
    rcases List.mem_cons.mp (hpending.mem_iff.mp hp) with rfl | hp
    · exact ⟨_, List.mem_append_right _ (List.mem_singleton_self _)⟩
    · obtain ⟨con, hcon⟩ := h.owned p hp
      exact ⟨con, List.mem_append_left _ hcon⟩
  case single =>
    -- the timer is new because the handle id is
    apply hpending.nodup_iff.mpr
    refine List.nodup_cons.mpr ⟨?_, h.single⟩
    rw [hcounter]
    exact h.fresh hcount _
  case chain =>
    rintro i con ⟨hi, hon⟩
    apply hpending.mem_iff.mpr
    rcases hattach.connection_cases hi with ⟨rfl, rfl⟩ | hi
    · rw [← hcounter]
      exact List.mem_cons_self
    · have hold : con < s.container.nextConnection := (h.armed _ (h.slot i con hi).2).1
      change (c.endpoints (c.connections con).endpoint).isOnline = true at hon
      -- attaching brings no other endpoint online
      rw [hattach.isOnline, hattach.connections_of_lt hold] at hon
      exact List.mem_cons_of_mem _ (h.chain i con ⟨hi, hon⟩)
  case accepted => exact fun x hx => List.mem_append_left _ (h.accepted x hx)
  case beats => exact fun b hb => List.mem_append_left _ (h.beats b hb)
  case queue =>
    show c.heartbeats = s.beats.map fun b => (c.connections b.1).endpoint
    rw [hattach.heartbeats, h.queue]
    apply List.map_congr_left
    intro b hb
    rw [hattach.connections_of_lt (h.armed b (h.beats b hb)).1]

/-! ### Steps of the worker -/

/-- The worker and `OnTimer` move the pending timers around, and `OnTimer` goes on for the connection that
armed the timer. -/
theorem ChainInv.moved (h : s.ChainInv) {t : TimerState} {pc : OnTimerPc} (ht : t.TimerInv)
    (hrun : t.timer.shutdown = false)
    (hacc : ∀ x, { s with onTimer := pc }.accepted = some x → x ∈ s.armed)
    (hperm : (t.waiting.map ids ++ { s with onTimer := pc }.firing).Perm s.pending) :
    { s with timer := t, onTimer := pc }.ChainInv :=
  { h with
    timer := ht
    running := hrun
    owned := fun p hp => h.owned p (hperm.mem_iff.mp hp)
    single := hperm.nodup_iff.mpr h.single
    chain := fun i con hlive => hperm.mem_iff.mpr (h.chain i con hlive)
    accepted := hacc }

/-- `OnTimer` goes on with the timer it fires. -/
theorem ChainInv.goOn (h : s.ChainInv) {pc : OnTimerPc} (hfiring : { s with onTimer := pc }.firing = s.firing)
    (hacc : ∀ x, { s with onTimer := pc }.accepted = some x → x ∈ s.armed) :
    { s with onTimer := pc }.ChainInv := by
  apply h.moved h.timer h.running hacc
  rw [hfiring]
  exact List.Perm.refl _

/-- `OnTimer` gives the timer up when it is not that of a live connection whose endpoint is online. -/
theorem ChainInv.giveUp (h : s.ChainInv) {p : UInt32 × UInt32} (hfiring : s.firing = [p])
    (hdead : ∀ i con, s.LiveOnline i con → (UInt32.ofNat i, UInt32.ofNat con) ≠ p) :
    { s with onTimer := .idle }.ChainInv := by
  have hpending : { s with onTimer := .idle }.pending = s.timer.waiting.map ids := List.append_nil _
  have hsplit : s.pending = s.timer.waiting.map ids ++ [p] := by rw [pending, hfiring]
  have hsingle := h.single
  rw [hsplit] at hsingle
  exact { h with
    owned := by
      intro q hq
      rw [hpending] at hq
      exact h.owned q (by rw [hsplit]; exact List.mem_append_left _ hq)
    single := by
      rw [hpending]
      exact (List.nodup_append.mp hsingle).1
    chain := by
      intro i con hlive
      have hmem := h.chain i con hlive
      rw [hsplit, List.mem_append, List.mem_singleton] at hmem
      rw [hpending]
      -- the chain of a live connection is not the one given up
      exact hmem.resolve_right (hdead i con hlive)
    accepted := fun x hx => nomatch hx }

/-- The worker moves the pending timers around. -/
theorem ChainInv.worker (h : s.ChainInv) {a : TimerAction} {t : TimerState} (ha : a.ofWorker)
    (hidle : s.onTimer = .idle) (hstep : s.timer.exec a = some t) :
    { s with
      timer := t
      onTimer := match TimerState.called a t with
        | some (tid1, tid2) => .entered tid1 tid2
        | none => .idle }.ChainInv := by
  have heffect := TimerState.effect_of_exec h.timer.place hstep
  have hfiring : s.firing = [] := by rw [firing, hidle]
  have hsplit : s.pending = s.timer.waiting.map ids := by rw [pending, hfiring, List.append_nil]
  have hrun : t.timer.shutdown = false := (heffect.shutdown_eq ha).trans h.running
  rcases heffect.waiting ha with ⟨hcalled, hperm⟩ | ⟨r, hcalled, hperm⟩
  · rw [hcalled]
    refine h.moved (h.timer.step hstep) hrun ?_ ?_
    · intro x hx
      cases hx
    · rw [hsplit]
      exact (List.append_nil _).symm ▸ hperm.map ids
  · -- the timer that leaves the table is the one being fired
    rw [hcalled]
    refine h.moved (h.timer.step hstep) hrun ?_ ?_
    · intro x hx
      cases hx
    · rw [hsplit]
      exact (List.perm_append_singleton _ _).trans (hperm.map ids).symm

/-- `GetConnection` and the comparison of the handle ids give up only foreign timers. -/
theorem ChainInv.getConnection (h : s.ChainInv)
    (hstep : s.exec opt magicNumber .getConnection = some s') : s'.ChainInv := by
  rw [exec] at hstep
  split at hstep
  · next tid1 tid2 hpc =>
    have hfiring : s.firing = [(tid1, tid2)] := by rw [firing, hpc]
    obtain ⟨o, ho, rfl⟩ := Option.map_eq_some_iff.mp hstep
    have hoccupant := ContainerState.getConnection_eq ho
    -- a live connection with this timer is the one found
    have hfound : ∀ i con, s.LiveOnline i con → (UInt32.ofNat i, UInt32.ofNat con) = (tid1, tid2) →
        o = some con ∧ (s.container.connections con).handleId = tid2 := by
      rintro i con ⟨hi, -⟩ hids
      obtain ⟨hlt, harmed⟩ := h.slot i con hi
      obtain ⟨rfl, rfl⟩ := Prod.mk.inj hids
      rw [UInt32.toNat_ofNat_of_lt' hlt] at hoccupant
      exact ⟨hoccupant.trans hi, h.handleId con (h.armed _ harmed).1⟩
    cases o with
    | none =>
        apply h.giveUp hfiring
        intro i con hlive hids
        cases (hfound i con hlive hids).1
    | some con =>
        by_cases hid : (s.container.connections con).handleId = tid2
        -- the ids are those the connection found had armed its timer with
        · simp only [if_pos hid]
          apply h.goOn (by rw [hfiring]; rfl)
          rintro x hx
          cases hx
          obtain ⟨hlt, harmed⟩ := h.slot _ con hoccupant.symm
          have hold := (h.armed _ harmed).1
          rw [UInt32.ofNat_toNat, ← h.handleId con hold, hid] at harmed
          exact harmed
        · simp only [if_neg hid]
          apply h.giveUp hfiring
          intro i con' hlive hids
          obtain ⟨heq, hid'⟩ := hfound i con' hlive hids
          cases heq
          exact hid hid'
  · cases hstep

/-- `IsOnline` gives up only the timer of an endpoint that is offline. -/
theorem ChainInv.isOnline (h : s.ChainInv) (hcount : s.container.nextConnection < 2 ^ 32)
    (hstep : s.exec opt magicNumber .isOnline = some s') : s'.ChainInv := by
  rw [exec] at hstep
  split at hstep
  · next con tid1 tid2 hpc =>
    have hfiring : s.firing = [(tid1, tid2)] := by rw [firing, hpc]
    have harmed : (con, tid1, tid2) ∈ s.armed := h.accepted _ (by rw [HeartbeatState.accepted, hpc])
    split at hstep
    · cases hstep
      apply h.goOn (by rw [hfiring]; rfl)
      rintro x hx
      cases hx
      exact harmed
    · next hoff =>
      cases hstep
      apply h.giveUp hfiring
      rintro i con' ⟨hi, hon⟩ hids
      -- the handle id tells the connections apart
      obtain ⟨hlt, hid, -⟩ := h.armed _ harmed
      have hlt' := (h.armed _ (h.slot i con' hi).2).1
      have heq : con' = con := ofNat_inj (Nat.lt_trans hlt' hcount) (Nat.lt_trans hlt hcount)
        ((Prod.mk.inj hids).2.trans hid)
      subst heq
      exact hoff hon
  · cases hstep

/-- `OnTimerEvent` queues a heartbeat for the connection that armed the timer. -/
theorem ChainInv.onTimerEvent (h : s.ChainInv)
    (hstep : s.exec opt magicNumber .onTimerEvent = some s') : s'.ChainInv := by
  rw [exec] at hstep
  split at hstep
  · next con tid1 tid2 hpc =>
    have hfiring : s.firing = [(tid1, tid2)] := by rw [firing, hpc]
    have harmed : (con, tid1, tid2) ∈ s.armed := h.accepted _ (by rw [HeartbeatState.accepted, hpc])
    cases hstep
    have hgo : { s with onTimer := .rearm con tid1 tid2 }.ChainInv := by
      apply h.goOn (by rw [hfiring]; rfl)
      rintro x hx
      cases hx
      exact harmed
    exact { hgo with
      beats := by
        intro b hb
        rcases List.mem_append.mp hb with hb | hb
        · exact h.beats b hb
        · rw [List.mem_singleton.mp hb]
          exact harmed
      -- the heartbeat goes to the queue and to the history at once
      queue := by
        rw [List.map_append, ContainerState.heartbeats, List.filterMap_append]
        exact congrArg (· ++ [_]) h.queue }
  · cases hstep

/-- `SetTimer` makes the timer wait again. -/
theorem ChainInv.setTimer (h : s.ChainInv) {now : Int}
    (hstep : s.exec opt magicNumber (.setTimer now) = some s') : s'.ChainInv := by
  rw [exec] at hstep
  split at hstep
  · next con tid1 tid2 hpc =>
    cases hstep
    have hfiring : s.firing = [(tid1, tid2)] := by rw [firing, hpc]
    -- the timer being fired becomes one that waits
    have hperm : ((s.timer.setTimer tid1 tid2 (delay opt) now).waiting.map ids ++ []).Perm s.pending := by
      rw [List.append_nil, pending, hfiring]
      exact ((TimerState.waiting_setTimer h.running ..).map ids).trans
        (List.perm_append_singleton _ _).symm
    exact h.moved (h.timer.setTimer ..) ((TimerState.shutdown_setTimer ..).trans h.running)
      (fun x hx => nomatch hx) hperm
  · cases hstep

/-! ### Whole runs -/

/-- Arming no timer changes nothing. -/
@[simp] theorem arm_nil (s : HeartbeatState) (con : Nat) (now : Int) : s.arm con [] now = s := by
  simp [arm]

/-- Connections are only ever added. -/
theorem nextConnection_le {a : HeartbeatAction} (hstep : s.exec opt magicNumber a = some s') :
    s.container.nextConnection ≤ s'.container.nextConnection := by
  cases a with
  | container a now =>
      obtain ⟨c, hc, rfl⟩ := Option.map_eq_some_iff.mp hstep
      rcases ContainerState.exec_cases hc with hquiet | ⟨ep, now', index, hattach⟩
      · exact Nat.le_of_eq hquiet.next.symm
      · exact Nat.le_of_lt (Nat.lt_of_lt_of_eq (Nat.lt_succ_self _) hattach.next.symm)
  | shutdownConnection con notify ev =>
      cases hstep
      exact Nat.le_refl _
  | deleteConnection index =>
      obtain ⟨c, hc, rfl⟩ := Option.map_eq_some_iff.mp hstep
      exact Nat.le_of_eq (ContainerState.quiet_deleteConnection index.toNat_lt hc).next.symm
  | worker a =>
      rw [exec, Option.ite_none_right_eq_some] at hstep
      obtain ⟨t, -, rfl⟩ := Option.map_eq_some_iff.mp hstep.2
      exact Nat.le_refl _
  | getConnection =>
      rw [exec] at hstep
      split at hstep
      · obtain ⟨o, -, rfl⟩ := Option.map_eq_some_iff.mp hstep
        cases o with
        | none => exact Nat.le_refl _
        | some con =>
            dsimp only
            split <;> exact Nat.le_refl _
      · cases hstep
  | isOnline =>
      rw [exec] at hstep
      split at hstep
      · split at hstep <;> cases hstep <;> exact Nat.le_refl _
      · cases hstep
  | onTimerEvent =>
      rw [exec] at hstep
      split at hstep <;> cases hstep
      exact Nat.le_refl _
  | setTimer now =>
      rw [exec] at hstep
      split at hstep <;> cases hstep
      exact Nat.le_refl _

/-- Every step keeps the invariant while there are fewer than `2 ^ 32` connections. -/
theorem ChainInv.step {n : Nat} (hn : opt.heartbeatInterval = some n) (hpos : 0 < n) (h : s.ChainInv)
    {a : HeartbeatAction} (hcount : s.container.nextConnection < 2 ^ 32)
    (hstep : s.exec opt magicNumber a = some s') : s'.ChainInv := by
  cases a with
  | container a now =>
      obtain ⟨c, hc, rfl⟩ := Option.map_eq_some_iff.mp hstep
      -- only attaching sets a timer from inside the container
      rcases ContainerState.exec_cases hc with hquiet | ⟨ep, now', index, hattach⟩
      · rw [hquiet.timers, List.drop_length, arm_nil]
        exact h.quiet hquiet
      · rw [hattach.timers, List.drop_left, heartbeatCalls_eq hn hpos]
        exact h.attach hcount _ hattach
  | shutdownConnection con notify ev =>
      cases hstep
      exact h.quiet (ContainerState.quiet_shutdownConnection opt s.container con notify ev)
  | deleteConnection index =>
      obtain ⟨c, hc, rfl⟩ := Option.map_eq_some_iff.mp hstep
      exact h.quiet (ContainerState.quiet_deleteConnection index.toNat_lt hc)
  | worker a =>
      rw [exec, Option.ite_none_right_eq_some] at hstep
      obtain ⟨⟨ha, hidle⟩, hstep⟩ := hstep
      obtain ⟨t, ht, rfl⟩ := Option.map_eq_some_iff.mp hstep
      exact h.worker ha hidle ht
  | getConnection => exact h.getConnection hstep
  | isOnline => exact h.isOnline hcount hstep
  | onTimerEvent => exact h.onTimerEvent hstep
  | setTimer now => exact h.setTimer hstep

end Steps

/-- Nothing is attached and no timer is set at the start. -/
theorem chainInv_init (opt : ContainerOption) (magicNumber : UInt16) (sockets : Nat → UInt64 × UInt16)
    (start : Int) : (heartbeatMachine opt magicNumber sockets start).init.ChainInv := by
  have hid := ContainerState.idInv_start opt sockets start
  have hempty : ∀ i con, (ContainerState.start opt sockets start).occupant i ≠ some con :=
    fun i con h => Nat.not_lt_zero _ (hid.old i con h)
  exact
    { timer := TimerState.timerInv_init
      running := rfl
      fit := hid.fit
      counter := rfl
      handleId := fun con hlt => absurd hlt (Nat.not_lt_zero con)
      armed := fun x hx => nomatch hx
      slot := fun i con h => absurd h (hempty i con)
      owned := fun p hp => nomatch hp
      single := List.nodup_nil
      chain := fun i con h => absurd h.1 (hempty i con)
      accepted := fun x hx => nomatch hx
      beats := fun b hb => nomatch hb
      queue := rfl }

/-- The invariant holds in every reachable state with fewer than `2 ^ 32` connections. -/
theorem chainInv_of_reachable {opt : ContainerOption} {magicNumber : UInt16}
    {sockets : Nat → UInt64 × UInt16} {start : Int} {n : Nat} (hn : opt.heartbeatInterval = some n)
    (hpos : 0 < n) {s : HeartbeatState}
    (hs : (heartbeatMachine opt magicNumber sockets start).Reachable s)
    (hcount : s.container.nextConnection < 2 ^ 32) : s.ChainInv := by
  -- connections are only added, so the bound at the end holds all the way
  refine Machine.Reaches.invariant (fun s => s.container.nextConnection < 2 ^ 32 → s.ChainInv)
    (fun _ => chainInv_init opt magicNumber sockets start) ?_ hs hcount
  intro s a s' _ _ ih hstep hcount
  have hbefore : s.container.nextConnection < 2 ^ 32 := Nat.lt_of_le_of_lt (nextConnection_le hstep) hcount
  exact (ih hbefore).step hn hpos hbefore hstep

/-- `OnTimer` looks up a slot that exists. -/
theorem ChainInv.getConnection_enabled {s : HeartbeatState} (h : s.ChainInv) (opt : ContainerOption)
    (magicNumber : UInt16) {tid1 tid2 : UInt32} (hpc : s.onTimer = .entered tid1 tid2) :
    ∃ s', s.exec opt magicNumber .getConnection = some s' := by
  have hmem : (tid1, tid2) ∈ s.pending := by
    apply List.mem_append_right
    rw [firing, hpc]
    exact List.mem_singleton_self _
  obtain ⟨con, harmed⟩ := h.owned _ hmem
  have hlt : tid1.toNat < s.container.slots.table.mgr.length := (h.armed _ harmed).2.2
  have hget : s.container.getConnection tid1.toNat =
      some (s.container.slots.table.mgr[tid1.toNat]).1 := by
    rw [ContainerState.getConnection, SlotTable.getConnection, List.getElem?_eq_getElem hlt]
    rfl
  rw [exec, hpc]
  simp only [hget, Option.map_some]
  exact ⟨_, rfl⟩

end HeartbeatState

/-- **The heartbeat chain.** In every run of a container with heartbeats and fewer than `2 ^ 32`
attachments: a live connection whose endpoint is online has exactly one pending timer with its slot index
and handle id; no two pending timers have the same ids; the heartbeats in the message queue are those that
fired timers queued, each for the one connection that armed the timer; and `OnTimer` never looks up a slot
that does not exist. -/
theorem heartbeat_chain (opt : ContainerOption) (magicNumber : UInt16) (sockets : Nat → UInt64 × UInt16)
    (start : Int) {n : Nat} (hn : opt.heartbeatInterval = some n) (hpos : 0 < n) {s : HeartbeatState}
    (hs : (heartbeatMachine opt magicNumber sockets start).Reachable s)
    (hcount : s.container.nextConnection < 2 ^ 32) :
    (∀ i con, s.container.occupant i = some con →
      (s.container.endpoints (s.container.connections con).endpoint).isOnline = true →
      s.pending.count (UInt32.ofNat i, (s.container.connections con).handleId) = 1) ∧
    (∀ p, s.pending.count p ≤ 1) ∧
    s.container.heartbeats = s.beats.map (fun b => (s.container.connections b.1).endpoint) ∧
    (∀ b ∈ s.beats, b ∈ s.armed ∧ ∀ con, (con, b.2) ∈ s.armed → con = b.1) ∧
    (∀ tid1 tid2, s.onTimer = .entered tid1 tid2 →
      ∃ s', s.exec opt magicNumber .getConnection = some s') := by
  have h := HeartbeatState.chainInv_of_reachable hn hpos hs hcount
  refine ⟨?_, List.nodup_iff_count_le_one.mp h.single, h.queue, ?_,
    fun _ _ hpc => h.getConnection_enabled opt magicNumber hpc⟩
  · intro i con hi hon
    have hold := (h.armed _ (h.slot i con hi).2).1
    rw [h.handleId con hold]
    exact List.count_eq_one_of_mem h.single (h.chain i con ⟨hi, hon⟩)
  · intro b hb
    refine ⟨h.beats b hb, ?_⟩
    intro con hcon
    -- a handle id belongs to one connection
    obtain ⟨hlt, hid, -⟩ := h.armed _ hcon
    obtain ⟨hlt', hid', -⟩ := h.armed _ (h.beats b hb)
    exact HeartbeatState.ofNat_inj (Nat.lt_trans hlt hcount) (Nat.lt_trans hlt' hcount)
      (hid.symm.trans hid')

/-- One slot, heartbeats every 100 ms, endpoint `ep` on descriptor `ep + 5`. -/
def beatingMachine : Machine HeartbeatState HeartbeatAction :=
  heartbeatMachine
    { defaultContainerSize := 1, maxContainerSize := 1, heartbeatInterval := some 100 } 7
    (fun ep => (UInt64.ofNat (ep + 5), 80)) 0

/-- The timer of a connection fires once, after the connection has taken the slot of another one. -/
def beatingRun : List HeartbeatAction :=
  [.container (.attachEndpoint 0 false 0) 0, .container (.closeEndpoint 0 false) 0,
    .container (.attachEndpoint 1 false 10) 10, .worker .test, .worker (.pop true),
    .worker (.readBegin 100), .worker .scan, .getConnection, .worker (.callbackReturns 101),
    .worker .scan, .worker .pace, .worker .test, .worker (.pop true), .worker (.readBegin 400),
    .worker .scan, .getConnection, .isOnline, .onTimerEvent, .setTimer 401]

/-- The timer of the first connection is given up, that of the second one is re-armed. -/
theorem heartbeat_chain_second_connection :
    ∃ s, beatingMachine.run beatingMachine.init beatingRun = some s ∧
      s.container.occupant 0 = some 1 ∧ s.beats = [(1, 0, 1)] ∧ s.pending.count (0, 1) = 1 := by
  refine ⟨_, rfl, rfl, rfl, ?_⟩
  exact (heartbeat_chain _ 7 (fun ep => (UInt64.ofNat (ep + 5), 80)) 0 (n := 100) rfl (by decide)
    (@Machine.reachable_of_run _ _ beatingMachine _ beatingRun rfl) (by decide)).1 0 1 rfl rfl

end RaptorLite
