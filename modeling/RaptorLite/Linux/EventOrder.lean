import RaptorLite.Linux.ConnectionClosing

/-! # The order of the messages of an endpoint

The notification of an endpoint, its data and its close event are queued by three threads with no common lock:
the one that attaches it, the receive poller and whoever runs `Connection::Shutdown`. An application (such as
`example/echo_client.cc`) that sets up its record of the endpoint on the notification and drops it on the close
needs them in this order.

They are in order when the handlers start behind the notification and the close event is queued while no
received data is in hand; a run breaks the order in two ways otherwise. -/

namespace RaptorLite

open Connection

namespace TcpMessage

/-- A notification. -/
def isNotify : TcpMessage → Bool
  | .endpointNotify _ => true
  | _ => false

/-- Received data. -/
def isData : TcpMessage → Bool
  | .recvAMessage .. => true
  | _ => false

/-- A close event. -/
def isClose : TcpMessage → Bool
  | .closeEvent .. => true
  | _ => false

end TcpMessage

/-- **The order of the messages of an endpoint**: a notification comes before everything else, and no data
comes behind a close event. -/
structure EventOrder (queue : List TcpMessage) : Prop where
  /-- What is no notification has one before it. -/
  notified : ∀ pre m post, queue = pre ++ m :: post → m.isNotify = false → ∃ n ∈ pre, n.isNotify = true
  /-- No data behind a close event. -/
  closed : ∀ pre m post, queue = pre ++ m :: post → m.isClose = true → ∀ n ∈ post, n.isData = false

/-- A notification, then data, then close events are in order. -/
theorem eventOrder_of_split {notification : TcpMessage} {data closes : List TcpMessage}
    (hnotify : notification.isNotify = true) (hdata : ∀ m ∈ data, m.isData = true)
    (hcloses : ∀ m ∈ closes, m.isClose = true) : EventOrder (notification :: (data ++ closes)) := by
  have hexcl : ∀ m : TcpMessage, m.isClose = true → m.isData = false := by
    intro m
    cases m <;> simp [TcpMessage.isClose, TcpMessage.isData]
  refine ⟨?_, ?_⟩
  · intro pre m post hsplit hm
    cases pre with
    | nil =>
        cases hsplit
        rw [hnotify] at hm
        cases hm
    | cons first rest =>
        obtain ⟨rfl, -⟩ := List.cons.inj hsplit
        exact ⟨notification, List.mem_cons_self, hnotify⟩
  · intro pre m post hsplit hm
    -- an element behind a close event is neither the notification nor in the data
    have hpair : (notification :: (data ++ closes)).Pairwise fun a b => a.isClose = true → b.isData = false := by
      refine List.pairwise_cons.mpr ⟨?_, List.pairwise_append.mpr ⟨?_, ?_, ?_⟩⟩
      · intro b _ hclose
        cases notification <;> cases hnotify
        cases hclose
      · apply List.pairwise_of_forall_mem_list
        intro a ha b _ hclose
        have hboth := hdata a ha
        rw [hexcl a hclose] at hboth
        cases hboth
      · apply List.pairwise_of_forall_mem_list
        exact fun a _ b hb _ => hexcl b (hcloses b hb)
      · exact fun a _ b hb _ => hexcl b (hcloses b hb)
    rw [hsplit, List.pairwise_append] at hpair
    intro n hn
    exact (List.pairwise_cons.mp hpair.2.1).1 n hn hm

namespace ConnThreads

variable {ι : Type} [DecidableEq ι] {opt : ContainerOption} {s s' : ConnThreads ι}

/-- The handlers start behind the notification, and a close event is queued while no received data is in
hand. -/
def OrderSafe (s : ConnThreads ι) : ConnAction ι → Prop
  | .enterShutdown .. => s.attach = .done
  | .enterRecv _ => s.attach = .done
  | .advance t _ _ => ∀ ev, s.pcs t = .onClosed ev → ∀ u, (s.pcs u).inHand = []
  | _ => True

instance [Fintype ι] (s : ConnThreads ι) (a : ConnAction ι) : Decidable (s.OrderSafe a) :=
  match a with
  | .advance t _ _ =>
      decidable_of_iff ((s.pcs t).reports = true → ∀ u, (s.pcs u).inHand = []) (by
        rw [OrderSafe]
        cases s.pcs t <;> simp [ConnPc.reports])
  | .enterShutdown _ _ _ => inferInstanceAs (Decidable (s.attach = .done))
  | .enterRecv _ => inferInstanceAs (Decidable (s.attach = .done))
  | .attachImpl => isTrue trivial
  | .onNotify => isTrue trivial

/-- What the next step of thread `t` does to the queue. -/
inductive QueueStep (opt : ContainerOption) (s : ConnThreads ι) (t : ι) : ConnThreads ι → Prop
  /-- Nothing, and the thread has nothing in hand afterwards. -/
  | keep {s' : ConnThreads ι} (pc : ConnPc) (hpcs : s'.pcs = Function.update s.pcs t pc)
      (hhand : pc.inHand = []) (hmarked : ∀ ev, pc = .onClosed ev → s'.endpoint.fd = closedFd)
      (hfd : s'.endpoint.fd = s.endpoint.fd ∨ s'.endpoint.fd = closedFd) (hattach : s'.attach = s.attach)
      (hqueue : s'.queue = s.queue) : QueueStep opt s t s'
  /-- It receives something. -/
  | receive (slices : List Slice) (after : AfterPush) (rcv : SliceBuffer) (hopen : s.IsOpen) :
      QueueStep opt s t { s.goto t (.push slices after) with
        connection := { s.connection with rcvBuffer := rcv } }
  /-- It passes a package on. -/
  | push (slice : Slice) (rest : List Slice) (after : AfterPush) (hpc : s.pcs t = .push (slice :: rest) after) :
      QueueStep opt s t { s.goto t (.push rest after) with
        queue := s.queue ++ [.recvAMessage s.connection.endpoint slice] }
  /-- It calls `OnClosed`. -/
  | onClosed (ev : Event) (hpc : s.pcs t = .onClosed ev) :
      QueueStep opt s t { s.goto t .clearRcv with
        queue := s.queue ++ ContainerState.onClosed opt s.connection.endpoint ev }

/-- A step that leaves endpoint and queue alone and hands nothing out. -/
theorem QueueStep.move {t : ι} {pc : ConnPc} (hpcs : s'.pcs = Function.update s.pcs t pc)
    (hhand : pc.inHand = []) (hmarked : ∀ ev, pc ≠ .onClosed ev) (hendpoint : s'.endpoint = s.endpoint)
    (hattach : s'.attach = s.attach) (hqueue : s'.queue = s.queue) : QueueStep opt s t s' :=
  .keep pc hpcs hhand (fun ev h => absurd h (hmarked ev)) (Or.inl (by rw [hendpoint])) hattach hqueue

/-- A step that advances one thread is a step of the queue. -/
theorem queueStep_of_advanceStep {t : ι} (h : AdvanceStep opt s t s') : QueueStep opt s t s' := by
  cases h with
  | move pc hpc hpc' hhand hpcs hsame =>
      refine .move hpcs hhand ?_ hsame.endpoint hsame.attach hsame.queue
      rintro ev rfl
      cases hpc'
  | enter notify ev hpc hon => exact .move rfl rfl nofun rfl rfl rfl
  | deleteRecv notify ev hpc hpcs hsame =>
      exact .move hpcs rfl nofun hsame.endpoint hsame.attach hsame.queue
  | deleteSend notify ev hpc hpcs hsame =>
      exact .move hpcs rfl nofun hsame.endpoint hsame.attach hsame.queue
  | close notify ev hpc => exact .move rfl rfl nofun rfl rfl rfl
  | mark notify ev hpc =>
      -- `OnClosed` is called behind the mark, which this step makes
      refine .keep _ rfl ?_ (fun _ _ => rfl) (Or.inr rfl) rfl rfl
      cases notify <;> rfl
  | onClosed ev hpc => exact .onClosed ev hpc
  | receive slices after rcv hpc hopen => exact .receive slices after rcv hopen
  | push slice rest after hpc => exact .push slice rest after hpc

/-- What holds under safe steps. -/
structure OrderInv (s : ConnThreads ι) : Prop where
  /-- Before the notification nobody is on the connection and nothing is queued. -/
  before : s.attach ≠ .done → (∀ u, s.pcs u = .idle) ∧ s.queue = []
  /-- Behind it the queue is the notification, data and close events, and once a close event is queued the
  endpoint is offline and no data is in hand. -/
  behind : s.attach = .done → ∃ notification data closes, s.queue = notification :: (data ++ closes) ∧
    notification.isNotify = true ∧ (∀ m ∈ data, m.isData = true) ∧ (∀ m ∈ closes, m.isClose = true) ∧
    (closes ≠ [] → s.endpoint.fd = closedFd ∧ ∀ u, (s.pcs u).inHand = [])
  /-- `OnClosed` is called behind the mark. -/
  marked : ∀ u ev, s.pcs u = .onClosed ev → s.endpoint.fd = closedFd

/-- The thread moves to a place with nothing in hand. -/
theorem inHand_update {t : ι} {pc : ConnPc} (hhand : pc.inHand = []) (h : ∀ u, (s.pcs u).inHand = []) (u : ι) :
    (Function.update s.pcs t pc u).inHand = [] := by
  by_cases hu : u = t
  · rw [hu, Function.update_self]
    exact hhand
  · rw [Function.update_of_ne hu]
    exact h u

/-- `OnClosed` queues close events only. -/
theorem isClose_of_mem_onClosed {ep : Nat} {ev : Event} {m : TcpMessage}
    (h : m ∈ ContainerState.onClosed opt ep ev) : m.isClose = true := by
  rw [ContainerState.onClosed] at h
  split at h
  · rw [List.mem_singleton.mp h]
    rfl
  · cases h

/-- A thread that is about to call `OnClosed` has got there by this step, or was there before. -/
theorem OrderInv.marked_update {t : ι} {pc : ConnPc} (h : s.OrderInv) {fd : UInt64}
    (hmark : ∀ ev, pc = .onClosed ev → fd = closedFd) (hoff : s.endpoint.fd = closedFd → fd = closedFd)
    (u : ι) (ev : Event) (hu : Function.update s.pcs t pc u = .onClosed ev) : fd = closedFd := by
  by_cases hut : u = t
  · rw [hut, Function.update_self] at hu
    exact hmark ev hu
  · rw [Function.update_of_ne hut] at hu
    exact hoff (h.marked u ev hu)

/-- A step of the queue behind the attach keeps the order, if a closing thread is alone with the events. -/
theorem OrderInv.queueStep {t : ι} (h : s.OrderInv) (hdone : s.attach = .done)
    (hok : ∀ ev, s.pcs t = .onClosed ev → ∀ u, (s.pcs u).inHand = []) (hstep : QueueStep opt s t s') :
    s'.OrderInv := by
  obtain ⟨notification, data, closes, hqueue, hnotify, hdata, hcloses, hlast⟩ := h.behind hdone
  cases hstep with
  | keep pc hpcs hhand hmark hfd hattach hqueue' =>
      have hoff : s.endpoint.fd = closedFd → s'.endpoint.fd = closedFd := by
        intro hclosed
        rcases hfd with hfd | hfd
        · exact hfd.trans hclosed
        · exact hfd
      refine ⟨fun hne => absurd (hattach.trans hdone) hne, fun _ => ?_, ?_⟩
      · refine ⟨notification, data, closes, hqueue'.trans hqueue, hnotify, hdata, hcloses, ?_⟩
        intro hne
        obtain ⟨hclosed, hnone⟩ := hlast hne
        refine ⟨hoff hclosed, ?_⟩
        intro u
        rw [hpcs]
        exact inHand_update hhand hnone u
      · rw [hpcs]
        exact h.marked_update hmark hoff
  | receive slices after rcv hopen =>
      -- an open descriptor is not marked, so no close event is queued yet
      have hnil : closes = [] := by
        by_contra hne
        exact not_online_of_closed (hlast hne).1 hopen.1
      refine ⟨fun hne => absurd hdone hne, fun _ => ?_, h.marked_update nofun id⟩
      exact ⟨notification, data, closes, hqueue, hnotify, hdata, hcloses, fun hne => absurd hnil hne⟩
  | push slice rest after hpc =>
      -- data in hand rules out a close event in the queue
      have hnil : closes = [] := by
        by_contra hne
        have hnone := (hlast hne).2 t
        rw [hpc] at hnone
        cases hnone
      subst hnil
      refine ⟨fun hne => absurd hdone hne, fun _ => ?_, h.marked_update nofun id⟩
      refine ⟨notification, data ++ [.recvAMessage s.connection.endpoint slice], [], ?_, hnotify, ?_, hcloses,
        fun hne => absurd rfl hne⟩
      · show s.queue ++ _ = _
        rw [hqueue]
        simp
      · intro m hm
        rcases List.mem_append.mp hm with hm | hm
        · exact hdata m hm
        · rw [List.mem_singleton.mp hm]
          rfl
  | onClosed ev hpc =>
      refine ⟨fun hne => absurd hdone hne, fun _ => ?_, h.marked_update nofun id⟩
      -- the condition is used here: nobody has data in hand when the close event goes in
      refine ⟨notification, data, closes ++ ContainerState.onClosed opt s.connection.endpoint ev, ?_, hnotify,
        hdata, ?_, fun _ => ⟨h.marked t ev hpc, inHand_update rfl (hok ev hpc)⟩⟩
      · show s.queue ++ _ = _
        rw [hqueue]
        simp
      · intro m hm
        rcases List.mem_append.mp hm with hm | hm
        · exact hcloses m hm
        · exact isClose_of_mem_onClosed hm

/-- A handler starts behind the notification. -/
theorem OrderInv.enter {t : ι} {pc : ConnPc} (h : s.OrderInv) (hdone : s.attach = .done)
    (hhand : pc.inHand = []) (hpc : ∀ ev, pc ≠ .onClosed ev) (hidle : s.pcs t = .idle) :
    (s.goto t pc).OrderInv := by
  have hmove : QueueStep {} s t (s.goto t pc) := .move rfl hhand hpc rfl rfl rfl
  refine h.queueStep hdone ?_ hmove
  intro ev hclosed
  rw [hidle] at hclosed
  cases hclosed

/-- Every step that meets the condition keeps the order of events. -/
theorem OrderInv.step (hn : opt.notifyHandler = true) (h : s.OrderInv) {a : ConnAction ι}
    (hok : s.OrderSafe a) (hstep : s.exec opt a = some s') : s'.OrderInv := by
  cases a with
  | attachImpl =>
      rw [exec, Option.ite_none_right_eq_some] at hstep
      obtain ⟨hattach, hstep⟩ := hstep
      cases hstep
      have hbefore := h.before (by rw [hattach]; decide)
      refine ⟨fun _ => hbefore, ?_, h.marked⟩
      intro hdone
      cases hdone
  | onNotify =>
      rw [exec, Option.ite_none_right_eq_some] at hstep
      obtain ⟨hattach, hstep⟩ := hstep
      cases hstep
      obtain ⟨hidle, hqueue⟩ := h.before (by rw [hattach]; decide)
      refine ⟨fun hne => absurd rfl hne, fun _ => ?_, h.marked⟩
      refine ⟨.endpointNotify s.connection.endpoint, [], [], ?_, rfl, by simp, by simp, fun hne => absurd rfl hne⟩
      show s.queue ++ _ = _
      rw [hqueue, if_pos hn]
      rfl
  | enterShutdown t notify ev =>
      rw [exec] at hstep
      split at hstep
      · next hidle =>
        rw [Option.ite_none_right_eq_some] at hstep
        cases hstep.2
        exact h.enter hok rfl (by simp) hidle
      · cases hstep
  | enterRecv t =>
      rw [exec] at hstep
      split at hstep
      · next hidle =>
        rw [Option.ite_none_right_eq_some] at hstep
        cases hstep.2
        exact h.enter hok rfl (by simp) hidle
      · cases hstep
  | advance t outcome errno =>
      -- a thread that is not idle has started behind the notification
      have hdone : s.attach = .done := by
        by_contra hne
        have hidle := (h.before hne).1 t
        rw [exec, ConnThreads.advance, hidle] at hstep
        cases hstep
      exact h.queueStep hdone hok (queueStep_of_advanceStep (advanceStep_of_advance hstep))

end ConnThreads

/-- **The messages of an endpoint are queued in order**, whatever the threads do, when the handlers start behind
the notification and close events are queued while no received data is in hand. -/
theorem event_order_of_orderSafe {ι : Type} [DecidableEq ι] (opt : ContainerOption)
    (hn : opt.notifyHandler = true) (endpoint : EndpointImpl) (ep : Nat) (handleId : UInt32)
    {s : ConnThreads ι}
    (hs : (connMachine ι opt endpoint ep handleId).Reaches (fun s a => s.OrderSafe a) s) :
    EventOrder s.queue := by
  have hinv : s.OrderInv := by
    apply Machine.Reaches.invariant ConnThreads.OrderInv _ _ hs
    · exact ⟨fun _ => ⟨fun _ => rfl, rfl⟩, (fun hdone => nomatch hdone), fun _ _ hpc => nomatch hpc⟩
    · intro s a s' _ hok h hstep
      exact h.step hn hok hstep
  by_cases hdone : s.attach = .done
  · obtain ⟨notification, data, closes, hqueue, hnotify, hdata, hcloses, -⟩ := hinv.behind hdone
    rw [hqueue]
    exact eventOrder_of_split hnotify hdata hcloses
  · rw [(hinv.before hdone).2]
    exact ⟨fun pre m post h => by simp at h, fun pre m post h => by simp at h⟩

/-- One byte. -/
def oneByte : RecvChunk := ⟨[1], by decide⟩

/-- The receive poller passes a byte on while another thread runs `Shutdown(true)`, which calls `OnClosed` behind it. -/
theorem event_order_of_orderSafe_two_threads :
    ∃ s, (connMachine (Fin 2) handlersOption endpointOnFive 0 0).run
        (connMachine (Fin 2) handlersOption endpointOnFive 0 0).init
        ([.attachImpl, .onNotify, .enterRecv 0, proceed 0, .advance 0 (.data oneByte) ⟨0, ""⟩,
          .enterShutdown 1 true {}] ++ List.replicate 5 (proceed 1) ++ [proceed 0] ++ [proceed 1]) = some s ∧
      s.queue = [.endpointNotify 0, .recvAMessage 0 (Slice.ofBytes [1]), .closeEvent 0 {}] ∧
      EventOrder s.queue := by
  obtain ⟨s, hguard, hqueue⟩ : ∃ s,
      ((connMachine (Fin 2) handlersOption endpointOnFive 0 0).guard fun s a => s.OrderSafe a).run
        (connMachine (Fin 2) handlersOption endpointOnFive 0 0).init
        ([.attachImpl, .onNotify, .enterRecv 0, proceed 0, .advance 0 (.data oneByte) ⟨0, ""⟩,
          .enterShutdown 1 true {}] ++ List.replicate 5 (proceed 1) ++ [proceed 0] ++ [proceed 1]) = some s ∧
      s.queue = [.endpointNotify 0, .recvAMessage 0 (Slice.ofBytes [1]), .closeEvent 0 {}] := ⟨_, rfl, rfl⟩
  exact ⟨s, Machine.run_of_guard_run hguard, hqueue,
    event_order_of_orderSafe handlersOption rfl endpointOnFive 0 0 (Machine.reaches_of_guard_run .init hguard)⟩

/-- The receive poller passes a byte on between the registration and the notification. Or it has received a
byte when another thread runs `Shutdown(true)` up to `OnClosed`, and passes it on afterwards. -/
theorem messages_out_of_order :
    (∃ s, (connMachine (Fin 2) handlersOption endpointOnFive 0 0).run
        (connMachine (Fin 2) handlersOption endpointOnFive 0 0).init
        [.attachImpl, .enterRecv 0, proceed 0, .advance 0 (.data oneByte) ⟨0, ""⟩, proceed 0, .onNotify] =
          some s ∧
      s.queue = [.recvAMessage 0 (Slice.ofBytes [1]), .endpointNotify 0] ∧ ¬ EventOrder s.queue) ∧
    ∃ s, (connMachine (Fin 2) handlersOption endpointOnFive 0 0).run
        (connMachine (Fin 2) handlersOption endpointOnFive 0 0).init
        ([.attachImpl, .onNotify, .enterRecv 0, proceed 0, .advance 0 (.data oneByte) ⟨0, ""⟩,
          .enterShutdown 1 true {}] ++ List.replicate 6 (proceed 1) ++ [proceed 0]) = some s ∧
      s.queue = [.endpointNotify 0, .closeEvent 0 {}, .recvAMessage 0 (Slice.ofBytes [1])] ∧
      ¬ EventOrder s.queue := by
  refine ⟨⟨_, rfl, rfl, ?_⟩, ⟨_, rfl, rfl, ?_⟩⟩
  · intro h
    obtain ⟨n, hn, -⟩ := h.notified [] _ _ rfl rfl
    cases hn
  · intro h
    have hdata := h.closed [.endpointNotify 0] (.closeEvent 0 {}) [.recvAMessage 0 (Slice.ofBytes [1])] rfl rfl
      _ (List.mem_singleton_self _)
    cases hdata

end RaptorLite
