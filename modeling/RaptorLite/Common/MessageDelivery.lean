import RaptorLite.Common.MessageQueueAccounting
import RaptorLite.Common.MessageStream

/-! # From `SendMsg` to `OnMessage`

A container, its connections and the peers of these. A thread of the container that handles a receive event holds
`_rcv_mutex` of the connection while it passes what it cuts out of the stream to `ContainerImpl::OnDataReceived`,
which pushes it into the message queue; the consumers dispatch it to `OnMessage`. The connections and their peers are
those of `Common.MessageStream`, on any platforms, and the queue is that of `Common.MessageQueue`; here the steps of
all of them interleave.

The container is at the end `server` of each connection: whether it accepted or connected makes no difference to
what follows. A receive event takes its step on the connection as a whole, and the slices that it cuts are pushed
one by one afterwards, while the thread is still in the event. -/

namespace RaptorLite

open StreamFraming

/-! ### The system -/

/-- The slices passed to `OnDataReceived`, in order. -/
def Side.slices : Side → List Slice
  | .linux p => p.delivered
  | .windows p => p.delivered

/-- The events in which `recv` is called. -/
def SideAction.receives : SideAction → Bool
  | .linux (.recvEvent _ _) => true
  | .windows (.recvCompletion _ _ _) => true
  | _ => false

/-- The container takes no bytes from the stream. -/
def SidesAction.passive : SidesAction → Bool
  | .client _ => true
  | .server a => !a.receives

/-- The producer that calls, if the step is the push of a call. -/
def MqAction.caller {m k : Nat} : MqAction m k → Option (Fin m)
  | .push p _ => some p
  | _ => none

/-- The push of `OnDataReceived`. -/
def MqAction.isData {m k : Nat} : MqAction m k → Bool
  | .push _ (.onDataReceived _ _) => true
  | _ => false

/-- A container with `m` threads that push and `k` that dispatch. -/
structure DeliveryState (m k : Nat) where
  /-- The connections, by endpoint. -/
  links : Nat → SidesState
  /-- How many slices of a connection have been pushed. -/
  handedOver : Nat → Nat
  /-- The connection of the receive event that a thread is in; the thread holds its `_rcv_mutex`. -/
  receiving : Fin m → Option Nat
  /-- The message queue. -/
  queue : MqState m k

/-- The steps. -/
inductive DeliveryAction (m k : Nat) where
  /-- A connection or its peer takes a step in which the container receives nothing. -/
  | link (ep : Nat) (a : SidesAction)
  /-- A thread enters a receive event. -/
  | receive (p : Fin m) (ep : Nat) (a : SideAction)
  /-- It pushes the next slice. -/
  | onDataReceived (p : Fin m)
  /-- It leaves the receive event. -/
  | unlock (p : Fin m)
  /-- The queue takes a step that is no push of a slice. -/
  | queue (a : MqAction m k)

namespace DeliveryState

variable {m k : Nat}

/-- One step of a link. -/
def setLink (s : DeliveryState m k) (ep : Nat) (link : SidesState) : DeliveryState m k :=
  { s with links := Function.update s.links ep link }

/-- One step. -/
def exec (formatMessage : Int32 → String) (opt : ContainerOption) (s : DeliveryState m k) :
    DeliveryAction m k → Option (DeliveryState m k)
  | .link ep a =>
      if a.passive then ((s.links ep).exec formatMessage a).map fun link => s.setLink ep link else none
  | .receive p ep a =>
      if a.receives ∧ s.queue.producers p = .idle ∧ s.receiving p = none ∧ ∀ q, s.receiving q ≠ some ep then
        ((s.links ep).exec formatMessage (.server a)).map fun link =>
          { s.setLink ep link with receiving := Function.update s.receiving p (some ep) }
      else none
  | .onDataReceived p =>
      (s.receiving p).bind fun ep =>
        ((s.links ep).server.slices[s.handedOver ep]?).bind fun slice =>
          (s.queue.step opt (.push p (.onDataReceived ep slice))).map fun queue =>
            { s with queue, handedOver := Function.update s.handedOver ep (s.handedOver ep + 1) }
  | .unlock p =>
      (s.receiving p).bind fun ep =>
        if s.queue.producers p = .idle ∧ (s.links ep).server.slices.length = s.handedOver ep then
          some { s with receiving := Function.update s.receiving p none }
        else none
  | .queue a =>
      -- the other calls are made outside of `_rcv_mutex`
      if a.isData = false ∧ ∀ p, a.caller = some p → s.receiving p = none then
        (s.queue.step opt a).map fun queue => { s with queue }
      else none

end DeliveryState

/-- A connection that was just attached, and its peer. -/
structure LinkSetup where
  /-- The platform of the peer. -/
  peerPlatform : Platform
  /-- Its endpoint. -/
  peerEndpoint : EndpointImpl
  /-- Its handle id. -/
  peerHandleId : UInt32
  /-- Its protocol handler. -/
  toPeer : ProtocolHandler
  /-- The platform of the container. -/
  platform : Platform
  /-- The endpoint. -/
  endpoint : EndpointImpl
  /-- The handle id. -/
  handleId : UInt32
  /-- The protocol handler of the container. -/
  toContainer : ProtocolHandler

/-- The peer, then the container's end. -/
def LinkSetup.link (l : LinkSetup) : SidesState :=
  ⟨Side.make l.peerPlatform l.peerEndpoint l.peerHandleId l.toPeer,
    Side.make l.platform l.endpoint l.handleId l.toContainer⟩

/-- A container with connections that were just attached. -/
def deliveryMachine (formatMessage : Int32 → String) (opt : ContainerOption) (m k : Nat) (setup : Nat → LinkSetup) :
    Machine (DeliveryState m k) (DeliveryAction m k) where
  init := ⟨fun ep => (setup ep).link, fun _ => 0, fun _ => none, (mqMachine opt m k).init⟩
  step := DeliveryState.exec formatMessage opt

/-- Each end of a connection sends messages of the protocol of the other. -/
def DeliveryAction.Speaks {m k : Nat} (setup : Nat → LinkSetup) : DeliveryAction m k → Prop
  | .link ep a => a.Speaks (setup ep).toPeer (setup ep).toContainer
  | .receive _ ep a => a.Speaks (setup ep).toPeer
  | _ => True

/-! ### Slices -/

/-- The slice of a message of `OnDataReceived` for this connection. -/
def TcpMessageNode.received (ep : Nat) (node : TcpMessageNode) : Option Slice :=
  match node.message with
  | .recvAMessage e slice => if e = ep then some slice else none
  | _ => none

/-- The slices of a connection among these nodes. -/
def slicesOf (ep : Nat) (nodes : List TcpMessageNode) : List Slice := nodes.filterMap (TcpMessageNode.received ep)

/-- The slices for an endpoint in two runs of nodes one behind the other. -/
@[simp] theorem slicesOf_append (ep : Nat) (nodes more : List TcpMessageNode) :
    slicesOf ep (nodes ++ more) = slicesOf ep nodes ++ slicesOf ep more := List.filterMap_append

/-- A step of an end only adds to the slices, and only a receive event does. -/
theorem Side.exec_slices {formatMessage : Int32 → String} {s s' : Side} {inFlight : List UInt8} {a : SideAction}
    (h : s.exec formatMessage inFlight a = some s') :
    s.slices <+: s'.slices ∧ (a.receives = false → s'.slices = s.slices) := by
  cases a with
  | linux a =>
      cases s with
      | windows p => cases h
      | linux p =>
          obtain ⟨p', hp', rfl⟩ := Option.map_eq_some_iff.mp h
          suffices hsuff : p.delivered <+: p'.delivered ∧
              ((SideAction.linux a).receives = false → p'.delivered = p.delivered) from hsuff
          cases a with
          | sendMsg api slice =>
              cases hp'
              exact ⟨List.prefix_rfl, fun _ => rfl⟩
          | sendEvent script =>
              obtain ⟨-, hp'⟩ := Option.ite_none_right_eq_some.mp hp'
              obtain ⟨r, -, rfl⟩ := Option.map_eq_some_iff.mp hp'
              exact ⟨List.prefix_rfl, fun _ => rfl⟩
          | recvEvent script errno =>
              obtain ⟨-, hp'⟩ := Option.ite_none_right_eq_some.mp hp'
              obtain ⟨r, -, hp'⟩ := Option.bind_eq_some_iff.mp hp'
              obtain ⟨-, hp'⟩ := Option.ite_none_right_eq_some.mp hp'
              refine ⟨?_, fun hreceives => by cases hreceives⟩
              cases herror : r.error with
              | none =>
                  rw [herror] at hp'
                  cases hp'
                  exact List.prefix_append _ _
              | some err =>
                  rw [herror] at hp'
                  cases hp'
                  exact List.prefix_append _ _
          | close notify ev =>
              cases hp'
              exact ⟨List.prefix_rfl, fun _ => rfl⟩
  | windows a =>
      cases s with
      | linux p => cases h
      | windows p =>
          obtain ⟨p', hp', rfl⟩ := Option.map_eq_some_iff.mp h
          suffices hsuff : p.delivered <+: p'.delivered ∧
              ((SideAction.windows a).receives = false → p'.delivered = p.delivered) from hsuff
          have hsettle : ∀ (q : Windows.Peer) (err : Option Status), (q.settle err).delivered = q.delivered := by
            intro q err
            cases err with
            | none => rfl
            | some e => rfl
          cases a with
          | sendMsg slice outcome =>
              rw [Windows.Peer.exec] at hp'
              split at hp'
              · cases hp'
                exact ⟨List.prefix_rfl, fun _ => rfl⟩
              · cases hp'
                exact ⟨List.prefix_rfl, fun _ => rfl⟩
          | take i n =>
              obtain ⟨send, -, hp'⟩ := Option.bind_eq_some_iff.mp hp'
              obtain ⟨-, hp'⟩ := Option.ite_none_right_eq_some.mp hp'
              cases hp'
              exact ⟨List.prefix_rfl, fun _ => rfl⟩
          | sendCompletion i outcome lastError =>
              obtain ⟨-, hp'⟩ := Option.ite_none_right_eq_some.mp hp'
              obtain ⟨send, -, rfl⟩ := Option.map_eq_some_iff.mp hp'
              rw [hsettle]
              exact ⟨List.prefix_rfl, fun _ => rfl⟩
          | recvCompletion script outcome lastError =>
              obtain ⟨-, hp'⟩ := Option.ite_none_right_eq_some.mp hp'
              obtain ⟨r, -, rfl⟩ := Option.map_eq_some_iff.mp hp'
              rw [hsettle]
              exact ⟨List.prefix_append _ _, fun hreceives => by cases hreceives⟩
          | close notify ev =>
              cases hp'
              exact ⟨List.prefix_rfl, fun _ => rfl⟩

/-- A step only adds to the slices handed over to the server, and only the server's steps add. -/
theorem SidesState.exec_slices {formatMessage : Int32 → String} {s s' : SidesState} {a : SidesAction}
    (h : s.exec formatMessage a = some s') :
    s.server.slices <+: s'.server.slices ∧ (a.passive = true → s'.server.slices = s.server.slices) := by
  cases a with
  | client a =>
      obtain ⟨p, -, rfl⟩ := Option.map_eq_some_iff.mp h
      exact ⟨List.prefix_rfl, fun _ => rfl⟩
  | server a =>
      obtain ⟨p, hp, rfl⟩ := Option.map_eq_some_iff.mp h
      obtain ⟨hstart, hsame⟩ := Side.exec_slices hp
      exact ⟨hstart, fun hpassive => hsame (by simpa [SidesAction.passive] using hpassive)⟩

/-! ### The queue -/

section Queue

variable {opt : ContainerOption} {m k : Nat} {q q' : MqState m k}

/-- A call pushes the message that it makes. -/
theorem pushed_of_push {p : Fin m} {call : ProducerCall} (h : q.step opt (.push p call) = some q') :
    q'.pushed = q.pushed ++ (call.message opt).toList.map (TcpMessageNode.mk q.pushed.length) := by
  obtain ⟨-, h⟩ := Option.ite_none_right_eq_some.mp h
  cases hmessage : call.message opt with
  | none =>
      rw [hmessage] at h
      cases h
      simp
  | some message =>
      rw [hmessage] at h
      cases h
      rfl

/-- A step without a caller pushes nothing to the queue. -/
theorem pushed_of_no_caller {a : MqAction m k} (h : q.step opt a = some q') (ha : a.caller = none) :
    q'.pushed = q.pushed := by
  cases MqState.stepForm_of_step h with
  | noMessage p call => cases ha
  | pushed p call message hp => cases ha
  | _ => rfl

/-- No other call pushes a slice. -/
theorem slicesOf_pushed {a : MqAction m k} (h : q.step opt a = some q') (hdata : a.isData = false) (ep : Nat) :
    slicesOf ep q'.pushed = slicesOf ep q.pushed := by
  cases a with
  | push p call =>
      rw [pushed_of_push h, slicesOf_append]
      cases call with
      | onDataReceived e slice => cases hdata
      | onClosed e event =>
          by_cases hset : opt.closedHandler = true
          · simp [ProducerCall.message, hset, slicesOf, TcpMessageNode.received]
          · simp [ProducerCall.message, hset, slicesOf]
      | onTimerEvent e =>
          by_cases hset : opt.heartbeatInterval.isSome = true
          · simp [ProducerCall.message, hset, slicesOf, TcpMessageNode.received]
          · simp [ProducerCall.message, hset, slicesOf]
      | onNotify e => simp [ProducerCall.message, slicesOf, TcpMessageNode.received]
  | _ => rw [pushed_of_no_caller h rfl]

/-- `OnDataReceived` pushes its slice. -/
theorem slicesOf_onDataReceived {p : Fin m} {e : Nat} {slice : Slice}
    (h : q.step opt (.push p (.onDataReceived e slice)) = some q') (ep : Nat) :
    slicesOf ep q'.pushed = slicesOf ep q.pushed ++ if e = ep then [slice] else [] := by
  rw [pushed_of_push h, slicesOf_append]
  congr 1
  by_cases he : e = ep
  · simp [ProducerCall.message, slicesOf, TcpMessageNode.received, he]
  · simp [ProducerCall.message, slicesOf, TcpMessageNode.received, he]

end Queue

/-! ### The invariant -/

variable {formatMessage : Int32 → String} {opt : ContainerOption} {m k : Nat} {setup : Nat → LinkSetup}

/-- What holds of the parts and between them. -/
structure DeliveryInv (formatMessage : Int32 → String) (opt : ContainerOption) (setup : Nat → LinkSetup)
    (s : DeliveryState m k) : Prop where
  /-- Each connection runs as it would alone. -/
  links : ∀ ep, (sidesMachine formatMessage (setup ep).link.client (setup ep).link.server).Reaches
    (fun _ a => a.Speaks (setup ep).toPeer (setup ep).toContainer) (s.links ep)
  /-- So does the queue. -/
  queue : (mqMachine opt m k).Reachable s.queue
  /-- Of each connection the slices up to some point are pushed, in order. -/
  pushed : ∀ ep, slicesOf ep s.queue.pushed = (s.links ep).server.slices.take (s.handedOver ep)
  /-- No more than there are. -/
  handedOver_le : ∀ ep, s.handedOver ep ≤ (s.links ep).server.slices.length
  /-- One thread at a time is in a receive event of a connection. -/
  exclusive : ∀ p q ep, s.receiving p = some ep → s.receiving q = some ep → p = q
  /-- The slices that are not pushed belong to a receive event. -/
  inEvent : ∀ ep, s.handedOver ep < (s.links ep).server.slices.length → ∃ p, s.receiving p = some ep

namespace DeliveryInv

/-- Nothing is in flight and nothing is delivered at the start. -/
theorem start : DeliveryInv formatMessage opt setup (deliveryMachine formatMessage opt m k setup).init where
  links _ := .init
  queue := .init
  pushed _ := by rfl
  handedOver_le _ := Nat.zero_le _
  exclusive p q ep hp := by cases hp
  inEvent ep h := by
    cases hplatform : (setup ep).platform with
    | linux => simp [deliveryMachine, LinkSetup.link, Side.make, hplatform, Side.slices, Peer.make] at h
    | windows => simp [deliveryMachine, LinkSetup.link, Side.make, hplatform, Side.slices, Windows.Peer.make] at h

variable {s s' : DeliveryState m k}

/-- A connection takes a step; if it cuts more slices, a thread is in its receive event from then on. -/
theorem setLink (h : DeliveryInv formatMessage opt setup s) {ep : Nat} {a : SidesAction} {link : SidesState}
    (hspeaks : a.Speaks (setup ep).toPeer (setup ep).toContainer)
    (hstep : (s.links ep).exec formatMessage a = some link) (receiving : Fin m → Option Nat)
    (hexclusive : ∀ p q ep, receiving p = some ep → receiving q = some ep → p = q)
    (hkeeps : ∀ ep, (∃ p, s.receiving p = some ep) → ∃ p, receiving p = some ep)
    (hmore : a.passive = true ∨ ∃ p, receiving p = some ep) :
    DeliveryInv formatMessage opt setup { s.setLink ep link with receiving } := by
  obtain ⟨hstart, hsame⟩ := SidesState.exec_slices hstep
  refine ⟨?_, h.queue, ?_, ?_, hexclusive, ?_⟩
  · intro e
    by_cases he : e = ep
    · subst he
      simp only [DeliveryState.setLink, Function.update_self]
      exact (h.links e).step hspeaks hstep
    · simp only [DeliveryState.setLink, Function.update_of_ne he]
      exact h.links e
  · intro e
    by_cases he : e = ep
    · subst he
      obtain ⟨more, hmore⟩ := hstart
      simp only [DeliveryState.setLink, Function.update_self]
      rw [h.pushed e, ← hmore, List.take_append_of_le_length (h.handedOver_le e)]
    · simp only [DeliveryState.setLink, Function.update_of_ne he]
      exact h.pushed e
  · intro e
    by_cases he : e = ep
    · subst he
      simp only [DeliveryState.setLink, Function.update_self]
      exact Nat.le_trans (h.handedOver_le e) hstart.length_le
    · simp only [DeliveryState.setLink, Function.update_of_ne he]
      exact h.handedOver_le e
  · intro e hlt
    by_cases he : e = ep
    · subst he
      rcases hmore with hpassive | hheld
      · simp only [DeliveryState.setLink, Function.update_self] at hlt
        rw [hsame hpassive] at hlt
        exact hkeeps e (h.inEvent e hlt)
      · exact hheld
    · simp only [DeliveryState.setLink, Function.update_of_ne he] at hlt
      exact hkeeps e (h.inEvent e hlt)

/-- **One step** keeps the invariant. -/
theorem exec (h : DeliveryInv formatMessage opt setup s) {a : DeliveryAction m k} (hspeaks : a.Speaks setup)
    (hstep : s.exec formatMessage opt a = some s') : DeliveryInv formatMessage opt setup s' := by
  cases a with
  | link ep a =>
      obtain ⟨hpassive, hstep⟩ := Option.ite_none_right_eq_some.mp hstep
      obtain ⟨link, hlink, rfl⟩ := Option.map_eq_some_iff.mp hstep
      exact h.setLink hspeaks hlink s.receiving h.exclusive (fun _ hp => hp) (.inl hpassive)
  | receive p ep a =>
      obtain ⟨⟨-, -, hidle, hfree⟩, hstep⟩ := Option.ite_none_right_eq_some.mp hstep
      obtain ⟨link, hlink, rfl⟩ := Option.map_eq_some_iff.mp hstep
      refine h.setLink (a := .server a) hspeaks hlink (Function.update s.receiving p (some ep)) ?_ ?_
        (.inr ⟨p, Function.update_self ..⟩)
      · intro q r e hq hr
        by_cases hqp : q = p
        · by_cases hrp : r = p
          · rw [hqp, hrp]
          · rw [hqp, Function.update_self] at hq
            rw [Function.update_of_ne hrp, ← Option.some.inj hq] at hr
            exact absurd hr (hfree r)
        · rw [Function.update_of_ne hqp] at hq
          by_cases hrp : r = p
          · rw [hrp, Function.update_self] at hr
            rw [← Option.some.inj hr] at hq
            exact absurd hq (hfree q)
          · rw [Function.update_of_ne hrp] at hr
            exact h.exclusive q r e hq hr
      · rintro e ⟨q, hq⟩
        refine ⟨q, ?_⟩
        have hqp : q ≠ p := by
          rintro rfl
          rw [hidle] at hq
          cases hq
        rw [Function.update_of_ne hqp]
        exact hq
  | onDataReceived p =>
      obtain ⟨ep, hp, hstep⟩ := Option.bind_eq_some_iff.mp hstep
      obtain ⟨slice, hslice, hstep⟩ := Option.bind_eq_some_iff.mp hstep
      obtain ⟨queue, hqueue, rfl⟩ := Option.map_eq_some_iff.mp hstep
      obtain ⟨hlt, hget⟩ := List.getElem?_eq_some_iff.mp hslice
      have hreach : (mqMachine opt m k).Reachable queue :=
        h.queue.step (a := .push p (.onDataReceived ep slice)) trivial hqueue
      refine ⟨h.links, hreach, ?_, ?_, h.exclusive, ?_⟩
      · intro e
        dsimp only
        rw [slicesOf_onDataReceived hqueue, h.pushed e]
        by_cases he : ep = e
        · subst he
          rw [if_pos rfl, Function.update_self, List.take_succ_eq_append_getElem hlt, hget]
        · rw [if_neg he, Function.update_of_ne (Ne.symm he), List.append_nil]
      · intro e
        dsimp only
        by_cases he : e = ep
        · subst he
          rw [Function.update_self]
          exact hlt
        · rw [Function.update_of_ne he]
          exact h.handedOver_le e
      · intro e hmore
        dsimp only at hmore
        by_cases he : e = ep
        · exact ⟨p, he ▸ hp⟩
        · rw [Function.update_of_ne he] at hmore
          exact h.inEvent e hmore
  | unlock p =>
      obtain ⟨ep, hp, hstep⟩ := Option.bind_eq_some_iff.mp hstep
      obtain ⟨⟨-, hall⟩, hstep⟩ := Option.ite_none_right_eq_some.mp hstep
      cases hstep
      refine ⟨h.links, h.queue, h.pushed, h.handedOver_le, ?_, ?_⟩
      · intro q r e hq hr
        dsimp only at hq hr
        have hqp : q ≠ p := by
          rintro rfl
          rw [Function.update_self] at hq
          cases hq
        have hrp : r ≠ p := by
          rintro rfl
          rw [Function.update_self] at hr
          cases hr
        rw [Function.update_of_ne hqp] at hq
        rw [Function.update_of_ne hrp] at hr
        exact h.exclusive q r e hq hr
      · intro e hlt
        obtain ⟨q, hq⟩ := h.inEvent e hlt
        have hqp : q ≠ p := by
          rintro rfl
          rw [hp] at hq
          cases hq
          dsimp only at hlt
          omega
        exact ⟨q, (Function.update_of_ne hqp ..).trans hq⟩
  | queue a =>
      obtain ⟨⟨hdata, -⟩, hstep⟩ := Option.ite_none_right_eq_some.mp hstep
      obtain ⟨queue, hqueue, rfl⟩ := Option.map_eq_some_iff.mp hstep
      refine ⟨h.links, h.queue.step trivial hqueue, ?_, h.handedOver_le, h.exclusive, h.inEvent⟩
      intro e
      exact (slicesOf_pushed hqueue hdata e).trans (h.pushed e)

end DeliveryInv

/-! ### Runs -/

end RaptorLite
