import RaptorLite.Common.MessageQueue

/-! # Accounting in the message queue

`_count` is changed after the push it stands for and after the pop it stands for, so it agrees with the
number of queued nodes only up to the pushes and pops in between. This module carries the exact
equation through every interleaving, together with the lock discipline of the consumers (which makes
the positive reading of `_count` still true when the pop is subtracted) and the order of the nodes. -/

namespace RaptorLite

variable {m k : Nat}

/-! ### The invariant -/

/-- The consumer has read a positive `_count` that it has not yet subtracted from. -/
def MqConsumerPc.entitled : MqConsumerPc → Bool
  | .pop => true
  | .fetchSub _ => true
  | _ => false

namespace MqState

/-- Pushes not yet counted. -/
def uncounted (s : MqState m k) : Nat := tally (· == .fetchAdd) s.producers

/-- Pops not yet subtracted, of the consumers and of the drain. -/
def unsubtracted (s : MqState m k) : Nat :=
  tally MqConsumerPc.unsubtracted s.consumers + (s.shutdownPc == .subtracting).toNat

/-- The node that the owner of `_mutex` has popped and not dispatched. -/
def inHand (s : MqState m k) : Option TcpMessageNode := s.mutex.bind fun c => (s.consumers c).held

/-- What holds between the counter, the queue and the threads. -/
structure MqInv (s : MqState m k) : Prop where
  /-- The consumers respect `_mutex`. -/
  locked : LockedBy MqConsumerPc.critical s.consumers s.mutex
  /-- The counter agrees with the queue up to the operations in progress. -/
  balance : (s.queue.length : Int) + s.unsubtracted = s.count + s.uncounted
  /-- The consumers took the oldest nodes, the drain the next ones, and the rest is queued. -/
  split : s.pushed = s.popped ++ s.discarded ++ s.queue
  /-- Nodes are numbered in the order of their pushes. -/
  serials : s.pushed.map TcpMessageNode.serial = List.range s.pushed.length
  /-- What was popped was dispatched, but for the node in hand. -/
  handed : s.popped = s.dispatched ++ s.inHand.toList
  /-- After the join no consumer runs. -/
  joined : s.shutdownPc.joined = true → ∀ c, s.consumers c = .returned
  /-- Before it nothing is discarded. -/
  kept : s.shutdownPc.joined = false → s.discarded = []
  /-- Before it the counter is not negative. -/
  nonneg : s.shutdownPc.joined = false → 0 ≤ s.count
  /-- A consumer about to pop or to subtract has a count to take. -/
  entitled : ∀ c, (s.consumers c).entitled = true → 1 ≤ s.count

/-- A running consumer shows that the consumers are not joined. -/
theorem MqInv.not_joined {s : MqState m k} (h : MqInv s) {c : Fin k}
    (hc : s.consumers c ≠ .returned) : s.shutdownPc.joined = false := by
  cases hj : s.shutdownPc.joined with
  | false => rfl
  | true => exact absurd (h.joined hj c) hc

/-- The start state. -/
theorem mqInv_init (opt : ContainerOption) (m k : Nat) : MqInv (mqMachine opt m k).init where
  locked c := by simp [mqMachine, MqConsumerPc.critical]
  balance := by
    have hproducers : (mqMachine opt m k).init.uncounted = 0 := tally_eq_zero.mpr fun _ => rfl
    have hconsumers : (mqMachine opt m k).init.unsubtracted = 0 := by
      rw [unsubtracted, tally_eq_zero.mpr fun _ => rfl]
      rfl
    rw [hproducers, hconsumers]
    rfl
  split := rfl
  serials := rfl
  handed := rfl
  joined hj := by cases hj
  kept _ := rfl
  nonneg _ := le_refl 0
  entitled c hc := by cases hc

/-! ### Consumers -/

/-- A predicate of the program counters that a step does not change is the same function of the
threads. -/
theorem held_update {consumers : Fin k → MqConsumerPc} {c : Fin k} {pc : MqConsumerPc}
    (h : pc.held = (consumers c).held) :
    (fun i => (Function.update consumers c pc i).held) = fun i => (consumers i).held := by
  funext i
  by_cases hi : i = c
  · subst hi
    rw [Function.update_self, h]
  · rw [Function.update_of_ne hi]

/-- A step that neither pops nor subtracts. -/
theorem unsubtracted_setConsumer {s : MqState m k} {c : Fin k} {pc : MqConsumerPc}
    (h : pc.unsubtracted = (s.consumers c).unsubtracted) :
    (s.setConsumer c pc).unsubtracted = s.unsubtracted := by
  show tally _ (Function.update s.consumers c pc) + _ = tally _ s.consumers + _
  rw [tally_update_same h]
  rfl

/-- Only the acting consumer can become entitled. -/
theorem entitled_update {s : MqState m k} (h : MqInv s) {c : Fin k} {pc : MqConsumerPc}
    (hpc : pc.entitled = true → 1 ≤ s.count) (i : Fin k)
    (hi : (Function.update s.consumers c pc i).entitled = true) : 1 ≤ s.count := by
  by_cases hic : i = c
  · subst hic
    rw [Function.update_self] at hi
    exact hpc hi
  · rw [Function.update_of_ne hic] at hi
    exact h.entitled i hi

/-- A consumer goes on without crossing the border of the locked region and without popping,
subtracting or dispatching. -/
theorem MqInv.move {s : MqState m k} (h : MqInv s) {c : Fin k} {old pc : MqConsumerPc}
    (hc : s.consumers c = old) (hrun : old ≠ .returned) (hcrit : pc.critical = old.critical)
    (hheld : pc.held = old.held) (hsub : pc.unsubtracted = old.unsubtracted)
    (hent : pc.entitled = true → 1 ≤ s.count) : MqInv (s.setConsumer c pc) where
  locked := h.locked.stay (hc ▸ hcrit)
  balance := by
    show (s.queue.length : Int) + (s.setConsumer c pc).unsubtracted = s.count + s.uncounted
    rw [unsubtracted_setConsumer (hc ▸ hsub)]
    exact h.balance
  split := h.split
  serials := h.serials
  handed := by
    have hhand := h.handed
    simp only [inHand, setConsumer] at hhand ⊢
    rwa [held_update (hc ▸ hheld)]
  joined hj := absurd (h.joined hj c) (hc ▸ hrun)
  kept := h.kept
  nonneg := h.nonneg
  entitled := entitled_update h hent

/-- A consumer takes `_mutex`. -/
theorem MqInv.acquire {s : MqState m k} (h : MqInv s) {c : Fin k} {old pc : MqConsumerPc}
    (hc : s.consumers c = old) (hfree : s.mutex = none) (hrun : old ≠ .returned)
    (hcrit : pc.critical = true) (hheld : pc.held = none)
    (hsub : pc.unsubtracted = old.unsubtracted) (hent : pc.entitled = false) :
    MqInv { s.setConsumer c pc with mutex := some c } where
  locked := by
    have hlocked := h.locked
    rw [hfree] at hlocked
    exact hlocked.acquire hcrit
  balance := by
    show (s.queue.length : Int) + (s.setConsumer c pc).unsubtracted = s.count + s.uncounted
    rw [unsubtracted_setConsumer (hc ▸ hsub)]
    exact h.balance
  split := h.split
  serials := h.serials
  handed := by
    have hhand := h.handed
    simpa [inHand, setConsumer, hfree, hheld] using hhand
  joined hj := absurd (h.joined hj c) (hc ▸ hrun)
  kept := h.kept
  nonneg := h.nonneg
  entitled := entitled_update h fun hpc => by simp [hent] at hpc

/-- A consumer gives `_mutex` back. -/
theorem MqInv.release {s : MqState m k} (h : MqInv s) {c : Fin k} {old pc : MqConsumerPc}
    (hc : s.consumers c = old) (hin : old.critical = true) (hout : pc.critical = false)
    (hheld : old.held = none) (hsub : pc.unsubtracted = old.unsubtracted)
    (hent : pc.entitled = false) :
    MqInv { s.setConsumer c pc with mutex := none } where
  locked := h.locked.release (hc ▸ hin) hout
  balance := by
    show (s.queue.length : Int) + (s.setConsumer c pc).unsubtracted = s.count + s.uncounted
    rw [unsubtracted_setConsumer (hc ▸ hsub)]
    exact h.balance
  split := h.split
  serials := h.serials
  handed := by
    have hhand := h.handed
    have howner : s.mutex = some c := (h.locked c).mp (hc ▸ hin)
    simpa [inHand, setConsumer, howner, hc, hheld] using hhand
  joined hj := by
    rw [← hc, h.joined hj c] at hin
    cases hin
  kept := h.kept
  nonneg := h.nonneg
  entitled := entitled_update h fun hpc => by simp [hent] at hpc

/-- A consumer pops a node. -/
theorem MqInv.popNode {s : MqState m k} (h : MqInv s) {c : Fin k} {node : TcpMessageNode}
    {rest : List TcpMessageNode} (hc : s.consumers c = .pop) (hq : s.queue = node :: rest) :
    MqInv { s.setConsumer c (.fetchSub node) with
      queue := rest, popped := s.popped ++ [node] } where
  locked := h.locked.stay (by rw [hc]; rfl)
  balance := by
    have hbal := h.balance
    have htally := tally_update MqConsumerPc.unsubtracted s.consumers c (.fetchSub node)
    simp only [hc, MqConsumerPc.unsubtracted, Bool.toNat_false, Bool.toNat_true] at htally
    simp only [unsubtracted, uncounted, setConsumer, hq, List.length_cons] at hbal ⊢
    omega
  split := by
    have hkept := h.kept (h.not_joined (by rw [hc]; nofun))
    show s.pushed = (s.popped ++ [node]) ++ s.discarded ++ rest
    rw [h.split, hq, hkept]
    simp
  serials := h.serials
  handed := by
    have howner : s.mutex = some c := (h.locked c).mp (by rw [hc]; rfl)
    have hhand := h.handed
    simp only [inHand, howner, Option.bind_some, hc, MqConsumerPc.held, Option.toList_none,
      List.append_nil] at hhand
    simp [inHand, setConsumer, howner, MqConsumerPc.held, hhand]
  joined hj := absurd (h.joined hj c) (by rw [hc]; nofun)
  kept := h.kept
  nonneg := h.nonneg
  entitled := entitled_update h fun _ => h.entitled c (by rw [hc]; rfl)

/-- A consumer subtracts what it popped. -/
theorem MqInv.fetchSub {s : MqState m k} (h : MqInv s) {c : Fin k} {node : TcpMessageNode}
    (hc : s.consumers c = .fetchSub node) :
    MqInv { s.setConsumer c (.dispatch node) with count := s.count - 1 } where
  locked := h.locked.stay (by rw [hc]; rfl)
  balance := by
    have hbal := h.balance
    have htally := tally_update MqConsumerPc.unsubtracted s.consumers c (.dispatch node)
    simp only [hc, MqConsumerPc.unsubtracted, Bool.toNat_false, Bool.toNat_true] at htally
    simp only [unsubtracted, uncounted, setConsumer] at hbal ⊢
    omega
  split := h.split
  serials := h.serials
  handed := by
    have hhand := h.handed
    simp only [inHand, setConsumer] at hhand ⊢
    rwa [held_update (by rw [hc]; rfl)]
  joined hj := absurd (h.joined hj c) (by rw [hc]; nofun)
  kept := h.kept
  nonneg _ := by
    have hpos := h.entitled c (by rw [hc]; rfl)
    show 0 ≤ s.count - 1
    omega
  entitled i hi := by
    -- an entitled thread holds the lock, and the acting one holds it
    exfalso
    by_cases hic : i = c
    · subst hic
      simp [setConsumer, MqConsumerPc.entitled] at hi
    · simp only [setConsumer, Function.update_of_ne hic] at hi
      have hcrit : (s.consumers i).critical = true := by
        cases hpc : s.consumers i <;> simp_all [MqConsumerPc.entitled, MqConsumerPc.critical]
      exact hic (h.locked.unique hcrit (by rw [hc]; rfl))

/-- A consumer dispatches what it popped. -/
theorem MqInv.dispatch {s : MqState m k} (h : MqInv s) {c : Fin k} {node : TcpMessageNode}
    (hc : s.consumers c = .dispatch node) :
    MqInv { s.setConsumer c .unlock with dispatched := s.dispatched ++ [node] } where
  locked := h.locked.stay (by rw [hc]; rfl)
  balance := by
    show (s.queue.length : Int) + (s.setConsumer c .unlock).unsubtracted = s.count + s.uncounted
    rw [unsubtracted_setConsumer (by rw [hc]; rfl)]
    exact h.balance
  split := h.split
  serials := h.serials
  handed := by
    have howner : s.mutex = some c := (h.locked c).mp (by rw [hc]; rfl)
    have hhand := h.handed
    simp only [inHand, howner, Option.bind_some, hc, MqConsumerPc.held] at hhand
    simp [inHand, setConsumer, howner, MqConsumerPc.held, hhand]
  joined hj := absurd (h.joined hj c) (by rw [hc]; nofun)
  kept := h.kept
  nonneg := h.nonneg
  entitled := entitled_update h fun hpc => by cases hpc

/-! ### Producers -/

/-- A producer pushes a node. -/
theorem MqInv.push {s : MqState m k} (h : MqInv s) {p : Fin m} {message : TcpMessage}
    (hp : s.producers p = .idle) :
    MqInv { s.setProducer p .fetchAdd with
      queue := s.queue ++ [⟨s.pushed.length, message⟩]
      pushed := s.pushed ++ [⟨s.pushed.length, message⟩] } where
  locked := h.locked
  balance := by
    have hbal := h.balance
    have htally := tally_update (· == .fetchAdd) s.producers p .fetchAdd
    have hold : (MqProducerPc.idle == MqProducerPc.fetchAdd).toNat = 0 := rfl
    have hnew : (MqProducerPc.fetchAdd == MqProducerPc.fetchAdd).toNat = 1 := rfl
    rw [hp, hold, hnew] at htally
    simp only [unsubtracted, uncounted, setProducer, List.length_append, List.length_singleton]
      at hbal ⊢
    omega
  split := by
    show s.pushed ++ _ = s.popped ++ s.discarded ++ (s.queue ++ _)
    rw [h.split, List.append_assoc _ s.queue]
  serials := by
    show (s.pushed ++ _).map _ = List.range (s.pushed ++ _).length
    rw [List.map_append, h.serials, List.length_append, List.length_singleton, List.range_succ]
    rfl
  handed := h.handed
  joined := h.joined
  kept := h.kept
  nonneg := h.nonneg
  entitled := h.entitled

/-- A producer counts the node it pushed. -/
theorem MqInv.fetchAdd {s : MqState m k} (h : MqInv s) {p : Fin m}
    (hp : s.producers p = .fetchAdd) :
    MqInv { s.setProducer p .signal with count := s.count + 1 } where
  locked := h.locked
  balance := by
    have hbal := h.balance
    have htally := tally_update (· == .fetchAdd) s.producers p .signal
    have hold : (MqProducerPc.fetchAdd == MqProducerPc.fetchAdd).toNat = 1 := rfl
    have hnew : (MqProducerPc.signal == MqProducerPc.fetchAdd).toNat = 0 := rfl
    rw [hp, hold, hnew] at htally
    simp only [unsubtracted, uncounted, setProducer] at hbal ⊢
    omega
  split := h.split
  serials := h.serials
  handed := h.handed
  joined := h.joined
  kept := h.kept
  nonneg hj := by
    have hnonneg := h.nonneg hj
    show 0 ≤ s.count + 1
    omega
  entitled c hc := by
    have hpos := h.entitled c hc
    show 1 ≤ s.count + 1
    omega

/-- A producer leaves its call behind the signal. -/
theorem MqInv.leaveCall {s : MqState m k} (h : MqInv s) {p : Fin m}
    (hp : s.producers p = .signal) : MqInv (s.setProducer p .idle) where
  locked := h.locked
  balance := by
    have hsame : (s.setProducer p .idle).uncounted = s.uncounted :=
      tally_update_same (by rw [hp]; rfl)
    rw [hsame]
    exact h.balance
  split := h.split
  serials := h.serials
  handed := h.handed
  joined := h.joined
  kept := h.kept
  nonneg := h.nonneg
  entitled := h.entitled

/-! ### Shutdown -/

/-- `Shutdown` sets `_shutdown`. -/
theorem MqInv.setShutdown {s : MqState m k} (h : MqInv s) (hpc : s.shutdownPc = .running) :
    MqInv { s with shutdown := true, shutdownPc := .flagged } where
  locked := h.locked
  balance := by
    have hbal := h.balance
    simp only [unsubtracted, hpc] at hbal
    exact hbal
  split := h.split
  serials := h.serials
  handed := h.handed
  joined hj := by cases hj
  kept _ := h.kept (by rw [hpc]; rfl)
  nonneg _ := h.nonneg (by rw [hpc]; rfl)
  entitled := h.entitled

/-- Waking a sleeping thread changes nothing that a predicate of the program counters sees if it
does not tell the two places apart. -/
theorem wake_eq {β : Type} (f : MqConsumerPc → β) (hf : f .relock = f .asleep) (pc : MqConsumerPc) :
    f (if pc = .asleep then .relock else pc) = f pc := by
  by_cases hpc : pc = .asleep
  · rw [if_pos hpc, hpc, hf]
  · rw [if_neg hpc]

/-- `Shutdown` runs `_cv.Broadcast`. -/
theorem MqInv.broadcast {s : MqState m k} (h : MqInv s) (hpc : s.shutdownPc = .flagged) :
    MqInv { s with
      consumers := fun c => if s.consumers c = .asleep then .relock else s.consumers c
      shutdownPc := .joining } where
  locked c := by
    rw [wake_eq MqConsumerPc.critical rfl]
    exact h.locked c
  balance := by
    have hbal := h.balance
    simp only [unsubtracted, hpc] at hbal
    simp only [unsubtracted, uncounted, tally, wake_eq MqConsumerPc.unsubtracted rfl]
    exact hbal
  split := h.split
  serials := h.serials
  handed := by
    simp only [inHand, wake_eq MqConsumerPc.held rfl]
    exact h.handed
  joined hj := by cases hj
  kept _ := h.kept (by rw [hpc]; rfl)
  nonneg _ := h.nonneg (by rw [hpc]; rfl)
  entitled c hc := by
    rw [wake_eq MqConsumerPc.entitled rfl] at hc
    exact h.entitled c hc

/-- `Shutdown` has joined the consumers. -/
theorem MqInv.join {s : MqState m k} (h : MqInv s) (hpc : s.shutdownPc = .joining)
    (hret : ∀ c, s.consumers c = .returned) : MqInv { s with shutdownPc := .draining } where
  locked := h.locked
  balance := by
    have hbal := h.balance
    simp only [unsubtracted, hpc] at hbal
    exact hbal
  split := h.split
  serials := h.serials
  handed := h.handed
  joined _ := hret
  kept hj := by cases hj
  nonneg hj := by cases hj
  entitled := h.entitled

/-- The drain ends. -/
theorem MqInv.drainEnd {s : MqState m k} (h : MqInv s) (hpc : s.shutdownPc = .draining) :
    MqInv { s with shutdownPc := .finished } where
  locked := h.locked
  balance := by
    have hbal := h.balance
    simp only [unsubtracted, hpc] at hbal
    exact hbal
  split := h.split
  serials := h.serials
  handed := h.handed
  joined _ := h.joined (by rw [hpc]; rfl)
  kept hj := by cases hj
  nonneg hj := by cases hj
  entitled := h.entitled

/-- The drain pops a node. -/
theorem MqInv.drainPop {s : MqState m k} (h : MqInv s) {node : TcpMessageNode}
    {rest : List TcpMessageNode} (hpc : s.shutdownPc = .draining) (hqueue : s.queue = node :: rest) :
    MqInv { s with
      queue := rest, discarded := s.discarded ++ [node], shutdownPc := .subtracting } where
  locked := h.locked
  balance := by
    have hbal := h.balance
    have hold : (MqShutdownPc.draining == MqShutdownPc.subtracting).toNat = 0 := rfl
    have hnew : (MqShutdownPc.subtracting == MqShutdownPc.subtracting).toNat = 1 := rfl
    simp only [unsubtracted, uncounted, hpc, hqueue, hold, hnew, List.length_cons] at hbal ⊢
    omega
  split := by
    show s.pushed = s.popped ++ (s.discarded ++ [node]) ++ rest
    rw [h.split, hqueue]
    simp
  serials := h.serials
  handed := h.handed
  joined _ := h.joined (by rw [hpc]; rfl)
  kept hj := by cases hj
  nonneg hj := by cases hj
  entitled := h.entitled

/-- The drain subtracts what it popped. -/
theorem MqInv.drainSubtract {s : MqState m k} (h : MqInv s) (hpc : s.shutdownPc = .subtracting) :
    MqInv { s with count := s.count - 1, shutdownPc := .draining } where
  locked := h.locked
  balance := by
    have hbal := h.balance
    have hold : (MqShutdownPc.draining == MqShutdownPc.subtracting).toNat = 0 := rfl
    have hnew : (MqShutdownPc.subtracting == MqShutdownPc.subtracting).toNat = 1 := rfl
    simp only [unsubtracted, uncounted, hpc, hold, hnew] at hbal ⊢
    omega
  split := h.split
  serials := h.serials
  handed := h.handed
  joined _ := h.joined (by rw [hpc]; rfl)
  kept hj := by cases hj
  nonneg hj := by cases hj
  entitled c hc := by
    -- no consumer runs any more
    have hret : s.consumers c = .returned := h.joined (by rw [hpc]; rfl) c
    simp only [hret] at hc
    cases hc

/-! ### Runs -/

/-- **One step** keeps the invariant. -/
theorem MqInv.step {opt : ContainerOption} {s s' : MqState m k} {a : MqAction m k} (h : MqInv s)
    (hstep : s.step opt a = some s') : MqInv s' := by
  cases stepForm_of_step hstep with
  | noMessage p call => exact h
  | pushed p call message hp => exact h.push hp
  | counted p hp => exact h.fetchAdd hp
  | signalled p c hp hc => exact (h.leaveCall hp).move hc nofun rfl rfl rfl nofun
  | signalledNobody p hp hnobody => exact h.leaveCall hp
  | woken c hc => exact h.move hc nofun rfl rfl rfl nofun
  | loopEnds c null hc => exact h.move hc nofun rfl rfl rfl nofun
  | loopGoesOn c null hc hrun => exact h.move hc nofun rfl rfl rfl nofun
  | locked c null hc hfree => exact h.acquire hc hfree nofun rfl rfl rfl rfl
  | loadedZero c null hc hzero => exact h.move hc nofun rfl rfl rfl nofun
  | loaded c null hc hcount =>
      have hnonneg := h.nonneg (h.not_joined (by rw [hc]; nofun))
      refine h.move hc nofun rfl rfl rfl ?_
      intro _
      -- a non-zero residue of a non-negative number
      unfold countLoad at hcount
      omega
  | slept c null hc => exact h.release hc rfl rfl rfl rfl rfl
  | relocked c null hc hfree => exact h.acquire hc hfree nofun rfl rfl rfl rfl
  | recheckEnds c null hc => exact h.move hc nofun rfl rfl rfl nofun
  | recheckGoesOn c null hc hrun => exact h.move hc nofun rfl rfl rfl nofun
  | left c null hc => exact h.release hc rfl rfl rfl rfl rfl
  | poppedNull c null hc => exact h.move hc nofun rfl rfl rfl nofun
  | popped c null node rest hc hqueue => exact h.popNode hc hqueue
  | subtracted c null node hc => exact h.fetchSub hc
  | dispatched c null node hc => exact h.dispatch hc
  | unlocked c null hc => exact h.release hc rfl rfl rfl rfl rfl
  | flagged hpc => exact h.setShutdown hpc
  | broadcast hpc => exact h.broadcast hpc
  | joined hpc hreturned => exact h.join hpc hreturned
  | drainedNull null hpc => exact h
  | drainEnds null hpc hend => exact h.drainEnd hpc
  | drained null node rest hpc hqueue => exact h.drainPop hpc hqueue
  | drainSubtracted null hpc => exact h.drainSubtract hpc

/-- The invariant holds in every reachable state. -/
theorem mqMachine_inv {opt : ContainerOption} {s : MqState m k}
    (hs : (mqMachine opt m k).Reachable s) : MqInv s :=
  hs.invariant MqInv (mqInv_init opt m k) fun _ _ _ _ _ h hstep => h.step hstep

/-! ### The drain with stopped producers -/

/-- No push is in progress when the producers have stopped. -/
theorem uncounted_eq_zero {s : MqState m k} (hstopped : ∀ p, s.producers p = .idle) :
    s.uncounted = 0 :=
  tally_eq_zero.mpr fun p => by
    rw [hstopped p]
    rfl

/-- A finished drain that left nothing queued has taken the counter back to zero. -/
theorem MqInv.count_eq_zero {s : MqState m k} (h : MqInv s) (hpc : s.shutdownPc = .finished)
    (hstopped : ∀ p, s.producers p = .idle) (hqueue : s.queue = []) : s.count = 0 := by
  have hconsumers : tally MqConsumerPc.unsubtracted s.consumers = 0 :=
    tally_eq_zero.mpr fun c => by
      rw [h.joined (by rw [hpc]; rfl) c]
      rfl
  have hdrain : (MqShutdownPc.finished == MqShutdownPc.subtracting).toNat = 0 := rfl
  have hbal := h.balance
  rw [unsubtracted, hconsumers, hpc, hdrain, uncounted_eq_zero hstopped, hqueue] at hbal
  simpa using hbal.symm

/-- Draining from the pop on takes every queued node and then stops. -/
theorem drain_all (opt : ContainerOption) (queue : List TcpMessageNode) (s : MqState m k)
    (hqueue : s.queue = queue) (hpc : s.shutdownPc = .draining) :
    ∃ s', (mqMachine opt m k).run s (List.replicate (2 * queue.length + 1) (.drain none)) = some s' ∧
      s'.shutdownPc = .finished ∧ s'.queue = [] ∧ s'.producers = s.producers := by
  induction queue generalizing s with
  | nil =>
      refine ⟨{ s with shutdownPc := .finished }, ?_, rfl, hqueue, rfl⟩
      simp [mqMachine, Machine.run, MqState.step, MqState.drain, hpc, hqueue]
  | cons node rest ih =>
      -- two steps for the first node: the pop and the subtraction
      have hlength : 2 * (node :: rest).length + 1 = (2 * rest.length + 1) + 1 + 1 := by
        rw [List.length_cons]
        omega
      obtain ⟨s', hrun, hrest⟩ := ih
        { s with queue := rest, discarded := s.discarded ++ [node], count := s.count - 1,
                 shutdownPc := .draining } rfl rfl
      refine ⟨s', ?_, hrest⟩
      rw [hlength, List.replicate_succ, List.replicate_succ, Machine.run_cons, ← hrun]
      simp [mqMachine, MqState.step, MqState.drain, hpc, hqueue]

/-- Draining from any point of the loop on takes every queued node and then stops. -/
theorem drain_finishes (opt : ContainerOption) {s : MqState m k}
    (hpc : s.shutdownPc = .draining ∨ s.shutdownPc = .subtracting) :
    ∃ n s', (mqMachine opt m k).run s (List.replicate n (.drain none)) = some s' ∧
      s'.shutdownPc = .finished ∧ s'.queue = [] ∧ s'.producers = s.producers := by
  rcases hpc with hpc | hpc
  · exact ⟨_, drain_all opt s.queue s rfl hpc⟩
  · obtain ⟨s', hrun, hrest⟩ := drain_all opt s.queue
      { s with count := s.count - 1, shutdownPc := .draining } rfl rfl
    refine ⟨2 * s.queue.length + 1 + 1, s', ?_, hrest⟩
    rw [List.replicate_succ, Machine.run_cons, ← hrun]
    simp [mqMachine, MqState.step, MqState.drain, hpc]

/-- The drain is under way, or it is over and left nothing. -/
def Drains (s : MqState m k) : Prop :=
  (s.shutdownPc = .draining ∨ s.shutdownPc = .subtracting) ∨ s.shutdownPc = .finished ∧ s.queue = []

/-- A step of the drain keeps to the drain while the producers have stopped. -/
theorem drains_of_step {opt : ContainerOption} {s s' : MqState m k} {null : Option Bool}
    (hstopped : ∀ p, s.producers p = .idle)
    (hstep : (mqMachine opt m k).step s (.drain null) = some s') :
    s'.Drains ∧ ∀ p, s'.producers p = .idle := by
  have hform : StepForm opt s (.drain null) s' := stepForm_of_step hstep
  cases hform with
  | drainedNull null hpc => exact ⟨Or.inl (Or.inl hpc), hstopped⟩
  | drainEnds null hpc hend =>
      refine ⟨Or.inr ⟨rfl, ?_⟩, hstopped⟩
      rcases hend with hqueue | ⟨p, hp⟩
      · exact hqueue
      · -- an early end needs a push in progress
        rw [hstopped p] at hp
        cases hp
  | drained null node rest hpc hqueue => exact ⟨Or.inl (Or.inr rfl), hstopped⟩
  | drainSubtracted null hpc => exact ⟨Or.inl (Or.inl rfl), hstopped⟩

/-- So does every run of the drain. -/
theorem drains_of_run {opt : ContainerOption} {as : List (MqAction m k)} {s s' : MqState m k}
    (hstopped : ∀ p, s.producers p = .idle) (hdrains : s.Drains)
    (hdrain : ∀ a ∈ as, ∃ null, a = .drain null) (hrun : (mqMachine opt m k).run s as = some s') :
    s'.Drains ∧ ∀ p, s'.producers p = .idle := by
  induction as generalizing s with
  | nil =>
      cases hrun
      exact ⟨hdrains, hstopped⟩
  | cons a rest ih =>
      obtain ⟨null, rfl⟩ := hdrain a List.mem_cons_self
      rw [Machine.run_cons] at hrun
      obtain ⟨t, hstep, hrun⟩ := Option.bind_eq_some_iff.mp hrun
      obtain ⟨hdrains', hstopped'⟩ := drains_of_step hstopped hstep
      exact ih hstopped' hdrains' (fun a ha => hdrain a (List.mem_cons_of_mem _ ha)) hrun

/-- However the drain goes on once the producers have stopped, it can be completed, and when it is over
the queue is empty and the counter zero. -/
theorem drain_empties {opt : ContainerOption} {s : MqState m k}
    (hs : (mqMachine opt m k).Reachable s)
    (hpc : s.shutdownPc = .draining ∨ s.shutdownPc = .subtracting)
    (hstopped : ∀ p, s.producers p = .idle) {as : List (MqAction m k)} {s' : MqState m k}
    (hdrain : ∀ a ∈ as, ∃ null, a = .drain null) (hrun : (mqMachine opt m k).run s as = some s') :
    (s'.shutdownPc = .finished → s'.queue = [] ∧ s'.count = 0) ∧
    ∃ n t, (mqMachine opt m k).run s' (List.replicate n (.drain none)) = some t ∧
      t.shutdownPc = .finished ∧ t.queue = [] ∧ t.count = 0 := by
  have hs' : (mqMachine opt m k).Reachable s' := hs.run (fun _ _ _ => trivial) hrun
  have hinv' := mqMachine_inv hs'
  obtain ⟨hdrains', hstopped'⟩ := drains_of_run hstopped (Or.inl hpc) hdrain hrun
  rcases hdrains' with hpc' | ⟨hpc', hqueue'⟩
  · obtain ⟨n, t, hrun', hfin, hqueue, hproducers⟩ := drain_finishes opt hpc'
    have hinv := mqMachine_inv (hs'.run (fun _ _ _ => trivial) hrun')
    refine ⟨?_, n, t, hrun', hfin, hqueue,
      hinv.count_eq_zero hfin (hproducers ▸ hstopped') hqueue⟩
    intro hfin'
    rw [hfin'] at hpc'
    simp at hpc'
  · have hcount := hinv'.count_eq_zero hpc' hstopped' hqueue'
    exact ⟨fun _ => ⟨hqueue', hcount⟩, 0, s', rfl, hpc', hqueue', hcount⟩

end MqState

/-! ### Results -/

open MqState

/-- **Message-queue accounting.** In every reachable state, with any number of producers and consumers
and under every interleaving of their steps:

* the counter is not negative while the consumers run, and during the drain of `Shutdown` as well
  unless a push is left uncounted;
* the number of queued nodes is the counter, plus the pushes not yet counted, less the pops not yet
  subtracted, and the counter is what `_count.Load()` returns as long as there are fewer than `2 ^ 32`
  of them;
* the nodes are dispatched in the order of their pushes, none of them twice;
* every node pushed is either popped by a consumer (and dispatched, or in the hand of the one consumer
  that holds `_mutex`), or discarded by the drain, or queued, and only one of these;
* once the producers have stopped, every run of the drain can be completed, and it leaves the queue
  empty and the counter zero. -/
theorem messageQueue_accounting (opt : ContainerOption) (m k : Nat) (s : MqState m k)
    (hs : (mqMachine opt m k).Reachable s) :
    (s.shutdownPc.joined = false ∨ s.uncounted = 0 → 0 ≤ s.count) ∧
    ((s.queue.length : Int) = s.count + s.uncounted - s.unsubtracted ∧
      (s.queue.length + s.unsubtracted < 2 ^ 32 → 0 ≤ s.count → s.countLoad = s.count)) ∧
    (s.dispatched <+: s.pushed ∧ s.dispatched.Nodup) ∧
    (s.pushed.Nodup ∧ s.pushed = s.popped ++ s.discarded ++ s.queue ∧
      s.popped = s.dispatched ++ s.inHand.toList ∧
      ∀ c node, (s.consumers c).held = some node → s.inHand = some node) ∧
    ((s.shutdownPc = .draining ∨ s.shutdownPc = .subtracting) → (∀ p, s.producers p = .idle) →
      ∀ as s', (∀ a ∈ as, ∃ null, a = MqAction.drain null) →
        (mqMachine opt m k).run s as = some s' →
        (s'.shutdownPc = .finished → s'.queue = [] ∧ s'.count = 0) ∧
        ∃ n t, (mqMachine opt m k).run s' (List.replicate n (.drain none)) = some t ∧
          t.shutdownPc = .finished ∧ t.queue = [] ∧ t.count = 0) := by
  have h := mqMachine_inv hs
  have hbal := h.balance
  have hnodup : s.pushed.Nodup := by
    apply List.Nodup.of_map TcpMessageNode.serial
    rw [h.serials]
    exact List.nodup_range
  have horder : s.dispatched <+: s.pushed := by
    rw [h.split, h.handed]
    exact ⟨s.inHand.toList ++ s.discarded ++ s.queue, by simp⟩
  refine ⟨?_, ⟨?_, ?_⟩, ⟨horder, hnodup.sublist horder.sublist⟩,
    ⟨hnodup, h.split, h.handed, ?_⟩, ?_⟩
  · rintro (hj | hcounted)
    · exact h.nonneg hj
    · omega
  · omega
  · intro hbound hcount
    exact Int.emod_eq_of_lt hcount (by omega)
  · intro c node hheld
    have hcrit : (s.consumers c).critical = true := by
      cases hpc : s.consumers c <;> simp_all [MqConsumerPc.held, MqConsumerPc.critical]
    rw [inHand, (h.locked c).mp hcrit]
    exact hheld
  · intro hpc hstopped as s' hdrain hrun
    exact drain_empties hs hpc hstopped hdrain hrun

/-- One message pushed, counted, popped and dispatched. -/
theorem messageQueue_accounting_one_message :
    ∃ s : MqState 1 1, (mqMachine {} 1 1).run (mqMachine {} 1 1).init
        [.push 0 (.onNotify 7), .fetchAdd 0, .consume 0 false, .consume 0 false, .consume 0 false,
          .consume 0 false, .consume 0 false, .consume 0 false] = some s ∧
      s.dispatched = [⟨0, .endpointNotify 7⟩] ∧ 0 ≤ s.count ∧ s.dispatched <+: s.pushed := by
  obtain ⟨s, hrun, hdispatched, hjoined⟩ : ∃ s : MqState 1 1,
      (mqMachine {} 1 1).run (mqMachine {} 1 1).init
        [.push 0 (.onNotify 7), .fetchAdd 0, .consume 0 false, .consume 0 false, .consume 0 false,
          .consume 0 false, .consume 0 false, .consume 0 false] = some s ∧
      s.dispatched = [⟨0, .endpointNotify 7⟩] ∧ s.shutdownPc.joined = false :=
    ⟨_, rfl, rfl, rfl⟩
  obtain ⟨hnonneg, -, ⟨horder, -⟩, -⟩ :=
    messageQueue_accounting {} 1 1 s (Machine.reachable_of_run hrun)
  exact ⟨s, hrun, hdispatched, hnonneg (Or.inl hjoined), horder⟩

/-- The drain of `Shutdown` takes a node between its push and its `_count.FetchAdd`, and the counter
goes below zero until the producer comes to add. -/
theorem drain_wraps_uncounted_push :
    ∃ s : MqState 1 1, (mqMachine {} 1 1).Reachable s ∧ s.count = -1 ∧ s.countLoad = 2 ^ 32 - 1 := by
  obtain ⟨s, hrun, hcount⟩ : ∃ s : MqState 1 1,
      (mqMachine {} 1 1).run (mqMachine {} 1 1).init
        [.setShutdown, .consume 0 false, .broadcast, .join, .push 0 (.onNotify 7), .drain none,
          .drain none] = some s ∧ s.count = -1 :=
    ⟨_, rfl, rfl⟩
  refine ⟨s, Machine.reachable_of_run hrun, hcount, ?_⟩
  rw [countLoad, hcount]
  rfl

end RaptorLite
