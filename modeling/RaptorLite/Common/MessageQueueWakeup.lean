import RaptorLite.Common.MessageQueueAccounting

/-! # Wake-ups in the message queue

`MessageQueueThread` reads `_count` and goes to sleep under `_mutex`, but the producers count and signal
without it, and `Shutdown` sets `_shutdown` and broadcasts without it. A signal that comes between the
reading of a zero and the sleep reaches nobody; a broadcast that comes between the reading of
`_shutdown` and the sleep does not either.

The first section says what a stuck state is, the second which steps must be avoided, and the third that
avoiding them is enough: there is always a witness, a producer still to signal or a consumer that is
neither asleep nor about to sleep. Two runs show that nothing in the code avoids them. -/

namespace RaptorLite

variable {m k : Nat}

/-! ### Stuck states -/

namespace MqConsumerPc

/-- Asleep, or bound to sleep whatever is counted meanwhile. -/
def drowsy : MqConsumerPc → Bool
  | .wait | .asleep => true
  | _ => false

/-- Past a reading of `_shutdown` that gave `false`, with no pop, and no other reading of it, before
the thread sleeps. -/
def unaware : MqConsumerPc → Bool
  | .lock | .load | .wait | .asleep => true
  | _ => false

end MqConsumerPc

namespace MqState

/-- A wake-up is lost: messages are counted, all consumers sleep, and no producer is about to
signal. -/
def LostWakeup (s : MqState m k) : Prop :=
  s.countLoad ≠ 0 ∧ (∀ c, s.consumers c = .asleep) ∧ ∀ p, s.producers p ≠ .signal

/-- The next reading of `_shutdown` by the consumer comes after a sleep: it sleeps, it has read a zero,
or it is to read the zero in `_count` next. -/
def SleepsUnaware (s : MqState m k) (c : Fin k) : Prop :=
  s.consumers c = .asleep ∨ s.consumers c = .wait ∨
    (s.consumers c = .lock ∨ s.consumers c = .load) ∧ s.countLoad = 0

/-- The shutdown is missed: `_shutdown` is set and `_cv.Broadcast` done, but a consumer sleeps, or
goes to sleep without reading `_shutdown` again. -/
def MissedShutdown (s : MqState m k) : Prop :=
  s.shutdown = true ∧ s.shutdownPc ≠ .running ∧ s.shutdownPc ≠ .flagged ∧ ∃ c, s.SleepsUnaware c

/-- The step does not fall into a window: a signal is not sent while every consumer is between its
reading of a zero and its sleep, and a broadcast not while some consumer is between its reading of
`_shutdown` and its sleep. -/
def WakeupSafe (s : MqState m k) : MqAction m k → Prop
  | .signal _ _ => ∃ c, s.consumers c ≠ .wait
  | .broadcast => ∀ c, s.consumers c ≠ .lock ∧ s.consumers c ≠ .load ∧ s.consumers c ≠ .wait
  | _ => True

/-- **With two consumers or more** a signal is always safe: the one that is about to sleep holds
`_mutex`, and the other does not. -/
theorem signal_safe_of_two {opt : ContainerOption} {s : MqState m (k + 2)}
    (hs : (mqMachine opt m (k + 2)).Reachable s) (p : Fin m) (woken : Option (Fin (k + 2))) :
    s.WakeupSafe (.signal p woken) := by
  by_cases h0 : s.consumers 0 = .wait
  · refine ⟨1, ?_⟩
    intro h1
    have heq : (0 : Fin (k + 2)) = 1 :=
      (mqMachine_inv hs).locked.unique (by rw [h0]; rfl) (by rw [h1]; rfl)
    simp at heq
  · exact ⟨0, h0⟩

/-! ### The witness -/

/-- There is a producer still to signal or a consumer that is not drowsy. -/
def Attended (s : MqState m k) : Prop :=
  (∃ p, s.producers p = .signal) ∨ ∃ c, (s.consumers c).drowsy = false

/-- What holds under safe steps: whatever is counted is attended to, and behind the broadcast every
consumer that still runs is going to read `_shutdown`. -/
structure WakeupInv (s : MqState m k) : Prop where
  /-- What is counted is attended to. -/
  attended : s.countLoad ≠ 0 → s.Attended
  /-- `_shutdown` is set first. -/
  flagged : s.shutdownPc ≠ .running → s.shutdown = true
  /-- Behind the broadcast no consumer is unaware of it. -/
  aware : s.shutdownPc ≠ .running → s.shutdownPc ≠ .flagged → ∀ c, (s.consumers c).unaware = false

/-- **A step of a consumer.** It changes the acting consumer, the counter and the logs. When the
consumer becomes drowsy, it was so before or has read a zero; and once `_shutdown` is set an aware
consumer stays aware. -/
theorem WakeupInv.move {s s' : MqState m k} (h : WakeupInv s) {c : Fin k} {old pc : MqConsumerPc}
    (hc : s.consumers c = old) (hconsumers : s'.consumers = Function.update s.consumers c pc)
    (hproducers : s'.producers = s.producers) (hshutdown : s'.shutdown = s.shutdown)
    (hpc : s'.shutdownPc = s.shutdownPc)
    (hdrowsy : pc.drowsy = true → s'.countLoad = s.countLoad ∧
      (old.drowsy = true ∨ s.countLoad = 0))
    (haware : s.shutdown = true → old.unaware = false → pc.unaware = false) : WakeupInv s' := by
  subst hc
  refine ⟨?_, ?_, ?_⟩
  · intro hcount
    cases hpcs : pc.drowsy with
    | false =>
        -- the acting consumer is the witness
        refine Or.inr ⟨c, ?_⟩
        rw [hconsumers, Function.update_self, hpcs]
    | true =>
        -- the witness was another thread, and it still is
        obtain ⟨hsame, hcase⟩ := hdrowsy hpcs
        rw [hsame] at hcount
        have hbefore : (s.consumers c).drowsy = true := hcase.resolve_right hcount
        rcases h.attended hcount with ⟨p, hp⟩ | ⟨i, hi⟩
        · exact Or.inl ⟨p, by rw [hproducers, hp]⟩
        · refine Or.inr ⟨i, ?_⟩
          have hne : i ≠ c := by
            rintro rfl
            rw [hbefore] at hi
            cases hi
          rw [hconsumers, Function.update_of_ne hne, hi]
  · intro hrun
    rw [hshutdown]
    exact h.flagged (hpc ▸ hrun)
  · intro hrun hflag i
    rw [hpc] at hrun hflag
    rw [hconsumers]
    by_cases hi : i = c
    · subst hi
      rw [Function.update_self]
      exact haware (h.flagged hrun) (h.aware hrun hflag i)
    · rw [Function.update_of_ne hi]
      exact h.aware hrun hflag i

/-- A sleeping consumer is woken, with or without a signal, and is the witness from there on. -/
theorem wakeupInv_setConsumer_relock {s : MqState m k} (c : Fin k)
    (hflagged : s.shutdownPc ≠ .running → s.shutdown = true)
    (haware : s.shutdownPc ≠ .running → s.shutdownPc ≠ .flagged →
      ∀ c, (s.consumers c).unaware = false) :
    WakeupInv (s.setConsumer c .relock) := by
  refine ⟨fun _ => Or.inr ⟨c, ?_⟩, hflagged, ?_⟩
  · simp [setConsumer, MqConsumerPc.drowsy]
  · intro hrun hflag i
    by_cases hi : i = c
    · subst hi
      simp [setConsumer, MqConsumerPc.unaware]
    · simp only [setConsumer, Function.update_of_ne hi]
      exact haware hrun hflag i

/-- A producer pushes a node. -/
theorem WakeupInv.push {s : MqState m k} (h : WakeupInv s) {p : Fin m}
    (hp : s.producers p = .idle) {queue pushed : List TcpMessageNode} :
    WakeupInv { s.setProducer p .fetchAdd with queue := queue, pushed := pushed } := by
  refine ⟨?_, h.flagged, h.aware⟩
  intro hcount
  rcases h.attended hcount with ⟨q, hq⟩ | hconsumer
  · refine Or.inl ⟨q, ?_⟩
    have hne : q ≠ p := by
      rintro rfl
      rw [hp] at hq
      cases hq
    show Function.update s.producers p .fetchAdd q = .signal
    rw [Function.update_of_ne hne, hq]
  · exact Or.inr hconsumer

/-- A producer counts its node; it is the witness until it signals. -/
theorem WakeupInv.fetchAdd {s : MqState m k} (h : WakeupInv s) (p : Fin m) :
    WakeupInv { s.setProducer p .signal with count := s.count + 1 } := by
  refine ⟨fun _ => Or.inl ⟨p, ?_⟩, h.flagged, h.aware⟩
  show Function.update s.producers p .signal p = .signal
  rw [Function.update_self]

/-- A signal that finds nobody asleep: then some consumer is awake and not about to sleep. -/
theorem WakeupInv.signalNobody {s : MqState m k} (h : WakeupInv s) (p : Fin m)
    (hnobody : ∀ c, s.consumers c ≠ .asleep) (hsafe : ∃ c, s.consumers c ≠ .wait) :
    WakeupInv (s.setProducer p .idle) := by
  obtain ⟨c, hc⟩ := hsafe
  refine ⟨fun _ => Or.inr ⟨c, ?_⟩, h.flagged, h.aware⟩
  have hasleep := hnobody c
  show (s.consumers c).drowsy = false
  cases hpc : s.consumers c <;> simp_all [MqConsumerPc.drowsy]

/-- The broadcast wakes who sleeps, and nobody is on the way there. -/
theorem WakeupInv.broadcast {s : MqState m k} (h : WakeupInv s) (hpc : s.shutdownPc = .flagged)
    (hsafe : ∀ c, s.consumers c ≠ .lock ∧ s.consumers c ≠ .load ∧ s.consumers c ≠ .wait) :
    WakeupInv { s with
      consumers := fun c => if s.consumers c = .asleep then .relock else s.consumers c
      shutdownPc := .joining } := by
  refine ⟨?_, fun _ => h.flagged (by rw [hpc]; nofun), ?_⟩
  · intro hcount
    rcases h.attended hcount with hproducer | ⟨c, hc⟩
    · exact Or.inl hproducer
    · refine Or.inr ⟨c, ?_⟩
      have hasleep : s.consumers c ≠ .asleep := by
        intro hasleep
        rw [hasleep] at hc
        cases hc
      show (if s.consumers c = .asleep then MqConsumerPc.relock else s.consumers c).drowsy = false
      rw [if_neg hasleep, hc]
  · intro _ _ c
    obtain ⟨hlock, hload, hwait⟩ := hsafe c
    by_cases hasleep : s.consumers c = .asleep
    · show (if s.consumers c = .asleep then MqConsumerPc.relock else s.consumers c).unaware = false
      rw [if_pos hasleep]
      rfl
    · show (if s.consumers c = .asleep then MqConsumerPc.relock else s.consumers c).unaware = false
      rw [if_neg hasleep]
      cases hpcs : s.consumers c <;> simp_all [MqConsumerPc.unaware]

/-- Behind the join every consumer has returned, and is neither drowsy nor unaware. -/
theorem wakeupInv_of_returned {s : MqState m (k + 1)} (hret : ∀ c, s.consumers c = .returned)
    (hshutdown : s.shutdown = true) : WakeupInv s := by
  refine ⟨fun _ => Or.inr ⟨0, ?_⟩, fun _ => hshutdown, ?_⟩
  · rw [hret 0]
    rfl
  · intro _ _ c
    rw [hret c]
    rfl

/-! ### Runs -/

/-- **A safe step** keeps the wake-up invariant. -/
theorem WakeupInv.step {opt : ContainerOption} {s s' : MqState m (k + 1)} {a : MqAction m (k + 1)}
    (hinv : MqInv s) (h : WakeupInv s) (hsafe : s.WakeupSafe a) (hstep : s.step opt a = some s') :
    WakeupInv s' := by
  cases stepForm_of_step hstep with
  | noMessage p call => exact h
  | pushed p call message hp => exact h.push hp
  | counted p hp => exact h.fetchAdd p
  | signalled p c hp hc => exact wakeupInv_setConsumer_relock c h.flagged h.aware
  | signalledNobody p hp hnobody => exact h.signalNobody p hnobody hsafe
  | woken c hc => exact wakeupInv_setConsumer_relock c h.flagged h.aware
  | loopEnds c null hc => exact h.move hc rfl rfl rfl rfl nofun fun _ _ => rfl
  | loopGoesOn c null hc hrun =>
      -- the reading of `_shutdown` that makes the thread unaware
      refine h.move hc rfl rfl rfl rfl nofun ?_
      intro hset
      rw [hrun] at hset
      cases hset
  | locked c null hc hfree => exact h.move hc rfl rfl rfl rfl nofun nofun
  | loadedZero c null hc hzero =>
      exact h.move hc rfl rfl rfl rfl (fun _ => ⟨rfl, Or.inr hzero⟩) nofun
  | loaded c null hc hcount => exact h.move hc rfl rfl rfl rfl nofun nofun
  | slept c null hc => exact h.move hc rfl rfl rfl rfl (fun _ => ⟨rfl, Or.inl rfl⟩) nofun
  | relocked c null hc hfree => exact h.move hc rfl rfl rfl rfl nofun fun _ _ => rfl
  | recheckEnds c null hc => exact h.move hc rfl rfl rfl rfl nofun fun _ _ => rfl
  | recheckGoesOn c null hc hrun =>
      refine h.move hc rfl rfl rfl rfl nofun ?_
      intro hset
      rw [hrun] at hset
      cases hset
  | left c null hc => exact h.move hc rfl rfl rfl rfl nofun fun _ _ => rfl
  | poppedNull c null hc => exact h.move hc rfl rfl rfl rfl nofun fun _ _ => rfl
  | popped c null node rest hc hqueue => exact h.move hc rfl rfl rfl rfl nofun fun _ _ => rfl
  | subtracted c null node hc => exact h.move hc rfl rfl rfl rfl nofun fun _ _ => rfl
  | dispatched c null node hc => exact h.move hc rfl rfl rfl rfl nofun fun _ _ => rfl
  | unlocked c null hc => exact h.move hc rfl rfl rfl rfl nofun fun _ _ => rfl
  | flagged hpc => exact ⟨h.attended, fun _ => rfl, fun _ hflag => absurd rfl hflag⟩
  | broadcast hpc => exact h.broadcast hpc hsafe
  | joined hpc hreturned => exact wakeupInv_of_returned hreturned (h.flagged (by rw [hpc]; nofun))
  | drainedNull null hpc => exact h
  | drainEnds null hpc hend =>
      exact wakeupInv_of_returned (hinv.joined (by rw [hpc]; rfl)) (h.flagged (by rw [hpc]; nofun))
  | drained null node rest hpc hqueue =>
      exact wakeupInv_of_returned (hinv.joined (by rw [hpc]; rfl)) (h.flagged (by rw [hpc]; nofun))
  | drainSubtracted null hpc =>
      exact wakeupInv_of_returned (hinv.joined (by rw [hpc]; rfl)) (h.flagged (by rw [hpc]; nofun))

/-- The wake-up invariant holds in every state that safe steps reach. -/
theorem wakeupInv_of_reaches {opt : ContainerOption} {s : MqState m (k + 1)}
    (hs : (mqMachine opt m (k + 1)).Reaches WakeupSafe s) : WakeupInv s := by
  refine hs.invariant WakeupInv ⟨fun hcount => absurd rfl hcount, fun hrun => absurd rfl hrun,
    fun hrun => absurd rfl hrun⟩ ?_
  intro _ _ _ hs hsafe h hstep
  exact h.step (mqMachine_inv hs.reachable) hsafe hstep

end MqState

/-! ### Results -/

open MqState

/-- **No wake-up is lost in a run of safe steps.** With any number of producers and of consumers (at
least one, without which `Init` fails), in no state that is reached by safe steps is a wake-up lost or the
shutdown missed. -/
theorem no_lost_wakeup (opt : ContainerOption) (m k : Nat) (s : MqState m (k + 1))
    (hs : (mqMachine opt m (k + 1)).Reaches WakeupSafe s) :
    ¬ s.LostWakeup ∧ ¬ s.MissedShutdown := by
  have h := wakeupInv_of_reaches hs
  constructor
  · rintro ⟨hcount, hasleep, hsignal⟩
    rcases h.attended hcount with ⟨p, hp⟩ | ⟨c, hc⟩
    · exact hsignal p hp
    · rw [hasleep c] at hc
      cases hc
  · rintro ⟨-, hrun, hflag, c, hc⟩
    have haware := h.aware hrun hflag c
    rcases hc with hc | hc | ⟨hc | hc, -⟩ <;>
    · rw [hc] at haware
      cases haware

/-- A consumer goes to sleep, a message is pushed and counted, and the signal wakes the consumer. -/
theorem no_lost_wakeup_signalled :
    ∃ s s' : MqState 1 1, (mqMachine {} 1 1).run (mqMachine {} 1 1).init
        [.consume 0 false, .consume 0 false, .consume 0 false, .consume 0 false,
          .push 0 (.onNotify 7), .fetchAdd 0] = some s ∧
      (mqMachine {} 1 1).step s (.signal 0 (some 0)) = some s' ∧ s'.countLoad = 1 ∧
      ¬ s'.LostWakeup ∧ ¬ s'.MissedShutdown := by
  obtain ⟨s, s', hrun, hstep, hsafe, hcount⟩ : ∃ s s' : MqState 1 1,
      (mqMachine {} 1 1).run (mqMachine {} 1 1).init
        [.consume 0 false, .consume 0 false, .consume 0 false, .consume 0 false,
          .push 0 (.onNotify 7), .fetchAdd 0] = some s ∧
      (mqMachine {} 1 1).step s (.signal 0 (some 0)) = some s' ∧
      s.WakeupSafe (.signal 0 (some 0)) ∧ s'.countLoad = 1 :=
    ⟨_, _, rfl, rfl, ⟨0, by decide⟩, rfl⟩
  have hs : (mqMachine {} 1 1).Reaches WakeupSafe s := by
    refine Machine.Reaches.init.run ?_ hrun
    intro a ha t
    simp only [List.mem_cons, List.not_mem_nil, or_false] at ha
    rcases ha with rfl | rfl | rfl | rfl | rfl | rfl <;> trivial
  exact ⟨s, s', hrun, hstep, hcount, no_lost_wakeup {} 1 0 s' (hs.step hsafe hstep)⟩

/-- The only consumer reads a zero; a message is pushed, counted and signalled before it sleeps, and then
it sleeps. Or `Shutdown` broadcasts before it sleeps, and then it sleeps. -/
theorem wakeup_lost_before_sleep :
    (∃ s : MqState 1 1, (mqMachine {} 1 1).Reachable s ∧ s.LostWakeup) ∧
    ∃ s : MqState 1 1, (mqMachine {} 1 1).Reachable s ∧ s.MissedShutdown := by
  constructor
  · obtain ⟨s, hrun, hlost⟩ : ∃ s : MqState 1 1, (mqMachine {} 1 1).run (mqMachine {} 1 1).init
        [.consume 0 false, .consume 0 false, .consume 0 false, .push 0 (.onNotify 7), .fetchAdd 0,
          .signal 0 none, .consume 0 false] = some s ∧ s.LostWakeup :=
      ⟨_, rfl, by decide, by decide, by decide⟩
    exact ⟨s, Machine.reachable_of_run hrun, hlost⟩
  · obtain ⟨s, hrun, hmissed⟩ : ∃ s : MqState 1 1, (mqMachine {} 1 1).run (mqMachine {} 1 1).init
        [.consume 0 false, .consume 0 false, .consume 0 false, .setShutdown, .broadcast,
          .consume 0 false] = some s ∧ s.MissedShutdown :=
      ⟨_, rfl, rfl, by decide, by decide, 0, Or.inl rfl⟩
    exact ⟨s, Machine.reachable_of_run hrun, hmissed⟩

end RaptorLite
