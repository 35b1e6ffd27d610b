import RaptorLite.Utils.LogInvariant

/-! # What becomes of log records

Every step keeps the invariant of the log. So no memory is used that is not allocated, the records come out of the
queue in the order in which they went in, each of them once, those of one thread in the order of its calls; a node is
in one place, a message has one owner, and the messages that are lost are exactly those of the calls that did not pass
the level test. -/

namespace RaptorLite

variable {n : Nat}

/-! ### The calls -/

section Calls

variable {s s' : LogState n} {p : Fin n} {node : QueueNode} {args : LogArgument n} {a : Nat}

/-- `LogFormatPrint` up to the formatted message. -/
theorem LogInv.call (h : LogInv s) {file : String} {line : Int} {level : LogLevel} {text : Option String}
    {message : Nat} (hstep : s.call p file line level text message = some s') : LogInv s' := by
  simp only [LogState.call] at hstep
  split at hstep
  · next hguard =>
    split at hstep
    · cases hstep
      exact h
    · split at hstep
      · cases hstep
        exact h
      · next text =>
        split at hstep
        · next hfree =>
          cases hstep
          obtain ⟨holder, ht⟩ := h.texts
          have hrecord : ∀ node, (s.argsOf node).isSome → LogState.record { s with
              texts := Function.update s.texts message (some text) } node = s.record node := by
            intro node hnode
            refine LogState.record_congr rfl fun args hargs => Function.update_of_ne ?_ _ _
            rintro rfl
            obtain ⟨text', htext', -⟩ := h.exists_text hargs
            rw [hfree] at htext'
            cases htext'
          refine ⟨⟨h.control.queue, h.control.consumer, h.control.phase, ?_⟩, h.nodes,
            ⟨_, ht.alloc ⟨file, line, level, message, p⟩ hfree hguard.1 rfl text⟩, ?_, h.noFault⟩
          · intro q hq
            by_cases hqp : q = p
            · exact hqp ▸ hguard.2
            · exact h.control.callers q fun hidle => hq ((Function.update_of_ne hqp _ _).trans hidle)
          · refine h.order.congr rfl rfl rfl (fun _ => rfl) ?_ ?_
            · exact fun node hnode => hrecord node (h.isSome_of_places (s.unhandled_subset hnode))
            · exact fun q node hq => hrecord node (h.isSome_of_stored hq)
        · cases hstep
  · cases hstep

/-- The level test failed: nobody frees the message. -/
theorem LogInv.drop (h : LogInv s) (hp : s.callers p = .formatted args) :
    LogInv { s with callers := Function.update s.callers p .idle, dropped := s.dropped ++ [args] } := by
  obtain ⟨holder, ht⟩ := h.texts
  refine ⟨⟨h.control.queue, h.control.consumer, h.control.phase, ?_⟩, h.nodes,
    ⟨Function.update holder args.message (some .nobody), ht.give hp ?_ ?_ ?_ ?_ ?_ ?_⟩,
    ⟨h.order.fifo, h.order.byThread⟩, h.noFault⟩
  · intro q hq
    by_cases hqp : q = p
    · exact absurd (hqp ▸ Function.update_self _ _ _) hq
    · exact h.control.callers q fun hidle => hq ((Function.update_of_ne hqp _ _).trans hidle)
  · exact ⟨args, List.mem_append_right _ List.mem_cons_self, rfl⟩
  · exact fun _ _ hargs => Or.inl hargs
  · exact fun _ _ hargs => hargs
  · intro args' hargs'
    rcases List.mem_append.mp hargs' with hold | hnew
    · exact Or.inl hold
    · exact Or.inr ⟨rfl, by rw [List.mem_singleton.mp hnew]⟩
  · exact List.subset_append_left _ _
  · rw [List.map_append, List.nodup_append]
    refine ⟨ht.nodup, List.nodup_singleton _, ?_⟩
    -- the message is still the caller's
    rintro t hmem _ hnew rfl
    obtain ⟨args', hargs', hmsg⟩ := List.mem_map.mp hmem
    have hholder := ht.nobody args' hargs'
    rw [hmsg, List.mem_singleton.mp hnew, (ht.caller p args hp).1] at hholder
    cases hholder

/-- A new node has the texts it was written with. -/
theorem LogState.newNode_argsOf (s : LogState n) (p : Fin n) (args : LogArgument n) (a : Nat) :
    (s.newNode p args a).argsOf = Function.update s.argsOf (.item a) (some args) := s.argsOf_setNode a (some args)

/-- A new node: its push begins. -/
theorem NodesOk.store {argsOf : QueueNode → Option (LogArgument n)} {places : List QueueNode}
    {producers : Fin n → ProducerPc} (h : NodesOk argsOf places producers) (hfree : argsOf node = none)
    (hidle : producers p = .idle) (hthread : args.threadid = p) :
    NodesOk (Function.update argsOf node (some args)) places (Function.update producers p (.stored node)) := by
  have hdead : ∀ x, x ∈ places ∨ (∃ q, producers q = .stored x) → x ≠ node := by
    rintro x hx rfl
    have hsome := (h.live x).mpr hx
    rw [hfree] at hsome
    cases hsome
  refine ⟨?_, h.nodup, ?_, ?_⟩
  · intro x
    by_cases hx : x = node
    · subst hx
      rw [Function.update_self]
      exact ⟨fun _ => Or.inr ⟨p, Function.update_self _ _ _⟩, fun _ => rfl⟩
    · rw [Function.update_of_ne hx, h.live x]
      refine or_congr Iff.rfl (exists_congr fun q => ?_)
      by_cases hqp : q = p
      · subst hqp
        rw [Function.update_self, hidle]
        simp [Ne.symm hx]
      · rw [Function.update_of_ne hqp]
  · intro q x hq
    by_cases hqp : q = p
    · subst hqp
      rw [Function.update_self] at hq
      cases hq
      exact fun hmem => hdead _ (Or.inl hmem) rfl
    · rw [Function.update_of_ne hqp] at hq
      exact h.stored q x hq
  · intro q x args' hq hargs'
    by_cases hqp : q = p
    · subst hqp
      rw [Function.update_self] at hq
      cases hq
      rw [Function.update_self] at hargs'
      cases hargs'
      exact hthread
    · rw [Function.update_of_ne hqp] at hq
      rw [Function.update_of_ne (hdead x (Or.inr ⟨q, hq⟩))] at hargs'
      exact h.thread q x args' hq hargs'

/-- The message goes into the node. -/
theorem TextsOk.store {texts : Nat → Option String} {argsOf : QueueNode → Option (LogArgument n)}
    {callers : Fin n → LogCallerPc n} {dropped : List (LogArgument n)} {holder : Nat → Option (TextHolder n)}
    (h : TextsOk texts argsOf callers dropped holder) (hp : callers p = .formatted args) (hfree : argsOf node = none) :
    TextsOk texts (Function.update argsOf node (some args)) (Function.update callers p .idle) dropped
      (Function.update holder args.message (some (.node node))) := by
  refine h.give hp ⟨args, Function.update_self _ _ _, rfl⟩ ?_ ?_ (fun _ hargs' => Or.inl hargs')
    (List.Subset.refl _) h.nodup
  · intro x args' hargs'
    by_cases hx : x = node
    · subst hx
      rw [Function.update_self] at hargs'
      cases hargs'
      exact Or.inr ⟨rfl, rfl⟩
    · rw [Function.update_of_ne hx] at hargs'
      exact Or.inl hargs'
  · intro x args' hargs'
    rw [Function.update_of_ne ?_, hargs']
    rintro rfl
    rw [hfree] at hargs'
    cases hargs'

/-- The level test passed: a node is allocated, and its push begins. -/
theorem LogInv.pass (h : LogInv s) (hp : s.callers p = .formatted args) (hfree : s.nodes a = none)
    (hstep : (s.newNode p args a).queueStep (.push p (.item a)) = some s') : LogInv s' := by
  obtain ⟨holder, ht⟩ := h.texts
  have hargsOf := s.newNode_argsOf p args a
  have hnone : s.argsOf (.item a) = none := hfree
  have hidle : s.queue.producers p = .idle := h.control.callers p (by rw [hp]; simp)
  have hdead : ∀ {node}, (s.argsOf node).isSome → node ≠ .item a := by
    rintro node hsome rfl
    rw [hnone] at hsome
    cases hsome
  -- the new node and those in the queue are allocated
  have hlive : ∀ node ∈ s.queue.remaining, (s.newNode p args a).live node = true := by
    intro node hnode
    have hsome := h.isSome_of_places (List.mem_append_right _ hnode)
    rw [LogState.live, hargsOf, Function.update_of_ne (hdead hsome), hsome, Bool.or_true]
  have hnew : (s.newNode p args a).live (.item a) = true := by
    rw [LogState.live, hargsOf, Function.update_self, Option.isSome_some, Bool.or_true]
  obtain ⟨q, hq, hreach, rfl⟩ := LogState.queueStep_of_live (s := s.newNode p args a) h.control.queue hlive
    (fun r node heq => by cases heq; exact hnew) hstep
  have hout : QueueNode.item a ∉ s.queue.remaining := fun hmem =>
    hdead (h.isSome_of_places (List.mem_append_right _ hmem)) rfl
  have hpush := push_enabled h.control.queue hidle (by simp) hout fun q hq => hdead (h.isSome_of_stored hq) rfl
  obtain rfl : _ = q := Option.some.inj (hpush.symm.trans hq)
  obtain ⟨text, htext⟩ : ∃ text, s.texts args.message = some text := by
    have hsome := (ht.allocated args.message).mpr (by rw [(ht.caller p args hp).1]; rfl)
    exact Option.isSome_iff_exists.mp hsome
  have hrecord : ∀ node, (s.argsOf node).isSome → (s.newNode p args a).record node = s.record node := by
    intro node hsome
    refine LogState.record_congr ?_ fun _ _ => rfl
    rw [hargsOf, Function.update_of_ne (hdead hsome)]
  have hrecordNew : (s.newNode p args a).record (.item a) = some (args.record text) := by
    rw [LogState.record, hargsOf, Function.update_self, Option.bind_some]
    exact congrArg (Option.map args.record) htext
  refine ⟨⟨hreach, h.control.consumer, h.control.phase, ?_⟩, ?_,
    ⟨Function.update holder args.message (some (.node (.item a))), ?_⟩, ⟨?_, ?_⟩, h.noFault⟩
  · intro q hq
    by_cases hqp : q = p
    · exact absurd (hqp ▸ Function.update_self _ _ _) hq
    · refine (Function.update_of_ne hqp _ _).trans (h.control.callers q fun hidle => hq ?_)
      exact (Function.update_of_ne hqp _ _).trans hidle
  · have hnodes := h.nodes.store hnone hidle (ht.caller p args hp).2
    rw [← hargsOf] at hnodes
    exact hnodes
  · have htexts := ht.store hp hnone
    rw [← hargsOf] at htexts
    exact htexts
  · refine h.order.fifo.trans (congrArg _ (List.filterMap_congr fun node hnode => ?_))
    exact (hrecord node (h.isSome_of_places (s.unhandled_subset hnode))).symm
  · intro r
    have hthread : (args.record text).threadid = p := (ht.caller p args hp).2
    have hpassed : (s.newNode p args a).passed = s.passed ++ [args.record text] := by
      rw [LogState.newNode, htext]
      rfl
    refine (congrArg (List.filter _) hpassed).trans ?_
    rw [List.filter_append, h.order.byThread r, List.append_assoc]
    refine congrArg _ ?_
    by_cases hrp : r = p
    · subst hrp
      rw [LogState.pending, hidle, LogState.pending]
      simp only [Function.update_self, ProducerPc.entering, Option.bind_some, Option.bind_none]
      refine Eq.trans ?_ (congrArg Option.toList hrecordNew).symm
      simp [hthread]
    · have hpending : (Function.update s.queue.producers p (.stored (.item a)) r).entering.bind
          (s.newNode p args a).record = s.pending r := by
        rw [Function.update_of_ne hrp, LogState.pending]
        cases hq : (s.queue.producers r).entering with
        | none => rfl
        | some node => exact hrecord node (h.isSome_of_stored (ProducerPc.entering_eq_some.mp hq))
      refine Eq.trans ?_ (congrArg Option.toList hpending).symm
      simp [hthread, Ne.symm hrp]

/-- The level test. -/
theorem LogInv.check (h : LogInv s) (hstep : s.check p a = some s') : LogInv s' := by
  simp only [LogState.check] at hstep
  split at hstep
  · cases hstep
  · next args hp =>
    split at hstep
    · split at hstep
      · next hfree => exact h.pass hp hfree hstep
      · cases hstep
    · cases hstep
      exact h.drop hp

/-- The exchange puts the record into the queue. -/
theorem LogInv.exchange (h : LogInv s) (hstep : s.exchange p = some s') : LogInv s' := by
  simp only [LogState.exchange] at hstep
  split at hstep
  · next node hp =>
    obtain ⟨t, hqueue, rfl⟩ := Option.map_eq_some_iff.mp hstep
    obtain ⟨q, hq, hreach, rfl⟩ := h.queueStep (fun _ _ => by simp) hqueue
    obtain ⟨hremaining, hproducers, hconsumer⟩ := exchange_remaining h.control.queue hp hq
    obtain ⟨args, hargs⟩ := Option.isSome_iff_exists.mp (h.isSome_of_stored hp)
    obtain ⟨text, -, hrecord⟩ := h.exists_text hargs
    have hthread : (args.record text).threadid = p := h.nodes.thread p node args hp hargs
    have hunique := (stored_outside h.control.queue hp).2.2
    -- only the producer's own node is no longer about to be pushed
    have hstored : ∀ r x, q.producers r = .stored x ↔ r ≠ p ∧ s.queue.producers r = .stored x := by
      intro r x
      rw [hproducers]
      by_cases hrp : r = p
      · subst hrp
        simp
      · rw [Function.update_of_ne hrp]
        simp [hrp]
    have hplaces : s.thread.hand ++ s.owner.hand ++ q.remaining = s.places ++ [node] := by
      rw [hremaining, LogState.places, List.append_assoc _ _ [node]]
    refine ⟨⟨hreach, ?_, h.control.phase, ?_⟩, ?_, h.texts, ⟨?_, ?_⟩, h.noFault⟩
    · intro hbusy
      exact h.control.consumer fun hidle => hbusy (hconsumer.trans hidle)
    · intro r hr
      have hidle := h.control.callers r hr
      have hrp : r ≠ p := by
        rintro rfl
        rw [hp] at hidle
        cases hidle
      exact (congrFun hproducers r).trans ((Function.update_of_ne hrp _ _).trans hidle)
    · show NodesOk s.argsOf (s.thread.hand ++ s.owner.hand ++ q.remaining) q.producers
      rw [hplaces]
      refine ⟨?_, ?_, ?_, ?_⟩
      · intro x
        rw [h.nodes.live x, List.mem_append, List.mem_singleton, or_assoc]
        refine or_congr Iff.rfl ⟨?_, ?_⟩
        · rintro ⟨r, hr⟩
          by_cases hrp : r = p
          · subst hrp
            rw [hp, ProducerPc.stored.injEq] at hr
            exact Or.inl hr.symm
          · exact Or.inr ⟨r, (hstored r x).mpr ⟨hrp, hr⟩⟩
        · rintro (rfl | ⟨r, hr⟩)
          · exact ⟨p, hp⟩
          · exact ⟨r, ((hstored r x).mp hr).2⟩
      · rw [List.nodup_append]
        refine ⟨h.nodes.nodup, List.nodup_singleton _, ?_⟩
        rintro x hx _ hnew rfl
        exact h.nodes.stored p node hp (List.mem_singleton.mp hnew ▸ hx)
      · intro r x hr hmem
        obtain ⟨hrp, hr⟩ := (hstored r x).mp hr
        rcases List.mem_append.mp hmem with hmem | hnew
        · exact h.nodes.stored r x hr hmem
        · rw [List.mem_singleton.mp hnew] at hr
          exact hrp (hunique r hr)
      · intro r x args' hr hargs'
        exact h.nodes.thread r x args' ((hstored r x).mp hr).2 hargs'
    · show s.accepted ++ (s.record node).toList =
        s.handled.map Prod.fst ++ (s.thread.unprinted ++ s.owner.hand ++ q.remaining).filterMap s.record
      rw [hremaining, ← List.append_assoc, List.filterMap_append, ← List.append_assoc, h.order.fifo]
      rw [hrecord, List.filterMap_cons_some hrecord]
      rfl
    · intro r
      show s.passed.filter _ = (s.accepted ++ (s.record node).toList).filter _ ++ _
      rw [h.order.byThread r, List.filter_append, List.append_assoc, hrecord]
      refine congrArg _ ?_
      by_cases hrp : r = p
      · subst hrp
        simp [LogState.pending, hproducers, hp, ProducerPc.entering, hrecord, hthread]
      · simp only [LogState.pending, hproducers, Function.update_of_ne hrp]
        simp [hthread, Ne.symm hrp]
        rfl
  · cases hstep

/-- Storing the link ends the call. -/
theorem LogInv.link (h : LogInv s) (hstep : s.queueStep (.link p) = some s') : LogInv s' := by
  obtain ⟨q, hq, hreach, rfl⟩ := h.queueStep (fun _ _ => by simp) hstep
  cases hp : s.queue.producers p with
  | idle =>
      rw [MpscState.step, hp] at hq
      cases hq
  | stored node =>
      rw [MpscState.step, hp] at hq
      cases hq
  | exchanged node prev =>
      obtain ⟨hremaining, hproducers, hconsumer⟩ := link_remaining hp hq
      refine h.pass_on hreach ?_ ?_ ?_ h.control.phase ?_ ?_
      · intro r
        rw [hproducers]
        by_cases hrp : r = p
        · subst hrp
          rw [Function.update_self, hp]
          rfl
        · rw [Function.update_of_ne hrp]
      · intro r hr
        rw [hproducers]
        by_cases hrp : r = p
        · rw [hrp, Function.update_self]
        · rw [Function.update_of_ne hrp, hr]
      · rw [hconsumer]
        exact h.control.consumer
      · rw [hremaining, LogState.unhandled]
      · rw [hremaining, LogState.places]

end Calls

/-! ### The thread that prints, and the one that starts and ends the log -/

section Threads

variable {s s' : LogState n} {node : QueueNode}

/-- An access of a pop: the pop goes on, or it returns what was the first in the queue. -/
theorem LogInv.popStep (h : LogInv s) {k : Option QueueNode → Bool → LogState n → LogState n}
    (hstep : s.popStep k = some s') :
    ∃ q, q = s.queue.consume ∧ (mpscMachine n).Reachable q ∧ q.producers = s.queue.producers ∧
      ((s' = { s with queue := q } ∧ q.consumer ≠ .idle ∧ q.remaining = s.queue.remaining) ∨
        ∃ node empty, s' = k node empty { s with queue := q } ∧ Popped s.queue q (node, empty) ∧
          s.queue.remaining = node.toList ++ q.remaining) := by
  obtain ⟨t, hqueue, rfl⟩ := Option.map_eq_some_iff.mp hstep
  obtain ⟨q, hq, hreach, rfl⟩ := h.queueStep (fun _ _ => by simp) hqueue
  obtain rfl : s.queue.consume = q := Option.some.inj hq
  refine ⟨_, rfl, hreach, ?_⟩
  rcases consume_cases s.queue with ⟨⟨node, empty⟩, hpop⟩ | ⟨hbusy, hproducers, hexchanged, hreturned, -⟩
  · refine ⟨hpop.producers, Or.inr ⟨node, empty, ?_, hpop, hpop.remaining h.control.queue hreach⟩⟩
    rw [if_pos hpop.consumer, hpop.results, List.getLast?_append, List.getLast?_singleton]
    rfl
  · refine ⟨hproducers, Or.inl ⟨?_, hbusy, ?_⟩⟩
    · rw [if_neg hbusy]
    · rw [MpscState.remaining, hexchanged, hreturned, MpscState.remaining]

/-- While the thread that prints runs, the other one does nothing, or waits for it. -/
theorem LogPhase.running {owner : LogOwnerPc} {shutdown : Bool} {t : LogThreadPc} (h : LogPhase owner shutdown t)
    (habsent : t ≠ .absent) (hwaiting : t ≠ .waiting) :
    (owner = .idle ∧ shutdown = false ∧ t ≠ .ended) ∨ (owner = .joining ∧ shutdown = true) := by
  cases owner <;> cases shutdown <;> simp_all [LogPhase]

/-- The thread that prints may go to any place in its loop. -/
theorem LogPhase.advance {owner : LogOwnerPc} {shutdown : Bool} {t t' : LogThreadPc} (h : LogPhase owner shutdown t)
    (habsent : t ≠ .absent) (hwaiting : t ≠ .waiting) (hwaiting' : t' ≠ .waiting) (hended' : t' ≠ .ended) :
    LogPhase owner shutdown t' := by
  rcases h.running habsent hwaiting with ⟨rfl, rfl, -⟩ | ⟨rfl, rfl⟩
  · exact ⟨hwaiting', hended'⟩
  · exact hwaiting'

/-- Outside of the two pops the consumer is idle. -/
theorem LogInv.consumer_idle (h : LogInv s) (hpop : s.thread ≠ .popping) (hdrain : s.owner ≠ .draining) :
    s.queue.consumer = .idle := by
  by_contra hbusy
  exact (h.control.consumer hbusy).elim hpop hdrain

/-- The owner has nothing in its hand, and does not pop, while the thread that prints runs. -/
theorem LogInv.owner_waits (h : LogInv s) (habsent : s.thread ≠ .absent) (hwaiting : s.thread ≠ .waiting) :
    s.owner.hand = [] ∧ s.owner ≠ .draining := by
  rcases h.control.phase.running habsent hwaiting with ⟨howner, -⟩ | ⟨howner, -⟩
  · rw [howner]
    exact ⟨rfl, by simp⟩
  · rw [howner]
    exact ⟨rfl, by simp⟩

/-- What is known of the node in a hand: it has a record, and is released without a fault. -/
theorem LogInv.release_eq (h : LogInv s) (hnode : node ∈ s.places) :
    ∃ a args record, node = .item a ∧ s.nodes a = some args ∧ s.record node = some record ∧
      ∀ handled, LogState.release { s with handled := handled } node = { s with
        handled := handled
        nodes := Function.update s.nodes a none
        texts := Function.update s.texts args.message none } := by
  obtain ⟨args, hargs⟩ := Option.isSome_iff_exists.mp (h.isSome_of_places hnode)
  obtain ⟨text, htext, hrecord⟩ := h.exists_text hargs
  cases node with
  | stub => cases hargs
  | item a =>
      have hargs : s.nodes a = some args := hargs
      refine ⟨a, args, _, rfl, hargs, hrecord, fun handled => ?_⟩
      simp only [LogState.release, hargs, htext, Option.isNone_some, Bool.or_false]

/-- The thread that prints. -/
theorem LogInv.work (h : LogInv s) (hstep : s.work = some s') : LogInv s' := by
  have hphase := h.control.phase
  cases hpc : s.thread with
  | absent => simp [LogState.work, hpc] at hstep
  | waiting => simp [LogState.work, hpc] at hstep
  | ended => simp [LogState.work, hpc] at hstep
  | loop =>
      have hidle := h.consumer_idle (by simp [hpc]) (h.owner_waits (by simp [hpc]) (by simp [hpc])).2
      rw [hpc] at hphase
      simp only [LogState.work, hpc] at hstep
      cases hstep
      by_cases hshutdown : s.shutdown = true
      · rw [if_pos hshutdown]
        refine h.go (fun hbusy => absurd hidle hbusy) ?_ (by rw [hpc]; rfl) (by rw [hpc]; rfl)
        rcases hphase.running (by simp) (by simp) with ⟨-, hfalse, -⟩ | ⟨howner, -⟩
        · rw [hshutdown] at hfalse
          cases hfalse
        · rw [howner, hshutdown]
          simp [LogPhase]
      · rw [if_neg hshutdown]
        exact h.go (fun hbusy => absurd hidle hbusy)
          (hphase.advance (by simp) (by simp) (by simp) (by simp)) (by rw [hpc]; rfl) (by rw [hpc]; rfl)
  | popping =>
      have howner := (h.owner_waits (by simp [hpc]) (by simp [hpc])).1
      rw [hpc] at hphase
      have hunhandled : s.unhandled = s.queue.remaining := by
        rw [LogState.unhandled, hpc, howner]
        rfl
      have hplaces : s.places = s.queue.remaining := by
        rw [LogState.places, hpc, howner]
        rfl
      simp only [LogState.work, hpc] at hstep
      obtain ⟨q, -, hreach, hproducers, ⟨rfl, -, hremaining⟩ | ⟨node, empty, rfl, hpop, hremaining⟩⟩ := h.popStep hstep
      · refine h.pass_on hreach (fun p => by rw [hproducers]) (fun p hp => by rw [hproducers, hp])
          (fun _ => Or.inl hpc) h.control.phase ?_ ?_
        · rw [hunhandled, hpc, howner, hremaining]
          rfl
        · rw [hplaces, hpc, howner, hremaining]
          rfl
      · have hbusy : ∀ {t}, q.consumer ≠ .idle → t := fun hbusy => absurd hpop.consumer hbusy
        cases node with
        | none =>
            refine h.pass_on hreach (fun p => by rw [hproducers]) (fun p hp => by rw [hproducers, hp]) hbusy
              (hphase.advance (by simp) (by simp) (by simp) (by simp)) ?_ ?_
            · rw [hunhandled, howner, hremaining]
              rfl
            · rw [hplaces, howner, hremaining]
              rfl
        | some node =>
            refine h.pass_on hreach (fun p => by rw [hproducers]) (fun p hp => by rw [hproducers, hp]) hbusy
              (hphase.advance (by simp) (by simp) (by simp) (by simp)) ?_ ?_
            · rw [hunhandled, howner, hremaining]
              rfl
            · rw [hplaces, howner, hremaining]
              rfl
  | holding node =>
      obtain ⟨howner, hdrain⟩ := h.owner_waits (by simp [hpc]) (by simp [hpc])
      have hidle := h.consumer_idle (by simp [hpc]) hdrain
      rw [hpc] at hphase
      have hmem : node ∈ s.places := by
        rw [LogState.places, hpc]
        simp [LogThreadPc.hand]
      obtain ⟨a, args, record, -, -, hrecord, -⟩ := h.release_eq hmem
      simp only [LogState.work, hpc, LogState.settle, hrecord] at hstep
      cases hstep
      refine h.relocate h.control.queue (fun _ => rfl) (fun _ hp => hp) (fun hbusy => absurd hidle hbusy)
        (hphase.advance (by simp) (by simp) (by simp) (by simp)) ?_ ?_
      · rw [LogState.unhandled, hpc, howner]
        simp [LogThreadPc.unprinted, hrecord]
      · rw [LogState.places, hpc]
        rfl
  | printed node =>
      have hidle := h.consumer_idle (by simp [hpc]) (h.owner_waits (by simp [hpc]) (by simp [hpc])).2
      rw [hpc] at hphase
      have hmem : node ∈ s.places := by
        rw [LogState.places, hpc]
        simp [LogThreadPc.hand]
      obtain ⟨a, args, record, rfl, hargs, -, hrelease⟩ := h.release_eq hmem
      simp only [LogState.work, hpc] at hstep
      cases hstep
      rw [hrelease s.handled]
      refine h.free hargs ?_ (fun hbusy => absurd hidle hbusy)
        (hphase.advance (by simp) (by simp) (by simp) (by simp)) ?_
      · rw [LogState.places, hpc]
        rfl
      · rw [LogState.unhandled, hpc]
        rfl

/-- The thread that starts and ends the log. -/
theorem LogInv.own (h : LogInv s) (hstep : s.own = some s') : LogInv s' := by
  have hphase := h.control.phase
  cases hpc : s.owner with
  | idle => simp [LogState.own, hpc] at hstep
  | created =>
      have hthread : s.thread = .waiting ∨ s.thread = .absent := by
        rw [hpc] at hphase
        cases hshutdown : s.shutdown <;> simp_all [LogPhase]
      have hidle := h.consumer_idle (by rcases hthread with hw | hw <;> simp [hw]) (by simp [hpc])
      simp only [LogState.own, hpc] at hstep
      cases hstep
      exact h.go (fun hbusy => absurd hidle hbusy) hthread (by rw [hpc]; rfl) (by rw [hpc]; rfl)
  | flagged =>
      have hthread : s.shutdown = false ∧ (s.thread = .waiting ∨ s.thread = .absent) := by
        rw [hpc] at hphase
        cases hshutdown : s.shutdown <;> simp_all [LogPhase]
      have hidle := h.consumer_idle (by rcases hthread.2 with hw | hw <;> simp [hw]) (by simp [hpc])
      simp only [LogState.own, hpc] at hstep
      cases hstep
      refine h.go (fun hbusy => absurd hidle hbusy) ?_ ?_ ?_
      · rw [hthread.1]
        rcases hthread.2 with hw | hw <;> simp [hw, LogPhase]
      · rcases hthread.2 with hw | hw <;> rw [hpc, hw] <;> rfl
      · rcases hthread.2 with hw | hw <;> rw [hpc, hw] <;> rfl
  | joining =>
      simp only [LogState.own, hpc] at hstep
      split at hstep
      · next hended =>
        cases hstep
        have hshutdown : s.shutdown = true := by
          rw [hpc] at hphase
          cases hshutdown : s.shutdown <;> simp_all [LogPhase]
        refine h.go (fun _ => Or.inr rfl) (by rw [hshutdown]; rfl) ?_ ?_
        · rcases hended with hw | hw <;> rw [hpc, hw] <;> rfl
        · rcases hended with hw | hw <;> rw [hpc, hw] <;> rfl
      · cases hstep
  | draining =>
      obtain ⟨hshutdown, hthread⟩ : s.shutdown = true ∧ s.thread = .absent := by
        rw [hpc] at hphase
        cases hshutdown : s.shutdown <;> simp_all [LogPhase]
      have hunhandled : s.unhandled = s.queue.remaining := by
        rw [LogState.unhandled, hpc, hthread]
        rfl
      have hplaces : s.places = s.queue.remaining := by
        rw [LogState.places, hpc, hthread]
        rfl
      simp only [LogState.own, hpc] at hstep
      obtain ⟨q, -, hreach, hproducers, ⟨rfl, -, hremaining⟩ | ⟨node, empty, rfl, hpop, hremaining⟩⟩ := h.popStep hstep
      · refine h.pass_on hreach (fun p => by rw [hproducers]) (fun p hp => by rw [hproducers, hp])
          (fun _ => Or.inr hpc) h.control.phase ?_ ?_
        · rw [hunhandled, hpc, hthread, hremaining]
          rfl
        · rw [hplaces, hpc, hthread, hremaining]
          rfl
      · have hbusy : ∀ {t}, q.consumer ≠ .idle → t := fun hbusy => absurd hpop.consumer hbusy
        cases node with
        | none =>
            refine h.pass_on hreach (fun p => by rw [hproducers]) (fun p hp => by rw [hproducers, hp]) hbusy ?_ ?_ ?_
            · rw [hshutdown, hthread]
              cases empty <;> rfl
            · rw [hunhandled, hthread, hremaining]
              cases empty <;> rfl
            · rw [hplaces, hthread, hremaining]
              cases empty <;> rfl
        | some node =>
            refine h.pass_on hreach (fun p => by rw [hproducers]) (fun p hp => by rw [hproducers, hp]) hbusy ?_ ?_ ?_
            · rw [hshutdown, hthread]
              rfl
            · rw [hunhandled, hthread, hremaining]
              rfl
            · rw [hplaces, hthread, hremaining]
              rfl
  | clearing node empty =>
      obtain ⟨hshutdown, hthread⟩ : s.shutdown = true ∧ s.thread = .absent := by
        rw [hpc] at hphase
        cases hshutdown : s.shutdown <;> simp_all [LogPhase]
      have hidle := h.consumer_idle (by simp [hthread]) (by simp [hpc])
      have hmem : node ∈ s.places := by
        rw [LogState.places, hpc]
        simp [LogOwnerPc.hand]
      obtain ⟨a, args, record, rfl, hargs, hrecord, hrelease⟩ := h.release_eq hmem
      have hsettle : s.settle (.item a) .discarded = { s with handled := s.handled ++ [(record, .discarded)] } := by
        rw [LogState.settle, hrecord]
      rw [LogState.own, hpc] at hstep
      cases hstep
      rw [hsettle, hrelease]
      refine h.free hargs ?_ (fun hbusy => absurd hidle hbusy) ?_ ?_
      · rw [LogState.places, hpc, hthread]
        cases empty <;> rfl
      · rw [hshutdown, hthread]
        cases empty <;> rfl
      · rw [LogState.unhandled, hpc, hthread]
        cases empty <;> simp [LogThreadPc.unprinted, LogOwnerPc.hand, hrecord]

/-- `LogStartup` is called. -/
theorem LogInv.startup (h : LogInv s) {created : Bool} (hstep : s.startup created = some s') : LogInv s' := by
  have hphase := h.control.phase
  simp only [LogState.startup] at hstep
  split at hstep
  · next hpc =>
    split at hstep
    · next hshutdown =>
      rw [hpc, hshutdown] at hphase
      have hthread : s.thread = .absent := hphase
      have hidle := h.consumer_idle (by simp [hthread]) (by simp [hpc])
      cases hstep
      refine h.go (fun hbusy => absurd hidle hbusy) ?_ ?_ ?_
      · rw [hshutdown]
        cases created <;> simp [LogPhase]
      · rw [hpc, hthread]
        cases created <;> rfl
      · rw [hpc, hthread]
        cases created <;> rfl
    · cases hstep
      exact h
  · cases hstep

/-- `LogCleanup` is called. -/
theorem LogInv.cleanup (h : LogInv s) (hstep : s.cleanup = some s') : LogInv s' := by
  have hphase := h.control.phase
  simp only [LogState.cleanup] at hstep
  split at hstep
  · next hpc =>
    split at hstep
    · cases hstep
      exact h
    · next hshutdown =>
      rw [hpc, Bool.eq_false_iff.mpr hshutdown] at hphase
      cases hstep
      refine h.go (fun hbusy => ?_) hphase.1 (by rw [hpc]; rfl) (by rw [hpc]; rfl)
      refine (h.control.consumer hbusy).imp_right fun hdrain => ?_
      rw [hpc] at hdrain
      cases hdrain
  · cases hstep

/-- Every step keeps the invariant. -/
theorem LogInv.exec (h : LogInv s) {act : LogAction n} (hstep : s.exec act = some s') : LogInv s' := by
  cases act with
  | call p file line level text message => exact h.call hstep
  | check p address => exact h.check hstep
  | exchange p => exact h.exchange hstep
  | link p => exact h.link hstep
  | setLevel level =>
      cases hstep
      exact ⟨⟨h.control.queue, h.control.consumer, h.control.phase, h.control.callers⟩, h.nodes, h.texts,
        ⟨h.order.fifo, h.order.byThread⟩, h.noFault⟩
  | setPrintCallback func =>
      cases hstep
      exact ⟨⟨h.control.queue, h.control.consumer, h.control.phase, h.control.callers⟩, h.nodes, h.texts,
        ⟨h.order.fifo, h.order.byThread⟩, h.noFault⟩
  | startup created => exact h.startup hstep
  | cleanup => exact h.cleanup hstep
  | own => exact h.own hstep
  | work => exact h.work hstep

/-- The log invariant holds at the start. -/
theorem logInv_init : LogInv (logMachine n).init where
  control := ⟨.init, fun h => absurd rfl h, rfl, fun _ h => absurd rfl h⟩
  nodes := by
    refine ⟨?_, List.nodup_nil, ?_, ?_⟩
    · intro node
      have hnone : (logMachine n).init.argsOf node = none := by cases node <;> rfl
      rw [hnone]
      constructor
      · intro hsome
        cases hsome
      · rintro (hmem | ⟨p, hp⟩)
        · cases hmem
        · cases hp
    · intro p node hp
      cases hp
    · intro p node args hp
      cases hp
  texts := by
    refine ⟨fun _ => none, ?_, ?_, ?_, ?_, List.nodup_nil, ?_⟩
    · exact fun _ => Iff.rfl
    · intro node args hargs
      cases node <;> cases hargs
    · intro p args hp
      cases hp
    · intro args hargs
      cases hargs
    · intro t h ht
      cases ht
  order := ⟨rfl, fun _ => rfl⟩
  noFault := rfl

/-- The invariant holds in every reachable state. -/
theorem logMachine_inv (hs : (logMachine n).Reachable s) : LogInv s :=
  Machine.Reaches.invariant LogInv logInv_init (fun _ _ _ _ _ h hstep => h.exec hstep) hs

end Threads

/-! ### The log as a whole -/

/-- In every state that the threads can reach, whatever they do in which order: no memory is used that is not
allocated; what was put into the queue is what was taken out of it, in the same order, and then what still waits,
each record with its node and its message; the records of one thread are in the queue in the order of its calls;
an allocated node is in one place, which is the queue, a hand, or the one thread that is about to push it; an allocated
message has one holder, which is a node, a call that is about to test its level, or nobody, and those that nobody
frees any more are the messages of the calls that did not pass the test, one for each; and there are never two threads
that pop. -/
theorem LogState.log_records {n : Nat} {s : LogState n} (hs : (logMachine n).Reachable s) :
    s.fault = false ∧
    (s.accepted = s.handled.map Prod.fst ++ s.unhandled.filterMap s.record ∧
      ∀ node ∈ s.unhandled, (s.record node).isSome) ∧
    (∀ p, s.passed.filter (·.threadid = p) = s.accepted.filter (·.threadid = p) ++ (s.pending p).toList) ∧
    ((∀ a, (s.nodes a).isSome ↔ .item a ∈ s.places ∨ ∃ p, s.queue.producers p = .stored (.item a)) ∧
      s.places.Nodup ∧
      ∀ p node, s.queue.producers p = .stored node →
        node ∉ s.places ∧ ∀ q, s.queue.producers q = .stored node → q = p) ∧
    ((∀ t, (s.texts t).isSome ↔ ∃ holder : TextHolder n, holder.Has s.argsOf s.callers s.dropped t) ∧
      (∀ t (holder holder' : TextHolder n), holder.Has s.argsOf s.callers s.dropped t →
        holder'.Has s.argsOf s.callers s.dropped t → holder = holder') ∧
      (s.dropped.map LogArgument.message).Nodup) ∧
    (s.thread = .popping → s.owner ≠ .draining) ∧
    (s.thread = .ended → s.shutdown = true) := by
  have h := logMachine_inv hs
  obtain ⟨holder, ht⟩ := h.texts
  refine ⟨h.noFault, ⟨h.order.fifo, ?_⟩, h.order.byThread,
    ⟨fun a => h.nodes.live (.item a), h.nodes.nodup, fun p node hp =>
      ⟨h.nodes.stored p node hp, (stored_outside h.control.queue hp).2.2⟩⟩,
    ⟨h.isSome_text_iff, fun _ _ _ hx hy => h.holder_unique hx hy, ht.nodup⟩, ?_, ?_⟩
  · intro node hnode
    obtain ⟨args, hargs⟩ := Option.isSome_iff_exists.mp (h.isSome_of_places (s.unhandled_subset hnode))
    obtain ⟨text, -, hrecord⟩ := h.exists_text hargs
    rw [hrecord]
    rfl
  · intro hpop
    exact (h.owner_waits (by simp [hpop]) (by simp [hpop])).2
  · intro hended
    rcases h.control.phase.running (by simp [hended]) (by simp [hended]) with ⟨-, -, hne⟩ | ⟨-, hshutdown⟩
    · exact absurd hended hne
    · exact hshutdown

/-- Two calls of one thread, the second of them below the level: the first is printed and freed, the message of
the second stays. -/
theorem LogState.log_records_below_level :
    ∃ s : LogState 1, (logMachine 1).Reachable s ∧ s.fault = false ∧
      s.handled = [(⟨"main.cc", 7, .kWarn, "first", 0⟩, .printed 0)] ∧ s.nodes 3 = none ∧
      s.texts 1 = none ∧ (s.texts 2).isSome := by
  obtain ⟨s, hrun, hshape⟩ : ∃ s, (logMachine 1).run (logMachine 1).init
      [.startup true, .own, .own, .setLevel .kWarn, .call 0 "main.cc" 7 .kWarn (some "first") 1, .check 0 3,
        .exchange 0, .link 0, .call 0 "main.cc" 8 .kInfo (some "second") 2, .check 0 4, .work, .work, .work, .work,
        .work, .work, .work, .work, .work, .work] = some s ∧
      (s.handled, s.nodes 3, s.texts 1, s.dropped) =
        ([(⟨"main.cc", 7, .kWarn, "first", 0⟩, .printed 0)], none, none, [⟨"main.cc", 8, .kInfo, 2, 0⟩]) := by
    refine Option.map_eq_some_iff.mp ?_
    decide +kernel
  simp only [Prod.mk.injEq] at hshape
  obtain ⟨hhandled, hnode, htext, hdropped⟩ := hshape
  have hrecords := LogState.log_records (Machine.reachable_of_run hrun)
  refine ⟨s, Machine.reachable_of_run hrun, hrecords.1, hhandled, hnode, htext, ?_⟩
  exact (hrecords.2.2.2.2.1.1 2).mpr ⟨.nobody, _, by rw [hdropped]; exact List.mem_cons_self, rfl⟩

end RaptorLite
