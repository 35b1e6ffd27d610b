import RaptorLite.Utils.Log

/-! # The invariant of the log

Every allocated node is in the queue, about to be pushed, or in the hand of the one thread that pops; every allocated
message belongs to one node, or to one call that has not tested its level yet, or to nobody. Here is the invariant,
what it says about memory and records, and how it is kept by a step that moves a node or frees it; the steps
themselves are in `LogRecords`. -/

namespace RaptorLite

/-- Who frees a message. -/
inductive TextHolder (n : Nat) where
  /-- Whoever frees the node. -/
  | node (node : QueueNode)
  /-- A call in progress. -/
  | caller (p : Fin n)
  /-- Nobody. -/
  | nobody

variable {n : Nat}

/-- The node that the thread that prints has in its hand. -/
def LogThreadPc.hand : LogThreadPc → List QueueNode
  | .holding node => [node]
  | .printed node => [node]
  | _ => []

/-- The node that is still to be printed. -/
def LogThreadPc.unprinted : LogThreadPc → List QueueNode
  | .holding node => [node]
  | _ => []

/-- The node that `LogCleanup` has in its hand. -/
def LogOwnerPc.hand : LogOwnerPc → List QueueNode
  | .clearing node _ => [node]
  | _ => []

/-- The nodes in somebody's hand, and those in the queue. -/
def LogState.places (s : LogState n) : List QueueNode := s.thread.hand ++ s.owner.hand ++ s.queue.remaining

/-- The nodes that were pushed and whose record has not been settled. -/
def LogState.unhandled (s : LogState n) : List QueueNode :=
  s.thread.unprinted ++ s.owner.hand ++ s.queue.remaining

/-- The node that a producer is about to exchange. -/
def ProducerPc.entering : ProducerPc → Option QueueNode
  | .stored node => some node
  | _ => none

/-- A producer is about to exchange a node exactly when it has stored it and not yet linked it in. -/
theorem ProducerPc.entering_eq_some {pc : ProducerPc} {node : QueueNode} :
    pc.entering = some node ↔ pc = .stored node := by
  cases pc <;> simp [entering]

/-- The record that the thread is pushing, before it is in the queue. -/
def LogState.pending (s : LogState n) (p : Fin n) : Option (LogRecord n) :=
  (s.queue.producers p).entering.bind s.record

/-- Where the thread that prints can be while the owner is at its place. -/
def LogPhase : LogOwnerPc → Bool → LogThreadPc → Prop
  | .idle, true, t => t = .absent
  | .idle, false, t => t ≠ .waiting ∧ t ≠ .ended
  | .created, true, t => t = .waiting ∨ t = .absent
  | .flagged, false, t => t = .waiting ∨ t = .absent
  | .joining, true, t => t ≠ .waiting
  | .draining, true, t => t = .absent
  | .clearing _ _, true, t => t = .absent
  | _, _, _ => False

/-! ### The parts of the invariant -/

/-- The queue, and who is where. -/
structure LogControl (s : LogState n) : Prop where
  /-- The queue is used as it should be. -/
  queue : (mpscMachine n).Reachable s.queue
  /-- Whoever is in a pop. -/
  consumer : s.queue.consumer ≠ .idle → s.thread = .popping ∨ s.owner = .draining
  /-- One thread at most pops. -/
  phase : LogPhase s.owner s.shutdown s.thread
  /-- A call that has not tested its level is not in `push`. -/
  callers : ∀ p, s.callers p ≠ .idle → s.queue.producers p = .idle

/-- The allocated nodes are those in the queue, in somebody's hand, and about to be pushed. -/
structure NodesOk (argsOf : QueueNode → Option (LogArgument n)) (places : List QueueNode)
    (producers : Fin n → ProducerPc) : Prop where
  /-- Where an allocated node is. -/
  live : ∀ node, (argsOf node).isSome ↔ node ∈ places ∨ ∃ p, producers p = .stored node
  /-- No node is in two places. -/
  nodup : places.Nodup
  /-- A node about to be pushed is in none. -/
  stored : ∀ p node, producers p = .stored node → node ∉ places
  /-- A thread pushes its own records. -/
  thread : ∀ p node args, producers p = .stored node → argsOf node = some args → args.threadid = p

/-- What the holder of a message has. -/
def TextHolder.Has (argsOf : QueueNode → Option (LogArgument n)) (callers : Fin n → LogCallerPc n)
    (dropped : List (LogArgument n)) (t : Nat) : TextHolder n → Prop
  | .node x => ∃ args, argsOf x = some args ∧ args.message = t
  | .caller p => ∃ args, callers p = .formatted args ∧ args.message = t
  | .nobody => ∃ args ∈ dropped, args.message = t

/-- Every allocated message has one holder. -/
structure TextsOk (texts : Nat → Option String) (argsOf : QueueNode → Option (LogArgument n))
    (callers : Fin n → LogCallerPc n) (dropped : List (LogArgument n)) (holder : Nat → Option (TextHolder n)) :
    Prop where
  /-- The allocated messages are those that have a holder. -/
  allocated : ∀ t, (texts t).isSome ↔ (holder t).isSome
  /-- A node holds its message. -/
  node : ∀ node args, argsOf node = some args → holder args.message = some (.node node)
  /-- A call holds its message. -/
  caller : ∀ p args, callers p = .formatted args → holder args.message = some (.caller p) ∧ args.threadid = p
  /-- Nobody holds the message of a call that did not pass. -/
  nobody : ∀ args ∈ dropped, holder args.message = some .nobody
  /-- No two calls that did not pass share a message. -/
  nodup : (dropped.map LogArgument.message).Nodup
  /-- The holder has the message. -/
  has : ∀ t h, holder t = some h → h.Has argsOf callers dropped t

/-- The order of the records. -/
structure OrderOk (s : LogState n) : Prop where
  /-- First in, first out. -/
  fifo : s.accepted = s.handled.map Prod.fst ++ s.unhandled.filterMap s.record
  /-- The records of one thread. -/
  byThread : ∀ p, s.passed.filter (·.threadid = p) = s.accepted.filter (·.threadid = p) ++ (s.pending p).toList

/-- The invariant. -/
structure LogInv (s : LogState n) : Prop where
  /-- Who is where. -/
  control : LogControl s
  /-- The nodes. -/
  nodes : NodesOk s.argsOf s.places s.queue.producers
  /-- The messages. -/
  texts : ∃ holder, TextsOk s.texts s.argsOf s.callers s.dropped holder
  /-- The records. -/
  order : OrderOk s
  /-- Nothing has gone wrong. -/
  noFault : s.fault = false

/-! ### Memory -/

section Memory

variable {s s' : LogState n} {texts : Nat → Option String} {argsOf : QueueNode → Option (LogArgument n)}
  {callers : Fin n → LogCallerPc n} {dropped : List (LogArgument n)} {holder : Nat → Option (TextHolder n)}
  {args : LogArgument n} {node : QueueNode} {p : Fin n}

/-- The texts of a state depend on its cells alone: updating a cell updates the texts there. -/
theorem LogState.argsOf_setNode (s : LogState n) (a : Nat) (v : Option (LogArgument n)) :
    LogState.argsOf { s with nodes := Function.update s.nodes a v } =
      Function.update s.argsOf (.item a) v := by
  funext node
  cases node with
  | stub => rw [Function.update_of_ne (by simp)]; rfl
  | item b =>
      by_cases hb : b = a
      · subst hb
        rw [Function.update_self]
        exact Function.update_self _ _ _
      · rw [Function.update_of_ne (by simpa using hb)]
        exact Function.update_of_ne hb _ _

/-- Whoever has a message is its holder. -/
theorem TextsOk.holder_eq (h : TextsOk texts argsOf callers dropped holder) {t : Nat} {x : TextHolder n}
    (hx : x.Has argsOf callers dropped t) : holder t = some x := by
  cases x with
  | node node =>
      obtain ⟨args, hargs, rfl⟩ := hx
      exact h.node node args hargs
  | caller p =>
      obtain ⟨args, hp, rfl⟩ := hx
      exact (h.caller p args hp).1
  | nobody =>
      obtain ⟨args, hargs, rfl⟩ := hx
      exact h.nobody args hargs

/-- A message is formatted. -/
theorem TextsOk.alloc (h : TextsOk texts argsOf callers dropped holder) (args : LogArgument n)
    (ht : texts args.message = none) (hidle : callers p = .idle) (hthread : args.threadid = p) (text : String) :
    TextsOk (Function.update texts args.message (some text)) argsOf
      (Function.update callers p (.formatted args)) dropped
      (Function.update holder args.message (some (.caller p))) := by
  have hnone : holder args.message = none := by
    have hiff := h.allocated args.message
    rw [ht] at hiff
    simpa using hiff
  -- messages that have a holder are not touched
  have hother : ∀ {t' h'}, holder t' = some h' →
      Function.update holder args.message (some (.caller p)) t' = some h' := by
    intro t' h' hh
    rw [Function.update_of_ne ?_, hh]
    rintro rfl
    rw [hnone] at hh
    cases hh
  refine ⟨?_, ?_, ?_, ?_, h.nodup, ?_⟩
  · intro t
    by_cases hta : t = args.message
    · subst hta
      simp
    · rw [Function.update_of_ne hta, Function.update_of_ne hta]
      exact h.allocated t
  · intro node' args' hargs
    exact hother (h.node node' args' hargs)
  · intro q args' hq
    by_cases hqp : q = p
    · subst hqp
      rw [Function.update_self] at hq
      cases hq
      exact ⟨Function.update_self _ _ _, hthread⟩
    · rw [Function.update_of_ne hqp] at hq
      exact ⟨hother (h.caller q args' hq).1, (h.caller q args' hq).2⟩
  · intro args' hargs
    exact hother (h.nobody args' hargs)
  · intro t h' hh
    by_cases hta : t = args.message
    · subst hta
      rw [Function.update_self] at hh
      cases hh
      exact ⟨args, Function.update_self _ _ _, rfl⟩
    · rw [Function.update_of_ne hta] at hh
      have hhas := h.has t h' hh
      cases h' with
      | node node' => exact hhas
      | nobody => exact hhas
      | caller q =>
          obtain ⟨args', hq, hmsg⟩ := hhas
          refine ⟨args', ?_, hmsg⟩
          rw [Function.update_of_ne ?_, hq]
          rintro rfl
          rw [hidle] at hq
          cases hq

/-- A call gives its message away: to a new node, or to nobody. -/
theorem TextsOk.give (h : TextsOk texts argsOf callers dropped holder) (hp : callers p = .formatted args)
    {argsOf' : QueueNode → Option (LogArgument n)} {dropped' : List (LogArgument n)} {h' : TextHolder n}
    (hhas : h'.Has argsOf' (Function.update callers p .idle) dropped' args.message)
    (hnode : ∀ node args', argsOf' node = some args' →
      argsOf node = some args' ∨ (h' = .node node ∧ args'.message = args.message))
    (hkeep : ∀ node args', argsOf node = some args' → argsOf' node = some args')
    (hdropped : ∀ args' ∈ dropped', args' ∈ dropped ∨ (h' = .nobody ∧ args'.message = args.message))
    (hsub : dropped ⊆ dropped') (hnodup : (dropped'.map LogArgument.message).Nodup) :
    TextsOk texts argsOf' (Function.update callers p .idle) dropped'
      (Function.update holder args.message (some h')) := by
  have hholder : holder args.message = some (.caller p) := (h.caller p args hp).1
  have hother : ∀ {t' h''}, holder t' = some h'' → h'' ≠ .caller p →
      Function.update holder args.message (some h') t' = some h'' := by
    intro t' h'' hh hne
    rw [Function.update_of_ne ?_, hh]
    rintro rfl
    rw [hholder, Option.some.injEq] at hh
    exact hne hh.symm
  refine ⟨?_, ?_, ?_, ?_, hnodup, ?_⟩
  · intro t
    by_cases hta : t = args.message
    · subst hta
      rw [h.allocated, Function.update_self, hholder]
      simp
    · rw [Function.update_of_ne hta]
      exact h.allocated t
  · intro node' args' hargs
    rcases hnode node' args' hargs with hold | ⟨rfl, hmsg⟩
    · exact hother (h.node node' args' hold) (by simp)
    · rw [hmsg, Function.update_self]
  · intro q args' hq
    by_cases hqp : q = p
    · subst hqp
      rw [Function.update_self] at hq
      cases hq
    · rw [Function.update_of_ne hqp] at hq
      exact ⟨hother (h.caller q args' hq).1 (by simpa using hqp), (h.caller q args' hq).2⟩
  · intro args' hargs
    rcases hdropped args' hargs with hold | ⟨rfl, hmsg⟩
    · exact hother (h.nobody args' hold) (by simp)
    · rw [hmsg, Function.update_self]
  · intro t h'' hh
    by_cases hta : t = args.message
    · subst hta
      rw [Function.update_self] at hh
      cases hh
      exact hhas
    · rw [Function.update_of_ne hta] at hh
      have hold := h.has t h'' hh
      cases h'' with
      | node node' =>
          obtain ⟨args', hargs, hmsg⟩ := hold
          exact ⟨args', hkeep node' args' hargs, hmsg⟩
      | nobody =>
          obtain ⟨args', hargs, hmsg⟩ := hold
          exact ⟨args', hsub hargs, hmsg⟩
      | caller q =>
          obtain ⟨args', hq, hmsg⟩ := hold
          refine ⟨args', ?_, hmsg⟩
          rw [Function.update_of_ne ?_, hq]
          rintro rfl
          rw [hp] at hq
          cases hq
          exact hta hmsg.symm

/-- A node is freed with its message. -/
theorem TextsOk.free (h : TextsOk texts argsOf callers dropped holder) (hnode : argsOf node = some args) :
    TextsOk (Function.update texts args.message none) (Function.update argsOf node none) callers dropped
      (Function.update holder args.message none) := by
  have hholder := h.node node args hnode
  have hother : ∀ {t' h'}, holder t' = some h' → h' ≠ .node node →
      Function.update holder args.message none t' = some h' := by
    intro t' h' hh hne
    rw [Function.update_of_ne ?_, hh]
    rintro rfl
    rw [hholder, Option.some.injEq] at hh
    exact hne hh.symm
  refine ⟨?_, ?_, ?_, ?_, h.nodup, ?_⟩
  · intro t
    by_cases hta : t = args.message
    · subst hta
      simp
    · rw [Function.update_of_ne hta, Function.update_of_ne hta]
      exact h.allocated t
  · intro node' args' hargs
    by_cases hn : node' = node
    · subst hn
      rw [Function.update_self] at hargs
      cases hargs
    · rw [Function.update_of_ne hn] at hargs
      exact hother (h.node node' args' hargs) (by simpa using hn)
  · intro q args' hq
    exact ⟨hother (h.caller q args' hq).1 (by simp), (h.caller q args' hq).2⟩
  · intro args' hargs
    exact hother (h.nobody args' hargs) (by simp)
  · intro t h' hh
    by_cases hta : t = args.message
    · subst hta
      rw [Function.update_self] at hh
      cases hh
    · rw [Function.update_of_ne hta] at hh
      have hold := h.has t h' hh
      cases h' with
      | caller q => exact hold
      | nobody => exact hold
      | node node' =>
          obtain ⟨args', hargs, hmsg⟩ := hold
          refine ⟨args', ?_, hmsg⟩
          rw [Function.update_of_ne ?_, hargs]
          rintro rfl
          rw [hnode] at hargs
          cases hargs
          exact hta hmsg.symm

end Memory

/-! ### Records of live nodes -/

section Records

variable {s s' : LogState n} {node : QueueNode} {args : LogArgument n} {p : Fin n}

/-- What the log thread has not printed is part of what it holds. -/
theorem LogThreadPc.unprinted_subset (t : LogThreadPc) : t.unprinted ⊆ t.hand := by
  cases t <;> simp [unprinted, hand]

/-- The messages that are still to be printed lie at places of the state. -/
theorem LogState.unhandled_subset (s : LogState n) : s.unhandled ⊆ s.places := by
  intro node hnode
  simp only [unhandled, places, List.mem_append] at hnode ⊢
  rcases hnode with (hunprinted | howner) | hqueue
  · exact Or.inl (Or.inl (s.thread.unprinted_subset hunprinted))
  · exact Or.inl (Or.inr howner)
  · exact Or.inr hqueue

/-- A node at a place of the state has its texts. -/
theorem LogInv.isSome_of_places (h : LogInv s) (hnode : node ∈ s.places) : (s.argsOf node).isSome :=
  (h.nodes.live node).mpr (Or.inl hnode)

/-- A node that a producer has stored has its texts. -/
theorem LogInv.isSome_of_stored (h : LogInv s) (hp : s.queue.producers p = .stored node) :
    (s.argsOf node).isSome :=
  (h.nodes.live node).mpr (Or.inr ⟨p, hp⟩)

/-- An allocated node has a message. -/
theorem LogInv.exists_text (h : LogInv s) (hargs : s.argsOf node = some args) :
    ∃ text, s.texts args.message = some text ∧ s.record node = some (args.record text) := by
  obtain ⟨holder, ht⟩ := h.texts
  have hsome := (ht.allocated args.message).mpr (by rw [ht.node node args hargs]; rfl)
  obtain ⟨text, htext⟩ := Option.isSome_iff_exists.mp hsome
  refine ⟨text, htext, ?_⟩
  rw [LogState.record, hargs, Option.bind_some, htext]
  rfl

/-- An allocated message is held, and what is held is allocated. -/
theorem LogInv.isSome_text_iff (h : LogInv s) (t : Nat) :
    (s.texts t).isSome ↔ ∃ holder : TextHolder n, holder.Has s.argsOf s.callers s.dropped t := by
  obtain ⟨holder, ht⟩ := h.texts
  rw [ht.allocated t]
  constructor
  · intro hsome
    obtain ⟨x, hx⟩ := Option.isSome_iff_exists.mp hsome
    exact ⟨x, ht.has t x hx⟩
  · rintro ⟨x, hx⟩
    rw [ht.holder_eq hx]
    rfl

/-- Nobody else holds it. -/
theorem LogInv.holder_unique (h : LogInv s) {t : Nat} {x y : TextHolder n}
    (hx : x.Has s.argsOf s.callers s.dropped t) (hy : y.Has s.argsOf s.callers s.dropped t) : x = y := by
  obtain ⟨holder, ht⟩ := h.texts
  exact Option.some.inj ((ht.holder_eq hx).symm.trans (ht.holder_eq hy))

/-- Whose message an allocated one is: a node's, a call's or nobody's. -/
theorem LogInv.texts_iff (h : LogInv s) (t : Nat) :
    (s.texts t).isSome ↔ (∃ a args, s.nodes a = some args ∧ args.message = t) ∨
      (∃ p args, s.callers p = .formatted args ∧ args.message = t) ∨ ∃ args ∈ s.dropped, args.message = t := by
  rw [h.isSome_text_iff t]
  constructor
  · rintro ⟨x, hx⟩
    cases x with
    | node node =>
        obtain ⟨args, hargs, hmsg⟩ := hx
        cases node with
        | stub => cases hargs
        | item a => exact Or.inl ⟨a, args, hargs, hmsg⟩
    | caller p =>
        obtain ⟨args, hp, hmsg⟩ := hx
        exact Or.inr (Or.inl ⟨p, args, hp, hmsg⟩)
    | nobody => exact Or.inr (Or.inr hx)
  · rintro (⟨a, args, hargs, hmsg⟩ | ⟨p, args, hp, hmsg⟩ | hdropped)
    · exact ⟨.node (.item a), args, hargs, hmsg⟩
    · exact ⟨.caller p, args, hp, hmsg⟩
    · exact ⟨.nobody, hdropped⟩

/-- The record of a node depends on the node and its message only. -/
theorem LogState.record_congr (hargs : s'.argsOf node = s.argsOf node)
    (htext : ∀ args, s.argsOf node = some args → s'.texts args.message = s.texts args.message) :
    s'.record node = s.record node := by
  rw [LogState.record, LogState.record, hargs]
  cases hnode : s.argsOf node with
  | none => rfl
  | some args => rw [Option.bind_some, Option.bind_some, htext args hnode]

/-- The same histories over the same nodes. -/
theorem OrderOk.congr (h : OrderOk s) (hpassed : s'.passed = s.passed) (haccepted : s'.accepted = s.accepted)
    (hfifo : s'.handled.map Prod.fst ++ s'.unhandled.filterMap s.record =
      s.handled.map Prod.fst ++ s.unhandled.filterMap s.record)
    (hproducers : ∀ p, (s'.queue.producers p).entering = (s.queue.producers p).entering)
    (hunhandled : ∀ node ∈ s'.unhandled, s'.record node = s.record node)
    (hstored : ∀ p node, s.queue.producers p = .stored node → s'.record node = s.record node) : OrderOk s' where
  fifo := by
    rw [haccepted, h.fifo, ← hfifo]
    exact congrArg _ (List.filterMap_congr hunhandled).symm
  byThread p := by
    have hpending : s'.pending p = s.pending p := by
      rw [LogState.pending, LogState.pending, hproducers p]
      cases hp : (s.queue.producers p).entering with
      | none => rfl
      | some node => exact hstored p node (ProducerPc.entering_eq_some.mp hp)
    rw [hpassed, haccepted, hpending]
    exact h.byThread p

end Records

/-! ### Steps that move nodes -/

section Moves

variable {s s' : LogState n} {p : Fin n} {node : QueueNode} {args : LogArgument n} {q : MpscState n}
  {thread : LogThreadPc} {owner : LogOwnerPc} {shutdown : Bool} {a : Nat}

/-- A step of the queue that touches live nodes only. -/
theorem LogState.queueStep_of_live {act : MpscAction n} (hq : (mpscMachine n).Reachable s.queue)
    (hlive : ∀ node ∈ s.queue.remaining, s.live node = true) (hpush : ∀ p node, act = .push p node → s.live node = true)
    (hstep : s.queueStep act = some s') :
    ∃ q, s.queue.step act = some q ∧ (mpscMachine n).Reachable q ∧ s' = { s with queue := q } := by
  obtain ⟨q, hqueue, rfl⟩ := Option.map_eq_some_iff.mp hstep
  have hnone : ((s.queue.touched act).any fun node => !s.live node) = false := by
    rw [List.any_eq_false]
    intro node hnode
    have hnode : s.live node = true := by
      rcases touched_live hq hnode with rfl | hqueue | ⟨p, rfl⟩
      · rfl
      · exact hlive node hqueue
      · exact hpush p node rfl
    simp [hnode]
  refine ⟨q, hqueue, hq.step trivial hqueue, ?_⟩
  rw [hnone, Bool.or_false]

/-- The nodes left in the queue are allocated. -/
theorem LogInv.live (h : LogInv s) (hnode : node ∈ s.queue.remaining) : s.live node = true := by
  have hsome := h.isSome_of_places (List.mem_append_right _ hnode)
  simp [LogState.live, hsome]

/-- A step of the queue that does not start a push. -/
theorem LogInv.queueStep (h : LogInv s) {act : MpscAction n} (hact : ∀ p node, act ≠ .push p node)
    (hstep : s.queueStep act = some s') :
    ∃ q, s.queue.step act = some q ∧ (mpscMachine n).Reachable q ∧ s' = { s with queue := q } :=
  LogState.queueStep_of_live h.control.queue (fun _ hnode => h.live hnode)
    (fun p node heq => absurd heq (hact p node)) hstep

/-- The invariant on nodes reads the places and, of the producers, only what they are about to link. -/
theorem NodesOk.congr {argsOf : QueueNode → Option (LogArgument n)} {places places' : List QueueNode}
    {producers producers' : Fin n → ProducerPc} (h : NodesOk argsOf places producers) (hplaces : places' = places)
    (hentering : ∀ p, (producers' p).entering = (producers p).entering) : NodesOk argsOf places' producers' := by
  subst hplaces
  have hstored : ∀ p node, producers' p = .stored node ↔ producers p = .stored node := by
    intro p node
    rw [← ProducerPc.entering_eq_some, hentering p, ProducerPc.entering_eq_some]
  refine ⟨?_, h.nodup, ?_, ?_⟩
  · intro node
    rw [h.live node]
    exact or_congr Iff.rfl (exists_congr fun p => (hstored p node).symm)
  · intro p node hp
    exact h.stored p node ((hstored p node).mp hp)
  · intro p node args hp
    exact h.thread p node args ((hstored p node).mp hp)

/-- The threads move on, nodes go from the front of the queue into a hand or stay where they are, and no memory is
allocated or freed. -/
theorem LogInv.relocate (h : LogInv s) {handled : List (LogRecord n × LogFate)}
    (hqueue : (mpscMachine n).Reachable q)
    (hentering : ∀ p, (q.producers p).entering = (s.queue.producers p).entering)
    (hidle : ∀ p, s.queue.producers p = .idle → q.producers p = .idle)
    (hconsumer : q.consumer ≠ .idle → thread = .popping ∨ owner = .draining)
    (hphase : LogPhase owner shutdown thread)
    (hfifo : handled.map Prod.fst ++ (thread.unprinted ++ owner.hand ++ q.remaining).filterMap s.record =
      s.handled.map Prod.fst ++ s.unhandled.filterMap s.record)
    (hplaces : thread.hand ++ owner.hand ++ q.remaining = s.places) :
    LogInv { s with queue := q, thread := thread, owner := owner, shutdown := shutdown, handled := handled } where
  control := ⟨hqueue, hconsumer, hphase, fun p hp => hidle p (h.control.callers p hp)⟩
  nodes := h.nodes.congr hplaces hentering
  texts := h.texts
  order := h.order.congr rfl rfl hfifo hentering (fun _ _ => rfl) (fun _ _ _ => rfl)
  noFault := h.noFault

/-- The same, and no record is settled. -/
theorem LogInv.pass_on (h : LogInv s) (hqueue : (mpscMachine n).Reachable q)
    (hentering : ∀ p, (q.producers p).entering = (s.queue.producers p).entering)
    (hidle : ∀ p, s.queue.producers p = .idle → q.producers p = .idle)
    (hconsumer : q.consumer ≠ .idle → thread = .popping ∨ owner = .draining)
    (hphase : LogPhase owner shutdown thread)
    (hunhandled : thread.unprinted ++ owner.hand ++ q.remaining = s.unhandled)
    (hplaces : thread.hand ++ owner.hand ++ q.remaining = s.places) :
    LogInv { s with queue := q, thread := thread, owner := owner, shutdown := shutdown } :=
  h.relocate hqueue hentering hidle hconsumer hphase
    (congrArg (fun l => s.handled.map Prod.fst ++ l.filterMap s.record) hunhandled) hplaces

/-- The same, and the queue is as it was. -/
theorem LogInv.go (h : LogInv s) (hconsumer : s.queue.consumer ≠ .idle → thread = .popping ∨ owner = .draining)
    (hphase : LogPhase owner shutdown thread)
    (hunhandled : thread.unprinted ++ owner.hand = s.thread.unprinted ++ s.owner.hand)
    (hplaces : thread.hand ++ owner.hand = s.thread.hand ++ s.owner.hand) :
    LogInv { s with thread := thread, owner := owner, shutdown := shutdown } :=
  h.pass_on h.control.queue (fun _ => rfl) (fun _ h => h) hconsumer hphase
    (congrArg (· ++ s.queue.remaining) hunhandled) (congrArg (· ++ s.queue.remaining) hplaces)

/-- The node in a hand is freed with its message. -/
theorem LogInv.free (h : LogInv s) {handled : List (LogRecord n × LogFate)} (hargs : s.nodes a = some args)
    (hplaces : s.places = .item a :: (thread.hand ++ owner.hand ++ s.queue.remaining))
    (hconsumer : s.queue.consumer ≠ .idle → thread = .popping ∨ owner = .draining)
    (hphase : LogPhase owner s.shutdown thread)
    (hfifo : handled.map Prod.fst ++ (thread.unprinted ++ owner.hand ++ s.queue.remaining).filterMap s.record =
      s.handled.map Prod.fst ++ s.unhandled.filterMap s.record) :
    LogInv { s with
      nodes := Function.update s.nodes a none
      texts := Function.update s.texts args.message none
      thread := thread
      owner := owner
      handled := handled } := by
  obtain ⟨holder, ht⟩ := h.texts
  have hnode : s.argsOf (.item a) = some args := hargs
  have hnodup := h.nodes.nodup
  rw [hplaces, List.nodup_cons] at hnodup
  have hstored : ∀ p, s.queue.producers p ≠ .stored (.item a) := fun p hp =>
    h.nodes.stored p _ hp (by rw [hplaces]; exact List.mem_cons_self)
  -- the records of the other nodes are not touched
  have hrecord : ∀ node, node ≠ .item a →
      LogState.record { s with
        nodes := Function.update s.nodes a none
        texts := Function.update s.texts args.message none } node = s.record node := by
    intro node hne
    refine LogState.record_congr ?_ ?_
    · exact (congrFun (s.argsOf_setNode a none) node).trans (Function.update_of_ne hne _ _)
    · intro args' hargs'
      refine Function.update_of_ne ?_ _ _
      intro hmsg
      have hholder := ht.node node args' hargs'
      rw [hmsg, ht.node _ args hnode, Option.some.injEq, TextHolder.node.injEq] at hholder
      exact hne hholder.symm
  have hargsOf := s.argsOf_setNode a none
  refine ⟨⟨h.control.queue, hconsumer, hphase, h.control.callers⟩, ?_,
    ⟨Function.update holder args.message none, ?_⟩, ?_, h.noFault⟩
  · show NodesOk (LogState.argsOf { s with nodes := Function.update s.nodes a none })
      (thread.hand ++ owner.hand ++ s.queue.remaining) s.queue.producers
    rw [hargsOf]
    refine ⟨?_, hnodup.2, ?_, ?_⟩
    · intro node
      by_cases hn : node = .item a
      · subst hn
        rw [Function.update_self]
        constructor
        · intro hsome
          cases hsome
        · rintro (hmem | ⟨p, hp⟩)
          · exact absurd hmem hnodup.1
          · exact absurd hp (hstored p)
      · rw [Function.update_of_ne hn, h.nodes.live node, hplaces, List.mem_cons]
        simp [hn]
    · intro p node hp hmem
      exact h.nodes.stored p node hp (by rw [hplaces]; exact List.mem_cons_of_mem _ hmem)
    · intro p node args' hp hargs'
      have hne : node ≠ .item a := by
        rintro rfl
        exact hstored p hp
      rw [Function.update_of_ne hne] at hargs'
      exact h.nodes.thread p node args' hp hargs'
  · show TextsOk _ (LogState.argsOf { s with nodes := Function.update s.nodes a none }) _ _ _
    rw [hargsOf]
    exact ht.free hnode
  · refine h.order.congr rfl rfl hfifo (fun _ => rfl) ?_ ?_
    · intro node hmem
      refine hrecord node ?_
      rintro rfl
      refine hnodup.1 ?_
      have hsub : ∀ x ∈ thread.unprinted ++ owner.hand ++ s.queue.remaining,
          x ∈ thread.hand ++ owner.hand ++ s.queue.remaining := by
        intro x hx
        simp only [List.mem_append] at hx ⊢
        exact hx.imp_left (Or.imp_left fun hu => thread.unprinted_subset hu)
      exact hsub _ hmem
    · intro p node hp
      refine hrecord node ?_
      rintro rfl
      exact hstored p hp

end Moves

end RaptorLite
