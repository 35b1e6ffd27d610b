import Mathlib.Data.Fintype.Basic
import Mathlib.Logic.Relation
import RaptorLite.Foundations.LinkedChain
import RaptorLite.Foundations.Machine

/-! # The multi-producer single-consumer queue

`MultiProducerSingleConsumerQueue` (`utils/mpscq.cc`) as a machine whose steps are the single atomic
accesses of `push` and `PopAndCheckEnd`, in a sequentially consistent memory: any number of producers
and one consumer, which itself pushes the stub node when it takes the last element.

The state holds the program's variables and, as histories, the nodes in the order of their exchanges,
the nodes returned, and the results of the pops. The nodes that are in the queue form a `Chain` from
`_oldest` to `_newest` whose links may be missing in several places at once; the histories differ by
the elements of that chain. -/

namespace RaptorLite

/-- A node of the queue: the queue's own `_stub`, or one that a producer pushes. -/
inductive QueueNode where
  /-- `_stub`. -/
  | stub
  /-- A node at some address. -/
  | item (address : Nat)
  deriving DecidableEq, Repr

/-- Where a producer stands in `push`. -/
inductive ProducerPc where
  /-- Not in `push`. -/
  | idle
  /-- `node->next` was cleared; about to exchange `_newest`. -/
  | stored (node : QueueNode)
  /-- `_newest` was exchanged; about to store `prev->next`. -/
  | exchanged (node prev : QueueNode)
  deriving DecidableEq, Repr

/-- Where the consumer stands in `PopAndCheckEnd`. -/
inductive ConsumerPc where
  /-- Not in `PopAndCheckEnd`. -/
  | idle
  /-- `_oldest` was moved off the stub to `tail`; about to load `tail->next`. -/
  | reload (tail : QueueNode)
  /-- `tail->next` was null; about to load `_newest`. -/
  | loadNewest (tail : QueueNode)
  /-- `tail` was the newest node; about to clear `_stub.next`. -/
  | stubStore (tail : QueueNode)
  /-- About to exchange `_newest` with the stub. -/
  | stubExchange (tail : QueueNode)
  /-- About to link the stub behind `prev`. -/
  | stubLink (tail prev : QueueNode)
  /-- The stub was pushed; about to load `tail->next` once more. -/
  | final (tail : QueueNode)
  deriving DecidableEq, Repr

/-- The local variable `tail`, once it is settled. -/
def ConsumerPc.tail : ConsumerPc → Option QueueNode
  | .idle => none
  | .reload tail => some tail
  | .loadNewest tail => some tail
  | .stubStore tail => some tail
  | .stubExchange tail => some tail
  | .stubLink tail _ => some tail
  | .final tail => some tail

/-- The queue with `n` producers and its histories. -/
structure MpscState (n : Nat) where
  /-- `next` of every node. -/
  next : QueueNode → Option QueueNode
  /-- `_newest`. -/
  newest : QueueNode
  /-- `_oldest`. -/
  oldest : QueueNode
  /-- The producers. -/
  producers : Fin n → ProducerPc
  /-- The consumer. -/
  consumer : ConsumerPc
  /-- The pushed nodes, in the order of their exchanges. -/
  exchanged : List QueueNode
  /-- The finished pushes with what `push` returned: whether the queue was empty. -/
  pushed : List (QueueNode × Bool)
  /-- The nodes returned by the consumer, in order. -/
  returned : List QueueNode
  /-- What each pop returned, and what it left in `*empty`. -/
  results : List (Option QueueNode × Bool)

/-- The atomic steps. -/
inductive MpscAction (n : Nat) where
  /-- Producer `p` enters `push` with a node and clears its `next`. -/
  | push (p : Fin n) (node : QueueNode)
  /-- Producer `p` exchanges `_newest`. -/
  | exchange (p : Fin n)
  /-- Producer `p` stores `prev->next` and returns. -/
  | link (p : Fin n)
  /-- The consumer's next access, starting a new pop if it is in none. -/
  | consume
  deriving DecidableEq, Repr

namespace MpscState

variable {n : Nat}

/-- The node was pushed and has not been returned since. -/
def InQueue (s : MpscState n) (node : QueueNode) : Prop :=
  s.returned.count node < s.exchanged.count node

instance (s : MpscState n) (node : QueueNode) : Decidable (s.InQueue node) :=
  inferInstanceAs (Decidable (_ < _))

/-- `PopAndCheckEnd` returns. -/
def popReturn (s : MpscState n) (node : Option QueueNode) (empty : Bool) : MpscState n :=
  { s with
    consumer := .idle
    returned := s.returned ++ node.toList
    results := s.results ++ [(node, empty)] }

/-- `*empty = false; _oldest = obj; return tail;` -/
def take (s : MpscState n) (tail obj : QueueNode) : MpscState n :=
  ({ s with oldest := obj }).popReturn (some tail) false

/-- The consumer's next atomic access, with the local computation behind it. -/
def consume (s : MpscState n) : MpscState n :=
  match s.consumer with
  | .idle =>
      if s.oldest = .stub then
        match s.next .stub with
        -- the list is empty
        | none => s.popReturn none true
        | some obj => { s with oldest := obj, consumer := .reload obj }
      else
        match s.next s.oldest with
        | some obj => s.take s.oldest obj
        | none => { s with consumer := .loadNewest s.oldest }
  | .reload tail =>
      match s.next tail with
      | some obj => s.take tail obj
      | none => { s with consumer := .loadNewest tail }
  | .loadNewest tail =>
      -- another node was exchanged and is not linked yet
      if tail ≠ s.newest then s.popReturn none false
      else { s with consumer := .stubStore tail }
  -- `push(&_stub)` in three accesses
  | .stubStore tail =>
      { s with next := Function.update s.next .stub none, consumer := .stubExchange tail }
  | .stubExchange tail => { s with newest := .stub, consumer := .stubLink tail s.newest }
  | .stubLink tail prev =>
      { s with next := Function.update s.next prev (some .stub), consumer := .final tail }
  | .final tail =>
      match s.next tail with
      | some obj => s.take tail obj
      | none => s.popReturn none false

/-- One step. A node is pushed only when it is not in the queue and no other producer is pushing it. -/
def step (s : MpscState n) : MpscAction n → Option (MpscState n)
  | .push p node =>
      if s.producers p = .idle ∧ node ≠ .stub ∧ ¬ s.InQueue node ∧
          ∀ q, s.producers q ≠ .stored node then
        some { s with
          next := Function.update s.next node none
          producers := Function.update s.producers p (.stored node) }
      else none
  | .exchange p =>
      match s.producers p with
      | .stored node =>
          some { s with
            newest := node
            producers := Function.update s.producers p (.exchanged node s.newest)
            exchanged := s.exchanged ++ [node] }
      | _ => none
  | .link p =>
      match s.producers p with
      | .exchanged node prev =>
          some { s with
            next := Function.update s.next prev (some node)
            producers := Function.update s.producers p .idle
            pushed := s.pushed ++ [(node, decide (prev = .stub))] }
      | _ => none
  | .consume => some s.consume

end MpscState

/-- The queue behind its constructor. -/
def mpscMachine (n : Nat) : Machine (MpscState n) (MpscAction n) where
  init :=
    { next := fun _ => none, newest := .stub, oldest := .stub, producers := fun _ => .idle,
      consumer := .idle, exchanged := [], pushed := [], returned := [], results := [] }
  step := MpscState.step

/-! ### The invariant -/

section Invariant

variable {n : Nat} {producers : Fin n → ProducerPc} {consumer : ConsumerPc}
  {next : QueueNode → Option QueueNode} {l : List QueueNode} {p : Fin n} {node prev : QueueNode}

/-- A link that a producer, or the consumer for the stub, has yet to store. -/
def PendingLink (producers : Fin n → ProducerPc) (consumer : ConsumerPc) (x y : QueueNode) : Prop :=
  (∃ p, producers p = .exchanged y x) ∨ ∃ tail, consumer = .stubLink tail x ∧ y = .stub

/-- What holds of the producers while the nodes in the queue are `l`. -/
structure ProducersOk (producers : Fin n → ProducerPc) (next : QueueNode → Option QueueNode)
    (l : List QueueNode) : Prop where
  /-- A node about to be exchanged is outside of the queue, and cleared. -/
  stored : ∀ p node, producers p = .stored node → node ≠ .stub ∧ node ∉ l ∧ next node = none
  /-- Producers do not push the stub. -/
  exchanged_ne : ∀ p node prev, producers p = .exchanged node prev → node ≠ .stub
  /-- No two producers are about to exchange the same node. -/
  stored_unique : ∀ p q node, producers p = .stored node → producers q = .stored node → p = q
  /-- No two producers are about to link the same node. -/
  exchanged_unique : ∀ p q node prev prev', producers p = .exchanged node prev →
    producers q = .exchanged node prev' → p = q

/-- What holds of the consumer while the nodes in the queue are `l`. -/
structure ConsumerOk (consumer : ConsumerPc) (oldest : QueueNode)
    (next : QueueNode → Option QueueNode) (l : List QueueNode) : Prop where
  /-- `tail` is the oldest node, and not the stub. -/
  tail : ∀ tail, consumer.tail = some tail → oldest = tail ∧ tail ≠ .stub
  /-- The stub is not in the queue when it is pushed. -/
  stub_out : ∀ tail, consumer = .stubStore tail ∨ consumer = .stubExchange tail → .stub ∉ l
  /-- The stub is cleared before it is exchanged. -/
  stub_null : ∀ tail, consumer = .stubExchange tail → next .stub = none

/-- The nodes in the queue are `l`, from the oldest to the newest. -/
structure MpscInv (s : MpscState n) (l : List QueueNode) : Prop where
  /-- They are linked, up to the pending links. -/
  chain : Chain s.next (PendingLink s.producers s.consumer) s.oldest s.newest l
  /-- The nodes exchanged are those returned and then those in the queue. -/
  order : s.exchanged = s.returned ++ l.filter (· ≠ .stub)
  /-- The producers. -/
  producers : ProducersOk s.producers s.next l
  /-- The consumer. -/
  consumer : ConsumerOk s.consumer s.oldest s.next l

/-- A pushed node that is in the chain is in the queue. -/
theorem MpscInv.inQueue {s : MpscState n} (h : MpscInv s l) (hmem : node ∈ l) (hne : node ≠ .stub) :
    s.InQueue node := by
  have hcount : 0 < (l.filter (· ≠ .stub)).count node :=
    List.count_pos_iff.mpr (List.mem_filter.mpr ⟨hmem, by simpa using hne⟩)
  rw [MpscState.InQueue, h.order, List.count_append]
  omega

/-- A consumer that is not about to push the stub: only its `tail` matters. -/
theorem consumerOk_of_tail {oldest : QueueNode} (hpush : ∀ tail, consumer ≠ .stubStore tail ∧
      consumer ≠ .stubExchange tail)
    (htail : ∀ tail, consumer.tail = some tail → oldest = tail ∧ tail ≠ .stub) :
    ConsumerOk consumer oldest next l where
  tail := htail
  stub_out tail h := by
    rcases h with h | h
    · exact absurd h (hpush tail).1
    · exact absurd h (hpush tail).2
  stub_null tail h := absurd h (hpush tail).2

/-- A consumer outside `PopAndCheckEnd` asks nothing of the chain. -/
theorem consumerOk_idle {oldest : QueueNode} : ConsumerOk .idle oldest next l :=
  consumerOk_of_tail (fun _ => ⟨nofun, nofun⟩) nofun

/-- At the start the chain is the stub alone. -/
theorem mpscInv_init : MpscInv (mpscMachine n).init [.stub] where
  chain := Chain.singleton rfl (by rintro u v (⟨p, h⟩ | ⟨tail, h, -⟩) <;> cases h)
  order := rfl
  producers := by constructor <;> (intros; contradiction)
  consumer := consumerOk_idle

/-! ### Producer steps -/

/-- The queue and the links change, but not for the nodes about to be exchanged. -/
theorem ProducersOk.mono {next' : QueueNode → Option QueueNode} {l' : List QueueNode}
    (h : ProducersOk producers next l)
    (hnode : ∀ p node, producers p = .stored node → node ∉ l' ∧ next' node = none) :
    ProducersOk producers next' l' where
  stored p node hp := ⟨(h.stored p node hp).1, hnode p node hp⟩
  exchanged_ne := h.exchanged_ne
  stored_unique := h.stored_unique
  exchanged_unique := h.exchanged_unique

/-- The oldest node leaves the queue. -/
theorem ProducersOk.dequeue (h : ProducersOk producers next (node :: l)) : ProducersOk producers next l := by
  apply h.mono
  intro q y hq
  obtain ⟨-, hyl, hnull⟩ := h.stored q y hq
  exact ⟨fun hmem => hyl (List.mem_cons_of_mem _ hmem), hnull⟩

/-- A write to a node in the queue, or to the stub. -/
theorem ProducersOk.write (h : ProducersOk producers next l) (hnode : node ∈ l ∨ node = .stub)
    (v : Option QueueNode) : ProducersOk producers (Function.update next node v) l := by
  apply h.mono
  intro q y hq
  obtain ⟨hy, hyl, hnull⟩ := h.stored q y hq
  have hne : y ≠ node := by
    rintro rfl
    exact hnode.elim hyl hy
  exact ⟨hyl, (Function.update_of_ne hne _ _).trans hnull⟩

/-- Producer `p` starts to push `node`. -/
theorem ProducersOk.store (h : ProducersOk producers next l) (p : Fin n) (hne : node ≠ .stub)
    (hnotin : node ∉ l) (hfresh : ∀ q, producers q ≠ .stored node) :
    ProducersOk (Function.update producers p (.stored node)) (Function.update next node none) l where
  stored q y hq := by
    rw [Function.update_apply] at hq
    split at hq
    · cases hq
      exact ⟨hne, hnotin, Function.update_self _ _ _⟩
    · obtain ⟨hy, hyl, hnull⟩ := h.stored q y hq
      refine ⟨hy, hyl, ?_⟩
      rw [Function.update_apply, hnull, ite_self]
  exchanged_ne q y x hq := by
    rw [Function.update_apply] at hq
    split at hq
    · cases hq
    · exact h.exchanged_ne q y x hq
  stored_unique q r y hq hr := by
    rw [Function.update_apply] at hq hr
    -- the acting producer against itself, against another, and two others
    split at hq <;> split at hr
    · next hqp hrp => rw [hqp, hrp]
    · cases hq
      exact absurd hr (hfresh r)
    · cases hr
      exact absurd hq (hfresh q)
    · exact h.stored_unique q r y hq hr
  exchanged_unique q r y x x' hq hr := by
    rw [Function.update_apply] at hq hr
    split at hq
    · cases hq
    · split at hr
      · cases hr
      · exact h.exchanged_unique q r y x x' hq hr

/-- Producer `p` has exchanged its node, which nobody else is linking. -/
theorem ProducersOk.exchange (h : ProducersOk producers next l) (hp : producers p = .stored node)
    (hother : ∀ q x, producers q ≠ .exchanged node x) (prev : QueueNode) :
    ProducersOk (Function.update producers p (.exchanged node prev)) next (l ++ [node]) where
  stored q y hq := by
    rw [Function.update_apply] at hq
    split at hq
    · cases hq
    · next hqp =>
      obtain ⟨hy, hyl, hnull⟩ := h.stored q y hq
      refine ⟨hy, ?_, hnull⟩
      intro hmem
      rcases List.mem_append.mp hmem with hmem | hmem
      · exact hyl hmem
      · -- no other producer has stored the same node
        rw [List.mem_singleton.mp hmem] at hq
        exact hqp (h.stored_unique q p node hq hp)
  exchanged_ne q y x hq := by
    rw [Function.update_apply] at hq
    split at hq
    · cases hq
      exact (h.stored p node hp).1
    · exact h.exchanged_ne q y x hq
  stored_unique q r y hq hr := by
    rw [Function.update_apply] at hq hr
    split at hq
    · cases hq
    · split at hr
      · cases hr
      · exact h.stored_unique q r y hq hr
  exchanged_unique q r y x x' hq hr := by
    rw [Function.update_apply] at hq hr
    split at hq <;> split at hr
    · next hqp hrp => rw [hqp, hrp]
    · cases hq
      exact absurd hr (hother r x')
    · cases hr
      exact absurd hq (hother q x)
    · exact h.exchanged_unique q r y x x' hq hr

/-- Producer `p` returns from `push`. -/
theorem ProducersOk.finish (h : ProducersOk producers next l) (p : Fin n) :
    ProducersOk (Function.update producers p .idle) next l where
  stored q y hq := by
    rw [Function.update_apply] at hq
    split at hq
    · cases hq
    · exact h.stored q y hq
  exchanged_ne q y x hq := by
    rw [Function.update_apply] at hq
    split at hq
    · cases hq
    · exact h.exchanged_ne q y x hq
  stored_unique q r y hq hr := by
    rw [Function.update_apply] at hq hr
    split at hq
    · cases hq
    · split at hr
      · cases hr
      · exact h.stored_unique q r y hq hr
  exchanged_unique q r y x x' hq hr := by
    rw [Function.update_apply] at hq hr
    split at hq
    · cases hq
    · split at hr
      · cases hr
      · exact h.exchanged_unique q r y x x' hq hr

/-- A producer that starts to push leaves the pending links as they are. -/
theorem pendingLink_store (hp : producers p = .idle) (u v : QueueNode) :
    PendingLink (Function.update producers p (.stored node)) consumer u v ↔
      PendingLink producers consumer u v := by
  refine or_congr (exists_congr ?_) Iff.rfl
  intro q
  rw [Function.update_apply]
  split
  · next hq => simp [hq, hp]
  · exact Iff.rfl

/-- An exchange adds one pending link. -/
theorem pendingLink_exchange (hp : producers p = .stored node) (u v : QueueNode) :
    PendingLink (Function.update producers p (.exchanged node prev)) consumer u v ↔
      PendingLink producers consumer u v ∨ (u = prev ∧ v = node) := by
  constructor
  · rintro (⟨q, hq⟩ | hconsumer)
    · rw [Function.update_apply] at hq
      split at hq
      · cases hq
        exact Or.inr ⟨rfl, rfl⟩
      · exact Or.inl (Or.inl ⟨q, hq⟩)
    · exact Or.inl (Or.inr hconsumer)
  · rintro ((⟨q, hq⟩ | hconsumer) | ⟨rfl, rfl⟩)
    · refine Or.inl ⟨q, ?_⟩
      rw [Function.update_of_ne ?_, hq]
      rintro rfl
      rw [hp] at hq
      cases hq
    · exact Or.inr hconsumer
    · exact Or.inl ⟨p, Function.update_self p _ _⟩

/-- Storing a link takes away that pending link and no other. -/
theorem pendingLink_link {oldest newest : QueueNode}
    (hchain : Chain next (PendingLink producers consumer) oldest newest l)
    (hok : ProducersOk producers next l) (hp : producers p = .exchanged node prev) (u v : QueueNode) :
    PendingLink (Function.update producers p .idle) consumer u v ↔
      PendingLink producers consumer u v ∧ u ≠ prev := by
  have hfollows := (hchain.pending_follows prev node (Or.inl ⟨p, hp⟩)).1
  -- pending links from one node lead to one node
  have huniq : ∀ v, PendingLink producers consumer prev v → v = node := fun v hv =>
    (hchain.pending_follows prev v hv).1.right_unique hchain.nodup hfollows
  constructor
  · rintro (⟨q, hq⟩ | ⟨tail, htail, rfl⟩)
    · rw [Function.update_apply] at hq
      split at hq
      · cases hq
      · next hqp =>
        refine ⟨Or.inl ⟨q, hq⟩, ?_⟩
        rintro rfl
        rw [huniq v (Or.inl ⟨q, hq⟩)] at hq
        exact hqp (hok.exchanged_unique q p node u u hq hp)
    · refine ⟨Or.inr ⟨tail, htail, rfl⟩, ?_⟩
      rintro rfl
      exact hok.exchanged_ne p node u hp (huniq .stub (Or.inr ⟨tail, htail, rfl⟩)).symm
  · rintro ⟨⟨q, hq⟩ | hconsumer, hu⟩
    · refine Or.inl ⟨q, ?_⟩
      rw [Function.update_of_ne ?_, hq]
      rintro rfl
      rw [hp] at hq
      cases hq
      exact hu rfl
    · exact Or.inr hconsumer

/-- The consumer does not mind a write outside of the stub, or one that clears it. -/
theorem ConsumerOk.write {oldest : QueueNode} {v : Option QueueNode} (h : ConsumerOk consumer oldest next l)
    (hstub : v = none ∨ ∀ tail, consumer = .stubExchange tail → node ≠ .stub) :
    ConsumerOk consumer oldest (Function.update next node v) l where
  tail := h.tail
  stub_out := h.stub_out
  stub_null tail htail := by
    rw [Function.update_apply]
    split
    · next heq =>
      rcases hstub with rfl | hne
      · rfl
      · exact absurd heq.symm (hne tail htail)
    · exact h.stub_null tail htail

/-- `node->next.Store(nullptr)`. -/
theorem MpscInv.push {s s' : MpscState n} (h : MpscInv s l)
    (hstep : s.step (.push p node) = some s') : MpscInv s' l := by
  simp only [MpscState.step] at hstep
  split at hstep
  · next hguard =>
    obtain ⟨hidle, hne, hout, hfresh⟩ := hguard
    cases hstep
    have hnotin : node ∉ l := fun hmem => hout (h.inQueue hmem hne)
    exact ⟨(h.chain.store hnotin none).congr_pending (pendingLink_store hidle), h.order,
      h.producers.store p hne hnotin hfresh, h.consumer.write (Or.inl rfl)⟩
  · cases hstep

/-- `_newest.Exchange(node)`. -/
theorem MpscInv.exchange {s s' : MpscState n} (h : MpscInv s l)
    (hstep : s.step (.exchange p) = some s') : ∃ node, MpscInv s' (l ++ [node]) := by
  simp only [MpscState.step] at hstep
  split at hstep
  · next node hp =>
    cases hstep
    obtain ⟨hne, hnotin, hnull⟩ := h.producers.stored p node hp
    -- the node was not in the queue, so nobody else is about to link it
    have hother : ∀ q x, s.producers q ≠ .exchanged node x := fun q x hq =>
      hnotin (List.mem_of_mem_tail (h.chain.pending_follows x node (Or.inl ⟨q, hq⟩)).1.mem.2)
    refine ⟨node, h.chain.exchange hnotin hnull (pendingLink_exchange hp), ?_,
      h.producers.exchange hp hother s.newest,
      ⟨h.consumer.tail, ?_, h.consumer.stub_null⟩⟩
    · dsimp only
      rw [h.order, List.filter_append, List.append_assoc]
      simp [hne]
    · intro tail htail hmem
      rcases List.mem_append.mp hmem with hmem | hmem
      · exact h.consumer.stub_out tail htail hmem
      · exact hne (List.mem_singleton.mp hmem).symm
  · cases hstep

/-- `prev->next.Store(node)`. -/
theorem MpscInv.link {s s' : MpscState n} (h : MpscInv s l) (hstep : s.step (.link p) = some s') :
    MpscInv s' l := by
  simp only [MpscState.step] at hstep
  split at hstep
  · next node prev hp =>
    cases hstep
    have hpending : PendingLink s.producers s.consumer prev node := Or.inl ⟨p, hp⟩
    have hprev : prev ∈ l := (h.chain.pending_follows prev node hpending).1.mem.1
    refine ⟨h.chain.link hpending (pendingLink_link h.chain h.producers hp), h.order,
      (h.producers.write (Or.inl hprev) _).finish p, h.consumer.write (Or.inr ?_)⟩
    intro tail htail hstub
    exact h.consumer.stub_out tail (Or.inr htail) (hstub ▸ hprev)
  · cases hstep

/-! ### Consumer steps -/

/-- A consumer that is not about to link the stub adds no pending link. -/
theorem pendingLink_consumer {consumer' : ConsumerPc} (h : ∀ tail x, consumer ≠ .stubLink tail x)
    (h' : ∀ tail x, consumer' ≠ .stubLink tail x) (u v : QueueNode) :
    PendingLink producers consumer' u v ↔ PendingLink producers consumer u v := by
  refine or_congr Iff.rfl ⟨?_, ?_⟩
  · rintro ⟨tail, htail, -⟩
    exact absurd htail (h' tail u)
  · rintro ⟨tail, htail, -⟩
    exact absurd htail (h tail u)

/-- The consumer is about to link the stub behind `x`. -/
theorem pendingLink_stubExchange {tail x : QueueNode} (h : ∀ tail x, consumer ≠ .stubLink tail x)
    (u v : QueueNode) : PendingLink producers (.stubLink tail x) u v ↔
      PendingLink producers consumer u v ∨ (u = x ∧ v = .stub) := by
  constructor
  · rintro (hp | ⟨tail', htail, rfl⟩)
    · exact Or.inl (Or.inl hp)
    · cases htail
      exact Or.inr ⟨rfl, rfl⟩
  · rintro ((hp | ⟨tail', htail, -⟩) | ⟨rfl, rfl⟩)
    · exact Or.inl hp
    · exact absurd htail (h tail' u)
    · exact Or.inr ⟨tail, rfl, rfl⟩

/-- The consumer has linked the stub behind `x`. -/
theorem pendingLink_stubLink {oldest newest tail x : QueueNode}
    (hchain : Chain next (PendingLink producers (.stubLink tail x)) oldest newest l)
    (hok : ProducersOk producers next l) (u v : QueueNode) :
    PendingLink producers (.final tail) u v ↔
      PendingLink producers (.stubLink tail x) u v ∧ u ≠ x := by
  have hstub := (hchain.pending_follows x .stub (Or.inr ⟨tail, rfl, rfl⟩)).1
  constructor
  · rintro (⟨q, hq⟩ | ⟨tail', htail, -⟩)
    · refine ⟨Or.inl ⟨q, hq⟩, ?_⟩
      rintro rfl
      have hv := (hchain.pending_follows u v (Or.inl ⟨q, hq⟩)).1.right_unique hchain.nodup hstub
      exact hok.exchanged_ne q v u hq hv
    · cases htail
  · rintro ⟨hp | ⟨tail', htail, -⟩, hu⟩
    · exact Or.inl hp
    · cases htail
      exact absurd rfl hu

/-- `PopAndCheckEnd` returns null. -/
theorem MpscInv.popReturn_none {s : MpscState n} (h : MpscInv s l) (empty : Bool)
    (hc : ∀ tail x, s.consumer ≠ .stubLink tail x) : MpscInv (s.popReturn none empty) l where
  chain := h.chain.congr_pending (pendingLink_consumer hc (by simp [MpscState.popReturn]))
  order := by
    rw [MpscState.popReturn, h.order, Option.toList_none, List.append_nil]
  producers := h.producers
  consumer := consumerOk_idle

/-- `PopAndCheckEnd` returns the oldest node. -/
theorem MpscInv.take {s : MpscState n} (h : MpscInv s l) {tail obj : QueueNode}
    (hc : ∀ tail x, s.consumer ≠ .stubLink tail x) (hold : s.oldest = tail) (hne : tail ≠ .stub)
    (hobj : s.next tail = some obj) : ∃ l', MpscInv (s.take tail obj) l' := by
  subst hold
  obtain ⟨rest, rfl, hchain⟩ := h.chain.advance hobj
  refine ⟨obj :: rest,
    hchain.congr_pending (pendingLink_consumer hc (by simp [MpscState.take, MpscState.popReturn])), ?_,
    h.producers.dequeue, consumerOk_idle⟩
  rw [MpscState.take, MpscState.popReturn, h.order, List.filter_cons_of_pos (by simpa using hne)]
  simp

/-- The consumer goes on to load `_newest`. -/
theorem MpscInv.loadNewest {s : MpscState n} (h : MpscInv s l) {tail : QueueNode}
    (hc : ∀ tail x, s.consumer ≠ .stubLink tail x) (hold : s.oldest = tail) (hne : tail ≠ .stub) :
    MpscInv { s with consumer := .loadNewest tail } l where
  chain := h.chain.congr_pending (pendingLink_consumer hc (by simp))
  order := h.order
  producers := h.producers
  consumer := by
    refine consumerOk_of_tail (fun _ => ⟨nofun, nofun⟩) ?_
    intro tail ht
    cases ht
    exact ⟨hold, hne⟩

/-- The stub is the oldest node, and left behind. -/
theorem MpscInv.leaveStub {s : MpscState n} (h : MpscInv s l) {obj : QueueNode}
    (hc : ∀ tail x, s.consumer ≠ .stubLink tail x) (hstub : s.oldest = .stub) (hobj : s.next .stub = some obj) :
    ∃ l', MpscInv { s with oldest := obj, consumer := .reload obj } l' := by
  rw [← hstub] at hobj
  obtain ⟨rest, rfl, hchain⟩ := h.chain.advance hobj
  have hne : obj ≠ .stub := fun heq =>
    (List.nodup_cons.mp h.chain.nodup).1 (by rw [hstub, heq]; exact List.mem_cons_self)
  refine ⟨obj :: rest, hchain.congr_pending (pendingLink_consumer hc (by simp)), ?_, h.producers.dequeue,
    consumerOk_of_tail (fun _ => ⟨nofun, nofun⟩) ?_⟩
  · dsimp only
    rw [h.order, hstub, List.filter_cons_of_neg (by simp)]
  · intro tail ht
    cases ht
    exact ⟨rfl, hne⟩

/-- The oldest node is also the newest: there is nothing else in the queue, and the stub is pushed. -/
theorem MpscInv.pushStub {s : MpscState n} (h : MpscInv s l) {tail : QueueNode}
    (hpc : s.consumer = .loadNewest tail) (hnewest : tail = s.newest) :
    MpscInv { s with consumer := .stubStore tail } l := by
  obtain ⟨hold, hne⟩ := h.consumer.tail tail (by rw [hpc]; rfl)
  have hsingle := h.chain.eq_singleton (hold.trans hnewest)
  refine ⟨h.chain.congr_pending (pendingLink_consumer (by simp [hpc]) (by simp)), h.order, h.producers,
    ?_, ?_, nofun⟩
  · intro t ht
    cases ht
    exact ⟨hold, hne⟩
  · intro t ht
    rw [hsingle, List.mem_singleton, hold]
    exact Ne.symm hne

/-- The store of `push(&_stub)`. -/
theorem MpscInv.stubStore {s : MpscState n} (h : MpscInv s l) {tail : QueueNode}
    (hpc : s.consumer = .stubStore tail) :
    MpscInv { s with next := Function.update s.next .stub none, consumer := .stubExchange tail } l := by
  have hout := h.consumer.stub_out tail (Or.inl hpc)
  refine ⟨(h.chain.store hout none).congr_pending (pendingLink_consumer (by simp [hpc]) (by simp)), h.order,
    h.producers.write (Or.inr rfl) none, ?_, fun _ _ => hout, ?_⟩
  · intro t ht
    cases ht
    exact h.consumer.tail tail (by rw [hpc]; rfl)
  · intro _ _
    exact Function.update_self QueueNode.stub none s.next

/-- The exchange of `push(&_stub)`. -/
theorem MpscInv.stubExchange {s : MpscState n} (h : MpscInv s l) {tail : QueueNode}
    (hpc : s.consumer = .stubExchange tail) :
    MpscInv { s with newest := .stub, consumer := .stubLink tail s.newest } (l ++ [.stub]) := by
  have hout := h.consumer.stub_out tail (Or.inr hpc)
  refine ⟨h.chain.exchange hout (h.consumer.stub_null tail hpc) (pendingLink_stubExchange (by simp [hpc])), ?_,
    h.producers.mono ?_, consumerOk_of_tail (fun _ => ⟨nofun, nofun⟩) ?_⟩
  · dsimp only
    rw [h.order, List.filter_append]
    simp
  · intro q y hq
    obtain ⟨hy, hyl, hnull⟩ := h.producers.stored q y hq
    refine ⟨?_, hnull⟩
    intro hmem
    rcases List.mem_append.mp hmem with hmem | hmem
    · exact hyl hmem
    · exact hy (List.mem_singleton.mp hmem)
  · intro t ht
    cases ht
    exact h.consumer.tail tail (by rw [hpc]; rfl)

/-- The link of `push(&_stub)`. -/
theorem MpscInv.stubLink {s : MpscState n} (h : MpscInv s l) {tail prev : QueueNode}
    (hpc : s.consumer = .stubLink tail prev) :
    MpscInv { s with next := Function.update s.next prev (some .stub), consumer := .final tail } l := by
  have hchain := h.chain
  rw [hpc] at hchain
  have hprev := (hchain.pending_follows prev .stub (Or.inr ⟨tail, rfl, rfl⟩)).1.mem.1
  refine ⟨hchain.link (Or.inr ⟨tail, rfl, rfl⟩) (pendingLink_stubLink hchain h.producers), h.order,
    h.producers.write (Or.inl hprev) _, consumerOk_of_tail (fun _ => ⟨nofun, nofun⟩) ?_⟩
  intro t ht
  cases ht
  exact h.consumer.tail tail (by rw [hpc]; rfl)

/-- Every access of the consumer keeps the invariant. -/
theorem MpscInv.consume {s : MpscState n} (h : MpscInv s l) : ∃ l', MpscInv s.consume l' := by
  unfold MpscState.consume
  split
  · next hpc =>
    have hc : ∀ tail x, s.consumer ≠ .stubLink tail x := by simp [hpc]
    split
    · next hstub =>
      split
      · exact ⟨l, h.popReturn_none true hc⟩
      · next obj hobj => exact h.leaveStub hc hstub hobj
    · next hne =>
      split
      · next obj hobj => exact h.take hc rfl hne hobj
      · exact ⟨l, h.loadNewest hc rfl hne⟩
  · next tail hpc =>
    have hc : ∀ tail x, s.consumer ≠ .stubLink tail x := by simp [hpc]
    obtain ⟨hold, hne⟩ := h.consumer.tail tail (by rw [hpc]; rfl)
    split
    · next obj hobj => exact h.take hc hold hne hobj
    · exact ⟨l, h.loadNewest hc hold hne⟩
  · next tail hpc =>
    split
    · exact ⟨l, h.popReturn_none false (by simp [hpc])⟩
    · next hnewest => exact ⟨l, h.pushStub hpc (not_not.mp hnewest)⟩
  · next tail hpc => exact ⟨l, h.stubStore hpc⟩
  · next tail hpc => exact ⟨_, h.stubExchange hpc⟩
  · next tail prev hpc => exact ⟨l, h.stubLink hpc⟩
  · next tail hpc =>
    have hc : ∀ tail x, s.consumer ≠ .stubLink tail x := by simp [hpc]
    obtain ⟨hold, hne⟩ := h.consumer.tail tail (by rw [hpc]; rfl)
    split
    · next obj hobj => exact h.take hc hold hne hobj
    · exact ⟨l, h.popReturn_none false hc⟩

/-- Every step keeps a chain. -/
theorem MpscInv.step {s s' : MpscState n} {a : MpscAction n} (h : MpscInv s l)
    (hstep : s.step a = some s') : ∃ l', MpscInv s' l' := by
  cases a with
  | push p node => exact ⟨l, h.push hstep⟩
  | exchange p =>
      obtain ⟨node, h'⟩ := h.exchange hstep
      exact ⟨_, h'⟩
  | link p => exact ⟨l, h.link hstep⟩
  | consume =>
      cases hstep
      exact h.consume

/-- The invariant holds in every reachable state. -/
theorem mpscMachine_inv {s : MpscState n} (hs : (mpscMachine n).Reachable s) : ∃ l, MpscInv s l :=
  Machine.Reaches.invariant (fun s => ∃ l, MpscInv s l) ⟨_, mpscInv_init⟩
    (fun _ _ _ _ _ ⟨_, h⟩ hstep => h.step hstep) hs

end Invariant

end RaptorLite
