import RaptorLite.Utils.MpscqDrain

/-! # The memory of the queue

The nodes belong to whoever uses the queue, and are freed by whoever gets them out of it. Here is what such a
user needs to know: which nodes a step reads or writes, that they are all the stub, or in the queue, or about to
be pushed, and how every step moves nodes into the queue and out of it. -/

namespace RaptorLite

variable {n : Nat}

namespace MpscState

/-- The nodes whose `next` the step reads or writes. -/
def touched (s : MpscState n) : MpscAction n → List QueueNode
  | .push _ node => [node]
  -- only `_newest`
  | .exchange _ => []
  | .link p =>
      match s.producers p with
      | .exchanged _ prev => [prev]
      | _ => []
  | .consume =>
      match s.consumer with
      | .idle => [s.oldest]
      | .reload tail => [tail]
      | .loadNewest _ => []
      | .stubStore _ => [.stub]
      | .stubExchange _ => []
      | .stubLink _ prev => [prev]
      | .final tail => [tail]

end MpscState

/-! ### The nodes in the queue -/

section Remaining

variable {s s' : MpscState n} {l : List QueueNode} {p : Fin n} {node prev : QueueNode}

/-- The nodes left in the queue are those of the chain other than the stub. -/
theorem MpscInv.remaining (h : MpscInv s l) : s.remaining = l.filter (· ≠ .stub) := by
  rw [MpscState.remaining, h.order, List.drop_left]

/-- A node is left in the queue exactly when it is in the chain and not the stub. -/
theorem MpscInv.mem_remaining (h : MpscInv s l) : node ∈ s.remaining ↔ node ∈ l ∧ node ≠ .stub := by
  rw [h.remaining, List.mem_filter]
  simp

/-- The nodes that were pushed and not returned. -/
theorem inQueue_iff (hs : (mpscMachine n).Reachable s) : s.InQueue node ↔ node ∈ s.remaining := by
  rw [MpscState.InQueue, ← returned_append_remaining hs, List.count_append, ← List.count_pos_iff]
  omega

/-- A node about to be exchanged is not the stub and not in the queue, and nobody else is pushing it. -/
theorem stored_outside (hs : (mpscMachine n).Reachable s) (hp : s.producers p = .stored node) :
    node ≠ .stub ∧ node ∉ s.remaining ∧ ∀ q, s.producers q = .stored node → q = p := by
  obtain ⟨l, h⟩ := mpscMachine_inv hs
  obtain ⟨hne, hnotin, -⟩ := h.producers.stored p node hp
  exact ⟨hne, fun hmem => hnotin (h.mem_remaining.mp hmem).1,
    fun q hq => h.producers.stored_unique q p node hq hp⟩

/-- **Only the user's own nodes are touched**: the stub, nodes in the queue, and the node that the step itself
starts to push. -/
theorem touched_live (hs : (mpscMachine n).Reachable s) {a : MpscAction n} (hnode : node ∈ s.touched a) :
    node = .stub ∨ node ∈ s.remaining ∨ ∃ p, a = .push p node := by
  obtain ⟨l, h⟩ := mpscMachine_inv hs
  have hchain : node ∈ l → node = .stub ∨ node ∈ s.remaining ∨ ∃ p, a = .push p node := by
    intro hmem
    by_cases hstub : node = .stub
    · exact Or.inl hstub
    · exact Or.inr (Or.inl (h.mem_remaining.mpr ⟨hmem, hstub⟩))
  -- `tail` is the oldest node
  have htail : ∀ tail, s.consumer.tail = some tail → node = tail → node ∈ l := by
    rintro tail ht rfl
    rw [← (h.consumer.tail node ht).1]
    exact h.chain.oldest_mem
  cases a with
  | push q x =>
      rw [MpscState.touched, List.mem_singleton] at hnode
      exact Or.inr (Or.inr ⟨q, by rw [hnode]⟩)
  | exchange q => cases hnode
  | link q =>
      simp only [MpscState.touched] at hnode
      split at hnode
      · next y x hq =>
        rw [List.mem_singleton.mp hnode] at hchain ⊢
        exact hchain (h.chain.pending_follows x y (Or.inl ⟨q, hq⟩)).1.mem.1
      · cases hnode
  | consume =>
      simp only [MpscState.touched] at hnode
      split at hnode
      · exact hchain (by rw [List.mem_singleton.mp hnode]; exact h.chain.oldest_mem)
      · next tail hpc => exact hchain (htail tail (by rw [hpc]; rfl) (List.mem_singleton.mp hnode))
      · cases hnode
      · exact Or.inl (List.mem_singleton.mp hnode)
      · cases hnode
      · next tail x hpc =>
        rw [List.mem_singleton.mp hnode] at hchain ⊢
        exact hchain (h.chain.pending_follows x .stub (Or.inr ⟨tail, hpc, rfl⟩)).1.mem.1
      · next tail hpc => exact hchain (htail tail (by rw [hpc]; rfl) (List.mem_singleton.mp hnode))

/-! ### What the steps do -/

/-- Whoever pushes leaves the consumer where it is. -/
theorem consumer_step {a : MpscAction n} (ha : a ≠ .consume) (hstep : s.step a = some s') :
    s'.consumer = s.consumer := by
  cases a with
  | push p node =>
      rw [MpscState.step] at hstep
      split at hstep <;> cases hstep
      rfl
  | exchange p =>
      rw [MpscState.step] at hstep
      split at hstep <;> cases hstep
      rfl
  | link p =>
      rw [MpscState.step] at hstep
      split at hstep <;> cases hstep
      rfl
  | consume => exact absurd rfl ha

/-- A node that is not in the queue and that nobody is pushing can be pushed. -/
theorem push_enabled (hs : (mpscMachine n).Reachable s) (hidle : s.producers p = .idle) (hne : node ≠ .stub)
    (hout : node ∉ s.remaining) (hfree : ∀ q, s.producers q ≠ .stored node) :
    s.step (.push p node) = some { s with
      next := Function.update s.next node none
      producers := Function.update s.producers p (.stored node) } := by
  rw [MpscState.step, if_pos ⟨hidle, hne, fun hin => hout ((inQueue_iff hs).mp hin), hfree⟩]

/-- The exchange puts the node behind those in the queue. -/
theorem exchange_remaining (hs : (mpscMachine n).Reachable s) (hp : s.producers p = .stored node)
    (hstep : s.step (.exchange p) = some s') :
    s'.remaining = s.remaining ++ [node] ∧
      s'.producers = Function.update s.producers p (.exchanged node s.newest) ∧ s'.consumer = s.consumer := by
  rw [MpscState.step, hp] at hstep
  cases hstep
  refine ⟨?_, rfl, rfl⟩
  have hlen : s.returned.length ≤ s.exchanged.length := by
    rw [← returned_append_remaining hs, List.length_append]
    omega
  rw [MpscState.remaining, MpscState.remaining, List.drop_append_of_le_length hlen]

/-- Storing the link ends the push. -/
theorem link_remaining (hp : s.producers p = .exchanged node prev) (hstep : s.step (.link p) = some s') :
    s'.remaining = s.remaining ∧ s'.producers = Function.update s.producers p .idle ∧ s'.consumer = s.consumer := by
  rw [MpscState.step, hp] at hstep
  cases hstep
  exact ⟨rfl, rfl, rfl⟩

/-- An access of the consumer finishes a pop, or the consumer stays in it and nothing has left the queue. -/
theorem consume_cases (s : MpscState n) :
    (∃ result, Popped s s.consume result) ∨
      (s.consume.consumer ≠ .idle ∧ s.consume.producers = s.producers ∧ s.consume.exchanged = s.exchanged ∧
        s.consume.returned = s.returned ∧ s.consume.results = s.results) := by
  by_cases hidle : s.consumer = .idle
  · by_cases hstub : s.oldest = .stub
    · cases hobj : s.next .stub with
      | none =>
          refine Or.inl ⟨(none, true), ?_⟩
          simp only [MpscState.consume, hidle, hstub, if_true, hobj]
          constructor <;> rfl
      | some obj => exact Or.inr (by simp [MpscState.consume, hidle, hstub, hobj])
    · cases hobj : s.next s.oldest with
      | none => exact Or.inr (by simp [MpscState.consume, hidle, hstub, hobj])
      | some obj =>
          refine Or.inl ⟨(some s.oldest, false), ?_⟩
          simp only [MpscState.consume, hidle, hstub, if_false, hobj]
          constructor <;> rfl
  · rcases consume_busy hidle with ⟨node, hpop⟩ | ⟨hbusy, -, hproducers, hexchanged, hreturned, hresults⟩
    · exact Or.inl ⟨(node, false), hpop⟩
    · exact Or.inr ⟨hbusy, hproducers, hexchanged, hreturned, hresults⟩

/-- A finished pop takes what it returns from the front of the queue. -/
theorem Popped.remaining {result : Option QueueNode × Bool} (hs : (mpscMachine n).Reachable s)
    (hs' : (mpscMachine n).Reachable s') (h : Popped s s' result) :
    s.remaining = result.1.toList ++ s'.remaining := by
  have hsplit := returned_append_remaining hs'
  rw [h.returned, h.exchanged, ← returned_append_remaining hs, List.append_assoc] at hsplit
  exact (List.append_cancel_left hsplit).symm

end Remaining

/-! ### One pop at a time -/

section OnePop

variable {s : MpscState n}

/-- An upper bound on the accesses of a pop that are left, one that begins included. -/
def ConsumerPc.left : ConsumerPc → Nat
  | .idle => 7
  | pc => pc.rank

/-- The consumer always has a step left until its pop returns. -/
theorem ConsumerPc.left_pos (pc : ConsumerPc) : 0 < pc.left := by
  cases pc <;> simp [left, rank]

/-- **A pop waits for nobody**: whatever the producers do, every access brings it nearer to its end. -/
theorem consume_left (hbusy : s.consume.consumer ≠ .idle) : s.consume.consumer.left < s.consumer.left := by
  by_cases hidle : s.consumer = .idle
  · rw [hidle]
    cases hpc : s.consume.consumer with
    | idle => exact absurd hpc hbusy
    | reload tail => simp [ConsumerPc.left, ConsumerPc.rank]
    | loadNewest tail => simp [ConsumerPc.left, ConsumerPc.rank]
    | stubStore tail => simp [ConsumerPc.left, ConsumerPc.rank]
    | stubExchange tail => simp [ConsumerPc.left, ConsumerPc.rank]
    | stubLink tail prev => simp [ConsumerPc.left, ConsumerPc.rank]
    | final tail => simp [ConsumerPc.left, ConsumerPc.rank]
  · have hleft : ∀ pc : ConsumerPc, pc ≠ .idle → pc.left = pc.rank := by
      intro pc hpc
      cases pc with
      | idle => exact absurd rfl hpc
      | reload tail => rfl
      | loadNewest tail => rfl
      | stubStore tail => rfl
      | stubExchange tail => rfl
      | stubLink tail prev => rfl
      | final tail => rfl
    rcases consume_busy hidle with ⟨node, hpop⟩ | ⟨-, hlt, -⟩
    · exact absurd hpop.consumer hbusy
    · rwa [hleft _ hbusy, hleft _ hidle]

/-- Results are never taken back. -/
theorem results_iterate (k : Nat) (s : MpscState n) :
    ∃ later, (MpscState.consume^[k] s).results = s.results ++ later := by
  induction k generalizing s with
  | zero => exact ⟨[], (List.append_nil _).symm⟩
  | succ k ih =>
      obtain ⟨later, hlater⟩ := ih s.consume
      rw [Function.iterate_succ_apply, hlater]
      rcases consume_cases s with ⟨result, hpop⟩ | ⟨-, -, -, -, hresults⟩
      · exact ⟨result :: later, by rw [hpop.results, List.append_assoc, List.singleton_append]⟩
      · exact ⟨later, by rw [hresults]⟩

/-- The first pop that finishes in a stretch that finishes one is that one. -/
theorem Popped.first {k : Nat} {result result' : Option QueueNode × Bool} (h : Popped s s.consume result)
    (h' : Popped s (MpscState.consume^[k + 1] s) result') : result = result' := by
  obtain ⟨later, hlater⟩ := results_iterate k s.consume
  rw [← Function.iterate_succ_apply, h'.results, h.results, List.append_assoc, List.singleton_append] at hlater
  have hcons := List.append_cancel_left hlater
  rw [List.cons.injEq] at hcons
  exact hcons.1.symm

end OnePop

end RaptorLite
