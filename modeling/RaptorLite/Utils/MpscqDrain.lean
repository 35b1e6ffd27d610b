import RaptorLite.Utils.Mpscq

/-! # Draining the queue

With no push in progress the consumer alone decides what happens: a pop returns the next element, or
finds only the stub and reports the end. Repeating it, as `ContainerImpl::Shutdown` does, returns what
is left and ends with both ends of the queue at the stub. -/

namespace RaptorLite

variable {n : Nat}

/-- No push and no pop is in progress. -/
def MpscState.Quiet (s : MpscState n) : Prop :=
  (∀ p, s.producers p = .idle) ∧ s.consumer = .idle

/-- The consumer alone, for `k` accesses. -/
theorem run_consume (k : Nat) (s : MpscState n) :
    (mpscMachine n).run s (List.replicate k .consume) = some (MpscState.consume^[k] s) := by
  induction k generalizing s with
  | zero => rfl
  | succ k ih =>
      rw [List.replicate_succ, Machine.run_cons, Function.iterate_succ_apply]
      exact ih s.consume

/-- The last element: the consumer pushes the stub behind it and takes it. -/
theorem consume_last {s : MpscState n} {tail : QueueNode} (hpc : s.consumer = .loadNewest tail)
    (hnewest : s.newest = tail) :
    MpscState.consume^[5] s =
      { s with
        next := Function.update (Function.update s.next .stub none) tail (some .stub)
        newest := .stub
        oldest := .stub
        consumer := .idle
        returned := s.returned ++ [tail]
        results := s.results ++ [(some tail, false)] } := by
  have h₁ : s.consume = { s with consumer := .stubStore tail } := by
    simp only [MpscState.consume, hpc, hnewest, ne_eq, not_true_eq_false, if_false]
  simp only [Function.iterate_succ_apply, Function.iterate_zero_apply, h₁]
  simp [MpscState.consume, MpscState.take, MpscState.popReturn, hnewest]

/-- What a finished pop with the given result changes, besides the links and the ends. -/
structure Popped (s s' : MpscState n) (result : Option QueueNode × Bool) : Prop where
  /-- The producers are where they were. -/
  producers : s'.producers = s.producers
  /-- The consumer is done. -/
  consumer : s'.consumer = .idle
  /-- No node was pushed. -/
  exchanged : s'.exchanged = s.exchanged
  /-- The returned node, if any, is recorded. -/
  returned : s'.returned = s.returned ++ result.1.toList
  /-- The result is recorded. -/
  results : s'.results = s.results ++ [result]

/-- A pop keeps the queue quiet. -/
theorem Popped.quiet {s s' : MpscState n} {result : Option QueueNode × Bool} (h : Popped s s' result)
    (hs : s.Quiet) : s'.Quiet :=
  ⟨fun p => by rw [h.producers]; exact hs.1 p, h.consumer⟩

/-- **One pop of a quiet queue**: it reports the end exactly when nothing is left, and returns one
element otherwise. -/
theorem pop_quiet {s : MpscState n} {l : List QueueNode} (h : MpscInv s l) (hquiet : s.Quiet) :
    ∃ k, (Popped s (MpscState.consume^[k] s) (none, true) ∧ s.exchanged = s.returned ∧
          (MpscState.consume^[k] s).oldest = .stub ∧ (MpscState.consume^[k] s).newest = .stub) ∨
      ∃ node, Popped s (MpscState.consume^[k] s) (some node, false) := by
  obtain ⟨hproducers, hidle⟩ := hquiet
  have hnopending : ∀ u v, ¬ PendingLink s.producers s.consumer u v := by
    rintro u v (⟨p, hp⟩ | ⟨tail, htail, -⟩)
    · rw [hproducers] at hp
      cases hp
    · rw [hidle] at htail
      cases htail
  by_cases hstub : s.oldest = .stub
  · cases hobj : s.next .stub with
    | none =>
        -- nothing is left
        have hnewest := h.chain.newest_eq_of_quiet hnopending (by rw [hstub, hobj])
        have hl := h.chain.eq_singleton hnewest.symm
        have hs₁ : MpscState.consume^[1] s = s.popReturn none true := by
          simp only [Function.iterate_one, MpscState.consume, hidle, hstub, if_true, hobj]
        refine ⟨1, Or.inl ?_⟩
        rw [hs₁]
        refine ⟨⟨rfl, rfl, rfl, rfl, rfl⟩, ?_, hstub, hnewest.trans hstub⟩
        rw [h.order, hl, hstub]
        simp
    | some tail =>
        obtain ⟨rest, hl, hchain⟩ := h.chain.advance (by rw [hstub, hobj])
        have hs₁ : s.consume = { s with oldest := tail, consumer := .reload tail } := by
          simp only [MpscState.consume, hidle, hstub, if_true, hobj]
        cases htail : s.next tail with
        | some obj =>
            have hs₂ : MpscState.consume^[2] s
                = ({ s with oldest := tail, consumer := .reload tail } : MpscState n).take tail obj := by
              simp only [Function.iterate_succ_apply, Function.iterate_zero_apply, hs₁]
              simp only [MpscState.consume, htail]
            exact ⟨2, Or.inr ⟨tail, by rw [hs₂]; exact ⟨rfl, rfl, rfl, rfl, rfl⟩⟩⟩
        | none =>
            have hs₂ : MpscState.consume^[2] s
                = { s with oldest := tail, consumer := .loadNewest tail } := by
              simp only [Function.iterate_succ_apply, Function.iterate_zero_apply, hs₁]
              simp only [MpscState.consume, htail]
            have hs₇ := (Function.iterate_add_apply MpscState.consume 5 2 s).trans
              ((congrArg MpscState.consume^[5] hs₂).trans
                (consume_last rfl (hchain.newest_eq_of_quiet hnopending htail)))
            exact ⟨5 + 2, Or.inr ⟨tail, by rw [hs₇]; exact ⟨rfl, rfl, rfl, rfl, rfl⟩⟩⟩
  · cases htail : s.next s.oldest with
    | some obj =>
        have hs₁ : MpscState.consume^[1] s = s.take s.oldest obj := by
          simp only [Function.iterate_one, MpscState.consume, hidle, hstub, if_false, htail]
        exact ⟨1, Or.inr ⟨s.oldest, by rw [hs₁]; exact ⟨rfl, rfl, rfl, rfl, rfl⟩⟩⟩
    | none =>
        have hs₁ : MpscState.consume^[1] s = { s with consumer := .loadNewest s.oldest } := by
          simp only [Function.iterate_one, MpscState.consume, hidle, hstub, if_false, htail]
        have hs₆ := (Function.iterate_add_apply MpscState.consume 5 1 s).trans
          ((congrArg MpscState.consume^[5] hs₁).trans
            (consume_last rfl (h.chain.newest_eq_of_quiet hnopending htail)))
        exact ⟨5 + 1, Or.inr ⟨s.oldest, by rw [hs₆]; exact ⟨rfl, rfl, rfl, rfl, rfl⟩⟩⟩

/-- The nodes that were pushed and not returned yet, in order. -/
def MpscState.remaining (s : MpscState n) : List QueueNode := s.exchanged.drop s.returned.length

/-- In every reachable state the nodes returned are the first of those exchanged. -/
theorem returned_append_remaining {s : MpscState n} (hs : (mpscMachine n).Reachable s) :
    s.returned ++ s.remaining = s.exchanged := by
  obtain ⟨l, h⟩ := mpscMachine_inv hs
  rw [MpscState.remaining, h.order, List.drop_left]

/-- **Popping until the end** from a quiet state terminates: it returns the remaining nodes one by one,
then reports the end, and leaves both ends of the queue at the stub. -/
theorem drain_quiet {s : MpscState n} (hs : (mpscMachine n).Reachable s) (hquiet : s.Quiet) :
    ∃ k s', (mpscMachine n).run s (List.replicate k .consume) = some s' ∧
      s'.results = s.results ++ s.remaining.map (fun node => (some node, false)) ++ [(none, true)] ∧
      s'.returned = s.exchanged ∧ s'.exchanged = s.exchanged ∧ s'.consumer = .idle ∧
      s'.newest = .stub ∧ s'.oldest = .stub := by
  -- each pop that is not the last one takes a node off the remaining ones
  induction hm : s.remaining.length using Nat.strong_induction_on generalizing s with
  | _ m ih =>
    obtain ⟨l, hinv⟩ := mpscMachine_inv hs
    obtain ⟨k, ⟨hpop, hall, hold, hnew⟩ | ⟨node, hpop⟩⟩ := pop_quiet hinv hquiet
    · have hnone : s.remaining = [] := by rw [MpscState.remaining, hall, List.drop_length]
      refine ⟨k, _, run_consume k s, ?_, ?_, hpop.exchanged, hpop.consumer, hnew, hold⟩
      · rw [hpop.results, hnone, List.map_nil, List.append_nil]
      · rw [hpop.returned, hall]
        simp
    · have hs₁ := hs.run (fun _ _ _ => trivial) (run_consume k s)
      have hremaining : s.remaining = node :: (MpscState.consume^[k] s).remaining := by
        have hsplit := returned_append_remaining hs₁
        rw [hpop.returned, hpop.exchanged, ← returned_append_remaining hs, List.append_assoc] at hsplit
        exact (List.append_cancel_left hsplit).symm
      have hlt : (MpscState.consume^[k] s).remaining.length < m := by
        rw [← hm, hremaining]
        exact Nat.lt_succ_self _
      obtain ⟨k', s', hrun, hresults, hreturned, hexchanged, hrest⟩ :=
        ih _ hlt hs₁ (hpop.quiet hquiet) rfl
      refine ⟨k + k', s', ?_, ?_, ?_, ?_, hrest⟩
      · rw [List.replicate_add, Machine.run_append, run_consume]
        exact hrun
      · rw [hresults, hpop.results, hremaining]
        simp
      · rw [hreturned, hpop.exchanged]
      · rw [hexchanged, hpop.exchanged]

/-! ### From the middle of a pop -/

/-- An upper bound on the accesses left in the current pop. -/
def ConsumerPc.rank : ConsumerPc → Nat
  | .idle => 0
  | .final _ => 1
  | .stubLink _ _ => 2
  | .stubExchange _ => 3
  | .stubStore _ => 4
  | .loadNewest _ => 5
  | .reload _ => 6

/-- An access in the middle of a pop finishes it, without reporting the end, or brings it nearer to its
end. -/
theorem consume_busy {s : MpscState n} (hbusy : s.consumer ≠ .idle) :
    (∃ node, Popped s s.consume (node, false)) ∨
      (s.consume.consumer ≠ .idle ∧ s.consume.consumer.rank < s.consumer.rank ∧
        s.consume.producers = s.producers ∧ s.consume.exchanged = s.exchanged ∧
        s.consume.returned = s.returned ∧ s.consume.results = s.results) := by
  cases hpc : s.consumer with
  | idle => exact absurd hpc hbusy
  | reload tail =>
      cases hobj : s.next tail with
      | some obj => exact Or.inl ⟨some tail, by simp only [MpscState.consume, hpc, hobj]; constructor <;> rfl⟩
      | none => exact Or.inr (by simp [MpscState.consume, hpc, hobj, ConsumerPc.rank])
  | loadNewest tail =>
      by_cases hnewest : tail ≠ s.newest
      · refine Or.inl ⟨none, ?_⟩
        simp only [MpscState.consume, hpc, if_pos hnewest]
        constructor <;> rfl
      · exact Or.inr (by simp [MpscState.consume, hpc, hnewest, ConsumerPc.rank])
  | stubStore tail => exact Or.inr (by simp [MpscState.consume, hpc, ConsumerPc.rank])
  | stubExchange tail => exact Or.inr (by simp [MpscState.consume, hpc, ConsumerPc.rank])
  | stubLink tail prev => exact Or.inr (by simp [MpscState.consume, hpc, ConsumerPc.rank])
  | final tail =>
      cases hobj : s.next tail with
      | some obj => exact Or.inl ⟨some tail, by simp only [MpscState.consume, hpc, hobj]; constructor <;> rfl⟩
      | none => exact Or.inl ⟨none, by simp only [MpscState.consume, hpc, hobj]; constructor <;> rfl⟩

/-- A pop in progress comes to its end, without reporting the end of the queue. -/
theorem finish_pop {s : MpscState n} (hbusy : s.consumer ≠ .idle) :
    ∃ k node, Popped s (MpscState.consume^[k] s) (node, false) := by
  induction hm : s.consumer.rank using Nat.strong_induction_on generalizing s with
  | _ m ih =>
    rcases consume_busy hbusy with ⟨node, hpop⟩ | ⟨hbusy', hlt, hproducers, hexch, hret, hres⟩
    · exact ⟨1, node, hpop⟩
    · obtain ⟨k, node, hpop⟩ := ih _ (hm ▸ hlt) hbusy' rfl
      refine ⟨k + 1, node, ?_⟩
      rw [Function.iterate_succ_apply]
      exact ⟨hpop.producers.trans hproducers, hpop.consumer, hpop.exchanged.trans hexch,
        by rw [hpop.returned, hret], by rw [hpop.results, hres]⟩

/-- **Popping until the end**, wherever the consumer stands, once all pushes have finished. -/
theorem drain_finished {s : MpscState n} (hs : (mpscMachine n).Reachable s)
    (hproducers : ∀ p, s.producers p = .idle) :
    ∃ k s' popped, (mpscMachine n).run s (List.replicate k .consume) = some s' ∧
      s'.results = s.results ++ popped ++ [(none, true)] ∧ (∀ r ∈ popped, r.2 = false) ∧
      s'.returned = s.exchanged ∧ s'.exchanged = s.exchanged ∧ s'.consumer = .idle ∧
      s'.newest = .stub ∧ s'.oldest = .stub := by
  by_cases hidle : s.consumer = .idle
  · obtain ⟨k, s', hrun, hresults, hrest⟩ := drain_quiet hs ⟨hproducers, hidle⟩
    refine ⟨k, s', _, hrun, hresults, ?_, hrest⟩
    intro r hr
    obtain ⟨node, -, rfl⟩ := List.mem_map.mp hr
    rfl
  · -- first the pop in progress, then the pops of a quiet queue
    obtain ⟨k, node, hpop⟩ := finish_pop hidle
    have hs₁ := hs.run (fun _ _ _ => trivial) (run_consume k s)
    have hquiet : (MpscState.consume^[k] s).Quiet :=
      ⟨fun p => by rw [hpop.producers]; exact hproducers p, hpop.consumer⟩
    obtain ⟨k', s', hrun, hresults, hreturned, hexch, hrest⟩ := drain_quiet hs₁ hquiet
    refine ⟨k + k', s', (node, false) ::
      (MpscState.consume^[k] s).remaining.map (fun node => (some node, false)), ?_, ?_, ?_, ?_, ?_,
      hrest⟩
    · rw [List.replicate_add, Machine.run_append, run_consume]
      exact hrun
    · rw [hresults, hpop.results]
      simp
    · intro r hr
      rcases List.mem_cons.mp hr with rfl | hr
      · rfl
      · obtain ⟨x, -, rfl⟩ := List.mem_map.mp hr
        rfl
    · rw [hreturned, hpop.exchanged]
    · rw [hexch, hpop.exchanged]

/-! ### The queue as a whole -/

/-- The exits of a pop: no access but the first one, on a stub that nothing is linked behind, leaves
`true` in `*empty`. -/
theorem results_consume (s : MpscState n) :
    s.consume.results = s.results ∨ (∃ node, s.consume.results = s.results ++ [(node, false)]) ∨
      (s.consume = s.popReturn none true ∧ s.oldest = .stub ∧ s.next .stub = none) := by
  have hgoOn : ∀ s' : MpscState n, s'.results = s.results → s'.results = s.results ∨
      (∃ node, s'.results = s.results ++ [(node, false)]) ∨
        (s' = s.popReturn none true ∧ s.oldest = .stub ∧ s.next .stub = none) := fun _ h => Or.inl h
  unfold MpscState.consume
  split
  · -- the first access of a pop is the only one that can report the end
    split
    · next hstub =>
      split
      · next hnull => exact Or.inr (Or.inr ⟨rfl, hstub, hnull⟩)
      · exact hgoOn _ rfl
    · split
      · exact Or.inr (Or.inl ⟨_, rfl⟩)
      · exact hgoOn _ rfl
  · split
    · exact Or.inr (Or.inl ⟨_, rfl⟩)
    · exact hgoOn _ rfl
  · split
    · exact Or.inr (Or.inl ⟨_, rfl⟩)
    · exact hgoOn _ rfl
  · exact hgoOn _ rfl
  · exact hgoOn _ rfl
  · exact hgoOn _ rfl
  · split
    · exact Or.inr (Or.inl ⟨_, rfl⟩)
    · exact Or.inr (Or.inl ⟨_, rfl⟩)

/-- Producers do not touch the results of the pops. -/
theorem results_of_producer {s s' : MpscState n} {a : MpscAction n} (ha : a ≠ .consume)
    (hstep : s.step a = some s') : s'.results = s.results := by
  cases a with
  | push p node =>
      simp only [MpscState.step] at hstep
      split at hstep <;> cases hstep
      rfl
  | exchange p =>
      simp only [MpscState.step] at hstep
      split at hstep <;> cases hstep
      rfl
  | link p =>
      simp only [MpscState.step] at hstep
      split at hstep <;> cases hstep
      rfl
  | consume => exact absurd rfl ha

/-- A pop reports the end only at a stub that nothing is linked behind. -/
theorem stub_of_end {s s' : MpscState n} {a : MpscAction n} (hstep : s.step a = some s')
    (hend : s'.results = s.results ++ [(none, true)]) : s'.oldest = .stub ∧ s'.next .stub = none := by
  by_cases ha : a = .consume
  · subst ha
    cases hstep
    rcases results_consume s with hsame | ⟨node, hnode⟩ | ⟨heq, hold, hnull⟩
    · rw [hsame] at hend
      simp at hend
    · rw [hnode] at hend
      simp at hend
    · rw [heq]
      exact ⟨hold, hnull⟩
  · rw [results_of_producer ha hstep] at hend
    simp at hend

/-- **The queue is first-in first-out and loses nothing.** In every reachable state, under every
interleaving of the atomic steps: the nodes returned are a prefix of the nodes in the order of their
exchanges; a producer about to store a link does so into a node that has not been returned; a pop that
reports the end leaves no pushed node reachable from `_oldest`; and once all pushes have
finished, popping until the end terminates, returns every remaining node and leaves both ends of the
queue at the stub. -/
theorem mpscq_fifo (n : Nat) (s : MpscState n) (hs : (mpscMachine n).Reachable s) :
    s.returned <+: s.exchanged ∧
    (∀ p node prev, s.producers p = .exchanged node prev → prev = .stub ∨ s.InQueue prev) ∧
    (∀ a s', (mpscMachine n).step s a = some s' → s'.results = s.results ++ [(none, true)] →
      ∀ node, Relation.ReflTransGen (fun x y => s'.next x = some y) s'.oldest node →
        node = .stub) ∧
    ((∀ p, s.producers p = .idle) →
      ∃ k s' popped, (mpscMachine n).run s (List.replicate k .consume) = some s' ∧
        s'.results = s.results ++ popped ++ [(none, true)] ∧ (∀ r ∈ popped, r.2 = false) ∧
        s'.returned = s.exchanged ∧ s'.exchanged = s.exchanged ∧ s'.consumer = .idle ∧
        s'.newest = .stub ∧ s'.oldest = .stub) := by
  obtain ⟨l, hinv⟩ := mpscMachine_inv hs
  refine ⟨⟨_, returned_append_remaining hs⟩, ?_, ?_,
    drain_finished hs⟩
  · intro p node prev hp
    by_cases hprev : prev = .stub
    · exact Or.inl hprev
    · have hmem := (hinv.chain.pending_follows prev node (Or.inl ⟨p, hp⟩)).1.mem.1
      exact Or.inr (hinv.inQueue hmem hprev)
  · intro a s' hstep hend
    obtain ⟨hold, hnull⟩ := stub_of_end hstep hend
    intro node hreach
    rw [hold] at hreach
    -- the walk from the stub ends where it starts
    induction hreach with
    | refl => rfl
    | tail _ hlink ih =>
        rw [ih, hnull] at hlink
        cases hlink

/-- Two producers push at the same time; the second stores its link first. Both nodes come out in the order of the
exchanges. -/
theorem mpscq_fifo_two_producers :
    ∃ s : MpscState 2,
      (mpscMachine 2).run (mpscMachine 2).init
        [.push 0 (.item 4), .push 1 (.item 6), .exchange 0, .exchange 1, .link 1, .link 0] = some s ∧
      ∃ k s', (mpscMachine 2).run s (List.replicate k .consume) = some s' ∧
        s'.returned = [.item 4, .item 6] ∧ s'.newest = .stub ∧ s'.oldest = .stub := by
  obtain ⟨s, hrun, hfinished, hexchanged⟩ : ∃ s : MpscState 2,
      (mpscMachine 2).run (mpscMachine 2).init
        [.push 0 (.item 4), .push 1 (.item 6), .exchange 0, .exchange 1, .link 1, .link 0] = some s ∧
      (∀ p, s.producers p = .idle) ∧ s.exchanged = [.item 4, .item 6] := by
    refine ⟨_, rfl, ?_, rfl⟩
    decide
  obtain ⟨k, s', -, hdrain, -, -, hreturned, -, -, hnew, hold⟩ :=
    (mpscq_fifo 2 s (Machine.reachable_of_run hrun)).2.2.2 hfinished
  exact ⟨s, hrun, k, s', hdrain, hreturned.trans hexchanged, hnew, hold⟩

end RaptorLite
