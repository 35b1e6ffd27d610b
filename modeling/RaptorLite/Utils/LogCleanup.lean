import RaptorLite.Utils.LogRecords

/-! # Ending the log

`LogCleanup` sets `g_shutdown`, joins the thread that prints and frees what is left in the queue. From the moment
it has set the flag at most one more record is printed, whatever the other threads do, and the thread that prints
takes at most ten more steps and is never held up. Once no call is in progress the rest of `LogCleanup` comes to its
end too: every record that was not printed is freed, and the only memory that is left is that of the messages
which did not pass the level test. -/

namespace RaptorLite

variable {n : Nat}

/-- The number of printed records. -/
def LogState.printedCount (s : LogState n) : Nat := s.handled.countP (·.2 ≠ .discarded)

/-- What the thread may still print once the flag is set. -/
def LogThreadPc.budget : LogThreadPc → Nat
  | .popping => 1
  | .holding _ => 1
  | _ => 0

/-- An upper bound on the steps of the thread that prints, once the flag is set. -/
def LogState.left (s : LogState n) : Nat :=
  match s.thread with
  | .loop => 1
  | .printed _ => 2
  | .holding _ => 3
  | .popping => 3 + s.queue.consumer.left
  | _ => 0

/-- What the steps that end the log leave alone. -/
structure LogState.Kept (s s' : LogState n) : Prop where
  /-- The calls. -/
  callers : s'.callers = s.callers
  /-- The pushes. -/
  producers : s'.queue.producers = s.queue.producers
  /-- The records that were accepted. -/
  accepted : s'.accepted = s.accepted
  /-- The calls that did not pass. -/
  dropped : s'.dropped = s.dropped
  /-- The callback. -/
  logFunction : s'.logFunction = s.logFunction
  /-- The flag. -/
  shutdown : s'.shutdown = s.shutdown

/-- Every state keeps what it has. -/
theorem LogState.Kept.refl (s : LogState n) : s.Kept s := ⟨rfl, rfl, rfl, rfl, rfl, rfl⟩

/-- What is kept over two runs is kept over both. -/
theorem LogState.Kept.trans {s₁ s₂ s₃ : LogState n} (h : s₁.Kept s₂) (h' : s₂.Kept s₃) : s₁.Kept s₃ where
  callers := h'.callers.trans h.callers
  producers := h'.producers.trans h.producers
  accepted := h'.accepted.trans h.accepted
  dropped := h'.dropped.trans h.dropped
  logFunction := h'.logFunction.trans h.logFunction
  shutdown := h'.shutdown.trans h.shutdown

/-- The records that wait to be taken out and settled. -/
def LogState.waitingRecords (s : LogState n) : List (LogRecord n) := s.unhandled.filterMap s.record

section Cleanup

variable {s s' : LogState n} {later : List (LogRecord n × LogFate)}

/-- What is settled comes from the front of what waits. -/
theorem LogInv.waiting_split (h : LogInv s) (h' : LogInv s') (hkept : s.Kept s')
    (hhandled : s'.handled = s.handled ++ later) :
    s.waitingRecords = later.map Prod.fst ++ s'.waitingRecords := by
  have hsplit := hkept.accepted
  rw [h'.order.fifo, h.order.fifo, hhandled, List.map_append, List.append_assoc] at hsplit
  exact (List.append_cancel_left hsplit).symm

/-! ### The thread that prints -/

/-- One step of the thread that prints while the flag is set. -/
theorem LogInv.work_closing (h : LogInv s) (hshutdown : s.shutdown = true) (habsent : s.thread ≠ .absent)
    (hwaiting : s.thread ≠ .waiting) (hended : s.thread ≠ .ended) :
    ∃ s' later, s.work = some s' ∧ s.Kept s' ∧ s'.owner = s.owner ∧ s'.left < s.left ∧ s'.thread ≠ .absent ∧
      s'.thread ≠ .waiting ∧ s'.handled = s.handled ++ later ∧ (∀ e ∈ later, e.2 = .printed s.logFunction) ∧
      later.length + s'.thread.budget ≤ s.thread.budget := by
  cases hpc : s.thread with
  | absent => exact absurd hpc habsent
  | waiting => exact absurd hpc hwaiting
  | ended => exact absurd hpc hended
  | loop =>
      refine ⟨{ s with thread := .ended }, [], ?_, ⟨rfl, rfl, rfl, rfl, rfl, rfl⟩, rfl, ?_, by simp, by simp,
        (List.append_nil _).symm, by simp, by simp [LogThreadPc.budget]⟩
      · rw [LogState.work, hpc, hshutdown]
        rfl
      · simp [LogState.left, hpc]
  | popping =>
      obtain ⟨s', hstep⟩ : ∃ s', s.work = some s' := by
        rw [LogState.work, hpc]
        exact ⟨_, rfl⟩
      have hpop := hstep
      rw [LogState.work, hpc] at hpop
      obtain ⟨q, rfl, -, hproducers, ⟨rfl, hbusy, -⟩ | ⟨node, empty, rfl, -⟩⟩ := h.popStep hpop
      · refine ⟨_, [], hstep, ⟨rfl, hproducers, rfl, rfl, rfl, rfl⟩, rfl, ?_, habsent, hwaiting,
          (List.append_nil _).symm, by simp, by simp [hpc]⟩
        have hlt := consume_left hbusy
        simp only [LogState.left, hpc]
        omega
      · have hpos := s.queue.consumer.left_pos
        cases node with
        | none =>
            refine ⟨_, [], hstep, ⟨rfl, hproducers, rfl, rfl, rfl, rfl⟩, rfl, ?_, by simp, by simp,
              (List.append_nil _).symm, by simp, by simp [LogThreadPc.budget]⟩
            simp only [LogState.left, hpc]
            omega
        | some node =>
            refine ⟨_, [], hstep, ⟨rfl, hproducers, rfl, rfl, rfl, rfl⟩, rfl, ?_, by simp, by simp,
              (List.append_nil _).symm, by simp, by simp [LogThreadPc.budget]⟩
            simp only [LogState.left, hpc]
            omega
  | holding node =>
      have hmem : node ∈ s.places := by
        rw [LogState.places, hpc]
        simp [LogThreadPc.hand]
      obtain ⟨a, args, record, -, -, hrecord, -⟩ := h.release_eq hmem
      refine ⟨{ s with handled := s.handled ++ [(record, .printed s.logFunction)], thread := .printed node },
        [(record, .printed s.logFunction)], ?_, ⟨rfl, rfl, rfl, rfl, rfl, rfl⟩, rfl, ?_, by simp, by simp, rfl,
        by simp, by simp [LogThreadPc.budget]⟩
      · rw [LogState.work, hpc]
        simp only [LogState.settle, hrecord]
      · simp [LogState.left, hpc]
  | printed node =>
      have hmem : node ∈ s.places := by
        rw [LogState.places, hpc]
        simp [LogThreadPc.hand]
      obtain ⟨a, args, record, rfl, hargs, -, hrelease⟩ := h.release_eq hmem
      have hstep : s.work = some { s with
          nodes := Function.update s.nodes a none
          texts := Function.update s.texts args.message none
          thread := .loop } := by
        rw [LogState.work, hpc]
        exact congrArg (fun t : LogState n => some { t with thread := .loop }) (hrelease s.handled)
      refine ⟨_, [], hstep, ⟨rfl, rfl, rfl, rfl, rfl, rfl⟩, rfl, ?_, by simp, by simp, (List.append_nil _).symm,
        by simp, by simp [LogThreadPc.budget]⟩
      simp [LogState.left, hpc]

/-- Once the flag is set the thread that prints ends by itself, after at most `left` steps. -/
theorem LogInv.thread_ends (h : LogInv s) (hshutdown : s.shutdown = true) (habsent : s.thread ≠ .absent)
    (hwaiting : s.thread ≠ .waiting) :
    ∃ k s' later, k ≤ s.left ∧ (logMachine n).run s (List.replicate k .work) = some s' ∧ LogInv s' ∧ s.Kept s' ∧
      s'.owner = s.owner ∧ s'.thread = .ended ∧ s'.handled = s.handled ++ later ∧
      (∀ e ∈ later, e.2 = .printed s.logFunction) ∧ later.length ≤ s.thread.budget := by
  induction hm : s.left using Nat.strong_induction_on generalizing s with
  | _ m ih =>
    by_cases hended : s.thread = .ended
    · exact ⟨0, s, [], Nat.zero_le _, rfl, h, .refl s, rfl, hended, (List.append_nil _).symm, by simp, by simp⟩
    · obtain ⟨s₁, later₁, hstep, hkept₁, howner₁, hleft, habsent₁, hwaiting₁, hhandled₁, hfate₁, hbudget₁⟩ :=
        h.work_closing hshutdown habsent hwaiting hended
      obtain ⟨k, s', later, hk, hrun, hinv, hkept, howner, hthread, hhandled, hfate, hbudget⟩ :=
        ih _ (hm ▸ hleft) (h.work hstep) (hkept₁.shutdown.trans hshutdown) habsent₁ hwaiting₁ rfl
      refine ⟨k + 1, s', later₁ ++ later, by omega, ?_, hinv, hkept₁.trans hkept, howner.trans howner₁, hthread,
        ?_, ?_, ?_⟩
      · rw [List.replicate_succ, Machine.run_cons]
        exact (congrArg (·.bind fun t => (logMachine n).run t (List.replicate k .work)) hstep).trans hrun
      · rw [hhandled, hhandled₁, List.append_assoc]
      · intro e he
        rcases List.mem_append.mp he with he | he
        · exact hfate₁ e he
        · rw [hfate e he, hkept₁.logFunction]
      · rw [List.length_append]
        omega

/-! ### What is left in the queue -/

/-- `PopAndCheckEnd` in `LogCleanup`, as far as it returns. -/
theorem LogInv.drain_pop (h : LogInv s) (hpc : s.owner = .draining) (k : Nat) (node : Option QueueNode)
    (empty : Bool) (hpop : Popped s.queue (MpscState.consume^[k] s.queue) (node, empty)) :
    ∃ j q, (logMachine n).run s (List.replicate j .own) = some (match node with
        | some node => { s with queue := q, owner := .clearing node empty }
        | none => { s with queue := q, owner := if empty then .idle else .draining }) ∧
      Popped s.queue q (node, empty) := by
  induction k generalizing s with
  | zero =>
      have hresults := hpop.results
      simp at hresults
  | succ k ih =>
      obtain ⟨s₁, hstep⟩ : ∃ s₁, s.own = some s₁ := by
        rw [LogState.own, hpc]
        exact ⟨_, rfl⟩
      have hown := hstep
      rw [LogState.own, hpc] at hown
      obtain ⟨q, rfl, -, hproducers, ⟨rfl, hbusy, -⟩ | ⟨node', empty', rfl, hpop', -⟩⟩ := h.popStep hown
      · -- nothing has been returned yet
        rcases consume_cases s.queue with ⟨result, hdone⟩ | ⟨-, -, hexchanged, hreturned, hresults⟩
        · exact absurd hdone.consumer hbusy
        · have hpop₁ : Popped s.queue.consume (MpscState.consume^[k] s.queue.consume) (node, empty) :=
            ⟨hpop.producers.trans hproducers.symm, hpop.consumer, hpop.exchanged.trans hexchanged.symm,
              by rw [hreturned]; exact hpop.returned, by rw [hresults]; exact hpop.results⟩
          obtain ⟨j, q, hrun, hq⟩ := ih (h.own hstep) hpc hpop₁
          refine ⟨j + 1, q, ?_, ⟨hq.producers.trans hproducers, hq.consumer, hq.exchanged.trans hexchanged,
            by rw [hq.returned, hreturned], by rw [hq.results, hresults]⟩⟩
          rw [List.replicate_succ, Machine.run_cons]
          exact (congrArg (·.bind fun t => (logMachine n).run t (List.replicate j .own)) hstep).trans hrun
      · obtain ⟨rfl, rfl⟩ := Prod.mk.inj (hpop'.first hpop)
        refine ⟨1, s.queue.consume, ?_, hpop'⟩
        show (s.own.bind fun t => some t) = _
        rw [hstep]
        cases node' <;> rfl

/-- The log invariant holds along every run. -/
theorem LogInv.run (h : LogInv s) {acts : List (LogAction n)} (hrun : (logMachine n).run s acts = some s') :
    LogInv s' := by
  induction acts generalizing s with
  | nil =>
      cases hrun
      exact h
  | cons act rest ih =>
      obtain ⟨t, hstep, hrest⟩ := Option.bind_eq_some_iff.mp hrun
      exact ih (h.exec hstep) hrest

/-- What `PopAndCheckEnd` returned is freed, and the loop goes on. -/
theorem LogInv.clear (h : LogInv s) {node : QueueNode} (hpc : s.owner = .clearing node false) :
    ∃ s' record, s.own = some s' ∧ s.Kept s' ∧ s'.queue = s.queue ∧ s'.owner = .draining ∧
      s'.handled = s.handled ++ [(record, .discarded)] := by
  have hmem : node ∈ s.places := by
    rw [LogState.places, hpc]
    simp [LogOwnerPc.hand]
  obtain ⟨a, args, record, rfl, -, hrecord, hrelease⟩ := h.release_eq hmem
  have hsettle : s.settle (.item a) .discarded = { s with handled := s.handled ++ [(record, .discarded)] } := by
    rw [LogState.settle, hrecord]
  have hstep : s.own = some { s with
      handled := s.handled ++ [(record, .discarded)]
      nodes := Function.update s.nodes a none
      texts := Function.update s.texts args.message none
      owner := .draining } := by
    rw [LogState.own, hpc]
    exact congrArg (fun t : LogState n => some { t with owner := .draining })
      ((congrArg (LogState.release · (.item a)) hsettle).trans (hrelease _))
  exact ⟨_, record, hstep, ⟨rfl, rfl, rfl, rfl, rfl, rfl⟩, rfl, rfl, rfl⟩

/-- With no push in progress the loop of `LogCleanup` frees everything that is in the queue, and ends. -/
theorem LogInv.drain_end (h : LogInv s) (hpc : s.owner = .draining) (hidle : s.queue.consumer = .idle)
    (hproducers : ∀ p, s.queue.producers p = .idle) :
    ∃ k s' later, (logMachine n).run s (List.replicate k .own) = some s' ∧ LogInv s' ∧ s.Kept s' ∧
      s'.owner = .idle ∧ s'.queue.remaining = [] ∧ s'.handled = s.handled ++ later ∧
      ∀ e ∈ later, e.2 = .discarded := by
  induction hm : s.queue.remaining.length using Nat.strong_induction_on generalizing s with
  | _ m ih =>
    obtain ⟨l, hinv⟩ := mpscMachine_inv h.control.queue
    obtain ⟨k, ⟨hpop, hall, -⟩ | ⟨node, hpop⟩⟩ := pop_quiet hinv ⟨hproducers, hidle⟩
    · -- nothing is left
      obtain ⟨j, q, hrun, hq⟩ := h.drain_pop hpc k none true hpop
      have h' := h.run hrun
      have hremaining := hq.remaining h.control.queue h'.control.queue
      rw [MpscState.remaining, hall, List.drop_length] at hremaining
      exact ⟨j, _, [], hrun, h', ⟨rfl, hq.producers, rfl, rfl, rfl, rfl⟩, rfl, hremaining.symm,
        (List.append_nil _).symm, by simp⟩
    · -- one node is freed, and the loop goes on
      obtain ⟨j, q, hrun, hq⟩ := h.drain_pop hpc k (some node) false hpop
      have h₁ := h.run hrun
      have hremaining : s.queue.remaining = node :: q.remaining := hq.remaining h.control.queue h₁.control.queue
      obtain ⟨s₂, record, hstep, hkept₂, hqueue₂, howner₂, hhandled₂⟩ := h₁.clear rfl
      have hlt : s₂.queue.remaining.length < m := by
        rw [hqueue₂, ← hm, hremaining]
        exact Nat.lt_succ_self _
      obtain ⟨i, s', later, hrun', h', hkept, howner, hremaining', hhandled, hfate⟩ :=
        ih _ hlt (h₁.own hstep) howner₂ (by rw [hqueue₂]; exact hq.consumer)
          (fun p => by rw [hkept₂.producers]; exact (congrFun hq.producers p).trans (hproducers p)) rfl
      have hkept₁ : s.Kept { s with queue := q, owner := .clearing node false } :=
        ⟨rfl, hq.producers, rfl, rfl, rfl, rfl⟩
      refine ⟨j + (i + 1), s', (record, .discarded) :: later, ?_, h', (hkept₁.trans hkept₂).trans hkept, howner,
        hremaining', ?_, ?_⟩
      · rw [List.replicate_add, Machine.run_append, hrun, Option.bind_some, List.replicate_succ, Machine.run_cons]
        exact (congrArg (·.bind fun t => (logMachine n).run t (List.replicate i .own)) hstep).trans hrun'
      · rw [hhandled, hhandled₂, List.append_assoc, List.singleton_append]
      · intro e he
        rcases List.mem_cons.mp he with rfl | he
        · rfl
        · exact hfate e he

/-! ### Other threads while the log ends -/

/-- The steps of those who write to the log, and of those who set it up. -/
theorem LogState.exec_frame {act : LogAction n} (howner : act ≠ .own) (hwork : act ≠ .work)
    (hcleanup : act ≠ .cleanup) (hstartup : ∀ b, act ≠ .startup b) (hstep : s.exec act = some s') :
    s'.thread = s.thread ∧ s'.owner = s.owner ∧ s'.shutdown = s.shutdown ∧ s'.handled = s.handled ∧
      s'.queue.consumer = s.queue.consumer := by
  have hqueue : ∀ {t t' : LogState n} {a : MpscAction n}, a ≠ .consume → t.queueStep a = some t' →
      t'.thread = t.thread ∧ t'.owner = t.owner ∧ t'.shutdown = t.shutdown ∧ t'.handled = t.handled ∧
        t'.queue.consumer = t.queue.consumer := by
    intro t t' a ha h
    obtain ⟨q, hq, rfl⟩ := Option.map_eq_some_iff.mp h
    exact ⟨rfl, rfl, rfl, rfl, consumer_step ha hq⟩
  cases act with
  | call p file line level text message =>
      simp only [LogState.exec, LogState.call] at hstep
      split at hstep
      · split at hstep
        · cases hstep
          exact ⟨rfl, rfl, rfl, rfl, rfl⟩
        · split at hstep
          · cases hstep
            exact ⟨rfl, rfl, rfl, rfl, rfl⟩
          · split at hstep <;> cases hstep
            exact ⟨rfl, rfl, rfl, rfl, rfl⟩
      · cases hstep
  | check p address =>
      simp only [LogState.exec, LogState.check] at hstep
      split at hstep
      · cases hstep
      · split at hstep
        · split at hstep
          · have hframe := hqueue (by simp) hstep
            exact hframe
          · cases hstep
        · cases hstep
          exact ⟨rfl, rfl, rfl, rfl, rfl⟩
  | exchange p =>
      simp only [LogState.exec, LogState.exchange] at hstep
      split at hstep
      · obtain ⟨t, ht, rfl⟩ := Option.map_eq_some_iff.mp hstep
        have hframe := hqueue (by simp) ht
        exact hframe
      · cases hstep
  | link p => exact hqueue (by simp) hstep
  | setLevel level =>
      cases hstep
      exact ⟨rfl, rfl, rfl, rfl, rfl⟩
  | setPrintCallback func =>
      cases hstep
      exact ⟨rfl, rfl, rfl, rfl, rfl⟩
  | startup b => exact absurd rfl (hstartup b)
  | cleanup => exact absurd rfl hcleanup
  | own => exact absurd rfl howner
  | work => exact absurd rfl hwork

/-- One step of anybody while the log ends: what may still be printed does not grow, and neither does the bound on the
steps of the thread that prints, which falls with each of them. -/
theorem LogInv.closing (h : LogInv s) {act : LogAction n} (hshutdown : s.shutdown = true)
    (howner : s.owner ≠ .created) (hstartup : ∀ b, act ≠ .startup b) (hstep : s.exec act = some s') :
    s'.shutdown = true ∧ s'.owner ≠ .created ∧
      s'.printedCount + s'.thread.budget ≤ s.printedCount + s.thread.budget ∧
      s'.left + (if act = .work then 1 else 0) ≤ s.left := by
  by_cases hown : act = .own
  · subst hown
    have hown : s.own = some s' := hstep
    have hphase := h.control.phase
    cases hpc : s.owner with
    | idle => simp [LogState.own, hpc] at hown
    | created => exact absurd hpc howner
    | flagged =>
        rw [hpc, hshutdown] at hphase
        exact hphase.elim
    | joining =>
        simp only [LogState.own, hpc] at hown
        split at hown
        · cases hown
          exact ⟨hshutdown, by simp, by simp [LogState.printedCount, LogThreadPc.budget], by simp [LogState.left]⟩
        · cases hown
    | draining =>
        -- there is no thread that prints
        have habsent : s.thread = .absent := by
          rw [hpc, hshutdown] at hphase
          exact hphase
        rw [LogState.own, hpc] at hown
        obtain ⟨q, -, -, -, ⟨rfl, -⟩ | ⟨node, empty, rfl, -⟩⟩ := h.popStep hown
        · exact ⟨hshutdown, howner, Nat.le_refl _, by simp [LogState.left, habsent]⟩
        · cases node with
          | none => exact ⟨hshutdown, by cases empty <;> simp, Nat.le_refl _, by simp [LogState.left, habsent]⟩
          | some node => exact ⟨hshutdown, by simp, Nat.le_refl _, by simp [LogState.left, habsent]⟩
    | clearing node empty =>
        have hmem : node ∈ s.places := by
          rw [LogState.places, hpc]
          simp [LogOwnerPc.hand]
        obtain ⟨a, args, record, rfl, hargs, hrecord, hrelease⟩ := h.release_eq hmem
        have hsettle : s.settle (.item a) .discarded =
            { s with handled := s.handled ++ [(record, .discarded)] } := by
          rw [LogState.settle, hrecord]
        rw [LogState.own, hpc] at hown
        cases hown
        rw [hsettle, hrelease]
        refine ⟨hshutdown, by cases empty <;> simp, ?_, by simp [LogState.left]⟩
        simp [LogState.printedCount]
  · by_cases hwork : act = .work
    · subst hwork
      by_cases hrunning : s.thread ≠ .absent ∧ s.thread ≠ .waiting ∧ s.thread ≠ .ended
      · obtain ⟨t, later, hwork, hkept, howner', hleft, -, -, hhandled, hfate, hbudget⟩ :=
          h.work_closing hshutdown hrunning.1 hrunning.2.1 hrunning.2.2
        obtain rfl : t = s' := Option.some.inj (hwork.symm.trans hstep)
        refine ⟨hkept.shutdown.trans hshutdown, by rw [howner']; exact howner, ?_, by rw [if_pos rfl]; exact hleft⟩
        have hcount : later.countP (·.2 ≠ .discarded) ≤ later.length := List.countP_le_length
        rw [LogState.printedCount, hhandled, List.countP_append, ← LogState.printedCount]
        omega
      · -- there is no such thread, or it is not running
        have hnone : s.work = none := by
          cases hpc : s.thread <;> simp_all [LogState.work]
        have hsome : s.work = some s' := hstep
        rw [hnone] at hsome
        cases hsome
    · by_cases hcleanup : act = .cleanup
      · subst hcleanup
        have hcall : s.cleanup = some s' := hstep
        simp only [LogState.cleanup] at hcall
        split at hcall
        · cases hcall
          exact ⟨hshutdown, howner, Nat.le_refl _, Nat.le_refl _⟩
        · cases hcall
      · obtain ⟨hthread, howner', hshutdown', hhandled, hconsumer⟩ :=
          LogState.exec_frame hown hwork hcleanup hstartup hstep
        have hleft : s'.left = s.left := by rw [LogState.left, LogState.left, hthread, hconsumer]
        rw [LogState.printedCount, hhandled, hthread, ← LogState.printedCount, hleft, if_neg hwork]
        exact ⟨hshutdown'.trans hshutdown, by rw [howner']; exact howner, Nat.le_refl _, Nat.le_refl _⟩

/-- A run of all threads while the log ends. The number of steps of the thread that prints is what its bound has fallen
by, at most. -/
theorem LogInv.run_closing (h : LogInv s) (hshutdown : s.shutdown = true) (howner : s.owner ≠ .created)
    {acts : List (LogAction n)} (hstartup : ∀ act ∈ acts, ∀ b, act ≠ .startup b)
    (hrun : (logMachine n).run s acts = some s') :
    s'.shutdown = true ∧ s'.owner ≠ .created ∧
      s'.printedCount + s'.thread.budget ≤ s.printedCount + s.thread.budget ∧ s'.left + acts.count .work ≤ s.left := by
  induction acts generalizing s with
  | nil =>
      cases hrun
      exact ⟨hshutdown, howner, Nat.le_refl _, Nat.le_refl _⟩
  | cons act rest ih =>
      obtain ⟨t, hstep, hrest⟩ := Option.bind_eq_some_iff.mp hrun
      obtain ⟨hshutdown₁, howner₁, hcount₁, hleft₁⟩ :=
        h.closing hshutdown howner (hstartup act List.mem_cons_self) hstep
      obtain ⟨hshutdown', howner', hcount, hleft⟩ := ih (h.exec hstep) hshutdown₁ howner₁
        (fun a ha => hstartup a (List.mem_cons_of_mem _ ha)) hrest
      refine ⟨hshutdown', howner', hcount.trans hcount₁, ?_⟩
      rw [List.count_cons]
      simp only [beq_iff_eq]
      omega

/-- Once the flag is set the thread that prints is not there, has ended, or can take its next step. -/
theorem LogInv.work_enabled (h : LogInv s) (hshutdown : s.shutdown = true) (howner : s.owner ≠ .created) :
    s.thread = .absent ∨ s.thread = .ended ∨ (s.exec .work).isSome := by
  by_cases habsent : s.thread = .absent
  · exact Or.inl habsent
  by_cases hended : s.thread = .ended
  · exact Or.inr (Or.inl hended)
  -- the thread is in its loop
  have hwaiting : s.thread ≠ .waiting := by
    intro hwaiting
    have hphase := h.control.phase
    rw [hshutdown, hwaiting] at hphase
    cases hpc : s.owner <;> rw [hpc] at hphase <;> simp_all [LogPhase]
  obtain ⟨s', -, hwork, -⟩ := h.work_closing hshutdown habsent hwaiting hended
  refine Or.inr (Or.inr ?_)
  rw [LogState.exec, hwork]
  rfl

end Cleanup

/-! ### `LogCleanup` as a whole -/

section AsAWhole

variable {s s₁ : LogState n}

/-- Once the flag is set the thread prints at most one more record. -/
theorem LogThreadPc.budget_le (t : LogThreadPc) : t.budget ≤ 1 := by
  cases t <;> simp [budget]

/-- Once the flag is set the thread has at most ten steps left. -/
theorem LogState.left_le (s : LogState n) : s.left ≤ 10 := by
  have hleft : s.queue.consumer.left ≤ 7 := by cases s.queue.consumer <;> simp [ConsumerPc.left, ConsumerPc.rank]
  rw [left]
  split <;> omega

/-- Records that all had the same fate. -/
theorem map_fst_fate {l : List (LogRecord n × LogFate)} {fate : LogFate} (h : ∀ e ∈ l, e.2 = fate) :
    (l.map Prod.fst).map (·, fate) = l := by
  rw [List.map_map]
  refine (List.map_congr_left fun e he => ?_).trans l.map_id
  show (e.1, fate) = e
  rw [← h e he]

/-- A call of `LogCleanup` on a log that runs finds nobody in `LogStartup` or `LogCleanup`, and sets the flag. -/
theorem LogState.cleanup_some (hopen : s.shutdown = false) (hcall : s.exec .cleanup = some s₁) :
    s.owner = .idle ∧ s₁ = { s with shutdown := true, owner := .joining } := by
  simp only [LogState.exec, LogState.cleanup, hopen] at hcall
  split at hcall
  · next hidle =>
    cases hcall
    exact ⟨hidle, rfl⟩
  · cases hcall

/-- With the flag set the thread that prints, if there is one, comes to its end by its own steps. -/
theorem LogInv.thread_gone (h : LogInv s) (hshutdown : s.shutdown = true) (hwaiting : s.thread ≠ .waiting) :
    ∃ k s' printed, (logMachine n).run s (List.replicate k .work) = some s' ∧ LogInv s' ∧ s.Kept s' ∧
      s'.owner = s.owner ∧ (s'.thread = .ended ∨ s'.thread = .absent) ∧ s'.handled = s.handled ++ printed ∧
      (∀ e ∈ printed, e.2 = .printed s.logFunction) ∧ printed.length ≤ 1 := by
  by_cases habsent : s.thread = .absent
  · exact ⟨0, s, [], rfl, h, .refl s, rfl, Or.inr habsent, (List.append_nil _).symm, by simp, by simp⟩
  · obtain ⟨k, s', printed, -, hrun, h', hkept, howner, hended, hhandled, hfate, hlength⟩ :=
      h.thread_ends hshutdown habsent hwaiting
    exact ⟨k, s', printed, hrun, h', hkept, howner, Or.inl hended, hhandled, hfate,
      hlength.trans s.thread.budget_le⟩

/-- The rest of `LogCleanup`, with no push in progress: it joins the thread that prints and empties the queue. -/
theorem LogInv.join_drain (h : LogInv s) (hshutdown : s.shutdown = true) (howner : s.owner = .joining)
    (hthread : s.thread = .ended ∨ s.thread = .absent) (hproducers : ∀ p, s.queue.producers p = .idle) :
    ∃ m s' freed, (logMachine n).run s (List.replicate m .own) = some s' ∧ LogInv s' ∧ s.Kept s' ∧
      s'.owner = .idle ∧ s'.thread = .absent ∧ s'.queue.remaining = [] ∧ s'.handled = s.handled ++ freed ∧
      ∀ e ∈ freed, e.2 = .discarded := by
  have hjoin : s.own = some { s with thread := .absent, owner := .draining } := by
    rw [LogState.own, howner]
    exact if_pos hthread
  have hconsumer := h.consumer_idle (by rcases hthread with ht | ht <;> simp [ht]) (by simp [howner])
  obtain ⟨m, s', freed, hrun, h', hkept', howner', hremaining, hhandled, hfate⟩ :=
    (h.own hjoin).drain_end rfl hconsumer hproducers
  have hjoined : s.Kept { s with thread := .absent, owner := .draining } := ⟨rfl, rfl, rfl, rfl, rfl, rfl⟩
  have hkept := hjoined.trans hkept'
  have hthread' : s'.thread = .absent := by
    have hphase' := h'.control.phase
    rw [howner', hkept.shutdown.trans hshutdown] at hphase'
    exact hphase'
  refine ⟨m + 1, s', freed, ?_, h', hkept, howner', hthread', hremaining, hhandled, hfate⟩
  rw [List.replicate_succ, Machine.run_cons]
  exact (congrArg (·.bind fun t => (logMachine n).run t (List.replicate m .own)) hjoin).trans hrun

/-- With nothing at any place and no call in progress, no record waits, no node is left, and the messages that are
left are those that nobody frees. -/
theorem LogInv.nothing_left (h : LogInv s) (hplaces : s.places = [])
    (hquiet : ∀ p, s.callers p = .idle ∧ s.queue.producers p = .idle) :
    s.waitingRecords = [] ∧ (∀ a, s.nodes a = none) ∧
      ∀ t, (s.texts t).isSome ↔ ∃ args ∈ s.dropped, args.message = t := by
  have hnodes : ∀ a, s.nodes a = none := by
    intro a
    by_contra hsome
    have hlive : (s.argsOf (.item a)).isSome := Option.isSome_iff_ne_none.mpr hsome
    rcases (h.nodes.live (.item a)).mp hlive with hmem | ⟨p, hp⟩
    · rw [hplaces] at hmem
      cases hmem
    · rw [(hquiet p).2] at hp
      cases hp
  refine ⟨?_, hnodes, ?_⟩
  · have hunhandled := s.unhandled_subset
    rw [hplaces] at hunhandled
    rw [LogState.waitingRecords, List.subset_nil.mp hunhandled, List.filterMap_nil]
  · intro t
    rw [h.texts_iff t]
    constructor
    · rintro (⟨a, args, hargs, -⟩ | ⟨p, args, hp, -⟩ | hdropped)
      · rw [hnodes a] at hargs
        cases hargs
      · rw [(hquiet p).1] at hp
        cases hp
      · exact hdropped
    · exact fun hdropped => Or.inr (Or.inr hdropped)

end AsAWhole

/-- `LogCleanup` is called on a log that runs. From then on, in every run of all threads until the log is started
again, at most one more record is printed, the thread that prints takes at most ten steps, and as long as it has not
ended it can take its next one, so that `Join` waits for nobody else. And when no call is in progress, `LogCleanup`
comes to its end: of the records that waited the first may have been printed, the others are freed, no node is left,
and the messages that are left are those of the calls that did not pass the level test. -/
theorem LogState.log_cleanup {n : Nat} {s s₁ : LogState n} (hs : (logMachine n).Reachable s)
    (hopen : s.shutdown = false) (hcall : s.exec .cleanup = some s₁) :
    (∀ acts s', (∀ act ∈ acts, ∀ b, act ≠ .startup b) → (logMachine n).run s₁ acts = some s' →
      s'.printedCount ≤ s.printedCount + 1 ∧ acts.count .work ≤ 10 ∧
      (s'.thread = .absent ∨ s'.thread = .ended ∨ (s'.exec .work).isSome)) ∧
    ((∀ p, s.callers p = .idle ∧ s.queue.producers p = .idle) →
      ∃ k m s' j, (logMachine n).run s₁ (List.replicate k .work ++ List.replicate m .own) = some s' ∧
        s'.owner = .idle ∧ s'.thread = .absent ∧ j ≤ 1 ∧
        s'.handled = s.handled ++ (s.waitingRecords.take j).map (·, .printed s.logFunction) ++
          (s.waitingRecords.drop j).map (·, .discarded) ∧
        (∀ a, s'.nodes a = none) ∧
        ∀ t, (s'.texts t).isSome ↔ ∃ args ∈ s.dropped, args.message = t) := by
  have h := logMachine_inv hs
  have h₁ := h.exec hcall
  obtain ⟨hidle, rfl⟩ := LogState.cleanup_some hopen hcall
  refine ⟨?_, ?_⟩
  · intro acts s' hstartup hrun
    obtain ⟨hshutdown, howner, hcount, hleft⟩ := h₁.run_closing rfl (by simp) hstartup hrun
    refine ⟨?_, ?_, (h₁.run hrun).work_enabled hshutdown howner⟩
    · have hbudget := s.thread.budget_le
      have hcount : s'.printedCount + s'.thread.budget ≤ s.printedCount + s.thread.budget := hcount
      omega
    · have hten := LogState.left_le { s with shutdown := true, owner := .joining }
      omega
  · intro hquiet
    have hwaiting : s.thread ≠ .waiting := by
      have hphase := h.control.phase
      rw [hidle, hopen] at hphase
      exact hphase.1
    -- the thread that prints comes to its end, it is joined, and the queue is emptied
    obtain ⟨k, s₂, printed, hrun₂, h₂, hkept₂, howner₂, hthread₂, hhandled₂, hfate₂, hlength⟩ :=
      h₁.thread_gone rfl hwaiting
    obtain ⟨m, s', freed, hrun', h', hkept', howner', hthread', hremaining, hhandled', hfate'⟩ :=
      h₂.join_drain hkept₂.shutdown howner₂ hthread₂ fun p => (congrFun hkept₂.producers p).trans (hquiet p).2
    have hkept : LogState.Kept { s with shutdown := true, owner := .joining } s' := hkept₂.trans hkept'
    have hhandled : s'.handled = s.handled ++ (printed ++ freed) := by
      rw [hhandled', ← List.append_assoc, ← hhandled₂]
    have hplaces : s'.places = [] := by
      rw [LogState.places, hthread', howner', hremaining]
      rfl
    obtain ⟨hnone, hnodes, htexts⟩ := h'.nothing_left hplaces fun p =>
      ⟨(congrFun hkept.callers p).trans (hquiet p).1, (congrFun hkept.producers p).trans (hquiet p).2⟩
    -- what was settled is what waited
    have hwaited : s.waitingRecords = printed.map Prod.fst ++ freed.map Prod.fst := by
      have hsplit := h₁.waiting_split h' hkept hhandled
      rw [hnone, List.append_nil, List.map_append] at hsplit
      refine Eq.trans ?_ hsplit
      show (s.thread.unprinted ++ s.owner.hand ++ s.queue.remaining).filterMap s.record = _
      rw [hidle]
      rfl
    refine ⟨k, m, s', printed.length, ?_, howner', hthread', hlength, ?_, hnodes, ?_⟩
    · rw [Machine.run_append, hrun₂, Option.bind_some]
      exact hrun'
    · have hlen : printed.length = (printed.map Prod.fst).length := (List.length_map _).symm
      rw [hwaited, hlen, List.take_left, List.drop_left, map_fst_fate hfate₂, map_fst_fate hfate', hhandled,
        List.append_assoc]
    · intro t
      rw [htexts t, hkept.dropped]

/-- Two records wait when the log is ended: at most one of them is printed, and both nodes are freed. -/
theorem LogState.log_cleanup_two_waiting :
    ∃ s s₁ : LogState 1, (logMachine 1).Reachable s ∧ s.exec .cleanup = some s₁ ∧ s.accepted.length = 2 ∧
      s.printedCount = 0 ∧
      (∀ acts s', (∀ act ∈ acts, ∀ b, act ≠ .startup b) → (logMachine 1).run s₁ acts = some s' →
        s'.printedCount ≤ 1 ∧ acts.count .work ≤ 10) ∧
      ∃ k m s', (logMachine 1).run s₁ (List.replicate k .work ++ List.replicate m .own) = some s' ∧
        s'.owner = .idle ∧ s'.nodes 3 = none ∧ s'.nodes 4 = none := by
  obtain ⟨s, hrun, hshape⟩ : ∃ s, (logMachine 1).run (logMachine 1).init
      [.startup true, .own, .own, .call 0 "main.cc" 7 .kWarn (some "first") 1, .check 0 3, .exchange 0, .link 0,
        .call 0 "main.cc" 8 .kInfo (some "second") 2, .check 0 4, .exchange 0, .link 0, .work] = some s ∧
      (s.shutdown, s.owner, s.accepted.length, s.printedCount, s.callers 0, s.queue.producers 0) =
        (false, .idle, 2, 0, .idle, .idle) := by
    refine Option.map_eq_some_iff.mp ?_
    decide +kernel
  simp only [Prod.mk.injEq] at hshape
  obtain ⟨hopen, howner, haccepted, hprinted, hcaller, hproducer⟩ := hshape
  obtain ⟨s₁, hcall⟩ : ∃ s₁, s.exec .cleanup = some s₁ := by
    simp only [LogState.exec, LogState.cleanup, howner, hopen]
    exact ⟨_, rfl⟩
  obtain ⟨hclosing, hend⟩ := LogState.log_cleanup (Machine.reachable_of_run hrun) hopen hcall
  obtain ⟨k, m, s', -, hrun', howner', -, -, -, hnodes, -⟩ := hend (fun p => by
    rw [Subsingleton.elim p 0]
    exact ⟨hcaller, hproducer⟩)
  refine ⟨s, s₁, Machine.reachable_of_run hrun, hcall, haccepted, hprinted, ?_, k, m, s', hrun', howner', hnodes 3,
    hnodes 4⟩
  intro acts s' hstartup hrun'
  obtain ⟨hcount, hsteps, -⟩ := hclosing acts s' hstartup hrun'
  rw [hprinted] at hcount
  exact ⟨hcount, hsteps⟩

end RaptorLite
