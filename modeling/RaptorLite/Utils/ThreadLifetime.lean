import RaptorLite.Utils.ThreadInvariant

/-! # The life of a thread

Every step of a disciplined caller keeps the invariant, and any other step ends the run. From it follow that a thread
is run once and that `Join` gets through. -/

namespace RaptorLite

namespace ThreadHeap

variable {s s' : ThreadHeap}

/-! ### Every step -/

/-- A disciplined step keeps the invariant, and any other ends the run. -/
def Outcome (s : ThreadHeap) (a : ThreadAction) (s' : ThreadHeap) : Prop :=
  s.Disciplined a ∧ s'.Inv ∧ s'.fault = none ∨ ¬ s.Disciplined a ∧ s'.fault ≠ none

/-- A constructor. -/
theorem Inv.construct (h : s.Inv) (o : Nat) {i : Nat} (joinable : Bool) (hi : s.impls i = none) :
    ((s.setImpl i (InternalThreadImpl.create joinable)).setObject o
      { impl := some i, state := .null, call := .construct }).Inv := by
  have hunowned : ∀ p thd, s.objects p = some thd → thd.impl ≠ some i := by
    intro p thd hp himpl
    have hobject := h.object p thd hp
    rw [ObjectOk, himpl] at hobject
    obtain ⟨t, ht, -⟩ := hobject
    rw [hi] at ht
    cases ht
  have himpl : (s.setImpl i (InternalThreadImpl.create joinable)).Inv :=
    h.setImpl (InternalThreadImpl.Ok.create joinable)
      fun p thd hp himpl => absurd himpl (hunowned p thd hp)
  apply himpl.setOwner o rfl (t := InternalThreadImpl.create joinable) (by simp)
  · constructor <;> simp [InternalThreadImpl.create]
  · intro p thd _ hp
    exact hunowned p thd hp

/-- `Thread::Start` begins. -/
theorem Inv.beginStart (h : s.Inv) (hfault : s.fault = none) {o : Nat} {thd : Thread}
    (ho : s.objects o = some thd) (hidle : thd.call = .idle) (hstep : s.beginStart o thd = some s') :
    Outcome s (.start o) s' := by
  have hdisciplined : s.Disciplined (.start o) ↔ thd.state = .alive ∨ thd.state = .failed := by
    simp only [Disciplined, ho, Option.some.injEq, forall_eq']
  rw [Outcome, hdisciplined]
  have hobject := h.object o thd ho
  obtain ⟨impl, state, call⟩ := thd
  cases impl with
  | none =>
      simp only [ThreadHeap.beginStart, Option.some.injEq] at hstep
      by_cases hfailed : state = .failed
      · rw [if_pos hfailed] at hstep
        exact Or.inl ⟨Or.inr hfailed, hstep ▸ h, hstep ▸ hfault⟩
      · rw [if_neg hfailed] at hstep
        refine Or.inr ⟨fun hor => hor.elim hobject.2.1 hfailed, ?_⟩
        simp [← hstep]
  | some i =>
      obtain ⟨t, ht, hcoupled⟩ := hobject
      simp only [ThreadHeap.beginStart, ht, Option.map_some, Option.some.injEq] at hstep
      by_cases halive : state = .alive
      · rw [if_pos halive] at hstep
        obtain ⟨hout, hclosed, hentered⟩ := hcoupled.enter halive false
        have hinv := h.setBoth ho rfl ((h.impl i t ht).enter hout hclosed) rfl hentered
        exact Or.inl ⟨Or.inl halive, hstep ▸ hinv, by rw [← hstep]; exact hfault⟩
      · rw [if_neg halive] at hstep
        refine Or.inr ⟨?_, by simp [← hstep]⟩
        rintro (hstate | hstate)
        · exact halive hstate
        · -- an object whose constructor failed has no implementation
          have hactive := hcoupled.active_of_idle hidle halive
          rw [hstate] at hactive
          cases hactive

/-- `Thread::Join` begins. -/
theorem Inv.beginJoin (h : s.Inv) (hfault : s.fault = none) {o : Nat} {thd : Thread}
    (ho : s.objects o = some thd) (hidle : thd.call = .idle) (hstep : s.beginJoin o thd = some s') :
    Outcome s (.join o) s' := by
  have hdisciplined : s.Disciplined (.join o) ↔
      thd.state = .alive ∨ thd.state = .active ∨ thd.state = .failed := by
    simp only [Disciplined, ho, Option.some.injEq, forall_eq']
  rw [Outcome, hdisciplined]
  have hobject := h.object o thd ho
  obtain ⟨impl, state, call⟩ := thd
  cases impl with
  | none =>
      simp only [ThreadHeap.beginJoin, Option.some.injEq] at hstep
      by_cases hfailed : state = .failed
      · rw [if_pos hfailed] at hstep
        exact Or.inl ⟨Or.inr (Or.inr hfailed), hstep ▸ h, hstep ▸ hfault⟩
      · rw [if_neg hfailed] at hstep
        refine Or.inr ⟨?_, by simp [← hstep]⟩
        rintro (hstate | hstate | hstate)
        · exact hobject.2.1 hstate
        · exact hobject.2.2 hstate
        · exact hfailed hstate
  | some i =>
      obtain ⟨t, ht, hcoupled⟩ := hobject
      simp only [ThreadHeap.beginJoin, ht, Option.map_some, Option.some.injEq] at hstep
      by_cases halive : state = .alive
      · rw [if_pos halive] at hstep
        obtain ⟨hout, hclosed, hentered⟩ := hcoupled.enter halive true
        have hinv := h.setBoth ho rfl ((h.impl i t ht).enter hout hclosed) rfl hentered
        exact Or.inl ⟨Or.inl halive, hstep ▸ hinv, by rw [← hstep]; exact hfault⟩
      · rw [if_neg halive] at hstep
        have hactive := hcoupled.active_of_idle hidle halive
        have hjoining := hcoupled.enterJoin hidle hactive
        exact Or.inl ⟨Or.inr (Or.inl hactive), hstep ▸ h.setCall ho rfl ht rfl hjoining,
          by rw [← hstep]; exact hfault⟩

/-- **A call goes on.** -/
theorem Inv.continueCall (h : s.Inv) (hfault : s.fault = none) {o i : Nat} {thd : Thread}
    {t : InternalThreadImpl} (ho : s.objects o = some thd) (hi : thd.impl = some i) (ht : s.impls i = some t)
    (hstep : s.continueCall o thd i t = some s') : Outcome s (.advance o) s' := by
  have hok := h.impl i t ht
  have hcoupled := h.coupled ho hi ht
  have hdisciplined : s.Disciplined (.advance o) ↔
      (thd.call = .construct → t.runPc = .spawned) ∧ (thd.call = .join → t.joinable = true) := by
    refine ⟨fun hall => hall thd i t ho hi ht, ?_⟩
    intro hand thd' j u hthd' hj hu
    rw [ho, Option.some.injEq] at hthd'
    subst hthd'
    rw [hi, Option.some.injEq] at hj
    subst hj
    rw [ht, Option.some.injEq] at hu
    exact hu ▸ hand
  rw [Outcome, hdisciplined]
  obtain ⟨impl, state, call⟩ := thd
  cases hi
  cases call with
  | idle => cases hstep
  | construct =>
      simp only [ThreadHeap.continueCall] at hstep
      split at hstep
      · rename_i hspawned
        cases hstep
        refine Or.inl ⟨⟨fun _ => hspawned, by simp⟩, ?_, hfault⟩
        exact h.setCall ho rfl ht rfl (hcoupled.constructed rfl)
      · rename_i hspawned
        cases hstep
        exact Or.inr ⟨fun hand => hspawned (hand.1 rfl), by simp⟩
  | start join =>
      have hstart : t.startPc ≠ .out := hcoupled.inStart.mpr ⟨join, rfl⟩
      simp only [ThreadHeap.continueCall, hok.not_freed_of_start hstart, Bool.false_eq_true, if_false] at hstep
      obtain ⟨t', ht', rfl⟩ := Option.map_eq_some_iff.mp hstep
      refine Or.inl ⟨⟨by simp, by simp⟩, ?_, hfault⟩
      exact h.setBoth ho rfl (hok.start ht') rfl (hcoupled.start hok rfl ht')
  | join =>
      simp only [ThreadHeap.continueCall] at hstep
      by_cases hjoinable : t.joinable = true
      · rw [if_neg (by simp [hcoupled.freed hjoinable]), if_neg (by simp [hjoinable])] at hstep
        split at hstep
        · rename_i hdone
          cases hstep
          refine Or.inl ⟨⟨by simp, fun _ => hjoinable⟩, ?_, hfault⟩
          exact h.setCall ho rfl ht rfl (hcoupled.joinedNow rfl hjoinable hdone)
        · cases hstep
      · -- a detached thread, whose object may be gone
        refine Or.inr ⟨fun hand => hjoinable (hand.2 rfl), ?_⟩
        have hdetached : t.joinable = false := by simpa using hjoinable
        by_cases hfreed : t.freed = true
        · rw [if_pos hfreed] at hstep
          cases hstep
          simp
        · rw [if_neg hfreed, if_pos hdetached] at hstep
          cases hstep
          simp
  | delete =>
      obtain ⟨hjoinable, hdone⟩ := hcoupled.joined rfl
      simp only [ThreadHeap.continueCall, hcoupled.freed hjoinable, Bool.false_eq_true, if_false] at hstep
      cases hstep
      refine Or.inl ⟨⟨by simp, by simp⟩, ?_, hfault⟩
      exact h.giveUp ho rfl (hok.delete hdone) rfl rfl (by simp) (by simp)

/-- **Every step** is disciplined and keeps the invariant, or ends the run. -/
theorem Inv.exec (h : s.Inv) (hfault : s.fault = none) {a : ThreadAction} (hstep : s.exec a = some s') :
    Outcome s a s' := by
  cases a with
  | default o =>
      simp only [ThreadHeap.exec] at hstep
      split at hstep <;> cases hstep
      exact Or.inl ⟨trivial, h.setEmpty o rfl rfl (by simp [Thread.moved]) (by simp [Thread.moved]), hfault⟩
  | construct o i joinable created =>
      simp only [ThreadHeap.exec] at hstep
      split at hstep
      · rename_i hfresh
        split at hstep <;> cases hstep
        · exact Or.inl ⟨trivial, h.construct o joinable hfresh.2, hfault⟩
        · exact Or.inl ⟨trivial, h.setEmpty o rfl rfl (by simp) (by simp), hfault⟩
      · cases hstep
  | moveConstruct o other =>
      simp only [ThreadHeap.exec] at hstep
      split at hstep
      · rename_i thd hother
        split at hstep <;> cases hstep
        rename_i hfresh
        exact Or.inl ⟨trivial, h.move hother hfresh.2, hfault⟩
      · cases hstep
  | moveAssign o other =>
      simp only [ThreadHeap.exec] at hstep
      split at hstep
      · rename_i old thd ho hother
        split at hstep <;> cases hstep
        rename_i hidle
        by_cases hself : o = other
        · rw [if_pos hself]
          exact Or.inl ⟨trivial, h, hfault⟩
        · rw [if_neg hself]
          exact Or.inl ⟨trivial, h.move hother hidle.2, hfault⟩
      · cases hstep
  | start o =>
      simp only [ThreadHeap.exec] at hstep
      split at hstep
      · rename_i thd ho
        split at hstep
        · rename_i hidle
          exact h.beginStart hfault ho hidle hstep
        · cases hstep
      · cases hstep
  | join o =>
      simp only [ThreadHeap.exec] at hstep
      split at hstep
      · rename_i thd ho
        split at hstep
        · rename_i hidle
          exact h.beginJoin hfault ho hidle hstep
        · cases hstep
      · cases hstep
  | advance o =>
      simp only [ThreadHeap.exec] at hstep
      split at hstep
      · rename_i thd ho
        obtain ⟨i, hi, hstep⟩ := Option.bind_eq_some_iff.mp hstep
        obtain ⟨t, ht, hstep⟩ := Option.bind_eq_some_iff.mp hstep
        exact h.continueCall hfault ho hi ht hstep
      · cases hstep
  | thread i =>
      simp only [ThreadHeap.exec] at hstep
      split at hstep
      · rename_i t ht
        have hok := h.impl i t ht
        split at hstep
        · rename_i huses
          rw [Bool.and_eq_true] at huses
          rw [hok.runUses_of_freed huses.1] at huses
          cases huses.2
        · obtain ⟨t', ht', rfl⟩ := Option.map_eq_some_iff.mp hstep
          refine Or.inl ⟨trivial, h.setImpl (hok.run ht') ?_, hfault⟩
          exact fun o thd ho hi => (h.coupled ho hi ht).run ht'
      · cases hstep
  | wake i =>
      simp only [ThreadHeap.exec] at hstep
      split at hstep
      · rename_i t ht
        split at hstep <;> cases hstep
        rename_i hasleep
        refine Or.inl ⟨trivial, h.setImpl ((h.impl i t ht).wake hasleep) ?_, hfault⟩
        exact fun o thd ho hi => (h.coupled ho hi ht).wake hasleep
      · cases hstep

/-- In a disciplined run the invariant holds and nothing goes wrong. -/
theorem inv_of_reaches (hs : threadMachine.Reaches Disciplined s) : s.Inv ∧ s.fault = none := by
  apply hs.invariant (fun s => s.Inv ∧ s.fault = none) ⟨Inv.init, rfl⟩
  intro s a s' _ hdisciplined ⟨hinv, hfault⟩ hstep
  have hexec : s.exec a = some s' := by
    simpa only [threadMachine, ThreadHeap.step, if_pos hfault] using hstep
  rcases hinv.exec hfault hexec with ⟨-, hnext⟩ | ⟨hundisciplined, -⟩
  · exact hnext
  · exact absurd hdisciplined hundisciplined

/-- A run in which nothing has gone wrong was disciplined. -/
theorem reaches_of_reachable (hs : threadMachine.Reachable s) (hfault : s.fault = none) :
    threadMachine.Reaches Disciplined s := by
  induction hs with
  | init => exact .init
  | step _ _ hstep ih =>
      simp only [threadMachine, ThreadHeap.step] at hstep
      split at hstep
      · rename_i hbefore
        have hreaches := ih hbefore
        rcases (inv_of_reaches hreaches).1.exec hbefore hstep with ⟨hdisciplined, -, -⟩ | ⟨-, hsome⟩
        · refine hreaches.step hdisciplined ?_
          simpa only [threadMachine, ThreadHeap.step, if_pos hbefore] using hstep
        · exact absurd hfault hsome
      · cases hstep

/-- A step of a thread whose object is there. -/
theorem step_thread (hfault : s.fault = none) {i : Nat} {t t' : InternalThreadImpl} (ht : s.impls i = some t)
    (hfreed : t.freed = false) (hrun : t.run = some t') :
    threadMachine.step s (.thread i) = some (s.setImpl i t') := by
  simp [threadMachine, ThreadHeap.step, ThreadHeap.exec, hfault, ht, hfreed, hrun]

/-- While `Join` waits for it, a thread runs to its end. -/
theorem Inv.run_to_done (h : s.Inv) (hfault : s.fault = none) {o i : Nat} {thd : Thread}
    {t : InternalThreadImpl} (ho : s.objects o = some thd) (hi : thd.impl = some i) (ht : s.impls i = some t)
    (hcall : thd.call = .join) (hjoinable : t.joinable = true) :
    ∃ s' t', threadMachine.run s (List.replicate t.runPc.distance (.thread i)) = some s' ∧
      s'.Inv ∧ s'.fault = none ∧ s'.objects o = some thd ∧ s'.impls i = some t' ∧
      t'.joinable = true ∧ t'.runPc = .done := by
  -- on the steps that are left: the gate is open and stays open
  induction hn : t.runPc.distance generalizing s t with
  | zero =>
      have hok := h.impl i t ht
      refine ⟨s, t, rfl, h, hfault, ho, ht, hjoinable, ?_⟩
      by_contra hdone
      obtain ⟨hout, hopen⟩ := (h.coupled ho hi ht).gate_of_join hcall
      obtain ⟨t', -, hdistance⟩ := hok.progress hout hopen hdone
      omega
  | succ n ih =>
      have hok := h.impl i t ht
      have hcoupled := h.coupled ho hi ht
      obtain ⟨hout, hopen⟩ := hcoupled.gate_of_join hcall
      have hdone : t.runPc ≠ .done := by
        intro hdone
        rw [hdone] at hn
        cases hn
      obtain ⟨t', hrun, hdistance⟩ := hok.progress hout hopen hdone
      have hstep := step_thread hfault ht (hcoupled.freed hjoinable) hrun
      have hinv : (s.setImpl i t').Inv :=
        h.setImpl (hok.run hrun) fun p thd' hp hj => (h.coupled hp hj ht).run hrun
      have hjoinable' : t'.joinable = true := by
        rw [(InternalThreadImpl.run_frame hrun).2.2.1]
        exact hjoinable
      obtain ⟨s', u, hs', hend⟩ :=
        ih hinv hfault ho (t := t') (by simp) hjoinable' (by omega)
      refine ⟨s', u, ?_, hend⟩
      rw [List.replicate_succ, Machine.run_cons, hstep]
      exact hs'

/-- Behind the thread `Join` deletes the implementation and returns. -/
theorem Inv.run_join (h : s.Inv) (hfault : s.fault = none) {o i : Nat} {thd : Thread}
    {t : InternalThreadImpl} (ho : s.objects o = some thd) (hi : thd.impl = some i) (ht : s.impls i = some t)
    (hcall : thd.call = .join) (hjoinable : t.joinable = true) (hdone : t.runPc = .done) :
    threadMachine.run s [.advance o, .advance o] =
      some (((s.setObject o { thd with call := .delete }).setImpl i { t with freed := true }).setObject o
        { impl := none, state := .finish, call := .idle }) := by
  have hfreed := (h.coupled ho hi ht).freed hjoinable
  simp [threadMachine, ThreadHeap.step, ThreadHeap.exec, ThreadHeap.continueCall, hfault, ho, hi, ht, hcall,
    hjoinable, hdone, hfreed]

/-- **A thread is run exactly once, and only behind `Start`.** In every run of any number of `Thread` objects
and spawned threads, in any order of steps, in which the callers are disciplined:

* nothing goes wrong: no assertion fails, and neither the implementation nor its arguments are used behind
  their `delete`;
* `thread_proc` is called at most once, and not before `Start` has set `_started`; an implementation is
  deleted only when its thread has returned, so that `thread_proc` has been called once; and a thread that
  sleeps in front of an open gate is about to be signalled;
* the next step goes wrong exactly when it is not disciplined;
* a `Join` that waits gets through: at most six steps of the thread later it deletes the implementation and
  returns. -/
theorem thread_runs_once (hs : threadMachine.Reaches Disciplined s) :
    s.fault = none ∧
    (∀ i t, s.impls i = some t →
      t.calls ≤ 1 ∧ (0 < t.calls → t.started = true) ∧
      (t.freed = true → t.runPc = .done ∧ t.calls = 1) ∧
      (t.runPc = .asleep → t.started = true → t.startPc = .signal)) ∧
    (∀ a s', threadMachine.step s a = some s' → (s'.fault = none ↔ s.Disciplined a)) ∧
    ∀ o thd i t, s.objects o = some thd → thd.impl = some i → s.impls i = some t → thd.call = .join →
      t.joinable = true →
      ∃ n ≤ 6, ∃ s' t',
        threadMachine.run s (List.replicate n (.thread i) ++ [.advance o, .advance o]) = some s' ∧
        s'.objects o = some { impl := none, state := .finish, call := .idle } ∧
        s'.impls i = some t' ∧ t'.freed = true ∧ t'.calls = 1 := by
  obtain ⟨hinv, hfault⟩ := inv_of_reaches hs
  refine ⟨hfault, ?_, ?_, ?_⟩
  · intro i t ht
    have hok := hinv.impl i t ht
    refine ⟨?_, ?_, ?_, hok.wakeup⟩
    · rw [hok.calls]
      exact Bool.toNat_le _
    · intro hcalls
      have hcalled : t.runPc.called = true := by
        rw [hok.calls] at hcalls
        exact Bool.toNat_eq_one.mp (Nat.le_antisymm (Bool.toNat_le _) hcalls)
      exact (hok.passed (RunPc.passed_of_called hcalled)).1
    · intro hfreed
      refine ⟨hok.freed hfreed, ?_⟩
      rw [hok.calls, hok.freed hfreed]
      rfl
  · intro a s' hstep
    have hexec : s.exec a = some s' := by
      simpa only [threadMachine, ThreadHeap.step, if_pos hfault] using hstep
    rcases hinv.exec hfault hexec with ⟨hdisciplined, -, hnone⟩ | ⟨hundisciplined, hsome⟩
    · exact ⟨fun _ => hdisciplined, fun _ => hnone⟩
    · exact ⟨fun hnone => absurd hnone hsome, fun hdisciplined => absurd hdisciplined hundisciplined⟩
  · intro o thd i t ho hi ht hcall hjoinable
    obtain ⟨u, v, hrun, huinv, hufault, huo, hui, hvjoin, hvdone⟩ :=
      hinv.run_to_done hfault ho hi ht hcall hjoinable
    refine ⟨t.runPc.distance, ?_, ?_⟩
    · cases t.runPc <;> simp [RunPc.distance]
    · have hall := Machine.run_append threadMachine s (List.replicate t.runPc.distance (.thread i))
        [.advance o, .advance o]
      rw [hrun, Option.bind_some, huinv.run_join hufault huo hi hui hcall hvjoin hvdone] at hall
      refine ⟨_, { v with freed := true }, hall, by simp, by simp, rfl, ?_⟩
      change v.calls = 1
      rw [(huinv.impl i v hui).calls, hvdone]
      rfl

/-- A thread that sleeps when `Join` opens its gate. -/
theorem thread_runs_once_joined :
    ∃ s, threadMachine.Reaches Disciplined s ∧
      (s.objects 0).map Thread.call = some .join ∧
      ∃ n ≤ 6, ∃ s' t',
        threadMachine.run s (List.replicate n (.thread 7) ++ [.advance 0, .advance 0]) = some s' ∧
        s'.objects 0 = some { impl := none, state := .finish, call := .idle } ∧
        s'.impls 7 = some t' ∧ t'.freed = true ∧ t'.calls = 1 := by
  obtain ⟨s, hrun, hfault, hobject, himpl⟩ : ∃ s : ThreadHeap,
      threadMachine.run threadMachine.init
        [.construct 0 7 true true, .advance 0, .thread 7, .thread 7, .thread 7, .join 0, .advance 0, .advance 0,
          .advance 0, .advance 0] = some s ∧
      s.fault = none ∧ s.objects 0 = some { impl := some 7, state := .active, call := .join } ∧
      s.impls 7 = some
        { joinable := true, started := true, mutex := none, startPc := .out, runPc := .lock, calls := 0,
          freed := false } := ⟨_, rfl, rfl, rfl, rfl⟩
  have hs := reaches_of_reachable (Machine.reachable_of_run hrun) hfault
  exact ⟨s, hs, by rw [hobject]; rfl, (thread_runs_once hs).2.2.2 0 _ 7 _ hobject rfl himpl rfl rfl⟩

end ThreadHeap

end RaptorLite
