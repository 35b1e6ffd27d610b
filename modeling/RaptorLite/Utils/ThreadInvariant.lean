import RaptorLite.Utils.Thread

/-! # What holds of threads

The invariant of `Thread` objects and their implementations: what holds between an object and its implementation
(`Coupled`), and that no two objects share one. Writing an object, an implementation or both keeps it where what is
written agrees. -/

namespace RaptorLite

/-! ### An object and its implementation -/

/-- What the state of a `Thread` and the call in progress on it say about its implementation. -/
structure Coupled (thd : Thread) (t : InternalThreadImpl) : Prop where
  /-- A joinable implementation is deleted only when the object gives it up. -/
  freed : t.joinable = true → t.freed = false
  /-- `Start` is in progress in calls of `Start` and `Join`. -/
  inStart : t.startPc ≠ .out ↔ ∃ join, thd.call = .start join
  /-- The gate is shut while the thread is alive or being constructed. -/
  closed : thd.call = .construct ∨ thd.call = .idle ∧ thd.state = .alive → t.started = false
  /-- Otherwise the thread is active and, but for a call of `Start` in progress, its gate is open. -/
  active : thd.call ≠ .construct → thd.state ≠ .alive →
    thd.state = .active ∧ (t.startPc = .out → t.started = true)
  /-- A call other than that of the constructor has made the thread active. -/
  called : thd.state = .alive → thd.call = .idle
  /-- The implementation is deleted behind `pthread_join`. -/
  joined : thd.call = .delete → t.joinable = true ∧ t.runPc = .done

namespace Coupled

variable {thd : Thread} {t t' : InternalThreadImpl}

/-- A step of `Run`. -/
theorem run (h : Coupled thd t) (hstep : t.run = some t') : Coupled thd t' := by
  obtain ⟨hstart, hstarted, hjoinable, hfreed, hdone⟩ := InternalThreadImpl.run_frame hstep
  exact
    { freed := fun hjoin => by
        rw [hjoinable] at hjoin
        rw [hfreed hjoin]
        exact h.freed hjoin
      inStart := by
        rw [hstart]
        exact h.inStart
      closed := fun hcall => by
        rw [hstarted]
        exact h.closed hcall
      active := by
        rw [hstart, hstarted]
        exact h.active
      called := h.called
      joined := fun hcall => absurd (h.joined hcall).2 hdone }

/-- A thread that wakes up without a signal. -/
theorem wake (h : Coupled thd t) (hasleep : t.runPc = .asleep) : Coupled thd { t with runPc := .lock } :=
  { freed := h.freed
    inStart := h.inStart
    closed := h.closed
    active := h.active
    called := h.called
    joined := fun hcall => by
      have hdone := (h.joined hcall).2
      rw [hasleep] at hdone
      cases hdone }

/-- An idle object that is alive has a gate that is shut. -/
theorem enter (h : Coupled thd t) (hstate : thd.state = .alive)
    (join : Bool) :
    t.startPc = .out ∧ t.started = false ∧
      Coupled { thd with state := .active, call := .start join } { t with startPc := .lock } := by
  have hidle := h.called hstate
  have hout : t.startPc = .out := by
    by_contra hstart
    obtain ⟨join', hcall⟩ := h.inStart.mp hstart
    rw [hidle] at hcall
    cases hcall
  refine ⟨hout, h.closed (Or.inr ⟨hidle, hstate⟩), ?_⟩
  exact
    { freed := h.freed
      inStart := ⟨fun _ => ⟨join, rfl⟩, fun _ => by simp⟩
      closed := by rintro (hcall | ⟨hcall, -⟩) <;> cases hcall
      active := fun _ _ => ⟨rfl, fun hstart => by cases hstart⟩
      called := fun hactive => by cases hactive
      joined := fun hcall => by cases hcall }

/-- The constructor has read `info->join_object`. -/
theorem constructed (h : Coupled thd t) (hcall : thd.call = .construct) :
    Coupled { thd with state := .alive, call := .idle } t :=
  { freed := h.freed
    inStart := by
      rw [h.inStart, hcall]
      simp
    closed := fun _ => h.closed (Or.inl hcall)
    active := fun _ halive => absurd rfl halive
    called := fun _ => rfl
    joined := fun hdelete => by cases hdelete }

/-- A step of `Start`; behind the last one `Join` goes on, or the call returns. -/
theorem start (h : Coupled thd t) (hok : t.Ok) {join : Bool} (hcall : thd.call = .start join)
    (hstep : t.start = some t') :
    Coupled
      { thd with call := if t'.startPc = .out then (if join then .join else .idle) else .start join } t' := by
  obtain ⟨hjoinable, hfreed, hopen⟩ := hok.start_frame hstep
  have halive : thd.state ≠ .alive := by
    intro halive
    have hidle := h.called halive
    rw [hcall] at hidle
    cases hidle
  have hactive := (h.active (by simp [hcall]) halive).1
  constructor
  · rw [hjoinable, hfreed]
    exact h.freed
  · by_cases hout : t'.startPc = .out
    · cases join <;> simp [hout]
    · simp [hout]
  · rintro (hconstruct | ⟨-, hstate⟩)
    · by_cases hout : t'.startPc = .out
      · cases join <;> simp [hout] at hconstruct
      · simp [hout] at hconstruct
    · exact absurd hstate halive
  · exact fun _ _ => ⟨hactive, hopen⟩
  · exact fun hstate => absurd hstate halive
  · intro hdelete
    by_cases hout : t'.startPc = .out
    · cases join <;> simp [hout] at hdelete
    · simp [hout] at hdelete

/-- `pthread_join` has returned. -/
theorem joinedNow (h : Coupled thd t) (hcall : thd.call = .join) (hjoinable : t.joinable = true)
    (hdone : t.runPc = .done) : Coupled { thd with call := .delete } t :=
  { freed := h.freed
    inStart := by
      rw [h.inStart, hcall]
      simp
    closed := by rintro (hclosed | ⟨hclosed, -⟩) <;> cases hclosed
    active := fun _ halive => h.active (by simp [hcall]) halive
    called := fun halive => by
      have hidle := h.called halive
      rw [hcall] at hidle
      cases hidle
    joined := fun _ => ⟨hjoinable, hdone⟩ }

/-- An idle object is alive or active. -/
theorem active_of_idle (h : Coupled thd t) (hidle : thd.call = .idle) (halive : thd.state ≠ .alive) :
    thd.state = .active := by
  refine (h.active ?_ halive).1
  rw [hidle]
  simp

/-- While `Join` waits, the gate is open. -/
theorem gate_of_join (h : Coupled thd t) (hcall : thd.call = .join) : t.startPc = .out ∧ t.started = true := by
  have hout : t.startPc = .out := by
    by_contra hstart
    obtain ⟨join, hstarting⟩ := h.inStart.mp hstart
    rw [hcall] at hstarting
    cases hstarting
  have halive : thd.state ≠ .alive := by
    intro halive
    have hidle := h.called halive
    rw [hcall] at hidle
    cases hidle
  exact ⟨hout, (h.active (by simp [hcall]) halive).2 hout⟩

/-- `_impl->Join()` begins on an object that is active. -/
theorem enterJoin (h : Coupled thd t) (hidle : thd.call = .idle) (hactive : thd.state = .active) :
    Coupled { thd with call := .join } t :=
  { freed := h.freed
    inStart := by
      rw [h.inStart, hidle]
      simp
    closed := by rintro (hcall | ⟨hcall, -⟩) <;> cases hcall
    active := fun _ halive => h.active (by simp [hidle]) halive
    called := fun halive => by
      rw [hactive] at halive
      cases halive
    joined := fun hcall => by cases hcall }

end Coupled

namespace ThreadHeap

/-- What holds of an object. -/
def ObjectOk (impls : Nat → Option InternalThreadImpl) (thd : Thread) : Prop :=
  match thd.impl with
  | none => thd.call = .idle ∧ thd.state ≠ .alive ∧ thd.state ≠ .active
  | some i => ∃ t, impls i = some t ∧ Coupled thd t

/-- **The invariant.** -/
structure Inv (s : ThreadHeap) : Prop where
  /-- Of every implementation. -/
  impl : ∀ i t, s.impls i = some t → t.Ok
  /-- Of every object. -/
  object : ∀ o thd, s.objects o = some thd → ObjectOk s.impls thd
  /-- Two objects never share an implementation. -/
  owner : ∀ o o' thd thd' i, s.objects o = some thd → s.objects o' = some thd' →
    thd.impl = some i → thd'.impl = some i → o = o'

variable {s s' : ThreadHeap}

/-- The `Thread` objects behind a write to one of them. -/
@[simp] theorem setObject_objects (s : ThreadHeap) (o : Nat) (thd : Thread) :
    (s.setObject o thd).objects = Function.update s.objects o (some thd) := rfl

/-- Writing a `Thread` object leaves the implementations. -/
@[simp] theorem setObject_impls (s : ThreadHeap) (o : Nat) (thd : Thread) :
    (s.setObject o thd).impls = s.impls := rfl

/-- Writing a `Thread` object leaves the fault. -/
@[simp] theorem setObject_fault (s : ThreadHeap) (o : Nat) (thd : Thread) :
    (s.setObject o thd).fault = s.fault := rfl

/-- Writing an implementation leaves the `Thread` objects. -/
@[simp] theorem setImpl_objects (s : ThreadHeap) (i : Nat) (t : InternalThreadImpl) :
    (s.setImpl i t).objects = s.objects := rfl

/-- The implementations behind a write to one of them. -/
@[simp] theorem setImpl_impls (s : ThreadHeap) (i : Nat) (t : InternalThreadImpl) :
    (s.setImpl i t).impls = Function.update s.impls i (some t) := rfl

/-- Writing an implementation leaves the fault. -/
@[simp] theorem setImpl_fault (s : ThreadHeap) (i : Nat) (t : InternalThreadImpl) :
    (s.setImpl i t).fault = s.fault := rfl

/-- A failing step records its fault. -/
@[simp] theorem fail_fault (s : ThreadHeap) (fault : ThreadFault) : (s.fail fault).fault = some fault := rfl

/-- Nothing has been allocated. -/
theorem Inv.init : threadMachine.init.Inv where
  impl := fun i t h => by cases h
  object := fun o thd h => by cases h
  owner := fun o o' thd thd' i h => by cases h

/-- The implementation of an object. -/
theorem Inv.coupled (h : s.Inv) {o i : Nat} {thd : Thread} {t : InternalThreadImpl}
    (ho : s.objects o = some thd) (hi : thd.impl = some i) (ht : s.impls i = some t) : Coupled thd t := by
  have hobject := h.object o thd ho
  rw [ObjectOk, hi] at hobject
  obtain ⟨u, hu, hcoupled⟩ := hobject
  rw [ht, Option.some.injEq] at hu
  exact hu ▸ hcoupled

/-- An object without an implementation is set, in place of a new object or of one that gives up its
implementation. -/
theorem Inv.setEmpty (h : s.Inv) (o : Nat) {thd : Thread} (hnone : thd.impl = none) (hcall : thd.call = .idle)
    (halive : thd.state ≠ .alive) (hactive : thd.state ≠ .active) : (s.setObject o thd).Inv where
  impl := h.impl
  object := by
    intro p thd' hp
    by_cases hpo : p = o
    · subst hpo
      rw [setObject_objects, Function.update_self, Option.some.injEq] at hp
      subst hp
      rw [ObjectOk, hnone]
      exact ⟨hcall, halive, hactive⟩
    · rw [setObject_objects, Function.update_of_ne hpo] at hp
      exact h.object p thd' hp
  owner := by
    intro p q thd₁ thd₂ i hp hq hi hj
    have hkept : ∀ r thd', (s.setObject o thd).objects r = some thd' → thd'.impl = some i →
        s.objects r = some thd' := by
      intro r thd' hr himpl
      by_cases hro : r = o
      · subst hro
        rw [setObject_objects, Function.update_self, Option.some.injEq] at hr
        subst hr
        rw [hnone] at himpl
        cases himpl
      · rw [setObject_objects, Function.update_of_ne hro] at hr
        exact hr
    exact h.owner p q thd₁ thd₂ i (hkept p thd₁ hp hi) (hkept q thd₂ hq hj) hi hj

/-- An object gets an implementation that no other object has. -/
theorem Inv.setOwner (h : s.Inv) (o : Nat) {thd : Thread} {i : Nat} {t : InternalThreadImpl}
    (hi : thd.impl = some i) (ht : s.impls i = some t) (hcoupled : Coupled thd t)
    (hfree : ∀ p thd', p ≠ o → s.objects p = some thd' → thd'.impl ≠ some i) : (s.setObject o thd).Inv where
  impl := h.impl
  object := by
    intro p thd' hp
    by_cases hpo : p = o
    · subst hpo
      rw [setObject_objects, Function.update_self, Option.some.injEq] at hp
      subst hp
      rw [ObjectOk, hi]
      exact ⟨t, ht, hcoupled⟩
    · rw [setObject_objects, Function.update_of_ne hpo] at hp
      exact h.object p thd' hp
  owner := by
    intro p q thd₁ thd₂ j hp hq hj hj'
    rw [setObject_objects] at hp hq
    by_cases hpo : p = o
    · by_cases hqo : q = o
      · rw [hpo, hqo]
      · subst hpo
        rw [Function.update_self, Option.some.injEq] at hp
        rw [Function.update_of_ne hqo] at hq
        subst hp
        rw [hi] at hj
        exact absurd (hj.symm ▸ hj') (hfree q thd₂ hqo hq)
    · by_cases hqo : q = o
      · subst hqo
        rw [Function.update_of_ne hpo] at hp
        rw [Function.update_self, Option.some.injEq] at hq
        subst hq
        rw [hi] at hj'
        exact absurd (hj'.symm ▸ hj) (hfree p thd₁ hpo hp)
      · rw [Function.update_of_ne hpo] at hp
        rw [Function.update_of_ne hqo] at hq
        exact h.owner p q thd₁ thd₂ j hp hq hj hj'

/-- An implementation changes, and whoever has it still may. -/
theorem Inv.setImpl (h : s.Inv) {i : Nat} {t' : InternalThreadImpl} (hok : t'.Ok)
    (hcoupled : ∀ o thd, s.objects o = some thd → thd.impl = some i → Coupled thd t') :
    (s.setImpl i t').Inv where
  impl := by
    intro j u hj
    by_cases hji : j = i
    · subst hji
      rw [setImpl_impls, Function.update_self, Option.some.injEq] at hj
      exact hj ▸ hok
    · rw [setImpl_impls, Function.update_of_ne hji] at hj
      exact h.impl j u hj
  object := by
    intro o thd ho
    have hold := h.object o thd ho
    cases himpl : thd.impl with
    | none =>
        rw [ObjectOk, himpl] at hold
        rw [ObjectOk, himpl]
        exact hold
    | some j =>
        rw [ObjectOk, himpl] at hold
        rw [ObjectOk, himpl]
        by_cases hji : j = i
        · subst hji
          exact ⟨t', by simp, hcoupled o thd ho himpl⟩
        · obtain ⟨u, hu, hcoupled'⟩ := hold
          exact ⟨u, by simp [Function.update_of_ne hji, hu], hcoupled'⟩
  owner := h.owner

/-- An object that gives up its implementation was the only one that had it. -/
theorem Inv.given_up (h : s.Inv) {o i : Nat} {thd : Thread} (ho : s.objects o = some thd)
    (hi : thd.impl = some i) (p : Nat) (thd' : Thread) (hp : (s.setObject o Thread.moved).objects p = some thd') :
    thd'.impl ≠ some i := by
  intro himpl
  rw [setObject_objects] at hp
  by_cases hpo : p = o
  · subst hpo
    rw [Function.update_self, Option.some.injEq] at hp
    subst hp
    cases himpl
  · rw [Function.update_of_ne hpo] at hp
    exact hpo (h.owner p o thd' thd i hp ho himpl hi)

/-- The same changes, with the object giving up its implementation in between. -/
theorem setImpl_setObject (s : ThreadHeap) (o i : Nat) (t : InternalThreadImpl) (thd : Thread) :
    ((s.setObject o Thread.moved).setImpl i t).setObject o thd = (s.setImpl i t).setObject o thd := by
  simp only [setObject, ThreadHeap.setImpl, Function.update_idem]

/-- The implementation of an object changes behind its back. -/
theorem Inv.detach (h : s.Inv) {o i : Nat} {thd : Thread} {t' : InternalThreadImpl}
    (ho : s.objects o = some thd) (hi : thd.impl = some i) (hok : t'.Ok) :
    ((s.setObject o Thread.moved).setImpl i t').Inv :=
  (h.setEmpty o rfl rfl (by simp [Thread.moved]) (by simp [Thread.moved])).setImpl hok
    fun p thd' hp himpl => absurd himpl (h.given_up ho hi p thd' hp)

/-- **A call on an object** changes the object and its implementation. -/
theorem Inv.setBoth (h : s.Inv) {o i : Nat} {thd thd' : Thread} {t' : InternalThreadImpl}
    (ho : s.objects o = some thd) (hi : thd.impl = some i) (hok : t'.Ok) (hi' : thd'.impl = some i)
    (hcoupled : Coupled thd' t') : ((s.setImpl i t').setObject o thd').Inv := by
  rw [← setImpl_setObject]
  apply (h.detach ho hi hok).setOwner o hi' (by simp) hcoupled
  intro p thd'' _ hp
  exact h.given_up ho hi p thd'' hp

/-- **A call on an object** changes its implementation for the last time. -/
theorem Inv.giveUp (h : s.Inv) {o i : Nat} {thd thd' : Thread} {t' : InternalThreadImpl}
    (ho : s.objects o = some thd) (hi : thd.impl = some i) (hok : t'.Ok) (hnone : thd'.impl = none)
    (hcall : thd'.call = .idle) (halive : thd'.state ≠ .alive) (hactive : thd'.state ≠ .active) :
    ((s.setImpl i t').setObject o thd').Inv := by
  rw [← setImpl_setObject]
  exact (h.detach ho hi hok).setEmpty o hnone hcall halive hactive

/-- **A call on an object** changes the object. -/
theorem Inv.setCall (h : s.Inv) {o i : Nat} {thd thd' : Thread} {t : InternalThreadImpl}
    (ho : s.objects o = some thd) (hi : thd.impl = some i) (ht : s.impls i = some t) (hi' : thd'.impl = some i)
    (hcoupled : Coupled thd' t) : (s.setObject o thd').Inv := by
  apply h.setOwner o hi' ht hcoupled
  intro p thd'' hpo hp himpl
  exact hpo (h.owner p o thd'' thd i hp ho himpl hi)

/-- One object takes over from another. -/
theorem Inv.move (h : s.Inv) {o other : Nat} {thd : Thread} (hother : s.objects other = some thd)
    (hidle : thd.call = .idle) : ((s.setObject other Thread.moved).setObject o thd).Inv := by
  have hempty : (s.setObject other Thread.moved).Inv :=
    h.setEmpty other rfl rfl (by simp [Thread.moved]) (by simp [Thread.moved])
  have hobject := h.object other thd hother
  cases himpl : thd.impl with
  | none =>
      rw [ObjectOk, himpl] at hobject
      exact hempty.setEmpty o himpl hidle hobject.2.1 hobject.2.2
  | some i =>
      rw [ObjectOk, himpl] at hobject
      obtain ⟨t, ht, hcoupled⟩ := hobject
      exact hempty.setOwner o himpl ht hcoupled
        fun p thd' _ hp => h.given_up hother himpl p thd' hp

end ThreadHeap

end RaptorLite
