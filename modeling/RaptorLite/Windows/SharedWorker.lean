import RaptorLite.Windows.PollingThread

/-! # Who needs the shared worker

The worker of `windows/iocp_thread.cc` is started and stopped by the object with instance id 1 alone. It
runs exactly while some object needs it if and only if, whenever an object is active, that one is. -/

namespace RaptorLite.Windows

/-! ### Who needs the worker -/

/-- Some object was `Init`-ed and `Start`-ed and not shut down. -/
def SomeActive (objects : Nat → Option PollingThread) : Prop :=
  ∃ ref p, objects ref = some p ∧ p.Active

/-- The object with instance id 1 was. -/
def FirstActive (objects : Nat → Option PollingThread) : Prop :=
  ∃ ref p, objects ref = some p ∧ p.instanceId = 1 ∧ p.Active

/-- The shared worker is initialised and started. -/
def SharedState.WorkerRunning (s : SharedState) : Prop := ∃ a, s.shared = some a ∧ a.iocp.Running

/-- Object `ref`, if it has instance id 1, is the last that is active. -/
def LastActive (objects : Nat → Option PollingThread) (ref : Nat) : Prop :=
  ∀ p, objects ref = some p → p.instanceId = 1 →
    ∀ ref' p', ref' ≠ ref → objects ref' = some p' → ¬ p'.Active

/-- An object other than the one with instance id 1 becomes active only while that one is, and that one is
shut down or destroyed only when no other is active. -/
def NeedSafe (s : SharedState) : PollingAction → Prop
  | .construct _ => True
  | .init ref _ _ =>
      ∀ p, s.objects ref = some p → p.instanceId ≠ 1 → p.started = true → p.down = false →
        FirstActive s.objects
  | .start ref =>
      ∀ p, s.objects ref = some p → p.instanceId ≠ 1 → p.inited = true → p.down = false →
        FirstActive s.objects
  | .shutdown ref => LastActive s.objects ref
  | .destroy ref => LastActive s.objects ref

/-- **The worker follows the object with instance id 1.** -/
theorem SharedInv.workerRunning_iff {s : SharedState} (h : SharedInv s) :
    s.WorkerRunning ↔ FirstActive s.objects := by
  constructor
  · rintro ⟨a, hshared, hrunning⟩
    by_contra hnone
    -- if no object drives the worker, it is down
    have hall : ∀ ref p, s.objects ref = some p → p.instanceId ≠ 1 := by
      intro ref p hp hfirst
      have htracks := h.tracks a ref p hshared hp hfirst
      have hdown : ¬ p.down = true := by
        rw [h.down ref p hp]
        omega
      exact hnone ⟨ref, p, hp, hfirst, htracks.inited.mp hrunning.1, htracks.started.mp hrunning,
        Bool.not_eq_true _ ▸ hdown⟩
    have hdown := h.idle a hshared hall
    rw [hrunning.1] at hdown
    cases hdown
  · rintro ⟨ref, p, hp, hfirst, -, hstarted, -⟩
    obtain ⟨a, -, hshared, -⟩ := h.shared_of_object hp
    exact ⟨a, hshared, (h.tracks a ref p hshared hp hfirst).started.mpr hstarted⟩

/-! ### Objects that are served -/

/-- Whenever an object is active, the one with instance id 1 is. -/
def Served (objects : Nat → Option PollingThread) : Prop := SomeActive objects → FirstActive objects

/-- The worker runs exactly when an object needs it if and only if the objects are served. -/
theorem SharedInv.workerRunning_iff_someActive {s : SharedState} (h : SharedInv s) :
    (s.WorkerRunning ↔ SomeActive s.objects) ↔ Served s.objects := by
  rw [h.workerRunning_iff]
  constructor
  · intro hiff hsome
    exact hiff.mpr hsome
  · intro hserved
    refine ⟨?_, hserved⟩
    rintro ⟨ref, p, hp, -, hactive⟩
    exact ⟨ref, p, hp, hactive⟩

section Served

variable {objects : Nat → Option PollingThread} {ref : Nat} {p : PollingThread}

/-- An object that is not active is added. -/
theorem Served.construct (h : Served objects) (hfree : objects ref = none) (hidle : ¬ p.Active) :
    Served (Function.update objects ref (some p)) := by
  rintro ⟨ref', q, hq, hactive⟩
  rcases update_eq_some hq with ⟨-, hq⟩ | ⟨-, hq⟩
  · exact absurd (Option.some.inj hq ▸ hactive) hidle
  · obtain ⟨ref₁, q₁, hq₁, hfirst⟩ := h ⟨ref', q, hq, hactive⟩
    have hne : ref₁ ≠ ref := by
      intro heq
      rw [heq, hfree] at hq₁
      cases hq₁
    exact ⟨ref₁, q₁, (Function.update_of_ne hne ..).trans hq₁, hfirst⟩

/-- An object keeps its id and stays active if it was: it may become active if it has instance id 1, or if
that one is active. -/
theorem Served.grow_iff (h : Served objects) {p' : PollingThread} (hp : objects ref = some p)
    (hid : p'.instanceId = p.instanceId) (hgrow : p.Active → p'.Active) :
    Served (Function.update objects ref (some p')) ↔
      (p.instanceId ≠ 1 → p'.Active → FirstActive objects) := by
  constructor
  · intro hserved hother hactive
    obtain ⟨ref₁, q₁, hq₁, hfirst, hactive₁⟩ := hserved ⟨ref, p', Function.update_self .., hactive⟩
    rcases update_eq_some hq₁ with ⟨-, hq₁⟩ | ⟨-, hq₁⟩
    · rw [← Option.some.inj hq₁, hid] at hfirst
      exact absurd hfirst hother
    · exact ⟨ref₁, q₁, hq₁, hfirst, hactive₁⟩
  · intro hsafe
    -- the object with instance id 1 that was active still is
    have hkeep : FirstActive objects → FirstActive (Function.update objects ref (some p')) := by
      rintro ⟨ref₁, q₁, hq₁, hfirst, hactive₁⟩
      by_cases heq : ref₁ = ref
      · rw [heq, hp, Option.some.injEq] at hq₁
        rw [← hq₁] at hfirst hactive₁
        exact ⟨ref, p', Function.update_self .., hid.trans hfirst, hgrow hactive₁⟩
      · exact ⟨ref₁, q₁, (Function.update_of_ne heq ..).trans hq₁, hfirst, hactive₁⟩
    rintro ⟨ref', q, hq, hactive⟩
    rcases update_eq_some hq with ⟨-, hq⟩ | ⟨-, hq⟩
    · rw [← Option.some.inj hq] at hactive
      by_cases hfirst : p.instanceId = 1
      · exact ⟨ref, p', Function.update_self .., hid.trans hfirst, hactive⟩
      · exact hkeep (hsafe hfirst hactive)
    · exact hkeep (h ⟨ref', q, hq, hactive⟩)

/-- An object stops being active: it may if it does not have instance id 1, or if no other is active. -/
theorem Served.drop_iff (h : Served objects) {x : Option PollingThread}
    (hunique : ∀ ref ref' p p', objects ref = some p → objects ref' = some p' → p.instanceId = 1 →
      p'.instanceId = 1 → ref = ref')
    (hx : ∀ p', x = some p' → ¬ p'.Active) :
    Served (Function.update objects ref x) ↔ LastActive objects ref := by
  -- what is active behind the step is another object, and was active before
  have hothers : ∀ ref' q, Function.update objects ref x ref' = some q → q.Active →
      ref' ≠ ref ∧ objects ref' = some q := by
    intro ref' q hq hactive
    rcases update_eq_some hq with ⟨-, hq⟩ | hother
    · exact absurd hactive (hx q hq)
    · exact hother
  constructor
  · intro hserved q hq hone ref' q' hne hq' hactive
    have hafter : Function.update objects ref x ref' = some q' :=
      (Function.update_of_ne hne ..).trans hq'
    obtain ⟨ref₁, q₁, hq₁, hfirst, hactive₁⟩ := hserved ⟨ref', q', hafter, hactive⟩
    obtain ⟨hne₁, hq₁⟩ := hothers ref₁ q₁ hq₁ hactive₁
    exact hne₁ (hunique ref₁ ref q₁ q hq₁ hq hfirst hone)
  · rintro hlast ⟨ref', q, hq, hactive⟩
    obtain ⟨hne, hq⟩ := hothers ref' q hq hactive
    obtain ⟨ref₁, q₁, hq₁, hfirst, hactive₁⟩ := h ⟨ref', q, hq, hactive⟩
    by_cases heq : ref₁ = ref
    · rw [heq] at hq₁
      exact absurd hactive (hlast q₁ hq₁ hfirst ref' q hne hq)
    · exact ⟨ref₁, q₁, (Function.update_of_ne heq ..).trans hq₁, hfirst, hactive₁⟩

end Served

/-- **One step** leaves the objects served exactly when it meets the condition. -/
theorem needSafe_iff {s s' : SharedState} {a : PollingAction} (h : SharedInv s) (hserved : Served s.objects)
    (hafter : ObjectsAfter s.objects a s'.objects) : NeedSafe s a ↔ Served s'.objects := by
  generalize hobjects : s'.objects = after at hafter
  cases hafter with
  | construct hfree hp =>
      refine ⟨fun _ => hserved.construct hfree ?_, fun _ => trivial⟩
      rintro ⟨hinited, -⟩
      rw [hp] at hinited
      cases hinited
  | @init ref portError created p ok hp hok =>
      rw [hserved.grow_iff hp]
      · constructor
        · rintro hsafe hother ⟨-, hstarted, hdown⟩
          exact hsafe p hp hother hstarted hdown
        · intro hsafe q hq hother hstarted hdown
          rw [hp] at hq
          cases hq
          exact hsafe hother ⟨by simp [hok hother], hstarted, hdown⟩
      · rfl
      · rintro ⟨hinited, hstarted, hdown⟩
        exact ⟨by simp [hinited], hstarted, hdown⟩
  | @start ref p ok hp hok =>
      rw [hserved.grow_iff hp]
      · constructor
        · rintro hsafe hother ⟨hinited, -, hdown⟩
          exact hsafe p hp hother hinited hdown
        · intro hsafe q hq hother hinited hdown
          rw [hp] at hq
          cases hq
          exact hsafe hother ⟨hinited, by simp [hok hother], hdown⟩
      · rfl
      · rintro ⟨hinited, hstarted, hdown⟩
        exact ⟨hinited, by simp [hstarted], hdown⟩
  | shutdown hp hdown =>
      refine (hserved.drop_iff h.first ?_).symm
      rintro p' hp' ⟨-, -, hup⟩
      cases hp'
      rw [hdown] at hup
      cases hup
  | destroy hp =>
      refine (hserved.drop_iff h.first ?_).symm
      intro p' hp'
      cases hp'

/-! ### Runs -/

/-- **The shared worker runs exactly while an object needs it, as long as the object with instance id 1
outlives the need.** In every run of constructing, `Init`-ing, `Start`-ing, shutting down and destroying
any number of objects in which an object other than the one with instance id 1 becomes active only while
that one is, and that one is shut down or destroyed only when no other is active: the shared worker is
initialised and started if and only if some object was `Init`-ed and `Start`-ed and not shut down. In such
a run the next step keeps this if and only if it meets the condition. -/
theorem worker_running_of_needSafe (s : SharedState) (hs : pollingMachine.Reaches NeedSafe s) :
    (s.WorkerRunning ↔ SomeActive s.objects) ∧
    ∀ a s', pollingMachine.step s a = some s' →
      (NeedSafe s a ↔ (s'.WorkerRunning ↔ SomeActive s'.objects)) := by
  have hboth : SharedInv s ∧ Served s.objects := by
    apply hs.invariant fun s => SharedInv s ∧ Served s.objects
    · refine ⟨SharedInv.start, ?_⟩
      rintro ⟨ref, p, hp, -⟩
      cases hp
    · intro t a t' _ hsafe h hstep
      -- a safe step from served objects leaves them served
      obtain ⟨hinv', hafter⟩ := h.1.exec hstep
      exact ⟨hinv', (needSafe_iff h.1 h.2 hafter).mp hsafe⟩
  refine ⟨hboth.1.workerRunning_iff_someActive.mpr hboth.2, ?_⟩
  intro a s' hstep
  obtain ⟨hinv', hafter⟩ := hboth.1.exec hstep
  rw [hinv'.workerRunning_iff_someActive]
  exact needSafe_iff hboth.1 hboth.2 hafter

/-- Two objects are made, initialised and started, and shut down in the order opposite to that of their
construction. -/
theorem worker_running_of_needSafe_two_objects :
    ∃ s, pollingMachine.run pollingMachine.init
        [.construct 0, .init 0 none 4, .start 0, .construct 1, .init 1 none 4, .start 1, .shutdown 1]
        = some s ∧
      SomeActive s.objects ∧ s.WorkerRunning := by
  have hone : pollingMachine.Reaches NeedSafe _ := Machine.Reaches.init.step (a := .construct 0) trivial rfl
  have htwo : pollingMachine.Reaches NeedSafe _ := hone.step (a := .init 0 none 4)
    (by rintro p ⟨⟩ hother; exact absurd rfl hother) rfl
  have hthree : pollingMachine.Reaches NeedSafe _ := htwo.step (a := .start 0)
    (by rintro p ⟨⟩ hother; exact absurd rfl hother) rfl
  have hfour : pollingMachine.Reaches NeedSafe _ := hthree.step (a := .construct 1) trivial rfl
  have hfive : pollingMachine.Reaches NeedSafe _ := hfour.step (a := .init 1 none 4)
    (by rintro p ⟨⟩ - ⟨⟩) rfl
  -- the second object becomes active while the first is
  have hsix : pollingMachine.Reaches NeedSafe _ := hfive.step (a := .start 1)
    (fun _ _ _ _ _ => ⟨0, _, rfl, rfl, rfl, rfl, rfl⟩) rfl
  have hseven : pollingMachine.Reaches NeedSafe _ := hsix.step (a := .shutdown 1)
    (by rintro p ⟨⟩ ⟨⟩) rfl
  have hrunning := (worker_running_of_needSafe _ hseven).1.mpr ⟨0, _, rfl, rfl, rfl, rfl⟩
  exact ⟨_, rfl, ⟨0, _, rfl, rfl, rfl, rfl⟩, hrunning⟩

/-- Two objects are made, initialised and started, and the first is shut down. -/
theorem first_object_stops_worker :
    ∃ s, pollingMachine.run pollingMachine.init
        [.construct 0, .init 0 none 4, .start 0, .construct 1, .init 1 none 4, .start 1, .shutdown 0]
        = some s ∧
      SomeActive s.objects ∧ ¬ s.WorkerRunning := by
  refine ⟨_, rfl, ⟨1, _, rfl, rfl, rfl, rfl⟩, ?_⟩
  rintro ⟨a, hshared, hup, -⟩
  cases hshared
  cases hup

end RaptorLite.Windows
