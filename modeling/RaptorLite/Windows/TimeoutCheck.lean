import Mathlib.Data.Finset.Basic
import RaptorLite.Windows.PollingThread

/-! # The timeout checks of the shared worker

The way of `EnableTimeoutCheck` through `windows/iocp_thread.cc`. `PollingThread::EnableTimeoutCheck` passes
the setting to the adaptor, which enters its service into a set or takes it out; `OnTimeoutCheck` of the
adaptor goes over this set. The worker loop calls it when a flag of `IocpThread` is set, and that flag is a
third place: its setter `IocpThread::EnableTimeoutCheck` is called by nobody, so the flag keeps the `false`
that the constructor gave it.

A service is a value of any type `σ`. -/

namespace RaptorLite.Windows

variable {σ : Type} [DecidableEq σ]

/-- The places that the setting passes through. -/
structure TimeoutChecks (σ : Type) where
  /-- `_enable_timeout_check` of the `IocpThread`. -/
  enableTimeoutCheck : Bool
  /-- `_timeout_check_services` of the `IocpThreadAdaptor`. -/
  timeoutCheckServices : Finset σ

namespace TimeoutChecks

/-- The adaptor and its worker as they are constructed. -/
def make : TimeoutChecks σ := ⟨false, ∅⟩

/-- `IocpThreadAdaptor::EnableTimeoutCheck`. -/
def enable (t : TimeoutChecks σ) (service : σ) (timeoutCheck : Bool) : TimeoutChecks σ :=
  { t with
    timeoutCheckServices := if timeoutCheck then insert service t.timeoutCheckServices
      else t.timeoutCheckServices.erase service }

/-- `IocpThreadAdaptor::OnTimeoutCheck`: the services that are called, each once. -/
def onTimeoutCheck (t : TimeoutChecks σ) : Finset σ := t.timeoutCheckServices

/-- The head of an iteration of `IocpThread::WorkThread`: the services on which `OnTimeoutCheck` is
called. -/
def iteration (t : TimeoutChecks σ) : Finset σ :=
  if t.enableTimeoutCheck then t.onTimeoutCheck else ∅

/-- Enabling or disabling a service changes that service alone. -/
theorem mem_enable {t : TimeoutChecks σ} {service other : σ} {b : Bool} :
    other ∈ (t.enable service b).timeoutCheckServices ↔
      if other = service then b = true else other ∈ t.timeoutCheckServices := by
  by_cases heq : other = service
  · cases b with
    | false => simp [enable, heq]
    | true => simp [enable, heq]
  · cases b with
    | false => simp [enable, heq]
    | true => simp [enable, heq]

end TimeoutChecks

/-- `PollingThread::EnableTimeoutCheck` of an object with this `_service`. -/
def PollingThread.enableTimeoutCheck (p : PollingThread) (service : σ) (t : TimeoutChecks σ) (b : Bool) :
    TimeoutChecks σ :=
  if p.instanceId = 0 then t else t.enable service b

/-! ### The machine -/

/-- The shared adaptor with the history of the settings and of the iterations. -/
structure TimeoutState (σ : Type) where
  /-- The adaptor and its worker. -/
  checks : TimeoutChecks σ
  /-- The latest setting of each service; no check is on at the start. -/
  latest : σ → Bool
  /-- The iterations so far: the clock, and the services called. -/
  iterations : List (Int × Finset σ)

/-- The steps. -/
inductive TimeoutAction (σ : Type) where
  /-- `EnableTimeoutCheck(b)` on an object with this `_service`. -/
  | enableTimeoutCheck (p : PollingThread) (service : σ) (b : Bool)
  /-- A worker thread starts an iteration at this clock reading. -/
  | iterate (now : Int)

/-- One step. -/
def TimeoutState.exec (s : TimeoutState σ) : TimeoutAction σ → Option (TimeoutState σ)
  | .enableTimeoutCheck p service b =>
      some { s with
        checks := p.enableTimeoutCheck service s.checks b
        latest := Function.update s.latest service b }
  | .iterate now => some { s with iterations := s.iterations ++ [(now, s.checks.iteration)] }

/-- The object of a call is active: it was not shut down. -/
def TimeoutAction.OnActive (_ : TimeoutState σ) : TimeoutAction σ → Prop
  | .enableTimeoutCheck p _ _ => p.instanceId ≠ 0
  | .iterate _ => True

/-- The shared adaptor behind its construction. -/
def timeoutMachine (σ : Type) [DecidableEq σ] : Machine (TimeoutState σ) (TimeoutAction σ) where
  init := { checks := .make, latest := fun _ => false, iterations := [] }
  step := TimeoutState.exec

/-! ### Runs -/

/-- The set follows the settings, the flag does not. -/
structure TimeoutInv (s : TimeoutState σ) : Prop where
  /-- The services in the set are those whose latest setting is true. -/
  services : ∀ service, service ∈ s.checks.timeoutCheckServices ↔ s.latest service = true
  /-- The flag that the loop reads is never set. -/
  flag : s.checks.enableTimeoutCheck = false
  /-- No iteration called a service. -/
  iterations : ∀ it ∈ s.iterations, it.2 = ∅

omit [DecidableEq σ] in
/-- An iteration calls no service, since the flag it reads is never set. -/
theorem TimeoutInv.iteration_eq {s : TimeoutState σ} (h : TimeoutInv s) : s.checks.iteration = ∅ := by
  rw [TimeoutChecks.iteration, h.flag]
  rfl

/-- **One step** keeps the invariant. -/
theorem TimeoutInv.step {s s' : TimeoutState σ} {a : TimeoutAction σ} (h : TimeoutInv s)
    (hactive : a.OnActive s) (hstep : s.exec a = some s') : TimeoutInv s' := by
  cases a with
  | enableTimeoutCheck p service b =>
      cases hstep
      have hchecks : p.enableTimeoutCheck service s.checks b = s.checks.enable service b := if_neg hactive
      refine ⟨?_, by rw [hchecks]; exact h.flag, h.iterations⟩
      intro other
      dsimp only
      rw [hchecks, TimeoutChecks.mem_enable, Function.update_apply]
      by_cases heq : other = service
      · rw [if_pos heq, if_pos heq]
      · rw [if_neg heq, if_neg heq]
        exact h.services other
  | iterate now =>
      cases hstep
      refine ⟨h.services, h.flag, ?_⟩
      intro it hit
      rcases List.mem_append.mp hit with hit | hit
      · exact h.iterations it hit
      · rw [List.mem_singleton.mp hit]
        exact h.iteration_eq

/-- **When an iteration makes the enabled timeout checks.** In every state reached by calls of
`EnableTimeoutCheck` on active objects and by iterations of the worker loop: the adaptor knows exactly the
services whose latest setting is true, no iteration so far called any of them, and the next one calls
`OnTimeoutCheck` on exactly these services if and only if there are none. -/
theorem timeout_checks_run_iff (s : TimeoutState σ)
    (hs : (timeoutMachine σ).Reaches (fun s a => a.OnActive s) s) :
    (∀ service, service ∈ s.checks.timeoutCheckServices ↔ s.latest service = true) ∧
    (∀ it ∈ s.iterations, it.2 = ∅) ∧
    ((∀ service, service ∈ s.checks.iteration ↔ s.latest service = true) ↔
      ∀ service, s.latest service = false) := by
  have h : TimeoutInv s := by
    apply hs.invariant TimeoutInv
    · exact ⟨fun service => by simp [timeoutMachine, TimeoutChecks.make], rfl, fun _ hit => nomatch hit⟩
    · intro s a s' _ hactive h hstep
      exact h.step hactive hstep
  refine ⟨h.services, h.iterations, ?_⟩
  rw [h.iteration_eq]
  simp

/-- A container enables its timeout check: the adaptor enters the service, and the next iteration of the
worker loop does not call it. -/
theorem enabled_timeout_check_does_not_run :
    ∃ s, (timeoutMachine Nat).Reaches (fun s a => a.OnActive s) s ∧ s.latest 7 = true ∧
      7 ∈ s.checks.timeoutCheckServices ∧
      ¬ ∀ service, service ∈ s.checks.iteration ↔ s.latest service = true := by
  have hs : (timeoutMachine Nat).Reaches (fun s a => a.OnActive s) _ :=
    Machine.Reaches.step (a := .enableTimeoutCheck ⟨1, 0, true, true, false⟩ 7 true) .init
      (show (1 : Nat) ≠ 0 by decide) rfl
  refine ⟨_, hs, rfl, by decide, ?_⟩
  intro hall
  exact absurd ((hall 7).mpr rfl) (by decide)

/-- The check of one container is switched on and off again: no service is to be called, and none is. -/
theorem timeout_checks_run_iff_off :
    ∃ s, (timeoutMachine Nat).Reaches (fun s a => a.OnActive s) s ∧
      ∀ service, service ∈ s.checks.iteration ↔ s.latest service = true := by
  have hon : (timeoutMachine Nat).Reaches (fun s a => a.OnActive s) _ :=
    Machine.Reaches.step (a := .enableTimeoutCheck ⟨1, 0, true, true, false⟩ 7 true) .init
      (show (1 : Nat) ≠ 0 by decide) rfl
  have hoff : (timeoutMachine Nat).Reaches (fun s a => a.OnActive s) _ :=
    Machine.Reaches.step (a := .enableTimeoutCheck ⟨1, 0, true, true, false⟩ 7 false) hon
      (show (1 : Nat) ≠ 0 by decide) rfl
  refine ⟨_, hoff, (timeout_checks_run_iff _ hoff).2.2.mpr ?_⟩
  intro service
  by_cases heq : service = 7
  · rw [heq]
    rfl
  · simp [timeoutMachine, heq]

end RaptorLite.Windows
