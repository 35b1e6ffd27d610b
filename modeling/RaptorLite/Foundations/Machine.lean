import Mathlib.Logic.Basic

/-! # Partial machines, guarded runs and invariants

A `Machine` is a start state and a partial, executable step: `step s a = none` says that the action
`a` is not enabled (or gets stuck) in `s`. A whole execution is either a list of actions (`run`) or
the inductive closure `Reaches ok`, whose steps must all meet the condition `ok` on the state before
the step and the action. Plain reachability is the closure under the trivial condition.

Every safety result of the development goes through one rule, `Reaches.invariant`: a property of the
start state that every admitted step preserves holds in every state reached. -/

namespace RaptorLite

universe u v

/-- A computation that reports its failures, read as a partial one, succeeds when it does. -/
theorem eq_ok_of_toOption {ε : Type u} {α : Type v} {x : Except ε α} {a : α}
    (h : x.toOption = some a) : x = .ok a := by
  cases x with
  | error e => cases h
  | ok b =>
      cases h
      rfl

/-- Two computations in turn succeed when both do. -/
theorem bind_eq_ok_iff {ε : Type u} {α β : Type v} {x : Except ε α} {f : α → Except ε β} {b : β} :
    x >>= f = .ok b ↔ ∃ a, x = .ok a ∧ f a = .ok b := by
  cases x with
  | error e => simp [bind, Except.bind]
  | ok a => simp [bind, Except.bind]

/-- Changing one object of a heap in a way that `f` does not see. -/
theorem map_modify_eq {α : Type u} {β : Type v} (f : α → β) (g : α → α) (hg : ∀ x, f (g x) = f x) (l : List α)
    (i : Nat) : (l.modify i g).map f = l.map f := by
  apply List.ext_getElem?
  intro j
  rw [List.getElem?_map, List.getElem?_map, List.getElem?_modify]
  cases l[j]? with
  | none => rfl
  | some x =>
      by_cases hj : i = j
      · simp [hj, hg]
      · simp [hj]

/-- A start state together with a partial step function. -/
structure Machine (σ : Type u) (α : Type v) where
  /-- The state every run starts from. -/
  init : σ
  /-- One action; `none` when it is not enabled. -/
  step : σ → α → Option σ

namespace Machine

variable {σ : Type u} {α : Type v}

/-- Execute a list of actions from a state, stopping with `none` at the first disabled one. -/
def run (M : Machine σ α) : σ → List α → Option σ
  | s, [] => some s
  | s, a :: rest => (M.step s a).bind fun s' => run M s' rest

/-- The states reached from the start by steps that each meet `ok`. -/
inductive Reaches (M : Machine σ α) (ok : σ → α → Prop) : σ → Prop
  /-- The start state is reached. -/
  | init : Reaches M ok M.init
  /-- One admitted step further. -/
  | step {s s' : σ} {a : α} : Reaches M ok s → ok s a → M.step s a = some s' → Reaches M ok s'

/-- The states reached by any steps at all. -/
abbrev Reachable (M : Machine σ α) : σ → Prop := M.Reaches fun _ _ => True

variable {M : Machine σ α} {ok : σ → α → Prop}

/-- **The invariant rule.** A property of the start state kept by every admitted step (from a reached
state) holds in every state reached. -/
theorem Reaches.invariant (Inv : σ → Prop) (hinit : Inv M.init)
    (hstep : ∀ s a s', M.Reaches ok s → ok s a → Inv s → M.step s a = some s' → Inv s')
    {s : σ} (hs : M.Reaches ok s) : Inv s := by
  induction hs with
  | init => exact hinit
  | step hs hok hst ih => exact hstep _ _ _ hs hok ih hst

/-- Weakening the condition on steps reaches at least as many states. -/
theorem Reaches.mono {ok' : σ → α → Prop} (h : ∀ s a, ok s a → ok' s a) {s : σ}
    (hs : M.Reaches ok s) : M.Reaches ok' s := by
  induction hs with
  | init => exact .init
  | step _ hok hst ih => exact .step ih (h _ _ hok) hst

/-- A state reached under a condition is reachable. -/
theorem Reaches.reachable {s : σ} (hs : M.Reaches ok s) : M.Reachable s :=
  hs.mono fun _ _ _ => trivial

/-- The empty run ends where it starts. -/
@[simp] theorem run_nil (M : Machine σ α) (s : σ) : M.run s [] = some s := rfl

/-- A run takes its first step and goes on from there. -/
@[simp] theorem run_cons (M : Machine σ α) (s : σ) (a : α) (rest : List α) :
    M.run s (a :: rest) = (M.step s a).bind fun s' => M.run s' rest := rfl

/-- Running two lists in turn is running their concatenation. -/
theorem run_append (M : Machine σ α) (s : σ) (as bs : List α) :
    M.run s (as ++ bs) = (M.run s as).bind fun s' => M.run s' bs := by
  induction as generalizing s with
  | nil => rfl
  | cons a rest ih =>
      simp only [List.cons_append, run_cons]
      cases M.step s a with
      | none => rfl
      | some s' => exact ih s'

/-- A run of actions that are admitted in every state reaches the state it ends in. -/
theorem Reaches.run {s s' : σ} {as : List α} (hs : M.Reaches ok s) (hok : ∀ a ∈ as, ∀ t, ok t a)
    (hr : M.run s as = some s') : M.Reaches ok s' := by
  induction as generalizing s with
  | nil =>
      rw [run_nil, Option.some.injEq] at hr
      exact hr ▸ hs
  | cons a rest ih =>
      rw [run_cons] at hr
      obtain ⟨t, ht, hr⟩ := Option.bind_eq_some_iff.mp hr
      exact ih (hs.step (hok a List.mem_cons_self s) ht)
        (fun b hb => hok b (List.mem_cons_of_mem a hb)) hr

/-- Every action of a list meets `ok` in the state in which it is taken. -/
inductive Along (M : Machine σ α) (ok : σ → α → Prop) : σ → List α → Prop
  /-- Nothing is left to do. -/
  | nil {s : σ} : Along M ok s []
  /-- The next action is admitted, and the others are behind it. -/
  | cons {s : σ} {a : α} {rest : List α} : ok s a → (∀ s', M.step s a = some s' → Along M ok s' rest) →
      Along M ok s (a :: rest)

/-- A run of actions that are admitted where they are taken reaches the state it ends in. -/
theorem Reaches.along {s s' : σ} {as : List α} (hs : M.Reaches ok s) (hr : M.run s as = some s')
    (hok : M.Along ok s as) : M.Reaches ok s' := by
  induction hok with
  | nil =>
      rw [run_nil, Option.some.injEq] at hr
      exact hr ▸ hs
  | cons hok _ ih =>
      rw [run_cons] at hr
      obtain ⟨t, ht, hr⟩ := Option.bind_eq_some_iff.mp hr
      exact ih t ht (hs.step hok ht) hr

/-- The machine that takes a step only where the condition holds. -/
def guard (M : Machine σ α) (ok : σ → α → Prop) [∀ s a, Decidable (ok s a)] : Machine σ α where
  init := M.init
  step s a := if ok s a then M.step s a else none

/-- A run with guarded steps reaches the state it ends in under the condition. -/
theorem reaches_of_guard_run [∀ s a, Decidable (ok s a)] {s s' : σ} {as : List α} (hs : M.Reaches ok s)
    (hr : (M.guard ok).run s as = some s') : M.Reaches ok s' := by
  induction as generalizing s with
  | nil =>
      rw [run_nil, Option.some.injEq] at hr
      exact hr ▸ hs
  | cons a rest ih =>
      rw [run_cons] at hr
      obtain ⟨t, ht, hr⟩ := Option.bind_eq_some_iff.mp hr
      obtain ⟨hok, ht⟩ := Option.ite_none_right_eq_some.mp ht
      exact ih (hs.step hok ht) hr

/-- It is a run without the guards, too. -/
theorem run_of_guard_run [∀ s a, Decidable (ok s a)] {s s' : σ} {as : List α}
    (hr : (M.guard ok).run s as = some s') : M.run s as = some s' := by
  induction as generalizing s with
  | nil => exact hr
  | cons a rest ih =>
      rw [run_cons] at hr ⊢
      obtain ⟨t, ht, hr⟩ := Option.bind_eq_some_iff.mp hr
      rw [(Option.ite_none_right_eq_some.mp ht).2, Option.bind_some]
      exact ih hr

/-- The end of a successful run from the start state is reachable. -/
theorem reachable_of_run {s : σ} {as : List α} (hr : M.run M.init as = some s) : M.Reachable s :=
  Reaches.run Reaches.init (fun _ _ _ => trivial) hr

end Machine

end RaptorLite
