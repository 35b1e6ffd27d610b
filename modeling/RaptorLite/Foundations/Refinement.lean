import Mathlib.Logic.Basic

/-! # Processes with replies, and what they implement

A `Process` is a partial, executable step on a concrete state that returns a reply to its caller. A `Spec`
says on an abstract state which replies are allowed for a call. A relation between the states that every
step of the process keeps (`Simulation`) gives the inclusion of traces: whatever calls are made, in every
run the replies of the process are replies of the specification (`Simulation.trace`). -/

namespace RaptorLite

universe u v w x

/-- A start state and a partial step that returns a reply. -/
structure Process (σ : Type u) (α : Type v) (ω : Type w) where
  /-- The state every run starts from. -/
  init : σ
  /-- One call; `none` when it has no defined behaviour. -/
  step : σ → α → Option (σ × ω)

/-- An abstract state and the steps that are allowed. -/
structure Spec (τ : Type x) (α : Type v) (ω : Type w) where
  /-- The state every trace starts from. -/
  init : τ
  /-- The call, its reply and the state behind it. -/
  step : τ → α → ω → τ → Prop

variable {σ : Type u} {α : Type v} {ω : Type w} {τ : Type x}

/-- The calls made in turn: the state behind the last, and the calls with their replies. -/
def Process.run (P : Process σ α ω) : σ → List α → Option (σ × List (α × ω))
  | s, [] => some (s, [])
  | s, a :: rest =>
      (P.step s a).bind fun (s', reply) => (P.run s' rest).map fun r => (r.1, (a, reply) :: r.2)

/-- The traces of a specification. -/
inductive Spec.Trace (S : Spec τ α ω) : τ → List (α × ω) → τ → Prop
  /-- No call. -/
  | nil (t : τ) : Trace S t [] t
  /-- A call, and what follows. -/
  | cons {t t' t'' : τ} {a : α} {reply : ω} {rest : List (α × ω)} :
      S.step t a reply t' → Trace S t' rest t'' → Trace S t ((a, reply) :: rest) t''

/-- A relation that every step of the process keeps along steps of the specification. -/
structure Simulation (P : Process σ α ω) (S : Spec τ α ω) (R : σ → τ → Prop) : Prop where
  /-- The start states are related. -/
  init : R P.init S.init
  /-- A step from related states can be followed. -/
  step : ∀ {s t a s' reply}, R s t → P.step s a = some (s', reply) → ∃ t', S.step t a reply t' ∧ R s' t'

/-- **Trace inclusion.** Every run of the process is a trace of the specification, to a related state. -/
theorem Simulation.trace {P : Process σ α ω} {S : Spec τ α ω} {R : σ → τ → Prop} (h : Simulation P S R)
    {calls : List α} {s : σ} {replies : List (α × ω)} (hrun : P.run P.init calls = some (s, replies)) :
    ∃ t, S.Trace S.init replies t ∧ R s t := by
  have hfrom : ∀ (calls : List α) {s₀ s : σ} {t₀ : τ} {replies : List (α × ω)}, R s₀ t₀ →
      P.run s₀ calls = some (s, replies) → ∃ t, S.Trace t₀ replies t ∧ R s t := by
    intro calls
    induction calls with
    | nil =>
        intro s₀ s t₀ replies hrel hrun
        cases hrun
        exact ⟨t₀, .nil t₀, hrel⟩
    | cons a rest ih =>
        intro s₀ s t₀ replies hrel hrun
        obtain ⟨⟨s₁, reply⟩, hstep, hrun⟩ := Option.bind_eq_some_iff.mp hrun
        obtain ⟨⟨s₂, replies⟩, hrest, hend⟩ := Option.map_eq_some_iff.mp hrun
        cases hend
        obtain ⟨t₁, hspec, hrel₁⟩ := h.step hrel hstep
        obtain ⟨t, htrace, hrel'⟩ := ih hrel₁ hrest
        exact ⟨t, .cons hspec htrace, hrel'⟩
  exact hfrom calls h.init hrun

end RaptorLite
