import Mathlib.Data.Fintype.BigOperators

/-! # Threads with program counters

A program of several threads is kept as a function from thread names to program counters; a step of
one thread is a `Function.update` of it. Two things about such a function are used again and again:
how many threads stand at certain places (`tally`, a sum over the threads), and that the places between
the acquisition and the release of a lock are occupied by its owner alone (`LockedBy`). For each there
are the rules that say what a step of one thread does to it. -/

namespace RaptorLite

universe u v

variable {ι : Type u} {π : Type v}

/-! ### Sums over threads -/

/-- **A step of one thread** takes what it contributed at its old place out of a sum over all threads
and puts in what it contributes at its new one. -/
theorem sum_update {M : Type*} [AddCommMonoid M] [Fintype ι] [DecidableEq ι] (weight : π → M)
    (pcs : ι → π) (i : ι) (pc : π) :
    ∑ j, weight (Function.update pcs i pc j) + weight (pcs i) = ∑ j, weight (pcs j) + weight pc := by
  have hrest : ∑ j ∈ Finset.univ.erase i, weight (Function.update pcs i pc j) =
      ∑ j ∈ Finset.univ.erase i, weight (pcs j) := by
    apply Finset.sum_congr rfl
    intro j hj
    rw [Function.update_of_ne (Finset.ne_of_mem_erase hj)]
  rw [← Finset.add_sum_erase Finset.univ (fun j => weight (Function.update pcs i pc j))
      (Finset.mem_univ i), ← Finset.add_sum_erase Finset.univ (fun j => weight (pcs j))
      (Finset.mem_univ i), hrest, Function.update_self]
  rw [add_comm (weight pc), add_comm (weight (pcs i)), add_right_comm]

/-! ### Counting threads -/

section Tally

variable [Fintype ι]

/-- The number of threads at a place that `place` accepts. -/
def tally (place : π → Bool) (pcs : ι → π) : Nat := ∑ i, (place (pcs i)).toNat

section Update

variable [DecidableEq ι]

/-- A step of one thread takes it out of the count at its old place and into it at its new one. -/
theorem tally_update (place : π → Bool) (pcs : ι → π) (i : ι) (pc : π) :
    tally place (Function.update pcs i pc) + (place (pcs i)).toNat =
      tally place pcs + (place pc).toNat :=
  sum_update (fun pc => (place pc).toNat) pcs i pc

/-- A step between places that are counted alike changes nothing. -/
theorem tally_update_same {place : π → Bool} {pcs : ι → π} {i : ι} {pc : π}
    (h : place pc = place (pcs i)) : tally place (Function.update pcs i pc) = tally place pcs := by
  have hupdate := tally_update place pcs i pc
  rw [h] at hupdate
  omega

end Update

/-- No thread is counted exactly when none is at such a place. -/
theorem tally_eq_zero {place : π → Bool} {pcs : ι → π} :
    tally place pcs = 0 ↔ ∀ i, place (pcs i) = false := by
  rw [tally, Finset.sum_eq_zero_iff]
  refine ⟨?_, ?_⟩
  · intro h i
    exact Bool.toNat_eq_zero.mp (h i (Finset.mem_univ i))
  · intro h i _
    rw [h i, Bool.toNat_false]

end Tally

/-! ### One lock -/

/-- The places that `critical` accepts are held by the owner of the lock and by nobody else. -/
def LockedBy (critical : π → Bool) (pcs : ι → π) (owner : Option ι) : Prop :=
  ∀ i, critical (pcs i) = true ↔ owner = some i

namespace LockedBy

variable {critical : π → Bool} {pcs : ι → π} {owner : Option ι} {i : ι} {pc : π}

/-- A thread inside excludes every other. -/
theorem unique (h : LockedBy critical pcs owner) {j : ι} (hi : critical (pcs i) = true)
    (hj : critical (pcs j) = true) : i = j := by
  have howner := (h i).mp hi
  rw [(h j).mp hj] at howner
  exact (Option.some.inj howner).symm

/-- While the lock is free nobody is inside. -/
theorem outside_of_free (h : LockedBy critical pcs none) (i : ι) : critical (pcs i) = false := by
  cases hi : critical (pcs i) with
  | false => rfl
  | true => exact absurd ((h i).mp hi) (by simp)

/-- Only who is inside matters. -/
theorem congr {pcs' : ι → π} (h : LockedBy critical pcs owner)
    (hsame : ∀ j, critical (pcs' j) = critical (pcs j)) : LockedBy critical pcs' owner := by
  intro j
  rw [hsame j]
  exact h j

variable [DecidableEq ι]

/-- A step that does not cross the border of the locked region. -/
theorem stay (h : LockedBy critical pcs owner) (heq : critical pc = critical (pcs i)) :
    LockedBy critical (Function.update pcs i pc) owner := by
  intro j
  by_cases hj : j = i
  · subst hj
    rw [Function.update_self, heq]
    exact h j
  · rw [Function.update_of_ne hj]
    exact h j

/-- Taking the free lock. -/
theorem acquire (h : LockedBy critical pcs none) (hpc : critical pc = true) :
    LockedBy critical (Function.update pcs i pc) (some i) := by
  intro j
  by_cases hj : j = i
  · subst hj
    simp [hpc]
  · rw [Function.update_of_ne hj, h.outside_of_free j]
    simp [Ne.symm hj]

/-- Giving the lock back. -/
theorem release (h : LockedBy critical pcs owner) (hi : critical (pcs i) = true)
    (hpc : critical pc = false) : LockedBy critical (Function.update pcs i pc) none := by
  intro j
  by_cases hj : j = i
  · subst hj
    simp [hpc]
  · rw [Function.update_of_ne hj]
    have hout : critical (pcs j) ≠ true := fun hcrit => hj (h.unique hcrit hi)
    simp [hout]

end LockedBy

end RaptorLite
