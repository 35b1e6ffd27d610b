import Mathlib.Data.List.Nodup
import Mathlib.Logic.Function.Basic

/-! # Singly linked chains with pending links

The shape of a linked queue whose writers first swing the end pointer and only then store the link
from the old end: the nodes form a sequence from `oldest` to `newest`, and from each node to the one
behind it there is either a stored link or a link that some writer has yet to store. The rules below
are the moves such a queue makes: a node is put behind the newest one, a pending link is stored, the
oldest node is left behind, and a node outside of the chain is written to. -/

namespace RaptorLite

universe u

variable {ν : Type u}

/-- In the list, `y` comes directly behind `x`. -/
def Follows : List ν → ν → ν → Prop
  | a :: b :: rest, x, y => (a = x ∧ b = y) ∨ Follows (b :: rest) x y
  | _, _, _ => False

/-- Following in a list of two or more is being the first pair or following in the rest. -/
theorem follows_cons_cons {a b x y : ν} {rest : List ν} :
    Follows (a :: b :: rest) x y ↔ (a = x ∧ b = y) ∨ Follows (b :: rest) x y := Iff.rfl

/-- Two nodes that follow each other are in the list, the second behind the first. -/
theorem Follows.mem {l : List ν} {x y : ν} (h : Follows l x y) : x ∈ l ∧ y ∈ l.tail := by
  induction l with
  | nil => cases h
  | cons a rest ih =>
      cases rest with
      | nil => cases h
      | cons b rest =>
          rcases h with ⟨rfl, rfl⟩ | h
          · exact ⟨List.mem_cons_self, List.mem_cons_self⟩
          · exact ⟨List.mem_cons_of_mem a (ih h).1, List.mem_cons_of_mem b (ih h).2⟩

/-- A node has at most one successor. -/
theorem Follows.right_unique {l : List ν} (hl : l.Nodup) {x y z : ν} (hy : Follows l x y)
    (hz : Follows l x z) : y = z := by
  induction l with
  | nil => cases hy
  | cons a rest ih =>
      cases rest with
      | nil => cases hy
      | cons b rest =>
          obtain ⟨ha, hrest⟩ := List.nodup_cons.mp hl
          rcases hy with ⟨rfl, rfl⟩ | hy <;> rcases hz with ⟨hax, rfl⟩ | hz
          · rfl
          · exact absurd hz.mem.1 ha
          · exact absurd (hax ▸ hy.mem.1) ha
          · exact ih hrest hy hz

/-- The last node has no successor, and every other node has one. -/
theorem follows_iff_not_last {l : List ν} (hl : l.Nodup) {x : ν} (hx : x ∈ l) :
    (∃ y, Follows l x y) ↔ l.getLast? ≠ some x := by
  induction l with
  | nil => cases hx
  | cons a rest ih =>
      cases rest with
      | nil =>
          have hax : a = x := (List.mem_singleton.mp hx).symm
          simp [Follows, hax]
      | cons b rest =>
          obtain ⟨ha, hrest⟩ := List.nodup_cons.mp hl
          rw [List.getLast?_cons_cons]
          rcases List.mem_cons.mp hx with rfl | hx
          · refine ⟨fun _ hlast => ha (List.mem_of_getLast? hlast), fun _ => ⟨b, Or.inl ⟨rfl, rfl⟩⟩⟩
          · rw [← ih hrest hx]
            constructor
            · rintro ⟨y, ⟨rfl, -⟩ | hy⟩
              · exact absurd hx ha
              · exact ⟨y, hy⟩
            · rintro ⟨y, hy⟩
              exact ⟨y, Or.inr hy⟩

/-- The successors in a list with one more node at its end. -/
theorem follows_concat {l : List ν} {x y z : ν} :
    Follows (l ++ [z]) x y ↔ Follows l x y ∨ (l.getLast? = some x ∧ y = z) := by
  induction l with
  | nil => simp [Follows]
  | cons a rest ih =>
      cases rest with
      | nil => simp [Follows, eq_comm]
      | cons b rest =>
          have ih' := ih
          simp only [List.cons_append] at ih' ⊢
          rw [follows_cons_cons, ih', follows_cons_cons, List.getLast?_cons_cons, or_assoc]

/-- The chain from `oldest` to `newest`: successors are linked or their link is pending, and the
pending links are between successors. -/
structure Chain (next : ν → Option ν) (pending : ν → ν → Prop) (oldest newest : ν) (l : List ν) :
    Prop where
  /-- No node is there twice. -/
  nodup : l.Nodup
  /-- The chain starts at the oldest node. -/
  head : l.head? = some oldest
  /-- It ends at the newest node. -/
  last : l.getLast? = some newest
  /-- Nothing is linked behind the newest node. -/
  next_newest : next newest = none
  /-- Successors are linked, now or later. -/
  linked : ∀ x y, Follows l x y → next x = some y ∨ pending x y
  /-- A link is pending only between successors that are not linked. -/
  pending_follows : ∀ x y, pending x y → Follows l x y ∧ next x = none

namespace Chain

variable {next : ν → Option ν} {pending pending' : ν → ν → Prop} {oldest newest : ν} {l : List ν}

/-- The oldest node of a chain is in it. -/
theorem oldest_mem (h : Chain next pending oldest newest l) : oldest ∈ l :=
  List.mem_of_mem_head? h.head

/-- The newest node of a chain is in it. -/
theorem newest_mem (h : Chain next pending oldest newest l) : newest ∈ l :=
  List.mem_of_getLast? h.last

/-- A chain of a single node. -/
theorem singleton {x : ν} (hx : next x = none) (hp : ∀ u v, ¬ pending u v) :
    Chain next pending x x [x] where
  nodup := List.nodup_singleton x
  head := rfl
  last := rfl
  next_newest := hx
  linked _ _ h := by cases h
  pending_follows u v h := absurd h (hp u v)

/-- The pending links matter only as a relation. -/
theorem congr_pending (h : Chain next pending oldest newest l)
    (hp : ∀ u v, pending' u v ↔ pending u v) : Chain next pending' oldest newest l where
  nodup := h.nodup
  head := h.head
  last := h.last
  next_newest := h.next_newest
  linked x y hxy := (h.linked x y hxy).imp id (hp x y).mpr
  pending_follows x y hxy := h.pending_follows x y ((hp x y).mp hxy)

section Moves

variable [DecidableEq ν]

/-- Writing to a node outside of the chain. -/
theorem store (h : Chain next pending oldest newest l) {z : ν} (hz : z ∉ l) (v : Option ν) :
    Chain (Function.update next z v) pending oldest newest l := by
  have hne : ∀ x ∈ l, Function.update next z v x = next x := fun x hx =>
    Function.update_of_ne (fun heq => hz (by rw [← heq]; exact hx)) _ _
  refine ⟨h.nodup, h.head, h.last, ?_, ?_, ?_⟩
  · rw [hne newest h.newest_mem, h.next_newest]
  · intro x y hxy
    rw [hne x hxy.mem.1]
    exact h.linked x y hxy
  · intro x y hxy
    obtain ⟨hf, hnone⟩ := h.pending_follows x y hxy
    exact ⟨hf, by rw [hne x hf.mem.1, hnone]⟩

/-- Storing a pending link; nobody else is about to store one from the same node. -/
theorem link (h : Chain next pending oldest newest l) {x y : ν} (hxy : pending x y)
    (hp : ∀ u v, pending' u v ↔ pending u v ∧ u ≠ x) :
    Chain (Function.update next x (some y)) pending' oldest newest l := by
  obtain ⟨hf, -⟩ := h.pending_follows x y hxy
  refine ⟨h.nodup, h.head, h.last, ?_, ?_, ?_⟩
  · -- the node that is linked has a successor, so it is not the newest one
    have hne : newest ≠ x := by
      rintro rfl
      exact (follows_iff_not_last h.nodup hf.mem.1).mp ⟨y, hf⟩ h.last
    rw [Function.update_of_ne hne, h.next_newest]
  · intro u v huv
    by_cases hu : u = x
    · subst hu
      rw [huv.right_unique h.nodup hf, Function.update_self]
      exact Or.inl rfl
    · rw [Function.update_of_ne hu, hp]
      exact (h.linked u v huv).imp id fun hpending => ⟨hpending, hu⟩
  · intro u v huv
    obtain ⟨hpending, hu⟩ := (hp u v).mp huv
    rw [Function.update_of_ne hu]
    exact h.pending_follows u v hpending

end Moves

/-- A new node is put behind the newest one; its link is pending. -/
theorem exchange (h : Chain next pending oldest newest l) {z : ν} (hz : z ∉ l)
    (hnext : next z = none) (hp : ∀ u v, pending' u v ↔ pending u v ∨ (u = newest ∧ v = z)) :
    Chain next pending' oldest z (l ++ [z]) where
  nodup := by
    rw [List.nodup_append_comm, List.singleton_append]
    exact List.nodup_cons.mpr ⟨hz, h.nodup⟩
  head := by
    rw [List.head?_append, h.head]
    rfl
  last := List.getLast?_concat
  next_newest := hnext
  linked x y hxy := by
    rw [hp]
    rcases follows_concat.mp hxy with hxy | ⟨hlast, rfl⟩
    · exact (h.linked x y hxy).imp id Or.inl
    · -- the new adjacency is the pending link
      rw [h.last, Option.some.injEq] at hlast
      exact Or.inr (Or.inr ⟨hlast.symm, rfl⟩)
  pending_follows x y hxy := by
    rw [follows_concat]
    rcases (hp x y).mp hxy with hxy | ⟨rfl, rfl⟩
    · exact (h.pending_follows x y hxy).imp Or.inl id
    · exact ⟨Or.inr ⟨h.last, rfl⟩, h.next_newest⟩

/-- The oldest node is left behind over its stored link. -/
theorem advance (h : Chain next pending oldest newest l) {y : ν} (hy : next oldest = some y) :
    ∃ rest, l = oldest :: y :: rest ∧ Chain next pending y newest (y :: rest) := by
  obtain ⟨tail, rfl⟩ : ∃ tail, l = oldest :: tail := List.head?_eq_some_iff.mp h.head
  cases tail with
  | nil =>
      -- the only node is the newest one, which has no link
      have hlast := h.last
      rw [List.getLast?_singleton, Option.some.injEq] at hlast
      rw [hlast, h.next_newest] at hy
      cases hy
  | cons b rest =>
      -- the link of the oldest node is stored, so it is not pending
      have hb : b = y := by
        rcases h.linked oldest b (Or.inl ⟨rfl, rfl⟩) with hlink | hpending
        · rw [hy, Option.some.injEq] at hlink
          exact hlink.symm
        · rw [(h.pending_follows _ _ hpending).2] at hy
          cases hy
      subst hb
      obtain ⟨hnotin, hrest⟩ := List.nodup_cons.mp h.nodup
      refine ⟨rest, rfl, hrest, rfl, ?_, h.next_newest, fun x z hxz => h.linked x z (Or.inr hxz), ?_⟩
      · rw [← List.getLast?_cons_cons, h.last]
      · intro x z hxz
        obtain ⟨hf, hnone⟩ := h.pending_follows x z hxz
        rcases hf with ⟨rfl, rfl⟩ | hf
        · rw [hy] at hnone
          cases hnone
        · exact ⟨hf, hnone⟩

/-- A chain whose two ends are the same node holds nothing else. -/
theorem eq_singleton (h : Chain next pending oldest newest l) (heq : oldest = newest) :
    l = [oldest] := by
  obtain ⟨tail, rfl⟩ : ∃ tail, l = oldest :: tail := List.head?_eq_some_iff.mp h.head
  cases tail with
  | nil => rfl
  | cons b rest =>
      have hlast := h.last
      rw [List.getLast?_cons_cons, ← heq] at hlast
      exact absurd (List.mem_of_getLast? hlast) (List.nodup_cons.mp h.nodup).1

/-- Without pending links, a chain whose oldest node has no link is over. -/
theorem newest_eq_of_quiet (h : Chain next pending oldest newest l) (hquiet : ∀ u v, ¬ pending u v)
    (hnone : next oldest = none) : newest = oldest := by
  by_contra hne
  have hnot : l.getLast? ≠ some oldest := by
    rw [h.last, Ne, Option.some.injEq]
    exact hne
  obtain ⟨y, hy⟩ := (follows_iff_not_last h.nodup h.oldest_mem).mpr hnot
  rcases h.linked oldest y hy with hlink | hpending
  · rw [hnone] at hlink
    cases hlink
  · exact hquiet _ _ hpending

end Chain

end RaptorLite
