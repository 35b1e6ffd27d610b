import Mathlib.Data.List.Nodup
import Mathlib.Logic.Function.Basic

/-! # Cells with two links

Memory in which every allocated cell has a link back and a link forward, either of which may be null. A list is
laid out in it as a *ring* if following the forward links from its head gives its cells and then the head again,
and following the links back gives the cells in reverse. A *strand* is the same with another cell in place of
the head at its two ends: this is what a ring becomes when the head is copied elsewhere. The rules are those of
a list that grows and shrinks at its end and of memory that changes outside of it. -/

namespace RaptorLite

universe u

variable {α : Type u}

/-! ### Following links -/

/-- From `a`, the function leads through the list to `z`. -/
def Leads (f : α → Option α) : α → List α → α → Prop
  | a, [], z => f a = some z
  | a, x :: rest, z => f a = some x ∧ Leads f x rest z

/-- The way through two lists. -/
theorem leads_append {f : α → Option α} {a x z : α} {l r : List α} :
    Leads f a (l ++ x :: r) z ↔ Leads f a l x ∧ Leads f x r z := by
  induction l generalizing a with
  | nil => exact Iff.rfl
  | cons y rest ih =>
      rw [List.cons_append, Leads, Leads, ih, and_assoc]

/-- The last stretch on its own. -/
theorem leads_snoc {f : α → Option α} {a x z : α} {l : List α} :
    Leads f a (l ++ [x]) z ↔ Leads f a l x ∧ f x = some z :=
  leads_append

/-- Only the links on the way count, and the start only through its own. -/
theorem Leads.move {f g : α → Option α} {a b z : α} {l : List α} (h : Leads f a l z) (hstart : g b = f a)
    (hfg : ∀ x ∈ l, g x = f x) : Leads g b l z := by
  induction l generalizing a b with
  | nil => exact hstart.trans h
  | cons x rest ih =>
      refine ⟨hstart.trans h.1, ih h.2 (hfg x List.mem_cons_self) ?_⟩
      exact fun y hy => hfg y (List.mem_cons_of_mem _ hy)

/-- The last link on the way aimed at something else. -/
theorem Leads.retarget {f g : α → Option α} {a z z' : α} {l : List α} (h : Leads f a l z)
    (hnodup : (a :: l).Nodup) (hlast : g (l.getLastD a) = some z')
    (hfg : ∀ x ∈ a :: l, x ≠ l.getLastD a → g x = f x) : Leads g a l z' := by
  induction l generalizing a with
  | nil => exact hlast
  | cons x rest ih =>
      rw [List.getLastD_cons] at hlast hfg
      obtain ⟨ha, hrest⟩ := List.nodup_cons.mp hnodup
      refine ⟨?_, ih h.2 hrest hlast fun y hy => hfg y (List.mem_cons_of_mem _ hy)⟩
      rw [hfg a List.mem_cons_self]
      · exact h.1
      · rintro rfl
        exact ha List.getLastD_mem_cons

/-- Something put on the way: the link to it and its own are new. -/
theorem Leads.insert {f g : α → Option α} {a y z : α} {l r : List α} (h : Leads f a (l ++ r) z)
    (hnodup : (a :: (l ++ r)).Nodup) (hlast : g (l.getLastD a) = some y) (hy : g y = some (r.headD z))
    (hfg : ∀ x ∈ a :: (l ++ r), x ≠ l.getLastD a → g x = f x) : Leads g a (l ++ y :: r) z := by
  rw [← List.cons_append] at hnodup hfg
  obtain ⟨hl, -, hdisj⟩ := List.nodup_append.mp hnodup
  have hleft : ∀ x ∈ a :: l, x ≠ l.getLastD a → g x = f x := fun x hx => hfg x (List.mem_append_left _ hx)
  rw [leads_append]
  cases r with
  | nil =>
      rw [List.append_nil] at h
      exact ⟨h.retarget hl hlast hleft, hy⟩
  | cons x rest =>
      obtain ⟨hfirst, hrest⟩ := leads_append.mp h
      -- what comes behind is not touched
      have hright : ∀ u ∈ x :: rest, g u = f u := fun u hu =>
        hfg u (List.mem_append_right _ hu) fun heq => hdisj _ List.getLastD_mem_cons u hu heq.symm
      refine ⟨hfirst.retarget hl hlast hleft, hy, hrest.move (hright x List.mem_cons_self) ?_⟩
      exact fun u hu => hright u (List.mem_cons_of_mem _ hu)

/-- Something taken off the way: the link that led to it is new. -/
theorem Leads.remove {f g : α → Option α} {a y z : α} {l r : List α} (h : Leads f a (l ++ y :: r) z)
    (hnodup : (a :: (l ++ y :: r)).Nodup) (hlast : g (l.getLastD a) = some (r.headD z))
    (hfg : ∀ x ∈ a :: (l ++ r), x ≠ l.getLastD a → g x = f x) : Leads g a (l ++ r) z := by
  rw [← List.cons_append] at hnodup hfg
  obtain ⟨hl, -, hdisj⟩ := List.nodup_append.mp hnodup
  have hleft : ∀ x ∈ a :: l, x ≠ l.getLastD a → g x = f x := fun x hx => hfg x (List.mem_append_left _ hx)
  obtain ⟨hfirst, hrest⟩ := leads_append.mp h
  cases r with
  | nil =>
      rw [List.append_nil]
      exact hfirst.retarget hl hlast hleft
  | cons x rest =>
      have hright : ∀ u ∈ x :: rest, g u = f u := fun u hu =>
        hfg u (List.mem_append_right _ hu) fun heq =>
          hdisj _ List.getLastD_mem_cons u (List.mem_cons_of_mem _ hu) heq.symm
      refine leads_append.mpr ⟨hfirst.retarget hl hlast hleft, hrest.2.move (hright x List.mem_cons_self) ?_⟩
      exact fun u hu => hright u (List.mem_cons_of_mem _ hu)

/-- The way through a list starts at its first element. -/
theorem Leads.first {f : α → Option α} {a z : α} {l : List α} (h : Leads f a l z) : f a = some (l.headD z) := by
  cases l with
  | nil => exact h
  | cons x rest => exact h.1

/-- The way through a list in reverse starts at its last element. -/
theorem Leads.first_reverse {f : α → Option α} {a z : α} {l : List α} (h : Leads f a l.reverse z) :
    f a = some (l.getLastD z) := by
  rcases l.eq_nil_or_concat' with rfl | ⟨l, x, rfl⟩
  · exact h
  · rw [List.reverse_append] at h
    rw [List.getLastD_concat]
    exact h.1

/-- Every cell on the way has a link. -/
theorem Leads.isSome {f : α → Option α} {a z x : α} {l : List α} (h : Leads f a l z) (hx : x ∈ a :: l) :
    (f x).isSome := by
  induction l generalizing a with
  | nil =>
      rw [List.mem_singleton.mp hx, show f a = some z from h]
      rfl
  | cons y rest ih =>
      rcases List.mem_cons.mp hx with rfl | hx
      · rw [h.1]
        rfl
      · exact ih h.2 hx

/-! ### Cells -/

/-- The two links of a cell. -/
structure Link (α : Type u) where
  /-- The link back. -/
  prev : Option α
  /-- The link forward. -/
  next : Option α

/-- Memory: a cell that is not allocated has no links. -/
abbrev Cells (α : Type u) := α → Option (Link α)

namespace Cells

variable {m m' : Cells α}

/-- Follow the link back. -/
def prev (m : Cells α) (a : α) : Option α := (m a).bind Link.prev

/-- Follow the link forward. -/
def next (m : Cells α) (a : α) : Option α := (m a).bind Link.next

variable [DecidableEq α]

/-- Give a cell these links, allocating it if need be. -/
def put (m : Cells α) (a : α) (l : Link α) : Cells α := Function.update m a (some l)

/-- A new cell, with null links. -/
def alloc (m : Cells α) (a : α) : Cells α := m.put a ⟨none, none⟩

/-- Give a cell back. -/
def free (m : Cells α) (a : α) : Cells α := Function.update m a none

/-- The cell written to reads back what was written. -/
@[simp] theorem put_self (m : Cells α) (a : α) (l : Link α) : m.put a l a = some l := Function.update_self _ _ _

/-- Writing a cell leaves the other cells. -/
theorem put_of_ne (m : Cells α) {a x : α} (h : x ≠ a) (l : Link α) : m.put a l x = m x :=
  Function.update_of_ne h _ _

/-- The `prev` links behind a write are those before it, updated at the cell written. -/
theorem prev_put (m : Cells α) (a : α) (l : Link α) : (m.put a l).prev = Function.update m.prev a l.prev := by
  funext x
  by_cases hx : x = a
  · subst hx
    simp [prev]
  · simp [prev, hx, put_of_ne]

/-- The `next` links behind a write are those before it, updated at the cell written. -/
theorem next_put (m : Cells α) (a : α) (l : Link α) : (m.put a l).next = Function.update m.next a l.next := by
  funext x
  by_cases hx : x = a
  · subst hx
    simp [next]
  · simp [next, hx, put_of_ne]

/-- Other links in an allocated cell: nothing is allocated. -/
theorem isSome_put {a : α} (h : (m a).isSome) (l : Link α) (x : α) : (m.put a l x).isSome = (m x).isSome := by
  by_cases hx : x = a
  · subst hx
    simp [h]
  · rw [put_of_ne m hx]

/-- Allocating a cell leaves the other cells. -/
theorem alloc_of_ne (m : Cells α) {a x : α} (h : x ≠ a) : m.alloc a x = m x := m.put_of_ne h _

/-- Freeing a cell leaves the other cells. -/
theorem free_of_ne (m : Cells α) {a x : α} (h : x ≠ a) : m.free a x = m x := Function.update_of_ne h _ _

/-- Store a link back. -/
def setPrev (m : Cells α) (a v : α) : Option (Cells α) :=
  (m a).map fun l => m.put a { l with prev := some v }

/-- Store a link forward. -/
def setNext (m : Cells α) (a v : α) : Option (Cells α) :=
  (m a).map fun l => m.put a { l with next := some v }

/-- Storing a link back, seen through the links. -/
theorem setPrev_some {a v : α} (h : m.setPrev a v = some m') :
    m'.prev = Function.update m.prev a (some v) ∧ m'.next = m.next ∧ (∀ x, x ≠ a → m' x = m x) ∧
      ∀ x, (m' x).isSome = (m x).isSome := by
  obtain ⟨l, hl, rfl⟩ := Option.map_eq_some_iff.mp h
  refine ⟨prev_put m a _, ?_, fun x hx => m.put_of_ne hx _, isSome_put (by rw [hl]; rfl) _⟩
  -- the link forward is put back
  rw [next_put]
  apply Function.update_eq_self_iff.mpr
  rw [next, hl, Option.bind_some]

/-- Storing a link forward, seen through the links. -/
theorem setNext_some {a v : α} (h : m.setNext a v = some m') :
    m'.next = Function.update m.next a (some v) ∧ m'.prev = m.prev ∧ (∀ x, x ≠ a → m' x = m x) ∧
      ∀ x, (m' x).isSome = (m x).isSome := by
  obtain ⟨l, hl, rfl⟩ := Option.map_eq_some_iff.mp h
  refine ⟨next_put m a _, ?_, fun x hx => m.put_of_ne hx _, isSome_put (by rw [hl]; rfl) _⟩
  rw [prev_put]
  apply Function.update_eq_self_iff.mpr
  rw [prev, hl, Option.bind_some]

omit [DecidableEq α] in
/-- A cell with a link is allocated. -/
theorem isSome_of_prev {a : α} (h : (m.prev a).isSome) : (m a).isSome := by
  obtain ⟨x, hx⟩ := Option.isSome_iff_exists.mp h
  obtain ⟨l, hl, -⟩ := Option.bind_eq_some_iff.mp hx
  rw [hl]
  rfl

/-- Setting `prev` succeeds at an allocated cell. -/
theorem exists_setPrev {a : α} (h : (m a).isSome) (v : α) : ∃ m', m.setPrev a v = some m' := by
  obtain ⟨l, hl⟩ := Option.isSome_iff_exists.mp h
  exact ⟨_, by rw [setPrev, hl]; rfl⟩

/-- Setting `next` succeeds at an allocated cell. -/
theorem exists_setNext {a : α} (h : (m a).isSome) (v : α) : ∃ m', m.setNext a v = some m' := by
  obtain ⟨l, hl⟩ := Option.isSome_iff_exists.mp h
  exact ⟨_, by rw [setNext, hl]; rfl⟩

end Cells

/-! ### Strands and rings -/

/-- The links of `head` and of the items make up a list whose two ends point to `base`. -/
structure Strand (m : Cells α) (head : α) (items : List α) (base : α) : Prop where
  /-- The cells are different. -/
  nodup : (head :: items).Nodup
  /-- The links forward. -/
  forward : Leads m.next head items base
  /-- The links back. -/
  backward : Leads m.prev head items.reverse base

/-- A well-formed circular doubly linked list. -/
def Ring (m : Cells α) (head : α) (items : List α) : Prop := Strand m head items head

namespace Strand

variable {m m' : Cells α} {head base : α} {items : List α}

/-- The cells of a strand are allocated. -/
theorem isSome (h : Strand m head items base) {x : α} (hx : x ∈ head :: items) : (m x).isSome :=
  Cells.isSome_of_prev (h.backward.isSome (by simpa using hx))

/-- The two ends of a strand say which cell they point to, so that a strand is a ring only around its own
head. -/
theorem ring_iff (h : Strand m head items base) : Ring m head items ↔ base = head := by
  constructor
  · intro hring
    -- the last link forward belongs to the same cell in both
    rcases items.eq_nil_or_concat' with rfl | ⟨l, x, rfl⟩
    · exact Option.some.inj (h.forward.symm.trans hring.forward)
    · have hlast := (leads_snoc.mp h.forward).2
      have hlast' := (leads_snoc.mp hring.forward).2
      exact Option.some.inj (hlast.symm.trans hlast')
  · rintro rfl
    exact h

/-- The head of a strand copied to a cell outside, in memory that has the same items. -/
theorem copy (h : Strand m head items base) {head' : α} (hnew : head' ∉ items) (hcopy : m' head' = m head)
    (hm : ∀ x ∈ items, m' x = m x) : Strand m' head' items base := by
  refine ⟨List.nodup_cons.mpr ⟨hnew, (List.nodup_cons.mp h.nodup).2⟩, ?_, ?_⟩
  · apply h.forward.move
    · rw [Cells.next, hcopy, Cells.next]
    · intro x hx
      rw [Cells.next, hm x hx, Cells.next]
  · apply h.backward.move
    · rw [Cells.prev, hcopy, Cells.prev]
    · intro x hx
      rw [Cells.prev, hm x (List.mem_reverse.mp hx), Cells.prev]

/-- Only the cells of the strand count. -/
theorem congr (h : Strand m head items base) (hm : ∀ x ∈ head :: items, m' x = m x) :
    Strand m' head items base :=
  h.copy (List.nodup_cons.mp h.nodup).1 (hm head List.mem_cons_self)
    fun x hx => hm x (List.mem_cons_of_mem _ hx)

end Strand

section Ring

variable {m m' : Cells α} {head item : α} {l r : List α}

/-- The first element of the reversed list is the last one, with the same default. -/
theorem headD_reverse (l : List α) (a : α) : l.reverse.headD a = l.getLastD a := by
  rw [List.headD_eq_head?_getD, List.head?_reverse, List.getLastD_eq_getLast?]

/-- The last element of the reversed list is the first one, with the same default. -/
theorem getLastD_reverse (l : List α) (a : α) : l.reverse.getLastD a = l.headD a := by
  rw [← headD_reverse, List.reverse_reverse]

variable [DecidableEq α]

/-- **The rule of insertion.** A ring between whose cells another is linked in, at any place. -/
theorem Ring.insert (h : Ring m head (l ++ r)) (hitem : item ∉ head :: (l ++ r))
    (hnext : m'.next = Function.update (Function.update m.next (l.getLastD head) (some item)) item
      (some (r.headD head)))
    (hprev : m'.prev = Function.update (Function.update m.prev item (some (l.getLastD head))) (r.headD head)
      (some item)) : Ring m' head (l ++ item :: r) := by
  have hne : ∀ x ∈ head :: (l ++ r), x ≠ item := fun x hx heq => hitem (heq ▸ hx)
  have hlast : l.getLastD head ∈ head :: (l ++ r) := by
    rw [← List.cons_append]
    exact List.mem_append_left _ List.getLastD_mem_cons
  have hrev : (head :: (r.reverse ++ l.reverse)).Nodup := by
    have hperm : (head :: (l ++ r)).Perm (head :: (r.reverse ++ l.reverse)) := by
      rw [← List.reverse_append]
      exact (List.reverse_perm _).symm.cons _
    exact hperm.nodup_iff.mp h.nodup
  have hmem : ∀ x, x ∈ head :: (r.reverse ++ l.reverse) → x ∈ head :: (l ++ r) := by
    intro x hx
    simpa [or_comm] using hx
  refine ⟨?_, ?_, ?_⟩
  · have hperm : (item :: head :: (l ++ r)).Perm (head :: (l ++ item :: r)) :=
      (List.Perm.swap _ _ _).trans (List.perm_middle.symm.cons _)
    exact hperm.nodup_iff.mp (List.nodup_cons.mpr ⟨hitem, h.nodup⟩)
  · refine h.forward.insert h.nodup ?_ ?_ ?_
    · rw [hnext, Function.update_of_ne (hne _ hlast), Function.update_self]
    · rw [hnext, Function.update_self]
    · intro x hx hxlast
      rw [hnext, Function.update_of_ne (hne x hx), Function.update_of_ne hxlast]
  · have hback := h.backward
    rw [List.reverse_append] at hback
    rw [List.reverse_append, List.reverse_cons, List.append_assoc, List.singleton_append]
    have hfirst : r.headD head ≠ item := by
      rw [← getLastD_reverse]
      exact hne _ (hmem _ (by rw [← List.cons_append]; exact List.mem_append_left _ List.getLastD_mem_cons))
    refine hback.insert hrev ?_ ?_ ?_
    · rw [hprev, getLastD_reverse, Function.update_self]
    · rw [hprev, headD_reverse, Function.update_of_ne hfirst.symm, Function.update_self]
    · intro x hx hxlast
      rw [getLastD_reverse] at hxlast
      rw [hprev, Function.update_of_ne hxlast, Function.update_of_ne (hne x (hmem x hx))]

/-- **The rule of removal.** A ring one of whose cells is linked out. -/
theorem Ring.remove (h : Ring m head (l ++ item :: r))
    (hnext : m'.next = Function.update m.next (l.getLastD head) (some (r.headD head)))
    (hprev : m'.prev = Function.update m.prev (r.headD head) (some (l.getLastD head))) :
    Ring m' head (l ++ r) := by
  have hsub : (head :: (l ++ r)).Sublist (head :: (l ++ item :: r)) :=
    ((List.sublist_cons_self item r).append_left l).cons_cons head
  have hrev : (head :: (r.reverse ++ item :: l.reverse)).Nodup := by
    have hperm : (head :: (l ++ item :: r)).Perm (head :: (r.reverse ++ item :: l.reverse)) := by
      have hreverse : (l ++ item :: r).reverse = r.reverse ++ item :: l.reverse := by simp
      rw [← hreverse]
      exact (List.reverse_perm _).symm.cons _
    exact hperm.nodup_iff.mp h.nodup
  refine ⟨hsub.nodup h.nodup, ?_, ?_⟩
  · refine h.forward.remove h.nodup ?_ ?_
    · rw [hnext, Function.update_self]
    · intro x _ hxlast
      rw [hnext, Function.update_of_ne hxlast]
  · have hback := h.backward
    rw [List.reverse_append, List.reverse_cons, List.append_assoc, List.singleton_append] at hback
    rw [List.reverse_append]
    refine hback.remove hrev ?_ ?_
    · rw [hprev, getLastD_reverse, headD_reverse, Function.update_self]
    · intro x _ hxlast
      rw [getLastD_reverse] at hxlast
      rw [hprev, Function.update_of_ne hxlast]

end Ring

end RaptorLite
