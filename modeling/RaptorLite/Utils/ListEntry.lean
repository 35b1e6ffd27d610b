import RaptorLite.Foundations.LinkedCells

/-! # Intrusive lists

The circular doubly linked lists of `utils/list_entry.cc`, over any type of addresses. An access to a cell that
is not allocated, or through a null pointer, has no result. Each function that changes a list has a lemma that
says what it does to a well-formed one and that it touches nothing else. -/

namespace RaptorLite

universe u

variable {α : Type u} [DecidableEq α]

namespace Cells

/-- `RAPTOR_LIST_INIT`. -/
def listInit (m : Cells α) (head : α) : Cells α := m.put head ⟨some head, some head⟩

/-- `raptor_list_push_front`. -/
def listPushFront (m : Cells α) (head newItem : α) : Option (Cells α) :=
  (m.next head).bind fun first =>
    (m.setNext head newItem).bind fun m =>
      (m.setPrev newItem head).bind fun m =>
        (m.setNext newItem first).bind fun m => m.setPrev first newItem

/-- `raptor_list_push_back`. -/
def listPushBack (m : Cells α) (head newItem : α) : Option (Cells α) :=
  (m.prev head).bind fun last =>
    (m.setNext last newItem).bind fun m =>
      (m.setPrev newItem last).bind fun m =>
        (m.setNext newItem head).bind fun m => m.setPrev head newItem

/-- `raptor_list_pop_front`: the entry removed, none from an empty list. -/
def listPopFront (m : Cells α) (head : α) : Option (Option α × Cells α) :=
  (m head).bind fun h =>
    if h.next = some head then some (none, m)
    else
      h.next.bind fun removed =>
        (m.next removed).bind fun second =>
          (m.setNext head second).bind fun m => (m.setPrev second head).map fun m => (some removed, m)

/-- `raptor_list_pop_back`: the entry removed, none from an empty list. -/
def listPopBack (m : Cells α) (head : α) : Option (Option α × Cells α) :=
  (m head).bind fun h =>
    -- `RAPTOR_LIST_IS_EMPTY`
    if h.next = some head then some (none, m)
    else
      h.prev.bind fun removed =>
        (m.prev removed).bind fun second =>
          (m.setNext second head).bind fun m => (m.setPrev head second).map fun m => (some removed, m)

/-- `raptor_list_remove_entry` with what it returns. -/
def listRemoveEntryResult (m : Cells α) (item : α) : Option (Int × Cells α) :=
  (m item).bind fun l =>
    -- the head of an empty list
    if l.next = some item then some (0, m)
    else
      l.prev.bind fun prior =>
        l.next.bind fun next =>
          (m.setNext prior next).bind fun m => (m.setPrev next prior).map fun m => (1, m)

/-- `raptor_list_remove_entry`, for a caller that does not look at what it returns. -/
def listRemoveEntry (m : Cells α) (item : α) : Option (Cells α) := (m.listRemoveEntryResult item).map Prod.snd

end Cells

/-! ### On well-formed lists -/

variable {m : Cells α} {head item : α} {items : List α}

/-- `m'` differs from `m` at most in the links of the given cells. -/
structure SameBut (cells : List α) (m m' : Cells α) : Prop where
  /-- The other cells are the same. -/
  same : ∀ x, x ∉ cells → m' x = m x
  /-- Nothing is allocated or freed. -/
  isSome : ∀ x, (m' x).isSome = (m x).isSome

omit [DecidableEq α] in
/-- An operation that changes no cell but those of a list changes no cell but those of a longer list. -/
theorem SameBut.mono {cells cells' : List α} {m m' : Cells α} (h : SameBut cells m m') (hsub : cells ⊆ cells') :
    SameBut cells' m m' :=
  ⟨fun x hx => h.same x fun hmem => hx (hsub hmem), h.isSome⟩

/-- `ListInit` makes the head an empty ring. -/
theorem ring_listInit (m : Cells α) (head : α) : Ring (m.listInit head) head [] := by
  refine ⟨List.nodup_singleton head, ?_, ?_⟩
  · simp [Leads, Cells.next, Cells.listInit]
  · simp [Leads, Cells.prev, Cells.listInit]

omit [DecidableEq α] in
/-- The cells around a place in a list. -/
theorem getLastD_mem {l r : List α} : l.getLastD head ∈ head :: (l ++ r) := by
  rw [← List.cons_append]
  exact List.mem_append_left _ List.getLastD_mem_cons

omit [DecidableEq α] in
/-- The first entry of a list, or the head, is a cell of the ring. -/
theorem headD_mem {l r : List α} : r.headD head ∈ head :: (l ++ r) := by
  cases r with
  | nil => exact List.mem_cons_self
  | cons x rest => exact List.mem_cons_of_mem _ (List.mem_append_right _ List.mem_cons_self)

/-- Pushing an entry to the front of a well-formed list. -/
theorem Ring.listPushFront (h : Ring m head items) (hitem : item ∉ head :: items) (halloc : (m item).isSome) :
    ∃ m', m.listPushFront head item = some m' ∧ Ring m' head (item :: items) ∧
      SameBut (item :: head :: items) m m' := by
  -- the first entry, or the head of an empty list
  have hfirst : m.next head = some (items.headD head) := h.forward.first
  have hmem : items.headD head ∈ head :: items := headD_mem (l := [])
  obtain ⟨m₁, h₁⟩ := Cells.exists_setNext (h.isSome List.mem_cons_self) item
  obtain ⟨hn₁, hp₁, hs₁, ha₁⟩ := Cells.setNext_some h₁
  obtain ⟨m₂, h₂⟩ := Cells.exists_setPrev (m := m₁) (a := item) (by rw [ha₁]; exact halloc) head
  obtain ⟨hp₂, hn₂, hs₂, ha₂⟩ := Cells.setPrev_some h₂
  obtain ⟨m₃, h₃⟩ := Cells.exists_setNext (m := m₂) (a := item) (by rw [ha₂, ha₁]; exact halloc)
    (items.headD head)
  obtain ⟨hn₃, hp₃, hs₃, ha₃⟩ := Cells.setNext_some h₃
  obtain ⟨m₄, h₄⟩ := Cells.exists_setPrev (m := m₃) (a := items.headD head)
    (by rw [ha₃, ha₂, ha₁]; exact h.isSome hmem) item
  obtain ⟨hp₄, hn₄, hs₄, ha₄⟩ := Cells.setPrev_some h₄
  refine ⟨m₄, ?_, ?_, ?_, fun x => by rw [ha₄, ha₃, ha₂, ha₁]⟩
  · simp only [Cells.listPushFront, hfirst, h₁, h₂, h₃, h₄, Option.bind_some]
  · exact Ring.insert (l := []) h hitem (by rw [hn₄, hn₃, hn₂, hn₁]; rfl) (by rw [hp₄, hp₃, hp₂, hp₁]; rfl)
  · intro x hx
    rw [List.mem_cons, not_or] at hx
    have hxhead : x ≠ head := fun heq => hx.2 (heq ▸ List.mem_cons_self)
    have hxfirst : x ≠ items.headD head := fun heq => hx.2 (heq ▸ hmem)
    rw [hs₄ x hxfirst, hs₃ x hx.1, hs₂ x hx.1, hs₁ x hxhead]

/-- Pushing an entry to the back of a well-formed list. -/
theorem Ring.listPushBack (h : Ring m head items) (hitem : item ∉ head :: items) (halloc : (m item).isSome) :
    ∃ m', m.listPushBack head item = some m' ∧ Ring m' head (items ++ [item]) ∧
      SameBut (item :: head :: items) m m' := by
  -- the last entry, or the head of an empty list
  have hlast : m.prev head = some (items.getLastD head) := h.backward.first_reverse
  have hmem : items.getLastD head ∈ head :: items := List.getLastD_mem_cons
  obtain ⟨m₁, h₁⟩ := Cells.exists_setNext (h.isSome hmem) item
  obtain ⟨hn₁, hp₁, hs₁, ha₁⟩ := Cells.setNext_some h₁
  obtain ⟨m₂, h₂⟩ := Cells.exists_setPrev (m := m₁) (a := item) (by rw [ha₁]; exact halloc) (items.getLastD head)
  obtain ⟨hp₂, hn₂, hs₂, ha₂⟩ := Cells.setPrev_some h₂
  obtain ⟨m₃, h₃⟩ := Cells.exists_setNext (m := m₂) (a := item) (by rw [ha₂, ha₁]; exact halloc) head
  obtain ⟨hn₃, hp₃, hs₃, ha₃⟩ := Cells.setNext_some h₃
  obtain ⟨m₄, h₄⟩ := Cells.exists_setPrev (m := m₃) (a := head)
    (by rw [ha₃, ha₂, ha₁]; exact h.isSome List.mem_cons_self) item
  obtain ⟨hp₄, hn₄, hs₄, ha₄⟩ := Cells.setPrev_some h₄
  have hring : Ring m head (items ++ []) := by rwa [List.append_nil]
  refine ⟨m₄, ?_, ?_, ?_, fun x => by rw [ha₄, ha₃, ha₂, ha₁]⟩
  · simp only [Cells.listPushBack, hlast, h₁, h₂, h₃, h₄, Option.bind_some]
  · exact hring.insert (by rwa [List.append_nil]) (by rw [hn₄, hn₃, hn₂, hn₁]; rfl)
      (by rw [hp₄, hp₃, hp₂, hp₁]; rfl)
  · intro x hx
    rw [List.mem_cons, not_or] at hx
    have hxhead : x ≠ head := fun heq => hx.2 (heq ▸ List.mem_cons_self)
    have hxlast : x ≠ items.getLastD head := fun heq => hx.2 (heq ▸ hmem)
    rw [hs₄ x hxhead, hs₃ x hx.1, hs₂ x hx.1, hs₁ x hxlast]

/-- The two stores that link an entry out, whatever the order in which they are made. -/
theorem Ring.unlink {l r : List α} (h : Ring m head (l ++ item :: r)) :
    (∃ m₁ m', m.setNext (l.getLastD head) (r.headD head) = some m₁ ∧
      m₁.setPrev (r.headD head) (l.getLastD head) = some m' ∧ Ring m' head (l ++ r) ∧
      SameBut (head :: (l ++ r)) m m') := by
  have hsub : ∀ x ∈ head :: (l ++ r), x ∈ head :: (l ++ item :: r) := by
    intro x hx
    exact (((List.sublist_cons_self item r).append_left l).cons_cons head).subset hx
  obtain ⟨m₁, h₁⟩ := Cells.exists_setNext (h.isSome (hsub _ getLastD_mem)) (r.headD head)
  obtain ⟨hn₁, hp₁, hs₁, ha₁⟩ := Cells.setNext_some h₁
  obtain ⟨m₂, h₂⟩ := Cells.exists_setPrev (m := m₁) (a := r.headD head)
    (by rw [ha₁]; exact h.isSome (hsub _ headD_mem)) (l.getLastD head)
  obtain ⟨hp₂, hn₂, hs₂, ha₂⟩ := Cells.setPrev_some h₂
  refine ⟨m₁, m₂, h₁, h₂, h.remove (by rw [hn₂, hn₁]) (by rw [hp₂, hp₁]), ?_, fun x => by rw [ha₂, ha₁]⟩
  intro x hx
  rw [hs₂ x fun heq => hx (heq ▸ headD_mem), hs₁ x fun heq => hx (heq ▸ getLastD_mem)]

omit [DecidableEq α] in
/-- The links of an entry of a list. -/
theorem Ring.links {l r : List α} (h : Ring m head (l ++ item :: r)) :
    ∃ link, m item = some link ∧ link.next = some (r.headD head) ∧ link.prev = some (l.getLastD head) := by
  have hnext : m.next item = some (r.headD head) := (leads_append.mp h.forward).2.first
  have hback := h.backward
  rw [List.reverse_append, List.reverse_cons, List.append_assoc, List.singleton_append] at hback
  have hprev : m.prev item = some (l.getLastD head) := (leads_append.mp hback).2.first_reverse
  obtain ⟨link, hlink, hn⟩ := Option.bind_eq_some_iff.mp hnext
  rw [Cells.prev, hlink] at hprev
  exact ⟨link, hlink, hn, hprev⟩

omit [DecidableEq α] in
/-- The links of the head of a list. -/
theorem Ring.head_links (h : Ring m head items) :
    ∃ link, m head = some link ∧ link.next = some (items.headD head) ∧
      link.prev = some (items.getLastD head) := by
  have hnext := h.forward.first
  have hprev := h.backward.first_reverse
  obtain ⟨link, hlink, hn⟩ := Option.bind_eq_some_iff.mp hnext
  rw [Cells.prev, hlink] at hprev
  exact ⟨link, hlink, hn, hprev⟩

/-- An empty list is left alone. -/
theorem Ring.listPopFront_nil (h : Ring m head []) : m.listPopFront head = some (none, m) := by
  obtain ⟨link, hlink, hnext, -⟩ := h.head_links
  rw [List.headD_nil] at hnext
  rw [Cells.listPopFront, hlink, Option.bind_some, if_pos hnext]

/-- `ListPopBack` on an empty ring returns nothing and changes nothing. -/
theorem Ring.listPopBack_nil (h : Ring m head []) : m.listPopBack head = some (none, m) := by
  obtain ⟨link, hlink, hnext, -⟩ := h.head_links
  rw [List.headD_nil] at hnext
  rw [Cells.listPopBack, hlink, Option.bind_some, if_pos hnext]

/-- Popping the first entry. -/
theorem Ring.listPopFront (h : Ring m head (item :: items)) :
    ∃ m', m.listPopFront head = some (some item, m') ∧ Ring m' head items ∧ SameBut (head :: items) m m' := by
  obtain ⟨link, hlink, hnext, -⟩ := h.head_links
  obtain ⟨link', hlink', hnext', -⟩ := Ring.links (l := []) h
  obtain ⟨m₁, m', h₁, h₂, hring, hsame⟩ := Ring.unlink (l := []) h
  have hne : item ≠ head := by
    rintro rfl
    exact (List.nodup_cons.mp h.nodup).1 List.mem_cons_self
  refine ⟨m', ?_, hring, hsame⟩
  have hsecond : m.next item = some (items.headD head) := by rw [Cells.next, hlink', Option.bind_some, hnext']
  rw [List.headD_cons] at hnext
  rw [List.getLastD_nil] at h₁ h₂
  rw [Cells.listPopFront, hlink, Option.bind_some, hnext, if_neg fun heq => hne (Option.some.inj heq),
    Option.bind_some, hsecond, Option.bind_some, h₁, Option.bind_some, h₂]
  rfl

/-- Popping the last entry. -/
theorem Ring.listPopBack (h : Ring m head (items ++ [item])) :
    ∃ m', m.listPopBack head = some (some item, m') ∧ Ring m' head items ∧ SameBut (head :: items) m m' := by
  obtain ⟨link, hlink, hnext, hprev⟩ := h.head_links
  obtain ⟨link', hlink', -, hprev'⟩ := h.links
  obtain ⟨m₁, m', h₁, h₂, hring, hsame⟩ := h.unlink
  rw [List.append_nil] at hring hsame
  have hfirst : (items ++ [item]).headD head ≠ head := by
    intro heq
    have hhead := (List.nodup_cons.mp h.nodup).1
    cases items with
    | nil => exact hhead (heq ▸ List.mem_cons_self)
    | cons x rest => exact hhead (heq ▸ List.mem_cons_self)
  refine ⟨m', ?_, hring, hsame⟩
  have hsecond : m.prev item = some (items.getLastD head) := by
    rw [Cells.prev, hlink', Option.bind_some, hprev']
  rw [List.getLastD_concat] at hprev
  rw [List.headD_nil] at h₁ h₂
  rw [Cells.listPopBack, hlink, Option.bind_some, hnext, if_neg fun heq => hfirst (Option.some.inj heq), hprev,
    Option.bind_some, hsecond, Option.bind_some, h₁, Option.bind_some, h₂]
  rfl

/-- Removing an entry, wherever it is in the list. -/
theorem Ring.listRemoveEntryResult {l r : List α} (h : Ring m head (l ++ item :: r)) :
    ∃ m', m.listRemoveEntryResult item = some (1, m') ∧ Ring m' head (l ++ r) ∧
      SameBut (head :: (l ++ r)) m m' := by
  obtain ⟨link, hlink, hnext, hprev⟩ := h.links
  obtain ⟨m₁, m', h₁, h₂, hring, hsame⟩ := h.unlink
  have hne : r.headD head ≠ item := by
    intro heq
    have hnodup := h.nodup
    rw [← List.cons_append] at hnodup
    obtain ⟨-, hright, hdisj⟩ := List.nodup_append.mp hnodup
    cases r with
    | nil => exact hdisj _ List.mem_cons_self item List.mem_cons_self heq
    | cons x rest => exact (List.nodup_cons.mp hright).1 (heq ▸ List.mem_cons_self)
  refine ⟨m', ?_, hring, hsame⟩
  rw [Cells.listRemoveEntryResult, hlink, Option.bind_some, hnext, if_neg fun heq => hne (Option.some.inj heq),
    hprev, Option.bind_some, Option.bind_some, h₁, Option.bind_some, h₂]
  rfl

/-- The intrusive list implements a sequence: from a well-formed list every operation has a result, which is the
one of the sequence, and the cells that are neither in the list nor the argument stay as they are. -/
theorem list_entry_sequence (m : Cells α) (head : α) (items : List α) (h : Ring m head items) :
    (∀ y, y ∉ head :: items → (m y).isSome →
      (∃ m', m.listPushFront head y = some m' ∧ Ring m' head (y :: items) ∧ SameBut (y :: head :: items) m m') ∧
      ∃ m', m.listPushBack head y = some m' ∧ Ring m' head (items ++ [y]) ∧ SameBut (y :: head :: items) m m') ∧
    (items = [] → m.listPopFront head = some (none, m) ∧ m.listPopBack head = some (none, m)) ∧
    (∀ x rest, items = x :: rest → ∃ m', m.listPopFront head = some (some x, m') ∧ Ring m' head rest ∧
      SameBut (head :: items) m m') ∧
    (∀ x rest, items = rest ++ [x] → ∃ m', m.listPopBack head = some (some x, m') ∧ Ring m' head rest ∧
      SameBut (head :: items) m m') ∧
    ∀ i x, items[i]? = some x → ∃ m', m.listRemoveEntryResult x = some (1, m') ∧
      Ring m' head (items.eraseIdx i) ∧ SameBut (head :: items) m m' := by
  refine ⟨fun y hy halloc => ⟨h.listPushFront hy halloc, h.listPushBack hy halloc⟩, ?_, ?_, ?_, ?_⟩
  · rintro rfl
    exact ⟨h.listPopFront_nil, h.listPopBack_nil⟩
  · rintro x rest rfl
    obtain ⟨m', hpop, hring, hsame⟩ := h.listPopFront
    refine ⟨m', hpop, hring, hsame.mono ?_⟩
    exact List.cons_subset_cons head (List.subset_cons_self x rest)
  · rintro x rest rfl
    obtain ⟨m', hpop, hring, hsame⟩ := h.listPopBack
    refine ⟨m', hpop, hring, hsame.mono ?_⟩
    exact List.cons_subset_cons head (List.subset_append_left rest [x])
  · intro i x hx
    obtain ⟨hi, rfl⟩ := List.getElem?_eq_some_iff.mp hx
    -- the list split at the entry
    have hsplit : items.take i ++ items[i] :: items.drop (i + 1) = items := by
      rw [← List.drop_eq_getElem_cons hi, List.take_append_drop]
    have hrest : items.eraseIdx i = items.take i ++ items.drop (i + 1) := List.eraseIdx_eq_take_drop_succ items i
    obtain ⟨m', hremove, hring, hsame⟩ := Ring.listRemoveEntryResult (hsplit.symm ▸ h)
    rw [← hrest] at hring hsame
    refine ⟨m', hremove, hring, hsame.mono ?_⟩
    exact List.cons_subset_cons head (List.eraseIdx_sublist items i).subset

/-- A list of the entries `1` and `2` with its head at `0`, and a free entry `3`. -/
def twoEntries : Cells Nat
  | 0 => some ⟨some 2, some 1⟩
  | 1 => some ⟨some 0, some 2⟩
  | 2 => some ⟨some 1, some 0⟩
  | 3 => some ⟨none, none⟩
  | _ => none

/-- The operations on the ring of two entries: a push in front, a pop from the back, and a removal. -/
theorem twoEntries_sequence :
    Ring twoEntries 0 [1, 2] ∧
    (∃ m', twoEntries.listPushFront 0 3 = some m' ∧ Ring m' 0 [3, 1, 2]) ∧
    (∃ m', twoEntries.listPopBack 0 = some (some 2, m') ∧ Ring m' 0 [1]) ∧
    ∃ m', twoEntries.listRemoveEntryResult 1 = some (1, m') ∧ Ring m' 0 [2] := by
  have hring : Ring twoEntries 0 [1, 2] := ⟨by decide, ⟨rfl, rfl, rfl⟩, ⟨rfl, rfl, rfl⟩⟩
  obtain ⟨hpush, -, -, hpop, hremove⟩ := list_entry_sequence twoEntries 0 [1, 2] hring
  obtain ⟨⟨m₁, hpush, hring₁, -⟩, -⟩ := hpush 3 (by decide) rfl
  obtain ⟨m₂, hpop, hring₂, -⟩ := hpop 2 [1] rfl
  obtain ⟨m₃, hremove, hring₃, -⟩ := hremove 0 1 rfl
  exact ⟨hring, ⟨m₁, hpush, hring₁⟩, ⟨m₂, hpop, hring₂⟩, m₃, hremove, hring₃⟩

/-- Removing the entry that was pushed last. -/
theorem Ring.listRemoveEntry (h : Ring m head (items ++ [item])) :
    ∃ m', m.listRemoveEntry item = some m' ∧ Ring m' head items ∧
      SameBut (head :: items) m m' := by
  obtain ⟨m', hremove, hring, hsame⟩ := h.listRemoveEntryResult
  rw [List.append_nil] at hring hsame
  exact ⟨m', by rw [Cells.listRemoveEntry, hremove]; rfl, hring, hsame⟩

/-- Popping from a list that does not look empty, whether it is well formed or not: what the head points back to
is removed. -/
theorem Cells.listPopBack_some {removed : α} {r : Option α × Cells α} (hnext : m.next head ≠ some head)
    (hprev : m.prev head = some removed) (h : m.listPopBack head = some r) :
    ∃ second m', r = (some removed, m') ∧ m.prev removed = some second ∧
      m'.prev = Function.update m.prev head (some second) ∧
      m'.next = Function.update m.next second (some head) := by
  obtain ⟨l, hl, h⟩ := Option.bind_eq_some_iff.mp h
  rw [Cells.next, hl, Option.bind_some] at hnext
  rw [Cells.prev, hl, Option.bind_some] at hprev
  rw [if_neg hnext, hprev, Option.bind_some] at h
  obtain ⟨second, hsecond, h⟩ := Option.bind_eq_some_iff.mp h
  obtain ⟨m₁, h₁, h⟩ := Option.bind_eq_some_iff.mp h
  obtain ⟨m₂, h₂, rfl⟩ := Option.map_eq_some_iff.mp h
  obtain ⟨hn₁, hp₁, -⟩ := Cells.setNext_some h₁
  obtain ⟨hp₂, hn₂, -⟩ := Cells.setPrev_some h₂
  exact ⟨second, m₂, rfl, hsecond, by rw [hp₂, hp₁], by rw [hn₂, hn₁]⟩

end RaptorLite
