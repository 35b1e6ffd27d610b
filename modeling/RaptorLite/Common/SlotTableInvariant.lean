import RaptorLite.Common.SlotTable

/-! # The slot-table invariant

`SlotTable.Inv` ties the three structures of the table together: the free list holds every empty slot
once, every timeout record belongs to a used slot whose iterator designates it, and every used slot has
such a record. Here is the invariant, with `Init`, `AttachEndpointImpl`, `DeleteConnection`, `RefreshTime` and
one round of the sweep of `OnTimeoutCheck`: each has a lemma that says what it does to a table with the
invariant (it does not fault, what the new table is, and that the invariant is kept). -/

namespace RaptorLite

variable {κ : Type}

namespace SlotTable

/-- The slots, the free list and the timeout records agree. -/
structure Inv (t : SlotTable κ) : Prop where
  /-- No index is free twice. -/
  free_nodup : t.freeIndexList.Nodup
  /-- The free indices are those of the empty slots. -/
  mem_free : ∀ i, i ∈ t.freeIndexList ↔ ∃ it, t.mgr[i]? = some (none, it)
  /-- A record belongs to a used slot, which designates it. -/
  record_slot : ∀ e ∈ t.timeoutRecords.entries, ∃ c, t.mgr[e.val]? = some (some c, .node e.id)
  /-- A used slot designates a record of its own. -/
  slot_record : ∀ i c it, t.mgr[i]? = some (some c, it) →
    ∃ e ∈ t.timeoutRecords.entries, e.val = i ∧ it = .node e.id

/-- The table that `Shutdown` leaves is in order. -/
theorem inv_cleared : (⟨[], .empty, []⟩ : SlotTable κ).Inv :=
  ⟨List.nodup_nil, by simp, by simp, by simp⟩

/-! ### Reading slots -/

/-- The connection of a slot is what is stored there. -/
theorem connection_eq_some_iff {t : SlotTable κ} {i : Nat} {c : κ} :
    t.connection i = some c ↔ ∃ it, t.mgr[i]? = some (some c, it) := by
  rw [connection, Option.bind_eq_some_iff]
  constructor
  · rintro ⟨⟨con, it⟩, hslot, rfl⟩
    exact ⟨it, hslot⟩
  · rintro ⟨it, hslot⟩
    exact ⟨_, hslot, rfl⟩

/-- A slot is used exactly when a connection is stored there. -/
theorem live_iff {t : SlotTable κ} {i : Nat} :
    t.Live i ↔ ∃ c it, t.mgr[i]? = some (some c, it) := by
  rw [Live, Option.ne_none_iff_exists']
  simp only [connection_eq_some_iff]

/-- Setting an existing slot changes the connection there and nowhere else. -/
theorem getElem?_set_slot {mgr : List (Option κ × MapIter)} {i j : Nat} (hi : i < mgr.length)
    (v : Option κ × MapIter) : (mgr.set i v)[j]? = if j = i then some v else mgr[j]? := by
  rw [List.getElem?_set]
  by_cases hj : i = j
  · subst hj
    simp [hi]
  · simp [hj, Ne.symm hj]

/-- The record a used slot designates is its own. -/
theorem Inv.record_of_slot {t : SlotTable κ} (h : t.Inv) {i : Nat} {c : κ} {it : MapIter}
    (hslot : t.mgr[i]? = some (some c, it)) {e : MapEntry Int Nat}
    (he : e ∈ t.timeoutRecords.entries) : e.val = i ↔ it = .node e.id := by
  constructor
  · rintro rfl
    obtain ⟨c', hslot'⟩ := h.record_slot e he
    rw [hslot] at hslot'
    simp only [Option.some.injEq, Prod.mk.injEq] at hslot'
    exact hslot'.2
  · intro hit
    obtain ⟨f, hf, hval, hit'⟩ := h.slot_record i c it hslot
    rw [hit, MapIter.node.injEq] at hit'
    rw [OrderedMultimap.eq_of_id_eq he hf hit', hval]

/-- A used slot has exactly one record. -/
theorem Inv.existsUnique_record {t : SlotTable κ} (h : t.Inv) {i : Nat} (hlive : t.Live i) :
    ∃! e, e ∈ t.timeoutRecords.entries ∧ e.val = i := by
  obtain ⟨c, it, hslot⟩ := live_iff.mp hlive
  obtain ⟨e, he, hval, hit⟩ := h.slot_record i c it hslot
  refine ⟨e, ⟨he, hval⟩, ?_⟩
  rintro f ⟨hf, hfval⟩
  have hid := (h.record_of_slot hslot hf).mp hfval
  rw [hit, MapIter.node.injEq] at hid
  exact OrderedMultimap.eq_of_id_eq hf he hid.symm

/-! ### `Init` -/

/-- The table behind `Init` has the invariant. -/
theorem inv_init {opt : ContainerOption} (hd : opt.defaultContainerSize ≤ 2 ^ 32) :
    (init opt : SlotTable κ).Inv := by
  -- the casts in the loop of `Init` change nothing
  have hfree : (init opt : SlotTable κ).freeIndexList = List.range opt.defaultContainerSize := by
    simp only [init]
    conv_rhs => rw [← List.map_id (List.range opt.defaultContainerSize)]
    apply List.map_congr_left
    intro i hi
    exact Nat.mod_eq_of_lt (Nat.lt_of_lt_of_le (List.mem_range.mp hi) hd)
  have hslot : ∀ i, (init opt : SlotTable κ).mgr[i]?
      = if i < opt.defaultContainerSize then some (none, .singular) else none := by
    intro i
    simp only [init, List.getElem?_replicate]
  refine ⟨?_, ?_, ?_, ?_⟩
  · rw [hfree]
    exact List.nodup_range
  · intro i
    rw [hfree, List.mem_range, hslot]
    by_cases hi : i < opt.defaultContainerSize <;> simp [hi]
  · intro e he
    simp [init] at he
  · intro i c it h
    rw [hslot] at h
    split at h <;> simp at h

/-! ### `AttachEndpointImpl` -/

/-- The table does not grow beyond the limit. -/
theorem expandSize_le (opt : ContainerOption) (count : Nat) :
    expandSize opt count ≤ opt.maxContainerSize := by
  unfold expandSize
  split <;> omega

/-- A table without slots is not enlarged. -/
theorem expandSize_zero (opt : ContainerOption) : expandSize opt 0 = 0 := by
  unfold expandSize
  split <;> omega

/-- The limit is a `uint32_t` value, and so are the indices of the table. -/
theorem expandSize_fits {opt : ContainerOption} (hm : opt.maxContainerSize < 2 ^ 32) (count : Nat) :
    expandSize opt count ≤ 2 ^ 32 :=
  Nat.le_of_lt (Nat.lt_of_le_of_lt (expandSize_le opt count) hm)

/-- The table does not shrink when it grows. -/
theorem le_expandSize {opt : ContainerOption} {count : Nat} (h : count < opt.maxContainerSize) :
    count ≤ expandSize opt count := by
  unfold expandSize
  split <;> omega

/-- The slots after growth: the old ones, and empty ones behind them. -/
theorem getElem?_expand {opt : ContainerOption} {t : SlotTable κ}
    (h : t.mgr.length < opt.maxContainerSize) (i : Nat) :
    (t.expand opt).mgr[i]? =
      if i < t.mgr.length then t.mgr[i]?
      else if i < expandSize opt t.mgr.length then some (none, .pastEnd) else none := by
  have hle := le_expandSize h
  have htake : t.mgr.take (expandSize opt t.mgr.length) = t.mgr := List.take_of_length_le hle
  simp only [expand, htake, List.getElem?_append, List.getElem?_replicate]
  split
  · rfl
  · split <;> split <;> first | rfl | omega

/-- The size of a table that has grown. -/
theorem length_expand {opt : ContainerOption} {t : SlotTable κ}
    (h : t.mgr.length < opt.maxContainerSize) :
    (t.expand opt).mgr.length = expandSize opt t.mgr.length := by
  have hle := le_expandSize h
  simp only [expand, List.length_append, List.length_take, List.length_replicate]
  omega

/-- Growth leaves every connection where it is. -/
theorem connection_expand {opt : ContainerOption} {t : SlotTable κ}
    (h : t.mgr.length < opt.maxContainerSize) (i : Nat) :
    (t.expand opt).connection i = t.connection i := by
  rw [connection, connection, getElem?_expand h]
  split
  · rfl
  · next hi =>
    rw [List.getElem?_eq_none (by omega)]
    split <;> rfl

/-- Growth to a table whose indices are `uint32_t` values keeps the invariant. -/
theorem Inv.expand {opt : ContainerOption} {t : SlotTable κ} (hinv : t.Inv)
    (hfit : expandSize opt t.mgr.length ≤ 2 ^ 32) (hfree : t.freeIndexList = [])
    (h : t.mgr.length < opt.maxContainerSize) : (t.expand opt).Inv := by
  have hle := le_expandSize h
  -- an empty free list gets exactly the indices of the new slots
  have hnew : (t.expand opt).freeIndexList
      = List.range' t.mgr.length (expandSize opt t.mgr.length - t.mgr.length) := by
    simp only [SlotTable.expand, hfree, List.nil_append]
    conv_rhs => rw [← List.map_id (List.range' _ _)]
    apply List.map_congr_left
    intro i hi
    rw [List.mem_range'_1] at hi
    exact Nat.mod_eq_of_lt (by omega)
  refine ⟨?_, ?_, ?_, ?_⟩
  · rw [hnew]
    exact List.nodup_range'
  · intro i
    rw [hnew, List.mem_range'_1, getElem?_expand h]
    have hold := hinv.mem_free i
    rw [hfree] at hold
    by_cases hi : i < t.mgr.length
    · -- an old slot: none of them is free
      simp only [hi, if_true]
      rw [← hold]
      simp only [List.not_mem_nil, iff_false]
      omega
    · have hsize := le_expandSize h
      by_cases hi' : i < expandSize opt t.mgr.length
      · simp only [hi, hi', if_true, if_false, Option.some.injEq, Prod.mk.injEq, true_and,
          exists_eq', iff_true]
        omega
      · simp only [hi, hi', if_false, reduceCtorEq, exists_false, iff_false]
        omega
  · intro e he
    obtain ⟨c, hslot⟩ := hinv.record_slot e he
    refine ⟨c, ?_⟩
    rw [getElem?_expand h, if_pos (List.getElem?_eq_some_iff.mp hslot).1]
    exact hslot
  · intro i c it hslot
    rw [getElem?_expand h] at hslot
    split at hslot
    · exact hinv.slot_record i c it hslot
    · split at hslot <;> simp at hslot

/-- Putting a connection with a new record into the first free slot keeps the invariant. -/
theorem Inv.occupy {t : SlotTable κ} (hinv : t.Inv) {index : Nat} {rest : List Nat}
    (hfree : t.freeIndexList = index :: rest) (con : κ) (deadline : Int) :
    index < t.mgr.length ∧
      ({ mgr := t.mgr.set index (some con, t.timeoutRecords.insertIter)
         timeoutRecords := t.timeoutRecords.insert deadline index
         freeIndexList := rest } : SlotTable κ).Inv := by
  obtain ⟨it₀, hempty⟩ := (hinv.mem_free index).mp (by rw [hfree]; exact List.mem_cons_self)
  have hlt : index < t.mgr.length := (List.getElem?_eq_some_iff.mp hempty).1
  have hnodup := hinv.free_nodup
  rw [hfree, List.nodup_cons] at hnodup
  refine ⟨hlt, hnodup.2, ?_, ?_, ?_⟩
  · intro i
    have hold := hinv.mem_free i
    rw [hfree, List.mem_cons] at hold
    rw [getElem?_set_slot hlt]
    by_cases hi : i = index
    · subst hi
      simp [hnodup.1]
    · simp only [hi, if_false]
      rw [← hold]
      simp [hi]
  · intro e he
    rcases OrderedMultimap.mem_insert.mp he with rfl | he
    · exact ⟨con, by rw [getElem?_set_slot hlt, if_pos rfl]; rfl⟩
    · obtain ⟨c, hslot⟩ := hinv.record_slot e he
      -- the slot was empty, so no old record is for it
      have hne : e.val ≠ index := by
        intro heq
        rw [heq, hempty] at hslot
        simp at hslot
      exact ⟨c, by rw [getElem?_set_slot hlt, if_neg hne]; exact hslot⟩
  · intro i c it hslot
    rw [getElem?_set_slot hlt] at hslot
    split at hslot
    · next hi =>
      simp only [Option.some.injEq, Prod.mk.injEq] at hslot
      exact ⟨⟨t.timeoutRecords.next, deadline, index⟩, OrderedMultimap.mem_insert.mpr (Or.inl rfl),
        hi.symm, hslot.2.symm⟩
    · obtain ⟨e, he, hval, hit⟩ := hinv.slot_record i c it hslot
      exact ⟨e, OrderedMultimap.mem_insert.mpr (Or.inr he), hval, hit⟩

/-- Every way in which the table part of `AttachEndpointImpl` can end. -/
theorem attach_cases (opt : ContainerOption) (t : SlotTable κ) (con : κ) (deadline : Int) :
    (t.freeIndexList = [] ∧ opt.maxContainerSize ≤ t.mgr.length ∧
        t.attach opt con deadline = .ok (none, t)) ∨
      ∃ t₁, (t₁ = t ∧ t.freeIndexList ≠ [] ∨
          t₁ = t.expand opt ∧ t.freeIndexList = [] ∧ t.mgr.length < opt.maxContainerSize) ∧
        ((t₁.freeIndexList = [] ∧ t.attach opt con deadline = .error .emptyFreeList) ∨
          ∃ index rest, t₁.freeIndexList = index :: rest ∧
            ((¬ index < t₁.mgr.length ∧ t.attach opt con deadline = .error .outOfRange) ∨
              (index < t₁.mgr.length ∧ t.attach opt con deadline = .ok (some index,
                { mgr := t₁.mgr.set index (some con, t₁.timeoutRecords.insertIter)
                  timeoutRecords := t₁.timeoutRecords.insert deadline index
                  freeIndexList := rest })))) := by
  by_cases hlimit : t.freeIndexList = [] ∧ opt.maxContainerSize ≤ t.mgr.length
  · exact Or.inl ⟨hlimit.1, hlimit.2, by rw [attach, if_pos hlimit]⟩
  · right
    refine ⟨if t.freeIndexList = [] then t.expand opt else t, ?_, ?_⟩
    · by_cases hfree : t.freeIndexList = []
      · exact Or.inr ⟨by rw [if_pos hfree], hfree, by
          by_contra hge
          exact hlimit ⟨hfree, by omega⟩⟩
      · exact Or.inl ⟨by rw [if_neg hfree], hfree⟩
    · rw [attach, if_neg hlimit]
      cases hf : (if t.freeIndexList = [] then t.expand opt else t).freeIndexList with
      | nil => exact Or.inl ⟨rfl, by simp only [hf]⟩
      | cons index rest =>
          refine Or.inr ⟨index, rest, rfl, ?_⟩
          by_cases hlt : index < (if t.freeIndexList = [] then t.expand opt else t).mgr.length
          · exact Or.inr ⟨hlt, by simp only [hf, if_pos hlt]⟩
          · exact Or.inl ⟨hlt, by simp only [hf, if_neg hlt]⟩

/-- A successful attach, taken apart: the table it works on is the old one or the grown one, the index is
the first free one there, and the new table has the connection in it. -/
theorem attach_some {opt : ContainerOption} {t t' : SlotTable κ} {con : κ} {deadline : Int}
    {index : Nat} (h : t.attach opt con deadline = .ok (some index, t')) :
    ∃ t₁ rest, (t₁ = t ∧ t.freeIndexList ≠ [] ∨
        t₁ = t.expand opt ∧ t.freeIndexList = [] ∧ t.mgr.length < opt.maxContainerSize) ∧
      t₁.freeIndexList = index :: rest ∧ index < t₁.mgr.length ∧
      t' = { mgr := t₁.mgr.set index (some con, t₁.timeoutRecords.insertIter)
             timeoutRecords := t₁.timeoutRecords.insert deadline index
             freeIndexList := rest } := by
  -- the other ends of an attach give no index
  rcases attach_cases opt t con deadline with ⟨-, -, he⟩ | ⟨t₁, ht₁, he⟩
  · rw [h] at he
    simp at he
  · rcases he with ⟨-, he⟩ | ⟨index', rest, hfree, ⟨-, he⟩ | ⟨hlt, he⟩⟩
    · rw [h] at he
      cases he
    · rw [h] at he
      cases he
    · rw [h, Except.ok.injEq, Prod.mk.injEq, Option.some.injEq] at he
      obtain ⟨rfl, rfl⟩ := he
      exact ⟨t₁, rest, ht₁, hfree, hlt, rfl⟩

/-- What a successful attach does: it takes an empty slot, stores the connection there and leaves all
other slots as they are. -/
theorem attach_ok {opt : ContainerOption} {t t' : SlotTable κ} {con : κ} {deadline : Int}
    {index : Nat} (h : t.attach opt con deadline = .ok (some index, t')) :
    t.mgr.length ≤ t'.mgr.length ∧ index < t'.mgr.length ∧
      ∀ i, t'.connection i = if i = index then some con else t.connection i := by
  obtain ⟨t₁, rest, ht₁, -, hlt, rfl⟩ := attach_some h
  have hlen : t.mgr.length ≤ t₁.mgr.length := by
    rcases ht₁ with ⟨rfl, -⟩ | ⟨rfl, -, hlt⟩
    · exact Nat.le_refl _
    · rw [length_expand hlt]
      exact le_expandSize hlt
  have hcon : ∀ i, t₁.connection i = t.connection i := by
    rcases ht₁ with ⟨rfl, -⟩ | ⟨rfl, -, hlt⟩
    · exact fun _ => rfl
    · exact connection_expand hlt
  refine ⟨by simpa using hlen, by simpa using hlt, ?_⟩
  intro i
  rw [← hcon i, connection, connection, getElem?_set_slot hlt]
  split <;> rfl

/-- On a table with the invariant an attach either meets the limit, gets stuck on a table that growth
cannot enlarge, or succeeds and keeps the invariant and the size bound. -/
theorem Inv.attach {opt : ContainerOption} {t : SlotTable κ} (hinv : t.Inv)
    (hm : opt.maxContainerSize < 2 ^ 32) (con : κ) (deadline : Int) :
    t.attach opt con deadline = .ok (none, t) ∨
      t.attach opt con deadline = .error .emptyFreeList ∨
      ∃ index t', t.attach opt con deadline = .ok (some index, t') ∧ t'.Inv ∧
        (t'.mgr.length = t.mgr.length ∨ t'.mgr.length ≤ opt.maxContainerSize) := by
  rcases attach_cases opt t con deadline with ⟨-, -, he⟩ | ⟨t₁, ht₁, he⟩
  · exact Or.inl he
  · have hinv₁ : t₁.Inv := by
      rcases ht₁ with ⟨rfl, -⟩ | ⟨rfl, hfree, hlt⟩
      · exact hinv
      · exact hinv.expand (expandSize_fits hm _) hfree hlt
    have hlen : t₁.mgr.length = t.mgr.length ∨ t₁.mgr.length ≤ opt.maxContainerSize := by
      rcases ht₁ with ⟨rfl, -⟩ | ⟨rfl, -, hlt⟩
      · exact Or.inl rfl
      · rw [length_expand hlt]
        exact Or.inr (expandSize_le opt _)
    rcases he with ⟨-, he⟩ | ⟨index, rest, hfree, ⟨hge, -⟩ | ⟨-, he⟩⟩
    · exact Or.inr (Or.inl he)
    · exact absurd (hinv₁.occupy hfree con deadline).1 hge
    · exact Or.inr (Or.inr ⟨index, _, he, (hinv₁.occupy hfree con deadline).2,
        by simpa using hlen⟩)

/-- A successful attach keeps the invariant of a table whose indices are `uint32_t` values. -/
theorem Inv.of_attach {opt : ContainerOption} {t t' : SlotTable κ} {con : κ} {deadline : Int}
    {index : Nat} (hinv : t.Inv) (h : t.attach opt con deadline = .ok (some index, t'))
    (hfit : t'.mgr.length ≤ 2 ^ 32) : t'.Inv := by
  obtain ⟨t₁, rest, ht₁, hfree, -, rfl⟩ := attach_some h
  rw [List.length_set] at hfit
  have hinv₁ : t₁.Inv := by
    rcases ht₁ with ⟨rfl, -⟩ | ⟨rfl, hused, hlt⟩
    · exact hinv
    · rw [length_expand hlt] at hfit
      exact hinv.expand hfit hused hlt
  exact (hinv₁.occupy hfree con deadline).2

/-- A successful attach takes the index at the front of the free list, whose slot was empty. -/
theorem Inv.attach_vacant {opt : ContainerOption} {t t' : SlotTable κ} {con : κ} {deadline : Int}
    {index : Nat} (hinv : t.Inv) (hm : opt.maxContainerSize < 2 ^ 32)
    (h : t.attach opt con deadline = .ok (some index, t')) :
    t'.Inv ∧ t.connection index = none ∧ t.nextIndex opt = some index := by
  obtain ⟨t₁, rest, ht₁, hfree, -, rfl⟩ := attach_some h
  obtain ⟨hinv₁, hcon, hnext⟩ : t₁.Inv ∧ (∀ i, t₁.connection i = t.connection i) ∧
      t.nextIndex opt = t₁.freeIndexList.head? := by
    rcases ht₁ with ⟨rfl, hused⟩ | ⟨rfl, hused, hlt⟩
    · exact ⟨hinv, fun _ => rfl, by rw [nextIndex, if_neg hused]⟩
    · exact ⟨hinv.expand (expandSize_fits hm _) hused hlt, connection_expand hlt,
        by rw [nextIndex, if_pos hused]⟩
  refine ⟨(hinv₁.occupy hfree con deadline).2, ?_, by rw [hnext, hfree]; rfl⟩
  obtain ⟨it, hslot⟩ := (hinv₁.mem_free index).mp (by rw [hfree]; exact List.mem_cons_self)
  rw [← hcon, connection, hslot]
  rfl

/-! ### `DeleteConnection`, `RefreshTime` and the sweep -/

/-- Erasing the record a used slot designates removes exactly the records of that slot. -/
theorem Inv.erase_record {t : SlotTable κ} (hinv : t.Inv) {i : Nat} {c : κ} {it : MapIter}
    (hslot : t.mgr[i]? = some (some c, it)) :
    ∃ records, t.timeoutRecords.erase it = some records ∧
      records.entries = t.timeoutRecords.entries.filter (fun e => e.val ≠ i) := by
  obtain ⟨e, he, hval, hit⟩ := hinv.slot_record i c it hslot
  obtain ⟨records, herase, hentries⟩ := OrderedMultimap.erase_node he
  refine ⟨records, by rw [hit]; exact herase, ?_⟩
  rw [hentries]
  apply List.filter_congr
  intro f hf
  have hiff := hinv.record_of_slot hslot hf
  rw [hit, MapIter.node.injEq, eq_comm (a := e.id)] at hiff
  simp only [ne_eq, hiff]

/-- The records of the other slots are those that remain when the records of slot `i` go. -/
theorem mem_filter_val_ne {l : List (MapEntry Int Nat)} {i : Nat} {f : MapEntry Int Nat} :
    f ∈ l.filter (fun e => e.val ≠ i) ↔ f ∈ l ∧ f.val ≠ i := by
  rw [List.mem_filter, decide_eq_true_iff]

/-- Releasing a used slot: it does not fault, and what the table is afterwards. -/
theorem Inv.releaseSlot {t : SlotTable κ} (hinv : t.Inv) {i : Nat} {c : κ} {it : MapIter}
    (hslot : t.mgr[i]? = some (some c, it)) :
    ∃ t', t.releaseSlot i = .ok t' ∧ t'.Inv ∧ t'.mgr = t.mgr.set i (none, .pastEnd) ∧
      t'.freeIndexList = t.freeIndexList ++ [i] ∧
      t'.timeoutRecords.entries = t.timeoutRecords.entries.filter (fun e => e.val ≠ i) := by
  have hlt : i < t.mgr.length := (List.getElem?_eq_some_iff.mp hslot).1
  obtain ⟨records, herase, hentries⟩ := hinv.erase_record hslot
  refine ⟨{ mgr := t.mgr.set i (none, .pastEnd), timeoutRecords := records,
            freeIndexList := t.freeIndexList ++ [i] },
    by simp only [SlotTable.releaseSlot, hslot, herase], ⟨?_, ?_, ?_, ?_⟩, rfl, rfl, hentries⟩
  · -- a used slot is not in the free list
    simp only
    rw [List.nodup_append_comm, List.singleton_append, List.nodup_cons]
    refine ⟨?_, hinv.free_nodup⟩
    intro hin
    obtain ⟨it', hnone⟩ := (hinv.mem_free _).mp hin
    rw [hslot] at hnone
    simp at hnone
  · intro j
    rw [List.mem_append, List.mem_singleton, getElem?_set_slot hlt]
    by_cases hj : j = i
    · simp [hj]
    · simp only [hj, if_false, or_false]
      exact hinv.mem_free j
  · intro f hf
    rw [hentries] at hf
    obtain ⟨hf, hne⟩ := mem_filter_val_ne.mp hf
    obtain ⟨c', hslot'⟩ := hinv.record_slot f hf
    exact ⟨c', by rw [getElem?_set_slot hlt, if_neg hne]; exact hslot'⟩
  · intro j c' it' hj
    rw [getElem?_set_slot hlt] at hj
    split at hj
    · simp at hj
    · next hne =>
      obtain ⟨f, hf, hval, hit⟩ := hinv.slot_record j c' it' hj
      refine ⟨f, ?_, hval, hit⟩
      rw [hentries]
      exact mem_filter_val_ne.mpr ⟨hf, by rw [hval]; exact hne⟩

/-- `DeleteConnection` on an existing slot does not fault and keeps the invariant and the size. -/
theorem Inv.deleteConnection {t : SlotTable κ} (hinv : t.Inv) {i : Nat} (hi : i < t.mgr.length) :
    ∃ t', t.deleteConnection i = .ok t' ∧ t'.Inv ∧ t'.mgr.length = t.mgr.length := by
  obtain ⟨⟨con, it⟩, hslot⟩ : ∃ v, t.mgr[i]? = some v := ⟨_, List.getElem?_eq_getElem hi⟩
  cases con with
  | none => exact ⟨t, by simp only [SlotTable.deleteConnection, hslot], hinv, rfl⟩
  | some c =>
      obtain ⟨t', hrel, hinv', hmgr, -, -⟩ := hinv.releaseSlot hslot
      exact ⟨t', by simp only [SlotTable.deleteConnection, hslot, hrel], hinv',
        by rw [hmgr, List.length_set]⟩

/-- `RefreshTime` on an existing slot does not fault and keeps the invariant, the size and the
connections. -/
theorem Inv.refreshTime {t : SlotTable κ} (hinv : t.Inv) {i : Nat} (hi : i < t.mgr.length)
    (deadline : Int) :
    ∃ t', t.refreshTime i deadline = .ok t' ∧ t'.Inv ∧ t'.mgr.length = t.mgr.length := by
  obtain ⟨⟨con, it⟩, hslot⟩ : ∃ v, t.mgr[i]? = some v := ⟨_, List.getElem?_eq_getElem hi⟩
  cases con with
  | none => exact ⟨t, by simp only [SlotTable.refreshTime, hslot], hinv, rfl⟩
  | some c =>
      -- the old record goes, and the new one is designated by the slot again
      obtain ⟨records, herase, hentries⟩ := hinv.erase_record hslot
      refine ⟨{ t with mgr := t.mgr.set i (some c, records.insertIter),
                       timeoutRecords := records.insert deadline i },
        by simp only [SlotTable.refreshTime, hslot, herase], ⟨hinv.free_nodup, ?_, ?_, ?_⟩, by simp⟩
      · intro j
        rw [getElem?_set_slot hi]
        by_cases hj : j = i
        · have hno := hinv.mem_free j
          rw [hj, hslot] at hno
          simpa [hj] using hno
        · simp only [hj, if_false]
          exact hinv.mem_free j
      · intro f hf
        rcases OrderedMultimap.mem_insert.mp hf with rfl | hf
        · exact ⟨c, by rw [getElem?_set_slot hi, if_pos rfl]; rfl⟩
        · rw [hentries] at hf
          obtain ⟨hf, hne⟩ := mem_filter_val_ne.mp hf
          obtain ⟨c', hslot'⟩ := hinv.record_slot f hf
          exact ⟨c', by rw [getElem?_set_slot hi, if_neg hne]; exact hslot'⟩
      · intro j c' it' hj
        rw [getElem?_set_slot hi] at hj
        split at hj
        · next heq =>
          simp only [Option.some.injEq, Prod.mk.injEq] at hj
          exact ⟨⟨records.next, deadline, i⟩, OrderedMultimap.mem_insert.mpr (Or.inl rfl),
            heq.symm, hj.2.symm⟩
        · next hne =>
          obtain ⟨f, hf, hval, hit⟩ := hinv.slot_record j c' it' hj
          refine ⟨f, OrderedMultimap.mem_insert.mpr (Or.inr ?_), hval, hit⟩
          rw [hentries]
          exact mem_filter_val_ne.mpr ⟨hf, by rw [hval]; exact hne⟩

/-- One expired record at the head of the map: its slot is released, and the iterator taken before
the erase is the new head. -/
theorem Inv.expireSlot {t : SlotTable κ} (hinv : t.Inv) {e : MapEntry Int Nat}
    {rest : List (MapEntry Int Nat)} (hentries : t.timeoutRecords.entries = e :: rest) :
    ∃ t' c, t.expireSlot e.val = .ok (t', c) ∧ t.mgr[e.val]? = some (some c, .node e.id) ∧ t'.Inv ∧
      t'.mgr = t.mgr.set e.val (none, .pastEnd) ∧ t'.freeIndexList = t.freeIndexList ++ [e.val] ∧
      t'.timeoutRecords.entries = rest ∧
      OrderedMultimap.nextIter e.id t.timeoutRecords.entries = t'.timeoutRecords.begin := by
  obtain ⟨c, hslot⟩ := hinv.record_slot e (by rw [hentries]; exact List.mem_cons_self)
  obtain ⟨t', hrel, hinv', hmgr, hfree, hfilter⟩ := hinv.releaseSlot hslot
  -- the other records belong to other slots
  have hrest : t'.timeoutRecords.entries = rest := by
    rw [hfilter, hentries, List.filter_cons_of_neg (by simp), List.filter_eq_self]
    intro f hf
    have hfmem : f ∈ t.timeoutRecords.entries := by rw [hentries]; exact List.mem_cons_of_mem e hf
    have hid : f.id ≠ e.id := by
      have hnodup := t.timeoutRecords.nodup
      rw [hentries, List.map_cons, List.nodup_cons] at hnodup
      exact fun hid => hnodup.1 (List.mem_map.mpr ⟨f, hf, hid⟩)
    have hiff := hinv.record_of_slot hslot hfmem
    rw [MapIter.node.injEq] at hiff
    simpa using fun hval => hid (hiff.mp hval).symm
  refine ⟨t', c, by simp only [SlotTable.expireSlot, hslot, hrel]; rfl, hslot, hinv', hmgr, hfree,
    hrest, ?_⟩
  rw [OrderedMultimap.begin, hrest, hentries]
  cases rest <;> simp [OrderedMultimap.nextIter]

/-- `DeleteConnection` returns only on an existing slot. -/
theorem lt_of_deleteConnection {t t' : SlotTable κ} {i : Nat} (h : t.deleteConnection i = .ok t') :
    i < t.mgr.length := by
  by_contra hge
  have hnone : t.mgr[i]? = none := List.getElem?_eq_none (Nat.le_of_not_lt hge)
  simp only [SlotTable.deleteConnection, hnone] at h
  cases h

/-- `RefreshTime` returns only on an existing slot. -/
theorem lt_of_refreshTime {t t' : SlotTable κ} {i : Nat} {deadline : Int}
    (h : t.refreshTime i deadline = .ok t') : i < t.mgr.length := by
  by_contra hge
  have hnone : t.mgr[i]? = none := List.getElem?_eq_none (Nat.le_of_not_lt hge)
  simp only [SlotTable.refreshTime, hnone] at h
  cases h

end SlotTable

end RaptorLite
