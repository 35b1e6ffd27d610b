import RaptorLite.Common.SlotTableInvariant

/-! # Runs of the slot table

What the locked sections do to the connections in the slots, the whole sweep of `OnTimeoutCheck`, and every run of
the sections. The result about all runs is the invariant rule of `Machine` applied to the lemmas about the single
sections. -/

namespace RaptorLite

variable {κ : Type}

namespace SlotTable

/-! ### The connections in the slots

What each section does to the connections, for any table: these are the frame facts the container's
own results rest on. -/

/-- Giving a slot back empties it and no other. -/
theorem connection_releaseSlot {t t' : SlotTable κ} {index : Nat}
    (h : t.releaseSlot index = .ok t') :
    t'.mgr.length = t.mgr.length ∧
      ∀ j, t'.connection j = if j = index then none else t.connection j := by
  unfold SlotTable.releaseSlot at h
  split at h
  · cases h
  · next hslot =>
    have hlt : index < t.mgr.length := (List.getElem?_eq_some_iff.mp hslot).1
    split at h
    · cases h
    · cases h
      refine ⟨List.length_set, ?_⟩
      intro j
      simp only [connection, getElem?_set_slot hlt]
      split <;> rfl

/-- `DeleteConnection` empties its slot and no other. -/
theorem connection_deleteConnection {t t' : SlotTable κ} {index : Nat}
    (h : t.deleteConnection index = .ok t') :
    t'.mgr.length = t.mgr.length ∧
      ∀ j, t'.connection j = if j = index then none else t.connection j := by
  unfold SlotTable.deleteConnection at h
  split at h
  · cases h
  · next hslot =>
    cases h
    refine ⟨rfl, ?_⟩
    intro j
    split
    · next hj => rw [hj, connection, hslot]; rfl
    · rfl
  · exact connection_releaseSlot h

/-- `GetConnection` returns what is in the slot. -/
theorem getConnection_eq_ok {t : SlotTable κ} {index : Nat} {o : Option κ}
    (h : t.getConnection index = .ok o) : t.connection index = o := by
  unfold SlotTable.getConnection at h
  split at h
  · cases h
  · next hslot =>
    cases h
    rw [connection, hslot]
    rfl

/-- `RefreshTime` moves no connection. -/
theorem connection_refreshTime {t t' : SlotTable κ} {index : Nat} {deadline : Int}
    (h : t.refreshTime index deadline = .ok t') :
    t'.mgr.length = t.mgr.length ∧ ∀ j, t'.connection j = t.connection j := by
  unfold SlotTable.refreshTime at h
  split at h
  · cases h
  · cases h
    exact ⟨rfl, fun _ => rfl⟩
  · next hslot =>
    have hlt : index < t.mgr.length := (List.getElem?_eq_some_iff.mp hslot).1
    split at h
    · cases h
    · cases h
      refine ⟨List.length_set, ?_⟩
      intro j
      simp only [connection, getElem?_set_slot hlt]
      split
      · next hj => rw [hj, hslot]; rfl
      · rfl

/-- An expired connection is the one that its slot held, and the slot is given back. -/
theorem connection_expireSlot {t t' : SlotTable κ} {index : Nat} {c : κ}
    (h : t.expireSlot index = .ok (t', c)) :
    t.releaseSlot index = .ok t' ∧ t.connection index = some c := by
  unfold SlotTable.expireSlot at h
  split at h
  · cases h
  · cases h
  · next hslot =>
    cases hr : t.releaseSlot index with
    | error f => rw [hr] at h; cases h
    | ok t₁ =>
        rw [hr] at h
        cases h
        exact ⟨rfl, by rw [connection, hslot]; rfl⟩

/-- A property of tables that releasing the slot of a record keeps is kept by a whole sweep. -/
theorem sweep_induction {P : SlotTable κ → List κ → SlotTable κ → Prop} {now : Int}
    (hstop : ∀ t, P t [] t)
    (hexpire : ∀ (t t₁ t' : SlotTable κ) (e : MapEntry Int Nat) (c : κ) (cs : List κ),
      e ∈ t.timeoutRecords.entries → t.expireSlot e.val = .ok (t₁, c) → P t₁ cs t' →
      P t (c :: cs) t')
    {t t' : SlotTable κ} {it : MapIter} {cs : List κ} (h : t.sweep now it = .ok (t', cs)) :
    P t cs t' := by
  -- each release erases a record, so the number of records bounds the sweep
  induction hk : t.timeoutRecords.entries.length using Nat.strong_induction_on
    generalizing t it cs with
  | _ k ih =>
    rw [SlotTable.sweep] at h
    split at h
    · cases h
      exact hstop _
    · split at h
      · cases h
      · next e hderef =>
        split at h
        · cases h
          exact hstop _
        · split at h
          · cases h
          · next t₁ c hexp =>
            cases hrec : t₁.sweep now (OrderedMultimap.nextIter e.id t.timeoutRecords.entries) with
            | error f => rw [hrec] at h; cases h
            | ok r =>
                rw [hrec] at h
                cases h
                have hlt : t₁.timeoutRecords.entries.length < k := hk ▸ length_expireSlot_lt hexp
                exact hexpire t t₁ r.1 e c r.2 (OrderedMultimap.deref_eq_some_iff.mp hderef).2 hexp
                  (ih _ hlt hrec rfl)

/-- The sweep empties slots, and gives the connections it took out of them. -/
theorem connection_timeoutSweep {t t' : SlotTable κ} {now : Int} {cs : List κ}
    (h : t.timeoutSweep now = .ok (t', cs)) :
    t'.mgr.length = t.mgr.length ∧ ∀ j, t'.connection j = t.connection j ∨
      t'.connection j = none ∧ ∃ c ∈ cs, t.connection j = some c := by
  refine sweep_induction (P := fun t cs t' => t'.mgr.length = t.mgr.length ∧
    ∀ j, t'.connection j = t.connection j ∨
      t'.connection j = none ∧ ∃ c ∈ cs, t.connection j = some c) ?_ ?_ h
  · exact fun t => ⟨rfl, fun _ => Or.inl rfl⟩
  · rintro t t₁ t' e c cs - hexp ⟨hlen, hcon⟩
    obtain ⟨hrel, hc⟩ := connection_expireSlot hexp
    obtain ⟨hlen₁, hcon₁⟩ := connection_releaseSlot hrel
    refine ⟨hlen.trans hlen₁, ?_⟩
    intro j
    by_cases hj : j = e.val
    · -- the slot released first stays empty for the rest of the sweep
      subst hj
      refine Or.inr ⟨?_, c, List.mem_cons_self, hc⟩
      rcases hcon e.val with hsame | ⟨hnone, -⟩
      · rw [hsame, hcon₁, if_pos rfl]
      · exact hnone
    · have hj₁ : t₁.connection j = t.connection j := by rw [hcon₁, if_neg hj]
      rcases hcon j with hsame | ⟨hnone, d, hd, hdj⟩
      · exact Or.inl (hsame.trans hj₁)
      · exact Or.inr ⟨hnone, d, List.mem_cons_of_mem c hd, by rw [← hj₁]; exact hdj⟩

/-- The records that have expired, in deadline order. -/
def expired (t : SlotTable κ) (now : Int) : List (MapEntry Int Nat) :=
  t.timeoutRecords.entries.filter fun e => e.key ≤ now

/-- What a sweep does: the expired records go, their slots are emptied and their indices handed back in
order; the other records and slots stay. `cs` are the connections taken out, in order. -/
structure Sweeps (now : Int) (t t' : SlotTable κ) (cs : List κ) : Prop where
  /-- The invariant of the table. -/
  inv : t'.Inv
  /-- The size stays. -/
  length : t'.mgr.length = t.mgr.length
  /-- The expired records are erased, and only these. -/
  entries : t'.timeoutRecords.entries = t.timeoutRecords.entries.filter fun e => now < e.key
  /-- The indices of the expired records are appended to the free list. -/
  free : t'.freeIndexList = t.freeIndexList ++ (t.expired now).map MapEntry.val
  /-- The slots of the expired records are emptied, and only these change. -/
  slots : ∀ i, t'.mgr[i]? =
    if i ∈ (t.expired now).map MapEntry.val then some (none, .pastEnd) else t.mgr[i]?
  /-- The connections of these slots are taken out. -/
  taken : cs.map some = (t.expired now).map fun e => t.connection e.val

/-- Where no record has expired, nothing happens. -/
theorem Sweeps.none {t : SlotTable κ} (hinv : t.Inv) {now : Int}
    (h : ∀ e ∈ t.timeoutRecords.entries, now < e.key) : Sweeps now t t [] := by
  have hexpired : t.expired now = [] := by
    rw [expired, List.filter_eq_nil_iff]
    intro e he
    simpa using h e he
  refine ⟨hinv, rfl, ?_, by simp [hexpired], by simp [hexpired], by simp [hexpired]⟩
  rw [eq_comm, List.filter_eq_self]
  exact fun e he => decide_eq_true (h e he)

/-- A sweep goes on behind the release of the slot of its first record. -/
theorem Sweeps.cons {t t₁ t' : SlotTable κ} {now : Int} {e : MapEntry Int Nat}
    {rest : List (MapEntry Int Nat)} {c : κ} {cs : List κ} (hentries : t.timeoutRecords.entries = e :: rest)
    (hdue : e.key ≤ now) (hslot : t.mgr[e.val]? = some (some c, .node e.id))
    (hmgr : t₁.mgr = t.mgr.set e.val (.none, .pastEnd)) (hfree : t₁.freeIndexList = t.freeIndexList ++ [e.val])
    (hrest : t₁.timeoutRecords.entries = rest) (hother : ∀ f ∈ rest, f.val ≠ e.val)
    (h : Sweeps now t₁ t' cs) : Sweeps now t t' (c :: cs) := by
  have hlt := (List.getElem?_eq_some_iff.mp hslot).1
  have hexpired : t.expired now = e :: t₁.expired now := by
    rw [expired, hentries, List.filter_cons_of_pos (by simpa using hdue), expired, hrest]
  refine ⟨h.inv, by rw [h.length, hmgr, List.length_set], ?_, ?_, ?_, ?_⟩
  · rw [h.entries, hrest, hentries, List.filter_cons_of_neg (by simpa using hdue)]
  · rw [h.free, hfree, hexpired, List.map_cons, List.append_assoc]
    rfl
  · intro i
    rw [h.slots, hexpired, hmgr, getElem?_set_slot hlt, List.map_cons]
    by_cases hi : i = e.val
    · simp [hi]
    · simp [hi]
  · -- the slots of the other records are as they were
    have hcon : ∀ f ∈ t₁.expired now, t₁.connection f.val = t.connection f.val := by
      intro f hf
      have hf : f ∈ rest := by
        rw [← hrest]
        exact (List.mem_filter.mp hf).1
      rw [connection, connection, hmgr, getElem?_set_slot hlt, if_neg (hother f hf)]
    have hfirst : t.connection e.val = some c := by
      rw [connection, hslot]
      rfl
    rw [hexpired, List.map_cons, List.map_cons, h.taken, hfirst, List.map_congr_left hcon]

/-- The sweep from the head of the map does not fault. -/
theorem Inv.sweeps {t : SlotTable κ} (hinv : t.Inv) (now : Int) :
    ∃ t' cs, t.timeoutSweep now = .ok (t', cs) ∧ Sweeps now t t' cs := by
  unfold timeoutSweep
  -- the loop always stands at the head of what is left of the map
  induction hk : t.timeoutRecords.entries.length using Nat.strong_induction_on generalizing t with
  | _ k ih =>
    rw [SlotTable.sweep]
    cases hentries : t.timeoutRecords.entries with
    | nil =>
        have hbegin : t.timeoutRecords.begin = .pastEnd := by
          rw [OrderedMultimap.begin, hentries]
        rw [if_pos hbegin]
        exact ⟨t, [], rfl, Sweeps.none hinv (by simp [hentries])⟩
    | cons e rest =>
        have hbegin : t.timeoutRecords.begin = .node e.id := by
          rw [OrderedMultimap.begin, hentries]
        rw [if_neg (by rw [hbegin]; simp), OrderedMultimap.deref_begin hentries]
        have hsorted := t.timeoutRecords.sorted
        rw [hentries, List.pairwise_cons] at hsorted
        by_cases hnow : now < e.key
        · -- the records are in key order, so none has expired
          simp only [if_pos hnow]
          refine ⟨t, [], rfl, Sweeps.none hinv ?_⟩
          rw [hentries]
          intro f hf
          rcases List.mem_cons.mp hf with rfl | hf
          · exact hnow
          · exact lt_of_lt_of_le hnow (hsorted.1 f hf)
        · simp only [if_neg hnow]
          obtain ⟨t₁, c, hexp, hslot, hinv₁, hmgr, hfree, hrest, hnext⟩ := hinv.expireSlot hentries
          have hlt : t₁.timeoutRecords.entries.length < k := by
            rw [hrest, ← hk, hentries]
            exact Nat.lt_succ_self _
          obtain ⟨t', cs, hsweep, hsweeps⟩ := ih _ hlt hinv₁ rfl
          -- the slot of the first record is not that of another one
          have hother : ∀ f ∈ rest, f.val ≠ e.val := by
            intro f hf hval
            obtain ⟨c', hslot'⟩ := hinv₁.record_slot f (by rw [hrest]; exact hf)
            rw [hval, hmgr, getElem?_set_slot (List.getElem?_eq_some_iff.mp hslot).1, if_pos rfl]
              at hslot'
            simp at hslot'
          refine ⟨t', c :: cs, ?_, hsweeps.cons hentries (not_lt.mp hnow) hslot hmgr hfree hrest hother⟩
          rw [← hnext, hentries] at hsweep
          split
          · next f hf => rw [hexp] at hf; cases hf
          · next t₂ c₂ h₂ =>
            rw [hexp, Except.ok.injEq, Prod.mk.injEq] at h₂
            obtain ⟨rfl, rfl⟩ := h₂
            rw [hsweep]
            rfl

/-- A slot has expired or not with its one record. -/
theorem Inv.mem_expired_iff {t : SlotTable κ} (hinv : t.Inv) {now : Int} {e : MapEntry Int Nat}
    (he : e ∈ t.timeoutRecords.entries) : e.val ∈ (t.expired now).map MapEntry.val ↔ e.key ≤ now := by
  constructor
  · intro hmem
    obtain ⟨f, hf, hval⟩ := List.mem_map.mp hmem
    obtain ⟨hf, hdue⟩ := List.mem_filter.mp hf
    obtain ⟨c, hslot⟩ := hinv.record_slot e he
    have hid := (hinv.record_of_slot hslot hf).mp hval
    rw [MapIter.node.injEq] at hid
    rw [OrderedMultimap.eq_of_id_eq he hf hid]
    simpa using hdue
  · intro hdue
    exact List.mem_map.mpr ⟨e, List.mem_filter.mpr ⟨he, by simpa using hdue⟩, rfl⟩

/-- The sweep from the head of the map does not fault and keeps the invariant and the size. The records
that have expired go, with the connections of their slots; the other records and slots stay. -/
theorem Inv.sweep_spec {t : SlotTable κ} (hinv : t.Inv) (now : Int) :
    ∃ t' cs, t.timeoutSweep now = .ok (t', cs) ∧ t'.Inv ∧ t'.mgr.length = t.mgr.length ∧
      t'.timeoutRecords.entries = t.timeoutRecords.entries.filter (fun e => now < e.key) ∧
      (∀ e ∈ t.timeoutRecords.entries, e.key ≤ now → t'.connection e.val = none) ∧
      ∀ e ∈ t.timeoutRecords.entries, now < e.key → t'.connection e.val = t.connection e.val := by
  obtain ⟨t', cs, hsweep, h⟩ := hinv.sweeps now
  refine ⟨t', cs, hsweep, h.inv, h.length, h.entries, ?_, ?_⟩
  · intro e he hdue
    rw [connection, h.slots, if_pos ((hinv.mem_expired_iff he).mpr hdue)]
    rfl
  · intro e he hlater
    rw [connection, h.slots, if_neg (mt (hinv.mem_expired_iff he).mp (not_le.mpr hlater)), connection]

/-- The sweep from the head of the map does not fault and keeps the invariant and the size. -/
theorem Inv.sweep {t : SlotTable κ} (hinv : t.Inv) (now : Int) :
    ∃ t' cs, t.timeoutSweep now = .ok (t', cs) ∧ t'.Inv ∧ t'.mgr.length = t.mgr.length := by
  obtain ⟨t', cs, hsweep, hinv', hlen, -⟩ := hinv.sweep_spec now
  exact ⟨t', cs, hsweep, hinv', hlen⟩

/-- The free indices and the indices of the records are `uint32_t` values. -/
structure IndicesFit (t : SlotTable κ) : Prop where
  /-- The free indices. -/
  free : ∀ i ∈ t.freeIndexList, i < 2 ^ 32
  /-- The indices in the records. -/
  records : ∀ e ∈ t.timeoutRecords.entries, e.val < 2 ^ 32

/-- A cast index is a `uint32_t` value. -/
theorem castIndex_lt (i : Nat) : castIndex i < 2 ^ 32 := Nat.mod_lt _ (by decide)

/-- The indices behind `Init` are `uint32_t` values. -/
theorem indicesFit_init (opt : ContainerOption) : (init opt : SlotTable κ).IndicesFit := by
  refine ⟨?_, fun e he => by simp [init] at he⟩
  intro i hi
  obtain ⟨j, -, rfl⟩ := List.mem_map.mp hi
  exact castIndex_lt j

/-- The index an attach takes is a `uint32_t` value. -/
theorem IndicesFit.attach {opt : ContainerOption} {t t' : SlotTable κ} {con : κ} {deadline : Int}
    {index : Nat} (hfit : t.IndicesFit) (h : t.attach opt con deadline = .ok (some index, t')) :
    index < 2 ^ 32 ∧ t'.IndicesFit := by
  obtain ⟨t₁, rest, ht₁, hfree, -, rfl⟩ := attach_some h
  have hfit₁ : t₁.IndicesFit := by
    rcases ht₁ with ⟨rfl, -⟩ | ⟨rfl, -, -⟩
    · exact hfit
    · -- growth appends casts of the new indices
      refine ⟨?_, hfit.records⟩
      intro i hi
      rcases List.mem_append.mp hi with hi | hi
      · exact hfit.free i hi
      · obtain ⟨j, -, rfl⟩ := List.mem_map.mp hi
        exact castIndex_lt j
  have hlt : index < 2 ^ 32 := hfit₁.free index (by rw [hfree]; exact List.mem_cons_self)
  refine ⟨hlt, ?_, ?_⟩
  · intro i hi
    exact hfit₁.free i (by rw [hfree]; exact List.mem_cons_of_mem _ hi)
  · intro e he
    rcases OrderedMultimap.mem_insert.mp he with rfl | he
    · exact hlt
    · exact hfit₁.records e he

/-- Giving a slot back keeps the indices `uint32_t` values. -/
theorem IndicesFit.releaseSlot {t t' : SlotTable κ} {index : Nat} (hfit : t.IndicesFit)
    (hindex : index < 2 ^ 32) (h : t.releaseSlot index = .ok t') : t'.IndicesFit := by
  unfold SlotTable.releaseSlot at h
  split at h
  · cases h
  · split at h
    · cases h
    · next herase =>
      cases h
      refine ⟨?_, fun e he => hfit.records e (OrderedMultimap.mem_of_mem_erase herase he)⟩
      intro i hi
      rcases List.mem_append.mp hi with hi | hi
      · exact hfit.free i hi
      · rw [List.mem_singleton.mp hi]
        exact hindex

/-- `DeleteConnection` keeps the indices `uint32_t` values. -/
theorem IndicesFit.deleteConnection {t t' : SlotTable κ} {index : Nat} (hfit : t.IndicesFit)
    (hindex : index < 2 ^ 32) (h : t.deleteConnection index = .ok t') : t'.IndicesFit := by
  unfold SlotTable.deleteConnection at h
  split at h
  · cases h
  · cases h
    exact hfit
  · exact hfit.releaseSlot hindex h

/-- `RefreshTime` keeps the indices `uint32_t` values. -/
theorem IndicesFit.refreshTime {t t' : SlotTable κ} {index : Nat} {deadline : Int}
    (hfit : t.IndicesFit) (hindex : index < 2 ^ 32) (h : t.refreshTime index deadline = .ok t') :
    t'.IndicesFit := by
  unfold SlotTable.refreshTime at h
  split at h
  · cases h
  · cases h
    exact hfit
  · split at h
    · cases h
    · next herase =>
      cases h
      refine ⟨hfit.free, ?_⟩
      intro e he
      rcases OrderedMultimap.mem_insert.mp he with rfl | he
      · exact hindex
      · exact hfit.records e (OrderedMultimap.mem_of_mem_erase herase he)

/-- The sweep keeps the indices `uint32_t` values. -/
theorem IndicesFit.timeoutSweep {t t' : SlotTable κ} {now : Int} {cs : List κ} (hfit : t.IndicesFit)
    (h : t.timeoutSweep now = .ok (t', cs)) : t'.IndicesFit := by
  refine sweep_induction (P := fun t _ t' => t.IndicesFit → t'.IndicesFit) ?_ ?_ h hfit
  · exact fun _ hfit => hfit
  · intro t t₁ t' e c cs he hexp ih hfit
    exact ih (hfit.releaseSlot (hfit.records e he) (connection_expireSlot hexp).1)

/-! A section that returned, did so from a table with the invariant as the lemmas above say. -/

/-- A `DeleteConnection` that returned has kept the invariant. -/
theorem Inv.of_deleteConnection {t t' : SlotTable κ} (hinv : t.Inv) {i : Nat}
    (h : t.deleteConnection i = .ok t') : t'.Inv := by
  obtain ⟨t₁, he, hinv₁, -⟩ := hinv.deleteConnection (lt_of_deleteConnection h)
  rw [h, Except.ok.injEq] at he
  exact he ▸ hinv₁

/-- A `RefreshTime` that returned has kept the invariant. -/
theorem Inv.of_refreshTime {t t' : SlotTable κ} (hinv : t.Inv) {i : Nat} {deadline : Int}
    (h : t.refreshTime i deadline = .ok t') : t'.Inv := by
  obtain ⟨t₁, he, hinv₁, -⟩ := hinv.refreshTime (lt_of_refreshTime h) deadline
  rw [h, Except.ok.injEq] at he
  exact he ▸ hinv₁

/-- A sweep that returned has kept the invariant. -/
theorem Inv.of_timeoutSweep {t t' : SlotTable κ} (hinv : t.Inv) {now : Int} {cs : List κ}
    (h : t.timeoutSweep now = .ok (t', cs)) : t'.Inv := by
  obtain ⟨t₁, cs₁, he, hinv₁, -⟩ := hinv.sweep now
  rw [h, Except.ok.injEq, Prod.mk.injEq] at he
  exact he.1 ▸ hinv₁

end SlotTable

/-! ### Every run of the locked sections -/

/-- What one locked section does to a state with the invariant: it keeps the invariant, never shrinks
the table and never grows it past the maximum; the only fault it can meet is an attach that finds no
free index after the expansion. -/
theorem SlotState.exec_spec {opt : ContainerOption} (hm : opt.maxContainerSize < 2 ^ 32)
    {s : SlotState κ} (hinv : s.table.Inv) {a : SlotAction κ} (ha : a.InRange s) :
    (∃ s', s.exec opt a = .ok s' ∧ s'.table.Inv ∧ s.table.mgr.length ≤ s'.table.mgr.length ∧
        (s'.table.mgr.length = s.table.mgr.length ∨
          s'.table.mgr.length ≤ opt.maxContainerSize)) ∨
      (s.exec opt a = .error .emptyFreeList ∧ ∃ con now, a = .attach con now) := by
  cases a with
  | attach con now =>
      rcases hinv.attach hm con (deadlineLine opt now) with he | he | ⟨index, t', he, hinv', hlen⟩
      · exact Or.inl ⟨_, by simp only [exec, he]; rfl, hinv, Nat.le_refl _, Or.inl rfl⟩
      · exact Or.inr ⟨by simp only [exec, he]; rfl, con, now, rfl⟩
      · exact Or.inl ⟨_, by simp only [exec, he]; rfl, hinv', (SlotTable.attach_ok he).1, hlen⟩
  | deleteConnection index =>
      obtain ⟨t', he, hinv', hlen⟩ := hinv.deleteConnection ha
      exact Or.inl ⟨_, by simp only [exec, he]; rfl, hinv', by simp [hlen], Or.inl hlen⟩
  | refreshTime index now =>
      obtain ⟨t', he, hinv', hlen⟩ := hinv.refreshTime ha (deadlineLine opt now)
      exact Or.inl ⟨_, by simp only [exec, he]; rfl, hinv', by simp [hlen], Or.inl hlen⟩
  | onTimeoutCheck now =>
      by_cases hthrottle : now - s.lastCheckTime < 3000
      · exact Or.inl ⟨s, by rw [exec, if_pos hthrottle], hinv, Nat.le_refl _, Or.inl rfl⟩
      · obtain ⟨t', cs, he, hinv', hlen⟩ := hinv.sweep now
        exact Or.inl ⟨_, by rw [exec, if_neg hthrottle, he]; rfl, hinv', by simp [hlen], Or.inl hlen⟩

/-- A section that does not fault was called on an existing slot. -/
theorem SlotAction.inRange_of_exec {opt : ContainerOption} {s s' : SlotState κ} {a : SlotAction κ}
    (h : s.exec opt a = .ok s') : a.InRange s := by
  cases a with
  | attach con now => trivial
  | onTimeoutCheck now => trivial
  | deleteConnection index =>
      cases he : s.table.deleteConnection index with
      | error f => rw [SlotState.exec, he] at h; cases h
      | ok t => exact SlotTable.lt_of_deleteConnection he
  | refreshTime index now =>
      cases he : s.table.refreshTime index (deadlineLine opt now) with
      | error f => rw [SlotState.exec, he] at h; cases h
      | ok t => exact SlotTable.lt_of_refreshTime he

/-- The invariant and the size bound hold in every reachable state. -/
theorem slotMachine_inv {opt : ContainerOption} (hd : opt.defaultContainerSize < 2 ^ 32)
    (hm : opt.maxContainerSize < 2 ^ 32) {start : Int} {s : SlotState κ}
    (hs : (slotMachine opt start).Reachable s) :
    s.table.Inv ∧
      s.table.mgr.length ≤ max opt.defaultContainerSize opt.maxContainerSize := by
  refine Machine.Reaches.invariant (fun s => s.table.Inv ∧
    s.table.mgr.length ≤ max opt.defaultContainerSize opt.maxContainerSize) ?_ ?_ hs
  · refine ⟨SlotTable.inv_init (Nat.le_of_lt hd), ?_⟩
    simp only [slotMachine, SlotTable.init, List.length_replicate]
    exact Nat.le_max_left _ _
  · rintro s a s' - - ⟨hinv, hlen⟩ hstep
    have hexec : s.exec opt a = .ok s' := eq_ok_of_toOption hstep
    rcases SlotState.exec_spec hm hinv (SlotAction.inRange_of_exec hexec) with
      ⟨s₁, he, hinv', -, hlen'⟩ | ⟨he, -⟩
    · rw [hexec, Except.ok.injEq] at he
      subst he
      exact ⟨hinv', by omega⟩
    · rw [hexec] at he
      cases he

/-- **The slot-table invariant.** In every state reachable from `Init` by the sections that run under
`_conn_mtx`: the free list holds exactly the empty slots, once each; the records are exactly one for
every used slot, designated by it, and no other; the table never shrinks and never exceeds the larger
of its default and its maximal size; and no section faults, except for an attach that finds no free
index after the expansion. -/
theorem slotTable_invariant (opt : ContainerOption) (hd : opt.defaultContainerSize < 2 ^ 32)
    (hm : opt.maxContainerSize < 2 ^ 32) (start : Int) (s : SlotState κ)
    (hs : (slotMachine opt start).Reachable s) :
    (s.table.freeIndexList.Nodup ∧
      ∀ i, i ∈ s.table.freeIndexList ↔ i < s.table.mgr.length ∧ s.table.connection i = none) ∧
    ((∀ i, s.table.Live i → ∃! e, e ∈ s.table.timeoutRecords.entries ∧ e.val = i) ∧
      (∀ e ∈ s.table.timeoutRecords.entries, s.table.Live e.val) ∧
      ∀ i c it, s.table.mgr[i]? = some (some c, it) →
        ∃ e ∈ s.table.timeoutRecords.entries, e.val = i ∧ it = .node e.id) ∧
    (s.table.mgr.length ≤ max opt.defaultContainerSize opt.maxContainerSize ∧
      ∀ a s', (slotMachine opt start).step s a = some s' →
        s.table.mgr.length ≤ s'.table.mgr.length) ∧
    ∀ a : SlotAction κ, a.InRange s → ∀ f, s.exec opt a = .error f →
      f = .emptyFreeList ∧ ∃ con now, a = .attach con now := by
  obtain ⟨hinv, hlen⟩ := slotMachine_inv hd hm hs
  refine ⟨⟨hinv.free_nodup, ?_⟩, ⟨fun i hi => hinv.existsUnique_record hi, ?_,
    hinv.slot_record⟩, ⟨hlen, ?_⟩, ?_⟩
  · intro i
    rw [hinv.mem_free]
    constructor
    · rintro ⟨it, hslot⟩
      exact ⟨(List.getElem?_eq_some_iff.mp hslot).1, by rw [SlotTable.connection, hslot]; rfl⟩
    · rintro ⟨hi, hnone⟩
      rw [SlotTable.connection, List.getElem?_eq_getElem hi, Option.bind_some] at hnone
      refine ⟨s.table.mgr[i].2, ?_⟩
      rw [List.getElem?_eq_getElem hi, ← hnone]
  · intro e he
    obtain ⟨c, hslot⟩ := hinv.record_slot e he
    exact SlotTable.live_iff.mpr ⟨c, _, hslot⟩
  · intro a s' hstep
    have hexec : s.exec opt a = .ok s' := eq_ok_of_toOption hstep
    rcases SlotState.exec_spec hm hinv (SlotAction.inRange_of_exec hexec) with
      ⟨s₁, he, -, hle, -⟩ | ⟨he, -⟩
    · rw [hexec, Except.ok.injEq] at he
      subst he
      exact hle
    · rw [hexec] at he
      cases he
  · intro a ha f hf
    rcases SlotState.exec_spec hm hinv ha with ⟨s₁, he, -⟩ | ⟨he, hattach⟩
    · rw [hf] at he; cases he
    · rw [hf, Except.error.injEq] at he
      exact ⟨he, hattach⟩

/-- A table of one slot that grows to two, after two attaches. -/
theorem slotTable_invariant_two_attaches :
    ∃ s : SlotState Nat,
      (slotMachine { defaultContainerSize := 1, maxContainerSize := 2 } 0).run
        (slotMachine { defaultContainerSize := 1, maxContainerSize := 2 } 0).init
        [.attach 7 5, .attach 8 6] = some s ∧
      s.table.connection 1 = some 8 ∧ ∃! e, e ∈ s.table.timeoutRecords.entries ∧ e.val = 1 := by
  obtain ⟨s, hrun, hcon⟩ : ∃ s : SlotState Nat,
      (slotMachine { defaultContainerSize := 1, maxContainerSize := 2 } 0).run
        (slotMachine { defaultContainerSize := 1, maxContainerSize := 2 } 0).init
        [.attach 7 5, .attach 8 6] = some s ∧ s.table.connection 1 = some 8 := ⟨_, rfl, rfl⟩
  refine ⟨s, hrun, hcon, ?_⟩
  exact (slotTable_invariant { defaultContainerSize := 1, maxContainerSize := 2 } (by decide)
    (by decide) 0 s (Machine.reachable_of_run hrun)).2.1.1 1 (by rw [SlotTable.Live, hcon]; simp)

end RaptorLite
