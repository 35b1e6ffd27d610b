import RaptorLite.Common.SlotTableRuns
import RaptorLite.Foundations.Refinement

/-! # What the slot table is for

A container keeps its connections in a registry: a partial map from indices to connections, each with the
time at which it is closed if nothing is heard from it. `Registry` says this without slots, free list,
iterators or timeout records. The locked sections of `ContainerImpl` (`common/container_impl.cc`), with the
values they return, implement it: in every run the replies are those of the registry. -/

namespace RaptorLite

variable {κ : Type}

/-! ### The abstract registry -/

/-- The connections by index, with their deadlines. -/
abbrev Registry (κ : Type) := Nat → Option (κ × Int)

/-- The calls: the locked sections, and `GetConnection`. -/
inductive SlotCall (κ : Type) where
  /-- A section that may change the table. -/
  | run (a : SlotAction κ)
  /-- `GetConnection(index)`. -/
  | getConnection (index : Nat)

/-- What a call returns. -/
inductive SlotReply (κ : Type) where
  /-- `AttachEndpointImpl`: the index, none when the limit is reached. -/
  | attached (index : Option Nat)
  /-- `DeleteConnection` and `RefreshTime`. -/
  | done
  /-- `OnTimeoutCheck`: the connections that were shut down, in order. -/
  | closed (cons : List κ)
  /-- `GetConnection`: the connection, if any. -/
  | found (con : Option κ)

/-- The connections that a check at this time closes: those at the indices whose deadline has passed, the
earliest deadline first. -/
structure Registry.Closes (r : Registry κ) (now : Int) (indices : List Nat) (cons : List κ) : Prop where
  /-- Each index once. -/
  nodup : indices.Nodup
  /-- The indices whose deadline has passed. -/
  mem_iff : ∀ i, i ∈ indices ↔ ∃ p, r i = some p ∧ p.2 ≤ now
  /-- In the order of their deadlines. -/
  ordered : indices.Pairwise fun i j => ∀ p q, r i = some p → r j = some q → p.2 ≤ q.2
  /-- The connections at these indices. -/
  cons_eq : cons.map some = indices.map fun i => (r i).map Prod.fst

/-- The steps of the registry; the second component is the time of the last check. -/
inductive Registry.Step (opt : ContainerOption) :
    Registry κ × Int → SlotCall κ → SlotReply κ → Registry κ × Int → Prop
  /-- No index is vacant below a bound that is not less than the limit. -/
  | refused {r : Registry κ} {last now : Int} {con : κ} {size : Nat} :
      opt.maxContainerSize ≤ size → (∀ i < size, r i ≠ none) →
      Step opt (r, last) (.run (.attach con now)) (.attached none) (r, last)
  /-- The connection goes to a vacant index. -/
  | attached {r : Registry κ} {last now : Int} {con : κ} {i : Nat} : r i = none →
      Step opt (r, last) (.run (.attach con now)) (.attached (some i))
        (Function.update r i (some (con, deadlineLine opt now)), last)
  /-- The index is vacant afterwards. -/
  | deleted {r : Registry κ} {last : Int} {i : Nat} :
      Step opt (r, last) (.run (.deleteConnection i)) .done (Function.update r i none, last)
  /-- A connection at the index gets a new deadline. -/
  | refreshed {r : Registry κ} {last now : Int} {i : Nat} :
      Step opt (r, last) (.run (.refreshTime i now)) .done
        (Function.update r i ((r i).map fun p => (p.1, deadlineLine opt now)), last)
  /-- Checks are at least 3 s apart. -/
  | early {r : Registry κ} {last now : Int} : now - last < 3000 →
      Step opt (r, last) (.run (.onTimeoutCheck now)) (.closed []) (r, last)
  /-- A check removes the connections it closes. -/
  | checked {r : Registry κ} {last now : Int} {indices : List Nat} {cons : List κ} :
      ¬ now - last < 3000 → r.Closes now indices cons →
      Step opt (r, last) (.run (.onTimeoutCheck now)) (.closed cons)
        (fun i => (r i).filter fun p => now < p.2, now)
  /-- A look at an index. -/
  | found {r : Registry κ} {last : Int} {i : Nat} :
      Step opt (r, last) (.getConnection i) (.found ((r i).map Prod.fst)) (r, last)

/-- The registry of a container that was initialised at this time. -/
def registrySpec (opt : ContainerOption) (start : Int) :
    Spec (Registry κ × Int) (SlotCall κ) (SlotReply κ) where
  init := (fun _ => none, start)
  step := Registry.Step opt

/-! ### The slot table as a process -/

/-- A call with its reply. -/
def SlotState.call (opt : ContainerOption) (s : SlotState κ) :
    SlotCall κ → Except Fault (SlotState κ × SlotReply κ)
  | .run (.attach con now) =>
      (s.table.attach opt con (deadlineLine opt now)).map fun r => ({ s with table := r.2 }, .attached r.1)
  | .run (.deleteConnection index) =>
      (s.table.deleteConnection index).map fun t => ({ s with table := t }, .done)
  | .run (.refreshTime index now) =>
      (s.table.refreshTime index (deadlineLine opt now)).map fun t => ({ s with table := t }, .done)
  | .run (.onTimeoutCheck now) =>
      if now - s.lastCheckTime < 3000 then .ok (s, .closed [])
      else (s.table.timeoutSweep now).map fun r => ({ table := r.1, lastCheckTime := now }, .closed r.2)
  | .getConnection index => (s.table.getConnection index).map fun con => (s, .found con)

/-- The locked sections of a container that was initialised at this time. -/
def slotProcess (opt : ContainerOption) (start : Int) :
    Process (SlotState κ) (SlotCall κ) (SlotReply κ) where
  init := { table := .init opt, lastCheckTime := start }
  step s a := (s.call opt a).toOption

/-- The calls change the state as the steps of the slot machine do. -/
theorem SlotState.call_run (opt : ContainerOption) (s : SlotState κ) (a : SlotAction κ) :
    (s.call opt (.run a)).map Prod.fst = s.exec opt a := by
  cases a with
  | attach con now =>
      rw [call, exec]
      cases s.table.attach opt con (deadlineLine opt now) <;> rfl
  | deleteConnection index =>
      rw [call, exec]
      cases s.table.deleteConnection index <;> rfl
  | refreshTime index now =>
      rw [call, exec]
      cases s.table.refreshTime index (deadlineLine opt now) <;> rfl
  | onTimeoutCheck now =>
      rw [call, exec]
      split
      · rfl
      · cases s.table.timeoutSweep now <;> rfl

/-! ### How a table stands for a registry -/

/-- The table holds the connections of the registry, and its records their deadlines. -/
def Represents (t : SlotTable κ) (r : Registry κ) : Prop :=
  ∀ i c d, r i = some (c, d) ↔
    t.connection i = some c ∧ ∃ e ∈ t.timeoutRecords.entries, e.val = i ∧ e.key = d

section Represents

variable {t t' : SlotTable κ} {r : Registry κ}

/-- What is read from a slot is what the registry holds. -/
theorem Represents.connection_eq (h : Represents t r) (hinv : t.Inv) (i : Nat) :
    t.connection i = (r i).map Prod.fst := by
  cases hr : r i with
  | some p => exact ((h i p.1 p.2).mp hr).1
  | none =>
      by_contra hlive
      obtain ⟨c, hc⟩ := Option.ne_none_iff_exists'.mp hlive
      obtain ⟨e, ⟨he, hval⟩, -⟩ := hinv.existsUnique_record (i := i) hlive
      have hsome := (h i c e.key).mpr ⟨hc, e, he, hval, rfl⟩
      rw [hr] at hsome
      cases hsome

/-- A record belongs to the connection at its index. -/
theorem Represents.of_record (h : Represents t r) (hinv : t.Inv) {e : MapEntry Int Nat}
    (he : e ∈ t.timeoutRecords.entries) : ∃ c, r e.val = some (c, e.key) := by
  obtain ⟨c, hslot⟩ := hinv.record_slot e he
  exact ⟨c, (h e.val c e.key).mpr ⟨SlotTable.connection_eq_some_iff.mpr ⟨_, hslot⟩, e, he, rfl, rfl⟩⟩

/-- A table that has changed at one index stands for the registry changed there. -/
theorem Represents.update (h : Represents t r) {i : Nat} {v : Option (κ × Int)}
    (hcon : ∀ j, j ≠ i → t'.connection j = t.connection j)
    (hrecords : ∀ e, e.val ≠ i → (e ∈ t'.timeoutRecords.entries ↔ e ∈ t.timeoutRecords.entries))
    (hnew : ∀ c d, v = some (c, d) ↔
      t'.connection i = some c ∧ ∃ e ∈ t'.timeoutRecords.entries, e.val = i ∧ e.key = d) :
    Represents t' (Function.update r i v) := by
  intro j c d
  by_cases hj : j = i
  · subst hj
    rw [Function.update_self]
    exact hnew c d
  · rw [Function.update_of_ne hj, h j c d, hcon j hj]
    refine and_congr_right fun _ => exists_congr fun e => ?_
    constructor
    · rintro ⟨he, hval, hkey⟩
      exact ⟨(hrecords e (by rw [hval]; exact hj)).mpr he, hval, hkey⟩
    · rintro ⟨he, hval, hkey⟩
      exact ⟨(hrecords e (by rw [hval]; exact hj)).mp he, hval, hkey⟩

/-- A vacant slot stays so when the registry has nothing there to change. -/
theorem Represents.update_vacant (h : Represents t r) (hinv : t.Inv) {i : Nat}
    (hvacant : t.connection i = none) {v : Option (κ × Int)} (hv : r i = none → v = none) :
    Represents t (Function.update r i v) := by
  rw [h.connection_eq hinv, Option.map_eq_none_iff] at hvacant
  rw [hv hvacant, ← hvacant, Function.update_eq_self]
  exact h

/-- `AttachEndpointImpl` with an index. -/
theorem Represents.attach (h : Represents t r) {opt : ContainerOption} {con : κ} {deadline : Int} {i : Nat}
    (hinv' : t'.Inv) (hattach : t.attach opt con deadline = .ok (some i, t')) :
    Represents t' (Function.update r i (some (con, deadline))) := by
  obtain ⟨-, -, hcon⟩ := SlotTable.attach_ok hattach
  obtain ⟨t₁, rest, ht₁, -, -, rfl⟩ := SlotTable.attach_some hattach
  have hrecords : t₁.timeoutRecords = t.timeoutRecords := by
    rcases ht₁ with ⟨rfl, -⟩ | ⟨rfl, -, -⟩
    · rfl
    · rfl
  have hlive := hcon i
  rw [if_pos rfl] at hlive
  refine h.update ?_ ?_ ?_
  · intro j hj
    rw [hcon j, if_neg hj]
  · intro e he
    dsimp only
    rw [OrderedMultimap.mem_insert, hrecords]
    constructor
    · rintro (rfl | hold)
      · exact absurd rfl he
      · exact hold
    · exact Or.inr
  · intro c d
    have hmem : (⟨t₁.timeoutRecords.next, deadline, i⟩ : MapEntry Int Nat) ∈
        (t₁.timeoutRecords.insert deadline i).entries := OrderedMultimap.mem_insert.mpr (Or.inl rfl)
    rw [hlive]
    constructor
    · rintro ⟨rfl, rfl⟩
      exact ⟨rfl, _, hmem, rfl, rfl⟩
    · rintro ⟨hc, e, he, hval, rfl⟩
      cases hc
      -- the only record of the slot is the new one
      obtain ⟨f, -, hunique⟩ := hinv'.existsUnique_record (i := i)
        (by rw [SlotTable.Live, hlive]; exact Option.some_ne_none con)
      rw [hunique e ⟨he, hval⟩, ← hunique _ ⟨hmem, rfl⟩]

/-- `DeleteConnection`. -/
theorem Represents.deleteConnection (h : Represents t r) (hinv : t.Inv) {i : Nat}
    (hdelete : t.deleteConnection i = .ok t') : Represents t' (Function.update r i none) := by
  obtain ⟨⟨con, it⟩, hslot⟩ : ∃ v, t.mgr[i]? = some v :=
    ⟨_, List.getElem?_eq_getElem (SlotTable.lt_of_deleteConnection hdelete)⟩
  have hlt := SlotTable.lt_of_deleteConnection hdelete
  simp only [SlotTable.deleteConnection, hslot] at hdelete
  cases con with
  | none =>
      cases hdelete
      exact h.update_vacant hinv (by rw [SlotTable.connection, hslot]; rfl) fun _ => rfl
  | some c =>
      obtain ⟨t₁, hrel, -, hmgr, -, hentries⟩ := hinv.releaseSlot hslot
      simp only [hrel, Except.ok.injEq] at hdelete
      subst hdelete
      refine h.update ?_ ?_ ?_
      · intro j hj
        rw [SlotTable.connection, SlotTable.connection, hmgr, SlotTable.getElem?_set_slot hlt, if_neg hj]
      · intro e he
        rw [hentries, SlotTable.mem_filter_val_ne, and_iff_left he]
      · intro c' d
        rw [SlotTable.connection, hmgr, SlotTable.getElem?_set_slot hlt, if_pos rfl]
        simp

/-- `RefreshTime`. -/
theorem Represents.refreshTime (h : Represents t r) (hinv : t.Inv) {i : Nat} {deadline : Int}
    (hrefresh : t.refreshTime i deadline = .ok t') :
    Represents t' (Function.update r i ((r i).map fun p => (p.1, deadline))) := by
  have hlt := SlotTable.lt_of_refreshTime hrefresh
  obtain ⟨⟨con, it⟩, hslot⟩ : ∃ v, t.mgr[i]? = some v := ⟨_, List.getElem?_eq_getElem hlt⟩
  have hcon := h.connection_eq hinv i
  rw [SlotTable.connection, hslot, Option.bind_some] at hcon
  simp only [SlotTable.refreshTime, hslot] at hrefresh
  cases con with
  | none =>
      cases hrefresh
      refine h.update_vacant hinv (by rw [SlotTable.connection, hslot]; rfl) fun hnone => ?_
      rw [hnone, Option.map_none]
  | some c =>
      obtain ⟨records, herase, hentries⟩ := hinv.erase_record hslot
      simp only [herase, Except.ok.injEq] at hrefresh
      subst hrefresh
      obtain ⟨p, hp, hpc⟩ := Option.map_eq_some_iff.mp hcon.symm
      refine h.update ?_ ?_ ?_
      · intro j hj
        rw [SlotTable.connection, SlotTable.connection, SlotTable.getElem?_set_slot hlt, if_neg hj]
      · intro e he
        dsimp only
        rw [OrderedMultimap.mem_insert, hentries, SlotTable.mem_filter_val_ne, and_iff_left he]
        constructor
        · rintro (rfl | hold)
          · exact absurd rfl he
          · exact hold
        · exact Or.inr
      · intro c' d
        rw [hp, Option.map_some, SlotTable.connection, SlotTable.getElem?_set_slot hlt, if_pos rfl, hpc,
          Option.bind_some, Option.some.injEq, Prod.mk.injEq, Option.some.injEq]
        refine and_congr_right fun _ => ?_
        constructor
        · rintro rfl
          exact ⟨_, OrderedMultimap.mem_insert.mpr (Or.inl rfl), rfl, rfl⟩
        · rintro ⟨e, he, hval, rfl⟩
          rcases OrderedMultimap.mem_insert.mp he with rfl | he
          · rfl
          · rw [hentries] at he
            exact absurd hval (SlotTable.mem_filter_val_ne.mp he).2

/-- A refused attach finds every slot used. -/
theorem Represents.refused (h : Represents t r) (hinv : t.Inv) {opt : ContainerOption} {con : κ}
    {deadline : Int} (hattach : t.attach opt con deadline = .ok (none, t')) :
    t' = t ∧ opt.maxContainerSize ≤ t.mgr.length ∧ ∀ i < t.mgr.length, r i ≠ none := by
  rcases SlotTable.attach_cases opt t con deadline with ⟨hfree, hfull, he⟩ | ⟨t₁, -, he⟩
  · rw [hattach, Except.ok.injEq, Prod.mk.injEq] at he
    refine ⟨he.2, hfull, ?_⟩
    intro i hi hnone
    have hvacant := h.connection_eq hinv i
    rw [hnone, Option.map_none, SlotTable.connection, List.getElem?_eq_getElem hi, Option.bind_some] at hvacant
    have hmem := (hinv.mem_free i).mpr ⟨t.mgr[i].2, by rw [List.getElem?_eq_getElem hi, ← hvacant]⟩
    rw [hfree] at hmem
    cases hmem
  · rcases he with ⟨-, he⟩ | ⟨index, rest, -, ⟨-, he⟩ | ⟨-, he⟩⟩
    · rw [hattach] at he
      cases he
    · rw [hattach] at he
      cases he
    · rw [hattach] at he
      cases he

/-- `OnTimeoutCheck`. -/
theorem Represents.sweeps (h : Represents t r) (hinv : t.Inv) {now : Int} {cons : List κ}
    (hsweeps : SlotTable.Sweeps now t t' cons) :
    Represents t' (fun i => (r i).filter fun p => now < p.2) ∧
      r.Closes now ((t.expired now).map MapEntry.val) cons := by
  refine ⟨?_, ?_, ?_, ?_, ?_⟩
  · intro i c d
    -- what has a later deadline stays
    have hkept : ∀ e ∈ t.timeoutRecords.entries, e.val = i → now < e.key → t'.connection i = t.connection i := by
      rintro e he rfl hlater
      rw [SlotTable.connection, hsweeps.slots, if_neg (mt (hinv.mem_expired_iff he).mp (not_le.mpr hlater)),
        SlotTable.connection]
    rw [Option.filter_eq_some_iff, h i c d, decide_eq_true_iff]
    constructor
    · rintro ⟨⟨hc, e, he, hval, rfl⟩, hlater⟩
      refine ⟨by rw [hkept e he hval hlater, hc], e, ?_, hval, rfl⟩
      rw [hsweeps.entries]
      exact List.mem_filter.mpr ⟨he, decide_eq_true hlater⟩
    · rintro ⟨hc, e, he, hval, rfl⟩
      rw [hsweeps.entries] at he
      obtain ⟨he, hlater⟩ := List.mem_filter.mp he
      rw [hkept e he hval (of_decide_eq_true hlater)] at hc
      exact ⟨⟨hc, e, he, hval, rfl⟩, of_decide_eq_true hlater⟩
  · have hnodup := hsweeps.inv.free_nodup
    rw [hsweeps.free] at hnodup
    exact (List.nodup_append.mp hnodup).2.1
  · intro i
    constructor
    · intro hi
      obtain ⟨e, he, rfl⟩ := List.mem_map.mp hi
      obtain ⟨he, hdue⟩ := List.mem_filter.mp he
      obtain ⟨c, hc⟩ := h.of_record hinv he
      exact ⟨(c, e.key), hc, of_decide_eq_true hdue⟩
    · rintro ⟨p, hp, hdue⟩
      obtain ⟨-, e, he, rfl, hkey⟩ := (h i p.1 p.2).mp hp
      exact (hinv.mem_expired_iff he).mpr (by rw [hkey]; exact hdue)
  · rw [List.pairwise_map]
    refine (t.timeoutRecords.sorted.sublist List.filter_sublist).imp_of_mem ?_
    intro e f he hf hle p q hp hq
    obtain ⟨c, hc⟩ := h.of_record hinv (List.mem_filter.mp he).1
    obtain ⟨c', hc'⟩ := h.of_record hinv (List.mem_filter.mp hf).1
    rw [hc, Option.some.injEq] at hp
    rw [hc', Option.some.injEq] at hq
    rw [← hp, ← hq]
    exact hle
  · rw [hsweeps.taken, List.map_map]
    exact List.map_congr_left fun e _ => h.connection_eq hinv e.val

end Represents

/-! ### The refinement -/

/-- The state of the table stands for the state of the registry. -/
structure SlotState.Stands (s : SlotState κ) (r : Registry κ × Int) : Prop where
  /-- The table is in order. -/
  inv : s.table.Inv
  /-- It holds what the registry holds. -/
  represents : Represents s.table r.1
  /-- The time of the last check. -/
  last : s.lastCheckTime = r.2

/-- **One call** on the table is a step of the registry with the same reply. -/
theorem SlotState.Stands.call {opt : ContainerOption} (hm : opt.maxContainerSize < 2 ^ 32)
    {s s' : SlotState κ} {r : Registry κ × Int} (h : s.Stands r) {a : SlotCall κ} {reply : SlotReply κ}
    (hcall : s.call opt a = .ok (s', reply)) : ∃ r', Registry.Step opt r a reply r' ∧ s'.Stands r' := by
  obtain ⟨reg, last⟩ := r
  obtain ⟨hinv, hrep, hlast⟩ := h
  cases a with
  | getConnection index =>
      cases hget : s.table.getConnection index with
      | error f =>
          rw [SlotState.call, hget] at hcall
          cases hcall
      | ok con =>
          rw [SlotState.call, hget] at hcall
          cases hcall
          have hcon := SlotTable.getConnection_eq_ok hget
          have heq := hrep.connection_eq hinv index
          rw [← hcon, heq]
          exact ⟨_, .found, hinv, hrep, hlast⟩
  | run a =>
      cases a with
      | attach con now =>
          cases hattach : s.table.attach opt con (deadlineLine opt now) with
          | error f =>
              rw [SlotState.call, hattach] at hcall
              cases hcall
          | ok result =>
              rw [SlotState.call, hattach] at hcall
              cases hcall
              obtain ⟨index, t'⟩ := result
              cases index with
              | none =>
                  obtain ⟨rfl, hfull, hused⟩ := hrep.refused hinv hattach
                  exact ⟨_, .refused hfull hused, hinv, hrep, hlast⟩
              | some i =>
                  obtain ⟨hinv', hvacant, -⟩ := hinv.attach_vacant hm hattach
                  rw [hrep.connection_eq hinv, Option.map_eq_none_iff] at hvacant
                  exact ⟨_, .attached hvacant, hinv', hrep.attach hinv' hattach, hlast⟩
      | deleteConnection index =>
          cases hdelete : s.table.deleteConnection index with
          | error f =>
              rw [SlotState.call, hdelete] at hcall
              cases hcall
          | ok t' =>
              rw [SlotState.call, hdelete] at hcall
              cases hcall
              exact ⟨_, .deleted, hinv.of_deleteConnection hdelete, hrep.deleteConnection hinv hdelete, hlast⟩
      | refreshTime index now =>
          cases hrefresh : s.table.refreshTime index (deadlineLine opt now) with
          | error f =>
              rw [SlotState.call, hrefresh] at hcall
              cases hcall
          | ok t' =>
              rw [SlotState.call, hrefresh] at hcall
              cases hcall
              exact ⟨_, .refreshed, hinv.of_refreshTime hrefresh, hrep.refreshTime hinv hrefresh, hlast⟩
      | onTimeoutCheck now =>
          rw [SlotState.call] at hcall
          dsimp only at hlast
          rw [hlast] at hcall
          by_cases hearly : now - last < 3000
          · rw [if_pos hearly] at hcall
            cases hcall
            exact ⟨_, .early hearly, hinv, hrep, hlast⟩
          · obtain ⟨t', cons, hsweep, hsweeps⟩ := hinv.sweeps now
            rw [if_neg hearly, hsweep] at hcall
            cases hcall
            obtain ⟨hrep', hcloses⟩ := hrep.sweeps hinv hsweeps
            exact ⟨_, .checked hearly hcloses, hsweeps.inv, hrep', rfl⟩

/-- **The slot table implements the registry.** Whatever sections are run under `_conn_mtx` after `Init`, in
whatever order and at whatever times, as far as each of them returns (`run` gives a state: none meets a
`Fault`) and with both configured sizes below `2 ^ 32`: the indices that
`AttachEndpointImpl` returns, its refusals, the connections that `GetConnection` returns and those that
`OnTimeoutCheck` closes, with their order, are replies of a registry that maps indices to connections with
deadlines; and the table then holds what the registry holds. -/
theorem slotTable_refines_registry (opt : ContainerOption) (hd : opt.defaultContainerSize < 2 ^ 32)
    (hm : opt.maxContainerSize < 2 ^ 32) (start : Int) (calls : List (SlotCall κ)) (s : SlotState κ)
    (replies : List (SlotCall κ × SlotReply κ))
    (hrun : (slotProcess opt start).run (slotProcess opt start).init calls = some (s, replies)) :
    ∃ r, (registrySpec opt start).Trace (fun _ => none, start) replies r ∧
      (∀ i, s.table.connection i = (r.1 i).map Prod.fst) ∧
      ∀ i c d, r.1 i = some (c, d) ↔
        s.table.connection i = some c ∧ ∃ e ∈ s.table.timeoutRecords.entries, e.val = i ∧ e.key = d := by
  have hsim : Simulation (slotProcess opt start) (registrySpec opt start)
      (SlotState.Stands : SlotState κ → Registry κ × Int → Prop) := by
    refine ⟨⟨SlotTable.inv_init (Nat.le_of_lt hd), ?_, rfl⟩, ?_⟩
    · intro i c d
      simp [slotProcess, registrySpec, SlotTable.init]
    · intro s r a s' reply h hstep
      exact h.call hm (eq_ok_of_toOption hstep)
  obtain ⟨r, htrace, hstands⟩ := hsim.trace hrun
  exact ⟨r, htrace, hstands.represents.connection_eq hstands.inv, hstands.represents⟩

/-- A table of one slot: the first connection is deleted, and the second takes its index. -/
theorem slotTable_refines_registry_reused_index :
    ∃ r, (registrySpec { defaultContainerSize := 1, maxContainerSize := 1 } 0).Trace (fun _ => none, 0)
      [(.run (.attach 7 5), .attached (some 0)), (.run (.attach 8 6), .attached none),
        (.run (.deleteConnection 0), .done), (.run (.attach 9 7), .attached (some 0)),
        (.getConnection 0, .found (some 9))] r ∧ (r.1 0).map Prod.fst = some 9 := by
  obtain ⟨s, hrun, hcon⟩ : ∃ s : SlotState Nat,
      (slotProcess { defaultContainerSize := 1, maxContainerSize := 1 } 0).run
        (slotProcess { defaultContainerSize := 1, maxContainerSize := 1 } 0).init
        [.run (.attach 7 5), .run (.attach 8 6), .run (.deleteConnection 0), .run (.attach 9 7),
          .getConnection 0]
      = some (s, [(.run (.attach 7 5), .attached (some 0)), (.run (.attach 8 6), .attached none),
          (.run (.deleteConnection 0), .done), (.run (.attach 9 7), .attached (some 0)),
          (.getConnection 0, .found (some 9))]) ∧ s.table.connection 0 = some 9 := ⟨_, rfl, rfl⟩
  obtain ⟨r, htrace, hread, -⟩ := slotTable_refines_registry
    { defaultContainerSize := 1, maxContainerSize := 1 } (by decide) (by decide) 0 _ s _ hrun
  exact ⟨r, htrace, by rw [← hread 0, hcon]⟩

end RaptorLite
