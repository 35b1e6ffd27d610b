import Mathlib.Data.Multiset.AddSub
import RaptorLite.Utils.Timer

/-! # What becomes of timers

Where the worker can be and what each of its steps does. From this: every timer that was set is in the queue, in the
table, or was fired or dropped, each in exactly one of them; the rounds fire what is due, in the order of the
deadlines and at most three at a time. -/

namespace RaptorLite

namespace TimerState

/-! ### The head of the inner loop

Between two steps of the inner loop nobody else touches `_tbls`, so that the iterator is at the beginning
of what is left of it and the iteration consumes the table from its front. -/

/-- The iteration ends where the table is empty. -/
theorem scan_empty {s : TimerState} {begin current : Int} {count : Nat}
    (h : s.timer.tbls.entries = []) :
    s.scan begin current count s.timer.tbls.begin = some { s with pc := .pace begin current count } := by
  rw [scan, if_pos (OrderedMultimap.begin_eq_pastEnd_iff.mpr h)]

/-- The iteration ends at a timer that is not due yet. -/
theorem scan_later {s : TimerState} {begin current : Int} {count : Nat} {e : MapEntry Int UInt64}
    {rest : List (MapEntry Int UInt64)} (h : s.timer.tbls.entries = e :: rest) (hlt : begin < e.key) :
    s.scan begin current count s.timer.tbls.begin = some { s with pc := .pace begin current count } := by
  have hne : s.timer.tbls.begin ≠ .pastEnd := by
    rw [Ne, OrderedMultimap.begin_eq_pastEnd_iff, h]
    exact List.cons_ne_nil e rest
  rw [scan, if_neg hne, OrderedMultimap.deref_begin h]
  simp [hlt]

/-- A due timer at the front leaves the table and is fired. -/
theorem scan_due {s : TimerState} {begin current : Int} {count : Nat} {e : MapEntry Int UInt64}
    {rest : List (MapEntry Int UInt64)} (h : s.timer.tbls.entries = e :: rest) (hle : e.key ≤ begin) :
    ∃ tbls : OrderedMultimap Int UInt64, tbls.entries = rest ∧
      s.scan begin current count s.timer.tbls.begin = some { s with
        timer := { s.timer with tbls := tbls }
        pc := .callback begin count tbls.begin (tidHigh e.val) (tidLow e.val)
        current := { s.current with fired := s.current.fired ++ [TimerRecord.ofEntry e] } } := by
  have hne : s.timer.tbls.begin ≠ .pastEnd := by
    rw [Ne, OrderedMultimap.begin_eq_pastEnd_iff, h]
    exact List.cons_ne_nil e rest
  obtain ⟨tbls, herase, hentries⟩ := OrderedMultimap.erase_begin h
  refine ⟨tbls, hentries, ?_⟩
  -- behind the first entry of the old table is the first entry of the new one
  have hnext : OrderedMultimap.nextIter e.id s.timer.tbls.entries = tbls.begin :=
    OrderedMultimap.nextIter_begin (by rw [h, hentries])
  rw [scan, if_neg hne, OrderedMultimap.deref_begin h]
  simp [not_lt.mpr hle, herase, hnext]

/-- What the head of the inner loop can do when the iterator is at the beginning of the table: leave the
loop, or fire the first timer. -/
theorem scan_cases {s s' : TimerState} {begin current : Int} {count : Nat}
    (h : s.scan begin current count s.timer.tbls.begin = some s') :
    s' = { s with pc := .pace begin current count } ∨
    ∃ e tbls, s.timer.tbls.entries = e :: tbls.entries ∧ e.key ≤ begin ∧
      s' = { s with
        timer := { s.timer with tbls := tbls }
        pc := .callback begin count tbls.begin (tidHigh e.val) (tidLow e.val)
        current := { s.current with fired := s.current.fired ++ [TimerRecord.ofEntry e] } } := by
  cases hentries : s.timer.tbls.entries with
  | nil =>
      rw [scan_empty hentries] at h
      exact Or.inl (Option.some.inj h).symm
  | cons e rest =>
      by_cases hlt : begin < e.key
      · rw [scan_later hentries hlt] at h
        exact Or.inl (Option.some.inj h).symm
      · obtain ⟨tbls, rfl, hscan⟩ := @scan_due s begin current count e rest hentries
          (not_lt.mp hlt)
        rw [hscan] at h
        exact Or.inr ⟨e, tbls, rfl, not_lt.mp hlt, (Option.some.inj h).symm⟩

/-! ### Where the worker can be -/

/-- Between two steps of the inner loop: the local variables agree with the history, the iterator is at
the beginning of the table, and the table is what the iteration has not fired. -/
structure Scanning (s : TimerState) (begin : Int) (count : Nat) (it : MapIter) : Prop where
  /-- The begin time is that of the current iteration. -/
  begin : begin = s.current.begin
  /-- `timer_count` counts the timers fired. -/
  count : count = s.current.fired.length
  /-- The iterator is at the beginning of the table. -/
  front : it = s.timer.tbls.begin
  /-- What is not fired stays in the table. -/
  table : s.current.table = s.current.fired ++ s.tabled

/-- The local variables of the worker agree with the shared state. -/
def PlaceOk (s : TimerState) : Prop :=
  match s.pc with
  | .scan begin _ count it => s.Scanning begin count it ∧ count < timerBatch
  | .callback begin count it _ _ => s.Scanning begin (count + 1) it ∧ count < timerBatch
  | .pace _ _ _ => s.current.table = s.current.fired ++ s.tabled
  | _ => True

end TimerState

/-- What holds of every iteration: it fires a prefix of the table, which is in order, nothing before its
deadline and at most three timers. -/
structure TimerRound.Legal (r : TimerRound) : Prop where
  /-- The table is in deadline order. -/
  sorted : r.table.Pairwise fun a b => a.deadline ≤ b.deadline
  /-- The front of the table is fired. -/
  front : r.fired <+: r.table
  /-- Nothing is fired early. -/
  due : ∀ t ∈ r.fired, t.deadline ≤ r.begin
  /-- The batch limit. -/
  batch : r.fired.length ≤ timerBatch

/-- Timers are fired in deadline order. -/
theorem TimerRound.Legal.fired_sorted {r : TimerRound} (h : r.Legal) :
    r.fired.Pairwise fun a b => a.deadline ≤ b.deadline :=
  h.sorted.sublist h.front.sublist

namespace TimerState

/-- A scan is not disturbed while `_tbls` and the current iteration stay as they are. -/
theorem Scanning.congr {s t : TimerState} {begin : Int} {count : Nat} {it : MapIter}
    (h : s.Scanning begin count it) (htbls : t.timer.tbls = s.timer.tbls)
    (hcurrent : t.current = s.current) : t.Scanning begin count it := by
  have htabled : t.tabled = s.tabled := by rw [tabled, htbls, tabled]
  exact ⟨hcurrent ▸ h.begin, hcurrent ▸ h.count, htbls ▸ h.front, by
    rw [hcurrent, htabled, h.table]⟩

/-- What `PlaceOk` says depends on the worker, the table and the iteration only. -/
theorem PlaceOk.congr {s t : TimerState} (h : s.PlaceOk) (hpc : t.pc = s.pc)
    (htbls : t.timer.tbls = s.timer.tbls) (hcurrent : t.current = s.current) : t.PlaceOk := by
  have htabled : t.tabled = s.tabled := by rw [tabled, htbls, tabled]
  rw [PlaceOk] at h
  rw [PlaceOk, hpc]
  split
  · next hpc =>
    rw [hpc] at h
    exact ⟨h.1.congr htbls hcurrent, h.2⟩
  · next hpc =>
    rw [hpc] at h
    exact ⟨h.1.congr htbls hcurrent, h.2⟩
  · next hpc =>
    rw [hpc] at h
    rw [hcurrent, htabled]
    exact h
  · trivial

/-- What the steps do when the local variables of the worker agree with the shared state. -/
inductive Effect (s : TimerState) : TimerAction → TimerState → Prop
  /-- A timer is queued, unless the timer is shut down. -/
  | setTimer (tid1 tid2 delayMs : UInt32) (now : Int) :
      Effect s (.setTimer tid1 tid2 delayMs now) (s.setTimer tid1 tid2 delayMs now)
  /-- The worker goes on or returns. -/
  | test (pc : TimerPc) (hpc : (pc = .returned ∧ s.timer.shutdown = true) ∨ pc = .pop) :
      Effect s .test { s with pc := pc }
  /-- The queue yields nothing. -/
  | popNull : Effect s (.pop false) { s with pc := .readBegin }
  /-- The oldest node goes into the table. -/
  | pop (n : TimerNode) (rest : List TimerNode) (hmq : s.timer.mq = n :: rest) :
      Effect s (.pop true) { s with
        timer := { s.timer with tbls := s.timer.tbls.insert n.deadLine n.tid, mq := rest }
        pc := .readBegin }
  /-- An iteration starts its scan. -/
  | readBegin (now : Int) :
      Effect s (.readBegin now) { s with
        pc := .scan now 0 0 s.timer.tbls.begin
        past := s.past ++ [s.current]
        current := { begin := now, table := s.tabled, fired := [] } }
  /-- The scan ends. -/
  | leave (begin current : Int) (count : Nat) (it : MapIter) (hpc : s.pc = .scan begin current count it) :
      Effect s .scan { s with pc := .pace begin current count }
  /-- The first timer of the table is fired. -/
  | fire (begin current : Int) (count : Nat) (it : MapIter) (e : MapEntry Int UInt64)
      (tbls : OrderedMultimap Int UInt64) (hpc : s.pc = .scan begin current count it)
      (hentries : s.timer.tbls.entries = e :: tbls.entries) (hdue : e.key ≤ begin) :
      Effect s .scan { s with
        timer := { s.timer with tbls := tbls }
        pc := .callback begin count tbls.begin (tidHigh e.val) (tidLow e.val)
        current := { s.current with fired := s.current.fired ++ [TimerRecord.ofEntry e] } }
  /-- A batch limit stops the scan. -/
  | cutOff (begin now : Int) (count : Nat) (it : MapIter) (tid1 tid2 : UInt32)
      (hpc : s.pc = .callback begin count it tid1 tid2) :
      Effect s (.callbackReturns now) { s with pc := .pace begin now (count + 1) }
  /-- The scan goes on. -/
  | resume (begin now : Int) (count : Nat) (it : MapIter) (tid1 tid2 : UInt32)
      (hpc : s.pc = .callback begin count it tid1 tid2) (hcount : count + 1 < timerBatch) :
      Effect s (.callbackReturns now) { s with pc := .scan begin now (count + 1) it }
  /-- The iteration ends. -/
  | pace (begin current : Int) (count : Nat) (hpc : s.pc = .pace begin current count) :
      Effect s .pace { s with
        pc := .loop, slept := s.slept ++ (Timer.sleepMs begin current count).toList }
  /-- The timer is told to stop. -/
  | shutdown : Effect s .shutdown { s with timer := { s.timer with shutdown := true } }
  /-- A queued timer is deleted behind the return of the worker. -/
  | drain (n : TimerNode) (rest : List TimerNode) (hpc : s.pc = .returned)
      (hmq : s.timer.mq = n :: rest) :
      Effect s .drain { s with
        timer := { s.timer with mq := rest }
        dropped := s.dropped ++ [n.record] }

/-- Every step has one of these effects. -/
theorem effect_of_exec {s s' : TimerState} {a : TimerAction} (hplace : s.PlaceOk)
    (h : s.exec a = some s') : s.Effect a s' := by
  cases a with
  | setTimer tid1 tid2 delayMs now =>
      cases h
      exact .setTimer tid1 tid2 delayMs now
  | test =>
      rw [exec, Option.ite_none_right_eq_some, Option.some.injEq] at h
      obtain ⟨-, rfl⟩ := h
      apply Effect.test
      by_cases hsh : s.timer.shutdown
      · exact Or.inl ⟨if_pos hsh, hsh⟩
      · exact Or.inr (if_neg hsh)
  | pop found =>
      simp only [exec, Option.ite_none_right_eq_some] at h
      obtain ⟨-, h⟩ := h
      cases found with
      | false =>
          cases h
          exact .popNull
      | true =>
          cases hmq : s.timer.mq with
          | nil =>
              rw [hmq] at h
              cases h
          | cons n rest =>
              rw [hmq] at h
              cases h
              exact .pop n rest hmq
  | readBegin now =>
      rw [exec, Option.ite_none_right_eq_some, Option.some.injEq] at h
      obtain ⟨-, rfl⟩ := h
      exact .readBegin now
  | scan =>
      rw [exec] at h
      split at h
      · next begin current count it hpc =>
        rw [PlaceOk, hpc] at hplace
        -- the only case that needs the place: the iterator is `_tbls.begin()`
        rw [hplace.1.front] at h
        rcases scan_cases h with rfl | ⟨e, tbls, hentries, hdue, rfl⟩
        · exact .leave begin current count it hpc
        · exact .fire begin current count it e tbls hpc hentries hdue
      · cases h
  | callbackReturns now =>
      rw [exec] at h
      split at h
      · next begin count it tid1 tid2 hpc =>
        split at h
        · cases h
          exact .cutOff begin now count it tid1 tid2 hpc
        · next hlimit =>
          cases h
          rw [not_or, not_le] at hlimit
          exact .resume begin now count it tid1 tid2 hpc hlimit.1
      · cases h
  | pace =>
      rw [exec] at h
      split at h
      · next begin current count hpc =>
        cases h
        exact .pace begin current count hpc
      · cases h
  | shutdown =>
      cases h
      exact .shutdown
  | drain =>
      simp only [exec] at h
      split at h
      · next n rest hpc hmq =>
        cases h
        exact .drain n rest hpc hmq
      · cases h

/-- The timers that are somewhere: queued, in the table, fired or dropped. -/
def accounted (s : TimerState) : List TimerRecord := s.queued ++ s.tabled ++ s.fired ++ s.dropped

/-- The table is in the order of the deadlines. -/
theorem tabled_sorted (s : TimerState) : s.tabled.Pairwise fun a b => a.deadline ≤ b.deadline := by
  rw [tabled, List.pairwise_map]
  exact s.timer.tbls.sorted

/-- What was fired was fired in an earlier iteration or in this one. -/
theorem fired_eq (s : TimerState) : s.fired = s.past.flatMap TimerRound.fired ++ s.current.fired := by
  rw [fired, rounds, List.flatMap_append, List.flatMap_singleton]

/-! ### Conservation -/

/-- The queue by its oldest timer. -/
theorem queued_cons {s : TimerState} {n : TimerNode} {rest : List TimerNode} (hmq : s.timer.mq = n :: rest) :
    s.queued = n.record :: rest.map TimerNode.record := by
  rw [queued, hmq, List.map_cons]

/-- The table by its first timer. -/
theorem tabled_cons {s : TimerState} {e : MapEntry Int UInt64} {tbls : OrderedMultimap Int UInt64}
    (h : s.timer.tbls.entries = e :: tbls.entries) :
    s.tabled = TimerRecord.ofEntry e :: tbls.entries.map TimerRecord.ofEntry := by
  rw [tabled, h, List.map_cons]

/-- The table with a timer added. -/
theorem tabled_insert_perm (s : TimerState) (n : TimerNode) :
    ((s.timer.tbls.insert n.deadLine n.tid).entries.map TimerRecord.ofEntry).Perm (n.record :: s.tabled) :=
  (OrderedMultimap.insertEntry_perm _ _).map TimerRecord.ofEntry

/-- A pop moves the oldest queued timer into the table. -/
theorem accounted_insert (s : TimerState) {n : TimerNode} {rest : List TimerNode} {pc : TimerPc}
    (hmq : s.timer.mq = n :: rest) :
    { s with
      timer := { s.timer with tbls := s.timer.tbls.insert n.deadLine n.tid, mq := rest }
      pc := pc }.accounted.Perm s.accounted := by
  rw [List.perm_iff_count]
  intro t
  have hcount := (tabled_insert_perm s n).count_eq t
  rw [List.count_cons] at hcount
  simp only [accounted, queued_cons hmq, List.count_append, List.count_cons]
  simp only [queued, tabled, fired_eq] at hcount ⊢
  omega

/-- A firing moves the first timer of the table to those fired. -/
theorem accounted_fire (s : TimerState) {e : MapEntry Int UInt64} {tbls : OrderedMultimap Int UInt64}
    {pc : TimerPc} (h : s.timer.tbls.entries = e :: tbls.entries) :
    { s with
      timer := { s.timer with tbls := tbls }
      pc := pc
      current := { s.current with
        fired := s.current.fired ++ [TimerRecord.ofEntry e] } }.accounted.Perm s.accounted := by
  rw [List.perm_iff_count]
  intro t
  simp only [accounted, tabled_cons h, fired_eq, List.count_append, List.count_cons, List.count_nil]
  simp only [queued, tabled]
  omega

/-- The drain of `Shutdown` moves the oldest queued timer to those dropped. -/
theorem accounted_drain (s : TimerState) {n : TimerNode} {rest : List TimerNode}
    (hmq : s.timer.mq = n :: rest) :
    { s with
      timer := { s.timer with mq := rest }
      dropped := s.dropped ++ [n.record] }.accounted.Perm s.accounted := by
  rw [List.perm_iff_count]
  intro t
  simp only [accounted, queued_cons hmq, List.count_append, List.count_cons, List.count_nil]
  simp only [queued, tabled, fired_eq]
  omega

/-- A new iteration has fired nothing. -/
theorem fired_newRound (s : TimerState) (pc : TimerPc) (begin : Int) (table : List TimerRecord) :
    { s with
      pc := pc
      past := s.past ++ [s.current]
      current := { begin := begin, table := table, fired := [] } }.fired = s.fired := by
  rw [fired_eq]
  show (s.past ++ [s.current]).flatMap TimerRound.fired ++ [] = s.fired
  rw [List.append_nil]
  rfl

/-- What a call of `SetTimer` adds: one timer with the given arguments, unless the timer is shut down. -/
def added (s : TimerState) (tid1 tid2 delayMs : UInt32) (now : Int) : List TimerRecord :=
  if s.timer.shutdown then [] else [⟨now + delayMs.toNat, tid1, tid2⟩]

section SetTimer

variable (s : TimerState) (tid1 tid2 delayMs : UInt32) (now : Int)

/-- A timer that is set is recorded. -/
theorem set_setTimer :
    (s.setTimer tid1 tid2 delayMs now).set = s.set ++ s.added tid1 tid2 delayMs now := by
  by_cases h : s.timer.shutdown
  · simp [setTimer, added, h]
  · simp [setTimer, added, h]

/-- A timer that is set is pushed. -/
theorem queued_setTimer :
    (s.setTimer tid1 tid2 delayMs now).queued = s.queued ++ s.added tid1 tid2 delayMs now := by
  by_cases h : s.timer.shutdown
  · simp [queued, setTimer, Timer.setTimer, added, h]
  · simp [queued, setTimer, Timer.setTimer, added, h, TimerNode.record]

/-- Setting a timer does not touch the table. -/
theorem tabled_setTimer : (s.setTimer tid1 tid2 delayMs now).tabled = s.tabled := by
  rw [tabled, setTimer, Timer.setTimer_tbls, tabled]

/-- Setting a timer fires nothing. -/
@[simp] theorem fired_setTimer : (s.setTimer tid1 tid2 delayMs now).fired = s.fired := rfl

/-- Setting a timer drops nothing. -/
@[simp] theorem dropped_setTimer : (s.setTimer tid1 tid2 delayMs now).dropped = s.dropped := rfl

/-- Setting a timer does not move the worker. -/
@[simp] theorem pc_setTimer : (s.setTimer tid1 tid2 delayMs now).pc = s.pc := rfl

/-- Setting a timer does not end the timer. -/
@[simp] theorem shutdown_setTimer :
    (s.setTimer tid1 tid2 delayMs now).timer.shutdown = s.timer.shutdown := Timer.setTimer_shutdown ..

end SetTimer

/-- A step accounts for the timers it sets and moves the others. -/
theorem Effect.accounts {s s' : TimerState} {a : TimerAction} (h : s.Effect a s') :
    ∃ l, s'.set = s.set ++ l ∧ s'.accounted.Perm (s.accounted ++ l) := by
  -- every step but `SetTimer` sets nothing and at most moves a timer from one place to another
  have moved : ∀ t : TimerState, t.set = s.set → t.accounted.Perm s.accounted →
      ∃ l, t.set = s.set ++ l ∧ t.accounted.Perm (s.accounted ++ l) := by
    intro t hset hacc
    exact ⟨[], by rw [hset, List.append_nil], by rwa [List.append_nil]⟩
  cases h with
  | setTimer tid1 tid2 delayMs now =>
      refine ⟨s.added tid1 tid2 delayMs now, set_setTimer .., ?_⟩
      rw [List.perm_iff_count]
      intro t
      simp only [accounted, queued_setTimer, tabled_setTimer, fired_setTimer, dropped_setTimer,
        List.count_append]
      omega
  | pop n rest hmq => exact moved _ rfl (accounted_insert s hmq)
  | readBegin now =>
      refine moved _ rfl ?_
      rw [accounted, fired_newRound]
      exact List.Perm.refl _
  | fire begin current count it e tbls hpc hentries hdue => exact moved _ rfl (accounted_fire s hentries)
  | drain n rest hpc hmq => exact moved _ rfl (accounted_drain s hmq)
  | test => exact moved _ rfl (List.Perm.refl _)
  | popNull => exact moved _ rfl (List.Perm.refl _)
  | leave => exact moved _ rfl (List.Perm.refl _)
  | cutOff => exact moved _ rfl (List.Perm.refl _)
  | resume => exact moved _ rfl (List.Perm.refl _)
  | pace => exact moved _ rfl (List.Perm.refl _)
  | shutdown => exact moved _ rfl (List.Perm.refl _)

/-! ### The iterations -/

/-- The first timer of the table is the next one of the iteration. -/
theorem Scanning.table_cons {s : TimerState} {begin : Int} {count : Nat} {it : MapIter}
    {e : MapEntry Int UInt64} {tbls : OrderedMultimap Int UInt64} (h : s.Scanning begin count it)
    (hentries : s.timer.tbls.entries = e :: tbls.entries) :
    s.current.table =
      s.current.fired ++ [TimerRecord.ofEntry e] ++ tbls.entries.map TimerRecord.ofEntry := by
  rw [h.table, tabled_cons hentries, List.append_assoc, List.singleton_append]

/-- A firing keeps the current iteration legal. -/
theorem legal_fire {s : TimerState} {begin : Int} {count : Nat} {it : MapIter}
    {e : MapEntry Int UInt64} {tbls : OrderedMultimap Int UInt64} (hscan : s.Scanning begin count it)
    (hcount : count < timerBatch) (hentries : s.timer.tbls.entries = e :: tbls.entries)
    (hdue : e.key ≤ begin) (h : s.current.Legal) :
    { s.current with fired := s.current.fired ++ [TimerRecord.ofEntry e] }.Legal := by
  -- the table of the iteration does not change; its fired prefix grows by the next entry
  refine ⟨h.sorted, ⟨_, (hscan.table_cons hentries).symm⟩, ?_, ?_⟩
  · intro t ht
    rcases List.mem_append.mp ht with ht | ht
    · exact h.due t ht
    · rw [List.mem_singleton.mp ht]
      exact hscan.begin ▸ hdue
  · have hlen := hscan.count
    show (s.current.fired ++ [TimerRecord.ofEntry e]).length ≤ timerBatch
    rw [List.length_append, List.length_singleton, ← hlen]
    exact hcount

/-- An iteration that has fired nothing is legal. -/
theorem legal_newRound (s : TimerState) (now : Int) :
    ({ begin := now, table := s.tabled, fired := [] } : TimerRound).Legal :=
  ⟨s.tabled_sorted, List.nil_prefix, by simp, Nat.zero_le _⟩

/-- Every step keeps the iterations legal. -/
theorem Effect.legal {s s' : TimerState} {a : TimerAction} (h : s.Effect a s') (hplace : s.PlaceOk)
    (hlegal : ∀ r ∈ s.rounds, r.Legal) : ∀ r ∈ s'.rounds, r.Legal := by
  have hpast : ∀ r ∈ s.past, r.Legal := fun r hr => hlegal r (List.mem_append_left _ hr)
  have hcurrent : s.current.Legal := hlegal _ (List.mem_append_right _ (List.mem_singleton_self _))
  cases h with
  | readBegin now =>
      intro r hr
      rcases List.mem_append.mp hr with hr | hr
      · exact hlegal r hr
      · rw [List.mem_singleton.mp hr]
        exact legal_newRound s now
  | fire begin current count it e tbls hpc hentries hdue =>
      rw [PlaceOk, hpc] at hplace
      intro r hr
      rcases List.mem_append.mp hr with hr | hr
      · exact hpast r hr
      · rw [List.mem_singleton.mp hr]
        exact legal_fire hplace.1 hplace.2 hentries hdue hcurrent
  | _ => exact hlegal

/-- A step of another thread, or one that moves the worker outside the inner loop, leaves the place in
order; inside it the table loses its first entry to the iteration. -/
theorem Effect.placeOk {s s' : TimerState} {a : TimerAction} (h : s.Effect a s') (hplace : s.PlaceOk) :
    s'.PlaceOk := by
  cases h with
  | setTimer tid1 tid2 delayMs now => exact hplace.congr rfl (Timer.setTimer_tbls ..) rfl
  | test pc hpc => rcases hpc with ⟨rfl, -⟩ | rfl <;> trivial
  | popNull => trivial
  | pop => trivial
  -- the iteration has fired nothing, so its table is the whole of `_tbls`
  | readBegin now => exact ⟨⟨rfl, rfl, rfl, rfl⟩, by decide⟩
  | leave begin current count it hpc =>
      rw [PlaceOk, hpc] at hplace
      exact hplace.1.table
  | fire begin current count it e tbls hpc hentries hdue =>
      rw [PlaceOk, hpc] at hplace
      obtain ⟨hscan, hcount⟩ := hplace
      refine ⟨⟨hscan.begin, ?_, rfl, ?_⟩, hcount⟩
      · show count + 1 = (s.current.fired ++ [_]).length
        rw [List.length_append, List.length_singleton, hscan.count]
      · exact hscan.table_cons hentries
  | cutOff begin now count it tid1 tid2 hpc =>
      rw [PlaceOk, hpc] at hplace
      exact hplace.1.table
  | resume begin now count it tid1 tid2 hpc hcount =>
      rw [PlaceOk, hpc] at hplace
      exact ⟨hplace.1.congr rfl rfl, hcount⟩
  | pace => trivial
  | shutdown => exact hplace.congr rfl rfl rfl
  | drain n rest hpc hmq => exact hplace.congr rfl rfl rfl

/-! ### The invariant -/

/-- The invariant of the timer. -/
structure TimerInv (s : TimerState) : Prop where
  /-- No timer is lost or made up. -/
  conserved : s.set.Perm s.accounted
  /-- Every iteration is legal. -/
  legal : ∀ r ∈ s.rounds, r.Legal
  /-- The worker is where its local variables say. -/
  place : s.PlaceOk
  /-- The worker returns only from a timer that is shut down. -/
  returned : s.pc = .returned → s.timer.shutdown = true
  /-- Only `Shutdown` drops timers. -/
  dropped : s.timer.shutdown = false → s.dropped = []

/-- The worker returns only once the timer is shut down. -/
theorem Effect.returned {s s' : TimerState} {a : TimerAction} (h : s.Effect a s')
    (hret : s.pc = .returned → s.timer.shutdown = true) :
    s'.pc = .returned → s'.timer.shutdown = true := by
  cases h with
  | setTimer tid1 tid2 delayMs now =>
      intro hpc
      rw [shutdown_setTimer]
      exact hret hpc
  | test pc hpc =>
      rintro rfl
      rcases hpc with ⟨-, hsh⟩ | hpc
      · exact hsh
      · cases hpc
  | shutdown => exact fun _ => rfl
  | drain n rest hpc hmq => exact hret
  | _ => exact fun hpc => nomatch hpc

/-- Timers are dropped only once the timer is shut down. -/
theorem Effect.dropped {s s' : TimerState} {a : TimerAction} (h : s.Effect a s')
    (hret : s.pc = .returned → s.timer.shutdown = true)
    (hdrop : s.timer.shutdown = false → s.dropped = []) :
    s'.timer.shutdown = false → s'.dropped = [] := by
  cases h with
  | setTimer tid1 tid2 delayMs now =>
      intro hsh
      rw [shutdown_setTimer] at hsh
      exact hdrop hsh
  | shutdown => exact fun hsh => nomatch hsh
  | drain n rest hpc hmq =>
      intro hsh
      -- the drain is behind the return of the worker, which is behind the flag
      exact absurd (hret hpc) (by rw [show s.timer.shutdown = false from hsh]; decide)
  | _ => exact hdrop

/-- Every step keeps the invariant. -/
theorem TimerInv.step {s s' : TimerState} {a : TimerAction} (h : s.TimerInv) (hstep : s.exec a = some s') :
    s'.TimerInv := by
  have heffect := effect_of_exec h.place hstep
  obtain ⟨l, hset, hacc⟩ := heffect.accounts
  refine ⟨?_, heffect.legal h.place h.legal, heffect.placeOk h.place, heffect.returned h.returned,
    heffect.dropped h.returned h.dropped⟩
  rw [hset]
  exact (h.conserved.append_right l).trans hacc.symm

/-- Setting a timer keeps the invariant. -/
theorem TimerInv.setTimer {s : TimerState} (h : s.TimerInv) (tid1 tid2 delayMs : UInt32) (now : Int) :
    (s.setTimer tid1 tid2 delayMs now).TimerInv :=
  h.step (a := .setTimer tid1 tid2 delayMs now) rfl

/-- The timer starts with the invariant. -/
theorem timerInv_init : timerMachine.init.TimerInv := by
  refine ⟨List.Perm.refl _, ?_, trivial, (fun hpc => nomatch hpc), fun _ => rfl⟩
  intro r hr
  rw [List.mem_singleton.mp hr]
  exact ⟨.nil, List.nil_prefix, (fun t ht => nomatch ht), by decide⟩

/-- Every reachable state of the timer satisfies the invariant. -/
theorem timerInv_of_reachable {s : TimerState} (hs : timerMachine.Reachable s) : s.TimerInv := by
  apply Machine.Reaches.invariant TimerInv timerInv_init _ hs
  intro s a s' _ _ h hstep
  exact h.step hstep

/-- The head of the inner loop is never stuck: its iterator designates an entry or is past the end. -/
theorem TimerInv.scan_enabled {s : TimerState} (h : s.TimerInv) {begin current : Int} {count : Nat}
    {it : MapIter} (hpc : s.pc = .scan begin current count it) : ∃ s', s.exec .scan = some s' := by
  have hplace := h.place
  rw [PlaceOk, hpc] at hplace
  have hexec : s.exec .scan = s.scan begin current count s.timer.tbls.begin := by
    rw [exec, hpc, hplace.1.front]
  rw [hexec]
  cases hentries : s.timer.tbls.entries with
  | nil => exact ⟨_, scan_empty hentries⟩
  | cons e rest =>
      by_cases hlt : begin < e.key
      · exact ⟨_, scan_later hentries hlt⟩
      · obtain ⟨tbls, -, hscan⟩ := @scan_due s begin current count e rest hentries
          (not_lt.mp hlt)
        exact ⟨_, hscan⟩

/-! ### The timers that wait -/

/-- The timers that are not fired yet. -/
def waiting (s : TimerState) : List TimerRecord := s.queued ++ s.tabled

/-- A timer that is set waits. -/
theorem waiting_setTimer {s : TimerState} (hrun : s.timer.shutdown = false) (tid1 tid2 delayMs : UInt32)
    (now : Int) :
    (s.setTimer tid1 tid2 delayMs now).waiting.Perm (⟨now + delayMs.toNat, tid1, tid2⟩ :: s.waiting) := by
  rw [waiting, queued_setTimer, tabled_setTimer, added, hrun, if_neg (by decide), waiting,
    List.append_assoc, List.singleton_append]
  exact List.perm_middle

/-- The worker does not shut the timer down. -/
theorem Effect.shutdown_eq {s s' : TimerState} {a : TimerAction} (h : s.Effect a s') (ha : a.ofWorker) :
    s'.timer.shutdown = s.timer.shutdown := by
  cases h with
  | setTimer => exact shutdown_setTimer ..
  | shutdown => cases ha
  | _ => rfl

/-- The call of `OnTimer` that a step ends in. -/
def called (a : TimerAction) (s' : TimerState) : Option (UInt32 × UInt32) :=
  match a, s'.pc with
  | .scan, .callback _ _ _ tid1 tid2 => some (tid1, tid2)
  | _, _ => none

/-- A step of the worker moves the waiting timers, or takes the one that it calls `OnTimer` for. -/
theorem Effect.waiting {s s' : TimerState} {a : TimerAction} (h : s.Effect a s') (ha : a.ofWorker) :
    (called a s' = none ∧ s'.waiting.Perm s.waiting) ∨
      ∃ r, called a s' = some (r.tid1, r.tid2) ∧ s.waiting.Perm (r :: s'.waiting) := by
  cases h with
  | pop n rest hmq =>
      refine Or.inl ⟨rfl, ?_⟩
      -- the table gains what the queue loses
      rw [TimerState.waiting, TimerState.waiting, queued_cons hmq, List.cons_append]
      exact ((tabled_insert_perm s n).append_left _).trans List.perm_middle
  | fire begin current count it e tbls hpc hentries hdue =>
      refine Or.inr ⟨TimerRecord.ofEntry e, rfl, ?_⟩
      rw [TimerState.waiting, tabled_cons hentries]
      exact List.perm_middle
  | setTimer tid1 tid2 delayMs now => cases ha
  | shutdown => cases ha
  | drain n rest hpc hmq => cases ha
  | test => exact Or.inl ⟨rfl, List.Perm.refl _⟩
  | popNull => exact Or.inl ⟨rfl, List.Perm.refl _⟩
  | readBegin => exact Or.inl ⟨rfl, List.Perm.refl _⟩
  | leave => exact Or.inl ⟨rfl, List.Perm.refl _⟩
  | cutOff => exact Or.inl ⟨rfl, List.Perm.refl _⟩
  | resume => exact Or.inl ⟨rfl, List.Perm.refl _⟩
  | pace => exact Or.inl ⟨rfl, List.Perm.refl _⟩

/-- The worker is inside an iteration: it scans the table, runs a callback or is about to sleep. -/
def InRound (s : TimerState) : Prop :=
  match s.pc with
  | .scan .. | .callback .. | .pace .. => True
  | _ => False

/-- Inside an iteration, what it has not fired is still in the table. -/
theorem TimerInv.table_eq {s : TimerState} (h : s.TimerInv) (hround : s.InRound) :
    s.current.table = s.current.fired ++ s.tabled := by
  have hplace := h.place
  rw [InRound] at hround
  rw [PlaceOk] at hplace
  split at hround
  · next hpc =>
    rw [hpc] at hplace
    exact hplace.1.table
  · next hpc =>
    rw [hpc] at hplace
    exact hplace.1.table
  · next hpc =>
    rw [hpc] at hplace
    exact hplace
  · cases hround

end TimerState

/-- **Timers are conserved.** Whatever threads set timers, whatever the clock shows and however often the
worker iterates: while the timer runs, the timers set are those queued, those in the table and those
fired, with the ids they were set with; no timer is fired more often than it was set; every iteration
fires the front of its table, in deadline order, at most three timers and none before its deadline; and
what it does not fire stays in the table, whose scan never gets stuck. -/
theorem timer_conservation {s : TimerState} (hs : timerMachine.Reachable s) :
    (s.timer.shutdown = false →
      (s.set : Multiset TimerRecord) = ↑s.queued + ↑s.tabled + ↑s.fired) ∧
    (∀ t, s.fired.count t ≤ s.set.count t) ∧
    (∀ r ∈ s.rounds,
      (∀ t ∈ r.fired, t.deadline ≤ r.begin) ∧
      r.fired.Pairwise (fun a b => a.deadline ≤ b.deadline) ∧
      r.fired.length ≤ 3 ∧
      r.fired <+: r.table) ∧
    (s.InRound → s.current.table = s.current.fired ++ s.tabled) ∧
    (∀ begin current count it, s.pc = .scan begin current count it → ∃ s', s.exec .scan = some s') := by
  have h := TimerState.timerInv_of_reachable hs
  refine ⟨?_, ?_, ?_, h.table_eq, fun _ _ _ _ hpc => h.scan_enabled hpc⟩
  · intro hsh
    rw [Multiset.coe_add, Multiset.coe_add, Multiset.coe_eq_coe]
    have hconserved := h.conserved
    rwa [TimerState.accounted, h.dropped hsh, List.append_nil] at hconserved
  · intro t
    rw [h.conserved.count_eq t, TimerState.accounted, List.count_append, List.count_append]
    omega
  · intro r hr
    have hlegal := h.legal r hr
    exact ⟨hlegal.due, hlegal.fired_sorted, hlegal.batch, hlegal.front⟩

/-- The steps of a run in which one due timer is fired and re-armed from its callback. -/
def firingRun : List TimerAction :=
  [.setTimer 1 2 100 0, .setTimer 7 8 900 0, .test, .pop true, .readBegin 100, .scan,
    .setTimer 1 2 100 130, .callbackReturns 150, .scan, .pace]

/-- The timer is fired with its own ids, its successor and the later timer are still queued. -/
theorem timer_conservation_one_firing :
    ∃ s, timerMachine.run timerMachine.init firingRun = some s ∧
      s.fired = [⟨100, 1, 2⟩] ∧ s.queued = [⟨900, 7, 8⟩, ⟨230, 1, 2⟩] ∧
      (s.set : Multiset TimerRecord) = ↑s.queued + ↑s.tabled + ↑s.fired := by
  refine ⟨_, rfl, by decide, by decide, ?_⟩
  exact (timer_conservation (@Machine.reachable_of_run _ _ timerMachine _ firingRun rfl)).1 rfl

end RaptorLite
