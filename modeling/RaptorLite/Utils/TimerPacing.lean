import RaptorLite.Utils.TimerConservation

/-! # The pacing of the timer thread

The end of an iteration of `Timer::WorkThread` (`utils/timer.cc`). The elapsed time is the difference of
`current_millseconds` and `begin_millseconds`, narrowed to an `int`, and the thread sleeps for what is
left of 300 ms. `current_millseconds` is only assigned behind a callback: in an iteration that fires no
timer it is still `0`, and the difference is the negated clock. What the thread does then depends on the
date modulo `2 ^ 32` ms. -/

namespace RaptorLite

/-! ### The arithmetic -/

/-- The value is one of a signed type of so many bits. -/
def FitsInt (bits : Nat) (x : Int) : Prop := -2 ^ (bits - 1) ≤ x ∧ x < 2 ^ (bits - 1)

instance (bits : Nat) (x : Int) : Decidable (FitsInt bits x) :=
  inferInstanceAs (Decidable (_ ∧ _))

namespace Timer

/-- `static_cast<int>(current_millseconds - begin_millseconds)`. -/
def interval (begin current : Int) : Int := (current - begin).bmod (2 ^ 32)

/-- The time an iteration has spent on its callbacks; none when it fired no timer. -/
def elapsed (begin current : Int) (count : Nat) : Int := if count = 0 then 0 else current - begin

/-- The pacing at the end of an iteration is sound. -/
structure PaceOk (begin current : Int) (count : Nat) : Prop where
  /-- A sleep is longer than none and at most 300 ms long. -/
  bounded : ∀ ms, sleepMs begin current count = some ms → 0 < ms ∧ ms ≤ 300
  /-- The thread sleeps when the batch is not full and the time is not used up. -/
  sleeps : count < 3 → elapsed begin current count < 300 → sleepMs begin current count ≠ none
  /-- Neither the difference nor its conversion overflows. -/
  converts : count < 3 → FitsInt 64 (current - begin) ∧ FitsInt 32 (current - begin)
  /-- Nor does the computation of the argument of `Sleep` and of `usleep`. -/
  computes : count < 3 → interval begin current < 300 →
    FitsInt 32 (300 - interval begin current) ∧ FitsInt 32 ((300 - interval begin current) * 1000)

variable {begin current : Int} {count : Nat}

/-- Below three empty passes the thread sleeps for what is missing to 300 ms. -/
theorem sleepMs_of_lt (h : count < 3) :
    sleepMs begin current count =
      if interval begin current < 300 then some (300 - interval begin current) else none := by
  have hbatch : count < timerBatch := h
  rw [sleepMs, if_pos hbatch]
  rfl

/-- From the third empty pass on the thread does not sleep. -/
theorem sleepMs_of_le (h : 3 ≤ count) : sleepMs begin current count = none := by
  have hbatch : ¬ count < timerBatch := not_lt.mpr h
  rw [sleepMs, if_neg hbatch]

/-- A full batch is not paced. -/
theorem paceOk_of_batch (h : 3 ≤ count) : PaceOk begin current count where
  bounded ms hms := by
    rw [sleepMs_of_le h] at hms
    cases hms
  sleeps hlt := absurd hlt (not_lt.mpr h)
  converts hlt := absurd hlt (not_lt.mpr h)
  computes hlt := absurd hlt (not_lt.mpr h)

/-- A difference that is not negative and fits an `int` is what the code takes for the elapsed time. -/
theorem interval_eq (hle : begin ≤ current) (hlt : current - begin < 2 ^ 31) :
    interval begin current = current - begin := by
  rw [interval]
  apply Int.bmod_eq_of_le_mul_two <;> omega

/-- With a difference that is not negative and fits an `int`, the pacing is sound once a difference of
300 ms or more is time that did elapse. -/
theorem paceOk_of_fits (hle : begin ≤ current) (hlt : current - begin < 2 ^ 31)
    (helapsed : elapsed begin current count < 300 → current - begin < 300) :
    PaceOk begin current count := by
  have hinterval := interval_eq hle hlt
  refine ⟨?_, ?_, ?_, ?_⟩
  · intro ms hms
    by_cases hcount : count < 3
    · rw [sleepMs_of_lt hcount, hinterval, Option.ite_none_right_eq_some, Option.some.injEq] at hms
      omega
    · rw [sleepMs_of_le (not_lt.mp hcount)] at hms
      cases hms
  · intro hcount hshort
    rw [sleepMs_of_lt hcount, hinterval, if_pos (helapsed hshort)]
    exact Option.some_ne_none _
  · intro _
    constructor
    · constructor <;> omega
    · constructor <;> omega
  · intro _ hshort
    rw [hinterval] at hshort ⊢
    constructor
    · constructor <;> omega
    · constructor <;> omega

/-- Behind a fired timer the pacing is sound exactly when the batch is full or the elapsed time fits an
`int`. -/
theorem paceOk_iff_of_fired (hcount : 0 < count) (hle : begin ≤ current) :
    PaceOk begin current count ↔ 3 ≤ count ∨ current - begin < 2 ^ 31 := by
  constructor
  · intro h
    by_cases hbatch : count < 3
    · exact Or.inr (h.converts hbatch).2.2
    · exact Or.inl (not_lt.mp hbatch)
  · rintro (hbatch | hlt)
    · exact paceOk_of_batch hbatch
    · apply paceOk_of_fits hle hlt
      rw [elapsed, if_neg (by omega)]
      exact id

/-- With no timer fired, `current_millseconds` is `0` and the pacing is sound only for a clock just before
its epoch. -/
theorem paceOk_iff_of_idle : PaceOk begin 0 0 ↔ -300 < begin ∧ begin ≤ 0 := by
  constructor
  · intro h
    -- nothing has elapsed, so the thread must sleep, and for 300 ms at most
    have helapsed : elapsed begin 0 0 < 300 := by
      rw [elapsed, if_pos rfl]
      decide
    obtain ⟨ms, hms⟩ := Option.ne_none_iff_exists'.mp (h.sleeps (by decide) helapsed)
    obtain ⟨hpos, hmax⟩ := h.bounded ms hms
    have hconverts := (h.converts (by decide)).2
    have hinterval : interval begin 0 = 0 - begin := by
      obtain ⟨hlow, hhigh⟩ := hconverts
      rw [interval]
      apply Int.bmod_eq_of_le_mul_two <;> omega
    rw [sleepMs_of_lt (by decide), hinterval, Option.ite_none_right_eq_some, Option.some.injEq] at hms
    omega
  · rintro ⟨hlow, hhigh⟩
    apply paceOk_of_fits hhigh (by omega)
    intro _
    omega

end Timer

/-! ### The clock readings of an iteration -/

/-- The timer and the clock readings that the current iteration made behind its callbacks. -/
structure PacingState where
  /-- The timer. -/
  base : TimerState
  /-- The readings, in order. -/
  readings : List Int

namespace PacingState

/-- The readings behind a step. -/
def note (readings : List Int) : TimerAction → List Int
  | .readBegin _ => []
  | .callbackReturns now => readings ++ [now]
  | _ => readings

/-- One step of the timer. -/
def exec (s : PacingState) (a : TimerAction) : Option PacingState :=
  (s.base.exec a).map fun base => ⟨base, note s.readings a⟩

/-- The clock of an iteration does not go back. -/
def ClockOrdered (s : PacingState) : TimerAction → Prop
  | .callbackReturns now => s.readings.getLastD s.base.current.begin ≤ now
  | _ => True

/-- No timer of the table is due when the iteration starts. -/
def NoneDue (s : PacingState) : Prop := ∀ t ∈ s.base.current.table, s.base.current.begin < t.deadline

instance (s : PacingState) : Decidable s.NoneDue :=
  inferInstanceAs (Decidable (∀ t ∈ s.base.current.table, _))

end PacingState

/-- The timer behind `Start`, with its readings. -/
def pacingMachine : Machine PacingState TimerAction where
  init := ⟨timerMachine.init, []⟩
  step := PacingState.exec

namespace PacingState

/-! ### What the local variables hold -/

/-- The local variables of the worker agree with the readings of the iteration. -/
def LocalsOk (s : PacingState) : Prop :=
  match s.base.pc with
  | .scan begin current count _ =>
      begin = s.base.current.begin ∧ count = s.readings.length ∧ current = s.readings.getLastD 0 ∧
        s.base.current.fired.length = s.readings.length
  | .callback begin count _ _ _ =>
      begin = s.base.current.begin ∧ count = s.readings.length ∧
        s.base.current.fired.length = s.readings.length + 1
  | .pace begin current count =>
      begin = s.base.current.begin ∧ count = s.readings.length ∧ current = s.readings.getLastD 0 ∧
        s.base.current.fired.length = s.readings.length ∧ (s.readings = [] → s.NoneDue)
  | _ => True

/-- The invariant of the pacing. -/
structure PacingInv (s : PacingState) : Prop where
  /-- The invariant of the timer. -/
  timer : s.base.TimerInv
  /-- No reading is before the begin of its iteration. -/
  ordered : ∀ now ∈ s.readings, s.base.current.begin ≤ now
  /-- The local variables. -/
  locals : s.LocalsOk

/-- The scan leaves the loop only before a timer that is not due, and then no later one is. -/
theorem not_due_of_leave {s s' : TimerState} {begin current : Int} {count : Nat} {it : MapIter}
    (hplace : s.PlaceOk) (hpc : s.pc = .scan begin current count it) (h : s.exec .scan = some s')
    (hleave : s'.pc = .pace begin current count) : ∀ t ∈ s.tabled, begin < t.deadline := by
  rw [TimerState.PlaceOk, hpc] at hplace
  rw [TimerState.exec, hpc] at h
  simp only [hplace.1.front] at h
  intro t ht
  cases hentries : s.timer.tbls.entries with
  | nil =>
      rw [TimerState.tabled, hentries] at ht
      cases ht
  | cons e rest =>
      have hfirst : begin < e.key := by
        by_contra hdue
        obtain ⟨tbls, -, hscan⟩ := @TimerState.scan_due s begin current count e rest hentries (not_lt.mp hdue)
        rw [hscan] at h
        cases h
        cases hleave
      have hsorted := s.tabled_sorted
      rw [TimerState.tabled, hentries, List.map_cons] at ht hsorted
      rcases List.mem_cons.mp ht with rfl | ht
      · exact hfirst
      · exact lt_of_lt_of_le hfirst (List.rel_of_pairwise_cons hsorted ht)

/-- The last reading is not before the begin of the iteration. -/
theorem PacingInv.begin_le {s : PacingState} (h : s.PacingInv) {d : Int} (hne : s.readings ≠ []) :
    s.base.current.begin ≤ s.readings.getLastD d := by
  rw [List.getLastD_eq_getLast?, List.getLast?_eq_getLast_of_ne_nil hne]
  exact h.ordered _ (List.getLast_mem hne)

/-- A reading that is not before the last one is not before the begin of the iteration. -/
theorem PacingInv.ordered_append {s : PacingState} (h : s.PacingInv) {now : Int}
    (hclock : s.ClockOrdered (.callbackReturns now)) :
    ∀ t ∈ s.readings ++ [now], s.base.current.begin ≤ t := by
  intro t ht
  rcases List.mem_append.mp ht with ht | ht
  · exact h.ordered t ht
  · rw [List.mem_singleton.mp ht]
    rw [ClockOrdered] at hclock
    by_cases hne : s.readings = []
    · rwa [hne] at hclock
    · exact le_trans (h.begin_le hne) hclock

/-- Steps that leave the iteration and its readings alone keep the invariant. -/
theorem PacingInv.frame {s s' : PacingState} (h : s.PacingInv) (htimer : s'.base.TimerInv)
    (hpc : s'.base.pc = s.base.pc) (hcurrent : s'.base.current = s.base.current)
    (hreadings : s'.readings = s.readings) : s'.PacingInv := by
  refine ⟨htimer, ?_, ?_⟩
  · rw [hreadings, hcurrent]
    exact h.ordered
  · have hlocals := h.locals
    rw [LocalsOk] at hlocals
    rw [LocalsOk, hpc, hcurrent, hreadings, NoneDue, hcurrent]
    exact hlocals

/-- Outside an iteration the local variables do not matter. -/
theorem PacingInv.outside {s s' : PacingState} (h : s.PacingInv) (htimer : s'.base.TimerInv)
    (hpc : ¬ s'.base.InRound) (hcurrent : s'.base.current = s.base.current)
    (hreadings : s'.readings = s.readings) : s'.PacingInv := by
  refine ⟨htimer, ?_, ?_⟩
  · rw [hreadings, hcurrent]
    exact h.ordered
  · rw [TimerState.InRound] at hpc
    rw [LocalsOk]
    split
    · next heq => exact absurd trivial (by rwa [heq] at hpc)
    · next heq => exact absurd trivial (by rwa [heq] at hpc)
    · next heq => exact absurd trivial (by rwa [heq] at hpc)
    · trivial

/-- **One step** keeps the invariant, if the clock does not go back. -/
theorem PacingInv.step {s s' : PacingState} {a : TimerAction} (h : s.PacingInv) (hclock : s.ClockOrdered a)
    (hstep : s.exec a = some s') : s'.PacingInv := by
  obtain ⟨base, hbase, rfl⟩ := Option.map_eq_some_iff.mp hstep
  have htimer := h.timer.step hbase
  have hlocals := h.locals
  rw [LocalsOk] at hlocals
  cases TimerState.effect_of_exec h.timer.place hbase with
  | setTimer => exact h.frame htimer rfl rfl rfl
  | test pc hpc =>
      refine h.outside htimer ?_ rfl rfl
      rcases hpc with ⟨rfl, -⟩ | rfl
      · exact id
      · exact id
  | popNull => exact h.outside htimer id rfl rfl
  | pop n rest hmq => exact h.outside htimer id rfl rfl
  | readBegin now => exact ⟨htimer, (fun _ hnow => nomatch hnow), rfl, rfl, rfl, rfl⟩
  | leave begin current count it hpc =>
      rw [hpc] at hlocals
      obtain ⟨hbegin, hcount, hcurrent, hfired⟩ := hlocals
      refine ⟨htimer, h.ordered, hbegin, hcount, hcurrent, hfired, ?_⟩
      -- nothing was fired, so what the scan stopped at is the front of the whole table
      intro hnil t ht
      have htable := h.timer.table_eq (by rw [TimerState.InRound, hpc]; trivial)
      have hnone : s.base.current.fired = [] := by
        rw [← List.length_eq_zero_iff, hfired]
        exact congrArg List.length hnil
      rw [show s.base.current.table = s.base.tabled by rw [htable, hnone, List.nil_append]] at ht
      have hlater := not_due_of_leave h.timer.place hpc hbase rfl t ht
      rwa [hbegin] at hlater
  | fire begin current count it e tbls hpc hentries hdue =>
      rw [hpc] at hlocals
      obtain ⟨hbegin, hcount, -, hfired⟩ := hlocals
      refine ⟨htimer, h.ordered, hbegin, hcount, ?_⟩
      rw [List.length_append, hfired]
      rfl
  | cutOff begin now count it tid1 tid2 hpc =>
      rw [hpc] at hlocals
      obtain ⟨hbegin, hcount, hfired⟩ := hlocals
      refine ⟨htimer, h.ordered_append hclock, hbegin, ?_, List.getLastD_concat.symm, ?_, ?_⟩
      · rw [hcount, note, List.length_append, List.length_singleton]
      · rw [note, List.length_append, List.length_singleton]
        exact hfired
      · intro hnil
        exact absurd hnil (List.append_ne_nil_of_right_ne_nil _ (List.cons_ne_nil now []))
  | resume begin now count it tid1 tid2 hpc hbatch =>
      rw [hpc] at hlocals
      obtain ⟨hbegin, hcount, hfired⟩ := hlocals
      refine ⟨htimer, h.ordered_append hclock, hbegin, ?_, List.getLastD_concat.symm, ?_⟩
      · rw [hcount, note, List.length_append, List.length_singleton]
      · rw [note, List.length_append, List.length_singleton]
        exact hfired
  | pace => exact h.outside htimer id rfl rfl
  | shutdown => exact h.frame htimer rfl rfl rfl
  | drain n rest hpc hmq => exact h.frame htimer rfl rfl rfl

/-- The pacing invariant holds in every state reached with an ordered clock. -/
theorem pacingInv_of_reaches {s : PacingState} (hs : pacingMachine.Reaches ClockOrdered s) : s.PacingInv := by
  apply hs.invariant PacingInv
  · exact ⟨TimerState.timerInv_init, (fun _ hnow => nomatch hnow), trivial⟩
  · intro s a s' _ hclock h hstep
    exact h.step hclock hstep

end PacingState

/-- **When the pacing of the timer thread is sound.** In every run in which the clock of an iteration does
not go back, whenever the worker is at the end of an iteration: the sleep is in its bounds, the thread
sleeps when it should and nothing overflows, exactly when either some timer of the table was due at
`begin_millseconds` and three readings were made behind callbacks or the last of them is less than
`2 ^ 31` ms behind the begin, or no timer was due and the begin time itself is within 300 ms before the
epoch. -/
theorem timer_pacing_iff {s : PacingState} (hs : pacingMachine.Reaches PacingState.ClockOrdered s)
    {begin current : Int} {count : Nat} (hpc : s.base.pc = .pace begin current count) :
    Timer.PaceOk begin current count ↔
      if s.NoneDue then -300 < s.base.current.begin ∧ s.base.current.begin ≤ 0
      else 3 ≤ s.readings.length ∨
        s.readings.getLastD s.base.current.begin - s.base.current.begin < 2 ^ 31 := by
  have h := PacingState.pacingInv_of_reaches hs
  have hlocals := h.locals
  rw [PacingState.LocalsOk, hpc] at hlocals
  obtain ⟨rfl, rfl, rfl, hfired, hnone⟩ := hlocals
  by_cases hnil : s.readings = []
  · rw [if_pos (hnone hnil), hnil]
    exact Timer.paceOk_iff_of_idle
  · -- a timer was fired, so one was due
    have hdue : ¬ s.NoneDue := by
      have hne : s.base.current.fired ≠ [] := by
        rw [← List.length_pos_iff, hfired]
        exact List.length_pos_iff.mpr hnil
      obtain ⟨t, ht⟩ := List.exists_mem_of_ne_nil _ hne
      have hlegal := h.timer.legal s.base.current (List.mem_append_right _ List.mem_cons_self)
      intro hlater
      exact absurd (hlegal.due t ht) (not_le.mpr (hlater t (hlegal.front.subset ht)))
    rw [if_neg hdue, Timer.paceOk_iff_of_fired (List.length_pos_iff.mpr hnil) (h.begin_le hnil)]
    have hlast : s.readings.getLastD s.base.current.begin = s.readings.getLastD 0 := by
      rw [List.getLastD_eq_getLast?, List.getLastD_eq_getLast?, List.getLast?_eq_getLast_of_ne_nil hnil]
      rfl
    rw [hlast]

/-- One timer is due and its callback takes 50 ms: the thread sleeps for the other 250. -/
theorem timer_pacing_iff_one_timer :
    ∃ s, pacingMachine.Reaches PacingState.ClockOrdered s ∧ s.base.pc = .pace 100 150 1 ∧
      Timer.sleepMs 100 150 1 = some 250 ∧ Timer.PaceOk 100 150 1 := by
  obtain ⟨s, hs, hlast, hscan⟩ : ∃ s, pacingMachine.Reaches PacingState.ClockOrdered s ∧
      s.ClockOrdered (.callbackReturns 150) ∧
      ∃ s', pacingMachine.run s [.callbackReturns 150, .scan] = some s' ∧ s'.base.pc = .pace 100 150 1 ∧
        ¬ s'.NoneDue ∧ s'.readings = [150] ∧ s'.base.current.begin = 100 := by
    have hrun := @Machine.Reaches.run _ _ pacingMachine PacingState.ClockOrdered _ _
      [.setTimer 1 2 100 0, .test, .pop true, .readBegin 100, .scan] .init
      (by simp [PacingState.ClockOrdered]) rfl
    exact ⟨_, hrun, show (100 : Int) ≤ 150 by decide, _, rfl, by decide, by decide, by decide, by decide⟩
  obtain ⟨s', hrun, hpc, hdue, hreadings, hbegin⟩ := hscan
  obtain ⟨s₁, hreturns, hrun⟩ := Option.bind_eq_some_iff.mp hrun
  have hs' := Machine.Reaches.run (hs.step hlast hreturns) (by simp [PacingState.ClockOrdered]) hrun
  refine ⟨s', hs', hpc, by decide, (timer_pacing_iff hs' hpc).mpr ?_⟩
  rw [if_neg hdue, hreadings, hbegin]
  decide

/-- No timer is set and the clock shows a day of November 2023: nothing has elapsed, the code takes the
negated clock, narrowed to an `int`, for the elapsed time and does not sleep. -/
theorem idle_iteration_does_not_sleep :
    ∃ s, pacingMachine.Reaches PacingState.ClockOrdered s ∧ s.base.pc = .pace 1700000000000 0 0 ∧
      Timer.elapsed 1700000000000 0 0 = 0 ∧ Timer.interval 1700000000000 0 = 807049216 ∧
      Timer.sleepMs 1700000000000 0 0 = none ∧ ¬ Timer.PaceOk 1700000000000 0 0 := by
  obtain ⟨s, hs, hpc⟩ : ∃ s, pacingMachine.Reaches PacingState.ClockOrdered s ∧
      s.base.pc = .pace 1700000000000 0 0 := by
    have hrun := @Machine.Reaches.run _ _ pacingMachine PacingState.ClockOrdered _ _
      [.test, .pop false, .readBegin 1700000000000, .scan] .init (by simp [PacingState.ClockOrdered]) rfl
    exact ⟨_, hrun, by decide⟩
  refine ⟨s, hs, hpc, by decide, by decide, by decide, ?_⟩
  rw [Timer.paceOk_iff_of_idle]
  decide

end RaptorLite
