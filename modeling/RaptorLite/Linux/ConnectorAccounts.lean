import RaptorLite.Linux.TcpConnector

/-! # The accounts of the connector

Every record and every descriptor of a `TcpConnector` (`linux/tcp_connector.cc`) is accounted for: `Held` says
where the records are, and `Closes` says exactly which descriptors have been closed, and by whom. Every step
keeps both, so they hold in every run. -/

namespace RaptorLite

/-- One more element that is not in the list. -/
theorem nodup_snoc {α : Type} {l : List α} {a : α} (hl : l.Nodup) (ha : a ∉ l) : (l ++ [a]).Nodup := by
  rw [← List.concat_eq_append]
  exact hl.concat ha

namespace TcpConnector

variable {s s' : TcpConnector}

/-! ### The steps, taken apart -/

/-- `Connect` is accepted until `Shutdown`. -/
theorem connect_some {user : Int64} {outcome : ConnectOutcome} (h : s.exec (.connect user outcome) = some s') :
    s.isShutdown = false ∧ s' = s.asyncConnect user outcome := by
  simp only [exec] at h
  split at h
  · cases h
  · next hopen => exact ⟨by simpa using hopen, (Option.some.inj h).symm⟩

/-- What `epoll_wait` may report. -/
theorem polling_some {batch : List (Nat × UInt32)} (h : s.polling batch = some s') :
    (s.isShutdown = false ∧ (batch.map Prod.fst).Nodup ∧ ∀ ev ∈ batch, ev.1 ∈ s.interest) ∧
      s' = { s with batch } := by
  unfold polling at h
  split at h
  · next hcond => exact ⟨⟨hcond.1, hcond.2.2.2⟩, (Option.some.inj h).symm⟩
  · cases h

/-- An event that is processed is the next of the batch, and its handler is called. -/
theorem onEventProcess_some {errorCode : Int32} (h : s.onEventProcess errorCode = some s') :
    ∃ entry events rest call, s.running = none ∧ s.batch = (entry, events) :: rest ∧
      s' = { s with batch := rest }.callHandler entry call := by
  unfold onEventProcess at h
  split at h
  · next entry events rest hrunning hbatch =>
    exact ⟨entry, events, rest, _, hrunning, hbatch, (Option.some.inj h).symm⟩
  · cases h

/-- Closing an endpoint does nothing, if its container does not know it any more, or releases it. -/
theorem endpointClose_some {ep : Nat} {found : Bool} (h : s.endpointClose ep found = some s') :
    s' = s ∨ ∃ h₀, s.handed[ep]? = some h₀ ∧ (h₀.hasContainer = true → found = true) ∧
      s.release ep = some s' := by
  obtain ⟨h₀, hat, h⟩ := Option.bind_eq_some_iff.mp h
  split at h
  · exact Or.inl (Option.some.inj h).symm
  · next hfound => exact Or.inr ⟨h₀, hat, by simpa using hfound, h⟩

/-- A container closes an endpoint that was handed out. -/
theorem containerClose_some {ep : Nat} (h : s.containerClose ep = some s') :
    ∃ h₀, s.handed[ep]? = some h₀ ∧ s.release ep = some s' := by
  obtain ⟨h₀, hat, h⟩ := Option.bind_eq_some_iff.mp h
  split at h
  · exact ⟨h₀, hat, h⟩
  · cases h

/-- `Shutdown` runs once, with the poll thread at rest. -/
theorem shutdown_some (h : s.shutdown = some s') :
    s' = s ∨ s.isShutdown = false ∧ (s.batch = [] ∧ s.running = none) ∧
      s' = { s with
        isShutdown := true
        closed := s.closed ++ s.records.map (·, .shutdown)
        records := []
        interest := [] } := by
  unfold TcpConnector.shutdown at h
  split at h
  · exact Or.inl (Option.some.inj h).symm
  · next hopen =>
    split at h
    · next hidle => exact Or.inr ⟨by simpa using hopen, hidle, (Option.some.inj h).symm⟩
    · cases h

/-! ### The invariants -/

/-- The handler calls: the record, and whether it was `OnConnect`. -/
def calls (s : TcpConnector) : List (Nat × Bool) := s.handed.map fun h => (h.entry, h.call.isConnect)

/-- The descriptors that the endpoints were made with and have now. -/
def fds (s : TcpConnector) : List (Nat × Option Nat) := s.handed.map fun h => (h.entry, h.fd)

/-- Where the records are. -/
structure Held (s : TcpConnector) : Prop where
  /-- A record is made once, for a descriptor that was opened. -/
  accepted_nodup : s.accepted.Nodup
  accepted_lt : ∀ e ∈ s.accepted, e < s.sockets
  /-- Until the set is cleared it holds the records that are not freed. -/
  records_nodup : s.records.Nodup
  mem_records : ∀ e, e ∈ s.records ↔ s.isShutdown = false ∧ e ∈ s.accepted ∧ e ∉ s.freed
  /-- A record is freed behind its handler call. -/
  calls_eq : s.calls.map Prod.fst = s.freed ++ s.running.toList.map Prod.fst
  calls_nodup : (s.calls.map Prod.fst).Nodup
  calls_accepted : ∀ e ∈ s.calls.map Prod.fst, e ∈ s.accepted
  running_mem : ∀ r ∈ s.running, r ∈ s.calls
  /-- The poller watches records that have had no call, and reports what it watches. -/
  interest_nodup : s.interest.Nodup
  interest_pending : ∀ e ∈ s.interest, e ∈ s.accepted ∧ e ∉ s.calls.map Prod.fst
  batch_nodup : (s.batch.map Prod.fst).Nodup
  batch_interest : ∀ e ∈ s.batch.map Prod.fst, e ∈ s.interest
  /-- The poll thread has been joined. -/
  idle : s.isShutdown = true → s.batch = [] ∧ s.running = none

/-- A record and the descriptor it is for are closed by `c`. -/
def ClosedBy (s : TcpConnector) (d : Nat) : Closer → Prop
  | .asyncConnect => d < s.sockets ∧ d ∉ s.accepted
  | .onEventProcess => d ∈ s.freed ∧ (d, false) ∈ s.calls
  | .shutdown => s.isShutdown = true ∧ d ∈ s.accepted ∧ d ∉ s.calls.map Prod.fst
  | .endpoint => (d, none) ∈ s.fds

/-- The log of the `close` calls. -/
structure Closes (s : TcpConnector) : Prop where
  /-- Nobody closes a descriptor twice. -/
  nodup : s.closed.Nodup
  /-- Who has closed what. -/
  mem : ∀ d c, (d, c) ∈ s.closed ↔ s.ClosedBy d c
  /-- An endpoint has the descriptor it was made with, or none. -/
  fds_eq : ∀ p ∈ s.fds, p.2 = some p.1 ∨ p.2 = none

/-- The records at the start. -/
theorem held_init : connectorMachine.init.Held := by
  refine ⟨?_, ?_, ?_, ?_, rfl, ?_, ?_, ?_, ?_, ?_, ?_, ?_, ?_⟩ <;> simp [connectorMachine, calls]

/-- With no handler running the records that had their call are those freed. -/
theorem Held.calls_eq_freed (h : s.Held) (hidle : s.running = none) : s.calls.map Prod.fst = s.freed := by
  rw [h.calls_eq, hidle]
  exact List.append_nil _

/-- A record is freed behind its call. -/
theorem Held.called_of_freed (h : s.Held) {e : Nat} (he : e ∈ s.freed) : e ∈ s.calls.map Prod.fst := by
  rw [h.calls_eq]
  exact List.mem_append_left _ he

/-- Events are left only before `Shutdown`. -/
theorem Held.open_of_batch (h : s.Held) {ev : Nat × UInt32} {rest : List (Nat × UInt32)}
    (hbatch : s.batch = ev :: rest) : s.isShutdown ≠ true := by
  intro hshut
  have hempty := (h.idle hshut).1
  rw [hbatch] at hempty
  cases hempty

/-- The log of the `close` calls at the start. -/
theorem closes_init : connectorMachine.init.Closes := by
  refine ⟨List.nodup_nil, ?_, fun p hp => nomatch hp⟩
  intro d c
  cases c <;> simp [connectorMachine, ClosedBy, fds]

/-- Closing something more. -/
theorem Closes.append (h : s.Closes) (new : List (Nat × Closer)) (hclosed : s'.closed = s.closed ++ new)
    (hnodup : new.Nodup) (hfresh : ∀ d c, (d, c) ∈ new → ¬ s.ClosedBy d c)
    (hmem : ∀ d c, s'.ClosedBy d c ↔ s.ClosedBy d c ∨ (d, c) ∈ new)
    (hfds : ∀ p ∈ s'.fds, p.2 = some p.1 ∨ p.2 = none) : s'.Closes := by
  refine ⟨?_, ?_, hfds⟩
  · rw [hclosed, List.nodup_append]
    refine ⟨h.nodup, hnodup, ?_⟩
    rintro p hp q hq rfl
    exact hfresh p.1 p.2 hq ((h.mem p.1 p.2).mp hp)
  · intro d c
    rw [hclosed, List.mem_append, h.mem, hmem]

/-- Closing nothing. -/
theorem Closes.congr (h : s.Closes) (hclosed : s'.closed = s.closed)
    (hmem : ∀ d c, s'.ClosedBy d c ↔ s.ClosedBy d c)
    (hfds : ∀ p ∈ s'.fds, p.2 = some p.1 ∨ p.2 = none) : s'.Closes := by
  refine ⟨by rw [hclosed]; exact h.nodup, ?_, hfds⟩
  intro d c
  rw [hclosed, h.mem, hmem]

/-! ### `AsyncConnect` -/

/-- A descriptor that is yet to be made is not one of a record. -/
theorem Held.sockets_notMem (h : s.Held) : s.sockets ∉ s.accepted :=
  fun hmem => Nat.lt_irrefl _ (h.accepted_lt _ hmem)

/-- A descriptor that is opened and closed again. -/
theorem held_refused (h : s.Held) {closed : List (Nat × Closer)} :
    ({ s with sockets := s.sockets + 1, closed } : TcpConnector).Held :=
  { h with accepted_lt := fun e he => Nat.lt_succ_of_lt (h.accepted_lt e he) }

/-- A `Connect` that fails closes the descriptor that it made. -/
theorem closes_refused (h : s.Held) (hc : s.Closes) :
    ({ s with
       sockets := s.sockets + 1
       closed := s.closed ++ [(s.sockets, .asyncConnect)] } : TcpConnector).Closes := by
  refine hc.append [(s.sockets, .asyncConnect)] rfl (List.nodup_singleton _) ?_ ?_ hc.fds_eq
  · intro d c hmem hby
    rw [List.mem_singleton, Prod.mk.injEq] at hmem
    obtain ⟨rfl, rfl⟩ := hmem
    exact Nat.lt_irrefl _ hby.1
  · intro d c
    have hnew := h.sockets_notMem
    cases c with
    | asyncConnect =>
        simp only [ClosedBy, List.mem_singleton, Prod.mk.injEq, and_true]
        constructor
        · rintro ⟨hlt, hd⟩
          rcases Nat.lt_succ_iff_lt_or_eq.mp hlt with hlt | rfl
          · exact Or.inl ⟨hlt, hd⟩
          · exact Or.inr rfl
        · rintro (⟨hlt, hd⟩ | rfl)
          · exact ⟨Nat.lt_succ_of_lt hlt, hd⟩
          · exact ⟨Nat.lt_succ_self _, hnew⟩
    | onEventProcess => simp [ClosedBy, calls]
    | shutdown => simp [ClosedBy, calls]
    | endpoint => simp [ClosedBy, fds]

/-- A record is made. -/
theorem held_accepted (h : s.Held) (hopen : s.isShutdown = false) {userValue : Nat → Int64}
    {interest : List Nat} (hinterest : interest = s.interest ++ [s.sockets] ∨ interest = s.interest) :
    ({ s with
       sockets := s.sockets + 1
       accepted := s.accepted ++ [s.sockets]
       userValue
       records := s.records ++ [s.sockets]
       interest } : TcpConnector).Held := by
  have hnew := h.sockets_notMem
  have hcalls : s.sockets ∉ s.calls.map Prod.fst := fun hmem => hnew (h.calls_accepted _ hmem)
  have hfreed : s.sockets ∉ s.freed := fun hmem => hcalls (h.called_of_freed hmem)
  have hsub : ∀ e ∈ s.accepted, e ∈ s.accepted ++ [s.sockets] := fun e he => List.mem_append_left _ he
  have hpending : ∀ e ∈ interest, e ∈ s.interest ∨ e = s.sockets := by
    intro e he
    rcases hinterest with rfl | rfl
    · simpa using he
    · exact Or.inl he
  refine ⟨?_, ?_, ?_, ?_, h.calls_eq, h.calls_nodup, ?_, h.running_mem, ?_, ?_, h.batch_nodup, ?_, h.idle⟩
  · exact nodup_snoc h.accepted_nodup hnew
  · intro e he
    rcases List.mem_append.mp he with he | he
    · exact Nat.lt_succ_of_lt (h.accepted_lt e he)
    · rw [List.mem_singleton.mp he]
      exact Nat.lt_succ_self _
  · have hrecords : s.sockets ∉ s.records := fun hmem => hnew ((h.mem_records _).mp hmem).2.1
    exact nodup_snoc h.records_nodup hrecords
  · intro e
    simp only [List.mem_append, List.mem_singleton, h.mem_records, hopen, true_and]
    constructor
    · rintro (⟨hacc, hfree⟩ | rfl)
      · exact ⟨Or.inl hacc, hfree⟩
      · exact ⟨Or.inr rfl, hfreed⟩
    · rintro ⟨hacc | rfl, hfree⟩
      · exact Or.inl ⟨hacc, hfree⟩
      · exact Or.inr rfl
  · exact fun e he => hsub e (h.calls_accepted e he)
  · rcases hinterest with rfl | rfl
    · have hwatched : s.sockets ∉ s.interest := fun hmem => hnew (h.interest_pending _ hmem).1
      exact nodup_snoc h.interest_nodup hwatched
    · exact h.interest_nodup
  · intro e he
    rcases hpending e he with he | rfl
    · exact ⟨hsub e (h.interest_pending e he).1, (h.interest_pending e he).2⟩
    · exact ⟨List.mem_append_right _ (List.mem_singleton.mpr rfl), hcalls⟩
  · intro e he
    rcases hinterest with rfl | rfl
    · exact List.mem_append_left _ (h.batch_interest e he)
    · exact h.batch_interest e he

/-- A `Connect` that is accepted closes nothing. -/
theorem closes_accepted (hc : s.Closes) (hopen : s.isShutdown = false)
    {userValue : Nat → Int64} {records interest : List Nat} :
    ({ s with
       sockets := s.sockets + 1
       accepted := s.accepted ++ [s.sockets]
       userValue
       records
       interest } : TcpConnector).Closes := by
  refine hc.congr rfl ?_ hc.fds_eq
  intro d c
  cases c with
  | asyncConnect =>
      simp only [ClosedBy, List.mem_append, List.mem_singleton, not_or]
      constructor
      · rintro ⟨hlt, hd, hne⟩
        exact ⟨by omega, hd⟩
      · rintro ⟨hlt, hd⟩
        exact ⟨by omega, hd, by omega⟩
  | onEventProcess => simp [ClosedBy, calls]
  | shutdown => simp [ClosedBy, hopen]
  | endpoint => simp [ClosedBy, fds]

/-! ### `OnEventProcess` -/

/-- The next event of a batch: its record has had no call and is not freed. -/
theorem Held.head_pending (h : s.Held) {entry : Nat} {events : UInt32} {rest : List (Nat × UInt32)}
    (hbatch : s.batch = (entry, events) :: rest) :
    entry ∈ s.interest ∧ entry ∈ s.accepted ∧ entry ∉ s.calls.map Prod.fst ∧ entry ∉ s.freed := by
  have hwatched := h.batch_interest entry (by rw [hbatch]; exact List.mem_cons_self)
  obtain ⟨hacc, hcalls⟩ := h.interest_pending entry hwatched
  exact ⟨hwatched, hacc, hcalls, fun hfreed => hcalls (h.called_of_freed hfreed)⟩

/-- A handler call is logged. -/
theorem calls_callHandler (s : TcpConnector) (entry : Nat) (call : HandlerCall) :
    (s.callHandler entry call).calls = s.calls ++ [(entry, call.isConnect)] :=
  List.map_append

/-- The endpoint of a handler call is given the descriptor of the record. -/
theorem fds_callHandler (s : TcpConnector) (entry : Nat) (call : HandlerCall) :
    (s.callHandler entry call).fds = s.fds ++ [(entry, some entry)] :=
  List.map_append

/-- An event is taken from the batch and its handler called. -/
theorem Held.callHandler (h : s.Held) (hidle : s.running = none) {entry : Nat} {events : UInt32}
    {rest : List (Nat × UInt32)} (hbatch : s.batch = (entry, events) :: rest) (call : HandlerCall) :
    ({ s with batch := rest }.callHandler entry call).Held := by
  obtain ⟨hwatched, hacc, hcalls, hfreed⟩ := h.head_pending hbatch
  have hnodup := h.batch_nodup
  rw [hbatch, List.map_cons, List.nodup_cons] at hnodup
  -- the calls so far are those of `s`
  have hfst : ({ s with batch := rest }.callHandler entry call).calls.map Prod.fst =
      s.calls.map Prod.fst ++ [entry] := by
    rw [calls_callHandler, List.map_append]
    rfl
  refine ⟨h.accepted_nodup, h.accepted_lt, h.records_nodup, h.mem_records, ?_, ?_, ?_, ?_,
    h.interest_nodup.erase _, ?_, hnodup.2, ?_, ?_⟩
  · rw [hfst, h.calls_eq, hidle]
    exact congrArg (· ++ [entry]) (List.append_nil _)
  · rw [hfst]
    exact nodup_snoc h.calls_nodup hcalls
  · intro e he
    rw [hfst] at he
    rcases List.mem_append.mp he with he | he
    · exact h.calls_accepted e he
    · rw [List.mem_singleton.mp he]
      exact hacc
  · intro r hr
    rw [calls_callHandler, ← Option.mem_some_iff.mp hr]
    exact List.mem_append_right _ (List.mem_singleton.mpr rfl)
  · intro e he
    have hne : e ≠ entry := by
      rintro rfl
      exact h.interest_nodup.not_mem_erase he
    obtain ⟨hacc, hcalls⟩ := h.interest_pending e (List.mem_of_mem_erase he)
    refine ⟨hacc, ?_⟩
    rw [hfst, List.mem_append, List.mem_singleton, not_or]
    exact ⟨hcalls, hne⟩
  · intro e he
    have hne : e ≠ entry := by
      rintro rfl
      exact hnodup.1 he
    show e ∈ s.interest.erase entry
    rw [List.mem_erase_of_ne hne]
    exact h.batch_interest e (by rw [hbatch]; exact List.mem_cons_of_mem _ he)
  · intro hshut
    exact absurd hshut (h.open_of_batch hbatch)

/-- A handler call keeps the log of the `close` calls right. -/
theorem Closes.callHandler (hc : s.Closes) (h : s.Held) {entry : Nat} {events : UInt32}
    {rest : List (Nat × UInt32)} (hbatch : s.batch = (entry, events) :: rest) (call : HandlerCall) :
    ({ s with batch := rest }.callHandler entry call).Closes := by
  obtain ⟨-, -, -, hfreed⟩ := h.head_pending hbatch
  have hopen := h.open_of_batch hbatch
  refine hc.congr rfl ?_ ?_
  · intro d c
    cases c with
    | asyncConnect => exact Iff.rfl
    | onEventProcess =>
        simp only [ClosedBy, calls_callHandler, List.mem_append, List.mem_singleton, Prod.mk.injEq]
        constructor
        · rintro ⟨hd, hmem | ⟨rfl, -⟩⟩
          · exact ⟨hd, hmem⟩
          · exact absurd hd hfreed
        · rintro ⟨hd, hmem⟩
          exact ⟨hd, Or.inl hmem⟩
    | shutdown =>
        constructor
        · exact fun hby => absurd hby.1 hopen
        · exact fun hby => absurd hby.1 hopen
    | endpoint =>
        simp only [ClosedBy, fds_callHandler, List.mem_append, List.mem_singleton, Prod.mk.injEq, reduceCtorEq,
          and_false, or_false]
        exact Iff.rfl
  · intro p hp
    rw [fds_callHandler] at hp
    rcases List.mem_append.mp hp with hp | hp
    · exact hc.fds_eq p hp
    · rw [List.mem_singleton.mp hp]
      exact Or.inl rfl

/-- The handler returns. -/
theorem Held.handlerReturned (h : s.Held) (hret : s.handlerReturned = some s') : s'.Held := by
  obtain ⟨⟨entry, isConnect⟩, hrunning, rfl⟩ := Option.map_eq_some_iff.mp hret
  have heq : s.calls.map Prod.fst = s.freed ++ [entry] := by rw [h.calls_eq, hrunning]; rfl
  refine ⟨h.accepted_nodup, h.accepted_lt, h.records_nodup.erase _, ?_, ?_, h.calls_nodup, h.calls_accepted, ?_,
    h.interest_nodup, h.interest_pending, h.batch_nodup, h.batch_interest, ?_⟩
  · intro e
    show e ∈ s.records.erase entry ↔ _
    rw [h.records_nodup.mem_erase_iff, h.mem_records, List.mem_append, List.mem_singleton, not_or]
    constructor
    · rintro ⟨hne, hopen, hacc, hfreed⟩
      exact ⟨hopen, hacc, hfreed, hne⟩
    · rintro ⟨hopen, hacc, hfreed, hne⟩
      exact ⟨hne, hopen, hacc, hfreed⟩
  · show s.calls.map Prod.fst = (s.freed ++ [entry]) ++ []
    rw [heq, List.append_nil]
  · intro r hr
    cases hr
  · intro hshut
    have hnone := (h.idle hshut).2
    rw [hrunning] at hnone
    cases hnone

/-- A record has one call. -/
theorem Held.call_unique (h : s.Held) {e : Nat} {b b' : Bool} (hb : (e, b) ∈ s.calls) (hb' : (e, b') ∈ s.calls) :
    b = b' :=
  congrArg Prod.snd (List.inj_on_of_nodup_map h.calls_nodup hb hb' rfl)

/-- The return of a handler keeps the log of the `close` calls right. -/
theorem Closes.handlerReturned (hc : s.Closes) (h : s.Held) (hret : s.handlerReturned = some s') :
    s'.Closes := by
  obtain ⟨⟨entry, isConnect⟩, hrunning, rfl⟩ := Option.map_eq_some_iff.mp hret
  have hcall : (entry, isConnect) ∈ s.calls := h.running_mem _ hrunning
  have hfreed : entry ∉ s.freed := by
    intro hmem
    have hnodup := h.calls_nodup
    rw [h.calls_eq, hrunning] at hnodup
    exact (List.nodup_append.mp hnodup).2.2 entry hmem entry (List.mem_singleton.mpr rfl) rfl
  cases isConnect with
  | true =>
      refine hc.congr rfl ?_ hc.fds_eq
      intro d c
      cases c with
      | onEventProcess =>
          constructor
          · rintro ⟨hd, hmem⟩
            rcases List.mem_append.mp hd with hd | hd
            · exact ⟨hd, hmem⟩
            · rw [List.mem_singleton.mp hd] at hmem
              exact absurd (h.call_unique hcall hmem) (by decide)
          · rintro ⟨hd, hmem⟩
            exact ⟨List.mem_append_left _ hd, hmem⟩
      | asyncConnect => exact Iff.rfl
      | shutdown => exact Iff.rfl
      | endpoint => exact Iff.rfl
  | false =>
      refine hc.append [(entry, .onEventProcess)] rfl (List.nodup_singleton _) ?_ ?_ hc.fds_eq
      · intro d c hmem hby
        rw [List.mem_singleton, Prod.mk.injEq] at hmem
        obtain ⟨rfl, rfl⟩ := hmem
        exact hfreed hby.1
      · intro d c
        rw [List.mem_singleton, Prod.mk.injEq]
        cases c with
        | onEventProcess =>
            constructor
            · rintro ⟨hd, hmem⟩
              rcases List.mem_append.mp hd with hd | hd
              · exact Or.inl ⟨hd, hmem⟩
              · exact Or.inr ⟨List.mem_singleton.mp hd, rfl⟩
            · rintro (⟨hd, hmem⟩ | ⟨rfl, -⟩)
              · exact ⟨List.mem_append_left _ hd, hmem⟩
              · exact ⟨List.mem_append_right _ (List.mem_singleton.mpr rfl), hcall⟩
        | asyncConnect => exact ⟨Or.inl, fun hby => hby.elim id fun hnew => nomatch hnew.2⟩
        | shutdown => exact ⟨Or.inl, fun hby => hby.elim id fun hnew => nomatch hnew.2⟩
        | endpoint => exact ⟨Or.inl, fun hby => hby.elim id fun hnew => nomatch hnew.2⟩

/-! ### Endpoints -/

/-- Attaching changes neither the calls nor the descriptors. -/
theorem attach_some {ep : Nat} (h : s.attach ep = some s') :
    ∃ handed, s' = { s with handed } ∧ s'.calls = s.calls ∧ s'.fds = s.fds := by
  unfold attach at h
  split at h
  · rw [← Option.some.inj h]
    exact ⟨_, rfl, map_modify_eq _ _ (by intro h; rfl) _ _, map_modify_eq _ _ (by intro h; rfl) _ _⟩
  · cases h

/-- The endpoints without a descriptor, once another one has lost it. -/
theorem mem_fds_modify {l : List Handed} {ep : Nat} {h₀ : Handed} (h₀_mem : l[ep]? = some h₀)
    (p : Nat × Option Nat) :
    p ∈ (l.modify ep fun h => { h with fd := none }).map (fun h => (h.entry, h.fd)) →
      p = (h₀.entry, none) ∨ p ∈ l.map fun h => (h.entry, h.fd) := by
  intro hp
  obtain ⟨h, hmem, rfl⟩ := List.mem_map.mp hp
  obtain ⟨i, hi⟩ := List.mem_iff_getElem?.mp hmem
  rw [List.getElem?_modify] at hi
  obtain ⟨h₁, hat, rfl⟩ := Option.map_eq_some_iff.mp hi
  by_cases hep : ep = i
  · left
    rw [if_pos hep]
    rw [← hep, h₀_mem] at hat
    rw [Option.some.inj hat]
  · right
    rw [if_neg hep]
    exact List.mem_map.mpr ⟨h₁, List.mem_iff_getElem?.mpr ⟨i, hat⟩, rfl⟩

/-- Exactly the endpoint that is released has lost its descriptor. -/
theorem none_mem_fds_modify {l : List Handed} {ep : Nat} {h₀ : Handed} (h₀_mem : l[ep]? = some h₀) (d : Nat) :
    (d, none) ∈ (l.modify ep fun h => { h with fd := none }).map (fun h => (h.entry, h.fd)) ↔
      d = h₀.entry ∨ (d, none) ∈ l.map fun h => (h.entry, h.fd) := by
  constructor
  · intro hp
    rcases mem_fds_modify h₀_mem _ hp with heq | hmem
    · exact Or.inl (congrArg Prod.fst heq)
    · exact Or.inr hmem
  · intro hp
    obtain ⟨i, h, hat, hentry, hfd⟩ : ∃ i h, l[i]? = some h ∧ h.entry = d ∧ (i = ep ∨ h.fd = none) := by
      rcases hp with rfl | hp
      · exact ⟨ep, h₀, h₀_mem, rfl, Or.inl rfl⟩
      · obtain ⟨h, hmem, heq⟩ := List.mem_map.mp hp
        obtain ⟨i, hi⟩ := List.mem_iff_getElem?.mp hmem
        exact ⟨i, h, hi, congrArg Prod.fst heq, Or.inr (congrArg Prod.snd heq)⟩
    refine List.mem_map.mpr ⟨{ h with fd := none }, ?_, by rw [← hentry]⟩
    refine List.mem_iff_getElem?.mpr ⟨i, ?_⟩
    rw [List.getElem?_modify, hat]
    show some (if ep = i then { h with fd := none } else h) = _
    by_cases hi : ep = i
    · rw [if_pos hi]
    · rw [if_neg hi]
      rcases hfd with rfl | hfd
      · exact absurd rfl hi
      · rw [← hfd]

/-- Releasing closes the descriptor of one endpoint, if it has it. -/
theorem release_some {ep : Nat} (h : s.release ep = some s') :
    ∃ h₀ handed, s.handed[ep]? = some h₀ ∧
      s' = { s with closed := s.closed ++ h₀.fd.toList.map (·, .endpoint), handed } ∧ s'.calls = s.calls ∧
      (∀ d, (d, none) ∈ s'.fds ↔ d = h₀.entry ∨ (d, none) ∈ s.fds) ∧
      ∀ p ∈ s'.fds, p = (h₀.entry, none) ∨ p ∈ s.fds := by
  obtain ⟨h₀, hat, rfl⟩ := Option.map_eq_some_iff.mp h
  exact ⟨h₀, _, hat, rfl, map_modify_eq _ _ (by intro h; rfl) _ _, none_mem_fds_modify hat,
    mem_fds_modify hat⟩

/-- Only the calls and the logs matter to where the records are. -/
theorem Held.congr_handed (h : s.Held) {handed : List Handed} {closed : List (Nat × Closer)}
    (hcalls : ({ s with handed, closed } : TcpConnector).calls = s.calls) :
    ({ s with handed, closed } : TcpConnector).Held := by
  exact { h with
    calls_eq := by rw [hcalls]; exact h.calls_eq
    calls_nodup := by rw [hcalls]; exact h.calls_nodup
    calls_accepted := by rw [hcalls]; exact h.calls_accepted
    running_mem := by rw [hcalls]; exact h.running_mem
    interest_pending := by rw [hcalls]; exact h.interest_pending }

/-- An attachment keeps the records in place. -/
theorem Held.attach (h : s.Held) {ep : Nat} (hattach : s.attach ep = some s') : s'.Held := by
  obtain ⟨handed, rfl, hcalls, -⟩ := attach_some hattach
  exact h.congr_handed hcalls

/-- An endpoint that gives its descriptor up keeps the records in place. -/
theorem Held.release (h : s.Held) {ep : Nat} (hrel : s.release ep = some s') : s'.Held := by
  obtain ⟨h₀, handed, -, rfl, hcalls, -⟩ := release_some hrel
  exact h.congr_handed hcalls

/-- An attachment keeps the log of the `close` calls right. -/
theorem Closes.attach (hc : s.Closes) {ep : Nat} (hattach : s.attach ep = some s') : s'.Closes := by
  obtain ⟨handed, rfl, hcalls, hfds⟩ := attach_some hattach
  refine hc.congr rfl ?_ (by rw [hfds]; exact hc.fds_eq)
  intro d c
  cases c with
  | asyncConnect => exact Iff.rfl
  | onEventProcess => rw [ClosedBy, hcalls]; exact Iff.rfl
  | shutdown => rw [ClosedBy, hcalls]; exact Iff.rfl
  | endpoint => rw [ClosedBy, hfds]; exact Iff.rfl

/-- The endpoints were made for the calls. -/
theorem map_fst_fds (s : TcpConnector) : s.fds.map Prod.fst = s.calls.map Prod.fst := by
  simp [fds, calls]

/-- An endpoint belongs to a handler call. -/
theorem mem_calls_of_fd {e : Nat} {fd : Option Nat} (h : (e, fd) ∈ s.fds) : e ∈ s.calls.map Prod.fst := by
  rw [← map_fst_fds]
  exact List.mem_map.mpr ⟨_, h, rfl⟩

/-- An endpoint that has its descriptor has not lost it. -/
theorem Held.fd_unique (h : s.Held) {e : Nat} {fd fd' : Option Nat} (hfd : (e, fd) ∈ s.fds)
    (hfd' : (e, fd') ∈ s.fds) : fd = fd' := by
  have hnodup := h.calls_nodup
  rw [← map_fst_fds] at hnodup
  exact congrArg Prod.snd (List.inj_on_of_nodup_map hnodup hfd hfd' rfl)

/-- An endpoint that closes its descriptor keeps the log of the `close` calls right. -/
theorem Closes.release (hc : s.Closes) (h : s.Held) {ep : Nat} (hrel : s.release ep = some s') : s'.Closes := by
  obtain ⟨h₀, handed, hat, rfl, hcalls, hnone, hfds⟩ := release_some hrel
  have hmem : (h₀.entry, h₀.fd) ∈ s.fds :=
    List.mem_map.mpr ⟨h₀, List.mem_iff_getElem?.mpr ⟨ep, hat⟩, rfl⟩
  -- the descriptor that is closed is that of the record, if the endpoint still has one
  have hnew : ∀ d c, (d, c) ∈ h₀.fd.toList.map (·, Closer.endpoint) ↔
      c = .endpoint ∧ d = h₀.entry ∧ h₀.fd ≠ none := by
    intro d c
    have hfd₀ : h₀.fd = some h₀.entry ∨ h₀.fd = none := hc.fds_eq _ hmem
    rcases hfd₀ with hfd | hfd
    · simp [hfd, and_comm]
    · simp [hfd]
  refine hc.append (h₀.fd.toList.map (·, Closer.endpoint)) rfl ?_ ?_ ?_ ?_
  · cases h₀.fd with
    | none => exact List.nodup_nil
    | some d => exact List.nodup_singleton _
  · intro d c hd hby
    obtain ⟨rfl, rfl, hsome⟩ := (hnew d c).mp hd
    exact hsome (h.fd_unique hmem hby)
  · intro d c
    rw [hnew]
    cases c with
    | asyncConnect => simp [ClosedBy]
    | onEventProcess => simp [ClosedBy, hcalls]
    | shutdown => simp [ClosedBy, hcalls]
    | endpoint =>
        rw [ClosedBy, ClosedBy, hnone]
        constructor
        · rintro (rfl | hd)
          · by_cases hnone : h₀.fd = none
            · rw [hnone] at hmem
              exact Or.inl hmem
            · exact Or.inr ⟨rfl, rfl, hnone⟩
          · exact Or.inl hd
        · rintro (hd | ⟨-, rfl, -⟩)
          · exact Or.inr hd
          · exact Or.inl rfl
  · intro p hp
    rcases hfds p hp with rfl | hp
    · exact Or.inr rfl
    · exact hc.fds_eq p hp

/-! ### `Shutdown` -/

/-- `Shutdown` keeps the records in place. -/
theorem Held.shutdown (h : s.Held) (hshut : s.shutdown = some s') : s'.Held := by
  rcases shutdown_some hshut with rfl | ⟨-, hidle, rfl⟩
  · exact h
  · exact { h with
      records_nodup := List.nodup_nil
      mem_records := by simp
      interest_nodup := List.nodup_nil
      interest_pending := fun e he => nomatch he
      batch_interest := fun e he => by rw [hidle.1] at he; cases he
      idle := fun _ => hidle }

/-- `Shutdown` keeps the log of the `close` calls right. -/
theorem Closes.shutdown (hc : s.Closes) (h : s.Held) (hshut : s.shutdown = some s') : s'.Closes := by
  rcases shutdown_some hshut with rfl | ⟨hopen, hidle, rfl⟩
  · exact hc
  · have hnot : ∀ d, ¬ s.ClosedBy d .shutdown := fun d hby => absurd hby.1 (by rw [hopen]; decide)
    have hmem : ∀ d c, (d, c) ∈ s.records.map (·, Closer.shutdown) ↔ c = .shutdown ∧ d ∈ s.records := by
      intro d c
      simp [and_comm, eq_comm]
    refine hc.append (s.records.map (·, Closer.shutdown)) rfl ?_ ?_ ?_ hc.fds_eq
    · exact h.records_nodup.map fun _ _ heq => congrArg Prod.fst heq
    · intro d c hd
      obtain ⟨rfl, -⟩ := (hmem d c).mp hd
      exact hnot d
    · intro d c
      rw [hmem]
      cases c with
      | asyncConnect => simp [ClosedBy]
      | onEventProcess => simp [ClosedBy, calls]
      | endpoint => simp [ClosedBy, fds]
      | shutdown =>
          -- the records in the set are those without a call
          show true = true ∧ d ∈ s.accepted ∧ d ∉ s.calls.map Prod.fst ↔ s.ClosedBy d .shutdown ∨ _
          rw [h.mem_records, h.calls_eq_freed hidle.2]
          constructor
          · rintro ⟨-, hd⟩
            exact Or.inr ⟨rfl, hopen, hd⟩
          · rintro (hby | ⟨-, -, hd⟩)
            · exact absurd hby (hnot d)
            · exact ⟨rfl, hd⟩

/-! ### Every run -/

/-- `AsyncConnect` keeps the accounts. -/
theorem held_asyncConnect (h : s.Held) (hopen : s.isShutdown = false) (user : Int64)
    (outcome : ConnectOutcome) : (s.asyncConnect user outcome).Held := by
  cases outcome with
  | unprepared opened =>
      cases opened with
      | false => exact h
      | true => exact held_refused h
  | connected errno added =>
      rw [asyncConnect]
      split
      · exact held_refused h
      · cases added with
        | false => exact held_accepted h hopen (Or.inr rfl)
        | true => exact held_accepted h hopen (Or.inl rfl)

/-- `Connect` keeps the log of the `close` calls right. -/
theorem closes_asyncConnect (hc : s.Closes) (h : s.Held) (hopen : s.isShutdown = false) (user : Int64)
    (outcome : ConnectOutcome) : (s.asyncConnect user outcome).Closes := by
  cases outcome with
  | unprepared opened =>
      cases opened with
      | false => exact hc
      | true => exact closes_refused h hc
  | connected errno added =>
      rw [asyncConnect]
      split
      · exact closes_refused h hc
      · exact closes_accepted hc hopen

/-- Every step keeps the accounts. -/
theorem held_exec (h : s.Held) {a : ConnectorAction} (hstep : s.exec a = some s') : s'.Held := by
  cases a with
  | connect user outcome =>
      obtain ⟨hopen, rfl⟩ := connect_some hstep
      exact held_asyncConnect h hopen user outcome
  | polling batch =>
      obtain ⟨⟨hopen, hnodup, hwatched⟩, rfl⟩ := polling_some hstep
      refine { h with
        batch_nodup := hnodup
        batch_interest := ?_
        idle := fun hshut => absurd hopen (by rw [hshut]; decide) }
      intro e he
      obtain ⟨ev, hev, rfl⟩ := List.mem_map.mp he
      exact hwatched ev hev
  | onEventProcess errorCode =>
      obtain ⟨entry, events, rest, call, hidle, hbatch, rfl⟩ := onEventProcess_some hstep
      exact h.callHandler hidle hbatch call
  | handlerReturned => exact h.handlerReturned hstep
  | attach ep => exact h.attach hstep
  | endpointClose ep found =>
      rcases endpointClose_some hstep with rfl | ⟨-, -, -, hrel⟩
      · exact h
      · exact h.release hrel
  | containerClose ep =>
      obtain ⟨-, -, hrel⟩ := containerClose_some hstep
      exact h.release hrel
  | shutdown => exact h.shutdown hstep

/-- Every step keeps the log of the `close` calls right. -/
theorem closes_exec (hc : s.Closes) (h : s.Held) {a : ConnectorAction} (hstep : s.exec a = some s') :
    s'.Closes := by
  cases a with
  | connect user outcome =>
      obtain ⟨hopen, rfl⟩ := connect_some hstep
      exact closes_asyncConnect hc h hopen user outcome
  | polling batch =>
      obtain ⟨-, rfl⟩ := polling_some hstep
      exact hc.congr rfl (fun d c => by cases c <;> exact Iff.rfl) hc.fds_eq
  | onEventProcess errorCode =>
      obtain ⟨entry, events, rest, call, -, hbatch, rfl⟩ := onEventProcess_some hstep
      exact hc.callHandler h hbatch call
  | handlerReturned => exact hc.handlerReturned h hstep
  | attach ep => exact hc.attach hstep
  | endpointClose ep found =>
      rcases endpointClose_some hstep with rfl | ⟨-, -, -, hrel⟩
      · exact hc
      · exact hc.release h hrel
  | containerClose ep =>
      obtain ⟨-, -, hrel⟩ := containerClose_some hstep
      exact hc.release h hrel
  | shutdown => exact hc.shutdown h hstep

/-- The accounts hold in every run. -/
theorem accounts_of_reachable (hs : connectorMachine.Reachable s) : s.Held ∧ s.Closes := by
  apply hs.invariant fun s => s.Held ∧ s.Closes
  · exact ⟨held_init, closes_init⟩
  · intro s a s' _ _ h hstep
    exact ⟨held_exec h.1 hstep, closes_exec h.2 h.1 hstep⟩

end TcpConnector

end RaptorLite
