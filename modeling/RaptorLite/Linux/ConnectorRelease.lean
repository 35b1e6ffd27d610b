import RaptorLite.Linux.ConnectorAccounts

/-! # What the connector releases

A descriptor of a `TcpConnector` (`linux/tcp_connector.cc`) is closed twice exactly if its endpoint went to
`OnErrorOccurred` and was closed through the endpoint as well, since `OnEventProcess` closes it behind the
handler; and a record is never freed exactly if it is pending when `Shutdown` clears the set. Both are read off
the accounts. -/

namespace RaptorLite

namespace TcpConnector

variable {s s' : TcpConnector}

/-! ### Released exactly once -/

/-- Records are freed exactly once, handlers are called at most once for each, and no descriptor is closed
twice. -/
structure ReleasedOnce (s : TcpConnector) : Prop where
  /-- Behind `Shutdown` every record is out of the set and freed exactly once. -/
  freed : s.isShutdown = true → ∀ e ∈ s.accepted, e ∉ s.records ∧ s.freed.count e = 1
  /-- An accepted `Connect` causes at most one handler call. -/
  called : ∀ e, (s.handed.map Handed.entry).count e ≤ 1
  /-- A descriptor is closed at most once. -/
  closed : (s.closed.map Prod.fst).Nodup

/-- No endpoint that went to `OnErrorOccurred` has lost its descriptor. -/
def RefusedKept (s : TcpConnector) : Prop := ∀ e, (e, false) ∈ s.calls → (e, none) ∉ s.fds

/-- Refused attempts are kept exactly when every handed-over one that did not connect still has its descriptor. -/
theorem refusedKept_iff (h : s.Held) :
    s.RefusedKept ↔ ∀ h ∈ s.handed, h.call.isConnect = false → h.fd ≠ none := by
  constructor
  · intro hkept h₀ hmem hrefused hnone
    refine hkept h₀.entry (List.mem_map.mpr ⟨h₀, hmem, by rw [hrefused]⟩) ?_
    exact List.mem_map.mpr ⟨h₀, hmem, by rw [hnone]⟩
  · intro hall e hrefused hnone
    obtain ⟨h₀, hmem, heq⟩ := List.mem_map.mp hrefused
    obtain ⟨rfl, hcall⟩ := Prod.mk.inj heq
    exact hall h₀ hmem hcall (h.fd_unique (List.mem_map.mpr ⟨h₀, hmem, rfl⟩) hnone)

/-- A descriptor tells who may have closed it. -/
theorem ClosedBy.cases (h : s.Held) {d : Nat} {c : Closer} (hby : s.ClosedBy d c) :
    (c = .asyncConnect ∧ d ∉ s.accepted) ∨ (c = .shutdown ∧ d ∈ s.accepted ∧ d ∉ s.calls.map Prod.fst) ∨
      ((c = .onEventProcess ∨ c = .endpoint) ∧ d ∈ s.accepted ∧ d ∈ s.calls.map Prod.fst) := by
  cases c with
  | asyncConnect => exact Or.inl ⟨rfl, hby.2⟩
  | shutdown => exact Or.inr (Or.inl ⟨rfl, hby.2⟩)
  | onEventProcess =>
      have hcalled : d ∈ s.calls.map Prod.fst := List.mem_map.mpr ⟨_, hby.2, rfl⟩
      exact Or.inr (Or.inr ⟨Or.inl rfl, h.calls_accepted d hcalled, hcalled⟩)
  | endpoint =>
      have hcalled := mem_calls_of_fd hby
      exact Or.inr (Or.inr ⟨Or.inr rfl, h.calls_accepted d hcalled, hcalled⟩)

/-- A descriptor is closed twice exactly if its endpoint went to `OnErrorOccurred` and was closed as well. -/
theorem closed_nodup_iff (h : s.Held) (hc : s.Closes) :
    (s.closed.map Prod.fst).Nodup ↔ ∀ e ∈ s.freed, (e, false) ∈ s.calls → (e, none) ∉ s.fds := by
  constructor
  · intro hnodup e hfreed hrefused hnone
    have hfirst := (hc.mem e .onEventProcess).mpr ⟨hfreed, hrefused⟩
    have hsecond := (hc.mem e .endpoint).mpr hnone
    have heq := List.inj_on_of_nodup_map hnodup hfirst hsecond rfl
    cases heq
  · intro hall
    refine List.Nodup.map_on ?_ hc.nodup
    rintro ⟨d, c⟩ hp ⟨d', c'⟩ hq heq
    obtain rfl : d = d' := heq
    have hby := (hc.mem d c).mp hp
    have hby' := (hc.mem d c').mp hq
    rcases hby.cases h with ⟨rfl, hacc⟩ | ⟨rfl, hacc, hcalled⟩ | ⟨hwho, hacc, hcalled⟩
    · rcases hby'.cases h with ⟨rfl, -⟩ | ⟨-, hacc', -⟩ | ⟨-, hacc', -⟩
      · rfl
      · exact absurd hacc' hacc
      · exact absurd hacc' hacc
    · rcases hby'.cases h with ⟨-, hacc'⟩ | ⟨rfl, -⟩ | ⟨-, -, hcalled'⟩
      · exact absurd hacc hacc'
      · rfl
      · exact absurd hcalled' hcalled
    · rcases hby'.cases h with ⟨-, hacc'⟩ | ⟨-, -, hcalled'⟩ | ⟨hwho', -, -⟩
      · exact absurd hacc hacc'
      · exact absurd hcalled hcalled'
      · rcases hwho with rfl | rfl
        · rcases hwho' with rfl | rfl
          · rfl
          · exact absurd hby' (hall d hby.1 hby.2)
        · rcases hwho' with rfl | rfl
          · exact absurd hby (hall d hby'.1 hby'.2)
          · rfl

/-- Everything is released exactly once if no record was left to `Shutdown` and no endpoint of a failed attempt
was closed before its handler returned, and not otherwise. -/
theorem releasedOnce_iff (h : s.Held) (hc : s.Closes) :
    s.ReleasedOnce ↔ (s.isShutdown = true → ∀ e ∈ s.accepted, e ∈ s.calls.map Prod.fst) ∧
      ∀ e ∈ s.freed, (e, false) ∈ s.calls → (e, none) ∉ s.fds := by
  have hentries : s.handed.map Handed.entry = s.calls.map Prod.fst := by simp [calls]
  -- behind `Shutdown` no handler is running
  have hfreed : s.isShutdown = true → s.calls.map Prod.fst = s.freed :=
    fun hshut => h.calls_eq_freed (h.idle hshut).2
  constructor
  · intro honce
    refine ⟨fun hshut e he => ?_, (closed_nodup_iff h hc).mp honce.closed⟩
    rw [hfreed hshut]
    exact List.count_pos_iff.mp (by rw [(honce.freed hshut e he).2]; exact Nat.one_pos)
  · rintro ⟨hall, hkept⟩
    refine ⟨fun hshut e he => ⟨fun hmem => ?_, ?_⟩, fun e => ?_, (closed_nodup_iff h hc).mpr hkept⟩
    · have hopen := ((h.mem_records e).mp hmem).1
      rw [hshut] at hopen
      cases hopen
    · have hnodup := h.calls_nodup
      rw [hfreed hshut] at hnodup
      apply List.count_eq_one_of_mem hnodup
      rw [← hfreed hshut]
      exact hall hshut e he
    · rw [hentries]
      exact List.nodup_iff_count_le_one.mp h.calls_nodup e

/-- No record is pending when `Shutdown` clears the set, and an endpoint that went to `OnErrorOccurred` is not
closed, neither by the application nor by a container. -/
def ReleaseSafe (s : TcpConnector) : ConnectorAction → Prop
  | .shutdown => s.records = []
  | .endpointClose ep found => ∀ h, s.handed[ep]? = some h → h.call.isConnect = false →
      h.hasContainer = true ∧ found = false
  | .containerClose ep => ∀ h, s.handed[ep]? = some h → h.call.isConnect = true
  | _ => True

instance (s : TcpConnector) (a : ConnectorAction) : Decidable (s.ReleaseSafe a) :=
  match a with
  | .shutdown => inferInstanceAs (Decidable (s.records = []))
  | .endpointClose ep found => inferInstanceAs
      (Decidable (∀ h ∈ s.handed[ep]?, h.call.isConnect = false → h.hasContainer = true ∧ found = false))
  | .containerClose ep => inferInstanceAs (Decidable (∀ h ∈ s.handed[ep]?, h.call.isConnect = true))
  | .connect _ _ => isTrue trivial
  | .polling _ => isTrue trivial
  | .onEventProcess _ => isTrue trivial
  | .handlerReturned => isTrue trivial
  | .attach _ => isTrue trivial

/-- What the safe steps keep. -/
structure Safe (s : TcpConnector) : Prop where
  /-- No endpoint of a failed attempt has been closed. -/
  kept : s.RefusedKept
  /-- `Shutdown` found no record. -/
  called : s.isShutdown = true → ∀ e ∈ s.accepted, e ∈ s.calls.map Prod.fst

/-- Releasing the connection of a handed-over endpoint keeps the connector safe. -/
theorem Safe.release (hsafe : s.Safe) (h : s.Held) {ep : Nat} {h₀ : Handed} (hat : s.handed[ep]? = some h₀)
    (hconnected : h₀.call.isConnect = true) (hrel : s.release ep = some s') : s'.Safe := by
  obtain ⟨h₁, handed, hat', rfl, hcalls, hnone, -⟩ := release_some hrel
  rw [hat] at hat'
  obtain rfl := Option.some.inj hat'
  have hcall : (h₀.entry, true) ∈ s.calls := by
    rw [← hconnected]
    exact List.mem_map.mpr ⟨h₀, List.mem_iff_getElem?.mpr ⟨ep, hat⟩, rfl⟩
  refine ⟨?_, ?_⟩
  · intro e hrefused hlost
    rw [hcalls] at hrefused
    rcases (hnone e).mp hlost with rfl | hlost
    · exact absurd (h.call_unique hcall hrefused) (by decide)
    · exact hsafe.kept e hrefused hlost
  · rw [hcalls]
    exact hsafe.called

/-- Calling the handler for the next event of a batch keeps the connector safe. -/
theorem Safe.callHandler (hsafe : s.Safe) (h : s.Held) {entry : Nat} {events : UInt32}
    {rest : List (Nat × UInt32)} (hbatch : s.batch = (entry, events) :: rest) (call : HandlerCall) :
    ({ s with batch := rest }.callHandler entry call).Safe := by
  obtain ⟨-, -, hcalls, -⟩ := h.head_pending hbatch
  refine ⟨?_, ?_⟩
  · intro e hrefused hnone
    rw [calls_callHandler] at hrefused
    rw [fds_callHandler] at hnone
    -- the new endpoint has its descriptor
    have hold : (e, none) ∈ s.fds := by
      rcases List.mem_append.mp hnone with hnone | hnone
      · exact hnone
      · cases List.mem_singleton.mp hnone
    rcases List.mem_append.mp hrefused with hrefused | hrefused
    · exact hsafe.kept e hrefused hold
    · obtain ⟨rfl, -⟩ := Prod.mk.inj (List.mem_singleton.mp hrefused)
      exact hcalls (mem_calls_of_fd hold)
  · intro hshut e he
    rw [calls_callHandler, List.map_append]
    exact List.mem_append_left _ (hsafe.called hshut e he)

/-- An attempt made before `Shutdown` keeps the connector safe. -/
theorem safe_asyncConnect (hsafe : s.Safe) (hopen : s.isShutdown = false) (user : Int64)
    (outcome : ConnectOutcome) : (s.asyncConnect user outcome).Safe := by
  have hcalls : (s.asyncConnect user outcome).calls = s.calls ∧ (s.asyncConnect user outcome).fds = s.fds ∧
      (s.asyncConnect user outcome).isShutdown = s.isShutdown := by
    cases outcome with
    | unprepared opened => cases opened <;> exact ⟨rfl, rfl, rfl⟩
    | connected errno added =>
        rw [asyncConnect]
        split <;> exact ⟨rfl, rfl, rfl⟩
  refine ⟨?_, ?_⟩
  · intro e
    rw [hcalls.1, hcalls.2.1]
    exact hsafe.kept e
  · intro hshut
    rw [hcalls.2.2, hopen] at hshut
    cases hshut

/-- Every step that meets the condition keeps the connector safe. -/
theorem safe_exec (hsafe : s.Safe) (h : s.Held) {a : ConnectorAction} (hok : s.ReleaseSafe a)
    (hstep : s.exec a = some s') : s'.Safe := by
  cases a with
  | connect user outcome =>
      obtain ⟨hopen, rfl⟩ := connect_some hstep
      exact safe_asyncConnect hsafe hopen user outcome
  | polling batch =>
      obtain ⟨-, rfl⟩ := polling_some hstep
      exact ⟨hsafe.kept, hsafe.called⟩
  | onEventProcess errorCode =>
      obtain ⟨entry, events, rest, call, -, hbatch, rfl⟩ := onEventProcess_some hstep
      exact hsafe.callHandler h hbatch call
  | handlerReturned =>
      obtain ⟨r, -, rfl⟩ := Option.map_eq_some_iff.mp hstep
      exact ⟨hsafe.kept, hsafe.called⟩
  | attach ep =>
      obtain ⟨handed, rfl, hcalls, hfds⟩ := attach_some hstep
      refine ⟨?_, ?_⟩
      · intro e
        rw [hcalls, hfds]
        exact hsafe.kept e
      · rw [hcalls]
        exact hsafe.called
  | endpointClose ep found =>
      rcases endpointClose_some hstep with rfl | ⟨h₀, hat, hfound, hrel⟩
      · exact hsafe
      · refine hsafe.release h hat ?_ hrel
        by_contra hrefused
        obtain ⟨hattached, hnot⟩ := hok h₀ hat (by simpa using hrefused)
        rw [hfound hattached] at hnot
        cases hnot
  | containerClose ep =>
      obtain ⟨h₀, hat, hrel⟩ := containerClose_some hstep
      exact hsafe.release h hat (hok h₀ hat) hrel
  | shutdown =>
      rcases shutdown_some hstep with rfl | ⟨hopen, -, rfl⟩
      · exact hsafe
      · refine ⟨hsafe.kept, fun _ e he => ?_⟩
        -- a record that is not freed would still be in the set
        by_contra hpending
        have hmem : e ∈ s.records :=
          (h.mem_records e).mpr ⟨hopen, he, fun hfreed => hpending (h.called_of_freed hfreed)⟩
        rw [show s.records = [] from hok] at hmem
        cases hmem

end TcpConnector

/-- **The connector releases everything exactly once** in every run in which `Shutdown` finds no pending record
and no endpoint given to `OnErrorOccurred` is closed. In every run at all, the state behind `Shutdown` shows
exactly this: every accepted attempt had its handler call before, and every endpoint of a failed one still has
its descriptor. -/
theorem connector_releases_once (s : TcpConnector) (hs : connectorMachine.Reachable s) :
    (connectorMachine.Reaches TcpConnector.ReleaseSafe s → s.ReleasedOnce) ∧
    (s.isShutdown = true →
      (s.ReleasedOnce ↔ (∀ e ∈ s.accepted, ∃ h ∈ s.handed, h.entry = e) ∧
        ∀ h ∈ s.handed, h.call.isConnect = false → h.fd ≠ none)) := by
  obtain ⟨h, hc⟩ := TcpConnector.accounts_of_reachable hs
  constructor
  · intro hsafe
    have hkept : s.Safe := by
      have hall : s.Held ∧ s.Safe := by
        apply hsafe.invariant fun s => s.Held ∧ s.Safe
        · exact ⟨TcpConnector.held_init, ⟨fun e he => (nomatch he), fun _ e he => (nomatch he)⟩⟩
        · intro s a s' _ hok h hstep
          exact ⟨TcpConnector.held_exec h.1 hstep, TcpConnector.safe_exec h.2 h.1 hok hstep⟩
      exact hall.2
    exact (TcpConnector.releasedOnce_iff h hc).mpr ⟨hkept.called, fun e _ => hkept.kept e⟩
  · intro hshut
    have hfreed : s.calls.map Prod.fst = s.freed := h.calls_eq_freed (h.idle hshut).2
    have hcalled : ∀ e, e ∈ s.calls.map Prod.fst ↔ ∃ h ∈ s.handed, h.entry = e := by
      intro e
      simp [TcpConnector.calls]
    rw [TcpConnector.releasedOnce_iff h hc, ← TcpConnector.refusedKept_iff h]
    constructor
    · rintro ⟨hall, hkept⟩
      refine ⟨fun e he => (hcalled e).mp (hall hshut e he), fun e hrefused => hkept e ?_ hrefused⟩
      rw [← hfreed]
      exact List.mem_map.mpr ⟨_, hrefused, rfl⟩
    · rintro ⟨hall, hkept⟩
      exact ⟨fun _ e he => (hcalled e).mpr (hall e he), fun e _ => hkept e⟩

/-- One attempt that succeeds, whose endpoint the handler closes, one that is refused, and `Shutdown`: every step meets
the condition, and both attempts had their handler call. -/
theorem connector_releases_once_two_attempts :
    ∃ s : TcpConnector,
      connectorMachine.run connectorMachine.init
        [.connect 9 (.connected eInProgress true), .connect 8 (.connected eInProgress true),
          .polling [(0, epollOut), (1, epollOut ||| epollErr)], .onEventProcess 0, .endpointClose 0 false,
          .handlerReturned, .onEventProcess 111, .handlerReturned, .shutdown] = some s ∧
      s.ReleasedOnce ∧ s.freed = [0, 1] ∧ s.closed = [(0, .endpoint), (1, .onEventProcess)] ∧
      ∀ e ∈ s.accepted, ∃ h ∈ s.handed, h.entry = e := by
  obtain ⟨s, hguard, hshut, hfreed, hclosed⟩ : ∃ s : TcpConnector,
      (connectorMachine.guard TcpConnector.ReleaseSafe).run connectorMachine.init
        [.connect 9 (.connected eInProgress true), .connect 8 (.connected eInProgress true),
          .polling [(0, epollOut), (1, epollOut ||| epollErr)], .onEventProcess 0, .endpointClose 0 false,
          .handlerReturned, .onEventProcess 111, .handlerReturned, .shutdown] = some s ∧
      s.isShutdown = true ∧ s.freed = [0, 1] ∧ s.closed = [(0, .endpoint), (1, .onEventProcess)] :=
    ⟨_, rfl, rfl, rfl, rfl⟩
  have hrun := Machine.run_of_guard_run hguard
  obtain ⟨hsafe, hiff⟩ := connector_releases_once s (Machine.reachable_of_run hrun)
  have hreleased := hsafe (Machine.reaches_of_guard_run .init hguard)
  exact ⟨s, hrun, hreleased, hfreed, hclosed, ((hiff hshut).mp hreleased).1⟩

/-- A refused attempt whose handler closes the endpoint: the descriptor is closed twice. An attempt that is
pending at `Shutdown`: its record is never freed. -/
theorem refused_endpoint_closed_twice :
    (∃ s : TcpConnector,
      connectorMachine.run connectorMachine.init
        [.connect 9 (.connected eInProgress true), .polling [(0, epollOut ||| epollErr)], .onEventProcess 111,
          .endpointClose 0 false, .handlerReturned, .shutdown] = some s ∧
      s.closed = [(0, .endpoint), (0, .onEventProcess)] ∧ ¬ s.ReleasedOnce) ∧
    ∃ s : TcpConnector,
      connectorMachine.run connectorMachine.init [.connect 9 (.connected eInProgress true), .shutdown] = some s ∧
      s.accepted = [0] ∧ s.isShutdown = true ∧ s.freed = [] ∧ ¬ s.ReleasedOnce := by
  refine ⟨⟨_, rfl, rfl, fun h => ?_⟩, _, rfl, rfl, rfl, rfl, fun h => ?_⟩
  · exact absurd h.closed (by decide)
  · exact absurd (h.freed rfl 0 (List.mem_singleton.mpr rfl)).2 (by decide)

end RaptorLite
