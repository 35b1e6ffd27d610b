import RaptorLite.Linux.ConnectionThreads

/-! # Closing a connection

The test at the head of `Connection::Shutdown` and the mark that makes it fail are separate steps. The connection is
closed once when no thread passes the test while another one is on its way from the test to the mark: a thread in
between is then alone, as if it held a lock. -/

namespace RaptorLite

open Connection

namespace ConnThreads

variable {ι : Type} [DecidableEq ι] {opt : ContainerOption} {s s' : ConnThreads ι}

/-! ### What a step means for the closing -/

/-- The close events that were queued, in order. -/
def closeEvents (s : ConnThreads ι) : List Event := s.queue.filterMap TcpMessage.closeEvent?

/-- What closing is about is the same in both states. -/
structure SameClose (s s' : ConnThreads ι) : Prop where
  /-- The endpoint. -/
  endpoint : s'.endpoint = s.endpoint
  /-- The descriptors closed. -/
  closed : s'.closed = s.closed
  /-- The first to find the endpoint online. -/
  first : s'.first = s.first
  /-- The close events. -/
  closeEvents : s'.closeEvents = s.closeEvents

/-- What a step does to the closing of the connection. -/
inductive CloseStep (opt : ContainerOption) (s : ConnThreads ι) : ConnAction ι → ConnThreads ι → Prop
  /-- Nothing, and at most threads outside move. -/
  | outside {a : ConnAction ι} {s' : ConnThreads ι} (hsame : SameClose s s')
      (hpcs : ∀ u, s'.pcs u = s.pcs u ∨ (s.pcs u).inside = false ∧ (s'.pcs u).inside = false) :
      CloseStep opt s a s'
  /-- A thread finds the endpoint online. -/
  | enter (t : ι) (notify : Bool) (ev : Event) (outcome : RecvResult) (errno : Errno)
      (hpc : s.pcs t = .isOnline notify ev) (hon : s.endpoint.isOnline = true) :
      CloseStep opt s (.advance t outcome errno)
        { s.goto t (.deleteRecv notify ev) with first := s.first.or (some (notify, ev)) }
  /-- A thread deletes the socket from a poller. -/
  | delete {a : ConnAction ι} {s' : ConnThreads ι} (t : ι) (notify : Bool) (ev : Event)
      (hpc : s.pcs t = .deleteRecv notify ev ∧ s'.pcs = Function.update s.pcs t (.deleteSend notify ev) ∨
        s.pcs t = .deleteSend notify ev ∧ s'.pcs = Function.update s.pcs t (.close notify ev))
      (hsame : SameClose s s') : CloseStep opt s a s'
  /-- A thread closes the descriptor. -/
  | close {a : ConnAction ι} (t : ι) (notify : Bool) (ev : Event) (hpc : s.pcs t = .close notify ev) :
      CloseStep opt s a { s.goto t (.mark notify ev) with
        closed := s.closed ++ (setSocketShutdown s.endpoint.fd).toList }
  /-- A thread marks the endpoint. -/
  | mark {a : ConnAction ι} (t : ι) (notify : Bool) (ev : Event) (hpc : s.pcs t = .mark notify ev) :
      CloseStep opt s a { s.goto t (if notify then .onClosed ev else .clearRcv) with
        endpoint := { s.endpoint with fd := closedFd } }
  /-- A thread calls `OnClosed`. -/
  | onClosed {a : ConnAction ι} (t : ι) (ev : Event) (hpc : s.pcs t = .onClosed ev) :
      CloseStep opt s a { s.goto t .clearRcv with
        queue := s.queue ++ ContainerState.onClosed opt s.connection.endpoint ev }

/-- A thread moves outside. -/
theorem CloseStep.move {a : ConnAction ι} {t : ι} {pc : ConnPc} (hpc : (s.pcs t).inside = false)
    (hpc' : pc.inside = false) (hpcs : s'.pcs = Function.update s.pcs t pc) (hsame : SameClose s s') :
    CloseStep opt s a s' := by
  refine .outside hsame ?_
  intro u
  rw [hpcs]
  by_cases hu : u = t
  · subst hu
    rw [Function.update_self]
    exact Or.inr ⟨hpc, hpc'⟩
  · exact Or.inl (Function.update_of_ne hu _ _)

omit [DecidableEq ι] in
/-- A step that leaves the public state leaves what closing is about. -/
theorem SamePublic.sameClose (h : SamePublic s s') : SameClose s s' :=
  ⟨h.endpoint, h.closed, h.first, by rw [closeEvents, h.queue, closeEvents]⟩

/-- An advance of a thread is a step of closing. -/
theorem closeStep_of_advanceStep {t : ι} {outcome : RecvResult} {errno : Errno}
    (h : AdvanceStep opt s t s') : CloseStep opt s (.advance t outcome errno) s' := by
  cases h with
  | move pc hpc hpc' hhand hpcs hsame => exact .move hpc hpc' hpcs hsame.sameClose
  | enter notify ev hpc hon => exact .enter t notify ev outcome errno hpc hon
  | deleteRecv notify ev hpc hpcs hsame => exact .delete t notify ev (Or.inl ⟨hpc, hpcs⟩) hsame.sameClose
  | deleteSend notify ev hpc hpcs hsame => exact .delete t notify ev (Or.inr ⟨hpc, hpcs⟩) hsame.sameClose
  | close notify ev hpc => exact .close t notify ev hpc
  | mark notify ev hpc => exact .mark t notify ev hpc
  | onClosed ev hpc => exact .onClosed t ev hpc
  | receive slices after rcv hpc hopen => exact .move (by rw [hpc]; rfl) rfl rfl ⟨rfl, rfl, rfl, rfl⟩
  | push slice rest after hpc =>
      refine .move (by rw [hpc]; rfl) rfl rfl ⟨rfl, rfl, rfl, ?_⟩
      -- a data message is no close event
      show (s.queue ++ [_]).filterMap _ = s.queue.filterMap _
      rw [List.filterMap_append]
      exact List.append_nil _

/-- Every step is of one of these kinds. -/
theorem closeStep_of_exec {a : ConnAction ι} (h : s.exec opt a = some s') : CloseStep opt s a s' := by
  cases a with
  | attachImpl =>
      rw [exec, Option.ite_none_right_eq_some] at h
      cases h.2
      exact .outside ⟨rfl, rfl, rfl, rfl⟩ fun _ => Or.inl rfl
  | onNotify =>
      rw [exec, Option.ite_none_right_eq_some] at h
      cases h.2
      refine .outside ⟨rfl, rfl, rfl, ?_⟩ fun _ => Or.inl rfl
      have hnone : ∀ b : Bool, (if b then [TcpMessage.endpointNotify s.connection.endpoint] else []
          ).filterMap TcpMessage.closeEvent? = [] := by
        intro b
        cases b <;> rfl
      show (s.queue ++ _).filterMap _ = s.queue.filterMap _
      rw [List.filterMap_append, hnone, List.append_nil]
  | enterShutdown t notify ev =>
      rw [exec] at h
      split at h
      · next hpc =>
        rw [Option.ite_none_right_eq_some] at h
        cases h.2
        exact .move (by rw [hpc]; rfl) rfl rfl ⟨rfl, rfl, rfl, rfl⟩
      · cases h
  | enterRecv t =>
      rw [exec] at h
      split at h
      · next hpc =>
        rw [Option.ite_none_right_eq_some] at h
        cases h.2
        exact .move (by rw [hpc]; rfl) rfl rfl ⟨rfl, rfl, rfl, rfl⟩
      · cases h
  | advance t outcome errno => exact closeStep_of_advanceStep (advanceStep_of_advance h)

/-- The stages of a connection that is closed once; `fd` is its descriptor. A thread inside is alone, as if it
held a lock. -/
inductive Stage (opt : ContainerOption) (fd : UInt64) (s : ConnThreads ι) : Prop
  /-- Nobody has found the endpoint online. -/
  | online (hlock : LockedBy ConnPc.inside s.pcs none) (hfd : s.endpoint.fd = fd) (hclosed : s.closed = [])
      (hevents : s.closeEvents = []) (hfirst : s.first = none)
  /-- A thread is on its way to close the descriptor. -/
  | closing (t : ι) (notify : Bool) (ev : Event) (hlock : LockedBy ConnPc.inside s.pcs (some t))
      (hpc : s.pcs t = .deleteRecv notify ev ∨ s.pcs t = .deleteSend notify ev ∨ s.pcs t = .close notify ev)
      (hfd : s.endpoint.fd = fd) (hclosed : s.closed = []) (hevents : s.closeEvents = [])
      (hfirst : s.first = some (notify, ev))
  /-- It has closed the descriptor. -/
  | marking (t : ι) (notify : Bool) (ev : Event) (hlock : LockedBy ConnPc.inside s.pcs (some t))
      (hpc : s.pcs t = .mark notify ev) (hclosed : s.closed = [fd]) (hevents : s.closeEvents = [])
      (hfirst : s.first = some (notify, ev))
  /-- It has marked the endpoint and calls `OnClosed`. -/
  | notifying (t : ι) (ev : Event) (hlock : LockedBy ConnPc.inside s.pcs (some t))
      (hpc : s.pcs t = .onClosed ev) (hfd : s.endpoint.fd = closedFd) (hclosed : s.closed = [fd])
      (hevents : s.closeEvents = []) (hfirst : s.first = some (true, ev))
  /-- It is through. -/
  | offline (notify : Bool) (ev : Event) (hlock : LockedBy ConnPc.inside s.pcs none)
      (hfd : s.endpoint.fd = closedFd) (hclosed : s.closed = [fd])
      (hevents : s.closeEvents = if notify && opt.closedHandler then [ev] else [])
      (hfirst : s.first = some (notify, ev))

omit [DecidableEq ι] in
/-- A step outside changes nothing about the stage. -/
theorem Stage.outside {fd : UInt64} (h : Stage opt fd s) (hsame : SameClose s s')
    (hpcs : ∀ u, s'.pcs u = s.pcs u ∨ (s.pcs u).inside = false ∧ (s'.pcs u).inside = false) :
    Stage opt fd s' := by
  have hinside : ∀ u, (s'.pcs u).inside = (s.pcs u).inside := by
    intro u
    rcases hpcs u with hu | ⟨hu, hu'⟩
    · rw [hu]
    · rw [hu, hu']
  -- a thread inside has not moved
  have hstay : ∀ t, (s.pcs t).inside = true → s'.pcs t = s.pcs t := by
    intro t ht
    rcases hpcs t with hu | ⟨hu, -⟩
    · exact hu
    · rw [ht] at hu
      cases hu
  cases h with
  | online hlock hfd hclosed hevents hfirst =>
      exact .online (hlock.congr hinside) (hsame.endpoint ▸ hfd) (hsame.closed.trans hclosed)
        (hsame.closeEvents.trans hevents) (hsame.first.trans hfirst)
  | closing t notify ev hlock hpc hfd hclosed hevents hfirst =>
      refine .closing t notify ev (hlock.congr hinside) ?_ (hsame.endpoint ▸ hfd)
        (hsame.closed.trans hclosed) (hsame.closeEvents.trans hevents) (hsame.first.trans hfirst)
      rw [hstay t ((hlock t).mpr rfl)]
      exact hpc
  | marking t notify ev hlock hpc hclosed hevents hfirst =>
      exact .marking t notify ev (hlock.congr hinside) ((hstay t ((hlock t).mpr rfl)).trans hpc)
        (hsame.closed.trans hclosed) (hsame.closeEvents.trans hevents) (hsame.first.trans hfirst)
  | notifying t ev hlock hpc hfd hclosed hevents hfirst =>
      exact .notifying t ev (hlock.congr hinside) ((hstay t ((hlock t).mpr rfl)).trans hpc)
        (hsame.endpoint ▸ hfd) (hsame.closed.trans hclosed) (hsame.closeEvents.trans hevents)
        (hsame.first.trans hfirst)
  | offline notify ev hlock hfd hclosed hevents hfirst =>
      exact .offline notify ev (hlock.congr hinside) (hsame.endpoint ▸ hfd) (hsame.closed.trans hclosed)
        (hsame.closeEvents.trans hevents) (hsame.first.trans hfirst)

/-- A thread tests `IsOnline` in `Shutdown` only while no other is between such a test and the mark. -/
def TestsAlone (s : ConnThreads ι) : ConnAction ι → Prop
  | .advance t _ _ => ∀ notify ev, s.pcs t = .isOnline notify ev → ∀ u, u ≠ t → (s.pcs u).closing = false
  | _ => True

instance [Fintype ι] (s : ConnThreads ι) (a : ConnAction ι) : Decidable (s.TestsAlone a) :=
  match a with
  | .advance t _ _ =>
      decidable_of_iff ((s.pcs t).tests = true → ∀ u, u ≠ t → (s.pcs u).closing = false) (by
        rw [TestsAlone]
        cases s.pcs t <;> simp [ConnPc.tests])
  | .attachImpl => isTrue trivial
  | .onNotify => isTrue trivial
  | .enterShutdown _ _ _ => isTrue trivial
  | .enterRecv _ => isTrue trivial

section Inside

variable {fd : UInt64} {t : ι} {notify : Bool} {ev : Event}

omit [DecidableEq ι] in
/-- A closed endpoint is offline. -/
theorem not_online_of_closed (h : s.endpoint.fd = closedFd) : s.endpoint.isOnline ≠ true := by
  rw [EndpointImpl.isOnline, h]
  decide

omit [DecidableEq ι] in
/-- The stage of a thread that has not closed the descriptor. -/
theorem Stage.of_closing (h : Stage opt fd s)
    (hpc : s.pcs t = .deleteRecv notify ev ∨ s.pcs t = .deleteSend notify ev ∨ s.pcs t = .close notify ev) :
    LockedBy ConnPc.inside s.pcs (some t) ∧ s.endpoint.fd = fd ∧ s.closed = [] ∧ s.closeEvents = [] ∧
      s.first = some (notify, ev) := by
  have hin : (s.pcs t).inside = true := by
    rcases hpc with hpc | hpc | hpc <;> rw [hpc] <;> rfl
  cases h with
  | online hlock => cases (hlock t).mp hin
  | offline _ _ hlock => cases (hlock t).mp hin
  | closing u notify' ev' hlock hpc' hfd hclosed hevents hfirst =>
      -- the thread inside is the one of the stage, with the same arguments
      cases (hlock t).mp hin
      have hargs : (notify, ev) = (notify', ev') := by
        rcases hpc with hpc | hpc | hpc <;> simpa [hpc] using hpc'
      exact ⟨hlock, hfd, hclosed, hevents, hargs ▸ hfirst⟩
  | marking u notify' ev' hlock hpc' =>
      cases (hlock t).mp hin
      simp [hpc'] at hpc
  | notifying u ev' hlock hpc' =>
      cases (hlock t).mp hin
      simp [hpc'] at hpc

omit [DecidableEq ι] in
/-- The stage of a thread that has closed the descriptor. -/
theorem Stage.of_mark (h : Stage opt fd s) (hpc : s.pcs t = .mark notify ev) :
    LockedBy ConnPc.inside s.pcs (some t) ∧ s.closed = [fd] ∧ s.closeEvents = [] ∧
      s.first = some (notify, ev) := by
  have hin : (s.pcs t).inside = true := by rw [hpc]; rfl
  cases h with
  | online hlock => cases (hlock t).mp hin
  | offline _ _ hlock => cases (hlock t).mp hin
  | closing u notify' ev' hlock hpc' =>
      cases (hlock t).mp hin
      simp [hpc] at hpc'
  | marking u notify' ev' hlock hpc' hclosed hevents hfirst =>
      cases (hlock t).mp hin
      rw [hpc, ConnPc.mark.injEq] at hpc'
      obtain ⟨rfl, rfl⟩ := hpc'
      exact ⟨hlock, hclosed, hevents, hfirst⟩
  | notifying u ev' hlock hpc' =>
      cases (hlock t).mp hin
      simp [hpc] at hpc'

omit [DecidableEq ι] in
/-- The stage of a thread that calls `OnClosed`. -/
theorem Stage.of_onClosed (h : Stage opt fd s) (hpc : s.pcs t = .onClosed ev) :
    LockedBy ConnPc.inside s.pcs (some t) ∧ s.endpoint.fd = closedFd ∧ s.closed = [fd] ∧
      s.closeEvents = [] ∧ s.first = some (true, ev) := by
  have hin : (s.pcs t).inside = true := by rw [hpc]; rfl
  cases h with
  | online hlock => cases (hlock t).mp hin
  | offline _ _ hlock => cases (hlock t).mp hin
  | closing u notify' ev' hlock hpc' =>
      cases (hlock t).mp hin
      simp [hpc] at hpc'
  | marking u notify' ev' hlock hpc' =>
      cases (hlock t).mp hin
      simp [hpc] at hpc'
  | notifying u ev' hlock hpc' hfd hclosed hevents hfirst =>
      cases (hlock t).mp hin
      rw [hpc, ConnPc.onClosed.injEq] at hpc'
      subst hpc'
      exact ⟨hlock, hfd, hclosed, hevents, hfirst⟩

/-- A thread that finds the endpoint online is the first to do so. -/
theorem Stage.enter (h : Stage opt fd s) (hpc : s.pcs t = .isOnline notify ev)
    (hon : s.endpoint.isOnline = true) (halone : ∀ u, u ≠ t → (s.pcs u).closing = false) :
    Stage opt fd { s.goto t (.deleteRecv notify ev) with first := s.first.or (some (notify, ev)) } := by
  -- a thread at the test is not on its way to the mark
  have hother : ∀ u, (s.pcs u).closing = true → u ≠ t := by
    rintro u hu rfl
    rw [hpc] at hu
    cases hu
  cases h with
  | online hlock hfd hclosed hevents hfirst =>
      refine .closing t notify ev (hlock.acquire rfl) ?_ hfd hclosed hevents ?_
      · exact Or.inl (Function.update_self ..)
      · show s.first.or _ = _
        rw [hfirst]
        rfl
  | closing u notify' ev' hlock hpc' =>
      have hu : (s.pcs u).closing = true := by
        rcases hpc' with hpc' | hpc' | hpc' <;> rw [hpc'] <;> rfl
      rw [halone u (hother u hu)] at hu
      cases hu
  | marking u notify' ev' hlock hpc' =>
      have hu : (s.pcs u).closing = true := by rw [hpc']; rfl
      rw [halone u (hother u hu)] at hu
      cases hu
  -- behind the mark the test fails
  | notifying u ev' hlock hpc' hfd => exact absurd hon (not_online_of_closed hfd)
  | offline notify' ev' hlock hfd => exact absurd hon (not_online_of_closed hfd)

end Inside

/-- A step under the condition goes on to the next stage. -/
theorem Stage.step {fd : UInt64} (hfd : setSocketShutdown fd = some fd) (h : Stage opt fd s)
    {a : ConnAction ι} (hok : s.TestsAlone a) (hstep : CloseStep opt s a s') : Stage opt fd s' := by
  cases hstep with
  | outside hsame hpcs => exact h.outside hsame hpcs
  | enter t notify ev outcome errno hpc hon => exact h.enter hpc hon (hok notify ev hpc)
  | delete t notify ev hpc hsame =>
      -- the thread stays inside, and nothing else changes
      have hold : s.pcs t = .deleteRecv notify ev ∨ s.pcs t = .deleteSend notify ev ∨
          s.pcs t = .close notify ev := by
        rcases hpc with ⟨hpc, -⟩ | ⟨hpc, -⟩
        · exact Or.inl hpc
        · exact Or.inr (Or.inl hpc)
      obtain ⟨hlock, hfd, hclosed, hevents, hfirst⟩ := h.of_closing hold
      rcases hpc with ⟨hpc, hpcs⟩ | ⟨hpc, hpcs⟩
      · refine .closing t notify ev ?_ ?_ (hsame.endpoint ▸ hfd) (hsame.closed.trans hclosed)
          (hsame.closeEvents.trans hevents) (hsame.first.trans hfirst)
        · rw [hpcs]
          exact hlock.stay (by rw [hpc]; rfl)
        · rw [hpcs]
          exact Or.inr (Or.inl (Function.update_self ..))
      · refine .closing t notify ev ?_ ?_ (hsame.endpoint ▸ hfd) (hsame.closed.trans hclosed)
          (hsame.closeEvents.trans hevents) (hsame.first.trans hfirst)
        · rw [hpcs]
          exact hlock.stay (by rw [hpc]; rfl)
        · rw [hpcs]
          exact Or.inr (Or.inr (Function.update_self ..))
  | close t notify ev hpc =>
      obtain ⟨hlock, hfd', hclosed, hevents, hfirst⟩ := h.of_closing (Or.inr (Or.inr hpc))
      refine .marking t notify ev (hlock.stay (by rw [hpc]; rfl)) (Function.update_self ..) ?_ hevents hfirst
      show s.closed ++ (setSocketShutdown s.endpoint.fd).toList = [fd]
      rw [hclosed, hfd', hfd]
      rfl
  | mark t notify ev hpc =>
      obtain ⟨hlock, hclosed, hevents, hfirst⟩ := h.of_mark hpc
      have hin : (s.pcs t).inside = true := (hlock t).mpr rfl
      cases notify with
      | true =>
          exact .notifying t ev (hlock.stay hin.symm) (Function.update_self ..) rfl hclosed hevents hfirst
      | false => exact .offline false ev (hlock.release hin rfl) rfl hclosed hevents hfirst
  | onClosed t ev hpc =>
      obtain ⟨hlock, hfd', hclosed, hevents, hfirst⟩ := h.of_onClosed hpc
      refine .offline true ev (hlock.release ((hlock t).mpr rfl) rfl) hfd' hclosed ?_ hfirst
      show (s.queue ++ _).filterMap _ = _
      rw [List.filterMap_append, show s.queue.filterMap _ = [] from hevents, ContainerState.onClosed]
      cases opt.closedHandler <;> rfl

/-- **Closed once.** The descriptor `fd` is closed at most once and at most one close event is queued; an
endpoint that is offline had its descriptor closed; and when a `Shutdown` has found the endpoint online and
nobody is inside any more, the descriptor is closed and the close event of the first such `Shutdown` is
queued if it was to notify (and there is a handler for it). -/
structure ClosedOnce (opt : ContainerOption) (fd : UInt64) (s : ConnThreads ι) : Prop where
  /-- At most one descriptor is closed, this one. -/
  closed : s.closed = [] ∨ s.closed = [fd]
  /-- At most one event is queued. -/
  events : s.closeEvents.length ≤ 1
  /-- Offline is closed. -/
  offline : s.endpoint.isOnline = false → s.closed = [fd]
  /-- The first `Shutdown` to take effect decides. -/
  settled : ∀ notify ev, s.first = some (notify, ev) → (∀ u, (s.pcs u).inside = false) →
    s.closed = [fd] ∧ s.closeEvents = if notify && opt.closedHandler then [ev] else []

omit [DecidableEq ι] in
/-- Every stage is one of a connection that is closed once. -/
theorem Stage.closedOnce {fd : UInt64} (hon : ∀ e : EndpointImpl, e.fd = fd → e.isOnline = true)
    (h : Stage opt fd s) : s.ClosedOnce opt fd := by
  cases h with
  | online hlock hfd hclosed hevents hfirst =>
      refine ⟨Or.inl hclosed, by rw [hevents]; exact Nat.zero_le 1, ?_, ?_⟩
      · intro hoff
        rw [hon _ hfd] at hoff
        cases hoff
      · intro notify ev hsome
        rw [hfirst] at hsome
        cases hsome
  | closing t notify ev hlock hpc hfd hclosed hevents hfirst =>
      refine ⟨Or.inl hclosed, by rw [hevents]; exact Nat.zero_le 1, ?_, ?_⟩
      · intro hoff
        rw [hon _ hfd] at hoff
        cases hoff
      · intro notify' ev' _ hout
        exact absurd ((hlock t).mpr rfl) (by rw [hout t]; decide)
  | marking t notify ev hlock hpc hclosed hevents hfirst =>
      refine ⟨Or.inr hclosed, by rw [hevents]; exact Nat.zero_le 1, fun _ => hclosed, ?_⟩
      intro notify' ev' _ hout
      exact absurd ((hlock t).mpr rfl) (by rw [hout t]; decide)
  | notifying t ev hlock hpc hfd hclosed hevents hfirst =>
      refine ⟨Or.inr hclosed, by rw [hevents]; exact Nat.zero_le 1, fun _ => hclosed, ?_⟩
      intro notify' ev' _ hout
      exact absurd ((hlock t).mpr rfl) (by rw [hout t]; decide)
  | offline notify ev hlock hfd hclosed hevents hfirst =>
      refine ⟨Or.inr hclosed, ?_, fun _ => hclosed, ?_⟩
      · rw [hevents]
        split
        · exact Nat.le_refl 1
        · exact Nat.zero_le 1
      · intro notify' ev' hsome _
        rw [hfirst] at hsome
        cases hsome
        exact ⟨hclosed, hevents⟩

end ConnThreads

/-- **A connection is closed once** when every test of `IsOnline` in `Shutdown` is made while no other thread
is between such a test and the mark, for any number of threads and a descriptor that is a positive `int`. -/
theorem closed_once_of_testsAlone {ι : Type} [DecidableEq ι] (opt : ContainerOption) (endpoint : EndpointImpl)
    (ep : Nat) (handleId : UInt32) (hpos : 0 < endpoint.fd.toNat) (hint : endpoint.fd.toNat < 2 ^ 31)
    {s : ConnThreads ι}
    (hs : (connMachine ι opt endpoint ep handleId).Reaches (fun s a => s.TestsAlone a) s) :
    s.ClosedOnce opt endpoint.fd := by
  have hclose : setSocketShutdown endpoint.fd = some endpoint.fd := setSocketShutdown_eq hint
  have honline : ∀ e : EndpointImpl, e.fd = endpoint.fd → e.isOnline = true := by
    intro e he
    exact EndpointImpl.isOnline_of_int (by rw [he]; exact hpos) (by rw [he]; exact hint)
  apply ConnThreads.Stage.closedOnce honline
  apply Machine.Reaches.invariant (ConnThreads.Stage opt endpoint.fd) _ _ hs
  · refine .online ?_ rfl rfl rfl rfl
    intro t
    exact ⟨(fun h => nomatch h), fun h => nomatch h⟩
  · intro s a s' _ hok h hstep
    exact h.step hclose hok (ConnThreads.closeStep_of_exec hstep)

/-- An endpoint on descriptor 5. -/
def endpointOnFive : EndpointImpl := { fd := 5, connectionId := 0 }

/-- The handlers are set. -/
def handlersOption : ContainerOption := { closedHandler := true, notifyHandler := true }

/-- A step of thread `t` that reads nothing. -/
def proceed {ι : Type} (t : ι) : ConnAction ι := .advance t .retry ⟨0, ""⟩

/-- Two threads call `Shutdown(true)`; the second tests behind the mark of the first and finds the endpoint offline. -/
theorem closed_once_of_testsAlone_two_threads :
    ∃ s, (connMachine (Fin 2) handlersOption endpointOnFive 0 0).run
        (connMachine (Fin 2) handlersOption endpointOnFive 0 0).init
        ([.attachImpl, .onNotify, .enterShutdown 0 true {}, .enterShutdown 1 true {}] ++
          List.replicate 5 (proceed 0) ++ [proceed 1] ++ List.replicate 3 (proceed 0)) = some s ∧
      s.closed = [5] ∧ s.closeEvents = [{}] ∧ s.ClosedOnce handlersOption 5 := by
  obtain ⟨s, hguard, hclosed, hevents⟩ : ∃ s,
      ((connMachine (Fin 2) handlersOption endpointOnFive 0 0).guard fun s a => s.TestsAlone a).run
        (connMachine (Fin 2) handlersOption endpointOnFive 0 0).init
        ([.attachImpl, .onNotify, .enterShutdown 0 true {}, .enterShutdown 1 true {}] ++
          List.replicate 5 (proceed 0) ++ [proceed 1] ++ List.replicate 3 (proceed 0)) = some s ∧
      s.closed = [5] ∧ s.closeEvents = [{}] := ⟨_, rfl, rfl, rfl⟩
  exact ⟨s, Machine.run_of_guard_run hguard, hclosed, hevents,
    closed_once_of_testsAlone handlersOption endpointOnFive 0 0 (by decide) (by decide)
      (Machine.reaches_of_guard_run .init hguard)⟩

/-- Two threads find the endpoint online, one after the other, before either marks it offline: the
descriptor is closed twice and two close events are queued. -/
theorem closed_twice_by_two_threads :
    ∃ s, (connMachine (Fin 2) handlersOption endpointOnFive 0 0).run
        (connMachine (Fin 2) handlersOption endpointOnFive 0 0).init
        ([.attachImpl, .onNotify, .enterShutdown 0 true {}, .enterShutdown 1 true {}, proceed 0, proceed 1] ++
          List.replicate 3 (proceed 0) ++ List.replicate 3 (proceed 1) ++
          List.replicate 4 (proceed 0) ++ List.replicate 4 (proceed 1)) = some s ∧
      s.closed = [5, 5] ∧ s.closeEvents = [{}, {}] ∧ ¬ s.ClosedOnce handlersOption 5 := by
  refine ⟨_, rfl, rfl, rfl, ?_⟩
  intro h
  have htwo := h.events
  exact absurd htwo (by decide)

end RaptorLite
