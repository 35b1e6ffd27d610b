import Mathlib.Data.List.Perm.Basic
import RaptorLite.Linux.TcpListener

/-! # The descriptors of the listener

An open descriptor is listened on, is being prepared by a call of `AddListeningPort`, or is the descriptor 0, which is
lost; and the objects that the poller knows are in the list. Every step keeps this, so in every run no object is used
behind its `delete`, and nothing is closed that is not open. Where `Shutdown` is never called in the middle of an
`AddListeningPort`, nothing is left open behind it but the descriptor 0. -/

namespace RaptorLite

/-! ### Descriptors along the steps -/

/-- No calls leave the open descriptors as they are. -/
@[simp] theorem applySteps_nil (fds : List Int) : applySteps fds [] = .ok fds := rfl

/-- One call of `socket`, and what follows. -/
theorem applySteps_socketStep (fds : List Int) (fd : Int) (rest : List FdStep) :
    applySteps fds (socketStep fd ++ rest) = .error .notEnabled ∨
      (0 ≤ fd ∧ fd ∉ fds ∧ applySteps fds (socketStep fd ++ rest) = applySteps (fd :: fds) rest) ∨
      (fd < 0 ∧ applySteps fds (socketStep fd ++ rest) = applySteps fds rest) := by
  unfold socketStep
  by_cases hfd : 0 ≤ fd
  · rw [if_pos hfd, List.singleton_append, applySteps, FdStep.apply]
    by_cases hmem : fd ∈ fds
    · rw [if_pos hmem]
      exact Or.inl rfl
    · rw [if_neg hmem]
      exact Or.inr (Or.inl ⟨hfd, hmem, rfl⟩)
  · rw [if_neg hfd, List.nil_append]
    exact Or.inr (Or.inr ⟨by omega, rfl⟩)

/-- The descriptor opened last is closed again. -/
theorem applySteps_close_last (fds : List Int) (fd : Int) (rest : List FdStep) :
    applySteps (fd :: fds) (.closed fd :: rest) = applySteps fds rest := by
  rw [applySteps, FdStep.apply, if_pos List.mem_cons_self, List.erase_cons_head]
  rfl

/-- What becomes of the open descriptors when a socket is made, by steps that others follow: the socket that is
returned is open, and nothing else; a failure may leave the descriptor 0 open. -/
def Makes (fds : List Int) (steps rest : List FdStep) (made : Except SocketError (NewSocket Int)) : Prop :=
  applySteps fds (steps ++ rest) = .error .notEnabled ∨
  (∃ s, made = .ok s ∧ applySteps fds (steps ++ rest) = applySteps (s.fd :: fds) rest) ∨
  (made = .error .socket ∧ (applySteps fds (steps ++ rest) = applySteps fds rest ∨
    (0 : Int) ∉ fds ∧ applySteps fds (steps ++ rest) = applySteps (0 :: fds) rest))

/-- One call of `socket`, whose result is a socket if it is positive. -/
theorem makes_socketStep (fds : List Int) (fd : Int) (rest : List FdStep) (family : AddressFamily)
    (dsmode : DualstackMode) :
    Makes fds (socketStep fd) rest (if 0 < fd then .ok ⟨fd, family, dsmode⟩ else .error .socket) := by
  rcases applySteps_socketStep fds fd rest with hfault | ⟨hfd, hmem, hrest⟩ | ⟨hneg, hrest⟩
  · exact Or.inl hfault
  · by_cases hpos : 0 < fd
    · rw [if_pos hpos]
      exact Or.inr (Or.inl ⟨_, rfl, hrest⟩)
    · obtain rfl : fd = 0 := by omega
      rw [if_neg hpos]
      exact Or.inr (Or.inr ⟨rfl, Or.inr ⟨hmem, hrest⟩⟩)
  · rw [if_neg (by omega)]
    exact Or.inr (Or.inr ⟨rfl, Or.inl hrest⟩)

/-- A socket of one family. -/
theorem makes_createPlain (fds : List Int) (calls : SocketCalls Int) (family : AddressFamily)
    (rest : List FdStep) :
    Makes fds (socketStep (calls.socket family)) rest
      (createPlain (fun fd => decide (0 < fd)) .socket calls family) := by
  simp only [createPlain, decide_eq_true_eq]
  exact makes_socketStep fds _ rest family _

/-- **`raptor_create_dualstack_socket`**. -/
theorem makes_createDualstack (fds : List Int) (calls : SocketCalls Int) (a : ResolvedAddress)
    (rest : List FdStep) :
    Makes fds (createDualstackSteps calls a) rest (createDualstackSocket calls a) := by
  simp only [createDualstackSocket, createDualstack, createDualstackSteps, decide_eq_true_eq]
  by_cases hfamily : a.addr.family = .inet6
  · simp only [if_pos hfamily]
    by_cases hdual : 0 ≤ calls.socket .inet6 ∧ calls.clearIpv6Only = true
    · simp only [if_pos hdual]
      rcases applySteps_socketStep fds (calls.socket .inet6) rest with hfault | ⟨-, -, hrest⟩ | ⟨hneg, -⟩
      · exact Or.inl hfault
      · exact Or.inr (Or.inl ⟨_, rfl, hrest⟩)
      · exact absurd hdual.1 (by omega)
    · simp only [if_neg hdual]
      by_cases hmapped : (sockaddrIsV4mapped a).isNone = true
      · simp only [if_pos hmapped]
        exact makes_socketStep fds _ rest _ _
      · -- the IPv6 socket is closed before the other is made
        simp only [if_neg hmapped]
        have hback : applySteps fds (socketStep (calls.socket .inet6) ++
              (if 0 ≤ calls.socket .inet6 then [.closed (calls.socket .inet6)] else []) ++
              socketStep (calls.socket .inet) ++ rest) = .error .notEnabled ∨
            applySteps fds (socketStep (calls.socket .inet6) ++
              (if 0 ≤ calls.socket .inet6 then [.closed (calls.socket .inet6)] else []) ++
              socketStep (calls.socket .inet) ++ rest)
              = applySteps fds (socketStep (calls.socket .inet) ++ rest) := by
          rw [List.append_assoc, List.append_assoc]
          rcases applySteps_socketStep fds (calls.socket .inet6) _ with hfault | ⟨hfd, -, hrest⟩ | ⟨hneg, hrest⟩
          · exact Or.inl hfault
          · rw [hrest, if_pos hfd, List.singleton_append, applySteps_close_last]
            exact Or.inr rfl
          · rw [hrest, if_neg (by omega), List.nil_append]
            exact Or.inr rfl
        rcases hback with hfault | hback
        · exact Or.inl hfault
        · have hplain := makes_createPlain fds calls .inet rest
          unfold Makes at hplain ⊢
          rw [hback]
          exact hplain
  · simp only [if_neg hfamily]
    exact makes_createPlain fds calls _ rest

/-- **`AddListeningPort` up to the lock**: the socket of the object is open, or nothing more than before, but
for the descriptor 0. -/
theorem prepareListening_steps (calls : SocketCalls Int) (prepare : Option Nat) (addr : ResolvedAddress)
    (fds : List Int) :
    applySteps fds (prepareListening calls prepare addr).1 = .error .notEnabled ∨
    (∃ object, (prepareListening calls prepare addr).2 = some object ∧
      applySteps fds (prepareListening calls prepare addr).1 = .ok (object.listenFd :: fds)) ∨
    ((prepareListening calls prepare addr).2 = none ∧
      (applySteps fds (prepareListening calls prepare addr).1 = .ok fds ∨
        (0 : Int) ∉ fds ∧ applySteps fds (prepareListening calls prepare addr).1 = .ok (0 :: fds))) := by
  unfold prepareListening
  cases hcreate : createDualstackSocket calls addr with
  | error e =>
      have hmakes := makes_createDualstack fds calls addr []
      rw [hcreate, Makes, List.append_nil] at hmakes
      rcases hmakes with hfault | ⟨s, hs, -⟩ | ⟨-, hrest⟩
      · exact Or.inl hfault
      · cases hs
      · exact Or.inr (Or.inr ⟨rfl, hrest⟩)
  | ok s =>
      cases prepare with
      | none =>
          -- the socket is closed by `raptor_tcp_server_prepare_socket`
          have hmakes := makes_createDualstack fds calls addr [.closed s.fd]
          rw [hcreate, Makes] at hmakes
          rcases hmakes with hfault | ⟨s', hs', hrest⟩ | ⟨hs', -⟩
          · exact Or.inl hfault
          · rw [Except.ok.injEq] at hs'
            rw [← hs', applySteps_close_last] at hrest
            exact Or.inr (Or.inr ⟨rfl, Or.inl hrest⟩)
          · cases hs'
      | some port =>
          have hmakes := makes_createDualstack fds calls addr []
          rw [hcreate, Makes, List.append_nil] at hmakes
          rcases hmakes with hfault | ⟨s', hs', hrest⟩ | ⟨hs', -⟩
          · exact Or.inl hfault
          · rw [Except.ok.injEq] at hs'
            rw [← hs'] at hrest
            exact Or.inr (Or.inl ⟨_, rfl, hrest⟩)
          · cases hs'

/-- Open descriptors can be closed, and the others stay. -/
theorem applySteps_closeAll {fds closing others : List Int} (h : fds.Perm (closing ++ others)) :
    ∃ fds', applySteps fds (closing.map .closed) = .ok fds' ∧ fds'.Perm others := by
  induction closing generalizing fds with
  | nil => exact ⟨fds, rfl, h⟩
  | cons fd rest ih =>
      have hmem : fd ∈ fds := h.mem_iff.mpr (List.mem_append_left _ List.mem_cons_self)
      have herase : (fds.erase fd).Perm (rest ++ others) := by
        have := h.erase fd
        rwa [List.cons_append, List.erase_cons_head] at this
      obtain ⟨fds', hfds', hperm⟩ := ih herase
      refine ⟨fds', ?_, hperm⟩
      rw [List.map_cons, applySteps, FdStep.apply, if_pos hmem]
      exact hfds'

/-- The sockets that are listened on. -/
def ListenerState.listening (s : ListenerState) : List Int := s.head.map fun entry => entry.2.listenFd

/-- The sockets of the calls of `AddListeningPort` that are not at the lock yet. -/
def ListenerState.preparing (s : ListenerState) : List Int := s.adding.map ListenerObject.listenFd

/-! ### What a step can do -/

/-- The steps of a listener and what comes of them: the step cannot be taken, or it ends in a state. -/
inductive ListenerStep (s : ListenerState) : ListenerAction → Except ListenerFault ListenerState → Prop
  /-- The step cannot be taken here. -/
  | disabled (a : ListenerAction) : ListenerStep s a (.error .notEnabled)
  /-- A call that has nothing to do. -/
  | stay (a : ListenerAction) : ListenerStep s a (.ok s)
  /-- `Init` with a poller and its threads. -/
  | opened (threads : Nat) (hidle : s.stage = .idle) :
      ListenerStep s (.init threads)
        (.ok { s with isShutdown := false, poll := ⟨false, List.replicate threads .created, true, []⟩ })
  /-- `Init` that fails. -/
  | notOpened (threads : Nat) : ListenerStep s (.init threads) (.ok { s with poll := ⟨true, [], false, []⟩ })
  /-- Polling threads go on, with a connection or without. -/
  | moved (a : ListenerAction) (threads : List PollPlace) (accepted : List Int) :
      ListenerStep s a (.ok { s with poll := { s.poll with threads := threads }, accepted := accepted })
  /-- The descriptor 0 is opened and taken for a failure. -/
  | lost (a : ListenerAction) (threads : List PollPlace) :
      ListenerStep s a
        (.ok { s with poll := { s.poll with threads := threads }, fds := 0 :: s.fds, lost := 0 :: s.lost })
  /-- `AddListeningPort` comes to the lock with the socket of its object open. -/
  | prepared (a : ListenerAction) (object : ListenerObject) (hrunning : s.isShutdown = false) :
      ListenerStep s a (.ok { s with fds := object.listenFd :: s.fds, adding := s.adding ++ [object] })
  /-- The object is put into the list, and registered with a poller that is open. -/
  | enlisted (call : Nat) (object : ListenerObject) (hcall : s.adding[call]? = some object) :
      ListenerStep s (.enlist call)
        (.ok { s with
          head := s.head ++ [(s.nextObject, object)]
          nextObject := s.nextObject + 1
          adding := s.adding.eraseIdx call
          poll := if s.poll.epollOpen then { s.poll with registered := s.poll.registered ++ [s.nextObject] }
            else s.poll })
  /-- `Shutdown` sets the flags. -/
  | shutdown (threads : List PollPlace) :
      ListenerStep s .shutdown
        (.ok { s with
          isShutdown := true
          poll := { s.poll with isShutdown := true, threads := threads }
          stage := .joining })
  /-- The poller is closed. -/
  | joined (hjoining : s.stage = .joining) :
      ListenerStep s .joined
        (.ok { s with poll := { s.poll with epollOpen := false, registered := [] }, stage := .closing })
  /-- The list is given up with its sockets closed. -/
  | closed (hclosing : s.stage = .closing) (fds : List Int) (hfds : fds.Perm (s.preparing ++ s.lost)) :
      ListenerStep s .closeAll (.ok { s with fds := fds, head := [], stage := .idle })

/-- What is open more than before. -/
theorem diff_self (fds : List Int) : fds.diff fds = [] := by
  induction fds with
  | nil => rfl
  | cons fd rest ih => rw [List.diff_cons, List.erase_cons_head, ih]

/-- `AddListeningPort` up to the lock. -/
theorem ListenerState.prepare_step (s : ListenerState) (calls : SocketCalls Int) (prepare : Option Nat)
    (addr : ResolvedAddress) : ListenerStep s (.prepare calls prepare addr) (s.exec (.prepare calls prepare addr)) := by
  rw [ListenerState.exec]
  split
  · exact .stay _
  next hrunning =>
  dsimp only
  rcases prepareListening_steps calls prepare addr s.fds with
    hfault | ⟨object, hobject, hsteps⟩ | ⟨hnone, hsteps | ⟨hmem, hsteps⟩⟩
  · rw [hfault]
    exact .disabled _
  · rw [hsteps, hobject]
    exact .prepared _ object (Bool.eq_false_iff.mpr hrunning)
  · rw [hsteps, hnone, Except.map]
    dsimp only
    rw [diff_self, List.nil_append]
    exact .stay _
  · -- the descriptor 0 stays open
    rw [hsteps, hnone, Except.map]
    dsimp only
    rw [List.cons_diff_of_not_mem hmem, diff_self, List.singleton_append]
    exact .lost _ s.poll.threads

/-- `OnEventProcess` of a thread closes nothing and follows no other pointer. -/
theorem ListenerState.accept_step (s : ListenerState) (a : ListenerAction) (thread : Nat) (place : PollPlace)
    (hangup : Bool) (result : Int) : ListenerStep s a ((s.setThread thread place).accept hangup result) := by
  unfold ListenerState.accept
  split
  · exact .moved a _ _
  split
  · split
    · exact .disabled a
    · exact .moved a _ _
  split
  · split
    · exact .disabled a
    · exact .lost a _
  · exact .moved a _ _

/-! ### The invariant -/

/-- What holds along every run. -/
structure ListenerInv (s : ListenerState) : Prop where
  /-- An open descriptor is listened on, being prepared, or lost. -/
  fds : s.fds.Perm (s.listening ++ (s.preparing ++ s.lost))
  /-- Only the descriptor 0 is lost. -/
  lost : ∀ fd ∈ s.lost, fd = 0
  /-- The objects that the poller knows are in the list. -/
  registered : ∀ object ∈ s.poll.registered, object ∈ s.head.map Prod.fst
  /-- A closed poller knows none. -/
  epollClosed : s.poll.epollOpen = false → s.poll.registered = []
  /-- The list is given up behind the end of the poller. -/
  closing : s.stage = .closing → s.poll.epollOpen = false

/-- The loop over the list closes every socket in it. -/
theorem ListenerInv.closeAll {s : ListenerState} (h : ListenerInv s) :
    ∃ fds, applySteps s.fds (s.head.map fun entry => .closed entry.2.listenFd) = .ok fds ∧
      fds.Perm (s.preparing ++ s.lost) := by
  obtain ⟨fds, hfds, hperm⟩ := applySteps_closeAll h.fds
  rw [ListenerState.listening, List.map_map] at hfds
  exact ⟨fds, hfds, hperm⟩

/-- **Every step** from a state with the invariant is one of these: no thread follows a pointer to an object that was
deleted, and nothing is closed that is not open. -/
theorem ListenerInv.step {s : ListenerState} (h : ListenerInv s) (a : ListenerAction) :
    ListenerStep s a (s.exec a) := by
  cases a with
  | prepare calls prepare addr => exact s.prepare_step calls prepare addr
  | init threads =>
      rw [ListenerState.exec]
      split
      · exact .disabled _
      next hidle =>
      split
      · split
        · exact .opened threads (not_not.mp hidle)
        · exact .notOpened threads
      · exact .stay _
  | start =>
      rw [ListenerState.exec]
      split
      · exact .disabled _
      split
      · exact .stay _
      split
      · exact .moved _ _ _
      · exact .disabled _
  | enlist call =>
      rw [ListenerState.exec]
      split
      · exact .disabled _
      · next object hcall => exact .enlisted call object hcall
  | polled thread events =>
      rw [ListenerState.exec]
      split
      · split
        · exact .moved _ _ _
        · exact .moved _ _ _
      · exact .disabled _
  | onEventProcess thread object hangup result =>
      rw [ListenerState.exec]
      split
      · split
        · next hregistered =>
          -- the poller knows only objects that are in the list
          rw [if_pos (h.registered object hregistered)]
          exact s.accept_step _ thread _ hangup result
        · exact .disabled _
      · exact .disabled _
  | next thread =>
      rw [ListenerState.exec]
      split
      · exact .moved _ _ _
      · exact .disabled _
  | shutdown =>
      rw [ListenerState.exec]
      split
      · exact .disabled _
      split
      · exact .stay _
      · exact .shutdown _
  | joined =>
      rw [ListenerState.exec]
      split
      · next hjoining => exact .joined hjoining.1
      · exact .disabled _
  | closeAll =>
      rw [ListenerState.exec]
      split
      · next hclosing =>
        obtain ⟨fds, hfds, hperm⟩ := h.closeAll
        rw [hfds]
        exact .closed hclosing fds hperm
      · exact .disabled _

/-! ### One step -/

/-- A change that leaves the list, the descriptors and the registrations alone. -/
theorem ListenerInv.congr {s s' : ListenerState} (h : ListenerInv s) (hfds : s'.fds = s.fds)
    (hhead : s'.head = s.head) (hadding : s'.adding = s.adding) (hlost : s'.lost = s.lost)
    (hregistered : s'.poll.registered = s.poll.registered)
    (hopen : s'.poll.epollOpen = s.poll.epollOpen) (hstage : s'.stage = .closing → s.stage = .closing) :
    ListenerInv s' := by
  refine ⟨?_, ?_, ?_, ?_, ?_⟩
  · rw [hfds, ListenerState.listening, ListenerState.preparing, hhead, hadding, hlost]
    exact h.fds
  · rw [hlost]
    exact h.lost
  · rw [hregistered, hhead]
    exact h.registered
  · rw [hopen, hregistered]
    exact h.epollClosed
  · rw [hopen]
    exact fun hclosing => h.closing (hstage hclosing)

/-- The descriptor 0 is opened and taken for a failure. -/
theorem ListenerInv.lose {s : ListenerState} (h : ListenerInv s) :
    ListenerInv { s with fds := 0 :: s.fds, lost := 0 :: s.lost } := by
  refine ⟨?_, ?_, h.registered, h.epollClosed, h.closing⟩
  · refine (h.fds.cons 0).trans ?_
    refine List.perm_middle.symm.trans (List.Perm.append_left _ ?_)
    exact List.perm_middle.symm
  · intro fd hfd
    rcases List.mem_cons.mp hfd with rfl | hfd
    · rfl
    · exact h.lost fd hfd

/-- The object of a call of `AddListeningPort` is put into the list. -/
theorem ListenerInv.enlist {s : ListenerState} (h : ListenerInv s) {call : Nat} {object : ListenerObject}
    (hcall : s.adding[call]? = some object) :
    ListenerInv { s with
      head := s.head ++ [(s.nextObject, object)]
      nextObject := s.nextObject + 1
      adding := s.adding.eraseIdx call
      poll := if s.poll.epollOpen then { s.poll with registered := s.poll.registered ++ [s.nextObject] }
        else s.poll } := by
  obtain ⟨hlt, hobject⟩ := List.getElem?_eq_some_iff.mp hcall
  refine ⟨?_, h.lost, ?_, ?_, ?_⟩
  · -- the socket moves from the call to the list
    have hmoved : (object.listenFd :: (s.adding.eraseIdx call).map ListenerObject.listenFd).Perm
        (s.adding.map ListenerObject.listenFd) := by
      rw [← List.map_cons, ← hobject]
      exact (List.getElem_cons_eraseIdx_perm hlt).map _
    refine h.fds.trans ?_
    simp only [ListenerState.listening, ListenerState.preparing, List.map_append, List.map_singleton,
      List.append_assoc, List.singleton_append]
    exact List.Perm.append_left _ (hmoved.symm.append_right _)
  · intro id hid
    dsimp only at hid ⊢
    rw [List.map_append, List.map_singleton, List.mem_append, List.mem_singleton]
    split at hid
    · rcases List.mem_append.mp hid with hid | hid
      · exact Or.inl (h.registered id hid)
      · exact Or.inr (List.mem_singleton.mp hid)
    · exact Or.inl (h.registered id hid)
  · dsimp only
    split
    · next hopen =>
      intro hclosed
      rw [hopen] at hclosed
      cases hclosed
    · exact h.epollClosed
  · intro hclosing
    have hclosed := h.closing hclosing
    dsimp only
    rw [if_neg (by rw [hclosed]; exact Bool.false_ne_true)]
    exact hclosed

/-- The socket of a call of `AddListeningPort` is opened. -/
theorem ListenerInv.prepare {s : ListenerState} (h : ListenerInv s) (object : ListenerObject) :
    ListenerInv { s with fds := object.listenFd :: s.fds, adding := s.adding ++ [object] } := by
  refine ⟨?_, h.lost, h.registered, h.epollClosed, h.closing⟩
  refine (h.fds.cons object.listenFd).trans ?_
  simp only [ListenerState.listening, ListenerState.preparing, List.map_append, List.map_singleton,
    List.append_assoc, List.singleton_append]
  refine List.perm_middle.symm.trans (List.Perm.append_left _ ?_)
  exact List.perm_middle.symm

/-- **One step** keeps the invariant. -/
theorem ListenerInv.exec {s s' : ListenerState} {a : ListenerAction} (h : ListenerInv s)
    (hstep : s.exec a = .ok s') : ListenerInv s' := by
  have hform := h.step a
  rw [hstep] at hform
  cases hform with
  | stay => exact h
  | opened threads hidle =>
      exact ⟨h.fds, h.lost, fun _ hid => absurd hid List.not_mem_nil, fun _ => rfl,
        fun hclosing => absurd (hidle.symm.trans hclosing) (by decide)⟩
  | notOpened threads =>
      exact ⟨h.fds, h.lost, fun _ hid => absurd hid List.not_mem_nil, fun _ => rfl, fun _ => rfl⟩
  | moved => exact h.congr rfl rfl rfl rfl rfl rfl id
  | lost => exact h.lose.congr rfl rfl rfl rfl rfl rfl id
  | prepared _ object hrunning => exact h.prepare object
  | enlisted call object hcall => exact h.enlist hcall
  | shutdown threads => exact h.congr rfl rfl rfl rfl rfl rfl (fun hclosing => by cases hclosing)
  | joined hjoining =>
      exact ⟨h.fds, h.lost, fun _ hid => absurd hid List.not_mem_nil, fun _ => rfl, fun _ => rfl⟩
  | closed hclosing fds hfds =>
      have hnone := h.epollClosed (h.closing hclosing)
      refine ⟨hfds, h.lost, ?_, h.epollClosed, fun hbad => by cases hbad⟩
      intro id hid
      dsimp only at hid
      rw [hnone] at hid
      cases hid

/-! ### Runs -/

/-- The first open descriptors of a listener. -/
theorem listenerInv_init : ListenerInv {} :=
  ⟨List.Perm.refl _, fun _ h => absurd h List.not_mem_nil, fun _ h => absurd h List.not_mem_nil, fun _ => rfl,
    fun _ => rfl⟩

/-- The invariant holds along every run. -/
theorem listenerInv_of_reachable {s : ListenerState} (hs : listenerMachine.Reachable s) : ListenerInv s := by
  refine hs.invariant ListenerInv listenerInv_init ?_
  intro s a s' _ _ h hstep
  exact h.exec (eq_ok_of_toOption hstep)

/-- **No step goes wrong** from a state with the invariant. -/
theorem ListenerInv.exec_fault {s : ListenerState} (h : ListenerInv s) {a : ListenerAction} {f : ListenerFault}
    (hstep : s.exec a = .error f) : f = .notEnabled := by
  have hform := h.step a
  rw [hstep] at hform
  cases hform
  rfl

/-- `Shutdown` is called when no call of `AddListeningPort` is between its preparation and the lock. -/
def ShutsDownAlone (s : ListenerState) (a : ListenerAction) : Prop := a = .shutdown → s.adding = []

/-- What holds when `Shutdown` is called so: behind it nothing is listened on. -/
structure ListenerClean (s : ListenerState) : Prop where
  /-- No call is left behind. -/
  adding : s.isShutdown = true → s.adding = []
  /-- Behind `Shutdown` the list is empty. -/
  head : s.isShutdown = true → s.stage = .idle → s.head = []
  /-- `Shutdown` sets the flag first. -/
  running : s.isShutdown = false → s.stage = .idle

/-- Being clean depends on the flag, the stage, the list and the object being added. -/
theorem ListenerClean.congr {s s' : ListenerState} (h : ListenerClean s) (hshutdown : s'.isShutdown = s.isShutdown)
    (hstage : s'.stage = s.stage) (hhead : s'.head = s.head) (hadding : s'.adding = s.adding) :
    ListenerClean s' := by
  refine ⟨?_, ?_, ?_⟩
  · rw [hshutdown, hadding]
    exact h.adding
  · rw [hshutdown, hstage, hhead]
    exact h.head
  · rw [hshutdown, hstage]
    exact h.running

/-- A step at which `Shutdown` is called only between the calls of `AddListeningPort` keeps the listener clean. -/
theorem ListenerClean.exec {s s' : ListenerState} {a : ListenerAction} (h : ListenerClean s) (hinv : ListenerInv s)
    (halone : ShutsDownAlone s a) (hstep : s.exec a = .ok s') : ListenerClean s' := by
  have hform := hinv.step a
  rw [hstep] at hform
  cases hform with
  | stay => exact h
  | opened threads hidle =>
      exact ⟨fun hs => absurd hs Bool.false_ne_true, fun hs => absurd hs Bool.false_ne_true, fun _ => hidle⟩
  | notOpened threads => exact h.congr rfl rfl rfl rfl
  | moved => exact h.congr rfl rfl rfl rfl
  | lost => exact h.congr rfl rfl rfl rfl
  | prepared _ object hrunning =>
      have hnot : ¬ s.isShutdown = true := by rw [hrunning]; exact Bool.false_ne_true
      exact ⟨fun hs => absurd hs hnot, fun hs => absurd hs hnot, h.running⟩
  | enlisted call object hcall =>
      -- a call that is under way keeps the listener from being shut down
      have hrunning : ¬ s.isShutdown = true := by
        intro hs
        rw [h.adding hs] at hcall
        cases hcall
      exact ⟨fun hs => absurd hs hrunning, fun hs => absurd hs hrunning, h.running⟩
  | shutdown threads =>
      exact ⟨fun _ => halone rfl, fun _ hs => (by cases hs), fun hs => absurd hs.symm Bool.false_ne_true⟩
  | joined hjoining =>
      have hshut : s.isShutdown = true := by
        cases hs : s.isShutdown with
        | true => rfl
        | false => exact absurd (h.running hs) (by rw [hjoining]; decide)
      exact ⟨h.adding, fun _ hs => (by cases hs), fun hs => absurd (hs.symm.trans hshut) Bool.false_ne_true⟩
  | closed hclosing fds hfds => exact ⟨h.adding, fun _ _ => rfl, fun _ => rfl⟩

/-- **The descriptors of a listener.** In every run of a listener, with any interleaving of `Init`, `Start`
and `Shutdown` with calls of `AddListeningPort` and the polling threads: no thread uses a `ListenerObject`
behind its `delete`, and nothing is closed that is not open, so that no socket is closed twice; every open
descriptor is listened on, belongs to a call of `AddListeningPort`, or is the descriptor 0. If `Shutdown` is
never called in the middle of an `AddListeningPort`, then behind `Shutdown` nothing is open but the
descriptor 0. -/
theorem listener_descriptors (s : ListenerState) (hs : listenerMachine.Reachable s) :
    (∀ a f, s.exec a = .error f → f = .notEnabled) ∧
    s.fds.Perm (s.listening ++ (s.preparing ++ s.lost)) ∧ (∀ fd ∈ s.lost, fd = 0) ∧
    (listenerMachine.Reaches ShutsDownAlone s → s.isShutdown = true → s.stage = .idle → ∀ fd ∈ s.fds, fd = 0) := by
  have h := listenerInv_of_reachable hs
  refine ⟨fun a f hf => h.exec_fault hf, h.fds, h.lost, ?_⟩
  intro halone hshutdown hidle fd hfd
  have hclean : ListenerClean s := by
    refine halone.invariant ListenerClean ⟨fun _ => rfl, fun _ _ => rfl, fun _ => rfl⟩ ?_
    intro s a s' hs hok h hstep
    exact h.exec (listenerInv_of_reachable hs.reachable) hok (eq_ok_of_toOption hstep)
  have hmem := h.fds.mem_iff.mp hfd
  rw [ListenerState.listening, hclean.head hshutdown hidle, ListenerState.preparing,
    hclean.adding hshutdown] at hmem
  exact h.lost fd hmem

/-- A port of IPv4 is listened on and a connection accepted; then the listener is shut down. -/
theorem listener_descriptors_one_port :
    ∃ s : ListenerState, s.accepted = [4] ∧ s.isShutdown = true ∧ s.fds = [] ∧ ∀ fd ∈ s.fds, fd = 0 := by
  obtain ⟨s, hrun, haccepted, hshutdown, hidle, hfds⟩ : ∃ s : ListenerState,
      listenerMachine.run listenerMachine.init
        [.init 1, .start, .next 0, .prepare ⟨fun _ => 3, true⟩ (some 80) ⟨.inet ⟨0, 80⟩ ⟨[0, 0, 0, 0], rfl⟩, 16⟩,
          .enlist 0, .polled 0 1, .onEventProcess 0 0 false 4, .shutdown, .next 0, .joined, .closeAll] = some s ∧
      s.accepted = [4] ∧ s.isShutdown = true ∧ s.stage = .idle ∧ s.fds = [] := ⟨_, rfl, rfl, rfl, rfl, rfl⟩
  have halone : listenerMachine.Reaches ShutsDownAlone s := by
    obtain ⟨s₁, hfirst, hadding, hrest⟩ : ∃ s₁ : ListenerState,
        listenerMachine.run listenerMachine.init
          [.init 1, .start, .next 0, .prepare ⟨fun _ => 3, true⟩ (some 80)
            ⟨.inet ⟨0, 80⟩ ⟨[0, 0, 0, 0], rfl⟩, 16⟩, .enlist 0, .polled 0 1, .onEventProcess 0 0 false 4]
          = some s₁ ∧
        s₁.adding = [] ∧ listenerMachine.run s₁ [.shutdown, .next 0, .joined, .closeAll] = some s :=
      ⟨_, rfl, rfl, hrun⟩
    rw [Machine.run_cons] at hrest
    obtain ⟨s₂, hstep, hrest⟩ := Option.bind_eq_some_iff.mp hrest
    have h₁ : listenerMachine.Reaches ShutsDownAlone s₁ := by
      refine Machine.Reaches.init.run ?_ hfirst
      intro a ha t hshut
      subst hshut
      simp at ha
    refine (h₁.step (fun _ => hadding) hstep).run ?_ hrest
    intro a ha t hshut
    subst hshut
    simp at ha
  exact ⟨s, haccepted, hshutdown, hfds,
    (listener_descriptors s (Machine.reachable_of_run hrun)).2.2.2 halone hshutdown hidle⟩

end RaptorLite
