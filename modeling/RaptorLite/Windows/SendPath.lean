import Mathlib.Data.List.Infix
import RaptorLite.Foundations.Machine
import RaptorLite.Windows.Connection

/-! # The send path over completion ports

What the application queues on a connection and what the kernel completes: `Connection::SendMsg` and the
completions that run `Connection::OnSendEvent` (`windows/connection.cc`). Both hold `_snd_mtx`, so a call is
one step. The state keeps the sends that are under way next to the connection, and two logs: the slices for
which `SendMsg` returned true, and the bytes of the sends that completed.

`SendMsg` queues the slice before it tries to submit, and a submission that fails leaves it there; so the
buffer may hold slices for which `SendMsg` returned false. -/

namespace RaptorLite.Windows

open Windows.Connection

/-! ### The machine -/

/-- A connection, the sends under way and the two logs. -/
structure SendState where
  /-- The endpoint. -/
  endpoint : EndpointImpl
  /-- The connection. -/
  connection : Connection
  /-- The regions of each `WSASend` that is under way. -/
  outstanding : List (List Slice)
  /-- The bytes of the sends that completed, in order. -/
  completed : List UInt8
  /-- The slices for which `SendMsg` returned true, in order. -/
  queued : List Slice

/-- The steps. -/
inductive SendAction where
  /-- `SendMsg`, with what its `WSASend` returns if it makes one. -/
  | sendMsg (slice : Slice) (outcome : WsaResult)
  /-- The send number `i` of those under way completes with all its bytes; `outcome` is what the next
  `WSASend` returns if one is made. -/
  | sendCompletion (i : Nat) (outcome : WsaResult)

/-- One step. -/
def SendState.exec (s : SendState) : SendAction → Option SendState
  | .sendMsg slice outcome =>
      let r := s.connection.sendMsg s.endpoint slice outcome
      some { s with
        connection := r.connection
        outstanding := s.outstanding ++ r.posted.toList
        queued := if r.ok then s.queued ++ [slice] else s.queued }
  | .sendCompletion i outcome =>
      (s.outstanding[i]?).map fun sent =>
        let r := s.connection.onSendEvent (bytesOf sent).length s.connection.sendOverlapped.handleId outcome
        { s with
          connection := r.connection
          outstanding := s.outstanding.eraseIdx i ++ r.posted.toList
          completed := s.completed ++ bytesOf sent }

/-- A connection just attached to the endpoint. -/
def sendMachine (endpoint : EndpointImpl) (handleId : UInt32) (proto : Option ProtocolHandler) :
    Machine SendState SendAction where
  init :=
    { endpoint := endpoint, connection := Connection.make 0 handleId proto, outstanding := [],
      completed := [], queued := [] }
  step := SendState.exec

/-- No `WSASend` that a `SendMsg` makes fails: it is accepted whenever the endpoint is online and no send is
pending. -/
def SendSafe (s : SendState) : SendAction → Prop
  | .sendMsg _ outcome =>
      s.endpoint.isOnline = true → s.connection.sendPending = false → outcome.accepted = true
  | .sendCompletion _ _ => True

/-! ### Regions -/

/-- A submission covers slices from the front of the buffer. -/
theorem gather_isPrefix (vs : List Slice) (counter prepareSendSize : Nat) :
    gather vs counter prepareSendSize <+: vs := by
  induction vs generalizing counter prepareSendSize with
  | nil => exact List.prefix_refl _
  | cons s rest ih =>
      rw [gather]
      split
      · exact List.nil_prefix
      split
      · exact List.nil_prefix
      · rw [List.prefix_cons_inj]
        exact ih _ _

/-- The bytes of a prefix of the slices are a prefix of the bytes. -/
theorem bytesOf_isPrefix {vs ws : List Slice} (h : vs <+: ws) : bytesOf vs <+: bytesOf ws := by
  obtain ⟨rest, rfl⟩ := h
  rw [bytesOf_append]
  exact List.prefix_append _ _

/-- The bytes of a submission are the first bytes of the buffer. -/
theorem bytesOf_regions_isPrefix (c : Connection) : bytesOf c.regions <+: c.sndBuffer.toBytes :=
  bytesOf_isPrefix (gather_isPrefix _ _ _)

/-! ### What a call does -/

/-- What `AsyncSend` does: nothing when there is nothing to send or a send is pending; otherwise it submits,
and either the send is under way and pending or the connection is as it was. -/
theorem asyncSend_cases (c : Connection) (outcome : WsaResult) :
    ((c.sndBuffer.vs = [] ∨ c.sendPending = true) ∧ c.asyncSend outcome = ⟨true, c, none⟩) ∨
    (c.sndBuffer.vs ≠ [] ∧ c.sendPending = false ∧ outcome.accepted = true ∧
      c.asyncSend outcome = ⟨true, { c with sendPending := true }, some c.regions⟩) ∨
    (c.sndBuffer.vs ≠ [] ∧ c.sendPending = false ∧ outcome.accepted = false ∧
      c.asyncSend outcome = ⟨false, c, none⟩) := by
  unfold asyncSend
  by_cases hidle : c.sndBuffer.vs = [] ∨ c.sendPending = true
  · rw [if_pos hidle]
    exact Or.inl ⟨hidle, rfl⟩
  · rw [if_neg hidle]
    obtain ⟨hvs, hpending⟩ := not_or.mp hidle
    rw [Bool.not_eq_true] at hpending
    have hsame : { c with sendPending := false } = c := by rw [← hpending]
    cases haccepted : outcome.accepted with
    | true => exact Or.inr (Or.inl ⟨hvs, hpending, rfl, rfl⟩)
    | false =>
        rw [hsame]
        exact Or.inr (Or.inr ⟨hvs, hpending, rfl, rfl⟩)

/-- `AsyncSend` leaves the buffer alone. -/
@[simp] theorem sndBuffer_asyncSend (c : Connection) (outcome : WsaResult) :
    (c.asyncSend outcome).connection.sndBuffer = c.sndBuffer := by
  rcases asyncSend_cases c outcome with ⟨-, h⟩ | ⟨-, -, -, h⟩ | ⟨-, -, -, h⟩
  · rw [h]
  · rw [h]
  · rw [h]

/-- What `OnSendEvent` does with a completion of the connection: one without bytes is a failure, any other drops the
bytes and goes on with `AsyncSend`. -/
theorem onSendEvent_self (c : Connection) (size : Nat) (outcome : WsaResult) :
    c.onSendEvent size c.sendOverlapped.handleId outcome =
      if size = 0 then ⟨false, c, none⟩
      else { c with sendPending := false, sndBuffer := (c.sndBuffer.moveHeader size).2 }.asyncSend outcome := by
  rw [onSendEvent, if_neg (fun hne => hne rfl)]
  split
  · rfl
  dsimp only
  split
  · next hvs =>
      -- `AsyncSend` would return on the empty buffer as well
      rw [Connection.asyncSend, if_pos (Or.inl hvs)]
  · rfl

/-- **A `SendMsg` that returns false leaves the buffer as it was exactly when no `WSASend` it makes
fails.** -/
theorem sendMsg_false_keeps_buffer_iff (ep : EndpointImpl) (c : Connection) (slice : Slice)
    (outcome : WsaResult) :
    ((c.sendMsg ep slice outcome).ok = false →
      (c.sendMsg ep slice outcome).connection.sndBuffer = c.sndBuffer) ↔
    (ep.isOnline = true → c.sendPending = false → outcome.accepted = true) := by
  unfold sendMsg
  cases ep.isOnline with
  | false => simp
  | true =>
      -- the slice is in the buffer, whatever comes of the submission
      have hgrown : c.sndBuffer.addSlice slice ≠ c.sndBuffer := by
        intro h
        have hlen := congrArg (fun b : SliceBuffer => b.vs.length) h
        simp [SliceBuffer.addSlice] at hlen
      rw [if_pos rfl, sndBuffer_asyncSend]
      rcases asyncSend_cases { c with sndBuffer := c.sndBuffer.addSlice slice } outcome with
        ⟨hidle, h⟩ | ⟨-, -, haccepted, h⟩ | ⟨-, hpending, haccepted, h⟩
      · have hpending : c.sendPending = true := by
          rcases hidle with hvs | hpending
          · simp [SliceBuffer.addSlice] at hvs
          · exact hpending
        rw [h, hpending]
        simp
      · rw [h, haccepted]
        simp
      · rw [h, haccepted, show c.sendPending = false from hpending]
        simpa using hgrown

/-! ### Sends under way -/

/-- What holds along every run, whatever fails: there is at most one send under way, none when none is
pending, and its bytes are at the front of the buffer. -/
structure PendingInv (s : SendState) : Prop where
  /-- At most one send is under way. -/
  length_le : s.outstanding.length ≤ 1
  /-- A send under way is pending. -/
  pending : s.connection.sendPending = false → s.outstanding = []
  /-- Its bytes come first in the buffer. -/
  atFront : ∀ sent ∈ s.outstanding, bytesOf sent <+: s.connection.sndBuffer.toBytes

/-- A call of `AsyncSend` in a state in which the sends under way are known. -/
theorem PendingInv.asyncSend {s : SendState} (h : PendingInv s) (outcome : WsaResult) :
    PendingInv { s with
      connection := (s.connection.asyncSend outcome).connection
      outstanding := s.outstanding ++ (s.connection.asyncSend outcome).posted.toList } := by
  rcases asyncSend_cases s.connection outcome with ⟨-, hr⟩ | ⟨-, hpending, -, hr⟩ | ⟨-, -, -, hr⟩
  · rw [hr, Option.toList_none, List.append_nil]
    exact h
  · -- nothing was under way, so the new send is the only one
    rw [hr, h.pending hpending]
    refine ⟨Nat.le_refl 1, (fun hfalse => nomatch hfalse), ?_⟩
    intro sent hsent
    rw [List.mem_singleton.mp hsent]
    exact bytesOf_regions_isPrefix s.connection
  · rw [hr, Option.toList_none, List.append_nil]
    exact h

/-- Slices queued behind the others leave the sends under way alone. -/
theorem PendingInv.addSlice {s : SendState} (h : PendingInv s) (slice : Slice) :
    PendingInv { s with
      connection := { s.connection with sndBuffer := s.connection.sndBuffer.addSlice slice } } := by
  refine ⟨h.length_le, h.pending, ?_⟩
  intro sent hsent
  show bytesOf sent <+: (s.connection.sndBuffer.addSlice slice).toBytes
  rw [SliceBuffer.toBytes_addSlice]
  exact (h.atFront sent hsent).trans (List.prefix_append _ _)

/-- The send that completes is the only one. -/
theorem PendingInv.eq_singleton {s : SendState} (h : PendingInv s) {i : Nat} {sent : List Slice}
    (hsent : s.outstanding[i]? = some sent) : s.outstanding = [sent] ∧ i = 0 := by
  have hlen := h.length_le
  match hout : s.outstanding, i with
  | [], i => rw [hout] at hsent; cases hsent
  | [only], 0 =>
      rw [hout] at hsent
      cases hsent
      exact ⟨rfl, rfl⟩
  -- an index behind the only send designates nothing
  | [only], i + 1 => rw [hout] at hsent; cases hsent
  | _ :: _ :: _, _ =>
      rw [hout] at hlen
      simp at hlen

/-! ### Completions -/

/-- A completed send: the state behind it, before a next one is submitted. -/
def SendState.settle (s : SendState) (sent : List Slice) : SendState :=
  { s with
    connection := { s.connection with
      sendPending := false
      sndBuffer := (s.connection.sndBuffer.moveHeader (bytesOf sent).length).2 }
    outstanding := []
    completed := s.completed ++ bytesOf sent }

/-- What a completion does: one without bytes only ends the send, which stays pending; any other drops the
bytes of the send and goes on with `AsyncSend`. -/
theorem exec_sendCompletion {s s' : SendState} (h : PendingInv s) {i : Nat} {outcome : WsaResult}
    (hstep : s.exec (.sendCompletion i outcome) = some s') :
    ∃ sent, s.outstanding = [sent] ∧
      ((bytesOf sent = [] ∧ s' = { s with outstanding := [] }) ∨
        (s' = { s.settle sent with
          connection := ((s.settle sent).connection.asyncSend outcome).connection
          outstanding := ((s.settle sent).connection.asyncSend outcome).posted.toList })) := by
  obtain ⟨sent, hsent, rfl⟩ := Option.map_eq_some_iff.mp hstep
  -- the completion is that of the only send, with the handle id of the connection
  obtain ⟨hout, rfl⟩ := h.eq_singleton hsent
  refine ⟨sent, hout, ?_⟩
  simp only [hout, onSendEvent_self, List.eraseIdx_cons_zero, List.nil_append]
  by_cases hzero : (bytesOf sent).length = 0
  · have hnil : bytesOf sent = [] := List.length_eq_zero_iff.mp hzero
    rw [if_pos hzero]
    refine Or.inl ⟨hnil, ?_⟩
    simp only [hnil, List.append_nil, Option.toList_none]
  · rw [if_neg hzero]
    exact Or.inr rfl

/-- Settling a completed send leaves nothing under way. -/
theorem PendingInv.settle {s : SendState} (sent : List Slice) : PendingInv (s.settle sent) := by
  refine ⟨Nat.zero_le 1, fun _ => rfl, ?_⟩
  intro other hother
  cases hother

/-- **One step**, whatever it is, keeps the sends under way in order. -/
theorem PendingInv.exec {s s' : SendState} {a : SendAction} (h : PendingInv s)
    (hstep : s.exec a = some s') : PendingInv s' := by
  cases a with
  | sendMsg slice outcome =>
      cases hstep
      unfold sendMsg
      cases s.endpoint.isOnline with
      | false =>
          simp only [Bool.false_eq_true, if_false, Option.toList_none, List.append_nil]
          exact ⟨h.length_le, h.pending, h.atFront⟩
      | true =>
          obtain ⟨hlen, hpending, hfront⟩ := (h.addSlice slice).asyncSend outcome
          exact ⟨hlen, hpending, hfront⟩
  | sendCompletion i outcome =>
      obtain ⟨sent, -, ⟨-, rfl⟩ | rfl⟩ := exec_sendCompletion h hstep
      · refine ⟨Nat.zero_le 1, fun _ => rfl, ?_⟩
        intro other hother
        cases hother
      · exact (PendingInv.settle sent).asyncSend outcome

/-- The sends under way are in order in every run. -/
theorem pendingInv_of_reachable {endpoint : EndpointImpl} {handleId : UInt32}
    {proto : Option ProtocolHandler} {s : SendState}
    (hs : (sendMachine endpoint handleId proto).Reachable s) : PendingInv s := by
  apply hs.invariant PendingInv
  · exact ⟨Nat.zero_le 1, (fun _ => rfl), (fun _ hsent => nomatch hsent)⟩
  · intro s a s' _ _ h hstep
    exact h.exec hstep

/-! ### Runs -/

/-- What the kernel completed and what is buffered is what was queued. -/
def Conserved (s : SendState) : Prop :=
  s.completed ++ s.connection.sndBuffer.toBytes = bytesOf s.queued

/-- **One step** in which no submission of `SendMsg` fails keeps the account. -/
theorem Conserved.exec {s s' : SendState} {a : SendAction} (hpending : PendingInv s) (h : Conserved s)
    (hsafe : SendSafe s a) (hstep : s.exec a = some s') : Conserved s' := by
  cases a with
  | sendMsg slice outcome =>
      have hkeeps := (sendMsg_false_keeps_buffer_iff s.endpoint s.connection slice outcome).mpr hsafe
      cases hstep
      unfold Conserved
      dsimp only
      cases hok : (s.connection.sendMsg s.endpoint slice outcome).ok with
      | false =>
          rw [hkeeps hok]
          exact h
      | true =>
          -- an offline endpoint is refused before anything is queued
          have honline : s.endpoint.isOnline = true := by
            by_contra hoffline
            rw [sendMsg, if_neg hoffline] at hok
            cases hok
          rw [if_pos rfl, sendMsg, if_pos honline, sndBuffer_asyncSend, SliceBuffer.toBytes_addSlice,
            ← List.append_assoc, h, bytesOf_append, bytesOf_cons, bytesOf_nil, List.append_nil]
  | sendCompletion i outcome =>
      obtain ⟨sent, hout, ⟨-, rfl⟩ | rfl⟩ := exec_sendCompletion hpending hstep
      · exact h
      · -- the bytes of the send move from the buffer to the log
        have hfront := hpending.atFront sent (by rw [hout]; exact List.mem_cons_self)
        have hlen : (bytesOf sent).length ≤ s.connection.sndBuffer.length := by
          rw [← SliceBuffer.length_toBytes]
          exact hfront.length_le
        have hsplit : bytesOf sent ++ s.connection.sndBuffer.toBytes.drop (bytesOf sent).length
            = s.connection.sndBuffer.toBytes := (List.prefix_append_drop hfront).symm
        show s.completed ++ bytesOf sent
          ++ ((s.settle sent).connection.asyncSend outcome).connection.sndBuffer.toBytes = bytesOf s.queued
        rw [sndBuffer_asyncSend]
        show s.completed ++ bytesOf sent
          ++ (s.connection.sndBuffer.moveHeader (bytesOf sent).length).2.toBytes = bytesOf s.queued
        rw [SliceBuffer.toBytes_moveHeader hlen, List.append_assoc, hsplit]
        exact h

/-- **The bytes completed and buffered are those that were queued, unless a `SendMsg` fails to submit.** In
every run of a connection made of `SendMsg` calls and send completions at most one `WSASend` is under way,
and a `SendMsg` that returns false leaves `_snd_buffer` as it was exactly when no `WSASend` it makes fails.
In every run in which none fails, the bytes completed, followed by those in `_snd_buffer`, are the bytes of
the slices for which `SendMsg` returned true, in order. -/
theorem completed_append_buffered_of_sendSafe (endpoint : EndpointImpl) (handleId : UInt32)
    (proto : Option ProtocolHandler) :
    (∀ s, (sendMachine endpoint handleId proto).Reachable s →
      s.outstanding.length ≤ 1 ∧
      ∀ slice outcome, SendSafe s (.sendMsg slice outcome) ↔
        ((s.connection.sendMsg s.endpoint slice outcome).ok = false →
          (s.connection.sendMsg s.endpoint slice outcome).connection.sndBuffer
            = s.connection.sndBuffer)) ∧
    ∀ s, (sendMachine endpoint handleId proto).Reaches SendSafe s →
      s.completed ++ s.connection.sndBuffer.toBytes = bytesOf s.queued := by
  refine ⟨?_, ?_⟩
  · intro s hs
    refine ⟨(pendingInv_of_reachable hs).length_le, ?_⟩
    intro slice outcome
    exact (sendMsg_false_keeps_buffer_iff s.endpoint s.connection slice outcome).symm
  · intro s hs
    have hstart : Conserved (sendMachine endpoint handleId proto).init := rfl
    apply hs.invariant Conserved hstart
    -- what is under way is known in every run, safe or not
    intro t a t' ht hsafe h hstep
    exact h.exec (pendingInv_of_reachable ht.reachable) hsafe hstep

/-- A second message is queued while the first is under way, and goes out when that completes. -/
theorem completed_append_buffered_of_sendSafe_second_message :
    ∃ s, (sendMachine ⟨5, 7, true, 80⟩ 0 none).run (sendMachine ⟨5, 7, true, 80⟩ 0 none).init
        [.sendMsg (Slice.ofBytes [1, 2]) .success, .sendMsg (Slice.ofBytes [3]) (.error 997),
          .sendCompletion 0 (.error 997)] = some s ∧
      s.outstanding = [[Slice.ofBytes [3]]] ∧ s.completed = [1, 2] ∧
      s.completed ++ s.connection.sndBuffer.toBytes = bytesOf s.queued := by
  obtain ⟨s, hrun, hout, hcompleted⟩ : ∃ s, (sendMachine ⟨5, 7, true, 80⟩ 0 none).run
        (sendMachine ⟨5, 7, true, 80⟩ 0 none).init
        [.sendMsg (Slice.ofBytes [1, 2]) .success, .sendMsg (Slice.ofBytes [3]) (.error 997),
          .sendCompletion 0 (.error 997)] = some s ∧
      s.outstanding = [[Slice.ofBytes [3]]] ∧ s.completed = [1, 2] := ⟨_, rfl, rfl, rfl⟩
  have hsafe : ∀ a ∈ [SendAction.sendMsg (Slice.ofBytes [1, 2]) .success,
      .sendMsg (Slice.ofBytes [3]) (.error 997), .sendCompletion 0 (.error 997)],
      ∀ t, SendSafe t a := by
    intro a ha t
    simp only [List.mem_cons, List.not_mem_nil, or_false] at ha
    rcases ha with rfl | rfl | rfl
    · exact fun _ _ => rfl
    · exact fun _ _ => rfl
    · trivial
  exact ⟨s, hrun, hout, hcompleted,
    (completed_append_buffered_of_sendSafe ⟨5, 7, true, 80⟩ 0 none).2 s (Machine.Reaches.init.run hsafe hrun)⟩

/-- The first submission fails and the caller tries again: the bytes are sent twice. -/
def retryRun : List SendAction :=
  [.sendMsg (Slice.ofBytes [1, 2, 3]) (.error 10055), .sendMsg (Slice.ofBytes [1, 2, 3]) .success,
    .sendCompletion 0 .success]

/-- A `SendMsg` whose submission fails returns false and leaves its slice in the buffer, from where the next
submission sends it. -/
theorem failed_sendMsg_is_sent :
    (∃ s, (sendMachine ⟨5, 7, true, 80⟩ 0 none).run (sendMachine ⟨5, 7, true, 80⟩ 0 none).init
        (retryRun.take 1) = some s ∧
      s.queued = [] ∧ s.connection.sndBuffer.toBytes = [1, 2, 3]) ∧
    ∃ s, (sendMachine ⟨5, 7, true, 80⟩ 0 none).run (sendMachine ⟨5, 7, true, 80⟩ 0 none).init
        retryRun = some s ∧
      s.queued = [Slice.ofBytes [1, 2, 3]] ∧ s.completed = [1, 2, 3, 1, 2, 3] ∧
      s.completed ++ s.connection.sndBuffer.toBytes ≠ bytesOf s.queued :=
  ⟨⟨_, rfl, rfl, rfl⟩, ⟨_, rfl, rfl, rfl, by decide⟩⟩

end RaptorLite.Windows
