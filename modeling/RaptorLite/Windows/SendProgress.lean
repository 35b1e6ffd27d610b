import RaptorLite.Windows.SendPath

/-! # Submissions without bytes

What `Connection::AsyncSend` (`windows/connection.cc`) hands to `WSASend`. The callback it passes to
`ForEachSlice` stops at sixteen regions and at `MAX_PACKAGE_SIZE` bytes in all, and the second limit is
tested on the first slice too: a slice of more than 65535 bytes at the front of the buffer gives a
submission of no regions. Its completion reports no bytes, which `OnSendEvent` takes for a failure. -/

namespace RaptorLite.Windows

open Windows.Connection

/-! ### The regions of one submission -/

/-- There are never more regions than places in the array. -/
theorem length_gather_le (vs : List Slice) (counter prepareSendSize : Nat) :
    (gather vs counter prepareSendSize).length ≤ maxWsabufCount - counter := by
  induction vs generalizing counter prepareSendSize with
  | nil => exact Nat.zero_le _
  | cons s rest ih =>
      rw [gather]
      split
      · exact Nat.zero_le _
      split
      · exact Nat.zero_le _
      · next hcounter _ =>
          have hrest := ih (counter + 1) (prepareSendSize + s.size)
          rw [List.length_cons]
          omega

/-- The first slice decides whether there is a region at all. -/
theorem gather_cons (s : Slice) (rest : List Slice) :
    gather (s :: rest) 0 0 = if maxPackageSize < s.size then [] else s :: gather rest 1 s.size := by
  rw [gather, if_neg (by decide), Nat.zero_add, Nat.zero_add]

/-- A submission has no bytes exactly when the front slice, which has some, is over the limit. -/
theorem bytesOf_regions_eq_nil_iff {c : Connection} {front : Slice} {rest : List Slice}
    (hvs : c.sndBuffer.vs = front :: rest) (hfront : 0 < front.size) :
    bytesOf c.regions = [] ↔ maxPackageSize < front.size := by
  rw [regions, hvs, gather_cons]
  by_cases hover : maxPackageSize < front.size
  · rw [if_pos hover]
    simp [hover]
  · rw [if_neg hover, bytesOf_cons]
    have hpos : front.toBytes ≠ [] := by
      rw [← List.length_pos_iff, Slice.length_toBytes]
      exact hfront
    simp [hover, hpos]

/-! ### Runs -/

/-- The messages that are sent have bytes. -/
def SendsBytes (_ : SendState) : SendAction → Prop
  | .sendMsg slice _ => 0 < slice.size
  | .sendCompletion _ _ => True

/-- The messages that are sent have bytes, and at most `MAX_PACKAGE_SIZE` of them. -/
def SendsPackages (_ : SendState) : SendAction → Prop
  | .sendMsg slice _ => 0 < slice.size ∧ slice.size ≤ maxPackageSize
  | .sendCompletion _ _ => True

/-- What holds in every run with non-empty messages: a send under way was submitted for the slice that is
still at the front of the buffer, and has no bytes exactly when that slice is over the limit. -/
structure FrontInv (s : SendState) : Prop where
  /-- No slice is empty. -/
  noEmpty : s.connection.sndBuffer.NoEmpty
  /-- The send under way belongs to the front slice. -/
  front : ∀ sent ∈ s.outstanding, ∃ front rest, s.connection.sndBuffer.vs = front :: rest ∧
    (bytesOf sent = [] ↔ maxPackageSize < front.size)

/-- A call of `AsyncSend` submits for the front slice. -/
theorem FrontInv.asyncSend {s : SendState} (h : FrontInv s) (outcome : WsaResult) :
    FrontInv { s with
      connection := (s.connection.asyncSend outcome).connection
      outstanding := s.outstanding ++ (s.connection.asyncSend outcome).posted.toList } := by
  rcases asyncSend_cases s.connection outcome with ⟨-, hr⟩ | ⟨hvs, -, -, hr⟩ | ⟨-, -, -, hr⟩
  · rw [hr, Option.toList_none, List.append_nil]
    exact h
  · rw [hr]
    refine ⟨h.noEmpty, ?_⟩
    intro sent hsent
    rcases List.mem_append.mp hsent with hsent | hsent
    · exact h.front sent hsent
    · obtain ⟨front, rest, hcons⟩ := List.exists_cons_of_ne_nil hvs
      have hfront := h.noEmpty front (by rw [hcons]; exact List.mem_cons_self)
      rw [List.mem_singleton.mp hsent]
      exact ⟨front, rest, hcons, bytesOf_regions_eq_nil_iff hcons hfront⟩
  · rw [hr, Option.toList_none, List.append_nil]
    exact h

/-- A slice queued behind the others does not change the front. -/
theorem FrontInv.addSlice {s : SendState} (h : FrontInv s) {slice : Slice} (hslice : 0 < slice.size) :
    FrontInv { s with
      connection := { s.connection with sndBuffer := s.connection.sndBuffer.addSlice slice } } := by
  refine ⟨h.noEmpty.addSlice hslice, ?_⟩
  intro sent hsent
  obtain ⟨front, rest, hvs, hiff⟩ := h.front sent hsent
  refine ⟨front, rest ++ [slice], ?_, hiff⟩
  show s.connection.sndBuffer.vs ++ [slice] = _
  rw [hvs, List.cons_append]

/-- **One step** with a message that has bytes. -/
theorem FrontInv.exec {s s' : SendState} {a : SendAction} (hpending : PendingInv s) (h : FrontInv s)
    (hsends : SendsBytes s a) (hstep : s.exec a = some s') : FrontInv s' := by
  cases a with
  | sendMsg slice outcome =>
      cases hstep
      unfold sendMsg
      cases s.endpoint.isOnline with
      | false =>
          simp only [Bool.false_eq_true, if_false, Option.toList_none, List.append_nil]
          exact ⟨h.noEmpty, h.front⟩
      | true =>
          obtain ⟨hempty, hfront⟩ := (h.addSlice hsends).asyncSend outcome
          exact ⟨hempty, hfront⟩
  | sendCompletion i outcome =>
      obtain ⟨sent, -, ⟨-, rfl⟩ | rfl⟩ := exec_sendCompletion hpending hstep
      · refine ⟨h.noEmpty, ?_⟩
        intro other hother
        cases hother
      · have hsettled : FrontInv (s.settle sent) := by
          refine ⟨h.noEmpty.moveHeader _, ?_⟩
          intro other hother
          cases hother
        exact hsettled.asyncSend outcome

/-- The front invariant holds in every run that sends bytes. -/
theorem frontInv_of_reaches {endpoint : EndpointImpl} {handleId : UInt32}
    {proto : Option ProtocolHandler} {s : SendState}
    (hs : (sendMachine endpoint handleId proto).Reaches SendsBytes s) : FrontInv s := by
  apply hs.invariant FrontInv
  · exact ⟨SliceBuffer.noEmpty_empty, fun _ hsent => nomatch hsent⟩
  · intro s a s' hs hsends h hstep
    exact h.exec (pendingInv_of_reachable hs.reachable) hsends hstep

/-- No slice of the buffer is over the limit. -/
def PackagesFit (s : SendState) : Prop := ∀ slice ∈ s.connection.sndBuffer.vs, slice.size ≤ maxPackageSize

/-- **One step** with a message within the limit. -/
theorem PackagesFit.exec {s s' : SendState} {a : SendAction} (hpending : PendingInv s) (h : PackagesFit s)
    (hsends : SendsPackages s a) (hstep : s.exec a = some s') : PackagesFit s' := by
  cases a with
  | sendMsg slice outcome =>
      cases hstep
      intro other hother
      dsimp only at hother
      unfold sendMsg at hother
      split at hother
      · rw [sndBuffer_asyncSend] at hother
        rcases List.mem_append.mp hother with hother | hother
        · exact h other hother
        · rw [List.mem_singleton.mp hother]
          exact hsends.2
      · exact h other hother
  | sendCompletion i outcome =>
      obtain ⟨sent, -, ⟨-, rfl⟩ | rfl⟩ := exec_sendCompletion hpending hstep
      · exact h
      · intro slice hslice
        rw [sndBuffer_asyncSend] at hslice
        -- what is left of a slice is not longer than the slice was
        rcases SliceBuffer.mem_moveHeader hslice with hslice | ⟨t, ht, -, hle⟩
        · exact h slice hslice
        · exact Nat.le_trans hle (h t ht)

/-- In every run that sends messages within the limit, every buffered slice is within it. -/
theorem packagesFit_of_reaches {endpoint : EndpointImpl} {handleId : UInt32}
    {proto : Option ProtocolHandler} {s : SendState}
    (hs : (sendMachine endpoint handleId proto).Reaches SendsPackages s) : PackagesFit s := by
  apply hs.invariant PackagesFit
  · intro slice hslice
    cases hslice
  · intro s a s' hs hsends h hstep
    exact h.exec (pendingInv_of_reachable hs.reachable) hsends hstep

/-- **When a submission makes progress.** Let the buffer of a connection hold a slice, none empty, and no
send be pending. Then `WSASend` is given at most sixteen regions, whose bytes are a prefix of the buffered
bytes, and the prefix is not empty exactly when the front slice has at most 65535 bytes. In every run whose
messages have bytes, the completion of the send under way reports no bytes, so that `OnSendEvent` fails,
exactly when the front slice has more than that; and in every run whose messages have at most 65535 bytes
each, no send under way is without bytes. -/
theorem submission_progress_iff (endpoint : EndpointImpl) (handleId : UInt32)
    (proto : Option ProtocolHandler) :
    (∀ c : Connection, c.sndBuffer.vs ≠ [] → (∀ slice ∈ c.sndBuffer.vs, 0 < slice.size) →
      c.sendPending = false →
      (∀ outcome, outcome.accepted = true → (c.asyncSend outcome).posted = some c.regions) ∧
      ((c.regions.length ≤ 16 ∧ bytesOf c.regions <+: c.sndBuffer.toBytes ∧ bytesOf c.regions ≠ []) ↔
        ∀ front, c.sndBuffer.vs.head? = some front → front.size ≤ 0xffff)) ∧
    (∀ s, (sendMachine endpoint handleId proto).Reaches SendsBytes s →
      ∀ sent ∈ s.outstanding, ∃ front, s.connection.sndBuffer.vs.head? = some front ∧
        ((bytesOf sent).length = 0 ↔ 0xffff < front.size)) ∧
    ∀ s, (sendMachine endpoint handleId proto).Reaches SendsPackages s →
      ∀ sent ∈ s.outstanding, (bytesOf sent).length ≠ 0 := by
  have hruns : ∀ s, (sendMachine endpoint handleId proto).Reaches SendsBytes s →
      ∀ sent ∈ s.outstanding, ∃ front, s.connection.sndBuffer.vs.head? = some front ∧
        ((bytesOf sent).length = 0 ↔ 0xffff < front.size) := by
    intro s hs sent hsent
    obtain ⟨front, rest, hvs, hiff⟩ := (frontInv_of_reaches hs).front sent hsent
    refine ⟨front, by rw [hvs]; rfl, ?_⟩
    rw [List.length_eq_zero_iff]
    exact hiff
  refine ⟨?_, hruns, ?_⟩
  · intro c hvs hslices hpending
    obtain ⟨front, rest, hcons⟩ := List.exists_cons_of_ne_nil hvs
    have hiff := bytesOf_regions_eq_nil_iff hcons (hslices front (by rw [hcons]; exact List.mem_cons_self))
    refine ⟨?_, ?_⟩
    · intro outcome haccepted
      rcases asyncSend_cases c outcome with ⟨hidle, -⟩ | ⟨-, -, -, hr⟩ | ⟨-, -, hfailed, -⟩
      · rcases hidle with hnil | htrue
        · exact absurd hnil hvs
        · rw [hpending] at htrue
          cases htrue
      · rw [hr]
      · rw [haccepted] at hfailed
        cases hfailed
    · rw [hcons]
      constructor
      · rintro ⟨-, -, hne⟩ front' hfront
        cases hfront
        exact Nat.not_lt.mp (mt hiff.mpr hne)
      · intro hfit
        refine ⟨length_gather_le _ 0 0, bytesOf_regions_isPrefix c, ?_⟩
        exact mt hiff.mp (Nat.not_lt.mpr (hfit front rfl))
  · intro s hs sent hsent
    -- messages within the limit have bytes, so the front slice decides
    have hbytes : (sendMachine endpoint handleId proto).Reaches SendsBytes s := by
      apply hs.mono
      intro _ a ha
      cases a with
      | sendMsg slice outcome => exact ha.1
      | sendCompletion i outcome => trivial
    obtain ⟨front, hfront, hiff⟩ := hruns s hbytes sent hsent
    have hfit := packagesFit_of_reaches hs front (List.mem_of_head? hfront)
    rw [Ne, hiff]
    exact Nat.not_lt.mpr hfit

/-- Two short messages are queued; the second is under way when the first has completed. -/
theorem submission_progress_iff_short_messages :
    ∃ s, (sendMachine ⟨5, 7, true, 80⟩ 0 none).Reaches SendsPackages s ∧
      s.outstanding = [[Slice.ofBytes [3]]] ∧ ∀ sent ∈ s.outstanding, (bytesOf sent).length ≠ 0 := by
  obtain ⟨s, hrun, hout⟩ : ∃ s, (sendMachine ⟨5, 7, true, 80⟩ 0 none).run
        (sendMachine ⟨5, 7, true, 80⟩ 0 none).init
        [.sendMsg (Slice.ofBytes [1, 2]) .success, .sendMsg (Slice.ofBytes [3]) .success,
          .sendCompletion 0 .success] = some s ∧
      s.outstanding = [[Slice.ofBytes [3]]] := ⟨_, rfl, rfl⟩
  have hs : (sendMachine ⟨5, 7, true, 80⟩ 0 none).Reaches SendsPackages s :=
    Machine.Reaches.init.run (by simp [SendsPackages, maxPackageSize]) hrun
  exact ⟨s, hs, hout, (submission_progress_iff ⟨5, 7, true, 80⟩ 0 none).2.2 s hs⟩

/-- A message of 65536 bytes. -/
def longSlice : Slice := Slice.ofLength 65536

/-- A single message of 65536 bytes: its submission has no regions, the completion reports no bytes, and
`OnSendEvent` takes that for a failure. -/
theorem long_message_fails :
    ∃ s, (sendMachine ⟨5, 7, true, 80⟩ 0 none).Reaches SendsBytes s ∧ s.outstanding = [[]] ∧
      s.connection.sndBuffer.vs = [longSlice] ∧
      (s.connection.onSendEvent (bytesOf []).length s.connection.handleId .success).ok = false := by
  have hsize : longSlice.size = 65536 := Slice.size_ofLength 65536
  have hregions : gather [longSlice] 0 0 = [] := by
    rw [gather_cons, hsize]
    rfl
  refine ⟨_, Machine.Reaches.step (a := .sendMsg longSlice .success) .init ?_ rfl, ?_, rfl, rfl⟩
  · rw [SendsBytes, hsize]
    decide
  · exact congrArg (fun r => [r]) hregions

end RaptorLite.Windows
