import RaptorLite.Common.SlotTableRuns
import RaptorLite.Common.Container
import RaptorLite.Linux.SendPath

/-! # Send events that leave data behind

What `Connection::DoSendEvent` (`linux/connection.cc`) tells its caller. `OnSend` has four exits: the
buffer is drained, `send` is to be tried again, `send` returned `0`, or it failed. The last two leave the
loop by the same `break` as the first one, so `DoSendEvent`, which takes every result but `-1` for
success, neither asks for another send event nor returns an error. `ContainerImpl::OnSendEvent`
(`common/container_impl.cc`) then refreshes the deadline of the connection and keeps it. -/

namespace RaptorLite

open Connection

/-! ### What a send event must leave behind -/

/-- The `raptor_error` returned by `DoSendEvent`: `RAPTOR_ERROR_NONE` on every path. -/
def Connection.DoSendResult.error (_ : DoSendResult) : Option Status := none

/-- The call that asks for the next send event. -/
def rearmSend (ep : EndpointImpl) : PollCall :=
  Poller.send.modify ep.fd ep.connectionId (epollOut ||| epollEt)

/-- Nothing waits in the buffer, or the next send event is asked for, or the caller is told. -/
def Connection.DoSendResult.Settled (ep : EndpointImpl) (r : DoSendResult) : Prop :=
  r.connection.sndBuffer.vs = [] ∨ rearmSend ep ∈ r.calls ∨ r.error ≠ none

/-- A `send` that failed for good is told to the caller. -/
def Connection.DoSendResult.Reports (script : List SendResult) (r : DoSendResult) : Prop :=
  .error ∈ script → r.error ≠ none

/-! ### The exits of the loop -/

/-- The loop runs over calls of `send` that took bytes. It ends when the buffer is drained, or at a call
that took none, and only one that is to be tried again is told apart by the result. -/
theorem onSendLoop_exits {script : List SendResult} {snd : SliceBuffer} {r : OnSendResult}
    (hvs : snd.vs ≠ []) (hfit : CountsFit snd script) (h : onSendLoop snd script = some r) (hrest : r.rest = []) :
    ∃ ns : List (Nat × Bool),
      (script = ns.map (fun p => .sent p.1 p.2) ∧ r.code = 0 ∧ r.snd.vs = []) ∨
      (script = ns.map (fun p => .sent p.1 p.2) ++ [.retry] ∧ r.code = -1 ∧ r.snd.vs ≠ []) ∨
      (script = ns.map (fun p => .sent p.1 p.2) ++ [.zero] ∧ r.code = 0 ∧ r.snd.vs ≠ []) ∨
      (script = ns.map (fun p => .sent p.1 p.2) ++ [.error] ∧ r.code = 0 ∧ r.snd.vs ≠ []) := by
  induction script generalizing snd r with
  | nil => cases h
  | cons outcome rest ih =>
      cases outcome with
      | zero =>
          cases h
          obtain rfl : rest = [] := hrest
          exact ⟨[], Or.inr (Or.inr (Or.inl ⟨rfl, rfl, hvs⟩))⟩
      | retry =>
          cases h
          obtain rfl : rest = [] := hrest
          exact ⟨[], Or.inr (Or.inl ⟨rfl, rfl, hvs⟩)⟩
      | error =>
          cases h
          obtain rfl : rest = [] := hrest
          exact ⟨[], Or.inr (Or.inr (Or.inr ⟨rfl, rfl, hvs⟩))⟩
      | sent n errnoRetries =>
          obtain ⟨slice, vs, hcons, hpos, hle⟩ := onSendLoop_sent_isSome h
          rw [onSendLoop_sent hcons hpos hle (hfit.lt hcons hle)] at h
          by_cases hmore : (snd.moveHeader n).2.vs = []
          · rw [if_pos hmore] at h
            cases h
            obtain rfl : rest = [] := hrest
            exact ⟨[(n, errnoRetries)], Or.inl ⟨rfl, rfl, hmore⟩⟩
          · rw [if_neg hmore] at h
            obtain ⟨r', hr', rfl⟩ := Option.map_eq_some_iff.mp h
            obtain ⟨ns, hexit⟩ := ih hmore (hfit.next n) hr' hrest
            refine ⟨(n, errnoRetries) :: ns, ?_⟩
            simpa using hexit

/-- A send event that made all the calls of `script` is settled, with its failures reported, exactly when
no call returned `0` or failed for good. -/
theorem doSendEvent_settled_iff {ep : EndpointImpl} {c : Connection} {script : List SendResult}
    {r : DoSendResult} (hvs : c.sndBuffer.vs ≠ []) (hfit : CountsFit c.sndBuffer script)
    (h : c.doSendEvent ep script = some r) (hrest : r.rest = []) :
    (r.Settled ep ∧ r.Reports script) ↔ .zero ∉ script ∧ .error ∉ script := by
  obtain ⟨r', hr', rfl⟩ := Option.map_eq_some_iff.mp h
  rw [onSend, if_neg hvs] at hr'
  obtain ⟨ns, ⟨rfl, hcode, hsnd⟩ | ⟨rfl, hcode, hsnd⟩ | ⟨rfl, hcode, hsnd⟩ | ⟨rfl, hcode, hsnd⟩⟩ :=
    onSendLoop_exits hvs hfit hr' hrest
  all_goals simp [DoSendResult.Settled, DoSendResult.Reports, DoSendResult.error, rearmSend, hcode, hsnd]

/-! ### The container -/

/-- `ContainerImpl::OnSendEvent` on a slot that is taken: the event is handled, and neither the endpoints
nor the slots change. -/
theorem ContainerState.onSendEvent_keeps {opt : ContainerOption} {s : ContainerState} {index con : Nat}
    (hinv : s.slots.table.Inv) (hcon : s.occupant index = some con) {input : EventInput}
    {r : DoSendResult}
    (hr : (s.connections con).doSendEvent (s.endpoints (s.connections con).endpoint) input.sends = some r) :
    ∃ s', s.onSendEvent opt index input = some s' ∧ s'.connections con = r.connection ∧
      s'.calls = s.calls ++ r.calls ∧ s'.endpoints = s.endpoints ∧
      ∀ i, s'.occupant i = s.occupant i := by
  obtain ⟨it, hslot⟩ := SlotTable.connection_eq_some_iff.mp hcon
  have hlt : index < s.slots.table.mgr.length := (List.getElem?_eq_some_iff.mp hslot).1
  have hget : s.getConnection index = some (some con) := by
    rw [ContainerState.getConnection, SlotTable.getConnection, hslot]
    rfl
  obtain ⟨t, ht, -⟩ := hinv.refreshTime hlt (deadlineLine opt input.now)
  refine ⟨{ s with
    connections := Function.update s.connections con r.connection
    calls := s.calls ++ r.calls
    slots := { s.slots with table := t } }, ?_, Function.update_self con r.connection s.connections, rfl,
    rfl, (SlotTable.connection_refreshTime ht).2⟩
  rw [onSendEvent, hget]
  simp only [Option.bind_some, hr]
  rw [ContainerState.refreshTime, ht]
  rfl

/-- **When a send event settles the queued data.** For every connection with a non-empty buffer of
non-empty slices and whatever a kernel answers that takes what it is given and at most `maxTransfer` bytes in
one call, `DoSendEvent` returns, and these are equivalent: the
buffer is empty, or write interest was asked for again, or an error was returned, and every `send` that
failed for good was reported as an error; and no call of `send` in this event returned `0` or failed for
good. In each case the container keeps the connection in its slot and its endpoint as it was. -/
theorem sendEvent_settles_iff (c : Connection) (ep : EndpointImpl) (hvs : c.sndBuffer.vs ≠ [])
    (hsnd : ∀ slice ∈ c.sndBuffer.vs, 0 < slice.size) (kernel : SendKernel) (hkernel : kernel.Valid) :
    ∃ script r, script = kernel.script c.sndBuffer.length 0 c.sndBuffer ∧
      c.doSendEvent ep script = some r ∧ r.rest = [] ∧
      ((r.Settled ep ∧ r.Reports script) ↔ .zero ∉ script ∧ .error ∉ script) ∧
      ∀ (opt : ContainerOption) (s : ContainerState) (index con : Nat) (errno : Errno) (now : Int),
        s.slots.table.Inv → s.occupant index = some con → s.connections con = c →
        s.endpoints c.endpoint = ep →
        ∃ s', s.onSendEvent opt index ⟨[], script, errno, now⟩ = some s' ∧
          s'.connections con = r.connection ∧ s'.calls = s.calls ++ r.calls ∧
          s'.endpoints = s.endpoints ∧ ∀ i, s'.occupant i = s.occupant i := by
  obtain ⟨r, hr, hrest⟩ := doSendEvent_returns hkernel ep hsnd
  refine ⟨_, r, rfl, hr, hrest, doSendEvent_settled_iff hvs (Or.inl (hkernel.inBound_script _ _ _)) hr hrest, ?_⟩
  intro opt s index con errno now hinv hcon hc hep
  subst hc hep
  exact ContainerState.onSendEvent_keeps hinv hcon hr

/-- A kernel that takes one byte at the first call and fails at the second, as on a connection that the
peer has reset. -/
def resetKernel : SendKernel := fun i _ => if i = 0 then .sent 1 else .error

/-- A connection with two bytes to send. -/
def twoByteConnection : Connection :=
  { Connection.make 0 0 none with sndBuffer := SliceBuffer.empty.addSlice (Slice.ofBytes [1, 2]) }

/-- The kernel takes both bytes at once. -/
theorem sendEvent_settles_iff_drained :
    ∃ r, twoByteConnection.doSendEvent ⟨5, 7, true, 80⟩ [.sent 2] = some r ∧
      r.Settled ⟨5, 7, true, 80⟩ ∧ r.Reports [.sent 2] := by
  have hvs : twoByteConnection.sndBuffer.vs ≠ [] := by decide
  have hsnd : ∀ slice ∈ twoByteConnection.sndBuffer.vs, 0 < slice.size := by decide
  have hkernel : SendKernel.Valid fun _ len => if 0 < len ∧ len ≤ maxTransfer then .sent len else .zero := by
    intro i len n errnoRetries h
    dsimp only at h
    split at h
    · next hlen =>
      cases h
      exact ⟨hlen.1, Nat.le_refl _, hlen.2⟩
    · cases h
  obtain ⟨script, r, rfl, hr, -, hiff, -⟩ :=
    sendEvent_settles_iff twoByteConnection ⟨5, 7, true, 80⟩ hvs hsnd _ hkernel
  exact ⟨r, hr, hiff.mpr (by decide)⟩

/-- The second `send` of the event is refused with a hard error: a byte stays in the buffer, write interest
is not asked for, and `DoSendEvent` returns no error. -/
theorem send_error_stalls :
    ∃ script r, script = resetKernel.script twoByteConnection.sndBuffer.length 0 twoByteConnection.sndBuffer ∧
      twoByteConnection.doSendEvent ⟨5, 7, true, 80⟩ script = some r ∧ script = [.sent 1, .error] ∧
      r.connection.sndBuffer.toBytes = [2] ∧ r.calls = [] ∧ r.error = none ∧
      ¬ (r.Settled ⟨5, 7, true, 80⟩ ∧ r.Reports script) := by
  refine ⟨_, _, rfl, rfl, by decide, by decide, rfl, rfl, ?_⟩
  rintro ⟨hvs | hcall | herror, -⟩
  · exact absurd hvs (by decide)
  · cases hcall
  · exact herror rfl

end RaptorLite
