import RaptorLite.Foundations.Machine
import RaptorLite.Windows.Connection

/-! # The receive path over completion ports

A connection learns of arriving data from the completion of a `WSARecv` without a buffer, which
`Connection::Init` submits first and `Connection::OnRecvEvent` (`windows/connection.cc`) submits again when
it has read what is there. The state keeps the number of receives under way next to the connection.

The loop of `OnRecvEvent` reads until a `recv` does not fill its buffer. It has two successful exits: behind
a short chunk, where the next receive is submitted, and at a `recv` that would block, where none is. The
second is reached when a completion finds nothing to read, or when the data there ends with a full
buffer. -/

namespace RaptorLite.Windows

open RaptorLite.Connection (RecvResult RecvChunk takeChunk)
open Windows.Connection

/-! ### The results of `recv` -/

/-- The chunks that fill the buffer, up to the first result that is none. -/
def fullChunks : List RecvResult → List RecvChunk
  | .data chunk :: rest => if chunk.1.length = recvBufferSize then chunk :: fullChunks rest else []
  | _ => []

/-- The first result that is not a chunk that fills the buffer. -/
def firstOther : List RecvResult → Option RecvResult
  | .data chunk :: rest =>
      if chunk.1.length = recvBufferSize then firstOther rest else some (.data chunk)
  | other :: _ => some other
  | [] => none

/-- `ParsingProtocol` goes on behind each of the chunks. -/
def parses (proto : Option ProtocolHandler) : SliceBuffer → List RecvChunk → Bool
  | _, [] => true
  | rcv, chunk :: rest =>
      match takeChunk proto rcv chunk with
      | some (true, _, rcv') => parses proto rcv' rest
      | _ => false

/-- The loop comes to a `recv` that would block. -/
def BlocksAt (c : Connection) (script : List RecvResult) : Prop :=
  parses c.proto c.rcvBuffer (fullChunks script) = true ∧ firstOther script = some .retry

/-! ### The machine -/

/-- A connection and its receives under way. -/
structure ReceiveState where
  /-- The connection. -/
  connection : Connection
  /-- The number of `WSARecv` operations under way. -/
  outstanding : Nat
  /-- What the last call of `Init` or `OnRecvEvent` returned; behind `false` the container shuts the
  connection down. -/
  returned : Bool

/-- A receive completes, with the results of the `recv` calls and of the `WSARecv` call. -/
structure ReceiveAction where
  /-- The results of `recv`. -/
  script : List RecvResult
  /-- What `WSARecv` returns, if it is called. -/
  outcome : WsaResult

/-- One completion, which carries the handle id of the connection. -/
def ReceiveState.exec (s : ReceiveState) (a : ReceiveAction) : Option ReceiveState :=
  if s.outstanding = 0 then none
  else
    (s.connection.onRecvEvent s.connection.recvOverlapped.handleId a.script a.outcome).map fun r =>
      { connection := { s.connection with rcvBuffer := r.rcv }
        outstanding := s.outstanding - 1 + r.posted.toNat
        returned := r.ok }

/-- A connection just attached; `outcome` is what the `WSARecv` of `Init` returns. -/
def receiveMachine (handleId : UInt32) (proto : Option ProtocolHandler) (outcome : WsaResult) :
    Machine ReceiveState ReceiveAction where
  init :=
    { connection := Connection.make 0 handleId proto
      outstanding := (asyncRecv outcome).toNat
      returned := asyncRecv outcome }
  step := ReceiveState.exec

/-! ### One completion -/

/-- The loop returns true exactly behind a receive it submitted or at a `recv` that would block, and these
exclude each other. -/
theorem onRecvLoop_exits {proto : Option ProtocolHandler} {outcome : WsaResult} {script : List RecvResult}
    {rcv : SliceBuffer} {r : OnRecvResult} (h : onRecvLoop proto outcome rcv script = some r) :
    (r.posted = true → r.ok = true ∧ firstOther script ≠ some .retry) ∧
    (r.ok = true → r.posted = false →
      parses proto rcv (fullChunks script) = true ∧ firstOther script = some .retry) ∧
    (parses proto rcv (fullChunks script) = true → firstOther script = some .retry →
      r.ok = true ∧ r.posted = false) := by
  induction script generalizing rcv r with
  | nil => cases h
  | cons result rest ih =>
      cases result with
      | closed =>
          cases h
          simp [firstOther]
      | retry =>
          cases h
          simp [firstOther, fullChunks, parses]
      | error =>
          cases h
          simp [firstOther]
      | data chunk =>
          rw [onRecvLoop] at h
          obtain ⟨⟨goOn, delivered, rcv'⟩, htake, h⟩ := Option.bind_eq_some_iff.mp h
          by_cases hfull : chunk.1.length = recvBufferSize
          · -- the buffer was filled, and the loop goes on unless the protocol is violated
            have hchunks : parses proto rcv (fullChunks (.data chunk :: rest))
                = (goOn && parses proto rcv' (fullChunks rest)) := by
              rw [fullChunks, if_pos hfull, parses, htake]
              cases goOn with
              | false => rfl
              | true => rfl
            have hother : firstOther (.data chunk :: rest) = firstOther rest := by
              rw [firstOther, if_pos hfull]
            rw [hchunks, hother]
            cases goOn with
            | false =>
                cases h
                simp
            | true =>
                dsimp only at h
                rw [if_neg (by decide), if_pos hfull] at h
                obtain ⟨r', hr', rfl⟩ := Option.map_eq_some_iff.mp h
                simpa using ih hr'
          · have hother : firstOther (.data chunk :: rest) = some (.data chunk) := by
              rw [firstOther, if_neg hfull]
            rw [hother]
            cases goOn with
            | false =>
                cases h
                simp
            | true =>
                dsimp only at h
                rw [if_neg (by decide), if_neg hfull] at h
                cases h
                simp

/-- A completion that is the connection's own: a receive is submitted exactly when `OnRecvEvent` returns
true and the loop does not come to a `recv` that would block. -/
theorem onRecvEvent_posted_iff {c : Connection} {script : List RecvResult} {outcome : WsaResult}
    {r : OnRecvResult} (h : c.onRecvEvent c.recvOverlapped.handleId script outcome = some r) :
    (r.posted = true → r.ok = true) ∧ ((r.ok = true → r.posted = true) ↔ ¬ BlocksAt c script) := by
  have hloop : onRecvLoop c.proto outcome c.rcvBuffer script = some r := by
    rw [← h, onRecvEvent, recvOverlapped]
    simp
  obtain ⟨hposted, hblocked, hexit⟩ := onRecvLoop_exits hloop
  refine ⟨fun hp => (hposted hp).1, ?_⟩
  constructor
  · rintro hok ⟨hparses, hretry⟩
    obtain ⟨htrue, hfalse⟩ := hexit hparses hretry
    rw [hok htrue] at hfalse
    cases hfalse
  · intro hfree hok
    by_contra hnot
    exact hfree (hblocked hok (Bool.not_eq_true _ ▸ hnot))

/-! ### Runs -/

/-- The completion does not come to a `recv` that would block. -/
def NeverBlocks (s : ReceiveState) (a : ReceiveAction) : Prop := ¬ BlocksAt s.connection a.script

/-- At most one receive is under way. -/
theorem outstanding_le_one {handleId : UInt32} {proto : Option ProtocolHandler} {outcome : WsaResult}
    {s : ReceiveState} (hs : (receiveMachine handleId proto outcome).Reachable s) : s.outstanding ≤ 1 := by
  apply hs.invariant fun s => s.outstanding ≤ 1
  · exact Bool.toNat_le _
  · intro s a s' _ _ h hstep
    obtain ⟨-, hstep⟩ := Option.ite_none_left_eq_some.mp hstep
    obtain ⟨r, -, rfl⟩ := Option.map_eq_some_iff.mp hstep
    -- the one under way is used up before the next is submitted
    have hposted := Bool.toNat_le r.posted
    dsimp only
    omega

/-- What a completion leaves under way is what it submitted. -/
theorem outstanding_of_completion {s s' : ReceiveState} {a : ReceiveAction} (hle : s.outstanding ≤ 1)
    (hstep : s.exec a = some s') :
    ∃ r, s.connection.onRecvEvent s.connection.recvOverlapped.handleId a.script a.outcome = some r ∧
      s'.returned = r.ok ∧ s'.outstanding = r.posted.toNat := by
  obtain ⟨hne, hstep⟩ := Option.ite_none_left_eq_some.mp hstep
  obtain ⟨r, hr, rfl⟩ := Option.map_eq_some_iff.mp hstep
  refine ⟨r, hr, rfl, ?_⟩
  dsimp only
  omega

/-- **When a receive is under way behind each completion.** For every connection with at most one `WSARecv`
under way, and in every run there is at most one, whatever `recv` returns: a completion, if `OnRecvEvent`
returns true, leaves exactly one under way if and only if the loop does not come to a `recv` that would
block, that is, the first result that is not a chunk of 8192 bytes is not `WSAEWOULDBLOCK`, or the protocol
handler refuses what was read before. In every run in which no completion comes to one, exactly one
`WSARecv` is under way as long as the calls return true. -/
theorem receive_outstanding_iff (handleId : UInt32) (proto : Option ProtocolHandler) (outcome : WsaResult) :
    (∀ (s s' : ReceiveState) (a : ReceiveAction), s.outstanding ≤ 1 → s.exec a = some s' →
      ((s'.returned = true → s'.outstanding = 1) ↔ ¬ BlocksAt s.connection a.script)) ∧
    (∀ s, (receiveMachine handleId proto outcome).Reachable s → s.outstanding ≤ 1) ∧
    ∀ s, (receiveMachine handleId proto outcome).Reaches NeverBlocks s → s.returned = true →
      s.outstanding = 1 := by
  have hiff : ∀ (s s' : ReceiveState) (a : ReceiveAction), s.outstanding ≤ 1 → s.exec a = some s' →
      ((s'.returned = true → s'.outstanding = 1) ↔ ¬ BlocksAt s.connection a.script) := by
    intro s s' a hle hstep
    obtain ⟨r, hr, hreturned, hout⟩ := outstanding_of_completion hle hstep
    rw [← (onRecvEvent_posted_iff hr).2, hreturned, hout]
    cases r.posted with
    | false => simp
    | true => simp
  refine ⟨hiff, fun s hs => outstanding_le_one hs, ?_⟩
  intro s hs
  apply hs.invariant fun s => s.returned = true → s.outstanding = 1
  · intro hreturned
    show (asyncRecv outcome).toNat = 1
    rw [show asyncRecv outcome = true from hreturned]
    rfl
  · intro s a s' hs hfree _ hstep
    exact (hiff s s' a (outstanding_le_one hs.reachable) hstep).mpr hfree

/-- Three bytes arrive: they are passed on, and the next receive is under way. -/
theorem receive_outstanding_iff_short_chunk :
    ∃ s, (receiveMachine 0 none .success).run (receiveMachine 0 none .success).init
        [⟨[.data ⟨[1, 2, 3], by decide⟩], .error 997⟩] = some s ∧ s.returned = true ∧
      s.outstanding = 1 := by
  obtain ⟨s, hrun, hreturned⟩ : ∃ s, (receiveMachine 0 none .success).run
      (receiveMachine 0 none .success).init
      [⟨[.data ⟨[1, 2, 3], by decide⟩], .error 997⟩] = some s ∧ s.returned = true := ⟨_, rfl, rfl⟩
  have hs : (receiveMachine 0 none .success).Reaches NeverBlocks s := by
    apply Machine.Reaches.init.run _ hrun
    intro a ha t
    rw [List.mem_singleton.mp ha]
    rintro ⟨-, hretry⟩
    cases hretry
  exact ⟨s, hrun, hreturned, (receive_outstanding_iff 0 none .success).2.2 s hs hreturned⟩

/-- A chunk that fills the buffer of `OnRecvEvent`. -/
def fullChunk : RecvChunk where
  val := List.replicate recvBufferSize 0
  property := by
    rw [List.length_replicate, ← List.length_pos_iff, List.length_replicate]
    exact ⟨by decide, Nat.le_refl _⟩

/-- A completion that finds one full buffer and nothing behind it. -/
theorem exec_full_then_block {chunk : RecvChunk} (hfull : chunk.1.length = recvBufferSize) :
    ReceiveState.exec ⟨Connection.make 0 0 none, 1, true⟩ ⟨[.data chunk, .retry], .success⟩
      = some ⟨Connection.make 0 0 none, 0, true⟩ := by
  have hloop : onRecvLoop none .success SliceBuffer.empty [.data chunk, .retry]
      = some ⟨true, [Slice.ofBytes chunk.1], SliceBuffer.empty, false⟩ := by
    rw [onRecvLoop, takeChunk, Option.bind_some]
    dsimp only
    rw [if_neg (by decide), if_pos hfull]
    rfl
  show (onRecvLoop none .success SliceBuffer.empty [.data chunk, .retry]).map _ = _
  rw [hloop]
  rfl

/-- Exactly 8192 bytes arrive: the second `recv` would block, `OnRecvEvent` returns true, and no receive is
under way any more. -/
theorem full_buffer_ends_receiving :
    ∃ s s', s = (receiveMachine 0 none .success).init ∧ s.outstanding = 1 ∧
      s.exec ⟨[.data fullChunk, .retry], .success⟩ = some s' ∧ s'.returned = true ∧
      s'.outstanding = 0 :=
  ⟨_, _, rfl, rfl, exec_full_then_block List.length_replicate, rfl, rfl⟩

end RaptorLite.Windows
