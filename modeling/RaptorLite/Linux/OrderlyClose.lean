import RaptorLite.Foundations.Machine
import RaptorLite.Linux.Connection

/-! # Closing by the peer

One connection with its socket, from the arrival of bytes in the kernel to the close event: the kernel
reports events on the two pollers (`PollingThread::DoWork` in `linux/epoll_thread.cc`), the receive
poller reads (`OnRecvEvent`, `DoRecvEvent`, `OnRecv`), and the peer's close is noticed either as a
hang-up in an event or as a `recv` that returns `0`.

Arrivals, reports, the handling of a report, every `recv` and the framing of what it read are steps of
their own: the two pollers are different threads, and bytes arrive at any time. Only `_rcv_mutex` is
respected, that is, there is one `OnRecv` at a time. The kernel reports what the state of the socket
allows; `recv` returns any non-empty beginning of the receive queue that fits the buffer. -/

namespace RaptorLite

open Connection

/-! ### State -/

/-- Where `OnRecv` stands. -/
inductive RecvPc where
  /-- Not called; `_rcv_mutex` is free. -/
  | idle
  /-- About to call `recv`. -/
  | recv
  /-- Has read some bytes; about to pass them on. -/
  | frame (chunk : RecvChunk)
  /-- Has returned `-1`; `OnRecvEvent` is about to shut the connection down. -/
  | failed

/-- A connection, its socket and what is under way between them. -/
structure CloseState where
  /-- The receive queue of the socket. -/
  rcvQueue : List UInt8
  /-- The peer's close has arrived. -/
  fin : Bool
  /-- The masks that `epoll_wait` returned and `DoWork` has not handled. -/
  reported : List (Poller × UInt32)
  /-- The call of `OnRecv`. -/
  recvPc : RecvPc
  /-- The endpoint. -/
  endpoint : EndpointImpl
  /-- The connection. -/
  connection : Connection
  /-- The events passed to `OnClosed`. -/
  closeEvents : List Event
  /-- The bytes that arrived so far. -/
  arrived : List UInt8
  /-- The chunks passed to the framing so far, in order. -/
  framed : List RecvChunk
  /-- The slices passed to `OnDataReceived` so far, in order. -/
  delivered : List Slice
  /-- The peer's close was noticed: reported as a hang-up, or returned by `recv`. -/
  noticed : Bool

/-- The steps. -/
inductive CloseAction where
  /-- Bytes arrive. -/
  | arrive (bytes : List UInt8)
  /-- The peer's close arrives. -/
  | close
  /-- `epoll_wait` returns an event to a poller. -/
  | report (poller : Poller) (mask : UInt32)
  /-- `DoWork` handles a reported event. -/
  | handle (poller : Poller) (mask : UInt32) (errno : Errno)
  /-- `OnRecv` calls `recv`. -/
  | recv (outcome : RecvResult)
  /-- `OnRecv` passes on what it read. -/
  | frame
  /-- `OnRecvEvent` shuts the connection down after `OnRecv` returned `-1`. -/
  | fail (errno : Errno)

/-- The mask reports a hang-up or an error. -/
def isHangup (mask : UInt32) : Bool := EpollEvent.isHangup ⟨mask, 0⟩

namespace CloseState

/-! ### Steps -/

/-- The kernel may report the mask on the poller: the socket is registered, hang-ups are reported after
the peer's close, and each poller is told only what it asked for. -/
def MayReport (s : CloseState) (poller : Poller) (mask : UInt32) : Prop :=
  s.endpoint.isOnline = true ∧ (isHangup mask = true → s.fin = true) ∧
    (hasBit mask epollIn = true → poller = .recv ∧ (s.rcvQueue ≠ [] ∨ s.fin = true)) ∧
    (hasBit mask epollOut = true → poller = .send)

instance (s : CloseState) (poller : Poller) (mask : UInt32) : Decidable (s.MayReport poller mask) :=
  inferInstanceAs (Decidable (_ ∧ _ ∧ _ ∧ _))

/-- `Connection::Shutdown(true, ev)`. -/
def shutdown (s : CloseState) (ev : Event) : CloseState :=
  let r := s.connection.shutdown s.endpoint true ev
  { s with
    endpoint := r.endpoint
    connection := r.connection
    closeEvents := s.closeEvents ++ r.notified.toList }

/-- `ContainerImpl::OnEventProcess` on the detail that `DoWork` makes of the mask: `OnErrorEvent`,
`OnRecvEvent` (which waits for `_rcv_mutex`), or `OnSendEvent`, which does not touch the receiving
side. -/
def onEventProcess (s : CloseState) (mask : UInt32) (errno : Errno) : Option CloseState :=
  let detail := EpollEvent.detail ⟨mask, s.endpoint.connectionId⟩ errno.code
  if hasBit detail.eventType kErrorEvent then
    some (s.shutdown ⟨.socketError, some ⟨detail.errorCode, "ContainerImpl:OnErrorEvent"⟩⟩)
  else if hasBit detail.eventType kRecvEvent then
    match s.recvPc with
    | .idle => some { s with recvPc := .recv }
    | _ => none
  else some s

/-- One `recv` in the loop of `OnRecv`. On a closed descriptor it fails. -/
def recv (s : CloseState) : RecvResult → Option CloseState
  | .data chunk =>
      if s.endpoint.isOnline = true ∧ chunk.1 <+: s.rcvQueue then
        some { s with rcvQueue := s.rcvQueue.drop chunk.1.length, recvPc := .frame chunk }
      else none
  | .closed =>
      if s.endpoint.isOnline = true ∧ s.rcvQueue = [] ∧ s.fin = true then
        some { s with recvPc := .failed, noticed := true }
      else none
  | .retry => if s.endpoint.isOnline = true then some { s with recvPc := .idle } else none
  | .error => if s.endpoint.isOnline = true then none else some { s with recvPc := .failed }

/-- The rest of the loop of `OnRecv` for the bytes that were read. -/
def frame (s : CloseState) (chunk : RecvChunk) : Option CloseState :=
  (takeChunk s.connection.proto s.connection.rcvBuffer chunk).map fun (goOn, slices, rcv) =>
    { s with
      connection := { s.connection with rcvBuffer := rcv }
      framed := s.framed ++ [chunk]
      delivered := s.delivered ++ slices
      recvPc := if !goOn then .failed
        else if chunk.1.length = recvBufferSize then .recv else .idle }

/-- One step. -/
def step (s : CloseState) : CloseAction → Option CloseState
  | .arrive bytes =>
      if s.fin = false ∧ s.endpoint.isOnline = true then
        some { s with rcvQueue := s.rcvQueue ++ bytes, arrived := s.arrived ++ bytes }
      else none
  | .close => some { s with fin := true }
  | .report poller mask =>
      if s.MayReport poller mask then
        some { s with reported := s.reported ++ [(poller, mask)]
                      noticed := s.noticed || isHangup mask }
      else none
  | .handle poller mask errno =>
      if (poller, mask) ∈ s.reported then
        { s with reported := s.reported.erase (poller, mask) }.onEventProcess mask errno
      else none
  | .recv outcome =>
      match s.recvPc with
      | .recv => s.recv outcome
      | _ => none
  | .frame =>
      match s.recvPc with
      | .frame chunk => s.frame chunk
      | _ => none
  | .fail errno =>
      match s.recvPc with
      | .failed =>
          some ({ s with recvPc := .idle }.shutdown
            ⟨.socketError, some (makeStatusFromPosixError "Connection:OnRecv" errno)⟩)
      | _ => none

end CloseState

/-- A connection just attached, with nothing received. -/
def closeMachine (endpoint : EndpointImpl) (proto : Option ProtocolHandler) :
    Machine CloseState CloseAction where
  init :=
    { rcvQueue := [], fin := false, reported := [], recvPc := .idle, endpoint := endpoint,
      connection := Connection.make 0 0 proto, closeEvents := [], arrived := [], framed := [],
      delivered := [], noticed := false }
  step := CloseState.step

namespace CloseState

/-! ### The loop of `OnRecv` -/

/-- The steps of one round of the loop of `OnRecv`. -/
def roundActions : RecvResult → List CloseAction
  | .data chunk => [.recv (.data chunk), .frame]
  | outcome => [.recv outcome]

/-- Once `OnRecv` has returned, no round of its loop follows. -/
theorem script_eq_nil {endpoint : EndpointImpl} {proto : Option ProtocolHandler} {s s' : CloseState}
    {script : List RecvResult} (hpc : s.recvPc ≠ .recv)
    (hrun : (closeMachine endpoint proto).run s (script.flatMap roundActions) = some s') :
    script = [] ∧ s' = s := by
  have hstuck : ∀ outcome, s.step (.recv outcome) = none := by
    intro outcome
    simp only [CloseState.step]
  cases script with
  | nil =>
      cases hrun
      exact ⟨rfl, rfl⟩
  | cons outcome rest =>
      cases outcome <;> simp [roundActions, closeMachine, hstuck] at hrun

/-- A `recv` without data ends the loop. -/
theorem recv_returns {s t : CloseState} {outcome : RecvResult} (hdata : ∀ chunk, outcome ≠ .data chunk)
    (hstep : s.recv outcome = some t) :
    t.recvPc ≠ .recv ∧ t.delivered = s.delivered ∧ t.connection = s.connection ∧
      ∃ code, (t.recvPc = .failed ↔ code = -1) ∧ ∀ proto rcv rest,
        onRecv proto rcv (outcome :: rest) = some ⟨code, [], rcv, rest⟩ := by
  cases outcome with
  | data chunk => exact absurd rfl (hdata chunk)
  | closed =>
      simp only [CloseState.recv, Option.ite_none_right_eq_some, Option.some.injEq] at hstep
      obtain ⟨-, rfl⟩ := hstep
      exact ⟨nofun, rfl, rfl, -1, by simp, fun _ _ _ => rfl⟩
  | retry =>
      simp only [CloseState.recv, Option.ite_none_right_eq_some, Option.some.injEq] at hstep
      obtain ⟨-, rfl⟩ := hstep
      exact ⟨nofun, rfl, rfl, 0, by simp, fun _ _ _ => rfl⟩
  | error =>
      simp only [CloseState.recv, Option.ite_none_left_eq_some, Option.some.injEq] at hstep
      obtain ⟨-, rfl⟩ := hstep
      exact ⟨nofun, rfl, rfl, -1, by simp, fun _ _ _ => rfl⟩

/-- **Uninterrupted, the steps are `OnRecv`**: rounds of its loop, taken from its start to its return,
pass on what `Connection::OnRecv` passes on, leave the receive buffer it leaves, and fail when it
does. -/
theorem onRecv_of_rounds {endpoint : EndpointImpl} {proto : Option ProtocolHandler}
    {script : List RecvResult} {s s' : CloseState} (hpc : s.recvPc = .recv)
    (hrun : (closeMachine endpoint proto).run s (script.flatMap roundActions) = some s')
    (hpc' : s'.recvPc ≠ .recv) :
    ∃ r, onRecv s.connection.proto s.connection.rcvBuffer script = some r ∧ r.rest = [] ∧
      s'.delivered = s.delivered ++ r.delivered ∧ s'.connection.rcvBuffer = r.rcv ∧
      (s'.recvPc = .failed ↔ r.code = -1) := by
  induction script generalizing s with
  | nil =>
      cases hrun
      exact absurd hpc hpc'
  | cons outcome rest ih =>
      rw [List.flatMap_cons, Machine.run_append] at hrun
      obtain ⟨t, hround, hrest⟩ := Option.bind_eq_some_iff.mp hrun
      by_cases hdata : ∃ chunk, outcome = .data chunk
      · obtain ⟨chunk, rfl⟩ := hdata
        simp only [roundActions, closeMachine, Machine.run_cons, Machine.run_nil, CloseState.step,
          hpc, CloseState.recv, Option.bind_eq_some_iff, Option.ite_none_right_eq_some,
          Option.some.injEq] at hround
        obtain ⟨t', ⟨-, rfl⟩, t'', hframe, rfl⟩ := hround
        obtain ⟨⟨goOn, slices, rcv⟩, htake, rfl⟩ := Option.map_eq_some_iff.mp hframe
        dsimp only at htake
        rw [onRecv, htake, Option.bind_some]
        cases goOn with
        | false =>
            obtain ⟨rfl, rfl⟩ := script_eq_nil (by simp) hrest
            exact ⟨_, rfl, rfl, rfl, rfl, by simp⟩
        | true =>
            by_cases hfull : chunk.1.length = recvBufferSize
            · -- a full buffer: the loop goes on
              obtain ⟨r, hr, hnil, hdelivered, hrcv, hcode⟩ := ih (by simp [hfull]) hrest
              dsimp only at hr
              refine ⟨{ r with delivered := slices ++ r.delivered }, ?_, hnil, by simp [hdelivered],
                hrcv, hcode⟩
              dsimp only
              rw [if_neg (by simp), if_pos hfull, hr, Option.map_some]
            · obtain ⟨rfl, rfl⟩ := script_eq_nil (by simp [hfull]) hrest
              refine ⟨⟨0, slices, rcv, []⟩, ?_, rfl, rfl, rfl, by simp [hfull]⟩
              dsimp only
              rw [if_neg (by simp), if_neg hfull]
      · have hround' : s.recv outcome = some t := by
          cases outcome with
          | data chunk => exact absurd ⟨chunk, rfl⟩ hdata
          | closed | retry | error =>
              simpa [roundActions, closeMachine, CloseState.step, hpc] using hround
        obtain ⟨hreturned, hdelivered, hconnection, code, hcode, honRecv⟩ :=
          recv_returns (fun chunk h => hdata ⟨chunk, h⟩) hround'
        obtain ⟨rfl, rfl⟩ := script_eq_nil hreturned hrest
        exact ⟨_, honRecv _ _ _, rfl, by simp [hdelivered], by rw [hconnection], hcode⟩

end CloseState

/-! ### What is read before the close -/

/-- The framing of a list of chunks from an empty receive buffer: the slices passed on and the receive
buffer, unless the handler rejects the stream. -/
def frameAll (proto : Option ProtocolHandler) (chunks : List RecvChunk) :
    Option (List Slice × SliceBuffer) :=
  chunks.foldlM
    (fun acc chunk => (takeChunk proto acc.2 chunk).bind fun (goOn, slices, rcv) =>
      if goOn then some (acc.1 ++ slices, rcv) else none)
    ([], .empty)

/-- Framing one chunk more. -/
theorem frameAll_append {proto : Option ProtocolHandler} {chunks : List RecvChunk}
    {chunk : RecvChunk} {delivered slices : List Slice} {rcv rcv' : SliceBuffer}
    (h : frameAll proto chunks = some (delivered, rcv))
    (htake : takeChunk proto rcv chunk = some (true, slices, rcv')) :
    frameAll proto (chunks ++ [chunk]) = some (delivered ++ slices, rcv') := by
  unfold frameAll at h ⊢
  rw [List.foldlM_append, h]
  simp [htake]

namespace CloseState

/-- The bytes of the chunks passed to the framing. -/
def framedBytes (s : CloseState) : List UInt8 := (s.framed.map Subtype.val).flatten

/-- The bytes that were read and not yet passed on. -/
def inHand (s : CloseState) : List UInt8 :=
  match s.recvPc with
  | .frame chunk => chunk.1
  | _ => []

/-- The close event is queued or the socket is closed. -/
def IsClosed (s : CloseState) : Prop := s.closeEvents ≠ [] ∨ s.endpoint.isOnline = false

/-- **Nothing is lost**: if the peer's close was noticed and the connection is closed, then all bytes
that arrived (among them those in the receive queue when the close was noticed) have been read and
passed through the framing. -/
def NothingLost (proto : Option ProtocolHandler) (s : CloseState) : Prop :=
  s.noticed = true → s.IsClosed →
    s.framedBytes = s.arrived ∧ ∃ rcv, frameAll proto s.framed = some (s.delivered, rcv)

/-- The step does not lose anything: an event that reports a hang-up is handled while the receive queue
is empty and nothing is in the hand of `OnRecv`, and the handler does not reject what was read. -/
def CloseSafe (s : CloseState) : CloseAction → Prop
  | .handle _ mask _ => isHangup mask = true → s.rcvQueue = [] ∧ s.inHand = []
  | .frame => ∀ chunk r, s.recvPc = .frame chunk →
      takeChunk s.connection.proto s.connection.rcvBuffer chunk = some r → r.1 = true
  | _ => True

/-- What holds under safe steps. -/
structure CloseInv (proto : Option ProtocolHandler) (s : CloseState) : Prop where
  /-- The handler does not change. -/
  proto_eq : s.connection.proto = proto
  /-- What arrived was framed, is in hand or is queued, in this order. -/
  split : s.arrived = s.framedBytes ++ s.inHand ++ s.rcvQueue
  /-- What was delivered is the framing of what was framed. -/
  framing : ∃ rcv, frameAll proto s.framed = some (s.delivered, rcv) ∧
    (s.endpoint.isOnline = true → rcv = s.connection.rcvBuffer)
  /-- A close that was noticed has arrived. -/
  fin_of_noticed : s.noticed = true → s.fin = true
  /-- Only an open connection has bytes in hand. -/
  online_of_frame : ∀ chunk, s.recvPc = .frame chunk → s.endpoint.isOnline = true
  /-- `OnRecv` fails on an open connection only at the peer's close. -/
  empty_of_failed : s.recvPc = .failed → s.endpoint.isOnline = true →
    s.rcvQueue = [] ∧ s.fin = true
  /-- A close event is sent only with the socket closed. -/
  offline_of_event : s.closeEvents ≠ [] → s.endpoint.isOnline = false
  /-- Behind the close nothing is missing. -/
  framed_of_offline : s.endpoint.isOnline = false → s.noticed = true → s.framedBytes = s.arrived
  /-- A reported hang-up is noticed. -/
  noticed_of_reported : ∀ e ∈ s.reported, isHangup e.2 = true → s.noticed = true

/-! ### Steps of the connection -/

/-- Shutting down closes the socket. -/
theorem isOnline_shutdown (s : CloseState) (ev : Event) :
    (s.shutdown ev).endpoint.isOnline = false :=
  Connection.isOnline_shutdown s.endpoint s.connection true ev

/-- The handler survives. -/
theorem proto_shutdown (s : CloseState) (ev : Event) :
    (s.shutdown ev).connection.proto = s.connection.proto := by
  show (s.connection.shutdown s.endpoint true ev).connection.proto = s.connection.proto
  unfold Connection.shutdown
  split <;> rfl

/-- Outside the framing step nothing is in hand, and in it something is. -/
theorem inHand_ne_nil {s : CloseState} {chunk : RecvChunk} (h : s.recvPc = .frame chunk) :
    s.inHand ≠ [] := by
  rw [inHand, h]
  exact chunk.2.1

/-- Shutting down an open connection whose socket and hand are empty, or a closed one. -/
theorem CloseInv.shutdown {proto : Option ProtocolHandler} {s : CloseState} (h : CloseInv proto s)
    (ev : Event) (hempty : s.endpoint.isOnline = true → s.rcvQueue = [] ∧ s.inHand = []) :
    CloseInv proto (s.shutdown ev) where
  proto_eq := (proto_shutdown s ev).trans h.proto_eq
  split := h.split
  framing := by
    obtain ⟨rcv, hframe, -⟩ := h.framing
    refine ⟨rcv, hframe, ?_⟩
    intro hon
    rw [isOnline_shutdown] at hon
    cases hon
  fin_of_noticed := h.fin_of_noticed
  online_of_frame chunk hpc :=
    absurd (hempty (h.online_of_frame chunk hpc)).2 (inHand_ne_nil hpc)
  empty_of_failed _ hon := by
    rw [isOnline_shutdown] at hon
    cases hon
  offline_of_event _ := isOnline_shutdown s ev
  framed_of_offline _ hnoticed := by
    show s.framedBytes = s.arrived
    -- a connection that is already closed is left as it is, an open one has nothing left to read
    cases hon : s.endpoint.isOnline with
    | false => exact h.framed_of_offline hon hnoticed
    | true =>
        obtain ⟨hqueue, hhand⟩ := hempty hon
        rw [h.split, hqueue, hhand, List.append_nil, List.append_nil]
  noticed_of_reported := h.noticed_of_reported

/-- `OnRecv` goes to a place at which it holds nothing. -/
theorem CloseInv.setRecvPc {proto : Option ProtocolHandler} {s : CloseState} (h : CloseInv proto s)
    {pc : RecvPc} (hhand : s.inHand = []) (hpc : pc = .idle ∨ pc = .recv) :
    CloseInv proto { s with recvPc := pc } where
  proto_eq := h.proto_eq
  split := by
    have hsplit := h.split
    rw [hhand] at hsplit
    rcases hpc with rfl | rfl <;> exact hsplit
  framing := h.framing
  fin_of_noticed := h.fin_of_noticed
  online_of_frame chunk heq := by rcases hpc with rfl | rfl <;> cases heq
  empty_of_failed heq := by rcases hpc with rfl | rfl <;> cases heq
  offline_of_event := h.offline_of_event
  framed_of_offline := h.framed_of_offline
  noticed_of_reported := h.noticed_of_reported

/-- A step of `recv`. -/
theorem CloseInv.recv {proto : Option ProtocolHandler} {s s' : CloseState} (h : CloseInv proto s)
    {outcome : RecvResult} (hpc : s.recvPc = .recv) (hstep : s.recv outcome = some s') :
    CloseInv proto s' := by
  have hhand : s.inHand = [] := by rw [inHand, hpc]
  have hsplit := h.split
  rw [hhand, List.append_nil] at hsplit
  cases outcome with
  | data chunk =>
      simp only [CloseState.recv, Option.ite_none_right_eq_some, Option.some.injEq] at hstep
      obtain ⟨⟨hon, rest, hrest⟩, rfl⟩ := hstep
      refine ⟨h.proto_eq, ?_, h.framing, h.fin_of_noticed, fun _ _ => hon, nofun,
        h.offline_of_event, ?_, h.noticed_of_reported⟩
      · show s.arrived = s.framedBytes ++ chunk.1 ++ s.rcvQueue.drop chunk.1.length
        rw [hsplit, ← hrest, List.drop_left, List.append_assoc]
      · intro hoff
        rw [hon] at hoff
        cases hoff
  | closed =>
      simp only [CloseState.recv, Option.ite_none_right_eq_some, Option.some.injEq] at hstep
      obtain ⟨⟨hon, hqueue, hfin⟩, rfl⟩ := hstep
      -- `recv` returns 0 only when the receive queue is empty and the peer has closed
      refine ⟨h.proto_eq, ?_, h.framing, fun _ => hfin, nofun, fun _ _ => ⟨hqueue, hfin⟩,
        h.offline_of_event, ?_, fun _ _ _ => rfl⟩
      · show s.arrived = s.framedBytes ++ [] ++ s.rcvQueue
        rw [List.append_nil]
        exact hsplit
      · intro hoff
        rw [hon] at hoff
        cases hoff
  | retry =>
      simp only [CloseState.recv, Option.ite_none_right_eq_some, Option.some.injEq] at hstep
      obtain ⟨-, rfl⟩ := hstep
      exact h.setRecvPc hhand (Or.inl rfl)
  | error =>
      simp only [CloseState.recv, Option.ite_none_left_eq_some, Option.some.injEq] at hstep
      obtain ⟨hoff, rfl⟩ := hstep
      -- on a closed descriptor `recv` fails, and the shutdown that follows finds it closed
      refine ⟨h.proto_eq, ?_, h.framing, h.fin_of_noticed, nofun, fun _ hon => absurd hon hoff,
        h.offline_of_event, h.framed_of_offline, h.noticed_of_reported⟩
      show s.arrived = s.framedBytes ++ [] ++ s.rcvQueue
      rw [List.append_nil]
      exact hsplit

/-- Passing on what was read, when the handler does not reject it. -/
theorem CloseInv.frame {proto : Option ProtocolHandler} {s s' : CloseState} (h : CloseInv proto s)
    {chunk : RecvChunk} (hpc : s.recvPc = .frame chunk)
    (hsafe : ∀ r, takeChunk s.connection.proto s.connection.rcvBuffer chunk = some r → r.1 = true)
    (hstep : s.frame chunk = some s') : CloseInv proto s' := by
  obtain ⟨⟨goOn, slices, rcv'⟩, htake, rfl⟩ := Option.map_eq_some_iff.mp hstep
  obtain rfl : goOn = true := hsafe _ htake
  have hon := h.online_of_frame chunk hpc
  have hhand : s.inHand = chunk.1 := by rw [inHand, hpc]
  obtain ⟨rcv, hframe, hrcv⟩ := h.framing
  obtain rfl := hrcv hon
  rw [h.proto_eq] at htake
  have hbytes : ((s.framed ++ [chunk]).map Subtype.val).flatten = s.framedBytes ++ chunk.1 := by
    simp [framedBytes]
  have hidle : CloseInv proto { s with
      connection := { s.connection with rcvBuffer := rcv' }
      framed := s.framed ++ [chunk]
      delivered := s.delivered ++ slices
      recvPc := .idle } := by
    refine ⟨h.proto_eq, ?_, ⟨rcv', frameAll_append hframe htake, fun _ => rfl⟩, h.fin_of_noticed,
      nofun, nofun, h.offline_of_event, ?_, h.noticed_of_reported⟩
    · show s.arrived = ((s.framed ++ [chunk]).map Subtype.val).flatten ++ [] ++ s.rcvQueue
      rw [hbytes, List.append_nil, ← hhand]
      exact h.split
    · intro hoff
      rw [hon] at hoff
      cases hoff
  -- the loop goes on or ends, and holds nothing in either case
  refine hidle.setRecvPc rfl ?_
  by_cases hfull : chunk.1.length = recvBufferSize
  · exact Or.inr (by simp [hfull])
  · exact Or.inl (by simp [hfull])

/-- A mask with a hang-up goes to `OnErrorEvent`, any other one does not. -/
theorem hasBit_detail_error (mask : UInt32) (cid : UInt64) (errno : Int32) :
    hasBit (EpollEvent.detail ⟨mask, cid⟩ errno).eventType kErrorEvent = isHangup mask :=
  hasBit_eventTypeOf_error _ _ _

/-- The handling of an event. -/
theorem CloseInv.onEventProcess {proto : Option ProtocolHandler} {s s' : CloseState}
    (h : CloseInv proto s) {mask : UInt32} {errno : Errno}
    (hsafe : isHangup mask = true → s.rcvQueue = [] ∧ s.inHand = [])
    (hstep : s.onEventProcess mask errno = some s') : CloseInv proto s' := by
  unfold CloseState.onEventProcess at hstep
  simp only [hasBit_detail_error] at hstep
  cases hhangup : isHangup mask with
  | true =>
      rw [hhangup, if_pos rfl, Option.some.injEq] at hstep
      subst hstep
      exact h.shutdown _ fun _ => hsafe hhangup
  | false =>
      rw [hhangup, if_neg Bool.false_ne_true] at hstep
      split at hstep
      · split at hstep
        · next hpc =>
            cases hstep
            exact h.setRecvPc (by rw [inHand, hpc]) (Or.inr rfl)
        · cases hstep
      · cases hstep
        exact h

/-! ### Runs -/

/-- The start state. -/
theorem closeInv_init (endpoint : EndpointImpl) (proto : Option ProtocolHandler) :
    CloseInv proto (closeMachine endpoint proto).init where
  proto_eq := rfl
  split := rfl
  framing := ⟨.empty, rfl, fun _ => rfl⟩
  fin_of_noticed := nofun
  online_of_frame := nofun
  empty_of_failed := nofun
  offline_of_event hevent := absurd rfl hevent
  framed_of_offline _ := nofun
  noticed_of_reported := nofun

/-- **A safe step** keeps the invariant. -/
theorem CloseInv.step {proto : Option ProtocolHandler} {s s' : CloseState} {a : CloseAction}
    (h : CloseInv proto s) (hsafe : s.CloseSafe a) (hstep : s.step a = some s') :
    CloseInv proto s' := by
  cases a with
  | arrive bytes =>
      simp only [CloseState.step, Option.ite_none_right_eq_some, Option.some.injEq] at hstep
      obtain ⟨⟨hfin, hon⟩, rfl⟩ := hstep
      -- the peer sends nothing behind its close, so nothing was noticed yet
      have hopen : s.fin ≠ true := by simp [hfin]
      refine ⟨h.proto_eq, ?_, h.framing, h.fin_of_noticed, h.online_of_frame,
        fun hpc hon => absurd (h.empty_of_failed hpc hon).2 hopen, h.offline_of_event,
        fun _ hnoticed => absurd (h.fin_of_noticed hnoticed) hopen, h.noticed_of_reported⟩
      show s.arrived ++ bytes = s.framedBytes ++ s.inHand ++ (s.rcvQueue ++ bytes)
      rw [h.split, List.append_assoc _ s.rcvQueue]
  | close =>
      cases hstep
      exact ⟨h.proto_eq, h.split, h.framing, fun _ => rfl, h.online_of_frame,
        fun hpc hon => ⟨(h.empty_of_failed hpc hon).1, rfl⟩, h.offline_of_event,
        h.framed_of_offline, h.noticed_of_reported⟩
  | report poller mask =>
      simp only [CloseState.step, Option.ite_none_right_eq_some, Option.some.injEq] at hstep
      obtain ⟨⟨hon, hhangup, -⟩, rfl⟩ := hstep
      refine ⟨h.proto_eq, h.split, h.framing, ?_, h.online_of_frame,
        h.empty_of_failed, h.offline_of_event, ?_, ?_⟩
      · intro hnoticed
        rcases Bool.or_eq_true_iff.mp hnoticed with hbefore | hnow
        · exact h.fin_of_noticed hbefore
        · exact hhangup hnow
      · intro hoff
        rw [hon] at hoff
        cases hoff
      · intro e he hnow
        rw [Bool.or_eq_true_iff]
        rcases List.mem_append.mp he with hold | hnew
        · exact Or.inl (h.noticed_of_reported e hold hnow)
        · rw [List.mem_singleton.mp hnew] at hnow
          exact Or.inr hnow
  | handle poller mask errno =>
      simp only [CloseState.step, Option.ite_none_right_eq_some] at hstep
      have htaken : CloseInv proto { s with reported := s.reported.erase (poller, mask) } :=
        ⟨h.proto_eq, h.split, h.framing, h.fin_of_noticed, h.online_of_frame, h.empty_of_failed,
          h.offline_of_event, h.framed_of_offline,
          fun e he => h.noticed_of_reported e (List.mem_of_mem_erase he)⟩
      exact htaken.onEventProcess hsafe hstep.2
  | recv outcome =>
      simp only [CloseState.step] at hstep
      split at hstep
      · next hpc => exact h.recv hpc hstep
      · cases hstep
  | frame =>
      simp only [CloseState.step] at hstep
      split at hstep
      · next chunk hpc => exact h.frame hpc (fun r => hsafe chunk r hpc) hstep
      · cases hstep
  | fail errno =>
      simp only [CloseState.step] at hstep
      split at hstep
      · next hpc =>
          cases hstep
          have hhand : s.inHand = [] := by rw [inHand, hpc]
          exact (h.setRecvPc hhand (Or.inl rfl)).shutdown _ fun hon =>
            ⟨(h.empty_of_failed hpc hon).1, rfl⟩
      · cases hstep

end CloseState

/-! ### Results -/

open CloseState

/-- The invariant holds in every state that safe steps reach. -/
theorem closeInv_of_reaches {endpoint : EndpointImpl} {proto : Option ProtocolHandler}
    {s : CloseState} (hs : (closeMachine endpoint proto).Reaches CloseSafe s) : CloseInv proto s :=
  hs.invariant (CloseInv proto) (closeInv_init endpoint proto)
    fun _ _ _ _ hsafe h hstep => h.step hsafe hstep

/-- Handling a reported hang-up loses what is not framed by then. -/
theorem nothingLost_handle_iff {proto : Option ProtocolHandler} {s s' : CloseState}
    (h : CloseInv proto s) {poller : Poller} {mask : UInt32} {errno : Errno}
    (hhangup : isHangup mask = true) (hstep : s.step (.handle poller mask errno) = some s') :
    s'.NothingLost proto ↔ s.framedBytes = s.arrived := by
  simp only [CloseState.step, Option.ite_none_right_eq_some, CloseState.onEventProcess,
    hasBit_detail_error, hhangup, if_true, Option.some.injEq] at hstep
  obtain ⟨hmem, rfl⟩ := hstep
  have hnoticed := h.noticed_of_reported _ hmem hhangup
  obtain ⟨rcv, hframe, -⟩ := h.framing
  constructor
  · intro hlost
    exact (hlost hnoticed (Or.inr (isOnline_shutdown _ _))).1
  · intro hall _ _
    exact ⟨hall, rcv, hframe⟩

/-- **Bytes sent before an orderly close are not lost in a run of safe steps.** For every stream of the
peer, every division into poll events on the two pollers, every chunking by `recv` and every order of
the steps: if every event that reports a hang-up is handled while the receive queue is empty and
nothing is in the hand of `OnRecv`, and the handler rejects nothing, then in every state reached
nothing is lost. And the first condition is needed: the first time it is not met, something is lost. -/
theorem nothing_lost_of_closeSafe (endpoint : EndpointImpl) (proto : Option ProtocolHandler)
    (s : CloseState) (hs : (closeMachine endpoint proto).Reaches CloseSafe s) :
    s.NothingLost proto ∧
    ∀ poller mask errno s', isHangup mask = true →
      (closeMachine endpoint proto).step s (.handle poller mask errno) = some s' →
      (s'.NothingLost proto ↔ s.rcvQueue = [] ∧ s.inHand = []) := by
  have h := closeInv_of_reaches hs
  have hsplit := h.split
  refine ⟨?_, ?_⟩
  · intro hnoticed hclosed
    have hoff : s.endpoint.isOnline = false := hclosed.elim h.offline_of_event id
    obtain ⟨rcv, hframe, -⟩ := h.framing
    exact ⟨h.framed_of_offline hoff hnoticed, rcv, hframe⟩
  · intro poller mask errno s' hhangup hstep
    rw [nothingLost_handle_iff h hhangup hstep, hsplit, List.append_assoc]
    constructor
    · intro hall
      obtain ⟨hhand, hqueue⟩ := List.append_eq_nil_iff.mp (List.self_eq_append_right.mp hall)
      exact ⟨hqueue, hhand⟩
    · rintro ⟨hqueue, hhand⟩
      rw [hqueue, hhand, List.append_nil, List.append_nil]

/-- Two bytes arrive, are reported and read; then the peer closes, and the hang-up is handled. -/
theorem nothing_lost_of_closeSafe_two_bytes :
    ∃ s : CloseState, (closeMachine ⟨5, 7, true, 80⟩ none).Reaches CloseSafe s ∧
      s.arrived = [1, 2] ∧ s.noticed = true ∧ s.IsClosed ∧ s.NothingLost none := by
  obtain ⟨s₁, s₂, s₃, s₄, hread, hframe, hclose, hhandle, hproto, hqueue, hhand, harrived, hnoticed,
      hclosed⟩ : ∃ s₁ s₂ s₃ s₄ : CloseState,
      (closeMachine ⟨5, 7, true, 80⟩ none).run (closeMachine ⟨5, 7, true, 80⟩ none).init
        [.arrive [1, 2], .report .recv epollIn, .handle .recv epollIn ⟨0, ""⟩,
          .recv (.data ⟨[1, 2], by decide⟩)] = some s₁ ∧
      (closeMachine ⟨5, 7, true, 80⟩ none).step s₁ .frame = some s₂ ∧
      (closeMachine ⟨5, 7, true, 80⟩ none).run s₂ [.close, .report .send epollRdhup] = some s₃ ∧
      (closeMachine ⟨5, 7, true, 80⟩ none).step s₃ (.handle .send epollRdhup ⟨0, ""⟩) = some s₄ ∧
      s₁.connection.proto = none ∧ s₃.rcvQueue = [] ∧ s₃.inHand = [] ∧ s₄.arrived = [1, 2] ∧
      s₄.noticed = true ∧ s₄.IsClosed :=
    ⟨_, _, _, _, rfl, rfl, rfl, rfl, rfl, rfl, rfl, rfl, rfl, Or.inr rfl⟩
  have h₁ : (closeMachine ⟨5, 7, true, 80⟩ none).Reaches CloseSafe s₁ := by
    refine Machine.Reaches.init.run ?_ hread
    intro a ha t
    simp only [List.mem_cons, List.not_mem_nil, or_false] at ha
    rcases ha with rfl | rfl | rfl | rfl
    · trivial
    · trivial
    · exact fun hhangup => absurd hhangup (by decide)
    · trivial
  have h₂ : (closeMachine ⟨5, 7, true, 80⟩ none).Reaches CloseSafe s₂ := by
    refine h₁.step ?_ hframe
    intro chunk r _ htake
    rw [hproto] at htake
    cases htake
    rfl
  have h₃ : (closeMachine ⟨5, 7, true, 80⟩ none).Reaches CloseSafe s₃ := by
    refine h₂.run ?_ hclose
    intro a ha t
    simp only [List.mem_cons, List.not_mem_nil, or_false] at ha
    rcases ha with rfl | rfl <;> trivial
  have h₄ : (closeMachine ⟨5, 7, true, 80⟩ none).Reaches CloseSafe s₄ := by
    refine h₃.step ?_ hhandle
    exact fun _ => ⟨hqueue, hhand⟩
  exact ⟨s₄, h₄, harrived, hnoticed, hclosed,
    (nothing_lost_of_closeSafe ⟨5, 7, true, 80⟩ none s₄ h₄).1⟩

/-- Two bytes and the peer's close arrive before the next `epoll_wait`. The receive poller is told
`EPOLLIN | EPOLLRDHUP`, or the send poller `EPOLLRDHUP`, and the connection is closed with both bytes
unread. -/
theorem unread_bytes_lost_at_hangup :
    (∃ s : CloseState, (closeMachine ⟨5, 7, true, 80⟩ none).Reachable s ∧
      s.arrived = [1, 2] ∧ s.framed = [] ∧ s.closeEvents ≠ [] ∧ ¬ s.NothingLost none) ∧
    ∃ s : CloseState, (closeMachine ⟨5, 7, true, 80⟩ none).Reachable s ∧
      s.arrived = [1, 2] ∧ s.framed = [] ∧ s.closeEvents ≠ [] ∧ ¬ s.NothingLost none := by
  have hlost : ∀ s : CloseState, s.arrived = [1, 2] → s.framed = [] → s.closeEvents ≠ [] →
      s.noticed = true → ¬ s.NothingLost none := by
    intro s harrived hframed hevents hnoticed hlost
    have hall := (hlost hnoticed (Or.inl hevents)).1
    rw [framedBytes, hframed, harrived] at hall
    cases hall
  constructor
  · obtain ⟨s, hrun, harrived, hframed, hevents, hnoticed⟩ : ∃ s : CloseState,
        (closeMachine ⟨5, 7, true, 80⟩ none).run (closeMachine ⟨5, 7, true, 80⟩ none).init
          [.arrive [1, 2], .close, .report .recv (epollIn ||| epollRdhup),
            .handle .recv (epollIn ||| epollRdhup) ⟨0, ""⟩] = some s ∧
        s.arrived = [1, 2] ∧ s.framed = [] ∧ s.closeEvents ≠ [] ∧ s.noticed = true :=
      ⟨_, rfl, rfl, rfl, by decide, rfl⟩
    exact ⟨s, Machine.reachable_of_run hrun, harrived, hframed, hevents,
      hlost s harrived hframed hevents hnoticed⟩
  · obtain ⟨s, hrun, harrived, hframed, hevents, hnoticed⟩ : ∃ s : CloseState,
        (closeMachine ⟨5, 7, true, 80⟩ none).run (closeMachine ⟨5, 7, true, 80⟩ none).init
          [.arrive [1, 2], .close, .report .send epollRdhup,
            .handle .send epollRdhup ⟨0, ""⟩] = some s ∧
        s.arrived = [1, 2] ∧ s.framed = [] ∧ s.closeEvents ≠ [] ∧ s.noticed = true :=
      ⟨_, rfl, rfl, rfl, by decide, rfl⟩
    exact ⟨s, Machine.reachable_of_run hrun, harrived, hframed, hevents,
      hlost s harrived hframed hevents hnoticed⟩

end RaptorLite
