import RaptorLite.Windows.SendPath

/-! # Where the regions of a send are

The memory behind the `WSABUF` array of `Connection::AsyncSend` (`windows/connection.cc`). A slice that is inlined has
its bytes in the `Slice` object, and so in the array of the vector `_vs` of `_snd_buffer`; a refcounted one has them in
a block on the heap, which lives as long as a slice of the vector refers to it. `SendMsg` adds its slice to the vector
whether or not a send is under way, and `push_back` moves the elements to another array when the vector is full. The
kernel is then left with pointers into an array that was freed.

How a vector grows is left to the library, so the new capacity is a parameter. A completion may report any number of
bytes. Closing the socket cancels the send that is under way. -/

namespace RaptorLite.Windows

open Windows.Connection

/-! ### Regions -/

/-- Where a region begins. -/
inductive RegionAddress where
  /-- In the `Slice` object with this index in an array of the vector. -/
  | object (buffer index : Nat)
  /-- In a block on the heap. -/
  | block (id start : Nat)
  deriving DecidableEq, Repr

/-- A `WSABUF`, with the bytes that are to be sent. -/
structure Region where
  /-- `buf`. -/
  address : RegionAddress
  /-- What is there when the region is handed over; there are `len` of them. -/
  bytes : List UInt8
  deriving DecidableEq, Repr

/-- The region is in an object of the vector. -/
def Region.Inlined (region : Region) : Prop := ∃ buffer index, region.address = .object buffer index

/-- A connection, where the slices of its send buffer are and what the kernel was given. -/
structure RegionState where
  /-- The endpoint. -/
  endpoint : EndpointImpl
  /-- The connection. -/
  connection : Connection
  /-- The array that the elements of `_snd_buffer._vs` are in. -/
  buffer : Nat
  /-- `_snd_buffer._vs.capacity()`. -/
  capacity : Nat
  /-- The block of each slice in the vector, which the refcounted ones refer to. -/
  blocks : List Nat
  /-- The regions of each `WSASend` that is under way. -/
  outstanding : List (List Region)

namespace RegionState

/-- The elements of the vector with their blocks. -/
def elements (s : RegionState) : List (Slice × Nat) := s.connection.sndBuffer.vs.zip s.blocks

/-- `begin()` of the element with this index. -/
def begin (s : RegionState) (index : Nat) (e : Slice × Nat) : RegionAddress :=
  match e.1.data with
  | .inlined _ _ => .object s.buffer index
  | .refcounted _ _ start => .block e.2 start

/-- The regions of the first `n` elements. -/
def regions (s : RegionState) (n : Nat) : List Region :=
  (s.elements.take n).mapIdx fun index e => ⟨s.begin index e, e.1.toBytes⟩

/-- The bytes of a region are where the kernel was told. -/
def Holds (s : RegionState) (region : Region) : Prop :=
  match region.address with
  | .object buffer index =>
      buffer = s.buffer ∧ ∃ length bytes,
        (s.connection.sndBuffer.vs[index]?).map Slice.data = some (.inlined length bytes) ∧ region.bytes <+: bytes
  | .block id start =>
      ∃ e ∈ s.elements, e.2 = id ∧ ∃ length block first, e.1.data = .refcounted length block first ∧
        region.bytes <+: block.drop start

/-- All regions of the sends that are under way are in place. -/
def InPlace (s : RegionState) : Prop := ∀ regions ∈ s.outstanding, ∀ region ∈ regions, s.Holds region

/-! ### The machine -/

/-- The vector gets room for one more element, which has the block `block`. -/
def pushBack (grow : Nat → Nat) (s : RegionState) (block : Nat) : RegionState :=
  if s.connection.sndBuffer.vs.length = s.capacity then
    { s with buffer := s.buffer + 1, capacity := grow s.capacity, blocks := s.blocks ++ [block] }
  else { s with blocks := s.blocks ++ [block] }

/-- The connection behind a call, with what the call submitted. -/
def submit (s : RegionState) (r : SendOutcome) : RegionState :=
  { s with
    connection := r.connection
    outstanding := s.outstanding ++
      r.posted.toList.map fun sent => { s with connection := r.connection }.regions sent.length }

end RegionState

/-- The steps. -/
inductive RegionAction where
  /-- `SendMsg` with a slice, which has the block `block` if it is refcounted, and what its `WSASend` returns if it
  makes one. -/
  | sendMsg (slice : Slice) (block : Nat) (outcome : WsaResult)
  /-- The send number `i` of those under way completes with `size` bytes. -/
  | sendCompletion (i size : Nat) (outcome : WsaResult)
  /-- `Shutdown`. -/
  | shutdown (notify : Bool) (ev : Event)

/-- One step. -/
def RegionState.exec (grow : Nat → Nat) (s : RegionState) : RegionAction → Option RegionState
  | .sendMsg slice block outcome =>
      let r := s.connection.sendMsg s.endpoint slice outcome
      some ((if s.endpoint.isOnline then s.pushBack grow block else s).submit r)
  | .sendCompletion i size outcome =>
      (s.outstanding[i]?).map fun _ =>
        let r := s.connection.onSendEvent size s.connection.sendOverlapped.handleId outcome
        -- `MoveHeader` erases elements at the front, and those behind them move up
        let erased := s.connection.sndBuffer.vs.length - r.connection.sndBuffer.vs.length
        { s with blocks := s.blocks.drop erased, outstanding := s.outstanding.eraseIdx i }.submit r
  | .shutdown notify ev =>
      let r := s.connection.shutdown s.endpoint notify ev
      match r.closed with
      | some _ => some { s with endpoint := r.endpoint, connection := r.connection, blocks := [], outstanding := [] }
      | none => some s

/-- A connection just attached to the endpoint. -/
def regionMachine (grow : Nat → Nat) (endpoint : EndpointImpl) (handleId : UInt32) (proto : Option ProtocolHandler) :
    Machine RegionState RegionAction where
  init :=
    { endpoint := endpoint, connection := Connection.make 0 handleId proto, buffer := 0, capacity := 0, blocks := [],
      outstanding := [] }
  step := RegionState.exec grow

/-- The vector is not full when a slice is added to it, unless no region that the kernel has is in an object. -/
def StaysPut (s : RegionState) : RegionAction → Prop
  | .sendMsg _ _ _ =>
      s.endpoint.isOnline = true → s.connection.sndBuffer.vs.length = s.capacity →
        ∀ regions ∈ s.outstanding, ∀ region ∈ regions, ¬ region.Inlined
  | _ => True

/-! ### Handing over -/

/-- `MoveHeader` makes no elements. -/
theorem length_vs_moveHeader_le (b : SliceBuffer) (len : Nat) : (b.moveHeader len).2.vs.length ≤ b.vs.length := by
  have haux : ∀ (vs : List Slice) (length len : Nat),
      (SliceBuffer.moveHeaderAux vs length len).2.1.length ≤ vs.length := by
    intro vs
    induction vs with
    | nil => exact fun _ _ => Nat.le_refl 0
    | cons it rest ih =>
        intro length len
        rw [SliceBuffer.moveHeaderAux]
        split
        · exact Nat.le_refl _
        split
        · exact Nat.le_refl _
        split
        · exact Nat.le_refl _
        split
        · exact Nat.le_succ _
        · exact (ih _ _).trans (Nat.le_succ _)
  exact haux b.vs b.length len

namespace RegionState

variable {s : RegionState}

/-- The regions have the bytes of the slices. -/
theorem map_bytes_regions (h : s.blocks.length = s.connection.sndBuffer.vs.length) (n : Nat) :
    (s.regions n).map Region.bytes = (s.connection.sndBuffer.vs.take n).map Slice.toBytes := by
  have hslices : s.elements.map Prod.fst = s.connection.sndBuffer.vs := List.map_fst_zip (Nat.le_of_eq h.symm)
  rw [← hslices, ← List.map_take, List.map_map]
  apply List.ext_getElem?
  intro i
  rw [List.getElem?_map, List.getElem?_map, regions, List.getElem?_mapIdx, Option.map_map]
  rfl

/-- The bytes of a slice are where it begins. -/
theorem holds_begin {index : Nat} {e : Slice × Nat} (he : s.elements[index]? = some e) :
    s.Holds ⟨s.begin index e, e.1.toBytes⟩ := by
  obtain ⟨hslice, -⟩ := List.getElem?_zip_eq_some.mp he
  unfold Holds begin
  cases hdata : e.1.data with
  | inlined length bytes =>
      refine ⟨rfl, length, bytes, by rw [hslice, Option.map_some, hdata], ?_⟩
      show e.1.data.toBytes <+: bytes
      rw [hdata]
      exact List.take_prefix _ _
  | refcounted length block start =>
      refine ⟨e, List.mem_of_getElem? he, rfl, length, block, start, hdata, ?_⟩
      show e.1.data.toBytes <+: block.drop start
      rw [hdata]
      exact List.take_prefix _ _

/-- The regions that are handed over are in place. -/
theorem holds_regions {n : Nat} {region : Region} (h : region ∈ s.regions n) : s.Holds region := by
  obtain ⟨index, hindex, rfl⟩ := List.mem_mapIdx.mp h
  apply holds_begin
  rw [List.length_take] at hindex
  rw [List.getElem_take, List.getElem?_eq_getElem]

/-! ### What a step does -/

/-- The state behind `AddSlice`. -/
def added (grow : Nat → Nat) (s : RegionState) (slice : Slice) (block : Nat) : RegionState :=
  { s.pushBack grow block with
    connection := { s.connection with sndBuffer := s.connection.sndBuffer.addSlice slice } }

/-- The state behind `MoveHeader`, in a completion with `size` bytes. -/
def settled (s : RegionState) (size : Nat) : RegionState :=
  { s with
    connection := { s.connection with
      sendPending := false
      sndBuffer := (s.connection.sndBuffer.moveHeader size).2 }
    blocks := s.blocks.drop
      (s.connection.sndBuffer.vs.length - (s.connection.sndBuffer.moveHeader size).2.vs.length)
    outstanding := [] }

variable {grow : Nat → Nat} {slice : Slice} {block : Nat} {outcome : WsaResult}

/-- A call of `AsyncSend` submits the front of the buffer, if no send is pending, or does nothing. -/
theorem submit_asyncSend_cases (s : RegionState) (outcome : WsaResult) :
    s.submit (s.connection.asyncSend outcome) = s ∨
      s.connection.sendPending = false ∧
        ∃ n, s.submit (s.connection.asyncSend outcome) =
          { s with
            connection := { s.connection with sendPending := true }
            outstanding := s.outstanding ++ [s.regions n] } := by
  rcases asyncSend_cases s.connection outcome with ⟨-, hr⟩ | ⟨-, hpending, -, hr⟩ | ⟨-, -, -, hr⟩
  · rw [hr]
    exact .inl (by simp [submit])
  · rw [hr]
    exact .inr ⟨hpending, s.connection.regions.length, rfl⟩
  · rw [hr]
    exact .inl (by simp [submit])

/-- `SendMsg` on an online connection adds the slice and submits what `AsyncSend` makes of the buffer. -/
theorem exec_sendMsg (hon : s.endpoint.isOnline = true) : s.exec grow (.sendMsg slice block outcome) =
    some ((s.added grow slice block).submit ((s.added grow slice block).connection.asyncSend outcome)) := by
  rw [exec, if_pos hon, sendMsg, if_pos hon]
  rfl

/-- `SendMsg` on an offline connection changes nothing. -/
theorem exec_sendMsg_offline (hoff : s.endpoint.isOnline = false) :
    s.exec grow (.sendMsg slice block outcome) = some s := by
  simp [exec, hoff, sendMsg, submit]

/-- `Shutdown` empties an endpoint that is online. -/
theorem exec_shutdown {s' : RegionState} {notify : Bool} {ev : Event}
    (hstep : s.exec grow (.shutdown notify ev) = some s') :
    s' = s ∨ s'.blocks = [] ∧ s'.connection.sndBuffer = .empty ∧ s'.outstanding = [] := by
  cases hon : s.endpoint.isOnline with
  | true =>
      rw [exec, Connection.shutdown, if_pos hon] at hstep
      cases hstep
      exact .inr ⟨rfl, rfl, rfl⟩
  | false =>
      rw [exec, Connection.shutdown, if_neg (by simp [hon])] at hstep
      cases hstep
      exact .inl rfl

end RegionState

/-! ### Runs -/

/-- What holds along every run. -/
structure RegionInv (s : RegionState) : Prop where
  /-- Every element has a block. -/
  blocks : s.blocks.length = s.connection.sndBuffer.vs.length
  /-- At most one send is under way. -/
  length_le : s.outstanding.length ≤ 1
  /-- A send under way is pending. -/
  pending : s.connection.sendPending = false → s.outstanding = []

namespace RegionInv

variable {s s' : RegionState} {grow : Nat → Nat}

/-- Submitting what `AsyncSend` announces keeps the region invariant. -/
theorem submit_asyncSend (h : RegionInv s) (outcome : WsaResult) :
    RegionInv (s.submit (s.connection.asyncSend outcome)) := by
  obtain hsame | ⟨hpending, n, hposted⟩ := s.submit_asyncSend_cases outcome
  · rw [hsame]
    exact h
  · rw [hposted, h.pending hpending]
    exact ⟨h.blocks, Nat.le_refl 1, fun hfalse => nomatch hfalse⟩

/-- Adding a slice keeps the region invariant, whether or not the vector is relocated. -/
theorem added (h : RegionInv s) (slice : Slice) (block : Nat) : RegionInv (s.added grow slice block) := by
  have hlen : (s.blocks ++ [block]).length = (s.connection.sndBuffer.vs ++ [slice]).length := by
    rw [List.length_append, List.length_append, h.blocks]
    rfl
  unfold RegionState.added RegionState.pushBack
  split
  · exact ⟨hlen, h.length_le, h.pending⟩
  · exact ⟨hlen, h.length_le, h.pending⟩

/-- Settling a completed send keeps the region invariant. -/
theorem settled (h : RegionInv s) (size : Nat) : RegionInv (s.settled size) := by
  refine ⟨?_, Nat.zero_le 1, fun _ => rfl⟩
  have hle := length_vs_moveHeader_le s.connection.sndBuffer size
  simp only [RegionState.settled, List.length_drop, h.blocks]
  omega

/-- What a completion does: one without bytes only ends the send, which stays pending; any other drops the bytes and
goes on with `AsyncSend`. -/
theorem exec_sendCompletion (h : RegionInv s) {i size : Nat} {outcome : WsaResult}
    (hstep : s.exec grow (.sendCompletion i size outcome) = some s') :
    s' = { s with outstanding := [] } ∨
      s' = (s.settled size).submit ((s.settled size).connection.asyncSend outcome) := by
  obtain ⟨sent, hsent, rfl⟩ := Option.map_eq_some_iff.mp hstep
  -- the completion is that of the only send
  have hnone : s.outstanding.eraseIdx i = [] := by
    have hi := (List.getElem?_eq_some_iff.mp hsent).1
    have hlen := List.length_eraseIdx_of_lt hi
    have hle := h.length_le
    exact List.length_eq_zero_iff.mp (by omega)
  dsimp only
  rw [onSendEvent_self, hnone]
  by_cases hzero : size = 0
  · rw [if_pos hzero]
    refine .inl ?_
    simp [RegionState.submit]
  · rw [if_neg hzero, sndBuffer_asyncSend]
    exact .inr rfl

/-- **One step** keeps the invariant. -/
theorem exec {a : RegionAction} (h : RegionInv s) (hstep : s.exec grow a = some s') : RegionInv s' := by
  cases a with
  | sendMsg slice block outcome =>
      cases hon : s.endpoint.isOnline with
      | true =>
          rw [RegionState.exec_sendMsg hon] at hstep
          cases hstep
          exact (h.added slice block).submit_asyncSend outcome
      | false =>
          rw [RegionState.exec_sendMsg_offline hon] at hstep
          cases hstep
          exact h
  | sendCompletion i size outcome =>
      obtain rfl | rfl := h.exec_sendCompletion hstep
      · exact ⟨h.blocks, Nat.zero_le 1, fun _ => rfl⟩
      · exact (h.settled size).submit_asyncSend outcome
  | shutdown notify ev =>
      obtain rfl | ⟨hblocks, hbuffer, hnone⟩ := RegionState.exec_shutdown hstep
      · exact h
      · refine ⟨by rw [hblocks, hbuffer]; rfl, by rw [hnone]; exact Nat.zero_le 1, fun _ => hnone⟩

end RegionInv

/-- The invariant holds in every run. -/
theorem regionInv_of_reachable {grow : Nat → Nat} {endpoint : EndpointImpl} {handleId : UInt32}
    {proto : Option ProtocolHandler} {s : RegionState}
    (hs : (regionMachine grow endpoint handleId proto).Reachable s) : RegionInv s := by
  apply hs.invariant RegionInv
  · exact ⟨rfl, Nat.zero_le 1, fun _ => rfl⟩
  · intro s a s' _ _ h hstep
    exact h.exec hstep

/-! ### Regions that stay put -/

namespace RegionState

variable {s s' : RegionState} {grow : Nat → Nat} {slice : Slice} {block : Nat}

/-- The elements behind `AddSlice` are those before it and the new one. -/
theorem elements_added (h : RegionInv s) :
    (s.added grow slice block).elements = s.elements ++ [(slice, block)] := by
  have hzip : (s.connection.sndBuffer.vs ++ [slice]).zip (s.blocks ++ [block]) =
      s.connection.sndBuffer.vs.zip s.blocks ++ [(slice, block)] := List.zip_append h.blocks.symm
  unfold added pushBack
  split
  · exact hzip
  · exact hzip

/-- The vector moves to a new allocation exactly when it was full. -/
theorem buffer_added : (s.added grow slice block).buffer =
    if s.connection.sndBuffer.vs.length = s.capacity then s.buffer + 1 else s.buffer := by
  unfold added pushBack
  split
  · rfl
  · rfl

/-- `AddSlice` alone submits nothing. -/
theorem outstanding_added : (s.added grow slice block).outstanding = s.outstanding := by
  unfold added pushBack
  split
  · rfl
  · rfl

/-- A slice that is added leaves a region in place exactly if the vector has room for it or the region is on the
heap. -/
theorem Holds.added_iff (h : RegionInv s) {region : Region} (hholds : s.Holds region) :
    (s.added grow slice block).Holds region ↔
      (s.connection.sndBuffer.vs.length = s.capacity → ¬ region.Inlined) := by
  obtain ⟨address, bytes⟩ := region
  cases address with
  | object buffer index =>
      obtain ⟨hbuffer, length, array, hat, hbytes⟩ := hholds
      have hinlined : Region.Inlined ⟨.object buffer index, bytes⟩ := ⟨buffer, index, rfl⟩
      constructor
      · -- the array that the region is in was freed
        rintro ⟨hsame, -⟩ hfull
        rw [buffer_added, if_pos hfull, hbuffer] at hsame
        omega
      · intro hroom
        refine ⟨?_, length, array, ?_, hbytes⟩
        · rw [buffer_added, if_neg fun hfull => hroom hfull hinlined]
          exact hbuffer
        · obtain ⟨slice', hslice, hdata⟩ := Option.map_eq_some_iff.mp hat
          have hlt := (List.getElem?_eq_some_iff.mp hslice).1
          show ((s.connection.sndBuffer.vs ++ [slice])[index]?).map Slice.data = _
          rw [List.getElem?_append_left hlt]
          exact hat
  | block id start =>
      have hheap : ¬ Region.Inlined ⟨.block id start, bytes⟩ := by
        rintro ⟨buffer, index, heq⟩
        cases heq
      obtain ⟨e, he, hblock⟩ := hholds
      refine ⟨fun _ _ => hheap, fun _ => ⟨e, ?_, hblock⟩⟩
      rw [elements_added h]
      exact List.mem_append_left _ he

/-- Submitting what `AsyncSend` announces leaves the regions where the buffer has them. -/
theorem InPlace.submit_asyncSend (h : s.InPlace) (outcome : WsaResult) :
    (s.submit (s.connection.asyncSend outcome)).InPlace := by
  obtain hsame | ⟨-, n, hposted⟩ := s.submit_asyncSend_cases outcome
  · rw [hsame]
    exact h
  · rw [hposted]
    intro regions hregions region hregion
    obtain hregions | hregions := List.mem_append.mp hregions
    · exact h regions hregions region hregion
    · rw [List.mem_singleton.mp hregions] at hregion
      exact holds_regions hregion

/-- While a send is pending, no other is submitted. -/
theorem submit_asyncSend_pending (hpending : s.connection.sendPending = true) (outcome : WsaResult) :
    s.submit (s.connection.asyncSend outcome) = s := by
  obtain hsame | ⟨hidle, -⟩ := s.submit_asyncSend_cases outcome
  · exact hsame
  · rw [hpending] at hidle
    cases hidle

/-- A `SendMsg` that is made while a send is under way adds its slice, and no more. -/
theorem exec_sendMsg_outstanding (h : RegionInv s) (hon : s.endpoint.isOnline = true) (hout : s.outstanding ≠ [])
    (outcome : WsaResult) : s.exec grow (.sendMsg slice block outcome) = some (s.added grow slice block) := by
  have hpending : (s.added grow slice block).connection.sendPending = true := by
    by_contra hidle
    exact hout (h.pending (Bool.not_eq_true _ ▸ hidle))
  rw [exec_sendMsg hon, submit_asyncSend_pending hpending]

/-- **A `SendMsg`** leaves the regions in place exactly if the vector has room or none of them is in an object. -/
theorem InPlace.sendMsg_iff (hinv : RegionInv s) (h : s.InPlace) {outcome : WsaResult}
    (hstep : s.exec grow (.sendMsg slice block outcome) = some s') :
    s'.InPlace ↔ StaysPut s (.sendMsg slice block outcome) := by
  cases hon : s.endpoint.isOnline with
  | false =>
      rw [exec_sendMsg_offline hon] at hstep
      cases hstep
      simp [StaysPut, hon, h]
  | true =>
      by_cases hout : s.outstanding = []
      · rw [exec_sendMsg hon] at hstep
        cases hstep
        have hadded : (s.added grow slice block).InPlace := by
          intro regions hregions
          rw [outstanding_added, hout] at hregions
          cases hregions
        simp [StaysPut, hout, hadded.submit_asyncSend outcome]
      · rw [exec_sendMsg_outstanding hinv hon hout] at hstep
        cases hstep
        simp only [StaysPut, hon, InPlace, outstanding_added, true_implies]
        constructor
        · intro hall hfull regions hregions region hregion
          have hholds := h regions hregions region hregion
          exact (hholds.added_iff hinv).mp (hall regions hregions region hregion) hfull
        · intro hall regions hregions region hregion
          have hholds := h regions hregions region hregion
          exact (hholds.added_iff hinv).mpr fun hfull => hall hfull regions hregions region hregion

/-- With nothing submitted, every submitted region is in place. -/
theorem inPlace_of_outstanding_nil (h : s.outstanding = []) : s.InPlace := by
  intro regions hregions
  rw [h] at hregions
  cases hregions

/-- **One step** that meets the condition leaves the regions in place. -/
theorem InPlace.exec {a : RegionAction} (hinv : RegionInv s) (h : s.InPlace) (hok : StaysPut s a)
    (hstep : s.exec grow a = some s') : s'.InPlace := by
  cases a with
  | sendMsg slice block outcome => exact (h.sendMsg_iff hinv hstep).mpr hok
  | sendCompletion i size outcome =>
      obtain rfl | rfl := hinv.exec_sendCompletion hstep
      · exact inPlace_of_outstanding_nil rfl
      · have hsettled : (s.settled size).InPlace := inPlace_of_outstanding_nil rfl
        exact hsettled.submit_asyncSend outcome
  | shutdown notify ev =>
      obtain rfl | ⟨-, -, hnone⟩ := exec_shutdown hstep
      · exact h
      · exact inPlace_of_outstanding_nil hnone

end RegionState

/-- **Every run** of such steps leaves them in place. -/
theorem inPlace_of_reaches {grow : Nat → Nat} {endpoint : EndpointImpl} {handleId : UInt32}
    {proto : Option ProtocolHandler} {s : RegionState}
    (hs : (regionMachine grow endpoint handleId proto).Reaches StaysPut s) : s.InPlace := by
  apply hs.invariant RegionState.InPlace
  · exact RegionState.inPlace_of_outstanding_nil rfl
  · intro s a s' hs hok h hstep
    exact h.exec (regionInv_of_reachable hs.reachable) hok hstep

/-- **Regions handed to the kernel stay put** unless `SendMsg` finds the vector full while one of them is that of an
inlined slice. In every run of a connection at most one `WSASend` is under way, it is handed the bytes of the slices
at the front of the buffer, and no `SendMsg` changes what it was handed. In every run in which no `SendMsg` makes the
vector move under an inlined slice, all regions are where they were with the bytes that they had, and the next
`SendMsg` leaves them there exactly if it does not do so either. -/
theorem regions_stay_put (grow : Nat → Nat) (endpoint : EndpointImpl) (handleId : UInt32)
    (proto : Option ProtocolHandler) :
    (∀ s, (regionMachine grow endpoint handleId proto).Reachable s →
      s.outstanding.length ≤ 1 ∧
      (∀ n, (s.regions n).map Region.bytes = (s.connection.sndBuffer.vs.take n).map Slice.toBytes) ∧
      ∀ slice block outcome s', s.exec grow (.sendMsg slice block outcome) = some s' → s.outstanding ≠ [] →
        s'.outstanding = s.outstanding) ∧
    ∀ s, (regionMachine grow endpoint handleId proto).Reaches StaysPut s →
      s.InPlace ∧
      ∀ slice block outcome s', s.exec grow (.sendMsg slice block outcome) = some s' →
        (s'.InPlace ↔ StaysPut s (.sendMsg slice block outcome)) := by
  constructor
  · intro s hs
    have hinv := regionInv_of_reachable hs
    refine ⟨hinv.length_le, RegionState.map_bytes_regions hinv.blocks, ?_⟩
    intro slice block outcome s' hstep hout
    cases hon : s.endpoint.isOnline with
    | false =>
        rw [RegionState.exec_sendMsg_offline hon] at hstep
        cases hstep
        rfl
    | true =>
        rw [RegionState.exec_sendMsg_outstanding hinv hon hout] at hstep
        cases hstep
        exact RegionState.outstanding_added
  · intro s hs
    refine ⟨inPlace_of_reaches hs, ?_⟩
    intro slice block outcome s' hstep
    exact (inPlace_of_reaches hs).sendMsg_iff (regionInv_of_reachable hs.reachable) hstep

/-- A message of one byte, which is inlined. -/
def shortMessage (byte : UInt8) : RegionAction := .sendMsg (Slice.ofBytes [byte]) 0 .success

/-- An online connection whose vector grows by two elements. -/
def steadyMachine : Machine RegionState RegionAction := regionMachine (· + 2) ⟨5, 7, true, 80⟩ 0 none

/-- With room for a second message, the first stays where it is; a third makes the vector move. -/
theorem second_message_leaves_region :
    ∃ s s', steadyMachine.Reaches StaysPut s ∧ s.outstanding = [[⟨.object 1 0, [1]⟩]] ∧
      s.connection.sndBuffer.toBytes = [1, 2] ∧ s.InPlace ∧ steadyMachine.step s (shortMessage 3) = some s' ∧
      ¬ s'.InPlace := by
  obtain ⟨s₁, hstep₁, hroom⟩ : ∃ s₁, steadyMachine.step steadyMachine.init (shortMessage 1) = some s₁ ∧
      s₁.connection.sndBuffer.vs.length ≠ s₁.capacity := ⟨_, rfl, by decide⟩
  obtain ⟨s, hstep, hout, hbytes, hon, hfull⟩ : ∃ s, steadyMachine.step s₁ (shortMessage 2) = some s ∧
      s.outstanding = [[⟨.object 1 0, [1]⟩]] ∧ s.connection.sndBuffer.toBytes = [1, 2] ∧
      s.endpoint.isOnline = true ∧ s.connection.sndBuffer.vs.length = s.capacity := by
    cases hstep₁
    exact ⟨_, rfl, rfl, rfl, rfl, rfl⟩
  have hstart : StaysPut steadyMachine.init (shortMessage 1) := fun _ _ _ hregions => nomatch hregions
  have hput : StaysPut s₁ (shortMessage 2) := fun _ hfull => absurd hfull hroom
  have hs : steadyMachine.Reaches StaysPut s := .step (.step .init hstart hstep₁) hput hstep
  obtain ⟨hplace, hnext⟩ := (regions_stay_put (· + 2) ⟨5, 7, true, 80⟩ 0 none).2 s hs
  obtain ⟨s', hstep'⟩ : ∃ s', steadyMachine.step s (shortMessage 3) = some s' := ⟨_, rfl⟩
  refine ⟨s, s', hs, hout, hbytes, hplace, hstep', ?_⟩
  rw [hnext _ _ _ _ hstep']
  intro hput
  exact hput hon hfull [⟨.object 1 0, [1]⟩] (by rw [hout]; exact List.mem_cons_self) _ List.mem_cons_self ⟨1, 0, rfl⟩

/-- With a vector that doubles its capacity, the second of two short messages moves the first while the kernel has
it. -/
theorem second_message_moves_region :
    ∃ s, (regionMachine (fun n => max 1 (2 * n)) ⟨5, 7, true, 80⟩ 0 none).run
        (regionMachine (fun n => max 1 (2 * n)) ⟨5, 7, true, 80⟩ 0 none).init
        [shortMessage 1, shortMessage 2] = some s ∧
      s.outstanding = [[⟨.object 1 0, [1]⟩]] ∧ s.buffer = 2 ∧ ¬ s.InPlace := by
  refine ⟨_, rfl, rfl, rfl, ?_⟩
  intro hplace
  obtain ⟨hbuffer, -⟩ := hplace [⟨.object 1 0, [1]⟩] List.mem_cons_self _ List.mem_cons_self
  exact absurd hbuffer (by decide)

end RaptorLite.Windows
