import RaptorLite.Foundations.Machine
import RaptorLite.Linux.Connection

/-! # The send path

What the application queues on a connection and what the kernel takes from it: `SendMsg` as it is reached
through `Container::SendMsg` (`surface/container.cc`) and `Endpoint::SendMsg` (`surface/endpoint.cc`), and
the send events that run `Connection::OnSend` (`linux/connection.cc`). Both sides hold `_snd_mutex`, so a
call is one step. Two logs are kept next to the connection: the slices for which `SendMsg` returned true,
and the bytes that `send` took.

The interfaces of the application drop empty slices. This is what keeps the loop of `OnSend` going: every
slice in the buffer has a byte, so every `send` asks for one and every successful one takes one.

`OnSend` keeps what `send` returns in an `int`. That the count survives this is a bound on the kernel, which
transfers at most `0x7ffff000` bytes in one call, or on the slices that are queued. -/

namespace RaptorLite

open Connection

/-! ### The interfaces of the application -/

/-- The interface a message is sent through. -/
inductive SendApi where
  /-- `ContainerAdaptor::SendMsg`. -/
  | container
  /-- `Endpoint::SendMsg`, with a slice or with a pointer and a length. -/
  | endpoint
  deriving DecidableEq, Repr

/-- What the interface returns for an empty slice, which it does not pass on. -/
def SendApi.onEmpty : SendApi → Bool
  | .container => true
  | .endpoint => false

/-- `SendMsg` of the interface on the connection it addresses. -/
def SendApi.sendMsg (api : SendApi) (ep : EndpointImpl) (c : Connection) (s : Slice) :
    Bool × Connection × List PollCall :=
  if s.size = 0 then (api.onEmpty, c, []) else c.sendMsg ep s

/-! ### The calls of `send` -/

/-- The length of the front slice, which is what `OnSend` asks `send` to take. -/
def sendLength (snd : SliceBuffer) : Nat := (snd.vs.head?.map Slice.size).getD 0

/-- The buffer with which the loop of `OnSend` goes on behind a `send` that took `n` bytes, if it does. -/
def goesOn (snd : SliceBuffer) (n : Nat) : Option SliceBuffer :=
  let slen := slenOf n
  if 0 < slen then
    let snd' := (snd.moveHeader slen.toNatClampNeg).2
    if snd'.vs = [] then none else some snd'
  else none

/-- The lengths given to `send` in the loop of `OnSend`, up to the call for which no outcome is left. -/
def sendLengthsLoop : SliceBuffer → List SendResult → List Nat
  | snd, .sent n _ :: rest =>
      sendLength snd :: match goesOn snd n with
        | none => []
        | some snd' => sendLengthsLoop snd' rest
  | snd, _ => [sendLength snd]

/-- The lengths given to `send` in a call of `OnSend`. -/
def sendLengths (snd : SliceBuffer) (script : List SendResult) : List Nat :=
  if snd.vs = [] then [] else sendLengthsLoop snd script

/-- The most bytes that Linux transfers in one call. -/
def maxTransfer : Nat := 0x7ffff000

/-- The kernel keeps to that bound. -/
def Connection.SendResult.InBound : SendResult → Prop
  | .sent n _ => n ≤ maxTransfer
  | _ => True

/-- How the kernel answers: the outcome of call number `i` on `len` bytes. -/
abbrev SendKernel := Nat → Nat → SendResult

/-- A successful `send` takes at least one byte and at most those it was given, and no more than the kernel
transfers in one call. -/
def SendKernel.Valid (kernel : SendKernel) : Prop :=
  ∀ i len n errnoRetries, kernel i len = .sent n errnoRetries → 0 < n ∧ n ≤ len ∧ n ≤ maxTransfer

/-- The outcomes of the loop of `OnSend` from call number `i` on, for at most so many calls. -/
def SendKernel.script (kernel : SendKernel) : Nat → Nat → SliceBuffer → List SendResult
  | 0, _, _ => []
  | calls + 1, i, snd =>
      match kernel i (sendLength snd) with
      | .sent n errnoRetries =>
          .sent n errnoRetries :: match goesOn snd n with
            | none => []
            | some snd' => kernel.script calls (i + 1) snd'
      | outcome => [outcome]

/-! ### The machine -/

/-- A connection and the two logs. -/
structure SendState where
  /-- The endpoint. -/
  endpoint : EndpointImpl
  /-- The connection. -/
  connection : Connection
  /-- The slices for which `SendMsg` returned true, in order. -/
  queued : List Slice
  /-- The bytes that the kernel took, in order. -/
  accepted : List UInt8

/-- The steps. -/
inductive SendAction where
  /-- A message is sent through an interface of the application. -/
  | sendMsg (api : SendApi) (s : Slice)
  /-- A send event, with the outcomes of the calls of `send`. -/
  | sendEvent (script : List SendResult)

/-- One step. -/
def SendState.exec (s : SendState) : SendAction → Option SendState
  | .sendMsg api slice =>
      let r := api.sendMsg s.endpoint s.connection slice
      some { s with
        connection := r.2.1
        queued := if r.1 then s.queued ++ [slice] else s.queued }
  | .sendEvent script =>
      (s.connection.doSendEvent s.endpoint script).map fun r =>
        { s with connection := r.connection, accepted := s.accepted ++ r.sent }

/-- The outcomes of `send` in a step are within the bound of the kernel. -/
def SendAction.InBound : SendAction → Prop
  | .sendMsg _ _ => True
  | .sendEvent script => ∀ outcome ∈ script, outcome.InBound

/-- A connection just attached to the endpoint. -/
def sendMachine (endpoint : EndpointImpl) (handleId : UInt32) (proto : Option ProtocolHandler) :
    Machine SendState SendAction where
  init :=
    { endpoint := endpoint, connection := Connection.make 0 handleId proto, queued := [],
      accepted := [] }
  step := SendState.exec

/-! ### The lengths that are asked for -/

/-- What `send` is asked to take is there. -/
theorem sendLength_le (snd : SliceBuffer) : sendLength snd ≤ snd.length := by
  unfold sendLength
  cases hvs : snd.vs with
  | nil => exact Nat.zero_le _
  | cons s rest =>
      rw [snd.length_eq, hvs]
      simp

/-- A send from a buffer without empty slices is of at least one byte. -/
theorem SliceBuffer.NoEmpty.sendLength_pos {snd : SliceBuffer} (h : snd.NoEmpty) (hvs : snd.vs ≠ []) :
    0 < sendLength snd := by
  unfold sendLength
  cases hcons : snd.vs with
  | nil => exact absurd hcons hvs
  | cons s rest => exact h s (by rw [hcons]; exact List.mem_cons_self)

/-! ### Counts as `int` values -/

section Counts

variable {snd : SliceBuffer} {n : Nat} {errnoRetries : Bool} {rest : List SendResult}

/-- A count below `2 ^ 31` comes out as it is. -/
theorem toNatClampNeg_slenOf (hn : n < 2 ^ 31) : (slenOf n).toNatClampNeg = n := Int32.toNatClampNeg_ofNat_of_lt hn

/-- The first count that does not. -/
example : slenOf (2 ^ 31) < 0 := by decide

/-- A count below `2 ^ 31` stays positive. -/
theorem slenOf_pos (hpos : 0 < n) (hn : n < 2 ^ 31) : 0 < slenOf n := by
  rw [Int32.lt_iff_toInt_lt, slenOf, Int32.toInt_ofNat_of_lt hn, Int32.toInt_zero]
  omega

/-- The loop goes on behind the bytes that were taken, as long as some are left. -/
theorem goesOn_eq (hpos : 0 < n) (hn : n < 2 ^ 31) :
    goesOn snd n = if (snd.moveHeader n).2.vs = [] then none else some (snd.moveHeader n).2 := by
  rw [goesOn]
  dsimp only
  rw [if_pos (slenOf_pos hpos hn), toNatClampNeg_slenOf hn]

/-- What the loop did with a `send` that took bytes: some of the front slice. -/
theorem onSendLoop_sent_isSome {r : OnSendResult} (h : onSendLoop snd (.sent n errnoRetries :: rest) = some r) :
    ∃ slice vs, snd.vs = slice :: vs ∧ 0 < n ∧ n ≤ slice.size := by
  rw [onSendLoop] at h
  split at h
  · cases h
  · next slice vs hvs => exact ⟨slice, vs, hvs, (Option.ite_none_right_eq_some.mp h).1⟩

/-- The loop behind a `send` whose count is an `int`. -/
theorem onSendLoop_sent {slice : Slice} {vs : List Slice} (hvs : snd.vs = slice :: vs) (hpos : 0 < n)
    (hle : n ≤ slice.size) (hn : n < 2 ^ 31) :
    onSendLoop snd (.sent n errnoRetries :: rest) =
      if (snd.moveHeader n).2.vs = [] then some ⟨0, slice.toBytes.take n, (snd.moveHeader n).2, rest⟩
      else (onSendLoop (snd.moveHeader n).2 rest).map fun r => { r with sent := slice.toBytes.take n ++ r.sent } := by
  have hslen := slenOf_pos hpos hn
  have hne : slenOf n ≠ 0 := fun heq => Int32.lt_irrefl (heq ▸ hslen)
  have hnot : ¬ slenOf n < 0 := Int32.not_lt.mpr (Int32.le_of_lt hslen)
  rw [onSendLoop, hvs]
  dsimp only
  rw [if_pos ⟨hpos, hle⟩, if_neg hne, if_neg hnot, toNatClampNeg_slenOf hn]
  by_cases hmore : (snd.moveHeader n).2.vs = []
  · rw [if_pos hmore, if_neg (by rw [hmore]; exact Nat.lt_irrefl 0)]
  · rw [if_neg hmore, if_pos (List.length_pos_iff.mpr hmore)]

/-- No slice has `2 ^ 31` bytes. -/
def SliceBuffer.Short (b : SliceBuffer) : Prop := ∀ s ∈ b.vs, s.size < 2 ^ 31

/-- An empty buffer has no long slice. -/
theorem SliceBuffer.short_empty : SliceBuffer.empty.Short := by
  intro s hs
  cases hs

/-- A short slice is added. -/
theorem SliceBuffer.Short.addSlice {b : SliceBuffer} (h : b.Short) {s : Slice} (hs : s.size < 2 ^ 31) :
    (b.addSlice s).Short := by
  intro t ht
  rcases List.mem_append.mp ht with ht | ht
  · exact h t ht
  · rw [List.mem_singleton.mp ht]
    exact hs

/-- Slices do not get longer. -/
theorem SliceBuffer.Short.moveHeader {b : SliceBuffer} (h : b.Short) (len : Nat) : (b.moveHeader len).2.Short := by
  intro s hs
  rcases mem_moveHeader hs with hs | ⟨t, ht, -, hle⟩
  · exact h s hs
  · exact Nat.lt_of_le_of_lt hle (h t ht)

/-- The counts are `int` values: by the bound of the kernel, or because no slice is longer. -/
def CountsFit (snd : SliceBuffer) (script : List SendResult) : Prop :=
  (∀ outcome ∈ script, outcome.InBound) ∨ snd.Short

/-- A count that fits. -/
theorem CountsFit.lt (h : CountsFit snd (.sent n errnoRetries :: rest)) {slice : Slice} {vs : List Slice}
    (hvs : snd.vs = slice :: vs) (hle : n ≤ slice.size) : n < 2 ^ 31 := by
  rcases h with hbound | hshort
  · have hn : n ≤ maxTransfer := hbound _ List.mem_cons_self
    exact Nat.lt_of_le_of_lt hn (by decide)
  · exact Nat.lt_of_le_of_lt hle (hshort slice (by rw [hvs]; exact List.mem_cons_self))

/-- The counts behind a `send`. -/
theorem CountsFit.next (h : CountsFit snd (.sent n errnoRetries :: rest)) (len : Nat) :
    CountsFit (snd.moveHeader len).2 rest :=
  h.imp (fun hbound outcome houtcome => hbound outcome (List.mem_cons_of_mem _ houtcome))
    fun hshort => hshort.moveHeader len

end Counts

/-! ### The loop of `OnSend` -/

/-- A `send` that took `n` bytes of the front slice took the first `n` bytes of the buffer. -/
theorem take_append_moveHeader {snd : SliceBuffer} {slice : Slice} {rest : List Slice} {n : Nat}
    (hvs : snd.vs = slice :: rest) (hn : n ≤ slice.size) :
    slice.toBytes.take n ++ (snd.moveHeader n).2.toBytes = snd.toBytes := by
  have hlen : n ≤ snd.length := by
    refine Nat.le_trans hn ?_
    have hle := sendLength_le snd
    rw [sendLength, hvs] at hle
    exact hle
  have htake : slice.toBytes.take n = snd.toBytes.take n := by
    rw [SliceBuffer.toBytes, hvs, bytesOf_cons, List.take_append_of_le_length]
    rw [Slice.length_toBytes]
    exact hn
  rw [htake, SliceBuffer.toBytes_moveHeader hlen, List.take_append_drop]

/-- What the kernel took, followed by what is left, is what was there. -/
theorem onSendLoop_spec {script : List SendResult} {snd : SliceBuffer} {r : OnSendResult}
    (hsnd : snd.NoEmpty) (hfit : CountsFit snd script) (h : onSendLoop snd script = some r) :
    r.sent ++ r.snd.toBytes = snd.toBytes ∧ r.snd.NoEmpty := by
  induction script generalizing snd r with
  | nil => cases h
  | cons outcome rest ih =>
      cases outcome with
      | zero =>
          cases h
          exact ⟨rfl, hsnd⟩
      | retry =>
          cases h
          exact ⟨rfl, hsnd⟩
      | error =>
          cases h
          exact ⟨rfl, hsnd⟩
      | sent n errnoRetries =>
          -- the kernel took bytes of the front slice, and the loop goes on behind them
          obtain ⟨slice, vs, hvs, hpos, hle⟩ := onSendLoop_sent_isSome h
          rw [onSendLoop_sent hvs hpos hle (hfit.lt hvs hle)] at h
          have hmoved := take_append_moveHeader hvs hle
          by_cases hmore : (snd.moveHeader n).2.vs = []
          · rw [if_pos hmore] at h
            cases h
            exact ⟨hmoved, hsnd.moveHeader n⟩
          · rw [if_neg hmore] at h
            obtain ⟨r', hr', rfl⟩ := Option.map_eq_some_iff.mp h
            obtain ⟨hbytes, hempty⟩ := ih (hsnd.moveHeader n) (hfit.next n) hr'
            refine ⟨?_, hempty⟩
            rw [List.append_assoc, hbytes, hmoved]

/-- What a call of `OnSend` took, followed by what it left, is what was there. -/
theorem onSend_spec {script : List SendResult} {snd : SliceBuffer} {r : OnSendResult}
    (hsnd : snd.NoEmpty) (hfit : CountsFit snd script) (h : onSend snd script = some r) :
    r.sent ++ r.snd.toBytes = snd.toBytes ∧ r.snd.NoEmpty := by
  rw [onSend] at h
  split at h
  · cases h
    exact ⟨rfl, hsnd⟩
  · exact onSendLoop_spec hsnd hfit h

/-- What a call of `OnSend` leaves has no long slice. -/
theorem short_onSend {script : List SendResult} {snd : SliceBuffer} {r : OnSendResult} (hsnd : snd.Short)
    (h : onSend snd script = some r) : r.snd.Short := by
  have hloop : ∀ (script : List SendResult) (snd : SliceBuffer) (r : OnSendResult), snd.Short →
      onSendLoop snd script = some r → r.snd.Short := by
    intro script
    induction script with
    | nil =>
        intro snd r hsnd h
        cases h
    | cons outcome rest ih =>
        intro snd r hsnd h
        cases outcome with
        | zero | retry | error =>
            cases h
            exact hsnd
        | sent n errnoRetries =>
            obtain ⟨slice, vs, hvs, hpos, hle⟩ := onSendLoop_sent_isSome h
            have hfit : CountsFit snd (.sent n errnoRetries :: rest) := Or.inr hsnd
            rw [onSendLoop_sent hvs hpos hle (hfit.lt hvs hle)] at h
            by_cases hmore : (snd.moveHeader n).2.vs = []
            · rw [if_pos hmore] at h
              cases h
              exact hsnd.moveHeader n
            · rw [if_neg hmore] at h
              obtain ⟨r', hr', rfl⟩ := Option.map_eq_some_iff.mp h
              exact ih _ r' (hsnd.moveHeader n) hr'
  rw [onSend] at h
  split at h
  · cases h
    exact hsnd
  · exact hloop script snd r hsnd h

/-- No `send` is asked to take nothing. -/
theorem sendLengths_pos {snd : SliceBuffer} (hsnd : snd.NoEmpty) (script : List SendResult) :
    ∀ n ∈ sendLengths snd script, 0 < n := by
  have hloop : ∀ (script : List SendResult) (snd : SliceBuffer), snd.NoEmpty → snd.vs ≠ [] →
      ∀ n ∈ sendLengthsLoop snd script, 0 < n := by
    intro script
    induction script with
    | nil =>
        intro snd hsnd hvs n hn
        rw [sendLengthsLoop, List.mem_singleton] at hn
        rw [hn]
        exact hsnd.sendLength_pos hvs
        nofun
    | cons outcome rest ih =>
        intro snd hsnd hvs n hn
        have hfront := hsnd.sendLength_pos hvs
        cases outcome with
        | sent k errnoRetries =>
            rw [sendLengthsLoop] at hn
            rcases List.mem_cons.mp hn with rfl | hn
            · exact hfront
            · cases hgo : goesOn snd k with
              | none =>
                  rw [hgo] at hn
                  cases hn
              | some snd' =>
                  rw [hgo] at hn
                  -- the loop goes on with what is left of the buffer
                  unfold goesOn at hgo
                  obtain ⟨-, hgo⟩ := Option.ite_none_right_eq_some.mp hgo
                  obtain ⟨hmore, hsnd'⟩ := Option.ite_none_left_eq_some.mp hgo
                  obtain rfl := Option.some.inj hsnd'
                  exact ih _ (hsnd.moveHeader _) hmore n hn
        | zero | retry | error =>
            rw [sendLengthsLoop, List.mem_singleton] at hn
            · rw [hn]
              exact hfront
            · nofun
  unfold sendLengths
  split
  · intro n hn
    cases hn
  · next hvs => exact hloop script snd hsnd hvs

/-- **The loop of `OnSend` ends**, whatever the kernel answers, after at most as many calls as there are
bytes: a call that does not end it takes one at least. -/
theorem onSendLoop_ends {kernel : SendKernel} (hkernel : kernel.Valid) {calls : Nat} (i : Nat)
    {snd : SliceBuffer} (hsnd : snd.NoEmpty) (hvs : snd.vs ≠ []) (hcalls : snd.length ≤ calls) :
    ∃ r, onSendLoop snd (kernel.script calls i snd) = some r ∧ r.rest = [] := by
  induction calls generalizing i snd with
  -- no call is left for a buffer that still holds a byte
  | zero => exact absurd (hsnd.length_eq_zero_iff.mpr (Nat.le_zero.mp hcalls)) hvs
  | succ calls ih =>
      rw [SendKernel.script]
      cases hout : kernel i (sendLength snd) with
      | zero => exact ⟨_, rfl, rfl⟩
      | retry => exact ⟨_, rfl, rfl⟩
      | error => exact ⟨_, rfl, rfl⟩
      | sent n errnoRetries =>
          obtain ⟨hpos, hn, hbound⟩ := hkernel i _ n errnoRetries hout
          have hint : n < 2 ^ 31 := Nat.lt_of_le_of_lt hbound (by decide)
          have hlen := sendLength_le snd
          cases hcons : snd.vs with
          | nil => exact absurd hcons hvs
          | cons slice rest =>
              have hsize : sendLength snd = slice.size := by rw [sendLength, hcons]; rfl
              rw [hsize] at hn
              dsimp only
              rw [onSendLoop_sent hcons hpos hn hint, goesOn_eq hpos hint]
              by_cases hmore : (snd.moveHeader n).2.vs = []
              · rw [if_pos hmore, if_pos hmore]
                exact ⟨_, rfl, rfl⟩
              -- a call that took bytes leaves fewer of them than calls
              · have hshort : (snd.moveHeader n).2.length ≤ calls := by
                  rw [SliceBuffer.length_moveHeader (by omega)]
                  omega
                obtain ⟨r, hr, hrest⟩ := ih (i + 1) (hsnd.moveHeader n) hmore hshort
                rw [if_neg hmore, if_neg hmore, hr]
                exact ⟨_, rfl, hrest⟩

/-- The outcomes are within the bound of the kernel. -/
theorem SendKernel.Valid.inBound_script {kernel : SendKernel} (hkernel : kernel.Valid) (calls i : Nat)
    (snd : SliceBuffer) : ∀ outcome ∈ kernel.script calls i snd, outcome.InBound := by
  induction calls generalizing i snd with
  | zero =>
      intro outcome houtcome
      cases houtcome
  | succ calls ih =>
      intro outcome houtcome
      rw [SendKernel.script] at houtcome
      cases hout : kernel i (sendLength snd) with
      | zero | retry | error =>
          rw [hout] at houtcome
          rw [List.mem_singleton.mp houtcome]
          trivial
      | sent n errnoRetries =>
          rw [hout] at houtcome
          rcases List.mem_cons.mp houtcome with rfl | houtcome
          · exact (hkernel i _ n errnoRetries hout).2.2
          · cases hgo : goesOn snd n with
            | none =>
                rw [hgo] at houtcome
                cases houtcome
            | some snd' =>
                rw [hgo] at houtcome
                exact ih (i + 1) snd' outcome houtcome

/-- `DoSendEvent` returns, whatever the kernel answers. -/
theorem doSendEvent_returns {kernel : SendKernel} (hkernel : kernel.Valid) (ep : EndpointImpl)
    {c : Connection} (hsnd : c.sndBuffer.NoEmpty) :
    ∃ r, c.doSendEvent ep (kernel.script c.sndBuffer.length 0 c.sndBuffer) = some r ∧ r.rest = [] := by
  by_cases hvs : c.sndBuffer.vs = []
  · rw [hsnd.length_eq_zero_iff.mp hvs, doSendEvent, onSend, if_pos hvs]
    exact ⟨_, rfl, rfl⟩
  · obtain ⟨r, hr, hrest⟩ := onSendLoop_ends hkernel 0 hsnd hvs (Nat.le_refl _)
    rw [doSendEvent, onSend, if_neg hvs, hr]
    exact ⟨_, rfl, hrest⟩

/-! ### Runs -/

/-- What holds along every run: nothing is lost, added or reordered between the application and the
kernel, and no empty slice gets in. -/
structure SendInv (s : SendState) : Prop where
  /-- What the kernel took and what is buffered is what was queued. -/
  bytes : s.accepted ++ s.connection.sndBuffer.toBytes = bytesOf s.queued
  /-- The buffer has no empty slice. -/
  noEmpty : s.connection.sndBuffer.NoEmpty

/-- A message that is queued, or refused. -/
theorem SendInv.sendMsg {s : SendState} (h : SendInv s) (api : SendApi) (slice : Slice) :
    SendInv { s with
      connection := (api.sendMsg s.endpoint s.connection slice).2.1
      queued := if (api.sendMsg s.endpoint s.connection slice).1 then s.queued ++ [slice]
        else s.queued } := by
  by_cases hempty : slice.size = 0
  · -- an empty slice adds nothing, whatever is returned for it
    have hnil : slice.toBytes = [] := List.length_eq_zero_iff.mp (by rw [Slice.length_toBytes, hempty])
    simp only [SendApi.sendMsg, if_pos hempty]
    refine ⟨?_, h.noEmpty⟩
    dsimp only
    split
    · rw [bytesOf_append, bytesOf_cons, hnil, bytesOf_nil, List.append_nil, List.append_nil]
      exact h.bytes
    · exact h.bytes
  · simp only [SendApi.sendMsg, if_neg hempty, Connection.sendMsg]
    cases s.endpoint.isOnline with
    | false => exact ⟨h.bytes, h.noEmpty⟩
    | true =>
        refine ⟨?_, h.noEmpty.addSlice (by omega)⟩
        show s.accepted ++ (s.connection.sndBuffer.addSlice slice).toBytes
          = bytesOf (s.queued ++ [slice])
        rw [SliceBuffer.toBytes_addSlice, ← List.append_assoc, h.bytes, bytesOf_append, bytesOf_cons,
          bytesOf_nil, List.append_nil]

/-- **One step** keeps the invariant. -/
theorem SendInv.exec {s s' : SendState} {a : SendAction} (h : SendInv s) (hbound : a.InBound)
    (hstep : s.exec a = some s') : SendInv s' := by
  cases a with
  | sendMsg api slice =>
      cases hstep
      exact h.sendMsg api slice
  | sendEvent script =>
      obtain ⟨r, hr, rfl⟩ := Option.map_eq_some_iff.mp hstep
      -- what `OnSend` took moves from the buffer to the log
      obtain ⟨r', hr', rfl⟩ := Option.map_eq_some_iff.mp hr
      obtain ⟨hbytes, hempty⟩ := onSend_spec h.noEmpty (Or.inl hbound) hr'
      refine ⟨?_, hempty⟩
      show s.accepted ++ r'.sent ++ r'.snd.toBytes = bytesOf s.queued
      rw [List.append_assoc, hbytes]
      exact h.bytes

/-- **The send path transmits exactly what was queued.** In every run of a connection made of messages
sent through the interfaces of the application and of send events, with any outcomes of `send` that a kernel
may have which transfers at most `maxTransfer` bytes in one call: the bytes that the kernel took, followed by
those in `_snd_buffer`, are the bytes of the slices for which `SendMsg` returned true, in order; no slice in
`_snd_buffer` is empty, `send` is never asked to take nothing, and the buffer is `Empty()` exactly when its
length is zero; and the loop of `OnSend` ends, whatever the kernel answers. -/
theorem sendPath_transmits_queued (endpoint : EndpointImpl) (handleId : UInt32)
    (proto : Option ProtocolHandler) (s : SendState)
    (hs : (sendMachine endpoint handleId proto).Reaches (fun _ a => a.InBound) s) :
    s.accepted ++ s.connection.sndBuffer.toBytes = bytesOf s.queued ∧
    ((∀ slice ∈ s.connection.sndBuffer.vs, 0 < slice.size) ∧
      (∀ script, ∀ n ∈ sendLengths s.connection.sndBuffer script, 0 < n) ∧
      (s.connection.sndBuffer.vs = [] ↔ s.connection.sndBuffer.length = 0)) ∧
    ∀ kernel : SendKernel, kernel.Valid → ∃ script r,
      script = kernel.script s.connection.sndBuffer.length 0 s.connection.sndBuffer ∧
      s.connection.doSendEvent s.endpoint script = some r ∧ r.rest = [] := by
  have h : SendInv s := hs.invariant SendInv ⟨rfl, SliceBuffer.noEmpty_empty⟩
    fun _ _ _ _ hbound h hstep => h.exec hbound hstep
  refine ⟨h.bytes, ⟨h.noEmpty, sendLengths_pos h.noEmpty, h.noEmpty.length_eq_zero_iff⟩, ?_⟩
  intro kernel hkernel
  obtain ⟨r, hr, hrest⟩ := doSendEvent_returns hkernel s.endpoint h.noEmpty
  exact ⟨_, r, rfl, hr, hrest⟩

/-- Two messages and an empty one are sent; the kernel takes a part of the first and asks to be tried
again. -/
theorem sendPath_transmits_queued_partial_send :
    ∃ s : SendState, (sendMachine ⟨5, 7, true, 80⟩ 0 none).run
        (sendMachine ⟨5, 7, true, 80⟩ 0 none).init
        [.sendMsg .container (Slice.ofBytes [1, 2, 3]), .sendMsg .endpoint Slice.empty,
          .sendMsg .endpoint (Slice.ofBytes [4]), .sendEvent [.sent 2, .retry]] = some s ∧
      s.accepted = [1, 2] ∧
      s.accepted ++ s.connection.sndBuffer.toBytes = bytesOf s.queued := by
  obtain ⟨s, hrun, haccepted⟩ : ∃ s : SendState, (sendMachine ⟨5, 7, true, 80⟩ 0 none).run
        (sendMachine ⟨5, 7, true, 80⟩ 0 none).init
        [.sendMsg .container (Slice.ofBytes [1, 2, 3]), .sendMsg .endpoint Slice.empty,
          .sendMsg .endpoint (Slice.ofBytes [4]), .sendEvent [.sent 2, .retry]] = some s ∧
      s.accepted = [1, 2] := ⟨_, rfl, rfl⟩
  refine ⟨s, hrun, haccepted, (sendPath_transmits_queued ⟨5, 7, true, 80⟩ 0 none s ?_).1⟩
  refine Machine.Reaches.init.run ?_ hrun
  intro a ha _
  simp only [List.mem_cons, List.not_mem_nil, or_false] at ha
  rcases ha with rfl | rfl | rfl | rfl
  · trivial
  · trivial
  · trivial
  · intro outcome houtcome
    simp only [List.mem_cons, List.not_mem_nil, or_false] at houtcome
    rcases houtcome with rfl | rfl
    · show 2 ≤ maxTransfer
      decide
    · trivial

end RaptorLite
