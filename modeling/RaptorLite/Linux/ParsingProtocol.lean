import RaptorLite.Foundations.StreamFraming
import RaptorLite.Utils.RawSliceBuffer

/-! # Receive framing

`Connection::ParsingProtocol` and `Connection::ReadSliceFromRecvBuffer` (`linux/connection.cc`; the
Windows connection has the same text): the received bytes are cut into packages by asking the protocol
handler for the length of the next one. One round of the outer loop is `parseRound`; the loop itself
carries a fuel argument, since a round that delivers an empty package makes no progress, and
`parsingProtocol` runs it with more fuel than a progressing loop can use.

The refinement (`parsingProtocol_frame`) reads the received slices as a byte string: with a handler
that always decides on a full header window, a call is one step of the abstract framer of
`StreamFraming`, whose append law makes the received stream independent of its cuts. -/

namespace RaptorLite

open StreamFraming

/-- `ProtocolHandler::OnCheckPackageLength` as a function of the bytes it is shown: negative for an
error, `0` for more data, positive for a package length. -/
abbrev ProtocolHandler := List UInt8 → Int32

/-- The answer of a handler as an integer. -/
def ProtocolHandler.answer (check : ProtocolHandler) (p : List UInt8) : Int := (check p).toInt

/-- The answer passed on is 0 exactly when the handler's is. -/
theorem ProtocolHandler.answer_eq_zero_iff (check : ProtocolHandler) (p : List UInt8) :
    check.answer p = 0 ↔ check p = 0 := by
  rw [answer, ← Int32.toInt_zero, Int32.toInt_inj]

/-- `header_size`. -/
def headerSize : Nat := 1024

/-- `Connection::ReadSliceFromRecvBuffer`: whether the tail of the buffer was reached, and the window
read. -/
def readSliceFromRecvBuffer (rcv : SliceBuffer) (readSize : Nat) : Bool × Slice :=
  if rcv.length ≤ readSize then (true, rcv.merge) else (false, rcv.getHeader readSize)

/-- The window holds the first `readSize` bytes of the buffer. -/
theorem toBytes_readSlice (rcv : SliceBuffer) (readSize : Nat) :
    (readSliceFromRecvBuffer rcv readSize).2.toBytes = rcv.toBytes.take readSize := by
  unfold readSliceFromRecvBuffer
  split
  · next h => rw [SliceBuffer.toBytes_merge, List.take_of_length_le (by simpa using h)]
  · next h => rw [SliceBuffer.toBytes_getHeader, if_neg (by omega)]

/-- The slice read from the buffer covers it exactly when the buffer is no longer than the read size. -/
theorem readSlice_fst (rcv : SliceBuffer) (readSize : Nat) :
    (readSliceFromRecvBuffer rcv readSize).1 = decide (rcv.length ≤ readSize) := by
  unfold readSliceFromRecvBuffer
  split <;> simp [*]

/-- How one round of the outer loop ends. -/
inductive ParseRound where
  /-- `return -1`. -/
  | error
  /-- `goto done`. -/
  | done
  /-- A package was passed to `OnDataReceived` and its header moved off the buffer. -/
  | deliver (package : Slice) (rcv : SliceBuffer)

/-- The part of a round behind the inner block: cut the package out, deliver it and drop it. -/
def deliverPackage (rcv : SliceBuffer) (window : Slice) (packLen : Nat) : ParseRound :=
  .deliver
    (if window.size < packLen then rcv.getHeader packLen else window.popBack (window.size - packLen))
    (rcv.moveHeader packLen).2

/-- One round of `while (cache_size > 0)`. -/
def parseRound (check : ProtocolHandler) (rcv : SliceBuffer) : ParseRound :=
  let window := readSliceFromRecvBuffer rcv headerSize
  let packLen := check.answer window.2.toBytes
  if packLen < 0 then .error
  else if packLen = 0 then
    if window.1 then .done
    -- `continue` inside `do { } while (false)` leaves the inner block with `pack_len == 0`
    else deliverPackage rcv window.2 0
  else if packLen.toNat ≤ rcv.length then deliverPackage rcv window.2 packLen.toNat
  else .done

/-- On the members of the receive buffer the calls of a round return what they return on the checked buffer: the window
is short and the length of a package is an `int`, so there are blocks for both. -/
theorem round_calls_on_members (check : ProtocolHandler) (rcv : SliceBuffer) (capacity : Nat) :
    (rcv.length ≤ headerSize → (rcv.raw capacity).merge = some rcv.merge) ∧
    (rcv.raw capacity).getHeader headerSize = some (rcv.getHeader headerSize) ∧
    ∀ p, (rcv.raw capacity).getHeader (check.answer p).toNat = some (rcv.getHeader (check.answer p).toNat) := by
  have hfits : ∀ n, n < 2 ^ 31 → Slice.BlockFits n := by
    intro n hn
    have hmax : sliceRefCountSize.toNat + 2 ^ 31 ≤ ptrdiffMax := by decide
    rw [Slice.BlockFits]
    omega
  refine ⟨fun hshort => ?_, ?_, fun p => ?_⟩
  · exact SliceBuffer.raw_merge fun _ => hfits rcv.length (Nat.lt_of_le_of_lt hshort (by decide))
  · exact SliceBuffer.raw_getHeader fun _ => hfits headerSize (by decide)
  · have hanswer : check.answer p < 2 ^ 31 := (check p).toInt_lt
    exact SliceBuffer.raw_getHeader fun _ => hfits _ (by omega)

/-- What a call of `ParsingProtocol` returns and does: the result, the packages passed to
`OnDataReceived` in order, and the receive buffer it leaves. -/
structure ParseResult where
  /-- The returned number of packages, or `-1`. -/
  code : Int
  /-- The packages delivered, in order. -/
  delivered : List Slice
  /-- `_rcv_buffer` afterwards. -/
  rcv : SliceBuffer

/-- The outer loop of `ParsingProtocol`; `none` when the fuel does not reach its end. -/
def parsingLoop (check : ProtocolHandler) : Nat → SliceBuffer → Nat → List Slice → Option ParseResult
  | 0, _, _, _ => none
  | fuel + 1, rcv, packageCounter, delivered =>
      if 0 < rcv.length then
        match parseRound check rcv with
        | .error => some ⟨-1, delivered, rcv⟩
        | .done => some ⟨packageCounter, delivered, rcv⟩
        | .deliver package rcv' =>
            parsingLoop check fuel rcv' (packageCounter + 1) (delivered ++ [package])
      else some ⟨packageCounter, delivered, rcv⟩

/-- `Connection::ParsingProtocol`: a loop in which every round shortens the buffer ends within this
fuel. -/
def parsingProtocol (check : ProtocolHandler) (rcv : SliceBuffer) : Option ParseResult :=
  parsingLoop check (rcv.length + 1) rcv 0 []

/-! ### One round, read on byte strings -/

section Round

variable {check : ProtocolHandler} {rcv : SliceBuffer}

/-- The answer a round works with is the one on the first 1024 buffered bytes. -/
theorem parseRound_eq (check : ProtocolHandler) (rcv : SliceBuffer) :
    parseRound check rcv =
      (let window := readSliceFromRecvBuffer rcv headerSize
       let packLen := check.answer (rcv.toBytes.take headerSize)
       if packLen < 0 then .error
       else if packLen = 0 then
         if rcv.length ≤ headerSize then .done else deliverPackage rcv window.2 0
       else if packLen.toNat ≤ rcv.length then deliverPackage rcv window.2 packLen.toNat
       else .done) := by
  simp only [parseRound, toBytes_readSlice, readSlice_fst, decide_eq_true_eq]

/-- A package of a length that is buffered is cut out exactly, whichever way it is built. -/
theorem deliverPackage_spec {n : Nat} (hn : n ≤ rcv.length) :
    ∃ package rcv', deliverPackage rcv (readSliceFromRecvBuffer rcv headerSize).2 n
        = .deliver package rcv' ∧ package.toBytes = rcv.toBytes.take n ∧
      rcv'.toBytes = rcv.toBytes.drop n := by
  refine ⟨_, _, rfl, ?_, SliceBuffer.toBytes_moveHeader hn⟩
  have hwindow := toBytes_readSlice rcv headerSize
  have hsize : (readSliceFromRecvBuffer rcv headerSize).2.size = min headerSize rcv.length := by
    rw [← Slice.length_toBytes, hwindow, List.length_take, SliceBuffer.length_toBytes]
  split
  · -- the window is too short: the package is read again with its own length
    rw [SliceBuffer.toBytes_getHeader, if_neg (by omega)]
  · -- the window is long enough: its surplus is popped off
    next hlong =>
    rw [Slice.toBytes_popBack, hwindow, List.take_take]
    congr 1
    omega

end Round

/-! ### Refinement of the abstract framer -/

/-- A handler that always decides on a full header window. -/
def DecidesHeader (check : ProtocolHandler) : Prop := ∀ p, headerSize ≤ p.length → check p ≠ 0

/-- A handler whose decisions do not change when it is shown more bytes. -/
def StableAnswer (check : ProtocolHandler) : Prop :=
  ∀ p q, check p ≠ 0 → check (p ++ q) = check p

/-- A handler with stable answers passes stable answers on. -/
theorem StableAnswer.stable {check : ProtocolHandler} (h : StableAnswer check) :
    Stable check.answer := by
  intro p q hp
  have hne : check p ≠ 0 := fun h0 => hp ((check.answer_eq_zero_iff p).mpr h0)
  rw [ProtocolHandler.answer, h p q hne, ProtocolHandler.answer]

/-- How a result of `ParsingProtocol` reads as a framing of a byte string. -/
structure ParseResult.Reads (r : ParseResult) (counter : Nat) (delivered : List Slice)
    (framing : List (List UInt8) × Option (List UInt8)) : Prop where
  /-- The new packages are those of the framing. -/
  packages : r.delivered.map Slice.toBytes = delivered.map Slice.toBytes ++ framing.1
  /-- `-1` is returned exactly when the framing failed. -/
  error_iff : r.code = -1 ↔ framing.2 = none
  /-- Otherwise the number of packages is returned. -/
  counted : framing.2 ≠ none → r.code = counter + framing.1.length
  /-- Otherwise the tail of the framing is left in the buffer. -/
  tail : ∀ t, framing.2 = some t → r.rcv.toBytes = t

/-- The loop ends within `length + 1` rounds and frames the buffered bytes. -/
theorem parsingLoop_frame {check : ProtocolHandler} (hdec : DecidesHeader check) (fuel : Nat)
    (rcv : SliceBuffer) (counter : Nat) (delivered : List Slice) (hfuel : rcv.length < fuel) :
    ∃ r, parsingLoop check fuel rcv counter delivered = some r ∧
      r.Reads counter delivered (frame check.answer headerSize rcv.toBytes) := by
  induction fuel generalizing rcv counter delivered with
  | zero => omega
  | succ fuel ih =>
      rw [parsingLoop]
      by_cases hpos : 0 < rcv.length
      · have hne : rcv.toBytes ≠ [] := by
          rw [← List.length_pos_iff, SliceBuffer.length_toBytes]
          exact hpos
        rw [if_pos hpos, parseRound_eq]
        by_cases hneg : check.answer (rcv.toBytes.take headerSize) < 0
        · simp only [if_pos hneg]
          refine ⟨_, rfl, ?_⟩
          rw [frame_of_neg hne hneg]
          exact ⟨by simp, by simp, by simp, by simp⟩
        · by_cases hzero : check.answer (rcv.toBytes.take headerSize) = 0
          · -- a zero answer is only possible on a window that reaches the tail
            have htail : rcv.length ≤ headerSize := by
              by_contra hlong
              refine hdec _ ?_ ((check.answer_eq_zero_iff _).mp hzero)
              rw [List.length_take, SliceBuffer.length_toBytes]
              omega
            simp only [if_neg hneg, if_pos hzero, if_pos htail]
            refine ⟨_, rfl, ?_⟩
            rw [frame_of_wait hne hneg (Or.inl hzero)]
            exact ⟨by simp, by simp, by simp, by simp⟩
          · simp only [if_neg hneg, if_neg hzero]
            by_cases hfit : (check.answer (rcv.toBytes.take headerSize)).toNat ≤ rcv.length
            · -- a package is delivered: the induction hypothesis covers the rest
              obtain ⟨package, rcv', hd, hpackage, hrcv'⟩ := deliverPackage_spec hfit
              have hlen' : rcv'.length < fuel := by
                rw [← SliceBuffer.length_toBytes, hrcv', List.length_drop,
                  SliceBuffer.length_toBytes]
                omega
              obtain ⟨r, hr, hreads⟩ := ih rcv' (counter + 1) (delivered ++ [package]) hlen'
              refine ⟨r, by simp only [if_pos hfit, hd]; exact hr, ?_⟩
              rw [frame_of_package hne (by omega) (by rw [SliceBuffer.length_toBytes]; exact hfit)]
              rw [hrcv'] at hreads
              refine ⟨?_, hreads.error_iff, ?_, hreads.tail⟩
              · rw [hreads.packages]
                simp [hpackage]
              · intro hsome
                rw [hreads.counted hsome, List.length_cons]
                push_cast
                omega
            · -- the announced package is not complete yet
              simp only [if_neg hfit]
              refine ⟨_, rfl, ?_⟩
              rw [frame_of_wait hne hneg (Or.inr (by rw [SliceBuffer.length_toBytes]; omega))]
              exact ⟨by simp, by simp, by simp, by simp⟩
      · have hnil : rcv.toBytes = [] := by
          rw [← List.length_eq_zero_iff, SliceBuffer.length_toBytes]
          omega
        rw [if_neg hpos, hnil, frame_nil]
        refine ⟨_, rfl, ?_⟩
        exact ⟨by simp, by simp, by simp, by simp [hnil]⟩

/-- **`ParsingProtocol` refines the abstract framer** on the buffered bytes. -/
theorem parsingProtocol_frame {check : ProtocolHandler} (hdec : DecidesHeader check)
    (rcv : SliceBuffer) :
    ∃ r, parsingProtocol check rcv = some r ∧
      r.Reads 0 [] (frame check.answer headerSize rcv.toBytes) :=
  parsingLoop_frame hdec _ rcv 0 [] (Nat.lt_succ_self _)

/-! ### A received stream -/

/-- What has happened after feeding chunks: the packages delivered, whether `-1` was reported, and
the receive buffer. -/
structure Received where
  /-- The packages delivered, in order. -/
  delivered : List Slice
  /-- `ParsingProtocol` returned `-1`. -/
  error : Bool
  /-- `_rcv_buffer` afterwards. -/
  rcv : SliceBuffer

/-- Each chunk goes through `AddSlice` and `ParsingProtocol`, as in `Connection::OnRecv`, until an
error is reported. -/
def receiveChunks (check : ProtocolHandler) : SliceBuffer → List (List UInt8) → Option Received
  | rcv, [] => some ⟨[], false, rcv⟩
  | rcv, c :: cs =>
      (parsingProtocol check (rcv.addSlice (Slice.ofBytes c))).bind fun r =>
        if r.code = -1 then some ⟨r.delivered, true, r.rcv⟩
        else (receiveChunks check r.rcv cs).map fun f =>
          ⟨r.delivered ++ f.delivered, f.error, f.rcv⟩

/-- Feeding chunks is feeding the abstract framer. -/
theorem receiveChunks_feed {check : ProtocolHandler} (hdec : DecidesHeader check)
    (rcv : SliceBuffer) (cs : List (List UInt8)) :
    ∃ f, receiveChunks check rcv cs = some f ∧
      f.delivered.map Slice.toBytes = (feed check.answer headerSize rcv.toBytes cs).1 ∧
      (f.error = true ↔ (feed check.answer headerSize rcv.toBytes cs).2 = none) ∧
      ∀ t, (feed check.answer headerSize rcv.toBytes cs).2 = some t → f.rcv.toBytes = t := by
  induction cs generalizing rcv with
  | nil => exact ⟨_, rfl, by simp [feed], by simp [feed], by simp [feed]⟩
  | cons c cs ih =>
      obtain ⟨r, hr, hreads⟩ := parsingProtocol_frame hdec (rcv.addSlice (Slice.ofBytes c))
      rw [SliceBuffer.toBytes_addSlice, Slice.toBytes_ofBytes] at hreads
      rw [receiveChunks, hr, Option.bind_some, feed]
      cases hframe : (frame check.answer headerSize (rcv.toBytes ++ c)).2 with
      | none =>
          rw [if_pos (hreads.error_iff.mpr hframe)]
          refine ⟨_, rfl, ?_, by simp, by simp⟩
          simpa using hreads.packages
      | some t =>
          -- the tail of this chunk is what the next one is appended to
          have hcode : ¬ r.code = -1 := fun h => by
            rw [hreads.error_iff.mp h] at hframe
            cases hframe
          obtain ⟨f, hf, hdelivered, herror, htail⟩ := ih r.rcv
          rw [hreads.tail t hframe] at hdelivered herror htail
          rw [if_neg hcode, hf, Option.map_some]
          refine ⟨_, rfl, ?_, herror, htail⟩
          have hpackages := hreads.packages
          rw [List.map_nil, List.nil_append] at hpackages
          simp only [List.map_append, hpackages, hdelivered]

/-- The largest chunk one `recv` call can return (`char buffer[8192]`). -/
def recvBufferSize : Nat := 8192

/-- A cutting of a stream into the chunks that `recv` calls can return. -/
structure IsCutting (stream : List UInt8) (cuts : List (List UInt8)) : Prop where
  /-- The chunks make up the stream. -/
  flatten : cuts.flatten = stream
  /-- No chunk is empty or longer than the `recv` buffer. -/
  chunk : ∀ c ∈ cuts, c ≠ [] ∧ c.length ≤ recvBufferSize

/-- **Receive framing does not depend on how the stream is cut.** For a handler with stable answers
that decides on every full header window, two cuttings of one stream deliver the same packages, report
an error or not alike, and leave the same bytes; without an error the packages and the left-over bytes
are the stream; the packages are always a prefix of the stream, and each has the length announced by
the handler for the bytes it starts at. -/
theorem receiveChunks_cut_independent (check : ProtocolHandler) (hstable : StableAnswer check)
    (hdec : DecidesHeader check) (stream : List UInt8) (cuts cuts' : List (List UInt8))
    (hcuts : IsCutting stream cuts) (hcuts' : IsCutting stream cuts') :
    ∃ f f', receiveChunks check .empty cuts = some f ∧ receiveChunks check .empty cuts' = some f' ∧
      f.delivered.map Slice.toBytes = f'.delivered.map Slice.toBytes ∧ f.error = f'.error ∧
      (f.error = false → f.rcv.toBytes = f'.rcv.toBytes ∧
        (f.delivered.map Slice.toBytes).flatten ++ f.rcv.toBytes = stream) ∧
      (f.delivered.map Slice.toBytes).flatten <+: stream ∧
      ∀ before package after, f.delivered = before ++ package :: after →
        check.answer ((stream.drop (before.map Slice.toBytes).flatten.length).take headerSize)
          = package.size := by
  -- both cuttings are the framing of the whole stream
  have hfeed : ∀ cs, IsCutting stream cs →
      feed check.answer headerSize [] cs = frame check.answer headerSize stream := by
    intro cs hcs
    rw [feed_eq_frame hstable.stable frame_nil, List.nil_append, hcs.flatten]
  obtain ⟨f, hf, hdelivered, herror, htail⟩ := receiveChunks_feed hdec .empty cuts
  obtain ⟨f', hf', hdelivered', herror', htail'⟩ := receiveChunks_feed hdec .empty cuts'
  rw [SliceBuffer.toBytes_empty, hfeed cuts hcuts] at hdelivered herror htail
  rw [SliceBuffer.toBytes_empty, hfeed cuts' hcuts'] at hdelivered' herror' htail'
  refine ⟨f, f', hf, hf', by rw [hdelivered, hdelivered'], ?_, ?_, ?_, ?_⟩
  · rw [Bool.eq_iff_iff, herror, herror']
  · intro hok
    obtain ⟨t, ht⟩ : ∃ t, (frame check.answer headerSize stream).2 = some t := by
      rw [← Option.ne_none_iff_exists']
      intro hnone
      rw [herror.mpr hnone] at hok
      cases hok
    refine ⟨by rw [htail t ht, htail' t ht], ?_⟩
    rw [hdelivered, htail t ht]
    exact frame_flatten ht
  · rw [hdelivered]
    exact frame_flatten_prefix stream
  · intro before package after hsplit
    have hmap : (frame check.answer headerSize stream).1
        = before.map Slice.toBytes ++ package.toBytes :: after.map Slice.toBytes := by
      rw [← hdelivered, hsplit, List.map_append, List.map_cons]
    rw [frame_announced hmap, Slice.length_toBytes]

/-- The handler that makes every byte a package of its own. -/
def checkSingleBytes : ProtocolHandler := fun p => if p = [] then 0 else 1

/-- The handler that takes single bytes has stable answers. -/
theorem stableAnswer_checkSingleBytes : StableAnswer checkSingleBytes := by
  intro p q hp
  have hne : p ≠ [] := fun h => hp (by simp [checkSingleBytes, h])
  simp [checkSingleBytes, hne]

/-- The handler that takes single bytes decides by its first byte. -/
theorem decidesHeader_checkSingleBytes : DecidesHeader checkSingleBytes := by
  intro p hp
  have hne : p ≠ [] := by
    rintro rfl
    simp [headerSize] at hp
  simp [checkSingleBytes, hne]

/-- Two bytes, received apart and together: each is a package, and the packages are those of the framer that is fed the
two chunks. -/
theorem receiveChunks_cut_independent_two_bytes :
    ∃ f f', receiveChunks checkSingleBytes .empty [[7], [8]] = some f ∧
      receiveChunks checkSingleBytes .empty [[7, 8]] = some f' ∧
      f.delivered.map Slice.toBytes = f'.delivered.map Slice.toBytes ∧ f.error = f'.error ∧
      f.delivered.map Slice.toBytes = [[7], [8]] ∧ f.error = false ∧ f.rcv.toBytes = [] := by
  obtain ⟨f, f', hf, hf', hpackages, herror, hclean, -⟩ :=
    receiveChunks_cut_independent checkSingleBytes stableAnswer_checkSingleBytes
      decidesHeader_checkSingleBytes [7, 8] [[7], [8]] [[7, 8]]
      ⟨rfl, by decide⟩ ⟨rfl, by decide⟩
  -- what the chunks are framed to
  obtain ⟨g, hg, hdelivered, hfailed, htail⟩ := receiveChunks_feed decidesHeader_checkSingleBytes .empty [[7], [8]]
  obtain rfl : f = g := Option.some.inj (hf.symm.trans hg)
  have hframe : ∀ x, frame checkSingleBytes.answer headerSize [x] = ([[x]], some []) := by
    intro x
    have hanswer : checkSingleBytes.answer ([x].take headerSize) = 1 := rfl
    rw [frame_of_package (by simp) (by rw [hanswer]; decide) (by rw [hanswer]; exact Nat.le_refl 1), hanswer]
    simp
  have hfeed : feed checkSingleBytes.answer headerSize [] [[7], [8]] = ([[7], [8]], some []) := by
    simp [feed, hframe]
  rw [SliceBuffer.toBytes_empty, hfeed] at hdelivered hfailed htail
  have hok : f.error = false := by
    cases hf : f.error with
    | false => rfl
    | true => cases hfailed.mp hf
  exact ⟨f, f', hf, hf', hpackages, herror, hdelivered, hok, htail [] rfl⟩

end RaptorLite
