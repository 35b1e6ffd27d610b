import RaptorLite.Linux.ParsingProtocol

/-! # Handlers that need a longer window

`Connection::ParsingProtocol` shows the protocol handler the first 1024 buffered bytes. A handler that
cannot decide on them answers `0`, and the code doubles the window and says `continue`, which means to ask
again. But the `continue` stands inside `do { } while (false)`: it leaves the inner block with
`pack_len == 0`, an empty package is delivered, nothing is dropped, and the next round is the same again.

The framing of `StreamFraming` stops at such a remainder, so its tail tells on which contents of the buffer
the loop ends. -/

namespace RaptorLite

open StreamFraming

/-! ### What a call of `ParsingProtocol` must do -/

/-- What happens in a round of the outer loop. -/
inductive ParseEvent where
  /-- The handler is shown a window. -/
  | ask (window : List UInt8)
  /-- A package is passed to `OnDataReceived`. -/
  | deliver (package : Slice)

/-- The events of the round that starts with this buffer. -/
def roundEvents (check : ProtocolHandler) (rcv : SliceBuffer) : List ParseEvent :=
  .ask (readSliceFromRecvBuffer rcv headerSize).2.toBytes ::
    match parseRound check rcv with
    | .deliver package _ => [.deliver package]
    | _ => []

/-- The round that starts with this buffer is as it should be. -/
structure RoundOk (check : ProtocolHandler) (rcv : SliceBuffer) : Prop where
  /-- A package that is delivered has bytes, and its delivery shortens the buffer. -/
  delivers : ∀ package rcv', parseRound check rcv = .deliver package rcv' →
    0 < package.size ∧ rcv'.length < rcv.length
  /-- Behind the answer `0` on a part of the buffer, the next thing that happens is that the handler is
  asked again, with a longer part. -/
  asks : ∀ before window after, roundEvents check rcv = before ++ .ask window :: after →
    check.answer window = 0 → window.length < rcv.length →
    ∃ window' after', after = .ask window' :: after' ∧ window' <+: rcv.toBytes ∧
      window.length < window'.length

/-- The buffers with which a round starts. -/
inductive RoundAt (check : ProtocolHandler) (rcv : SliceBuffer) : SliceBuffer → Prop
  /-- The first round. -/
  | first : 0 < rcv.length → RoundAt check rcv rcv
  /-- The round behind a delivery. -/
  | next {b b' : SliceBuffer} {package : Slice} : RoundAt check rcv b →
      parseRound check b = .deliver package b' → 0 < b'.length → RoundAt check rcv b'

/-- `ParsingProtocol` returns. -/
def Terminates (check : ProtocolHandler) (rcv : SliceBuffer) : Prop :=
  ∃ fuel r, parsingLoop check fuel rcv 0 [] = some r

/-- The framing of the bytes stops at more than 1024 of them, on the first 1024 of which the handler does
not decide. -/
def Undecided (check : ProtocolHandler) (bytes : List UInt8) : Prop :=
  ∃ tail, (frame check.answer headerSize bytes).2 = some tail ∧ headerSize < tail.length ∧
    check.answer (tail.take headerSize) = 0

/-! ### One round -/

section Round

variable {check : ProtocolHandler} {rcv : SliceBuffer}

/-- The ways a round goes, read on the buffered bytes and their framing. -/
theorem parseRound_cases (check : ProtocolHandler) {rcv : SliceBuffer} (hpos : 0 < rcv.length) :
    -- the round ends the loop, and the framing ends here
    ((parseRound check rcv = .error ∨ parseRound check rcv = .done) ∧ ¬ Undecided check rcv.toBytes) ∨
    -- the handler does not decide, and an empty package is delivered
    (headerSize < rcv.length ∧ check.answer (rcv.toBytes.take headerSize) = 0 ∧
      Undecided check rcv.toBytes ∧
      ∃ package rcv', parseRound check rcv = .deliver package rcv' ∧ rcv'.toBytes = rcv.toBytes) ∨
    -- a package is delivered, and the framing goes on behind it
    (0 < check.answer (rcv.toBytes.take headerSize) ∧
      ∃ package rcv', parseRound check rcv = .deliver package rcv' ∧ 0 < package.size ∧
        rcv'.length < rcv.length ∧ (Undecided check rcv'.toBytes ↔ Undecided check rcv.toBytes)) := by
  have hne : rcv.toBytes ≠ [] := by
    rw [← List.length_pos_iff, SliceBuffer.length_toBytes]
    exact hpos
  have hlen := rcv.length_toBytes
  rw [parseRound_eq]
  dsimp only
  by_cases hneg : check.answer (rcv.toBytes.take headerSize) < 0
  · refine Or.inl ⟨Or.inl (if_pos hneg), ?_⟩
    rintro ⟨tail, htail, -⟩
    rw [frame_of_neg hne hneg] at htail
    cases htail
  rw [if_neg hneg]
  by_cases hzero : check.answer (rcv.toBytes.take headerSize) = 0
  · rw [if_pos hzero]
    have hframe := frame_of_wait hne hneg (Or.inl hzero)
    by_cases hshort : rcv.length ≤ headerSize
    · rw [if_pos hshort]
      refine Or.inl ⟨Or.inr rfl, ?_⟩
      rintro ⟨tail, htail, hlong, -⟩
      rw [hframe] at htail
      cases htail
      omega
    · rw [if_neg hshort]
      obtain ⟨package, rcv', hd, -, hrcv'⟩ := deliverPackage_spec (Nat.zero_le rcv.length)
      refine Or.inr (Or.inl ⟨by omega, hzero, ?_, package, rcv', hd, hrcv'⟩)
      exact ⟨rcv.toBytes, by rw [hframe], by omega, hzero⟩
  · rw [if_neg hzero]
    by_cases hfit : (check.answer (rcv.toBytes.take headerSize)).toNat ≤ rcv.length
    · rw [if_pos hfit]
      obtain ⟨package, rcv', hd, hpackage, hrcv'⟩ := deliverPackage_spec hfit
      refine Or.inr (Or.inr ⟨by omega, package, rcv', hd, ?_, ?_, ?_⟩)
      · rw [← Slice.length_toBytes, hpackage, List.length_take]
        omega
      · rw [← SliceBuffer.length_toBytes, hrcv', List.length_drop]
        omega
      · rw [Undecided, Undecided, hrcv', frame_of_package hne (by omega) (by omega)]
    · rw [if_neg hfit]
      refine Or.inl ⟨Or.inr rfl, ?_⟩
      rintro ⟨tail, htail, -, hundecided⟩
      rw [frame_of_wait hne hneg (Or.inr (by omega))] at htail
      cases htail
      exact hzero hundecided

/-- The answer `0` on the first 1024 of more bytes is where the framing stops. -/
theorem undecided_of_zero (hlong : headerSize < rcv.length)
    (hzero : check.answer (rcv.toBytes.take headerSize) = 0) : Undecided check rcv.toBytes := by
  have hlen := rcv.length_toBytes
  have hne : rcv.toBytes ≠ [] := by
    rw [← List.length_pos_iff]
    omega
  refine ⟨rcv.toBytes, ?_, by omega, hzero⟩
  rw [frame_of_wait hne (by omega) (Or.inl hzero)]

/-- The only window of a round is made of the first 1024 bytes. -/
theorem window_of_roundEvents {before after : List ParseEvent} {window : List UInt8}
    (h : roundEvents check rcv = before ++ .ask window :: after) :
    window = rcv.toBytes.take headerSize := by
  rw [roundEvents, toBytes_readSlice] at h
  cases before with
  | nil =>
      rw [List.nil_append] at h
      exact (ParseEvent.ask.inj (List.cons.inj h).1).symm
  | cons first before =>
      -- what follows the first event is at most a delivery
      have hmem : ParseEvent.ask window ∈ before ++ .ask window :: after :=
        List.mem_append_right _ List.mem_cons_self
      rw [List.cons_append] at h
      rw [← (List.cons.inj h).2] at hmem
      split at hmem
      · cases List.mem_singleton.mp hmem
      · cases hmem

/-- A round on bytes that can be framed is as it should be. -/
theorem roundOk_of_decided (hpos : 0 < rcv.length) (hdecided : ¬ Undecided check rcv.toBytes) :
    RoundOk check rcv := by
  refine ⟨?_, ?_⟩
  · intro package rcv' hround
    rcases parseRound_cases check hpos with
      ⟨hend, -⟩ | ⟨-, -, hundecided, -⟩ | ⟨-, package', rcv'', hround', hsize, hless, -⟩
    · rcases hend with hend | hend
      · rw [hend] at hround
        cases hround
      · rw [hend] at hround
        cases hround
    · exact absurd hundecided hdecided
    · rw [hround'] at hround
      cases hround
      exact ⟨hsize, hless⟩
  · intro before window after hevents hzero hshort
    rw [window_of_roundEvents hevents] at hzero hshort
    rw [List.length_take, SliceBuffer.length_toBytes] at hshort
    exact absurd (undecided_of_zero (by omega) hzero) hdecided

end Round

/-! ### The loop -/

/-- Where the framing stops undecided, no fuel is enough: the loop comes to the remainder and stays. -/
theorem parsingLoop_of_undecided {check : ProtocolHandler} (fuel : Nat) {rcv : SliceBuffer} {counter : Nat}
    {delivered : List Slice} (h : Undecided check rcv.toBytes) :
    parsingLoop check fuel rcv counter delivered = none := by
  induction fuel generalizing rcv counter delivered with
  | zero => rfl
  | succ fuel ih =>
      have hpos : 0 < rcv.length := by
        by_contra hzero
        obtain ⟨tail, htail, hlong, -⟩ := h
        have hnil : rcv.toBytes = [] := by
          rw [← List.length_eq_zero_iff, SliceBuffer.length_toBytes]
          omega
        rw [hnil, frame_nil] at htail
        cases htail
        exact absurd hlong (Nat.not_lt_zero _)
      rw [parsingLoop, if_pos hpos]
      rcases parseRound_cases check hpos with
        ⟨-, hdecided⟩ | ⟨-, -, -, package, rcv', hround, hsame⟩ | ⟨-, package, rcv', hround, -, -, hiff⟩
      · exact absurd h hdecided
      · rw [hround]
        exact ih (by rw [hsame]; exact h)
      · rw [hround]
        exact ih (hiff.mpr h)

/-- Everywhere else the loop ends, since every delivery shortens the buffer. -/
theorem parsingLoop_of_decided {check : ProtocolHandler} {fuel : Nat} {rcv : SliceBuffer} {counter : Nat}
    {delivered : List Slice} (hfuel : rcv.length < fuel) (h : ¬ Undecided check rcv.toBytes) :
    ∃ r, parsingLoop check fuel rcv counter delivered = some r := by
  induction fuel generalizing rcv counter delivered with
  | zero => omega
  | succ fuel ih =>
      rw [parsingLoop]
      by_cases hpos : 0 < rcv.length
      · rw [if_pos hpos]
        rcases parseRound_cases check hpos with
          ⟨hend, -⟩ | ⟨-, -, hundecided, -⟩ | ⟨-, package, rcv', hround, -, hless, hiff⟩
        · rcases hend with hend | hend
          · rw [hend]
            exact ⟨_, rfl⟩
          · rw [hend]
            exact ⟨_, rfl⟩
        · exact absurd hundecided h
        · rw [hround]
          exact ih (by omega) (mt hiff.mp h)
      · rw [if_neg hpos]
        exact ⟨_, rfl⟩

/-- Every round of a call starts with bytes that can be framed, if the first one does. -/
theorem RoundAt.decided {check : ProtocolHandler} {rcv b : SliceBuffer} (hb : RoundAt check rcv b)
    (h : ¬ Undecided check rcv.toBytes) : 0 < b.length ∧ ¬ Undecided check b.toBytes := by
  induction hb with
  | first hpos => exact ⟨hpos, h⟩
  | next _ hround hpos' ih =>
      obtain ⟨hpos, hdecided⟩ := ih
      refine ⟨hpos', ?_⟩
      rcases parseRound_cases check hpos with
        ⟨hend, -⟩ | ⟨-, -, hundecided, -⟩ | ⟨-, package, rcv', hround', -, -, hiff⟩
      · rcases hend with hend | hend
        · rw [hend] at hround
          cases hround
        · rw [hend] at hround
          cases hround
      · exact absurd hundecided hdecided
      · rw [hround'] at hround
        cases hround
        exact mt hiff.mp hdecided

/-- **When `ParsingProtocol` ends and makes progress.** For every protocol handler and every content of the
receive buffer these are equivalent: the call returns, every package delivered in one of its rounds has
bytes and shortens the buffer, and behind every answer `0` on a part of the buffer the handler is asked
again with a longer part before anything is delivered; the call returns; and the framing of the buffered
bytes by windows of 1024 bytes does not stop at a remainder of more than 1024 bytes on whose first 1024
the handler answers `0`. -/
theorem parsingProtocol_sound_iff (check : ProtocolHandler) (rcv : SliceBuffer) :
    ((Terminates check rcv ∧ ∀ b, RoundAt check rcv b → RoundOk check b) ↔
      ¬ Undecided check rcv.toBytes) ∧
    (Terminates check rcv ↔ ¬ Undecided check rcv.toBytes) := by
  have hends : Terminates check rcv ↔ ¬ Undecided check rcv.toBytes := by
    constructor
    · rintro ⟨fuel, r, hr⟩ hundecided
      rw [parsingLoop_of_undecided fuel hundecided] at hr
      cases hr
    · intro hdecided
      obtain ⟨r, hr⟩ := parsingLoop_of_decided (Nat.lt_succ_self rcv.length) hdecided
      exact ⟨_, r, hr⟩
  refine ⟨?_, hends⟩
  constructor
  · rintro ⟨hterminates, -⟩
    exact hends.mp hterminates
  · intro hdecided
    refine ⟨hends.mpr hdecided, ?_⟩
    intro b hb
    obtain ⟨hpos, hb⟩ := hb.decided hdecided
    exact roundOk_of_decided hpos hb

/-- A handler whose header is longer than the window: it decides on 2000 bytes. -/
def checkLongHeader : ProtocolHandler := fun p => if p.length < 2000 then 0 else 2000

/-- A receive buffer with this many bytes. -/
def bufferOfZeros (n : Nat) : SliceBuffer :=
  SliceBuffer.empty.addSlice (Slice.ofBytes (List.replicate n 0))

/-- A buffer of 1500 bytes for a handler that decides on 2000: the call does not return, and its first round
delivers an empty package and leaves the buffer as it is. -/
theorem long_header_never_returns :
    (¬ Terminates checkLongHeader (bufferOfZeros 1500)) ∧
    RoundAt checkLongHeader (bufferOfZeros 1500) (bufferOfZeros 1500) ∧
    ∃ package rcv', parseRound checkLongHeader (bufferOfZeros 1500) = .deliver package rcv' ∧
      package.size = 0 ∧ rcv'.length = 1500 := by
  have hbytes : (bufferOfZeros 1500).toBytes = List.replicate 1500 0 := by
    rw [bufferOfZeros, SliceBuffer.toBytes_addSlice, SliceBuffer.toBytes_empty, Slice.toBytes_ofBytes,
      List.nil_append]
  have hlen : (bufferOfZeros 1500).length = 1500 := by
    rw [← SliceBuffer.length_toBytes, hbytes, List.length_replicate]
  have hzero : checkLongHeader.answer ((bufferOfZeros 1500).toBytes.take headerSize) = 0 := by
    rw [ProtocolHandler.answer_eq_zero_iff, checkLongHeader, if_pos]
    rw [List.length_take, hbytes, List.length_replicate]
    decide
  have hlong : headerSize < (bufferOfZeros 1500).length := by
    rw [hlen]
    decide
  refine ⟨?_, .first (by omega), ?_⟩
  · rintro ⟨fuel, r, hr⟩
    rw [parsingLoop_of_undecided fuel (undecided_of_zero hlong hzero)] at hr
    cases hr
  · obtain ⟨package, rcv', hd, hpackage, hrcv'⟩ := deliverPackage_spec (Nat.zero_le (bufferOfZeros 1500).length)
    refine ⟨package, rcv', ?_, ?_, ?_⟩
    · rw [parseRound_eq]
      dsimp only
      rw [if_neg (by omega), if_pos hzero, if_neg (by omega)]
      exact hd
    · rw [← Slice.length_toBytes, hpackage, List.take_zero, List.length_nil]
    · rw [← SliceBuffer.length_toBytes, hrcv', List.drop_zero, SliceBuffer.length_toBytes, hlen]

end RaptorLite
