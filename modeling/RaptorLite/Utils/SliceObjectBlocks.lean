import RaptorLite.Utils.SliceObjects

/-! # Slice objects and their blocks

What the operations on slice objects do to the blocks: which constructions make a new block, how references are added
and dropped, and that no operation on objects in range uses a freed block or a byte outside of one. At the end, the
two representations cannot be told apart. -/

namespace RaptorLite

namespace SliceObject

/-! ### New slices -/

/-- What a construction makes: a slice in range whose block, if it has one, is new and held by it. -/
structure NewSlice (blocks : SliceBlocks) (made : SliceBlocks × SliceObject) : Prop where
  /-- The slice is in range. -/
  inRange : made.2.InRange made.1
  /-- Its block was not there before. -/
  fresh : ∀ b ∈ made.2.held, blocks.content b = none
  /-- The blocks before are as they were. -/
  keeps : ∀ b, (blocks.content b).isSome → made.1.content b = blocks.content b
  /-- The counts are right if they were. -/
  balanced : ∀ held, Balanced blocks held → Balanced made.1 (made.2.held + held)

section NewSlice

variable {blocks : SliceBlocks} {made : SliceBlocks × SliceObject}

/-- An inlined slice has no block. -/
theorem newSlice_inlined {length : UInt8} {bytes : List UInt8} (hlen : length.toNat ≤ sliceInlinedSize)
    (hbytes : bytes.length = sliceInlinedSize) : NewSlice blocks (blocks, .inlined length bytes) where
  inRange := ⟨hlen, hbytes⟩
  fresh b hb := absurd hb (Multiset.notMem_zero b)
  keeps b _ := rfl
  balanced held hbal := by
    rw [SliceObject.held, Multiset.zero_add]
    exact hbal

/-- The empty slice has no block. -/
theorem newSlice_empty : NewSlice blocks (blocks, empty) :=
  newSlice_inlined (Nat.zero_le _) List.length_replicate

/-- A length of at most 23 survives the cast to `uint8_t`. -/
theorem toNat_toUInt8_inlined {len : UInt64} (h : len.toNat ≤ sliceInlinedSize) :
    len.toUInt8.toNat = len.toNat := by
  rw [toUInt8_eq, SliceData.toNat_ofNat_inlined h]

/-- The size that is asked for does not wrap. -/
theorem toNat_requested {len : UInt64} (h : sliceRefCountSize.toNat + len.toNat < 2 ^ 64) :
    (sliceRefCountSize + len).toNat = sliceRefCountSize.toNat + len.toNat := by
  rw [UInt64.toNat_add, Nat.mod_eq_of_lt h]

/-- A block that `malloc` gives: its bytes are those it held before. -/
theorem newSlice_malloc {len : UInt64} (hbig : sliceInlinedSize < len.toNat)
    (hroom : len.toNat + sliceRefCountSize.toNat ≤ ptrdiffMax) (junk : Nat → UInt8) :
    ∃ blocks', mallocSlice blocks (sliceRefCountSize + len) junk = .ok (blocks', blocks.length) ∧
      NewSlice blocks (blocks', .refcounted blocks.length len 0) ∧
      data blocks' (.refcounted blocks.length len 0) = .refcounted len.toNat (uninitialised len.toNat junk) 0 := by
  have hmax : ptrdiffMax < 2 ^ 64 := by decide
  have hsize : (sliceRefCountSize + len).toNat = sliceRefCountSize.toNat + len.toNat :=
    toNat_requested (by omega)
  obtain ⟨hnew, hfresh, hkeep⟩ := blocks.content_alloc (uninitialised len.toNat junk)
  refine ⟨blocks.alloc (uninitialised len.toNat junk), ?_, ⟨?_, ?_, hkeep, ?_⟩, by rw [data, hnew]; rfl⟩
  · rw [mallocSlice, hsize, if_pos (by omega), Nat.add_sub_cancel_left]
  · refine ⟨_, hnew, ?_⟩
    rw [length_uninitialised, Nat.zero_add]
    exact ⟨Nat.le_refl _, hbig, hroom⟩
  · intro b hb
    rw [show b = blocks.length from Multiset.mem_singleton.mp hb, hfresh]
  · intro held hbal
    rw [SliceObject.held, Multiset.singleton_add]
    exact hbal.alloc _

/-- `malloc` refuses a size that no object has. -/
theorem mallocSlice_limit {len : UInt64} (hroom : ptrdiffMax < len.toNat + sliceRefCountSize.toNat)
    (hfits : len.toNat + sliceRefCountSize.toNat < 2 ^ 64) (junk : Nat → UInt8) :
    mallocSlice blocks (sliceRefCountSize + len) junk = .error .limit := by
  rw [mallocSlice, toNat_requested (by omega), if_neg (by omega)]

/-- A block is asked for only if the bytes do not fit into the object. -/
theorem not_inlined_of_limit {len : UInt64} (hroom : ptrdiffMax < len.toNat + sliceRefCountSize.toNat) :
    ¬ len.toNat ≤ sliceInlinedSize := by
  have hmax : sliceInlinedSize + sliceRefCountSize.toNat ≤ ptrdiffMax := by decide
  omega

/-- `MakeSliceByLength` for which there is room. -/
theorem newSlice_makeSliceByLength (blocks : SliceBlocks) {len : UInt64}
    (hroom : len.toNat + sliceRefCountSize.toNat ≤ ptrdiffMax) (junk : Nat → UInt8) :
    ∃ made, makeSliceByLength blocks len junk = .ok made ∧ NewSlice blocks made ∧
      made.2.data made.1 = .makeSliceByLengthOver len.toNat junk := by
  unfold makeSliceByLength SliceData.makeSliceByLengthOver
  by_cases hlen : len.toNat ≤ sliceInlinedSize
  · have hcast := toNat_toUInt8_inlined hlen
    rw [if_pos hlen, if_pos hlen, ← toUInt8_eq]
    exact ⟨_, rfl, newSlice_inlined (by rw [hcast]; exact hlen) List.length_replicate, rfl⟩
  · obtain ⟨blocks', hmalloc, hnew, hdata⟩ := newSlice_malloc (by omega) hroom junk
    rw [if_neg hlen, if_neg hlen, hmalloc]
    exact ⟨_, rfl, hnew, hdata⟩

/-- `MakeSliceByLength` for which there is no room. -/
theorem makeSliceByLength_limit {len : UInt64} (hroom : ptrdiffMax < len.toNat + sliceRefCountSize.toNat)
    (hfits : len.toNat + sliceRefCountSize.toNat < 2 ^ 64) (junk : Nat → UInt8) :
    makeSliceByLength blocks len junk = .error .limit := by
  rw [makeSliceByLength, if_neg (not_inlined_of_limit hroom), mallocSlice_limit hroom hfits]
  rfl

/-- The constructor without bytes, for which there is room. -/
theorem newSlice_constructNull (blocks : SliceBlocks) {len : UInt64}
    (hroom : len.toNat + sliceRefCountSize.toNat ≤ ptrdiffMax) (junk : Nat → UInt8) :
    ∃ made, constructNull blocks len junk = .ok made ∧ NewSlice blocks made ∧
      made.2.data made.1 = .constructNull len.toNat junk := by
  unfold constructNull SliceData.constructNull
  by_cases hzero : len = 0
  · rw [if_pos hzero, if_pos (by rw [hzero]; rfl)]
    exact ⟨_, rfl, newSlice_empty, rfl⟩
  · have hzero' : len.toNat ≠ 0 := fun h => hzero (UInt64.toNat_inj.mp h)
    rw [if_neg hzero, if_neg hzero']
    by_cases hlen : len.toNat ≤ sliceInlinedSize
    · have hcast := toNat_toUInt8_inlined hlen
      rw [if_pos hlen, if_pos hlen, ← toUInt8_eq]
      exact ⟨_, rfl, newSlice_inlined (by rw [hcast]; exact hlen) (length_uninitialised _ _), rfl⟩
    · obtain ⟨blocks', hmalloc, hnew, hdata⟩ := newSlice_malloc (by omega) hroom junk
      rw [if_neg hlen, if_neg hlen, hmalloc]
      exact ⟨_, rfl, hnew, hdata⟩

/-- The constructor without bytes, for which there is no room. -/
theorem constructNull_limit {len : UInt64} (hroom : ptrdiffMax < len.toNat + sliceRefCountSize.toNat)
    (hfits : len.toNat + sliceRefCountSize.toNat < 2 ^ 64) (junk : Nat → UInt8) :
    constructNull blocks len junk = .error .limit := by
  have hbig := not_inlined_of_limit hroom
  have hne : len ≠ 0 := by
    rintro rfl
    exact hbig (by decide)
  rw [constructNull, if_neg hne, if_neg hbig, mallocSlice_limit hroom hfits]
  rfl

/-- Writing to a new slice keeps it new. -/
theorem NewSlice.write (h : NewSlice blocks made) {pos : Nat} {src : List UInt8}
    (hfits : pos + src.length ≤ made.2.size.toNat) :
    ∃ made', made.2.write made.1 pos src = .ok made' ∧ NewSlice blocks made' ∧
      made'.2.data made'.1 = (made.2.data made.1).write pos src := by
  obtain ⟨blocks₁, s⟩ := made
  have hwf := h.inRange.wellFormed
  rw [toNat_size blocks₁] at hfits
  have hwrite := hwf.write pos src
  cases s with
  | inlined length bytes =>
      have hpos : pos + src.length ≤ bytes.length := Nat.le_trans hfits (by rw [hwf.2]; exact hwf.1)
      have hdata : (SliceData.inlined length bytes).write pos src = .inlined length (overwrite bytes pos src) :=
        if_pos hfits
      refine ⟨(blocks₁, .inlined length (overwrite bytes pos src)), if_pos hpos, ?_, hdata.symm⟩
      rw [data, hdata] at hwrite
      exact ⟨hwrite, h.fresh, h.keeps, h.balanced⟩
  | refcounted refs length start =>
      obtain ⟨content, hcontent, hin, hbig, hmax⟩ := h.inRange
      obtain ⟨block, haccess, rfl⟩ := CountedBlocks.access_of_content hcontent
      obtain ⟨blocks₂, hstore, hself, hother⟩ :=
        CountedBlocks.store_ok hcontent (overwrite block.content (start + pos) src)
      have hpos : start + pos + src.length ≤ block.content.length := by
        simp only [data, SliceData.size] at hfits
        omega
      refine ⟨(blocks₂, .refcounted refs length start), ?_, ⟨?_, h.fresh, ?_, ?_⟩, ?_⟩
      · rw [SliceObject.write, haccess]
        simp only [Except.bind]
        rw [if_pos hpos, hstore]
      · refine ⟨_, hself, ?_⟩
        rw [length_overwrite hpos]
        exact ⟨hin, hbig, hmax⟩
      · -- the block is not one of those before
        intro b hb
        have hne : b ≠ refs := by
          rintro rfl
          rw [h.fresh b (Multiset.mem_singleton_self b)] at hb
          cases hb
        rw [hother b hne, h.keeps b hb]
      · exact fun held hbal => (h.balanced held hbal).store hstore
      · rw [data, data, hself, hcontent]
        exact (if_pos hfits).symm

/-- A slice constructed from bytes for which there is room. -/
theorem newSlice_construct {src : ByteArrayObject}
    (hroom : src.bytes.length + sliceRefCountSize.toNat ≤ ptrdiffMax) (junk : Nat → UInt8) :
    ∃ made, construct blocks src junk = .ok made ∧ NewSlice blocks made ∧
      made.2.data made.1 = .construct src.bytes junk := by
  have hsize : src.size.toNat = src.bytes.length := src.toNat_size
  obtain ⟨made, hmade, hnew, hdata⟩ := newSlice_constructNull blocks (hsize.symm ▸ hroom) junk
  rw [hsize] at hdata
  have hfits : 0 + src.bytes.length ≤ made.2.size.toNat := by
    rw [toNat_size made.1, hdata, SliceData.size_constructNull, Nat.zero_add]
  obtain ⟨made', hwrite, hnew', hdata'⟩ := hnew.write hfits
  refine ⟨made', by rw [construct, hmade]; exact hwrite, hnew', ?_⟩
  rw [hdata', hdata, SliceData.construct]

/-- A slice copied into a new one. -/
theorem NewSlice.copyInto (h : NewSlice blocks made) {src : SliceObject} (hsrc : src.InRange blocks) (pos : Nat)
    (hfits : pos + src.size.toNat ≤ made.2.size.toNat) :
    ∃ made', SliceObject.copyInto made.1 made.2 pos src = .ok made' ∧ NewSlice blocks made' ∧
      made'.2.data made'.1 = (made.2.data made.1).write pos (src.bytes blocks) := by
  have hkeep : ∀ b ∈ src.held, made.1.content b = blocks.content b := by
    intro b hb
    apply h.keeps
    cases src with
    | inlined length bytes => exact absurd hb (Multiset.notMem_zero b)
    | refcounted refs length start =>
        obtain ⟨content, hcontent, -⟩ := hsrc
        rw [Multiset.mem_singleton.mp hb, hcontent]
        rfl
  have hlen := hsrc.length_bytes
  unfold SliceObject.copyInto
  by_cases hempty : src.size = 0
  · have hnil : src.bytes blocks = [] := List.length_eq_zero_iff.mp (by rw [hlen, hempty]; rfl)
    rw [if_neg (not_not.mpr hempty), hnil, SliceData.write_nil]
    exact ⟨made, rfl, h, rfl⟩
  · rw [if_pos hempty, (hsrc.of_keeps hkeep).read, bytes_of_keeps hkeep]
    rw [← hlen] at hfits
    exact h.write hfits

/-- The sum of two sizes does not wrap, and neither does the size of the block asked for. -/
theorem InRange.toNat_add_size {s t : SliceObject} (hs : s.InRange blocks) (ht : t.InRange blocks) :
    (s.size + t.size).toNat = s.size.toNat + t.size.toNat ∧
      s.size.toNat + t.size.toNat + sliceRefCountSize.toNat < 2 ^ 64 := by
  have hsle := hs.size_le
  have htle := ht.size_le
  have hmax : 2 * ptrdiffMax < 2 ^ 64 := by decide
  exact ⟨by rw [UInt64.toNat_add, Nat.mod_eq_of_lt (by omega)], by omega⟩

/-- The body of `operator+`, when there is room for the result. -/
theorem newSlice_plusBody {s t : SliceObject} (hs : s.InRange blocks) (ht : t.InRange blocks)
    (hroom : s.size.toNat + t.size.toNat + sliceRefCountSize.toNat ≤ ptrdiffMax) (junk : Nat → UInt8) :
    ∃ made, plusBody blocks s t junk = .ok made ∧ NewSlice blocks made ∧
      made.2.data made.1 = (s.data blocks).plus (t.data blocks) junk := by
  have hempty : (s.data blocks).size = 0 ∧ (t.data blocks).size = 0 ↔ s.size = 0 ∧ t.size = 0 := by
    rw [← toNat_size, ← toNat_size]
    exact and_congr (UInt64.toNat_inj (b := 0)) (UInt64.toNat_inj (b := 0))
  unfold plusBody SliceData.plus
  by_cases hzero : s.size = 0 ∧ t.size = 0
  · rw [if_pos hzero, if_pos (hempty.mpr hzero)]
    exact ⟨_, rfl, newSlice_empty, rfl⟩
  · obtain ⟨hsum, -⟩ := hs.toNat_add_size ht
    obtain ⟨made, hmade, hnew, hdata⟩ := newSlice_makeSliceByLength blocks (hsum ▸ hroom) junk
    have hsize : made.2.size.toNat = s.size.toNat + t.size.toNat := by
      rw [toNat_size made.1, hdata, SliceData.size_makeSliceByLengthOver, hsum]
    obtain ⟨made₁, hcopy₁, hnew₁, hdata₁⟩ := hnew.copyInto hs 0 (by omega)
    have hsize₁ : made₁.2.size.toNat = s.size.toNat + t.size.toNat := by
      rw [toNat_size made₁.1, hdata₁, SliceData.size_write, ← toNat_size, hsize]
    obtain ⟨made₂, hcopy₂, hnew₂, hdata₂⟩ := hnew₁.copyInto ht s.size.toNat (by omega)
    -- where the second copy goes
    have hpos : (if s.size ≠ 0 then s.size.toNat else 0) = s.size.toNat := by
      split
      · rfl
      · next hzero =>
        rw [not_not.mp hzero]
        rfl
    refine ⟨made₂, ?_, hnew₂, ?_⟩
    · rw [if_neg hzero, hmade]
      simp only [Except.bind]
      rw [hcopy₁, hpos]
      exact hcopy₂
    · rw [if_neg fun h => hzero (hempty.mp h), hdata₂, hdata₁, hdata, hsum, toNat_size blocks, toNat_size blocks]
      rfl

/-- `operator+` for whose result there is no room. -/
theorem plusBody_limit {s t : SliceObject} (hs : s.InRange blocks) (ht : t.InRange blocks)
    (hroom : ptrdiffMax < s.size.toNat + t.size.toNat + sliceRefCountSize.toNat) (junk : Nat → UInt8) :
    plusBody blocks s t junk = .error .limit := by
  obtain ⟨hsum, hfits⟩ := hs.toNat_add_size ht
  rw [← hsum] at hroom hfits
  have hne : ¬ (s.size = 0 ∧ t.size = 0) := by
    rintro ⟨hs0, ht0⟩
    rw [hs0, ht0] at hroom
    exact absurd hroom (by decide)
  rw [plusBody, if_neg hne, makeSliceByLength_limit hroom hfits]
  rfl

end NewSlice

/-! ### References -/

/-- What an operation on slices gives: a slice in range that holds its block, and the blocks held by the others
as they were. -/
structure Owned (blocks : SliceBlocks) (held : Multiset Nat) (made : SliceBlocks × SliceObject) : Prop where
  /-- The slice is in range. -/
  inRange : made.2.InRange made.1
  /-- Its reference is counted, with those of the others. -/
  balanced : Balanced made.1 (made.2.held + held)
  /-- The blocks of the others are as they were. -/
  keeps : KeepsContent held blocks made.1

section Owned

variable {blocks : SliceBlocks} {held : Multiset Nat} {s t : SliceObject}

/-- A new slice holds a reference of its own. -/
theorem NewSlice.owned {made : SliceBlocks × SliceObject} (h : NewSlice blocks made) (hbal : Balanced blocks held) :
    Owned blocks held made where
  inRange := h.inRange
  balanced := h.balanced held hbal
  keeps b hb := h.keeps b (hbal.isSome_content hb)

/-- A construction for `n` bytes makes a slice or finds no room. -/
theorem safe_of_newSlice (hbal : Balanced blocks held) {x : Except MemoryFault (SliceBlocks × SliceObject)} (n : Nat)
    (hmakes : n + sliceRefCountSize.toNat ≤ ptrdiffMax → ∃ made, x = .ok made ∧ NewSlice blocks made)
    (hlimit : ptrdiffMax < n + sliceRefCountSize.toNat → x = .error .limit) : Safe True (Owned blocks held) x := by
  by_cases hroom : n + sliceRefCountSize.toNat ≤ ptrdiffMax
  · obtain ⟨made, hmade, hnew⟩ := hmakes hroom
    rw [hmade]
    exact hnew.owned hbal
  · rw [hlimit (Nat.lt_of_not_le hroom)]
    exact ⟨rfl, trivial⟩

/-- The constructor without bytes keeps the counts, or ends at the limit of `malloc`. -/
theorem constructNull_safe (hbal : Balanced blocks held) {len : UInt64}
    (hfits : len.toNat + sliceRefCountSize.toNat < 2 ^ 64) (junk : Nat → UInt8) :
    Safe True (Owned blocks held) (constructNull blocks len junk) := by
  refine safe_of_newSlice hbal len.toNat (fun hroom => ?_) fun hroom => constructNull_limit hroom hfits junk
  obtain ⟨made, hmade, hnew, -⟩ := newSlice_constructNull blocks hroom junk
  exact ⟨made, hmade, hnew⟩

/-- `MakeSliceByLength` keeps the counts, or ends at the limit of `malloc`. -/
theorem makeSliceByLength_safe (hbal : Balanced blocks held) {len : UInt64}
    (hfits : len.toNat + sliceRefCountSize.toNat < 2 ^ 64) (junk : Nat → UInt8) :
    Safe True (Owned blocks held) (makeSliceByLength blocks len junk) := by
  refine safe_of_newSlice hbal len.toNat (fun hroom => ?_) fun hroom => makeSliceByLength_limit hroom hfits junk
  obtain ⟨made, hmade, hnew, -⟩ := newSlice_makeSliceByLength blocks hroom junk
  exact ⟨made, hmade, hnew⟩

/-- The size of bytes that are in memory does not wrap. -/
theorem construct_safe (hbal : Balanced blocks held) (src : ByteArrayObject) (junk : Nat → UInt8) :
    Safe True (Owned blocks held) (construct blocks src junk) := by
  refine safe_of_newSlice hbal src.bytes.length (fun hroom => ?_) fun hroom => ?_
  · obtain ⟨made, hmade, hnew, -⟩ := newSlice_construct hroom junk
    exact ⟨made, hmade, hnew⟩
  · have hle := src.length_le
    have hmax : ptrdiffMax + sliceRefCountSize.toNat < 2 ^ 64 := by decide
    rw [← src.toNat_size] at hroom hle
    rw [construct, constructNull_limit hroom (by omega)]
    rfl

/-- A count comes to its limit. -/
def AtLimit (s : SliceObject) (held : Multiset Nat) : Prop := ∃ b ∈ s.held, int32Limit ≤ held.count b + 1

/-- `AddRef` on a block that is held: one more reference, and nothing else changes. -/
theorem addRef_safe (hbal : Balanced blocks held) (hs : s.held ⊆ held) :
    Safe (s.AtLimit held) (fun blocks' => Balanced blocks' (s.held + held) ∧ KeepsContent held blocks blocks')
      (s.addRef blocks) := by
  cases s with
  | inlined length bytes =>
      rw [SliceObject.held, Multiset.zero_add]
      exact ⟨hbal, fun b _ => rfl⟩
  | refcounted refs length start =>
      have hmem := Multiset.mem_singleton_self refs
      rw [SliceObject.held, Multiset.singleton_add]
      exact (hbal.addRef (hs hmem) int32Limit).weaken fun hlimit => ⟨refs, hmem, hlimit⟩

/-- `DecRef` on a block that is held: one reference less, and the blocks that are still held stay. -/
theorem decRef_safe (hbal : Balanced blocks (s.held + held)) :
    Safe False (fun blocks' => Balanced blocks' held ∧ KeepsContent held blocks blocks') (s.decRef blocks) := by
  cases s with
  | inlined length bytes =>
      rw [SliceObject.held, Multiset.zero_add] at hbal
      exact ⟨hbal, fun b _ => rfl⟩
  | refcounted refs length start =>
      rw [SliceObject.held, Multiset.singleton_add] at hbal
      exact hbal.decRef

/-- A copy of a slice that another object holds. -/
theorem copyConstruct_safe (hbal : Balanced blocks held) (hs : s.held ⊆ held) (hin : s.InRange blocks) :
    Safe (s.AtLimit held) (fun made => Owned blocks held made ∧ made.2 = s) (s.copyConstruct blocks) := by
  refine (addRef_safe hbal hs).bind fun blocks' hadd => ?_
  exact ⟨⟨hin.of_keeps fun b hb => hadd.2 b (hs hb), hadd.1, hadd.2⟩, rfl⟩

/-- A move is a copy. -/
theorem moveConstruct_safe (hbal : Balanced blocks held) (hs : s.held ⊆ held) (hin : s.InRange blocks) :
    Safe (s.AtLimit held) (fun made => Owned blocks held made ∧ made.2 = s) (s.moveConstruct blocks) :=
  copyConstruct_safe hbal hs hin

/-- The reference is dropped before the other is added: the block of the other slice is held by it. -/
theorem copyAssign_safe (hbal : Balanced blocks (s.held + held)) (ht : t.held ⊆ held) (hin : t.InRange blocks) :
    Safe (t.AtLimit held) (fun made => Owned blocks held made ∧ made.2 = t) (s.copyAssign blocks t) := by
  refine ((decRef_safe hbal).weaken False.elim).bind fun blocks₁ hdec => ?_
  refine (addRef_safe hdec.1 ht).bind fun blocks₂ hadd => ?_
  have hkeep := hdec.2.trans hadd.2 (Multiset.Subset.refl held)
  exact ⟨⟨hin.of_keeps fun b hb => hkeep b (ht hb), hadd.1, hkeep⟩, rfl⟩

/-- The reference is added before the other is dropped. -/
theorem moveAssign_safe (hbal : Balanced blocks (s.held + held)) (ht : t.held ⊆ held) (hin : t.InRange blocks) :
    Safe (t.AtLimit (s.held + held)) (fun made => Owned blocks held made ∧ made.2 = t) (s.moveAssign blocks t) := by
  have hsub : held ⊆ s.held + held := Multiset.subset_add_right
  refine (addRef_safe hbal (Multiset.Subset.trans ht hsub)).bind fun blocks₁ hadd => ?_
  refine ((decRef_safe hadd.1.left_comm).weaken False.elim).bind fun blocks₂ hdec => ?_
  have hsub' : held ⊆ t.held + held := Multiset.subset_add_right
  have hkeep := (hadd.2.mono hsub).trans (hdec.2.mono hsub') (Multiset.Subset.refl held)
  exact ⟨⟨hin.of_keeps fun b hb => hkeep b (ht hb), hdec.1, hkeep⟩, rfl⟩

/-- There is no room for the result of `operator+`. -/
def NoRoom (s t : SliceObject) : Prop := ptrdiffMax < s.size.toNat + t.size.toNat + sliceRefCountSize.toNat

/-- `operator+` behind its test makes a new slice of both byte strings, unless there is no room. -/
theorem plusBody_safe (hbal : Balanced blocks held) (hs : s.InRange blocks) (ht : t.InRange blocks)
    (junk : Nat → UInt8) :
    Safe (s.NoRoom t)
      (fun made => Owned blocks held made ∧ made.2.bytes made.1 = s.bytes blocks ++ t.bytes blocks)
      (plusBody blocks s t junk) := by
  by_cases hroom : s.NoRoom t
  · rw [plusBody_limit hs ht hroom]
    exact ⟨rfl, hroom⟩
  · obtain ⟨made, hmade, hnew, hdata⟩ := newSlice_plusBody hs ht (Nat.le_of_not_lt hroom) junk
    rw [hmade]
    refine ⟨hnew.owned hbal, ?_⟩
    rw [bytes, hdata, SliceData.toBytes_plus hs.wellFormed ht.wellFormed]
    rfl

/-- Destroying a temporary, with the result of the call still there. -/
theorem Owned.destroy {made : SliceBlocks × SliceObject} (h : Owned blocks (s.held + held) made) :
    Safe False (fun blocks' => Owned blocks held (blocks', made.2) ∧ KeepsContent made.2.held made.1 blocks')
      (s.destroy made.1) := by
  have hleft : made.2.held ⊆ made.2.held + held := Multiset.subset_add_left
  have hright : held ⊆ made.2.held + held := Multiset.subset_add_right
  have hbefore : held ⊆ s.held + held := Multiset.subset_add_right
  refine (decRef_safe h.balanced.left_comm).mono id fun blocks' hdec => ⟨⟨?_, hdec.1, ?_⟩, hdec.2.mono hleft⟩
  · exact h.inRange.of_keeps fun b hb => hdec.2 b (hleft hb)
  · exact (h.keeps.mono hbefore).trans (hdec.2.mono hright) (Multiset.Subset.refl held)

/-- `Assign`: the temporary shares its block with the target until it is destroyed. -/
theorem assign_safe (hbal : Balanced blocks (s.held + held)) (src : ByteArrayObject) (junk : Nat → UInt8) :
    Safe True (Owned blocks held) (s.assign blocks src junk) := by
  refine (construct_safe hbal src junk).bind ?_
  rintro ⟨blocks₁, obj⟩ hobj
  have hassign := copyAssign_safe hobj.balanced.left_comm Multiset.subset_add_left hobj.inRange
  refine (hassign.weaken fun _ => trivial).bind ?_
  rintro ⟨blocks₂, this⟩ ⟨hthis, -⟩
  refine (hthis.destroy.weaken False.elim).bind fun blocks₃ ⟨hown, _⟩ => ⟨hown.inRange, hown.balanced, ?_⟩
  exact (hobj.keeps.mono Multiset.subset_add_right).trans hown.keeps (Multiset.Subset.refl held)

/-- `operator+` on two slices that other objects hold. -/
theorem plus_safe (hbal : Balanced blocks held) (hs : s.InRange blocks) (ht : t.InRange blocks)
    (hsheld : s.held ⊆ held) (htheld : t.held ⊆ held) (junk : Nat → UInt8) :
    Safe (s.NoRoom t ∨ s.AtLimit held ∨ t.AtLimit (s.held + held))
      (fun made => Owned blocks held made ∧ made.2.bytes made.1 = s.bytes blocks ++ t.bytes blocks)
      (plus blocks s t junk) := by
  have hsub : held ⊆ s.held + held := Multiset.subset_add_right
  refine ((copyConstruct_safe hbal hsheld hs).weaken fun h => .inr (.inl h)).bind ?_
  rintro ⟨blocks₁, p1⟩ ⟨hown₁, rfl⟩
  have ht₁ : t.InRange blocks₁ := ht.of_keeps fun b hb => hown₁.keeps b (htheld hb)
  have hcopy := copyConstruct_safe hown₁.balanced (Multiset.Subset.trans htheld hsub) ht₁
  refine (hcopy.weaken fun h => .inr (.inr h)).bind ?_
  rintro ⟨blocks₂, p2⟩ ⟨hown₂, rfl⟩
  have hkeep₂ : KeepsContent held blocks blocks₂ := hown₁.keeps.trans hown₂.keeps hsub
  have hs₂ := hs.of_keeps fun b hb => hkeep₂ b (hsheld hb)
  have ht₂ := ht.of_keeps fun b hb => hkeep₂ b (htheld hb)
  refine ((plusBody_safe hown₂.balanced hs₂ ht₂ junk).weaken .inl).bind ?_
  rintro ⟨blocks₃, made⟩ ⟨hown₃, hbytes⟩
  refine (hown₃.destroy.weaken False.elim).bind fun blocks₄ ⟨hown₄, hkeep₄⟩ => ?_
  refine (hown₄.destroy.weaken False.elim).bind fun blocks₅ ⟨hown₅, hkeep₅⟩ => ?_
  refine ⟨⟨hown₅.inRange, hown₅.balanced, hkeep₂.trans hown₅.keeps (Multiset.Subset.refl held)⟩, ?_⟩
  have hmade : KeepsContent made.held blocks₃ blocks₅ := hkeep₄.trans hkeep₅ (Multiset.Subset.refl _)
  rw [bytes_of_keeps hmade, hbytes]
  rw [bytes_of_keeps fun b hb => hkeep₂ b (hsheld hb), bytes_of_keeps fun b hb => hkeep₂ b (htheld hb)]

end Owned

/-! ### The two representations -/

/-- The representation of a slice cannot be told from its behaviour. In a heap whose counts are right, for slices
that are held in it, inline or in a block, every operation does to the bytes what its name says; the size is
always the number of bytes. -/
theorem representations_indistinguishable (blocks : SliceBlocks) (held : Multiset Nat) (s t : SliceObject)
    (hbal : Balanced blocks held) (hs : s.InRange blocks) (ht : t.InRange blocks) (hsheld : s.held ⊆ held)
    (htheld : t.held ⊆ held) (n : UInt64) (str : ByteArrayObject) (junk : Nat → UInt8) :
    s.size.toNat = (s.bytes blocks).length ∧
    (s.popFront n).InRange blocks ∧
    (s.popFront n).bytes blocks = (s.bytes blocks).drop (min n.toNat s.size.toNat) ∧
    (s.popFront n).size.toNat = s.size.toNat - min n.toNat s.size.toNat ∧
    (s.popBack n).InRange blocks ∧
    (s.popBack n).bytes blocks = (s.bytes blocks).take (s.size.toNat - min n.toNat s.size.toNat) ∧
    (s.popBack n).size.toNat = s.size.toNat - min n.toNat s.size.toNat ∧
    s.equal blocks t = .ok (decide (s.bytes blocks = t.bytes blocks)) ∧
    s.compare blocks str = .ok (decide (s.bytes blocks = str.bytes)) ∧
    s.toString blocks = .ok (s.bytes blocks) ∧
    Safe (s.NoRoom t ∨ s.AtLimit held ∨ t.AtLimit (s.held + held))
      (fun made => made.2.InRange made.1 ∧ made.2.bytes made.1 = s.bytes blocks ++ t.bytes blocks ∧
        made.2.size.toNat = s.size.toNat + t.size.toNat)
      (plus blocks s t junk) := by
  have hlen := hs.length_bytes
  refine ⟨hlen.symm, hs.popFront n, hs.bytes_popFront n, ?_, hs.popBack n, hs.bytes_popBack n, ?_,
    hs.equal_eq ht, hs.compare_eq str, hs.read, ?_⟩
  · rw [← (hs.popFront n).length_bytes, hs.bytes_popFront, List.length_drop, hlen]
  · rw [← (hs.popBack n).length_bytes, hs.bytes_popBack, List.length_take, hlen]
    omega
  · refine (plus_safe hbal hs ht hsheld htheld junk).mono id fun made ⟨hown, hbytes⟩ => ⟨hown.inRange, hbytes, ?_⟩
    rw [← hown.inRange.length_bytes, hbytes, List.length_append, hlen, ht.length_bytes]

/-- A block of 24 bytes, a slice of its last three bytes, and an inline slice of two. -/
theorem shrunk_representations_indistinguishable :
    let blocks := CountedBlocks.alloc [] (List.replicate 24 (65 : UInt8))
    let s := SliceObject.refcounted 0 3 21
    let t := SliceObject.inlined 2 (66 :: 67 :: List.replicate 21 0)
    (s.popFront 1).bytes blocks = [65, 65] ∧ (t.popFront 1).bytes blocks = [67] ∧
      s.equal blocks t = .ok false ∧
      ∃ made, plus blocks s t (fun _ => 0) = .ok made ∧ made.2.bytes made.1 = [65, 65, 65, 66, 67] := by
  intro blocks s t
  have hbal : Balanced blocks {0} := balanced_nil.alloc _
  have hs : s.InRange blocks := ⟨_, rfl, by decide, by decide, by decide⟩
  have ht : t.InRange blocks := ⟨by decide, rfl⟩
  obtain ⟨-, -, hpop, -, -, -, -, hequal, -, -, hplus⟩ := representations_indistinguishable blocks {0} s t hbal hs
    ht (Multiset.Subset.refl _) (Multiset.zero_subset _) 1 ⟨[], Nat.zero_le _⟩ fun _ => 0
  obtain ⟨-, -, hpop', -⟩ := representations_indistinguishable blocks {0} t t hbal ht
    ht (Multiset.zero_subset _) (Multiset.zero_subset _) 1 ⟨[], Nat.zero_le _⟩ fun _ => 0
  have hlimit : ¬ (s.NoRoom t ∨ s.AtLimit {0} ∨ t.AtLimit (s.held + {0})) := by
    rintro (hroom | ⟨b, hb, hlimit⟩ | ⟨b, hb, -⟩)
    · exact absurd hroom (by unfold NoRoom; decide)
    · rw [Multiset.mem_singleton.mp hb] at hlimit
      exact absurd hlimit (by decide)
    · exact Multiset.notMem_zero b hb
  obtain ⟨made, hmade, -, hbytes, -⟩ := hplus.exists_ok hlimit
  exact ⟨hpop, hpop', hequal, made, hmade, hbytes⟩

end SliceObject

end RaptorLite
