import Mathlib.Algebra.Group.Nat.Defs
import Mathlib.Data.List.Basic

/-! # Slices

`Slice` (`utils/slice.h`, `utils/slice.cc`) is a byte string in one of two representations: at most
`SLICE_INLINED_SIZE` bytes kept inside the object, or a pointer and a length into a reference counted
heap block. Which one is used is decided at construction only, so a heap slice may shrink to any
length. `SliceData` keeps both representations and every length update as the source computes it;
`Slice` adds the proof that the live range is inside its storage. The reference counts themselves are
not part of a slice's value.

Memory that the source leaves uninitialised (the rest of an inline array, a block fresh from `malloc`)
is zero here; all callers overwrite it before it can be read. -/

namespace RaptorLite

/-- `memcpy(mem + pos, src, |src|)`: the bytes of `src` replace those of `mem` from `pos` on. -/
def overwrite (mem : List UInt8) (pos : Nat) (src : List UInt8) : List UInt8 :=
  mem.take pos ++ src ++ mem.drop (pos + src.length)

/-- An overwrite inside the memory does not change its size. -/
theorem length_overwrite {mem src : List UInt8} {pos : Nat} (h : pos + src.length ≤ mem.length) :
    (overwrite mem pos src).length = mem.length := by
  simp only [overwrite, List.length_append, List.length_take, List.length_drop]
  omega

/-- Reading up to the end of an overwrite gives the old bytes before it and the written bytes. -/
theorem take_overwrite (mem : List UInt8) (pos : Nat) (src : List UInt8)
    (h : pos + src.length ≤ mem.length) :
    (overwrite mem pos src).take (pos + src.length) = mem.take pos ++ src := by
  have hlen : (mem.take pos ++ src).length = pos + src.length := by
    rw [List.length_append, List.length_take]
    omega
  rw [overwrite, ← hlen, List.take_left]

/-- Two overwrites one behind the other, from the start. -/
theorem overwrite_overwrite (mem a b : List UInt8) :
    overwrite (overwrite mem 0 a) a.length b = a ++ b ++ mem.drop (a.length + b.length) := by
  have hdrop : (overwrite mem 0 a).drop (a.length + b.length) = mem.drop (a.length + b.length) := by
    rw [overwrite, List.take_zero, List.nil_append, Nat.zero_add, ← List.drop_drop, List.drop_left, List.drop_drop]
  have htake : (overwrite mem 0 a).take a.length = a := by
    rw [overwrite, List.take_zero, List.nil_append, List.take_left]
  rw [overwrite, hdrop, htake]

/-- Past its first `start` bytes, an overwrite behind them is an overwrite of the rest. -/
theorem drop_overwrite {mem src : List UInt8} {start pos : Nat}
    (h : start + pos + src.length ≤ mem.length) :
    (overwrite mem (start + pos) src).drop start = overwrite (mem.drop start) pos src := by
  simp only [overwrite, List.drop_append, List.drop_take, List.drop_drop, List.length_take,
    List.length_append]
  have h₁ : start - min (start + pos) mem.length = 0 := by omega
  have h₂ : start - (min (start + pos) mem.length + src.length) = 0 := by omega
  rw [h₁, h₂, List.drop_zero, Nat.add_sub_cancel_left]
  simp only [Nat.add_assoc, Nat.add_zero]

/-- Uninitialised storage. -/
def uninitialised (n : Nat) (junk : Nat → UInt8) : List UInt8 := (List.range n).map junk

/-- As much storage as was asked for. -/
@[simp] theorem length_uninitialised (n : Nat) (junk : Nat → UInt8) : (uninitialised n junk).length = n := by
  rw [uninitialised, List.length_map, List.length_range]

/-- `SLICE_INLINED_SIZE`. -/
def sliceInlinedSize : Nat := 23

/-- `PTRDIFF_MAX`: no object is larger, and `malloc` refuses to make one. -/
def ptrdiffMax : Nat := 2 ^ 63 - 1

/-- `sizeof(SliceRefCount)`. -/
def sliceRefCountSize : UInt64 := 4

/-- `Slice::_refs` and `union slice_data`: the pointer decides which member of the union is live. -/
inductive SliceData where
  /-- `_refs == nullptr`: a length byte and an array of 23 bytes. -/
  | inlined (length : UInt8) (bytes : List UInt8)
  /-- A heap block, with the live range given by its length and its start in the block. -/
  | refcounted (length : Nat) (block : List UInt8) (start : Nat)
  deriving DecidableEq, Repr

namespace SliceData

/-- The live range lies inside the inline array, respectively inside a block that was too long to be
inlined. -/
def WellFormed : SliceData → Prop
  | .inlined length bytes => length.toNat ≤ sliceInlinedSize ∧ bytes.length = sliceInlinedSize
  | .refcounted length block start => start + length ≤ block.length ∧ sliceInlinedSize < block.length

/-- `Slice::size`. -/
def size : SliceData → Nat
  | .inlined length _ => length.toNat
  | .refcounted length _ _ => length

/-- The bytes from `begin()` to `end()`. -/
def toBytes : SliceData → List UInt8
  | .inlined length bytes => bytes.take length.toNat
  | .refcounted length block start => (block.drop start).take length

/-- There are `size()` bytes between `begin()` and `end()`. -/
theorem length_toBytes {d : SliceData} (wf : d.WellFormed) : d.toBytes.length = d.size := by
  cases d with
  | inlined length bytes =>
      obtain ⟨hlen, hbytes⟩ := wf
      simp only [toBytes, size, List.length_take]
      omega
  | refcounted length block start =>
      obtain ⟨hin, -⟩ := wf
      simp only [toBytes, size, List.length_take, List.length_drop]
      omega

/-- A length of at most 23 survives the cast to `uint8_t`. -/
theorem toNat_ofNat_inlined {n : Nat} (h : n ≤ sliceInlinedSize) : (UInt8.ofNat n).toNat = n := by
  have hn : n < 256 := Nat.lt_of_le_of_lt h (by decide)
  rw [UInt8.toNat_ofNat', Nat.mod_eq_of_lt hn]

/-- The `uint8_t` subtraction of an inline length does not wrap. -/
theorem toNat_sub_inlined {length : UInt8} {n : Nat} (hlen : length.toNat ≤ sliceInlinedSize)
    (hn : n ≤ length.toNat) : (length - UInt8.ofNat n).toNat = length.toNat - n := by
  have hcast : (UInt8.ofNat n).toNat = n := toNat_ofNat_inlined (by omega)
  rw [UInt8.toNat_sub_of_le _ _ (by rw [UInt8.le_iff_toNat_le, hcast]; exact hn), hcast]

/-! ### Construction -/

/-- `Slice::Slice(const char *ptr, size_t len)` on the bytes at `ptr`. -/
def ofBytes (bs : List UInt8) : SliceData :=
  if bs.length = 0 then .inlined 0 (List.replicate sliceInlinedSize 0)
  else if bs.length ≤ sliceInlinedSize then
    .inlined (UInt8.ofNat bs.length) (bs ++ List.replicate (sliceInlinedSize - bs.length) 0)
  else .refcounted bs.length bs 0

/-- A slice made of bytes is well formed. -/
theorem wellFormed_ofBytes (bs : List UInt8) : (ofBytes bs).WellFormed := by
  unfold ofBytes
  split
  · exact ⟨Nat.zero_le _, List.length_replicate⟩
  · split
    · next h =>
      refine ⟨by rw [toNat_ofNat_inlined h]; exact h, ?_⟩
      rw [List.length_append, List.length_replicate]
      omega
    · exact ⟨by omega, by omega⟩

/-- A slice made of bytes shows those bytes. -/
theorem toBytes_ofBytes (bs : List UInt8) : (ofBytes bs).toBytes = bs := by
  unfold ofBytes
  split
  · next h => rw [List.length_eq_zero_iff.mp h]; rfl
  · split
    · next h =>
      simp only [toBytes, toNat_ofNat_inlined h]
      rw [List.take_left]
    · simp only [toBytes, List.drop_zero, List.take_length]

/-- Room for `len` bytes, in a block of its own where they are too many to be inlined. -/
def ofLength (len : Nat) : SliceData :=
  if len ≤ sliceInlinedSize then
    .inlined (UInt8.ofNat len) (List.replicate sliceInlinedSize 0)
  else .refcounted len (List.replicate len 0) 0

/-- Room for bytes is well formed. -/
theorem wellFormed_ofLength (len : Nat) : (ofLength len).WellFormed := by
  unfold ofLength
  split
  · next h => exact ⟨by rw [toNat_ofNat_inlined h]; exact h, List.length_replicate⟩
  · simp only [WellFormed, List.length_replicate]
    omega

/-- There is room for exactly that many. -/
theorem size_ofLength (len : Nat) : (ofLength len).size = len := by
  unfold ofLength
  split
  · next h => exact toNat_ofNat_inlined h
  · rfl

/-! ### Writing through `Buffer()` -/

/-- `memcpy(Buffer() + pos, src, |src|)` into the slice's own storage; a copy that does not fit is not
made (the source has no such call). -/
def write (d : SliceData) (pos : Nat) (src : List UInt8) : SliceData :=
  if pos + src.length ≤ d.size then
    match d with
    | .inlined length bytes => .inlined length (overwrite bytes pos src)
    | .refcounted length block start =>
        .refcounted length (overwrite block (start + pos) src) start
  else d

/-- A write keeps the live range inside the storage. -/
theorem WellFormed.write {d : SliceData} (wf : d.WellFormed) (pos : Nat) (src : List UInt8) :
    (d.write pos src).WellFormed := by
  unfold SliceData.write
  split
  · next h =>
    cases d with
    | inlined length bytes =>
        obtain ⟨hlen, hbytes⟩ := wf
        simp only [size] at h
        exact ⟨hlen, by rw [length_overwrite (by omega), hbytes]⟩
    | refcounted length block start =>
        obtain ⟨hin, hbig⟩ := wf
        simp only [size] at h
        simp only [WellFormed]
        rw [length_overwrite (by omega)]
        exact ⟨hin, hbig⟩
  · exact wf

/-- A write does not change the size. -/
theorem size_write (d : SliceData) (pos : Nat) (src : List UInt8) :
    (d.write pos src).size = d.size := by
  unfold write
  split
  · cases d <;> rfl
  · rfl

/-- After a write that fits, the bytes up to its end are the old ones before it and the written ones. -/
theorem take_toBytes_write {d : SliceData} (wf : d.WellFormed) {pos : Nat} {src : List UInt8}
    (h : pos + src.length ≤ d.size) :
    (d.write pos src).toBytes.take (pos + src.length) = d.toBytes.take pos ++ src := by
  cases d with
  | inlined length bytes =>
      obtain ⟨hlen, hbytes⟩ := wf
      rw [write, if_pos h]
      simp only [size] at h
      simp only [toBytes, List.take_take]
      rw [Nat.min_eq_left h, take_overwrite _ _ _ (by omega), Nat.min_eq_left (by omega)]
  | refcounted length block start =>
      obtain ⟨hin, -⟩ := wf
      rw [write, if_pos h]
      simp only [size] at h
      simp only [toBytes, List.take_take]
      rw [drop_overwrite (by omega), Nat.min_eq_left h,
        take_overwrite _ _ _ (by rw [List.length_drop]; omega), Nat.min_eq_left (by omega)]

/-- A write into an inlined slice. -/
theorem write_inlined {length : UInt8} {bytes src : List UInt8} {pos : Nat} (h : pos + src.length ≤ length.toNat) :
    (SliceData.inlined length bytes).write pos src = .inlined length (overwrite bytes pos src) :=
  if_pos h

/-- A write into a block. -/
theorem write_refcounted {length start pos : Nat} {block src : List UInt8} (h : pos + src.length ≤ length) :
    (SliceData.refcounted length block start).write pos src =
      .refcounted length (overwrite block (start + pos) src) start :=
  if_pos h

/-- Writing nothing changes nothing. -/
theorem write_nil {d : SliceData} {pos : Nat} : d.write pos [] = d := by
  have hnil : ∀ (mem : List UInt8) (pos : Nat), overwrite mem pos [] = mem := by
    intro mem pos
    rw [overwrite, List.append_nil, List.length_nil, Nat.add_zero, List.take_append_drop]
  unfold write
  split
  · cases d with
    | inlined length bytes => simp only [hnil]
    | refcounted length block start => simp only [hnil]
  · rfl

/-! ### Uninitialised storage -/

/-- `Slice::Slice(const char *ptr, size_t len)` with `ptr` null. -/
def constructNull (len : Nat) (junk : Nat → UInt8) : SliceData :=
  if len = 0 then .inlined 0 (List.replicate sliceInlinedSize 0)
  else if len ≤ sliceInlinedSize then .inlined (UInt8.ofNat len) (uninitialised sliceInlinedSize junk)
  else .refcounted len (uninitialised len junk) 0

/-- `Slice::Slice(const char *ptr, size_t len)`, in storage that held something before. -/
def construct (bs : List UInt8) (junk : Nat → UInt8) : SliceData := (constructNull bs.length junk).write 0 bs

/-- `MakeSliceByLength` of a length for which there is a block: the object is zeroed, a block is not. -/
def makeSliceByLengthOver (len : Nat) (junk : Nat → UInt8) : SliceData :=
  if len ≤ sliceInlinedSize then .inlined (UInt8.ofNat len) (List.replicate sliceInlinedSize 0)
  else .refcounted len (uninitialised len junk) 0

/-- `operator+`. -/
def plus (s1 s2 : SliceData) (junk : Nat → UInt8) : SliceData :=
  if s1.size = 0 ∧ s2.size = 0 then .inlined 0 (List.replicate sliceInlinedSize 0)
  else ((makeSliceByLengthOver (s1.size + s2.size) junk).write 0 s1.toBytes).write s1.size s2.toBytes

/-- The constructor without bytes makes a well-formed slice. -/
theorem wellFormed_constructNull (len : Nat) (junk : Nat → UInt8) : (constructNull len junk).WellFormed := by
  unfold constructNull
  split
  · exact ⟨Nat.zero_le _, List.length_replicate⟩
  · split
    · next h => exact ⟨by rw [toNat_ofNat_inlined h]; exact h, length_uninitialised _ _⟩
    · simp only [WellFormed, length_uninitialised]
      omega

/-- The constructor without bytes makes a slice of that length. -/
theorem size_constructNull (len : Nat) (junk : Nat → UInt8) : (constructNull len junk).size = len := by
  unfold constructNull
  split
  · next h => exact h.symm
  · split
    · next h => exact toNat_ofNat_inlined h
    · rfl

/-- `MakeSliceByLength` makes a well-formed slice. -/
theorem wellFormed_makeSliceByLengthOver (len : Nat) (junk : Nat → UInt8) :
    (makeSliceByLengthOver len junk).WellFormed := by
  unfold makeSliceByLengthOver
  split
  · next h => exact ⟨by rw [toNat_ofNat_inlined h]; exact h, List.length_replicate⟩
  · simp only [WellFormed, length_uninitialised]
    omega

/-- `MakeSliceByLength` makes a slice of that length. -/
theorem size_makeSliceByLengthOver (len : Nat) (junk : Nat → UInt8) : (makeSliceByLengthOver len junk).size = len := by
  unfold makeSliceByLengthOver
  split
  · next h => exact toNat_ofNat_inlined h
  · rfl

/-- A slice filled from the start is what was written. -/
theorem toBytes_write_all {d : SliceData} (wf : d.WellFormed) {src : List UInt8} (h : src.length = d.size) :
    (d.write 0 src).toBytes = src := by
  have htake := take_toBytes_write wf (show 0 + src.length ≤ d.size by omega)
  rw [List.take_zero, List.nil_append, Nat.zero_add] at htake
  have hlen : (d.write 0 src).toBytes.length = src.length := by
    rw [length_toBytes (wf.write 0 src), size_write, h]
  rwa [List.take_of_length_le (Nat.le_of_eq hlen)] at htake

/-- The constructor copies the bytes, whatever the storage held before. -/
theorem toBytes_construct (bs : List UInt8) (junk : Nat → UInt8) : (construct bs junk).toBytes = bs :=
  toBytes_write_all (wellFormed_constructNull bs.length junk) (size_constructNull bs.length junk).symm

/-- The constructor makes a well-formed slice. -/
theorem wellFormed_construct (bs : List UInt8) (junk : Nat → UInt8) : (construct bs junk).WellFormed :=
  (wellFormed_constructNull bs.length junk).write 0 bs

/-- `operator+` makes a well-formed slice. -/
theorem wellFormed_plus {s1 s2 : SliceData} (junk : Nat → UInt8) : (plus s1 s2 junk).WellFormed := by
  unfold plus
  split
  · exact ⟨Nat.zero_le _, List.length_replicate⟩
  · exact ((wellFormed_makeSliceByLengthOver _ junk).write _ _).write _ _

/-- `operator+` joins the bytes. -/
theorem toBytes_plus {s1 s2 : SliceData} (wf1 : s1.WellFormed) (wf2 : s2.WellFormed) (junk : Nat → UInt8) :
    (plus s1 s2 junk).toBytes = s1.toBytes ++ s2.toBytes := by
  have hlen1 := length_toBytes wf1
  have hlen2 := length_toBytes wf2
  unfold plus
  split
  · next hempty =>
    rw [List.length_eq_zero_iff.mp (hlen1.trans hempty.1), List.length_eq_zero_iff.mp (hlen2.trans hempty.2)]
    rfl
  · have hwf := wellFormed_makeSliceByLengthOver (s1.size + s2.size) junk
    have hsize := size_makeSliceByLengthOver (s1.size + s2.size) junk
    have hsize₁ := size_write (makeSliceByLengthOver (s1.size + s2.size) junk) 0 s1.toBytes
    have htake₁ := take_toBytes_write hwf (show 0 + s1.toBytes.length ≤ _ by rw [hlen1, hsize]; omega)
    have htake₂ := take_toBytes_write (hwf.write 0 s1.toBytes)
      (show s1.size + s2.toBytes.length ≤ _ from Nat.le_of_eq (by rw [hlen2, hsize₁, hsize]))
    rw [Nat.zero_add, List.take_zero, List.nil_append, hlen1] at htake₁
    rw [htake₁, hlen2] at htake₂
    rw [← htake₂]
    -- nothing comes behind
    apply (List.take_of_length_le (Nat.le_of_eq _)).symm
    rw [length_toBytes ((hwf.write _ _).write _ _), size_write, hsize₁, hsize]

/-- The storage from `begin()` on: what is behind the bytes comes into view. -/
def storage : SliceData → List UInt8
  | .inlined _ bytes => bytes
  | .refcounted _ block start => block.drop start

/-- The storage of a slice that was constructed: an inline one keeps what its array held before. -/
theorem storage_construct {bs : List UInt8} (h : bs ≠ []) (junk : Nat → UInt8) :
    (construct bs junk).storage = bs ++ (uninitialised sliceInlinedSize junk).drop bs.length := by
  have hne : bs.length ≠ 0 := fun hlen => h (List.length_eq_zero_iff.mp hlen)
  rw [construct, constructNull, if_neg hne]
  by_cases hlen : bs.length ≤ sliceInlinedSize
  · have hcast := toNat_ofNat_inlined hlen
    rw [if_pos hlen, write_inlined (by omega)]
    simp only [storage, overwrite, List.take_zero, List.nil_append, Nat.zero_add]
  · -- the block is overwritten as a whole
    have hblock : (uninitialised bs.length junk).drop bs.length = [] :=
      List.drop_of_length_le (Nat.le_of_eq (length_uninitialised bs.length junk))
    have harray : (uninitialised sliceInlinedSize junk).drop bs.length = [] :=
      List.drop_of_length_le (by rw [length_uninitialised]; omega)
    rw [if_neg hlen, write_refcounted (by omega)]
    simp only [storage, overwrite, List.take_zero, List.nil_append, Nat.zero_add, hblock, harray, List.drop_zero]

/-- The storage of a slice that was joined: the rest of an inline array is zero. -/
theorem storage_plus {s1 s2 : SliceData} (wf1 : s1.WellFormed) (wf2 : s2.WellFormed) (junk : Nat → UInt8) :
    (plus s1 s2 junk).storage =
      s1.toBytes ++ s2.toBytes ++ List.replicate (sliceInlinedSize - (s1.toBytes ++ s2.toBytes).length) 0 := by
  have hlen1 := length_toBytes wf1
  have hlen2 := length_toBytes wf2
  rw [List.length_append]
  unfold plus
  split
  · next hempty =>
    rw [List.length_eq_zero_iff.mp (hlen1.trans hempty.1), List.length_eq_zero_iff.mp (hlen2.trans hempty.2)]
    rfl
  · rw [makeSliceByLengthOver]
    by_cases hlen : s1.size + s2.size ≤ sliceInlinedSize
    · have hcast := toNat_ofNat_inlined hlen
      rw [if_pos hlen, write_inlined (by omega), write_inlined (by omega), storage, ← hlen1, overwrite_overwrite,
        List.drop_replicate]
    · have hblock : (uninitialised (s1.size + s2.size) junk).drop (s1.size + s2.size) = [] :=
        List.drop_of_length_le (Nat.le_of_eq (length_uninitialised (s1.size + s2.size) junk))
      have hzero : sliceInlinedSize - (s1.toBytes.length + s2.toBytes.length) = 0 := by omega
      rw [if_neg hlen, write_refcounted (by omega), write_refcounted (by omega), storage, List.drop_zero,
        Nat.zero_add, Nat.zero_add, hzero, ← hlen1, overwrite_overwrite, hlen1, hlen2, hblock]
      rfl

/-! ### Shrinking -/

/-- The clamp at the head of `PopBack` and `PopFront`: never more than there is. -/
def clamp (d : SliceData) (removeSize : Nat) : Nat :=
  if d.size < removeSize then d.size else removeSize

/-- The clamp does not exceed the size. -/
theorem clamp_le_size (d : SliceData) (n : Nat) : d.clamp n ≤ d.size := by
  unfold clamp
  split <;> omega

/-- The clamp is the smaller of the two. -/
theorem clamp_eq_min (d : SliceData) (n : Nat) : d.clamp n = min n d.size := by
  unfold clamp
  split <;> omega

/-- `Slice::PopBack`. -/
def popBack (d : SliceData) (removeSize : Nat) : SliceData :=
  if removeSize = 0 then d
  else
    match d with
    | .inlined length bytes => .inlined (length - UInt8.ofNat (d.clamp removeSize)) bytes
    | .refcounted length block start => .refcounted (length - d.clamp removeSize) block start

/-- `Slice::PopFront`; the inline array is shifted by an overlapping `memmove`. -/
def popFront (d : SliceData) (removeSize : Nat) : SliceData :=
  if removeSize = 0 then d
  else
    match d with
    | .inlined length bytes =>
        let length' := length - UInt8.ofNat (d.clamp removeSize)
        .inlined length' (overwrite bytes 0 ((bytes.drop (d.clamp removeSize)).take length'.toNat))
    | .refcounted length block start =>
        .refcounted (length - d.clamp removeSize) block (start + d.clamp removeSize)

/-- `PopBack` keeps the live range inside the storage. -/
theorem WellFormed.popBack {d : SliceData} (wf : d.WellFormed) (n : Nat) :
    (d.popBack n).WellFormed := by
  unfold SliceData.popBack
  split
  · exact wf
  · cases d with
    | inlined length bytes =>
        have hr := clamp_le_size (.inlined length bytes) n
        refine ⟨?_, wf.2⟩
        rw [toNat_sub_inlined wf.1 hr]
        exact Nat.le_trans (Nat.sub_le _ _) wf.1
    | refcounted length block start =>
        exact ⟨Nat.le_trans (Nat.add_le_add_left (Nat.sub_le _ _) _) wf.1, wf.2⟩

/-- `PopFront` keeps the live range inside the storage. -/
theorem WellFormed.popFront {d : SliceData} (wf : d.WellFormed) (n : Nat) :
    (d.popFront n).WellFormed := by
  unfold SliceData.popFront
  split
  · exact wf
  · cases d with
    | inlined length bytes =>
        have hr := clamp_le_size (.inlined length bytes) n
        obtain ⟨hlen, hbytes⟩ := wf
        have hsub := toNat_sub_inlined hlen hr
        refine ⟨by rw [hsub]; omega, ?_⟩
        rw [length_overwrite, hbytes]
        rw [List.length_take, hsub]
        omega
    | refcounted length block start =>
        have hr := clamp_le_size (.refcounted length block start) n
        simp only [size] at hr
        exact ⟨by have := wf.1; omega, wf.2⟩

/-- `PopBack` drops bytes at the back. -/
theorem toBytes_popBack {d : SliceData} (wf : d.WellFormed) (n : Nat) :
    (d.popBack n).toBytes = d.toBytes.take (d.size - n) := by
  unfold popBack
  split
  · next h => rw [h, Nat.sub_zero, ← length_toBytes wf, List.take_length]
  · cases d with
    | inlined length bytes =>
        have hr := clamp_le_size (.inlined length bytes) n
        have hmin := clamp_eq_min (.inlined length bytes) n
        simp only [toBytes]
        rw [toNat_sub_inlined wf.1 hr, List.take_take, hmin]
        simp only [size]
        congr 1
        omega
    | refcounted length block start =>
        have hmin := clamp_eq_min (.refcounted length block start) n
        simp only [toBytes, List.take_take, hmin, size]
        congr 1
        omega

/-- `PopFront` drops bytes at the front. -/
theorem toBytes_popFront {d : SliceData} (wf : d.WellFormed) (n : Nat) :
    (d.popFront n).toBytes = d.toBytes.drop n := by
  unfold popFront
  split
  · next h => rw [h, List.drop_zero]
  · cases d with
    | inlined length bytes =>
        have hr := clamp_le_size (.inlined length bytes) n
        have hmin := clamp_eq_min (.inlined length bytes) n
        obtain ⟨hlen, hbytes⟩ := wf
        have hsub := toNat_sub_inlined hlen hr
        simp only [size] at hr hmin
        -- what `memmove` wrote is exactly the new live range
        have hmoved : ((bytes.drop (clamp (.inlined length bytes) n)).take
            (length.toNat - clamp (.inlined length bytes) n)).length
              = length.toNat - clamp (.inlined length bytes) n := by
          rw [List.length_take, List.length_drop]
          omega
        simp only [toBytes, hsub]
        have htake := take_overwrite bytes 0
          ((bytes.drop (clamp (.inlined length bytes) n)).take
            (length.toNat - clamp (.inlined length bytes) n)) (by rw [hmoved]; omega)
        rw [Nat.zero_add, hmoved] at htake
        rw [htake, List.take_zero, List.nil_append, List.drop_take, hmin]
        by_cases hn : n ≤ length.toNat
        · rw [Nat.min_eq_left hn]
        · rw [Nat.min_eq_right (by omega), Nat.sub_self, Nat.sub_eq_zero_of_le (by omega),
            List.take_zero, List.take_zero]
    | refcounted length block start =>
        have hmin := clamp_eq_min (.refcounted length block start) n
        simp only [size] at hmin
        simp only [toBytes, hmin, List.drop_take, List.drop_drop]
        by_cases hn : n ≤ length
        · rw [Nat.min_eq_left hn]
        · rw [Nat.min_eq_right (by omega), Nat.sub_self, Nat.sub_eq_zero_of_le (by omega),
            List.take_zero, List.take_zero]

end SliceData

/-- A slice, with the proof that its live range is inside its storage. -/
structure Slice where
  /-- The representation. -/
  data : SliceData
  /-- The live range is inside the storage. -/
  wf : data.WellFormed
  deriving DecidableEq

namespace Slice

/-- `Slice::size`. -/
def size (s : Slice) : Nat := s.data.size

/-- The bytes from `begin()` to `end()`. -/
def toBytes (s : Slice) : List UInt8 := s.data.toBytes

/-- `Slice::Slice(const char *ptr, size_t len)` on the bytes at `ptr`. -/
def ofBytes (bs : List UInt8) : Slice := ⟨.ofBytes bs, SliceData.wellFormed_ofBytes bs⟩

/-- `Slice::Slice()`. -/
def empty : Slice := ofBytes []

/-- Room for `len` bytes. -/
def ofLength (len : Nat) : Slice := ⟨.ofLength len, SliceData.wellFormed_ofLength len⟩

/-- `sizeof(SliceRefCount) + len` in `size_t`: the size that `malloc` is asked for. -/
def blockSize (len : Nat) : Nat := (sliceRefCountSize.toNat + len) % 2 ^ 64

/-- `MakeSliceByLength`. There is no slice where `malloc` refuses the size, and none where the size has wrapped, so
that the count is constructed in a block that is too short for it. -/
def makeSliceByLength (len : Nat) : Option Slice :=
  if len ≤ sliceInlinedSize then some (ofLength len)
  else if blockSize len ≤ ptrdiffMax ∧ sliceRefCountSize.toNat + len ≤ blockSize len then some (ofLength len)
  else none

/-- The count and `len` bytes behind it are not larger than an object can be. -/
def BlockFits (len : Nat) : Prop := sliceRefCountSize.toNat + len ≤ ptrdiffMax

instance (len : Nat) : Decidable (BlockFits len) := inferInstanceAs (Decidable (_ ≤ _))

/-- `memcpy` into `Buffer() + pos`. -/
def write (s : Slice) (pos : Nat) (src : List UInt8) : Slice :=
  ⟨s.data.write pos src, s.wf.write pos src⟩

/-- `Slice::PopBack`. -/
def popBack (s : Slice) (removeSize : Nat) : Slice :=
  ⟨s.data.popBack removeSize, s.wf.popBack removeSize⟩

/-- `Slice::PopFront`. -/
def popFront (s : Slice) (removeSize : Nat) : Slice :=
  ⟨s.data.popFront removeSize, s.wf.popFront removeSize⟩

/-- `size()` is the number of bytes. -/
@[simp] theorem length_toBytes (s : Slice) : s.toBytes.length = s.size :=
  SliceData.length_toBytes s.wf

/-- A slice made of bytes shows those bytes. -/
@[simp] theorem toBytes_ofBytes (bs : List UInt8) : (ofBytes bs).toBytes = bs :=
  SliceData.toBytes_ofBytes bs

/-- A slice made of bytes is as long as they are. -/
@[simp] theorem size_ofBytes (bs : List UInt8) : (ofBytes bs).size = bs.length := by
  rw [← length_toBytes, toBytes_ofBytes]

/-- The empty slice has no bytes. -/
@[simp] theorem toBytes_empty : empty.toBytes = [] := toBytes_ofBytes []

/-- There is room for exactly that many. -/
@[simp] theorem size_ofLength (len : Nat) : (ofLength len).size = len := SliceData.size_ofLength len

/-- A length that fits does not wrap, and `malloc` gives the block. -/
theorem makeSliceByLength_eq {len : Nat} (h : BlockFits len) : makeSliceByLength len = some (ofLength len) := by
  have hmax : ptrdiffMax < 2 ^ 64 := by decide
  have hsize : blockSize len = sliceRefCountSize.toNat + len := Nat.mod_eq_of_lt (Nat.lt_of_le_of_lt h hmax)
  unfold makeSliceByLength
  split
  · rfl
  · rw [if_pos ⟨hsize ▸ h, Nat.le_of_eq hsize.symm⟩]

/-- A `size_t` length that does not fit makes no slice: its size is refused, or it wraps. -/
theorem makeSliceByLength_eq_none {len : Nat} (h : ¬ BlockFits len) : makeSliceByLength len = none := by
  have hmax : sliceRefCountSize.toNat + sliceInlinedSize ≤ ptrdiffMax := by decide
  rw [BlockFits] at h
  rw [makeSliceByLength, if_neg (by omega), if_neg (by omega)]

/-- A write does not change the size. -/
@[simp] theorem size_write (s : Slice) (pos : Nat) (src : List UInt8) :
    (s.write pos src).size = s.size :=
  SliceData.size_write s.data pos src

/-- After a write that fits, the bytes up to its end are the old ones before it and the written
ones. -/
theorem take_toBytes_write (s : Slice) (pos : Nat) (src : List UInt8)
    (h : pos + src.length ≤ s.size) :
    (s.write pos src).toBytes.take (pos + src.length) = s.toBytes.take pos ++ src :=
  SliceData.take_toBytes_write s.wf h

/-- `PopBack` drops bytes at the back. -/
@[simp] theorem toBytes_popBack (s : Slice) (n : Nat) :
    (s.popBack n).toBytes = s.toBytes.take (s.size - n) :=
  SliceData.toBytes_popBack s.wf n

/-- `PopFront` drops bytes at the front. -/
@[simp] theorem toBytes_popFront (s : Slice) (n : Nat) : (s.popFront n).toBytes = s.toBytes.drop n :=
  SliceData.toBytes_popFront s.wf n

/-- `PopFront` shortens by as much as is asked for, at most by everything. -/
@[simp] theorem size_popFront (s : Slice) (n : Nat) : (s.popFront n).size = s.size - n := by
  rw [← length_toBytes, toBytes_popFront, List.length_drop, length_toBytes]

end Slice

end RaptorLite
