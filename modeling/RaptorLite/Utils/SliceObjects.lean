import Mathlib.Algebra.Group.Int.Defs
import Mathlib.Algebra.Group.Nat.Defs
import Mathlib.Data.Multiset.AddSub
import RaptorLite.Foundations.CountedBlocks
import RaptorLite.Utils.Slice

/-! # Slice objects

`Slice` objects as they lie in memory: the bytes of an inlined slice are in the object, those of a refcounted one
in a heap block that other objects may share. Lengths are `uint8_t` and `size_t` and every access to a block can
fail. An object seen together with the blocks is a slice in the sense of `SliceData`, and shrinking the object
is shrinking that slice. Storage that the source leaves uninitialised has any content (`junk`). -/

namespace RaptorLite

/-- The heap blocks of slices, with the bytes behind the count. -/
abbrev SliceBlocks := CountedBlocks (List UInt8)

/-- The counts are `int32_t`. -/
def int32Limit : Int := 2 ^ 31

/-- An array of bytes that is in memory, such as the contents of a `std::string`. -/
structure ByteArrayObject where
  /-- The bytes. -/
  bytes : List UInt8
  /-- It is not larger than an object can be. -/
  length_le : bytes.length ≤ ptrdiffMax

/-- `std::string::size`. -/
def ByteArrayObject.size (s : ByteArrayObject) : UInt64 := UInt64.ofNat s.bytes.length

/-- The size of an array that is in memory does not wrap. -/
theorem ByteArrayObject.toNat_size (s : ByteArrayObject) : s.size.toNat = s.bytes.length := by
  have hle := s.length_le
  rw [ptrdiffMax] at hle
  rw [ByteArrayObject.size, UInt64.toNat_ofNat', Nat.mod_eq_of_lt (by omega)]

/-- `malloc` of a block that starts with its count, and the construction of the count. -/
def mallocSlice (blocks : SliceBlocks) (size : UInt64) (junk : Nat → UInt8) :
    Except MemoryFault (SliceBlocks × Nat) :=
  if size.toNat ≤ ptrdiffMax then
    .ok (blocks.alloc (uninitialised (size.toNat - sliceRefCountSize.toNat) junk), blocks.length)
  else .error .limit

/-- `_refs` and `_data` of a `Slice`: the pointer decides which member of the union is live. -/
inductive SliceObject where
  /-- `_refs == nullptr`: a length byte and an array of 23 bytes. -/
  | inlined (length : UInt8) (bytes : List UInt8)
  /-- A block, the length, and the place in the block that `bytes` points to. -/
  | refcounted (refs : Nat) (length : UInt64) (start : Nat)
  deriving DecidableEq, Repr

namespace SliceObject

/-- `Slice::size`. -/
def size : SliceObject → UInt64
  | .inlined length _ => length.toUInt64
  | .refcounted _ length _ => length

/-- The first `n` bytes from `begin()` on. -/
def read (blocks : SliceBlocks) (s : SliceObject) (n : UInt64) : Except MemoryFault (List UInt8) :=
  match s with
  | .inlined _ bytes => if n.toNat ≤ bytes.length then .ok (bytes.take n.toNat) else .error .outside
  | .refcounted refs _ start =>
      (blocks.access refs).bind fun block =>
        if start + n.toNat ≤ block.content.length then .ok ((block.content.drop start).take n.toNat)
        else .error .outside

/-- `memcpy(Buffer() + pos, src, |src|)`. -/
def write (blocks : SliceBlocks) (s : SliceObject) (pos : Nat) (src : List UInt8) :
    Except MemoryFault (SliceBlocks × SliceObject) :=
  match s with
  | .inlined length bytes =>
      if pos + src.length ≤ bytes.length then .ok (blocks, .inlined length (overwrite bytes pos src))
      else .error .outside
  | .refcounted refs length start =>
      (blocks.access refs).bind fun block =>
        if start + pos + src.length ≤ block.content.length then
          (blocks.store refs (overwrite block.content (start + pos) src)).bind fun blocks =>
            .ok (blocks, .refcounted refs length start)
        else .error .outside

/-! ### Construction and destruction -/

/-- `Slice::Slice()`. -/
def empty : SliceObject := .inlined 0 (List.replicate sliceInlinedSize 0)

/-- `Slice::Slice(const char *ptr, size_t len)` with `ptr` null. -/
def constructNull (blocks : SliceBlocks) (len : UInt64) (junk : Nat → UInt8) :
    Except MemoryFault (SliceBlocks × SliceObject) :=
  if len = 0 then .ok (blocks, empty)
  else if len.toNat ≤ sliceInlinedSize then
    .ok (blocks, .inlined len.toUInt8 (uninitialised sliceInlinedSize junk))
  else
    (mallocSlice blocks (sliceRefCountSize + len) junk).bind fun (blocks, refs) =>
      .ok (blocks, .refcounted refs len 0)

/-- `Slice::Slice(const char *ptr, size_t len)` on the bytes at `ptr`, to which the constructors from a string
delegate. -/
def construct (blocks : SliceBlocks) (src : ByteArrayObject) (junk : Nat → UInt8) :
    Except MemoryFault (SliceBlocks × SliceObject) :=
  (constructNull blocks src.size junk).bind fun (blocks, s) => s.write blocks 0 src.bytes

/-- `MakeSliceByLength`: the object is zeroed, a block is not. -/
def makeSliceByLength (blocks : SliceBlocks) (len : UInt64) (junk : Nat → UInt8) :
    Except MemoryFault (SliceBlocks × SliceObject) :=
  if len.toNat ≤ sliceInlinedSize then
    .ok (blocks, .inlined len.toUInt8 (List.replicate sliceInlinedSize 0))
  else
    (mallocSlice blocks (sliceRefCountSize + len) junk).bind fun (blocks, refs) =>
      .ok (blocks, .refcounted refs len 0)

/-- `if (_refs) _refs->AddRef()`. -/
def addRef (blocks : SliceBlocks) : SliceObject → Except MemoryFault SliceBlocks
  | .inlined _ _ => .ok blocks
  | .refcounted refs _ _ => CountedBlocks.addRef int32Limit blocks refs

/-- `if (_refs) _refs->DecRef()`. -/
def decRef (blocks : SliceBlocks) : SliceObject → Except MemoryFault SliceBlocks
  | .inlined _ _ => .ok blocks
  | .refcounted refs _ _ => blocks.decRef refs

/-- `Slice::~Slice`. -/
def destroy (blocks : SliceBlocks) (s : SliceObject) : Except MemoryFault SliceBlocks := s.decRef blocks

/-- `Slice::Slice(const Slice &)`. -/
def copyConstruct (blocks : SliceBlocks) (oth : SliceObject) : Except MemoryFault (SliceBlocks × SliceObject) :=
  (oth.addRef blocks).bind fun blocks => .ok (blocks, oth)

/-- `Slice::Slice(Slice &&)`: the other slice keeps its pointer. -/
def moveConstruct (blocks : SliceBlocks) (oth : SliceObject) : Except MemoryFault (SliceBlocks × SliceObject) :=
  (oth.addRef blocks).bind fun blocks => .ok (blocks, oth)

/-- `Slice::operator=(const Slice &)` for different objects. -/
def copyAssign (blocks : SliceBlocks) (this oth : SliceObject) : Except MemoryFault (SliceBlocks × SliceObject) :=
  (this.decRef blocks).bind fun blocks => (oth.addRef blocks).bind fun blocks => .ok (blocks, oth)

/-- `Slice::operator=(Slice &&)` for different objects. -/
def moveAssign (blocks : SliceBlocks) (this oth : SliceObject) : Except MemoryFault (SliceBlocks × SliceObject) :=
  (oth.addRef blocks).bind fun blocks => (this.decRef blocks).bind fun blocks => .ok (blocks, oth)

/-- `Slice::Assign`. -/
def assign (blocks : SliceBlocks) (this : SliceObject) (s : ByteArrayObject) (junk : Nat → UInt8) :
    Except MemoryFault (SliceBlocks × SliceObject) :=
  (construct blocks s junk).bind fun (blocks, obj) =>
    (this.copyAssign blocks obj).bind fun (blocks, this) =>
      (obj.destroy blocks).bind fun blocks => .ok (blocks, this)

/-! ### Comparing, shrinking and joining -/

/-- `Slice::Compare`. -/
def compare (blocks : SliceBlocks) (this : SliceObject) (s : ByteArrayObject) : Except MemoryFault Bool :=
  if s.size = 0 ∧ this.size = 0 then .ok true
  else if s.size ≠ this.size then .ok false
  else (this.read blocks this.size).bind fun mine => .ok (mine = s.bytes)

/-- `Slice::operator==`. -/
def equal (blocks : SliceBlocks) (this s : SliceObject) : Except MemoryFault Bool :=
  if s.size = 0 ∧ this.size = 0 then .ok true
  else if s.size ≠ this.size then .ok false
  else
    (this.read blocks this.size).bind fun mine =>
      (s.read blocks this.size).bind fun other => .ok (mine = other)

/-- `Slice::ToString`. -/
def toString (blocks : SliceBlocks) (this : SliceObject) : Except MemoryFault (List UInt8) :=
  this.read blocks this.size

/-- The clamp at the head of `PopBack` and `PopFront`. -/
def clamp (s : SliceObject) (removeSize : UInt64) : UInt64 :=
  if s.size < removeSize then s.size else removeSize

/-- `Slice::PopBack`. -/
def popBack (s : SliceObject) (removeSize : UInt64) : SliceObject :=
  if removeSize = 0 then s
  else
    match s with
    | .inlined length bytes => .inlined (length - (s.clamp removeSize).toUInt8) bytes
    | .refcounted refs length start => .refcounted refs (length - s.clamp removeSize) start

/-- `Slice::PopFront`; the inline array is shifted by an overlapping `memmove`. -/
def popFront (s : SliceObject) (removeSize : UInt64) : SliceObject :=
  if removeSize = 0 then s
  else
    match s with
    | .inlined length bytes =>
        let length' := length - (s.clamp removeSize).toUInt8
        .inlined length' (overwrite bytes 0 ((bytes.drop (s.clamp removeSize).toNat).take length'.toNat))
    | .refcounted refs length start =>
        .refcounted refs (length - s.clamp removeSize) (start + (s.clamp removeSize).toNat)

/-- A part of `operator+`: `if (!src.Empty()) memcpy(buff, src.Buffer(), src.size())`. -/
def copyInto (blocks : SliceBlocks) (s : SliceObject) (pos : Nat) (src : SliceObject) :
    Except MemoryFault (SliceBlocks × SliceObject) :=
  if src.size ≠ 0 then (src.read blocks src.size).bind fun bytes => s.write blocks pos bytes
  else .ok (blocks, s)

/-- The body of `operator+` on its two parameters. -/
def plusBody (blocks : SliceBlocks) (s1 s2 : SliceObject) (junk : Nat → UInt8) :
    Except MemoryFault (SliceBlocks × SliceObject) :=
  if s1.size = 0 ∧ s2.size = 0 then .ok (blocks, empty)
  else
    (makeSliceByLength blocks (s1.size + s2.size) junk).bind fun (blocks, s) =>
      (copyInto blocks s 0 s1).bind fun (blocks, s) =>
        copyInto blocks s (if s1.size ≠ 0 then s1.size.toNat else 0) s2

/-- `operator+`: the parameters are copies, which live as long as the call. -/
def plus (blocks : SliceBlocks) (s1 s2 : SliceObject) (junk : Nat → UInt8) :
    Except MemoryFault (SliceBlocks × SliceObject) :=
  (s1.copyConstruct blocks).bind fun (blocks, p1) =>
    (s2.copyConstruct blocks).bind fun (blocks, p2) =>
      (plusBody blocks p1 p2 junk).bind fun (blocks, s) =>
        (p2.destroy blocks).bind fun blocks =>
          (p1.destroy blocks).bind fun blocks => .ok (blocks, s)

/-! ### Objects as slices -/

/-- The slice that an object is, given the blocks. -/
def data (blocks : SliceBlocks) : SliceObject → SliceData
  | .inlined length bytes => .inlined length bytes
  | .refcounted refs length start => .refcounted length.toNat ((blocks.content refs).getD []) start

/-- The byte string of a slice. -/
def bytes (blocks : SliceBlocks) (s : SliceObject) : List UInt8 := (s.data blocks).toBytes

/-- The references that an object holds. -/
def held : SliceObject → Multiset Nat
  | .inlined _ _ => 0
  | .refcounted refs _ _ => {refs}

/-- The live range is inside the inline array, respectively inside a block that is there. -/
def InRange (blocks : SliceBlocks) : SliceObject → Prop
  | .inlined length bytes => length.toNat ≤ sliceInlinedSize ∧ bytes.length = sliceInlinedSize
  | .refcounted refs length start =>
      ∃ content, blocks.content refs = some content ∧ start + length.toNat ≤ content.length ∧
        sliceInlinedSize < content.length ∧ content.length + sliceRefCountSize.toNat ≤ ptrdiffMax

section InRange

variable {blocks blocks' : SliceBlocks} {s t : SliceObject}

/-- An object in range is a well-formed slice. -/
theorem InRange.wellFormed (h : s.InRange blocks) : (s.data blocks).WellFormed := by
  cases s with
  | inlined length bytes => exact h
  | refcounted refs length start =>
      obtain ⟨content, hcontent, hin, hbig, -⟩ := h
      rw [data, hcontent]
      exact ⟨hin, hbig⟩

/-- The size read from the object is that of the slice. -/
theorem toNat_size (blocks : SliceBlocks) (s : SliceObject) : s.size.toNat = (s.data blocks).size := by
  cases s with
  | inlined length bytes => exact UInt8.toNat_toUInt64 length
  | refcounted refs length start => rfl

/-- There are `size()` bytes. -/
theorem InRange.length_bytes (h : s.InRange blocks) : (s.bytes blocks).length = s.size.toNat := by
  rw [bytes, SliceData.length_toBytes h.wellFormed, toNat_size blocks]

/-- The size of a slice is that of a part of an object. -/
theorem InRange.size_le (h : s.InRange blocks) : s.size.toNat + sliceRefCountSize.toNat ≤ ptrdiffMax := by
  cases s with
  | inlined length bytes =>
      rw [toNat_size blocks]
      have hlen : length.toNat ≤ 23 := h.1
      have hmax : 23 + sliceRefCountSize.toNat ≤ ptrdiffMax := by decide
      exact Nat.le_trans (Nat.add_le_add_right hlen _) hmax
  | refcounted refs length start =>
      obtain ⟨content, -, hin, -, hmax⟩ := h
      have hlen : length.toNat ≤ content.length := by omega
      exact Nat.le_trans (Nat.add_le_add_right hlen _) hmax

/-- Only the block of a slice matters. -/
theorem InRange.of_keeps (h : s.InRange blocks) (hkeep : ∀ b ∈ s.held, blocks'.content b = blocks.content b) :
    s.InRange blocks' := by
  cases s with
  | inlined length bytes => exact h
  | refcounted refs length start =>
      obtain ⟨content, hcontent, hrest⟩ := h
      exact ⟨content, by rw [hkeep refs (Multiset.mem_singleton_self refs), hcontent], hrest⟩

/-- The bytes are the same as long as the object's own block is. -/
theorem bytes_of_keeps (hkeep : ∀ b ∈ s.held, blocks'.content b = blocks.content b) :
    s.bytes blocks' = s.bytes blocks := by
  cases s with
  | inlined length bytes => rfl
  | refcounted refs length start =>
      rw [bytes, bytes, data, data, hkeep refs (Multiset.mem_singleton_self refs)]

/-- The bytes of a slice can be read. -/
theorem InRange.read (h : s.InRange blocks) : s.read blocks s.size = .ok (s.bytes blocks) := by
  cases s with
  | inlined length bytes =>
      have hsize : (SliceObject.inlined length bytes).size.toNat = length.toNat := toNat_size blocks _
      rw [SliceObject.read, hsize, if_pos (by rw [h.2]; exact h.1)]
      rfl
  | refcounted refs length start =>
      obtain ⟨content, hcontent, hin, -⟩ := h
      obtain ⟨block, haccess, rfl⟩ := CountedBlocks.access_of_content hcontent
      have hbytes : bytes blocks (.refcounted refs length start) = (block.content.drop start).take length.toNat := by
        rw [bytes, data, hcontent]
        rfl
      rw [SliceObject.read, haccess, hbytes]
      exact if_pos hin

/-! ### Shrinking -/

/-- The clamp does not wrap. -/
theorem toNat_clamp (blocks : SliceBlocks) (s : SliceObject) (n : UInt64) :
    (s.clamp n).toNat = (s.data blocks).clamp n.toNat := by
  have hiff : s.size < n ↔ (s.data blocks).size < n.toNat := by
    rw [UInt64.lt_iff_toNat_lt, toNat_size blocks]
  unfold clamp SliceData.clamp
  by_cases hlt : s.size < n
  · rw [if_pos hlt, if_pos (hiff.mp hlt), toNat_size blocks]
  · rw [if_neg hlt, if_neg fun h => hlt (hiff.mpr h)]

/-- Narrowing to a byte is reduction modulo 256. -/
theorem toUInt8_eq (n : UInt64) : n.toUInt8 = UInt8.ofNat n.toNat := by
  apply UInt8.toNat_inj.mp
  rw [UInt64.toNat_toUInt8, UInt8.toNat_ofNat']

/-- What is left of a length does not wrap. -/
theorem toNat_size_sub_clamp (blocks : SliceBlocks) (s : SliceObject) (n : UInt64) :
    (s.size - s.clamp n).toNat = (s.data blocks).size - (s.data blocks).clamp n.toNat := by
  have hclamp := toNat_clamp blocks s n
  have hle := SliceData.clamp_le_size (s.data blocks) n.toNat
  have hle' : s.clamp n ≤ s.size := by
    rw [UInt64.le_iff_toNat_le, hclamp, toNat_size blocks]
    exact hle
  rw [UInt64.toNat_sub_of_le _ _ hle', hclamp, toNat_size blocks]

/-- `PopBack` on the object is the one on the slice. -/
theorem data_popBack (blocks : SliceBlocks) (s : SliceObject) (n : UInt64) :
    (s.popBack n).data blocks = (s.data blocks).popBack n.toNat := by
  have hclamp := toNat_clamp blocks s n
  unfold popBack SliceData.popBack
  by_cases hn : n = 0
  · rw [if_pos hn, if_pos (by rw [hn]; rfl)]
  · have hn' : n.toNat ≠ 0 := fun h => hn (UInt64.toNat_inj.mp h)
    rw [if_neg hn, if_neg hn']
    cases s with
    | inlined length bytes =>
        simp only [data] at hclamp ⊢
        rw [toUInt8_eq, hclamp]
    | refcounted refs length start =>
        have hleft := toNat_size_sub_clamp blocks (.refcounted refs length start) n
        simp only [data, size, SliceData.size] at hleft ⊢
        rw [hleft]

/-- `PopFront` on the object is `PopFront` on the slice. -/
theorem data_popFront (blocks : SliceBlocks) (s : SliceObject) (n : UInt64) :
    (s.popFront n).data blocks = (s.data blocks).popFront n.toNat := by
  have hclamp := toNat_clamp blocks s n
  unfold popFront SliceData.popFront
  by_cases hn : n = 0
  · rw [if_pos hn, if_pos (by rw [hn]; rfl)]
  · have hn' : n.toNat ≠ 0 := fun h => hn (UInt64.toNat_inj.mp h)
    rw [if_neg hn, if_neg hn']
    cases s with
    | inlined length bytes =>
        simp only [data] at hclamp ⊢
        rw [toUInt8_eq, hclamp]
    | refcounted refs length start =>
        have hleft := toNat_size_sub_clamp blocks (.refcounted refs length start) n
        simp only [data, size, SliceData.size] at hclamp hleft ⊢
        rw [hleft, hclamp]

/-- `PopBack` keeps the reference. -/
theorem held_popBack (s : SliceObject) (n : UInt64) : (s.popBack n).held = s.held := by
  unfold popBack
  split
  · rfl
  · cases s <;> rfl

/-- `PopFront` keeps the reference. -/
theorem held_popFront (s : SliceObject) (n : UInt64) : (s.popFront n).held = s.held := by
  unfold popFront
  split
  · rfl
  · cases s <;> rfl

/-- An object whose slice is well formed and in the same block. -/
theorem InRange.of_data (h : s.InRange blocks) (hheld : t.held = s.held) (hwf : (t.data blocks).WellFormed) :
    t.InRange blocks := by
  cases t with
  | inlined length bytes => exact hwf
  | refcounted refs length start =>
      cases s with
      | inlined length' bytes' => exact absurd hheld (Multiset.singleton_ne_zero refs)
      | refcounted refs' length' start' =>
          obtain ⟨content, hcontent, -, -, hmax⟩ := h
          obtain rfl : refs = refs' := Multiset.singleton_inj.mp hheld
          rw [data, hcontent] at hwf
          exact ⟨content, hcontent, hwf.1, hwf.2, hmax⟩

/-- `PopBack` stays in range. -/
theorem InRange.popBack (h : s.InRange blocks) (n : UInt64) : (s.popBack n).InRange blocks := by
  apply h.of_data (held_popBack s n)
  rw [data_popBack]
  exact h.wellFormed.popBack n.toNat

/-- `PopFront` stays in range. -/
theorem InRange.popFront (h : s.InRange blocks) (n : UInt64) : (s.popFront n).InRange blocks := by
  apply h.of_data (held_popFront s n)
  rw [data_popFront]
  exact h.wellFormed.popFront n.toNat

/-- `PopBack` drops bytes at the back, at most all of them. -/
theorem InRange.bytes_popBack (h : s.InRange blocks) (n : UInt64) :
    (s.popBack n).bytes blocks = (s.bytes blocks).take (s.size.toNat - min n.toNat s.size.toNat) := by
  rw [bytes, data_popBack, SliceData.toBytes_popBack h.wellFormed, toNat_size blocks, bytes]
  congr 1
  omega

/-- `PopFront` drops bytes at the front, at most all of them. -/
theorem InRange.bytes_popFront (h : s.InRange blocks) (n : UInt64) :
    (s.popFront n).bytes blocks = (s.bytes blocks).drop (min n.toNat s.size.toNat) := by
  rw [bytes, data_popFront, SliceData.toBytes_popFront h.wellFormed, ← bytes]
  by_cases hn : n.toNat ≤ s.size.toNat
  · rw [Nat.min_eq_left hn]
  · -- more than there is
    rw [Nat.min_eq_right (by omega), List.drop_of_length_le (by rw [h.length_bytes]; omega),
      List.drop_of_length_le (by rw [h.length_bytes])]

/-! ### Comparing -/

/-- The tests of the sizes in `Compare` and `operator==` are a shortcut of equal bytes. -/
theorem sizes_shortcut {mine other : List UInt8} {m n : UInt64} (hm : mine.length = m.toNat)
    (hn : other.length = n.toNat) {r : Except MemoryFault Bool} (hr : n = m → r = .ok (decide (mine = other))) :
    (if n = 0 ∧ m = 0 then .ok true else if n ≠ m then .ok false else r) = .ok (decide (mine = other)) := by
  split
  · next hempty =>
    have hmine : mine = [] := List.length_eq_zero_iff.mp (by rw [hm, hempty.2]; rfl)
    have hother : other = [] := List.length_eq_zero_iff.mp (by rw [hn, hempty.1]; rfl)
    rw [hmine, hother]
    rfl
  · split
    · next hne =>
      have hbytes : mine ≠ other := by
        intro heq
        apply hne
        apply UInt64.toNat_inj.mp
        rw [← hn, ← heq, hm]
      rw [decide_eq_false hbytes]
    · next heq => exact hr (not_not.mp heq)

/-- `Compare` with a string compares the bytes. -/
theorem InRange.compare_eq (h : s.InRange blocks) (str : ByteArrayObject) :
    s.compare blocks str = .ok (decide (s.bytes blocks = str.bytes)) := by
  refine sizes_shortcut h.length_bytes str.toNat_size.symm fun _ => ?_
  rw [h.read]
  rfl

/-- `operator==` compares the bytes. -/
theorem InRange.equal_eq (hs : s.InRange blocks) (ht : t.InRange blocks) :
    s.equal blocks t = .ok (decide (s.bytes blocks = t.bytes blocks)) := by
  refine sizes_shortcut hs.length_bytes ht.length_bytes fun heq => ?_
  rw [hs.read, ← heq, ht.read]
  rfl

end InRange

end SliceObject

end RaptorLite
