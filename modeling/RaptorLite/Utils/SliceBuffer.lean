import RaptorLite.Utils.Slice

/-! # Slice buffers

`SliceBuffer` (`utils/slice_buffer.h`, `utils/slice_buffer.cc`) is a vector of slices with a cached
total length. The cached length is updated by every mutator on its own, as in the source, and the
structure carries the proof that it agrees with the slices; so the subtractions below never wrap, and
`MoveHeader` never looks at the front of an empty vector. Read as a byte string (`toBytes`), the
operations are append, take and drop. Room for a header and for merged slices is always there here; what happens
where `malloc` gives none is in `RawSliceBuffer`. -/

namespace RaptorLite

/-- The bytes of a vector of slices. -/
def bytesOf (vs : List Slice) : List UInt8 := (vs.map Slice.toBytes).flatten

/-- No slices, no bytes. -/
@[simp] theorem bytesOf_nil : bytesOf [] = [] := rfl

/-- The bytes of the first slice come first. -/
@[simp] theorem bytesOf_cons (s : Slice) (vs : List Slice) :
    bytesOf (s :: vs) = s.toBytes ++ bytesOf vs := rfl

/-- The bytes of two vectors in turn. -/
@[simp] theorem bytesOf_append (vs ws : List Slice) :
    bytesOf (vs ++ ws) = bytesOf vs ++ bytesOf ws := by
  simp [bytesOf]

/-- Dropping at least the whole first slice goes on in the rest. -/
theorem drop_bytesOf_cons {s : Slice} {len : Nat} (h : s.size ≤ len) (vs : List Slice) :
    (bytesOf (s :: vs)).drop len = (bytesOf vs).drop (len - s.size) := by
  rw [bytesOf_cons, List.drop_append, Slice.length_toBytes,
    List.drop_of_length_le (by rw [Slice.length_toBytes]; exact h), List.nil_append]

/-- `SliceBuffer`, with the cached length tied to the slices. -/
structure SliceBuffer where
  /-- `_vs`. -/
  vs : List Slice
  /-- `_length`. -/
  length : Nat
  /-- The cached length is the number of bytes held. -/
  length_eq : length = (bytesOf vs).length
  deriving DecidableEq

namespace SliceBuffer

/-- The byte string a buffer stands for. -/
def toBytes (b : SliceBuffer) : List UInt8 := bytesOf b.vs

/-- `SliceBuffer::GetBufferLength` is the length of the byte string. -/
@[simp] theorem length_toBytes (b : SliceBuffer) : b.toBytes.length = b.length :=
  b.length_eq.symm

/-- `SliceBuffer::SliceBuffer`, and what `ClearBuffer` leaves. -/
def empty : SliceBuffer := ⟨[], 0, rfl⟩

/-- The empty buffer has no bytes. -/
@[simp] theorem toBytes_empty : empty.toBytes = [] := rfl

/-- The empty buffer has no length. -/
@[simp] theorem length_empty : empty.length = 0 := rfl

/-- `SliceBuffer::AddSlice`. -/
def addSlice (b : SliceBuffer) (s : Slice) : SliceBuffer where
  vs := b.vs ++ [s]
  length := b.length + s.size
  length_eq := by simp [b.length_eq]

/-- `AddSlice` appends the bytes. -/
@[simp] theorem toBytes_addSlice (b : SliceBuffer) (s : Slice) :
    (b.addSlice s).toBytes = b.toBytes ++ s.toBytes := by
  simp [toBytes, addSlice]

/-- `AddSlice` adds the length. -/
@[simp] theorem length_addSlice (b : SliceBuffer) (s : Slice) :
    (b.addSlice s).length = b.length + s.size := rfl

/-! ### Copying out -/

/-- The loop of `SliceBuffer::CopyToBuffer`: copy `left` bytes of `vs` behind the first `pos` bytes
of `buf`; the bytes copied so far are returned with the buffer. -/
def copyLoop : List Slice → Slice → Nat → Nat → Slice × Nat
  | [], buf, pos, _ => (buf, pos)
  | it :: rest, buf, pos, left =>
      if left = 0 then (buf, pos)
      else
        let len := min left it.size
        copyLoop rest (buf.write pos (it.toBytes.take len)) (pos + len) (left - len)

/-- The copy loop keeps the size of its target. -/
theorem size_copyLoop (vs : List Slice) (buf : Slice) (pos left : Nat) :
    (copyLoop vs buf pos left).1.size = buf.size := by
  induction vs generalizing buf pos left with
  | nil => rfl
  | cons it rest ih =>
      rw [copyLoop]
      split
      · rfl
      · rw [ih, Slice.size_write]

/-- The copy loop appends the first `left` bytes of the vector to what was written before it. -/
theorem copyLoop_spec (vs : List Slice) (buf : Slice) (pos left : Nat)
    (hroom : pos + left ≤ buf.size) (hleft : left ≤ (bytesOf vs).length) :
    (copyLoop vs buf pos left).2 = pos + left ∧
      (copyLoop vs buf pos left).1.toBytes.take (pos + left)
        = buf.toBytes.take pos ++ (bytesOf vs).take left := by
  induction vs generalizing buf pos left with
  | nil =>
      have hzero : left = 0 := by simpa using hleft
      subst hzero
      simp [copyLoop]
  | cons it rest ih =>
      rw [copyLoop]
      by_cases hz : left = 0
      · subst hz
        simp
      · rw [if_neg hz]
        have hlen : (it.toBytes.take (min left it.size)).length = min left it.size := by
          rw [List.length_take, Slice.length_toBytes]
          omega
        have hrest : left - min left it.size ≤ (bytesOf rest).length := by
          rw [bytesOf_cons, List.length_append, Slice.length_toBytes] at hleft
          omega
        -- the rest of the loop starts behind the bytes of this slice
        have hstep := ih (buf.write pos (it.toBytes.take (min left it.size)))
          (pos + min left it.size) (left - min left it.size)
          (by rw [Slice.size_write]; omega) hrest
        have hsum : pos + min left it.size + (left - min left it.size) = pos + left := by omega
        rw [hsum] at hstep
        refine ⟨hstep.1, ?_⟩
        have hwrite := Slice.take_toBytes_write buf pos
          (it.toBytes.take (min left it.size)) (by rw [hlen]; omega)
        rw [hlen] at hwrite
        rw [hstep.2, hwrite, List.append_assoc, bytesOf_cons, List.take_append,
          Slice.length_toBytes]
        congr 2
        · rcases Nat.le_total left it.size with h | h
          · rw [Nat.min_eq_left h]
          · rw [Nat.min_eq_right h, List.take_of_length_le (by simp),
              List.take_of_length_le (by simpa using h)]
        · congr 1
          omega

/-- `SliceBuffer::GetHeader`. -/
def getHeader (b : SliceBuffer) (len : Nat) : Slice :=
  if len = 0 ∨ b.length < len then Slice.empty
  else (copyLoop b.vs (Slice.ofLength len) 0 len).1

/-- `GetHeader` returns the first `len` bytes when they are there, and nothing otherwise. -/
theorem toBytes_getHeader (b : SliceBuffer) (len : Nat) :
    (b.getHeader len).toBytes = if b.length < len then [] else b.toBytes.take len := by
  unfold getHeader
  by_cases hlt : b.length < len
  · rw [if_pos (Or.inr hlt), if_pos hlt, Slice.toBytes_empty]
  · rw [if_neg hlt]
    by_cases hz : len = 0
    · rw [if_pos (Or.inl hz), hz, List.take_zero, Slice.toBytes_empty]
    · rw [if_neg (by omega)]
      have hcopy := (copyLoop_spec b.vs (Slice.ofLength len) 0 len (by simp)
        (by rw [← b.length_eq]; omega)).2
      rw [Nat.zero_add, List.take_zero, List.nil_append] at hcopy
      have hsize : (copyLoop b.vs (Slice.ofLength len) 0 len).1.toBytes.length = len := by
        rw [Slice.length_toBytes, size_copyLoop, Slice.size_ofLength]
      rw [toBytes, ← hcopy, List.take_of_length_le (by omega)]

/-- The loop of `SliceBuffer::Merge`: copy every non-empty slice behind the previous one. -/
def mergeLoop : List Slice → Slice → Nat → Slice
  | [], ret, _ => ret
  | it :: rest, ret, pos =>
      if 0 < it.size then mergeLoop rest (ret.write pos it.toBytes) (pos + it.size)
      else mergeLoop rest ret pos

/-- The loop of `Merge` does not change the size. -/
theorem size_mergeLoop (vs : List Slice) (ret : Slice) (pos : Nat) :
    (mergeLoop vs ret pos).size = ret.size := by
  induction vs generalizing ret pos with
  | nil => rfl
  | cons it rest ih =>
      rw [mergeLoop]
      split
      · rw [ih, Slice.size_write]
      · exact ih ret pos

/-- The loop of `Merge` writes the slices one behind the other. -/
theorem mergeLoop_spec (vs : List Slice) (ret : Slice) (pos : Nat)
    (hroom : pos + (bytesOf vs).length ≤ ret.size) :
    (mergeLoop vs ret pos).toBytes.take (pos + (bytesOf vs).length)
      = ret.toBytes.take pos ++ bytesOf vs := by
  induction vs generalizing ret pos with
  | nil => simp [mergeLoop]
  | cons it rest ih =>
      have hlen : (bytesOf (it :: rest)).length = it.size + (bytesOf rest).length := by simp
      rw [mergeLoop]
      split
      · have hstep := ih (ret.write pos it.toBytes) (pos + it.size)
          (by rw [Slice.size_write]; omega)
        have hwrite := Slice.take_toBytes_write ret pos it.toBytes
          (by rw [Slice.length_toBytes]; omega)
        rw [Slice.length_toBytes] at hwrite
        rw [hlen, ← Nat.add_assoc, hstep, hwrite, bytesOf_cons, List.append_assoc]
      · next hzero =>
        -- an empty slice contributes no bytes
        have hnil : it.toBytes = [] := List.length_eq_zero_iff.mp (by simpa using hzero)
        have hsize : it.size = 0 := by omega
        rw [hlen, hsize, Nat.zero_add, ih ret pos (by omega), bytesOf_cons, hnil, List.nil_append]

/-- `SliceBuffer::Merge`, with its fast paths for no slice and for one slice. -/
def merge (b : SliceBuffer) : Slice :=
  match b.vs with
  | [] => Slice.empty
  | [s] => s
  | vs => mergeLoop vs (Slice.ofLength b.length) 0

/-- `Merge` returns all bytes. -/
@[simp] theorem toBytes_merge (b : SliceBuffer) : b.merge.toBytes = b.toBytes := by
  have hloop : (mergeLoop b.vs (Slice.ofLength b.length) 0).toBytes = bytesOf b.vs := by
    have hspec := mergeLoop_spec b.vs (Slice.ofLength b.length) 0
      (by rw [Slice.size_ofLength, ← b.length_eq]; omega)
    have hsize : (mergeLoop b.vs (Slice.ofLength b.length) 0).toBytes.length
        = b.length := by
      rw [Slice.length_toBytes, size_mergeLoop, Slice.size_ofLength]
    rw [Nat.zero_add, List.take_zero, List.nil_append, ← b.length_eq,
      List.take_of_length_le (by omega)] at hspec
    exact hspec
  unfold merge toBytes
  cases hvs : b.vs with
  | nil => simp
  | cons s vs =>
      cases vs with
      | nil => simp
      | cons t vs => rw [hvs] at hloop; exact hloop

/-! ### Dropping the header -/

/-- `SliceBuffer::MoveHeader` on `_vs` and `_length`, one call per slice it crosses. -/
def moveHeaderAux : List Slice → Nat → Nat → Bool × List Slice × Nat
  | [], length, len => (decide (len ≤ length), [], length)
  | it :: rest, length, len =>
      if length < len then (false, it :: rest, length)
      else if len = 0 then (true, it :: rest, length)
      else if len < it.size then (true, it.popFront len :: rest, length - len)
      else if it.size = len then (true, rest, length - len)
      else moveHeaderAux rest (length - it.size) (len - it.size)

/-- One induction for all of `MoveHeader`: when the cached length is right, the call succeeds exactly
on a header that is there, drops it, and leaves the cached length right. -/
theorem moveHeaderAux_spec (vs : List Slice) (length len : Nat)
    (hlen : length = (bytesOf vs).length) :
    (moveHeaderAux vs length len).1 = decide (len ≤ length) ∧
      bytesOf (moveHeaderAux vs length len).2.1
        = (if len ≤ length then (bytesOf vs).drop len else bytesOf vs) ∧
      (moveHeaderAux vs length len).2.2
        = (bytesOf (moveHeaderAux vs length len).2.1).length := by
  induction vs generalizing length len with
  | nil =>
      simp only [moveHeaderAux, bytesOf_nil, List.drop_nil, ite_self, true_and]
      exact hlen
  | cons it rest ih =>
      have hsplit : length = it.size + (bytesOf rest).length := by rw [hlen]; simp
      rw [moveHeaderAux]
      by_cases hlt : length < len
      · rw [if_pos hlt, if_neg (show ¬ len ≤ length by omega)]
        exact ⟨by simpa using hlt, rfl, hlen⟩
      have hle : len ≤ length := by omega
      rw [if_neg hlt, if_pos hle]
      by_cases hz : len = 0
      · rw [if_pos hz, hz, List.drop_zero]
        exact ⟨by simp, rfl, hlen⟩
      rw [if_neg hz]
      by_cases hin : len < it.size
      · -- the header ends inside the first slice
        rw [if_pos hin, bytesOf_cons, bytesOf_cons, Slice.toBytes_popFront,
          List.drop_append_of_le_length (by rw [Slice.length_toBytes]; omega)]
        refine ⟨by simp; omega, rfl, ?_⟩
        simp only [List.length_append, List.length_drop, Slice.length_toBytes]
        omega
      rw [if_neg hin]
      by_cases heq : it.size = len
      · -- the header is the first slice
        rw [if_pos heq, drop_bytesOf_cons (by omega), heq, Nat.sub_self, List.drop_zero]
        refine ⟨by simp; omega, rfl, ?_⟩
        simp only
        omega
      · -- the header reaches into the rest
        rw [if_neg heq]
        obtain ⟨hok, hbytes, hcache⟩ := ih (length - it.size) (len - it.size) (by omega)
        refine ⟨by rw [hok]; simp; omega, ?_, hcache⟩
        rw [hbytes, if_pos (show len - it.size ≤ length - it.size by omega),
          drop_bytesOf_cons (by omega)]

/-- `SliceBuffer::MoveHeader`: whether the header was there, and the buffer behind it. -/
def moveHeader (b : SliceBuffer) (len : Nat) : Bool × SliceBuffer :=
  ((moveHeaderAux b.vs b.length len).1,
    { vs := (moveHeaderAux b.vs b.length len).2.1
      length := (moveHeaderAux b.vs b.length len).2.2
      length_eq := (moveHeaderAux_spec b.vs b.length len b.length_eq).2.2 })

/-- `MoveHeader` succeeds exactly when the header is there. -/
theorem moveHeader_fst (b : SliceBuffer) (len : Nat) :
    (b.moveHeader len).1 = decide (len ≤ b.length) :=
  (moveHeaderAux_spec b.vs b.length len b.length_eq).1

/-- `MoveHeader` drops a header that is there. -/
theorem toBytes_moveHeader {b : SliceBuffer} {len : Nat} (h : len ≤ b.length) :
    (b.moveHeader len).2.toBytes = b.toBytes.drop len := by
  have hspec := (moveHeaderAux_spec b.vs b.length len b.length_eq).2.1
  rw [if_pos h] at hspec
  exact hspec

/-- The buffer behind a header is shorter by it. -/
theorem length_moveHeader {b : SliceBuffer} {len : Nat} (h : len ≤ b.length) :
    (b.moveHeader len).2.length = b.length - len := by
  rw [← length_toBytes, toBytes_moveHeader h, List.length_drop, length_toBytes]

/-! ### The slices behind a header -/

/-- `MoveHeader` drops whole slices and shortens one: a slice that is left is a slice of before, or a part
of one that has a byte. -/
theorem mem_moveHeader {b : SliceBuffer} {len : Nat} {s : Slice} (hs : s ∈ (b.moveHeader len).2.vs) :
    s ∈ b.vs ∨ ∃ t ∈ b.vs, 0 < s.size ∧ s.size ≤ t.size := by
  -- the induction is on the slices that `MoveHeader` crosses
  have haux : ∀ (vs : List Slice) (length len : Nat), s ∈ (moveHeaderAux vs length len).2.1 →
      s ∈ vs ∨ ∃ t ∈ vs, 0 < s.size ∧ s.size ≤ t.size := by
    intro vs
    induction vs with
    | nil =>
        intro length len hs
        cases hs
    | cons it rest ih =>
        intro length len hs
        rw [moveHeaderAux] at hs
        split at hs
        · exact Or.inl hs
        split at hs
        · exact Or.inl hs
        -- the header ends inside this slice, and a byte of it is left
        split at hs
        · next hin =>
            rcases List.mem_cons.mp hs with rfl | hs
            · refine Or.inr ⟨it, List.mem_cons_self, ?_⟩
              rw [Slice.size_popFront]
              omega
            · exact Or.inl (List.mem_cons_of_mem it hs)
        split at hs
        · exact Or.inl (List.mem_cons_of_mem it hs)
        · rcases ih _ _ hs with hs | ⟨t, ht, hsize⟩
          · exact Or.inl (List.mem_cons_of_mem it hs)
          · exact Or.inr ⟨t, List.mem_cons_of_mem it ht, hsize⟩
  exact haux b.vs b.length len hs

/-- No slice of the buffer is empty. -/
def NoEmpty (b : SliceBuffer) : Prop := ∀ s ∈ b.vs, 0 < s.size

/-- The empty buffer has no empty slice. -/
theorem noEmpty_empty : empty.NoEmpty := by
  intro s hs
  cases hs

/-- Adding a slice that is not empty. -/
theorem NoEmpty.addSlice {b : SliceBuffer} (h : b.NoEmpty) {s : Slice} (hs : 0 < s.size) :
    (b.addSlice s).NoEmpty := by
  intro t ht
  rcases List.mem_append.mp ht with ht | ht
  · exact h t ht
  · rw [List.mem_singleton.mp ht]
    exact hs

/-- `MoveHeader` leaves no empty slice. -/
theorem NoEmpty.moveHeader {b : SliceBuffer} (h : b.NoEmpty) (len : Nat) :
    (b.moveHeader len).2.NoEmpty := by
  intro s hs
  rcases mem_moveHeader hs with hs | ⟨t, -, hpos, -⟩
  · exact h s hs
  · exact hpos

/-- Without empty slices, a buffer has no bytes exactly when it has no slices. -/
theorem NoEmpty.length_eq_zero_iff {b : SliceBuffer} (h : b.NoEmpty) :
    b.vs = [] ↔ b.length = 0 := by
  rw [b.length_eq, List.length_eq_zero_iff]
  cases hvs : b.vs with
  | nil => simp
  | cons s rest =>
      -- the front slice has a byte
      have hpos := h s (by rw [hvs]; exact List.mem_cons_self)
      rw [← Slice.length_toBytes] at hpos
      simp only [bytesOf_cons, List.append_eq_nil_iff, reduceCtorEq, false_iff]
      intro hnil
      rw [hnil.1] at hpos
      exact Nat.lt_irrefl 0 hpos

/-! ### Dropping slices -/

/-- `SliceBuffer::PopFront`. -/
def popFront (b : SliceBuffer) : SliceBuffer :=
  match h : b.vs with
  | [] => b
  | it :: rest => ⟨rest, b.length - it.size, by rw [b.length_eq, h]; simp⟩

/-- `PopFront` removes the first slice. -/
theorem vs_popFront (b : SliceBuffer) : b.popFront.vs = b.vs.tail := by
  unfold popFront
  split
  · next h => rw [h, List.tail_nil]
  · next h => simp [h]

/-- `SliceBuffer::PopBack`. -/
def popBack (b : SliceBuffer) : SliceBuffer :=
  match h : b.vs.getLast? with
  | none => b
  | some it => ⟨b.vs.dropLast, b.length - it.size, by
      obtain ⟨ys, hys⟩ := List.getLast?_eq_some_iff.mp h
      rw [b.length_eq, hys]
      simp⟩

/-- `PopBack` removes the last slice. -/
theorem vs_popBack (b : SliceBuffer) : b.popBack.vs = b.vs.dropLast := by
  unfold popBack
  split
  · next h => rw [List.getLast?_eq_none_iff.mp h, List.dropLast_nil]
  · rfl

end SliceBuffer

end RaptorLite
