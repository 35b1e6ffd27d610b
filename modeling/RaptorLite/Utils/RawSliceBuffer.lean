import Mathlib.Algebra.Group.Nat.Defs
import Mathlib.Data.List.Induction
import RaptorLite.Foundations.Machine
import RaptorLite.Utils.SliceBuffer

/-! # Slice buffers as they lie in memory

`SliceBuffer` carries the proof that its cached length is right. Here the two members of the C++ class
(`utils/slice_buffer.cc`) are kept without that proof: `_vs`, with its capacity, and a `size_t` that every mutator
adds to or subtracts from modulo `2 ^ 64`. `MoveHeader` on an empty vector and a failing assertion in `CopyToBuffer`
are stuck, and so are a slice for which `malloc` gives no block and a read of an element that `push_back` has moved.
How the vector grows is left to the library, so the new capacity is a parameter.

Along every sequence of calls that return and keep the total length below `2 ^ 64`, the members are those of a
`SliceBuffer` on which the same calls are made, and read as a byte string the calls are append, take, drop and clear.
The next call returns exactly when it asks for no block that `malloc` refuses and passes no element of a full
vector. -/

namespace RaptorLite

/-! ### The class -/

/-- `_vs` and `_length`. -/
structure RawSliceBuffer where
  /-- `_vs`. -/
  vs : List Slice
  /-- `_length`, a `size_t`. -/
  length : Nat
  /-- `_vs.capacity()`. -/
  capacity : Nat
  deriving DecidableEq

/-- What the reference `s` of `AddSlice(const Slice &s)` is bound to. -/
inductive SliceArgument where
  /-- An object outside of the buffer. -/
  | object (s : Slice)
  /-- An element of the buffer, such as `Front()`, `Back()` or `At(i)`. -/
  | element (i : Nat)

/-- `a += b` on `size_t`. -/
def sizeAdd (a b : Nat) : Nat := (a + b) % 2 ^ 64

/-- `a -= b` on `size_t`. -/
def sizeSub (a b : Nat) : Nat := (a + 2 ^ 64 - b) % 2 ^ 64

/-- A sum below 2^64 does not wrap. -/
theorem sizeAdd_eq {a b : Nat} (h : a + b < 2 ^ 64) : sizeAdd a b = a + b := Nat.mod_eq_of_lt h

/-- A difference of sizes does not wrap. -/
theorem sizeSub_eq {a b : Nat} (hle : b ≤ a) (ha : a < 2 ^ 64) : sizeSub a b = a - b := by
  have hsum : a + 2 ^ 64 - b = (a - b) + 2 ^ 64 := by omega
  rw [sizeSub, hsum, Nat.add_mod_right, Nat.mod_eq_of_lt (by omega)]

namespace RawSliceBuffer

/-- The concatenation of the slices. -/
def toBytes (b : RawSliceBuffer) : List UInt8 := bytesOf b.vs

/-- The vector has no room for another element: `push_back` moves it. -/
def Full (b : RawSliceBuffer) : Prop := b.capacity ≤ b.vs.length

instance (b : RawSliceBuffer) : Decidable b.Full := inferInstanceAs (Decidable (_ ≤ _))

/-- The capacity behind a `push_back`. -/
def pushedCapacity (grow : Nat → Nat) (b : RawSliceBuffer) : Nat := if b.Full then grow b.capacity else b.capacity

/-- `_vs.push_back(s)` and `_length += size`. -/
def pushBack (grow : Nat → Nat) (b : RawSliceBuffer) (s : Slice) : RawSliceBuffer :=
  ⟨b.vs ++ [s], sizeAdd b.length s.size, b.pushedCapacity grow⟩

/-- `SliceBuffer::AddSlice`. The size is read behind `push_back`, which frees the element of a full vector that the
reference is bound to. -/
def addSlice (grow : Nat → Nat) (b : RawSliceBuffer) : SliceArgument → Option RawSliceBuffer
  | .object s => some (b.pushBack grow s)
  | .element i => if b.Full then none else (b.vs[i]?).map (b.pushBack grow)

/-- `SliceBuffer::CopyToBuffer`: the buffer written to and the number of bytes copied. -/
def copyToBuffer (b : RawSliceBuffer) (buffer : Slice) (length : Nat) : Option (Slice × Nat) :=
  if length ≤ b.length then some (SliceBuffer.copyLoop b.vs buffer 0 length) else none

/-- `SliceBuffer::GetHeader`. -/
def getHeader (b : RawSliceBuffer) (len : Nat) : Option Slice :=
  if len = 0 ∨ b.length < len then some Slice.empty
  else (Slice.makeSliceByLength len).bind fun s => (b.copyToBuffer s len).map Prod.fst

/-- `SliceBuffer::Merge`. -/
def merge (b : RawSliceBuffer) : Option Slice :=
  match b.vs with
  | [] => some Slice.empty
  | [s] => some s
  | vs => (Slice.makeSliceByLength b.length).map fun ret => SliceBuffer.mergeLoop vs ret 0

/-- `SliceBuffer::MoveHeader` on the two members, one call per slice it crosses. -/
def moveHeaderRec (vs : List Slice) (length len : Nat) : Option (Bool × List Slice × Nat) :=
  if length < len then some (false, vs, length)
  else if len = 0 then some (true, vs, length)
  else
    match vs with
    -- `_vs.begin()` is read
    | [] => none
    | it :: rest =>
        if len < it.size then some (true, it.popFront len :: rest, sizeSub length len)
        else if it.size = len then some (true, rest, sizeSub length len)
        else moveHeaderRec rest (sizeSub length it.size) (len - it.size)

/-- `SliceBuffer::MoveHeader`. -/
def moveHeader (b : RawSliceBuffer) (len : Nat) : Option (Bool × RawSliceBuffer) :=
  (moveHeaderRec b.vs b.length len).map fun (ok, vs, length) => (ok, ⟨vs, length, b.capacity⟩)

/-- `SliceBuffer::PopFront`. -/
def popFront (b : RawSliceBuffer) : RawSliceBuffer :=
  match b.vs with
  | [] => b
  | it :: rest => ⟨rest, sizeSub b.length it.size, b.capacity⟩

/-- `SliceBuffer::PopBack`. -/
def popBack (b : RawSliceBuffer) : RawSliceBuffer :=
  match b.vs.getLast? with
  | none => b
  | some it => ⟨b.vs.dropLast, sizeSub b.length it.size, b.capacity⟩

/-- `SliceBuffer::ClearBuffer`: the vector keeps its storage. -/
def clearBuffer (b : RawSliceBuffer) : RawSliceBuffer := ⟨[], 0, b.capacity⟩

/-- `SliceBuffer::SliceBuffer`. -/
def empty : RawSliceBuffer := ⟨[], 0, 0⟩

end RawSliceBuffer

/-! ### Sequences of calls -/

/-- A call on a buffer. -/
inductive SliceBufferCall where
  /-- `AddSlice`. -/
  | addSlice (arg : SliceArgument)
  /-- `GetHeader`. -/
  | getHeader (len : Nat)
  /-- `MoveHeader`. -/
  | moveHeader (len : Nat)
  /-- `Merge`. -/
  | merge
  /-- `PopFront`. -/
  | popFront
  /-- `PopBack`. -/
  | popBack
  /-- `ClearBuffer`. -/
  | clearBuffer

/-- What a call returns. -/
inductive SliceBufferReply where
  /-- Nothing. -/
  | void
  /-- A slice. -/
  | slice (s : Slice)
  /-- A truth value. -/
  | bool (b : Bool)

namespace RawSliceBuffer

/-- Make a call. -/
def exec (grow : Nat → Nat) (b : RawSliceBuffer) : SliceBufferCall → Option (SliceBufferReply × RawSliceBuffer)
  | .addSlice arg => (b.addSlice grow arg).map fun b' => (.void, b')
  | .getHeader len => (b.getHeader len).map fun s => (.slice s, b)
  | .moveHeader len => (b.moveHeader len).map fun (ok, b') => (.bool ok, b')
  | .merge => b.merge.map fun s => (.slice s, b)
  | .popFront => some (.void, b.popFront)
  | .popBack => some (.void, b.popBack)
  | .clearBuffer => some (.void, b.clearBuffer)

/-- The slice that is passed to `AddSlice`, where there is one. -/
def slice (b : RawSliceBuffer) : SliceArgument → Option Slice
  | .object s => some s
  | .element i => b.vs[i]?

/-- A slice that is passed exists, and the total length stays a `size_t` value. -/
def Fits (b : RawSliceBuffer) : SliceBufferCall → Prop
  | .addSlice arg => ∃ s, b.slice arg = some s ∧ b.toBytes.length + s.size < 2 ^ 64
  | _ => True

/-- An element is passed only while there is room for another one, and a header or a merged slice is not too long for
a block. -/
def Safe (b : RawSliceBuffer) : SliceBufferCall → Prop
  | .addSlice (.element _) => ¬ b.Full
  | .getHeader len => len ≤ b.length → Slice.BlockFits len
  | .merge => 2 ≤ b.vs.length → Slice.BlockFits b.length
  | _ => True

end RawSliceBuffer

/-- A buffer as a machine that starts empty. -/
def sliceBufferMachine (grow : Nat → Nat) : Machine RawSliceBuffer SliceBufferCall where
  init := .empty
  step b call := (b.exec grow call).map Prod.snd

/-! ### Agreement with the checked buffers -/

namespace SliceBuffer

/-- The members of a checked buffer whose vector has that capacity. -/
def raw (b : SliceBuffer) (capacity : Nat) : RawSliceBuffer := ⟨b.vs, b.length, capacity⟩

variable {b : SliceBuffer} {capacity : Nat}

/-- The bytes of a buffer do not depend on the capacity of its vector. -/
@[simp] theorem toBytes_raw (b : SliceBuffer) (capacity : Nat) : (b.raw capacity).toBytes = b.toBytes := rfl

/-- Adding a slice behind which the total length is still a `size_t` value. -/
theorem raw_pushBack (grow : Nat → Nat) {s : Slice} (h : b.length + s.size < 2 ^ 64) :
    (b.raw capacity).pushBack grow s = (b.addSlice s).raw ((b.raw capacity).pushedCapacity grow) :=
  congrArg (RawSliceBuffer.mk (b.vs ++ [s]) · ((b.raw capacity).pushedCapacity grow)) (sizeAdd_eq h)

/-- The assertion of `CopyToBuffer` holds where the bytes are there, and that many are copied. -/
theorem raw_copyToBuffer {len : Nat} (h : len ≤ b.length) {buffer : Slice} (hroom : buffer.size = len) :
    ∃ s, (b.raw capacity).copyToBuffer buffer len = some (s, len) ∧ s.toBytes = b.toBytes.take len := by
  obtain ⟨hcount, hbytes⟩ := copyLoop_spec b.vs buffer 0 len (by omega) (by rw [← b.length_eq]; exact h)
  rw [Nat.zero_add] at hcount
  rw [Nat.zero_add, List.take_zero, List.nil_append] at hbytes
  have hsize : (copyLoop b.vs buffer 0 len).1.toBytes.length = len := by
    rw [Slice.length_toBytes, size_copyLoop, hroom]
  refine ⟨(copyLoop b.vs buffer 0 len).1, ?_, ?_⟩
  · rw [RawSliceBuffer.copyToBuffer, if_pos (show len ≤ (b.raw capacity).length from h)]
    exact congrArg some (Prod.ext rfl hcount)
  · rw [toBytes, ← hbytes, List.take_of_length_le (by omega)]

/-- A header for which there is a block. -/
theorem raw_getHeader {len : Nat} (hfits : len ≤ b.length → Slice.BlockFits len) :
    (b.raw capacity).getHeader len = some (b.getHeader len) := by
  unfold RawSliceBuffer.getHeader getHeader
  by_cases hnone : len = 0 ∨ b.length < len
  · rw [if_pos (show len = 0 ∨ (b.raw capacity).length < len from hnone), if_pos hnone]
  · have hle : len ≤ b.length := by omega
    rw [if_neg (show ¬ (len = 0 ∨ (b.raw capacity).length < len) from hnone), if_neg hnone,
      Slice.makeSliceByLength_eq (hfits hle), Option.bind_some, RawSliceBuffer.copyToBuffer,
      if_pos (show len ≤ (b.raw capacity).length from hle), Option.map_some]
    rfl

/-- A header that is there, for which `malloc` gives no block. -/
theorem raw_getHeader_eq_none {len : Nat} (hle : len ≤ b.length) (hfits : ¬ Slice.BlockFits len) :
    (b.raw capacity).getHeader len = none := by
  have hne : len ≠ 0 := by
    rintro rfl
    exact hfits (by decide)
  have hthere : ¬ (len = 0 ∨ (b.raw capacity).length < len) := not_or.mpr ⟨hne, Nat.not_lt.mpr hle⟩
  rw [RawSliceBuffer.getHeader, if_neg hthere, Slice.makeSliceByLength_eq_none hfits]
  rfl

/-- Merging slices that are few, or for which there is a block. -/
theorem raw_merge (hfits : 2 ≤ b.vs.length → Slice.BlockFits b.length) :
    (b.raw capacity).merge = some b.merge := by
  unfold RawSliceBuffer.merge merge raw
  match hvs : b.vs with
  | [] => rfl
  | [s] => rfl
  | s :: t :: vs =>
      have hlen : 2 ≤ b.vs.length := by
        rw [hvs]
        exact Nat.le_add_left 2 vs.length
      simp only [Slice.makeSliceByLength_eq (hfits hlen), Option.map_some]

/-- Merging several slices for which `malloc` gives no block. -/
theorem raw_merge_eq_none (hlen : 2 ≤ b.vs.length) (hfits : ¬ Slice.BlockFits b.length) :
    (b.raw capacity).merge = none := by
  unfold RawSliceBuffer.merge raw
  match hvs : b.vs with
  | [] => simp [hvs] at hlen
  | [s] => simp [hvs] at hlen
  | s :: t :: vs => simp only [Slice.makeSliceByLength_eq_none hfits, Option.map_none]

/-- The recursion of `MoveHeader` never reads the front of an empty vector, and its subtractions do not
wrap. -/
theorem moveHeaderRec_eq (vs : List Slice) {length : Nat} (len : Nat)
    (hlen : length = (bytesOf vs).length) (hsize : length < 2 ^ 64) :
    RawSliceBuffer.moveHeaderRec vs length len = some (moveHeaderAux vs length len) := by
  induction vs generalizing length len with
  | nil =>
      have hzero : length = 0 := by rw [hlen, bytesOf_nil, List.length_nil]
      subst hzero
      unfold RawSliceBuffer.moveHeaderRec moveHeaderAux
      by_cases h : len = 0
      · simp [h]
      · rw [if_pos (by omega)]
        simp [h]
  | cons it rest ih =>
      have hsplit : length = it.size + (bytesOf rest).length := by rw [hlen]; simp
      unfold RawSliceBuffer.moveHeaderRec moveHeaderAux
      by_cases hlt : length < len
      · rw [if_pos hlt, if_pos hlt]
      rw [if_neg hlt, if_neg hlt]
      by_cases hz : len = 0
      · rw [if_pos hz, if_pos hz]
      rw [if_neg hz, if_neg hz]
      dsimp only
      by_cases hin : len < it.size
      · rw [if_pos hin, if_pos hin, sizeSub_eq (by omega) hsize]
      rw [if_neg hin, if_neg hin]
      by_cases heq : it.size = len
      · rw [if_pos heq, if_pos heq, sizeSub_eq (by omega) hsize]
      -- the header reaches into the rest, whose length is what is left of the cached one
      rw [if_neg heq, if_neg heq, sizeSub_eq (by omega) hsize]
      exact ih (len - it.size) (by omega) (by omega)

/-- `MoveHeader` is that of the checked buffer. -/
theorem raw_moveHeader (hsize : b.length < 2 ^ 64) (len : Nat) :
    (b.raw capacity).moveHeader len = some ((b.moveHeader len).1, (b.moveHeader len).2.raw capacity) := by
  rw [RawSliceBuffer.moveHeader, show (b.raw capacity).vs = b.vs from rfl,
    show (b.raw capacity).length = b.length from rfl, moveHeaderRec_eq b.vs len b.length_eq hsize]
  rfl

/-- A slice of the buffer is not longer than the buffer. -/
theorem size_le_length {s : Slice} (h : s ∈ b.vs) : s.size ≤ b.length := by
  obtain ⟨front, back, hvs⟩ := List.append_of_mem h
  rw [b.length_eq, hvs]
  simp
  omega

/-- `PopFront` is that of the checked buffer. -/
theorem raw_popFront (hsize : b.length < 2 ^ 64) : (b.raw capacity).popFront = b.popFront.raw capacity := by
  unfold RawSliceBuffer.popFront popFront
  split
  · next h =>
      split
      · rfl
      · next h' => rw [show (b.raw capacity).vs = b.vs from rfl, h'] at h; cases h
  · next it rest h =>
      have hle : it.size ≤ b.length :=
        size_le_length (show it ∈ (b.raw capacity).vs by rw [h]; exact List.mem_cons_self)
      split
      · next h' => rw [show (b.raw capacity).vs = b.vs from rfl, h'] at h; cases h
      · next h' =>
          rw [show (b.raw capacity).vs = b.vs from rfl, h'] at h
          cases h
          exact congrArg (RawSliceBuffer.mk rest · capacity) (sizeSub_eq hle hsize)

/-- `PopBack` is that of the checked buffer. -/
theorem raw_popBack (hsize : b.length < 2 ^ 64) : (b.raw capacity).popBack = b.popBack.raw capacity := by
  unfold RawSliceBuffer.popBack popBack
  split
  · next h =>
      split
      · rfl
      · next h' => rw [show (b.raw capacity).vs = b.vs from rfl, h'] at h; cases h
  · next it h =>
      have hle : it.size ≤ b.length := size_le_length (List.mem_of_getLast? h)
      split
      · next h' => rw [show (b.raw capacity).vs = b.vs from rfl, h'] at h; cases h
      · next h' =>
          rw [show (b.raw capacity).vs = b.vs from rfl, h'] at h
          cases h
          exact congrArg (RawSliceBuffer.mk b.vs.dropLast · capacity) (sizeSub_eq hle hsize)

/-- What the same call returns on a checked buffer, and the buffer behind it. -/
def exec (b : SliceBuffer) : SliceBufferCall → SliceBufferReply × SliceBuffer
  | .addSlice (.object s) => (.void, b.addSlice s)
  | .addSlice (.element i) => (.void, ((b.vs[i]?).map b.addSlice).getD b)
  | .getHeader len => (.slice (b.getHeader len), b)
  | .moveHeader len => (.bool (b.moveHeader len).1, (b.moveHeader len).2)
  | .merge => (.slice b.merge, b)
  | .popFront => (.void, b.popFront)
  | .popBack => (.void, b.popBack)
  | .clearBuffer => (.void, .empty)

/-- The capacity of the vector behind a call. -/
def execCapacity (grow : Nat → Nat) (b : SliceBuffer) (capacity : Nat) : SliceBufferCall → Nat
  | .addSlice _ => (b.raw capacity).pushedCapacity grow
  | _ => capacity

/-- **A safe call on the members** is the call on the checked buffer. -/
theorem raw_exec (grow : Nat → Nat) (hsize : b.length < 2 ^ 64) {call : SliceBufferCall}
    (hfits : (b.raw capacity).Fits call) (hsafe : (b.raw capacity).Safe call) :
    (b.raw capacity).exec grow call =
      some ((b.exec call).1, (b.exec call).2.raw (b.execCapacity grow capacity call)) := by
  cases call with
  | addSlice arg =>
      obtain ⟨s, hs, hlen⟩ := hfits
      rw [toBytes_raw, length_toBytes] at hlen
      have hpush : (b.raw capacity).pushBack grow s =
          (b.addSlice s).raw ((b.raw capacity).pushedCapacity grow) := raw_pushBack grow hlen
      cases arg with
      | object t =>
          cases hs
          rw [RawSliceBuffer.exec, RawSliceBuffer.addSlice, Option.map_some, hpush]
          rfl
      | element i =>
          have helem : b.vs[i]? = some s := hs
          have hroom : ¬ (b.raw capacity).Full := hsafe
          rw [RawSliceBuffer.exec, RawSliceBuffer.addSlice, if_neg hroom,
            show (b.raw capacity).vs[i]? = some s from hs, Option.map_some, Option.map_some, hpush, exec, helem]
          rfl
  | getHeader len =>
      rw [RawSliceBuffer.exec, raw_getHeader hsafe]
      rfl
  | moveHeader len =>
      rw [RawSliceBuffer.exec, raw_moveHeader hsize]
      rfl
  | merge =>
      rw [RawSliceBuffer.exec, raw_merge hsafe]
      rfl
  | popFront =>
      rw [RawSliceBuffer.exec, raw_popFront hsize]
      rfl
  | popBack =>
      rw [RawSliceBuffer.exec, raw_popBack hsize]
      rfl
  | clearBuffer => rfl

/-- **A call that is not safe** does not return. -/
theorem raw_exec_eq_none (grow : Nat → Nat) {call : SliceBufferCall} (hsafe : ¬ (b.raw capacity).Safe call) :
    (b.raw capacity).exec grow call = none := by
  cases call with
  | addSlice arg =>
      cases arg with
      | object s => exact absurd trivial hsafe
      | element i =>
          have hfull : (b.raw capacity).Full := not_not.mp hsafe
          rw [RawSliceBuffer.exec, RawSliceBuffer.addSlice, if_pos hfull]
          rfl
  | getHeader len =>
      obtain ⟨hle, hfits⟩ := Classical.not_imp.mp hsafe
      rw [RawSliceBuffer.exec, raw_getHeader_eq_none hle hfits]
      rfl
  | merge =>
      obtain ⟨hlen, hfits⟩ := Classical.not_imp.mp hsafe
      rw [RawSliceBuffer.exec, raw_merge_eq_none hlen hfits]
      rfl
  | moveHeader len => exact absurd trivial hsafe
  | popFront => exact absurd trivial hsafe
  | popBack => exact absurd trivial hsafe
  | clearBuffer => exact absurd trivial hsafe

/-- `MoveHeader` leaves a buffer alone that has no such header. -/
theorem moveHeader_of_lt {len : Nat} (h : b.length < len) (capacity : Nat) :
    (b.moveHeader len).2.raw capacity = b.raw capacity := by
  have haux : ∀ vs, (moveHeaderAux vs b.length len).2 = (vs, b.length) := by
    intro vs
    cases vs with
    | nil => rfl
    | cons it rest => rw [moveHeaderAux, if_pos h]
  show RawSliceBuffer.mk (moveHeaderAux b.vs b.length len).2.1 (moveHeaderAux b.vs b.length len).2.2 capacity
    = b.raw capacity
  rw [haux b.vs]
  rfl

/-- The total length behind a call that fits. -/
theorem length_exec_lt (hsize : b.length < 2 ^ 64) {call : SliceBufferCall} (hfits : (b.raw capacity).Fits call) :
    (b.exec call).2.length < 2 ^ 64 := by
  cases call with
  | addSlice arg =>
      obtain ⟨s, hs, hlen⟩ := hfits
      cases arg with
      | object t =>
          cases hs
          rw [← length_toBytes, exec, toBytes_addSlice, List.length_append, Slice.length_toBytes]
          exact hlen
      | element i =>
          have helem : b.vs[i]? = some s := hs
          rw [exec, helem, Option.map_some, Option.getD_some, ← length_toBytes, toBytes_addSlice,
            List.length_append, Slice.length_toBytes]
          exact hlen
  | getHeader len => exact hsize
  | moveHeader len =>
      show (b.moveHeader len).2.length < 2 ^ 64
      by_cases hle : len ≤ b.length
      · rw [length_moveHeader hle]
        omega
      · have hraw : (b.moveHeader len).2.raw 0 = b.raw 0 := moveHeader_of_lt (by omega) 0
        rw [show (b.moveHeader len).2.length = ((b.moveHeader len).2.raw 0).length from rfl, hraw]
        exact hsize
  | merge => exact hsize
  | popFront =>
      show b.popFront.length < 2 ^ 64
      unfold popFront
      split
      · exact hsize
      · exact Nat.lt_of_le_of_lt (Nat.sub_le _ _) hsize
  | popBack =>
      show b.popBack.length < 2 ^ 64
      unfold popBack
      split
      · exact hsize
      · exact Nat.lt_of_le_of_lt (Nat.sub_le _ _) hsize
  | clearBuffer => exact Nat.two_pow_pos 64

end SliceBuffer

/-! ### Results -/

namespace RawSliceBuffer

/-- What a call does to a buffer read as a byte string, and what it returns. -/
def Meets (b : RawSliceBuffer) (reply : SliceBufferReply) (b' : RawSliceBuffer) :
    SliceBufferCall → Prop
  | .addSlice arg => reply = .void ∧ ∃ s, b.slice arg = some s ∧ b'.toBytes = b.toBytes ++ s.toBytes
  | .getHeader n => b' = b ∧ ∃ s, reply = .slice s ∧
      s.toBytes = if 0 < n ∧ n ≤ b.toBytes.length then b.toBytes.take n else []
  | .moveHeader n => reply = .bool (decide (n ≤ b.toBytes.length)) ∧
      if n ≤ b.toBytes.length then b'.toBytes = b.toBytes.drop n else b' = b
  | .merge => b' = b ∧ ∃ s, reply = .slice s ∧ s.toBytes = b.toBytes
  | .popFront => reply = .void ∧ b'.vs = b.vs.tail
  | .popBack => reply = .void ∧ b'.vs = b.vs.dropLast
  | .clearBuffer => reply = .void ∧ b'.toBytes = []

/-- The calls on checked buffers do what they should. -/
theorem meets_exec (grow : Nat → Nat) (b : SliceBuffer) (capacity : Nat) {call : SliceBufferCall}
    (hfits : (b.raw capacity).Fits call) :
    (b.raw capacity).Meets (b.exec call).1 ((b.exec call).2.raw (b.execCapacity grow capacity call)) call := by
  cases call with
  | addSlice arg =>
      obtain ⟨s, hs, -⟩ := hfits
      cases arg with
      | object t => exact ⟨rfl, t, rfl, b.toBytes_addSlice t⟩
      | element i =>
          have helem : b.vs[i]? = some s := hs
          refine ⟨rfl, s, hs, ?_⟩
          rw [SliceBuffer.exec, helem, Option.map_some, Option.getD_some]
          exact b.toBytes_addSlice s
  | getHeader n =>
      refine ⟨rfl, _, rfl, ?_⟩
      rw [SliceBuffer.toBytes_raw, SliceBuffer.length_toBytes, SliceBuffer.toBytes_getHeader]
      by_cases hlt : b.length < n
      · rw [if_pos hlt, if_neg (by omega)]
      · rw [if_neg hlt]
        by_cases hz : 0 < n
        · rw [if_pos (by omega)]
        · rw [if_neg (by omega), show n = 0 by omega, List.take_zero]
  | moveHeader n =>
      refine ⟨?_, ?_⟩
      · rw [SliceBuffer.toBytes_raw, SliceBuffer.length_toBytes, ← SliceBuffer.moveHeader_fst]
        rfl
      · rw [SliceBuffer.toBytes_raw, SliceBuffer.length_toBytes]
        by_cases hle : n ≤ b.length
        · rw [if_pos hle]
          exact SliceBuffer.toBytes_moveHeader hle
        · rw [if_neg hle]
          exact SliceBuffer.moveHeader_of_lt (by omega) capacity
  | merge => exact ⟨rfl, _, rfl, b.toBytes_merge⟩
  | popFront => exact ⟨rfl, b.vs_popFront⟩
  | popBack => exact ⟨rfl, b.vs_popBack⟩
  | clearBuffer => exact ⟨rfl, rfl⟩

/-- The members are those of a checked buffer whose length is a `size_t` value. -/
def Checked (b : RawSliceBuffer) : Prop :=
  ∃ (c : SliceBuffer) (capacity : Nat), b = c.raw capacity ∧ c.length < 2 ^ 64

/-- Behind every sequence of calls that return and fit, the members are those of a checked buffer. -/
theorem checked_of_reaches {grow : Nat → Nat} {b : RawSliceBuffer} (hb : (sliceBufferMachine grow).Reaches Fits b) :
    b.Checked := by
  refine hb.invariant Checked ⟨.empty, 0, rfl, Nat.two_pow_pos 64⟩ ?_
  rintro _ call b' - hfits ⟨c, capacity, rfl, hsize⟩ hstep
  by_cases hsafe : (c.raw capacity).Safe call
  · have hexec := SliceBuffer.raw_exec grow hsize hfits hsafe
    simp only [sliceBufferMachine, hexec, Option.map_some, Option.some.injEq] at hstep
    exact ⟨(c.exec call).2, _, hstep.symm, SliceBuffer.length_exec_lt hsize hfits⟩
  · -- it would not have returned
    simp only [sliceBufferMachine, SliceBuffer.raw_exec_eq_none grow hsafe, Option.map_none, reduceCtorEq] at hstep

/-- One slice many times. -/
theorem length_bytesOf_replicate (n : Nat) (s : Slice) : (bytesOf (List.replicate n s)).length = n * s.size := by
  induction n with
  | zero => simp
  | succ n ih =>
      rw [List.replicate_succ, bytesOf_cons, List.length_append, ih, Slice.length_toBytes, Nat.succ_mul, Nat.add_comm]

/-- Every vector of slices whose total length is a `size_t` value is that of a buffer which is reached. -/
theorem exists_reaches (grow : Nat → Nat) (vs : List Slice) (hsize : (bytesOf vs).length < 2 ^ 64) :
    ∃ b, (sliceBufferMachine grow).Reaches Fits b ∧ b.vs = vs := by
  -- the slices are added one by one
  induction vs using List.reverseRecOn with
  | nil => exact ⟨_, .init, rfl⟩
  | append_singleton vs s ih =>
      rw [bytesOf_append, List.length_append, bytesOf_cons, bytesOf_nil, List.append_nil, Slice.length_toBytes] at hsize
      obtain ⟨b, hb, hvs⟩ := ih (by omega)
      have hfits : b.Fits (.addSlice (.object s)) := by
        refine ⟨s, rfl, ?_⟩
        rw [toBytes, hvs]
        exact hsize
      refine ⟨b.pushBack grow s, hb.step hfits rfl, ?_⟩
      rw [pushBack, hvs]

end RawSliceBuffer

/-- **A slice buffer implements a byte string while its calls are safe.** Behind any sequence of calls from the empty
buffer that return and keep the total length below `2 ^ 64`: the cached length is the number of bytes; a further call
returns, and is append, take, drop, concatenation or clear on the byte string, exactly when it is safe: an element of
the buffer is passed to `AddSlice` only while the vector is not full, and the block for a header or for merged slices
is not larger than an object can be (`MoveHeader` does not read the front of an empty vector, and no assertion fails);
and `CopyToBuffer` copies as many bytes as asked for, the first ones. -/
theorem sliceBuffer_implements_bytes_iff (grow : Nat → Nat) (b : RawSliceBuffer)
    (hb : (sliceBufferMachine grow).Reaches RawSliceBuffer.Fits b) :
    b.length = b.toBytes.length ∧
    (∀ call, b.Fits call →
      ((∃ reply b', b.exec grow call = some (reply, b') ∧ b.Meets reply b' call) ↔ b.Safe call)) ∧
    ∀ n (buffer : Slice), n ≤ b.length → buffer.size = n →
      ∃ s, b.copyToBuffer buffer n = some (s, n) ∧ s.toBytes = b.toBytes.take n := by
  obtain ⟨c, capacity, rfl, hsize⟩ := RawSliceBuffer.checked_of_reaches hb
  refine ⟨c.length_eq, ?_, ?_⟩
  · intro call hfits
    constructor
    · rintro ⟨reply, b', hexec, -⟩
      by_contra hsafe
      rw [SliceBuffer.raw_exec_eq_none grow hsafe] at hexec
      cases hexec
    · intro hsafe
      exact ⟨_, _, SliceBuffer.raw_exec grow hsize hfits hsafe, RawSliceBuffer.meets_exec grow c capacity hfits⟩
  · intro n buffer hn hroom
    exact SliceBuffer.raw_copyToBuffer hn hroom

/-- Two slices are added, one of them empty, a header is dropped that reaches across both, and the last slice is added
once more while there is room for it. -/
theorem sliceBuffer_implements_bytes_iff_two_slices :
    ∃ b : RawSliceBuffer, (sliceBufferMachine fun n => n + 4).run (sliceBufferMachine fun n => n + 4).init
        [.addSlice (.object Slice.empty), .addSlice (.object (Slice.ofBytes [1, 2, 3])), .moveHeader 2,
          .addSlice (.element 0)] = some b ∧
      b.toBytes = [3, 3] ∧ b.length = b.toBytes.length ∧
      ∃ reply b', b.exec (fun n => n + 4) .merge = some (reply, b') ∧ b.Meets reply b' .merge := by
  obtain ⟨b, hrun, hbytes, hlen⟩ : ∃ b : RawSliceBuffer, (sliceBufferMachine fun n => n + 4).run
        (sliceBufferMachine fun n => n + 4).init
        [.addSlice (.object Slice.empty), .addSlice (.object (Slice.ofBytes [1, 2, 3])), .moveHeader 2,
          .addSlice (.element 0)] = some b ∧ b.toBytes = [3, 3] ∧ b.length = 2 := ⟨_, rfl, rfl, rfl⟩
  have hb : (sliceBufferMachine fun n => n + 4).Reaches RawSliceBuffer.Fits b := by
    refine Machine.Reaches.init.along hrun (.cons ⟨_, rfl, by decide⟩ ?_)
    rintro b₁ ⟨⟩
    refine .cons ⟨_, rfl, by decide⟩ ?_
    rintro b₂ ⟨⟩
    refine .cons trivial ?_
    rintro b₃ ⟨⟩
    exact .cons ⟨_, rfl, by decide⟩ fun b₄ _ => .nil
  obtain ⟨hcached, hcalls, -⟩ := sliceBuffer_implements_bytes_iff (fun n => n + 4) b hb
  refine ⟨b, hrun, hbytes, hcached, (hcalls .merge trivial).mpr fun _ => ?_⟩
  rw [hlen]
  decide

/-- With a vector that doubles its capacity, `AddSlice(Front())` on a full vector reads a slice that is gone; and
`Merge` of a buffer of `2 ^ 64 - 2` bytes, a slice of `2 ^ 40` bytes that is added again and again, asks `malloc` for
2 bytes. -/
theorem sliceBuffer_call_stuck :
    (∃ b, (sliceBufferMachine fun n => max 1 (2 * n)).Reaches RawSliceBuffer.Fits b ∧
      b.vs = [Slice.ofBytes [1]] ∧ b.Fits (.addSlice (.element 0)) ∧
      b.exec (fun n => max 1 (2 * n)) (.addSlice (.element 0)) = none) ∧
    ∃ b, (sliceBufferMachine fun n => max 1 (2 * n)).Reaches RawSliceBuffer.Fits b ∧
      b.vs = List.replicate (2 ^ 24 - 1) (Slice.ofLength (2 ^ 40)) ++ [Slice.ofLength (2 ^ 40 - 2)] ∧
      b.Fits .merge ∧ Slice.blockSize b.length = 2 ∧ b.exec (fun n => max 1 (2 * n)) .merge = none := by
  constructor
  · refine ⟨_, Machine.Reaches.init.step (a := .addSlice (.object (Slice.ofBytes [1]))) ⟨_, rfl, ?_⟩ rfl, rfl,
      ⟨_, rfl, ?_⟩, rfl⟩
    · decide
    · decide
  · have hlen : (bytesOf (List.replicate (2 ^ 24 - 1) (Slice.ofLength (2 ^ 40)) ++
        [Slice.ofLength (2 ^ 40 - 2)])).length = 2 ^ 64 - 2 := by
      rw [bytesOf_append, List.length_append, RawSliceBuffer.length_bytesOf_replicate, bytesOf_cons, bytesOf_nil,
        List.append_nil, Slice.length_toBytes, Slice.size_ofLength, Slice.size_ofLength]
      decide
    obtain ⟨b, hb, hvs⟩ := RawSliceBuffer.exists_reaches (fun n => max 1 (2 * n)) _ (by rw [hlen]; decide)
    obtain ⟨c, capacity, rfl, -⟩ := RawSliceBuffer.checked_of_reaches hb
    have hvs' : c.vs = List.replicate (2 ^ 24 - 1) (Slice.ofLength (2 ^ 40)) ++ [Slice.ofLength (2 ^ 40 - 2)] := hvs
    have hlength : c.length = 2 ^ 64 - 2 := by
      rw [c.length_eq, hvs', hlen]
    refine ⟨c.raw capacity, hb, hvs, trivial, ?_, ?_⟩
    · rw [show (c.raw capacity).length = c.length from rfl, hlength]
      decide
    · apply SliceBuffer.raw_exec_eq_none
      intro hsafe
      have hfits : Slice.BlockFits c.length := hsafe (by
        rw [show (c.raw capacity).vs = c.vs from rfl, hvs', List.length_append, List.length_replicate,
          List.length_singleton]
        decide)
      rw [hlength] at hfits
      exact absurd hfits (by decide)

end RaptorLite
