import Mathlib.Algebra.Group.Nat.Defs
import Mathlib.Data.List.Basic

/-! # Formatted strings

`raptor_asprintf` (`utils/string.cc`) with the conversions `%s` and `%d`. A string is bytes up to a NUL; `%s`
reads the memory behind its argument up to the first NUL, as far as there is memory to read. The C library
functions are as specified: they count the whole text, write as much of it as fits, end it with a NUL, and refuse
a text whose length is no `int`. On both platforms the result is the text or, if it is too long, nothing. -/

namespace RaptorLite

/-! ### Characters -/

/-- The bytes of a text of the source. -/
def ascii (s : String) : List UInt8 := s.toList.map fun c => UInt8.ofNat c.toNat

/-- `'['`. -/
def openBracket : UInt8 := 0x5B

/-- `']'`. -/
def closeBracket : UInt8 := 0x5D

/-- `':'`. -/
def colon : UInt8 := 0x3A

/-- `'-'`. -/
def minus : UInt8 := 0x2D

/-- The digits of a number. -/
def digits (n : Nat) : List UInt8 := (Nat.toDigits 10 n).map fun c => UInt8.ofNat c.toNat

/-- What `%d` writes. -/
def decimal (n : Int) : List UInt8 := if n < 0 then minus :: digits (-n).toNat else digits n.toNat

/-- The characters of a decimal number are the ten digits. -/
theorem mem_digits {n : Nat} {c : UInt8} (h : c ∈ digits n) : 48 ≤ c.toNat ∧ c.toNat ≤ 57 := by
  obtain ⟨d, hd, rfl⟩ := List.mem_map.mp h
  obtain ⟨hlow, hhigh⟩ := Char.isDigit_iff_toNat.mp (Nat.isDigit_of_mem_toDigits (by decide) (by decide) hd)
  have hlow : 48 ≤ d.toNat := hlow
  have hhigh : d.toNat ≤ 57 := hhigh
  rw [UInt8.toNat_ofNat', Nat.mod_eq_of_lt (by omega)]
  exact ⟨hlow, hhigh⟩

/-- A number is written with digits and a sign. -/
theorem mem_decimal {n : Int} {c : UInt8} (h : c ∈ decimal n) : c = minus ∨ 48 ≤ c.toNat ∧ c.toNat ≤ 57 := by
  unfold decimal at h
  split at h
  · rcases List.mem_cons.mp h with h | h
    · exact .inl h
    · exact .inr (mem_digits h)
  · exact .inr (mem_digits h)

/-- A decimal number holds no colon. -/
theorem colon_notMem_decimal (n : Int) : colon ∉ decimal n := by
  intro h
  rcases mem_decimal h with h | ⟨-, h⟩
  · exact absurd h (by decide)
  · exact absurd h (by decide)

/-- A decimal number holds no NUL. -/
theorem nul_notMem_decimal (n : Int) : 0 ∉ decimal n := by
  intro h
  rcases mem_decimal h with h | ⟨h, -⟩
  · exact absurd h (by decide)
  · exact absurd h (by decide)

/-- An `int` takes at most eleven characters. -/
theorem length_decimal_le (n : Int32) : (decimal n.toInt).length ≤ 11 := by
  have hdigits : ∀ k : Nat, k < 10 ^ 10 → (digits k).length ≤ 10 := by
    intro k hk
    rw [digits, List.length_map]
    exact (Nat.length_toDigits_le_iff (by decide) (by decide)).mpr hk
  have hlow := Int32.le_toInt n
  have hhigh := Int32.toInt_lt n
  unfold decimal
  split
  · rw [List.length_cons]
    exact Nat.succ_le_succ (hdigits _ (by omega))
  · exact Nat.le_succ_of_le (hdigits _ (by omega))

/-! ### Strings in memory -/

/-- The string that starts a piece of memory; there is none if no NUL comes. -/
def cString : List UInt8 → Option (List UInt8)
  | [] => none
  | c :: rest => if c = 0 then some [] else (cString rest).map (c :: ·)

/-- Bytes that are not NUL are read on past. -/
theorem cString_append_of_notMem {s : List UInt8} (h : 0 ∉ s) (rest : List UInt8) :
    cString (s ++ rest) = (cString rest).map (s ++ ·) := by
  induction s with
  | nil => simp
  | cons c s ih =>
      rw [List.mem_cons, not_or] at h
      rw [List.cons_append, cString, if_neg (Ne.symm h.1), ih h.2, Option.map_map]
      rfl

/-- The bytes before the first NUL. -/
theorem cString_append {s : List UInt8} (h : 0 ∉ s) (rest : List UInt8) : cString (s ++ 0 :: rest) = some s := by
  rw [cString_append_of_notMem h, cString, if_pos rfl, Option.map_some, List.append_nil]

/-- Memory without a NUL holds no C string. -/
theorem cString_of_notMem {s : List UInt8} (h : 0 ∉ s) : cString s = none := by
  have hread := cString_append_of_notMem h []
  rwa [List.append_nil] at hread

/-- A string, without the NUL at its end. -/
structure CString where
  /-- The bytes before the NUL. -/
  bytes : List UInt8
  /-- None of them is NUL. -/
  noNul : 0 ∉ bytes

/-- The memory of a string. -/
def CString.memory (s : CString) : List UInt8 := s.bytes ++ [0]

/-- The memory of a C string reads back as its bytes. -/
@[simp] theorem CString.cString_memory (s : CString) : cString s.memory = some s.bytes := cString_append s.noNul []

/-! ### Formatting -/

/-- A piece of a format string with its argument. -/
inductive FormatPiece where
  /-- Text that is copied. -/
  | text (bytes : List UInt8)
  /-- `%d`. -/
  | d (value : Int32)
  /-- `%s` with the memory behind its argument. -/
  | s (memory : List UInt8)

/-- What a piece is replaced with. -/
def FormatPiece.render : FormatPiece → Option (List UInt8)
  | .text bytes => some bytes
  | .d value => some (decimal value.toInt)
  | .s memory => cString memory

/-- The whole text; none if a string runs out of the memory that can be read. -/
def formatted : List FormatPiece → Option (List UInt8)
  | [] => some []
  | piece :: rest => piece.render.bind fun text => (formatted rest).map (text ++ ·)

/-- `vsnprintf(buf, size, ..)` on the text: what it returns and what it writes. -/
def vsnprintf (size : Nat) (text : List UInt8) : Int × List UInt8 :=
  if text.length < 2 ^ 31 then (text.length, text.take (size - 1) ++ [0]) else (-1, [])

/-- `_vscprintf`. -/
def vscprintf (text : List UInt8) : Int := if text.length < 2 ^ 31 then text.length else -1

/-- `vsnprintf_s(buf, size, _TRUNCATE, ..)`. -/
def vsnprintfS (size : Nat) (text : List UInt8) : Int × List UInt8 :=
  if text.length < size then (text.length, text ++ [0]) else (-1, text.take (size - 1) ++ [0])

/-- The two builds. -/
inductive Platform where
  /-- The build for Linux. -/
  | linux
  /-- The build with `_WIN32`. -/
  | windows
  deriving DecidableEq, Repr

/-- `raptor_asprintf` on a text, for Linux: short texts are formatted once, into a local buffer of 128 bytes. -/
def asprintfLinux (text : List UInt8) : Int × Option (List UInt8) :=
  let first := vsnprintf 128 text
  let buf := first.2 ++ List.replicate (128 - first.2.length) 0
  if first.1 < 0 then (-1, none)
  else
    let strpBuflen := first.1.toNat + 1
    if strpBuflen ≤ 128 then (first.1, some (buf.take strpBuflen))
    else
      let again := vsnprintf strpBuflen text
      if again.1.toNat = strpBuflen - 1 then (again.1, some again.2) else (-1, none)

/-- `raptor_asprintf` on a text, for Windows. -/
def asprintfWindows (text : List UInt8) : Int × Option (List UInt8) :=
  let ret := vscprintf text
  if ret < 0 then (-1, none)
  else
    let strpBuflen := ret.toNat + 1
    let again := vsnprintfS strpBuflen text
    if again.1.toNat = strpBuflen - 1 then (again.1, some again.2) else (-1, none)

/-- `raptor_asprintf`: what it returns and `*strp`, null or the memory it points to. -/
def raptorAsprintf (platform : Platform) (format : List FormatPiece) : Option (Int × Option (List UInt8)) :=
  (formatted format).map fun text =>
    match platform with
    | .linux => asprintfLinux text
    | .windows => asprintfWindows text

/-- What both builds come to. -/
def asprintfResult (text : List UInt8) : Int × Option (List UInt8) :=
  if text.length < 2 ^ 31 then (text.length, some (text ++ [0])) else (-1, none)

/-- A string is made if its length is an `int`. -/
theorem asprintfResult_eq_some {text memory : List UInt8} :
    (asprintfResult text).2 = some memory ↔ text.length < 2 ^ 31 ∧ memory = text ++ [0] := by
  unfold asprintfResult
  split
  · next hlen =>
    constructor
    · intro h
      cases h
      exact ⟨hlen, rfl⟩
    · rintro ⟨-, rfl⟩
      rfl
  · next hlen =>
    constructor
    · intro h
      cases h
    · intro h
      exact absurd h.1 hlen

/-- The loop of the Linux variant ends with the whole text. -/
theorem asprintfLinux_eq (text : List UInt8) : asprintfLinux text = asprintfResult text := by
  unfold asprintfLinux asprintfResult vsnprintf
  by_cases hlen : text.length < 2 ^ 31
  · simp only [if_pos hlen, Int.toNat_natCast, Nat.add_sub_cancel]
    rw [if_neg (by omega)]
    by_cases hshort : text.length + 1 ≤ 128
    · -- the local buffer holds the whole text and its NUL
      have htake : text.take (128 - 1) = text := List.take_of_length_le (by omega)
      rw [if_pos hshort, htake, List.take_left' (by rw [List.length_append, List.length_singleton])]
    · rw [if_neg hshort, if_pos trivial, List.take_length]
  · simp only [if_neg hlen]
    rfl

/-- The Windows variant, with its measured buffer, returns the whole text. -/
theorem asprintfWindows_eq (text : List UInt8) : asprintfWindows text = asprintfResult text := by
  unfold asprintfWindows asprintfResult vscprintf vsnprintfS
  by_cases hlen : text.length < 2 ^ 31
  · simp only [if_pos hlen, Int.toNat_natCast, Nat.lt_succ_self, if_true, Nat.add_sub_cancel]
    rw [if_neg (by omega)]
  · simp only [if_neg hlen]
    rfl

/-- The platforms agree: the text with its NUL, or null if its length is no `int`. -/
theorem raptorAsprintf_eq (platform : Platform) (format : List FormatPiece) :
    raptorAsprintf platform format = (formatted format).map asprintfResult := by
  cases platform with
  | linux =>
      rw [raptorAsprintf]
      exact congrArg (Option.map · _) (funext asprintfLinux_eq)
  | windows =>
      rw [raptorAsprintf]
      exact congrArg (Option.map · _) (funext asprintfWindows_eq)

end RaptorLite
