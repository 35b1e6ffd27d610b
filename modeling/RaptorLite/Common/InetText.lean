import Mathlib.Data.List.Basic
import RaptorLite.Common.SocketUtil
import RaptorLite.Utils.Asprintf

/-! # The text of IP addresses

`inet_ntop` and `inet_pton` of the system. They are parameters of what uses them: `InetText` holds the functions and
`InetText.Documented` what is documented of them. The second part is an implementation for addresses that are written
without compression. -/

namespace RaptorLite

/-! ### The system -/

/-- `'%'`. -/
def percent : UInt8 := 0x25

/-- `'.'`. -/
def dot : UInt8 := 0x2E

/-- A character of the text of an address: a hexadecimal digit, a colon or a dot. -/
def IsInetChar (c : UInt8) : Prop :=
  48 ≤ c.toNat ∧ c.toNat ≤ 57 ∨ 65 ≤ c.toNat ∧ c.toNat ≤ 70 ∨ 97 ≤ c.toNat ∧ c.toNat ≤ 102 ∨ c = colon ∨ c = dot

instance (c : UInt8) : Decidable (IsInetChar c) :=
  inferInstanceAs (Decidable (_ ∨ _))

/-- `inet_ntop` and `inet_pton` for the two families. -/
structure InetText where
  /-- The text `inet_ntop` makes of an IPv4 address. -/
  ntop4 : ByteString 4 → CString
  /-- The text it makes of an IPv6 address. -/
  ntop6 : ByteString 16 → CString
  /-- `inet_pton(AF_INET, ..)`, where it returns 1. -/
  pton4 : List UInt8 → Option (ByteString 4)
  /-- `inet_pton(AF_INET6, ..)`, where it returns 1. -/
  pton6 : List UInt8 → Option (ByteString 16)

/-- What is documented of them. -/
structure InetText.Documented (net : InetText) : Prop where
  /-- `ddd.ddd.ddd.ddd` takes 15 characters at most. -/
  length_ntop4 : ∀ addr, (net.ntop4 addr).bytes.length ≤ 15
  /-- `INET6_ADDRSTRLEN` is 46, the NUL included. -/
  length_ntop6 : ∀ addr, (net.ntop6 addr).bytes.length ≤ 45
  /-- The text of an IPv4 address is one that is parsed. -/
  pton4_ntop4 : ∀ addr, net.pton4 (net.ntop4 addr).bytes = some addr
  /-- The text of an IPv6 address is one that is parsed. -/
  pton6_ntop6 : ∀ addr, net.pton6 (net.ntop6 addr).bytes = some addr
  /-- Dotted decimal. -/
  chars_pton4 : ∀ text addr, net.pton4 text = some addr → ∀ c ∈ text, IsInetChar c ∧ c ≠ colon
  /-- Groups of hexadecimal digits, with dotted decimal at the end possibly. -/
  chars_pton6 : ∀ text addr, net.pton6 text = some addr → ∀ c ∈ text, IsInetChar c
  /-- There is a colon between the groups. -/
  colon_pton6 : ∀ text addr, net.pton6 text = some addr → colon ∈ text

/-! ### Numbers -/

/-- A digit may be part of an address. -/
theorem isInetChar_of_digit {c : UInt8} (h : 48 ≤ c.toNat ∧ c.toNat ≤ 57) : IsInetChar c := .inl h

/-- The number that decimal digits denote. -/
def readDigits (text : List UInt8) : Nat := Nat.ofDigitChars 10 (text.map fun c => Char.ofNat c.toNat) 0

/-- Reading a number undoes writing it. -/
@[simp] theorem readDigits_digits (n : Nat) : readDigits (digits n) = n := by
  -- the characters are read back from their bytes
  have hread : (digits n).map (fun c => Char.ofNat c.toNat) = Nat.toDigits 10 n := by
    rw [digits, List.map_map]
    refine (List.map_congr_left fun d hd => ?_).trans (List.map_id _)
    obtain ⟨-, hhigh⟩ := Char.isDigit_iff_toNat.mp (Nat.isDigit_of_mem_toDigits (by decide) (by decide) hd)
    have hhigh : d.toNat ≤ 57 := hhigh
    have hbyte : (UInt8.ofNat d.toNat).toNat = d.toNat := by
      rw [UInt8.toNat_ofNat', Nat.mod_eq_of_lt (by omega)]
    simp only [Function.comp_apply, hbyte, Char.ofNat_toNat, id_eq]
  rw [readDigits, hread, Nat.ofDigitChars_ten_toDigits]

/-- Numbers with the same digits are equal. -/
theorem digits_injective {m n : Nat} (h : digits m = digits n) : m = n := by
  rw [← readDigits_digits m, h, readDigits_digits]

/-! ### An implementation

The functions of the system for addresses that are written without compression: those are the texts that `inet_ntop`
makes of IPv4 addresses, and of IPv6 addresses in which no two groups of zeros are neighbours. -/

/-- The fields of a text with a separator between them. -/
def joinFields (sep : UInt8) (fields : List (List UInt8)) : List UInt8 := [sep].intercalate fields

/-- Two fields with the separator between them. -/
theorem joinFields_cons_cons (sep : UInt8) (f g : List UInt8) (fields : List (List UInt8)) :
    joinFields sep (f :: g :: fields) = f ++ sep :: joinFields sep (g :: fields) := by
  simp [joinFields, List.intercalate, List.intersperse]

/-- What is in the joined text is a separator or in a field. -/
theorem mem_joinFields {sep c : UInt8} {fields : List (List UInt8)} (h : c ∈ joinFields sep fields) :
    c = sep ∨ ∃ f ∈ fields, c ∈ f := by
  induction fields with
  | nil => cases h
  | cons f fields ih =>
      cases fields with
      | nil =>
          rw [joinFields, List.intercalate_singleton] at h
          exact .inr ⟨f, List.mem_cons_self, h⟩
      | cons g fields =>
          rw [joinFields_cons_cons, List.mem_append, List.mem_cons] at h
          rcases h with h | h | h
          · exact .inr ⟨f, List.mem_cons_self, h⟩
          · exact .inl h
          · rcases ih h with hsep | ⟨f', hf', hc⟩
            · exact .inl hsep
            · exact .inr ⟨f', List.mem_cons_of_mem _ hf', hc⟩

/-- The joined text is not longer than its fields with a separator behind each but the last. -/
theorem length_joinFields {k : Nat} (sep : UInt8) {fields : List (List UInt8)} (h : ∀ f ∈ fields, f.length ≤ k) :
    (joinFields sep fields).length ≤ fields.length * (k + 1) - 1 := by
  induction fields with
  | nil => exact Nat.zero_le _
  | cons f fields ih =>
      have hf := h f List.mem_cons_self
      have ih := ih fun g hg => h g (List.mem_cons_of_mem _ hg)
      cases fields with
      | nil =>
          rw [joinFields, List.intercalate_singleton, List.length_singleton]
          omega
      | cons g fields =>
          rw [joinFields_cons_cons, List.length_append, List.length_cons]
          simp only [List.length_cons, Nat.add_mul] at ih ⊢
          omega

/-- What a text is printed from, if a guess at it prints as the text. -/
def parseBy {α : Type} (print : α → List UInt8) (guess : List UInt8 → Option α) (text : List UInt8) : Option α :=
  (guess text).filter fun value => print value = text

/-- A text that was parsed is the one that its value prints to. -/
theorem print_of_parseBy {α : Type} {print : α → List UInt8} {guess : List UInt8 → Option α} {text : List UInt8}
    {value : α} (h : parseBy print guess text = some value) : print value = text := by
  obtain ⟨-, hprint⟩ := Option.filter_eq_some_iff.mp h
  exact of_decide_eq_true hprint

/-- A printed value is parsed where the guess gets it. -/
theorem parseBy_print {α : Type} {print : α → List UInt8} {guess : List UInt8 → Option α} {value : α}
    (h : guess (print value) = some value) : parseBy print guess (print value) = some value := by
  rw [parseBy, h, Option.filter_some, if_pos (decide_eq_true rfl)]

/-- Bytes, if there are so many. -/
def byteStringOf (n : Nat) (bytes : List UInt8) : Option (ByteString n) :=
  if h : bytes.length = n then some ⟨bytes, h⟩ else none

/-- A byte string of the right length is itself. -/
theorem byteStringOf_val {n : Nat} (addr : ByteString n) : byteStringOf n addr.1 = some addr := dif_pos addr.2

/-- `ddd.ddd.ddd.ddd`. -/
def dottedDecimal (addr : ByteString 4) : List UInt8 := joinFields dot (addr.1.map fun byte => digits byte.toNat)

/-- The bytes of dotted decimal. -/
def readDotted (text : List UInt8) : Option (ByteString 4) :=
  byteStringOf 4 ((text.splitOn dot).map fun field => UInt8.ofNat (readDigits field))

/-- Reading a dotted address undoes writing it. -/
theorem readDotted_dottedDecimal (addr : ByteString 4) : readDotted (dottedDecimal addr) = some addr := by
  have hfields : ∀ f ∈ addr.1.map fun byte => digits byte.toNat, dot ∉ f := by
    intro f hf hdot
    obtain ⟨byte, -, rfl⟩ := List.mem_map.mp hf
    exact absurd (mem_digits hdot) (by decide)
  have hne : (addr.1.map fun byte => digits byte.toNat) ≠ [] := by
    intro hnil
    have hlen := congrArg List.length hnil
    rw [List.length_map, addr.2] at hlen
    cases hlen
  rw [readDotted, dottedDecimal, joinFields, List.splitOn_intercalate dot hfields hne, List.map_map]
  have hbytes : addr.1.map ((fun field => UInt8.ofNat (readDigits field)) ∘ fun byte : UInt8 => digits byte.toNat) =
      addr.1 := by
    refine (List.map_congr_left fun byte _ => ?_).trans (List.map_id _)
    simp
  rw [hbytes, byteStringOf_val]

/-- The characters of a dotted address. -/
theorem mem_dottedDecimal {addr : ByteString 4} {c : UInt8} (h : c ∈ dottedDecimal addr) :
    IsInetChar c ∧ c ≠ colon := by
  rcases mem_joinFields h with rfl | ⟨f, hf, hc⟩
  · exact ⟨by decide, by decide⟩
  · obtain ⟨byte, -, rfl⟩ := List.mem_map.mp hf
    have hdigit := mem_digits hc
    refine ⟨isInetChar_of_digit hdigit, ?_⟩
    rintro rfl
    exact absurd hdigit (by decide)

/-- A hexadecimal digit. -/
def hexChar (d : Nat) : UInt8 := if d < 10 then UInt8.ofNat (48 + d) else UInt8.ofNat (87 + d)

/-- What a hexadecimal digit denotes. -/
def hexValue (c : UInt8) : Nat := if c.toNat < 58 then c.toNat - 48 else c.toNat - 87

/-- A hexadecimal digit: its value, and what it is not. -/
theorem hexChar_spec : ∀ d < 16, hexValue (hexChar d) = d ∧ IsInetChar (hexChar d) ∧ hexChar d ≠ colon := by
  decide

/-- The digits of a group of two bytes. -/
def nibbles (high low : UInt8) : List Nat :=
  [high.toNat / 16, high.toNat % 16, low.toNat / 16, low.toNat % 16]

/-- The digits without the leading zeros. -/
def significant (high low : UInt8) : List Nat :=
  ((nibbles high low).take 3).dropWhile (· = 0) ++ (nibbles high low).drop 3

/-- A group as it is written. -/
def hexGroup (high low : UInt8) : List UInt8 := (significant high low).map hexChar

/-- The number that hexadecimal digits denote. -/
def readHex (text : List UInt8) : Nat := text.foldl (fun n c => 16 * n + hexValue c) 0

/-- The significant digits of a group are hexadecimal. -/
theorem lt_of_mem_significant {high low : UInt8} {d : Nat} (h : d ∈ significant high low) : d < 16 := by
  have hhigh := high.toNat_lt
  have hlow := low.toNat_lt
  have hmem : d ∈ nibbles high low := by
    rcases List.mem_append.mp h with h | h
    · exact List.mem_of_mem_take ((List.dropWhile_sublist _).subset h)
    · exact List.mem_of_mem_drop h
  simp only [nibbles, List.mem_cons, List.not_mem_nil, or_false] at hmem
  omega

/-- The characters of a group are hexadecimal digits. -/
theorem mem_hexGroup {high low c : UInt8} (h : c ∈ hexGroup high low) : ∃ d < 16, c = hexChar d := by
  obtain ⟨d, hd, rfl⟩ := List.mem_map.mp h
  exact ⟨d, lt_of_mem_significant hd, rfl⟩

/-- A leading zero does not count. -/
theorem foldl_dropWhile_zero (l r : List Nat) :
    (l.dropWhile (· = 0) ++ r).foldl (fun n d => 16 * n + d) 0 = (l ++ r).foldl (fun n d => 16 * n + d) 0 := by
  induction l with
  | nil => rfl
  | cons d l ih =>
      by_cases hd : d = 0
      · subst hd
        simpa using ih
      · rw [List.dropWhile_cons_of_neg (by simpa using hd)]

/-- Reading the digits of a group is Horner's scheme on them. -/
theorem foldl_map_hexChar (ds : List Nat) (n : Nat) (hds : ∀ d ∈ ds, d < 16) :
    (ds.map hexChar).foldl (fun n c => 16 * n + hexValue c) n = ds.foldl (fun n d => 16 * n + d) n := by
  induction ds generalizing n with
  | nil => rfl
  | cons d ds ih =>
      rw [List.map_cons, List.foldl_cons, List.foldl_cons, (hexChar_spec d (hds d List.mem_cons_self)).1]
      exact ih _ fun e he => hds e (List.mem_cons_of_mem _ he)

/-- Reading a group undoes writing it. -/
theorem readHex_hexGroup (high low : UInt8) : readHex (hexGroup high low) = high.toNat * 256 + low.toNat := by
  have hhigh := high.toNat_lt
  have hlow := low.toNat_lt
  rw [readHex, hexGroup, foldl_map_hexChar _ _ fun d hd => lt_of_mem_significant hd, significant,
    foldl_dropWhile_zero, List.take_append_drop]
  simp only [nibbles, List.foldl_cons, List.foldl_nil]
  omega

/-- A group has at most four digits. -/
theorem length_hexGroup (high low : UInt8) : (hexGroup high low).length ≤ 4 := by
  have hdrop := (List.dropWhile_sublist (fun d => decide (d = 0)) (l := (nibbles high low).take 3)).length_le
  rw [hexGroup, significant, List.length_map, List.length_append]
  exact Nat.add_le_add hdrop (Nat.le_refl 1)

/-- The groups of two bytes. -/
def hexGroups : List UInt8 → List (List UInt8)
  | high :: low :: rest => hexGroup high low :: hexGroups rest
  | _ => []

/-- The bytes of a group. -/
def readGroup (field : List UInt8) : List UInt8 :=
  [UInt8.ofNat (readHex field / 256), UInt8.ofNat (readHex field)]

/-- The two bytes of a group that was written. -/
theorem readGroup_hexGroup (high low : UInt8) : readGroup (hexGroup high low) = [high, low] := by
  have hlow := low.toNat_lt
  have hhigh : (high.toNat * 256 + low.toNat) / 256 = high.toNat := by omega
  rw [readGroup, readHex_hexGroup, hhigh]
  simp only [UInt8.ofNat_toNat, List.cons.injEq, true_and, and_true]
  apply UInt8.toNat_inj.mp
  rw [UInt8.toNat_ofNat']
  omega

/-- The bytes of the groups are the bytes they were made of. -/
theorem flatMap_readGroup_hexGroups {bytes : List UInt8} {n : Nat} (h : bytes.length = 2 * n) :
    (hexGroups bytes).flatMap readGroup = bytes := by
  induction n generalizing bytes with
  | zero =>
      rw [List.length_eq_zero_iff.mp h]
      rfl
  | succ n ih =>
      match bytes, h with
      | high :: low :: rest, h =>
          have hrest : rest.length = 2 * n := by
            simp only [List.length_cons] at h
            omega
          rw [hexGroups, List.flatMap_cons, readGroup_hexGroup, ih hrest]
          rfl

/-- Two bytes make one group. -/
theorem length_hexGroups {bytes : List UInt8} {n : Nat} (h : bytes.length = 2 * n) : (hexGroups bytes).length = n := by
  induction n generalizing bytes with
  | zero =>
      rw [List.length_eq_zero_iff.mp h]
      rfl
  | succ n ih =>
      match bytes, h with
      | high :: low :: rest, h =>
          have hrest : rest.length = 2 * n := by
            simp only [List.length_cons] at h
            omega
          rw [hexGroups, List.length_cons, ih hrest]

/-- Every group is made of two bytes. -/
theorem exists_of_mem_hexGroups {bytes f : List UInt8} (h : f ∈ hexGroups bytes) :
    ∃ high low, f = hexGroup high low := by
  fun_induction hexGroups bytes with
  | case1 high low rest ih =>
      rcases List.mem_cons.mp h with rfl | h
      · exact ⟨high, low, rfl⟩
      · exact ih h
  | case2 bytes hshort => cases h

/-- Eight groups with colons between them. -/
def colonHex (addr : ByteString 16) : List UInt8 := joinFields colon (hexGroups addr.1)

/-- The bytes of such groups. -/
def readColonHex (text : List UInt8) : Option (ByteString 16) :=
  byteStringOf 16 ((text.splitOn colon).flatMap readGroup)

/-- Reading an IPv6 address undoes writing it. -/
theorem readColonHex_colonHex (addr : ByteString 16) : readColonHex (colonHex addr) = some addr := by
  have hfields : ∀ f ∈ hexGroups addr.1, colon ∉ f := by
    intro f hf hcolon
    obtain ⟨high, low, rfl⟩ := exists_of_mem_hexGroups hf
    obtain ⟨d, hd, heq⟩ := mem_hexGroup hcolon
    exact (hexChar_spec d hd).2.2 heq.symm
  have hne : hexGroups addr.1 ≠ [] := by
    intro hnil
    have hlen := length_hexGroups (n := 8) addr.2
    rw [hnil] at hlen
    cases hlen
  rw [readColonHex, colonHex, joinFields, List.splitOn_intercalate colon hfields hne,
    flatMap_readGroup_hexGroups (n := 8) addr.2, byteStringOf_val]

/-- The characters of an IPv6 address. -/
theorem mem_colonHex {addr : ByteString 16} {c : UInt8} (h : c ∈ colonHex addr) : IsInetChar c := by
  rcases mem_joinFields h with rfl | ⟨f, hf, hc⟩
  · decide
  · obtain ⟨high, low, rfl⟩ := exists_of_mem_hexGroups hf
    obtain ⟨d, hd, rfl⟩ := mem_hexGroup hc
    exact (hexChar_spec d hd).2.1

/-- There is a colon in the text of an IPv6 address. -/
theorem colon_mem_colonHex (addr : ByteString 16) : colon ∈ colonHex addr := by
  have hlen := length_hexGroups (n := 8) addr.2
  match hgroups : hexGroups addr.1, hlen with
  | f :: g :: fields, _ =>
      rw [colonHex, hgroups, joinFields_cons_cons]
      exact List.mem_append_right _ List.mem_cons_self

/-- Both families, without compression. -/
def uncompressedText : InetText where
  ntop4 addr := ⟨dottedDecimal addr, fun h => absurd (mem_dottedDecimal h).1 (by decide)⟩
  ntop6 addr := ⟨colonHex addr, fun h => absurd (mem_colonHex h) (by decide)⟩
  pton4 := parseBy dottedDecimal readDotted
  pton6 := parseBy colonHex readColonHex

/-- The uncompressed texts do what is documented of the inet functions. -/
theorem uncompressedText_documented : uncompressedText.Documented where
  length_ntop4 addr := by
    have hfields : ∀ f ∈ addr.1.map fun byte => digits byte.toNat, f.length ≤ 3 := by
      intro f hf
      obtain ⟨byte, -, rfl⟩ := List.mem_map.mp hf
      have hbyte := byte.toNat_lt
      rw [digits, List.length_map]
      exact (Nat.length_toDigits_le_iff (by decide) (by decide)).mpr (by omega)
    have hlen := length_joinFields dot hfields
    rwa [List.length_map, addr.2] at hlen
  length_ntop6 addr := by
    have hfields : ∀ f ∈ hexGroups addr.1, f.length ≤ 4 := by
      intro f hf
      obtain ⟨high, low, rfl⟩ := exists_of_mem_hexGroups hf
      exact length_hexGroup high low
    have hlen := length_joinFields colon hfields
    rw [length_hexGroups (n := 8) addr.2] at hlen
    exact Nat.le_trans hlen (by decide)
  pton4_ntop4 addr := parseBy_print (readDotted_dottedDecimal addr)
  pton6_ntop6 addr := parseBy_print (readColonHex_colonHex addr)
  chars_pton4 text addr h c hc := by
    rw [← print_of_parseBy h] at hc
    exact mem_dottedDecimal hc
  chars_pton6 text addr h c hc := by
    rw [← print_of_parseBy h] at hc
    exact mem_colonHex hc
  colon_pton6 text addr h := by
    rw [← print_of_parseBy h]
    exact colon_mem_colonHex addr

end RaptorLite
