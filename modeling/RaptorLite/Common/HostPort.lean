import Mathlib.Data.List.GetD
import RaptorLite.Utils.Asprintf

/-! # Host and port

`JoinHostPort` and the two variants of `SplitHostPort` (`common/host_port.cc`), with the `StringView` they work on
(`utils/string_view.h`). A view is the bytes it shows; a null view and an empty one look the same. The outputs
are passed with what they held before. `HostPortForm` is the grammar of the names that are split. -/

namespace RaptorLite

/-! ### Views -/

/-- The bytes that a `StringView` shows. -/
abbrev StringView := List UInt8

namespace StringView

/-- `StringView::find`; none is `npos`. -/
def find (v : StringView) (c : UInt8) (pos : Nat) : Option Nat :=
  if v.length = 0 ∨ v.length ≤ pos then none else ((v.drop pos).idxOf? c).map (pos + ·)

/-- `StringView::substr`. -/
def substr (v : StringView) (start size : Nat) : StringView := (v.drop start).take (min size (v.length - start))

/-- `StringView::clear`. -/
def clear (_v : StringView) : StringView := []

/-- `StringView::operator[]`; the byte behind the view is the NUL of the string it shows. -/
def charAt (v : StringView) (i : Nat) : UInt8 := v.getD i 0

variable {v l r : StringView} {c : UInt8}

/-- The first character of a view that is not empty. -/
@[simp] theorem charAt_cons_zero (c : UInt8) (r : StringView) : charAt (c :: r) 0 = c := rfl

/-- `find` returns `npos` where the character does not occur behind `pos`. -/
theorem find_eq_none {pos : Nat} (h : c ∉ v.drop pos) : find v c pos = none := by
  unfold find
  split
  · rfl
  · rw [List.idxOf?_eq_none_iff.mpr h]
    rfl

/-- The first occurrence of a character is where the part without it ends. -/
theorem idxOf?_append (h : c ∉ l) (r : StringView) : (l ++ c :: r).idxOf? c = some l.length := by
  induction l with
  | nil => simp [List.idxOf?_cons]
  | cons x l ih =>
      rw [List.mem_cons, not_or] at h
      rw [List.cons_append, List.idxOf?_cons, if_neg (by simpa using Ne.symm h.1), ih h.2]
      rfl

/-- The first occurrence behind a start. -/
theorem find_append {a : StringView} (h : c ∉ l) (r : StringView) :
    find (a ++ (l ++ c :: r)) c a.length = some (a.length + l.length) := by
  have hlen : ¬ ((a ++ (l ++ c :: r)).length = 0 ∨ (a ++ (l ++ c :: r)).length ≤ a.length) := by
    simp only [List.length_append, List.length_cons]
    omega
  rw [find, if_neg hlen, List.drop_left, idxOf?_append h]
  rfl

/-- The part of a view behind a start. -/
theorem substr_middle (a l r : StringView) : substr (a ++ (l ++ r)) a.length l.length = l := by
  rw [substr, List.drop_left, Nat.min_eq_left (by simp only [List.length_append]; omega), List.take_left]

/-- The rest of a view. -/
theorem substr_right (a r : StringView) (n : Nat) (h : n = r.length) : substr (a ++ r) a.length n = r := by
  have hmiddle := substr_middle a r []
  rwa [List.append_nil, ← h] at hmiddle

end StringView

open StringView

/-! ### Joining -/

/-- `JoinHostPort`: what it returns and `*out`. -/
def joinHostPort (platform : Platform) (host : CString) (port : Int32) : Option (Int × Option (List UInt8)) :=
  if host.memory.headD 0 ≠ openBracket ∧ colon ∈ host.bytes then
    -- IPv6 literals must be enclosed in brackets.
    raptorAsprintf platform [.text [openBracket], .s host.memory, .text [closeBracket, colon], .d port]
  else raptorAsprintf platform [.s host.memory, .text [colon], .d port]

/-! ### Splitting -/

/-- What `DoSplitHostPort` returns and leaves in its outputs. -/
structure SplitResult where
  /-- The value returned. -/
  ret : Bool
  /-- `*host`. -/
  host : StringView
  /-- `*port`. -/
  port : StringView
  /-- `*has_port`. -/
  hasPort : Bool
  deriving DecidableEq, Repr

/-- The end of the branch for bracketed names: the host must contain a colon. -/
def finishBracketed (host port : StringView) (hasPort : Bool) : SplitResult :=
  if host.find colon 0 = none then ⟨false, [], port, hasPort⟩ else ⟨true, host, port, hasPort⟩

/-- `DoSplitHostPort`. -/
def doSplitHostPort (name host port : StringView) : SplitResult :=
  if name.charAt 0 = openBracket then
    match name.find closeBracket 1 with
    | none => ⟨false, host, port, false⟩
    | some rbracket =>
        if rbracket = name.length - 1 then finishBracketed (name.substr 1 (rbracket - 1)) [] false
        else if name.charAt (rbracket + 1) = colon then
          finishBracketed (name.substr 1 (rbracket - 1)) (name.substr (rbracket + 2) (name.length - rbracket - 2)) true
        else ⟨false, host, port, false⟩
  else
    match name.find colon 0 with
    | none => ⟨true, name, [], false⟩
    | some i =>
        if name.find colon (i + 1) = none then
          ⟨true, name.substr 0 i, name.substr (i + 1) (name.length - i - 1), true⟩
        else ⟨true, name, [], false⟩

/-- `SplitHostPort` with views for outputs: the value returned, `*host` and `*port`. -/
def splitHostPort (name host port : StringView) : Bool × StringView × StringView :=
  let r := doSplitHostPort name host.clear port.clear
  (r.ret, r.host, r.port)

/-- `SplitHostPort` with owned strings for outputs, null or a string. -/
def splitHostPortToCString (name : StringView) (host port : Option (List UInt8)) :
    Bool × Option (List UInt8) × Option (List UInt8) :=
  let r := doSplitHostPort name [] []
  if r.ret then (true, some r.host, if r.hasPort then some r.port else port) else (false, host, port)

/-! ### The grammar -/

/-- A name, its host, and its port if it has one. -/
inductive HostPortForm : StringView → StringView → Option StringView → Prop
  /-- A bracketed host. -/
  | bracketed (h : StringView) : closeBracket ∉ h → colon ∈ h →
      HostPortForm (openBracket :: (h ++ [closeBracket])) h none
  /-- A bracketed host and a port. -/
  | bracketedPort (h p : StringView) : closeBracket ∉ h → colon ∈ h →
      HostPortForm (openBracket :: (h ++ closeBracket :: colon :: p)) h (some p)
  /-- A host and a port with the only colon between them. -/
  | hostPort (h p : StringView) : (h ++ colon :: p).head? ≠ some openBracket → colon ∉ h → colon ∉ p →
      HostPortForm (h ++ colon :: p) h (some p)
  /-- A name with no colon or several. -/
  | bare (name : StringView) : name.head? ≠ some openBracket → name.count colon ≠ 1 → HostPortForm name name none

/-- A bracketed host without a colon, and a port. -/
def BracketedName (name : StringView) : Prop :=
  ∃ h p, name = openBracket :: (h ++ closeBracket :: colon :: p) ∧ closeBracket ∉ h ∧ colon ∉ h ∧ p ≠ []

section Split

variable {name h p rest : StringView}

/-- A bracketed name is accepted exactly when the text between the brackets holds a colon. -/
theorem finishBracketed_eq (h p : StringView) (hasPort : Bool) :
    finishBracketed h p hasPort = if colon ∈ h then ⟨true, h, p, hasPort⟩ else ⟨false, [], p, hasPort⟩ := by
  unfold finishBracketed
  by_cases hcolon : colon ∈ h
  · obtain ⟨l, r, rfl, hl⟩ := List.eq_append_cons_of_mem hcolon
    have hfind : find (l ++ colon :: r) colon 0 = some (0 + l.length) := find_append (a := []) hl r
    rw [hfind, if_pos hcolon, if_neg (by simp)]
  · have hfind : find h colon 0 = none := find_eq_none (by rwa [List.drop_zero])
    rw [hfind, if_pos rfl, if_neg hcolon]

/-- A name with an unmatched bracket. -/
theorem doSplitHostPort_unmatched (hrest : closeBracket ∉ rest) (host port : StringView) :
    doSplitHostPort (openBracket :: rest) host port = ⟨false, host, port, false⟩ := by
  have hfind : find (openBracket :: rest) closeBracket 1 = none := find_eq_none hrest
  rw [doSplitHostPort, if_pos (charAt_cons_zero _ _), hfind]

/-- A name with brackets, cut at the first closing one. -/
theorem doSplitHostPort_bracketed (hh : closeBracket ∉ h) (rest host port : StringView) :
    doSplitHostPort (openBracket :: (h ++ closeBracket :: rest)) host port =
      match rest with
      | [] => finishBracketed h [] false
      | c :: p => if c = colon then finishBracketed h p true else ⟨false, host, port, false⟩ := by
  have hfind : find (openBracket :: (h ++ closeBracket :: rest)) closeBracket 1 = some (1 + h.length) :=
    find_append (a := [openBracket]) hh rest
  have hhost : substr (openBracket :: (h ++ closeBracket :: rest)) 1 (1 + h.length - 1) = h := by
    rw [Nat.add_sub_cancel_left]
    exact substr_middle [openBracket] h (closeBracket :: rest)
  have hlen : (openBracket :: (h ++ closeBracket :: rest)).length = h.length + rest.length + 2 := by
    simp only [List.length_cons, List.length_append]
    omega
  rw [doSplitHostPort, if_pos (charAt_cons_zero _ _), hfind]
  simp only [hhost, hlen]
  cases rest with
  | nil =>
      rw [if_pos (by simp only [List.length_nil]; omega)]
  | cons c p =>
      have hnext : charAt (openBracket :: (h ++ closeBracket :: c :: p)) (1 + h.length + 1) = c := by
        have hsplit : openBracket :: (h ++ closeBracket :: c :: p) =
            (openBracket :: h ++ [closeBracket]) ++ c :: p := by
          simp
        have hidx : 1 + h.length + 1 = (openBracket :: h ++ [closeBracket]).length + 0 := by
          simp only [List.length_append, List.length_cons, List.length_nil]
          omega
        rw [charAt, hsplit, hidx, List.getD_append_right _ _ _ _ (by omega)]
        simp
      have hport : substr (openBracket :: (h ++ closeBracket :: colon :: p)) (1 + h.length + 2)
          (h.length + (c :: p).length + 2 - (1 + h.length) - 2) = p := by
        have hsplit : openBracket :: (h ++ closeBracket :: colon :: p) =
            (openBracket :: h ++ [closeBracket, colon]) ++ p := by
          simp
        have hidx : 1 + h.length + 2 = (openBracket :: h ++ [closeBracket, colon]).length := by
          simp only [List.length_append, List.length_cons, List.length_nil]
          omega
        rw [hsplit, hidx]
        apply substr_right
        rw [List.length_cons]
        omega
      rw [if_neg (by simp only [List.length_cons]; omega), hnext]
      by_cases hc : c = colon
      · subst hc
        rw [if_pos rfl]
        simp only [hport, if_true]
      · rw [if_neg hc]
        simp only [if_neg hc]

/-- The byte at the start of a name that does not begin with a bracket. -/
theorem charAt_zero_ne (hhead : name.head? ≠ some openBracket) : name.charAt 0 ≠ openBracket := by
  cases name with
  | nil => decide
  | cons c rest => exact fun heq => hhead (congrArg some heq)

/-- A name with a single colon. -/
theorem doSplitHostPort_single (hhead : (h ++ colon :: p).head? ≠ some openBracket) (hh : colon ∉ h) (hp : colon ∉ p)
    (host port : StringView) : doSplitHostPort (h ++ colon :: p) host port = ⟨true, h, p, true⟩ := by
  have hfind : find (h ++ colon :: p) colon 0 = some (0 + h.length) := find_append (a := []) hh p
  have hcons : h ++ colon :: p = (h ++ [colon]) ++ p := by simp
  have hlen : 0 + h.length + 1 = (h ++ [colon]).length := by simp
  have hnone : find (h ++ colon :: p) colon (0 + h.length + 1) = none := by
    apply find_eq_none
    rwa [hlen, hcons, List.drop_left]
  have hhost : substr (h ++ colon :: p) 0 (0 + h.length) = h := by
    rw [Nat.zero_add]
    exact substr_middle [] h (colon :: p)
  have hport : substr (h ++ colon :: p) (0 + h.length + 1) ((h ++ colon :: p).length - (0 + h.length) - 1) = p := by
    rw [hlen, hcons]
    apply substr_right
    simp only [List.length_append, List.length_cons, List.length_nil]
    omega
  rw [doSplitHostPort, if_neg (charAt_zero_ne hhead), hfind]
  simp only [hnone, if_true, hhost, hport]

/-- A name with no colon or several. -/
theorem doSplitHostPort_bare (hhead : name.head? ≠ some openBracket) (hcount : name.count colon ≠ 1)
    (host port : StringView) : doSplitHostPort name host port = ⟨true, name, [], false⟩ := by
  rw [doSplitHostPort, if_neg (charAt_zero_ne hhead)]
  by_cases hcolon : colon ∈ name
  · obtain ⟨l, r, rfl, hl⟩ := List.eq_append_cons_of_mem hcolon
    have hr : colon ∈ r := by
      rw [List.count_append, List.count_cons_self, List.count_eq_zero_of_not_mem hl] at hcount
      exact List.count_pos_iff.mp (by omega)
    obtain ⟨l', r', rfl, hl'⟩ := List.eq_append_cons_of_mem hr
    have hfind : find (l ++ colon :: (l' ++ colon :: r')) colon 0 = some (0 + l.length) := find_append (a := []) hl _
    have hagain : find (l ++ colon :: (l' ++ colon :: r')) colon (0 + l.length + 1) =
        some ((l ++ [colon]).length + l'.length) := by
      have hcons : l ++ colon :: (l' ++ colon :: r') = (l ++ [colon]) ++ (l' ++ colon :: r') := by simp
      have hlen : 0 + l.length + 1 = (l ++ [colon]).length := by simp
      rw [hcons, hlen]
      exact find_append hl' r'
    rw [hfind]
    simp only [hagain, reduceCtorEq, if_false]
  · have hfind : find name colon 0 = none := find_eq_none (by rwa [List.drop_zero])
    rw [hfind]

/-- A name of the grammar is split into its parts. -/
theorem doSplitHostPort_accepts {q : Option StringView} (hform : HostPortForm name h q) (host port : StringView) :
    doSplitHostPort name host port = ⟨true, h, q.getD [], q.isSome⟩ := by
  cases hform with
  | bracketed h hclose hcolon =>
      rw [doSplitHostPort_bracketed hclose]
      simp only [finishBracketed_eq, if_pos hcolon]
      rfl
  | bracketedPort h p hclose hcolon =>
      rw [doSplitHostPort_bracketed hclose]
      simp only [finishBracketed_eq, if_pos hcolon, if_true]
      rfl
  | hostPort h p hhead hh hp => exact doSplitHostPort_single hhead hh hp host port
  | bare name hhead hcount => exact doSplitHostPort_bare hhead hcount host port

/-- A name that does not begin with a bracket is in the grammar. -/
theorem exists_form_of_head (hhead : name.head? ≠ some openBracket) : ∃ h q, HostPortForm name h q := by
  by_cases hcount : name.count colon = 1
  · have hpos : 0 < name.count colon := by omega
    obtain ⟨l, r, rfl, hl⟩ := List.eq_append_cons_of_mem (List.count_pos_iff.mp hpos)
    have hr : colon ∉ r := by
      rw [List.count_append, List.count_cons_self, List.count_eq_zero_of_not_mem hl] at hcount
      exact List.count_eq_zero.mp (by omega)
    exact ⟨l, some r, .hostPort l r hhead hl hr⟩
  · exact ⟨name, none, .bare name hhead hcount⟩

/-- Cutting at the first closing bracket is unique. -/
theorem append_closeBracket_inj {l r l' r' : StringView} (hl : closeBracket ∉ l) (hl' : closeBracket ∉ l')
    (heq : l ++ closeBracket :: r = l' ++ closeBracket :: r') : l = l' ∧ r = r' := by
  have hidx : l.length = l'.length := by
    have h := idxOf?_append hl r
    rw [heq, idxOf?_append hl' r'] at h
    exact (Option.some.inj h).symm
  obtain ⟨hl, hr⟩ := List.append_inj heq hidx
  exact ⟨hl, (List.cons.inj hr).2⟩

/-- A name outside the grammar: the host comes out empty, and the port does unless the name is a bracketed one
without a colon. -/
theorem doSplitHostPort_rejects (hno : ¬ ∃ h q, HostPortForm name h q) :
    ∃ p b, doSplitHostPort name [] [] = ⟨false, [], p, b⟩ ∧ (p = [] ↔ ¬ BracketedName name) := by
  have hhead : name.head? = some openBracket := by
    by_contra hhead
    exact hno (exists_form_of_head hhead)
  obtain ⟨rest, rfl⟩ := List.head?_eq_some_iff.mp hhead
  by_cases hrest : closeBracket ∈ rest
  · obtain ⟨l, r, rfl, hl⟩ := List.eq_append_cons_of_mem hrest
    rw [doSplitHostPort_bracketed hl]
    -- the parts of a bracketed name
    have hname : BracketedName (openBracket :: (l ++ closeBracket :: r)) ↔
        ∃ p, r = colon :: p ∧ colon ∉ l ∧ p ≠ [] := by
      constructor
      · rintro ⟨h, p, heq, hclose, hcolon, hp⟩
        obtain ⟨rfl, rfl⟩ := append_closeBracket_inj hl hclose (List.cons.inj heq).2
        exact ⟨p, rfl, hcolon, hp⟩
      · rintro ⟨p, rfl, hcolon, hp⟩
        exact ⟨l, p, rfl, hl, hcolon, hp⟩
    rw [hname]
    match r with
    | [] =>
        have hcolon : colon ∉ l := fun hcolon => hno ⟨l, none, .bracketed l hl hcolon⟩
        refine ⟨[], false, by simp only [finishBracketed_eq, if_neg hcolon], ?_⟩
        simp
    | c :: p =>
        by_cases hc : c = colon
        · subst hc
          have hcolon : colon ∉ l := fun hcolon => hno ⟨l, some p, .bracketedPort l p hl hcolon⟩
          refine ⟨p, true, by simp only [finishBracketed_eq, if_neg hcolon, if_true], ?_⟩
          simp [hcolon]
        · refine ⟨[], false, by simp only [if_neg hc], ?_⟩
          simp [hc]
  · rw [doSplitHostPort_unmatched hrest]
    refine ⟨[], false, rfl, iff_of_true rfl ?_⟩
    rintro ⟨h, p, heq, -⟩
    rw [(List.cons.inj heq).2] at hrest
    exact hrest (List.mem_append_right _ List.mem_cons_self)

end Split

/-! ### Round trip -/

/-- The text of a host and a port. -/
def joinedText (host : CString) (port : Int32) : List UInt8 :=
  if host.memory.headD 0 ≠ openBracket ∧ colon ∈ host.bytes then
    openBracket :: (host.bytes ++ closeBracket :: colon :: decimal port.toInt)
  else host.bytes ++ colon :: decimal port.toInt

/-- Both platforms' `JoinHostPort` returns what `asprintf` makes of the joined text. -/
theorem joinHostPort_eq (platform : Platform) (host : CString) (port : Int32) :
    joinHostPort platform host port = some (asprintfResult (joinedText host port)) := by
  unfold joinHostPort joinedText
  split
  · rw [raptorAsprintf_eq]
    simp [formatted, FormatPiece.render]
  · rw [raptorAsprintf_eq]
    simp [formatted, FormatPiece.render]

/-- The joined text holds no NUL, so `asprintf` copies it whole. -/
theorem nul_notMem_joinedText (host : CString) (port : Int32) : 0 ∉ joinedText host port := by
  have hhost := host.noNul
  have hport := nul_notMem_decimal port.toInt
  have hopen : (0 : UInt8) ≠ openBracket := by decide
  have hclose : (0 : UInt8) ≠ closeBracket := by decide
  have hcolon : (0 : UInt8) ≠ colon := by decide
  unfold joinedText
  split
  · simp only [List.mem_cons, List.mem_append, not_or]
    exact ⟨hopen, hhost, hclose, hcolon, hport⟩
  · simp only [List.mem_cons, List.mem_append, not_or]
    exact ⟨hhost, hcolon, hport⟩

/-- What is joined is in the grammar, with the same parts. -/
theorem hostPortForm_joinedText (host : CString) (port : Int32) (hopen : host.bytes.head? ≠ some openBracket)
    (hclose : closeBracket ∉ host.bytes) :
    HostPortForm (joinedText host port) host.bytes (some (decimal port.toInt)) := by
  have hport := colon_notMem_decimal port.toInt
  unfold joinedText
  split
  · next hbracket => exact .bracketedPort _ _ hclose hbracket.2
  · next hbare =>
    have hcolon : colon ∉ host.bytes := by
      intro hcolon
      apply hbare
      refine ⟨fun hhead => hopen ?_, hcolon⟩
      -- a host with a colon has a first byte
      cases hbytes : host.bytes with
      | nil =>
          rw [hbytes] at hcolon
          cases hcolon
      | cons c rest =>
          rw [CString.memory, hbytes] at hhead
          exact congrArg some hhead
    refine .hostPort _ _ ?_ hcolon hport
    cases hbytes : host.bytes with
    | nil => exact fun heq => absurd (Option.some.inj heq) (by decide)
    | cons c rest =>
        rw [hbytes] at hopen
        exact hopen

/-- `SplitHostPort` undoes `JoinHostPort`, on both platforms and in both variants, whatever the outputs held. A
string is produced exactly if its length is an `int`. -/
theorem splitHostPort_joinHostPort (platform : Platform) (host : CString) (port : Int32)
    (hopen : host.bytes.head? ≠ some openBracket) (hclose : closeBracket ∉ host.bytes) :
    ∃ ret out, joinHostPort platform host port = some (ret, out) ∧
      (out.isSome ↔ (joinedText host port).length < 2 ^ 31) ∧
      ∀ memory, out = some memory → ∃ name, cString memory = some name ∧
        (∀ hostView portView,
          splitHostPort name hostView portView = (true, host.bytes, decimal port.toInt)) ∧
        ∀ hostOut portOut, splitHostPortToCString name hostOut portOut =
          (true, some host.bytes, some (decimal port.toInt)) := by
  have hform := hostPortForm_joinedText host port hopen hclose
  refine ⟨(asprintfResult (joinedText host port)).1, (asprintfResult (joinedText host port)).2,
    joinHostPort_eq platform host port, ?_, ?_⟩
  · rw [Option.isSome_iff_exists]
    simp only [asprintfResult_eq_some, exists_and_left, exists_eq, and_true]
  · intro memory hout
    obtain ⟨-, hmemory⟩ := asprintfResult_eq_some.mp hout
    refine ⟨joinedText host port, ?_, fun hostView portView => ?_, fun hostOut portOut => ?_⟩
    · rw [hmemory, cString_append (nul_notMem_joinedText host port)]
    · rw [splitHostPort, doSplitHostPort_accepts hform]
      rfl
    · rw [splitHostPortToCString, doSplitHostPort_accepts hform]
      rfl

/-- The host `::1` and the port -5. -/
theorem splitHostPort_joinHostPort_loopback :
    joinHostPort .linux ⟨[58, 58, 49], by decide⟩ (-5) = some (8, some (ascii "[::1]:-5" ++ [0])) ∧
      splitHostPort (ascii "[::1]:-5") [1] [2] = (true, ascii "::1", ascii "-5") := by
  obtain ⟨ret, out, hjoin, -, hsplit⟩ :=
    splitHostPort_joinHostPort .linux ⟨[58, 58, 49], by decide⟩ (-5) (by decide) (by decide)
  have hjoined : joinHostPort .linux ⟨[58, 58, 49], by decide⟩ (-5) = some (8, some (ascii "[::1]:-5" ++ [0])) := by
    decide
  rw [hjoined, Option.some.injEq, Prod.mk.injEq] at hjoin
  obtain ⟨name, hname, hview, -⟩ := hsplit _ hjoin.2.symm
  have hstring : cString (ascii "[::1]:-5" ++ [0]) = some (ascii "[::1]:-5") := by decide
  obtain rfl : ascii "[::1]:-5" = name := Option.some.inj (hstring.symm.trans hname)
  exact ⟨hjoined, hview [1] [2]⟩

/-! ### Acceptance -/

/-- An output that is null or an empty string. -/
def EmptyOutput (out : Option (List UInt8)) : Prop := out.getD [] = []

/-- The two variants do on a name, with these outputs, what the header says: they accept the names of the grammar,
yield their parts, and leave the outputs empty otherwise. -/
structure SplitsAsDocumented (name : CString) (hostView portView : StringView) (host port : Option (List UInt8)) :
    Prop where
  /-- The names that the first variant accepts. -/
  view_accepts : (splitHostPort name.bytes hostView portView).1 = true ↔ ∃ h q, HostPortForm name.bytes h q
  /-- The names that the second variant accepts. -/
  owned_accepts : (splitHostPortToCString name.bytes host port).1 = true ↔ ∃ h q, HostPortForm name.bytes h q
  /-- The parts in the views. -/
  view_yields : ∀ h q, HostPortForm name.bytes h q →
    splitHostPort name.bytes hostView portView = (true, h, q.getD [])
  /-- The parts in the strings; a port that the name does not have is null or empty. -/
  owned_yields : ∀ h q, HostPortForm name.bytes h q → (splitHostPortToCString name.bytes host port).2.1 = some h ∧
    (∀ p, q = some p → (splitHostPortToCString name.bytes host port).2.2 = some p) ∧
    (q = none → EmptyOutput (splitHostPortToCString name.bytes host port).2.2)
  /-- The views are empty on failure. -/
  view_clears : (splitHostPort name.bytes hostView portView).1 = false →
    (splitHostPort name.bytes hostView portView).2 = ([], [])
  /-- The strings are null or empty on failure. -/
  owned_clears : (splitHostPortToCString name.bytes host port).1 = false →
    EmptyOutput (splitHostPortToCString name.bytes host port).2.1 ∧
      EmptyOutput (splitHostPortToCString name.bytes host port).2.2

/-- The parts of a name are those that come out. -/
theorem HostPortForm.unique {name h h' : StringView} {q q' : Option StringView} (hhq : HostPortForm name h q)
    (hhq' : HostPortForm name h' q') : h' = h ∧ q'.getD [] = q.getD [] ∧ q'.isSome = q.isSome := by
  have heq := (doSplitHostPort_accepts hhq' [] []).symm.trans (doSplitHostPort_accepts hhq [] [])
  rw [SplitResult.mk.injEq] at heq
  exact heq.2

section Documented

variable {name : CString} {hostView portView : StringView} {host port : Option (List UInt8)}

/-- A name of the grammar: the second variant writes no port where the name has none. -/
theorem splitsAsDocumented_iff_of_form {h : StringView} {q : Option StringView} (hhq : HostPortForm name.bytes h q) :
    SplitsAsDocumented name hostView portView host port ↔ (q = none → EmptyOutput port) := by
  have hview : splitHostPort name.bytes hostView portView = (true, h, q.getD []) := by
    rw [splitHostPort, doSplitHostPort_accepts hhq]
  have howned : splitHostPortToCString name.bytes host port =
      (true, some h, if q.isSome then some (q.getD []) else port) := by
    rw [splitHostPortToCString, doSplitHostPort_accepts hhq]
    rfl
  constructor
  · rintro hdoc rfl
    have hempty := (hdoc.owned_yields h none hhq).2.2 rfl
    rwa [howned] at hempty
  · intro hport
    refine ⟨?_, ?_, ?_, ?_, ?_, ?_⟩
    · rw [hview]
      exact iff_of_true rfl ⟨h, q, hhq⟩
    · rw [howned]
      exact iff_of_true rfl ⟨h, q, hhq⟩
    · intro h' q' hhq'
      obtain ⟨rfl, hq, -⟩ := hhq.unique hhq'
      rw [hview, hq]
    · rintro h' q' hhq'
      obtain ⟨rfl, hq, hsome⟩ := hhq.unique hhq'
      refine ⟨by rw [howned], ?_, ?_⟩
      · rintro p rfl
        rw [howned, ← hsome, ← hq]
        rfl
      · rintro rfl
        have hnone : q = none := Option.isNone_iff_eq_none.mp (Option.isSome_eq_false_iff.mp hsome.symm)
        rw [howned, hnone]
        exact hport hnone
    · intro hfalse
      rw [hview] at hfalse
      cases hfalse
    · intro hfalse
      rw [howned] at hfalse
      cases hfalse

/-- A name that is rejected: the first variant may leave a port behind, the second leaves the strings alone. -/
theorem splitsAsDocumented_iff_of_not_form (hform : ¬ ∃ h q, HostPortForm name.bytes h q) :
    SplitsAsDocumented name hostView portView host port ↔
      ¬ BracketedName name.bytes ∧ EmptyOutput host ∧ EmptyOutput port := by
  obtain ⟨p, b, hsplit, hp⟩ := doSplitHostPort_rejects hform
  have hview : splitHostPort name.bytes hostView portView = (false, [], p) := by
    rw [splitHostPort]
    simp only [clear, hsplit]
  have howned : splitHostPortToCString name.bytes host port = (false, host, port) := by
    rw [splitHostPortToCString, hsplit]
    rfl
  rw [← hp]
  constructor
  · intro hdoc
    have hclear := hdoc.view_clears (by rw [hview])
    rw [hview, Prod.mk.injEq] at hclear
    have howns := hdoc.owned_clears (by rw [howned])
    rw [howned] at howns
    exact ⟨hclear.2, howns⟩
  · rintro ⟨rfl, hempty⟩
    refine ⟨?_, ?_, fun h q hhq => absurd ⟨h, q, hhq⟩ hform, fun h q hhq => absurd ⟨h, q, hhq⟩ hform, ?_, ?_⟩
    · rw [hview]
      exact iff_of_false (by simp) hform
    · rw [howned]
      exact iff_of_false (by simp) hform
    · intro _
      rw [hview]
    · intro _
      rw [howned]
      exact hempty

end Documented

/-- **The variants do what the header says** if and only if the name is in the grammar and has a port or the port
passed in is null or empty, or it is not a bracketed host without a colon followed by a port and both strings passed
in are null or empty. -/
theorem splitsAsDocumented_iff (name : CString) (hostView portView : StringView) (host port : Option (List UInt8)) :
    SplitsAsDocumented name hostView portView host port ↔
      (∃ h q, HostPortForm name.bytes h q ∧ (q = none → EmptyOutput port)) ∨
        ¬ BracketedName name.bytes ∧ EmptyOutput host ∧ EmptyOutput port := by
  by_cases hform : ∃ h q, HostPortForm name.bytes h q
  · obtain ⟨h, q, hhq⟩ := hform
    rw [splitsAsDocumented_iff_of_form hhq]
    constructor
    · exact fun hport => .inl ⟨h, q, hhq, hport⟩
    · rintro (⟨h', q', hhq', hport⟩ | ⟨-, -, hport⟩) rfl
      · have hsome := (hhq.unique hhq').2.2
        cases q' with
        | none => exact hport rfl
        | some p => cases hsome
      · exact hport
  · rw [splitsAsDocumented_iff_of_not_form hform, or_iff_right]
    rintro ⟨h, q, hhq, -⟩
    exact hform ⟨h, q, hhq⟩

/-- A bracketed host name leaves its port behind, the strings keep what they held when a name is rejected, and a port
stays that an accepted name does not have. -/
theorem outputs_keep_stale_texts :
    ¬ SplitsAsDocumented ⟨ascii "[abc]:80", by decide⟩ [] [] none none ∧
      ¬ SplitsAsDocumented ⟨ascii "[::1", by decide⟩ [] [] (some (ascii "a")) (some (ascii "1")) ∧
      ¬ SplitsAsDocumented ⟨ascii "localhost", by decide⟩ [] [] none (some (ascii "80")) := by
  refine ⟨fun hdoc => ?_, fun hdoc => ?_, fun hdoc => ?_⟩
  · exact absurd (hdoc.view_clears (by decide)) (by decide)
  · exact absurd (hdoc.owned_clears (by decide)).1 (by unfold EmptyOutput; decide)
  · have hform : HostPortForm (ascii "localhost") (ascii "localhost") none := .bare _ (by decide) (by decide)
    have hempty := (hdoc.owned_yields _ _ hform).2.2 rfl
    exact absurd hempty (by unfold EmptyOutput; decide)

/-! ### The resolver -/

/-- The start of `raptor_blocking_resolve_address`: the host and the port to look up, or the text of the error. -/
def resolveHostPort (name : CString) (defaultPort : Option (List UInt8)) :
    Except (List UInt8) (List UInt8 × List UInt8) :=
  match (splitHostPortToCString name.bytes none none).2 with
  | (none, _) => .error (ascii "unparseable host:port (" ++ name.bytes ++ ascii ")")
  | (some host, some port) => .ok (host, port)
  | (some host, none) =>
      match defaultPort with
      | none => .error (ascii "no port in name (" ++ name.bytes ++ ascii ")")
      | some port => .ok (host, port)

/-- The resolver looks at the outputs, which start as null: it goes on with the names of the grammar. -/
theorem resolveHostPort_of_form {name : CString} {h : StringView} {q : Option StringView}
    (hform : HostPortForm name.bytes h q) (defaultPort : List UInt8) :
    resolveHostPort name (some defaultPort) = .ok (h, q.getD defaultPort) := by
  rw [resolveHostPort, splitHostPortToCString, doSplitHostPort_accepts hform]
  cases q with
  | none => rfl
  | some p => rfl

/-- A name outside the grammar is refused with an error that quotes it. -/
theorem resolveHostPort_of_not_form {name : CString} (hno : ¬ ∃ h q, HostPortForm name.bytes h q)
    (defaultPort : Option (List UInt8)) :
    resolveHostPort name defaultPort = .error (ascii "unparseable host:port (" ++ name.bytes ++ ascii ")") := by
  obtain ⟨p, b, hsplit, -⟩ := doSplitHostPort_rejects hno
  rw [resolveHostPort, splitHostPortToCString, hsplit]
  rfl

end RaptorLite
