import Mathlib.Data.List.Induction
import RaptorLite.Utils.Asprintf
import RaptorLite.Utils.Slice

/-! # Status

`Status` (`utils/status.cc`): an error code and a message. The message is a slice, which knows its length, but
`ToString` prints it with `%s`, which reads on to a NUL. What that finds depends on the storage of the slice and on
the memory behind it. -/

namespace RaptorLite

/-- A `Status` in memory: `_error_code` and `_message`. -/
structure StatusObject where
  /-- The error code; zero is success. -/
  errorCode : Int32
  /-- The message. -/
  message : SliceData

namespace StatusObject

/-- `Status::Status(int err_code, const std::string &err_msg)`. -/
def make (errCode : Int32) (errMsg : List UInt8) (junk : Nat → UInt8) : StatusObject :=
  ⟨errCode, .construct errMsg junk⟩

/-- `Status::AppendMessage`; the slice of the new text and the joined one are in storage of their own. -/
def appendMessage (s : StatusObject) (msg : List UInt8) (junk junk' : Nat → UInt8) : StatusObject :=
  { s with message := s.message.plus (.construct msg junk) junk' }

/-- `Status::ToString` when the memory behind the storage of the message is `behind`; none if there is no string to
be read, or none could be made. -/
def toString (platform : Platform) (s : StatusObject) (behind : List UInt8) : Option (List UInt8) :=
  if s.errorCode = 0 then some (ascii "No error")
  else
    let text :=
      if s.message.size = 0 then
        raptorAsprintf platform [.text (ascii "Error code is "), .d s.errorCode, .text (ascii ". No description.")]
      else
        raptorAsprintf platform [.text (ascii "Error code is "), .d s.errorCode, .text (ascii ". "),
          .s (s.message.storage ++ behind), .text (ascii ".")]
    text.bind fun r => r.2.bind cString

/-- A status made with a first text and then given others, in whatever storage. -/
inductive Built (errCode : Int32) (errMsg : List UInt8) : List (List UInt8) → StatusObject → Prop
  /-- The constructor. -/
  | make (junk : Nat → UInt8) : Built errCode errMsg [] (make errCode errMsg junk)
  /-- One `AppendMessage` more. -/
  | append {msgs : List (List UInt8)} {s : StatusObject} (h : Built errCode errMsg msgs s) (msg : List UInt8)
      (junk junk' : Nat → UInt8) : Built errCode errMsg (msgs ++ [msg]) (s.appendMessage msg junk junk')

/-- What the message should read as. -/
def report (errCode : Int32) (m : List UInt8) : List UInt8 :=
  ascii "Error code is " ++ (decimal errCode.toInt ++ (ascii ". " ++ (m ++ ascii ".")))

section Built

variable {errCode : Int32} {errMsg : List UInt8} {msgs : List (List UInt8)} {s : StatusObject}

/-- A built status has the code it was built with. -/
theorem Built.errorCode_eq (h : Built errCode errMsg msgs s) : s.errorCode = errCode := by
  induction h with
  | make junk => rfl
  | append h msg junk junk' ih => exact ih

/-- The bytes of the slice are the message. -/
theorem Built.toBytes_eq (h : Built errCode errMsg msgs s) :
    s.message.WellFormed ∧ s.message.toBytes = errMsg ++ msgs.flatten := by
  induction h with
  | make junk =>
      refine ⟨SliceData.wellFormed_construct errMsg junk, ?_⟩
      rw [StatusObject.make, SliceData.toBytes_construct, List.flatten_nil, List.append_nil]
  | append h msg junk junk' ih =>
      obtain ⟨hwf, hbytes⟩ := ih
      refine ⟨SliceData.wellFormed_plus junk', ?_⟩
      rw [appendMessage, SliceData.toBytes_plus hwf (SliceData.wellFormed_construct msg junk), hbytes,
        SliceData.toBytes_construct, List.flatten_append, List.flatten_singleton, List.append_assoc]

/-- The length of a built message is that of its texts together. -/
theorem Built.size_eq (h : Built errCode errMsg msgs s) : s.message.size = (errMsg ++ msgs.flatten).length := by
  obtain ⟨hwf, hbytes⟩ := h.toBytes_eq
  rw [← SliceData.length_toBytes hwf, hbytes]

/-- Behind an `AppendMessage` the rest of an inline array is zero. -/
theorem Built.storage_eq (h : Built errCode errMsg msgs s) (hmsgs : msgs ≠ []) :
    s.message.storage = errMsg ++ msgs.flatten ++
      List.replicate (sliceInlinedSize - (errMsg ++ msgs.flatten).length) 0 := by
  have hbytes := h.toBytes_eq.2
  cases h with
  | make junk => exact absurd rfl hmsgs
  | append h msg junk junk' =>
      have hwf := h.toBytes_eq.1
      have hwf' := SliceData.wellFormed_construct msg junk
      rw [appendMessage, SliceData.toBytes_plus hwf hwf'] at hbytes
      rw [appendMessage, SliceData.storage_plus hwf hwf', hbytes]

/-- Every message can be built. -/
theorem exists_built (errCode : Int32) (errMsg : List UInt8) (msgs : List (List UInt8)) :
    ∃ s, Built errCode errMsg msgs s := by
  induction msgs using List.reverseRecOn with
  | nil => exact ⟨_, .make fun _ => 0⟩
  | append_singleton msgs msg ih =>
      obtain ⟨s, hs⟩ := ih
      exact ⟨_, hs.append msg (fun _ => 0) fun _ => 0⟩

end Built

/-! ### What is reported -/

section Report

variable {errCode : Int32} {errMsg : List UInt8} {msgs : List (List UInt8)} {s : StatusObject}

/-- With a code and a message, everything depends on what `%s` reads. -/
theorem Built.toString_eq (h : Built errCode errMsg msgs s) (hcode : errCode ≠ 0) (hne : errMsg ++ msgs.flatten ≠ [])
    (platform : Platform) (behind : List UInt8) :
    s.toString platform behind =
      (cString (s.message.storage ++ behind)).bind fun m => (asprintfResult (report errCode m)).2.bind cString := by
  have hsize : s.message.size ≠ 0 := by
    rw [h.size_eq]
    exact fun hlen => hne (List.length_eq_zero_iff.mp hlen)
  rw [toString, h.errorCode_eq, if_neg hcode]
  simp only [if_neg hsize, raptorAsprintf_eq, formatted, FormatPiece.render, Option.bind_some, Option.map_some]
  cases cString (s.message.storage ++ behind) with
  | none => rfl
  | some m =>
      simp only [Option.bind_some, Option.map_some, List.append_nil]
      rfl

/-- A report that is short enough comes out as a string. -/
theorem asprintfResult_report {m : List UInt8} (hnul : 0 ∉ m) (hlen : m.length ≤ sliceInlinedSize) (errCode : Int32) :
    (asprintfResult (report errCode m)).2.bind cString = some (report errCode m) := by
  have hdecimal := length_decimal_le errCode
  have hshort : (report errCode m).length < 2 ^ 31 := by
    have hfirst : (ascii "Error code is ").length = 14 := rfl
    have hmiddle : (ascii ". ").length = 2 := rfl
    have hlast : (ascii ".").length = 1 := rfl
    rw [sliceInlinedSize] at hlen
    simp only [report, List.length_append]
    omega
  have hmem : 0 ∉ report errCode m := by
    have hfirst : 0 ∉ ascii "Error code is " := by decide
    have hmiddle : 0 ∉ ascii ". " := by decide
    have hlast : 0 ∉ ascii "." := by decide
    simp only [report, List.mem_append, not_or]
    exact ⟨hfirst, nul_notMem_decimal _, hmiddle, hnul, hlast⟩
  rw [asprintfResult_eq_some.mpr ⟨hshort, rfl⟩, Option.bind_some, cString_append hmem]

/-- `ToString` reports exactly the message, whatever the storage held and whatever lies behind it, if and only if
something was appended and the message is shorter than the inline array. -/
theorem toString_report_iff (errCode : Int32) (errMsg : List UInt8) (msgs : List (List UInt8)) (hcode : errCode ≠ 0)
    (hnul : 0 ∉ errMsg ++ msgs.flatten) (hne : errMsg ++ msgs.flatten ≠ []) :
    (∀ s, Built errCode errMsg msgs s → ∀ platform behind,
      s.toString platform behind = some (report errCode (errMsg ++ msgs.flatten))) ↔
      msgs ≠ [] ∧ (errMsg ++ msgs.flatten).length < sliceInlinedSize := by
  constructor
  · intro hreport
    -- a message that no NUL follows is not read to an end
    have hfail : ∀ s, Built errCode errMsg msgs s → 0 ∉ s.message.storage → False := by
      intro s hs hstorage
      have htext := hreport s hs .linux []
      rw [hs.toString_eq hcode hne, List.append_nil, cString_of_notMem hstorage] at htext
      cases htext
    have hmsgs : msgs ≠ [] := by
      rintro rfl
      rw [List.flatten_nil, List.append_nil] at hnul hne
      apply hfail _ (.make fun _ => 1)
      rw [StatusObject.make, SliceData.storage_construct hne, List.mem_append, not_or]
      refine ⟨hnul, fun hmem => ?_⟩
      obtain ⟨i, -, hi⟩ := List.mem_map.mp (List.mem_of_mem_drop hmem)
      exact absurd hi (by decide)
    refine ⟨hmsgs, ?_⟩
    by_contra hlong
    obtain ⟨s, hs⟩ := exists_built errCode errMsg msgs
    apply hfail s hs
    rw [hs.storage_eq hmsgs, Nat.sub_eq_zero_of_le (by omega), List.replicate_zero, List.append_nil]
    exact hnul
  · rintro ⟨hmsgs, hlen⟩ s hs platform behind
    -- at least one zero follows the message in the array
    obtain ⟨k, hk⟩ := Nat.exists_eq_succ_of_ne_zero (Nat.sub_ne_zero_of_lt hlen)
    have hread : cString (s.message.storage ++ behind) = some (errMsg ++ msgs.flatten) := by
      rw [hs.storage_eq hmsgs, hk, List.replicate_succ, List.append_assoc, List.cons_append]
      exact cString_append hnul _
    rw [hs.toString_eq hcode hne, hread, Option.bind_some]
    exact asprintfResult_report hnul (Nat.le_of_lt hlen) errCode

/-- An appended text of two bytes is reported. -/
theorem appended_message_reported :
    ((make (-1) [] fun _ => 7).appendMessage (ascii "no") (fun _ => 7) fun _ => 7).toString .linux [88] =
      some (ascii "Error code is -1. no.") :=
  (toString_report_iff (-1) [] [ascii "no"] (by decide) (by decide) (by decide)).mpr ⟨by decide, by decide⟩ _
    ((Built.make fun _ => 7).append (ascii "no") (fun _ => 7) fun _ => 7) .linux [88]

/-- The constructor leaves the rest of the array as it was: the report goes on past the message, or has no end. -/
theorem constructed_message_misreported :
    report (-1) (ascii "no") = ascii "Error code is -1. no." ∧
    (make (-1) (ascii "no") fun i => if i = 5 then 0 else 88).toString .linux [] =
      some (ascii "Error code is -1. noXXX.") ∧
    (make (-1) (ascii "no") fun _ => 88).toString .linux [] = none ∧
    (make (-1) (List.replicate 24 88) fun _ => 0).toString .linux [89, 0] =
      some (ascii "Error code is -1. XXXXXXXXXXXXXXXXXXXXXXXXY.") := by
  decide

end Report

end StatusObject

end RaptorLite
