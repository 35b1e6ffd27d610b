import RaptorLite.Foundations.StreamFraming

/-! # Messages that announce their length

What the sender of a framed stream owes the framer of `StreamFraming`: every message is not empty, and its
own window announces its length. A stream made of such messages is read back message by message, whatever
part of it has arrived: the part is the messages that are complete and a proper part of the next one
(`exists_split`), the window at the start of a complete message announces this message
(`Announced.check_append`), and on an incomplete one the framer waits (`Announced.check_incomplete`). -/

namespace RaptorLite.StreamFraming

universe u

variable {β : Type u}

/-- A message whose window announces its length. -/
structure Announced (check : List β → ℤ) (w : ℕ) (m : List β) : Prop where
  /-- There is something in it. -/
  ne_nil : m ≠ []
  /-- The window at its start gives its length. -/
  check_eq : check (m.take w) = m.length

/-- What is left of a stream behind the complete messages: a proper part of the next message, or nothing
where there is none. -/
def Incomplete (tail : List β) : List (List β) → Prop
  | [] => tail = []
  | m :: _ => tail <+: m ∧ tail.length < m.length

section Announced

variable {check : List β → ℤ} {w : ℕ} {m : List β}

/-- The window at the start of a message announces it, whatever follows. -/
theorem Announced.check_append (h : Announced check w m) (hst : Stable check) (rest : List β) :
    check ((m ++ rest).take w) = m.length := by
  have hpos : 0 < m.length := List.length_pos_iff.mpr h.ne_nil
  have hne : check (m.take w) ≠ 0 := by
    rw [h.check_eq]
    omega
  rw [check_take_append hst hne, h.check_eq]

/-- On a proper part of a message the framer has no answer yet, and then its window is not full, or it
knows the length of the message. -/
theorem Announced.check_incomplete (h : Announced check w m) (hst : Stable check) {tail : List β}
    (htail : tail <+: m) :
    (check (tail.take w) = 0 ∧ tail.length < w) ∨ check (tail.take w) = m.length := by
  obtain ⟨rest, rfl⟩ := htail
  by_cases hzero : check (tail.take w) = 0
  · refine Or.inl ⟨hzero, ?_⟩
    by_contra hlong
    -- a full window is the window of the whole message
    have hpos : 0 < (tail ++ rest).length := List.length_pos_iff.mpr h.ne_nil
    have hwhole := h.check_eq
    rw [List.take_append_of_le_length (by omega), hzero] at hwhole
    omega
  · refine Or.inr ?_
    rw [← check_take_append hst hzero rest, h.check_eq]

end Announced

/-- A new message at the end of the stream leaves what is incomplete so. -/
theorem Incomplete.append {tail : List β} {ms : List (List β)} (h : Incomplete tail ms) {m : List β}
    (hm : m ≠ []) : Incomplete tail (ms ++ [m]) := by
  cases ms with
  | nil =>
      cases h
      exact ⟨List.nil_prefix, List.length_pos_iff.mpr hm⟩
  | cons first rest => exact h

/-- Once everything has arrived, nothing is left over. -/
theorem Incomplete.eq_nil {tail : List β} {ms : List (List β)} (h : Incomplete tail ms)
    (hall : tail = ms.flatten) : tail = [] ∧ ms = [] := by
  cases ms with
  | nil => exact ⟨h, rfl⟩
  | cons m rest =>
      have hlen := congrArg List.length hall
      rw [List.flatten_cons, List.length_append] at hlen
      exact absurd h.2 (by omega)

/-- **What has arrived** of a stream of messages is the first of them and a proper part of the next. -/
theorem exists_split {ms : List (List β)} {s : List β} (hs : s <+: ms.flatten) :
    ∃ before after tail, ms = before ++ after ∧ s = before.flatten ++ tail ∧ Incomplete tail after := by
  induction ms generalizing s with
  | nil =>
      rw [List.flatten_nil, List.prefix_nil] at hs
      exact ⟨[], [], [], rfl, hs, rfl⟩
  | cons m ms ih =>
      rw [List.flatten_cons] at hs
      by_cases hshort : s.length < m.length
      · have hpart : s <+: m := List.prefix_of_prefix_length_le hs (List.prefix_append m _) (by omega)
        exact ⟨[], m :: ms, s, rfl, rfl, hpart, hshort⟩
      · -- the first message has arrived, and the others are read behind it
        have hfirst : m <+: s := List.prefix_of_prefix_length_le (List.prefix_append m _) hs (by omega)
        obtain ⟨s', rfl⟩ := hfirst
        obtain ⟨before, after, tail, rfl, rfl, htail⟩ :=
          ih ((List.prefix_append_right_inj m).mp hs)
        refine ⟨m :: before, after, tail, rfl, ?_, htail⟩
        rw [List.flatten_cons, List.append_assoc]

end RaptorLite.StreamFraming
