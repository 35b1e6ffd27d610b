import Mathlib.Data.List.Basic
import Mathlib.Data.List.Infix
import Mathlib.Data.Int.Basic

/-! # Cutting a stream into packages with a length oracle

A framer reads a stream through a bounded window: `check` looks at the first `w` elements that are
still unframed and answers with a negative number (the stream is malformed), with `0` (more data is
needed) or with the length of the next package. `frame` is the whole-stream reading of this protocol;
`feed` gives the framer the stream in pieces and keeps the unframed tail between them.

When a non-zero answer is *stable* under extension of the window, `frame` obeys an append law
(`frame_append`), and feeding any pieces is framing their concatenation (`feed_eq_frame`): the cuts
cannot be observed. -/

namespace RaptorLite.StreamFraming

universe u

variable {β : Type u}

/-- A non-zero answer does not change when the window grows. -/
def Stable (check : List β → ℤ) : Prop := ∀ p q, check p ≠ 0 → check (p ++ q) = check p

/-- Frame a whole stream: the packages in order, and the unframed tail (`none` when `check` found the
stream malformed). -/
def frame (check : List β → ℤ) (w : ℕ) (s : List β) : List (List β) × Option (List β) :=
  if _hs : s = [] then ([], some [])
  else
    let n := check (s.take w)
    if n < 0 then ([], none)
    else if _hn : n = 0 ∨ s.length < n.toNat then ([], some s)
    else
      let r := frame check w (s.drop n.toNat)
      (s.take n.toNat :: r.1, r.2)
termination_by s.length
decreasing_by
  have hpos : 0 < s.length := List.length_pos_iff.mpr _hs
  simp only [not_or, not_lt] at _hn
  rw [List.length_drop]
  omega

variable {check : List β → ℤ} {w : ℕ}

/-- No bytes frame to no packages, with nothing left over. -/
@[simp] theorem frame_nil : frame check w [] = ([], some []) := by
  rw [frame]
  simp

/-- A negative answer ends the framing. -/
theorem frame_of_neg {s : List β} (hs : s ≠ []) (hn : check (s.take w) < 0) :
    frame check w s = ([], none) := by
  rw [frame, dif_neg hs, if_pos hn]

/-- No answer, or a package longer than what is there, leaves the stream as the tail. -/
theorem frame_of_wait {s : List β} (hs : s ≠ []) (hn : ¬ check (s.take w) < 0)
    (hw : check (s.take w) = 0 ∨ s.length < (check (s.take w)).toNat) :
    frame check w s = ([], some s) := by
  rw [frame, dif_neg hs, if_neg hn, dif_pos hw]

/-- A package that is there is delivered, and framing goes on behind it. -/
theorem frame_of_package {s : List β} (hs : s ≠ []) (hn : 0 < check (s.take w))
    (hle : (check (s.take w)).toNat ≤ s.length) :
    frame check w s =
      (s.take (check (s.take w)).toNat :: (frame check w (s.drop (check (s.take w)).toNat)).1,
        (frame check w (s.drop (check (s.take w)).toNat)).2) := by
  have hw : ¬ (check (s.take w) = 0 ∨ s.length < (check (s.take w)).toNat) := by omega
  rw [frame, dif_neg hs, if_neg (by omega), dif_neg hw]

/-- Case analysis along the recursion of `frame`: a property of framings holds when it holds at the
four ends of one round. -/
theorem frame_induction (check : List β → ℤ) (w : ℕ) {P : List β → Prop} (hnil : P [])
    (hneg : ∀ s, s ≠ [] → check (s.take w) < 0 → P s)
    (hwait : ∀ s, s ≠ [] → ¬ check (s.take w) < 0 →
      (check (s.take w) = 0 ∨ s.length < (check (s.take w)).toNat) → P s)
    (hpack : ∀ s, s ≠ [] → 0 < check (s.take w) → (check (s.take w)).toNat ≤ s.length →
      P (s.drop (check (s.take w)).toNat) → P s) (s : List β) : P s := by
  induction hk : s.length using Nat.strong_induction_on generalizing s with
  | _ k ih =>
    by_cases hs : s = []
    · exact hs ▸ hnil
    by_cases hn : check (s.take w) < 0
    · exact hneg s hs hn
    by_cases hw : check (s.take w) = 0 ∨ s.length < (check (s.take w)).toNat
    · exact hwait s hs hn hw
    · have hpos : 0 < s.length := List.length_pos_iff.mpr hs
      refine hpack s hs (by omega) (by omega) (ih _ ?_ _ rfl)
      rw [List.length_drop]
      omega

/-! ### The append law -/

/-- A non-zero answer on the window of `s` is the answer on the window of any extension of `s`. -/
theorem check_take_append (hst : Stable check) {s : List β} (h0 : check (s.take w) ≠ 0)
    (t : List β) : check ((s ++ t).take w) = check (s.take w) := by
  rw [List.take_append]
  exact hst _ _ h0

/-- **The append law.** Framing a longer stream is framing its first part and then what that left
over together with the second part. -/
theorem frame_append (hst : Stable check) (s t : List β) :
    frame check w (s ++ t) =
      match (frame check w s).2 with
      | none => ((frame check w s).1, none)
      | some r => ((frame check w s).1 ++ (frame check w (r ++ t)).1, (frame check w (r ++ t)).2) := by
  induction s using frame_induction check w with
  | hnil => simp
  | hneg s hs hn =>
      have hc := check_take_append hst (show check (s.take w) ≠ 0 by omega) t
      rw [frame_of_neg hs hn, frame_of_neg (by simp [hs]) (by rw [hc]; exact hn)]
  | hwait s hs hn hw =>
      rw [frame_of_wait hs hn hw]
      simp
  | hpack s hs hn hle ih =>
      -- the answer on the longer window is the same, so the same package is taken off
      have hc := check_take_append hst (show check (s.take w) ≠ 0 by omega) t
      have hle' : (check ((s ++ t).take w)).toNat ≤ (s ++ t).length := by
        rw [hc, List.length_append]
        omega
      rw [frame_of_package (by simp [hs]) (by rw [hc]; exact hn) hle', hc,
        List.take_append_of_le_length hle, List.drop_append_of_le_length hle, ih,
        frame_of_package hs hn hle]
      cases (frame check w (s.drop (check (s.take w)).toNat)).2 with
      | none => rfl
      | some r => simp

/-- The tail that a framing leaves is itself left alone by the framer. -/
theorem frame_tail {s r : List β} (h : (frame check w s).2 = some r) :
    frame check w r = ([], some r) := by
  induction s using frame_induction check w with
  | hnil =>
      rw [frame_nil, Option.some.injEq] at h
      rw [← h, frame_nil]
  | hneg s hs hn =>
      rw [frame_of_neg hs hn] at h
      cases h
  | hwait s hs hn hw =>
      rw [frame_of_wait hs hn hw, Option.some.injEq] at h
      rw [← h, frame_of_wait hs hn hw]
  | hpack s hs hn hle ih =>
      rw [frame_of_package hs hn hle] at h
      exact ih h

/-! ### Feeding the stream in pieces -/

/-- Give the framer one piece after another, keeping the unframed tail, until an error. -/
def feed (check : List β → ℤ) (w : ℕ) : List β → List (List β) → List (List β) × Option (List β)
  | r, [] => ([], some r)
  | r, c :: cs =>
      match (frame check w (r ++ c)).2 with
      | none => ((frame check w (r ++ c)).1, none)
      | some r' =>
          ((frame check w (r ++ c)).1 ++ (feed check w r' cs).1, (feed check w r' cs).2)

/-- **The cuts cannot be observed.** Feeding pieces on top of a settled tail is framing the tail
followed by the concatenated pieces. -/
theorem feed_eq_frame (hst : Stable check) {r : List β} (hr : frame check w r = ([], some r))
    (cs : List (List β)) : feed check w r cs = frame check w (r ++ cs.flatten) := by
  induction cs generalizing r with
  | nil => simp [feed, hr]
  | cons c cs ih =>
      rw [feed, List.flatten_cons, ← List.append_assoc, frame_append hst (r ++ c)]
      cases h : (frame check w (r ++ c)).2 with
      | none => rfl
      | some r' => simp only [ih (frame_tail h)]

/-! ### What a framing delivers -/

/-- Without an error the packages and the tail are exactly the stream. -/
theorem frame_flatten {s r : List β} (h : (frame check w s).2 = some r) :
    (frame check w s).1.flatten ++ r = s := by
  induction s using frame_induction check w with
  | hnil =>
      rw [frame_nil, Option.some.injEq] at h
      simp [← h]
  | hneg s hs hn =>
      rw [frame_of_neg hs hn] at h
      cases h
  | hwait s hs hn hw =>
      rw [frame_of_wait hs hn hw, Option.some.injEq] at h
      rw [frame_of_wait hs hn hw, ← h]
      rfl
  | hpack s hs hn hle ih =>
      rw [frame_of_package hs hn hle] at h ⊢
      rw [List.flatten_cons, List.append_assoc, ih h, List.take_append_drop]

/-- In all cases the packages are a prefix of the stream. -/
theorem frame_flatten_prefix (s : List β) : (frame check w s).1.flatten <+: s := by
  induction s using frame_induction check w with
  | hnil => simp
  | hneg s hs hn => simp [frame_of_neg hs hn]
  | hwait s hs hn hw => simp [frame_of_wait hs hn hw]
  | hpack s hs hn hle ih =>
      rw [frame_of_package hs hn hle, List.flatten_cons]
      obtain ⟨t, ht⟩ := ih
      exact ⟨t, by rw [List.append_assoc, ht, List.take_append_drop]⟩

/-- Each package has the length that `check` announced for it on the window at its start. -/
theorem frame_announced {s : List β} {before after : List (List β)} {p : List β}
    (h : (frame check w s).1 = before ++ p :: after) :
    check ((s.drop before.flatten.length).take w) = p.length := by
  induction s using frame_induction check w generalizing before with
  | hnil => simp at h
  | hneg s hs hn => simp [frame_of_neg hs hn] at h
  | hwait s hs hn hw => simp [frame_of_wait hs hn hw] at h
  | hpack s hs hn hle ih =>
      rw [frame_of_package hs hn hle] at h
      cases before with
      | nil =>
          -- the package at the start of the stream
          rw [List.nil_append, List.cons.injEq] at h
          rw [← h.1, List.length_take]
          simp only [List.flatten_nil, List.length_nil, List.drop_zero]
          omega
      | cons q before =>
          rw [List.cons_append, List.cons.injEq] at h
          have hq : q.length = (check (s.take w)).toNat := by
            rw [← h.1, List.length_take]
            omega
          -- a later package: the windows of the rest are windows of the stream
          have hd := ih h.2
          rw [List.drop_drop] at hd
          rw [List.flatten_cons, List.length_append, hq]
          exact hd

end RaptorLite.StreamFraming
