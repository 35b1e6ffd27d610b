import Mathlib.Logic.Relation
import RaptorLite.Foundations.FramedMessages

/-! # Channels of messages

A sender that puts messages one behind the other into a stream, and a receiver that cuts them out of it again.
`Outgoing` is what the one side shows: the messages, the part of the stream that the medium took and the part
that is buffered. `Incoming` is what the other side shows: how much of the stream arrived, what was cut out of
it and what is left over. `OutStep` and `InStep` say what a step of either side may do, however the side is
made; `Channel` is kept by both, so that a side takes part in a channel as soon as its steps are known to be
sequences of these. -/

namespace RaptorLite.StreamFraming

universe u

variable {β : Type u}

/-- The side that sends. -/
structure Outgoing (β : Type u) where
  /-- The messages put into the stream, in order. -/
  messages : List (List β)
  /-- The part of the stream that the medium took. -/
  accepted : List β
  /-- The part behind it that is buffered. -/
  buffered : List β
  /-- The side is open. -/
  isOpen : Bool

/-- The side that receives. -/
structure Incoming (β : Type u) where
  /-- How much of the stream has arrived. -/
  arrived : Nat
  /-- The messages cut out of it, in order. -/
  delivered : List (List β)
  /-- What is left over behind them. -/
  rest : List β
  /-- The side is open. -/
  isOpen : Bool

/-- What the medium took and has not brought. -/
def Outgoing.inFlight (o : Outgoing β) (i : Incoming β) : List β := o.accepted.drop i.arrived

/-- What a sender may do, with messages that meet `ok`. -/
inductive OutStep (ok : List β → Prop) (o o' : Outgoing β) : Prop
  /-- A message is put behind the others. -/
  | queue {m : List β} : o.isOpen = true → ok m → o'.messages = o.messages ++ [m] → o'.accepted = o.accepted →
      o'.buffered = o.buffered ++ m → o'.isOpen = o.isOpen → OutStep ok o o'
  /-- The medium takes the front of the buffer. -/
  | take {bytes : List β} : o'.messages = o.messages → o'.accepted = o.accepted ++ bytes →
      o.buffered = bytes ++ o'.buffered → o'.isOpen = o.isOpen → OutStep ok o o'
  /-- The side closes, and the buffer is lost. -/
  | close : o'.messages = o.messages → o'.accepted = o.accepted → o'.buffered = [] → o'.isOpen = false →
      OutStep ok o o'

/-- With `rest` left over, these bytes let a receiver cut out `more` and leave `rest'`, whatever messages that
meet `ok` the stream is made of. -/
def Cuts (ok : List β → Prop) (rest bytes : List β) (more : List (List β)) (rest' : List β) : Prop :=
  ∀ ms : List (List β), (∀ m ∈ ms, ok m) → Incomplete rest ms → rest ++ bytes <+: ms.flatten →
    ∃ after, ms = more ++ after ∧ rest ++ bytes = more.flatten ++ rest' ∧ Incomplete rest' after

/-- What a receiver may do while the medium has taken `accepted`. -/
inductive InStep (ok : List β → Prop) (accepted : List β) (i i' : Incoming β) : Prop
  /-- Bytes arrive, and the messages that are complete are cut out. -/
  | arrive {bytes : List β} {more : List (List β)} : i.isOpen = true → bytes <+: accepted.drop i.arrived →
      Cuts ok i.rest bytes more i'.rest → i'.arrived = i.arrived + bytes.length →
      i'.delivered = i.delivered ++ more → i'.isOpen = i.isOpen → InStep ok accepted i i'
  /-- The side closes, and what is left over is lost. -/
  | close : i'.arrived = i.arrived → i'.delivered = i.delivered → i'.isOpen = false → InStep ok accepted i i'

/-- **The invariant of a channel**: what the receiver has cut out, what is left over there, what is in flight
and what the sender has buffered are consecutive parts of the messages that were sent. -/
structure Channel (ok : List β → Prop) (o : Outgoing β) (i : Incoming β) : Prop where
  /-- The messages meet `ok`. -/
  announced : ∀ m ∈ o.messages, ok m
  /-- What was taken and what is buffered is the start of what was sent. -/
  sent : o.accepted ++ o.buffered <+: o.messages.flatten
  /-- It is all of it while the sender is open. -/
  sent_open : o.isOpen = true → o.accepted ++ o.buffered = o.messages.flatten
  /-- Nothing arrives that was not sent. -/
  arrived_le : i.arrived ≤ o.accepted.length
  /-- What has arrived are the messages cut out and a proper part of the next one. -/
  received : ∃ after tail, o.messages = i.delivered ++ after ∧
    o.accepted.take i.arrived = i.delivered.flatten ++ tail ∧ Incomplete tail after ∧
    (i.isOpen = true → i.rest = tail)

namespace Channel

variable {ok : List β → Prop} {o o' : Outgoing β} {i i' : Incoming β}

/-- Nothing has been sent. -/
theorem start (ok : List β → Prop) (hmessages : o.messages = []) (haccepted : o.accepted = [])
    (hbuffered : o.buffered = []) (harrived : i.arrived = 0) (hdelivered : i.delivered = [])
    (hrest : i.rest = []) : Channel ok o i where
  announced := by
    intro m hm
    rw [hmessages] at hm
    cases hm
  sent := by
    rw [haccepted, hbuffered]
    exact List.nil_prefix
  sent_open := by
    intro _
    rw [haccepted, hbuffered, hmessages]
    rfl
  arrived_le := by
    rw [harrived]
    exact Nat.zero_le _
  received := ⟨[], [], by rw [hmessages, hdelivered]; rfl, by rw [harrived, hdelivered]; rfl, rfl, fun _ => hrest⟩

/-! ### Steps of the sender -/

/-- The medium takes more of the stream: nothing changes for the receiver. -/
theorem received_of_prefix (h : Channel ok o i) (haccepted : o.accepted <+: o'.accepted)
    (hmessages : o'.messages = o.messages) :
    i.arrived ≤ o'.accepted.length ∧ ∃ after tail, o'.messages = i.delivered ++ after ∧
      o'.accepted.take i.arrived = i.delivered.flatten ++ tail ∧ Incomplete tail after ∧
      (i.isOpen = true → i.rest = tail) := by
  obtain ⟨after, tail, hafter, harrived, htail, hrest⟩ := h.received
  have hle := h.arrived_le
  obtain ⟨taken, htaken⟩ := haccepted
  have hle' : i.arrived ≤ o'.accepted.length := by
    rw [← htaken, List.length_append]
    omega
  refine ⟨hle', after, tail, by rw [hmessages, hafter], ?_, htail, hrest⟩
  rw [← htaken, List.take_append_of_le_length hle, harrived]

/-- **A step of the sender** keeps the channel. -/
theorem out (hne : ∀ m, ok m → m ≠ []) (h : Channel ok o i) (hstep : OutStep ok o o') : Channel ok o' i := by
  cases hstep with
  | queue hopen hm hmessages haccepted hbuffered hopen' =>
      have hall := h.sent_open hopen
      have hall' : o'.accepted ++ o'.buffered = o'.messages.flatten := by
        rw [haccepted, hbuffered, hmessages, ← List.append_assoc, hall]
        simp
      obtain ⟨after, tail, hafter, harrived, htail, hrest⟩ := h.received
      refine ⟨?_, by rw [hall'], fun _ => hall', by rw [haccepted]; exact h.arrived_le, ?_⟩
      · intro m' hm'
        rw [hmessages] at hm'
        rcases List.mem_append.mp hm' with hm' | hm'
        · exact h.announced m' hm'
        · exact List.mem_singleton.mp hm' ▸ hm
      · refine ⟨after ++ [_], tail, ?_, by rw [haccepted, harrived], htail.append (hne _ hm), hrest⟩
        rw [hmessages, hafter, List.append_assoc]
  | take hmessages haccepted hbuffered hopen =>
      obtain ⟨hle, hreceived⟩ := h.received_of_prefix (by rw [haccepted]; exact List.prefix_append _ _) hmessages
      have hsame : o'.accepted ++ o'.buffered = o.accepted ++ o.buffered := by
        rw [haccepted, hbuffered, List.append_assoc]
      refine ⟨by rw [hmessages]; exact h.announced, by rw [hsame, hmessages]; exact h.sent, ?_, hle, hreceived⟩
      intro hopen'
      rw [hsame, hmessages]
      exact h.sent_open (hopen ▸ hopen')
  | close hmessages haccepted hbuffered hclosed =>
      obtain ⟨hle, hreceived⟩ := h.received_of_prefix (by rw [haccepted]) hmessages
      refine ⟨by rw [hmessages]; exact h.announced, ?_, ?_, hle, hreceived⟩
      · rw [haccepted, hbuffered, hmessages, List.append_nil]
        exact (List.prefix_append _ _).trans h.sent
      · intro hopen
        rw [hclosed] at hopen
        cases hopen

/-- Steps of the sender keep the channel. -/
theorem outSteps (hne : ∀ m, ok m → m ≠ []) (h : Channel ok o i)
    (hsteps : Relation.ReflTransGen (OutStep ok) o o') : Channel ok o' i := by
  induction hsteps with
  | refl => exact h
  | tail _ hstep ih => exact ih.out hne hstep

/-! ### Steps of the receiver -/

/-- Bytes in flight arrive behind those that have. -/
theorem take_arrived {bytes : List β} (hbytes : bytes <+: o.inFlight i) :
    o.accepted.take (i.arrived + bytes.length) = o.accepted.take i.arrived ++ bytes := by
  rw [List.take_add]
  congr 1
  exact (List.prefix_iff_eq_take.mp hbytes).symm

/-- What is left over at an open receiver is the start of what is still to be delivered, and what is in flight
continues it. -/
theorem awaits (h : Channel ok o i) (hopen : i.isOpen = true) :
    ∃ after, o.messages = i.delivered ++ after ∧ o.accepted.take i.arrived = i.delivered.flatten ++ i.rest ∧
      (∀ m ∈ after, ok m) ∧ Incomplete i.rest after ∧
      ∀ bytes, bytes <+: o.inFlight i → i.rest ++ bytes <+: after.flatten := by
  obtain ⟨after, tail, hmessages, harrived, htail, hrest⟩ := h.received
  have htail' := hrest hopen
  subst htail'
  refine ⟨after, hmessages, harrived, ?_, htail, ?_⟩
  · intro m hm
    refine h.announced m ?_
    rw [hmessages]
    exact List.mem_append_right _ hm
  · intro bytes hbytes
    have hsent : o.accepted.take (i.arrived + bytes.length) <+: o.messages.flatten :=
      (List.take_prefix _ _).trans ((List.prefix_append _ _).trans h.sent)
    rw [take_arrived hbytes, harrived, hmessages, List.flatten_append, List.append_assoc] at hsent
    exact (List.prefix_append_right_inj _).mp hsent

/-- **A step of the receiver** keeps the channel. -/
theorem inStep (h : Channel ok o i) (hstep : InStep ok o.accepted i i') : Channel ok o i' := by
  cases hstep with
  | arrive hopen hbytes hcuts harrived hdelivered hopen' =>
      obtain ⟨after, hmessages, hbefore, hafter, htail, hpart⟩ := h.awaits hopen
      obtain ⟨after, rfl, hsplit, hend⟩ := hcuts after hafter htail (hpart _ hbytes)
      refine ⟨h.announced, h.sent, h.sent_open, ?_, after, i'.rest, ?_, ?_, hend, fun _ => rfl⟩
      · have hlen := hbytes.length_le
        have hle := h.arrived_le
        rw [List.length_drop] at hlen
        omega
      · rw [hmessages, hdelivered, List.append_assoc]
      · rw [harrived, hdelivered, take_arrived hbytes, hbefore, List.append_assoc, hsplit, List.flatten_append,
          List.append_assoc]
  | close harrived hdelivered hclosed =>
      obtain ⟨after, tail, hmessages, hbefore, htail, -⟩ := h.received
      refine ⟨h.announced, h.sent, h.sent_open, by rw [harrived]; exact h.arrived_le, after, tail, ?_, ?_, htail, ?_⟩
      · rw [hmessages, hdelivered]
      · rw [harrived, hbefore, hdelivered]
      · intro hopen
        rw [hclosed] at hopen
        cases hopen

/-- Steps of the receiver keep the channel. -/
theorem inSteps (h : Channel ok o i) (hsteps : Relation.ReflTransGen (InStep ok o.accepted) i i') :
    Channel ok o i' := by
  induction hsteps with
  | refl => exact h
  | tail _ hstep ih => exact ih.inStep hstep

/-! ### What a channel gives -/

/-- What is cut out are the messages that were sent, in order. -/
theorem inOrder (h : Channel ok o i) : i.delivered <+: o.messages := by
  obtain ⟨after, -, hmessages, -⟩ := h.received
  rw [hmessages]
  exact List.prefix_append _ _

/-- A message is cut out as soon as its last byte has arrived. -/
theorem atOnce (h : Channel ok o i) {k : Nat} (hk : (o.messages.take k).flatten.length ≤ i.arrived) :
    o.messages.take k <+: i.delivered := by
  obtain ⟨after, tail, hmessages, harrived, htail, -⟩ := h.received
  have hlen := congrArg List.length harrived
  have hle := h.arrived_le
  rw [List.length_take, List.length_append, Nat.min_eq_left hle] at hlen
  rw [hmessages, List.take_append] at hk ⊢
  cases hmore : after.take (k - i.delivered.length) with
  | nil =>
      rw [List.append_nil]
      exact List.take_prefix _ _
  | cons m rest =>
      -- a message behind those cut out has not arrived as a whole
      cases after with
      | nil => simp at hmore
      | cons m' after =>
          obtain ⟨j, hj⟩ : ∃ j, k - i.delivered.length = j + 1 := by
            cases hsub : k - i.delivered.length with
            | zero =>
                rw [hsub] at hmore
                cases hmore
            | succ j => exact ⟨j, rfl⟩
          rw [hj, List.take_of_length_le (by omega), List.take_succ_cons, List.flatten_append,
            List.flatten_cons, List.length_append, List.length_append] at hk
          have hshort : tail.length < m'.length := htail.2
          omega

/-- With nothing buffered and nothing in flight, all messages are cut out. -/
theorem complete (h : Channel ok o i) (hopen : o.isOpen = true) (hbuffered : o.buffered = [])
    (hflight : o.inFlight i = []) : i.delivered = o.messages := by
  obtain ⟨after, tail, hmessages, harrived, htail, -⟩ := h.received
  have hall := h.sent_open hopen
  have hle : o.accepted.length ≤ i.arrived := List.drop_eq_nil_iff.mp hflight
  rw [hbuffered, List.append_nil, ← List.take_of_length_le hle, harrived, hmessages, List.flatten_append,
    List.append_cancel_left_eq] at hall
  rw [hmessages, (htail.eq_nil hall).2, List.append_nil]

end Channel

end RaptorLite.StreamFraming
