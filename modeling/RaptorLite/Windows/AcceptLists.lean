import Mathlib.Data.List.Perm.Basic
import RaptorLite.Windows.TcpListener

/-! # The accept lists through growth and shutdown

How the lists of a `TcpListener` (`windows/tcp_listener.cc`) lie in memory. In every run each of them is a strand
between its head, where the vector has it now, and the place where the head was initialised; it is well formed
exactly if the two are the same, that is, if the vector has not moved since. The copy that `Shutdown` makes is
never in that place, so that the loop which drains it runs past the entries and comes to the head that was
copied, which is no `AcceptObject`. -/

namespace RaptorLite.Windows

namespace TcpListener

variable {s s' : TcpListener} {grow : Nat → Nat} {threads : Nat}

/-! ### The layout -/

/-- How the lists lie in memory. -/
structure Laid (s : TcpListener) : Prop where
  /-- Each list is a strand that points to where its head was initialised. -/
  strand : ∀ (i : Nat) (p : ListenPort), s.heads[i]? = some p → p.born ≤ s.buffer ∧
    Strand s.cells (.head s.buffer i) (p.objects.map .object) (.head p.born i)
  /-- No object is in two lists. -/
  disjoint : ∀ (i j : Nat) (p q : ListenPort), s.heads[i]? = some p → s.heads[j]? = some q →
    ∀ x ∈ p.objects, x ∈ q.objects → i = j
  /-- The buffers that the vector has left, or not reached, are not allocated. -/
  stale : ∀ buffer index, buffer ≠ s.buffer → s.cells (.head buffer index) = none
  /-- Nor are the objects to come. -/
  fresh : ∀ id, s.nextObject ≤ id → s.cells (.object id) = none
  /-- Nor is the local variable of `Shutdown`. -/
  info : s.cells .info = none

/-- At the start every list head lies at its own place. -/
theorem laid_init : (listenerMachine grow threads).init.Laid := by
  refine ⟨?_, ?_, fun _ _ _ => rfl, fun _ _ => rfl, rfl⟩
  · intro i p hp
    cases hp
  · intro i j p q hp
    cases hp

/-- The objects in the lists exist. -/
theorem Laid.lt_nextObject (h : s.Laid) {i : Nat} {p : ListenPort} (hp : s.heads[i]? = some p) {x : Nat}
    (hx : x ∈ p.objects) : x < s.nextObject := by
  by_contra hge
  have hsome := (h.strand i p hp).2.isSome (List.mem_cons_of_mem _ (List.mem_map.mpr ⟨x, hx, rfl⟩))
  rw [h.fresh x (Nat.not_lt.mp hge)] at hsome
  cases hsome

/-- The head of a list is none of its objects. -/
theorem head_notMem (buffer index : Nat) (objects : List Nat) :
    EntryAddr.head buffer index ∉ objects.map EntryAddr.object := by
  simp

/-- A list head is not the entry of an accept object. -/
theorem info_notMem (objects : List Nat) : EntryAddr.info ∉ objects.map EntryAddr.object := by
  simp

/-! ### Growing -/

/-- A vector that moves takes the heads with it and leaves the objects where they are. -/
theorem Laid.relocate (h : s.Laid) : (s.relocate grow).Laid := by
  have hhead : ∀ i, i < s.heads.length →
      (s.relocate grow).cells (.head (s.buffer + 1) i) = s.cells (.head s.buffer i) := by
    intro i hi
    show (if s.buffer + 1 = s.buffer then none else _) = _
    rw [if_neg (Nat.succ_ne_self _), if_pos ⟨rfl, hi⟩]
  refine ⟨?_, h.disjoint, ?_, h.fresh, h.info⟩
  · intro i p hp
    obtain ⟨hborn, hstrand⟩ := h.strand i p hp
    refine ⟨Nat.le_succ_of_le hborn, ?_⟩
    refine hstrand.copy (head_notMem _ _ _) (hhead i (List.getElem?_eq_some_iff.mp hp).1) ?_
    intro x hx
    obtain ⟨id, -, rfl⟩ := List.mem_map.mp hx
    rfl
  · intro buffer index hbuffer
    show (if buffer = s.buffer then none else _) = none
    by_cases hold : buffer = s.buffer
    · rw [if_pos hold]
    · rw [if_neg hold, if_neg fun hnew => hbuffer hnew.1]
      exact h.stale buffer index hold

/-- Another head is put behind the others and initialised. -/
theorem Laid.emplace (h : s.Laid) (listenFd : UInt64) :
    ({ s with
       cells := (s.cells.alloc (.head s.buffer s.heads.length)).listInit (.head s.buffer s.heads.length)
       heads := s.heads ++ [⟨listenFd, s.buffer, []⟩] } : TcpListener).Laid := by
  have hother : ∀ a, a ≠ .head s.buffer s.heads.length →
      (s.cells.alloc (.head s.buffer s.heads.length)).listInit (.head s.buffer s.heads.length) a = s.cells a := by
    intro a ha
    rw [Cells.listInit, Cells.put_of_ne _ ha, Cells.alloc_of_ne _ ha]
  have hports : ∀ i p, (s.heads ++ [⟨listenFd, s.buffer, []⟩])[i]? = some p →
      s.heads[i]? = some p ∨ i = s.heads.length ∧ p = ⟨listenFd, s.buffer, []⟩ := by
    intro i p hp
    by_cases hi : i < s.heads.length
    · rw [List.getElem?_append_left hi] at hp
      exact Or.inl hp
    · rw [List.getElem?_append_right (Nat.not_lt.mp hi), List.getElem?_singleton] at hp
      split at hp
      · next hzero => exact Or.inr ⟨by omega, (Option.some.inj hp).symm⟩
      · cases hp
  refine ⟨?_, ?_, ?_, ?_, ?_⟩
  · intro i p hp
    rcases hports i p hp with hp | ⟨rfl, rfl⟩
    · obtain ⟨hborn, hstrand⟩ := h.strand i p hp
      refine ⟨hborn, hstrand.congr ?_⟩
      intro x hx
      apply hother
      rintro rfl
      rcases List.mem_cons.mp hx with heq | hx
      · rw [EntryAddr.head.injEq] at heq
        have hlt := (List.getElem?_eq_some_iff.mp hp).1
        omega
      · exact head_notMem _ _ _ hx
    · exact ⟨Nat.le_refl _, ring_listInit _ _⟩
  · intro i j p q hp hq x hx hx'
    rcases hports i p hp with hp | ⟨-, rfl⟩
    · rcases hports j q hq with hq | ⟨-, rfl⟩
      · exact h.disjoint i j p q hp hq x hx hx'
      · cases hx'
    · cases hx
  · intro buffer index hbuffer
    refine (hother _ fun heq => ?_).trans (h.stale buffer index hbuffer)
    rw [EntryAddr.head.injEq] at heq
    exact hbuffer heq.1
  · intro id hid
    exact (hother _ (by simp)).trans (h.fresh id hid)
  · exact (hother _ (by simp)).trans h.info

/-! ### The loop of `AddListeningPort` -/

/-- One list changes, and with it only its own cells and the object that is being made. -/
theorem Laid.port (h : s.Laid) {index : Nat} {p : ListenPort} (hp : s.heads[index]? = some p) (p' : ListenPort)
    (hborn : p'.born = p.born) (hobjects : ∀ x ∈ p'.objects, x ∈ p.objects ∨ x = s.nextObject)
    (hbuffer : s'.buffer = s.buffer) (hnext : s'.nextObject = s.nextObject + 1)
    (hheads : ∀ j : Nat, s'.heads[j]? = if j = index then some p' else s.heads[j]?)
    (hstrand : Strand s'.cells (.head s.buffer index) (p'.objects.map .object) (.head p.born index))
    (hsame : ∀ a, a ∉ .object s.nextObject :: .head s.buffer index :: p.objects.map .object →
      s'.cells a = s.cells a) : s'.Laid := by
  have hports : ∀ (j : Nat) (q : ListenPort), s'.heads[j]? = some q →
      j = index ∧ q = p' ∨ j ≠ index ∧ s.heads[j]? = some q := by
    intro j q hq
    rw [hheads] at hq
    split at hq
    · next hj => exact Or.inl ⟨hj, (Option.some.inj hq).symm⟩
    · next hj => exact Or.inr ⟨hj, hq⟩
  refine ⟨?_, ?_, ?_, ?_, ?_⟩
  · intro j q hq
    rw [hbuffer]
    rcases hports j q hq with ⟨rfl, rfl⟩ | ⟨hj, hq⟩
    · rw [hborn]
      exact ⟨(h.strand j p hp).1, hstrand⟩
    · -- the other lists are elsewhere
      obtain ⟨hborn, hother⟩ := h.strand j q hq
      refine ⟨hborn, hother.congr ?_⟩
      intro a ha
      apply hsame
      rcases List.mem_cons.mp ha with rfl | ha
      · simp [hj]
      · obtain ⟨x, hx, rfl⟩ := List.mem_map.mp ha
        have hlt := h.lt_nextObject hq hx
        have hnot : x ∉ p.objects := fun hx' => hj (h.disjoint j index q p hq hp x hx hx')
        simp only [List.mem_cons, EntryAddr.object.injEq, reduceCtorEq, false_or, List.mem_map, exists_eq_right,
          not_or]
        exact ⟨Nat.ne_of_lt hlt, hnot⟩
  · intro i j q r hq hr x hx hx'
    rcases hports i q hq with ⟨rfl, rfl⟩ | ⟨hi, hq⟩
    · rcases hports j r hr with ⟨rfl, -⟩ | ⟨hj, hr⟩
      · rfl
      · rcases hobjects x hx with hx | rfl
        · exact h.disjoint i j p r hp hr x hx hx'
        · exact absurd (h.lt_nextObject hr hx') (Nat.lt_irrefl _)
    · rcases hports j r hr with ⟨rfl, rfl⟩ | ⟨hj, hr⟩
      · rcases hobjects x hx' with hx' | rfl
        · exact h.disjoint i j q p hq hp x hx hx'
        · exact absurd (h.lt_nextObject hq hx) (Nat.lt_irrefl _)
      · exact h.disjoint i j q r hq hr x hx hx'
  · intro buffer j hne
    rw [hbuffer] at hne
    rw [hsame _ (by simp [hne])]
    exact h.stale buffer j hne
  · intro id hid
    rw [hnext] at hid
    have hnot : id ∉ p.objects := fun hx => by
      have := h.lt_nextObject hp hx
      omega
    have hne : id ≠ s.nextObject := by omega
    rw [hsame _ (by simp [hnot, hne])]
    exact h.fresh id (by omega)
  · rw [hsame _ (by simp)]
    exact h.info

/-- The object to come is in no list. -/
theorem Laid.object_notMem (h : s.Laid) {index : Nat} {p : ListenPort} (hp : s.heads[index]? = some p) :
    EntryAddr.object s.nextObject ∉ EntryAddr.head s.buffer index :: p.objects.map EntryAddr.object := by
  simp only [List.mem_cons, reduceCtorEq, List.mem_map, EntryAddr.object.injEq, exists_eq_right, false_or]
  exact fun hx => Nat.lt_irrefl _ (h.lt_nextObject hp hx)

/-- A new object is pushed onto the list of a port that was born where the vector is. -/
theorem Laid.listPushBack (h : s.Laid) {index : Nat} {p : ListenPort} (hp : s.heads[index]? = some p)
    (hborn : p.born = s.buffer) :
    ∃ m, (s.cells.alloc (.object s.nextObject)).listPushBack (.head s.buffer index) (.object s.nextObject) =
        some m ∧
      Ring m (.head s.buffer index) (p.objects.map .object ++ [.object s.nextObject]) ∧
      ∀ a, a ∉ .object s.nextObject :: .head s.buffer index :: p.objects.map .object → m a = s.cells a := by
  have hnode := h.object_notMem hp
  have hring : Ring (s.cells.alloc (.object s.nextObject)) (.head s.buffer index) (p.objects.map .object) := by
    have hstrand := (h.strand index p hp).2
    rw [hborn] at hstrand
    apply hstrand.congr
    intro a ha
    exact s.cells.alloc_of_ne fun heq => hnode (heq ▸ ha)
  obtain ⟨m, hpush, hring', hsame⟩ := hring.listPushBack hnode (by simp [Cells.alloc])
  refine ⟨m, hpush, hring', ?_⟩
  intro a ha
  rw [hsame.same a ha]
  exact s.cells.alloc_of_ne fun heq => ha (heq ▸ List.mem_cons_self)

/-- The port with one object more. -/
theorem getElem?_modify_objects {index : Nat} {p : ListenPort} (hp : s.heads[index]? = some p) (node j : Nat) :
    (s.heads.modify index fun p => { p with objects := p.objects ++ [node] })[j]? =
      if j = index then some { p with objects := p.objects ++ [node] } else s.heads[j]? := by
  by_cases hj : j = index
  · rw [if_pos hj, hj, List.getElem?_modify_eq, hp]
    rfl
  · rw [if_neg hj, List.getElem?_modify_ne _ _ (Ne.symm hj)]

/-- `StartAcceptEx` succeeds: the object stays in the list. -/
theorem Laid.started (h : s.Laid) {index : Nat} {p : ListenPort} (hp : s.heads[index]? = some p)
    (hborn : p.born = s.buffer) {m : Cells EntryAddr}
    (hring : Ring m (.head s.buffer index) (p.objects.map .object ++ [.object s.nextObject]))
    (hsame : ∀ a, a ∉ .object s.nextObject :: .head s.buffer index :: p.objects.map .object → m a = s.cells a) :
    ({ s with
       cells := m
       nextObject := s.nextObject + 1
       heads := s.heads.modify index fun p => { p with objects := p.objects ++ [s.nextObject] } } :
        TcpListener).Laid := by
  refine h.port hp { p with objects := p.objects ++ [s.nextObject] } rfl ?_ rfl rfl
    (getElem?_modify_objects hp s.nextObject) ?_ hsame
  · intro x hx
    rcases List.mem_append.mp hx with hx | hx
    · exact Or.inl hx
    · exact Or.inr (List.mem_singleton.mp hx)
  · rw [List.map_append, hborn]
    exact hring

/-- `StartAcceptEx` fails: the object is taken out again and deleted. -/
theorem Laid.refused (h : s.Laid) {index : Nat} {p : ListenPort} (hp : s.heads[index]? = some p)
    (hborn : p.born = s.buffer) {m : Cells EntryAddr}
    (hring : Ring m (.head s.buffer index) (p.objects.map .object ++ [.object s.nextObject]))
    (hsame : ∀ a, a ∉ .object s.nextObject :: .head s.buffer index :: p.objects.map .object → m a = s.cells a) :
    ∃ m', m.listRemoveEntry (.object s.nextObject) = some m' ∧
      ({ s with
         cells := m'.free (.object s.nextObject)
         nextObject := s.nextObject + 1
         deleted := s.deleted ++ [s.nextObject] } : TcpListener).Laid := by
  obtain ⟨m', hremove, hring', hsame'⟩ := hring.listRemoveEntry
  have hheads : ∀ j : Nat, s.heads[j]? = if j = index then some p else s.heads[j]? := by
    intro j
    by_cases hj : j = index
    · rw [if_pos hj, hj, hp]
    · rw [if_neg hj]
  refine ⟨m', hremove, h.port hp p rfl (fun x hx => Or.inl hx) rfl rfl hheads ?_ ?_⟩
  · rw [hborn]
    apply Strand.congr hring'
    intro a ha
    exact m'.free_of_ne fun heq => h.object_notMem hp (heq ▸ ha)
  · intro a ha
    obtain ⟨hnode, hother⟩ := not_or.mp (mt List.mem_cons.mpr ha)
    exact (m'.free_of_ne hnode).trans ((hsame'.same a hother).trans (hsame a ha))

/-- What the loop leaves as it is. -/
structure SamePorts (s s' : TcpListener) : Prop where
  /-- The flag. -/
  isShutdown : s'.isShutdown = s.isShutdown
  /-- The buffer. -/
  buffer : s'.buffer = s.buffer
  /-- Its size. -/
  capacity : s'.capacity = s.capacity
  /-- The ports. -/
  born : s'.heads.map ListenPort.born = s.heads.map ListenPort.born

/-- The loop returns and keeps the layout, whichever `StartAcceptEx` fails. -/
theorem Laid.startAccepts {index : Nat} (starts : Nat → Bool) (n : Nat) :
    ∀ (i : Nat) {s : TcpListener}, s.Laid → (∃ p, s.heads[index]? = some p ∧ p.born = s.buffer) →
      ∃ s', s.startAccepts index starts i n = some s' ∧ s'.Laid ∧ SamePorts s s' := by
  induction n with
  | zero => exact fun i s h _ => ⟨s, rfl, h, rfl, rfl, rfl, rfl⟩
  | succ n ih =>
      rintro i s h ⟨p, hp, hborn⟩
      obtain ⟨m, hpush, hring, hsame⟩ := h.listPushBack hp hborn
      rw [TcpListener.startAccepts, hpush, Option.bind_some]
      by_cases hstart : starts i = true
      · rw [if_pos hstart]
        obtain ⟨s', hret, hlaid', hsame'⟩ := ih (i + 1) (h.started hp hborn hring hsame)
          ⟨{ p with objects := p.objects ++ [s.nextObject] }, by
            rw [getElem?_modify_objects hp, if_pos rfl], hborn⟩
        have hborns : (s.heads.modify index fun p => { p with objects := p.objects ++ [s.nextObject] }).map
            ListenPort.born = s.heads.map ListenPort.born := map_modify_eq _ _ (by intro q; rfl) _ _
        exact ⟨s', hret, hlaid', hsame'.isShutdown, hsame'.buffer, hsame'.capacity, hsame'.born.trans hborns⟩
      · rw [if_neg hstart]
        obtain ⟨m', hremove, hlaid⟩ := h.refused hp hborn hring hsame
        rw [hremove]
        exact ⟨_, rfl, hlaid, rfl, rfl, rfl, rfl⟩

/-- What a call that adds a port does: the vector moves if it is full, and the port is born where the vector is
then. -/
structure Adds (grow : Nat → Nat) (s s' : TcpListener) : Prop where
  /-- The lists are laid out. -/
  laid : s'.Laid
  /-- The flag stays. -/
  isShutdown : s'.isShutdown = s.isShutdown
  /-- The buffer. -/
  buffer : s'.buffer = if s.heads.length = s.capacity then s.buffer + 1 else s.buffer
  /-- Its size. -/
  capacity : s'.capacity = if s.heads.length = s.capacity then grow s.capacity else s.capacity
  /-- The ports. -/
  born : s'.heads.map ListenPort.born = s.heads.map ListenPort.born ++ [s'.buffer]

/-- Every call that adds a port returns. -/
theorem Laid.addListeningPort (h : s.Laid) (hopen : s.isShutdown = false) (grow : Nat → Nat) (threads : Nat)
    (listenFd : UInt64) (starts : Nat → Bool) :
    ∃ s', s.addListeningPort grow threads (.prepared listenFd starts) = some s' ∧ Adds grow s s' := by
  -- the vector has room, or is moved
  obtain ⟨s₁, hs₁, hlaid₁, hflag₁, hheads₁, hbuffer₁, hcapacity₁⟩ :
      ∃ s₁, (if s.heads.length = s.capacity then s.relocate grow else s) = s₁ ∧ s₁.Laid ∧
        s₁.isShutdown = s.isShutdown ∧ s₁.heads = s.heads ∧
        s₁.buffer = (if s.heads.length = s.capacity then s.buffer + 1 else s.buffer) ∧
        s₁.capacity = if s.heads.length = s.capacity then grow s.capacity else s.capacity := by
    by_cases hfull : s.heads.length = s.capacity
    · simp only [if_pos hfull]
      exact ⟨_, rfl, h.relocate, rfl, rfl, rfl, rfl⟩
    · simp only [if_neg hfull]
      exact ⟨s, rfl, h, rfl, rfl, rfl, rfl⟩
  have hlaid₂ := hlaid₁.emplace listenFd
  have hlast : (s₁.heads ++ [⟨listenFd, s₁.buffer, []⟩])[s.heads.length]? = some ⟨listenFd, s₁.buffer, []⟩ := by
    rw [hheads₁, List.getElem?_append_right (Nat.le_refl _), Nat.sub_self]
    rfl
  obtain ⟨s', hret, hlaid', hsame⟩ := Laid.startAccepts starts (threads + 1) 0 hlaid₂ ⟨_, hlast, rfl⟩
  refine ⟨s', ?_, hlaid', ?_, ?_, ?_, ?_⟩
  · rw [TcpListener.addListeningPort, hopen, if_neg Bool.false_ne_true]
    dsimp only [emplaceBack]
    rw [hs₁, ← hheads₁]
    rw [← hheads₁] at hret
    exact hret
  · rw [hsame.isShutdown, ← hflag₁]
  · rw [hsame.buffer, ← hbuffer₁]
  · rw [hsame.capacity, ← hcapacity₁]
  · rw [hsame.born, hsame.buffer, ← hheads₁, List.map_append]
    rfl

/-! ### `Shutdown` -/

/-- Draining a list whose ends do not point to its head comes to nothing: behind the entries it meets what they
point to, which is the head that was copied. -/
theorem drain_eq_none {m : Cells EntryAddr} {buffer index : Nat} (rev : List Nat) (hnodup : rev.Nodup)
    (hprev : Leads m.prev .info (rev.map .object) (.head buffer index)) (hnext : m.next .info ≠ some .info)
    (fuel : Nat) (deleted : List Nat) : drain fuel m deleted = none := by
  induction rev generalizing m fuel deleted with
  | nil =>
      cases fuel with
      | zero => rfl
      | succ fuel =>
          rw [drain]
          cases hpop : m.listPopBack .info with
          | none => rfl
          | some r =>
              obtain ⟨second, m', rfl, -⟩ := Cells.listPopBack_some hnext hprev hpop
              rfl
  | cons x rest ih =>
      cases fuel with
      | zero => rfl
      | succ fuel =>
          rw [drain]
          cases hpop : m.listPopBack .info with
          | none => rfl
          | some r =>
              obtain ⟨second, m', rfl, hsecond, hprev', hnext'⟩ := Cells.listPopBack_some hnext hprev.1 hpop
              obtain ⟨hx, hrest⟩ := List.nodup_cons.mp hnodup
              -- the next entry, or the head that was copied
              have hinfo : EntryAddr.info ≠ second := by
                rintro rfl
                cases rest with
                | nil => exact absurd (hprev.2.symm.trans hsecond) (by simp)
                | cons y rest => exact absurd (hprev.2.1.symm.trans hsecond) (by simp)
              rw [Option.bind_some]
              dsimp only
              split
              · apply ih hrest
                · refine hprev.2.move ?_ ?_
                  · rw [Cells.prev, m'.free_of_ne (by simp), ← Cells.prev, hprev', Function.update_self, hsecond]
                  · intro a ha
                    obtain ⟨y, hy, rfl⟩ := List.mem_map.mp ha
                    have hne : EntryAddr.object y ≠ .object x := by
                      simp only [ne_eq, EntryAddr.object.injEq]
                      rintro rfl
                      exact hx hy
                    rw [Cells.prev, m'.free_of_ne hne, ← Cells.prev, hprev', Function.update_of_ne (by simp)]
                · rw [Cells.next, m'.free_of_ne (by simp), ← Cells.next, hnext', Function.update_of_ne hinfo]
                  exact hnext
              · rfl

/-- The copy of the head of a list is no head of a list. -/
theorem drain_copy_eq_none {m : Cells EntryAddr} {head : EntryAddr} {objects : List Nat} {buffer index : Nat}
    {link : Link EntryAddr} (h : Strand m head (objects.map .object) (.head buffer index))
    (hlink : m head = some link) (fuel : Nat) (deleted : List Nat) :
    drain fuel (m.put .info link) deleted = none := by
  have hcopy : Strand (m.put .info link) .info (objects.map .object) (.head buffer index) := by
    refine h.copy (info_notMem objects) (by rw [Cells.put_self, hlink]) ?_
    intro a ha
    apply Cells.put_of_ne
    rintro rfl
    exact info_notMem objects ha
  have hnodup : objects.reverse.Nodup := by
    rw [List.nodup_reverse]
    exact List.Nodup.of_map _ (List.nodup_cons.mp hcopy.nodup).2
  have hback : Leads (m.put .info link).prev .info (objects.reverse.map .object) (.head buffer index) := by
    rw [List.map_reverse]
    exact hcopy.backward
  refine drain_eq_none objects.reverse hnodup hback ?_ fuel deleted
  -- the link forward goes to an entry, or to where the head was initialised
  cases objects with
  | nil =>
      rw [show (m.put .info link).next .info = some (.head buffer index) from hcopy.forward]
      simp
  | cons x rest =>
      rw [show (m.put .info link).next .info = some (.object x) from hcopy.forward.1]
      simp

/-- `Shutdown` does not get through with any port. -/
theorem Laid.shutdown_eq_none (h : s.Laid) (hopen : s.isShutdown = false) (hports : s.heads ≠ []) (fuel : Nat) :
    s.shutdown fuel = none := by
  rw [shutdown, hopen, if_neg Bool.false_ne_true]
  obtain ⟨p, rest, hheads⟩ := List.exists_cons_of_ne_nil hports
  obtain ⟨-, hstrand⟩ := h.strand 0 p (by rw [hheads]; rfl)
  obtain ⟨link, hlink⟩ := Option.isSome_iff_exists.mp (hstrand.isSome List.mem_cons_self)
  rw [hheads, drainPorts, hlink, Option.bind_some, drain_copy_eq_none hstrand hlink]
  rfl

/-! ### Every run -/

/-- Every list is a well-formed circular doubly linked list of the objects that were pushed and not removed. -/
def ListsWellFormed (s : TcpListener) : Prop :=
  ∀ (i : Nat) (p : ListenPort), s.heads[i]? = some p →
    Ring s.cells (.head s.buffer i) (p.objects.map .object)

/-- `Shutdown` returns, having deleted every object in the lists once and nothing else. -/
def ReleasesAll (s : TcpListener) : Prop :=
  ∃ (fuel : Nat) (s' : TcpListener) (released : List Nat), s.shutdown fuel = some s' ∧
    s'.deleted = s.deleted ++ released ∧ released.Perm (s.heads.flatMap ListenPort.objects)

/-- The lists are well formed as long as the vector is where they were born. -/
theorem Laid.listsWellFormed_iff (h : s.Laid) :
    s.ListsWellFormed ↔ ∀ b ∈ s.heads.map ListenPort.born, b = s.buffer := by
  constructor
  · intro hwf b hb
    obtain ⟨p, hp, rfl⟩ := List.mem_map.mp hb
    obtain ⟨i, hi⟩ := List.mem_iff_getElem?.mp hp
    have heq := (h.strand i p hi).2.ring_iff.mp (hwf i p hi)
    rw [EntryAddr.head.injEq] at heq
    exact heq.1
  · intro hall i p hp
    have hborn := hall p.born (List.mem_map.mpr ⟨p, List.mem_iff_getElem?.mpr ⟨i, hp⟩, rfl⟩)
    rw [(h.strand i p hp).2.ring_iff, hborn]

/-- The vector moves with its first port, and for the second time when the first buffer is full. -/
structure Grown (grow : Nat → Nat) (s : TcpListener) : Prop where
  /-- The lists are laid out. -/
  laid : s.Laid
  /-- `Shutdown` has not run. -/
  isOpen : s.isShutdown = false
  /-- No buffer yet. -/
  empty : s.heads.length = 0 → s.buffer = 0 ∧ s.capacity = 0
  /-- The first buffer. -/
  small : 0 < s.heads.length → s.heads.length ≤ grow 0 →
    s.buffer = 1 ∧ s.capacity = grow 0 ∧ ∀ b ∈ s.heads.map ListenPort.born, b = 1
  /-- A later one. -/
  large : grow 0 < s.heads.length → 1 < s.buffer ∧ 1 ∈ s.heads.map ListenPort.born

/-- At the start there is no port and no buffer. -/
theorem grown_init : Grown grow (listenerMachine grow threads).init := by
  refine ⟨laid_init, rfl, fun _ => ⟨rfl, rfl⟩, ?_, ?_⟩
  · intro hpos
    cases hpos
  · intro hlarge
    cases hlarge

/-- Adding a port adds one list head. -/
theorem Adds.length (h : Adds grow s s') : s'.heads.length = s.heads.length + 1 := by
  have hlen := congrArg List.length h.born
  simpa using hlen

/-- Adding a port keeps the account of when the vector moved. -/
theorem Grown.adds (hgrow : 0 < grow 0) (h : Grown grow s) (hadds : Adds grow s s') : Grown grow s' := by
  have hlen := hadds.length
  have hbuffer := hadds.buffer
  have hcapacity := hadds.capacity
  refine ⟨hadds.laid, hadds.isShutdown.trans h.isOpen, ?_, ?_, ?_⟩
  · intro hzero
    omega
  · intro _ hsmall
    rcases Nat.eq_zero_or_pos s.heads.length with hzero | hpos
    · -- the first port
      obtain ⟨hb, hc⟩ := h.empty hzero
      rw [if_pos (by omega), hb] at hbuffer
      rw [if_pos (by omega), hc] at hcapacity
      refine ⟨hbuffer, hcapacity, ?_⟩
      rw [hadds.born, List.length_eq_zero_iff.mp hzero, hbuffer]
      exact fun b hb => List.mem_singleton.mp hb
    · -- there is room
      obtain ⟨hb, hc, hborn⟩ := h.small hpos (by omega)
      rw [if_neg (by omega), hb] at hbuffer
      rw [if_neg (by omega), hc] at hcapacity
      refine ⟨hbuffer, hcapacity, ?_⟩
      rw [hadds.born, hbuffer]
      intro b hb
      rcases List.mem_append.mp hb with hb | hb
      · exact hborn b hb
      · exact List.mem_singleton.mp hb
  · intro hlarge
    rw [hadds.born]
    rcases Nat.lt_or_ge (grow 0) s.heads.length with hold | hold
    · obtain ⟨hb, hmem⟩ := h.large hold
      refine ⟨?_, List.mem_append_left _ hmem⟩
      rw [hbuffer]
      split <;> omega
    · -- the first buffer is full: the ports in it stay behind
      obtain ⟨hb, hc, hborn⟩ := h.small (by omega) hold
      rw [if_pos (by omega), hb] at hbuffer
      refine ⟨by omega, List.mem_append_left _ ?_⟩
      obtain ⟨p, hp⟩ := List.exists_mem_of_length_pos (show 0 < s.heads.length by omega)
      have hmem : p.born ∈ s.heads.map ListenPort.born := List.mem_map.mpr ⟨p, hp, rfl⟩
      rw [← hborn _ hmem]
      exact hmem

/-- The lists are well formed exactly as long as the first buffer is large enough. -/
theorem Grown.listsWellFormed_iff (h : Grown grow s) : s.ListsWellFormed ↔ s.heads.length ≤ grow 0 := by
  rw [h.laid.listsWellFormed_iff]
  constructor
  · intro hall
    by_contra hlarge
    obtain ⟨hb, hmem⟩ := h.large (by omega)
    have heq := hall 1 hmem
    omega
  · intro hsmall b hb
    have hpos : 0 < s.heads.length := by
      have hlen := List.length_pos_of_mem hb
      simpa using hlen
    obtain ⟨hbuffer, -, hborn⟩ := h.small hpos hsmall
    rw [hbuffer]
    exact hborn b hb

/-- Calls of `AddListeningPort` always return. -/
theorem Grown.run (grow : Nat → Nat) (threads : Nat) (hgrow : 0 < grow 0) (calls : List ListenCall) :
    ∀ {s : TcpListener}, Grown grow s → ∃ s', (listenerMachine grow threads).run s calls = some s' ∧
      Grown grow s' ∧ s'.heads.length = s.heads.length + calls.countP ListenCall.adds := by
  induction calls with
  | nil => exact fun h => ⟨_, rfl, h, rfl⟩
  | cons call rest ih =>
      intro s h
      cases call with
      | unprepared => exact ih h
      | prepared listenFd starts =>
          obtain ⟨s₁, hret, hadds⟩ := h.laid.addListeningPort h.isOpen grow threads listenFd starts
          obtain ⟨s', hrun, hgrown, hlen⟩ := ih (h.adds hgrow hadds)
          refine ⟨s', ?_, hgrown, ?_⟩
          · rw [Machine.run_cons]
            show (s.addListeningPort grow threads (.prepared listenFd starts)).bind _ = _
            rw [hret]
            exact hrun
          · rw [hlen, hadds.length, List.countP_cons_of_pos rfl]
            omega

/-- Without a port there is nothing to release. -/
theorem releasesAll_of_nil (hopen : s.isShutdown = false) (hports : s.heads = []) : s.ReleasesAll := by
  obtain ⟨s', hret, hdeleted⟩ : ∃ s', s.shutdown 0 = some s' ∧ s'.deleted = s.deleted := by
    rw [shutdown, hopen, if_neg Bool.false_ne_true, hports]
    exact ⟨_, rfl, rfl⟩
  refine ⟨0, s', [], hret, hdeleted.trans (List.append_nil _).symm, ?_⟩
  rw [hports]
  exact List.Perm.refl _

/-- `Shutdown` works exactly without a port. -/
theorem Grown.releasesAll_iff (h : Grown grow s) : s.ReleasesAll ↔ s.heads.length = 0 := by
  constructor
  · rintro ⟨fuel, s', -, hret, -⟩
    by_contra hports
    have hnone := h.laid.shutdown_eq_none h.isOpen (fun hnil => hports (by rw [hnil]; rfl)) fuel
    rw [hret] at hnone
    cases hnone
  · intro hzero
    exact releasesAll_of_nil h.isOpen (List.length_eq_zero_iff.mp hzero)

end TcpListener

/-- **The accept lists.** For a vector that grows in any way, any number of threads and any calls of
`AddListeningPort`: the lists are well formed after every call if and only if no more ports are added than the
first buffer of the vector holds; and they are and `Shutdown` then releases every object once and nothing else
if and only if no port is added at all. -/
theorem accept_lists_iff (grow : Nat → Nat) (hgrow : ∀ c, c < grow c) (threads : Nat) (calls : List ListenCall) :
    ((∀ done, done <+: calls → ∃ s, (listenerMachine grow threads).run (listenerMachine grow threads).init done =
        some s ∧ s.ListsWellFormed) ↔ calls.countP ListenCall.adds ≤ grow 0) ∧
    (((∀ done, done <+: calls → ∃ s, (listenerMachine grow threads).run (listenerMachine grow threads).init done =
        some s ∧ s.ListsWellFormed) ∧
      ∃ s, (listenerMachine grow threads).run (listenerMachine grow threads).init calls = some s ∧
        s.ReleasesAll) ↔ calls.countP ListenCall.adds = 0) := by
  -- where any calls lead
  have hrun : ∀ done, ∃ s, (listenerMachine grow threads).run (listenerMachine grow threads).init done = some s ∧
      TcpListener.Grown grow s ∧ s.heads.length = done.countP ListenCall.adds := by
    intro done
    obtain ⟨s, hs, hgrown, hlen⟩ := TcpListener.Grown.run grow threads (hgrow 0) done TcpListener.grown_init
    exact ⟨s, hs, hgrown, by rw [hlen]; exact Nat.zero_add _⟩
  have hlists : (∀ done, done <+: calls → ∃ s, (listenerMachine grow threads).run
      (listenerMachine grow threads).init done = some s ∧ s.ListsWellFormed) ↔
        calls.countP ListenCall.adds ≤ grow 0 := by
    constructor
    · intro hall
      obtain ⟨s, hs, hwf⟩ := hall calls (List.prefix_refl _)
      obtain ⟨s', hs', hgrown, hlen⟩ := hrun calls
      rw [hs] at hs'
      obtain rfl := Option.some.inj hs'
      rw [← hlen]
      exact hgrown.listsWellFormed_iff.mp hwf
    · intro hle done hdone
      obtain ⟨s, hs, hgrown, hlen⟩ := hrun done
      refine ⟨s, hs, hgrown.listsWellFormed_iff.mpr ?_⟩
      rw [hlen]
      exact Nat.le_trans (hdone.sublist.countP_le) hle
  refine ⟨hlists, ?_⟩
  rw [hlists]
  obtain ⟨s, hs, hgrown, hlen⟩ := hrun calls
  constructor
  · rintro ⟨-, s', hs', hreleases⟩
    rw [hs] at hs'
    obtain rfl := Option.some.inj hs'
    rw [← hlen]
    exact hgrown.releasesAll_iff.mp hreleases
  · intro hzero
    refine ⟨by omega, s, hs, hgrown.releasesAll_iff.mpr ?_⟩
    rw [hlen]
    exact hzero

/-- One port in a vector whose first buffer holds one: the lists are well formed, and `Shutdown` does not release what
it should. A socket that cannot be prepared: there is nothing to release. -/
theorem accept_lists_iff_one_port :
    (∃ s, (listenerMachine (fun c => 2 * c + 1) 1).run (listenerMachine (fun c => 2 * c + 1) 1).init
        [.prepared 5 fun i => i == 0] = some s ∧ s.ListsWellFormed ∧ ¬ s.ReleasesAll) ∧
      ∃ s, (listenerMachine (fun c => 2 * c + 1) 1).run (listenerMachine (fun c => 2 * c + 1) 1).init
        [.unprepared] = some s ∧ s.ReleasesAll := by
  have hgrow : ∀ c, c < 2 * c + 1 := fun c => by omega
  constructor
  · obtain ⟨hlists, hreleases⟩ := accept_lists_iff (fun c => 2 * c + 1) hgrow 1 [.prepared 5 fun i => i == 0]
    have hall := hlists.mpr (by decide)
    obtain ⟨s, hrun, hwf⟩ := hall _ (List.prefix_refl _)
    refine ⟨s, hrun, hwf, fun hreleased => ?_⟩
    exact absurd (hreleases.mp ⟨hall, s, hrun, hreleased⟩) (by decide)
  · exact ((accept_lists_iff (fun c => 2 * c + 1) hgrow 1 [.unprepared]).2.mpr (by decide)).2

/-- Two ports in such a vector: the list of the first is not well formed. One port, and `Shutdown`: it does not
get through. -/
theorem accept_list_moved :
    (∃ s, (listenerMachine (fun c => 2 * c + 1) 1).run (listenerMachine (fun c => 2 * c + 1) 1).init
        [.prepared 5 fun _ => true, .prepared 6 fun _ => true] = some s ∧ ¬ s.ListsWellFormed) ∧
    ∃ s, (listenerMachine (fun c => 2 * c + 1) 1).run (listenerMachine (fun c => 2 * c + 1) 1).init
        [.prepared 5 fun _ => true] = some s ∧ ∀ fuel, s.shutdown fuel = none := by
  constructor
  · obtain ⟨s, hs, hgrown, hlen⟩ := TcpListener.Grown.run (fun c => 2 * c + 1) 1 (by decide)
      [.prepared 5 fun _ => true, .prepared 6 fun _ => true] TcpListener.grown_init
    refine ⟨s, hs, ?_⟩
    rw [hgrown.listsWellFormed_iff, hlen]
    decide
  · obtain ⟨s, hs, hgrown, hlen⟩ := TcpListener.Grown.run (fun c => 2 * c + 1) 1 (by decide)
      [.prepared 5 fun _ => true] TcpListener.grown_init
    refine ⟨s, hs, hgrown.laid.shutdown_eq_none hgrown.isOpen ?_⟩
    intro hnil
    rw [hnil] at hlen
    exact absurd hlen (by decide)

end RaptorLite.Windows
