import Mathlib.Data.Multiset.AddSub
import Mathlib.Data.Multiset.Count

/-! # Counted blocks

Blocks of memory that are kept as long as something refers to them. Every block carries the number of its
references; taking one adds to it, giving one up subtracts from it, and the block is freed by whoever gives up
the last. What refers to the blocks is a multiset: `Balanced` says that every count is the multiplicity in it and
that exactly the blocks in it are there. The rules are those of a client that takes, gives up, allocates and
writes. A use of a block that is not there is a fault, as is one of bytes outside of a block. -/

namespace RaptorLite

universe u v w

/-! ### Computations with faults -/

/-- What can go wrong when memory is used. -/
inductive MemoryFault where
  /-- A block that has been freed is used. -/
  | freed
  /-- Bytes outside of a block are used. -/
  | outside
  /-- A count cannot go higher, or there is no room for a block. -/
  | limit
  /-- An object that does not exist is named. -/
  | noObject
  deriving DecidableEq, Repr

/-- The computation meets its postcondition `P`, or comes to a limit, which happens only if `L`. It does not go
wrong otherwise. -/
def Safe {σ : Type u} (L : Prop) (P : σ → Prop) : Except MemoryFault σ → Prop
  | .ok a => P a
  | .error f => f = .limit ∧ L

section Safe

variable {σ : Type u} {τ : Type v} {L L' : Prop} {P P' : σ → Prop} {Q : τ → Prop} {x : Except MemoryFault σ}

/-- One computation after another. -/
theorem Safe.bind {f : σ → Except MemoryFault τ} (hx : Safe L P x) (hf : ∀ a, P a → Safe L Q (f a)) :
    Safe L Q (x.bind f) := by
  cases x with
  | error e => exact hx
  | ok a => exact hf a hx

/-- Weakening what is promised. -/
theorem Safe.mono (hx : Safe L P x) (hL : L → L') (hP : ∀ a, P a → P' a) : Safe L' P' x := by
  cases x with
  | error e => exact ⟨hx.1, hL hx.2⟩
  | ok a => exact hP a hx

/-- Weakening the condition of the limit. -/
theorem Safe.weaken (hx : Safe L P x) (hL : L → L') : Safe L' P x := hx.mono hL fun _ h => h

/-- Where no limit can be reached there is a result. -/
theorem Safe.exists_ok (hx : Safe L P x) (hL : ¬ L) : ∃ a, x = .ok a ∧ P a := by
  cases x with
  | error e => exact absurd hx.2 hL
  | ok a => exact ⟨a, rfl, hx⟩

end Safe

/-! ### Blocks -/

/-- A block and the number of its references. -/
structure CountedBlock (β : Type u) where
  /-- The count. -/
  count : Int
  /-- What is in the block. -/
  content : β
  deriving DecidableEq, Repr

/-- The blocks in the order of their allocation. A block that has been freed leaves its place empty, so that no
address is used twice. -/
abbrev CountedBlocks (β : Type u) := List (Option (CountedBlock β))

variable {β : Type u}

namespace CountedBlocks

/-- What is in a block. -/
def content (h : CountedBlocks β) (b : Nat) : Option β :=
  match h[b]? with
  | some (some block) => some block.content
  | _ => none

/-- Go to a block. -/
def access (h : CountedBlocks β) (b : Nat) : Except MemoryFault (CountedBlock β) :=
  match h[b]? with
  | some (some block) => .ok block
  | _ => .error .freed

/-- Add a reference; the count stays below the limit. -/
def addRef (limit : Int) (h : CountedBlocks β) (b : Nat) : Except MemoryFault (CountedBlocks β) :=
  (h.access b).bind fun block =>
    if block.count + 1 < limit then .ok (h.set b (some { block with count := block.count + 1 }))
    else .error .limit

/-- Give up a reference, and free the block if it was the last. -/
def decRef (h : CountedBlocks β) (b : Nat) : Except MemoryFault (CountedBlocks β) :=
  (h.access b).bind fun block =>
    if block.count = 1 then .ok (h.set b none)
    else .ok (h.set b (some { block with count := block.count - 1 }))

/-- A new block, with one reference; its address is the number of blocks before. -/
def alloc (h : CountedBlocks β) (v : β) : CountedBlocks β := h ++ [some ⟨1, v⟩]

/-- Put something else into a block. -/
def store (h : CountedBlocks β) (b : Nat) (v : β) : Except MemoryFault (CountedBlocks β) :=
  (h.access b).bind fun block => .ok (h.set b (some { block with content := v }))

end CountedBlocks

/-- The blocks in `held` are as they were. -/
def KeepsContent (held : Multiset Nat) (h h' : CountedBlocks β) : Prop :=
  ∀ b ∈ held, h'.content b = h.content b

/-- Blocks that are kept in two steps. -/
theorem KeepsContent.trans {held held' : Multiset Nat} {h₁ h₂ h₃ : CountedBlocks β}
    (h : KeepsContent held h₁ h₂) (h' : KeepsContent held' h₂ h₃) (hsub : held ⊆ held') :
    KeepsContent held h₁ h₃ :=
  fun b hb => (h' b (hsub hb)).trans (h b hb)

/-- Fewer blocks are kept as well. -/
theorem KeepsContent.mono {held held' : Multiset Nat} {h h' : CountedBlocks β} (hkeep : KeepsContent held' h h')
    (hsub : held ⊆ held') : KeepsContent held h h' :=
  fun b hb => hkeep b (hsub hb)

/-- The references in `held` are exactly those that are counted. -/
structure Balanced (h : CountedBlocks β) (held : Multiset Nat) : Prop where
  /-- Every count is the number of references. -/
  count : ∀ b block, h[b]? = some (some block) → block.count = (held.count b : Int)
  /-- The blocks that are there are those that are referred to. -/
  live : ∀ b, b ∈ held ↔ ∃ block, h[b]? = some (some block)

/-- No block, no reference. -/
theorem balanced_nil : Balanced ([] : CountedBlocks β) 0 where
  count b block hb := by simp at hb
  live b := by simp

section Rules

variable {h : CountedBlocks β} {held : Multiset Nat} {b : Nat}

/-- A block that is there can be used. -/
theorem CountedBlocks.access_eq {block : CountedBlock β} (hb : h[b]? = some (some block)) :
    h.access b = .ok block := by
  rw [access, hb]

/-- The content of a block that is there. -/
theorem CountedBlocks.content_eq {block : CountedBlock β} (hb : h[b]? = some (some block)) :
    h.content b = some block.content := by
  rw [content, hb]

/-- What has a content is a block that is there. -/
theorem CountedBlocks.content_eq_some {v : β} (hb : h.content b = some v) :
    ∃ block, h[b]? = some (some block) ∧ block.content = v := by
  unfold content at hb
  split at hb
  · next block hblock => exact ⟨block, hblock, Option.some.inj hb⟩
  · cases hb

/-- What can be used is a block that is there. -/
theorem CountedBlocks.eq_of_access {block : CountedBlock β} (hb : h.access b = .ok block) :
    h[b]? = some (some block) := by
  unfold access at hb
  split at hb
  · next block' hblock =>
    cases hb
    exact hblock
  · cases hb

/-- What has a content can be used. -/
theorem CountedBlocks.access_of_content {v : β} (hb : h.content b = some v) :
    ∃ block, h.access b = .ok block ∧ block.content = v := by
  obtain ⟨block, hblock, hv⟩ := content_eq_some hb
  exact ⟨block, access_eq hblock, hv⟩

/-- What is in the blocks before an allocation stays, and the new block comes behind them. -/
theorem CountedBlocks.content_alloc (h : CountedBlocks β) (v : β) :
    (h.alloc v).content h.length = some v ∧ h.content h.length = none ∧
      ∀ c, (h.content c).isSome → (h.alloc v).content c = h.content c := by
  refine ⟨content_eq List.getElem?_concat_length, ?_, fun c hc => ?_⟩
  · rw [content, List.getElem?_eq_none (Nat.le_refl _)]
  · obtain ⟨v', hv'⟩ := Option.isSome_iff_exists.mp hc
    obtain ⟨block, hblock, -⟩ := content_eq_some hv'
    have hlt : c < h.length := (List.getElem?_eq_some_iff.mp hblock).1
    rw [content, content, alloc, List.getElem?_append_left hlt]

/-- Another block is not touched. -/
theorem CountedBlocks.content_set_of_ne {c : Nat} (hc : c ≠ b) (v : Option (CountedBlock β)) :
    content (h.set b v) c = h.content c := by
  rw [content, content, List.getElem?_set_ne hc.symm]

/-- Another count in a block that is there: its content is not touched. -/
theorem CountedBlocks.content_set_count {block : CountedBlock β} (hb : h[b]? = some (some block)) (n : Int)
    (c : Nat) : content (h.set b (some { block with count := n })) c = h.content c := by
  by_cases hc : c = b
  · subst hc
    have hlt : c < h.length := (List.getElem?_eq_some_iff.mp hb).1
    rw [content_eq hb, content, List.getElem?_set_self hlt]
  · exact content_set_of_ne hc _

/-- The block at a place that has been set. -/
theorem CountedBlocks.getElem?_set_iff {block : CountedBlock β} (hb : h[b]? = some (some block))
    {v : Option (CountedBlock β)} {c : Nat} {block' : CountedBlock β} :
    (h.set b v)[c]? = some (some block') ↔ c = b ∧ v = some block' ∨ c ≠ b ∧ h[c]? = some (some block') := by
  have hlt : b < h.length := (List.getElem?_eq_some_iff.mp hb).1
  by_cases hc : c = b
  · subst hc
    rw [List.getElem?_set_self hlt]
    simp
  · rw [List.getElem?_set_ne (Ne.symm hc)]
    simp [hc]

/-- The references may be taken in another order. -/
theorem Balanced.left_comm {a c : Multiset Nat} (hbal : Balanced h (a + (c + held))) : Balanced h (c + (a + held)) := by
  rw [← Multiset.add_assoc, Multiset.add_comm c a, Multiset.add_assoc]
  exact hbal

/-- A block that is referred to is there, with its count. -/
theorem Balanced.exists_block (hbal : Balanced h held) (hb : b ∈ held) :
    ∃ block, h[b]? = some (some block) ∧ block.count = (held.count b : Int) := by
  obtain ⟨block, hblock⟩ := (hbal.live b).mp hb
  exact ⟨block, hblock, hbal.count b block hblock⟩

/-- A new block is held once. -/
theorem Balanced.alloc (hbal : Balanced h held) (v : β) : Balanced (h.alloc v) (h.length ::ₘ held) := by
  have hfresh : h.length ∉ held := by
    intro hmem
    obtain ⟨block, hblock⟩ := (hbal.live _).mp hmem
    exact Nat.lt_irrefl _ (List.getElem?_eq_some_iff.mp hblock).1
  have hget : ∀ c, c ≠ h.length → (h.alloc v)[c]? = h[c]? := by
    intro c hc
    rcases Nat.lt_or_gt_of_ne hc with hlt | hgt
    · exact List.getElem?_append_left hlt
    · rw [CountedBlocks.alloc, List.getElem?_eq_none (by simp; omega), List.getElem?_eq_none (by omega)]
  have hnew : (h.alloc v)[h.length]? = some (some ⟨1, v⟩) := List.getElem?_concat_length
  refine ⟨fun c block hblock => ?_, fun c => ?_⟩
  · by_cases hc : c = h.length
    · subst hc
      rw [hnew, Option.some.injEq, Option.some.injEq] at hblock
      rw [← hblock, Multiset.count_cons_self, Multiset.count_eq_zero_of_notMem hfresh]
      rfl
    · rw [hget c hc] at hblock
      rw [Multiset.count_cons_of_ne hc, hbal.count c block hblock]
  · rw [Multiset.mem_cons]
    by_cases hc : c = h.length
    · subst hc
      exact ⟨fun _ => ⟨_, hnew⟩, fun _ => .inl rfl⟩
    · rw [hget c hc, ← hbal.live c]
      exact ⟨fun hor => hor.resolve_left hc, .inr⟩

/-- A block that is held has a content. -/
theorem Balanced.isSome_content (hbal : Balanced h held) (hb : b ∈ held) : (h.content b).isSome := by
  obtain ⟨block, hblock, -⟩ := hbal.exists_block hb
  rw [CountedBlocks.content_eq hblock]
  rfl

/-- One reference more to a block that is held. -/
theorem Balanced.addRef (hbal : Balanced h held) (hb : b ∈ held) (limit : Int) :
    Safe (limit ≤ held.count b + 1) (fun h' => Balanced h' (b ::ₘ held) ∧ KeepsContent held h h')
      (h.addRef limit b) := by
  obtain ⟨block, hblock, hcount⟩ := hbal.exists_block hb
  rw [CountedBlocks.addRef, CountedBlocks.access_eq hblock]
  simp only [Except.bind]
  split
  · refine ⟨⟨fun c block' hc => ?_, fun c => ?_⟩, fun c _ => CountedBlocks.content_set_count hblock _ c⟩
    · rcases (CountedBlocks.getElem?_set_iff hblock).mp hc with ⟨rfl, heq⟩ | ⟨hne, hc⟩
      · cases heq
        rw [Multiset.count_cons_self]
        push_cast
        rw [← hcount]
      · rw [Multiset.count_cons_of_ne hne, hbal.count c block' hc]
    · rw [Multiset.mem_cons]
      by_cases hc : c = b
      · subst hc
        exact ⟨fun _ => ⟨_, (CountedBlocks.getElem?_set_iff hblock).mpr (.inl ⟨rfl, rfl⟩)⟩, fun _ => .inl rfl⟩
      · rw [List.getElem?_set_ne (Ne.symm hc), ← hbal.live c]
        exact ⟨fun hor => hor.resolve_left hc, .inr⟩
  · next hlimit => exact ⟨rfl, by omega⟩

/-- One reference less: the block is there, and goes with the last one. -/
theorem Balanced.decRef (hbal : Balanced h (b ::ₘ held)) :
    Safe False (fun h' => Balanced h' held ∧ KeepsContent held h h') (h.decRef b) := by
  obtain ⟨block, hblock, hcount⟩ := hbal.exists_block (Multiset.mem_cons_self b held)
  rw [Multiset.count_cons_self] at hcount
  rw [CountedBlocks.decRef, CountedBlocks.access_eq hblock]
  simp only [Except.bind]
  have hother : ∀ c, c ≠ b → (c ∈ held ↔ ∃ block, h[c]? = some (some block)) := by
    intro c hc
    rw [← hbal.live c, Multiset.mem_cons]
    exact ⟨.inr, fun hor => hor.resolve_left hc⟩
  have hcounts : ∀ c block', c ≠ b → h[c]? = some (some block') → block'.count = (held.count c : Int) := by
    intro c block' hc hblock'
    rw [hbal.count c block' hblock', Multiset.count_cons_of_ne hc]
  split
  · next hone =>
    -- the last reference
    have hnot : b ∉ held := by
      intro hmem
      have := Multiset.count_pos.mpr hmem
      omega
    refine ⟨⟨fun c block' hc => ?_, fun c => ?_⟩, fun c hc => ?_⟩
    · rcases (CountedBlocks.getElem?_set_iff hblock).mp hc with ⟨-, heq⟩ | ⟨hne, hc⟩
      · cases heq
      · exact hcounts c block' hne hc
    · by_cases hc : c = b
      · subst hc
        refine ⟨fun hmem => absurd hmem hnot, ?_⟩
        rintro ⟨block', hblock'⟩
        rcases (CountedBlocks.getElem?_set_iff hblock).mp hblock' with ⟨-, heq⟩ | ⟨hne, -⟩
        · cases heq
        · exact absurd rfl hne
      · rw [List.getElem?_set_ne (Ne.symm hc)]
        exact hother c hc
    · have hne : c ≠ b := fun heq => hnot (heq ▸ hc)
      exact CountedBlocks.content_set_of_ne hne _
  · next hmore =>
    have hmem : b ∈ held := by
      apply Multiset.count_pos.mp
      omega
    refine ⟨⟨fun c block' hc => ?_, fun c => ?_⟩, fun c _ => CountedBlocks.content_set_count hblock _ c⟩
    · rcases (CountedBlocks.getElem?_set_iff hblock).mp hc with ⟨rfl, heq⟩ | ⟨hne, hc⟩
      · cases heq
        rw [hcount]
        push_cast
        omega
      · exact hcounts c block' hne hc
    · by_cases hc : c = b
      · subst hc
        exact ⟨fun _ => ⟨_, (CountedBlocks.getElem?_set_iff hblock).mpr (.inl ⟨rfl, rfl⟩)⟩, fun _ => hmem⟩
      · rw [List.getElem?_set_ne (Ne.symm hc)]
        exact hother c hc

/-- Writing to a block that is there changes this block only. -/
theorem CountedBlocks.store_ok {v₀ : β} (hb : h.content b = some v₀) (v : β) :
    ∃ h', h.store b v = .ok h' ∧ h'.content b = some v ∧ ∀ c, c ≠ b → h'.content c = h.content c := by
  obtain ⟨block, hblock, -⟩ := content_eq_some hb
  have hlt : b < h.length := (List.getElem?_eq_some_iff.mp hblock).1
  refine ⟨_, by rw [CountedBlocks.store, access_eq hblock]; rfl, ?_, fun c hc => content_set_of_ne hc _⟩
  exact content_eq (List.getElem?_set_self hlt)

/-- Storing into a block keeps the counts. -/
theorem Balanced.store {h' : CountedBlocks β} {v : β} (hbal : Balanced h held) (hst : h.store b v = .ok h') :
    Balanced h' held := by
  cases hblock : h.access b with
  | error f =>
      rw [CountedBlocks.store, hblock] at hst
      cases hst
  | ok block =>
      rw [CountedBlocks.store, hblock] at hst
      cases hst
      have hblock := CountedBlocks.eq_of_access hblock
      refine ⟨fun c block' hc => ?_, fun c => ?_⟩
      · rcases (CountedBlocks.getElem?_set_iff hblock).mp hc with ⟨rfl, heq⟩ | ⟨-, hc⟩
        · cases heq
          exact hbal.count c block hblock
        · exact hbal.count c block' hc
      · rw [hbal.live c]
        by_cases hc : c = b
        · subst hc
          exact ⟨fun _ => ⟨_, (CountedBlocks.getElem?_set_iff hblock).mpr (.inl ⟨rfl, rfl⟩)⟩, fun _ => ⟨_, hblock⟩⟩
        · rw [List.getElem?_set_ne (Ne.symm hc)]

end Rules

end RaptorLite
