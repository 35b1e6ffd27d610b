import Mathlib.Data.List.Perm.Basic
import Mathlib.Data.Multiset.Bind
import RaptorLite.Foundations.Machine
import RaptorLite.Utils.SliceObjectBlocks

/-! # Reference counts of slices

Programs that construct, copy, move, assign, shrink, join and destroy slices in any order. The objects are named
by the order of their construction, and the place of an object that has been destroyed stays empty. The
references that are counted are those of the live objects: every operation keeps this, whatever its source and
target share. -/

namespace RaptorLite

/-- The blocks and the objects of a program. -/
structure SliceState where
  /-- The heap blocks. -/
  blocks : SliceBlocks
  /-- The objects; one that has been destroyed leaves its place empty. -/
  objects : List (Option SliceObject)
  deriving DecidableEq

/-- What a program does with slices. -/
inductive SliceAction where
  /-- `Slice::Slice()`. -/
  | constructDefault
  /-- A construction from bytes. -/
  | construct (src : ByteArrayObject) (junk : Nat → UInt8)
  /-- `Slice::Slice(nullptr, len)`. -/
  | constructNull (len : UInt64) (junk : Nat → UInt8)
  /-- `MakeSliceByLength`. -/
  | makeSliceByLength (len : UInt64) (junk : Nat → UInt8)
  /-- `operator+`. -/
  | plus (s1 s2 : Nat) (junk : Nat → UInt8)
  /-- `Slice::Slice(const Slice &)`. -/
  | copyConstruct (oth : Nat)
  /-- `Slice::Slice(Slice &&)`. -/
  | moveConstruct (oth : Nat)
  /-- `Slice::operator=(const Slice &)`. -/
  | copyAssign (this oth : Nat)
  /-- `Slice::operator=(Slice &&)`. -/
  | moveAssign (this oth : Nat)
  /-- `Slice::Assign`. -/
  | assign (this : Nat) (s : ByteArrayObject) (junk : Nat → UInt8)
  /-- `Slice::PopFront`. -/
  | popFront (this : Nat) (removeSize : UInt64)
  /-- `Slice::PopBack`. -/
  | popBack (this : Nat) (removeSize : UInt64)
  /-- `Slice::~Slice`. -/
  | destroy (this : Nat)

namespace SliceState

/-- A live object. -/
def object (s : SliceState) (i : Nat) : Except MemoryFault SliceObject :=
  match s.objects[i]? with
  | some (some o) => .ok o
  | _ => .error .noObject

/-- A new object. -/
def push (s : SliceState) (made : SliceBlocks × SliceObject) : SliceState :=
  ⟨made.1, s.objects ++ [some made.2]⟩

/-- An object with a new value. -/
def put (s : SliceState) (i : Nat) (made : SliceBlocks × SliceObject) : SliceState :=
  ⟨made.1, s.objects.set i (some made.2)⟩

end SliceState

/-- One operation. -/
def sliceStep (s : SliceState) : SliceAction → Except MemoryFault SliceState
  | .constructDefault => .ok (s.push (s.blocks, .empty))
  | .construct src junk => (SliceObject.construct s.blocks src junk).bind fun made => .ok (s.push made)
  | .constructNull len junk => (SliceObject.constructNull s.blocks len junk).bind fun made => .ok (s.push made)
  | .makeSliceByLength len junk =>
      (SliceObject.makeSliceByLength s.blocks len junk).bind fun made => .ok (s.push made)
  | .plus s1 s2 junk =>
      (s.object s1).bind fun o1 =>
        (s.object s2).bind fun o2 => (SliceObject.plus s.blocks o1 o2 junk).bind fun made => .ok (s.push made)
  | .copyConstruct oth =>
      (s.object oth).bind fun o => (o.copyConstruct s.blocks).bind fun made => .ok (s.push made)
  | .moveConstruct oth =>
      (s.object oth).bind fun o => (o.moveConstruct s.blocks).bind fun made => .ok (s.push made)
  | .copyAssign this oth =>
      (s.object this).bind fun t =>
        (s.object oth).bind fun o =>
          if this ≠ oth then (t.copyAssign s.blocks o).bind fun made => .ok (s.put this made) else .ok s
  | .moveAssign this oth =>
      (s.object this).bind fun t =>
        (s.object oth).bind fun o =>
          if this ≠ oth then (t.moveAssign s.blocks o).bind fun made => .ok (s.put this made) else .ok s
  | .assign this str junk =>
      (s.object this).bind fun t => (t.assign s.blocks str junk).bind fun made => .ok (s.put this made)
  | .popFront this n => (s.object this).bind fun t => .ok (s.put this (s.blocks, t.popFront n))
  | .popBack this n => (s.object this).bind fun t => .ok (s.put this (s.blocks, t.popBack n))
  | .destroy this =>
      (s.object this).bind fun t => (t.destroy s.blocks).bind fun blocks => .ok ⟨blocks, s.objects.set this none⟩

/-- Programs of slices, from nothing. -/
def sliceMachine : Machine SliceState SliceAction where
  init := ⟨[], []⟩
  step s a := (sliceStep s a).toOption

namespace SliceAction

/-- The objects that an operation names. -/
def named : SliceAction → List Nat
  | .constructDefault | .construct _ _ | .constructNull _ _ | .makeSliceByLength _ _ => []
  | .plus s1 s2 _ => [s1, s2]
  | .copyConstruct oth | .moveConstruct oth => [oth]
  | .copyAssign this oth | .moveAssign this oth => [this, oth]
  | .assign this _ _ | .popFront this _ | .popBack this _ | .destroy this => [this]

/-- The size of the block that is asked for, with its count, does not wrap. -/
def SizeFits : SliceAction → Prop
  | .constructNull len _ | .makeSliceByLength len _ => len.toNat + sliceRefCountSize.toNat < 2 ^ 64
  | _ => True

end SliceAction

/-! ### The references of the live objects -/

/-- What a place of the list of objects holds. -/
def heldBy : Option SliceObject → Multiset Nat
  | none => 0
  | some o => o.held

/-- The references of all live objects. -/
def references (objects : List (Option SliceObject)) : Multiset Nat := (objects : Multiset _).bind heldBy

/-- A live slice whose `_refs` is the block. -/
def pointsTo (b : Nat) : Option SliceObject → Bool
  | some (.refcounted refs _ _) => refs == b
  | _ => false

variable {objects : List (Option SliceObject)} {o : SliceObject} {i : Nat}

/-- An object refers to a block once, or not at all. -/
theorem count_heldBy (b : Nat) (place : Option SliceObject) :
    (heldBy place).count b = if pointsTo b place then 1 else 0 := by
  match place with
  | none => rfl
  | some (.inlined length bytes) => rfl
  | some (.refcounted refs length start) =>
      rw [heldBy, SliceObject.held, Multiset.count_singleton]
      by_cases hb : b = refs
      · simp [pointsTo, hb]
      · simp [pointsTo, hb, Ne.symm hb]

/-- The references to a block are as many as the live slices that point to it. -/
theorem count_references (objects : List (Option SliceObject)) (b : Nat) :
    (references objects).count b = objects.countP (pointsTo b) := by
  induction objects with
  | nil => rfl
  | cons place rest ih =>
      rw [references] at ih ⊢
      rw [← Multiset.cons_coe, Multiset.cons_bind, Multiset.count_add, ih, count_heldBy, List.countP_cons, Nat.add_comm]

/-- A new object brings its reference. -/
theorem references_push (objects : List (Option SliceObject)) (o : SliceObject) :
    references (objects ++ [some o]) = o.held + references objects := by
  rw [references, Multiset.coe_eq_coe.mpr (List.perm_append_singleton (some o) objects), ← Multiset.cons_coe,
    Multiset.cons_bind]
  rfl

/-- An object that is replaced takes its reference with it. -/
theorem references_set (hi : i < objects.length) (place : Option SliceObject) :
    references (objects.set i place) = heldBy place + references (objects.eraseIdx i) := by
  rw [references, Multiset.coe_eq_coe.mpr (List.set_perm_cons_eraseIdx hi place), ← Multiset.cons_coe,
    Multiset.cons_bind]
  rfl

/-- One object and the others. -/
theorem references_split (h : objects[i]? = some (some o)) :
    references objects = o.held + references (objects.eraseIdx i) := by
  obtain ⟨hi, heq⟩ := List.getElem?_eq_some_iff.mp h
  have hset := references_set hi (some o)
  rw [← heq, List.set_getElem_self] at hset
  rw [hset, heq]
  rfl

/-- The reference of an object is one of all. -/
theorem held_subset_references (h : some o ∈ objects) : o.held ⊆ references objects := by
  intro b hb
  exact Multiset.mem_bind.mpr ⟨some o, Multiset.mem_coe.mpr h, hb⟩

/-- An object behind a replacement is the new one or was there before. -/
theorem mem_set_cases {place : Option SliceObject} (hi : i < objects.length) (h : some o ∈ objects.set i place) :
    some o = place ∨ some o ∈ objects.eraseIdx i :=
  List.mem_cons.mp ((List.set_perm_cons_eraseIdx hi place).mem_iff.mp h)

/-! ### The invariant -/

/-- The references of the live objects are counted, and every live slice is in range. -/
structure SliceInv (s : SliceState) : Prop where
  /-- The counts are right. -/
  balanced : Balanced s.blocks (references s.objects)
  /-- The slices are in range. -/
  inRange : ∀ o, some o ∈ s.objects → o.InRange s.blocks

section Inv

variable {s : SliceState}

/-- A new object keeps the invariant. -/
theorem SliceInv.push (h : SliceInv s) {made : SliceBlocks × SliceObject}
    (hown : SliceObject.Owned s.blocks (references s.objects) made) : SliceInv (s.push made) := by
  refine ⟨?_, fun o ho => ?_⟩
  · rw [SliceState.push, references_push]
    exact hown.balanced
  · rcases List.mem_append.mp ho with ho | ho
    · exact (h.inRange o ho).of_keeps fun b hb => hown.keeps b (held_subset_references ho hb)
    · cases List.mem_singleton.mp ho
      exact hown.inRange

/-- The objects other than one that is changed. -/
theorem SliceInv.others (h : SliceInv s) {blocks : SliceBlocks}
    (hkeep : KeepsContent (references (s.objects.eraseIdx i)) s.blocks blocks) (ho : some o ∈ s.objects.eraseIdx i) :
    o.InRange blocks := by
  have hmem : some o ∈ s.objects := (List.eraseIdx_sublist s.objects i).subset ho
  exact (h.inRange o hmem).of_keeps fun b hb => hkeep b (held_subset_references ho hb)

/-- A replaced object keeps the invariant. -/
theorem SliceInv.put (h : SliceInv s) (hi : s.objects[i]? = some (some o)) {made : SliceBlocks × SliceObject}
    (hown : SliceObject.Owned s.blocks (references (s.objects.eraseIdx i)) made) : SliceInv (s.put i made) := by
  have hlt : i < s.objects.length := (List.getElem?_eq_some_iff.mp hi).1
  refine ⟨?_, fun o' ho' => ?_⟩
  · rw [SliceState.put, references_set hlt]
    exact hown.balanced
  · rcases mem_set_cases hlt ho' with heq | ho'
    · cases heq
      exact hown.inRange
    · exact h.others hown.keeps ho'

/-- The counts with one object set apart. -/
theorem SliceInv.split (h : SliceInv s) (hi : s.objects[i]? = some (some o)) :
    Balanced s.blocks (o.held + references (s.objects.eraseIdx i)) := by
  rw [← references_split hi]
  exact h.balanced

/-- An object that lives is in range. -/
theorem SliceInv.inRange_at (h : SliceInv s) (hi : s.objects[i]? = some (some o)) : o.InRange s.blocks :=
  h.inRange o (List.mem_of_getElem? hi)

/-- Destroying an object that lives keeps the invariant and uses nothing that is freed. -/
theorem SliceInv.destroy (h : SliceInv s) (hi : s.objects[i]? = some (some o)) :
    Safe True SliceInv ((o.destroy s.blocks).bind fun blocks => .ok ⟨blocks, s.objects.set i none⟩) := by
  have hlt : i < s.objects.length := (List.getElem?_eq_some_iff.mp hi).1
  refine ((SliceObject.decRef_safe (h.split hi)).weaken False.elim).bind fun blocks hdec => ⟨?_, fun o' ho' => ?_⟩
  · rw [references_set hlt, heldBy, Multiset.zero_add]
    exact hdec.1
  · rcases mem_set_cases hlt ho' with heq | ho'
    · cases heq
    · exact h.others hdec.2 ho'

/-- The object at a place where one lives. -/
theorem SliceState.object_eq (hi : s.objects[i]? = some (some o)) : s.object i = .ok o := by
  rw [SliceState.object, hi]

/-- A target and another object: the other is among those that are left. -/
theorem mem_eraseIdx_of_ne {j : Nat} (hj : s.objects[j]? = some (some o)) (hne : i ≠ j) :
    some o ∈ s.objects.eraseIdx i :=
  List.mem_eraseIdx_iff_getElem?.mpr ⟨j, Ne.symm hne, hj⟩

/-- An object that is only shrunk. -/
theorem SliceInv.shrink (h : SliceInv s) (hi : s.objects[i]? = some (some o)) {o' : SliceObject}
    (hheld : o'.held = o.held) (hin : o'.InRange s.blocks) : SliceInv (s.put i (s.blocks, o')) := by
  refine h.put hi ⟨hin, ?_, fun b _ => rfl⟩
  rw [hheld]
  exact h.split hi

/-- An assignment, which is nothing if the object is assigned to itself. -/
theorem SliceInv.assignOther {j : Nat} {L : Prop} {x : Except MemoryFault (SliceBlocks × SliceObject)} {t : SliceObject}
    (h : SliceInv s) (hi : s.objects[i]? = some (some t))
    (hx : i ≠ j →
      Safe L (fun made => SliceObject.Owned s.blocks (references (s.objects.eraseIdx i)) made ∧ made.2 = o) x) :
    Safe True SliceInv (if i ≠ j then x.bind fun made => .ok (s.put i made) else .ok s) := by
  by_cases hne : i ≠ j
  · rw [if_pos hne]
    exact ((hx hne).weaken fun _ => trivial).bind fun made hmade => h.put hi hmade.1
  · rw [if_neg hne]
    exact h

/-- One operation on live objects keeps the invariant, whatever the objects share, or comes to a limit. -/
theorem SliceInv.step (h : SliceInv s) {a : SliceAction} (hfits : a.SizeFits)
    (hlive : ∀ i ∈ a.named, ∃ o, s.objects[i]? = some (some o)) : Safe True SliceInv (sliceStep s a) := by
  cases a with
  | constructDefault => exact h.push (SliceObject.newSlice_empty.owned h.balanced)
  | construct src junk =>
      exact (SliceObject.construct_safe h.balanced src junk).bind fun made hmade => h.push hmade
  | constructNull len junk =>
      exact (SliceObject.constructNull_safe h.balanced hfits junk).bind fun made hmade => h.push hmade
  | makeSliceByLength len junk =>
      exact (SliceObject.makeSliceByLength_safe h.balanced hfits junk).bind fun made hmade => h.push hmade
  | plus s1 s2 junk =>
      obtain ⟨o1, h1⟩ := hlive s1 List.mem_cons_self
      obtain ⟨o2, h2⟩ := hlive s2 (List.mem_cons_of_mem _ List.mem_cons_self)
      rw [sliceStep, SliceState.object_eq h1, SliceState.object_eq h2]
      have hplus := SliceObject.plus_safe h.balanced (h.inRange_at h1) (h.inRange_at h2)
        (held_subset_references (List.mem_of_getElem? h1)) (held_subset_references (List.mem_of_getElem? h2)) junk
      exact (hplus.weaken fun _ => trivial).bind fun made hmade => h.push hmade.1
  | copyConstruct oth =>
      obtain ⟨o, ho⟩ := hlive oth List.mem_cons_self
      rw [sliceStep, SliceState.object_eq ho]
      have hcopy := SliceObject.copyConstruct_safe h.balanced (held_subset_references (List.mem_of_getElem? ho))
        (h.inRange_at ho)
      exact (hcopy.weaken fun _ => trivial).bind fun made hmade => h.push hmade.1
  | moveConstruct oth =>
      obtain ⟨o, ho⟩ := hlive oth List.mem_cons_self
      rw [sliceStep, SliceState.object_eq ho]
      have hmove := SliceObject.moveConstruct_safe h.balanced (held_subset_references (List.mem_of_getElem? ho))
        (h.inRange_at ho)
      exact (hmove.weaken fun _ => trivial).bind fun made hmade => h.push hmade.1
  | copyAssign this oth =>
      obtain ⟨t, ht⟩ := hlive this List.mem_cons_self
      obtain ⟨o, ho⟩ := hlive oth (List.mem_cons_of_mem _ List.mem_cons_self)
      rw [sliceStep, SliceState.object_eq ht, SliceState.object_eq ho]
      exact h.assignOther ht fun hne => SliceObject.copyAssign_safe (h.split ht)
        (held_subset_references (mem_eraseIdx_of_ne ho hne)) (h.inRange_at ho)
  | moveAssign this oth =>
      obtain ⟨t, ht⟩ := hlive this List.mem_cons_self
      obtain ⟨o, ho⟩ := hlive oth (List.mem_cons_of_mem _ List.mem_cons_self)
      rw [sliceStep, SliceState.object_eq ht, SliceState.object_eq ho]
      exact h.assignOther ht fun hne => SliceObject.moveAssign_safe (h.split ht)
        (held_subset_references (mem_eraseIdx_of_ne ho hne)) (h.inRange_at ho)
  | assign this str junk =>
      obtain ⟨t, ht⟩ := hlive this List.mem_cons_self
      rw [sliceStep, SliceState.object_eq ht]
      exact (SliceObject.assign_safe (h.split ht) str junk).bind fun made hmade => h.put ht hmade
  | popFront this n =>
      obtain ⟨t, ht⟩ := hlive this List.mem_cons_self
      rw [sliceStep, SliceState.object_eq ht]
      exact h.shrink ht (SliceObject.held_popFront t n) ((h.inRange_at ht).popFront n)
  | popBack this n =>
      obtain ⟨t, ht⟩ := hlive this List.mem_cons_self
      rw [sliceStep, SliceState.object_eq ht]
      exact h.shrink ht (SliceObject.held_popBack t n) ((h.inRange_at ht).popBack n)
  | destroy this =>
      obtain ⟨t, ht⟩ := hlive this List.mem_cons_self
      rw [sliceStep, SliceState.object_eq ht]
      exact h.destroy ht

/-- What reads an object has found a live one. -/
theorem SliceState.live_of_bind {τ : Type} {f : SliceObject → Except MemoryFault τ} {r : τ}
    (h : (s.object i).bind f = .ok r) : ∃ o, s.objects[i]? = some (some o) ∧ f o = .ok r := by
  unfold SliceState.object at h
  split at h
  · next o ho => exact ⟨o, ho, h⟩
  · cases h

/-- An operation on one object. -/
theorem SliceState.live_of_one {τ : Type} {j : Nat} {f : SliceObject → Except MemoryFault τ} {r : τ}
    (h : (s.object j).bind f = .ok r) (hi : i ∈ [j]) : ∃ o, s.objects[i]? = some (some o) := by
  obtain ⟨o, ho, -⟩ := SliceState.live_of_bind h
  exact ⟨o, List.mem_singleton.mp hi ▸ ho⟩

/-- An operation on two objects. -/
theorem SliceState.live_of_two {τ : Type} {j k : Nat} {f : SliceObject → SliceObject → Except MemoryFault τ} {r : τ}
    (h : ((s.object j).bind fun o => (s.object k).bind (f o)) = .ok r) (hi : i ∈ [j, k]) :
    ∃ o, s.objects[i]? = some (some o) := by
  obtain ⟨o1, h1, h⟩ := SliceState.live_of_bind h
  obtain ⟨o2, h2, -⟩ := SliceState.live_of_bind h
  rcases List.mem_pair.mp hi with rfl | rfl
  · exact ⟨o1, h1⟩
  · exact ⟨o2, h2⟩

/-- An operation that has a result names live objects only. -/
theorem named_live_of_ok {s' : SliceState} {a : SliceAction} (h : sliceStep s a = .ok s') :
    ∀ i ∈ a.named, ∃ o, s.objects[i]? = some (some o) := by
  intro i hi
  cases a with
  | constructDefault => cases hi
  | construct src junk => cases hi
  | constructNull len junk => cases hi
  | makeSliceByLength len junk => cases hi
  | plus s1 s2 junk => exact SliceState.live_of_two h hi
  | copyConstruct oth => exact SliceState.live_of_one h hi
  | moveConstruct oth => exact SliceState.live_of_one h hi
  | copyAssign this oth => exact SliceState.live_of_two h hi
  | moveAssign this oth => exact SliceState.live_of_two h hi
  | assign this str junk => exact SliceState.live_of_one h hi
  | popFront this n => exact SliceState.live_of_one h hi
  | popBack this n => exact SliceState.live_of_one h hi
  | destroy this => exact SliceState.live_of_one h hi

end Inv

/-! ### Whole programs -/

/-- The invariant holds in every state of a program whose sizes do not wrap. -/
theorem sliceInv_of_reaches {s : SliceState} (hs : sliceMachine.Reaches (fun _ a => a.SizeFits) s) : SliceInv s := by
  refine hs.invariant SliceInv ⟨balanced_nil, fun o ho => absurd ho List.not_mem_nil⟩ ?_
  intro s a s' _ hfits hinv hstep
  have hok : sliceStep s a = .ok s' := eq_ok_of_toOption hstep
  have hsafe := hinv.step hfits (named_live_of_ok hok)
  rw [hok] at hsafe
  exact hsafe

/-- In every state of a program whose sizes do not wrap, every count is the number of live slices that point to
the block, a block is freed exactly when there is none left, every live slice is in range of its block, and the
next operation on live slices uses no freed block and no byte outside of a block. -/
theorem slice_reference_counts {s : SliceState} (hs : sliceMachine.Reaches (fun _ a => a.SizeFits) s) :
    (∀ b block, s.blocks[b]? = some (some block) → block.count = (s.objects.countP (pointsTo b) : Int)) ∧
    (∀ b, b < s.blocks.length → (s.blocks[b]? = some none ↔ s.objects.countP (pointsTo b) = 0)) ∧
    (∀ o, some o ∈ s.objects → o.InRange s.blocks) ∧
    ∀ a : SliceAction, a.SizeFits → (∀ i ∈ a.named, ∃ o, s.objects[i]? = some (some o)) →
      ∀ f, sliceStep s a = .error f → f = .limit := by
  have hinv := sliceInv_of_reaches hs
  refine ⟨fun b block hb => ?_, fun b hb => ?_, hinv.inRange, fun a hfits hlive f hf => ?_⟩
  · rw [← count_references]
    exact hinv.balanced.count b block hb
  · rw [← count_references, Multiset.count_eq_zero, hinv.balanced.live b]
    rw [List.getElem?_eq_getElem hb]
    constructor
    · rintro hnone ⟨block, hblock⟩
      rw [hnone] at hblock
      cases hblock
    · intro hno
      cases hplace : s.blocks[b] with
      | none => rfl
      | some block => exact absurd ⟨block, by rw [hplace]⟩ hno
  · have hsafe := hinv.step hfits hlive
    rw [hf] at hsafe
    exact hsafe.1

/-- A slice of 24 bytes, a copy of it that is then assigned to itself and shrunk, and the first destroyed: the
block has one holder. -/
theorem copied_slice_reference_counts :
    ∃ s, sliceMachine.Reaches (fun _ a => a.SizeFits) s ∧
      s.blocks[0]? = some (some ⟨1, List.replicate 24 65⟩) ∧ s.objects.countP (pointsTo 0) = 1 ∧
      ∀ o, some o ∈ s.objects → o.InRange s.blocks := by
  let actions : List SliceAction := [.construct ⟨List.replicate 24 65, by decide⟩ fun _ => 0, .copyConstruct 0,
    .copyAssign 1 1, .moveAssign 1 0, .popFront 1 20, .destroy 0]
  have hfits : ∀ a ∈ actions, ∀ _ : SliceState, a.SizeFits := by
    intro a ha _
    simp only [actions, List.mem_cons, List.not_mem_nil, or_false] at ha
    rcases ha with rfl | rfl | rfl | rfl | rfl | rfl <;> trivial
  have hrun : sliceMachine.run sliceMachine.init actions =
      some ⟨[some ⟨1, List.replicate 24 65⟩], [none, some (.refcounted 0 4 20)]⟩ := by decide +kernel
  have hreach : sliceMachine.Reaches (fun _ a => a.SizeFits) _ := Machine.Reaches.run .init hfits hrun
  exact ⟨_, hreach, rfl, rfl, (slice_reference_counts hreach).2.2.1⟩

/-- A size near `SIZE_MAX` wraps when the count is added to it: the block is smaller than the slice. -/
theorem wrapped_size_outside_block :
    ∃ s, sliceMachine.Reachable s ∧ ∃ refs length start block, some (.refcounted refs length start) ∈ s.objects ∧
      s.blocks[refs]? = some (some block) ∧ block.content.length < start + length.toNat := by
  have hrun : sliceMachine.run sliceMachine.init [.makeSliceByLength 0xFFFFFFFFFFFFFFFF fun _ => 0] =
      some ⟨[some ⟨1, []⟩], [some (.refcounted 0 0xFFFFFFFFFFFFFFFF 0)]⟩ := by decide +kernel
  exact ⟨_, Machine.reachable_of_run hrun, 0, 0xFFFFFFFFFFFFFFFF, 0, ⟨1, []⟩, List.mem_cons_self, rfl, by decide⟩

end RaptorLite
