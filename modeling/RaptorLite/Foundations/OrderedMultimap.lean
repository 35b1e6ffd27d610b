import Mathlib.Data.List.Nodup
import Mathlib.Data.List.Perm.Basic
import Mathlib.Order.Lattice

/-! # Ordered multimaps with stable iterators

A multimap in the style of a balanced-tree container: its entries are kept in key order, an insertion
goes behind all entries with the same key, and an iterator designates one entry for as long as that
entry exists, whatever is inserted or erased around it. An entry is given an identity that is never
used again, and an iterator names such an identity, the past-the-end position, or nothing at all.

Using an iterator that does not designate an entry of the map is an error of the caller: `erase` and
`deref` are partial. -/

namespace RaptorLite

universe u v

/-- One element of a multimap: its identity, key and value. -/
structure MapEntry (K : Type u) (V : Type v) where
  /-- The identity iterators refer to. -/
  id : Nat
  /-- The key the entry is ordered by. -/
  key : K
  /-- The mapped value. -/
  val : V
  deriving DecidableEq, Repr

/-- An iterator into a multimap. -/
inductive MapIter where
  /-- A default-constructed iterator, attached to no container. -/
  | singular
  /-- `end()`. -/
  | pastEnd
  /-- The entry with this identity. -/
  | node (id : Nat)
  deriving DecidableEq, Repr

/-- A multimap: entries in key order, with distinct identities all below `next`. -/
structure OrderedMultimap (K : Type u) (V : Type v) [LinearOrder K] where
  /-- The entries in iteration order. -/
  entries : List (MapEntry K V)
  /-- The identity the next insertion uses. -/
  next : Nat
  /-- Iteration is in key order. -/
  sorted : entries.Pairwise fun e f => e.key ≤ f.key
  /-- Identities are not shared. -/
  nodup : (entries.map MapEntry.id).Nodup
  /-- Identities were all handed out before. -/
  fresh : ∀ e ∈ entries, e.id < next

namespace OrderedMultimap

variable {K : Type u} {V : Type v} [LinearOrder K]

/-- The empty multimap. -/
def empty : OrderedMultimap K V := ⟨[], 0, .nil, .nil, by simp⟩

/-- The empty multimap has no entries. -/
@[simp] theorem entries_empty : (empty : OrderedMultimap K V).entries = [] := rfl

/-! ### Insertion -/

/-- Put an entry behind all entries whose key is not larger. -/
def insertEntry (e : MapEntry K V) : List (MapEntry K V) → List (MapEntry K V)
  | [] => [e]
  | f :: rest => if f.key ≤ e.key then f :: insertEntry e rest else e :: f :: rest

/-- Inserting an entry adds exactly that entry. -/
theorem insertEntry_perm (e : MapEntry K V) (l : List (MapEntry K V)) :
    (insertEntry e l).Perm (e :: l) := by
  induction l with
  | nil => exact List.Perm.refl _
  | cons f rest ih =>
      rw [insertEntry]
      split
      · exact (List.Perm.cons f ih).trans (List.Perm.swap e f rest)
      · exact List.Perm.refl _

/-- Inserting an entry keeps the entries in key order. -/
theorem insertEntry_sorted (e : MapEntry K V) {l : List (MapEntry K V)}
    (h : l.Pairwise fun e f => e.key ≤ f.key) :
    (insertEntry e l).Pairwise fun e f => e.key ≤ f.key := by
  induction l with
  | nil => simp [insertEntry]
  | cons f rest ih =>
      obtain ⟨hf, hrest⟩ := List.pairwise_cons.mp h
      rw [insertEntry]
      split
      · next hle =>
        refine List.pairwise_cons.mpr ⟨?_, ih hrest⟩
        intro g hg
        rcases List.mem_cons.mp ((insertEntry_perm e rest).mem_iff.mp hg) with rfl | hg
        · exact hle
        · exact hf g hg
      · next hlt =>
        have hle : e.key ≤ f.key := le_of_lt (lt_of_not_ge hlt)
        refine List.pairwise_cons.mpr ⟨?_, h⟩
        intro g hg
        rcases List.mem_cons.mp hg with rfl | hg
        · exact hle
        · exact le_trans hle (hf g hg)

/-- `insert({k, v})`: the new entry gets the next identity, which its iterator names. -/
def insert (m : OrderedMultimap K V) (k : K) (v : V) : OrderedMultimap K V where
  entries := insertEntry ⟨m.next, k, v⟩ m.entries
  next := m.next + 1
  sorted := insertEntry_sorted _ m.sorted
  nodup := by
    have hperm := (insertEntry_perm ⟨m.next, k, v⟩ m.entries).map MapEntry.id
    rw [hperm.nodup_iff, List.map_cons, List.nodup_cons]
    refine ⟨?_, m.nodup⟩
    intro hmem
    obtain ⟨e, he, hid⟩ := List.mem_map.mp hmem
    exact absurd (m.fresh e he) (by rw [hid]; exact Nat.lt_irrefl m.next)
  fresh := by
    intro e he
    rcases List.mem_cons.mp ((insertEntry_perm _ _).mem_iff.mp he) with rfl | he
    · exact Nat.lt_succ_self _
    · exact Nat.lt_succ_of_lt (m.fresh e he)

/-- The iterator that `insert` returns. -/
def insertIter (m : OrderedMultimap K V) : MapIter := .node m.next

/-- The entries behind an insertion are the new one and those before it. -/
theorem mem_insert {m : OrderedMultimap K V} {k : K} {v : V} {e : MapEntry K V} :
    e ∈ (m.insert k v).entries ↔ e = ⟨m.next, k, v⟩ ∨ e ∈ m.entries := by
  rw [insert, (insertEntry_perm _ _).mem_iff, List.mem_cons]

/-! ### Access and removal through iterators -/

/-- The entry an iterator designates. -/
def deref (m : OrderedMultimap K V) : MapIter → Option (MapEntry K V)
  | .node id => m.entries.find? fun e => e.id = id
  | _ => none

/-- An identity designates at most one entry. -/
theorem eq_of_id_eq {m : OrderedMultimap K V} {e f : MapEntry K V} (he : e ∈ m.entries)
    (hf : f ∈ m.entries) (h : e.id = f.id) : e = f :=
  List.inj_on_of_nodup_map m.nodup he hf h

/-- An iterator dereferences to the entry it names, if that is still there. -/
theorem deref_eq_some_iff {m : OrderedMultimap K V} {it : MapIter} {e : MapEntry K V} :
    m.deref it = some e ↔ it = .node e.id ∧ e ∈ m.entries := by
  constructor
  · intro h
    cases it with
    | node id =>
        have hid : e.id = id := by simpa using List.find?_some h
        exact ⟨by rw [hid], List.mem_of_find?_eq_some h⟩
    | singular => cases h
    | pastEnd => cases h
  · rintro ⟨rfl, he⟩
    -- the search stops at an entry with this identity, and there is only one
    cases hfind : m.entries.find? fun f => f.id = e.id with
    | none =>
        have hne := List.find?_eq_none.mp hfind e he
        simp at hne
    | some f =>
        have hid : f.id = e.id := by simpa using List.find?_some hfind
        rw [eq_of_id_eq (List.mem_of_find?_eq_some hfind) he hid] at hfind
        exact hfind

/-- `begin()`. -/
def begin (m : OrderedMultimap K V) : MapIter :=
  match m.entries with
  | [] => .pastEnd
  | e :: _ => .node e.id

/-- The iterator behind the entry with identity `id` in a list of entries. -/
def nextIter (id : Nat) : List (MapEntry K V) → MapIter
  | [] => .pastEnd
  | e :: rest =>
      if e.id = id then
        match rest with
        | [] => .pastEnd
        | f :: _ => .node f.id
      else nextIter id rest

/-- `erase(it)`; undefined unless the iterator designates an entry. -/
def erase (m : OrderedMultimap K V) (it : MapIter) : Option (OrderedMultimap K V) :=
  (m.deref it).map fun e =>
    { entries := m.entries.filter fun f => f.id ≠ e.id
      next := m.next
      sorted := m.sorted.sublist List.filter_sublist
      nodup := m.nodup.sublist (List.filter_sublist.map _)
      fresh := fun f hf => m.fresh f (List.mem_filter.mp hf).1 }

/-- Erasing through a valid iterator removes exactly the designated entry. -/
theorem erase_node {m : OrderedMultimap K V} {e : MapEntry K V} (he : e ∈ m.entries) :
    ∃ m', m.erase (.node e.id) = some m' ∧
      m'.entries = m.entries.filter (fun f => f.id ≠ e.id) := by
  have hd : m.deref (.node e.id) = some e := deref_eq_some_iff.mpr ⟨rfl, he⟩
  exact ⟨_, by rw [erase, hd]; rfl, rfl⟩

/-- An erase adds no entry. -/
theorem mem_of_mem_erase {m m' : OrderedMultimap K V} {it : MapIter} (h : m.erase it = some m')
    {e : MapEntry K V} (he : e ∈ m'.entries) : e ∈ m.entries := by
  rw [erase, Option.map_eq_some_iff] at h
  obtain ⟨f, -, rfl⟩ := h
  exact (List.mem_filter.mp he).1

/-- An erase makes the map shorter. -/
theorem length_erase_lt {m m' : OrderedMultimap K V} {it : MapIter} (h : m.erase it = some m') :
    m'.entries.length < m.entries.length := by
  rw [erase, Option.map_eq_some_iff] at h
  obtain ⟨e, he, rfl⟩ := h
  obtain ⟨-, hmem⟩ := deref_eq_some_iff.mp he
  apply Nat.lt_of_le_of_ne (List.length_filter_le _ _)
  intro heq
  have hall := List.length_filter_eq_length_iff.mp heq e hmem
  simp at hall

/-! ### Consuming a map from its front -/

/-- `begin` dereferences to the first entry. -/
theorem deref_begin {m : OrderedMultimap K V} {e : MapEntry K V} {rest : List (MapEntry K V)}
    (h : m.entries = e :: rest) : m.deref m.begin = some e := by
  rw [deref_eq_some_iff, begin, h]
  exact ⟨rfl, List.mem_cons_self⟩

/-- Erasing the first entry leaves the others, in order. -/
theorem erase_begin {m : OrderedMultimap K V} {e : MapEntry K V} {rest : List (MapEntry K V)}
    (h : m.entries = e :: rest) : ∃ m', m.erase m.begin = some m' ∧ m'.entries = rest := by
  have hbegin : m.begin = .node e.id := by rw [begin, h]
  obtain ⟨m', herase, hentries⟩ := erase_node (m := m) (e := e) (by rw [h]; exact List.mem_cons_self)
  refine ⟨m', hbegin ▸ herase, ?_⟩
  -- no other entry has the identity of the first one
  have hnodup := m.nodup
  rw [h, List.map_cons, List.nodup_cons] at hnodup
  rw [hentries, h, List.filter_cons_of_neg (by simp), List.filter_eq_self]
  intro f hf
  have hne : f.id ≠ e.id := fun heq => hnodup.1 (List.mem_map.mpr ⟨f, hf, heq⟩)
  simpa using hne

/-- The iterator that erasing the first entry returns is the beginning of what is left. -/
theorem nextIter_begin {m m' : OrderedMultimap K V} {e : MapEntry K V}
    (h : m.entries = e :: m'.entries) : nextIter e.id m.entries = m'.begin := by
  rw [h, begin]
  cases m'.entries with
  | nil => simp [nextIter]
  | cons f rest => simp [nextIter]

/-- `begin` is the end iterator exactly when there are no entries. -/
theorem begin_eq_pastEnd_iff {m : OrderedMultimap K V} : m.begin = .pastEnd ↔ m.entries = [] := by
  rw [begin]
  cases m.entries with
  | nil => simp
  | cons e rest => simp

end OrderedMultimap

end RaptorLite
