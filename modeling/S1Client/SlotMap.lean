import Mathlib.Data.List.Basic

/-! A map kept in slots.  Entries live in the slots of an array; removing an
entry frees its slot and puts it on a free list, and the next new key takes the
slot freed last.  A slot reference obtained from `find` outlives the entry: the
bytes of a value stay in a freed slot until it is taken again.  The structure's
fields say that a key occupies one slot only and that the free list names freed
slots, each once, so every value of `SlotMap` is well formed and the map laws
(`lookup_add`, `lookup_remove`, `mem_entries`) need no hypothesis. -/

/-- A slot: an entry, or the freed slot of an entry whose value's bytes are
still there. -/
inductive Slot (κ α : Type) where
  | occupied (key : κ) (value : α)
  | freed (stale : α)
  deriving DecidableEq, Repr

namespace Slot
variable {κ α : Type} [DecidableEq κ]

/-- The value under `k`, if this slot holds it. -/
def valueOf (k : κ) : Slot κ α → Option α
  | occupied k' a => if k' = k then some a else none
  | freed _ => none

omit [DecidableEq κ] in
/-- The entry in the slot. -/
def pair? : Slot κ α → Option (κ × α)
  | occupied k a => some (k, a)
  | freed _ => none

@[simp] theorem valueOf_eq_some {k : κ} {a : α} {s : Slot κ α} :
    s.valueOf k = some a ↔ s = occupied k a := by
  cases s with
  | occupied k' b => simp only [valueOf]; split <;> simp_all
  | freed b => simp [valueOf]

omit [DecidableEq κ] in
@[simp] theorem pair?_eq_some {k : κ} {a : α} {s : Slot κ α} :
    s.pair? = some (k, a) ↔ s = occupied k a := by
  cases s <;> simp [pair?]

end Slot

/-- A map from `κ` to `α` in slots, with its free list. -/
structure SlotMap (κ α : Type) where
  slots : List (Slot κ α)
  freeList : List Nat
  /-- A key occupies one slot. -/
  unique : ∀ (i j : Nat) k a b, slots[i]? = some (Slot.occupied k a) → slots[j]? = some (Slot.occupied k b) → i = j
  /-- The free list names freed slots. -/
  free : ∀ i ∈ freeList, ∃ a, slots[i]? = some (Slot.freed a)
  /-- It names each of them once. -/
  nodup : freeList.Nodup

namespace SlotMap
variable {κ α : Type}

/-- No entries, no slots. -/
def empty : SlotMap κ α := ⟨[], [], by simp, by simp, List.nodup_nil⟩

/-- The entries, in slot order. -/
def entries (m : SlotMap κ α) : List (κ × α) := m.slots.filterMap Slot.pair?

/-- What the bytes of a slot read as: `some` of the value in an occupied slot;
in a freed one, `some` of the stale value if `keeps` says that freeing leaves the
bytes in place. -/
def deref (m : SlotMap κ α) (keeps : Bool) (i : Nat) : Option α :=
  match m.slots[i]? with
  | some (.occupied _ a) => some a
  | some (.freed a) => if keeps then some a else none
  | none => none

variable [DecidableEq κ]

/-- The slot of `k`. -/
def find (m : SlotMap κ α) (k : κ) : Option Nat :=
  m.slots.findIdx? (fun s => (s.valueOf k).isSome)

/-- The value of `k`. -/
def lookup (m : SlotMap κ α) (k : κ) : Option α := m.slots.findSome? (Slot.valueOf k)

/-! ## The map as a relation between keys and values -/

theorem lookup_eq_some {m : SlotMap κ α} {k : κ} {a : α} :
    m.lookup k = some a ↔ ∃ i : Nat, m.slots[i]? = some (Slot.occupied k a) := by
  constructor
  · intro h
    obtain ⟨s, hs, hv⟩ := List.exists_of_findSome?_eq_some h
    obtain ⟨i, hi⟩ := List.mem_iff_getElem?.mp hs
    exact ⟨i, hi.trans (congrArg some (Slot.valueOf_eq_some.mp hv))⟩
  · rintro ⟨i, hi⟩
    have hm : Slot.occupied k a ∈ m.slots := List.mem_iff_getElem?.mpr ⟨i, hi⟩
    have hne : m.lookup k ≠ none := fun hn =>
      absurd (List.findSome?_eq_none_iff.mp hn _ hm) (by simp [Slot.valueOf])
    obtain ⟨b, hb⟩ := Option.ne_none_iff_exists'.mp hne
    obtain ⟨s, hs, hv⟩ := List.exists_of_findSome?_eq_some hb
    obtain ⟨j, hj⟩ := List.mem_iff_getElem?.mp hs
    rw [Slot.valueOf_eq_some.mp hv] at hj
    obtain rfl := m.unique i j k a b hi hj
    rw [hi] at hj
    rw [hb, (Slot.occupied.inj (Option.some.inj hj)).2]

theorem find_eq_some {m : SlotMap κ α} {k : κ} {i : Nat} :
    m.find k = some i ↔ ∃ a, m.slots[i]? = some (Slot.occupied k a) := by
  constructor
  · intro h
    obtain ⟨hi, hp, -⟩ := List.findIdx?_eq_some_iff_getElem.mp h
    obtain ⟨a, ha⟩ := Option.isSome_iff_exists.mp hp
    exact ⟨a, by rw [List.getElem?_eq_getElem hi, Slot.valueOf_eq_some.mp ha]⟩
  · rintro ⟨a, ha⟩
    cases h : m.find k with
    | none =>
      have hm : Slot.occupied k a ∈ m.slots := List.mem_iff_getElem?.mpr ⟨i, ha⟩
      exact absurd (List.findIdx?_eq_none_iff.mp h _ hm) (by simp [Slot.valueOf])
    | some j =>
      obtain ⟨hj, hp, -⟩ := List.findIdx?_eq_some_iff_getElem.mp h
      obtain ⟨b, hb⟩ := Option.isSome_iff_exists.mp hp
      have hjb : m.slots[j]? = some (Slot.occupied k b) := by
        rw [List.getElem?_eq_getElem hj, Slot.valueOf_eq_some.mp hb]
      rw [m.unique i j k a b ha hjb]

theorem find_eq_none {m : SlotMap κ α} {k : κ} : m.find k = none ↔ m.lookup k = none := by
  rw [Option.eq_none_iff_forall_ne_some, Option.eq_none_iff_forall_ne_some]
  constructor
  · intro h a ha
    obtain ⟨i, hi⟩ := lookup_eq_some.mp ha
    exact h i (find_eq_some.mpr ⟨a, hi⟩)
  · intro h i hi
    obtain ⟨a, ha⟩ := find_eq_some.mp hi
    exact h a (lookup_eq_some.mpr ⟨i, ha⟩)

omit [DecidableEq κ] in
theorem mem_entries_iff {m : SlotMap κ α} {k : κ} {a : α} :
    (k, a) ∈ m.entries ↔ ∃ i : Nat, m.slots[i]? = some (Slot.occupied k a) := by
  simp only [entries, List.mem_filterMap, Slot.pair?_eq_some, exists_eq_right]
  exact List.mem_iff_getElem?

/-- The range-for over the map meets exactly its entries. -/
theorem mem_entries {m : SlotMap κ α} {k : κ} {a : α} :
    (k, a) ∈ m.entries ↔ m.lookup k = some a :=
  mem_entries_iff.trans lookup_eq_some.symm

theorem lookup_of_mem_entries (m : SlotMap κ α) : ∀ x ∈ m.entries, m.lookup x.1 = some x.2 :=
  fun _ hx => mem_entries.mp hx

/-- A property of all keys in use is one of the entries. -/
theorem forall_lookup_iff {m : SlotMap κ α} {P : κ → Prop} :
    (∀ k, m.lookup k ≠ none → P k) ↔ ∀ x ∈ m.entries, P x.1 := by
  constructor
  · rintro h ⟨k, a⟩ hx
    exact h k (by rw [mem_entries.mp hx]; exact Option.some_ne_none a)
  · intro h k hk
    obtain ⟨a, ha⟩ := Option.ne_none_iff_exists'.mp hk
    exact h (k, a) (mem_entries.mpr ha)

@[simp] theorem lookup_empty (k : κ) : (empty : SlotMap κ α).lookup k = none := rfl

/-! ## Adding an entry -/

omit [DecidableEq κ] in
private theorem set_unique {m : SlotMap κ α} {i : Nat} {k : κ} {a : α}
    (hk : ∀ (j : Nat) b, m.slots[j]? = some (Slot.occupied k b) → j = i) :
    ∀ (j j' : Nat) k' b b', (m.slots.set i (Slot.occupied k a))[j]? = some (Slot.occupied k' b) →
      (m.slots.set i (Slot.occupied k a))[j']? = some (Slot.occupied k' b') → j = j' := by
  intro j j' k' b b' h h'
  rw [List.getElem?_set] at h h'
  by_cases hj : i = j <;> by_cases hj' : i = j'
  · exact hj.symm.trans hj'
  · rw [if_pos hj] at h
    rw [if_neg hj'] at h'
    split at h
    · obtain ⟨rfl, -⟩ := Slot.occupied.inj (Option.some.inj h)
      exact absurd (hk j' b' h').symm hj'
    · cases h
  · rw [if_neg hj] at h
    rw [if_pos hj'] at h'
    split at h'
    · obtain ⟨rfl, -⟩ := Slot.occupied.inj (Option.some.inj h')
      exact absurd (hk j b h).symm hj
    · cases h'
  · rw [if_neg hj] at h
    rw [if_neg hj'] at h'
    exact m.unique j j' k' b b' h h'

omit [DecidableEq κ] in
private theorem set_free {m : SlotMap κ α} {i : Nat} {s : Slot κ α} {l : List Nat}
    (hl : ∀ j ∈ l, j ∈ m.freeList) (hi : i ∉ l) :
    ∀ j ∈ l, ∃ b, (m.slots.set i s)[j]? = some (Slot.freed b) := by
  intro j hj
  obtain ⟨b, hb⟩ := m.free j (hl j hj)
  have hij : i ≠ j := fun h => hi (h ▸ hj)
  exact ⟨b, by rw [List.getElem?_set_ne hij, hb]⟩

omit [DecidableEq κ] in
private theorem concat_unique {m : SlotMap κ α} {k : κ} {a : α}
    (fresh : ∀ (j : Nat) b, m.slots[j]? ≠ some (Slot.occupied k b)) :
    ∀ (j j' : Nat) k' b b', (m.slots ++ [Slot.occupied k a])[j]? = some (Slot.occupied k' b) →
      (m.slots ++ [Slot.occupied k a])[j']? = some (Slot.occupied k' b') → j = j' := by
  intro j j' k' b b' h h'
  -- an entry of the longer list is an old one, or the last
  have key : ∀ {j : Nat} {b}, (m.slots ++ [Slot.occupied k a])[j]? = some (Slot.occupied k' b) →
      m.slots[j]? = some (Slot.occupied k' b) ∨ j = m.slots.length ∧ k' = k := by
    intro j b h
    rcases Nat.lt_trichotomy j m.slots.length with hj | hj | hj
    · exact Or.inl (by rwa [List.getElem?_append_left hj] at h)
    · subst hj
      simp only [List.getElem?_concat_length, Option.some.injEq, Slot.occupied.injEq] at h
      exact Or.inr ⟨rfl, h.1.symm⟩
    · rw [List.getElem?_eq_none (by simp; omega)] at h
      cases h
  rcases key h with h | ⟨rfl, rfl⟩ <;> rcases key h' with h' | ⟨rfl, hk⟩
  · exact m.unique j j' k' b b' h h'
  · exact absurd (hk ▸ h) (fresh j b)
  · exact absurd h' (fresh j' b')
  · rfl

/-- Sets the value of `k`: in its own slot if it has one, else in the slot freed
last, else in a new slot. -/
def add (m : SlotMap κ α) (k : κ) (a : α) : SlotMap κ α :=
  match hf : m.find k with
  | some i =>
    { slots := m.slots.set i (Slot.occupied k a)
      freeList := m.freeList
      unique := set_unique fun j b hb => by
        obtain ⟨c, hc⟩ := find_eq_some.mp hf
        exact m.unique j i k b c hb hc
      free := set_free (fun _ h => h) fun hi => by
        obtain ⟨c, hc⟩ := find_eq_some.mp hf
        obtain ⟨d, hd⟩ := m.free i hi
        rw [hc] at hd
        cases hd
      nodup := m.nodup }
  | none =>
    match hl : m.freeList with
    | i :: rest =>
      { slots := m.slots.set i (Slot.occupied k a)
        freeList := rest
        unique := set_unique fun j b hb => by
          rw [find_eq_some.mpr ⟨b, hb⟩] at hf
          cases hf
        free := set_free (fun j hj => hl ▸ List.mem_cons_of_mem i hj)
          (List.nodup_cons.mp (hl ▸ m.nodup)).1
        nodup := (List.nodup_cons.mp (hl ▸ m.nodup)).2 }
    | [] =>
      { slots := m.slots ++ [Slot.occupied k a]
        freeList := []
        unique := concat_unique fun j b hb => by
          rw [find_eq_some.mpr ⟨b, hb⟩] at hf
          cases hf
        free := fun _ h => absurd h List.not_mem_nil
        nodup := List.nodup_nil }

private theorem lookup_of_set {m m' : SlotMap κ α} {i : Nat} {k : κ} {a : α}
    (hs : m'.slots = m.slots.set i (Slot.occupied k a)) (hi : i < m.slots.length)
    (hold : ∀ k' b, m.slots[i]? = some (Slot.occupied k' b) → k' = k) (j : κ) :
    m'.lookup j = if j = k then some a else m.lookup j := by
  by_cases hj : j = k
  · rw [if_pos hj, hj]
    exact lookup_eq_some.mpr ⟨i, by rw [hs, List.getElem?_set_self hi]⟩
  · rw [if_neg hj]
    apply Option.ext
    intro b
    rw [lookup_eq_some, lookup_eq_some, hs]
    apply exists_congr
    intro n
    by_cases hn : i = n
    · subst hn
      rw [List.getElem?_set_self hi]
      constructor
      · intro h
        exact absurd (Slot.occupied.inj (Option.some.inj h)).1.symm hj
      · intro h
        exact absurd (hold j b h) hj
    · rw [List.getElem?_set_ne hn]

omit [DecidableEq κ] in
private theorem lt_of_getElem? {m : SlotMap κ α} {i : Nat} {s : Slot κ α}
    (h : m.slots[i]? = some s) : i < m.slots.length :=
  (List.getElem?_eq_some_iff.mp h).1

/-- **`add` sets `k` and nothing else.** -/
theorem lookup_add (m : SlotMap κ α) (k : κ) (a : α) (j : κ) :
    (m.add k a).lookup j = if j = k then some a else m.lookup j := by
  unfold add
  split
  · -- `k` keeps its slot
    rename_i i hf
    obtain ⟨c, hc⟩ := find_eq_some.mp hf
    refine lookup_of_set rfl (lt_of_getElem? hc) (fun k' b hb => ?_) j
    rw [hc] at hb
    exact (Slot.occupied.inj (Option.some.inj hb)).1.symm
  · rename_i hf
    split
    · -- `k` gets the slot freed last, which held no entry
      rename_i i rest hl
      obtain ⟨c, hc⟩ := m.free i (hl ▸ List.mem_cons_self)
      refine lookup_of_set rfl (lt_of_getElem? hc) (fun k' b hb => ?_) j
      rw [hc] at hb
      cases hb
    · -- `k` gets a new slot; the old ones hold no entry of `k`
      have happ : ∀ l : List (Slot κ α), (l ++ [Slot.occupied k a]).findSome? (Slot.valueOf j) =
          (l.findSome? (Slot.valueOf j)).or (if k = j then some a else none) := by
        intro l
        rw [List.findSome?_append, List.findSome?_singleton]
        rfl
      show (m.slots ++ [Slot.occupied k a]).findSome? (Slot.valueOf j) = _
      rw [happ]
      by_cases hj : j = k
      · have hnone : m.slots.findSome? (Slot.valueOf k) = none := find_eq_none.mp hf
        rw [hj, hnone, if_pos rfl, if_pos rfl]
        rfl
      · rw [if_neg hj, if_neg (fun h => hj h.symm), Option.or_none]
        rfl

@[simp] theorem lookup_add_self (m : SlotMap κ α) (k : κ) (a : α) :
    (m.add k a).lookup k = some a := by
  rw [lookup_add, if_pos rfl]

theorem lookup_add_of_ne (m : SlotMap κ α) {k j : κ} (a : α) (h : j ≠ k) :
    (m.add k a).lookup j = m.lookup j := by
  rw [lookup_add, if_neg h]

/-! ## Removing an entry -/

/-- Frees the slot of `k`; the value's bytes stay in it. -/
def remove (m : SlotMap κ α) (k : κ) : SlotMap κ α :=
  match hf : m.find k with
  | none => m
  | some i =>
    match hv : m.slots[i]? with
    | some (.occupied k' a) =>
      { slots := m.slots.set i (Slot.freed a)
        freeList := i :: m.freeList
        unique := by
          intro j j' k₁ b b' h h'
          rw [List.getElem?_set] at h h'
          split at h
          · split at h <;> cases h
          · split at h'
            · split at h' <;> cases h'
            · exact m.unique j j' k₁ b b' h h'
        free := by
          intro j hj
          by_cases hij : i = j
          · exact ⟨a, by rw [← hij, List.getElem?_set_self (lt_of_getElem? hv)]⟩
          · obtain ⟨b, hb⟩ := m.free j ((List.mem_cons.mp hj).resolve_left fun h => hij h.symm)
            exact ⟨b, by rw [List.getElem?_set_ne hij, hb]⟩
        nodup := by
          refine List.nodup_cons.mpr ⟨fun hi => ?_, m.nodup⟩
          obtain ⟨b, hb⟩ := m.free i hi
          rw [hv] at hb
          cases hb }
    -- `find` returns occupied slots only
    | _ => m

/-- The slot of a removed key is freed and holds its value's bytes. -/
theorem slots_remove {m : SlotMap κ α} {k : κ} {i : Nat} {a : α}
    (h : m.slots[i]? = some (Slot.occupied k a)) :
    (m.remove k).slots = m.slots.set i (Slot.freed a) := by
  have hf : m.find k = some i := find_eq_some.mpr ⟨a, h⟩
  unfold remove
  split
  · rename_i hn
    rw [hf] at hn
    cases hn
  · rename_i j hj
    obtain rfl : i = j := Option.some.inj (hf.symm.trans hj)
    split
    · rename_i k' b hb
      rw [h] at hb
      obtain ⟨-, rfl⟩ := Slot.occupied.inj (Option.some.inj hb)
      rfl
    · rename_i hne
      exact absurd h (hne k a)

/-- **`remove` drops `k` and nothing else.** -/
theorem lookup_remove (m : SlotMap κ α) (k j : κ) :
    (m.remove k).lookup j = if j = k then none else m.lookup j := by
  cases hk : m.lookup k with
  | none =>
    have hm : m.remove k = m := by
      unfold remove
      split
      · rfl
      · rename_i i hi
        rw [find_eq_none.mpr hk] at hi
        cases hi
    rw [hm]
    split
    · rename_i hj
      rw [hj, hk]
    · rfl
  | some a =>
    obtain ⟨i, hi⟩ := lookup_eq_some.mp hk
    apply Option.ext
    intro b
    rw [lookup_eq_some, slots_remove hi]
    constructor
    · rintro ⟨n, hn⟩
      rw [List.getElem?_set] at hn
      split at hn
      · split at hn <;> cases hn
      · rename_i hne
        -- an entry in another slot has another key
        have hjk : j ≠ k := by
          rintro rfl
          exact hne (m.unique i n j a b hi hn)
        rw [if_neg hjk]
        exact lookup_eq_some.mpr ⟨n, hn⟩
    · intro hb
      split at hb
      · cases hb
      · rename_i hj
        obtain ⟨n, hn⟩ := lookup_eq_some.mp hb
        refine ⟨n, ?_⟩
        rw [List.getElem?_set_ne, hn]
        rintro rfl
        rw [hi] at hn
        exact hj (Slot.occupied.inj (Option.some.inj hn)).1.symm

@[simp] theorem lookup_remove_self (m : SlotMap κ α) (k : κ) : (m.remove k).lookup k = none := by
  rw [lookup_remove, if_pos rfl]

theorem lookup_remove_of_ne (m : SlotMap κ α) {k j : κ} (h : j ≠ k) :
    (m.remove k).lookup j = m.lookup j := by
  rw [lookup_remove, if_neg h]

/-- **What `find` finds.**  A reference read after its entry was removed is the old
value exactly when freeing a slot leaves its bytes in place. -/
theorem find_cases (m : SlotMap κ α) (k : κ) (keeps : Bool) :
    (m.find k = none ∧ m.lookup k = none) ∨
      ∃ i a, m.find k = some i ∧ m.lookup k = some a ∧
        (m.remove k).deref keeps i = if keeps then some a else none := by
  cases hf : m.find k with
  | none => exact Or.inl ⟨rfl, find_eq_none.mp hf⟩
  | some i =>
    obtain ⟨a, ha⟩ := find_eq_some.mp hf
    refine Or.inr ⟨i, a, rfl, lookup_eq_some.mpr ⟨i, ha⟩, ?_⟩
    rw [deref, slots_remove ha, List.getElem?_set_self (lt_of_getElem? ha)]

end SlotMap
