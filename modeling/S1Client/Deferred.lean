import Mathlib.Data.List.Basic

/-! Blocks of cells, laid out in memory one after the other, some of them put off: a
block may be reserved where it belongs and filled in later.  While slots are open each
cell laid out holds what it should, or lies in an open slot (`Pending`); every operation
keeps that, in whatever order the slots are filled, so in the end the memory holds the
blocks (`Pending.holds`) and is as it was outside of them (`Pending.outside`). -/
namespace Deferred
variable {α : Type}

/-- The memory with `block` from `off` on. -/
def store (m : Nat → α) (off : Nat) (block : List α) : Nat → α := fun k =>
  if off ≤ k then (block[k - off]?).getD (m k) else m k

/-- The cells from `off` on hold `block`. -/
def Holds (m : Nat → α) (off : Nat) (block : List α) : Prop :=
  ∀ i c, block[i]? = some c → m (off + i) = c

variable {m : Nat → α} {off : Nat} {block : List α}

theorem store_of_getElem? {i : Nat} {c : α} (h : block[i]? = some c) :
    store m off block (off + i) = c := by
  unfold store
  rw [if_pos (Nat.le_add_right off i), Nat.add_sub_cancel_left, h, Option.getD_some]

/-- Outside of the block nothing changes. -/
theorem store_of_outside {k : Nat} (h : k < off ∨ off + block.length ≤ k) :
    store m off block k = m k := by
  unfold store
  split
  · rw [List.getElem?_eq_none (by omega), Option.getD_none]
  · rfl

theorem holds_append {a b : List α} :
    Holds m off (a ++ b) ↔ Holds m off a ∧ Holds m (off + a.length) b := by
  constructor
  · intro h
    refine ⟨fun i c hi => h i c ?_, fun i c hi => ?_⟩
    · rw [List.getElem?_append_left (List.getElem?_eq_some_iff.mp hi).1, hi]
    · rw [Nat.add_assoc]
      refine h (a.length + i) c ?_
      rw [List.getElem?_append_right (Nat.le_add_right ..), Nat.add_sub_cancel_left, hi]
  · rintro ⟨ha, hb⟩ i c hi
    rcases Nat.lt_or_ge i a.length with hlt | hge
    · rw [List.getElem?_append_left hlt] at hi
      exact ha i c hi
    · rw [List.getElem?_append_right hge] at hi
      have hcell := hb (i - a.length) c hi
      rwa [Nat.add_assoc, Nat.add_sub_cancel' hge] at hcell

/-- The cells a memory holds, as a list. -/
def cells (m : Nat → α) (off len : Nat) : List α := (List.range' off len).map m

/-- What is read where a block is held. -/
theorem Holds.cells_eq (h : Holds m off block) : cells m off block.length = block := by
  apply List.ext_getElem?
  intro i
  rw [cells, List.getElem?_map]
  rcases Nat.lt_or_ge i block.length with hlt | hge
  · have hcell := h i block[i] (List.getElem?_eq_getElem hlt)
    rw [List.getElem?_eq_getElem hlt, List.getElem?_eq_getElem (by simpa using hlt)]
    simp [hcell]
  · rw [List.getElem?_eq_none hge, List.getElem?_eq_none (by simpa using hge), Option.map_none]

/-! ## Open slots -/

/-- From `start` on the cells `written` are laid out over `base`, except that the blocks
of the open `slots`, each with its place, are not there yet. -/
structure Pending (base : Nat → α) (start : Nat) (written : List α)
    (slots : List (Nat × List α)) (m : Nat → α) : Prop where
  slot : ∀ slot ∈ slots, ∃ k, slot.1 = start + k ∧
    ∀ i c, slot.2[i]? = some c → written[k + i]? = some c
  cell : ∀ k c, written[k]? = some c → m (start + k) = c ∨
    ∃ slot ∈ slots, slot.1 ≤ start + k ∧ start + k < slot.1 + slot.2.length
  outside : ∀ k, k < start ∨ start + written.length ≤ k → m k = base k

variable {base : Nat → α} {start : Nat} {written : List α} {slots : List (Nat × List α)}

/-- Nothing laid out. -/
theorem pending_nil (base : Nat → α) (start : Nat) : Pending base start [] [] base := by
  exact ⟨fun _ hslot => (List.not_mem_nil hslot).elim,
    fun _ _ hk => (Option.some_ne_none _ hk.symm).elim,
    fun _ _ => rfl⟩

/-- Laying out more leaves the open slots where they are. -/
private theorem open_append {slot : Nat × List α}
    (h : ∃ k, slot.1 = start + k ∧ ∀ i c, slot.2[i]? = some c → written[k + i]? = some c)
    (block : List α) :
    ∃ k, slot.1 = start + k ∧ ∀ i c, slot.2[i]? = some c → (written ++ block)[k + i]? = some c := by
  obtain ⟨k, hk, hslot⟩ := h
  refine ⟨k, hk, fun i c hi => ?_⟩
  have hw := hslot i c hi
  rw [List.getElem?_append_left (List.getElem?_eq_some_iff.mp hw).1, hw]

/-- **A block put in its place.** -/
theorem Pending.put (h : Pending base start written slots m) (block : List α) :
    Pending base start (written ++ block) slots (store m (start + written.length) block) := by
  refine ⟨fun slot hslot => open_append (h.slot slot hslot) block, fun k c hk => ?_, fun k hk => ?_⟩
  · rcases Nat.lt_or_ge k written.length with hlt | hge
    · rw [List.getElem?_append_left hlt] at hk
      rw [store_of_outside (Or.inl (by omega))]
      exact h.cell k c hk
    · rw [List.getElem?_append_right hge] at hk
      have hcell : store m (start + written.length) block
          (start + written.length + (k - written.length)) = c := store_of_getElem? hk
      rw [Nat.add_assoc, Nat.add_sub_cancel' hge] at hcell
      exact Or.inl hcell
  · rw [List.length_append] at hk
    rw [store_of_outside (by omega)]
    exact h.outside k (by omega)

/-- **A block put off.** -/
theorem Pending.reserve (h : Pending base start written slots m) (block : List α) :
    Pending base start (written ++ block) (slots ++ [(start + written.length, block)]) m := by
  refine ⟨fun slot hslot => ?_, fun k c hk => ?_, fun k hk => ?_⟩
  · rcases List.mem_append.mp hslot with hslot | hslot
    · exact open_append (h.slot slot hslot) block
    · obtain rfl := List.mem_singleton.mp hslot
      refine ⟨written.length, rfl, fun i c hi => ?_⟩
      rw [List.getElem?_append_right (Nat.le_add_right ..), Nat.add_sub_cancel_left, hi]
  · rcases Nat.lt_or_ge k written.length with hlt | hge
    · rw [List.getElem?_append_left hlt] at hk
      refine (h.cell k c hk).imp_right ?_
      rintro ⟨slot, hslot, hin⟩
      exact ⟨slot, List.mem_append_left _ hslot, hin⟩
    · -- the cell is in the new slot
      rw [List.getElem?_append_right hge] at hk
      have hlt := (List.getElem?_eq_some_iff.mp hk).1
      refine Or.inr ⟨_, List.mem_append_right _ (List.mem_singleton.mpr rfl), ?_, ?_⟩
      · show start + written.length ≤ start + k
        omega
      · show start + k < start + written.length + block.length
        omega
  · rw [List.length_append] at hk
    exact h.outside k (by omega)

/-- **An open slot filled in.** -/
theorem Pending.fill (h : Pending base start written slots m) {i : Nat} {slot : Nat × List α}
    (hi : slots[i]? = some slot) :
    Pending base start written (slots.eraseIdx i) (store m slot.1 slot.2) := by
  have hmem := List.mem_of_getElem? hi
  obtain ⟨j, hj, hslot⟩ := h.slot slot hmem
  refine ⟨fun other hother => h.slot other (List.mem_of_mem_eraseIdx hother), fun k c hk => ?_,
    fun k hk => ?_⟩
  · by_cases hin : slot.1 ≤ start + k ∧ start + k < slot.1 + slot.2.length
    · -- the slot holds what is written there
      obtain ⟨n, hn⟩ : ∃ n, start + k = slot.1 + n := ⟨start + k - slot.1, by omega⟩
      have hlt : n < slot.2.length := by omega
      have hkn : j + n = k := by omega
      have hcell := hslot n slot.2[n] (List.getElem?_eq_getElem hlt)
      rw [hkn, hk] at hcell
      rw [hn, Option.some.inj hcell]
      exact Or.inl (store_of_getElem? (List.getElem?_eq_getElem hlt))
    · rw [store_of_outside (by omega)]
      refine (h.cell k c hk).imp_right ?_
      rintro ⟨other, hother, hin'⟩
      refine ⟨other, ?_, hin'⟩
      -- it is another slot, since the cell is not in this one
      obtain ⟨l, hl⟩ := List.mem_iff_getElem?.mp hother
      refine List.mem_eraseIdx_iff_getElem?.mpr ⟨l, fun hli => ?_, hl⟩
      rw [hli, hi] at hl
      obtain rfl := Option.some.inj hl
      exact hin hin'
  · have hend : slot.2.length = 0 ∨ j + slot.2.length ≤ written.length := by
      rcases Nat.eq_zero_or_pos slot.2.length with hzero | hpos
      · exact Or.inl hzero
      · have hlast := hslot (slot.2.length - 1) slot.2[slot.2.length - 1]
          (List.getElem?_eq_getElem (by omega))
        have hlt := (List.getElem?_eq_some_iff.mp hlast).1
        exact Or.inr (by omega)
    rw [store_of_outside (by omega)]
    exact h.outside k hk

/-- **With no slot open the memory holds all that was laid out.** -/
theorem Pending.holds (h : Pending base start written [] m) : Holds m start written := by
  intro k c hk
  rcases h.cell k c hk with hcell | ⟨slot, hslot, -⟩
  · exact hcell
  · cases hslot

end Deferred
