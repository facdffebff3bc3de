import S1Client.SlotMap

/-! A store of objects that are created once, changed in place and destroyed at
most once in a sound program, and a registry that tracks some of them in a map
from keys to references.  The store never reuses a reference.  Two properties of
a registry are kept apart because programs break them separately: what is tracked
is live and has the key it is tracked under (`Registry.Keyed`), and what is live
is tracked (`Registry.NoLeak`). -/

/-- Objects of type `α`, each live or destroyed (`none`), and the references
`destroy` was called on, oldest first. -/
structure Arena (α : Type) where
  cells : List (Option α)
  destroyCalls : List Nat
  deriving DecidableEq, Repr

namespace Arena
variable {α : Type}

/-- Nothing was created yet. -/
def empty : Arena α := ⟨[], []⟩

/-- The reference of the next object. -/
def next (h : Arena α) : Nat := h.cells.length

/-- The object behind `a`, if it is live. -/
def get? (h : Arena α) (a : Nat) : Option α := h.cells[a]?.join

/-- Creates an object, with reference `h.next`. -/
def spawn (h : Arena α) (v : α) : Arena α := { h with cells := h.cells ++ [some v] }

/-- Changes the object behind `a` in place. -/
def modify (h : Arena α) (a : Nat) (f : α → α) : Arena α :=
  { h with cells := h.cells.modify a (Option.map f) }

/-- Destroys the object behind `a`. -/
def destroy (h : Arena α) (a : Nat) : Arena α :=
  ⟨h.cells.set a none, h.destroyCalls ++ [a]⟩

@[simp] theorem get?_empty (a : Nat) : (empty : Arena α).get? a = none := rfl

@[simp] theorem next_empty : (empty : Arena α).next = 0 := rfl

@[simp] theorem next_spawn (h : Arena α) (v : α) : (h.spawn v).next = h.next + 1 := by
  simp [next, spawn]

@[simp] theorem next_modify (h : Arena α) (a : Nat) (f : α → α) :
    (h.modify a f).next = h.next := by
  simp [next, modify]

@[simp] theorem next_destroy (h : Arena α) (a : Nat) : (h.destroy a).next = h.next := by
  simp [next, destroy]

theorem get?_spawn (h : Arena α) (v : α) (b : Nat) :
    (h.spawn v).get? b = if b = h.next then some v else h.get? b := by
  unfold get? spawn next
  rcases Nat.lt_trichotomy b h.cells.length with hb | hb | hb
  · rw [List.getElem?_append_left hb, if_neg (Nat.ne_of_lt hb)]
  · rw [hb, List.getElem?_concat_length, if_pos rfl]
    rfl
  · rw [if_neg (Nat.ne_of_gt hb), List.getElem?_eq_none (by simp; omega),
      List.getElem?_eq_none (Nat.le_of_lt hb)]

@[simp] theorem get?_spawn_next (h : Arena α) (v : α) : (h.spawn v).get? h.next = some v := by
  rw [get?_spawn, if_pos rfl]

theorem get?_modify (h : Arena α) (a b : Nat) (f : α → α) :
    (h.modify a f).get? b = if b = a then (h.get? b).map f else h.get? b := by
  unfold get? modify
  rw [List.getElem?_modify]
  by_cases hb : b = a
  · subst hb
    cases h.cells[b]? with
    | none => simp
    | some o => cases o <;> simp
  · have hab : ¬a = b := fun hab => hb hab.symm
    cases h.cells[b]? with
    | none => simp [hb]
    | some o => cases o <;> simp [hb, hab]

theorem get?_destroy (h : Arena α) (a b : Nat) :
    (h.destroy a).get? b = if b = a then none else h.get? b := by
  unfold get? destroy
  rw [List.getElem?_set]
  by_cases hb : b = a
  · subst hb
    rw [if_pos rfl, if_pos rfl]
    split <;> rfl
  · rw [if_neg fun h => hb h.symm, if_neg hb]

/-- A live object's reference was handed out. -/
theorem lt_next {h : Arena α} {a : Nat} {v : α} (hv : h.get? a = some v) : a < h.next := by
  unfold get? at hv
  cases hc : h.cells[a]? with
  | none => rw [hc] at hv; cases hv
  | some o => exact (List.getElem?_eq_some_iff.mp hc).1

/-- The next reference names nothing yet. -/
@[simp] theorem get?_next (h : Arena α) : h.get? h.next = none := by
  simp [get?, next]

/-- Every live object satisfies `P`. -/
def All (P : α → Prop) (h : Arena α) : Prop := ∀ a v, h.get? a = some v → P v

theorem all_empty {P : α → Prop} : (empty : Arena α).All P := fun _ _ hv => by cases hv

theorem All.spawn {P : α → Prop} {h : Arena α} (hall : h.All P) {v : α} (hv : P v) :
    (h.spawn v).All P := by
  intro b w hw
  rw [get?_spawn] at hw
  split at hw
  · rwa [← Option.some.inj hw]
  · exact hall b w hw

theorem All.modify {P : α → Prop} {h : Arena α} (hall : h.All P) {f : α → α}
    (hf : ∀ v, P v → P (f v)) (a : Nat) : (h.modify a f).All P := by
  intro b w hw
  rw [get?_modify] at hw
  split at hw
  · obtain ⟨v, hv, rfl⟩ := Option.map_eq_some_iff.mp hw
    exact hf v (hall b v hv)
  · exact hall b w hw

theorem All.destroy {P : α → Prop} {h : Arena α} (hall : h.All P) (a : Nat) :
    (h.destroy a).All P := by
  intro b w hw
  rw [get?_destroy] at hw
  split at hw
  · cases hw
  · exact hall b w hw

/-- Between `h` and `h'` the object behind `a` was destroyed, by one call. -/
structure Destroyed (h h' : Arena α) (a : Nat) : Prop where
  get? : h'.get? a = none
  count : h'.destroyCalls.count a = h.destroyCalls.count a + 1

/-- A change in place does not bring an object back. -/
theorem Destroyed.modify {h h' : Arena α} {a : Nat} (hd : h.Destroyed h' a) (b : Nat) (f : α → α) :
    h.Destroyed (h'.modify b f) a := by
  refine ⟨?_, hd.count⟩
  rw [get?_modify, hd.get?]
  split <;> rfl

/-- The store with each live object seen through `f`. -/
def map {β : Type} (h : Arena α) (f : α → β) : Arena β :=
  ⟨h.cells.map (Option.map f), h.destroyCalls⟩

section
variable {β : Type} (h : Arena α) (f : α → β)

@[simp] theorem next_map : (h.map f).next = h.next := by simp [next, map]

theorem get?_map (a : Nat) : (h.map f).get? a = (h.get? a).map f := by
  unfold get? map
  rw [List.getElem?_map]
  cases h.cells[a]? with
  | none => rfl
  | some o => rfl

theorem map_map {γ : Type} (g : β → γ) : (h.map f).map g = h.map (g ∘ f) := by
  simp [map, Option.map_comp_map]

theorem map_spawn (v : α) : (h.spawn v).map f = (h.map f).spawn (f v) := by simp [map, spawn]

theorem map_destroy (a : Nat) : (h.destroy a).map f = (h.map f).destroy a := by
  simp [map, destroy, List.map_set]

/-- A change that shows through `f` as the change `g'`. -/
theorem map_modify {g : α → α} {g' : β → β} (hg : ∀ v, f (g v) = g' (f v)) (a : Nat) :
    (h.modify a g).map f = (h.map f).modify a g' := by
  unfold modify map
  refine congrArg (fun c => (⟨c, h.destroyCalls⟩ : Arena β)) (List.ext_getElem? fun b => ?_)
  simp only [List.getElem?_map, List.getElem?_modify]
  by_cases hb : a = b
  · cases h.cells[b]? with
    | none => simp [hb]
    | some o => cases o <;> simp [hb, hg]
  · cases h.cells[b]? <;> simp [hb]

/-- A change that does not show. -/
theorem map_modify_hidden {g : α → α} {a : Nat} (hg : ∀ v, h.get? a = some v → f (g v) = f v) :
    (h.modify a g).map f = h.map f := by
  unfold modify map
  refine congrArg (fun c => (⟨c, h.destroyCalls⟩ : Arena β)) (List.ext_getElem? fun b => ?_)
  simp only [List.getElem?_map, List.getElem?_modify]
  by_cases hb : a = b
  · subst hb
    unfold get? at hg
    cases hc : h.cells[a]? with
    | none => simp
    | some o =>
      cases o with
      | none => simp
      | some v => simp [hg v (by rw [hc]; rfl)]
  · cases h.cells[b]? <;> simp [hb]

end

end Arena

/-- Objects, and the map that tracks some of them. -/
structure Registry (κ α : Type) where
  index : SlotMap κ Nat
  store : Arena α

namespace Registry
variable {κ α : Type} [DecidableEq κ]

/-- The tracked object under `k`. -/
def tracked (r : Registry κ α) (k : κ) : Option α := r.index.lookup k >>= r.store.get?

/-- Creates an object and tracks it under `k`. -/
def track (r : Registry κ α) (k : κ) (v : α) : Registry κ α :=
  ⟨r.index.add k r.store.next, r.store.spawn v⟩

/-- Stops tracking what is under `k` and destroys it. -/
def untrack (r : Registry κ α) (k : κ) : Registry κ α :=
  match r.index.lookup k with
  | none => r
  | some a => ⟨r.index.remove k, r.store.destroy a⟩

theorem untrack_of_lookup {r : Registry κ α} {k : κ} {a : Nat} (h : r.index.lookup k = some a) :
    r.untrack k = ⟨r.index.remove k, r.store.destroy a⟩ := by
  rw [untrack, h]

/-- Untracks the keys of a list, one after the other. -/
def untrackAll (r : Registry κ α) (ks : List κ) : Registry κ α := ks.foldl untrack r

/-- Changes an object in place. -/
def update (r : Registry κ α) (a : Nat) (f : α → α) : Registry κ α :=
  ⟨r.index, r.store.modify a f⟩

/-- Stops tracking everything and destroys nothing. -/
def forget (r : Registry κ α) : Registry κ α := ⟨.empty, r.store⟩

/-- **What is tracked is live, under the key it carries.** -/
def Keyed (key : α → κ) (r : Registry κ α) : Prop :=
  ∀ k a, r.index.lookup k = some a → ∃ v, r.store.get? a = some v ∧ key v = k

/-- **What is live is tracked.** -/
def NoLeak (r : Registry κ α) : Prop :=
  ∀ a v, r.store.get? a = some v → ∃ k, r.index.lookup k = some a

variable {key : α → κ} {r : Registry κ α}

/-- A reference is tracked under one key. -/
theorem Keyed.key_unique (h : r.Keyed key) {k k' : κ} {a : Nat}
    (hk : r.index.lookup k = some a) (hk' : r.index.lookup k' = some a) : k = k' := by
  obtain ⟨v, hv, rfl⟩ := h k a hk
  obtain ⟨v', hv', rfl⟩ := h k' a hk'
  rw [hv] at hv'
  rw [Option.some.inj hv']

theorem Keyed.lt_next (h : r.Keyed key) {k : κ} {a : Nat} (hk : r.index.lookup k = some a) :
    a < r.store.next := by
  obtain ⟨v, hv, -⟩ := h k a hk
  exact Arena.lt_next hv

theorem keyed_empty : Keyed key (⟨.empty, s⟩ : Registry κ α) := by
  intro k a h
  cases h

theorem Keyed.track (h : r.Keyed key) {k : κ} {v : α} (hv : key v = k) :
    (r.track k v).Keyed key := by
  intro j a hj
  by_cases hjk : j = k
  · subst hjk
    obtain rfl : r.store.next = a := Option.some.inj ((r.index.lookup_add_self j _).symm.trans hj)
    exact ⟨v, r.store.get?_spawn_next v, hv⟩
  · have hj' : r.index.lookup j = some a := (r.index.lookup_add_of_ne _ hjk).symm.trans hj
    obtain ⟨w, hw, hk⟩ := h j a hj'
    refine ⟨w, ?_, hk⟩
    show (r.store.spawn v).get? a = some w
    rw [Arena.get?_spawn, if_neg (Nat.ne_of_lt (Arena.lt_next hw)), hw]

theorem Keyed.untrack (h : r.Keyed key) (k : κ) : (r.untrack k).Keyed key := by
  unfold Registry.untrack
  split
  · exact h
  · rename_i a hk
    intro j b hj
    have hj : (r.index.remove k).lookup j = some b := hj
    rw [SlotMap.lookup_remove] at hj
    split at hj
    · cases hj
    · rename_i hjk
      obtain ⟨w, hw, hkw⟩ := h j b hj
      refine ⟨w, ?_, hkw⟩
      -- the destroyed object was tracked under `k` only
      have hba : b ≠ a := fun hba => hjk (h.key_unique (hba ▸ hj) hk)
      show (r.store.destroy a).get? b = some w
      rw [Arena.get?_destroy, if_neg hba, hw]

theorem Keyed.update (h : r.Keyed key) (a : Nat) {f : α → α} (hf : ∀ v, key (f v) = key v) :
    (r.update a f).Keyed key := by
  intro k b hb
  obtain ⟨v, hv, hk⟩ := h k b hb
  have hg : (r.update a f).store.get? b = if b = a then (r.store.get? b).map f else r.store.get? b :=
    Arena.get?_modify _ _ _ _
  rw [hv] at hg
  split at hg
  · exact ⟨f v, hg, (hf v).trans hk⟩
  · exact ⟨v, hg, hk⟩

theorem Keyed.forget : r.forget.Keyed key := keyed_empty

/-- In a registry without a leak a live object is tracked under its own key. -/
theorem Keyed.lookup_iff
    (h : r.Keyed key) (hn : r.NoLeak) {a : Nat} {v : α} (hv : r.store.get? a = some v) (k : κ) :
    r.index.lookup k = some a ↔ k = key v := by
  have own : ∀ j, r.index.lookup j = some a → j = key v := fun j hj => by
    obtain ⟨w, hw, rfl⟩ := h j a hj
    rw [hv] at hw
    rw [Option.some.inj hw]
  constructor
  · exact own k
  · rintro rfl
    obtain ⟨j, hj⟩ := hn a v hv
    exact own j hj ▸ hj

/-! ## Untracking a list of keys -/

theorem lookup_untrack (r : Registry κ α) (k j : κ) :
    (r.untrack k).index.lookup j = if j = k then none else r.index.lookup j := by
  unfold untrack
  split
  · rename_i hk
    split
    · rename_i hj
      rw [hj, hk]
    · rfl
  · exact r.index.lookup_remove k j

/-- Untracking tracks nothing. -/
theorem lookup_untrack_ne {a : Nat} {k j : κ} (h : r.index.lookup j ≠ some a) :
    (r.untrack k).index.lookup j ≠ some a := by
  rw [lookup_untrack]
  split
  · exact (Option.some_ne_none a).symm
  · exact h

theorem lookup_untrackAll (r : Registry κ α) (ks : List κ) (j : κ) :
    (r.untrackAll ks).index.lookup j = if j ∈ ks then none else r.index.lookup j := by
  unfold untrackAll
  induction ks generalizing r with
  | nil => simp
  | cons k ks ih =>
    rw [List.foldl_cons, ih, lookup_untrack]
    by_cases hks : j ∈ ks <;> by_cases hk : j = k <;> simp [hks, hk]

/-- Untracking creates nothing and changes nothing. -/
theorem get?_of_untrack {a : Nat} {v : α} {k : κ} (h : (r.untrack k).store.get? a = some v) :
    r.store.get? a = some v := by
  unfold untrack at h
  split at h
  · exact h
  · have h := (Arena.get?_destroy _ _ _).symm.trans h
    split at h
    · cases h
    · exact h

theorem get?_of_untrackAll {a : Nat} {v : α} {ks : List κ}
    (h : (r.untrackAll ks).store.get? a = some v) : r.store.get? a = some v := by
  unfold untrackAll at h
  induction ks generalizing r with
  | nil => exact h
  | cons k ks ih => exact get?_of_untrack (ih h)

theorem get?_untrack_of_ne {a : Nat} {k : κ} (h : r.index.lookup k ≠ some a) :
    (r.untrack k).store.get? a = r.store.get? a := by
  unfold untrack
  split
  · rfl
  · rename_i b hk
    refine (Arena.get?_destroy _ _ _).trans (if_neg ?_)
    rintro rfl
    exact h hk

/-- `r'` is `r` without what was tracked under `k`: that was destroyed, by one call, and
everything else is as it was. -/
structure Released (r : Registry κ α) (k : κ) (r' : Registry κ α) : Prop where
  lookup : ∀ j, r'.index.lookup j = if j = k then none else r.index.lookup j
  get? : ∀ a, r'.store.get? a = if r.index.lookup k = some a then none else r.store.get? a
  destroyCalls : r'.store.destroyCalls = r.store.destroyCalls ++ (r.index.lookup k).toList
  untracked : r.index.lookup k = none → r' = r

theorem released_untrack (r : Registry κ α) (k : κ) : r.Released k (r.untrack k) := by
  refine ⟨r.lookup_untrack k, fun a => ?_, ?_, fun hk => ?_⟩
  · cases hk : r.index.lookup k with
    | none => simp [untrack, hk]
    | some b =>
      rw [untrack_of_lookup hk]
      refine (Arena.get?_destroy ..).trans (if_congr ?_ rfl rfl)
      rw [Option.some.injEq, eq_comm]
  · cases hk : r.index.lookup k with
    | none => simp [untrack, hk]
    | some b =>
      rw [untrack_of_lookup hk]
      rfl
  · unfold untrack
    rw [hk]

/-- An object tracked under none of the keys stays as it is. -/
theorem get?_untrackAll_of_ne {a : Nat} {ks : List κ} (h : ∀ k ∈ ks, r.index.lookup k ≠ some a) :
    (r.untrackAll ks).store.get? a = r.store.get? a := by
  unfold untrackAll
  induction ks generalizing r with
  | nil => rfl
  | cons k ks ih =>
    rw [List.foldl_cons, ih, get?_untrack_of_ne (h k List.mem_cons_self)]
    exact fun j hj => lookup_untrack_ne (h j (List.mem_cons_of_mem k hj))

theorem count_untrack_of_ne {a : Nat} {k : κ} (h : r.index.lookup k ≠ some a) :
    (r.untrack k).store.destroyCalls.count a = r.store.destroyCalls.count a := by
  rw [(r.released_untrack k).destroyCalls, List.count_append]
  cases hk : r.index.lookup k with
  | none => rfl
  | some b =>
    have hb : ¬b = a := fun hb => h (hb ▸ hk)
    simp [hb]

theorem count_untrackAll_of_ne {a : Nat} {ks : List κ} (h : ∀ k ∈ ks, r.index.lookup k ≠ some a) :
    (r.untrackAll ks).store.destroyCalls.count a = r.store.destroyCalls.count a := by
  unfold untrackAll
  induction ks generalizing r with
  | nil => rfl
  | cons k ks ih =>
    rw [List.foldl_cons, ih, count_untrack_of_ne (h k List.mem_cons_self)]
    exact fun j hj => lookup_untrack_ne (h j (List.mem_cons_of_mem k hj))

/-- **What a list of keys releases is destroyed once**, however often its key is in the
list. -/
theorem Keyed.destroyed_untrackAll (h : r.Keyed key) {k : κ} {a : Nat} {ks : List κ}
    (hk : r.index.lookup k = some a) (hmem : k ∈ ks) :
    r.store.Destroyed (r.untrackAll ks).store a := by
  induction ks generalizing r with
  | nil => cases hmem
  | cons j ks ih =>
    show r.store.Destroyed ((r.untrack j).untrackAll ks).store a
    by_cases hjk : j = k
    · subst hjk
      -- `a` was tracked under this key only, so the rest of the list leaves it alone
      have hrest : ∀ i ∈ ks, (r.untrack j).index.lookup i ≠ some a := by
        intro i _ hi
        rw [lookup_untrack] at hi
        split at hi
        · cases hi
        · exact absurd (h.key_unique hi hk) ‹_›
      have hrel := r.released_untrack j
      refine ⟨?_, ?_⟩
      · rw [get?_untrackAll_of_ne hrest, hrel.get?, if_pos hk]
      · rw [count_untrackAll_of_ne hrest, hrel.destroyCalls, hk]
        simp
    · have hj : r.index.lookup j ≠ some a := fun hj => hjk (h.key_unique hj hk)
      have hk' : (r.untrack j).index.lookup k = some a := by
        rw [lookup_untrack, if_neg fun hkj => hjk hkj.symm]
        exact hk
      have hmem' : k ∈ ks := (List.mem_cons.mp hmem).resolve_left fun hkj => hjk hkj.symm
      have hd := ih (h.untrack j) hk' hmem'
      exact ⟨hd.get?, hd.count.trans (congrArg (· + 1) (count_untrack_of_ne hj))⟩

theorem Keyed.untrackAll (h : r.Keyed key) (ks : List κ) : (r.untrackAll ks).Keyed key := by
  unfold Registry.untrackAll
  induction ks generalizing r with
  | nil => exact h
  | cons k ks ih => exact ih (h.untrack k)

/-! ## Leaks

A live object that is not tracked stays live and untracked for ever: nothing
destroys it, since only tracked objects are destroyed, and nothing tracks it,
since only new objects are tracked.  So each law below is an equivalence. -/

/-- Tracking a new object under `k` leaks what `k` tracked. -/
theorem Keyed.noLeak_track_iff (h : r.Keyed key) {k : κ} {v : α} :
    (r.track k v).NoLeak ↔ r.NoLeak ∧ r.index.lookup k = none := by
  have hget : ∀ b, b ≠ r.store.next → (r.track k v).store.get? b = r.store.get? b := fun b hb => by
    show (r.store.spawn v).get? b = _
    rw [Arena.get?_spawn, if_neg hb]
  constructor
  · intro hn
    -- an old object is still tracked, so under a key that was not overwritten
    have old : ∀ a w, r.store.get? a = some w → ∃ j, j ≠ k ∧ r.index.lookup j = some a := by
      intro a w hw
      have hne : a ≠ r.store.next := Nat.ne_of_lt (Arena.lt_next hw)
      obtain ⟨j, hj⟩ := hn a w ((hget a hne).trans hw)
      have hj : (r.index.add k r.store.next).lookup j = some a := hj
      rw [SlotMap.lookup_add] at hj
      split at hj
      · exact absurd (Option.some.inj hj).symm hne
      · exact ⟨j, ‹_›, hj⟩
    refine ⟨fun a w hw => (old a w hw).imp fun j hj => hj.2, ?_⟩
    apply Option.eq_none_iff_forall_ne_some.mpr
    intro a ha
    obtain ⟨w, hw, -⟩ := h k a ha
    obtain ⟨j, hjk, hj⟩ := old a w hw
    exact hjk (h.key_unique hj ha)
  · rintro ⟨hn, hk⟩ a w hw
    by_cases ha : a = r.store.next
    · exact ⟨k, ha ▸ r.index.lookup_add_self k _⟩
    · obtain ⟨j, hj⟩ := hn a w ((hget a ha).symm.trans hw)
      refine ⟨j, ?_⟩
      show (r.index.add k r.store.next).lookup j = some a
      rw [SlotMap.lookup_add_of_ne _ _ (fun hjk => by rw [hjk, hk] at hj; cases hj), hj]

theorem noLeak_untrack_iff (r : Registry κ α) (k : κ) :
    (r.untrack k).NoLeak ↔ r.NoLeak := by
  unfold Registry.untrack
  split
  · rfl
  · rename_i a hk
    have hget : ∀ b, (r.store.destroy a).get? b = if b = a then none else r.store.get? b :=
      fun b => Arena.get?_destroy _ _ _
    constructor
    · intro hn b w hw
      by_cases hb : b = a
      · exact ⟨k, hb ▸ hk⟩
      · obtain ⟨j, hj⟩ := hn b w (by show (r.store.destroy a).get? b = _; rw [hget, if_neg hb, hw])
        have hj : (r.index.remove k).lookup j = some b := hj
        rw [SlotMap.lookup_remove] at hj
        split at hj
        · cases hj
        · exact ⟨j, hj⟩
    · intro hn b w hw
      have hw : (r.store.destroy a).get? b = some w := hw
      rw [hget] at hw
      split at hw
      · cases hw
      · rename_i hb
        obtain ⟨j, hj⟩ := hn b w hw
        refine ⟨j, ?_⟩
        show (r.index.remove k).lookup j = some b
        rw [SlotMap.lookup_remove_of_ne _ (fun hjk => ?_), hj]
        rw [hjk, hk] at hj
        exact hb (Option.some.inj hj).symm

theorem noLeak_update_iff (a : Nat) (f : α → α) : (r.update a f).NoLeak ↔ r.NoLeak := by
  have hget : ∀ b, (r.update a f).store.get? b =
      if b = a then (r.store.get? b).map f else r.store.get? b :=
    fun b => Arena.get?_modify _ _ _ _
  constructor
  · intro hn b w hw
    rcases ite_eq_or_eq (b = a) ((r.store.get? b).map f) (r.store.get? b) with he | he
    · exact hn b (f w) (by rw [hget, he, hw]; rfl)
    · exact hn b w (by rw [hget, he, hw])
  · intro hn b w hw
    rw [hget] at hw
    split at hw
    · obtain ⟨v, hv, -⟩ := Option.map_eq_some_iff.mp hw
      exact hn b v hv
    · exact hn b w hw

/-- Forgetting everything leaks whatever was tracked. -/
theorem Keyed.noLeak_forget_iff (h : r.Keyed key) :
    r.forget.NoLeak ↔ r.NoLeak ∧ ∀ k, r.index.lookup k = none := by
  constructor
  · intro hn
    have dead : ∀ a, r.store.get? a = none := fun a =>
      Option.eq_none_iff_forall_ne_some.mpr fun w hw => by
        obtain ⟨k, hk⟩ := hn a w hw
        cases hk
    constructor
    · intro a w hw
      rw [dead a] at hw
      cases hw
    · intro k
      apply Option.eq_none_iff_forall_ne_some.mpr
      intro a hk
      obtain ⟨v, hv, -⟩ := h k a hk
      rw [dead a] at hv
      cases hv
  · rintro ⟨hn, hk⟩ a w hw
    obtain ⟨k, hka⟩ := hn a w hw
    rw [hk k] at hka
    cases hka

end Registry
