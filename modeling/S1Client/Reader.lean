import Mathlib.Data.List.Basic

/-! Reading values off the front of a list.  A reader is local if it looks at nothing
behind what it consumes: what it returns on a list it returns whatever follows.  Local
readers compose, and a local reader is determined by the lists it consumes whole. -/

/-- A value from the front of a list, and the list behind it. -/
abbrev Reader (α β : Type) := List α → Option (β × List α)

namespace Reader
variable {α β γ : Type} {f : Reader α β} {p q r : List α} {b : β}

/-- What is read does not depend on what follows it. -/
def Local (f : Reader α β) : Prop :=
  ∀ ⦃p b r⦄, f p = some (b, r) → ∃ used, p = used ++ r ∧ ∀ q, f (used ++ q) = some (b, q)

/-- Something is consumed. -/
def Consumes (f : Reader α β) : Prop := ∀ ⦃p b r⦄, f p = some (b, r) → r.length < p.length

/-- The value that a list holds from its front to its end. -/
def whole (f : Reader α β) (p : List α) : Option β :=
  match f p with
  | some (b, []) => some b
  | _ => none

/-- The first `n` elements. -/
def taking (n : Nat) : Reader α (List α) :=
  fun p => if n ≤ p.length then some (p.take n, p.drop n) else none

/-- One reader, and behind it another that may depend on what the first one read. -/
def andThen (f : Reader α β) (g : β → Reader α γ) : Reader α γ :=
  fun p => (f p).bind fun (b, p) => g b p

/-- The value read, made into another. -/
def map (f : Reader α β) (g : β → γ) : Reader α γ := fun p => (f p).map (Prod.map g id)

/-- The value read, made into another or refused. -/
def mapM (f : Reader α β) (g : β → Option γ) : Reader α γ :=
  fun p => (f p).bind fun (b, p) => (g b).map (·, p)

theorem Local.append (hf : Local f) (h : f p = some (b, r)) (q : List α) :
    f (p ++ q) = some (b, r ++ q) := by
  obtain ⟨used, rfl, hused⟩ := hf h
  rw [List.append_assoc]
  exact hused (r ++ q)

theorem Local.length_le (hf : Local f) (h : f p = some (b, r)) : r.length ≤ p.length := by
  obtain ⟨used, rfl, -⟩ := hf h
  rw [List.length_append]
  exact Nat.le_add_left ..

theorem whole_eq_some : f.whole p = some b ↔ f p = some (b, []) := by
  unfold whole
  constructor
  · intro h
    split at h
    · rename_i b' hb
      rw [hb, Option.some.inj h]
    · cases h
  · intro h
    rw [h]

/-- What a list holds can be read off the front of any longer one. -/
theorem Local.of_whole (hf : Local f) (h : f.whole p = some b) (q : List α) :
    f (p ++ q) = some (b, q) :=
  hf.append (whole_eq_some.mp h) q

/-- What is read off the front is what the part consumed holds. -/
theorem Local.exists_whole (hf : Local f) (h : f p = some (b, r)) :
    ∃ used, p = used ++ r ∧ f.whole used = some b := by
  obtain ⟨used, hp, hused⟩ := hf h
  refine ⟨used, hp, whole_eq_some.mpr ?_⟩
  have hnil := hused []
  rwa [List.append_nil] at hnil

theorem taking_append {n : Nat} (hp : p.length = n) (q : List α) :
    taking n (p ++ q) = some (p, q) := by
  subst hp
  unfold taking
  rw [if_pos (by rw [List.length_append]; exact Nat.le_add_right ..), List.take_left,
    List.drop_left]

theorem taking_eq_some {n : Nat} {b : List α} :
    taking n p = some (b, r) ↔ p = b ++ r ∧ b.length = n := by
  constructor
  · intro h
    unfold taking at h
    split at h
    · rename_i hn
      obtain ⟨rfl, rfl⟩ := Prod.mk.inj (Option.some.inj h)
      exact ⟨(List.take_append_drop n p).symm, List.length_take_of_le hn⟩
    · cases h
  · rintro ⟨rfl, hb⟩
    exact taking_append hb r

theorem local_taking (n : Nat) : Local (taking (α := α) n) := by
  intro p b r h
  obtain ⟨rfl, hb⟩ := taking_eq_some.mp h
  exact ⟨b, rfl, taking_append hb⟩

theorem andThen_eq_some {g : β → Reader α γ} {c : γ} :
    f.andThen g p = some (c, r) ↔ ∃ b q, f p = some (b, q) ∧ g b q = some (c, r) := by
  unfold andThen
  rw [Option.bind_eq_some_iff]
  exact Prod.exists

theorem Local.andThen {g : β → Reader α γ} (hf : Local f) (hg : ∀ b, Local (g b)) :
    Local (f.andThen g) := by
  intro p c r h
  obtain ⟨b, q, hb, hc⟩ := andThen_eq_some.mp h
  obtain ⟨used, rfl, hused⟩ := hf hb
  obtain ⟨used', rfl, hused'⟩ := hg b hc
  refine ⟨used ++ used', (List.append_assoc ..).symm, fun q => ?_⟩
  refine andThen_eq_some.mpr ⟨b, used' ++ q, ?_, hused' q⟩
  rw [List.append_assoc]
  exact hused (used' ++ q)

theorem map_apply (f : Reader α β) (g : β → γ) (p : List α) :
    f.map g p = (f p).map (Prod.map g id) := rfl

theorem mapM_apply (f : Reader α β) (g : β → Option γ) (p : List α) :
    f.mapM g p = (f p).bind fun bq => (g bq.1).map (·, bq.2) := rfl

theorem map_eq_some {g : β → γ} {c : γ} :
    f.map g p = some (c, r) ↔ ∃ b, f p = some (b, r) ∧ g b = c := by
  unfold map
  constructor
  · intro h
    obtain ⟨⟨b, q⟩, hb, heq⟩ := Option.map_eq_some_iff.mp h
    obtain ⟨rfl, rfl⟩ := Prod.mk.inj heq
    exact ⟨b, hb, rfl⟩
  · rintro ⟨b, hb, rfl⟩
    rw [hb]
    rfl

theorem Local.map (hf : Local f) (g : β → γ) : Local (f.map g) := by
  intro p c r h
  obtain ⟨b, hb, hc⟩ := map_eq_some.mp h
  obtain ⟨used, hp, hused⟩ := hf hb
  exact ⟨used, hp, fun q => map_eq_some.mpr ⟨b, hused q, hc⟩⟩

theorem whole_map (f : Reader α β) (g : β → γ) (p : List α) :
    (f.map g).whole p = (f.whole p).map g := by
  unfold whole map
  cases f p with
  | none => rfl
  | some br =>
    obtain ⟨b, r⟩ := br
    cases r <;> rfl

theorem mapM_eq_some {g : β → Option γ} {c : γ} :
    f.mapM g p = some (c, r) ↔ ∃ b, f p = some (b, r) ∧ g b = some c := by
  unfold mapM
  constructor
  · intro h
    obtain ⟨⟨b, q⟩, hb, hc⟩ := Option.bind_eq_some_iff.mp h
    obtain ⟨c', hc', heq⟩ := Option.map_eq_some_iff.mp hc
    obtain ⟨rfl, rfl⟩ := Prod.mk.inj heq
    exact ⟨b, hb, hc'⟩
  · rintro ⟨b, hb, hc⟩
    rw [hb, Option.bind_some]
    exact Option.map_eq_some_iff.mpr ⟨c, hc, rfl⟩

theorem whole_mapM (f : Reader α β) (g : β → Option γ) (p : List α) :
    (f.mapM g).whole p = (f.whole p).bind g := by
  unfold whole
  rw [mapM_apply]
  cases f p with
  | none => rfl
  | some br =>
    obtain ⟨b, r⟩ := br
    rw [Option.bind_some]
    cases r with
    | nil =>
      show _ = g b
      cases g b <;> rfl
    | cons => cases g b <;> rfl

theorem Local.mapM (hf : Local f) (g : β → Option γ) : Local (f.mapM g) := by
  intro p c r h
  obtain ⟨b, hb, hc⟩ := mapM_eq_some.mp h
  obtain ⟨used, hp, hused⟩ := hf hb
  exact ⟨used, hp, fun q => mapM_eq_some.mpr ⟨b, hused q, hc⟩⟩

theorem Consumes.andThen {g : β → Reader α γ} (hf : Consumes f) (hg : ∀ b, Local (g b)) :
    Consumes (f.andThen g) := by
  intro p c r h
  obtain ⟨b, q, hb, hc⟩ := andThen_eq_some.mp h
  exact Nat.lt_of_le_of_lt ((hg b).length_le hc) (hf hb)

end Reader
