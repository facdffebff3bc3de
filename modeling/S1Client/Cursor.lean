import S1Client.Steps

/-! A cursor over a buffer, kept in machine words: the number of cells, and the
position reached.  What is left is their difference, which wraps around.  As long as
the position is not past the end the difference is exact (`sound_iff`), and it says
how far the cursor may move (`inside_iff`, `Valid.advance`).

An operation demands cells from the position on.  If it is checked, it is refused when
it demands more than what is left (`Serves`).  Checked operations are safe whatever
they demand, the others exactly if they demand no more than that (`Serves.safe_iff`);
and a sequence is safe exactly if all of it is (`safeRun_iff_fitsRun`): one unchecked
operation too far breaks the invariant the checks rest on. -/

/-- The size of a buffer and a position in it. -/
structure Cursor (w : Nat) where
  size : BitVec w
  pos : BitVec w

namespace Cursor
variable {w : Nat} {c : Cursor w}

/-- What is left, as the machine computes it. -/
def free (c : Cursor w) : BitVec w := c.size - c.pos

/-- The cursor, `n` cells further. -/
def advance (c : Cursor w) (n : Nat) : Cursor w := { c with pos := c.pos + .ofNat w n }

/-- The position is not past the end. -/
def Valid (c : Cursor w) : Prop := c.pos ≤ c.size

/-- The position is not past the end, and what is left did not wrap around. -/
def Sound (c : Cursor w) : Prop :=
  c.Valid ∧ (c.free.toNat : Int) = c.size.toNat - c.pos.toNat

/-- The `n` cells from `off` on are among the first `size`. -/
def Inside (size off n : Nat) : Prop := ∀ i, off ≤ i → i < off + n → i < size

theorem Valid.toNat_free (h : c.Valid) : c.free.toNat = c.size.toNat - c.pos.toNat :=
  BitVec.toNat_sub_of_le h

theorem Valid.toNat_le (h : c.Valid) : c.pos.toNat ≤ c.size.toNat := BitVec.le_def.mp h

theorem sound_iff : c.Sound ↔ c.Valid := by
  refine ⟨And.left, fun h => ⟨h, ?_⟩⟩
  rw [h.toNat_free, Int.natCast_sub h.toNat_le]

/-- The cells from the position on. -/
theorem inside_iff (h : c.Valid) (n : Nat) :
    Inside c.size.toNat c.pos.toNat n ↔ n ≤ c.free.toNat := by
  have hle := h.toNat_le
  rw [h.toNat_free]
  constructor
  · intro hin
    by_contra hn
    -- the first cell past the end
    have hend := hin c.size.toNat hle (by omega)
    exact absurd hend (Nat.lt_irrefl _)
  · intro hn i _ hi
    omega

theorem Valid.advance (h : c.Valid) {n : Nat} (hn : n ≤ c.free.toNat) : (c.advance n).Valid := by
  have hle := h.toNat_le
  have hsize := c.size.isLt
  rw [h.toNat_free] at hn
  have hpos : (c.pos + .ofNat w n).toNat = c.pos.toNat + n := by
    rw [BitVec.toNat_add, BitVec.toNat_ofNat, Nat.add_mod_mod, Nat.mod_eq_of_lt (by omega)]
  refine BitVec.le_def.mpr ?_
  rw [Cursor.advance, hpos]
  show c.pos.toNat + n ≤ c.size.toNat
  omega

/-! ## Operations -/

/-- What an operation did: whether it reported success, the state after it, and the
cells it read, wrote or handed out, as the first and their number. -/
structure Outcome (σ : Type) where
  succeeded : Bool
  after : σ
  touched : Option (Nat × Nat)

variable {σ ι : Type} (cursor : σ → Cursor w)

/-- The cursor is sound before and after, all cells touched are cells of the buffer,
and a failure changes nothing. -/
def Outcome.Safe (size : Nat) (before : σ) (o : Outcome σ) : Prop :=
  (cursor before).Sound ∧ (cursor o.after).Sound ∧
    (∀ off n, o.touched = some (off, n) → Inside size off n) ∧
    (o.succeeded = false → o.after = before)

/-- The two ways to answer a demand for `n` cells. -/
inductive Serves (checked : Bool) (n : Nat) (s : σ) : Outcome σ → Prop
  | refused (hc : checked = true) (hn : (cursor s).free.toNat < n) :
      Serves checked n s ⟨false, s, none⟩
  | served (after : σ) (hn : checked = true → n ≤ (cursor s).free.toNat)
      (hafter : cursor after = cursor s ∨ cursor after = (cursor s).advance n) :
      Serves checked n s ⟨true, after, some ((cursor s).pos.toNat, n)⟩

variable {cursor}

theorem Serves.safe_iff {checked : Bool} {n : Nat} {s : σ} {o : Outcome σ}
    (h : Serves cursor checked n s o) (hs : (cursor s).Valid) :
    o.Safe cursor (cursor s).size.toNat s ↔ (checked = false → n ≤ (cursor s).free.toNat) := by
  cases h with
  | refused hc _ =>
    refine ⟨fun _ hc' => absurd (hc.symm.trans hc') (by simp), fun _ => ?_⟩
    exact ⟨sound_iff.mpr hs, sound_iff.mpr hs, (fun _ _ ht => by cases ht), fun _ => rfl⟩
  | served after hn hafter =>
    constructor
    · rintro ⟨-, -, htouched, -⟩ -
      exact (inside_iff hs n).mp (htouched _ n rfl)
    · intro hfits
      have hle : n ≤ (cursor s).free.toNat := by
        cases checked with
        | true => exact hn rfl
        | false => exact hfits rfl
      refine ⟨sound_iff.mpr hs, sound_iff.mpr ?_, ?_, fun hf => by cases hf⟩
      · rcases hafter with hafter | hafter
        · rw [hafter]
          exact hs
        · rw [hafter]
          exact hs.advance hle
      · intro off m ht
        obtain ⟨rfl, rfl⟩ := Prod.mk.inj (Option.some.inj ht)
        exact (inside_iff hs n).mpr hle

theorem Serves.size_eq {checked : Bool} {n : Nat} {s : σ} {o : Outcome σ}
    (h : Serves cursor checked n s o) : (cursor o.after).size = (cursor s).size := by
  cases h with
  | refused => rfl
  | served after hn hafter =>
    rcases hafter with hafter | hafter <;> rw [hafter]
    rfl

/-! ## Sequences of operations -/

variable (cursor) (perform : σ → ι → Outcome σ) (checked : ι → Bool) (demand : ι → Nat)

/-- The state after an operation.  None stops the program. -/
def next (s : σ) (i : ι) : Except Empty σ := .ok (perform s i).after

/-- Every operation of a sequence over a buffer of `size` cells is safe. -/
def SafeRun (size : Nat) (s : σ) (l : List ι) : Prop :=
  Steps.Meets (next perform) (fun s i => (perform s i).Safe cursor size s) s l

/-- Every unchecked operation demands no more than what is left when it is reached. -/
def FitsRun (s : σ) (l : List ι) : Prop :=
  Steps.Meets (next perform)
    (fun s i => checked i = false → demand i ≤ (cursor s).free.toNat) s l

variable {cursor perform checked demand}

/-- **Which sequences are safe.** -/
theorem safeRun_iff_fitsRun
    (h : ∀ s i, Serves cursor (checked i) (demand i) s (perform s i)) {s : σ}
    (hs : (cursor s).Valid) (l : List ι) :
    SafeRun cursor perform (cursor s).size.toNat s l ↔ FitsRun cursor perform checked demand s l := by
  refine Steps.meets_iff
    (I := fun t => (cursor t).Valid ∧ (cursor t).size = (cursor s).size) ?_ ?_ ⟨hs, rfl⟩
  · rintro t i u ⟨ht, hsize⟩ -
    rw [← hsize]
    exact (h t i).safe_iff ht
  · rintro t i u ⟨-, hsize⟩ ⟨-, hsound, -⟩ hu
    obtain rfl := Except.ok.inj hu
    exact ⟨hsound.1, (h t i).size_eq.trans hsize⟩

end Cursor
