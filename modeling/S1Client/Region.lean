import Mathlib.Data.List.Basic

/-! A region of memory, written with bounds.  A write outside the region has no
result; one inside changes the cells it names and no others.  So writing piece by
piece is writing the pieces at once (`write_append`), and of several writes over each other
the last that reached a cell is the one it shows (`getElem?_of_writes`).  A region
with three named parts is the usual way in (`exists_split`, `write_split`). -/
namespace Region

variable {α : Type}

/-- Overwrites the cells from `off` on. -/
def write (buf : List α) (off : Nat) (cells : List α) : Option (List α) :=
  if off + cells.length ≤ buf.length then
    some (buf.take off ++ cells ++ buf.drop (off + cells.length))
  else none

theorem exists_split {buf : List α} {off len : Nat} (h : off + len ≤ buf.length) :
    ∃ x y z, buf = x ++ y ++ z ∧ x.length = off ∧ y.length = len := by
  refine ⟨buf.take off, (buf.drop off).take len, (buf.drop off).drop len, ?_, ?_, ?_⟩
  · rw [List.append_assoc, List.take_append_drop, List.take_append_drop]
  · simp
    omega
  · simp
    omega

theorem write_split {x y z cells : List α} (hy : y.length = cells.length) :
    write (x ++ y ++ z) x.length cells = some (x ++ cells ++ z) := by
  have hlen : x.length + cells.length ≤ (x ++ y ++ z).length := by
    simp
    omega
  have htake : (x ++ y ++ z).take x.length = x := by simp
  have hdrop : (x ++ y ++ z).drop (x.length + cells.length) = z := by
    rw [← hy, ← List.length_append, List.drop_left]
  unfold write
  rw [if_pos hlen, htake, hdrop]

/-- Overwriting all of a region. -/
theorem write_all {buf cells : List α} (h : buf.length = cells.length) :
    write buf 0 cells = some cells := by
  have hw := @write_split α [] buf [] cells h
  simpa using hw

/-- Overwriting the last part of a region. -/
theorem write_last {x y cells : List α} (h : y.length = cells.length) :
    write (x ++ y) x.length cells = some (x ++ cells) := by
  have hw := @write_split α x y [] cells h
  simpa using hw

/-- Overwriting cells with what they hold. -/
theorem write_eq_self_iff {buf cells : List α} : write buf 0 cells = some buf ↔ cells <+: buf := by
  constructor
  · intro h
    unfold write at h
    split at h
    · exact ⟨buf.drop (0 + cells.length), by simpa using h⟩
    · cases h
  · rintro ⟨z, rfl⟩
    have hw := @write_split α [] cells z cells rfl
    simpa using hw

theorem write_eq_none {buf : List α} {off : Nat} {cells : List α} :
    write buf off cells = none ↔ buf.length < off + cells.length := by
  unfold write
  split <;> simp <;> omega

theorem write_nil {buf : List α} {off : Nat} (h : off ≤ buf.length) :
    write buf off [] = some buf := by
  unfold write
  rw [if_pos (by simpa using h)]
  simp

theorem exists_write {buf : List α} {off : Nat} {cells : List α}
    (h : off + cells.length ≤ buf.length) : ∃ out, write buf off cells = some out :=
  ⟨_, if_pos h⟩

theorem le_of_write {buf out : List α} {off : Nat} {cells : List α}
    (h : write buf off cells = some out) : off + cells.length ≤ buf.length := by
  by_contra hlt
  rw [write_eq_none.mpr (Nat.lt_of_not_le hlt)] at h
  cases h

theorem length_of_write {buf out : List α} {off : Nat} {cells : List α}
    (h : write buf off cells = some out) : out.length = buf.length := by
  obtain ⟨x, y, z, rfl, rfl, hy⟩ := exists_split (le_of_write h)
  rw [write_split hy] at h
  obtain rfl := Option.some.inj h
  simp [hy]

/-- **Writing piece by piece.** -/
theorem write_append {buf : List α} {off : Nat} (a b : List α) :
    write buf off (a ++ b) = (write buf off a).bind fun out => write out (off + a.length) b := by
  by_cases h : off + (a.length + b.length) ≤ buf.length
  · obtain ⟨x, y, z, rfl, rfl, hy⟩ := exists_split h
    obtain ⟨y₁, y₂, rfl, hy₁, hy₂⟩ : ∃ y₁ y₂, y = y₁ ++ y₂ ∧ y₁.length = a.length ∧
        y₂.length = b.length :=
      ⟨y.take a.length, y.drop a.length, (List.take_append_drop ..).symm, by simp; omega,
        by simp; omega⟩
    have hfirst : write (x ++ y₁ ++ (y₂ ++ z)) x.length a = some (x ++ a ++ (y₂ ++ z)) :=
      write_split hy₁
    have hsecond : write (x ++ a ++ y₂ ++ z) (x ++ a).length b = some (x ++ a ++ b ++ z) :=
      write_split hy₂
    have hboth : write (x ++ (y₁ ++ y₂) ++ z) x.length (a ++ b) = some (x ++ (a ++ b) ++ z) :=
      write_split (by simp [hy₁, hy₂])
    rw [List.append_assoc (x ++ a)] at hsecond
    rw [hboth, show x ++ (y₁ ++ y₂) ++ z = x ++ y₁ ++ (y₂ ++ z) by simp, hfirst,
      Option.bind_some, ← List.length_append, hsecond, List.append_assoc x a b]
  · rw [write_eq_none.mpr (by simp; omega)]
    cases ha : write buf off a with
    | none => rfl
    | some out =>
      have hlen := length_of_write ha
      exact (write_eq_none.mpr (by omega)).symm

/-- A loop that overwrites one cell after the other. -/
theorem foldlM_write_range {buf : List α} (c : α) {off : Nat} (n : Nat) (h : off ≤ buf.length) :
    (List.range' off n).foldlM (fun buf i => write buf i [c]) buf =
      write buf off (.replicate n c) := by
  induction n generalizing buf off with
  | zero => exact (write_nil h).symm
  | succ n ih =>
    have hpieces : write buf off (.replicate (n + 1) c) =
        (write buf off [c]).bind fun out => write out (off + 1) (.replicate n c) :=
      write_append [c] (.replicate n c)
    rw [List.range'_succ, List.foldlM_cons, hpieces]
    cases hc : write buf off [c] with
    | none => rfl
    | some out =>
      refine ih ?_
      rw [length_of_write hc]
      exact le_of_write hc

/-- What a cell holds after a write. -/
theorem getElem?_of_write {buf out : List α} {off : Nat} {cells : List α}
    (h : write buf off cells = some out) (i : Nat) :
    out[i]? = if i < off then buf[i]? else cells[i - off]?.or buf[i]? := by
  obtain ⟨x, y, z, rfl, rfl, hy⟩ := exists_split (le_of_write h)
  rw [write_split hy] at h
  obtain rfl := Option.some.inj h
  simp only [List.append_assoc]
  split
  · rename_i hi
    rw [List.getElem?_append_left hi, List.getElem?_append_left hi]
  · rename_i hi
    have hx : x.length ≤ i := Nat.le_of_not_lt hi
    rw [List.getElem?_append_right hx, List.getElem?_append_right hx]
    rcases Nat.lt_or_ge (i - x.length) cells.length with hc | hc
    · rw [List.getElem?_append_left hc, List.getElem?_eq_getElem hc, Option.some_or]
    · rw [List.getElem?_append_right hc, List.getElem?_append_right (by omega),
        List.getElem?_eq_none hc, Option.none_or, hy]

theorem getElem?_of_write_singleton {buf out : List α} {off : Nat} {c : α}
    (h : write buf off [c] = some out) (i : Nat) :
    out[i]? = if i = off then some c else buf[i]? := by
  rw [getElem?_of_write h]
  rcases Nat.lt_trichotomy i off with hi | rfl | hi
  · rw [if_pos hi, if_neg (Nat.ne_of_lt hi)]
  · simp
  · have hbehind : [c][i - off]? = none :=
      List.getElem?_eq_none (by rw [List.length_singleton]; omega)
    rw [if_neg (Nat.not_lt_of_lt hi), if_neg (Nat.ne_of_gt hi), hbehind, Option.none_or]

/-- After several writes from the start a cell holds what the last one that
reached it put there. -/
theorem getElem?_of_writes {buf out : List α} {l : List (List α)}
    (h : l.foldlM (fun buf cells => write buf 0 cells) buf = some out) (i : Nat) :
    out[i]? = (l.filterMap (·[i]?)).getLast?.or buf[i]? := by
  induction l generalizing buf with
  | nil =>
    obtain rfl := Option.some.inj h
    rfl
  | cons cells l ih =>
    rw [List.foldlM_cons] at h
    obtain ⟨mid, hmid, h⟩ := Option.bind_eq_some_iff.mp h
    have hcell : mid[i]? = cells[i]?.or buf[i]? := by
      rw [getElem?_of_write hmid, if_neg (Nat.not_lt_zero i), Nat.sub_zero]
    rw [ih h, hcell]
    rw [List.filterMap_cons]
    cases hi : cells[i]? with
    | none => rw [Option.none_or]
    | some c =>
      rw [List.getLast?_cons, ← Option.or_assoc]
      cases (l.filterMap (·[i]?)).getLast? <;> rfl

end Region
