import Mathlib.Analysis.Normed.Affine.Convex

/-! A point that follows a target at rest, move by move.  A move goes some part of the way
to the target; from farther than `near` it makes up for the time that passed at full
speed, or arrives, while near the target it may be as slow as it likes (`Moves`).  Then a
whole path stays on the segment to the target, comes closer with every move, and ends as
close as full speed brings it, or near (`Path.dist_le_max`). -/
namespace Pursuit
variable {V : Type} [NormedAddCommGroup V] [NormedSpace ℝ V]

/-- In `time` the point goes from `x` to `y`. -/
structure Moves (target : V) (near speed : ℝ) (x : V) (time : ℝ) (y : V) : Prop where
  toward : y ∈ segment ℝ x target
  closes : near < dist x target → dist y target ≤ max 0 (dist x target - speed * time)

/-- Successive moves, with the times they take. -/
inductive Path (target : V) (near speed : ℝ) : V → List ℝ → V → Prop
  | nil (x : V) : Path target near speed x [] x
  | cons {x y z : V} {time : ℝ} {times : List ℝ} (first : Moves target near speed x time y)
      (rest : Path target near speed y times z) : Path target near speed x (time :: times) z

variable {target x y z : V} {near speed time : ℝ} {times : List ℝ}

/-! ## One move -/

/-- What is left of the way. -/
theorem dist_lineMap_target {c : ℝ} (hc : c ≤ 1) :
    dist (AffineMap.lineMap x target c) target = (1 - c) * dist x target := by
  rw [dist_lineMap_right, Real.norm_of_nonneg (sub_nonneg.mpr hc)]

theorem lineMap_mem_segment {c : ℝ} (h0 : 0 ≤ c) (h1 : c ≤ 1) :
    AffineMap.lineMap x target c ∈ segment ℝ x target := by
  rw [segment_eq_image_lineMap]
  exact ⟨c, ⟨h0, h1⟩, rfl⟩

/-- Near the target any part of the way is a move. -/
theorem moves_near {c : ℝ} (h0 : 0 ≤ c) (h1 : c ≤ 1) (hnear : dist x target ≤ near) :
    Moves target near speed x time (AffineMap.lineMap x target c) :=
  ⟨lineMap_mem_segment h0 h1, fun hfar => absurd hfar (not_lt_of_ge hnear)⟩

/-- Elsewhere it is the way at full speed, up to the target. -/
theorem moves_far {c : ℝ} (h0 : 0 ≤ c) (h1 : c ≤ 1)
    (hway : c * dist x target = min (speed * time) (dist x target)) :
    Moves target near speed x time (AffineMap.lineMap x target c) := by
  refine ⟨lineMap_mem_segment h0 h1, fun _ => le_of_eq ?_⟩
  rw [dist_lineMap_target h1, sub_mul, one_mul, hway]
  rcases le_total (speed * time) (dist x target) with hshort | harrive
  · rw [min_eq_left hshort, max_eq_right (sub_nonneg.mpr hshort)]
  · rw [min_eq_right harrive, sub_self, max_eq_left (sub_nonpos.mpr harrive)]

/-- **A move comes no farther away.** -/
theorem Moves.dist_le (h : Moves target near speed x time y) : dist y target ≤ dist x target := by
  rw [← dist_add_dist_of_mem_segment h.toward]
  exact le_add_of_nonneg_left dist_nonneg

/-- **A move keeps up** with a point that approaches at full speed. -/
theorem Moves.dist_le_max (h : Moves target near speed x time y) (hnear : 0 ≤ near) {bound : ℝ}
    (hx : dist x target ≤ max near bound) : dist y target ≤ max near (bound - speed * time) := by
  rcases le_or_gt (dist x target) near with hclose | hfar
  · exact (h.dist_le.trans hclose).trans (le_max_left ..)
  · have hbound : dist x target ≤ bound := (le_max_iff.mp hx).resolve_left (not_le_of_gt hfar)
    refine (h.closes hfar).trans (max_le_max hnear ?_)
    exact sub_le_sub_right hbound _

/-! ## A path -/

theorem Path.mem_segment (h : Path target near speed x times z) : z ∈ segment ℝ x target := by
  induction h with
  | nil x => exact left_mem_segment ℝ x target
  | cons first rest ih =>
    exact (convex_segment _ _).segment_subset first.toward (right_mem_segment ℝ _ _) ih

theorem Path.dist_le (h : Path target near speed x times z) : dist z target ≤ dist x target := by
  induction h with
  | nil x => exact le_refl _
  | cons first rest ih => exact ih.trans first.dist_le

theorem Path.dist_le_of_le (h : Path target near speed x times z) (hnear : 0 ≤ near) {bound : ℝ}
    (hx : dist x target ≤ max near bound) :
    dist z target ≤ max near (bound - speed * times.sum) := by
  induction h generalizing bound with
  | nil x => simpa using hx
  | @cons x y z time times first rest ih =>
    have hrest := ih (first.dist_le_max hnear hx)
    rwa [sub_sub, ← mul_add, ← List.sum_cons] at hrest

/-- **The end of a path** is near, or as close as full speed brings it. -/
theorem Path.dist_le_max (h : Path target near speed x times z) (hnear : 0 ≤ near) :
    dist z target ≤ max near (dist x target - speed * times.sum) :=
  h.dist_le_of_le hnear (le_max_right ..)

end Pursuit
