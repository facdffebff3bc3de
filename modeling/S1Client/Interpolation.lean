import Mathlib.Analysis.InnerProductSpace.PiL2
import S1Client.Pursuit
import S1Client.Ticks

/-!
# How a remote player moves

Between two `S_MOVE`s a remote player walks towards its `DestInfo` with every tick, at 600
units a second and never past it.  Within 10⁻⁴ of it `Normalize` leaves the direction as
it is, which is too short to get anywhere fast, and there the player stays
(`ticks_converge`).  Arithmetic is exact here, over the reals.
-/
namespace S1Client

/-- A vector as a point of Euclidean space. -/
noncomputable def FVector.point (v : FVector ℝ) : EuclideanSpace ℝ (Fin 3) := !₂[v.x, v.y, v.z]

namespace FVector
variable (v w : FVector ℝ) (c : ℝ)

theorem point_add : (v.add w).point = v.point + w.point := by
  ext i
  fin_cases i <;> rfl

theorem point_sub : (v.sub w).point = v.point - w.point := by
  ext i
  fin_cases i <;> rfl

theorem point_scale : (v.scale c).point = c • v.point := by
  ext i
  fin_cases i <;> exact mul_comm _ _

theorem sizeSquared_eq : v.sizeSquared = ‖v.point‖ ^ 2 := by
  rw [EuclideanSpace.norm_sq_eq, Fin.sum_univ_three]
  simp [point, sizeSquared, sq]

theorem length_eq : v.length Real.sqrt = ‖v.point‖ := by
  rw [length, sizeSquared_eq, Real.sqrt_sq (norm_nonneg _)]

/-- What `Normalize` divides by the length is what is longer than 10⁻⁴. -/
theorem point_normalize : (v.normalize Real.sqrt).point =
    if 1 / 10000 < ‖v.point‖ then ‖v.point‖⁻¹ • v.point else v.point := by
  have hlong : v.sizeSquared > 1 / 100000000 ↔ 1 / 10000 < ‖v.point‖ := by
    rw [sizeSquared_eq, gt_iff_lt, show (1 : ℝ) / 100000000 = (1 / 10000) ^ 2 by norm_num]
    exact pow_lt_pow_iff_left₀ (by norm_num) (norm_nonneg _) two_ne_zero
  unfold normalize
  by_cases h : 1 / 10000 < ‖v.point‖
  · rw [if_pos (hlong.mpr h), if_pos h, point_scale, sizeSquared_eq, Real.sqrt_sq (norm_nonneg _),
      one_div]
  · rw [if_neg fun hlen => h (hlong.mp hlen), if_neg h]

end FVector

namespace AS1Player
open Pursuit (Moves Path)

/-- Where the actor is. -/
noncomputable def place (p : AS1Player ℝ) : EuclideanSpace ℝ (Fin 3) := p.location.point

/-- Where it is to go. -/
noncomputable def target (p : AS1Player ℝ) : EuclideanSpace ℝ (Fin 3) := p.destInfo.location.point

/-- Successive ticks. -/
noncomputable def ticks (frames : List (Frame ℝ)) (p : AS1Player ℝ) : AS1Player ℝ :=
  frames.foldl (fun p frame => p.tick Real.sqrt frame) p

variable {p : AS1Player ℝ} {frame : Frame ℝ} {frames : List (Frame ℝ)}

/-- A tick changes neither the destination nor whose player it is. -/
theorem tick_keeps (p : AS1Player ℝ) (frame : Frame ℝ) :
    (p.tick Real.sqrt frame).destInfo = p.destInfo ∧ (p.tick Real.sqrt frame).isMine = p.isMine := by
  unfold tick
  dsimp only
  split <;> exact ⟨rfl, rfl⟩

/-- The step of a tick: the direction, normalized or not, times the smaller of the way at
full speed and the whole way. -/
theorem place_tick (hremote : p.isMine = false) (frame : Frame ℝ) :
    let way := p.target - p.place
    let direction := if 1 / 10000 < ‖way‖ then ‖way‖⁻¹ • way else way
    (p.tick Real.sqrt frame).place =
      p.place + min ‖frame.deltaTime • (600 : ℝ) • direction‖ ‖way‖ • direction := by
  unfold tick
  dsimp only
  rw [if_neg (by rw [hremote]; exact Bool.false_ne_true)]
  simp only [place, target, FVector.point_add, FVector.point_scale, FVector.length_eq,
    FVector.point_normalize, FVector.point_sub]
  rfl

/-- **One tick** is a move towards the destination, at 600 units a second. -/
theorem moves_tick (hremote : p.isMine = false) (htime : 0 ≤ frame.deltaTime) :
    Moves p.target (1 / 10000) 600 p.place frame.deltaTime (p.tick Real.sqrt frame).place := by
  rw [place_tick hremote frame]
  generalize p.place = x
  generalize p.target = target
  generalize frame.deltaTime = time at htime
  have hdist : dist x target = ‖target - x‖ := by rw [dist_comm, dist_eq_norm]
  have hstep : ∀ c : ℝ, AffineMap.lineMap x target c = x + c • (target - x) := fun c => by
    rw [AffineMap.lineMap_apply, vsub_eq_sub, vadd_eq_add, add_comm]
  by_cases hfar : 1 / 10000 < ‖target - x‖
  · -- the direction has length 1
    have hpos : 0 < ‖target - x‖ := lt_trans (by norm_num) hfar
    have hunit : ‖time • (600 : ℝ) • ‖target - x‖⁻¹ • (target - x)‖ = 600 * time := by
      rw [norm_smul, norm_smul, norm_smul, norm_inv, norm_norm, inv_mul_cancel₀ hpos.ne',
        Real.norm_of_nonneg htime, Real.norm_of_nonneg (by norm_num), mul_one, mul_comm]
    rw [if_pos hfar, hunit, smul_smul, ← hstep]
    have hway : 0 ≤ min (600 * time) ‖target - x‖ :=
      le_min (mul_nonneg (by norm_num) htime) hpos.le
    refine Pursuit.moves_far (mul_nonneg hway (inv_nonneg.mpr hpos.le)) ?_ ?_
    · rw [← div_eq_mul_inv]
      exact div_le_one_of_le₀ (min_le_right ..) hpos.le
    · rw [hdist, inv_mul_cancel_right₀ hpos.ne']
  · -- the direction is the whole way, and the step a small part of it
    have hnear := le_of_not_gt hfar
    rw [if_neg hfar, ← hstep]
    refine Pursuit.moves_near (le_min (norm_nonneg _) (norm_nonneg _)) ?_ (hdist ▸ hnear)
    exact (min_le_right ..).trans (hnear.trans (by norm_num))

theorem ticks_keeps (frames : List (Frame ℝ)) (p : AS1Player ℝ) :
    (p.ticks frames).target = p.target ∧ (p.ticks frames).isMine = p.isMine := by
  induction frames generalizing p with
  | nil => exact ⟨rfl, rfl⟩
  | cons frame frames ih =>
    obtain ⟨hdest, hmine⟩ := p.tick_keeps frame
    obtain ⟨htarget, hremote⟩ := ih (p.tick Real.sqrt frame)
    refine ⟨htarget.trans ?_, hremote.trans hmine⟩
    unfold target
    rw [hdest]

/-- **The ticks** are a path to the destination. -/
theorem path_ticks (hremote : p.isMine = false) (hframes : ∀ frame ∈ frames, 0 ≤ frame.deltaTime) :
    Path p.target (1 / 10000) 600 p.place (frames.map Frame.deltaTime) (p.ticks frames).place := by
  induction frames generalizing p with
  | nil => exact .nil _
  | cons frame frames ih =>
    obtain ⟨hdest, hmine⟩ := p.tick_keeps frame
    have htarget : (p.tick Real.sqrt frame).target = p.target := by
      unfold target
      rw [hdest]
    have hrest := @ih (p.tick Real.sqrt frame) (hmine.trans hremote)
      fun f hf => hframes f (List.mem_cons_of_mem frame hf)
    rw [htarget] at hrest
    exact .cons (moves_tick hremote (hframes frame List.mem_cons_self)) hrest

/-- **Remote movement converges without overshoot.**  The player stays on the segment from
where it started to its destination, comes no farther from it with any tick, and after
the time `T` is within `max 10⁻⁴ (d₀ - 600 T)` of it. -/
theorem ticks_converge (hremote : p.isMine = false)
    (hframes : ∀ frame ∈ frames, 0 ≤ frame.deltaTime) :
    (p.ticks frames).place ∈ segment ℝ p.place p.target ∧
      (∀ l₁ l₂, frames = l₁ ++ l₂ →
        dist (p.ticks frames).place p.target ≤ dist (p.ticks l₁).place p.target) ∧
      dist (p.ticks frames).place p.target ≤
        max (1 / 10000) (dist p.place p.target - 600 * (frames.map Frame.deltaTime).sum) := by
  have hpath := path_ticks hremote hframes
  refine ⟨hpath.mem_segment, fun l₁ l₂ hl => ?_, hpath.dist_le_max (by norm_num)⟩
  subst hl
  obtain ⟨htarget, hmine⟩ := ticks_keeps l₁ p
  have hrest : Path (p.ticks l₁).target (1 / 10000) 600 (p.ticks l₁).place
      (l₂.map Frame.deltaTime) ((p.ticks l₁).ticks l₂).place :=
    path_ticks (hmine.trans hremote) fun f hf => hframes f (List.mem_append_right l₁ hf)
  rw [htarget] at hrest
  have happend : p.ticks (l₁ ++ l₂) = (p.ticks l₁).ticks l₂ := List.foldl_append
  rw [happend]
  exact hrest.dist_le

/-- A remote player 100 units from its destination. -/
noncomputable def walker : AS1Player ℝ :=
  { AS1Player.construct with destInfo := { PosInfo.default with x := 100 } }

/-- After three tenths of a second it has arrived. -/
theorem ticks_converge_hundred :
    dist (walker.ticks [⟨1 / 10, 0, 0⟩, ⟨1 / 5, 0, 0⟩]).place walker.target ≤ 1 / 10000 := by
  have hframes : ∀ frame ∈ ([⟨1 / 10, 0, 0⟩, ⟨1 / 5, 0, 0⟩] : List (Frame ℝ)),
      0 ≤ frame.deltaTime := by
    intro frame hframe
    simp only [List.mem_cons, List.not_mem_nil, or_false] at hframe
    rcases hframe with rfl | rfl <;> norm_num
  obtain ⟨-, -, hbound⟩ := ticks_converge (p := walker) rfl hframes
  have hstart : dist walker.place walker.target = 100 := by
    rw [dist_comm, dist_eq_norm, place, target, ← FVector.point_sub, ← FVector.length_eq]
    have hsquare : (walker.destInfo.location.sub walker.location).sizeSquared = 100 ^ 2 := by
      simp [walker, construct, PosInfo.default, PosInfo.location, FVector.sub, FVector.sizeSquared]
      norm_num
    rw [FVector.length, hsquare, Real.sqrt_sq (by norm_num)]
  rw [hstart] at hbound
  refine hbound.trans (max_le (le_refl _) ?_)
  norm_num

end AS1Player
end S1Client
