import Mathlib.Algebra.BigOperators.Group.List.Basic
import Mathlib.Algebra.Order.Field.Basic
import Mathlib.Tactic.Linarith
import Mathlib.Tactic.Ring

/-! A timer that counts down and starts again from `delay` when it has run out.  What a
step takes beyond that is lost, so it never fires early; and a step of at most `δ` is all
that it can be late (`fires_bounds`). -/
namespace Countdown
variable {R : Type} [Field R] [LinearOrder R]

/-- One step: the timer behind it, and whether it fired. -/
def step (delay timer dt : R) : R × Bool :=
  if timer - dt ≤ 0 then (delay, true) else (timer - dt, false)

/-- The timer behind some steps. -/
def after (delay timer : R) : List R → R
  | [] => timer
  | dt :: dts => after delay (step delay timer dt).1 dts

/-- How often it fired. -/
def fires (delay timer : R) : List R → Nat
  | [] => 0
  | dt :: dts => (step delay timer dt).2.toNat + fires delay (step delay timer dt).1 dts

variable [IsStrictOrderedRing R] {delay timer δ : R}

/-- **One step**: the time that went by since the timer was last set, before and after. -/
theorem step_bounds {dt : R} (hpos : 0 < timer) (hle : timer ≤ delay) (hdt : 0 ≤ dt)
    (hδ : dt ≤ δ) :
    (0 < (step delay timer dt).1 ∧ (step delay timer dt).1 ≤ delay) ∧
      (step delay timer dt).2.toNat * delay + (delay - (step delay timer dt).1) ≤
        delay - timer + dt ∧
      delay - timer + dt ≤
        (step delay timer dt).2.toNat * (delay + δ) + (delay - (step delay timer dt).1) := by
  unfold step
  by_cases hout : timer - dt ≤ 0
  · rw [if_pos hout]
    have hone : ((true.toNat : Nat) : R) = 1 := Nat.cast_one
    simp only [hone]
    exact ⟨⟨lt_of_lt_of_le hpos hle, le_refl _⟩, by linarith, by linarith⟩
  · rw [if_neg hout]
    have hzero : ((false.toNat : Nat) : R) = 0 := Nat.cast_zero
    have hlt := lt_of_not_ge hout
    simp only [hzero]
    exact ⟨⟨hlt, by linarith⟩, by linarith, by linarith⟩

/-- **Any steps**: between two times at which the timer fires, at least `delay` goes by, and
at most `delay + δ`. -/
theorem fires_bounds {dts : List R} (hpos : 0 < timer) (hle : timer ≤ delay)
    (hdts : ∀ dt ∈ dts, 0 ≤ dt ∧ dt ≤ δ) :
    (0 < after delay timer dts ∧ after delay timer dts ≤ delay) ∧
      fires delay timer dts * delay + (delay - after delay timer dts) ≤
        delay - timer + dts.sum ∧
      delay - timer + dts.sum ≤
        fires delay timer dts * (delay + δ) + (delay - after delay timer dts) := by
  induction dts generalizing timer with
  | nil =>
    simp only [after, fires, List.sum_nil, Nat.cast_zero]
    exact ⟨⟨hpos, hle⟩, by linarith, by linarith⟩
  | cons dt dts ih =>
    obtain ⟨hdt, hdts⟩ := List.forall_mem_cons.mp hdts
    obtain ⟨⟨hpos', hle'⟩, hlow, hhigh⟩ := step_bounds hpos hle hdt.1 hdt.2
    obtain ⟨hrange, hlow', hhigh'⟩ := ih hpos' hle' hdts
    refine ⟨hrange, ?_, ?_⟩
    · rw [after, fires, List.sum_cons, Nat.cast_add, add_mul]
      linarith
    · rw [after, fires, List.sum_cons, Nat.cast_add, add_mul]
      linarith

end Countdown
