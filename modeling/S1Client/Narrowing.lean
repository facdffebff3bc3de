import Mathlib.Algebra.Ring.Int.Defs
import Mathlib.Algebra.Ring.Nat

/-! An unsigned 64-bit value kept in a signed 32-bit one.  The conversion keeps the
low 32 bits, so a value survives it exactly below 2³¹ (`toInt_narrow_eq`), and the
way back to 64 bits exactly if it is a sign extension (`widen_narrow_eq`).  A sum
that is accumulated in 32 bits loses nothing on the way exactly if it ends below 2³¹
(`exact_iff`), since unsigned values only make it grow. -/
namespace Narrowing

theorem toInt_toInt64 (x : UInt64) : x.toInt64.toInt = (x.toNat : Int).bmod (2 ^ 64) := by
  rw [Int64.toInt, UInt64.toInt64, Int64.toBitVec, BitVec.toInt_eq_toNat_bmod]
  rfl

theorem toInt_narrow (x : UInt64) : x.toInt64.toInt32.toInt = (x.toNat : Int).bmod (2 ^ 32) := by
  rw [Int64.toInt_toInt32, toInt_toInt64]
  apply Int.bmod_bmod_of_dvd
  decide

/-- Which values the conversion keeps. -/
theorem toInt_narrow_eq (x : UInt64) :
    x.toInt64.toInt32.toInt = x.toNat ↔ x.toNat < 2147483648 := by
  rw [toInt_narrow, Int.bmod_def]
  have hlt := x.toNat_lt
  split <;> omega

theorem toNat_widen (x : Int32) : x.toInt64.toUInt64.toNat = (x.toInt % 2 ^ 64).toNat := by
  have hword : x.toInt = (x.toInt64.toUInt64.toNat : Int).bmod (2 ^ 64) := by
    rw [← x.toInt_toInt64, ← toInt_toInt64, Int64.toInt64_toUInt64]
  have hmod : x.toInt % 2 ^ 64 = x.toInt64.toUInt64.toNat := by
    rw [hword]
    refine (Int.bmod_emod ..).trans (Int.emod_eq_of_lt (Int.natCast_nonneg _) ?_)
    exact_mod_cast x.toInt64.toUInt64.toNat_lt
  rw [hmod, Int.toNat_natCast]

/-- Which values the way there and back keeps. -/
theorem widen_narrow_eq (x : UInt64) : x.toInt64.toInt32.toInt64.toUInt64 = x ↔
    x.toNat < 2147483648 ∨ 18446744071562067968 ≤ x.toNat := by
  rw [← UInt64.toNat_inj, toNat_widen, toInt_narrow, Int.bmod_def]
  have hlt := x.toNat_lt
  split <;> omega

/-! ## Sums -/

/-- The values `ps`, converted, are added to `x` one after the other. -/
def accumulate (x : Int32) (ps : List UInt64) : Int32 :=
  ps.foldl (fun x p => x + p.toInt64.toInt32) x

theorem accumulate_append (x : Int32) (ps qs : List UInt64) :
    accumulate x (ps ++ qs) = accumulate (accumulate x ps) qs := List.foldl_append

/-- On the way, every conversion keeps its value and every addition is that of the
integers. -/
def Exact : Int32 → List UInt64 → Prop
  | _, [] => True
  | x, p :: ps => p.toInt64.toInt32.toInt = p.toNat ∧
      (x + p.toInt64.toInt32).toInt = x.toInt + p.toInt64.toInt32.toInt ∧
      Exact (x + p.toInt64.toInt32) ps

theorem Exact.toInt_accumulate {x : Int32} {ps : List UInt64} (h : Exact x ps) :
    (accumulate x ps).toInt = x.toInt + (ps.map UInt64.toNat).sum := by
  induction ps generalizing x with
  | nil => simp [accumulate]
  | cons p ps ih =>
    obtain ⟨hp, hadd, h⟩ := h
    have hps := ih h
    rw [hadd, hp] at hps
    rw [List.map_cons, List.sum_cons, Nat.cast_add, ← add_assoc]
    exact hps

theorem toInt_add_narrow {x : Int32} {p : UInt64} {n : Nat} (hx : x.toInt = n)
    (h : n + p.toNat < 2147483648) : (x + p.toInt64.toInt32).toInt = ((n + p.toNat : Nat) : Int) := by
  have hp := (toInt_narrow_eq p).mpr (by omega)
  rw [Int32.toInt_add, hx, hp, Int.bmod_def]
  split <;> omega

/-- Which sums are accumulated without a loss. -/
theorem exact_iff {x : Int32} {ps : List UInt64} {n : Nat} (hx : x.toInt = n) :
    Exact x ps ↔ n + (ps.map UInt64.toNat).sum < 2147483648 := by
  constructor
  · intro h
    have hlt := (accumulate x ps).toInt_lt
    rw [h.toInt_accumulate, hx] at hlt
    omega
  · intro h
    induction ps generalizing x n with
    | nil => trivial
    | cons p ps ih =>
      rw [List.map_cons, List.sum_cons, ← Nat.add_assoc] at h
      have hadd := toInt_add_narrow hx (by omega : n + p.toNat < 2147483648)
      have hp := (toInt_narrow_eq p).mpr (by omega)
      refine ⟨hp, ?_, ih hadd h⟩
      rw [hadd, hx, hp, Nat.cast_add]

end Narrowing
