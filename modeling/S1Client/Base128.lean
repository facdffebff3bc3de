import Mathlib.Data.BitVec
import Mathlib.Data.Nat.Log
import Mathlib.Tactic.Ring
import S1Client.Reader

/-! Numbers in base 128: seven bits a byte, the lowest first, and the top bit on all
bytes but the last.  `decode` is the meaning of such bytes, `accumulate` is how a
machine adds them up in a register of `w` bits: it subtracts, with the next digit, the
top bit of the one before.  It computes the number modulo `2 ^ w` (`accumulate_eq`), so
digits that the register has no room for are dropped, not refused. -/
namespace Base128

/-- At most `k + 1` bytes for a number. -/
def encode : Nat → Nat → List UInt8
  | 0, n => [.ofNat n]
  | k + 1, n => if n < 128 then [.ofNat n] else .ofNat (n % 128 + 128) :: encode k (n / 128)

/-- The number in at most `k` bytes. -/
def decode : Nat → Reader UInt8 Nat
  | 0, _ => none
  | _ + 1, [] => none
  | k + 1, b :: p =>
    if b.toNat < 128 then some (b.toNat, p)
    else (decode k p).map (Prod.map (b.toNat - 128 + 128 * ·) id)

/-- `k` more bytes, the first of them digit `i`. -/
def accumulate {w : Nat} : Nat → Nat → BitVec w → Reader UInt8 (BitVec w)
  | 0, _, _, _ => none
  | _ + 1, _, _, [] => none
  | k + 1, i, res, b :: p =>
    let res := res + ((BitVec.ofNat w b.toNat - 1) <<< (7 * i))
    if b.toNat < 128 then some (res, p) else accumulate k (i + 1) res p

/-! ## Digits -/

theorem decode_cons_of_lt {b : UInt8} (hb : b.toNat < 128) (k : Nat) (p : List UInt8) :
    decode (k + 1) (b :: p) = some (b.toNat, p) := if_pos hb

theorem decode_cons_of_ge {b : UInt8} (hb : ¬b.toNat < 128) (k : Nat) (p : List UInt8) :
    decode (k + 1) (b :: p) = (decode k p).map (Prod.map (b.toNat - 128 + 128 * ·) id) := if_neg hb

theorem local_decode (k : Nat) : Reader.Local (decode k) := by
  induction k with
  | zero =>
    intro p n r h
    cases h
  | succ k ih =>
    intro p n r h
    cases p with
    | nil => cases h
    | cons b p =>
      rw [decode] at h
      split at h
      · rename_i hb
        obtain ⟨rfl, rfl⟩ := Prod.mk.inj (Option.some.inj h)
        exact ⟨[b], rfl, fun q => if_pos hb⟩
      · rename_i hb
        obtain ⟨⟨m, r'⟩, hm, heq⟩ := Option.map_eq_some_iff.mp h
        obtain ⟨rfl, rfl⟩ := Prod.mk.inj heq
        obtain ⟨used, rfl, hused⟩ := ih hm
        refine ⟨b :: used, rfl, fun q => ?_⟩
        rw [List.cons_append, decode, if_neg hb, hused q]
        rfl

theorem consumes_decode (k : Nat) : Reader.Consumes (decode k) := by
  intro p n r h
  cases k with
  | zero => cases h
  | succ k =>
    cases p with
    | nil => cases h
    | cons b p =>
      rw [decode] at h
      split at h
      · obtain ⟨-, rfl⟩ := Prod.mk.inj (Option.some.inj h)
        exact Nat.lt_succ_self _
      · obtain ⟨⟨m, r'⟩, hm, heq⟩ := Option.map_eq_some_iff.mp h
        obtain ⟨-, rfl⟩ := Prod.mk.inj heq
        exact Nat.lt_succ_of_le ((local_decode k).length_le hm)

/-- One byte that the next one continues. -/
private theorem toNat_ofNat_continued (n : Nat) :
    (UInt8.ofNat (n % 128 + 128)).toNat = n % 128 + 128 := by
  rw [UInt8.toNat_ofNat', Nat.mod_eq_of_lt (by omega)]

theorem decode_encode {k n : Nat} (h : n < 128 ^ (k + 1)) (q : List UInt8) :
    decode (k + 1) (encode k n ++ q) = some (n, q) := by
  have hlast : ∀ k n : Nat, n < 128 → decode (k + 1) ([UInt8.ofNat n] ++ q) = some (n, q) := by
    intro k n hn
    have hbyte : (UInt8.ofNat n).toNat = n := by
      rw [UInt8.toNat_ofNat', Nat.mod_eq_of_lt (by omega)]
    rw [List.singleton_append, decode, hbyte, if_pos hn]
  induction k generalizing n with
  | zero => exact hlast 0 n (by omega)
  | succ k ih =>
    rw [encode]
    by_cases hn : n < 128
    · rw [if_pos hn]
      exact hlast (k + 1) n hn
    · have hdiv : n / 128 < 128 ^ (k + 1) := by
        rw [pow_succ] at h
        exact Nat.div_lt_of_lt_mul (by rwa [Nat.mul_comm])
      rw [if_neg hn, List.cons_append, decode, toNat_ofNat_continued, if_neg (by omega), ih hdiv,
        Option.map_some, Prod.map_apply, Nat.add_sub_cancel, Nat.mod_add_div, id_eq]

/-- As many bytes as digits. -/
theorem length_encode {k n : Nat} (h : n < 128 ^ (k + 1)) :
    (encode k n).length = Nat.log 128 n + 1 := by
  induction k generalizing n with
  | zero =>
    rw [encode, List.length_singleton, Nat.log_of_lt (by omega)]
  | succ k ih =>
    rw [encode]
    by_cases hn : n < 128
    · rw [if_pos hn, List.length_singleton, Nat.log_of_lt hn]
    · have hdiv : n / 128 < 128 ^ (k + 1) := by
        rw [pow_succ] at h
        exact Nat.div_lt_of_lt_mul (by rwa [Nat.mul_comm])
      have hlog : 0 < Nat.log 128 n := Nat.log_pos (by decide) (by omega)
      rw [if_neg hn, List.length_cons, ih hdiv, Nat.log_div_base]
      omega

private theorem two_pow_seven_mul (i : Nat) : 2 ^ (7 * i) = 128 ^ i := pow_mul 2 7 i

/-- The number of digits, from the position of the highest bit. -/
theorem log_eq_log2_div (n : Nat) : Nat.log 128 n = n.log2 / 7 := by
  by_cases hn : n = 0
  · subst hn
    rfl
  have hhigh := (Nat.log2_eq_iff hn).mp rfl
  refine (Nat.log_eq_iff (Or.inr ⟨by decide, hn⟩)).mpr ⟨?_, ?_⟩
  · calc 128 ^ (n.log2 / 7) = 2 ^ (7 * (n.log2 / 7)) := (two_pow_seven_mul _).symm
      _ ≤ 2 ^ n.log2 := Nat.pow_le_pow_right (by decide) (Nat.mul_div_le ..)
      _ ≤ n := hhigh.1
  · calc n < 2 ^ (n.log2 + 1) := hhigh.2
      _ ≤ 2 ^ (7 * (n.log2 / 7 + 1)) := Nat.pow_le_pow_right (by decide) (by omega)
      _ = 128 ^ (n.log2 / 7 + 1) := two_pow_seven_mul _

/-! ## In a register -/

/-- One digit, with the top bit of the one before taken away. -/
theorem add_digit {w : Nat} (i n b : Nat) :
    BitVec.ofNat w (n + 128 ^ i) + ((BitVec.ofNat w b - 1) <<< (7 * i)) =
      .ofNat w (n + 128 ^ i * b) := by
  have hpow : (BitVec.twoPow w (7 * i)) = ((128 ^ i : Nat) : BitVec w) := by
    apply BitVec.eq_of_toNat_eq
    rw [BitVec.toNat_twoPow, two_pow_seven_mul]
    rfl
  rw [BitVec.shiftLeft_eq_mul_twoPow, hpow]
  show ((n + 128 ^ i : Nat) : BitVec w) + ((b : BitVec w) - 1) * _ =
    ((n + 128 ^ i * b : Nat) : BitVec w)
  push_cast
  ring

/-- A digit without its top bit, which the next byte takes away. -/
theorem split_digit {b : Nat} (hb : 128 ≤ b) (i n : Nat) :
    n + 128 ^ i * b = (n + 128 ^ i * (b - 128)) + 128 ^ (i + 1) := by
  obtain ⟨c, rfl⟩ := Nat.exists_eq_add_of_le hb
  rw [Nat.add_sub_cancel_left]
  ring

/-- **The register holds the number modulo `2 ^ w`.**  The digits before `i` add up to
`n`, and the last of them left its top bit. -/
theorem accumulate_eq {w : Nat} (k i n : Nat) (p : List UInt8) :
    accumulate k i (.ofNat w (n + 128 ^ i)) p =
      (decode k p).map (Prod.map (.ofNat w <| n + 128 ^ i * ·) id) := by
  induction k generalizing i n p with
  | zero => rfl
  | succ k ih =>
    cases p with
    | nil => rfl
    | cons b p =>
      rw [accumulate, decode, add_digit]
      split
      · rfl
      · rename_i hb
        rw [split_digit (Nat.le_of_not_lt hb), ih, Option.map_map]
        refine congrFun (congrArg _ (funext fun ⟨m, p⟩ => ?_)) _
        show (BitVec.ofNat w _, p) = (BitVec.ofNat w _, p)
        rw [show n + 128 ^ i * (b.toNat - 128) + 128 ^ (i + 1) * m =
          n + 128 ^ i * (b.toNat - 128 + 128 * m) by ring]

end Base128
