import Mathlib.Data.List.TakeWhile
import S1Client.GameInstance

/-!
# Text between the wire and the engine

The wire carries bytes, the engine UTF-16 code units.  On the way in the client
widens each byte of a `const char*` up to the first NUL; on the way out it encodes
the characters as UTF-8.  One is the inverse of the other on ASCII only
(`toUtf8_ofCStr_eq_iff`): a byte from 128 on comes back as two.
-/
namespace S1Client

/-- The first half of a surrogate pair. -/
def isHighSurrogate (u : UInt16) : Bool := 0xD800 ≤ u && u < 0xDC00

/-- The second half. -/
def isLowSurrogate (u : UInt16) : Bool := 0xDC00 ≤ u && u < 0xE000

/-- A code unit that is no half of a pair; a stray half becomes `?`. -/
def charOfUnit (u : UInt16) : Char :=
  if isHighSurrogate u || isLowSurrogate u then '?' else .ofNat u.toNat

/-- The characters of UTF-16 code units. -/
def FString.chars : FString → List Char
  | [] => []
  | [u] => [charOfUnit u]
  | hi :: lo :: units =>
    if isHighSurrogate hi && isLowSurrogate lo then
      .ofNat (0x10000 + (hi.toNat - 0xD800) * 0x400 + (lo.toNat - 0xDC00)) :: FString.chars units
    else charOfUnit hi :: FString.chars (lo :: units)

/-- `std::string(TCHAR_TO_UTF8(*s))`: a C string, so it ends before the first NUL. -/
def FString.toUtf8 (s : FString) : ProtoString :=
  (FString.chars (s.takeWhile (· ≠ 0))).flatMap String.utf8EncodeChar

/-! ## Widened bytes -/

/-- How a byte comes back. -/
def reencode (b : UInt8) : List UInt8 := String.utf8EncodeChar (charOfUnit b.toUInt16)

theorem FString.chars_cons {u : UInt16} (h : isHighSurrogate u = false) (units : FString) :
    FString.chars (u :: units) = charOfUnit u :: FString.chars units := by
  cases units with
  | nil => rfl
  | cons v units =>
    rw [FString.chars, h, Bool.false_and]
    rfl

private theorem not_surrogate (b : UInt8) :
    isHighSurrogate b.toUInt16 = false ∧ isLowSurrogate b.toUInt16 = false := by
  have hb := b.toNat_lt
  unfold isHighSurrogate isLowSurrogate
  simp [UInt16.le_iff_toNat_le]
  omega

theorem val_charOfUnit (b : UInt8) : (charOfUnit b.toUInt16).val.toNat = b.toNat := by
  have hb := b.toNat_lt
  obtain ⟨hhigh, hlow⟩ := not_surrogate b
  have hvalid : b.toUInt16.toNat.isValidChar := by
    rw [UInt8.toNat_toUInt16]
    exact Or.inl (by omega)
  rw [charOfUnit, hhigh, hlow, Bool.or_false, if_neg Bool.false_ne_true, Char.ofNat,
    dif_pos hvalid]
  exact b.toNat_toUInt16

/-- An ASCII byte comes back as it was. -/
theorem reencode_of_lt {b : UInt8} (h : b.toNat < 128) : reencode b = [b] := by
  unfold reencode String.utf8EncodeChar
  simp only [val_charOfUnit]
  rw [if_pos (by omega), UInt8.ofNat_toNat]

/-- Any other as two, neither of them NUL. -/
theorem reencode_of_ge {b : UInt8} (h : 128 ≤ b.toNat) :
    (reencode b).length = 2 ∧ 0 ∉ reencode b := by
  have hb := b.toNat_lt
  unfold reencode String.utf8EncodeChar
  simp only [val_charOfUnit]
  rw [if_neg (by omega), if_pos (by omega)]
  refine ⟨rfl, ?_⟩
  simp [← UInt8.toNat_inj]
  omega

/-- **There and back**, byte by byte. -/
theorem toUtf8_ofCStr (s : ProtoString) :
    (FString.ofCStr s).toUtf8 = (s.takeWhile (· ≠ 0)).flatMap reencode := by
  have hchars : ∀ bs : List UInt8,
      FString.chars (bs.map UInt8.toUInt16) = bs.map fun b => charOfUnit b.toUInt16 := by
    intro bs
    induction bs with
    | nil => rfl
    | cons b bs ih => rw [List.map_cons, FString.chars_cons (not_surrogate b).1, ih, List.map_cons]
  have hnul : ((s.takeWhile (· ≠ 0)).map UInt8.toUInt16).takeWhile (· ≠ 0) =
      (s.takeWhile (· ≠ 0)).map UInt8.toUInt16 := by
    rw [List.takeWhile_eq_self_iff]
    intro u hu
    obtain ⟨b, hb, rfl⟩ := List.mem_map.mp hu
    have hne := List.mem_takeWhile_imp hb
    simpa [← UInt16.toNat_inj, ← UInt8.toNat_inj] using hne
  rw [FString.toUtf8, FString.ofCStr, hnul, hchars, List.flatMap_map]
  rfl

/-- How much longer the text comes back. -/
theorem length_flatMap_reencode (bs : List UInt8) :
    (bs.flatMap reencode).length = bs.length + bs.countP (128 ≤ ·.toNat) := by
  induction bs with
  | nil => rfl
  | cons b bs ih =>
    rw [List.flatMap_cons, List.length_append, ih, List.length_cons, List.countP_cons]
    rcases Nat.lt_or_ge b.toNat 128 with hb | hb
    · rw [reencode_of_lt hb, if_neg (by simpa using hb), List.length_singleton]
      omega
    · rw [(reencode_of_ge hb).1, if_pos (by simpa using hb)]
      omega

/-- **Exactly ASCII survives**: text without NUL and without a byte from 128 on. -/
theorem toUtf8_ofCStr_eq_iff (s : ProtoString) :
    (FString.ofCStr s).toUtf8 = s ↔ ∀ b ∈ s, b ≠ 0 ∧ b.toNat < 128 := by
  rw [toUtf8_ofCStr]
  constructor
  · intro h
    -- what comes back has no NUL, so nothing was cut off
    have hnul : ∀ b ∈ s, b ≠ 0 := by
      intro b hb hb0
      rw [← h, hb0] at hb
      obtain ⟨c, hc, h0⟩ := List.mem_flatMap.mp hb
      have hc0 : c ≠ 0 := by simpa using List.mem_takeWhile_imp hc
      rcases Nat.lt_or_ge c.toNat 128 with hlt | hge
      · rw [reencode_of_lt hlt, List.mem_singleton] at h0
        exact hc0 h0.symm
      · exact (reencode_of_ge hge).2 h0
    have hall : s.takeWhile (· ≠ 0) = s :=
      List.takeWhile_eq_self_iff.mpr fun b hb => by simpa using hnul b hb
    rw [hall] at h
    -- and nothing got longer
    have hlen := length_flatMap_reencode s
    rw [h] at hlen
    have hcount : s.countP (128 ≤ ·.toNat) = 0 := by omega
    intro b hb
    have hsmall := List.countP_eq_zero.mp hcount b hb
    exact ⟨hnul b hb, by simpa using hsmall⟩
  · intro h
    have hall : s.takeWhile (· ≠ 0) = s :=
      List.takeWhile_eq_self_iff.mpr fun b hb => by simpa using (h b hb).1
    rw [hall]
    clear hall
    induction s with
    | nil => rfl
    | cons b s ih =>
      rw [List.flatMap_cons, reencode_of_lt (h b List.mem_cons_self).2,
        ih fun c hc => h c (List.mem_cons_of_mem b hc)]
      rfl

end S1Client
