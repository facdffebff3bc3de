import S1Client.Base128
import S1Client.Codecs
import S1Client.Protocol
import S1Client.Utf8

/-!
# The wire format

The runtime that the generated messages are read and written with.  `VarintParse`,
`ReadTag` and `ReadSize` add up the bytes of a number in registers of 32 and 64 bits;
`FieldParser` and `WireFormatParser` put the fields that a message does not know in its
`UnknownFieldSet`, and `InternalSerializeUnknownFieldsToArray` writes them again.

The source reads on from a pointer and checks later, in `Done` and `PopLimit`, whether
it went past the end; such a parse fails as a whole.  Here a read past the end fails at
once.
-/
namespace S1Client.WireFormat

/-! ## Reading numbers -/

/-- `VarintParse<uint64_t>`: two bytes in 32 bits, and `VarintParseSlow64`. -/
def varintParse : Reader UInt8 UInt64
  | [] => none
  | b :: p =>
    let res := BitVec.ofNat 32 b.toNat
    if b.toNat < 128 then some (.ofBitVec (res.setWidth 64), p)
    else match p with
      | [] => none
      | byte :: p =>
        let res := res + ((BitVec.ofNat 32 byte.toNat - 1) <<< 7)
        if byte.toNat < 128 then some (.ofBitVec (res.setWidth 64), p)
        else (Base128.accumulate 8 2 (res.setWidth 64)).map UInt64.ofBitVec p

/-- `ReadTag`: five bytes at most. -/
def readTag : Reader UInt8 UInt32
  | [] => none
  | b :: p =>
    let res := BitVec.ofNat 32 b.toNat
    if b.toNat < 128 then some (.ofBitVec res, p)
    else (Base128.accumulate 4 1 res).map UInt32.ofBitVec p

/-- `INT_MAX - ParseContext::kSlopBytes`. -/
def maxSize : Nat := 2147483647 - 16

/-- `ReadSizeFallback`, from byte `i` on with `k` bytes before the last one. -/
def readSizeFallback : Nat → Nat → BitVec 32 → Reader UInt8 Nat
  | _, _, _, [] => none
  | 0, i, res, byte :: p =>
    if 8 ≤ byte.toNat then none
    else
      let res := res + ((BitVec.ofNat 32 byte.toNat - 1) <<< (7 * i))
      if maxSize < res.toNat then none else some (res.toNat, p)
  | k + 1, i, res, byte :: p =>
    let res := res + ((BitVec.ofNat 32 byte.toNat - 1) <<< (7 * i))
    if byte.toNat < 128 then some (res.toNat, p) else readSizeFallback k (i + 1) res p

/-- `ReadSize`. -/
def readSize : Reader UInt8 Nat
  | [] => none
  | b :: p =>
    let res := BitVec.ofNat 32 b.toNat
    if b.toNat < 128 then some (res.toNat, p) else readSizeFallback 3 1 res p

/-- Bytes in memory, low byte first. -/
def toLe : Nat → Nat → List UInt8
  | 0, _ => []
  | k + 1, n => .ofNat n :: toLe k (n / 256)

/-- The number that bytes in memory are. -/
def fromLe (p : List UInt8) : Nat := p.foldr (fun b n => b.toNat + 256 * n) 0

/-! ## Fields that are not known -/

/-- `FieldParser` with an `UnknownFieldParserHelper`: the field that is added, with the number
`tag >> 3`. -/
def fieldParser (parseGroup : Nat → Reader UInt8 (UnknownFieldSet × Option UInt32)) (depth : Nat)
    (tag : UInt32) : Reader UInt8 UnknownField := fun p =>
  if tag >>> 3 = 0 then none
  else match (tag &&& 7).toNat with
    | 0 => varintParse.map (.varint (tag >>> 3)) p
    | 1 => (Reader.taking 8).map (fun b => .fixed64 (tag >>> 3) (.ofNat (fromLe b))) p
    | 2 => (readSize.andThen Reader.taking).map (.lengthDelimited (tag >>> 3)) p
    -- `ParseGroup` and, on the tag that ended the group, `ConsumeEndGroup`
    | 3 => match depth with
      | 0 => none
      | depth + 1 =>
        (parseGroup depth).mapM (fun (fields, last) =>
          if last = some (tag + 1) then some (.group (tag >>> 3) fields) else none) p
    | 5 => (Reader.taking 4).map (fun b => .fixed32 (tag >>> 3) (.ofNat (fromLe b))) p
    | _ => none

/-- A tag that ends a message or a group. -/
def isEnd (tag : UInt32) : Bool := tag = 0 || tag &&& 7 = 4

/-- `WireFormatParser`: to the end of the input, or of the group; with the last tag in the
second case. -/
def wireFormatParser : Nat → Nat → Reader UInt8 (UnknownFieldSet × Option UInt32)
  | _, _, [] => some (([], none), [])
  | 0, _, _ :: _ => none
  | fuel + 1, depth, b :: p => do
    let (tag, p) ← readTag (b :: p)
    if isEnd tag then some (([], some tag), p)
    else
      let (field, p) ← fieldParser (wireFormatParser fuel) depth tag p
      let ((fields, last), p) ← wireFormatParser fuel depth p
      return ((field :: fields, last), p)

/-- `handle_unusual` of a message and `UnknownFieldParse`.  A tag that ends a group ends
the message, which then has not ended at its limit. -/
def unknownFieldParse (depth : Nat) (tag : UInt32) : Reader UInt8 UnknownField := fun p =>
  if isEnd tag then none else fieldParser (wireFormatParser (p.length + 1)) depth tag p

/-! ## Writing -/

/-- `UnsafeVarint<uint32_t>`. -/
def writeVarint32 (value : UInt32) : List UInt8 := Base128.encode 4 value.toNat

/-- `UnsafeVarint<uint64_t>`. -/
def writeVarint64 (value : UInt64) : List UInt8 := Base128.encode 9 value.toNat

/-- `VarintSize32` and `VarintSize64` compute with `floor(log2(value | 1))`. -/
def varintSize (value : Nat) : Nat := (Nat.log2 (value ||| 1) * 9 + 73) / 64

def varintSize32 (value : UInt32) : Nat := varintSize value.toNat

def varintSize64 (value : UInt64) : Nat := varintSize value.toNat

/-- `WireFormatLite::MakeTag`. -/
def makeTag (number type : UInt32) : UInt32 := number <<< 3 ||| type

/-- The tag that a field is written with. -/
def UnknownField.tag : UnknownField → UInt32
  | varint number _ => makeTag number 0
  | fixed32 number _ => makeTag number 5
  | fixed64 number _ => makeTag number 1
  | lengthDelimited number _ => makeTag number 2
  | group number _ => makeTag number 3

mutual

/-- What is written behind the tag of a field. -/
def UnknownField.serialize : UnknownField → List UInt8
  | .varint _ value => writeVarint64 value
  | .fixed32 _ value => toLe 4 value.toNat
  | .fixed64 _ value => toLe 8 value.toNat
  | .lengthDelimited _ value => writeVarint32 (.ofNat value.length) ++ value
  | .group number fields =>
    internalSerializeUnknownFields fields ++ writeVarint32 (makeTag number 4)

/-- `WireFormat::InternalSerializeUnknownFieldsToArray`. -/
def internalSerializeUnknownFields : UnknownFieldSet → List UInt8
  | [] => []
  | f :: fields =>
    writeVarint32 f.tag ++ f.serialize ++ internalSerializeUnknownFields fields

end

mutual

/-- The size of what is written behind the tag of a field. -/
def UnknownField.byteSize : UnknownField → Nat
  | .varint _ value => varintSize64 value
  | .fixed32 _ _ => 4
  | .fixed64 _ _ => 8
  | .lengthDelimited _ value => varintSize32 (.ofNat value.length) + value.length
  | .group number fields => computeUnknownFieldsSize fields + varintSize32 (makeTag number 4)

/-- `WireFormat::ComputeUnknownFieldsSize`. -/
def computeUnknownFieldsSize : UnknownFieldSet → Nat
  | [] => 0
  | f :: fields => varintSize32 f.tag + f.byteSize + computeUnknownFieldsSize fields

end

/-! ## Numbers, as they are meant -/

private theorem setWidth_ofNat {n : Nat} (h : n < 2 ^ 32) :
    (BitVec.ofNat 32 n).setWidth 64 = .ofNat 64 n := by
  apply BitVec.eq_of_toNat_eq
  rw [BitVec.toNat_setWidth, BitVec.toNat_ofNat, BitVec.toNat_ofNat, Nat.mod_eq_of_lt h]

theorem varintParse_eq : varintParse = (Base128.decode 10).map UInt64.ofNat := by
  funext p
  cases p with
  | nil => rfl
  | cons b p =>
    have hb := b.toNat_lt
    rw [varintParse.eq_def, Reader.map_apply]
    dsimp only
    by_cases hfirst : b.toNat < 128
    · rw [if_pos hfirst, Base128.decode_cons_of_lt hfirst, setWidth_ofNat (by omega)]
      rfl
    rw [if_neg hfirst, Base128.decode_cons_of_ge hfirst]
    cases p with
    | nil => rfl
    | cons byte p =>
      have hbyte := byte.toNat_lt
      -- the first two bytes need no more than 32 bits
      have hadd : BitVec.ofNat 32 b.toNat + ((BitVec.ofNat 32 byte.toNat - 1) <<< 7) =
          .ofNat 32 (b.toNat - 128 + 128 * byte.toNat) := by
        have h := @Base128.add_digit 32 1 (b.toNat - 128) byte.toNat
        rwa [show b.toNat - 128 + 128 ^ 1 = b.toNat by omega] at h
      dsimp only
      rw [hadd, setWidth_ofNat (by omega)]
      by_cases hsecond : byte.toNat < 128
      · rw [if_pos hsecond, Base128.decode_cons_of_lt hsecond]
        rfl
      have hsplit := @Base128.split_digit byte.toNat (Nat.le_of_not_lt hsecond) 1 (b.toNat - 128)
      rw [if_neg hsecond, Base128.decode_cons_of_ge hsecond,
        show 128 * byte.toNat = 128 ^ 1 * byte.toNat from rfl, hsplit, Reader.map_apply,
        Base128.accumulate_eq, Option.map_map, Option.map_map, Option.map_map]
      refine congrFun (congrArg _ (funext fun ⟨m, q⟩ => ?_)) _
      show (UInt64.ofNat _, q) = (UInt64.ofNat _, q)
      rw [show b.toNat - 128 + 128 ^ 1 * (byte.toNat - 128) + 128 ^ (1 + 1) * m =
        b.toNat - 128 + 128 * (byte.toNat - 128 + 128 * m) by omega]

theorem readTag_eq : readTag = (Base128.decode 5).map UInt32.ofNat := by
  funext p
  cases p with
  | nil => rfl
  | cons b p =>
    rw [readTag, Reader.map_apply, Reader.map_apply]
    by_cases hfirst : b.toNat < 128
    · rw [if_pos hfirst, Base128.decode_cons_of_lt hfirst]
      rfl
    have h := @Base128.accumulate_eq 32 4 1 (b.toNat - 128) p
    rw [show b.toNat - 128 + 128 ^ 1 = b.toNat by omega] at h
    rw [if_neg hfirst, Base128.decode_cons_of_ge hfirst, h, Option.map_map, Option.map_map]
    rfl

/-- The sizes that are not refused. -/
def checkSize (n : Nat) : Option Nat := if n ≤ maxSize then some n else none

theorem readSizeFallback_eq {k i n : Nat} (hk : i + k = 4) (hn : n < 128 ^ i) (p : List UInt8) :
    readSizeFallback k i (.ofNat 32 (n + 128 ^ i)) p =
      (Base128.decode (k + 1)).mapM (fun m => checkSize (n + 128 ^ i * m)) p := by
  have hmax : maxSize = 2147483631 := rfl
  induction k generalizing i n p with
  | zero =>
    obtain rfl : i = 4 := hk
    cases p with
    | nil => rfl
    | cons byte p =>
      rw [readSizeFallback, Base128.add_digit, Reader.mapM_apply]
      by_cases hbyte : 8 ≤ byte.toNat
      · rw [if_pos hbyte]
        by_cases hlast : byte.toNat < 128
        · rw [Base128.decode_cons_of_lt hlast, Option.bind_some]
          show none = (checkSize (n + 128 ^ 4 * byte.toNat)).map _
          rw [checkSize, if_neg (by omega)]
          rfl
        · rw [Base128.decode_cons_of_ge hlast]
          rfl
      · have hexact : (BitVec.ofNat 32 (n + 128 ^ 4 * byte.toNat)).toNat =
            n + 128 ^ 4 * byte.toNat := by
          rw [BitVec.toNat_ofNat, Nat.mod_eq_of_lt (by omega)]
        rw [if_neg hbyte, Base128.decode_cons_of_lt (by omega)]
        dsimp only
        rw [hexact, Option.bind_some, checkSize]
        by_cases hle : n + 128 ^ 4 * byte.toNat ≤ maxSize
        · rw [if_neg (Nat.not_lt_of_le hle), if_pos hle]
          rfl
        · rw [if_pos (Nat.lt_of_not_le hle), if_neg hle]
          rfl
  | succ k ih =>
    cases p with
    | nil => rfl
    | cons byte p =>
      have hpow : 128 ^ (i + 1) ≤ 128 ^ 4 := Nat.pow_le_pow_right (by decide) (by omega)
      have hsucc : 128 ^ (i + 1) = 128 ^ i * 128 := pow_succ 128 i
      rw [readSizeFallback, Base128.add_digit, Reader.mapM_apply]
      by_cases hbyte : byte.toNat < 128
      · have hlt : n + 128 ^ i * byte.toNat < 128 ^ (i + 1) := by
          have hmul := Nat.mul_le_mul_left (128 ^ i) (Nat.le_sub_one_of_lt hbyte)
          omega
        rw [if_pos hbyte, Base128.decode_cons_of_lt hbyte, BitVec.toNat_ofNat,
          Nat.mod_eq_of_lt (by omega), Option.bind_some, checkSize,
          if_pos (show n + 128 ^ i * byte.toNat ≤ maxSize by omega)]
        rfl
      · have hlt : n + 128 ^ i * (byte.toNat - 128) < 128 ^ (i + 1) := by
          have hb := byte.toNat_lt
          have hmul := Nat.mul_le_mul_left (128 ^ i) (show byte.toNat - 128 ≤ 127 by omega)
          omega
        rw [if_neg hbyte, Base128.decode_cons_of_ge hbyte,
          Base128.split_digit (Nat.le_of_not_lt hbyte), ih (by omega) hlt, Reader.mapM_apply,
          Option.bind_map]
        refine congrArg _ (funext fun mq => ?_)
        have hdigits : n + 128 ^ i * (byte.toNat - 128) + 128 ^ (i + 1) * mq.1 =
            n + 128 ^ i * (byte.toNat - 128 + 128 * mq.1) := by
          rw [hsucc]
          ring
        rw [hdigits, Function.comp_apply, Prod.map_fst, Prod.map_snd, id_eq]

theorem readSize_eq : readSize = (Base128.decode 5).mapM checkSize := by
  funext p
  cases p with
  | nil => rfl
  | cons b p =>
    have hb := b.toNat_lt
    have hmax : maxSize = 2147483631 := rfl
    rw [readSize, Reader.mapM_apply]
    by_cases hfirst : b.toNat < 128
    · rw [if_pos hfirst, Base128.decode_cons_of_lt hfirst, BitVec.toNat_ofNat,
        Nat.mod_eq_of_lt (by omega), Option.bind_some, checkSize,
        if_pos (show b.toNat ≤ maxSize by omega)]
      rfl
    · have h := @readSizeFallback_eq 3 1 (b.toNat - 128) rfl (by omega) p
      rw [show b.toNat - 128 + 128 ^ 1 = b.toNat by omega] at h
      rw [if_neg hfirst, Base128.decode_cons_of_ge hfirst, h, Reader.mapM_apply, Option.bind_map]
      rfl

theorem local_varintParse : varintParse.Local := by
  rw [varintParse_eq]
  exact (Base128.local_decode 10).map _

theorem local_readTag : readTag.Local := by
  rw [readTag_eq]
  exact (Base128.local_decode 5).map _

theorem local_readSize : readSize.Local := by
  rw [readSize_eq]
  exact (Base128.local_decode 5).mapM _

theorem consumes_readTag : readTag.Consumes := by
  intro p tag r h
  rw [readTag_eq] at h
  obtain ⟨n, hn, -⟩ := Reader.map_eq_some.mp h
  exact Base128.consumes_decode 5 hn

/-! ## What was written -/

theorem log2_or_one (n : Nat) : Nat.log2 (n ||| 1) = Nat.log2 n := by
  by_cases hn : n = 0
  · subst hn
    rfl
  have hhigh := (Nat.log2_eq_iff hn).mp rfl
  have hor : n ≤ n ||| 1 := Nat.left_le_or
  refine (Nat.log2_eq_iff (by omega)).mpr ⟨Nat.le_trans hhigh.1 hor, ?_⟩
  exact Nat.or_lt_two_pow hhigh.2 (Nat.one_lt_two_pow (Nat.succ_ne_zero _))

/-- **The size without writing**: multiplying by 9 and dividing by 64 divides by 7, as far
as 64 bits go. -/
theorem varintSize_eq {k n : Nat} (h64 : n < 2 ^ 64) (hk : n < 128 ^ (k + 1)) :
    varintSize n = (Base128.encode k n).length := by
  have hlog : n.log2 < 64 := by
    by_cases hn : n = 0
    · subst hn
      decide
    · exact (Nat.log2_lt hn).mpr h64
  unfold varintSize
  rw [log2_or_one, Base128.length_encode hk, Base128.log_eq_log2_div]
  omega

theorem varintSize32_eq (value : UInt32) : varintSize32 value = (writeVarint32 value).length :=
  varintSize_eq (Nat.lt_trans value.toNat_lt (by decide))
    (Nat.lt_trans value.toNat_lt (by decide))

theorem varintSize64_eq (value : UInt64) : varintSize64 value = (writeVarint64 value).length :=
  varintSize_eq value.toNat_lt (Nat.lt_trans value.toNat_lt (by decide))

theorem varintParse_writeVarint64 (value : UInt64) (q : List UInt8) :
    varintParse (writeVarint64 value ++ q) = some (value, q) := by
  rw [varintParse_eq]
  refine Reader.map_eq_some.mpr ⟨value.toNat, ?_, UInt64.ofNat_toNat⟩
  exact Base128.decode_encode (Nat.lt_trans value.toNat_lt (by decide)) q

theorem readTag_writeVarint32 (tag : UInt32) (q : List UInt8) :
    readTag (writeVarint32 tag ++ q) = some (tag, q) := by
  rw [readTag_eq]
  refine Reader.map_eq_some.mpr ⟨tag.toNat, ?_, UInt32.ofNat_toNat⟩
  exact Base128.decode_encode (Nat.lt_trans tag.toNat_lt (by decide)) q

theorem readSize_writeVarint32 {n : Nat} (hn : n ≤ maxSize) (q : List UInt8) :
    readSize (writeVarint32 (.ofNat n) ++ q) = some (n, q) := by
  have hmax : maxSize = 2147483631 := rfl
  have hexact : (UInt32.ofNat n).toNat = n := by
    rw [UInt32.toNat_ofNat', Nat.mod_eq_of_lt (by omega)]
  unfold writeVarint32
  rw [readSize_eq, hexact]
  exact Reader.mapM_eq_some.mpr ⟨n, Base128.decode_encode (by omega) q, if_pos hn⟩

@[simp] theorem length_toLe (k n : Nat) : (toLe k n).length = k := by
  induction k generalizing n with
  | zero => rfl
  | succ k ih => exact congrArg Nat.succ (ih (n / 256))

theorem fromLe_toLe (k n : Nat) : fromLe (toLe k n) = n % 256 ^ k := by
  induction k generalizing n with
  | zero => exact (Nat.mod_one n).symm
  | succ k ih =>
    show (UInt8.ofNat n).toNat + 256 * fromLe (toLe k (n / 256)) = _
    rw [ih, UInt8.toNat_ofNat', pow_succ' 256 k]
    exact (Nat.mod_mul).symm

theorem toNat_and_seven (tag : UInt32) : (tag &&& 7).toNat = tag.toNat % 8 := by
  rw [UInt32.toNat_and]
  exact Nat.and_two_pow_sub_one_eq_mod tag.toNat 3

theorem toNat_number (tag : UInt32) : (tag >>> 3).toNat = tag.toNat / 8 :=
  Nat.shiftRight_eq_div_pow ..

/-- The numbers that a tag has room for. -/
def IsNumber (number : UInt32) : Prop := number ≠ 0 ∧ number.toNat < 2 ^ 29

instance (number : UInt32) : Decidable (IsNumber number) := instDecidableAnd

theorem isNumber_of_tag {tag : UInt32} (h : tag >>> 3 ≠ 0) : IsNumber (tag >>> 3) := by
  have hlt := tag.toNat_lt
  refine ⟨h, ?_⟩
  rw [toNat_number]
  omega

theorem toNat_makeTag {number type : UInt32} (hnumber : number.toNat < 2 ^ 29)
    (htype : type.toNat < 2 ^ 3) :
    (makeTag number type).toNat = number.toNat * 2 ^ 3 + type.toNat := by
  have hshift : (number <<< 3).toNat = number.toNat <<< 3 := by
    show number.toNat <<< 3 % 2 ^ 32 = _
    rw [Nat.shiftLeft_eq]
    omega
  unfold makeTag
  rw [UInt32.toNat_or, hshift, ← Nat.shiftLeft_add_eq_or_of_lt htype, Nat.shiftLeft_eq]

/-- A tag is its number and its type. -/
theorem makeTag_eq {tag type : UInt32} (h : tag &&& 7 = type) :
    makeTag (tag >>> 3) type = tag := by
  have hlt := tag.toNat_lt
  have htype : type.toNat = tag.toNat % 8 := by rw [← h, toNat_and_seven]
  apply UInt32.toNat_inj.mp
  rw [toNat_makeTag (by rw [toNat_number]; omega) (by omega), toNat_number]
  omega

theorem makeTag_number {number type : UInt32} (hnumber : number.toNat < 2 ^ 29)
    (htype : type.toNat < 2 ^ 3) : makeTag number type >>> 3 = number := by
  apply UInt32.toNat_inj.mp
  rw [toNat_number, toNat_makeTag hnumber htype]
  omega

theorem makeTag_type {number type : UInt32} (hnumber : number.toNat < 2 ^ 29)
    (htype : type.toNat < 2 ^ 3) : makeTag number type &&& 7 = type := by
  apply UInt32.toNat_inj.mp
  rw [toNat_and_seven, toNat_makeTag hnumber htype]
  omega

end S1Client.WireFormat
