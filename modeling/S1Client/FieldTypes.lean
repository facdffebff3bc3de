import S1Client.UnknownFields

/-!
# The types of fields

The format that the messages are records of, and the types their fields have: `uint64`,
`bool`, an enumeration, `float` by its bits, `string`, a message and a repeated
message.  A value that was written reads back; only a `string` that is not UTF-8 does
not, which the writer just logs.
-/
namespace S1Client.WireFormat
open Tagged

/-! ## The format -/

/-- Tags, sizes and unknown fields of the wire format.  Generated code has the size of a
tag as a constant, which is 1 for all of them. -/
def wireFormat : Format UInt8 UInt32 UnknownField where
  readTag := readTag
  writeTag := writeVarint32
  tagSize := varintSize32
  readLength := readSize
  writeLength n := writeVarint32 (.ofNat n)
  lengthSize n := varintSize32 (.ofNat n)
  maxLength := maxSize
  keep := unknownFieldParse
  keptTag := UnknownField.tag
  keptBody := UnknownField.serialize
  keptSize := UnknownField.byteSize
  local_readTag := local_readTag
  consumes_readTag := consumes_readTag
  readTag_writeTag := readTag_writeVarint32
  length_writeTag tag := (varintSize32_eq tag).symm
  local_readLength := local_readSize
  readLength_writeLength q hn := readSize_writeVarint32 hn q
  length_writeLength n := (varintSize32_eq (.ofNat n)).symm
  local_keep := local_unknownFieldParse
  keptTag_of_keep := by
    intro depth tag p value r h
    obtain ⟨body, -, hbody⟩ := unknownFieldParse_iff.mp h
    exact hbody.tag_eq
  whole_keptBody := by
    intro depth tag p value r h
    obtain ⟨body, -, hbody⟩ := unknownFieldParse_iff.mp h
    exact whole_unknownFieldParse.mpr hbody.serialize
  length_keptBody := UnknownField.length_serialize

theorem whole_skip {d : Nat} {tag : UInt32} {body : List UInt8} :
    (wireFormat.skip d tag).whole body = some () ↔ ∃ value, ParsesTo d tag body value :=
  Format.whole_skip.trans (exists_congr fun _ => whole_unknownFieldParse)

/-- What a message keeps is written by `InternalSerializeUnknownFieldsToArray`. -/
theorem flatMap_kept (set : UnknownFieldSet) :
    (set.flatMap fun f => wireFormat.writeTag (wireFormat.keptTag f) ++ wireFormat.keptBody f) =
      internalSerializeUnknownFields set := by
  induction set with
  | nil => rfl
  | cons f set ih =>
    rw [List.flatMap_cons, ih, internalSerializeUnknownFields]
    rfl

theorem sum_kept (set : UnknownFieldSet) :
    (set.map fun f => wireFormat.tagSize (wireFormat.keptTag f) + wireFormat.keptSize f).sum =
      computeUnknownFieldsSize set := by
  induction set with
  | nil => rfl
  | cons f set ih =>
    rw [List.map_cons, List.sum_cons, ih, computeUnknownFieldsSize]
    rfl

/-- The wire type of a tag, with a field number. -/
def HasType (type : UInt32) (tag : UInt32) : Prop := tag >>> 3 ≠ 0 ∧ tag &&& 7 = type

instance (type tag : UInt32) : Decidable (HasType type tag) := instDecidableAnd

theorem delimits_of_hasType {tag : UInt32} (h : HasType 2 tag) : wireFormat.Delimits tag := by
  intro d p body r hbody
  obtain ⟨used, rfl, hused⟩ := wireFormat.local_delimited.exists_whole hbody
  exact Format.skip_of_keep
    (unknownFieldParse_iff.mpr ⟨used, rfl, .lengthDelimited h.1 h.2 hused⟩)

/-- What a reader consumes is skipped, if all it consumes is in the grammar. -/
theorem skip_of_local {V : Type} {read : Reader UInt8 V} (hlocal : read.Local) {d : Nat}
    {tag : UInt32}
    (h : ∀ {body v}, read.whole body = some v → ∃ value, ParsesTo d tag body value)
    {p r : List UInt8} {v : V} (hread : read p = some (v, r)) :
    wireFormat.skip d tag p = some ((), r) := by
  obtain ⟨body, rfl, hbody⟩ := hlocal.exists_whole hread
  obtain ⟨value, hvalue⟩ := h hbody
  exact Format.skip_of_keep (unknownFieldParse_iff.mpr ⟨body, rfl, hvalue⟩)

/-! ## Numbers -/

/-- A type whose values are kept as a `uint64`. -/
def varintScalar {V : Type} (zero : V) (ofVarint : UInt64 → V) (toVarint : V → UInt64)
    (size : V → Nat) (hsize : ∀ v, size v = (writeVarint64 (toVarint v)).length)
    (hinv : ∀ v, ofVarint (toVarint v) = v) : Scalar wireFormat V where
  zero := zero
  Fits := HasType 0
  read := varintParse.map ofVarint
  write v := writeVarint64 (toVarint v)
  size := size
  valid _ := true
  local_read := local_varintParse.map ofVarint
  skip_of_read := by
    intro d tag p v r hfits hread
    refine skip_of_local (local_varintParse.map ofVarint) (fun {body v} hbody => ?_) hread
    rw [Reader.whole_map] at hbody
    obtain ⟨value, hvalue, -⟩ := Option.map_eq_some_iff.mp hbody
    exact ⟨_, .varint hfits.1 hfits.2 hvalue⟩
  skip_write := by
    intro d tag v hfits _
    have hwhole := varintParse_writeVarint64 (toVarint v) []
    rw [List.append_nil] at hwhole
    exact whole_skip.mpr ⟨_, .varint hfits.1 hfits.2 (Reader.whole_eq_some.mpr hwhole)⟩
  whole_write := by
    intro v _
    have hwhole := varintParse_writeVarint64 (toVarint v) []
    rw [List.append_nil] at hwhole
    rw [Reader.whole_map, Reader.whole_eq_some.mpr hwhole, Option.map_some, hinv, if_pos rfl]
  size_eq := hsize
  valid_zero := rfl
  valid_of_read _ := rfl

/-- `uint64`. -/
def uint64 : Codec wireFormat UInt64 :=
  .scalar (varintScalar 0 id id varintSize64 varintSize64_eq fun _ => rfl)

/-- `bool`: any number but 0 is true. -/
def bool : Codec wireFormat Bool :=
  .scalar (varintScalar false (· ≠ 0) (fun b => if b then 1 else 0) (fun _ => 1)
    (by decide) (by decide))

/-- The low half of a sign extension. -/
theorem toInt32_toInt64 (value : Int32) : value.toInt64.toUInt64.toUInt32.toInt32 = value := by
  apply Int32.toBitVec_inj.mp
  show BitVec.setWidth 32 (BitVec.signExtend 64 value.toBitVec) = value.toBitVec
  ext i hi
  rw [BitVec.getElem_setWidth, BitVec.getLsbD_signExtend, if_pos hi, BitVec.getLsbD_eq_getElem hi]
  simp only [show i < 64 by omega, decide_true, Bool.true_and]

/-- An enumeration: the low 32 bits are kept, and the sign is extended to 64. -/
def enum : Codec wireFormat Int32 :=
  .scalar (varintScalar 0 (fun value => value.toUInt32.toInt32)
    (fun value => value.toInt64.toUInt64) (fun value => varintSize64 value.toInt64.toUInt64)
    (fun value => varintSize64_eq value.toInt64.toUInt64) toInt32_toInt64)

/-! ## Bytes -/

theorem ofNat_fromLe (bits : UInt32) : UInt32.ofNat (fromLe (toLe 4 bits.toNat)) = bits := by
  rw [fromLe_toLe, Nat.mod_eq_of_lt (show bits.toNat < 256 ^ 4 from bits.toNat_lt),
    UInt32.ofNat_toNat]

/-- `float`, by the bits of its representation: generated code compares these with zero. -/
def float : Codec wireFormat UInt32 :=
  .scalar {
    zero := 0
    Fits := HasType 5
    read := (Reader.taking 4).map fun b => .ofNat (fromLe b)
    write bits := toLe 4 bits.toNat
    size _ := 4
    valid _ := true
    local_read := (Reader.local_taking 4).map _
    skip_of_read := by
      intro d tag p v r hfits hread
      refine skip_of_local ((Reader.local_taking 4).map _) (fun {body v} hbody => ?_) hread
      rw [Reader.whole_map] at hbody
      obtain ⟨p, hp, -⟩ := Option.map_eq_some_iff.mp hbody
      obtain ⟨heq, hlen⟩ := Reader.taking_eq_some.mp (Reader.whole_eq_some.mp hp)
      rw [heq, List.append_nil]
      exact ⟨_, .fixed32 hfits.1 hfits.2 hlen⟩
    skip_write := fun hfits _ => whole_skip.mpr ⟨_, .fixed32 hfits.1 hfits.2 rfl⟩
    whole_write := by
      intro bits _
      have hfour : Reader.taking 4 (toLe 4 bits.toNat) = some (toLe 4 bits.toNat, []) := rfl
      rw [Reader.whole_map, Reader.whole_eq_some.mpr hfour, if_pos rfl]
      exact congrArg some (ofNat_fromLe bits)
    size_eq := fun _ => rfl
    valid_zero := rfl
    valid_of_read := fun _ => rfl }

/-- `VerifyUTF8`; it does not matter where the text lies. -/
def verifyUtf8 (s : List UInt8) : Bool := Utf8.isStructurallyValidUTF8 0 s

theorem verifyUtf8_iff (s : List UInt8) :
    verifyUtf8 s = true ↔ ∃ cs : List Char, s = cs.flatMap String.utf8EncodeChar := by
  unfold verifyUtf8
  rw [Utf8.isStructurallyValidUTF8_eq_true, Utf8.run_zero_iff]

/-- `string`.  `VerifyUtf8String` before writing only logs. -/
def string : Codec wireFormat (List UInt8) :=
  .scalar {
    zero := []
    Fits := HasType 2
    read := wireFormat.delimited.mapM fun s => if verifyUtf8 s then some s else none
    write s := wireFormat.writeLength s.length ++ s
    size s := wireFormat.lengthSize s.length + s.length
    valid := verifyUtf8
    local_read := wireFormat.local_delimited.mapM _
    skip_of_read := by
      intro d tag p s r hfits hread
      obtain ⟨body, hbody, -⟩ := Reader.mapM_eq_some.mp hread
      exact delimits_of_hasType hfits hbody
    skip_write := by
      intro d tag s hfits hlen
      rw [List.length_append] at hlen
      exact (delimits_of_hasType hfits).skip_whole (Nat.le_trans (Nat.le_add_left ..) hlen)
    whole_write := by
      intro s hlen
      rw [List.length_append] at hlen
      have hwhole := wireFormat.whole_delimited (Nat.le_trans (Nat.le_add_left ..) hlen)
      rw [Reader.whole_mapM, hwhole]
      rfl
    size_eq := by
      intro s
      rw [List.length_append, wireFormat.length_writeLength]
    valid_zero := by decide
    valid_of_read := by
      intro p s r hread
      obtain ⟨body, -, hbody⟩ := Reader.mapM_eq_some.mp hread
      split at hbody
      · rename_i hvalid
        rwa [← Option.some.inj hbody]
      · cases hbody }

@[simp] theorem uint64_empty : uint64.empty = 0 := rfl

@[simp] theorem bool_empty : bool.empty = false := rfl

@[simp] theorem enum_empty : enum.empty = 0 := rfl

@[simp] theorem float_empty : float.empty = 0 := rfl

@[simp] theorem string_empty : string.empty = [] := rfl

@[simp] theorem uint64_valid (v : UInt64) : uint64.valid v = true := rfl

@[simp] theorem bool_valid (v : Bool) : bool.valid v = true := rfl

@[simp] theorem enum_valid (v : Int32) : enum.valid v = true := rfl

@[simp] theorem float_valid (v : UInt32) : float.valid v = true := rfl

@[simp] theorem string_valid (v : List UInt8) : string.valid v = verifyUtf8 v := rfl

@[simp] theorem uint64_sound (d : Nat) (v : UInt64) : uint64.Sound d v := trivial

@[simp] theorem bool_sound (d : Nat) (v : Bool) : bool.Sound d v := trivial

@[simp] theorem enum_sound (d : Nat) (v : Int32) : enum.Sound d v := trivial

@[simp] theorem float_sound (d : Nat) (v : UInt32) : float.Sound d v := trivial

@[simp] theorem string_sound (d : Nat) (v : List UInt8) : string.Sound d v := trivial

instance (tag : UInt32) : Decidable (uint64.Fits tag) := inferInstanceAs (Decidable (HasType 0 tag))

instance (tag : UInt32) : Decidable (bool.Fits tag) := inferInstanceAs (Decidable (HasType 0 tag))

instance (tag : UInt32) : Decidable (enum.Fits tag) := inferInstanceAs (Decidable (HasType 0 tag))

instance (tag : UInt32) : Decidable (float.Fits tag) := inferInstanceAs (Decidable (HasType 5 tag))

instance (tag : UInt32) : Decidable (string.Fits tag) := inferInstanceAs (Decidable (HasType 2 tag))

end S1Client.WireFormat
