import S1Client.Messages

/-!
# `MessageLite`

What all generated classes do: parse from an array and serialize to one, tell their
size, merge and copy.  The size is exact, and a message whose strings are UTF-8 reads
back as it was written; behind other bytes that parse it is merged into them.  What
bytes parse to does not depend on how the records of different fields interleave, and
fields that are not known stay in the message.
-/
namespace S1Client.Protocol
open Tagged WireFormat

/-- The generated classes. -/
inductive MessageClass where
  | PosInfo | CharacterInfo | ObjectInfo | C_LOGIN | S_LOGIN | C_ENTER_GAME | S_ENTER_GAME
  | C_ENTER_ROOM | S_ENTER_ROOM | C_LEAVE_GAME | S_LEAVE_GAME | S_SPAWN | S_DESPAWN | C_MOVE
  | S_MOVE | C_SHOOT | S_SHOOT | C_REMOVE_BULLET | S_REMOVE_BULLET | C_SCORE | S_SCORE | C_CHAT
  | S_CHAT | C_AI | S_AI
  deriving DecidableEq, Repr

namespace MessageClass

/-- The values of a class. -/
abbrev Carrier : MessageClass → Type
  | PosInfo => Protocol.PosInfo
  | CharacterInfo => Protocol.CharacterInfo
  | ObjectInfo => Protocol.ObjectInfo
  | C_LOGIN => Protocol.C_LOGIN
  | S_LOGIN => Protocol.S_LOGIN
  | C_ENTER_GAME => Protocol.C_ENTER_GAME
  | S_ENTER_GAME => Protocol.S_ENTER_GAME
  | C_ENTER_ROOM => Protocol.C_ENTER_ROOM
  | S_ENTER_ROOM => Protocol.S_ENTER_ROOM
  | C_LEAVE_GAME => Protocol.C_LEAVE_GAME
  | S_LEAVE_GAME => Protocol.S_LEAVE_GAME
  | S_SPAWN => Protocol.S_SPAWN
  | S_DESPAWN => Protocol.S_DESPAWN
  | C_MOVE => Protocol.C_MOVE
  | S_MOVE => Protocol.S_MOVE
  | C_SHOOT => Protocol.C_SHOOT
  | S_SHOOT => Protocol.S_SHOOT
  | C_REMOVE_BULLET => Protocol.C_REMOVE_BULLET
  | S_REMOVE_BULLET => Protocol.S_REMOVE_BULLET
  | C_SCORE => Protocol.C_SCORE
  | S_SCORE => Protocol.S_SCORE
  | C_CHAT => Protocol.C_CHAT
  | S_CHAT => Protocol.S_CHAT
  | C_AI => Protocol.C_AI
  | S_AI => Protocol.S_AI

/-- The fields of a class. -/
def schema : (c : MessageClass) → Schema wireFormat c.Carrier
  | PosInfo => Protocol.PosInfo.schema
  | CharacterInfo => Protocol.CharacterInfo.schema
  | ObjectInfo => Protocol.ObjectInfo.schema
  | C_LOGIN => Protocol.C_LOGIN.schema
  | S_LOGIN => Protocol.S_LOGIN.schema
  | C_ENTER_GAME => Protocol.C_ENTER_GAME.schema
  | S_ENTER_GAME => Protocol.S_ENTER_GAME.schema
  | C_ENTER_ROOM => Protocol.C_ENTER_ROOM.schema
  | S_ENTER_ROOM => Protocol.S_ENTER_ROOM.schema
  | C_LEAVE_GAME => Protocol.C_LEAVE_GAME.schema
  | S_LEAVE_GAME => Protocol.S_LEAVE_GAME.schema
  | S_SPAWN => Protocol.S_SPAWN.schema
  | S_DESPAWN => Protocol.S_DESPAWN.schema
  | C_MOVE => Protocol.C_MOVE.schema
  | S_MOVE => Protocol.S_MOVE.schema
  | C_SHOOT => Protocol.C_SHOOT.schema
  | S_SHOOT => Protocol.S_SHOOT.schema
  | C_REMOVE_BULLET => Protocol.C_REMOVE_BULLET.schema
  | S_REMOVE_BULLET => Protocol.S_REMOVE_BULLET.schema
  | C_SCORE => Protocol.C_SCORE.schema
  | S_SCORE => Protocol.S_SCORE.schema
  | C_CHAT => Protocol.C_CHAT.schema
  | S_CHAT => Protocol.S_CHAT.schema
  | C_AI => Protocol.C_AI.schema
  | S_AI => Protocol.S_AI.schema

/-- `CodedInputStream::GetDefaultRecursionLimit()`. -/
def recursionLimit : Nat := 100

variable (c : MessageClass)

/-- `ParseFromArray`: `Clear`, and then everything is merged in. -/
def parseFromArray (data : List UInt8) : Option c.Carrier :=
  c.schema.parse recursionLimit c.schema.empty data

/-- `ByteSizeLong`. -/
def byteSizeLong (m : c.Carrier) : Nat := c.schema.byteSize m

/-- `_InternalSerialize`. -/
def internalSerialize (m : c.Carrier) : List UInt8 := c.schema.serialize m

/-- `SerializeToArray`: what it writes to an array of a size, if it returns true. -/
def serializeToArray (m : c.Carrier) (size : Nat) : Option (List UInt8) :=
  if 2147483647 < c.byteSizeLong m then none
  else if size < c.byteSizeLong m then none
  else some (c.internalSerialize m)

/-- `MergeFrom`. -/
def mergeFrom (x m : c.Carrier) : c.Carrier := c.schema.mergeFrom x m

/-- `CopyFrom`: `Clear` and `MergeFrom`. -/
def copyFrom (m : c.Carrier) : c.Carrier := c.mergeFrom c.schema.empty m

/-- The tags that a class knows. -/
def tags : List UInt32 := c.schema.fields.map (·.tag)

/-- The `UnknownFieldSet` of a message. -/
def unknownFields (m : c.Carrier) : UnknownFieldSet := c.schema.kept m

/-- `mutable_unknown_fields()->Clear()`. -/
def clearUnknownFields (m : c.Carrier) : c.Carrier := c.schema.withKept m []

/-- The unknown fields of the message, and of those in its fields, are such as parsing adds
(`keeps_iff`). -/
def Sound (m : c.Carrier) : Prop := c.schema.Sound recursionLimit m

/-! ## Strings -/

/-- The names in an `ObjectInfo`. -/
def objectStrings (m : Protocol.ObjectInfo) : List (List UInt8) :=
  (m.playerInfo?.map Protocol.CharacterInfo.name).toList

/-- The values of all `string` fields, nested ones included. -/
def strings : (c : MessageClass) → c.Carrier → List (List UInt8)
  | CharacterInfo, (m : Protocol.CharacterInfo) => [m.name]
  | ObjectInfo, (m : Protocol.ObjectInfo) => objectStrings m
  | C_LOGIN, (m : Protocol.C_LOGIN) => [m.id, m.password]
  | S_LOGIN, (m : Protocol.S_LOGIN) => m.players.flatMap objectStrings
  | C_ENTER_GAME, (m : Protocol.C_ENTER_GAME) => m.selectedCharacter?.toList.flatMap objectStrings
  | S_ENTER_GAME, (m : Protocol.S_ENTER_GAME) => m.player?.toList.flatMap objectStrings
  | C_ENTER_ROOM, (m : Protocol.C_ENTER_ROOM) => m.player?.toList.flatMap objectStrings
  | S_ENTER_ROOM, (m : Protocol.S_ENTER_ROOM) => m.player?.toList.flatMap objectStrings
  | S_SPAWN, (m : Protocol.S_SPAWN) => m.objects.flatMap objectStrings
  | S_DESPAWN, (m : Protocol.S_DESPAWN) => m.objects.flatMap objectStrings
  | C_SHOOT, (m : Protocol.C_SHOOT) => m.object?.toList.flatMap objectStrings
  | S_SHOOT, (m : Protocol.S_SHOOT) => m.object?.toList.flatMap objectStrings
  | C_CHAT, (m : Protocol.C_CHAT) => [m.msg]
  | S_CHAT, (m : Protocol.S_CHAT) => [m.msg]
  | _, _ => []

/-- All strings are encodings of characters. -/
def Utf8 (m : c.Carrier) : Prop :=
  ∀ s ∈ c.strings m, ∃ cs : List Char, s = cs.flatMap String.utf8EncodeChar

variable {c}

@[simp] theorem posInfo_valid (m : Protocol.PosInfo) : Protocol.PosInfo.schema.valid m = true := by
  simp [Schema.valid, Protocol.PosInfo.schema]

@[simp] theorem posInfo?_valid (m? : Option Protocol.PosInfo) :
    m?.all Protocol.PosInfo.schema.valid = true := by
  cases m? with
  | none => rfl
  | some m => exact posInfo_valid m

@[simp] theorem characterInfo_valid (m : Protocol.CharacterInfo) :
    Protocol.CharacterInfo.schema.valid m = verifyUtf8 m.name := by
  simp [Schema.valid, Protocol.CharacterInfo.schema]

theorem objectInfo_valid (m : Protocol.ObjectInfo) :
    Protocol.ObjectInfo.schema.valid m = (objectStrings m).all verifyUtf8 := by
  have hplayer : m.playerInfo?.all Protocol.CharacterInfo.schema.valid =
      (objectStrings m).all verifyUtf8 := by
    unfold objectStrings
    cases m.playerInfo? with
    | none => rfl
    | some info => simp
  simp only [Schema.valid, Protocol.ObjectInfo.schema, List.all_cons, List.all_nil]
  simp [hplayer]

@[simp] theorem objectInfo?_valid (m? : Option Protocol.ObjectInfo) :
    m?.all Protocol.ObjectInfo.schema.valid =
      (m?.toList.flatMap objectStrings).all verifyUtf8 := by
  cases m? with
  | none => rfl
  | some m => simp [objectInfo_valid]

@[simp] theorem objectInfos_valid (ms : List Protocol.ObjectInfo) :
    ms.all Protocol.ObjectInfo.schema.valid = (ms.flatMap objectStrings).all verifyUtf8 := by
  induction ms with
  | nil => rfl
  | cons m ms ih =>
    simp only [List.all_cons, List.flatMap_cons, List.all_append, ih, objectInfo_valid]

theorem valid_eq (m : c.Carrier) : c.schema.valid m = (c.strings m).all verifyUtf8 := by
  cases c with
  | PosInfo => exact posInfo_valid m
  | CharacterInfo => simp [schema, strings]
  | ObjectInfo => exact objectInfo_valid m
  | C_LOGIN => simp [schema, Schema.valid, Protocol.C_LOGIN.schema, strings]
  | S_LOGIN => simp [schema, Schema.valid, Protocol.S_LOGIN.schema, strings]
  | C_ENTER_GAME => simp [schema, Schema.valid, Protocol.C_ENTER_GAME.schema, strings]
  | S_ENTER_GAME => simp [schema, Schema.valid, Protocol.S_ENTER_GAME.schema, strings]
  | C_ENTER_ROOM => simp [schema, Schema.valid, Protocol.C_ENTER_ROOM.schema, strings]
  | S_ENTER_ROOM => simp [schema, Schema.valid, Protocol.S_ENTER_ROOM.schema, strings]
  | C_LEAVE_GAME => simp [schema, Schema.valid, Protocol.C_LEAVE_GAME.schema, strings]
  | S_LEAVE_GAME => simp [schema, Schema.valid, Protocol.S_LEAVE_GAME.schema, strings]
  | S_SPAWN => simp [schema, Schema.valid, Protocol.S_SPAWN.schema, strings]
  | S_DESPAWN => simp [schema, Schema.valid, Protocol.S_DESPAWN.schema, strings]
  | C_MOVE => simp [schema, Schema.valid, Protocol.C_MOVE.schema, strings]
  | S_MOVE => simp [schema, Schema.valid, Protocol.S_MOVE.schema, strings]
  | C_SHOOT => simp [schema, Schema.valid, Protocol.C_SHOOT.schema, strings]
  | S_SHOOT => simp [schema, Schema.valid, Protocol.S_SHOOT.schema, strings]
  | C_REMOVE_BULLET => simp [schema, Schema.valid, Protocol.C_REMOVE_BULLET.schema, strings]
  | S_REMOVE_BULLET => simp [schema, Schema.valid, Protocol.S_REMOVE_BULLET.schema, strings]
  | C_SCORE => simp [schema, Schema.valid, Protocol.C_SCORE.schema, strings]
  | S_SCORE => simp [schema, Schema.valid, Protocol.S_SCORE.schema, strings]
  | C_CHAT => simp [schema, Schema.valid, Protocol.C_CHAT.schema, strings]
  | S_CHAT => simp [schema, Schema.valid, Protocol.S_CHAT.schema, strings]
  | C_AI => simp [schema, Schema.valid, Protocol.C_AI.schema, strings]
  | S_AI => simp [schema, Schema.valid, Protocol.S_AI.schema, strings]

/-- What can be read back is a message whose strings are texts. -/
theorem valid_iff {m : c.Carrier} : c.schema.valid m = true ↔ c.Utf8 m := by
  rw [valid_eq, List.all_eq_true]
  exact forall₂_congr fun s _ => verifyUtf8_iff s

/-! ## The generated switch -/

/-- The `tag >> 3` of a generated `switch`. -/
def fieldNumber (tag : UInt32) : UInt32 := tag >>> 3

/-- The case of `_InternalParse` for a tag.  It compares the low byte with that of its field. -/
def switchField (c : MessageClass) (tag : UInt32) : Option (Field wireFormat c.Carrier) :=
  (c.schema.fields.find? fun f => fieldNumber f.tag = fieldNumber tag).filter fun f =>
    f.tag.toUInt8 = tag.toUInt8

/-- The number and the low byte have all bits between them. -/
theorem tag_eq_of_switch {tag tag' : UInt32} (hnumber : fieldNumber tag = fieldNumber tag')
    (hlow : tag.toUInt8 = tag'.toUInt8) : tag = tag' := by
  have hnumber : tag.toNat >>> 3 = tag'.toNat >>> 3 := congrArg UInt32.toNat hnumber
  have hlow : tag.toNat % 256 = tag'.toNat % 256 := congrArg UInt8.toNat hlow
  rw [Nat.shiftRight_eq_div_pow, Nat.shiftRight_eq_div_pow] at hnumber
  apply UInt32.toNat_inj.mp
  omega

theorem nodup_fieldNumbers (c : MessageClass) :
    (c.schema.fields.map fun f => fieldNumber f.tag).Nodup := by
  cases c <;> decide

/-- **The switch finds the field with the tag**, as no two fields have one number. -/
theorem switchField_eq (c : MessageClass) (tag : UInt32) :
    c.switchField tag = c.schema.find? tag := by
  have hnodup := c.nodup_fieldNumbers
  unfold switchField Schema.find?
  generalize c.schema.fields = fields at hnodup ⊢
  induction fields with
  | nil => rfl
  | cons f fields ih =>
    obtain ⟨hf, hfields⟩ := List.nodup_cons.mp hnodup
    by_cases hnumber : fieldNumber f.tag = fieldNumber tag
    · rw [List.find?_cons_of_pos (by simpa using hnumber)]
      by_cases hlow : f.tag.toUInt8 = tag.toUInt8
      · have htag := tag_eq_of_switch hnumber hlow
        rw [List.find?_cons_of_pos (by simpa using htag),
          Option.filter_some_pos (by simpa using hlow)]
      · -- no other field has the number, so none has the tag
        rw [Option.filter_some_neg (by simpa using hlow)]
        refine (List.find?_eq_none.mpr fun g hg htag => ?_).symm
        have htag : g.tag = tag := by simpa using htag
        rcases List.mem_cons.mp hg with rfl | hg
        · exact hlow (congrArg UInt32.toUInt8 htag)
        · have hsame : fieldNumber g.tag = fieldNumber f.tag := by rw [htag, hnumber]
          exact hf (List.mem_map.mpr ⟨g, hg, hsame⟩)
    · have htag : f.tag ≠ tag := fun htag => hnumber (congrArg fieldNumber htag)
      rw [List.find?_cons_of_neg (by simpa using hnumber),
        List.find?_cons_of_neg (by simpa using htag), ih hfields]

/-! ## Unknown fields -/

/-- `_InternalSerialize` writes the fields, and behind them what `_internal_metadata_` has. -/
theorem internalSerialize_eq (m : c.Carrier) :
    c.internalSerialize m =
      (c.schema.fields.flatMap fun f =>
        (f.codec.write (f.get m)).flatMap (writeVarint32 f.tag ++ ·)) ++
      internalSerializeUnknownFields (c.unknownFields m) :=
  congrArg (_ ++ ·) (flatMap_kept _)

/-- What is asked of an unknown field: the class does not know its tag, and parsing may add
it. -/
theorem keeps_iff {depth : Nat} {f : UnknownField} :
    c.schema.Keeps depth f ↔ f.tag ∉ c.tags ∧ f.Proper depth := by
  refine and_congr ?_ ⟨fun h => ?_, fun h => whole_unknownFieldParse.mpr h.parsesTo⟩
  · unfold tags
    rw [List.mem_map, not_exists]
    exact forall_congr' fun g => not_and.symm
  · exact (whole_unknownFieldParse.mp h).proper

theorem keeps_mono {d e : Nat} {f : UnknownField} (h : c.schema.Keeps d f) (hde : d ≤ e) :
    c.schema.Keeps e f :=
  keeps_iff.mpr ⟨(keeps_iff.mp h).1, (keeps_iff.mp h).2.mono hde⟩

/-! ## Reading back -/

/-- No class comes near the limit by itself. -/
theorem depth_le (c : MessageClass) : c.schema.depth ≤ recursionLimit := by
  cases c <;> decide

/-- A message that is parsed behind other bytes. -/
theorem parse_internalSerialize (x : c.Carrier) {m : c.Carrier} (hsound : c.Sound m)
    (hm : c.byteSizeLong m ≤ maxSize) (h : c.Utf8 m) :
    c.schema.parse recursionLimit x (c.internalSerialize m) = some (c.mergeFrom x m) := by
  have hparse := c.schema.parse_serialize x c.depth_le hsound hm
  rwa [if_pos (valid_iff.mpr h)] at hparse

theorem parse_internalSerialize_none (x : c.Carrier) {m : c.Carrier} (hsound : c.Sound m)
    (hm : c.byteSizeLong m ≤ maxSize) (h : ¬c.Utf8 m) :
    c.schema.parse recursionLimit x (c.internalSerialize m) = none := by
  have hparse := c.schema.parse_serialize x c.depth_le hsound hm
  rwa [if_neg fun hvalid => h (valid_iff.mp hvalid)] at hparse

theorem parseFromArray_internalSerialize {m : c.Carrier} (hsound : c.Sound m)
    (hm : c.byteSizeLong m ≤ maxSize) (h : c.Utf8 m) :
    c.parseFromArray (c.internalSerialize m) = some m :=
  (parse_internalSerialize _ hsound hm h).trans (congrArg some (Schema.empty_mergeFrom m))

/-- What was parsed has strings that are texts. -/
theorem utf8_of_parseFromArray {data : List UInt8} {m : c.Carrier}
    (h : c.parseFromArray data = some m) : c.Utf8 m :=
  valid_iff.mp (Schema.valid_of_parse Schema.valid_empty h)

/-- What was added to an `UnknownFieldSet` can be read again. -/
theorem sound_of_parseFromArray {data : List UInt8} {m : c.Carrier}
    (h : c.parseFromArray data = some m) : c.Sound m :=
  Schema.sound_of_parse Schema.sound_empty h

/-- **Round trip.**  A message reads back from its bytes if all its strings are UTF-8, and
its bytes are refused if one is not: serializing checked nothing. -/
theorem round_trip {m : c.Carrier} (hsound : c.Sound m) (hm : c.byteSizeLong m ≤ maxSize) :
    (c.Utf8 m → c.parseFromArray (c.internalSerialize m) = some m) ∧
      (¬c.Utf8 m → c.parseFromArray (c.internalSerialize m) = none) :=
  ⟨parseFromArray_internalSerialize hsound hm, parse_internalSerialize_none _ hsound hm⟩

/-- A login whose id is `é` in UTF-8, with an unknown field, and one with `é` in Latin-1. -/
theorem round_trip_login :
    parseFromArray C_LOGIN (internalSerialize C_LOGIN ⟨[0xC3, 0xA9], [], [.varint 7 5]⟩) =
        some ⟨[0xC3, 0xA9], [], [.varint 7 5]⟩ ∧
      parseFromArray C_LOGIN (internalSerialize C_LOGIN ⟨[0xE9], [], []⟩) = none := by
  have hsound : Sound C_LOGIN ⟨[0xC3, 0xA9], [], [.varint 7 5]⟩ := by
    refine ⟨by simp [schema, Protocol.C_LOGIN.schema], fun k hk => ?_⟩
    obtain rfl := List.mem_singleton.mp hk
    exact keeps_iff.mpr ⟨by decide, .varint (by decide)⟩
  have hsound' : Sound C_LOGIN ⟨[0xE9], [], []⟩ :=
    Schema.sound_of_kept_nil (by simp [schema, Protocol.C_LOGIN.schema]) rfl
  refine ⟨(round_trip (c := C_LOGIN) hsound (by decide)).1 ?_,
    (round_trip (c := C_LOGIN) hsound' (by decide)).2 ?_⟩
  · exact valid_iff.mp (by decide)
  · intro h
    exact absurd (valid_iff.mpr h) (by decide)

/-- **The size is exact**, so `SerializeToArray` fills an array of that size, and refuses a
smaller one. -/
theorem serializeToArray_eq_some {m : c.Carrier} {size : Nat} {data : List UInt8} :
    c.serializeToArray m size = some data ↔
      data = c.internalSerialize m ∧ data.length = c.byteSizeLong m ∧
        data.length ≤ 2147483647 ∧ data.length ≤ size := by
  have hlen : (c.internalSerialize m).length = c.byteSizeLong m := c.schema.length_serialize m
  unfold serializeToArray
  constructor
  · intro h
    split at h
    · cases h
    split at h
    · cases h
    · obtain rfl := Option.some.inj h
      exact ⟨rfl, hlen, by omega, by omega⟩
  · rintro ⟨rfl, -, hmax, hsize⟩
    rw [if_neg (by omega), if_neg (by omega)]

/-- **Concatenation is merging.**  Behind bytes that parse, the bytes of a message have the
effect of `MergeFrom`. -/
theorem parseFromArray_append {data : List UInt8} {x m : c.Carrier}
    (hdata : c.parseFromArray data = some x) (hsound : c.Sound m)
    (hm : c.byteSizeLong m ≤ maxSize) (h : c.Utf8 m) :
    c.parseFromArray (data ++ c.internalSerialize m) = some (c.mergeFrom x m) :=
  (Schema.parse_append hdata _).trans (parse_internalSerialize x hsound hm h)

/-- A player id, and a text behind it. -/
theorem parseFromArray_append_chat :
    S_CHAT.parseFromArray [8, 5, 18, 1, 104] = some ⟨5, [104], []⟩ := by
  have hid : S_CHAT.parseFromArray [8, 5] = some ⟨5, [], []⟩ := rfl
  have hsound : S_CHAT.Sound ⟨0, [104], []⟩ :=
    Schema.sound_of_kept_nil (by simp [schema, Protocol.S_CHAT.schema]) rfl
  have hmsg : S_CHAT.Utf8 ⟨0, [104], []⟩ := valid_iff.mp (by decide)
  exact parseFromArray_append hid hsound (by decide) hmsg

/-- **`CopyFrom` is exact**, and messages of a class are a monoid under `MergeFrom`, with
the default instance for neutral element. -/
theorem mergeFrom_monoid (c : MessageClass) :
    (∀ m : c.Carrier, c.copyFrom m = m) ∧
      (∀ m : c.Carrier, c.mergeFrom m c.schema.empty = m) ∧
      ∀ l m n : c.Carrier, c.mergeFrom (c.mergeFrom l m) n = c.mergeFrom l (c.mergeFrom m n) :=
  ⟨Schema.empty_mergeFrom, Schema.mergeFrom_empty, Schema.mergeFrom_assoc⟩

/-! ## Field by field -/

/-- Fields with a tag and a body behind it, known or not. -/
def WellFormed (fields : List RawField) : Prop :=
  (∀ f ∈ fields, readTag.whole f.tagBytes = some f.tag) ∧
    ∀ f ∈ fields, ParsesTo recursionLimit f.tag f.body f.value

/-- Those of the fields that a class does not know. -/
def unknownOf (c : MessageClass) (fields : List RawField) : UnknownFieldSet :=
  (fields.filter (·.tag ∉ c.tags)).map RawField.value

theorem WellFormed.nil : WellFormed [] :=
  ⟨fun _ hf => absurd hf List.not_mem_nil, fun _ hf => absurd hf List.not_mem_nil⟩

theorem WellFormed.cons {f : RawField} {fields : List RawField}
    (htag : readTag.whole f.tagBytes = some f.tag)
    (hbody : ParsesTo recursionLimit f.tag f.body f.value) (h : WellFormed fields) :
    WellFormed (f :: fields) :=
  ⟨List.forall_mem_cons.mpr ⟨htag, h.1⟩, List.forall_mem_cons.mpr ⟨hbody, h.2⟩⟩

theorem splits_flatten {depth : Nat} {fields : List RawField}
    (htags : ∀ f ∈ fields, readTag.whole f.tagBytes = some f.tag)
    (hbodies : ∀ f ∈ fields, ParsesTo depth f.tag f.body f.value) :
    wireFormat.Splits depth (RawField.flatten fields) (fields.map fun f => (f.tag, f.body)) := by
  induction fields with
  | nil => exact .nil
  | cons f fields ih =>
    have hrest := ih (fun g hg => htags g (List.mem_cons_of_mem _ hg))
      fun g hg => hbodies g (List.mem_cons_of_mem _ hg)
    refine .cons ?_ (whole_skip.mpr ⟨f.value, hbodies f List.mem_cons_self⟩) hrest
    have hread := local_readTag.of_whole (htags f List.mem_cons_self)
      (f.body ++ RawField.flatten fields)
    rwa [← List.append_assoc] at hread

theorem WellFormed.splits {fields : List RawField} (h : WellFormed fields) :
    wireFormat.Splits recursionLimit (RawField.flatten fields)
      (fields.map fun f => (f.tag, f.body)) :=
  splits_flatten h.1 h.2

theorem exists_wellFormed_of_splits {data : List UInt8} {rs : List (UInt32 × List UInt8)}
    (h : wireFormat.Splits recursionLimit data rs) :
    ∃ fields, WellFormed fields ∧ data = RawField.flatten fields ∧
      rs = fields.map fun f => (f.tag, f.body) := by
  induction h with
  | nil => exact ⟨[], .nil, rfl, rfl⟩
  | @cons p body r tag rs htag hbody _ ih =>
    obtain ⟨fields, hfields, rfl, rfl⟩ := ih
    obtain ⟨tagBytes, rfl, htagBytes⟩ := local_readTag.exists_whole htag
    obtain ⟨value, hvalue⟩ := whole_skip.mp hbody
    refine ⟨⟨tagBytes, tag, body, value⟩ :: fields, .cons htagBytes hvalue hfields, ?_, rfl⟩
    simp [RawField.flatten]

theorem bodies_map_rawField (tag : UInt32) (fields : List RawField) :
    bodies tag (fields.map fun f => (f.tag, f.body)) =
      (fields.filter (·.tag = tag)).map RawField.body := by
  induction fields with
  | nil => rfl
  | cons f fields ih =>
    rw [List.map_cons, bodies_cons, ih]
    by_cases htag : f.tag = tag
    · rw [if_pos htag, List.filter_cons_of_pos (by simpa using htag)]
      rfl
    · rw [if_neg htag, List.filter_cons_of_neg (by simpa using htag)]
      rfl

theorem find?_isSome {tag : UInt32} : (c.schema.find? tag).isSome = true ↔ tag ∈ c.tags := by
  unfold Schema.find? tags
  rw [List.find?_isSome, List.mem_map]
  exact exists_congr fun f => and_congr_right fun _ => decide_eq_true_iff

/-- What a message keeps of fields. -/
theorem WellFormed.keptOf_eq {fields : List RawField} (h : WellFormed fields) :
    c.schema.keptOf recursionLimit (fields.map fun f => (f.tag, f.body)) =
      c.unknownOf fields := by
  obtain ⟨-, hbodies⟩ := h
  induction fields with
  | nil => rfl
  | cons f fields ih =>
    have hrest := ih fun g hg => hbodies g (List.mem_cons_of_mem _ hg)
    have happend := Schema.keptOf_append (S := c.schema) (d := recursionLimit)
      [(f.tag, f.body)] (fields.map fun f => (f.tag, f.body))
    refine happend.trans ?_
    unfold unknownOf at hrest ⊢
    rw [hrest]
    by_cases htag : f.tag ∈ c.tags
    · obtain ⟨g, hg⟩ := Option.isSome_iff_exists.mp (find?_isSome.mpr htag)
      rw [Schema.keptOf_known hg, List.filter_cons_of_neg (by simpa using htag)]
      rfl
    · have hfind : c.schema.find? f.tag = none := by
        rw [← Option.not_isSome_iff_eq_none, find?_isSome]
        exact htag
      have hkeep := whole_unknownFieldParse.mpr (hbodies f List.mem_cons_self)
      rw [Schema.keptOf_unknown hfind hkeep, List.filter_cons_of_pos (by simpa using htag)]
      rfl

/-- **The order of different fields does not matter**: what bytes parse to depends on the
bodies with each known tag, in their order, and on the unknown fields in theirs; and these
make no difference to the known ones. -/
theorem parseFromArray_congr {fields fields' : List RawField} (h : WellFormed fields)
    (h' : WellFormed fields')
    (hsame : ∀ tag ∈ c.tags, (fields.filter (·.tag = tag)).map RawField.body =
      (fields'.filter (·.tag = tag)).map RawField.body) :
    (c.parseFromArray (RawField.flatten fields)).map c.clearUnknownFields =
        (c.parseFromArray (RawField.flatten fields')).map c.clearUnknownFields ∧
      (c.unknownOf fields = c.unknownOf fields' →
        c.parseFromArray (RawField.flatten fields) =
          c.parseFromArray (RawField.flatten fields')) := by
  have hbodies : ∀ f ∈ c.schema.fields, bodies f.tag (fields.map fun f => (f.tag, f.body)) =
      bodies f.tag (fields'.map fun f => (f.tag, f.body)) := by
    intro f hf
    rw [bodies_map_rawField, bodies_map_rawField]
    exact hsame f.tag (List.mem_map.mpr ⟨f, hf, rfl⟩)
  refine ⟨Schema.parse_congr_fields h.splits h'.splits hbodies, fun hunknown => ?_⟩
  refine Schema.parse_congr h.splits h'.splits hbodies ?_
  rw [h.keptOf_eq, h'.keptOf_eq, hunknown]

/-- The fields of a chat in the other order, and with an empty group behind them. -/
theorem parseFromArray_congr_chat :
    parseFromArray S_CHAT [8, 5, 18, 1, 104] = parseFromArray S_CHAT [18, 1, 104, 8, 5] ∧
      (parseFromArray S_CHAT [8, 5, 18, 1, 104]).map S_CHAT.clearUnknownFields =
        (parseFromArray S_CHAT [18, 1, 104, 8, 5, 27, 28]).map S_CHAT.clearUnknownFields := by
  have hid : ∀ {fields}, WellFormed fields →
      WellFormed (⟨[8], 8, [5], .varint 1 5⟩ :: fields) :=
    .cons rfl (whole_unknownFieldParse.mp rfl)
  have hmsg : ∀ {fields}, WellFormed fields →
      WellFormed (⟨[18], 18, [1, 104], .lengthDelimited 2 [104]⟩ :: fields) :=
    .cons rfl (whole_unknownFieldParse.mp rfl)
  have hgroup : WellFormed [⟨[27], 27, [28], .group 3 []⟩] :=
    .cons rfl (whole_unknownFieldParse.mp rfl) .nil
  refine ⟨(parseFromArray_congr (c := S_CHAT) (hid (hmsg .nil)) (hmsg (hid .nil)) ?_).2 rfl,
    (parseFromArray_congr (c := S_CHAT) (hid (hmsg .nil)) (hmsg (hid hgroup)) ?_).1⟩
  · intro tag htag
    rcases List.mem_pair.mp htag with rfl | rfl <;> rfl
  · intro tag htag
    rcases List.mem_pair.mp htag with rfl | rfl <;> rfl

/-- **What is accepted is well formed**: fields whose groups nest within the limit.  The
message has those that its class does not know for unknown fields, its strings are texts,
and as it is written, in its normal form, it reads back. -/
theorem wellFormed_of_parseFromArray {data : List UInt8} {m : c.Carrier}
    (h : c.parseFromArray data = some m) :
    (∃ fields, WellFormed fields ∧ data = RawField.flatten fields ∧
        c.unknownFields m = c.unknownOf fields) ∧ c.Utf8 m ∧
      (c.byteSizeLong m ≤ maxSize → c.parseFromArray (c.internalSerialize m) = some m) := by
  have hutf8 := utf8_of_parseFromArray h
  have hsound := sound_of_parseFromArray h
  obtain ⟨rs, hrs, hfolds⟩ := Schema.parse_iff.mp h
  obtain ⟨fields, hfields, hdata, rfl⟩ := exists_wellFormed_of_splits hrs
  have hkept : c.unknownFields m = c.unknownOf fields := by
    rw [← hfields.keptOf_eq]
    exact hfolds.kept.trans (congrArg (· ++ _) c.schema.kept_empty)
  exact ⟨⟨fields, hfields, hdata, hkept⟩, hutf8,
    fun hm => parseFromArray_internalSerialize hsound hm hutf8⟩

/-- A room number of one byte in two, and a field that is not known. -/
theorem wellFormed_of_parseFromArray_overlong :
    (∃ fields, WellFormed fields ∧ [0x10, 0x85, 0x00, 0x58, 0x01] = RawField.flatten fields ∧
        [.varint 11 1] = C_ENTER_ROOM.unknownOf fields) ∧
      C_ENTER_ROOM.parseFromArray (C_ENTER_ROOM.internalSerialize ⟨none, 5, [.varint 11 1]⟩) =
        some ⟨none, 5, [.varint 11 1]⟩ := by
  have hparse : C_ENTER_ROOM.parseFromArray [0x10, 0x85, 0x00, 0x58, 0x01] =
      some ⟨none, 5, [.varint 11 1]⟩ := rfl
  exact ⟨(wellFormed_of_parseFromArray hparse).1,
    (wellFormed_of_parseFromArray hparse).2.2 (by decide)⟩

/-! ## The limit -/

/-- Fields that parse with any limit are well formed exactly if their groups nest no deeper
than the limit of all classes. -/
theorem wellFormed_iff_depth {e : Nat} {fields : List RawField}
    (htags : ∀ f ∈ fields, readTag.whole f.tagBytes = some f.tag)
    (hbodies : ∀ f ∈ fields, ParsesTo e f.tag f.body f.value) :
    (∃ fields', WellFormed fields' ∧ RawField.flatten fields = RawField.flatten fields') ↔
      ∀ f ∈ fields, f.value.depth ≤ recursionLimit := by
  constructor
  · rintro ⟨fields', ⟨htags', hbodies'⟩, hdata⟩ f hf
    -- with a limit that is enough for both, the bytes have one reading
    have hsplits := splits_flatten htags fun f hf =>
      (hbodies f hf).mono (Nat.le_max_left e recursionLimit)
    have hsplits' := splits_flatten htags' fun f hf =>
      (hbodies' f hf).mono (Nat.le_max_right e recursionLimit)
    rw [← hdata] at hsplits'
    have hmem : (f.tag, f.body) ∈ fields.map fun f => (f.tag, f.body) :=
      List.mem_map.mpr ⟨f, hf, rfl⟩
    rw [hsplits.unique hsplits'] at hmem
    obtain ⟨f', hf', hsame⟩ := List.mem_map.mp hmem
    obtain ⟨htag, hbody⟩ := Prod.mk.inj hsame
    have hword := hbodies' f' hf'
    rw [htag, hbody] at hword
    rw [(hbodies f hf).value_unique hword]
    exact hword.depth_le
  · intro hdepth
    exact ⟨fields, ⟨htags, fun f hf => (hbodies f hf).of_depth_le (hdepth f hf)⟩, rfl⟩

/-- Fields that the class does not know are all kept, if no group of them nests too deep, and
otherwise make the parse fail. -/
theorem parseFromArray_unknown {e : Nat} {fields : List RawField}
    (htags : ∀ f ∈ fields, readTag.whole f.tagBytes = some f.tag)
    (hbodies : ∀ f ∈ fields, ParsesTo e f.tag f.body f.value)
    (hunknown : ∀ f ∈ fields, f.tag ∉ c.tags) :
    c.parseFromArray (RawField.flatten fields) =
      if ∀ f ∈ fields, f.value.depth ≤ recursionLimit then
        some (c.schema.withKept c.schema.empty (fields.map RawField.value))
      else none := by
  split
  · rename_i hdepth
    have hfields : WellFormed fields :=
      ⟨htags, fun f hf => (hbodies f hf).of_depth_le (hdepth f hf)⟩
    refine Schema.parse_iff.mpr ⟨_, hfields.splits, fun g hg => ?_, ?_⟩
    · have hnone : fields.filter (·.tag = g.tag) = [] := by
        refine List.filter_eq_nil_iff.mpr fun f hf htag => hunknown f hf ?_
        exact List.mem_map.mpr ⟨g, hg, (decide_eq_true_iff.mp htag).symm⟩
      rw [bodies_map_rawField, hnone, c.schema.get_withKept g hg]
      rfl
    · have hall : c.unknownOf fields = fields.map RawField.value := by
        unfold unknownOf
        rw [List.filter_eq_self.mpr fun f hf => by simpa using hunknown f hf]
      rw [hfields.keptOf_eq, hall, c.schema.kept_empty, c.schema.kept_withKept]
      rfl
  · rename_i hdepth
    apply Option.eq_none_iff_forall_ne_some.mpr
    intro m hm
    obtain ⟨rs, hrs, -⟩ := Schema.parse_iff.mp hm
    obtain ⟨fields', hfields', hdata, -⟩ := exists_wellFormed_of_splits hrs
    exact hdepth ((wellFormed_iff_depth htags hbodies).mp ⟨fields', hfields', hdata⟩)

/-- No class has a group for a field. -/
theorem tag_type_ne_three (c : MessageClass) : ∀ tag ∈ c.tags, tag &&& 7 ≠ 3 := by
  have hall : (c.tags.all fun tag => tag &&& 7 != 3) = true := by
    cases c <;> decide
  intro tag htag
  simpa using List.all_eq_true.mp hall tag htag

/-- **The recursion limit is exact**: groups of any numbers are kept if they nest up to 100
deep, and deeper ones make the parse fail. -/
theorem parseFromArray_nestedGroups (c : MessageClass) {numbers : List UInt32}
    (hnumbers : ∀ number ∈ numbers, IsNumber number) :
    c.parseFromArray (nestedGroups numbers) =
      if numbers.length ≤ 100 then
        some (c.schema.withKept c.schema.empty (nestedFields numbers))
      else none := by
  have hbodies : ∀ f ∈ (nestedFields numbers).map UnknownField.written,
      ParsesTo numbers.length f.tag f.body f.value := by
    intro f hf
    obtain ⟨g, hg, rfl⟩ := List.mem_map.mp hf
    exact (proper_of_mem_nestedFields hnumbers g hg).parsesTo
  have hunknown : ∀ f ∈ (nestedFields numbers).map UnknownField.written, f.tag ∉ c.tags := by
    intro f hf htag
    obtain ⟨g, hg, rfl⟩ := List.mem_map.mp hf
    exact c.tag_type_ne_three _ htag (tag_of_mem_nestedFields hnumbers g hg)
  have hdepth : (∀ f ∈ (nestedFields numbers).map UnknownField.written,
      f.value.depth ≤ recursionLimit) ↔ numbers.length ≤ 100 := by
    rw [List.forall_mem_map, ← depth_nestedFields numbers]
    exact UnknownFieldSet.depth_le_iff.symm
  rw [nestedGroups_eq, internalSerializeUnknownFields_eq,
    parseFromArray_unknown (whole_tag_written _) hbodies hunknown, map_value_written]
  exact if_congr hdepth rfl rfl

/-- Group 2 inside of group 1 inside of group 9, and 101 groups of number 3. -/
theorem parseFromArray_nestedGroups_login :
    C_LOGIN.parseFromArray [75, 11, 19, 20, 12, 76] =
        some ⟨[], [], [.group 9 [.group 1 [.group 2 []]]]⟩ ∧
      C_LOGIN.parseFromArray (nestedGroups (.replicate 101 3)) = none := by
  have hnumbers : ∀ number ∈ ([9, 1, 2] : List UInt32), IsNumber number := by simp [IsNumber]
  have hthree : ∀ number ∈ List.replicate 101 (3 : UInt32), IsNumber number := by
    intro number hnumber
    rw [List.eq_of_mem_replicate hnumber]
    decide
  refine ⟨C_LOGIN.parseFromArray_nestedGroups hnumbers,
    (C_LOGIN.parseFromArray_nestedGroups hthree).trans (if_neg ?_)⟩
  rw [List.length_replicate]
  decide

end MessageClass
end S1Client.Protocol
