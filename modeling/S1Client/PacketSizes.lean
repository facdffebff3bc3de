import S1Client.GameThread

/-!
# The sizes of packets

Only strings and unknown fields make a packet long: every number takes at most ten bytes,
and every tag and length five.  What the game thread queues fits in a send buffer, unless
the name of the selected character, or what the server's position of a player had for
unknown fields, is longer than 65000 bytes.
-/
namespace S1Client.WireFormat
open Tagged

/-! ## Records -/

theorem varintSize64_le (value : UInt64) : varintSize64 value ≤ 10 := by
  have hvalue : value.toNat < 128 ^ (9 + 1) := Nat.lt_trans value.toNat_lt (by decide)
  have hlog : Nat.log 128 value.toNat < 10 := Nat.log_lt_of_lt_pow' (by decide) hvalue
  rw [varintSize64_eq, writeVarint64, Base128.length_encode hvalue]
  omega

theorem varintSize32_le (value : UInt32) : varintSize32 value ≤ 5 := by
  have hvalue : value.toNat < 128 ^ (4 + 1) := Nat.lt_trans value.toNat_lt (by decide)
  have hlog : Nat.log 128 value.toNat < 5 := Nat.log_lt_of_lt_pow' (by decide) hvalue
  rw [varintSize32_eq, writeVarint32, Base128.length_encode hvalue]
  omega

section
variable (tag : UInt32)

/-- The records of one field, with their tags. -/
def recordsSize {V : Type} (codec : Codec wireFormat V) (v : V) : Nat :=
  ((codec.sizes v).map (wireFormat.tagSize tag + ·)).sum

/-- All fields of a message. -/
def fieldsSize {M : Type} (S : Schema wireFormat M) (m : M) : Nat :=
  (S.fields.map fun f => recordsSize f.tag f.codec (f.get m)).sum

theorem byteSize_eq {M : Type} (S : Schema wireFormat M) (m : M) :
    S.byteSize m = fieldsSize S m + computeUnknownFieldsSize (S.kept m) :=
  congrArg _ (sum_kept _)

theorem byteSize_of_kept_nil {M : Type} {S : Schema wireFormat M} {m : M} (h : S.kept m = []) :
    S.byteSize m = fieldsSize S m := by
  rw [byteSize_eq, h]
  rfl

theorem recordsSize_scalar {V : Type} [DecidableEq V] (s : Scalar wireFormat V) (v : V) :
    recordsSize tag (.scalar s) v ≤ s.size v + 5 := by
  have htag : wireFormat.tagSize tag ≤ 5 := varintSize32_le tag
  show ((if v = s.zero then [] else [s.size v]).map (wireFormat.tagSize tag + ·)).sum ≤ _
  split
  · exact Nat.zero_le _
  · rw [List.map_singleton, List.sum_singleton]
    omega

theorem recordsSize_message {M : Type} {S : Schema wireFormat M} {m? : Option M} {n : Nat}
    (h : ∀ m ∈ m?, S.byteSize m ≤ n) : recordsSize tag (.message S) m? ≤ n + 10 := by
  have htag : wireFormat.tagSize tag ≤ 5 := varintSize32_le tag
  cases m? with
  | none => exact Nat.zero_le _
  | some m =>
    have hlength : wireFormat.lengthSize (S.byteSize m) ≤ 5 := varintSize32_le _
    have hm := h m rfl
    show wireFormat.tagSize tag + (wireFormat.lengthSize (S.byteSize m) + S.byteSize m) + 0 ≤ _
    omega

theorem recordsSize_uint64 (v : UInt64) : recordsSize tag uint64 v ≤ 15 :=
  Nat.le_trans (recordsSize_scalar tag _ v) (Nat.add_le_add_right (varintSize64_le v) 5)

theorem recordsSize_enum (v : Int32) : recordsSize tag enum v ≤ 15 :=
  Nat.le_trans (recordsSize_scalar tag _ v) (Nat.add_le_add_right (varintSize64_le _) 5)

theorem recordsSize_float (v : UInt32) : recordsSize tag float v ≤ 9 :=
  recordsSize_scalar tag _ v

theorem recordsSize_string (v : List UInt8) : recordsSize tag string v ≤ v.length + 10 := by
  have hlength : wireFormat.lengthSize v.length ≤ 5 := varintSize32_le _
  have hrecords : recordsSize tag string v ≤ wireFormat.lengthSize v.length + v.length + 5 :=
    recordsSize_scalar tag _ v
  omega

end
end S1Client.WireFormat

namespace S1Client
open Tagged WireFormat
variable {R : Type} (toBits : R → UInt32)

/-! ## Messages -/

theorem PosInfo.byteSize_toMessage_le (info : PosInfo R) :
    Protocol.PosInfo.schema.byteSize (info.toMessage toBits) ≤
      computeUnknownFieldsSize info.unknownFields + 75 := by
  have hid := recordsSize_uint64 8 info.objectId
  have hx := recordsSize_float 21 (toBits info.x)
  have hy := recordsSize_float 29 (toBits info.y)
  have hz := recordsSize_float 37 (toBits info.z)
  have hyaw := recordsSize_float 45 (toBits info.yaw)
  have hpitch := recordsSize_float 53 (toBits info.pitch)
  have hstate := recordsSize_enum 56 info.state.toInt
  have hsum : fieldsSize Protocol.PosInfo.schema (info.toMessage toBits) =
      recordsSize 8 uint64 info.objectId + (recordsSize 21 float (toBits info.x) +
        (recordsSize 29 float (toBits info.y) + (recordsSize 37 float (toBits info.z) +
          (recordsSize 45 float (toBits info.yaw) + (recordsSize 53 float (toBits info.pitch) +
            (recordsSize 56 enum info.state.toInt + 0)))))) := rfl
  have hkept : Protocol.PosInfo.schema.kept (info.toMessage toBits) = info.unknownFields := rfl
  rw [byteSize_eq, hkept]
  omega

theorem CharacterInfo.byteSize_toMessage_le (info : CharacterInfo) :
    Protocol.CharacterInfo.schema.byteSize info.toMessage ≤ info.name.length + 25 := by
  have hscore := recordsSize_uint64 8 info.score
  have hname := recordsSize_string 18 info.name
  have hsum : fieldsSize Protocol.CharacterInfo.schema info.toMessage =
      recordsSize 8 uint64 info.score + (recordsSize 18 string info.name + 0) := rfl
  rw [byteSize_of_kept_nil rfl]
  omega

theorem ObjectInfo.byteSize_toMessage_le {info : ObjectInfo R} {n : Nat}
    (hpos : ∀ pos ∈ info.posInfo?, pos.unknownFields = [])
    (hplayer : ∀ player ∈ info.playerInfo?, player.name.length ≤ n) :
    Protocol.ObjectInfo.schema.byteSize (info.toMessage toBits) ≤ n + 180 := by
  let pos? := info.posInfo?.map (·.toMessage toBits)
  let player? := info.playerInfo?.map (·.toMessage)
  have hid := recordsSize_uint64 8 info.objectId
  have htype := recordsSize_enum 16 info.objectType.toInt
  have hpos : recordsSize 26 (.message Protocol.PosInfo.schema) pos? ≤ 75 + 10 := by
    refine recordsSize_message (n := 75) 26 fun m hm => ?_
    obtain ⟨pos, hmem, rfl⟩ := Option.map_eq_some_iff.mp hm
    have hsize := pos.byteSize_toMessage_le toBits
    rw [hpos pos hmem] at hsize
    exact Nat.le_trans hsize (Nat.le_of_eq (Nat.zero_add 75))
  have hplayerType := recordsSize_enum 32 info.playerType.toInt
  have hplayer : recordsSize 42 (.message Protocol.CharacterInfo.schema) player? ≤
      n + 25 + 10 := by
    refine recordsSize_message (n := n + 25) 42 fun m hm => ?_
    obtain ⟨player, hmem, rfl⟩ := Option.map_eq_some_iff.mp hm
    exact Nat.le_trans player.byteSize_toMessage_le
      (Nat.add_le_add_right (hplayer player hmem) 25)
  have hprojectile := recordsSize_enum 48 0
  have hsum : fieldsSize Protocol.ObjectInfo.schema (info.toMessage toBits) =
      recordsSize 8 uint64 info.objectId + (recordsSize 16 enum info.objectType.toInt +
        (recordsSize 26 (.message Protocol.PosInfo.schema) pos? +
          (recordsSize 32 enum info.playerType.toInt +
            (recordsSize 42 (.message Protocol.CharacterInfo.schema) player? +
              (recordsSize 48 enum 0 + 0))))) := rfl
  rw [byteSize_of_kept_nil rfl]
  omega

/-! ## What is queued -/

theorem ClientPacket.length_serialize (pkt : ClientPacket R) :
    (pkt.serialize toBits).length = fieldsSize pkt.messageClass.schema (pkt.toMessage toBits) := by
  have hkept : pkt.messageClass.schema.kept (pkt.toMessage toBits) = [] := by cases pkt <;> rfl
  rw [← byteSize_of_kept_nil hkept]
  exact pkt.messageClass.schema.length_serialize _

theorem ClientPacket.length_C_ENTER_GAME (slot : CharacterSlot) :
    ((C_ENTER_GAME slot.selectedCharacter : ClientPacket R).serialize toBits).length ≤
      slot.name.toUtf8.length + 190 := by
  have hrecord : recordsSize 10 (.message Protocol.ObjectInfo.schema)
      (some (slot.selectedCharacter.toMessage toBits)) ≤ slot.name.toUtf8.length + 180 + 10 := by
    refine recordsSize_message (n := slot.name.toUtf8.length + 180) 10 fun m hm => ?_
    obtain rfl := Option.some.inj hm
    refine ObjectInfo.byteSize_toMessage_le toBits (fun _ hpos => by cases hpos) ?_
    intro player hplayer
    obtain rfl := Option.some.inj hplayer
    exact Nat.le_refl _
  have hsize : _ = recordsSize 10 (.message Protocol.ObjectInfo.schema)
      (some (slot.selectedCharacter.toMessage toBits)) + 0 :=
    length_serialize toBits (C_ENTER_GAME slot.selectedCharacter : ClientPacket R)
  omega

theorem ClientPacket.length_C_MOVE (info : PosInfo R) :
    ((C_MOVE info).serialize toBits).length ≤
      computeUnknownFieldsSize info.unknownFields + 85 := by
  have hrecord : recordsSize 10 (.message Protocol.PosInfo.schema)
      (some (info.toMessage toBits)) ≤ computeUnknownFieldsSize info.unknownFields + 75 + 10 := by
    refine recordsSize_message (n := computeUnknownFieldsSize info.unknownFields + 75) 10
      fun m hm => ?_
    obtain rfl := Option.some.inj hm
    exact info.byteSize_toMessage_le toBits
  have hsize : _ = recordsSize 10 (.message Protocol.PosInfo.schema)
      (some (info.toMessage toBits)) + 0 := length_serialize toBits (C_MOVE info)
  omega

/-- **Only a name or an unknown field makes a packet long.** -/
theorem GameCall.Queues.length_le {s : US1GameInstance R} {call : GameCall R}
    {pkt : ClientPacket R} (h : call.Queues s pkt) :
    (pkt.serialize toBits).length ≤ 190 ∨
      (∃ index, call = .selectCharacter index ∧ ∃ slot ∈ s.characterSlots,
        (pkt.serialize toBits).length ≤ slot.name.toUtf8.length + 190) ∨
      ∃ actor place, call = .sendMove actor place ∧
        ∃ player, s.playerActors.get? actor = some player ∧ (pkt.serialize toBits).length ≤
          computeUnknownFieldsSize player.posInfo.unknownFields + 190 := by
  have hsize := pkt.length_serialize toBits
  cases h with
  | moveMap mapNumber =>
    have hroom := recordsSize_uint64 16 mapNumber.toInt64.toUInt64
    have hsize : _ = 0 + (recordsSize 16 uint64 mapNumber.toInt64.toUInt64 + 0) := hsize
    exact Or.inl (by omega)
  | selectCharacter index slot _ hslot =>
    exact Or.inr (Or.inl ⟨index, rfl, slot, List.mem_of_getElem? hslot,
      ClientPacket.length_C_ENTER_GAME toBits slot⟩)
  | requestScore monsterId actor mine =>
    have hplayer := recordsSize_uint64 8 mine.posInfo.objectId
    have hmonster := recordsSize_uint64 16 monsterId.toInt64.toUInt64
    have hsize : _ = recordsSize 8 uint64 mine.posInfo.objectId +
      (recordsSize 16 uint64 monsterId.toInt64.toUInt64 + (0 + 0)) := hsize
    exact Or.inl (by omega)
  | disconnectFromGameServer => exact Or.inl (Nat.zero_le _)
  | sendMove actor place player hplayer =>
    have hlen := ClientPacket.length_C_MOVE toBits (player.posInfo.withPlacement place)
    exact Or.inr (Or.inr ⟨actor, place, rfl, player, US1GameInstance.derefPlayer_eq_ok.mp hplayer,
      Nat.le_trans hlen (Nat.add_le_add_left (by decide) _)⟩)

end S1Client
