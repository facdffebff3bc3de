import Mathlib.Data.List.Forall2
import S1Client.MessageLite
import S1Client.PacketHandler
import S1Client.SendBuffer
import S1Client.Text

/-!
# Payloads

The generated messages and what the client makes of them.  A handler gets the fields it
reads out of the class of its packet, and a packet the client sends is an object of its
class; so `ParseFromArray` and the serializer, which dispatching and `MakeSendBuffer`
take as parameters, are those of the generated code.  How a `float` is represented is
a parameter still: `ofBits` and `toBits`.
-/
namespace S1Client
open Protocol (MessageClass)

variable {R : Type}

/-! ## Enumerations

The numbers of `Enum.pb.h`. -/

def ObjectType.ofInt (value : Int32) : ObjectType :=
  if value = 0 then .none
  else if value = 1 then .creature
  else if value = 2 then .enemy
  else if value = 3 then .projectile
  else if value = 4 then .env
  else if value = 5 then .player
  else .unrecognized value

def ObjectType.toInt : ObjectType → Int32
  | .none => 0
  | .creature => 1
  | .enemy => 2
  | .projectile => 3
  | .env => 4
  | .player => 5
  | .unrecognized value => value

def PlayerType.ofInt (value : Int32) : PlayerType :=
  if value = 0 then .none
  else if value = 1 then .yoshika
  else if value = 2 then .lynette
  else if value = 3 then .sanya
  else .unrecognized value

def MoveState.ofInt (value : Int32) : MoveState :=
  if value = 0 then .none
  else if value = 1 then .idle
  else if value = 2 then .run
  else if value = 3 then .aim
  else .unrecognized value

def MoveState.toInt : MoveState → Int32
  | .none => 0
  | .idle => 1
  | .run => 2
  | .aim => 3
  | .unrecognized value => value

def ProtoAiState.ofInt (value : Int32) : ProtoAiState :=
  if value = 0 then .none
  else if value = 1 then .idle
  else if value = 2 then .move
  else if value = 3 then .attack
  else if value = 4 then .runaway
  else .unrecognized value

/-! ## From the server -/

section FromServer
variable (ofBits : UInt32 → R)

def PosInfo.ofMessage (m : Protocol.PosInfo) : PosInfo R :=
  ⟨m.objectId, ofBits m.x, ofBits m.y, ofBits m.z, ofBits m.yaw, ofBits m.pitch,
    .ofInt m.state, m.unknownFields⟩

def CharacterInfo.ofMessage (m : Protocol.CharacterInfo) : CharacterInfo := ⟨m.score, m.name⟩

/-- Nothing reads the type of a projectile. -/
def ObjectInfo.ofMessage (m : Protocol.ObjectInfo) : ObjectInfo R :=
  ⟨m.objectId, .ofInt m.objectType, m.posInfo?.map (.ofMessage ofBits), .ofInt m.playerType,
    m.playerInfo?.map .ofMessage⟩

/-- The class of a packet. -/
def PacketType.messageClass : PacketType → MessageClass
  | .S_LOGIN => .S_LOGIN
  | .S_ENTER_GAME => .S_ENTER_GAME
  | .S_ENTER_ROOM => .S_ENTER_ROOM
  | .S_LEAVE_GAME => .S_LEAVE_GAME
  | .S_SPAWN => .S_SPAWN
  | .S_DESPAWN => .S_DESPAWN
  | .S_MOVE => .S_MOVE
  | .S_SHOOT => .S_SHOOT
  | .S_REMOVE_BULLET => .S_REMOVE_BULLET
  | .S_SCORE => .S_SCORE
  | .S_CHAT => .S_CHAT
  | .S_AI => .S_AI

/-- A message of a packet from the server. -/
abbrev ServerMessage := (type : PacketType) × type.messageClass.Carrier

/-- What the handler of a message gets. -/
def ServerPacket.ofMessage : ServerMessage → ServerPacket R
  | ⟨.S_LOGIN, (m : Protocol.S_LOGIN)⟩ =>
    .S_LOGIN ⟨m.success, m.players.map (.ofMessage ofBits)⟩
  | ⟨.S_ENTER_GAME, (m : Protocol.S_ENTER_GAME)⟩ =>
    .S_ENTER_GAME ⟨m.success, m.player?.map (.ofMessage ofBits)⟩
  | ⟨.S_ENTER_ROOM, (m : Protocol.S_ENTER_ROOM)⟩ => .S_ENTER_ROOM ⟨m.success⟩
  | ⟨.S_LEAVE_GAME, _⟩ => .S_LEAVE_GAME
  | ⟨.S_SPAWN, (m : Protocol.S_SPAWN)⟩ => .S_SPAWN ⟨m.objects.map (.ofMessage ofBits)⟩
  | ⟨.S_DESPAWN, (m : Protocol.S_DESPAWN)⟩ => .S_DESPAWN ⟨m.objects.map (.ofMessage ofBits)⟩
  | ⟨.S_MOVE, (m : Protocol.S_MOVE)⟩ => .S_MOVE ⟨m.info?.map (.ofMessage ofBits)⟩
  | ⟨.S_SHOOT, _⟩ => .S_SHOOT
  | ⟨.S_REMOVE_BULLET, _⟩ => .S_REMOVE_BULLET
  | ⟨.S_SCORE, (m : Protocol.S_SCORE)⟩ => .S_SCORE ⟨m.scoreDecision, m.point⟩
  | ⟨.S_CHAT, (m : Protocol.S_CHAT)⟩ => .S_CHAT ⟨m.playerId, m.msg⟩
  | ⟨.S_AI, (m : Protocol.S_AI)⟩ =>
    .S_AI ⟨m.objectId, .ofInt m.state, m.targetLocation?.map (.ofMessage ofBits)⟩

theorem ServerPacket.type_ofMessage (m : ServerMessage) :
    (ServerPacket.ofMessage ofBits m).type = m.1 := by
  obtain ⟨type, m⟩ := m
  cases type <;> rfl

/-- `ParseFromArray` of the generated classes. -/
def Parser.generated : Parser R where
  parseFromArray type bytes :=
    (type.messageClass.parseFromArray bytes).map fun m => .ofMessage ofBits ⟨type, m⟩
  type_eq := by
    intro type bytes pkt h
    obtain ⟨m, -, rfl⟩ := Option.map_eq_some_iff.mp h
    exact ServerPacket.type_ofMessage ofBits ⟨type, m⟩

/-- `packet` is the message as the server sends it.  It may have fields that the classes of
the client do not know. -/
def ServerMessage.Sent (packet : List UInt8) (m : ServerMessage) : Prop :=
  Frames packet m.1.pktId (m.1.messageClass.internalSerialize m.2) ∧ m.1.messageClass.Sound m.2

/-- The unknown fields of a position are such as parsing adds, in an object of a packet. -/
def PosInfo.Sound (info : PosInfo R) : Prop :=
  ∀ f ∈ info.unknownFields, Protocol.PosInfo.schema.Keeps (MessageClass.recursionLimit - 2) f

theorem PosInfo.sound_default [Zero R] : (PosInfo.default : PosInfo R).Sound :=
  fun _ hf => absurd hf List.not_mem_nil

/-- What spawns a player gives it such a position. -/
def Effect.Sound [Zero R] : Effect R → Prop
  | .spawnPlayer info _ => info.posInfo.Sound
  | _ => True

theorem ObjectInfo.sound_ofMessage [Zero R] {m : Protocol.ObjectInfo}
    (h : Protocol.ObjectInfo.schema.Sound (MessageClass.recursionLimit - 1) m) :
    (ObjectInfo.ofMessage ofBits m).posInfo.Sound := by
  have hfields := h.fields
  simp only [Protocol.ObjectInfo.schema, List.forall_mem_cons, Tagged.Codec.message_sound]
    at hfields
  obtain ⟨-, -, hpos, -⟩ := hfields
  show ((m.posInfo?.map (PosInfo.ofMessage ofBits)).getD .default).Sound
  cases hm : m.posInfo? with
  | none => exact PosInfo.sound_default
  | some pos => exact (hpos pos hm).kept

/-- All strings of the message are texts. -/
def ServerMessage.isText (m : ServerMessage) : Bool := m.1.messageClass.schema.valid m.2

/-- **A message that was sent** is decoded to what its handler gets, if its strings are
texts, and to nothing otherwise. -/
theorem Parser.decode_generated {packet : List UInt8} {m : ServerMessage}
    (h : ServerMessage.Sent packet m) :
    (Parser.generated ofBits).decode packet =
      if m.isText then some (.ofMessage ofBits m) else none := by
  obtain ⟨⟨⟨hle, hsize⟩, hid, hpayload⟩, hsound⟩ := h
  have hid : PacketType.ofPktId (packetId packet) = some m.1 :=
    PacketType.ofPktId_eq_some.mpr hid.symm
  -- a size that a header can announce is far below the limit of the parser
  have hbytes : m.1.messageClass.byteSizeLong m.2 ≤ WireFormat.maxSize := by
    have hlt := (FPacketHeader.read (packet.take HeaderSize)).packetSize.toNat_lt
    have hmax : WireFormat.maxSize = 2147483631 := rfl
    have hlen : (m.1.messageClass.internalSerialize m.2).length =
        m.1.messageClass.byteSizeLong m.2 := m.1.messageClass.schema.length_serialize m.2
    rw [← hpayload, List.length_drop] at hlen
    omega
  unfold Parser.decode
  rw [hid, Option.bind_some, hpayload]
  show (m.1.messageClass.parseFromArray (m.1.messageClass.internalSerialize m.2)).map _ = _
  by_cases htext : m.isText = true
  · rw [if_pos htext, MessageClass.parseFromArray_internalSerialize hsound hbytes
      (MessageClass.valid_iff.mp htext)]
    rfl
  · have hnot : ¬m.1.messageClass.Utf8 m.2 := fun h => htext (MessageClass.valid_iff.mpr h)
    rw [if_neg htext, MessageClass.parseFromArray,
      MessageClass.parse_internalSerialize_none _ hsound hbytes hnot]
    rfl

/-- What a message spawns has positions whose unknown fields were parsed. -/
theorem ServerPacket.sound_of_mem_effects [Zero R] {m : ServerMessage}
    (h : m.1.messageClass.Sound m.2) {e : Effect R}
    (he : e ∈ (ServerPacket.ofMessage ofBits m).effects) : e.Sound := by
  cases e with
  | spawnPlayer info isMine =>
    obtain ⟨type, m⟩ := m
    have hfields := h.fields
    cases type with
    | S_LOGIN =>
      obtain ⟨player, -, hplayer⟩ := List.mem_map.mp he
      cases hplayer
    | S_ENTER_GAME =>
      obtain ⟨rfl, -⟩ := Effect.spawnPlayer.inj (List.mem_singleton.mp he)
      have hplayer : ∀ object ∈ Protocol.S_ENTER_GAME.player? m,
          Protocol.ObjectInfo.schema.Sound _ object := hfields _ (.tail _ (.head _))
      show (((Protocol.S_ENTER_GAME.player? m).map (ObjectInfo.ofMessage ofBits)).getD
        .default).posInfo.Sound
      cases hm : Protocol.S_ENTER_GAME.player? m with
      | none => exact PosInfo.sound_default
      | some object => exact ObjectInfo.sound_ofMessage ofBits (hplayer object hm)
    | S_SPAWN =>
      have hobjects : ∀ object ∈ Protocol.S_SPAWN.objects m,
          Protocol.ObjectInfo.schema.Sound _ object := hfields _ (.head _)
      obtain ⟨spawned, hspawned, ⟨-, hspawn⟩ | ⟨-, hspawn⟩⟩ := S_SPAWN.of_mem_effects he
      · obtain ⟨rfl, -⟩ := Effect.spawnPlayer.inj hspawn
        obtain ⟨object, hobject, rfl⟩ := List.mem_map.mp hspawned
        exact ObjectInfo.sound_ofMessage ofBits (hobjects object hobject)
      · cases hspawn
    | S_DESPAWN =>
      obtain ⟨object, -, ⟨-, hspawn⟩ | ⟨-, hspawn⟩⟩ := S_DESPAWN.of_mem_effects he <;>
        cases hspawn
    | S_MOVE | S_SCORE | S_AI => cases List.mem_singleton.mp he
    | _ => exact absurd he List.not_mem_nil
  | _ => trivial

/-- Whatever the bytes are. -/
theorem Parser.sound_of_decode [Zero R] {packet : List UInt8} {pkt : ServerPacket R}
    (h : (Parser.generated ofBits).decode packet = some pkt) : ∀ e ∈ pkt.effects, e.Sound := by
  obtain ⟨type, -, h⟩ := Option.bind_eq_some_iff.mp h
  obtain ⟨m, hm, rfl⟩ := Option.map_eq_some_iff.mp h
  exact fun e he =>
    ServerPacket.sound_of_mem_effects ofBits (MessageClass.sound_of_parseFromArray hm) he

theorem Parser.filterMap_decode_generated {packets : List (List UInt8)}
    {messages : List ServerMessage} (h : List.Forall₂ ServerMessage.Sent packets messages) :
    packets.filterMap (Parser.generated ofBits).decode =
      (messages.filter ServerMessage.isText).map (.ofMessage ofBits) := by
  induction h with
  | nil => rfl
  | @cons packet m packets messages hsent _ ih =>
    have hdecode := Parser.decode_generated ofBits hsent
    by_cases htext : m.isText = true
    · rw [if_pos htext] at hdecode
      rw [List.filterMap_cons_some hdecode, List.filter_cons_of_pos htext, List.map_cons, ih]
    · rw [if_neg htext] at hdecode
      rw [List.filterMap_cons_none hdecode, List.filter_cons_of_neg htext, ih]

end FromServer

/-! ## From the client -/

section FromClient
variable (toBits : R → UInt32)

def PosInfo.toMessage (info : PosInfo R) : Protocol.PosInfo :=
  ⟨info.objectId, toBits info.x, toBits info.y, toBits info.z, toBits info.yaw,
    toBits info.pitch, info.state.toInt, info.unknownFields⟩

def CharacterInfo.toMessage (info : CharacterInfo) : Protocol.CharacterInfo :=
  ⟨info.score, info.name, []⟩

def ObjectInfo.toMessage (info : ObjectInfo R) : Protocol.ObjectInfo :=
  ⟨info.objectId, info.objectType.toInt, info.posInfo?.map (·.toMessage toBits),
    info.playerType.toInt, info.playerInfo?.map (·.toMessage), 0, []⟩

/-- The class of a packet the client sends. -/
def ClientPacket.messageClass : ClientPacket R → MessageClass
  | .C_LOGIN .. => .C_LOGIN
  | .C_ENTER_GAME .. => .C_ENTER_GAME
  | .C_ENTER_ROOM .. => .C_ENTER_ROOM
  | .C_LEAVE_GAME => .C_LEAVE_GAME
  | .C_MOVE .. => .C_MOVE
  | .C_SHOOT .. => .C_SHOOT
  | .C_REMOVE_BULLET .. => .C_REMOVE_BULLET
  | .C_SCORE .. => .C_SCORE
  | .C_CHAT .. => .C_CHAT
  | .C_AI => .C_AI

/-- The object that is handed to `SEND_PACKET`. -/
def ClientPacket.toMessage : (pkt : ClientPacket R) → pkt.messageClass.Carrier
  | .C_LOGIN id password => Protocol.C_LOGIN.mk id password []
  | .C_ENTER_GAME info => Protocol.C_ENTER_GAME.mk (some (info.toMessage toBits)) []
  | .C_ENTER_ROOM roomNumber => Protocol.C_ENTER_ROOM.mk none roomNumber []
  | .C_LEAVE_GAME => Protocol.C_LEAVE_GAME.mk []
  | .C_MOVE info => Protocol.C_MOVE.mk (some (info.toMessage toBits)) []
  | .C_SHOOT object => Protocol.C_SHOOT.mk (some (object.toMessage toBits)) []
  | .C_REMOVE_BULLET objectIds => Protocol.C_REMOVE_BULLET.mk objectIds []
  | .C_SCORE playerId monsterId => Protocol.C_SCORE.mk playerId monsterId 0 []
  | .C_CHAT msg => Protocol.C_CHAT.mk msg []
  | .C_AI => Protocol.C_AI.mk []

/-! The client sets no unknown fields, but it passes on those of a position. -/

theorem PosInfo.Sound.toMessage {info : PosInfo R} (h : info.Sound) {d : Nat}
    (hd : MessageClass.recursionLimit - 2 ≤ d) :
    Protocol.PosInfo.schema.Sound d (info.toMessage toBits) :=
  ⟨by simp [Protocol.PosInfo.schema],
    fun f hf => MessageClass.keeps_mono (c := .PosInfo) (h f hf) hd⟩

theorem CharacterInfo.sound_toMessage (d : Nat) (info : CharacterInfo) :
    Protocol.CharacterInfo.schema.Sound d info.toMessage :=
  Tagged.Schema.sound_of_kept_nil (by simp [Protocol.CharacterInfo.schema]) rfl

theorem ObjectInfo.sound_toMessage {info : ObjectInfo R} (h : ∀ pos ∈ info.posInfo?, pos.Sound) :
    Protocol.ObjectInfo.schema.Sound (MessageClass.recursionLimit - 1) (info.toMessage toBits) := by
  have hpos : ∀ m ∈ info.posInfo?.map (·.toMessage toBits),
      Protocol.PosInfo.schema.Sound (MessageClass.recursionLimit - 2) m := by
    intro m hm
    obtain ⟨pos, hpos, rfl⟩ := Option.map_eq_some_iff.mp hm
    exact (h pos hpos).toMessage toBits (Nat.le_refl _)
  have hplayer : ∀ m ∈ info.playerInfo?.map (·.toMessage),
      Protocol.CharacterInfo.schema.Sound (MessageClass.recursionLimit - 2) m := by
    intro m hm
    obtain ⟨player, -, rfl⟩ := Option.map_eq_some_iff.mp hm
    exact player.sound_toMessage _
  refine Tagged.Schema.sound_of_kept_nil ?_ rfl
  simp only [Protocol.ObjectInfo.schema, List.forall_mem_cons]
  exact ⟨trivial, trivial, hpos, trivial, hplayer, trivial, fun _ hf => absurd hf List.not_mem_nil⟩

/-- The unknown fields of the positions in the packet are such as parsing adds. -/
def ClientPacket.Sound : ClientPacket R → Prop
  | .C_MOVE info => info.Sound
  | .C_ENTER_GAME object | .C_SHOOT object => ∀ pos ∈ object.posInfo?, pos.Sound
  | _ => True

theorem ClientPacket.Sound.toMessage {pkt : ClientPacket R} (h : pkt.Sound) :
    pkt.messageClass.Sound (pkt.toMessage toBits) := by
  refine Tagged.Schema.sound_of_kept_nil ?_ (by cases pkt <;> rfl)
  cases pkt with
  | C_LOGIN id password =>
    show ∀ f ∈ Protocol.C_LOGIN.schema.fields, f.codec.Sound _ (f.get ⟨id, password, []⟩)
    simp [Protocol.C_LOGIN.schema]
  | C_ENTER_GAME info =>
    show ∀ f ∈ Protocol.C_ENTER_GAME.schema.fields,
      f.codec.Sound _ (f.get ⟨some (info.toMessage toBits), []⟩)
    simpa [Protocol.C_ENTER_GAME.schema] using ObjectInfo.sound_toMessage toBits h
  | C_ENTER_ROOM roomNumber =>
    show ∀ f ∈ Protocol.C_ENTER_ROOM.schema.fields, f.codec.Sound _ (f.get ⟨none, roomNumber, []⟩)
    simp [Protocol.C_ENTER_ROOM.schema]
  | C_LEAVE_GAME => exact fun _ hf => absurd hf List.not_mem_nil
  | C_MOVE info =>
    show ∀ f ∈ Protocol.C_MOVE.schema.fields,
      f.codec.Sound _ (f.get ⟨some (info.toMessage toBits), []⟩)
    have hinfo := PosInfo.Sound.toMessage toBits h (d := MessageClass.recursionLimit - 1)
      (by decide)
    simpa [Protocol.C_MOVE.schema] using hinfo
  | C_SHOOT object =>
    show ∀ f ∈ Protocol.C_SHOOT.schema.fields,
      f.codec.Sound _ (f.get ⟨some (object.toMessage toBits), []⟩)
    simpa [Protocol.C_SHOOT.schema] using ObjectInfo.sound_toMessage toBits h
  | C_REMOVE_BULLET objectIds =>
    show ∀ f ∈ Protocol.C_REMOVE_BULLET.schema.fields, f.codec.Sound _ (f.get ⟨objectIds, []⟩)
    simp [Protocol.C_REMOVE_BULLET.schema]
  | C_SCORE playerId monsterId =>
    show ∀ f ∈ Protocol.C_SCORE.schema.fields,
      f.codec.Sound _ (f.get ⟨playerId, monsterId, 0, []⟩)
    simp [Protocol.C_SCORE.schema]
  | C_CHAT msg =>
    show ∀ f ∈ Protocol.C_CHAT.schema.fields, f.codec.Sound _ (f.get ⟨msg, []⟩)
    simp [Protocol.C_CHAT.schema]
  | C_AI => exact fun _ hf => absurd hf List.not_mem_nil

/-- The serializer of the generated classes. -/
def ClientPacket.serialize (pkt : ClientPacket R) : List UInt8 :=
  pkt.messageClass.internalSerialize (pkt.toMessage toBits)

/-- A number in as many bytes as it takes. -/
theorem varint_eq_encode {k n : Nat} (h : n < 128 ^ (k + 1)) : varint n = Base128.encode k n := by
  induction k generalizing n with
  | zero =>
    rw [varint, if_pos (by omega)]
    rfl
  | succ k ih =>
    rw [varint, Base128.encode]
    by_cases hn : n < 128
    · rw [if_pos hn, if_pos hn]
    · have hdiv : n / 128 < 128 ^ (k + 1) := by
        rw [pow_succ] at h
        exact Nat.div_lt_of_lt_mul (by rwa [Nat.mul_comm])
      rw [if_neg hn, if_neg hn, ih hdiv]

/-- The records of a `string` field are what `WriteStringMaybeAliased` writes. -/
theorem flatMap_write_string (number : Nat) (tag : UInt32) {value : ProtoString}
    (hlen : value.length < 2 ^ 32)
    (htag : WireFormat.writeVarint32 tag = varint (8 * number + 2)) :
    (WireFormat.string.write value).flatMap (WireFormat.writeVarint32 tag ++ ·) =
      stringField number value := by
  have hlength : WireFormat.writeVarint32 (.ofNat value.length) = varint value.length := by
    have hbytes : value.length < 128 ^ (4 + 1) := Nat.lt_trans hlen (by decide)
    rw [varint_eq_encode hbytes, WireFormat.writeVarint32, UInt32.toNat_ofNat',
      Nat.mod_eq_of_lt hlen]
  show (if value = [] then []
    else [WireFormat.writeVarint32 (.ofNat value.length) ++ value]).flatMap _ = _
  unfold stringField
  by_cases hempty : value = []
  · subst hempty
    rfl
  · rw [if_neg hempty, if_neg (by simpa using hempty), List.flatMap_singleton, htag, hlength,
      List.append_assoc]

/-- The serializer writes a login as `C_LOGIN::_InternalSerialize` does. -/
theorem ClientPacket.serialize_C_LOGIN {id password : ProtoString} (hid : id.length < 2 ^ 32)
    (hpassword : password.length < 2 ^ 32) :
    (C_LOGIN id password : ClientPacket R).serialize toBits =
      C_LOGIN.internalSerialize id password := by
  have hid := flatMap_write_string 1 10 hid (varint_eq_encode (by decide)).symm
  have hpassword := flatMap_write_string 2 18 hpassword
    (varint_eq_encode (by decide)).symm
  have hfields : (C_LOGIN id password : ClientPacket R).serialize toBits =
      (WireFormat.string.write id).flatMap (WireFormat.writeVarint32 10 ++ ·) ++
        ((WireFormat.string.write password).flatMap (WireFormat.writeVarint32 18 ++ ·) ++ []) ++
          [] := rfl
  unfold C_LOGIN.internalSerialize
  rw [hfields, hid, hpassword, List.append_nil, List.append_nil]

/-- All strings of the packet are texts. -/
def ClientPacket.Utf8 (pkt : ClientPacket R) : Prop :=
  pkt.messageClass.Utf8 (pkt.toMessage toBits)

end FromClient

end S1Client
