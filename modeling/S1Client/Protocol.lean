import Mathlib.Algebra.Group.Defs

/-!
# The messages of the protocol

The generated classes of `Enum.proto`, `Struct.proto` and `Protocol.proto`, with
the fields the client reads or writes.  `float` coordinates are values of a type
`R`: the client moves them around and, in `AS1Player::Tick`, computes with them,
but no handler branches on one.

A message field may be absent on the wire; its accessor then returns the default
instance.  Scalars that are absent read as zero, so they need no `Option`.  Fields that a
class does not know stay in its messages; the client passes on those of a `PosInfo`.
-/
namespace S1Client

/-! ## Fields that are not known -/

namespace WireFormat

/-- A field of an `UnknownFieldSet`, with its number. -/
inductive UnknownField where
  | varint (number : UInt32) (value : UInt64)
  | fixed32 (number value : UInt32)
  | fixed64 (number : UInt32) (value : UInt64)
  | lengthDelimited (number : UInt32) (value : List UInt8)
  | group (number : UInt32) (fields : List UnknownField)
  deriving Repr

abbrev UnknownFieldSet := List UnknownField

mutual

def UnknownField.decEq : (f g : UnknownField) → Decidable (f = g)
  | .varint m v, .varint n w => decidable_of_iff (m = n ∧ v = w) (by simp)
  | .fixed32 m v, .fixed32 n w => decidable_of_iff (m = n ∧ v = w) (by simp)
  | .fixed64 m v, .fixed64 n w => decidable_of_iff (m = n ∧ v = w) (by simp)
  | .lengthDelimited m v, .lengthDelimited n w => decidable_of_iff (m = n ∧ v = w) (by simp)
  | .group m fields, .group n fields' =>
    have := UnknownFieldSet.decEq fields fields'
    decidable_of_iff (m = n ∧ fields = fields') (by simp)
  | .varint .., .fixed32 .. | .varint .., .fixed64 .. | .varint .., .lengthDelimited ..
  | .varint .., .group .. | .fixed32 .., .varint .. | .fixed32 .., .fixed64 ..
  | .fixed32 .., .lengthDelimited .. | .fixed32 .., .group .. | .fixed64 .., .varint ..
  | .fixed64 .., .fixed32 .. | .fixed64 .., .lengthDelimited .. | .fixed64 .., .group ..
  | .lengthDelimited .., .varint .. | .lengthDelimited .., .fixed32 ..
  | .lengthDelimited .., .fixed64 .. | .lengthDelimited .., .group .. | .group .., .varint ..
  | .group .., .fixed32 .. | .group .., .fixed64 .. | .group .., .lengthDelimited .. =>
    .isFalse (by simp)

def UnknownFieldSet.decEq : (fields fields' : UnknownFieldSet) → Decidable (fields = fields')
  | [], [] => .isTrue rfl
  | [], _ :: _ | _ :: _, [] => .isFalse (by simp)
  | f :: fields, g :: fields' =>
    have := f.decEq g
    have := UnknownFieldSet.decEq fields fields'
    decidable_of_iff (f = g ∧ fields = fields') (by simp)

end

instance : DecidableEq UnknownField := UnknownField.decEq

end WireFormat

open WireFormat (UnknownFieldSet)

/-! ## Enumerations

proto3 enums are open: a number without a name is kept as it came. -/

inductive ObjectType where
  | none | creature | enemy | projectile | env | player
  | unrecognized (value : Int32)
  deriving DecidableEq, Repr

inductive PlayerType where
  | none | yoshika | lynette | sanya
  | unrecognized (value : Int32)
  deriving DecidableEq, Repr

/-- The number of a player type, as `player_type()` converts to `int`. -/
def PlayerType.toInt : PlayerType → Int32
  | .none => 0
  | .yoshika => 1
  | .lynette => 2
  | .sanya => 3
  | .unrecognized value => value

inductive MoveState where
  | none | idle | run | aim
  | unrecognized (value : Int32)
  deriving DecidableEq, Repr

/-- `Protocol::AiState`. -/
inductive ProtoAiState where
  | none | idle | move | attack | runaway
  | unrecognized (value : Int32)
  deriving DecidableEq, Repr

/-! ## Structures -/

/-- The bytes of a protobuf `string`. -/
abbrev ProtoString := List UInt8

structure PosInfo (R : Type) where
  objectId : UInt64
  x : R
  y : R
  z : R
  yaw : R
  pitch : R
  state : MoveState
  unknownFields : UnknownFieldSet
  deriving DecidableEq, Repr

structure CharacterInfo where
  score : UInt64
  name : ProtoString
  deriving DecidableEq, Repr

structure ObjectInfo (R : Type) where
  objectId : UInt64
  objectType : ObjectType
  posInfo? : Option (PosInfo R)
  playerType : PlayerType
  playerInfo? : Option CharacterInfo
  deriving DecidableEq, Repr

variable {R : Type}

/-- The default instance of `PosInfo`. -/
def PosInfo.default [Zero R] : PosInfo R := ⟨0, 0, 0, 0, 0, 0, .none, []⟩

/-- The default instance of `CharacterInfo`. -/
def CharacterInfo.default : CharacterInfo := ⟨0, []⟩

/-- The default instance of `ObjectInfo`. -/
def ObjectInfo.default : ObjectInfo R := ⟨0, .none, none, .none, none⟩

/-- `pos_info()`. -/
def ObjectInfo.posInfo [Zero R] (info : ObjectInfo R) : PosInfo R := info.posInfo?.getD .default

/-- `player_info()`. -/
def ObjectInfo.playerInfo (info : ObjectInfo R) : CharacterInfo := info.playerInfo?.getD .default

/-! ## Server packets -/

structure S_LOGIN (R : Type) where
  success : Bool
  players : List (ObjectInfo R)
  deriving DecidableEq, Repr

structure S_ENTER_GAME (R : Type) where
  success : Bool
  player? : Option (ObjectInfo R)
  deriving DecidableEq, Repr

/-- `player()`. -/
def S_ENTER_GAME.player (pkt : S_ENTER_GAME R) : ObjectInfo R :=
  pkt.player?.getD .default

structure S_ENTER_ROOM where
  success : Bool
  deriving DecidableEq, Repr

structure S_SPAWN (R : Type) where
  objects : List (ObjectInfo R)
  deriving DecidableEq, Repr

structure S_DESPAWN (R : Type) where
  objects : List (ObjectInfo R)
  deriving DecidableEq, Repr

structure S_MOVE (R : Type) where
  info? : Option (PosInfo R)
  deriving DecidableEq, Repr

/-- `info()`. -/
def S_MOVE.info [Zero R] (pkt : S_MOVE R) : PosInfo R := pkt.info?.getD .default

structure S_SCORE where
  scoreDecision : Bool
  point : UInt64
  deriving DecidableEq, Repr

structure S_CHAT where
  playerId : UInt64
  msg : ProtoString
  deriving DecidableEq, Repr

structure S_AI (R : Type) where
  objectId : UInt64
  state : ProtoAiState
  targetLocation? : Option (PosInfo R)
  deriving DecidableEq, Repr

/-- `target_location()`. -/
def S_AI.targetLocation [Zero R] (pkt : S_AI R) : PosInfo R :=
  pkt.targetLocation?.getD .default

/-- A decoded packet from the server: one constructor for each registered
handler. -/
inductive ServerPacket (R : Type) where
  | S_LOGIN (pkt : S_LOGIN R)
  | S_ENTER_GAME (pkt : S_ENTER_GAME R)
  | S_ENTER_ROOM (pkt : S_ENTER_ROOM)
  | S_LEAVE_GAME
  | S_SPAWN (pkt : S_SPAWN R)
  | S_DESPAWN (pkt : S_DESPAWN R)
  | S_MOVE (pkt : S_MOVE R)
  | S_SHOOT
  | S_REMOVE_BULLET
  | S_SCORE (pkt : S_SCORE)
  | S_CHAT (pkt : S_CHAT)
  | S_AI (pkt : S_AI R)
  deriving DecidableEq, Repr

/-! ## Client packets -/

inductive ClientPacket (R : Type) where
  | C_LOGIN (id password : ProtoString)
  | C_ENTER_GAME (selectedCharacter : ObjectInfo R)
  | C_ENTER_ROOM (roomNumber : UInt64)
  | C_LEAVE_GAME
  | C_MOVE (info : PosInfo R)
  | C_SHOOT (object : ObjectInfo R)
  | C_REMOVE_BULLET (objectIds : UInt64)
  | C_SCORE (playerId monsterId : UInt64)
  | C_CHAT (msg : ProtoString)
  | C_AI
  deriving DecidableEq, Repr

/-- The packet id each `MakeSendBuffer` overload passes on. -/
def ClientPacket.pktId : ClientPacket R → UInt16
  | C_LOGIN .. => 1000
  | C_ENTER_GAME .. => 1002
  | C_ENTER_ROOM .. => 1004
  | C_LEAVE_GAME => 1006
  | C_MOVE .. => 1010
  | C_SHOOT .. => 1012
  | C_REMOVE_BULLET .. => 1014
  | C_SCORE .. => 1016
  | C_CHAT .. => 1018
  | C_AI => 1020

end S1Client
