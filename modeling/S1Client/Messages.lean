import S1Client.FieldTypes

/-!
# The generated messages

The classes of `Struct.pb.h` and `Protocol.pb.h` with all their fields, as schemas: for
each field the tag that `_InternalParse` compares with and `_InternalSerialize` writes,
its type, and the member it is kept in.  `float`s are kept by their bits and
enumerations by their numbers.  `unknownFields` is what `_internal_metadata_` has.
-/
namespace S1Client.Protocol
open Tagged WireFormat

structure PosInfo where
  objectId : UInt64
  x : UInt32
  y : UInt32
  z : UInt32
  yaw : UInt32
  pitch : UInt32
  state : Int32
  unknownFields : UnknownFieldSet
  deriving Repr

def PosInfo.schema : Schema wireFormat PosInfo where
  empty := ⟨0, 0, 0, 0, 0, 0, 0, []⟩
  fields := [
    ⟨8, _, uint64, objectId, fun m v => { m with objectId := v }, by decide, fun _ _ => rfl⟩,
    ⟨21, _, float, x, fun m v => { m with x := v }, by decide, fun _ _ => rfl⟩,
    ⟨29, _, float, y, fun m v => { m with y := v }, by decide, fun _ _ => rfl⟩,
    ⟨37, _, float, z, fun m v => { m with z := v }, by decide, fun _ _ => rfl⟩,
    ⟨45, _, float, yaw, fun m v => { m with yaw := v }, by decide, fun _ _ => rfl⟩,
    ⟨53, _, float, pitch, fun m v => { m with pitch := v }, by decide, fun _ _ => rfl⟩,
    ⟨56, _, enum, state, fun m v => { m with state := v }, by decide, fun _ _ => rfl⟩]
  kept := unknownFields
  withKept m us := { m with unknownFields := us }
  apart := by simp [Field.Apart]
  ext := by
    rintro ⟨⟩ ⟨⟩ h hkept
    simpa [and_assoc] using And.intro h hkept
  get_empty := by simp

structure CharacterInfo where
  score : UInt64
  name : List UInt8
  unknownFields : UnknownFieldSet
  deriving Repr

def CharacterInfo.schema : Schema wireFormat CharacterInfo where
  empty := ⟨0, [], []⟩
  fields := [
    ⟨8, _, uint64, score, fun m v => { m with score := v }, by decide, fun _ _ => rfl⟩,
    ⟨18, _, string, name, fun m v => { m with name := v }, by decide, fun _ _ => rfl⟩]
  kept := unknownFields
  withKept m us := { m with unknownFields := us }
  apart := by simp [Field.Apart]
  ext := by
    rintro ⟨⟩ ⟨⟩ h hkept
    simpa [and_assoc] using And.intro h hkept
  get_empty := by simp

structure ObjectInfo where
  objectId : UInt64
  objectType : Int32
  posInfo? : Option PosInfo
  playerType : Int32
  playerInfo? : Option CharacterInfo
  projectileType : Int32
  unknownFields : UnknownFieldSet
  deriving Repr

def ObjectInfo.schema : Schema wireFormat ObjectInfo where
  empty := ⟨0, 0, none, 0, none, 0, []⟩
  fields := [
    ⟨8, _, uint64, objectId, fun m v => { m with objectId := v }, by decide, fun _ _ => rfl⟩,
    ⟨16, _, enum, objectType, fun m v => { m with objectType := v }, by decide, fun _ _ => rfl⟩,
    ⟨26, _, .message PosInfo.schema, posInfo?, fun m v => { m with posInfo? := v },
      delimits_of_hasType (by decide), fun _ _ => rfl⟩,
    ⟨32, _, enum, playerType, fun m v => { m with playerType := v }, by decide, fun _ _ => rfl⟩,
    ⟨42, _, .message CharacterInfo.schema, playerInfo?, fun m v => { m with playerInfo? := v },
      delimits_of_hasType (by decide), fun _ _ => rfl⟩,
    ⟨48, _, enum, projectileType, fun m v => { m with projectileType := v },
      by decide, fun _ _ => rfl⟩]
  kept := unknownFields
  withKept m us := { m with unknownFields := us }
  apart := by simp [Field.Apart]
  ext := by
    rintro ⟨⟩ ⟨⟩ h hkept
    simpa [and_assoc] using And.intro h hkept
  get_empty := by simp

structure C_LOGIN where
  id : List UInt8
  password : List UInt8
  unknownFields : UnknownFieldSet
  deriving Repr

def C_LOGIN.schema : Schema wireFormat C_LOGIN where
  empty := ⟨[], [], []⟩
  fields := [
    ⟨10, _, string, id, fun m v => { m with id := v }, by decide, fun _ _ => rfl⟩,
    ⟨18, _, string, password, fun m v => { m with password := v }, by decide, fun _ _ => rfl⟩]
  kept := unknownFields
  withKept m us := { m with unknownFields := us }
  apart := by simp [Field.Apart]
  ext := by
    rintro ⟨⟩ ⟨⟩ h hkept
    simpa [and_assoc] using And.intro h hkept
  get_empty := by simp

structure S_LOGIN where
  success : Bool
  players : List ObjectInfo
  unknownFields : UnknownFieldSet
  deriving Repr

def S_LOGIN.schema : Schema wireFormat S_LOGIN where
  empty := ⟨false, [], []⟩
  fields := [
    ⟨8, _, bool, success, fun m v => { m with success := v }, by decide, fun _ _ => rfl⟩,
    ⟨18, _, .repeated ObjectInfo.schema, players, fun m v => { m with players := v },
      delimits_of_hasType (by decide), fun _ _ => rfl⟩]
  kept := unknownFields
  withKept m us := { m with unknownFields := us }
  apart := by simp [Field.Apart]
  ext := by
    rintro ⟨⟩ ⟨⟩ h hkept
    simpa [and_assoc] using And.intro h hkept
  get_empty := by simp

structure C_ENTER_GAME where
  selectedCharacter? : Option ObjectInfo
  unknownFields : UnknownFieldSet
  deriving Repr

def C_ENTER_GAME.schema : Schema wireFormat C_ENTER_GAME where
  empty := ⟨none, []⟩
  fields := [
    ⟨10, _, .message ObjectInfo.schema, selectedCharacter?,
      fun m v => { m with selectedCharacter? := v },
      delimits_of_hasType (by decide), fun _ _ => rfl⟩]
  kept := unknownFields
  withKept m us := { m with unknownFields := us }
  apart := List.pairwise_singleton ..
  ext := by
    rintro ⟨⟩ ⟨⟩ h hkept
    simpa using And.intro h hkept
  get_empty := by simp

structure S_ENTER_GAME where
  success : Bool
  player? : Option ObjectInfo
  unknownFields : UnknownFieldSet
  deriving Repr

def S_ENTER_GAME.schema : Schema wireFormat S_ENTER_GAME where
  empty := ⟨false, none, []⟩
  fields := [
    ⟨8, _, bool, success, fun m v => { m with success := v }, by decide, fun _ _ => rfl⟩,
    ⟨18, _, .message ObjectInfo.schema, player?, fun m v => { m with player? := v },
      delimits_of_hasType (by decide), fun _ _ => rfl⟩]
  kept := unknownFields
  withKept m us := { m with unknownFields := us }
  apart := by simp [Field.Apart]
  ext := by
    rintro ⟨⟩ ⟨⟩ h hkept
    simpa [and_assoc] using And.intro h hkept
  get_empty := by simp

structure C_ENTER_ROOM where
  player? : Option ObjectInfo
  roomNumber : UInt64
  unknownFields : UnknownFieldSet
  deriving Repr

def C_ENTER_ROOM.schema : Schema wireFormat C_ENTER_ROOM where
  empty := ⟨none, 0, []⟩
  fields := [
    ⟨10, _, .message ObjectInfo.schema, player?, fun m v => { m with player? := v },
      delimits_of_hasType (by decide), fun _ _ => rfl⟩,
    ⟨16, _, uint64, roomNumber, fun m v => { m with roomNumber := v }, by decide, fun _ _ => rfl⟩]
  kept := unknownFields
  withKept m us := { m with unknownFields := us }
  apart := by simp [Field.Apart]
  ext := by
    rintro ⟨⟩ ⟨⟩ h hkept
    simpa [and_assoc] using And.intro h hkept
  get_empty := by simp

structure S_ENTER_ROOM where
  success : Bool
  player? : Option ObjectInfo
  unknownFields : UnknownFieldSet
  deriving Repr

def S_ENTER_ROOM.schema : Schema wireFormat S_ENTER_ROOM where
  empty := ⟨false, none, []⟩
  fields := [
    ⟨8, _, bool, success, fun m v => { m with success := v }, by decide, fun _ _ => rfl⟩,
    ⟨18, _, .message ObjectInfo.schema, player?, fun m v => { m with player? := v },
      delimits_of_hasType (by decide), fun _ _ => rfl⟩]
  kept := unknownFields
  withKept m us := { m with unknownFields := us }
  apart := by simp [Field.Apart]
  ext := by
    rintro ⟨⟩ ⟨⟩ h hkept
    simpa [and_assoc] using And.intro h hkept
  get_empty := by simp

structure C_LEAVE_GAME where
  unknownFields : UnknownFieldSet
  deriving Repr

def C_LEAVE_GAME.schema : Schema wireFormat C_LEAVE_GAME where
  empty := ⟨[]⟩
  fields := []
  kept := unknownFields
  withKept m us := { m with unknownFields := us }
  apart := .nil
  ext := by
    rintro ⟨⟩ ⟨⟩ - hkept
    exact congrArg _ hkept
  get_empty _ h := absurd h List.not_mem_nil

structure S_LEAVE_GAME where
  unknownFields : UnknownFieldSet
  deriving Repr

def S_LEAVE_GAME.schema : Schema wireFormat S_LEAVE_GAME where
  empty := ⟨[]⟩
  fields := []
  kept := unknownFields
  withKept m us := { m with unknownFields := us }
  apart := .nil
  ext := by
    rintro ⟨⟩ ⟨⟩ - hkept
    exact congrArg _ hkept
  get_empty _ h := absurd h List.not_mem_nil

structure S_SPAWN where
  objects : List ObjectInfo
  unknownFields : UnknownFieldSet
  deriving Repr

def S_SPAWN.schema : Schema wireFormat S_SPAWN where
  empty := ⟨[], []⟩
  fields := [
    ⟨10, _, .repeated ObjectInfo.schema, objects, fun m v => { m with objects := v },
      delimits_of_hasType (by decide), fun _ _ => rfl⟩]
  kept := unknownFields
  withKept m us := { m with unknownFields := us }
  apart := List.pairwise_singleton ..
  ext := by
    rintro ⟨⟩ ⟨⟩ h hkept
    simpa using And.intro h hkept
  get_empty := by simp

structure S_DESPAWN where
  objects : List ObjectInfo
  unknownFields : UnknownFieldSet
  deriving Repr

def S_DESPAWN.schema : Schema wireFormat S_DESPAWN where
  empty := ⟨[], []⟩
  fields := [
    ⟨10, _, .repeated ObjectInfo.schema, objects, fun m v => { m with objects := v },
      delimits_of_hasType (by decide), fun _ _ => rfl⟩]
  kept := unknownFields
  withKept m us := { m with unknownFields := us }
  apart := List.pairwise_singleton ..
  ext := by
    rintro ⟨⟩ ⟨⟩ h hkept
    simpa using And.intro h hkept
  get_empty := by simp

structure C_MOVE where
  info? : Option PosInfo
  unknownFields : UnknownFieldSet
  deriving Repr

def C_MOVE.schema : Schema wireFormat C_MOVE where
  empty := ⟨none, []⟩
  fields := [
    ⟨10, _, .message PosInfo.schema, info?, fun m v => { m with info? := v },
      delimits_of_hasType (by decide), fun _ _ => rfl⟩]
  kept := unknownFields
  withKept m us := { m with unknownFields := us }
  apart := List.pairwise_singleton ..
  ext := by
    rintro ⟨⟩ ⟨⟩ h hkept
    simpa using And.intro h hkept
  get_empty := by simp

structure S_MOVE where
  info? : Option PosInfo
  unknownFields : UnknownFieldSet
  deriving Repr

def S_MOVE.schema : Schema wireFormat S_MOVE where
  empty := ⟨none, []⟩
  fields := [
    ⟨10, _, .message PosInfo.schema, info?, fun m v => { m with info? := v },
      delimits_of_hasType (by decide), fun _ _ => rfl⟩]
  kept := unknownFields
  withKept m us := { m with unknownFields := us }
  apart := List.pairwise_singleton ..
  ext := by
    rintro ⟨⟩ ⟨⟩ h hkept
    simpa using And.intro h hkept
  get_empty := by simp

structure C_SHOOT where
  object? : Option ObjectInfo
  unknownFields : UnknownFieldSet
  deriving Repr

def C_SHOOT.schema : Schema wireFormat C_SHOOT where
  empty := ⟨none, []⟩
  fields := [
    ⟨10, _, .message ObjectInfo.schema, object?, fun m v => { m with object? := v },
      delimits_of_hasType (by decide), fun _ _ => rfl⟩]
  kept := unknownFields
  withKept m us := { m with unknownFields := us }
  apart := List.pairwise_singleton ..
  ext := by
    rintro ⟨⟩ ⟨⟩ h hkept
    simpa using And.intro h hkept
  get_empty := by simp

structure S_SHOOT where
  object? : Option ObjectInfo
  isYours : Bool
  unknownFields : UnknownFieldSet
  deriving Repr

def S_SHOOT.schema : Schema wireFormat S_SHOOT where
  empty := ⟨none, false, []⟩
  fields := [
    ⟨10, _, .message ObjectInfo.schema, object?, fun m v => { m with object? := v },
      delimits_of_hasType (by decide), fun _ _ => rfl⟩,
    ⟨16, _, bool, isYours, fun m v => { m with isYours := v }, by decide, fun _ _ => rfl⟩]
  kept := unknownFields
  withKept m us := { m with unknownFields := us }
  apart := by simp [Field.Apart]
  ext := by
    rintro ⟨⟩ ⟨⟩ h hkept
    simpa [and_assoc] using And.intro h hkept
  get_empty := by simp

structure C_REMOVE_BULLET where
  objectIds : UInt64
  unknownFields : UnknownFieldSet
  deriving Repr

def C_REMOVE_BULLET.schema : Schema wireFormat C_REMOVE_BULLET where
  empty := ⟨0, []⟩
  fields := [
    ⟨8, _, uint64, objectIds, fun m v => { m with objectIds := v }, by decide, fun _ _ => rfl⟩]
  kept := unknownFields
  withKept m us := { m with unknownFields := us }
  apart := List.pairwise_singleton ..
  ext := by
    rintro ⟨⟩ ⟨⟩ h hkept
    simpa using And.intro h hkept
  get_empty := by simp

structure S_REMOVE_BULLET where
  objectIds : UInt64
  unknownFields : UnknownFieldSet
  deriving Repr

def S_REMOVE_BULLET.schema : Schema wireFormat S_REMOVE_BULLET where
  empty := ⟨0, []⟩
  fields := [
    ⟨8, _, uint64, objectIds, fun m v => { m with objectIds := v }, by decide, fun _ _ => rfl⟩]
  kept := unknownFields
  withKept m us := { m with unknownFields := us }
  apart := List.pairwise_singleton ..
  ext := by
    rintro ⟨⟩ ⟨⟩ h hkept
    simpa using And.intro h hkept
  get_empty := by simp

structure C_SCORE where
  playerId : UInt64
  monsterId : UInt64
  point : UInt64
  unknownFields : UnknownFieldSet
  deriving Repr

def C_SCORE.schema : Schema wireFormat C_SCORE where
  empty := ⟨0, 0, 0, []⟩
  fields := [
    ⟨8, _, uint64, playerId, fun m v => { m with playerId := v }, by decide, fun _ _ => rfl⟩,
    ⟨16, _, uint64, monsterId, fun m v => { m with monsterId := v }, by decide, fun _ _ => rfl⟩,
    ⟨24, _, uint64, point, fun m v => { m with point := v }, by decide, fun _ _ => rfl⟩]
  kept := unknownFields
  withKept m us := { m with unknownFields := us }
  apart := by simp [Field.Apart]
  ext := by
    rintro ⟨⟩ ⟨⟩ h hkept
    simpa [and_assoc] using And.intro h hkept
  get_empty := by simp

structure S_SCORE where
  scoreDecision : Bool
  point : UInt64
  unknownFields : UnknownFieldSet
  deriving Repr

def S_SCORE.schema : Schema wireFormat S_SCORE where
  empty := ⟨false, 0, []⟩
  fields := [
    ⟨8, _, bool, scoreDecision, fun m v => { m with scoreDecision := v },
      by decide, fun _ _ => rfl⟩,
    ⟨16, _, uint64, point, fun m v => { m with point := v }, by decide, fun _ _ => rfl⟩]
  kept := unknownFields
  withKept m us := { m with unknownFields := us }
  apart := by simp [Field.Apart]
  ext := by
    rintro ⟨⟩ ⟨⟩ h hkept
    simpa [and_assoc] using And.intro h hkept
  get_empty := by simp

structure C_CHAT where
  msg : List UInt8
  unknownFields : UnknownFieldSet
  deriving Repr

def C_CHAT.schema : Schema wireFormat C_CHAT where
  empty := ⟨[], []⟩
  fields := [
    ⟨10, _, string, msg, fun m v => { m with msg := v }, by decide, fun _ _ => rfl⟩]
  kept := unknownFields
  withKept m us := { m with unknownFields := us }
  apart := List.pairwise_singleton ..
  ext := by
    rintro ⟨⟩ ⟨⟩ h hkept
    simpa using And.intro h hkept
  get_empty := by simp

structure S_CHAT where
  playerId : UInt64
  msg : List UInt8
  unknownFields : UnknownFieldSet
  deriving Repr

def S_CHAT.schema : Schema wireFormat S_CHAT where
  empty := ⟨0, [], []⟩
  fields := [
    ⟨8, _, uint64, playerId, fun m v => { m with playerId := v }, by decide, fun _ _ => rfl⟩,
    ⟨18, _, string, msg, fun m v => { m with msg := v }, by decide, fun _ _ => rfl⟩]
  kept := unknownFields
  withKept m us := { m with unknownFields := us }
  apart := by simp [Field.Apart]
  ext := by
    rintro ⟨⟩ ⟨⟩ h hkept
    simpa [and_assoc] using And.intro h hkept
  get_empty := by simp

structure C_AI where
  unknownFields : UnknownFieldSet
  deriving Repr

def C_AI.schema : Schema wireFormat C_AI where
  empty := ⟨[]⟩
  fields := []
  kept := unknownFields
  withKept m us := { m with unknownFields := us }
  apart := .nil
  ext := by
    rintro ⟨⟩ ⟨⟩ - hkept
    exact congrArg _ hkept
  get_empty _ h := absurd h List.not_mem_nil

structure S_AI where
  objectId : UInt64
  state : Int32
  targetLocation? : Option PosInfo
  unknownFields : UnknownFieldSet
  deriving Repr

def S_AI.schema : Schema wireFormat S_AI where
  empty := ⟨0, 0, none, []⟩
  fields := [
    ⟨8, _, uint64, objectId, fun m v => { m with objectId := v }, by decide, fun _ _ => rfl⟩,
    ⟨16, _, enum, state, fun m v => { m with state := v }, by decide, fun _ _ => rfl⟩,
    ⟨26, _, .message PosInfo.schema, targetLocation?, fun m v => { m with targetLocation? := v },
      delimits_of_hasType (by decide), fun _ _ => rfl⟩]
  kept := unknownFields
  withKept m us := { m with unknownFields := us }
  apart := by simp [Field.Apart]
  ext := by
    rintro ⟨⟩ ⟨⟩ h hkept
    simpa [and_assoc] using And.intro h hkept
  get_empty := by simp

end S1Client.Protocol
