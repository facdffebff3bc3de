import S1Client.Protocol

/-!
# The actors

`AS1Player` and `AS1Enemy`: the fields the client keeps on an actor and the
member functions that write them.  The engine's side of an actor is its location
and, for `BeginPlay`, the rotation of its controller; both come from the engine
when the actor is spawned.
-/
namespace S1Client

/-- What stops the client: undefined behaviour it runs into, or an assertion. -/
inductive Fault where
  /-- A null pointer was dereferenced. -/
  | nullPointer
  /-- A member function was called on a destroyed actor. -/
  | destroyedActor
  /-- A freed map slot was read. -/
  | freedSlot
  /-- An array was indexed outside its bounds. -/
  | outOfBounds
  /-- An `assert` failed. -/
  | assertFailed
  deriving DecidableEq, Repr

structure FVector (R : Type) where
  x : R
  y : R
  z : R
  deriving DecidableEq, Repr

/-- Where the engine put a new actor, and its control rotation. -/
structure Placement (R : Type) where
  location : FVector R
  yaw : R
  pitch : R
  deriving DecidableEq, Repr

/-- `Info`'s position as the `FVector` a spawn or a move is given. -/
def PosInfo.location {R : Type} (info : PosInfo R) : FVector R := ⟨info.x, info.y, info.z⟩

/-- What `AS1Player::Tick` writes: where the actor stands, and the control rotation. -/
def PosInfo.withPlacement {R : Type} (info : PosInfo R) (place : Placement R) : PosInfo R :=
  { info with
    x := place.location.x
    y := place.location.y
    z := place.location.z
    yaw := place.yaw
    pitch := place.pitch }

/-- `assert`: does nothing when assertions are compiled out. -/
def assert (asserts : Bool) (p : Bool) : Except Fault Unit :=
  if asserts && !p then .error .assertFailed else .ok ()

/-! ## Players -/

structure AS1Player (R : Type) where
  isMine : Bool
  score : Int32
  mapNum : Int32
  posInfo : PosInfo R
  destInfo : PosInfo R
  objectInfo : ObjectInfo R
  /-- The engine's actor location. -/
  location : FVector R
  deriving DecidableEq, Repr

namespace AS1Player
variable {R : Type}

/-- `AS1Player::AS1Player`, over the zeroed memory of a new object. -/
def construct [Zero R] : AS1Player R where
  isMine := false
  score := 0
  mapNum := 0
  posInfo := .default
  destInfo := .default
  objectInfo := .default
  location := ⟨0, 0, 0⟩

/-- `AS1Player::BeginPlay`: the destination is where the actor stands. -/
def beginPlay (p : AS1Player R) (place : Placement R) : AS1Player R :=
  { p with
    location := place.location
    destInfo := { p.destInfo with
      x := place.location.x
      y := place.location.y
      z := place.location.z
      yaw := place.yaw
      pitch := place.pitch } }

/-- `AS1Player::SetPlayerInfo`. -/
def setPlayerInfo (asserts : Bool) (p : AS1Player R) (info : ObjectInfo R) :
    Except Fault (AS1Player R) := do
  if p.objectInfo.objectId ≠ 0 then
    assert asserts (p.objectInfo.objectId = info.objectId)
  return { p with objectInfo := info }

/-- `AS1Player::SetPosInfo`: teleports the actor too. -/
def setPosInfo (asserts : Bool) (p : AS1Player R) (info : PosInfo R) :
    Except Fault (AS1Player R) := do
  if p.posInfo.objectId ≠ 0 then
    assert asserts (p.posInfo.objectId = info.objectId)
  return { p with posInfo := info, location := info.location }

/-- `AS1Player::SetDestInfo`. -/
def setDestInfo (asserts : Bool) (p : AS1Player R) (info : PosInfo R) :
    Except Fault (AS1Player R) := do
  if p.posInfo.objectId ≠ 0 then
    assert asserts (p.posInfo.objectId = info.objectId)
  return { p with destInfo := info }

/-- `AS1Player::SetIsMyPlayer`. -/
def setIsMyPlayer (p : AS1Player R) (isMyPlayer : Bool) : AS1Player R :=
  { p with isMine := isMyPlayer }

/-- `AS1Player::SetScore`. -/
def setScore (p : AS1Player R) (input : Int32) : AS1Player R := { p with score := input }

/-- `AS1Player::IncreaseScore`; the sum wraps as on the machines the client runs
on. -/
def increaseScore (p : AS1Player R) (input : Int32) : AS1Player R :=
  { p with score := p.score + input }

/-- `AS1Player::GetScore`. -/
def getScore (p : AS1Player R) : Int32 := p.score

/-- `AS1Player::SetMapNumber`. -/
def setMapNumber (p : AS1Player R) (number : Int32) : AS1Player R := { p with mapNum := number }

/-- `AS1Player::GetMapNumber`. -/
def getMapNumber (p : AS1Player R) : Int32 := p.mapNum

/-- `AS1Player::GetObjectId`: the 64-bit id narrowed to `int`. -/
def getObjectId (p : AS1Player R) : Int32 := p.objectInfo.objectId.toInt64.toInt32

end AS1Player

/-! ## Enemies -/

/-- `AiState` of an enemy actor. -/
inductive AiState where
  | none | idle | move | attack | runaway
  deriving DecidableEq, Repr

structure AS1Enemy (R : Type) where
  objectInfo : ObjectInfo R
  targetLocation : FVector R
  moveState : AiState
  deriving DecidableEq, Repr

namespace AS1Enemy
variable {R : Type}

/-- `AS1Enemy::AS1Enemy`, over the zeroed memory of a new object. -/
def construct [Zero R] : AS1Enemy R := ⟨.default, ⟨0, 0, 0⟩, .none⟩

/-- `AS1Enemy::SetEnemyInfo`. -/
def setEnemyInfo (asserts : Bool) (e : AS1Enemy R) (info : ObjectInfo R) :
    Except Fault (AS1Enemy R) := do
  if e.objectInfo.objectId ≠ 0 then
    assert asserts (e.objectInfo.objectId = info.objectId)
  return { e with objectInfo := info }

/-- `AS1Enemy::SetTargetLocation`. -/
def setTargetLocation (e : AS1Enemy R) (x y z : R) : AS1Enemy R :=
  { e with targetLocation := ⟨x, y, z⟩ }

/-- `AS1Enemy::SetMoveState`. -/
def setMoveState (e : AS1Enemy R) (state : AiState) : AS1Enemy R := { e with moveState := state }

/-- `AS1Enemy::GetObjectId`. -/
def getObjectId (e : AS1Enemy R) : Int32 := e.objectInfo.objectId.toInt64.toInt32

end AS1Enemy

/-- `SetDestInfo` stops only at its assertion: the id in the player's `PosInfo`
is set and is not the id in the message. -/
theorem AS1Player.setDestInfo_eq {R : Type} (asserts : Bool) (p : AS1Player R) (info : PosInfo R) :
    p.setDestInfo asserts info =
      if asserts = true ∧ p.posInfo.objectId ≠ 0 ∧ p.posInfo.objectId ≠ info.objectId then
        .error .assertFailed
      else .ok { p with destInfo := info } := by
  unfold setDestInfo assert
  by_cases h0 : p.posInfo.objectId = 0 <;> by_cases hid : p.posInfo.objectId = info.objectId <;>
    cases asserts <;> simp [h0, hid, bind, Except.bind, pure, Except.pure]

theorem AS1Player.setDestInfo_eq_ok {R : Type} {asserts : Bool} {p q : AS1Player R}
    {info : PosInfo R} (h : p.setDestInfo asserts info = .ok q) :
    q = { p with destInfo := info } := by
  rw [setDestInfo_eq] at h
  split at h
  · cases h
  · exact (Except.ok.inj h).symm

end S1Client
