import Mathlib.Algebra.Field.Defs
import Mathlib.Order.Lattice
import S1Client.Actors

/-!
# Ticks

`AS1Player::Tick` and `AS1MyPlayer::Tick` in exact arithmetic.  The square root
is a parameter, as is the rotation of the controller.  A tick writes coordinates
only: the ids of a player are those of its last `SetPlayerInfo` and
`SetPosInfo`, and the position the local player sends carries them, and the fields its
class does not know (`tick_sends_eq`).
-/
namespace S1Client

namespace FVector
variable {R : Type} [Field R]

def add (v w : FVector R) : FVector R := ⟨v.x + w.x, v.y + w.y, v.z + w.z⟩

def sub (v w : FVector R) : FVector R := ⟨v.x - w.x, v.y - w.y, v.z - w.z⟩

def scale (v : FVector R) (c : R) : FVector R := ⟨v.x * c, v.y * c, v.z * c⟩

def sizeSquared (v : FVector R) : R := v.x * v.x + v.y * v.y + v.z * v.z

/-- `Length`. -/
def length (sqrt : R → R) (v : FVector R) : R := sqrt v.sizeSquared

/-- `Normalize`: a vector that is too short is left alone. -/
def normalize [LinearOrder R] (sqrt : R → R) (v : FVector R) : FVector R :=
  if v.sizeSquared > 1 / 100000000 then v.scale (1 / sqrt v.sizeSquared) else v

end FVector

/-- What a tick reads from the engine: the time since the last one, and the
control rotation. -/
structure Frame (R : Type) where
  deltaTime : R
  yaw : R
  pitch : R

variable {R : Type} [Field R] [LinearOrder R]

/-- `AS1Player::Tick`.  The rotation a remote actor is given is read by nothing
and left out. -/
def AS1Player.tick (sqrt : R → R) (frame : Frame R) (p : AS1Player R) : AS1Player R :=
  let p := { p with
    posInfo := { p.posInfo with
      x := p.location.x
      y := p.location.y
      z := p.location.z
      yaw := frame.yaw
      pitch := frame.pitch } }
  if p.isMine then p
  else
    let moveDir := p.destInfo.location.sub p.location
    let distToDest := moveDir.length sqrt
    let moveDir := moveDir.normalize sqrt
    let moveDist := ((moveDir.scale 600).scale frame.deltaTime).length sqrt
    let moveDist := min moveDist distToDest
    { p with location := p.location.add (moveDir.scale moveDist) }

/-- `AS1MyPlayer`: the local player with its send timer. -/
structure AS1MyPlayer (R : Type) where
  player : AS1Player R
  movePacketSendTimer : R
  deriving DecidableEq, Repr

/-- `MOVE_PACKET_SEND_DELAY`. -/
def AS1MyPlayer.MOVE_PACKET_SEND_DELAY : R := 1 / 5

/-- `AS1MyPlayer::Tick`, with the packet it sends, if any. -/
def AS1MyPlayer.tick (sqrt : R → R) (frame : Frame R) (p : AS1MyPlayer R) :
    AS1MyPlayer R × Option (ClientPacket R) :=
  let player := p.player.tick sqrt frame
  let timer := p.movePacketSendTimer - frame.deltaTime
  if timer ≤ 0 then (⟨player, MOVE_PACKET_SEND_DELAY⟩, some (.C_MOVE player.posInfo))
  else (⟨player, timer⟩, none)

/-- A tick writes coordinates only. -/
theorem AS1Player.tick_writes (sqrt : R → R) (frame : Frame R) (p : AS1Player R) :
    (p.tick sqrt frame).posInfo =
        p.posInfo.withPlacement ⟨p.location, frame.yaw, frame.pitch⟩ ∧
      (p.tick sqrt frame).objectInfo = p.objectInfo := by
  unfold tick
  dsimp only
  split <;> exact ⟨rfl, rfl⟩

/-- The local player sends its `PosInfo`, as the tick leaves it. -/
theorem AS1MyPlayer.tick_sends_eq {sqrt : R → R} {frame : Frame R} {p : AS1MyPlayer R}
    {pkt : ClientPacket R} (h : (p.tick sqrt frame).2 = some pkt) :
    pkt = .C_MOVE (p.player.posInfo.withPlacement
      ⟨p.player.location, frame.yaw, frame.pitch⟩) := by
  unfold tick at h
  dsimp only at h
  split at h
  · rw [← (p.player.tick_writes sqrt frame).1]
    exact (Option.some.inj h).symm
  · cases h

/-- What the local player sends carries the id in its `PosInfo`. -/
theorem AS1MyPlayer.tick_sends {sqrt : R → R} {frame : Frame R} {p : AS1MyPlayer R}
    {pkt : ClientPacket R} (h : (p.tick sqrt frame).2 = some pkt) :
    ∃ info, pkt = .C_MOVE info ∧ info.objectId = p.player.posInfo.objectId :=
  ⟨_, tick_sends_eq h, rfl⟩

end S1Client
