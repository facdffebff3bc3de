import Mathlib.Algebra.Ring.Int.Defs
import S1Client.Steps
import S1Client.Registry
import S1Client.Actors

/-!
# `US1GameInstance`

The state of the client and the member functions that change it, in the order of
`S1GameInstance.cpp`, and the `Handle_*` functions of `ClientPacketHandler.cpp`
that call them.  A function returns the new state, or the fault it runs into.

The engine is a parameter (`Engine`): whether a `SpawnActor` call succeeds and
where it puts the actor, whether a map slot that was just freed still reads as
the pointer it held, and whether assertions are compiled in.
-/
namespace S1Client

/-- A reference to an actor: its place in the engine's store. -/
abbrev ActorRef := Nat

/-- `FString`: UTF-16 code units. -/
abbrev FString := List UInt16

/-- The conversion from `const char*`: each byte up to the first NUL is widened. -/
def FString.ofCStr (s : ProtoString) : FString := (s.takeWhile (· ≠ 0)).map UInt8.toUInt16

/-- The classes the game instance spawns. -/
inductive ActorClass where
  | OtherPlayerClass | OtherPlayerYoshika | OtherPlayerLynette | OtherPlayerSanya
  | MyPlayerClass | MyPlayerYoshika | MyPlayerLynette | MyPlayerSanya
  | EnemyClass
  deriving DecidableEq, Repr

/-- What the engine decides. -/
structure Engine (R : Type) where
  /-- The outcome of the `n`-th `SpawnActor` call: where the new actor stands, or
  `none` if the call, or the cast of its result, yields null. -/
  spawnActor : Nat → ActorClass → FVector R → Option (Placement R)
  /-- Whether a slot freed by `FindAndRemoveChecked` still reads as the pointer
  it held.  The container only promises this of occupied slots. -/
  keepsFreedSlot : Bool
  /-- Whether `assert` is compiled in. -/
  asserts : Bool

/-- A socket, and whether its `Connect` succeeded. -/
structure FSocket where
  handle : Nat
  connected : Bool
  deriving DecidableEq, Repr

/-- The session: its socket, and the packets queued for sending. -/
structure PacketSession (R : Type) where
  socket : FSocket
  sendPacketQueue : List (ClientPacket R)
  deriving DecidableEq, Repr

structure US1GameInstance (R : Type) where
  socket : Option FSocket
  gameServerSession : Option (PacketSession R)
  /-- `GetWorld()` is not null. -/
  hasWorld : Bool
  myPlayer : Option ActorRef
  players : SlotMap UInt64 ActorRef
  enemys : SlotMap UInt64 ActorRef
  characterName : Vector FString 5
  characterScore : Vector UInt64 5
  characterType : Vector UInt64 5
  /-- The engine's player actors. -/
  playerActors : Arena (AS1Player R)
  /-- The engine's enemy actors. -/
  enemyActors : Arena (AS1Enemy R)
  /-- How often `SpawnActor` was called. -/
  spawnCalls : Nat
  /-- The pawn last handed to the controller's `Possess`. -/
  possessed : Option ActorRef

namespace US1GameInstance
variable {R : Type}

/-- The guard of every handler: `Socket` and `GameServerSession` are not null. -/
def connected (s : US1GameInstance R) : Bool := s.socket.isSome && s.gameServerSession.isSome

/-- `US1GameInstance::SendPacket`, which `SEND_PACKET` ends in. -/
def sendPacket (s : US1GameInstance R) (pkt : ClientPacket R) : US1GameInstance R :=
  match s.socket, s.gameServerSession with
  | some _, some session =>
    let session := { session with sendPacketQueue := session.sendPacketQueue ++ [pkt] }
    { s with gameServerSession := some session }
  | _, _ => s

/-- `SendPacket` queues the packet in the session, or does nothing. -/
theorem sendPacket_cases (s : US1GameInstance R) (pkt : ClientPacket R) :
    (∃ socket session, s.socket = some socket ∧ s.gameServerSession = some session ∧
        s.sendPacket pkt = { s with
          gameServerSession :=
            some { session with sendPacketQueue := session.sendPacketQueue ++ [pkt] } }) ∨
      s.connected = false ∧ s.sendPacket pkt = s := by
  unfold sendPacket connected
  cases s.socket with
  | none => exact Or.inr ⟨rfl, rfl⟩
  | some socket =>
    cases s.gameServerSession with
    | none => exact Or.inr ⟨rfl, rfl⟩
    | some session => exact Or.inl ⟨socket, session, rfl, rfl, rfl⟩

/-- The packets queued in the session, if there is one. -/
def sendQueue (s : US1GameInstance R) : Option (List (ClientPacket R)) :=
  s.gameServerSession.map PacketSession.sendPacketQueue

/-- Between `s` and `t` the packet `pkt` was queued, and nothing else. -/
def Sends (s : US1GameInstance R) (pkt : ClientPacket R) (t : US1GameInstance R) : Prop :=
  ∃ queue, s.sendQueue = some queue ∧ t.sendQueue = some (queue ++ [pkt])

/-- `SendPacket` queues the packet exactly if the guards pass. -/
theorem sends_sendPacket_iff (s : US1GameInstance R) {pkt pkt' : ClientPacket R} :
    s.Sends pkt' (s.sendPacket pkt) ↔ s.connected = true ∧ pkt = pkt' := by
  rcases s.sendPacket_cases pkt with ⟨socket, session, hsocket, hsession, hsend⟩ | ⟨hc, hsend⟩
  · have hc : s.connected = true := by simp [connected, hsocket, hsession]
    simp [Sends, sendQueue, hsend, hsession, hc]
  · rw [hsend]
    constructor
    · rintro ⟨queue, hqueue, hqueue'⟩
      simp [hqueue] at hqueue'
    · rintro ⟨hc', -⟩
      exact absurd (hc.symm.trans hc') Bool.false_ne_true

/-- `US1GameInstance::DisconnectFromGameServer`. -/
def disconnectFromGameServer (s : US1GameInstance R) : US1GameInstance R :=
  if !s.connected then s
  else { s.sendPacket .C_LEAVE_GAME with players := .empty, enemys := .empty }

/-- The function called through an actor pointer reads this player. -/
def derefPlayer (s : US1GameInstance R) (a : ActorRef) : Except Fault (AS1Player R) :=
  match s.playerActors.get? a with
  | some p => .ok p
  | none => .error .destroyedActor

/-- The function called through an actor pointer reads this enemy. -/
def derefEnemy (s : US1GameInstance R) (a : ActorRef) : Except Fault (AS1Enemy R) :=
  match s.enemyActors.get? a with
  | some e => .ok e
  | none => .error .destroyedActor

/-- `MyPlayer`, to be dereferenced. -/
def derefMyPlayer (s : US1GameInstance R) : Except Fault (ActorRef × AS1Player R) :=
  match s.myPlayer with
  | none => .error .nullPointer
  | some a => do
    let p ← s.derefPlayer a
    return (a, p)

/-! ## Spawning -/

/-- The class of the local player. -/
def myPlayerClass : PlayerType → ActorClass
  | .yoshika => .MyPlayerYoshika
  | .lynette => .MyPlayerLynette
  | .sanya => .MyPlayerSanya
  | _ => .MyPlayerClass

/-- The class of a remote player. -/
def otherPlayerClass : PlayerType → ActorClass
  | .yoshika => .OtherPlayerYoshika
  | .lynette => .OtherPlayerLynette
  | .sanya => .OtherPlayerSanya
  | _ => .OtherPlayerClass

/-- `US1GameInstance::SpawnPlayer`. -/
def spawnPlayer [Zero R] (E : Engine R) (s : US1GameInstance R) (info : ObjectInfo R) (isMine : Bool) :
    Except Fault (US1GameInstance R) :=
  if !s.connected then .ok s
  else if !s.hasWorld then .ok s
  else if (s.players.find info.objectId).isSome then .ok s
  else if isMine then
    let spawned := E.spawnActor s.spawnCalls (myPlayerClass info.playerType) info.posInfo.location
    let player := s.playerActors.next
    -- the controller possesses the result of the spawn before it is tested for null
    let s := { s with
      spawnCalls := s.spawnCalls + 1
      possessed := spawned.map fun _ => player }
    match spawned with
    | none => .ok s
    | some place => do
      let p := AS1Player.construct.beginPlay place
      let p ← p.setPlayerInfo E.asserts info
      let p ← p.setPosInfo E.asserts info.posInfo
      let p := p.setIsMyPlayer true
      let p := p.setScore info.playerInfo.score.toInt64.toInt32
      .ok { s with
        playerActors := s.playerActors.spawn p
        myPlayer := some player
        players := s.players.add info.objectId player }
  else
    let spawned := E.spawnActor s.spawnCalls (otherPlayerClass info.playerType) info.posInfo.location
    let player := s.playerActors.next
    let s := { s with spawnCalls := s.spawnCalls + 1 }
    match spawned with
    | none => .ok s
    | some place => do
      let p := AS1Player.construct.beginPlay place
      let p ← p.setPlayerInfo E.asserts info
      let p ← p.setPosInfo E.asserts info.posInfo
      let p := p.setIsMyPlayer false
      .ok { s with
        playerActors := s.playerActors.spawn p
        players := s.players.add info.objectId player }

/-- `US1GameInstance::SpawnEnemy`.  Its duplicate test looks in `Players`. -/
def spawnEnemy [Zero R] (E : Engine R) (s : US1GameInstance R) (info : ObjectInfo R) :
    Except Fault (US1GameInstance R) :=
  if !s.connected then .ok s
  else if !s.hasWorld then .ok s
  else if (s.players.find info.objectId).isSome then .ok s
  else
    let spawned := E.spawnActor s.spawnCalls .EnemyClass info.posInfo.location
    let enemy := s.enemyActors.next
    let s := { s with spawnCalls := s.spawnCalls + 1 }
    match spawned with
    | none => .ok s
    | some _ => do
      let e ← AS1Enemy.construct.setEnemyInfo E.asserts info
      .ok { s with
        enemyActors := s.enemyActors.spawn e
        enemys := s.enemys.add info.objectId enemy }

/-- `US1GameInstance::HandleSpawn(const Protocol::S_ENTER_GAME&)`. -/
def handleEnterGame [Zero R] (E : Engine R) (s : US1GameInstance R) (pkt : S_ENTER_GAME R) :
    Except Fault (US1GameInstance R) :=
  s.spawnPlayer E pkt.player true

/-- The body of the loop over `SpawnPkt.objects()`.  `SpawnBullet` is empty. -/
def handleSpawnObject [Zero R] (E : Engine R) (s : US1GameInstance R) (object : ObjectInfo R) :
    Except Fault (US1GameInstance R) :=
  match object.objectType with
  | .player => s.spawnPlayer E object false
  | .enemy => s.spawnEnemy E object
  | _ => .ok s

/-- `US1GameInstance::HandleSpawn(const Protocol::S_SPAWN&)`. -/
def handleSpawn [Zero R] (E : Engine R) (s : US1GameInstance R) (pkt : S_SPAWN R) :
    Except Fault (US1GameInstance R) :=
  Steps.run (handleSpawnObject E) s pkt.objects

/-! ## Despawning -/

/-- `US1GameInstance::DespawnPlayer`.  `FindActor` is read after its slot was
freed. -/
def despawnPlayer (E : Engine R) (s : US1GameInstance R) (objectId : Int64) :
    Except Fault (US1GameInstance R) :=
  if !s.connected then .ok s
  else if !s.hasWorld then .ok s
  else
    match s.players.find objectId.toUInt64 with
    | none => .ok s
    | some findActor =>
      let players := s.players.remove objectId.toUInt64
      match players.deref E.keepsFreedSlot findActor with
      | none => .error .freedSlot
      | some actor =>
        .ok { s with players := players, playerActors := s.playerActors.destroy actor }

/-- `US1GameInstance::DespawnEnemy`. -/
def despawnEnemy (E : Engine R) (s : US1GameInstance R) (objectId : Int64) :
    Except Fault (US1GameInstance R) :=
  if !s.connected then .ok s
  else if !s.hasWorld then .ok s
  else
    match s.enemys.find objectId.toUInt64 with
    | none => .ok s
    | some findActor =>
      let enemys := s.enemys.remove objectId.toUInt64
      match enemys.deref E.keepsFreedSlot findActor with
      | none => .error .freedSlot
      | some actor =>
        .ok { s with enemys := enemys, enemyActors := s.enemyActors.destroy actor }

/-- `US1GameInstance::HandleDespawn(const Protocol::ObjectInfo&)`. -/
def handleDespawnObject (E : Engine R) (s : US1GameInstance R) (object : ObjectInfo R) :
    Except Fault (US1GameInstance R) :=
  match object.objectType with
  | .player => s.despawnPlayer E object.objectId.toInt64
  | .enemy => s.despawnEnemy E object.objectId.toInt64
  | _ => .ok s

/-- `US1GameInstance::HandleDespawn(const Protocol::S_DESPAWN&)`. -/
def handleDespawn (E : Engine R) (s : US1GameInstance R) (pkt : S_DESPAWN R) :
    Except Fault (US1GameInstance R) :=
  Steps.run (handleDespawnObject E) s pkt.objects

/-! ## Changing rooms -/

/-- The first loop of `MoveMap`: the ids of all players but the local one, as
`GetObjectId` gives them, widened to the queue's `int64`. -/
def playersToDespawn (s : US1GameInstance R) :
    List (UInt64 × ActorRef) → Except Fault (List Int64)
  | [] => .ok []
  | (_, actor) :: elems => do
    let p ← s.derefPlayer actor
    let (_, mine) ← s.derefMyPlayer
    let queue ← s.playersToDespawn elems
    if p.getObjectId = mine.getObjectId then return queue
    return p.getObjectId.toInt64 :: queue

/-- The third loop of `MoveMap`: the ids of all enemies. -/
def enemysToDespawn (s : US1GameInstance R) :
    List (UInt64 × ActorRef) → Except Fault (List Int64)
  | [] => .ok []
  | (_, actor) :: elems => do
    let e ← s.derefEnemy actor
    let queue ← s.enemysToDespawn elems
    return e.getObjectId.toInt64 :: queue

/-- `US1GameInstance::MoveMap`. -/
def moveMap (E : Engine R) (s : US1GameInstance R) (mapNumber : Int32) :
    Except Fault (US1GameInstance R) := do
  let queue ← s.playersToDespawn s.players.entries
  let s ← Steps.run (despawnPlayer E) s queue
  let queue ← s.enemysToDespawn s.enemys.entries
  let s ← Steps.run (despawnEnemy E) s queue
  let s := s.sendPacket (.C_ENTER_ROOM mapNumber.toInt64.toUInt64)
  let (mine, _) ← s.derefMyPlayer
  return { s with playerActors := s.playerActors.modify mine fun p => p.setMapNumber mapNumber }

/-- `US1GameInstance::GetEnemyFromId`: the lookup of `operator[]` is checked. -/
def getEnemyFromId (s : US1GameInstance R) (objectId : Int32) : Except Fault ActorRef :=
  match s.enemys.lookup objectId.toInt64.toUInt64 with
  | some enemy => .ok enemy
  | none => .error .assertFailed

/-! ## Updates of tracked actors -/

/-- The switch over `pkt.state()`: a number without a name leaves the state
alone. -/
def setAiState (e : AS1Enemy R) : ProtoAiState → AS1Enemy R
  | .none => e.setMoveState .none
  | .idle => e.setMoveState .idle
  | .move => e.setMoveState .move
  | .attack => e.setMoveState .attack
  | .runaway => e.setMoveState .runaway
  | .unrecognized _ => e

/-- What `HandleEnemyAi` does to the enemy it finds. -/
def applyAi [Zero R] (pkt : S_AI R) (e : AS1Enemy R) : AS1Enemy R :=
  setAiState (e.setTargetLocation pkt.targetLocation.x pkt.targetLocation.y pkt.targetLocation.z)
    pkt.state

/-- `US1GameInstance::HandleEnemyAi`. -/
def handleEnemyAi [Zero R] (s : US1GameInstance R) (pkt : S_AI R) : Except Fault (US1GameInstance R) :=
  if !s.connected then .ok s
  else if !s.hasWorld then .ok s
  else
    match s.enemys.lookup pkt.objectId with
    | none => .ok s
    | some enemy => do
      let _ ← s.derefEnemy enemy
      return { s with enemyActors := s.enemyActors.modify enemy (applyAi pkt) }

/-- `US1GameInstance::HandleMove`. -/
def handleMove [Zero R] (E : Engine R) (s : US1GameInstance R) (pkt : S_MOVE R) :
    Except Fault (US1GameInstance R) :=
  if !s.connected then .ok s
  else if !s.hasWorld then .ok s
  else
    match s.players.lookup pkt.info.objectId with
    | none => .ok s
    | some player => do
      let p ← s.derefPlayer player
      if p.isMine then return s
      let p ← p.setDestInfo E.asserts pkt.info
      return { s with playerActors := s.playerActors.modify player fun _ => p }

/-- `US1GameInstance::HandleScore`. -/
def handleScore (s : US1GameInstance R) (pkt : S_SCORE) : Except Fault (US1GameInstance R) :=
  if !s.connected then .ok s
  else
    match s.myPlayer with
    | none => .ok s
    | some mine => do
      let _ ← s.derefPlayer mine
      return { s with playerActors :=
        s.playerActors.modify mine fun p => p.increaseScore pkt.point.toInt64.toInt32 }

/-- `US1GameInstance::RequestScore`: the player id it sends is the one in
`PosInfo`. -/
def requestScore (s : US1GameInstance R) (monsterId : Int32) :
    Except Fault (US1GameInstance R) := do
  let (_, mine) ← s.derefMyPlayer
  return s.sendPacket (.C_SCORE mine.posInfo.objectId monsterId.toInt64.toUInt64)

/-! ## Packet handlers -/

/-- The body of the loop of `Handle_S_LOGIN`: one player goes into the lobby
slot `index`. -/
def setCharacter (s : US1GameInstance R) (player : ObjectInfo R × Nat) :
    Except Fault (US1GameInstance R) :=
  if h : player.2 < 5 then
    .ok { s with
      characterName := s.characterName.set player.2 (.ofCStr player.1.playerInfo.name) h
      characterScore :=
        s.characterScore.set player.2 player.1.playerInfo.score.toInt64.toInt32.toInt64.toUInt64 h
      characterType :=
        s.characterType.set player.2 player.1.playerType.toInt.toInt64.toUInt64 h }
  else .error .outOfBounds

/-- `Handle_S_LOGIN`. -/
def handleLogin (s : US1GameInstance R) (pkt : S_LOGIN R) : Except Fault (US1GameInstance R) :=
  Steps.run setCharacter s pkt.players.zipIdx

/-- The `Handle_*` function of a packet, with its result. -/
def handlePacket [Zero R] (E : Engine R) (s : US1GameInstance R) :
    ServerPacket R → Except Fault (US1GameInstance R × Bool)
  | .S_LOGIN pkt => (·, true) <$> s.handleLogin pkt
  | .S_ENTER_GAME pkt => (·, true) <$> s.handleEnterGame E pkt
  | .S_ENTER_ROOM _ => .ok (s, true)
  | .S_LEAVE_GAME => .ok (s, true)
  | .S_SPAWN pkt => (·, true) <$> s.handleSpawn E pkt
  | .S_DESPAWN pkt => (·, true) <$> s.handleDespawn E pkt
  | .S_MOVE pkt => (·, true) <$> s.handleMove E pkt
  | .S_SHOOT => .ok (s, false)
  | .S_REMOVE_BULLET => .ok (s, false)
  | .S_SCORE pkt => (·, true) <$> s.handleScore pkt
  | .S_CHAT _ => .ok (s, true)
  | .S_AI pkt => (·, true) <$> s.handleEnemyAi pkt

/-- One turn of the drain loop of `PacketSession::HandleRecvPackets`, which
ignores the handler's result. -/
def dispatch [Zero R] (E : Engine R) (s : US1GameInstance R) (pkt : ServerPacket R) :
    Except Fault (US1GameInstance R) :=
  Prod.fst <$> s.handlePacket E pkt

/-- `US1GameInstance::HandleRecvPackets`, with `queue` in the session's receive
queue. -/
def handleRecvPackets [Zero R] (E : Engine R) (s : US1GameInstance R) (queue : List (ServerPacket R)) :
    Except Fault (US1GameInstance R) :=
  if !s.connected then .ok s
  else Steps.run (dispatch E) s queue

/-! ## Operations -/

/-- What moves the game instance: a packet from the queue, or a call from the
game. -/
inductive Op (R : Type) where
  | packet (pkt : ServerPacket R)
  | moveMap (mapNumber : Int32)
  | disconnectFromGameServer

/-- One operation. -/
def step [Zero R] (E : Engine R) (s : US1GameInstance R) : Op R → Except Fault (US1GameInstance R)
  | .packet pkt => s.dispatch E pkt
  | .moveMap mapNumber => s.moveMap E mapNumber
  | .disconnectFromGameServer => .ok s.disconnectFromGameServer

/-- Nothing spawned, nothing tracked, no local player. -/
structure Initial (s : US1GameInstance R) : Prop where
  myPlayer : s.myPlayer = none
  players : s.players = .empty
  enemys : s.enemys = .empty
  playerActors : s.playerActors = .empty
  enemyActors : s.enemyActors = .empty

/-- The client right after a successful `ConnectToGameServer`. -/
def started (R : Type) : US1GameInstance R where
  socket := some ⟨0, true⟩
  gameServerSession := some ⟨⟨0, true⟩, []⟩
  hasWorld := true
  myPlayer := none
  players := .empty
  enemys := .empty
  characterName := .replicate 5 []
  characterScore := .replicate 5 0
  characterType := .replicate 5 0
  playerActors := .empty
  enemyActors := .empty
  spawnCalls := 0
  possessed := none

theorem started_initial (R : Type) : (started R).Initial := ⟨rfl, rfl, rfl, rfl, rfl⟩

end US1GameInstance

/-- An engine that puts every actor where it is asked to. -/
def Engine.obliging (R : Type) [Zero R] (asserts : Bool) : Engine R where
  spawnActor _ _ location := some ⟨location, 0, 0⟩
  keepsFreedSlot := true
  asserts := asserts

/-- An engine in which nothing can be spawned. -/
def Engine.crowded (R : Type) : Engine R where
  spawnActor _ _ _ := none
  keepsFreedSlot := true
  asserts := false

/-- An engine whose freed slots read as nothing. -/
def Engine.strict (R : Type) [Zero R] : Engine R :=
  { Engine.obliging R false with keepsFreedSlot := false }

/-- An object of a packet that names only its id, its type and the id in its
`pos_info`. -/
def ObjectInfo.named {R : Type} [Zero R] (type : ObjectType) (objectId posId : UInt64) :
    ObjectInfo R :=
  ⟨objectId, type, some { PosInfo.default with objectId := posId }, .none, none⟩

end S1Client
