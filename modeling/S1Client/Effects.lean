import S1Client.GameInstance

/-!
# What one packet can do

Every packet is a list of effects: one for each object it names, at most one
otherwise (`ServerPacket.effects`, `dispatch_eq_run`).  `Performed` lists all
that one effect can do to the game instance, with the condition under which it
does that; `perform_cases` says that the list is complete.  Every invariant of
the game instance is proved from `Performed`, without looking at a handler again.
-/
namespace S1Client

/-- One call of a handler's inner function. -/
inductive Effect (R : Type) where
  | spawnPlayer (info : ObjectInfo R) (isMine : Bool)
  | spawnEnemy (info : ObjectInfo R)
  | despawnPlayer (objectId : UInt64)
  | despawnEnemy (objectId : UInt64)
  | move (pkt : S_MOVE R)
  | enemyAi (pkt : S_AI R)
  | score (pkt : S_SCORE)
  | character (player : ObjectInfo R × Nat)

variable {R : Type}

/-- The effect of an object of an `S_SPAWN`. -/
def ObjectInfo.spawnEffect? (object : ObjectInfo R) : Option (Effect R) :=
  match object.objectType with
  | .player => some (.spawnPlayer object false)
  | .enemy => some (.spawnEnemy object)
  | _ => none

/-- The effect of an object of an `S_DESPAWN`. -/
def ObjectInfo.despawnEffect? (object : ObjectInfo R) : Option (Effect R) :=
  match object.objectType with
  | .player => some (.despawnPlayer object.objectId)
  | .enemy => some (.despawnEnemy object.objectId)
  | _ => none

/-- The effects of a packet, in order. -/
def ServerPacket.effects : ServerPacket R → List (Effect R)
  | .S_LOGIN pkt => pkt.players.zipIdx.map .character
  | .S_ENTER_GAME pkt => [.spawnPlayer pkt.player true]
  | .S_SPAWN pkt => pkt.objects.filterMap ObjectInfo.spawnEffect?
  | .S_DESPAWN pkt => pkt.objects.filterMap ObjectInfo.despawnEffect?
  | .S_MOVE pkt => [.move pkt]
  | .S_SCORE pkt => [.score pkt]
  | .S_AI pkt => [.enemyAi pkt]
  | .S_ENTER_ROOM _ | .S_LEAVE_GAME | .S_SHOOT | .S_REMOVE_BULLET | .S_CHAT _ => []

/-- What an `S_SPAWN` does, it does to one of its objects. -/
theorem S_SPAWN.of_mem_effects {pkt : S_SPAWN R} {e : Effect R}
    (h : e ∈ (ServerPacket.S_SPAWN pkt).effects) : ∃ object ∈ pkt.objects,
      object.objectType = .player ∧ e = .spawnPlayer object false ∨
        object.objectType = .enemy ∧ e = .spawnEnemy object := by
  obtain ⟨object, hobject, he⟩ := List.mem_filterMap.mp h
  refine ⟨object, hobject, ?_⟩
  unfold ObjectInfo.spawnEffect? at he
  split at he
  · rename_i htype
    exact Or.inl ⟨htype, (Option.some.inj he).symm⟩
  · rename_i htype
    exact Or.inr ⟨htype, (Option.some.inj he).symm⟩
  · cases he

/-- So does an `S_DESPAWN`. -/
theorem S_DESPAWN.of_mem_effects {pkt : S_DESPAWN R} {e : Effect R}
    (h : e ∈ (ServerPacket.S_DESPAWN pkt).effects) : ∃ object ∈ pkt.objects,
      object.objectType = .player ∧ e = .despawnPlayer object.objectId ∨
        object.objectType = .enemy ∧ e = .despawnEnemy object.objectId := by
  obtain ⟨object, hobject, he⟩ := List.mem_filterMap.mp h
  refine ⟨object, hobject, ?_⟩
  unfold ObjectInfo.despawnEffect? at he
  split at he
  · rename_i htype
    exact Or.inl ⟨htype, (Option.some.inj he).symm⟩
  · rename_i htype
    exact Or.inr ⟨htype, (Option.some.inj he).symm⟩
  · cases he

/-- Only an `S_ENTER_GAME` spawns a local player. -/
theorem ServerPacket.enters_of_mem_effects {pkt : ServerPacket R} {info : ObjectInfo R}
    (h : Effect.spawnPlayer info true ∈ pkt.effects) : ∃ p, pkt = .S_ENTER_GAME p := by
  cases pkt with
  | S_ENTER_GAME p => exact ⟨p, rfl⟩
  | S_SPAWN p =>
    obtain ⟨object, -, ⟨-, he⟩ | ⟨-, he⟩⟩ := S_SPAWN.of_mem_effects h <;> cases he
  | S_DESPAWN p =>
    obtain ⟨object, -, ⟨-, he⟩ | ⟨-, he⟩⟩ := S_DESPAWN.of_mem_effects h <;> cases he
  | _ => simp [effects] at h

/-- Only an `S_DESPAWN` despawns a player. -/
theorem ServerPacket.despawns_of_mem_effects {pkt : ServerPacket R} {objectId : UInt64}
    (h : Effect.despawnPlayer objectId ∈ pkt.effects) : ∃ p, pkt = .S_DESPAWN p := by
  cases pkt with
  | S_DESPAWN p => exact ⟨p, rfl⟩
  | S_SPAWN p =>
    obtain ⟨object, -, ⟨-, he⟩ | ⟨-, he⟩⟩ := S_SPAWN.of_mem_effects h <;> cases he
  | _ => simp [effects] at h

/-- Only an `S_SCORE` scores. -/
theorem ServerPacket.scores_of_mem_effects {pkt : ServerPacket R} {m : S1Client.S_SCORE}
    (h : Effect.score m ∈ pkt.effects) : pkt = .S_SCORE m := by
  cases pkt with
  | S_SCORE p =>
    obtain rfl : m = p := Effect.score.inj (List.mem_singleton.mp h)
    rfl
  | S_SPAWN p =>
    obtain ⟨object, -, ⟨-, he⟩ | ⟨-, he⟩⟩ := S_SPAWN.of_mem_effects h <;> cases he
  | S_DESPAWN p =>
    obtain ⟨object, -, ⟨-, he⟩ | ⟨-, he⟩⟩ := S_DESPAWN.of_mem_effects h <;> cases he
  | _ => simp [effects] at h

/-- Only an `S_MOVE` moves, and does nothing else. -/
theorem ServerPacket.effects_of_move_mem {pkt : ServerPacket R} {m : S1Client.S_MOVE R}
    (h : Effect.move m ∈ pkt.effects) : pkt.effects = [.move m] := by
  cases pkt with
  | S_MOVE p =>
    obtain rfl : m = p := Effect.move.inj (List.mem_singleton.mp h)
    rfl
  | S_SPAWN p =>
    obtain ⟨object, -, ⟨-, he⟩ | ⟨-, he⟩⟩ := S_SPAWN.of_mem_effects h <;> cases he
  | S_DESPAWN p =>
    obtain ⟨object, -, ⟨-, he⟩ | ⟨-, he⟩⟩ := S_DESPAWN.of_mem_effects h <;> cases he
  | _ => simp [effects] at h

namespace US1GameInstance
open Steps (bind_eq_ok)

/-- The call an effect stands for. -/
def perform [Zero R] (E : Engine R) (s : US1GameInstance R) :
    Effect R → Except Fault (US1GameInstance R)
  | .spawnPlayer info isMine => s.spawnPlayer E info isMine
  | .spawnEnemy info => s.spawnEnemy E info
  | .despawnPlayer objectId => s.despawnPlayer E objectId.toInt64
  | .despawnEnemy objectId => s.despawnEnemy E objectId.toInt64
  | .move pkt => s.handleMove E pkt
  | .enemyAi pkt => s.handleEnemyAi pkt
  | .score pkt => s.handleScore pkt
  | .character player => s.setCharacter player

private theorem fst_map_true {ε α : Type} (x : Except ε α) :
    Prod.fst <$> ((·, true) <$> x) = x := by
  cases x <;> rfl

/-- **A packet is its effects.** -/
theorem dispatch_eq_run [Zero R] (E : Engine R) (s : US1GameInstance R) (pkt : ServerPacket R) :
    s.dispatch E pkt = Steps.run (perform E) s pkt.effects := by
  cases pkt with
  | S_LOGIN pkt =>
    show Prod.fst <$> ((·, true) <$> s.handleLogin pkt) =
      Steps.run (perform E) s (pkt.players.zipIdx.map Effect.character)
    have hstep : ∀ (s : US1GameInstance R) player, s.setCharacter player =
        ((some ∘ Effect.character) player).elim (.ok s) (s.perform E) := fun _ _ => rfl
    rw [fst_map_true, ← List.filterMap_eq_map]
    exact Steps.run_filterMap hstep s _
  | S_ENTER_GAME pkt =>
    show Prod.fst <$> ((·, true) <$> s.handleEnterGame E pkt) =
      Steps.run (perform E) s [.spawnPlayer pkt.player true]
    rw [fst_map_true, Steps.run_singleton]
    rfl
  | S_SPAWN pkt =>
    show Prod.fst <$> ((·, true) <$> s.handleSpawn E pkt) = _
    rw [fst_map_true]
    refine Steps.run_filterMap (fun s object => ?_) s _
    unfold handleSpawnObject ObjectInfo.spawnEffect?
    cases object.objectType <;> rfl
  | S_DESPAWN pkt =>
    show Prod.fst <$> ((·, true) <$> s.handleDespawn E pkt) = _
    rw [fst_map_true]
    refine Steps.run_filterMap (fun s object => ?_) s _
    unfold handleDespawnObject ObjectInfo.despawnEffect?
    cases object.objectType <;> rfl
  | S_MOVE pkt =>
    show Prod.fst <$> ((·, true) <$> s.handleMove E pkt) = Steps.run (perform E) s [.move pkt]
    rw [fst_map_true, Steps.run_singleton]
    rfl
  | S_SCORE pkt =>
    show Prod.fst <$> ((·, true) <$> s.handleScore pkt) = Steps.run (perform E) s [.score pkt]
    rw [fst_map_true, Steps.run_singleton]
    rfl
  | S_AI pkt =>
    show Prod.fst <$> ((·, true) <$> s.handleEnemyAi pkt) = Steps.run (perform E) s [.enemyAi pkt]
    rw [fst_map_true, Steps.run_singleton]
    rfl
  | _ => rfl

/-! ## The outcomes of an effect -/

/-- The guards of the spawn and despawn functions. -/
def inWorld (s : US1GameInstance R) : Bool := s.connected && s.hasWorld

/-- The class `SpawnPlayer` asks for. -/
def playerClass (isMine : Bool) (type : PlayerType) : ActorClass :=
  if isMine then myPlayerClass type else otherPlayerClass type

/-- The player `SpawnPlayer` leaves behind. -/
def spawnedPlayer [Zero R] (info : ObjectInfo R) (isMine : Bool) (place : Placement R) :
    AS1Player R :=
  { AS1Player.construct.beginPlay place with
    isMine := isMine
    score := if isMine then info.playerInfo.score.toInt64.toInt32 else 0
    posInfo := info.posInfo
    objectInfo := info
    location := info.posInfo.location }

/-- When an effect does nothing at all. -/
def Skips [Zero R] (s : US1GameInstance R) : Effect R → Prop
  | .spawnPlayer info _ => s.inWorld = false ∨ s.players.lookup info.objectId ≠ none
  | .spawnEnemy info => s.inWorld = false ∨ s.players.lookup info.objectId ≠ none
  | .despawnPlayer objectId => s.inWorld = false ∨ s.players.lookup objectId = none
  | .despawnEnemy objectId => s.inWorld = false ∨ s.enemys.lookup objectId = none
  | .move pkt => s.inWorld = false ∨ s.players.lookup pkt.info.objectId = none ∨
      ∃ a p, s.players.lookup pkt.info.objectId = some a ∧ s.playerActors.get? a = some p ∧
        p.isMine = true
  | .enemyAi pkt => s.inWorld = false ∨ s.enemys.lookup pkt.objectId = none
  | .score _ => s.connected = false ∨ s.myPlayer = none
  | .character _ => False

/-- **What one effect does.** -/
inductive Performed [Zero R] (E : Engine R) (s : US1GameInstance R) :
    Effect R → US1GameInstance R → Prop
  /-- Nothing. -/
  | skipped (e : Effect R) (h : s.Skips e) : Performed E s e s
  /-- `SpawnActor` was called for a player and failed. -/
  | playerFailed (info : ObjectInfo R) (isMine : Bool) (hw : s.inWorld = true)
      (hk : s.players.lookup info.objectId = none)
      (hs : E.spawnActor s.spawnCalls (playerClass isMine info.playerType)
        info.posInfo.location = none) :
      Performed E s (.spawnPlayer info isMine)
        { s with
          spawnCalls := s.spawnCalls + 1
          possessed := if isMine then none else s.possessed }
  /-- A player was spawned and is tracked. -/
  | playerSpawned (info : ObjectInfo R) (isMine : Bool) (place : Placement R)
      (hw : s.inWorld = true) (hk : s.players.lookup info.objectId = none)
      (hs : E.spawnActor s.spawnCalls (playerClass isMine info.playerType)
        info.posInfo.location = some place) :
      Performed E s (.spawnPlayer info isMine)
        { s with
          spawnCalls := s.spawnCalls + 1
          possessed := if isMine then some s.playerActors.next else s.possessed
          playerActors := s.playerActors.spawn (spawnedPlayer info isMine place)
          myPlayer := if isMine then some s.playerActors.next else s.myPlayer
          players := s.players.add info.objectId s.playerActors.next }
  /-- `SpawnActor` was called for an enemy and failed. -/
  | enemyFailed (info : ObjectInfo R) (hw : s.inWorld = true)
      (hk : s.players.lookup info.objectId = none)
      (hs : E.spawnActor s.spawnCalls .EnemyClass info.posInfo.location = none) :
      Performed E s (.spawnEnemy info) { s with spawnCalls := s.spawnCalls + 1 }
  /-- An enemy was spawned and is tracked, in place of any enemy tracked under
  its id before. -/
  | enemySpawned (info : ObjectInfo R) (place : Placement R) (hw : s.inWorld = true)
      (hk : s.players.lookup info.objectId = none)
      (hs : E.spawnActor s.spawnCalls .EnemyClass info.posInfo.location = some place) :
      Performed E s (.spawnEnemy info)
        { s with
          spawnCalls := s.spawnCalls + 1
          enemyActors := s.enemyActors.spawn { AS1Enemy.construct with objectInfo := info }
          enemys := s.enemys.add info.objectId s.enemyActors.next }
  /-- A tracked player was removed and destroyed. -/
  | playerDespawned (objectId : UInt64) (a : ActorRef) (hw : s.inWorld = true)
      (hk : s.players.lookup objectId = some a) (hf : E.keepsFreedSlot = true) :
      Performed E s (.despawnPlayer objectId)
        { s with
          players := s.players.remove objectId
          playerActors := s.playerActors.destroy a }
  /-- A tracked enemy was removed and destroyed. -/
  | enemyDespawned (objectId : UInt64) (a : ActorRef) (hw : s.inWorld = true)
      (hk : s.enemys.lookup objectId = some a) (hf : E.keepsFreedSlot = true) :
      Performed E s (.despawnEnemy objectId)
        { s with
          enemys := s.enemys.remove objectId
          enemyActors := s.enemyActors.destroy a }
  /-- A tracked remote player got a new destination. -/
  | moved (pkt : S_MOVE R) (a : ActorRef) (p : AS1Player R) (hw : s.inWorld = true)
      (hk : s.players.lookup pkt.info.objectId = some a) (hp : s.playerActors.get? a = some p)
      (hm : p.isMine = false) :
      Performed E s (.move pkt)
        { s with playerActors :=
            s.playerActors.modify a fun p => { p with destInfo := pkt.info } }
  /-- A tracked enemy got a new target and, if the number has a name, state. -/
  | aiApplied (pkt : S_AI R) (a : ActorRef) (hw : s.inWorld = true)
      (hk : s.enemys.lookup pkt.objectId = some a) :
      Performed E s (.enemyAi pkt)
        { s with enemyActors := s.enemyActors.modify a (applyAi pkt) }
  /-- The local player's score went up. -/
  | scored (pkt : S_SCORE) (a : ActorRef) (p : AS1Player R) (hc : s.connected = true)
      (hm : s.myPlayer = some a) (hp : s.playerActors.get? a = some p) :
      Performed E s (.score pkt)
        { s with playerActors :=
            s.playerActors.modify a fun p => p.increaseScore pkt.point.toInt64.toInt32 }
  /-- A lobby slot was filled. -/
  | characterSet (player : ObjectInfo R × Nat) (n : Vector FString 5) (sc ty : Vector UInt64 5) :
      Performed E s (.character player)
        { s with characterName := n, characterScore := sc, characterType := ty }

/-! ## The list is complete -/

variable {E : Engine R} {s t : US1GameInstance R}

/-- The two guards, as the handlers test them. -/
theorem guards_cases (s : US1GameInstance R) :
    s.inWorld = false ∧ ((!s.connected) = true ∨ ¬(!s.connected) = true ∧ (!s.hasWorld) = true) ∨
      s.inWorld = true ∧ ¬(!s.connected) = true ∧ ¬(!s.hasWorld) = true := by
  unfold inWorld
  cases s.connected <;> cases s.hasWorld <;> simp

theorem isSome_find {κ α : Type} [DecidableEq κ] (m : SlotMap κ α) (k : κ) :
    (m.find k).isSome = true ↔ m.lookup k ≠ none := by
  rw [Option.isSome_iff_ne_none, ne_eq, SlotMap.find_eq_none]

/-- A function behind both guards returns at once, or gets past them. -/
private theorem guarded {s : US1GameInstance R} {body : Except Fault (US1GameInstance R)}
    (h : (if (!s.connected) = true then .ok s else if (!s.hasWorld) = true then .ok s else body) =
      .ok t) : s.inWorld = false ∧ t = s ∨ s.inWorld = true ∧ body = .ok t := by
  rcases guards_cases s with ⟨hw, hc | ⟨hc, hh⟩⟩ | ⟨hw, hc, hh⟩
  · rw [if_pos hc] at h
    exact Or.inl ⟨hw, (Except.ok.inj h).symm⟩
  · rw [if_neg hc, if_pos hh] at h
    exact Or.inl ⟨hw, (Except.ok.inj h).symm⟩
  · rw [if_neg hc, if_neg hh] at h
    exact Or.inr ⟨hw, h⟩

theorem spawnPlayer_cases [Zero R] {info : ObjectInfo R} {isMine : Bool}
    (h : s.spawnPlayer E info isMine = .ok t) : Performed E s (.spawnPlayer info isMine) t := by
  rcases guarded h with ⟨hw, rfl⟩ | ⟨hw, h⟩
  · exact .skipped _ (Or.inl hw)
  by_cases hk : s.players.lookup info.objectId = none
  · rw [if_neg (mt (isSome_find _ _).mp fun hn => hn hk)] at h
    cases isMine with
    | true =>
      rw [if_pos rfl] at h
      cases hs : E.spawnActor s.spawnCalls (myPlayerClass info.playerType)
          info.posInfo.location with
      | none =>
        rw [hs] at h
        obtain rfl := Except.ok.inj h
        exact .playerFailed info true hw hk hs
      | some place =>
        rw [hs] at h
        obtain rfl := Except.ok.inj h
        exact .playerSpawned info true place hw hk hs
    | false =>
      rw [if_neg Bool.false_ne_true] at h
      cases hs : E.spawnActor s.spawnCalls (otherPlayerClass info.playerType)
          info.posInfo.location with
      | none =>
        rw [hs] at h
        obtain rfl := Except.ok.inj h
        exact .playerFailed info false hw hk hs
      | some place =>
        rw [hs] at h
        obtain rfl := Except.ok.inj h
        exact .playerSpawned info false place hw hk hs
  · rw [if_pos ((isSome_find _ _).mpr hk)] at h
    obtain rfl := Except.ok.inj h
    exact .skipped _ (Or.inr hk)

theorem spawnEnemy_cases [Zero R] {info : ObjectInfo R} (h : s.spawnEnemy E info = .ok t) :
    Performed E s (.spawnEnemy info) t := by
  rcases guarded h with ⟨hw, rfl⟩ | ⟨hw, h⟩
  · exact .skipped _ (Or.inl hw)
  by_cases hk : s.players.lookup info.objectId = none
  · rw [if_neg (mt (isSome_find _ _).mp fun hn => hn hk)] at h
    cases hs : E.spawnActor s.spawnCalls .EnemyClass info.posInfo.location with
    | none =>
      rw [hs] at h
      obtain rfl := Except.ok.inj h
      exact .enemyFailed info hw hk hs
    | some place =>
      rw [hs] at h
      obtain rfl := Except.ok.inj h
      exact .enemySpawned info place hw hk hs
  · rw [if_pos ((isSome_find _ _).mpr hk)] at h
    obtain rfl := Except.ok.inj h
    exact .skipped _ (Or.inr hk)

theorem despawnPlayer_cases [Zero R] {objectId : UInt64}
    (h : s.despawnPlayer E objectId.toInt64 = .ok t) :
    Performed E s (.despawnPlayer objectId) t := by
  rcases guarded h with ⟨hw, rfl⟩ | ⟨hw, h⟩
  · exact .skipped _ (Or.inl hw)
  rw [UInt64.toUInt64_toInt64] at h
  rcases s.players.find_cases objectId E.keepsFreedSlot with ⟨hf, hk⟩ | ⟨i, a, hf, hk, hread⟩
  · rw [hf] at h
    obtain rfl := Except.ok.inj h
    exact .skipped _ (Or.inr hk)
  · simp only [hf, hread] at h
    cases hkeep : E.keepsFreedSlot with
    | false =>
      rw [hkeep] at h
      cases h
    | true =>
      rw [hkeep] at h
      obtain rfl := Except.ok.inj h
      exact .playerDespawned objectId a hw hk hkeep

theorem despawnEnemy_cases [Zero R] {objectId : UInt64}
    (h : s.despawnEnemy E objectId.toInt64 = .ok t) :
    Performed E s (.despawnEnemy objectId) t := by
  rcases guarded h with ⟨hw, rfl⟩ | ⟨hw, h⟩
  · exact .skipped _ (Or.inl hw)
  rw [UInt64.toUInt64_toInt64] at h
  rcases s.enemys.find_cases objectId E.keepsFreedSlot with ⟨hf, hk⟩ | ⟨i, a, hf, hk, hread⟩
  · rw [hf] at h
    obtain rfl := Except.ok.inj h
    exact .skipped _ (Or.inr hk)
  · simp only [hf, hread] at h
    cases hkeep : E.keepsFreedSlot with
    | false =>
      rw [hkeep] at h
      cases h
    | true =>
      rw [hkeep] at h
      obtain rfl := Except.ok.inj h
      exact .enemyDespawned objectId a hw hk hkeep

theorem derefPlayer_eq_ok {a : ActorRef} {p : AS1Player R} :
    s.derefPlayer a = .ok p ↔ s.playerActors.get? a = some p := by
  unfold derefPlayer
  cases s.playerActors.get? a <;> simp

theorem derefEnemy_eq_ok {a : ActorRef} {e : AS1Enemy R} :
    s.derefEnemy a = .ok e ↔ s.enemyActors.get? a = some e := by
  unfold derefEnemy
  cases s.enemyActors.get? a <;> simp

theorem derefMyPlayer_eq_ok {a : ActorRef} {p : AS1Player R} :
    s.derefMyPlayer = .ok (a, p) ↔ s.myPlayer = some a ∧ s.playerActors.get? a = some p := by
  unfold derefMyPlayer
  cases s.myPlayer with
  | none => simp
  | some b =>
    simp only [bind_eq_ok, derefPlayer_eq_ok, Option.some.injEq]
    constructor
    · rintro ⟨q, hq, h⟩
      obtain ⟨rfl, rfl⟩ := Prod.mk.inj (Except.ok.inj h)
      exact ⟨rfl, hq⟩
    · rintro ⟨rfl, hp⟩
      exact ⟨p, hp, rfl⟩

/-- A write through a pointer to a live actor is a change in place. -/
private theorem modify_const {α : Type} {h : Arena α} {a : ActorRef} {v w : α} {f : α → α}
    (hv : h.get? a = some v) (hf : f v = w) : h.modify a (fun _ => w) = h.modify a f := by
  unfold Arena.get? at hv
  unfold Arena.modify
  refine congrArg (fun c => (⟨c, h.destroyCalls⟩ : Arena α)) (List.ext_getElem? fun b => ?_)
  rw [List.getElem?_modify, List.getElem?_modify]
  by_cases hb : a = b
  · subst hb
    obtain ⟨o, ho⟩ : ∃ o, h.cells[a]? = some o := by
      cases hc : h.cells[a]? with
      | none => rw [hc] at hv; cases hv
      | some o => exact ⟨o, rfl⟩
    rw [ho] at hv ⊢
    obtain rfl : o = some v := hv
    simp [hf]
  · simp [hb]

theorem handleMove_cases [Zero R] {pkt : S_MOVE R} (h : s.handleMove E pkt = .ok t) :
    Performed E s (.move pkt) t := by
  rcases guarded h with ⟨hw, rfl⟩ | ⟨hw, h⟩
  · exact .skipped _ (Or.inl hw)
  cases hk : s.players.lookup pkt.info.objectId with
  | none =>
    rw [hk] at h
    obtain rfl := Except.ok.inj h
    exact .skipped _ (Or.inr (Or.inl hk))
  | some a =>
    rw [hk] at h
    obtain ⟨p, hp, h⟩ := bind_eq_ok.mp h
    have hp := derefPlayer_eq_ok.mp hp
    cases hm : p.isMine with
    | true =>
      rw [if_pos hm] at h
      obtain rfl := Except.ok.inj h
      exact .skipped _ (Or.inr (Or.inr ⟨a, p, hk, hp, hm⟩))
    | false =>
      rw [if_neg (by rw [hm]; exact Bool.false_ne_true)] at h
      obtain ⟨q, hq, h⟩ := bind_eq_ok.mp h
      obtain rfl := AS1Player.setDestInfo_eq_ok hq
      obtain rfl := Except.ok.inj h
      have hmod : s.playerActors.modify a (fun _ => { p with destInfo := pkt.info }) =
          s.playerActors.modify a fun p => { p with destInfo := pkt.info } := modify_const hp rfl
      rw [hmod]
      exact .moved pkt a p hw hk hp hm

theorem handleEnemyAi_cases [Zero R] {pkt : S_AI R} (h : s.handleEnemyAi pkt = .ok t) :
    Performed E s (.enemyAi pkt) t := by
  rcases guarded h with ⟨hw, rfl⟩ | ⟨hw, h⟩
  · exact .skipped _ (Or.inl hw)
  cases hk : s.enemys.lookup pkt.objectId with
  | none =>
    rw [hk] at h
    obtain rfl := Except.ok.inj h
    exact .skipped _ (Or.inr hk)
  | some a =>
    rw [hk] at h
    obtain ⟨-, -, h⟩ := bind_eq_ok.mp h
    obtain rfl := Except.ok.inj h
    exact .aiApplied pkt a hw hk

theorem handleScore_cases [Zero R] {pkt : S_SCORE} (h : s.handleScore pkt = .ok t) :
    Performed E s (.score pkt) t := by
  unfold handleScore at h
  cases hc : s.connected with
  | false =>
    rw [hc] at h
    obtain rfl := Except.ok.inj h
    exact .skipped _ (Or.inl hc)
  | true =>
    rw [hc] at h
    cases hm : s.myPlayer with
    | none =>
      rw [hm] at h
      obtain rfl := Except.ok.inj h
      exact .skipped _ (Or.inr hm)
    | some a =>
      rw [hm] at h
      obtain ⟨p, hp, h⟩ := bind_eq_ok.mp h
      obtain rfl := Except.ok.inj h
      rw [← hm]
      exact .scored pkt a p hc hm (derefPlayer_eq_ok.mp hp)

theorem setCharacter_cases [Zero R] {player : ObjectInfo R × Nat}
    (h : s.setCharacter player = .ok t) : Performed E s (.character player) t := by
  unfold setCharacter at h
  split at h
  · obtain rfl := Except.ok.inj h
    exact .characterSet player _ _ _
  · cases h

/-- **`Performed` is complete.** -/
theorem perform_cases [Zero R] {e : Effect R} (h : s.perform E e = .ok t) : Performed E s e t := by
  cases e with
  | spawnPlayer info isMine => exact spawnPlayer_cases h
  | spawnEnemy info => exact spawnEnemy_cases h
  | despawnPlayer objectId => exact despawnPlayer_cases h
  | despawnEnemy objectId => exact despawnEnemy_cases h
  | move pkt => exact handleMove_cases h
  | enemyAi pkt => exact handleEnemyAi_cases h
  | score pkt => exact handleScore_cases h
  | character player => exact setCharacter_cases h

/-- A packet with one effect. -/
theorem dispatch_cases [Zero R] {pkt : ServerPacket R} {e : Effect R} (hpkt : pkt.effects = [e])
    (h : s.dispatch E pkt = .ok t) : Performed E s e t := by
  rw [dispatch_eq_run, hpkt, Steps.run_singleton] at h
  exact perform_cases h

end US1GameInstance
end S1Client
