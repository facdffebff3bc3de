import S1Client.Invariants

/-!
# What the server cannot steer

`HandleMove` leaves a player alone that has `IsMine` set, and nothing else writes to
a player but its spawn, `MoveMap` (the map number) and `S_SCORE`.  So the actor of
a local player keeps what it was spawned with for as long as it lives
(`Frozen.of_run`).  The moves and AI packets change only what is hidden here: the
destinations of remote players and the targets and states of enemies; no other
operation reads these, so two runs that differ in such packets only agree on all the
rest (`local_player_not_steered`).
-/
namespace S1Client
variable {R : Type}

namespace US1GameInstance

/-! ## What lives, lived -/

/-- `q` is `p` but for the map number and, if it is remote, the destination. -/
def SameLocal (p q : AS1Player R) : Prop :=
  q = { p with
    mapNum := q.mapNum
    destInfo := if p.isMine then p.destInfo else q.destInfo }

variable [Zero R] {E : Engine R} {s t : US1GameInstance R}

/-- **One effect** other than `S_SCORE`: a player alive after it was alive before it or
is new, and is the same but for the destination of a remote player. -/
theorem Performed.lived {e : Effect R} (h : Performed E s e t) (he : ∀ pkt, e ≠ .score pkt)
    {a : ActorRef} {q : AS1Player R} (ha : a < s.playerActors.next)
    (hq : t.playerActors.get? a = some q) :
    ∃ p, s.playerActors.get? a = some p ∧ SameLocal p q := by
  have hself : ∀ p : AS1Player R, SameLocal p p := fun p => by
    unfold SameLocal
    rw [ite_self]
  cases h with
  | playerSpawned info isMine place =>
    have hq : (s.playerActors.spawn _).get? a = some q := hq
    rw [Arena.get?_spawn, if_neg (Nat.ne_of_lt ha)] at hq
    exact ⟨q, hq, hself q⟩
  | playerDespawned objectId b =>
    have hq : (s.playerActors.destroy b).get? a = some q := hq
    rw [Arena.get?_destroy] at hq
    split at hq
    · cases hq
    · exact ⟨q, hq, hself q⟩
  | moved pkt b p hw hk hp hm =>
    have hmod : (s.playerActors.modify b _).get? a = some q := hq
    rw [Arena.get?_modify] at hmod
    by_cases hab : a = b
    · rw [if_pos hab, hab, hp] at hmod
      obtain rfl := Option.some.inj hmod
      exact ⟨p, by rw [hab]; exact hp, by simp [SameLocal, hm]⟩
    · rw [if_neg hab] at hmod
      exact ⟨q, hmod, hself q⟩
  | scored pkt => exact absurd rfl (he pkt)
  | skipped | playerFailed | enemyFailed | enemySpawned | enemyDespawned | aiApplied | characterSet =>
    exact ⟨q, hq, hself q⟩

omit [Zero R] in
theorem SameLocal.trans {p q r : AS1Player R} (h : SameLocal p q) (h' : SameLocal q r) :
    SameLocal p r := by
  have hm : q.isMine = p.isMine := by rw [h]
  unfold SameLocal at h h' ⊢
  rw [hm] at h'
  rw [h', h]
  cases p.isMine <;> rfl

theorem Performed.next_le {e : Effect R} (h : Performed E s e t) :
    s.playerActors.next ≤ t.playerActors.next := by
  cases h with
  | playerSpawned => exact Nat.le_of_lt (by simp)
  | playerDespawned | moved | scored => exact Nat.le_of_eq (by simp)
  | _ => exact Nat.le_refl _

/-- The player `a` of `s`, if it still lives in `t`, is the same there. -/
def Frozen (s : US1GameInstance R) (a : ActorRef) (t : US1GameInstance R) : Prop :=
  a < t.playerActors.next ∧ ∀ q, t.playerActors.get? a = some q →
    ∃ p, s.playerActors.get? a = some p ∧ SameLocal p q

omit [Zero R] in
theorem Frozen.start {a : ActorRef} (ha : a < s.playerActors.next) : s.Frozen a s :=
  ⟨ha, fun q hq => ⟨q, hq, by unfold SameLocal; rw [ite_self]⟩⟩

omit [Zero R] in
/-- What `t` keeps, and the next state keeps of `t`. -/
private theorem Frozen.next {u : US1GameInstance R} {a : ActorRef} (h : s.Frozen a t)
    (hnext : t.playerActors.next ≤ u.playerActors.next)
    (hu : ∀ r, u.playerActors.get? a = some r →
      ∃ q, t.playerActors.get? a = some q ∧ SameLocal q r) : s.Frozen a u := by
  refine ⟨Nat.lt_of_lt_of_le h.1 hnext, fun r hr => ?_⟩
  obtain ⟨q, hq, hqr⟩ := hu r hr
  obtain ⟨p, hp, hpq⟩ := h.2 q hq
  exact ⟨p, hp, hpq.trans hqr⟩

/-- **One operation** other than an `S_SCORE`. -/
theorem Frozen.of_step {s₀ : US1GameInstance R} {a : ActorRef} {op : Op R}
    (hop : ∀ pkt, op ≠ .packet (.S_SCORE pkt)) (hs : s₀.Frozen a s) (h : s.step E op = .ok t) :
    s₀.Frozen a t := by
  refine step_invariant (P := s₀.Frozen a) ?_ ?_ ?_ ?_ hs h
  · intro s e t hcause hs h
    have he : ∀ pkt, e ≠ .score pkt := by
      rintro pkt rfl
      cases op with
      | packet p => exact hop pkt (by rw [ServerPacket.scores_of_mem_effects hcause])
      | moveMap n => obtain ⟨k, hk | hk⟩ := hcause <;> cases hk
      | disconnectFromGameServer => exact hcause
    exact hs.next h.next_le fun r hr => h.lived he hs.1 hr
  · exact fun s g _ hs => hs
  · intro s b n _ hs
    refine hs.next (Nat.le_of_eq (by simp)) fun r hr => ?_
    have hmod : (s.playerActors.modify b _).get? a = some r := hr
    rw [Arena.get?_modify] at hmod
    by_cases hab : a = b
    · rw [if_pos hab] at hmod
      obtain ⟨q, hq, rfl⟩ := Option.map_eq_some_iff.mp hmod
      exact ⟨q, hq, by simp [SameLocal, AS1Player.setMapNumber]⟩
    · rw [if_neg hab] at hmod
      exact ⟨r, hmod, by unfold SameLocal; rw [ite_self]⟩
  · exact fun s _ hs => hs

/-- **A run** without `S_SCORE`. -/
theorem Frozen.of_run {a : ActorRef} {ops : List (Op R)}
    (hops : ∀ op ∈ ops, ∀ pkt, op ≠ .packet (.S_SCORE pkt)) (ha : a < s.playerActors.next)
    (h : Steps.run (step E) s ops = .ok t) : s.Frozen a t :=
  Steps.run_invariant_mem (fun _ op hop _ hs h => hs.of_step (hops op hop) h) (Frozen.start ha) h

/-! ## What moves and AI packets change -/

/-- A player without the destination, if it is remote. -/
def shownPlayer (p : AS1Player R) : AS1Player R :=
  if p.isMine then p else { p with destInfo := .default }

/-- An enemy without its target and its state. -/
def shownEnemy (e : AS1Enemy R) : AS1Enemy R :=
  { e with targetLocation := ⟨0, 0, 0⟩, moveState := .none }

/-- The state without what `S_MOVE` and `S_AI` change. -/
def shown (s : US1GameInstance R) : US1GameInstance R :=
  { s with
    playerActors := s.playerActors.map shownPlayer
    enemyActors := s.enemyActors.map shownEnemy }

theorem shownPlayer_shownPlayer (p : AS1Player R) : shownPlayer (shownPlayer p) = shownPlayer p := by
  unfold shownPlayer
  cases hm : p.isMine <;> simp [hm]

theorem map_shownPlayer (h : Arena (AS1Player R)) :
    (h.map shownPlayer).map shownPlayer = h.map shownPlayer := by
  rw [Arena.map_map]
  exact congrArg h.map (funext shownPlayer_shownPlayer)

theorem map_shownEnemy (h : Arena (AS1Enemy R)) :
    (h.map shownEnemy).map shownEnemy = h.map shownEnemy := Arena.map_map ..

theorem shown_shown (s : US1GameInstance R) : s.shown.shown = s.shown := by
  unfold shown
  rw [map_shownPlayer, map_shownEnemy]

/-- The state with a player that was spawned. -/
def withPlayer (s : US1GameInstance R) (info : ObjectInfo R) (isMine : Bool)
    (place : Placement R) : US1GameInstance R :=
  { s with
    spawnCalls := s.spawnCalls + 1
    possessed := if isMine then some s.playerActors.next else s.possessed
    playerActors := s.playerActors.spawn (spawnedPlayer info isMine place)
    myPlayer := if isMine then some s.playerActors.next else s.myPlayer
    players := s.players.add info.objectId s.playerActors.next }

theorem withPlayer_shown (s : US1GameInstance R) (info : ObjectInfo R) (isMine : Bool)
    (place : Placement R) :
    (s.shown.withPlayer info isMine place).shown = (s.withPlayer info isMine place).shown := by
  simp only [withPlayer, shown, Arena.map_spawn, Arena.next_map, map_shownPlayer, map_shownEnemy]

/-- A function behind both guards shows the same if its body does. -/
private theorem guarded_shown {s : US1GameInstance R}
    {body body' : Except Fault (US1GameInstance R)} (h : body.map shown = body'.map shown) :
    (if (!s.shown.connected) = true then .ok s.shown
      else if (!s.shown.hasWorld) = true then .ok s.shown else body :
        Except Fault (US1GameInstance R)).map shown =
      (if (!s.connected) = true then .ok s
        else if (!s.hasWorld) = true then .ok s else body' :
          Except Fault (US1GameInstance R)).map shown := by
  have hskip : Except.map shown (.ok s.shown : Except Fault (US1GameInstance R)) =
      Except.map shown (.ok s) := congrArg Except.ok s.shown_shown
  rw [show s.shown.connected = s.connected from rfl, show s.shown.hasWorld = s.hasWorld from rfl]
  split
  · exact hskip
  split
  · exact hskip
  · exact h

theorem spawnPlayer_shown (s : US1GameInstance R) (info : ObjectInfo R) (isMine : Bool) :
    (s.shown.spawnPlayer E info isMine).map shown = (s.spawnPlayer E info isMine).map shown := by
  unfold spawnPlayer
  refine guarded_shown ?_
  rw [show s.shown.players = s.players from rfl, show s.shown.spawnCalls = s.spawnCalls from rfl]
  split
  · exact congrArg Except.ok s.shown_shown
  cases isMine with
  | true =>
    rw [if_pos rfl, if_pos rfl]
    cases E.spawnActor s.spawnCalls (myPlayerClass info.playerType) info.posInfo.location with
    | none =>
      refine congrArg Except.ok ?_
      simp only [shown, map_shownPlayer, map_shownEnemy]
      rfl
    | some place => exact congrArg Except.ok (s.withPlayer_shown info true place)
  | false =>
    rw [if_neg Bool.false_ne_true, if_neg Bool.false_ne_true]
    cases E.spawnActor s.spawnCalls (otherPlayerClass info.playerType) info.posInfo.location with
    | none =>
      refine congrArg Except.ok ?_
      simp only [shown, map_shownPlayer, map_shownEnemy]
    | some place => exact congrArg Except.ok (s.withPlayer_shown info false place)

theorem spawnEnemy_shown (s : US1GameInstance R) (info : ObjectInfo R) :
    (s.shown.spawnEnemy E info).map shown = (s.spawnEnemy E info).map shown := by
  unfold spawnEnemy
  refine guarded_shown ?_
  rw [show s.shown.players = s.players from rfl, show s.shown.spawnCalls = s.spawnCalls from rfl]
  split
  · exact congrArg Except.ok s.shown_shown
  cases E.spawnActor s.spawnCalls .EnemyClass info.posInfo.location with
  | none =>
    refine congrArg Except.ok ?_
    simp only [shown, map_shownPlayer, map_shownEnemy]
  | some place =>
    refine congrArg Except.ok ?_
    simp only [shown, Arena.map_spawn, Arena.next_map, map_shownPlayer, map_shownEnemy]

theorem despawnPlayer_shown (s : US1GameInstance R) (objectId : Int64) :
    (s.shown.despawnPlayer E objectId).map shown = (s.despawnPlayer E objectId).map shown := by
  unfold despawnPlayer
  refine guarded_shown ?_
  rw [show s.shown.players = s.players from rfl]
  cases s.players.find objectId.toUInt64 with
  | none => exact congrArg Except.ok s.shown_shown
  | some i =>
    simp only []
    cases (s.players.remove objectId.toUInt64).deref E.keepsFreedSlot i with
    | none => rfl
    | some a =>
      refine congrArg Except.ok ?_
      simp only [shown, Arena.map_destroy, map_shownPlayer, map_shownEnemy]

theorem despawnEnemy_shown (s : US1GameInstance R) (objectId : Int64) :
    (s.shown.despawnEnemy E objectId).map shown = (s.despawnEnemy E objectId).map shown := by
  unfold despawnEnemy
  refine guarded_shown ?_
  rw [show s.shown.enemys = s.enemys from rfl]
  cases s.enemys.find objectId.toUInt64 with
  | none => exact congrArg Except.ok s.shown_shown
  | some i =>
    simp only []
    cases (s.enemys.remove objectId.toUInt64).deref E.keepsFreedSlot i with
    | none => rfl
    | some a =>
      refine congrArg Except.ok ?_
      simp only [shown, Arena.map_destroy, map_shownPlayer, map_shownEnemy]

theorem derefPlayer_shown (s : US1GameInstance R) (a : ActorRef) :
    s.shown.derefPlayer a = (s.derefPlayer a).map shownPlayer := by
  unfold derefPlayer
  rw [show s.shown.playerActors = s.playerActors.map shownPlayer from rfl, Arena.get?_map]
  cases s.playerActors.get? a <;> rfl

theorem derefEnemy_shown (s : US1GameInstance R) (a : ActorRef) :
    s.shown.derefEnemy a = (s.derefEnemy a).map shownEnemy := by
  unfold derefEnemy
  rw [show s.shown.enemyActors = s.enemyActors.map shownEnemy from rfl, Arena.get?_map]
  cases s.enemyActors.get? a <;> rfl

theorem shownPlayer_increaseScore (p : AS1Player R) (input : Int32) :
    shownPlayer (p.increaseScore input) = (shownPlayer p).increaseScore input := by
  unfold shownPlayer AS1Player.increaseScore
  cases hm : p.isMine <;> simp [hm]

/-- A change that does not depend on what is hidden. -/
theorem modify_shownPlayer (h : Arena (AS1Player R)) (a : ActorRef) {g : AS1Player R → AS1Player R}
    (hg : ∀ p, shownPlayer (g p) = g (shownPlayer p)) :
    ((h.map shownPlayer).modify a g).map shownPlayer = (h.modify a g).map shownPlayer := by
  rw [Arena.map_modify _ _ hg, map_shownPlayer, Arena.map_modify _ _ hg]

theorem handleScore_shown (s : US1GameInstance R) (pkt : S_SCORE) :
    (s.shown.handleScore pkt).map shown = (s.handleScore pkt).map shown := by
  unfold handleScore
  rw [show s.shown.connected = s.connected from rfl, show s.shown.myPlayer = s.myPlayer from rfl]
  split
  · exact congrArg Except.ok s.shown_shown
  cases s.myPlayer with
  | none => exact congrArg Except.ok s.shown_shown
  | some mine =>
    simp only [derefPlayer_shown]
    cases s.derefPlayer mine with
    | error e => rfl
    | ok p =>
      have hmod := modify_shownPlayer s.playerActors mine
        fun p => shownPlayer_increaseScore p pkt.point.toInt64.toInt32
      refine congrArg Except.ok ?_
      simp only [shown, map_shownEnemy, hmod]

theorem setCharacter_shown (s : US1GameInstance R) (player : ObjectInfo R × Nat) :
    (s.shown.setCharacter player).map shown = (s.setCharacter player).map shown := by
  unfold setCharacter
  split
  · refine congrArg Except.ok ?_
    simp only [shown, map_shownPlayer, map_shownEnemy]
  · rfl

/-- The effects that are not hidden. -/
def Effect.Shown : Effect R → Prop
  | .move _ | .enemyAi _ => False
  | _ => True

/-- **One effect** that is not hidden shows the same from states that show the same. -/
theorem perform_shown {e : Effect R} (he : Effect.Shown e) (h : s.shown = t.shown) :
    (s.perform E e).map shown = (t.perform E e).map shown := by
  have hone : ∀ s : US1GameInstance R, (s.shown.perform E e).map shown = (s.perform E e).map shown := by
    intro s
    cases e with
    | spawnPlayer info isMine => exact s.spawnPlayer_shown info isMine
    | spawnEnemy info => exact s.spawnEnemy_shown info
    | despawnPlayer objectId => exact s.despawnPlayer_shown objectId.toInt64
    | despawnEnemy objectId => exact s.despawnEnemy_shown objectId.toInt64
    | move pkt => exact he.elim
    | enemyAi pkt => exact he.elim
    | score pkt => exact s.handleScore_shown pkt
    | character player => exact s.setCharacter_shown player
  rw [← hone s, h, hone t]

/-- **The hidden effects** do not show. -/
theorem Performed.hidden {e : Effect R} (h : Performed E s e t) (he : ¬Effect.Shown e) :
    t.shown = s.shown := by
  cases h with
  | skipped => rfl
  | moved pkt a p _ _ hp hm =>
    have hplayers : (s.playerActors.modify a fun p => { p with destInfo := pkt.info }).map
        shownPlayer = s.playerActors.map shownPlayer := by
      refine Arena.map_modify_hidden _ _ fun v hv => ?_
      obtain rfl := Option.some.inj (hp.symm.trans hv)
      simp [shownPlayer, hm]
    simp only [shown, hplayers]
  | aiApplied pkt a =>
    have henemys : (s.enemyActors.modify a (applyAi pkt)).map shownEnemy =
        s.enemyActors.map shownEnemy := by
      refine Arena.map_modify_hidden _ _ fun v _ => ?_
      unfold applyAi setAiState
      cases pkt.state <;> rfl
    simp only [shown, henemys]
  | _ => exact absurd trivial he

/-! ## Operations -/

theorem derefMyPlayer_shown (s : US1GameInstance R) :
    s.shown.derefMyPlayer = s.derefMyPlayer.map fun mine => (mine.1, shownPlayer mine.2) := by
  unfold derefMyPlayer
  rw [show s.shown.myPlayer = s.myPlayer from rfl]
  cases s.myPlayer with
  | none => rfl
  | some a =>
    simp only [derefPlayer_shown]
    cases s.derefPlayer a <;> rfl

theorem getObjectId_shownPlayer (p : AS1Player R) : (shownPlayer p).getObjectId = p.getObjectId := by
  unfold shownPlayer
  cases p.isMine <;> rfl

theorem playersToDespawn_shown (s : US1GameInstance R) (elems : List (UInt64 × ActorRef)) :
    s.shown.playersToDespawn elems = s.playersToDespawn elems := by
  induction elems with
  | nil => rw [playersToDespawn, playersToDespawn]
  | cons elem elems ih =>
    rw [playersToDespawn, playersToDespawn, ih, derefPlayer_shown, derefMyPlayer_shown]
    cases s.derefPlayer elem.2 with
    | error e => simp only [Except.map, bind, Except.bind]
    | ok p =>
      cases s.derefMyPlayer with
      | error e => simp only [Except.map, bind, Except.bind]
      | ok mine => simp only [Except.map, bind, Except.bind, getObjectId_shownPlayer]

theorem enemysToDespawn_shown (s : US1GameInstance R) (elems : List (UInt64 × ActorRef)) :
    s.shown.enemysToDespawn elems = s.enemysToDespawn elems := by
  induction elems with
  | nil => rw [enemysToDespawn, enemysToDespawn]
  | cons elem elems ih =>
    unfold enemysToDespawn
    rw [ih, derefEnemy_shown]
    cases s.derefEnemy elem.2 <;> rfl

theorem sendPacket_shown (s : US1GameInstance R) (pkt : ClientPacket R) :
    (s.sendPacket pkt).shown = s.shown.sendPacket pkt := by
  unfold sendPacket
  rw [show s.shown.socket = s.socket from rfl,
    show s.shown.gameServerSession = s.gameServerSession from rfl]
  cases s.socket <;> cases s.gameServerSession <;> rfl

theorem shownPlayer_setMapNumber (p : AS1Player R) (n : Int32) :
    shownPlayer (p.setMapNumber n) = (shownPlayer p).setMapNumber n := by
  unfold shownPlayer AS1Player.setMapNumber
  cases hm : p.isMine <;> simp [hm]

/-- The end of `MoveMap`. -/
private def setMyMapNumber (s : US1GameInstance R) (n : Int32) : Except Fault (US1GameInstance R) := do
  let (mine, _) ← s.derefMyPlayer
  return { s with playerActors := s.playerActors.modify mine fun p => p.setMapNumber n }

private theorem setMyMapNumber_shown (s : US1GameInstance R) (n : Int32) :
    (s.shown.setMyMapNumber n).map shown = (s.setMyMapNumber n).map shown := by
  unfold setMyMapNumber
  rw [derefMyPlayer_shown]
  cases s.derefMyPlayer with
  | error e => rfl
  | ok mine =>
    have hmod := modify_shownPlayer s.playerActors mine.1 fun p => shownPlayer_setMapNumber p n
    refine congrArg Except.ok ?_
    simp only [shown, map_shownEnemy, hmod]

/-- What shows the same to one function shows the same to another that commutes. -/
private theorem shown_congr (f : US1GameInstance R → Except Fault (US1GameInstance R))
    (hf : ∀ s, (f s.shown).map shown = (f s).map shown) (h : s.shown = t.shown) :
    (f s).map shown = (f t).map shown := by
  rw [← hf s, h, hf t]

theorem moveMap_shown (n : Int32) (h : s.shown = t.shown) :
    (s.moveMap E n).map shown = (t.moveMap E n).map shown := by
  have hplayers : s.playersToDespawn s.players.entries = t.playersToDespawn t.players.entries := by
    have heq : s.shown.players = t.shown.players := congrArg US1GameInstance.players h
    have heq : s.players = t.players := heq
    rw [← playersToDespawn_shown s, ← playersToDespawn_shown t, h, heq]
  unfold moveMap
  rw [hplayers]
  cases t.playersToDespawn t.players.entries with
  | error e => rfl
  | ok queue =>
    have hrun : (Steps.run (despawnPlayer E) s queue).map shown =
        (Steps.run (despawnPlayer E) t queue).map shown :=
      Steps.run_view (fun _ _ k _ h => shown_congr (despawnPlayer E · k) (despawnPlayer_shown · k) h) h
    show (Steps.run (despawnPlayer E) s queue >>= _).map shown =
      (Steps.run (despawnPlayer E) t queue >>= _).map shown
    refine Steps.bind_view hrun fun u v huv => ?_
    have henemys : u.enemysToDespawn u.enemys.entries = v.enemysToDespawn v.enemys.entries := by
      have heq : u.shown.enemys = v.shown.enemys := congrArg US1GameInstance.enemys huv
      have heq : u.enemys = v.enemys := heq
      rw [← enemysToDespawn_shown u, ← enemysToDespawn_shown v, huv, heq]
    rw [henemys]
    cases v.enemysToDespawn v.enemys.entries with
    | error e => rfl
    | ok queue =>
      have hrun : (Steps.run (despawnEnemy E) u queue).map shown =
          (Steps.run (despawnEnemy E) v queue).map shown :=
        Steps.run_view (fun _ _ k _ h => shown_congr (despawnEnemy E · k) (despawnEnemy_shown · k) h) huv
      show (Steps.run (despawnEnemy E) u queue >>= _).map shown =
        (Steps.run (despawnEnemy E) v queue >>= _).map shown
      refine Steps.bind_view hrun fun u v huv => ?_
      have hsent : (u.sendPacket (.C_ENTER_ROOM n.toInt64.toUInt64)).shown =
          (v.sendPacket (.C_ENTER_ROOM n.toInt64.toUInt64)).shown := by
        rw [sendPacket_shown, sendPacket_shown, huv]
      exact shown_congr (setMyMapNumber · n) (setMyMapNumber_shown · n) hsent

theorem disconnectFromGameServer_shown (s : US1GameInstance R) :
    s.disconnectFromGameServer.shown = s.shown.disconnectFromGameServer := by
  unfold disconnectFromGameServer
  rw [← sendPacket_shown, show s.shown.connected = s.connected from rfl]
  cases s.connected <;> rfl

/-- Neither an `S_MOVE` nor an `S_AI`. -/
def Op.isShown : Op R → Bool
  | .packet (.S_MOVE _) | .packet (.S_AI _) => false
  | _ => true

omit [Zero R] in
theorem shown_of_mem_effects {pkt : ServerPacket R} (hop : (Op.packet pkt).isShown = true) :
    ∀ e ∈ pkt.effects, Effect.Shown e := by
  intro e he
  cases pkt with
  | S_MOVE | S_AI => cases hop
  | S_LOGIN p =>
    obtain ⟨player, -, rfl⟩ := List.mem_map.mp he
    trivial
  | S_SPAWN p =>
    obtain ⟨object, -, ⟨-, rfl⟩ | ⟨-, rfl⟩⟩ := S_SPAWN.of_mem_effects he <;> trivial
  | S_DESPAWN p =>
    obtain ⟨object, -, ⟨-, rfl⟩ | ⟨-, rfl⟩⟩ := S_DESPAWN.of_mem_effects he <;> trivial
  | S_ENTER_GAME p =>
    obtain rfl := List.mem_singleton.mp he
    trivial
  | S_SCORE p =>
    obtain rfl := List.mem_singleton.mp he
    trivial
  | _ => cases he

/-- **One operation** that is not hidden. -/
theorem step_shown {op : Op R} (hop : op.isShown = true) (h : s.shown = t.shown) :
    (s.step E op).map shown = (t.step E op).map shown := by
  cases op with
  | packet pkt =>
    show (s.dispatch E pkt).map shown = (t.dispatch E pkt).map shown
    rw [dispatch_eq_run, dispatch_eq_run]
    refine Steps.run_view (fun s t e he h => ?_) h
    exact perform_shown (shown_of_mem_effects hop e he) h
  | moveMap n => exact moveMap_shown n h
  | disconnectFromGameServer =>
    refine congrArg Except.ok ?_
    rw [disconnectFromGameServer_shown, disconnectFromGameServer_shown, h]

/-- **One operation** that is. -/
theorem step_hidden {op : Op R} (hop : op.isShown = false) (h : s.step E op = .ok t) :
    t.shown = s.shown := by
  cases op with
  | packet pkt =>
    cases pkt with
    | S_MOVE p =>
      have hmove : Performed E s (.move p) t := dispatch_cases rfl h
      exact hmove.hidden id
    | S_AI p =>
      have hai : Performed E s (.enemyAi p) t := dispatch_cases rfl h
      exact hai.hidden id
    | _ => cases hop
  | moveMap n => cases hop
  | disconnectFromGameServer => cases hop

/-- What is the same without the hidden part, is the same of a local player. -/
private theorem get?_of_shown_eq (h : s.shown = t.shown) {a : ActorRef} {p : AS1Player R}
    (hm : p.isMine = true) (hp : s.playerActors.get? a = some p) :
    t.playerActors.get? a = some p := by
  have hactors : s.playerActors.map shownPlayer = t.playerActors.map shownPlayer :=
    congrArg US1GameInstance.playerActors h
  have ha : (t.playerActors.get? a).map shownPlayer = some p := by
    rw [← Arena.get?_map, ← hactors, Arena.get?_map, hp]
    simp [shownPlayer, hm]
  obtain ⟨q, hq, hqp⟩ := Option.map_eq_some_iff.mp ha
  have hmq : q.isMine = true := by
    rw [← hm, ← hqp]
    unfold shownPlayer
    cases hmine : q.isMine <;> simp [hmine]
  rw [hq, ← hqp, shownPlayer, if_pos hmq]

/-- **Object packets cannot steer the local player.**  In a run without `S_SCORE`, an
actor that has `IsMine` set at the start of the run and lives at its end has the same
flag, infos, destination and score; and a run that differs in moves and AI packets
only ends with the same `MyPlayer` and the same actors with `IsMine`. -/
theorem local_player_not_steered {ops : List (Op R)}
    (hops : ∀ op ∈ ops, ∀ pkt, op ≠ .packet (.S_SCORE pkt))
    (h : Steps.run (step E) s ops = .ok t) :
    (∀ a p q, s.playerActors.get? a = some p → p.isMine = true →
      t.playerActors.get? a = some q → q.isMine = true ∧ q.objectInfo = p.objectInfo ∧
        q.posInfo = p.posInfo ∧ q.destInfo = p.destInfo ∧ q.score = p.score) ∧
      ∀ ops' t', ops.filter Op.isShown = ops'.filter Op.isShown →
        Steps.run (step E) s ops' = .ok t' → t'.myPlayer = t.myPlayer ∧
          ∀ a p, p.isMine = true →
            (t.playerActors.get? a = some p ↔ t'.playerActors.get? a = some p) := by
  constructor
  · intro a p q hp hm hq
    obtain ⟨p', hp', hsame⟩ := (Frozen.of_run hops (Arena.lt_next hp) h).2 q hq
    obtain rfl := Option.some.inj (hp.symm.trans hp')
    unfold SameLocal at hsame
    rw [hsame]
    simp [hm]
  · intro ops' t' hfilter h'
    have hshown : ∀ (s t : US1GameInstance R) (op : Op R), op.isShown = true → s.shown = t.shown →
        (s.step E op).map shown = (t.step E op).map shown := fun _ _ _ => step_shown
    have hhidden : ∀ (s : US1GameInstance R) (op : Op R) t, op.isShown = false → s.step E op = .ok t →
        t.shown = s.shown := fun _ _ _ => step_hidden
    have hview : t.shown = t'.shown := Steps.view_eq_of_filter_eq hshown hhidden hfilter h h'
    exact ⟨(congrArg US1GameInstance.myPlayer hview).symm, fun a p hm =>
      ⟨get?_of_shown_eq hview hm, get?_of_shown_eq hview.symm hm⟩⟩

/-- An `S_MOVE` with the local player's id leaves `MyPlayer` as it is without it. -/
theorem local_player_not_steered_move : ∃ t t' : US1GameInstance Int,
    Steps.run (step (.obliging Int true)) (started Int)
        [.packet (.S_ENTER_GAME ⟨true, some (.named .player 5 5)⟩),
          .packet (.S_MOVE ⟨some { PosInfo.default with objectId := 5, x := 9 }⟩)] = .ok t ∧
      Steps.run (step (.obliging Int true)) (started Int)
        [.packet (.S_ENTER_GAME ⟨true, some (.named .player 5 5)⟩)] = .ok t' ∧
      t'.myPlayer = t.myPlayer := by
  have hops : ∀ op ∈ ([.packet (.S_ENTER_GAME ⟨true, some (.named .player 5 5)⟩),
      .packet (.S_MOVE ⟨some { PosInfo.default with objectId := 5, x := 9 }⟩)] : List (Op Int)),
      ∀ pkt, op ≠ .packet (.S_SCORE pkt) := by
    rintro op hop pkt rfl
    simp at hop
  exact ⟨_, _, rfl, rfl, ((@local_player_not_steered Int _ (.obliging Int true) (started Int) _ _
    hops rfl).2 [.packet (.S_ENTER_GAME ⟨true, some (.named .player 5 5)⟩)] _ rfl rfl).1⟩

end US1GameInstance
end S1Client
