import S1Client.Faults
import S1Client.Lobby

/-!
# Requests that come to nothing

A spawn can fail, and a reply of the server can be a refusal; both should leave the
client as it was.  `SpawnPlayer` hands the result of `SpawnActor` to the controller
before it looks whether there is one, so a local player that cannot be spawned costs
the client the pawn it had (`spawn_atomic_iff`).  The replies carry `success` or
`score_decision`, and no handler reads them: a refusal does what the same reply
does without it (`refusal_iff`).
-/
namespace S1Client
variable {R : Type}

namespace US1GameInstance

/-- The two maps, `MyPlayer`, the actors and the possessed pawn are the same. -/
structure SameWorld (s t : US1GameInstance R) : Prop where
  players : t.players = s.players
  enemys : t.enemys = s.enemys
  myPlayer : t.myPlayer = s.myPlayer
  playerActors : t.playerActors = s.playerActors
  enemyActors : t.enemyActors = s.enemyActors
  possessed : t.possessed = s.possessed

theorem SameWorld.refl (s : US1GameInstance R) : s.SameWorld s := ⟨rfl, rfl, rfl, rfl, rfl, rfl⟩

/-- An actor that did not live in `s` is tracked in `t`. -/
def TracksNewObject (s t : US1GameInstance R) : Prop :=
  (∃ k a, t.players.lookup k = some a ∧ t.playerActors.get? a ≠ none ∧
      s.playerActors.get? a = none) ∨
    ∃ k a, t.enemys.lookup k = some a ∧ t.enemyActors.get? a ≠ none ∧ s.enemyActors.get? a = none

variable [Zero R]

/-- The local player cannot be spawned, and the controller has a pawn to lose. -/
def LosesPawn (E : Engine R) (s : US1GameInstance R) (info : ObjectInfo R) : Prop :=
  s.inWorld = true ∧ s.players.lookup info.objectId = none ∧
    E.spawnActor s.spawnCalls (myPlayerClass info.playerType) info.posInfo.location = none ∧
    s.possessed ≠ none

variable {E : Engine R} {s t : US1GameInstance R}

/-! ## Spawns that fail -/

omit [Zero R] in
theorem not_tracksNewObject (s : US1GameInstance R) : ¬s.TracksNewObject s := by
  rintro (⟨k, a, -, hlive, hnew⟩ | ⟨k, a, -, hlive, hnew⟩)
  · exact hlive hnew
  · exact hlive hnew

/-- **A player that is spawned** is a new object; otherwise all stays as it is, but
for the pawn. -/
theorem Performed.spawnPlayer_atomic_iff {info : ObjectInfo R} {isMine : Bool}
    (h : Performed E s (.spawnPlayer info isMine) t) :
    (¬s.TracksNewObject t → s.SameWorld t) ↔ ¬(isMine = true ∧ s.LosesPawn E info) := by
  cases h with
  | skipped _ hskip =>
    refine ⟨fun _ hloses => ?_, fun _ _ => .refl s⟩
    obtain ⟨-, hw, hk, -⟩ := hloses
    rcases hskip with hw' | hk'
    · exact absurd (hw.symm.trans hw') Bool.false_ne_true.symm
    · exact hk' hk
  | playerFailed _ _ hw hk hfail =>
    cases isMine with
    | false => exact ⟨fun _ hloses => absurd hloses.1 Bool.false_ne_true,
        fun _ _ => ⟨rfl, rfl, rfl, rfl, rfl, rfl⟩⟩
    | true =>
      constructor
      · rintro hatomic ⟨-, -, -, -, hpawn⟩
        exact hpawn (hatomic s.not_tracksNewObject).possessed.symm
      · intro hkeeps _
        -- `Possess(nullptr)` only shows if there was a pawn
        have hpawn : s.possessed = none := by
          by_contra hpawn
          exact hkeeps ⟨rfl, hw, hk, hfail, hpawn⟩
        exact ⟨rfl, rfl, rfl, rfl, rfl, hpawn.symm⟩
  | playerSpawned _ _ place hw hk hplace =>
    constructor
    · rintro - ⟨rfl, -, -, hfail, -⟩
      exact absurd (hplace.symm.trans hfail) (Option.some_ne_none place)
    · intro _ hnone
      refine absurd (Or.inl ⟨info.objectId, s.playerActors.next, ?_, ?_, ?_⟩) hnone
      · exact s.players.lookup_add_self _ _
      · exact (s.playerActors.get?_spawn_next _).trans_ne (Option.some_ne_none _)
      · exact s.playerActors.get?_next

/-- **An enemy that is spawned** is a new object; otherwise all stays as it is. -/
theorem Performed.spawnEnemy_atomic {info : ObjectInfo R}
    (h : Performed E s (.spawnEnemy info) t) (hnone : ¬s.TracksNewObject t) : s.SameWorld t := by
  cases h with
  | skipped => exact .refl s
  | enemyFailed => exact ⟨rfl, rfl, rfl, rfl, rfl, rfl⟩
  | enemySpawned _ place hw hk hplace =>
    refine absurd (Or.inr ⟨info.objectId, s.enemyActors.next, ?_, ?_, ?_⟩) hnone
    · exact s.enemys.lookup_add_self _ _
    · exact (s.enemyActors.get?_spawn_next _).trans_ne (Option.some_ne_none _)
    · exact s.enemyActors.get?_next

/-- **A spawn that tracks nothing changes nothing, exactly unless it fails to spawn
the local player and the controller had a pawn.** -/
theorem spawn_atomic_iff (E : Engine R) (s : US1GameInstance R) (info : ObjectInfo R) :
    (∀ isMine, ∃ t, s.spawnPlayer E info isMine = .ok t ∧
        ((¬s.TracksNewObject t → s.SameWorld t) ↔ ¬(isMine = true ∧ s.LosesPawn E info))) ∧
      ∃ t, s.spawnEnemy E info = .ok t ∧ (¬s.TracksNewObject t → s.SameWorld t) := by
  constructor
  · intro isMine
    cases h : s.spawnPlayer E info isMine with
    | error f => exact absurd h spawnPlayer_ne_error
    | ok t => exact ⟨t, rfl, (spawnPlayer_cases h).spawnPlayer_atomic_iff⟩
  · cases h : s.spawnEnemy E info with
    | error f => exact absurd h spawnEnemy_ne_error
    | ok t => exact ⟨t, rfl, (spawnEnemy_cases h).spawnEnemy_atomic⟩

/-- **A failed spawn is not always atomic**: the controller gives up the pawn it has
for a local player that is not there. -/
theorem spawn_not_always_atomic :
    ¬∀ (E : Engine Int) (s t : US1GameInstance Int) (info : ObjectInfo Int) (isMine : Bool),
      s.spawnPlayer E info isMine = .ok t → ¬s.TracksNewObject t → s.SameWorld t := by
  intro h
  have hsame := h (.crowded Int) { started Int with possessed := some 3 } _
    (.named .player 7 7) true rfl (not_tracksNewObject (started Int))
  exact absurd hsame.possessed (by decide)

/-! ## Refusals -/

/-- The packet is processed, and the lobby and the world are the same. -/
def Ignores (E : Engine R) (s : US1GameInstance R) (pkt : ServerPacket R) : Prop :=
  ∃ t, s.dispatch E pkt = .ok t ∧ t.characterSlots = s.characterSlots ∧ s.SameWorld t

/-- The packet is processed, and the local player's score is the same. -/
def KeepsScore (E : Engine R) (s : US1GameInstance R) (pkt : ServerPacket R) : Prop :=
  ∃ t, s.dispatch E pkt = .ok t ∧ ∀ a, s.myPlayer = some a →
    (t.playerActors.get? a).map AS1Player.getScore = (s.playerActors.get? a).map AS1Player.getScore

/-- An `S_LOGIN` shows unless the slots hold its players already. -/
theorem ignores_login_iff (E : Engine R) (s : US1GameInstance R) (pkt : S_LOGIN R) :
    s.Ignores E (.S_LOGIN pkt) ↔ pkt.players.map .ofPlayer <+: s.characterSlots := by
  have hdispatch : s.dispatch E (.S_LOGIN pkt) = s.handleLogin pkt := by
    have hrun := run_dispatch_login E s [pkt]
    rwa [List.map_singleton, Steps.run_singleton, Steps.run_singleton] at hrun
  unfold Ignores
  rw [hdispatch, ← Region.write_eq_self_iff]
  rcases s.handleLogin_cases pkt with ⟨hlong, herror⟩ | ⟨-, t, ht, hwrite, honly⟩
  · have hnone : Region.write s.characterSlots 0 (pkt.players.map .ofPlayer) = none :=
      Region.write_eq_none.mpr (by simpa [length_characterSlots] using hlong)
    rw [herror, hnone]
    constructor
    · rintro ⟨t, ht, -⟩
      cases ht
    · intro h
      cases h
  · rw [ht, hwrite]
    constructor
    · rintro ⟨u, hu, hslots, -⟩
      obtain rfl := Except.ok.inj hu
      exact congrArg some hslots
    · intro hslots
      obtain ⟨name, score, type, rfl⟩ := honly
      exact ⟨_, rfl, Option.some.inj hslots, rfl, rfl, rfl, rfl, rfl, rfl⟩

/-- An `S_ENTER_GAME` shows unless it stops at a guard, or fails and there was no pawn
to lose. -/
theorem ignores_enterGame_iff (E : Engine R) (s : US1GameInstance R) (pkt : S_ENTER_GAME R) :
    s.Ignores E (.S_ENTER_GAME pkt) ↔
      s.inWorld = false ∨ s.players.lookup pkt.player.objectId ≠ none ∨
        E.spawnActor s.spawnCalls (myPlayerClass pkt.player.playerType)
          pkt.player.posInfo.location = none ∧ s.possessed = none := by
  obtain ⟨t, ht⟩ : ∃ t, s.spawnPlayer E pkt.player true = .ok t := by
    cases h : s.spawnPlayer E pkt.player true with
    | error f => exact absurd h spawnPlayer_ne_error
    | ok t => exact ⟨t, rfl⟩
  have hdispatch : s.dispatch E (.S_ENTER_GAME pkt) = .ok t :=
    (dispatch_eq_run E s _).trans (Steps.run_singleton.trans ht)
  constructor
  · rintro ⟨u, hu, -, hsame⟩
    obtain rfl := Except.ok.inj (hdispatch.symm.trans hu)
    cases spawnPlayer_cases ht with
    | skipped _ hskip => exact hskip.imp_right Or.inl
    | playerFailed _ _ hw hk hfail => exact Or.inr (Or.inr ⟨hfail, hsame.possessed.symm⟩)
    | playerSpawned _ _ place hw hk hplace =>
      -- the id is tracked now
      have hadd : (s.players.add pkt.player.objectId s.playerActors.next).lookup
          pkt.player.objectId = none := by
        rw [← hk]
        exact congrArg (fun m => m.lookup pkt.player.objectId) hsame.players
      rw [SlotMap.lookup_add_self] at hadd
      cases hadd
  · intro h
    refine ⟨t, hdispatch, ?_⟩
    cases spawnPlayer_cases ht with
    | skipped => exact ⟨rfl, .refl s⟩
    | playerFailed _ _ hw hk hfail =>
      have hpawn : s.possessed = none := by
        rcases h with hw' | hk' | ⟨-, hpawn⟩
        · exact absurd (hw.symm.trans hw') Bool.false_ne_true.symm
        · exact absurd hk hk'
        · exact hpawn
      exact ⟨rfl, rfl, rfl, rfl, rfl, rfl, hpawn.symm⟩
    | playerSpawned _ _ place hw hk hplace =>
      rcases h with hw' | hk' | ⟨hfail, -⟩
      · exact absurd (hw.symm.trans hw') Bool.false_ne_true.symm
      · exact absurd hk hk'
      · exact absurd (hplace.symm.trans hfail) (Option.some_ne_none place)

/-- An `S_SCORE` shows unless there is nobody to credit, or its points are 0 as an
`int`. -/
theorem keepsScore_iff (E : Engine R) (s : US1GameInstance R) (pkt : S_SCORE) :
    s.KeepsScore E (.S_SCORE pkt) ↔ (s.connected = true → ∀ a, s.myPlayer = some a →
      s.playerActors.get? a ≠ none ∧ pkt.point.toInt64.toInt32 = 0) := by
  constructor
  · rintro ⟨t, ht, hscore⟩ hc a hm
    cases dispatch_cases rfl ht with
    | skipped _ hskip =>
      rcases hskip with hc' | hm'
      · exact absurd (hc.symm.trans hc') Bool.false_ne_true.symm
      · exact absurd (hm.symm.trans hm') (Option.some_ne_none a)
    | scored _ b p _ hm' hp =>
      obtain rfl := Option.some.inj (hm.symm.trans hm')
      have hscore := hscore a hm
      rw [Arena.get?_modify, if_pos rfl, hp] at hscore
      have hadd : p.score + pkt.point.toInt64.toInt32 = p.score := Option.some.inj hscore
      exact ⟨hp.trans_ne (Option.some_ne_none p), by simpa using hadd⟩
  · intro h
    obtain ⟨t, ht⟩ : ∃ t, s.perform E (.score pkt) = .ok t := by
      refine US1GameInstance.perform_total fun f hf => ?_
      cases hf with
      | scoreDestroyed _ a hc hm hp => exact (h hc a hm).1 hp
    refine ⟨t, (dispatch_eq_run E s _).trans (Steps.run_singleton.trans ht), fun a hm => ?_⟩
    cases perform_cases ht with
    | skipped => rfl
    | scored _ b p hc hm' hp =>
      obtain rfl := Option.some.inj (hm.symm.trans hm')
      rw [Arena.get?_modify, if_pos rfl, hp]
      simp [AS1Player.getScore, AS1Player.increaseScore, (h hc a hm).2]

/-- **What a refusal leaves alone.**  The flags are read by nothing, so a refused reply
shows whenever the same reply would. -/
theorem refusal_iff (E : Engine R) (s : US1GameInstance R) :
    (∀ players, s.Ignores E (.S_LOGIN ⟨false, players⟩) ↔
        players.map .ofPlayer <+: s.characterSlots) ∧
      (∀ player?, s.Ignores E (.S_ENTER_GAME ⟨false, player?⟩) ↔
        s.inWorld = false ∨ s.players.lookup (player?.getD .default).objectId ≠ none ∨
          E.spawnActor s.spawnCalls (myPlayerClass (player?.getD .default).playerType)
            (player?.getD .default).posInfo.location = none ∧ s.possessed = none) ∧
      ∀ point, s.KeepsScore E (.S_SCORE ⟨false, point⟩) ↔ (s.connected = true →
        ∀ a, s.myPlayer = some a →
          s.playerActors.get? a ≠ none ∧ point.toInt64.toInt32 = 0) :=
  ⟨fun players => ignores_login_iff E s ⟨false, players⟩,
    fun player? => ignores_enterGame_iff E s ⟨false, player?⟩,
    fun point => keepsScore_iff E s ⟨false, point⟩⟩

/-- **A refusal does not always change nothing**: a refused `S_ENTER_GAME` without a
player makes a local player of the default type, under id 0. -/
theorem refusal_not_always_ignored :
    ¬∀ (E : Engine Int) (s₀ s : US1GameInstance Int) (ops : List (Op Int)), s₀.Initial →
      Steps.run (step E) s₀ ops = .ok s →
      (∀ players, s.Ignores E (.S_LOGIN ⟨false, players⟩)) ∧
        (∀ player?, s.Ignores E (.S_ENTER_GAME ⟨false, player?⟩)) ∧
        ∀ point, s.KeepsScore E (.S_SCORE ⟨false, point⟩) := by
  intro h
  obtain ⟨-, henter, -⟩ := h (.obliging Int false) (started Int) _ [] (started_initial Int) rfl
  obtain ⟨t, ht, -, hsame⟩ := henter none
  obtain rfl := Except.ok.inj ht
  exact absurd hsame.myPlayer (by decide)

end US1GameInstance
end S1Client
