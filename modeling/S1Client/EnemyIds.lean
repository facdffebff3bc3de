import S1Client.MoveMap

/-!
# Enemy ids in Blueprint

Blueprint knows an enemy by the `int` that `GetObjectId` gives it, and hands that
number back to `GetEnemyFromId` and `RequestScore`.  Each widens it with its sign on
its own, so both come back to the id exactly if the id is the sign extension of a
32-bit number: below 2³¹, or from 2⁶⁴ - 2³¹ on (`survivesBlueprint_iff`).
-/
namespace S1Client
namespace US1GameInstance
open Steps (bind_eq_ok)
variable {R : Type}

/-- Blueprint finds the enemy `e`, which is the actor `a` tracked under `objectId`, and
scores it: the id it got from `GetObjectId` leads back to `a`, and to a `C_SCORE` with
`objectId` in it. -/
structure SurvivesBlueprint (s : US1GameInstance R) (objectId : UInt64) (a : ActorRef)
    (e : AS1Enemy R) : Prop where
  found : s.getEnemyFromId e.getObjectId = .ok a
  scored : ∃ t playerId, s.requestScore e.getObjectId = .ok t ∧
    s.Sends (.C_SCORE playerId objectId) t

variable {s t : US1GameInstance R}

theorem getEnemyFromId_eq_ok {objectId : Int32} {a : ActorRef} :
    s.getEnemyFromId objectId = .ok a ↔ s.enemys.lookup (widenId objectId) = some a := by
  unfold getEnemyFromId
  rw [show objectId.toInt64.toUInt64 = widenId objectId from rfl]
  cases s.enemys.lookup (widenId objectId) <;> simp

/-- `RequestScore` needs `MyPlayer` and a connection, and sends the widened id. -/
theorem requestScore_sends_iff {monsterId : Int32} {objectId : UInt64} :
    (∃ t playerId, s.requestScore monsterId = .ok t ∧ s.Sends (.C_SCORE playerId objectId) t) ↔
      widenId monsterId = objectId ∧ s.connected = true ∧
        ∃ m p, s.myPlayer = some m ∧ s.playerActors.get? m = some p := by
  constructor
  · rintro ⟨t, playerId, ht, hsends⟩
    obtain ⟨⟨m, p⟩, hmine, ht⟩ := bind_eq_ok.mp ht
    obtain rfl := Except.ok.inj ht
    obtain ⟨hc, hpkt⟩ := s.sends_sendPacket_iff.mp hsends
    obtain ⟨-, hid⟩ := ClientPacket.C_SCORE.inj hpkt
    exact ⟨hid, hc, m, p, derefMyPlayer_eq_ok.mp hmine⟩
  · rintro ⟨rfl, hc, m, p, hmine⟩
    have ht : s.requestScore monsterId =
        .ok (s.sendPacket (.C_SCORE p.posInfo.objectId (widenId monsterId))) :=
      bind_eq_ok.mpr ⟨(m, p), derefMyPlayer_eq_ok.mpr hmine, rfl⟩
    exact ⟨_, _, ht, s.sends_sendPacket_iff.mpr ⟨hc, rfl⟩⟩

/-- **One tracked enemy.**  With the connection up, its id survives exactly if it fits
`int` and `MyPlayer` is there to score. -/
theorem Keyed.survives_iff (hs : s.enemyRegistry.Keyed enemyKey) {objectId : UInt64}
    {a : ActorRef} {e : AS1Enemy R} (hk : s.enemys.lookup objectId = some a)
    (he : s.enemyActors.get? a = some e) (hc : s.connected = true) :
    s.SurvivesBlueprint objectId a e ↔
      FitsInt objectId ∧ ∃ m p, s.myPlayer = some m ∧ s.playerActors.get? m = some p := by
  have hid : e.getObjectId = narrowId objectId := getObjectId_enemy hs hk he
  constructor
  · rintro ⟨-, hscored⟩
    obtain ⟨hfit, -, hmine⟩ := requestScore_sends_iff.mp hscored
    rw [hid] at hfit
    exact ⟨hfit, hmine⟩
  · rintro ⟨hfit, hmine⟩
    have hwiden : widenId e.getObjectId = objectId := by
      rw [hid]
      exact hfit
    exact ⟨getEnemyFromId_eq_ok.mpr (hwiden ▸ hk), requestScore_sends_iff.mpr ⟨hwiden, hc, hmine⟩⟩

variable [Zero R] {E : Engine R}

/-- **An enemy is tracked only on a connection**: it was spawned on one, and no
operation takes the connection down. -/
def EnemysConnected (s : US1GameInstance R) : Prop :=
  ∀ objectId, s.enemys.lookup objectId ≠ none → s.connected = true

theorem Performed.enemysConnected {e : Effect R} (h : Performed E s e t)
    (hs : s.EnemysConnected) : t.EnemysConnected := by
  intro objectId hk
  rw [h.connected_eq]
  cases h with
  | enemySpawned _ _ hw =>
    simp only [inWorld, Bool.and_eq_true] at hw
    exact hw.1
  | enemyDespawned _ a _ _ _ =>
    have hk : (s.enemys.remove _).lookup objectId ≠ none := hk
    rw [SlotMap.lookup_remove] at hk
    split at hk
    · exact absurd rfl hk
    · exact hs objectId hk
  | _ => exact hs objectId hk

theorem step_enemysConnected {op : Op R} (hs : s.EnemysConnected) (h : s.step E op = .ok t) :
    t.EnemysConnected := by
  refine step_invariant (P := EnemysConnected) (fun _ _ _ _ hs h => h.enemysConnected hs)
    (fun u g hg hu objectId hk => ?_) (fun _ _ _ _ hu => hu) (fun _ _ _ _ hk => absurd rfl hk) hs h
  have hc := hu objectId hk
  rw [connected] at hc ⊢
  rw [hg]
  exact hc

/-- **Enemy ids survive the way through Blueprint exactly if they are the sign extension
of a 32-bit number**, and while there is a local player to score them. -/
theorem survivesBlueprint_iff {s₀ : US1GameInstance R} {ops : List (Op R)} {objectId : UInt64}
    {a : ActorRef} {e : AS1Enemy R} (h0 : s₀.Initial) (hrun : Steps.run (step E) s₀ ops = .ok s)
    (hk : s.enemys.lookup objectId = some a) (he : s.enemyActors.get? a = some e) :
    s.SurvivesBlueprint objectId a e ↔
      (objectId.toNat < 2147483648 ∨ 18446744071562067968 ≤ objectId.toNat) ∧
        ∃ m p, s.myPlayer = some m ∧ s.playerActors.get? m = some p := by
  have hinitial : s₀.EnemysConnected := fun objectId hk => by
    rw [h0.enemys] at hk
    exact absurd rfl hk
  have hconnected : s.EnemysConnected :=
    Steps.run_invariant (fun _ _ _ hs h => step_enemysConnected hs h) hinitial hrun
  have hc : s.connected = true := hconnected objectId (by rw [hk]; exact Option.some_ne_none a)
  rw [Keyed.survives_iff (run_wellFormed h0.wellFormed hrun).enemys hk he hc, fitsInt_iff]

/-- Player 7 enters, and an enemy with the id `k` is spawned. -/
def enterAndSpawn (k : UInt64) : List (Op Int) :=
  [.packet (.S_ENTER_GAME ⟨true, some (.named .player 7 7)⟩),
    .packet (.S_SPAWN ⟨[.named .enemy k k]⟩)]

/-- Enemy 9 survives. -/
theorem survivesBlueprint_nine :
    ∃ s a e, Steps.run (step (.obliging Int false)) (started Int) (enterAndSpawn 9) = .ok s ∧
      s.enemys.lookup 9 = some a ∧ s.enemyActors.get? a = some e ∧ s.SurvivesBlueprint 9 a e := by
  have hrun : Steps.run (step (.obliging Int false)) (started Int) (enterAndSpawn 9) = .ok _ := rfl
  exact ⟨_, _, _, hrun, rfl, rfl,
    (survivesBlueprint_iff (started_initial Int) hrun rfl rfl).mpr ⟨Or.inl (by decide), _, _, rfl, rfl⟩⟩

/-- **Enemy ids do not always survive**: enemy 2³¹ is looked up under its sign extension. -/
theorem not_always_survivesBlueprint :
    ¬∀ (E : Engine Int) (s₀ s : US1GameInstance Int) (ops : List (Op Int)) (objectId : UInt64)
      (a : ActorRef) (e : AS1Enemy Int), s₀.Initial → Steps.run (step E) s₀ ops = .ok s →
      s.enemys.lookup objectId = some a → s.enemyActors.get? a = some e →
      s.SurvivesBlueprint objectId a e := by
  intro h
  obtain ⟨hfound, -⟩ := h (.obliging Int false) (started Int) _ (enterAndSpawn 2147483648)
    2147483648 _ _ (started_initial Int) rfl rfl rfl
  exact absurd hfound (by decide)

end US1GameInstance
end S1Client
