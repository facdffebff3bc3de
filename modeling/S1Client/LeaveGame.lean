import S1Client.Presence

/-!
# After leaving the game

`DisconnectFromGameServer` queues a `C_LEAVE_GAME` and empties the maps; `Socket`,
`GameServerSession` and `MyPlayer` keep their values.  The guards of the handlers
still pass, so a packet drained afterwards spawns actors into the game that was
left, and an `S_SCORE` is credited to the player who left it (`leaveGame_iff`).
-/
namespace S1Client
namespace US1GameInstance
variable {R : Type}

/-- Since `s₀` nothing was tracked or spawned, and the local player's score is what
it was. -/
structure Untouched (s₀ s : US1GameInstance R) : Prop where
  players : ∀ k, s.players.lookup k = none
  enemys : ∀ k, s.enemys.lookup k = none
  playerActors : s.playerActors.next = s₀.playerActors.next
  enemyActors : s.enemyActors.next = s₀.enemyActors.next
  myPlayer : s.myPlayer = s₀.myPlayer
  score : ∀ a, s₀.myPlayer = some a →
    (s.playerActors.get? a).map AS1Player.score = (s₀.playerActors.get? a).map AS1Player.score

variable [Zero R]

/-- An effect has no effect on the game that was left: a spawn finds no world or
fails, points come to nothing as an `int` or find no local player. -/
def LeavesAlone (E : Engine R) (s : US1GameInstance R) : Effect R → Prop
  | .spawnPlayer info isMine => s.hasWorld = false ∨
      E.spawnActor s.spawnCalls (playerClass isMine info.playerType) info.posInfo.location = none
  | .spawnEnemy info => s.hasWorld = false ∨
      E.spawnActor s.spawnCalls .EnemyClass info.posInfo.location = none
  | .score pkt => s.myPlayer = none ∨ pkt.point.toInt64.toInt32 = 0
  | _ => True

variable {E : Engine R} {s₀ s t : US1GameInstance R}

/-- **One effect** on the game that was left. -/
theorem Performed.untouched_iff {e : Effect R} (h : Performed E s e t) (hc : s.connected = true)
    (hs : s₀.Untouched s) : s₀.Untouched t ↔ s.LeavesAlone E e := by
  have hworld : s.inWorld = true → ¬s.hasWorld = false := fun hw hh => by
    simp [inWorld, hh] at hw
  have hout : s.inWorld = false → s.hasWorld = false := fun hw => by
    simpa [inWorld, hc] using hw
  cases h with
  | skipped e hskip =>
    refine ⟨fun _ => ?_, fun _ => hs⟩
    cases e with
    | spawnPlayer info isMine =>
      exact hskip.elim (fun hw => Or.inl (hout hw)) fun hk => absurd (hs.players _) hk
    | spawnEnemy info =>
      exact hskip.elim (fun hw => Or.inl (hout hw)) fun hk => absurd (hs.players _) hk
    | score pkt =>
      exact hskip.elim (fun hc' => absurd (hc.symm.trans hc') Bool.false_ne_true.symm) Or.inl
    | _ => trivial
  | playerFailed info isMine hw hk hfail =>
    exact ⟨fun _ => Or.inr hfail, fun _ => ⟨hs.players, hs.enemys, hs.playerActors,
      hs.enemyActors, hs.myPlayer, hs.score⟩⟩
  | enemyFailed info hw hk hfail =>
    exact ⟨fun _ => Or.inr hfail, fun _ => ⟨hs.players, hs.enemys, hs.playerActors,
      hs.enemyActors, hs.myPlayer, hs.score⟩⟩
  | playerSpawned info isMine place hw hk hplace =>
    constructor
    · intro ht
      have hmem := ht.players info.objectId
      rw [show (s.players.add _ _).lookup _ = _ from s.players.lookup_add_self _ _] at hmem
      cases hmem
    · rintro (hh | hfail)
      · exact absurd hh (hworld hw)
      · exact absurd (hplace.symm.trans hfail) (by simp)
  | enemySpawned info place hw hk hplace =>
    constructor
    · intro ht
      have hmem := ht.enemys info.objectId
      rw [show (s.enemys.add _ _).lookup _ = _ from s.enemys.lookup_add_self _ _] at hmem
      cases hmem
    · rintro (hh | hfail)
      · exact absurd hh (hworld hw)
      · exact absurd (hplace.symm.trans hfail) (by simp)
  | playerDespawned objectId a hw hk => exact absurd ((hs.players objectId).symm.trans hk) (by simp)
  | enemyDespawned objectId a hw hk => exact absurd ((hs.enemys objectId).symm.trans hk) (by simp)
  | moved pkt a p hw hk => exact absurd ((hs.players _).symm.trans hk) (by simp)
  | aiApplied pkt a hw hk => exact absurd ((hs.enemys _).symm.trans hk) (by simp)
  | scored pkt a p _ hm hp =>
    have hm₀ : s₀.myPlayer = some a := hs.myPlayer.symm.trans hm
    -- the actor of `MyPlayer` outlives the emptied map, and is credited
    have hget : (s.playerActors.modify a fun p => p.increaseScore pkt.point.toInt64.toInt32).get?
        a = some (p.increaseScore pkt.point.toInt64.toInt32) := by
      rw [Arena.get?_modify, if_pos rfl, hp]
      rfl
    have hscore := hs.score a hm₀
    rw [hp] at hscore
    constructor
    · intro ht
      have hadd : p.score + pkt.point.toInt64.toInt32 = p.score := by
        have h := ht.score a hm₀
        rw [hget, ← hscore] at h
        exact Option.some.inj h
      exact Or.inr (by simpa using hadd)
    · rintro (hnone | hzero)
      · exact absurd (hm.symm.trans hnone) (by simp)
      · refine ⟨hs.players, hs.enemys, (Arena.next_modify ..).trans hs.playerActors,
          hs.enemyActors, hs.myPlayer, fun b hb => ?_⟩
        obtain rfl := Option.some.inj (hm₀.symm.trans hb)
        rw [← hscore, hget, hzero]
        simp [AS1Player.increaseScore]
  | characterSet =>
    exact ⟨fun _ => trivial, fun _ => ⟨hs.players, hs.enemys, hs.playerActors, hs.enemyActors,
      hs.myPlayer, hs.score⟩⟩

/-- With the connection up, draining the queue call by call is performing the
effects of all its packets. -/
theorem run_handleRecvPackets (hc : s.connected = true) (calls : List (List (ServerPacket R))) :
    Steps.run (handleRecvPackets E) s calls =
      Steps.run (perform E) s (calls.flatten.flatMap ServerPacket.effects) := by
  induction calls generalizing s with
  | nil => rfl
  | cons packets calls ih =>
    have hone : s.handleRecvPackets E packets =
        Steps.run (perform E) s (packets.flatMap ServerPacket.effects) := by
      unfold handleRecvPackets
      rw [hc, if_neg (by simp), Steps.run_flatMap (dispatch_eq_run E)]
    rw [List.flatten_cons, List.flatMap_append, Steps.run_append_eq, ← hone, Steps.run]
    cases h : s.handleRecvPackets E packets with
    | error f => rfl
    | ok t =>
      rw [hone] at h
      have hconn : t.connected = true := Steps.run_invariant (P := fun s => s.connected = true)
        (fun _ _ _ hc h => (perform_cases h).connected_eq.trans hc) hc h
      exact ih hconn

omit [Zero R] in
theorem untouched_disconnect (hc : s.connected = true) :
    s.disconnectFromGameServer.Untouched s.disconnectFromGameServer ∧
      s.disconnectFromGameServer.connected = true := by
  unfold disconnectFromGameServer
  obtain ⟨g, hg, hsome⟩ := s.sendPacket_eq .C_LEAVE_GAME
  rw [hc, if_neg (by simp), hg]
  refine ⟨⟨fun _ => rfl, fun _ => rfl, rfl, rfl, rfl, fun _ _ => rfl⟩, ?_⟩
  rw [connected] at hc ⊢
  rw [hsome]
  exact hc

/-- **The game that was left stays empty exactly when every packet drained after
leaving it leaves it alone.** -/
theorem leaveGame_iff (hc : s.connected = true) {calls : List (List (ServerPacket R))}
    {log : List (Effect R)} (hlog : log = calls.flatten.flatMap ServerPacket.effects) :
    Steps.run (handleRecvPackets E) s.disconnectFromGameServer calls =
        Steps.run (perform E) s.disconnectFromGameServer log ∧
      (Steps.Throughout (perform E) s.disconnectFromGameServer.Untouched
          s.disconnectFromGameServer log ↔
        Steps.Meets (perform E) (LeavesAlone E) s.disconnectFromGameServer log) := by
  obtain ⟨hs, hconn⟩ := untouched_disconnect hc
  rw [hlog]
  refine ⟨run_handleRecvPackets hconn calls, Steps.throughout_iff_meets
    (I := fun s => s.connected = true) ?_ ?_ hconn hs⟩
  · exact fun _ _ _ hc h => (perform_cases h).connected_eq.trans hc
  · exact fun _ _ _ hc hs h => (perform_cases h).untouched_iff hc hs

/-- Player 7 leaves.  A late move, a spawn that fails and a score of 0 leave the game alone, a
score of 5 does not. -/
theorem leaveGame_iff_late_score :
    ∃ s, Steps.run (step (.obliging Int false)) (started Int)
        [.packet (.S_ENTER_GAME ⟨true, some (.named .player 7 7)⟩)] = .ok s ∧
      Steps.Throughout (perform (.crowded Int)) s.disconnectFromGameServer.Untouched
        s.disconnectFromGameServer (List.flatMap ServerPacket.effects
          [.S_MOVE ⟨some { PosInfo.default with objectId := 7 }⟩,
            .S_SPAWN ⟨[.named .player 8 8, .named .enemy 9 9]⟩, .S_SCORE ⟨true, 0⟩]) ∧
      ¬Steps.Throughout (perform (.obliging Int false)) s.disconnectFromGameServer.Untouched
        s.disconnectFromGameServer (List.flatMap ServerPacket.effects [.S_SCORE ⟨true, 5⟩]) := by
  have hrun : Steps.run (step (.obliging Int false)) (started Int)
      [.packet (.S_ENTER_GAME ⟨true, some (.named .player 7 7)⟩)] = .ok _ := rfl
  refine ⟨_, hrun, (@leaveGame_iff Int _ (.crowded Int) _ rfl
    [[.S_MOVE ⟨some { PosInfo.default with objectId := 7 }⟩,
      .S_SPAWN ⟨[.named .player 8 8, .named .enemy 9 9]⟩], [.S_SCORE ⟨true, 0⟩]] _ rfl).2.mpr ?_,
    fun h => ?_⟩
  · exact fun _ _ => ⟨trivial, fun _ _ => ⟨Or.inr rfl, fun _ _ => ⟨Or.inr rfl, fun _ _ =>
      ⟨Or.inr rfl, trivial⟩⟩⟩⟩
  · have hmeets := (@leaveGame_iff Int _ (.obliging Int false) _ rfl [[.S_SCORE ⟨true, 5⟩]] _
      rfl).2.mp h
    rcases (hmeets _ rfl).1 with hnone | hzero
    · cases hnone
    · exact absurd hzero (by decide)

/-- **The game that was left does not always stay empty**: an `S_SPAWN` still in the
queue spawns its player after the leave request. -/
theorem not_always_untouched :
    ¬∀ (E : Engine Int) (s t : US1GameInstance Int) (calls : List (List (ServerPacket Int))),
      s.connected = true →
      Steps.run (handleRecvPackets E) s.disconnectFromGameServer calls = .ok t →
      s.disconnectFromGameServer.Untouched t := by
  intro h
  have ht := h (.obliging Int false) (started Int) _ [[.S_SPAWN ⟨[.named .player 8 8]⟩]] rfl rfl
  exact absurd (ht.players 8) (by decide)

end US1GameInstance
end S1Client
