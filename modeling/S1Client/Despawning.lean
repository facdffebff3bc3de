import S1Client.MoveMap

/-!
# What a despawn does

`DespawnPlayer` and `DespawnEnemy` find the slot of an id, remove the entry, and only
then read the actor from the slot.  The container promises that read of occupied slots
only.  If a freed slot still reads as the pointer it held, the despawn is exact:
it removes one entry and destroys one actor, the right one.  If it does not, every
despawn of a tracked object stops there (`despawn_exact_iff`).
-/
namespace S1Client
namespace US1GameInstance
variable {R : Type}

/-- `DespawnPlayer(objectId)` completes, releases what is tracked under `objectId`, and
changes nothing but the players. -/
def DespawnsPlayer (E : Engine R) (s : US1GameInstance R) (objectId : Int64) : Prop :=
  ∃ t, s.despawnPlayer E objectId = .ok t ∧
    s.playerRegistry.Released objectId.toUInt64 t.playerRegistry ∧
    t = s.setPlayerRegistry t.playerRegistry

/-- `DespawnEnemy(objectId)` does the same to the enemies. -/
def DespawnsEnemy (E : Engine R) (s : US1GameInstance R) (objectId : Int64) : Prop :=
  ∃ t, s.despawnEnemy E objectId = .ok t ∧
    s.enemyRegistry.Released objectId.toUInt64 t.enemyRegistry ∧
    t = s.setEnemyRegistry t.enemyRegistry

variable [Zero R] {E : Engine R} {s t : US1GameInstance R}

omit [Zero R] in
/-- With the connection up the guards test the world. -/
theorem inWorld_of_connected (hc : s.connected = true) : s.inWorld = s.hasWorld := by
  simp [inWorld, hc]

/-- A despawn that completes releases the object, unless there is no world. -/
theorem Performed.releasesPlayer {objectId : UInt64} (h : Performed E s (.despawnPlayer objectId) t)
    (hw : s.inWorld = true ∨ s.players.lookup objectId = none) :
    s.playerRegistry.Released objectId t.playerRegistry ∧
      t = s.setPlayerRegistry t.playerRegistry := by
  have ht : t = s.setPlayerRegistry (s.playerRegistry.untrack objectId) := by
    rcases hw with hw | hk
    · exact h.untrackPlayer hw
    · have hrel := (s.playerRegistry.released_untrack objectId).untracked hk
      cases h with
      | skipped => rw [hrel]; rfl
      | playerDespawned _ a _ hk' => exact absurd (hk.symm.trans hk') (by simp)
  subst ht
  exact ⟨s.playerRegistry.released_untrack objectId, rfl⟩

theorem Performed.releasesEnemy {objectId : UInt64} (h : Performed E s (.despawnEnemy objectId) t)
    (hw : s.inWorld = true ∨ s.enemys.lookup objectId = none) :
    s.enemyRegistry.Released objectId t.enemyRegistry ∧
      t = s.setEnemyRegistry t.enemyRegistry := by
  have ht : t = s.setEnemyRegistry (s.enemyRegistry.untrack objectId) := by
    rcases hw with hw | hk
    · exact h.untrackEnemy hw
    · have hrel := (s.enemyRegistry.released_untrack objectId).untracked hk
      cases h with
      | skipped => rw [hrel]; rfl
      | enemyDespawned _ a _ hk' => exact absurd (hk.symm.trans hk') (by simp)
  subst ht
  exact ⟨s.enemyRegistry.released_untrack objectId, rfl⟩

theorem despawnsPlayer_iff (hc : s.connected = true) (objectId : Int64) :
    s.DespawnsPlayer E objectId ↔ s.players.lookup objectId.toUInt64 = none ∨
      s.hasWorld = true ∧ E.keepsFreedSlot = true := by
  have hperform : s.despawnPlayer E objectId = s.perform E (.despawnPlayer objectId.toUInt64) := by
    rw [perform, Int64.toInt64_toUInt64]
  unfold DespawnsPlayer
  rw [hperform, ← inWorld_of_connected hc]
  constructor
  · rintro ⟨t, ht, hrel, -⟩
    cases perform_cases ht with
    | skipped => exact Or.inl ((hrel.lookup _).trans (if_pos rfl))
    | playerDespawned _ a hw _ hf => exact Or.inr ⟨hw, hf⟩
  · intro h
    obtain ⟨t, ht⟩ : ∃ t, s.perform E (.despawnPlayer objectId.toUInt64) = .ok t := by
      refine US1GameInstance.perform_total fun f hf => ?_
      cases hf with
      | playerSlotFreed _ _ hk hfreed =>
        rcases h with hk' | ⟨-, hkeeps⟩
        · exact hk hk'
        · exact absurd (hfreed.symm.trans hkeeps) Bool.false_ne_true
    exact ⟨t, ht, (perform_cases ht).releasesPlayer (h.symm.imp_left And.left)⟩

theorem despawnsEnemy_iff (hc : s.connected = true) (objectId : Int64) :
    s.DespawnsEnemy E objectId ↔ s.enemys.lookup objectId.toUInt64 = none ∨
      s.hasWorld = true ∧ E.keepsFreedSlot = true := by
  have hperform : s.despawnEnemy E objectId = s.perform E (.despawnEnemy objectId.toUInt64) := by
    rw [perform, Int64.toInt64_toUInt64]
  unfold DespawnsEnemy
  rw [hperform, ← inWorld_of_connected hc]
  constructor
  · rintro ⟨t, ht, hrel, -⟩
    cases perform_cases ht with
    | skipped => exact Or.inl ((hrel.lookup _).trans (if_pos rfl))
    | enemyDespawned _ a hw _ hf => exact Or.inr ⟨hw, hf⟩
  · intro h
    obtain ⟨t, ht⟩ : ∃ t, s.perform E (.despawnEnemy objectId.toUInt64) = .ok t := by
      refine US1GameInstance.perform_total fun f hf => ?_
      cases hf with
      | enemySlotFreed _ _ hk hfreed =>
        rcases h with hk' | ⟨-, hkeeps⟩
        · exact hk hk'
        · exact absurd (hfreed.symm.trans hkeeps) Bool.false_ne_true
    exact ⟨t, ht, (perform_cases ht).releasesEnemy (h.symm.imp_left And.left)⟩

/-- **A despawn is exact, exactly if its id is not tracked, or there is a world and a
freed slot still reads as the pointer it held.** -/
theorem despawn_exact_iff (E : Engine R) {s : US1GameInstance R} (hc : s.connected = true)
    (objectId : Int64) :
    (s.DespawnsPlayer E objectId ↔ s.players.lookup objectId.toUInt64 = none ∨
        s.hasWorld = true ∧ E.keepsFreedSlot = true) ∧
      (s.DespawnsEnemy E objectId ↔ s.enemys.lookup objectId.toUInt64 = none ∨
        s.hasWorld = true ∧ E.keepsFreedSlot = true) :=
  ⟨despawnsPlayer_iff hc objectId, despawnsEnemy_iff hc objectId⟩

/-- The law on player 8 and enemy 9, with player 7 in the game. -/
theorem despawn_exact_eight :
    ∃ s, Steps.run (step (.obliging Int false)) (started Int)
        [.packet (.S_ENTER_GAME ⟨true, some (.named .player 7 7)⟩),
          .packet (.S_SPAWN ⟨[.named .player 8 8, .named .enemy 9 9]⟩)] = .ok s ∧
      s.DespawnsPlayer (.obliging Int false) 8 ∧ s.DespawnsEnemy (.obliging Int false) 9 ∧
      ¬s.DespawnsPlayer (.strict Int) 8 := by
  have hrun : Steps.run (step (.obliging Int false)) (started Int)
      [.packet (.S_ENTER_GAME ⟨true, some (.named .player 7 7)⟩),
        .packet (.S_SPAWN ⟨[.named .player 8 8, .named .enemy 9 9]⟩)] = .ok _ := rfl
  refine ⟨_, hrun, (despawn_exact_iff (.obliging Int false) rfl 8).1.mpr (Or.inr ⟨rfl, rfl⟩),
    (despawn_exact_iff (.obliging Int false) rfl 9).2.mpr (Or.inr ⟨rfl, rfl⟩), fun h => ?_⟩
  rcases (despawn_exact_iff (.strict Int) rfl 8).1.mp h with hk | ⟨-, hfreed⟩
  · cases hk
  · cases hfreed

/-- **A despawn is not always exact**: where freed slots read as nothing, the despawn of
a tracked player stops at its slot. -/
theorem despawn_not_always_exact :
    ¬∀ (E : Engine Int) (s₀ s : US1GameInstance Int) (ops : List (Op Int)) (objectId : Int64),
      E.keepsFreedSlot = false → s₀.Initial → Steps.run (step E) s₀ ops = .ok s →
      s.connected = true → s.DespawnsPlayer E objectId ∧ s.DespawnsEnemy E objectId := by
  intro h
  obtain ⟨⟨t, ht, -⟩, -⟩ := h (.strict Int) (started Int) _
    [.packet (.S_SPAWN ⟨[.named .player 8 8]⟩)] 8 rfl (started_initial Int) rfl rfl
  cases ht

end US1GameInstance
end S1Client
