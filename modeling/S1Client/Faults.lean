import S1Client.Invariants

/-!
# What can stop an effect

`Faulted` lists the faults of one effect, each with the condition under which it
occurs, as `Performed` lists the outcomes of one that completes.  What a
well-formed state excludes follows by cases: a tracked actor is live, so only
`MyPlayer` can point at a destroyed one.
-/
namespace S1Client
namespace US1GameInstance
open Steps (bind_eq_error)
variable {R : Type} [Zero R]

/-- **What stops one effect.** -/
inductive Faulted (E : Engine R) (s : US1GameInstance R) : Effect R → Fault → Prop
  /-- `DespawnPlayer` reads the slot it just freed. -/
  | playerSlotFreed (objectId : UInt64) (hw : s.inWorld = true)
      (hk : s.players.lookup objectId ≠ none) (hf : E.keepsFreedSlot = false) :
      Faulted E s (.despawnPlayer objectId) .freedSlot
  /-- So does `DespawnEnemy`. -/
  | enemySlotFreed (objectId : UInt64) (hw : s.inWorld = true)
      (hk : s.enemys.lookup objectId ≠ none) (hf : E.keepsFreedSlot = false) :
      Faulted E s (.despawnEnemy objectId) .freedSlot
  /-- The tracked player was destroyed. -/
  | moveDestroyed (pkt : S_MOVE R) (a : ActorRef) (hw : s.inWorld = true)
      (hk : s.players.lookup pkt.info.objectId = some a) (hp : s.playerActors.get? a = none) :
      Faulted E s (.move pkt) .destroyedActor
  /-- The assertion of `SetDestInfo`. -/
  | moveAssert (pkt : S_MOVE R) (a : ActorRef) (p : AS1Player R) (hw : s.inWorld = true)
      (hk : s.players.lookup pkt.info.objectId = some a) (hp : s.playerActors.get? a = some p)
      (hm : p.isMine = false) (ha : E.asserts = true) (h0 : p.posInfo.objectId ≠ 0)
      (hid : p.posInfo.objectId ≠ pkt.info.objectId) :
      Faulted E s (.move pkt) .assertFailed
  /-- The tracked enemy was destroyed. -/
  | aiDestroyed (pkt : S_AI R) (a : ActorRef) (hw : s.inWorld = true)
      (hk : s.enemys.lookup pkt.objectId = some a) (he : s.enemyActors.get? a = none) :
      Faulted E s (.enemyAi pkt) .destroyedActor
  /-- The local player was destroyed. -/
  | scoreDestroyed (pkt : S_SCORE) (a : ActorRef) (hc : s.connected = true)
      (hm : s.myPlayer = some a) (hp : s.playerActors.get? a = none) :
      Faulted E s (.score pkt) .destroyedActor
  /-- A lobby slot that does not exist. -/
  | characterOutside (player : ObjectInfo R × Nat) (h : 5 ≤ player.2) :
      Faulted E s (.character player) .outOfBounds

variable {E : Engine R} {s : US1GameInstance R} {f : Fault}

omit [Zero R] in
/-- A function behind both guards stops in its body. -/
private theorem guarded_error {body : Except Fault (US1GameInstance R)}
    (h : (if (!s.connected) = true then .ok s else if (!s.hasWorld) = true then .ok s else body) =
      .error f) : s.inWorld = true ∧ body = .error f := by
  rcases guards_cases s with ⟨-, hc | ⟨hc, hh⟩⟩ | ⟨hw, hc, hh⟩
  · rw [if_pos hc] at h
    cases h
  · rw [if_neg hc, if_pos hh] at h
    cases h
  · rw [if_neg hc, if_neg hh] at h
    exact ⟨hw, h⟩

omit [Zero R] in
theorem derefPlayer_eq_error {a : ActorRef} :
    s.derefPlayer a = .error f ↔ s.playerActors.get? a = none ∧ f = .destroyedActor := by
  unfold derefPlayer
  cases s.playerActors.get? a <;> simp [eq_comm]

omit [Zero R] in
theorem derefEnemy_eq_error {a : ActorRef} :
    s.derefEnemy a = .error f ↔ s.enemyActors.get? a = none ∧ f = .destroyedActor := by
  unfold derefEnemy
  cases s.enemyActors.get? a <;> simp [eq_comm]

omit [Zero R] in
theorem derefMyPlayer_eq_error :
    s.derefMyPlayer = .error f ↔ s.myPlayer = none ∧ f = .nullPointer ∨
      ∃ a, s.myPlayer = some a ∧ s.playerActors.get? a = none ∧ f = .destroyedActor := by
  unfold derefMyPlayer
  cases s.myPlayer with
  | none => simp [eq_comm]
  | some a =>
    simp only [bind_eq_error, derefPlayer_eq_error]
    simp [pure, Except.pure]

/-! ## The list is complete -/

/-- A new actor carries no id, so no assertion of a spawn fails. -/
theorem spawnPlayer_ne_error {info : ObjectInfo R} {isMine : Bool} :
    s.spawnPlayer E info isMine ≠ .error f := by
  intro h
  obtain ⟨-, h⟩ := guarded_error h
  split at h
  · cases h
  cases isMine with
  | true =>
    rw [if_pos rfl] at h
    cases hs : E.spawnActor s.spawnCalls (myPlayerClass info.playerType) info.posInfo.location <;>
      (rw [hs] at h; cases h)
  | false =>
    rw [if_neg Bool.false_ne_true] at h
    cases hs : E.spawnActor s.spawnCalls (otherPlayerClass info.playerType)
        info.posInfo.location <;> (rw [hs] at h; cases h)

theorem spawnEnemy_ne_error {info : ObjectInfo R} : s.spawnEnemy E info ≠ .error f := by
  intro h
  obtain ⟨-, h⟩ := guarded_error h
  split at h
  · cases h
  cases hs : E.spawnActor s.spawnCalls .EnemyClass info.posInfo.location <;>
    (rw [hs] at h; cases h)

theorem despawnPlayer_faulted {objectId : UInt64}
    (h : s.despawnPlayer E objectId.toInt64 = .error f) :
    Faulted E s (.despawnPlayer objectId) f := by
  obtain ⟨hw, h⟩ := guarded_error h
  rw [UInt64.toUInt64_toInt64] at h
  rcases s.players.find_cases objectId E.keepsFreedSlot with ⟨hf, -⟩ | ⟨i, a, hf, hk, hread⟩
  · rw [hf] at h
    cases h
  · simp only [hf, hread] at h
    cases hkeep : E.keepsFreedSlot with
    | false =>
      rw [hkeep] at h
      obtain rfl := Except.error.inj h
      exact .playerSlotFreed objectId hw (by rw [hk]; exact Option.some_ne_none a) hkeep
    | true =>
      rw [hkeep] at h
      cases h

theorem despawnEnemy_faulted {objectId : UInt64}
    (h : s.despawnEnemy E objectId.toInt64 = .error f) :
    Faulted E s (.despawnEnemy objectId) f := by
  obtain ⟨hw, h⟩ := guarded_error h
  rw [UInt64.toUInt64_toInt64] at h
  rcases s.enemys.find_cases objectId E.keepsFreedSlot with ⟨hf, -⟩ | ⟨i, a, hf, hk, hread⟩
  · rw [hf] at h
    cases h
  · simp only [hf, hread] at h
    cases hkeep : E.keepsFreedSlot with
    | false =>
      rw [hkeep] at h
      obtain rfl := Except.error.inj h
      exact .enemySlotFreed objectId hw (by rw [hk]; exact Option.some_ne_none a) hkeep
    | true =>
      rw [hkeep] at h
      cases h

theorem handleMove_faulted {pkt : S_MOVE R} (h : s.handleMove E pkt = .error f) :
    Faulted E s (.move pkt) f := by
  obtain ⟨hw, h⟩ := guarded_error h
  cases hk : s.players.lookup pkt.info.objectId with
  | none =>
    rw [hk] at h
    cases h
  | some a =>
    rw [hk] at h
    rcases bind_eq_error.mp h with h | ⟨p, hp, h⟩
    · obtain ⟨hp, rfl⟩ := derefPlayer_eq_error.mp h
      exact .moveDestroyed pkt a hw hk hp
    · have hp := derefPlayer_eq_ok.mp hp
      cases hm : p.isMine with
      | true =>
        rw [if_pos hm] at h
        cases h
      | false =>
        rw [if_neg (by rw [hm]; exact Bool.false_ne_true)] at h
        rcases bind_eq_error.mp h with h | ⟨q, -, h⟩
        · rw [AS1Player.setDestInfo_eq] at h
          split at h
          · rename_i hassert
            obtain rfl := Except.error.inj h
            exact .moveAssert pkt a p hw hk hp hm hassert.1 hassert.2.1 hassert.2.2
          · cases h
        · cases h

theorem handleEnemyAi_faulted {pkt : S_AI R} (h : s.handleEnemyAi pkt = .error f) :
    Faulted E s (.enemyAi pkt) f := by
  obtain ⟨hw, h⟩ := guarded_error h
  cases hk : s.enemys.lookup pkt.objectId with
  | none =>
    rw [hk] at h
    cases h
  | some a =>
    rw [hk] at h
    rcases bind_eq_error.mp h with h | ⟨e, -, h⟩
    · obtain ⟨he, rfl⟩ := derefEnemy_eq_error.mp h
      exact .aiDestroyed pkt a hw hk he
    · cases h

omit [Zero R] in
theorem handleScore_eq_error {pkt : S_SCORE} (h : s.handleScore pkt = .error f) :
    s.connected = true ∧ (∃ a, s.myPlayer = some a ∧ s.playerActors.get? a = none) ∧
      f = .destroyedActor := by
  unfold handleScore at h
  cases hc : s.connected with
  | false =>
    rw [hc] at h
    cases h
  | true =>
    rw [hc] at h
    cases hm : s.myPlayer with
    | none =>
      rw [hm] at h
      cases h
    | some a =>
      rw [hm] at h
      rcases bind_eq_error.mp h with h | ⟨p, -, h⟩
      · obtain ⟨hp, rfl⟩ := derefPlayer_eq_error.mp h
        exact ⟨rfl, ⟨a, rfl, hp⟩, rfl⟩
      · cases h

theorem handleScore_faulted {pkt : S_SCORE} (h : s.handleScore pkt = .error f) :
    Faulted E s (.score pkt) f := by
  obtain ⟨hc, ⟨a, hm, hp⟩, rfl⟩ := handleScore_eq_error h
  exact .scoreDestroyed pkt a hc hm hp

theorem setCharacter_faulted {player : ObjectInfo R × Nat}
    (h : s.setCharacter player = .error f) : Faulted E s (.character player) f := by
  unfold setCharacter at h
  split at h
  · cases h
  · rename_i hlt
    obtain rfl := Except.error.inj h
    exact .characterOutside player (Nat.le_of_not_lt hlt)

/-- **`Faulted` is complete.** -/
theorem perform_faulted {e : Effect R} (h : s.perform E e = .error f) : Faulted E s e f := by
  cases e with
  | spawnPlayer info isMine => exact absurd h spawnPlayer_ne_error
  | spawnEnemy info => exact absurd h spawnEnemy_ne_error
  | despawnPlayer objectId => exact despawnPlayer_faulted h
  | despawnEnemy objectId => exact despawnEnemy_faulted h
  | move pkt => exact handleMove_faulted h
  | enemyAi pkt => exact handleEnemyAi_faulted h
  | score pkt => exact handleScore_faulted h
  | character player => exact setCharacter_faulted h

/-- An effect that nothing stops completes. -/
theorem perform_total {e : Effect R} (h : ∀ f, ¬Faulted E s e f) : ∃ t, s.perform E e = .ok t := by
  cases hp : s.perform E e with
  | ok t => exact ⟨t, rfl⟩
  | error f => exact absurd (perform_faulted hp) (h f)

/-! ## In a well-formed state -/

/-- Which effects an engine and a packet can stop: a despawn if freed slots do not
keep their bytes, a move if assertions are compiled in, a score through a dangling
`MyPlayer`, a sixth character. -/
def CannotFault (E : Engine R) (s : US1GameInstance R) : Effect R → Prop
  | .spawnPlayer .. | .spawnEnemy _ | .enemyAi _ => True
  | .despawnPlayer _ | .despawnEnemy _ => E.keepsFreedSlot = true
  | .move _ => E.asserts = false
  | .score _ => ∀ a, s.myPlayer = some a → ∃ p, s.playerActors.get? a = some p
  | .character player => player.2 < 5

theorem WellFormed.perform_total (hs : s.WellFormed) {e : Effect R} (he : CannotFault E s e) :
    ∃ t, s.perform E e = .ok t := by
  apply US1GameInstance.perform_total
  intro f hf
  cases hf with
  | playerSlotFreed objectId hw hk hf => exact absurd (hf.symm.trans he) Bool.false_ne_true
  | enemySlotFreed objectId hw hk hf => exact absurd (hf.symm.trans he) Bool.false_ne_true
  | moveDestroyed pkt a hw hk hp =>
    obtain ⟨p, hp', -⟩ := hs.players _ a hk
    exact absurd (hp.symm.trans hp') (by simp)
  | moveAssert pkt a p hw hk hp hm ha => exact absurd (he.symm.trans ha) Bool.false_ne_true
  | aiDestroyed pkt a hw hk hp =>
    obtain ⟨e, he', -⟩ := hs.enemys _ a hk
    exact absurd (hp.symm.trans he') (by simp)
  | scoreDestroyed pkt a hc hm hp =>
    obtain ⟨p, hp'⟩ := he a hm
    exact absurd (hp.symm.trans hp') (by simp)
  | characterOutside player h => exact absurd he (Nat.not_lt_of_le h)

end US1GameInstance
end S1Client
