import S1Client.Invariants

/-!
# Tracked objects and live actors

`Players` and `Enemys` are meant to name the live actors, each under its own id.
Half of that always holds (`WellFormed`).  The other half, that a live actor is
tracked, is lost in exactly two places: `SpawnEnemy` looks for a duplicate in
`Players` and not in `Enemys`, so it replaces the entry of an enemy that stays
alive, and `DisconnectFromGameServer` empties both maps and destroys nothing.  An
actor lost in this way is lost for good, which makes the condition exact for
whole runs (`oneToOne_iff_clean`).
-/
namespace S1Client
namespace US1GameInstance
variable {R : Type}

/-- **Tracked objects and live actors correspond one to one.** -/
structure OneToOne (s : US1GameInstance R) : Prop where
  /-- A live player is the value of one entry, under its own id. -/
  player_tracked : ∀ a p, s.playerActors.get? a = some p →
    ∀ k, s.players.lookup k = some a ↔ k = p.objectInfo.objectId
  /-- So is a live enemy. -/
  enemy_tracked : ∀ a e, s.enemyActors.get? a = some e →
    ∀ k, s.enemys.lookup k = some a ↔ k = e.objectInfo.objectId
  /-- A tracked player is live. -/
  player_live : ∀ k a, s.players.lookup k = some a → ∃ p, s.playerActors.get? a = some p
  /-- So is a tracked enemy. -/
  enemy_live : ∀ k a, s.enemys.lookup k = some a → ∃ e, s.enemyActors.get? a = some e
  /-- An id has at most one live player. -/
  player_unique : ∀ a b p q, s.playerActors.get? a = some p → s.playerActors.get? b = some q →
    p.objectInfo.objectId = q.objectInfo.objectId → a = b
  /-- And at most one live enemy. -/
  enemy_unique : ∀ a b d e, s.enemyActors.get? a = some d → s.enemyActors.get? b = some e →
    d.objectInfo.objectId = e.objectInfo.objectId → a = b

/-- No live actor is untracked. -/
def NoLeak (s : US1GameInstance R) : Prop := s.playerRegistry.NoLeak ∧ s.enemyRegistry.NoLeak

theorem Initial.noLeak {s : US1GameInstance R} (h : s.Initial) : s.NoLeak := by
  constructor
  · intro a p hp
    rw [playerRegistry, h.playerActors] at hp
    cases hp
  · intro a e he
    rw [enemyRegistry, h.enemyActors] at he
    cases he

variable {s t : US1GameInstance R}

theorem WellFormed.oneToOne_iff (hs : s.WellFormed) : s.OneToOne ↔ s.NoLeak := by
  constructor
  · intro h
    exact ⟨fun a p hp => ⟨_, (h.player_tracked a p hp _).mpr rfl⟩,
      fun a e he => ⟨_, (h.enemy_tracked a e he _).mpr rfl⟩⟩
  · rintro ⟨hp, he⟩
    have hplayer := fun a p (h : s.playerActors.get? a = some p) => hs.players.lookup_iff hp h
    have henemy := fun a e (h : s.enemyActors.get? a = some e) => hs.enemys.lookup_iff he h
    refine ⟨hplayer, henemy, fun k a hk => ?_, fun k a hk => ?_, ?_, ?_⟩
    · obtain ⟨p, hp, -⟩ := hs.players k a hk
      exact ⟨p, hp⟩
    · obtain ⟨e, he, -⟩ := hs.enemys k a hk
      exact ⟨e, he⟩
    · intro a b p q ha hb hid
      have h := (hplayer a p ha _).mpr rfl
      have h' := (hplayer b q hb _).mpr hid
      exact Option.some.inj (h.symm.trans h')
    · intro a b d e ha hb hid
      have h := (henemy a d ha _).mpr rfl
      have h' := (henemy b e hb _).mpr hid
      exact Option.some.inj (h.symm.trans h')

/-! ## The condition -/

variable [Zero R]

/-- An effect does not replace a tracked enemy by a new one. -/
def KeepsEnemy (E : Engine R) (s : US1GameInstance R) : Effect R → Prop
  | .spawnEnemy info => s.enemys.lookup info.objectId = none ∨ s.Skips (.spawnEnemy info) ∨
      E.spawnActor s.spawnCalls .EnemyClass info.posInfo.location = none
  | _ => True

/-- An operation loses no actor: no effect of a packet replaces a tracked enemy,
and the maps are empty when they are emptied. -/
def KeepsActors (E : Engine R) (s : US1GameInstance R) : Op R → Prop
  | .packet pkt => Steps.Meets (perform E) (KeepsEnemy E) s pkt.effects
  | .moveMap _ => True
  | .disconnectFromGameServer => s.connected = true →
      (∀ k, s.players.lookup k = none) ∧ ∀ k, s.enemys.lookup k = none

variable {E : Engine R}

omit [Zero R] in
/-- A player changed in place stays tracked or untracked. -/
theorem noLeak_modifyPlayer (s : US1GameInstance R) (a : ActorRef) (f : AS1Player R → AS1Player R) :
    NoLeak { s with playerActors := s.playerActors.modify a f } ↔ s.NoLeak :=
  have hp : (s.playerRegistry.update a f).NoLeak ↔ _ := Registry.noLeak_update_iff a f
  and_congr_left' hp

/-- **One effect.**  It keeps the maps complete exactly when it replaces no
tracked enemy, and it never completes them again. -/
theorem Performed.noLeak_iff {e : Effect R} (h : Performed E s e t) (hs : s.WellFormed) :
    t.NoLeak ↔ s.NoLeak ∧ s.KeepsEnemy E e := by
  cases h with
  | skipped e hskip =>
    cases e with
    | spawnEnemy info => exact (and_iff_left (Or.inr (Or.inl hskip))).symm
    | _ => exact (and_iff_left trivial).symm
  | playerFailed | characterSet => exact (and_iff_left trivial).symm
  | enemyFailed info hw hk hf => exact (and_iff_left (Or.inr (Or.inr hf))).symm
  | playerSpawned info isMine place hw hk =>
    have hp : (s.playerRegistry.track info.objectId (spawnedPlayer info isMine place)).NoLeak ↔ _ :=
      hs.players.noLeak_track_iff
    refine (and_congr_left' (hp.trans (and_iff_left hk))).trans (and_iff_left trivial).symm
  | enemySpawned info place hw hk hspawn =>
    have he : (s.enemyRegistry.track info.objectId
        { AS1Enemy.construct with objectInfo := info }).NoLeak ↔ _ := hs.enemys.noLeak_track_iff
    refine (and_congr_right' he).trans (and_assoc.symm.trans (and_congr_right' ?_))
    -- the other ways to keep the enemies are excluded: this spawn took effect
    constructor
    · exact fun h => Or.inl h
    · rintro (h | (hw' | hk') | hf)
      · exact h
      · rw [hw] at hw'; cases hw'
      · exact absurd hk hk'
      · rw [hspawn] at hf; cases hf
  | playerDespawned objectId a hw hk =>
    have hp := Registry.noLeak_untrack_iff s.playerRegistry objectId
    rw [Registry.untrack_of_lookup hk] at hp
    exact (and_congr_left' hp).trans (and_iff_left trivial).symm
  | enemyDespawned objectId a hw hk =>
    have he := Registry.noLeak_untrack_iff s.enemyRegistry objectId
    rw [Registry.untrack_of_lookup hk] at he
    exact (and_congr_right' he).trans (and_iff_left trivial).symm
  | moved pkt a =>
    have hp := noLeak_modifyPlayer s a fun p => { p with destInfo := pkt.info }
    exact hp.trans (and_iff_left trivial).symm
  | scored pkt a =>
    have hp := noLeak_modifyPlayer s a fun p => p.increaseScore pkt.point.toInt64.toInt32
    exact hp.trans (and_iff_left trivial).symm
  | aiApplied pkt a =>
    have he : (s.enemyRegistry.update a (applyAi pkt)).NoLeak ↔ _ := Registry.noLeak_update_iff a _
    exact (and_congr_right' he).trans (and_iff_left trivial).symm

/-- A batch of effects. -/
theorem run_perform_noLeak_iff {es : List (Effect R)} (hs : s.WellFormed)
    (h : Steps.run (perform E) s es = .ok t) :
    t.NoLeak ↔ s.NoLeak ∧ Steps.Meets (perform E) (KeepsEnemy E) s es :=
  Steps.run_iff_meets (fun _ _ _ hs h => (perform_cases h).wellFormed hs)
    (fun _ _ _ _ hs h => (perform_cases h).noLeak_iff hs) hs h

/-- Despawns lose nothing. -/
private theorem run_despawn_noLeak_iff {es : List (Effect R)}
    (hes : ∀ s, ∀ e ∈ es, KeepsEnemy E s e) (hs : s.WellFormed)
    (h : Steps.run (perform E) s es = .ok t) : t.NoLeak ↔ s.NoLeak :=
  (run_perform_noLeak_iff hs h).trans (and_iff_left (Steps.meets_of_forall hes s))

/-- **One operation.** -/
theorem step_noLeak_iff {op : Op R} (hs : s.WellFormed) (h : s.step E op = .ok t) :
    t.NoLeak ↔ s.NoLeak ∧ s.KeepsActors E op := by
  cases op with
  | packet pkt =>
    have h : s.dispatch E pkt = .ok t := h
    rw [dispatch_eq_run] at h
    exact run_perform_noLeak_iff hs h
  | moveMap n =>
    obtain ⟨m⟩ := moveMap_cases h
    have hmid : m.mid₁.WellFormed := run_perform_wellFormed hs m.run₁
    have h₁ : m.mid₁.NoLeak ↔ s.NoLeak := run_despawn_noLeak_iff (by simp [KeepsEnemy]) hs m.run₁
    have h₂ : m.mid₂.NoLeak ↔ m.mid₁.NoLeak :=
      run_despawn_noLeak_iff (by simp [KeepsEnemy]) hmid m.run₂
    have hmap := noLeak_modifyPlayer m.mid₂ m.mine fun p => p.setMapNumber n
    rw [m.result]
    exact (hmap.trans (h₂.trans h₁)).trans (and_iff_left trivial).symm
  | disconnectFromGameServer =>
    obtain rfl : s.disconnectFromGameServer = t := Except.ok.inj h
    unfold disconnectFromGameServer
    cases hc : s.connected with
    | false =>
      exact (and_iff_left fun h => absurd (hc.symm.trans h) Bool.false_ne_true).symm
    | true =>
      obtain ⟨g, hg, -⟩ := s.sendPacket_eq .C_LEAVE_GAME
      rw [hg]
      have hp : s.playerRegistry.forget.NoLeak ↔ _ := hs.players.noLeak_forget_iff
      have he : s.enemyRegistry.forget.NoLeak ↔ _ := hs.enemys.noLeak_forget_iff
      refine (and_congr hp he).trans (and_and_and_comm.trans (and_congr_right' ?_))
      exact ⟨fun h _ => h, fun h => h hc⟩

/-- **Tracked objects and live actors correspond one to one after a run exactly
when no operation of the run lost an actor.** -/
theorem oneToOne_iff_clean {ops : List (Op R)} (h0 : s.Initial)
    (h : Steps.run (step E) s ops = .ok t) :
    t.OneToOne ↔ Steps.Meets (step E) (KeepsActors E) s ops := by
  rw [(run_wellFormed h0.wellFormed h).oneToOne_iff]
  refine (Steps.run_iff_meets (fun _ _ _ hs h => step_wellFormed hs h)
    (fun _ _ _ _ hs h => step_noLeak_iff hs h) h0.wellFormed h).trans ?_
  exact and_iff_right h0.noLeak

/-- The law on a run that spawns an enemy, destroys it and spawns it again. -/
theorem oneToOne_iff_clean_respawn :
    ∃ t, Steps.run (step (.obliging Int false)) (started Int)
        [.packet (.S_SPAWN ⟨[.named .enemy 7 7]⟩), .packet (.S_DESPAWN ⟨[.named .enemy 7 7]⟩),
          .packet (.S_SPAWN ⟨[.named .enemy 7 7]⟩)] = .ok t ∧
      (t.OneToOne ↔ Steps.Meets (step (.obliging Int false)) (KeepsActors (.obliging Int false))
        (started Int)
        [.packet (.S_SPAWN ⟨[.named .enemy 7 7]⟩), .packet (.S_DESPAWN ⟨[.named .enemy 7 7]⟩),
          .packet (.S_SPAWN ⟨[.named .enemy 7 7]⟩)]) :=
  ⟨_, rfl, oneToOne_iff_clean (started_initial Int) rfl⟩

/-- **The maps do not always name every live actor**: an `S_SPAWN` that names
enemy 7 twice leaves its first actor live and untracked. -/
theorem not_always_oneToOne :
    ¬∀ (E : Engine Int) (s t : US1GameInstance Int) (ops : List (Op Int)), s.Initial →
      Steps.run (step E) s ops = .ok t → t.OneToOne := by
  intro h
  have hone := h (.obliging Int false) (started Int) _
    [.packet (.S_SPAWN ⟨[.named .enemy 7 7, .named .enemy 7 7]⟩)] (started_initial Int) rfl
  have hfirst := (hone.enemy_tracked 0 _ rfl 7).mpr rfl
  exact absurd hfirst (by decide)

end US1GameInstance
end S1Client
