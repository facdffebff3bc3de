import Mathlib.Algebra.Field.Rat
import S1Client.MoveMap
import S1Client.Ticks

/-!
# One identity for each player

The id of a player is kept three times: as its key in `Players`, in its
`ObjectInfo` and in its `PosInfo`.  `SpawnPlayer` takes the first two from
`object_id` and the third from `pos_info().object_id()`, and compares neither.
`HandleMove` looks a player up under the id in the message and then asserts that
it is the one in `PosInfo`; `RequestScore` and the ticks send the one in
`PosInfo`.  So one spawn with two ids is all it takes (`oneIdentity_iff`).
-/
namespace S1Client
namespace US1GameInstance
open Steps (bind_eq_ok)

/-- A tracked player carries the id it is tracked under, twice. -/
def SameIds {R : Type} (s : US1GameInstance R) : Prop :=
  ∀ k a p, s.players.lookup k = some a → s.playerActors.get? a = some p →
    p.objectInfo.objectId = k ∧ p.posInfo.objectId = k

/-- A spawn names one id, or spawns nothing. -/
def NamesOneId {R : Type} [Zero R] (E : Engine R) (s : US1GameInstance R) : Effect R → Prop
  | .spawnPlayer info isMine => info.posInfo.objectId = info.objectId ∨
      s.Skips (.spawnPlayer info isMine) ∨
      E.spawnActor s.spawnCalls (playerClass isMine info.playerType) info.posInfo.location = none
  | _ => True

/-- No spawn of a packet names two ids. -/
def SpawnsOneId {R : Type} [Zero R] (E : Engine R) (s : US1GameInstance R) : Op R → Prop
  | .packet pkt => Steps.Meets (perform E) (NamesOneId E) s pkt.effects
  | .moveMap _ | .disconnectFromGameServer => True

section Ids
variable {R : Type} [Zero R] {E : Engine R} {s t : US1GameInstance R}

omit [Zero R] in
private theorem sameIds_modify (s : US1GameInstance R) (a : ActorRef)
    (f : AS1Player R → AS1Player R) (ho : ∀ p, (f p).objectInfo = p.objectInfo)
    (hp : ∀ p, (f p).posInfo = p.posInfo) :
    SameIds { s with playerActors := s.playerActors.modify a f } ↔ s.SameIds := by
  refine forall_congr' fun k => forall_congr' fun b => ?_
  show (∀ p, _ → (s.playerActors.modify a f).get? b = some p → _) ↔ _
  rw [Arena.get?_modify]
  split
  · cases s.playerActors.get? b <;> simp [ho, hp]
  · rfl

/-- **One effect** other than the despawn of a player keeps the ids together
exactly when it does not bring in a player with two. -/
theorem Performed.sameIds_iff {e : Effect R} (h : Performed E s e t) (hs : s.WellFormed)
    (he : ∀ k, e ≠ .despawnPlayer k) : t.SameIds ↔ s.SameIds ∧ s.NamesOneId E e := by
  cases h with
  | skipped e hskip =>
    cases e with
    | spawnPlayer info isMine => exact (and_iff_left (Or.inr (Or.inl hskip))).symm
    | _ => exact (and_iff_left trivial).symm
  | playerFailed info isMine hw hk hfail => exact (and_iff_left (Or.inr (Or.inr hfail))).symm
  | playerSpawned info isMine place hw hk hplace =>
    constructor
    · intro ht
      refine ⟨fun k a p hka hp => ?_, Or.inl ?_⟩
      · have hkne : k ≠ info.objectId := fun hkne => by
          rw [hkne, hk] at hka
          cases hka
        have hane : a ≠ s.playerActors.next := Nat.ne_of_lt (Arena.lt_next hp)
        exact ht k a p ((s.players.lookup_add_of_ne _ hkne).trans hka)
          ((Arena.get?_spawn ..).trans ((if_neg hane).trans hp))
      · exact (ht info.objectId _ _ (s.players.lookup_add_self _ _)
          (s.playerActors.get?_spawn_next _)).2
    · rintro ⟨hids, hone⟩ k a p hka hp
      have hone : info.posInfo.objectId = info.objectId := by
        rcases hone with hone | (hw' | hk') | hfail
        · exact hone
        · exact absurd (hw.symm.trans hw') Bool.false_ne_true.symm
        · exact absurd hk hk'
        · exact absurd (hplace.symm.trans hfail) (by simp)
      have hka := (SlotMap.lookup_add ..).symm.trans hka
      have hp := (Arena.get?_spawn ..).symm.trans hp
      split at hka
      · rename_i hkey
        obtain rfl := Option.some.inj hka
        rw [if_pos rfl] at hp
        obtain rfl := Option.some.inj hp
        exact ⟨hkey.symm, hone.trans hkey.symm⟩
      · obtain ⟨q, hq, -⟩ := hs.players k a hka
        have hlt : a < s.playerActors.next := Arena.lt_next hq
        rw [if_neg (Nat.ne_of_lt hlt)] at hp
        exact hids k a p hka hp
  | playerDespawned objectId => exact absurd rfl (he objectId)
  | moved pkt a =>
    have hp := sameIds_modify s a (fun p => { p with destInfo := pkt.info })
      (fun _ => rfl) fun _ => rfl
    exact hp.trans (and_iff_left trivial).symm
  | scored pkt a =>
    have hp := sameIds_modify s a (fun p => p.increaseScore pkt.point.toInt64.toInt32)
      (fun _ => rfl) fun _ => rfl
    exact hp.trans (and_iff_left trivial).symm
  | enemyFailed | enemySpawned | enemyDespawned | aiApplied | characterSet =>
    exact (and_iff_left trivial).symm

/-- A despawn only forgets. -/
theorem Performed.sameIds_despawn {e : Effect R} (h : Performed E s e t)
    (he : ∃ k, e = .despawnPlayer k ∨ e = .despawnEnemy k) (hids : s.SameIds) : t.SameIds := by
  obtain ⟨k, rfl | rfl⟩ := he
  · cases h with
    | skipped => exact hids
    | playerDespawned _ b =>
      intro j a p hja hp
      have hja := (SlotMap.lookup_remove ..).symm.trans hja
      have hp := (Arena.get?_destroy ..).symm.trans hp
      split at hja
      · cases hja
      split at hp
      · cases hp
      exact hids j a p hja hp
  · cases h with
    | skipped => exact hids
    | enemyDespawned => exact hids

private theorem run_despawn_sameIds {es : List (Effect R)}
    (hes : ∀ e ∈ es, ∃ k, e = .despawnPlayer k ∨ e = .despawnEnemy k) (hids : s.SameIds)
    (h : Steps.run (perform E) s es = .ok t) : t.SameIds :=
  Steps.run_invariant_mem
    (fun _ e he _ hids h => (perform_cases h).sameIds_despawn (hes e he) hids) hids h

/-- **One operation.** -/
theorem step_sameIds_iff {op : Op R} (hs : s.WellFormed) (hids : s.SameIds)
    (h : s.step E op = .ok t) : t.SameIds ↔ s.SpawnsOneId E op := by
  cases op with
  | packet pkt =>
    have h : s.dispatch E pkt = .ok t := h
    rw [dispatch_eq_run] at h
    by_cases hdes : ∃ p, pkt = .S_DESPAWN p
    · -- a despawn can remove a player with two ids, so it is no equivalence
      obtain ⟨p, rfl⟩ := hdes
      have hes : ∀ e ∈ (ServerPacket.S_DESPAWN p).effects,
          ∃ k, e = .despawnPlayer k ∨ e = Effect.despawnEnemy k := by
        intro e he
        obtain ⟨object, -, ⟨-, he⟩ | ⟨-, he⟩⟩ := S_DESPAWN.of_mem_effects he
        · exact ⟨_, Or.inl he⟩
        · exact ⟨_, Or.inr he⟩
      refine ⟨fun _ => Steps.meets_of_forall (fun s e he => ?_) s,
        fun _ => run_despawn_sameIds hes hids h⟩
      obtain ⟨k, rfl | rfl⟩ := hes e he <;> trivial
    · refine (Steps.run_iff_meets (fun _ _ _ hs h => (perform_cases h).wellFormed hs)
        (fun s e he t hs h => (perform_cases h).sameIds_iff hs ?_) hs h).trans
        (and_iff_right hids)
      rintro k rfl
      exact hdes (ServerPacket.despawns_of_mem_effects he)
  | moveMap n =>
    obtain ⟨m⟩ := moveMap_cases h
    have h₂ : m.mid₂.SameIds :=
      run_despawn_sameIds (by simp) (run_despawn_sameIds (by simp) hids m.run₁) m.run₂
    constructor
    · intro _
      trivial
    · intro _
      rw [m.result]
      exact (sameIds_modify m.mid₂ m.mine (fun p => p.setMapNumber n)
        (fun _ => rfl) fun _ => rfl).mpr h₂
  | disconnectFromGameServer =>
    obtain rfl : s.disconnectFromGameServer = t := Except.ok.inj h
    constructor
    · intro _
      trivial
    · intro _
      unfold disconnectFromGameServer
      split
      · exact hids
      · intro k a p hk
        cases hk

/-- With the ids together no assertion of a packet fails. -/
theorem SameIds.dispatch_ne_assertFailed (hids : s.SameIds) (E : Engine R)
    (pkt : ServerPacket R) : s.dispatch E pkt ≠ .error .assertFailed := by
  intro h
  rw [dispatch_eq_run] at h
  obtain ⟨l₁, e, l₂, u, hl, hu, he⟩ := Steps.run_eq_error h
  cases perform_faulted he with
  | moveAssert m a p hw hk hp hm ha h0 hid =>
    -- an `S_MOVE` is one effect, so it runs in the state the packet found
    have hmem : Effect.move m ∈ pkt.effects := by rw [hl]; simp
    have hone := ServerPacket.effects_of_move_mem hmem
    obtain rfl : l₁ = [] := by
      rw [hone] at hl
      cases l₁ with
      | nil => rfl
      | cons e' l₁ => simp at hl
    obtain rfl := Except.ok.inj hu
    exact hid (hids _ a p hk hp).2

end Ids

/-! ## What follows for the server -/

variable {R : Type} [Field R] [LinearOrder R]

/-- **One identity.**  The ids agree, no assertion about them fails whatever the
next packet is, and the local player signs what it sends with the id it is
tracked under. -/
structure OneIdentity (s : US1GameInstance R) : Prop where
  ids : s.SameIds
  asserts : ∀ (E : Engine R) pkt, s.dispatch E pkt ≠ .error .assertFailed
  requestScore : ∀ k a, s.myPlayer = some a → s.players.lookup k = some a →
    ∀ monsterId, s.requestScore monsterId =
      .ok (s.sendPacket (.C_SCORE k monsterId.toInt64.toUInt64))
  tick : ∀ k a p, s.myPlayer = some a → s.players.lookup k = some a →
    s.playerActors.get? a = some p → ∀ sqrt frame timer pkt,
    (AS1MyPlayer.tick sqrt frame ⟨p, timer⟩).2 = some pkt →
    ∃ info, pkt = .C_MOVE info ∧ info.objectId = k

variable {E : Engine R} {s : US1GameInstance R}

theorem SameIds.oneIdentity (hs : s.WellFormed) (hids : s.SameIds) : s.OneIdentity where
  ids := hids
  asserts := hids.dispatch_ne_assertFailed
  requestScore := fun k a hm hk monsterId => by
    obtain ⟨p, hp, -⟩ := hs.players k a hk
    refine bind_eq_ok.mpr ⟨(a, p), derefMyPlayer_eq_ok.mpr ⟨hm, hp⟩, ?_⟩
    show Except.ok (s.sendPacket (.C_SCORE p.posInfo.objectId _)) = _
    rw [(hids k a p hk hp).2]
  tick := fun k a p hm hk hp sqrt frame timer pkt hsend => by
    obtain ⟨info, rfl, hid⟩ := AS1MyPlayer.tick_sends hsend
    exact ⟨info, rfl, hid.trans (hids k a p hk hp).2⟩

/-- **Each player has one identity throughout a run exactly when no spawn of the
run names two ids.** -/
theorem oneIdentity_iff {ops : List (Op R)} (h0 : s.Initial) :
    Steps.Throughout (step E) OneIdentity s ops ↔
      Steps.Meets (step E) (SpawnsOneId E) s ops := by
  have hids : s.SameIds := fun k a p hk => by
    rw [h0.players] at hk
    cases hk
  refine Steps.throughout_iff_meets (fun _ _ _ hs h => step_wellFormed hs h) ?_ h0.wellFormed
    (hids.oneIdentity h0.wellFormed)
  intro s op t hs hone h
  rw [← step_sameIds_iff hs hone.ids h]
  exact ⟨fun ht => ht.ids, fun ht => ht.oneIdentity (step_wellFormed hs h)⟩

/-- The law on a run that enters as 7 and moves another player, and on one in which the other
player has two ids. -/
theorem oneIdentity_iff_move :
    Steps.Throughout (step (.obliging ℚ true)) OneIdentity (started ℚ)
        [.packet (.S_ENTER_GAME ⟨true, some (.named .player 7 7)⟩),
          .packet (.S_SPAWN ⟨[.named .player 8 8]⟩),
          .packet (.S_MOVE ⟨some { PosInfo.default with objectId := 8 }⟩)] ∧
      ¬Steps.Throughout (step (.obliging ℚ true)) OneIdentity (started ℚ)
        [.packet (.S_ENTER_GAME ⟨true, some (.named .player 7 7)⟩),
          .packet (.S_SPAWN ⟨[.named .player 8 9]⟩)] := by
  refine ⟨(oneIdentity_iff (started_initial ℚ)).mpr ?_, fun h => ?_⟩
  · exact fun _ _ => ⟨fun _ _ => ⟨Or.inl rfl, trivial⟩, fun _ _ =>
      ⟨fun _ _ => ⟨Or.inl rfl, trivial⟩, fun _ _ => ⟨fun _ _ => ⟨trivial, trivial⟩, trivial⟩⟩⟩
  · obtain ⟨-, hspawn⟩ := (oneIdentity_iff (started_initial ℚ)).mp h _ rfl
    obtain ⟨hids, -⟩ := (hspawn _ rfl).1 _ rfl
    rcases hids with hid | hskip | hfail
    · exact absurd hid (by decide)
    · rcases hskip with hworld | hthere
      · cases hworld
      · exact absurd rfl hthere
    · cases hfail

/-- **A player does not always have one identity**: an `S_SPAWN` of player 7 whose
`pos_info` names 9 is tracked under 7 and carries 9. -/
theorem not_always_oneIdentity :
    ¬∀ (E : Engine ℚ) (s t : US1GameInstance ℚ) (ops : List (Op ℚ)), s.Initial →
      Steps.run (step E) s ops = .ok t → t.OneIdentity := by
  intro h
  have ht := h (.obliging ℚ true) (started ℚ) _
    [.packet (.S_SPAWN ⟨[.named .player 7 9]⟩)] (started_initial ℚ) rfl
  exact absurd (ht.ids 7 0 _ rfl rfl).2 (by decide)

end US1GameInstance
end S1Client
