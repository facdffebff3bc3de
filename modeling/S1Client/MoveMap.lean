import S1Client.Faults
import S1Client.Narrowing

/-!
# What `MoveMap` despawns

`MoveMap` collects the ids to despawn through `GetObjectId`, which narrows a
64-bit id to `int`; the queue widens it again with its sign.  An id that does not
survive the way there and back is looked up under another number, so its actor
stays (`Moved.lookup_players`, `Moved.lookup_enemys`).
-/
namespace S1Client

/-- `GetObjectId`: a 64-bit id narrowed to `int`. -/
def narrowId (objectId : UInt64) : Int32 := objectId.toInt64.toInt32

/-- The way back: an `int` widened to the queue's `int64` and converted to the
key type of the maps. -/
def widenId (objectId : Int32) : UInt64 := objectId.toInt64.toUInt64

/-- An id survives the way to `int` and back. -/
def FitsInt (objectId : UInt64) : Prop := widenId (narrowId objectId) = objectId

instance (objectId : UInt64) : Decidable (FitsInt objectId) :=
  inferInstanceAs (Decidable (widenId (narrowId objectId) = objectId))

@[simp] theorem narrowId_widenId (objectId : Int32) : narrowId (widenId objectId) = objectId := by
  unfold narrowId widenId
  rw [Int64.toInt64_toUInt64, Int32.toInt32_toInt64]

/-- The ids that survive are the sign extensions of 32-bit numbers. -/
theorem fitsInt_iff (objectId : UInt64) : FitsInt objectId ↔
    objectId.toNat < 2147483648 ∨ 18446744071562067968 ≤ objectId.toNat :=
  Narrowing.widen_narrow_eq objectId

theorem fitsInt_widenId (objectId : Int32) : FitsInt (widenId objectId) := by
  unfold FitsInt
  rw [narrowId_widenId]

namespace US1GameInstance
open Steps (bind_eq_ok bind_eq_error)
variable {R : Type} {s t : US1GameInstance R}

/-! ## The queues -/

/-- A tracked player's `GetObjectId` is its key, narrowed. -/
theorem getObjectId_player (hs : s.playerRegistry.Keyed playerKey) {k : UInt64} {a : ActorRef}
    {p : AS1Player R} (hk : s.players.lookup k = some a) (hp : s.playerActors.get? a = some p) :
    p.getObjectId = narrowId k := by
  obtain ⟨q, hq, rfl⟩ := hs k a hk
  obtain rfl := Option.some.inj (hp.symm.trans hq)
  rfl

theorem getObjectId_enemy (hs : s.enemyRegistry.Keyed enemyKey) {k : UInt64} {a : ActorRef}
    {e : AS1Enemy R} (hk : s.enemys.lookup k = some a) (he : s.enemyActors.get? a = some e) :
    e.getObjectId = narrowId k := by
  obtain ⟨d, hd, rfl⟩ := hs k a hk
  obtain rfl := Option.some.inj (he.symm.trans hd)
  rfl

/-- **The first queue** holds the ids of the tracked players whose narrowed id is
not the local player's. -/
theorem mem_playersToDespawn (hs : s.playerRegistry.Keyed playerKey)
    {mine : ActorRef × AS1Player R} (hmine : s.derefMyPlayer = .ok mine)
    {elems : List (UInt64 × ActorRef)} {queue : List Int64}
    (helems : ∀ x ∈ elems, s.players.lookup x.1 = some x.2)
    (h : s.playersToDespawn elems = .ok queue) (objectId : UInt64) :
    objectId ∈ queue.map Int64.toUInt64 ↔ ∃ x ∈ elems,
      narrowId x.1 ≠ narrowId (playerKey mine.2) ∧ objectId = widenId (narrowId x.1) := by
  induction elems generalizing queue with
  | nil =>
    obtain rfl : [] = queue := Except.ok.inj h
    simp
  | cons x elems ih =>
    obtain ⟨p, hp, h⟩ := bind_eq_ok.mp h
    obtain ⟨m, hm, h⟩ := bind_eq_ok.mp h
    obtain ⟨rest, hrest, h⟩ := bind_eq_ok.mp h
    obtain rfl : mine = m := Except.ok.inj (hmine.symm.trans hm)
    have hid : p.getObjectId = narrowId x.1 :=
      getObjectId_player hs (helems x List.mem_cons_self) (derefPlayer_eq_ok.mp hp)
    have ih := ih (fun y hy => helems y (List.mem_cons_of_mem x hy)) hrest
    have hown : mine.2.getObjectId = narrowId (playerKey mine.2) := rfl
    rw [List.exists_mem_cons_iff, ← ih]
    -- the comparison is of narrowed ids
    by_cases heq : p.getObjectId = mine.2.getObjectId
    · rw [if_pos heq] at h
      obtain rfl : rest = queue := Except.ok.inj h
      rw [hid, hown] at heq
      simp [heq]
    · rw [if_neg heq] at h
      obtain rfl : p.getObjectId.toInt64 :: rest = queue := Except.ok.inj h
      rw [hid, hown] at heq
      rw [List.map_cons, List.mem_cons, hid]
      simp only [ne_eq, heq, not_false_eq_true, true_and]
      rfl

/-- **The second queue** holds the ids of all tracked enemies. -/
theorem mem_enemysToDespawn (hs : s.enemyRegistry.Keyed enemyKey)
    {elems : List (UInt64 × ActorRef)} {queue : List Int64}
    (helems : ∀ x ∈ elems, s.enemys.lookup x.1 = some x.2)
    (h : s.enemysToDespawn elems = .ok queue) (objectId : UInt64) :
    objectId ∈ queue.map Int64.toUInt64 ↔ ∃ x ∈ elems, objectId = widenId (narrowId x.1) := by
  induction elems generalizing queue with
  | nil =>
    obtain rfl : [] = queue := Except.ok.inj h
    simp
  | cons x elems ih =>
    obtain ⟨e, he, h⟩ := bind_eq_ok.mp h
    obtain ⟨rest, hrest, h⟩ := bind_eq_ok.mp h
    obtain rfl : e.getObjectId.toInt64 :: rest = queue := Except.ok.inj h
    have hid : e.getObjectId = narrowId x.1 :=
      getObjectId_enemy hs (helems x List.mem_cons_self) (derefEnemy_eq_ok.mp he)
    rw [List.exists_mem_cons_iff, ← ih (fun y hy => helems y (List.mem_cons_of_mem x hy)) hrest,
      List.map_cons, List.mem_cons, hid]
    rfl

/-- Building the first queue stops only at `MyPlayer`. -/
theorem playersToDespawn_error (hs : s.playerRegistry.Keyed playerKey) {f : Fault}
    {elems : List (UInt64 × ActorRef)} (helems : ∀ x ∈ elems, s.players.lookup x.1 = some x.2)
    (h : s.playersToDespawn elems = .error f) : s.derefMyPlayer = .error f := by
  induction elems with
  | nil => cases h
  | cons x elems ih =>
    obtain ⟨p, hp, -⟩ := hs x.1 x.2 (helems x List.mem_cons_self)
    rcases bind_eq_error.mp h with h | ⟨q, -, h⟩
    · exact absurd (hp.symm.trans (derefPlayer_eq_error.mp h).1) (Option.some_ne_none p)
    rcases bind_eq_error.mp h with h | ⟨mine, -, h⟩
    · exact h
    rcases bind_eq_error.mp h with h | ⟨rest, -, h⟩
    · exact ih (fun y hy => helems y (List.mem_cons_of_mem x hy)) h
    · have h : (if q.getObjectId = mine.2.getObjectId then pure rest
        else pure (q.getObjectId.toInt64 :: rest)) = Except.error f := h
      split at h <;> cases h

/-- Building the second queue stops at nothing. -/
theorem enemysToDespawn_ne_error (hs : s.enemyRegistry.Keyed enemyKey) {f : Fault}
    {elems : List (UInt64 × ActorRef)} (helems : ∀ x ∈ elems, s.enemys.lookup x.1 = some x.2) :
    s.enemysToDespawn elems ≠ .error f := by
  induction elems with
  | nil => exact fun h => by cases h
  | cons x elems ih =>
    intro h
    obtain ⟨e, he, -⟩ := hs x.1 x.2 (helems x List.mem_cons_self)
    rcases bind_eq_error.mp h with h | ⟨d, -, h⟩
    · exact absurd (he.symm.trans (derefEnemy_eq_error.mp h).1) (Option.some_ne_none e)
    rcases bind_eq_error.mp h with h | ⟨rest, -, h⟩
    · exact ih (fun y hy => helems y (List.mem_cons_of_mem x hy)) h
    · cases h

/-! ## The loops that empty the queues -/

/-- The state with other tracked players. -/
def setPlayerRegistry (s : US1GameInstance R) (r : Registry UInt64 (AS1Player R)) :
    US1GameInstance R :=
  { s with players := r.index, playerActors := r.store }

/-- The state with other tracked enemies. -/
def setEnemyRegistry (s : US1GameInstance R) (r : Registry UInt64 (AS1Enemy R)) :
    US1GameInstance R :=
  { s with enemys := r.index, enemyActors := r.store }

variable [Zero R] {E : Engine R}

theorem Performed.untrackPlayer {objectId : UInt64}
    (h : Performed E s (.despawnPlayer objectId) t) (hw : s.inWorld = true) :
    t = s.setPlayerRegistry (s.playerRegistry.untrack objectId) := by
  cases h with
  | skipped _ hskip =>
    rcases hskip with hw' | hk
    · exact absurd (hw.symm.trans hw') Bool.false_ne_true.symm
    · unfold Registry.untrack
      rw [show s.playerRegistry.index.lookup objectId = none from hk]
      rfl
  | playerDespawned _ a _ hk =>
    rw [Registry.untrack_of_lookup hk]
    rfl

theorem Performed.untrackEnemy {objectId : UInt64}
    (h : Performed E s (.despawnEnemy objectId) t) (hw : s.inWorld = true) :
    t = s.setEnemyRegistry (s.enemyRegistry.untrack objectId) := by
  cases h with
  | skipped _ hskip =>
    rcases hskip with hw' | hk
    · exact absurd (hw.symm.trans hw') Bool.false_ne_true.symm
    · unfold Registry.untrack
      rw [show s.enemyRegistry.index.lookup objectId = none from hk]
      rfl
  | enemyDespawned _ a _ hk =>
    rw [Registry.untrack_of_lookup hk]
    rfl

/-- Outside the world, or where a freed slot reads as nothing, a despawn that completes
does nothing. -/
theorem Performed.eq_of_idle {e : Effect R} (h : Performed E s e t)
    (he : ∃ k, e = .despawnPlayer k ∨ e = .despawnEnemy k)
    (hidle : s.inWorld = true → E.keepsFreedSlot = false) : t = s := by
  obtain ⟨k, rfl | rfl⟩ := he
  · cases h with
    | skipped => rfl
    | playerDespawned _ _ hw _ hf => exact absurd (hf.symm.trans (hidle hw)) Bool.false_ne_true.symm
  · cases h with
    | skipped => rfl
    | enemyDespawned _ _ hw _ hf => exact absurd (hf.symm.trans (hidle hw)) Bool.false_ne_true.symm

theorem run_despawnPlayer_untrackAll {ks : List UInt64} (hw : s.inWorld = true)
    (h : Steps.run (perform E) s (ks.map .despawnPlayer) = .ok t) :
    t = s.setPlayerRegistry (s.playerRegistry.untrackAll ks) := by
  induction ks generalizing s with
  | nil => exact (Except.ok.inj h).symm
  | cons k ks ih =>
    obtain ⟨u, hu, ht⟩ := Steps.run_cons.mp h
    obtain rfl := (perform_cases hu).untrackPlayer hw
    have hw : (s.setPlayerRegistry (s.playerRegistry.untrack k)).inWorld = true := hw
    exact ih hw ht

theorem run_despawnEnemy_untrackAll {ks : List UInt64} (hw : s.inWorld = true)
    (h : Steps.run (perform E) s (ks.map .despawnEnemy) = .ok t) :
    t = s.setEnemyRegistry (s.enemyRegistry.untrackAll ks) := by
  induction ks generalizing s with
  | nil => exact (Except.ok.inj h).symm
  | cons k ks ih =>
    obtain ⟨u, hu, ht⟩ := Steps.run_cons.mp h
    obtain rfl := (perform_cases hu).untrackEnemy hw
    have hw : (s.setEnemyRegistry (s.enemyRegistry.untrack k)).inWorld = true := hw
    exact ih hw ht

theorem run_despawn_idle {es : List (Effect R)}
    (hidle : s.inWorld = true → E.keepsFreedSlot = false)
    (hes : ∀ e ∈ es, ∃ k, e = .despawnPlayer k ∨ e = .despawnEnemy k)
    (h : Steps.run (perform E) s es = .ok t) : t = s := by
  induction es generalizing s with
  | nil => exact (Except.ok.inj h).symm
  | cons e es ih =>
    obtain ⟨u, hu, ht⟩ := Steps.run_cons.mp h
    obtain rfl := (perform_cases hu).eq_of_idle (hes e List.mem_cons_self) hidle
    exact ih hidle (fun e' he' => hes e' (List.mem_cons_of_mem e he')) ht

/-! ## The local player survives -/

omit [Zero R] in
/-- **No id in the first queue is the local player's**: whatever was narrowed and
widened on the way, its low half is not the low half of the local player's id. -/
theorem playersToDespawn_spares (hs : s.playerRegistry.Keyed playerKey) {a : ActorRef} {p : AS1Player R}
    (hmine : s.derefMyPlayer = .ok (a, p)) {queue : List Int64}
    (h : s.playersToDespawn s.players.entries = .ok queue) :
    ∀ k ∈ queue.map Int64.toUInt64, s.players.lookup k ≠ some a := by
  intro k hk hka
  obtain ⟨x, -, hne, rfl⟩ := (mem_playersToDespawn hs hmine s.players.lookup_of_mem_entries h k).mp hk
  obtain ⟨q, hq, hkey⟩ := hs _ a hka
  obtain rfl := Option.some.inj ((derefMyPlayer_eq_ok.mp hmine).2.symm.trans hq)
  rw [hkey, narrowId_widenId] at hne
  exact hne rfl

/-- The loops leave `MyPlayer` as it was, live or not. -/
theorem Keyed.derefMyPlayer_loops (hs : s.Keyed) {queue₁ queue₂ : List Int64}
    {mid₁ mid₂ : US1GameInstance R} (hq : s.playersToDespawn s.players.entries = .ok queue₁)
    (h₁ : Steps.run (perform E) s ((queue₁.map Int64.toUInt64).map .despawnPlayer) = .ok mid₁)
    (h₂ : Steps.run (perform E) mid₁ ((queue₂.map Int64.toUInt64).map .despawnEnemy) = .ok mid₂) :
    mid₂.derefMyPlayer = s.derefMyPlayer := by
  cases hw : s.inWorld with
  | false =>
    obtain rfl := run_despawn_idle (by simp [hw]) (by simp) h₁
    obtain rfl := run_despawn_idle (by simp [hw]) (by simp) h₂
    rfl
  | true =>
    generalize hr : s.playerRegistry.untrackAll (queue₁.map Int64.toUInt64) = r
    obtain rfl : mid₁ = s.setPlayerRegistry r := hr ▸ run_despawnPlayer_untrackAll hw h₁
    have hw₁ : (s.setPlayerRegistry r).inWorld = true := hw
    obtain rfl := run_despawnEnemy_untrackAll hw₁ h₂
    -- no id in the queue is the one under which `MyPlayer` may be tracked
    have hget : ∀ a, s.myPlayer = some a → r.store.get? a = s.playerActors.get? a := by
      intro a hm
      rw [← hr]
      cases hp : s.playerActors.get? a with
      | none =>
        apply Option.eq_none_iff_forall_ne_some.mpr
        intro p hp'
        exact absurd (hp.symm.trans (Registry.get?_of_untrackAll hp')) (by simp)
      | some p =>
        have hmine := derefMyPlayer_eq_ok.mpr ⟨hm, hp⟩
        exact (Registry.get?_untrackAll_of_ne (playersToDespawn_spares hs.players hmine hq)).trans hp
    show (s.setPlayerRegistry r).derefMyPlayer = s.derefMyPlayer
    unfold derefMyPlayer derefPlayer setPlayerRegistry
    cases hm : s.myPlayer with
    | none => rfl
    | some a => simp only [hget a hm]

/-! ## The map after `MoveMap` -/

variable {n : Int32}

theorem Moved.derefMyPlayer (m : Moved E s n t) (hs : s.Keyed) :
    s.derefMyPlayer = .ok (m.mine, m.minePlayer) := by
  rw [← hs.derefMyPlayer_loops m.queue₁_eq m.run₁ m.run₂]
  exact derefMyPlayer_eq_ok.mpr ⟨m.myPlayer, m.live⟩

/-- **`Players` after `MoveMap`.**  A player is removed if its id fits `int` and
its low half is not the local player's. -/
theorem Moved.lookup_players (m : Moved E s n t) (hs : s.Keyed) (k : UInt64) :
    t.players.lookup k =
      if s.inWorld = true ∧ FitsInt k ∧ narrowId k ≠ narrowId (playerKey m.minePlayer) then none
      else s.players.lookup k := by
  have ht : t.players = m.mid₂.players := (congrArg players m.result).trans rfl
  rw [ht]
  have hrun₂ := m.run₂
  cases hw : s.inWorld with
  | false =>
    rw [run_despawn_idle (by simp [hw]) (by simp) m.run₁] at hrun₂
    rw [run_despawn_idle (by simp [hw]) (by simp) hrun₂, if_neg (by simp)]
  | true =>
    have hmid₁ := run_despawnPlayer_untrackAll hw m.run₁
    have hw₁ : m.mid₁.inWorld = true := (run_perform_guards m.run₁).2.trans hw
    rw [run_despawnEnemy_untrackAll hw₁ hrun₂]
    show m.mid₁.players.lookup k = _
    rw [hmid₁]
    have hmem := mem_playersToDespawn hs.players (m.derefMyPlayer hs) s.players.lookup_of_mem_entries
      m.queue₁_eq k
    refine (Registry.lookup_untrackAll _ _ k).trans ?_
    cases hk : s.players.lookup k with
    | none => rw [show s.playerRegistry.index.lookup k = none from hk]; simp
    | some a =>
      refine ite_congr (propext ?_) (fun _ => rfl) fun _ => hk
      rw [hmem]
      constructor
      · rintro ⟨x, -, hne, rfl⟩
        exact ⟨rfl, fitsInt_widenId _, by rwa [narrowId_widenId]⟩
      · rintro ⟨-, hfit, hne⟩
        exact ⟨(k, a), SlotMap.mem_entries.mpr hk, hne, hfit.symm⟩

/-- **`Enemys` after `MoveMap`.**  An enemy is removed if its id fits `int`. -/
theorem Moved.lookup_enemys (m : Moved E s n t) (hs : s.Keyed) (k : UInt64) :
    t.enemys.lookup k = if s.inWorld = true ∧ FitsInt k then none else s.enemys.lookup k := by
  have ht : t.enemys = m.mid₂.enemys := (congrArg enemys m.result).trans rfl
  rw [ht]
  have hmid : m.mid₁.Keyed := run_perform_keyed hs m.run₁
  have hmem := mem_enemysToDespawn hmid.enemys m.mid₁.enemys.lookup_of_mem_entries m.queue₂_eq k
  have hrun₂ := m.run₂
  cases hw : s.inWorld with
  | false =>
    rw [run_despawn_idle (by simp [hw]) (by simp) m.run₁] at hrun₂
    rw [run_despawn_idle (by simp [hw]) (by simp) hrun₂, if_neg (by simp)]
  | true =>
    have hmid₁ := run_despawnPlayer_untrackAll hw m.run₁
    have hw₁ : m.mid₁.inWorld = true := (run_perform_guards m.run₁).2.trans hw
    have he₁ : m.mid₁.enemys = s.enemys := by rw [hmid₁]; rfl
    rw [run_despawnEnemy_untrackAll hw₁ hrun₂]
    refine (Registry.lookup_untrackAll _ _ k).trans ?_
    show (if _ then none else m.mid₁.enemys.lookup k) = _
    rw [he₁] at hmem ⊢
    cases hk : s.enemys.lookup k with
    | none => simp
    | some a =>
      refine ite_congr (propext ?_) (fun _ => rfl) fun _ => rfl
      rw [hmem]
      constructor
      · rintro ⟨x, -, rfl⟩
        exact ⟨rfl, fitsInt_widenId _⟩
      · rintro ⟨-, hfit⟩
        exact ⟨(k, a), SlotMap.mem_entries.mpr hk, hfit.symm⟩

/-! ## What stops `MoveMap` -/

private theorem run_despawn_error {f : Fault} {es : List (Effect R)}
    (hes : ∀ e ∈ es, ∃ k, e = .despawnPlayer k ∨ e = .despawnEnemy k)
    (h : Steps.run (perform E) s es = .error f) : f = .freedSlot ∧ E.keepsFreedSlot = false := by
  obtain ⟨l₁, e, l₂, u, rfl, -, he⟩ := Steps.run_eq_error h
  obtain ⟨k, rfl | rfl⟩ := hes e (by simp)
  · cases perform_faulted he with
    | playerSlotFreed _ _ _ hf => exact ⟨rfl, hf⟩
  · cases perform_faulted he with
    | enemySlotFreed _ _ _ hf => exact ⟨rfl, hf⟩

/-- **`MoveMap` stops only at `MyPlayer` or at a freed slot.** -/
theorem Keyed.moveMap_error (hs : s.Keyed) {f : Fault} (h : s.moveMap E n = .error f) :
    f = .freedSlot ∧ E.keepsFreedSlot = false ∨ s.derefMyPlayer = .error f := by
  rcases bind_eq_error.mp h with h | ⟨queue₁, hq₁, h⟩
  · exact Or.inr (playersToDespawn_error hs.players s.players.lookup_of_mem_entries h)
  rw [bind_eq_error, run_despawnPlayer] at h
  rcases h with h | ⟨mid₁, hr₁, h⟩
  · exact Or.inl (run_despawn_error (by simp) h)
  have hmid : mid₁.Keyed := run_perform_keyed hs hr₁
  rcases bind_eq_error.mp h with h | ⟨queue₂, -, h⟩
  · exact absurd h (enemysToDespawn_ne_error hmid.enemys mid₁.enemys.lookup_of_mem_entries)
  rw [bind_eq_error, run_despawnEnemy] at h
  rcases h with h | ⟨mid₂, hr₂, h⟩
  · exact Or.inl (run_despawn_error (by simp) h)
  obtain ⟨g, hg, -⟩ := mid₂.sendPacket_eq (.C_ENTER_ROOM n.toInt64.toUInt64)
  rw [hg] at h
  rcases bind_eq_error.mp h with h | ⟨mine, -, h⟩
  · exact Or.inr ((hs.derefMyPlayer_loops hq₁ hr₁ hr₂).symm.trans h)
  · cases h

end US1GameInstance
end S1Client
