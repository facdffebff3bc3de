import S1Client.MoveMap

/-!
# Emptying a room

`MoveMap` should take everybody away but the local player.  The local player is safe: no
id in the queue leads to it, whatever was narrowed and widened on the way and in whatever
order the map is read (`moveMap_spares_local`).  The others are not all found: an id that
does not fit `int`, or agrees with the local player's in its low half, stays, so the room
is emptied exactly if there is no such id (`emptiesRoom_iff`).
-/
namespace S1Client
namespace US1GameInstance
open Steps (bind_eq_ok)
variable {R : Type}

/-- Between `s` and `t` the room was emptied: of the players only `me` is left, of the
enemies none, every other actor that was tracked has been destroyed once, and the server
was asked for room `n`. -/
structure Emptied (s : US1GameInstance R) (me : UInt64) (a : ActorRef) (n : Int32)
    (t : US1GameInstance R) : Prop where
  players : ∀ k, t.players.lookup k = if k = me then some a else none
  enemys : ∀ k, t.enemys.lookup k = none
  playerDestroyed : ∀ k b, k ≠ me → s.players.lookup k = some b →
    s.playerActors.Destroyed t.playerActors b
  enemyDestroyed : ∀ k b, s.enemys.lookup k = some b → s.enemyActors.Destroyed t.enemyActors b
  sends : s.Sends (.C_ENTER_ROOM n.toInt64.toUInt64) t

/-- `MoveMap(n)` completes and empties the room. -/
def EmptiesRoom (E : Engine R) (s : US1GameInstance R) (me : UInt64) (a : ActorRef)
    (n : Int32) : Prop :=
  ∃ t, s.moveMap E n = .ok t ∧ s.Emptied me a n t

/-- Every id is found on the way back from `int`, no player is taken for the local one,
and a freed slot still reads as its pointer, or none has to be read. -/
structure Clearable (E : Engine R) (s : US1GameInstance R) (me : UInt64) : Prop where
  players : ∀ k, s.players.lookup k ≠ none → k ≠ me → FitsInt k ∧ narrowId k ≠ narrowId me
  enemys : ∀ k, s.enemys.lookup k ≠ none → FitsInt k
  slots : E.keepsFreedSlot = true ∨
    (∀ k, s.players.lookup k ≠ none → k = me) ∧ ∀ k, s.enemys.lookup k = none

variable {s t : US1GameInstance R}

/-! ## The local player -/

/-- `MyPlayer` is live if it is tracked. -/
theorem Keyed.derefMyPlayer_of_tracked (hs : s.playerRegistry.Keyed playerKey) {me : UInt64}
    {a : ActorRef} (hm : s.myPlayer = some a) (hme : s.players.lookup me = some a) :
    ∃ p, s.derefMyPlayer = .ok (a, p) ∧ playerKey p = me := by
  obtain ⟨p, hp, hkey⟩ := hs me a hme
  exact ⟨p, derefMyPlayer_eq_ok.mpr ⟨hm, hp⟩, hkey⟩

/-- The first loop completes. -/
theorem Keyed.playersToDespawn_total (hs : s.playerRegistry.Keyed playerKey)
    {mine : ActorRef × AS1Player R} (hmine : s.derefMyPlayer = .ok mine)
    {elems : List (UInt64 × ActorRef)} (helems : ∀ x ∈ elems, s.players.lookup x.1 = some x.2) :
    ∃ queue, s.playersToDespawn elems = .ok queue := by
  cases h : s.playersToDespawn elems with
  | ok queue => exact ⟨queue, rfl⟩
  | error f =>
    have hf := playersToDespawn_error hs helems h
    rw [hmine] at hf
    cases hf

variable [Zero R] {E : Engine R}

/-- In whatever order `Players` is read, the first loop completes, no id in its queue is
converted to the key of the local player, and the despawns leave the local player where it
is. -/
theorem Keyed.despawns_spare_local (hs : s.playerRegistry.Keyed playerKey) {me : UInt64}
    {a : ActorRef} (hm : s.myPlayer = some a) (hme : s.players.lookup me = some a)
    {elems : List (UInt64 × ActorRef)} (helems : elems.Perm s.players.entries) :
    ∃ queue, s.playersToDespawn elems = .ok queue ∧
      (∀ objectId ∈ queue, objectId.toUInt64 ≠ me) ∧
      ∀ t, Steps.run (despawnPlayer E) s queue = .ok t →
        t.players.lookup me = some a ∧ t.playerActors.get? a = s.playerActors.get? a := by
  have htracked : ∀ x ∈ elems, s.players.lookup x.1 = some x.2 := fun x hx =>
    SlotMap.mem_entries.mp (helems.mem_iff.mp hx)
  obtain ⟨p, hmine, hkey⟩ := Keyed.derefMyPlayer_of_tracked hs hm hme
  obtain ⟨queue, hqueue⟩ := Keyed.playersToDespawn_total hs hmine htracked
  have hmem := mem_playersToDespawn hs hmine htracked hqueue
  have hne : ∀ k ∈ queue.map Int64.toUInt64, k ≠ me := by
    intro k hk hkme
    obtain ⟨x, -, hx, hkx⟩ := (hmem k).mp hk
    -- the low half of a queued id is not the local player's, and widening keeps it
    have hlow : narrowId me = narrowId x.1 := by
      rw [← hkme, hkx, narrowId_widenId]
    exact hx (by rw [hkey, hlow])
  refine ⟨queue, hqueue, fun objectId hobject => ?_, fun t ht => ?_⟩
  · exact hne _ (List.mem_map_of_mem hobject)
  · rw [run_despawnPlayer] at ht
    cases hw : s.inWorld with
    | false =>
      obtain rfl := run_despawn_idle (by simp [hw]) (by simp) ht
      exact ⟨hme, rfl⟩
    | true =>
      obtain rfl := run_despawnPlayer_untrackAll hw ht
      have hother : ∀ k ∈ queue.map Int64.toUInt64, s.playerRegistry.index.lookup k ≠ some a :=
        fun k hk hka => hne k hk (hs.key_unique hka hme)
      refine ⟨(Registry.lookup_untrackAll _ _ me).trans ?_, Registry.get?_untrackAll_of_ne hother⟩
      exact (if_neg fun hmem => hne me hmem rfl).trans hme

/-- The enemies' despawns do not touch the players. -/
theorem run_despawnEnemy_players {ks : List UInt64}
    (h : Steps.run (perform E) s (ks.map .despawnEnemy) = .ok t) :
    t.players = s.players ∧ t.playerActors = s.playerActors ∧ t.myPlayer = s.myPlayer := by
  refine Steps.run_invariant_mem (P := fun u : US1GameInstance R => u.players = s.players ∧
    u.playerActors = s.playerActors ∧ u.myPlayer = s.myPlayer) (fun u e he v hu hv => ?_)
    ⟨rfl, rfl, rfl⟩ h
  obtain ⟨k, -, rfl⟩ := List.mem_map.mp he
  cases perform_cases hv with
  | skipped | enemyDespawned => exact hu

/-- Nor do the players' despawns touch `MyPlayer`. -/
theorem run_despawnPlayer_myPlayer {ks : List UInt64}
    (h : Steps.run (perform E) s (ks.map .despawnPlayer) = .ok t) : t.myPlayer = s.myPlayer := by
  refine Steps.run_invariant_mem (P := fun u : US1GameInstance R => u.myPlayer = s.myPlayer)
    (fun u e he v hu hv => ?_) rfl h
  obtain ⟨k, -, rfl⟩ := List.mem_map.mp he
  cases perform_cases hv with
  | skipped | playerDespawned => exact hu

/-- What `MoveMap` does to the players: the despawns of its queue, and the local player's
map number. -/
theorem moveMap_players {n : Int32} {a : ActorRef} (hm : s.myPlayer = some a)
    (h : s.moveMap E n = .ok t) : ∃ queue mid, s.playersToDespawn s.players.entries = .ok queue ∧
      Steps.run (despawnPlayer E) s queue = .ok mid ∧ t.players = mid.players ∧
      t.playerActors = mid.playerActors.modify a (·.setMapNumber n) ∧ t.myPlayer = some a := by
  obtain ⟨m⟩ := moveMap_cases h
  obtain ⟨hplayers, hactors, hmine⟩ := run_despawnEnemy_players m.run₂
  have hmyPlayer : m.mid₂.myPlayer = some a :=
    hmine.trans ((run_despawnPlayer_myPlayer m.run₁).trans hm)
  have ha : m.mine = a := Option.some.inj (m.myPlayer.symm.trans hmyPlayer)
  refine ⟨m.queue₁, m.mid₁, m.queue₁_eq, (run_despawnPlayer s m.queue₁).trans m.run₁, ?_, ?_, ?_⟩
  · exact (congrArg players m.result).trans hplayers
  · refine (congrArg playerActors m.result).trans ?_
    show m.mid₂.playerActors.modify m.mine _ = _
    rw [hactors, ha]
  · exact (congrArg US1GameInstance.myPlayer m.result).trans hmyPlayer

/-- **`MoveMap` never removes the local player.**  In whatever order `Players` is read, the
first loop completes and no id in its queue is converted to the key of the local player.
The only despawns of players that `MoveMap` makes are those of its queue, and the local
player stays tracked, with its new map number. -/
theorem moveMap_spares_local (hs : s.playerRegistry.Keyed playerKey) {me : UInt64}
    {a : ActorRef} (hm : s.myPlayer = some a) (hme : s.players.lookup me = some a) :
    (∀ elems, List.Perm elems s.players.entries →
      ∃ queue, s.playersToDespawn elems = .ok queue ∧
        (∀ objectId ∈ queue, objectId.toUInt64 ≠ me) ∧
        ∀ t, Steps.run (despawnPlayer E) s queue = .ok t →
          t.players.lookup me = some a ∧ t.playerActors.get? a = s.playerActors.get? a) ∧
    ∀ n t, s.moveMap E n = .ok t →
      (∃ queue mid, s.playersToDespawn s.players.entries = .ok queue ∧
        Steps.run (despawnPlayer E) s queue = .ok mid ∧ t.players = mid.players ∧
        t.playerActors = mid.playerActors.modify a (·.setMapNumber n)) ∧
      t.myPlayer = some a ∧ t.players.lookup me = some a ∧
      t.playerActors.get? a = (s.playerActors.get? a).map (·.setMapNumber n) := by
  refine ⟨fun elems helems => Keyed.despawns_spare_local hs hm hme helems, fun n t ht => ?_⟩
  obtain ⟨queue, mid, hqueue, hrun, hplayers, hactors, hmine⟩ := moveMap_players hm ht
  obtain ⟨queue', hqueue', -, hspared⟩ :=
    Keyed.despawns_spare_local (E := E) hs hm hme (List.Perm.refl s.players.entries)
  obtain rfl := Except.ok.inj (hqueue'.symm.trans hqueue)
  obtain ⟨htracked, hactor⟩ := hspared mid hrun
  refine ⟨⟨queue', mid, hqueue, hrun, hplayers, hactors⟩, hmine, hplayers ▸ htracked, ?_⟩
  rw [hactors, Arena.get?_modify, if_pos rfl, hactor]

/-- Player 7 enters, and meets player 8 and enemy 9. -/
def meetEight : List (Op Int) :=
  [.packet (.S_ENTER_GAME ⟨true, some (.named .player 7 7)⟩),
    .packet (.S_SPAWN ⟨[.named .player 8 8, .named .enemy 9 9]⟩)]

private theorem run_meetEight_keyed {s : US1GameInstance Int}
    (h : Steps.run (step (.obliging Int false)) (started Int) meetEight = .ok s) : s.Keyed :=
  (run_wellFormed (started_initial Int).wellFormed h).keyed

/-- The law where the map is read from the other end, and for `MoveMap(2)`, which takes
player 8 away. -/
theorem moveMap_spares_local_seven :
    ∃ s t, Steps.run (step (.obliging Int false)) (started Int) meetEight = .ok s ∧
      (∃ queue, s.playersToDespawn [(8, 1), (7, 0)] = .ok queue ∧
        (∀ objectId ∈ queue, objectId.toUInt64 ≠ 7) ∧
        ∀ t, Steps.run (despawnPlayer (.obliging Int false)) s queue = .ok t →
          t.players.lookup 7 = some 0 ∧ t.playerActors.get? 0 = s.playerActors.get? 0) ∧
      s.moveMap (.obliging Int false) 2 = .ok t ∧ t.players.lookup 8 = none ∧
      t.myPlayer = some 0 ∧ t.players.lookup 7 = some 0 ∧
      t.playerActors.get? 0 = (s.playerActors.get? 0).map (·.setMapNumber 2) := by
  have hrun : Steps.run (step (.obliging Int false)) (started Int) meetEight = .ok _ := rfl
  obtain ⟨hqueue, hmove⟩ := @moveMap_spares_local Int _ _ (.obliging Int false)
    (run_meetEight_keyed hrun).players 7 0 rfl rfl
  exact ⟨_, _, hrun, hqueue _ (List.Perm.swap (7, 0) (8, 1) []), rfl, rfl, (hmove 2 _ rfl).2⟩

/-! ## The others -/

theorem run_perform_session {es : List (Effect R)} (h : Steps.run (perform E) s es = .ok t) :
    t.gameServerSession = s.gameServerSession := by
  refine Steps.run_invariant (P := fun u : US1GameInstance R =>
    u.gameServerSession = s.gameServerSession) (fun u e v hu hv => ?_) rfl h
  have hsession : v.gameServerSession = u.gameServerSession := by
    cases perform_cases hv <;> rfl
  exact hsession.trans hu

/-- `MoveMap` asks for the room once. -/
theorem moveMap_sends {n : Int32} (h : s.moveMap E n = .ok t) (hc : s.connected = true) :
    s.Sends (.C_ENTER_ROOM n.toInt64.toUInt64) t := by
  obtain ⟨queue₁, -, h⟩ := bind_eq_ok.mp h
  obtain ⟨mid₁, hr₁, h⟩ := bind_eq_ok.mp h
  obtain ⟨queue₂, -, h⟩ := bind_eq_ok.mp h
  obtain ⟨mid₂, hr₂, h⟩ := bind_eq_ok.mp h
  obtain ⟨mine, -, h⟩ := bind_eq_ok.mp h
  obtain rfl := Except.ok.inj h
  rw [run_despawnPlayer] at hr₁
  rw [run_despawnEnemy] at hr₂
  have hc₂ : mid₂.connected = true :=
    (run_perform_guards hr₂).1.trans ((run_perform_guards hr₁).1.trans hc)
  have hqueue : mid₂.sendQueue = s.sendQueue := by
    unfold sendQueue
    rw [run_perform_session hr₂, run_perform_session hr₁]
  have hsends : mid₂.Sends (.C_ENTER_ROOM n.toInt64.toUInt64)
      (mid₂.sendPacket (.C_ENTER_ROOM n.toInt64.toUInt64)) :=
    mid₂.sends_sendPacket_iff.mpr ⟨hc₂, rfl⟩
  obtain ⟨queue, hold, hnew⟩ := hsends
  exact ⟨queue, hqueue ▸ hold, hnew⟩

/-- `MoveMap` completes if freed slots still read as pointers, and also if there is nobody
to despawn. -/
theorem Keyed.moveMap_total (hs : s.Keyed) {me : UInt64} {a : ActorRef}
    (hm : s.myPlayer = some a) (hme : s.players.lookup me = some a)
    (hslots : E.keepsFreedSlot = true ∨
      (∀ k, s.players.lookup k ≠ none → k = me) ∧ ∀ k, s.enemys.lookup k = none) (n : Int32) :
    ∃ t, s.moveMap E n = .ok t := by
  obtain ⟨p, hmine, hkey⟩ := Keyed.derefMyPlayer_of_tracked hs.players hm hme
  rcases hslots with hfreed | ⟨halone, hnone⟩
  · cases h : s.moveMap E n with
    | ok t => exact ⟨t, rfl⟩
    | error f =>
      rcases hs.moveMap_error h with ⟨-, hf⟩ | hf
      · exact absurd (hfreed.symm.trans hf) Bool.false_ne_true.symm
      · rw [hmine] at hf
        cases hf
  · have htracked := s.players.lookup_of_mem_entries
    obtain ⟨queue, hqueue⟩ := Keyed.playersToDespawn_total hs.players hmine htracked
    have hempty : queue.map Int64.toUInt64 = [] := by
      apply List.eq_nil_iff_forall_not_mem.mpr
      intro k hk
      obtain ⟨x, hx, hne, -⟩ := (mem_playersToDespawn hs.players hmine htracked hqueue k).mp hk
      have hxme : x.1 = me := halone x.1 (by rw [htracked x hx]; exact Option.some_ne_none x.2)
      exact hne (by rw [hxme, hkey])
    have hnobody : s.enemys.entries = [] := by
      apply List.eq_nil_iff_forall_not_mem.mpr
      intro x hx
      have hx := (hnone x.1).symm.trans (SlotMap.mem_entries.mp hx)
      cases hx
    obtain rfl := List.map_eq_nil_iff.mp hempty
    have hqueue₂ : s.enemysToDespawn s.enemys.entries = .ok [] := by
      rw [hnobody]
      rfl
    obtain ⟨g, hg, -⟩ := s.sendPacket_eq (.C_ENTER_ROOM n.toInt64.toUInt64)
    have hmine' : (s.sendPacket (.C_ENTER_ROOM n.toInt64.toUInt64)).derefMyPlayer = .ok (a, p) := by
      rw [hg]
      exact hmine
    exact ⟨_, bind_eq_ok.mpr ⟨[], hqueue, bind_eq_ok.mpr ⟨s, rfl, bind_eq_ok.mpr ⟨[], hqueue₂,
      bind_eq_ok.mpr ⟨s, rfl, bind_eq_ok.mpr ⟨(a, p), hmine', rfl⟩⟩⟩⟩⟩⟩

variable {n : Int32}

theorem Moved.destroyed_player (m : Moved E s n t) (hs : s.Keyed) (hw : s.inWorld = true)
    {k : UInt64} {b : ActorRef} (hk : s.players.lookup k = some b) (hfit : FitsInt k)
    (hne : narrowId k ≠ narrowId (playerKey m.minePlayer)) :
    s.playerActors.Destroyed t.playerActors b := by
  have hmem := (mem_playersToDespawn hs.players (m.derefMyPlayer hs)
    s.players.lookup_of_mem_entries m.queue₁_eq k).mpr
    ⟨(k, b), SlotMap.mem_entries.mpr hk, hne, hfit.symm⟩
  have hd := hs.players.destroyed_untrackAll (show s.playerRegistry.index.lookup k = some b from hk)
    hmem
  have hmid₁ := run_despawnPlayer_untrackAll hw m.run₁
  have hw₁ : m.mid₁.inWorld = true := (run_perform_guards m.run₁).2.trans hw
  have hmid₂ := run_despawnEnemy_untrackAll hw₁ m.run₂
  rw [m.result]
  refine Arena.Destroyed.modify ?_ m.mine _
  rw [hmid₂]
  show s.playerActors.Destroyed m.mid₁.playerActors b
  rw [hmid₁]
  exact hd

theorem Moved.destroyed_enemy (m : Moved E s n t) (hs : s.Keyed) (hw : s.inWorld = true)
    {k : UInt64} {b : ActorRef} (hk : s.enemys.lookup k = some b) (hfit : FitsInt k) :
    s.enemyActors.Destroyed t.enemyActors b := by
  have hmid₁ := run_despawnPlayer_untrackAll hw m.run₁
  have hw₁ : m.mid₁.inWorld = true := (run_perform_guards m.run₁).2.trans hw
  have hregistry : m.mid₁.enemyRegistry = s.enemyRegistry := by rw [hmid₁]; rfl
  have hmid₂ := run_despawnEnemy_untrackAll hw₁ m.run₂
  have hk₁ : m.mid₁.enemyRegistry.index.lookup k = some b := by rw [hregistry]; exact hk
  have hkeyed : m.mid₁.enemyRegistry.Keyed enemyKey := by rw [hregistry]; exact hs.enemys
  have hmem := (mem_enemysToDespawn hkeyed m.mid₁.enemys.lookup_of_mem_entries m.queue₂_eq k).mpr
    ⟨(k, b), SlotMap.mem_entries.mpr hk₁, hfit.symm⟩
  have hd := hkeyed.destroyed_untrackAll hk₁ hmem
  have hstore : t.enemyActors = m.mid₂.enemyActors := (congrArg enemyActors m.result).trans rfl
  have hstart : m.mid₁.enemyActors = s.enemyActors := congrArg Registry.store hregistry
  rw [hstore, hmid₂, ← hstart]
  exact hd

/-- The player `MoveMap` spares is the one tracked under `me`. -/
theorem Moved.playerKey_mine (m : Moved E s n t) (hs : s.Keyed) {me : UInt64} {a : ActorRef}
    (hm : s.myPlayer = some a) (hme : s.players.lookup me = some a) :
    playerKey m.minePlayer = me := by
  obtain ⟨p, hmine, hkey⟩ := Keyed.derefMyPlayer_of_tracked hs.players hm hme
  obtain ⟨-, rfl⟩ := Prod.mk.inj (Except.ok.inj (hmine.symm.trans (m.derefMyPlayer hs)))
  exact hkey

/-- What is gone was found on the way back from `int`. -/
theorem Moved.clearable (m : Moved E s n t) (hs : s.Keyed) {me : UInt64} {a : ActorRef}
    (hkey : playerKey m.minePlayer = me) (hempty : s.Emptied me a n t) : s.Clearable E me := by
  have hplayers := m.lookup_players hs
  have henemys := m.lookup_enemys hs
  rw [hkey] at hplayers
  refine ⟨fun k hk hkme => ?_, fun k hk => ?_, ?_⟩
  · by_contra hstays
    have hgone := (hempty.players k).trans (if_neg hkme)
    rw [hplayers, if_neg fun h => hstays h.2] at hgone
    exact hk hgone
  · by_contra hstays
    have hgone := hempty.enemys k
    rw [henemys, if_neg fun h => hstays h.2] at hgone
    exact hk hgone
  · cases hfreed : E.keepsFreedSlot with
    | true => exact Or.inl rfl
    | false =>
      -- both loops completed, so there was nobody to despawn
      have hmid₁ := run_despawn_idle (fun _ => hfreed) (by simp) m.run₁
      have hmid₂ := run_despawn_idle (fun _ => hfreed) (by simp) m.run₂
      have hsame : t.players = s.players ∧ t.enemys = s.enemys := by
        rw [m.result, hmid₂, hmid₁]
        exact ⟨rfl, rfl⟩
      refine Or.inr ⟨fun k hk => ?_, fun k => hsame.2 ▸ hempty.enemys k⟩
      by_contra hkme
      exact hk (hsame.1 ▸ (hempty.players k).trans (if_neg hkme))

/-- What is found on the way back is gone, and was destroyed once. -/
theorem Moved.emptied (m : Moved E s n t) (hs : s.Keyed) (hw : s.inWorld = true) {me : UInt64}
    {a : ActorRef} (hkey : playerKey m.minePlayer = me) (hme : s.players.lookup me = some a)
    (hclear : s.Clearable E me) (hsends : s.Sends (.C_ENTER_ROOM n.toInt64.toUInt64) t) :
    s.Emptied me a n t := by
  refine ⟨fun k => ?_, fun k => ?_, fun k b hkme hk => ?_, fun k b hk => ?_, hsends⟩
  · rw [m.lookup_players hs, hkey]
    by_cases hkme : k = me
    · rw [if_pos hkme, hkme, if_neg fun h => h.2.2 rfl, hme]
    · rw [if_neg hkme]
      cases hk : s.players.lookup k with
      | none => simp
      | some b => exact if_pos ⟨hw, hclear.players k (by simp [hk]) hkme⟩
  · rw [m.lookup_enemys hs]
    cases hk : s.enemys.lookup k with
    | none => simp
    | some b => exact if_pos ⟨hw, hclear.enemys k (by simp [hk])⟩
  · obtain ⟨hfit, hne⟩ := hclear.players k (by simp [hk]) hkme
    exact m.destroyed_player hs hw hk hfit (by rw [hkey]; exact hne)
  · exact m.destroyed_enemy hs hw hk (hclear.enemys k (by simp [hk]))

/-- **`MoveMap` empties the room exactly if every id is found on the way back from `int`**,
and no freed slot has to be read that reads as nothing. -/
theorem emptiesRoom_iff (hs : s.Keyed) (hc : s.connected = true) (hworld : s.hasWorld = true)
    {me : UInt64} {a : ActorRef} (hm : s.myPlayer = some a) (hme : s.players.lookup me = some a)
    (n : Int32) : s.EmptiesRoom E me a n ↔ s.Clearable E me := by
  have hw : s.inWorld = true := by simp [inWorld, hc, hworld]
  constructor
  · rintro ⟨t, ht, hempty⟩
    obtain ⟨m⟩ := moveMap_cases ht
    exact m.clearable hs (m.playerKey_mine hs hm hme) hempty
  · intro hclear
    obtain ⟨t, ht⟩ := hs.moveMap_total hm hme hclear.slots n
    obtain ⟨m⟩ := moveMap_cases ht
    exact ⟨t, ht, m.emptied hs hw (m.playerKey_mine hs hm hme) hme hclear (moveMap_sends ht hc)⟩

/-- The law on players 7 and 8 and enemy 9. -/
theorem emptiesRoom_seven :
    ∃ s, Steps.run (step (.obliging Int false)) (started Int) meetEight = .ok s ∧
      s.EmptiesRoom (.obliging Int false) 7 0 2 := by
  have hrun : Steps.run (step (.obliging Int false)) (started Int) meetEight = .ok _ := rfl
  exact ⟨_, hrun, (emptiesRoom_iff (run_meetEight_keyed hrun) rfl rfl rfl rfl 2).mpr
    ⟨SlotMap.forall_lookup_iff.mpr (by decide), SlotMap.forall_lookup_iff.mpr (by decide),
      Or.inl rfl⟩⟩

/-- **`MoveMap` does not always empty the room**: player 2³² + 7 is taken for player 7. -/
theorem not_always_emptiesRoom :
    ¬∀ (E : Engine Int) (s : US1GameInstance Int) (me : UInt64) (a : ActorRef) (n : Int32),
      E.keepsFreedSlot = true → s.Keyed → s.connected = true → s.hasWorld = true →
      s.myPlayer = some a → s.players.lookup me = some a → s.EmptiesRoom E me a n := by
  intro h
  have hrun : Steps.run (step (.obliging Int false)) (started Int)
      [.packet (.S_ENTER_GAME ⟨true, some (.named .player 7 7)⟩),
        .packet (.S_SPAWN ⟨[.named .player 4294967303 4294967303]⟩)] = .ok _ := rfl
  obtain ⟨t, ht, hempty⟩ := h (.obliging Int false) _ 7 0 2 rfl
    (run_wellFormed (started_initial Int).wellFormed hrun).keyed rfl rfl rfl rfl
  obtain rfl := Except.ok.inj ht
  have hgone := hempty.players 4294967303
  exact absurd hgone (by decide)

end US1GameInstance
end S1Client
