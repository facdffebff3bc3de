import S1Client.MoveMap

/-!
# The local player

`MyPlayer` is a second reference to an actor that `Players` owns, and nothing
maintains it: a despawn of the local player's id destroys the actor and keeps the
pointer, and `DisconnectFromGameServer` empties the map under it.  Only an
`S_ENTER_GAME` that spawns repairs it (`myPlayer_tracked_iff`).  That packet
spawns only if its id is not tracked yet, and it demotes no earlier local player
(`enterGame_iff`).
-/
namespace S1Client
namespace US1GameInstance
open Steps (bind_eq_error)
variable {R : Type}

/-- `MyPlayer` is null, or a live and tracked actor with `IsMine` set. -/
def MyPlayerTracked (s : US1GameInstance R) : Prop :=
  ∀ a, s.myPlayer = some a →
    ∃ k p, s.players.lookup k = some a ∧ s.playerActors.get? a = some p ∧ p.isMine = true

/-- The users of `MyPlayer` find no destroyed actor. -/
structure NeverDangles (s : US1GameInstance R) : Prop where
  handleScore : ∀ pkt, s.handleScore pkt ≠ .error .destroyedActor
  moveMap : ∀ E n, s.moveMap E n ≠ .error .destroyedActor
  requestScore : ∀ monsterId, s.requestScore monsterId ≠ .error .destroyedActor

/-- An effect does not destroy the actor `MyPlayer` points to. -/
def SparesMyPlayer (s : US1GameInstance R) : Effect R → Prop
  | .despawnPlayer objectId =>
      s.inWorld = true → ∀ a, s.myPlayer = some a → s.players.lookup objectId ≠ some a
  | _ => True

variable [Zero R]

/-- An operation does not drop the local player: no effect of a packet destroys
it, and there is none when the maps are emptied. -/
def KeepsMyPlayer (E : Engine R) (s : US1GameInstance R) : Op R → Prop
  | .packet pkt => Steps.Meets (perform E) SparesMyPlayer s pkt.effects
  | .moveMap _ => True
  | .disconnectFromGameServer => s.connected = true → s.myPlayer = none

variable {E : Engine R} {s t : US1GameInstance R}

omit [Zero R] in
theorem Initial.myPlayerTracked (h : s.Initial) : s.MyPlayerTracked := fun a ha => by
  rw [h.myPlayer] at ha
  cases ha

theorem MyPlayerTracked.neverDangles (hs : s.WellFormed) (h : s.MyPlayerTracked) :
    s.NeverDangles := by
  have hderef : s.derefMyPlayer ≠ .error .destroyedActor := fun hd => by
    rcases derefMyPlayer_eq_error.mp hd with ⟨-, hf⟩ | ⟨a, ha, hp, -⟩
    · cases hf
    · obtain ⟨k, p, -, hp', -⟩ := h a ha
      exact absurd (hp.symm.trans hp') (by simp)
  constructor
  · intro pkt he
    obtain ⟨-, ⟨a, hm, hp⟩, -⟩ := handleScore_eq_error he
    exact hderef (derefMyPlayer_eq_error.mpr (Or.inr ⟨a, hm, hp, rfl⟩))
  · intro E n he
    rcases hs.keyed.moveMap_error he with ⟨hf, -⟩ | hd
    · cases hf
    · exact hderef hd
  · intro monsterId he
    rcases bind_eq_error.mp he with hd | ⟨mine, -, hd⟩
    · exact hderef hd
    · cases hd

/-! ## The pointer -/

omit [Zero R] in
/-- A player changed in place stays what it was to `MyPlayer`. -/
private theorem myPlayerTracked_modify (s : US1GameInstance R) (a : ActorRef)
    (f : AS1Player R → AS1Player R) (hf : ∀ p, (f p).isMine = p.isMine) :
    MyPlayerTracked { s with playerActors := s.playerActors.modify a f } ↔ s.MyPlayerTracked := by
  have hlive : ∀ b, (∃ p, (s.playerActors.modify a f).get? b = some p ∧ p.isMine = true) ↔
      ∃ p, s.playerActors.get? b = some p ∧ p.isMine = true := fun b => by
    rw [Arena.get?_modify]
    split
    · cases s.playerActors.get? b <;> simp [hf]
    · rfl
  refine forall_congr' fun b => imp_congr_right fun _ => exists_congr fun k => ?_
  rw [exists_and_left, exists_and_left]
  exact and_congr_right fun _ => hlive b

/-- **One effect** other than an `S_ENTER_GAME` keeps `MyPlayer` tracked exactly
when it spares its actor, and repairs nothing. -/
theorem Performed.myPlayerTracked_iff {e : Effect R} (h : Performed E s e t) (hs : s.WellFormed)
    (he : ∀ info, e ≠ .spawnPlayer info true) :
    t.MyPlayerTracked ↔ s.MyPlayerTracked ∧ s.SparesMyPlayer e := by
  cases h with
  | skipped e hskip =>
    refine (and_iff_left ?_).symm
    cases e with
    | despawnPlayer objectId =>
      intro hw a _ hk
      rcases hskip with hw' | hk'
      · exact absurd (hw.symm.trans hw') Bool.false_ne_true.symm
      · exact absurd (hk'.symm.trans hk) (by simp)
    | _ => trivial
  | playerSpawned info isMine place hw hk =>
    cases isMine with
    | true => exact absurd rfl (he info)
    | false =>
      refine Iff.trans (forall_congr' fun a => imp_congr_right fun ha => ?_)
        (and_iff_left trivial).symm
      have hne : a ≠ s.playerActors.next := Nat.ne_of_lt (hs.myPlayer_lt a ha)
      refine exists_congr fun k => exists_congr fun p => ?_
      show (s.players.add _ _).lookup k = some a ∧ (s.playerActors.spawn _).get? a = some p ∧ _ ↔ _
      rw [Arena.get?_spawn, if_neg hne, SlotMap.lookup_add]
      apply and_congr_left'
      split
      · rename_i hkey
        subst hkey
        rw [hk]
        exact ⟨fun h => absurd (Option.some.inj h).symm hne, fun h => by cases h⟩
      · rfl
  | playerDespawned objectId b hw hk =>
    constructor
    · intro ht
      refine ⟨fun a ha => ?_, fun _ a ha hka => ?_⟩
      · obtain ⟨k, p, hka, hp, hm⟩ := ht a ha
        have hka := (SlotMap.lookup_remove s.players objectId k).symm.trans hka
        have hp := (Arena.get?_destroy s.playerActors b a).symm.trans hp
        split at hka
        · cases hka
        split at hp
        · cases hp
        exact ⟨k, p, hka, hp, hm⟩
      · obtain rfl : a = b := Option.some.inj (hka.symm.trans hk)
        obtain ⟨k, p, -, hp, -⟩ := ht a ha
        have hp := (Arena.get?_destroy s.playerActors a a).symm.trans hp
        rw [if_pos rfl] at hp
        cases hp
    · rintro ⟨hP, hspare⟩ a ha
      obtain ⟨k, p, hka, hp, hm⟩ := hP a ha
      have hab : a ≠ b := fun hab => hspare hw a ha (hab ▸ hk)
      have hne : k ≠ objectId := fun hne => hspare hw a ha (hne ▸ hka)
      exact ⟨k, p, (s.players.lookup_remove_of_ne hne).trans hka,
        (Arena.get?_destroy _ _ _).trans ((if_neg hab).trans hp), hm⟩
  | moved pkt a =>
    have hp := myPlayerTracked_modify s a (fun p => { p with destInfo := pkt.info }) fun _ => rfl
    exact hp.trans (and_iff_left trivial).symm
  | scored pkt a =>
    have hp := myPlayerTracked_modify s a
      (fun p => p.increaseScore pkt.point.toInt64.toInt32) fun _ => rfl
    exact hp.trans (and_iff_left trivial).symm
  | playerFailed | enemyFailed | enemySpawned | enemyDespawned | aiApplied | characterSet =>
    exact (and_iff_left trivial).symm

/-- An `S_ENTER_GAME` never loses the pointer. -/
theorem Performed.myPlayerTracked_enter {info : ObjectInfo R}
    (h : Performed E s (.spawnPlayer info true) t) (hP : s.MyPlayerTracked) :
    t.MyPlayerTracked := by
  cases h with
  | skipped => exact hP
  | playerFailed => exact hP
  | playerSpawned _ _ place =>
    intro a ha
    obtain rfl := Option.some.inj ha
    exact ⟨info.objectId, _, s.players.lookup_add_self _ _, s.playerActors.get?_spawn_next _, rfl⟩

theorem Moved.myPlayerTracked {n : Int32} (m : Moved E s n t) (hs : s.WellFormed)
    (hP : s.MyPlayerTracked) : t.MyPlayerTracked := by
  obtain ⟨hmine, hp⟩ := derefMyPlayer_eq_ok.mp (m.derefMyPlayer hs.keyed)
  obtain ⟨k, p, hk, hp', hm⟩ := hP m.mine hmine
  obtain rfl := Option.some.inj (hp.symm.trans hp')
  have hkey : playerKey m.minePlayer = k := by
    obtain ⟨q, hq, hkey⟩ := hs.players k m.mine hk
    rwa [Option.some.inj (hp.symm.trans hq)]
  intro a ha
  obtain rfl : m.mine = a := by
    rw [m.result] at ha
    exact Option.some.inj (m.myPlayer.symm.trans ha)
  refine ⟨k, m.minePlayer.setMapNumber n, ?_, ?_, hm⟩
  · rw [m.lookup_players hs.keyed, if_neg (fun h => h.2.2 (by rw [hkey])), hk]
  · have hget : t.playerActors.get? m.mine =
        (m.mid₂.playerActors.modify m.mine fun p => p.setMapNumber n).get? m.mine :=
      (congrArg (fun u => u.playerActors.get? m.mine) m.result)
    rw [hget, Arena.get?_modify, if_pos rfl, m.live]
    rfl

/-- **One operation.** -/
theorem step_myPlayerTracked_iff {op : Op R} (hs : s.WellFormed) (hP : s.MyPlayerTracked)
    (h : s.step E op = .ok t) : t.MyPlayerTracked ↔ s.KeepsMyPlayer E op := by
  cases op with
  | packet pkt =>
    have h : s.dispatch E pkt = .ok t := h
    by_cases henter : ∃ p, pkt = .S_ENTER_GAME p
    · obtain ⟨p, rfl⟩ := henter
      have hspawn : Performed E s (.spawnPlayer p.player true) t := dispatch_cases rfl h
      exact ⟨fun _ _ _ => ⟨trivial, trivial⟩, fun _ => hspawn.myPlayerTracked_enter hP⟩
    · rw [dispatch_eq_run] at h
      refine (Steps.run_iff_meets (fun _ _ _ hs h => (perform_cases h).wellFormed hs)
        (fun s e he t hs h => (perform_cases h).myPlayerTracked_iff hs ?_) hs h).trans
        (and_iff_right hP)
      rintro info rfl
      exact henter (ServerPacket.enters_of_mem_effects he)
  | moveMap n =>
    obtain ⟨m⟩ := moveMap_cases h
    exact ⟨fun _ => trivial, fun _ => m.myPlayerTracked hs hP⟩
  | disconnectFromGameServer =>
    obtain rfl : s.disconnectFromGameServer = t := Except.ok.inj h
    unfold disconnectFromGameServer
    cases hc : s.connected with
    | false => exact ⟨fun _ h => absurd (hc.symm.trans h) Bool.false_ne_true, fun _ => hP⟩
    | true =>
      obtain ⟨g, hg, -⟩ := s.sendPacket_eq .C_LEAVE_GAME
      rw [hg]
      constructor
      · intro ht _
        apply Option.eq_none_iff_forall_ne_some.mpr
        intro a ha
        obtain ⟨k, p, hk, -⟩ := ht a ha
        cases hk
      · intro hm a ha
        exact absurd ((hm hc).symm.trans ha) (by simp)

/-- **`MyPlayer` is sound throughout a run exactly when no operation of the run
drops the local player.** -/
theorem myPlayer_tracked_iff {ops : List (Op R)} (h0 : s.Initial) :
    Steps.Throughout (step E) (fun t => t.MyPlayerTracked ∧ t.NeverDangles) s ops ↔
      Steps.Meets (step E) (KeepsMyPlayer E) s ops := by
  have hP := h0.myPlayerTracked
  refine Steps.throughout_iff_meets (fun _ _ _ hs h => step_wellFormed hs h) ?_ h0.wellFormed
    ⟨hP, hP.neverDangles h0.wellFormed⟩
  intro s op t hs hP h
  rw [← step_myPlayerTracked_iff hs hP.1 h]
  exact and_iff_left_of_imp fun ht => ht.neverDangles (step_wellFormed hs h)

/-- The law on a run that enters as 7 and despawns another player. -/
theorem myPlayer_tracked_iff_despawn_other :
    Steps.Throughout (step (.obliging Int false)) (fun t => t.MyPlayerTracked ∧ t.NeverDangles)
        (started Int)
        [.packet (.S_ENTER_GAME ⟨true, some (.named .player 7 7)⟩),
          .packet (.S_SPAWN ⟨[.named .player 8 8]⟩), .packet (.S_DESPAWN ⟨[.named .player 8 8]⟩)] ↔
      Steps.Meets (step (.obliging Int false)) (KeepsMyPlayer (.obliging Int false)) (started Int)
        [.packet (.S_ENTER_GAME ⟨true, some (.named .player 7 7)⟩),
          .packet (.S_SPAWN ⟨[.named .player 8 8]⟩),
          .packet (.S_DESPAWN ⟨[.named .player 8 8]⟩)] :=
  myPlayer_tracked_iff (started_initial Int)

/-- **`MyPlayer` does not always point to a tracked actor**: an `S_DESPAWN` of the
local player's id destroys the actor and keeps the pointer. -/
theorem not_always_myPlayerTracked :
    ¬∀ (E : Engine Int) (s t : US1GameInstance Int) (ops : List (Op Int)), s.Initial →
      Steps.run (step E) s ops = .ok t → t.MyPlayerTracked := by
  intro h
  have ht := h (.obliging Int false) (started Int) _
    [.packet (.S_ENTER_GAME ⟨true, some (.named .player 7 7)⟩),
      .packet (.S_DESPAWN ⟨[.named .player 7 7]⟩)] (started_initial Int) rfl
  obtain ⟨k, p, -, hp, -⟩ := ht 0 rfl
  cases hp

/-! ## Entering the game -/

/-- `MyPlayer` is the tracked actor under `objectId`, carries that id, and is the
only tracked player with `IsMine` set. -/
def LocalPlayerIs (s : US1GameInstance R) (objectId : UInt64) : Prop :=
  ∃ a q, s.myPlayer = some a ∧ s.playerActors.get? a = some q ∧ q.isMine = true ∧
    q.objectInfo.objectId = objectId ∧ s.players.lookup objectId = some a ∧
    ∀ k b r, s.players.lookup k = some b → s.playerActors.get? b = some r → r.isMine = true → b = a

/-- When an `S_ENTER_GAME` for `objectId` can establish the local player: the id is
not tracked and no tracked player has `IsMine` set, or its actor is `MyPlayer`
already and no other tracked player has it set. -/
def CanEnter (s : US1GameInstance R) (objectId : UInt64) : Prop :=
  match s.players.lookup objectId with
  | none => ∀ k b r, s.players.lookup k = some b → s.playerActors.get? b = some r → r.isMine = false
  | some a => s.myPlayer = some a ∧
      ∀ k b r, s.players.lookup k = some b → s.playerActors.get? b = some r → r.isMine = true → b = a

omit [Zero R] in
/-- An id that is tracked already: the packet does nothing. -/
theorem WellFormed.localPlayerIs_iff_of_tracked (hs : s.WellFormed) {objectId : UInt64}
    {a : ActorRef} (hk : s.players.lookup objectId = some a) :
    s.LocalPlayerIs objectId ↔ s.CanEnter objectId := by
  unfold CanEnter
  rw [hk]
  constructor
  · rintro ⟨b, q, hm, -, -, -, hkb, honly⟩
    obtain rfl := Option.some.inj (hk.symm.trans hkb)
    exact ⟨hm, honly⟩
  · rintro ⟨hm, honly⟩
    obtain ⟨q, hq, hid⟩ := hs.players objectId a hk
    exact ⟨a, q, hm, hq, hs.myPlayer_isMine a q hm hq, hid, hk, honly⟩

/-- An id that is not tracked yet: the packet spawns, and leaves every tracked
player as it is. -/
theorem localPlayerIs_iff_of_spawn {info : ObjectInfo R}
    (hk : s.players.lookup info.objectId = none) (hw : s.inWorld = true) {place : Placement R}
    (hplace : E.spawnActor s.spawnCalls (myPlayerClass info.playerType) info.posInfo.location =
      some place) (h : Performed E s (.spawnPlayer info true) t) :
    t.LocalPlayerIs info.objectId ↔ s.CanEnter info.objectId := by
  unfold CanEnter
  rw [hk]
  cases h with
  | skipped _ hskip =>
    rcases hskip with hw' | hk'
    · exact absurd (hw.symm.trans hw') Bool.false_ne_true.symm
    · exact absurd hk hk'
  | playerFailed _ _ _ _ hfail => exact absurd (hplace.symm.trans hfail) (by simp)
  | playerSpawned _ _ place' _ _ _ =>
    constructor
    · -- a tracked player with `IsMine` set stays, next to the new one
      rintro ⟨a, q, hm, -, -, -, -, honly⟩ k b r hkb hr
      obtain rfl := Option.some.inj hm
      have hkne : k ≠ info.objectId := fun hkne => by
        rw [hkne, hk] at hkb
        cases hkb
      have hbne : b ≠ s.playerActors.next := Nat.ne_of_lt (Arena.lt_next hr)
      cases hmine : r.isMine with
      | false => rfl
      | true =>
        exact absurd (honly k b r ((s.players.lookup_add_of_ne _ hkne).trans hkb)
          ((Arena.get?_spawn ..).trans ((if_neg hbne).trans hr)) hmine) hbne
    · intro hnone
      refine ⟨s.playerActors.next, _, rfl, s.playerActors.get?_spawn_next _, rfl, rfl,
        s.players.lookup_add_self _ _, fun k b r hkb hr hmine => ?_⟩
      by_contra hbne
      have hr := (Arena.get?_spawn ..).symm.trans hr
      rw [if_neg hbne] at hr
      have hkb := (SlotMap.lookup_add ..).symm.trans hkb
      split at hkb
      · exact hbne (Option.some.inj hkb).symm
      · exact absurd (hmine.symm.trans (hnone k b r hkb hr)) Bool.false_ne_true.symm

/-- **An `S_ENTER_GAME` establishes the local player exactly when its id is
untracked and there is no local player, or it is the local player's.** -/
theorem enterGame_iff {s₀ : US1GameInstance R} {ops : List (Op R)} (h0 : s₀.Initial)
    (hrun : Steps.run (step E) s₀ ops = .ok s) (hw : s.inWorld = true) (pkt : S_ENTER_GAME R)
    {place : Placement R} (hplace : E.spawnActor s.spawnCalls
      (myPlayerClass pkt.player.playerType) pkt.player.posInfo.location = some place) :
    ∃ t, s.dispatch E (.S_ENTER_GAME pkt) = .ok t ∧
      (t.LocalPlayerIs pkt.player.objectId ↔ s.CanEnter pkt.player.objectId) := by
  have hs := run_wellFormed h0.wellFormed hrun
  have hcannot : CannotFault E s (.spawnPlayer pkt.player true) := trivial
  obtain ⟨t, ht⟩ := hs.perform_total hcannot
  refine ⟨t, (dispatch_eq_run E s _).trans (Steps.run_singleton.trans ht), ?_⟩
  have hp := perform_cases ht
  -- `SpawnPlayer` returns early if the id is tracked, whoever is tracked under it
  cases hk : s.players.lookup pkt.player.objectId with
  | none => exact localPlayerIs_iff_of_spawn hk hw hplace hp
  | some a =>
    have hts : t = s := by
      cases hp with
      | skipped => rfl
      | playerFailed _ _ _ hk' => exact absurd (hk.symm.trans hk') (by simp)
      | playerSpawned _ _ _ _ hk' => exact absurd (hk.symm.trans hk') (by simp)
    rw [hts]
    exact hs.localPlayerIs_iff_of_tracked hk

/-- The law where player 8 is there already: 7 can enter, 8 cannot. -/
theorem enterGame_iff_after_spawn :
    ∃ s t u, Steps.run (step (.obliging Int false)) (started Int)
        [.packet (.S_SPAWN ⟨[.named .player 8 8, .named .enemy 9 9]⟩)] = .ok s ∧
      s.dispatch (.obliging Int false) (.S_ENTER_GAME ⟨true, some (.named .player 7 7)⟩) = .ok t ∧
      t.LocalPlayerIs 7 ∧
      s.dispatch (.obliging Int false) (.S_ENTER_GAME ⟨true, some (.named .player 8 8)⟩) = .ok u ∧
      ¬u.LocalPlayerIs 8 := by
  have hrun : Steps.run (step (.obliging Int false)) (started Int)
      [.packet (.S_SPAWN ⟨[.named .player 8 8, .named .enemy 9 9]⟩)] = .ok _ := rfl
  obtain ⟨t, ht, hseven⟩ := enterGame_iff (started_initial Int) hrun rfl
    ⟨true, some (.named .player 7 7)⟩ rfl
  obtain ⟨u, hu, height⟩ := enterGame_iff (started_initial Int) hrun rfl
    ⟨true, some (.named .player 8 8)⟩ rfl
  refine ⟨_, t, u, hrun, ht, hseven.mpr ?_, hu, fun h => ?_⟩
  · show ∀ k b (r : AS1Player Int), _ = some b → _ = some r → r.isMine = false
    intro k b r hk hr
    -- the only player there is actor 0, who is not local
    have hone : (k, b) = (8, 0) := List.mem_singleton.mp (SlotMap.mem_entries.mpr hk)
    obtain ⟨rfl, rfl⟩ := Prod.mk.inj hone
    obtain rfl := Option.some.inj hr
    rfl
  · obtain ⟨hm, -⟩ := height.mp h
    cases hm

/-- **An `S_ENTER_GAME` does not always establish the local player**: if an
`S_SPAWN` announced the id first, its remote copy stays and `MyPlayer` stays
null. -/
theorem not_always_localPlayerIs :
    ¬∀ (E : Engine Int) (s₀ s t : US1GameInstance Int) (ops : List (Op Int))
      (pkt : S_ENTER_GAME Int) (place : Placement Int), s₀.Initial →
      Steps.run (step E) s₀ ops = .ok s → s.inWorld = true →
      E.spawnActor s.spawnCalls (myPlayerClass pkt.player.playerType)
        pkt.player.posInfo.location = some place →
      s.dispatch E (.S_ENTER_GAME pkt) = .ok t → t.LocalPlayerIs pkt.player.objectId := by
  intro h
  obtain ⟨a, q, hm, -⟩ := h (.obliging Int false) (started Int) _ _
    [.packet (.S_SPAWN ⟨[.named .player 7 7]⟩)] ⟨true, some (.named .player 7 7)⟩ _
    (started_initial Int) rfl rfl rfl rfl
  cases hm

end US1GameInstance
end S1Client
