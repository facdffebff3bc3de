import S1Client.Faults
import S1Client.Presence

/-!
# The tracked world, read off the log

What the maps hold is a function of the packets processed, one id at a time.  A
player is tracked from the first spawn of its id, local or remote, to the next
despawn; spawns in between change nothing.  An enemy is tracked from a spawn that
finds no player under its id; here a later spawn replaces the actor.  The moves
and AI packets for the id since then are all that changes the actor.
-/
namespace S1Client
variable {R : Type}

/-! ## Reading the log -/

/-- The log has a player spawn item for `k` and no despawn of it after that. -/
def PlayerOpen (k : UInt64) : List (Effect R) → Prop :=
  Logs.Open (fun _ e => SpawnsPlayer k e) (· = .despawnPlayer k)

/-- An enemy spawn item for `k`, read when no player is tracked under `k`. -/
def SpawnsEnemyAt (k : UInt64) (pre : List (Effect R)) (e : Effect R) : Prop :=
  SpawnsEnemy k e ∧ ¬PlayerOpen k pre

/-- The log has such an item and no despawn of the enemy after that. -/
def EnemyOpen (k : UInt64) : List (Effect R) → Prop :=
  Logs.Open (SpawnsEnemyAt k) (· = .despawnEnemy k)

/-- The position in an `S_MOVE` for `k`. -/
def moveFor [Zero R] (k : UInt64) : Effect R → Option (PosInfo R)
  | .move pkt => if pkt.info.objectId = k then some pkt.info else none
  | _ => none

/-- An `S_AI` for `k`. -/
def aiFor (k : UInt64) : Effect R → Option (S_AI R)
  | .enemyAi pkt => if pkt.objectId = k then some pkt else none
  | _ => none

/-- The state a number with a name stands for. -/
def ProtoAiState.named? : ProtoAiState → Option AiState
  | .none => some .none
  | .idle => some .idle
  | .move => some .move
  | .attack => some .attack
  | .runaway => some .runaway
  | .unrecognized _ => Option.none

/-- The state an `S_AI` sets, if it sets one. -/
def S_AI.namedState (pkt : S_AI R) : Option AiState := pkt.state.named?

/-- The packets about objects. -/
def ServerPacket.OfObjects : ServerPacket R → Prop
  | .S_ENTER_GAME _ | .S_SPAWN _ | .S_DESPAWN _ | .S_MOVE _ | .S_AI _ => True
  | _ => False

namespace US1GameInstance

/-- Nothing is tracked. -/
def MapsEmpty (s : US1GameInstance R) : Prop :=
  ∀ k, s.players.lookup k = none ∧ s.enemys.lookup k = none

/-- The destination of a player that nothing has moved: where the engine put it, and the
rotation it had there. -/
def spawnedDest [Zero R] (place : Placement R) : PosInfo R where
  objectId := 0
  x := place.location.x
  y := place.location.y
  z := place.location.z
  yaw := place.yaw
  pitch := place.pitch
  state := .none
  unknownFields := []

/-- A spawned enemy after the `S_AI`s for it: the last target, the last state that
has a name. -/
def spawnedEnemy [Zero R] (info : ObjectInfo R) (ais : List (S_AI R)) : AS1Enemy R where
  objectInfo := info
  targetLocation := (ais.map fun pkt => pkt.targetLocation.location).getLastD ⟨0, 0, 0⟩
  moveState := (ais.filterMap S_AI.namedState).getLastD .none

/-- **What `Players` and `Enemys` hold under `k` after the effects `log`.** -/
structure History [Zero R] (E : Engine R) (s : US1GameInstance R) (log : List (Effect R))
    (t : US1GameInstance R) (k : UInt64) : Prop where
  player_tracked : t.players.lookup k ≠ none ↔ PlayerOpen k log
  /-- The tracked player is the actor of the first spawn since `k` was last
  untracked. -/
  player : ∀ a, t.players.lookup k = some a → ∃ pre info isMine post u place p,
    Logs.OpenedBy (fun _ e => SpawnsPlayer k e) (· = .despawnPlayer k) log
      pre (.spawnPlayer info isMine) post ∧
    Steps.run (perform E) s pre = .ok u ∧ a = u.playerActors.next ∧
    E.spawnActor u.spawnCalls (playerClass isMine info.playerType) info.posInfo.location =
      some place ∧
    t.playerActors.get? a = some p ∧ p.objectInfo = info ∧ p.isMine = isMine ∧
    (isMine = false →
      p.destInfo = (post.filterMap (moveFor k)).getLastD (spawnedDest place))
  enemy_tracked : t.enemys.lookup k ≠ none ↔ EnemyOpen k log
  /-- The tracked enemy is the actor of the last spawn. -/
  enemy : ∀ a, t.enemys.lookup k = some a → ∃ pre info post u,
    Logs.LastOpenedBy (SpawnsEnemyAt k) (· = .despawnEnemy k) log pre (.spawnEnemy info) post ∧
    Steps.run (perform E) s pre = .ok u ∧ a = u.enemyActors.next ∧
    t.enemyActors.get? a = some (spawnedEnemy info (post.filterMap (aiFor k)))

variable [Zero R] {E : Engine R} {s t : US1GameInstance R}

/-! ## Which ids are tracked -/

omit [Zero R] in
private theorem playerThere_false {k : UInt64} {log : List (Effect R)} :
    PlayerThere k False log ↔ PlayerOpen k log := by
  simp [PlayerThere, PlayerOpen, Logs.OpenFrom]

omit [Zero R] in
private theorem enemyThere_false {k : UInt64} {log : List (Effect R)} :
    EnemyThere k False False log ↔ EnemyOpen k log := by
  simp only [EnemyThere, Logs.OpenFrom, playerThere_false, false_and, or_false]
  rfl

/-- **Tracked means open.** -/
theorem run_perform_open {log : List (Effect R)} (h0 : s.MapsEmpty) (hw : s.inWorld = true)
    (hE : E.SpawnsAll) (h : Steps.run (perform E) s log = .ok t) (k : UInt64) :
    (t.players.lookup k ≠ none ↔ PlayerOpen k log) ∧
      (t.enemys.lookup k ≠ none ↔ EnemyOpen k log) := by
  have hs : s.present k = (false, false) := by
    rw [present, (h0 k).1, (h0 k).2]
    rfl
  have ht := run_perform_present hE hw h k
  rw [hs] at ht
  obtain ⟨hp, he⟩ := foldl_presentAfter k (false, false) log
  rw [← ht] at hp he
  simp only [Bool.false_eq_true, playerThere_false, enemyThere_false] at hp he
  exact ⟨Option.isSome_iff_ne_none.symm.trans hp, Option.isSome_iff_ne_none.symm.trans he⟩

/-! ## A tracked actor until its despawn -/

/-- A player changed in place, seen from a reference to any player. -/
private theorem get?_modify_some {α : Type} {h : Arena α} {a b : ActorRef} {v : α} (f : α → α)
    (hv : h.get? a = some v) :
    (h.modify b f).get? a = some (if a = b then f v else v) := by
  rw [Arena.get?_modify, hv]
  split <;> rfl

/-- **One effect** other than its despawn changes nothing of a tracked player but
the destination, if it is remote, and the score. -/
theorem Performed.player_frame {e : Effect R} (h : Performed E s e t) (hs : s.WellFormed)
    (hw : s.inWorld = true) {k : UInt64} {a : ActorRef} {p : AS1Player R}
    (hk : s.players.lookup k = some a) (hp : s.playerActors.get? a = some p)
    (he : ¬e = .despawnPlayer k) :
    t.players.lookup k = some a ∧ ∃ q, t.playerActors.get? a = some q ∧
      q = { p with
        score := q.score
        destInfo := if p.isMine then p.destInfo else (moveFor k e).getD p.destInfo } := by
  have hin : ¬s.inWorld = false := by simp [hw]
  have hlt : a ≠ s.playerActors.next := Nat.ne_of_lt (Arena.lt_next hp)
  have hself : p = { p with
      score := p.score
      destInfo := if p.isMine then p.destInfo else p.destInfo } := by
    rw [ite_self]
  cases h with
  | skipped e hskip =>
    refine ⟨hk, p, hp, ?_⟩
    cases e with
    | move pkt =>
      -- a move for `k` that does nothing found a local player
      by_cases hkey : pkt.info.objectId = k
      · rcases hskip.resolve_left hin with hnone | ⟨b, q, hb, hq, hm⟩
        · rw [hkey, hk] at hnone
          cases hnone
        · rw [hkey, hk] at hb
          obtain rfl := Option.some.inj hb
          rw [hp] at hq
          obtain rfl := Option.some.inj hq
          rw [if_pos hm]
      · simp [moveFor, hkey]
    | _ => exact hself
  | playerSpawned info isMine place _ hfree =>
    have hkey : k ≠ info.objectId := fun hkey => by
      rw [hkey, hfree] at hk
      cases hk
    exact ⟨(s.players.lookup_add_of_ne _ hkey).trans hk, p,
      (Arena.get?_spawn ..).trans ((if_neg hlt).trans hp), hself⟩
  | playerDespawned objectId b _ hb =>
    have hkey : k ≠ objectId := fun hkey => he (by rw [hkey])
    have hab : a ≠ b := fun hab => hkey (hs.players.key_unique hk (hab ▸ hb))
    exact ⟨(s.players.lookup_remove_of_ne hkey).trans hk, p,
      (Arena.get?_destroy ..).trans ((if_neg hab).trans hp), hself⟩
  | moved pkt b q _ hb hq hm =>
    refine ⟨hk, _, get?_modify_some _ hp, ?_⟩
    by_cases hab : a = b
    · subst hab
      obtain rfl := Option.some.inj (hp.symm.trans hq)
      have hkey : pkt.info.objectId = k := hs.players.key_unique hb hk
      simp [moveFor, hkey, hm]
    · have hkey : ¬pkt.info.objectId = k := fun hkey => by
        rw [hkey, hk] at hb
        exact hab (Option.some.inj hb)
      simp [moveFor, hkey, hab]
  | scored pkt b =>
    refine ⟨hk, _, get?_modify_some _ hp, ?_⟩
    by_cases hab : a = b
    · simp [moveFor, hab, AS1Player.increaseScore]
    · simp [moveFor, hab]
  | playerFailed | enemyFailed | enemySpawned | enemyDespawned | aiApplied | characterSet =>
    exact ⟨hk, p, hp, hself⟩

/-- **One effect** other than its despawn or its replacement changes a tracked
enemy if it is an `S_AI` for it. -/
theorem Performed.enemy_frame {e : Effect R} (h : Performed E s e t) (hs : s.WellFormed)
    (hw : s.inWorld = true) {k : UInt64} {a : ActorRef} {d : AS1Enemy R}
    (hk : s.enemys.lookup k = some a) (hd : s.enemyActors.get? a = some d)
    (he : ¬e = .despawnEnemy k) (hsp : ¬(SpawnsEnemy k e ∧ s.players.lookup k = none)) :
    t.enemys.lookup k = some a ∧
      t.enemyActors.get? a = some ((aiFor k e).toList.foldl (fun d pkt => applyAi pkt d) d) := by
  have hin : ¬s.inWorld = false := by simp [hw]
  have hlt : a ≠ s.enemyActors.next := Nat.ne_of_lt (Arena.lt_next hd)
  cases h with
  | skipped e hskip =>
    refine ⟨hk, ?_⟩
    cases e with
    | enemyAi pkt =>
      by_cases hkey : pkt.objectId = k
      · have hnone : s.enemys.lookup pkt.objectId = none := hskip.resolve_left hin
        rw [hkey, hk] at hnone
        cases hnone
      · simpa [aiFor, hkey] using hd
    | _ => exact hd
  | enemySpawned info place _ hfree =>
    have hkey : k ≠ info.objectId := fun hkey => hsp ⟨⟨info, rfl, hkey.symm⟩, hkey ▸ hfree⟩
    exact ⟨(s.enemys.lookup_add_of_ne _ hkey).trans hk,
      (Arena.get?_spawn ..).trans ((if_neg hlt).trans hd)⟩
  | enemyDespawned objectId b _ hb =>
    have hkey : k ≠ objectId := fun hkey => he (by rw [hkey])
    have hab : a ≠ b := fun hab => hkey (hs.enemys.key_unique hk (hab ▸ hb))
    exact ⟨(s.enemys.lookup_remove_of_ne hkey).trans hk,
      (Arena.get?_destroy ..).trans ((if_neg hab).trans hd)⟩
  | aiApplied pkt b _ hb =>
    refine ⟨hk, (get?_modify_some _ hd).trans ?_⟩
    by_cases hab : a = b
    · subst hab
      have hkey : pkt.objectId = k := hs.enemys.key_unique hb hk
      simp [aiFor, hkey]
    · have hkey : ¬pkt.objectId = k := fun hkey => by
        rw [hkey, hk] at hb
        exact hab (Option.some.inj hb)
      simp [aiFor, hkey, hab]
  | playerFailed | playerSpawned | enemyFailed | playerDespawned | moved | scored | characterSet =>
    exact ⟨hk, hd⟩

theorem run_player_frame {post : List (Effect R)} (hs : s.WellFormed) (hw : s.inWorld = true)
    {k : UInt64} {a : ActorRef} {p : AS1Player R} (hk : s.players.lookup k = some a)
    (hp : s.playerActors.get? a = some p) (hpost : ∀ e ∈ post, ¬e = .despawnPlayer k)
    (h : Steps.run (perform E) s post = .ok t) :
    t.players.lookup k = some a ∧ ∃ q, t.playerActors.get? a = some q ∧
      q.objectInfo = p.objectInfo ∧ q.isMine = p.isMine ∧ (p.isMine = false →
        q.destInfo = post.foldl (fun dest e => (moveFor k e).getD dest) p.destInfo) := by
  induction post generalizing s p with
  | nil =>
    obtain rfl := Except.ok.inj h
    exact ⟨hk, p, hp, rfl, rfl, fun _ => rfl⟩
  | cons e post ih =>
    obtain ⟨u, hu, ht⟩ := Steps.run_cons.mp h
    have hu := perform_cases hu
    obtain ⟨hk, q, hq, heq⟩ := hu.player_frame hs hw hk hp (hpost e List.mem_cons_self)
    obtain ⟨hk, r, hr, ho, hm, hd⟩ := ih (hu.wellFormed hs) (hu.inWorld_eq.trans hw) hk hq
      (fun e' he' => hpost e' (List.mem_cons_of_mem e he')) ht
    have hqo : q.objectInfo = p.objectInfo := by rw [heq]
    have hqm : q.isMine = p.isMine := by rw [heq]
    refine ⟨hk, r, hr, ho.trans hqo, hm.trans hqm, fun hremote => ?_⟩
    have hqd : q.destInfo = (moveFor k e).getD p.destInfo := by
      rw [heq]
      simp [hremote]
    rw [hd (hqm.trans hremote), hqd, List.foldl_cons]

/-- The enemy spawned last stays, and the `S_AI`s for it are applied in order. -/
theorem run_enemy_frame {s₀ : US1GameInstance R} {pre post : List (Effect R)} {e : Effect R}
    (h0 : s₀.MapsEmpty) (hw₀ : s₀.inWorld = true) (hE : E.SpawnsAll)
    (hpre : Steps.run (perform E) s₀ (pre ++ [e]) = .ok s) (hs : s.WellFormed) {k : UInt64}
    {a : ActorRef} {d : AS1Enemy R} (hk : s.enemys.lookup k = some a)
    (hd : s.enemyActors.get? a = some d) (hpost : ∀ e ∈ post, ¬e = .despawnEnemy k)
    (hlast : ∀ post₁ x post₂, post = post₁ ++ x :: post₂ → ¬SpawnsEnemyAt k (pre ++ e :: post₁) x)
    (h : Steps.run (perform E) s post = .ok t) :
    t.enemys.lookup k = some a ∧ t.enemyActors.get? a =
      some ((post.filterMap (aiFor k)).foldl (fun d pkt => applyAi pkt d) d) := by
  induction post using List.reverseRecOn generalizing t with
  | nil =>
    obtain rfl := Except.ok.inj h
    exact ⟨hk, hd⟩
  | append_singleton post y ih =>
    obtain ⟨u, hu, hy⟩ := Steps.run_append.mp h
    have hy := perform_cases (Steps.run_singleton.symm.trans hy)
    obtain ⟨hku, hdu⟩ := ih (fun x hx => hpost x (by simp [hx]))
      (fun post₁ x post₂ hsplit => hlast post₁ x (post₂ ++ [y]) (by simp [hsplit])) hu
    have hrun : Steps.run (perform E) s₀ (pre ++ e :: post) = .ok u := by
      rw [List.append_cons]
      exact Steps.run_append.mpr ⟨s, hpre, hu⟩
    -- whether the last item spawns is decided by the players the log leaves open
    have hsp : ¬(SpawnsEnemy k y ∧ u.players.lookup k = none) := by
      rintro ⟨hspawn, hnone⟩
      refine hlast post y [] rfl ⟨hspawn, fun hopen => ?_⟩
      exact (run_perform_open h0 hw₀ hE hrun k).1.mpr hopen hnone
    obtain ⟨hkt, hdt⟩ := hy.enemy_frame (run_perform_wellFormed hs hu)
      (run_perform_inWorld hw₀ hrun) hku hdu (hpost y (by simp)) hsp
    refine ⟨hkt, hdt.trans ?_⟩
    rw [List.filterMap_append, List.foldl_append]
    cases hai : aiFor k y <;> simp [hai]

omit [Zero R] in
theorem setAiState_eq (e : AS1Enemy R) (state : ProtoAiState) :
    setAiState e state = { e with moveState := state.named?.getD e.moveState } := by
  cases state <;> rfl

/-- The `S_AI`s for an enemy, applied in order: the last target and the last state
with a name count. -/
theorem foldl_applyAi (info : ObjectInfo R) (ais : List (S_AI R)) :
    ais.foldl (fun d pkt => applyAi pkt d) { AS1Enemy.construct with objectInfo := info } =
      spawnedEnemy info ais := by
  have hgen : ∀ (ais : List (S_AI R)) (d : AS1Enemy R),
      ais.foldl (fun d pkt => applyAi pkt d) d =
        { objectInfo := d.objectInfo
          targetLocation :=
            (ais.map fun pkt => pkt.targetLocation.location).getLastD d.targetLocation
          moveState := (ais.filterMap S_AI.namedState).getLastD d.moveState } := by
    intro ais
    induction ais with
    | nil => exact fun d => rfl
    | cons pkt ais ih =>
      intro d
      have happly : applyAi pkt d =
          { d with
            targetLocation := pkt.targetLocation.location
            moveState := pkt.namedState.getD d.moveState } := setAiState_eq _ _
      rw [List.foldl_cons, ih, List.map_cons, List.getLastD_cons, happly]
      cases hst : pkt.namedState with
      | none => rw [List.filterMap_cons_none hst]; rfl
      | some state => rw [List.filterMap_cons_some hst, List.getLastD_cons]; rfl
  exact hgen ais _

/-! ## The law -/

theorem run_perform_player {log : List (Effect R)} (h0 : s.MapsEmpty) (hs : s.WellFormed)
    (hw : s.inWorld = true) (hE : E.SpawnsAll) (h : Steps.run (perform E) s log = .ok t)
    {k : UInt64} (hopen : PlayerOpen k log) : ∃ pre info isMine post u place p,
      Logs.OpenedBy (fun _ e => SpawnsPlayer k e) (· = .despawnPlayer k) log
        pre (.spawnPlayer info isMine) post ∧
      Steps.run (perform E) s pre = .ok u ∧ t.players.lookup k = some u.playerActors.next ∧
      E.spawnActor u.spawnCalls (playerClass isMine info.playerType) info.posInfo.location =
        some place ∧
      t.playerActors.get? u.playerActors.next = some p ∧ p.objectInfo = info ∧
      p.isMine = isMine ∧ (isMine = false →
        p.destInfo = (post.filterMap (moveFor k)).getLastD (spawnedDest place)) := by
  have hdisj : ∀ (_ : List (Effect R)) (e : Effect R), SpawnsPlayer k e →
      ¬e = .despawnPlayer k := by
    rintro - e ⟨info, isMine, rfl, -⟩ h
    cases h
  obtain ⟨pre, e, post, hby⟩ := hopen.exists_openedBy hdisj
  obtain ⟨info, isMine, rfl, rfl⟩ := hby.opened
  have hrun := hby.split ▸ h
  obtain ⟨u, hu, ht⟩ := Steps.run_append.mp hrun
  obtain ⟨v, hv, ht⟩ := Steps.run_cons.mp ht
  have hwu := run_perform_inWorld hw hu
  -- the log before it was closed, so the spawn found the id free
  have hku : u.players.lookup info.objectId = none :=
    not_not.mp fun hne => hby.before ((run_perform_open h0 hw hE hu _).1.mp hne)
  have hv := perform_cases hv
  have hvw := hv.wellFormed (run_perform_wellFormed hs hu)
  have hvin := hv.inWorld_eq.trans hwu
  cases hv with
  | skipped _ hskip =>
    rcases hskip with hw' | hk
    · exact absurd (hwu.symm.trans hw') Bool.false_ne_true.symm
    · exact absurd hku hk
  | playerFailed _ _ _ _ hfail =>
    exact absurd hfail (hE.ne_none _ _ _)
  | playerSpawned _ _ place _ _ hplace =>
    obtain ⟨hkt, p, hp, ho, hm, hd⟩ := run_player_frame hvw hvin
      (u.players.lookup_add_self info.objectId u.playerActors.next)
      (u.playerActors.get?_spawn_next _) hby.after ht
    refine ⟨pre, info, isMine, post, u, place, p, hby, hu, hkt, hplace, hp, ho, hm, ?_⟩
    rw [← Logs.foldl_getD]
    exact hd

theorem run_perform_enemy {log : List (Effect R)} (h0 : s.MapsEmpty) (hs : s.WellFormed)
    (hw : s.inWorld = true) (hE : E.SpawnsAll) (h : Steps.run (perform E) s log = .ok t)
    {k : UInt64} (hopen : EnemyOpen k log) : ∃ pre info post u,
      Logs.LastOpenedBy (SpawnsEnemyAt k) (· = .despawnEnemy k) log pre (.spawnEnemy info) post ∧
      Steps.run (perform E) s pre = .ok u ∧ t.enemys.lookup k = some u.enemyActors.next ∧
      t.enemyActors.get? u.enemyActors.next =
        some (spawnedEnemy info (post.filterMap (aiFor k))) := by
  obtain ⟨pre, e, post, hby⟩ := Logs.Open.exists_lastOpenedBy hopen
  obtain ⟨⟨info, rfl, rfl⟩, hclosed⟩ := hby.opened
  have hrun := hby.split ▸ h
  obtain ⟨u, hu, ht⟩ := Steps.run_append.mp hrun
  obtain ⟨v, hv, ht⟩ := Steps.run_cons.mp ht
  have hwu := run_perform_inWorld hw hu
  have hku : u.players.lookup info.objectId = none :=
    not_not.mp fun hne => hclosed ((run_perform_open h0 hw hE hu _).1.mp hne)
  have hpre : Steps.run (perform E) s (pre ++ [.spawnEnemy info]) = .ok v :=
    Steps.run_append.mpr ⟨u, hu, Steps.run_singleton.trans hv⟩
  have hvw := run_perform_wellFormed hs hpre
  cases perform_cases hv with
  | skipped _ hskip =>
    rcases hskip with hw' | hk
    · exact absurd (hwu.symm.trans hw') Bool.false_ne_true.symm
    · exact absurd hku hk
  | enemyFailed _ _ _ hfail =>
    exact absurd hfail (hE.ne_none _ _ _)
  | enemySpawned _ place =>
    obtain ⟨hkt, hdt⟩ := run_enemy_frame h0 hw hE hpre hvw
      (u.enemys.lookup_add_self info.objectId u.enemyActors.next)
      (u.enemyActors.get?_spawn_next _) hby.after hby.last ht
    exact ⟨pre, info, post, u, hby, hu, hkt, by rw [hdt, foldl_applyAi]⟩

omit [Zero R] in
/-- A packet about objects has effects that cannot fault. -/
theorem cannotFault_of_mem_effects {pkt : ServerPacket R} (hpkt : pkt.OfObjects)
    (hfreed : E.keepsFreedSlot = true) (hasserts : E.asserts = false) {e : Effect R}
    (he : e ∈ pkt.effects) (s : US1GameInstance R) : CannotFault E s e := by
  cases pkt with
  | S_ENTER_GAME p =>
    obtain rfl := List.mem_singleton.mp he
    trivial
  | S_SPAWN p =>
    obtain ⟨object, -, ⟨-, rfl⟩ | ⟨-, rfl⟩⟩ := S_SPAWN.of_mem_effects he <;> trivial
  | S_DESPAWN p =>
    obtain ⟨object, -, ⟨-, rfl⟩ | ⟨-, rfl⟩⟩ := S_DESPAWN.of_mem_effects he <;> exact hfreed
  | S_MOVE p =>
    obtain rfl := List.mem_singleton.mp he
    exact hasserts
  | S_AI p =>
    obtain rfl := List.mem_singleton.mp he
    trivial
  | _ => exact absurd hpkt id

/-- **The tracked world is a function of the log, id by id.**  The run completes
if a slot just freed still reads as the pointer it held. -/
theorem history_of_run {s₀ : US1GameInstance R} {ops : List (Op R)}
    {packets : List (ServerPacket R)} (h0 : s₀.Initial)
    (hrun : Steps.run (step E) s₀ ops = .ok s) (hempty : s.MapsEmpty) (hw : s.inWorld = true)
    (hE : E.SpawnsAll) (hasserts : E.asserts = false) (hpackets : ∀ pkt ∈ packets, pkt.OfObjects) :
    (E.keepsFreedSlot = true → ∃ t, Steps.run (dispatch E) s packets = .ok t) ∧
      ∀ t, Steps.run (dispatch E) s packets = .ok t →
        ∀ k, History E s (packets.flatMap ServerPacket.effects) t k := by
  have hs := run_wellFormed h0.wellFormed hrun
  rw [Steps.run_flatMap (dispatch_eq_run E)]
  refine ⟨fun hfreed => ?_, fun t ht k => ?_⟩
  · have hstep : ∀ s : US1GameInstance R, ∀ e ∈ packets.flatMap ServerPacket.effects,
        s.WellFormed → ∃ t, s.perform E e = .ok t ∧ t.WellFormed := by
      intro s e he hs
      obtain ⟨pkt, hpkt, he⟩ := List.mem_flatMap.mp he
      obtain ⟨t, ht⟩ := hs.perform_total
        (cannotFault_of_mem_effects (hpackets pkt hpkt) hfreed hasserts he s)
      exact ⟨t, ht, (perform_cases ht).wellFormed hs⟩
    obtain ⟨t, ht, -⟩ := Steps.run_total hstep hs
    exact ⟨t, ht⟩
  · obtain ⟨hplayer, henemy⟩ := run_perform_open hempty hw hE ht k
    refine ⟨hplayer, fun a ha => ?_, henemy, fun a ha => ?_⟩
    · obtain ⟨pre, info, isMine, post, u, place, p, hby, hu, hk, hrest⟩ :=
        run_perform_player hempty hs hw hE ht (hplayer.mp (by rw [ha]; simp))
      exact ⟨pre, info, isMine, post, u, place, p, hby, hu,
        Option.some.inj (ha.symm.trans hk), Option.some.inj (ha.symm.trans hk) ▸ hrest⟩
    · obtain ⟨pre, info, post, u, hby, hu, hk, hd⟩ :=
        run_perform_enemy hempty hs hw hE ht (henemy.mp (by rw [ha]; simp))
      exact ⟨pre, info, post, u, hby, hu, Option.some.inj (ha.symm.trans hk),
        Option.some.inj (ha.symm.trans hk) ▸ hd⟩

/-- The law on a session that spawns an enemy, moves it, and spawns it again. -/
theorem history_of_run_respawn :
    ∃ t, Steps.run (dispatch (.obliging Int false)) (started Int)
        [.S_SPAWN ⟨[.named .enemy 7 7]⟩, .S_AI ⟨7, .move, none⟩, .S_SPAWN ⟨[.named .enemy 7 7]⟩] =
          .ok t ∧
      ∀ k, History (.obliging Int false) (started Int)
        (List.flatMap ServerPacket.effects [.S_SPAWN ⟨[.named .enemy 7 7]⟩,
          .S_AI ⟨7, .move, none⟩, .S_SPAWN ⟨[.named .enemy 7 7]⟩]) t k := by
  have hpackets : ∀ pkt ∈ ([.S_SPAWN ⟨[.named .enemy 7 7]⟩, .S_AI ⟨7, .move, none⟩,
      .S_SPAWN ⟨[.named .enemy 7 7]⟩] : List (ServerPacket Int)), pkt.OfObjects := by
    simp [ServerPacket.OfObjects]
  have h := history_of_run (started_initial Int) (Steps.run_nil (started Int))
    (fun _ => ⟨rfl, rfl⟩) rfl (Engine.obliging_spawnsAll Int false) rfl hpackets
  obtain ⟨t, ht⟩ := h.1 rfl
  exact ⟨t, ht, h.2 t ht⟩

end US1GameInstance
end S1Client
