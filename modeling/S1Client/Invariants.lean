import S1Client.Effects

/-!
# What holds in every run

The two maps and the two stores of actors form two registries.  Whatever the
packets and calls, a tracked actor is live and carries the id it is tracked
under, and the local player's actor has `IsMine` set for as long as it lives
(`WellFormed`).  What the later modules prove of a run, they prove over this
invariant.
-/
namespace S1Client
namespace US1GameInstance
open Steps (bind_eq_ok)
variable {R : Type}

/-- The tracked players and all player actors. -/
def playerRegistry (s : US1GameInstance R) : Registry UInt64 (AS1Player R) :=
  ⟨s.players, s.playerActors⟩

/-- The tracked enemies and all enemy actors. -/
def enemyRegistry (s : US1GameInstance R) : Registry UInt64 (AS1Enemy R) :=
  ⟨s.enemys, s.enemyActors⟩

/-- The id a player carries. -/
def playerKey (p : AS1Player R) : UInt64 := p.objectInfo.objectId

/-- The id an enemy carries. -/
def enemyKey (e : AS1Enemy R) : UInt64 := e.objectInfo.objectId

/-- The invariant of every run. -/
structure WellFormed (s : US1GameInstance R) : Prop where
  players : s.playerRegistry.Keyed playerKey
  enemys : s.enemyRegistry.Keyed enemyKey
  myPlayer_lt : ∀ a, s.myPlayer = some a → a < s.playerActors.next
  myPlayer_isMine : ∀ a p, s.myPlayer = some a → s.playerActors.get? a = some p → p.isMine = true

/-- The part of it about the maps: what is tracked is live, under the id it carries. -/
structure Keyed (s : US1GameInstance R) : Prop where
  players : s.playerRegistry.Keyed playerKey
  enemys : s.enemyRegistry.Keyed enemyKey

theorem WellFormed.keyed {s : US1GameInstance R} (h : s.WellFormed) : s.Keyed :=
  ⟨h.players, h.enemys⟩

theorem Initial.wellFormed {s : US1GameInstance R} (h : s.Initial) : s.WellFormed where
  players := by
    rw [playerRegistry, h.players]
    exact Registry.keyed_empty
  enemys := by
    rw [enemyRegistry, h.enemys]
    exact Registry.keyed_empty
  myPlayer_lt := fun a ha => by rw [h.myPlayer] at ha; cases ha
  myPlayer_isMine := fun a _ ha => by rw [h.myPlayer] at ha; cases ha

/-- The part of the invariant about `MyPlayer` is about the actors it can point
to, all of which exist already. -/
private theorem myPlayer_isMine_spawn {s : US1GameInstance R} (hs : s.WellFormed)
    {v : AS1Player R} {a : ActorRef} {p : AS1Player R} (ha : s.myPlayer = some a)
    (hp : (s.playerActors.spawn v).get? a = some p) : p.isMine = true := by
  rw [Arena.get?_spawn, if_neg (Nat.ne_of_lt (hs.myPlayer_lt a ha))] at hp
  exact hs.myPlayer_isMine a p ha hp

private theorem myPlayer_isMine_modify {s : US1GameInstance R} (hs : s.WellFormed)
    {f : AS1Player R → AS1Player R} (hf : ∀ p, (f p).isMine = p.isMine) {a b : ActorRef}
    {p : AS1Player R} (ha : s.myPlayer = some a)
    (hp : (s.playerActors.modify b f).get? a = some p) : p.isMine = true := by
  rw [Arena.get?_modify] at hp
  split at hp
  · obtain ⟨q, hq, rfl⟩ := Option.map_eq_some_iff.mp hp
    rw [hf]
    exact hs.myPlayer_isMine a q ha hq
  · exact hs.myPlayer_isMine a p ha hp

/-- A change of a player in place that keeps its id and its flag. -/
theorem WellFormed.modifyPlayer {s : US1GameInstance R} (hs : s.WellFormed) (a : ActorRef)
    {f : AS1Player R → AS1Player R} (hk : ∀ p, playerKey (f p) = playerKey p)
    (hf : ∀ p, (f p).isMine = p.isMine) :
    WellFormed { s with playerActors := s.playerActors.modify a f } where
  players := hs.players.update a hk
  enemys := hs.enemys
  myPlayer_lt := fun b hb => by
    show b < (s.playerActors.modify a f).next
    rw [Arena.next_modify]
    exact hs.myPlayer_lt b hb
  myPlayer_isMine := fun b p hb hp => myPlayer_isMine_modify hs hf hb hp

variable [Zero R] {E : Engine R} {s t : US1GameInstance R}

theorem Performed.connected_eq {e : Effect R} (h : Performed E s e t) :
    t.connected = s.connected := by
  cases h <;> rfl

theorem Performed.inWorld_eq {e : Effect R} (h : Performed E s e t) : t.inWorld = s.inWorld := by
  cases h <;> rfl

/-- **One effect** keeps every tracked actor live, under its own id. -/
theorem Performed.keyed {e : Effect R} (h : Performed E s e t) (hs : s.Keyed) : t.Keyed := by
  cases h with
  | skipped => exact hs
  | playerFailed | enemyFailed | characterSet => exact ⟨hs.players, hs.enemys⟩
  | playerSpawned => exact ⟨hs.players.track rfl, hs.enemys⟩
  | enemySpawned => exact ⟨hs.players, hs.enemys.track rfl⟩
  | playerDespawned objectId a hw hk =>
    have h := hs.players.untrack objectId
    rw [Registry.untrack_of_lookup hk] at h
    exact ⟨h, hs.enemys⟩
  | enemyDespawned objectId a hw hk =>
    have h := hs.enemys.untrack objectId
    rw [Registry.untrack_of_lookup hk] at h
    exact ⟨hs.players, h⟩
  | moved | scored => exact ⟨hs.players.update _ fun _ => rfl, hs.enemys⟩
  | aiApplied pkt a =>
    refine ⟨hs.players, hs.enemys.update a fun e => ?_⟩
    unfold applyAi setAiState
    cases pkt.state <;> rfl

theorem run_perform_keyed {es : List (Effect R)} (hs : s.Keyed)
    (h : Steps.run (perform E) s es = .ok t) : t.Keyed :=
  Steps.run_invariant (fun _ _ _ hs h => (perform_cases h).keyed hs) hs h

/-- Effects touch neither the connection nor the world. -/
theorem run_perform_guards {es : List (Effect R)} (h : Steps.run (perform E) s es = .ok t) :
    t.connected = s.connected ∧ t.inWorld = s.inWorld := by
  refine Steps.run_invariant (P := fun u => u.connected = s.connected ∧ u.inWorld = s.inWorld)
    (fun u e v hu hv => ?_) ⟨rfl, rfl⟩ h
  have hv := perform_cases hv
  exact ⟨hv.connected_eq.trans hu.1, hv.inWorld_eq.trans hu.2⟩

/-- **One effect keeps the invariant.** -/
theorem Performed.wellFormed {e : Effect R} (h : Performed E s e t) (hs : s.WellFormed) :
    t.WellFormed := by
  have hkeyed := h.keyed hs.keyed
  cases h with
  | skipped | playerFailed | enemyFailed | enemySpawned | enemyDespawned | aiApplied
      | characterSet =>
    exact ⟨hkeyed.players, hkeyed.enemys, hs.myPlayer_lt, hs.myPlayer_isMine⟩
  | playerSpawned info isMine place =>
    refine ⟨hkeyed.players, hkeyed.enemys, fun a ha => ?_, fun a p ha hp => ?_⟩
    · show a < (s.playerActors.spawn _).next
      rw [Arena.next_spawn]
      cases isMine with
      | true =>
        obtain rfl := Option.some.inj ha
        exact Nat.lt_succ_self _
      | false => exact Nat.lt_succ_of_lt (hs.myPlayer_lt a ha)
    · cases isMine with
      | true =>
        -- `MyPlayer` is the actor just spawned
        obtain rfl := Option.some.inj ha
        obtain rfl := Option.some.inj ((Arena.get?_spawn_next _ _).symm.trans hp)
        rfl
      | false => exact myPlayer_isMine_spawn hs ha hp
  | playerDespawned objectId a hw hk =>
    refine ⟨hkeyed.players, hkeyed.enemys, fun b hb => ?_, fun b p hb hp => ?_⟩
    · show b < (s.playerActors.destroy a).next
      rw [Arena.next_destroy]
      exact hs.myPlayer_lt b hb
    · -- `MyPlayer` may point to the actor destroyed; then nothing is claimed of it
      have hp : (s.playerActors.destroy a).get? b = some p := hp
      rw [Arena.get?_destroy] at hp
      split at hp
      · cases hp
      · exact hs.myPlayer_isMine b p hb hp
  | moved | scored => exact hs.modifyPlayer _ (fun _ => rfl) fun _ => rfl

theorem run_perform_wellFormed {es : List (Effect R)} (hs : s.WellFormed)
    (h : Steps.run (perform E) s es = .ok t) : t.WellFormed :=
  Steps.run_invariant (fun _ _ _ hs h => (perform_cases h).wellFormed hs) hs h

omit [Zero R] in
/-- `SendPacket` touches the session only. -/
theorem sendPacket_eq (s : US1GameInstance R) (pkt : ClientPacket R) :
    ∃ g, s.sendPacket pkt = { s with gameServerSession := g } ∧
      g.isSome = s.gameServerSession.isSome := by
  rcases s.sendPacket_cases pkt with ⟨socket, session, -, hsession, hsend⟩ | ⟨-, hsend⟩
  · exact ⟨_, hsend, by rw [hsession]; rfl⟩
  · exact ⟨s.gameServerSession, hsend, rfl⟩

/-! ## The operations as effects -/

/-- The despawn loops of `MoveMap` are despawn effects. -/
theorem run_despawnPlayer (s : US1GameInstance R) (queue : List Int64) :
    Steps.run (despawnPlayer E) s queue =
      Steps.run (perform E) s ((queue.map Int64.toUInt64).map .despawnPlayer) := by
  have hstep : ∀ (s : US1GameInstance R) (objectId : Int64), s.despawnPlayer E objectId =
      ((some ∘ Effect.despawnPlayer ∘ Int64.toUInt64) objectId).elim (.ok s) (s.perform E) :=
    fun s objectId => by
      show _ = s.despawnPlayer E objectId.toUInt64.toInt64
      rw [Int64.toInt64_toUInt64]
  rw [List.map_map, ← List.filterMap_eq_map]
  exact Steps.run_filterMap hstep s queue

theorem run_despawnEnemy (s : US1GameInstance R) (queue : List Int64) :
    Steps.run (despawnEnemy E) s queue =
      Steps.run (perform E) s ((queue.map Int64.toUInt64).map .despawnEnemy) := by
  have hstep : ∀ (s : US1GameInstance R) (objectId : Int64), s.despawnEnemy E objectId =
      ((some ∘ Effect.despawnEnemy ∘ Int64.toUInt64) objectId).elim (.ok s) (s.perform E) :=
    fun s objectId => by
      show _ = s.despawnEnemy E objectId.toUInt64.toInt64
      rw [Int64.toInt64_toUInt64]
  rw [List.map_map, ← List.filterMap_eq_map]
  exact Steps.run_filterMap hstep s queue

/-- **What `MoveMap` does**: it despawns the players in the first queue, then
the enemies in the second, queues a packet and writes the local player's map
number. -/
structure Moved (E : Engine R) (s : US1GameInstance R) (n : Int32) (t : US1GameInstance R) where
  queue₁ : List Int64
  mid₁ : US1GameInstance R
  queue₂ : List Int64
  mid₂ : US1GameInstance R
  mine : ActorRef
  minePlayer : AS1Player R
  session : Option (PacketSession R)
  queue₁_eq : s.playersToDespawn s.players.entries = .ok queue₁
  run₁ : Steps.run (perform E) s ((queue₁.map Int64.toUInt64).map .despawnPlayer) = .ok mid₁
  queue₂_eq : mid₁.enemysToDespawn mid₁.enemys.entries = .ok queue₂
  run₂ : Steps.run (perform E) mid₁ ((queue₂.map Int64.toUInt64).map .despawnEnemy) = .ok mid₂
  myPlayer : mid₂.myPlayer = some mine
  live : mid₂.playerActors.get? mine = some minePlayer
  session_isSome : session.isSome = mid₂.gameServerSession.isSome
  result : t = { mid₂ with
    gameServerSession := session
    playerActors := mid₂.playerActors.modify mine fun p => p.setMapNumber n }

theorem moveMap_cases {n : Int32} (h : s.moveMap E n = .ok t) : Nonempty (Moved E s n t) := by
  obtain ⟨queue₁, hq₁, h⟩ := bind_eq_ok.mp h
  obtain ⟨mid₁, hr₁, h⟩ := bind_eq_ok.mp h
  obtain ⟨queue₂, hq₂, h⟩ := bind_eq_ok.mp h
  obtain ⟨mid₂, hr₂, h⟩ := bind_eq_ok.mp h
  obtain ⟨g, hg, hsome⟩ := mid₂.sendPacket_eq (.C_ENTER_ROOM n.toInt64.toUInt64)
  rw [hg] at h
  obtain ⟨⟨mine, p⟩, hmine, h⟩ := bind_eq_ok.mp h
  obtain ⟨hm, hp⟩ := derefMyPlayer_eq_ok.mp hmine
  rw [run_despawnPlayer] at hr₁
  rw [run_despawnEnemy] at hr₂
  exact ⟨⟨queue₁, mid₁, queue₂, mid₂, mine, p, g, hq₁, hr₁, hq₂, hr₂, hm, hp, hsome,
    (Except.ok.inj h).symm⟩⟩

/-- The effects an operation can have. -/
def Op.Causes : Op R → Effect R → Prop
  | .packet pkt, e => e ∈ pkt.effects
  | .moveMap _, e => ∃ k, e = .despawnPlayer k ∨ e = .despawnEnemy k
  | .disconnectFromGameServer, _ => False

/-- Every operation is a run of effects, followed by changes that no effect
makes: of the session, of the local player's map number, or the emptying of the
maps. -/
theorem step_invariant {P : US1GameInstance R → Prop} {op : Op R}
    (heffect : ∀ s e t, op.Causes e → P s → Performed E s e t → P t)
    (hsession : ∀ (s : US1GameInstance R) g, g.isSome = s.gameServerSession.isSome → P s →
      P { s with gameServerSession := g })
    (hmap : ∀ (s : US1GameInstance R) a n, s.myPlayer = some a → P s →
      P { s with playerActors := s.playerActors.modify a fun p => p.setMapNumber n })
    (hempty : ∀ s : US1GameInstance R, s.connected = true → P s →
      P { s with players := .empty, enemys := .empty })
    (hs : P s) (h : s.step E op = .ok t) : P t := by
  have hrun : ∀ {s t : US1GameInstance R} {es}, (∀ e ∈ es, op.Causes e) → P s →
      Steps.run (perform E) s es = .ok t → P t :=
    fun hes hs h => Steps.run_invariant_mem
      (fun s e he t hs h => heffect s e t (hes e he) hs (perform_cases h)) hs h
  cases op with
  | packet pkt =>
    have h : s.dispatch E pkt = .ok t := h
    rw [dispatch_eq_run] at h
    exact hrun (fun _ he => he) hs h
  | moveMap n =>
    obtain ⟨m⟩ := moveMap_cases h
    rw [m.result]
    have hplayers : ∀ e ∈ (m.queue₁.map Int64.toUInt64).map Effect.despawnPlayer,
        (Op.moveMap n : Op R).Causes e := fun e he => by
      obtain ⟨k, -, rfl⟩ := List.mem_map.mp he
      exact ⟨k, Or.inl rfl⟩
    have henemys : ∀ e ∈ (m.queue₂.map Int64.toUInt64).map Effect.despawnEnemy,
        (Op.moveMap n : Op R).Causes e := fun e he => by
      obtain ⟨k, -, rfl⟩ := List.mem_map.mp he
      exact ⟨k, Or.inr rfl⟩
    have hmid : P m.mid₂ := hrun henemys (hrun hplayers hs m.run₁) m.run₂
    exact hmap { m.mid₂ with gameServerSession := m.session } m.mine n m.myPlayer
      (hsession m.mid₂ m.session m.session_isSome hmid)
  | disconnectFromGameServer =>
    obtain rfl : s.disconnectFromGameServer = t := Except.ok.inj h
    unfold disconnectFromGameServer
    cases hc : s.connected with
    | false => exact hs
    | true =>
      obtain ⟨g, hg, hsome⟩ := s.sendPacket_eq .C_LEAVE_GAME
      rw [hg]
      refine hempty _ ?_ (hsession s g hsome hs)
      rw [connected] at hc ⊢
      rw [hsome]
      exact hc

/-- **Every operation keeps the invariant.** -/
theorem step_wellFormed {op : Op R} (hs : s.WellFormed) (h : s.step E op = .ok t) :
    t.WellFormed :=
  step_invariant (fun _ _ _ _ hs h => h.wellFormed hs)
    (fun _ _ _ hs => ⟨hs.players, hs.enemys, hs.myPlayer_lt, hs.myPlayer_isMine⟩)
    (fun _ a _ _ hs => hs.modifyPlayer a (fun _ => rfl) fun _ => rfl)
    (fun _ _ hs => ⟨Registry.keyed_empty, Registry.keyed_empty, hs.myPlayer_lt, hs.myPlayer_isMine⟩)
    hs h

/-- **The invariant holds in every state a run reaches.** -/
theorem run_wellFormed {ops : List (Op R)} (hs : s.WellFormed)
    (h : Steps.run (step E) s ops = .ok t) : t.WellFormed :=
  Steps.run_invariant (fun _ _ _ hs h => step_wellFormed hs h) hs h

end US1GameInstance
end S1Client
