import S1Client.MoveMap
import S1Client.Presence

/-!
# Changing rooms with packets in the queue

`MoveMap` empties the maps at once, while spawn packets of the old room may still
be queued; nothing tells them from those of the new room.  Drained before the
room change they end with the old room, drained after it they stay.  The two
orders leave the same ids only if the queue, read in the emptied room, leaves
nothing under the ids that `MoveMap` takes away, and the answers of `SpawnActor`
make no difference under the others (`roomChange_iff`).
-/
namespace S1Client
variable {R : Type}

/-- A packet about the others in a room: an `S_SPAWN`, or an `S_DESPAWN` of players
other than `me`. -/
def ServerPacket.InRoom (me : UInt64) : ServerPacket R → Prop
  | .S_SPAWN _ => True
  | .S_DESPAWN pkt => ∀ object ∈ pkt.objects, object.objectType = .player → object.objectId ≠ me
  | _ => False

/-- What such a packet can do. -/
def Effect.InRoom (me : UInt64) : Effect R → Prop
  | .spawnPlayer _ isMine => isMine = false
  | .despawnPlayer objectId => objectId ≠ me
  | .spawnEnemy _ | .despawnEnemy _ => True
  | _ => False

theorem ServerPacket.InRoom.effects {me : UInt64} {pkt : ServerPacket R} (h : pkt.InRoom me) :
    ∀ e ∈ pkt.effects, e.InRoom me := by
  intro e he
  cases pkt with
  | S_SPAWN p =>
    obtain ⟨object, -, ⟨-, rfl⟩ | ⟨-, rfl⟩⟩ := S_SPAWN.of_mem_effects he
    · rfl
    · trivial
  | S_DESPAWN p =>
    obtain ⟨object, hobject, ⟨htype, rfl⟩ | ⟨-, rfl⟩⟩ := S_DESPAWN.of_mem_effects he
    · exact h object hobject htype
    · trivial
  | _ => exact absurd h id

namespace US1GameInstance
open Steps (bind_eq_ok)

/-- The roster that `MoveMap` leaves.  An id that survives the narrowing is taken away,
unless it is a player's and its low half is the local player's. -/
def Roster.emptied (r : Roster) (me : UInt64) : Roster where
  present k :=
    if FitsInt k then ((r.present k).1 && decide (narrowId k = narrowId me), false)
    else r.present k
  spawnCalls := r.spawnCalls

/-- `full` is what is granted of the queue in the room as it is, `empty` what is granted of
it in the emptied room.  Under an id that `MoveMap` takes away `empty` leaves nothing, and
under one that it spares both leave the same. -/
def LeavesSame (s : US1GameInstance R) (me : UInt64) (full empty : List (Effect R))
    (k : UInt64) : Prop :=
  (if FitsInt k ∧ narrowId k ≠ narrowId me then ¬PlayerThere k False empty
    else (PlayerThere k (s.players.lookup k ≠ none) full ↔
      PlayerThere k (s.players.lookup k ≠ none) empty)) ∧
  if FitsInt k then ¬EnemyThere k (s.players.lookup k ≠ none ∧ narrowId k = narrowId me) False empty
    else (EnemyThere k (s.players.lookup k ≠ none) (s.enemys.lookup k ≠ none) full ↔
      EnemyThere k (s.players.lookup k ≠ none) (s.enemys.lookup k ≠ none) empty)

variable [Zero R] {E : Engine R} {s t : US1GameInstance R}

/-! ## Draining the queue -/

/-- What draining the queue keeps: the local player under `me`, and the guards. -/
structure KeepsLocal (s : US1GameInstance R) (me : UInt64) (a : ActorRef)
    (t : US1GameInstance R) : Prop where
  wellFormed : t.WellFormed
  myPlayer : t.myPlayer = some a
  tracked : t.players.lookup me = some a
  connected : t.connected = s.connected
  inWorld : t.inWorld = s.inWorld

theorem Performed.keepsLocal {e : Effect R} {me : UInt64} {a : ActorRef}
    {s₀ : US1GameInstance R} (h : Performed E s e t) (he : e.InRoom me)
    (hs : s₀.KeepsLocal me a s) : s₀.KeepsLocal me a t := by
  refine ⟨h.wellFormed hs.wellFormed, ?_, ?_, h.connected_eq.trans hs.connected,
    h.inWorld_eq.trans hs.inWorld⟩
  · cases h with
    | playerSpawned info isMine =>
      obtain rfl : isMine = false := he
      exact hs.myPlayer
    | _ => exact hs.myPlayer
  · cases h with
    | playerSpawned info isMine place hw hk =>
      have hkey : me ≠ info.objectId := fun hkey => by
        rw [← hkey, hs.tracked] at hk
        cases hk
      exact (s.players.lookup_add_of_ne _ hkey).trans hs.tracked
    | playerDespawned objectId b =>
      have hkey : me ≠ objectId := fun hkey => he hkey.symm
      exact (s.players.lookup_remove_of_ne hkey).trans hs.tracked
    | _ => exact hs.tracked

/-- The queue keeps the local player. -/
theorem KeepsLocal.of_run_perform {me : UInt64} {a : ActorRef} {log : List (Effect R)}
    {s₀ : US1GameInstance R} (hlog : ∀ e ∈ log, e.InRoom me) (hs : s₀.KeepsLocal me a s)
    (h : Steps.run (perform E) s log = .ok t) : s₀.KeepsLocal me a t :=
  Steps.run_invariant_mem (fun _ e he _ hs h => (perform_cases h).keepsLocal (hlog e he) hs) hs h

/-- The queue drains. -/
theorem KeepsLocal.run_perform_total {me : UInt64} {a : ActorRef} {log : List (Effect R)}
    {s₀ : US1GameInstance R} (hlog : ∀ e ∈ log, e.InRoom me) (hfreed : E.keepsFreedSlot = true)
    (hs : s₀.KeepsLocal me a s) : ∃ t, Steps.run (perform E) s log = .ok t := by
  have hstep : ∀ s : US1GameInstance R, ∀ e ∈ log, s.WellFormed →
      ∃ t, s.perform E e = .ok t ∧ t.WellFormed := by
    intro s e he hs
    have hcannot : CannotFault E s e := by
      have he := hlog e he
      cases e with
      | spawnPlayer | spawnEnemy | enemyAi => trivial
      | despawnPlayer | despawnEnemy => exact hfreed
      | move | score | character => exact absurd he id
    obtain ⟨t, ht⟩ := hs.perform_total hcannot
    exact ⟨t, ht, (perform_cases ht).wellFormed hs⟩
  obtain ⟨t, ht, -⟩ := Steps.run_total hstep hs.wellFormed
  exact ⟨t, ht⟩

/-- Outside the world the queue does nothing. -/
theorem run_inRoom_not_inWorld {me : UInt64} {log : List (Effect R)}
    (hlog : ∀ e ∈ log, e.InRoom me) (hw : s.inWorld = false)
    (h : Steps.run (perform E) s log = .ok t) : t = s := by
  refine Steps.run_invariant_mem (P := fun u => u = s) (fun u e he t hu ht => ?_) rfl h
  subst hu
  have hin : ¬u.inWorld = true := by simp [hw]
  cases perform_cases ht with
  | skipped => rfl
  | playerFailed _ _ hw' => exact absurd hw' hin
  | playerSpawned _ _ _ hw' => exact absurd hw' hin
  | enemyFailed _ hw' => exact absurd hw' hin
  | enemySpawned _ _ hw' => exact absurd hw' hin
  | playerDespawned _ _ hw' => exact absurd hw' hin
  | enemyDespawned _ _ hw' => exact absurd hw' hin
  | moved | aiApplied | scored | characterSet => exact absurd (hlog _ he) id

/-! ## The room change -/

theorem Moved.guards {n : Int32} (m : Moved E s n t) :
    t.connected = s.connected ∧ t.inWorld = s.inWorld := by
  obtain ⟨hc₁, hw₁⟩ := run_perform_guards m.run₁
  obtain ⟨hc₂, hw₂⟩ := run_perform_guards m.run₂
  have hc : t.connected = m.mid₂.connected := by
    refine (congrArg connected m.result).trans ?_
    unfold connected
    rw [← m.session_isSome]
  have hw : t.inWorld = m.mid₂.inWorld := by
    have hh : t.hasWorld = m.mid₂.hasWorld := (congrArg hasWorld m.result).trans rfl
    unfold inWorld
    rw [hc, hh]
  exact ⟨hc.trans (hc₂.trans hc₁), hw.trans (hw₂.trans hw₁)⟩

/-- `MoveMap` finds the local player under `me`. -/
theorem KeepsLocal.moved_mine {n : Int32} {me : UInt64} {a : ActorRef} {s₀ : US1GameInstance R}
    (hs : s₀.KeepsLocal me a s) (m : Moved E s n t) :
    m.mine = a ∧ playerKey m.minePlayer = me := by
  obtain ⟨hmine, hp⟩ := derefMyPlayer_eq_ok.mp (m.derefMyPlayer hs.wellFormed.keyed)
  have ha : m.mine = a := Option.some.inj (hmine.symm.trans hs.myPlayer)
  obtain ⟨q, hq, hkey⟩ := hs.wellFormed.players me a hs.tracked
  rw [← ha] at hq
  exact ⟨ha, by rwa [Option.some.inj (hp.symm.trans hq)]⟩

/-- The room change keeps the local player. -/
theorem KeepsLocal.of_moveMap {n : Int32} {me : UInt64} {a : ActorRef} {s₀ : US1GameInstance R}
    (hs : s₀.KeepsLocal me a s) (h : s.moveMap E n = .ok t) : s₀.KeepsLocal me a t := by
  obtain ⟨m⟩ := moveMap_cases h
  obtain ⟨ha, hkey⟩ := hs.moved_mine m
  obtain ⟨hc, hw⟩ := m.guards
  have hstep : s.step E (.moveMap n) = .ok t := h
  refine ⟨step_wellFormed hs.wellFormed hstep, ?_, ?_, hc.trans hs.connected,
    hw.trans hs.inWorld⟩
  · have hm : t.myPlayer = m.mid₂.myPlayer := (congrArg US1GameInstance.myPlayer m.result).trans rfl
    rw [hm, m.myPlayer, ha]
  · rw [m.lookup_players hs.wellFormed.keyed, if_neg (fun h => h.2.2 (by rw [hkey]))]
    exact hs.tracked

/-- The room changes. -/
theorem KeepsLocal.moveMap_total {me : UInt64} {a : ActorRef} {s₀ : US1GameInstance R}
    (hs : s₀.KeepsLocal me a s) (hfreed : E.keepsFreedSlot = true) (n : Int32) :
    ∃ t, s.moveMap E n = .ok t := by
  obtain ⟨p, hp, -⟩ := hs.wellFormed.players me a hs.tracked
  have hmine : s.derefMyPlayer = .ok (a, p) := derefMyPlayer_eq_ok.mpr ⟨hs.myPlayer, hp⟩
  cases h : s.moveMap E n with
  | ok t => exact ⟨t, rfl⟩
  | error f =>
    rcases hs.wellFormed.keyed.moveMap_error h with ⟨-, hf⟩ | hd
    · exact absurd (hfreed.symm.trans hf) Bool.false_ne_true.symm
    · rw [hmine] at hd
      cases hd

/-- **What is tracked after the room change.** -/
theorem KeepsLocal.present_moved {n : Int32} {me : UInt64} {a : ActorRef}
    {s₀ : US1GameInstance R} (hs : s₀.KeepsLocal me a s) (m : Moved E s n t) (k : UInt64) :
    t.present k =
      if s.inWorld = true ∧ FitsInt k then
        ((s.present k).1 && decide (narrowId k = narrowId me), false)
      else s.present k := by
  unfold present
  rw [m.lookup_players hs.wellFormed.keyed, m.lookup_enemys hs.wellFormed.keyed,
    (hs.moved_mine m).2]
  by_cases hfit : s.inWorld = true ∧ FitsInt k
  · by_cases hid : narrowId k = narrowId me
    · simp [hfit, hid]
    · simp [hfit, hid]
  · have hne : ¬(s.inWorld = true ∧ FitsInt k ∧ narrowId k ≠ narrowId me) :=
      fun h => hfit ⟨h.1, h.2.1⟩
    rw [if_neg hfit, if_neg hfit, if_neg hne]

/-- No actor is spawned on the way. -/
theorem Moved.spawnCalls {n : Int32} (m : Moved E s n t) : t.spawnCalls = s.spawnCalls := by
  have hrun : ∀ {s t : US1GameInstance R} {es : List (Effect R)},
      (∀ e ∈ es, ∃ k, e = .despawnPlayer k ∨ e = .despawnEnemy k) →
      Steps.run (perform E) s es = .ok t → t.spawnCalls = s.spawnCalls := by
    intro s t es hes h
    refine Steps.run_invariant_mem (P := fun u => u.spawnCalls = s.spawnCalls)
      (fun u e he v hu hv => ?_) rfl h
    obtain ⟨k, rfl | rfl⟩ := hes e he <;> cases perform_cases hv <;> exact hu
  have h₁ := hrun (by simp) m.run₁
  have h₂ := hrun (by simp) m.run₂
  have ht : t.spawnCalls = m.mid₂.spawnCalls :=
    (congrArg US1GameInstance.spawnCalls m.result).trans rfl
  rw [ht, h₂, h₁]

theorem KeepsLocal.roster_moved {n : Int32} {me : UInt64} {a : ActorRef}
    {s₀ : US1GameInstance R} (hs : s₀.KeepsLocal me a s) (m : Moved E s n t)
    (hw : s.inWorld = true) : t.roster = s.roster.emptied me := by
  refine congrArg₂ Roster.mk (funext fun k => ?_) m.spawnCalls
  rw [hs.present_moved m, hw]
  simp only [true_and]
  rfl

/-! ## The two orders -/

omit [Zero R] in
/-- One id: `full` read in the room as it is and then emptied, against `empty` read in the
emptied room. -/
private theorem orders_agree_iff (k me : UInt64) (full empty : List (Effect R)) :
    (if FitsInt k then
        ((full.foldl (presentAfter k) (s.present k)).1 && decide (narrowId k = narrowId me), false)
      else full.foldl (presentAfter k) (s.present k)) =
        empty.foldl (presentAfter k) ((s.roster.emptied me).present k) ↔
      s.LeavesSame me full empty k := by
  have hplayer : (s.present k).1 = true ↔ s.players.lookup k ≠ none := Option.isSome_iff_ne_none
  have henemy : (s.present k).2 = true ↔ s.enemys.lookup k ≠ none := Option.isSome_iff_ne_none
  obtain ⟨hfull₁, hfull₂⟩ := foldl_presentAfter k (s.present k) full
  obtain ⟨hempty₁, hempty₂⟩ :=
    foldl_presentAfter k ((s.roster.emptied me).present k) empty
  rw [hplayer] at hfull₁ hfull₂
  rw [henemy] at hfull₂
  unfold LeavesSame
  by_cases hfit : FitsInt k
  · have hstart : (s.roster.emptied me).present k =
        ((s.present k).1 && decide (narrowId k = narrowId me), false) := if_pos hfit
    rw [hstart] at hempty₁ hempty₂ ⊢
    simp only [Bool.and_eq_true, decide_eq_true_eq, Bool.false_eq_true, hplayer] at hempty₁ hempty₂
    rw [if_pos hfit, if_pos hfit]
    refine Prod.ext_iff.trans (and_congr ?_ ?_)
    · rw [Bool.eq_iff_iff, Bool.and_eq_true, decide_eq_true_eq, hfull₁, hempty₁]
      by_cases hid : narrowId k = narrowId me
      · simp [hid]
      · simp [hid, hfit]
    · rw [← hempty₂, eq_comm, Bool.not_eq_true]
  · have hstart : (s.roster.emptied me).present k = s.present k := if_neg hfit
    rw [hstart] at hempty₁ hempty₂ ⊢
    rw [hplayer] at hempty₁ hempty₂
    rw [henemy] at hempty₂
    rw [if_neg hfit, if_neg hfit, if_neg fun h => hfit h.1]
    refine Prod.ext_iff.trans (and_congr ?_ ?_)
    · rw [Bool.eq_iff_iff, hfull₁, hempty₁]
    · rw [Bool.eq_iff_iff, hfull₂, hempty₂]

/-- **The order of draining and room change does not matter exactly when the
queue leaves the same in both rooms**, with the answers that `SpawnActor` gives in each
order.  Both orders complete if freed slots still read as pointers. -/
theorem roomChange_iff {s₀ : US1GameInstance R} {ops : List (Op R)} {me : UInt64}
    {a : ActorRef} {Q : List (ServerPacket R)} (E₁ E₂ : Engine R) (h0 : s₀.Initial)
    (hrun : Steps.run (step E) s₀ ops = .ok s) (hc : s.connected = true)
    (hm : s.myPlayer = some a) (hme : s.players.lookup me = some a)
    (hQ : ∀ pkt ∈ Q, pkt.InRoom me) (n : Int32) :
    (E₁.keepsFreedSlot = true →
      ∃ t, (s.handleRecvPackets E₁ Q >>= fun u => u.moveMap E₁ n) = .ok t) ∧
    (E₂.keepsFreedSlot = true →
      ∃ t, (s.moveMap E₂ n >>= fun u => u.handleRecvPackets E₂ Q) = .ok t) ∧
    ∀ t₁ t₂, (s.handleRecvPackets E₁ Q >>= fun u => u.moveMap E₁ n) = .ok t₁ →
      (s.moveMap E₂ n >>= fun u => u.handleRecvPackets E₂ Q) = .ok t₂ →
      ((∀ k, t₁.present k = t₂.present k) ↔ (s.hasWorld = true → ∀ k, s.LeavesSame me
        (s.roster.granted E₁ (Q.flatMap ServerPacket.effects))
        ((s.roster.emptied me).granted E₂ (Q.flatMap ServerPacket.effects)) k)) := by
  have hs : s.KeepsLocal me a s := ⟨run_wellFormed h0.wellFormed hrun, hm, hme, rfl, rfl⟩
  generalize hlog : Q.flatMap ServerPacket.effects = log
  have hin : ∀ e ∈ log, e.InRoom me := by
    intro e he
    rw [← hlog] at he
    obtain ⟨pkt, hpkt, he⟩ := List.mem_flatMap.mp he
    exact (hQ pkt hpkt).effects e he
  have hdrain : ∀ (F : Engine R) (u : US1GameInstance R), u.connected = true →
      u.handleRecvPackets F Q = Steps.run (perform F) u log := fun F u hu => by
    unfold handleRecvPackets
    rw [hu, if_neg (by simp), Steps.run_flatMap (dispatch_eq_run F), hlog]
  refine ⟨fun hfreed => ?_, fun hfreed => ?_, fun t₁ t₂ h₁ h₂ => ?_⟩
  · obtain ⟨u, hu⟩ := hs.run_perform_total hin hfreed
    obtain ⟨t, ht⟩ := (hs.of_run_perform hin hu).moveMap_total hfreed n
    exact ⟨t, bind_eq_ok.mpr ⟨u, (hdrain E₁ s hc).trans hu, ht⟩⟩
  · obtain ⟨u, hu⟩ := hs.moveMap_total hfreed n
    have hk := hs.of_moveMap hu
    obtain ⟨t, ht⟩ := hk.run_perform_total hin hfreed
    exact ⟨t, bind_eq_ok.mpr ⟨u, hu, (hdrain E₂ u (hk.connected.trans hc)).trans ht⟩⟩
  obtain ⟨u₁, hu₁, ht₁⟩ := bind_eq_ok.mp h₁
  obtain ⟨u₂, hu₂, ht₂⟩ := bind_eq_ok.mp h₂
  have hk₂ := hs.of_moveMap hu₂
  rw [hdrain E₁ s hc] at hu₁
  rw [hdrain E₂ u₂ (hk₂.connected.trans hc)] at ht₂
  have hk₁ := hs.of_run_perform hin hu₁
  obtain ⟨m₁⟩ := moveMap_cases ht₁
  obtain ⟨m₂⟩ := moveMap_cases hu₂
  have hpresent₁ := hk₁.present_moved m₁
  cases hw : s.hasWorld with
  | false =>
    -- nothing happens in either order
    have hout : s.inWorld = false := by simp [inWorld, hw]
    obtain rfl := run_inRoom_not_inWorld hin hout hu₁
    obtain rfl := run_inRoom_not_inWorld hin (hk₂.inWorld.trans hout) ht₂
    refine ⟨fun _ h => (Bool.false_ne_true h).elim, fun _ k => ?_⟩
    rw [hpresent₁, hs.present_moved m₂]
  | true =>
    have hinw : s.inWorld = true := by simp [inWorld, hw, hc]
    have hfold₁ := run_perform_granted hinw hu₁
    have hfold₂ := run_perform_granted (hk₂.inWorld.trans hinw) ht₂
    have hroster := hs.roster_moved m₂ hinw
    rw [forall_prop_of_true rfl]
    apply forall_congr'
    intro k
    have hstart : u₂.present k = (s.roster.emptied me).present k :=
      congrArg (Roster.present · k) hroster
    rw [hpresent₁, hfold₂, hfold₁, hk₁.inWorld, hinw, hroster, hstart]
    simp only [true_and]
    exact orders_agree_iff k me _ _

/-! ### Runs -/

/-- An engine in which one call of `SpawnActor` fails. -/
def refusingOnce (call : Nat) : Engine Int :=
  { Engine.obliging Int false with
    spawnActor := fun n _ location => if n = call then none else some ⟨location, 0, 0⟩ }

/-- A player and an enemy under one id, and a despawn of the player. -/
def playerOverEnemy : List (ServerPacket Int) :=
  [.S_SPAWN ⟨[.named .player 8 8, .named .enemy 8 8]⟩, .S_DESPAWN ⟨[.named .player 8 8]⟩]

/-- The queue `playerOverEnemy`: with every player there the enemy is never spawned, and the
orders agree.  If the player is refused the enemy is not, and stays in the new room. -/
theorem roomChange_iff_refused :
    ∃ s t₁ t₂ u₁ u₂, Steps.run (step (.obliging Int false)) (started Int)
        [.packet (.S_ENTER_GAME ⟨true, some (.named .player 7 7)⟩)] = .ok s ∧
      (s.handleRecvPackets (.obliging Int false) playerOverEnemy >>=
        fun u => u.moveMap (.obliging Int false) 2) = .ok t₁ ∧
      (s.moveMap (.obliging Int false) 2 >>=
        fun u => u.handleRecvPackets (.obliging Int false) playerOverEnemy) = .ok t₂ ∧
      (s.handleRecvPackets (refusingOnce 1) playerOverEnemy >>=
        fun u => u.moveMap (refusingOnce 1) 2) = .ok u₁ ∧
      (s.moveMap (refusingOnce 1) 2 >>=
        fun u => u.handleRecvPackets (refusingOnce 1) playerOverEnemy) = .ok u₂ ∧
      (∀ k, s.LeavesSame 7
        (s.roster.granted (.obliging Int false) (playerOverEnemy.flatMap ServerPacket.effects))
        ((s.roster.emptied 7).granted (.obliging Int false)
          (playerOverEnemy.flatMap ServerPacket.effects)) k) ∧
      ¬∀ k, s.LeavesSame 7
        (s.roster.granted (refusingOnce 1) (playerOverEnemy.flatMap ServerPacket.effects))
        ((s.roster.emptied 7).granted (refusingOnce 1)
          (playerOverEnemy.flatMap ServerPacket.effects)) k := by
  have hQ : ∀ pkt ∈ playerOverEnemy, pkt.InRoom 7 := by
    simp [playerOverEnemy, ServerPacket.InRoom, ObjectInfo.named]
  have hrun : Steps.run (step (.obliging Int false)) (started Int)
      [.packet (.S_ENTER_GAME ⟨true, some (.named .player 7 7)⟩)] = .ok _ := rfl
  obtain ⟨-, -, hagree⟩ := roomChange_iff (.obliging Int false) (.obliging Int false)
    (started_initial Int) hrun rfl rfl rfl hQ 2
  obtain ⟨-, -, hdiffer⟩ := roomChange_iff (refusingOnce 1) (refusingOnce 1)
    (started_initial Int) hrun rfl rfl rfl hQ 2
  refine ⟨_, _, _, _, _, hrun, rfl, rfl, rfl, rfl, (hagree _ _ rfl rfl).mp (fun k => rfl) rfl,
    fun h => ?_⟩
  have h8 := (hdiffer _ _ rfl rfl).mpr (fun _ => h) 8
  exact absurd h8 (by decide)

/-- **The order matters**: a queued `S_SPAWN` of player 8, drained before the room
change, is gone with the old room; drained after it, player 8 stands in the new
one. -/
theorem not_always_orders_agree :
    ¬∀ (E : Engine Int) (s₀ s t₁ t₂ : US1GameInstance Int) (ops : List (Op Int)) (me : UInt64)
      (a : ActorRef) (Q : List (ServerPacket Int)) (n : Int32), s₀.Initial →
      Steps.run (step E) s₀ ops = .ok s → s.connected = true → s.myPlayer = some a →
      s.players.lookup me = some a → (∀ pkt ∈ Q, pkt.InRoom me) → E.SpawnsAll →
      E.keepsFreedSlot = true →
      (s.handleRecvPackets E Q >>= fun u => u.moveMap E n) = .ok t₁ →
      (s.moveMap E n >>= fun u => u.handleRecvPackets E Q) = .ok t₂ →
      ∀ k, t₁.present k = t₂.present k := by
  intro h
  have h8 := h (.obliging Int false) (started Int) _ _ _
    [.packet (.S_ENTER_GAME ⟨true, some (.named .player 7 7)⟩)] 7 0
    [.S_SPAWN ⟨[.named .player 8 8]⟩] 2 (started_initial Int) rfl rfl rfl rfl
    (by simp [ServerPacket.InRoom]) (Engine.obliging_spawnsAll Int false) rfl rfl rfl 8
  exact absurd h8 (by decide)

end US1GameInstance
end S1Client
