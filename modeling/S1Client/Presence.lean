import S1Client.Logs
import S1Client.Invariants

/-!
# Which ids are tracked

Whether an id is a key of `Players` and of `Enemys` after an effect depends on
whether it was before, and on what `SpawnActor` answers, as long as the world is
there (`Performed.roster_eq`).  An enemy is refused if the id is a player's, not
the other way round.  So it can be read off the log of the effects, less the spawns
for which there is no actor (`run_perform_granted`, `foldl_presentAfter`).
-/
namespace S1Client

/-- Every `SpawnActor` succeeds. -/
def Engine.SpawnsAll {R : Type} (E : Engine R) : Prop :=
  ∀ n c location, ∃ place, E.spawnActor n c location = some place

theorem Engine.SpawnsAll.ne_none {R : Type} {E : Engine R} (hE : E.SpawnsAll) (n : Nat)
    (c : ActorClass) (location : FVector R) : E.spawnActor n c location ≠ none := by
  obtain ⟨place, hplace⟩ := hE n c location
  rw [hplace]
  exact Option.some_ne_none place

theorem Engine.obliging_spawnsAll (R : Type) [Zero R] (asserts : Bool) :
    (Engine.obliging R asserts).SpawnsAll := fun _ _ location => ⟨⟨location, 0, 0⟩, rfl⟩

variable {R : Type}

/-- A player spawn item for `k`. -/
def SpawnsPlayer (k : UInt64) (e : Effect R) : Prop :=
  ∃ info isMine, e = .spawnPlayer info isMine ∧ info.objectId = k

/-- An enemy spawn item for `k`. -/
def SpawnsEnemy (k : UInt64) (e : Effect R) : Prop :=
  ∃ info, e = .spawnEnemy info ∧ info.objectId = k

/-- A player is tracked under `k` after the log: it has a player spawn item for `k`
and no despawn of it after that, or no despawn at all and a player was there at
the start. -/
def PlayerThere (k : UInt64) (start : Prop) : List (Effect R) → Prop :=
  Logs.OpenFrom (fun _ e => SpawnsPlayer k e) (· = .despawnPlayer k) start

/-- The same of an enemy, whose spawn items count only if no player is tracked
under `k` when they are read. -/
def EnemyThere (k : UInt64) (playerStart start : Prop) : List (Effect R) → Prop :=
  Logs.OpenFrom (fun pre e => SpawnsEnemy k e ∧ ¬PlayerThere k playerStart pre)
    (· = .despawnEnemy k) start

namespace US1GameInstance

/-- Whether `k` is a key of `Players`, and whether it is one of `Enemys`. -/
def present (s : US1GameInstance R) (k : UInt64) : Bool × Bool :=
  ((s.players.lookup k).isSome, (s.enemys.lookup k).isSome)

/-- `present` after one effect. -/
def presentAfter (k : UInt64) (b : Bool × Bool) : Effect R → Bool × Bool
  | .spawnPlayer info _ => if info.objectId = k then (true, b.2) else b
  | .spawnEnemy info => if info.objectId = k then (b.1, b.2 || !b.1) else b
  | .despawnPlayer objectId => if objectId = k then (false, b.2) else b
  | .despawnEnemy objectId => if objectId = k then (b.1, false) else b
  | _ => b

private theorem presentAfter_player {k : UInt64} {e : Effect R} {b : Bool × Bool} :
    (presentAfter k b e).1 = true ↔ SpawnsPlayer k e ∨ b.1 = true ∧ ¬e = .despawnPlayer k := by
  unfold SpawnsPlayer presentAfter
  cases e with
  | spawnPlayer info isMine => by_cases hk : info.objectId = k <;> simp [hk]
  | spawnEnemy info => by_cases hk : info.objectId = k <;> simp [hk]
  | despawnPlayer objectId => by_cases hk : objectId = k <;> simp [hk]
  | despawnEnemy objectId => by_cases hk : objectId = k <;> simp [hk]
  | _ => simp

private theorem presentAfter_enemy {k : UInt64} {e : Effect R} {b : Bool × Bool} :
    (presentAfter k b e).2 = true ↔
      SpawnsEnemy k e ∧ ¬b.1 = true ∨ b.2 = true ∧ ¬e = .despawnEnemy k := by
  unfold SpawnsEnemy presentAfter
  cases e with
  | spawnPlayer info isMine => by_cases hk : info.objectId = k <;> simp [hk]
  | spawnEnemy info => by_cases hk : info.objectId = k <;> simp [hk, or_comm]
  | despawnPlayer objectId => by_cases hk : objectId = k <;> simp [hk]
  | despawnEnemy objectId => by_cases hk : objectId = k <;> simp [hk]
  | _ => simp

/-- **The fold of `presentAfter` over a log**, in terms of its items. -/
theorem foldl_presentAfter (k : UInt64) (b : Bool × Bool) (log : List (Effect R)) :
    ((log.foldl (presentAfter k) b).1 = true ↔ PlayerThere k (b.1 = true) log) ∧
      ((log.foldl (presentAfter k) b).2 = true ↔
        EnemyThere k (b.1 = true) (b.2 = true) log) := by
  induction log using List.reverseRecOn with
  | nil => exact ⟨Logs.openFrom_nil.symm, Logs.openFrom_nil.symm⟩
  | append_singleton log e ih =>
    rw [List.foldl_append, List.foldl_cons, List.foldl_nil, presentAfter_player,
      presentAfter_enemy, ih.1, ih.2]
    have hplayer : PlayerThere k (b.1 = true) (log ++ [e]) ↔ SpawnsPlayer k e ∨ _ :=
      Logs.openFrom_concat
    have henemy : EnemyThere k (b.1 = true) (b.2 = true) (log ++ [e]) ↔
        SpawnsEnemy k e ∧ ¬PlayerThere k (b.1 = true) log ∨ _ := Logs.openFrom_concat
    exact ⟨hplayer.symm, henemy.symm⟩

variable [Zero R] {E : Engine R} {s t : US1GameInstance R}

/-! ## What `SpawnActor` answers -/

/-- What decides which ids are tracked: those that are, and how often `SpawnActor` was
called. -/
structure Roster where
  present : UInt64 → Bool × Bool
  spawnCalls : Nat

omit [Zero R] in
/-- The roster of a game instance. -/
def roster (s : US1GameInstance R) : Roster := ⟨s.present, s.spawnCalls⟩

namespace Roster

omit [Zero R] in
/-- The effect calls `SpawnActor`: no player is tracked under the id. -/
def asks (r : Roster) : Effect R → Bool
  | .spawnPlayer info _ | .spawnEnemy info => !(r.present info.objectId).1
  | _ => false

/-- It does, and the answer is null. -/
def refused (E : Engine R) (r : Roster) : Effect R → Bool
  | .spawnPlayer info isMine => !(r.present info.objectId).1 &&
      (E.spawnActor r.spawnCalls (playerClass isMine info.playerType) info.posInfo.location).isNone
  | .spawnEnemy info => !(r.present info.objectId).1 &&
      (E.spawnActor r.spawnCalls .EnemyClass info.posInfo.location).isNone
  | _ => false

/-- The roster after one effect. -/
def after (E : Engine R) (r : Roster) (e : Effect R) : Roster where
  present k := if r.refused E e then r.present k else presentAfter k (r.present k) e
  spawnCalls := if r.asks e then r.spawnCalls + 1 else r.spawnCalls

/-- The log, read from `r` on, without the spawns that are refused. -/
def granted (E : Engine R) : Roster → List (Effect R) → List (Effect R)
  | _, [] => []
  | r, e :: log => (if r.refused E e then [] else [e]) ++ granted E (r.after E e) log

theorem foldl_after (E : Engine R) (r : Roster) (log : List (Effect R)) (k : UInt64) :
    (log.foldl (after E) r).present k =
      (r.granted E log).foldl (presentAfter k) (r.present k) := by
  induction log generalizing r with
  | nil => rfl
  | cons e log ih =>
    rw [List.foldl_cons, ih, granted, List.foldl_append]
    unfold after
    dsimp only
    split <;> rfl

/-- An engine that spawns everybody refuses nobody. -/
theorem granted_of_spawnsAll {E : Engine R} (hE : E.SpawnsAll) (r : Roster)
    (log : List (Effect R)) : r.granted E log = log := by
  induction log generalizing r with
  | nil => rfl
  | cons e log ih =>
    have hanswer : ∀ n c location, (E.spawnActor n c location).isNone = false := by
      intro n c location
      rw [Option.isNone_eq_false_iff, Option.isSome_iff_ne_none]
      exact hE.ne_none n c location
    have he : r.refused E e = false := by
      cases e <;> simp [refused, hanswer]
    rw [granted, he, ih]
    rfl

end Roster

/-- An effect that is skipped in the world changes nothing: a spawn found a player there, a
despawn nobody. -/
theorem presentAfter_of_skips {e : Effect R} (hw : s.inWorld = true) (hskip : s.Skips e)
    (k : UInt64) : presentAfter k (s.present k) e = s.present k := by
  have hin : ¬s.inWorld = false := by simp [hw]
  have hthere : ∀ {id}, s.players.lookup id ≠ none → (s.present id).1 = true :=
    fun hid => by simpa [present] using Option.isSome_iff_ne_none.mpr hid
  cases e with
  | spawnPlayer info isMine =>
    have hk := hthere (hskip.resolve_left hin)
    by_cases hkey : info.objectId = k
    · subst hkey
      rw [presentAfter, if_pos rfl, ← hk]
    · exact if_neg hkey
  | spawnEnemy info =>
    have hk := hthere (hskip.resolve_left hin)
    by_cases hkey : info.objectId = k
    · subst hkey
      rw [presentAfter, if_pos rfl, hk, Bool.not_true, Bool.or_false, ← hk]
    · exact if_neg hkey
  | despawnPlayer objectId =>
    have hk : s.players.lookup objectId = none := hskip.resolve_left hin
    by_cases hkey : objectId = k
    · subst hkey
      simp [present, presentAfter, hk]
    · exact if_neg hkey
  | despawnEnemy objectId =>
    have hk : s.enemys.lookup objectId = none := hskip.resolve_left hin
    by_cases hkey : objectId = k
    · subst hkey
      simp [present, presentAfter, hk]
    · exact if_neg hkey
  | _ => rfl

/-- **One effect.** -/
theorem Performed.present_eq {e : Effect R} (h : Performed E s e t) (hw : s.inWorld = true)
    (k : UInt64) : t.present k =
      if s.roster.refused E e then s.present k else presentAfter k (s.present k) e := by
  have hfree : ∀ {id}, s.players.lookup id = none → (s.present id).1 = false :=
    fun hid => by simp [present, hid]
  cases h with
  | skipped e hskip => rw [presentAfter_of_skips hw hskip, ite_self]
  | playerFailed info isMine _ hk hfail =>
    have hrefused : s.roster.refused E (.spawnPlayer info isMine) = true := by
      simp [Roster.refused, roster, hfree hk, hfail]
    rw [hrefused]
    rfl
  | enemyFailed info _ hk hfail =>
    have hrefused : s.roster.refused E (.spawnEnemy info) = true := by
      simp [Roster.refused, roster, hfree hk, hfail]
    rw [hrefused]
    rfl
  | playerSpawned info isMine place _ hk hplace =>
    have hgranted : s.roster.refused E (.spawnPlayer info isMine) = false := by
      simp [Roster.refused, roster, hplace]
    rw [hgranted]
    by_cases hkey : info.objectId = k
    · simp [present, presentAfter, hkey]
    · simp [present, presentAfter, hkey, SlotMap.lookup_add_of_ne _ _ (Ne.symm hkey)]
  | enemySpawned info place _ hk hplace =>
    have hgranted : s.roster.refused E (.spawnEnemy info) = false := by
      simp [Roster.refused, roster, hplace]
    rw [hgranted]
    by_cases hkey : info.objectId = k
    · subst hkey
      simp [present, presentAfter, hk]
    · simp [present, presentAfter, hkey, SlotMap.lookup_add_of_ne _ _ (Ne.symm hkey)]
  | playerDespawned objectId a =>
    by_cases hkey : objectId = k
    · simp [Roster.refused, present, presentAfter, hkey]
    · simp [Roster.refused, present, presentAfter, hkey,
        SlotMap.lookup_remove_of_ne _ (Ne.symm hkey)]
  | enemyDespawned objectId a =>
    by_cases hkey : objectId = k
    · simp [Roster.refused, present, presentAfter, hkey]
    · simp [Roster.refused, present, presentAfter, hkey,
        SlotMap.lookup_remove_of_ne _ (Ne.symm hkey)]
  | moved | aiApplied | scored | characterSet => rfl

/-- `SpawnActor` is called once, or not at all. -/
theorem Performed.spawnCalls_eq {e : Effect R} (h : Performed E s e t) (hw : s.inWorld = true) :
    t.spawnCalls = if s.roster.asks e then s.spawnCalls + 1 else s.spawnCalls := by
  have hin : ¬s.inWorld = false := by simp [hw]
  cases h with
  | skipped e hskip =>
    cases e with
    | spawnPlayer info isMine =>
      simp [Roster.asks, roster, present, Option.isSome_iff_ne_none.mpr (hskip.resolve_left hin)]
    | spawnEnemy info =>
      simp [Roster.asks, roster, present, Option.isSome_iff_ne_none.mpr (hskip.resolve_left hin)]
    | _ => rfl
  | playerFailed info isMine _ hk | playerSpawned info isMine _ _ hk | enemyFailed info _ hk
  | enemySpawned info _ _ hk =>
    simp [Roster.asks, roster, present, hk]
  | _ => rfl

/-- **The roster after one effect.** -/
theorem Performed.roster_eq {e : Effect R} (h : Performed E s e t) (hw : s.inWorld = true) :
    t.roster = s.roster.after E e :=
  congrArg₂ Roster.mk (funext fun k => h.present_eq hw k) (h.spawnCalls_eq hw)

theorem run_perform_inWorld {es : List (Effect R)} (hw : s.inWorld = true)
    (h : Steps.run (perform E) s es = .ok t) : t.inWorld = true :=
  have hstep : ∀ (s : US1GameInstance R) e t, s.inWorld = true → s.perform E e = .ok t →
      t.inWorld = true := fun _ _ _ hw h => (perform_cases h).inWorld_eq.trans hw
  Steps.run_invariant hstep hw h

/-- **A batch of effects**, and the answers of `SpawnActor` to it. -/
theorem run_perform_granted {es : List (Effect R)} (hw : s.inWorld = true)
    (h : Steps.run (perform E) s es = .ok t) (k : UInt64) :
    t.present k = (s.roster.granted E es).foldl (presentAfter k) (s.present k) := by
  have hroster : t.roster = es.foldl (Roster.after E) s.roster :=
    Steps.run_project (fun _ _ _ hw h => (perform_cases h).inWorld_eq.trans hw)
      (fun _ _ _ hw h => (perform_cases h).roster_eq hw) hw h
  exact (congrArg (Roster.present · k) hroster).trans (Roster.foldl_after E s.roster es k)

/-- With an engine that spawns everybody. -/
theorem run_perform_present {es : List (Effect R)} (hE : E.SpawnsAll) (hw : s.inWorld = true)
    (h : Steps.run (perform E) s es = .ok t) (k : UInt64) :
    t.present k = es.foldl (presentAfter k) (s.present k) := by
  rw [run_perform_granted hw h, Roster.granted_of_spawnsAll hE]

end US1GameInstance
end S1Client
