import S1Client.Narrowing
import S1Client.Steering

/-!
# The local player's score

The server's points are `uint64`, the score of an actor is an `int`.  Nothing but
its spawn and `HandleScore` writes it, so the score of an actor is what it was spawned
with and the points that went to it since, each converted to 32 bits and added there
(`score_of_run`).  That is the sum the server means exactly if the sum is below 2³¹
(`getScore_exact_iff`).
-/
namespace S1Client
variable {R : Type}

/-- The points of an `S_SCORE`. -/
def US1GameInstance.Op.point? : Op R → Option UInt64
  | .packet (.S_SCORE pkt) => some pkt.point
  | _ => none

namespace US1GameInstance

/-- The actor `a` lives in `v`, and not yet in `u`. -/
def Creates (u : US1GameInstance R) (a : ActorRef) (v : US1GameInstance R) : Prop :=
  u.playerActors.get? a = none ∧ v.playerActors.get? a ≠ none

/-- An `S_SCORE` finds a connection, and `a` as the local player. -/
def ScoresGoTo (a : ActorRef) (s : US1GameInstance R) : Op R → Prop
  | .packet (.S_SCORE _) => s.connected = true ∧ s.myPlayer = some a
  | _ => True

variable [Zero R] {E : Engine R} {s t u v : US1GameInstance R}

/-- The score a local player starts with. -/
theorem score_of_enterGame {pkt : S_ENTER_GAME R} {a : ActorRef} {p : AS1Player R}
    (h : u.step E (.packet (.S_ENTER_GAME pkt)) = .ok v) (hu : u.playerActors.get? a = none)
    (hp : v.playerActors.get? a = some p) :
    p.score = pkt.player.playerInfo.score.toInt64.toInt32 := by
  have hspawn : Performed E u (.spawnPlayer pkt.player true) v := dispatch_cases rfl h
  cases hspawn with
  | skipped | playerFailed => exact absurd (hu.symm.trans hp) (by simp)
  | playerSpawned info isMine place =>
    have hp : (u.playerActors.spawn _).get? a = some p := hp
    rw [Arena.get?_spawn] at hp
    split at hp
    · obtain rfl := Option.some.inj hp
      rfl
    · exact absurd (hu.symm.trans hp) (by simp)

/-- **One operation**: the points of an `S_SCORE` are added, and nothing else changes
the score. -/
theorem score_step {a : ActorRef} {op : Op R} (ha : a < s.playerActors.next)
    (hop : ScoresGoTo a s op) (h : s.step E op = .ok t) :
    a < t.playerActors.next ∧ ∀ q, t.playerActors.get? a = some q →
      ∃ p, s.playerActors.get? a = some p ∧
        q.score = Narrowing.accumulate p.score op.point?.toList := by
  by_cases hscore : ∃ pkt, op = .packet (.S_SCORE pkt)
  · obtain ⟨pkt, rfl⟩ := hscore
    obtain ⟨hc, hm⟩ := hop
    have hscore : Performed E s (.score pkt) t := dispatch_cases rfl h
    cases hscore with
    | skipped e hskip =>
      rcases hskip with hskip | hskip
      · exact absurd (hc.symm.trans hskip) (by simp)
      · exact absurd (hm.symm.trans hskip) (by simp)
    | scored pkt b p hc' hm' hp =>
      obtain rfl := Option.some.inj (hm.symm.trans hm')
      refine ⟨by simpa using ha, fun q hq => ⟨p, hp, ?_⟩⟩
      have hmod : (s.playerActors.modify a _).get? a = some q := hq
      rw [Arena.get?_modify, if_pos rfl, hp] at hmod
      obtain rfl := Option.some.inj hmod
      rfl
  · have hop : ∀ pkt, op ≠ .packet (.S_SCORE pkt) := fun pkt hop => hscore ⟨pkt, hop⟩
    obtain ⟨ha, hframe⟩ := (Frozen.start ha).of_step hop h
    refine ⟨ha, fun q hq => ?_⟩
    obtain ⟨p, hp, hsame⟩ := hframe q hq
    have hpoint : op.point? = none := by
      cases op with
      | packet pkt =>
        cases pkt with
        | S_SCORE pkt => exact absurd rfl (hop pkt)
        | _ => rfl
      | _ => rfl
    have hq : q.score = p.score := by rw [hsame]
    exact ⟨p, hp, by rw [hpoint, hq]; rfl⟩

/-- **A run** adds the points of its `S_SCORE`s. -/
theorem score_of_run {a : ActorRef} {ops : List (Op R)} {q : AS1Player R}
    (ha : a < s.playerActors.next) (hops : Steps.Meets (step E) (ScoresGoTo a) s ops)
    (h : Steps.run (step E) s ops = .ok t) (hq : t.playerActors.get? a = some q) :
    ∃ p, s.playerActors.get? a = some p ∧
      q.score = Narrowing.accumulate p.score (ops.filterMap Op.point?) := by
  induction ops generalizing s with
  | nil =>
    obtain rfl := Except.ok.inj h
    exact ⟨q, hq, rfl⟩
  | cons op ops ih =>
    obtain ⟨u, hu, h⟩ := Steps.run_cons.mp h
    obtain ⟨hop, hops⟩ := hops u hu
    obtain ⟨hau, hstep⟩ := score_step ha hop hu
    obtain ⟨r, hr, hqr⟩ := ih hau hops h
    obtain ⟨p, hp, hrp⟩ := hstep r hr
    refine ⟨p, hp, ?_⟩
    have hpoints : (op :: ops).filterMap Op.point? = op.point?.toList ++ ops.filterMap Op.point? := by
      cases hpoint : op.point? <;> simp [hpoint]
    rw [hqr, hrp, hpoints, Narrowing.accumulate_append]

/-- **Score bookkeeping.**  An `S_ENTER_GAME` with the score `s` created the actor `a`,
and every `S_SCORE` that followed found a connection and `a` as the local player.
Then no conversion and no addition on the way changed a value, and `GetScore` of `a` is
`s` and the sum of all points, exactly if that number is below 2³¹. -/
theorem getScore_exact_iff {pkt : S_ENTER_GAME R} {a : ActorRef} {ops : List (Op R)}
    {q : AS1Player R} (henter : u.step E (.packet (.S_ENTER_GAME pkt)) = .ok v)
    (hcreates : u.Creates a v) (hops : Steps.Meets (step E) (ScoresGoTo a) v ops)
    (h : Steps.run (step E) v ops = .ok t) (hq : t.playerActors.get? a = some q) :
    ((pkt.player.playerInfo.score.toInt64.toInt32.toInt = pkt.player.playerInfo.score.toNat ∧
        Narrowing.Exact pkt.player.playerInfo.score.toInt64.toInt32 (ops.filterMap Op.point?)) ∧
      q.getScore.toInt = pkt.player.playerInfo.score.toNat +
        ((ops.filterMap Op.point?).map UInt64.toNat).sum) ↔
      pkt.player.playerInfo.score.toNat + ((ops.filterMap Op.point?).map UInt64.toNat).sum <
        2147483648 := by
  obtain ⟨hu, hv⟩ := hcreates
  obtain ⟨p, hp⟩ := Option.ne_none_iff_exists'.mp hv
  obtain ⟨p', hp', hscore⟩ := score_of_run (Arena.lt_next hp) hops h hq
  obtain rfl := Option.some.inj (hp.symm.trans hp')
  rw [score_of_enterGame henter hu hp] at hscore
  constructor
  · rintro ⟨⟨hs, hexact⟩, -⟩
    exact (Narrowing.exact_iff hs).mp hexact
  · intro hlt
    have hs := (Narrowing.toInt_narrow_eq pkt.player.playerInfo.score).mpr (by omega)
    have hexact := (Narrowing.exact_iff hs).mpr hlt
    refine ⟨⟨hs, hexact⟩, ?_⟩
    rw [AS1Player.getScore, hscore, hexact.toInt_accumulate, hs]

/-- The packet that makes the sender's player local, with a score. -/
def enterWithScore (score : UInt64) : S_ENTER_GAME Int :=
  ⟨true, some { ObjectInfo.named .player 5 5 with playerInfo? := some ⟨score, []⟩ }⟩

/-- Five points and seven, with a move in between. -/
theorem getScore_exact_twelve : ∃ t q,
    Steps.run (step (.obliging Int true)) (started Int)
        [.packet (.S_ENTER_GAME (enterWithScore 5)),
          .packet (.S_MOVE ⟨some { PosInfo.default with objectId := 5, x := 9 }⟩),
          .packet (.S_SCORE ⟨true, 7⟩)] = .ok t ∧
      t.playerActors.get? 0 = some q ∧ q.getScore.toInt = 5 + (7 + 0) := by
  have hops : Steps.Meets (step (.obliging Int true)) (ScoresGoTo 0)
      ((started Int).withPlayer (enterWithScore 5).player true ⟨⟨0, 0, 0⟩, 0, 0⟩)
      [.packet (.S_MOVE ⟨some { PosInfo.default with objectId := 5, x := 9 }⟩),
        .packet (.S_SCORE ⟨true, 7⟩)] :=
    fun t ht => ⟨trivial, fun u _ => by
      obtain rfl := Except.ok.inj ht
      exact ⟨⟨rfl, rfl⟩, trivial⟩⟩
  exact ⟨_, _, rfl, rfl, ((@getScore_exact_iff Int _ (.obliging Int true) _ (started Int) _
    (enterWithScore 5) 0 _ _ rfl ⟨rfl, Option.some_ne_none _⟩ hops rfl rfl).mpr (by decide)).2⟩

/-- One point more than fits. -/
theorem getScore_not_always_exact :
    ¬∀ (E : Engine Int) (u v t : US1GameInstance Int) (pkt : S_ENTER_GAME Int) (a : ActorRef)
      (ops : List (Op Int)) (q : AS1Player Int),
      u.step E (.packet (.S_ENTER_GAME pkt)) = .ok v → u.Creates a v →
        Steps.Meets (step E) (ScoresGoTo a) v ops → Steps.run (step E) v ops = .ok t →
        t.playerActors.get? a = some q →
        q.getScore.toInt = pkt.player.playerInfo.score.toNat +
          ((ops.filterMap Op.point?).map UInt64.toNat).sum := by
  intro h
  have hsum := h (.obliging Int true) (started Int) _ _ (enterWithScore 2147483647) 0
    [.packet (.S_SCORE ⟨true, 1⟩)] _ rfl ⟨rfl, Option.some_ne_none _⟩
    (fun _ _ => ⟨⟨rfl, rfl⟩, trivial⟩) rfl rfl
  exact absurd hsum (by decide)

end US1GameInstance
end S1Client
