import Mathlib.Data.List.Induction
import Mathlib.Data.List.Infix
import S1Client.MoveMap

/-!
# Room requests and their answers

`MoveMap` writes the local player's map number before the server has answered, and
`Handle_S_ENTER_ROOM` writes nothing, so the map number is the room asked for last
(`AtRoom.run`).  The server may refuse.  When no request is outstanding, the map number is
the room agreed on exactly if the last request was accepted, or asked for the room that
was agreed on already (`followsServer_iff`).
-/
namespace S1Client
variable {R : Type}

/-- A call of `MoveMap`, or a turn of `HandleRecvPackets` with answers in the queue. -/
inductive RoomEvent where
  | moveMap (mapNumber : Int32)
  | handleRecvPackets (replies : List S_ENTER_ROOM)

namespace RoomEvent

/-- The room an event asks for. -/
def request? : RoomEvent → Option Int32
  | moveMap mapNumber => some mapNumber
  | handleRecvPackets _ => none

/-- The answers an event brings: whether the request succeeded. -/
def answers : RoomEvent → List Bool
  | moveMap _ => []
  | handleRecvPackets replies => replies.map S_ENTER_ROOM.success

/-- The rooms asked for, in order. -/
def requests (events : List RoomEvent) : List Int32 := events.filterMap request?

/-- The answers, in order. -/
def replies (events : List RoomEvent) : List Bool := events.flatMap answers

/-- The requests that were answered, each with its answer. -/
def exchanges (events : List RoomEvent) : List (Int32 × Bool) :=
  (requests events).zip (replies events)

/-- No request is outstanding. -/
def Quiescent (events : List RoomEvent) : Prop :=
  (replies events).length = (requests events).length

/-- No answer comes before its request. -/
def InOrder (events : List RoomEvent) : Prop :=
  ∀ l₁ l₂, events = l₁ ++ l₂ → (replies l₁).length ≤ (requests l₁).length

end RoomEvent

/-! ## The room agreed on -/

/-- The room of the last request that was accepted, 0 before there is one. -/
def agreedRoom (exchanges : List (Int32 × Bool)) : Int32 :=
  ((exchanges.filter Prod.snd).getLast?.map Prod.fst).getD 0

/-- The room of the last request, 0 before there is one. -/
def requestedRoom (requests : List Int32) : Int32 := requests.getLast?.getD 0

/-- If the last request was refused, it asked for the room agreed on. -/
def Confirmed (exchanges : List (Int32 × Bool)) : Prop :=
  ∀ last ∈ exchanges.getLast?, last.2 = false → last.1 = agreedRoom exchanges

instance (exchanges : List (Int32 × Bool)) : Decidable (Confirmed exchanges) :=
  @Option.decidableForallMem (Int32 × Bool)
    (fun last => last.2 = false → last.1 = agreedRoom exchanges) _ exchanges.getLast?

/-- The room asked for last is the room agreed on exactly if the last answer confirms it. -/
theorem requestedRoom_eq_agreedRoom_iff (exchanges : List (Int32 × Bool)) :
    requestedRoom (exchanges.map Prod.fst) = agreedRoom exchanges ↔ Confirmed exchanges := by
  cases exchanges using List.reverseRecOn with
  | nil => simp [requestedRoom, agreedRoom, Confirmed]
  | append_singleton earlier last =>
    obtain ⟨room, accepted⟩ := last
    have hlast : requestedRoom ((earlier ++ [(room, accepted)]).map Prod.fst) = room := by
      simp [requestedRoom]
    rw [hlast]
    cases accepted with
    | true =>
      have hagreed : agreedRoom (earlier ++ [(room, true)]) = room := by
        simp [agreedRoom]
      simp [Confirmed, hagreed]
    | false => simp [Confirmed]

/-- With no request outstanding every request has its answer. -/
theorem RoomEvent.Quiescent.map_fst {events : List RoomEvent} (h : Quiescent events) :
    (exchanges events).map Prod.fst = requests events :=
  List.map_fst_zip (Nat.le_of_eq h.symm)

/-! ## The map number -/

namespace US1GameInstance
open Steps (bind_eq_ok)

/-- `MyPlayer->GetMapNumber()`. -/
def myMapNumber (s : US1GameInstance R) : Except Fault Int32 := do
  let (_, mine) ← s.derefMyPlayer
  return mine.getMapNumber

/-- One event. -/
def roomStep [Zero R] (E : Engine R) (s : US1GameInstance R) :
    RoomEvent → Except Fault (US1GameInstance R)
  | .moveMap mapNumber => s.moveMap E mapNumber
  | .handleRecvPackets replies => s.handleRecvPackets E (replies.map .S_ENTER_ROOM)

/-- **The map number follows the server**: whenever no request is outstanding, it is the
room agreed on. -/
def FollowsServer [Zero R] (E : Engine R) (s : US1GameInstance R) (events : List RoomEvent) :
    Prop :=
  ∀ l₁ l₂ t, events = l₁ ++ l₂ → Steps.run (roomStep E) s l₁ = .ok t →
    RoomEvent.Quiescent l₁ → t.myMapNumber = .ok (agreedRoom (RoomEvent.exchanges l₁))

variable [Zero R] {E : Engine R} {s t : US1GameInstance R}

/-- The local player is there, and its map number is `room`. -/
structure AtRoom (s : US1GameInstance R) (room : Int32) : Prop where
  wellFormed : s.WellFormed
  mapNumber : s.myMapNumber = .ok room

/-- Answers change nothing. -/
theorem handleRecvPackets_replies (replies : List S_ENTER_ROOM) :
    s.handleRecvPackets E (replies.map .S_ENTER_ROOM) = .ok s := by
  have hrun : Steps.run (dispatch E) s (replies.map .S_ENTER_ROOM) = .ok s := by
    induction replies with
    | nil => rfl
    | cons reply replies ih => exact Steps.run_cons.mpr ⟨s, rfl, ih⟩
  unfold handleRecvPackets
  split
  · rfl
  · exact hrun

/-- **One event**: a request writes the map number, an answer does not. -/
theorem AtRoom.step {room : Int32} {event : RoomEvent} (hs : s.AtRoom room)
    (h : s.roomStep E event = .ok t) : t.AtRoom (event.request?.getD room) := by
  cases event with
  | handleRecvPackets replies =>
    obtain rfl := Except.ok.inj ((handleRecvPackets_replies replies).symm.trans h)
    exact hs
  | moveMap n =>
    have hstep : s.step E (.moveMap n) = .ok t := h
    obtain ⟨m⟩ := moveMap_cases hstep
    have hmine : t.myPlayer = some m.mine :=
      (congrArg US1GameInstance.myPlayer m.result).trans m.myPlayer
    have hactors : t.playerActors = m.mid₂.playerActors.modify m.mine fun p => p.setMapNumber n :=
      (congrArg US1GameInstance.playerActors m.result).trans rfl
    have hlive : t.playerActors.get? m.mine = some (m.minePlayer.setMapNumber n) := by
      rw [hactors, Arena.get?_modify, if_pos rfl, m.live]
      rfl
    exact ⟨step_wellFormed hs.wellFormed hstep,
      bind_eq_ok.mpr ⟨_, derefMyPlayer_eq_ok.mpr ⟨hmine, hlive⟩, rfl⟩⟩

/-- **A run** leaves the map number at the room asked for last. -/
theorem AtRoom.run {room : Int32} {events : List RoomEvent} (hs : s.AtRoom room)
    (h : Steps.run (roomStep E) s events = .ok t) :
    t.AtRoom ((RoomEvent.requests events).getLast?.getD room) := by
  induction events generalizing s room with
  | nil =>
    obtain rfl := Except.ok.inj h
    exact hs
  | cons event events ih =>
    obtain ⟨u, hu, ht⟩ := Steps.run_cons.mp h
    have hrest := ih (hs.step hu) ht
    have hlast : (RoomEvent.requests (event :: events)).getLast?.getD room =
        (RoomEvent.requests events).getLast?.getD (event.request?.getD room) := by
      unfold RoomEvent.requests
      cases hevent : event.request? with
      | none => simp [hevent]
      | some n => simp [hevent, List.getLast?_cons]
    rw [hlast]
    exact hrest

/-- **The map number follows the server's answers exactly if, whenever no request is
outstanding, the last request was accepted or asked for the room agreed on already.** -/
theorem followsServer_iff {s₀ : US1GameInstance R} {ops : List (Op R)}
    {events : List RoomEvent} (h0 : s₀.Initial) (hrun : Steps.run (step E) s₀ ops = .ok s)
    (hstart : s.myMapNumber = .ok 0) :
    s.FollowsServer E events ↔ ∀ l₁ l₂ t, events = l₁ ++ l₂ →
      Steps.run (roomStep E) s l₁ = .ok t → RoomEvent.Quiescent l₁ →
        Confirmed (RoomEvent.exchanges l₁) := by
  have hs : s.AtRoom 0 := ⟨run_wellFormed h0.wellFormed hrun, hstart⟩
  refine forall_congr' fun l₁ => forall_congr' fun l₂ => forall_congr' fun t =>
    imp_congr_right fun _ => imp_congr_right fun ht => imp_congr_right fun hquiet => ?_
  have hnumber : t.myMapNumber = .ok (requestedRoom (RoomEvent.requests l₁)) := (hs.run ht).mapNumber
  rw [hnumber, Except.ok.injEq, ← hquiet.map_fst]
  exact requestedRoom_eq_agreedRoom_iff _

/-- A request granted, and the same room asked for once more. -/
theorem followsServer_two :
    ∃ s, Steps.run (step (.obliging Int false)) (started Int)
        [.packet (.S_ENTER_GAME ⟨true, some (.named .player 7 7)⟩)] = .ok s ∧
      s.FollowsServer (.obliging Int false) [.moveMap 2, .handleRecvPackets [⟨true⟩],
        .moveMap 2, .handleRecvPackets [⟨false⟩]] := by
  have hrun : Steps.run (step (.obliging Int false)) (started Int)
      [.packet (.S_ENTER_GAME ⟨true, some (.named .player 7 7)⟩)] = .ok _ := rfl
  have hall : ∀ l ∈ [RoomEvent.moveMap 2, .handleRecvPackets [⟨true⟩], .moveMap 2,
      .handleRecvPackets [⟨false⟩]].inits, Confirmed (RoomEvent.exchanges l) := by
    decide
  exact ⟨_, hrun, (followsServer_iff (started_initial Int) hrun rfl).mpr
    fun l₁ l₂ _ hl _ _ => hall l₁ ((List.mem_inits _ _).mpr ⟨l₂, hl.symm⟩)⟩

/-- **The map number does not always follow the server**: the first request is refused. -/
theorem not_always_followsServer :
    ¬∀ (E : Engine Int) (s₀ s : US1GameInstance Int) (ops : List (Op Int))
      (events : List RoomEvent), s₀.Initial → Steps.run (step E) s₀ ops = .ok s →
      s.connected = true → s.myMapNumber = .ok 0 → RoomEvent.InOrder events →
      s.FollowsServer E events := by
  intro h
  have hrun : Steps.run (step (.obliging Int false)) (started Int)
      [.packet (.S_ENTER_GAME ⟨true, some (.named .player 7 7)⟩)] = .ok _ := rfl
  have hall : ∀ l ∈ [RoomEvent.moveMap 2, .handleRecvPackets [⟨false⟩]].inits,
      (RoomEvent.replies l).length ≤ (RoomEvent.requests l).length := by
    decide
  have hfollows := h (.obliging Int false) (started Int) _ _
    [.moveMap 2, .handleRecvPackets [⟨false⟩]] (started_initial Int) hrun rfl rfl
    fun l₁ l₂ hl => hall l₁ ((List.mem_inits _ _).mpr ⟨l₂, hl.symm⟩)
  have hnumber := hfollows _ [] _ (List.append_nil _).symm rfl rfl
  exact absurd hnumber (by decide)

end US1GameInstance
end S1Client
