import S1Client.Connection
import S1Client.Lobby
import S1Client.Payloads
import S1Client.RoomClearing
import S1Client.Ticks

/-!
# The game thread

What the game thread does with the game instance: it handles a packet from the session,
or makes a call of its own.  `outbox` is what it has handed to the session so far: packets
from the server add nothing to it, and each call adds the packet it is for
(`outbox_of_call`).  The strings in it are texts, since they are made with `TCHAR_TO_UTF8`.
The unknown fields in it are those of positions, and these came from the server
(`Positions`): parsing added them, so they can be read again.
-/
namespace S1Client
variable {R : Type}

/-- A call that no packet causes: one from a blueprint, or the `C_MOVE` of a tick of a
local player, with the placement that the tick finds. -/
inductive GameCall (R : Type) where
  | moveMap (mapNumber : Int32)
  | selectCharacter (index : Int)
  | requestScore (monsterId : Int32)
  | disconnectFromGameServer
  | sendMove (actor : ActorRef) (place : Placement R)

/-- An operation of the game thread. -/
inductive GameOp (R : Type) where
  | packet (pkt : ServerPacket R)
  | call (call : GameCall R)

namespace GameOp

def packet? : GameOp R → Option (ServerPacket R)
  | .packet pkt => some pkt
  | .call _ => none

def call? : GameOp R → Option (GameCall R)
  | .packet _ => none
  | .call c => some c

end GameOp

namespace US1GameInstance

/-- One call. -/
def call (E : Engine R) (s : US1GameInstance R) :
    GameCall R → Except Fault (US1GameInstance R)
  | .moveMap mapNumber => s.moveMap E mapNumber
  | .selectCharacter index => s.selectCharacter index
  | .requestScore monsterId => s.requestScore monsterId
  | .disconnectFromGameServer => .ok s.disconnectFromGameServer
  | .sendMove actor place => do
    let player ← s.derefPlayer actor
    return s.sendPacket (.C_MOVE (player.posInfo.withPlacement place))

/-- One operation. -/
def operate [Zero R] (E : Engine R) (s : US1GameInstance R) :
    GameOp R → Except Fault (US1GameInstance R)
  | .packet pkt => s.dispatch E pkt
  | .call c => s.call E c

/-- The packets handed to the session. -/
def outbox (s : US1GameInstance R) : List (ClientPacket R) := s.sendQueue.getD []

/-! ## What is queued -/

theorem outbox_of_session_eq {s t : US1GameInstance R}
    (h : t.gameServerSession = s.gameServerSession) : t.outbox = s.outbox := by
  unfold outbox sendQueue
  rw [h]

/-- With a connection a packet is queued, and the connection is kept. -/
theorem outbox_sendPacket {s : US1GameInstance R} (hc : s.connected = true)
    (pkt : ClientPacket R) :
    (s.sendPacket pkt).connected = true ∧ (s.sendPacket pkt).outbox = s.outbox ++ [pkt] := by
  rcases s.sendPacket_cases pkt with ⟨socket, session, hsocket, hsession, hsend⟩ | ⟨hnot, -⟩
  · rw [hsend]
    simp [connected, outbox, sendQueue, hsocket, hsession]
  · exact absurd (hc.symm.trans hnot) (by simp)

end US1GameInstance

/-- The packet that a call queues on a game instance. -/
inductive GameCall.Queues (s : US1GameInstance R) : GameCall R → ClientPacket R → Prop
  | moveMap (mapNumber : Int32) :
      Queues s (.moveMap mapNumber) (.C_ENTER_ROOM mapNumber.toInt64.toUInt64)
  | selectCharacter (index : Int) (slot : CharacterSlot) (hindex : 0 ≤ index)
      (hslot : s.characterSlots[index.toNat]? = some slot) :
      Queues s (.selectCharacter index) (.C_ENTER_GAME slot.selectedCharacter)
  | requestScore (monsterId : Int32) (actor : ActorRef) (mine : AS1Player R)
      (hmine : s.derefMyPlayer = .ok (actor, mine)) :
      Queues s (.requestScore monsterId)
        (.C_SCORE mine.posInfo.objectId monsterId.toInt64.toUInt64)
  | disconnectFromGameServer : Queues s .disconnectFromGameServer .C_LEAVE_GAME
  | sendMove (actor : ActorRef) (place : Placement R) (player : AS1Player R)
      (hplayer : s.derefPlayer actor = .ok player) :
      Queues s (.sendMove actor place) (.C_MOVE (player.posInfo.withPlacement place))

/-- A tick that sends is such a call. -/
theorem GameCall.queues_of_tick {R : Type} [Field R] [LinearOrder R] {s : US1GameInstance R}
    {actor : ActorRef} {p : AS1MyPlayer R} (hplayer : s.derefPlayer actor = .ok p.player)
    {sqrt : R → R} {frame : Frame R} {pkt : ClientPacket R}
    (h : (p.tick sqrt frame).2 = some pkt) :
    (GameCall.sendMove actor ⟨p.player.location, frame.yaw, frame.pitch⟩).Queues s pkt := by
  rw [AS1MyPlayer.tick_sends_eq h]
  exact .sendMove actor _ p.player hplayer

/-- A text of the engine is a text on the wire. -/
theorem FString.utf8_toUtf8 (s : FString) :
    ∃ cs : List Char, s.toUtf8 = cs.flatMap String.utf8EncodeChar := ⟨_, rfl⟩

theorem ClientPacket.utf8_C_LOGIN (toBits : R → UInt32) (id password : FString) :
    (C_LOGIN id.toUtf8 password.toUtf8 : ClientPacket R).Utf8 toBits := by
  intro s hs
  have hs : s ∈ [id.toUtf8, password.toUtf8] := hs
  rcases List.mem_pair.mp hs with rfl | rfl
  · exact id.utf8_toUtf8
  · exact password.utf8_toUtf8

/-- All strings that are sent are texts: only a selected character has one. -/
theorem GameCall.Queues.utf8 {s : US1GameInstance R} {call : GameCall R} {pkt : ClientPacket R}
    (h : call.Queues s pkt) (toBits : R → UInt32) : pkt.Utf8 toBits := by
  intro text htext
  cases h with
  | selectCharacter index slot =>
    have htext : text ∈ [slot.name.toUtf8] := htext
    rw [List.mem_singleton.mp htext]
    exact slot.name.utf8_toUtf8
  | _ => cases htext

namespace US1GameInstance
variable [Zero R] {E : Engine R} {s t : US1GameInstance R}

/-- A packet that is handled queues nothing. -/
theorem outbox_of_dispatch {pkt : ServerPacket R} (h : s.dispatch E pkt = .ok t) :
    t.connected = s.connected ∧ t.outbox = s.outbox := by
  rw [dispatch_eq_run] at h
  exact ⟨(run_perform_guards h).1, outbox_of_session_eq (run_perform_session h)⟩

theorem outbox_of_moveMap {n : Int32} (hc : s.connected = true) (h : s.moveMap E n = .ok t) :
    t.connected = true ∧ t.outbox = s.outbox ++ [.C_ENTER_ROOM n.toInt64.toUInt64] := by
  obtain ⟨queue₁, -, h⟩ := Steps.bind_eq_ok.mp h
  obtain ⟨mid₁, hr₁, h⟩ := Steps.bind_eq_ok.mp h
  obtain ⟨queue₂, -, h⟩ := Steps.bind_eq_ok.mp h
  obtain ⟨mid₂, hr₂, h⟩ := Steps.bind_eq_ok.mp h
  obtain ⟨mine, -, h⟩ := Steps.bind_eq_ok.mp h
  obtain rfl := Except.ok.inj h
  rw [run_despawnPlayer] at hr₁
  rw [run_despawnEnemy] at hr₂
  have hmid : mid₂.outbox = s.outbox :=
    outbox_of_session_eq ((run_perform_session hr₂).trans (run_perform_session hr₁))
  have hmidc : mid₂.connected = true :=
    (run_perform_guards hr₂).1.trans ((run_perform_guards hr₁).1.trans hc)
  have hroom := outbox_sendPacket hmidc (.C_ENTER_ROOM n.toInt64.toUInt64)
  rw [hmid] at hroom
  exact hroom

/-- **One call** queues its packet, and nothing else. -/
theorem outbox_of_call {call : GameCall R} (hc : s.connected = true)
    (h : s.call E call = .ok t) :
    t.connected = true ∧ ∃ pkt, call.Queues s pkt ∧ t.outbox = s.outbox ++ [pkt] := by
  cases call with
  | moveMap n =>
    obtain ⟨ht, houtbox⟩ := outbox_of_moveMap hc h
    exact ⟨ht, _, .moveMap n, houtbox⟩
  | selectCharacter index =>
    have h : s.selectCharacter index = .ok t := h
    unfold selectCharacter at h
    by_cases hi : 0 ≤ index ∧ index.toNat < 5
    · rw [dif_pos hi] at h
      obtain rfl := Except.ok.inj h
      obtain ⟨ht, houtbox⟩ := outbox_sendPacket hc
        (.C_ENTER_GAME (CharacterSlot.selectedCharacter _))
      have hslot := s.getElem?_characterSlots index.toNat
      rw [dif_pos hi.2] at hslot
      exact ⟨ht, _, .selectCharacter index _ hi.1 hslot, houtbox⟩
    · rw [dif_neg hi] at h
      cases h
  | requestScore monsterId =>
    obtain ⟨⟨actor, mine⟩, hmine, h⟩ := Steps.bind_eq_ok.mp h
    obtain rfl := Except.ok.inj h
    obtain ⟨ht, houtbox⟩ := outbox_sendPacket hc
      (.C_SCORE mine.posInfo.objectId monsterId.toInt64.toUInt64)
    exact ⟨ht, _, .requestScore monsterId actor mine hmine, houtbox⟩
  | disconnectFromGameServer =>
    obtain rfl := Except.ok.inj h
    unfold disconnectFromGameServer
    rw [hc]
    obtain ⟨ht, houtbox⟩ := outbox_sendPacket hc .C_LEAVE_GAME
    exact ⟨ht, _, .disconnectFromGameServer, houtbox⟩
  | sendMove actor place =>
    obtain ⟨player, hplayer, h⟩ := Steps.bind_eq_ok.mp h
    obtain rfl := Except.ok.inj h
    obtain ⟨ht, houtbox⟩ := outbox_sendPacket hc (.C_MOVE (player.posInfo.withPlacement place))
    exact ⟨ht, _, .sendMove actor place player hplayer, houtbox⟩

/-! ## Positions -/

/-- The unknown fields of the players' positions are such as parsing adds. -/
def Positions (s : US1GameInstance R) : Prop := s.playerActors.All fun p => p.posInfo.Sound

omit [Zero R] in
theorem Initial.positions (h : s.Initial) : s.Positions := by
  unfold Positions
  rw [h.playerActors]
  exact Arena.all_empty

omit [Zero R] in
theorem Positions.modify (hs : s.Positions) (a : ActorRef) {f : AS1Player R → AS1Player R}
    (hf : ∀ p, (f p).posInfo = p.posInfo) :
    (s.playerActors.modify a f).All fun p => p.posInfo.Sound :=
  Arena.All.modify hs (fun p hp => by rwa [hf]) a

/-- **One effect.** -/
theorem Performed.positions {e : Effect R} (h : Performed E s e t) (he : e.Sound)
    (hs : s.Positions) : t.Positions := by
  cases h with
  | playerSpawned info isMine place => exact hs.spawn he
  | playerDespawned objectId a => exact hs.destroy a
  | moved pkt a => exact hs.modify a fun _ => rfl
  | scored pkt a => exact hs.modify a fun _ => rfl
  | _ => exact hs

theorem run_perform_positions {es : List (Effect R)} (hes : ∀ e ∈ es, e.Sound)
    (hs : s.Positions) (h : Steps.run (perform E) s es = .ok t) : t.Positions :=
  Steps.run_invariant_mem (fun _ e he _ hs h => (perform_cases h).positions (hes e he) hs) hs h

theorem positions_of_dispatch {pkt : ServerPacket R} (hpkt : ∀ e ∈ pkt.effects, e.Sound)
    (hs : s.Positions) (h : s.dispatch E pkt = .ok t) : t.Positions := by
  rw [dispatch_eq_run] at h
  exact run_perform_positions hpkt hs h

omit [Zero R] in
theorem Positions.sendPacket (hs : s.Positions) (pkt : ClientPacket R) :
    (s.sendPacket pkt).Positions := by
  obtain ⟨g, hg, -⟩ := s.sendPacket_eq pkt
  rw [hg]
  exact hs

/-- **One call** spawns nobody. -/
theorem positions_of_call {call : GameCall R} (hs : s.Positions) (h : s.call E call = .ok t) :
    t.Positions := by
  cases call with
  | moveMap n =>
    obtain ⟨m⟩ := moveMap_cases h
    have hmid : m.mid₂.Positions :=
      run_perform_positions (by simp [Effect.Sound])
        (run_perform_positions (by simp [Effect.Sound]) hs m.run₁) m.run₂
    rw [m.result]
    exact hmid.modify m.mine fun _ => rfl
  | selectCharacter index =>
    have h : s.selectCharacter index = .ok t := h
    unfold selectCharacter at h
    split at h
    · obtain rfl := Except.ok.inj h
      exact hs.sendPacket _
    · cases h
  | requestScore monsterId =>
    obtain ⟨mine, -, h⟩ := Steps.bind_eq_ok.mp h
    obtain rfl := Except.ok.inj h
    exact hs.sendPacket _
  | disconnectFromGameServer =>
    obtain rfl := Except.ok.inj h
    unfold disconnectFromGameServer
    split
    · exact hs
    · exact hs.sendPacket .C_LEAVE_GAME
  | sendMove actor place =>
    obtain ⟨player, -, h⟩ := Steps.bind_eq_ok.mp h
    obtain rfl := Except.ok.inj h
    exact hs.sendPacket _

omit [Zero R] in
/-- What is queued has unknown fields as they were parsed, if any. -/
theorem Positions.queues (hs : s.Positions) {call : GameCall R} {pkt : ClientPacket R}
    (h : call.Queues s pkt) : pkt.Sound := by
  cases h with
  | selectCharacter => exact fun _ hpos => by cases hpos
  | sendMove actor place player hplayer => exact hs actor player (derefPlayer_eq_ok.mp hplayer)
  | _ => trivial

end US1GameInstance
end S1Client
