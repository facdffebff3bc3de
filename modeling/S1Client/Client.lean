import S1Client.Framing
import S1Client.GameThread
import S1Client.SendWorker

/-!
# The client

The three threads of a session together: `RecvWorker` fills one queue, the game thread
empties it and fills the other through `MakeSendBuffer`, `SendWorker` empties that.  They
interleave in any way, and it does not show in the game: its state is one that the game
thread gets to alone, if it handles the messages of the server in the order they were sent
and makes its own calls in between (`playsAlone`).
-/
namespace S1Client
variable {R : Type}

/-- What the client runs on. -/
structure Platform (R : Type) where
  net : Network
  engine : Engine R
  /-- The number that the bits of a `float` stand for. -/
  ofBits : UInt32 → R
  toBits : R → UInt32
  /-- `GPacketHandler`. -/
  table : List PacketHandlerFunc
  initialized : ClientPacketHandler.Initialized table

/-- `GPacketHandler` after the first session was made. -/
def ClientPacketHandler.initTable : List PacketHandlerFunc := (init GPacketHandler).getD []

theorem ClientPacketHandler.initialized_initTable : Initialized initTable := by
  have hlen : GPacketHandler.length = UINT16_MAX := List.length_replicate
  obtain ⟨table, htable, -⟩ := init_spec hlen
  refine ⟨GPacketHandler, hlen, ?_⟩
  unfold initTable
  rw [htable]
  rfl

/-- A platform on which three bytes arrive at a time. -/
def Platform.obliging : Platform Int where
  net := ⟨fun _ => 10, fun _ => 3⟩
  engine := .obliging Int true
  ofBits bits := bits.toNat
  toBits x := .ofNat x.toNat
  table := ClientPacketHandler.initTable
  initialized := ClientPacketHandler.initialized_initTable

/-- The game instance and the workers of its session. -/
structure Client (R : Type) where
  game : US1GameInstance R
  recvWorker : RecvWorker
  sendWorker : SendWorker

/-- What happens next. -/
inductive ClientEvent (R : Type) where
  /-- A turn of `RecvWorker::Run`. -/
  | recvTurn
  /-- A turn of the loop of `PacketSession::HandleRecvPackets`. -/
  | handleRecvPacket
  /-- The game thread makes a call of its own. -/
  | call (call : GameCall R)
  /-- `SendWorker::Run` tries to take a buffer. -/
  | dequeue
  /-- A call of `FSocket::Send` returns. -/
  | send (result : SendResult)

namespace ClientEvent

def call? : ClientEvent R → Option (GameCall R)
  | .call c => some c
  | _ => none

/-- A call of `Send` fails. -/
def refuses : ClientEvent R → Bool
  | .send .refused => true
  | _ => false

theorem filterMap_call?_append {e : ClientEvent R} (h : e.call? = none)
    (events : List (ClientEvent R)) :
    (events ++ [e]).filterMap call? = events.filterMap call? := by
  rw [List.filterMap_append, List.filterMap_cons_none h, List.filterMap_nil, List.append_nil]

end ClientEvent

/-- What stops one of the threads. -/
inductive ClientFault where
  | recvWorker (fault : NetFault)
  | handlePacket (fault : DispatchFault)
  | call (fault : Fault)
  | makeSendBuffer (fault : NetFault)
  | sendWorker (fault : SendFault)
  deriving DecidableEq, Repr

/-- `MakeSendBuffer` and `PacketSession::SendPacket`. -/
def SendWorker.sendMessage (toBits : R → UInt32) (w : SendWorker) (pkt : ClientPacket R) :
    Except NetFault SendWorker :=
  w.sendPacket <$> makeSendBuffer (ClientPacket.serialize toBits) pkt

namespace Client
open Protocol (MessageClass)
open Steps (bind_eq_ok bind_eq_error mapError_eq_ok mapError_eq_error)
variable (P : Platform R)

/-- The client after a `ConnectToGameServer` that succeeds, with `bytes` sent to it. -/
def connect (s : US1GameInstance R) (handle : Nat) (id password : FString)
    (bytes : List UInt8) : Except ClientFault (Client R) := do
  let (game, _) ← (s.connectToGameServer (some handle) true id password).mapError .call
  let sendWorker ←
    (Steps.run (SendWorker.sendMessage P.toBits) .started game.outbox).mapError .makeSendBuffer
  return ⟨game, .started bytes, sendWorker⟩

/-- The game thread has come to `game`, and queued what is new in the outbox. -/
def commit (c : Client R) (game : US1GameInstance R) : Except ClientFault (Client R) := do
  let pkts := game.outbox.drop c.game.outbox.length
  let sendWorker ←
    (Steps.run (SendWorker.sendMessage P.toBits) c.sendWorker pkts).mapError .makeSendBuffer
  return { c with game, sendWorker }

variable [Zero R]

/-- A turn of the loop of `PacketSession::HandleRecvPackets`. -/
def handleRecvPacket (c : Client R) : Except ClientFault (Client R) :=
  if !c.game.connected then .ok c
  else
    match c.recvWorker.recvPacketQueue with
    | [] => .ok c
    | packet :: recvPacketQueue => do
      let game ← (PacketSession.handleRecvPacket P.engine (.generated P.ofBits) P.table c.game
        packet).mapError .handlePacket
      { c with recvWorker := { c.recvWorker with recvPacketQueue } }.commit P game

/-- One event. -/
def step (c : Client R) : ClientEvent R → Except ClientFault (Client R)
  | .recvTurn => do
    let recvWorker ← (c.recvWorker.runTurn P.net).mapError .recvWorker
    return { c with recvWorker }
  | .handleRecvPacket => c.handleRecvPacket P
  | .call call => do
    let game ← (c.game.call P.engine call).mapError .call
    c.commit P game
  | .dequeue => do
    let sendWorker ← c.sendWorker.dequeue.mapError .sendWorker
    return { c with sendWorker }
  | .send result => do
    let sendWorker ← (c.sendWorker.send result).mapError .sendWorker
    return { c with sendWorker }

variable {P} {c d : Client R}

omit [Zero R] in
theorem commit_eq_ok {game : US1GameInstance R} : c.commit P game = .ok d ↔
    ∃ sendWorker, Steps.run (SendWorker.sendMessage P.toBits) c.sendWorker
        (game.outbox.drop c.game.outbox.length) = .ok sendWorker ∧
      d = ⟨game, c.recvWorker, sendWorker⟩ := by
  unfold commit
  rw [bind_eq_ok]
  refine exists_congr fun sendWorker => and_congr mapError_eq_ok ?_
  exact ⟨fun h => (Except.ok.inj h).symm, fun h => congrArg Except.ok h.symm⟩

omit [Zero R] in
/-- After connecting, the login is all there is. -/
theorem connect_cases {s : US1GameInstance R} {handle : Nat} {id password : FString}
    {bytes : List UInt8} (h : connect P s handle id password bytes = .ok c) :
    c.recvWorker = .started bytes ∧ c.game.connected = true ∧
      c.game.outbox = [.C_LOGIN id.toUtf8 password.toUtf8] ∧
      Steps.run (SendWorker.sendMessage P.toBits) .started c.game.outbox = .ok c.sendWorker := by
  obtain ⟨⟨game, connected⟩, hgame, h⟩ := bind_eq_ok.mp h
  obtain ⟨w, hw, h⟩ := bind_eq_ok.mp h
  obtain rfl := Except.ok.inj h
  obtain ⟨rfl, -⟩ := Prod.mk.inj (Except.ok.inj (mapError_eq_ok.mp hgame))
  exact ⟨rfl, rfl, rfl, mapError_eq_ok.mp hw⟩

/-- A turn of the loop takes the first packet, or does nothing for want of one. -/
theorem handleRecvPacket_cases (h : c.handleRecvPacket P = .ok d) :
    (c.game.connected = true → c.recvWorker.recvPacketQueue = []) ∧ d = c ∨
    ∃ packet queue game sendWorker, c.recvWorker.recvPacketQueue = packet :: queue ∧
      PacketSession.handleRecvPacket P.engine (.generated P.ofBits) P.table c.game packet =
        .ok game ∧
      Steps.run (SendWorker.sendMessage P.toBits) c.sendWorker
        (game.outbox.drop c.game.outbox.length) = .ok sendWorker ∧
      d = ⟨game, { c.recvWorker with recvPacketQueue := queue }, sendWorker⟩ := by
  unfold handleRecvPacket at h
  by_cases hc : c.game.connected = true
  · rw [hc] at h
    cases hqueue : c.recvWorker.recvPacketQueue with
    | nil =>
      rw [hqueue] at h
      exact Or.inl ⟨fun _ => rfl, (Except.ok.inj h).symm⟩
    | cons packet queue =>
      rw [hqueue] at h
      obtain ⟨game, hgame, h⟩ := bind_eq_ok.mp h
      obtain ⟨sendWorker, hsend, hd⟩ := commit_eq_ok.mp h
      exact Or.inr ⟨packet, queue, game, sendWorker, rfl, mapError_eq_ok.mp hgame, hsend, hd⟩
  · have hfalse : c.game.connected = false := by simpa using hc
    rw [hfalse] at h
    exact Or.inl ⟨fun htrue => absurd htrue hc, (Except.ok.inj h).symm⟩

/-! ## What the server sends -/

/-- When a turn of the receiving thread has read the header of a packet with a payload, a
byte of the payload has arrived. -/
def PayloadPending (P : Platform R) (c : Client R) : ClientEvent R → Prop
  | .recvTurn => c.recvWorker.PayloadPending P.net ()
  | _ => True

/-- The game thread alone: from `start` it has handled what decodes of the packets in front
of those that are on their way, and made the calls of `events`. -/
def Serial (P : Platform R) (sent : List (List UInt8)) (start : US1GameInstance R)
    (events : List (ClientEvent R)) (c : Client R) : Prop :=
  ∃ handled later ops, sent = handled ++ later ∧ c.recvWorker.InStep later ∧
    Steps.run (US1GameInstance.operate P.engine) start ops = .ok c.game ∧
    ops.filterMap GameOp.packet? = handled.filterMap (Parser.generated P.ofBits).decode ∧
    ops.filterMap GameOp.call? = events.filterMap ClientEvent.call?

/-- A packet that is handled is an operation if it decodes, and none if not. -/
theorem operate_of_handleRecvPacket {s t : US1GameInstance R} {packet : List UInt8}
    (h : PacketSession.handleRecvPacket P.engine (.generated P.ofBits) P.table s packet = .ok t) :
    Steps.run (US1GameInstance.operate P.engine) s
      (((Parser.generated P.ofBits).decode packet).toList.map .packet) = .ok t := by
  have hlen : HeaderSize ≤ packet.length := by
    apply Nat.le_of_not_lt
    intro hlt
    unfold PacketSession.handleRecvPacket ClientPacketHandler.handlePacket at h
    rw [if_pos hlt] at h
    cases h
  have hid : (packetId packet).toNat < UINT16_MAX := by
    apply Nat.lt_of_not_le
    intro hid
    rw [PacketSession.handleRecvPacket_outside _ _ P.initialized s hid] at h
    cases h
  rw [PacketSession.handleRecvPacket_eq _ _ P.initialized s hlen hid] at h
  cases hdecode : (Parser.generated P.ofBits).decode packet with
  | none =>
    rw [hdecode] at h
    obtain rfl : s = t := Except.ok.inj h
    rfl
  | some pkt =>
    rw [hdecode] at h
    exact Steps.run_singleton.trans (mapError_eq_ok.mp h)

/-- **One event.** -/
theorem Serial.step {sent : List (List UInt8)} {start : US1GameInstance R}
    {events : List (ClientEvent R)} {e : ClientEvent R} (hsent : ∀ p ∈ sent, WellFramed p)
    (hc : Serial P sent start events c) (he : c.PayloadPending P e) (h : c.step P e = .ok d) :
    Serial P sent start (events ++ [e]) d := by
  obtain ⟨handled, later, ops, hsplit, hin, hrun, hpackets, hcalls⟩ := hc
  have hquiet (hnone : e.call? = none) := ClientEvent.filterMap_call?_append hnone events
  cases e with
  | recvTurn =>
    obtain ⟨recvWorker, hturn, h⟩ := bind_eq_ok.mp h
    obtain rfl := Except.ok.inj h
    have hlater : ∀ p ∈ later, WellFramed p := fun p hp => hsent p (by rw [hsplit]; simp [hp])
    exact ⟨handled, later, ops, hsplit, hin.turn hlater he (mapError_eq_ok.mp hturn), hrun,
      hpackets, hcalls.trans (hquiet rfl).symm⟩
  | handleRecvPacket =>
    rcases handleRecvPacket_cases h with
      ⟨-, rfl⟩ | ⟨packet, queue, game, sendWorker, hqueue, hgame, -, rfl⟩
    · exact ⟨handled, later, ops, hsplit, hin, hrun, hpackets, hcalls.trans (hquiet rfl).symm⟩
    obtain ⟨rest, hlater, hunread⟩ := hin
    rw [hqueue] at hlater
    refine ⟨handled ++ [packet], queue ++ rest,
      ops ++ ((Parser.generated P.ofBits).decode packet).toList.map .packet, ?_,
      ⟨rest, rfl, hunread⟩, Steps.run_append.mpr ⟨_, hrun, operate_of_handleRecvPacket hgame⟩,
      ?_, ?_⟩
    · rw [hsplit, hlater]
      simp
    · rw [List.filterMap_append, List.filterMap_append, hpackets]
      cases hdecode : (Parser.generated P.ofBits).decode packet <;>
        simp [hdecode, GameOp.packet?]
    · rw [List.filterMap_append, hcalls, hquiet rfl]
      cases (Parser.generated P.ofBits).decode packet <;> simp [GameOp.call?]
  | call call =>
    obtain ⟨game, hgame, h⟩ := bind_eq_ok.mp h
    obtain ⟨sendWorker, -, rfl⟩ := commit_eq_ok.mp h
    refine ⟨handled, later, ops ++ [.call call], hsplit, hin,
      Steps.run_append.mpr ⟨_, hrun, Steps.run_singleton.trans (mapError_eq_ok.mp hgame)⟩, ?_, ?_⟩
    · rw [List.filterMap_append, hpackets]
      exact List.append_nil _
    · rw [List.filterMap_append, List.filterMap_append, hcalls]
      rfl
  | dequeue =>
    obtain ⟨sendWorker, -, h⟩ := bind_eq_ok.mp h
    obtain rfl := Except.ok.inj h
    exact ⟨handled, later, ops, hsplit, hin, hrun, hpackets, hcalls.trans (hquiet rfl).symm⟩
  | send result =>
    obtain ⟨sendWorker, -, h⟩ := bind_eq_ok.mp h
    obtain rfl := Except.ok.inj h
    exact ⟨handled, later, ops, hsplit, hin, hrun, hpackets, hcalls.trans (hquiet rfl).symm⟩

/-- A packet that is handled puts nothing in the outbox. -/
theorem outbox_of_handleRecvPacket {s t : US1GameInstance R} {packet : List UInt8}
    (h : PacketSession.handleRecvPacket P.engine (.generated P.ofBits) P.table s packet = .ok t) :
    t.connected = s.connected ∧ t.outbox = s.outbox := by
  have hrun := operate_of_handleRecvPacket h
  cases hdecode : (Parser.generated P.ofBits).decode packet with
  | none =>
    rw [hdecode] at hrun
    obtain rfl : s = t := Except.ok.inj hrun
    exact ⟨rfl, rfl⟩
  | some pkt =>
    rw [hdecode] at hrun
    exact US1GameInstance.outbox_of_dispatch (Steps.run_singleton.symm.trans hrun)

/-- **Any interleaving** is a run of the game thread alone. -/
theorem serial_of_run {sent : List (List UInt8)} {events : List (ClientEvent R)}
    (hsent : ∀ p ∈ sent, WellFramed p) (hstart : c.recvWorker = .started sent.flatten)
    (hmeets : Steps.Meets (step P) (PayloadPending P) c events)
    (h : Steps.run (step P) c events = .ok d) : Serial P sent c.game events d := by
  have hbegin : Serial P sent c.game [] c :=
    ⟨[], sent, [], rfl, by rw [hstart]; exact ⟨sent, rfl, rfl⟩, rfl, rfl, rfl⟩
  exact Steps.run_history (fun _ _ _ _ hs he h => hs.step hsent he h) hbegin hmeets h

/-- The game thread alone gets from `start` to the game of `d`: it handles the first of the
messages, each once and in their order, and makes its own calls in between, in their order.
A message with a string that is not UTF-8 is left out.  When nothing is on its way any
more, all messages have been handled. -/
def PlaysAlone (P : Platform R) (messages : List ServerMessage) (events : List (ClientEvent R))
    (start : US1GameInstance R) (d : Client R) : Prop :=
  ∃ handled later ops, messages = handled ++ later ∧
    Steps.run (US1GameInstance.operate P.engine) start ops = .ok d.game ∧
    ops.filterMap GameOp.packet? =
      (handled.filter ServerMessage.isText).map (.ofMessage P.ofBits) ∧
    ops.filterMap GameOp.call? = events.filterMap ClientEvent.call? ∧
    (d.recvWorker.recvPacketQueue = [] → d.recvWorker.inbound.unread = [] → later = [])

/-- No packet is empty, so none is on its way when nothing is. -/
theorem eq_nil_of_inStep {w : RecvWorker} {later : List (List UInt8)} (hw : w.InStep later)
    (hlater : ∀ p ∈ later, WellFramed p) (hqueue : w.recvPacketQueue = [])
    (hunread : w.inbound.unread = []) : later = [] := by
  obtain ⟨rest, rfl, hrest⟩ := hw
  rw [hqueue, List.nil_append]
  rw [hunread] at hrest
  by_contra hne
  obtain ⟨p, hp⟩ := List.exists_mem_of_ne_nil rest hne
  have hlen := (hlater p (List.mem_append_right _ hp)).1
  rw [List.flatten_eq_nil_iff.mp hrest.symm p hp] at hlen
  cases hlen

/-- **The interleaving of the threads does not show**, whatever the network does and
however the threads take turns. -/
theorem playsAlone {s : US1GameInstance R} {handle : Nat} {id password : FString}
    {events : List (ClientEvent R)} {sent : List (List UInt8)} {messages : List ServerMessage}
    (hsent : List.Forall₂ ServerMessage.Sent sent messages)
    (hconnect : connect P s handle id password sent.flatten = .ok c)
    (hmeets : Steps.Meets (step P) (PayloadPending P) c events)
    (hrun : Steps.run (step P) c events = .ok d) : PlaysAlone P messages events c.game d := by
  obtain ⟨hstart, -⟩ := connect_cases hconnect
  have hframed : ∀ p ∈ sent, WellFramed p :=
    ((List.forall₂_and_left _ _).mp (hsent.imp fun _ _ h => ⟨h.1.1, h⟩)).1
  obtain ⟨handled, later, ops, rfl, hin, hops, hpackets, hcalls⟩ :=
    serial_of_run hframed hstart hmeets hrun
  have hhandled := (List.forall₂_take_append messages handled _ hsent.flip).flip
  have hlater := (List.forall₂_drop_append messages handled _ hsent.flip).flip
  refine ⟨messages.take handled.length, messages.drop handled.length, ops,
    (List.take_append_drop ..).symm, hops, ?_, hcalls, fun hqueue hnone => ?_⟩
  · rw [hpackets]
    exact Parser.filterMap_decode_generated P.ofBits hhandled
  · rw [eq_nil_of_inStep hin (fun p hp => hframed p (List.mem_append_right _ hp)) hqueue
      hnone] at hlater
    exact List.forall₂_nil_left_iff.mp hlater

/-! ## A run -/

/-- The position of player 7, with a field that the client does not know. -/
def farPosition : PosInfo Int :=
  { PosInfo.default with objectId := 7, unknownFields := [.varint 9 1] }

/-- Player 7 enters there. -/
def entering : ServerMessage :=
  ⟨.S_ENTER_GAME, Protocol.S_ENTER_GAME.mk true
    (some ⟨7, 5, some ⟨7, 0, 0, 0, 0, 0, 0, [.varint 9 1]⟩, 0, none, 0, []⟩) []⟩

def enteringBytes : List UInt8 :=
  [18, 0, 235, 3, 8, 1, 18, 10, 8, 7, 16, 5, 26, 4, 8, 7, 72, 1]

theorem sent_entering : ServerMessage.Sent enteringBytes entering := by
  have hpos : Protocol.PosInfo.schema.Sound (MessageClass.recursionLimit - 1 - 1)
      ⟨7, 0, 0, 0, 0, 0, 0, [.varint 9 1]⟩ := by
    refine ⟨by simp [Protocol.PosInfo.schema], fun k hk => ?_⟩
    obtain rfl := List.mem_singleton.mp hk
    exact (MessageClass.keeps_iff (c := .PosInfo)).mpr ⟨by decide, .varint (by decide)⟩
  have hplayer : Protocol.ObjectInfo.schema.Sound (MessageClass.recursionLimit - 1)
      ⟨7, 5, some ⟨7, 0, 0, 0, 0, 0, 0, [.varint 9 1]⟩, 0, none, 0, []⟩ :=
    Tagged.Schema.sound_of_kept_nil (by simpa [Protocol.ObjectInfo.schema] using hpos) rfl
  refine ⟨⟨by decide, by decide, by decide⟩, Tagged.Schema.sound_of_kept_nil ?_ rfl⟩
  show ∀ f ∈ Protocol.S_ENTER_GAME.schema.fields, f.codec.Sound _ (f.get ⟨true, some _, []⟩)
  simpa [Protocol.S_ENTER_GAME.schema] using hplayer

/-- A chat that is not UTF-8. -/
def strayChat : ServerMessage := ⟨.S_CHAT, Protocol.S_CHAT.mk 0 [255] []⟩

def strayChatBytes : List UInt8 := [7, 0, 251, 3, 18, 1, 255]

theorem sent_strayChat : ServerMessage.Sent strayChatBytes strayChat := by
  refine ⟨⟨by decide, by decide, by decide⟩, Tagged.Schema.sound_of_kept_nil ?_ rfl⟩
  show ∀ f ∈ Protocol.S_CHAT.schema.fields, f.codec.Sound _ (f.get ⟨0, [255], []⟩)
  simp [Protocol.S_CHAT.schema]

theorem sent_messages :
    List.Forall₂ ServerMessage.Sent [enteringBytes, strayChatBytes] [entering, strayChat] :=
  .cons sent_entering (.cons sent_strayChat .nil)

/-- Both are received and handled, the player moves, and the game is left.  The login goes
out, and a part of the move. -/
def moveAndLeave : List (ClientEvent Int) :=
  [.recvTurn, .recvTurn, .handleRecvPacket, .handleRecvPacket,
    .call (.sendMove 0 ⟨⟨1, 2, 3⟩, 0, 0⟩), .dequeue, .send (.accepted 4), .dequeue,
    .send (.accepted 20), .call .disconnectFromGameServer]

/-- The client with a login in the outbox, as `connect` leaves it. -/
def loggedIn : Client Int where
  game := { US1GameInstance.started Int with
    socket := some ⟨1, true⟩
    gameServerSession := some ⟨⟨1, true⟩, [.C_LOGIN [] []]⟩ }
  recvWorker := .started [enteringBytes, strayChatBytes].flatten
  sendWorker := ⟨[⟨[4, 0, 232, 3], 4, by decide⟩], none, []⟩

/-- Both messages are in the queue. -/
def received : Client Int :=
  { loggedIn with recvWorker := ⟨⟨[], [], 14⟩, [enteringBytes, strayChatBytes]⟩ }

/-- The game of player 7. -/
def entered : US1GameInstance Int :=
  { loggedIn.game with
    spawnCalls := 1
    possessed := some 0
    playerActors := Arena.empty.spawn (US1GameInstance.spawnedPlayer
      (ObjectInfo.mk 7 .player (some farPosition) .none none) true ⟨⟨0, 0, 0⟩, 0, 0⟩)
    myPlayer := some 0
    players := SlotMap.empty.add 7 0 }

/-- The end of the run. -/
def leftAfterMove : Client Int where
  game := { entered with
    gameServerSession := some ⟨⟨1, true⟩,
      [.C_LOGIN [] [], .C_MOVE (farPosition.withPlacement ⟨⟨1, 2, 3⟩, 0, 0⟩), .C_LEAVE_GAME]⟩
    players := .empty }
  recvWorker := ⟨⟨[], [], 14⟩, []⟩
  sendWorker := ⟨[⟨[4, 0, 238, 3], 4, by decide⟩],
    some ⟨[25, 0, 242, 3, 10, 19, 8, 7, 21, 1, 0, 0, 0, 29, 2, 0, 0, 0, 37, 3, 0, 0, 0, 72, 1],
      20, 5, by decide⟩,
    [4, 0, 232, 3, 25, 0, 242, 3, 10, 19, 8, 7, 21, 1, 0, 0, 0, 29, 2, 0, 0, 0, 37, 3]⟩

theorem connect_loggedIn : connect .obliging (US1GameInstance.started Int) 1 [] []
    [enteringBytes, strayChatBytes].flatten = .ok loggedIn := rfl

theorem recvTurn_loggedIn : loggedIn.step .obliging .recvTurn = .ok { loggedIn with
    recvWorker := ⟨⟨strayChatBytes, [], 9⟩, [enteringBytes]⟩ } := rfl

theorem recvTurn_received : step .obliging { loggedIn with
    recvWorker := ⟨⟨strayChatBytes, [], 9⟩, [enteringBytes]⟩ } .recvTurn = .ok received := rfl

theorem handle_entering : received.step .obliging .handleRecvPacket =
    .ok { received with
      game := entered
      recvWorker := { received.recvWorker with recvPacketQueue := [strayChatBytes] } } := by
  have hpacket : PacketSession.handleRecvPacket Platform.obliging.engine
      (.generated Platform.obliging.ofBits) Platform.obliging.table loggedIn.game enteringBytes =
        .ok entered := by
    rw [PacketSession.handleRecvPacket_eq _ _ Platform.obliging.initialized _ (by decide)
      (by decide)]
    rfl
  show (Except.mapError _ (PacketSession.handleRecvPacket Platform.obliging.engine
    (.generated Platform.obliging.ofBits) Platform.obliging.table loggedIn.game
    enteringBytes) >>= _) = _
  rw [hpacket]
  rfl

theorem handle_strayChat : step .obliging { received with
      game := entered
      recvWorker := { received.recvWorker with recvPacketQueue := [strayChatBytes] } }
        .handleRecvPacket =
    .ok { received with
      game := entered
      recvWorker := { received.recvWorker with recvPacketQueue := [] } } := by
  have hpacket : PacketSession.handleRecvPacket Platform.obliging.engine
      (.generated Platform.obliging.ofBits) Platform.obliging.table entered strayChatBytes =
        .ok entered := by
    rw [PacketSession.handleRecvPacket_eq _ _ Platform.obliging.initialized _ (by decide)
      (by decide)]
    rfl
  show (Except.mapError _ (PacketSession.handleRecvPacket Platform.obliging.engine
    (.generated Platform.obliging.ofBits) Platform.obliging.table entered
    strayChatBytes) >>= _) = _
  rw [hpacket]
  rfl

theorem run_moveAndLeave :
    Steps.run (step .obliging) loggedIn moveAndLeave = .ok leftAfterMove := by
  refine Steps.run_cons.mpr ⟨_, recvTurn_loggedIn, Steps.run_cons.mpr ⟨_, recvTurn_received, ?_⟩⟩
  exact Steps.run_cons.mpr ⟨_, handle_entering, Steps.run_cons.mpr ⟨_, handle_strayChat, rfl⟩⟩

theorem meets_moveAndLeave :
    Steps.Meets (step .obliging) (PayloadPending .obliging) loggedIn moveAndLeave := by
  have hfirst : loggedIn.PayloadPending .obliging .recvTurn := by
    intro header s' h _
    have hread : Except.ok (true, [18, 0, 235, 3], _) = Except.ok (true, header, s') := h
    obtain ⟨-, rfl⟩ := Prod.mk.inj (Prod.mk.inj (Except.ok.inj hread)).2
    rfl
  have hsecond : PayloadPending .obliging { loggedIn with
      recvWorker := ⟨⟨strayChatBytes, [], 9⟩, [enteringBytes]⟩ } .recvTurn := by
    intro header s' h _
    have hread : Except.ok (true, [7, 0, 251, 3], _) = Except.ok (true, header, s') := h
    obtain ⟨-, rfl⟩ := Prod.mk.inj (Prod.mk.inj (Except.ok.inj hread)).2
    rfl
  refine fun d hd => ⟨hfirst, fun e he => ⟨?_, Steps.meets_of_forall ?_ e⟩⟩
  · rwa [← Except.ok.inj (recvTurn_loggedIn.symm.trans hd)]
  · intro c i hi
    cases i with
    | recvTurn => simp at hi
    | _ => trivial

/-- Player 7 enters and moves; the chat is left out. -/
theorem playsAlone_moveAndLeave :
    PlaysAlone .obliging [entering, strayChat] moveAndLeave loggedIn.game leftAfterMove :=
  playsAlone sent_messages connect_loggedIn meets_moveAndLeave run_moveAndLeave

end Client
end S1Client
