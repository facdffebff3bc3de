import S1Client.Outgoing
import S1Client.PacketSizes

/-!
# Faults of the client

In any interleaving, on packets that come whole and have an id inside the table, the
network code runs into no fault: no `Recv` waits for ever, no buffer or table is accessed
outside, no empty slot is called.  What is left is a handler, a call of the game, or
a packet of the game that gets too long: by the name of the selected character, or by
what the server's position of a player had for unknown fields (`excused`).
-/
namespace S1Client
namespace Client
open Steps (bind_eq_error mapError_eq_ok mapError_eq_error)
variable {R : Type} [Zero R] {P : Platform R} {c d : Client R}

omit [Zero R] in
/-- On packets that come whole, the receiving thread runs into no fault. -/
theorem exists_runTurn (net : Network) {later : List (List UInt8)} {w : RecvWorker}
    (hlater : ∀ p ∈ later, WellFramed p) (hw : w.InStep later) :
    ∃ w', w.runTurn net = .ok w' := by
  obtain ⟨rest, hsplit, hunread⟩ := hw
  unfold RecvWorker.runTurn
  cases rest with
  | nil =>
    have hpending : (w.inbound.hasPendingData net).1 = false := by
      rw [← Bool.not_eq_true]
      exact fun h => Inbound.unread_ne_nil h hunread
    rw [receivePacket_of_no_header (receiveDesiredBytes_of_not_pending hpending)]
    exact ⟨_, rfl⟩
  | cons p rest =>
    have hp : WellFramed p := hlater p (by rw [hsplit]; simp)
    rw [List.flatten_cons] at hunread
    rcases receivePacket_cases net hp hunread with
      ⟨-, s', hpacket, -⟩ | ⟨s', -, -, -, ⟨-, hpacket⟩ | ⟨-, -, out, s'', hpacket, -⟩ |
        ⟨-, -, s'', hpacket, -, -⟩⟩
    all_goals
      rw [hpacket]
      exact ⟨_, rfl⟩

omit [Zero R] in
/-- Only a packet whose length comes near a multiple of 65536 cannot be made a buffer. -/
theorem tooLong_of_sendMessages {toBits : R → UInt32} {w : SendWorker}
    {pkts : List (ClientPacket R)} {fault : NetFault}
    (h : Steps.run (SendWorker.sendMessage toBits) w pkts = .error fault) :
    ∃ pkt ∈ pkts, 65532 ≤ (pkt.serialize toBits).length % 65536 := by
  obtain ⟨before, pkt, after, u, rfl, -, herror⟩ := Steps.run_eq_error h
  refine ⟨pkt, by simp, ?_⟩
  have h4 : HeaderSize = 4 := rfl
  have herror : u.sendPacket <$> makeSendBufferOf (pkt.serialize toBits) pkt.pktId =
    .error fault := herror
  rcases makeSendBufferOf_cases (pkt.serialize toBits) pkt.pktId rfl with
    ⟨hlong, -⟩ | ⟨-, b, hb, -⟩
  · omega
  · rw [hb] at herror
    cases herror

/-- The network code is not to blame: a handler or a call of the game runs into a fault, the
name in the slot that is selected or the unknown fields of the position that is sent are too
long, or the event does not happen in such a state. -/
inductive Excused (s : US1GameInstance R) : ClientEvent R → ClientFault → Prop
  | handler (fault : Fault) : Excused s .handleRecvPacket (.handlePacket (.handler fault))
  | call (call : GameCall R) (fault : Fault) : Excused s (.call call) (.call fault)
  | longName (index : Int) (slot : CharacterSlot) (fault : NetFault)
      (hslot : slot ∈ s.characterSlots) (hlong : 65000 ≤ slot.name.toUtf8.length) :
      Excused s (.call (.selectCharacter index)) (.makeSendBuffer fault)
  | longPosition (actor : ActorRef) (place : Placement R) (player : AS1Player R)
      (fault : NetFault) (hplayer : s.playerActors.get? actor = some player)
      (hlong : 65000 ≤ WireFormat.computeUnknownFieldsSize player.posInfo.unknownFields) :
      Excused s (.call (.sendMove actor place)) (.makeSendBuffer fault)
  | notDequeued (fault : SendFault) : Excused s .dequeue (.sendWorker fault)
  | notSent (result : SendResult) (fault : SendFault) :
      Excused s (.send result) (.sendWorker fault)

/-- A packet inside the table is dispatched, and only that can fail. -/
theorem handleRecvPacket_error {fault : ClientFault}
    (hqueue : ∀ packet ∈ c.recvWorker.recvPacketQueue,
      WellFramed packet ∧ (packetId packet).toNat < UINT16_MAX)
    (h : c.handleRecvPacket P = .error fault) : ∃ f, fault = .handlePacket (.handler f) := by
  unfold handleRecvPacket at h
  by_cases hc : c.game.connected = true
  · rw [hc] at h
    cases hqueued : c.recvWorker.recvPacketQueue with
    | nil =>
      rw [hqueued] at h
      cases h
    | cons packet queue =>
      rw [hqueued] at h
      obtain ⟨hframed, hid⟩ := hqueue packet (by rw [hqueued]; exact List.mem_cons_self)
      rcases bind_eq_error.mp h with h | ⟨game, hgame, h⟩
      · obtain ⟨f, hf, rfl⟩ := mapError_eq_error.mp h
        rw [PacketSession.handleRecvPacket_eq _ _ P.initialized _ hframed.1 hid] at hf
        cases hdecode : (Parser.generated P.ofBits).decode packet with
        | none =>
          rw [hdecode] at hf
          cases hf
        | some pkt =>
          rw [hdecode] at hf
          obtain ⟨f', -, rfl⟩ := mapError_eq_error.mp hf
          exact ⟨f', rfl⟩
      · obtain ⟨-, hsame⟩ := outbox_of_handleRecvPacket (mapError_eq_ok.mp hgame)
        unfold commit at h
        dsimp only at h
        rw [hsame, List.drop_length] at h
        cases h
  · rw [Bool.not_eq_true] at hc
    rw [hc] at h
    cases h

/-- The game queues a packet that cannot be made a buffer. -/
theorem excused_of_call {call : GameCall R} {game : US1GameInstance R} {fault : NetFault}
    (hc : c.game.connected = true) (hgame : c.game.call P.engine call = .ok game)
    (h : Steps.run (SendWorker.sendMessage P.toBits) c.sendWorker
      (game.outbox.drop c.game.outbox.length) = .error fault) :
    Excused c.game (.call call) (.makeSendBuffer fault) := by
  obtain ⟨-, pkt, hqueues, houtbox⟩ := US1GameInstance.outbox_of_call hc hgame
  rw [houtbox, List.drop_left] at h
  obtain ⟨pkt', hpkt', hlong⟩ := tooLong_of_sendMessages h
  obtain rfl := List.mem_singleton.mp hpkt'
  rcases hqueues.length_le P.toBits with
    hshort | ⟨index, rfl, slot, hslot, hname⟩ | ⟨actor, place, rfl, player, hplayer, hunknown⟩
  · omega
  · exact .longName index slot fault hslot (by omega)
  · exact .longPosition actor place player fault hplayer (by omega)

/-- **One event** runs into no fault of the network code. -/
theorem Serial.step_error {sent : List (List UInt8)} {start : US1GameInstance R}
    {events : List (ClientEvent R)} {e : ClientEvent R} {fault : ClientFault}
    (hsent : ∀ p ∈ sent, WellFramed p ∧ (packetId p).toNat < UINT16_MAX)
    (hc : Serial P sent start events c) (hconnected : c.game.connected = true)
    (h : c.step P e = .error fault) : Excused c.game e fault := by
  obtain ⟨handled, later, ops, rfl, hin, -⟩ := hc
  have hlater : ∀ p ∈ later, WellFramed p ∧ (packetId p).toNat < UINT16_MAX :=
    fun p hp => hsent p (List.mem_append_right _ hp)
  cases e with
  | recvTurn =>
    obtain ⟨w, hw⟩ := exists_runTurn P.net (fun p hp => (hlater p hp).1) hin
    have h : (c.recvWorker.runTurn P.net).mapError ClientFault.recvWorker >>= _ = .error fault := h
    rw [hw] at h
    cases h
  | handleRecvPacket =>
    obtain ⟨rest, hsplit, -⟩ := hin
    obtain ⟨f, rfl⟩ := handleRecvPacket_error
      (fun p hp => hlater p (by rw [hsplit]; exact List.mem_append_left _ hp)) h
    exact .handler f
  | call call =>
    rcases bind_eq_error.mp h with h | ⟨game, hgame, h⟩
    · obtain ⟨f, -, rfl⟩ := mapError_eq_error.mp h
      exact .call call f
    · rcases bind_eq_error.mp h with h | ⟨w, -, h⟩
      · obtain ⟨f, hf, rfl⟩ := mapError_eq_error.mp h
        exact excused_of_call hconnected (mapError_eq_ok.mp hgame) hf
      · cases h
  | dequeue =>
    rcases bind_eq_error.mp h with h | ⟨w, -, h⟩
    · obtain ⟨f, -, rfl⟩ := mapError_eq_error.mp h
      exact .notDequeued f
    · cases h
  | send result =>
    rcases bind_eq_error.mp h with h | ⟨w, -, h⟩
    · obtain ⟨f, -, rfl⟩ := mapError_eq_error.mp h
      exact .notSent result f
    · cases h

/-- **No fault of the network code**, in any run. -/
theorem excused {s : US1GameInstance R} {handle : Nat} {id password : FString}
    {events : List (ClientEvent R)} {sent : List (List UInt8)} {e : ClientEvent R}
    {fault : ClientFault} (hsent : ∀ p ∈ sent, WellFramed p ∧ (packetId p).toNat < UINT16_MAX)
    (hconnect : connect P s handle id password sent.flatten = .ok c)
    (hmeets : Steps.Meets (step P) (PayloadPending P) c events)
    (hrun : Steps.run (step P) c events = .ok d) (h : d.step P e = .error fault) :
    Excused d.game e fault := by
  obtain ⟨hstart, -⟩ := connect_cases hconnect
  have hserial := serial_of_run (fun p hp => (hsent p hp).1) hstart hmeets hrun
  exact hserial.step_error hsent (posted_of_run (posted_of_connect hconnect) hrun).connected h

/-- There is no sixth slot. -/
theorem excused_selectCharacter :
    Excused leftAfterMove.game (.call (.selectCharacter 5)) (.call .outOfBounds) := by
  have hsent : ∀ p ∈ [enteringBytes, strayChatBytes],
      WellFramed p ∧ (packetId p).toNat < UINT16_MAX := by decide
  exact excused hsent connect_loggedIn meets_moveAndLeave run_moveAndLeave rfl

end Client
end S1Client
