import S1Client.Effects
import S1Client.RecvWorker

/-!
# Dispatching byte packets

`PacketSession::HandleRecvPackets` takes the queued byte packets one by one and
calls the handler that `GPacketHandler` holds under the id in the header.  The
table is declared with `UINT16_MAX` slots and `Init` fills all of them, so the one
id without a slot is `UINT16_MAX` itself (`drain_inside_iff`).  A packet without a
registered handler, or whose payload does not parse, does nothing: the queue acts
as the packets that decode, in order (`drain_filter`).

`ParseFromArray` belongs to protobuf; it is a parameter.
-/
namespace S1Client

/-- The packets with a registered handler. -/
inductive PacketType where
  | S_LOGIN | S_ENTER_GAME | S_ENTER_ROOM | S_LEAVE_GAME | S_SPAWN | S_DESPAWN
  | S_MOVE | S_SHOOT | S_REMOVE_BULLET | S_SCORE | S_CHAT | S_AI
  deriving DecidableEq, Repr

/-- `PKT_*`. -/
def PacketType.pktId : PacketType → UInt16
  | .S_LOGIN => 1001
  | .S_ENTER_GAME => 1003
  | .S_ENTER_ROOM => 1005
  | .S_LEAVE_GAME => 1007
  | .S_SPAWN => 1008
  | .S_DESPAWN => 1009
  | .S_MOVE => 1011
  | .S_SHOOT => 1013
  | .S_REMOVE_BULLET => 1015
  | .S_SCORE => 1017
  | .S_CHAT => 1019
  | .S_AI => 1021

/-- The class a decoded packet is of. -/
def ServerPacket.type {R : Type} : ServerPacket R → PacketType
  | .S_LOGIN _ => .S_LOGIN
  | .S_ENTER_GAME _ => .S_ENTER_GAME
  | .S_ENTER_ROOM _ => .S_ENTER_ROOM
  | .S_LEAVE_GAME => .S_LEAVE_GAME
  | .S_SPAWN _ => .S_SPAWN
  | .S_DESPAWN _ => .S_DESPAWN
  | .S_MOVE _ => .S_MOVE
  | .S_SHOOT => .S_SHOOT
  | .S_REMOVE_BULLET => .S_REMOVE_BULLET
  | .S_SCORE _ => .S_SCORE
  | .S_CHAT _ => .S_CHAT
  | .S_AI _ => .S_AI

/-- `ParseFromArray` of the generated classes: a packet of that class, or failure. -/
structure Parser (R : Type) where
  parseFromArray : PacketType → List UInt8 → Option (ServerPacket R)
  type_eq : ∀ type bytes pkt, parseFromArray type bytes = some pkt → pkt.type = type

/-- What a slot of `GPacketHandler` holds. -/
inductive PacketHandlerFunc where
  /-- No function: a call throws. -/
  | empty
  | Handle_INVALID
  /-- `HandlePacket<Protocol::type>` with the `Handle_*` function of the type. -/
  | HandlePacket (type : PacketType)
  deriving DecidableEq, Repr

/-- What stops the drain loop. -/
inductive DispatchFault where
  /-- A packet or the table was read outside its bounds. -/
  | outOfBounds
  /-- An empty slot was called. -/
  | badFunctionCall
  /-- A handler ran into a fault of its own. -/
  | handler (fault : Fault)
  deriving DecidableEq, Repr

/-- `UINT16_MAX`. -/
def UINT16_MAX : Nat := 65535

/-- `GPacketHandler`, as the program starts. -/
def GPacketHandler : List PacketHandlerFunc := .replicate UINT16_MAX .empty

/-- The id in the header of a packet. -/
def packetId (packet : List UInt8) : UInt16 :=
  (FPacketHeader.read (packet.take HeaderSize)).packetID

namespace ClientPacketHandler

/-- The registrations of `Init`, in order. -/
def registrations : List PacketType :=
  [.S_LOGIN, .S_ENTER_GAME, .S_ENTER_ROOM, .S_LEAVE_GAME, .S_SPAWN, .S_DESPAWN, .S_MOVE,
    .S_SHOOT, .S_REMOVE_BULLET, .S_SCORE, .S_CHAT, .S_AI]

/-- `GPacketHandler[PKT_type] = …`. -/
def registerHandler (table : List PacketHandlerFunc) (type : PacketType) :
    Option (List PacketHandlerFunc) :=
  Region.write table type.pktId.toNat [.HandlePacket type]

/-- `ClientPacketHandler::Init`; no result if it writes outside the table. -/
def init (table : List PacketHandlerFunc) : Option (List PacketHandlerFunc) := do
  let table ← (List.range' 0 UINT16_MAX).foldlM
    (fun table i => Region.write table i [.Handle_INVALID]) table
  registrations.foldlM registerHandler table

variable {R : Type}

/-- `ClientPacketHandler::HandlePacket`, with the wrapper `HandlePacket<PacketType>`
in the case of a registered handler. -/
def handlePacket [Zero R] (E : Engine R) (parser : Parser R) (table : List PacketHandlerFunc)
    (s : US1GameInstance R) (buffer : List UInt8) :
    Except DispatchFault (US1GameInstance R × Bool) :=
  if buffer.length < HeaderSize then .error .outOfBounds
  else
    match table[(packetId buffer).toNat]? with
    | none => .error .outOfBounds
    | some .empty => .error .badFunctionCall
    | some .Handle_INVALID => .ok (s, true)
    | some (.HandlePacket type) =>
      match parser.parseFromArray type (buffer.drop HeaderSize) with
      | none => .ok (s, false)
      | some pkt => (s.handlePacket E pkt).mapError .handler

end ClientPacketHandler

variable {R : Type}

/-- One turn of the loop of `PacketSession::HandleRecvPackets`. -/
def PacketSession.handleRecvPacket [Zero R] (E : Engine R) (parser : Parser R)
    (table : List PacketHandlerFunc) (s : US1GameInstance R) (packet : List UInt8) :
    Except DispatchFault (US1GameInstance R) :=
  Prod.fst <$> ClientPacketHandler.handlePacket E parser table s packet

/-- `PacketSession::HandleRecvPackets`: the loop ends when the queue is empty. -/
def PacketSession.handleRecvPackets [Zero R] (E : Engine R) (parser : Parser R)
    (table : List PacketHandlerFunc) (s : US1GameInstance R) (recvPacketQueue : List (List UInt8)) :
    Except DispatchFault (US1GameInstance R) :=
  Steps.run (PacketSession.handleRecvPacket E parser table) s recvPacketQueue

/-- `US1GameInstance::HandleRecvPackets`, with the packets as bytes. -/
def US1GameInstance.handleRecvQueue [Zero R] (E : Engine R) (parser : Parser R)
    (table : List PacketHandlerFunc) (s : US1GameInstance R) (recvPacketQueue : List (List UInt8)) :
    Except DispatchFault (US1GameInstance R) :=
  if !s.connected then .ok s
  else PacketSession.handleRecvPackets E parser table s recvPacketQueue

/-- The packet of a type with no field set. -/
def ServerPacket.default (R : Type) : PacketType → ServerPacket R
  | .S_LOGIN => .S_LOGIN ⟨false, []⟩
  | .S_ENTER_GAME => .S_ENTER_GAME ⟨false, none⟩
  | .S_ENTER_ROOM => .S_ENTER_ROOM ⟨false⟩
  | .S_LEAVE_GAME => .S_LEAVE_GAME
  | .S_SPAWN => .S_SPAWN ⟨[]⟩
  | .S_DESPAWN => .S_DESPAWN ⟨[]⟩
  | .S_MOVE => .S_MOVE ⟨none⟩
  | .S_SHOOT => .S_SHOOT
  | .S_REMOVE_BULLET => .S_REMOVE_BULLET
  | .S_SCORE => .S_SCORE ⟨false, 0⟩
  | .S_CHAT => .S_CHAT ⟨0, []⟩
  | .S_AI => .S_AI ⟨0, .none, none⟩

/-- Parses an empty payload, to the packet with no field set, and no other. -/
def Parser.ofEmpty (R : Type) : Parser R where
  parseFromArray type bytes := if bytes.isEmpty then some (.default R type) else none
  type_eq type bytes pkt h := by
    split at h
    · obtain rfl := Option.some.inj h
      cases type <;> rfl
    · cases h

/-! ## The table -/

/-- The registered type with a given id. -/
def PacketType.ofPktId (id : UInt16) : Option PacketType :=
  ClientPacketHandler.registrations.find? (·.pktId = id)

theorem PacketType.ofPktId_eq_some {id : UInt16} {type : PacketType} :
    PacketType.ofPktId id = some type ↔ type.pktId = id := by
  constructor
  · intro h
    simpa using List.find?_some h
  · rintro rfl
    cases type <;> rfl

namespace ClientPacketHandler

/-- One registration. -/
theorem registerHandler_spec {table : List PacketHandlerFunc} (h : table.length = UINT16_MAX)
    (type : PacketType) : ∃ table', registerHandler table type = some table' ∧
      table'.length = UINT16_MAX ∧
      ∀ id : UInt16, table'[id.toNat]? =
        if type.pktId = id then some (.HandlePacket type) else table[id.toNat]? := by
  have hfits : type.pktId.toNat + [PacketHandlerFunc.HandlePacket type].length ≤ table.length := by
    rw [h]
    cases type <;> decide
  obtain ⟨table', htable'⟩ := Region.exists_write hfits
  refine ⟨table', htable', (Region.length_of_write htable').trans h, fun id => ?_⟩
  rw [Region.getElem?_of_write_singleton htable']
  by_cases hid : type.pktId = id
  · rw [if_pos (by rw [hid]), if_pos hid]
  · rw [if_neg fun h => hid (UInt16.toNat_inj.mp h.symm), if_neg hid]

/-- The registrations: the slot of an id holds what the last of them for it put there. -/
theorem registrations_spec {types : List PacketType} {table : List PacketHandlerFunc}
    (h : table.length = UINT16_MAX) : ∃ table', types.foldlM registerHandler table = some table' ∧
      table'.length = UINT16_MAX ∧
      ∀ id : UInt16, table'[id.toNat]? =
        ((types.filter (·.pktId = id)).getLast?.map .HandlePacket).or table[id.toNat]? := by
  induction types generalizing table with
  | nil => exact ⟨table, rfl, h, fun _ => rfl⟩
  | cons type types ih =>
    obtain ⟨table₁, hone, hlen, hslot⟩ := registerHandler_spec h type
    obtain ⟨table', hrest, hlen', hslot'⟩ := ih hlen
    refine ⟨table', ?_, hlen', fun id => ?_⟩
    · rw [List.foldlM_cons, hone]
      exact hrest
    · rw [hslot', hslot]
      by_cases hid : type.pktId = id
      · rw [if_pos hid, List.filter_cons_of_pos (by simpa using hid), List.getLast?_cons]
        cases (types.filter (·.pktId = id)).getLast? <;> rfl
      · rw [if_neg hid, List.filter_cons_of_neg (by simpa using hid)]

/-- At most one type is registered under an id. -/
theorem filter_registrations (id : UInt16) :
    registrations.filter (·.pktId = id) = (PacketType.ofPktId id).toList := by
  cases h : PacketType.ofPktId id with
  | none =>
    rw [Option.toList_none, List.filter_eq_nil_iff]
    exact List.find?_eq_none.mp h
  | some type =>
    obtain rfl := PacketType.ofPktId_eq_some.mp h
    cases type <;> rfl

/-- **`Init`** fills every slot: with the handler of the id, or with
`Handle_INVALID`. -/
theorem init_spec {table : List PacketHandlerFunc} (h : table.length = UINT16_MAX) :
    ∃ table', init table = some table' ∧ table'.length = UINT16_MAX ∧
      ∀ id : UInt16, id.toNat < UINT16_MAX →
        table'[id.toNat]? = some (((PacketType.ofPktId id).map .HandlePacket).getD .Handle_INVALID) := by
  have hfill : (List.range' 0 UINT16_MAX).foldlM
      (fun table i => Region.write table i [PacketHandlerFunc.Handle_INVALID]) table =
        some (.replicate UINT16_MAX .Handle_INVALID) := by
    rw [Region.foldlM_write_range _ _ (Nat.zero_le _),
      Region.write_all (by rw [h, List.length_replicate])]
  obtain ⟨table', hregister, hlen, hslot⟩ := @registrations_spec registrations _
    (List.length_replicate (a := PacketHandlerFunc.Handle_INVALID))
  refine ⟨table', ?_, hlen, fun id hid => ?_⟩
  · unfold init
    rw [hfill, Option.bind_eq_bind, Option.bind_some]
    exact hregister
  · have hinvalid : (List.replicate UINT16_MAX PacketHandlerFunc.Handle_INVALID)[id.toNat]? =
        some .Handle_INVALID := by rw [List.getElem?_replicate, if_pos hid]
    rw [hslot, filter_registrations, hinvalid]
    cases PacketType.ofPktId id <;> rfl

/-- The table after an `Init`, whatever its slots held before. -/
def Initialized (table : List PacketHandlerFunc) : Prop :=
  ∃ before, before.length = UINT16_MAX ∧ init before = some table

theorem exists_initialized : ∃ table, Initialized table := by
  have hlen : GPacketHandler.length = UINT16_MAX := List.length_replicate
  obtain ⟨table, htable, -⟩ := init_spec hlen
  exact ⟨table, GPacketHandler, hlen, htable⟩

theorem Initialized.length_eq {table : List PacketHandlerFunc} (h : Initialized table) :
    table.length = UINT16_MAX := by
  obtain ⟨before, hlen, htable⟩ := h
  obtain ⟨table', htable', hlen', -⟩ := init_spec hlen
  obtain rfl := Option.some.inj (htable.symm.trans htable')
  exact hlen'

theorem Initialized.getElem? {table : List PacketHandlerFunc} (h : Initialized table)
    {id : UInt16} (hid : id.toNat < UINT16_MAX) : table[id.toNat]? =
      some (((PacketType.ofPktId id).map .HandlePacket).getD .Handle_INVALID) := by
  obtain ⟨before, hlen, htable⟩ := h
  obtain ⟨table', htable', -, hslot⟩ := init_spec hlen
  obtain rfl := Option.some.inj (htable.symm.trans htable')
  exact hslot id hid

end ClientPacketHandler

/-! ## One packet -/

open ClientPacketHandler US1GameInstance

/-- The packet that bytes decode to: the id is registered and the payload parses. -/
def Parser.decode (parser : Parser R) (packet : List UInt8) : Option (ServerPacket R) :=
  (PacketType.ofPktId (packetId packet)).bind fun type =>
    parser.parseFromArray type (packet.drop HeaderSize)

namespace PacketSession
variable [Zero R] (E : Engine R) (parser : Parser R) {table : List PacketHandlerFunc}

/-- **Inside the table** a packet is dispatched if it decodes, and ignored if not. -/
theorem handleRecvPacket_eq (htable : Initialized table) (s : US1GameInstance R)
    {packet : List UInt8} (hlen : HeaderSize ≤ packet.length)
    (hid : (packetId packet).toNat < UINT16_MAX) :
    handleRecvPacket E parser table s packet =
      (parser.decode packet).elim (.ok s) fun pkt => (s.dispatch E pkt).mapError .handler := by
  unfold handleRecvPacket ClientPacketHandler.handlePacket Parser.decode
  rw [if_neg (Nat.not_lt_of_le hlen), htable.getElem? hid]
  cases PacketType.ofPktId (packetId packet) with
  | none => rfl
  | some type =>
    simp only [Option.map_some, Option.getD_some, Option.bind_some]
    cases parser.parseFromArray type (packet.drop HeaderSize) with
    | none => rfl
    | some pkt =>
      show Prod.fst <$> (s.handlePacket E pkt).mapError DispatchFault.handler =
        (Prod.fst <$> s.handlePacket E pkt).mapError DispatchFault.handler
      cases s.handlePacket E pkt <;> rfl

/-- **Outside**, the slot behind the table is called. -/
theorem handleRecvPacket_outside (htable : Initialized table) (s : US1GameInstance R)
    {packet : List UInt8} (hid : UINT16_MAX ≤ (packetId packet).toNat) :
    handleRecvPacket E parser table s packet = .error .outOfBounds := by
  have hnone : table[(packetId packet).toNat]? = none :=
    List.getElem?_eq_none (by rw [htable.length_eq]; exact hid)
  unfold handleRecvPacket ClientPacketHandler.handlePacket
  rw [hnone]
  split <;> rfl

/-! ## The drain loop -/

variable {E parser}

/-- The loop gets to `packet`: no handler of the packets in front of it stopped it. -/
def Reaches (E : Engine R) (parser : Parser R) (table : List PacketHandlerFunc)
    (s : US1GameInstance R) (queue : List (List UInt8)) (packet : List UInt8) : Prop :=
  ∃ before after t, queue = before ++ packet :: after ∧
    handleRecvPackets E parser table s before = .ok t

/-- `GPacketHandler[header->id]` is a slot of the table and filled: with
`Handle_INVALID` if no handler is registered for the id. -/
def Filled (table : List PacketHandlerFunc) (packet : List UInt8) : Prop :=
  ∃ func, table[(packetId packet).toNat]? = some func ∧ func ≠ .empty ∧
    (PacketType.ofPktId (packetId packet) = none → func = .Handle_INVALID)

omit [Zero R] in
theorem filled_iff (htable : Initialized table) (packet : List UInt8) :
    Filled table packet ↔ (packetId packet).toNat < UINT16_MAX := by
  constructor
  · rintro ⟨func, hfunc, -⟩
    rw [← htable.length_eq]
    by_contra hge
    rw [List.getElem?_eq_none (Nat.le_of_not_lt hge)] at hfunc
    cases hfunc
  · intro hid
    refine ⟨_, htable.getElem? hid, ?_, ?_⟩
    · cases PacketType.ofPktId (packetId packet) <;> simp
    · intro hnone
      rw [hnone]
      rfl

/-- **The drain loop**, on packets with a header, makes only accesses to filled slots
of the table and stops only in a handler, exactly if it gets to no packet with the
id `UINT16_MAX`. -/
theorem drain_inside_iff (htable : Initialized table) (s : US1GameInstance R)
    {queue : List (List UInt8)} (hlen : ∀ p ∈ queue, HeaderSize ≤ p.length) :
    ((∀ packet, Reaches E parser table s queue packet → Filled table packet) ∧
      ∀ fault, handleRecvPackets E parser table s queue = .error fault →
        ∃ f, fault = .handler f) ↔
      ∀ packet, Reaches E parser table s queue packet → (packetId packet).toNat < UINT16_MAX := by
  constructor
  · rintro ⟨hfilled, -⟩ packet hreach
    exact (filled_iff htable packet).mp (hfilled packet hreach)
  · intro hids
    refine ⟨fun packet hreach => (filled_iff htable packet).mpr (hids packet hreach), ?_⟩
    intro fault hfault
    obtain ⟨before, packet, after, t, hsplit, hbefore, herror⟩ := Steps.run_eq_error hfault
    have hid := hids packet ⟨before, after, t, hsplit, hbefore⟩
    rw [handleRecvPacket_eq E parser htable t (hlen packet (by simp [hsplit])) hid] at herror
    cases hdecode : parser.decode packet with
    | none =>
      rw [hdecode] at herror
      cases herror
    | some pkt =>
      rw [hdecode] at herror
      have herror : (t.dispatch E pkt).mapError DispatchFault.handler = .error fault := herror
      cases hd : t.dispatch E pkt with
      | ok u =>
        rw [hd] at herror
        cases herror
      | error f =>
        rw [hd] at herror
        exact ⟨f, (Except.error.inj herror).symm⟩

/-- Two `S_LEAVE_GAME`s, and between them a packet for which no handler is registered. -/
theorem drain_inside_no_handler : ∃ table, Initialized table ∧
    (∀ packet, Reaches (.obliging Int true) (.ofEmpty Int) table (started Int)
        [[4, 0, 239, 3], [5, 0, 208, 7, 1], [4, 0, 239, 3]] packet → Filled table packet) ∧
      ∀ fault, handleRecvPackets (.obliging Int true) (.ofEmpty Int) table (started Int)
        [[4, 0, 239, 3], [5, 0, 208, 7, 1], [4, 0, 239, 3]] = .error fault →
          ∃ f, fault = .handler f := by
  obtain ⟨table, htable⟩ := exists_initialized
  have hids : ∀ packet ∈ ([[4, 0, 239, 3], [5, 0, 208, 7, 1], [4, 0, 239, 3]] : List (List UInt8)),
      (packetId packet).toNat < UINT16_MAX := by decide
  refine ⟨table, htable, (drain_inside_iff htable (started Int) (by decide)).mpr ?_⟩
  rintro packet ⟨before, after, -, hsplit, -⟩
  exact hids packet (by rw [hsplit]; simp)

/-- The id 65535 has no slot. -/
theorem drain_not_always_inside :
    ¬∀ table, Initialized table → ∀ queue : List (List UInt8),
      (∀ p ∈ queue, HeaderSize ≤ p.length) →
        (∀ packet, Reaches (.obliging Int true) (.ofEmpty Int) table (started Int) queue packet →
          Filled table packet) ∧
        ∀ fault, handleRecvPackets (.obliging Int true) (.ofEmpty Int) table (started Int) queue =
          .error fault → ∃ f, fault = .handler f := by
  intro h
  obtain ⟨table, htable⟩ := exists_initialized
  obtain ⟨hfilled, -⟩ := h table htable [[4, 0, 255, 255]] (by decide)
  have hslot := hfilled [4, 0, 255, 255] ⟨[], [], _, rfl, rfl⟩
  exact absurd ((filled_iff htable _).mp hslot) (by decide)

/-- Byte packets inside the table act as the packets they decode to. -/
theorem handleRecvQueue_eq (htable : Initialized table) (s : US1GameInstance R)
    {queue : List (List UInt8)}
    (hqueue : ∀ p ∈ queue, HeaderSize ≤ p.length ∧ (packetId p).toNat < UINT16_MAX) :
    s.handleRecvQueue E parser table queue =
      (s.handleRecvPackets E (queue.filterMap parser.decode)).mapError .handler := by
  unfold US1GameInstance.handleRecvQueue US1GameInstance.handleRecvPackets
  split
  · rfl
  · have hstep : ∀ (s : US1GameInstance R), ∀ p ∈ queue, handleRecvPacket E parser table s p =
        (parser.decode p).elim (.ok s) fun pkt => (s.dispatch E pkt).mapError .handler :=
      fun s p hp => handleRecvPacket_eq E parser htable s (hqueue p hp).1 (hqueue p hp).2
    unfold handleRecvPackets
    rw [Steps.run_filterMap_mem hstep, Steps.run_mapError]

/-- **Packets that do not decode are isolated**: without them the loop does the
same, and it does what the others do in their order. -/
theorem drain_filter (htable : Initialized table) (s : US1GameInstance R)
    {queue : List (List UInt8)}
    (hqueue : ∀ p ∈ queue, HeaderSize ≤ p.length ∧ (packetId p).toNat < UINT16_MAX) :
    s.handleRecvQueue E parser table queue =
        s.handleRecvQueue E parser table (queue.filter fun p => (parser.decode p).isSome) ∧
      s.handleRecvQueue E parser table queue =
        (s.handleRecvPackets E (queue.filterMap parser.decode)).mapError .handler := by
  have hkept : ∀ p ∈ queue.filter fun p => (parser.decode p).isSome,
      HeaderSize ≤ p.length ∧ (packetId p).toNat < UINT16_MAX :=
    fun p hp => hqueue p (List.mem_filter.mp hp).1
  have hdecode : (queue.filter fun p => (parser.decode p).isSome).filterMap parser.decode =
      queue.filterMap parser.decode := by
    rw [List.filterMap_filter]
    refine List.filterMap_congr fun p _ => ?_
    cases parser.decode p <;> rfl
  refine ⟨?_, handleRecvQueue_eq htable s hqueue⟩
  rw [handleRecvQueue_eq htable s hqueue, handleRecvQueue_eq htable s hkept, hdecode]

/-- A login reply whose payload is cut off changes nothing, and the packet behind it
lets a player enter. -/
theorem drain_filter_cut_off : ∃ table t, Initialized table ∧
    (started Int).handleRecvQueue (.obliging Int true) (.ofEmpty Int) table
        [[5, 0, 233, 3, 255], [4, 0, 235, 3]] = .ok t ∧
      (started Int).handleRecvQueue (.obliging Int true) (.ofEmpty Int) table [[4, 0, 235, 3]] =
        .ok t ∧
      t.myPlayer = some 0 ∧ (started Int).myPlayer = none := by
  obtain ⟨table, htable⟩ := exists_initialized
  obtain ⟨hkept, hpackets⟩ := @drain_filter Int _ (.obliging Int true) (.ofEmpty Int) table htable
    (started Int) [[5, 0, 233, 3, 255], [4, 0, 235, 3]] (by decide)
  exact ⟨table, _, htable, hpackets, hkept.symm.trans hpackets, rfl, rfl⟩

end PacketSession
end S1Client
