import S1Client.Framing
import S1Client.Protocol

/-!
# `MakeSendBuffer`

An outgoing packet is built in a buffer of the size that its header announces.
The size goes through two conversions to `uint16` on its way there, so buffer,
header and message agree exactly up to 65531 bytes of message: past that the
header may not fit into the buffer any more, or the message is left out and
zeros are sent in its place (`makeSendBufferOf_cases`).
-/
namespace S1Client

/-- `SendBuffer`, closed within its buffer. -/
structure SendBuffer where
  buffer : List UInt8
  writeSize : Nat
  writeSize_le : writeSize ≤ buffer.length
  deriving DecidableEq, Repr

namespace SendBuffer

/-- The constructor: `SetNum` fills with zeros. -/
def ofSize (bufferSize : Nat) : SendBuffer := ⟨.replicate bufferSize 0, 0, Nat.zero_le _⟩

/-- What is sent: `Buffer()[0..WriteSize())`. -/
def contents (b : SendBuffer) : List UInt8 := b.buffer.take b.writeSize

/-- A store through `Buffer()`. -/
def store (b : SendBuffer) (off : Nat) (bytes : List UInt8) : Except NetFault SendBuffer :=
  match h : Region.write b.buffer off bytes with
  | none => .error .outOfBounds
  | some out => .ok ⟨out, b.writeSize, Region.length_of_write h ▸ b.writeSize_le⟩

/-- `Close`.  The source does not check the size; one past the end of the buffer
makes `Buffer()[0..WriteSize())` reach outside it, which is a fault here. -/
def close (b : SendBuffer) (writeSize : Nat) : Except NetFault SendBuffer :=
  if h : writeSize ≤ b.buffer.length then .ok ⟨b.buffer, writeSize, h⟩ else .error .outOfBounds

theorem store_of_write {b : SendBuffer} {off : Nat} {bytes out : List UInt8}
    (h : Region.write b.buffer off bytes = some out) :
    ∃ b', b.store off bytes = .ok b' ∧ b'.buffer = out := by
  unfold store
  split
  · rename_i hnone
    cases hnone.symm.trans h
  · rename_i out' hout
    exact ⟨_, rfl, Option.some.inj (hout.symm.trans h)⟩

theorem store_of_lt {b : SendBuffer} {off : Nat} {bytes : List UInt8}
    (h : b.buffer.length < off + bytes.length) : b.store off bytes = .error .outOfBounds := by
  unfold store
  split
  · rfl
  · rename_i out hout
    cases (Region.write_eq_none.mpr h).symm.trans hout

end SendBuffer

/-- The two bytes of a `uint16` in memory, low byte first. -/
def toLe16 (value : UInt16) : List UInt8 := [.ofNat value.toNat, .ofNat (value.toNat / 256)]

@[simp] theorem length_toLe16 (value : UInt16) : (toLe16 value).length = 2 := rfl

theorem le16_toLe16 (value : UInt16) :
    le16 (.ofNat value.toNat) (.ofNat (value.toNat / 256)) = value := by
  have hlt := value.toNat_lt
  apply UInt16.toNat_inj.mp
  unfold le16
  rw [UInt16.toNat_ofNat', UInt8.toNat_ofNat', UInt8.toNat_ofNat']
  omega

theorem FPacketHeader.read_toLe16 (packetSize packetID : UInt16) :
    FPacketHeader.read (toLe16 packetSize ++ toLe16 packetID) = ⟨packetSize, packetID⟩ := by
  show FPacketHeader.mk (le16 _ _) (le16 _ _) = _
  rw [le16_toLe16, le16_toLe16]

/-- `SerializeToArray` to `off` of the buffer, with its result. -/
def serializeToArray (sendBuffer : SendBuffer) (off size : Nat) (message : List UInt8) :
    Except NetFault (Bool × SendBuffer) :=
  if message.length ≤ size then do
    let sendBuffer ← sendBuffer.store off message
    return (true, sendBuffer)
  else return (false, sendBuffer)

/-- `MakeSendBuffer<T>` on a message that serializes to `message`. -/
def makeSendBufferOf (message : List UInt8) (pktId : UInt16) : Except NetFault SendBuffer := do
  let dataSize : UInt16 := .ofNat message.length
  let packetSize : UInt16 := .ofNat (dataSize.toNat + HeaderSize)
  let sendBuffer := SendBuffer.ofSize packetSize.toNat
  let sendBuffer ← sendBuffer.store 0 (toLe16 packetSize)
  let sendBuffer ← sendBuffer.store 2 (toLe16 pktId)
  -- the result is not looked at
  let (_, sendBuffer) ← serializeToArray sendBuffer HeaderSize dataSize.toNat message
  sendBuffer.close packetSize.toNat

/-- The overloads of `MakeSendBuffer`.  `serialize` gives the bytes of a message. -/
def makeSendBuffer {R : Type} (serialize : ClientPacket R → List UInt8) (pkt : ClientPacket R) :
    Except NetFault SendBuffer :=
  makeSendBufferOf (serialize pkt) pkt.pktId

/-- The header is stored into a buffer that has room for it. -/
private theorem store_header (n : Nat) (packetSize pktId : UInt16) :
    ∃ b b', (SendBuffer.ofSize (n + HeaderSize)).store 0 (toLe16 packetSize) = .ok b ∧
      b.store 2 (toLe16 pktId) = .ok b' ∧
      b'.buffer = toLe16 packetSize ++ toLe16 pktId ++ .replicate n 0 := by
  have hsplit : (SendBuffer.ofSize (n + HeaderSize)).buffer =
      [] ++ .replicate 2 0 ++ (.replicate 2 0 ++ .replicate n 0) := by
    show List.replicate (n + 4) 0 = _
    rw [show n + 4 = 2 + (2 + n) by omega, List.replicate_add, List.replicate_add, List.nil_append]
  have hsize : Region.write (SendBuffer.ofSize (n + HeaderSize)).buffer 0 (toLe16 packetSize) =
      some ([] ++ toLe16 packetSize ++ (.replicate 2 0 ++ .replicate n 0)) := by
    rw [hsplit]
    exact Region.write_split (by simp)
  obtain ⟨b, hb, hbuffer⟩ := SendBuffer.store_of_write hsize
  have hid : Region.write b.buffer 2 (toLe16 pktId) =
      some (toLe16 packetSize ++ toLe16 pktId ++ .replicate n 0) := by
    rw [hbuffer, List.nil_append, ← List.append_assoc]
    exact Region.write_split (by simp)
  obtain ⟨b', hb', hbuffer'⟩ := SendBuffer.store_of_write hid
  exact ⟨b, b', hb, hb', hbuffer'⟩

/-- The header does not fit into a buffer that is smaller. -/
private theorem store_header_short {n : Nat} (hn : n < HeaderSize) (packetSize pktId : UInt16) :
    ((SendBuffer.ofSize n).store 0 (toLe16 packetSize) >>= fun b => b.store 2 (toLe16 pktId)) =
      .error .outOfBounds := by
  have hn : n < 4 := hn
  have hlen : (SendBuffer.ofSize n).buffer.length = n := List.length_replicate
  by_cases h2 : n < 2
  · rw [SendBuffer.store_of_lt (by rw [hlen, length_toLe16]; omega)]
    rfl
  · obtain ⟨out, hout⟩ := @Region.exists_write _ (SendBuffer.ofSize n).buffer 0 (toLe16 packetSize)
      (by rw [hlen, length_toLe16]; omega)
    obtain ⟨b, hb, rfl⟩ := SendBuffer.store_of_write hout
    rw [hb]
    apply SendBuffer.store_of_lt
    rw [Region.length_of_write hout, hlen, length_toLe16]
    omega

/-- The message behind the header, if it is not longer than the room for it. -/
private theorem serializeToArray_behind {b : SendBuffer} {header message : List UInt8} {n : Nat}
    (hbuffer : b.buffer = header ++ .replicate n 0) (hheader : header.length = HeaderSize)
    (hn : n ≤ message.length) :
    ∃ written b', serializeToArray b HeaderSize n message = .ok (written, b') ∧
      b'.buffer = header ++ if message.length ≤ n then message else .replicate n 0 := by
  unfold serializeToArray
  by_cases hle : message.length ≤ n
  · have hwrite : Region.write b.buffer HeaderSize message = some (header ++ message) := by
      rw [hbuffer, ← hheader]
      exact Region.write_last (by rw [List.length_replicate]; omega)
    obtain ⟨b', hb', hbuffer'⟩ := SendBuffer.store_of_write hwrite
    rw [if_pos hle, if_pos hle, hb']
    exact ⟨true, b', rfl, hbuffer'⟩
  · rw [if_neg hle, if_neg hle]
    exact ⟨false, b, rfl, hbuffer⟩

/-- **What `MakeSendBuffer` makes of any message.**  Its length is taken modulo
65536.  If header and data then need 65536 bytes or more, the buffer comes
out too short for the header; if not, it holds the header and, behind it, the
message, or as many zeros where the message is longer than its truncated length. -/
theorem makeSendBufferOf_cases (message : List UInt8) (pktId : UInt16) {n : Nat}
    (hn : message.length % 65536 = n) :
    (65536 ≤ n + HeaderSize ∧ makeSendBufferOf message pktId = .error .outOfBounds) ∨
      (n + HeaderSize < 65536 ∧ ∃ b, makeSendBufferOf message pktId = .ok b ∧
        b.writeSize = n + HeaderSize ∧
        b.contents = toLe16 (.ofNat (n + HeaderSize)) ++ toLe16 pktId ++
          if message.length ≤ n then message else .replicate n 0) := by
  have hdata : (UInt16.ofNat message.length).toNat = n := by
    rw [UInt16.toNat_ofNat', hn]
  have hlt : n < 65536 := by omega
  unfold makeSendBufferOf
  simp only [hdata]
  -- the second conversion to `uint16` loses something if the header does not fit
  by_cases hfits : n + HeaderSize < 65536
  · have hpacket : (UInt16.ofNat (n + HeaderSize)).toNat = n + HeaderSize := by
      rw [UInt16.toNat_ofNat', Nat.mod_eq_of_lt hfits]
    obtain ⟨b, b', hb, hb', hbuffer⟩ := store_header n (.ofNat (n + HeaderSize)) pktId
    refine Or.inr ⟨hfits, ?_⟩
    obtain ⟨written, b'', hb'', hbuffer''⟩ :=
      serializeToArray_behind hbuffer rfl (hn ▸ Nat.mod_le message.length _)
    have hlen : b''.buffer.length = n + HeaderSize := by
      rw [hbuffer'', List.length_append]
      split
      · have := Nat.mod_le message.length 65536
        show 4 + message.length = n + 4
        omega
      · rw [List.length_replicate]
        exact Nat.add_comm 4 n
    refine ⟨⟨b''.buffer, n + HeaderSize, by omega⟩, ?_, rfl, ?_⟩
    · rw [hpacket, hb]
      show (b.store 2 (toLe16 pktId) >>= _) = _
      rw [hb']
      show (serializeToArray b' HeaderSize n message >>= _) = _
      rw [hb'']
      exact dif_pos (Nat.le_of_eq hlen.symm)
    · show b''.buffer.take (n + HeaderSize) = _
      rw [List.take_of_length_le (by omega), hbuffer'']
  · have hpacket : (UInt16.ofNat (n + HeaderSize)).toNat < HeaderSize := by
      rw [UInt16.toNat_ofNat']
      have h4 : HeaderSize = 4 := rfl
      omega
    refine Or.inl ⟨by omega, ?_⟩
    have hshort := store_header_short hpacket (.ofNat (n + HeaderSize)) pktId
    rw [← bind_assoc, hshort]
    rfl

/-! ## Reading it back -/

/-- `packet` is the packet with this id and payload. -/
def Frames (packet : List UInt8) (pktId : UInt16) (payload : List UInt8) : Prop :=
  WellFramed packet ∧ (FPacketHeader.read (packet.take HeaderSize)).packetID = pktId ∧
    packet.drop HeaderSize = payload

theorem Frames.length {packet payload : List UInt8} {pktId : UInt16}
    (h : Frames packet pktId payload) : packet.length = HeaderSize + payload.length := by
  obtain ⟨⟨hle, -⟩, -, rfl⟩ := h
  rw [List.length_drop]
  omega

theorem frames_toLe16 {packetSize pktId : UInt16} {payload : List UInt8}
    (h : packetSize.toNat = payload.length + HeaderSize) :
    Frames (toLe16 packetSize ++ toLe16 pktId ++ payload) pktId payload := by
  have hheader : (toLe16 packetSize ++ toLe16 pktId ++ payload).take HeaderSize =
      toLe16 packetSize ++ toLe16 pktId := List.take_left' rfl
  have hlen : (toLe16 packetSize ++ toLe16 pktId ++ payload).length =
      payload.length + HeaderSize := by
    rw [List.length_append]
    exact Nat.add_comm 4 _
  refine ⟨⟨?_, ?_⟩, ?_, List.drop_left' rfl⟩
  · rw [hlen]
    exact Nat.le_add_left ..
  · rw [hheader, FPacketHeader.read_toLe16, hlen, h]
  · rw [hheader, FPacketHeader.read_toLe16]

variable {R : Type}

/-- The message is encoded exactly: no store leaves the buffer, what is sent is the
packet with its id and bytes, and `ReceivePacket` reads that packet back. -/
def EncodesExactly (serialize : ClientPacket R → List UInt8) (pkt : ClientPacket R) : Prop :=
  ∃ b, makeSendBuffer serialize pkt = .ok b ∧
    b.writeSize = HeaderSize + (serialize pkt).length ∧
    (FPacketHeader.read (b.contents.take HeaderSize)).packetSize.toNat = b.writeSize ∧
    Frames b.contents pkt.pktId (serialize pkt) ∧
    ∀ (net : Network) (s : Inbound) (rest : List UInt8), s.inFlight = [] →
      s.unread = b.contents ++ rest → ∃ packet s', receivePacket net s = .ok (true, packet, s') ∧
        Frames packet pkt.pktId (serialize pkt) ∧ s'.unread = rest

/-- The packet is as long as its header says, which 16 bits have to hold. -/
private theorem EncodesExactly.length_lt {serialize : ClientPacket R → List UInt8}
    {pkt : ClientPacket R} (h : EncodesExactly serialize pkt) :
    (serialize pkt).length + HeaderSize < 65536 := by
  obtain ⟨b, -, hsize, hheader, -⟩ := h
  have hlt := (FPacketHeader.read (b.contents.take HeaderSize)).packetSize.toNat_lt
  omega

/-- **Exactly the messages of up to 65531 bytes** are encoded exactly. -/
theorem encodesExactly_iff (serialize : ClientPacket R → List UInt8) (pkt : ClientPacket R) :
    EncodesExactly serialize pkt ↔ (serialize pkt).length ≤ 65531 := by
  have h4 : HeaderSize = 4 := rfl
  constructor
  · intro h
    have := h.length_lt
    omega
  intro hlen
  have hmod : (serialize pkt).length % 65536 = (serialize pkt).length := by omega
  rcases makeSendBufferOf_cases (serialize pkt) pkt.pktId hmod with
    ⟨hlong, -⟩ | ⟨hfits, b, hb, hsize, hcontents⟩
  · omega
  rw [if_pos (Nat.le_refl _)] at hcontents
  have hframes : Frames b.contents pkt.pktId (serialize pkt) := by
    rw [hcontents]
    refine frames_toLe16 ?_
    rw [UInt16.toNat_ofNat', Nat.mod_eq_of_lt hfits]
  refine ⟨b, hb, by omega, ?_, hframes, ?_⟩
  · rw [hframes.1.2, hframes.length]
    omega
  · intro net s rest harrived hs
    obtain ⟨s', hpacket, hs'⟩ := receivePacket_of_arrived net hframes.1 harrived hs
    exact ⟨b.contents, s', hpacket, hframes, hs'⟩

/-! ## A login that is too long -/

/-- A base-128 varint: seven bits a byte, the lowest first, and the top bit on all
bytes but the last. -/
def varint (n : Nat) : List UInt8 :=
  if n < 128 then [.ofNat n] else .ofNat (n % 128 + 128) :: varint (n / 128)
termination_by n
decreasing_by omega

/-- `WriteStringMaybeAliased`, for a field that is left out when it is empty. -/
def stringField (number : Nat) (value : ProtoString) : List UInt8 :=
  if value.isEmpty then [] else varint (8 * number + 2) ++ varint value.length ++ value

/-- `C_LOGIN::_InternalSerialize`. -/
def C_LOGIN.internalSerialize (id password : ProtoString) : List UInt8 :=
  stringField 1 id ++ stringField 2 password

theorem length_le_stringField (number : Nat) (value : ProtoString) :
    value.length ≤ (stringField number value).length := by
  unfold stringField
  split
  · rename_i h
    exact Nat.le_of_eq (by rw [List.isEmpty_iff.mp h])
  · rw [List.length_append]
    exact Nat.le_add_left ..

/-- **Not every login is encoded exactly**: one with an id of 70000 bytes is not. -/
theorem not_always_encodesExactly :
    ¬∀ serialize : ClientPacket Unit → List UInt8,
      (∀ id password, serialize (.C_LOGIN id password) = C_LOGIN.internalSerialize id password) →
        ∀ pkt, EncodesExactly serialize pkt := by
  intro h
  obtain ⟨id, hid⟩ : ∃ id : ProtoString, id.length = 70000 :=
    ⟨.replicate 70000 97, List.length_replicate⟩
  have hlogin := h (fun pkt => match pkt with
    | .C_LOGIN id password => C_LOGIN.internalSerialize id password
    | _ => []) (fun _ _ => rfl) (.C_LOGIN id [])
  have hlt : (stringField 1 id ++ stringField 2 []).length + HeaderSize < 65536 := hlogin.length_lt
  have hle := length_le_stringField 1 id
  rw [List.length_append] at hlt
  omega

end S1Client
