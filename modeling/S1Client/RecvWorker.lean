import S1Client.Region
import S1Client.Steps

/-!
# `RecvWorker`

The receiving thread.  The network decides when bytes arrive and how many of them
a call of `Recv` hands out; nothing is visible of that between two calls on the
socket, so the bytes that arrive before a call are given by the number of calls
made so far.  `Recv` blocks until there is a byte; a byte that never comes ends
the run.
-/
namespace S1Client

/-- What stops the receiving thread. -/
inductive NetFault where
  /-- `Recv` waits for a byte that never comes. -/
  | blocked
  /-- A buffer was accessed outside its bounds. -/
  | outOfBounds
  /-- `AddZeroed` was called with a negative count. -/
  | negativeCount
  /-- A `check` failed. -/
  | checkFailed
  /-- More calls of `Recv` than bytes. -/
  | outOfFuel
  deriving DecidableEq, Repr

/-- What the network decides. -/
structure Network where
  /-- How many bytes arrive before the `n`-th call on the socket. -/
  arrivals : Nat → Nat
  /-- How many bytes the `n`-th call hands out, if it is a `Recv`. -/
  chunk : Nat → Nat

/-- The receiving end of the connection. -/
structure Inbound where
  /-- Arrived and not read. -/
  pending : List UInt8
  /-- Sent and not arrived. -/
  inFlight : List UInt8
  /-- How often the socket was called. -/
  calls : Nat
  deriving DecidableEq, Repr

namespace Inbound

/-- What is left to read. -/
def unread (s : Inbound) : List UInt8 := s.pending ++ s.inFlight

/-- Up to `n` bytes arrive and a call is made. -/
def arrive (s : Inbound) (n : Nat) : Inbound :=
  ⟨s.pending ++ s.inFlight.take n, s.inFlight.drop n, s.calls + 1⟩

/-- `FSocket::HasPendingData`, with the size it reports. -/
def hasPendingData (net : Network) (s : Inbound) : Bool × Nat × Inbound :=
  let s := s.arrive (net.arrivals s.calls)
  (!s.pending.isEmpty, s.pending.length, s)

/-- How many bytes arrive before a `Recv` returns: at least one, if it has to wait
for it. -/
def recvArrivals (net : Network) (s : Inbound) : Nat :=
  if s.pending.isEmpty then max 1 (net.arrivals s.calls) else net.arrivals s.calls

/-- `FSocket::Recv` on an open blocking socket. -/
def recv (net : Network) (s : Inbound) (size : Nat) : Except NetFault (List UInt8 × Inbound) :=
  let numRead := min (max 1 (net.chunk s.calls)) size
  let s := s.arrive (s.recvArrivals net)
  if s.pending.isEmpty then .error .blocked
  else .ok (s.pending.take numRead, { s with pending := s.pending.drop numRead })

end Inbound

/-- The loop of `RecvWorker::ReceiveDesiredBytes`: `size` bytes are missing, the
next one goes to `offset`.  `fuel` bounds the calls of `Recv`. -/
def receiveLoop (net : Network) :
    Nat → Inbound → List UInt8 → Nat → Int → Except NetFault (Bool × List UInt8 × Inbound)
  | 0, s, results, _, size => if size > 0 then .error .outOfFuel else .ok (true, results, s)
  | fuel + 1, s, results, offset, size =>
    if size > 0 then do
      let (bytes, s) ← s.recv net size.toNat
      match Region.write results offset bytes with
      | none => .error .outOfBounds
      | some results =>
        let numRead : Int := bytes.length
        if ¬numRead ≤ size then .error .checkFailed
        else if numRead ≤ 0 then .ok (false, results, s)
        else receiveLoop net fuel s results (offset + bytes.length) (size - numRead)
    else .ok (true, results, s)

/-- `RecvWorker::ReceiveDesiredBytes`: `Results` points at `offset` of `results`. -/
def receiveDesiredBytes (net : Network) (s : Inbound) (results : List UInt8) (offset : Nat)
    (size : Int) : Except NetFault (Bool × List UInt8 × Inbound) :=
  let (hasPending, pendingDataSize, s) := s.hasPendingData net
  if hasPending = false ∨ pendingDataSize ≤ 0 then .ok (false, results, s)
  else receiveLoop net size.toNat s results offset size

structure FPacketHeader where
  packetSize : UInt16
  packetID : UInt16
  deriving DecidableEq, Repr

/-- `sizeof(FPacketHeader)`. -/
def HeaderSize : Nat := 4

/-- Two bytes, low byte first. -/
def le16 (lo hi : UInt8) : UInt16 := .ofNat (lo.toNat + 256 * hi.toNat)

/-- `operator<<` on a reader: the fields in declaration order. -/
def FPacketHeader.read : List UInt8 → FPacketHeader
  | [s₀, s₁, i₀, i₁] => ⟨le16 s₀ s₁, le16 i₀ i₁⟩
  | _ => ⟨0, 0⟩

/-- `TArray::AddZeroed`. -/
def addZeroed (packet : List UInt8) (count : Int) : Except NetFault (List UInt8) :=
  if count < 0 then .error .negativeCount else .ok (packet ++ .replicate count.toNat 0)

/-- `RecvWorker::ReceivePacket`, with the packet it leaves in `OutPacket`. -/
def receivePacket (net : Network) (s : Inbound) :
    Except NetFault (Bool × List UInt8 × Inbound) := do
  let (received, headerBuffer, s) ← receiveDesiredBytes net s (.replicate HeaderSize 0) 0 HeaderSize
  if received = false then return (false, [], s)
  let header := FPacketHeader.read headerBuffer
  let payloadSize : Int := header.packetSize.toNat - HeaderSize
  if payloadSize = 0 then return (true, headerBuffer, s)
  let outPacket ← addZeroed headerBuffer payloadSize
  if outPacket.length ≤ HeaderSize then .error .outOfBounds
  else receiveDesiredBytes net s outPacket HeaderSize payloadSize

/-- The receiving thread: its socket, and the session's queue. -/
structure RecvWorker where
  inbound : Inbound
  recvPacketQueue : List (List UInt8)
  deriving DecidableEq, Repr

/-- One turn of the loop of `RecvWorker::Run`, while the session lives. -/
def RecvWorker.runTurn (net : Network) (w : RecvWorker) : Except NetFault RecvWorker := do
  let (received, packet, s) ← receivePacket net w.inbound
  if received then return ⟨s, w.recvPacketQueue ++ [packet]⟩
  else return { w with inbound := s }

/-- The thread with `bytes` sent to it and none arrived. -/
def RecvWorker.started (bytes : List UInt8) : RecvWorker := ⟨⟨[], bytes, 0⟩, []⟩

end S1Client
