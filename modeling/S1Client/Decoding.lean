import S1Client.Framing

/-!
# Decoding the received stream

Two laws of `ReceivePacket` over any timing.  On any bytes at all, a call stays
inside its buffers and delivers a packet of the length its header gives, exactly if
the header it reads does not give less than its own length (`safe_receivePacket_iff`); the
code does not test for that.  On packets sent back to back, and with something
pending whenever it asks, turn after turn delivers exactly the packets
(`decode_exact`).
-/
namespace S1Client
open Steps (bind_eq_ok)

/-! ## Any bytes -/

/-- How a call may end: waiting for bytes, without a packet, or with one as long as
its own header says, and at least a header. -/
def Safe : Except NetFault (Bool × List UInt8 × Inbound) → Prop
  | .error fault => fault = .blocked
  | .ok (false, _, _) => True
  | .ok (true, packet, _) =>
    packet.length = (FPacketHeader.read (packet.take HeaderSize)).packetSize.toNat ∧
      HeaderSize ≤ packet.length

/-- If a call on `s` gets a header, the size field of that header covers it. -/
def HeaderFits (net : Network) (s : Inbound) : Prop :=
  (s.hasPendingData net).1 = true → HeaderSize ≤ s.unread.length → HeaderSize ≤ s.nextSize

/-- The bytes a header announces, if the stream holds them. -/
private theorem safe_take {s s' : Inbound} (hmin : HeaderSize ≤ s.nextSize)
    (hlen : s.nextSize ≤ s.unread.length) : Safe (.ok (true, s.unread.take s.nextSize, s')) := by
  have hlength : (s.unread.take s.nextSize).length = s.nextSize := by
    rw [List.length_take, Nat.min_eq_left hlen]
  have hheader : (s.unread.take s.nextSize).take HeaderSize = s.unread.take HeaderSize := by
    rw [List.take_take, Nat.min_eq_left hmin]
  refine ⟨?_, ?_⟩
  · rw [hlength, hheader]
    rfl
  · rw [hlength]
    exact hmin

/-- **One call** ends safely exactly if the header fits. -/
theorem safe_receivePacket_iff (net : Network) (s : Inbound) :
    Safe (receivePacket net s) ↔ HeaderFits net s := by
  rcases receivePacket_outcome net s with
    ⟨hpending, s', hpacket, -⟩ | ⟨-, hshort, hpacket⟩ | ⟨hpending, hlong, s', -, -, -, hcases⟩
  · rw [hpacket]
    exact iff_of_true trivial fun h => absurd (h.symm.trans hpending) (by simp)
  · rw [hpacket]
    exact iff_of_true rfl fun _ h => absurd h (Nat.not_le_of_lt hshort)
  have hfits : HeaderFits net s ↔ HeaderSize ≤ s.nextSize :=
    ⟨fun h => h hpending hlong, fun h _ _ => h⟩
  rw [hfits]
  rcases hcases with ⟨hlt, hpacket⟩ | ⟨heq, hpacket⟩ | ⟨hgt, -, out, s'', hpacket, -⟩ |
    ⟨hgt, -, -, hpacket⟩ | ⟨hgt, -, hthere, s'', hpacket, -⟩
  · rw [hpacket]
    exact iff_of_false (by simp [Safe]) (Nat.not_le_of_lt hlt)
  · have hmin : HeaderSize ≤ s.nextSize := Nat.le_of_eq heq.symm
    rw [← heq] at hpacket
    rw [hpacket]
    exact iff_of_true (safe_take hmin (by omega)) hmin
  · rw [hpacket]
    exact iff_of_true trivial (Nat.le_of_lt hgt)
  · rw [hpacket]
    exact iff_of_true rfl (Nat.le_of_lt hgt)
  · rw [hpacket]
    exact iff_of_true (safe_take (Nat.le_of_lt hgt) hthere) (Nat.le_of_lt hgt)

namespace RecvWorker

/-- The next call is safe, and so were those that delivered the packets in the queue. -/
def Sound (net : Network) (w : RecvWorker) : Prop :=
  Safe (receivePacket net w.inbound) ∧ ∀ packet ∈ w.recvPacketQueue, WellFramed packet

/-- **One turn** that ends safely enqueues a packet with its own length, or nothing. -/
theorem wellFramed_turn {net : Network} {w w' : RecvWorker}
    (hw : ∀ packet ∈ w.recvPacketQueue, WellFramed packet)
    (hsafe : Safe (receivePacket net w.inbound)) (h : w.turn net () = .ok w') :
    ∀ packet ∈ w'.recvPacketQueue, WellFramed packet := by
  obtain ⟨⟨received, packet, s⟩, hpacket, h⟩ := bind_eq_ok.mp h
  rw [hpacket] at hsafe
  cases received with
  | false =>
    obtain rfl := Except.ok.inj h
    exact hw
  | true =>
    obtain rfl := Except.ok.inj h
    intro p hp
    rcases List.mem_append.mp hp with hp | hp
    · exact hw p hp
    · obtain rfl := List.mem_singleton.mp hp
      exact ⟨hsafe.2, hsafe.1.symm⟩

/-- **Any stream.**  Every call of a run is safe and every packet it enqueues has
its own length, exactly if every header the run reads fits. -/
theorem sound_iff_headerFits (net : Network) (bytes : List UInt8) (n : Nat) :
    Steps.Throughout (turn net) (Sound net) (started bytes) (.replicate n ()) ↔
      Steps.Throughout (turn net) (fun w => HeaderFits net w.inbound) (started bytes)
        (.replicate n ()) := by
  constructor
  · intro h
    exact h.imp fun w hw => (safe_receivePacket_iff net w.inbound).mp hw.1
  · intro h
    have hstart : ∀ packet ∈ (started bytes).recvPacketQueue, WellFramed packet :=
      fun _ hp => absurd hp List.not_mem_nil
    have hqueue := Steps.throughout_of_meets (fun w _ w' hw hC h =>
      wellFramed_turn hw ((safe_receivePacket_iff net w.inbound).mpr hC) h) hstart h.meets
    intro l₁ l₂ w hl hw
    exact ⟨(safe_receivePacket_iff net w.inbound).mpr (h l₁ l₂ w hl hw), hqueue l₁ l₂ w hl hw⟩

/-- A size field of 3 asks for -1 bytes of payload. -/
theorem not_always_sound :
    ¬∀ (net : Network) (bytes : List UInt8) (n : Nat),
      Steps.Throughout (turn net) (Sound net) (started bytes) (.replicate n ()) := by
  intro h
  obtain ⟨hsafe, -⟩ := h ⟨fun _ => 4, fun _ => 4⟩ [3, 0, 233, 3] 0 [] [] _ rfl rfl
  have hfault : receivePacket ⟨fun _ => 4, fun _ => 4⟩ (started [3, 0, 233, 3]).inbound =
      .error .negativeCount := rfl
  rw [hfault] at hsafe
  cases hsafe

end RecvWorker

/-! ## Calls of `Recv` -/

/-- **The loop ends**: each call gets at least one byte, so there are at most as many
calls as bytes missing, and the bound on them never stops the loop. -/
theorem calls_of_receiveLoop {net : Network} {fuel size : Nat} {s : Inbound}
    {results : List UInt8} {offset : Nat} (hfuel : size ≤ fuel) :
    receiveLoop net fuel s results offset size ≠ .error .outOfFuel ∧
      ∀ received out s', receiveLoop net fuel s results offset size = .ok (received, out, s') →
        s'.calls ≤ s.calls + size := by
  have hdone : ∀ fuel s results offset,
      receiveLoop net fuel s results offset (0 : Nat) ≠ .error .outOfFuel ∧
        ∀ received out s', receiveLoop net fuel s results offset (0 : Nat) =
          .ok (received, out, s') → s'.calls ≤ s.calls + 0 := by
    intro fuel s results offset
    rw [receiveLoop_zero]
    refine ⟨by simp, fun received out s' h => ?_⟩
    obtain ⟨-, h⟩ := Prod.mk.inj (Except.ok.inj h)
    obtain ⟨-, rfl⟩ := Prod.mk.inj h
    exact Nat.le_refl _
  induction fuel generalizing s results offset size with
  | zero =>
    obtain rfl : size = 0 := Nat.le_zero.mp hfuel
    exact hdone ..
  | succ fuel ih =>
    rcases Nat.eq_zero_or_pos size with rfl | hsize
    · exact hdone ..
    rcases s.recv_cases net hsize with ⟨-, hrecv⟩ | ⟨k, s', hk, hks, hku, hrecv, -, hcalls, -⟩
    · have hblocked : receiveLoop net (fuel + 1) s results offset size = .error .blocked := by
        rw [receiveLoop, if_pos (by omega), Int.toNat_natCast, hrecv]
        rfl
      rw [hblocked]
      exact ⟨by simp, fun _ _ _ h => by cases h⟩
    have hlen : (s.unread.take k).length = k := by rw [List.length_take, Nat.min_eq_left hku]
    cases hwrite : Region.write results offset (s.unread.take k) with
    | none =>
      have houtside : receiveLoop net (fuel + 1) s results offset size = .error .outOfBounds := by
        rw [receiveLoop, if_pos (by omega), Int.toNat_natCast, hrecv]
        simp only [bind, Except.bind, hwrite]
      rw [houtside]
      exact ⟨by simp, fun _ _ _ h => by cases h⟩
    | some out =>
      rw [@receiveLoop_succ net fuel _ _ _ _ _ _ _ hrecv (by omega) (by omega) hwrite, hlen]
      obtain ⟨hfuel', hcalls'⟩ := @ih (size - k) s' out (offset + k) (by omega)
      refine ⟨hfuel', fun received out' s'' h => ?_⟩
      have hbound := hcalls' received out' s'' h
      omega

/-- **`ReceiveDesiredBytes(_, size)`** calls `Recv` at most `size` times after its
test. -/
theorem calls_of_receiveDesiredBytes (net : Network) (s : Inbound) (results : List UInt8)
    (offset size : Nat) :
    receiveDesiredBytes net s results offset size ≠ .error .outOfFuel ∧
      ∀ received out s', receiveDesiredBytes net s results offset size =
        .ok (received, out, s') → s'.calls ≤ (s.hasPendingData net).2.2.calls + size := by
  cases hpending : (s.hasPendingData net).1 with
  | false =>
    rw [receiveDesiredBytes_of_not_pending hpending]
    refine ⟨by simp, fun received out s' h => ?_⟩
    obtain ⟨-, h⟩ := Prod.mk.inj (Except.ok.inj h)
    obtain ⟨-, rfl⟩ := Prod.mk.inj h
    exact Nat.le_add_right ..
  | true =>
    rw [receiveDesiredBytes_eq_loop hpending, Int.toNat_natCast]
    exact calls_of_receiveLoop (Nat.le_refl size)

/-! ## Packets sent back to back -/

namespace RecvWorker

/-- Whenever the turn asks for pending data, there is some. -/
def PendingWhenAsked (net : Network) (w : RecvWorker) (_ : Unit) : Prop :=
  (w.inbound.hasPendingData net).1 = true ∧ w.PayloadPending net ()

/-- **One turn** on a stream that starts with a packet takes that packet and nothing
behind it, if there is something pending whenever it asks. -/
theorem turn_of_pending {net : Network} {w : RecvWorker} {p rest : List UInt8}
    (hp : WellFramed p) (hw : w.inbound.unread = p ++ rest)
    (hC : ∀ w', w.turn net () = .ok w' → w.PendingWhenAsked net ()) :
    ∃ s, w.turn net () = .ok ⟨s, w.recvPacketQueue ++ [p]⟩ ∧ s.unread = rest := by
  have hturn : ∀ {received packet s}, receivePacket net w.inbound = .ok (received, packet, s) →
      w.turn net () = .ok (if received then ⟨s, w.recvPacketQueue ++ [packet]⟩
        else { w with inbound := s }) := by
    intro received packet s h
    unfold turn runTurn
    rw [h]
    cases received <;> rfl
  rcases receivePacket_cases net hp hw with
    ⟨hnone, s', hpacket, -⟩ | ⟨s', hheader, hs', -, ⟨hlen, hpacket⟩ |
      ⟨hlt, hnone, out, s'', hpacket, -⟩ | ⟨-, -, s'', hpacket, hs'', -⟩⟩
  · -- nothing pending for the header
    have hpending := (hC _ (hturn hpacket)).1
    exact absurd (hpending.symm.trans hnone) (by simp)
  · refine ⟨s', hturn hpacket, ?_⟩
    rw [hs', ← hlen, List.drop_length, List.nil_append]
  · -- nothing pending for the payload
    have hpending := (hC _ (hturn hpacket)).2 _ _ hheader (by rw [hp.2]; omega)
    exact absurd (hpending.symm.trans hnone) (by simp)
  · exact ⟨s'', hturn hpacket, hs''⟩

/-- The turns that take the packets of a list. -/
theorem turns_of_pending {net : Network} {packets : List (List UInt8)} {w : RecvWorker}
    {rest : List UInt8} (hpackets : ∀ p ∈ packets, WellFramed p)
    (hw : w.inbound.unread = packets.flatten ++ rest)
    (hC : Steps.Meets (turn net) (PendingWhenAsked net) w (.replicate packets.length ())) :
    ∃ s, Steps.run (turn net) w (.replicate packets.length ()) =
      .ok ⟨s, w.recvPacketQueue ++ packets⟩ ∧ s.unread = rest := by
  induction packets generalizing w with
  | nil => exact ⟨w.inbound, by rw [List.append_nil]; rfl, hw⟩
  | cons p packets ih =>
    rw [List.flatten_cons, List.append_assoc] at hw
    obtain ⟨s, hturn, hs⟩ := turn_of_pending (hpackets p List.mem_cons_self) hw
      fun w' hw' => (hC w' hw').1
    obtain ⟨t, ht, htrest⟩ := ih (fun q hq => hpackets q (List.mem_cons_of_mem p hq)) hs
      (hC _ hturn).2
    refine ⟨t, Steps.run_cons.mpr ⟨_, hturn, ?_⟩, htrest⟩
    rw [ht, List.append_assoc]
    rfl

/-- **Exact decoding.**  If something is pending whenever a turn asks, each of the
first turns takes one packet, byte for byte, and leaves the stream at the first byte
of the next; and no `ReceiveDesiredBytes(_, size)` calls `Recv` more than `size` times. -/
theorem decode_exact {net : Network} {packets : List (List UInt8)}
    (hpackets : ∀ p ∈ packets, WellFramed p)
    (hC : Steps.Meets (turn net) (PendingWhenAsked net) (started packets.flatten)
      (.replicate packets.length ())) :
    (∀ k, k ≤ packets.length → ∃ w,
      Steps.run (turn net) (started packets.flatten) (.replicate k ()) = .ok w ∧
        w.recvPacketQueue = packets.take k ∧ w.inbound.unread = (packets.drop k).flatten) ∧
      ∀ (s : Inbound) (results : List UInt8) (offset size : Nat),
        receiveDesiredBytes net s results offset size ≠ .error .outOfFuel ∧
        ∀ received out s', receiveDesiredBytes net s results offset size =
          .ok (received, out, s') → s'.calls ≤ (s.hasPendingData net).2.2.calls + size := by
  refine ⟨fun k hk => ?_, calls_of_receiveDesiredBytes net⟩
  have hsplit : (started packets.flatten).inbound.unread =
      (packets.take k).flatten ++ (packets.drop k).flatten := by
    rw [← List.flatten_append, List.take_append_drop]
    rfl
  have hlen : (packets.take k).length = k := by rw [List.length_take, Nat.min_eq_left hk]
  have hfirst : Steps.Meets (turn net) (PendingWhenAsked net) (started packets.flatten)
      (.replicate (packets.take k).length ()) := by
    apply Steps.Meets.of_append
    rwa [hlen, List.replicate_append_replicate, Nat.add_sub_cancel' hk]
  obtain ⟨s, hrun, hs⟩ := turns_of_pending (fun p hp => hpackets p (List.mem_of_mem_take hp))
    hsplit hfirst
  rw [hlen] at hrun
  exact ⟨_, hrun, rfl, hs⟩

/-- The law on two packets that arrive at once and are read three bytes at a time. -/
theorem decode_exact_at_once :
    ∃ w, Steps.run (turn ⟨fun _ => 10, fun _ => 3⟩) (started [6, 0, 1, 0, 7, 8, 4, 0, 2, 0])
          (.replicate 1 ()) = .ok w ∧
        w.recvPacketQueue = [[6, 0, 1, 0, 7, 8]] ∧ w.inbound.unread = [4, 0, 2, 0] := by
  refine (@decode_exact ⟨fun _ => 10, fun _ => 3⟩ [[6, 0, 1, 0, 7, 8], [4, 0, 2, 0]]
    (by decide) ?_).1 1 (by decide)
  intro w hw
  obtain rfl : ⟨⟨[4, 0, 2, 0], [], 5⟩, [[6, 0, 1, 0, 7, 8]]⟩ = w := Except.ok.inj hw
  refine ⟨⟨rfl, fun header s' h _ => ?_⟩, fun w hw => ⟨⟨rfl, fun header s' h hne => ?_⟩, trivial⟩⟩
  · have hread : Except.ok (true, [6, 0, 1, 0], ⟨[7, 8, 4, 0, 2, 0], [], 3⟩) =
        Except.ok (true, header, s') := h
    obtain ⟨-, rfl⟩ := Prod.mk.inj (Prod.mk.inj (Except.ok.inj hread)).2
    rfl
  · have hread : Except.ok (true, [4, 0, 2, 0], ⟨[], [], 8⟩) = Except.ok (true, header, s') := h
    obtain ⟨rfl, -⟩ := Prod.mk.inj (Prod.mk.inj (Except.ok.inj hread)).2
    exact absurd rfl hne

end RecvWorker
end S1Client
