import S1Client.RecvWorker

/-!
# Framing of the received stream

Once its test of `HasPendingData` passes, `ReceiveDesiredBytes` reads exactly the
bytes it is asked for, however they arrive and are handed out.  What it does not
do is give anything back: `ReceivePacket` tests a second time between header and
payload, and where that test fails the header is gone and the payload is read as
the next header.  So the framing is sound in the runs in which a byte of the
payload is there whenever a header has just been read (`queue_isPrefix`).
-/
namespace S1Client

namespace Inbound

@[simp] theorem unread_arrive (s : Inbound) (n : Nat) : (s.arrive n).unread = s.unread := by
  simp [arrive, unread]

@[simp] theorem hasPendingData_unread (net : Network) (s : Inbound) :
    (s.hasPendingData net).2.2.unread = s.unread := unread_arrive ..

/-- **One `Recv`**: blocks on a stream that is used up, or hands out at least one
and at most `size` of the next bytes. -/
theorem recv_cases (net : Network) (s : Inbound) {size : Nat} (hsize : 0 < size) :
    s.unread = [] ∧ s.recv net size = .error .blocked ∨
      ∃ k s', 0 < k ∧ k ≤ size ∧ k ≤ s.unread.length ∧
        s.recv net size = .ok (s.unread.take k, s') ∧ s'.unread = s.unread.drop k ∧
        s'.calls = s.calls + 1 ∧ (s.inFlight = [] → s'.inFlight = []) := by
  unfold recv
  generalize hn : s.recvArrivals net = n
  cases hp : (s.arrive n).pending with
  | nil =>
    refine Or.inl ⟨?_, by simp only [hp, List.isEmpty_nil, if_true]⟩
    obtain ⟨hpending, htake⟩ := List.append_eq_nil_iff.mp hp
    -- a call that would wait lets a byte arrive, if one is left
    have hpos : 0 < n := by
      rw [← hn, recvArrivals, hpending, List.isEmpty_nil, if_pos rfl]
      omega
    have hflight : s.inFlight = [] := by
      rcases List.take_eq_nil_iff.mp htake with h0 | h
      · omega
      · exact h
    simp [unread, hpending, hflight]
  | cons b bs =>
    have hunread : s.unread = (b :: bs) ++ (s.arrive n).inFlight := by
      rw [← unread_arrive s n, unread, hp]
    generalize hm : min (max 1 (net.chunk s.calls)) size = m
    -- the network may offer more bytes than are pending
    have hmpos : 0 < m ∧ m ≤ size := by omega
    refine Or.inr ⟨min m (b :: bs).length, { s.arrive n with pending := (b :: bs).drop m },
      ?_, ?_, ?_, ?_, ?_, rfl, fun h => by simp [arrive, h]⟩
    · rw [List.length_cons]
      omega
    · omega
    · rw [hunread, List.length_append]
      omega
    · rw [hunread, List.take_append_of_le_length (by omega), ← List.take_eq_take_min]
      simp only [hp, List.isEmpty_cons, Bool.false_eq_true, if_false]
    · rw [hunread, List.drop_append_of_le_length (by omega), ← List.drop_eq_drop_min]
      rfl

end Inbound

/-! ## Reading a given number of bytes -/

/-- Nothing is missing. -/
theorem receiveLoop_zero (net : Network) (fuel : Nat) (s : Inbound) (results : List UInt8)
    (offset : Nat) : receiveLoop net fuel s results offset (0 : Nat) = .ok (true, results, s) := by
  cases fuel <;> (rw [receiveLoop, if_neg (by simp)])

/-- One turn of the loop that gets some bytes. -/
theorem receiveLoop_succ {net : Network} {fuel size offset : Nat} {s s' : Inbound}
    {results out bytes : List UInt8} (hrecv : s.recv net size = .ok (bytes, s'))
    (hpos : 0 < bytes.length) (hle : bytes.length ≤ size)
    (hwrite : Region.write results offset bytes = some out) :
    receiveLoop net (fuel + 1) s results offset size =
      receiveLoop net fuel s' out (offset + bytes.length) (size - bytes.length : Nat) := by
  rw [receiveLoop, if_pos (by omega), Int.toNat_natCast, hrecv]
  simp only [bind, Except.bind, hwrite]
  rw [if_neg (by omega), if_neg (by omega), Int.ofNat_sub hle]

/-- **The loop, exactly.**  If the stream holds `size` bytes the loop moves them to
`offset`, in at most `size` calls; if not, it waits for ever. -/
theorem receiveLoop_eq (net : Network) {fuel size offset : Nat} {s : Inbound}
    {results : List UInt8} (hfuel : size ≤ fuel) (hbound : offset + size ≤ results.length) :
    (s.unread.length < size → receiveLoop net fuel s results offset size = .error .blocked) ∧
      (size ≤ s.unread.length → ∃ out s',
        receiveLoop net fuel s results offset size = .ok (true, out, s') ∧
        Region.write results offset (s.unread.take size) = some out ∧
        s'.unread = s.unread.drop size ∧ s'.calls ≤ s.calls + size ∧
        (s.inFlight = [] → s'.inFlight = [])) := by
  induction fuel generalizing s results offset size with
  | zero =>
    obtain rfl : size = 0 := by omega
    exact ⟨fun h => by omega, fun _ => ⟨results, s, receiveLoop_zero .., Region.write_nil (by omega),
      rfl, by omega, id⟩⟩
  | succ fuel ih =>
    rcases Nat.eq_zero_or_pos size with rfl | hsize
    · exact ⟨fun h => by omega, fun _ => ⟨results, s, receiveLoop_zero ..,
        Region.write_nil (by omega), rfl, by omega, id⟩⟩
    rcases s.recv_cases net hsize with ⟨hempty, hrecv⟩ | ⟨k, s', hk, hks, hku, hrecv, hs', hcalls, harrived⟩
    · constructor
      · intro _
        rw [receiveLoop, if_pos (by omega), Int.toNat_natCast, hrecv]
        rfl
      · intro h
        rw [hempty, List.length_nil] at h
        omega
    · have hlen : (s.unread.take k).length = k := by simp; omega
      have hin : offset + (s.unread.take k).length ≤ results.length := by omega
      obtain ⟨out, hout⟩ := Region.exists_write hin
      have hturn : receiveLoop net (fuel + 1) s results offset size =
          receiveLoop net fuel s' out (offset + k) (size - k : Nat) := by
        have h := @receiveLoop_succ net fuel _ _ _ _ _ _ _ hrecv (by omega) (by omega) hout
        rwa [hlen] at h
      have houtlen := Region.length_of_write hout
      have hfuel' : size - k ≤ fuel := by omega
      have hbound' : offset + k + (size - k) ≤ out.length := by omega
      -- the loop goes on behind the `k` bytes, with the rest of the stream
      obtain ⟨hshort, hlong⟩ := @ih (size - k) (offset + k) s' out hfuel' hbound'
      have hrest : s'.unread.length = s.unread.length - k := by rw [hs', List.length_drop]
      refine ⟨fun h => hturn.trans (hshort (by omega)), fun h => ?_⟩
      obtain ⟨out', s'', hloop, hwrite, hs'', hcalls', harrived'⟩ := hlong (by omega)
      refine ⟨out', s'', hturn.trans hloop, ?_, ?_, by omega, fun h => harrived' (harrived h)⟩
      · have hsplit : s.unread.take size = s.unread.take k ++ s'.unread.take (size - k) := by
          rw [hs', ← List.take_add, Nat.add_sub_cancel' hks]
        rw [hsplit, Region.write_append, hout, Option.bind_some, hlen]
        exact hwrite
      · rw [hs'', hs', List.drop_drop, Nat.add_sub_cancel' hks]

/-! ## `ReceiveDesiredBytes` -/

namespace Inbound

theorem hasPendingData_eq_true {net : Network} {s : Inbound} :
    (s.hasPendingData net).1 = true ↔ (s.hasPendingData net).2.2.pending ≠ [] := by
  unfold hasPendingData
  simp

/-- A byte that arrived and was not read is reported. -/
theorem hasPendingData_of_arrived {net : Network} {s : Inbound} (h : s.inFlight = [])
    (hs : s.unread ≠ []) : (s.hasPendingData net).1 = true := by
  rw [hasPendingData_eq_true]
  simpa [hasPendingData, arrive, unread, h] using hs

theorem unread_ne_nil {net : Network} {s : Inbound} (h : (s.hasPendingData net).1 = true) :
    s.unread ≠ [] := by
  intro hs
  rw [← hasPendingData_unread net, unread, List.append_eq_nil_iff] at hs
  exact hasPendingData_eq_true.mp h hs.1

end Inbound

theorem receiveDesiredBytes_of_not_pending {net : Network} {s : Inbound} {results : List UInt8}
    {offset : Nat} {size : Int} (h : (s.hasPendingData net).1 = false) :
    receiveDesiredBytes net s results offset size =
      .ok (false, results, (s.hasPendingData net).2.2) := by
  unfold receiveDesiredBytes
  exact if_pos (Or.inl h)

/-- Past the test, the call is its loop. -/
theorem receiveDesiredBytes_eq_loop {net : Network} {s : Inbound} {results : List UInt8}
    {offset : Nat} {size : Int} (h : (s.hasPendingData net).1 = true) :
    receiveDesiredBytes net s results offset size =
      receiveLoop net size.toNat (s.hasPendingData net).2.2 results offset size := by
  have hpos : ¬(s.hasPendingData net).2.1 ≤ 0 := by
    have hne := Inbound.hasPendingData_eq_true.mp h
    have hlen : (s.hasPendingData net).2.1 = (s.hasPendingData net).2.2.pending.length := rfl
    rw [hlen, Nat.le_zero, List.length_eq_zero_iff]
    exact hne
  unfold receiveDesiredBytes
  refine if_neg ?_
  rintro (hfalse | hle)
  · exact absurd (h.symm.trans hfalse) (by simp)
  · exact hpos hle

/-- Bytes the stream does not hold are waited for. -/
theorem receiveDesiredBytes_of_short {net : Network} {s : Inbound} {results : List UInt8}
    {offset size : Nat} (h : (s.hasPendingData net).1 = true)
    (hbound : offset + size ≤ results.length) (hsize : s.unread.length < size) :
    receiveDesiredBytes net s results offset size = .error .blocked := by
  rw [receiveDesiredBytes_eq_loop h, Int.toNat_natCast]
  refine (receiveLoop_eq net (Nat.le_refl size) hbound).1 ?_
  rw [s.hasPendingData_unread net]
  exact hsize

/-- Bytes it holds are read. -/
theorem receiveDesiredBytes_of_pending {net : Network} {s : Inbound} {results : List UInt8}
    {offset size : Nat} (h : (s.hasPendingData net).1 = true)
    (hbound : offset + size ≤ results.length) (hsize : size ≤ s.unread.length) :
    ∃ out s', receiveDesiredBytes net s results offset size = .ok (true, out, s') ∧
      Region.write results offset (s.unread.take size) = some out ∧
      s'.unread = s.unread.drop size ∧ (s.inFlight = [] → s'.inFlight = []) := by
  have hunread := s.hasPendingData_unread net
  obtain ⟨out, s', hloop, hwrite, hs', -, harrived⟩ :=
    (receiveLoop_eq net (Nat.le_refl size) hbound).2 (by rw [hunread]; exact hsize)
  rw [hunread] at hwrite hs'
  refine ⟨out, s', ?_, hwrite, hs', fun hflight => harrived ?_⟩
  · rw [receiveDesiredBytes_eq_loop h, Int.toNat_natCast]
    exact hloop
  · simp [Inbound.hasPendingData, Inbound.arrive, hflight]

/-! ## `ReceivePacket` -/

/-- A packet as the server sends it: its header gives its length. -/
def WellFramed (p : List UInt8) : Prop :=
  HeaderSize ≤ p.length ∧ (FPacketHeader.read (p.take HeaderSize)).packetSize.toNat = p.length

instance (p : List UInt8) : Decidable (WellFramed p) :=
  inferInstanceAs (Decidable (_ ∧ _))

/-- The call that reads a header. -/
def receiveHeader (net : Network) (s : Inbound) : Except NetFault (Bool × List UInt8 × Inbound) :=
  receiveDesiredBytes net s (.replicate HeaderSize 0) 0 HeaderSize

theorem receivePacket_of_no_header {net : Network} {s s' : Inbound} {header : List UInt8}
    (h : receiveHeader net s = .ok (false, header, s')) :
    receivePacket net s = .ok (false, [], s') := by
  unfold receiveHeader at h
  unfold receivePacket
  rw [h]
  rfl

/-- What `ReceivePacket` does once it has a header. -/
theorem receivePacket_of_header {net : Network} {s s' : Inbound} {header : List UInt8}
    (h : receiveHeader net s = .ok (true, header, s')) {len : Nat}
    (hlen : (FPacketHeader.read header).packetSize.toNat = len) :
    (len < HeaderSize → receivePacket net s = .error .negativeCount) ∧
      (len = HeaderSize → receivePacket net s = .ok (true, header, s')) ∧
      (HeaderSize < len → header.length = HeaderSize →
        receivePacket net s = receiveDesiredBytes net s'
          (header ++ .replicate (len - HeaderSize) 0) HeaderSize (len - HeaderSize : Nat)) := by
  unfold receiveHeader at h
  unfold receivePacket
  rw [h]
  show (_ → (if ((FPacketHeader.read header).packetSize.toNat - HeaderSize : Int) = 0 then _
    else _) = _) ∧ (_ → (if _ then _ else _) = _) ∧ (_ → _ → (if _ then _ else _) = _)
  rw [hlen]
  refine ⟨?_, ?_, ?_⟩
  · intro hlt
    rw [if_neg (by omega)]
    unfold addZeroed
    rw [if_pos (by omega)]
    rfl
  · rintro rfl
    exact if_pos (Int.sub_self _)
  · intro hlt hheader
    have hsub : (len - HeaderSize : Int) = (len - HeaderSize : Nat) := by omega
    rw [if_neg (by omega), hsub]
    unfold addZeroed
    rw [if_neg (by omega), Int.toNat_natCast]
    show (if _ then _ else _) = _
    rw [if_neg (by simp [hheader]; omega)]

/-- The size field of the next header. -/
def Inbound.nextSize (s : Inbound) : Nat :=
  (FPacketHeader.read (s.unread.take HeaderSize)).packetSize.toNat

/-- **Reading a header**: nothing pending, a header that never comes whole, or the
next bytes of the stream. -/
theorem receiveHeader_cases (net : Network) (s : Inbound) :
    (s.hasPendingData net).1 = false ∧
        (∃ header s', receiveHeader net s = .ok (false, header, s') ∧ s'.unread = s.unread) ∨
      (s.hasPendingData net).1 = true ∧ s.unread.length < HeaderSize ∧
        receiveHeader net s = .error .blocked ∨
      (s.hasPendingData net).1 = true ∧ HeaderSize ≤ s.unread.length ∧
        ∃ s', receiveHeader net s = .ok (true, s.unread.take HeaderSize, s') ∧
          s'.unread = s.unread.drop HeaderSize ∧ (s.inFlight = [] → s'.inFlight = []) := by
  have hfits : 0 + HeaderSize ≤ (List.replicate HeaderSize (0 : UInt8)).length := by simp
  cases hpending : (s.hasPendingData net).1 with
  | false =>
    exact Or.inl ⟨rfl, _, _, receiveDesiredBytes_of_not_pending hpending, s.hasPendingData_unread net⟩
  | true =>
    right
    rcases Nat.lt_or_ge s.unread.length HeaderSize with hshort | hlong
    · exact Or.inl ⟨rfl, hshort, receiveDesiredBytes_of_short hpending hfits hshort⟩
    · obtain ⟨header, s', hheader, hwrite, hs', harrived⟩ :=
        receiveDesiredBytes_of_pending hpending hfits hlong
      -- the header overwrites all of the zeroed buffer
      rw [Region.write_all (by simp [hlong])] at hwrite
      obtain rfl := Option.some.inj hwrite
      exact Or.inr ⟨rfl, hlong, s', hheader, hs', harrived⟩

/-- **Reading a payload** behind a header that announces one: nothing pending, a payload
that never comes whole, or the next bytes of the stream. -/
theorem receivePayload_cases {net : Network} {s s' : Inbound}
    (hheader : receiveHeader net s = .ok (true, s.unread.take HeaderSize, s'))
    (hlong : HeaderSize ≤ s.unread.length) (hs' : s'.unread = s.unread.drop HeaderSize)
    (hgt : HeaderSize < s.nextSize) :
    (s'.hasPendingData net).1 = false ∧
        (∃ out s'', receivePacket net s = .ok (false, out, s'') ∧ s''.unread = s'.unread) ∨
      (s'.hasPendingData net).1 = true ∧ s.unread.length < s.nextSize ∧
        receivePacket net s = .error .blocked ∨
      (s'.hasPendingData net).1 = true ∧ s.nextSize ≤ s.unread.length ∧
        ∃ s'', receivePacket net s = .ok (true, s.unread.take s.nextSize, s'') ∧
          s''.unread = s.unread.drop s.nextSize ∧ (s'.inFlight = [] → s''.inFlight = []) := by
  have hheaderlen : (s.unread.take HeaderSize).length = HeaderSize := by simp [hlong]
  have hsize : (FPacketHeader.read (s.unread.take HeaderSize)).packetSize.toNat = s.nextSize := rfl
  have hpacket := (receivePacket_of_header hheader hsize).2.2 hgt hheaderlen
  have hroom : HeaderSize + (s.nextSize - HeaderSize) ≤
      (s.unread.take HeaderSize ++ .replicate (s.nextSize - HeaderSize) 0).length :=
    Nat.le_of_eq (by rw [List.length_append, hheaderlen, List.length_replicate])
  have hrest : s'.unread.length = s.unread.length - HeaderSize := by rw [hs', List.length_drop]
  cases hmore : (s'.hasPendingData net).1 with
  | false =>
    exact Or.inl ⟨rfl, _, _, hpacket.trans (receiveDesiredBytes_of_not_pending hmore),
      s'.hasPendingData_unread net⟩
  | true =>
    right
    rcases Nat.lt_or_ge s.unread.length s.nextSize with hshort | hthere
    · exact Or.inl ⟨rfl, hshort,
        hpacket.trans (receiveDesiredBytes_of_short hmore hroom (by omega))⟩
    · obtain ⟨out, s'', hbytes, hwrite, hs'', harrived⟩ :=
        receiveDesiredBytes_of_pending hmore hroom (by omega)
      -- the payload overwrites all of what `AddZeroed` appended to the header
      have hlast := @Region.write_last _ (s.unread.take HeaderSize)
        (.replicate (s.nextSize - HeaderSize) 0) (s'.unread.take (s.nextSize - HeaderSize))
        (by rw [List.length_replicate, List.length_take]; omega)
      rw [hheaderlen] at hlast
      obtain rfl := Option.some.inj (hwrite.symm.trans hlast)
      have hwhole : s.unread.take HeaderSize ++ s'.unread.take (s.nextSize - HeaderSize) =
          s.unread.take s.nextSize := by
        rw [hs', ← List.take_add, Nat.add_sub_cancel' (Nat.le_of_lt hgt)]
      rw [hwhole] at hbytes
      refine Or.inr ⟨rfl, hthere, s'', hpacket.trans hbytes, ?_, harrived⟩
      rw [hs'', hs', List.drop_drop, Nat.add_sub_cancel' (Nat.le_of_lt hgt)]

/-- **One call of `ReceivePacket`** on any stream.  Once a header has been read, its
size field decides: one below the header's own length makes the payload negative. -/
theorem receivePacket_outcome (net : Network) (s : Inbound) :
    ((s.hasPendingData net).1 = false ∧
        ∃ s', receivePacket net s = .ok (false, [], s') ∧ s'.unread = s.unread) ∨
      ((s.hasPendingData net).1 = true ∧ s.unread.length < HeaderSize ∧
        receivePacket net s = .error .blocked) ∨
      ((s.hasPendingData net).1 = true ∧ HeaderSize ≤ s.unread.length ∧
        ∃ s', receiveHeader net s = .ok (true, s.unread.take HeaderSize, s') ∧
          s'.unread = s.unread.drop HeaderSize ∧ (s.inFlight = [] → s'.inFlight = []) ∧
          (s.nextSize < HeaderSize ∧ receivePacket net s = .error .negativeCount ∨
            s.nextSize = HeaderSize ∧
              receivePacket net s = .ok (true, s.unread.take HeaderSize, s') ∨
            HeaderSize < s.nextSize ∧ (s'.hasPendingData net).1 = false ∧
              (∃ out s'', receivePacket net s = .ok (false, out, s'') ∧ s''.unread = s'.unread) ∨
            HeaderSize < s.nextSize ∧ (s'.hasPendingData net).1 = true ∧
              s.unread.length < s.nextSize ∧ receivePacket net s = .error .blocked ∨
            HeaderSize < s.nextSize ∧ (s'.hasPendingData net).1 = true ∧
              s.nextSize ≤ s.unread.length ∧
              ∃ s'', receivePacket net s = .ok (true, s.unread.take s.nextSize, s'') ∧
                s''.unread = s.unread.drop s.nextSize ∧
                (s.inFlight = [] → s''.inFlight = []))) := by
  rcases receiveHeader_cases net s with
    ⟨hpending, header, s', hheader, hs'⟩ | ⟨hpending, hshort, hheader⟩ |
      ⟨hpending, hlong, s', hheader, hs', harrived⟩
  · exact Or.inl ⟨hpending, s', receivePacket_of_no_header hheader, hs'⟩
  · refine Or.inr (Or.inl ⟨hpending, hshort, ?_⟩)
    unfold receiveHeader at hheader
    unfold receivePacket
    rw [hheader]
    rfl
  refine Or.inr (Or.inr ⟨hpending, hlong, s', hheader, hs', harrived, ?_⟩)
  have hsize : (FPacketHeader.read (s.unread.take HeaderSize)).packetSize.toNat = s.nextSize := rfl
  obtain ⟨hneg, hempty, -⟩ := receivePacket_of_header hheader hsize
  rcases Nat.lt_trichotomy s.nextSize HeaderSize with hlt | heq | hgt
  · exact Or.inl ⟨hlt, hneg hlt⟩
  · exact Or.inr (Or.inl ⟨heq, hempty heq⟩)
  right
  right
  rcases receivePayload_cases hheader hlong hs' hgt with
    ⟨hmore, hpacket⟩ | ⟨hmore, hshort, hpacket⟩ | ⟨hmore, hthere, s'', hpacket, hs'', harrived'⟩
  · exact Or.inl ⟨hgt, hmore, hpacket⟩
  · exact Or.inr (Or.inl ⟨hgt, hmore, hshort, hpacket⟩)
  · exact Or.inr (Or.inr ⟨hgt, hmore, hthere, s'', hpacket, hs'', fun h => harrived' (harrived h)⟩)

/-- **One call of `ReceivePacket`** on a stream that starts with a packet `p`.  It
finds nothing pending and leaves the stream alone; or it reads the header of `p`,
and then all of `p` if there is no more, nothing more if nothing is pending, and
all of `p` if something is. -/
theorem receivePacket_cases (net : Network) {s : Inbound} {p rest : List UInt8}
    (hp : WellFramed p) (hs : s.unread = p ++ rest) :
    ((s.hasPendingData net).1 = false ∧
        ∃ s', receivePacket net s = .ok (false, [], s') ∧ s'.unread = s.unread) ∨
      ∃ s', receiveHeader net s = .ok (true, p.take HeaderSize, s') ∧
        s'.unread = p.drop HeaderSize ++ rest ∧ (s.inFlight = [] → s'.inFlight = []) ∧
        (p.length = HeaderSize ∧ receivePacket net s = .ok (true, p, s') ∨
          HeaderSize < p.length ∧ (s'.hasPendingData net).1 = false ∧
            (∃ out s'', receivePacket net s = .ok (false, out, s'') ∧ s''.unread = s'.unread) ∨
          HeaderSize < p.length ∧ (s'.hasPendingData net).1 = true ∧
            ∃ s'', receivePacket net s = .ok (true, p, s'') ∧ s''.unread = rest ∧
              (s.inFlight = [] → s''.inFlight = [])) := by
  obtain ⟨hmin, hsize⟩ := hp
  have hlen : s.unread.length = p.length + rest.length := by rw [hs, List.length_append]
  have htake : s.unread.take HeaderSize = p.take HeaderSize := by
    rw [hs, List.take_append_of_le_length hmin]
  have hdrop : s.unread.drop HeaderSize = p.drop HeaderSize ++ rest := by
    rw [hs, List.drop_append_of_le_length hmin]
  have hnext : s.nextSize = p.length := by rw [Inbound.nextSize, htake, hsize]
  have hwhole : s.unread.take s.nextSize = p := by rw [hnext, hs, List.take_left]
  have hbehind : s.unread.drop s.nextSize = rest := by rw [hnext, hs, List.drop_left]
  rcases receivePacket_outcome net s with
    hnone | ⟨-, hshort, -⟩ | ⟨-, -, s', hheader, hs', harrived, hcases⟩
  · exact Or.inl hnone
  · omega
  rw [htake] at hheader hcases
  rw [hdrop] at hs'
  rw [hwhole, hbehind, hnext] at hcases
  refine Or.inr ⟨s', hheader, hs', harrived, ?_⟩
  rcases hcases with ⟨hlt, -⟩ | ⟨heq, hpacket⟩ | hnothing | ⟨-, -, hlt, -⟩ | ⟨hgt, hmore, -, hpacket⟩
  · omega
  · rw [← heq, List.take_length] at hpacket
    exact Or.inl ⟨heq, hpacket⟩
  · exact Or.inr (Or.inl hnothing)
  · omega
  · exact Or.inr (Or.inr ⟨hgt, hmore, hpacket⟩)

/-- All of a packet that has arrived is read, and what follows it has arrived as well. -/
theorem receivePacket_of_all_arrived (net : Network) {s : Inbound} {p rest : List UInt8}
    (hp : WellFramed p) (harrived : s.inFlight = []) (hs : s.unread = p ++ rest) :
    ∃ s', receivePacket net s = .ok (true, p, s') ∧ s'.unread = rest ∧ s'.inFlight = [] := by
  have hpos : 0 < p.length := Nat.lt_of_lt_of_le (by decide) hp.1
  rcases receivePacket_cases net hp hs with
    ⟨hnone, -⟩ | ⟨s', -, hs', harrived', ⟨hlen, hpacket⟩ | ⟨hlt, hnone, -⟩ |
      ⟨-, -, s'', hpacket, hs'', harrived''⟩⟩
  · have hpending : (s.hasPendingData net).1 = true := by
      apply Inbound.hasPendingData_of_arrived harrived
      intro hnil
      rw [hs, List.append_eq_nil_iff] at hnil
      rw [hnil.1] at hpos
      exact Nat.lt_irrefl _ hpos
    exact absurd (hpending.symm.trans hnone) (by simp)
  · refine ⟨s', hpacket, ?_, harrived' harrived⟩
    rw [hs', ← hlen, List.drop_length, List.nil_append]
  · have hpending : (s'.hasPendingData net).1 = true := by
      apply Inbound.hasPendingData_of_arrived (harrived' harrived)
      intro hnil
      rw [hs', List.append_eq_nil_iff, List.drop_eq_nil_iff] at hnil
      omega
    exact absurd (hpending.symm.trans hnone) (by simp)
  · exact ⟨s'', hpacket, hs'', harrived'' harrived⟩

/-- All of a packet that has arrived is read, whatever follows it. -/
theorem receivePacket_of_arrived (net : Network) {s : Inbound} {p rest : List UInt8}
    (hp : WellFramed p) (harrived : s.inFlight = []) (hs : s.unread = p ++ rest) :
    ∃ s', receivePacket net s = .ok (true, p, s') ∧ s'.unread = rest := by
  obtain ⟨s', hpacket, hs', -⟩ := receivePacket_of_all_arrived net hp harrived hs
  exact ⟨s', hpacket, hs'⟩

/-! ## The queue -/

namespace RecvWorker

/-- One turn of `Run`, as a step of a run. -/
def turn (net : Network) (w : RecvWorker) (_ : Unit) : Except NetFault RecvWorker := w.runTurn net

/-- When a turn has read the header of a packet with a payload, a byte of the payload
has arrived. -/
def PayloadPending (net : Network) (w : RecvWorker) (_ : Unit) : Prop :=
  ∀ header s', receiveHeader net w.inbound = .ok (true, header, s') →
    (FPacketHeader.read header).packetSize.toNat ≠ HeaderSize → (s'.hasPendingData net).1 = true

/-- The queue holds the first packets and the stream the bytes of the others. -/
def InStep (sent : List (List UInt8)) (w : RecvWorker) : Prop :=
  ∃ rest, sent = w.recvPacketQueue ++ rest ∧ w.inbound.unread = rest.flatten

/-- A turn on a stream that is used up does nothing. -/
private theorem runTurn_nil {net : Network} {w w' : RecvWorker} (hw : w.inbound.unread = [])
    (h : w.runTurn net = .ok w') :
    w'.recvPacketQueue = w.recvPacketQueue ∧ w'.inbound.unread = [] := by
  have hpending : (w.inbound.hasPendingData net).1 = false := by
    rw [← Bool.not_eq_true]
    exact fun h => Inbound.unread_ne_nil h hw
  have hpacket : receivePacket net w.inbound =
      .ok (false, [], (w.inbound.hasPendingData net).2.2) :=
    receivePacket_of_no_header (receiveDesiredBytes_of_not_pending hpending)
  unfold runTurn at h
  rw [hpacket] at h
  obtain rfl := Except.ok.inj h
  exact ⟨rfl, (w.inbound.hasPendingData_unread net).trans hw⟩

/-- **One turn** taken under the condition enqueues the next packet whole, or
nothing. -/
theorem InStep.turn {net : Network} {sent : List (List UInt8)} {w w' : RecvWorker}
    (hsent : ∀ p ∈ sent, WellFramed p) (hw : w.InStep sent) (hC : w.PayloadPending net ())
    (h : w.turn net () = .ok w') : w'.InStep sent := by
  obtain ⟨rest, hsplit, hunread⟩ := hw
  have h : w.runTurn net = .ok w' := h
  cases rest with
  | nil =>
    obtain ⟨hqueue, hunread'⟩ := runTurn_nil hunread h
    exact ⟨[], by rw [hqueue, ← hsplit], hunread'⟩
  | cons p rest =>
    have hp : WellFramed p := hsent p (by rw [hsplit]; simp)
    rw [List.flatten_cons] at hunread
    unfold runTurn at h
    rcases receivePacket_cases net hp hunread with
      ⟨-, s', hpacket, hs'⟩ | ⟨s', hheader, hs', -, ⟨hlen, hpacket⟩ | ⟨hlt, hnone, -⟩ |
        ⟨-, -, s'', hpacket, hs'', -⟩⟩
    · rw [hpacket] at h
      obtain rfl := Except.ok.inj h
      exact ⟨p :: rest, hsplit, hs'.trans hunread⟩
    · rw [hpacket] at h
      obtain rfl := Except.ok.inj h
      refine ⟨rest, by rw [hsplit]; simp, ?_⟩
      rw [hs', ← hlen, List.drop_length, List.nil_append]
    · -- the header is read and the payload is not there yet: what the condition excludes
      have hmore := hC _ _ hheader (by rw [hp.2]; omega)
      exact absurd (hmore.symm.trans hnone) (by simp)
    · rw [hpacket] at h
      obtain rfl := Except.ok.inj h
      exact ⟨rest, by rw [hsplit]; simp, hs''⟩

/-- **The queue is a prefix of what the server sent**, in every state of a run in
which a byte of the payload is there whenever the header has been read. -/
theorem queue_isPrefix {net : Network} {sent : List (List UInt8)}
    (hsent : ∀ p ∈ sent, WellFramed p) {n : Nat}
    (h : Steps.Meets (turn net) (PayloadPending net) (started sent.flatten) (.replicate n ())) :
    Steps.Throughout (turn net) (fun w => w.recvPacketQueue <+: sent) (started sent.flatten)
      (.replicate n ()) := by
  have hstart : (started sent.flatten).InStep sent := ⟨sent, rfl, rfl⟩
  refine (Steps.throughout_of_meets (fun w _ w' hw hC h => hw.turn hsent hC h) hstart h).imp ?_
  rintro w ⟨rest, hsplit, -⟩
  exact ⟨rest, hsplit.symm⟩

/-- The law on two packets that arrive at once and are read three bytes at a time. -/
theorem queue_isPrefix_at_once :
    Steps.Throughout (turn ⟨fun _ => 10, fun _ => 3⟩)
      (fun w => w.recvPacketQueue <+: [[6, 0, 1, 0, 7, 8], [4, 0, 2, 0]])
      (started [6, 0, 1, 0, 7, 8, 4, 0, 2, 0]) (.replicate 2 ()) := by
  refine @queue_isPrefix _ [[6, 0, 1, 0, 7, 8], [4, 0, 2, 0]] (by decide) 2 ?_
  intro w hw
  obtain rfl : ⟨⟨[4, 0, 2, 0], [], 5⟩, [[6, 0, 1, 0, 7, 8]]⟩ = w := Except.ok.inj hw
  refine ⟨fun header s' h _ => ?_, fun w hw => ⟨fun header s' h hne => ?_, trivial⟩⟩
  · have hread : Except.ok (true, [6, 0, 1, 0], ⟨[7, 8, 4, 0, 2, 0], [], 3⟩) =
        Except.ok (true, header, s') := h
    obtain ⟨-, rfl⟩ := Prod.mk.inj (Prod.mk.inj (Except.ok.inj hread)).2
    rfl
  · have hread : Except.ok (true, [4, 0, 2, 0], ⟨[], [], 8⟩) = Except.ok (true, header, s') := h
    obtain ⟨rfl, -⟩ := Prod.mk.inj (Prod.mk.inj (Except.ok.inj hread)).2
    exact absurd rfl hne

/-- **A packet can be fabricated out of payload bytes**: the header of an 8-byte
packet arrives alone, is read and dropped; its payload then reads as a header. -/
theorem not_always_isPrefix :
    ¬∀ (net : Network) (sent : List (List UInt8)) (n : Nat), (∀ p ∈ sent, WellFramed p) →
      Steps.Throughout (turn net) (fun w => w.recvPacketQueue <+: sent) (started sent.flatten)
        (.replicate n ()) := by
  intro h
  have hqueue := h ⟨fun n => if n = 0 ∨ n = 3 then 4 else 0, fun _ => 4⟩
    [[8, 0, 1, 0, 4, 0, 9, 0]] 2 (by decide) [(), ()] [] _ rfl rfl
  exact absurd hqueue (by decide)

end RecvWorker
end S1Client
