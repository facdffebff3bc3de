import S1Client.Outgoing

/-!
# Delivery

Nothing is left lying.  Once all bytes of the server have arrived, a turn of the receiving
thread and then one of the game thread get one packet further, and each turn of the sending
thread one buffer or at least one byte, whatever happens in between.  So after enough of
them every message has been handled and the socket has every packet (`delivered`).
-/
namespace S1Client
open Steps (bind_eq_ok mapError_eq_ok)

/-! ## The sending thread -/

namespace SendWorker

/-- How many turns are enough: one for each byte, and one to take each buffer. -/
def turnsLeft (w : SendWorker) : Nat :=
  w.sending?.elim 0 Sending.size + (w.sendPacketQueue.map fun b => b.writeSize + 1).sum

theorem elim_more_size (s : Sending) : s.more.elim 0 Sending.size = s.size := by
  unfold Sending.more
  split
  · rfl
  · rename_i h
    show 0 = s.size
    omega

theorem turnsLeft_dequeue {w w' : SendWorker} (h : w.dequeue = .ok w') :
    w'.turnsLeft = w.turnsLeft - 1 := by
  unfold dequeue at h
  split at h
  · cases h
  · rename_i hsending hqueue
    obtain rfl := Except.ok.inj h
    simp [turnsLeft, hsending, hqueue]
  · rename_i buffer queue hsending hqueue
    obtain rfl := Except.ok.inj h
    have hsize : buffer.sending.size = buffer.writeSize := rfl
    unfold turnsLeft
    rw [elim_more_size, hsize, hsending, hqueue, List.map_cons, List.sum_cons, Option.elim_none]
    dsimp only
    omega

theorem turnsLeft_send {w w' : SendWorker} {bytesSent : Nat}
    (h : w.send (.accepted bytesSent) = .ok w') : w'.turnsLeft = w.turnsLeft - bytesSent := by
  unfold send at h
  cases hsending : w.sending? with
  | none =>
    simp only [hsending] at h
    cases h
  | some s =>
    simp only [hsending] at h
    by_cases hle : bytesSent ≤ s.size
    · rw [dif_pos hle] at h
      obtain rfl := Except.ok.inj h
      have hsize : (s.advance hle).size = s.size - bytesSent := rfl
      unfold turnsLeft
      rw [elim_more_size, hsize, hsending, Option.elim_some]
      dsimp only
      omega
    · rw [dif_neg hle] at h
      cases h

/-- With no turns left, the socket has everything. -/
theorem accepted_of_turnsLeft {w : SendWorker} (h : w.turnsLeft = 0) : w.accepted = w.stream := by
  unfold turnsLeft at h
  have hrest : w.sending?.elim [] Sending.rest = [] := by
    cases hsending : w.sending? with
    | none => rfl
    | some s =>
      rw [hsending] at h
      have hsize : s.size = 0 := by
        have h : s.size + _ = 0 := h
        omega
      show (s.buffer.drop s.offset).take s.size = []
      rw [hsize, List.take_zero]
  have hqueue : w.sendPacketQueue = [] := by
    cases hqueue : w.sendPacketQueue with
    | nil => rfl
    | cons b queue =>
      rw [hqueue, List.map_cons, List.sum_cons] at h
      omega
  unfold stream
  rw [hrest, hqueue]
  exact (List.append_nil _).symm

end SendWorker

/-! ## The receiving thread -/

/-- **A turn with everything arrived** enqueues a packet, if there is one left. -/
theorem RecvWorker.InStep.turn_of_arrived {net : Network} {later : List (List UInt8)}
    {w w' : RecvWorker} (hlater : ∀ p ∈ later, WellFramed p) (hw : w.InStep later)
    (harrived : w.inbound.inFlight = []) (h : w.runTurn net = .ok w') :
    w'.InStep later ∧ w'.inbound.inFlight = [] ∧ (later ≠ [] → w'.recvPacketQueue ≠ []) := by
  obtain ⟨rest, hsplit, hunread⟩ := hw
  unfold runTurn at h
  cases rest with
  | nil =>
    have hnone : (w.inbound.hasPendingData net).1 = false := by
      rw [← Bool.not_eq_true]
      exact fun h => Inbound.unread_ne_nil h hunread
    rw [receivePacket_of_no_header (receiveDesiredBytes_of_not_pending hnone)] at h
    obtain rfl := Except.ok.inj h
    refine ⟨⟨[], hsplit, (w.inbound.hasPendingData_unread net).trans hunread⟩, ?_, fun hne => ?_⟩
    · show w.inbound.inFlight.drop _ = []
      rw [harrived, List.drop_nil]
    · rwa [hsplit, List.append_nil] at hne
  | cons p rest =>
    have hp : WellFramed p := hlater p (by rw [hsplit]; simp)
    rw [List.flatten_cons] at hunread
    obtain ⟨s', hpacket, hs', hflight⟩ := receivePacket_of_all_arrived net hp harrived hunread
    rw [hpacket] at h
    obtain rfl := Except.ok.inj h
    exact ⟨⟨rest, by rw [hsplit]; simp, hs'⟩, hflight, fun _ => by simp⟩

/-- With everything arrived, the payload is there whenever the header is. -/
theorem RecvWorker.InStep.payloadPending {net : Network} {later : List (List UInt8)}
    {w : RecvWorker} (hlater : ∀ p ∈ later, WellFramed p) (hw : w.InStep later)
    (harrived : w.inbound.inFlight = []) : w.PayloadPending net () := by
  obtain ⟨rest, rfl, hunread⟩ := hw
  intro header s' hheader hsize
  cases rest with
  | nil =>
    have hnone : (w.inbound.hasPendingData net).1 = false := by
      rw [← Bool.not_eq_true]
      exact fun h => Inbound.unread_ne_nil h hunread
    unfold receiveHeader at hheader
    rw [receiveDesiredBytes_of_not_pending hnone] at hheader
    cases hheader
  | cons p rest =>
    have hp : WellFramed p := hlater p (by simp)
    rw [List.flatten_cons] at hunread
    rcases receiveHeader_cases net w.inbound with
      ⟨-, out, s'', hnone, -⟩ | ⟨-, -, hblocked⟩ | ⟨-, -, s'', hread, hs'', hflight⟩
    · rw [hnone] at hheader
      cases hheader
    · rw [hblocked] at hheader
      cases hheader
    · obtain ⟨hbytes, rfl⟩ := Prod.mk.inj (Prod.mk.inj (Except.ok.inj (hread.symm.trans hheader))).2
      have htake : w.inbound.unread.take HeaderSize = p.take HeaderSize := by
        rw [hunread, List.take_append_of_le_length hp.1]
      rw [← hbytes, htake, hp.2] at hsize
      apply Inbound.hasPendingData_of_arrived (hflight harrived)
      intro hnil
      rw [hs'', hunread, List.drop_append_of_le_length hp.1, List.append_eq_nil_iff,
        List.drop_eq_nil_iff] at hnil
      have hmin := hp.1
      omega

namespace Client
variable {R : Type} [Zero R] {P : Platform R} {c d : Client R}

/-! ## The client -/

/-- All bytes of the server have arrived, and at most `k` of its packets are not yet handled. -/
def Unhandled (k : Nat) (c : Client R) : Prop :=
  c.game.connected = true ∧ c.recvWorker.inbound.inFlight = [] ∧
    ∃ later, later.length ≤ k ∧ (∀ p ∈ later, WellFramed p) ∧ c.recvWorker.InStep later

omit [Zero R] in
theorem Unhandled.mono {k l : Nat} (hc : Unhandled k c) (hkl : k ≤ l) : Unhandled l c := by
  obtain ⟨hconnected, hflight, later, hlen, hframed, hin⟩ := hc
  exact ⟨hconnected, hflight, later, Nat.le_trans hlen hkl, hframed, hin⟩

omit [Zero R] in
/-- With nothing unhandled, nothing is on its way. -/
theorem Unhandled.eq_nil {later : List (List UInt8)} (hc : Unhandled 0 c)
    (hlater : ∀ p ∈ later, WellFramed p) (hin : c.recvWorker.InStep later) : later = [] := by
  obtain ⟨-, -, none, hnone, -, hnoneIn⟩ := hc
  obtain rfl := List.eq_nil_of_length_eq_zero (Nat.le_zero.mp hnone)
  obtain ⟨rest, hnil, hunread⟩ := hnoneIn
  obtain ⟨hqueue, rfl⟩ := List.append_eq_nil_iff.mp hnil.symm
  exact eq_nil_of_inStep hin hlater hqueue hunread

omit [Zero R] in
/-- What the other threads do does not count. -/
theorem Unhandled.of_recvWorker {k : Nat} (hc : Unhandled k c) (hgame : d.game.connected = true)
    (hrecv : d.recvWorker = c.recvWorker) : Unhandled k d := by
  obtain ⟨-, hflight, later, hlen, hframed, hin⟩ := hc
  rw [← hrecv] at hflight hin
  exact ⟨hgame, hflight, later, hlen, hframed, hin⟩

/-- Behind a turn of the receiving thread there is a packet in the queue, or none at all. -/
theorem Unhandled.recvTurn {k : Nat} (hc : Unhandled k c) (h : c.step P .recvTurn = .ok d) :
    Unhandled k d ∧ (d.recvWorker.recvPacketQueue = [] → Unhandled 0 d) := by
  obtain ⟨hconnected, hflight, later, hlen, hframed, hin⟩ := hc
  obtain ⟨recvWorker, hturn, h⟩ := bind_eq_ok.mp h
  obtain rfl := Except.ok.inj h
  obtain ⟨hin', hflight', hqueue⟩ := hin.turn_of_arrived hframed hflight (mapError_eq_ok.mp hturn)
  refine ⟨⟨hconnected, hflight', later, hlen, hframed, hin'⟩, fun hnone => ?_⟩
  have hnil : later = [] := by
    by_contra hne
    exact hqueue hne hnone
  exact ⟨hconnected, hflight', later, by rw [hnil]; exact Nat.le_refl 0, hframed, hin'⟩

/-- A turn of the game thread handles a packet, unless there is none in the queue. -/
theorem Unhandled.handleRecvPacket {k : Nat} (hc : Unhandled k c)
    (h : c.step P .handleRecvPacket = .ok d) :
    c.recvWorker.recvPacketQueue = [] ∧ d = c ∨ Unhandled (k - 1) d := by
  obtain ⟨hconnected, hflight, later, hlen, hframed, rest, rfl, hunread⟩ := hc
  rcases handleRecvPacket_cases h with
    ⟨hqueue, rfl⟩ | ⟨packet, queue, game, w, hqueue, hgame, -, rfl⟩
  · exact Or.inl ⟨hqueue hconnected, rfl⟩
  · rw [hqueue, List.cons_append, List.length_cons] at hlen
    rw [hqueue] at hframed
    refine Or.inr ⟨(outbox_of_handleRecvPacket hgame).1.trans hconnected, hflight, queue ++ rest,
      by omega, fun p hp => hframed p (List.mem_cons_of_mem packet hp), rest, rfl, hunread⟩

/-- The other events have nothing to do with it. -/
theorem recvWorker_cases {e : ClientEvent R} (hc : c.game.connected = true)
    (h : c.step P e = .ok d) : e = .recvTurn ∨ e = .handleRecvPacket ∨
      d.game.connected = true ∧ d.recvWorker = c.recvWorker := by
  cases e with
  | recvTurn => exact Or.inl rfl
  | handleRecvPacket => exact Or.inr (Or.inl rfl)
  | call call =>
    obtain ⟨game, hgame, h⟩ := bind_eq_ok.mp h
    obtain ⟨w, -, rfl⟩ := commit_eq_ok.mp h
    have hconnected := (US1GameInstance.outbox_of_call hc (mapError_eq_ok.mp hgame)).1
    exact Or.inr (Or.inr ⟨hconnected, rfl⟩)
  | dequeue =>
    obtain ⟨w, -, h⟩ := bind_eq_ok.mp h
    obtain rfl := Except.ok.inj h
    exact Or.inr (Or.inr ⟨hc, rfl⟩)
  | send result =>
    obtain ⟨w, -, h⟩ := bind_eq_ok.mp h
    obtain rfl := Except.ok.inj h
    exact Or.inr (Or.inr ⟨hc, rfl⟩)

/-- **One event** makes no more to handle. -/
theorem Unhandled.step {k : Nat} {e : ClientEvent R} (hc : Unhandled k c)
    (h : c.step P e = .ok d) : Unhandled k d := by
  rcases recvWorker_cases hc.1 h with rfl | rfl | ⟨hconnected, hrecv⟩
  · exact (hc.recvTurn h).1
  · rcases hc.handleRecvPacket h with ⟨-, rfl⟩ | hless
    · exact hc
    · exact hless.mono (Nat.sub_le k 1)
  · exact hc.of_recvWorker hconnected hrecv

omit [Zero R] in
theorem Unhandled.payloadPending {k : Nat} (hc : Unhandled k c) (e : ClientEvent R) :
    c.PayloadPending P e := by
  obtain ⟨-, hflight, later, -, hframed, hin⟩ := hc
  cases e with
  | recvTurn => exact hin.payloadPending hframed hflight
  | _ => trivial

/-- The next turn of the game thread has a packet to handle, or need not. -/
def Ready (k : Nat) (c : Client R) : Prop :=
  Unhandled k c ∨ Unhandled (k + 1) c ∧ c.recvWorker.recvPacketQueue ≠ []

theorem Unhandled.ready {k : Nat} (hc : Unhandled (k + 1) c) (h : c.step P .recvTurn = .ok d) :
    Ready k d := by
  obtain ⟨hsame, hnone⟩ := hc.recvTurn h
  by_cases hqueue : d.recvWorker.recvPacketQueue = []
  · exact Or.inl ((hnone hqueue).mono (Nat.zero_le k))
  · exact Or.inr ⟨hsame, hqueue⟩

theorem Ready.handleRecvPacket {k : Nat} (hc : Ready k c)
    (h : c.step P .handleRecvPacket = .ok d) : Unhandled k d := by
  rcases hc with hc | ⟨hc, hqueue⟩
  · exact hc.step h
  · rcases hc.handleRecvPacket h with ⟨hnone, -⟩ | hless
    · exact absurd hnone hqueue
    · exact hless

theorem Ready.step {k : Nat} {e : ClientEvent R} (hc : Ready k c) (h : c.step P e = .ok d) :
    Ready k d := by
  rcases hc with hc | ⟨hc, hqueue⟩
  · exact Or.inl (hc.step h)
  rcases recvWorker_cases hc.1 h with rfl | rfl | ⟨hconnected, hrecv⟩
  · exact hc.ready h
  · exact Or.inl (Ready.handleRecvPacket (Or.inr ⟨hc, hqueue⟩) h)
  · rw [← hrecv] at hqueue
    exact Or.inr ⟨hc.of_recvWorker hconnected hrecv, hqueue⟩

/-- **A turn of the receiving thread and then one of the game thread** get one packet further,
whatever happens in between. -/
theorem unhandled_of_turns {k : Nat} {events : List (ClientEvent R)}
    (hturns : [.recvTurn, .handleRecvPacket].Sublist events) (hc : Unhandled (k + 1) c)
    (h : Steps.run (step P) c events = .ok d) : Unhandled k d := by
  obtain ⟨l₁, l₂, rfl, hrecv, hhandle⟩ := List.cons_sublist_iff.mp hturns
  obtain ⟨before, mid, rfl⟩ := List.append_of_mem hrecv
  obtain ⟨mid', behind, rfl⟩ := List.append_of_mem (List.singleton_sublist.mp hhandle)
  obtain ⟨u, hu, h⟩ := Steps.run_append.mp h
  obtain ⟨c₁, hbefore, hu⟩ := Steps.run_append.mp hu
  obtain ⟨c₂, hturn, hmid⟩ := Steps.run_cons.mp hu
  obtain ⟨c₃, hmid', h⟩ := Steps.run_append.mp h
  obtain ⟨c₄, hgame, hbehind⟩ := Steps.run_cons.mp h
  have hrun : ∀ {s t : Client R} {l : List (ClientEvent R)} {n : Nat}, Unhandled n s →
      Steps.run (step P) s l = .ok t → Unhandled n t :=
    fun hs => Steps.run_invariant (fun _ _ _ hs h => hs.step h) hs
  have hready : ∀ {s t : Client R} {l : List (ClientEvent R)}, Ready k s →
      Steps.run (step P) s l = .ok t → Ready k t :=
    fun hs => Steps.run_invariant (fun _ _ _ hs h => hs.step h) hs
  have hthere := ((hrun hc hbefore).ready hturn : Ready k c₂)
  exact hrun ((hready (hready hthere hmid) hmid').handleRecvPacket hgame) hbehind

end Client

/-! ## The sending thread in the client -/

namespace ClientEvent
variable {R : Type}

/-- A turn of the sending thread. -/
def sends : ClientEvent R → Bool
  | .dequeue => true
  | .send _ => true
  | _ => false

/-- A call of `Send` takes nothing. -/
def stalls : ClientEvent R → Bool
  | .send (.accepted bytesSent) => bytesSent = 0
  | .send .refused => true
  | _ => false

theorem refuses_of_not_stalls {e : ClientEvent R} (h : e.stalls = false) : e.refuses = false := by
  cases e with
  | send result =>
    cases result with
    | refused => cases h
    | accepted bytesSent => rfl
  | _ => rfl

end ClientEvent

namespace Client
variable {R : Type} [Zero R] {P : Platform R} {c d : Client R}

/-- **One event** that queues nothing makes no more to send, and one of the sending thread
makes less. -/
theorem turnsLeft_step {e : ClientEvent R} (hcall : e.call? = none) (hstalls : e.stalls = false)
    (h : c.step P e = .ok d) :
    d.sendWorker.turnsLeft ≤ c.sendWorker.turnsLeft ∧
      (e.sends = true → d.sendWorker.turnsLeft ≤ c.sendWorker.turnsLeft - 1) := by
  cases e with
  | recvTurn =>
    obtain ⟨recvWorker, -, h⟩ := bind_eq_ok.mp h
    obtain rfl := Except.ok.inj h
    exact ⟨Nat.le_refl _, fun hfalse => by cases hfalse⟩
  | handleRecvPacket =>
    rcases handleRecvPacket_cases h with ⟨-, rfl⟩ | ⟨packet, queue, game, w, -, hgame, hsend, rfl⟩
    · exact ⟨Nat.le_refl _, fun hfalse => by cases hfalse⟩
    · rw [(outbox_of_handleRecvPacket hgame).2, List.drop_length] at hsend
      obtain rfl := Except.ok.inj hsend
      exact ⟨Nat.le_refl _, fun hfalse => by cases hfalse⟩
  | call call => cases hcall
  | dequeue =>
    obtain ⟨w, hw, h⟩ := bind_eq_ok.mp h
    obtain rfl := Except.ok.inj h
    have hleft := SendWorker.turnsLeft_dequeue (mapError_eq_ok.mp hw)
    exact ⟨by rw [hleft]; exact Nat.sub_le _ _, fun _ => Nat.le_of_eq hleft⟩
  | send result =>
    obtain ⟨w, hw, h⟩ := bind_eq_ok.mp h
    obtain rfl := Except.ok.inj h
    cases result with
    | refused => cases hstalls
    | accepted bytesSent =>
      have hleft := SendWorker.turnsLeft_send (mapError_eq_ok.mp hw)
      have hpos : bytesSent ≠ 0 := by simpa [ClientEvent.stalls] using hstalls
      exact ⟨by rw [hleft]; exact Nat.sub_le _ _, fun _ => by rw [hleft]; omega⟩

/-! ## All of it -/

/-- All messages have been handled, each once and in their order, but for those that are not
text, and the socket has the packets of the outbox as bytes, in their order and nothing
else. -/
def Delivered (P : Platform R) (messages : List ServerMessage) (events : List (ClientEvent R))
    (start : US1GameInstance R) (d : Client R) : Prop :=
  (∃ ops, Steps.run (US1GameInstance.operate P.engine) start ops = .ok d.game ∧
    ops.filterMap GameOp.packet? =
      (messages.filter ServerMessage.isText).map (.ofMessage P.ofBits) ∧
    ops.filterMap GameOp.call? = events.filterMap ClientEvent.call?) ∧
  ∃ frames, List.Forall₂ (Made P.toBits) frames d.game.outbox ∧
    d.sendWorker.accepted = frames.flatten

theorem unhandled_of_tail {n : Nat} {tail : List (ClientEvent R)}
    (hturns : (List.replicate n [ClientEvent.recvTurn, .handleRecvPacket]).flatten.Sublist tail)
    (hc : Unhandled n c) (h : Steps.run (step P) c tail = .ok d) : Unhandled 0 d := by
  have hblocks : ∀ block ∈ List.replicate n [ClientEvent.recvTurn, .handleRecvPacket],
      block = [ClientEvent.recvTurn, (.handleRecvPacket : ClientEvent R)] :=
    fun block hblock => List.eq_of_mem_replicate hblock
  refine Steps.run_progress (P := Unhandled) (Q := fun _ => True)
    (fun k s e t _ hs h => hs.step h) ?_ hblocks hturns (fun _ _ => trivial) ?_ h
  · rintro k block l s t rfl hsub - hs h
    exact unhandled_of_turns hsub hs h
  · rwa [List.length_replicate]

theorem turnsLeft_le_of_run {l : List (ClientEvent R)}
    (hquiet : ∀ e ∈ l, e.call? = none ∧ e.stalls = false)
    (h : Steps.run (step P) c l = .ok d) : d.sendWorker.turnsLeft ≤ c.sendWorker.turnsLeft := by
  refine Steps.run_invariant_mem (P := fun u => u.sendWorker.turnsLeft ≤ c.sendWorker.turnsLeft)
    ?_ (Nat.le_refl _) h
  intro s e he t hs h
  obtain ⟨hcall, hstalls⟩ := hquiet e he
  exact Nat.le_trans (turnsLeft_step hcall hstalls h).1 hs

theorem turnsLeft_of_tail {tail : List (ClientEvent R)}
    (hquiet : ∀ e ∈ tail, e.call? = none ∧ e.stalls = false)
    (hsends : c.sendWorker.turnsLeft ≤ tail.countP ClientEvent.sends)
    (h : Steps.run (step P) c tail = .ok d) : d.sendWorker.turnsLeft = 0 := by
  have hblocks : ∀ block ∈ (tail.filter ClientEvent.sends).map fun e => [e],
      ∃ e : ClientEvent R, e.sends = true ∧ block = [e] := by
    intro block hblock
    obtain ⟨e, he, rfl⟩ := List.mem_map.mp hblock
    exact ⟨e, (List.mem_filter.mp he).2, rfl⟩
  have hsub : ((tail.filter ClientEvent.sends).map fun e => [e]).flatten.Sublist tail := by
    rw [← List.flatMap_def, List.flatMap_singleton']
    exact List.filter_sublist
  refine Nat.le_zero.mp (Steps.run_progress
    (P := fun k (c : Client R) => c.sendWorker.turnsLeft ≤ k)
    (Q := fun e => e.call? = none ∧ e.stalls = false) ?_ ?_ hblocks hsub hquiet ?_ h)
  · rintro k s e t ⟨hcall, hstalls⟩ hs h
    exact Nat.le_trans (turnsLeft_step hcall hstalls h).1 hs
  · rintro k block l s t ⟨e, he, rfl⟩ hsub hl hs h
    obtain ⟨before, behind, rfl⟩ := List.append_of_mem (List.singleton_sublist.mp hsub)
    obtain ⟨u, hu, h⟩ := Steps.run_append.mp h
    obtain ⟨v, hv, h⟩ := Steps.run_cons.mp h
    obtain ⟨hcall, hstalls⟩ := hl e (by simp)
    have hu := turnsLeft_le_of_run (fun i hi => hl i (by simp [hi])) hu
    have hv := (turnsLeft_step hcall hstalls hv).2 he
    have h := turnsLeft_le_of_run (fun i hi => hl i (by simp [hi])) h
    omega
  · rwa [List.length_map, ← List.countP_eq_length_filter]

/-- The tail goes on as the run began. -/
theorem serial_of_tail {sent : List (List UInt8)} {start : US1GameInstance R} {n : Nat}
    {events tail : List (ClientEvent R)} (hsent : ∀ p ∈ sent, WellFramed p)
    (hserial : Serial P sent start events c) (hc : Unhandled n c)
    (h : Steps.run (step P) c tail = .ok d) : Serial P sent start (events ++ tail) d := by
  have hanything : Steps.Meets (step P) (fun _ _ => True) c tail :=
    Steps.meets_of_forall (fun _ _ _ => trivial) c
  have hbegin : Serial P sent start (events ++ []) c ∧ Unhandled n c := by
    rw [List.append_nil]
    exact ⟨hserial, hc⟩
  refine (Steps.run_history (I := fun l c => Serial P sent start (events ++ l) c ∧ Unhandled n c)
    ?_ hbegin hanything h).1
  rintro l s e t ⟨hserial, hs⟩ - h
  rw [← List.append_assoc]
  exact ⟨hserial.step hsent (hs.payloadPending e) h, hs.step h⟩

/-- **Nothing is left lying.**  After any run, once all bytes have arrived, let the threads go
on without calls of the game and without a `Send` that takes nothing.  When the receiving
thread and then the game thread have had as many turns as there are messages, and the sending
thread as many as its buffers have bytes and one for each, everything is delivered. -/
theorem delivered {s : US1GameInstance R} {handle : Nat} {id password : FString}
    {events tail : List (ClientEvent R)} {sent : List (List UInt8)}
    {messages : List ServerMessage} {m : Client R}
    (hsent : List.Forall₂ ServerMessage.Sent sent messages)
    (hconnect : connect P s handle id password sent.flatten = .ok c)
    (hmeets : Steps.Meets (step P) (PayloadPending P) c events)
    (hrefuses : ∀ e ∈ events, e.refuses = false)
    (hrun : Steps.run (step P) c events = .ok m)
    (harrived : m.recvWorker.inbound.inFlight = [])
    (hquiet : ∀ e ∈ tail, e.call? = none ∧ e.stalls = false)
    (hturns : (List.replicate messages.length
      [ClientEvent.recvTurn, .handleRecvPacket]).flatten.Sublist tail)
    (hsends : m.sendWorker.turnsLeft ≤ tail.countP ClientEvent.sends)
    (htail : Steps.run (step P) m tail = .ok d) : Delivered P messages events c.game d := by
  obtain ⟨hstart, hconnected, -⟩ := connect_cases hconnect
  have hframed : ∀ p ∈ sent, WellFramed p :=
    ((List.forall₂_and_left _ _).mp (hsent.imp fun _ _ h => ⟨h.1.1, h⟩)).1
  have hposted := posted_of_run (posted_of_connect hconnect) (Steps.run_append.mpr ⟨m, hrun, htail⟩)
  have hserial := serial_of_run hframed hstart hmeets hrun
  have hbegin : Unhandled messages.length m := by
    have hconnected := (posted_of_run (posted_of_connect hconnect) hrun).connected
    obtain ⟨handled, later, -, rfl, hin, -⟩ := hserial
    have hlen := hsent.length_eq
    rw [List.length_append] at hlen
    exact ⟨hconnected, harrived, later, by omega,
      fun p hp => hframed p (List.mem_append_right _ hp), hin⟩
  have hunhandled := unhandled_of_tail hturns hbegin htail
  obtain ⟨handled, later, ops, rfl, hin, hops, hpackets, hcalls⟩ :=
    serial_of_tail hframed hserial hbegin htail
  have hlater : later = [] :=
    hunhandled.eq_nil (fun p hp => hframed p (List.mem_append_right _ hp)) hin
  rw [hlater, List.append_nil] at hsent
  have hnoCalls : tail.filterMap ClientEvent.call? = [] :=
    List.filterMap_eq_nil_iff.mpr fun e he => (hquiet e he).1
  obtain ⟨frames, hframes, -, hall⟩ := hposted.made
  refine ⟨⟨ops, hops, ?_, ?_⟩, frames, hframes, ?_⟩
  · rw [hpackets]
    exact Parser.filterMap_decode_generated P.ofBits hsent
  · rw [hcalls, List.filterMap_append, hnoCalls, List.append_nil]
  · rw [SendWorker.accepted_of_turnsLeft (turnsLeft_of_tail hquiet hsends htail)]
    refine hall fun e he => ?_
    rcases List.mem_append.mp he with he | he
    · exact hrefuses e he
    · exact ClientEvent.refuses_of_not_stalls (hquiet e he).2

/-- Two turns for the threads that receive, and ten for the one that sends. -/
def sendAll : List (ClientEvent Int) :=
  [.send (.accepted 3), .recvTurn, .handleRecvPacket, .send (.accepted 2), .dequeue, .recvTurn,
    .send (.accepted 4), .handleRecvPacket] ++ .replicate 6 .dequeue

/-- The move and the leaving are out, too. -/
def sentAll : Client Int where
  game := leftAfterMove.game
  recvWorker := ⟨⟨[], [], 16⟩, []⟩
  sendWorker := ⟨[], none, [4, 0, 232, 3, 25, 0, 242, 3, 10, 19, 8, 7, 21, 1, 0, 0, 0, 29, 2, 0, 0,
    0, 37, 3, 0, 0, 0, 72, 1, 4, 0, 238, 3]⟩

theorem run_sendAll : Steps.run (step .obliging) leftAfterMove sendAll = .ok sentAll := rfl

theorem delivered_sendAll :
    Delivered .obliging [entering, strayChat] moveAndLeave loggedIn.game sentAll := by
  have hrefuses : ∀ e ∈ moveAndLeave, e.refuses = false := by
    simp [moveAndLeave, ClientEvent.refuses]
  have hturns : [.recvTurn, .handleRecvPacket, .recvTurn, .handleRecvPacket].Sublist sendAll :=
    .cons _ (.cons_cons _ (.cons_cons _ (.cons _ (.cons _ (.cons_cons _ (.cons _ (.cons_cons _
      (List.nil_sublist _))))))))
  exact delivered sent_messages connect_loggedIn meets_moveAndLeave hrefuses run_moveAndLeave rfl
    (by simp [sendAll, ClientEvent.call?, ClientEvent.stalls]) hturns (by decide) run_sendAll

end Client
end S1Client
