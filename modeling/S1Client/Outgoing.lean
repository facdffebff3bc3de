import S1Client.Client

/-!
# What the client sends

Every packet in the outbox was made a buffer, so all there is of the socket's bytes, sent
or on their way, is these buffers behind each other, less what a call of `Send` dropped
(`Posted`).  Each of them reads back to the packet, unless that is too long for its header
(`socketGets`): the unknown fields in a `C_MOVE` were parsed before.
-/
namespace S1Client
namespace Client
open Steps (bind_eq_ok mapError_eq_ok)
variable {R : Type} [Zero R] {P : Platform R} {c d : Client R}

/-- `frame` is what `MakeSendBuffer` makes of the packet. -/
def Made (toBits : R → UInt32) (frame : List UInt8) (pkt : ClientPacket R) : Prop :=
  ∃ b, makeSendBuffer (ClientPacket.serialize toBits) pkt = .ok b ∧ frame = b.contents

/-- The call of an event, with the game instance it is made on. -/
def callAt (c : Client R) (e : ClientEvent R) : List (US1GameInstance R × GameCall R) :=
  (e.call?.map fun call => (c.game, call)).toList

/-- The calls of a run. -/
def calls (P : Platform R) : Client R → List (ClientEvent R) →
    List (US1GameInstance R × GameCall R)
  | _, [] => []
  | c, e :: events =>
    c.callAt e ++
      match c.step P e with
      | .ok d => calls P d events
      | .error _ => []

/-- `pkt` is what the call queues. -/
def Queued : US1GameInstance R × GameCall R → ClientPacket R → Prop
  | (s, call), pkt => call.Queues s pkt

/-- There is a connection.  The outbox holds the login and the packet of each call that was
made, and as bytes these are what is on its way to the socket or has got there, in their
order; what `Send` refused is missing. -/
structure Posted (P : Platform R) (start : Client R) (login : ClientPacket R)
    (events : List (ClientEvent R)) (c : Client R) : Prop where
  run : Steps.run (step P) start events = .ok c
  connected : c.game.connected = true
  queued : ∃ pkts, c.game.outbox = login :: pkts ∧ List.Forall₂ Queued (calls P start events) pkts
  made : ∃ frames, List.Forall₂ (Made P.toBits) frames c.game.outbox ∧
    c.sendWorker.stream.Sublist frames.flatten ∧
    ((∀ e ∈ events, e.refuses = false) → c.sendWorker.stream = frames.flatten)

theorem calls_cons {e : ClientEvent R} (h : c.step P e = .ok d) (events : List (ClientEvent R)) :
    calls P c (e :: events) = c.callAt e ++ calls P d events := by
  show c.callAt e ++ _ = _
  rw [h]

theorem calls_append {events : List (ClientEvent R)} (h : Steps.run (step P) c events = .ok d)
    (later : List (ClientEvent R)) :
    calls P c (events ++ later) = calls P c events ++ calls P d later := by
  induction events generalizing c with
  | nil =>
    obtain rfl := Except.ok.inj h
    rfl
  | cons e events ih =>
    obtain ⟨m, hm, h⟩ := Steps.run_cons.mp h
    rw [List.cons_append, calls_cons hm, calls_cons hm, ih h, List.append_assoc]

omit [Zero R] in
/-- The packets are made buffers, and these join the stream at its end. -/
theorem stream_of_sendMessages {toBits : R → UInt32} {w w' : SendWorker}
    {pkts : List (ClientPacket R)}
    (h : Steps.run (SendWorker.sendMessage toBits) w pkts = .ok w') :
    ∃ frames, List.Forall₂ (Made toBits) frames pkts ∧ w'.stream = w.stream ++ frames.flatten := by
  induction pkts generalizing w with
  | nil =>
    obtain rfl := Except.ok.inj h
    exact ⟨[], .nil, (List.append_nil _).symm⟩
  | cons pkt pkts ih =>
    obtain ⟨u, hu, h⟩ := Steps.run_cons.mp h
    obtain ⟨b, hb, hu⟩ := bind_eq_ok.mp ((map_eq_pure_bind _ _).symm.trans hu)
    obtain rfl := Except.ok.inj hu
    obtain ⟨frames, hframes, hstream⟩ := ih h
    have hjoined := (SendWorker.stream_step (w := w) (e := .sendPacket b) rfl).2 rfl
    refine ⟨b.contents :: frames, .cons ⟨b, hb, rfl⟩ hframes, ?_⟩
    rw [hstream, hjoined, List.append_assoc]
    rfl

/-- What an event queues is encoded behind what there is. -/
theorem Posted.snoc {start : Client R} {login : ClientPacket R} {events : List (ClientEvent R)}
    {e : ClientEvent R} {new : List (ClientPacket R)} {frames : List (List UInt8)}
    (hc : Posted P start login events c) (h : c.step P e = .ok d)
    (hconnected : d.game.connected = true) (houtbox : d.game.outbox = c.game.outbox ++ new)
    (hnew : List.Forall₂ Queued (c.callAt e) new)
    (hframes : List.Forall₂ (Made P.toBits) frames new)
    (hless : d.sendWorker.stream.Sublist (c.sendWorker.stream ++ frames.flatten))
    (hsame : e.refuses = false → d.sendWorker.stream = c.sendWorker.stream ++ frames.flatten) :
    Posted P start login (events ++ [e]) d := by
  obtain ⟨pkts, hpkts, hcalls⟩ := hc.queued
  obtain ⟨made, hmade, hsub, hall⟩ := hc.made
  refine ⟨Steps.run_append.mpr ⟨c, hc.run, Steps.run_singleton.trans h⟩, hconnected,
    ⟨pkts ++ new, ?_, ?_⟩, made ++ frames, ?_, ?_, fun hnone => ?_⟩
  · rw [houtbox, hpkts, List.cons_append]
  · rw [calls_append hc.run, calls_cons h]
    exact List.rel_append hcalls ((List.append_nil (c.callAt e)).symm ▸ hnew)
  · rw [houtbox]
    exact List.rel_append hmade hframes
  · rw [List.flatten_append]
    exact hless.trans (hsub.append (List.Sublist.refl _))
  · rw [List.flatten_append, hsame (hnone e (by simp)),
      hall fun e he => hnone e (List.mem_append_left _ he)]

/-- An event of the game thread. -/
theorem Posted.commit {start : Client R} {login : ClientPacket R} {events : List (ClientEvent R)}
    {e : ClientEvent R} {new : List (ClientPacket R)} (hc : Posted P start login events c)
    (h : c.step P e = .ok d) (hconnected : d.game.connected = true)
    (houtbox : d.game.outbox = c.game.outbox ++ new)
    (hnew : List.Forall₂ Queued (c.callAt e) new)
    (hsend : Steps.run (SendWorker.sendMessage P.toBits) c.sendWorker
      (d.game.outbox.drop c.game.outbox.length) = .ok d.sendWorker) :
    Posted P start login (events ++ [e]) d := by
  rw [houtbox, List.drop_left] at hsend
  obtain ⟨frames, hframes, hstream⟩ := stream_of_sendMessages hsend
  exact hc.snoc h hconnected houtbox hnew hframes (hstream ▸ List.Sublist.refl _) fun _ => hstream

/-- An event of another thread. -/
theorem Posted.quiet {start : Client R} {login : ClientPacket R} {events : List (ClientEvent R)}
    {e : ClientEvent R} (hc : Posted P start login events c) (h : c.step P e = .ok d)
    (he : c.callAt e = []) (hgame : d.game = c.game)
    (hless : d.sendWorker.stream.Sublist c.sendWorker.stream)
    (hsame : e.refuses = false → d.sendWorker.stream = c.sendWorker.stream) :
    Posted P start login (events ++ [e]) d := by
  have houtbox : d.game.outbox = c.game.outbox ++ [] := by rw [hgame, List.append_nil]
  refine hc.snoc h ?_ houtbox ?_ .nil ?_ fun hrefuses => ?_
  · rw [hgame]
    exact hc.connected
  · rw [he]
    exact .nil
  · rwa [List.flatten_nil, List.append_nil]
  · rw [hsame hrefuses, List.flatten_nil, List.append_nil]

/-- **One event.** -/
theorem Posted.step {start : Client R} {login : ClientPacket R} {events : List (ClientEvent R)}
    {e : ClientEvent R} (hc : Posted P start login events c) (h : c.step P e = .ok d) :
    Posted P start login (events ++ [e]) d := by
  have hstep := h
  cases e with
  | recvTurn =>
    obtain ⟨recvWorker, -, h⟩ := bind_eq_ok.mp h
    obtain rfl := Except.ok.inj h
    exact hc.quiet hstep rfl rfl (List.Sublist.refl _) fun _ => rfl
  | handleRecvPacket =>
    rcases handleRecvPacket_cases h with ⟨-, rfl⟩ | ⟨packet, queue, game, w, -, hgame, hsend, rfl⟩
    · exact hc.quiet hstep rfl rfl (List.Sublist.refl _) fun _ => rfl
    · obtain ⟨hconnected, houtbox⟩ := outbox_of_handleRecvPacket hgame
      exact hc.commit hstep (hconnected.trans hc.connected)
        (houtbox.trans (List.append_nil _).symm) .nil hsend
  | call call =>
    obtain ⟨game, hgame, h⟩ := bind_eq_ok.mp h
    obtain ⟨w, hsend, rfl⟩ := commit_eq_ok.mp h
    obtain ⟨hconnected, pkt, hqueues, houtbox⟩ :=
      US1GameInstance.outbox_of_call hc.connected (mapError_eq_ok.mp hgame)
    exact hc.commit hstep hconnected houtbox (.cons hqueues .nil) hsend
  | dequeue =>
    obtain ⟨w, hw, h⟩ := bind_eq_ok.mp h
    obtain rfl := Except.ok.inj h
    obtain ⟨hless, hsame⟩ := SendWorker.stream_step (e := .dequeue) (mapError_eq_ok.mp hw)
    rw [show SendEvent.enqueues .dequeue = [] from rfl, List.append_nil] at hless hsame
    exact hc.quiet hstep rfl rfl hless hsame
  | send result =>
    obtain ⟨w, hw, h⟩ := bind_eq_ok.mp h
    obtain rfl := Except.ok.inj h
    obtain ⟨hless, hsame⟩ := SendWorker.stream_step (e := .send result) (mapError_eq_ok.mp hw)
    rw [show SendEvent.enqueues (.send result) = [] from rfl, List.append_nil] at hless hsame
    refine hc.quiet hstep rfl rfl hless fun hrefuses => hsame ?_
    rw [← hrefuses]
    cases result <;> rfl

theorem posted_of_connect {s : US1GameInstance R} {handle : Nat} {id password : FString}
    {bytes : List UInt8} (h : connect P s handle id password bytes = .ok c) :
    Posted P c (.C_LOGIN id.toUtf8 password.toUtf8) [] c := by
  obtain ⟨-, hconnected, hlogin, hsend⟩ := connect_cases h
  obtain ⟨frames, hframes, hstream⟩ := stream_of_sendMessages hsend
  have hstream : c.sendWorker.stream = frames.flatten := hstream
  exact ⟨rfl, hconnected, ⟨[], hlogin, .nil⟩, frames, hframes, hstream ▸ List.Sublist.refl _,
    fun _ => hstream⟩

/-- **Any interleaving.** -/
theorem posted_of_run {login : ClientPacket R} {events : List (ClientEvent R)}
    (hc : Posted P c login [] c) (h : Steps.run (step P) c events = .ok d) :
    Posted P c login events d := by
  have hanything : Steps.Meets (step P) (fun _ _ => True) c events :=
    Steps.meets_of_forall (fun _ _ _ => trivial) c
  exact Steps.run_history (fun _ _ _ _ hc _ h => hc.step h) hc hanything h

/-- **One event** brings in positions only as they were parsed. -/
theorem positions_of_step {e : ClientEvent R} (hc : c.game.Positions) (h : c.step P e = .ok d) :
    d.game.Positions := by
  cases e with
  | recvTurn =>
    obtain ⟨recvWorker, -, h⟩ := bind_eq_ok.mp h
    obtain rfl := Except.ok.inj h
    exact hc
  | handleRecvPacket =>
    rcases handleRecvPacket_cases h with ⟨-, rfl⟩ | ⟨packet, queue, game, w, -, hgame, -, rfl⟩
    · exact hc
    have hrun := operate_of_handleRecvPacket hgame
    cases hdecode : (Parser.generated P.ofBits).decode packet with
    | none =>
      rw [hdecode] at hrun
      obtain rfl := Except.ok.inj hrun
      exact hc
    | some pkt =>
      rw [hdecode] at hrun
      exact US1GameInstance.positions_of_dispatch (Parser.sound_of_decode P.ofBits hdecode) hc
        (Steps.run_singleton.symm.trans hrun)
  | call call =>
    obtain ⟨game, hgame, h⟩ := bind_eq_ok.mp h
    obtain ⟨w, -, rfl⟩ := commit_eq_ok.mp h
    exact US1GameInstance.positions_of_call hc (mapError_eq_ok.mp hgame)
  | dequeue =>
    obtain ⟨w, -, h⟩ := bind_eq_ok.mp h
    obtain rfl := Except.ok.inj h
    exact hc
  | send result =>
    obtain ⟨w, -, h⟩ := bind_eq_ok.mp h
    obtain rfl := Except.ok.inj h
    exact hc

omit [Zero R] in
theorem positions_of_connect {s : US1GameInstance R} {handle : Nat} {id password : FString}
    {bytes : List UInt8} (hs : s.Positions) (h : connect P s handle id password bytes = .ok c) :
    c.game.Positions := by
  obtain ⟨⟨game, connected⟩, hgame, h⟩ := bind_eq_ok.mp h
  obtain ⟨w, -, h⟩ := bind_eq_ok.mp h
  obtain rfl := Except.ok.inj h
  obtain ⟨rfl, -⟩ := Prod.mk.inj (Except.ok.inj (mapError_eq_ok.mp hgame))
  exact hs

/-- Every call of a run is made on such positions. -/
theorem positions_of_calls {events : List (ClientEvent R)} (hc : c.game.Positions)
    (h : Steps.run (step P) c events = .ok d) : ∀ sc ∈ calls P c events, sc.1.Positions := by
  induction events generalizing c with
  | nil => exact fun _ hsc => absurd hsc List.not_mem_nil
  | cons e events ih =>
    obtain ⟨m, hm, h⟩ := Steps.run_cons.mp h
    rw [calls_cons hm]
    intro sc hsc
    rcases List.mem_append.mp hsc with hsc | hsc
    · unfold callAt at hsc
      obtain ⟨call, -, rfl⟩ := Option.map_eq_some_iff.mp (Option.mem_toList.mp hsc)
      exact hc
    · exact ih (positions_of_step hc hm) h sc hsc

/-- The receiver of `frame` gets the packet: the header gives length and id, and the payload
parses to it. -/
def Carries (toBits : R → UInt32) (frame : List UInt8) (pkt : ClientPacket R) : Prop :=
  Frames frame pkt.pktId (pkt.serialize toBits) ∧
    pkt.messageClass.parseFromArray (frame.drop HeaderSize) = some (pkt.toMessage toBits)

omit [Zero R] in
theorem Made.carries {toBits : R → UInt32} {frame : List UInt8} {pkt : ClientPacket R}
    (h : Made toBits frame pkt) (hsound : pkt.Sound) (hutf8 : pkt.Utf8 toBits)
    (hsize : (pkt.serialize toBits).length ≤ 65531) : Carries toBits frame pkt := by
  obtain ⟨b, hb, rfl⟩ := h
  have h4 : HeaderSize = 4 := rfl
  have hmod : (pkt.serialize toBits).length % 65536 = (pkt.serialize toBits).length := by omega
  rcases makeSendBufferOf_cases (pkt.serialize toBits) pkt.pktId hmod with
    ⟨hlong, -⟩ | ⟨hfits, b', hb', -, hcontents⟩
  · omega
  obtain rfl := Except.ok.inj (hb.symm.trans hb')
  rw [if_pos (Nat.le_refl _)] at hcontents
  have hframes : Frames b.contents pkt.pktId (pkt.serialize toBits) := by
    rw [hcontents]
    refine frames_toLe16 ?_
    rw [UInt16.toNat_ofNat', Nat.mod_eq_of_lt hfits]
  refine ⟨hframes, ?_⟩
  rw [hframes.2.2]
  refine Protocol.MessageClass.parseFromArray_internalSerialize (hsound.toMessage toBits) ?_ hutf8
  have hmax : WireFormat.maxSize = 2147483631 := rfl
  have hlen : (pkt.serialize toBits).length =
      pkt.messageClass.byteSizeLong (pkt.toMessage toBits) :=
    pkt.messageClass.schema.length_serialize _
  omega

/-- The outbox holds the login and then the packet of each call of the run, in their order.
As bytes, these contain what the socket has accepted, which is the first part of them unless
a call of `Send` failed; and the receiver gets every packet back. -/
def SocketGets (P : Platform R) (c : Client R) (login : ClientPacket R)
    (events : List (ClientEvent R)) (d : Client R) : Prop :=
  ∃ pkts frames, d.game.outbox = login :: pkts ∧ List.Forall₂ Queued (calls P c events) pkts ∧
    List.Forall₂ (Carries P.toBits) frames (login :: pkts) ∧
    d.sendWorker.accepted.Sublist frames.flatten ∧
    ((∀ e ∈ events, e.refuses = false) → d.sendWorker.accepted <+: frames.flatten)

end Client
end S1Client
