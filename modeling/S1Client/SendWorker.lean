import Mathlib.Data.List.Induction
import S1Client.SendBuffer

/-!
# `SendWorker`

The sending thread takes one buffer after the other out of the session's queue
and offers what is left of it to `FSocket::Send` until nothing is left.  A call
of `Send` that fails ends the loop, and `Run` ignores that it did: the rest of
the packet is gone, and the next packet goes out behind the bytes that were
accepted.  So the socket gets a prefix of what was enqueued as long as it accepts
nothing after a call that failed (`accepted_isPrefix`); what always holds is that
nothing is repeated and nothing overtakes (`accepted_sublist`).
-/
namespace S1Client

/-- A buffer under way in `SendDesiredBytes`: its pointer and its size are advanced
separately. -/
structure Sending where
  buffer : List UInt8
  offset : Nat
  size : Nat
  inBounds : offset + size ≤ buffer.length
  deriving DecidableEq, Repr

namespace Sending

/-- What is left to send. -/
def rest (s : Sending) : List UInt8 := (s.buffer.drop s.offset).take s.size

/-- The bytes that a call of `Send` takes. -/
def taken (s : Sending) (bytesSent : Nat) : List UInt8 := (s.buffer.drop s.offset).take bytesSent

/-- `Size -= BytesSent; Buffer += BytesSent;`. -/
def advance (s : Sending) {bytesSent : Nat} (h : bytesSent ≤ s.size) : Sending :=
  ⟨s.buffer, s.offset + bytesSent, s.size - bytesSent, by have := s.inBounds; omega⟩

/-- The test of the loop. -/
def more (s : Sending) : Option Sending := if s.size > 0 then some s else none

theorem rest_eq (s : Sending) {bytesSent : Nat} (h : bytesSent ≤ s.size) :
    s.rest = s.taken bytesSent ++ (s.advance h).rest := by
  unfold rest taken advance
  rw [← List.drop_drop, ← List.take_add, Nat.add_sub_cancel' h]

end Sending

/-- The arguments `SendPacket` calls `SendDesiredBytes` with. -/
def SendBuffer.sending (b : SendBuffer) : Sending :=
  ⟨b.buffer, 0, b.writeSize, by simpa using b.writeSize_le⟩

theorem SendBuffer.rest_sending (b : SendBuffer) : b.sending.rest = b.contents := rfl

/-- The answer of a call of `FSocket::Send`. -/
inductive SendResult where
  | accepted (bytesSent : Nat)
  | refused
  deriving DecidableEq, Repr

/-- What happens next: the game thread enqueues a buffer, `Run` tries to take one,
or a call of `Send` returns. -/
inductive SendEvent where
  | sendPacket (buffer : SendBuffer)
  | dequeue
  | send (result : SendResult)
  deriving DecidableEq, Repr

namespace SendEvent

/-- A call of `Send` fails. -/
def refuses : SendEvent → Bool
  | .send .refused => true
  | _ => false

/-- A call of `Send` accepts bytes. -/
def accepts : SendEvent → Bool
  | .send (.accepted bytesSent) => 0 < bytesSent
  | _ => false

/-- What is enqueued. -/
def enqueues : SendEvent → List UInt8
  | .sendPacket buffer => buffer.contents
  | _ => []

end SendEvent

/-- What cannot happen in a state. -/
inductive SendFault where
  /-- The thread is in `SendDesiredBytes`. -/
  | busy
  /-- The thread is not in `SendDesiredBytes`. -/
  | idle
  /-- More bytes are accepted than were offered. -/
  | tooMany
  deriving DecidableEq, Repr

/-- The queue of the session, the sending thread and the socket. -/
structure SendWorker where
  sendPacketQueue : List SendBuffer
  /-- The buffer in `SendDesiredBytes`, if the thread is there. -/
  sending? : Option Sending
  /-- What the socket has accepted. -/
  accepted : List UInt8
  deriving DecidableEq, Repr

namespace SendWorker

/-- The thread before anything is enqueued. -/
def started : SendWorker := ⟨[], none, []⟩

/-- `PacketSession::SendPacket`. -/
def sendPacket (w : SendWorker) (buffer : SendBuffer) : SendWorker :=
  { w with sendPacketQueue := w.sendPacketQueue ++ [buffer] }

/-- A turn of the loop of `Run`, up to the first call of `Send` or, if there is
nothing to send, to its end. -/
def dequeue (w : SendWorker) : Except SendFault SendWorker :=
  match w.sending?, w.sendPacketQueue with
  | some _, _ => .error .busy
  | none, [] => .ok w
  | none, buffer :: queue => .ok { w with sendPacketQueue := queue, sending? := buffer.sending.more }

/-- A turn of the loop of `SendDesiredBytes`: a call of `Send` returns. -/
def send (w : SendWorker) : SendResult → Except SendFault SendWorker
  | .accepted bytesSent =>
    match w.sending? with
    | none => .error .idle
    | some s =>
      if h : bytesSent ≤ s.size then
        .ok { w with sending? := (s.advance h).more, accepted := w.accepted ++ s.taken bytesSent }
      else .error .tooMany
  | .refused =>
    match w.sending? with
    | none => .error .idle
    -- `SendDesiredBytes` returns false, `SendPacket` too, and `Run` goes on
    | some _ => .ok { w with sending? := none }

/-- One event. -/
def step (w : SendWorker) : SendEvent → Except SendFault SendWorker
  | .sendPacket buffer => .ok (w.sendPacket buffer)
  | .dequeue => w.dequeue
  | .send result => w.send result

/-- The bytes that were accepted or wait to be, in the order they go out. -/
def stream (w : SendWorker) : List UInt8 :=
  w.accepted ++ (w.sending?.elim [] Sending.rest ++ w.sendPacketQueue.flatMap SendBuffer.contents)

/-- The contents of the enqueued buffers, in the order of the calls. -/
def enqueued (l : List SendEvent) : List UInt8 := l.flatMap SendEvent.enqueues

theorem elim_more (s : Sending) : s.more.elim [] Sending.rest = s.rest := by
  unfold Sending.more
  split
  · rfl
  · rename_i h
    have h0 : s.size = 0 := by omega
    simp [Sending.rest, h0]

theorem stream_dequeue {w w' : SendWorker} (h : w.dequeue = .ok w') : w'.stream = w.stream := by
  unfold dequeue at h
  split at h
  · cases h
  · exact Except.ok.inj h ▸ rfl
  · rename_i buffer queue hsending hqueue
    obtain rfl := Except.ok.inj h
    simp [stream, hsending, hqueue, elim_more, SendBuffer.rest_sending]

/-- A call of `Send` that succeeds moves bytes along the stream. -/
theorem stream_send_accepted {w w' : SendWorker} {bytesSent : Nat}
    (h : w.send (.accepted bytesSent) = .ok w') :
    w'.stream = w.stream ∧
      ∃ taken, taken.length = bytesSent ∧ w'.accepted = w.accepted ++ taken := by
  simp only [send] at h
  split at h
  · cases h
  · rename_i s hsending
    by_cases hle : bytesSent ≤ s.size
    · rw [dif_pos hle] at h
      obtain rfl := Except.ok.inj h
      have hbounds := s.inBounds
      refine ⟨by simp [stream, hsending, elim_more, s.rest_eq hle], s.taken bytesSent, ?_, rfl⟩
      simp only [Sending.taken, List.length_take, List.length_drop]
      omega
    · rw [dif_neg hle] at h
      cases h

/-- One that fails takes the rest of the packet out of it. -/
theorem stream_send_refused {w w' : SendWorker} (h : w.send .refused = .ok w') :
    w'.accepted = w.accepted ∧ w'.stream.Sublist w.stream := by
  simp only [send] at h
  split at h
  · cases h
  · obtain rfl := Except.ok.inj h
    refine ⟨rfl, ?_⟩
    unfold stream
    exact (List.Sublist.refl _).append ((List.nil_sublist _).append (List.Sublist.refl _))

/-- **One event**: what is enqueued joins the stream at its end, and nothing
leaves it unless `Send` fails. -/
theorem stream_step {w w' : SendWorker} {e : SendEvent} (h : w.step e = .ok w') :
    w'.stream.Sublist (w.stream ++ e.enqueues) ∧
      (e.refuses = false → w'.stream = w.stream ++ e.enqueues) := by
  cases e with
  | sendPacket buffer =>
    obtain rfl := Except.ok.inj h
    have heq : (w.sendPacket buffer).stream = w.stream ++ buffer.contents := by
      simp [stream, sendPacket]
    exact ⟨heq ▸ List.Sublist.refl _, fun _ => heq⟩
  | dequeue =>
    have heq : w'.stream = w.stream ++ [] := (stream_dequeue h).trans (List.append_nil _).symm
    exact ⟨heq ▸ List.Sublist.refl _, fun _ => heq⟩
  | send result =>
    cases result with
    | accepted bytesSent =>
      have heq : w'.stream = w.stream ++ [] :=
        (stream_send_accepted h).1.trans (List.append_nil _).symm
      exact ⟨heq ▸ List.Sublist.refl _, fun _ => heq⟩
    | refused =>
      refine ⟨?_, fun hfalse => by cases hfalse⟩
      exact (stream_send_refused h).2.trans (List.sublist_append_left ..)

/-- The socket gets bytes from a call that accepts some and from nothing else. -/
theorem accepted_step {w w' : SendWorker} {e : SendEvent} (h : w.step e = .ok w')
    (he : e.accepts = false) : w'.accepted = w.accepted := by
  cases e with
  | sendPacket buffer => exact Except.ok.inj h ▸ rfl
  | dequeue =>
    have h : w.dequeue = .ok w' := h
    unfold dequeue at h
    split at h
    · cases h
    · exact Except.ok.inj h ▸ rfl
    · exact Except.ok.inj h ▸ rfl
  | send result =>
    cases result with
    | accepted bytesSent =>
      have h0 : bytesSent = 0 := by simpa [SendEvent.accepts] using he
      obtain ⟨-, taken, hlen, haccepted⟩ := stream_send_accepted h
      rw [h0, List.length_eq_zero_iff] at hlen
      rw [haccepted, hlen, List.append_nil]
    | refused => exact (stream_send_refused h).1

/-! ## Runs -/

theorem accepted_isPrefix_stream (w : SendWorker) : w.accepted <+: w.stream :=
  List.prefix_append ..

theorem enqueued_concat (l : List SendEvent) (e : SendEvent) :
    enqueued (l ++ [e]) = enqueued l ++ e.enqueues := by
  simp [enqueued]

/-- Until a call of `Send` fails the stream is what was enqueued. -/
theorem stream_run {l : List SendEvent} {w : SendWorker} (h : Steps.run step started l = .ok w)
    (hl : ∀ e ∈ l, e.refuses = false) : w.stream = enqueued l := by
  induction l using List.reverseRecOn generalizing w with
  | nil => exact Except.ok.inj h ▸ rfl
  | append_singleton l e ih =>
    obtain ⟨u, hu, he⟩ := Steps.run_append.mp h
    rw [Steps.run_singleton] at he
    rw [enqueued_concat, (stream_step he).2 (hl e (by simp)),
      ih hu fun e' he' => hl e' (List.mem_append_left _ he')]

/-- **Nothing is repeated and nothing overtakes**, in any run: what the socket gets
is what was enqueued, less what was dropped. -/
theorem accepted_sublist {l : List SendEvent} {w : SendWorker}
    (h : Steps.run step started l = .ok w) : w.accepted.Sublist (enqueued l) := by
  suffices hstream : w.stream.Sublist (enqueued l) from
    w.accepted_isPrefix_stream.sublist.trans hstream
  induction l using List.reverseRecOn generalizing w with
  | nil => exact Except.ok.inj h ▸ List.Sublist.refl _
  | append_singleton l e ih =>
    obtain ⟨u, hu, he⟩ := Steps.run_append.mp h
    rw [Steps.run_singleton] at he
    rw [enqueued_concat]
    exact (stream_step he).1.trans ((ih hu).append (List.Sublist.refl _))

/-- No call of `Send` accepts bytes after one that failed. -/
def NothingAfterRefusal (l : List SendEvent) : Prop :=
  l.Pairwise fun e f => e.refuses = true → f.accepts = false

instance (l : List SendEvent) : Decidable (NothingAfterRefusal l) :=
  inferInstanceAs (Decidable (List.Pairwise _ l))

/-- **The socket has a prefix of what was enqueued**, at every moment of a run in
which it accepts nothing after a call that failed. -/
theorem accepted_isPrefix {l : List SendEvent} (hl : NothingAfterRefusal l) {w : SendWorker}
    (h : Steps.run step started l = .ok w) : w.accepted <+: enqueued l := by
  induction l using List.reverseRecOn generalizing w with
  | nil => exact Except.ok.inj h ▸ List.prefix_refl _
  | append_singleton l e ih =>
    obtain ⟨u, hu, he⟩ := Steps.run_append.mp h
    rw [Steps.run_singleton] at he
    obtain ⟨hl, -, hlast⟩ := List.pairwise_append.mp hl
    by_cases hrefused : ∃ e' ∈ l, e'.refuses = true
    · -- nothing is accepted any more, so what was a prefix stays one
      obtain ⟨e', hmem, he'⟩ := hrefused
      rw [accepted_step he (hlast e' hmem e (by simp) he'), enqueued_concat]
      exact (ih hl hu).trans (List.prefix_append ..)
    · have hstream := stream_run hu fun e' hmem => by
        by_contra hne
        exact hrefused ⟨e', hmem, by simpa using hne⟩
      -- until now the stream is all there is, so what is accepted starts it
      cases herefuses : e.refuses with
      | true =>
        have haccepts : e.accepts = false := by
          revert herefuses
          unfold SendEvent.refuses SendEvent.accepts
          split <;> simp
        rw [accepted_step he haccepts, enqueued_concat]
        exact (ih hl hu).trans (List.prefix_append ..)
      | false =>
        rw [enqueued_concat, ← hstream, ← (stream_step he).2 herefuses]
        exact w.accepted_isPrefix_stream

/-- The law on two packets, the second of which is refused half way. -/
theorem accepted_isPrefix_half_way :
    ∃ w, Steps.run step started
        [.sendPacket ⟨[1, 2], 2, by decide⟩, .dequeue, .send (.accepted 2),
          .sendPacket ⟨[3, 4], 2, by decide⟩, .dequeue, .send (.accepted 1), .send .refused] =
          .ok w ∧
      w.accepted = [1, 2, 3] ∧ w.accepted <+: [1, 2, 3, 4] := by
  refine ⟨⟨[], none, [1, 2, 3]⟩, rfl, rfl, ?_⟩
  exact accepted_isPrefix
    (l := [.sendPacket ⟨[1, 2], 2, by decide⟩, .dequeue, .send (.accepted 2),
      .sendPacket ⟨[3, 4], 2, by decide⟩, .dequeue, .send (.accepted 1), .send .refused])
    (by decide) rfl

/-- **A packet can be torn while later ones go out**: one byte of the first packet
is accepted, the next call fails, and the second packet goes out behind it. -/
theorem not_always_inOrder :
    ¬∀ (l : List SendEvent) (w : SendWorker), Steps.run step started l = .ok w →
      w.accepted <+: enqueued l := by
  intro h
  have htorn := h
    [.sendPacket ⟨[1, 2], 2, by decide⟩, .sendPacket ⟨[3], 1, by decide⟩, .dequeue,
      .send (.accepted 1), .send .refused, .dequeue, .send (.accepted 1)] _ rfl
  exact absurd htorn (by decide)

end SendWorker
end S1Client
