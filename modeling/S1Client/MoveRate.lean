import Mathlib.Algebra.Order.Ring.Rat
import S1Client.Countdown
import S1Client.Ticks

/-!
# How often the local player sends

`AS1MyPlayer::Tick` sends a `C_MOVE` when its timer has run out, one at most in a tick,
however long it was.  So the server hears from a player every fifth of a second, or a frame
later (`sent_bounds`).  Between two ticks the game may do anything to the player, but only
a tick touches the timer.
-/
namespace S1Client
namespace AS1MyPlayer
variable {R : Type} [Field R] [LinearOrder R]

/-- Successive ticks, of the player as it then is: the timer, and what was sent. -/
def ticks (sqrt : R → R) (timer : R) :
    List (AS1Player R × Frame R) → R × List (ClientPacket R)
  | [] => (timer, [])
  | (player, frame) :: inputs =>
    let (p, pkt?) := tick sqrt frame ⟨player, timer⟩
    let (timer, pkts) := ticks sqrt p.movePacketSendTimer inputs
    (timer, pkt?.toList ++ pkts)

/-- The time between the ticks. -/
def deltaTimes (inputs : List (AS1Player R × Frame R)) : List R := inputs.map (·.2.deltaTime)

/-- A tick is a step of the timer, and sends the position if it fires. -/
theorem tick_eq (sqrt : R → R) (frame : Frame R) (p : AS1MyPlayer R) :
    p.tick sqrt frame =
      (⟨p.player.tick sqrt frame,
          (Countdown.step MOVE_PACKET_SEND_DELAY p.movePacketSendTimer frame.deltaTime).1⟩,
        if (Countdown.step MOVE_PACKET_SEND_DELAY p.movePacketSendTimer frame.deltaTime).2 then
          some (.C_MOVE (p.player.tick sqrt frame).posInfo)
        else none) := by
  unfold tick Countdown.step
  dsimp only
  split <;> rfl

/-- **The timer** of successive ticks. -/
theorem ticks_spec (sqrt : R → R) (timer : R) (inputs : List (AS1Player R × Frame R)) :
    (ticks sqrt timer inputs).1 =
        Countdown.after MOVE_PACKET_SEND_DELAY timer (deltaTimes inputs) ∧
      (ticks sqrt timer inputs).2.length =
        Countdown.fires MOVE_PACKET_SEND_DELAY timer (deltaTimes inputs) := by
  induction inputs generalizing timer with
  | nil => exact ⟨rfl, rfl⟩
  | cons input inputs ih =>
    obtain ⟨player, frame⟩ := input
    obtain ⟨hafter, hfires⟩ :=
      ih (Countdown.step MOVE_PACKET_SEND_DELAY timer frame.deltaTime).1
    rw [ticks, tick_eq]
    refine ⟨hafter, ?_⟩
    rw [List.length_append, hfires]
    show _ = (Countdown.step MOVE_PACKET_SEND_DELAY timer frame.deltaTime).2.toNat + _
    by_cases hout : (Countdown.step MOVE_PACKET_SEND_DELAY timer frame.deltaTime).2 = true
    · rw [if_pos hout, hout]
      rfl
    · rw [Bool.not_eq_true] at hout
      rw [hout]
      rfl

/-- Everything sent is the position of the player in one of the ticks. -/
theorem sent_of_ticks {sqrt : R → R} {timer : R} {inputs : List (AS1Player R × Frame R)}
    {pkt : ClientPacket R} (h : pkt ∈ (ticks sqrt timer inputs).2) :
    ∃ input ∈ inputs, pkt = .C_MOVE (input.1.tick sqrt input.2).posInfo := by
  induction inputs generalizing timer with
  | nil => cases h
  | cons input inputs ih =>
    rw [ticks, tick_eq] at h
    rcases List.mem_append.mp h with h | h
    · refine ⟨input, List.mem_cons_self, ?_⟩
      split at h
      · exact List.mem_singleton.mp h
      · cases h
    · obtain ⟨input', hmem, hpkt⟩ := ih h
      exact ⟨input', List.mem_cons_of_mem input hmem, hpkt⟩

variable [IsStrictOrderedRing R]

/-- **The rate of `C_MOVE`s.**  Of the frames in a time `T`, none longer than `δ`, `n` send.
Then `n` fifths of a second fit into `T`, as far as the timer had not run down before, and
`n + 1` times a fifth and a frame do not. -/
theorem sent_bounds {sqrt : R → R} {timer δ : R} {inputs : List (AS1Player R × Frame R)}
    (hpos : 0 < timer) (hle : timer ≤ MOVE_PACKET_SEND_DELAY)
    (hdts : ∀ dt ∈ deltaTimes inputs, 0 ≤ dt ∧ dt ≤ δ) :
    ((ticks sqrt timer inputs).2.length : R) * MOVE_PACKET_SEND_DELAY ≤
        MOVE_PACKET_SEND_DELAY - timer + (deltaTimes inputs).sum ∧
      (deltaTimes inputs).sum <
        ((ticks sqrt timer inputs).2.length : R) * (MOVE_PACKET_SEND_DELAY + δ) + timer ∧
      ∀ pkt ∈ (ticks sqrt timer inputs).2,
        ∃ input ∈ inputs, pkt = .C_MOVE (input.1.tick sqrt input.2).posInfo := by
  obtain ⟨-, hfires⟩ := ticks_spec sqrt timer inputs
  obtain ⟨⟨hafter, hafter'⟩, hlow, hhigh⟩ := Countdown.fires_bounds hpos hle hdts
  rw [hfires]
  exact ⟨by linarith, by linarith, fun pkt hpkt => sent_of_ticks hpkt⟩

/-- Three frames of a tenth of a second, the second of which sends. -/
theorem sent_bounds_three_frames :
    (3 / 10 : ℚ) <
      (ticks id (1 / 5 : ℚ) (.replicate 3 (AS1Player.construct, ⟨1 / 10, 0, 0⟩))).2.length *
        (1 / 5 + 1 / 10) + 1 / 5 := by
  have h := (@sent_bounds ℚ _ _ _ id (1 / 5) (1 / 10)
    (.replicate 3 (AS1Player.construct, ⟨1 / 10, 0, 0⟩)) (by norm_num) (le_refl _) (by
      intro dt hdt
      obtain rfl : dt = 1 / 10 := by simpa [deltaTimes] using hdt
      norm_num)).2.1
  have hsum : (deltaTimes (.replicate 3 ((AS1Player.construct : AS1Player ℚ),
      (⟨1 / 10, 0, 0⟩ : Frame ℚ)))).sum = 3 / 10 := by
    norm_num [deltaTimes, List.replicate]
  rw [hsum] at h
  exact h

end AS1MyPlayer
end S1Client
