import S1Client.SendWorker

/-!
# The loop of `SendDesiredBytes`

One call of `SendDesiredBytes` on its own, against any answers of `FSocket::Send`.
Pointer and size are advanced separately by the number the socket gives; together they
always name what has not been accepted yet (`Along`).  So what is accepted is a prefix of
the buffer, the loop returns true exactly if it is all of it and false exactly if a call
failed, and it returns once every successful call accepts something
(`sendDesiredBytes_law`).  The turns are those of the sending thread (`run_calls`).
-/
namespace S1Client

/-- The answers of `Send`, by the number of the call and the size it was called with: how
many bytes were taken, or `none` if the call failed, when `BytesSent` is not looked at. -/
abbrev SendAnswers := Nat → (size : Nat) → Option (Fin (size + 1))

/-- Where the loop is. -/
inductive LoopStatus where
  /-- The test passed, and `Send` is called. -/
  | sending (s : Sending)
  | returned (result : Bool)
  deriving DecidableEq, Repr

namespace LoopStatus

/-- `while (Size > 0)`, and `return true` behind the loop. -/
def test (s : Sending) : LoopStatus :=
  match s.more with
  | some s => .sending s
  | none => .returned true

/-- The buffer under way. -/
def sending? : LoopStatus → Option Sending
  | sending s => some s
  | returned _ => none

@[simp] theorem sending?_test (s : Sending) : (test s).sending? = s.more := by
  unfold test
  cases s.more <;> rfl

theorem test_cases (s : Sending) :
    0 < s.size ∧ test s = .sending s ∨ s.size = 0 ∧ test s = .returned true := by
  unfold test Sending.more
  by_cases hmore : 0 < s.size
  · rw [if_pos hmore]
    exact Or.inl ⟨hmore, rfl⟩
  · rw [if_neg hmore]
    exact Or.inr ⟨Nat.eq_zero_of_not_pos hmore, rfl⟩

end LoopStatus

/-- `SendDesiredBytes` under way, and what the socket accepted during the call. -/
structure SendLoop where
  status : LoopStatus
  accepted : List UInt8
  deriving DecidableEq, Repr

namespace SendLoop

/-- The loop as `SendPacket` enters it. -/
def enter (b : SendBuffer) : SendLoop := ⟨.test b.sending, []⟩

/-- One turn, in which the next call of `Send` gives an answer. -/
def turn (answer : (size : Nat) → Option (Fin (size + 1))) (l : SendLoop) : SendLoop :=
  match l.status with
  | .returned _ => l
  | .sending s =>
    match answer s.size with
    | none => { l with status := .returned false }
    | some bytesSent =>
      ⟨.test (s.advance (Nat.le_of_lt_succ bytesSent.isLt)), l.accepted ++ s.taken bytesSent⟩

/-- The loop after `n` turns; when it has returned there are no more. -/
def after (answers : SendAnswers) (b : SendBuffer) : Nat → SendLoop
  | 0 => enter b
  | n + 1 => (after answers b n).turn (answers n)

/-- The `n`-th call of `Send` is made, and fails. -/
def FailsAt (answers : SendAnswers) (b : SendBuffer) (n : Nat) : Prop :=
  ∃ s, (after answers b n).status = .sending s ∧ answers n s.size = none

/-- The `n`-th call of `Send` is made, and succeeds without taking a byte. -/
def StallsAt (answers : SendAnswers) (b : SendBuffer) (n : Nat) : Prop :=
  ∃ s, (after answers b n).status = .sending s ∧ answers n s.size = some 0

/-- What a loop over `b` can look like: what was accepted and what is left make up the
buffer. -/
inductive Along (b : SendBuffer) : SendLoop → Prop
  | sending (s : Sending) (accepted : List UInt8) (hmore : 0 < s.size)
      (h : accepted ++ s.rest = b.contents) : Along b ⟨.sending s, accepted⟩
  | succeeded : Along b ⟨.returned true, b.contents⟩
  | failed (accepted rest : List UInt8) (hmore : rest ≠ [])
      (h : accepted ++ rest = b.contents) : Along b ⟨.returned false, accepted⟩

variable {answers : SendAnswers} {b : SendBuffer} {l : SendLoop}

/-- As many bytes are left as the size says. -/
theorem length_rest (s : Sending) : s.rest.length = s.size := by
  have hbounds := s.inBounds
  unfold Sending.rest
  rw [List.length_take, List.length_drop]
  omega

theorem rest_ne_nil {s : Sending} (hmore : 0 < s.size) : s.rest ≠ [] := by
  intro hnil
  rw [← length_rest, hnil] at hmore
  exact Nat.lt_irrefl 0 hmore

theorem along_test {s : Sending} {accepted : List UInt8} (h : accepted ++ s.rest = b.contents) :
    Along b ⟨.test s, accepted⟩ := by
  rcases LoopStatus.test_cases s with ⟨hmore, htest⟩ | ⟨hsize, htest⟩ <;> rw [htest]
  · exact .sending s accepted hmore h
  · have hnil : s.rest = [] := List.eq_nil_of_length_eq_zero ((length_rest s).trans hsize)
    rw [hnil, List.append_nil] at h
    rw [h]
    exact .succeeded

theorem along_enter (b : SendBuffer) : Along b (enter b) := along_test b.rest_sending

/-- **One turn.** -/
theorem Along.turn (h : Along b l) (answer : (size : Nat) → Option (Fin (size + 1))) :
    Along b (l.turn answer) := by
  cases h with
  | sending s accepted hmore h =>
    unfold SendLoop.turn
    dsimp only
    split
    · exact .failed accepted s.rest (rest_ne_nil hmore) h
    · rename_i bytesSent _
      refine along_test ?_
      rw [List.append_assoc, ← s.rest_eq, h]
  | succeeded => exact .succeeded
  | failed accepted rest hmore h => exact .failed accepted rest hmore h

/-- **Every loop.** -/
theorem along_after (answers : SendAnswers) (b : SendBuffer) (n : Nat) :
    Along b (after answers b n) := by
  induction n with
  | zero => exact along_enter b
  | succ n ih => exact ih.turn (answers n)

/-- `Send` is never called with nothing to send. -/
theorem Along.size_pos (h : Along b l) {s : Sending} (hstatus : l.status = .sending s) :
    0 < s.size := by
  cases h with
  | sending u accepted hmore h =>
    obtain rfl := LoopStatus.sending.inj hstatus
    exact hmore
  | succeeded | failed => cases hstatus

theorem Along.isPrefix (h : Along b l) : l.accepted <+: b.contents := by
  cases h with
  | sending s accepted hmore h => exact ⟨s.rest, h⟩
  | succeeded => exact List.prefix_refl _
  | failed accepted rest hmore h => exact ⟨rest, h⟩

/-- The loop has returned true exactly if everything was accepted. -/
theorem Along.returned_true_iff (h : Along b l) :
    l.status = .returned true ↔ l.accepted = b.contents := by
  have hleft : ∀ {accepted rest : List UInt8}, rest ≠ [] → accepted ++ rest = b.contents →
      accepted ≠ b.contents := fun hmore h heq => hmore (by simpa [heq] using h)
  cases h with
  | sending s accepted hmore h => simpa using hleft (rest_ne_nil hmore) h
  | succeeded => simp
  | failed accepted rest hmore h => simpa using hleft hmore h

/-- A turn ends with false exactly if it began so, or its call fails. -/
theorem turn_returned_false_iff (answer : (size : Nat) → Option (Fin (size + 1))) :
    (l.turn answer).status = .returned false ↔
      l.status = .returned false ∨ ∃ s, l.status = .sending s ∧ answer s.size = none := by
  unfold turn
  cases hstatus : l.status with
  | returned result => simp [hstatus]
  | sending s =>
    cases hanswer : answer s.size with
    | none => simp [hanswer]
    | some bytesSent =>
      rcases LoopStatus.test_cases (s.advance (Nat.le_of_lt_succ bytesSent.isLt)) with
        ⟨-, htest⟩ | ⟨-, htest⟩ <;> simp [hanswer, htest]

/-- The loop has returned false exactly if a call failed. -/
theorem returned_false_iff (answers : SendAnswers) (b : SendBuffer) (n : Nat) :
    (after answers b n).status = .returned false ↔ ∃ i < n, FailsAt answers b i := by
  induction n with
  | zero =>
    have hstart : (enter b).status ≠ .returned false := by
      rcases LoopStatus.test_cases b.sending with ⟨-, htest⟩ | ⟨-, htest⟩ <;> simp [enter, htest]
    simpa [after] using hstart
  | succ n ih =>
    rw [after, turn_returned_false_iff, ih]
    constructor
    · rintro (⟨i, hi, hfails⟩ | hfails)
      · exact ⟨i, Nat.lt_succ_of_lt hi, hfails⟩
      · exact ⟨n, Nat.lt_succ_self n, hfails⟩
    · rintro ⟨i, hi, hfails⟩
      rcases Nat.lt_or_eq_of_le (Nat.le_of_lt_succ hi) with hlt | rfl
      · exact Or.inl ⟨i, hlt, hfails⟩
      · exact Or.inr hfails

/-- If the loop goes on after a turn, its call succeeded. -/
theorem turn_sending {answer : (size : Nat) → Option (Fin (size + 1))} {s : Sending}
    (h : (l.turn answer).status = .sending s) : ∃ u bytesSent, l.status = .sending u ∧
      answer u.size = some bytesSent ∧ s.size + bytesSent = u.size := by
  unfold turn at h
  cases hstatus : l.status with
  | returned result => simp [hstatus] at h
  | sending u =>
    cases hanswer : answer u.size with
    | none => simp [hstatus, hanswer] at h
    | some bytesSent =>
      have hle : (bytesSent : Nat) ≤ u.size := Nat.le_of_lt_succ bytesSent.isLt
      simp only [hstatus, hanswer] at h
      rcases LoopStatus.test_cases (u.advance hle) with ⟨-, htest⟩ | ⟨-, htest⟩
      · obtain rfl := LoopStatus.sending.inj (htest.symm.trans h)
        exact ⟨u, bytesSent, rfl, hanswer, Nat.sub_add_cancel hle⟩
      · cases htest.symm.trans h

/-- While the loop goes on without a stall, each turn takes a byte off the size. -/
theorem size_after (hstall : ∀ n, ¬StallsAt answers b n) (n : Nat) {s : Sending}
    (h : (after answers b n).status = .sending s) : s.size + n ≤ b.writeSize := by
  induction n generalizing s with
  | zero =>
    rcases LoopStatus.test_cases b.sending with ⟨-, htest⟩ | ⟨-, htest⟩
    · obtain rfl := LoopStatus.sending.inj (htest.symm.trans h)
      exact Nat.le_refl _
    · cases htest.symm.trans h
  | succ n ih =>
    obtain ⟨u, bytesSent, hstatus, hanswer, hsize⟩ := turn_sending h
    have hne : bytesSent ≠ 0 := fun hzero => hstall n ⟨u, hstatus, hzero ▸ hanswer⟩
    have hpos : 0 < (bytesSent : Nat) := Fin.pos_iff_ne_zero.mpr hne
    have hu := ih hstatus
    omega

/-- Without a stall there are at most as many turns as bytes. -/
theorem returned_of_not_stalls (hstall : ∀ n, ¬StallsAt answers b n) :
    ∃ result, (after answers b b.writeSize).status = .returned result := by
  cases hstatus : (after answers b b.writeSize).status with
  | returned result => exact ⟨result, rfl⟩
  | sending s =>
    -- nothing would be left to send
    have hsize := size_after hstall b.writeSize hstatus
    have hpos := (along_after answers b b.writeSize).size_pos hstatus
    omega

/-- The events of the sending thread that a turn is: a call of `Send` returns. -/
def calls (answers : SendAnswers) (b : SendBuffer) : Nat → List SendEvent
  | 0 => []
  | n + 1 => calls answers b n ++
    match (after answers b n).status with
    | .returned _ => []
    | .sending s => [.send ((answers n s.size).elim .refused fun bytesSent => .accepted bytesSent)]

/-- **The loop is the sending thread in `SendDesiredBytes`.** -/
theorem run_calls (answers : SendAnswers) (b : SendBuffer) (queue : List SendBuffer)
    (accepted : List UInt8) (n : Nat) :
    Steps.run SendWorker.step ⟨queue, b.sending.more, accepted⟩ (calls answers b n) =
      .ok ⟨queue, (after answers b n).status.sending?,
        accepted ++ (after answers b n).accepted⟩ := by
  induction n with
  | zero =>
    show Except.ok _ = Except.ok _
    simp [after, enter]
  | succ n ih =>
    refine Steps.run_append.mpr ⟨_, ih, ?_⟩
    rw [after, turn]
    cases hstatus : (after answers b n).status with
    | returned result =>
      rw [hstatus]
      rfl
    | sending s =>
      dsimp only
      rw [Steps.run_singleton]
      cases hanswer : answers n s.size with
      | none => rfl
      | some bytesSent =>
        have hle : (bytesSent : Nat) ≤ s.size := Nat.le_of_lt_succ bytesSent.isLt
        have hsend : SendWorker.send ⟨queue, some s, accepted ++ (after answers b n).accepted⟩
            (.accepted bytesSent) = .ok ⟨queue, (s.advance hle).more,
              accepted ++ (after answers b n).accepted ++ s.taken bytesSent⟩ := by
          unfold SendWorker.send
          exact dif_pos hle
        refine hsend.trans ?_
        rw [List.append_assoc, LoopStatus.sending?_test]

end SendLoop
end S1Client
