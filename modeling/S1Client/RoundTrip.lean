import S1Client.BufferCursor
import S1Client.Deferred

/-!
# What is written is read back

Blocks of bytes go into a buffer by `Write`, by `operator<<`, or into a slot that
`Reserve` handed out and that is filled at some later time; they come back by `Read`, by
`operator>>`, or by `Peek` and then `Read`.  If the blocks fit behind the starting
position, nothing fails, what is read is what was written, and the rest of the buffer is
untouched (`roundTrips`).
-/
namespace S1Client

open Cursor (Outcome)
open Deferred (Holds Pending)

/-- A block as the source of a copy. -/
def ofBlock (block : List UInt8) : Memory := fun i => block.getD i 0

/-- Copying a block is storing it. -/
theorem memcpy_ofBlock (dest : Memory) (j : Nat) (block : List UInt8) :
    memcpy dest j (ofBlock block) 0 block.length = Deferred.store dest j block := by
  funext k
  unfold memcpy Deferred.store ofBlock
  by_cases hj : j ≤ k
  · by_cases hk : k < j + block.length
    · have hlt : k - j < block.length := by omega
      rw [if_pos ⟨hj, hk⟩, if_pos hj, Nat.zero_add, List.getD_eq_getElem?_getD,
        List.getElem?_eq_getElem hlt, Option.getD_some, Option.getD_some]
    · rw [if_neg fun h => hk h.2, if_pos hj, List.getElem?_eq_none (by omega), Option.getD_none]
  · rw [if_neg fun h => hj h.1, if_neg hj]

/-- A copy of a block is that block. -/
theorem holds_memcpy {src : Memory} {i : Nat} {block : List UInt8} (h : Holds src i block)
    (dest : Memory) (j : Nat) : Holds (memcpy dest j src i block.length) j block := by
  intro k c hk
  have hlt := (List.getElem?_eq_some_iff.mp hk).1
  unfold memcpy
  rw [if_pos ⟨Nat.le_add_right j k, by omega⟩, Nat.add_sub_cancel_left]
  exact h k c hk

/-! ## Writing -/

/-- The ways to write a block where the position is. -/
inductive PutOp where
  /-- `Write(void*, uint32)`. -/
  | write
  /-- `Write(T*)`. -/
  | writeAs
  /-- `operator<<`. -/
  | insert

namespace BufferWriter

/-- `WriteSize`. -/
def writeSize (w : BufferWriter) : BitVec 32 := w.pos

/-- Writes a block where the position is. -/
def put (w : BufferWriter) (op : PutOp) (block : List UInt8) : Outcome BufferWriter :=
  match op with
  | .write => w.write (ofBlock block) (.ofNat 32 block.length)
  | .writeAs => w.writeAs (ofBlock block) block.length
  | .insert => w.insert (ofBlock block) block.length

end BufferWriter

/-- A step of a program that writes blocks. -/
inductive WriteAct where
  /-- Writes a block. -/
  | put (op : PutOp) (block : List UInt8)
  /-- Reserves the place of a block. -/
  | reserve (block : List UInt8)
  /-- Fills the `i`-th slot that is open. -/
  | fill (i : Nat)

/-- The block that an act lays out. -/
def WriteAct.block? : WriteAct → Option (List UInt8)
  | put _ block | reserve block => some block
  | fill _ => none

/-- The blocks that a program lays out, in the order of their places. -/
def blocks (acts : List WriteAct) : List (List UInt8) := acts.filterMap WriteAct.block?

/-- With `n` slots open at first, the program fills open slots only, and all of them. -/
def FillsAll : Nat → List WriteAct → Prop
  | n, [] => n = 0
  | n, .put _ _ :: acts => FillsAll n acts
  | n, .reserve _ :: acts => FillsAll (n + 1) acts
  | n, .fill i :: acts => i < n ∧ FillsAll (n - 1) acts

/-- A writer, and the slots that are open: what `Reserve` returned, and the block that
belongs there. -/
structure Writing where
  writer : BufferWriter
  slots : List (Nat × List UInt8)

namespace Writing

/-- One act.  A failure ends the program. -/
def act (s : Writing) : WriteAct → Except Unit Writing
  | .put op block =>
    let o := s.writer.put op block
    if o.succeeded then .ok { s with writer := o.after } else .error ()
  | .reserve block =>
    let o := s.writer.reserve block.length
    match o.touched with
    | some (slot, _) => .ok ⟨o.after, s.slots ++ [(slot, block)]⟩
    | none => .error ()
  | .fill i =>
    match s.slots[i]? with
    | some (slot, block) =>
      let buffer := memcpy s.writer.buffer slot (ofBlock block) 0 block.length
      .ok ⟨{ s.writer with buffer := buffer }, s.slots.eraseIdx i⟩
    | none => .error ()

/-- The bytes `written` are laid out from `start` on, over `buffer`. -/
structure Laid (buffer : Memory) (size : BitVec 32) (start : Nat) (written : List UInt8)
    (s : Writing) : Prop where
  size_eq : s.writer.size = size
  pos_eq : s.writer.pos.toNat = start + written.length
  pending : Pending buffer start written s.slots s.writer.buffer

end Writing

/-- A cursor with room for `n` cells more: the length is not cut off, the comparison
passes, and the position does not wrap around. -/
private theorem fits_of_le {c : Cursor 32} {n : Nat} (h : c.pos.toNat + n ≤ c.size.toNat) :
    (BitVec.ofNat 32 n).toNat = n ∧ ¬c.free < .ofNat 32 n ∧
      (c.pos + .ofNat 32 n).toNat = c.pos.toNat + n := by
  have hvalid : c.Valid := BitVec.le_def.mpr (by omega)
  have hsize := c.size.isLt
  have hn : (BitVec.ofNat 32 n).toNat = n := by
    rw [BitVec.toNat_ofNat, Nat.mod_eq_of_lt (by omega)]
  refine ⟨hn, ?_, ?_⟩
  · rw [BitVec.lt_def, hvalid.toNat_free, hn]
    omega
  · rw [BitVec.toNat_add, hn, Nat.mod_eq_of_lt (by omega)]

/-- **A block that fits is written**, whatever the operation. -/
theorem BufferWriter.put_of_fits {w : BufferWriter} {block : List UInt8}
    (h : w.pos.toNat + block.length ≤ w.size.toNat) (op : PutOp) :
    w.put op block = ⟨true, { w with
      buffer := Deferred.store w.buffer w.pos.toNat block
      pos := w.pos + .ofNat 32 block.length }, some (w.pos.toNat, block.length)⟩ := by
  obtain ⟨hlen, hfree, -⟩ := fits_of_le (c := w.toCursor) h
  cases op with
  | write | writeAs =>
    refine (if_neg hfree).trans ?_
    rw [hlen, memcpy_ofBlock]
  | insert =>
    show (⟨true, _, _⟩ : Outcome BufferWriter) = _
    rw [memcpy_ofBlock]

namespace Writing
variable {buffer : Memory} {size : BitVec 32} {start : Nat} {written : List UInt8} {s : Writing}

/-- What fits behind the bytes laid out fits behind the position. -/
theorem Laid.room (h : s.Laid buffer size start written) {block : List UInt8}
    (hfits : start + (written ++ block).length ≤ size.toNat) :
    s.writer.pos.toNat + block.length ≤ s.writer.size.toNat := by
  rw [h.pos_eq, h.size_eq, Nat.add_assoc, ← List.length_append]
  exact hfits

theorem Laid.put (h : s.Laid buffer size start written) (op : PutOp) (block : List UInt8)
    (hfits : start + (written ++ block).length ≤ size.toNat) :
    ∃ t, s.act (.put op block) = .ok t ∧ t.slots = s.slots ∧
      t.Laid buffer size start (written ++ block) := by
  have hroom := h.room hfits
  obtain ⟨-, -, hpos⟩ := fits_of_le (c := s.writer.toCursor) hroom
  have hact : s.act (.put op block) = .ok { s with writer := { s.writer with
      buffer := Deferred.store s.writer.buffer s.writer.pos.toNat block
      pos := s.writer.pos + .ofNat 32 block.length } } := by
    unfold act
    dsimp only
    rw [BufferWriter.put_of_fits hroom]
    rfl
  refine ⟨_, hact, rfl, h.size_eq, ?_, ?_⟩
  · rw [List.length_append, ← Nat.add_assoc, ← h.pos_eq]
    exact hpos
  · show Pending buffer start (written ++ block) s.slots
      (Deferred.store s.writer.buffer s.writer.pos.toNat block)
    rw [h.pos_eq]
    exact h.pending.put block

theorem Laid.reserve (h : s.Laid buffer size start written) (block : List UInt8)
    (hfits : start + (written ++ block).length ≤ size.toNat) :
    ∃ t, s.act (.reserve block) = .ok t ∧ t.slots.length = s.slots.length + 1 ∧
      t.Laid buffer size start (written ++ block) := by
  obtain ⟨hlen, hfree, hpos⟩ := fits_of_le (c := s.writer.toCursor) (h.room hfits)
  rw [BitVec.lt_def, hlen] at hfree
  have hreserve : s.writer.reserve block.length =
      ⟨true, { s.writer with pos := s.writer.pos + .ofNat 32 block.length },
        some (s.writer.pos.toNat, block.length)⟩ := if_neg hfree
  have hact : s.act (.reserve block) =
      .ok ⟨{ s.writer with pos := s.writer.pos + .ofNat 32 block.length },
        s.slots ++ [(s.writer.pos.toNat, block)]⟩ := by
    unfold act
    dsimp only
    rw [hreserve]
  refine ⟨_, hact, List.length_append, h.size_eq, ?_, ?_⟩
  · rw [List.length_append, ← Nat.add_assoc, ← h.pos_eq]
    exact hpos
  · show Pending buffer start (written ++ block) (s.slots ++ [(s.writer.pos.toNat, block)])
      s.writer.buffer
    rw [h.pos_eq]
    exact h.pending.reserve block

theorem Laid.fill (h : s.Laid buffer size start written) {i : Nat} (hi : i < s.slots.length) :
    ∃ t, s.act (.fill i) = .ok t ∧ t.slots.length = s.slots.length - 1 ∧
      t.Laid buffer size start written := by
  have hslot : s.slots[i]? = some s.slots[i] := List.getElem?_eq_getElem hi
  have hact : s.act (.fill i) = .ok ⟨{ s.writer with
      buffer := memcpy s.writer.buffer s.slots[i].1 (ofBlock s.slots[i].2) 0 s.slots[i].2.length },
      s.slots.eraseIdx i⟩ := by
    unfold act
    dsimp only
    rw [hslot]
  refine ⟨_, hact, List.length_eraseIdx_of_lt hi, h.size_eq, h.pos_eq, ?_⟩
  show Pending buffer start written (s.slots.eraseIdx i)
    (memcpy s.writer.buffer s.slots[i].1 (ofBlock s.slots[i].2) 0 s.slots[i].2.length)
  rw [memcpy_ofBlock]
  exact h.pending.fill hslot

/-- **A program that fits and fills its slots** completes, and lays out its blocks. -/
theorem Laid.run {acts : List WriteAct} (h : s.Laid buffer size start written)
    (hfills : FillsAll s.slots.length acts)
    (hfits : start + (written ++ (blocks acts).flatten).length ≤ size.toNat) :
    ∃ t, Steps.run act s acts = .ok t ∧ t.slots = [] ∧
      t.Laid buffer size start (written ++ (blocks acts).flatten) := by
  induction acts generalizing s written with
  | nil =>
    refine ⟨s, rfl, List.eq_nil_of_length_eq_zero hfills, ?_⟩
    show s.Laid buffer size start (written ++ [])
    rwa [List.append_nil]
  | cons a acts ih =>
    -- the first act, then the rest from what it laid out
    obtain ⟨t, ht, hfills', block, hblock, hlaid⟩ : ∃ t, s.act a = .ok t ∧
        FillsAll t.slots.length acts ∧ ∃ block,
          (blocks (a :: acts)).flatten = block ++ (blocks acts).flatten ∧
          t.Laid buffer size start (written ++ block) := by
      cases a with
      | put op block =>
        have hblock : (blocks (.put op block :: acts)).flatten = block ++ (blocks acts).flatten := rfl
        rw [hblock] at hfits
        obtain ⟨t, ht, hslots, hlaid⟩ := h.put op block (by simp at hfits ⊢; omega)
        refine ⟨t, ht, ?_, block, hblock, hlaid⟩
        rw [hslots]
        exact hfills
      | reserve block =>
        have hblock : (blocks (.reserve block :: acts)).flatten = block ++ (blocks acts).flatten := rfl
        rw [hblock] at hfits
        obtain ⟨t, ht, hslots, hlaid⟩ := h.reserve block (by simp at hfits ⊢; omega)
        refine ⟨t, ht, ?_, block, hblock, hlaid⟩
        rw [hslots]
        exact hfills
      | fill i =>
        obtain ⟨hi, hfills⟩ := hfills
        obtain ⟨t, ht, hslots, hlaid⟩ := h.fill hi
        refine ⟨t, ht, ?_, [], rfl, by rwa [List.append_nil]⟩
        rw [hslots]
        exact hfills
    rw [hblock, ← List.append_assoc] at hfits ⊢
    obtain ⟨u, hu, hdone⟩ := ih hlaid hfills' hfits
    exact ⟨u, Steps.run_cons.mpr ⟨t, ht, hu⟩, hdone⟩

end Writing

/-! ## Reading -/

/-- The ways to read a block from where the position is. -/
inductive TakeOp where
  /-- `Read(void*, uint32)`. -/
  | read
  /-- `Read(T*)`. -/
  | readAs
  /-- `operator>>`. -/
  | extract

/-- A step of a program that reads blocks: a read of `len` bytes to `dest`, and whether it
is peeked at before, and where to. -/
structure ReadAct where
  peekDest? : Option Nat
  op : TakeOp
  dest : Nat
  len : Nat

namespace BufferReader

/-- `ReadSize`. -/
def readSize (r : BufferReader) : BitVec 32 := r.pos

/-- Reads a block from where the position is. -/
def take (s : State) (op : TakeOp) (dest len : Nat) : Outcome State :=
  match op with
  | .read => read s dest (.ofNat 32 len)
  | .readAs => readAs s dest len
  | .extract => extract s dest len

/-- `Peek(void*, uint32)`, or `Peek(T*)` of that size, with what the destination holds
afterwards. -/
def actPeek (s : State) (dest len : Nat) : Except Unit (State × List UInt8) :=
  let o := peek s dest (.ofNat 32 len)
  if o.succeeded then .ok (o.after, Deferred.cells o.after.2 dest len) else .error ()

/-- A read, with what the destination holds afterwards. -/
def actTake (s : State) (op : TakeOp) (dest len : Nat) : Except Unit (State × List UInt8) :=
  let o := take s op dest len
  if o.succeeded then .ok (o.after, Deferred.cells o.after.2 dest len) else .error ()

/-- One act, with what was peeked at, if anything, and what was read. -/
def act (s : State) (a : ReadAct) : Except Unit (State × Option (List UInt8) × List UInt8) :=
  match a.peekDest? with
  | none => do
    let (s, block) ← actTake s a.op a.dest a.len
    return (s, none, block)
  | some dest => do
    let (s, peeked) ← actPeek s dest a.len
    let (s, block) ← actTake s a.op a.dest a.len
    return (s, some peeked, block)

/-- A program that reads blocks. -/
def actAll (s : State) : List ReadAct → Except Unit (State × List (Option (List UInt8) × List UInt8))
  | [] => .ok (s, [])
  | a :: acts => do
    let (s, y) ← act s a
    let (s, ys) ← actAll s acts
    return (s, y :: ys)

open Steps (bind_eq_ok)

/-- From where the position is, the buffer holds `block`. -/
structure Ahead (r : BufferReader) (block : List UInt8) : Prop where
  fits : r.pos.toNat + block.length ≤ r.size.toNat
  holds : Holds r.buffer r.pos.toNat block

/-- `t` is `s`, `n` bytes further in the same buffer. -/
structure Further (s : State) (n : Nat) (t : State) : Prop where
  size : t.1.size = s.1.size
  buffer : t.1.buffer = s.1.buffer
  pos : t.1.pos.toNat = s.1.pos.toNat + n

variable {s : State} {block : List UInt8}

/-- Peeking at what is ahead succeeds, shows it, and stays. -/
theorem actPeek_of_ahead (h : s.1.Ahead block) (dest : Nat) :
    ∃ memory, actPeek s dest block.length = .ok ((s.1, memory), block) := by
  obtain ⟨hlen, hfree, -⟩ := fits_of_le (c := s.1.toCursor) h.fits
  have hcells := (holds_memcpy h.holds s.2 dest).cells_eq
  have hact : actPeek s dest block.length =
      .ok ((s.1, memcpy s.2 dest s.1.buffer s.1.pos.toNat block.length), block) := by
    unfold actPeek
    rw [peek_of_le hfree, hlen]
    dsimp only
    rw [if_pos rfl, hcells]
  exact ⟨_, hact⟩

/-- **Reading what is ahead** succeeds, gives it, and moves behind it. -/
theorem actTake_of_ahead (h : s.1.Ahead block) (op : TakeOp) (dest : Nat) :
    ∃ t, actTake s op dest block.length = .ok (t, block) ∧ Further s block.length t := by
  obtain ⟨hlen, hfree, hpos⟩ := fits_of_le (c := s.1.toCursor) h.fits
  have htake : take s op dest block.length =
      ⟨true, ({ s.1 with pos := s.1.pos + .ofNat 32 block.length },
        memcpy s.2 dest s.1.buffer s.1.pos.toNat block.length),
        some (s.1.pos.toNat, block.length)⟩ := by
    cases op with
    | read | readAs =>
      show read s dest (.ofNat 32 block.length) = _
      unfold read
      rw [peek_of_le hfree, hlen]
      rfl
    | extract => rfl
  have hcells := (holds_memcpy h.holds s.2 dest).cells_eq
  have hact : actTake s op dest block.length =
      .ok (({ s.1 with pos := s.1.pos + .ofNat 32 block.length },
        memcpy s.2 dest s.1.buffer s.1.pos.toNat block.length), block) := by
    unfold actTake
    rw [htake]
    dsimp only
    rw [if_pos rfl, hcells]
  exact ⟨_, hact, rfl, rfl, hpos⟩

/-- One act reads the block ahead, and peeks at nothing else. -/
theorem act_of_ahead {a : ReadAct} (h : s.1.Ahead block) (ha : a.len = block.length) :
    ∃ t peeked, act s a = .ok (t, peeked, block) ∧ (∀ b ∈ peeked, b = block) ∧
      Further s block.length t := by
  cases hpeek : a.peekDest? with
  | none =>
    obtain ⟨t, ht, hfurther⟩ := actTake_of_ahead h a.op a.dest
    refine ⟨t, none, ?_, by simp, hfurther⟩
    unfold act
    rw [hpeek, ha]
    exact bind_eq_ok.mpr ⟨_, ht, rfl⟩
  | some dest =>
    obtain ⟨memory, hmemory⟩ := actPeek_of_ahead h dest
    have hstill : (s.1, memory).1.Ahead block := h
    obtain ⟨t, ht, hfurther⟩ := actTake_of_ahead hstill a.op a.dest
    refine ⟨t, some block, ?_, by simp, hfurther.size, hfurther.buffer, hfurther.pos⟩
    unfold act
    rw [hpeek, ha]
    exact bind_eq_ok.mpr ⟨_, hmemory, bind_eq_ok.mpr ⟨_, ht, rfl⟩⟩

/-- **A program that reads the blocks ahead** completes, and gives them. -/
theorem actAll_of_ahead {acts : List ReadAct} {blocks : List (List UInt8)}
    (h : s.1.Ahead blocks.flatten) (hlen : acts.map ReadAct.len = blocks.map List.length) :
    ∃ t ys, actAll s acts = .ok (t, ys) ∧ ys.map Prod.snd = blocks ∧
      (∀ y ∈ ys, ∀ b ∈ y.1, b = y.2) ∧ Further s blocks.flatten.length t := by
  induction acts generalizing s blocks with
  | nil =>
    obtain rfl := List.map_eq_nil_iff.mp hlen.symm
    exact ⟨s, [], rfl, rfl, by simp, rfl, rfl, rfl⟩
  | cons a acts ih =>
    obtain ⟨block, rest, rfl, ha, hrest⟩ := List.map_eq_cons_iff.mp hlen.symm
    have hflat : (block :: rest).flatten = block ++ rest.flatten := rfl
    obtain ⟨hfits, hholds⟩ := h
    rw [hflat, List.length_append] at hfits
    obtain ⟨hfirst, hbehind⟩ := Deferred.holds_append.mp (hflat ▸ hholds)
    obtain ⟨t, peeked, ht, hpeeked, hfurther⟩ :=
      act_of_ahead (s := s) (a := a) ⟨by omega, hfirst⟩ ha.symm
    have hahead : t.1.Ahead rest.flatten := by
      refine ⟨?_, ?_⟩
      · rw [hfurther.pos, hfurther.size]
        omega
      · rw [hfurther.buffer, hfurther.pos]
        exact hbehind
    obtain ⟨u, ys, hu, hys, hpeeks, hfurther'⟩ := ih hahead hrest.symm
    refine ⟨u, (peeked, block) :: ys, bind_eq_ok.mpr ⟨_, ht, bind_eq_ok.mpr ⟨_, hu, rfl⟩⟩, ?_, ?_,
      hfurther'.size.trans hfurther.size, hfurther'.buffer.trans hfurther.buffer, ?_⟩
    · rw [List.map_cons, hys]
    · intro y hy
      rcases List.mem_cons.mp hy with rfl | hy
      · exact hpeeked
      · exact hpeeks y hy
    · rw [hflat, List.length_append, hfurther'.pos, hfurther.pos, Nat.add_assoc]

end BufferReader

/-! ## The round trip -/

/-- A program writes, another reads, over the same buffer and from the same position.
Both complete, what is read, and peeked at, is what was written, both end behind the last
block, and the bytes outside of the blocks are as they were. -/
def RoundTrips (buffer : Memory) (size pos : BitVec 32) (acts : List WriteAct)
    (reads : List ReadAct) (memory : Memory) : Prop :=
  ∃ w r ys, Steps.run Writing.act ⟨.construct buffer size pos, []⟩ acts = .ok w ∧
    BufferReader.actAll (.construct w.writer.buffer size pos, memory) reads = .ok (r, ys) ∧
    ys.map Prod.snd = blocks acts ∧ (∀ y ∈ ys, ∀ b ∈ y.1, b = y.2) ∧
    w.writer.writeSize.toNat = pos.toNat + (blocks acts).flatten.length ∧
    r.1.readSize.toNat = pos.toNat + (blocks acts).flatten.length ∧
    ∀ k, k < pos.toNat ∨ pos.toNat + (blocks acts).flatten.length ≤ k →
      w.writer.buffer k = buffer k

/-- **The round trip**, for blocks that fit behind the starting position. -/
theorem roundTrips {size pos : BitVec 32} {acts : List WriteAct} {reads : List ReadAct}
    (hfills : FillsAll 0 acts) (hfits : pos.toNat + (blocks acts).flatten.length ≤ size.toNat)
    (hreads : reads.map ReadAct.len = (blocks acts).map List.length) (buffer memory : Memory) :
    RoundTrips buffer size pos acts reads memory := by
  have hlaid : Writing.Laid buffer size pos.toNat [] ⟨.construct buffer size pos, []⟩ :=
    ⟨rfl, rfl, Deferred.pending_nil buffer pos.toNat⟩
  obtain ⟨w, hw, hslots, hlaid⟩ := hlaid.run hfills hfits
  rw [List.nil_append] at hlaid
  have hpending := hlaid.pending
  rw [hslots] at hpending
  have hahead : (BufferReader.construct w.writer.buffer size pos).Ahead (blocks acts).flatten :=
    ⟨hfits, hpending.holds⟩
  obtain ⟨r, ys, hr, hys, hpeeks, hfurther⟩ :=
    BufferReader.actAll_of_ahead (s := (.construct w.writer.buffer size pos, memory)) hahead hreads
  exact ⟨w, r, ys, hw, hr, hys, hpeeks, hlaid.pos_eq, hfurther.pos, hpending.outside⟩

/-- A header reserved and filled behind the payload, in a buffer that is full then. -/
theorem roundTrips_header : RoundTrips (fun _ => 0) 6 0
    [.reserve [4, 0], .put .insert [7], .put .write [8, 9, 10], .fill 0]
    [⟨some 0, .readAs, 0, 2⟩, ⟨none, .extract, 0, 1⟩, ⟨none, .read, 0, 3⟩] fun _ => 0 := by
  refine roundTrips ?_ (by decide) rfl _ _
  exact ⟨Nat.zero_lt_one, rfl⟩

/-- **A total of at most `size` is not enough**: behind the starting position 1 there is no
room for one byte in a buffer of one. -/
theorem not_always_roundTrips :
    ¬∀ (buffer memory : Memory) (size pos : BitVec 32) (acts : List WriteAct)
      (reads : List ReadAct), pos ≤ size → FillsAll 0 acts →
      (blocks acts).flatten.length ≤ size.toNat →
      reads.map ReadAct.len = (blocks acts).map List.length →
      RoundTrips buffer size pos acts reads memory := by
  intro h
  obtain ⟨w, _, _, hw, -⟩ := h (fun _ => 0) (fun _ => 0) 1 1 [.put .write [0]]
    [⟨none, .read, 0, 1⟩] (by decide) rfl (by decide) rfl
  cases hw

end S1Client
