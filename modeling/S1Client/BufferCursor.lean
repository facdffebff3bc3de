import S1Client.Cursor

/-!
# `BufferReader` and `BufferWriter`

Both keep a buffer, its size and a position in it.  `Peek`, `Read`, `Write` and
`Reserve` compare what they need with `FreeSize()`; `operator>>` and `operator<<` do
not.  So a sequence of operations stays inside the buffer exactly if each of the
operators in it finds enough left (`safe_iff_operators_fit`).  After one that does not,
`FreeSize()` has wrapped around and the checks let nearly everything pass.
-/
namespace S1Client

/-- Bytes from some address on, past the end of any buffer too. -/
abbrev Memory := Nat → UInt8

/-- `memcpy` of `len` bytes from `src + i` to `dest + j`. -/
def memcpy (dest : Memory) (j : Nat) (src : Memory) (i len : Nat) : Memory :=
  fun k => if j ≤ k ∧ k < j + len then src (i + (k - j)) else dest k

open Cursor (Outcome)

/-! ## `BufferReader` -/

/-- `_buffer`, `_size` and `_pos`. -/
structure BufferReader extends Cursor 32 where
  buffer : Memory

namespace BufferReader

/-- `BufferReader::BufferReader(BYTE*, uint32, uint32)`. -/
def construct (buffer : Memory) (size pos : BitVec 32) : BufferReader := ⟨⟨size, pos⟩, buffer⟩

/-- `BufferReader::FreeSize`. -/
def freeSize (r : BufferReader) : BitVec 32 := r.size - r.pos

/-- A reader, and the memory its destinations are in. -/
abbrev State := BufferReader × Memory

/-- `BufferReader::Peek(void*, uint32)`. -/
def peek (s : State) (dest : Nat) (len : BitVec 32) : Outcome State :=
  let (r, memory) := s
  if r.freeSize < len then ⟨false, s, none⟩
  else
    ⟨true, (r, memcpy memory dest r.buffer r.pos.toNat len.toNat), some (r.pos.toNat, len.toNat)⟩

/-- `BufferReader::Read(void*, uint32)`. -/
def read (s : State) (dest : Nat) (len : BitVec 32) : Outcome State :=
  let peeked := peek s dest len
  if peeked.succeeded = false then peeked
  else
    let (r, memory) := peeked.after
    { peeked with after := ({ r with pos := r.pos + len }, memory) }

/-- `BufferReader::Peek(T*)`, with `sizeof(T)`. -/
def peekAs (s : State) (dest sizeOf : Nat) : Outcome State := peek s dest (.ofNat 32 sizeOf)

/-- `BufferReader::Read(T*)`. -/
def readAs (s : State) (dest sizeOf : Nat) : Outcome State := read s dest (.ofNat 32 sizeOf)

/-- `BufferReader::operator>>`. -/
def extract (s : State) (dest sizeOf : Nat) : Outcome State :=
  let (r, memory) := s
  ⟨true, ({ r with pos := r.pos + .ofNat 32 sizeOf },
      memcpy memory dest r.buffer r.pos.toNat sizeOf), some (r.pos.toNat, sizeOf)⟩

/-- The operations of a reader. -/
inductive Op where
  | peek (dest : Nat) (len : BitVec 32)
  | read (dest : Nat) (len : BitVec 32)
  | peekAs (dest sizeOf : Nat)
  | readAs (dest sizeOf : Nat)
  | extract (dest sizeOf : Nat)

def perform (s : State) : Op → Outcome State
  | .peek dest len => peek s dest len
  | .read dest len => read s dest len
  | .peekAs dest sizeOf => peekAs s dest sizeOf
  | .readAs dest sizeOf => readAs s dest sizeOf
  | .extract dest sizeOf => extract s dest sizeOf

/-- All but `operator>>` compare with `FreeSize()`. -/
def Op.checked : Op → Bool
  | .extract _ _ => false
  | _ => true

/-- How many bytes an operation needs. -/
def Op.demand : Op → Nat
  | .peek _ len | .read _ len => len.toNat
  | .peekAs _ sizeOf | .readAs _ sizeOf => (BitVec.ofNat 32 sizeOf).toNat
  | .extract _ sizeOf => sizeOf

/-- The cursor of a reader's state. -/
def cursor (s : State) : Cursor 32 := s.1.toCursor

end BufferReader

/-! ## `BufferWriter` -/

/-- `_buffer`, `_size` and `_pos`. -/
structure BufferWriter extends Cursor 32 where
  buffer : Memory

namespace BufferWriter

/-- `BufferWriter::BufferWriter(BYTE*, uint32, uint32)`. -/
def construct (buffer : Memory) (size pos : BitVec 32) : BufferWriter := ⟨⟨size, pos⟩, buffer⟩

/-- `BufferWriter::FreeSize`. -/
def freeSize (w : BufferWriter) : BitVec 32 := w.size - w.pos

/-- `BufferWriter::Write(void*, uint32)`. -/
def write (w : BufferWriter) (src : Memory) (len : BitVec 32) : Outcome BufferWriter :=
  if w.freeSize < len then ⟨false, w, none⟩
  else
    ⟨true, { w with
      buffer := memcpy w.buffer w.pos.toNat src 0 len.toNat
      pos := w.pos + len }, some (w.pos.toNat, len.toNat)⟩

/-- `BufferWriter::Write(T*)`. -/
def writeAs (w : BufferWriter) (src : Memory) (sizeOf : Nat) : Outcome BufferWriter :=
  w.write src (.ofNat 32 sizeOf)

/-- `BufferWriter::Reserve`: hands out `sizeof(T)` bytes, or `nullptr`.  The comparison
is one of `size_t`. -/
def reserve (w : BufferWriter) (sizeOf : Nat) : Outcome BufferWriter :=
  if w.freeSize.toNat < sizeOf then ⟨false, w, none⟩
  else ⟨true, { w with pos := w.pos + .ofNat 32 sizeOf }, some (w.pos.toNat, sizeOf)⟩

/-- `BufferWriter::operator<<`. -/
def insert (w : BufferWriter) (src : Memory) (sizeOf : Nat) : Outcome BufferWriter :=
  ⟨true, { w with
    buffer := memcpy w.buffer w.pos.toNat src 0 sizeOf
    pos := w.pos + .ofNat 32 sizeOf }, some (w.pos.toNat, sizeOf)⟩

/-- The operations of a writer. -/
inductive Op where
  | write (src : Memory) (len : BitVec 32)
  | writeAs (src : Memory) (sizeOf : Nat)
  | reserve (sizeOf : Nat)
  | insert (src : Memory) (sizeOf : Nat)

def perform (w : BufferWriter) : Op → Outcome BufferWriter
  | .write src len => w.write src len
  | .writeAs src sizeOf => w.writeAs src sizeOf
  | .reserve sizeOf => w.reserve sizeOf
  | .insert src sizeOf => w.insert src sizeOf

/-- All but `operator<<` compare with `FreeSize()`. -/
def Op.checked : Op → Bool
  | .insert _ _ => false
  | _ => true

/-- How many bytes an operation needs. -/
def Op.demand : Op → Nat
  | .write _ len => len.toNat
  | .writeAs _ sizeOf => (BitVec.ofNat 32 sizeOf).toNat
  | .reserve sizeOf => sizeOf
  | .insert _ sizeOf => sizeOf

end BufferWriter

/-! ## What an operation does to the cursor -/

/-- Moving by a 32-bit length. -/
private theorem advance_toNat (c : Cursor 32) (len : BitVec 32) :
    c.advance len.toNat = { c with pos := c.pos + len } := by
  rw [Cursor.advance, BitVec.ofNat_toNat, BitVec.setWidth_eq]

namespace BufferReader

theorem peek_of_lt {s : State} {dest : Nat} {len : BitVec 32} (h : s.1.freeSize < len) :
    peek s dest len = ⟨false, s, none⟩ := if_pos h

theorem peek_of_le {s : State} {dest : Nat} {len : BitVec 32} (h : ¬s.1.freeSize < len) :
    peek s dest len =
      ⟨true, (s.1, memcpy s.2 dest s.1.buffer s.1.pos.toNat len.toNat),
        some (s.1.pos.toNat, len.toNat)⟩ := if_neg h

theorem peek_serves (s : State) (dest : Nat) (len : BitVec 32) :
    Cursor.Serves cursor true len.toNat s (peek s dest len) := by
  by_cases h : s.1.freeSize < len
  · rw [peek_of_lt h]
    exact .refused rfl (BitVec.lt_def.mp h)
  · rw [peek_of_le h]
    exact .served _ (fun _ => Nat.le_of_not_lt h) (Or.inl rfl)

theorem read_serves (s : State) (dest : Nat) (len : BitVec 32) :
    Cursor.Serves cursor true len.toNat s (read s dest len) := by
  unfold read
  by_cases h : s.1.freeSize < len
  · rw [peek_of_lt h]
    exact .refused rfl (BitVec.lt_def.mp h)
  · rw [peek_of_le h]
    refine .served _ (fun _ => Nat.le_of_not_lt h) (Or.inr ?_)
    rw [advance_toNat]
    rfl

theorem perform_serves (s : State) (op : Op) :
    Cursor.Serves cursor op.checked op.demand s (perform s op) := by
  cases op with
  | peek dest len => exact peek_serves s dest len
  | read dest len => exact read_serves s dest len
  | peekAs dest sizeOf => exact peek_serves s dest _
  | readAs dest sizeOf => exact read_serves s dest _
  | extract dest sizeOf => exact .served _ (fun hc => by cases hc) (Or.inr rfl)

end BufferReader

namespace BufferWriter

theorem write_serves (w : BufferWriter) (src : Memory) (len : BitVec 32) :
    Cursor.Serves toCursor true len.toNat w (w.write src len) := by
  unfold write
  split
  · rename_i hlt
    exact .refused rfl (BitVec.lt_def.mp hlt)
  · rename_i hle
    refine .served _ (fun _ => Nat.le_of_not_lt hle) (Or.inr ?_)
    rw [advance_toNat]

theorem reserve_serves (w : BufferWriter) (sizeOf : Nat) :
    Cursor.Serves toCursor true sizeOf w (w.reserve sizeOf) := by
  unfold reserve
  split
  · rename_i hlt
    exact .refused rfl hlt
  · rename_i hle
    exact .served _ (fun _ => Nat.le_of_not_lt hle) (Or.inr rfl)

theorem perform_serves (w : BufferWriter) (op : Op) :
    Cursor.Serves toCursor op.checked op.demand w (w.perform op) := by
  cases op with
  | write src len => exact w.write_serves src len
  | writeAs src sizeOf => exact w.write_serves src _
  | reserve sizeOf => exact w.reserve_serves sizeOf
  | insert src sizeOf => exact .served _ (fun hc => by cases hc) (Or.inr rfl)

end BufferWriter

/-! ## Sequences of operations -/

/-- In every step of the sequence `_pos <= _size` and `FreeSize()` is exact, the bytes
read, written or handed out are bytes of the buffer, and a failure changes nothing. -/
def BufferReader.Safe (r : BufferReader) (memory : Memory) (ops : List Op) : Prop :=
  Cursor.SafeRun cursor perform r.size.toNat (r, memory) ops

def BufferWriter.Safe (w : BufferWriter) (ops : List Op) : Prop :=
  Cursor.SafeRun toCursor perform w.size.toNat w ops

/-- Every `operator>>` of the sequence finds `sizeof(T)` bytes left. -/
def BufferReader.OperatorsFit (r : BufferReader) (memory : Memory) (ops : List Op) : Prop :=
  Cursor.FitsRun cursor perform Op.checked Op.demand (r, memory) ops

/-- Every `operator<<` of the sequence does. -/
def BufferWriter.OperatorsFit (w : BufferWriter) (ops : List Op) : Prop :=
  Cursor.FitsRun toCursor perform Op.checked Op.demand w ops

theorem BufferReader.safe_iff {r : BufferReader} (h : r.pos ≤ r.size) (memory : Memory)
    (ops : List Op) : r.Safe memory ops ↔ r.OperatorsFit memory ops :=
  @Cursor.safeRun_iff_fitsRun _ _ _ cursor perform Op.checked Op.demand perform_serves (r, memory) h
    ops

theorem BufferWriter.safe_iff {w : BufferWriter} (h : w.pos ≤ w.size) (ops : List Op) :
    w.Safe ops ↔ w.OperatorsFit ops :=
  @Cursor.safeRun_iff_fitsRun _ _ _ toCursor perform Op.checked Op.demand perform_serves w h ops

/-- **Buffer cursor safety.** -/
theorem safe_iff_operators_fit (buffer : Memory) (size pos : BitVec 32) (h : pos ≤ size) :
    (∀ memory ops, (BufferReader.construct buffer size pos).Safe memory ops ↔
        (BufferReader.construct buffer size pos).OperatorsFit memory ops) ∧
      ∀ ops, (BufferWriter.construct buffer size pos).Safe ops ↔
        (BufferWriter.construct buffer size pos).OperatorsFit ops :=
  ⟨fun memory ops => BufferReader.safe_iff h memory ops, fun ops => BufferWriter.safe_iff h ops⟩

/-- Of ten bytes four are read and four extracted; four more are refused. -/
theorem safe_ten : (BufferReader.construct (fun _ => 0) 10 0).Safe (fun _ => 0)
    [.read 0 4, .extract 0 4, .read 0 4] := by
  refine ((safe_iff_operators_fit (fun _ => 0) 10 0 (by decide)).1 _ _).mpr fun s hs => ?_
  obtain rfl := Except.ok.inj hs
  refine ⟨fun hc => Bool.noConfusion hc, fun t ht => ?_⟩
  obtain rfl := Except.ok.inj ht
  exact ⟨fun _ => by decide, fun _ _ => ⟨fun hc => Bool.noConfusion hc, trivial⟩⟩

/-- `operator>>` of four bytes on a buffer of two. -/
theorem not_always_safe :
    ¬∀ (buffer : Memory) (size pos : BitVec 32), pos ≤ size →
      (∀ memory ops, (BufferReader.construct buffer size pos).Safe memory ops) ∧
        ∀ ops, (BufferWriter.construct buffer size pos).Safe ops := by
  intro h
  have hsafe := (h (fun _ => 0) 2 0 (by decide)).1 (fun _ => 0) [.extract 0 4]
  obtain ⟨⟨-, -, htouched, -⟩, -⟩ := hsafe _ rfl
  exact absurd (htouched 0 4 rfl 2 (by decide) (by decide)) (by decide)

/-- After it `FreeSize()` is huge, and a `Read` of a thousand bytes succeeds. -/
example : (BufferReader.read (BufferReader.extract
    (.construct (fun _ => 0) 2 0, fun _ => 0) 0 4).after 0 1000).succeeded = true := by decide

end S1Client
