import Mathlib.Data.List.TakeWhile

/-!
# `IsStructurallyValidUTF8`

The check that every `string` of a message goes through.  The scanner first skips
bytes below 128, eight at a time where the address allows it, and then walks a table
of nine states; a text is valid if all of it is consumed.  That is so exactly for the
encodings of characters (`isStructurallyValidUTF8_iff`), wherever the text lies.
-/
namespace S1Client.Utf8

/-! ## The table -/

/-- A row with one range of continuation bytes. -/
def row (lo hi next : Nat) (c : UInt8) : Option Nat :=
  if lo ≤ c.toNat ∧ c.toNat < hi then some next else none

/-- The table, entry by entry; the exit codes are `none`. -/
def utf8acceptnonsurrogates : Nat → UInt8 → Option Nat
  | 0, c =>
    if c.toNat < 0x80 then some 0
    else if c.toNat < 0xC2 then none
    else if c.toNat < 0xE0 then some 1
    else if c.toNat = 0xE0 then some 2
    else if c.toNat = 0xED then some 7
    else if c.toNat < 0xF0 then some 3
    else if c.toNat = 0xF0 then some 4
    else if c.toNat < 0xF4 then some 5
    else if c.toNat = 0xF4 then some 6
    else none
  | 1, c => row 0x80 0xC0 0 c
  | 2, c => row 0xA0 0xC0 1 c
  | 3, c => row 0x80 0xC0 1 c
  | 4, c => row 0x90 0xC0 3 c
  | 5, c => row 0x80 0xC0 3 c
  | 6, c => row 0x80 0x90 3 c
  -- a surrogate gets a byte further
  | 7, c => if 0xA0 ≤ c.toNat ∧ c.toNat < 0xC0 then some 8 else row 0x80 0xA0 1 c
  | _, _ => none

/-- From one state through all of a text. -/
def run (state : Nat) (p : List UInt8) : Option Nat := p.foldlM utf8acceptnonsurrogates state

theorem run_cons (state : Nat) (b : UInt8) (p : List UInt8) :
    run state (b :: p) = (utf8acceptnonsurrogates state b).bind fun state => run state p :=
  List.foldlM_cons ..

/-! ## The scanner -/

/-- Bytes up to an address that is a multiple of 8. -/
def skipToAligned (addr : Nat) : List UInt8 → Nat × List UInt8
  | [] => (addr, [])
  | c :: p => if addr % 8 ≠ 0 ∧ c < 0x80 then skipToAligned (addr + 1) p else (addr, c :: p)

/-- Groups of eight from there on.  The table decides if a group is not skipped, and
whether half of it is (`halves`). -/
def skipGroups (halves : Bool) : List UInt8 → List UInt8
  | a :: b :: c :: d :: e :: f :: g :: h :: p =>
    if [a, b, c, d, e, f, g, h].all (· < 0x80) then skipGroups halves p
    else if halves ∧ [a, b, c, d].all (· < 0x80) then e :: f :: g :: h :: p
    else a :: b :: c :: d :: e :: f :: g :: h :: p
  | p => p

/-- The skipping loops in front of both scans. -/
def skipFast (halves : Bool) (addr : Nat) (p : List UInt8) : List UInt8 :=
  let aligned := skipToAligned addr p
  if aligned.1 % 8 = 0 then skipGroups halves aligned.2 else aligned.2

/-- The byte-at-a-time scan: how many bytes were taken, the state, and whether the last
of them made it exit. -/
def scanTable : Nat → List UInt8 → Nat × Nat × Bool
  | state, [] => (0, state, false)
  | state, c :: p =>
    match utf8acceptnonsurrogates state c with
    | none => (1, state, true)
    | some e =>
      let (n, last, exited) := scanTable e p
      (n + 1, last, exited)

/-- To the beginning of the character that `src` is inside of. -/
def backUp (str : List UInt8) : Nat → Nat
  | 0 => 0
  | src + 1 => if 0 < src ∧ str.getD src 0 &&& 0xC0 = 0x80 then backUp str src else src

/-- `UTF8GenericScan`: the number of bytes consumed. -/
def utf8GenericScan (addr : Nat) (str : List UInt8) : Nat :=
  let rest := skipFast true addr str
  let off := str.length - rest.length
  match scanTable 0 rest with
  | (n, state, true) => if state = 0 then off + n - 1 else backUp str (off + n - 1)
  | (n, state, false) => if state = 0 then off + n else backUp str (off + n)

/-- `UTF8GenericScanFastAscii`. -/
def utf8GenericScanFastAscii (addr : Nat) (str : List UInt8) : Nat :=
  let rest := (skipFast false addr str).dropWhile (· < 0x80)
  let n := str.length - rest.length
  n + utf8GenericScan (addr + n) rest

/-- `IsStructurallyValidUTF8`, for a text at an address. -/
def isStructurallyValidUTF8 (addr : Nat) (str : List UInt8) : Bool :=
  utf8GenericScanFastAscii addr str = str.length

/-! ## What is skipped -/

/-- What is left after a prefix of bytes below 128. -/
def Skips (p rest : List UInt8) : Prop := ∃ ascii, p = ascii ++ rest ∧ ∀ b ∈ ascii, b < 0x80

theorem Skips.refl (p : List UInt8) : Skips p p := ⟨[], rfl, fun _ h => by cases h⟩

theorem Skips.trans {p q r : List UInt8} (h : Skips p q) (h' : Skips q r) : Skips p r := by
  obtain ⟨a, rfl, ha⟩ := h
  obtain ⟨a', rfl, ha'⟩ := h'
  refine ⟨a ++ a', (List.append_assoc ..).symm, fun b hb => ?_⟩
  rcases List.mem_append.mp hb with hb | hb
  · exact ha b hb
  · exact ha' b hb

theorem Skips.length_le {p rest : List UInt8} (h : Skips p rest) : rest.length ≤ p.length := by
  obtain ⟨a, rfl, -⟩ := h
  rw [List.length_append]
  exact Nat.le_add_left ..

/-- The table stays in its first state there. -/
theorem Skips.run_zero {p rest : List UInt8} (h : Skips p rest) : run 0 p = run 0 rest := by
  obtain ⟨ascii, rfl, hascii⟩ := h
  induction ascii with
  | nil => rfl
  | cons b ascii ih =>
    have hb : b.toNat < 0x80 := UInt8.lt_iff_toNat_lt.mp (hascii b List.mem_cons_self)
    rw [List.cons_append, run_cons, utf8acceptnonsurrogates, if_pos hb]
    exact ih fun c hc => hascii c (List.mem_cons_of_mem _ hc)

theorem skips_skipToAligned (addr : Nat) (p : List UInt8) : Skips p (skipToAligned addr p).2 := by
  induction p generalizing addr with
  | nil => exact .refl _
  | cons c p ih =>
    rw [skipToAligned]
    split
    · rename_i h
      refine Skips.trans ⟨[c], rfl, fun b hb => ?_⟩ (ih (addr + 1))
      rw [List.mem_singleton.mp hb]
      exact h.2
    · exact .refl _

theorem skips_skipGroups (halves : Bool) (p : List UInt8) : Skips p (skipGroups halves p) := by
  fun_induction skipGroups halves p with
  | case1 a b c d e f g h p hall ih =>
    refine Skips.trans ⟨[a, b, c, d, e, f, g, h], rfl, ?_⟩ ih
    simpa only [List.all_eq_true, decide_eq_true_eq] using hall
  | case2 a b c d e f g h p _ hhalf =>
    refine ⟨[a, b, c, d], rfl, ?_⟩
    simpa only [List.all_eq_true, decide_eq_true_eq] using hhalf.2
  | case3 => exact .refl _
  | case4 => exact .refl _

theorem skips_skipFast (halves : Bool) (addr : Nat) (p : List UInt8) :
    Skips p (skipFast halves addr p) := by
  refine (skips_skipToAligned addr p).trans ?_
  unfold skipFast
  dsimp only
  split
  · exact skips_skipGroups halves _
  · exact .refl _

theorem skips_dropWhile (p : List UInt8) : Skips p (p.dropWhile (· < 0x80)) := by
  refine ⟨p.takeWhile (· < 0x80), List.takeWhile_append_dropWhile.symm, fun b hb => ?_⟩
  simpa using List.mem_takeWhile_imp hb

/-! ## What is scanned -/

/-- The scan does not exit and takes everything, or it exits on the way. -/
theorem scanTable_spec (state : Nat) (p : List UInt8) :
    (∃ last, run state p = some last ∧ scanTable state p = (p.length, last, false)) ∨
      ∃ n last, run state p = none ∧ scanTable state p = (n, last, true) ∧ 0 < n ∧
        n ≤ p.length := by
  induction p generalizing state with
  | nil => exact Or.inl ⟨state, rfl, rfl⟩
  | cons c p ih =>
    rw [run_cons, scanTable]
    cases utf8acceptnonsurrogates state c with
    | none => exact Or.inr ⟨1, state, rfl, rfl, Nat.one_pos, Nat.succ_pos _⟩
    | some e =>
      rcases ih e with ⟨last, hrun, hscan⟩ | ⟨n, last, hrun, hscan, hpos, hle⟩
      · exact Or.inl ⟨last, hrun, by simp only [hscan, List.length_cons]⟩
      · exact Or.inr ⟨n + 1, last, hrun, by simp only [hscan], Nat.succ_pos _,
          Nat.succ_le_succ hle⟩

theorem backUp_lt (str : List UInt8) {src : Nat} (h : 0 < src) : backUp str src < src := by
  induction src with
  | zero => exact absurd h (Nat.lt_irrefl 0)
  | succ src ih =>
    rw [backUp]
    split
    · rename_i hsrc
      exact Nat.lt_succ_of_lt (ih hsrc.1)
    · exact Nat.lt_succ_self src

theorem backUp_le (str : List UInt8) (src : Nat) : backUp str src ≤ src := by
  cases src with
  | zero => exact Nat.le_refl 0
  | succ src => exact Nat.le_of_lt (backUp_lt str (Nat.succ_pos src))

/-- Everything is consumed exactly if the table ends where it started. -/
theorem utf8GenericScan_eq_length (addr : Nat) (str : List UInt8) :
    utf8GenericScan addr str = str.length ↔ run 0 str = some 0 := by
  have hskips := skips_skipFast true addr str
  have hlen := hskips.length_le
  rw [hskips.run_zero]
  unfold utf8GenericScan
  dsimp only
  generalize skipFast true addr str = rest at hlen
  rcases scanTable_spec 0 rest with ⟨last, hrun, hscan⟩ | ⟨n, last, hrun, hscan, hpos, hle⟩
  · rw [hrun, hscan]
    dsimp only
    by_cases hlast : last = 0
    · rw [if_pos hlast, hlast]
      exact ⟨fun _ => rfl, fun _ => by omega⟩
    · rw [if_neg hlast]
      have hrest : 0 < rest.length := by
        cases rest with
        | nil => exact absurd (Option.some.inj hrun).symm hlast
        | cons c rest => exact Nat.succ_pos _
      have hback := @backUp_lt str (str.length - rest.length + rest.length) (by omega)
      exact ⟨fun h => by omega, fun h => absurd (Option.some.inj h) hlast⟩
  · rw [hrun, hscan]
    dsimp only
    refine ⟨fun h => ?_, fun h => by cases h⟩
    have hback := backUp_le str (str.length - rest.length + n - 1)
    split at h <;> omega

theorem isStructurallyValidUTF8_eq_true (addr : Nat) (str : List UInt8) :
    isStructurallyValidUTF8 addr str = true ↔ run 0 str = some 0 := by
  have hskips := (skips_skipFast false addr str).trans (skips_dropWhile _)
  have hlen := hskips.length_le
  rw [hskips.run_zero, ← utf8GenericScan_eq_length
    (addr + (str.length - ((skipFast false addr str).dropWhile (· < 0x80)).length))]
  unfold isStructurallyValidUTF8 utf8GenericScanFastAscii
  rw [decide_eq_true_eq]
  dsimp only
  omega

/-! ## Characters -/

/-- Inside of a character there is another byte. -/
theorem exists_cons_of_run {state : Nat} {p : List UInt8} (hstate : state ≠ 0)
    (h : run state p = some 0) : ∃ b q next, p = b :: q ∧
      utf8acceptnonsurrogates state b = some next ∧ run next q = some 0 := by
  cases p with
  | nil => exact absurd (Option.some.inj h) hstate
  | cons b q =>
    rw [run_cons] at h
    obtain ⟨next, hnext, hrun⟩ := Option.bind_eq_some_iff.mp h
    exact ⟨b, q, next, rfl, hnext, hrun⟩

theorem row_eq_some {lo hi next next' : Nat} {c : UInt8} :
    row lo hi next c = some next' ↔ lo ≤ c.toNat ∧ c.toNat < hi ∧ next = next' := by
  unfold row
  split
  · rename_i h
    exact ⟨fun heq => ⟨h.1, h.2, Option.some.inj heq⟩, fun heq => congrArg some heq.2.2⟩
  · rename_i h
    refine ⟨fun heq => ?_, fun hrange => absurd ⟨hrange.1, hrange.2.1⟩ h⟩
    cases heq

/-- A state whose row has one range. -/
theorem run_row {state lo hi next : Nat} (hstate : state ≠ 0)
    (hrow : ∀ c, utf8acceptnonsurrogates state c = row lo hi next c) {p : List UInt8} :
    run state p = some 0 ↔
      ∃ b q, p = b :: q ∧ lo ≤ b.toNat ∧ b.toNat < hi ∧ run next q = some 0 := by
  constructor
  · intro h
    obtain ⟨b, q, next', rfl, hnext, hrun⟩ := exists_cons_of_run hstate h
    rw [hrow] at hnext
    obtain ⟨hlo, hhi, rfl⟩ := row_eq_some.mp hnext
    exact ⟨b, q, rfl, hlo, hhi, hrun⟩
  · rintro ⟨b, q, rfl, hlo, hhi, hrun⟩
    rw [run_cons, hrow]
    exact Option.bind_eq_some_iff.mpr ⟨next, row_eq_some.mpr ⟨hlo, hhi, rfl⟩, hrun⟩

theorem run_one {p : List UInt8} : run 1 p = some 0 ↔
    ∃ b q, p = b :: q ∧ 0x80 ≤ b.toNat ∧ b.toNat < 0xC0 ∧ run 0 q = some 0 :=
  run_row (by decide) fun _ => rfl

theorem run_three {p : List UInt8} : run 3 p = some 0 ↔
    ∃ b q, p = b :: q ∧ 0x80 ≤ b.toNat ∧ b.toNat < 0xC0 ∧ run 1 q = some 0 :=
  run_row (by decide) fun _ => rfl

/-- A surrogate is refused one byte late. -/
theorem run_seven {p : List UInt8} : run 7 p = some 0 ↔
    ∃ b q, p = b :: q ∧ 0x80 ≤ b.toNat ∧ b.toNat < 0xA0 ∧ run 1 q = some 0 := by
  constructor
  · intro h
    obtain ⟨b, q, next, rfl, hnext, hrun⟩ := exists_cons_of_run (by decide) h
    rw [utf8acceptnonsurrogates] at hnext
    split at hnext
    · obtain rfl := Option.some.inj hnext
      obtain ⟨c, r, next, -, hreject, -⟩ := exists_cons_of_run (by decide) hrun
      cases hreject
    · obtain ⟨hlo, hhi, rfl⟩ := row_eq_some.mp hnext
      exact ⟨b, q, rfl, hlo, hhi, hrun⟩
  · rintro ⟨b, q, rfl, hlo, hhi, hrun⟩
    rw [run_cons, utf8acceptnonsurrogates, if_neg (by omega)]
    exact Option.bind_eq_some_iff.mpr ⟨1, row_eq_some.mpr ⟨hlo, hhi, rfl⟩, hrun⟩

/-- The first row. -/
theorem lead_eq_some {b : UInt8} {next : Nat} : utf8acceptnonsurrogates 0 b = some next ↔
    b.toNat < 0x80 ∧ next = 0 ∨ 0xC2 ≤ b.toNat ∧ b.toNat < 0xE0 ∧ next = 1 ∨
      b.toNat = 0xE0 ∧ next = 2 ∨
      0xE1 ≤ b.toNat ∧ b.toNat < 0xF0 ∧ b.toNat ≠ 0xED ∧ next = 3 ∨ b.toNat = 0xED ∧ next = 7 ∨
      b.toNat = 0xF0 ∧ next = 4 ∨ 0xF1 ≤ b.toNat ∧ b.toNat < 0xF4 ∧ next = 5 ∨
      b.toNat = 0xF4 ∧ next = 6 := by
  rw [utf8acceptnonsurrogates]
  repeat' split
  all_goals simp only [Option.some.injEq, reduceCtorEq, false_iff]
  all_goals omega

/-- The first byte of a text that is not empty. -/
theorem run_zero_cons {b : UInt8} {p : List UInt8} : run 0 (b :: p) = some 0 ↔
    ∃ next, utf8acceptnonsurrogates 0 b = some next ∧ run next p = some 0 := by
  rw [run_cons]
  exact Option.bind_eq_some_iff

/-- A continuation byte. -/
def Tail (b : UInt8) : Prop := 0x80 ≤ b.toNat ∧ b.toNat < 0xC0

/-- The bytes of a character, by their number; the shortest ones, and no surrogate. -/
inductive Encoding : List UInt8 → Prop
  | one {a : UInt8} (ha : a.toNat < 0x80) : Encoding [a]
  | two {a b : UInt8} (ha : 0xC2 ≤ a.toNat ∧ a.toNat < 0xE0) (hb : Tail b) : Encoding [a, b]
  | three {a b c : UInt8} (ha : 0xE0 ≤ a.toNat ∧ a.toNat < 0xF0) (hb : Tail b) (hc : Tail c)
      (hshort : a.toNat = 0xE0 → 0xA0 ≤ b.toNat) (hsurrogate : a.toNat = 0xED → b.toNat < 0xA0) :
      Encoding [a, b, c]
  | four {a b c d : UInt8} (ha : 0xF0 ≤ a.toNat ∧ a.toNat < 0xF5) (hb : Tail b) (hc : Tail c)
      (hd : Tail d) (hshort : a.toNat = 0xF0 → 0x90 ≤ b.toNat)
      (hlast : a.toNat = 0xF4 → b.toNat < 0x90) : Encoding [a, b, c, d]

theorem run_append_of_encoding {e q : List UInt8} (he : Encoding e) (hq : run 0 q = some 0) :
    run 0 (e ++ q) = some 0 := by
  cases he with
  | one ha => exact run_zero_cons.mpr ⟨0, lead_eq_some.mpr (by omega), hq⟩
  | @two a b ha hb =>
    exact run_zero_cons.mpr ⟨1, lead_eq_some.mpr (by omega),
      run_one.mpr ⟨b, q, rfl, hb.1, hb.2, hq⟩⟩
  | @three a b c ha hb hc hshort hsurrogate =>
    have hlast : run 1 ([c] ++ q) = some 0 := run_one.mpr ⟨c, q, rfl, hc.1, hc.2, hq⟩
    obtain ⟨hb₁, hb₂⟩ := hb
    by_cases hfirst : a.toNat = 0xE0
    · exact run_zero_cons.mpr ⟨2, lead_eq_some.mpr (by omega),
        (run_row (by decide) fun _ => rfl).mpr ⟨b, _, rfl, hshort hfirst, hb₂, hlast⟩⟩
    by_cases hED : a.toNat = 0xED
    · exact run_zero_cons.mpr ⟨7, lead_eq_some.mpr (by omega),
        run_seven.mpr ⟨b, _, rfl, hb₁, hsurrogate hED, hlast⟩⟩
    · exact run_zero_cons.mpr ⟨3, lead_eq_some.mpr (by omega),
        run_three.mpr ⟨b, _, rfl, hb₁, hb₂, hlast⟩⟩
  | @four a b c d ha hb hc hd hshort hlast =>
    have htail : run 3 ([c, d] ++ q) = some 0 :=
      run_three.mpr ⟨c, _, rfl, hc.1, hc.2, run_one.mpr ⟨d, q, rfl, hd.1, hd.2, hq⟩⟩
    obtain ⟨hb₁, hb₂⟩ := hb
    by_cases hF0 : a.toNat = 0xF0
    · exact run_zero_cons.mpr ⟨4, lead_eq_some.mpr (by omega),
        (run_row (by decide) fun _ => rfl).mpr ⟨b, _, rfl, hshort hF0, hb₂, htail⟩⟩
    by_cases hF4 : a.toNat = 0xF4
    · exact run_zero_cons.mpr ⟨6, lead_eq_some.mpr (by omega),
        (run_row (by decide) fun _ => rfl).mpr ⟨b, _, rfl, hb₁, hlast hF4, htail⟩⟩
    · exact run_zero_cons.mpr ⟨5, lead_eq_some.mpr (by omega),
        (run_row (by decide) fun _ => rfl).mpr ⟨b, _, rfl, hb₁, hb₂, htail⟩⟩

/-- A text that the table accepts starts with a character. -/
theorem exists_encoding_of_run {b : UInt8} {p : List UInt8} (h : run 0 (b :: p) = some 0) :
    ∃ e q, Encoding e ∧ b :: p = e ++ q ∧ run 0 q = some 0 := by
  obtain ⟨next, hlead, hrun⟩ := run_zero_cons.mp h
  rcases lead_eq_some.mp hlead with ⟨hb, rfl⟩ | ⟨hlo, hhi, rfl⟩ | ⟨hb, rfl⟩ | ⟨hlo, hhi, hne, rfl⟩ |
    ⟨hb, rfl⟩ | ⟨hb, rfl⟩ | ⟨hlo, hhi, rfl⟩ | ⟨hb, rfl⟩
  · exact ⟨[b], p, .one hb, rfl, hrun⟩
  · obtain ⟨c, q, rfl, hc₁, hc₂, hq⟩ := run_one.mp hrun
    exact ⟨[b, c], q, .two ⟨hlo, hhi⟩ ⟨hc₁, hc₂⟩, rfl, hq⟩
  · obtain ⟨c, q, rfl, hc₁, hc₂, hq⟩ := (run_row (by decide) fun _ => rfl).mp hrun
    obtain ⟨d, r, rfl, hd₁, hd₂, hr⟩ := run_one.mp hq
    exact ⟨[b, c, d], r, .three (by omega) ⟨by omega, hc₂⟩ ⟨hd₁, hd₂⟩ (fun _ => hc₁) (by omega),
      rfl, hr⟩
  · obtain ⟨c, q, rfl, hc₁, hc₂, hq⟩ := run_three.mp hrun
    obtain ⟨d, r, rfl, hd₁, hd₂, hr⟩ := run_one.mp hq
    exact ⟨[b, c, d], r, .three (by omega) ⟨hc₁, hc₂⟩ ⟨hd₁, hd₂⟩ (by omega) (by omega), rfl, hr⟩
  · obtain ⟨c, q, rfl, hc₁, hc₂, hq⟩ := run_seven.mp hrun
    obtain ⟨d, r, rfl, hd₁, hd₂, hr⟩ := run_one.mp hq
    exact ⟨[b, c, d], r, .three (by omega) ⟨hc₁, by omega⟩ ⟨hd₁, hd₂⟩ (by omega) (fun _ => hc₂),
      rfl, hr⟩
  · obtain ⟨c, q, rfl, hc₁, hc₂, hq⟩ := (run_row (by decide) fun _ => rfl).mp hrun
    obtain ⟨d, r, rfl, hd₁, hd₂, hr⟩ := run_three.mp hq
    obtain ⟨e, t, rfl, he₁, he₂, ht⟩ := run_one.mp hr
    exact ⟨[b, c, d, e], t, .four (by omega) ⟨by omega, hc₂⟩ ⟨hd₁, hd₂⟩ ⟨he₁, he₂⟩ (fun _ => hc₁)
      (by omega), rfl, ht⟩
  · obtain ⟨c, q, rfl, hc₁, hc₂, hq⟩ := (run_row (by decide) fun _ => rfl).mp hrun
    obtain ⟨d, r, rfl, hd₁, hd₂, hr⟩ := run_three.mp hq
    obtain ⟨e, t, rfl, he₁, he₂, ht⟩ := run_one.mp hr
    exact ⟨[b, c, d, e], t, .four (by omega) ⟨hc₁, hc₂⟩ ⟨hd₁, hd₂⟩ ⟨he₁, he₂⟩ (by omega)
      (by omega), rfl, ht⟩
  · obtain ⟨c, q, rfl, hc₁, hc₂, hq⟩ := (run_row (by decide) fun _ => rfl).mp hrun
    obtain ⟨d, r, rfl, hd₁, hd₂, hr⟩ := run_three.mp hq
    obtain ⟨e, t, rfl, he₁, he₂, ht⟩ := run_one.mp hr
    exact ⟨[b, c, d, e], t, .four (by omega) ⟨hc₁, by omega⟩ ⟨hd₁, hd₂⟩ ⟨he₁, he₂⟩ (by omega)
      (fun _ => hc₂), rfl, ht⟩

private theorem toNat_ofNat_of_lt {n : Nat} (h : n < 256) : (UInt8.ofNat n).toNat = n := by
  rw [UInt8.toNat_ofNat', Nat.mod_eq_of_lt h]

theorem tail_ofNat (n : Nat) : Tail (.ofNat (n % 64 + 0x80)) := by
  unfold Tail
  rw [toNat_ofNat_of_lt (by omega)]
  omega

theorem encoding_utf8EncodeChar (c : Char) : Encoding (String.utf8EncodeChar c) := by
  have hvalid : c.val.toNat < 0xD800 ∨ 0xDFFF < c.val.toNat ∧ c.val.toNat < 0x110000 := c.valid
  unfold String.utf8EncodeChar
  generalize c.val.toNat = v at hvalid
  dsimp only
  split
  · refine .one ?_
    rw [toNat_ofNat_of_lt (by omega)]
    omega
  split
  · refine .two ?_ (tail_ofNat v)
    rw [toNat_ofNat_of_lt (by omega)]
    omega
  split
  · refine .three ?_ (tail_ofNat (v / 64)) (tail_ofNat v) ?_ ?_
    all_goals rw [toNat_ofNat_of_lt (by omega)]
    · omega
    all_goals rw [toNat_ofNat_of_lt (by omega)]
    all_goals omega
  · refine .four ?_ (tail_ofNat (v / 4096)) (tail_ofNat (v / 64)) (tail_ofNat v) ?_ ?_
    all_goals rw [toNat_ofNat_of_lt (by omega)]
    · omega
    all_goals rw [toNat_ofNat_of_lt (by omega)]
    all_goals omega

/-- The character with a number. -/
private theorem exists_char {v : Nat} (h : v.isValidChar) : ∃ c : Char, c.val.toNat = v :=
  ⟨Char.ofNatAux v h, rfl⟩

theorem Encoding.exists_char {e : List UInt8} (h : Encoding e) :
    ∃ c : Char, String.utf8EncodeChar c = e := by
  have hbyte : ∀ (n : Nat) (b : UInt8), n = b.toNat → UInt8.ofNat n = b := by
    rintro n b rfl
    exact UInt8.ofNat_toNat
  cases h with
  | @one a ha =>
    obtain ⟨c, hc⟩ := Utf8.exists_char (v := a.toNat) (Or.inl (by omega))
    refine ⟨c, ?_⟩
    unfold String.utf8EncodeChar
    dsimp only
    rw [hc, if_pos (by omega), hbyte _ a rfl]
  | @two a b ha hb =>
    obtain ⟨hb₁, hb₂⟩ := hb
    obtain ⟨c, hc⟩ := Utf8.exists_char
      (v := (a.toNat - 0xC0) * 64 + (b.toNat - 0x80)) (Or.inl (by omega))
    refine ⟨c, ?_⟩
    unfold String.utf8EncodeChar
    dsimp only
    rw [hc, if_neg (by omega), if_pos (by omega), hbyte _ a (by omega), hbyte _ b (by omega)]
  | @three a b c ha hb hc hshort hsurrogate =>
    obtain ⟨hb₁, hb₂⟩ := hb
    obtain ⟨hc₁, hc₂⟩ := hc
    have hvalid : Nat.isValidChar
        ((a.toNat - 0xE0) * 4096 + (b.toNat - 0x80) * 64 + (c.toNat - 0x80)) := by
      unfold Nat.isValidChar
      omega
    obtain ⟨ch, hch⟩ := Utf8.exists_char hvalid
    refine ⟨ch, ?_⟩
    unfold String.utf8EncodeChar
    dsimp only
    rw [hch, if_neg (by omega), if_neg (by omega), if_pos (by omega), hbyte _ a (by omega),
      hbyte _ b (by omega), hbyte _ c (by omega)]
  | @four a b c d ha hb hc hd hshort hlast =>
    obtain ⟨hb₁, hb₂⟩ := hb
    obtain ⟨hc₁, hc₂⟩ := hc
    obtain ⟨hd₁, hd₂⟩ := hd
    have hvalid : Nat.isValidChar ((a.toNat - 0xF0) * 262144 + (b.toNat - 0x80) * 4096 +
        (c.toNat - 0x80) * 64 + (d.toNat - 0x80)) := by
      unfold Nat.isValidChar
      omega
    obtain ⟨ch, hch⟩ := Utf8.exists_char hvalid
    refine ⟨ch, ?_⟩
    unfold String.utf8EncodeChar
    dsimp only
    rw [hch, if_neg (by omega), if_neg (by omega), if_neg (by omega), hbyte _ a (by omega),
      hbyte _ b (by omega), hbyte _ c (by omega), hbyte _ d (by omega)]

/-- The table accepts the texts of characters. -/
theorem run_zero_iff (str : List UInt8) :
    run 0 str = some 0 ↔ ∃ cs : List Char, str = cs.flatMap String.utf8EncodeChar := by
  constructor
  · intro h
    induction hn : str.length using Nat.strong_induction_on generalizing str with
    | _ n ih =>
      cases str with
      | nil => exact ⟨[], rfl⟩
      | cons b p =>
        obtain ⟨e, q, he, hsplit, hq⟩ := exists_encoding_of_run h
        obtain ⟨c, rfl⟩ := he.exists_char
        have hlt : q.length < n := by
          have hpos : 0 < (String.utf8EncodeChar c).length := by
            cases he' : String.utf8EncodeChar c with
            | nil =>
              rw [he'] at he
              cases he
            | cons => exact Nat.succ_pos _
          rw [← hn, hsplit, List.length_append]
          omega
        obtain ⟨cs, rfl⟩ := ih q.length hlt q hq rfl
        exact ⟨c :: cs, hsplit⟩
  · rintro ⟨cs, rfl⟩
    induction cs with
    | nil => rfl
    | cons c cs ih => exact run_append_of_encoding (encoding_utf8EncodeChar c) ih

/-- **Exactly the encodings of characters** are valid, at any address. -/
theorem isStructurallyValidUTF8_iff (addr : Nat) (str : List UInt8) :
    isStructurallyValidUTF8 addr str = true ↔
      ∃ cs : List Char, str = cs.flatMap String.utf8EncodeChar := by
  rw [isStructurallyValidUTF8_eq_true, run_zero_iff]

end S1Client.Utf8
