import Mathlib.Algebra.Ring.Nat
import Mathlib.Data.List.Pairwise
import S1Client.Reader

/-! Messages that are sequences of tagged records.  A record is a tag and a body, and
how long the body is can be told from the tag alone, so what is behind an unknown
record can still be read.  A field of a message says how it folds the bodies of its
records into its value, and a schema lists the fields.  Records of no field are kept,
and written again behind the fields.

What a message parses to is a matter of each field on its own: of the bodies of its
records, in their order (`Schema.parse_iff`).  How the records of different fields
interleave makes no difference, nor do records of no field make one to the others. -/
namespace Tagged

/-- Tags, lengths, and what to keep of a body that is not known.  `depth` bounds how far
bodies nest. -/
structure Format (α Tag Kept : Type) where
  readTag : Reader α Tag
  writeTag : Tag → List α
  tagSize : Tag → Nat
  readLength : Reader α Nat
  writeLength : Nat → List α
  lengthSize : Nat → Nat
  maxLength : Nat
  keep : (depth : Nat) → Tag → Reader α Kept
  keptTag : Kept → Tag
  keptBody : Kept → List α
  keptSize : Kept → Nat
  local_readTag : readTag.Local
  consumes_readTag : readTag.Consumes
  readTag_writeTag : ∀ tag q, readTag (writeTag tag ++ q) = some (tag, q)
  length_writeTag : ∀ tag, (writeTag tag).length = tagSize tag
  local_readLength : readLength.Local
  readLength_writeLength : ∀ {n} q, n ≤ maxLength →
    readLength (writeLength n ++ q) = some (n, q)
  length_writeLength : ∀ n, (writeLength n).length = lengthSize n
  local_keep : ∀ depth tag, (keep depth tag).Local
  keptTag_of_keep : ∀ {depth tag p k r}, keep depth tag p = some (k, r) → keptTag k = tag
  whole_keptBody : ∀ {depth tag p k r}, keep depth tag p = some (k, r) →
    (keep depth tag).whole (keptBody k) = some k
  length_keptBody : ∀ k, (keptBody k).length = keptSize k

variable {α Tag Kept : Type}

/-! ## Records -/

namespace Format
variable (F : Format α Tag Kept)

/-- A length, and as many elements. -/
def delimited : Reader α (List α) := F.readLength.andThen Reader.taking

theorem local_delimited : F.delimited.Local := F.local_readLength.andThen Reader.local_taking

theorem delimited_append {p : List α} (hp : p.length ≤ F.maxLength) (q : List α) :
    F.delimited (F.writeLength p.length ++ p ++ q) = some (p, q) := by
  refine Reader.andThen_eq_some.mpr ⟨p.length, p ++ q, ?_, Reader.taking_append rfl q⟩
  rw [List.append_assoc]
  exact F.readLength_writeLength _ hp

/-- Getting past a body. -/
def skip (depth : Nat) (tag : Tag) : Reader α Unit := (F.keep depth tag).map fun _ => ()

theorem local_skip (depth : Nat) (tag : Tag) : (F.skip depth tag).Local :=
  (F.local_keep depth tag).map _

/-- The input is a sequence of records, with these tags and bodies. -/
inductive Splits (depth : Nat) : List α → List (Tag × List α) → Prop
  | nil : Splits depth [] []
  | cons {p body r : List α} {tag : Tag} {rs : List (Tag × List α)}
      (htag : F.readTag p = some (tag, body ++ r))
      (hbody : (F.skip depth tag).whole body = some ()) (hrest : Splits depth r rs) :
      Splits depth p ((tag, body) :: rs)

variable {F} {depth : Nat}

theorem skip_of_keep {tag : Tag} {p r : List α} {k : Kept}
    (h : F.keep depth tag p = some (k, r)) : F.skip depth tag p = some ((), r) :=
  Reader.map_eq_some.mpr ⟨k, h, rfl⟩

theorem whole_skip {tag : Tag} {body : List α} :
    (F.skip depth tag).whole body = some () ↔ ∃ k, (F.keep depth tag).whole body = some k := by
  unfold skip
  rw [Reader.whole_map, Option.map_eq_some_iff]
  exact exists_congr fun k => and_iff_left rfl

/-- There is one way to split the input. -/
theorem Splits.append_iff {p q : List α} {rs all : List (Tag × List α)}
    (h : F.Splits depth p rs) :
    F.Splits depth (p ++ q) all ↔ ∃ rs', all = rs ++ rs' ∧ F.Splits depth q rs' := by
  induction h generalizing all with
  | nil =>
    constructor
    · intro h
      exact ⟨all, rfl, h⟩
    · rintro ⟨rs', rfl, h⟩
      exact h
  | @cons p body r tag rs htag hbody _ ih =>
    have htag' : F.readTag (p ++ q) = some (tag, body ++ (r ++ q)) := by
      rw [← List.append_assoc]
      exact F.local_readTag.append htag q
    constructor
    · intro h
      generalize hpq : p ++ q = pq at h
      cases h with
      | nil =>
        obtain ⟨rfl, rfl⟩ := List.append_eq_nil_iff.mp hpq
        exact absurd (F.consumes_readTag htag) (Nat.not_lt_zero _)
      | @cons _ body₂ r₂ tag₂ rs₂ htag₂ hbody₂ hrest₂ =>
        rw [← hpq, htag'] at htag₂
        obtain ⟨rfl, heq⟩ := Prod.mk.inj (Option.some.inj htag₂)
        -- both bodies end where `skip` stops
        have hskip := (F.local_skip depth tag).of_whole hbody (r ++ q)
        rw [heq, (F.local_skip depth tag).of_whole hbody₂ r₂] at hskip
        obtain rfl := (Prod.mk.inj (Option.some.inj hskip)).2
        obtain rfl := List.append_cancel_right heq
        obtain ⟨rs', rfl, hrs'⟩ := ih.mp hrest₂
        exact ⟨rs', rfl, hrs'⟩
    · rintro ⟨rs', rfl, hrs'⟩
      exact .cons htag' hbody (ih.mpr ⟨rs', rfl, hrs'⟩)

theorem Splits.unique {p : List α} {rs rs' : List (Tag × List α)} (h : F.Splits depth p rs)
    (h' : F.Splits depth p rs') : rs = rs' := by
  have happend : F.Splits depth (p ++ []) rs' := by rwa [List.append_nil]
  obtain ⟨none, rfl, hnone⟩ := h.append_iff.mp happend
  cases hnone with
  | nil => exact (List.append_nil rs).symm
  | cons htag => exact absurd (F.consumes_readTag htag) (Nat.not_lt_zero _)

/-- Records that are written one after the other. -/
theorem splits_flatMap {rs : List (Tag × List α)}
    (h : ∀ r ∈ rs, (F.skip depth r.1).whole r.2 = some ()) :
    F.Splits depth (rs.flatMap fun r => F.writeTag r.1 ++ r.2) rs := by
  induction rs with
  | nil => exact .nil
  | cons r rs ih =>
    rw [List.flatMap_cons, List.append_assoc]
    exact .cons (F.readTag_writeTag ..) (h r List.mem_cons_self)
      (ih fun r hr => h r (List.mem_cons_of_mem _ hr))

end Format

/-! ## Fields -/

/-- Folding bodies into a value, each of them read whole. -/
def readAll {V : Type} (read : V → Reader α V) (v : V) (bs : List (List α)) : Option V :=
  bs.foldlM (fun v b => (read v).whole b) v

theorem readAll_cons {V : Type} (read : V → Reader α V) (v : V) (b : List α)
    (bs : List (List α)) :
    readAll read v (b :: bs) = ((read v).whole b).bind fun v => readAll read v bs :=
  List.foldlM_cons ..

theorem readAll_append {V : Type} (read : V → Reader α V) (v : V) (bs bs' : List (List α)) :
    readAll read v (bs ++ bs') = (readAll read v bs).bind fun v => readAll read v bs' :=
  List.foldlM_append

/-- How values of a field are kept in records: none, one or many of them.  A record is
read into the value the records before it left. -/
structure Codec (F : Format α Tag Kept) (V : Type) where
  empty : V
  /-- how deep its bodies nest -/
  depth : Nat
  /-- the tags its bodies may stand behind -/
  Fits : Tag → Prop
  /-- what is kept in it can be read again, `depth` deep at most -/
  Sound : (depth : Nat) → V → Prop
  read : (depth : Nat) → V → Reader α V
  write : V → List (List α)
  sizes : V → List Nat
  merge : V → V → V
  valid : V → Bool
  local_read : ∀ d v, (read d v).Local
  skip_of_read : ∀ {d tag v p v' r}, Fits tag → read d v p = some (v', r) →
    F.skip d tag p = some ((), r)
  skip_write : ∀ {d tag v}, Fits tag → ∀ b ∈ write v, b.length ≤ F.maxLength →
    (F.skip d tag).whole b = some ()
  readAll_write : ∀ {d v} x, depth ≤ d → Sound d v → (∀ b ∈ write v, b.length ≤ F.maxLength) →
    readAll (read d) x (write v) = if valid v then some (merge x v) else none
  sizes_eq : ∀ v, sizes v = (write v).map List.length
  valid_empty : valid empty = true
  valid_of_read : ∀ {d v p v' r}, valid v = true → read d v p = some (v', r) → valid v' = true
  sound_empty : ∀ d, Sound d empty
  sound_of_read : ∀ {d v p v' r}, Sound d v → read d v p = some (v', r) → Sound d v'
  empty_merge : ∀ v, merge empty v = v
  merge_empty : ∀ v, merge v empty = v
  merge_assoc : ∀ u v w, merge (merge u v) w = merge u (merge v w)

/-- A field of a message: its tag, and where its value is. -/
structure Field (F : Format α Tag Kept) (M : Type) where
  tag : Tag
  Value : Type
  codec : Codec F Value
  get : M → Value
  set : M → Value → M
  fits : codec.Fits tag
  get_set : ∀ x v, get (set x v) = v

/-- Two fields with tags and places of their own. -/
def Field.Apart {F : Format α Tag Kept} {M : Type} (f g : Field F M) : Prop :=
  f.tag ≠ g.tag ∧ (∀ x v, f.get (g.set x v) = f.get x) ∧ ∀ x v, g.get (f.set x v) = g.get x

instance {F : Format α Tag Kept} {M : Type} : Std.Symm (Field.Apart (F := F) (M := M)) where
  symm _ _ h := ⟨h.1.symm, h.2.2, h.2.1⟩

/-- The fields of a message and what it keeps besides, which is all there is to it. -/
structure Schema (F : Format α Tag Kept) (M : Type) where
  empty : M
  fields : List (Field F M)
  kept : M → List Kept
  withKept : M → List Kept → M
  apart : fields.Pairwise Field.Apart
  ext : ∀ x y, (∀ f ∈ fields, f.get x = f.get y) → kept x = kept y → x = y
  get_empty : ∀ f ∈ fields, f.get empty = f.codec.empty
  kept_empty : kept empty = [] := by rfl
  get_withKept : ∀ f ∈ fields, ∀ x ks, f.get (withKept x ks) = f.get x := by simp
  kept_withKept : ∀ x ks, kept (withKept x ks) = ks := by intros; rfl
  kept_set : ∀ f ∈ fields, ∀ x v, kept (f.set x v) = kept x := by simp

namespace Schema
variable {F : Format α Tag Kept} {M : Type} (S : Schema F M)

def serialize (m : M) : List α :=
  (S.fields.flatMap fun f => (f.codec.write (f.get m)).flatMap (F.writeTag f.tag ++ ·)) ++
    (S.kept m).flatMap fun k => F.writeTag (F.keptTag k) ++ F.keptBody k

def byteSize (m : M) : Nat :=
  (S.fields.map fun f => ((f.codec.sizes (f.get m)).map (F.tagSize f.tag + ·)).sum).sum +
    ((S.kept m).map fun k => F.tagSize (F.keptTag k) + F.keptSize k).sum

def mergeFrom (x m : M) : M :=
  S.withKept (S.fields.foldl (fun x f => f.set x (f.codec.merge (f.get x) (f.get m))) x)
    (S.kept x ++ S.kept m)

/-- Everything in it can be read back. -/
def valid (m : M) : Bool := S.fields.all fun f => f.codec.valid (f.get m)

/-- What is kept is of no field, and can be read again. -/
def Keeps (d : Nat) (k : Kept) : Prop :=
  (∀ f ∈ S.fields, f.tag ≠ F.keptTag k) ∧ (F.keep d (F.keptTag k)).whole (F.keptBody k) = some k

/-- All that is kept in it, in fields also, can be read again. -/
structure Sound (d : Nat) (m : M) : Prop where
  fields : ∀ f ∈ S.fields, f.codec.Sound d (f.get m)
  kept : ∀ k ∈ S.kept m, S.Keeps d k

/-- How deep its fields nest. -/
def depth : Nat := (S.fields.map (·.codec.depth)).foldr max 0

/-- The records a message is written as. -/
def records (m : M) : List (Tag × List α) :=
  (S.fields.flatMap fun f => (f.codec.write (f.get m)).map (f.tag, ·)) ++
    (S.kept m).map fun k => (F.keptTag k, F.keptBody k)

variable {S} {d : Nat}

/-! ## Serializing -/

theorem serialize_eq (m : M) :
    S.serialize m = (S.records m).flatMap fun r => F.writeTag r.1 ++ r.2 := by
  unfold serialize records
  rw [List.flatMap_append, List.flatMap_assoc, List.flatMap_map]
  refine congrArg (S.fields.flatMap · ++ _) (funext fun f => ?_)
  rw [List.flatMap_map]

/-- **The size computed beforehand** is the size. -/
theorem length_serialize (m : M) : (S.serialize m).length = S.byteSize m := by
  have hfield : ∀ (tag : Tag) (bs : List (List α)),
      (bs.flatMap (F.writeTag tag ++ ·)).length =
        ((bs.map List.length).map (F.tagSize tag + ·)).sum := by
    intro tag bs
    rw [List.length_flatMap, List.map_map]
    refine congrArg List.sum (List.map_congr_left fun b _ => ?_)
    rw [List.length_append, F.length_writeTag]
    rfl
  unfold serialize byteSize
  rw [List.length_append, List.length_flatMap, List.length_flatMap]
  refine congrArg₂ _ (congrArg List.sum (List.map_congr_left fun f _ => ?_))
    (congrArg List.sum (List.map_congr_left fun k _ => ?_))
  · rw [hfield, f.codec.sizes_eq]
  · rw [List.length_append, F.length_writeTag, F.length_keptBody]

theorem length_le_of_mem_records {m : M} {r : Tag × List α} (h : r ∈ S.records m) :
    r.2.length ≤ S.byteSize m := by
  obtain ⟨before, after, hsplit⟩ := List.append_of_mem h
  rw [← length_serialize, serialize_eq, hsplit]
  simp only [List.flatMap_append, List.flatMap_cons, List.length_append]
  omega

theorem mem_records {m : M} {f : Field F M} (hf : f ∈ S.fields) {b : List α}
    (hb : b ∈ f.codec.write (f.get m)) : (f.tag, b) ∈ S.records m :=
  List.mem_append_left _ (List.mem_flatMap.mpr ⟨f, hf, List.mem_map.mpr ⟨b, hb, rfl⟩⟩)

/-- Setting every field anew, each from its own value. -/
private theorem get_foldl (h : (f : Field F M) → f.Value → f.Value) {fields : List (Field F M)}
    (hapart : fields.Pairwise Field.Apart) (f : Field F M) (x : M) :
    (f ∈ fields → f.get (fields.foldl (fun x f => f.set x (h f (f.get x))) x) = h f (f.get x)) ∧
      ((∀ g ∈ fields, f.Apart g) →
        f.get (fields.foldl (fun x f => f.set x (h f (f.get x))) x) = f.get x) := by
  induction fields generalizing x with
  | nil => exact ⟨fun hf => absurd hf List.not_mem_nil, fun _ => rfl⟩
  | cons g fields ih =>
    obtain ⟨hg, hfields⟩ := List.pairwise_cons.mp hapart
    obtain ⟨hin, hout⟩ := ih hfields (g.set x (h g (g.get x)))
    rw [List.foldl_cons]
    refine ⟨fun hf => ?_, fun hf => ?_⟩
    · rcases List.mem_cons.mp hf with rfl | hf
      · rw [hout hg, f.get_set]
      · rw [hin hf, (hg f hf).2.2]
    · rw [hout fun k hk => hf k (List.mem_cons_of_mem _ hk), (hf g List.mem_cons_self).2.1]

/-- Merging works on each field by itself. -/
theorem get_mergeFrom {f : Field F M} (hf : f ∈ S.fields) (x m : M) :
    f.get (S.mergeFrom x m) = f.codec.merge (f.get x) (f.get m) := by
  unfold mergeFrom
  rw [S.get_withKept f hf]
  exact (get_foldl (fun f v => f.codec.merge v (f.get m)) S.apart f x).1 hf

theorem kept_mergeFrom (x m : M) : S.kept (S.mergeFrom x m) = S.kept x ++ S.kept m :=
  S.kept_withKept ..

theorem empty_mergeFrom (m : M) : S.mergeFrom S.empty m = m := by
  refine S.ext _ _ (fun f hf => ?_) ?_
  · rw [get_mergeFrom hf, S.get_empty f hf, f.codec.empty_merge]
  · rw [kept_mergeFrom, S.kept_empty, List.nil_append]

theorem mergeFrom_empty (m : M) : S.mergeFrom m S.empty = m := by
  refine S.ext _ _ (fun f hf => ?_) ?_
  · rw [get_mergeFrom hf, S.get_empty f hf, f.codec.merge_empty]
  · rw [kept_mergeFrom, S.kept_empty, List.append_nil]

theorem mergeFrom_assoc (l m n : M) :
    S.mergeFrom (S.mergeFrom l m) n = S.mergeFrom l (S.mergeFrom m n) := by
  refine S.ext _ _ (fun f hf => ?_) ?_
  · rw [get_mergeFrom hf, get_mergeFrom hf, get_mergeFrom hf, get_mergeFrom hf,
      f.codec.merge_assoc]
  · rw [kept_mergeFrom, kept_mergeFrom, kept_mergeFrom, kept_mergeFrom, List.append_assoc]

theorem depth_le_of_mem {f : Field F M} (hf : f ∈ S.fields) : f.codec.depth ≤ S.depth := by
  unfold depth
  generalize S.fields = fields at hf
  induction fields with
  | nil => cases hf
  | cons g fields ih =>
    rw [List.map_cons, List.foldr_cons]
    rcases List.mem_cons.mp hf with rfl | hf
    · exact Nat.le_max_left ..
    · exact Nat.le_trans (ih hf) (Nat.le_max_right ..)

theorem valid_iff {m : M} : S.valid m = true ↔ ∀ f ∈ S.fields, f.codec.valid (f.get m) = true :=
  List.all_eq_true

theorem valid_empty : S.valid S.empty = true := by
  refine valid_iff.mpr fun f hf => ?_
  rw [S.get_empty f hf]
  exact f.codec.valid_empty

theorem sound_of_kept_nil {m : M} (hfields : ∀ f ∈ S.fields, f.codec.Sound d (f.get m))
    (hkept : S.kept m = []) : S.Sound d m := by
  refine ⟨hfields, fun k hk => ?_⟩
  rw [hkept] at hk
  cases hk

theorem sound_empty : S.Sound d S.empty := by
  refine sound_of_kept_nil (fun f hf => ?_) S.kept_empty
  rw [S.get_empty f hf]
  exact f.codec.sound_empty d

/-- Fields are told apart by their tags. -/
theorem apart_of_tag_ne {f g : Field F M} (hf : f ∈ S.fields) (hg : g ∈ S.fields)
    (hne : f.tag ≠ g.tag) : f.Apart g := by
  refine S.apart.forall hf hg ?_
  rintro rfl
  exact hne rfl

theorem eq_of_tag_eq {f g : Field F M} (hf : f ∈ S.fields) (hg : g ∈ S.fields)
    (h : f.tag = g.tag) : f = g := by
  by_contra hne
  exact (S.apart.forall hf hg hne).1 h

/-- The records of a message that is not too long. -/
theorem splits_serialize {m : M} (hsound : S.Sound d m) (hm : S.byteSize m ≤ F.maxLength) :
    F.Splits d (S.serialize m) (S.records m) := by
  rw [serialize_eq]
  refine Format.splits_flatMap fun r hr => ?_
  have hlen := Nat.le_trans (length_le_of_mem_records hr) hm
  rcases List.mem_append.mp hr with hr | hr
  · obtain ⟨f, hf, hr⟩ := List.mem_flatMap.mp hr
    obtain ⟨b, hb, rfl⟩ := List.mem_map.mp hr
    exact f.codec.skip_write f.fits b hb hlen
  · obtain ⟨k, hk, rfl⟩ := List.mem_map.mp hr
    exact Format.whole_skip.mpr ⟨k, (hsound.kept k hk).2⟩

/-- What reading a body keeps, reading all of them keeps. -/
theorem readAll_invariant {V : Type} {P : V → Prop} {read : V → Reader α V}
    (hread : ∀ {v p w r}, P v → read v p = some (w, r) → P w) {v w : V} {bs : List (List α)}
    (hv : P v) (h : readAll read v bs = some w) : P w := by
  induction bs generalizing v with
  | nil =>
    obtain rfl := Option.some.inj h
    exact hv
  | cons b bs ih =>
    rw [readAll_cons] at h
    obtain ⟨u, hu, h⟩ := Option.bind_eq_some_iff.mp h
    exact ih (hread hv (Reader.whole_eq_some.mp hu)) h

end Schema

/-! ## Parsing -/

variable [DecidableEq Tag]

/-- The bodies of the records with a tag. -/
def bodies (tag : Tag) (rs : List (Tag × List α)) : List (List α) :=
  rs.filterMap fun r => if r.1 = tag then some r.2 else none

theorem bodies_append (tag : Tag) (rs rs' : List (Tag × List α)) :
    bodies tag (rs ++ rs') = bodies tag rs ++ bodies tag rs' := List.filterMap_append

theorem bodies_cons (tag : Tag) (r : Tag × List α) (rs : List (Tag × List α)) :
    bodies tag (r :: rs) = (if r.1 = tag then [r.2] else []) ++ bodies tag rs := by
  unfold bodies
  rw [List.filterMap_cons]
  split
  · rename_i h
    split at h
    · cases h
    · rename_i hne
      rw [if_neg hne]
      rfl
  · rename_i b h
    split at h
    · rename_i heq
      obtain rfl := Option.some.inj h
      rw [if_pos heq]
      rfl
    · cases h

theorem bodies_singleton (tag tag' : Tag) (b : List α) :
    bodies tag [(tag', b)] = if tag' = tag then [b] else [] := by
  rw [bodies_cons]
  exact List.append_nil _

theorem bodies_map (tag tag' : Tag) (bs : List (List α)) :
    bodies tag (bs.map (tag', ·)) = if tag' = tag then bs else [] := by
  induction bs with
  | nil => simp [bodies]
  | cons b bs ih =>
    rw [List.map_cons, bodies_cons, ih]
    split <;> rfl

namespace Schema
variable {F : Format α Tag Kept} {M : Type} (S : Schema F M)

/-- The field with a tag. -/
def find? (tag : Tag) : Option (Field F M) := S.fields.find? (·.tag = tag)

/-- What is behind a tag: a value of its field, or kept. -/
def parseField (d : Nat) (tag : Tag) (x : M) : Reader α M :=
  match S.find? tag with
  | some f => (f.codec.read d (f.get x)).map (f.set x)
  | none => (F.keep d tag).map fun k => S.withKept x (S.kept x ++ [k])

/-- One record after the other, to the end. -/
def parseLoop (d : Nat) : Nat → M → List α → Option M
  | _, x, [] => some x
  | 0, _, _ :: _ => none
  | fuel + 1, x, a :: p => do
    let (tag, q) ← F.readTag (a :: p)
    let (x, r) ← S.parseField d tag x q
    parseLoop d fuel x r

/-- Parses into a message; each record consumes something. -/
def parse (d : Nat) (x : M) (p : List α) : Option M := S.parseLoop d p.length x p

/-- What is kept of records: of those of no field. -/
def keptOf (d : Nat) (rs : List (Tag × List α)) : List Kept :=
  rs.filterMap fun r => if (S.find? r.1).isSome then none else (F.keep d r.1).whole r.2

/-- Each field gets from one message to the other through the bodies of its records, and the
others are kept. -/
structure Folds (d : Nat) (rs : List (Tag × List α)) (x y : M) : Prop where
  fields : ∀ f ∈ S.fields,
    readAll (f.codec.read d) (f.get x) (bodies f.tag rs) = some (f.get y)
  kept : S.kept y = S.kept x ++ S.keptOf d rs

variable {S} {d : Nat}

theorem parseLoop_nil (fuel : Nat) (x : M) : S.parseLoop d fuel x [] = some x := by
  cases fuel <;> rfl

theorem find?_eq_some {tag : Tag} {f : Field F M} (h : S.find? tag = some f) :
    f ∈ S.fields ∧ f.tag = tag :=
  ⟨List.mem_of_find?_eq_some h, by simpa using List.find?_some h⟩

theorem find?_eq_none {tag : Tag} (h : S.find? tag = none) : ∀ f ∈ S.fields, f.tag ≠ tag := by
  intro f hf
  simpa using List.find?_eq_none.mp h f hf

theorem find?_of_tag {tag : Tag} {f : Field F M} (hf : f ∈ S.fields) (htag : f.tag = tag) :
    S.find? tag = some f := by
  cases hfind : S.find? tag with
  | none => exact absurd htag (find?_eq_none hfind f hf)
  | some g =>
    obtain ⟨hg, hgtag⟩ := find?_eq_some hfind
    rw [eq_of_tag_eq hg hf (hgtag.trans htag.symm)]

theorem keptOf_append (rs rs' : List (Tag × List α)) :
    S.keptOf d (rs ++ rs') = S.keptOf d rs ++ S.keptOf d rs' := List.filterMap_append

theorem keptOf_known {tag : Tag} {f : Field F M} (h : S.find? tag = some f) (body : List α) :
    S.keptOf d [(tag, body)] = [] := by
  unfold keptOf
  rw [List.filterMap_cons_none (by rw [h]; rfl), List.filterMap_nil]

theorem keptOf_unknown {tag : Tag} {body : List α} {k : Kept} (h : S.find? tag = none)
    (hk : (F.keep d tag).whole body = some k) : S.keptOf d [(tag, body)] = [k] := by
  unfold keptOf
  rw [List.filterMap_cons_some (by rw [h]; exact hk), List.filterMap_nil]

/-- **One record.**  It ends where `skip` stops, and it is for its own field only. -/
theorem parseField_eq_some {tag : Tag} {x y : M} {q r : List α} :
    S.parseField d tag x q = some (y, r) ↔ ∃ body, q = body ++ r ∧
      (F.skip d tag).whole body = some () ∧ S.Folds d [(tag, body)] x y := by
  unfold parseField
  cases hfind : S.find? tag with
  | none =>
    have hother : ∀ f ∈ S.fields, ∀ body : List α, bodies f.tag [(tag, body)] = [] := by
      intro f hf body
      rw [bodies_singleton, if_neg (find?_eq_none hfind f hf).symm]
    constructor
    · intro h
      obtain ⟨k, hkeep, rfl⟩ := Reader.map_eq_some.mp h
      obtain ⟨body, rfl, hbody⟩ := (F.local_keep d tag).exists_whole hkeep
      refine ⟨body, rfl, Format.whole_skip.mpr ⟨k, hbody⟩, fun f hf => ?_, ?_⟩
      · rw [hother f hf, S.get_withKept f hf]
        rfl
      · rw [S.kept_withKept, keptOf_unknown hfind hbody]
    · rintro ⟨body, rfl, hbody, hfolds, hkept⟩
      obtain ⟨k, hk⟩ := Format.whole_skip.mp hbody
      refine Reader.map_eq_some.mpr ⟨k, (F.local_keep d tag).of_whole hk r, ?_⟩
      refine S.ext _ y (fun f hf => ?_) ?_
      · have hf' := hfolds f hf
        rw [hother f hf] at hf'
        rw [S.get_withKept f hf]
        exact Option.some.inj hf'
      · rw [S.kept_withKept, hkept, keptOf_unknown hfind hk]
  | some f =>
    obtain ⟨hf, rfl⟩ := find?_eq_some hfind
    have hown : ∀ body, readAll (f.codec.read d) (f.get x) (bodies f.tag [(f.tag, body)]) =
        (f.codec.read d (f.get x)).whole body := by
      intro body
      rw [bodies_singleton, if_pos rfl, readAll_cons]
      exact Option.bind_fun_some _
    constructor
    · intro h
      obtain ⟨v, hread, rfl⟩ := Reader.map_eq_some.mp h
      obtain ⟨body, rfl, hbody⟩ := (f.codec.local_read d _).exists_whole hread
      have hskip := f.codec.skip_of_read f.fits (Reader.whole_eq_some.mp hbody)
      refine ⟨body, rfl, Reader.whole_eq_some.mpr hskip, fun g hg => ?_, ?_⟩
      · by_cases hne : f.tag = g.tag
        · obtain rfl := eq_of_tag_eq hf hg hne
          rw [hown, f.get_set]
          exact hbody
        · rw [bodies_singleton, if_neg hne, (apart_of_tag_ne hf hg hne).2.2]
          rfl
      · rw [S.kept_set f hf, keptOf_known hfind, List.append_nil]
    · rintro ⟨body, rfl, -, hfolds, hkept⟩
      have hf' := hfolds f hf
      rw [hown] at hf'
      refine Reader.map_eq_some.mpr ⟨f.get y, (f.codec.local_read d _).of_whole hf' r, ?_⟩
      refine S.ext _ _ (fun g hg => ?_) ?_
      · by_cases hne : f.tag = g.tag
        · obtain rfl := eq_of_tag_eq hf hg hne
          exact f.get_set ..
        · have hg' := hfolds g hg
          rw [bodies_singleton, if_neg hne] at hg'
          rw [(apart_of_tag_ne hf hg hne).2.2]
          exact Option.some.inj hg'
      · rw [S.kept_set f hf, hkept, keptOf_known hfind, List.append_nil]

theorem Folds.refl (x : M) : S.Folds d [] x x := ⟨fun _ _ => rfl, (List.append_nil _).symm⟩

theorem Folds.eq {x y : M} (h : S.Folds d [] x y) : x = y :=
  S.ext x y (fun f hf => Option.some.inj (h.fields f hf)) (h.kept.trans (List.append_nil _)).symm

theorem Folds.append {rs rs' : List (Tag × List α)} {x y z : M} (h : S.Folds d rs x y)
    (h' : S.Folds d rs' y z) : S.Folds d (rs ++ rs') x z := by
  refine ⟨fun f hf => ?_, ?_⟩
  · rw [bodies_append, readAll_append, h.fields f hf]
    exact h'.fields f hf
  · rw [h'.kept, h.kept, keptOf_append, List.append_assoc]

/-- What one record leaves is there before the next one. -/
theorem Folds.exists_of_cons {tag : Tag} {body : List α} {rs : List (Tag × List α)} {x z : M}
    (h : S.Folds d ((tag, body) :: rs) x z) :
    ∃ y, S.Folds d [(tag, body)] x y ∧ S.Folds d rs y z := by
  have hcons : ∀ f : Field F M, bodies f.tag ((tag, body) :: rs) =
      bodies f.tag [(tag, body)] ++ bodies f.tag rs := fun f => bodies_append f.tag [_] rs
  have hkept : S.kept z = S.kept x ++ (S.keptOf d [(tag, body)] ++ S.keptOf d rs) :=
    h.kept.trans (congrArg _ (keptOf_append [_] rs))
  cases hfind : S.find? tag with
  | none =>
    have hother : ∀ f ∈ S.fields, bodies f.tag [(tag, body)] = [] := by
      intro f hf
      rw [bodies_singleton, if_neg (find?_eq_none hfind f hf).symm]
    refine ⟨S.withKept x (S.kept x ++ S.keptOf d [(tag, body)]), ⟨fun f hf => ?_, ?_⟩,
      ⟨fun f hf => ?_, ?_⟩⟩
    · rw [hother f hf, S.get_withKept f hf]
      rfl
    · exact S.kept_withKept ..
    · have hf' := h.fields f hf
      rw [hcons, hother f hf] at hf'
      rw [S.get_withKept f hf]
      exact hf'
    · rw [S.kept_withKept, hkept, List.append_assoc]
  | some f =>
    obtain ⟨hf, rfl⟩ := find?_eq_some hfind
    have hf' := h.fields f hf
    rw [hcons, readAll_append] at hf'
    obtain ⟨v, hv, hrest⟩ := Option.bind_eq_some_iff.mp hf'
    refine ⟨f.set x v, ⟨fun g hg => ?_, ?_⟩, ⟨fun g hg => ?_, ?_⟩⟩
    · by_cases hne : f.tag = g.tag
      · obtain rfl := eq_of_tag_eq hf hg hne
        rw [hv, f.get_set]
      · rw [bodies_singleton, if_neg hne, (apart_of_tag_ne hf hg hne).2.2]
        rfl
    · rw [S.kept_set f hf, keptOf_known hfind, List.append_nil]
    · by_cases hne : f.tag = g.tag
      · obtain rfl := eq_of_tag_eq hf hg hne
        rw [f.get_set]
        exact hrest
      · have hg' := h.fields g hg
        rw [hcons, bodies_singleton, if_neg hne] at hg'
        rw [(apart_of_tag_ne hf hg hne).2.2]
        exact hg'
    · rw [S.kept_set f hf, hkept, keptOf_known hfind, List.nil_append]

theorem parseLoop_eq_some {fuel : Nat} {x y : M} {p : List α}
    (h : S.parseLoop d fuel x p = some y) : ∃ rs, F.Splits d p rs ∧ S.Folds d rs x y := by
  induction fuel generalizing x p with
  | zero =>
    cases p with
    | nil =>
      obtain rfl := Option.some.inj h
      exact ⟨[], .nil, .refl x⟩
    | cons a p => cases h
  | succ fuel ih =>
    cases p with
    | nil =>
      obtain rfl := Option.some.inj h
      exact ⟨[], .nil, .refl x⟩
    | cons a p =>
      obtain ⟨⟨tag, q⟩, htag, hbind⟩ := Option.bind_eq_some_iff.mp h
      obtain ⟨⟨x', r⟩, hfield, hloop⟩ := Option.bind_eq_some_iff.mp hbind
      obtain ⟨body, rfl, hbody, hfirst⟩ := parseField_eq_some.mp hfield
      obtain ⟨rs, hrs, hrest⟩ := ih hloop
      exact ⟨(tag, body) :: rs, .cons htag hbody hrs, hfirst.append hrest⟩

theorem parseLoop_of_splits {fuel : Nat} {x y : M} {p : List α} {rs : List (Tag × List α)}
    (hrs : F.Splits d p rs) (hfuel : p.length ≤ fuel) (h : S.Folds d rs x y) :
    S.parseLoop d fuel x p = some y := by
  induction hrs generalizing fuel x with
  | nil =>
    rw [h.eq]
    exact parseLoop_nil fuel _
  | @cons p body r tag rs htag hbody _ ih =>
    have hconsumes := F.consumes_readTag htag
    cases p with
    | nil => exact absurd hconsumes (Nat.not_lt_zero _)
    | cons a p =>
      cases fuel with
      | zero => exact absurd hfuel (Nat.not_succ_le_zero _)
      | succ fuel =>
        obtain ⟨x', hfirst, hrest⟩ := h.exists_of_cons
        have hfield : S.parseField d tag x (body ++ r) = some (x', r) :=
          parseField_eq_some.mpr ⟨body, rfl, hbody, hfirst⟩
        have hlen : r.length ≤ fuel := by
          rw [List.length_append] at hconsumes
          simp only [List.length_cons] at hconsumes hfuel
          omega
        show (F.readTag (a :: p) >>= _) = _
        rw [htag]
        show (S.parseField d tag x (body ++ r) >>= _) = _
        rw [hfield]
        exact ih hlen hrest

/-- **What a message parses to**: each field what the bodies of its records make of it. -/
theorem parse_iff {x y : M} {p : List α} :
    S.parse d x p = some y ↔ ∃ rs, F.Splits d p rs ∧ S.Folds d rs x y := by
  constructor
  · exact parseLoop_eq_some
  · rintro ⟨rs, hrs, hfolds⟩
    exact parseLoop_of_splits hrs (Nat.le_refl _) hfolds

/-- Records in another order make no difference, if those of no field come in the same. -/
theorem parse_congr {x : M} {p p' : List α} {rs rs' : List (Tag × List α)}
    (hrs : F.Splits d p rs) (hrs' : F.Splits d p' rs')
    (h : ∀ f ∈ S.fields, bodies f.tag rs = bodies f.tag rs')
    (hkept : S.keptOf d rs = S.keptOf d rs') : S.parse d x p = S.parse d x p' := by
  have hfolds : ∀ y, S.Folds d rs x y ↔ S.Folds d rs' x y := by
    refine fun y => ⟨fun hy => ⟨fun f hf => ?_, ?_⟩, fun hy => ⟨fun f hf => ?_, ?_⟩⟩
    · rw [← h f hf]
      exact hy.fields f hf
    · rw [← hkept]
      exact hy.kept
    · rw [h f hf]
      exact hy.fields f hf
    · rw [hkept]
      exact hy.kept
  refine Option.ext fun y => ?_
  constructor
  · intro hp
    obtain ⟨rs₁, hrs₁, hy⟩ := parse_iff.mp hp
    obtain rfl := hrs.unique hrs₁
    exact parse_iff.mpr ⟨rs', hrs', (hfolds y).mp hy⟩
  · intro hp
    obtain ⟨rs₁, hrs₁, hy⟩ := parse_iff.mp hp
    obtain rfl := hrs'.unique hrs₁
    exact parse_iff.mpr ⟨rs, hrs, (hfolds y).mpr hy⟩

/-- Records of no field make no difference to the fields. -/
theorem parse_congr_fields {x : M} {p p' : List α} {rs rs' : List (Tag × List α)}
    (hrs : F.Splits d p rs) (hrs' : F.Splits d p' rs')
    (h : ∀ f ∈ S.fields, bodies f.tag rs = bodies f.tag rs') :
    (S.parse d x p).map (S.withKept · []) = (S.parse d x p').map (S.withKept · []) := by
  -- one half, for both directions
  have hhalf : ∀ {p p' : List α} {rs rs' : List (Tag × List α)}, F.Splits d p rs →
      F.Splits d p' rs' → (∀ f ∈ S.fields, bodies f.tag rs = bodies f.tag rs') →
      ∀ z, (S.parse d x p).map (S.withKept · []) = some z →
        (S.parse d x p').map (S.withKept · []) = some z := by
    intro p p' rs rs' hrs hrs' h z hz
    obtain ⟨y, hy, rfl⟩ := Option.map_eq_some_iff.mp hz
    obtain ⟨rs₁, hrs₁, hfolds⟩ := parse_iff.mp hy
    obtain rfl := hrs.unique hrs₁
    have hparse : S.parse d x p' = some (S.withKept y (S.kept x ++ S.keptOf d rs')) := by
      refine parse_iff.mpr ⟨rs', hrs', fun f hf => ?_, S.kept_withKept ..⟩
      rw [← h f hf, S.get_withKept f hf]
      exact hfolds.fields f hf
    rw [hparse, Option.map_some]
    refine congrArg some (S.ext _ _ (fun f hf => ?_) ?_)
    · rw [S.get_withKept f hf, S.get_withKept f hf, S.get_withKept f hf]
    · rw [S.kept_withKept, S.kept_withKept]
  exact Option.ext fun z =>
    ⟨hhalf hrs hrs' h z, hhalf hrs' hrs (fun f hf => (h f hf).symm) z⟩

/-- Behind a message, parsing goes on with it. -/
theorem parse_append {x y : M} {p : List α} (h : S.parse d x p = some y) (q : List α) :
    S.parse d x (p ++ q) = S.parse d y q := by
  obtain ⟨rs, hrs, hfolds⟩ := parse_iff.mp h
  refine Option.ext fun z => ?_
  constructor
  · intro hz
    obtain ⟨all, hall, hz⟩ := parse_iff.mp hz
    obtain ⟨rs', rfl, hrs'⟩ := hrs.append_iff.mp hall
    refine parse_iff.mpr ⟨rs', hrs', fun f hf => ?_, ?_⟩
    · have hf' := hz.fields f hf
      rw [bodies_append, readAll_append, hfolds.fields f hf] at hf'
      exact hf'
    · rw [hz.kept, hfolds.kept, keptOf_append, List.append_assoc]
  · intro hz
    obtain ⟨rs', hrs', hz⟩ := parse_iff.mp hz
    exact parse_iff.mpr ⟨rs ++ rs', hrs.append_iff.mpr ⟨rs', rfl, hrs'⟩, hfolds.append hz⟩

/-! ## Reading back -/

private theorem bodies_records_other {m : M} {tag : Tag} {fields : List (Field F M)}
    (h : ∀ g ∈ fields, g.tag ≠ tag) :
    bodies tag (fields.flatMap fun g => (g.codec.write (g.get m)).map (g.tag, ·)) = [] := by
  induction fields with
  | nil => rfl
  | cons g fields ih =>
    rw [List.flatMap_cons, bodies_append, bodies_map, if_neg (h g List.mem_cons_self),
      ih fun g hg => h g (List.mem_cons_of_mem _ hg)]
    rfl

private theorem bodies_records_own {m : M} {f : Field F M} {fields : List (Field F M)}
    (hf : f ∈ fields) (h : fields.Pairwise Field.Apart) :
    bodies f.tag (fields.flatMap fun g => (g.codec.write (g.get m)).map (g.tag, ·)) =
      f.codec.write (f.get m) := by
  induction fields with
  | nil => cases hf
  | cons g fields ih =>
    obtain ⟨hg, hfields⟩ := List.pairwise_cons.mp h
    rw [List.flatMap_cons, bodies_append, bodies_map]
    rcases List.mem_cons.mp hf with rfl | hf
    · rw [if_pos rfl, bodies_records_other fun g hmem => (hg g hmem).1.symm, List.append_nil]
    · rw [if_neg (hg f hf).1, ih hf hfields]
      rfl

theorem bodies_records {m : M} (hm : S.Sound d m) {f : Field F M} (hf : f ∈ S.fields) :
    bodies f.tag (S.records m) = f.codec.write (f.get m) := by
  have hkept : bodies f.tag ((S.kept m).map fun k => (F.keptTag k, F.keptBody k)) = [] := by
    refine List.filterMap_eq_nil_iff.mpr fun r hr => ?_
    obtain ⟨k, hk, rfl⟩ := List.mem_map.mp hr
    exact if_neg ((hm.kept k hk).1 f hf).symm
  unfold records
  rw [bodies_append, bodies_records_own hf S.apart, hkept, List.append_nil]

theorem keptOf_records {m : M} (hm : S.Sound d m) : S.keptOf d (S.records m) = S.kept m := by
  have hknown : S.keptOf d
      (S.fields.flatMap fun f => (f.codec.write (f.get m)).map (f.tag, ·)) = [] := by
    refine List.filterMap_eq_nil_iff.mpr fun r hr => ?_
    obtain ⟨f, hf, hr⟩ := List.mem_flatMap.mp hr
    obtain ⟨b, -, rfl⟩ := List.mem_map.mp hr
    rw [find?_of_tag hf rfl]
    rfl
  have hkept : ∀ ks : List Kept, (∀ k ∈ ks, S.Keeps d k) →
      S.keptOf d (ks.map fun k => (F.keptTag k, F.keptBody k)) = ks := by
    intro ks
    induction ks with
    | nil => exact fun _ => rfl
    | cons k ks ih =>
      intro hks
      obtain ⟨htag, hk⟩ := hks k List.mem_cons_self
      have hfind : S.find? (F.keptTag k) = none :=
        List.find?_eq_none.mpr fun f hf => by simpa using htag f hf
      have happend := keptOf_append (S := S) (d := d) [(F.keptTag k, F.keptBody k)]
        (ks.map fun k => (F.keptTag k, F.keptBody k))
      rw [keptOf_unknown hfind hk, ih fun k hk => hks k (List.mem_cons_of_mem _ hk)] at happend
      exact happend
  unfold records
  rw [keptOf_append, hknown, List.nil_append, hkept _ hm.kept]

/-- **A message that is parsed into another is merged into it**, if it can be read back. -/
theorem parse_serialize (x : M) {m : M} (hd : S.depth ≤ d) (hsound : S.Sound d m)
    (hm : S.byteSize m ≤ F.maxLength) :
    S.parse d x (S.serialize m) = if S.valid m then some (S.mergeFrom x m) else none := by
  have hsplits := splits_serialize hsound hm
  have hfield : ∀ f ∈ S.fields, readAll (f.codec.read d) (f.get x) (bodies f.tag (S.records m)) =
      if f.codec.valid (f.get m) then some (f.codec.merge (f.get x) (f.get m)) else none := by
    intro f hf
    rw [bodies_records hsound hf]
    refine f.codec.readAll_write _ (Nat.le_trans (depth_le_of_mem hf) hd) (hsound.fields f hf)
      fun b hb => ?_
    exact Nat.le_trans (length_le_of_mem_records (mem_records hf hb)) hm
  cases hvalid : S.valid m with
  | true =>
    rw [if_pos rfl]
    refine parse_iff.mpr ⟨S.records m, hsplits, fun f hf => ?_, ?_⟩
    · rw [hfield f hf, if_pos (List.all_eq_true.mp hvalid f hf), get_mergeFrom hf]
    · rw [kept_mergeFrom, keptOf_records hsound]
  | false =>
    rw [if_neg Bool.false_ne_true]
    refine Option.eq_none_iff_forall_not_mem.mpr fun y hy => ?_
    obtain ⟨f, hf, hfalse⟩ := List.all_eq_false.mp hvalid
    obtain ⟨rs, hrs, hfolds⟩ := parse_iff.mp hy
    have hf' := hfolds.fields f hf
    rw [hrs.unique hsplits, hfield f hf, if_neg hfalse] at hf'
    cases hf'

/-- **What was parsed can be read back.** -/
theorem valid_of_parse {x y : M} {p : List α} (hx : S.valid x = true)
    (h : S.parse d x p = some y) : S.valid y = true := by
  obtain ⟨rs, -, hfolds⟩ := parse_iff.mp h
  exact valid_iff.mpr fun f hf =>
    readAll_invariant f.codec.valid_of_read (valid_iff.mp hx f hf) (hfolds.fields f hf)

/-- **What was kept can be read back.** -/
theorem sound_of_parse {x y : M} {p : List α} (hx : S.Sound d x)
    (h : S.parse d x p = some y) : S.Sound d y := by
  obtain ⟨rs, -, hfolds⟩ := parse_iff.mp h
  refine ⟨fun f hf => readAll_invariant f.codec.sound_of_read (hx.fields f hf)
    (hfolds.fields f hf), fun k hk => ?_⟩
  rw [hfolds.kept] at hk
  rcases List.mem_append.mp hk with hk | hk
  · exact hx.kept k hk
  obtain ⟨⟨tag, body⟩, -, hbody⟩ := List.mem_filterMap.mp hk
  split at hbody
  · cases hbody
  rename_i hfind
  have hfind : S.find? tag = none := by simpa using hfind
  have hkeep := Reader.whole_eq_some.mp hbody
  have htag := F.keptTag_of_keep hkeep
  unfold Keeps
  rw [htag]
  exact ⟨find?_eq_none hfind, F.whole_keptBody hkeep⟩

end Schema
end Tagged
