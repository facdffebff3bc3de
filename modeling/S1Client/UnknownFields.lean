import S1Client.WireFormat

/-!
# Fields that are not known

What `FieldParser` accepts, as a grammar: a number, a fixed number of bytes, a length
and as many bytes, or a group of such fields up to its own end tag.  The parser accepts
exactly the words of the grammar whose groups nest no deeper than the limit
(`unknownFieldParse_iff`); so where a field ends depends on the field alone.  What it
adds to the `UnknownFieldSet` is a word of the grammar again when it is written
(`ParsesTo.serialize`).
-/
namespace S1Client.WireFormat

/-- A field as it stands in the input: the bytes of its tag, the tag and its body; with the
field of an `UnknownFieldSet` it is. -/
structure RawField where
  tagBytes : List UInt8
  tag : UInt32
  body : List UInt8
  value : UnknownField

/-- The bytes of fields one after the other. -/
def RawField.flatten (fields : List RawField) : List UInt8 :=
  fields.flatMap fun f => f.tagBytes ++ f.body

/-- The bodies that may stand behind a tag, and what they are; groups nest `depth` deep at
most. -/
inductive ParsesTo : (depth : Nat) → UInt32 → List UInt8 → UnknownField → Prop
  | varint {depth : Nat} {tag : UInt32} {value : UInt64} {body : List UInt8}
      (hnumber : tag >>> 3 ≠ 0) (htype : tag &&& 7 = 0)
      (hbody : varintParse.whole body = some value) :
      ParsesTo depth tag body (.varint (tag >>> 3) value)
  | fixed64 {depth : Nat} {tag : UInt32} {body : List UInt8} (hnumber : tag >>> 3 ≠ 0)
      (htype : tag &&& 7 = 1) (hbody : body.length = 8) :
      ParsesTo depth tag body (.fixed64 (tag >>> 3) (.ofNat (fromLe body)))
  | lengthDelimited {depth : Nat} {tag : UInt32} {value body : List UInt8}
      (hnumber : tag >>> 3 ≠ 0) (htype : tag &&& 7 = 2)
      (hbody : (readSize.andThen Reader.taking).whole body = some value) :
      ParsesTo depth tag body (.lengthDelimited (tag >>> 3) value)
  | group {depth : Nat} {tag : UInt32} {endTag : List UInt8} {fields : List RawField}
      (hnumber : tag >>> 3 ≠ 0) (htype : tag &&& 7 = 3)
      (htags : ∀ f ∈ fields, readTag.whole f.tagBytes = some f.tag)
      (hbodies : ∀ f ∈ fields, ParsesTo depth f.tag f.body f.value)
      (hend : readTag.whole endTag = some (tag + 1)) :
      ParsesTo (depth + 1) tag (RawField.flatten fields ++ endTag)
        (.group (tag >>> 3) (fields.map RawField.value))
  | fixed32 {depth : Nat} {tag : UInt32} {body : List UInt8} (hnumber : tag >>> 3 ≠ 0)
      (htype : tag &&& 7 = 5) (hbody : body.length = 4) :
      ParsesTo depth tag body (.fixed32 (tag >>> 3) (.ofNat (fromLe body)))

theorem ParsesTo.isEnd_eq_false {depth : Nat} {tag : UInt32} {body : List UInt8}
    {value : UnknownField} (h : ParsesTo depth tag body value) : isEnd tag = false := by
  have hzero : tag >>> 3 ≠ 0 → tag ≠ 0 := by
    rintro hne rfl
    exact hne rfl
  unfold isEnd
  rw [Bool.or_eq_false_iff, decide_eq_false_iff_not, decide_eq_false_iff_not]
  cases h with
  | varint hnumber htype _ => exact ⟨hzero hnumber, by rw [htype]; decide⟩
  | fixed64 hnumber htype _ => exact ⟨hzero hnumber, by rw [htype]; decide⟩
  | lengthDelimited hnumber htype _ => exact ⟨hzero hnumber, by rw [htype]; decide⟩
  | group hnumber htype _ _ _ => exact ⟨hzero hnumber, by rw [htype]; decide⟩
  | fixed32 hnumber htype _ => exact ⟨hzero hnumber, by rw [htype]; decide⟩

/-- The tag behind the start of a group is that of its end. -/
theorem add_one_and_seven {tag : UInt32} (h : tag &&& 7 = 3) : (tag + 1) &&& 7 = 4 := by
  have htag : tag.toNat % 8 = 3 := by
    rw [← toNat_and_seven, h]
    rfl
  have hlt := tag.toNat_lt
  apply UInt32.toNat_inj.mp
  rw [toNat_and_seven, UInt32.toNat_add]
  show (tag.toNat + 1) % 2 ^ 32 % 8 = 4
  omega

theorem isEnd_add_one {tag : UInt32} (h : tag &&& 7 = 3) : isEnd (tag + 1) = true := by
  unfold isEnd
  rw [add_one_and_seven h]
  exact Bool.or_true _

/-! ## What is accepted is in the grammar -/

/-- What the loop of a group gets past. -/
def GroupSound (parseGroup : Nat → Reader UInt8 (UnknownFieldSet × Option UInt32)) : Prop :=
  ∀ ⦃depth p set last r⦄, parseGroup depth p = some ((set, some last), r) → ∃ fields endTag,
    p = RawField.flatten fields ++ endTag ++ r ∧ set = fields.map RawField.value ∧
      (∀ f ∈ fields, readTag.whole f.tagBytes = some f.tag) ∧
      (∀ f ∈ fields, ParsesTo depth f.tag f.body f.value) ∧ readTag.whole endTag = some last

theorem exists_parsesTo_of_fieldParser
    {parseGroup : Nat → Reader UInt8 (UnknownFieldSet × Option UInt32)}
    (hgroup : GroupSound parseGroup) {depth : Nat} {tag : UInt32} {value : UnknownField}
    {p r : List UInt8} (h : fieldParser parseGroup depth tag p = some (value, r)) :
    ∃ body, p = body ++ r ∧ ParsesTo depth tag body value := by
  have htype : ∀ n : UInt32, (tag &&& 7).toNat = n.toNat → tag &&& 7 = n :=
    fun _ => UInt32.toNat_inj.mp
  unfold fieldParser at h
  split at h
  · cases h
  rename_i hnumber
  split at h
  · rename_i hwire
    obtain ⟨value, hvalue, rfl⟩ := Reader.map_eq_some.mp h
    obtain ⟨body, rfl, hbody⟩ := local_varintParse.exists_whole hvalue
    exact ⟨body, rfl, .varint hnumber (htype 0 hwire) hbody⟩
  · rename_i hwire
    obtain ⟨body, hbody, rfl⟩ := Reader.map_eq_some.mp h
    obtain ⟨rfl, hlen⟩ := Reader.taking_eq_some.mp hbody
    exact ⟨body, rfl, .fixed64 hnumber (htype 1 hwire) hlen⟩
  · rename_i hwire
    obtain ⟨value, hvalue, rfl⟩ := Reader.map_eq_some.mp h
    obtain ⟨body, rfl, hbody⟩ :=
      (local_readSize.andThen Reader.local_taking).exists_whole hvalue
    exact ⟨body, rfl, .lengthDelimited hnumber (htype 2 hwire) hbody⟩
  · rename_i hwire
    cases depth with
    | zero => cases h
    | succ depth =>
      obtain ⟨⟨set, last⟩, hlast, hmatch⟩ := Reader.mapM_eq_some.mp h
      dsimp only at hmatch
      split at hmatch
      · rename_i heq
        rw [heq] at hlast
        obtain ⟨fields, endTag, rfl, rfl, htags, hbodies, hend⟩ := hgroup hlast
        rw [← Option.some.inj hmatch]
        exact ⟨_, rfl, .group hnumber (htype 3 hwire) htags hbodies hend⟩
      · cases hmatch
  · rename_i hwire
    obtain ⟨body, hbody, rfl⟩ := Reader.map_eq_some.mp h
    obtain ⟨rfl, hlen⟩ := Reader.taking_eq_some.mp hbody
    exact ⟨body, rfl, .fixed32 hnumber (htype 5 hwire) hlen⟩
  · cases h

theorem groupSound_wireFormatParser (fuel : Nat) : GroupSound (wireFormatParser fuel) := by
  induction fuel with
  | zero =>
    intro depth p set last r h
    cases p <;> cases h
  | succ fuel ih =>
    -- the recursion goes on behind each field
    intro depth p set last r h
    cases p with
    | nil => cases h
    | cons b p =>
      rw [wireFormatParser] at h
      obtain ⟨⟨tag, q⟩, htag, hrest⟩ := Option.bind_eq_some_iff.mp h
      obtain ⟨tagBytes, hsplit, htagBytes⟩ := local_readTag.exists_whole htag
      rw [hsplit]
      dsimp only at hrest
      split at hrest
      · obtain ⟨heq, rfl⟩ := Prod.mk.inj (Option.some.inj hrest)
        obtain ⟨rfl, hlast⟩ := Prod.mk.inj heq
        obtain rfl := Option.some.inj hlast
        exact ⟨[], tagBytes, rfl, rfl, (fun _ hf => by cases hf), (fun _ hf => by cases hf),
          htagBytes⟩
      · obtain ⟨⟨value, t⟩, hfield, hrest⟩ := Option.bind_eq_some_iff.mp hrest
        obtain ⟨⟨⟨set', last'⟩, t'⟩, hloop, hpure⟩ := Option.bind_eq_some_iff.mp hrest
        obtain ⟨heq, rfl⟩ := Prod.mk.inj (Option.some.inj hpure)
        obtain ⟨rfl, rfl⟩ := Prod.mk.inj heq
        obtain ⟨body, rfl, hbody⟩ := exists_parsesTo_of_fieldParser ih hfield
        obtain ⟨fields, endTag, rfl, rfl, htags, hbodies, hend⟩ := ih hloop
        refine ⟨⟨tagBytes, tag, body, value⟩ :: fields, endTag, ?_, rfl, ?_, ?_, hend⟩
        · simp [RawField.flatten]
        · rintro f (_ | ⟨_, hf⟩)
          · exact htagBytes
          · exact htags f hf
        · rintro f (_ | ⟨_, hf⟩)
          · exact hbody
          · exact hbodies f hf

/-! ## What is in the grammar is accepted -/

theorem readTag_pos {tagBytes : List UInt8} {tag : UInt32}
    (h : readTag.whole tagBytes = some tag) : 0 < tagBytes.length :=
  consumes_readTag (Reader.whole_eq_some.mp h)

/-- The loop gets past fields that `FieldParser` gets past. -/
theorem wireFormatParser_flatten {depth : Nat} {last : UInt32} {endTag : List UInt8}
    (hlast : isEnd last = true) (hend : readTag.whole endTag = some last)
    {fields : List RawField} (htags : ∀ f ∈ fields, readTag.whole f.tagBytes = some f.tag)
    (hnotEnd : ∀ f ∈ fields, isEnd f.tag = false)
    (hbodies : ∀ f ∈ fields, ∀ fuel q, f.body.length < fuel →
      fieldParser (wireFormatParser fuel) depth f.tag (f.body ++ q) = some (f.value, q))
    {fuel : Nat} (hfuel : (RawField.flatten fields ++ endTag).length < fuel) (q : List UInt8) :
    wireFormatParser fuel depth (RawField.flatten fields ++ endTag ++ q) =
      some ((fields.map RawField.value, some last), q) := by
  have hendPos := readTag_pos hend
  induction fields generalizing fuel with
  | nil =>
    have hread := local_readTag.of_whole hend q
    cases endTag with
    | nil => exact absurd hendPos (Nat.lt_irrefl 0)
    | cons b endTag =>
      cases fuel with
      | zero => exact absurd hfuel (Nat.not_lt_zero _)
      | succ fuel =>
        show (readTag (b :: endTag ++ q) >>= _) = _
        rw [hread]
        exact if_pos hlast
  | cons f fields ih =>
    have hread := local_readTag.of_whole (htags f List.mem_cons_self)
      (f.body ++ (RawField.flatten fields ++ endTag ++ q))
    have hpos := readTag_pos (htags f List.mem_cons_self)
    have hsplit : RawField.flatten (f :: fields) ++ endTag ++ q =
        f.tagBytes ++ (f.body ++ (RawField.flatten fields ++ endTag ++ q)) := by
      simp only [RawField.flatten, List.flatMap_cons, List.append_assoc]
    have hlen : (RawField.flatten (f :: fields) ++ endTag).length =
        f.tagBytes.length + f.body.length + (RawField.flatten fields ++ endTag).length := by
      simp only [RawField.flatten, List.flatMap_cons, List.length_append]
      omega
    rw [hsplit]
    rw [List.length_append] at hfuel
    cases htagBytes : f.tagBytes with
    | nil =>
      rw [htagBytes] at hpos
      exact absurd hpos (Nat.lt_irrefl 0)
    | cons b tagBytes =>
      cases fuel with
      | zero => exact absurd hfuel (Nat.not_lt_zero _)
      | succ fuel =>
        rw [htagBytes] at hread
        rw [List.length_append] at hlen
        show (readTag (b :: tagBytes ++ _) >>= _) = _
        rw [hread]
        show (if isEnd f.tag then _ else _) = _
        rw [if_neg (by rw [hnotEnd f List.mem_cons_self]; exact Bool.false_ne_true)]
        show (fieldParser (wireFormatParser fuel) depth f.tag _ >>= _) = _
        rw [hbodies f List.mem_cons_self fuel _ (by omega)]
        show (wireFormatParser fuel depth _ >>= _) = _
        rw [ih (fun g hg => htags g (List.mem_cons_of_mem _ hg))
          (fun g hg => hnotEnd g (List.mem_cons_of_mem _ hg))
          (fun g hg => hbodies g (List.mem_cons_of_mem _ hg)) (by omega)]
        rfl

/-- A group, one level deeper. -/
theorem fieldParser_group {tag : UInt32} (hnumber : tag >>> 3 ≠ 0) (htype : tag &&& 7 = 3)
    (parseGroup : Nat → Reader UInt8 (UnknownFieldSet × Option UInt32)) (depth : Nat) :
    fieldParser parseGroup (depth + 1) tag = (parseGroup depth).mapM fun (fields, last) =>
      if last = some (tag + 1) then some (.group (tag >>> 3) fields) else none := by
  funext p
  unfold fieldParser
  rw [if_neg hnumber, htype]
  rfl

theorem ParsesTo.fieldParser_eq {depth : Nat} {tag : UInt32} {body : List UInt8}
    {value : UnknownField} (h : ParsesTo depth tag body value) (fuel : Nat) (q : List UInt8)
    (hfuel : body.length < fuel) :
    fieldParser (wireFormatParser fuel) depth tag (body ++ q) = some (value, q) := by
  have htype : ∀ {tag n : UInt32}, tag &&& 7 = n → (tag &&& 7).toNat = n.toNat :=
    fun h => congrArg UInt32.toNat h
  induction h generalizing fuel q with
  | @varint _ tag value body hnumber hwire hbody =>
    unfold fieldParser
    rw [if_neg hnumber, htype hwire]
    exact Reader.map_eq_some.mpr ⟨value, local_varintParse.of_whole hbody q, rfl⟩
  | @fixed64 _ tag body hnumber hwire hbody =>
    unfold fieldParser
    rw [if_neg hnumber, htype hwire]
    exact Reader.map_eq_some.mpr ⟨body, Reader.taking_append hbody q, rfl⟩
  | @lengthDelimited _ tag value body hnumber hwire hbody =>
    unfold fieldParser
    rw [if_neg hnumber, htype hwire]
    exact Reader.map_eq_some.mpr
      ⟨value, (local_readSize.andThen Reader.local_taking).of_whole hbody q, rfl⟩
  | @group depth tag endTag fields hnumber hwire htags hbodies hend ih =>
    have hloop := wireFormatParser_flatten (isEnd_add_one hwire) hend htags
      (fun f hf => (hbodies f hf).isEnd_eq_false) (fun f hf fuel q => ih f hf fuel q) hfuel q
    rw [fieldParser_group hnumber hwire]
    exact Reader.mapM_eq_some.mpr ⟨_, hloop, if_pos rfl⟩
  | @fixed32 _ tag body hnumber hwire hbody =>
    unfold fieldParser
    rw [if_neg hnumber, htype hwire]
    exact Reader.map_eq_some.mpr ⟨body, Reader.taking_append hbody q, rfl⟩

/-- What is behind a tag is accepted exactly if it starts with a word of the grammar. -/
theorem unknownFieldParse_iff {depth : Nat} {tag : UInt32} {value : UnknownField}
    {p r : List UInt8} : unknownFieldParse depth tag p = some (value, r) ↔
      ∃ body, p = body ++ r ∧ ParsesTo depth tag body value := by
  unfold unknownFieldParse
  constructor
  · intro h
    split at h
    · cases h
    · exact exists_parsesTo_of_fieldParser (groupSound_wireFormatParser _) h
  · rintro ⟨body, rfl, h⟩
    rw [h.isEnd_eq_false, if_neg Bool.false_ne_true]
    refine h.fieldParser_eq _ r ?_
    rw [List.length_append]
    omega

theorem local_unknownFieldParse (depth : Nat) (tag : UInt32) :
    (unknownFieldParse depth tag).Local := by
  intro p value r h
  obtain ⟨body, hp, hbody⟩ := unknownFieldParse_iff.mp h
  exact ⟨body, hp, fun q => unknownFieldParse_iff.mpr ⟨body, rfl, hbody⟩⟩

theorem whole_unknownFieldParse {depth : Nat} {tag : UInt32} {body : List UInt8}
    {value : UnknownField} :
    (unknownFieldParse depth tag).whole body = some value ↔ ParsesTo depth tag body value := by
  rw [Reader.whole_eq_some, unknownFieldParse_iff]
  constructor
  · rintro ⟨body', hbody, h⟩
    rwa [hbody, List.append_nil]
  · intro h
    exact ⟨body, (List.append_nil body).symm, h⟩

/-! ## Writing again -/

/-- A field is written with the tag it was read with. -/
theorem ParsesTo.tag_eq {depth : Nat} {tag : UInt32} {body : List UInt8} {value : UnknownField}
    (h : ParsesTo depth tag body value) : value.tag = tag := by
  cases h with
  | varint _ htype _ => exact makeTag_eq htype
  | fixed64 _ htype _ => exact makeTag_eq htype
  | lengthDelimited _ htype _ => exact makeTag_eq htype
  | group _ htype _ _ _ => exact makeTag_eq htype
  | fixed32 _ htype _ => exact makeTag_eq htype

/-- The end of a group has the number of its start. -/
theorem makeTag_end {number : UInt32} (h : number.toNat < 2 ^ 29) :
    makeTag number 4 = makeTag number 3 + 1 := by
  apply UInt32.toNat_inj.mp
  rw [UInt32.toNat_add, toNat_makeTag h (by decide), toNat_makeTag h (by decide)]
  show number.toNat * 2 ^ 3 + 4 = (number.toNat * 2 ^ 3 + 3 + 1) % 2 ^ 32
  omega

/-- The fields that parsing may add, with groups `depth` deep at most. -/
inductive UnknownField.Proper : (depth : Nat) → UnknownField → Prop
  | varint {depth : Nat} {number : UInt32} {value : UInt64} (hnumber : IsNumber number) :
      Proper depth (.varint number value)
  | fixed32 {depth : Nat} {number value : UInt32} (hnumber : IsNumber number) :
      Proper depth (.fixed32 number value)
  | fixed64 {depth : Nat} {number : UInt32} {value : UInt64} (hnumber : IsNumber number) :
      Proper depth (.fixed64 number value)
  | lengthDelimited {depth : Nat} {number : UInt32} {value : List UInt8}
      (hnumber : IsNumber number) (hlen : value.length ≤ maxSize) :
      Proper depth (.lengthDelimited number value)
  | group {depth : Nat} {number : UInt32} {fields : UnknownFieldSet}
      (hnumber : IsNumber number) (hfields : ∀ f ∈ fields, Proper depth f) :
      Proper (depth + 1) (.group number fields)

theorem UnknownField.Proper.mono {d e : Nat} {f : UnknownField} (h : f.Proper d) (hde : d ≤ e) :
    f.Proper e := by
  induction h generalizing e with
  | varint hnumber => exact .varint hnumber
  | fixed32 hnumber => exact .fixed32 hnumber
  | fixed64 hnumber => exact .fixed64 hnumber
  | lengthDelimited hnumber hlen => exact .lengthDelimited hnumber hlen
  | group hnumber _ ih =>
    cases e with
    | zero => exact absurd hde (Nat.not_succ_le_zero _)
    | succ e => exact .group hnumber fun f hf => ih f hf (Nat.le_of_succ_le_succ hde)

theorem ParsesTo.proper {depth : Nat} {tag : UInt32} {body : List UInt8} {value : UnknownField}
    (h : ParsesTo depth tag body value) : value.Proper depth := by
  induction h with
  | varint hnumber => exact .varint (isNumber_of_tag hnumber)
  | fixed64 hnumber => exact .fixed64 (isNumber_of_tag hnumber)
  | lengthDelimited hnumber _ hbody =>
    refine .lengthDelimited (isNumber_of_tag hnumber) ?_
    obtain ⟨n, q, hsize, htaking⟩ := Reader.andThen_eq_some.mp (Reader.whole_eq_some.mp hbody)
    obtain ⟨rfl, rfl⟩ := Reader.taking_eq_some.mp htaking
    rw [readSize_eq] at hsize
    obtain ⟨m, -, hcheck⟩ := Reader.mapM_eq_some.mp hsize
    unfold checkSize at hcheck
    split at hcheck
    · rename_i hle
      rwa [← Option.some.inj hcheck]
    · cases hcheck
  | group hnumber _ _ _ _ ih =>
    refine .group (isNumber_of_tag hnumber) fun g hg => ?_
    obtain ⟨f, hf, rfl⟩ := List.mem_map.mp hg
    exact ih f hf
  | fixed32 hnumber => exact .fixed32 (isNumber_of_tag hnumber)

theorem whole_writeVarint32 (tag : UInt32) : readTag.whole (writeVarint32 tag) = some tag := by
  have hread := readTag_writeVarint32 tag []
  rw [List.append_nil] at hread
  exact Reader.whole_eq_some.mpr hread

/-- A field with the bytes it is written with. -/
def UnknownField.written (f : UnknownField) : RawField :=
  ⟨writeVarint32 f.tag, f.tag, f.serialize, f⟩

theorem whole_tag_written (set : UnknownFieldSet) :
    ∀ f ∈ set.map UnknownField.written, readTag.whole f.tagBytes = some f.tag := by
  intro f hf
  obtain ⟨g, -, rfl⟩ := List.mem_map.mp hf
  exact whole_writeVarint32 g.tag

theorem map_value_written (set : UnknownFieldSet) :
    (set.map UnknownField.written).map RawField.value = set := by
  rw [List.map_map]
  exact List.map_id set

theorem internalSerializeUnknownFields_eq (set : UnknownFieldSet) :
    internalSerializeUnknownFields set = RawField.flatten (set.map UnknownField.written) := by
  induction set with
  | nil => rfl
  | cons f set ih =>
    rw [internalSerializeUnknownFields, ih]
    rfl

/-- **What is written is a word for it.** -/
theorem UnknownField.Proper.parsesTo {depth : Nat} {value : UnknownField}
    (h : value.Proper depth) : ParsesTo depth value.tag value.serialize value := by
  have hsplit : ∀ {number : UInt32} (type : UInt32), IsNumber number → type.toNat < 2 ^ 3 →
      number = makeTag number type >>> 3 ∧ makeTag number type >>> 3 ≠ 0 ∧
        makeTag number type &&& 7 = type := by
    intro number type hnumber htype
    have heq := makeTag_number hnumber.2 htype
    refine ⟨heq.symm, ?_, makeTag_type hnumber.2 htype⟩
    rw [heq]
    exact hnumber.1
  induction h with
  | @varint depth number value hnumber =>
    obtain ⟨heq, hne, htype⟩ := hsplit 0 hnumber (by decide)
    have hread := varintParse_writeVarint64 value []
    rw [List.append_nil] at hread
    have hword : ParsesTo depth _ _ _ := .varint hne htype (Reader.whole_eq_some.mpr hread)
    rwa [← heq] at hword
  | @fixed32 depth number value hnumber =>
    obtain ⟨heq, hne, htype⟩ := hsplit 5 hnumber (by decide)
    have hvalue : fromLe (toLe 4 value.toNat) = value.toNat := by
      rw [fromLe_toLe]
      exact Nat.mod_eq_of_lt value.toNat_lt
    have hword : ParsesTo depth _ _ _ := .fixed32 hne htype (length_toLe 4 value.toNat)
    rwa [← heq, hvalue, UInt32.ofNat_toNat] at hword
  | @fixed64 depth number value hnumber =>
    obtain ⟨heq, hne, htype⟩ := hsplit 1 hnumber (by decide)
    have hvalue : fromLe (toLe 8 value.toNat) = value.toNat := by
      rw [fromLe_toLe]
      exact Nat.mod_eq_of_lt value.toNat_lt
    have hword : ParsesTo depth _ _ _ := .fixed64 hne htype (length_toLe 8 value.toNat)
    rwa [← heq, hvalue, UInt64.ofNat_toNat] at hword
  | @lengthDelimited depth number value hnumber hlen =>
    obtain ⟨heq, hne, htype⟩ := hsplit 2 hnumber (by decide)
    have htake := Reader.taking_append (p := value) rfl []
    rw [List.append_nil] at htake
    have hread := Reader.andThen_eq_some.mpr ⟨_, _, readSize_writeVarint32 hlen value, htake⟩
    have hword : ParsesTo depth _ _ _ := .lengthDelimited hne htype (Reader.whole_eq_some.mpr hread)
    rwa [← heq] at hword
  | @group depth number fields hnumber _ ih =>
    obtain ⟨heq, hne, htype⟩ := hsplit 3 hnumber (by decide)
    have hbodies : ∀ f ∈ fields.map UnknownField.written,
        ParsesTo depth f.tag f.body f.value := by
      intro f hf
      obtain ⟨g, hg, rfl⟩ := List.mem_map.mp hf
      exact ih g hg
    have hword : ParsesTo (depth + 1) _ _ _ :=
      .group hne htype (whole_tag_written fields) hbodies (whole_writeVarint32 _)
    rwa [← heq, map_value_written, ← internalSerializeUnknownFields_eq,
      ← makeTag_end hnumber.2] at hword

/-- What was added reads back from what is written of it. -/
theorem ParsesTo.serialize {depth : Nat} {tag : UInt32} {body : List UInt8}
    {value : UnknownField} (h : ParsesTo depth tag body value) :
    ParsesTo depth tag value.serialize value := by
  have hword := h.proper.parsesTo
  rwa [h.tag_eq] at hword

mutual

/-- **The size computed beforehand** is the size. -/
theorem UnknownField.length_serialize : (f : UnknownField) → f.serialize.length = f.byteSize
  | .varint _ value => (varintSize64_eq value).symm
  | .fixed32 _ value => length_toLe ..
  | .fixed64 _ value => length_toLe ..
  | .lengthDelimited _ value => by
    rw [UnknownField.serialize, UnknownField.byteSize, List.length_append, varintSize32_eq]
  | .group number fields => by
    rw [UnknownField.serialize, UnknownField.byteSize, List.length_append, varintSize32_eq,
      length_internalSerializeUnknownFields]

theorem length_internalSerializeUnknownFields : (set : UnknownFieldSet) →
    (internalSerializeUnknownFields set).length = computeUnknownFieldsSize set
  | [] => rfl
  | f :: fields => by
    rw [internalSerializeUnknownFields, computeUnknownFieldsSize, List.length_append,
      List.length_append, varintSize32_eq, f.length_serialize,
      length_internalSerializeUnknownFields fields]

end

/-! ## The limit -/

mutual

/-- How deep the groups of a field nest. -/
def UnknownField.depth : UnknownField → Nat
  | .group _ fields => UnknownFieldSet.depth fields + 1
  | _ => 0

def UnknownFieldSet.depth : UnknownFieldSet → Nat
  | [] => 0
  | f :: fields => max f.depth (UnknownFieldSet.depth fields)

end

theorem UnknownFieldSet.depth_le_iff {set : UnknownFieldSet} {d : Nat} :
    UnknownFieldSet.depth set ≤ d ↔ ∀ f ∈ set, f.depth ≤ d := by
  induction set with
  | nil => exact ⟨fun _ _ hf => absurd hf List.not_mem_nil, fun _ => Nat.zero_le d⟩
  | cons f set ih =>
    rw [UnknownFieldSet.depth, Nat.max_le, ih, List.forall_mem_cons]

theorem ParsesTo.depth_le {d : Nat} {tag : UInt32} {body : List UInt8} {value : UnknownField}
    (h : ParsesTo d tag body value) : value.depth ≤ d := by
  induction h with
  | varint | fixed64 | lengthDelimited | fixed32 => exact Nat.zero_le _
  | group _ _ _ _ _ ih =>
    refine Nat.succ_le_succ (UnknownFieldSet.depth_le_iff.mpr fun g hg => ?_)
    obtain ⟨f, hf, rfl⟩ := List.mem_map.mp hg
    exact ih f hf

/-- **A limit is enough if it is no less than the depth**, whatever another one was. -/
theorem ParsesTo.of_depth_le {d e : Nat} {tag : UInt32} {body : List UInt8}
    {value : UnknownField} (h : ParsesTo e tag body value) (hd : value.depth ≤ d) :
    ParsesTo d tag body value := by
  induction h generalizing d with
  | varint hnumber htype hbody => exact .varint hnumber htype hbody
  | fixed64 hnumber htype hbody => exact .fixed64 hnumber htype hbody
  | lengthDelimited hnumber htype hbody => exact .lengthDelimited hnumber htype hbody
  | fixed32 hnumber htype hbody => exact .fixed32 hnumber htype hbody
  | group hnumber htype htags _ hend ih =>
    cases d with
    | zero => exact absurd hd (Nat.not_succ_le_zero _)
    | succ d =>
      have hfields := UnknownFieldSet.depth_le_iff.mp (Nat.le_of_succ_le_succ hd)
      exact .group hnumber htype htags (fun f hf => ih f hf (hfields _ (List.mem_map_of_mem hf)))
        hend

theorem ParsesTo.mono {d e : Nat} {tag : UInt32} {body : List UInt8} {value : UnknownField}
    (h : ParsesTo d tag body value) (hde : d ≤ e) : ParsesTo e tag body value :=
  h.of_depth_le (Nat.le_trans h.depth_le hde)

/-- What a body is does not depend on the limit. -/
theorem ParsesTo.value_unique {d e : Nat} {tag : UInt32} {body : List UInt8}
    {value value' : UnknownField} (h : ParsesTo d tag body value)
    (h' : ParsesTo e tag body value') : value = value' := by
  have hboth := whole_unknownFieldParse.mpr (h.mono (Nat.le_max_left d e))
  rw [whole_unknownFieldParse.mpr (h'.mono (Nat.le_max_right d e))] at hboth
  exact (Option.some.inj hboth).symm

/-- Groups inside each other, of the given numbers. -/
def nestedGroups : List UInt32 → List UInt8
  | [] => []
  | number :: numbers => writeVarint32 (makeTag number 3) ++
      (nestedGroups numbers ++ writeVarint32 (makeTag number 4))

/-- What they are as unknown fields. -/
def nestedFields : List UInt32 → UnknownFieldSet
  | [] => []
  | number :: numbers => [.group number (nestedFields numbers)]

theorem nestedGroups_eq (numbers : List UInt32) :
    nestedGroups numbers = internalSerializeUnknownFields (nestedFields numbers) := by
  induction numbers with
  | nil => rfl
  | cons number numbers ih =>
    rw [nestedGroups, ih, nestedFields, internalSerializeUnknownFields,
      internalSerializeUnknownFields, List.append_nil, UnknownField.serialize]
    rfl

/-- Each group inside takes one level. -/
theorem depth_nestedFields (numbers : List UInt32) :
    UnknownFieldSet.depth (nestedFields numbers) = numbers.length := by
  induction numbers with
  | nil => rfl
  | cons number numbers ih =>
    rw [nestedFields, UnknownFieldSet.depth, UnknownField.depth, ih, UnknownFieldSet.depth,
      Nat.max_zero, List.length_cons]

theorem proper_of_mem_nestedFields {numbers : List UInt32}
    (hnumbers : ∀ number ∈ numbers, IsNumber number) :
    ∀ f ∈ nestedFields numbers, f.Proper numbers.length := by
  induction numbers with
  | nil => exact fun _ hf => absurd hf List.not_mem_nil
  | cons number numbers ih =>
    obtain ⟨hnumber, hrest⟩ := List.forall_mem_cons.mp hnumbers
    intro f hf
    obtain rfl := List.mem_singleton.mp hf
    exact .group hnumber (ih hrest)

theorem tag_of_mem_nestedFields {numbers : List UInt32}
    (hnumbers : ∀ number ∈ numbers, IsNumber number) :
    ∀ f ∈ nestedFields numbers, f.tag &&& 7 = 3 := by
  cases numbers with
  | nil => exact fun _ hf => absurd hf List.not_mem_nil
  | cons number numbers =>
    intro f hf
    obtain rfl := List.mem_singleton.mp hf
    exact makeTag_type (hnumbers number List.mem_cons_self).2 (by decide)

end S1Client.WireFormat
