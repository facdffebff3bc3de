import S1Client.Tagged

/-! The kinds of fields: a value that is left out when it is zero, a message that may be
absent, and a list of messages.  A message in a field is a body of its own, one level
deeper, behind its size. -/
namespace Tagged
variable {α Tag Kept : Type} {F : Format α Tag Kept}

/-- Bodies behind this tag start with their length. -/
def Format.Delimits (F : Format α Tag Kept) (tag : Tag) : Prop :=
  ∀ ⦃d p body r⦄, F.delimited p = some (body, r) → F.skip d tag p = some ((), r)

theorem Format.whole_delimited (F : Format α Tag Kept) {p : List α} (hp : p.length ≤ F.maxLength) :
    F.delimited.whole (F.writeLength p.length ++ p) = some p := by
  have h := F.delimited_append hp []
  rw [List.append_nil] at h
  exact Reader.whole_eq_some.mpr h

theorem Format.Delimits.skip_whole {tag : Tag} (h : F.Delimits tag) {d : Nat} {p : List α}
    (hp : p.length ≤ F.maxLength) :
    (F.skip d tag).whole (F.writeLength p.length ++ p) = some () :=
  Reader.whole_eq_some.mpr (h (Reader.whole_eq_some.mp (F.whole_delimited hp)))

/-! ## Values -/

/-- One value and its bytes.  What is read replaces what was there. -/
structure Scalar (F : Format α Tag Kept) (V : Type) where
  zero : V
  Fits : Tag → Prop
  read : Reader α V
  write : V → List α
  size : V → Nat
  valid : V → Bool
  local_read : read.Local
  skip_of_read : ∀ {d tag p v r}, Fits tag → read p = some (v, r) → F.skip d tag p = some ((), r)
  skip_write : ∀ {d tag v}, Fits tag → (write v).length ≤ F.maxLength →
    (F.skip d tag).whole (write v) = some ()
  whole_write : ∀ {v}, (write v).length ≤ F.maxLength →
    read.whole (write v) = if valid v then some v else none
  size_eq : ∀ v, size v = (write v).length
  valid_zero : valid zero = true
  valid_of_read : ∀ {p v r}, read p = some (v, r) → valid v = true

/-- A value that is left out when it is zero. -/
def Codec.scalar {V : Type} [DecidableEq V] (s : Scalar F V) : Codec F V where
  empty := s.zero
  depth := 0
  Fits := s.Fits
  Sound _ _ := True
  read _ _ := s.read
  write v := if v = s.zero then [] else [s.write v]
  sizes v := if v = s.zero then [] else [s.size v]
  merge x v := if v = s.zero then x else v
  valid := s.valid
  local_read _ _ := s.local_read
  skip_of_read := s.skip_of_read
  skip_write := by
    intro d tag v hfits b hb hlen
    split at hb
    · cases hb
    · obtain rfl := List.mem_singleton.mp hb
      exact s.skip_write hfits hlen
  readAll_write := by
    intro d v x _ _ hlen
    by_cases hv : v = s.zero
    · rw [if_pos hv, if_pos hv, hv, s.valid_zero, if_pos rfl]
      rfl
    · rw [if_neg hv] at hlen
      rw [if_neg hv, if_neg hv, readAll_cons, s.whole_write (hlen _ List.mem_cons_self)]
      exact Option.bind_fun_some _
  sizes_eq := by
    intro v
    split
    · rfl
    · exact congrArg (fun n => [n]) (s.size_eq v)
  valid_empty := s.valid_zero
  valid_of_read _ h := s.valid_of_read h
  sound_empty _ := trivial
  sound_of_read _ _ := trivial
  empty_merge := by
    intro v
    split
    · rename_i hv
      exact hv.symm
    · rfl
  merge_empty _ := if_pos rfl
  merge_assoc := by
    intro u v w
    by_cases hw : w = s.zero
    · rw [if_pos hw, if_pos hw]
    · rw [if_neg hw, if_neg hw, if_neg hw]

/-! ## Messages -/

variable {M : Type} (S : Schema F M)

/-- The size is the one computed beforehand. -/
def writeMessage (m : M) : List α := F.writeLength (S.byteSize m) ++ S.serialize m

def messageSize (m : M) : Nat := F.lengthSize (S.byteSize m) + S.byteSize m

variable {S}

theorem length_writeMessage (m : M) : (writeMessage S m).length = messageSize S m := by
  unfold writeMessage messageSize
  rw [List.length_append, F.length_writeLength, S.length_serialize]

theorem byteSize_le_of_writeMessage {m : M} {n : Nat} (h : (writeMessage S m).length ≤ n) :
    S.byteSize m ≤ n := by
  rw [length_writeMessage] at h
  exact Nat.le_trans (Nat.le_add_left ..) h

theorem skip_writeMessage {d : Nat} {tag : Tag} {m : M} (htag : F.Delimits tag)
    (h : (writeMessage S m).length ≤ F.maxLength) :
    (F.skip d tag).whole (writeMessage S m) = some () := by
  have hlen := byteSize_le_of_writeMessage h
  rw [← S.length_serialize] at hlen
  unfold writeMessage
  rw [← S.length_serialize]
  exact htag.skip_whole hlen

variable [DecidableEq Tag]

/-- A message behind its size, parsed into another. -/
def readMessage (S : Schema F M) (d : Nat) (old : M) : Reader α M :=
  F.delimited.mapM fun p => match d with
    | 0 => none
    | d + 1 => S.parse d old p

theorem local_readMessage (d : Nat) (old : M) : (readMessage S d old).Local :=
  F.local_delimited.mapM _

theorem skip_of_readMessage {d d' : Nat} {tag : Tag} {old m : M} {p r : List α}
    (htag : F.Delimits tag) (h : readMessage S d old p = some (m, r)) :
    F.skip d' tag p = some ((), r) := by
  obtain ⟨body, hbody, -⟩ := Reader.mapM_eq_some.mp h
  exact htag hbody

/-- A message in a field is merged into what was there. -/
theorem whole_writeMessage {d : Nat} {m : M} (old : M) (hd : S.depth + 1 ≤ d)
    (hsound : S.Sound (d - 1) m) (h : (writeMessage S m).length ≤ F.maxLength) :
    (readMessage S d old).whole (writeMessage S m) =
      if S.valid m then some (S.mergeFrom old m) else none := by
  have hlen := byteSize_le_of_writeMessage h
  obtain ⟨d, rfl⟩ := Nat.exists_eq_add_of_lt hd
  have hparse := S.parse_serialize old (Nat.le_of_lt_succ hd) hsound hlen
  have hdelim := F.whole_delimited (S.length_serialize m ▸ hlen)
  rw [S.length_serialize] at hdelim
  unfold readMessage writeMessage
  rw [Reader.whole_mapM, hdelim]
  exact hparse

theorem valid_of_readMessage {d : Nat} {old m : M} {p r : List α} (hold : S.valid old = true)
    (h : readMessage S d old p = some (m, r)) : S.valid m = true := by
  obtain ⟨body, -, hbody⟩ := Reader.mapM_eq_some.mp h
  cases d with
  | zero => cases hbody
  | succ d => exact S.valid_of_parse hold hbody

theorem sound_of_readMessage {d : Nat} {old m : M} {p r : List α} (hold : S.Sound (d - 1) old)
    (h : readMessage S d old p = some (m, r)) : S.Sound (d - 1) m := by
  obtain ⟨body, -, hbody⟩ := Reader.mapM_eq_some.mp h
  cases d with
  | zero => cases hbody
  | succ d => exact S.sound_of_parse hold hbody

/-- A message that may be absent. -/
def Codec.message (S : Schema F M) : Codec F (Option M) where
  empty := none
  depth := S.depth + 1
  Fits := F.Delimits
  Sound d x? := ∀ m ∈ x?, S.Sound (d - 1) m
  read d x? := (readMessage S d (x?.getD S.empty)).map some
  write
    | none => []
    | some m => [writeMessage S m]
  sizes
    | none => []
    | some m => [messageSize S m]
  merge x?
    | none => x?
    | some m => some (S.mergeFrom (x?.getD S.empty) m)
  valid x? := x?.all S.valid
  local_read _ _ := (local_readMessage _ _).map _
  skip_of_read := by
    intro d tag x? p y? r htag h
    obtain ⟨m, hm, -⟩ := Reader.map_eq_some.mp h
    exact skip_of_readMessage htag hm
  skip_write := by
    intro d tag x? htag b hb hlen
    cases x? with
    | none => cases hb
    | some m =>
      obtain rfl := List.mem_singleton.mp hb
      exact skip_writeMessage htag hlen
  readAll_write := by
    intro d x? y? hd hsound hlen
    cases x? with
    | none => rfl
    | some m =>
      have hwhole := whole_writeMessage (y?.getD S.empty) hd (hsound m rfl)
        (hlen _ List.mem_cons_self)
      rw [readAll_cons, Reader.whole_map, hwhole]
      show _ = if S.valid m then _ else none
      cases S.valid m <;> rfl
  sizes_eq := by
    intro x?
    cases x? with
    | none => rfl
    | some m => exact congrArg (fun n => [n]) (length_writeMessage m).symm
  valid_empty := rfl
  valid_of_read := by
    intro d x? p y? r hx h
    obtain ⟨m, hm, rfl⟩ := Reader.map_eq_some.mp h
    refine valid_of_readMessage (S := S) ?_ hm
    cases x? with
    | none => exact S.valid_empty
    | some x => exact hx
  sound_empty _ _ h := by cases h
  sound_of_read := by
    intro d x? p y? r hx h
    obtain ⟨m, hm, rfl⟩ := Reader.map_eq_some.mp h
    rintro _ ⟨⟩
    refine sound_of_readMessage ?_ hm
    cases x? with
    | none => exact S.sound_empty
    | some x => exact hx x rfl
  empty_merge := by
    intro x?
    cases x? with
    | none => rfl
    | some m => exact congrArg some (S.empty_mergeFrom m)
  merge_empty _ := rfl
  merge_assoc := by
    intro x? y? z?
    cases z? with
    | none => rfl
    | some z =>
      cases y? with
      | none => exact congrArg (fun m => some (S.mergeFrom _ m)) (S.empty_mergeFrom z).symm
      | some y => exact congrArg some (S.mergeFrom_assoc _ y z)

/-- A list of messages, one record for each. -/
def Codec.repeated (S : Schema F M) : Codec F (List M) where
  empty := []
  depth := S.depth + 1
  Fits := F.Delimits
  Sound d ms := ∀ m ∈ ms, S.Sound (d - 1) m
  read d xs := (readMessage S d S.empty).map fun m => xs ++ [m]
  write ms := ms.map (writeMessage S)
  sizes ms := ms.map (messageSize S)
  merge xs ms := xs ++ ms
  valid ms := ms.all S.valid
  local_read _ _ := (local_readMessage _ _).map _
  skip_of_read := by
    intro d tag xs p ys r htag h
    obtain ⟨m, hm, -⟩ := Reader.map_eq_some.mp h
    exact skip_of_readMessage htag hm
  skip_write := by
    intro d tag ms htag b hb hlen
    obtain ⟨m, -, rfl⟩ := List.mem_map.mp hb
    exact skip_writeMessage htag hlen
  readAll_write := by
    intro d ms xs hd hsound hlen
    induction ms generalizing xs with
    | nil =>
      show some xs = some (xs ++ [])
      rw [List.append_nil]
    | cons m ms ih =>
      have hwhole := whole_writeMessage S.empty hd (hsound m List.mem_cons_self)
        (hlen _ List.mem_cons_self)
      rw [List.map_cons, readAll_cons, Reader.whole_map, hwhole, S.empty_mergeFrom, List.all_cons]
      cases S.valid m with
      | false => rfl
      | true =>
        rw [if_pos rfl, Option.map_some, Option.bind_some, Bool.true_and,
          ih _ (fun m hm => hsound m (List.mem_cons_of_mem _ hm))
            fun b hb => hlen b (List.mem_cons_of_mem _ hb), List.append_assoc]
        rfl
  sizes_eq := by
    intro ms
    rw [List.map_map]
    exact List.map_congr_left fun m _ => (length_writeMessage m).symm
  valid_empty := rfl
  valid_of_read := by
    intro d xs p ys r hxs h
    obtain ⟨m, hm, rfl⟩ := Reader.map_eq_some.mp h
    rw [List.all_append, hxs, List.all_cons, valid_of_readMessage S.valid_empty hm]
    rfl
  sound_empty _ _ h := by cases h
  sound_of_read := by
    intro d xs p ys r hxs h
    obtain ⟨m, hm, rfl⟩ := Reader.map_eq_some.mp h
    intro x hx
    rcases List.mem_append.mp hx with hx | hx
    · exact hxs x hx
    · obtain rfl := List.mem_singleton.mp hx
      exact sound_of_readMessage S.sound_empty hm
  empty_merge := List.nil_append
  merge_empty := List.append_nil
  merge_assoc := List.append_assoc

@[simp] theorem Codec.message_empty : (Codec.message S).empty = none := rfl

@[simp] theorem Codec.message_valid (x? : Option M) :
    (Codec.message S).valid x? = x?.all S.valid := rfl

@[simp] theorem Codec.repeated_valid (xs : List M) :
    (Codec.repeated S).valid xs = xs.all S.valid := rfl

@[simp] theorem Codec.message_sound {d : Nat} {x? : Option M} :
    (Codec.message S).Sound d x? ↔ ∀ m ∈ x?, S.Sound (d - 1) m := Iff.rfl

@[simp] theorem Codec.repeated_sound {d : Nat} {ms : List M} :
    (Codec.repeated S).Sound d ms ↔ ∀ m ∈ ms, S.Sound (d - 1) m := Iff.rfl

@[simp] theorem Codec.repeated_empty : (Codec.repeated S).empty = [] := rfl

end Tagged
