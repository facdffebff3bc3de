import S1Client.Effects
import S1Client.Narrowing
import S1Client.Region
import S1Client.Text

/-!
# The lobby

`Handle_S_LOGIN` writes the players of the reply into the five character slots,
one by one, and `SelectCharacter` builds the `C_ENTER_GAME` from a slot.  The loop
is bounded by the length of the reply only, and nothing is cleared: a reply that is
too long writes behind the slots, a shorter one leaves the rest of the longer.  The
score goes through an `int` and the name through one UTF-16 unit for each byte, so a
slot holds its player only if the score is a sign extension and the name is ASCII.
That is what decides whether the lobby shows the last reply (`slots_eq_last_iff`) and
whether a selected player is echoed (`selectCharacter_echoes_iff`).
-/
namespace S1Client
variable {R : Type}

/-- One place of `CharacterName`, `CharacterScore` and `CharacterType`. -/
structure CharacterSlot where
  name : FString
  score : UInt64
  type : UInt64
  deriving DecidableEq, Repr

/-- What `SetName`, `SetScore` and `SetCharacterType` keep of a player. -/
def CharacterSlot.ofPlayer (player : ObjectInfo R) : CharacterSlot where
  name := .ofCStr player.playerInfo.name
  score := player.playerInfo.score.toInt64.toInt32.toInt64.toUInt64
  type := player.playerType.toInt.toInt64.toUInt64

/-- The slot holds the player's name, score and type. -/
def CharacterSlot.Holds (slot : CharacterSlot) (player : ObjectInfo R) : Prop :=
  slot.name.toUtf8 = player.playerInfo.name ∧ slot.score = player.playerInfo.score ∧
    (slot.type.toNat : Int) = player.playerType.toInt.toInt

/-- The slot is what the setters leave of the player: the name up to a NUL, unit for
byte, the low half of the score with its sign, the number of the type with its sign. -/
def CharacterSlot.LeftBy (slot : CharacterSlot) (player : ObjectInfo R) : Prop :=
  slot.name.map UInt16.toNat = (player.playerInfo.name.takeWhile (· ≠ 0)).map UInt8.toNat ∧
    (slot.score.toNat : Int) = (player.playerInfo.score.toNat : Int).bmod (2 ^ 32) % 2 ^ 64 ∧
    (slot.type.toNat : Int) = player.playerType.toInt.toInt % 2 ^ 64

/-- A player of whom nothing is lost: the score is a sign-extended 32-bit value, the name
is ASCII, and the type is not negative. -/
def ObjectInfo.Storable (player : ObjectInfo R) : Prop :=
  (player.playerInfo.score.toNat < 2147483648 ∨
      18446744071562067968 ≤ player.playerInfo.score.toNat) ∧
    (∀ b ∈ player.playerInfo.name, b ≠ 0 ∧ b.toNat < 128) ∧ 0 ≤ player.playerType.toInt.toInt

/-- The switch over `CharacterType[index]`: any other number leaves the type unset. -/
def selectedPlayerType (characterType : UInt64) : PlayerType :=
  if characterType = 1 then .yoshika
  else if characterType = 2 then .lynette
  else if characterType = 3 then .sanya
  else .none

/-- The `selectedcharacter` made from a slot. -/
def CharacterSlot.selectedCharacter (slot : CharacterSlot) : ObjectInfo R :=
  { ObjectInfo.default with
    playerType := selectedPlayerType slot.type
    playerInfo? := some { score := slot.score, name := slot.name.toUtf8 } }

theorem toNat_characterType (player : ObjectInfo R) :
    (player.playerType.toInt.toInt64.toUInt64.toNat : Int) =
      player.playerType.toInt.toInt % 2 ^ 64 := by
  rw [Narrowing.toNat_widen, Int.toNat_of_nonneg (Int.emod_nonneg _ (by decide))]

/-- What the setters leave. -/
theorem CharacterSlot.leftBy_iff (slot : CharacterSlot) (player : ObjectInfo R) :
    slot.LeftBy player ↔ slot = .ofPlayer player := by
  have hname : slot.name.map UInt16.toNat =
        (player.playerInfo.name.takeWhile (· ≠ 0)).map UInt8.toNat ↔
      slot.name = .ofCStr player.playerInfo.name := by
    have hunits : (player.playerInfo.name.takeWhile (· ≠ 0)).map UInt8.toNat =
        (FString.ofCStr player.playerInfo.name).map UInt16.toNat := by
      simp [FString.ofCStr]
    rw [hunits]
    exact List.map_inj_right fun _ _ => UInt16.toNat_inj.mp
  have hscore : (slot.score.toNat : Int) =
        (player.playerInfo.score.toNat : Int).bmod (2 ^ 32) % 2 ^ 64 ↔
      slot.score = player.playerInfo.score.toInt64.toInt32.toInt64.toUInt64 := by
    rw [← UInt64.toNat_inj, Narrowing.toNat_widen, Narrowing.toInt_narrow]
    have hnonneg := Int.emod_nonneg ((player.playerInfo.score.toNat : Int).bmod (2 ^ 32))
      (by decide : (2 ^ 64 : Int) ≠ 0)
    omega
  have htype : (slot.type.toNat : Int) = player.playerType.toInt.toInt % 2 ^ 64 ↔
      slot.type = player.playerType.toInt.toInt64.toUInt64 := by
    rw [← UInt64.toNat_inj, ← toNat_characterType, Nat.cast_inj]
  obtain ⟨name, score, type⟩ := slot
  unfold LeftBy
  rw [hname, hscore, htype, ofPlayer, mk.injEq]

/-- **Of whom nothing is lost.** -/
theorem CharacterSlot.holds_ofPlayer_iff (player : ObjectInfo R) :
    (CharacterSlot.ofPlayer player).Holds player ↔ player.Storable := by
  have htype : (player.playerType.toInt.toInt64.toUInt64.toNat : Int) =
      player.playerType.toInt.toInt ↔ 0 ≤ player.playerType.toInt.toInt := by
    rw [toNat_characterType]
    have hlt := player.playerType.toInt.toInt_lt
    omega
  unfold Holds ObjectInfo.Storable ofPlayer
  rw [toUtf8_ofCStr_eq_iff, Narrowing.widen_narrow_eq, htype]
  exact and_left_comm

namespace US1GameInstance

/-- The slots. -/
def characterSlots (s : US1GameInstance R) : List CharacterSlot :=
  List.ofFn fun i : Fin 5 => ⟨s.characterName[i], s.characterScore[i], s.characterType[i]⟩

/-- `US1GameInstance::SelectCharacter`. -/
def selectCharacter (s : US1GameInstance R) (index : Int) : Except Fault (US1GameInstance R) :=
  if h : 0 ≤ index ∧ index.toNat < 5 then
    let slot : CharacterSlot := ⟨s.characterName[index.toNat], s.characterScore[index.toNat],
      s.characterType[index.toNat]⟩
    .ok (s.sendPacket (.C_ENTER_GAME slot.selectedCharacter))
  else .error .outOfBounds

/-! ## One reply -/

/-- Nothing but the slots differs. -/
def OnlySlots (s t : US1GameInstance R) : Prop :=
  ∃ name score type, t = { s with
    characterName := name, characterScore := score, characterType := type }

theorem OnlySlots.refl (s : US1GameInstance R) : s.OnlySlots s := ⟨_, _, _, rfl⟩

theorem OnlySlots.trans {s t u : US1GameInstance R} (h : s.OnlySlots t) (h' : t.OnlySlots u) :
    s.OnlySlots u := by
  obtain ⟨name, score, type, rfl⟩ := h
  obtain ⟨name', score', type', rfl⟩ := h'
  exact ⟨name', score', type', rfl⟩

theorem length_characterSlots (s : US1GameInstance R) : s.characterSlots.length = 5 :=
  List.length_ofFn

theorem getElem?_characterSlots (s : US1GameInstance R) (i : Nat) :
    s.characterSlots[i]? = if h : i < 5 then
      some ⟨s.characterName[i], s.characterScore[i], s.characterType[i]⟩ else none :=
  List.getElem?_ofFn

/-- **One player** is one write. -/
theorem setCharacter_write (s : US1GameInstance R) (player : ObjectInfo R) {i : Nat} (hi : i < 5) :
    ∃ t, s.setCharacter (player, i) = .ok t ∧
      Region.write s.characterSlots i [.ofPlayer player] = some t.characterSlots ∧
      s.OnlySlots t := by
  refine ⟨_, dif_pos hi, ?_, _, _, _, rfl⟩
  have hfits : i + [CharacterSlot.ofPlayer player].length ≤ s.characterSlots.length := by
    rw [length_characterSlots, List.length_singleton]
    omega
  obtain ⟨out, hout⟩ := Region.exists_write hfits
  rw [hout, Option.some.injEq]
  refine List.ext_getElem? fun j => ?_
  rw [Region.getElem?_of_write_singleton hout, getElem?_characterSlots, getElem?_characterSlots]
  by_cases hj : j = i
  · subst hj
    simp [hi, CharacterSlot.ofPlayer]
  · simp [hj, Ne.symm hj]

/-- The loop, from the slot it has come to. -/
theorem run_setCharacter (s : US1GameInstance R) (players : List (ObjectInfo R)) {i : Nat}
    (hi : i ≤ 5) :
    (5 < i + players.length → Steps.run setCharacter s (players.zipIdx i) = .error .outOfBounds) ∧
      (i + players.length ≤ 5 → ∃ t, Steps.run setCharacter s (players.zipIdx i) = .ok t ∧
        Region.write s.characterSlots i (players.map .ofPlayer) = some t.characterSlots ∧
        s.OnlySlots t) := by
  induction players generalizing s i with
  | nil =>
    refine ⟨fun h => absurd h (by simpa using hi), fun _ => ⟨s, rfl, ?_, .refl s⟩⟩
    exact Region.write_nil (by rw [length_characterSlots]; exact hi)
  | cons player players ih =>
    rw [List.length_cons, List.zipIdx_cons]
    rcases Nat.lt_or_ge i 5 with hlt | hge
    · obtain ⟨u, hu, hwrite, honly⟩ := s.setCharacter_write player hlt
      obtain ⟨hlong, hshort⟩ := @ih u (i + 1) hlt
      constructor
      · intro h
        unfold Steps.run
        rw [hu]
        exact hlong (by omega)
      · intro h
        obtain ⟨t, ht, hwrite', honly'⟩ := hshort (by omega)
        refine ⟨t, Steps.run_cons.mpr ⟨u, hu, ht⟩, ?_, honly.trans honly'⟩
        rw [List.map_cons, ← List.singleton_append, Region.write_append, hwrite]
        exact hwrite'
    · refine ⟨fun _ => ?_, fun h => absurd h (by omega)⟩
      unfold Steps.run
      rw [show s.setCharacter (player, i) = .error .outOfBounds from dif_neg (Nat.not_lt_of_le hge)]

/-- **One reply** is one write from the first slot on, if it fits. -/
theorem handleLogin_cases (s : US1GameInstance R) (pkt : S_LOGIN R) :
    5 < pkt.players.length ∧ s.handleLogin pkt = .error .outOfBounds ∨
      pkt.players.length ≤ 5 ∧ ∃ t, s.handleLogin pkt = .ok t ∧
        Region.write s.characterSlots 0 (pkt.players.map .ofPlayer) = some t.characterSlots ∧
        s.OnlySlots t := by
  obtain ⟨hlong, hshort⟩ := s.run_setCharacter pkt.players (Nat.zero_le 5)
  rw [Nat.zero_add] at hlong hshort
  rcases Nat.lt_or_ge 5 pkt.players.length with h | h
  · exact Or.inl ⟨h, hlong h⟩
  · exact Or.inr ⟨h, hshort h⟩

/-! ## A sequence of replies -/

/-- The replies, as packets from the queue. -/
theorem run_dispatch_login [Zero R] (E : Engine R) (s : US1GameInstance R)
    (pkts : List (S_LOGIN R)) :
    Steps.run (dispatch E) s (pkts.map .S_LOGIN) = Steps.run handleLogin s pkts := by
  have hstep : ∀ (s : US1GameInstance R) pkt, s.handleLogin pkt =
      ((some ∘ ServerPacket.S_LOGIN) pkt).elim (.ok s) (s.dispatch E) := by
    intro s pkt
    show s.handleLogin pkt = Prod.fst <$> ((·, true) <$> s.handleLogin pkt)
    cases s.handleLogin pkt <;> rfl
  rw [← List.filterMap_eq_map]
  exact (Steps.run_filterMap hstep s pkts).symm

/-- **Replies that fit** are writes over each other. -/
theorem run_handleLogin (s : US1GameInstance R) {pkts : List (S_LOGIN R)}
    (h : ∀ pkt ∈ pkts, pkt.players.length ≤ 5) :
    ∃ t, Steps.run handleLogin s pkts = .ok t ∧
      (pkts.map fun pkt => pkt.players.map .ofPlayer).foldlM
        (fun slots cells => Region.write slots 0 cells) s.characterSlots =
          some t.characterSlots ∧ s.OnlySlots t := by
  induction pkts generalizing s with
  | nil => exact ⟨s, rfl, rfl, .refl s⟩
  | cons pkt pkts ih =>
    have hfits := h pkt List.mem_cons_self
    rcases s.handleLogin_cases pkt with ⟨hlong, -⟩ | ⟨-, u, hu, hwrite, honly⟩
    · omega
    · obtain ⟨t, ht, hwrites, honly'⟩ := ih u fun p hp => h p (List.mem_cons_of_mem pkt hp)
      refine ⟨t, Steps.run_cons.mpr ⟨u, hu, ht⟩, ?_, honly.trans honly'⟩
      rw [List.map_cons, List.foldlM_cons, hwrite]
      exact hwrites

/-- The others write behind the slots. -/
theorem fits_of_run_handleLogin {s t : US1GameInstance R} {pkts : List (S_LOGIN R)}
    (h : Steps.run handleLogin s pkts = .ok t) : ∀ pkt ∈ pkts, pkt.players.length ≤ 5 := by
  induction pkts generalizing s with
  | nil => exact fun _ hmem => absurd hmem List.not_mem_nil
  | cons pkt pkts ih =>
    obtain ⟨u, hu, ht⟩ := Steps.run_cons.mp h
    rcases s.handleLogin_cases pkt with ⟨-, herror⟩ | ⟨hfits, -⟩
    · rw [herror] at hu
      cases hu
    · exact List.forall_mem_cons.mpr ⟨hfits, ih ht⟩

/-- The player that the last reply to reach slot `i` put there. -/
def lastInSlot (pkts : List (S_LOGIN R)) (i : Nat) : Option (ObjectInfo R) :=
  (pkts.filterMap (·.players[i]?)).getLast?

/-- What a slot holds after the replies. -/
theorem getElem?_slots_of_run {s t : US1GameInstance R} {pkts : List (S_LOGIN R)}
    (h : Steps.run handleLogin s pkts = .ok t) (i : Nat) :
    t.characterSlots[i]? = ((lastInSlot pkts i).map .ofPlayer).or s.characterSlots[i]? := by
  obtain ⟨t', ht', hwrites, -⟩ := s.run_handleLogin (fits_of_run_handleLogin h)
  obtain rfl : t' = t := Except.ok.inj (ht'.symm.trans h)
  rw [Region.getElem?_of_writes hwrites, lastInSlot, List.filterMap_map, ← List.getLast?_map,
    List.map_filterMap]
  simp only [Function.comp_def, List.getElem?_map]

theorem lastInSlot_append (pkts : List (S_LOGIN R)) (last : S_LOGIN R) (i : Nat) :
    lastInSlot (pkts ++ [last]) i = last.players[i]?.or (lastInSlot pkts i) := by
  unfold lastInSlot
  rw [List.filterMap_append, List.getLast?_append]
  cases h : last.players[i]? <;> simp [h]

/-- The lobby `t` shows the reply `last`: the first slots hold its players in order, the
others are as in `s`. -/
structure ShowsReply (s t : US1GameInstance R) (last : S_LOGIN R) : Prop where
  held : ∀ i player, i < 5 → last.players[i]? = some player →
    ∃ slot, t.characterSlots[i]? = some slot ∧ slot.Holds player
  rest : ∀ i, last.players.length ≤ i → t.characterSlots[i]? = s.characterSlots[i]?

/-- The slots of the last reply show it up to what the setters lose. -/
theorem held_iff {s t : US1GameInstance R} {pkts : List (S_LOGIN R)} {last : S_LOGIN R}
    (h : Steps.run handleLogin s (pkts ++ [last]) = .ok t) :
    (∀ i player, i < 5 → last.players[i]? = some player →
      ∃ slot, t.characterSlots[i]? = some slot ∧ slot.Holds player) ↔
      ∀ player ∈ last.players, player.Storable := by
  have hslot : ∀ (i : Nat) (player : ObjectInfo R), last.players[i]? = some player →
      t.characterSlots[i]? = some (.ofPlayer player) := by
    intro i player hplayer
    rw [getElem?_slots_of_run h, lastInSlot_append, hplayer]
    rfl
  have hfits := fits_of_run_handleLogin h last (by simp)
  constructor
  · intro hheld player hmem
    obtain ⟨i, hi, hplayer⟩ := List.getElem_of_mem hmem
    have hplayer := List.getElem?_eq_some_iff.mpr ⟨hi, hplayer⟩
    obtain ⟨slot, hs, hholds⟩ := hheld i player (by omega) hplayer
    obtain rfl := Option.some.inj (hs.symm.trans (hslot i player hplayer))
    exact (CharacterSlot.holds_ofPlayer_iff player).mp hholds
  · intro hstorable i player _ hplayer
    have hmem := List.mem_of_getElem? hplayer
    exact ⟨_, hslot i player hplayer,
      (CharacterSlot.holds_ofPlayer_iff player).mpr (hstorable player hmem)⟩

/-- The slots behind the last reply show what an earlier one left there. -/
theorem rest_iff {s t : US1GameInstance R} {pkts : List (S_LOGIN R)} {last : S_LOGIN R}
    (h : Steps.run handleLogin s (pkts ++ [last]) = .ok t) :
    (∀ i, last.players.length ≤ i → t.characterSlots[i]? = s.characterSlots[i]?) ↔
      ∀ i slot player, last.players.length ≤ i → s.characterSlots[i]? = some slot →
        lastInSlot pkts i = some player → slot.LeftBy player := by
  have hslot : ∀ i, last.players.length ≤ i → t.characterSlots[i]? =
      ((lastInSlot pkts i).map .ofPlayer).or s.characterSlots[i]? := by
    intro i hi
    rw [getElem?_slots_of_run h, lastInSlot_append, List.getElem?_eq_none hi, Option.none_or]
  constructor
  · intro hrest i slot player hi hs hplayer
    have ht := (hslot i hi).symm.trans (hrest i hi)
    rw [hplayer, hs, Option.map_some, Option.some_or, Option.some.injEq] at ht
    exact (slot.leftBy_iff player).mpr ht.symm
  · intro hleft i hi
    rw [hslot i hi]
    cases hplayer : lastInSlot pkts i with
    | none => rfl
    | some player =>
      cases hs : s.characterSlots[i]? with
      | none =>
        -- a slot that an earlier reply reached is one of the five
        have hout : 5 ≤ i := by simpa [length_characterSlots] using hs
        have hnone : t.characterSlots[i]? = none :=
          List.getElem?_eq_none (by rw [length_characterSlots]; exact hout)
        rw [hslot i hi, hplayer] at hnone
        cases hnone
      | some slot =>
        rw [(slot.leftBy_iff player).mp (hleft i slot player hi hs hplayer)]
        rfl

/-- **The lobby after a sequence of replies** shows the last one, over slots as they
were at the start, exactly if every reply fits, nothing is lost of the players of the last
one, and whatever an earlier reply left in a slot behind the last one is what the slot held
at the start. -/
theorem slots_eq_last_iff [Zero R] (E : Engine R) (s : US1GameInstance R)
    (pkts : List (S_LOGIN R)) (last : S_LOGIN R) :
    (∃ t, Steps.run (dispatch E) s ((pkts ++ [last]).map .S_LOGIN) = .ok t ∧
      s.ShowsReply t last) ↔
      (∀ pkt ∈ pkts ++ [last], pkt.players.length ≤ 5) ∧
        (∀ player ∈ last.players, player.Storable) ∧
        ∀ i slot player, last.players.length ≤ i → s.characterSlots[i]? = some slot →
          lastInSlot pkts i = some player → slot.LeftBy player := by
  rw [run_dispatch_login]
  constructor
  · rintro ⟨t, ht, hheld, hrest⟩
    exact ⟨fits_of_run_handleLogin ht, (held_iff ht).mp hheld, (rest_iff ht).mp hrest⟩
  · rintro ⟨hfits, hstorable, hleft⟩
    obtain ⟨t, ht, -⟩ := s.run_handleLogin hfits
    exact ⟨t, ht, (held_iff ht).mpr hstorable, (rest_iff ht).mpr hleft⟩

/-- A player of the lobby with a score, a name and a type. -/
def lobbyPlayer (score : UInt64) (name : ProtoString) (type : PlayerType) : ObjectInfo R :=
  { ObjectInfo.default with playerType := type, playerInfo? := some ⟨score, name⟩ }

/-- A reply without players after one with a player leaves that player in the
lobby. -/
theorem slots_not_always_last :
    ¬∀ (pkts : List (S_LOGIN Int)) (last : S_LOGIN Int), ∃ t,
      Steps.run (dispatch (.obliging Int true)) (started Int) ((pkts ++ [last]).map .S_LOGIN) =
          .ok t ∧
        (started Int).ShowsReply t last := by
  intro h
  obtain ⟨t, ht, -, hrest⟩ := h [⟨true, [lobbyPlayer 7 [65] .yoshika]⟩] ⟨true, []⟩
  obtain rfl := Except.ok.inj ht
  exact absurd (hrest 0 (Nat.le_refl 0)) (by decide)

example : (started Int).handleLogin ⟨true, .replicate 6 (lobbyPlayer 7 [65] .yoshika)⟩ =
    .error .outOfBounds := rfl

/-! ## Selecting a character -/

theorem selectCharacter_of_slot {s : US1GameInstance R} {i : Nat} {slot : CharacterSlot}
    (h : s.characterSlots[i]? = some slot) :
    s.selectCharacter i = .ok (s.sendPacket (.C_ENTER_GAME slot.selectedCharacter)) := by
  rw [getElem?_characterSlots] at h
  split at h
  · rename_i hi
    obtain rfl := Option.some.inj h
    unfold selectCharacter
    rw [dif_pos ⟨Int.natCast_nonneg i, by simpa using hi⟩]
    rfl
  · cases h

/-- The switch undoes the conversion of a type with a name. -/
theorem selectedPlayerType_toInt {type : PlayerType} (h : ∀ value, type ≠ .unrecognized value) :
    selectedPlayerType type.toInt.toInt64.toUInt64 = type := by
  cases type with
  | unrecognized value => exact absurd rfl (h value)
  | _ => rfl

/-- `SelectCharacter(i)` queues a `C_ENTER_GAME` with the type, the score and the name
of `player`. -/
def Echoes (s : US1GameInstance R) (i : Nat) (player : ObjectInfo R) : Prop :=
  ∃ t session info, s.selectCharacter i = .ok t ∧ s.gameServerSession = some session ∧
    t.gameServerSession = some { session with
      sendPacketQueue := session.sendPacketQueue ++ [.C_ENTER_GAME info] } ∧
    info.playerType = player.playerType ∧ info.playerInfo.score = player.playerInfo.score ∧
    info.playerInfo.name = player.playerInfo.name

theorem echoes_iff_of_slot {s : US1GameInstance R} (hc : s.connected = true) {i : Nat}
    {slot : CharacterSlot} (h : s.characterSlots[i]? = some slot) (player : ObjectInfo R) :
    s.Echoes i player ↔ selectedPlayerType slot.type = player.playerType ∧
      slot.score = player.playerInfo.score ∧ slot.name.toUtf8 = player.playerInfo.name := by
  rcases s.sendPacket_cases (.C_ENTER_GAME slot.selectedCharacter) with
    ⟨socket, session, -, hsession, hsend⟩ | ⟨hnot, -⟩
  swap
  · exact absurd (hc.symm.trans hnot) (by simp)
  have hsend := congrArg gameServerSession hsend
  constructor
  · rintro ⟨t, session', info, ht, hs, hqueue, htype, hscore, hname⟩
    obtain rfl := Except.ok.inj ((selectCharacter_of_slot h).symm.trans ht)
    obtain rfl := Option.some.inj (hsession.symm.trans hs)
    -- the packet queued is the one made from the slot
    have hsame := PacketSession.mk.inj (Option.some.inj (hsend.symm.trans hqueue))
    have hinfo : slot.selectedCharacter = info := by simpa using hsame.2
    subst hinfo
    exact ⟨htype, hscore, hname⟩
  · rintro ⟨htype, hscore, hname⟩
    exact ⟨_, session, _, selectCharacter_of_slot h, hsession, hsend, htype, hscore, hname⟩

/-- Without a connection nothing is sent. -/
theorem Echoes.connected {s : US1GameInstance R} {i : Nat} {player : ObjectInfo R}
    (h : s.Echoes i player) : s.connected = true := by
  obtain ⟨t, session, info, ht, hsession, hqueue, -⟩ := h
  unfold selectCharacter at ht
  split at ht
  · obtain rfl := Except.ok.inj ht
    rcases s.sendPacket_cases (.C_ENTER_GAME _) with ⟨socket, _, hsocket, -, -⟩ | ⟨-, hsend⟩
    · rw [US1GameInstance.connected, hsocket, hsession]
      rfl
    · rw [hsend, hsession, Option.some.injEq] at hqueue
      have hlen := congrArg (fun session => session.sendPacketQueue.length) hqueue
      simp at hlen
  · cases ht

/-- **The lobby echo.**  After replies that fit, `SelectCharacter(i)` sends back
the player the last reply put in slot `i`, exactly if there is a connection, the score
is a sign-extended 32-bit value and the name is ASCII. -/
theorem selectCharacter_echoes_iff [Zero R] {E : Engine R} {s : US1GameInstance R}
    {pkts : List (S_LOGIN R)} {last : S_LOGIN R} {i : Nat} {player : ObjectInfo R}
    (hfits : ∀ pkt ∈ pkts ++ [last], pkt.players.length ≤ 5)
    (hplayer : last.players[i]? = some player)
    (htype : ∀ value, player.playerType ≠ .unrecognized value) :
    (∃ t, Steps.run (dispatch E) s ((pkts ++ [last]).map .S_LOGIN) = .ok t ∧
      t.Echoes i player) ↔
      s.connected = true ∧ (player.playerInfo.score.toNat < 2147483648 ∨
          18446744071562067968 ≤ player.playerInfo.score.toNat) ∧
        ∀ b ∈ player.playerInfo.name, b ≠ 0 ∧ b.toNat < 128 := by
  rw [run_dispatch_login]
  obtain ⟨t, ht, -, name, score, type, heq⟩ := s.run_handleLogin hfits
  have hct : t.connected = s.connected := by
    rw [heq]
    rfl
  have hslot : t.characterSlots[i]? = some (.ofPlayer player) := by
    rw [getElem?_slots_of_run ht, lastInSlot_append, hplayer]
    rfl
  have hkept : selectedPlayerType (CharacterSlot.ofPlayer player).type = player.playerType :=
    selectedPlayerType_toInt htype
  rw [← Narrowing.widen_narrow_eq, ← toUtf8_ofCStr_eq_iff]
  constructor
  · rintro ⟨t', ht', h⟩
    obtain rfl := Except.ok.inj (ht.symm.trans ht')
    exact ⟨hct.symm.trans h.connected, ((echoes_iff_of_slot h.connected hslot player).mp h).2⟩
  · rintro ⟨hc, h⟩
    exact ⟨t, ht, (echoes_iff_of_slot (hct.trans hc) hslot player).mpr ⟨hkept, h⟩⟩

/-- The echo of a player with score 7 and name `A`, after a longer reply. -/
theorem selectCharacter_echoes_seven :
    ∃ t, Steps.run (dispatch (.obliging Int true)) (started Int)
        ([⟨true, [lobbyPlayer 1 [] .none, lobbyPlayer 2 [66] .sanya]⟩,
          ⟨true, [lobbyPlayer 7 [65] .yoshika]⟩].map .S_LOGIN) = .ok t ∧
      t.Echoes 0 (lobbyPlayer 7 [65] .yoshika) := by
  refine (@selectCharacter_echoes_iff Int _ (.obliging Int true) (started Int)
    [⟨true, [lobbyPlayer 1 [] .none, lobbyPlayer 2 [66] .sanya]⟩]
    ⟨true, [lobbyPlayer 7 [65] .yoshika]⟩ 0 (lobbyPlayer 7 [65] .yoshika) (by decide) rfl
    (fun _ h => PlayerType.noConfusion h)).mpr ⟨rfl, Or.inl ?_, fun b hb => ?_⟩
  · show 7 < 2147483648
    decide
  · obtain rfl := List.mem_singleton.mp hb
    decide

/-- A score of 2³² comes back as 0. -/
theorem selectCharacter_not_always_echoes :
    ¬∀ (pkts : List (S_LOGIN Int)) (last : S_LOGIN Int) (i : Nat) (player : ObjectInfo Int),
      (∀ pkt ∈ pkts ++ [last], pkt.players.length ≤ 5) → last.players[i]? = some player →
        (∀ value, player.playerType ≠ .unrecognized value) →
        ∃ t, Steps.run (dispatch (.obliging Int true)) (started Int)
            ((pkts ++ [last]).map .S_LOGIN) = .ok t ∧ t.Echoes i player := by
  intro h
  obtain ⟨t, ht, hecho⟩ := h [] ⟨true, [lobbyPlayer 4294967296 [65] .yoshika]⟩ 0
    (lobbyPlayer 4294967296 [65] .yoshika) (by decide) rfl (fun _ h => PlayerType.noConfusion h)
  obtain rfl := Except.ok.inj ht
  obtain ⟨-, hscore, -⟩ := (echoes_iff_of_slot rfl rfl _).mp hecho
  exact absurd hscore (by decide)

end US1GameInstance
end S1Client
