import Mathlib.Data.List.Induction

/-! Logs whose items open and close something, read from the end.  It is open at
the end of a log if some item opened it and no later item closed it (`Open`), or
if it was open from the start and no item closed it (`OpenFrom`).  Whether an item
opens may depend on the items before it.  An open log splits at the item that
opened it, be it the first since it was last closed (`OpenedBy`) or the last
(`LastOpenedBy`). -/
namespace Logs

variable {ι : Type} (opens : List ι → ι → Prop) (closes : ι → Prop)

/-- Some item opened, and no later one closed. -/
def Open (log : List ι) : Prop :=
  ∃ pre e post, log = pre ++ e :: post ∧ opens pre e ∧ ∀ x ∈ post, ¬closes x

/-- The same where it may be open from the start. -/
def OpenFrom (start : Prop) (log : List ι) : Prop :=
  Open opens closes log ∨ start ∧ ∀ x ∈ log, ¬closes x

/-- `e` opened what was not open, and no later item closed it. -/
structure OpenedBy (log pre : List ι) (e : ι) (post : List ι) : Prop where
  split : log = pre ++ e :: post
  opened : opens pre e
  before : ¬Open opens closes pre
  after : ∀ x ∈ post, ¬closes x

/-- `e` opened, and no later item closed or opened again. -/
structure LastOpenedBy (log pre : List ι) (e : ι) (post : List ι) : Prop where
  split : log = pre ++ e :: post
  opened : opens pre e
  after : ∀ x ∈ post, ¬closes x
  last : ∀ post₁ x post₂, post = post₁ ++ x :: post₂ → ¬opens (pre ++ e :: post₁) x

variable {opens closes}

/-- A split of a longer log is a split at its last item or of the log before. -/
theorem concat_eq_split {l l₁ l₂ : List ι} {x y : ι} (h : l ++ [y] = l₁ ++ x :: l₂) :
    l₁ = l ∧ x = y ∧ l₂ = [] ∨ ∃ l₃, l₂ = l₃ ++ [y] ∧ l = l₁ ++ x :: l₃ := by
  rcases List.eq_nil_or_concat l₂ with rfl | ⟨l₃, z, rfl⟩
  · obtain ⟨hl, hy⟩ := List.append_inj' h rfl
    exact Or.inl ⟨hl.symm, (List.cons.inj hy).1.symm, rfl⟩
  · rw [List.concat_eq_append, ← List.cons_append, ← List.append_assoc] at h
    obtain ⟨hl, hy⟩ := List.append_inj' h rfl
    exact Or.inr ⟨l₃, by rw [List.concat_eq_append, (List.cons.inj hy).1], hl⟩

theorem not_open_nil : ¬Open opens closes [] := by
  rintro ⟨pre, e, post, h, -⟩
  simp at h

/-- **One more item.** -/
theorem open_concat {log : List ι} {e : ι} :
    Open opens closes (log ++ [e]) ↔ opens log e ∨ Open opens closes log ∧ ¬closes e := by
  constructor
  · rintro ⟨pre, x, post, h, hx, hpost⟩
    rcases concat_eq_split h with ⟨rfl, rfl, rfl⟩ | ⟨post', rfl, rfl⟩
    · exact Or.inl hx
    · exact Or.inr ⟨⟨pre, x, post', rfl, hx, fun y hy => hpost y (by simp [hy])⟩,
        hpost e (by simp)⟩
  · rintro (he | ⟨⟨pre, x, post, rfl, hx, hpost⟩, he⟩)
    · exact ⟨log, e, [], rfl, he, by simp⟩
    · refine ⟨pre, x, post ++ [e], by simp, hx, fun y hy => ?_⟩
      rcases List.mem_append.mp hy with hy | hy
      · exact hpost y hy
      · rw [List.mem_singleton.mp hy]
        exact he

theorem openFrom_nil {start : Prop} : OpenFrom opens closes start [] ↔ start := by
  simp [OpenFrom, not_open_nil]

theorem openFrom_concat {start : Prop} {log : List ι} {e : ι} :
    OpenFrom opens closes start (log ++ [e]) ↔
      opens log e ∨ OpenFrom opens closes start log ∧ ¬closes e := by
  have hmem : (∀ x ∈ log ++ [e], ¬closes x) ↔ (∀ x ∈ log, ¬closes x) ∧ ¬closes e := by
    simp [or_imp, forall_and]
  unfold OpenFrom
  rw [open_concat, hmem, or_and_right, and_assoc, or_assoc]

/-- An open log splits at the first item that opened it since it was closed. -/
theorem Open.exists_openedBy (hdisj : ∀ pre e, opens pre e → ¬closes e) {log : List ι}
    (h : Open opens closes log) : ∃ pre e post, OpenedBy opens closes log pre e post := by
  induction log using List.reverseRecOn with
  | nil => exact absurd h not_open_nil
  | append_singleton log y ih =>
    have hy : ¬closes y := by
      rcases open_concat.mp h with hy | ⟨-, hy⟩
      · exact hdisj log y hy
      · exact hy
    -- an item read while the log is open opens nothing
    by_cases hlog : Open opens closes log
    · obtain ⟨pre, e, post, hsplit, he, hbefore, hafter⟩ := ih hlog
      refine ⟨pre, e, post ++ [y], by rw [hsplit]; simp, he, hbefore, fun x hx => ?_⟩
      rcases List.mem_append.mp hx with hx | hx
      · exact hafter x hx
      · rw [List.mem_singleton.mp hx]
        exact hy
    · have he : opens log y := (open_concat.mp h).resolve_right fun h => hlog h.1
      exact ⟨log, y, [], rfl, he, hlog, by simp⟩

/-- An open log splits at the last item that opened it. -/
theorem Open.exists_lastOpenedBy {log : List ι} (h : Open opens closes log) :
    ∃ pre e post, LastOpenedBy opens closes log pre e post := by
  induction log using List.reverseRecOn with
  | nil => exact absurd h not_open_nil
  | append_singleton log y ih =>
    by_cases hopen : opens log y
    · exact ⟨log, y, [], rfl, hopen, by simp, by simp⟩
    · obtain ⟨hlog, hy⟩ := (open_concat.mp h).resolve_left hopen
      obtain ⟨pre, e, post, hsplit, he, hafter, hlast⟩ := ih hlog
      refine ⟨pre, e, post ++ [y], by rw [hsplit]; simp, he, fun x hx => ?_, ?_⟩
      · rcases List.mem_append.mp hx with hx | hx
        · exact hafter x hx
        · rw [List.mem_singleton.mp hx]
          exact hy
      · intro post₁ x post₂ h
        rcases concat_eq_split h with ⟨rfl, rfl, rfl⟩ | ⟨post₃, rfl, hpost⟩
        · rwa [← hsplit]
        · exact hlast post₁ x post₃ hpost

/-- A value that some items overwrite is the last one written. -/
theorem foldl_getD {α : Type} (f : ι → Option α) (log : List ι) (a : α) :
    log.foldl (fun a e => (f e).getD a) a = (log.filterMap f).getLastD a := by
  induction log generalizing a with
  | nil => rfl
  | cons e log ih =>
    rw [List.foldl_cons, ih]
    cases hf : f e with
    | none => rw [List.filterMap_cons_none hf]; rfl
    | some b => rw [List.filterMap_cons_some hf, List.getLastD_cons]; rfl

end Logs
