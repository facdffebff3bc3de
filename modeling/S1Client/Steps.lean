import Mathlib.Data.List.Basic

/-! Runs of a step function that may stop with a fault.  A run reads its inputs
one after the other; it has a final state only if no step faulted, and stops at
the first input that faults (`run_eq_error`).  An invariant of one step holds after
a run (`run_invariant`), a projection that every step simulates is simulated by
the run (`run_project`), and inputs that are batches of smaller ones can be read
one by one (`run_flatMap`).  Inputs that do not show through a view can be left out
of it (`view_eq_of_filter_eq`).  A property that one step keeps exactly under a
condition holds throughout a run exactly when every step meets the condition
(`throughout_iff_meets`).  What blocks of inputs achieve one by one, they achieve with other
inputs in between, if no input undoes it (`run_progress`). -/
namespace Steps

theorem bind_eq_ok {ε α β : Type} {x : Except ε α} {f : α → Except ε β} {b : β} :
    x >>= f = .ok b ↔ ∃ a, x = .ok a ∧ f a = .ok b := by
  cases x <;> simp [bind, Except.bind]

theorem bind_eq_error {ε α β : Type} {x : Except ε α} {f : α → Except ε β} {e : ε} :
    x >>= f = .error e ↔ x = .error e ∨ ∃ a, x = .ok a ∧ f a = .error e := by
  cases x <;> simp [bind, Except.bind]

theorem mapError_eq_ok {ε ε' α : Type} {f : ε → ε'} {x : Except ε α} {a : α} :
    x.mapError f = .ok a ↔ x = .ok a := by
  cases x <;> simp [Except.mapError]

theorem mapError_eq_error {ε ε' α : Type} {f : ε → ε'} {x : Except ε α} {e' : ε'} :
    x.mapError f = .error e' ↔ ∃ e, x = .error e ∧ e' = f e := by
  cases x <;> simp [Except.mapError, eq_comm]

variable {σ ι ε : Type} (step : σ → ι → Except ε σ)

/-- The state after the inputs `l`, or the fault that stopped the run. -/
def run : σ → List ι → Except ε σ
  | s, [] => .ok s
  | s, i :: l =>
      match step s i with
      | .ok t => run t l
      | .error e => .error e

/-- Every step of the run that completes is taken under `C`. -/
def Meets (C : σ → ι → Prop) : σ → List ι → Prop
  | _, [] => True
  | s, i :: l => ∀ t, step s i = .ok t → C s i ∧ Meets C t l

/-- `P` holds in every state the run reaches, its first and its last included. -/
def Throughout (P : σ → Prop) (s : σ) (l : List ι) : Prop :=
  ∀ l₁ l₂ t, l = l₁ ++ l₂ → run step s l₁ = .ok t → P t

variable {step}

@[simp] theorem run_nil (s : σ) : run step s [] = .ok s := rfl

theorem run_cons {s : σ} {i : ι} {l : List ι} {u : σ} :
    run step s (i :: l) = .ok u ↔ ∃ t, step s i = .ok t ∧ run step t l = .ok u := by
  cases h : step s i with
  | ok t => simp [run, h]
  | error e => simp [run, h]

theorem run_append {s u : σ} {l₁ l₂ : List ι} :
    run step s (l₁ ++ l₂) = .ok u ↔ ∃ t, run step s l₁ = .ok t ∧ run step t l₂ = .ok u := by
  induction l₁ generalizing s with
  | nil => simp
  | cons i l₁ ih =>
    rw [List.cons_append, run_cons]
    constructor
    · rintro ⟨t, ht, hu⟩
      obtain ⟨v, hv, hvu⟩ := ih.mp hu
      exact ⟨v, run_cons.mpr ⟨t, ht, hv⟩, hvu⟩
    · rintro ⟨v, hv, hvu⟩
      obtain ⟨t, ht, htv⟩ := run_cons.mp hv
      exact ⟨t, ht, ih.mpr ⟨v, htv, hvu⟩⟩

theorem run_singleton {s : σ} {i : ι} : run step s [i] = step s i := by
  cases h : step s i <;> simp [run, h]

/-- **Invariants.**  What every completed step preserves, a completed run
preserves. -/
theorem run_invariant {P : σ → Prop} (hstep : ∀ s i t, P s → step s i = .ok t → P t)
    {s t : σ} {l : List ι} (hs : P s) (h : run step s l = .ok t) : P t := by
  induction l generalizing s with
  | nil => exact Except.ok.inj h ▸ hs
  | cons i l ih =>
    obtain ⟨u, hu, ht⟩ := run_cons.mp h
    exact ih (hstep s i u hs hu) ht

/-- An invariant whose steps are only known for the inputs in the list. -/
theorem run_invariant_mem {P : σ → Prop} {s t : σ} {l : List ι}
    (hstep : ∀ s, ∀ i ∈ l, ∀ t, P s → step s i = .ok t → P t)
    (hs : P s) (h : run step s l = .ok t) : P t := by
  induction l generalizing s with
  | nil => exact Except.ok.inj h ▸ hs
  | cons i l ih =>
    obtain ⟨u, hu, ht⟩ := run_cons.mp h
    exact ih (fun s j hj => hstep s j (List.mem_cons_of_mem i hj))
      (hstep s i List.mem_cons_self u hs hu) ht

/-- **Progress.**  A run completes if its steps complete from the states of an
invariant. -/
theorem run_total {P : σ → Prop} {s : σ} {l : List ι}
    (hstep : ∀ s, ∀ i ∈ l, P s → ∃ t, step s i = .ok t ∧ P t) (hs : P s) :
    ∃ t, run step s l = .ok t ∧ P t := by
  induction l generalizing s with
  | nil => exact ⟨s, rfl, hs⟩
  | cons i l ih =>
    obtain ⟨u, hu, hPu⟩ := hstep s i List.mem_cons_self hs
    obtain ⟨t, ht, hPt⟩ := ih (fun s j hj => hstep s j (List.mem_cons_of_mem i hj)) hPu
    exact ⟨t, run_cons.mpr ⟨u, hu, ht⟩, hPt⟩

/-- **Simulation.**  A projection whose value after a step is computed from its
value before it is computed along a run in the same way. -/
theorem run_project {τ : Type} {I : σ → Prop} {view : σ → τ} {next : τ → ι → τ}
    (hI : ∀ s i t, I s → step s i = .ok t → I t)
    (hstep : ∀ s i t, I s → step s i = .ok t → view t = next (view s) i)
    {s t : σ} {l : List ι} (hs : I s) (h : run step s l = .ok t) :
    view t = l.foldl next (view s) := by
  induction l generalizing s with
  | nil => exact Except.ok.inj h ▸ rfl
  | cons i l ih =>
    obtain ⟨u, hu, ht⟩ := run_cons.mp h
    rw [List.foldl_cons, ← hstep s i u hs hu]
    exact ih (hI s i u hs hu) ht

/-- **Faults.**  A run that stops, stops at one of its inputs. -/
theorem run_eq_error {s : σ} {l : List ι} {e : ε} (h : run step s l = .error e) :
    ∃ l₁ i l₂ t, l = l₁ ++ i :: l₂ ∧ run step s l₁ = .ok t ∧ step t i = .error e := by
  induction l generalizing s with
  | nil => cases h
  | cons i l ih =>
    unfold run at h
    split at h
    · rename_i u hu
      obtain ⟨l₁, j, l₂, t, rfl, ht, he⟩ := ih h
      exact ⟨i :: l₁, j, l₂, t, rfl, run_cons.mpr ⟨u, hu, ht⟩, he⟩
    · rename_i e' he
      obtain rfl : e' = e := Except.error.inj h
      exact ⟨[], i, l, s, rfl, rfl, he⟩

theorem run_append_eq (s : σ) (l₁ l₂ : List ι) :
    run step s (l₁ ++ l₂) =
      match run step s l₁ with
      | .ok t => run step t l₂
      | .error e => .error e := by
  induction l₁ generalizing s with
  | nil => rfl
  | cons i l₁ ih =>
    rw [List.cons_append, run, run]
    cases step s i with
    | ok t => exact ih t
    | error e => rfl

/-- Inputs that are batches of smaller ones are read batch by batch. -/
theorem run_flatMap {κ : Type} {step' : σ → κ → Except ε σ} {f : ι → List κ}
    (h : ∀ s i, step s i = run step' s (f i)) (s : σ) (l : List ι) :
    run step s l = run step' s (l.flatMap f) := by
  induction l generalizing s with
  | nil => rfl
  | cons i l ih =>
    rw [List.flatMap_cons, run_append_eq, run, h]
    cases run step' s (f i) with
    | ok t => exact ih t
    | error e => rfl

/-- Inputs that do nothing can be left out, and the others read through `f`. -/
theorem run_filterMap_mem {κ : Type} {step' : σ → κ → Except ε σ} {f : ι → Option κ} {l : List ι}
    (h : ∀ s, ∀ i ∈ l, step s i = (f i).elim (.ok s) (step' s)) (s : σ) :
    run step s l = run step' s (l.filterMap f) := by
  induction l generalizing s with
  | nil => rfl
  | cons i l ih =>
    have hi := h s i List.mem_cons_self
    have ih := ih fun s j hj => h s j (List.mem_cons_of_mem i hj)
    cases hf : f i with
    | none =>
      rw [List.filterMap_cons_none hf, ← ih s]
      simp [run, hi, hf]
    | some k =>
      rw [List.filterMap_cons_some hf]
      cases hk : step' s k <;> simp [run, hi, hf, hk, ih]

theorem run_filterMap {κ : Type} {step' : σ → κ → Except ε σ} {f : ι → Option κ}
    (h : ∀ s i, step s i = (f i).elim (.ok s) (step' s)) (s : σ) (l : List ι) :
    run step s l = run step' s (l.filterMap f) :=
  run_filterMap_mem (fun s i _ => h s i) s

/-- Faults may be renamed before the run or after it. -/
theorem run_mapError {ε' : Type} (f : ε → ε') (s : σ) (l : List ι) :
    run (fun s i => (step s i).mapError f) s l = (run step s l).mapError f := by
  induction l generalizing s with
  | nil => rfl
  | cons i l ih =>
    unfold run
    cases step s i with
    | ok t => exact ih t
    | error e => rfl

/-! ## Runs seen through a view -/

/-- What a step shows through a view depends only on what its state shows: then so
does what a run shows. -/
theorem run_view {τ : Type} {view : σ → τ} {l : List ι}
    (h : ∀ s t, ∀ i ∈ l, view s = view t → (step s i).map view = (step t i).map view)
    {s t : σ} (hst : view s = view t) : (run step s l).map view = (run step t l).map view := by
  induction l generalizing s t with
  | nil => exact congrArg Except.ok hst
  | cons i l ih =>
    have hi := h s t i List.mem_cons_self hst
    unfold run
    cases hs : step s i with
    | ok u =>
      cases ht : step t i with
      | ok v =>
        rw [hs, ht] at hi
        exact ih (fun s t j hj => h s t j (List.mem_cons_of_mem i hj)) (Except.ok.inj hi)
      | error e =>
        rw [hs, ht] at hi
        cases hi
    | error e =>
      cases ht : step t i with
      | ok v =>
        rw [hs, ht] at hi
        cases hi
      | error e' =>
        rw [hs, ht] at hi
        rw [Except.error.inj hi]

/-- The same for two computations in sequence. -/
theorem bind_view {τ τ' α α' : Type} {view : α → τ} {view' : α' → τ'} {x y : Except ε α}
    {f g : α → Except ε α'} (h : x.map view = y.map view)
    (hfg : ∀ a b, view a = view b → (f a).map view' = (g b).map view') :
    (x >>= f).map view' = (y >>= g).map view' := by
  cases x with
  | ok a =>
    cases y with
    | ok b => exact hfg a b (Except.ok.inj h)
    | error e => cases h
  | error e =>
    cases y with
    | ok b => cases h
    | error e' =>
      obtain rfl := Except.error.inj h
      rfl

/-- **Unwinding.**  If moreover the hidden inputs do not change what is shown, a run
that completes also completes without them, and shows the same. -/
theorem run_hide {τ : Type} {view : σ → τ} {shown : ι → Bool}
    (hshown : ∀ s t i, shown i = true → view s = view t →
      (step s i).map view = (step t i).map view)
    (hhidden : ∀ s i t, shown i = false → step s i = .ok t → view t = view s)
    {s s' t : σ} {l : List ι} (hs : view s = view s') (h : run step s l = .ok t) :
    ∃ t', run step s' (l.filter shown) = .ok t' ∧ view t = view t' := by
  induction l generalizing s s' with
  | nil => exact ⟨s', rfl, Except.ok.inj h ▸ hs⟩
  | cons i l ih =>
    obtain ⟨u, hu, ht⟩ := run_cons.mp h
    cases hi : shown i with
    | false =>
      rw [List.filter_cons_of_neg (by simp [hi])]
      exact ih ((hhidden s i u hi hu).trans hs) ht
    | true =>
      have hstep := hshown s s' i hi hs
      rw [hu] at hstep
      cases hu' : step s' i with
      | error e =>
        rw [hu'] at hstep
        cases hstep
      | ok u' =>
        rw [hu'] at hstep
        obtain ⟨t', ht', hview⟩ := ih (Except.ok.inj hstep) ht
        rw [List.filter_cons_of_pos hi]
        exact ⟨t', run_cons.mpr ⟨u', hu', ht'⟩, hview⟩

/-- **Noninterference.**  Two runs that differ in hidden inputs only show the same. -/
theorem view_eq_of_filter_eq {τ : Type} {view : σ → τ} {shown : ι → Bool}
    (hshown : ∀ s t i, shown i = true → view s = view t →
      (step s i).map view = (step t i).map view)
    (hhidden : ∀ s i t, shown i = false → step s i = .ok t → view t = view s)
    {s t t' : σ} {l l' : List ι} (hl : l.filter shown = l'.filter shown)
    (h : run step s l = .ok t) (h' : run step s l' = .ok t') : view t = view t' := by
  obtain ⟨u, hu, htu⟩ := run_hide hshown hhidden rfl h
  obtain ⟨u', hu', htu'⟩ := run_hide hshown hhidden rfl h'
  rw [hl] at hu
  obtain rfl := Except.ok.inj (hu.symm.trans hu')
  exact htu.trans htu'.symm

/-! ## Conditions on the steps of a run -/

theorem meets_of_forall {C : σ → ι → Prop} {l : List ι} (h : ∀ s, ∀ i ∈ l, C s i) (s : σ) :
    Meets step C s l := by
  induction l generalizing s with
  | nil => trivial
  | cons i l ih =>
    exact fun t _ => ⟨h s i List.mem_cons_self,
      ih (fun s j hj => h s j (List.mem_cons_of_mem i hj)) t⟩

theorem Meets.of_append {C : σ → ι → Prop} {s : σ} {l₁ l₂ : List ι}
    (h : Meets step C s (l₁ ++ l₂)) : Meets step C s l₁ := by
  induction l₁ generalizing s with
  | nil => trivial
  | cons i l₁ ih => exact fun t ht => ⟨(h t ht).1, ih (h t ht).2⟩

theorem Meets.imp {C D : σ → ι → Prop} (hCD : ∀ s i, C s i → D s i) {s : σ} {l : List ι}
    (h : Meets step C s l) : Meets step D s l := by
  induction l generalizing s with
  | nil => trivial
  | cons i l ih => exact fun t ht => ⟨hCD s i (h t ht).1, ih (h t ht).2⟩

/-- Two conditions that agree on completed steps from the states of an invariant, which
a step under the first keeps. -/
theorem meets_iff {I : σ → Prop} {C D : σ → ι → Prop}
    (h : ∀ s i t, I s → step s i = .ok t → (C s i ↔ D s i))
    (hI : ∀ s i t, I s → C s i → step s i = .ok t → I t) {s : σ} {l : List ι} (hs : I s) :
    Meets step C s l ↔ Meets step D s l := by
  induction l generalizing s with
  | nil => exact Iff.rfl
  | cons i l ih =>
    refine forall_congr' fun t => imp_congr_right fun ht => ?_
    rw [← h s i t hs ht]
    exact and_congr_right fun hC => ih (hI s i t hs hC ht)

/-- **Permanent violations.**  If a step ends in `P` exactly when it starts in
`P` and is taken under `C`, a run that starts in `P` ends in `P` exactly when all
its steps are taken under `C`: a violation is never repaired. -/
theorem run_iff_meets {I P : σ → Prop} {C : σ → ι → Prop} {s t : σ} {l : List ι}
    (hI : ∀ s i t, I s → step s i = .ok t → I t)
    (hstep : ∀ s, ∀ i ∈ l, ∀ t, I s → step s i = .ok t → (P t ↔ P s ∧ C s i))
    (hs : I s) (h : run step s l = .ok t) : P t ↔ P s ∧ Meets step C s l := by
  induction l generalizing s with
  | nil => simp [Meets, Except.ok.inj h]
  | cons i l ih =>
    obtain ⟨u, hu, ht⟩ := run_cons.mp h
    have hrest := ih (fun s j hj => hstep s j (List.mem_cons_of_mem i hj)) (hI s i u hs hu) ht
    rw [hrest, hstep s i List.mem_cons_self u hs hu]
    simp only [Meets, hu, Except.ok.injEq, forall_eq', and_assoc]

/-- **Conditional invariants.**  What a step keeps if it is taken under `C` holds
throughout a run whose completed steps are taken under `C`. -/
theorem throughout_of_meets {I : σ → Prop} {C : σ → ι → Prop}
    (hstep : ∀ s i t, I s → C s i → step s i = .ok t → I t) {s : σ} {l : List ι} (hs : I s)
    (h : Meets step C s l) : Throughout step I s l := by
  induction l generalizing s with
  | nil =>
    intro l₁ l₂ t hl ht
    obtain ⟨rfl, -⟩ := List.append_eq_nil_iff.mp hl.symm
    exact Except.ok.inj ht ▸ hs
  | cons i l ih =>
    intro l₁ l₂ t hl ht
    cases l₁ with
    | nil => exact Except.ok.inj ht ▸ hs
    | cons j l₁ =>
      obtain ⟨rfl, hl'⟩ := List.cons.inj hl
      obtain ⟨u, hu, ht⟩ := run_cons.mp ht
      obtain ⟨hC, hM⟩ := h u hu
      exact ih (hstep s i u hs hC hu) hM l₁ l₂ t hl' ht

/-- **Invariants with a history**: of the state and the inputs read so far. -/
theorem run_history {I : List ι → σ → Prop} {C : σ → ι → Prop}
    (hstep : ∀ l s i t, I l s → C s i → step s i = .ok t → I (l ++ [i]) t) {s t : σ}
    {l : List ι} (hs : I [] s) (hl : Meets step C s l) (h : run step s l = .ok t) : I l t := by
  suffices hgen : ∀ (read : List ι) (s : σ) (l : List ι), I read s → Meets step C s l →
      run step s l = .ok t → I (read ++ l) t from hgen [] s l hs hl h
  intro read s l
  induction l generalizing read s with
  | nil =>
    intro hs _ h
    rw [List.append_nil]
    exact Except.ok.inj h ▸ hs
  | cons i l ih =>
    intro hs hl h
    obtain ⟨u, hu, h⟩ := run_cons.mp h
    obtain ⟨hC, hl⟩ := hl u hu
    rw [← List.singleton_append, ← List.append_assoc]
    exact ih (read ++ [i]) u (hstep read s i u hs hC hu) hl h

/-- **Progress.**  `P k` says that `k` blocks of inputs are enough for what is left to do.
If no input undoes anything, and a block gets one further whatever happens in between, they
are. -/
theorem run_progress {P : Nat → σ → Prop} {B : List ι → Prop} {Q : ι → Prop}
    (hstep : ∀ k s i t, Q i → P k s → step s i = .ok t → P k t)
    (hblock : ∀ k block l s t, B block → block.Sublist l → (∀ i ∈ l, Q i) → P (k + 1) s →
      run step s l = .ok t → P k t)
    {blocks : List (List ι)} {l : List ι} {s t : σ} (hB : ∀ block ∈ blocks, B block)
    (hsub : blocks.flatten.Sublist l) (hQ : ∀ i ∈ l, Q i) (hs : P blocks.length s)
    (h : run step s l = .ok t) : P 0 t := by
  induction blocks generalizing s l with
  | nil => exact run_invariant_mem (fun s i hi t => hstep 0 s i t (hQ i hi)) hs h
  | cons block blocks ih =>
    rw [List.flatten_cons] at hsub
    obtain ⟨l₁, l₂, rfl, hsub₁, hsub₂⟩ := List.append_sublist_iff.mp hsub
    obtain ⟨u, hu, ht⟩ := run_append.mp h
    have hPu : P blocks.length u := hblock _ block l₁ s u (hB block List.mem_cons_self) hsub₁
      (fun i hi => hQ i (List.mem_append_left _ hi)) hs hu
    exact ih (fun block hb => hB block (List.mem_cons_of_mem _ hb)) hsub₂
      (fun i hi => hQ i (List.mem_append_right _ hi)) hPu ht

/-- A property of all states reached is a condition that every step meets. -/
theorem Throughout.meets {P : σ → Prop} {s : σ} {l : List ι} (h : Throughout step P s l) :
    Meets step (fun s _ => P s) s l := by
  induction l generalizing s with
  | nil => trivial
  | cons i l ih =>
    intro u hu
    refine ⟨h [] (i :: l) s rfl rfl, ih ?_⟩
    intro l₁ l₂ t hl ht
    exact h (i :: l₁) l₂ t (by rw [hl]; rfl) (run_cons.mpr ⟨u, hu, ht⟩)

theorem Throughout.imp {P Q : σ → Prop} {s : σ} {l : List ι} (h : Throughout step P s l)
    (hPQ : ∀ s, P s → Q s) : Throughout step Q s l :=
  fun l₁ l₂ t hl ht => hPQ t (h l₁ l₂ t hl ht)

/-- **Conditional invariants, exactly.**  If a step from a state of `P` ends in
`P` exactly when it is taken under `C`, then `P` holds throughout a run exactly
when every completed step of it is taken under `C`. -/
theorem throughout_iff_meets {I P : σ → Prop} {C : σ → ι → Prop}
    (hI : ∀ s i t, I s → step s i = .ok t → I t)
    (hstep : ∀ s i t, I s → P s → step s i = .ok t → (P t ↔ C s i))
    {s : σ} {l : List ι} (hs : I s) (hP : P s) :
    Throughout step P s l ↔ Meets step C s l := by
  induction l generalizing s with
  | nil =>
    refine ⟨fun _ => trivial, fun _ l₁ l₂ t hl ht => ?_⟩
    obtain ⟨rfl, -⟩ := List.append_eq_nil_iff.mp hl.symm
    exact Except.ok.inj ht ▸ hP
  | cons i l ih =>
    constructor
    · intro h u hu
      have hPu : P u := h [i] l u rfl (run_singleton.trans hu)
      refine ⟨(hstep s i u hs hP hu).mp hPu, (ih (hI s i u hs hu) hPu).mp ?_⟩
      intro l₁ l₂ t hl ht
      exact h (i :: l₁) l₂ t (by rw [hl]; rfl) (run_cons.mpr ⟨u, hu, ht⟩)
    · intro h l₁ l₂ t hl ht
      cases l₁ with
      | nil => exact Except.ok.inj ht ▸ hP
      | cons j l₁ =>
        obtain ⟨rfl, hl'⟩ := List.cons.inj hl
        obtain ⟨u, hu, ht⟩ := run_cons.mp ht
        obtain ⟨hC, hM⟩ := h u hu
        have hPu : P u := (hstep s i u hs hP hu).mpr hC
        exact (ih (hI s i u hs hu) hPu).mpr hM l₁ l₂ t hl' ht

end Steps
