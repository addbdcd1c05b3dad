import Mathlib.Data.List.Nodup

/-! # Loops over independent components, and their logs

A loop `l.foldl f s` runs a body `f · i` for every index `i` of `l`. `view s i` is the part of the
state that belongs to the component `i`; the body for `i` leaves every other part as it is.

* `foldl_view_of_notMem`, `foldl_view_of_mem` — what the whole loop does to one part: nothing, or
  what the body for its index does.
* `Throughout P log` — each record of a log stands in the relation `P` to the records before it;
  `throughout_concat` is its induction step.
* `foldl_filter_rel` — noninterference: a run and the run without the hidden events stay related. -/

namespace DemoColombia

variable {σ ρ ι τ α : Type*} {view : σ → ι → τ} {f : σ → ι → σ}

/-! ## Loops -/

/-- A loop leaves the parts whose index it does not visit as they are. -/
theorem foldl_view_of_notMem (other : ∀ s i j, j ≠ i → view (f s i) j = view s j) {l : List ι}
    {j : ι} (hj : j ∉ l) (s : σ) : view (l.foldl f s) j = view s j := by
  induction l generalizing s with
  | nil => rfl
  | cons i l ih =>
    rw [List.mem_cons, not_or] at hj
    rw [List.foldl_cons, ih hj.2, other s i j hj.1]

/-- **Loop rule**: what the body for `j` does to the part of `j`, a loop that visits `j` once does
too. -/
theorem foldl_view_of_mem {R : ι → τ → τ → Prop}
    (other : ∀ s i j, j ≠ i → view (f s i) j = view s j)
    (own : ∀ s i, R i (view s i) (view (f s i) i)) {l : List ι} (hl : l.Nodup) {j : ι} (hj : j ∈ l)
    (s : σ) : R j (view s j) (view (l.foldl f s) j) := by
  induction l generalizing s with
  | nil => cases hj
  | cons i l ih =>
    obtain ⟨hi, hl⟩ := List.nodup_cons.mp hl
    rw [List.foldl_cons]
    -- the body for `j` runs now and never again, or it runs later
    by_cases hji : j = i
    · subst hji
      rw [foldl_view_of_notMem other hi]
      exact own s j
    · have hmem : j ∈ l := (List.mem_cons.mp hj).resolve_left hji
      have htail := ih hl hmem (f s i)
      rwa [other s i j hji] at htail

/-! ## Logs -/

/-- Every record of the log stands in the relation `P` to the records before it. -/
def Throughout (P : List α → α → Prop) (log : List α) : Prop :=
  ∀ before a after, log = before ++ a :: after → P before a

theorem Throughout.nil (P : List α → α → Prop) : Throughout P [] := by
  intro before a after h
  exact absurd h.symm (List.append_ne_nil_of_right_ne_nil _ (List.cons_ne_nil _ _))

/-- A log grows by records that fit what is already there. -/
theorem throughout_concat {P : List α → α → Prop} {log : List α} {a : α} :
    Throughout P (log ++ [a]) ↔ Throughout P log ∧ P log a := by
  constructor
  · intro h
    refine ⟨fun before b after hlog => ?_, h log a [] rfl⟩
    exact h before b (after ++ [a]) (by rw [hlog, List.append_assoc, List.cons_append])
  · rintro ⟨hlog, ha⟩ before b after h
    -- the record looked at is the new one, or it was there before
    rcases List.eq_nil_or_concat after with rfl | ⟨after', c, rfl⟩
    · obtain ⟨rfl, hab⟩ := List.append_inj' h rfl
      rwa [← List.singleton_inj.mp hab]
    · rw [List.concat_eq_append, ← List.cons_append, ← List.append_assoc] at h
      obtain ⟨hbefore, -⟩ := List.append_inj' h rfl
      exact hlog before b after' hbefore

/-! ## Two runs -/

/-- Every step of the run of `f` from `s` meets `ok`. -/
def Along (f : σ → ι → σ) (ok : σ → ι → Prop) : σ → List ι → Prop
  | _, [] => True
  | s, e :: es => ok s e ∧ Along f ok (f s e) es

instance Along.decidable {ok : σ → ι → Prop} [∀ s e, Decidable (ok s e)] :
    ∀ s es, Decidable (Along f ok s es)
  | _, [] => isTrue trivial
  | s, e :: es =>
    have : Decidable (Along f ok (f s e) es) := Along.decidable (f s e) es
    inferInstanceAs (Decidable (ok s e ∧ Along f ok (f s e) es))

/-- **Noninterference rule**: two runs stay related, the second without the hidden events, if a
hidden event of the first keeps the relation and so does every other event taken by both. -/
theorem foldl_filter_rel {g : ρ → ι → ρ} {R : σ → ρ → Prop} {ok : σ → ι → Prop}
    {hidden : ι → Prop} [DecidablePred hidden]
    (stutter : ∀ s t e, R s t → ok s e → hidden e → R (f s e) t)
    (both : ∀ s t e, R s t → ok s e → ¬ hidden e → R (f s e) (g t e)) {es : List ι} {s : σ} {t : ρ}
    (h : Along f ok s es) (hst : R s t) :
    R (es.foldl f s) ((es.filter fun e => ¬ hidden e).foldl g t) := by
  induction es generalizing s t with
  | nil => exact hst
  | cons e es ih =>
    obtain ⟨hok, hrest⟩ := h
    by_cases he : hidden e
    · rw [List.filter_cons_of_neg (by simpa using he)]
      exact ih hrest (stutter s t e hst hok he)
    · rw [List.filter_cons_of_pos (by simpa using he)]
      exact ih hrest (both s t e hst hok he)

end DemoColombia
