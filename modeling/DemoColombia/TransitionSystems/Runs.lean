import Mathlib.Data.List.Count

/-! # Runs of a partial step function

A concurrent program is a partial step function `next : σ → ι → Option σ`: a label `i` names which
thread moves and every choice of the environment, and `next s i = none` says the move is blocked.

* `ReachableBy next ok s₀` — the states reached from `s₀` by steps whose source state and label meet
  `ok`; `Reachable` puts no condition on the steps.
* `ReachableBy.invariant` — the induction every safety result goes through.
* `exec` — replays a list of labels, so that a concrete schedule can be evaluated.
* `exec_countP_le` — bounds how often a kind of step occurs by a measure that it decreases.
* `statesAlong_iff_stepsAlong` — a run keeps a property in all its states exactly when all its steps
  meet the condition. -/

namespace DemoColombia

variable {σ ι : Type*} {next : σ → ι → Option σ} {ok ok' : σ → ι → Prop} {s₀ s s' : σ}

/-- The states reached from `s₀` by steps that all meet `ok` (a condition on the state before the
step and on its label). -/
inductive ReachableBy (next : σ → ι → Option σ) (ok : σ → ι → Prop) (s₀ : σ) : σ → Prop
  | refl : ReachableBy next ok s₀ s₀
  | step {s s' : σ} {i : ι} :
      ReachableBy next ok s₀ s → ok s i → next s i = some s' → ReachableBy next ok s₀ s'

/-- The states reached from `s₀` by any steps. -/
abbrev Reachable (next : σ → ι → Option σ) (s₀ : σ) : σ → Prop :=
  ReachableBy next (fun _ _ => True) s₀

/-- **Invariant rule**: what holds initially and is preserved by every step that meets `ok` holds
of every state reached by such steps. -/
theorem ReachableBy.invariant {P : σ → Prop} (h : ReachableBy next ok s₀ s) (init : P s₀)
    (preserved : ∀ s i s', P s → ok s i → next s i = some s' → P s') : P s := by
  induction h with
  | refl => exact init
  | step _ hok hnext ih => exact preserved _ _ _ ih hok hnext

/-- Weakening the condition on the steps. -/
theorem ReachableBy.mono (h : ReachableBy next ok s₀ s) (himp : ∀ s i, ok s i → ok' s i) :
    ReachableBy next ok' s₀ s := by
  induction h with
  | refl => exact .refl
  | step _ hok hnext ih => exact .step ih (himp _ _ hok) hnext

/-- A state reached under a condition is reachable. -/
theorem ReachableBy.reachable (h : ReachableBy next ok s₀ s) : Reachable next s₀ s :=
  h.mono fun _ _ _ => trivial

/-- Two runs compose. -/
theorem ReachableBy.trans (h : ReachableBy next ok s₀ s) (h' : ReachableBy next ok s s') :
    ReachableBy next ok s₀ s' := by
  induction h' with
  | refl => exact h
  | step _ hok hnext ih => exact .step ih hok hnext

/-! ## Replaying a schedule -/

/-- Replay the labels `is` from `s`; `none` when some move is blocked. -/
def exec (next : σ → ι → Option σ) : σ → List ι → Option σ
  | s, [] => some s
  | s, i :: is => (next s i).bind fun s' => exec next s' is

theorem exec_cons_eq_some {i : ι} {is : List ι} :
    exec next s (i :: is) = some s' ↔ ∃ t, next s i = some t ∧ exec next t is = some s' := by
  rw [exec, Option.bind_eq_some_iff]

theorem exec_singleton (i : ι) : exec next s [i] = next s i := by
  rw [exec]
  cases next s i <;> rfl

/-- Schedules compose. -/
theorem exec_append {is is' : List ι} (h : exec next s is = some s') :
    exec next s (is ++ is') = exec next s' is' := by
  induction is generalizing s with
  | nil =>
    obtain rfl : s = s' := Option.some.inj h
    rfl
  | cons i is ih =>
    obtain ⟨t, hstep, hrest⟩ := exec_cons_eq_some.mp h
    rw [List.cons_append, exec, hstep, Option.bind_some, ih hrest]

/-- The step function that blocks every move failing `ok`. -/
def guarded (next : σ → ι → Option σ) (ok : σ → ι → Prop) [∀ s i, Decidable (ok s i)] (s : σ)
    (i : ι) : Option σ :=
  if ok s i then next s i else none

theorem guarded_eq_some [∀ s i, Decidable (ok s i)] {i : ι} :
    guarded next ok s i = some s' ↔ ok s i ∧ next s i = some s' := by
  unfold guarded
  split <;> simp_all

/-- A replayed schedule of the guarded step function is a run whose steps all meet the guard. -/
theorem reachableBy_of_exec_guarded [∀ s i, Decidable (ok s i)] {is : List ι}
    (h : exec (guarded next ok) s is = some s') : ReachableBy next ok s s' := by
  induction is generalizing s with
  | nil =>
    obtain rfl : s = s' := Option.some.inj h
    exact .refl
  | cons i is ih =>
    obtain ⟨t, hstep, hrest⟩ := exec_cons_eq_some.mp h
    obtain ⟨hok, hnext⟩ := guarded_eq_some.mp hstep
    exact (ReachableBy.refl.step hok hnext).trans (ih hrest)

/-- A guard that always holds changes nothing. -/
theorem guarded_true : guarded next (fun _ _ => True) = next := by
  funext s i
  exact if_pos trivial

/-- A replayed schedule reaches its final state. -/
theorem reachable_of_exec {is : List ι} (h : exec next s is = some s') : Reachable next s s' := by
  rw [← @guarded_true σ ι next] at h
  exact reachableBy_of_exec_guarded h

/-- **Counting rule**: if, under an invariant `P` of the steps that meet `ok`, every step of a kind
decreases the measure `m` and no other step increases it, then a run takes at most `m s` steps of
that kind. -/
theorem exec_countP_le [∀ s i, Decidable (ok s i)] {P : σ → Prop} {k : ι → Bool} {m : σ → ℕ}
    (preserved : ∀ s i s', P s → ok s i → next s i = some s' → P s')
    (decreases : ∀ s i s', P s → ok s i → next s i = some s' →
      if k i then m s' < m s else m s' ≤ m s)
    {is : List ι} (hs : P s) (h : exec (guarded next ok) s is = some s') :
    is.countP k + m s' ≤ m s := by
  induction is generalizing s with
  | nil =>
    obtain rfl : s = s' := Option.some.inj h
    simp
  | cons i is ih =>
    -- the head pays with the measure at `s`, the tail with what is left of it at `t`
    obtain ⟨t, hstep, hrest⟩ := exec_cons_eq_some.mp h
    obtain ⟨hok, hnext⟩ := guarded_eq_some.mp hstep
    have htail := ih (preserved _ _ _ hs hok hnext) hrest
    have hhead := decreases _ _ _ hs hok hnext
    rw [List.countP_cons]
    split at hhead <;> simp_all <;> omega

/-! ## Exact conditions -/

/-- Every state of the run along `is` from `s` has `P`; the run ends where a move is blocked. -/
def StatesAlong (next : σ → ι → Option σ) (P : σ → Prop) : σ → List ι → Prop
  | s, [] => P s
  | s, i :: is => P s ∧ ∀ s', next s i = some s' → StatesAlong next P s' is

/-- Every step of the run along `is` from `s` meets `ok`. -/
def StepsAlong (next : σ → ι → Option σ) (ok : σ → ι → Prop) : σ → List ι → Prop
  | _, [] => True
  | s, i :: is => ∀ s', next s i = some s' → ok s i ∧ StepsAlong next ok s' is

theorem StatesAlong.head {P : σ → Prop} {is : List ι} (h : StatesAlong next P s is) : P s := by
  cases is with
  | nil => exact h
  | cons i is => exact h.1

theorem StatesAlong.last {P : σ → Prop} {is : List ι} (h : StatesAlong next P s is)
    (hexec : exec next s is = some s') : P s' := by
  induction is generalizing s with
  | nil =>
    obtain rfl : s = s' := Option.some.inj hexec
    exact h
  | cons i is ih =>
    obtain ⟨t, hstep, hrest⟩ := exec_cons_eq_some.mp hexec
    exact ih (h.2 t hstep) hrest

/-- **Exactness rule**: if an invariant that the steps meeting `ok` preserve gives `P`, and every
other step leads to a state without `P`, then a run has `P` in all its states iff all its steps meet
`ok`. -/
theorem statesAlong_iff_stepsAlong {Inv P : σ → Prop} (holds : ∀ s, Inv s → P s)
    (preserved : ∀ s i s', Inv s → ok s i → next s i = some s' → Inv s')
    (breaks : ∀ s i s', Inv s → next s i = some s' → P s' → ok s i) {is : List ι} (hs : Inv s) :
    StatesAlong next P s is ↔ StepsAlong next ok s is := by
  induction is generalizing s with
  | nil => exact iff_of_true (holds s hs) trivial
  | cons i is ih =>
    constructor
    · rintro ⟨-, hrest⟩ s' hnext
      have hok := breaks s i s' hs hnext (hrest s' hnext).head
      exact ⟨hok, (ih (preserved s i s' hs hok hnext)).mp (hrest s' hnext)⟩
    · intro h
      refine ⟨holds s hs, fun s' hnext => ?_⟩
      obtain ⟨hok, hrest⟩ := h s' hnext
      exact (ih (preserved s i s' hs hok hnext)).mpr hrest

end DemoColombia
