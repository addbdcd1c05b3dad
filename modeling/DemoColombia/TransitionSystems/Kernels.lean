import Mathlib.Data.List.Range
import Mathlib.Logic.Function.Basic

/-! # Threads in any interleaving, and launches of many of them

A thread is the list of its effects on a shared state. The threads of one launch run in any
interleaving; where the effects of different threads commute, every interleaving ends where running
the threads one after the other does (`Interleaving.foldl_eq`). Stores to different cells commute
(`store_comm`), so a launch whose threads keep to cells of their own has one outcome
(`Outcome.eq_of_ownCells`).

A launch numbers its threads by block and place in the block; `filter_lt_launchIds` says that the
guard `id < n` leaves each number below `n` once, if the blocks are enough. -/

namespace DemoColombia

variable {σ ε α β τ : Type*}

/-! ## Interleavings -/

/-- An order in which the effects of some threads may happen: always the next one of some thread. -/
inductive Interleaving : List (List ε) → List ε → Prop
  | done {threads : List (List ε)} (h : ∀ t ∈ threads, t = []) : Interleaving threads []
  | step {before after : List (List ε)} {e : ε} {t es : List ε}
      (h : Interleaving (before ++ t :: after) es) :
      Interleaving (before ++ (e :: t) :: after) (e :: es)

/-- A thread with nothing to do changes nothing. -/
theorem Interleaving.cons_nil {threads : List (List ε)} {es : List ε}
    (h : Interleaving threads es) : Interleaving ([] :: threads) es := by
  induction h with
  | done h => exact .done (List.forall_mem_cons.mpr ⟨rfl, h⟩)
  | @step before after e t es _ ih => exact @Interleaving.step ε ([] :: before) after e t es ih

/-- One thread after the other is an interleaving. -/
theorem Interleaving.sequential (threads : List (List ε)) :
    Interleaving threads threads.flatten := by
  induction threads with
  | nil => exact .done (List.forall_mem_nil _)
  | cons t threads ih =>
    induction t with
    | nil => exact ih.cons_nil
    | cons e t iht => exact @Interleaving.step ε [] threads e t _ iht

/-- Threads that run after others are an interleaving of all. -/
theorem Interleaving.append {threads threads' : List (List ε)} {es es' : List ε}
    (h : Interleaving threads es) (h' : Interleaving threads' es') :
    Interleaving (threads ++ threads') (es ++ es') := by
  induction h with
  | @done threads hdone =>
    induction threads with
    | nil => exact h'
    | cons t threads ih =>
      obtain ⟨rfl, hthreads⟩ := List.forall_mem_cons.mp hdone
      exact (ih hthreads).cons_nil
  | @step before after e t es _ ih =>
    rw [List.append_assoc, List.cons_append] at ih ⊢
    exact .step ih

/-- An interleaving holds effects of the threads only. -/
theorem Interleaving.mem_flatten {threads : List (List ε)} {es : List ε}
    (h : Interleaving threads es) {e : ε} (he : e ∈ es) : e ∈ threads.flatten := by
  induction h with
  | done => cases he
  | @step before after e' t es _ ih =>
    rw [List.flatten_append, List.flatten_cons, List.mem_append, List.mem_append, List.mem_cons]
    rcases List.mem_cons.mp he with rfl | he
    · exact .inr (.inl (.inl rfl))
    · have hmem := ih he
      rw [List.flatten_append, List.flatten_cons, List.mem_append, List.mem_append] at hmem
      rcases hmem with hmem | hmem | hmem
      · exact .inl hmem
      · exact .inr (.inl (.inr hmem))
      · exact .inr (.inr hmem)

/-- An effect that commutes with every effect of a list commutes with the list. -/
theorem foldl_comm_of_forall {act : σ → ε → σ} {e : ε} {es : List ε}
    (h : ∀ e' ∈ es, ∀ s, act (act s e) e' = act (act s e') e) (s : σ) :
    es.foldl act (act s e) = act (es.foldl act s) e := by
  induction es generalizing s with
  | nil => rfl
  | cons e' es ih =>
    obtain ⟨he', hes⟩ := List.forall_mem_cons.mp h
    rw [List.foldl_cons, he', ih hes, List.foldl_cons]

/-- Two threads whose effects commute with each other. -/
def Separate (act : σ → ε → σ) (t t' : List ε) : Prop :=
  ∀ e ∈ t, ∀ e' ∈ t', ∀ s, act (act s e) e' = act (act s e') e

/-- **Every interleaving of separate threads ends where the sequential run does.** -/
theorem Interleaving.foldl_eq {act : σ → ε → σ} {threads : List (List ε)} {es : List ε}
    (h : Interleaving threads es) (hsep : threads.Pairwise (Separate act)) (s : σ) :
    es.foldl act s = threads.flatten.foldl act s := by
  induction h generalizing s with
  | done h =>
    have hflatten := List.flatten_eq_nil_iff.mpr h
    rw [hflatten]
  | @step before after e t es _ ih =>
    obtain ⟨hbefore, hrest, hcross⟩ := List.pairwise_append.mp hsep
    obtain ⟨ht, hafter⟩ := List.pairwise_cons.mp hrest
    have hsep' : (before ++ t :: after).Pairwise (Separate act) := by
      refine List.pairwise_append.mpr ⟨hbefore, List.pairwise_cons.mpr ⟨?_, hafter⟩, ?_⟩
      · exact fun u hu e' he' => ht u hu e' (List.mem_cons_of_mem _ he')
      · intro u hu v hv
        rcases List.mem_cons.mp hv with rfl | hv
        · exact fun a ha e' he' =>
            hcross u hu (e :: v) List.mem_cons_self a ha e' (List.mem_cons_of_mem _ he')
        · exact hcross u hu v (List.mem_cons_of_mem _ hv)
    -- the effect moves behind those of the threads before its own
    have hmove : ∀ e' ∈ before.flatten, ∀ s, act (act s e) e' = act (act s e') e := by
      intro e' he' s
      obtain ⟨u, hu, he'⟩ := List.mem_flatten.mp he'
      exact (hcross u hu (e :: t) List.mem_cons_self e' he' e List.mem_cons_self s).symm
    rw [List.foldl_cons, ih hsep']
    simp only [List.flatten_append, List.flatten_cons, List.foldl_append, List.foldl_cons]
    rw [foldl_comm_of_forall hmove]

/-! ## Stores -/

variable [DecidableEq α]

/-- A store: a cell, and what becomes of its content. -/
def store (m : α → β) (w : α × (β → β)) : α → β := Function.update m w.1 (w.2 (m w.1))

/-- Stores to different cells commute. -/
theorem store_comm {w w' : α × (β → β)} (h : w.1 ≠ w'.1) (m : α → β) :
    store (store m w) w' = store (store m w') w := by
  simp only [store]
  rw [Function.update_of_ne h.symm, Function.update_of_ne h, Function.update_comm h]

/-- The threads store to different cells. -/
def OwnCells (threads : List (List (α × (β → β)))) : Prop :=
  threads.Pairwise fun t t' => ∀ w ∈ t, ∀ w' ∈ t', w.1 ≠ w'.1

/-- What a launch of the threads may leave in memory. -/
def Outcome (threads : List (List (α × (β → β)))) (m m' : α → β) : Prop :=
  ∃ es, Interleaving threads es ∧ m' = es.foldl store m

theorem Outcome.sequential (threads : List (List (α × (β → β)))) (m : α → β) :
    Outcome threads m (threads.flatten.foldl store m) :=
  ⟨_, .sequential threads, rfl⟩

/-- Two launches, the second after the first. -/
theorem Outcome.append {threads threads' : List (List (α × (β → β)))} {m m₁ m₂ : α → β}
    (h : Outcome threads m m₁) (h' : Outcome threads' m₁ m₂) :
    Outcome (threads ++ threads') m m₂ := by
  obtain ⟨es, hes, rfl⟩ := h
  obtain ⟨es', hes', rfl⟩ := h'
  exact ⟨es ++ es', hes.append hes', List.foldl_append.symm⟩

/-- **Threads with cells of their own have one outcome.** -/
theorem Outcome.eq_of_ownCells {threads : List (List (α × (β → β)))} {m m' : α → β}
    (h : Outcome threads m m') (hown : OwnCells threads) :
    m' = threads.flatten.foldl store m := by
  obtain ⟨es, hes, rfl⟩ := h
  exact hes.foldl_eq (hown.imp fun hne w hw w' hw' s => store_comm (hne w hw w' hw') s) m

/-- Stores leave the other cells as they are. -/
theorem foldl_store_of_forall_ne {ws : List (α × (β → β))} {a : α} (h : ∀ w ∈ ws, w.1 ≠ a)
    (m : α → β) : ws.foldl store m a = m a := by
  induction ws generalizing m with
  | nil => rfl
  | cons w ws ih =>
    obtain ⟨hw, hws⟩ := List.forall_mem_cons.mp h
    rw [List.foldl_cons, ih hws, store, Function.update_of_ne (Ne.symm hw)]

/-- What stores make of a cell depends on its content alone. -/
theorem foldl_store_congr {ws : List (α × (β → β))} {a : α} {m m' : α → β} (h : m a = m' a) :
    ws.foldl store m a = ws.foldl store m' a := by
  induction ws generalizing m m' with
  | nil => exact h
  | cons w ws ih =>
    rw [List.foldl_cons, List.foldl_cons]
    refine ih ?_
    by_cases hw : a = w.1
    · subst hw
      rw [store, store, Function.update_self, Function.update_self, h]
    · rw [store, store, Function.update_of_ne hw, Function.update_of_ne hw, h]

/-- **What a launch leaves in a thread's own cell** is what that thread alone makes of it. -/
theorem Outcome.apply_of_mem {threads : List (List (α × (β → β)))} {m m' : α → β}
    (h : Outcome threads m m') (hown : OwnCells threads) {t : List (α × (β → β))}
    (ht : t ∈ threads) {w : α × (β → β)} (hw : w ∈ t) : m' w.1 = t.foldl store m w.1 := by
  obtain ⟨before, after, rfl⟩ := List.append_of_mem ht
  obtain ⟨-, hrest, hcross⟩ := List.pairwise_append.mp hown
  rw [h.eq_of_ownCells hown, List.flatten_append, List.flatten_cons, List.foldl_append,
    List.foldl_append, foldl_store_of_forall_ne]
  · -- the threads before it have left the cell as it was
    refine foldl_store_congr (foldl_store_of_forall_ne (fun v hv => ?_) m)
    obtain ⟨u, hu, hv⟩ := List.mem_flatten.mp hv
    exact hcross u hu t List.mem_cons_self v hv w hw
  · intro v hv
    obtain ⟨u, hu, hv⟩ := List.mem_flatten.mp hv
    exact ((List.pairwise_cons.mp hrest).1 u hu w hw v hv).symm

/-! ## Launches -/

/-- What some launches may leave, each beginning when the one before it has ended. -/
inductive Launches : List (List (List (α × (β → β)))) → (α → β) → (α → β) → Prop
  | nil (m : α → β) : Launches [] m m
  | cons {threads : List (List (α × (β → β)))} {launches : List (List (List (α × (β → β))))}
      {m m₁ m₂ : α → β} (h : Outcome threads m m₁) (h' : Launches launches m₁ m₂) :
      Launches (threads :: launches) m m₂

/-- **A sequence of launches** does nothing that one launch of all its threads could not do. -/
theorem Launches.outcome {launches : List (List (List (α × (β → β))))} {m m' : α → β}
    (h : Launches launches m m') : Outcome launches.flatten m m' := by
  induction h with
  | nil m => exact Outcome.sequential ([] : List (List (α × (β → β)))) m
  | cons h _ ih => exact h.append ih

/-- Launches whose threads run one after the other. -/
theorem Launches.sequential (launches : List (List (List (α × (β → β))))) (m : α → β) :
    Launches launches m (launches.flatten.flatten.foldl store m) := by
  induction launches generalizing m with
  | nil => exact .nil m
  | cons threads launches ih =>
    rw [List.flatten_cons, List.flatten_append, List.foldl_append]
    exact .cons (.sequential threads m) (ih _)

/-- The numbers of the threads of a launch along one axis. -/
def launchIds (blocks threads_per_block : ℕ) : List ℕ :=
  (List.range blocks).flatMap fun b => (List.range threads_per_block).map fun t =>
    b * threads_per_block + t

/-- A launch numbers its threads without gaps. -/
theorem launchIds_eq (blocks threads_per_block : ℕ) :
    launchIds blocks threads_per_block = List.range (blocks * threads_per_block) := by
  induction blocks with
  | zero => rw [Nat.zero_mul]; rfl
  | succ blocks ih =>
    rw [launchIds, List.range_succ, List.flatMap_append, ← launchIds, ih, Nat.succ_mul,
      List.range_add, List.flatMap_singleton]

/-- The numbers below a bound. -/
theorem filter_lt_range {n m : ℕ} (h : n ≤ m) :
    (List.range m).filter (· < n) = List.range n := by
  obtain ⟨k, rfl⟩ := Nat.exists_eq_add_of_le h
  have hlow : (List.range n).filter (· < n) = List.range n :=
    List.filter_eq_self.mpr fun i hi => decide_eq_true (List.mem_range.mp hi)
  have hhigh : ((List.range k).map (n + ·)).filter (· < n) = [] := by
    refine List.filter_eq_nil_iff.mpr fun i hi => ?_
    obtain ⟨j, -, rfl⟩ := List.mem_map.mp hi
    simp
  rw [List.range_add, List.filter_append, hlow, hhigh, List.append_nil]

/-- **The guard leaves each number below the bound once.** -/
theorem filter_lt_launchIds {n blocks threads_per_block : ℕ} (h : n ≤ blocks * threads_per_block) :
    (launchIds blocks threads_per_block).filter (· < n) = List.range n := by
  rw [launchIds_eq, filter_lt_range h]

/-- Threads that fail the guard do nothing. -/
theorem flatMap_launchIds {n blocks threads_per_block : ℕ} (h : n ≤ blocks * threads_per_block)
    (f : ℕ → List ε) :
    (launchIds blocks threads_per_block).flatMap (fun i => if i < n then f i else [])
      = (List.range n).flatMap f := by
  rw [← filter_lt_launchIds h]
  induction launchIds blocks threads_per_block with
  | nil => rfl
  | cons i ids ih =>
    rw [List.flatMap_cons, ih, List.filter_cons]
    by_cases hi : i < n
    · rw [if_pos hi, if_pos (decide_eq_true hi), List.flatMap_cons]
    · rw [if_neg hi, if_neg (mt of_decide_eq_true hi), List.nil_append]

end DemoColombia
