import Mathlib.Data.List.Infix
import Mathlib.Data.List.Nodup
import Mathlib.Data.List.ReduceOption

/-! # Lists that repeat their elements, with null elements, with a separator

* `flatMap_replicate_inj` — how often each element is repeated can be read off the result.
* `flatMap_reduceOption` — a loop that skips null elements.
* `append_cons_inj_of_notMem_right` — a list is split at the last occurrence of a separator.
* `labelled` — the results of a loop, each with the position of the element it comes from.
* `foldlM_append_eq_some_iff` — a loop that appends what each element gives, or fails. -/

namespace DemoColombia

variable {α β γ : Type*}

theorem count_flatMap_replicate [DecidableEq α] (m : α → ℕ) (l : List α) (a : α) :
    (l.flatMap fun b => List.replicate (m b) b).count a = l.count a * m a := by
  induction l with
  | nil => simp
  | cons b l ih =>
    rw [List.flatMap_cons, List.count_append, ih, List.count_replicate, List.count_cons]
    by_cases hb : b = a
    · subst hb
      rw [if_pos (beq_self_eq_true b), if_pos (beq_self_eq_true b), Nat.add_mul, Nat.one_mul,
        Nat.add_comm]
    · simp [hb]

/-- **Repeating each element `m` times or `n` times gives the same list iff `m` and `n` agree on its
elements.** -/
theorem flatMap_replicate_inj [DecidableEq α] {m n : α → ℕ} {l : List α} :
    (l.flatMap fun a => List.replicate (m a) a) = (l.flatMap fun a => List.replicate (n a) a) ↔
      ∀ a ∈ l, m a = n a := by
  constructor
  · intro h a ha
    have hcount := congrArg (List.count a) h
    rw [count_flatMap_replicate, count_flatMap_replicate] at hcount
    exact Nat.eq_of_mul_eq_mul_left (List.count_pos_iff.mpr ha) hcount
  · intro h
    exact List.flatMap_congr fun a ha => by rw [h a ha]

theorem filter_eq_flatMap_replicate (p : α → Prop) [DecidablePred p] (l : List α) :
    l.filter (fun a => p a) = l.flatMap fun a => List.replicate (if p a then 1 else 0) a := by
  induction l with
  | nil => rfl
  | cons a l ih =>
    rw [List.flatMap_cons, ← ih]
    by_cases ha : p a <;> simp [ha]

/-- A loop that skips null elements runs over the others. -/
theorem flatMap_reduceOption (f : Option α → List β) (hnone : f none = []) (l : List (Option α)) :
    l.flatMap f = l.reduceOption.flatMap fun a => f (some a) := by
  induction l with
  | nil => rfl
  | cons o l ih =>
    cases o with
    | none => rw [List.flatMap_cons, hnone, ih, List.reduceOption_cons_of_none, List.nil_append]
    | some a => rw [List.flatMap_cons, ih, List.reduceOption_cons_of_some, List.flatMap_cons]

/-- **The part behind the last separator** determines the part before it. -/
theorem append_cons_inj_of_notMem_right {a : α} {l l' r r' : List α} (hr : a ∉ r) (hr' : a ∉ r') :
    l ++ a :: r = l' ++ a :: r' ↔ l = l' ∧ r = r' := by
  refine ⟨fun h => ?_, fun h => by rw [h.1, h.2]⟩
  -- the longer of the two left parts goes on with the separator, unless they are the same
  rcases List.append_eq_append_iff.mp h with ⟨m, rfl, hm⟩ | ⟨m, rfl, hm⟩
  all_goals
    cases m with
    | nil =>
      obtain ⟨-, rfl⟩ := List.cons.inj hm
      exact ⟨by rw [List.append_nil], rfl⟩
    | cons b m =>
      obtain ⟨-, rfl⟩ := List.cons.inj hm
      simp at hr hr'

/-- The last nonempty prefix of a list is the list. -/
theorem getLast?_tail_inits {l : List α} (h : l ≠ []) : l.inits.tail.getLast? = some l := by
  have hne : l.inits.tail ≠ [] := by
    intro hnil
    have hlength := congrArg List.length hnil
    rw [List.length_tail, List.length_inits] at hlength
    exact h (List.length_eq_zero_iff.mp hlength)
  rw [List.getLast?_eq_some_getLast hne, List.getLast_tail, List.getLast_eq_getElem,
    List.getElem_inits]
  simp

/-! ## Loops that keep track of the position -/

/-- `l.flatMap f`, each result with the position of its element. -/
def labelled (f : α → List β) (l : List α) : List (ℕ × β) :=
  l.zipIdx.flatMap fun a => (f a.1).map (Prod.mk a.2)

/-- Without the positions it is the loop. -/
theorem map_snd_labelled (f : α → List β) (l : List α) :
    (labelled f l).map Prod.snd = l.flatMap f := by
  have hbody : ∀ a : α × ℕ, ((f a.1).map (Prod.mk a.2)).map Prod.snd = f a.1 := by
    intro a
    rw [List.map_map]
    exact List.map_id _
  rw [labelled, List.map_flatMap, List.flatMap_congr fun a _ => hbody a,
    ← List.flatMap_map, List.zipIdx_map_fst]

theorem mem_labelled {f : α → List β} {l : List α} {i : ℕ} {b : β} :
    (i, b) ∈ labelled f l ↔ ∃ a, l[i]? = some a ∧ b ∈ f a := by
  simp only [labelled, List.mem_flatMap, List.mem_map, Prod.mk.injEq]
  constructor
  · rintro ⟨⟨a, j⟩, ha, b, hb, rfl, rfl⟩
    exact ⟨a, List.mem_zipIdx_iff_getElem?.mp ha, hb⟩
  · rintro ⟨a, ha, hb⟩
    exact ⟨(a, i), List.mem_zipIdx_iff_getElem?.mpr ha, b, hb, rfl, rfl⟩

/-- **What one element contributes**: the results at position `i` are those of the element there. -/
theorem filterMap_labelled (f : α → List β) (g : β → Option γ) (l : List α) (i : ℕ) :
    (labelled f l).filterMap (fun p => if p.1 = i then g p.2 else none)
      = (l[i]?.toList.flatMap f).filterMap g := by
  -- the positions start at `n`, so that the induction hypothesis is about the tail
  suffices h : ∀ n, ((l.zipIdx n).flatMap fun a => (f a.1).map (Prod.mk a.2)).filterMap
      (fun p => if p.1 = n + i then g p.2 else none) = (l[i]?.toList.flatMap f).filterMap g by
    simpa [labelled] using h 0
  induction l generalizing i with
  | nil => simp
  | cons a l ih =>
    intro n
    rw [List.zipIdx_cons, List.flatMap_cons, List.filterMap_append, List.filterMap_map]
    cases i with
    | zero =>
      have hrest : ((l.zipIdx (n + 1)).flatMap fun a => (f a.1).map (Prod.mk a.2)).filterMap
          (fun p => if p.1 = n + 0 then g p.2 else none) = [] := by
        rw [List.filterMap_eq_nil_iff]
        rintro ⟨j, b⟩ hb
        simp only [List.mem_flatMap, List.mem_map, Prod.mk.injEq] at hb
        obtain ⟨⟨a', j'⟩, ha', b', -, rfl, rfl⟩ := hb
        have hle := List.le_snd_of_mem_zipIdx ha'
        rw [if_neg (by simp only at hle ⊢; omega)]
      rw [hrest, List.append_nil]
      simp
    | succ i =>
      have hhead : (f a).filterMap
          ((fun p : ℕ × β => if p.1 = n + (i + 1) then g p.2 else none) ∘ Prod.mk n) = [] := by
        rw [List.filterMap_eq_nil_iff]
        intro b _
        exact if_neg (by simp)
      have hih := ih i (n + 1)
      rw [Nat.add_right_comm, Nat.add_assoc] at hih
      rw [hhead, List.nil_append, hih, List.getElem?_cons_succ]

/-! ## Loops that may fail -/

/-- A loop that appends what each element gives fails iff one of them does. -/
theorem foldlM_append_eq_some_iff {f : γ → Option (List β)} {l : List γ} {acc r : List β} :
    l.foldlM (fun acc c => (f c).map (acc ++ ·)) acc = some r ↔
      (∀ c ∈ l, (f c).isSome) ∧ r = acc ++ l.flatMap fun c => (f c).getD [] := by
  induction l generalizing acc with
  | nil =>
    rw [List.foldlM_nil, List.flatMap_nil, List.append_nil]
    refine ⟨fun h => ⟨List.forall_mem_nil _, (Option.some.inj h).symm⟩, fun h => ?_⟩
    rw [h.2]
    rfl
  | cons c l ih =>
    rw [List.foldlM_cons, List.forall_mem_cons, List.flatMap_cons]
    cases hc : f c with
    | none => simp
    | some xs =>
      rw [Option.map_some, Option.bind_eq_bind, Option.bind_some, ih, Option.getD_some,
        List.append_assoc]
      simp

end DemoColombia
