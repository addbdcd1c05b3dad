import DemoColombia.Backend.Threads

/-! # The atomic steps are the undisturbed runs

`on_message` and one sweep of `check_no_change`, as functions on the table, are what the two threads
compute when the other one does not move: from an idle callback thread a message is handled in a run
of callback steps (`exec_on_message`), and from its start a sweep is a run of checker steps
(`exec_check_no_change`). What is proved with atomic steps is so a statement about particular
interleavings of the accesses. -/

namespace DemoColombia.Backend

variable {PersonId : Type*} [DecidableEq PersonId]

/-- The alerts of earlier items stay in front. -/
theorem foldl_checkPerson_alerts (now : ℚ) (l : List PersonId) (ps : PersonState PersonId)
    (as : List (Alert PersonId)) :
    l.foldl (checkPerson now) (ps, as)
      = ((l.foldl (checkPerson now) (ps, [])).1, as ++ (l.foldl (checkPerson now) (ps, [])).2) := by
  induction l generalizing ps as with
  | nil => simp
  | cons q l ih =>
    have hitem : checkPerson now (ps, as) q
        = ((checkPerson now (ps, []) q).1, as ++ (checkPerson now (ps, []) q).2) := by
      cases hget : ps.get? q with
      | none => simp [checkPerson, hget]
      | some state =>
        simp only [checkPerson, hget]
        split <;> simp
    rw [List.foldl_cons, hitem, ih, List.foldl_cons, ih (checkPerson now (ps, []) q).1
      (checkPerson now (ps, []) q).2]
    simp

namespace Threads

/-- **A message handled without interference** is one step of `on_message`. -/
theorem exec_on_message (s : Threads PersonId) (hpc : s.callback = .idle) (p : PersonId)
    (clock : ℚ) :
    ∃ n, exec next s (.message p :: List.replicate n (.callback clock)) = some { s with
      person_state := (on_message s.person_state p clock).1
      alerts := s.alerts ++ (on_message s.person_state p clock).2 } := by
  cases hget : s.person_state.get? p with
  | none =>
    -- six accesses: look up, register, test, alert, mark, return
    refine ⟨6, ?_⟩
    have hregistered : (s.person_state.register p clock).get? p = some ⟨clock, false⟩ := by
      rw [PersonState.get?_register, if_pos rfl]
    simp [exec, next, callbackStep, List.replicate, on_message, PersonState.inside, hpc, hget,
      hregistered]
  | some state =>
    have htouched : (s.person_state.touch p clock).get? p
        = some { state with last_update := clock } := by
      rw [PersonState.get?_touch, if_pos rfl, hget]
      rfl
    cases hflag : state.inside_roi with
    | true =>
      -- four accesses: look up, touch, test, return
      refine ⟨4, ?_⟩
      simp [exec, next, callbackStep, List.replicate, on_message, PersonState.inside, hpc, hget,
        htouched, hflag]
    | false =>
      refine ⟨6, ?_⟩
      simp [exec, next, callbackStep, List.replicate, on_message, PersonState.inside, hpc, hget,
        htouched, hflag]

/-- One item of the snapshot, access by access. -/
theorem exec_checkPerson (s : Threads PersonId) {now : ℚ} {q : PersonId} {todo : List PersonId}
    (hpc : s.checker = .next now (q :: todo)) (hknown : (s.person_state.get? q).isSome)
    (clock : ℚ) :
    ∃ n, exec next s (List.replicate n (.checker clock)) = some { s with
      person_state := (checkPerson now (s.person_state, s.alerts) q).1
      alerts := (checkPerson now (s.person_state, s.alerts) q).2
      checker := .next now todo } := by
  obtain ⟨state, hget⟩ := Option.isSome_iff_exists.mp hknown
  cases hflag : state.inside_roi with
  | false =>
    -- `and` stops at its left operand
    refine ⟨1, ?_⟩
    simp [exec, next, checkerStep, List.replicate, checkPerson, hpc, hget, hflag]
  | true =>
    cases hexpired : expired now state.last_update with
    | false =>
      -- both operands are read
      refine ⟨2, ?_⟩
      simp [exec, next, checkerStep, List.replicate, checkPerson, hpc, hget, hflag, hexpired]
    | true =>
      -- and then the alert is issued and the flag lowered
      refine ⟨4, ?_⟩
      simp [exec, next, checkerStep, List.replicate, checkPerson, hpc, hget, hflag, hexpired]

/-- The loop over the snapshot. The induction is on what is left of it; every id in it stays known.
-/
theorem exec_foldl_checkPerson (now clock : ℚ) (todo : List PersonId) (s : Threads PersonId)
    (hpc : s.checker = .next now todo) (hknown : ∀ q ∈ todo, (s.person_state.get? q).isSome) :
    ∃ n, exec next s (List.replicate n (.checker clock)) = some { s with
      person_state := (todo.foldl (checkPerson now) (s.person_state, s.alerts)).1
      alerts := (todo.foldl (checkPerson now) (s.person_state, s.alerts)).2
      checker := .next now [] } := by
  induction todo generalizing s with
  | nil => exact ⟨0, by rw [← hpc]; rfl⟩
  | cons q todo ih =>
    obtain ⟨n, hn⟩ := exec_checkPerson s hpc (hknown q List.mem_cons_self) clock
    -- the loop body drops no record, so the rest of the snapshot stays known
    have hknown' : ∀ p ∈ todo,
        ((checkPerson now (s.person_state, s.alerts) q).1.get? p).isSome := by
      intro p hp
      have hbefore := hknown p (List.mem_cons_of_mem q hp)
      unfold checkPerson
      split
      · split
        · exact (PersonState.isSome_setInside _ _ _ _).trans hbefore
        · exact hbefore
      · exact hbefore
    obtain ⟨m, hm⟩ := ih { s with
      person_state := (checkPerson now (s.person_state, s.alerts) q).1
      alerts := (checkPerson now (s.person_state, s.alerts) q).2
      checker := .next now todo } rfl hknown'
    refine ⟨n + m, ?_⟩
    rw [List.replicate_add, exec_append hn, hm]
    rfl

/-- **A sweep without interference** is one step of `check_no_change`. -/
theorem exec_check_no_change (s : Threads PersonId) (hpc : s.checker = .start) (clock : ℚ) :
    ∃ n, exec next s (List.replicate n (.checker clock)) = some { s with
      person_state := (check_no_change s.person_state clock).1
      alerts := s.alerts ++ (check_no_change s.person_state clock).2 } := by
  -- read the clock, take the snapshot; then the loop; then sleep and wake up
  have hbegin : exec next s (List.replicate 2 (.checker clock))
      = some { s with checker := .next clock s.person_state.keys } := by
    simp [exec, next, checkerStep, List.replicate, hpc]
  obtain ⟨n, hn⟩ := exec_foldl_checkPerson clock clock s.person_state.keys
    { s with checker := .next clock s.person_state.keys } rfl
    fun q hq => (Dict.mem_keys_iff s.person_state q).mp hq
  refine ⟨2 + (n + 2), ?_⟩
  rw [List.replicate_add, exec_append hbegin, List.replicate_add, exec_append hn,
    foldl_checkPerson_alerts, ← check_no_change]
  simp [exec, next, checkerStep, List.replicate, hpc]

end Threads

end DemoColombia.Backend
