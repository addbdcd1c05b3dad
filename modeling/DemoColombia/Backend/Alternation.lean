import DemoColombia.Backend.Threads

/-! # Entry and exit alerts alternate under every interleaving

No lock protects `person_state`, and each thread issues a slow alert between its test of
`inside_roi` and its write. The flag itself keeps the two windows apart: the callback thread is
between its test and its write only while the flag is `False`, the checker only while it is `True`
(`PersonInv`). So the alerts about a person alternate, and outside the windows the flag says which
one came last (`alerts_alternate`). -/

namespace DemoColombia.Backend

open Watchdog

variable {PersonId : Type*}

/-- The person whose entry the callback thread has decided and not yet written. -/
def CallbackPc.entering : CallbackPc PersonId → Option PersonId
  | .alert p => some p
  | .markInside p => some p
  | _ => none

/-- The person the callback thread has alerted about and not yet marked inside. -/
def CallbackPc.marking : CallbackPc PersonId → Option PersonId
  | .markInside p => some p
  | _ => none

/-- The person the checker has found inside and not yet dealt with. -/
def CheckerPc.leaving : CheckerPc PersonId → Option PersonId
  | .compare _ p _ => some p
  | .alert _ p _ => some p
  | .markOutside _ p _ => some p
  | _ => none

/-- The person the checker has alerted about and not yet marked outside. -/
def CheckerPc.marking : CheckerPc PersonId → Option PersonId
  | .markOutside _ p _ => some p
  | _ => none

theorem CheckerPc.leaving_of_marking {pc : CheckerPc PersonId} {p : PersonId}
    (h : pc.marking = some p) :
    pc.leaving = some p := by
  cases pc <;> simp_all [CheckerPc.marking, CheckerPc.leaving]

theorem CallbackPc.entering_of_marking {pc : CallbackPc PersonId} {p : PersonId}
    (h : pc.marking = some p) :
    pc.entering = some p := by
  cases pc <;> simp_all [CallbackPc.marking, CallbackPc.entering]

variable [DecidableEq PersonId]

namespace Threads

/-- The alerts issued about `p` so far. -/
def history (s : Threads PersonId) (p : PersonId) : List Report := s.alerts.filterMap (reportOf p)

/-- What the last alert about `p` said: the flag, corrected where an alert is issued and its write
is still due. -/
def level (s : Threads PersonId) (p : PersonId) : Bool :=
  if s.callback.marking = some p then true
  else if s.checker.marking = some p then false
  else s.person_state.inside p

/-- What ties the two program counters to the flag of `p` and to the alerts about `p`. -/
structure PersonInv (s : Threads PersonId) (p : PersonId) : Prop where
  /-- Only the callback thread inserts records, so a person it found absent still is. -/
  registering : s.callback = .register p → s.person_state.get? p = none
  /-- Between its test and its write the callback thread finds the flag down. -/
  entering : s.callback.entering = some p →
    ∃ state, s.person_state.get? p = some state ∧ state.inside_roi = false
  /-- Between its test and its write the checker finds the flag up. -/
  leaving : s.checker.leaving = some p → s.person_state.inside p = true
  /-- The alerts about `p` alternate, and the level says which one came last. -/
  history : Alternating (s.level p) (s.history p)

theorem PersonInv.init (p : PersonId) : PersonInv (init : Threads PersonId) p where
  registering := by simp [Threads.init]
  entering := by simp [Threads.init, CallbackPc.entering]
  leaving := by simp [Threads.init, CheckerPc.leaving]
  history := by
    simpa [level, Threads.init, CallbackPc.marking, CheckerPc.marking, Threads.history,
      PersonState.inside] using Alternating.nil

variable {s s' : Threads PersonId} {p : PersonId}

/-- The flag is down while the callback thread is in its window. -/
theorem PersonInv.outside_of_entering (h : PersonInv s p) (hpc : s.callback.entering = some p) :
    s.person_state.inside p = false := by
  obtain ⟨state, hget, hflag⟩ := h.entering hpc
  simp [PersonState.inside, hget, hflag]

/-- **The windows exclude each other**: the flag is down in one and up in the other. -/
theorem PersonInv.exclusive (h : PersonInv s p) (hpc : s.callback.entering = some p) :
    s.checker.leaving ≠ some p := by
  intro hchecker
  have hup := h.leaving hchecker
  rw [h.outside_of_entering hpc] at hup
  cases hup

/-- A move of the callback thread that touches neither the table nor the alerts, outside the window
between an alert and its write. -/
theorem PersonInv.setCallback (h : PersonInv s p) (pc : CallbackPc PersonId)
    (hold : s.callback.marking = none) (hnew : pc.marking = none)
    (hregistering : pc = .register p → s.person_state.get? p = none)
    (hentering : pc.entering = some p →
      ∃ state, s.person_state.get? p = some state ∧ state.inside_roi = false) :
    PersonInv { s with callback := pc } p where
  registering := hregistering
  entering := hentering
  leaving := h.leaving
  history := by
    have hlevel : level { s with callback := pc } p = s.level p := by simp [level, hold, hnew]
    rw [hlevel]
    exact h.history

/-- A move of the checker that touches neither the table nor the alerts, likewise. -/
theorem PersonInv.setChecker (h : PersonInv s p) (pc : CheckerPc PersonId)
    (hold : s.checker.marking = none) (hnew : pc.marking = none)
    (hleaving : pc.leaving = some p → s.person_state.inside p = true) :
    PersonInv { s with checker := pc } p where
  registering := h.registering
  entering := h.entering
  leaving := hleaving
  history := by
    have hlevel : level { s with checker := pc } p = s.level p := by simp [level, hold, hnew]
    rw [hlevel]
    exact h.history

/-- A move of the callback thread to a place outside its window. -/
theorem PersonInv.leaveCallback (h : PersonInv s p) (pc : CallbackPc PersonId)
    (hold : s.callback.marking = none) (hnew : pc.entering = none)
    (hregistering : pc ≠ .register p) : PersonInv { s with callback := pc } p := by
  have hmarking : pc.marking = none := by
    cases hpc : pc.marking with
    | none => rfl
    | some q =>
      -- marking somebody is part of the window
      rw [CallbackPc.entering_of_marking hpc] at hnew
      exact absurd hnew (Option.some_ne_none q)
  apply h.setCallback pc hold hmarking
  · intro hpc
    exact absurd hpc hregistering
  · intro hentering
    rw [hnew] at hentering
    exact absurd hentering.symm (Option.some_ne_none p)

/-- A move of the checker to a place outside its window. -/
theorem PersonInv.leaveChecker (h : PersonInv s p) (pc : CheckerPc PersonId)
    (hold : s.checker.marking = none) (hnew : pc.leaving = none) :
    PersonInv { s with checker := pc } p := by
  have hmarking : pc.marking = none := by
    cases hpc : pc.marking with
    | none => rfl
    | some q =>
      rw [CheckerPc.leaving_of_marking hpc] at hnew
      exact absurd hnew (Option.some_ne_none q)
  apply h.setChecker pc hold hmarking
  intro hleaving
  rw [hnew] at hleaving
  exact absurd hleaving.symm (Option.some_ne_none p)

/-- A write of `on_message` before its test: the flag of nobody changes. -/
theorem PersonInv.write (h : PersonInv s p) (ps : PersonState PersonId) (q : PersonId)
    (hold : s.callback.marking = none)
    (hinside : ps.inside p = s.person_state.inside p) :
    PersonInv { s with person_state := ps, callback := .test q } p where
  registering := by intro hpc; cases hpc
  entering := by intro hpc; cases hpc
  leaving := by intro hpc; exact hinside.trans (h.leaving hpc)
  history := by
    have hlevel : level { s with person_state := ps, callback := .test q } p = s.level p := by
      have hnew : (CallbackPc.test q).marking = none := rfl
      simp [level, hold, hnew, hinside]
    rw [hlevel]
    exact h.history

/-- The callback thread issues the entry alert: the level rises with the alert. -/
theorem PersonInv.entrada (h : PersonInv s p) {q : PersonId} (hpc : s.callback = .alert q) :
    PersonInv { s with alerts := s.alerts ++ [.entrada q], callback := .markInside q } p where
  registering := by intro hpc'; cases hpc'
  entering := by intro hq; exact h.entering (by rw [hpc]; exact hq)
  leaving := h.leaving
  history := by
    by_cases hq : q = p
    · subst hq
      have hentering : s.callback.entering = some q := by rw [hpc]; rfl
      -- the level is the flag here, since the checker is not in its window for `q`
      have hbefore : s.level q = false := by
        have hchecker : s.checker.marking ≠ some q :=
          fun hm => h.exclusive hentering (CheckerPc.leaving_of_marking hm)
        simp [level, hpc, CallbackPc.marking, hchecker, h.outside_of_entering hentering]
      have hhistory := h.history
      rw [hbefore] at hhistory
      simpa [level, Threads.history, CallbackPc.marking, reportOf] using hhistory.enter
    · simpa [level, Threads.history, CallbackPc.marking, reportOf, hq, hpc] using h.history

/-- The callback thread writes the flag its alert announced: the level stays. -/
theorem PersonInv.markInside (h : PersonInv s p) {q : PersonId} (hpc : s.callback = .markInside q) :
    PersonInv { s with
      person_state := s.person_state.setInside q true, callback := .returning q } p where
  registering := by intro hpc'; cases hpc'
  entering := by intro hpc'; cases hpc'
  leaving := by
    intro hchecker
    -- the checker's window is for somebody else, whose flag is framed
    have hne : p ≠ q := by
      rintro rfl
      exact h.exclusive (by rw [hpc]; rfl) hchecker
    show (s.person_state.setInside q true).inside p = true
    rw [PersonState.inside_setInside, if_neg hne]
    exact h.leaving hchecker
  history := by
    by_cases hq : p = q
    · subst hq
      have hentering : s.callback.entering = some p := by rw [hpc]; rfl
      -- the record written to exists
      obtain ⟨state, hget, -⟩ := h.entering hentering
      have hchecker : s.checker.marking ≠ some p :=
        fun hm => h.exclusive hentering (CheckerPc.leaving_of_marking hm)
      have hhistory := h.history
      simp only [level, hpc, CallbackPc.marking, if_true] at hhistory
      simpa [level, Threads.history, CallbackPc.marking, hchecker, PersonState.inside_setInside,
        hget] using hhistory
    · have hqp : ¬ q = p := fun hqp => hq hqp.symm
      simpa [level, Threads.history, CallbackPc.marking, PersonState.inside_setInside, hq, hqp, hpc]
        using h.history

/-- The checker issues the exit alert: the level falls with the alert. -/
theorem PersonInv.salida (h : PersonInv s p) {now : ℚ} {q : PersonId} {todo : List PersonId}
    (hpc : s.checker = .alert now q todo) :
    PersonInv { s with
      alerts := s.alerts ++ [.salida q], checker := .markOutside now q todo } p where
  registering := h.registering
  entering := h.entering
  leaving := by intro hq; exact h.leaving (by rw [hpc]; exact hq)
  history := by
    by_cases hq : q = p
    · subst hq
      have hleaving : s.checker.leaving = some q := by rw [hpc]; rfl
      have hcallback : s.callback.marking ≠ some q :=
        fun hm => h.exclusive (CallbackPc.entering_of_marking hm) hleaving
      have hbefore : s.level q = true := by
        simp [level, hpc, CheckerPc.marking, hcallback, h.leaving hleaving]
      have hhistory := h.history
      rw [hbefore] at hhistory
      simpa [level, Threads.history, CheckerPc.marking, hcallback, reportOf] using hhistory.leave
    · simpa [level, Threads.history, CheckerPc.marking, reportOf, hq, hpc] using h.history

/-- The checker writes the flag its alert announced: the level stays. -/
theorem PersonInv.markOutside (h : PersonInv s p) {now : ℚ} {q : PersonId} {todo : List PersonId}
    (hpc : s.checker = .markOutside now q todo) :
    PersonInv { s with
      person_state := s.person_state.setInside q false, checker := .next now todo } p where
  registering := by
    intro hcallback
    show (s.person_state.setInside q false).get? p = none
    rw [PersonState.get?_setInside, h.registering hcallback]
    split <;> rfl
  entering := by
    intro hcallback
    obtain ⟨state, hget, hflag⟩ := h.entering hcallback
    -- the callback thread's window is for somebody else, whose record is framed
    have hne : p ≠ q := by
      rintro rfl
      exact h.exclusive hcallback (by rw [hpc]; rfl)
    refine ⟨state, ?_, hflag⟩
    show (s.person_state.setInside q false).get? p = some state
    rw [PersonState.get?_setInside, if_neg hne, hget]
  leaving := by intro hpc'; cases hpc'
  history := by
    by_cases hq : p = q
    · subst hq
      have hleaving : s.checker.leaving = some p := by rw [hpc]; rfl
      have hcallback : s.callback.marking ≠ some p :=
        fun hm => h.exclusive (CallbackPc.entering_of_marking hm) hleaving
      have hhistory := h.history
      simpa [level, Threads.history, CheckerPc.marking, hcallback, PersonState.inside_setInside,
        hpc] using hhistory
    · have hqp : ¬ q = p := fun hqp => hq hqp.symm
      simpa [level, Threads.history, CheckerPc.marking, PersonState.inside_setInside, hq, hqp, hpc]
        using h.history

/-- **Every access preserves the invariant.** One case per move; the flag changes only in the two
writes that close a window. -/
theorem PersonInv.moves {l : Label PersonId} (h : PersonInv s p) (hmoves : Moves s l s') :
    PersonInv s' p := by
  cases hmoves with
  -- the callback thread: no record of a person about to be registered, no flag up in the window
  | message hpc | present hpc | seenInside hpc | returns hpc =>
    exact h.leaveCallback _ (by rw [hpc]; rfl) rfl (by simp)
  | absent hpc hget =>
    apply h.setCallback _ (by rw [hpc]; rfl) rfl
    · intro hpc'
      obtain rfl := CallbackPc.register.inj hpc'
      exact hget
    · intro hentering
      cases hentering
  | @register q clock hpc =>
    apply h.write _ q (by rw [hpc]; rfl)
    rw [PersonState.inside_register]
    split
    · -- the person was absent, so nobody's flag is overwritten
      rename_i hp
      rw [PersonState.inside, h.registering (hp ▸ hpc)]
    · rfl
  | @touch q clock hpc =>
    exact h.write _ q (by rw [hpc]; rfl) (PersonState.inside_touch _ _ _ _)
  | @seenOutside q clock state hpc hget hflag =>
    -- the window opens on a flag just read down
    apply h.setCallback _ (by rw [hpc]; rfl) rfl
    · intro hpc'
      cases hpc'
    · intro hentering
      obtain rfl : q = p := Option.some.inj hentering
      exact ⟨state, hget, hflag⟩
  | entrada hpc => exact h.entrada hpc
  | markInside hpc => exact h.markInside hpc
  -- the checker: no flag down in the window
  | readClock hpc | snapshot hpc | endSweep hpc | isOutside hpc | fresh hpc | wake hpc =>
    exact h.leaveChecker _ (by rw [hpc]; rfl) rfl
  | @isInside now q todo clock state hpc hget hflag =>
    -- the window opens on a flag just read up
    apply h.setChecker _ (by rw [hpc]; rfl) rfl
    intro hleaving
    obtain rfl : q = p := Option.some.inj hleaving
    simp [PersonState.inside, hget, hflag]
  | stale hpc hget hstale =>
    apply h.setChecker _ (by rw [hpc]; rfl) rfl
    intro hleaving
    exact h.leaving (by rw [hpc]; exact hleaving)
  | salida hpc => exact h.salida hpc
  | markOutside hpc => exact h.markOutside hpc

/-- The invariant holds of every reachable state. -/
theorem PersonInv.of_reachable (h : Reachable next Threads.init s) (p : PersonId) : PersonInv s p :=
  h.invariant (P := (PersonInv · p)) (PersonInv.init p) fun _ _ _ hinv _ hnext =>
    hinv.moves (moves_of_next hnext)

end Threads

/-- **Alert alternation.** In every state reached by any interleaving of the accesses of the two
threads, on any messages and clock readings, the alerts issued about a person strictly alternate,
starting with an entry; and when neither thread is between an alert about the person and the write
that follows it, there is one entry more than there are exits if `inside_roi` is `True`, and as many
if it is `False` (or the person is unknown). -/
theorem alerts_alternate {s : Threads PersonId} (h : Reachable Threads.next Threads.init s)
    (p : PersonId) :
    (s.history p).IsChain (· ≠ ·) ∧ (∀ r ∈ (s.history p).head?, r = .enter) ∧
      (s.callback.marking ≠ some p → s.checker.marking ≠ some p →
        ((s.history p).count .enter : ℤ) - (s.history p).count .leave
          = if s.person_state.inside p then 1 else 0) := by
  have hhistory := (Threads.PersonInv.of_reachable h p).history
  refine ⟨hhistory.isChain, hhistory.head?, fun hcallback hchecker => ?_⟩
  -- outside the two windows the level is the flag
  have hlevel : s.level p = s.person_state.inside p := by
    rw [Threads.level, if_neg hcallback, if_neg hchecker]
  rw [hhistory.count, hlevel]

/-- The alternation once person `1`, seen at time `0`, has been found expired by a sweep at time `5`
and marked outside. -/
theorem alerts_alternate_round_trip :
    exec Threads.next (Threads.init : Threads ℕ)
        [.message 1, .callback 0, .callback 0, .callback 0, .callback 0, .callback 0, .callback 0,
          .checker 5, .checker 5, .checker 5, .checker 5, .checker 5, .checker 5]
      = some ⟨⟨[(1, ⟨0, false⟩)], List.nodup_singleton 1⟩, .idle, .next 5 [],
          [.entrada 1, .salida 1]⟩ ∧
      [Report.enter, .leave].IsChain (· ≠ ·) ∧
      (∀ r ∈ [Report.enter, .leave].head?, r = .enter) ∧
      ([Report.enter, .leave].count .enter : ℤ) - [Report.enter, .leave].count .leave = 0 := by
  have hexec : exec Threads.next (Threads.init : Threads ℕ)
      [.message 1, .callback 0, .callback 0, .callback 0, .callback 0, .callback 0, .callback 0,
        .checker 5, .checker 5, .checker 5, .checker 5, .checker 5, .checker 5]
      = some ⟨⟨[(1, ⟨0, false⟩)], List.nodup_singleton 1⟩, .idle, .next 5 [],
          [.entrada 1, .salida 1]⟩ := by
    decide +kernel
  obtain ⟨hchain, hhead, hcount⟩ := alerts_alternate (reachable_of_exec hexec) 1
  exact ⟨hexec, hchain, hhead, hcount (by decide) (by decide)⟩

end DemoColombia.Backend
