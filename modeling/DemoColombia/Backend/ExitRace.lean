import DemoColombia.Backend.Alternation

/-! # A sighting during an exit in progress

`check_no_change` tests `last_update`, issues the exit alert and only then writes
`inside_roi = False`. A message handled in between finds the flag still up: `on_message` returns
without an alert, and the pending write then marks the person outside although it was just seen
(`sighting_swallowed`). In the runs where no `on_message` returns over an exit in progress of its
own person, the sighting stays until the checker reads the new time stamp (`sighting_kept`). -/

namespace DemoColombia.Backend

variable {PersonId : Type*}

/-- The person whose message is handled up to the return of `on_message`. -/
def CallbackPc.finishing : CallbackPc PersonId → Option PersonId
  | .returning p => some p
  | _ => none

/-- The person whose time stamp the checker is about to read. -/
def CheckerPc.comparing : CheckerPc PersonId → Option PersonId
  | .compare _ p _ => some p
  | _ => none

/-- The person the checker has found expired and not yet marked outside: its exit is in progress. -/
def CheckerPc.exiting : CheckerPc PersonId → Option PersonId
  | .alert _ p _ => some p
  | .markOutside _ p _ => some p
  | _ => none

namespace Threads

/-- No exit is in progress for the person whose `on_message` is about to return. -/
def Apart (s : Threads PersonId) (_ : Label PersonId) : Prop :=
  s.callback.finishing = none ∨ s.checker.exiting ≠ s.callback.finishing

theorem Apart.exiting_ne {s : Threads PersonId} {l : Label PersonId} {p : PersonId}
    (h : Apart s l) (hpc : s.callback.finishing = some p) : s.checker.exiting ≠ some p := by
  rcases h with h | h
  · rw [hpc] at h; cases h
  · rwa [hpc] at h

variable [DecidableEq PersonId]

/-- A step that neither starts the next message of `p` nor reads the time stamp of `p`. -/
def Quiet (p : PersonId) (s : Threads PersonId) : Label PersonId → Prop
  | .message q => q ≠ p
  | .callback _ => True
  | .checker _ => s.checker.comparing ≠ some p

instance (p : PersonId) (s : Threads PersonId) : ∀ l, Decidable (Quiet p s l)
  | .message q => inferInstanceAs (Decidable (q ≠ p))
  | .callback _ => inferInstanceAs (Decidable True)
  | .checker _ => inferInstanceAs (Decidable (s.checker.comparing ≠ some p))

instance (s : Threads PersonId) (l : Label PersonId) : Decidable (Apart s l) :=
  inferInstanceAs (Decidable (_ ∨ _))

variable {s s' : Threads PersonId} {p : PersonId}

/-- Writing the flag of somebody down leaves the others inside. -/
theorem inside_setInside_of_ne {ps : PersonState PersonId} {q : PersonId} (hne : p ≠ q)
    (value : Bool) (h : ps.inside p = true) : (ps.setInside q value).inside p = true := by
  rw [PersonState.inside_setInside, if_neg hne, h]

/-- Marking a person inside leaves everybody inside who was. -/
theorem inside_markInside {ps : PersonState PersonId} (q : PersonId) (h : ps.inside p = true) :
    (ps.setInside q true).inside p = true := by
  rw [PersonState.inside_setInside]
  split
  · rw [PersonState.inside] at h
    cases hget : ps.get? p with
    | none => rw [hget] at h; cases h
    | some state => rfl
  · exact h

/-- **What can put a person outside**: a move takes `p` from inside to outside only by the write
that closes an exit of `p` in progress. -/
theorem inside_moves {l : Label PersonId} (hinv : PersonInv s p) (hmoves : Moves s l s')
    (hinside : s.person_state.inside p = true) :
    s'.person_state.inside p = true ∨
      ((∃ clock, l = .checker clock) ∧ s.checker.exiting = some p) := by
  -- four moves write to the table; the others leave every flag as it is
  cases hmoves with
  | @register q clock hpc =>
    left
    show (s.person_state.register q clock).inside p = true
    have hne : p ≠ q := by
      -- a person about to be registered is absent, and so not inside
      rintro rfl
      rw [PersonState.inside, hinv.registering hpc] at hinside
      cases hinside
    rw [PersonState.inside_register, if_neg hne, hinside]
  | touch hpc => left; exact (PersonState.inside_touch _ _ _ _).trans hinside
  | @markInside q clock hpc => left; exact inside_markInside q hinside
  | @markOutside now q todo clock hpc =>
    by_cases hne : p = q
    · -- the one write that lowers the flag of `p`
      right
      exact ⟨⟨clock, rfl⟩, by rw [hpc, hne]; rfl⟩
    · left
      exact inside_setInside_of_ne hne false hinside
  | _ => left; exact hinside

/-- An exit of `p` begins only where the checker reads the time stamp of `p`. -/
theorem exiting_moves {l : Label PersonId} (hmoves : Moves s l s') (hquiet : Quiet p s l)
    (hexit : s.checker.exiting ≠ some p) : s'.checker.exiting ≠ some p := by
  cases hmoves with
  | @stale now q todo clock state hpc hget hstale =>
    intro heq
    obtain rfl : q = p := Option.some.inj heq
    exact hquiet (by rw [hpc]; rfl)
  | @salida now q todo clock hpc => rw [hpc] at hexit; exact hexit
  | _ => first | exact hexit | nofun

/-- When `on_message` is about to return its person is inside, in every run that keeps apart. -/
theorem inside_of_finishing (h : ReachableBy next Apart init s)
    (hpc : s.callback.finishing = some p) : s.person_state.inside p = true := by
  -- strengthened by the invariant of the windows, and then carried along the run
  suffices hall : PersonInv s p ∧
      (s.callback.finishing = some p → s.person_state.inside p = true) from hall.2 hpc
  refine h.invariant (P := fun s => PersonInv s p ∧
    (s.callback.finishing = some p → s.person_state.inside p = true)) ?_ ?_
  · exact ⟨PersonInv.init p, nofun⟩
  · rintro s l s' ⟨hinv, hfinishing⟩ hapart hnext
    have hmoves := moves_of_next hnext
    refine ⟨hinv.moves hmoves, fun hpc' => ?_⟩
    by_cases hold : s.callback.finishing = some p
    · -- still about to return: only a pending exit could lower the flag, and there is none
      rcases inside_moves hinv hmoves (hfinishing hold) with hinside | ⟨-, hexit⟩
      · exact hinside
      · exact absurd hexit (hapart.exiting_ne hold)
    · -- just arrived there, by reading the flag up or by writing it
      cases hmoves with
      | @seenInside q clock state hcallback hget hflag =>
        obtain rfl : q = p := Option.some.inj hpc'
        simp [PersonState.inside, hget, hflag]
      | @markInside q clock hcallback =>
        obtain rfl : q = p := Option.some.inj hpc'
        obtain ⟨state, hget, -⟩ := hinv.entering (by rw [hcallback]; rfl)
        show (s.person_state.setInside q true).inside q = true
        rw [PersonState.inside_setInside, if_pos rfl, hget]
        rfl
      | message | absent | present | register | touch | seenOutside | entrada | returns =>
        cases hpc'
      | _ => exact absurd hpc' hold

end Threads

variable [DecidableEq PersonId]

/-- What is asked of a sighting: from the return of `on_message` for `p` until the checker next
reads the time stamp of `p` or the next message of `p` starts, `p` is inside. The steps before the
return all meet `ok`. -/
def SightingsKept (PersonId : Type*) [DecidableEq PersonId]
    (ok : Threads PersonId → Label PersonId → Prop) : Prop :=
  ∀ (s s' s'' : Threads PersonId) (clock : ℚ) (p : PersonId),
    ReachableBy Threads.next ok Threads.init s → ok s (.callback clock) →
    s.callback = .returning p → s.next (.callback clock) = some s' →
    ReachableBy Threads.next (Threads.Quiet p) s' s'' → s''.person_state.inside p = true

/-- **No sighting is swallowed in a run that keeps apart**: if `on_message` never stands before its
return over an exit in progress of its own person, the person it handled stays inside until the
checker reads the new time stamp or the next message of the person starts. -/
theorem sighting_kept : SightingsKept PersonId Threads.Apart := by
  intro s s' s'' clock p hreach hapart hpc hnext hquiet
  have hfinishing : s.callback.finishing = some p := by rw [hpc]; rfl
  have hinv := (Threads.PersonInv.of_reachable hreach.reachable p)
  have hmoves := Threads.moves_of_next hnext
  have hinside := Threads.inside_of_finishing hreach hfinishing
  have hexit := hapart.exiting_ne hfinishing
  have hstart : Threads.PersonInv s' p ∧ s'.person_state.inside p = true ∧
      s'.checker.exiting ≠ some p := by
    refine ⟨hinv.moves hmoves, ?_, Threads.exiting_moves hmoves trivial hexit⟩
    rcases Threads.inside_moves hinv hmoves hinside with hinside | ⟨⟨_, hl⟩, _⟩
    · exact hinside
    · cases hl
  -- no exit of `p` is in progress at the return, and a quiet step begins none
  have hend := hquiet.invariant (P := fun s => Threads.PersonInv s p ∧
    s.person_state.inside p = true ∧ s.checker.exiting ≠ some p) hstart ?_
  · exact hend.2.1
  · rintro t l t' ⟨hinv, hinside, hexit⟩ hquiet hnext
    have hmoves := Threads.moves_of_next hnext
    refine ⟨hinv.moves hmoves, ?_, Threads.exiting_moves hmoves hquiet hexit⟩
    rcases Threads.inside_moves hinv hmoves hinside with hinside | ⟨-, hexiting⟩
    · exact hinside
    · exact absurd hexiting hexit

/-- A sighting kept over an exit: person `1` is seen again when the checker has found it expired,
the exit alert goes out and the flag is cleared before `on_message` reads it. The person is let in
again, and stays inside until the next sweep is about to read its time stamp. -/
theorem sighting_kept_over_exit :
    ∃ s s' s'' : Threads ℕ, ReachableBy Threads.next Threads.Apart Threads.init s ∧
      s.callback = .returning 1 ∧ s.alerts = [.entrada 1, .salida 1, .entrada 1] ∧
      s.next (.callback 5) = some s' ∧ ReachableBy Threads.next (Threads.Quiet 1) s' s'' ∧
      s''.checker = .compare 6 1 [] ∧ s''.person_state.inside 1 = true := by
  have hbefore : exec (guarded Threads.next Threads.Apart) (Threads.init : Threads ℕ)
      (.message 1 :: List.replicate 6 (.callback 0) ++ List.replicate 4 (.checker 5)
        ++ .message 1 :: List.replicate 2 (.callback 5) ++ List.replicate 2 (.checker 5)
        ++ List.replicate 3 (.callback 5))
      = some ⟨⟨[(1, ⟨5, true⟩)], List.nodup_singleton 1⟩, .returning 1, .next 5 [],
          [.entrada 1, .salida 1, .entrada 1]⟩ := by
    decide +kernel
  have hafter : exec (guarded Threads.next (Threads.Quiet 1))
      (⟨⟨[(1, ⟨5, true⟩)], List.nodup_singleton 1⟩, .idle, .next 5 [],
        [.entrada 1, .salida 1, .entrada 1]⟩ : Threads ℕ) (List.replicate 5 (.checker 6))
      = some ⟨⟨[(1, ⟨5, true⟩)], List.nodup_singleton 1⟩, .idle, .compare 6 1 [],
          [.entrada 1, .salida 1, .entrada 1]⟩ := by
    decide +kernel
  have hreach := reachableBy_of_exec_guarded hbefore
  have hquiet := reachableBy_of_exec_guarded hafter
  exact ⟨_, _, _, hreach, rfl, rfl, rfl, hquiet, rfl,
    sighting_kept _ _ _ 5 1 hreach (.inr nofun) rfl rfl hquiet⟩

/-- The condition is exact: from every reachable state in which `on_message` is about to return over
an exit in progress of its own person, the sighting can still be swallowed. -/
theorem swallowed_of_overlap {s : Threads PersonId} {p : PersonId} (clock : ℚ)
    (hpc : s.callback = .returning p) (hexit : s.checker.exiting = some p) :
    ∃ s' s'', s.next (.callback clock) = some s' ∧
      ReachableBy Threads.next (Threads.Quiet p) s' s'' ∧ s''.person_state.inside p = false := by
  have hnext : s.next (.callback clock) = some { s with callback := .idle } := by
    simp [Threads.next, Threads.callbackStep, hpc]
  have houtside : (s.person_state.setInside p false).inside p = false := by
    rw [PersonState.inside_setInside, if_pos rfl, Bool.and_false]
  cases hchecker : s.checker with
  | alert now q todo =>
    -- two checker steps: the alert, and the write that lowers the flag
    obtain rfl : q = p := by rw [hchecker] at hexit; exact Option.some.inj hexit
    refine ⟨_, { s with
      person_state := s.person_state.setInside q false
      callback := .idle
      checker := .next now todo
      alerts := s.alerts ++ [.salida q] }, hnext, ?_, houtside⟩
    have halert : ReachableBy Threads.next (Threads.Quiet q) { s with callback := .idle }
        { s with
          callback := .idle
          checker := .markOutside now q todo
          alerts := s.alerts ++ [.salida q] } :=
      .step (i := .checker clock) .refl (by simp [Threads.Quiet, hchecker, CheckerPc.comparing])
        (by simp [Threads.next, Threads.checkerStep, hchecker])
    exact .step (i := .checker clock) halert (by simp [Threads.Quiet, CheckerPc.comparing])
      (by simp [Threads.next, Threads.checkerStep])
  | markOutside now q todo =>
    -- the alert is out already: one step
    obtain rfl : q = p := by rw [hchecker] at hexit; exact Option.some.inj hexit
    refine ⟨_, { s with
      person_state := s.person_state.setInside q false
      callback := .idle
      checker := .next now todo }, hnext, ?_, houtside⟩
    exact .step (i := .checker clock) .refl (by simp [Threads.Quiet, hchecker, CheckerPc.comparing])
      (by simp [Threads.next, Threads.checkerStep, hchecker])
  | _ => rw [hchecker] at hexit; cases hexit

/-- **A sighting swallowed by an exit in progress.** Person `1` is seen at time `0`; a sweep at time
`5` finds the stamp expired and is about to alert when the next message of `1` is handled, at time
`5`: `on_message` finds the flag up and returns, and the checker then marks `1` outside. -/
theorem sighting_swallowed : ¬ SightingsKept ℕ fun _ _ => True := by
  intro hkept
  -- the second message is handled while the checker is in `altertar_evento_salida`
  have hbefore : exec Threads.next (Threads.init : Threads ℕ)
      [.message 1, .callback 0, .callback 0, .callback 0, .callback 0, .callback 0, .callback 0,
        .checker 5, .checker 5, .checker 5, .checker 5,
        .message 1, .callback 5, .callback 5, .callback 5]
      = some ⟨⟨[(1, ⟨5, true⟩)], List.nodup_singleton 1⟩, .returning 1, .alert 5 1 [],
          [.entrada 1]⟩ := by
    decide +kernel
  have hafter : exec (guarded Threads.next (Threads.Quiet 1))
      (⟨⟨[(1, ⟨5, true⟩)], List.nodup_singleton 1⟩, .idle, .alert 5 1 [], [.entrada 1]⟩ : Threads ℕ)
      [.checker 5, .checker 5]
      = some ⟨⟨[(1, ⟨5, false⟩)], List.nodup_singleton 1⟩, .idle, .next 5 [],
          [.entrada 1, .salida 1]⟩ := by
    decide +kernel
  have hinside := hkept _ _ _ 5 1 (reachable_of_exec hbefore) trivial rfl rfl
    (reachableBy_of_exec_guarded hafter)
  exact absurd hinside (by decide)

end DemoColombia.Backend
