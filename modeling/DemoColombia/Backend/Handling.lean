import DemoColombia.Backend.Threads

/-! # Nobody is missed, nobody is made up

`Handled s delivered` ties the table, the two program counters and the alerts to the persons of the
messages delivered so far, whatever the checker does in between:

* everybody who is known, in hand, on a sweep's list or alerted about was delivered;
* everybody delivered has had an entry alert, or is in hand before the test that decides it. -/

namespace DemoColombia.Backend

variable {PersonId : Type*}

/-- The person a call of `on_message` is about. -/
def CallbackPc.person : CallbackPc PersonId → Option PersonId
  | .idle => none
  | .lookup p => some p
  | .register p => some p
  | .touch p => some p
  | .test p => some p
  | .alert p => some p
  | .markInside p => some p
  | .returning p => some p

/-- The person whose entry alert is not yet issued or passed over. -/
def CallbackPc.undecided : CallbackPc PersonId → Option PersonId
  | .lookup p => some p
  | .register p => some p
  | .touch p => some p
  | .test p => some p
  | .alert p => some p
  | _ => none

/-- The person the callback thread has found or inserted and not yet tested. -/
def CallbackPc.found : CallbackPc PersonId → Option PersonId
  | .touch p => some p
  | .test p => some p
  | _ => none

/-- The persons a sweep is at or still has to visit. -/
def CheckerPc.visits : CheckerPc PersonId → List PersonId
  | .next _ todo => todo
  | .compare _ p todo => p :: todo
  | .alert _ p todo => p :: todo
  | .markOutside _ p todo => p :: todo
  | _ => []

/-- The person an alert is about. -/
def Alert.id_persona : Alert PersonId → PersonId
  | .entrada p => p
  | .salida p => p

/-- The person of a message the client hands over. -/
def Label.delivers : Label PersonId → List PersonId
  | .message p => [p]
  | .callback _ => []
  | .checker _ => []

variable [DecidableEq PersonId]

namespace Threads

/-- What the messages delivered so far account for. -/
structure Handled (s : Threads PersonId) (delivered : List PersonId) : Prop where
  person : ∀ p, s.callback.person = some p → p ∈ delivered
  known : ∀ p, (s.person_state.get? p).isSome → p ∈ delivered
  visits : ∀ p ∈ s.checker.visits, p ∈ delivered
  alerted : ∀ a ∈ s.alerts, a.id_persona ∈ delivered
  /-- The record the callback thread is about to write or test exists. -/
  found : ∀ p, s.callback.found = some p → (s.person_state.get? p).isSome
  /-- The flag goes up only behind an entry alert. -/
  inside : ∀ p, s.person_state.inside p = true → .entrada p ∈ s.alerts
  marking : ∀ p, s.callback = .markInside p → .entrada p ∈ s.alerts
  /-- Nobody delivered is passed over. -/
  answered : ∀ p ∈ delivered, s.callback.undecided = some p ∨ .entrada p ∈ s.alerts

theorem Handled.init : Handled (init : Threads PersonId) [] where
  person := nofun
  known := nofun
  visits := nofun
  alerted := nofun
  found := nofun
  inside := nofun
  marking := nofun
  answered := by rintro _ ⟨⟩

variable {s s' : Threads PersonId} {delivered : List PersonId}

/-- The next message is taken in hand. -/
theorem Handled.message (h : Handled s delivered) (hpc : s.callback = .idle) (p : PersonId) :
    Handled { s with callback := .lookup p } (delivered ++ [p]) where
  person := by
    intro q hq
    obtain rfl : p = q := Option.some.inj hq
    exact List.mem_append_right _ (List.mem_singleton_self p)
  known q hq := List.mem_append_left _ (h.known q hq)
  visits q hq := List.mem_append_left _ (h.visits q hq)
  alerted a ha := List.mem_append_left _ (h.alerted a ha)
  found := nofun
  inside := h.inside
  marking := nofun
  answered := by
    intro q hq
    rcases List.mem_append.mp hq with hq | hq
    · -- the thread was idle, so everybody delivered before has had the alert
      have hundecided : s.callback.undecided ≠ some q := by rw [hpc]; nofun
      exact .inr ((h.answered q hq).resolve_left hundecided)
    · obtain rfl := List.mem_singleton.mp hq
      exact .inl rfl

/-- A move of the callback thread within the call that writes nothing. -/
theorem Handled.setCallback (h : Handled s delivered) (pc : CallbackPc PersonId)
    (hperson : ∀ p, pc.person = some p → s.callback.person = some p)
    (hfound : ∀ p, pc.found = some p → (s.person_state.get? p).isSome)
    (hmarking : ∀ p, pc ≠ .markInside p)
    (hdecided : ∀ p, s.callback.undecided = some p →
      pc.undecided = some p ∨ .entrada p ∈ s.alerts) :
    Handled { s with callback := pc } delivered where
  person p hp := h.person p (hperson p hp)
  known := h.known
  visits := h.visits
  alerted := h.alerted
  found := hfound
  inside := h.inside
  marking p hp := absurd hp (hmarking p)
  answered := by
    intro p hp
    rcases h.answered p hp with hundecided | halert
    · exact hdecided p hundecided
    · exact .inr halert

/-- A move of the checker that writes nothing. -/
theorem Handled.setChecker (h : Handled s delivered) (pc : CheckerPc PersonId)
    (hvisits : ∀ p ∈ pc.visits, p ∈ s.checker.visits ∨ (s.person_state.get? p).isSome) :
    Handled { s with checker := pc } delivered where
  person := h.person
  known := h.known
  visits := by
    intro p hp
    rcases hvisits p hp with hp | hp
    · exact h.visits p hp
    · exact h.known p hp
  alerted := h.alerted
  found := h.found
  inside := h.inside
  marking := h.marking
  answered := h.answered

/-- A write of `on_message` before its test: the person is known from then on, and no flag goes up.
-/
theorem Handled.write (h : Handled s delivered) {p : PersonId}
    (hperson : s.callback.person = some p) (hundecided : s.callback.undecided = some p)
    (ps : PersonState PersonId)
    (hknown : ∀ q, (ps.get? q).isSome ↔ q = p ∨ (s.person_state.get? q).isSome)
    (hinside : ∀ q, ps.inside q = true → s.person_state.inside q = true) :
    Handled { s with person_state := ps, callback := .test p } delivered where
  person := by
    intro q hq
    obtain rfl : p = q := Option.some.inj hq
    exact h.person p hperson
  known := by
    intro q hq
    rcases (hknown q).mp hq with rfl | hq
    · exact h.person q hperson
    · exact h.known q hq
  visits := h.visits
  alerted := h.alerted
  found := by
    intro q hq
    obtain rfl : p = q := Option.some.inj hq
    exact (hknown p).mpr (.inl rfl)
  inside q hq := h.inside q (hinside q hq)
  marking := nofun
  answered := by
    intro q hq
    rcases h.answered q hq with hq' | halert
    · rw [hundecided] at hq'
      exact .inl hq'
    · exact .inr halert

/-- The entry alert. -/
theorem Handled.entrada (h : Handled s delivered) {p : PersonId} (hpc : s.callback = .alert p) :
    Handled { s with alerts := s.alerts ++ [.entrada p], callback := .markInside p } delivered where
  person q hq := h.person q (by rw [hpc]; exact hq)
  known := h.known
  visits := h.visits
  alerted := by
    intro a ha
    rcases List.mem_append.mp ha with ha | ha
    · exact h.alerted a ha
    · obtain rfl := List.mem_singleton.mp ha
      exact h.person p (by rw [hpc]; rfl)
  found := nofun
  inside q hq := List.mem_append_left _ (h.inside q hq)
  marking := by
    intro q hq
    obtain rfl := CallbackPc.markInside.inj hq
    exact List.mem_append_right _ (List.mem_singleton_self _)
  answered := by
    intro q hq
    refine .inr ?_
    rcases h.answered q hq with hq' | halert
    · -- the person in hand is the one alerted about
      rw [hpc] at hq'
      obtain rfl : p = q := Option.some.inj hq'
      exact List.mem_append_right _ (List.mem_singleton_self _)
    · exact List.mem_append_left _ halert

/-- A flag goes up behind its alert only. -/
theorem Handled.inside_setInside (h : Handled s delivered) {p : PersonId} {value : Bool}
    (hentrada : value = true → .entrada p ∈ s.alerts) {q : PersonId}
    (hq : (s.person_state.setInside p value).inside q = true) : .entrada q ∈ s.alerts := by
  rw [PersonState.inside_setInside] at hq
  by_cases hqp : q = p
  · subst hqp
    rw [if_pos rfl, Bool.and_eq_true] at hq
    exact hentrada hq.2
  · rw [if_neg hqp] at hq
    exact h.inside q hq

/-- The flag behind the entry alert. -/
theorem Handled.markInside (h : Handled s delivered) {p : PersonId}
    (hpc : s.callback = .markInside p) :
    Handled { s with
      person_state := s.person_state.setInside p true, callback := .returning p } delivered where
  person q hq := h.person q (by rw [hpc]; exact hq)
  known q hq := h.known q ((PersonState.isSome_setInside _ _ _ _).symm.trans hq)
  visits := h.visits
  alerted := h.alerted
  found := nofun
  inside q hq := h.inside_setInside (fun _ => h.marking p hpc) hq
  marking := nofun
  answered q hq := .inr ((h.answered q hq).resolve_left (by rw [hpc]; nofun))

/-- The exit alert. -/
theorem Handled.salida (h : Handled s delivered) {now : ℚ} {p : PersonId} {todo : List PersonId}
    (hpc : s.checker = .alert now p todo) :
    Handled { s with
      alerts := s.alerts ++ [.salida p], checker := .markOutside now p todo } delivered where
  person := h.person
  known := h.known
  visits q hq := h.visits q (by rw [hpc]; exact hq)
  alerted := by
    intro a ha
    rcases List.mem_append.mp ha with ha | ha
    · exact h.alerted a ha
    · obtain rfl := List.mem_singleton.mp ha
      exact h.visits p (by rw [hpc]; exact List.mem_cons_self)
  found := h.found
  inside q hq := List.mem_append_left _ (h.inside q hq)
  marking q hq := List.mem_append_left _ (h.marking q hq)
  answered q hq := (h.answered q hq).imp_right (List.mem_append_left _)

/-- The flag behind the exit alert. -/
theorem Handled.markOutside (h : Handled s delivered) {now : ℚ} {p : PersonId}
    {todo : List PersonId} (hpc : s.checker = .markOutside now p todo) :
    Handled { s with
      person_state := s.person_state.setInside p false, checker := .next now todo } delivered where
  person := h.person
  known q hq := h.known q ((PersonState.isSome_setInside _ _ _ _).symm.trans hq)
  visits q hq := h.visits q (by rw [hpc]; exact List.mem_cons_of_mem p hq)
  alerted := h.alerted
  found q hq := (PersonState.isSome_setInside _ _ _ _).trans (h.found q hq)
  inside _ hq := h.inside_setInside (fun hvalue : false = true => nomatch hvalue) hq
  marking := h.marking
  answered := h.answered

/-- **Every step keeps the account.** -/
theorem Handled.moves {l : Label PersonId} (h : Handled s delivered) (hmoves : Moves s l s') :
    Handled s' (delivered ++ l.delivers) := by
  cases hmoves with
  | @message p hpc => exact h.message hpc p
  -- within a call of `on_message`
  | absent hpc hget =>
    rw [Label.delivers, List.append_nil]
    refine h.setCallback _ (by rw [hpc]; exact fun _ hq => hq) (by rintro _ ⟨⟩) (by rintro _ ⟨⟩) ?_
    rw [hpc]
    exact fun _ hq => .inl hq
  | @present p clock state hpc hget =>
    rw [Label.delivers, List.append_nil]
    refine h.setCallback _ (by rw [hpc]; exact fun _ hq => hq) ?_ (by rintro _ ⟨⟩) ?_
    · intro q hq
      obtain rfl : p = q := Option.some.inj hq
      rw [hget]
      rfl
    · rw [hpc]
      exact fun _ hq => .inl hq
  | @register p clock hpc =>
    rw [Label.delivers, List.append_nil]
    refine h.write (by rw [hpc]; rfl) (by rw [hpc]; rfl) _ ?_ ?_
    · intro q
      rw [PersonState.get?_register]
      by_cases hq : q = p <;> simp [hq]
    · intro q hq
      rw [PersonState.inside_register] at hq
      split at hq
      · cases hq
      · exact hq
  | @touch p clock hpc =>
    rw [Label.delivers, List.append_nil]
    refine h.write (by rw [hpc]; rfl) (by rw [hpc]; rfl) _ ?_ ?_
    · intro q
      rw [PersonState.isSome_touch]
      refine ⟨.inr, ?_⟩
      rintro (rfl | hq)
      · exact h.found q (by rw [hpc]; rfl)
      · exact hq
    · intro q hq
      rwa [PersonState.inside_touch] at hq
  | @seenInside p clock state hpc hget hflag =>
    rw [Label.delivers, List.append_nil]
    refine h.setCallback _ (by rw [hpc]; exact fun _ hq => hq) (by rintro _ ⟨⟩) (by rintro _ ⟨⟩) ?_
    -- the flag is up, so the entry alert has been issued before
    intro q hq
    rw [hpc] at hq
    obtain rfl : p = q := Option.some.inj hq
    exact .inr (h.inside p (by rw [PersonState.inside, hget]; exact hflag))
  | seenOutside hpc hget hflag =>
    rw [Label.delivers, List.append_nil]
    refine h.setCallback _ (by rw [hpc]; exact fun _ hq => hq) (by rintro _ ⟨⟩) (by rintro _ ⟨⟩) ?_
    rw [hpc]
    exact fun _ hq => .inl hq
  | entrada hpc =>
    rw [Label.delivers, List.append_nil]
    exact h.entrada hpc
  | markInside hpc =>
    rw [Label.delivers, List.append_nil]
    exact h.markInside hpc
  | returns hpc =>
    rw [Label.delivers, List.append_nil]
    refine h.setCallback _ (by rintro _ ⟨⟩) (by rintro _ ⟨⟩) (by rintro _ ⟨⟩) ?_
    rw [hpc]
    rintro _ ⟨⟩
  -- within a sweep
  | readClock hpc | endSweep hpc | wake hpc =>
    rw [Label.delivers, List.append_nil]
    exact h.setChecker _ (by rintro _ ⟨⟩)
  | snapshot hpc =>
    rw [Label.delivers, List.append_nil]
    refine h.setChecker _ fun q hq => .inr ?_
    exact (Dict.mem_keys_iff _ q).mp hq
  | isInside hpc | stale hpc =>
    rw [Label.delivers, List.append_nil]
    refine h.setChecker _ fun q hq => .inl ?_
    rw [hpc]
    exact hq
  | @isOutside now p todo clock state hpc | @fresh now p todo clock state hpc =>
    rw [Label.delivers, List.append_nil]
    refine h.setChecker _ fun q hq => .inl ?_
    rw [hpc]
    exact List.mem_cons_of_mem p hq
  | salida hpc =>
    rw [Label.delivers, List.append_nil]
    exact h.salida hpc
  | markOutside hpc =>
    rw [Label.delivers, List.append_nil]
    exact h.markOutside hpc

end Threads

end DemoColombia.Backend
