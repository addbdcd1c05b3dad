import DemoColombia.Backend.Threads

/-! # The backend's own delays

The callback thread handles messages one at a time; while it is inside an alert, later messages
wait in the client. `last_update` is the clock at *handling* time, so a person whose messages are
waiting behind the alert of somebody else looks expired although it keeps being seen
(`waiting_messages_do_not_count`). What the staleness test does guarantee is about the messages
that have been handled (`exit_after_latest_stamp`).

`Timed` adds a clock, the arrivals still waiting for their stamp and those that have it to the
threads. Time passes only while the callback thread is inside an alert or has nothing to do: a call
of `on_message` without an alert takes no time. -/

namespace DemoColombia.Backend

variable {PersonId : Type*}

/-- The callback thread is inside an alert. -/
def CallbackPc.alerting : CallbackPc PersonId → Bool
  | .alert _ => true
  | .markInside _ => true
  | _ => false

/-- The person whose message is being handled and not yet stamped. -/
def CallbackPc.unstamped : CallbackPc PersonId → Option PersonId
  | .lookup p => some p
  | .register p => some p
  | .touch p => some p
  | _ => none

/-- The next access of the callback thread writes the time stamp. -/
def CallbackPc.stamping : CallbackPc PersonId → Bool
  | .register _ => true
  | .touch _ => true
  | _ => false

/-- The clock reading of the sweep in progress. -/
def CheckerPc.now : CheckerPc PersonId → Option ℚ
  | .snapshot now => some now
  | .next now _ => some now
  | .compare now _ _ => some now
  | .alert now _ _ => some now
  | .markOutside now _ _ => some now
  | _ => none

/-! ## What the accesses do to the stamps -/

/-- The record of `p` exists and was updated at `t` or later. -/
def PersonState.UpdatedSince [DecidableEq PersonId] (ps : PersonState PersonId) (p : PersonId)
    (t : ℚ) : Prop :=
  ∃ state, ps.get? p = some state ∧ t ≤ state.last_update

/-- Writing a flag makes no record older. -/
theorem PersonState.UpdatedSince.setInside [DecidableEq PersonId] {ps : PersonState PersonId}
    {p : PersonId} {t : ℚ} (h : ps.UpdatedSince p t) (q : PersonId) (value : Bool) :
    (ps.setInside q value).UpdatedSince p t := by
  obtain ⟨state, hget, hle⟩ := h
  by_cases hp : p = q
  · have hwritten : (ps.setInside q value).get? p = some { state with inside_roi := value } := by
      rw [PersonState.get?_setInside, if_pos hp, hget]
      rfl
    exact ⟨_, hwritten, hle⟩
  · exact ⟨state, by rw [PersonState.get?_setInside, if_neg hp, hget], hle⟩

theorem CallbackPc.exists_unstamped {pc : CallbackPc PersonId} (h : pc.stamping = true) :
    ∃ p, pc.unstamped = some p := by
  cases pc with
  | register p => exact ⟨p, rfl⟩
  | touch p => exact ⟨p, rfl⟩
  | _ => cases h

namespace Threads

variable [DecidableEq PersonId] {s s' : Threads PersonId} {l : Label PersonId} {p : PersonId}

/-- A known person stays known. -/
theorem known_moves (hmoves : Moves s l s') (h : (s.person_state.get? p).isSome) :
    (s'.person_state.get? p).isSome := by
  cases hmoves with
  | @register q clock hpc =>
    -- the person registered is known now, the others as before
    show ((s.person_state.register q clock).get? p).isSome
    rw [PersonState.get?_register]
    split
    · rfl
    · exact h
  | touch hpc => exact (PersonState.isSome_touch _ _ _ _).trans h
  | markInside hpc | markOutside hpc => exact (PersonState.isSome_setInside _ _ _ _).trans h
  | _ => exact h

/-- The callback thread comes to touch a record only after finding it. -/
theorem touching_moves (hmoves : Moves s l s') (hpc : s'.callback = .touch p)
    (h : s.callback = .touch p → (s.person_state.get? p).isSome) :
    (s'.person_state.get? p).isSome := by
  by_cases hold : s.callback = .touch p
  · exact known_moves hmoves (h hold)
  · cases hmoves with
    | @present q clock state hq hget =>
      -- the test of `person_state` has just found the record
      cases hpc
      show (s.person_state.get? p).isSome
      rw [hget]
      rfl
    | message | absent | register | touch | seenInside | seenOutside | entrada | markInside
    | returns => cases hpc
    | _ => exact absurd hpc hold

/-- No access makes a record older, if the clock it reads is not behind. -/
theorem updatedSince_moves {t : ℚ} (hmoves : Moves s l s')
    (hclock : ∀ clock, l = .callback clock → t ≤ clock) (h : s.person_state.UpdatedSince p t) :
    s'.person_state.UpdatedSince p t := by
  cases hmoves with
  | @register q clock hpc =>
    obtain ⟨state, hget, hle⟩ := h
    by_cases hp : p = q
    · exact ⟨⟨clock, false⟩, by simp [PersonState.get?_register, hp], hclock clock rfl⟩
    · exact ⟨state, by simp [PersonState.get?_register, hp, hget], hle⟩
  | @touch q clock hpc =>
    obtain ⟨state, hget, hle⟩ := h
    by_cases hp : p = q
    · have htouched : (s.person_state.touch q clock).get? p
          = some { state with last_update := clock } := by
        rw [PersonState.get?_touch, if_pos hp, hget]
        rfl
      exact ⟨_, htouched, hclock clock rfl⟩
    · exact ⟨state, by simp [PersonState.get?_touch, hp, hget], hle⟩
  | markInside hpc | markOutside hpc => exact h.setInside _ _
  | _ => exact h

/-- The stamping access writes the clock into the record of the person in hand. -/
theorem updatedSince_of_stamping {t clock : ℚ} (hmoves : Moves s (.callback clock) s')
    (hstamping : s.callback.stamping = true) (hp : s.callback.unstamped = some p)
    (hknown : s.callback = .touch p → (s.person_state.get? p).isSome) (hle : t ≤ clock) :
    s'.person_state.UpdatedSince p t := by
  cases hmoves with
  | @register q _ hpc =>
    rw [hpc] at hp
    obtain rfl : q = p := Option.some.inj hp
    exact ⟨⟨clock, false⟩, by simp [PersonState.get?_register], hle⟩
  | @touch q _ hpc =>
    rw [hpc] at hp
    obtain rfl : q = p := Option.some.inj hp
    obtain ⟨state, hget⟩ := Option.isSome_iff_exists.mp (hknown hpc)
    exact ⟨{ state with last_update := clock }, by simp [PersonState.get?_touch, hget], hle⟩
  | absent hpc | present hpc | seenInside hpc | seenOutside hpc | entrada hpc | markInside hpc
  | returns hpc =>
    -- none of these accesses writes a stamp
    rw [hpc] at hstamping
    cases hstamping

/-- A message is in hand and unstamped from its delivery to the access that stamps it. -/
theorem unstamped_moves (hmoves : Moves s l s') (hp : s'.callback.unstamped = some p) :
    l = .message p ∨ s.callback.unstamped = some p ∧
      ((∃ clock, l = .checker clock) ∨ s.callback.stamping = false) := by
  cases hmoves with
  | message hpc => exact .inl (congrArg Label.message (Option.some.inj hp))
  | absent hpc | present hpc =>
    -- the test of `person_state` leaves the message in hand and writes nothing
    rw [hpc]
    exact .inr ⟨hp, .inr rfl⟩
  | register | touch | seenInside | seenOutside | entrada | markInside | returns => cases hp
  | _ => exact .inr ⟨hp, .inl ⟨_, rfl⟩⟩

/-- A sweep keeps the clock reading it started with. -/
theorem now_moves {now : ℚ} (hmoves : Moves s l s') (hnow : now ∈ s'.checker.now) :
    l = .checker now ∨ now ∈ s.checker.now := by
  cases hmoves with
  | readClock hpc => exact .inl (congrArg Label.checker (Option.some.inj hnow))
  | snapshot hpc | isInside hpc | isOutside hpc | stale hpc | fresh hpc | salida hpc
  | markOutside hpc =>
    rw [hpc]
    exact .inr hnow
  | endSweep | wake => cases hnow
  | _ => exact .inr hnow

/-- The decision to alert about `p` found its stamp expired. -/
theorem stale_of_moves {now : ℚ} {todo : List PersonId} (hmoves : Moves s l s')
    (hcompare : s.checker = .compare now p todo) (halert : s'.checker = .alert now p todo) :
    ∃ state, s.person_state.get? p = some state ∧
      INACTIVITY_THRESHOLD < now - state.last_update := by
  cases hmoves with
  | @stale now' q todo' clock state hpc hget hstale =>
    rw [hcompare] at hpc
    cases hpc
    exact ⟨state, hget, of_decide_eq_true hstale⟩
  | readClock | snapshot | endSweep | isInside | isOutside | fresh | salida | markOutside | wake =>
    cases halert
  | _ =>
    -- a move of the callback thread leaves the checker where it is
    rw [hcompare] at halert
    cases halert

end Threads

/-! ## The timed system -/

/-- The threads with a clock and the arrivals of the messages. -/
structure Timed (PersonId : Type*) where
  threads : Threads PersonId
  clock : ℚ
  /-- The messages that have arrived and have no stamp yet, with their arrival times, oldest first;
  the head is the one in hand while `on_message` has not stamped it. -/
  pending : List (PersonId × ℚ)
  /-- The messages whose handling has written `last_update`. -/
  stamped : List (PersonId × ℚ)
  deriving DecidableEq

/-- What happens next. -/
inductive TimedLabel (PersonId : Type*)
  /-- Time passes. -/
  | tick (d : ℚ)
  /-- A message of `p` arrives at the client. -/
  | arrive (p : PersonId)
  /-- The client hands the oldest waiting message to the idle callback thread. -/
  | deliver
  | callback
  | checker

namespace Timed

/-- Every message that has arrived, in arrival order. -/
def arrived (s : Timed PersonId) : List (PersonId × ℚ) := s.stamped ++ s.pending

variable [DecidableEq PersonId]

/-- Time zero, nothing has arrived. -/
def init : Timed PersonId := ⟨Threads.init, 0, [], []⟩

/-- One step; the threads read the clock. -/
def next (s : Timed PersonId) : TimedLabel PersonId → Option (Timed PersonId)
  -- time passes inside an alert, or while there is nothing to handle
  | .tick d =>
    if 0 ≤ d ∧ (s.threads.callback.alerting ∨ s.threads.callback = .idle ∧ s.pending = []) then
      some { s with clock := s.clock + d }
    else none
  | .arrive p => some { s with pending := s.pending ++ [(p, s.clock)] }
  | .deliver => match s.pending with
    | (p, _) :: _ => (s.threads.next (.message p)).map fun t => { s with threads := t }
    | [] => none
  -- the write of `last_update` gives the message in hand its stamp
  | .callback => (s.threads.next (.callback s.clock)).map fun t =>
      if s.threads.callback.stamping then
        { s with threads := t, pending := s.pending.tail, stamped := s.stamped ++ s.pending.take 1 }
      else { s with threads := t }
  | .checker => (s.threads.next (.checker s.clock)).map fun t => { s with threads := t }

/-- The arrival times of the messages of `p`, in order. -/
def arrivalsOf (s : Timed PersonId) (p : PersonId) : List ℚ :=
  s.arrived.filterMap fun a => if a.1 = p then some a.2 else none

/-- The step from `s` to `s'` is the checker's decision that `p` has left. -/
def Decides (s s' : Timed PersonId) (p : PersonId) : Prop :=
  s.next .checker = some s' ∧
    ∃ now todo, s.threads.checker = .compare now p todo ∧ s'.threads.checker = .alert now p todo

theorem mem_arrivalsOf {s : Timed PersonId} {p : PersonId} {t : ℚ} :
    t ∈ s.arrivalsOf p ↔ (p, t) ∈ s.arrived := by
  simp [arrivalsOf, List.mem_filterMap]

/-! ## The invariant -/

/-- What relates the clock, the arrivals and the time stamps. -/
structure ClockInv (s : Timed PersonId) : Prop where
  /-- Nothing has arrived in the future. -/
  arrived_le : ∀ a ∈ s.arrived, a.2 ≤ s.clock
  /-- The message in hand is the oldest waiting one. -/
  in_hand : ∀ p, s.threads.callback.unstamped = some p → ∃ t, s.pending.head? = some (p, t)
  /-- The callback thread touches records that exist. -/
  touching : ∀ p, s.threads.callback = .touch p → (s.threads.person_state.get? p).isSome
  /-- A stamp is not older than the arrival of any message of its person that has been stamped. -/
  stamped_le : ∀ a ∈ s.stamped, s.threads.person_state.UpdatedSince a.1 a.2
  /-- The sweep in progress read the clock in the past. -/
  now_le : ∀ now ∈ s.threads.checker.now, now ≤ s.clock

theorem ClockInv.init : ClockInv (init : Timed PersonId) where
  arrived_le := by simp [Timed.init, arrived]
  in_hand := by simp [Timed.init, Threads.init, CallbackPc.unstamped]
  touching := by simp [Timed.init, Threads.init]
  stamped_le := by simp [Timed.init]
  now_le := by simp [Timed.init, Threads.init, CheckerPc.now]

variable {s s' : Timed PersonId}

theorem ClockInv.tick (h : ClockInv s) {d : ℚ} (hd : 0 ≤ d) :
    ClockInv { s with clock := s.clock + d } where
  arrived_le := fun a ha => le_add_of_le_of_nonneg (h.arrived_le a ha) hd
  in_hand := h.in_hand
  touching := h.touching
  stamped_le := h.stamped_le
  now_le := fun now hnow => le_add_of_le_of_nonneg (h.now_le now hnow) hd

theorem ClockInv.arrive (h : ClockInv s) (p : PersonId) :
    ClockInv { s with pending := s.pending ++ [(p, s.clock)] } where
  arrived_le := by
    intro a ha
    rw [arrived, ← List.append_assoc, List.mem_append] at ha
    -- an old arrival, or the one that arrives now
    rcases ha with ha | ha
    · exact h.arrived_le a ha
    · rw [List.mem_singleton.mp ha]
  in_hand := by
    intro q hq
    obtain ⟨t, ht⟩ := h.in_hand q hq
    exact ⟨t, by rw [List.head?_append, ht]; rfl⟩
  touching := h.touching
  stamped_le := h.stamped_le
  now_le := h.now_le

/-- A move of the threads that stamps nothing. -/
theorem ClockInv.unstamping (h : ClockInv s) {l : Label PersonId} {t : Threads PersonId}
    (hclock : ∀ clock, l = .callback clock ∨ l = .checker clock → clock = s.clock)
    (hmessage : ∀ p, l = .message p → ∃ t, s.pending.head? = some (p, t))
    (hmoves : Threads.Moves s.threads l t) : ClockInv { s with threads := t } where
  arrived_le := h.arrived_le
  in_hand := by
    intro p hp
    rcases Threads.unstamped_moves hmoves hp with hl | ⟨hold, -⟩
    · exact hmessage p hl
    · exact h.in_hand p hold
  touching := by
    intro p hp
    exact Threads.touching_moves hmoves hp (h.touching p)
  stamped_le := by
    intro a ha
    refine Threads.updatedSince_moves hmoves (fun clock hl => ?_) (h.stamped_le a ha)
    rw [hclock clock (.inl hl)]
    exact h.arrived_le a (List.mem_append_left _ ha)
  now_le := by
    intro now hnow
    rcases Threads.now_moves hmoves hnow with hl | hold
    · exact (hclock now (.inr hl)).le
    · exact h.now_le now hold

/-- The access that stamps the message in hand. -/
theorem ClockInv.stamp (h : ClockInv s) {t : Threads PersonId}
    (hstamping : s.threads.callback.stamping = true)
    (hmoves : Threads.Moves s.threads (.callback s.clock) t) :
    ClockInv { s with
      threads := t, pending := s.pending.tail, stamped := s.stamped ++ s.pending.take 1 } where
  arrived_le := by
    intro a ha
    apply h.arrived_le a
    -- the message moves from one list to the other: what has arrived stays the same
    rwa [arrived, List.append_assoc, ← List.drop_one, List.take_append_drop] at ha
  in_hand := by
    intro p hp
    rcases Threads.unstamped_moves hmoves hp with hl | ⟨-, ⟨clock, hl⟩ | hold⟩
    · cases hl
    · cases hl
    · rw [hstamping] at hold; cases hold
  touching := by
    intro p hp
    exact Threads.touching_moves hmoves hp (h.touching p)
  stamped_le := by
    intro a ha
    rcases List.mem_append.mp ha with ha | ha
    · refine Threads.updatedSince_moves hmoves (fun clock hl => ?_) (h.stamped_le a ha)
      cases hl
      exact h.arrived_le a (List.mem_append_left _ ha)
    · -- the message in hand: its person is the one whose record is written, at the clock
      obtain ⟨p, hp⟩ := CallbackPc.exists_unstamped hstamping
      obtain ⟨t₀, hhead⟩ := h.in_hand p hp
      have hmem := List.mem_of_mem_take ha
      have hle := h.arrived_le a (List.mem_append_right _ hmem)
      obtain ⟨rest, hrest⟩ : ∃ rest, s.pending = (p, t₀) :: rest := List.head?_eq_some_iff.mp hhead
      obtain rfl : a = (p, t₀) := by simpa [hrest] using ha
      exact Threads.updatedSince_of_stamping hmoves hstamping hp (h.touching p) hle
  now_le := by
    intro now hnow
    rcases Threads.now_moves hmoves hnow with hl | hold
    · cases hl
    · exact h.now_le now hold

/-- **Every step preserves the invariant.** -/
theorem ClockInv.step {l : TimedLabel PersonId} (h : ClockInv s) (hnext : s.next l = some s') :
    ClockInv s' := by
  cases l with
  | tick d =>
    rw [next] at hnext
    split at hnext
    · rename_i hd
      cases hnext
      exact h.tick hd.1
    · cases hnext
  | arrive p =>
    cases hnext
    exact h.arrive p
  | deliver =>
    rw [next] at hnext
    split at hnext
    · -- the message handed over is the head of `pending`
      rename_i p t rest hpending
      obtain ⟨threads, hthreads, rfl⟩ := Option.map_eq_some_iff.mp hnext
      refine h.unstamping (by simp) ?_ (Threads.moves_of_next hthreads)
      intro q hq
      cases hq
      exact ⟨t, by rw [hpending]; rfl⟩
    · cases hnext
  | callback =>
    obtain ⟨threads, hthreads, hs'⟩ := Option.map_eq_some_iff.mp hnext
    have hmoves := Threads.moves_of_next hthreads
    -- only the access that stores the clock moves a message to `stamped`
    split at hs'
    · rename_i hstamping
      rw [← hs']
      exact h.stamp hstamping hmoves
    · rw [← hs']
      exact h.unstamping (by simp) (by simp) hmoves
  | checker =>
    obtain ⟨threads, hthreads, rfl⟩ := Option.map_eq_some_iff.mp hnext
    exact h.unstamping (by simp) (by simp) (Threads.moves_of_next hthreads)

/-- The invariant holds of every reachable state. -/
theorem ClockInv.of_reachable (h : Reachable next Timed.init s) : ClockInv s :=
  h.invariant (P := ClockInv) ClockInv.init fun _ _ _ hinv _ hnext => hinv.step hnext

end Timed

variable [DecidableEq PersonId]

/-- **An exit is decided only after the threshold since the latest stamp.** In every run, when the
checker decides that `p` has left, its time stamp is older than the threshold, and so is the arrival
of every message of `p` that has been stamped: of every message of `p` at all, unless one of them is
still waiting for the callback thread. -/
theorem exit_after_latest_stamp {s s' : Timed PersonId} {p : PersonId}
    (h : Reachable Timed.next Timed.init s) (hdecides : s.Decides s' p) :
    (∃ state, s.threads.person_state.get? p = some state ∧
        INACTIVITY_THRESHOLD < s.clock - state.last_update) ∧
      (∀ t, (p, t) ∈ s.stamped → INACTIVITY_THRESHOLD < s.clock - t) ∧
      ((∀ a ∈ s.pending, a.1 ≠ p) →
        ∀ t ∈ s.arrivalsOf p, INACTIVITY_THRESHOLD < s.clock - t) := by
  have hinv := Timed.ClockInv.of_reachable h
  obtain ⟨hnext, now, todo, hcompare, halert⟩ := hdecides
  obtain ⟨threads, hthreads, rfl⟩ := Option.map_eq_some_iff.mp hnext
  -- the sweep compares with the clock it read when it started, which is not ahead
  have hnow : now ≤ s.clock := hinv.now_le now (by rw [hcompare]; rfl)
  obtain ⟨state, hget, hstale⟩ := Threads.stale_of_moves (Threads.moves_of_next hthreads)
    hcompare halert
  have hstamp : INACTIVITY_THRESHOLD < s.clock - state.last_update :=
    hstale.trans_le (sub_le_sub_right hnow _)
  have hstamped : ∀ t, (p, t) ∈ s.stamped → INACTIVITY_THRESHOLD < s.clock - t := by
    intro t ht
    obtain ⟨state', hget', hle⟩ := hinv.stamped_le (p, t) ht
    obtain rfl : state = state' := Option.some.inj (hget.symm.trans hget')
    exact hstamp.trans_le (sub_le_sub_left hle _)
  refine ⟨⟨state, hget, hstamp⟩, hstamped, fun hwaiting t ht => ?_⟩
  -- every arrival of `p` is stamped, as none is waiting
  rcases List.mem_append.mp (Timed.mem_arrivalsOf.mp ht) with ht | ht
  · exact hstamped t ht
  · exact absurd rfl (hwaiting (p, t) ht)

/-- The guarantee where it is reached: person `1` is seen at times `0` and `4`, its second message
waits until time `6` behind the entry alert of person `2`, and the sweep at time `11` decides that
it has left. -/
theorem exit_after_latest_stamp_delayed :
    ∃ s s' : Timed ℕ, Reachable Timed.next Timed.init s ∧ s.Decides s' 1 ∧ s.clock = 11 ∧
      s.arrivalsOf 1 = [0, 4] ∧ s.threads.person_state.get? 1 = some ⟨6, true⟩ ∧
      ∀ t ∈ s.arrivalsOf 1, INACTIVITY_THRESHOLD < s.clock - t := by
  have hexec : exec Timed.next (Timed.init : Timed ℕ)
      (.arrive 1 :: .deliver :: List.replicate 6 .callback
        ++ .arrive 2 :: .deliver :: List.replicate 3 .callback
        ++ [.tick 4, .arrive 1, .tick 2] ++ List.replicate 3 .callback
        ++ .deliver :: List.replicate 4 .callback ++ .tick 5 :: List.replicate 3 .checker)
      = some ⟨⟨⟨[(1, ⟨6, true⟩), (2, ⟨0, true⟩)], by decide⟩, .idle, .compare 11 1 [2],
          [.entrada 1, .entrada 2]⟩, 11, [], [(1, 0), (2, 0), (1, 4)]⟩ := by
    decide +kernel
  have hreach := reachable_of_exec hexec
  have hdecides : (⟨⟨⟨[(1, ⟨6, true⟩), (2, ⟨0, true⟩)], by decide⟩, .idle, .compare 11 1 [2],
        [.entrada 1, .entrada 2]⟩, 11, [], [(1, 0), (2, 0), (1, 4)]⟩ : Timed ℕ).Decides
      ⟨⟨⟨[(1, ⟨6, true⟩), (2, ⟨0, true⟩)], by decide⟩, .idle, .alert 11 1 [2],
          [.entrada 1, .entrada 2]⟩, 11, [], [(1, 0), (2, 0), (1, 4)]⟩ 1 :=
    ⟨by decide +kernel, 11, [2], rfl, rfl⟩
  exact ⟨_, _, hreach, hdecides, rfl, rfl, rfl,
    (exit_after_latest_stamp hreach hdecides).2.2 (List.forall_mem_nil _)⟩

/-- What one would like to hold: if consecutive messages of a person arrive at most the threshold
apart, its exit is decided only after the threshold since its latest arrival. -/
def NoFalseExit (PersonId : Type*) [DecidableEq PersonId] : Prop :=
  ∀ (s s' : Timed PersonId) (p : PersonId), Reachable Timed.next Timed.init s → s.Decides s' p →
    (s.arrivalsOf p).IsChain (fun a b => b - a ≤ INACTIVITY_THRESHOLD) →
    ∀ t ∈ (s.arrivalsOf p).getLast?, INACTIVITY_THRESHOLD < s.clock - t

/-- **A waiting message does not count.** Person `1` is seen at times `0` and `4`; the second
message waits behind the entry alert of person `2`, which lasts from `0` to beyond `5`, and the
sweep at time `5` finds the stamp `0` expired, one second after `1` was seen. -/
theorem waiting_messages_do_not_count : ¬ NoFalseExit ℕ := by
  intro hno
  -- the second message of `1` arrives at `4`, behind the alert about `2` that began at `0`
  have hexec : exec Timed.next (Timed.init : Timed ℕ)
      [.arrive 1, .deliver, .callback, .callback, .callback, .callback, .callback, .callback,
        .arrive 2, .deliver, .callback, .callback, .callback,
        .tick 4, .arrive 1, .tick 1, .checker, .checker, .checker]
      = some ⟨⟨⟨[(1, ⟨0, true⟩), (2, ⟨0, false⟩)], by decide⟩, .alert 2, .compare 5 1 [2],
          [.entrada 1]⟩, 5, [(1, 4)], [(1, 0), (2, 0)]⟩ := by
    decide +kernel
  have hdecides : (⟨⟨⟨[(1, ⟨0, true⟩), (2, ⟨0, false⟩)], by decide⟩, .alert 2, .compare 5 1 [2],
        [.entrada 1]⟩, 5, [(1, 4)], [(1, 0), (2, 0)]⟩ : Timed ℕ).Decides
      ⟨⟨⟨[(1, ⟨0, true⟩), (2, ⟨0, false⟩)], by decide⟩, .alert 2, .alert 5 1 [2],
          [.entrada 1]⟩, 5, [(1, 4)], [(1, 0), (2, 0)]⟩ 1 :=
    ⟨by decide +kernel, 5, [2], rfl, rfl⟩
  have hlate := hno _ _ 1 (reachable_of_exec hexec) hdecides (by decide +kernel) 4
    (by decide +kernel)
  exact absurd hlate (by decide +kernel)

end DemoColombia.Backend
