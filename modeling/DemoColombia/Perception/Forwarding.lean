import DemoColombia.Perception.BrokerThreads

/-! # The queue is forwarded in order, without loss or duplication

`Broker.Inv` ties the program counters to the mutex and to the queue; it holds of every reachable
state (`Broker.Inv.of_reachable`). Its last field is the forwarding law: what was ever pushed is
what was accepted followed by what is still queued (`fifo_forwarding`). -/

namespace DemoColombia.Perception

/-- The steps of the probe made under the mutex. -/
def ProbePc.critical : ProbePc → Bool
  | .running => false
  | .locking _ => false
  | _ => true

/-- The steps of the sender made under the mutex. -/
def SenderPc.critical : SenderPc → Bool
  | .loopHead => false
  | .locking => false
  | .waiting => false
  | .woken => false
  | .exited => false
  | _ => true

/-- The element the sender has taken from the front of the queue and not yet popped. -/
def SenderPc.inHand : SenderPc → Option ObjInfo
  | .publishing obj_info _ => some obj_info
  | .popping obj_info => some obj_info
  | _ => none

/-- The elements of the queue that have not been accepted: an accepted front is about to be popped.
-/
def SenderPc.remaining : SenderPc → List ObjInfo → List ObjInfo
  | .popping _, obj_list => obj_list.tail
  | _, obj_list => obj_list

/-! ## A notification moves a waiting sender only -/

@[simp] theorem SenderPc.critical_notified (pc : SenderPc) :
    pc.notified.critical = pc.critical := by
  cases pc <;> rfl

@[simp] theorem SenderPc.inHand_notified (pc : SenderPc) :
    pc.notified.inHand = pc.inHand := by
  cases pc <;> rfl

@[simp] theorem SenderPc.remaining_notified (pc : SenderPc) :
    pc.notified.remaining = pc.remaining := by
  cases pc <;> rfl

theorem SenderPc.notified_ne_waiting (pc : SenderPc) : pc.notified ≠ .waiting := by
  cases pc <;> nofun

theorem SenderPc.eq_of_notified_eq {pc pc' : SenderPc} (h : pc.notified = pc')
    (hne : pc' ≠ .woken) : pc = pc' := by
  cases pc <;> simp_all [SenderPc.notified]

/-- Outside the step that pops, nothing accepted is left in the queue. -/
theorem SenderPc.remaining_eq {pc : SenderPc} (h : ∀ o, pc ≠ .popping o) (l : List ObjInfo) :
    pc.remaining l = l := by
  cases pc with
  | popping o => exact absurd rfl (h o)
  | _ => rfl

/-- A sender outside its critical section has nothing in hand. -/
theorem SenderPc.inHand_of_outside {pc : SenderPc} (h : pc.critical = false) :
    pc.inHand = none := by
  cases pc <;> simp_all [SenderPc.critical, SenderPc.inHand]

theorem SenderPc.remaining_of_outside {pc : SenderPc} (h : pc.critical = false) (l : List ObjInfo) :
    pc.remaining l = l :=
  SenderPc.remaining_eq (by rintro o rfl; cases h) l

namespace Broker

/-- What ties the program counters to the mutex, the flag and the queue. -/
structure Inv (s : Broker) : Prop where
  /-- Nothing is ever queued on `frame_list`. -/
  frames : s.frame_list = []
  sender_holds : s.mtx = some .sender ↔ s.sender.critical = true
  probe_holds : s.mtx = some .probe ↔ s.probe.critical = true
  /-- `main` clears the flag and nobody sets it again. -/
  flag : s.app_is_running = true ↔ s.main = .running
  /-- Past its test the sender finds an element. -/
  front : s.sender = .front → s.obj_list ≠ []
  /-- The element in hand is still the front of the queue. -/
  in_hand : ∀ o, s.sender.inHand = some o → s.obj_list.head? = some o
  /-- The retry loop goes on only without a success so far. -/
  retrying : ∀ o retry, s.sender = .publishing o retry → retry.sentOK = false ∧ 0 < retry.tries
  /-- **The forwarding law.** -/
  forwarded : s.pushed = s.accepted ++ s.sender.remaining s.obj_list

theorem Inv.init (queue : List ObjInfo) : Inv (init queue) where
  frames := rfl
  sender_holds := by simp [Broker.init, SenderPc.critical]
  probe_holds := by simp [Broker.init, ProbePc.critical]
  flag := by simp [Broker.init]
  front := nofun
  in_hand := nofun
  retrying := nofun
  forwarded := rfl

variable {s s' : Broker}

theorem Inv.sender_outside (h : Inv s) (hmtx : s.mtx ≠ some .sender) :
    s.sender.critical = false := by
  rw [← Bool.not_eq_true, ← h.sender_holds]
  exact hmtx

theorem Inv.probe_outside (h : Inv s) (hmtx : s.mtx ≠ some .probe) :
    s.probe.critical = false := by
  rw [← Bool.not_eq_true, ← h.probe_holds]
  exact hmtx

/-- **Mutual exclusion**: one of the two is outside its critical section. -/
theorem Inv.exclusive (h : Inv s) (hprobe : s.probe.critical = true) : s.sender.critical = false :=
  h.sender_outside (by rw [h.probe_holds.mpr hprobe]; decide)

/-- A notification, wherever it comes from. -/
theorem Inv.notified (h : Inv s) : Inv { s with sender := s.sender.notified } where
  frames := h.frames
  sender_holds := by simpa using h.sender_holds
  probe_holds := h.probe_holds
  flag := h.flag
  front hpc := h.front (SenderPc.eq_of_notified_eq hpc nofun)
  in_hand o hpc := h.in_hand o (by simpa using hpc)
  retrying o retry hpc := h.retrying o retry (SenderPc.eq_of_notified_eq hpc nofun)
  forwarded := by simpa using h.forwarded

/-- A move of the sender that neither takes nor releases the mutex, outside publishing. -/
theorem Inv.setSender (h : Inv s) (pc : SenderPc) (hcritical : pc.critical = s.sender.critical)
    (hfront : pc = .front → s.obj_list ≠ [])
    (hin_hand : ∀ o, pc.inHand = some o → s.obj_list.head? = some o)
    (hretrying : ∀ o retry, pc = .publishing o retry → retry.sentOK = false ∧ 0 < retry.tries)
    (hremaining : pc.remaining s.obj_list = s.sender.remaining s.obj_list) :
    Inv { s with sender := pc } where
  frames := h.frames
  sender_holds := by simpa [hcritical] using h.sender_holds
  probe_holds := h.probe_holds
  flag := h.flag
  front := hfront
  in_hand := hin_hand
  retrying := hretrying
  forwarded := by simpa [hremaining] using h.forwarded

/-- A move of the sender to a place where it has nothing in hand. -/
theorem Inv.setSender_empty (h : Inv s) (pc : SenderPc)
    (hcritical : pc.critical = s.sender.critical) (hfront : pc ≠ .front) (hempty : pc.inHand = none)
    (hremaining : pc.remaining s.obj_list = s.sender.remaining s.obj_list) :
    Inv { s with sender := pc } := by
  refine h.setSender pc hcritical (fun hpc => absurd hpc hfront) ?_ ?_ hremaining
  · intro o ho
    rw [hempty] at ho
    cases ho
  · intro o retry hpc
    rw [hpc] at hempty
    cases hempty

/-- The sender takes the free mutex. -/
theorem Inv.lock (h : Inv s) (hfree : s.mtx = none) :
    Inv { s with mtx := some .sender, sender := .testing } where
  frames := h.frames
  sender_holds := by simp [SenderPc.critical]
  probe_holds := by simpa using h.probe_outside (by rw [hfree]; decide)
  flag := h.flag
  front := nofun
  in_hand := nofun
  retrying := nofun
  forwarded := by
    have hforwarded := h.forwarded
    rwa [SenderPc.remaining_of_outside (h.sender_outside (by rw [hfree]; decide))] at hforwarded

/-- The sender releases the mutex, having nothing in hand. -/
theorem Inv.unlock (h : Inv s) (pc : SenderPc) (hcritical : s.sender.critical = true)
    (hpc : pc.critical = false) (hold : ∀ o, s.sender ≠ .popping o) :
    Inv { s with mtx := none, sender := pc } where
  frames := h.frames
  sender_holds := by simp [hpc]
  probe_holds := by
    have hmtx := h.sender_holds.mpr hcritical
    simpa using h.probe_outside (by rw [hmtx]; decide)
  flag := h.flag
  front := by rintro rfl; cases hpc
  in_hand o ho := by rw [SenderPc.inHand_of_outside hpc] at ho; cases ho
  retrying := by rintro o retry rfl; cases hpc
  forwarded := by
    have hforwarded := h.forwarded
    rw [SenderPc.remaining_eq hold] at hforwarded
    rwa [SenderPc.remaining_of_outside hpc]

/-- After a success the front is popped. -/
theorem afterPublish_success (o : ObjInfo) (retry : Retry) :
    afterPublish o (retry.next MOSQ_ERR_SUCCESS) = .popping o := by
  rw [Retry.next_success]
  rfl

/-- Without a success the sender tries again or gives up. -/
theorem afterPublish_of_not_sent (o : ObjInfo) {retry : Retry} (h : retry.sentOK = false) :
    afterPublish o retry = if 0 < retry.tries then .publishing o retry else .unlocking := by
  unfold afterPublish
  rw [h]
  rfl

/-- Publishing never puts the sender to sleep. -/
theorem afterPublish_ne_waiting (o : ObjInfo) (retry : Retry) :
    afterPublish o retry ≠ .waiting := by
  unfold afterPublish
  split
  · nofun
  · split <;> nofun

/-- **A publish call**: the front is accepted and will be popped, or the queue stays as it is. -/
theorem Inv.publish (h : Inv s) {o : ObjInfo} {retry : Retry} (hpc : s.sender = .publishing o retry)
    (ret : ℤ) :
    Inv { s with
      sender := afterPublish o (retry.next ret)
      accepted := if ret = MOSQ_ERR_SUCCESS then s.accepted ++ [o] else s.accepted } := by
  have hhead : s.obj_list.head? = some o := h.in_hand o (by rw [hpc]; rfl)
  have hcritical : s.sender.critical = true := by rw [hpc]; rfl
  have hforwarded := h.forwarded
  rw [SenderPc.remaining_eq (by rintro o' ho; rw [hpc] at ho; cases ho)] at hforwarded
  by_cases hret : ret = MOSQ_ERR_SUCCESS
  · subst hret
    rw [afterPublish_success, if_pos rfl]
    refine { h with
      sender_holds := ?_, front := nofun, in_hand := ?_, retrying := nofun, forwarded := ?_ }
    · exact iff_of_true (h.sender_holds.mpr hcritical) rfl
    · intro o' ho
      obtain rfl : o = o' := Option.some.inj ho
      exact hhead
    · -- the front moves from what is left of the queue to what was accepted
      obtain ⟨rest, hrest⟩ := List.head?_eq_some_iff.mp hhead
      show s.pushed = s.accepted ++ [o] ++ s.obj_list.tail
      rw [hforwarded, hrest, List.append_assoc, List.tail_cons, List.singleton_append]
  · -- nothing was accepted, in this call or before
    obtain ⟨hsent, -⟩ := h.retrying o retry hpc
    have hsent' : (retry.next ret).sentOK = false := (retry.next_sentOK_of_ne hret).trans hsent
    rw [if_neg hret, afterPublish_of_not_sent o hsent']
    split
    · rename_i hpos
      refine h.setSender _ (by rw [hcritical]; rfl) nofun ?_ ?_ (by rw [hpc]; rfl)
      · intro o' ho
        obtain rfl : o = o' := Option.some.inj ho
        exact hhead
      · intro o' retry' ho
        cases ho
        exact ⟨hsent', hpos⟩
    · exact h.setSender_empty _ (by rw [hcritical]; rfl) (by decide) rfl (by rw [hpc]; rfl)

/-- The probe pushes while it holds the mutex, so the sender has nothing in hand. -/
theorem Inv.push (h : Inv s) {o : ObjInfo} (hpc : s.probe = .pushing o) :
    Inv { s with
      obj_list := s.obj_list ++ [o], pushed := s.pushed ++ [o], probe := .notifying } := by
  have hprobe : s.probe.critical = true := by rw [hpc]; rfl
  have hsender := h.exclusive hprobe
  refine { h with probe_holds := ?_, front := ?_, in_hand := ?_, forwarded := ?_ }
  · exact iff_of_true (h.probe_holds.mpr hprobe) rfl
  · intro hfront
    rw [hfront] at hsender
    cases hsender
  · intro o' ho
    rw [SenderPc.inHand_of_outside hsender] at ho
    cases ho
  · have hforwarded := h.forwarded
    rw [SenderPc.remaining_of_outside hsender] at hforwarded ⊢
    show s.pushed ++ [o] = s.accepted ++ (s.obj_list ++ [o])
    rw [hforwarded, List.append_assoc]

/-- The sender pops the element it had accepted. -/
theorem Inv.pop (h : Inv s) {o : ObjInfo} (hpc : s.sender = .popping o) :
    Inv { s with obj_list := s.obj_list.tail, sender := .releasing } where
  frames := h.frames
  sender_holds := by
    have hcritical : s.sender.critical = true := by rw [hpc]; rfl
    exact iff_of_true (h.sender_holds.mpr hcritical) rfl
  probe_holds := h.probe_holds
  flag := h.flag
  front := nofun
  in_hand := nofun
  retrying := nofun
  forwarded := by
    have hforwarded := h.forwarded
    rwa [hpc] at hforwarded

/-- **Every step preserves the invariant.** -/
theorem Inv.moves {l : BrokerLabel} (h : Inv s) (hmoves : Moves s l s') : Inv s' := by
  cases hmoves with
  | detect hpc =>
    refine { h with probe_holds := ?_ }
    simpa [hpc, ProbePc.critical] using h.probe_holds
  | lockProbe hpc hfree =>
    -- the mutex was free, so the sender is outside its critical section
    have hsender := h.sender_outside (by rw [hfree]; decide)
    refine { h with sender_holds := ?_, probe_holds := ?_ }
    · simp [hsender]
    · simp [ProbePc.critical]
  | push hpc => exact h.push hpc
  | notifyProbe hpc =>
    refine { h.notified with probe_holds := ?_ }
    simpa [hpc, ProbePc.critical] using h.probe_holds
  | unlockProbe hpc =>
    have hsender := h.exclusive (by rw [hpc]; rfl)
    refine { h with sender_holds := ?_, probe_holds := ?_ }
    · simp [hsender]
    · simp [ProbePc.critical]
  | enter hpc | exit hpc | release hpc | spurious hpc =>
    exact h.setSender_empty _ (by rw [hpc]; rfl) (by decide) rfl (by rw [hpc]; rfl)
  | lockSender hpc hfree => exact h.lock hfree
  | wait hpc hobj hframe =>
    exact h.unlock _ (by rw [hpc]; rfl) rfl (by intro o ho; rw [hpc] at ho; cases ho)
  | ready hpc hne =>
    refine h.setSender _ (by rw [hpc]; rfl) ?_ nofun nofun (by rw [hpc]; rfl)
    -- nothing is queued on `frame_list`, so the test has found an object
    exact fun _ => hne.resolve_right (fun hframe => hframe h.frames)
  | @takeFront ret o rest hpc hobj =>
    refine h.setSender _ (by rw [hpc]; rfl) nofun ?_ ?_ (by rw [hpc]; rfl)
    · intro o' ho
      obtain rfl : o = o' := Option.some.inj ho
      rw [hobj]
      rfl
    · intro o' retry ho
      cases ho
      exact ⟨rfl, by decide⟩
  | noFront hpc hobj => exact absurd hobj (h.front hpc)
  | publish hpc => exact h.publish hpc _
  | pop hpc => exact h.pop hpc
  | unlockSender hpc =>
    exact h.unlock _ (by rw [hpc]; rfl) rfl (by intro o ho; rw [hpc] at ho; cases ho)
  | clearFlag hpc => exact { h with flag := by simp }
  | notifyMain hpc =>
    refine { h.notified with flag := ?_ }
    simpa [hpc] using h.flag
  | join hpc hexited =>
    refine { h with flag := ?_ }
    simpa [hpc] using h.flag

/-- The invariant holds of every reachable state. -/
theorem Inv.of_reachable {queue : List ObjInfo} (h : Reachable next (Broker.init queue) s) :
    Inv s :=
  h.invariant (P := Inv) (Inv.init queue) fun _ _ _ hinv _ hnext => hinv.moves (moves_of_next hnext)

/-- The steps of an iteration that does not pop: the front is taken, published in vain, and the
mutex released. -/
def Failing (s : Broker) (_ : BrokerLabel) : Prop :=
  s.sender = .front ∨ (∃ o retry, s.sender = .publishing o retry) ∨ s.sender = .unlocking

/-- While the sender holds the mutex only its own pop changes the queue. -/
theorem obj_list_of_failing {l : BrokerLabel} (h : Inv s) (hfailing : Failing s l)
    (hmoves : Moves s l s') : s'.obj_list = s.obj_list := by
  have hcritical : s.sender.critical = true := by
    rcases hfailing with hpc | ⟨o, retry, hpc⟩ | hpc <;> rw [hpc] <;> rfl
  cases hmoves with
  | push hpc =>
    -- a push needs the mutex the sender holds
    have hsender := h.exclusive (by rw [hpc]; rfl)
    rw [hcritical] at hsender
    cases hsender
  | pop hpc =>
    -- a failing iteration never comes to the pop
    rcases hfailing with hpc' | ⟨o, retry, hpc'⟩ | hpc' <;> rw [hpc] at hpc' <;> cases hpc'
  | _ => rfl

end Broker

/-- **FIFO forwarding.** In every state reached by any interleaving of the threads, from any queue
and with any return codes, what was ever pushed is what was accepted, in order, followed by what is
left of the queue, an accepted front that is about to be popped counted once. And a send that fails,
from the taking of the front to the release of the mutex, leaves the queue as it was. -/
theorem fifo_forwarding {queue : List ObjInfo} {s : Broker}
    (h : Reachable Broker.next (Broker.init queue) s) :
    s.pushed = s.accepted ++ s.sender.remaining s.obj_list ∧
      ∀ s', ReachableBy Broker.next Broker.Failing s s' → s'.obj_list = s.obj_list := by
  have hinv := Broker.Inv.of_reachable h
  refine ⟨hinv.forwarded, fun s' hrun => ?_⟩
  -- along the failing iteration: the invariant, and the queue of its first state
  refine (hrun.invariant (P := fun t => Broker.Inv t ∧ t.obj_list = s.obj_list) ⟨hinv, rfl⟩ ?_).2
  rintro t l t' ⟨ht, hobj⟩ hfailing hnext
  have hmoves := Broker.moves_of_next hnext
  exact ⟨ht.moves hmoves, (Broker.obj_list_of_failing ht hfailing hmoves).trans hobj⟩

/-- The law where an accepted front is about to be popped: `1` and `2` were pushed, and `1` was
accepted at the second try. -/
theorem fifo_forwarding_popping :
    ∃ s : Broker, Reachable Broker.next (Broker.init []) s ∧ s.sender = .popping (.sample 1 []) ∧
      s.obj_list = [.sample 1 [], .sample 2 []] ∧ s.accepted = [.sample 1 []] ∧
      s.pushed = s.accepted ++ s.sender.remaining s.obj_list := by
  have hexec : exec Broker.next (Broker.init [])
      [.detect (.sample 1 []), .probe, .probe, .probe, .probe,
        .detect (.sample 2 []), .probe, .probe, .probe, .probe,
        .sender 0, .sender 0, .sender 0, .sender 0,
        .sender MOSQ_ERR_NOMEM, .sender MOSQ_ERR_SUCCESS]
      = some ⟨[.sample 1 [], .sample 2 []], [], true, some .sender, .running,
          .popping (.sample 1 []), .running, [.sample 1 [], .sample 2 []], [.sample 1 []]⟩ := by
    decide +kernel
  have hreach := reachable_of_exec hexec
  exact ⟨_, hreach, rfl, rfl, rfl, (fifo_forwarding hreach).1⟩

end DemoColombia.Perception
