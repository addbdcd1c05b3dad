import DemoColombia.Perception.WakeUp

/-! # Shutting the sender down

The inner loop of `send2MQTTBrokerTask` waits for a nonempty queue and nothing else: a sender woken
by `main`'s `notify_all` tests the queues again, and if they are empty it goes back to sleep without
looking at `app_is_running`, while `main` sits in `broker_th.join()` (`shutdown_can_hang`). And
`notify_all` is called without the mutex: it may fall between the test of empty queues and
`cv.wait`, where it wakes nobody. The sender leaves its loop in the runs in which neither happens
(`sender_leaves`), and it does not in the others (`stuck_of_empty_test`,
`stuck_of_early_notification`). -/

namespace DemoColombia.Perception

/-- Whether a label is a step of the sender. -/
def BrokerLabel.isSender : BrokerLabel → Bool
  | .sender _ => true
  | _ => false

namespace Broker

/-- `main` has called `notify_all`. -/
def Notified (s : Broker) : Prop := s.main = .joining ∨ s.main = .joined

/-- A sender that tests after the notification finds an element. -/
def TestSucceeds (s : Broker) (l : BrokerLabel) : Prop :=
  l.isSender = true → s.Notified → s.sender = .testing → s.obj_list ≠ []

instance (s : Broker) : Decidable s.Notified := inferInstanceAs (Decidable (_ ∨ _))

instance (s : Broker) (l : BrokerLabel) : Decidable (TestSucceeds s l) :=
  inferInstanceAs (Decidable (_ → _ → _ → _))

variable {s s' : Broker} {l : BrokerLabel}

/-- After the notification the sender does not go to sleep again, if its tests succeed. -/
theorem awake_moves (hawake : s.Notified → s.sender ≠ .waiting) (hok : TestSucceeds s l)
    (hmoves : Moves s l s') : s'.Notified → s'.sender ≠ .waiting := by
  cases hmoves with
  -- the only step that goes to sleep follows a test of empty queues
  | wait hpc hobj hframe => exact fun hnotified => absurd hobj (hok rfl hnotified hpc)
  | notifyProbe | notifyMain => exact fun _ => s.sender.notified_ne_waiting
  | clearFlag hpc => exact fun hnotified => by rcases hnotified with h | h <;> cases h
  | join hpc hexited => exact fun _ => hawake (.inl hpc)
  | publish hpc => exact fun _ => afterPublish_ne_waiting _ _
  | enter | exit | lockSender | ready | takeFront | noFront | pop | release | unlockSender
  | spurious => exact fun _ => nofun
  | _ => exact hawake

end Broker

/-! ## How many steps the sender has left -/

/-- The most steps the sender may still take before it returns, once the flag is cleared. -/
def SenderPc.rank : SenderPc → ℕ
  | .exited => 0
  | .loopHead => 1
  | .unlocking => 2
  | .releasing => 3
  | .popping _ => 4
  | .publishing _ retry => 4 + retry.tries.toNat
  | .front => 10
  | .testing => 11
  | .locking => 12
  | .woken => 12
  | .waiting => 13

theorem SenderPc.rank_le {pc : SenderPc} (hne : pc ≠ .waiting)
    (htries : ∀ o retry, pc = .publishing o retry → retry.tries ≤ 5) : pc.rank ≤ 12 := by
  cases pc with
  | waiting => exact absurd rfl hne
  | publishing o retry =>
    -- five tries at most, on top of the four steps after the loop
    have htries := htries o retry rfl
    show 4 + retry.tries.toNat ≤ 12
    omega
  | _ => simp [SenderPc.rank]

namespace Broker

/-- A turn of the retry loop takes the sender closer to its return. -/
theorem rank_afterPublish_lt (o : ObjInfo) (retry : Retry) (ret : ℤ) (hpos : 0 < retry.tries) :
    (afterPublish o (retry.next ret)).rank < (SenderPc.publishing o retry).rank := by
  have hlt := retry.tries_next_lt ret hpos
  unfold afterPublish
  split
  · show 4 + (retry.next ret).tries.toNat < 4 + retry.tries.toNat
    omega
  · split
    · show 4 < 4 + retry.tries.toNat
      omega
    · show 2 < 4 + retry.tries.toNat
      omega

/-- What the shutdown phase keeps. -/
structure Leaving (s : Broker) : Prop where
  inv : Inv s
  notified : s.Notified
  awake : s.sender ≠ .waiting
  tries_le : ∀ o retry, s.sender = .publishing o retry → retry.tries ≤ 5

theorem Leaving.flag (h : Leaving s) : s.app_is_running = false := by
  rw [← Bool.not_eq_true, h.inv.flag]
  rcases h.notified with hmain | hmain <;> rw [hmain] <;> decide

/-- The notification is never taken back. -/
theorem notified_moves (h : s.Notified) (hmoves : Moves s l s') : s'.Notified := by
  cases hmoves with
  | clearFlag hpc => rcases h with hmain | hmain <;> rw [hmain] at hpc <;> cases hpc
  | notifyMain hpc => exact .inl rfl
  | join hpc hexited => exact .inr rfl
  | _ => exact h

/-- Only `main` makes it. -/
theorem notified_before (hmoves : Moves s l s') (h : s'.Notified) :
    s.Notified ∨ (l = .main ∧ s.main = .notifying) := by
  cases hmoves with
  | clearFlag => rcases h with hmain | hmain <;> cases hmain
  | notifyMain hpc => exact .inr ⟨rfl, hpc⟩
  | join hpc => exact .inl (.inl hpc)
  | _ => exact .inl h

/-- The retry loop starts with five tries and only loses some. -/
theorem tries_le_moves (hinv : Inv s)
    (h : ∀ o retry, s.sender = .publishing o retry → retry.tries ≤ 5) (hmoves : Moves s l s') :
    ∀ o retry, s'.sender = .publishing o retry → retry.tries ≤ 5 := by
  cases hmoves with
  | notifyProbe | notifyMain =>
    exact fun o retry hpc' => h o retry (SenderPc.eq_of_notified_eq hpc' nofun)
  | takeFront hpc hobj =>
    intro o retry hpc'
    cases hpc'
    decide
  | @publish ret o retry hpc =>
    intro o' retry' hpc'
    have hlt := retry.tries_next_lt ret (hinv.retrying o retry hpc).2
    have hle := h o retry hpc
    unfold afterPublish at hpc'
    split at hpc'
    · cases hpc'
      omega
    · split at hpc' <;> cases hpc'
  | enter | exit | lockSender | wait | ready | noFront | pop | release | unlockSender
  | spurious =>
    intro o retry hpc'
    cases hpc'
  | _ => exact h

theorem tries_le_of_reachable {queue : List ObjInfo} (h : Reachable next (Broker.init queue) s) :
    ∀ o retry, s.sender = .publishing o retry → retry.tries ≤ 5 :=
  (h.invariant (P := fun s => Inv s ∧ ∀ o retry, s.sender = .publishing o retry → retry.tries ≤ 5)
    ⟨Inv.init queue, nofun⟩ fun _ _ _ ht _ hnext =>
      ⟨ht.1.moves (moves_of_next hnext), tries_le_moves ht.1 ht.2 (moves_of_next hnext)⟩).2

theorem Leaving.moves (h : Leaving s) (hok : TestSucceeds s l) (hmoves : Moves s l s') :
    Leaving s' where
  inv := h.inv.moves hmoves
  notified := notified_moves h.notified hmoves
  awake := awake_moves (fun _ => h.awake) hok hmoves (notified_moves h.notified hmoves)
  tries_le := tries_le_moves h.inv h.tries_le hmoves

/-- **Every step of the sender lowers its rank**, and no other step raises it. -/
theorem Leaving.rank_moves (h : Leaving s) (hok : TestSucceeds s l) (hmoves : Moves s l s') :
    if l.isSender then s'.sender.rank < s.sender.rank else s'.sender.rank ≤ s.sender.rank := by
  have hnotified : s.sender.notified = s.sender := by
    have hawake := h.awake
    cases hpc : s.sender <;> simp_all [SenderPc.notified]
  cases hmoves with
  | enter hpc hflag =>
    -- the flag is cleared, so the head of the loop is passed no more
    rw [h.flag] at hflag
    cases hflag
  | lockSender hpc hfree =>
    rcases hpc with hpc | hpc <;> simp [BrokerLabel.isSender, SenderPc.rank, hpc]
  | wait hpc hobj hframe => exact absurd hobj (hok rfl h.notified hpc)
  | takeFront hpc hobj =>
    rw [hpc]
    show 4 + 5 < 10
    omega
  | @publish ret o retry hpc =>
    -- a turn of the retry loop is paid for by its tries
    have hrank := rank_afterPublish_lt o retry ret (h.inv.retrying o retry hpc).2
    rwa [← hpc] at hrank
  | notifyProbe | notifyMain => exact (congrArg SenderPc.rank hnotified).le
  | exit hpc | ready hpc | noFront hpc | pop hpc | release hpc | unlockSender hpc =>
    simp [BrokerLabel.isSender, SenderPc.rank, hpc]
  | spurious hpc => exact absurd hpc h.awake
  | _ => exact le_rfl

/-- **The sender is never blocked for good**: it can move, or the probe holds the mutex and can. -/
theorem Leaving.progress (h : Leaving s) (hpc : s.sender ≠ .exited) :
    (∀ ret, (s.next (.sender ret)).isSome) ∨ s.mtx = some .probe ∧ (s.next .probe).isSome := by
  have hprobe : s.mtx = some .probe → (s.next .probe).isSome := by
    intro hmtx
    have hcritical := h.inv.probe_holds.mp hmtx
    cases hprobe : s.probe with
    | running | locking =>
      rw [hprobe] at hcritical
      cases hcritical
    | pushing | notifying | unlocking => simp [next, probeStep, hprobe]
  by_cases houtside : s.sender.critical = true
  · -- inside its critical section nothing blocks the sender
    left
    intro ret
    cases hsender : s.sender with
    | testing =>
      simp only [next, senderStep, hsender]
      split <;> rfl
    | front =>
      obtain ⟨o, rest, hobj⟩ := List.exists_cons_of_ne_nil (h.inv.front hsender)
      simp [next, senderStep, hsender, hobj]
    | publishing | popping | releasing | unlocking => simp [next, senderStep, hsender]
    | loopHead | locking | waiting | woken | exited =>
      rw [hsender] at houtside
      cases houtside
  · by_cases hmtx : s.mtx = some .probe
    · exact .inr ⟨hmtx, hprobe hmtx⟩
    · -- outside it waits for the mutex at most, and nobody holds that
      left
      intro ret
      have hfree : s.mtx = none := by
        have hsender : s.mtx ≠ some .sender := fun hm => houtside (h.inv.sender_holds.mp hm)
        cases hm : s.mtx with
        | none => rfl
        | some holder => cases holder <;> simp_all
      cases hsender : s.sender with
      | loopHead => simp [next, senderStep, hsender]
      | locking | woken => simp [next, senderStep, hsender, hfree]
      | waiting => exact absurd hsender h.awake
      | exited => exact absurd hsender hpc
      | testing | front | publishing | popping | releasing | unlocking =>
        rw [hsender] at houtside
        exact absurd rfl houtside

end Broker

/-! ## With the test and the wait apart -/

namespace Monitored

/-- `main` waits for a sender that waits for a wake-up nobody owes it. -/
def Stuck (s : Monitored) : Prop := s.threads.main = .joining ∧ s.threads.sender = .waiting

/-- `main` does not notify a sender that is past a test of empty queues, and a sender that tests
after the notification finds an element. -/
def WakesUp (s : Monitored) (l : BrokerLabel) : Prop :=
  (l = .main → s.threads.main = .notifying → s.found_empty = false) ∧ s.threads.TestSucceeds l

instance (s : Monitored) (l : BrokerLabel) : Decidable (s.WakesUp l) :=
  inferInstanceAs (Decidable ((_ → _ → _) ∧ _))

/-- What the shutdown phase keeps. -/
structure Leaving (s : Monitored) : Prop where
  threads : s.threads.Leaving
  found : s.found_empty = false

variable {s s' : Monitored} {l : BrokerLabel}

/-- A step of another thread is the same step of the threads. -/
theorem next_of_not_isSender (hl : l.isSender = false) (hnext : s.next l = some s') :
    s.threads.next l = some s'.threads ∧ s'.found_empty = s.found_empty := by
  have hmap : (s.threads.next l).map (fun threads => ⟨threads, s.found_empty⟩) = some s' := by
    cases l with
    | sender ret => cases hl
    | detect | probe | spurious | main => exact hnext
  obtain ⟨threads, hthreads, rfl⟩ := Option.map_eq_some_iff.mp hmap
  exact ⟨hthreads, rfl⟩

/-- A step of a sender whose test succeeds is the same step of the threads. -/
theorem next_of_testSucceeds {ret : ℤ} (hfound : s.found_empty = false)
    (hobj : s.threads.sender = .testing → s.threads.obj_list ≠ [])
    (hnext : s.next (.sender ret) = some s') :
    s.threads.next (.sender ret) = some s'.threads ∧ s'.found_empty = false := by
  rw [Monitored.next, if_neg (by rw [hfound]; exact Bool.false_ne_true), if_neg] at hnext
  · obtain ⟨threads, hthreads, rfl⟩ := Option.map_eq_some_iff.mp hnext
    exact ⟨hthreads, rfl⟩
  · rintro ⟨hpc, hempty⟩
    simp only [Bool.and_eq_true, List.isEmpty_iff] at hempty
    exact hobj hpc hempty.1

/-- In the shutdown phase every step is one of the threads. -/
theorem Leaving.threads_next (h : Leaving s) (hok : s.WakesUp l) (hnext : s.next l = some s') :
    s.threads.next l = some s'.threads ∧ s'.found_empty = false := by
  cases l with
  | sender ret =>
    exact next_of_testSucceeds h.found (hok.2 rfl h.threads.notified) hnext
  | detect | probe | spurious | main =>
    obtain ⟨hthreads, hfound⟩ := next_of_not_isSender rfl hnext
    exact ⟨hthreads, hfound.trans h.found⟩

theorem Leaving.next (h : Leaving s) (hok : s.WakesUp l) (hnext : s.next l = some s') :
    Leaving s' := by
  obtain ⟨hthreads, hfound⟩ := h.threads_next hok hnext
  exact ⟨h.threads.moves hok.2 (Broker.moves_of_next hthreads), hfound⟩

/-- The sender is never blocked for good. -/
theorem Leaving.progress (h : Leaving s) (hpc : s.threads.sender ≠ .exited) :
    (∀ ret, (s.next (.sender ret)).isSome) ∨
      s.threads.mtx = some .probe ∧ (s.next .probe).isSome := by
  refine (h.threads.progress hpc).imp (fun hsender ret => ?_) fun ⟨hmtx, hprobe⟩ => ⟨hmtx, ?_⟩
  · rw [Monitored.next, if_neg (by rw [h.found]; exact Bool.false_ne_true)]
    split
    · rfl
    · rw [Option.isSome_map]
      exact hsender ret
  · show ((s.threads.next .probe).map _).isSome = true
    rw [Option.isSome_map]
    exact hprobe

/-- What a run in which every wake-up arrives keeps. -/
structure Awake (queue : List ObjInfo) (s : Monitored) : Prop where
  refines : Refines queue s
  awake : s.threads.Notified → s.threads.sender ≠ .waiting ∧ s.found_empty = false

/-- The sender does not move `main`. -/
theorem main_of_sender_next {ret : ℤ} (hnext : s.next (.sender ret) = some s') :
    s'.threads.main = s.threads.main := by
  rw [Monitored.next] at hnext
  split at hnext
  · cases hnext
    rfl
  · split at hnext
    · cases hnext
      rfl
    · obtain ⟨threads, hthreads, rfl⟩ := Option.map_eq_some_iff.mp hnext
      cases Broker.moves_of_next hthreads <;> rfl

theorem Awake.next {queue : List ObjInfo} (h : Awake queue s) (hok : s.WakesUp l)
    (hnext : s.next l = some s') : Awake queue s' where
  refines := h.refines.next hnext
  awake := by
    intro hnotified
    cases l with
    | sender ret =>
      have hbefore : s.threads.Notified := by
        rwa [Broker.Notified, main_of_sender_next hnext] at hnotified
      obtain ⟨hwaiting, hfound⟩ := h.awake hbefore
      obtain ⟨hthreads, hfound'⟩ := next_of_testSucceeds hfound (hok.2 rfl hbefore) hnext
      exact ⟨Broker.awake_moves (fun _ => hwaiting) hok.2 (Broker.moves_of_next hthreads)
        hnotified, hfound'⟩
    | detect | probe | spurious | main =>
      obtain ⟨hthreads, hfound⟩ := next_of_not_isSender rfl hnext
      have hmoves := Broker.moves_of_next hthreads
      refine ⟨Broker.awake_moves (fun hn => (h.awake hn).1) hok.2 hmoves hnotified,
        hfound.trans ?_⟩
      rcases Broker.notified_before hmoves hnotified with hbefore | ⟨hl, hmain⟩
      · exact (h.awake hbefore).2
      · exact hok.1 hl hmain

/-- From the notification on, a run in which every wake-up arrives is in the shutdown phase. -/
theorem Leaving.of_reachable {queue : List ObjInfo}
    (h : ReachableBy Monitored.next WakesUp (Monitored.init queue) s)
    (hnotified : s.threads.Notified) : Leaving s := by
  have hrun : Awake queue s := h.invariant (P := Awake queue)
    ⟨⟨.refl, nofun⟩, fun _ => ⟨nofun, rfl⟩⟩
    fun _ _ _ hs hok hnext => hs.next hok hnext
  have hthreads := hrun.refines.reachable
  obtain ⟨hwaiting, hfound⟩ := hrun.awake hnotified
  exact ⟨⟨.of_reachable hthreads, hnotified, hwaiting, Broker.tries_le_of_reachable hthreads⟩,
    hfound⟩

end Monitored

/-- **The sender leaves its loop in every run whose wake-up arrives.** In every state of a run in
which `main` does not notify a sender that has found the queues empty and has not yet called
`cv.wait`, and in which the sender, from the notification on, never finds them empty: `main` and the
sender do not wait for each other; while `main` is joining, the sender has returned, or can move, or
waits for a probe that holds the mutex and can move; and it takes at most 12 more steps of its own,
whatever the others do. -/
theorem sender_leaves {queue : List ObjInfo} {s : Monitored}
    (h : ReachableBy Monitored.next Monitored.WakesUp (Monitored.init queue) s) :
    ¬ s.Stuck ∧
      (s.threads.main = .joining → s.threads.sender ≠ .exited →
        (∀ ret, (s.next (.sender ret)).isSome) ∨
          s.threads.mtx = some .probe ∧ (s.next .probe).isSome) ∧
      (s.threads.main = .joining → ∀ ls s',
        exec (guarded Monitored.next Monitored.WakesUp) s ls = some s' →
          ls.countP BrokerLabel.isSender ≤ 12) := by
  refine ⟨?_, ?_, ?_⟩
  · rintro ⟨hmain, hwaiting⟩
    exact (Monitored.Leaving.of_reachable h (.inl hmain)).threads.awake hwaiting
  · intro hmain hpc
    exact (Monitored.Leaving.of_reachable h (.inl hmain)).progress hpc
  · intro hmain ls s' hexec
    have hleaving := Monitored.Leaving.of_reachable h (.inl hmain)
    have hcount := exec_countP_le (P := Monitored.Leaving) (m := fun s => s.threads.sender.rank)
      (k := BrokerLabel.isSender) (fun _ _ _ ht hok hnext => ht.next hok hnext)
      (fun _ _ _ ht hok hnext => ht.threads.rank_moves hok.2
        (Broker.moves_of_next (ht.threads_next hok hnext).1)) hleaving hexec
    -- the steps taken and the rank left together stay below the rank at the start
    have hrank := SenderPc.rank_le hleaving.threads.awake hleaving.threads.tries_le
    omega

/-- A clean shutdown: one detection is queued when `main` clears the flag while the sender is about
to take the mutex. -/
theorem sender_leaves_nonempty :
    ∃ s : Monitored, ReachableBy Monitored.next Monitored.WakesUp
        (Monitored.init [.sample 1 []]) s ∧
      s.threads.main = .joining ∧ s.threads.sender = .testing ∧ ¬ s.Stuck := by
  have hexec : exec (guarded Monitored.next Monitored.WakesUp) (Monitored.init [.sample 1 []])
      [.sender 0, .main, .main, .sender 0]
      = some ⟨⟨[.sample 1 []], [], false, some .sender, .running, .testing, .joining,
          [.sample 1 []], []⟩, false⟩ := by
    decide +kernel
  have hreach := reachableBy_of_exec_guarded hexec
  exact ⟨_, hreach, rfl, rfl, (sender_leaves hreach).1⟩

/-! ## Both conditions are needed -/

/-- A sender that, after the notification, is about to test empty queues is stuck after its next two
steps. -/
theorem stuck_of_empty_test {queue : List ObjInfo} {s : Monitored}
    (h : Reachable Monitored.next (Monitored.init queue) s) (hmain : s.threads.main = .joining)
    (hpc : s.threads.sender = .testing) (hobj : s.threads.obj_list = [])
    (hfound : s.found_empty = false) :
    ∃ s', exec Monitored.next s [.sender 0, .sender 0] = some s' ∧ s'.Stuck := by
  have hframes := (Broker.Inv.of_reachable (Monitored.reachable_threads h).reachable).frames
  refine ⟨⟨{ s.threads with mtx := none, sender := .waiting }, false⟩, ?_, hmain, rfl⟩
  simp [exec, Monitored.next, hfound, hpc, hobj, hframes]

/-- If `main` notifies a sender that has found the queues empty and has not yet called `cv.wait`,
the sender is stuck after its next step. -/
theorem stuck_of_early_notification {s : Monitored} (hmain : s.threads.main = .notifying)
    (hfound : s.found_empty = true) :
    ∃ s', exec Monitored.next s [.main, .sender 0] = some s' ∧ s'.Stuck := by
  refine ⟨⟨{ s.threads with mtx := none, sender := .waiting, main := .joining }, false⟩, ?_, rfl,
    rfl⟩
  simp [exec, Monitored.next, Broker.next, Broker.mainStep, hmain, hfound]

/-- **The shutdown can hang.** The queue is empty and the sender asleep when `main` clears the flag
and notifies; woken, the sender finds the queue empty and goes back to sleep, and `main` joins it.
-/
theorem shutdown_can_hang :
    ¬ ∀ (queue : List ObjInfo) (s : Monitored),
      Reachable Monitored.next (Monitored.init queue) s → ¬ s.Stuck := by
  intro hnever
  -- the sender reaches `cv.wait` before `main` moves, and tests once more after the notification
  have hexec : exec Monitored.next (Monitored.init [])
      [.sender 0, .sender 0, .sender 0, .sender 0, .main, .main, .sender 0, .sender 0, .sender 0]
      = some ⟨⟨[], [], false, none, .running, .waiting, .joining, [], []⟩, false⟩ := by
    decide +kernel
  exact hnever [] _ (reachable_of_exec hexec) ⟨rfl, rfl⟩

end DemoColombia.Perception
