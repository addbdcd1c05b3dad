import DemoColombia.Chain.System
import DemoColombia.Perception.WakeUp

/-! # Everything comes through

While `main` has not cleared the flag and the environment is kind (every publish call succeeds, no
message is lost, no spurious wake-up), every order of the steps leads to the same end: each step of
the probe, the sender, the connection and the callback thread costs a part of a finite budget
(`System.cost`), the checker's cost nothing, and where none of the former is possible everything has
come through (`undisturbed_runs_complete`). -/

namespace DemoColombia.Chain

open Backend Perception

variable {Text : Type*}

/-! ## The budget -/

/-- The steps left of a call of `on_message`, at most. -/
def callbackCost {PersonId : Type*} : CallbackPc PersonId → ℕ
  | .idle => 0
  | .returning _ => 1
  | .markInside _ => 2
  | .alert _ => 3
  | .test _ => 4
  | .touch _ => 5
  | .register _ => 5
  | .lookup _ => 6

/-- What the sender may still spend before it sleeps, apart from the elements of the queue: a
publish call pays for the handling of its message. -/
def senderCost : SenderPc → ℕ
  | .exited => 0
  | .popping _ => 1
  | .publishing _ _ => 9
  | .front => 10
  | .waiting => 10
  | .testing => 11
  | .locking => 12
  | .woken => 12
  | .loopHead => 13
  | .unlocking => 14
  | .releasing => 15

/-- What the probe may still spend: a push pays for the turn of the sender, a notification for its
waking up. -/
def probeCost : ProbePc → ℕ
  | .running => 0
  | .unlocking => 1
  | .notifying => 4
  | .pushing _ => 20
  | .locking _ => 21

/-- The budget of the perception process. -/
def brokerCost (s : Broker) : ℕ := senderCost s.sender + 15 * s.obj_list.length + probeCost s.probe

/-- The budget of the whole system. -/
def System.cost (s : System Text) : ℕ :=
  callbackCost s.backend.callback + 7 * s.in_flight.length + brokerCost s.perception
    + 22 * s.upcoming.length

/-- The steps that bring something closer to the backend. -/
def SystemLabel.advances : SystemLabel → Bool
  | .detect => true
  | .perception (.detect _) => false
  | .perception .probe => true
  | .perception (.sender ret) => ret = MOSQ_ERR_SUCCESS
  | .perception .spurious => false
  | .perception .main => false
  | .lose _ => false
  | .deliver => true
  | .callback _ => true
  | .checker _ => false

/-- The steps of the checker. -/
def SystemLabel.sweeps : SystemLabel → Bool
  | .checker _ => true
  | _ => false

/-- The steps that bring something closer, and the checker's. -/
def Undisturbed (_ : System Text) (l : SystemLabel) : Prop := l.advances = true ∨ l.sweeps = true

instance (s : System Text) (l : SystemLabel) : Decidable (Undisturbed s l) :=
  inferInstanceAs (Decidable (_ ∨ _))

/-! ## Every step costs -/

/-- Waking the sender costs two. -/
theorem senderCost_notified_le (pc : SenderPc) : senderCost pc.notified ≤ senderCost pc + 2 := by
  cases pc <;> simp [SenderPc.notified, senderCost]

/-- A notification costs the same in the whole perception process. -/
theorem brokerCost_notified_lt {s : Broker} (hpc : s.probe = .notifying) :
    brokerCost { s with sender := s.sender.notified, probe := .unlocking } < brokerCost s := by
  have hnotified := senderCost_notified_le s.sender
  simp only [brokerCost, hpc, probeCost]
  omega

/-- **A step of the perception process pays for what it puts in flight.** -/
theorem brokerCost_moves (layer : TextLayer Text) {s s' : Broker} {l : BrokerLabel}
    (hinv : Broker.Inv s) (hl : (SystemLabel.perception l).advances = true)
    (hmoves : Broker.Moves s l s') :
    brokerCost s' + 7 * (publishes layer s l).length < brokerCost s := by
  cases hmoves with
  | detect | spurious | clearFlag | notifyMain | join => cases hl
  -- the probe
  | lockProbe hpc | unlockProbe hpc => simp [brokerCost, publishes, hpc, probeCost]
  | push hpc =>
    simp only [brokerCost, publishes, hpc, probeCost, List.length_append, List.length_cons,
      List.length_nil]
    omega
  | notifyProbe hpc => exact brokerCost_notified_lt hpc
  -- the sender
  | publish hpc =>
    -- a success, so one message is put in flight and the front will be popped
    have hret : _ = MOSQ_ERR_SUCCESS := of_decide_eq_true hl
    subst hret
    simp only [brokerCost, publishes, hpc, Broker.afterPublish_success, senderCost, if_true,
      List.length_cons, List.length_nil]
    omega
  | @pop ret o hpc =>
    -- the element popped is there, and its weight pays for the way back to the test
    obtain ⟨rest, hrest⟩ := List.head?_eq_some_iff.mp (hinv.in_hand o (by rw [hpc]; rfl))
    simp only [brokerCost, publishes, hpc, hrest, senderCost, List.tail_cons, List.length_cons,
      List.length_nil]
    omega
  | lockSender hpc => rcases hpc with hpc | hpc <;> simp [brokerCost, publishes, hpc, senderCost]
  | noFront hpc hobj => exact absurd hobj (hinv.front hpc)
  | enter hpc | exit hpc | wait hpc | ready hpc | takeFront hpc | release hpc | unlockSender hpc =>
    simp [brokerCost, publishes, hpc, senderCost]

/-- **A step of the callback thread costs one at least.** -/
theorem callbackCost_moves {PersonId : Type*} [DecidableEq PersonId] {s s' : Threads PersonId}
    {clock : ℚ} (hmoves : Threads.Moves s (.callback clock) s') :
    callbackCost s'.callback < callbackCost s.callback := by
  cases hmoves with
  | absent hpc | present hpc | register hpc | touch hpc | seenInside hpc | seenOutside hpc
  | entrada hpc | markInside hpc | returns hpc => simp [callbackCost, hpc]

/-- A step of the checker leaves the callback thread where it is. -/
theorem callback_of_checker {PersonId : Type*} [DecidableEq PersonId] {s s' : Threads PersonId}
    {clock : ℚ} (hmoves : Threads.Moves s (.checker clock) s') : s'.callback = s.callback := by
  cases hmoves <;> rfl

namespace System

variable {layer : TextLayer Text} {entries : List Entry} {s s' : System Text}

/-- A message handed over costs one at least, be it understood or not. -/
theorem cost_deliver (hnext : deliver layer s = some s') : s'.cost < s.cost := by
  unfold System.deliver at hnext
  split at hnext
  · cases hnext
  · rename_i message rest hin_flight
    split at hnext
    · obtain ⟨backend, hbackend, rfl⟩ := Option.map_eq_some_iff.mp hnext
      cases Threads.moves_of_next hbackend with
      | message hpc =>
        simp only [cost, hin_flight, hpc, callbackCost, List.length_cons]
        omega
    · split at hnext <;> cases hnext
      simp only [cost, hin_flight, List.length_cons]
      omega

/-- **An undisturbed step**: it costs, or it is the checker's and leaves the budget. -/
theorem cost_next {l : SystemLabel} (h : Inv layer entries s) (hl : Undisturbed s l)
    (hnext : s.next layer l = some s') :
    if l.advances then s'.cost < s.cost else s'.cost ≤ s.cost := by
  cases l with
  | detect =>
    rw [System.next] at hnext
    split at hnext
    · cases hnext
    · rename_i entry rest hupcoming
      obtain ⟨perception, hperception, rfl⟩ := Option.map_eq_some_iff.mp hnext
      cases Broker.moves_of_next hperception with
      | detect hpc =>
        simp only [SystemLabel.advances, if_true, cost, brokerCost, hupcoming, hpc, probeCost,
          List.length_cons]
        omega
  | perception l =>
    have hadvances : (SystemLabel.perception l).advances = true :=
      hl.resolve_right Bool.false_ne_true
    rw [if_pos hadvances]
    cases l with
    | detect o => cases hadvances
    | _ =>
      obtain ⟨perception, hperception, rfl⟩ := Option.map_eq_some_iff.mp hnext
      have hpaid := brokerCost_moves layer (Broker.Inv.of_reachable h.perception) hadvances
        (Broker.moves_of_next hperception)
      simp only [cost, List.length_append]
      omega
  | lose i => rcases hl with hl | hl <;> cases hl
  | deliver =>
    rw [System.next] at hnext
    split at hnext
    · cases hnext
    · exact cost_deliver hnext
  | callback clock =>
    rw [System.next] at hnext
    split at hnext
    · cases hnext
    · obtain ⟨backend, hbackend, rfl⟩ := Option.map_eq_some_iff.mp hnext
      have hpaid := callbackCost_moves (Threads.moves_of_next hbackend)
      simp only [SystemLabel.advances, if_true, cost]
      omega
  | checker clock =>
    rw [System.next] at hnext
    split at hnext
    · cases hnext
    · obtain ⟨backend, hbackend, rfl⟩ := Option.map_eq_some_iff.mp hnext
      simp only [SystemLabel.advances, cost, callback_of_checker (Threads.moves_of_next hbackend)]
      exact le_rfl

/-! ## No step left -/

/-- A call of `on_message` can always go on. -/
theorem callback_next_isSome {delivered : List PersonKey} {b : Threads PersonKey}
    (h : b.Handled delivered) (hpc : b.callback ≠ .idle) :
    (b.next (.callback 0)).isSome := by
  cases hcallback : b.callback with
  | idle => exact absurd hcallback hpc
  | lookup p =>
    simp only [Threads.next, Threads.callbackStep, hcallback]
    split <;> rfl
  | test p =>
    -- the record it reads is there
    obtain ⟨state, hget⟩ := Option.isSome_iff_exists.mp (h.found p (by rw [hcallback]; rfl))
    simp [Threads.next, Threads.callbackStep, hcallback, hget]
  | register | touch | alert | markInside | returning =>
    simp [Threads.next, Threads.callbackStep, hcallback]

/-- Inside its critical section nothing blocks the sender. -/
theorem sender_next_isSome_of_critical {s : Broker} (hinv : Broker.Inv s)
    (hcritical : s.sender.critical = true) (ret : ℤ) : (s.next (.sender ret)).isSome := by
  cases hsender : s.sender with
  | testing =>
    simp only [Broker.next, Broker.senderStep, hsender]
    split <;> rfl
  | front =>
    obtain ⟨o, rest, hobj⟩ := List.exists_cons_of_ne_nil (hinv.front hsender)
    simp [Broker.next, Broker.senderStep, hsender, hobj]
  | publishing | popping | releasing | unlocking =>
    simp [Broker.next, Broker.senderStep, hsender]
  | loopHead | locking | waiting | woken | exited =>
    rw [hsender] at hcritical
    cases hcritical

/-- The probe can go on unless the sender holds the mutex. -/
theorem probe_next_isSome {s : Broker} (hinv : Broker.Inv s) (hmtx : s.mtx ≠ some .sender)
    (hprobe : s.probe ≠ .running) : (s.next .probe).isSome := by
  cases hpc : s.probe with
  | running => exact absurd hpc hprobe
  | locking o =>
    have hfree : s.mtx = none := by
      have hmtx' : s.mtx ≠ some .probe := fun hm => by
        have hcritical := hinv.probe_holds.mp hm
        rw [hpc] at hcritical
        cases hcritical
      cases hm : s.mtx with
      | none => rfl
      | some holder => cases holder <;> simp_all
    simp [Broker.next, Broker.probeStep, hpc, hfree]
  | pushing | notifying | unlocking => simp [Broker.next, Broker.probeStep, hpc]

/-- While `main` runs the sender does not return. -/
def Running (s : Broker) : Prop := s.main = .running ∧ s.sender ≠ .exited

/-- Only `main` ends this. -/
theorem Running.moves {s s' : Broker} {l : BrokerLabel} (h : Running s) (hinv : Broker.Inv s)
    (hl : l ≠ .main) (hmoves : Broker.Moves s l s') : Running s' := by
  obtain ⟨hmain, hsender⟩ := h
  cases hmoves with
  | clearFlag | notifyMain | join => exact absurd rfl hl
  | exit hpc hflag =>
    rw [hinv.flag.mpr hmain] at hflag
    cases hflag
  | notifyProbe => exact ⟨hmain, fun h => hsender (SenderPc.eq_of_notified_eq h nofun)⟩
  | publish hpc =>
    refine ⟨hmain, ?_⟩
    show Broker.afterPublish _ _ ≠ SenderPc.exited
    unfold Broker.afterPublish
    split
    · nofun
    · split <;> nofun
  | detect | lockProbe | push | unlockProbe => exact ⟨hmain, hsender⟩
  | enter | lockSender | wait | ready | takeFront | noFront | pop | release | unlockSender
  | spurious => exact ⟨hmain, nofun⟩

/-- Only `main` moves `main`. -/
theorem main_of_moves {s s' : Broker} {l : BrokerLabel} (hl : l ≠ .main)
    (hmoves : Broker.Moves s l s') : s'.main = s.main := by
  cases hmoves with
  | clearFlag | notifyMain | join => exact absurd rfl hl
  | _ => rfl

/-- `main` moves on and never back. -/
theorem main_ne_running {s s' : Broker} (hmoves : Broker.Moves s .main s') :
    s'.main ≠ .running := by
  cases hmoves <;> nofun

theorem Running.of_reachable {queue : List ObjInfo} {s : Broker}
    (h : Reachable Broker.next (Broker.init queue) s) (hmain : s.main = .running) : Running s := by
  refine (h.invariant (P := fun t => Broker.Inv t ∧ (t.main = .running → Running t))
    ⟨Broker.Inv.init queue, fun _ => ⟨rfl, nofun⟩⟩ ?_).2 hmain
  rintro t l t' ⟨hinv, hrunning⟩ - hnext
  have hmoves := Broker.moves_of_next hnext
  refine ⟨hinv.moves hmoves, fun hmain => ?_⟩
  by_cases hl : l = .main
  · subst hl
    exact absurd hmain (main_ne_running hmoves)
  · rw [main_of_moves hl hmoves] at hmain
    exact (hrunning hmain).moves hinv hl hmoves

/-- A sender with no step left sleeps, and the queue is empty. -/
theorem sender_waits {s : Broker} (hinv : Broker.Inv s) (hdue : s.WakeUpDue) (hrunning : Running s)
    (hprobe : s.probe = .running) (hblocked : s.next (.sender MOSQ_ERR_SUCCESS) = none) :
    s.obj_list = [] := by
  have houtside : ¬ s.sender.critical = true := fun hcritical => by
    have hsome := sender_next_isSome_of_critical hinv hcritical MOSQ_ERR_SUCCESS
    rw [hblocked] at hsome
    cases hsome
  have hfree : s.mtx = none := by
    cases hm : s.mtx with
    | none => rfl
    | some holder => cases holder with
      | probe =>
        have hcritical := hinv.probe_holds.mp hm
        rw [hprobe] at hcritical
        cases hcritical
      | sender => exact absurd (hinv.sender_holds.mp hm) houtside
  cases hsender : s.sender with
  | waiting =>
    by_contra hne
    have hnotifying := hdue hsender hne
    rw [hprobe] at hnotifying
    cases hnotifying
  | exited => exact absurd hsender hrunning.2
  | loopHead | locking | woken =>
    simp [Broker.next, Broker.senderStep, hsender, hfree] at hblocked
  | testing | front | publishing | popping | releasing | unlocking =>
    rw [hsender] at houtside
    exact absurd rfl houtside

/-- **Where no step can bring anything closer, everything has come through**, unless `on_message`
has raised. -/
theorem Inv.complete (h : Inv layer entries s)
    (hreadable : ∀ entry ∈ entries, Readable layer entry.obj_info) (hrunning : Running s.perception)
    (hblocked : ∀ l : SystemLabel, l.advances = true → s.next layer l = none) : Complete s := by
  have hbroker := Broker.Inv.of_reachable h.perception
  have hcallback : s.backend.callback = .idle := by
    by_contra hpc
    have hsome := callback_next_isSome h.handled hpc
    have hnone := hblocked (.callback 0) rfl
    rw [System.next, if_neg (h.not_raised hreadable), Option.map_eq_none_iff] at hnone
    rw [hnone] at hsome
    cases hsome
  have hin_flight : s.in_flight = [] := by
    cases hmessages : s.in_flight with
    | nil => rfl
    | cons message rest =>
      have hnone := hblocked .deliver rfl
      rw [System.next, if_neg (h.not_raised hreadable), System.deliver, hmessages] at hnone
      -- the message is understood, and the callback thread is idle
      obtain ⟨entry, hentry, rfl⟩ := h.exists_entry
        (List.mem_append_right _ (by rw [hmessages]; exact List.mem_cons_self))
      simp only [(hreadable entry hentry).person_id, Threads.next, hcallback, if_true] at hnone
      cases hnone
  have hsender : s.perception.next (.sender MOSQ_ERR_SUCCESS) = none := by
    have hnone := hblocked (.perception (.sender MOSQ_ERR_SUCCESS)) rfl
    rwa [System.next, Option.map_eq_none_iff] at hnone
    simp
  have hprobe : s.perception.probe = .running := by
    by_contra hpc
    have hmtx : s.perception.mtx ≠ some .sender := fun hm => by
      have hsome := sender_next_isSome_of_critical hbroker (hbroker.sender_holds.mp hm)
        MOSQ_ERR_SUCCESS
      rw [hsender] at hsome
      cases hsome
    have hsome := probe_next_isSome hbroker hmtx hpc
    have hnone := hblocked (.perception .probe) rfl
    rw [System.next, Option.map_eq_none_iff] at hnone
    · rw [hnone] at hsome
      cases hsome
    · simp
  have hupcoming : s.upcoming = [] := by
    cases hentries : s.upcoming with
    | nil => rfl
    | cons entry rest =>
      have hnone := hblocked .detect rfl
      rw [System.next, hentries] at hnone
      simp [Broker.next, hprobe] at hnone
  exact ⟨hupcoming, hprobe, sender_waits hbroker (Broker.WakeUpDue.of_reachable h.perception)
    hrunning hprobe hsender, hin_flight, hcallback⟩

/-- What an undisturbed run keeps. -/
structure Draining (layer : TextLayer Text) (entries : List Entry) (lost : ℕ) (s : System Text) :
    Prop where
  inv : Inv layer entries s
  running : Running s.perception
  lost : s.lost = lost

/-- A delivery leaves the perception process as it is and loses nothing. -/
theorem perception_deliver (hnext : deliver layer s = some s') :
    s'.perception = s.perception ∧ s'.lost = s.lost := by
  unfold System.deliver at hnext
  split at hnext
  · cases hnext
  · split at hnext
    · obtain ⟨backend, hbackend, rfl⟩ := Option.map_eq_some_iff.mp hnext
      exact ⟨rfl, rfl⟩
    · split at hnext <;> cases hnext
      exact ⟨rfl, rfl⟩

/-- A step of the perception process, unless `main` makes it. -/
theorem running_next {l : SystemLabel} (hinv : Inv layer entries s)
    (hrunning : Running s.perception) (hl : Undisturbed s l) (hnext : s.next layer l = some s') :
    Running s'.perception ∧ s'.lost = s.lost := by
  cases l with
  | detect =>
    rw [System.next] at hnext
    split at hnext
    · cases hnext
    · obtain ⟨perception, hperception, rfl⟩ := Option.map_eq_some_iff.mp hnext
      have hmoves := Broker.moves_of_next hperception
      exact ⟨hrunning.moves (Broker.Inv.of_reachable hinv.perception) (by simp) hmoves, rfl⟩
  | perception l =>
    cases l with
    | detect | spurious | main => rcases hl with hl | hl <;> cases hl
    | probe | sender =>
      obtain ⟨perception, hperception, rfl⟩ := Option.map_eq_some_iff.mp hnext
      have hmoves := Broker.moves_of_next hperception
      exact ⟨hrunning.moves (Broker.Inv.of_reachable hinv.perception) (by simp) hmoves, rfl⟩
  | lose i => rcases hl with hl | hl <;> cases hl
  | deliver =>
    rw [System.next] at hnext
    split at hnext
    · cases hnext
    · obtain ⟨hperception, hlost⟩ := perception_deliver hnext
      exact ⟨hperception ▸ hrunning, hlost⟩
  | callback clock | checker clock =>
    rw [System.next] at hnext
    split at hnext
    · cases hnext
    · obtain ⟨backend, hbackend, rfl⟩ := Option.map_eq_some_iff.mp hnext
      exact ⟨hrunning, rfl⟩

theorem Draining.next {lost : ℕ} {l : SystemLabel} (h : Draining layer entries lost s)
    (hl : Undisturbed s l) (hnext : s.next layer l = some s') : Draining layer entries lost s' := by
  obtain ⟨hrunning, hlost⟩ := running_next h.inv h.running hl hnext
  exact ⟨h.inv.next hnext, hrunning, hlost.trans h.lost⟩

theorem Draining.of_reachable (h : Reachable (System.next layer) (System.init entries) s)
    (hmain : s.perception.main = .running) : Draining layer entries s.lost s := by
  have hinv := Inv.of_reachable h
  exact ⟨hinv, Running.of_reachable hinv.perception hmain, rfl⟩

/-- The budget is linear in what is still on its way. -/
theorem cost_le (s : System Text) :
    s.cost ≤ 22 * s.upcoming.length + 15 * s.perception.obj_list.length + 7 * s.in_flight.length
      + 42 := by
  have hcallback : callbackCost s.backend.callback ≤ 6 := by
    cases s.backend.callback <;> simp [callbackCost]
  have hsender : senderCost s.perception.sender ≤ 15 := by
    cases s.perception.sender <;> simp [senderCost]
  have hprobe : probeCost s.perception.probe ≤ 21 := by
    cases s.perception.probe <;> simp [probeCost]
  simp only [cost, brokerCost]
  omega

end System

variable {layer : TextLayer Text} {calls : List ProbeCall} {s : System Text}

/-- **Undisturbed runs complete.** From every reachable state in which `main` has not cleared the
flag, in every run without losses, spurious wake-ups, failing publish calls and a step of `main`,
whatever the order of its steps and however often the checker sweeps: the steps other than the
checker's are at most a number linear in what is on its way. And if all messages produced are read
back, then where none of those steps is possible any more, everything has come through, nothing more
was lost, and if nothing was lost before either, there is an entry alert about the person of every
entry produced. -/
theorem undisturbed_runs_complete
    (h : Reachable (System.next layer) (System.init (produced calls)) s)
    (hmain : s.perception.main = .running) :
    (∀ ls s', exec (guarded (System.next layer) Undisturbed) s ls = some s' →
      ls.countP SystemLabel.advances
        ≤ 22 * s.upcoming.length + 15 * s.perception.obj_list.length + 7 * s.in_flight.length
          + 42) ∧
      ((∀ entry ∈ produced calls, Readable layer entry.obj_info) →
        ∀ s', ReachableBy (System.next layer) Undisturbed s s' →
        (∀ l : SystemLabel, l.advances = true → s'.next layer l = none) →
        s'.Complete ∧ s'.lost = s.lost ∧ (s.lost = 0 →
          ∀ entry ∈ produced calls, .entrada (personOf entry) ∈ s'.backend.alerts)) := by
  have hdraining := System.Draining.of_reachable h hmain
  constructor
  · intro ls s' hexec
    have hcount := exec_countP_le (P := System.Draining layer (produced calls) s.lost)
      (k := SystemLabel.advances) (m := System.cost) (fun _ _ _ ht hok hnext => ht.next hok hnext)
      (fun _ _ _ ht hok hnext => System.cost_next ht.inv hok hnext) hdraining hexec
    have hcost := System.cost_le s
    omega
  · intro hreadable s' hrun hblocked
    have hend := hrun.invariant (P := System.Draining layer (produced calls) s.lost) hdraining
      fun _ _ _ ht hok hnext => ht.next hok hnext
    have hcomplete := hend.inv.complete hreadable hend.running hblocked
    refine ⟨hcomplete, hend.lost, fun hlost entry hentry => ?_⟩
    exact hend.inv.entrada_of_complete hcomplete (hend.lost.trans hlost) hentry
      (hreadable entry hentry)

/-- With one of two detections in flight at most `71` steps are left, in any order, and where they
end there is an alert about either. -/
theorem undisturbed_runs_complete_in_flight :
    ∃ s, exec (System.next TextLayer.tree) (System.init (produced twoPersons)) send = some s ∧
      (∀ ls s', exec (guarded (System.next TextLayer.tree) Undisturbed) s ls = some s' →
        ls.countP SystemLabel.advances ≤ 71) ∧
      ∀ s', ReachableBy (System.next TextLayer.tree) Undisturbed s s' →
        (∀ l : SystemLabel, l.advances = true → s'.next TextLayer.tree l = none) →
        .entrada (.number 7) ∈ s'.backend.alerts ∧ .entrada (.number 8) ∈ s'.backend.alerts := by
  obtain ⟨s, hexec, hmain, hupcoming, hobj, hin_flight, hlost⟩ :
      ∃ s, exec (System.next TextLayer.tree) (System.init (produced twoPersons)) send = some s ∧
        s.perception.main = .running ∧ s.upcoming.length = 1 ∧ s.perception.obj_list.length = 0 ∧
        s.in_flight.length = 1 ∧ s.lost = 0 := ⟨_, rfl, rfl, rfl, rfl, rfl, rfl⟩
  have hruns := undisturbed_runs_complete (reachable_of_exec hexec) hmain
  refine ⟨s, hexec, ?_, fun s' hrun hblocked => ?_⟩
  · have hbound := hruns.1
    rwa [hupcoming, hobj, hin_flight] at hbound
  · have halerts := (hruns.2 (fun _ _ => rfl) s' hrun hblocked).2.2 hlost
    exact ⟨halerts (sampleEntry 0 7 ["door"]) (.head _),
      halerts (sampleEntry 0 8 ["door"]) (.tail _ (.head _))⟩

end DemoColombia.Chain
