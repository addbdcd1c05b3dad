import DemoColombia.Perception.Forwarding

/-! # No lost wake-up

A notification reaches only a sender that sleeps. If the sender could be caught between its test of
the queues and its going to sleep, a push there would notify nobody and the element would wait with
it. `Monitored` takes the two as separate steps; it refines the threads of `BrokerThreads`
(`Monitored.reachable_threads`), in which a sleeping sender with a nonempty queue is about to be
notified by a probe that holds the mutex (`WakeUpDue`).

* `no_lost_wake_up` — with the mutex free no sender sleeps on a nonempty queue. -/

namespace DemoColombia.Perception

namespace Broker

/-- A sleeping sender with a nonempty queue is about to be notified. -/
def WakeUpDue (s : Broker) : Prop :=
  s.sender = .waiting → s.obj_list ≠ [] → s.probe = .notifying

variable {s s' : Broker} {l : BrokerLabel}

/-- A step of the sender other than going to sleep owes nothing. -/
theorem WakeUpDue.of_ne (h : s.sender ≠ .waiting) : WakeUpDue s := fun hpc => absurd hpc h

/-- **Every step keeps the wake-up due**: a push is followed by the notification, before the mutex
is released. -/
theorem WakeUpDue.moves (h : WakeUpDue s) (hmoves : Moves s l s') : WakeUpDue s' := by
  -- a probe that is elsewhere owes nothing, so the sender is awake or the queue empty
  have helsewhere : s.probe ≠ .notifying → s.sender = .waiting → s.obj_list = [] := by
    intro hprobe hpc
    by_contra hne
    exact hprobe (h hpc hne)
  cases hmoves with
  | detect hpc | lockProbe hpc hfree | unlockProbe hpc =>
    exact fun hsender hne => absurd (helsewhere (by rw [hpc]; nofun) hsender) hne
  | push hpc => exact fun _ _ => rfl
  | notifyProbe | notifyMain => exact .of_ne s.sender.notified_ne_waiting
  | wait hpc hobj hframe => exact fun _ hne => absurd hobj hne
  | publish hpc => exact .of_ne (afterPublish_ne_waiting _ _)
  | enter | exit | lockSender | ready | takeFront | noFront | pop | release | unlockSender
  | spurious => exact .of_ne nofun
  | clearFlag | join => exact h

theorem WakeUpDue.of_reachable {queue : List ObjInfo} (h : Reachable next (Broker.init queue) s) :
    WakeUpDue s :=
  h.invariant (P := WakeUpDue) (.of_ne nofun) fun _ _ _ hdue _ hnext =>
    hdue.moves (moves_of_next hnext)

end Broker

/-! ## The test and the wait as two steps -/

/-- The threads, with the test of the inner loop and `cv.wait` apart. -/
structure Monitored where
  threads : Broker
  /-- The sender has found both queues empty and has not yet called `cv.wait`. -/
  found_empty : Bool
  deriving DecidableEq

namespace Monitored

/-- Before the first step, with a queue. -/
def init (queue : List ObjInfo) : Monitored := ⟨Broker.init queue, false⟩

/-- One step. -/
def next (s : Monitored) : BrokerLabel → Option Monitored
  | .sender ret =>
    -- `cv.wait` does not test again: it releases the mutex and goes to sleep
    if s.found_empty then some ⟨{ s.threads with mtx := none, sender := .waiting }, false⟩
    else if s.threads.sender = .testing ∧
        (s.threads.obj_list.isEmpty && s.threads.frame_list.isEmpty) then
      some ⟨s.threads, true⟩
    else (s.threads.next (.sender ret)).map fun threads => ⟨threads, false⟩
  | l => (s.threads.next l).map fun threads => ⟨threads, s.found_empty⟩

/-- Between the test and the wait the sender holds the mutex and the queues stay empty. -/
def StillEmpty (s : Broker) : Prop := s.sender = .testing ∧ s.obj_list = [] ∧ s.frame_list = []

/-- **Nobody pushes between the test and the wait.** -/
theorem StillEmpty.moves {s s' : Broker} {l : BrokerLabel} (h : StillEmpty s)
    (hinv : Broker.Inv s) (hl : ∀ ret, l ≠ .sender ret) (hmoves : Broker.Moves s l s') :
    StillEmpty s' := by
  obtain ⟨hpc, hobj, hframe⟩ := h
  cases hmoves with
  | push hprobe =>
    -- a push needs the mutex
    have hsender := hinv.exclusive (by rw [hprobe]; rfl)
    rw [hpc] at hsender
    cases hsender
  | notifyProbe | notifyMain => exact ⟨by rw [hpc]; rfl, hobj, hframe⟩
  | spurious hwaiting =>
    rw [hpc] at hwaiting
    cases hwaiting
  | detect | lockProbe | unlockProbe | clearFlag | join => exact ⟨hpc, hobj, hframe⟩
  | _ => exact absurd rfl (hl _)

/-- The step of the threads that releases the mutex and goes to sleep. -/
theorem next_of_stillEmpty {s : Broker} (h : StillEmpty s) (ret : ℤ) :
    s.next (.sender ret) = some { s with mtx := none, sender := .waiting } := by
  obtain ⟨hpc, hobj, hframe⟩ := h
  simp [Broker.next, Broker.senderStep, hpc, hobj, hframe]

/-- What connects the two levels. -/
structure Refines (queue : List ObjInfo) (s : Monitored) : Prop where
  reachable : Reachable Broker.next (Broker.init queue) s.threads
  still_empty : s.found_empty = true → StillEmpty s.threads

/-- A step of another thread is the same step of the threads. -/
theorem Refines.other {queue : List ObjInfo} {s s' : Monitored} {l : BrokerLabel}
    (h : Refines queue s) (hl : ∀ ret, l ≠ .sender ret)
    (hnext : (s.threads.next l).map (fun threads => ⟨threads, s.found_empty⟩) = some s') :
    Refines queue s' := by
  obtain ⟨threads, hthreads, rfl⟩ := Option.map_eq_some_iff.mp hnext
  exact ⟨h.reachable.step trivial hthreads, fun hfound => (h.still_empty hfound).moves
    (Broker.Inv.of_reachable h.reachable) hl (Broker.moves_of_next hthreads)⟩

theorem Refines.next {queue : List ObjInfo} {s s' : Monitored} {l : BrokerLabel}
    (h : Refines queue s) (hnext : s.next l = some s') : Refines queue s' := by
  cases l with
  | sender ret =>
    rw [Monitored.next] at hnext
    split at hnext
    · -- the wait: both steps of the sender together are one of the threads
      rename_i hfound
      cases hnext
      exact ⟨h.reachable.step trivial (next_of_stillEmpty (h.still_empty hfound) ret), nofun⟩
    · split at hnext
      · -- the test: nothing the threads can see
        rename_i hempty
        cases hnext
        simp only [Bool.and_eq_true, List.isEmpty_iff] at hempty
        exact ⟨h.reachable, fun _ => hempty⟩
      · obtain ⟨threads, hthreads, rfl⟩ := Option.map_eq_some_iff.mp hnext
        exact ⟨h.reachable.step trivial hthreads, nofun⟩
  | detect o => exact h.other (by simp) hnext
  | probe => exact h.other (by simp) hnext
  | spurious => exact h.other (by simp) hnext
  | main => exact h.other (by simp) hnext

/-- **Refinement**: a run with the finer steps is a run of the threads. -/
theorem reachable_threads {queue : List ObjInfo} {s : Monitored}
    (h : Reachable next (init queue) s) : Refines queue s :=
  h.invariant (P := Refines queue) ⟨.refl, nofun⟩ fun _ _ _ hs _ hnext => hs.next hnext

end Monitored

/-- **No lost wake-up.** In every state reached by any interleaving of probe pushes with the
sender's steps (its test and its going to sleep apart), with spurious wake-ups and notifications
that reach only a sleeping sender: if the mutex is free, the sender does not sleep on a nonempty
queue without a wake-up pending. -/
theorem no_lost_wake_up {queue : List ObjInfo} {s : Monitored}
    (h : Reachable Monitored.next (Monitored.init queue) s) :
    ¬ (s.threads.mtx = none ∧ s.threads.sender = .waiting ∧ s.threads.obj_list ≠ []) := by
  rintro ⟨hmtx, hpc, hne⟩
  have hreach := (Monitored.reachable_threads h).reachable
  -- the probe that owes the notification still holds the mutex
  have hprobe := Broker.WakeUpDue.of_reachable hreach hpc hne
  have hholds := (Broker.Inv.of_reachable hreach).probe_holds.mpr (by rw [hprobe]; rfl)
  rw [hmtx] at hholds
  cases hholds

/-- A detection that comes in while the sender is between its test and its wait: the probe gets the
mutex when the sender sleeps, and wakes it. -/
theorem no_lost_wake_up_between :
    ∃ s, Reachable Monitored.next (Monitored.init []) s ∧ s.threads.mtx = none ∧
      s.threads.obj_list = [.sample 1 []] ∧ s.threads.sender ≠ .waiting := by
  have hexec : exec Monitored.next (Monitored.init [])
      [.sender 0, .sender 0, .sender 0, .detect (.sample 1 []), .sender 0, .probe, .probe, .probe,
        .probe]
      = some ⟨⟨[.sample 1 []], [], true, none, .running, .woken, .running, [.sample 1 []], []⟩,
          false⟩ := by
    decide +kernel
  have hreach := reachable_of_exec hexec
  exact ⟨_, hreach, rfl, rfl, fun hpc => no_lost_wake_up hreach ⟨rfl, hpc, by decide⟩⟩

end DemoColombia.Perception
