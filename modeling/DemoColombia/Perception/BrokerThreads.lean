import DemoColombia.Perception.ObjInfo
import DemoColombia.Perception.Publish
import DemoColombia.TransitionSystems.Runs

/-! # Probe, sender and main, step by step

Three threads share `obj_list`, the mutex `mtx`, the condition variable `cv` and the plain flag
`app_is_running`: the probe pushes under the mutex and notifies, `send2MQTTBrokerTask` waits for a
nonempty queue, publishes the front and pops it, and `main`, once its loop has returned, clears the
flag, notifies and joins the sender. `frame_list` is part of the sender's test; nothing pushes on
it.

The condition variable may wake the sender at any time, and a notification reaches only a sender
that is waiting. A label says who moves; where the sender publishes, the label carries the return
code. -/

namespace DemoColombia.Perception

/-- Who holds `mtx`. -/
inductive Holder
  | probe
  | sender
  deriving DecidableEq

/-- Where the probe thread stands in pushing an object. -/
inductive ProbePc
  /-- Elsewhere in the probe. -/
  | running
  /-- About to take the mutex. -/
  | locking (obj_info : ObjInfo)
  /-- Holds the mutex: about to push. -/
  | pushing (obj_info : ObjInfo)
  /-- About to call `cv.notify_all`. -/
  | notifying
  /-- About to release the mutex. -/
  | unlocking
  deriving DecidableEq

/-- Where the sender thread stands in `send2MQTTBrokerTask`. -/
inductive SenderPc
  /-- About to read `app_is_running`. -/
  | loopHead
  /-- About to take the mutex. -/
  | locking
  /-- Holds the mutex: about to test whether both queues are empty. -/
  | testing
  /-- In `cv.wait`: the mutex is released and no wake-up is pending. -/
  | waiting
  /-- Woken: about to take the mutex again. -/
  | woken
  /-- A queue is not empty: about to take the front of `obj_list`, if there is one. -/
  | front
  /-- In the retry loop for the front, about to publish. -/
  | publishing (obj_info : ObjInfo) (retry : Retry)
  /-- The front was accepted: about to pop it. -/
  | popping (obj_info : ObjInfo)
  /-- About to release the payload. -/
  | releasing
  /-- At the end of the iteration: about to release the mutex. -/
  | unlocking
  /-- Returned. -/
  | exited
  deriving DecidableEq

/-- Where the main thread stands. -/
inductive MainPc
  /-- In `g_main_loop_run`. -/
  | running
  /-- The flag is cleared: about to call `cv.notify_all`. -/
  | notifying
  /-- In `broker_th.join()`. -/
  | joining
  | joined
  deriving DecidableEq

/-- The three threads and what they share. -/
structure Broker where
  obj_list : List ObjInfo
  frame_list : List FrameInfo
  app_is_running : Bool
  mtx : Option Holder
  probe : ProbePc
  sender : SenderPc
  main : MainPc
  /-- Every element that was ever in `obj_list`, in push order. -/
  pushed : List ObjInfo
  /-- The elements whose payload was accepted, in order. -/
  accepted : List ObjInfo
  deriving DecidableEq

/-- Who moves. -/
inductive BrokerLabel
  /-- The probe has built an object to push. -/
  | detect (obj_info : ObjInfo)
  | probe
  /-- The sender; `ret` is the return code if it publishes. -/
  | sender (ret : ℤ)
  /-- The condition variable wakes the sender without a notification. -/
  | spurious
  | main
  deriving DecidableEq

/-- `cv.notify_all`, as the sender feels it. -/
def SenderPc.notified : SenderPc → SenderPc
  | .waiting => .woken
  | pc => pc

namespace Broker

/-- The threads before their first step, with a queue. -/
def init (queue : List ObjInfo) : Broker where
  obj_list := queue
  frame_list := []
  app_is_running := true
  mtx := none
  probe := .running
  sender := .loopHead
  main := .running
  pushed := queue
  accepted := []

/-- The next step of the probe. -/
def probeStep (s : Broker) : Option Broker :=
  match s.probe with
  | .running => none
  | .locking obj_info =>
    if s.mtx = none then some { s with mtx := some .probe, probe := .pushing obj_info } else none
  | .pushing obj_info =>
    some { s with
      obj_list := s.obj_list ++ [obj_info], pushed := s.pushed ++ [obj_info], probe := .notifying }
  -- `notify_all` is called with the mutex held: the sender wakes up and waits for it
  | .notifying => some { s with sender := s.sender.notified, probe := .unlocking }
  | .unlocking => some { s with mtx := none, probe := .running }

/-- Where the sender goes after a publish call of `send_mqtt_message`. -/
def afterPublish (obj_info : ObjInfo) (retry : Retry) : SenderPc :=
  if 0 < retry.tries then .publishing obj_info retry
  else if retry.sentOK then .popping obj_info else .unlocking

/-- The next step of the sender. -/
def senderStep (s : Broker) (ret : ℤ) : Option Broker :=
  match s.sender with
  | .loopHead => some { s with sender := if s.app_is_running then .locking else .exited }
  | .locking =>
    if s.mtx = none then some { s with mtx := some .sender, sender := .testing } else none
  -- the condition of the inner loop; `cv.wait` releases the mutex and goes to sleep in one step.
  -- `main` notifies without the mutex and can do so in between: `Monitored` has the two apart
  | .testing =>
    if s.obj_list.isEmpty && s.frame_list.isEmpty then
      some { s with mtx := none, sender := .waiting }
    else some { s with sender := .front }
  | .waiting => none
  -- `cv.wait` returns with the mutex taken again, to the test of the inner loop
  | .woken => if s.mtx = none then some { s with mtx := some .sender, sender := .testing } else none
  | .front => match s.obj_list with
    | obj_info :: _ => some { s with sender := .publishing obj_info .init }
    -- only `frame_list` was not empty
    | [] => some { s with sender := .unlocking }
  -- a success means that the broker has accepted the payload once
  | .publishing obj_info retry =>
    some { s with
      sender := afterPublish obj_info (retry.next ret)
      accepted := if ret = MOSQ_ERR_SUCCESS then s.accepted ++ [obj_info] else s.accepted }
  | .popping _ => some { s with obj_list := s.obj_list.tail, sender := .releasing }
  | .releasing => some { s with sender := .unlocking }
  | .unlocking => some { s with mtx := none, sender := .loopHead }
  | .exited => none

/-- The next step of the main thread. -/
def mainStep (s : Broker) : Option Broker :=
  match s.main with
  -- the flag is a plain `bool`, written without the mutex
  | .running => some { s with app_is_running := false, main := .notifying }
  | .notifying => some { s with sender := s.sender.notified, main := .joining }
  | .joining => if s.sender = .exited then some { s with main := .joined } else none
  | .joined => none

/-- One step of the three threads. -/
def next (s : Broker) : BrokerLabel → Option Broker
  | .detect obj_info =>
    if s.probe = .running then some { s with probe := .locking obj_info } else none
  | .probe => s.probeStep
  | .sender ret => s.senderStep ret
  | .spurious => if s.sender = .waiting then some { s with sender := .woken } else none
  | .main => s.mainStep

/-- What one step can do. -/
inductive Moves (s : Broker) : BrokerLabel → Broker → Prop
  | detect {o} (hpc : s.probe = .running) : Moves s (.detect o) { s with probe := .locking o }
  | lockProbe {o} (hpc : s.probe = .locking o) (hfree : s.mtx = none) :
      Moves s .probe { s with mtx := some .probe, probe := .pushing o }
  | push {o} (hpc : s.probe = .pushing o) :
      Moves s .probe { s with
        obj_list := s.obj_list ++ [o], pushed := s.pushed ++ [o], probe := .notifying }
  | notifyProbe (hpc : s.probe = .notifying) :
      Moves s .probe { s with sender := s.sender.notified, probe := .unlocking }
  | unlockProbe (hpc : s.probe = .unlocking) :
      Moves s .probe { s with mtx := none, probe := .running }
  | enter {ret} (hpc : s.sender = .loopHead) (hflag : s.app_is_running = true) :
      Moves s (.sender ret) { s with sender := .locking }
  | exit {ret} (hpc : s.sender = .loopHead) (hflag : s.app_is_running = false) :
      Moves s (.sender ret) { s with sender := .exited }
  | lockSender {ret} (hpc : s.sender = .locking ∨ s.sender = .woken) (hfree : s.mtx = none) :
      Moves s (.sender ret) { s with mtx := some .sender, sender := .testing }
  | wait {ret} (hpc : s.sender = .testing) (hobj : s.obj_list = []) (hframe : s.frame_list = []) :
      Moves s (.sender ret) { s with mtx := none, sender := .waiting }
  | ready {ret} (hpc : s.sender = .testing) (hne : s.obj_list ≠ [] ∨ s.frame_list ≠ []) :
      Moves s (.sender ret) { s with sender := .front }
  | takeFront {ret o rest} (hpc : s.sender = .front) (hobj : s.obj_list = o :: rest) :
      Moves s (.sender ret) { s with sender := .publishing o .init }
  | noFront {ret} (hpc : s.sender = .front) (hobj : s.obj_list = []) :
      Moves s (.sender ret) { s with sender := .unlocking }
  | publish {ret o retry} (hpc : s.sender = .publishing o retry) :
      Moves s (.sender ret) { s with
        sender := afterPublish o (retry.next ret)
        accepted := if ret = MOSQ_ERR_SUCCESS then s.accepted ++ [o] else s.accepted }
  | pop {ret o} (hpc : s.sender = .popping o) :
      Moves s (.sender ret) { s with obj_list := s.obj_list.tail, sender := .releasing }
  | release {ret} (hpc : s.sender = .releasing) :
      Moves s (.sender ret) { s with sender := .unlocking }
  | unlockSender {ret} (hpc : s.sender = .unlocking) :
      Moves s (.sender ret) { s with mtx := none, sender := .loopHead }
  | spurious (hpc : s.sender = .waiting) : Moves s .spurious { s with sender := .woken }
  | clearFlag (hpc : s.main = .running) :
      Moves s .main { s with app_is_running := false, main := .notifying }
  | notifyMain (hpc : s.main = .notifying) :
      Moves s .main { s with sender := s.sender.notified, main := .joining }
  | join (hpc : s.main = .joining) (hexited : s.sender = .exited) :
      Moves s .main { s with main := .joined }

theorem moves_of_probeStep {s s' : Broker} (h : s.probeStep = some s') : Moves s .probe s' := by
  unfold probeStep at h
  split at h
  · cases h
  · split at h <;> cases h
    exact .lockProbe ‹_› ‹_›
  · cases h; exact .push ‹_›
  · cases h; exact .notifyProbe ‹_›
  · cases h; exact .unlockProbe ‹_›

theorem moves_of_senderStep {s s' : Broker} {ret : ℤ} (h : s.senderStep ret = some s') :
    Moves s (.sender ret) s' := by
  unfold senderStep at h
  -- one goal for each place of the sender, in the order of the definition
  split at h
  · cases h
    by_cases hflag : s.app_is_running = true
    · rw [if_pos hflag]
      exact .enter ‹_› hflag
    · rw [if_neg hflag]
      exact .exit ‹_› (by simpa using hflag)
  · split at h <;> cases h
    exact .lockSender (.inl ‹_›) ‹_›
  · split at h <;> cases h
    · rename_i hempty
      simp only [Bool.and_eq_true, List.isEmpty_iff] at hempty
      exact .wait ‹_› hempty.1 hempty.2
    · rename_i hempty
      simp only [Bool.and_eq_true, List.isEmpty_iff, not_and_or] at hempty
      exact .ready ‹_› hempty
  · cases h
  · split at h <;> cases h
    exact .lockSender (.inr ‹_›) ‹_›
  · split at h <;> cases h
    · exact .takeFront ‹_› ‹_›
    · exact .noFront ‹_› ‹_›
  · cases h; exact .publish ‹_›
  · cases h; exact .pop ‹_›
  · cases h; exact .release ‹_›
  · cases h; exact .unlockSender ‹_›
  · cases h

theorem moves_of_mainStep {s s' : Broker} (h : s.mainStep = some s') : Moves s .main s' := by
  unfold mainStep at h
  split at h
  · cases h; exact .clearFlag ‹_›
  · cases h; exact .notifyMain ‹_›
  · split at h <;> cases h
    exact .join ‹_› ‹_›
  · cases h

/-- **Inversion**: a step of the threads is one of the listed moves. -/
theorem moves_of_next {s s' : Broker} {l : BrokerLabel} (h : s.next l = some s') :
    Moves s l s' := by
  cases l with
  | detect o =>
    simp only [next] at h
    split at h <;> cases h
    exact .detect ‹_›
  | probe => exact moves_of_probeStep h
  | sender ret => exact moves_of_senderStep h
  | spurious =>
    simp only [next] at h
    split at h <;> cases h
    exact .spurious ‹_›
  | main => exact moves_of_mainStep h

end Broker

end DemoColombia.Perception
