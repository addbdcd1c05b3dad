import DemoColombia.Perception.ObjInfo
import DemoColombia.Perception.Publish
import Mathlib.Data.Nat.Find
import Mathlib.Logic.Function.Iterate

/-! # The sender, iteration by iteration (`send2MQTTBrokerTask`)

Each turn of the outer loop sends the front of `obj_list` and pops it only when it was accepted. A
message the broker refuses for good is therefore sent again in every later turn: it is neither
dropped nor passed (`Sender.iteration_of_refused`), and everything behind it waits. The queue is
worked off exactly when none of its messages is refused for good (`queue_delivered_iff`). -/

namespace DemoColombia.Perception

variable {Text : Type*}

/-- The sender between two turns of its outer loop. -/
structure Sender where
  /-- The queue, front first. -/
  obj_list : List ObjInfo
  /-- How many elements have been popped: the position of the front among all queued. -/
  popped : ℕ
  /-- What the broker has accepted, in order. -/
  accepted : List ObjInfo
  /-- The payloads `set_mqtt_message` has allocated and `g_free` has not released. -/
  payloads : ℕ
  deriving DecidableEq

namespace Sender

/-- The sender before its first turn, with a queue. -/
def start (obj_list : List ObjInfo) : Sender := ⟨obj_list, 0, [], 0⟩

variable (wire : Wire Text) (topic : String)

/-- One turn of the outer loop, `mosquitto_publish i` being the code of the `i`-th publish call made
in it; on an empty queue the turn waits. -/
def iteration (mosquitto_publish : ℕ → ℤ) (s : Sender) : Sender :=
  match s.obj_list with
  | [] => s
  | obj_info :: rest =>
    -- the pop and the `g_free` are both inside `if (send_mqtt_message(...))`
    let sending := send_mqtt_message mosquitto_publish
      (wire.json_to_string (set_mqtt_message obj_info)) topic
    let accepted := s.accepted ++ List.replicate (acceptances mosquitto_publish sending) obj_info
    if sending.retry.sentOK then ⟨rest, s.popped + 1, accepted, s.payloads⟩
    else ⟨s.obj_list, s.popped, accepted, s.payloads + 1⟩

/-- A turn against a broker with a fixed answer to each queued message, by its position. -/
def turn (answer : ℕ → ℤ) (s : Sender) : Sender := s.iteration wire topic fun _ => answer s.popped

/-- An accepted front is popped and counted once. -/
theorem iteration_of_accepted (mosquitto_publish : ℕ → ℤ) {s : Sender} {obj_info : ObjInfo}
    {rest : List ObjInfo} (hqueue : s.obj_list = obj_info :: rest)
    (h : mosquitto_publish 0 = MOSQ_ERR_SUCCESS) :
    s.iteration wire topic mosquitto_publish
      = ⟨rest, s.popped + 1, s.accepted ++ [obj_info], s.payloads⟩ := by
  have hsent := sentOK_of_success mosquitto_publish topic
    (wire.json_to_string (set_mqtt_message obj_info)) h
  simp [iteration, hqueue, hsent, acceptances_send_mqtt_message]

/-- **A front refused for good stays where it is**, and its payload is not released. -/
theorem iteration_of_refused (mosquitto_publish : ℕ → ℤ) {s : Sender} {obj_info : ObjInfo}
    {rest : List ObjInfo} (hqueue : s.obj_list = obj_info :: rest)
    (h : mosquitto_publish 0 ∈ permanentErrors) :
    s.iteration wire topic mosquitto_publish = { s with payloads := s.payloads + 1 } := by
  have hsent := sentOK_of_permanent mosquitto_publish topic
    (wire.json_to_string (set_mqtt_message obj_info)) h
  simp [iteration, hqueue, hsent, acceptances_send_mqtt_message]

/-- The sender is stuck on a refused front, for any number of turns. -/
theorem iterate_turn_of_refused (answer : ℕ → ℤ) {s : Sender} (hqueue : s.obj_list ≠ [])
    (h : answer s.popped ∈ permanentErrors) (n : ℕ) :
    (turn wire topic answer)^[n] s = { s with payloads := s.payloads + n } := by
  obtain ⟨obj_info, rest, hcons⟩ := List.exists_cons_of_ne_nil hqueue
  induction n with
  | zero => rfl
  | succ n ih =>
    rw [Function.iterate_succ_apply', ih, turn]
    exact iteration_of_refused wire topic (fun _ => answer s.popped)
      (s := { s with payloads := s.payloads + n }) hcons h

/-- While no message is refused, the turns work the queue off from the front. -/
theorem iterate_turn_of_accepted (answer : ℕ → ℤ) (pre rest : List ObjInfo) (s : Sender)
    (hqueue : s.obj_list = pre ++ rest)
    (h : ∀ i < pre.length, answer (s.popped + i) = MOSQ_ERR_SUCCESS) :
    (turn wire topic answer)^[pre.length] s
      = ⟨rest, s.popped + pre.length, s.accepted ++ pre, s.payloads⟩ := by
  induction pre generalizing s with
  | nil =>
    obtain ⟨obj_list, popped, accepted, payloads⟩ := s
    obtain rfl : obj_list = rest := hqueue
    simp
  | cons obj_info pre ih =>
    -- one turn accepts the front, and the rest is the queue of the induction hypothesis
    have hturn : turn wire topic answer s
        = ⟨pre ++ rest, s.popped + 1, s.accepted ++ [obj_info], s.payloads⟩ :=
      iteration_of_accepted wire topic _ hqueue (h 0 (by simp))
    rw [List.length_cons, Function.iterate_succ_apply, hturn, ih _ rfl]
    · rw [List.append_assoc, List.singleton_append, Nat.add_right_comm]
      rfl
    · intro i hi
      have hi' := h (i + 1) (by simpa using hi)
      rwa [← Nat.add_assoc, Nat.add_right_comm] at hi'

end Sender

/-- The broker's answers to the queued messages are fixed: success, or a permanent error. -/
def FixedAnswers (answer : ℕ → ℤ) (queue : List ObjInfo) : Prop :=
  ∀ i < queue.length, answer i = MOSQ_ERR_SUCCESS ∨ answer i ∈ permanentErrors

/-- The messages of a queue the broker does not refuse, in order. -/
def deliverable (answer : ℕ → ℤ) (queue : List ObjInfo) : List ObjInfo :=
  (queue.zipIdx.filter fun m => answer m.2 = MOSQ_ERR_SUCCESS).map Prod.fst

/-- What is asked of the sender: after as many turns as there were queued messages, the deliverable
ones have been accepted, in order, and the queue is empty. -/
def QueueDelivered (wire : Wire Text) (topic : String) (answer : ℕ → ℤ)
    (queue : List ObjInfo) : Prop :=
  ((Sender.turn wire topic answer)^[queue.length] (Sender.start queue)).accepted
      = deliverable answer queue ∧
    ((Sender.turn wire topic answer)^[queue.length] (Sender.start queue)).obj_list = []

/-- **The queue is worked off iff no message in it is refused for good.** -/
theorem queue_delivered_iff (wire : Wire Text) (topic : String) (answer : ℕ → ℤ)
    (queue : List ObjInfo) (hfixed : FixedAnswers answer queue) :
    QueueDelivered wire topic answer queue ↔
      ∀ i < queue.length, answer i ∉ permanentErrors := by
  constructor
  · rintro ⟨-, hempty⟩ i hi hrefused
    -- the sender reaches the first refused message and stays there
    obtain ⟨k, hk, hkrefused, hbefore⟩ : ∃ k < queue.length, answer k ∈ permanentErrors ∧
        ∀ j < k, answer j ∉ permanentErrors := by
      classical
      have hex : ∃ k, answer k ∈ permanentErrors := ⟨i, hrefused⟩
      exact ⟨Nat.find hex, (Nat.find_min' hex hrefused).trans_lt hi, Nat.find_spec hex,
        fun j hj => Nat.find_min hex hj⟩
    have hlength : (queue.take k).length = k := by
      rw [List.length_take]
      omega
    -- the `k` messages before it are worked off in `k` turns
    have hreach := Sender.iterate_turn_of_accepted wire topic answer (queue.take k)
      (queue.drop k) (Sender.start queue) (List.take_append_drop k queue).symm (by
        intro j hj
        rw [hlength] at hj
        have hanswer : answer j = MOSQ_ERR_SUCCESS :=
          (hfixed j (by omega)).resolve_right (hbefore j hj)
        rwa [Sender.start, Nat.zero_add])
    rw [hlength] at hreach
    have hdrop : queue.drop k ≠ [] := by
      rw [Ne, List.drop_eq_nil_iff]
      omega
    -- the turns left are all spent on the refused message
    have hturns : queue.length = (queue.length - k) + k := by omega
    rw [hturns, Function.iterate_add_apply, hreach, Sender.iterate_turn_of_refused] at hempty
    · exact hdrop hempty
    · exact hdrop
    · rwa [Sender.start, Nat.zero_add]
  · intro hnone
    have hall : ∀ i < queue.length, answer i = MOSQ_ERR_SUCCESS :=
      fun i hi => (hfixed i hi).resolve_right (hnone i hi)
    have hrun := Sender.iterate_turn_of_accepted wire topic answer queue []
      (Sender.start queue) (List.append_nil queue).symm
      (by simpa [Sender.start] using hall)
    rw [QueueDelivered, hrun]
    refine ⟨?_, rfl⟩
    -- every message is deliverable
    have hfilter : (queue.zipIdx.filter fun m => answer m.2 = MOSQ_ERR_SUCCESS) = queue.zipIdx := by
      rw [List.filter_eq_self]
      intro m hm
      have hm2 := List.snd_lt_of_mem_zipIdx hm
      simpa using hall m.2 (by simpa using hm2)
    rw [deliverable, hfilter]
    simp [Sender.start]

/-- A queue of two detections. -/
def twoDetections : List ObjInfo := [.sample 1 ["door"], .sample 2 ["door"]]

/-- A broker that finds the first message too large and accepts every other. -/
def firstTooLarge (i : ℕ) : ℤ := if i = 0 then MOSQ_ERR_PAYLOAD_SIZE else MOSQ_ERR_SUCCESS

theorem fixedAnswers_firstTooLarge (queue : List ObjInfo) : FixedAnswers firstTooLarge queue := by
  intro i _
  by_cases h : i = 0
  · exact .inr (by simp [h, firstTooLarge, permanentErrors])
  · exact .inl (by simp [h, firstTooLarge])

/-- The criterion on two messages: both delivered when both are accepted, not when the first is
refused as too large. -/
theorem queue_delivered_iff_two :
    QueueDelivered Wire.tree "/perception/tracking" (fun _ => MOSQ_ERR_SUCCESS) twoDetections ∧
      ¬ QueueDelivered Wire.tree "/perception/tracking" firstTooLarge twoDetections := by
  constructor
  · exact (queue_delivered_iff _ _ _ _ fun _ _ => .inl rfl).mpr (by decide)
  · intro hdelivered
    exact (queue_delivered_iff _ _ _ _ (fixedAnswers_firstTooLarge _)).mp hdelivered 0 (by decide)
      (by decide)

/-- **A refused message blocks the queue.** The first of two messages is refused as too large: after
two turns the second, which the broker would accept, has not been accepted. -/
theorem refused_message_blocks_queue :
    ¬ ∀ (answer : ℕ → ℤ) (queue : List ObjInfo), FixedAnswers answer queue →
      QueueDelivered Wire.tree "/perception/tracking" answer queue := by
  intro hall
  obtain ⟨haccepted, -⟩ := hall _ twoDetections (fixedAnswers_firstTooLarge _)
  have hstuck := Sender.iterate_turn_of_refused Wire.tree "/perception/tracking"
    firstTooLarge (s := Sender.start twoDetections) (by decide) (by decide) 2
  have hlength : twoDetections.length = 2 := rfl
  rw [hlength, hstuck] at haccepted
  exact absurd haccepted (by decide +kernel)

end DemoColombia.Perception
