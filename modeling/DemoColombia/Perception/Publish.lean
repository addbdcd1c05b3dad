import Mathlib.Data.Nat.Basic
import Mathlib.Data.Int.Basic

/-! # The publish retry loop (`send_mqtt_message`)

`tries` starts at `5` and is both the bound of the loop and its exit signal: the cases that give up
or succeed set it to `0`, and every turn decrements it. The broker is the function
`mosquitto_publish`, whose value at `i` is the code returned by the `i`-th call of the loop; it may
be any integer.

* `Retry.next` — one turn of the loop, on the two variables it is about; `Retry.switch_eq` sorts the
  codes into success, permanent error and everything else.
* `send_mqtt_message` — the whole loop, with the calls it makes.
* `acceptances_send_mqtt_message` — a message is accepted once if the function returns true, and
  never if it returns false.
* `publish_attempts` — how many calls the loop makes, which of them decides, and how often it
  reconnects. -/

namespace DemoColombia.Perception

/-! ## Return codes -/

def MOSQ_ERR_SUCCESS : ℤ := 0
def MOSQ_ERR_NOMEM : ℤ := 1
def MOSQ_ERR_PROTOCOL : ℤ := 2
def MOSQ_ERR_INVAL : ℤ := 3
def MOSQ_ERR_NO_CONN : ℤ := 4
def MOSQ_ERR_PAYLOAD_SIZE : ℤ := 9
def MOSQ_ERR_MALFORMED_UTF8 : ℤ := 18
def MOSQ_ERR_QOS_NOT_SUPPORTED : ℤ := 24
def MOSQ_ERR_OVERSIZE_PACKET : ℤ := 25

/-- The errors after which trying again is pointless. -/
def permanentErrors : List ℤ :=
  [MOSQ_ERR_INVAL, MOSQ_ERR_PAYLOAD_SIZE, MOSQ_ERR_MALFORMED_UTF8, MOSQ_ERR_QOS_NOT_SUPPORTED,
    MOSQ_ERR_OVERSIZE_PACKET]

/-! ## One turn -/

/-- The local variables of `send_mqtt_message`. -/
structure Retry where
  sentOK : Bool
  tries : ℤ
  deriving DecidableEq

namespace Retry

/-- Before the first turn. -/
def init : Retry := ⟨false, 5⟩

/-- The `switch` on the return code. -/
def switch (r : Retry) (ret : ℤ) : Retry :=
  if ret = MOSQ_ERR_SUCCESS then ⟨true, 0⟩
  else if ret = MOSQ_ERR_INVAL then { r with tries := 0 }
  else if ret = MOSQ_ERR_NOMEM then r
  -- `mosquitto_reconnect` touches neither variable
  else if ret = MOSQ_ERR_NO_CONN then r
  else if ret = MOSQ_ERR_PROTOCOL then r
  else if ret = MOSQ_ERR_PAYLOAD_SIZE then { r with tries := 0 }
  else if ret = MOSQ_ERR_MALFORMED_UTF8 then { r with tries := 0 }
  else if ret = MOSQ_ERR_QOS_NOT_SUPPORTED then { r with tries := 0 }
  else if ret = MOSQ_ERR_OVERSIZE_PACKET then { r with tries := 0 }
  -- the `switch` has no default
  else r

/-- One turn of the loop: the `switch`, then `tries--`. -/
def next (r : Retry) (ret : ℤ) : Retry :=
  ⟨(r.switch ret).sentOK, (r.switch ret).tries - 1⟩

/-- The codes fall into three classes. -/
theorem switch_eq (r : Retry) (ret : ℤ) :
    r.switch ret = if ret = MOSQ_ERR_SUCCESS then ⟨true, 0⟩
      else if ret ∈ permanentErrors then { r with tries := 0 } else r := by
  by_cases hpermanent : ret ∈ permanentErrors
  · -- five codes, each with a case of its own
    simp only [permanentErrors, List.mem_cons, List.not_mem_nil, or_false] at hpermanent
    rcases hpermanent with rfl | rfl | rfl | rfl | rfl <;> rfl
  · rw [if_neg hpermanent]
    simp only [permanentErrors, List.mem_cons, List.not_mem_nil, or_false, not_or] at hpermanent
    obtain ⟨hinval, hsize, hutf8, hqos, hoversize⟩ := hpermanent
    simp only [switch, hinval, hsize, hutf8, hqos, hoversize, if_false, ite_self]

theorem next_success (r : Retry) : r.next MOSQ_ERR_SUCCESS = ⟨true, -1⟩ := by
  rw [next, switch_eq, if_pos rfl]
  rfl

/-- A permanent error ends the loop. -/
theorem next_permanent (r : Retry) {ret : ℤ} (h : ret ∈ permanentErrors) :
    r.next ret = ⟨r.sentOK, -1⟩ := by
  have hne : ret ≠ MOSQ_ERR_SUCCESS := by
    rintro rfl
    revert h
    decide
  rw [next, switch_eq, if_neg hne, if_pos h]
  rfl

/-- Any other code costs one try. -/
theorem next_transient (r : Retry) {ret : ℤ} (hne : ret ≠ MOSQ_ERR_SUCCESS)
    (h : ret ∉ permanentErrors) : r.next ret = ⟨r.sentOK, r.tries - 1⟩ := by
  rw [next, switch_eq, if_neg hne, if_neg h]

/-- Only a success sets the result. -/
theorem next_sentOK_of_ne (r : Retry) {ret : ℤ} (hne : ret ≠ MOSQ_ERR_SUCCESS) :
    (r.next ret).sentOK = r.sentOK := by
  by_cases h : ret ∈ permanentErrors
  · rw [next_permanent r h]
  · rw [next_transient r hne h]

/-- Every turn decrements `tries`. -/
theorem tries_next_lt (r : Retry) (ret : ℤ) (h : 0 < r.tries) : (r.next ret).tries < r.tries := by
  rw [next, switch_eq]
  split
  · show (0 : ℤ) - 1 < r.tries
    omega
  · split
    · show (0 : ℤ) - 1 < r.tries
      omega
    · show r.tries - 1 < r.tries
      omega

end Retry

/-! ## The loop -/

variable {Text : Type*}

/-- The loop with what it has done so far. -/
structure Sending (Text : Type*) where
  retry : Retry
  /-- The topic and the message of each publish call. -/
  calls : List (String × Text)
  /-- How often `mosquitto_reconnect` was called. -/
  reconnects : ℕ

/-- One turn: publish, react to the code. -/
def Sending.turn (mosquitto_publish : ℕ → ℤ) (topic : String) (message : Text)
    (s : Sending Text) : Sending Text where
  retry := s.retry.next (mosquitto_publish s.calls.length)
  calls := s.calls ++ [(topic, message)]
  reconnects :=
    if mosquitto_publish s.calls.length = MOSQ_ERR_NO_CONN then s.reconnects + 1 else s.reconnects

/-- `while (tries > 0)`. -/
def Sending.loop (mosquitto_publish : ℕ → ℤ) (topic : String) (message : Text)
    (s : Sending Text) : Sending Text :=
  if _h : 0 < s.retry.tries then loop mosquitto_publish topic message
    (s.turn mosquitto_publish topic message)
  else s
termination_by s.retry.tries.toNat
decreasing_by
  have hlt := s.retry.tries_next_lt (mosquitto_publish s.calls.length) _h
  show (s.retry.next (mosquitto_publish s.calls.length)).tries.toNat < s.retry.tries.toNat
  omega

/-- `send_mqtt_message`: the state in which the loop ends; its result is `retry.sentOK`. -/
def send_mqtt_message (mosquitto_publish : ℕ → ℤ) (message : Text) (topic : String) :
    Sending Text :=
  Sending.loop mosquitto_publish topic message ⟨Retry.init, [], 0⟩

section Loop

variable (mosquitto_publish : ℕ → ℤ) (topic : String) (message : Text)

theorem Sending.loop_of_pos {s : Sending Text} (h : 0 < s.retry.tries) :
    s.loop mosquitto_publish topic message
      = (s.turn mosquitto_publish topic message).loop mosquitto_publish topic message := by
  rw [loop, dif_pos h]

theorem Sending.loop_of_not_pos {s : Sending Text} (h : ¬ 0 < s.retry.tries) :
    s.loop mosquitto_publish topic message = s := by
  rw [loop, dif_neg h]

/-- How often the broker accepts a message whose publish calls are those of `s`. -/
def acceptances (s : Sending Text) : ℕ :=
  (List.range s.calls.length).countP (mosquitto_publish · = MOSQ_ERR_SUCCESS)

theorem acceptances_turn (s : Sending Text) :
    acceptances mosquitto_publish (s.turn mosquitto_publish topic message)
      = acceptances mosquitto_publish s
        + if mosquitto_publish s.calls.length = MOSQ_ERR_SUCCESS then 1 else 0 := by
  have hlength : (s.turn mosquitto_publish topic message).calls.length = s.calls.length + 1 := by
    simp [Sending.turn]
  rw [acceptances, hlength, List.range_succ, List.countP_append, acceptances]
  simp [List.countP_singleton]

/-- A loop that has not succeeded yet ends with one acceptance for a true result and none for a
false one. The induction is on the turns; a success is the last turn. -/
theorem acceptances_loop (s : Sending Text) (hsent : s.retry.sentOK = false)
    (haccepted : acceptances mosquitto_publish s = 0) :
    acceptances mosquitto_publish (s.loop mosquitto_publish topic message)
      = if (s.loop mosquitto_publish topic message).retry.sentOK then 1 else 0 := by
  by_cases hpos : 0 < s.retry.tries
  · rw [Sending.loop_of_pos mosquitto_publish topic message hpos]
    by_cases hret : mosquitto_publish s.calls.length = MOSQ_ERR_SUCCESS
    · -- the turn sets `tries` to zero, and the decrement ends the loop
      have hretry : (s.turn mosquitto_publish topic message).retry = ⟨true, -1⟩ := by
        rw [Sending.turn, hret, Retry.next_success]
      have hend : ¬ 0 < (s.turn mosquitto_publish topic message).retry.tries := by
        rw [hretry]
        decide
      rw [Sending.loop_of_not_pos mosquitto_publish topic message hend, acceptances_turn, haccepted,
        if_pos hret, hretry]
      rfl
    · -- nothing accepted in this turn: the induction hypothesis, on one try less
      have hsent' : (s.turn mosquitto_publish topic message).retry.sentOK = false :=
        (s.retry.next_sentOK_of_ne hret).trans hsent
      have haccepted' :
          acceptances mosquitto_publish (s.turn mosquitto_publish topic message) = 0 := by
        rw [acceptances_turn, haccepted, if_neg hret]
      exact acceptances_loop _ hsent' haccepted'
  · rw [Sending.loop_of_not_pos mosquitto_publish topic message hpos, haccepted, hsent]
    rfl
termination_by s.retry.tries.toNat
decreasing_by
  have hlt := s.retry.tries_next_lt (mosquitto_publish s.calls.length) hpos
  show (s.retry.next (mosquitto_publish s.calls.length)).tries.toNat < s.retry.tries.toNat
  omega

/-- **A message is accepted at most once**: exactly when the function returns true. -/
theorem acceptances_send_mqtt_message :
    acceptances mosquitto_publish (send_mqtt_message mosquitto_publish message topic)
      = if (send_mqtt_message mosquitto_publish message topic).retry.sentOK then 1 else 0 :=
  acceptances_loop mosquitto_publish topic message _ rfl rfl

/-- The first call decides when it does not return a transient error. -/
theorem retry_send_of_first (h : mosquitto_publish 0 = MOSQ_ERR_SUCCESS ∨
    mosquitto_publish 0 ∈ permanentErrors) :
    (send_mqtt_message mosquitto_publish message topic).retry
      = Retry.init.next (mosquitto_publish 0) := by
  have hend : ¬ 0 < (Retry.init.next (mosquitto_publish 0)).tries := by
    rcases h with h | h
    · rw [h, Retry.next_success]
      decide
    · rw [Retry.next_permanent _ h]
      decide
  rw [send_mqtt_message, Sending.loop_of_pos _ _ _ (show (0 : ℤ) < 5 by decide),
    Sending.loop_of_not_pos _ _ _ hend]
  rfl

theorem sentOK_of_success (h : mosquitto_publish 0 = MOSQ_ERR_SUCCESS) :
    (send_mqtt_message mosquitto_publish message topic).retry.sentOK = true := by
  rw [retry_send_of_first _ _ _ (.inl h), h, Retry.next_success]

theorem sentOK_of_permanent (h : mosquitto_publish 0 ∈ permanentErrors) :
    (send_mqtt_message mosquitto_publish message topic).retry.sentOK = false := by
  rw [retry_send_of_first _ _ _ (.inr h), Retry.next_permanent _ h]
  rfl

/-! ## The calls of one message -/

/-- The codes after which the loop makes no further call. -/
def finalCodes : List ℤ := MOSQ_ERR_SUCCESS :: permanentErrors

/-- **What the loop has done when it ends**, with `n` calls made: between one and five, all for the
same message; none but the last returned a final code, and the last did unless it was the fifth. -/
structure Attempts (s : Sending Text) (n : ℕ) : Prop where
  pos : 1 ≤ n
  le_five : n ≤ 5
  calls : s.calls = List.replicate n (topic, message)
  /-- It goes on after every code that is not final, and stops right after the first that is. -/
  earlier : ∀ i < n - 1, mosquitto_publish i ∉ finalCodes
  last : mosquitto_publish (n - 1) ∈ finalCodes ∨ n = 5
  sentOK : s.retry.sentOK = true ↔
    mosquitto_publish (n - 1) = MOSQ_ERR_SUCCESS ∧
      ∀ i < n - 1, mosquitto_publish i ≠ MOSQ_ERR_SUCCESS
  /-- One reconnect for each lost connection. -/
  reconnects : s.reconnects = (List.range n).countP (mosquitto_publish · = MOSQ_ERR_NO_CONN)

/-- The loop after `n` calls that have all returned other codes. -/
structure Trying (s : Sending Text) (n : ℕ) : Prop where
  sentOK : s.retry.sentOK = false
  tries : s.retry.tries = 5 - n
  calls : s.calls = List.replicate n (topic, message)
  earlier : ∀ i < n, mosquitto_publish i ∉ finalCodes
  reconnects : s.reconnects = (List.range n).countP (mosquitto_publish · = MOSQ_ERR_NO_CONN)

variable {mosquitto_publish topic message} {s : Sending Text} {n : ℕ}

theorem Trying.length_calls (h : Trying mosquitto_publish topic message s n) :
    s.calls.length = n := by
  rw [h.calls, List.length_replicate]

/-- A turn adds its call, whatever it returns. -/
theorem Trying.calls_turn (h : Trying mosquitto_publish topic message s n) :
    (s.turn mosquitto_publish topic message).calls = List.replicate (n + 1) (topic, message) := by
  rw [Sending.turn, h.calls, List.replicate_succ']

/-- A turn counts a reconnect for a lost connection. -/
theorem Trying.reconnects_turn (h : Trying mosquitto_publish topic message s n) :
    (s.turn mosquitto_publish topic message).reconnects
      = (List.range (n + 1)).countP (mosquitto_publish · = MOSQ_ERR_NO_CONN) := by
  rw [List.range_succ, List.countP_append, ← h.reconnects]
  simp only [Sending.turn, h.length_calls, List.countP_singleton, decide_eq_true_eq]
  split <;> rfl

/-- A code that is not final costs one try. -/
theorem Trying.turn (h : Trying mosquitto_publish topic message s n)
    (hcode : mosquitto_publish n ∉ finalCodes) :
    Trying mosquitto_publish topic message (s.turn mosquitto_publish topic message) (n + 1) := by
  obtain ⟨hne, hpermanent⟩ := not_or.mp (List.mem_cons.not.mp hcode)
  have hretry : (s.turn mosquitto_publish topic message).retry = ⟨false, 5 - (n + 1 : ℕ)⟩ := by
    rw [Sending.turn, h.length_calls, Retry.next_transient _ hne hpermanent, h.sentOK, h.tries]
    push_cast
    rw [Int.sub_sub]
  exact {
    sentOK := by rw [hretry]
    tries := by rw [hretry]
    calls := h.calls_turn
    earlier := fun i hi => by
      rcases Nat.lt_succ_iff_lt_or_eq.mp hi with hi | rfl
      · exact h.earlier i hi
      · exact hcode
    reconnects := h.reconnects_turn }

/-- A final code ends the loop; the result is whether it was a success. -/
theorem Trying.retry_turn_of_final (h : Trying mosquitto_publish topic message s n)
    (hcode : mosquitto_publish n ∈ finalCodes) :
    (s.turn mosquitto_publish topic message).retry
      = ⟨decide (mosquitto_publish n = MOSQ_ERR_SUCCESS), -1⟩ := by
  rw [Sending.turn, h.length_calls]
  rcases List.mem_cons.mp hcode with hret | hpermanent
  · rw [hret, Retry.next_success]
    rfl
  · have hne : mosquitto_publish n ≠ MOSQ_ERR_SUCCESS := by
      intro hret
      rw [hret] at hpermanent
      revert hpermanent
      decide
    rw [Retry.next_permanent _ hpermanent, h.sentOK, decide_eq_false hne]

/-- **The loop from its `n`-th call on.** The induction is on the tries left. -/
theorem Trying.loop {s : Sending Text} {n : ℕ} (h : Trying mosquitto_publish topic message s n)
    (hn : n < 5) :
    ∃ m, Attempts mosquitto_publish topic message (s.loop mosquitto_publish topic message) m := by
  have hpos : 0 < s.retry.tries := by
    rw [h.tries]
    omega
  rw [Sending.loop_of_pos _ _ _ hpos]
  by_cases hcode : mosquitto_publish n ∈ finalCodes
  · -- this call was the last
    have hretry := h.retry_turn_of_final hcode
    have hend : ¬ 0 < (s.turn mosquitto_publish topic message).retry.tries := by
      rw [hretry]
      exact (by decide : ¬ (0 : ℤ) < -1)
    rw [Sending.loop_of_not_pos _ _ _ hend]
    refine ⟨n + 1, by omega, by omega, h.calls_turn, h.earlier, .inl hcode, ?_, h.reconnects_turn⟩
    rw [hretry, decide_eq_true_eq]
    refine (and_iff_left fun i hi hret => ?_).symm
    exact h.earlier i hi (by rw [hret]; exact List.mem_cons_self)
  · by_cases hlast : n + 1 < 5
    · exact (h.turn hcode).loop hlast
    · -- five calls, none with a final code
      have hturn := h.turn hcode
      have hfive : n + 1 = 5 := by omega
      have hend : ¬ 0 < (s.turn mosquitto_publish topic message).retry.tries := by
        rw [hturn.tries, hfive]
        decide
      rw [Sending.loop_of_not_pos _ _ _ hend]
      refine ⟨n + 1, by omega, by omega, hturn.calls, h.earlier, .inr hfive, ?_, hturn.reconnects⟩
      rw [hturn.sentOK]
      refine iff_of_false (by decide) fun hret => hcode ?_
      rw [Nat.add_sub_cancel] at hret
      rw [hret.1]
      exact List.mem_cons_self
termination_by 5 - n

/-- **The publish retry loop.** For every broker, message and topic the loop ends after one to five
publish calls, all with the same topic and message. It stops right after the first code that is a
success or a permanent error, and else uses all five calls; it returns true iff the last call
succeeded and no earlier one did; and it reconnects once for each lost connection. -/
theorem publish_attempts (mosquitto_publish : ℕ → ℤ) (topic : String) (message : Text) :
    Attempts mosquitto_publish topic message
      (send_mqtt_message mosquitto_publish message topic)
      (send_mqtt_message mosquitto_publish message topic).calls.length := by
  have hinit : Trying mosquitto_publish topic message ⟨Retry.init, [], 0⟩ 0 :=
    ⟨rfl, rfl, rfl, nofun, rfl⟩
  obtain ⟨n, hn⟩ := hinit.loop (by decide)
  have hlength : (send_mqtt_message mosquitto_publish message topic).calls.length = n := by
    rw [send_mqtt_message, hn.calls, List.length_replicate]
  rw [hlength]
  exact hn

end Loop

end DemoColombia.Perception
