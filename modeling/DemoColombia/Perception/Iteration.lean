import DemoColombia.Perception.BrokerThreads
import DemoColombia.Perception.Sender

/-! # The sequential sender is the undisturbed one

`Sender.iteration` takes one turn of the outer loop in one step. Here it is the outcome of the
sender's own steps in the three-thread model: from the head of the loop, with a nonempty queue, a
free mutex and the flag up, the sender can run one iteration by itself, and ends at the head of the
loop with the queue and the accepted elements of `Sender.iteration` (`exec_iteration`). -/

namespace DemoColombia.Perception

namespace Broker

variable {Text : Type*} (mosquitto_publish : ℕ → ℤ) (topic : String) (message : Text)

/-- **The retry loop**, publish call by publish call: the sender ends about to pop if the loop
succeeded, about to unlock if not. The induction is on the tries left. -/
theorem exec_publishing (o : ObjInfo) (sending : Sending Text) (s : Broker)
    (hpc : s.sender = .publishing o sending.retry) (hsent : sending.retry.sentOK = false)
    (hpos : 0 < sending.retry.tries) :
    ∃ rets : List ℤ, exec next s (rets.map .sender) = some { s with
      sender :=
        if (sending.loop mosquitto_publish topic message).retry.sentOK then .popping o
        else .unlocking
      accepted :=
        if (sending.loop mosquitto_publish topic message).retry.sentOK then s.accepted ++ [o]
        else s.accepted } := by
  have hloop := sending.loop_of_pos mosquitto_publish topic message hpos
  have hnext : s.next (.sender (mosquitto_publish sending.calls.length)) = some { s with
      sender := afterPublish o (sending.turn mosquitto_publish topic message).retry
      accepted :=
        if mosquitto_publish sending.calls.length = MOSQ_ERR_SUCCESS then s.accepted ++ [o]
        else s.accepted } := by
    rw [next, senderStep, hpc]
    rfl
  rw [hloop]
  by_cases hret : mosquitto_publish sending.calls.length = MOSQ_ERR_SUCCESS
  · -- the message is accepted, and this call was the last
    have hretry : (sending.turn mosquitto_publish topic message).retry = ⟨true, -1⟩ := by
      rw [Sending.turn, hret, Retry.next_success]
    have hend := Sending.loop_of_not_pos mosquitto_publish topic message
      (s := sending.turn mosquitto_publish topic message) (by rw [hretry]; decide)
    refine ⟨[mosquitto_publish sending.calls.length], ?_⟩
    rw [List.map_singleton, exec_singleton, hnext, hend, hretry, if_pos hret]
    rfl
  · have hsent' : (sending.turn mosquitto_publish topic message).retry.sentOK = false :=
      (sending.retry.next_sentOK_of_ne hret).trans hsent
    by_cases hpos' : 0 < (sending.turn mosquitto_publish topic message).retry.tries
    · -- try again
      have hstep : s.next (.sender (mosquitto_publish sending.calls.length)) = some { s with
          sender := .publishing o (sending.turn mosquitto_publish topic message).retry } := by
        rw [hnext, afterPublish, if_pos hpos', if_neg hret]
      obtain ⟨rets, hrets⟩ := exec_publishing o (sending.turn mosquitto_publish topic message)
        { s with sender := .publishing o (sending.turn mosquitto_publish topic message).retry }
        rfl hsent' hpos'
      refine ⟨mosquitto_publish sending.calls.length :: rets, ?_⟩
      rw [List.map_cons, exec, hstep, Option.bind_some, hrets]
    · -- out of tries, or a permanent error
      have hend := Sending.loop_of_not_pos mosquitto_publish topic message hpos'
      refine ⟨[mosquitto_publish sending.calls.length], ?_⟩
      rw [List.map_singleton, exec_singleton, hnext, hend, hsent', if_neg hret, afterPublish,
        if_neg hpos', hsent']
      rfl
termination_by sending.retry.tries.toNat
decreasing_by
  have hlt := sending.retry.tries_next_lt (mosquitto_publish sending.calls.length) hpos
  show (sending.retry.next (mosquitto_publish sending.calls.length)).tries.toNat
    < sending.retry.tries.toNat
  omega

end Broker

/-- **One undisturbed iteration of the sender** does to the queue and to the accepted elements what
`Sender.iteration` does. -/
theorem exec_iteration {Text : Type*} (wire : Wire Text) (topic : String)
    (mosquitto_publish : ℕ → ℤ) (s : Broker) (q : Sender) (hqueue : q.obj_list = s.obj_list)
    (haccepted : q.accepted = s.accepted) (hne : s.obj_list ≠ []) (hpc : s.sender = .loopHead)
    (hflag : s.app_is_running = true) (hmtx : s.mtx = none) :
    ∃ rets : List ℤ, exec Broker.next s (rets.map .sender) = some { s with
      obj_list := (q.iteration wire topic mosquitto_publish).obj_list
      accepted := (q.iteration wire topic mosquitto_publish).accepted } := by
  obtain ⟨o, rest, hcons⟩ := List.exists_cons_of_ne_nil hne
  -- read the flag, take the mutex, test the queues, take the front
  have hfront : exec Broker.next s ([0, 0, 0, 0].map .sender) = some { s with
      mtx := some .sender, sender := .publishing o Retry.init } := by
    simp [exec, Broker.next, Broker.senderStep, hpc, hflag, hmtx, hcons]
  obtain ⟨rets, hrets⟩ := Broker.exec_publishing mosquitto_publish topic
    (wire.json_to_string (set_mqtt_message o)) o ⟨Retry.init, [], 0⟩
    { s with mtx := some .sender, sender := .publishing o Retry.init } rfl rfl
    (show (0 : ℤ) < 5 by decide)
  have hacceptances := acceptances_send_mqtt_message mosquitto_publish topic
    (wire.json_to_string (set_mqtt_message o))
  rw [← send_mqtt_message] at hrets
  cases hsent : (send_mqtt_message mosquitto_publish
      (wire.json_to_string (set_mqtt_message o)) topic).retry.sentOK with
  | true =>
    rw [hsent] at hrets hacceptances
    have hiteration : q.iteration wire topic mosquitto_publish
        = ⟨rest, q.popped + 1, q.accepted ++ [o], q.payloads⟩ := by
      simp [Sender.iteration, hqueue, hcons, hsent, hacceptances]
    -- pop, release the payload, release the mutex
    refine ⟨[0, 0, 0, 0] ++ (rets ++ [0, 0, 0]), ?_⟩
    rw [List.map_append, exec_append hfront, List.map_append, exec_append hrets, hiteration]
    simp [exec, Broker.next, Broker.senderStep, hcons, haccepted, ← hpc, ← hmtx]
  | false =>
    rw [hsent] at hrets hacceptances
    have hiteration : q.iteration wire topic mosquitto_publish
        = ⟨q.obj_list, q.popped, q.accepted, q.payloads + 1⟩ := by
      simp [Sender.iteration, hqueue, hcons, hsent, hacceptances]
    -- release the mutex, and nothing else
    refine ⟨[0, 0, 0, 0] ++ (rets ++ [0]), ?_⟩
    rw [List.map_append, exec_append hfront, List.map_append, exec_append hrets, hiteration]
    simp [exec, Broker.next, Broker.senderStep, hqueue, haccepted, ← hpc, ← hmtx]

end DemoColombia.Perception
