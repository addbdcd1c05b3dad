import DemoColombia.DataStructures.Heap
import DemoColombia.Perception.Forwarding

/-! # The payload buffers (`set_mqtt_message`, `g_free`)

`set_mqtt_message` returns a buffer that the caller has to give back. `send2MQTTBrokerTask` calls
`g_free` behind the pop, so only for a message that was accepted; the buffer of a message that was
not is lost when the iteration ends.

* `released_once` — in every run no buffer is given back twice.
* `payloads_released_iff` — no buffer is lost exactly when no send of the run fails.
* `payload_leaked` — one that is refused. -/

namespace DemoColombia.Perception

variable {Text : Type*}

/-- The threads, and the buffers of the payloads. -/
structure PayloadRun (Text : Type*) where
  threads : Broker
  heap : Heap Text
  /-- The variable `message` of the sender. -/
  message : ℕ

/-- Between `set_mqtt_message` and `g_free`. -/
def SenderPc.hasPayload : SenderPc → Bool
  | .publishing _ _ => true
  | .popping _ => true
  | .releasing => true
  | _ => false

/-- The next step of the sender neither makes a payload nor publishes it nor gives it back. -/
def SenderPc.quiet : SenderPc → Bool
  | .front => false
  | .publishing _ _ => false
  | .releasing => false
  | _ => true

@[simp] theorem SenderPc.hasPayload_notified (pc : SenderPc) :
    pc.notified.hasPayload = pc.hasPayload := by
  cases pc <;> rfl

namespace PayloadRun

/-- The threads before their first step, with a queue and no payload. -/
def init (queue : List ObjInfo) : PayloadRun Text := ⟨Broker.init queue, .empty, 0⟩

/-- What a step does to the buffers: taking the front makes a payload, releasing gives it back. -/
def buffers (wire : Wire Text) (s : PayloadRun Text) (l : BrokerLabel) : Heap Text × ℕ :=
  match l, s.threads.sender, s.threads.obj_list with
  | .sender _, .front, obj_info :: _ =>
    (s.heap.alloc (wire.json_to_string (set_mqtt_message obj_info)), s.heap.fresh)
  | .sender _, .releasing, _ => (s.heap.free s.message, s.message)
  | _, _, _ => (s.heap, s.message)

/-- One step. -/
def next (wire : Wire Text) (s : PayloadRun Text) (l : BrokerLabel) : Option (PayloadRun Text) :=
  (s.threads.next l).map fun threads => ⟨threads, (s.buffers wire l).1, (s.buffers wire l).2⟩

/-- The body of the outer loop is over. -/
def AtEnd (s : PayloadRun Text) : Prop :=
  s.threads.sender = .unlocking ∨ s.threads.sender = .loopHead

/-- No buffer was given back twice, none is left at the end of an iteration, and there is at most
one at any time. -/
structure Released (s : PayloadRun Text) : Prop where
  once : s.heap.freed.Nodup
  none_left : s.AtEnd → ∀ b, ¬ s.heap.Allocated b
  at_most_one : ∀ b c, s.heap.Allocated b → s.heap.Allocated c → b = c

/-- The call of `mosquitto_publish`, if the step is one, succeeds or leaves another try: it does not
return a permanent error, nor any error at the last try. -/
def NotGivenUp (s : PayloadRun Text) (l : BrokerLabel) : Prop :=
  ∀ o retry ret, s.threads.sender = .publishing o retry → l = .sender ret →
    ret = MOSQ_ERR_SUCCESS ∨ ret ∉ permanentErrors ∧ 1 < retry.tries

/-! ## No buffer is given back twice -/

/-- The payload in hand is allocated, and no buffer was given back twice. -/
structure Held (s : PayloadRun Text) : Prop where
  threads : Broker.Inv s.threads
  sound : s.heap.Sound
  allocated : s.threads.sender.hasPayload = true → s.heap.Allocated s.message

theorem Held.init (queue : List ObjInfo) : Held (init queue : PayloadRun Text) :=
  ⟨Broker.Inv.init queue, .empty, nofun⟩

/-- What a step does, told apart by what happens to the buffers. -/
inductive Moves (wire : Wire Text) (s : PayloadRun Text) (l : BrokerLabel) (threads : Broker) :
    PayloadRun Text → Prop
  /-- The front is taken and its payload made. -/
  | make {o rest} (hpc : s.threads.sender = .front) (hobj : s.threads.obj_list = o :: rest)
      (hpc' : threads.sender = .publishing o .init) :
      Moves wire s l threads
        ⟨threads, s.heap.alloc (wire.json_to_string (set_mqtt_message o)), s.heap.fresh⟩
  /-- The payload is published. -/
  | publish {o retry ret} (hpc : s.threads.sender = .publishing o retry) (hl : l = .sender ret)
      (hpc' : threads.sender = Broker.afterPublish o (retry.next ret)) :
      Moves wire s l threads ⟨threads, s.heap, s.message⟩
  /-- The payload is given back. -/
  | release (hpc : s.threads.sender = .releasing) (hpc' : threads.sender = .unlocking) :
      Moves wire s l threads ⟨threads, s.heap.free s.message, s.message⟩
  /-- Any other step. -/
  | other (hpublish : ∀ o retry ret, s.threads.sender = .publishing o retry → l ≠ .sender ret)
      (hpc : threads.sender.hasPayload = s.threads.sender.hasPayload) :
      Moves wire s l threads ⟨threads, s.heap, s.message⟩

/-- A step of the sender that is none of the three. -/
theorem Moves.of_quiet {wire : Wire Text} {s : PayloadRun Text} {threads : Broker} {ret : ℤ}
    (hquiet : s.threads.sender.quiet = true)
    (hpc : threads.sender.hasPayload = s.threads.sender.hasPayload) :
    Moves wire s (.sender ret) threads
      ⟨threads, (s.buffers wire (.sender ret)).1, (s.buffers wire (.sender ret)).2⟩ := by
  have hbuffers : s.buffers wire (.sender ret) = (s.heap, s.message) := by
    unfold buffers
    split
    · rename_i hfront _
      rw [hfront] at hquiet
      cases hquiet
    · rename_i hreleasing
      rw [hreleasing] at hquiet
      cases hquiet
    · rfl
  rw [hbuffers]
  refine .other (fun o retry ret' hpublishing => ?_) hpc
  rw [hpublishing] at hquiet
  cases hquiet

/-- **Inversion**: what a step does to the threads and to the buffers. -/
theorem moves_of_next {wire : Wire Text} {s s' : PayloadRun Text} {l : BrokerLabel}
    (h : s.next wire l = some s') :
    ∃ threads, Broker.Moves s.threads l threads ∧ Moves wire s l threads s' := by
  obtain ⟨threads, hthreads, rfl⟩ := Option.map_eq_some_iff.mp h
  have hmoves := Broker.moves_of_next hthreads
  refine ⟨threads, hmoves, ?_⟩
  cases hmoves with
  | takeFront hpc hobj =>
    simp only [buffers, hpc, hobj]
    exact .make hpc hobj rfl
  | publish hpc =>
    simp only [buffers, hpc]
    exact .publish hpc rfl rfl
  | release hpc =>
    simp only [buffers, hpc]
    exact .release hpc rfl
  | noFront hpc hobj =>
    simp only [buffers, hpc, hobj]
    refine .other (fun o retry ret hpublishing => ?_) (by rw [hpc]; rfl)
    rw [hpc] at hpublishing
    cases hpublishing
  | enter hpc | exit hpc | wait hpc | ready hpc | pop hpc | unlockSender hpc =>
    exact .of_quiet (by rw [hpc]; rfl) (by rw [hpc]; rfl)
  | lockSender hpc =>
    rcases hpc with hpc | hpc
    all_goals exact .of_quiet (by rw [hpc]; rfl) (by rw [hpc]; rfl)
  | notifyProbe | notifyMain =>
    exact .other (fun _ _ _ _ => nofun) (SenderPc.hasPayload_notified _)
  | spurious hpc => exact .other (fun _ _ _ _ => nofun) (by rw [hpc]; rfl)
  | detect | lockProbe | push | unlockProbe | clearFlag | join =>
    exact .other (fun _ _ _ _ => nofun) rfl

/-- **Every step keeps the payload in hand allocated and gives back only allocated buffers.** -/
theorem Held.next {wire : Wire Text} {s s' : PayloadRun Text} {l : BrokerLabel} (h : Held s)
    (hnext : s.next wire l = some s') : Held s' := by
  obtain ⟨threads, hthreads, hmoves⟩ := moves_of_next hnext
  have hinv := h.threads.moves hthreads
  cases hmoves with
  | make => exact ⟨hinv, h.sound.alloc _, fun _ => Heap.allocated_alloc.mpr (.inr rfl)⟩
  | publish hpc => exact ⟨hinv, h.sound, fun _ => h.allocated (by rw [hpc]; rfl)⟩
  | release hpc hpc' =>
    refine ⟨hinv, h.sound.free (h.allocated (by rw [hpc]; rfl)), fun hpayload => ?_⟩
    rw [hpc'] at hpayload
    cases hpayload
  | other hpublish hpc => exact ⟨hinv, h.sound, fun hpayload => h.allocated (hpc ▸ hpayload)⟩

/-- **No buffer is given back twice**, in any run. -/
theorem released_once {wire : Wire Text} {queue : List ObjInfo} {s : PayloadRun Text}
    (h : Reachable (next wire) (init queue) s) : s.heap.freed.Nodup :=
  (h.invariant (P := Held) (.init queue) fun _ _ _ hs _ hnext => hs.next hnext).sound.nodup

/-! ## No buffer is lost -/

/-- A buffer is in hand or given back. -/
structure Inv (s : PayloadRun Text) : Prop extends Held s where
  only : ∀ b, s.heap.Allocated b → s.threads.sender.hasPayload = true ∧ b = s.message

theorem Inv.init (queue : List ObjInfo) : Inv (init queue : PayloadRun Text) :=
  ⟨.init queue, nofun⟩

/-- A publish call that succeeds or leaves another try keeps the payload in hand. -/
theorem hasPayload_afterPublish (o : ObjInfo) {retry : Retry} {ret : ℤ}
    (hok : ret = MOSQ_ERR_SUCCESS ∨ ret ∉ permanentErrors ∧ 1 < retry.tries) :
    (Broker.afterPublish o (retry.next ret)).hasPayload = true := by
  by_cases hret : ret = MOSQ_ERR_SUCCESS
  · rw [hret, Broker.afterPublish_success]
    rfl
  · obtain ⟨hpermanent, htries⟩ := hok.resolve_left hret
    have hpos : 0 < (retry.next ret).tries := by
      rw [Retry.next_transient retry hret hpermanent]
      show 0 < retry.tries - 1
      omega
    rw [Broker.afterPublish, if_pos hpos]
    rfl

/-- Any other publish call ends the iteration. -/
theorem afterPublish_of_givenUp (o : ObjInfo) {retry : Retry} (hsent : retry.sentOK = false)
    {ret : ℤ} (hgiven : ¬ (ret = MOSQ_ERR_SUCCESS ∨ ret ∉ permanentErrors ∧ 1 < retry.tries)) :
    Broker.afterPublish o (retry.next ret) = .unlocking := by
  obtain ⟨hret, hgiven⟩ := not_or.mp hgiven
  have hsent' : (retry.next ret).sentOK = false := (retry.next_sentOK_of_ne hret).trans hsent
  have hend : ¬ 0 < (retry.next ret).tries := by
    by_cases hpermanent : ret ∈ permanentErrors
    · rw [Retry.next_permanent retry hpermanent]
      exact (by decide : ¬ (0 : ℤ) < -1)
    · rw [Retry.next_transient retry hret hpermanent]
      show ¬ 0 < retry.tries - 1
      have htries : ¬ 1 < retry.tries := fun htries => hgiven ⟨hpermanent, htries⟩
      omega
  rw [Broker.afterPublish_of_not_sent o hsent', if_neg hend]

/-- **Every step that gives nothing up loses no buffer.** -/
theorem Inv.next {wire : Wire Text} {s s' : PayloadRun Text} {l : BrokerLabel} (h : Inv s)
    (hok : NotGivenUp s l) (hnext : s.next wire l = some s') : Inv s' := by
  refine ⟨h.toHeld.next hnext, ?_⟩
  obtain ⟨threads, hthreads, hmoves⟩ := moves_of_next hnext
  cases hmoves with
  | make hpc hobj hpc' =>
    intro b hb
    rcases Heap.allocated_alloc.mp hb with hb | rfl
    · -- the sender had nothing in hand, so nothing was allocated
      have hpayload := (h.only b hb).1
      rw [hpc] at hpayload
      cases hpayload
    · exact ⟨by rw [hpc']; rfl, rfl⟩
  | @publish o retry ret hpc hl hpc' =>
    intro b hb
    refine ⟨?_, (h.only b hb).2⟩
    rw [hpc']
    exact hasPayload_afterPublish o (hok o retry ret hpc hl)
  | release =>
    intro b hb
    obtain ⟨hb, hne⟩ := Heap.allocated_free.mp hb
    exact absurd (h.only b hb).2 hne
  | other hpublish hpc =>
    intro b hb
    exact ⟨hpc.trans (h.only b hb).1, (h.only b hb).2⟩

theorem Inv.released {s : PayloadRun Text} (h : Inv s) : Released s where
  once := h.sound.nodup
  none_left hend b hb := by
    have hpayload := (h.only b hb).1
    rcases hend with hpc | hpc <;> rw [hpc] at hpayload <;> cases hpayload
  at_most_one b c hb hc := (h.only b hb).2.trans (h.only c hc).2.symm

/-- A step that gives up loses the payload in hand. -/
theorem Inv.notGivenUp {wire : Wire Text} {s s' : PayloadRun Text} {l : BrokerLabel} (h : Inv s)
    (hnext : s.next wire l = some s') (hreleased : Released s') : NotGivenUp s l := by
  intro o retry ret hpc hl
  by_contra hgiven
  obtain ⟨threads, hthreads, hmoves⟩ := moves_of_next hnext
  cases hmoves with
  | make hpc' =>
    rw [hpc] at hpc'
    cases hpc'
  | release hpc' =>
    rw [hpc] at hpc'
    cases hpc'
  | other hpublish => exact hpublish o retry ret hpc hl
  | publish hpc' hl' hpc'' =>
    rw [hpc] at hpc'
    cases hpc'
    rw [hl] at hl'
    cases hl'
    -- the sender gives up: the iteration is over, and the payload still allocated
    have hend := afterPublish_of_givenUp o (h.threads.retrying o retry hpc).1 hgiven
    exact hreleased.none_left (.inl (hpc''.trans hend)) s.message (h.allocated (by rw [hpc]; rfl))

/-- **No payload is lost iff no send fails.** For every queue and every run of the threads: in all
its states no buffer was given back twice, none is left at the end of an iteration and there is at
most one, iff every publish call of the run succeeds or returns an error that is not permanent with
another try left. -/
theorem payloads_released_iff (wire : Wire Text) (queue : List ObjInfo) (ls : List BrokerLabel) :
    StatesAlong (next wire) Released (init queue) ls ↔
      StepsAlong (next wire) NotGivenUp (init queue) ls :=
  statesAlong_iff_stepsAlong (fun _ hs => hs.released) (fun _ _ _ hs hok hnext => hs.next hok hnext)
    (fun _ _ _ hs hnext hreleased => hs.notGivenUp hnext hreleased) (Inv.init queue)

/-- **A lost payload.** The only message of the queue is refused as too large: the iteration ends,
and its payload is still allocated. -/
theorem payload_leaked :
    ¬ ∀ (queue : List ObjInfo) (ls : List BrokerLabel),
      StatesAlong (next Wire.tree) Released (init queue) ls := by
  intro hall
  have hexec : exec (next Wire.tree) (init [.sample 1 []])
      [.sender 0, .sender 0, .sender 0, .sender 0, .sender MOSQ_ERR_PAYLOAD_SIZE] = some _ := rfl
  exact ((hall _ _).last hexec).none_left (.inl rfl) 0 rfl

end PayloadRun

end DemoColombia.Perception
