import DemoColombia.Backend.Alternation
import DemoColombia.Backend.Handling
import DemoColombia.Chain.Messages
import DemoColombia.Perception.WakeUp

/-! # The whole system

The probe, the sender, the MQTT broker and the two threads of the backend, each making its own
steps. A message whose publish call returned a success is in flight until the client hands it to
`on_message` or it is lost: with the configured quality of service (`qos: 0`, and none given to
`subscribe`) a message is delivered at most once, and those of one topic in order.

* `end_to_end_safe` — in every run: the messages delivered are some of those produced, in their
  order and none twice, the backend raises only on one that is not read back, nobody is alerted
  about who was not detected, and the alerts about a person alternate.
* `every_detection_alerts` — when everything has come through and nothing was lost, every person
  detected has had an entry alert. -/

namespace DemoColombia.Chain

open Backend Perception

variable {Text : Type*}

/-- The two processes and the MQTT broker between them. -/
structure System (Text : Type*) where
  /-- What the probe calls still have to push. -/
  upcoming : List Entry
  perception : Broker
  /-- The payloads accepted and neither delivered nor lost, oldest first. -/
  in_flight : List Text
  backend : Threads PersonKey
  /-- `on_message` has raised, which ends the backend. -/
  raised : Bool
  /-- The payloads handed to `on_message`, in order. -/
  delivered : List Text
  /-- The number of messages lost. -/
  lost : ℕ

/-- Who moves. -/
inductive SystemLabel
  /-- The probe comes to its next entry. -/
  | detect
  /-- Any other step of the perception process. -/
  | perception (l : BrokerLabel)
  /-- The message at a position of those in flight is lost. -/
  | lose (i : ℕ)
  /-- The client hands the oldest message to `on_message`. -/
  | deliver
  | callback (clock : ℚ)
  | checker (clock : ℚ)

/-- What a step of the perception process puts in flight: the payload of a publish call that
succeeds. -/
def publishes (layer : TextLayer Text) (s : Broker) : BrokerLabel → List Text
  | .sender ret => match s.sender with
    | .publishing obj_info _ => if ret = MOSQ_ERR_SUCCESS then [payload layer obj_info] else []
    | _ => []
  | .detect _ => []
  | .probe => []
  | .spurious => []
  | .main => []

namespace System

/-- Before the first step: the entries some calls will push. -/
def init (entries : List Entry) : System Text where
  upcoming := entries
  perception := Broker.init []
  in_flight := []
  backend := Threads.init
  raised := false
  delivered := []
  lost := 0

/-- The oldest message reaches the idle callback thread; where its payload is not understood,
`on_message` raises. -/
def deliver (layer : TextLayer Text) (s : System Text) : Option (System Text) :=
  match s.in_flight with
  | [] => none
  | message :: rest => match read_person_id layer.loads message with
    | some p => (s.backend.next (.message p)).map fun backend =>
        { s with in_flight := rest, backend := backend, delivered := s.delivered ++ [message] }
    | none =>
      if s.backend.callback = .idle then
        some { s with in_flight := rest, raised := true, delivered := s.delivered ++ [message] }
      else none

/-- One step. -/
def next (layer : TextLayer Text) (s : System Text) : SystemLabel → Option (System Text)
  | .detect => match s.upcoming with
    | [] => none
    | entry :: rest => (s.perception.next (.detect entry.obj_info)).map fun perception =>
        { s with upcoming := rest, perception := perception }
  | .perception (.detect _) => none
  | .perception l => (s.perception.next l).map fun perception =>
      { s with
        perception := perception, in_flight := s.in_flight ++ publishes layer s.perception l }
  | .lose i =>
    if i < s.in_flight.length then
      some { s with in_flight := s.in_flight.eraseIdx i, lost := s.lost + 1 }
    else none
  | .deliver => if s.raised then none else deliver layer s
  | .callback clock =>
    if s.raised then none
    else (s.backend.next (.callback clock)).map fun backend => { s with backend := backend }
  | .checker clock =>
    if s.raised then none
    else (s.backend.next (.checker clock)).map fun backend => { s with backend := backend }

/-- The persons of the messages delivered. -/
def persons (layer : TextLayer Text) (s : System Text) : List PersonKey :=
  s.delivered.filterMap (read_person_id layer.loads)

/-- Everything has come through: no entry is left anywhere between the probe and the backend. -/
structure Complete (s : System Text) : Prop where
  upcoming : s.upcoming = []
  probe : s.perception.probe = .running
  obj_list : s.perception.obj_list = []
  in_flight : s.in_flight = []
  callback : s.backend.callback = .idle

/-! ## What every step keeps -/

/-- The object the probe has come to and not yet pushed. -/
def held : ProbePc → List ObjInfo
  | .locking obj_info => [obj_info]
  | .pushing obj_info => [obj_info]
  | .running => []
  | .notifying => []
  | .unlocking => []

/-- A detection joins what the probe has come to; no other step of the process changes it. -/
theorem pushed_held_of_moves {s s' : Broker} {l : BrokerLabel} (h : Broker.Moves s l s') :
    s'.pushed ++ held s'.probe = match l with
      | .detect o => s.pushed ++ held s.probe ++ [o]
      | _ => s.pushed ++ held s.probe := by
  cases h with
  | detect hpc => simp [hpc, held]
  | lockProbe hpc hfree => simp [hpc, held]
  | push hpc => simp [hpc, held]
  | notifyProbe hpc => simp [hpc, held]
  | unlockProbe hpc => simp [hpc, held]
  | _ => rfl

/-- What is put in flight is what the sender's step has accepted. -/
theorem accepted_of_moves (layer : TextLayer Text) {s s' : Broker} {l : BrokerLabel}
    (h : Broker.Moves s l s') :
    s'.accepted.map (payload layer) = s.accepted.map (payload layer) ++ publishes layer s l := by
  cases h with
  | publish hpc =>
    simp only [publishes, hpc]
    split
    · rw [List.map_append]
      rfl
    · rw [List.append_nil]
  | lockSender hpc => rcases hpc with hpc | hpc <;> simp [publishes, hpc]
  | detect | lockProbe | push | notifyProbe | unlockProbe | spurious | clearFlag | notifyMain
  | join => simp [publishes]
  | enter hpc | exit hpc | wait hpc | ready hpc | takeFront hpc | noFront hpc | pop hpc
  | release hpc | unlockSender hpc => simp [publishes, hpc]

/-- What ties the parts together, `entries` being what the probe calls push. -/
structure Inv (layer : TextLayer Text) (entries : List Entry) (s : System Text) : Prop where
  /-- The perception process alone has made a run of its threads. -/
  perception : Reachable Broker.next (Broker.init []) s.perception
  /-- So has the backend. -/
  backend : Reachable Threads.next Threads.init s.backend
  /-- Every entry was pushed, or is held by the probe, or is still to come. -/
  produced : entries.map Entry.obj_info
    = s.perception.pushed ++ held s.perception.probe ++ s.upcoming.map Entry.obj_info
  /-- The connection loses messages but neither makes them up nor passes one by another. -/
  channel : (s.delivered ++ s.in_flight).Sublist (s.perception.accepted.map (payload layer))
  counted : s.delivered.length + s.in_flight.length + s.lost = s.perception.accepted.length
  /-- `on_message` raises on a message that it does not understand. -/
  raised : s.raised = true → ∃ message ∈ s.delivered, read_person_id layer.loads message = none
  handled : s.backend.Handled (s.persons layer)

variable {layer : TextLayer Text} {entries : List Entry} {s s' : System Text}

theorem Inv.init (layer : TextLayer Text) (entries : List Entry) :
    Inv layer entries (init entries) where
  perception := .refl
  backend := .refl
  produced := rfl
  channel := List.nil_sublist _
  counted := rfl
  raised := nofun
  handled := Threads.Handled.init

/-- A step of the perception process, with the entries still to come after it. -/
theorem Inv.stepPerception (h : Inv layer entries s) {l : BrokerLabel} {perception : Broker}
    (hnext : s.perception.next l = some perception) (upcoming : List Entry)
    (hproduced : entries.map Entry.obj_info
      = perception.pushed ++ held perception.probe ++ upcoming.map Entry.obj_info) :
    Inv layer entries { s with
      upcoming := upcoming
      perception := perception
      in_flight := s.in_flight ++ publishes layer s.perception l } where
  perception := h.perception.step trivial hnext
  backend := h.backend
  produced := hproduced
  channel := by
    show (s.delivered ++ (s.in_flight ++ publishes layer s.perception l)).Sublist _
    rw [accepted_of_moves layer (Broker.moves_of_next hnext), ← List.append_assoc]
    exact h.channel.append (List.Sublist.refl _)
  counted := by
    have hcounted := h.counted
    have haccepted := congrArg List.length (accepted_of_moves layer (Broker.moves_of_next hnext))
    simp only [List.length_map, List.length_append] at haccepted ⊢
    omega
  raised := h.raised
  handled := h.handled

/-- The probe comes to its next entry. -/
theorem Inv.detect (h : Inv layer entries s) {entry : Entry} {rest : List Entry}
    (hupcoming : s.upcoming = entry :: rest) {perception : Broker}
    (hnext : s.perception.next (.detect entry.obj_info) = some perception) :
    Inv layer entries { s with upcoming := rest, perception := perception } := by
  have hstep := h.stepPerception hnext rest (by
    rw [h.produced, pushed_held_of_moves (Broker.moves_of_next hnext), hupcoming, List.map_cons,
      List.append_cons])
  -- nothing is published in that step
  rwa [publishes, List.append_nil] at hstep

/-- Any other step of the perception process. -/
theorem Inv.perceptionStep (h : Inv layer entries s) {l : BrokerLabel} (hl : ∀ o, l ≠ .detect o)
    {perception : Broker} (hnext : s.perception.next l = some perception) :
    Inv layer entries { s with
      perception := perception
      in_flight := s.in_flight ++ publishes layer s.perception l } := by
  refine h.stepPerception hnext s.upcoming ?_
  rw [h.produced, pushed_held_of_moves (Broker.moves_of_next hnext)]
  cases l with
  | detect o => exact absurd rfl (hl o)
  | _ => rfl

/-- A message is lost. -/
theorem Inv.lose (h : Inv layer entries s) {i : ℕ} (hi : i < s.in_flight.length) :
    Inv layer entries { s with in_flight := s.in_flight.eraseIdx i, lost := s.lost + 1 } :=
  { h with
    channel := ((List.Sublist.refl _).append (List.eraseIdx_sublist _ _)).trans h.channel
    counted := by
      have hcounted := h.counted
      show s.delivered.length + (s.in_flight.eraseIdx i).length + (s.lost + 1)
        = s.perception.accepted.length
      rw [List.length_eraseIdx_of_lt hi]
      omega }

/-- What the backend takes from the connection, with its threads after it. -/
theorem Inv.take (h : Inv layer entries s) {backend : Threads PersonKey}
    (hreach : Reachable Threads.next Threads.init backend) (taken : List Text) {rest : List Text}
    (hin_flight : s.in_flight = taken ++ rest)
    (hhandled : backend.Handled (s.persons layer ++ taken.filterMap (read_person_id layer.loads)))
    {raised : Bool} (hraised : raised = true →
      ∃ message ∈ s.delivered ++ taken, read_person_id layer.loads message = none) :
    Inv layer entries { s with
      in_flight := rest, backend := backend, raised := raised,
      delivered := s.delivered ++ taken } where
  perception := h.perception
  backend := hreach
  produced := h.produced
  channel := by
    have hchannel := h.channel
    rwa [hin_flight, ← List.append_assoc] at hchannel
  counted := by
    have hcounted := h.counted
    rw [hin_flight] at hcounted
    simp only [List.length_append] at hcounted ⊢
    omega
  raised := hraised
  handled := by
    rw [persons, List.filterMap_append]
    exact hhandled

/-- A step of a backend thread, with what it takes from the connection. -/
theorem Inv.stepBackend (h : Inv layer entries s) {l : Label PersonKey}
    {backend : Threads PersonKey} (hnext : s.backend.next l = some backend)
    (taken : List Text) {rest : List Text} (hin_flight : s.in_flight = taken ++ rest)
    (htaken : taken.filterMap (read_person_id layer.loads) = l.delivers) :
    Inv layer entries { s with
      in_flight := rest, backend := backend, delivered := s.delivered ++ taken } := by
  refine h.take (h.backend.step trivial hnext) taken hin_flight ?_ fun hraised => ?_
  · rw [htaken]
    exact h.handled.moves (Threads.moves_of_next hnext)
  · obtain ⟨message, hmessage, hperson⟩ := h.raised hraised
    exact ⟨message, List.mem_append_left _ hmessage, hperson⟩

/-- The backend makes a step of its own. -/
theorem Inv.backendStep (h : Inv layer entries s) {l : Label PersonKey} (hl : l.delivers = [])
    {backend : Threads PersonKey} (hnext : s.backend.next l = some backend) :
    Inv layer entries { s with backend := backend } := by
  have hstep := h.stepBackend hnext [] (List.nil_append _).symm hl.symm
  rwa [List.append_nil] at hstep

/-- **A message is delivered**: it is understood, or `on_message` raises on it. -/
theorem Inv.deliver (h : Inv layer entries s) (hnext : deliver layer s = some s') :
    Inv layer entries s' := by
  unfold System.deliver at hnext
  split at hnext
  · cases hnext
  · rename_i message rest hin_flight
    split at hnext
    · rename_i p hperson
      obtain ⟨backend, hbackend, rfl⟩ := Option.map_eq_some_iff.mp hnext
      refine h.stepBackend hbackend [message] hin_flight ?_
      rw [List.filterMap_cons, hperson]
      rfl
    · rename_i hperson
      split at hnext <;> cases hnext
      refine h.take h.backend [message] hin_flight ?_ fun _ =>
        ⟨message, List.mem_append_right _ (List.mem_singleton_self _), hperson⟩
      rw [List.filterMap_cons, hperson, List.filterMap_nil, List.append_nil]
      exact h.handled

/-- **Every step keeps the invariant.** -/
theorem Inv.next {l : SystemLabel} (h : Inv layer entries s) (hnext : s.next layer l = some s') :
    Inv layer entries s' := by
  cases l with
  | detect =>
    rw [System.next] at hnext
    split at hnext
    · cases hnext
    · rename_i entry rest hupcoming
      obtain ⟨perception, hperception, rfl⟩ := Option.map_eq_some_iff.mp hnext
      exact h.detect hupcoming hperception
  | perception l =>
    cases l with
    | detect o => cases hnext
    | _ =>
      obtain ⟨perception, hperception, rfl⟩ := Option.map_eq_some_iff.mp hnext
      exact h.perceptionStep (by simp) hperception
  | lose i =>
    rw [System.next] at hnext
    split at hnext <;> cases hnext
    exact h.lose ‹_›
  | deliver =>
    rw [System.next] at hnext
    split at hnext
    · cases hnext
    · exact h.deliver hnext
  | callback clock | checker clock =>
    rw [System.next] at hnext
    split at hnext
    · cases hnext
    · obtain ⟨backend, hbackend, rfl⟩ := Option.map_eq_some_iff.mp hnext
      exact h.backendStep rfl hbackend

/-- The invariant holds of every reachable state. -/
theorem Inv.of_reachable (h : Reachable (System.next layer) (System.init entries) s) :
    Inv layer entries s :=
  h.invariant (P := Inv layer entries) (Inv.init layer entries) fun _ _ _ hinv _ hnext =>
    hinv.next hnext

/-! ## What follows -/

/-- The objects accepted are the first ones produced. -/
theorem Inv.accepted_prefix (h : Inv layer entries s) :
    s.perception.accepted <+: entries.map Entry.obj_info := by
  rw [h.produced, (Broker.Inv.of_reachable h.perception).forwarded, List.append_assoc,
    List.append_assoc]
  exact List.prefix_append _ _

/-- The messages delivered and in flight are some of those produced, in their order. -/
theorem Inv.sublist_produced (h : Inv layer entries s) :
    (s.delivered ++ s.in_flight).Sublist
      (entries.map fun entry => payload layer entry.obj_info) := by
  have haccepted := (h.accepted_prefix.sublist).map (payload layer)
  rw [List.map_map] at haccepted
  exact h.channel.trans haccepted

/-- A message delivered or in flight is that of an entry. -/
theorem Inv.exists_entry (h : Inv layer entries s) {message : Text}
    (hmessage : message ∈ s.delivered ++ s.in_flight) :
    ∃ entry ∈ entries, payload layer entry.obj_info = message :=
  List.mem_map.mp (h.sublist_produced.subset hmessage)

/-- Where all messages are read back, `on_message` does not raise. -/
theorem Inv.not_raised (h : Inv layer entries s)
    (hreadable : ∀ entry ∈ entries, Readable layer entry.obj_info) : ¬ s.raised = true := by
  intro hraised
  obtain ⟨message, hmessage, hperson⟩ := h.raised hraised
  obtain ⟨entry, hentry, rfl⟩ := h.exists_entry (List.mem_append_left _ hmessage)
  rw [(hreadable entry hentry).person_id] at hperson
  cases hperson

/-- When everything has come through and nothing was lost, everything produced was delivered. -/
theorem Inv.delivered_eq (h : Inv layer entries s) (hcomplete : Complete s) (hlost : s.lost = 0) :
    s.delivered = entries.map fun entry => payload layer entry.obj_info := by
  have hforwarded := (Broker.Inv.of_reachable h.perception).forwarded
  have hremaining : s.perception.sender.remaining s.perception.obj_list = [] := by
    rw [hcomplete.obj_list]
    cases s.perception.sender <;> rfl
  -- everything produced was pushed, everything pushed accepted
  have hproduced := h.produced
  rw [hcomplete.upcoming, hcomplete.probe, hforwarded, hremaining, held, List.map_nil,
    List.append_nil, List.append_nil, List.append_nil] at hproduced
  -- and everything accepted delivered
  have hchannel := h.channel
  have hcounted := h.counted
  rw [hcomplete.in_flight, List.append_nil] at hchannel
  rw [hcomplete.in_flight, hlost] at hcounted
  rw [hchannel.eq_of_length (by simpa using hcounted), ← hproduced, List.map_map]
  rfl

/-- And there is an entry alert about the person of every entry whose message is read back. -/
theorem Inv.entrada_of_complete (h : Inv layer entries s) (hcomplete : Complete s)
    (hlost : s.lost = 0) {entry : Entry} (hentry : entry ∈ entries)
    (hreadable : Readable layer entry.obj_info) :
    .entrada (personOf entry) ∈ s.backend.alerts := by
  have hperson : personOf entry ∈ s.persons layer := by
    refine List.mem_filterMap.mpr ⟨payload layer entry.obj_info, ?_, hreadable.person_id⟩
    rw [h.delivered_eq hcomplete hlost]
    exact List.mem_map.mpr ⟨entry, hentry, rfl⟩
  -- the callback thread is idle, so nobody delivered is still undecided
  refine (h.handled.answered _ hperson).resolve_left ?_
  rw [hcomplete.callback]
  exact Option.some_ne_none _ ∘ Eq.symm

end System

variable {layer : TextLayer Text} {calls : List ProbeCall} {s : System Text}

/-- **End-to-end safety.** In every state reached by any interleaving of the probe, the sender,
`main`, the connection and the two backend threads, on any probe calls, return codes, losses and
clock readings, and whatever the texts: the messages delivered, followed by those in flight, are
some of the messages of the entries produced, in their order and none twice; `on_message` has raised
on no message but one that is not read back as it was printed; every alert is about the person of an
entry whose message was delivered, unless that one is not read back; and the alerts about a person
alternate, starting with an entry. -/
theorem end_to_end_safe
    (h : Reachable (System.next layer) (System.init (produced calls)) s) :
    (s.delivered ++ s.in_flight).Sublist
        ((produced calls).map fun entry => payload layer entry.obj_info) ∧
      (s.raised = true → ∃ entry ∈ produced calls,
        payload layer entry.obj_info ∈ s.delivered ∧ ¬ Readable layer entry.obj_info) ∧
      (∀ a ∈ s.backend.alerts, ∃ entry ∈ produced calls,
        payload layer entry.obj_info ∈ s.delivered ∧
          (Readable layer entry.obj_info → a.id_persona = personOf entry)) ∧
      ∀ p, (s.backend.history p).IsChain (· ≠ ·) ∧
        ∀ r ∈ (s.backend.history p).head?, r = .enter := by
  have hinv := System.Inv.of_reachable h
  refine ⟨hinv.sublist_produced, fun hraised => ?_, fun a ha => ?_, fun p => ?_⟩
  · obtain ⟨message, hmessage, hperson⟩ := hinv.raised hraised
    obtain ⟨entry, hentry, rfl⟩ := hinv.exists_entry (List.mem_append_left _ hmessage)
    refine ⟨entry, hentry, hmessage, fun hreadable => ?_⟩
    rw [hreadable.person_id] at hperson
    cases hperson
  · obtain ⟨message, hmessage, hperson⟩ := List.mem_filterMap.mp (hinv.handled.alerted a ha)
    obtain ⟨entry, hentry, rfl⟩ := hinv.exists_entry (List.mem_append_left _ hmessage)
    refine ⟨entry, hentry, hmessage, fun hreadable => ?_⟩
    rw [hreadable.person_id] at hperson
    exact (Option.some.inj hperson).symm
  · have hhistory := (Threads.PersonInv.of_reachable hinv.backend p).history
    exact ⟨hhistory.isChain, hhistory.head?⟩

/-- **Every detection alerts.** When everything has come through and nothing was lost, the messages
of all entries produced were delivered, in order, and there is an entry alert about the person of
every one of them, if they are all read back. -/
theorem every_detection_alerts
    (h : Reachable (System.next layer) (System.init (produced calls)) s) (hcomplete : s.Complete)
    (hlost : s.lost = 0)
    (hreadable : ∀ entry ∈ produced calls, Readable layer entry.obj_info) :
    s.delivered = ((produced calls).map fun entry => payload layer entry.obj_info) ∧
      ∀ entry ∈ produced calls, .entrada (personOf entry) ∈ s.backend.alerts := by
  have hinv := System.Inv.of_reachable h
  exact ⟨hinv.delivered_eq hcomplete hlost, fun entry hentry =>
    hinv.entrada_of_complete hcomplete hlost hentry (hreadable entry hentry)⟩

/-- The steps that bring a detection from the probe into flight: the probe pushes it, the sender
publishes, pops and releases it. -/
def send : List SystemLabel :=
  [.detect] ++ List.replicate 4 (.perception .probe)
    ++ List.replicate 8 (.perception (.sender MOSQ_ERR_SUCCESS))

/-- The steps of one call of `on_message` for a person not inside. -/
def handle : List SystemLabel := .deliver :: List.replicate 6 (.callback 0)

/-- Two persons are detected, one after the other. -/
def twoPersons : List ProbeCall := [.sample 0 7 ["door"], .sample 0 8 ["door"]]

/-- A layer on which the message of the ninth person is not read back, as if a `nan` stood in it. -/
def nanLayer : TextLayer Json where
  json_to_string := id
  loads tree := match tree.member? "object_id" with
    | some (.int 9) => none
    | _ => some tree

/-- The first of three messages is lost, the second handled, and `on_message` raises on the third.
-/
theorem end_to_end_safe_lossy :
    ∃ s, exec (System.next nanLayer) (System.init (produced (twoPersons ++ [.sample 0 9 ["door"]])))
        (send ++ send ++ [.lose 0] ++ handle ++ send ++ [.deliver]) = some s ∧
      s.backend.alerts = [.entrada (.number 8)] ∧ s.raised = true ∧
      (∃ entry ∈ produced (twoPersons ++ [.sample 0 9 ["door"]]),
        payload nanLayer entry.obj_info ∈ s.delivered ∧ ¬ Readable nanLayer entry.obj_info) ∧
      (s.backend.history (.number 8)).IsChain (· ≠ ·) := by
  obtain ⟨s, hexec, halerts, hraised⟩ :
      ∃ s, exec (System.next nanLayer)
          (System.init (produced (twoPersons ++ [.sample 0 9 ["door"]])))
          (send ++ send ++ [.lose 0] ++ handle ++ send ++ [.deliver]) = some s ∧
        s.backend.alerts = [.entrada (.number 8)] ∧ s.raised = true := ⟨_, rfl, rfl, rfl⟩
  have hsafe := end_to_end_safe (reachable_of_exec hexec)
  exact ⟨s, hexec, halerts, hraised, hsafe.2.1 hraised, (hsafe.2.2.2 (.number 8)).1⟩

/-- Nothing is lost: an alert about each. -/
theorem every_detection_alerts_two :
    ∃ s, exec (System.next TextLayer.tree) (System.init (produced twoPersons))
        (send ++ send ++ handle ++ handle) = some s ∧
      ∀ entry ∈ produced twoPersons, .entrada (personOf entry) ∈ s.backend.alerts := by
  obtain ⟨s, hexec, hcomplete, hlost⟩ :
      ∃ s, exec (System.next TextLayer.tree) (System.init (produced twoPersons))
        (send ++ send ++ handle ++ handle) = some s ∧ s.Complete ∧ s.lost = 0 :=
    ⟨_, rfl, ⟨rfl, rfl, rfl, rfl, rfl⟩, rfl⟩
  exact ⟨s, hexec, (every_detection_alerts (reachable_of_exec hexec) hcomplete hlost
    fun _ _ => rfl).2⟩

end DemoColombia.Chain
