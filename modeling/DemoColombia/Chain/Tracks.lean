import DemoColombia.Chain.Messages

/-! # Which tracks share an alert history

The message carries the camera and the pad, but the backend files a person under `"object_id"`
alone. Two objects of different cameras with one object id are one person: the second causes no
entry alert while the first is inside (`shared_object_id`). Objects with different ids are
independent, as long as the ids survive the narrowing from 64 to 32 bits in `ObjInfo`
(`alerts_by_object_id`, `personOf_eq_personOf_iff`). -/

namespace DemoColombia.Chain

open Backend Perception Watchdog

variable {Text : Type*} {κ : Type*}

/-- The track an entry was built from: the pad of its camera and the tracker's id. -/
def track (entry : Entry) : UInt32 × UInt64 :=
  (entry.frame_meta.pad_index, entry.obj_meta.object_id)

/-- The sweeps, and the messages whose entries meet `keep`. -/
def ChainEvent.keeps (keep : Entry → Bool) : ChainEvent → Bool
  | .message entry _ => keep entry
  | .sweep _ => true

/-- The run on some of the messages, with the same sweeps. -/
def restrict (keep : Entry → Bool) (run : List (ChainEvent × κ)) : List (ChainEvent × κ) :=
  run.filter fun e => e.1.keeps keep

/-- What one would like to hold: in every run over the messages of some probe calls, the alerts
about the person of a track are those of the run on the messages of that track alone. -/
def TracksDistinct (wire : Wire Text) : Prop :=
  ∀ (calls : List ProbeCall) (run : List (ChainEvent × ℚ)),
    messagesOf (run.map Prod.fst) = produced calls → ∀ entry ∈ produced calls,
      alertsFor (personOf entry) (chainIssued wire Dict.empty run)
        = alertsFor (personOf entry)
          (chainIssued wire Dict.empty (restrict (fun e => track e = track entry) run))

/-- The ids of the objects on the sampled frames of a call fit in 32 bits. -/
def NarrowIds (call : ProbeCall) : Prop :=
  ∀ pReidTensor frame_meta obj_meta,
    SampledObject call.ctx call.buf pReidTensor frame_meta obj_meta →
    obj_meta.object_id.toNat < 2 ^ 32

/-- A produced entry carries the id of its object, narrowed. -/
theorem object_id_of_mem_pushed {call : ProbeCall} {entry : Entry} (h : entry ∈ call.pushed) :
    entry.obj_info.object_id_ = entry.obj_meta.object_id.toUInt32 ∧
      ∃ pReidTensor,
        SampledObject call.ctx call.buf pReidTensor entry.frame_meta entry.obj_meta := by
  obtain ⟨pReidTensor, frame_meta, obj_meta, hsampled, he⟩ := mem_pushed_probe.mp h
  obtain ⟨acc, -, rfl⟩ := entry_eq_of_mem he
  exact ⟨rfl, pReidTensor, hsampled⟩

/-- **What the backend files under**: two produced entries are about one person iff their object ids
agree in the low 32 bits, whatever their cameras. -/
theorem personOf_eq_personOf_iff {calls : List ProbeCall} {entry entry' : Entry}
    (h : entry ∈ produced calls) (h' : entry' ∈ produced calls) :
    personOf entry = personOf entry' ↔
      entry.obj_meta.object_id.toUInt32 = entry'.obj_meta.object_id.toUInt32 := by
  obtain ⟨call, -, hentry⟩ := List.mem_flatMap.mp h
  obtain ⟨call', -, hentry'⟩ := List.mem_flatMap.mp h'
  rw [personOf, personOf, (object_id_of_mem_pushed hentry).1, (object_id_of_mem_pushed hentry').1,
    PersonKey.number.injEq, Nat.cast_inj, UInt32.toNat_inj]

/-- With narrow ids the person of a produced entry is the object id itself. -/
theorem personOf_of_narrow {calls : List ProbeCall} (hids : ∀ call ∈ calls, NarrowIds call)
    {entry : Entry} (h : entry ∈ produced calls) :
    personOf entry = .number entry.obj_meta.object_id.toNat := by
  obtain ⟨call, hcall, hentry⟩ := List.mem_flatMap.mp h
  obtain ⟨hid, tensor, hsampled⟩ := object_id_of_mem_pushed hentry
  have hlt := hids call hcall _ _ _ hsampled
  rw [personOf, hid, UInt64.toNat_toUInt32, Nat.mod_eq_of_lt hlt]

/-- The message of an entry concerns exactly the entries of its object id. -/
theorem keeps_eq_concerns {calls : List ProbeCall} (hids : ∀ call ∈ calls, NarrowIds call)
    {entry : Entry} (hentry : entry ∈ produced calls) {e : ChainEvent}
    (he : ∀ m ∈ e.entry?, m ∈ produced calls) :
    e.keeps (fun m => m.obj_meta.object_id = entry.obj_meta.object_id)
      = concerns (personOf entry) (eventOf e) := by
  cases e with
  | sweep now => rfl
  | message m t =>
    have hm := personOf_of_narrow hids (he m rfl)
    rw [eventOf, concerns_msg, ChainEvent.keeps, hm, personOf_of_narrow hids hentry]
    simp [UInt64.toNat_inj]

/-- **Alerts go by object id.** In every run over the messages of probe calls whose object ids fit
in 32 bits, the alerts about a detected object, with the events that cause them, are those of the
run on the messages with its object id alone, of whatever camera; messages with other ids play no
part. -/
theorem alerts_by_object_id (wire : Wire Text) (calls : List ProbeCall)
    (run : List (ChainEvent × κ)) (hrun : messagesOf (run.map Prod.fst) = produced calls)
    (hids : ∀ call ∈ calls, NarrowIds call) :
    ∀ entry ∈ produced calls,
      personOf entry = .number entry.obj_meta.object_id.toNat ∧
      alertsFor (personOf entry) (chainIssued wire Dict.empty run)
        = alertsFor (personOf entry) (chainIssued wire Dict.empty
            (restrict (fun e => e.obj_meta.object_id = entry.obj_meta.object_id) run)) := by
  intro entry hentry
  refine ⟨personOf_of_narrow hids hentry, ?_⟩
  -- keeping the messages of the object id keeps what concerns its person
  have hrestrict : (restrict (fun e => e.obj_meta.object_id = entry.obj_meta.object_id) run).map
        (fun e => (eventOf e.1, e.2))
      = (run.map fun e => (eventOf e.1, e.2)).filter fun e => concerns (personOf entry) e.1 := by
    rw [restrict, List.filter_map]
    congr 1
    refine List.filter_congr fun e he => keeps_eq_concerns hids hentry fun m hm => ?_
    rw [← hrun]
    exact List.mem_filterMap.mpr ⟨e.1, List.mem_map_of_mem he, hm⟩
  rw [chainIssued_eq, chainIssued_eq, hrestrict]
  exact (alertsFor_filter Dict.empty (personOf entry) (concerns (personOf entry))
    (fun _ h => h) _).symm

/-- The calls of two cameras that see an object each, one after the other. -/
theorem produced_two (id₁ id₂ : UInt64) :
    produced [.sample 0 id₁ ["door"], .sample 1 id₂ ["door"]]
      = [sampleEntry 0 id₁ ["door"], sampleEntry 1 id₂ ["door"]] := by
  rw [produced, List.flatMap_cons, List.flatMap_cons, pushed_sample, pushed_sample]
  rfl

/-- Two cameras with objects `7` and `8`: the alert about `8`, at time `1`, is the one it causes
alone. -/
theorem alerts_by_object_id_two :
    (∀ call ∈ [ProbeCall.sample 0 7 ["door"], .sample 1 8 ["door"]], NarrowIds call) ∧
      alertsFor (.number 8) (chainIssued Wire.tree Dict.empty
          [(.message (sampleEntry 0 7 ["door"]) 0, (0 : ℚ)),
            (.message (sampleEntry 1 8 ["door"]) 1, 1)])
        = alertsFor (.number 8) (chainIssued Wire.tree Dict.empty
          [(.message (sampleEntry 1 8 ["door"]) 1, (1 : ℚ))]) := by
  have hids : ∀ call ∈ [ProbeCall.sample 0 7 ["door"], .sample 1 8 ["door"]], NarrowIds call := by
    intro call hcall tensor frame_meta obj_meta hsampled
    obtain ⟨batch_meta, hbatch, hframe, hobj, -, -⟩ := hsampled
    rcases List.mem_cons.mp hcall with rfl | hcall
    · cases hbatch
      obtain rfl : frame_meta = _ := by simpa using hframe
      obtain rfl : obj_meta = _ := by simpa using hobj
      decide
    · obtain rfl := List.mem_singleton.mp hcall
      cases hbatch
      obtain rfl : frame_meta = _ := by simpa using hframe
      obtain rfl : obj_meta = _ := by simpa using hobj
      decide
  have halerts := (alerts_by_object_id Wire.tree [.sample 0 7 ["door"], .sample 1 8 ["door"]]
    [(.message (sampleEntry 0 7 ["door"]) 0, (0 : ℚ)), (.message (sampleEntry 1 8 ["door"]) 1, 1)]
    (by rw [produced_two]; rfl) hids (sampleEntry 1 8 ["door"])
    (by rw [produced_two]; exact List.mem_cons_of_mem _ (List.mem_singleton_self _)))
  exact ⟨hids, halerts.2⟩

/-- **Two tracks, one person.** Cameras `0` and `1` each track an object `7`, seen at the times `0`
and `1`: the entry alert at time `1`, which the second track causes alone, is not issued. -/
theorem shared_object_id : ¬ TracksDistinct Wire.tree := by
  intro hdistinct
  have heq := hdistinct [.sample 0 7 ["door"], .sample 1 7 ["door"]]
    [(.message (sampleEntry 0 7 ["door"]) 0, 0), (.message (sampleEntry 1 7 ["door"]) 1, 1)]
    (by rw [produced_two]; rfl) (sampleEntry 1 7 ["door"])
    (by rw [produced_two]; exact List.mem_cons_of_mem _ (List.mem_singleton_self _))
  rw [chainIssued_eq, chainIssued_eq] at heq
  -- left: one entry at `0`; right: one entry at `1`
  revert heq
  decide +kernel

end DemoColombia.Chain
