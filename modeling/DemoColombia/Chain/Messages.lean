import DemoColombia.Backend.Payload
import DemoColombia.Backend.Sessions
import DemoColombia.Perception.Probe

/-! # From the probe to the alerts

The whole chain: the entries the probe pushes are encoded by `set_mqtt_message`, printed, parsed by
the backend and handled by `on_message`, with sweeps of `check_no_change` in between. The messages
arrive in push order; the handling times are arbitrary.

Every message the perception side produces is understood (`person_id_message`), so a run of the
chain is a run of the backend's state machine on the person ids of the messages (`chainIssued_eq`,
`chainState_eq`). That is so for finite numbers and texts in UTF-8, which are all that an `ObjInfo`
has here: of a NaN or an infinity `nan` or `inf` is printed, on which `json.loads` raises. -/

namespace DemoColombia.Chain

open Backend Perception Watchdog

variable {Text : Type*} {κ : Type*}

/-- A call of the probe. -/
structure ProbeCall where
  ctx : AppCtx
  now : Int64
  buf : Buffer

/-- The entries a call pushes. -/
def ProbeCall.pushed (call : ProbeCall) : List Entry :=
  Perception.pushed (nvanalytics_src_pad_buffer_probe call.ctx call.now call.buf)

/-- The entries some calls push, in order. -/
def produced (calls : List ProbeCall) : List Entry := calls.flatMap ProbeCall.pushed

/-- What happens at the backend: the message of an entry is handled, or the checker sweeps. -/
inductive ChainEvent
  | message (entry : Entry) (t : ℚ)
  | sweep (now : ℚ)
  deriving DecidableEq

/-- The entry of a message. -/
def ChainEvent.entry? : ChainEvent → Option Entry
  | .message entry _ => some entry
  | .sweep _ => none

/-- The entries whose messages a run handles, in order. -/
def messagesOf (run : List ChainEvent) : List Entry := run.filterMap ChainEvent.entry?

/-- A call on one frame of a pad with one object, for concrete runs. -/
def ProbeCall.sample (pad_index : UInt32) (object_id : UInt64) (roiStatus : List String) :
    ProbeCall :=
  ⟨.sample, 0, .sample pad_index [.sample object_id [.analytics roiStatus]]⟩

/-- The entry it pushes. -/
def sampleEntry (pad_index : UInt32) (object_id : UInt64) (roiStatus : List String) : Entry :=
  let obj_meta := ObjectMeta.sample object_id [.analytics roiStatus]
  let frame_meta : FrameMeta := ⟨pad_index, 0, 0, [some obj_meta]⟩
  ⟨frame_meta, obj_meta, makeObjInfo .sample 0 frame_meta obj_meta ⟨roiStatus, 0, none⟩⟩

theorem pushed_sample (pad_index : UInt32) (object_id : UInt64) (roiStatus : List String) :
    (ProbeCall.sample pad_index object_id roiStatus).pushed
      = [sampleEntry pad_index object_id roiStatus] :=
  rfl

/-! ## A run of the chain -/

/-- One event; `none` where `on_message` raises. -/
def chainStep (wire : Wire Text) (ps : PersonState PersonKey) :
    ChainEvent → Option (PersonState PersonKey × List (Alert PersonKey))
  | .message entry t => on_payload wire ps (wire.json_to_string (set_mqtt_message entry.obj_info)) t
  | .sweep now => some (check_no_change ps now)

/-- The table after a run, if no event raises. -/
def chainState (wire : Wire Text) (ps : PersonState PersonKey) :
    List ChainEvent → Option (PersonState PersonKey)
  | [] => some ps
  | e :: run => (chainStep wire ps e).bind fun r => chainState wire r.1 run

/-- The alerts of a run, each with the tag of the event that issued it; an exception ends the run.
-/
def chainIssued (wire : Wire Text) : PersonState PersonKey → List (ChainEvent × κ) →
    List (Alert PersonKey × κ)
  | _, [] => []
  | ps, (e, k) :: run => match chainStep wire ps e with
    | some (ps', alerts) => alerts.map (·, k) ++ chainIssued wire ps' run
    | none => []

/-! ## What the backend sees -/

/-- The person the message of an entry is about. -/
def personOf (entry : Entry) : PersonKey := .number entry.obj_info.object_id_.toNat

/-- An event of the chain as the backend's state machine sees it. -/
def eventOf : ChainEvent → Event PersonKey
  | .message entry t => .msg (personOf entry) t
  | .sweep now => .sweep now

/-- The person a detection is filed under. -/
def personOfInfo (obj_info : ObjInfo) : PersonKey := .number obj_info.object_id_.toNat

/-- **Every message is understood**: the backend reads the object id of the detection. The numbers
are finite and the texts are UTF-8 here; `Readable` is what is left without that. -/
theorem person_id_set_mqtt_message (wire : Wire Text) (obj_info : ObjInfo) :
    person_id wire (wire.json_to_string (set_mqtt_message obj_info))
      = some (personOfInfo obj_info) := by
  -- the tree comes back from the text as it was, being flat
  rw [person_id, set_mqtt_message, wire.loads_json_to_string _ (flatObject_messageMembers _),
    Option.bind_some, ← set_mqtt_message, member?_object_id, Option.bind_some]
  simp [PersonKey.ofJson, personOfInfo]

/-- So is every produced message. -/
theorem person_id_message (wire : Wire Text) (entry : Entry) :
    person_id wire (wire.json_to_string (set_mqtt_message entry.obj_info))
      = some (personOf entry) :=
  person_id_set_mqtt_message wire entry.obj_info

/-- A step of the chain is a step of the state machine. -/
theorem chainStep_eq (wire : Wire Text) (ps : PersonState PersonKey) (e : ChainEvent) :
    chainStep wire ps e = some (step ps (eventOf e)) := by
  cases e with
  | message entry t =>
    rw [chainStep, on_payload, person_id_message]
    rfl
  | sweep now => rfl

/-- **No run of the chain raises**, and its table is that of the state machine. -/
theorem chainState_eq (wire : Wire Text) (run : List ChainEvent) :
    ∀ ps : PersonState PersonKey,
      chainState wire ps run = some (finalState ps (run.map eventOf)) := by
  induction run with
  | nil => intro ps; rfl
  | cons e run ih =>
    intro ps
    rw [chainState, chainStep_eq, Option.bind_some, ih]
    rfl

/-- **The alerts of the chain** are those of the state machine. -/
theorem chainIssued_eq (wire : Wire Text) (run : List (ChainEvent × κ)) :
    ∀ ps : PersonState PersonKey,
      chainIssued wire ps run = issued ps (run.map fun e => (eventOf e.1, e.2)) := by
  induction run with
  | nil => intro ps; rfl
  | cons ek run ih =>
    intro ps
    obtain ⟨e, k⟩ := ek
    rw [chainIssued, chainStep_eq, List.map_cons, issued]
    simp only [ih]

/-! ## Messages that may not be understood -/

/-- The payload of a detection. -/
def payload (layer : TextLayer Text) (obj_info : ObjInfo) : Text :=
  layer.json_to_string (set_mqtt_message obj_info)

/-- The message of a detection is read back as the tree it was printed from. The text of a NaN or
infinite confidence or embedding is not, nor is one that is not UTF-8. -/
def Readable (layer : TextLayer Text) (obj_info : ObjInfo) : Prop :=
  layer.loads (payload layer obj_info) = some (set_mqtt_message obj_info)

/-- A message that is read back is understood. -/
theorem Readable.person_id {layer : TextLayer Text} {obj_info : ObjInfo}
    (h : Readable layer obj_info) :
    read_person_id layer.loads (payload layer obj_info) = some (personOfInfo obj_info) := by
  rw [read_person_id, h, Option.bind_some, member?_object_id, Option.bind_some]
  simp [PersonKey.ofJson, personOfInfo]

end DemoColombia.Chain
