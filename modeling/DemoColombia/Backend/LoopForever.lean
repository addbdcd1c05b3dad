import DemoColombia.Backend.Payload

/-! # The MQTT loop of the backend, payload by payload

`main` starts the checker as a daemon thread and then runs `loop_forever`. `on_message` decodes the
bytes of a payload, parses the text, subscripts the result and looks the person up; each of the four
steps can raise, and nothing between `on_message` and the end of `main` catches the exception. So
the first malformed payload ends the process, and the checker with it.

* `PyValue` — everything `json.loads` returns, infinite floats, NaN and lone surrogates included.
* `object_id_isSome` — `on_message` raises exactly on the payloads that are not `WellFormed`.
* `malformed_noop_iff` — when the malformed payloads of a sequence make no difference. -/

namespace DemoColombia.Backend

/-! ## Values and keys -/

/-- A Python `float`. -/
inductive PyFloat
  | finite (x : ℚ)
  | inf (negative : Bool)
  | nan
  deriving DecidableEq

/-- A value that `json.loads` returns. A `str` is the list of its code points, among which an escape
can put lone surrogates. -/
inductive PyValue
  | none
  | bool (b : Bool)
  | int (n : ℤ)
  | float (x : PyFloat)
  | str (s : List ℕ)
  | list (elements : List PyValue)
  /-- The members in the order of the text. -/
  | dict (members : List (List ℕ × PyValue))

/-- A hashable value as a dictionary key, up to Python's equality. `json` has one NaN object, which
a dictionary finds by identity. -/
inductive PyKey
  | none
  /-- A finite number, or a bool counted as one. -/
  | number (x : ℚ)
  | inf (negative : Bool)
  | nan
  | str (s : List ℕ)
  deriving DecidableEq

/-- The code points of a text. -/
def codePoints (s : String) : List ℕ := s.toList.map Char.toNat

/-- `value[key]` for a text `key`; `none` where it raises. -/
def PyValue.getItem (key : String) : PyValue → Option PyValue
  -- a member that is repeated counts as the last one, a missing one is a `KeyError`
  | .dict members => (members.reverse.find? (·.1 = codePoints key)).map Prod.snd
  -- a `TypeError`: no subscript, or an index that is not a number
  | .none | .bool _ | .int _ | .float _ | .str _ | .list _ => Option.none

/-- A value as a key of `person_state`; `none` where hashing it raises. -/
def PyValue.asKey : PyValue → Option PyKey
  | .none => some .none
  | .bool b => some (.number (if b then 1 else 0))
  | .int n => some (.number n)
  | .float (.finite x) => some (.number x)
  | .float (.inf negative) => some (.inf negative)
  | .float .nan => some .nan
  | .str s => some (.str s)
  -- `TypeError: unhashable type`
  | .list _ | .dict _ => Option.none

/-- An array or an object. -/
def PyValue.IsContainer : PyValue → Prop
  | .list _ | .dict _ => True
  | .none | .bool _ | .int _ | .float _ | .str _ => False

/-- `json.loads(msg.payload.decode('utf-8'))["object_id"]` as a key of `person_state`; `none` where
one of the steps raises, which is before any access to `person_state`. -/
def object_id (loads : String → Option PyValue) (payload : ByteArray) : Option PyKey :=
  (String.fromUTF8? payload).bind fun text =>
    (loads text).bind fun value => (value.getItem "object_id").bind PyValue.asKey

/-- UTF-8 text of a JSON object with a member `object_id` that is no array and no object. -/
def WellFormed (loads : String → Option PyValue) (payload : ByteArray) : Prop :=
  ∃ text members value, String.fromUTF8? payload = some text ∧ loads text = some (.dict members) ∧
    (PyValue.dict members).getItem "object_id" = some value ∧ ¬ value.IsContainer

theorem PyValue.asKey_isSome {value : PyValue} : value.asKey.isSome ↔ ¬ value.IsContainer := by
  cases value with
  | float x => cases x <;> simp [asKey, IsContainer]
  | _ => simp [asKey, IsContainer]

/-- Only an object has a member. -/
theorem PyValue.exists_members_of_getItem {value item : PyValue} {key : String}
    (h : value.getItem key = some item) : ∃ members, value = .dict members := by
  cases value with
  | dict members => exact ⟨members, rfl⟩
  | _ => cases h

/-- **`on_message` reads a person id exactly from the well-formed payloads.** -/
theorem object_id_isSome {loads : String → Option PyValue} {payload : ByteArray} :
    (object_id loads payload).isSome ↔ WellFormed loads payload := by
  constructor
  · intro hsome
    obtain ⟨key, hkey⟩ := Option.isSome_iff_exists.mp hsome
    obtain ⟨text, htext, hloads⟩ := Option.bind_eq_some_iff.mp hkey
    obtain ⟨value, hvalue, hgetItem⟩ := Option.bind_eq_some_iff.mp hloads
    obtain ⟨item, hitem, hasKey⟩ := Option.bind_eq_some_iff.mp hgetItem
    have hscalar : ¬ item.IsContainer := PyValue.asKey_isSome.mp (by rw [hasKey]; rfl)
    obtain ⟨members, rfl⟩ := PyValue.exists_members_of_getItem hitem
    exact ⟨text, members, item, htext, hvalue, hitem, hscalar⟩
  · rintro ⟨text, members, value, htext, hobject, hvalue, hscalar⟩
    rw [object_id, htext, Option.bind_some, hobject, Option.bind_some, hvalue, Option.bind_some]
    exact PyValue.asKey_isSome.mpr hscalar

instance (loads : String → Option PyValue) (payload : ByteArray) :
    Decidable (WellFormed loads payload) :=
  decidable_of_iff _ object_id_isSome

/-! ## The values of `Json` among them -/

mutual

/-- A JSON tree as `json.loads` returns it. -/
def PyValue.ofJson : Json → PyValue
  | .null => .none
  | .bool b => .bool b
  | .int n => .int n
  | .double x => .float (.finite x)
  | .string s => .str (codePoints s)
  | .array elements => .list (ofElements elements)
  | .object members => .dict (ofMembers members)

def PyValue.ofElements : List Json → List PyValue
  | [] => []
  | e :: es => ofJson e :: ofElements es

def PyValue.ofMembers : List (String × Json) → List (List ℕ × PyValue)
  | [] => []
  | (key, value) :: ms => (codePoints key, ofJson value) :: ofMembers ms

end

/-- A key of the smaller type. -/
def PyKey.ofPersonKey : PersonKey → PyKey
  | .none => .none
  | .number x => .number x
  | .text s => .str (codePoints s)

theorem codePoints_inj {s t : String} : codePoints s = codePoints t ↔ s = t := by
  have hinj : Function.Injective Char.toNat := fun c d h => Char.toNat_inj.mp h
  rw [codePoints, codePoints, List.map_inj_right hinj, String.toList_inj]

theorem PyValue.ofMembers_eq_map (ms : List (String × Json)) :
    ofMembers ms = ms.map fun m => (codePoints m.1, ofJson m.2) := by
  induction ms with
  | nil => rw [ofMembers, List.map_nil]
  | cons m ms ih => rw [ofMembers, ih, List.map_cons]

theorem PyValue.asKey_ofJson (value : Json) :
    (ofJson value).asKey = (PersonKey.ofJson value).map PyKey.ofPersonKey := by
  cases value <;> rw [ofJson] <;> rfl

theorem PyValue.getItem_ofJson (key : String) (value : Json) :
    (ofJson value).getItem key = (value.member? key).map ofJson := by
  cases value with
  | object members =>
    rw [ofJson, getItem, Json.member?, ofMembers_eq_map, ← List.map_reverse, List.find?_map]
    simp only [Function.comp_def, codePoints_inj, Option.map_map]
  | _ => rw [ofJson]; rfl

/-- **The two readings of a payload agree** wherever the text layer gives a tree. -/
theorem object_id_eq_person_id (wire : Wire ByteArray) {loads : String → Option PyValue}
    {payload : ByteArray} (hloads : (String.fromUTF8? payload).bind loads
      = (wire.loads payload).map PyValue.ofJson) :
    object_id loads payload = (person_id wire payload).map PyKey.ofPersonKey := by
  have hbind : object_id loads payload = ((String.fromUTF8? payload).bind loads).bind fun value =>
      (value.getItem "object_id").bind PyValue.asKey := (Option.bind_assoc _ _ _).symm
  rw [hbind, hloads, person_id]
  cases wire.loads payload with
  | none => rfl
  | some value =>
    show ((PyValue.ofJson value).getItem "object_id").bind PyValue.asKey
      = ((value.member? "object_id").bind PersonKey.ofJson).map PyKey.ofPersonKey
    rw [PyValue.getItem_ofJson]
    cases value.member? "object_id" with
    | none => rfl
    | some item => exact PyValue.asKey_ofJson item

/-! ## The process -/

/-- What happens to the backend: a payload arrives and is handled at `clock`, or the checker sweeps
the table. -/
inductive Occurrence
  | message (payload : ByteArray) (clock : ℚ)
  | sweep (now : ℚ)

/-- The backend: its table, the alerts it issued, the payloads it handled to the end, and whether it
is still running. -/
structure Process where
  person_state : PersonState PyKey
  alerts : List (Alert PyKey)
  handled : List (ByteArray × ℚ)
  running : Bool

/-- The step of the table that an occurrence asks for; `none` where `on_message` raises. -/
def Occurrence.event? (loads : String → Option PyValue) : Occurrence → Option (Event PyKey)
  | .message payload clock => (object_id loads payload).map fun person_id => .msg person_id clock
  | .sweep now => some (.sweep now)

/-- The payload of an occurrence. -/
def Occurrence.deliveries : Occurrence → List (ByteArray × ℚ)
  | .message payload clock => [(payload, clock)]
  | .sweep _ => []

namespace Process

/-- The backend as `main` starts it. -/
def start : Process := ⟨.empty, [], [], true⟩

/-- One occurrence. An exception leaves `loop_forever` and ends the process. -/
def next (loads : String → Option PyValue) (s : Process) (o : Occurrence) : Process :=
  if s.running then
    match o.event? loads with
    | none => { s with running := false }
    | some e =>
      let (person_state, alerts) := step s.person_state e
      { s with
        person_state := person_state
        alerts := s.alerts ++ alerts
        handled := s.handled ++ o.deliveries }
  else s

/-- A sequence of occurrences. -/
def run (loads : String → Option PyValue) (s : Process) (os : List Occurrence) : Process :=
  os.foldl (next loads) s

/-- The two agree on the table, the alerts and the payloads handled. -/
def Agrees (s t : Process) : Prop :=
  s.person_state = t.person_state ∧ s.alerts = t.alerts ∧ s.handled = t.handled

/-- Nothing comes of the occurrence in the state `s`: a payload is malformed, a sweep finds nobody
gone. -/
def Idle (loads : String → Option PyValue) (s : Process) : Occurrence → Prop
  | .message payload _ => ¬ WellFormed loads payload
  | .sweep now => ∀ p state, s.person_state.get? p = some state →
      ¬ (state.inside_roi = true ∧ expired now state.last_update = true)

end Process

/-- A sweep, or a well-formed payload. -/
def Occurrence.WellFormed (loads : String → Option PyValue) : Occurrence → Prop
  | .message payload _ => Backend.WellFormed loads payload
  | .sweep _ => True

instance (loads : String → Option PyValue) : DecidablePred (Occurrence.WellFormed loads)
  | .message payload _ => inferInstanceAs (Decidable (WellFormed loads payload))
  | .sweep _ => isTrue trivial

variable {loads : String → Option PyValue} {s : Process} {o : Occurrence} {os : List Occurrence}

theorem Occurrence.event?_isSome : (o.event? loads).isSome ↔ o.WellFormed loads := by
  cases o with
  | message payload clock =>
    rw [event?, Option.isSome_map]
    exact object_id_isSome
  | sweep now => exact iff_of_true rfl trivial

/-! ## Sweeps that find nobody -/

/-- A sweep that finds nobody gone changes nothing. -/
theorem check_no_change_of_idle {ps : PersonState PyKey} {now : ℚ}
    (h : ∀ p state, ps.get? p = some state →
      ¬ (state.inside_roi = true ∧ expired now state.last_update = true)) :
    check_no_change ps now = (ps, []) := by
  refine List.foldlRecOn (motive := fun acc => acc = (ps, [])) _ _ rfl fun acc hacc p _ => ?_
  subst hacc
  unfold checkPerson
  split
  · rename_i state hstate
    have hnot := h p state hstate
    rw [if_neg (by simpa using hnot)]
  · rfl

/-- A sweep without an alert has found nobody gone. -/
theorem idle_of_check_no_change {ps : PersonState PyKey} {now : ℚ}
    (h : (check_no_change ps now).2 = []) (p : PyKey) (state : PersonRecord)
    (hstate : ps.get? p = some state) :
    ¬ (state.inside_roi = true ∧ expired now state.last_update = true) := by
  rintro ⟨hinside, hexpired⟩
  have halerts := check_no_change_alerts ps now p
  rw [h, watchOf, hstate] at halerts
  simp [Watchdog.report, hinside, hexpired] at halerts

/-! ## Runs of the process -/

namespace Process

theorem run_cons : s.run loads (o :: os) = (s.next loads o).run loads os := rfl

/-- A process that has ended stays as it is. -/
theorem run_of_ended (h : s.running = false) : s.run loads os = s := by
  refine List.foldlRecOn (motive := fun t => t = s) _ _ rfl fun t ht o _ => ?_
  rw [ht, next, h]
  rfl

/-- **A malformed payload ends the process.** -/
theorem next_of_malformed (hs : s.running = true) (ho : ¬ o.WellFormed loads) :
    s.next loads o = { s with running := false } := by
  have hevent : o.event? loads = none := by
    rw [← Option.not_isSome_iff_eq_none, Occurrence.event?_isSome]
    exact ho
  rw [next, if_pos hs, hevent]

/-- Any other occurrence is a step of the table. -/
theorem next_of_event {e : Event PyKey} (hs : s.running = true) (he : o.event? loads = some e) :
    s.next loads o = ⟨(step s.person_state e).1, s.alerts ++ (step s.person_state e).2,
      s.handled ++ o.deliveries, true⟩ := by
  rw [next, if_pos hs, he, hs]

theorem running_next (hs : s.running = true) (ho : o.WellFormed loads) :
    (s.next loads o).running = true := by
  obtain ⟨e, he⟩ := Option.isSome_iff_exists.mp (Occurrence.event?_isSome.mpr ho)
  rw [next_of_event hs he]

/-- The alerts and the payloads handled only grow. -/
theorem prefix_next : s.alerts <+: (s.next loads o).alerts ∧
    s.handled <+: (s.next loads o).handled := by
  rw [next]
  split
  · split
    · exact ⟨List.prefix_refl _, List.prefix_refl _⟩
    · exact ⟨List.prefix_append _ _, List.prefix_append _ _⟩
  · exact ⟨List.prefix_refl _, List.prefix_refl _⟩

theorem prefix_run : s.alerts <+: (s.run loads os).alerts ∧
    s.handled <+: (s.run loads os).handled := by
  refine List.foldlRecOn (motive := fun t : Process => s.alerts <+: t.alerts ∧
    s.handled <+: t.handled) _ _ ⟨List.prefix_refl _, List.prefix_refl _⟩ fun t ht o _ => ?_
  exact ⟨ht.1.trans prefix_next.1, ht.2.trans prefix_next.2⟩

/-- A step after which nothing has come of the occurrence was none: the occurrence is idle. -/
theorem idle_of_next (hs : s.running = true) (ho : o.WellFormed loads)
    (halerts : (s.next loads o).alerts = s.alerts)
    (hhandled : (s.next loads o).handled = s.handled) :
    s.Idle loads o ∧ s.next loads o = s := by
  cases o with
  | message payload clock =>
    obtain ⟨e, he⟩ := Option.isSome_iff_exists.mp (Occurrence.event?_isSome.mpr ho)
    rw [next_of_event hs he] at hhandled
    exact absurd (List.append_right_eq_self.mp hhandled) (List.cons_ne_nil _ _)
  | sweep now =>
    rw [next_of_event hs rfl] at halerts ⊢
    have hidle := idle_of_check_no_change (List.append_right_eq_self.mp halerts)
    refine ⟨hidle, ?_⟩
    simp [step, check_no_change_of_idle hidle, Occurrence.deliveries, ← hs]

/-- An idle occurrence of a well-formed sequence is a sweep that changes nothing. -/
theorem next_of_idle (hs : s.running = true) (ho : o.WellFormed loads) (hidle : s.Idle loads o) :
    s.next loads o = s := by
  cases o with
  | message payload clock => exact absurd ho hidle
  | sweep now =>
    rw [next_of_event hs rfl]
    simp [step, check_no_change_of_idle hidle, Occurrence.deliveries, ← hs]

/-- **A well-formed sequence leaves no trace iff all of it is idle.** The induction is on the
sequence; the process stays in `s` throughout. -/
theorem agrees_run_iff (hs : s.running = true) (hos : ∀ o ∈ os, o.WellFormed loads) :
    s.Agrees (s.run loads os) ↔ ∀ o ∈ os, s.Idle loads o := by
  induction os with
  | nil => exact iff_of_true ⟨rfl, rfl, rfl⟩ fun _ ho => absurd ho List.not_mem_nil
  | cons o os ih =>
    obtain ⟨ho, hos⟩ := List.forall_mem_cons.mp hos
    rw [List.forall_mem_cons, run_cons]
    constructor
    · rintro ⟨hstate, halerts, hhandled⟩
      -- what the first step issued or handled would still be there at the end
      obtain ⟨hnext, hnext'⟩ : s.alerts <+: (s.next loads o).alerts ∧
        s.handled <+: (s.next loads o).handled := prefix_next
      obtain ⟨hrun, hrun'⟩ : (s.next loads o).alerts <+: ((s.next loads o).run loads os).alerts ∧
        (s.next loads o).handled <+: ((s.next loads o).run loads os).handled := prefix_run
      rw [← halerts] at hrun
      rw [← hhandled] at hrun'
      obtain ⟨hidle, hsame⟩ := idle_of_next hs ho
        (hrun.eq_of_length_le hnext.length_le) (hrun'.eq_of_length_le hnext'.length_le)
      rw [hsame] at hstate halerts hhandled
      exact ⟨hidle, (ih hos).mp ⟨hstate, halerts, hhandled⟩⟩
    · rintro ⟨hidle, hrest⟩
      rw [next_of_idle hs ho hidle]
      exact (ih hos).mpr hrest

/-- Behind a malformed payload nothing is handled any more. -/
theorem agrees_run_of_malformed (hs : s.running = true) (ho : ¬ o.WellFormed loads) :
    (s.run loads (o :: os)).Agrees (s.run loads ((o :: os).filter fun o => o.WellFormed loads)) ↔
      ∀ o ∈ os, s.Idle loads o := by
  rw [run_cons, next_of_malformed hs ho, run_of_ended rfl,
    List.filter_cons_of_neg (by simpa using ho)]
  apply (agrees_run_iff hs fun o ho => by simpa using List.of_mem_filter ho).trans
  refine ⟨fun h o ho => ?_, fun h o ho => h o (List.mem_of_mem_filter ho)⟩
  by_cases hgood : o.WellFormed loads
  · exact h o (List.mem_filter.mpr ⟨ho, by simpa using hgood⟩)
  · cases o with
    | message payload clock => exact hgood
    | sweep now => exact absurd trivial hgood

/-- The induction behind `malformed_noop_iff`, from any state of a running process. -/
theorem agrees_filter_iff (hs : s.running = true) :
    (s.run loads os).Agrees (s.run loads (os.filter fun o => o.WellFormed loads)) ↔
      ∀ before bad after, os = before ++ bad :: after → (∀ o ∈ before, o.WellFormed loads) →
        ¬ bad.WellFormed loads → ∀ o ∈ after, (s.run loads before).Idle loads o := by
  induction os generalizing s with
  | nil =>
    refine iff_of_true ⟨rfl, rfl, rfl⟩ fun before bad after h => ?_
    exact absurd h.symm (List.append_ne_nil_of_right_ne_nil _ (List.cons_ne_nil _ _))
  | cons o os ih =>
    by_cases ho : o.WellFormed loads
    · -- a well-formed head is handled by both, and belongs to what comes before
      rw [run_cons, List.filter_cons_of_pos (by simpa using ho), run_cons,
        ih (running_next hs ho)]
      constructor
      · rintro h (_ | ⟨c, before⟩) bad after happend hbefore hbad
        · obtain ⟨rfl, -⟩ := List.cons.inj happend
          exact absurd ho hbad
        · obtain ⟨rfl, hrest⟩ := List.cons.inj happend
          exact h before bad after hrest (List.forall_mem_cons.mp hbefore).2 hbad
      · intro h before bad after happend hbefore hbad
        exact h (o :: before) bad after (congrArg _ happend)
          (List.forall_mem_cons.mpr ⟨ho, hbefore⟩) hbad
    · rw [agrees_run_of_malformed hs ho]
      constructor
      · rintro h (_ | ⟨c, before⟩) bad after happend hbefore hbad
        · obtain ⟨rfl, rfl⟩ := List.cons.inj happend
          exact h
        · obtain ⟨rfl, -⟩ := List.cons.inj happend
          exact absurd (hbefore _ List.mem_cons_self) ho
      · intro h
        exact h [] o os rfl (fun _ hmem => absurd hmem List.not_mem_nil) ho

end Process

/-- **When malformed payloads make no difference.** For every reading of JSON texts and every
sequence of payload byte strings, handled at any times and with any sweeps of the checker in
between: the table, the alerts and the payloads handled are those of the sequence without the
malformed payloads iff nothing comes of what follows the first malformed payload, that is, there is
no well-formed payload behind it and no sweep behind it finds a person gone. -/
theorem malformed_noop_iff (loads : String → Option PyValue) (os : List Occurrence) :
    (Process.start.run loads os).Agrees
        (Process.start.run loads (os.filter fun o => o.WellFormed loads)) ↔
      ∀ before bad after, os = before ++ bad :: after → (∀ o ∈ before, o.WellFormed loads) →
        ¬ bad.WellFormed loads → ∀ o ∈ after, (Process.start.run loads before).Idle loads o :=
  Process.agrees_filter_iff rfl

/-- The well-formed sequence is handled to its end. -/
theorem handled_run_of_wellFormed (os : List Occurrence) (hos : ∀ o ∈ os, o.WellFormed loads) :
    (Process.start.run loads os).running = true ∧
      (Process.start.run loads os).handled = os.flatMap Occurrence.deliveries := by
  induction os using List.reverseRecOn with
  | nil => exact ⟨rfl, rfl⟩
  | append_singleton os o ih =>
    obtain ⟨hrunning, hhandled⟩ := ih fun o ho => hos o (List.mem_append_left _ ho)
    have ho : o.WellFormed loads := hos o (by simp)
    obtain ⟨e, he⟩ := Option.isSome_iff_exists.mp (Occurrence.event?_isSome.mpr ho)
    have hrun : Process.start.run loads (os ++ [o])
        = (Process.start.run loads os).next loads o := by
      rw [Process.run, List.foldl_append]
      rfl
    rw [hrun, Process.next_of_event hrunning he]
    exact ⟨rfl, by simp [hhandled]⟩

/-- The text of a message about person `1`. -/
def personText : String := "\x7b\"object_id\": 1\x7d"

/-- What `json.loads` makes of that text. -/
def loadsPerson (text : String) : Option PyValue :=
  if text = personText then some (.dict [(codePoints "object_id", .int 1)]) else none

/-- **One byte ends the backend.** The payload `FF` is not UTF-8; the person in the payload that
follows it is never registered. -/
theorem bad_byte_ends_backend :
    ¬ ∀ (loads : String → Option PyValue) (os : List Occurrence),
      (Process.start.run loads os).Agrees
        (Process.start.run loads (os.filter fun o => o.WellFormed loads)) := by
  intro hall
  obtain ⟨-, -, hhandled⟩ :=
    hall loadsPerson [.message ⟨#[0xff]⟩ 0, .message personText.toUTF8 1]
  have hlength := congrArg List.length hhandled
  revert hlength
  decide +kernel

end DemoColombia.Backend
