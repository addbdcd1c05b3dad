import DemoColombia.Chain.Messages

/-! # Does `inside_roi` mean inside a ROI?

The probe pushes an entry for every user meta of an object, whether or not any of them has put the
object in a ROI, and `on_message` never looks at `"roi"`: the message of an object outside every ROI
enters its person all the same (`entered_without_roi`). The flag means what it says exactly when the
probe produces no message with an empty `"roi"`, that is, when the first user meta of every object
on a sampled frame is an analytics meta with a label (`roi_gated_iff`). -/

namespace DemoColombia.Chain

open Backend Perception Watchdog

variable {Text : Type*}

/-! ## The property -/

/-- The handling time of a message of `p` with a nonempty `"roi"`. -/
def ChainEvent.roiStamp? (p : PersonKey) : ChainEvent → Option ℚ
  | .message entry t => if personOf entry = p ∧ entry.obj_info.roi_ ≠ [] then some t else none
  | .sweep _ => none

/-- **ROI gating** of a run of the chain, from the empty table. -/
structure RoiGated (wire : Wire Text) (run : List ChainEvent) : Prop where
  /-- An entry alert is issued only on a message of its person with a nonempty `"roi"`. -/
  entries : ∀ pre e post ps ps' alerts, run = pre ++ e :: post →
    chainState wire Dict.empty pre = some ps → chainStep wire ps e = some (ps', alerts) →
    ∀ p, .entrada p ∈ alerts → ∃ t, e.roiStamp? p = some t
  /-- A person without such a message causes no alert and is never inside. -/
  outsiders : ∀ p, (∀ e ∈ run, e.roiStamp? p = none) →
    alertsFor p (chainIssued wire Dict.empty run.zipIdx) = [] ∧
      ∀ pre ps, pre <+: run → chainState wire Dict.empty pre = some ps → ps.inside p = false
  /-- A person inside whose last such message has expired at a sweep gets the exit alert. -/
  exits : ∀ pre now post ps, run = pre ++ .sweep now :: post →
    chainState wire Dict.empty pre = some ps → ∀ p, ps.inside p = true →
    ∀ t, (pre.filterMap (·.roiStamp? p)).getLast? = some t → expired now t = true →
      .salida p ∈ (check_no_change ps now).2

/-- The labels a user meta contributes. -/
def labelsOf : UserMeta → List String
  | .analytics roiStatus => roiStatus
  | _ => []

/-- The first user meta of every object on a sampled frame of the call, where it has one, is an
analytics meta with a label. -/
def FirstMetaInRoi (call : ProbeCall) : Prop :=
  ∀ pReidTensor frame_meta obj_meta,
    SampledObject call.ctx call.buf pReidTensor frame_meta obj_meta →
    ∀ user_meta ∈ obj_meta.obj_user_meta_list.head?, labelsOf user_meta ≠ []

/-! ## What the probe produces -/

/-- From an empty accumulator the first user meta leaves its own labels. -/
theorem roi_list_read_init (pReidTensor : Option ReidTensorBatch) (user_meta : UserMeta) :
    (Accumulated.init.read pReidTensor user_meta).roi_list = labelsOf user_meta := by
  unfold Accumulated.read
  split
  · rfl
  · split
    · split <;> rfl
    · rfl
  · rfl

/-- **The entries of a call all have labels iff every first meta has one**: the labels only
accumulate. -/
theorem roi_ne_nil_iff (call : ProbeCall) :
    (∀ entry ∈ call.pushed, entry.obj_info.roi_ ≠ []) ↔ FirstMetaInRoi call := by
  constructor
  · -- the entry pushed for the first meta carries the labels of this meta alone
    intro hall tensor frame_meta obj_meta hsampled user_meta hhead
    obtain ⟨metas, hmetas⟩ := List.head?_eq_some_iff.mp hhead
    have hfirst := hall
      ⟨frame_meta, obj_meta, makeObjInfo call.ctx call.now frame_meta obj_meta
        (Accumulated.init.read tensor user_meta)⟩
      (mem_pushed_probe.mpr ⟨tensor, frame_meta, obj_meta, hsampled, by
        rw [hmetas, pushed_userMetaLoop_cons hsampled.frame_sampled]
        exact List.mem_cons_self⟩)
    rwa [← roi_list_read_init tensor]
  · intro hfirst entry hentry
    obtain ⟨tensor, frame_meta, obj_meta, hsampled, he⟩ := mem_pushed_probe.mp hentry
    cases hmetas : obj_meta.obj_user_meta_list with
    | nil =>
      rw [hmetas] at he
      cases he
    | cons user_meta metas =>
      have hlabels := hfirst tensor frame_meta obj_meta hsampled user_meta (by rw [hmetas]; rfl)
      rw [← roi_list_read_init tensor] at hlabels
      rw [hmetas, pushed_userMetaLoop_cons hsampled.frame_sampled] at he
      -- the first entry has these labels, and every later one has them and more
      rcases List.mem_cons.mp he with rfl | he
      · exact hlabels
      · obtain ⟨acc, hprefix, rfl⟩ := entry_eq_of_mem he
        intro hnil
        exact hlabels (List.prefix_nil.mp (hnil ▸ hprefix))

/-! ## Runs whose messages all have labels -/

/-- Where every message has labels, its stamps are the beats its person's watchdog sees. -/
theorem beats_eventOf (p : PersonKey) (run : List ChainEvent)
    (hlabels : ∀ entry ∈ messagesOf run, entry.obj_info.roi_ ≠ []) :
    beats ((run.map eventOf).filterMap (signalOf p)) = run.filterMap (·.roiStamp? p) := by
  induction run with
  | nil => rfl
  | cons e run ih =>
    cases e with
    | sweep now => exact ih hlabels
    | message entry t =>
      have hrest := ih fun m hm => hlabels m (List.mem_cons_of_mem _ hm)
      have hentry : entry.obj_info.roi_ ≠ [] := hlabels entry List.mem_cons_self
      by_cases hp : personOf entry = p
      · have hsignal : signalOf p (eventOf (.message entry t)) = some (.beat t) := if_pos hp
        have hstamp : (ChainEvent.message entry t).roiStamp? p = some t := if_pos ⟨hp, hentry⟩
        rw [List.map_cons, List.filterMap_cons_some hsignal, beats, hrest,
          List.filterMap_cons_some hstamp]
      · have hsignal : signalOf p (eventOf (.message entry t)) = none := if_neg hp
        have hstamp : (ChainEvent.message entry t).roiStamp? p = none := if_neg fun h => hp h.1
        rw [List.map_cons, List.filterMap_cons_none hsignal, hrest, List.filterMap_cons_none hstamp]

/-- The record of a person after a run, as its watchdog remembers it. -/
theorem watchOf_chainState {wire : Wire Text} {run : List ChainEvent} {ps : PersonState PersonKey}
    (h : chainState wire Dict.empty run = some ps) (p : PersonKey) :
    watchOf ps p = ((run.map eventOf).filterMap (signalOf p)).foldl (observe expired) none := by
  rw [chainState_eq] at h
  obtain rfl := Option.some.inj h
  exact watchOf_finalState p (run.map eventOf) Dict.empty

/-- **Runs whose messages all have labels are gated.** -/
theorem roiGated_of_labels (wire : Wire Text) {run : List ChainEvent}
    (hlabels : ∀ entry ∈ messagesOf run, entry.obj_info.roi_ ≠ []) : RoiGated wire run where
  entries := by
    rintro pre e post ps ps' alerts rfl - hstep p hentrada
    rw [chainStep_eq] at hstep
    obtain rfl : (step ps (eventOf e)).2 = alerts := congrArg Prod.snd (Option.some.inj hstep)
    have henter : Report.enter ∈ (step ps (eventOf e)).2.filterMap (reportOf p) :=
      List.mem_filterMap.mpr ⟨_, hentrada, reportOf_eq_enter.mpr rfl⟩
    rw [step_alerts] at henter
    cases e with
    -- a sweep reports exits only, and a message about its own person only
    | sweep now => exact absurd (Option.mem_toList.mp henter) (report_poll_ne_enter _ _ _)
    | message entry t =>
      have hentry : entry.obj_info.roi_ ≠ [] :=
        hlabels entry (by simp [messagesOf, ChainEvent.entry?])
      by_cases hp : personOf entry = p
      · exact ⟨t, if_pos ⟨hp, hentry⟩⟩
      · rw [eventOf, signalOf, if_neg hp] at henter
        cases henter
  outsiders := by
    intro p hnone
    -- without a stamp in the run the watchdog of `p` hears no beat in any prefix of it
    have hbeats : ∀ pre, pre <+: run → beats ((pre.map eventOf).filterMap (signalOf p)) = [] := by
      intro pre hpre
      rw [beats_eventOf p pre fun m hm => hlabels m ((hpre.filterMap _).subset hm)]
      exact List.filterMap_eq_nil_iff.mpr fun e he => hnone e (hpre.subset he)
    constructor
    · rw [chainIssued_eq, alertsFor_issued]
      apply reports_of_no_beats
      have hsignals : (signalsFor p (run.zipIdx.map fun e => (eventOf e.1, e.2))).map Prod.fst
          = (run.map eventOf).filterMap (signalOf p) := by
        rw [signalsFor, List.filterMap_map, List.map_filterMap]
        conv_rhs => rw [← List.zipIdx_map_fst 0 run, List.map_map, List.filterMap_map]
        refine List.filterMap_congr fun e _ => ?_
        simp only [Function.comp_apply]
        cases signalOf p (eventOf e.1) <;> rfl
      rw [hsignals]
      exact hbeats run List.prefix_rfl
    · intro pre ps hpre hps
      have hstamp := stamp_foldl_observe expired ((pre.map eventOf).filterMap (signalOf p)) none
      rw [hbeats pre hpre, ← watchOf_chainState hps] at hstamp
      rw [inside_eq_isPresent, Option.map_eq_none_iff.mp hstamp]
      rfl
  exits := by
    rintro pre now post ps rfl hps p hinside t hlast hexpired
    have hlabels' : ∀ entry ∈ messagesOf pre, entry.obj_info.roi_ ≠ [] := fun m hm =>
      hlabels m (by rw [messagesOf, List.filterMap_append]; exact List.mem_append_left _ hm)
    have hstamp := stamp_foldl_observe expired ((pre.map eventOf).filterMap (signalOf p)) none
    rw [beats_eventOf p pre hlabels', hlast, ← watchOf_chainState hps] at hstamp
    -- the stamp in the record is that of the last message with labels
    obtain ⟨w, hw, hwt⟩ := Option.map_eq_some_iff.mp hstamp
    have hpresent : w.present = true := by rwa [inside_eq_isPresent, hw] at hinside
    have hleave : Report.leave ∈ (check_no_change ps now).2.filterMap (reportOf p) := by
      rw [check_no_change_alerts, hw, report, Option.bind_some, hwt, hpresent, hexpired]
      exact List.mem_singleton_self _
    obtain ⟨a, ha, hreport⟩ := List.mem_filterMap.mp hleave
    rwa [reportOf_eq_leave.mp hreport] at ha

/-! ## A message without labels -/

/-- Messages handled at time `0`, then a sweep at time `5`: everybody is outside. -/
theorem outside_after_sweep {wire : Wire Text} {entries : List Entry} {ps : PersonState PersonKey}
    (h : chainState wire Dict.empty (entries.map (.message · 0) ++ [.sweep 5]) = some ps)
    (p : PersonKey) : ps.inside p = false := by
  have hwatch := watchOf_chainState h p
  rw [List.map_append, List.filterMap_append, List.foldl_append] at hwatch
  have hstamp := stamp_foldl_observe expired
    (((entries.map (ChainEvent.message · 0)).map eventOf).filterMap (signalOf p)) none
  generalize hw : (((entries.map (ChainEvent.message · 0)).map eventOf).filterMap
    (signalOf p)).foldl (observe expired) none = w at hwatch hstamp
  rw [inside_eq_isPresent, hwatch]
  cases w with
  | none => rfl
  | some v =>
    -- every message was stamped `0`, and `0` has expired at `5`
    have hzero : v.stamp = 0 := by
      rw [Option.map_none, Option.or_none, Option.map_some] at hstamp
      have hbeat := mem_beats.mp (List.mem_of_getLast? hstamp.symm)
      obtain ⟨e, he, hsignal⟩ := List.mem_filterMap.mp hbeat
      obtain ⟨m, hm, rfl⟩ := List.mem_map.mp he
      obtain ⟨entry, -, rfl⟩ := List.mem_map.mp hm
      rw [eventOf, signalOf] at hsignal
      split at hsignal
      · exact (Signal.beat.inj (Option.some.inj hsignal)).symm
      · cases hsignal
    have hexpired : expired 5 v.stamp = true := by
      rw [hzero]
      decide +kernel
    show isPresent (observe expired (some v) (.poll 5)) = false
    rw [observe, Option.map_some, hexpired, Bool.and_true]
    cases hpresent : v.present <;> simp [isPresent, hpresent]

/-- **A message without labels can enter its person**: handled after everybody has left. -/
theorem not_roiGated_of_empty (wire : Wire Text) {entries : List Entry} {entry : Entry}
    (hentry : entry ∈ entries) (hempty : entry.obj_info.roi_ = []) :
    ∃ run, messagesOf run = entries ∧ ¬ RoiGated wire run := by
  obtain ⟨before, after, rfl⟩ := List.append_of_mem hentry
  refine ⟨(before.map (.message · 0) ++ [.sweep 5]) ++ .message entry 5 :: after.map (.message · 5),
    ?_, fun hgated => ?_⟩
  · have hmessages : ∀ (l : List Entry) (t : ℚ), messagesOf (l.map (.message · t)) = l := by
      intro l t
      rw [messagesOf, List.filterMap_map]
      exact List.filterMap_some
    rw [messagesOf, List.filterMap_append, List.filterMap_append]
    show (messagesOf _ ++ []) ++ entry :: messagesOf _ = _
    rw [hmessages, hmessages, List.append_nil]
  · -- everybody is outside after the sweep, so the message enters its person
    have hstate := chainState_eq wire (before.map (.message · 0) ++ [.sweep 5]) Dict.empty
    have halert : Alert.entrada (personOf entry)
        ∈ (on_message (finalState Dict.empty
            ((before.map (ChainEvent.message · 0) ++ [ChainEvent.sweep 5]).map eventOf))
          (personOf entry) 5).2 := by
      rw [on_message_alerts, outside_after_sweep hstate]
      exact List.mem_singleton_self _
    obtain ⟨t, ht⟩ := hgated.entries _ _ _ _ _ _ rfl hstate (chainStep_eq wire _ _) _ halert
    rw [ChainEvent.roiStamp?, if_neg fun h => h.2 hempty] at ht
    cases ht

/-- **When the flag means what it says.** Every run of the backend over the messages of some probe
calls, with any handling times and any sweeps, is gated iff in these calls the first user meta of
every object on a sampled frame is an analytics meta with a label. -/
theorem roi_gated_iff (wire : Wire Text) (calls : List ProbeCall) :
    (∀ run, messagesOf run = produced calls → RoiGated wire run) ↔
      ∀ call ∈ calls, FirstMetaInRoi call := by
  constructor
  · intro hgated call hcall
    rw [← roi_ne_nil_iff]
    intro entry hentry hempty
    obtain ⟨run, hrun, hnot⟩ := not_roiGated_of_empty wire
      (List.mem_flatMap.mpr ⟨call, hcall, hentry⟩) hempty
    exact hnot (hgated run hrun)
  · intro hfirst run hrun
    refine roiGated_of_labels wire fun entry hentry => ?_
    rw [hrun] at hentry
    obtain ⟨call, hcall, hentry⟩ := List.mem_flatMap.mp hentry
    exact (roi_ne_nil_iff call).mpr (hfirst call hcall) entry hentry

/-- **Entered without a ROI.** An object whose only user meta is an analytics meta without labels:
its message has an empty `"roi"` and causes an entry alert. -/
theorem entered_without_roi :
    ¬ ∀ (calls : List ProbeCall) (run : List ChainEvent), messagesOf run = produced calls →
      RoiGated Wire.tree run := by
  intro hall
  have hproduced : produced [.sample 0 7 []] = [sampleEntry 0 7 []] := by
    rw [produced, List.flatMap_cons, pushed_sample]
    rfl
  obtain ⟨run, hrun, hnot⟩ := not_roiGated_of_empty Wire.tree
    (List.mem_singleton_self (sampleEntry 0 7 [])) rfl
  exact hnot (hall [.sample 0 7 []] run (hrun.trans hproduced.symm))

end DemoColombia.Chain
