import Mathlib.Data.List.SplitBy

/-! # Watchdogs and sessions

A watchdog receives signs of life (`beat t`, stamped `t`) and is polled (`poll now`). It remembers
the latest stamp and one flag, reports `enter` when a beat finds the flag down, and `leave` when a
poll finds the flag up and the stamp stale. `stale now t` is any decidable relation: nothing is
assumed about the stamps, which need not be monotone.

The specification speaks about the whole history instead: the beats are split into **sessions**,
two consecutive beats belonging together iff no poll between them finds the earlier one stale.
`reports_eq_sessionReports` says that the watchdog reports exactly one `enter` per session, at its
first beat, and one `leave`, at the first poll that finds its last beat stale.

Signals and reports carry a tag `κ` (a position in a run, a time), so that the theorem also says
*where* the reports are made. -/

namespace DemoColombia

namespace Watchdog

variable {κ τ : Type*}

/-- What a watchdog sees. -/
inductive Signal (τ : Type*)
  /-- A sign of life, stamped. -/
  | beat (t : τ)
  /-- A check of the stamp against the current time. -/
  | poll (now : τ)
  deriving DecidableEq

/-- What a watchdog reports. -/
inductive Report
  | enter
  | leave
  deriving DecidableEq

/-- The watchdog's memory: the latest stamp, and whether the subject counts as present. -/
structure Watch (τ : Type*) where
  stamp : τ
  present : Bool
  deriving DecidableEq

/-- Whether the flag of a possibly absent memory is up. -/
def isPresent : Option (Watch τ) → Bool
  | some w => w.present
  | none => false

/-- The memory after a signal. -/
def observe (stale : τ → τ → Bool) (w : Option (Watch τ)) : Signal τ → Option (Watch τ)
  | .beat t => some ⟨t, true⟩
  | .poll now => w.map fun v => if v.present && stale now v.stamp then ⟨v.stamp, false⟩ else v

/-- The report made on a signal. -/
def report (stale : τ → τ → Bool) (w : Option (Watch τ)) : Signal τ → Option Report
  | .beat _ => if isPresent w then none else some .enter
  | .poll now => w.bind fun v => if v.present && stale now v.stamp then some .leave else none

/-- The reports of a run, each tagged with the signal it was made on. -/
def reports (stale : τ → τ → Bool) : Option (Watch τ) → List (Signal τ × κ) → List (Report × κ)
  | _, [] => []
  | w, (x, k) :: xs => (report stale w x).toList.map (·, k) ++ reports stale (observe stale w x) xs

/-- The stamps of the beats. -/
def beats : List (Signal τ) → List τ
  | [] => []
  | .beat t :: xs => t :: beats xs
  | .poll _ :: xs => beats xs

theorem mem_beats {t : τ} {xs : List (Signal τ)} : t ∈ beats xs ↔ .beat t ∈ xs := by
  induction xs with
  | nil => simp [beats]
  | cons x xs ih => cases x <;> simp [beats, ih]

/-- **The memory holds the latest stamp**, the one it started with if no beat came. -/
theorem stamp_foldl_observe (stale : τ → τ → Bool) (xs : List (Signal τ)) :
    ∀ w : Option (Watch τ), (xs.foldl (observe stale) w).map Watch.stamp
      = (beats xs).getLast?.or (w.map Watch.stamp) := by
  induction xs with
  | nil => intro w; rfl
  | cons x xs ih =>
    intro w
    rw [List.foldl_cons, ih]
    cases x with
    | beat t =>
      rw [beats, List.getLast?_cons]
      cases (beats xs).getLast? <;> rfl
    | poll now =>
      have hstamp : (observe stale w (.poll now)).map Watch.stamp = w.map Watch.stamp := by
        cases w with
        | none => rfl
        | some v =>
          simp only [observe, Option.map_some]
          split <;> rfl
      rw [hstamp, beats]

/-- Without a beat there is nothing to report. -/
theorem reports_of_no_beats (stale : τ → τ → Bool) (xs : List (Signal τ × κ))
    (h : beats (xs.map Prod.fst) = []) : reports stale none xs = [] := by
  induction xs with
  | nil => rfl
  | cons x xs ih =>
    obtain ⟨x, k⟩ := x
    cases x with
    | beat t => cases h
    | poll now => exact ih h

/-- A poll never reports an `enter`. -/
theorem report_poll_ne_enter (stale : τ → τ → Bool) (w : Option (Watch τ)) (now : τ) :
    report stale w (.poll now) ≠ some .enter := by
  cases w with
  | none => nofun
  | some v =>
    simp only [report, Option.bind_some]
    split <;> nofun

/-! ## Alternating histories -/

/-- Reports that alternate strictly, starting with `enter`; the flag says which one comes next:
`true` after an `enter`. -/
inductive Alternating : Bool → List Report → Prop
  | nil : Alternating false []
  | enter {l : List Report} : Alternating false l → Alternating true (l ++ [.enter])
  | leave {l : List Report} : Alternating true l → Alternating false (l ++ [.leave])

/-- The flag is determined by the last report. -/
theorem Alternating.getLast? {b : Bool} {l : List Report} (h : Alternating b l) :
    ∀ r ∈ l.getLast?, r = if b then .enter else .leave := by
  cases h <;> simp

/-- No report is followed by its like. -/
theorem Alternating.isChain {b : Bool} {l : List Report} (h : Alternating b l) :
    l.IsChain (· ≠ ·) := by
  induction h with
  | nil => exact List.isChain_nil
  | enter hl ih =>
    refine List.isChain_append.mpr ⟨ih, List.isChain_singleton _, fun x hx y hy => ?_⟩
    obtain rfl : y = .enter := by simpa using hy.symm
    rw [hl.getLast? x hx]
    decide
  | leave hl ih =>
    refine List.isChain_append.mpr ⟨ih, List.isChain_singleton _, fun x hx y hy => ?_⟩
    obtain rfl : y = .leave := by simpa using hy.symm
    rw [hl.getLast? x hx]
    decide

/-- A history whose flag is up is not empty. -/
theorem Alternating.ne_nil {b : Bool} {l : List Report} (h : Alternating b l) (hb : b = true) :
    l ≠ [] := by
  cases h <;> simp_all

/-- The first report is an `enter`. -/
theorem Alternating.head? {b : Bool} {l : List Report} (h : Alternating b l) :
    ∀ r ∈ l.head?, r = .enter := by
  induction h with
  | nil => simp
  | @enter l _ ih => cases l <;> simp_all
  | @leave l hl ih =>
    cases l with
    | nil => exact absurd rfl (hl.ne_nil rfl)
    | cons r l => simpa using ih

/-- There is one `enter` more than there are `leave`s exactly when the flag is up. -/
theorem Alternating.count {b : Bool} {l : List Report} (h : Alternating b l) :
    (l.count .enter : ℤ) - l.count .leave = if b then 1 else 0 := by
  induction h with
  | nil => rfl
  | enter _ ih => simp [List.count_append] at ih ⊢; omega
  | leave _ ih => simp [List.count_append] at ih ⊢; omega

/-! ## Sessions -/

/-- A beat together with the polls made after it and before the next beat. -/
structure Segment (κ τ : Type*) where
  tag : κ
  stamp : τ
  polls : List (τ × κ)

/-- The polls before the next beat. -/
def pollsUntilBeat : List (Signal τ × κ) → List (τ × κ)
  | (.poll now, k) :: xs => (now, k) :: pollsUntilBeat xs
  | _ => []

/-- The beats of a run, each with the polls that follow it. -/
def segments : List (Signal τ × κ) → List (Segment κ τ)
  | [] => []
  | (.beat t, k) :: xs => ⟨k, t, pollsUntilBeat xs⟩ :: segments xs
  | (.poll _, _) :: xs => segments xs

/-- The first poll that finds the beat stale, if one comes before the next beat. -/
def Segment.lapse (stale : τ → τ → Bool) (s : Segment κ τ) : Option κ :=
  (s.polls.find? fun p => stale p.1 s.stamp).map Prod.snd

/-- **Sessions**: consecutive beats stay together iff no poll between them finds the earlier one
stale. -/
def sessions (stale : τ → τ → Bool) (xs : List (Signal τ × κ)) : List (List (Segment κ τ)) :=
  (segments xs).splitBy fun a _ => (a.lapse stale).isNone

/-- Where a session ends: at the poll that finds its last beat stale. -/
def sessionEnd (stale : τ → τ → Bool) (s : List (Segment κ τ)) : Option κ :=
  s.getLast?.bind (·.lapse stale)

/-- The reports the specification asks for: one `enter` at the first beat of each session, one
`leave` where it ends. -/
def sessionReports (stale : τ → τ → Bool) (ss : List (List (Segment κ τ))) : List (Report × κ) :=
  ss.flatMap fun s => (s.head?.toList.map fun a => (Report.enter, a.tag))
    ++ (sessionEnd stale s).toList.map (Report.leave, ·)

/-- **Every session but the last has ended.** -/
theorem sessionEnd_isSome_of_mem_dropLast (stale : τ → τ → Bool) (xs : List (Signal τ × κ))
    {s : List (Segment κ τ)} (hs : s ∈ (sessions stale xs).dropLast) :
    (sessionEnd stale s).isSome := by
  have hchain : (sessions stale xs).IsChain fun a _ => (sessionEnd stale a).isSome := by
    apply (List.isChain_getLast_head_splitBy _ (segments xs)).imp
    rintro a b ⟨ha, _, hlapse⟩
    rw [sessionEnd, List.getLast?_eq_some_getLast ha, Option.bind_some]
    simpa using hlapse
  -- every group but the last has a successor in the chain
  generalize sessions stale xs = ss at hchain hs
  induction ss with
  | nil => simp at hs
  | cons a rest ih =>
    cases rest with
    | nil => simp at hs
    | cons b rest =>
      rw [List.dropLast_cons_cons, List.mem_cons] at hs
      rw [List.isChain_cons_cons] at hchain
      rcases hs with rfl | hs
      · exact hchain.1
      · exact ih hchain.2 hs

/-! ## The watchdog reports the sessions -/

section Refinement

variable (stale : τ → τ → Bool)

/-- The reports segment by segment; `present` is the flag when the segment's beat arrives. -/
def segmentReports : Bool → List (Segment κ τ) → List (Report × κ)
  | _, [] => []
  | present, a :: rest =>
    (if present then [] else [(Report.enter, a.tag)])
      ++ (a.lapse stale).toList.map (Report.leave, ·)
      ++ segmentReports (a.lapse stale).isNone rest

/-- The reports still due on a beat stamped `t` that is present, given the signals that follow. -/
def pending (t : τ) (xs : List (Signal τ × κ)) : Option κ :=
  ((pollsUntilBeat xs).find? fun p => stale p.1 t).map Prod.snd

/-- A watchdog whose flag is down reports like one that has seen nothing. -/
theorem reports_absent (t : τ) (xs : List (Signal τ × κ)) :
    reports stale (some ⟨t, false⟩) xs = reports stale none xs := by
  induction xs with
  | nil => rfl
  | cons x xs ih =>
    obtain ⟨x, k⟩ := x
    cases x with
    | beat u => rfl
    | poll now => exact ih

/-- **The simulation**: from any memory, the watchdog reports what is still due on its last beat and
then works segment by segment. The induction is on the signals; the cases are the three shapes of
the memory. -/
theorem reports_eq_segmentReports (xs : List (Signal τ × κ)) :
    reports stale none xs = segmentReports stale false (segments xs) ∧
      ∀ t, reports stale (some ⟨t, true⟩) xs
        = (pending stale t xs).toList.map (Report.leave, ·)
          ++ segmentReports stale (pending stale t xs).isNone (segments xs) := by
  induction xs with
  | nil => exact ⟨rfl, fun t => rfl⟩
  | cons x xs ih =>
    obtain ⟨hnone, hsome⟩ := ih
    obtain ⟨x, k⟩ := x
    cases x with
    | beat u =>
      -- whatever the memory was, the beat starts a segment and hands it over
      have hbeat : reports stale (some ⟨u, true⟩) xs
          = ((Segment.mk k u (pollsUntilBeat xs)).lapse stale).toList.map (Report.leave, ·)
            ++ segmentReports stale ((Segment.mk k u (pollsUntilBeat xs)).lapse stale).isNone
              (segments xs) := hsome u
      constructor
      · show (Report.enter, k) :: reports stale (some ⟨u, true⟩) xs = _
        rw [hbeat]; rfl
      · intro t
        show reports stale (some ⟨u, true⟩) xs = _
        rw [hbeat]; rfl
    | poll now =>
      refine ⟨hnone, fun t => ?_⟩
      by_cases hstale : stale now t = true
      · -- the first poll that finds the beat stale makes the report, and then nothing is due
        have hpending : pending stale t ((.poll now, k) :: xs) = some k := by
          simp [pending, pollsUntilBeat, hstale]
        have hreports : reports stale (some ⟨t, true⟩) ((.poll now, k) :: xs)
            = (Report.leave, k) :: reports stale (some ⟨t, false⟩) xs := by
          simp [reports, report, observe, hstale]
        rw [hpending, hreports, reports_absent, hnone]
        rfl
      · -- a poll that finds it fresh changes nothing
        have hpending : pending stale t ((.poll now, k) :: xs) = pending stale t xs := by
          simp [pending, pollsUntilBeat, hstale]
        have hreports : reports stale (some ⟨t, true⟩) ((.poll now, k) :: xs)
            = reports stale (some ⟨t, true⟩) xs := by
          simp [reports, report, observe, hstale]
        rw [hpending, hreports, hsome t]
        rfl

/-- Splitting off a beat that lapses before the next one. -/
theorem splitBy_cons_of_false {α : Type*} {r : α → α → Bool} {a b : α} (l : List α)
    (h : r a b = false) : (a :: b :: l).splitBy r = [a] :: (b :: l).splitBy r :=
  List.splitBy_append_cons (l := [a]) l (by simpa using h)

/-- A beat that stays related to the next one joins its group. -/
theorem splitBy_cons_of_true {α : Type*} {r : α → α → Bool} {a b : α} {g : List α}
    {gs : List (List α)} (l : List α) (h : r a b = true)
    (hl : (b :: l).splitBy r = (b :: g) :: gs) :
    (a :: b :: l).splitBy r = (a :: b :: g) :: gs := by
  obtain ⟨hflat, hnil, hchain, hbreaks⟩ := List.splitBy_eq_iff.mp hl
  refine List.splitBy_eq_iff.mpr ⟨by simp [hflat], by simpa using hnil, ?_, ?_⟩
  · intro m hm
    rcases List.mem_cons.mp hm with rfl | hm
    · exact List.isChain_cons_cons.mpr ⟨h, hchain _ List.mem_cons_self⟩
    · exact hchain m (List.mem_cons_of_mem _ hm)
  · cases gs with
    | nil => exact List.isChain_singleton _
    | cons m gs =>
      obtain ⟨⟨_, hm, hbreak⟩, hrest⟩ := List.isChain_cons_cons.mp hbreaks
      refine List.isChain_cons_cons.mpr ⟨⟨List.cons_ne_nil _ _, hm, ?_⟩, hrest⟩
      simpa using hbreak

/-- The first group of a nonempty list starts with its head. -/
theorem splitBy_cons_head {α : Type*} (r : α → α → Bool) (a : α) (l : List α) :
    ∃ g gs, (a :: l).splitBy r = (a :: g) :: gs := by
  cases hsplit : (a :: l).splitBy r with
  | nil => simp at hsplit
  | cons m gs =>
    have hflat := (List.splitBy_eq_iff.mp hsplit).1
    have hnil := (List.splitBy_eq_iff.mp hsplit).2.1
    cases m with
    | nil => simp at hnil
    | cons b g =>
      obtain ⟨rfl, -⟩ := List.cons.inj hflat
      exact ⟨g, gs, rfl⟩

/-- The reports of a session that starts with `a`. -/
theorem sessionReports_cons_cons (a : Segment κ τ) (g : List (Segment κ τ))
    (gs : List (List (Segment κ τ))) :
    sessionReports stale ((a :: g) :: gs)
      = (Report.enter, a.tag) :: ((sessionEnd stale (a :: g)).toList.map (Report.leave, ·)
        ++ sessionReports stale gs) := rfl

/-- Segment by segment, the reports are those of the sessions. The induction is on the segments; a
segment that lapses closes its session, one that does not hands its open session to the next. -/
theorem segmentReports_eq_sessionReports (l : List (Segment κ τ)) :
    segmentReports stale false l
      = sessionReports stale (l.splitBy fun a _ => (a.lapse stale).isNone) := by
  induction l with
  | nil => rfl
  | cons a l ih =>
    cases l with
    | nil =>
      rw [List.splitBy_of_isChain (List.cons_ne_nil _ _) (List.isChain_singleton a)]
      simp [segmentReports, sessionReports, sessionEnd]
    | cons b l =>
      cases hlapse : a.lapse stale with
      | some k =>
        -- the session of `a` ends before `b`
        rw [splitBy_cons_of_false l (by simp [hlapse]), sessionReports_cons_cons, ← ih]
        simp [segmentReports, sessionEnd, hlapse]
      | none =>
        -- `a` joins the session of `b`, whose own entry is the one thing that changes
        obtain ⟨g, gs, hsplit⟩ := splitBy_cons_head (fun a _ => (a.lapse stale).isNone) b l
        have hopen : segmentReports stale true (b :: l)
            = (sessionEnd stale (b :: g)).toList.map (Report.leave, ·)
              ++ sessionReports stale gs := by
          have hb : segmentReports stale false (b :: l)
              = (Report.enter, b.tag) :: segmentReports stale true (b :: l) := by
            simp [segmentReports]
          rw [hb, hsplit, sessionReports_cons_cons] at ih
          exact (List.cons.inj ih).2
        rw [splitBy_cons_of_true l (by simp [hlapse]) hsplit, sessionReports_cons_cons]
        have ha : segmentReports stale false (a :: b :: l)
            = (Report.enter, a.tag) :: segmentReports stale true (b :: l) := by
          simp [segmentReports, hlapse]
        rw [ha, hopen]
        simp [sessionEnd]

/-- **A watchdog refines its session specification**: started with no memory, it reports one `enter`
at the first beat of each session and one `leave` where the session ends, and nothing else. -/
theorem reports_eq_sessionReports (xs : List (Signal τ × κ)) :
    reports stale none xs = sessionReports stale (sessions stale xs) := by
  rw [(reports_eq_segmentReports stale xs).1, segmentReports_eq_sessionReports, sessions]

end Refinement

end Watchdog

end DemoColombia
