import DemoColombia.DataStructures.Dict
import DemoColombia.TransitionSystems.Watchdog
import Mathlib.Algebra.Order.Field.Rat

/-! # The backend's person table (`backend/main.py`, `backend/gestor_alertas.py`)

`person_state` maps a person id to its record `{"last_update", "inside_roi"}`. The callback thread
runs `on_message` for each MQTT message and the checker thread sweeps the table with
`check_no_change`; both call the alert manager, whose `enviar_wpp` catches every exception, so a
call always returns and an alert is the call itself.

This file has the accesses the two functions are made of, the functions as atomic steps, and the
projection on one person: each step acts on the record of `p` as the watchdog of
`TransitionSystems.Watchdog` does on the signal the step sends to `p`. Time stamps are rationals:
`time.time()` is a finite double, and two clock readings of the same era subtract exactly. -/

namespace DemoColombia.Backend

open Watchdog

/-- `INACTIVITY_THRESHOLD`: seconds without an update before a person counts as gone. -/
def INACTIVITY_THRESHOLD : ℚ := 4

/-- The staleness test `now - state["last_update"] > INACTIVITY_THRESHOLD`. -/
def expired (now last_update : ℚ) : Bool := now - last_update > INACTIVITY_THRESHOLD

/-- A value of `person_state`. -/
structure PersonRecord where
  last_update : ℚ
  inside_roi : Bool
  deriving DecidableEq

/-- A call of the alert manager: `altertar_evento_entrada` or `altertar_evento_salida`. -/
inductive Alert (PersonId : Type*)
  | entrada (id_persona : PersonId)
  | salida (id_persona : PersonId)
  deriving DecidableEq

/-- The table `person_state`. -/
abbrev PersonState (PersonId : Type*) := Dict PersonId PersonRecord

variable {PersonId : Type*} [DecidableEq PersonId]

namespace PersonState

/-! ## The accesses -/

/-- `person_state[person_id] = {"last_update": clock, "inside_roi": False}`. -/
def register (ps : PersonState PersonId) (person_id : PersonId) (clock : ℚ) :
    PersonState PersonId :=
  ps.set person_id ⟨clock, false⟩

/-- `person_state[person_id]["last_update"] = clock`; nothing to write to on a `KeyError`. -/
def touch (ps : PersonState PersonId) (person_id : PersonId) (clock : ℚ) : PersonState PersonId :=
  match ps.get? person_id with
  | some state => ps.set person_id { state with last_update := clock }
  | none => ps

/-- `person_state[person_id]["inside_roi"] = value`. -/
def setInside (ps : PersonState PersonId) (person_id : PersonId) (value : Bool) :
    PersonState PersonId :=
  match ps.get? person_id with
  | some state => ps.set person_id { state with inside_roi := value }
  | none => ps

/-- Whether `inside_roi` of a person is `True`; an unknown person is not inside. -/
def inside (ps : PersonState PersonId) (p : PersonId) : Bool :=
  match ps.get? p with
  | some state => state.inside_roi
  | none => false

theorem get?_register (ps : PersonState PersonId) (q p : PersonId) (clock : ℚ) :
    (ps.register q clock).get? p = if p = q then some ⟨clock, false⟩ else ps.get? p :=
  Dict.get?_set ps q p _

theorem get?_touch (ps : PersonState PersonId) (q p : PersonId) (clock : ℚ) :
    (ps.touch q clock).get? p
      = if p = q then (ps.get? p).map fun state => { state with last_update := clock }
        else ps.get? p :=
  Dict.get?_of_update _ (fun state hq => by rw [touch, hq]) (fun hq => by rw [touch, hq]) p

theorem get?_setInside (ps : PersonState PersonId) (q p : PersonId) (value : Bool) :
    (ps.setInside q value).get? p
      = if p = q then (ps.get? p).map fun state => { state with inside_roi := value }
        else ps.get? p :=
  Dict.get?_of_update _ (fun state hq => by rw [setInside, hq]) (fun hq => by rw [setInside, hq]) p

/-- A person just registered is outside; the others are framed. -/
theorem inside_register (ps : PersonState PersonId) (q p : PersonId) (clock : ℚ) :
    (ps.register q clock).inside p = if p = q then false else ps.inside p := by
  unfold inside
  rw [get?_register]
  by_cases hp : p = q <;> simp [hp]

/-- A new time stamp moves nobody. -/
theorem inside_touch (ps : PersonState PersonId) (q p : PersonId) (clock : ℚ) :
    (ps.touch q clock).inside p = ps.inside p := by
  unfold inside
  rw [get?_touch]
  by_cases hp : p = q
  · -- the record is rewritten with the flag it had
    cases hget : ps.get? p <;> simp [hp]
  · simp [hp]

/-- Writing the flag of a known person sets it; the others are framed. -/
theorem inside_setInside (ps : PersonState PersonId) (q p : PersonId) (value : Bool) :
    (ps.setInside q value).inside p
      = if p = q then (ps.get? p).isSome && value else ps.inside p := by
  unfold inside
  rw [get?_setInside]
  by_cases hp : p = q
  · cases hget : ps.get? p <;> simp [hp]
  · simp [hp]

/-- A new time stamp neither adds nor drops a person. -/
theorem isSome_touch (ps : PersonState PersonId) (q p : PersonId) (clock : ℚ) :
    ((ps.touch q clock).get? p).isSome = (ps.get? p).isSome := by
  rw [get?_touch]
  split <;> simp

/-- Nor does a new flag. -/
theorem isSome_setInside (ps : PersonState PersonId) (q p : PersonId) (value : Bool) :
    ((ps.setInside q value).get? p).isSome = (ps.get? p).isSome := by
  rw [get?_setInside]
  split <;> simp

end PersonState

/-! ## The two functions as atomic steps -/

/-- The body of `on_message` once the person id is read from the payload; `clock` is the reading of
`time.time()` it stores. The two branches of the test make the record present, so the last lookup
does not fail. -/
def on_message (person_state : PersonState PersonId) (person_id : PersonId) (clock : ℚ) :
    PersonState PersonId × List (Alert PersonId) :=
  -- `if person_id not in person_state: ... else: ...`
  let updated := match person_state.get? person_id with
    | none => person_state.register person_id clock
    | some _ => person_state.touch person_id clock
  -- `if not person_state[person_id]["inside_roi"]`
  if updated.inside person_id then (updated, [])
  else (updated.setInside person_id true, [.entrada person_id])

/-- The body of the loop of `check_no_change` for one item of the snapshot. -/
def checkPerson (now : ℚ) (acc : PersonState PersonId × List (Alert PersonId)) (pid : PersonId) :
    PersonState PersonId × List (Alert PersonId) :=
  match acc.1.get? pid with
  | some state =>
    if state.inside_roi && expired now state.last_update then
      (acc.1.setInside pid false, acc.2 ++ [.salida pid])
    else acc
  | none => acc

/-- One sweep of `check_no_change` over the snapshot `list(person_state.items())`. -/
def check_no_change (person_state : PersonState PersonId) (now : ℚ) :
    PersonState PersonId × List (Alert PersonId) :=
  person_state.keys.foldl (checkPerson now) (person_state, [])

/-- What happens to the table: a message of a person is handled, or the checker sweeps. -/
inductive Event (PersonId : Type*)
  | msg (person_id : PersonId) (t : ℚ)
  | sweep (now : ℚ)
  deriving DecidableEq

/-- The table and the alerts after an event. -/
def step (ps : PersonState PersonId) : Event PersonId → PersonState PersonId × List (Alert PersonId)
  | .msg person_id t => on_message ps person_id t
  | .sweep now => check_no_change ps now

/-- The table after a run. -/
def finalState (ps : PersonState PersonId) (run : List (Event PersonId)) : PersonState PersonId :=
  run.foldl (fun ps e => (step ps e).1) ps

/-- The alerts of a run, in order, each with the tag of the event that issued it. -/
def issued {κ : Type*} : PersonState PersonId → List (Event PersonId × κ) →
    List (Alert PersonId × κ)
  | _, [] => []
  | ps, (e, k) :: es => (step ps e).2.map (·, k) ++ issued (step ps e).1 es

/-! ## One person's view -/

/-- The record of `p` as a watchdog memory. -/
def watchOf (ps : PersonState PersonId) (p : PersonId) : Option (Watch ℚ) :=
  (ps.get? p).map fun state => ⟨state.last_update, state.inside_roi⟩

/-- What an event means for `p`: its own messages are beats, every sweep is a poll. -/
def signalOf (p : PersonId) : Event PersonId → Option (Signal ℚ)
  | .msg q t => if q = p then some (.beat t) else none
  | .sweep now => some (.poll now)

/-- An alert as a report about `p`. -/
def reportOf (p : PersonId) : Alert PersonId → Option Report
  | .entrada q => if q = p then some .enter else none
  | .salida q => if q = p then some .leave else none

theorem reportOf_eq_enter {p : PersonId} {a : Alert PersonId} :
    reportOf p a = some .enter ↔ a = .entrada p := by
  cases a with
  | entrada q => by_cases h : q = p <;> simp [reportOf, h]
  | salida q => by_cases h : q = p <;> simp [reportOf, h]

theorem reportOf_eq_leave {p : PersonId} {a : Alert PersonId} :
    reportOf p a = some .leave ↔ a = .salida p := by
  cases a with
  | entrada q => by_cases h : q = p <;> simp [reportOf, h]
  | salida q => by_cases h : q = p <;> simp [reportOf, h]

/-- The tagged alerts about `p`. -/
def alertsFor {κ : Type*} (p : PersonId) (as : List (Alert PersonId × κ)) : List (Report × κ) :=
  as.filterMap fun a => (reportOf p a.1).map (·, a.2)

/-- The tagged signals of a run for `p`. -/
def signalsFor {κ : Type*} (p : PersonId) (run : List (Event PersonId × κ)) : List (Signal ℚ × κ) :=
  run.filterMap fun e => (signalOf p e.1).map (·, e.2)

theorem inside_eq_isPresent (ps : PersonState PersonId) (p : PersonId) :
    ps.inside p = isPresent (watchOf ps p) := by
  unfold PersonState.inside watchOf
  cases ps.get? p <;> rfl

/-- `on_message` acts on the records as a beat of the person it is about, and on no other. -/
theorem watchOf_on_message (ps : PersonState PersonId) (q p : PersonId) (t : ℚ) :
    watchOf (on_message ps q t).1 p = if p = q then some ⟨t, true⟩ else watchOf ps p := by
  unfold on_message
  cases hq : ps.get? q with
  | none =>
    -- a new record starts outside, so the flag is raised at once
    simp only [PersonState.inside_register, if_true, Bool.false_eq_true, if_false, watchOf,
      PersonState.get?_setInside, PersonState.get?_register]
    split <;> rfl
  | some state =>
    have hinside : ps.inside q = state.inside_roi := by simp [PersonState.inside, hq]
    simp only [PersonState.inside_touch, hinside, watchOf]
    cases hflag : state.inside_roi with
    | true =>
      simp only [if_true, PersonState.get?_touch]
      split
      · rename_i hp
        subst hp
        simp [hq, hflag]
      · rfl
    | false =>
      simp only [Bool.false_eq_true, if_false, PersonState.get?_setInside, PersonState.get?_touch]
      split
      · rename_i hp
        subst hp
        simp [hq]
      · rfl

/-- `on_message` alerts exactly when the person was not inside. -/
theorem on_message_alerts (ps : PersonState PersonId) (q : PersonId) (t : ℚ) :
    (on_message ps q t).2 = if ps.inside q then [] else [.entrada q] := by
  unfold on_message
  cases hq : ps.get? q with
  | none =>
    have hinside : ps.inside q = false := by simp [PersonState.inside, hq]
    simp [PersonState.inside_register, hinside]
  | some state =>
    simp only [PersonState.inside_touch]
    split <;> rfl

/-- **One sweep step frames the other persons** and polls the watchdog of its own. -/
theorem watchOf_checkPerson (now : ℚ) (acc : PersonState PersonId × List (Alert PersonId))
    (q p : PersonId) :
    watchOf (checkPerson now acc q).1 p
      = if p = q then observe expired (watchOf acc.1 p) (.poll now) else watchOf acc.1 p := by
  by_cases hp : p = q
  · subst hp
    rw [if_pos rfl]
    unfold checkPerson watchOf
    cases hq : acc.1.get? p with
    | none => simp [hq, observe]
    | some state =>
      simp only [observe, Option.map_some]
      -- the exit lowers the flag and leaves the stamp
      by_cases hexit : (state.inside_roi && expired now state.last_update) = true
      · simp [hexit, PersonState.get?_setInside, hq]
      · simp [hexit, hq]
  · -- the loop body writes the record of `q` only
    rw [if_neg hp]
    unfold checkPerson watchOf
    split
    · split
      · rw [PersonState.get?_setInside, if_neg hp]
      · rfl
    · rfl

/-- The alert one sweep step makes about `p`. -/
theorem checkPerson_alerts (now : ℚ) (acc : PersonState PersonId × List (Alert PersonId))
    (q p : PersonId) :
    (checkPerson now acc q).2.filterMap (reportOf p)
      = acc.2.filterMap (reportOf p)
        ++ if p = q then (report expired (watchOf acc.1 p) (.poll now)).toList else [] := by
  unfold checkPerson
  by_cases hp : p = q
  · subst hp
    cases hq : acc.1.get? p with
    | none => simp [watchOf, report, hq]
    | some state =>
      have hwatch : watchOf acc.1 p = some ⟨state.last_update, state.inside_roi⟩ := by
        rw [watchOf, hq]; rfl
      simp only [hwatch, report, Option.bind_some, if_true]
      split
      · simp [reportOf]
      · simp
  · have hqp : ¬ q = p := fun h => hp h.symm
    split
    · split <;> simp [reportOf, hqp]
    · simp [hp]

/-- **The sweep, person by person**: folding the loop body over distinct ids polls each listed
person's watchdog once and leaves the others alone. -/
theorem foldl_checkPerson (now : ℚ) (p : PersonId) :
    ∀ (l : List PersonId), l.Nodup → ∀ acc : PersonState PersonId × List (Alert PersonId),
      watchOf (l.foldl (checkPerson now) acc).1 p
          = (if p ∈ l then observe expired (watchOf acc.1 p) (.poll now) else watchOf acc.1 p) ∧
        (l.foldl (checkPerson now) acc).2.filterMap (reportOf p)
          = acc.2.filterMap (reportOf p)
            ++ if p ∈ l then (report expired (watchOf acc.1 p) (.poll now)).toList else [] := by
  intro l
  induction l with
  | nil => intro _ acc; simp
  | cons q l ih =>
    intro hnodup acc
    obtain ⟨hql, hl⟩ := List.nodup_cons.mp hnodup
    obtain ⟨hwatch, halerts⟩ := ih hl (checkPerson now acc q)
    rw [List.foldl_cons, hwatch, halerts, watchOf_checkPerson, checkPerson_alerts]
    by_cases hp : p = q
    · -- polled now, and not again in the rest of the list
      subst hp
      simp [hql]
    · simp [hp]

/-- `check_no_change` polls the watchdog of every person. -/
theorem watchOf_check_no_change (ps : PersonState PersonId) (now : ℚ) (p : PersonId) :
    watchOf (check_no_change ps now).1 p = observe expired (watchOf ps p) (.poll now) := by
  rw [check_no_change, (foldl_checkPerson now p _ ps.nodup_keys _).1]
  split
  · rfl
  · -- a person missing from the snapshot has no record to poll
    rename_i hp
    rw [watchOf, (Dict.get?_eq_none_iff ps p).mpr hp]
    rfl

/-- The alerts of `check_no_change` about `p`. -/
theorem check_no_change_alerts (ps : PersonState PersonId) (now : ℚ) (p : PersonId) :
    (check_no_change ps now).2.filterMap (reportOf p)
      = (report expired (watchOf ps p) (.poll now)).toList := by
  rw [check_no_change, (foldl_checkPerson now p _ ps.nodup_keys _).2]
  split
  · rfl
  · rename_i hp
    rw [watchOf, (Dict.get?_eq_none_iff ps p).mpr hp]
    rfl

/-- **An event acts on the record of `p` as its signal acts on a watchdog.** -/
theorem watchOf_step (ps : PersonState PersonId) (e : Event PersonId) (p : PersonId) :
    watchOf (step ps e).1 p = match signalOf p e with
      | some x => observe expired (watchOf ps p) x
      | none => watchOf ps p := by
  cases e with
  | msg q t =>
    rw [step, watchOf_on_message, signalOf]
    by_cases hp : p = q
    · simp [hp, observe]
    · simp [hp, Ne.symm hp]
  | sweep now => exact watchOf_check_no_change ps now p

/-- **An event alerts about `p` as the watchdog reports on its signal.** -/
theorem step_alerts (ps : PersonState PersonId) (e : Event PersonId) (p : PersonId) :
    (step ps e).2.filterMap (reportOf p) = match signalOf p e with
      | some x => (report expired (watchOf ps p) x).toList
      | none => [] := by
  cases e with
  | msg q t =>
    rw [step, on_message_alerts, signalOf, inside_eq_isPresent]
    by_cases hp : q = p
    · -- the entry alert is due exactly when the flag is down
      subst hp
      cases hpresent : isPresent (watchOf ps q) <;> simp [report, reportOf, hpresent]
    · cases isPresent (watchOf ps q) <;> simp [reportOf, hp]
  | sweep now => exact check_no_change_alerts ps now p

/-- The record of `p` after a run is a watchdog memory that has seen the signals for `p`. -/
theorem watchOf_finalState (p : PersonId) (run : List (Event PersonId)) :
    ∀ ps : PersonState PersonId, watchOf (finalState ps run) p
      = (run.filterMap (signalOf p)).foldl (observe expired) (watchOf ps p) := by
  induction run with
  | nil => intro ps; rfl
  | cons e run ih =>
    intro ps
    have hrest : finalState ps (e :: run) = finalState (step ps e).1 run := rfl
    rw [hrest, ih, watchOf_step, List.filterMap_cons]
    cases signalOf p e <;> rfl

/-- **Projection of a run**: the alerts about `p` are the reports of a watchdog that sees the
signals of the run for `p`. -/
theorem alertsFor_issued {κ : Type*} (p : PersonId) (run : List (Event PersonId × κ)) :
    ∀ ps : PersonState PersonId,
      alertsFor p (issued ps run) = reports expired (watchOf ps p) (signalsFor p run) := by
  induction run with
  | nil => intro ps; rfl
  | cons ek run ih =>
    intro ps
    obtain ⟨e, k⟩ := ek
    -- the alerts of the first event, all under its tag, then those of the rest
    have hnow : alertsFor p ((step ps e).2.map (·, k))
        = ((step ps e).2.filterMap (reportOf p)).map (·, k) := by
      rw [alertsFor, List.filterMap_map, List.map_filterMap]; rfl
    have hsplit : alertsFor p (issued ps ((e, k) :: run))
        = ((step ps e).2.filterMap (reportOf p)).map (·, k)
          ++ alertsFor p (issued (step ps e).1 run) := by
      rw [← hnow, issued, alertsFor, List.filterMap_append]; rfl
    rw [hsplit, ih, watchOf_step, step_alerts]
    cases hsignal : signalOf p e with
    | none => simp [signalsFor, hsignal]
    | some x => simp [signalsFor, hsignal, reports]

end DemoColombia.Backend
