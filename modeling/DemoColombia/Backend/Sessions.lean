import DemoColombia.Backend.PersonState

/-! # The alert state machine refines its session specification

With `on_message` and one `check_no_change` sweep as atomic steps, the alerts about a person are
read off the history of the run alone: its messages split into sessions, one entry alert per
session, one exit alert where the session ends (`alerts_refine_sessions`). The record of the person
is related to the history by the watchdog simulation of `TransitionSystems.Watchdog`; what the
other persons do is projected away (`alertsFor_filter`).

Events are tagged, and the alerts carry the tag of the event that issued them: with `List.zipIdx`
the tag is the position in the run. -/

namespace DemoColombia.Backend

open Watchdog

variable {PersonId : Type*} [DecidableEq PersonId]

/-- Whether an event concerns `p`: its own messages and every sweep. -/
def concerns (p : PersonId) (e : Event PersonId) : Bool := (signalOf p e).isSome

theorem concerns_msg (p q : PersonId) (t : ℚ) :
    concerns p (.msg q t) = decide (q = p) := by
  by_cases h : q = p <;> simp [concerns, signalOf, h]

/-- Dropping the messages of other persons leaves the signals for `p` as they are. -/
theorem signalsFor_filter {κ : Type*} (p : PersonId) (keep : Event PersonId → Bool)
    (hkeep : ∀ e, concerns p e → keep e) (run : List (Event PersonId × κ)) :
    signalsFor p (run.filter fun e => keep e.1) = signalsFor p run := by
  rw [signalsFor, List.filterMap_filter, signalsFor]
  refine List.filterMap_congr fun e _ => ?_
  cases hsignal : signalOf p e.1 with
  | none => split <;> rfl
  | some x =>
    -- an event that sends `p` a signal concerns it, so it is kept
    have : keep e.1 := hkeep _ (by rw [concerns, hsignal]; rfl)
    rw [if_pos this]

/-- **Independence**: removing events that do not concern `p` changes no alert about `p`, nor the
event it is issued at. -/
theorem alertsFor_filter {κ : Type*} (ps : PersonState PersonId) (p : PersonId)
    (keep : Event PersonId → Bool) (hkeep : ∀ e, concerns p e → keep e)
    (run : List (Event PersonId × κ)) :
    alertsFor p (issued ps (run.filter fun e => keep e.1)) = alertsFor p (issued ps run) := by
  rw [alertsFor_issued, alertsFor_issued, signalsFor_filter p keep hkeep]

/-- The sessions of `p` in a run: its messages, in order, two consecutive ones together iff no sweep
between them finds the earlier stamp expired. -/
def sessionsOf (p : PersonId) (run : List (Event PersonId)) : List (List (Segment ℕ ℚ)) :=
  sessions expired (signalsFor p run.zipIdx)

/-- **The alerts are those of the session specification.** For every finite run from the empty
table and every person `p`: the alerts about `p`, with the positions of the events that issue them,
are one entry at the first message of each session and one exit at the first sweep after its last
message that finds it expired; every session but the last has its exit; and removing the messages
of all other persons changes none of them. -/
theorem alerts_refine_sessions (run : List (Event PersonId)) (p : PersonId) :
    alertsFor p (issued Dict.empty run.zipIdx) = sessionReports expired (sessionsOf p run) ∧
      (∀ s ∈ (sessionsOf p run).dropLast, (sessionEnd expired s).isSome) ∧
      alertsFor p (issued Dict.empty (run.zipIdx.filter fun e => concerns p e.1))
        = alertsFor p (issued Dict.empty run.zipIdx) := by
  refine ⟨?_, fun s hs => sessionEnd_isSome_of_mem_dropLast expired _ hs, ?_⟩
  · rw [alertsFor_issued]
    exact reports_eq_sessionReports expired _
  · exact alertsFor_filter Dict.empty p (concerns p) (fun _ h => h) run.zipIdx

/-- Two sessions of person `1`: the message at `6` is a new session because the sweep at `5` found
the stamp `0` expired; the stamps need not increase. -/
example : alertsFor 1 (issued Dict.empty
      [(.msg 1 0, 0), (.msg 2 3, 1), (.sweep 3, 2), (.sweep 5, 3), (.msg 1 6, 4), (.msg 1 2, 5)])
    = [(.enter, 0), (.leave, 3), (.enter, 4)] := by
  decide +kernel

end DemoColombia.Backend
