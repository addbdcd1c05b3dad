import DemoColombia.Backend.PersonState
import DemoColombia.TransitionSystems.Runs

/-! # The two backend threads, access by access

`loop_forever` runs `on_message` in one callback thread while the daemon thread runs
`check_no_change`; no lock protects `person_state`. Here each access to the table, each alert and
each reading of the clock is a step of its own, and the steps of the two threads interleave in any
order. The records are never replaced once inserted, so the `state` a sweep holds is the record of
its `pid` in the table.

A label says which thread moves; the clock reading a step stores is part of its label and arbitrary.
`Moves` lists what a step can do, one constructor for each access, and `moves_of_next` is the
inversion every invariant of the threads is derived from. -/

namespace DemoColombia.Backend

open Watchdog

/-- Where the callback thread stands in `on_message`. -/
inductive CallbackPc (PersonId : Type*)
  /-- `loop_forever` waits for the next message. -/
  | idle
  /-- About to test `person_id not in person_state`. -/
  | lookup (person_id : PersonId)
  /-- New person: about to insert the record. -/
  | register (person_id : PersonId)
  /-- Known person: about to write `last_update`. -/
  | touch (person_id : PersonId)
  /-- About to read `inside_roi`. -/
  | test (person_id : PersonId)
  /-- It was `False`: about to issue the entry alert. -/
  | alert (person_id : PersonId)
  /-- The alert is issued: about to write `inside_roi = True`. -/
  | markInside (person_id : PersonId)
  /-- About to return. -/
  | returning (person_id : PersonId)
  deriving DecidableEq

/-- Where the checker thread stands in `check_no_change`; `todo` is what is left of the snapshot. -/
inductive CheckerPc (PersonId : Type*)
  /-- About to read the clock. -/
  | start
  /-- About to take `list(person_state.items())`. -/
  | snapshot (now : ℚ)
  /-- About to read `inside_roi` of the next item, or to end the sweep. -/
  | next (now : ℚ) (todo : List PersonId)
  /-- It was `True`: about to read `last_update`. -/
  | compare (now : ℚ) (pid : PersonId) (todo : List PersonId)
  /-- It had expired: about to issue the exit alert. -/
  | alert (now : ℚ) (pid : PersonId) (todo : List PersonId)
  /-- The alert is issued: about to write `inside_roi = False`. -/
  | markOutside (now : ℚ) (pid : PersonId) (todo : List PersonId)
  /-- In `time.sleep(CHECK_INTERVAL)`. -/
  | sleeping
  deriving DecidableEq

/-- The state of the two threads. -/
structure Threads (PersonId : Type*) where
  person_state : PersonState PersonId
  callback : CallbackPc PersonId
  checker : CheckerPc PersonId
  /-- The alerts issued so far, oldest first. -/
  alerts : List (Alert PersonId)
  deriving DecidableEq

/-- Who moves. -/
inductive Label (PersonId : Type*)
  /-- The MQTT client hands the idle callback thread a message. -/
  | message (person_id : PersonId)
  /-- The callback thread makes its next access, reading the clock as `clock` if it does. -/
  | callback (clock : ℚ)
  /-- The checker thread makes its next access. -/
  | checker (clock : ℚ)
  deriving DecidableEq

variable {PersonId : Type*} [DecidableEq PersonId]

namespace Threads

/-- Both threads before their first step, the table empty. -/
def init : Threads PersonId := ⟨Dict.empty, .idle, .start, []⟩

/-- The next access of `on_message`; `none` when idle, or where the lookup raises `KeyError`. -/
def callbackStep (s : Threads PersonId) (clock : ℚ) : Option (Threads PersonId) :=
  match s.callback with
  | .idle => none
  -- `if person_id not in person_state`
  | .lookup p => match s.person_state.get? p with
    | none => some { s with callback := .register p }
    | some _ => some { s with callback := .touch p }
  | .register p =>
    some { s with person_state := s.person_state.register p clock, callback := .test p }
  | .touch p => some { s with person_state := s.person_state.touch p clock, callback := .test p }
  -- `if not person_state[person_id]["inside_roi"]`; the subscript raises for an unknown id
  | .test p => match s.person_state.get? p with
    | some state => some { s with callback := if state.inside_roi then .returning p else .alert p }
    | none => none
  -- `enviar_wpp` catches every exception, so the call returns
  | .alert p => some { s with alerts := s.alerts ++ [.entrada p], callback := .markInside p }
  | .markInside p =>
    some { s with person_state := s.person_state.setInside p true, callback := .returning p }
  | .returning _ => some { s with callback := .idle }

/-- The next access of `check_no_change`. -/
def checkerStep (s : Threads PersonId) (clock : ℚ) : Option (Threads PersonId) :=
  match s.checker with
  | .start => some { s with checker := .snapshot clock }
  -- the snapshot pairs the ids with the records themselves, and a stored record is only ever
  -- written in place: looking it up again by its id finds the same record
  | .snapshot now => some { s with checker := .next now s.person_state.keys }
  | .next _ [] => some { s with checker := .sleeping }
  -- the left operand of `state["inside_roi"] and now - state["last_update"] > ...`
  | .next now (p :: todo) => match s.person_state.get? p with
    | some state =>
      some { s with checker := if state.inside_roi then .compare now p todo else .next now todo }
    | none => none
  -- the right operand, read only where the left one was true
  | .compare now p todo => match s.person_state.get? p with
    | some state =>
      some { s with
        checker := if expired now state.last_update then .alert now p todo else .next now todo }
    | none => none
  | .alert now p todo =>
    some { s with alerts := s.alerts ++ [.salida p], checker := .markOutside now p todo }
  | .markOutside now p todo =>
    some { s with person_state := s.person_state.setInside p false, checker := .next now todo }
  | .sleeping => some { s with checker := .start }

/-- One step of the two threads. -/
def next (s : Threads PersonId) : Label PersonId → Option (Threads PersonId)
  -- the client calls `on_message` from one thread, for one message at a time
  | .message p => if s.callback = .idle then some { s with callback := .lookup p } else none
  | .callback clock => s.callbackStep clock
  | .checker clock => s.checkerStep clock

/-- What one step can do, access by access. -/
inductive Moves (s : Threads PersonId) : Label PersonId → Threads PersonId → Prop
  | message {p} (hpc : s.callback = .idle) : Moves s (.message p) { s with callback := .lookup p }
  | absent {p clock} (hpc : s.callback = .lookup p) (hget : s.person_state.get? p = none) :
      Moves s (.callback clock) { s with callback := .register p }
  | present {p clock state} (hpc : s.callback = .lookup p)
      (hget : s.person_state.get? p = some state) :
      Moves s (.callback clock) { s with callback := .touch p }
  | register {p clock} (hpc : s.callback = .register p) :
      Moves s (.callback clock)
        { s with person_state := s.person_state.register p clock, callback := .test p }
  | touch {p clock} (hpc : s.callback = .touch p) :
      Moves s (.callback clock)
        { s with person_state := s.person_state.touch p clock, callback := .test p }
  | seenInside {p clock state} (hpc : s.callback = .test p)
      (hget : s.person_state.get? p = some state) (hflag : state.inside_roi = true) :
      Moves s (.callback clock) { s with callback := .returning p }
  | seenOutside {p clock state} (hpc : s.callback = .test p)
      (hget : s.person_state.get? p = some state) (hflag : state.inside_roi = false) :
      Moves s (.callback clock) { s with callback := .alert p }
  | entrada {p clock} (hpc : s.callback = .alert p) :
      Moves s (.callback clock)
        { s with alerts := s.alerts ++ [.entrada p], callback := .markInside p }
  | markInside {p clock} (hpc : s.callback = .markInside p) :
      Moves s (.callback clock)
        { s with person_state := s.person_state.setInside p true, callback := .returning p }
  | returns {p clock} (hpc : s.callback = .returning p) :
      Moves s (.callback clock) { s with callback := .idle }
  | readClock {clock} (hpc : s.checker = .start) :
      Moves s (.checker clock) { s with checker := .snapshot clock }
  | snapshot {now clock} (hpc : s.checker = .snapshot now) :
      Moves s (.checker clock) { s with checker := .next now s.person_state.keys }
  | endSweep {now clock} (hpc : s.checker = .next now []) :
      Moves s (.checker clock) { s with checker := .sleeping }
  | isInside {now p todo clock state} (hpc : s.checker = .next now (p :: todo))
      (hget : s.person_state.get? p = some state) (hflag : state.inside_roi = true) :
      Moves s (.checker clock) { s with checker := .compare now p todo }
  | isOutside {now p todo clock state} (hpc : s.checker = .next now (p :: todo))
      (hget : s.person_state.get? p = some state) (hflag : state.inside_roi = false) :
      Moves s (.checker clock) { s with checker := .next now todo }
  | stale {now p todo clock state} (hpc : s.checker = .compare now p todo)
      (hget : s.person_state.get? p = some state)
      (hstale : expired now state.last_update = true) :
      Moves s (.checker clock) { s with checker := .alert now p todo }
  | fresh {now p todo clock state} (hpc : s.checker = .compare now p todo)
      (hget : s.person_state.get? p = some state)
      (hfresh : expired now state.last_update = false) :
      Moves s (.checker clock) { s with checker := .next now todo }
  | salida {now p todo clock} (hpc : s.checker = .alert now p todo) :
      Moves s (.checker clock)
        { s with alerts := s.alerts ++ [.salida p], checker := .markOutside now p todo }
  | markOutside {now p todo clock} (hpc : s.checker = .markOutside now p todo) :
      Moves s (.checker clock)
        { s with person_state := s.person_state.setInside p false, checker := .next now todo }
  | wake {clock} (hpc : s.checker = .sleeping) :
      Moves s (.checker clock) { s with checker := .start }

theorem moves_of_callbackStep {s s' : Threads PersonId} {clock : ℚ}
    (h : s.callbackStep clock = some s') : Moves s (.callback clock) s' := by
  unfold callbackStep at h
  -- one goal for each place of the program counter, in the order of the definition
  split at h
  · cases h
  · rename_i p hpc
    split at h <;> cases h
    · exact .absent hpc ‹_›
    · exact .present hpc ‹_›
  · cases h; exact .register ‹_›
  · cases h; exact .touch ‹_›
  · rename_i p hpc
    split at h <;> cases h
    rename_i state hget
    cases hflag : state.inside_roi
    · exact .seenOutside hpc hget hflag
    · exact .seenInside hpc hget hflag
  · cases h; exact .entrada ‹_›
  · cases h; exact .markInside ‹_›
  · cases h; exact .returns ‹_›

theorem moves_of_checkerStep {s s' : Threads PersonId} {clock : ℚ}
    (h : s.checkerStep clock = some s') : Moves s (.checker clock) s' := by
  unfold checkerStep at h
  split at h
  · cases h; exact .readClock ‹_›
  · cases h; exact .snapshot ‹_›
  · cases h; exact .endSweep ‹_›
  · rename_i now p todo hpc
    split at h <;> cases h
    rename_i state hget
    cases hflag : state.inside_roi
    · exact .isOutside hpc hget hflag
    · exact .isInside hpc hget hflag
  · rename_i now p todo hpc
    split at h <;> cases h
    rename_i state hget
    cases hstale : expired now state.last_update
    · exact .fresh hpc hget hstale
    · exact .stale hpc hget hstale
  · cases h; exact .salida ‹_›
  · cases h; exact .markOutside ‹_›
  · cases h; exact .wake ‹_›

/-- **Inversion**: a step of the threads is one of the listed moves. -/
theorem moves_of_next {s s' : Threads PersonId} {l : Label PersonId} (h : s.next l = some s') :
    Moves s l s' := by
  cases l with
  | message p =>
    simp only [next] at h
    split at h
    · cases h; exact .message ‹_›
    · cases h
  | callback clock => exact moves_of_callbackStep h
  | checker clock => exact moves_of_checkerStep h

end Threads

end DemoColombia.Backend
