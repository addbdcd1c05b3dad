import Mathlib.Data.List.Forall2
import Mathlib.Data.List.Induction

/-! # Graphs of operations

A graph is a list of nodes, each with an operation and the numbers of the nodes it takes its inputs
from. A meaning of the operations gives each node a value, in the order of the list; a node whose
inputs come later, or to which its operation does not apply, has none.

* `value_append` — more nodes behind do not change the values there are.
* `value_concat` — the value of the last node. -/

namespace DemoColombia.Dataflow

variable {ω ν : Type*}

/-- A node of a graph. -/
structure Node (ω : Type*) where
  op : ω
  inputs : List ℕ
  deriving DecidableEq

variable (sem : ω → List ν → Option ν)

/-- The value of a node behind nodes with these values. -/
def Node.value (n : Node ω) (vs : List (Option ν)) : Option ν :=
  (n.inputs.mapM fun i => vs[i]?.join).bind (sem n.op)

/-- The values of the nodes. -/
def values (g : List (Node ω)) : List (Option ν) :=
  g.foldl (fun vs n => vs ++ [n.value sem vs]) []

/-- The value of a node. -/
def value (g : List (Node ω)) (i : ℕ) : Option ν := (values sem g)[i]?.join

variable {sem}

theorem values_concat (g : List (Node ω)) (n : Node ω) :
    values sem (g ++ [n]) = values sem g ++ [n.value sem (values sem g)] := by
  rw [values, List.foldl_append]
  rfl

@[simp] theorem length_values {g : List (Node ω)} : (values sem g).length = g.length := by
  induction g using List.reverseRecOn with
  | nil => rfl
  | append_singleton g n ih => rw [values_concat, List.length_append, ih, List.length_append]; rfl

theorem lt_of_value {g : List (Node ω)} {i : ℕ} {v : ν} (h : value sem g i = some v) :
    i < g.length := by
  by_contra hge
  rw [value, List.getElem?_eq_none (by rw [length_values]; exact Nat.le_of_not_lt hge)] at h
  cases h

/-- **More nodes behind** do not change the values there are. -/
theorem value_append {g : List (Node ω)} {i : ℕ} {v : ν} (h : value sem g i = some v)
    (g' : List (Node ω)) : value sem (g ++ g') i = some v := by
  induction g' using List.reverseRecOn with
  | nil => rwa [List.append_nil]
  | append_singleton g' n ih =>
    have hlt : i < (values sem (g ++ g')).length := by
      rw [length_values]
      exact lt_of_value ih
    rw [value, ← List.append_assoc, values_concat, List.getElem?_append_left hlt]
    exact ih

/-- **The last node**: its operation applied to the values of its inputs. -/
theorem value_concat {g : List (Node ω)} {n : Node ω} {vs : List ν}
    (h : List.Forall₂ (fun i v => value sem g i = some v) n.inputs vs) :
    value sem (g ++ [n]) g.length = sem n.op vs := by
  have hinputs : n.inputs.mapM (fun i => (values sem g)[i]?.join) = some vs := by
    generalize n.inputs = inputs at h
    induction h with
    | nil => rfl
    | cons hi _ ih =>
      rw [List.mapM_cons, ih, show (values sem g)[_]?.join = some _ from hi]
      rfl
  have hlast : (values sem (g ++ [n]))[g.length]? = some (n.value sem (values sem g)) := by
    rw [values_concat, List.getElem?_append_right (Nat.le_of_eq length_values), length_values,
      Nat.sub_self]
    rfl
  rw [value, hlast, Option.join_some, Node.value, hinputs, Option.bind_some]

end DemoColombia.Dataflow
