import Mathlib.Data.List.Nodup

/-! # Insertion-ordered dictionaries

`Dict α β` is the dictionary of a language that keeps keys in the order of their first insertion:
an association list whose keys are pairwise distinct, the distinctness carried as a field.
Assigning to a key that is present rewrites its value in place; assigning to a new key appends.
`keys` is the order a loop over a snapshot of the items visits. -/

namespace DemoColombia

/-- An insertion-ordered dictionary: entries with pairwise distinct keys, oldest first. -/
structure Dict (α β : Type*) where
  /-- The entries, in the order their keys were first inserted. -/
  entries : List (α × β)
  /-- No key occurs twice. -/
  nodup : (entries.map Prod.fst).Nodup

namespace Dict

variable {α β : Type*}

/-- The dictionary with no entries. -/
def empty : Dict α β := ⟨[], List.nodup_nil⟩

/-- Dictionaries are equal when their entries are. -/
theorem eq_iff {d d' : Dict α β} : d = d' ↔ d.entries = d'.entries := by
  cases d; cases d'; simp

instance [DecidableEq α] [DecidableEq β] : DecidableEq (Dict α β) :=
  fun _ _ => decidable_of_iff _ eq_iff.symm

/-- The keys, in insertion order. -/
def keys (d : Dict α β) : List α := d.entries.map Prod.fst

theorem nodup_keys (d : Dict α β) : d.keys.Nodup := d.nodup

variable [DecidableEq α]

/-- The value stored under `a`, if any. -/
def get? (d : Dict α β) (a : α) : Option β := (d.entries.find? (·.1 = a)).map Prod.snd

/-- The entries after `d[a] = b`: rewritten in place when the key is present, else appended. -/
def setEntries (d : Dict α β) (a : α) (b : β) : List (α × β) :=
  if a ∈ d.keys then d.entries.map fun e => if e.1 = a then (e.1, b) else e
  else d.entries ++ [(a, b)]

/-- Rewriting in place keeps the keys; appending adds the new key at the end. -/
theorem map_fst_setEntries (d : Dict α β) (a : α) (b : β) :
    (d.setEntries a b).map Prod.fst = if a ∈ d.keys then d.keys else d.keys ++ [a] := by
  unfold setEntries
  split
  · rw [List.map_map]
    refine List.map_congr_left fun e _ => ?_
    simp only [Function.comp_apply]
    split <;> rfl
  · simp [keys]

/-- Assignment `d[a] = b`. -/
def set (d : Dict α β) (a : α) (b : β) : Dict α β where
  entries := d.setEntries a b
  nodup := by
    rw [map_fst_setEntries]
    split
    · exact d.nodup
    · rename_i ha
      exact List.nodup_append'.mpr ⟨d.nodup, List.nodup_singleton a, by simpa using ha⟩

@[simp] theorem get?_empty (a : α) : (empty : Dict α β).get? a = none := rfl

/-- A key is stored exactly when looking it up succeeds. -/
theorem mem_keys_iff (d : Dict α β) (a : α) : a ∈ d.keys ↔ (d.get? a).isSome := by
  simp [keys, get?]

theorem get?_eq_none_iff (d : Dict α β) (a : α) : d.get? a = none ↔ a ∉ d.keys := by
  rw [mem_keys_iff, Option.not_isSome_iff_eq_none]

/-- Looking up after rewriting in place, on the bare entries. -/
private theorem find?_map_rewrite (es : List (α × β)) (a c : α) (b : β) :
    ((es.map fun e => if e.1 = a then (e.1, b) else e).find? (·.1 = c)).map Prod.snd
      = if c = a then (es.find? (·.1 = a)).map fun _ => b
        else (es.find? (·.1 = c)).map Prod.snd := by
  induction es with
  | nil => simp
  | cons e es ih =>
    rw [List.map_cons, List.find?_cons, List.find?_cons, List.find?_cons]
    by_cases hea : e.1 = a <;> by_cases hca : c = a
    · -- the entry found before is the one rewritten
      subst hca
      simp [hea]
    · -- the entry is rewritten, but under another key
      have hec : e.1 ≠ c := fun h => hca (h.symm.trans hea)
      simpa [hea, hec, hca, Ne.symm hca] using ih
    · subst hca
      simpa [hea] using ih
    · by_cases hec : e.1 = c
      · simp [hec, hca]
      · simpa [hea, hec, hca] using ih

/-- **Lookup after assignment**: the assigned key reads the new value, every other key is framed. -/
@[simp] theorem get?_set (d : Dict α β) (a c : α) (b : β) :
    (d.set a b).get? c = if c = a then some b else d.get? c := by
  by_cases ha : a ∈ d.keys
  · -- rewritten in place
    have hentries : (d.set a b).entries = d.entries.map fun e => if e.1 = a then (e.1, b) else e :=
      if_pos ha
    have hsome := (mem_keys_iff d a).mp ha
    rw [get?, hentries, find?_map_rewrite]
    by_cases hca : c = a
    · obtain ⟨v, hv⟩ := Option.isSome_iff_exists.mp hsome
      obtain ⟨e, he, -⟩ := Option.map_eq_some_iff.mp hv
      simp [hca, he]
    · rw [if_neg hca, if_neg hca]; rfl
  · -- appended
    have hentries : (d.set a b).entries = d.entries ++ [(a, b)] := if_neg ha
    have hnone := (get?_eq_none_iff d a).mpr ha
    rw [get?, hentries, List.find?_append]
    by_cases hca : c = a
    · subst hca
      rw [get?, Option.map_eq_none_iff] at hnone
      simp [hnone]
    · have : a ≠ c := fun h => hca h.symm
      simp [hca, this, get?]

/-- **Lookup after updating the value of a key**, where there is one: a missing key stays missing.
-/
theorem get?_of_update {d d' : Dict α β} {a : α} (f : β → β)
    (hsome : ∀ b, d.get? a = some b → d' = d.set a (f b)) (hnone : d.get? a = none → d' = d)
    (c : α) : d'.get? c = if c = a then (d.get? c).map f else d.get? c := by
  by_cases hc : c = a
  · subst hc
    cases hget : d.get? c with
    | none => rw [hnone hget, if_pos rfl, hget, Option.map_none]
    | some b => rw [hsome b hget, get?_set, if_pos rfl, if_pos rfl, Option.map_some]
  · rw [if_neg hc]
    cases hget : d.get? a with
    | none => rw [hnone hget]
    | some b => rw [hsome b hget, get?_set, if_neg hc]

end Dict

end DemoColombia
