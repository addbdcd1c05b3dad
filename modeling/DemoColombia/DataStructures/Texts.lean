import Mathlib.Data.List.DropRight

/-! # Trimming texts and taking them apart at a separator

Texts are lists over any alphabet; `p` tells its blanks.

* `strip p` — without the blanks at both ends; `strip_pad` says that padding does not matter.
* `pieces sep` — the parts a reader gets that goes from separator to separator and stops where
  nothing is left; `pieces_join` says that parts with a separator between or behind them come back.
-/

namespace DemoColombia.Texts

variable {α : Type*}

/-! ## Trimming -/

section Strip

variable (p : α → Bool)

/-- A text without the blanks at its ends. -/
def strip (s : List α) : List α := (s.dropWhile p).rdropWhile p

/-- A text that neither begins nor ends with a blank. -/
structure Bare (s : List α) : Prop where
  head : ∀ c ∈ s.head?, p c = false
  last : ∀ c ∈ s.getLast?, p c = false

variable {p}

theorem dropWhile_pad {l : List α} (h : ∀ c ∈ l, p c = true) (s : List α) :
    (l ++ s).dropWhile p = s.dropWhile p := by
  induction l with
  | nil => rfl
  | cons a l ih =>
    rw [List.cons_append, List.dropWhile_cons_of_pos (h a List.mem_cons_self)]
    exact ih fun c hc => h c (List.mem_cons_of_mem a hc)

theorem rdropWhile_pad {r : List α} (h : ∀ c ∈ r, p c = true) (s : List α) :
    (s ++ r).rdropWhile p = s.rdropWhile p := by
  rw [List.rdropWhile, List.rdropWhile, List.reverse_append,
    dropWhile_pad fun c hc => h c (List.mem_reverse.mp hc)]

theorem dropWhile_bare {s : List α} (h : ∀ c ∈ s.head?, p c = false) : s.dropWhile p = s := by
  cases s with
  | nil => rfl
  | cons c s => exact List.dropWhile_cons_of_neg (by rw [h c rfl]; exact Bool.false_ne_true)

theorem rdropWhile_bare {s : List α} (h : ∀ c ∈ s.getLast?, p c = false) : s.rdropWhile p = s := by
  rw [List.rdropWhile, dropWhile_bare, List.reverse_reverse]
  intro c hc
  exact h c (by rwa [List.head?_reverse] at hc)

/-- **Padding does not matter.** -/
theorem strip_pad {l s r : List α} (hl : ∀ c ∈ l, p c = true) (hs : Bare p s)
    (hr : ∀ c ∈ r, p c = true) : strip p (l ++ s ++ r) = s := by
  cases s with
  | nil =>
    have hall : (l ++ [] ++ r).dropWhile p = [] := by
      rw [List.append_nil, dropWhile_pad hl]
      simpa using dropWhile_pad hr []
    rw [strip, hall]
    rfl
  | cons c s =>
    have hhead : ∀ a ∈ (c :: s ++ r).head?, p a = false := hs.head
    rw [strip, List.append_assoc, dropWhile_pad hl, dropWhile_bare hhead, rdropWhile_pad hr,
      rdropWhile_bare hs.last]

end Strip

/-! ## Taking apart -/

section Pieces

variable [DecidableEq α] (sep : α)

/-- The parts of a text between the separators; nothing follows a separator at the end. -/
def pieces : List α → List (List α)
  | [] => []
  | c :: s =>
    if c = sep then [] :: pieces s
    else
      match pieces s with
      | [] => [[c]]
      | part :: parts => (c :: part) :: parts

variable {sep}

/-- The part up to a separator. -/
theorem pieces_append_cons {part : List α} (h : sep ∉ part) (s : List α) :
    pieces sep (part ++ sep :: s) = part :: pieces sep s := by
  induction part with
  | nil => rw [List.nil_append, pieces, if_pos rfl]
  | cons c part ih =>
    obtain ⟨hc, hpart⟩ := not_or.mp (mt List.mem_cons.mpr h)
    rw [List.cons_append, pieces, if_neg (Ne.symm hc), ih hpart]

/-- The last part. -/
theorem pieces_last {part : List α} (h : sep ∉ part) (hne : part ≠ []) :
    pieces sep part = [part] := by
  induction part with
  | nil => exact absurd rfl hne
  | cons c part ih =>
    obtain ⟨hc, hpart⟩ := not_or.mp (mt List.mem_cons.mpr h)
    rw [pieces, if_neg (Ne.symm hc)]
    cases part with
    | nil => rfl
    | cons d part => rw [ih hpart (List.cons_ne_nil d part)]

/-- Parts with a separator behind each. -/
def join (sep : α) (parts : List (List α)) : List α := parts.flatMap (· ++ [sep])

/-- **The parts come back**, with or without a separator behind the last of them. -/
theorem pieces_join {parts : List (List α)} (h : ∀ part ∈ parts, sep ∉ part) {last : List α}
    (hlast : sep ∉ last) :
    pieces sep (join sep parts ++ last) = parts ++ (if last = [] then [] else [last]) := by
  induction parts with
  | nil =>
    by_cases hnil : last = []
    · rw [hnil, if_pos rfl]
      rfl
    · rw [if_neg hnil]
      exact pieces_last hlast hnil
  | cons part parts ih =>
    have hsplit : join sep (part :: parts) ++ last = part ++ sep :: (join sep parts ++ last) := by
      simp [join]
    rw [hsplit, pieces_append_cons (h part List.mem_cons_self),
      ih fun q hq => h q (List.mem_cons_of_mem part hq), List.cons_append]

end Pieces

end DemoColombia.Texts
