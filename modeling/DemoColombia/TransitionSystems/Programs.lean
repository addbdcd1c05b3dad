import Mathlib.Data.List.Basic

/-! # Programs over a state that may fail

A program takes a state, and returns a value with a new state or fails. `m.Ends s Q` says that if
`m` returns from `s`, then with a value and a state of `Q`; a failing program satisfies everything.
The rules take a program apart along its steps, and a loop by an invariant of the part done. -/

namespace DemoColombia

/-- A program. -/
abbrev Prog (σ α : Type) : Type := StateT σ Option α

namespace Prog

variable {σ α β γ : Type}

/-- A value there may be. -/
def lift (o : Option α) : Prog σ α := fun s => o.map (·, s)

/-- An assertion. -/
def assert (p : Prop) [Decidable p] : Prog σ Unit := fun s => if p then some ((), s) else none

/-- If the program returns from `s`, then with a value and a state of `Q`. -/
def Ends (m : Prog σ α) (s : σ) (Q : α → σ → Prop) : Prop :=
  ∀ a s', m s = some (a, s') → Q a s'

variable {s : σ} {m : Prog σ α} {k : α → Prog σ β} {Q : β → σ → Prop}

theorem ends_pure {a : α} {Q : α → σ → Prop} (h : Q a s) : Ends (pure a) s Q := by
  intro a' s' hrun
  cases hrun
  exact h

theorem ends_bind (h : m.Ends s fun a s' => (k a).Ends s' Q) : Ends (m >>= k) s Q := by
  intro b s'' hrun
  obtain ⟨⟨a, s'⟩, hm, hk⟩ := Option.bind_eq_some_iff.mp hrun
  exact h a s' hm b s'' hk

theorem ends_lift {o : Option α} {Q : α → σ → Prop} (h : ∀ a, o = some a → Q a s) :
    Ends (lift o) s Q := by
  intro a s' hrun
  obtain ⟨a', ha', heq⟩ := Option.map_eq_some_iff.mp hrun
  cases heq
  exact h a ha'

theorem ends_assert {p : Prop} [Decidable p] {Q : Unit → σ → Prop} (h : p → Q () s) :
    Ends (assert p) s Q := by
  intro a s' hrun
  rw [assert] at hrun
  split at hrun
  · cases hrun
    exact h ‹p›
  · cases hrun

theorem Ends.mono {Q Q' : α → σ → Prop} (h : m.Ends s Q) (hQ : ∀ a s', Q a s' → Q' a s') :
    m.Ends s Q' :=
  fun a s' hrun => hQ a s' (h a s' hrun)

/-- **A loop over a list**: what holds of the part done and the variables is kept by each round. -/
theorem ends_foldlM {f : α → γ → Prog σ α} (Inv : List γ → α → σ → Prop) {l : List γ}
    (hstep : ∀ done c rest, l = done ++ c :: rest → ∀ a s, Inv done a s →
      (f a c).Ends s fun a' s' => Inv (done ++ [c]) a' s')
    {a : α} {s : σ} (h : Inv [] a s) : Ends (l.foldlM f a) s (Inv l) := by
  have hgeneral : ∀ (rest done : List γ), l = done ++ rest → ∀ (a : α) (s : σ), Inv done a s →
      Ends (rest.foldlM f a) s (Inv l) := by
    intro rest
    induction rest with
    | nil =>
      rintro done rfl a s h
      rw [List.append_nil]
      exact ends_pure h
    | cons c rest ih =>
      intro done hl a s h
      rw [List.foldlM_cons]
      exact ends_bind ((hstep done c rest hl a s h).mono
        fun a' s' h' => ih (done ++ [c]) (by simpa using hl) a' s' h')
  exact hgeneral l [] rfl a s h

end Prog

end DemoColombia
