import Mathlib.Data.List.Forall2
import Mathlib.Tactic.Lemma

/-!
# Results of fallible steps

A chain of fallible steps comes to a result exactly if every step does. What each of them gave is read
off the result.
-/

namespace CommandBot

lemma exists_of_bind_eq_ok {ε α β : Type} {x : Except ε α} {f : α → Except ε β} {b : β}
    (h : x >>= f = .ok b) : ∃ a, x = .ok a ∧ f a = .ok b := by
  cases x with
  | error e => cases h
  | ok a => exact ⟨a, rfl, h⟩

lemma map_eq_ok_iff {ε α β : Type} {x : Except ε α} {f : α → β} {b : β} :
    x.map f = .ok b ↔ ∃ a, x = .ok a ∧ f a = b := by
  cases x <;> simp [Except.map]

lemma mapError_eq_ok_iff {ε ε' α : Type} {x : Except ε α} {f : ε → ε'} {a : α} :
    x.mapError f = .ok a ↔ x = .ok a := by
  cases x <;> simp [Except.mapError]

/-- A list is read if every entry is, whatever relation says what an entry is read as. -/
lemma mapM_eq_ok_iff {ε α β : Type} {f : α → Except ε β} {R : α → β → Prop} {xs : List α}
    {ys : List β} (h : ∀ x ∈ xs, ∀ y, f x = .ok y ↔ R x y) :
    xs.mapM f = .ok ys ↔ List.Forall₂ R xs ys := by
  induction xs generalizing ys with
  | nil => cases ys <;> simp [pure, Except.pure]
  | cons x xs ih =>
    obtain ⟨hx, hxs⟩ := List.forall_mem_cons.mp h
    rw [List.mapM_cons]
    constructor
    · intro hread
      obtain ⟨y, hy, hread⟩ := exists_of_bind_eq_ok hread
      obtain ⟨rest, hrest, hread⟩ := exists_of_bind_eq_ok hread
      obtain rfl := Except.ok.inj hread
      exact .cons ((hx y).mp hy) ((ih hxs).mp hrest)
    · rintro (_ | ⟨hy, hrest⟩)
      rw [(hx _).mpr hy, (ih hxs).mpr hrest]
      rfl

lemma exists_of_forall₂ {α β : Type} {R : α → β → Prop} {xs : List α} {ys : List β}
    (h : List.Forall₂ R xs ys) {x : α} (hx : x ∈ xs) : ∃ y, R x y := by
  have hboth : List.Forall₂ (fun x y => (∃ y, R x y) ∧ R x y) xs ys :=
    h.imp fun x y hxy => ⟨⟨y, hxy⟩, hxy⟩
  exact ((List.forall₂_and_left xs ys).mp hboth).1 x hx

end CommandBot
