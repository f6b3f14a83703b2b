import CommandBot.Text.Basic
import Mathlib.Data.List.Infix
import Mathlib.Data.List.TakeWhile
import Mathlib.Tactic.Lemma

/-!
# Spans of characters

The facts about prefixes, suffixes and runs of characters that readers of texts rest on.
-/

namespace CommandBot.Text

lemma after?_eq_some_iff {t start r : Text} : t.after? start = some r ↔ t = start ++ r := by
  rw [after?, List.isPrefixOf?_eq_some_iff_append_eq, eq_comm]

lemma before?_eq_some_iff {t finish r : Text} : t.before? finish = some r ↔ t = r ++ finish := by
  simp only [before?, Option.map_eq_some_iff, List.isPrefixOf?_eq_some_iff_append_eq]
  constructor
  · rintro ⟨u, hu, rfl⟩
    simpa using (congrArg List.reverse hu).symm
  · rintro rfl
    exact ⟨r.reverse, by simp, by simp⟩

lemma takeWhile_append_cons {p : Char → Bool} {u r : Text} {c : Char} (hu : ∀ d ∈ u, p d = true)
    (hc : p c = false) : (u ++ c :: r).takeWhile p = u := by
  simp [List.takeWhile_append_of_pos hu, hc]

lemma dropWhile_append_cons {p : Char → Bool} {u r : Text} {c : Char} (hu : ∀ d ∈ u, p d = true)
    (hc : p c = false) : (u ++ c :: r).dropWhile p = c :: r := by
  simp [List.dropWhile_append_of_pos hu, hc]

lemma eq_takeWhile_append_of_dropWhile {p : Char → Bool} {t r : Text} {c : Char}
    (h : t.dropWhile p = c :: r) : t = t.takeWhile p ++ c :: r := by
  rw [← h, List.takeWhile_append_dropWhile]

lemma not_of_dropWhile_eq_cons {p : Char → Bool} {t r : Text} {c : Char}
    (h : t.dropWhile p = c :: r) : p c = false := by
  have hne : t.dropWhile p ≠ [] := by simp [h]
  have hhead := List.head_dropWhile_not p hne
  simpa [h] using hhead

lemma takeWhile_append_dropWhile_of_pos {p : Char → Bool} {u : Text} (hu : ∀ d ∈ u, p d = true)
    (t : Text) : (u ++ t.dropWhile p).takeWhile p = u := by
  cases h : t.dropWhile p with
  | nil => rw [List.append_nil, List.takeWhile_eq_self_iff.mpr hu]
  | cons c r => exact takeWhile_append_cons hu (not_of_dropWhile_eq_cons h)

lemma of_mem_takeWhile {p : Char → Bool} {t : Text} {c : Char} (h : c ∈ t.takeWhile p) :
    p c = true :=
  List.all_eq_true.mp List.all_takeWhile c h

lemma splitOnce?_eq_some_iff {t before after : Text} {c : Char} :
    t.splitOnce? c = some (before, after) ↔ c ∉ before ∧ t = before ++ c :: after := by
  constructor
  · intro h
    rw [splitOnce?] at h
    split at h
    · cases h
    · rename_i d r hdrop
      obtain ⟨rfl, rfl⟩ := Prod.mk.inj (Option.some.inj h)
      have hd : d = c := by simpa using not_of_dropWhile_eq_cons hdrop
      refine ⟨fun hmem => by simpa using of_mem_takeWhile hmem, ?_⟩
      rw [← hd, ← hdrop, hd, List.takeWhile_append_dropWhile]
  · rintro ⟨hbefore, rfl⟩
    have hall : ∀ d ∈ before, (d != c) = true := fun d hd => by
      simpa using fun he : d = c => hbefore (he ▸ hd)
    rw [splitOnce?, dropWhile_append_cons hall (by simp), takeWhile_append_cons hall (by simp)]

/-- A suffix that starts with a character whose first occurrence is known starts no earlier. -/
lemma suffix_of_cons_suffix {c : Char} {u r later : Text} (hu : c ∉ u)
    (h : c :: later <:+ u ++ c :: r) : later <:+ r := by
  obtain ⟨x, hx⟩ := h
  rcases List.append_eq_append_iff.mp hx with ⟨y, rfl, hy⟩ | ⟨y, -, hy⟩
  · cases y with
    | nil =>
      obtain ⟨-, rfl⟩ := List.cons.inj hy
      exact List.suffix_refl _
    | cons d y =>
      obtain ⟨rfl, -⟩ := List.cons.inj hy
      simp at hu
  · cases y with
    | nil =>
      obtain ⟨-, rfl⟩ := List.cons.inj hy
      exact List.suffix_refl _
    | cons d y =>
      obtain ⟨-, rfl⟩ := List.cons.inj hy
      exact List.suffix_append_of_suffix (List.suffix_cons _ _)

/-- A suffix of two texts together is one of the second, or has a part of the first before it. -/
lemma suffix_append_cases {s t rest : Text} (h : s <:+ t ++ rest) :
    s <:+ rest ∨ ∃ u, u ≠ [] ∧ u <:+ t ∧ s = u ++ rest := by
  obtain ⟨before, he⟩ := h
  rcases List.append_eq_append_iff.mp he with ⟨u, ht, hs⟩ | ⟨u, -, hrest⟩
  · by_cases hne : u = []
    · subst hne
      exact .inl ⟨[], by simpa using hs⟩
    · exact .inr ⟨u, hne, ⟨before, ht.symm⟩, hs⟩
  · exact .inl ⟨u, hrest.symm⟩

lemma suffix_tail_of_suffix {s t : Text} (hs : s <:+ t) (hne : s ≠ t) : s <:+ t.tail := by
  obtain ⟨before, rfl⟩ := hs
  cases before with
  | nil => exact absurd rfl hne
  | cons c before => exact List.suffix_append before s

lemma singleton_suffix_of_suffix {c : Char} {s t : Text} (ht : [c] <:+ t) (hs : s <:+ t)
    (hne : s ≠ []) : [c] <:+ s :=
  List.suffix_of_suffix_length_le ht hs (List.length_pos_iff.mpr hne)

lemma infix_of_infix_append {c : Char} {v t rest : Text} (hc : c ∉ t) (h : c :: v <:+: t ++ rest) :
    c :: v <:+: rest := by
  induction t with
  | nil => exact h
  | cons d t ih =>
    obtain ⟨hd, ht⟩ := not_or.mp (mt List.mem_cons.mpr hc)
    rcases List.infix_cons_iff.mp h with hstart | hinfix
    · exact absurd (List.cons_prefix_cons.mp hstart).1 hd
    · exact ih ht hinfix

end CommandBot.Text
