import CommandBot.Proofs.Spans

/-!
# Replacing a needle

Replacing every occurrence of a needle goes through a text from the left. It treats two texts that
stand next to each other apart from each other as long as no occurrence straddles the boundary.
-/

namespace CommandBot.Text

variable {needle value t rest : Text}

lemma replaceFrom_eq_replaceAll_drop (needle value : Text) (covered : Nat) (t : Text) :
    replaceFrom needle value covered t = replaceAll (t.drop covered) needle value := by
  induction t generalizing covered with
  | nil => cases covered <;> simp [replaceAll, replaceFrom]
  | cons c r ih =>
    cases covered with
    | zero => rfl
    | succ covered => simpa [replaceFrom] using ih covered

@[simp] lemma replaceAll_nil (needle value : Text) : replaceAll [] needle value = [] := rfl

lemma replaceAll_cons_of_not_isPrefix {c : Char} {r : Text} (value : Text) (h : ¬needle <+: c :: r) :
    replaceAll (c :: r) needle value = c :: replaceAll r needle value := by
  rw [replaceAll, replaceFrom, if_neg (by simpa using h)]
  rfl

lemma replaceAll_needle_append (hne : needle ≠ []) (value rest : Text) :
    replaceAll (needle ++ rest) needle value = value ++ replaceAll rest needle value := by
  obtain ⟨c, r, rfl⟩ := List.exists_cons_of_ne_nil hne
  rw [replaceAll, List.cons_append, replaceFrom, ← List.cons_append, if_pos (by simp)]
  simp [replaceFrom_eq_replaceAll_drop]

/-- Induction along a replacement: a text is empty, starts with the needle, or does not. -/
theorem replacement_induction (hne : needle ≠ []) {P : Text → Prop} (nil : P [])
    (skip : ∀ c r, ¬needle <+: c :: r → P r → P (c :: r))
    (hit : ∀ rest, P rest → P (needle ++ rest)) (t : Text) : P t := by
  induction hn : t.length using Nat.strong_induction_on generalizing t with
  | _ n ih =>
    subst hn
    cases t with
    | nil => exact nil
    | cons c r =>
      by_cases hstart : needle <+: c :: r
      · obtain ⟨rest, he⟩ := hstart
        rw [← he]
        refine hit rest (ih rest.length ?_ rest rfl)
        have hpos := List.length_pos_iff.mpr hne
        rw [← he, List.length_append]
        omega
      · exact skip c r hstart (ih r.length (by simp) r rfl)

/-- No occurrence of a needle that starts in `t` reaches into the text that follows. -/
def Apart (needle t rest : Text) : Prop :=
  ∀ u, u <:+ t → u ≠ [] → needle <+: u ++ rest → needle <+: u

lemma Apart.of_suffix {s : Text} (h : Apart needle t rest) (hs : s <:+ t) : Apart needle s rest :=
  fun u hu => h u (hu.trans hs)

/-- A needle that has its first character once does not reach into what starts with that character. -/
lemma Apart.of_head {c : Char} {r : Text} (hc : c ∉ r) (t rest : Text) :
    Apart (c :: r) t (c :: rest) := by
  intro u _ hne hstart
  rcases List.prefix_or_prefix_of_prefix hstart (List.prefix_append u _) with hin | ⟨v, hv⟩
  · exact hin
  · rw [← hv, List.prefix_append_right_inj] at hstart
    cases v with
    | nil => rw [← hv, List.append_nil]
    | cons d v =>
      obtain ⟨rfl, -⟩ := List.cons_prefix_cons.mp hstart
      obtain ⟨e, u, rfl⟩ := List.exists_cons_of_ne_nil hne
      obtain ⟨-, rfl⟩ := List.cons.inj hv
      simp at hc

/-- A needle that has its last character once does not reach out of what ends with that character. -/
lemma Apart.of_last {c : Char} {s : Text} (hc : c ∉ s) (t rest : Text) :
    Apart (s ++ [c]) (t ++ [c]) rest := by
  intro u hu hne hstart
  rcases List.prefix_or_prefix_of_prefix hstart (List.prefix_append u _) with hin | hbegun
  · exact hin
  · rcases List.prefix_concat_iff.mp hbegun with rfl | hbegun
    · exact List.prefix_refl _
    · have hlast : [c] <:+ u := singleton_suffix_of_suffix (List.suffix_append t [c]) hu hne
      exact absurd (hbegun.subset (hlast.subset List.mem_cons_self)) hc

/-- Two texts that occurrences of the needle keep apart are treated apart. -/
theorem replaceAll_append_of_apart (hne : needle ≠ []) (value : Text) (h : Apart needle t rest) :
    replaceAll (t ++ rest) needle value =
      replaceAll t needle value ++ replaceAll rest needle value := by
  induction t using replacement_induction hne with
  | nil => rfl
  | skip c r hstart ih =>
    have hstart' : ¬needle <+: c :: (r ++ rest) := fun hp =>
      hstart (h (c :: r) (List.suffix_refl _) (List.cons_ne_nil _ _) hp)
    rw [List.cons_append, replaceAll_cons_of_not_isPrefix value hstart',
      replaceAll_cons_of_not_isPrefix value hstart, ih (h.of_suffix (List.suffix_cons c r)),
      List.cons_append]
  | hit r ih =>
    rw [List.append_assoc, replaceAll_needle_append hne, replaceAll_needle_append hne,
      ih (h.of_suffix (List.suffix_append needle r)), List.append_assoc]

lemma replaceAll_of_not_infix (hne : needle ≠ []) (value : Text) (h : ¬needle <:+: t) :
    replaceAll t needle value = t := by
  induction t using replacement_induction hne with
  | nil => rfl
  | skip c r hstart ih =>
    rw [replaceAll_cons_of_not_isPrefix value hstart,
      ih fun hi => h (hi.trans (List.suffix_cons c r).isInfix)]
  | hit r ih => exact absurd (List.prefix_append needle r).isInfix h

lemma replaceAll_self (hne : needle ≠ []) (value : Text) : replaceAll needle needle value = value := by
  have hwhole := replaceAll_needle_append hne value []
  rw [List.append_nil] at hwhole
  exact hwhole.trans (List.append_nil value)

/-- Replacement by a character brings in nothing without that character. -/
lemma isPrefix_of_isPrefix_replaceAll {c : Char} (hne : needle ≠ []) {u : Text} (hc : c ∉ u)
    (h : u <+: replaceAll t needle [c]) : u <+: t := by
  induction t using replacement_induction hne generalizing u with
  | nil => exact h
  | skip d r hstart ih =>
    rw [replaceAll_cons_of_not_isPrefix _ hstart] at h
    cases u with
    | nil => exact List.nil_prefix
    | cons e u =>
      obtain ⟨rfl, hu⟩ := List.cons_prefix_cons.mp h
      exact List.cons_prefix_cons.mpr ⟨rfl, ih (fun hm => hc (List.mem_cons_of_mem e hm)) hu⟩
  | hit rest ih =>
    rw [replaceAll_needle_append hne] at h
    cases u with
    | nil => exact List.nil_prefix
    | cons e u =>
      obtain ⟨rfl, -⟩ := List.cons_prefix_cons.mp h
      exact absurd List.mem_cons_self hc

/-- A needle is gone after it is replaced by a character that it does not have. -/
theorem not_infix_replaceAll {c : Char} (hne : needle ≠ []) (hc : c ∉ needle) (t : Text) :
    ¬needle <:+: replaceAll t needle [c] := by
  intro h
  induction t using replacement_induction hne with
  | nil => exact hne (List.infix_nil.mp h)
  | skip d r hstart ih =>
    have hskip := replaceAll_cons_of_not_isPrefix [c] hstart
    rw [hskip] at h
    rcases List.infix_cons_iff.mp h with hprefix | hinfix
    · rw [← hskip] at hprefix
      exact hstart (isPrefix_of_isPrefix_replaceAll hne hc hprefix)
    · exact ih hinfix
  | hit rest ih =>
    rw [replaceAll_needle_append hne, List.singleton_append] at h
    rcases List.infix_cons_iff.mp h with hprefix | hinfix
    · obtain ⟨d, needle, rfl⟩ := List.exists_cons_of_ne_nil hne
      obtain ⟨rfl, -⟩ := List.cons_prefix_cons.mp hprefix
      exact hc List.mem_cons_self
    · exact ih hinfix

/-- Replacing leaves nothing of a text exactly if the text is the needle, once or several times in a
row, and the value is empty. -/
theorem replaceAll_eq_nil_iff (hne : needle ≠ []) :
    replaceAll t needle value = [] ↔
      t = [] ∨ value = [] ∧ ∃ n, t = (List.replicate (n + 1) needle).flatten := by
  induction t using replacement_induction hne with
  | nil => simp
  | skip c r hstart ih =>
    have hrow : ∀ n, c :: r ≠ (List.replicate (n + 1) needle).flatten := by
      intro n he
      rw [List.replicate_succ, List.flatten_cons] at he
      exact hstart ⟨_, he.symm⟩
    simp [replaceAll_cons_of_not_isPrefix value hstart, hrow]
  | hit rest ih =>
    rw [replaceAll_needle_append hne, List.append_eq_nil_iff, ih]
    constructor
    · rintro ⟨hvalue, rfl | ⟨-, n, rfl⟩⟩
      · exact .inr ⟨hvalue, 0, by simp⟩
      · exact .inr ⟨hvalue, n + 1, by simp [List.replicate_succ]⟩
    · rintro (hnil | ⟨hvalue, n, hn⟩)
      · exact absurd (List.append_eq_nil_iff.mp hnil).1 hne
      · rw [List.replicate_succ, List.flatten_cons, List.append_cancel_left_eq] at hn
        refine ⟨hvalue, ?_⟩
        cases n with
        | zero => exact .inl (by simpa using hn)
        | succ n => exact .inr ⟨hvalue, n, hn⟩

end CommandBot.Text
