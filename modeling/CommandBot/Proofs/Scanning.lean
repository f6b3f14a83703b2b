import CommandBot.Text.Scan
import Mathlib.Data.List.Infix
import Mathlib.Tactic.Lemma

/-!
# Counting the occurrences of a scan

A scan takes the leftmost occurrence it can, over and over. For a matcher whose occurrences end in
the order in which they start, no other selection of disjoint occurrences has more of them. This file
gives the equations of a scan and proves that maximality.
-/

namespace CommandBot.Text

variable {α β : Type}

lemma piecesFrom_eq_pieces_drop (m : Matcher α) (covered : Nat) (t : Text) :
    piecesFrom m covered t = pieces m (t.drop covered) := by
  induction t generalizing covered with
  | nil => cases covered <;> simp [pieces, piecesFrom]
  | cons c r ih =>
    cases covered with
    | zero => rfl
    | succ covered => simpa [piecesFrom] using ih covered

@[simp] lemma occurrences_nil (m : Matcher α) : occurrences m [] = [] := rfl

lemma pieces_cons_of_none {m : Matcher α} {c : Char} {r : Text} (h : m (c :: r) = none) :
    pieces m (c :: r) = .plain c :: pieces m r := by
  simp [pieces, piecesFrom, h]

lemma pieces_of_some {m : Matcher α} {t read rest : Text} {a : α} (h : m t = some (a, rest))
    (ht : t = read ++ rest) (hne : read ≠ []) :
    pieces m t = .found read a :: pieces m rest := by
  obtain ⟨c, r, rfl⟩ := List.exists_cons_of_ne_nil hne
  subst ht
  have hlen : (r ++ rest).length - rest.length = r.length := by
    simp
  rw [pieces, List.cons_append, piecesFrom, ← List.cons_append, h]
  simp only [hlen, List.take_left, piecesFrom_eq_pieces_drop, List.drop_left]

lemma occurrences_cons_of_none {m : Matcher α} {c : Char} {r : Text} (h : m (c :: r) = none) :
    occurrences m (c :: r) = occurrences m r := by
  simp only [occurrences, pieces_cons_of_none h, List.filterMap_cons, Piece.occurrence?]

lemma occurrences_of_some {m : Matcher α} {t read rest : Text} {a : α} (h : m t = some (a, rest))
    (ht : t = read ++ rest) (hne : read ≠ []) :
    occurrences m t = (read, a) :: occurrences m rest := by
  simp only [occurrences, pieces_of_some h ht hne, List.filterMap_cons, Piece.occurrence?]

/-- Induction along a scan: a text is empty, starts with no occurrence, or starts with one. -/
theorem Matcher.Consumes.scan_induction {m : Matcher α} (hm : m.Consumes) {P : Text → Prop}
    (nil : P []) (skip : ∀ c r, m (c :: r) = none → P r → P (c :: r))
    (hit : ∀ read a rest, read ≠ [] → m (read ++ rest) = some (a, rest) → P rest →
      P (read ++ rest)) (t : Text) : P t := by
  induction hn : t.length using Nat.strong_induction_on generalizing t with
  | _ n ih =>
    subst hn
    cases t with
    | nil => exact nil
    | cons c r =>
      cases h : m (c :: r) with
      | none => exact skip c r h (ih r.length (by simp) r rfl)
      | some found =>
        obtain ⟨a, rest⟩ := found
        obtain ⟨read, hne, he⟩ := hm _ _ _ h
        have hlt : rest.length < (c :: r).length := by
          have hpos := List.length_pos_iff.mpr hne
          rw [he, List.length_append]
          omega
        rw [he] at h ⊢
        exact hit read a rest hne h (ih rest.length hlt rest rfl)

/-- Every occurrence of a scan was read at the head of some suffix of the text. -/
theorem exists_suffix_of_mem_occurrences {m : Matcher α} (hm : m.Consumes) {t needle : Text} {a : α}
    (h : (needle, a) ∈ occurrences m t) :
    ∃ rest, needle ++ rest <:+ t ∧ m (needle ++ rest) = some (a, rest) := by
  induction t using hm.scan_induction with
  | nil => simp at h
  | skip c r hnone ih =>
    rw [occurrences_cons_of_none hnone] at h
    obtain ⟨rest, hs, hread⟩ := ih h
    exact ⟨rest, hs.trans (List.suffix_cons c r), hread⟩
  | hit read b rest hne hsome ih =>
    rw [occurrences_of_some hsome rfl hne, List.mem_cons] at h
    rcases h with h | h
    · obtain ⟨rfl, rfl⟩ := Prod.mk.inj h
      exact ⟨rest, List.suffix_refl _, hsome⟩
    · obtain ⟨rest', hs, hread⟩ := ih h
      exact ⟨rest', hs.trans (List.suffix_append read rest), hread⟩

lemma found_mem_pieces_iff {m : Matcher α} {t needle : Text} {a : α} :
    .found needle a ∈ pieces m t ↔ (needle, a) ∈ occurrences m t := by
  rw [occurrences, List.mem_filterMap]
  constructor
  · intro h
    exact ⟨_, h, rfl⟩
  · rintro ⟨p, hp, he⟩
    cases p with
    | plain c => simp [Piece.occurrence?] at he
    | found needle' a' =>
      obtain ⟨rfl, rfl⟩ := Prod.mk.inj (Option.some.inj he)
      exact hp

/-- From any of its pieces on, a scan is the scan of the rest of the text. -/
theorem pieces_of_pieces_eq_append {m : Matcher α} (hm : m.Consumes) {t : Text}
    {before after : List (Piece α)} (h : pieces m t = before ++ after) :
    pieces m (after.flatMap Piece.text) = after := by
  induction t using hm.scan_induction generalizing before with
  | nil =>
    obtain ⟨-, rfl⟩ := List.append_eq_nil_iff.mp h.symm
    rfl
  | skip c r hnone ih =>
    cases before with
    | nil =>
      obtain rfl : pieces m (c :: r) = after := h
      rw [text_pieces hm]
    | cons p before =>
      rw [pieces_cons_of_none hnone] at h
      exact ih (List.cons.inj h).2
  | hit read a rest hne hread ih =>
    cases before with
    | nil =>
      obtain rfl : pieces m (read ++ rest) = after := h
      rw [text_pieces hm]
    | cons p before =>
      rw [pieces_of_some hread rfl hne] at h
      exact ih (List.cons.inj h).2

/-- A selection of disjoint occurrences in a text, in order. Each `next` passes over some characters
and takes one occurrence. -/
inductive Selection (m : Matcher α) : Text → Nat → Prop
  | zero (t : Text) : Selection m t 0
  | next (passed : Text) {t rest : Text} {a : α} {n : Nat} :
      m t = some (a, rest) → Selection m rest n → Selection m (passed ++ t) (n + 1)

/-- Occurrences end in the order in which they start. -/
def Matcher.EndsInOrder (m : Matcher α) : Prop :=
  ∀ {s t : Text} {a b : α} {rest later : Text}, s <:+ t → m t = some (a, rest) →
    m s = some (b, later) → later <:+ rest

/-- Where `m` reads an occurrence `m'` reads one too, and that one ends no later. -/
def Matcher.Refines (m : Matcher α) (m' : Matcher β) : Prop :=
  ∀ {t : Text} {a : α} {rest : Text}, m t = some (a, rest) →
    ∃ b sooner, m' t = some (b, sooner) ∧ rest <:+ sooner

namespace Selection

variable {m : Matcher α} {m' : Matcher β} {s t : Text} {n : Nat}

lemma prepend (h : Selection m t n) (u : Text) : Selection m (u ++ t) n := by
  cases h with
  | zero => exact .zero _
  | next passed hread htail =>
    rw [← List.append_assoc]
    exact .next (u ++ passed) hread htail

lemma of_suffix (h : Selection m s n) (hs : s <:+ t) : Selection m t n := by
  obtain ⟨u, rfl⟩ := hs
  exact h.prepend u

/-- Taking the occurrence at the head gives up at most the first one selected. -/
lemma rest (horder : m.EndsInOrder) (h : Selection m t (n + 1)) {a : α} {rest : Text}
    (hread : m t = some (a, rest)) : Selection m rest n := by
  cases h with
  | next passed hread' htail =>
    exact htail.of_suffix (horder (List.suffix_append passed _) hread hread')

lemma tail_of_none {c : Char} {r : Text} (h : Selection m (c :: r) n) (hnone : m (c :: r) = none) :
    Selection m r n := by
  generalize ht : c :: r = t at h
  cases h with
  | zero => exact .zero r
  | next passed hread htail =>
    cases passed with
    | nil =>
      rw [List.nil_append] at ht
      simp [← ht, hnone] at hread
    | cons d passed =>
      obtain ⟨-, rfl⟩ := List.cons.inj ht
      exact .next passed hread htail

/-- Among matchers, the coarser one finds at least as many disjoint occurrences. -/
theorem coarsen (h : Selection m t n) (hrefines : m.Refines m') : Selection m' t n := by
  induction h with
  | zero t => exact .zero t
  | next passed hread _ ih =>
    obtain ⟨b, sooner, hread', hs⟩ := hrefines hread
    exact .next passed hread' (ih.of_suffix hs)

/-- The leftmost selection is the largest. -/
theorem le_length_occurrences (hm : m.Consumes) (horder : m.EndsInOrder) (h : Selection m t n) :
    n ≤ (occurrences m t).length := by
  induction t using hm.scan_induction generalizing n with
  | nil =>
    generalize ht : ([] : Text) = t at h
    cases h with
    | zero => exact Nat.zero_le _
    | next passed hread htail =>
      obtain ⟨rfl, rfl⟩ := List.append_eq_nil_iff.mp ht.symm
      obtain ⟨read, hne, he⟩ := hm _ _ _ hread
      simp [hne] at he
  | skip c r hnone ih =>
    rw [occurrences_cons_of_none hnone]
    exact ih (h.tail_of_none hnone)
  | hit read a rest hne hsome ih =>
    rw [occurrences_of_some hsome rfl hne, List.length_cons]
    cases n with
    | zero => exact Nat.zero_le _
    | succ n => exact Nat.succ_le_succ (ih (h.rest horder hsome))

end Selection

theorem selection_occurrences {m : Matcher α} (hm : m.Consumes) (t : Text) :
    Selection m t (occurrences m t).length := by
  induction t using hm.scan_induction with
  | nil => exact .zero []
  | skip c r hnone ih =>
    rw [occurrences_cons_of_none hnone]
    exact ih.prepend [c]
  | hit read a rest hne hsome ih =>
    rw [occurrences_of_some hsome rfl hne]
    exact .next [] hsome ih

/-- A matcher that is refined by another finds at least as many occurrences in every text. -/
theorem length_occurrences_le_of_refines {m : Matcher α} {m' : Matcher β} (hm : m.Consumes)
    (hm' : m'.Consumes) (horder : m'.EndsInOrder) (hrefines : m.Refines m') (t : Text) :
    (occurrences m t).length ≤ (occurrences m' t).length :=
  ((selection_occurrences hm t).coarsen hrefines).le_length_occurrences hm' horder

end CommandBot.Text
